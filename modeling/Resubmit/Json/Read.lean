import Resubmit.Json.Token

namespace Resubmit.Json

/-!
# Reading JSON

The reader takes the tokens one by one and keeps the containers that are still
open, the innermost first.  An object that has been read has its members in
ascending order of names.
-/

/-- An open container with what it holds so far, in reverse. -/
inductive Frame where
  | array (items : List Json)
  | object (members : List (String × Json))
  | member (members : List (String × Json)) (name : String)

/-- What may come next. -/
inductive Expecting where
  | value
  | valueOrClose
  | nameOrClose
  | name
  | colon
  | separator
  | nothing (result : Json)

/-- The open containers, the innermost first, and what may come next. -/
structure Reader where
  frames : List Frame
  expecting : Expecting

/-- Hand a complete value to the innermost open container. -/
def Reader.deliver (frames : List Frame) (value : Json) : Option Reader :=
  match frames with
  | [] => some ⟨[], .nothing value⟩
  | .array items :: rest => some ⟨.array (value :: items) :: rest, .separator⟩
  | .member members name :: rest =>
      some ⟨.object ((name, value) :: members) :: rest, .separator⟩
  | .object _ :: _ => none

/-- Begin a value. -/
def Reader.start (frames : List Frame) : Token → Option Reader
  | .openArray => some ⟨.array [] :: frames, .valueOrClose⟩
  | .openObject => some ⟨.object [] :: frames, .nameOrClose⟩
  | .text value => deliver frames (.text value)
  | .scalar value => deliver frames value
  | _ => none

/-- Close the innermost container. -/
def Reader.close (frames : List Frame) : Token → Option Reader
  | .closeArray =>
      match frames with
      | .array items :: rest => deliver rest (.array items.reverse)
      | _ => none
  | .closeObject =>
      match frames with
      | .object members :: rest => deliver rest (ofMembers members.reverse)
      | _ => none
  | _ => none

/-- Take the name of a member. -/
def Reader.nameMember (frames : List Frame) : Token → Option Reader
  | .text name =>
      match frames with
      | .object members :: rest => some ⟨.member members name :: rest, .colon⟩
      | _ => none
  | _ => none

/-- Read one token. -/
def Reader.read? (reader : Reader) (token : Token) : Option Reader :=
  let frames := reader.frames
  match reader.expecting with
  | .value => start frames token
  | .valueOrClose => close frames token <|> start frames token
  | .nameOrClose => close frames token <|> nameMember frames token
  | .name => nameMember frames token
  | .colon =>
      match token with
      | .colon => some ⟨frames, .value⟩
      | _ => none
  | .separator =>
      match token, frames with
      | .comma, .array _ :: _ => some ⟨frames, .value⟩
      | .comma, .object _ :: _ => some ⟨frames, .name⟩
      | _, _ => close frames token
  | .nothing _ => none

/-- The value that has been read, when it is complete. -/
def Reader.finish? (reader : Reader) : Option Json :=
  match reader.expecting with
  | .nothing value => some value
  | _ => none

/-- The value of a sequence of tokens. -/
def ofTokens? (tokens : List Token) : Option Json :=
  (tokens.foldlM Reader.read? ⟨[], .value⟩).bind Reader.finish?

/-- The value that a text denotes. -/
def read? (text : String) : Option Json :=
  (tokens? text).bind ofTokens?

end Resubmit.Json
