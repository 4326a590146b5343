import Resubmit.Json.Number

namespace Resubmit.Json

/-!
# JSON tokens

A text is cut into tokens by a scanner that takes one character at a time.  What
the scanner has to remember between two characters is its `Mode`.
-/

/-- A token: a mark of the structure, a text, or another scalar. -/
inductive Token where
  | openArray
  | closeArray
  | openObject
  | closeObject
  | colon
  | comma
  | text (value : String)
  | scalar (value : Json)

/-- A word or number outside quotes. -/
def ofBareWord? (word : List Char) : Option Json :=
  if word = "null".toList then some .null
  else if word = "true".toList then some (.bool true)
  else if word = "false".toList then some (.bool false)
  else ofNumberLiteral? word

/-! ## The scanner -/

/-- Where the scanner stands; characters collected so far are in reverse. -/
inductive Mode where
  | between
  | bareWord (collected : List Char)
  | quoted (collected : List Char)
  | escape (collected : List Char)
  | codeUnit (collected : List Char) (high : Option Nat) (missing value : Nat)
  | lowEscape (collected : List Char) (high : Nat)
  | lowMark (collected : List Char) (high : Nat)

/-- The tokens found so far, in reverse, and the mode. -/
structure Scanner where
  found : List Token
  mode : Mode

/-- The characters that stand for themselves after a backslash or name another. -/
def escaped? (c : Char) : Option Char :=
  match c with
  | '"' => some '"'
  | '\\' => some '\\'
  | '/' => some '/'
  | 'b' => some '\x08'
  | 'f' => some '\x0c'
  | 'n' => some '\n'
  | 'r' => some '\r'
  | 't' => some '\t'
  | _ => none

/-- The value of a hexadecimal digit. -/
def hexValue? (c : Char) : Option Nat :=
  if '0' ≤ c ∧ c ≤ '9' then some (c.toNat - 48)
  else if 'a' ≤ c ∧ c ≤ 'f' then some (c.toNat - 87)
  else if 'A' ≤ c ∧ c ≤ 'F' then some (c.toNat - 55)
  else none

/-- Blanks between tokens. -/
def isBlank (c : Char) : Bool :=
  c = ' ' || c = '\n' || c = '\t' || c = '\r'

/-- The token that one character is. -/
def punctuation? (c : Char) : Option Token :=
  match c with
  | '[' => some .openArray
  | ']' => some .closeArray
  | '\x7b' => some .openObject
  | '\x7d' => some .closeObject
  | ':' => some .colon
  | ',' => some .comma
  | _ => none

/-- Read a character between tokens. -/
def scanBetween (found : List Token) (c : Char) : Scanner :=
  if isBlank c then ⟨found, .between⟩
  else if c = '"' then ⟨found, .quoted []⟩
  else match punctuation? c with
    | some token => ⟨token :: found, .between⟩
    | none => ⟨found, .bareWord [c]⟩

/-- End a bare word. -/
def finishWord? (found : List Token) (collected : List Char) : Option (List Token) :=
  (ofBareWord? collected.reverse).map fun value => .scalar value :: found

/-- Take in a complete code unit of a text. -/
def acceptCodeUnit? (collected : List Char) (high : Option Nat) (unit : Nat) : Option Mode :=
  match high with
  | none =>
      if 0xD800 ≤ unit ∧ unit < 0xDC00 then some (.lowEscape collected unit)
      else if 0xDC00 ≤ unit ∧ unit < 0xE000 then none
      else some (.quoted (Char.ofNat unit :: collected))
  | some first =>
      if 0xDC00 ≤ unit ∧ unit < 0xE000 then
        let code := 0x10000 + (first - 0xD800) * 0x400 + (unit - 0xDC00)
        some (.quoted (Char.ofNat code :: collected))
      else
        none

/-- Read one character. -/
def Scanner.scan? (scanner : Scanner) (c : Char) : Option Scanner :=
  let found := scanner.found
  match scanner.mode with
  | .between => some (scanBetween found c)
  | .bareWord collected =>
      if isBlank c || (punctuation? c).isSome then
        (finishWord? found collected).map fun ended => scanBetween ended c
      else
        some ⟨found, .bareWord (c :: collected)⟩
  | .quoted collected =>
      if c = '"' then some ⟨.text (String.ofList collected.reverse) :: found, .between⟩
      else if c = '\\' then some ⟨found, .escape collected⟩
      else if c.toNat < 32 then none
      else some ⟨found, .quoted (c :: collected)⟩
  | .escape collected =>
      if c = 'u' then
        some ⟨found, .codeUnit collected none 4 0⟩
      else
        (escaped? c).map fun meant => ⟨found, .quoted (meant :: collected)⟩
  | .codeUnit collected high missing value => do
      let digit ← hexValue? c
      let unit := 16 * value + digit
      if missing ≤ 1 then
        let mode ← acceptCodeUnit? collected high unit
        some ⟨found, mode⟩
      else
        some ⟨found, .codeUnit collected high (missing - 1) unit⟩
  | .lowEscape collected high =>
      if c = '\\' then some ⟨found, .lowMark collected high⟩ else none
  | .lowMark collected high =>
      if c = 'u' then some ⟨found, .codeUnit collected (some high) 4 0⟩ else none

/-- The tokens of a text that ends here. -/
def Scanner.finish? (scanner : Scanner) : Option (List Token) :=
  match scanner.mode with
  | .between => some scanner.found.reverse
  | .bareWord collected => (finishWord? scanner.found collected).map List.reverse
  | _ => none

/-- Cut a text into tokens. -/
def tokens? (text : String) : Option (List Token) :=
  (text.toList.foldlM Scanner.scan? ⟨[], .between⟩).bind Scanner.finish?

end Resubmit.Json
