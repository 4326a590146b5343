import Resubmit.Decimal.Layout
import Resubmit.Json

namespace Resubmit.Json

/-!
# Writing JSON

Values are written without blanks, the members of an object in their own order.
-/

/-- A hexadecimal digit. -/
def hexDigit (n : Nat) : Char :=
  Nat.digitChar (n % 16)

/-- The characters with which one character of a text is written. -/
def escape (c : Char) : List Char :=
  match c with
  | '"' => ['\\', '"']
  | '\\' => ['\\', '\\']
  | '\x08' => ['\\', 'b']
  | '\x0c' => ['\\', 'f']
  | '\n' => ['\\', 'n']
  | '\r' => ['\\', 'r']
  | '\t' => ['\\', 't']
  | _ =>
      if c.toNat < 32 then
        ['\\', 'u', '0', '0', hexDigit (c.toNat / 16), hexDigit c.toNat]
      else
        [c]

/-- A text in quotes. -/
def writeText (text : String) : String :=
  String.ofList ('"' :: text.toList.flatMap escape ++ ['"'])

/-- Written parts between two marks, with commas between them. -/
def enclose (first last : String) (parts : List String) : String :=
  first ++ ",".intercalate parts ++ last

mutual

/-- The written form of a value. -/
def write : Json → String
  | .null => "null"
  | .bool value => if value then "true" else "false"
  | .int value => toString value
  | .float value => Decimal.Layout.json.write value
  | .text value => writeText value
  | .array items => enclose "[" "]" (writeItems items)
  | .object members => enclose "\x7b" "\x7d" (writeMembers members)

/-- The written forms of several values. -/
def writeItems : List Json → List String
  | [] => []
  | value :: rest => write value :: writeItems rest

/-- The written forms of several members. -/
def writeMembers : List (String × Json) → List String
  | [] => []
  | (name, value) :: rest => (writeText name ++ ":" ++ write value) :: writeMembers rest

end

end Resubmit.Json
