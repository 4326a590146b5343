import Resubmit.Text.Extending
import Resubmit.Text.Unprintable

namespace Resubmit.Text

/-!
# Texts for inspection

In a quoted text the quotes, the backslashes, the tabs, the line ends and the
zero character are written with a backslash.  Any other character that would not
be seen standing alone is written by its code, and all the rest as they are.  A
record is written as its name and its fields, and ends in two points when it has
more fields than are shown.
-/

/--
Whether a quoted text shows a character as it is.

Up to the tilde these are the blank and the characters after it, for which no
table is needed.
-/
def isShown (c : Char) : Bool :=
  if c.toNat ≤ 0x7e then
    decide (0x20 ≤ c.toNat)
  else
    !isOneOf unprintable c && !isOneOf extending c

/-- A character written by its code, in hexadecimal digits between braces. -/
def byCode (c : Char) : List Char :=
  ['\\', 'u', '\x7b'] ++ Nat.toDigits 16 c.toNat ++ ['\x7d']

/-- The characters with which one character of a quoted text is written. -/
def escape (c : Char) : List Char :=
  match c with
  | '"' => ['\\', '"']
  | '\\' => ['\\', '\\']
  | '\n' => ['\\', 'n']
  | '\r' => ['\\', 'r']
  | '\t' => ['\\', 't']
  | '\x00' => ['\\', '0']
  | _ => if isShown c then [c] else byCode c

def quoted (text : String) : String :=
  String.ofList ('"' :: text.toList.flatMap escape ++ ['"'])

/-- The entries of a record between braces. -/
def braced (name : String) (entries : List String) : String :=
  name ++ " \x7b " ++ ", ".intercalate entries ++ " \x7d"

def field (label value : String) : String :=
  label ++ ": " ++ value

/-- A record all of whose fields are shown. -/
def record (name : String) (fields : List (String × String)) : String :=
  braced name (fields.map fun (label, value) => field label value)

/-- A record that has more fields than those shown. -/
def openRecord (name : String) (fields : List (String × String)) : String :=
  braced name (fields.map (fun (label, value) => field label value) ++ [".."])

def optional (write : α → String) : Option α → String
  | none => "None"
  | some value => "Some(" ++ write value ++ ")"

def truth (value : Bool) : String :=
  if value then "true" else "false"

end Resubmit.Text
