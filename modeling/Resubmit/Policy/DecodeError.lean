import Resubmit.Json
import Resubmit.Policy

namespace Resubmit

/-!
# What can be wrong with the JSON of a policy

An error says what was found and what had to be there.  Its message names both.
-/

/-- A value as an error message describes it. -/
inductive Found where
  | null
  | bool (value : Bool)
  | int (value : Int)
  | float (value : Float)
  | text (value : String)
  | sequence
  | map

namespace Found

/-- The description of a JSON value. -/
def ofJson : Json → Found
  | .null => .null
  | .bool value => .bool value
  | .int value => .int value
  | .float value => .float value
  | .text value => .text value
  | .array _ => .sequence
  | .object _ => .map

/-- The words of a description. -/
def words : Found → String
  | .null => "null"
  | .bool value => "boolean `" ++ Text.truth value ++ "`"
  | .int value => "integer `" ++ toString value ++ "`"
  | .float value => "floating point `" ++ Decimal.Layout.json.write value ++ "`"
  | .text value => "string " ++ Text.quoted value
  | .sequence => "sequence"
  | .map => "map"

end Found

/-- What a reader had to find. -/
inductive Expectation where
  | policy
  | duration
  | word32
  | word64
  | number
  | nothing
  | textOrMap
  | singleKey
  deriving Repr, DecidableEq

/-- The words for what had to be found. -/
def Expectation.words : Expectation → String
  | .policy => "struct RetryPolicy"
  | .duration => "struct Duration"
  | .word32 => "u32"
  | .word64 => "u64"
  | .number => "f64"
  | .nothing => "unit"
  | .textOrMap => "string or map"
  | .singleKey => "map with a single key"

/-- What is wrong with a JSON value. -/
inductive DecodeError where
  | wrongType (found : Found) (expected : Expectation)
  | wrongValue (found : Found) (expected : Expectation)
  | missingField (name : String)
  | unknownDurationField (name : String)
  | unknownExhaustion (name : String)
  | policyTooShort (length : Nat)
  | durationTooShort (length : Nat)
  | arrayTooLong (length : Nat)
  | durationOverflow

/-- The message of a decoding error. -/
def DecodeError.message : DecodeError → String
  | .wrongType found expected => "invalid type: " ++ found.words ++ ", expected " ++ expected.words
  | .wrongValue found expected => "invalid value: " ++ found.words ++ ", expected " ++ expected.words
  | .missingField name => "missing field `" ++ name ++ "`"
  | .unknownDurationField name =>
      "unknown field `" ++ name ++ "`, expected `secs` or `nanos`"
  | .unknownExhaustion name =>
      "unknown variant `" ++ name ++ "`, expected `EmitLast` or `Fail`"
  | .policyTooShort length =>
      "invalid length " ++ toString length ++ ", expected struct RetryPolicy with 5 elements"
  | .durationTooShort length =>
      "invalid length " ++ toString length ++ ", expected struct Duration"
  | .arrayTooLong length =>
      "invalid length " ++ toString length ++ ", expected fewer elements in array"
  | .durationOverflow => "overflow deserializing Duration"

end Resubmit
