import Resubmit.Json.Read
import Resubmit.Json.Write
import Resubmit.Policy.DecodeError

namespace Resubmit

/-!
# Policies as JSON

A policy is written as an object of its five fields.  It is read from such an
object, whose fields may come in any order and among others, or from an array of
the five values.  The first thing that is wrong is the error.  Reading checks the
form and the ranges of the values only, not the rules of `Policy.fault?`.
-/

/-! ## Scalars -/

/-- Read an integer of thirty-two bits without sign. -/
def decodeWord32 : Json → Except DecodeError UInt32
  | .int value =>
      if 0 ≤ value ∧ value < 0x100000000 then
        .ok (UInt32.ofNat value.toNat)
      else
        .error (.wrongValue (.int value) .word32)
  | other => .error (.wrongType (Found.ofJson other) .word32)

/-- Read an integer of sixty-four bits without sign. -/
def decodeWord64 : Json → Except DecodeError UInt64
  | .int value =>
      if 0 ≤ value ∧ value < 0x10000000000000000 then
        .ok (UInt64.ofNat value.toNat)
      else
        .error (.wrongValue (.int value) .word64)
  | other => .error (.wrongType (Found.ofJson other) .word64)

/-- Read a number; an integer gives the nearest floating-point number. -/
def decodeNumber : Json → Except DecodeError Float
  | .float value => .ok value
  | .int value => .ok (Float.ofInt value)
  | other => .error (.wrongType (Found.ofJson other) .number)

/-! ## Durations -/

/-- The object of a duration. -/
def Duration.encode (d : Duration) : Json :=
  .object [("secs", .int d.secs.toNat), ("nanos", .int d.nanos.toNat)]

/-- The parts of a duration that have been read so far. -/
structure DurationFields where
  secs : Option UInt64
  nanos : Option UInt32

/-- Read one member of the object of a duration. -/
def DurationFields.accept
    (fields : DurationFields)
    (member : String × Json) :
    Except DecodeError DurationFields :=
  match member.1 with
  | "secs" => return { fields with secs := some (← decodeWord64 member.2) }
  | "nanos" => return { fields with nanos := some (← decodeWord32 member.2) }
  | other => .error (.unknownDurationField other)

/-- A duration of seconds and nanoseconds, if it is in range. -/
def Duration.assemble (secs : UInt64) (nanos : UInt32) : Except DecodeError Duration :=
  match Duration.ofParts? secs nanos with
  | some d => .ok d
  | none => .error .durationOverflow

/-- The value of a field that must be there. -/
def required (name : String) : Option α → Except DecodeError α
  | some value => .ok value
  | none => .error (.missingField name)

/-- Read a duration from its object or from an array of its two parts. -/
def Duration.decode : Json → Except DecodeError Duration
  | .object members => do
      let fields ← members.foldlM DurationFields.accept ⟨none, none⟩
      let secs ← required "secs" fields.secs
      let nanos ← required "nanos" fields.nanos
      Duration.assemble secs nanos
  | .array items =>
      match items with
      | [] => .error (.durationTooShort 0)
      | first :: others => do
          let secs ← decodeWord64 first
          match others with
          | [] => .error (.durationTooShort 1)
          | second :: rest => do
              let nanos ← decodeWord32 second
              let d ← Duration.assemble secs nanos
              if rest.isEmpty then .ok d else .error (.arrayTooLong items.length)
  | other => .error (.wrongType (Found.ofJson other) .duration)

/-! ## What happens on exhaustion -/

/-- Read a choice by its name. -/
def Exhaustion.decodeName (name : String) : Except DecodeError Exhaustion :=
  match Exhaustion.ofName? name with
  | some choice => .ok choice
  | none => .error (.unknownExhaustion name)

/-- Read a choice from its name, or from an object that has the name as its only key. -/
def Exhaustion.decode : Json → Except DecodeError Exhaustion
  | .text name => Exhaustion.decodeName name
  | .object [(name, value)] => do
      let choice ← Exhaustion.decodeName name
      match value with
      | .null => .ok choice
      | other => .error (.wrongType (Found.ofJson other) .nothing)
  | .object _ => .error (.wrongValue .map .singleKey)
  | other => .error (.wrongType (Found.ofJson other) .textOrMap)

/-! ## Policies -/

namespace Policy

/-- The object of a policy. -/
def encode (p : Policy) : Json :=
  .object [
    ("max_attempts", .int p.maxAttempts.toNat),
    ("base_delay", p.base.encode),
    ("max_delay", p.max.encode),
    ("randomization_factor", .float p.jitter),
    ("on_exhaustion", .text p.exhaustion.name)
  ]

/-- The fields of a policy that have been read so far. -/
structure Fields where
  maxAttempts : Option UInt32
  base : Option Duration
  max : Option Duration
  jitter : Option Float
  exhaustion : Option Exhaustion

/-- Read one member of the object of a policy; a member of another name is passed over. -/
def Fields.accept (fields : Fields) (member : String × Json) : Except DecodeError Fields :=
  match member.1 with
  | "max_attempts" => return { fields with maxAttempts := some (← decodeWord32 member.2) }
  | "base_delay" => return { fields with base := some (← Duration.decode member.2) }
  | "max_delay" => return { fields with max := some (← Duration.decode member.2) }
  | "randomization_factor" => return { fields with jitter := some (← decodeNumber member.2) }
  | "on_exhaustion" => return { fields with exhaustion := some (← Exhaustion.decode member.2) }
  | _ => .ok fields

/-- The policy of the fields that were read; only the last field may be absent. -/
def Fields.assemble (fields : Fields) : Except DecodeError Policy := do
  let maxAttempts ← required "max_attempts" fields.maxAttempts
  let base ← required "base_delay" fields.base
  let max ← required "max_delay" fields.max
  let jitter ← required "randomization_factor" fields.jitter
  return {
    maxAttempts := maxAttempts
    base := base
    max := max
    jitter := jitter
    exhaustion := fields.exhaustion.getD .emitLast
  }

/-- The element at a position of the array of a policy, which must not end before. -/
def element (items : List Json) (position : Nat) : Except DecodeError Json :=
  match items[position]? with
  | some value => .ok value
  | none => .error (.policyTooShort position)

/-- Read a policy from its object or from an array of its values. -/
def decode : Json → Except DecodeError Policy
  | .object members => do
      let fields ← members.foldlM Fields.accept ⟨none, none, none, none, none⟩
      fields.assemble
  | .array items => do
      let maxAttempts ← decodeWord32 (← element items 0)
      let base ← Duration.decode (← element items 1)
      let max ← Duration.decode (← element items 2)
      let jitter ← decodeNumber (← element items 3)
      let exhaustion ←
        match items[4]? with
        | some value => Exhaustion.decode value
        | none => .ok .emitLast
      if 5 < items.length then
        .error (.arrayTooLong items.length)
      else
        return {
          maxAttempts := maxAttempts
          base := base
          max := max
          jitter := jitter
          exhaustion := exhaustion
        }
  | other => .error (.wrongType (Found.ofJson other) .policy)

/-- The JSON text of a policy. -/
def write (p : Policy) : String :=
  p.encode.write

/-- The policy that a JSON text denotes. -/
def read? (text : String) : Option Policy := do
  let value ← Json.read? text
  (decode value).toOption

/-- Whether reading the text of a policy gives an equal policy. -/
def survivesWriting (p : Policy) : Bool :=
  match read? p.write with
  | some q => q == p
  | none => false

end Policy

end Resubmit
