import Resubmit.Demo.BatchGet
import Resubmit.Demo.ThrottledPut

/-!
# The demonstration programs

The program prints the transcript of the demonstration that it is asked for.
-/

namespace Resubmit

/-- A random source from a row of bytes, four to a key word. -/
def ChaCha12.ofBytes (bytes : ByteArray) : ChaCha12 where
  key := Vector.ofFn fun i =>
    let byte (offset : Nat) : UInt32 := (bytes.toList.getD (4 * i + offset) 0).toUInt32
    byte 0 ||| (byte 1 <<< 8) ||| (byte 2 <<< 16) ||| (byte 3 <<< 24)
  drawn := 0

/-- The transcript of a demonstration. -/
def transcript? (entropy : ChaCha12) : List String → Option (List String)
  | ["batch-get"] => some (BatchGet.program entropy)
  | ["throttled-put"] => some (ThrottledPut.program entropy)
  | _ => none

end Resubmit

/-- Print the demonstration named by the argument. -/
def main (args : List String) : IO UInt32 := do
  let entropy := Resubmit.ChaCha12.ofBytes (← IO.getRandomBytes 32)
  match Resubmit.transcript? entropy args with
  | some lines =>
      for line in lines do
        IO.println line
      return 0
  | none =>
      IO.eprintln "usage: batch-get | throttled-put"
      return 1
