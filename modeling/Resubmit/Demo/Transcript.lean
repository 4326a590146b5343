namespace Resubmit.Transcript

/-!
# Transcripts that do not depend on the jitter

The delays that a demonstration prints, and the order of some of its lines, depend on
the jitter.  In the settled form of a transcript delays are left out, and lines that
stand together and are of one kind are in ascending order.
-/

/-- The kinds of lines whose order depends on the jitter. -/
inductive LineKind where
  /-- The hook tells of a retry or of giving up. -/
  | notice
  /-- The outcome of a write. -/
  | write
  /-- The outcome of a batch. -/
  | batch
  deriving Repr, DecidableEq

def occurs (text line : String) : Bool :=
  1 < (line.splitOn text).length

/-- The kind of a line, if its order depends on the jitter. -/
def kind? (line : String) : Option LineKind :=
  if line.startsWith "  key " then some .notice
  else if line.startsWith "key " then some .write
  else if occurs ": last call returned " line then some .batch
  else none

/-- The words before a delay. -/
def delayMark : String :=
  ", retrying in "

def withoutDelay (line : String) : String :=
  match line.splitOn delayMark with
  | first :: _ :: _ => first ++ delayMark ++ "_"
  | _ => line

/-- Lines of one kind in ascending order; lines of no kind stay as they are. -/
def ordered (lines : List String) : List String :=
  match lines.head?.bind kind? with
  | some _ => lines.mergeSort fun a b => decide (a ≤ b)
  | none => lines

/-- The settled form of a transcript. -/
def settled (lines : List String) : List String :=
  let masked := lines.map withoutDelay
  (masked.splitBy fun a b => kind? a == kind? b).flatMap ordered

end Resubmit.Transcript
