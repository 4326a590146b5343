namespace Resubmit

/-!
# Sources of random words

A source yields words of sixty-four bits one after the other.  Drawing from a
source gives the word and the source as it stands afterwards.
-/

/-- A kind of state from which random words are drawn. -/
class WordSource (γ : Type) where
  /-- Draw one word. -/
  next : γ → UInt64 × γ

/-- A listed sequence of words that starts over at its end, and a count of draws. -/
structure CyclicWords where
  words : List UInt64
  drawn : Nat
  deriving Repr, DecidableEq

namespace CyclicWords

/-- A listed sequence from which nothing has been drawn. -/
def ofList (words : List UInt64) : CyclicWords where
  words := words
  drawn := 0

/-- Draw the next word of the cycle; an empty list yields zeros. -/
def next (source : CyclicWords) : UInt64 × CyclicWords :=
  let position := source.drawn % source.words.length
  (source.words.getD position 0, { source with drawn := source.drawn + 1 })

instance : WordSource CyclicWords where
  next := next

end CyclicWords

end Resubmit
