import UploadProbe.CommandLine.Flag

/-!
# Similar names

Whoever misspells a flag is told which one is meant. Names are compared by the Jaro measure: letters
match when they are equal and not too far apart, and matches in a different order count half. The
measure is kept as a quotient of natural numbers, and a name has to reach more than seven tenths.
-/

namespace UploadProbe

/-- A measure of likeness between zero and one, as a quotient. -/
structure Similarity where
  numerator : Nat
  denominator : Nat
deriving DecidableEq, Repr

namespace Similarity

def less (left right : Similarity) : Bool :=
  left.numerator * right.denominator < right.numerator * left.denominator

/-- What a name has to exceed to be suggested. -/
def threshold : Similarity := ⟨7, 10⟩

/-- Marks the first free place, at or past the least one and before the bound, that holds a
letter. -/
def claim? (letter : Char) (least : Nat) : (bound : Nat) → List (Char × Bool) →
    Option (List (Char × Bool))
  | _, [] => none
  | 0, _ => none
  | bound + 1, (other, taken) :: places =>
    if least = 0 && letter = other && !taken then some ((other, true) :: places)
    else (claim? letter (least - 1) bound places).map ((other, taken) :: ·)

/-- The letters of a text that match a place at most `reach` in front of them or behind them, and
the places with the matched ones marked. -/
def matchLetters (reach : Nat) : (index : Nat) → Text → List (Char × Bool) →
    Text × List (Char × Bool)
  | _, [], places => ([], places)
  | index, letter :: rest, places =>
    match claim? letter (index - reach) (index + reach + 1) places with
    | some places =>
      let (matched, places) := matchLetters reach (index + 1) rest places
      (letter :: matched, places)
    | none => matchLetters reach (index + 1) rest places

/-- The Jaro measure of two texts. -/
def ofTexts (left right : Text) : Similarity :=
  if left.isEmpty && right.isEmpty then ⟨1, 1⟩
  else
    let reach := max left.length right.length / 2 - 1
    let (matchedLeft, places) := matchLetters reach 0 left (right.map (·, false))
    let matchedRight := (places.filter (·.2)).map (·.1)
    let count := matchedLeft.length
    if count = 0 then ⟨0, 1⟩
    else
      let moved := (List.zipWith (· != ·) matchedLeft matchedRight).count true / 2
      ⟨count * count * right.length + count * count * left.length +
          (count - moved) * left.length * right.length,
        3 * left.length * right.length * count⟩

end Similarity

/-- The flag whose name is most like a text, if one is like enough; of equals the last. -/
def Flag.mostSimilar? (text : Text) : Option Flag :=
  let candidates := (Flag.all.map fun flag => (flag, Similarity.ofTexts text flag.name)).filter
    fun candidate => Similarity.threshold.less candidate.2
  (candidates.foldl (fun best candidate =>
    match best with
    | none => some candidate
    | some (flag, similarity) =>
      if candidate.2.less similarity then some (flag, similarity) else some candidate) none).map
    (·.1)

end UploadProbe
