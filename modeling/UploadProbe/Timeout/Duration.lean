import UploadProbe.Timeout.Numeral
import UploadProbe.Timeout.Binary64

/-!
# Durations read from text

A duration is a whole number of nanoseconds, kept as seconds and the nanoseconds within one. The
text of a timeout is rounded twice: the numeral to the nearest binary64 and that to the nearest
nanosecond, ties to even both times. A negative number is refused, and so is one that is not a
number or reaches `2 ^ 64` seconds; a negative number that rounds to zero counts as zero.
-/

namespace UploadProbe

def nanosecondsPerSecond : Nat := 1000000000

/-- A length of time to the nanosecond. -/
structure Duration where
  seconds : Nat
  nanoseconds : Nat
  nanoseconds_lt : nanoseconds < 1000000000 := by omega
deriving DecidableEq, Repr

/-- Why a text is no timeout. -/
inductive TimeoutError where
  | notANumber (raw : Text)
  | negative
  /-- The number is too big, infinite, or the word for no number. -/
  | outOfRange
deriving DecidableEq, Repr

def TimeoutError.message : TimeoutError → Text
  | .notANumber raw => "`".toList ++ raw ++ "` is not a number of seconds".toList
  | .negative => "cannot convert float seconds to Duration: value is negative".toList
  | .outOfRange =>
    "cannot convert float seconds to Duration: value is either too big or NaN".toList

namespace Duration

def ofNanoseconds (total : Nat) : Duration where
  seconds := total / 1000000000
  nanoseconds := total % 1000000000
  nanoseconds_lt := Nat.mod_lt _ (by decide)

def toNanoseconds (duration : Duration) : Nat :=
  duration.seconds * nanosecondsPerSecond + duration.nanoseconds

@[simp]
theorem toNanoseconds_ofNanoseconds (total : Nat) :
    (ofNanoseconds total).toNanoseconds = total :=
  Nat.div_add_mod' total 1000000000

/-- Seconds are counted in words of this many bits. -/
def secondsBits : Nat := 64

/-- The duration nearest to a finite magnitude in seconds that is small enough. -/
def ofSeconds? (mantissa : Nat) (exponent : Int) : Option Duration :=
  let scale := Nat.pow 2 (-exponent).toNat
  let scaled := mantissa * Nat.pow 2 exponent.toNat
  if scaled < Nat.pow 2 secondsBits * scale then
    some (ofNanoseconds (roundHalfEven (scaled * nanosecondsPerSecond) scale))
  else none

/-- The duration of a number of seconds. -/
def ofNumeral : Numeral → Except TimeoutError Duration
  | .notANumber => .error .outOfRange
  | .infinite negative => .error (if negative then .negative else .outOfRange)
  | .finite negative significand exponent =>
    let magnitude := Binary64.ofDecimal significand exponent
    if negative && !magnitude.isZero then .error .negative
    else
      match magnitude with
      | .infinite => .error .outOfRange
      | .finite mantissa exponent =>
        match ofSeconds? mantissa exponent with
        | some duration => .ok duration
        | none => .error .outOfRange

/-- Reads a timeout, given in seconds. -/
def read (raw : Text) : Except TimeoutError Duration :=
  match Numeral.read? raw with
  | some numeral => ofNumeral numeral
  | none => .error (.notANumber raw)

end Duration

end UploadProbe
