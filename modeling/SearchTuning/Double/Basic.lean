import SearchTuning.Text.Basic

/-!
# Numbers of double precision

The finite magnitudes of the binary format of 64 bits, counted from zero upwards: the number of a
magnitude is its word without the sign bit.  All arithmetic is exact, on natural numbers.
-/

namespace SearchTuning

/-- The number of finite magnitudes. -/
def Double.magnitudes : Nat := 0x7FF0000000000000

/-- A number of double precision. -/
inductive Double where
  | nan
  | infinite (negative : Bool)
  /-- The magnitude with the given rank: rank 0 is zero, and each rank is the next greater
  magnitude. -/
  | finite (negative : Bool) (rank : Fin Double.magnitudes)
  deriving DecidableEq, Repr

namespace Double

/-- The number of magnitudes from one power of two up to the next. -/
def binade : Nat := Nat.pow 2 52

/-- The exponent of the power of two, from the least one upwards. -/
def scale (rank : Nat) : Nat := rank / binade - 1

/-- The factor of the power of two. -/
def significand (rank : Nat) : Nat := if rank < binade then rank else binade + rank % binade

/-- How many times the least magnitude above zero a magnitude is. -/
def steps (rank : Nat) : Nat := significand rank * Nat.pow 2 (scale rank)

/-- The denominator of the least magnitude above zero, whose numerator is one. -/
def unit : Nat := Nat.pow 2 1074

/-- The whole number nearest to a quotient; of two that are equally near, the even one. -/
def roundHalfEven (num den : Nat) : Nat :=
  let q := num / den
  let r := num % den
  if 2 * r < den ∨ (2 * r = den ∧ q % 2 = 0) then q else q + 1

/-- The rank nearest to a quotient, which is `magnitudes` or more if the quotient is too great. -/
def rankOfRatio (num den : Nat) : Nat :=
  let num := num * unit
  let shift := (num / den).log2 - 52
  shift * binade + roundHalfEven num (den * Nat.pow 2 shift)

/-- The number with a given rank; too great a rank is infinite. -/
def ofRank (negative : Bool) (rank : Nat) : Double :=
  if h : rank < magnitudes then .finite negative ⟨rank, h⟩ else .infinite negative

/-- The number nearest to a decimal `coefficient * 10 ^ exponent`.  Exponents far outside the range
are told at once, without writing the number out. -/
def ofDecimal (negative : Bool) (coefficient : Nat) (exponent : Int) : Double :=
  if coefficient = 0 ∨ coefficient.log2 + 1 + exponent < -330 then ofRank negative 0
  else if 310 < exponent then .infinite negative
  else
    match exponent with
    | .ofNat e => ofRank negative (rankOfRatio (coefficient * Nat.pow 10 e) 1)
    | .negSucc e => ofRank negative (rankOfRatio coefficient (Nat.pow 10 (e + 1)))

def isFinite : Double → Bool
  | .finite .. => true
  | _ => false

/-- The whole number that a number is, if it is one. -/
def whole? : Double → Option Int
  | .finite negative rank =>
      if steps rank.val % unit = 0 then
        let n := Int.ofNat (steps rank.val / unit)
        some (if negative then -n else n)
      else none
  | _ => none

end Double

end SearchTuning
