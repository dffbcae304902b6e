import SearchTuning.Engine
import SearchTuning.Fields.Numeral

/-!
# Values of fields

What a JSON value stands for where a field of a given kind is wanted.  Texts are read as numbers and
as truth values, and numbers as truth values, where their meaning is plain.
-/

namespace SearchTuning.Coerce

def text : Json → Except Refusal Text
  | .str s => .ok s
  | _ => .error .notText

def engine : Json → Except Refusal Engine
  | .str s =>
      match Engine.ofTag? s with
      | some engine => .ok engine
      | none => .error (if s.hasSurrogate then .brokenText else .notEngine)
  | _ => .error .notEngine

/-- The words for false and for true. -/
def boolWords : List (Text × Bool) :=
  (["0", "off", "f", "false", "n", "no"].map fun w => (Text.ofString w, false)) ++
    ["1", "on", "t", "true", "y", "yes"].map fun w => (Text.ofString w, true)

/-- The least whole number of 64 bits with a sign. -/
def leastWord : Int := -0x8000000000000000

/-- The greatest whole number of 64 bits with a sign. -/
def greatestWord : Int := 0x7FFFFFFFFFFFFFFF

/-- The truth value of a whole number: zero and one alone have one, among the numbers of 64 bits. -/
def boolOfInt (n : Int) : Except Refusal Bool :=
  if n < leastWord ∨ greatestWord < n then .error .notBool
  else if n = 0 then .ok false
  else if n = 1 then .ok true
  else .error .unknownBool

def bool : Json → Except Refusal Bool
  | .bool b => .ok b
  | .int n => boolOfInt n
  | .double x =>
      match x.whole? with
      | some n => if n = leastWord then .error .notBool else boolOfInt n
      | none => .error .notBool
  | .str s =>
      match Table.get? s.lowerAscii boolWords with
      | some b => .ok b
      | none => .error (if s.hasSurrogate then .brokenText else .unknownBool)
  | _ => .error .notBool

def int : Json → Except Refusal Int
  | .bool b => .ok (if b then 1 else 0)
  | .int n => .ok n
  | .double x =>
      if x.isFinite then
        match x.whole? with
        | some n => if leastWord < n ∧ n ≤ greatestWord then .ok n else .error .intTooLarge
        | none => .error .fractionalInt
      else .error .infiniteInt
  | .str s => intOfText s
  | _ => .error .notInt

/-- A whole number that is not negative. -/
def count (v : Json) : Except Refusal Int := do
  let n ← int v
  if n < 0 then .error .tooSmall else .ok n

/-- The value, or nothing for `null`. -/
def optional {α : Type} (coerce : Json → Except Refusal α) : Json → Except Refusal (Option α)
  | .null => .ok none
  | v => (coerce v).map some

end SearchTuning.Coerce
