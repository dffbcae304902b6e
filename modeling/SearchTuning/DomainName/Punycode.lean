import SearchTuning.Text.Order

/-!
# Punycode

Any text as ASCII.  Its ASCII code points come first, in their order; the others are put in one
after the other, in ascending order, and of each is written how far it lies behind the one before
it.  These distances are numbers in digits of base 36, the lowest first.  A digit below a threshold
is the last of its number, and the thresholds adapt to the size of the distances.
-/

namespace SearchTuning.Punycode

/-- A digit: a small letter, or a decimal digit from 26 on. -/
def digit (d : Fin 36) : CodePoint :=
  if d.val < 26 then ⟨0x61 + d.val, by omega⟩ else ⟨0x30 + (d.val - 26), by omega⟩

/-- The value of a digit, with letters in either case. -/
def digitValue? (c : CodePoint) : Option (Fin 36) :=
  if h : 0x61 ≤ c.val ∧ c.val ≤ 0x7A then some ⟨c.val - 0x61, by omega⟩
  else if h : 0x41 ≤ c.val ∧ c.val ≤ 0x5A then some ⟨c.val - 0x41, by omega⟩
  else if h : 0x30 ≤ c.val ∧ c.val ≤ 0x39 then some ⟨c.val - 0x30 + 26, by omega⟩
  else none

/-- The code point after which the first one is counted: the last of ASCII, plus one. -/
def firstPoint : Nat := 0x80

/-- The bias before the first number. -/
def firstBias : Nat := 72

/-- The threshold of a digit, by its place, which grows by 36 from digit to digit. -/
def threshold (bias place : Nat) : Nat :=
  if place ≤ bias then 1 else if bias + 26 ≤ place then 26 else place - bias

theorem threshold_pos (bias place : Nat) : 1 ≤ threshold bias place := by
  unfold threshold
  split
  · omega
  · split <;> omega

theorem threshold_le (bias place : Nat) : threshold bias place ≤ 26 := by
  unfold threshold
  split
  · omega
  · split <;> omega

/-- The bias that a scaled distance leads to. -/
def biasOf (distance : Nat) : Nat :=
  if 455 < distance then 36 + biasOf (distance / 35) else 36 * distance / (distance + 38)
termination_by distance
decreasing_by omega

/-- The bias after a distance that led to a text of the given length. -/
def adapt (distance length : Nat) (isFirst : Bool) : Nat :=
  let scaled := if isFirst then distance / 700 else distance / 2
  biasOf (scaled + scaled / length)

/-! ## Writing -/

/-- The digits of a number, from a place on. -/
def numberFrom (bias place n : Nat) : Text :=
  have low := threshold_pos bias place
  have high := threshold_le bias place
  if h : n < threshold bias place then [digit ⟨n, by omega⟩]
  else
    have := Nat.mod_lt (n - threshold bias place) (y := 36 - threshold bias place) (by omega)
    have := Nat.div_le_self (n - threshold bias place) (36 - threshold bias place)
    digit ⟨threshold bias place + (n - threshold bias place) % (36 - threshold bias place), by omega⟩ ::
      numberFrom bias (place + 36) ((n - threshold bias place) / (36 - threshold bias place))
termination_by n
decreasing_by omega

/-- Where writing stands. -/
structure Writer where
  /-- What has been written of the distances. -/
  digits : Text
  /-- The distance from the last code point that was put in. -/
  distance : Nat
  bias : Nat
  /-- How many code points have been put in, those of ASCII among them. -/
  done : Nat
  deriving DecidableEq, Repr

/-- Passes a code point of the text in the search for one that is to be put in. -/
def Writer.pass (basic : Nat) (wanted : CodePoint) (w : Writer) (c : CodePoint) : Writer :=
  if c < wanted then { w with distance := w.distance + 1 }
  else if c = wanted then
    { digits := w.digits ++ numberFrom w.bias 36 w.distance
      distance := 0
      bias := adapt w.distance (w.done + 1) (w.done = basic)
      done := w.done + 1 }
  else w

/-- Puts in the code points of a text that are wanted, which are ascending, and none of which is
below the given number. -/
def writeFrom (t : Text) (basic : Nat) : Nat → List CodePoint → Writer → Text
  | _, [], w => w.digits
  | least, c :: wanted, w =>
      let w := { w with distance := w.distance + (c.val - least) * (w.done + 1) }
      let w := t.foldl (Writer.pass basic c) w
      writeFrom t basic (c.val + 1) wanted { w with distance := w.distance + 1 }

/-- A text as ASCII. -/
def encode (t : Text) : Text :=
  let basic := t.filter CodePoint.isAscii
  let others := (sortBy (fun a b => a ≤ b) (t.filter fun c => !c.isAscii)).eraseDups
  basic ++ (if basic = [] then [] else [CodePoint.ofChar '-']) ++
    writeFrom t basic.length firstPoint others ⟨[], 0, firstBias, basic.length⟩

/-! ## Reading -/

/-- Where reading stands between two numbers. -/
structure Reader where
  /-- The text as far as it has been read. -/
  text : Text
  /-- The number of the code point that was put in last. -/
  point : Nat
  /-- The position behind it. -/
  position : Nat
  bias : Nat
  /-- Whether no number has been read. -/
  isFirst : Bool
  deriving DecidableEq, Repr

/-- Puts in the code point at a distance. -/
def Reader.put (r : Reader) (distance : Nat) : Option Reader :=
  let length := r.text.length + 1
  let place := r.position + distance
  let point := r.point + place / length
  if h : point < 0x110000 then
    some
      { text := r.text.take (place % length) ++ ⟨point, h⟩ :: r.text.drop (place % length)
        point := point
        position := place % length + 1
        bias := adapt distance length r.isFirst
        isFirst := false }
  else none

/-- A number that is being read. -/
structure OpenNumber where
  value : Nat
  /-- What the next digit is multiplied with. -/
  weight : Nat
  place : Nat
  deriving DecidableEq, Repr

/-- The text of digits that are read from a state on.  They may not end inside a number. -/
def readFrom (r : Reader) : Option OpenNumber → Text → Option Text
  | none, [] => some r.text
  | some _, [] => none
  | number, c :: rest => do
      let d ← digitValue? c
      let n := number.getD ⟨0, 1, 36⟩
      let value := n.value + d.val * n.weight
      let limit := threshold r.bias n.place
      if d.val < limit then readFrom (← r.put value) none rest
      else readFrom r (some ⟨value, n.weight * (36 - limit), n.place + 36⟩) rest

/-- The text that ASCII stands for: its own code points are what is before the last hyphen. -/
def decode (t : Text) : Option Text :=
  let (basic, digits) := (t.cutLast? '-').getD ([], t)
  readFrom ⟨basic, firstPoint, 0, firstBias, true⟩ none digits

end SearchTuning.Punycode
