import SearchTuning.Text.Basic

/-!
# UTF-8

Code points as octets.  Decoding reads a sequence in which some code points stand as themselves
and the others are spelled in octets; it is strict, so overlong forms, surrogates and numbers
beyond the last code point are refused.
-/

namespace SearchTuning

/-- A number of eight bits. -/
abbrev Octet := Fin 256

namespace Utf8

/-- The octets of a code point.  A surrogate has a form too, which decoding refuses. -/
def encodePoint (c : CodePoint) : List Octet :=
  if h1 : c.val < 0x80 then [⟨c.val, by omega⟩]
  else if h2 : c.val < 0x800 then
    [⟨0xC0 + c.val / 0x40, by omega⟩, ⟨0x80 + c.val % 0x40, by omega⟩]
  else if h3 : c.val < 0x10000 then
    [⟨0xE0 + c.val / 0x1000, by omega⟩, ⟨0x80 + c.val / 0x40 % 0x40, by omega⟩,
      ⟨0x80 + c.val % 0x40, by omega⟩]
  else
    [⟨0xF0 + c.val / 0x40000, by omega⟩, ⟨0x80 + c.val / 0x1000 % 0x40, by omega⟩,
      ⟨0x80 + c.val / 0x40 % 0x40, by omega⟩, ⟨0x80 + c.val % 0x40, by omega⟩]

/-- The octets of a text. -/
def encode (t : Text) : List Octet := t.flatMap encodePoint

/-- The number of octets of a text. -/
def size (t : Text) : Nat := (encode t).length

/-- The code point that stands for an octet without meaning. -/
def replacement : CodePoint := ⟨0xFFFD, by omega⟩

/-- The text that its octets are read as when those of surrogates have no meaning: each surrogate
becomes three replacements, one for each of its octets. -/
def repair (t : Text) : Text :=
  t.flatMap fun c => if c.isSurrogate then (encodePoint c).map fun _ => replacement else [c]

/-- A place in a partly decoded text: an octet, or a code point that needs no decoding. -/
inductive Piece where
  | octet (b : Octet)
  | point (c : CodePoint)
  deriving DecidableEq, Repr

/-- Where decoding stands between two octets. -/
inductive State where
  /-- No sequence is open. -/
  | ready
  /-- A sequence is open that lacks `missing` octets more than one, has given `bits` so far, and
  may stand for code points from `least` on. -/
  | within (missing bits least : Nat)
  deriving DecidableEq, Repr

/-- The code point with a given number, unless a shorter form exists or none is allowed. -/
def point? (n least : Nat) : Option CodePoint :=
  if h : n < 0x110000 then
    if n < least ∨ CodePoint.isSurrogate ⟨n, h⟩ then none else some ⟨n, h⟩
  else none

/-- Takes one octet, and tells the code points completed by it. -/
def State.step : State → Octet → Option (Text × State)
  | .ready, b =>
      if h : b.val < 0x80 then some ([⟨b.val, by omega⟩], .ready)
      else if b.val < 0xC0 then none
      else if b.val < 0xE0 then some ([], .within 0 (b.val - 0xC0) 0x80)
      else if b.val < 0xF0 then some ([], .within 1 (b.val - 0xE0) 0x800)
      else if b.val < 0xF8 then some ([], .within 2 (b.val - 0xF0) 0x10000)
      else none
  | .within missing bits least, b =>
      if 0x80 ≤ b.val ∧ b.val < 0xC0 then
        let bits := bits * 0x40 + (b.val - 0x80)
        match missing with
        | 0 => (point? bits least).map fun c => ([c], .ready)
        | missing + 1 => some ([], .within missing bits least)
      else none

/-- Decodes from a given state on.  A code point that needs no decoding may not stand inside a
sequence, nor may the text end inside one. -/
def decodeFrom : State → List Piece → Option Text
  | .ready, [] => some []
  | .within .., [] => none
  | state, .octet b :: pieces => do
      let (done, state) ← state.step b
      let rest ← decodeFrom state pieces
      pure (done ++ rest)
  | .ready, .point c :: pieces => (decodeFrom .ready pieces).map (c :: ·)
  | .within .., .point _ :: _ => none

/-- The text that pieces stand for. -/
def decode (pieces : List Piece) : Option Text := decodeFrom .ready pieces

end Utf8

end SearchTuning
