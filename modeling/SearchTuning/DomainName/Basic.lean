import SearchTuning.DomainName.Label

/-!
# Domain names

A domain name is a sequence of labels between points, with a point at its end if it is absolute.  In
ASCII each label is written on its own.
-/

namespace SearchTuning.DomainName

/-- The points between labels: the point of ASCII, and those of East Asian writing. -/
def isPoint (c : CodePoint) : Bool :=
  c = '.' || c.val = 0x3002 || c.val = 0xFF0E || c.val = 0xFF61

/-- The labels of a name, and whether a point ends it. -/
def labels (t : Text) : List Text × Bool :=
  let pieces := Text.splitOn '.' (t.map fun c => if isPoint c then CodePoint.ofChar '.' else c)
  if pieces.getLast? = some [] then (pieces.dropLast, true) else (pieces, false)

/-- The name that labels make, with a point at its end if one is wanted. -/
def ofLabels (labels : List Text) (isAbsolute : Bool) : Text :=
  Text.join (Text.ofString ".") labels ++ if isAbsolute then Text.ofString "." else []

/-- A name with each label changed. -/
def mapLabels (change : Text → Except LabelFault Text) (t : Text) : Except LabelFault Text := do
  if t = [] ∨ Label.nameLimit < t.length then throw .malformed
  let (labels, isAbsolute) := labels t
  pure (ofLabels (← labels.mapM change) isAbsolute)

/-- A name as it is written in ASCII.  The point at its end does not count to its length. -/
def encode (t : Text) : Except LabelFault Text := do
  let code ← mapLabels Label.encode t
  if (if (labels t).2 then Label.nameLimit else Label.nameLimit - 1) < code.length then
    throw .malformed
  pure code

/-- The name that a text in ASCII stands for. -/
def decode (t : Text) : Except LabelFault Text := mapLabels Label.decode t

end SearchTuning.DomainName
