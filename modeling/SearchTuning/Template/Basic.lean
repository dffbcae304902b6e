import SearchTuning.Text.Word

/-!
# Templates

A template is a text with two kinds of places to fill: variables, written as a name between braces,
and marks for the search phrase.  What is between braces but is no name is plain text.
-/

namespace SearchTuning.Template

/-- A part of a template. -/
inductive Part where
  /-- A code point that stands for itself. -/
  | literal (c : CodePoint)
  /-- A name between braces. -/
  | variable (name : Text)
  deriving DecidableEq, Repr

/-- How a part is written. -/
def Part.source : Part → Text
  | .literal c => [c]
  | .variable name => CodePoint.ofChar '{' :: name ++ [CodePoint.ofChar '}']

/-- The name that a text begins with, if a closing brace follows it. -/
def name? (t : Text) : Option Text :=
  let name := t.takeWhile CodePoint.isWord
  if name ≠ [] ∧ (t.drop name.length).head? = some (CodePoint.ofChar '}') then some name else none

/-- The parts of a template after the given number of code points, which belong to a part that has
been told already. -/
def partsFrom : Nat → Text → List Part
  | _, [] => []
  | skip + 1, _ :: rest => partsFrom skip rest
  | 0, c :: rest =>
      match if c = '{' then name? rest else none with
      | some name => .variable name :: partsFrom (name.length + 1) rest
      | none => .literal c :: partsFrom 0 rest

/-- The parts of a template, from left to right. -/
def parts (template : Text) : List Part := partsFrom 0 template

/-- A part with its variable replaced, if a value is known. -/
def Part.fill (lookup : Text → Option Text) : Part → Text
  | .literal c => [c]
  | .variable name => (lookup name).getD (Part.variable name).source

/-- The template with the variables that have a value replaced by it, and all else as it is. -/
def fill (lookup : Text → Option Text) (template : Text) : Text :=
  (parts template).flatMap (Part.fill lookup)

/-- The names of the variables of a template, from left to right. -/
def names (template : Text) : List Text :=
  (parts template).filterMap fun
    | .literal _ => none
    | .variable name => some name

/-- The names that are not known, each once, in the order in which they first occur. -/
def unresolved (known : Text → Bool) (template : Text) : List Text :=
  ((names template).filter fun name => !known name).eraseDups

/-- The mark that stands for the search phrase. -/
def phraseMark : Text := Text.ofString "#$query##"

/-- The text with a phrase in the place of each mark. -/
def bindPhrase (phrase : Text) (t : Text) : Text := Text.replace phraseMark phrase t

end SearchTuning.Template
