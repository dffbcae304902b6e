import SearchTuning.DomainName.Direction
import SearchTuning.DomainName.Joining
import SearchTuning.DomainName.Point
import SearchTuning.DomainName.Punycode
import SearchTuning.DomainName.Script
import SearchTuning.Text.Composition

/-!
# Labels

A domain name consists of labels.  A label is a word of letters, digits and hyphens of any script;
in ASCII it is written with a prefix and in Punycode if it holds other code points.
-/

namespace SearchTuning

/-- Why a label is refused. -/
inductive LabelFault where
  /-- The label as a whole is not well formed. -/
  | malformed
  /-- A code point may not stand in any label. -/
  | disallowed
  /-- A code point may not stand where it does. -/
  | misplaced
  /-- The directions of the code points do not go together. -/
  | mixedDirections
  deriving DecidableEq, Repr

namespace Label

/-- The prefix of labels in Punycode. -/
def punycodePrefix : Text := Text.ofString "xn--"

/-- The most code points of a label in ASCII. -/
def lengthLimit : Nat := 63

/-- The most code points of a name, and of a label before it is written in ASCII. -/
def nameLimit : Nat := 254

/-- Whether hyphens stand neither at an end nor in the third and the fourth place. -/
def hyphensAllowed (t : Text) : Bool :=
  (t.drop 2).take 2 ≠ Text.ofString "--" && t.head? ≠ some (CodePoint.ofChar '-') &&
    t.getLast? ≠ some (CodePoint.ofChar '-')

def isArabicIndicDigit (c : CodePoint) : Bool := 0x660 ≤ c.val && c.val ≤ 0x669

def isExtendedArabicIndicDigit (c : CodePoint) : Bool := 0x6F0 ≤ c.val && c.val ≤ 0x6F9

/-- Whether a sign may stand between two texts, of which the first is given from its end to its
beginning: a middle dot between two letters `l`, a Greek numeral sign before a Greek letter, Hebrew
punctuation behind a Hebrew letter, a Katakana middle dot beside any Japanese letter, digits of one
kind of Arabic digits not beside those of the other.  The result is `none` if the code point is no
such sign. -/
def signAllowed? (c : CodePoint) (before after : Text) : Option Bool :=
  if c.val = 0xB7 then
    some (before.head? = some (CodePoint.ofChar 'l') && after.head? = some (CodePoint.ofChar 'l'))
  else if c.val = 0x375 then some (after.head?.any CodePoint.isGreek)
  else if c.val = 0x5F3 ∨ c.val = 0x5F4 then some (before.head?.any CodePoint.isHebrew)
  else if c.val = 0x30FB then some (before.any CodePoint.isJapanese || after.any CodePoint.isJapanese)
  else if isArabicIndicDigit c then
    some (!(before.any isExtendedArabicIndicDigit || after.any isExtendedArabicIndicDigit))
  else if isExtendedArabicIndicDigit c then
    some (!(before.any isArabicIndicDigit || after.any isArabicIndicDigit))
  else none

/-- Refuses a code point that may not stand between two texts, of which the first is given from its
end to its beginning. -/
def checkPoint (c : CodePoint) (before after : Text) : Except LabelFault Unit :=
  match signAllowed? c before after with
  | some true => .ok ()
  | some false => .error .misplaced
  | none =>
      if c.isLabelPoint then .ok ()
      else if c.isJoiner || c.isNonJoiner then
        if Joining.isAllowed c before after then .ok () else .error .malformed
      else .error .disallowed

/-- Refuses the first code point that may not stand where it does behind a text, which is given from
its end to its beginning. -/
def checkPoints (before : Text) : Text → Except LabelFault Unit
  | [] => .ok ()
  | c :: rest => do
      checkPoint c before rest
      checkPoints (c :: before) rest

/-- Refuses a text that is no label. -/
def check (t : Text) : Except LabelFault Unit := do
  if t = [] ∨ nameLimit < t.length then throw .malformed
  unless t.isComposed && hyphensAllowed t && !t.head?.any CodePoint.isMark do throw .malformed
  checkPoints [] t
  match t.mapM CodePoint.direction? with
  | none => throw .mixedDirections
  | some directions => unless Direction.isAllowed directions do throw .mixedDirections

/-- The label that a text in ASCII stands for. -/
def decode (t : Text) : Except LabelFault Text := do
  let t := t.lowerAscii
  let label ←
    if punycodePrefix.isPrefixOf t then
      let code := t.drop punycodePrefix.length
      if code = [] ∨ code.getLast? = some (CodePoint.ofChar '-') then throw .malformed
      match Punycode.decode code with
      | none => throw .malformed
      | some label => pure label
    else pure t
  check label
  pure label

/-- A label as it is written in ASCII. -/
def encode (t : Text) : Except LabelFault Text := do
  let code ←
    if t.all CodePoint.isAscii then do
      let _ ← decode t
      pure t
    else do
      check t
      pure (punycodePrefix ++ Punycode.encode t)
  if lengthLimit < code.length then throw .malformed
  pure code

end Label

end SearchTuning
