import SearchTuning.Text.CombiningClass
import SearchTuning.Text.Mark
import SearchTuning.Text.Printable

/-!
# Joiners

Two code points without width say how the letters beside them join.  A joiner and a non-joiner may
follow a virama; a non-joiner may also part two letters that would join.
-/

namespace SearchTuning

/-- The boundaries of the letters that join on both sides. -/
def dualJoiningBounds : List Nat := [
    0x620, 0x621, 0x626, 0x627, 0x628, 0x629, 0x62A, 0x62F, 0x633, 0x640, 0x641, 0x648, 0x649,
    0x64B, 0x66E, 0x670, 0x678, 0x688, 0x69A, 0x6C0, 0x6C1, 0x6C3, 0x6CC, 0x6CD, 0x6CE, 0x6CF,
    0x6D0, 0x6D2, 0x6FA, 0x6FD, 0x6FF, 0x700, 0x712, 0x715, 0x71A, 0x71E, 0x71F, 0x728, 0x729,
    0x72A, 0x72B, 0x72C, 0x72D, 0x72F, 0x74E, 0x759, 0x75C, 0x76B, 0x76D, 0x771, 0x772, 0x773,
    0x775, 0x778, 0x77A, 0x780, 0x7CA, 0x7EB, 0x841, 0x846, 0x848, 0x849, 0x84A, 0x854, 0x855,
    0x856, 0x860, 0x861, 0x862, 0x866, 0x868, 0x869, 0x886, 0x887, 0x889, 0x88E, 0x88F, 0x890,
    0x8A0, 0x8AA, 0x8AF, 0x8B1, 0x8B3, 0x8B9, 0x8BA, 0x8C9, 0x1807, 0x1808, 0x1820, 0x1879, 0x1887,
    0x18A9, 0x18AA, 0x18AB, 0xA840, 0xA872, 0x10AC0, 0x10AC5, 0x10AD3, 0x10AD7, 0x10AD8, 0x10ADD,
    0x10ADE, 0x10AE1, 0x10AEB, 0x10AEF, 0x10B80, 0x10B81, 0x10B82, 0x10B83, 0x10B86, 0x10B89,
    0x10B8A, 0x10B8C, 0x10B8D, 0x10B8E, 0x10B90, 0x10B91, 0x10BAD, 0x10BAF, 0x10D01, 0x10D22,
    0x10D23, 0x10D24, 0x10EC3, 0x10EC5, 0x10EC6, 0x10EC8, 0x10F30, 0x10F33, 0x10F34, 0x10F45,
    0x10F51, 0x10F54, 0x10F70, 0x10F74, 0x10F76, 0x10F82, 0x10FB0, 0x10FB1, 0x10FB2, 0x10FB4,
    0x10FB8, 0x10FB9, 0x10FBB, 0x10FBD, 0x10FBE, 0x10FC0, 0x10FC1, 0x10FC2, 0x10FC4, 0x10FC5,
    0x10FCA, 0x10FCB, 0x1E900, 0x1E944]

/-- The boundaries of the letters that join only with the one before. -/
def rightJoiningBounds : List Nat := [
    0x622, 0x626, 0x627, 0x628, 0x629, 0x62A, 0x62F, 0x633, 0x648, 0x649, 0x671, 0x674, 0x675,
    0x678, 0x688, 0x69A, 0x6C0, 0x6C1, 0x6C3, 0x6CC, 0x6CD, 0x6CE, 0x6CF, 0x6D0, 0x6D2, 0x6D4,
    0x6D5, 0x6D6, 0x6EE, 0x6F0, 0x710, 0x711, 0x715, 0x71A, 0x71E, 0x71F, 0x728, 0x729, 0x72A,
    0x72B, 0x72C, 0x72D, 0x72F, 0x730, 0x74D, 0x74E, 0x759, 0x75C, 0x76B, 0x76D, 0x771, 0x772,
    0x773, 0x775, 0x778, 0x77A, 0x840, 0x841, 0x846, 0x848, 0x849, 0x84A, 0x854, 0x855, 0x856,
    0x859, 0x867, 0x868, 0x869, 0x86B, 0x870, 0x883, 0x88E, 0x88F, 0x8AA, 0x8AD, 0x8AE, 0x8AF,
    0x8B1, 0x8B3, 0x8B9, 0x8BA, 0x10AC5, 0x10AC6, 0x10AC7, 0x10AC8, 0x10AC9, 0x10ACB, 0x10ACE,
    0x10AD3, 0x10ADD, 0x10ADE, 0x10AE1, 0x10AE2, 0x10AE4, 0x10AE5, 0x10AEF, 0x10AF0, 0x10B81,
    0x10B82, 0x10B83, 0x10B86, 0x10B89, 0x10B8A, 0x10B8C, 0x10B8D, 0x10B8E, 0x10B90, 0x10B91,
    0x10B92, 0x10BA9, 0x10BAD, 0x10D22, 0x10D23, 0x10EC2, 0x10EC3, 0x10F33, 0x10F34, 0x10F54,
    0x10F55, 0x10F74, 0x10F76, 0x10FB4, 0x10FB7, 0x10FB9, 0x10FBB, 0x10FBD, 0x10FBE, 0x10FC2,
    0x10FC4, 0x10FC9, 0x10FCA]

/-- The boundaries of the letters that join only with the one after. -/
def leftJoiningBounds : List Nat := [
    0xA872, 0xA873, 0x10ACD, 0x10ACE, 0x10AD7, 0x10AD8, 0x10D00, 0x10D01, 0x10FCB, 0x10FCC]

/-- The boundaries of the code points, nonspacing marks apart, over which letters join. -/
def transparentBounds : List Nat := [
    0xAD, 0xAE, 0x61C, 0x61D, 0x70F, 0x710, 0x897, 0x898, 0xECE, 0xECF, 0x1ACF, 0x1ADE, 0x1AE0,
    0x1AEC, 0x200B, 0x200C, 0x200E, 0x2010, 0x202A, 0x202F, 0x2060, 0x2065, 0x206A, 0x2070, 0xFEFF,
    0xFF00, 0xFFF9, 0xFFFC, 0x10D69, 0x10D6E, 0x10EFA, 0x10F00, 0x11241, 0x11242, 0x113BB, 0x113C1,
    0x113CE, 0x113CF, 0x113D0, 0x113D1, 0x113D2, 0x113D3, 0x113E1, 0x113E3, 0x11B60, 0x11B61,
    0x11B62, 0x11B65, 0x11B66, 0x11B67, 0x11F00, 0x11F02, 0x11F36, 0x11F3B, 0x11F40, 0x11F41,
    0x11F42, 0x11F43, 0x11F5A, 0x11F5B, 0x13430, 0x13441, 0x13447, 0x13456, 0x1611E, 0x1612A,
    0x1612D, 0x16130, 0x1BCA0, 0x1BCA4, 0x1D173, 0x1D17B, 0x1E08F, 0x1E090, 0x1E4EC, 0x1E4F0,
    0x1E5EE, 0x1E5F0, 0x1E6E3, 0x1E6E4, 0x1E6E6, 0x1E6E7, 0x1E6EE, 0x1E6F0, 0x1E6F5, 0x1E6F6,
    0x1E94B, 0x1E94C, 0xE0001, 0xE0002, 0xE0020, 0xE0080]

namespace CodePoint

/-- A code point over which letters join.  Of the nonspacing marks U+1171E is none. -/
def isTransparent (c : CodePoint) : Bool :=
  (c.isNonspacingMark && c.val ≠ 0x1171E) || Ranges.contains transparentBounds c.val

/-- A letter that joins with the one after it. -/
def joinsNext (c : CodePoint) : Bool :=
  Ranges.contains dualJoiningBounds c.val || Ranges.contains leftJoiningBounds c.val

/-- A letter that joins with the one before it. -/
def joinsPrevious (c : CodePoint) : Bool :=
  Ranges.contains dualJoiningBounds c.val || Ranges.contains rightJoiningBounds c.val

def isNonJoiner (c : CodePoint) : Bool := c.val = 0x200C

def isJoiner (c : CodePoint) : Bool := c.val = 0x200D

/-- A mark that takes the vowel from a letter. -/
def isVirama (c : CodePoint) : Bool := c.combiningClass = 9

end CodePoint

namespace Joining

/-- Whether the first code point over which letters do not join satisfies a condition. -/
def meets (p : CodePoint → Bool) (t : Text) : Bool :=
  match t.find? fun c => !c.isTransparent with
  | some c => p c
  | none => false

/-- Whether a joiner or a non-joiner may stand between two texts, of which the first is given from
its end to its beginning.  None may stand behind a code point that is not assigned. -/
def isAllowed (c : CodePoint) (before after : Text) : Bool :=
  match before with
  | [] => false
  | previous :: _ =>
      previous.isVirama ||
        (c.isNonJoiner && (previous.isPrintable || previous.isJoiner || previous.isNonJoiner) &&
          meets CodePoint.joinsNext before && meets CodePoint.joinsPrevious after)

end Joining

end SearchTuning
