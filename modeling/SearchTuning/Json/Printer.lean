import SearchTuning.Double.Text
import SearchTuning.Json.Literal
import SearchTuning.Json.Walk

/-!
# Writing documents

Values are written on one line, or with each item and each member on a line of its own.
-/

namespace SearchTuning.Json

/-- How a document is laid out. -/
structure Layout where
  /-- Whether strings are written in ASCII alone. -/
  ascii : Bool
  /-- The width of one step of indentation, if items stand on lines of their own. -/
  indent : Option Nat
  itemSeparator : Text
  keySeparator : Text

/-- One line with blanks after the separators, in ASCII. -/
def Layout.spaced : Layout := ⟨true, none, Text.ofString ", ", Text.ofString ": "⟩

/-- One line without blanks, all characters as they are. -/
def Layout.compact : Layout := ⟨false, none, Text.ofString ",", Text.ofString ":"⟩

/-- Two blanks for each level, all characters as they are. -/
def Layout.indented : Layout := ⟨false, some 2, Text.ofString ",", Text.ofString ": "⟩

/-- The words for the doubles that are not finite. -/
def doubleWords : Double.Words := ⟨Text.ofString "NaN", Text.ofString "Infinity"⟩

/-- A value without parts as it is written. -/
def scalarText : Scalar → Text
  | .null => Text.ofString "null"
  | .bool true => Text.ofString "true"
  | .bool false => Text.ofString "false"
  | .int n => Numeral.ofInt n
  | .double x => x.toText doubleWords

/-- The break before a line at a given depth. -/
def Layout.newline (layout : Layout) (depth : Nat) : Text :=
  match layout.indent with
  | none => []
  | some width => CodePoint.ofChar '\n' :: List.replicate (width * depth) (CodePoint.ofChar ' ')

mutual

/-- A value as it is written at a given depth. -/
def renderAt (layout : Layout) (depth : Nat) : Json → Text
  | .scalar s => scalarText s
  | .str s => Literal.quote layout.ascii s
  | .arr [] => Text.ofString "[]"
  | .arr (item :: items) =>
      CodePoint.ofChar '[' :: layout.newline (depth + 1) ++ renderAt layout (depth + 1) item ++
        renderItems layout (depth + 1) items ++ layout.newline depth ++ [CodePoint.ofChar ']']
  | .obj [] => [CodePoint.ofChar '{', CodePoint.ofChar '}']
  | .obj ((key, value) :: members) =>
      CodePoint.ofChar '{' :: layout.newline (depth + 1) ++ Literal.quote layout.ascii key ++
        layout.keySeparator ++ renderAt layout (depth + 1) value ++
        renderMembers layout (depth + 1) members ++ layout.newline depth ++ [CodePoint.ofChar '}']

/-- The items after the first, each after a separator. -/
def renderItems (layout : Layout) (depth : Nat) : List Json → Text
  | [] => []
  | item :: items =>
      layout.itemSeparator ++ layout.newline depth ++ renderAt layout depth item ++
        renderItems layout depth items

/-- The members after the first, each after a separator. -/
def renderMembers (layout : Layout) (depth : Nat) : List (Text × Json) → Text
  | [] => []
  | (key, value) :: members =>
      layout.itemSeparator ++ layout.newline depth ++ Literal.quote layout.ascii key ++
        layout.keySeparator ++ renderAt layout depth value ++ renderMembers layout depth members

end

/-- A value as it is written. -/
def render (layout : Layout) (v : Json) : Text := renderAt layout 0 v

/-- A value as it is printed, with indentation, if it can be. -/
def print [Platform] (v : Json) : Except Error Text := do
  Walk.printing.check Platform.printing v
  pure (render .indented v)

end SearchTuning.Json
