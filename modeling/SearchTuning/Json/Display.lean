import SearchTuning.Double.Text
import SearchTuning.Json.Walk
import SearchTuning.Text.Quoted

/-!
# Values as plain text

How a value is shown where a text is wanted: a text as it is, and all else in words, with the texts
inside it between quotes.
-/

namespace SearchTuning.Json

/-- The words for the doubles that are not finite. -/
def plainWords : Double.Words := ⟨Text.ofString "nan", Text.ofString "inf"⟩

mutual

/-- A value as it is shown inside another one or inside a message. -/
def shown : Json → Text
  | .null => Text.ofString "None"
  | .bool true => Text.ofString "True"
  | .bool false => Text.ofString "False"
  | .int n => Numeral.ofInt n
  | .double x => x.toText plainWords
  | .str s => s.quoted
  | .arr [] => Text.ofString "[]"
  | .arr (item :: items) =>
      CodePoint.ofChar '[' :: shown item ++ shownItems items ++ [CodePoint.ofChar ']']
  | .obj [] => [CodePoint.ofChar '{', CodePoint.ofChar '}']
  | .obj ((key, value) :: members) =>
      CodePoint.ofChar '{' :: Text.quoted key ++ Text.ofString ": " ++ shown value ++
        shownMembers members ++ [CodePoint.ofChar '}']

/-- The items after the first, each after a comma. -/
def shownItems : List Json → Text
  | [] => []
  | item :: items => Text.ofString ", " ++ shown item ++ shownItems items

/-- The members after the first, each after a comma. -/
def shownMembers : List (Text × Json) → Text
  | [] => []
  | (key, value) :: members =>
      Text.ofString ", " ++ Text.quoted key ++ Text.ofString ": " ++ shown value ++
        shownMembers members

end

/-- The text for a value: a text is itself. -/
def plain : Json → Text
  | .str s => s
  | v => shown v

/-- A value as a text, if it can be shown.  A text always can. -/
def display [Platform] : Json → Except Error Text
  | .str s => .ok s
  | v => do
      Walk.showing.check Platform.showing v
      pure v.plain

end SearchTuning.Json
