import Mathlib.Data.List.Find
import SearchTuning.Proofs.Template.Places
import SearchTuning.Proofs.Template.Values

/-!
# Filling, position by position

What a code point of a template comes to depends on the variables that are written around it and on
nothing before or behind them.  So a filled template is described position by position, without a
scan: a variable with a value comes to the value where its opening brace stands and to nothing
behind it, and every other code point comes to itself.  From this description follow the two laws of
locality: a template may be filled piece by piece, and only the variables written in it count.
-/

namespace SearchTuning

namespace Template

/-- The variable with a value that is written from a position on, and the value. -/
def replacedAt? (m : VariableMap) (t : Text) (i : Nat) : Option (Text × Text) :=
  m.find? fun entry => VariableAt t i entry.1

/-- The position lies behind the opening brace of a variable with a value, up to its closing one. -/
def Inside (m : VariableMap) (t : Text) (i : Nat) : Prop :=
  ∃ entry ∈ m, ∃ start < i, VariableAt t start entry.1 ∧ i < start + entry.1.length + 2

instance (m : VariableMap) (t : Text) (i : Nat) : Decidable (Inside m t i) :=
  inferInstanceAs (Decidable (∃ entry ∈ m, _))

/-- What the code point at a position comes to. -/
def filledAt (m : VariableMap) (t : Text) (i : Nat) : Text :=
  match replacedAt? m t i with
  | some (_, value) => value
  | none => if Inside m t i then [] else t[i]?.toList

/-- A template, filled position by position. -/
def filledPlaces (m : VariableMap) (t : Text) : Text :=
  (List.range t.length).flatMap (filledAt m t)

variable {m : VariableMap} {a b t : Text} {i : Nat}

/-- A variable that is written is replaced just when it has a value. -/
theorem VariableAt.replacedAt? {name : Text} (written : VariableAt t i name) :
    replacedAt? m t i = (m.lookup name).map (name, ·) := by
  refine (List.find?_congr fun entry _ => decide_eq_decide.mpr ?_).trans (Table.find?_key name m)
  exact ⟨fun there => there.unique written, fun same => same ▸ written⟩

theorem replacedAt?_eq_some_iff {name value : Text} :
    replacedAt? m t i = some (name, value) ↔ VariableAt t i name ∧ m.lookup name = some value := by
  constructor
  · intro found
    have chosen := List.find?_some found
    have written : VariableAt t i name := of_decide_eq_true chosen
    rw [written.replacedAt?] at found
    obtain ⟨_, known, same⟩ := Option.map_eq_some_iff.mp found
    cases same
    exact ⟨written, known⟩
  · rintro ⟨written, known⟩
    rw [written.replacedAt?, known, Option.map_some]

/-! ## Cutting between two variables -/

theorem filledAt_congr {s : Text} {j : Nat}
    (same : ∀ entry ∈ m, (VariableAt t i entry.1 ↔ VariableAt s j entry.1))
    (inside : Inside m t i ↔ Inside m s j) (point : t[i]? = s[j]?) :
    filledAt m t i = filledAt m s j := by
  have found : replacedAt? m t i = replacedAt? m s j :=
    List.find?_congr fun entry member => decide_eq_decide.mpr (same entry member)
  rw [filledAt, filledAt, found, point]
  simp only [inside]

/-- Behind a cut that lies in no variable with a value, every code point comes to what it comes to
alone. -/
theorem filledAt_append_right (whole : ¬ Inside m (a ++ b) a.length) (j : Nat) :
    filledAt m (a ++ b) (a.length + j) = filledAt m b j := by
  refine filledAt_congr (fun entry _ => variableAt_append_right) ⟨?_, ?_⟩ ?_
  · rintro ⟨entry, member, start, before, written, behind⟩
    have beyond : a.length ≤ start := by
      apply Nat.le_of_not_lt
      intro front
      exact whole ⟨entry, member, start, front, written, by omega⟩
    obtain ⟨k, rfl⟩ := Nat.exists_eq_add_of_le beyond
    exact ⟨entry, member, k, by omega, variableAt_append_right.mp written, by omega⟩
  · rintro ⟨entry, member, start, before, written, behind⟩
    exact ⟨entry, member, a.length + start, by omega, variableAt_append_right.mpr written, by omega⟩
  · rw [List.getElem?_append_right (Nat.le_add_right _ _), Nat.add_sub_cancel_left]

/-- Before a cut that lies in no variable with a value, the variables are those of the front. -/
theorem variableAt_append_left (whole : ¬ Inside m (a ++ b) a.length) {entry : Text × Text}
    (member : entry ∈ m) (front : i < a.length) :
    VariableAt (a ++ b) i entry.1 ↔ VariableAt a i entry.1 := by
  have split : (a ++ b).drop i = a.drop i ++ b := List.drop_append_of_le_length (Nat.le_of_lt front)
  constructor
  · intro written
    have ends : i + entry.1.length + 2 ≤ a.length := by
      apply Nat.le_of_not_lt
      intro behind
      exact whole ⟨entry, member, i, front, written, behind⟩
    have first := written.2
    rw [split] at first
    refine ⟨written.1, List.prefix_of_prefix_length_le first (List.prefix_append _ _) ?_⟩
    rw [length_source, List.length_drop]
    omega
  · rintro ⟨named, first⟩
    exact ⟨named, split ▸ first.trans (List.prefix_append _ _)⟩

theorem filledAt_append_left (whole : ¬ Inside m (a ++ b) a.length) (front : i < a.length) :
    filledAt m (a ++ b) i = filledAt m a i := by
  have same {start : Nat} (before : start ≤ i) {entry : Text × Text} (member : entry ∈ m) :=
    variableAt_append_left whole member (Nat.lt_of_le_of_lt before front)
  refine filledAt_congr (fun entry member => same (Nat.le_refl i) member) ⟨?_, ?_⟩
    (List.getElem?_append_left front)
  · rintro ⟨entry, member, start, before, written, behind⟩
    exact ⟨entry, member, start, before, (same (Nat.le_of_lt before) member).mp written, behind⟩
  · rintro ⟨entry, member, start, before, written, behind⟩
    exact ⟨entry, member, start, before, (same (Nat.le_of_lt before) member).mpr written, behind⟩

theorem filledPlaces_append (whole : ¬ Inside m (a ++ b) a.length) :
    filledPlaces m (a ++ b) = filledPlaces m a ++ filledPlaces m b := by
  rw [filledPlaces, List.length_append, List.range_add, List.flatMap_append, List.flatMap_map]
  congr 1
  · exact List.flatMap_congr fun i member =>
      filledAt_append_left whole (List.mem_range.mp member)
  · exact List.flatMap_congr fun j _ => filledAt_append_right whole j

/-! ## One variable, one code point -/

theorem flatMap_getElem? (l : Text) :
    (List.range l.length).flatMap (fun i => l[i]?.toList) = l := by
  induction l with
  | nil => rfl
  | cons c l ih =>
    rw [List.length_cons, List.range_succ_eq_map, List.flatMap_cons, List.flatMap_map]
    exact congrArg (c :: ·) ih

/-- Where no variable with a value is written, a code point comes to nothing inside of one, and to
itself outside. -/
theorem filledAt_of_absent (absent : ∀ entry ∈ m, ¬ VariableAt t i entry.1) :
    filledAt m t i = if Inside m t i then [] else t[i]?.toList := by
  have none : replacedAt? m t i = none :=
    List.find?_eq_none.mpr fun entry member => by simpa using absent entry member
  rw [filledAt, none]

theorem not_inside_of_absent (absent : ∀ entry ∈ m, ∀ start, ¬ VariableAt t start entry.1) :
    ¬ Inside m t i := by
  rintro ⟨entry, member, start, -, written, -⟩
  exact absent entry member start written

theorem filledPlaces_of_absent (absent : ∀ entry ∈ m, ∀ start, ¬ VariableAt t start entry.1) :
    filledPlaces m t = t := by
  refine (List.flatMap_congr fun i _ => ?_).trans (flatMap_getElem? t)
  rw [filledAt_of_absent fun entry member => absent entry member i,
    if_neg (not_inside_of_absent absent)]

/-- A variable that is all of a text is written at its beginning and nowhere else. -/
theorem variableAt_source {name other : Text} {j : Nat} (named : IsName name) :
    VariableAt (Part.variable name).source j other ↔ j = 0 ∧ other = name := by
  rw [← List.append_nil (Part.variable name).source, variableAt_source_append named]
  refine ⟨?_, .inl⟩
  rintro (here | ⟨k, -, there⟩)
  · exact here
  · exact absurd there (not_variableAt_nil k other)

theorem filledPlaces_source {name : Text} (named : IsName name) :
    filledPlaces m (Part.variable name).source =
      (m.lookup name).getD (Part.variable name).source := by
  cases known : m.lookup name with
  | none =>
    apply filledPlaces_of_absent
    intro entry member start written
    obtain ⟨-, rfl⟩ := (variableAt_source named).mp written
    have missing : Table.has entry.1 m = false := by
      rw [Table.has, show Table.get? entry.1 m = none from known]
      rfl
    exact Table.not_mem_keys_of_has missing (List.mem_map_of_mem member)
  | some value =>
    have member : (name, value) ∈ m := Table.mem_of_get? known
    have here : VariableAt (Part.variable name).source 0 name :=
      (variableAt_source named).mpr ⟨rfl, rfl⟩
    have start : filledAt m (Part.variable name).source 0 = value := by
      rw [filledAt, here.replacedAt?, known, Option.map_some]
    have behind : ∀ i < name.length + 1, filledAt m (Part.variable name).source (i + 1) = [] := by
      intro i short
      have inside : Inside m (Part.variable name).source (i + 1) :=
        ⟨(name, value), member, 0, Nat.succ_pos i, here, by simpa using short⟩
      rw [filledAt_of_absent, if_pos inside]
      intro entry _ there
      exact Nat.succ_ne_zero i ((variableAt_source named).mp there).1
    rw [filledPlaces, length_source, List.range_succ_eq_map, List.flatMap_cons, List.flatMap_map,
      start, Option.getD_some]
    refine (congrArg (value ++ ·) (List.flatMap_eq_nil_iff.mpr fun i member => ?_)).trans
      (List.append_nil value)
    exact behind i (List.mem_range.mp member)

/-! ## The scan fills position by position -/

theorem fill_eq_filledPlaces (m : VariableMap) (t : Text) : fill m.lookup t = filledPlaces m t := by
  induction t using variableInduction with
  | nil => rfl
  | written name rest named ih =>
    have whole :
        ¬ Inside m ((Part.variable name).source ++ rest) (Part.variable name).source.length := by
      rintro ⟨entry, -, start, before, written, behind⟩
      rw [length_source] at before behind
      rcases (variableAt_source_append named).mp written with ⟨rfl, same⟩ | ⟨k, rfl, -⟩
      · rw [same] at behind
        omega
      · omega
    rw [fill_source_append named, filledPlaces_append whole, filledPlaces_source named, ih]
  | literal c rest absent ih =>
    have alone : filledPlaces m [c] = [c] := by
      apply filledPlaces_of_absent
      rintro entry - start ⟨-, front⟩
      have short := front.length_le
      rw [length_source, List.length_drop, List.length_singleton] at short
      omega
    have whole : ¬ Inside m ([c] ++ rest) [c].length := by
      rintro ⟨entry, -, start, before, written, -⟩
      rw [List.length_singleton, Nat.lt_one_iff] at before
      exact absent entry.1 (before ▸ written)
    have split := filledPlaces_append whole
    rw [alone] at split
    rw [fill_cons absent, ih]
    exact split.symm

/-- A template is filled piece by piece, where no cut lies in a variable with a value. -/
theorem fill_append (whole : ¬ Inside m (a ++ b) a.length) :
    fill m.lookup (a ++ b) = fill m.lookup a ++ fill m.lookup b := by
  simp only [fill_eq_filledPlaces, filledPlaces_append whole]

/-- Only the variables that are written in a template count. -/
theorem fill_congr {lookup other : Text → Option Text}
    (agree : ∀ i name, VariableAt t i name → lookup name = other name) :
    fill lookup t = fill other t := by
  induction t using variableInduction with
  | nil => rfl
  | written name rest named ih =>
    have here := agree 0 name ((variableAt_source_append named).mpr (.inl ⟨rfl, rfl⟩))
    have later : fill lookup rest = fill other rest := ih fun i name there =>
      agree _ name ((variableAt_source_append named).mpr (.inr ⟨i, rfl, there⟩))
    rw [fill_source_append named, fill_source_append named, here, later]
  | literal c rest absent ih =>
    have later : fill lookup rest = fill other rest := ih fun i name there =>
      agree _ name ((variableAt_cons absent).mpr ⟨i, rfl, there⟩)
    rw [fill_cons absent, fill_cons absent, later]

end Template

namespace Args

open Template

/-- Without a phrase, a variable is replaced exactly where its opening brace, a name with a value
and its closing brace are written, and all else is kept in its place.  So a template is filled piece
by piece where no cut lies in a variable with a value, and two maps that agree on the names written
in it fill it alike and give it the same args. -/
theorem variables_filled_in_place [Platform] (escape : Text → Text) (m : VariableMap) (t : Text) :
    (∀ i name, FoundAt t i name ↔ VariableAt t i name) ∧
    (∀ i name value, replacedAt? m t i = some (name, value) ↔
      VariableAt t i name ∧ m.lookup name = some value) ∧
    substituteWith escape none m.bindings t = .ok (filledPlaces m t) ∧
    (∀ a b, t = a ++ b → ¬ Inside m t a.length → ∃ front back,
      substituteWith escape none m.bindings a = .ok front ∧
      substituteWith escape none m.bindings b = .ok back ∧
      substituteWith escape none m.bindings t = .ok (front ++ back)) ∧
    ∀ other : VariableMap, (∀ i name, VariableAt t i name → m.lookup name = other.lookup name) →
      (∀ phrase, substituteWith escape phrase m.bindings t =
        substituteWith escape phrase other.bindings t) ∧
      ∀ tag escapeQuery phrase, compileFor tag escapeQuery phrase m.bindings t =
        compileFor tag escapeQuery phrase other.bindings t := by
  refine ⟨foundAt_iff t, fun _ _ _ => replacedAt?_eq_some_iff, ?_, ?_, ?_⟩
  · rw [substituteWith_bindings, substitute, fill_eq_filledPlaces]
  · rintro a b rfl whole
    refine ⟨fill m.lookup a, fill m.lookup b, ?_, ?_, ?_⟩
    · rw [substituteWith_bindings, substitute]
    · rw [substituteWith_bindings, substitute]
    · rw [substituteWith_bindings, substitute, fill_append whole]
  · intro other agree
    have filled {escape : Text → Text} {phrase : Option Text} :
        substitute escape phrase m.lookup t = substitute escape phrase other.lookup t := by
      simp only [substitute, fill_congr agree]
    refine ⟨fun phrase => ?_, fun tag escapeQuery phrase => ?_⟩
    · rw [substituteWith_bindings, substituteWith_bindings, filled]
    · simp only [compileFor_bindings, compile, filled]

/-- A template of braces around variables, cut behind the first of them; and a map that has a value
for a name more, which is not written. -/
theorem variables_filled_in_place_nested :
    letI := Platform.usual
    (∃ front back,
      substituteWith id none (VariableMap.bindings [(['a'], Text.ofString "{b}"), (['b'], [])])
        ('{' :: Text.ofString "{a}") = .ok front ∧
      substituteWith id none (VariableMap.bindings [(['a'], Text.ofString "{b}"), (['b'], [])])
        (Text.ofString "{c}{b}" ++ [CodePoint.ofChar '}']) = .ok back ∧
      substituteWith id none (VariableMap.bindings [(['a'], Text.ofString "{b}"), (['b'], [])])
        (Text.ofString "{{a}{c}{b}}") = .ok (front ++ back)) ∧
    compileFor (Text.ofString "es") true none
        (VariableMap.bindings [(['a'], Text.ofString "{b}"), (['b'], [])])
        (Text.ofString "{{a}{c}{b}}") =
      compileFor (Text.ofString "es") true none
        (VariableMap.bindings [(['d'], ['1']), (['b'], []), (['a'], Text.ofString "{b}")])
        (Text.ofString "{{a}{c}{b}}") := by
  let _ := Platform.usual
  obtain ⟨-, -, -, cut, agree⟩ := variables_filled_in_place id
    [(['a'], Text.ofString "{b}"), (['b'], [])] (Text.ofString "{{a}{c}{b}}")
  refine ⟨cut _ _ rfl (by decide +kernel), (agree _ ?_).2 _ _ _⟩
  intro i name written
  have all : ∀ name ∈ names (Text.ofString "{{a}{c}{b}}"),
      VariableMap.lookup [(['a'], Text.ofString "{b}"), (['b'], [])] name =
        VariableMap.lookup [(['d'], ['1']), (['b'], []), (['a'], Text.ofString "{b}")] name := by
    decide
  exact all name (mem_names_iff.mpr ⟨i, written⟩)

end Args

end SearchTuning
