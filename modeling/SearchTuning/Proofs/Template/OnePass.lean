import SearchTuning.Proofs.Template.Phrase
import SearchTuning.Proofs.Template.Places
import SearchTuning.Proofs.Template.Values

/-!
# One pass and two

A template holds code points, variables and marks for the phrase.  In one pass over it, each
variable with a value comes to the value, each mark to the phrase, and all else stays.  The template
is filled in two passes, though, of which the second looks for marks in what the first has left.
The two come to the same for every phrase exactly if the marks of the filled template are the
template's own: then no value holds a mark, completes one, or takes a part of one.
-/

namespace SearchTuning

namespace Template

open Occurrences

/-! ## The tokens of a template -/

/-- A token of a template: a part, or a mark for the phrase. -/
inductive Token where
  | part (p : Part)
  | mark
  deriving DecidableEq, Repr

/-- The tokens of a template after the given number of code points, which belong to a token that has
been told already. -/
def tokensFrom : Nat → Text → List Token
  | _, [] => []
  | skip + 1, _ :: rest => tokensFrom skip rest
  | 0, c :: rest =>
      if phraseMark <+: c :: rest then .mark :: tokensFrom (phraseMark.length - 1) rest
      else
        match if c = '{' then name? rest else none with
        | some name => .part (.variable name) :: tokensFrom (name.length + 1) rest
        | none => .part (.literal c) :: tokensFrom 0 rest

/-- The tokens of a template, from left to right. -/
def tokens (template : Text) : List Token := tokensFrom 0 template

/-- A token with its variable replaced, if a value is known, or with the phrase in its place. -/
def Token.fill (lookup : Text → Option Text) (phrase : Text) : Token → Text
  | .part p => p.fill lookup
  | .mark => phrase

/-- The template with its variables and its marks replaced in one pass. -/
def onePass (lookup : Text → Option Text) (phrase template : Text) : Text :=
  (tokens template).flatMap (Token.fill lookup phrase)

variable {lookup : Text → Option Text} {phrase t : Text}

theorem tokensFrom_append (passed rest : Text) :
    tokensFrom passed.length (passed ++ rest) = tokens rest := by
  induction passed with
  | nil => rfl
  | cons c passed ih => exact ih

theorem tokens_mark_append (rest : Text) : tokens (phraseMark ++ rest) = .mark :: tokens rest := by
  have passed := tokensFrom_append phraseMark.tail rest
  rw [List.length_tail] at passed
  have front : phraseMark ++ rest = CodePoint.ofChar '#' :: (phraseMark.tail ++ rest) := rfl
  have begins : phraseMark <+: CodePoint.ofChar '#' :: (phraseMark.tail ++ rest) :=
    List.prefix_append phraseMark rest
  rw [front, tokens, tokensFrom, if_pos begins, passed]

theorem tokens_source_append {name : Text} (named : IsName name) (rest : Text) :
    tokens ((Part.variable name).source ++ rest) = .part (.variable name) :: tokens rest := by
  have passed := tokensFrom_append (name ++ [CodePoint.ofChar '}']) rest
  rw [List.length_append, List.length_singleton, List.append_assoc, List.singleton_append] at passed
  have other : ¬ phraseMark <+: CodePoint.ofChar '{' :: (name ++ CodePoint.ofChar '}' :: rest) := by
    intro begins
    exact absurd (List.cons_prefix_cons.mp begins).1 (by decide)
  rw [source_append, tokens, tokensFrom, if_neg other, if_pos rfl, name?_append named, ← passed]

theorem tokens_cons {c : CodePoint} {rest : Text} (unmarked : ¬ phraseMark <+: c :: rest)
    (absent : ∀ name, ¬ VariableAt (c :: rest) 0 name) :
    tokens (c :: rest) = .part (.literal c) :: tokens rest := by
  rw [tokens, tokensFrom, if_neg unmarked, front_eq_none absent]
  rfl

/-- A template is taken apart at its front: a mark, a variable or a code point at a time. -/
@[elab_as_elim]
theorem tokenInduction {motive : Text → Prop} (nil : motive [])
    (mark : ∀ rest, motive rest → motive (phraseMark ++ rest))
    (written : ∀ name rest, IsName name → motive rest →
      motive ((Part.variable name).source ++ rest))
    (literal : ∀ c rest, ¬ phraseMark <+: c :: rest → (∀ name, ¬ VariableAt (c :: rest) 0 name) →
      motive rest → motive (c :: rest)) (t : Text) : motive t := by
  induction size : t.length using Nat.strongRecOn generalizing t with
  | _ n shorter =>
    by_cases marked : phraseMark <+: t
    · obtain ⟨rest, rfl⟩ := marked
      rw [List.length_append, show phraseMark.length = 9 from rfl] at size
      exact mark rest (shorter rest.length (by omega) rest rfl)
    cases front t with
    | nil => exact nil
    | written name rest named =>
      rw [List.length_append, length_source] at size
      exact written name rest named (shorter rest.length (by omega) rest rfl)
    | literal c rest absent =>
      rw [List.length_cons] at size
      exact literal c rest marked absent (shorter rest.length (by omega) rest rfl)

/-! ## Texts that no mark crosses the ends of -/

/-- A text in which no mark begins or ends, whatever stands around it. -/
structure Sealed (v : Text) : Prop where
  opens : ∃ c, v.head? = some c ∧ c ∉ phraseMark
  closes : ∃ c, v.getLast? = some c ∧ c ∉ phraseMark
  free : ¬ phraseMark <:+: v

theorem sealed_source {name : Text} (named : IsName name) : Sealed (Part.variable name).source where
  opens := ⟨'{', rfl, by decide⟩
  closes := ⟨'}', by rw [Part.source, List.getLast?_concat], by decide⟩
  free := by
    intro inside
    have hash : CodePoint.ofChar '#' ∈ CodePoint.ofChar '{' :: name ++ [CodePoint.ofChar '}'] :=
      inside.subset (by decide)
    rcases List.mem_append.mp hash with front | closing
    · rcases List.mem_cons.mp front with opening | word
      · exact absurd opening (by decide)
      · exact absurd (named.2 _ word) (by decide)
    · exact absurd (List.mem_singleton.mp closing) (by decide)

theorem Sealed.around_append {v : Text} (whole : Sealed v) (rest : Text) :
    around phraseMark (v ++ rest) = (around phraseMark rest).modifyHead (v ++ ·) := by
  apply around_append_of_none
  intro s filled back begins
  obtain ⟨c, last, absent⟩ := whole.closes
  have ends : s.getLast? = some c := by
    obtain ⟨front, rfl⟩ := back
    rwa [List.getLast?_append_of_ne_nil _ filled] at last
  obtain ⟨init, rfl⟩ := List.getLast?_eq_some_iff.mp ends
  rw [List.append_assoc, List.singleton_append] at begins
  have within : phraseMark <+: init := prefix_of_prefix_append_cons absent begins
  exact whole.free ((within.isInfix.trans (List.prefix_append init [c]).isInfix).trans back.isInfix)

/-! ## The parts around the marks, each filled -/

/-- The parts of a template around its own marks, each filled alone. -/
def filledParts (lookup : Text → Option Text) (t : Text) : List Text :=
  (around phraseMark t).map (fill lookup)

/-- The marks of the filled template are the template's own: they leave its parts, filled. -/
def OwnMarks (lookup : Text → Option Text) (t : Text) : Prop :=
  around phraseMark (fill lookup t) = filledParts lookup t

instance (lookup : Text → Option Text) (t : Text) : Decidable (OwnMarks lookup t) :=
  inferInstanceAs (Decidable (_ = _))

theorem filledParts_ne_nil (lookup : Text → Option Text) (t : Text) :
    filledParts lookup t ≠ [] := by
  rw [filledParts, Ne, List.map_eq_nil_iff]
  exact around_ne_nil phraseMark_ne_nil t

theorem filledParts_mark_append (rest : Text) :
    filledParts lookup (phraseMark ++ rest) = [] :: filledParts lookup rest := by
  rw [filledParts, around_append phraseMark_ne_nil, List.map_cons]
  rfl

theorem map_modifyHead {α β : Type} {f : α → β} {g : α → α} {h : β → β} {l : List α}
    (commute : ∀ a ∈ l.head?, f (g a) = h (f a)) :
    (l.modifyHead g).map f = (l.map f).modifyHead h := by
  cases l with
  | nil => rfl
  | cons a l =>
    rw [List.modifyHead_cons, List.map_cons, List.map_cons, List.modifyHead_cons, commute a rfl]

theorem filledParts_source_append {name : Text} (named : IsName name) (rest : Text) :
    filledParts lookup ((Part.variable name).source ++ rest) =
      (filledParts lookup rest).modifyHead
        ((lookup name).getD (Part.variable name).source ++ ·) := by
  rw [filledParts, (sealed_source named).around_append]
  exact map_modifyHead fun part _ => fill_source_append named part

theorem filledParts_cons {c : CodePoint} {rest : Text} (unmarked : ¬ phraseMark <+: c :: rest)
    (absent : ∀ name, ¬ VariableAt (c :: rest) 0 name) :
    filledParts lookup (c :: rest) = (filledParts lookup rest).modifyHead (c :: ·) := by
  rw [filledParts, around_cons unmarked]
  refine map_modifyHead fun part first => fill_cons fun name there => ?_
  -- The rest begins with the part, so what is written in front of the part is written in the whole.
  have begins := prefix_of_mem_head?_around phraseMark_ne_nil first
  exact absent name ⟨there.1, there.2.trans ((List.prefix_cons_inj c).mpr begins)⟩

/-- In one pass the phrase comes between the filled parts. -/
theorem onePass_eq_intercalate (lookup : Text → Option Text) (phrase t : Text) :
    onePass lookup phrase t = List.intercalate phrase (filledParts lookup t) := by
  induction t using tokenInduction with
  | nil => rfl
  | mark rest ih =>
    rw [filledParts_mark_append, intercalate_nil_cons _ _ (filledParts_ne_nil lookup rest), ← ih,
      onePass, tokens_mark_append, List.flatMap_cons, Token.fill, onePass]
  | written name rest named ih =>
    rw [filledParts_source_append named,
      intercalate_modifyHead_append _ _ (filledParts_ne_nil lookup rest), ← ih, onePass,
      tokens_source_append named, List.flatMap_cons, Token.fill, Part.fill, onePass]
  | literal c rest unmarked absent ih =>
    rw [filledParts_cons unmarked absent,
      intercalate_modifyHead_cons _ _ _ (filledParts_ne_nil lookup rest), ← ih, onePass,
      tokens_cons unmarked absent, List.flatMap_cons, Token.fill, Part.fill, onePass,
      List.singleton_append]

/-- With the marks kept, one pass is the filling of the variables. -/
theorem onePass_phraseMark (lookup : Text → Option Text) (t : Text) :
    onePass lookup phraseMark t = fill lookup t := by
  induction t using tokenInduction with
  | nil => rfl
  | mark rest ih =>
    rw [onePass, tokens_mark_append, List.flatMap_cons, Token.fill, ← onePass, ih,
      fill_append_of_not_mem (by decide)]
  | written name rest named ih =>
    rw [onePass, tokens_source_append named, List.flatMap_cons, Token.fill, Part.fill, ← onePass,
      ih, fill_source_append named]
  | literal c rest unmarked absent ih =>
    rw [onePass, tokens_cons unmarked absent, List.flatMap_cons, Token.fill, Part.fill, ← onePass,
      ih, fill_cons absent, List.singleton_append]

/-- The two passes come to one, for every phrase, exactly if no mark is added or lost by the
first. -/
theorem bindPhrase_fill_eq_onePass_iff (lookup : Text → Option Text) (t : Text) :
    (∀ phrase, bindPhrase phrase (fill lookup t) = onePass lookup phrase t) ↔
      OwnMarks lookup t := by
  simp only [bindPhrase_eq_intercalate, onePass_eq_intercalate]
  constructor
  · intro same
    have apart : CodePoint.ofChar 'a' ≠ CodePoint.ofChar 'b' := by decide
    exact eq_of_intercalate_eq apart (around_ne_nil phraseMark_ne_nil _)
      (filledParts_ne_nil lookup t) (same ['a']) (same ['b'])
  · intro own phrase
    rw [own]

/-- A mark may be completed over a variable whose value is empty. -/
example : ¬ OwnMarks (VariableMap.lookup [(['a'], [])]) (Text.ofString "#$qu{a}ery##") := by
  decide

/-! ## Values that are sealed -/

/-- The variables that are written in the template have sealed values, where they have any. -/
def SealedValues (lookup : Text → Option Text) (t : Text) : Prop :=
  ∀ i name value, VariableAt t i name → lookup name = some value → Sealed value

theorem SealedValues.of_append {a b : Text} (values : SealedValues lookup (a ++ b)) :
    SealedValues lookup b :=
  fun _ name value written => values _ name value (variableAt_append_right.mpr written)

/-- What a variable comes to is sealed: the value, or the variable as it is written. -/
theorem SealedValues.sealed_getD {name rest : Text} (named : IsName name)
    (values : SealedValues lookup ((Part.variable name).source ++ rest)) :
    Sealed ((lookup name).getD (Part.variable name).source) := by
  cases known : lookup name with
  | none => exact sealed_source named
  | some value =>
    exact values 0 name value ((variableAt_source_append named).mpr (.inl ⟨rfl, rfl⟩)) known

/-- Code points of the mark begin a filled template only if they begin the template. -/
theorem SealedValues.prefix_of_prefix_fill (values : SealedValues lookup t) {l : Text}
    (inMark : ∀ c ∈ l, c ∈ phraseMark) (begins : l <+: fill lookup t) : l <+: t := by
  induction t using variableInduction generalizing l with
  | nil => exact begins
  | written name rest named ih =>
    obtain ⟨c, first, absent⟩ := (values.sealed_getD named).opens
    obtain ⟨tail, eq⟩ := List.head?_eq_some_iff.mp first
    rw [fill_source_append named, eq, List.cons_append] at begins
    cases l with
    | nil => exact List.nil_prefix
    | cons d l =>
      rw [(List.cons_prefix_cons.mp begins).1] at inMark
      exact absurd (inMark c List.mem_cons_self) absent
  | literal c rest absent ih =>
    rw [fill_cons absent] at begins
    cases l with
    | nil => exact List.nil_prefix
    | cons d l =>
      obtain ⟨rfl, later⟩ := List.cons_prefix_cons.mp begins
      have inner : ∀ c ∈ l, c ∈ phraseMark := fun c member =>
        inMark c (List.mem_cons_of_mem _ member)
      exact (List.prefix_cons_inj d).mpr (ih (values.of_append (a := [d])) inner later)

/-- Sealed values bring in no mark and complete none. -/
theorem SealedValues.ownMarks (values : SealedValues lookup t) : OwnMarks lookup t := by
  induction t using tokenInduction with
  | nil => rfl
  | mark rest ih =>
    rw [OwnMarks, fill_append_of_not_mem (by decide), around_append phraseMark_ne_nil,
      filledParts_mark_append, ih values.of_append]
  | written name rest named ih =>
    rw [OwnMarks, fill_source_append named, (values.sealed_getD named).around_append,
      filledParts_source_append named, ih values.of_append]
  | literal c rest unmarked absent ih =>
    have still : ¬ phraseMark <+: c :: fill lookup rest := by
      intro begins
      rw [← fill_cons absent] at begins
      exact unmarked (values.prefix_of_prefix_fill (fun _ member => member) begins)
    rw [OwnMarks, fill_cons absent, around_cons still, filledParts_cons unmarked absent,
      ih (values.of_append (a := [c]))]

end Template

namespace Args

open Template

/-- Without a phrase, the output is that of one pass over the template with its marks kept, so no
value is searched for variables.  With a phrase, the marks of that output are replaced, whether they
are the template's or not.  So the output is that of one pass, whatever the phrase, exactly if the
marks that are found in the filled template are the template's own, as they are where the values are
sealed. -/
theorem phrase_bound_after_values [Platform] (m : VariableMap) (t : Text) :
    (∀ escape, substituteWith escape none m.bindings t = .ok (onePass m.lookup phraseMark t)) ∧
    (∀ escape phrase, substituteWith escape (some phrase) m.bindings t =
      .ok (bindPhrase (escape phrase) (onePass m.lookup phraseMark t))) ∧
    ((∀ escape phrase, substituteWith escape (some phrase) m.bindings t =
      .ok (onePass m.lookup (escape phrase) t)) ↔ OwnMarks m.lookup t) ∧
    (SealedValues m.lookup t → OwnMarks m.lookup t) := by
  have bound (escape : Text → Text) (phrase : Text) :
      substituteWith escape (some phrase) m.bindings t =
        .ok (bindPhrase (escape phrase) (fill m.lookup t)) := by
    rw [substituteWith_bindings, substitute]
  refine ⟨fun escape => ?_, fun escape phrase => ?_, ?_, SealedValues.ownMarks⟩
  · rw [substituteWith_bindings, substitute, onePass_phraseMark]
  · rw [bound, onePass_phraseMark]
  · rw [← bindPhrase_fill_eq_onePass_iff]
    constructor
    · intro same phrase
      exact Except.ok.inj ((bound id phrase).symm.trans (same id phrase))
    · intro same escape phrase
      rw [bound, same]

/-- A value that is the mark becomes the phrase, where one pass leaves it. -/
theorem value_with_mark_bound :
    letI := Platform.usual
    substituteWith id (some ['x']) (VariableMap.bindings [(['a'], phraseMark)]) ['{', 'a', '}'] =
      .ok ['x'] ∧
    onePass (VariableMap.lookup [(['a'], phraseMark)]) ['x'] ['{', 'a', '}'] = phraseMark :=
  ⟨by decide, by decide⟩

end Args

end SearchTuning
