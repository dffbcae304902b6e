import SearchTuning.Text.Basic

/-!
# Occurrences of a mark

The occurrences of a mark in a list, leftmost first and without overlap, leave the parts of the list
around them.  Replacing the mark in a text puts the new value between those parts.  Every law about
occurrences is proved by one induction, whose cases are the end of the list, an occurrence at its
front, and an item at which none begins.
-/

namespace SearchTuning

namespace Occurrences

variable {α : Type} {mark : List α}

theorem intercalate_modifyHead_cons (value : List α) (a : α) (parts : List (List α))
    (some_part : parts ≠ []) :
    List.intercalate value (parts.modifyHead (a :: ·)) = a :: List.intercalate value parts := by
  cases parts with
  | nil => exact absurd rfl some_part
  | cons part parts => rw [List.modifyHead_cons, List.intercalate_cons_cons_left]

theorem intercalate_modifyHead_append (value u : List α) {parts : List (List α)}
    (some_part : parts ≠ []) :
    List.intercalate value (parts.modifyHead (u ++ ·)) = u ++ List.intercalate value parts := by
  cases parts with
  | nil => exact absurd rfl some_part
  | cons part parts =>
    cases parts with
    | nil => simp only [List.modifyHead_cons, List.intercalate_singleton]
    | cons next parts => simp only [List.modifyHead_cons, List.intercalate_cons_cons, List.append_assoc]

theorem intercalate_nil_cons (value : List α) (parts : List (List α)) (some_part : parts ≠ []) :
    List.intercalate value ([] :: parts) = value ++ List.intercalate value parts := by
  rw [List.intercalate_cons_of_ne_nil some_part, List.nil_append]

/-- Each part but the last stands right before an occurrence of the mark. -/
theorem append_mark_infix {parts : List (List α)} {part : List α} (member : part ∈ parts.dropLast) :
    part ++ mark <:+: List.intercalate mark parts := by
  induction parts with
  | nil => cases member
  | cons first parts ih =>
    cases parts with
    | nil => cases member
    | cons second parts =>
      rw [List.dropLast_cons_cons, List.mem_cons] at member
      rw [List.intercalate_cons_cons]
      rcases member with rfl | member
      · exact (List.prefix_append _ _).isInfix
      · exact (ih member).trans (List.suffix_append _ _).isInfix

/-- A prefix that does not hold an item ends before it. -/
theorem prefix_of_prefix_append_cons {l front rest : List α} {a : α} (absent : a ∉ l)
    (h : l <+: front ++ a :: rest) : l <+: front := by
  rcases Nat.le_total l.length front.length with short | long
  · exact List.prefix_of_prefix_length_le h (List.prefix_append front _) short
  · have begins : front <+: l :=
      List.prefix_of_prefix_length_le (List.prefix_append front _) h long
    obtain ⟨later, rfl⟩ := begins
    rw [List.prefix_append_right_inj] at h
    cases later with
    | nil => simp
    | cons b later =>
      obtain ⟨rfl, -⟩ := List.cons_prefix_cons.mp h
      exact absurd (List.mem_append_right front List.mem_cons_self) absent

/-! ## Parts that can be told from their intercalations -/

theorem cons_intercalate (a : α) {parts : List (List α)} (some_part : parts ≠ []) :
    a :: List.intercalate [a] parts = parts.flatMap (a :: ·) := by
  induction parts with
  | nil => exact absurd rfl some_part
  | cons part parts ih =>
    cases parts with
    | nil => rw [List.intercalate_singleton, List.flatMap_cons, List.flatMap_nil, List.append_nil]
    | cons next parts =>
      rw [List.intercalate_cons_cons, List.flatMap_cons, ← ih (List.cons_ne_nil next parts),
        List.append_assoc, List.singleton_append, List.cons_append]

/-- Nothing stands at the front both where one item is put before each part and where another one
is. -/
theorem eq_nil_of_flatMap_cons {a b : α} (apart : a ≠ b) {parts : List (List α)}
    {front l l' : List α} (first : parts.flatMap (a :: ·) = front ++ l)
    (second : parts.flatMap (b :: ·) = front ++ l') : front = [] := by
  cases front with
  | nil => rfl
  | cons c front =>
    cases parts with
    | nil => cases first
    | cons part parts =>
      rw [List.flatMap_cons, List.cons_append, List.cons_append] at first second
      exact absurd ((List.cons.inj first).1.trans (List.cons.inj second).1.symm) apart

theorem eq_of_flatMap_cons {a b : α} (apart : a ≠ b) {one two : List (List α)}
    (first : one.flatMap (a :: ·) = two.flatMap (a :: ·))
    (second : one.flatMap (b :: ·) = two.flatMap (b :: ·)) : one = two := by
  induction one generalizing two with
  | nil =>
    cases two with
    | nil => rfl
    | cons y two => cases first
  | cons x one ih =>
    cases two with
    | nil => cases first
    | cons y two =>
      simp only [List.flatMap_cons, List.cons_append, List.cons.injEq, true_and] at first second
      -- Of the two first parts one begins the other, and nothing is left between their ends.
      rcases List.append_eq_append_iff.mp first with ⟨front, rfl, rest⟩ | ⟨front, rfl, rest⟩
      · rw [List.append_assoc, List.append_cancel_left_eq] at second
        obtain rfl := eq_nil_of_flatMap_cons apart rest second
        rw [List.append_nil, ih rest second]
      · rw [List.append_assoc, List.append_cancel_left_eq] at second
        obtain rfl := eq_nil_of_flatMap_cons apart rest second.symm
        rw [List.append_nil, ih rest.symm second]

/-- Two different items, each put between the parts in turn, tell the parts apart. -/
theorem eq_of_intercalate_eq {a b : α} (apart : a ≠ b) {one two : List (List α)}
    (some_one : one ≠ []) (some_two : two ≠ [])
    (first : List.intercalate [a] one = List.intercalate [a] two)
    (second : List.intercalate [b] one = List.intercalate [b] two) : one = two := by
  apply eq_of_flatMap_cons apart
  · rw [← cons_intercalate a some_one, ← cons_intercalate a some_two, first]
  · rw [← cons_intercalate b some_one, ← cons_intercalate b some_two, second]

/-! ## The parts around a mark -/

variable [DecidableEq α]

/-- The parts of a list around the occurrences of a mark.  The first argument counts the items still
to be passed over as part of an occurrence. -/
def aroundFrom (mark : List α) : Nat → List α → List (List α)
  | _, [] => [[]]
  | skip + 1, _ :: rest => aroundFrom mark skip rest
  | 0, a :: rest =>
      if mark <+: a :: rest then [] :: aroundFrom mark (mark.length - 1) rest
      else (aroundFrom mark 0 rest).modifyHead (a :: ·)

/-- The parts of a list around the occurrences of a mark, leftmost first and without overlap. -/
def around (mark l : List α) : List (List α) := aroundFrom mark 0 l

/-- A list is taken apart at its front: an occurrence of the mark at a time where one begins, an
item at a time where none does. -/
@[elab_as_elim]
theorem markInduction (nonempty : mark ≠ []) {motive : List α → Prop} (nil : motive [])
    (occurrence : ∀ rest, motive rest → motive (mark ++ rest))
    (other : ∀ a rest, ¬ mark <+: a :: rest → motive rest → motive (a :: rest)) (l : List α) :
    motive l := by
  induction size : l.length using Nat.strongRecOn generalizing l with
  | _ n shorter =>
    cases l with
    | nil => exact nil
    | cons a rest =>
      by_cases found : mark <+: a :: rest
      · obtain ⟨after, eq⟩ := found
        rw [← eq]
        have pos := List.length_pos_iff.mpr nonempty
        have total := congrArg List.length eq
        rw [List.length_append] at total
        exact occurrence after (shorter after.length (by omega) after rfl)
      · exact other a rest found (shorter rest.length (by simp at size; omega) rest rfl)

theorem aroundFrom_append (passed rest : List α) :
    aroundFrom mark passed.length (passed ++ rest) = around mark rest := by
  induction passed with
  | nil => rfl
  | cons a passed ih => exact ih

theorem around_nil : around mark [] = [[]] := rfl

theorem around_append (nonempty : mark ≠ []) (rest : List α) :
    around mark (mark ++ rest) = [] :: around mark rest := by
  cases mark with
  | nil => exact absurd rfl nonempty
  | cons a tail =>
    have front : a :: tail <+: a :: (tail ++ rest) := List.prefix_append (a :: tail) rest
    rw [List.cons_append, around, aroundFrom, if_pos front, List.length_cons,
      Nat.add_sub_cancel, aroundFrom_append]

theorem around_cons {a : α} {rest : List α} (absent : ¬ mark <+: a :: rest) :
    around mark (a :: rest) = (around mark rest).modifyHead (a :: ·) := by
  rw [around, aroundFrom, if_neg absent, around]

/-- What no occurrence begins in belongs to the first part. -/
theorem around_append_of_none {u rest : List α}
    (free : ∀ s, s ≠ [] → s <:+ u → ¬ mark <+: s ++ rest) :
    around mark (u ++ rest) = (around mark rest).modifyHead (u ++ ·) := by
  induction u with
  | nil =>
    rw [List.nil_append]
    cases around mark rest <;> rfl
  | cons a u ih =>
    have front : ¬ mark <+: a :: (u ++ rest) := free (a :: u) (List.cons_ne_nil a u) List.suffix_rfl
    have later := ih fun s filled back => free s filled (back.trans (List.suffix_cons a u))
    rw [List.cons_append, around_cons front, later, List.modifyHead_modifyHead]
    rfl

theorem around_ne_nil (nonempty : mark ≠ []) (l : List α) : around mark l ≠ [] := by
  induction l using markInduction nonempty with
  | nil => simp [around_nil]
  | occurrence rest ih => simp [around_append nonempty]
  | other a rest absent ih => simpa [around_cons absent] using ih

/-- With the mark between each two of its parts the list is there again. -/
theorem intercalate_around (nonempty : mark ≠ []) (l : List α) :
    List.intercalate mark (around mark l) = l := by
  induction l using markInduction nonempty with
  | nil => rfl
  | occurrence rest ih =>
    rw [around_append nonempty, intercalate_nil_cons _ _ (around_ne_nil nonempty rest), ih]
  | other a rest absent ih =>
    rw [around_cons absent, intercalate_modifyHead_cons _ _ _ (around_ne_nil nonempty rest), ih]

/-- The first part is what the list begins with. -/
theorem prefix_of_mem_head?_around (nonempty : mark ≠ []) {l part : List α}
    (first : part ∈ (around mark l).head?) : part <+: l := by
  obtain ⟨parts, eq⟩ := List.head?_eq_some_iff.mp first
  have whole := intercalate_around nonempty l
  rw [eq] at whole
  rw [← whole]
  cases parts with
  | nil => simp only [List.intercalate_singleton, List.prefix_rfl]
  | cons next parts =>
    rw [List.intercalate_cons_cons, List.append_assoc]
    exact List.prefix_append part _

/-- After an item that the mark does not hold, the first part of what follows ends a part of the
whole. -/
theorem exists_mem_around (nonempty : mark ≠ []) {a : α} (absent : a ∉ mark) {tail part : List α}
    {parts : List (List α)} (later : around mark tail = part :: parts) (more : parts ≠ [])
    (front : List α) :
    ∃ before, before ++ a :: part ∈ (around mark (front ++ a :: tail)).dropLast := by
  induction front using markInduction nonempty with
  | nil =>
    have other : ¬ mark <+: a :: tail := by
      intro h
      have inside : mark <+: [] := prefix_of_prefix_append_cons absent h
      exact nonempty (List.prefix_nil.mp inside)
    refine ⟨[], ?_⟩
    rw [List.nil_append, around_cons other, later, List.modifyHead_cons,
      List.dropLast_cons_of_ne_nil more]
    exact List.mem_cons_self
  | occurrence front ih =>
    obtain ⟨before, member⟩ := ih
    refine ⟨before, ?_⟩
    rw [List.append_assoc, around_append nonempty,
      List.dropLast_cons_of_ne_nil (around_ne_nil nonempty _)]
    exact List.mem_cons_of_mem _ member
  | other b front absentFront ih =>
    obtain ⟨before, member⟩ := ih
    have other : ¬ mark <+: b :: (front ++ a :: tail) := by
      intro h
      have inside : mark <+: b :: front := prefix_of_prefix_append_cons absent h
      exact absentFront inside
    rw [List.cons_append, around_cons other]
    cases split : around mark (front ++ a :: tail) with
    | nil => exact absurd split (around_ne_nil nonempty _)
    | cons first others =>
      rw [split] at member
      have some_other : others ≠ [] := by
        rintro rfl
        cases member
      rw [List.dropLast_cons_of_ne_nil some_other, List.mem_cons] at member
      rw [List.modifyHead_cons, List.dropLast_cons_of_ne_nil some_other]
      rcases member with rfl | member
      · exact ⟨b :: before, List.mem_cons_self⟩
      · exact ⟨before, List.mem_cons_of_mem _ member⟩

/-- A list in which the mark does not occur is its only part. -/
theorem around_of_not_infix {l : List α} (absent : ¬ mark <:+: l) : around mark l = [l] := by
  induction l with
  | nil => rfl
  | cons a rest ih =>
    have front : ¬ mark <+: a :: rest := fun h => absent h.isInfix
    have later : ¬ mark <:+: rest := fun h => absent (List.infix_cons h)
    rw [around_cons front, ih later, List.modifyHead_cons]

end Occurrences

namespace Text

open Occurrences

variable {mark value : Text}

theorem replaceFrom_append (passed rest : Text) :
    replaceFrom mark value passed.length (passed ++ rest) = replace mark value rest := by
  induction passed with
  | nil => rfl
  | cons a passed ih => exact ih

@[simp] theorem replace_nil : replace mark value [] = [] := rfl

theorem replace_append (nonempty : mark ≠ []) (rest : Text) :
    replace mark value (mark ++ rest) = value ++ replace mark value rest := by
  cases mark with
  | nil => exact absurd rfl nonempty
  | cons a tail =>
    have front : (a :: tail).isPrefixOf (a :: (tail ++ rest)) :=
      List.isPrefixOf_iff_prefix.mpr (List.prefix_append (a :: tail) rest)
    rw [List.cons_append, replace, replaceFrom, if_pos front, List.length_cons,
      Nat.add_sub_cancel, replaceFrom_append]

theorem replace_cons {c : CodePoint} {rest : Text} (absent : ¬ mark <+: c :: rest) :
    replace mark value (c :: rest) = c :: replace mark value rest := by
  have front : ¬ mark.isPrefixOf (c :: rest) := fun h =>
    absent (List.isPrefixOf_iff_prefix.mp h)
  rw [replace, replaceFrom, if_neg front, replace]

/-- A replaced text is made of the parts around the mark, with the value between them. -/
theorem replace_eq_intercalate (nonempty : mark ≠ []) (t : Text) :
    replace mark value t = List.intercalate value (around mark t) := by
  induction t using markInduction nonempty with
  | nil => rfl
  | occurrence rest ih =>
    rw [replace_append nonempty, around_append nonempty,
      intercalate_nil_cons _ _ (around_ne_nil nonempty rest), ih]
  | other c rest absent ih =>
    rw [replace_cons absent, around_cons absent,
      intercalate_modifyHead_cons _ _ _ (around_ne_nil nonempty rest), ih]

/-- A text in which the mark does not occur stays as it is. -/
theorem replace_of_not_infix {t : Text} (absent : ¬ mark <:+: t) : replace mark value t = t := by
  induction t with
  | nil => rfl
  | cons c rest ih =>
    have front : ¬ mark <+: c :: rest := fun h => absent h.isInfix
    have later : ¬ mark <:+: rest := fun h => absent (List.infix_cons h)
    rw [replace_cons front, ih later]

/-- What does not hold the first code point of the mark is passed over. -/
theorem replace_append_of_not_mem {m : CodePoint} {marks u : Text} (absent : m ∉ u) (rest : Text) :
    replace (m :: marks) value (u ++ rest) = u ++ replace (m :: marks) value rest := by
  induction u with
  | nil => rfl
  | cons c u ih =>
    rw [List.mem_cons, not_or] at absent
    have front : ¬ m :: marks <+: c :: (u ++ rest) := fun h =>
      absent.1 (List.cons_prefix_cons.mp h).1
    rw [List.cons_append, replace_cons front, ih absent.2, List.cons_append]

/-- A code point that the mark does not hold parts a text in two. -/
theorem replace_append_cons (nonempty : mark ≠ []) {c : CodePoint} (absent : c ∉ mark)
    (t rest : Text) :
    replace mark value (t ++ c :: rest) = replace mark value t ++ c :: replace mark value rest := by
  induction t using markInduction nonempty with
  | nil =>
    have front : ¬ mark <+: c :: rest := by
      intro h
      have inside : mark <+: [] := prefix_of_prefix_append_cons absent h
      exact nonempty (List.prefix_nil.mp inside)
    rw [List.nil_append, replace_cons front, replace_nil, List.nil_append]
  | occurrence t ih =>
    rw [List.append_assoc, replace_append nonempty, ih, replace_append nonempty, List.append_assoc]
  | other d t other ih =>
    have front : ¬ mark <+: d :: (t ++ c :: rest) := by
      intro h
      have inside : mark <+: d :: t := prefix_of_prefix_append_cons absent h
      exact other inside
    rw [List.cons_append, replace_cons front, ih, replace_cons other, List.cons_append]

/-- Replacing by something leaves nothing only of nothing. -/
theorem replace_eq_nil_iff (nonempty : mark ≠ []) (filled : value ≠ []) (t : Text) :
    replace mark value t = [] ↔ t = [] := by
  induction t using markInduction nonempty with
  | nil => simp
  | occurrence rest ih => simp [replace_append nonempty, nonempty, filled]
  | other c rest absent ih => simp [replace_cons absent]

end Text

end SearchTuning
