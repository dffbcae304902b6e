import SearchTuning.Text.Order

/-!
# Orders and sorting

The order of texts by code points, first difference first, is total.  Sorting changes nothing but
the order of a list.
-/

namespace SearchTuning

theorem insertSorted_perm {α : Type} (le : α → α → Bool) (x : α) (items : List α) :
    (insertSorted le x items).Perm (x :: items) := by
  induction items with
  | nil => exact .refl _
  | cons y items ih =>
    rw [insertSorted]
    split
    · exact .refl _
    · exact (ih.cons y).trans (.swap x y items)

theorem sortBy_perm {α : Type} (le : α → α → Bool) (items : List α) :
    (sortBy le items).Perm items := by
  induction items with
  | nil => exact .refl _
  | cons x items ih => exact (insertSorted_perm le x _).trans (ih.cons x)

theorem pairwise_insertSorted {α : Type} {le : α → α → Bool}
    (total : ∀ x y, le x y = true ∨ le y x = true)
    (trans : ∀ x y z, le x y = true → le y z = true → le x z = true) (x : α) {items : List α}
    (sorted : items.Pairwise fun y z => le y z = true) :
    (insertSorted le x items).Pairwise fun y z => le y z = true := by
  induction items with
  | nil => exact List.pairwise_singleton _ x
  | cons y items ih =>
    obtain ⟨first, sorted⟩ := List.pairwise_cons.mp sorted
    rw [insertSorted]
    split
    · next front =>
      refine List.pairwise_cons.mpr ⟨?_, List.pairwise_cons.mpr ⟨first, sorted⟩⟩
      intro z member
      rcases List.mem_cons.mp member with rfl | later
      · exact front
      · exact trans x y z front (first z later)
    · next back =>
      refine List.pairwise_cons.mpr ⟨?_, ih sorted⟩
      intro z member
      rcases List.mem_cons.mp ((insertSorted_perm le x items).mem_iff.mp member) with rfl | later
      · exact (total y z).resolve_right back
      · exact first z later

theorem pairwise_sortBy {α : Type} {le : α → α → Bool}
    (total : ∀ x y, le x y = true ∨ le y x = true)
    (trans : ∀ x y z, le x y = true → le y z = true → le x z = true) (items : List α) :
    (sortBy le items).Pairwise fun x y => le x y = true := by
  induction items with
  | nil => exact .nil
  | cons x items ih => exact pairwise_insertSorted total trans x ih

namespace Text

theorem le_cons_cons {a b : CodePoint} {as bs : Text} :
    le (a :: as) (b :: bs) = true ↔ a.val < b.val ∨ (a.val = b.val ∧ le as bs = true) := by
  simp only [le, Bool.or_eq_true, Bool.and_eq_true, decide_eq_true_eq, Fin.lt_def, Fin.ext_iff]

theorem le_total : ∀ a b : Text, a.le b = true ∨ b.le a = true
  | [], _ => .inl rfl
  | _ :: _, [] => .inr rfl
  | a :: as, b :: bs => by
      rw [le_cons_cons, le_cons_cons]
      rcases Nat.lt_trichotomy a.val b.val with less | same | greater
      · exact .inl (.inl less)
      · exact (le_total as bs).imp (fun front => .inr ⟨same, front⟩)
          (fun back => .inr ⟨same.symm, back⟩)
      · exact .inr (.inl greater)

theorem le_antisymm : ∀ {a b : Text}, a.le b = true → b.le a = true → a = b
  | [], [], _, _ => rfl
  | [], _ :: _, _, back => by cases back
  | _ :: _, [], front, _ => by cases front
  | a :: as, b :: bs, front, back => by
      rw [le_cons_cons] at front back
      rcases front with less | ⟨same, front⟩
      · omega
      · rcases back with less | ⟨-, back⟩
        · omega
        · rw [Fin.ext same, le_antisymm front back]

theorem le_trans : ∀ {a b c : Text}, a.le b = true → b.le c = true → a.le c = true
  | [], _, _, _, _ => rfl
  | _ :: _, [], _, first, _ => by cases first
  | _ :: _, _ :: _, [], _, second => by cases second
  | a :: as, b :: bs, c :: cs, first, second => by
      rw [le_cons_cons] at first second ⊢
      rcases first with less | ⟨same, first⟩
      · exact .inl (by omega)
      · rcases second with less | ⟨same', second⟩
        · exact .inl (by omega)
        · exact .inr ⟨same.trans same', le_trans first second⟩

/-- A text comes before another one. -/
def Before (a b : Text) : Prop := a.le b = true ∧ a ≠ b

theorem Before.trans {a b c : Text} (first : Before a b) (second : Before b c) : Before a c := by
  refine ⟨le_trans first.1 second.1, ?_⟩
  rintro rfl
  exact first.2 (le_antisymm first.1 second.1)

theorem before_of_not_le {a b : Text} (h : ¬ b.le a = true) : Before a b := by
  refine ⟨(le_total a b).resolve_right h, ?_⟩
  rintro rfl
  exact h ((le_total a a).elim id id)

end Text

end SearchTuning
