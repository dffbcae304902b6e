import Mathlib.Data.List.DropRight
import SearchTuning.Proofs.Text.Occurrences

/-!
# Cutting a text in which a mark is replaced

Splitting at a separator, cutting at the first separator and trimming all commute with replacing a
mark, as long as neither the mark nor the value holds a separator or a blank.
-/

namespace SearchTuning.Text

open Occurrences

variable {mark value : Text} {sep : CodePoint}

/-! ## Splitting -/

theorem splitOn_cons_self (t : Text) : splitOn sep (sep :: t) = [] :: splitOn sep t := by
  rw [splitOn, if_pos rfl]

theorem splitOn_cons_ne {c : CodePoint} (different : c ≠ sep) (t : Text) :
    splitOn sep (c :: t) = (splitOn sep t).modifyHead (c :: ·) := by
  rw [splitOn, if_neg different]
  cases h : splitOn sep t with
  | nil =>
    cases t with
    | nil => cases h
    | cons d t =>
      rw [splitOn] at h
      split at h
      · cases h
      · split at h <;> cases h
  | cons piece pieces => rfl

/-- The first piece is what the text begins with. -/
theorem exists_splitOn_eq_cons (sep : CodePoint) (t : Text) :
    ∃ piece pieces, splitOn sep t = piece :: pieces ∧ piece <+: t := by
  induction t with
  | nil => exact ⟨[], [], rfl, List.prefix_rfl⟩
  | cons c t ih =>
    obtain ⟨piece, pieces, eq, front⟩ := ih
    by_cases same : c = sep
    · subst same
      exact ⟨[], piece :: pieces, by rw [splitOn_cons_self, eq], List.nil_prefix⟩
    · refine ⟨c :: piece, pieces, ?_, (List.prefix_cons_inj c).mpr front⟩
      rw [splitOn_cons_ne same, eq, List.modifyHead_cons]

/-- What holds no separator belongs to the first piece. -/
theorem splitOn_append {u : Text} (absent : sep ∉ u) (t : Text) :
    splitOn sep (u ++ t) = (splitOn sep t).modifyHead (u ++ ·) := by
  obtain ⟨piece, pieces, eq, -⟩ := exists_splitOn_eq_cons sep t
  induction u with
  | nil => rw [List.nil_append, eq, List.modifyHead_cons, List.nil_append]
  | cons c u ih =>
    rw [List.mem_cons, not_or] at absent
    rw [List.cons_append, splitOn_cons_ne (Ne.symm absent.1), ih absent.2, eq,
      List.modifyHead_cons, List.modifyHead_cons, List.modifyHead_cons, List.cons_append]

theorem splitOn_replace (nonempty : mark ≠ []) (markFree : sep ∉ mark) (valueFree : sep ∉ value)
    (t : Text) :
    splitOn sep (replace mark value t) = (splitOn sep t).map (replace mark value) := by
  induction t using markInduction nonempty with
  | nil => rfl
  | occurrence rest ih =>
    obtain ⟨piece, pieces, eq, -⟩ := exists_splitOn_eq_cons sep rest
    rw [replace_append nonempty, splitOn_append valueFree, ih, splitOn_append markFree, eq,
      List.map_cons, List.modifyHead_cons, List.modifyHead_cons, List.map_cons,
      replace_append nonempty]
  | other c rest absent ih =>
    obtain ⟨piece, pieces, eq, front⟩ := exists_splitOn_eq_cons sep rest
    rw [replace_cons absent]
    by_cases same : c = sep
    · subst same
      rw [splitOn_cons_self, splitOn_cons_self, ih, List.map_cons, replace_nil]
    · have still : ¬ mark <+: c :: piece := fun h =>
        absent (h.trans ((List.prefix_cons_inj c).mpr front))
      rw [splitOn_cons_ne same, splitOn_cons_ne same, ih, eq, List.map_cons,
        List.modifyHead_cons, List.modifyHead_cons, List.map_cons, replace_cons still]

/-! ## Cutting in two -/

/-- A cut text is its two parts with the separator between them. -/
theorem eq_of_cut? {t before after : Text} (h : cut? sep t = some (before, after)) :
    t = before ++ sep :: after := by
  induction t generalizing before with
  | nil => cases h
  | cons c t ih =>
    rw [cut?] at h
    split at h
    · next same =>
      cases h
      rw [same, List.nil_append]
    · obtain ⟨⟨front, back⟩, found, eq⟩ := Option.map_eq_some_iff.mp h
      cases eq
      rw [ih found, List.cons_append]

/-- What is before the first separator holds none. -/
theorem not_mem_of_cut? {t before after : Text} (h : cut? sep t = some (before, after)) :
    sep ∉ before := by
  induction t generalizing before with
  | nil => cases h
  | cons c t ih =>
    rw [cut?] at h
    split at h
    · cases h
      exact List.not_mem_nil
    · next other =>
      obtain ⟨⟨front, back⟩, found, eq⟩ := Option.map_eq_some_iff.mp h
      cases eq
      rw [List.mem_cons, not_or]
      exact ⟨Ne.symm other, ih found⟩

theorem cut?_append {u : Text} (absent : sep ∉ u) (t : Text) :
    cut? sep (u ++ t) = (cut? sep t).map fun (before, after) => (u ++ before, after) := by
  induction u with
  | nil => simp
  | cons c u ih =>
    rw [List.mem_cons, not_or] at absent
    rw [List.cons_append, cut?, if_neg (Ne.symm absent.1), ih absent.2, Option.map_map]
    rfl

theorem cut?_replace (nonempty : mark ≠ []) (markFree : sep ∉ mark) (valueFree : sep ∉ value)
    (t : Text) :
    cut? sep (replace mark value t) =
      (cut? sep t).map fun (before, after) =>
        (replace mark value before, replace mark value after) := by
  induction t using markInduction nonempty with
  | nil => rfl
  | occurrence rest ih =>
    rw [replace_append nonempty, cut?_append valueFree, ih, cut?_append markFree, Option.map_map,
      Option.map_map]
    simp only [Function.comp_def, replace_append nonempty]
  | other c rest absent ih =>
    rw [replace_cons absent, cut?, cut?]
    by_cases same : c = sep
    · rw [if_pos same, if_pos same]
      rfl
    · rw [if_neg same, if_neg same, ih]
      cases found : cut? sep rest with
      | none => rfl
      | some parts =>
        have still : ¬ mark <+: c :: parts.1 := by
          intro h
          apply absent
          rw [eq_of_cut? found]
          exact h.trans (List.prefix_append (c :: parts.1) _)
        simp only [Option.map_some, replace_cons still]

/-! ## Trimming -/

variable {p : CodePoint → Bool}

theorem dropWhile_replace (nonempty : mark ≠ []) (filled : value ≠ [])
    (markFree : ∀ c ∈ mark, p c = false) (valueFree : ∀ c ∈ value, p c = false) (t : Text) :
    (replace mark value t).dropWhile p = replace mark value (t.dropWhile p) := by
  induction t using markInduction nonempty with
  | nil => rfl
  | occurrence rest ih =>
    obtain ⟨m, marks, rfl⟩ := List.exists_cons_of_ne_nil nonempty
    obtain ⟨v, values, rfl⟩ := List.exists_cons_of_ne_nil filled
    have stop : ¬ p m = true := by simp [markFree m List.mem_cons_self]
    have stop' : ¬ p v = true := by simp [valueFree v List.mem_cons_self]
    rw [List.cons_append, List.dropWhile_cons_of_neg stop, ← List.cons_append,
      replace_append nonempty, List.cons_append, List.dropWhile_cons_of_neg stop']
  | other c rest absent ih =>
    rw [replace_cons absent]
    by_cases drop : p c = true
    · rw [List.dropWhile_cons_of_pos drop, List.dropWhile_cons_of_pos drop, ih]
    · rw [List.dropWhile_cons_of_neg drop, List.dropWhile_cons_of_neg drop, replace_cons absent]

/-- Dropping from the end, told from the front. -/
theorem rdropWhile_cons (c : CodePoint) (t : Text) :
    (c :: t).rdropWhile p =
      if p c = true ∧ t.rdropWhile p = [] then [] else c :: t.rdropWhile p := by
  simp only [List.rdropWhile, List.reverse_cons, List.dropWhile_append, List.isEmpty_iff,
    List.reverse_eq_nil_iff]
  by_cases gone : t.reverse.dropWhile p = []
  · by_cases drop : p c = true <;> simp [gone, drop]
  · simp [gone]

theorem rdropWhile_append {u : Text} (free : ∀ c ∈ u, p c = false) (t : Text) :
    (u ++ t).rdropWhile p = u ++ t.rdropWhile p := by
  induction u with
  | nil => rfl
  | cons c u ih =>
    have stop : p c = false := free c List.mem_cons_self
    have later := ih fun d member => free d (List.mem_cons_of_mem c member)
    rw [List.cons_append, rdropWhile_cons, later]
    simp [stop]

theorem rdropWhile_replace (nonempty : mark ≠ []) (filled : value ≠ [])
    (markFree : ∀ c ∈ mark, p c = false) (valueFree : ∀ c ∈ value, p c = false) (t : Text) :
    (replace mark value t).rdropWhile p = replace mark value (t.rdropWhile p) := by
  induction t using markInduction nonempty with
  | nil => rfl
  | occurrence rest ih =>
    rw [replace_append nonempty, rdropWhile_append valueFree, ih, rdropWhile_append markFree,
      replace_append nonempty]
  | other c rest absent ih =>
    have still : ¬ mark <+: c :: rest.rdropWhile p := fun h =>
      absent (h.trans ((List.prefix_cons_inj c).mpr (List.rdropWhile_prefix p rest)))
    rw [replace_cons absent, rdropWhile_cons, rdropWhile_cons, ih]
    simp only [replace_eq_nil_iff nonempty filled]
    by_cases drop : p c = true ∧ rest.rdropWhile p = []
    · rw [if_pos drop, if_pos drop, replace_nil]
    · rw [if_neg drop, if_neg drop, replace_cons still]

theorem trimBy_replace (nonempty : mark ≠ []) (filled : value ≠ [])
    (markFree : ∀ c ∈ mark, p c = false) (valueFree : ∀ c ∈ value, p c = false) (t : Text) :
    (replace mark value t).trimBy p = replace mark value (t.trimBy p) := by
  have front := dropWhile_replace nonempty filled markFree valueFree t
  have back := rdropWhile_replace nonempty filled markFree valueFree (t.dropWhile p)
  rw [trimBy, front]
  exact back

/-- A trimmed text is a piece of the text. -/
theorem trimBy_infix (t : Text) : t.trimBy p <:+: t :=
  (List.rdropWhile_prefix p _).isInfix.trans (List.dropWhile_suffix p).isInfix

/-! ## Nothing to cut, and cutting what has been joined -/

theorem dropWhile_of_forall {p : CodePoint → Bool} {t : Text} (free : ∀ c ∈ t, p c = false) :
    t.dropWhile p = t := by
  cases t with
  | nil => rfl
  | cons c t =>
    have stop : p c = false := free c List.mem_cons_self
    exact List.dropWhile_cons_of_neg (by simp [stop])

theorem trimBy_of_forall {p : CodePoint → Bool} {t : Text} (free : ∀ c ∈ t, p c = false) :
    t.trimBy p = t := by
  have back : ∀ c ∈ t.reverse, p c = false := fun c member => free c (List.mem_reverse.mp member)
  rw [trimBy, dropWhile_of_forall free, dropWhile_of_forall back, List.reverse_reverse]

theorem splitOn_of_not_mem {u : Text} (absent : sep ∉ u) : splitOn sep u = [u] := by
  have split := splitOn_append absent []
  rw [List.append_nil] at split
  rw [split, splitOn, List.modifyHead_cons, List.append_nil]

/-- Pieces that have been joined are cut apart again where the separator is in none of them. -/
theorem splitOn_join {pieces : List Text} (filled : pieces ≠ [])
    (free : ∀ piece ∈ pieces, sep ∉ piece) : splitOn sep (join [sep] pieces) = pieces := by
  induction pieces with
  | nil => exact absurd rfl filled
  | cons piece pieces ih =>
    have here : sep ∉ piece := free piece List.mem_cons_self
    cases pieces with
    | nil => exact splitOn_of_not_mem here
    | cons next pieces =>
      have later := ih (List.cons_ne_nil next pieces) fun p member =>
        free p (List.mem_cons_of_mem piece member)
      rw [join, List.append_assoc, splitOn_append here, List.singleton_append, splitOn_cons_self,
        later, List.modifyHead_cons, List.append_nil]
      exact List.cons_ne_nil next pieces

theorem join_modifyHead (c : CodePoint) {pieces : List Text} (filled : pieces ≠ [])
    (between : Text) : join between (pieces.modifyHead (c :: ·)) = c :: join between pieces := by
  obtain ⟨piece, others, rfl⟩ := List.exists_cons_of_ne_nil filled
  cases others with
  | nil => rfl
  | cons next others => simp [join]

/-- A text is its pieces with the separator between them. -/
theorem join_splitOn (sep : CodePoint) (t : Text) : join [sep] (splitOn sep t) = t := by
  induction t with
  | nil => rfl
  | cons c t ih =>
    obtain ⟨piece, pieces, eq, -⟩ := exists_splitOn_eq_cons sep t
    by_cases same : c = sep
    · rw [same, splitOn_cons_self, eq]
      rw [eq] at ih
      simp [join, ih]
    · rw [splitOn_cons_ne same, join_modifyHead c (by simp [eq]), ih]

/-- The pieces of a text hold no separator. -/
theorem not_mem_of_mem_splitOn {t piece : Text} (member : piece ∈ splitOn sep t) :
    sep ∉ piece := by
  induction t generalizing piece with
  | nil =>
    rw [splitOn, List.mem_singleton] at member
    simp [member]
  | cons c t ih =>
    by_cases same : c = sep
    · rw [same, splitOn_cons_self] at member
      rcases List.mem_cons.mp member with rfl | later
      · exact List.not_mem_nil
      · exact ih later
    · obtain ⟨first, pieces, eq, -⟩ := exists_splitOn_eq_cons sep t
      rw [splitOn_cons_ne same, eq, List.modifyHead_cons] at member
      rcases List.mem_cons.mp member with rfl | later
      · rw [List.mem_cons, not_or]
        exact ⟨Ne.symm same, ih (eq ▸ List.mem_cons_self)⟩
      · exact ih (eq ▸ List.mem_cons_of_mem first later)

/-- Two texts with a separator between them are cut into the pieces of both. -/
theorem splitOn_append_cons (a b : Text) :
    splitOn sep (a ++ sep :: b) = splitOn sep a ++ splitOn sep b := by
  induction a with
  | nil => rw [List.nil_append, splitOn_cons_self, splitOn, List.singleton_append]
  | cons c a ih =>
    by_cases same : c = sep
    · rw [same, List.cons_append, splitOn_cons_self, ih, splitOn_cons_self, List.cons_append]
    · obtain ⟨piece, pieces, eq, -⟩ := exists_splitOn_eq_cons sep a
      rw [List.cons_append, splitOn_cons_ne same, ih, splitOn_cons_ne same, eq, List.cons_append,
        List.modifyHead_cons, List.modifyHead_cons, List.cons_append]

/-- What stands in a joined text comes from the separator or from a piece. -/
theorem mem_of_mem_join {between : Text} {pieces : List Text} {c : CodePoint}
    (member : c ∈ join between pieces) : c ∈ between ∨ ∃ piece ∈ pieces, c ∈ piece := by
  induction pieces with
  | nil => cases member
  | cons piece pieces ih =>
    cases pieces with
    | nil => exact .inr ⟨piece, List.mem_cons_self, member⟩
    | cons next pieces =>
      rw [join, List.mem_append, List.mem_append] at member
      · rcases member with (here | sep) | later
        · exact .inr ⟨piece, List.mem_cons_self, here⟩
        · exact .inl sep
        · rcases ih later with sep | ⟨other, listed, inside⟩
          · exact .inl sep
          · exact .inr ⟨other, List.mem_cons_of_mem piece listed, inside⟩
      · exact List.cons_ne_nil next pieces

theorem mem_of_mem_splitOn {t piece : Text} (member : piece ∈ splitOn sep t) {c : CodePoint}
    (inside : c ∈ piece) : c ∈ t := by
  induction t generalizing piece with
  | nil =>
    rw [splitOn, List.mem_singleton] at member
    rw [member] at inside
    exact inside
  | cons d t ih =>
    by_cases same : d = sep
    · rw [same, splitOn_cons_self] at member
      rcases List.mem_cons.mp member with rfl | later
      · cases inside
      · exact List.mem_cons_of_mem d (ih later inside)
    · rw [splitOn_cons_ne same] at member
      obtain ⟨first, pieces, eq, -⟩ := exists_splitOn_eq_cons sep t
      rw [eq, List.modifyHead_cons] at member
      rcases List.mem_cons.mp member with rfl | later
      · rcases List.mem_cons.mp inside with rfl | inside
        · exact List.mem_cons_self
        · exact List.mem_cons_of_mem d (ih (eq ▸ List.mem_cons_self) inside)
      · exact List.mem_cons_of_mem d (ih (eq ▸ List.mem_cons_of_mem first later) inside)

end SearchTuning.Text
