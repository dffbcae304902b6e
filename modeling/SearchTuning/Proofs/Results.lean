/-!
# Where a result comes from

A computation that ends has come through all its steps, and one that fails has failed in one of
them.
-/

namespace SearchTuning

/-- A computation in two steps that does not fail has failed in neither. -/
theorem exists_of_bind_eq_ok {ε α β : Type} {x : Except ε α} {f : α → Except ε β} {b : β}
    (h : (x >>= f) = .ok b) : ∃ a, x = .ok a ∧ f a = .ok b := by
  cases x with
  | error e => cases h
  | ok a => exact ⟨a, rfl, h⟩

theorem bind_of_eq_ok {ε α β : Type} {x : Except ε α} {a : α} (h : x = .ok a)
    (f : α → Except ε β) : (x >>= f) = f a := by
  rw [h]
  rfl

theorem exists_of_map_eq_ok {ε α β : Type} {f : α → β} {result : Except ε α} {b : β}
    (ended : result.map f = .ok b) : ∃ a, result = .ok a ∧ f a = b := by
  cases result with
  | error e => cases ended
  | ok a => exact ⟨a, rfl, Except.ok.inj ended⟩

theorem map_eq_error {ε α β : Type} {f : α → β} {result : Except ε α} {e : ε}
    (failed : result.map f = .error e) : result = .error e := by
  cases result with
  | error cause =>
    cases failed
    rfl
  | ok a => cases failed

theorem mapError_eq_ok {ε δ α : Type} {f : ε → δ} {result : Except ε α} {a : α} :
    result.mapError f = .ok a ↔ result = .ok a := by
  cases result with
  | ok b =>
    change Except.ok b = .ok a ↔ _
    rw [Except.ok.injEq, Except.ok.injEq]
  | error _ => exact ⟨nofun, nofun⟩

theorem bind_eq_error {ε α β : Type} {result : Except ε α} {f : α → Except ε β} {e : ε}
    (failed : (result >>= f) = .error e) :
    result = .error e ∨ ∃ a, result = .ok a ∧ f a = .error e := by
  cases result with
  | error cause =>
    cases failed
    exact .inl rfl
  | ok a => exact .inr ⟨a, rfl, failed⟩

theorem exists_of_foldlM_eq_error {ε α β : Type} {f : β → α → Except ε β} {items : List α}
    {start : β} {e : ε} (failed : items.foldlM f start = .error e) :
    ∃ before, ∃ item ∈ items, f before item = .error e := by
  induction items generalizing start with
  | nil => cases failed
  | cons item items ih =>
    rw [List.foldlM_cons] at failed
    rcases bind_eq_error failed with here | ⟨after, -, later⟩
    · exact ⟨start, item, List.mem_cons_self, here⟩
    · obtain ⟨before, other, member, there⟩ := ih later
      exact ⟨before, other, List.mem_cons_of_mem _ member, there⟩

theorem exists_of_mapM_eq_error {ε α β : Type} {f : α → Except ε β} {items : List α} {e : ε}
    (failed : items.mapM f = .error e) : ∃ item ∈ items, f item = .error e := by
  induction items with
  | nil => cases failed
  | cons item items ih =>
    rw [List.mapM_cons] at failed
    rcases bind_eq_error failed with here | ⟨first, -, failed⟩
    · exact ⟨item, List.mem_cons_self, here⟩
    · rcases bind_eq_error failed with later | ⟨rest, -, impossible⟩
      · obtain ⟨other, member, there⟩ := ih later
        exact ⟨other, List.mem_cons_of_mem _ member, there⟩
      · cases impossible

end SearchTuning
