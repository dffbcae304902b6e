import SearchTuning.Proofs.Json.Rendering
import SearchTuning.Proofs.Text.Utf8

/-!
# The strings of a document

A document is written without surrogates if none of its strings, keys included, holds one.
-/

namespace SearchTuning

namespace Node

variable {σ : Type}

mutual

/-- All strings in a document, keys included. -/
def strings : Node σ → List σ
  | .scalar _ => []
  | .str s => [s]
  | .arr items => stringsOfItems items
  | .obj members => stringsOfMembers members

/-- All strings in the items of an array. -/
def stringsOfItems : List (Node σ) → List σ
  | [] => []
  | item :: items => strings item ++ stringsOfItems items

/-- All strings in members, keys included. -/
def stringsOfMembers : List (σ × Node σ) → List σ
  | [] => []
  | (key, value) :: members => key :: strings value ++ stringsOfMembers members

end

theorem stringsOfMembers_append (front back : List (σ × Node σ)) :
    stringsOfMembers (front ++ back) = stringsOfMembers front ++ stringsOfMembers back := by
  induction front with
  | nil => rfl
  | cons member front ih =>
    rw [List.cons_append, stringsOfMembers, stringsOfMembers, ih, List.append_assoc]

end Node

namespace Json

open Node (strings stringsOfItems stringsOfMembers)

theorem ascii_of_isWordPoint {c : CodePoint} (point : isWordPoint c = true) : c.val < 0x80 := by
  simp only [isWordPoint, CodePoint.isAsciiAlphanumeric, CodePoint.isAsciiDigit,
    CodePoint.isAsciiLetter, Bool.or_eq_true, Bool.and_eq_true, decide_eq_true_eq] at point
  rcases point with ((alphanumeric | rfl) | rfl) | rfl
  · omega
  all_goals decide

theorem hasSurrogate_scalarText (s : Scalar) : (scalarText s).hasSurrogate = false :=
  Text.hasSurrogate_of_ascii fun c member => ascii_of_isWordPoint (isWordPoint_scalarText s c member)

theorem ascii_letter? {c letter : CodePoint} (named : Literal.letter? c = some letter) :
    letter.val < 0x80 := by
  unfold Literal.letter? at named
  split at named
  · next same =>
    cases named
    rcases same with rfl | rfl <;> decide
  all_goals
    repeat' split at named
    all_goals
      cases named
      try decide

theorem ascii_hex (width n : Nat) : ∀ c ∈ Numeral.hex width n, c.val < 0x80 := by
  have digits : ∀ d : Fin 16, (CodePoint.lowerHex d).val < 0x80 := by decide
  induction width generalizing n with
  | zero => exact List.forall_mem_nil _
  | succ width ih =>
    exact List.forall_mem_append.mpr ⟨ih (n / 16), List.forall_mem_singleton.mpr (digits _)⟩

theorem hasSurrogate_rawPoint {c : CodePoint} (whole : c.isSurrogate = false) :
    (Literal.rawPoint c).hasSurrogate = false := by
  rw [Literal.rawPoint]
  split
  · next letter named =>
    refine Text.hasSurrogate_of_ascii (List.forall_mem_cons.mpr ⟨by decide, ?_⟩)
    exact List.forall_mem_singleton.mpr (ascii_letter? named)
  · split
    · refine Text.hasSurrogate_of_ascii (List.forall_mem_cons.mpr ⟨by decide, ?_⟩)
      exact List.forall_mem_cons.mpr ⟨by decide, ascii_hex 4 c.val⟩
    · rw [Text.hasSurrogate_cons, whole]
      rfl

/-- Escaping brings in no surrogate. -/
theorem hasSurrogate_encode {t : Text} (whole : t.hasSurrogate = false) :
    (Literal.encode false t).hasSurrogate = false := by
  rw [Literal.encode, if_neg Bool.false_ne_true]
  rw [Text.hasSurrogate_eq_false_iff] at whole ⊢
  intro c member
  obtain ⟨d, there, here⟩ := List.mem_flatMap.mp member
  exact Text.hasSurrogate_eq_false_iff.mp (hasSurrogate_rawPoint (whole d there)) c here

theorem hasSurrogate_quote {t : Text} (whole : t.hasSurrogate = false) :
    (Literal.quote false t).hasSurrogate = false := by
  have mark : (CodePoint.ofChar '"').isSurrogate = false := by decide
  rw [Literal.quote, List.cons_append, Text.hasSurrogate_cons, Text.hasSurrogate_append,
    Text.hasSurrogate_cons, mark, hasSurrogate_encode whole]
  rfl

theorem hasSurrogate_blanks {blanks : Text} (space : ∀ c ∈ blanks, isSpace c = true) :
    blanks.hasSurrogate = false := by
  refine Text.hasSurrogate_of_ascii fun c member => ?_
  have here := space c member
  simp only [isSpace, Bool.or_eq_true, decide_eq_true_eq] at here
  rcases here with ((rfl | rfl) | rfl) | rfl <;> decide

section Rendering

variable {layout : Layout} (plain : layout.Plain)

theorem hasSurrogate_newline (depth : Nat) : (layout.newline depth).hasSurrogate = false :=
  hasSurrogate_blanks (isSpace_newline layout depth)

include plain

theorem hasSurrogate_itemSeparator : layout.itemSeparator.hasSurrogate = false := by
  obtain ⟨blanks, eq, space⟩ := plain.items
  rw [eq, Text.hasSurrogate_cons, hasSurrogate_blanks space]
  decide

theorem hasSurrogate_keySeparator : layout.keySeparator.hasSurrogate = false := by
  obtain ⟨blanks, eq, space⟩ := plain.keys
  rw [eq, Text.hasSurrogate_cons, hasSurrogate_blanks space]
  decide

mutual

/-- Writing brings in no surrogate. -/
theorem hasSurrogate_renderAt : ∀ {v : Json}, (∀ s ∈ v.strings, s.hasSurrogate = false) →
    ∀ depth : Nat, (renderAt layout depth v).hasSurrogate = false
  | .scalar s, _, _ => hasSurrogate_scalarText s
  | .str s, whole, depth => by
      rw [renderAt, plain.raw]
      exact hasSurrogate_quote (whole s List.mem_cons_self)
  | .arr [], _, _ => by
      rw [renderAt]
      decide
  | .arr (item :: items), whole, depth => by
      obtain ⟨first, others⟩ := List.forall_mem_append.mp whole
      simp only [renderAt, Text.hasSurrogate_append, Text.hasSurrogate_cons, Text.hasSurrogate_nil,
        hasSurrogate_newline, hasSurrogate_renderAt first, hasSurrogate_renderItems others]
      decide
  | .obj [], _, _ => by
      rw [renderAt]
      decide
  | .obj ((key, value) :: members), whole, depth => by
      obtain ⟨keyWhole, rest⟩ := List.forall_mem_cons.mp whole
      obtain ⟨first, others⟩ := List.forall_mem_append.mp rest
      simp only [renderAt, plain.raw, Text.hasSurrogate_append, Text.hasSurrogate_cons,
        Text.hasSurrogate_nil, hasSurrogate_newline, hasSurrogate_quote keyWhole,
        hasSurrogate_keySeparator plain, hasSurrogate_renderAt first,
        hasSurrogate_renderMembers others]
      decide

theorem hasSurrogate_renderItems : ∀ {items : List Json},
    (∀ s ∈ stringsOfItems items, s.hasSurrogate = false) →
      ∀ depth : Nat, (renderItems layout depth items).hasSurrogate = false
  | [], _, _ => rfl
  | item :: items, whole, depth => by
      obtain ⟨first, others⟩ := List.forall_mem_append.mp whole
      simp only [renderItems, Text.hasSurrogate_append, hasSurrogate_itemSeparator plain,
        hasSurrogate_newline, hasSurrogate_renderAt first, hasSurrogate_renderItems others,
        Bool.or_false]

theorem hasSurrogate_renderMembers : ∀ {members : List (Text × Json)},
    (∀ s ∈ stringsOfMembers members, s.hasSurrogate = false) →
      ∀ depth : Nat, (renderMembers layout depth members).hasSurrogate = false
  | [], _, _ => rfl
  | (key, value) :: members, whole, depth => by
      obtain ⟨keyWhole, rest⟩ := List.forall_mem_cons.mp whole
      obtain ⟨first, others⟩ := List.forall_mem_append.mp rest
      simp only [renderMembers, plain.raw, Text.hasSurrogate_append,
        hasSurrogate_itemSeparator plain, hasSurrogate_newline, hasSurrogate_quote keyWhole,
        hasSurrogate_keySeparator plain, hasSurrogate_renderAt first,
        hasSurrogate_renderMembers others, Bool.or_false]

end

theorem hasSurrogate_render {v : Json} (whole : ∀ s ∈ v.strings, s.hasSurrogate = false) :
    (render layout v).hasSurrogate = false :=
  hasSurrogate_renderAt plain whole 0

end Rendering

end Json

end SearchTuning
