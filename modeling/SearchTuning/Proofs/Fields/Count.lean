import SearchTuning.Proofs.Json.Readable
import SearchTuning.Proofs.Tries.Taken
import SearchTuning.Settings

/-!
# Whole numbers that are given

A whole number is taken from a field or a setting only if it has few enough digits to be read from a
document: no reader takes more digits than that, wherever they stand.
-/

namespace SearchTuning

open Numeral (digitLimit digits? value)

namespace Numeral

theorem length_of_mapM {α β : Type} {f : α → Option β} {as : List α} {bs : List β}
    (read : as.mapM f = some bs) : bs.length = as.length := by
  induction as generalizing bs with
  | nil =>
    cases read
    rfl
  | cons a as ih =>
    rw [List.mapM_cons] at read
    obtain ⟨b, -, read⟩ := Option.bind_eq_some_iff.mp read
    obtain ⟨rest, readRest, eq⟩ := Option.bind_eq_some_iff.mp read
    cases eq
    rw [List.length_cons, List.length_cons, ih readRest]

theorem eq_ofDigit_of_digitValue? {c : CodePoint} {d : Fin 10} (read : c.digitValue? = some d) :
    c = CodePoint.ofDigit d := by
  rw [CodePoint.digitValue?] at read
  split at read
  · cases read
    apply Fin.ext
    simp only [CodePoint.ofDigit]
    omega
  · cases read

/-- A text that is all digits is written with them. -/
theorem eq_map_of_digits? {t : Text} {ds : List (Fin 10)} (read : digits? t = some ds) :
    t = ds.map CodePoint.ofDigit := by
  induction t generalizing ds with
  | nil =>
    cases read
    rfl
  | cons c t ih =>
    rw [digits?, List.mapM_cons] at read
    obtain ⟨d, first, read⟩ := Option.bind_eq_some_iff.mp read
    obtain ⟨rest, readRest, eq⟩ := Option.bind_eq_some_iff.mp read
    cases eq
    rw [List.map_cons, ← eq_ofDigit_of_digitValue? first, ← ih readRest]

end Numeral

theorem Scalar.readable_of_lt {n : Int} (small : n.natAbs < 10 ^ digitLimit) :
    (Scalar.int n).Readable :=
  Numeral.length_digits_le (by decide) small

namespace Coerce

/-! ## Texts -/

/-- A plain number is written with its digits, and no zero before others. -/
theorem exists_of_plainNat? {t : Text} {k : Nat} (read : plainNat? t = some k) :
    ∃ ds : List (Fin 10), t = ds.map CodePoint.ofDigit ∧ k = value ds ∧
      (ds.head? = some 0 → value ds = 0) := by
  rw [plainNat?] at read
  split at read
  · cases read
  · cases read
  · next d found =>
    cases read
    refine ⟨[d], Numeral.eq_map_of_digits? found, (Numeral.value_singleton d).symm, ?_⟩
    intro zero
    cases zero
    rfl
  · next d ds _ found =>
    split at read
    · cases read
    · next nonzero =>
      cases read
      refine ⟨d :: ds, Numeral.eq_map_of_digits? found, rfl, ?_⟩
      intro zero
      cases zero
      exact absurd rfl nonzero

theorem exists_of_plainInt? {t : Text} {n : Int} (read : plainInt? t = some n) :
    ∃ negative ds, t = Json.signed negative (ds.map CodePoint.ofDigit) ∧ n.natAbs = value ds ∧
      (ds.head? = some 0 → value ds = 0) := by
  cases t with
  | nil => cases read
  | cons c rest =>
    rw [plainInt?] at read
    split at read
    · next minus =>
      obtain ⟨k, given, rfl⟩ := Option.map_eq_some_iff.mp read
      obtain ⟨ds, written, rfl, first⟩ := exists_of_plainNat? given
      exact ⟨true, ds, by rw [minus, written]; rfl, Int.natAbs_neg _, first⟩
    · obtain ⟨k, given, rfl⟩ := Option.map_eq_some_iff.mp read
      obtain ⟨ds, written, rfl, first⟩ := exists_of_plainNat? given
      exact ⟨false, ds, written, rfl, first⟩

theorem isOverlong_signed (negative : Bool) (ds : List (Fin 10)) :
    isOverlong (Json.signed negative (ds.map CodePoint.ofDigit)) =
      (decide (ds.head? ≠ some 0) && decide (digitLimit < negative.toNat + ds.length)) := by
  have run := Numeral.takeWhile_digits ds Numeral.endsRun_nil
  rw [List.append_nil] at run
  have zero : ∀ d : Fin 10, CodePoint.ofDigit d = CodePoint.ofChar '0' ↔ d = 0 := by decide
  have digit : ∀ d : Fin 10, CodePoint.ofDigit d ≠ CodePoint.ofChar '-' := by decide
  have first : (ds.map CodePoint.ofDigit).head? = some (CodePoint.ofChar '0') ↔
      ds.head? = some 0 := by
    cases ds with
    | nil => simp
    | cons d ds => simp [zero]
  have unsigned : (ds.map CodePoint.ofDigit).head? ≠ some (CodePoint.ofChar '-') := by
    cases ds with
    | nil => simp
    | cons d ds => simp [digit]
  have length : (ds.map CodePoint.ofDigit).length = ds.length := List.length_map _
  generalize ds.map CodePoint.ofDigit = t at run first unsigned length
  cases negative with
  | true => simp [isOverlong, Json.signed, run, first, length]
  | false => simp [isOverlong, Json.signed, unsigned, run, first, length]

theorem readable_of_plainInt? {t : Text} {n : Int} (read : plainInt? t = some n)
    (short : isOverlong t = false ∨ t.length ≤ digitLimit) : (Scalar.int n).Readable := by
  obtain ⟨negative, ds, rfl, size, first⟩ := exists_of_plainInt? read
  apply Scalar.readable_of_lt
  rw [size]
  by_cases zero : ds.head? = some 0
  · rw [first zero]
    exact Nat.pow_pos (by decide)
  · apply Numeral.value_lt_pow_of_length_le
    rcases short with short | short
    · simp only [isOverlong_signed, zero, ne_eq, not_false_eq_true, decide_true, Bool.true_and,
        decide_eq_false_iff_not] at short
      omega
    · cases negative with
      | true =>
        rw [Json.signed, if_pos rfl, List.length_cons, List.length_map] at short
        exact Nat.le_of_succ_le short
      | false =>
        rw [Json.signed, if_neg Bool.false_ne_true, List.length_map] at short
        exact short

theorem readable_of_intOfText {t : Text} {n : Int} (read : intOfText t = .ok n) :
    (Scalar.int n).Readable := by
  rw [intOfText] at read
  split at read
  · cases read
  split at read
  · cases read
  · next short =>
    split at read
    · next found =>
      cases read
      exact readable_of_plainInt? found (.inl (Bool.eq_false_iff.mpr short))
    · next tidied _ _ =>
      rw [intOfTidied] at read
      split at read
      · next found =>
        cases read
        split at found
        · next few => exact readable_of_plainInt? found (.inr few)
        · cases found
      · cases read
    · cases read

/-! ## Values -/

/-- A number of 64 bits has few enough digits. -/
theorem readable_of_word {n : Int} (least : leastWord < n) (greatest : n ≤ greatestWord) :
    (Scalar.int n).Readable := by
  have small : n.natAbs < 10 ^ 19 := by
    rw [leastWord] at least
    rw [greatestWord] at greatest
    omega
  exact Nat.le_trans (Numeral.length_digits_le (by decide) small) (by decide)

theorem readable_of_int {room : Nat} {v : Json} (given : v.Readable room) {n : Int}
    (read : int v = .ok n) : (Scalar.int n).Readable := by
  cases given with
  | scalar few =>
    rename_i s
    cases s with
    | null => cases read
    | bool b =>
      cases b <;> cases read <;> exact readable_of_word (by decide) (by decide)
    | int k =>
      cases read
      exact few
    | double x =>
      rw [int] at read
      split at read
      · split at read
        · split at read
          · next bounds =>
            cases read
            exact readable_of_word bounds.1 bounds.2
          · cases read
        · cases read
      · cases read
  | str s => exact readable_of_intOfText read
  | arr each => cases read
  | obj each => cases read

theorem readable_of_count {room : Nat} {v : Json} (given : v.Readable room) {n : Int}
    (read : count v = .ok n) : (Scalar.int n).Readable := by
  rw [count] at read
  cases whole : int v with
  | error refusal =>
    rw [whole] at read
    cases read
  | ok k =>
    rw [whole] at read
    change (if k < 0 then _ else _) = _ at read
    split at read
    · cases read
    · cases read
      exact readable_of_int given whole

end Coerce

/-! ## Submitted fields -/

theorem TryFields.readable_of_ofMembers [Platform] {room : Nat} {members : Record.Members}
    (given : ∀ member ∈ members, member.2.Readable room) {fields : TryFields}
    (read : ofMembers members = .valid fields) {n : Int} (rows : fields.numberOfRows = some n) :
    (Scalar.int n).Readable := by
  have takes := (ofMembers_eq_valid_iff.mp read).numberOfRows
  rw [rows] at takes
  obtain ⟨member, there, counted⟩ := takes.exists_member
  exact Coerce.readable_of_count (given member there) counted

/-! ## Settings -/

namespace Settings

theorem lt_pow_of_readNat? {t : Text} {k : Nat} (read : Numeral.readNat? t = some k) :
    k < 10 ^ digitLimit := by
  simp only [Numeral.readNat?] at read
  split at read
  · cases read
  · next allowed =>
    obtain ⟨ds, found, rfl⟩ := Option.map_eq_some_iff.mp read
    apply Numeral.value_lt_pow_of_length_le
    rw [Numeral.length_of_mapM found]
    exact Nat.le_of_not_lt fun long => allowed (.inr long)

theorem readable_of_readInt? {t : Text} {n : Int} (read : Numeral.readInt? t = some n) :
    (Scalar.int n).Readable := by
  rw [Numeral.readInt?] at read
  split at read
  · cases read
  split at read
  · obtain ⟨k, given, rfl⟩ := Option.map_eq_some_iff.mp read
    exact Scalar.readable_of_lt (by rw [Int.natAbs_neg]; exact lt_pow_of_readNat? given)
  split at read
  · obtain ⟨k, given, rfl⟩ := Option.map_eq_some_iff.mp read
    exact Scalar.readable_of_lt (lt_pow_of_readNat? given)
  · obtain ⟨k, given, rfl⟩ := Option.map_eq_some_iff.mp read
    exact Scalar.readable_of_lt (lt_pow_of_readNat? given)

/-- The number of rows of every engine's defaults is one that can be read from a document. -/
theorem readable_of_load {env : Environment} {config : Config} (loaded : load env = .ok config)
    {tag : Text} {defaults : EngineDefaults} (found : config.defaultsFor tag = .ok defaults) :
    (Scalar.int defaults.numberOfRows).Readable := by
  rw [load] at loaded
  obtain ⟨rows, read, eq⟩ := exists_of_bind_eq_ok loaded
  cases eq
  have readable : (Scalar.int rows).Readable := by
    rw [int] at read
    split at read
    · cases read
      exact Coerce.readable_of_word (by decide) (by decide)
    · split at read
      · next given =>
        cases read
        exact readable_of_readInt? given
      · cases read
  rw [Config.defaultsFor] at found
  split at found
  · next there =>
    cases found
    obtain ⟨engine, -, eq⟩ := List.mem_map.mp (Table.mem_of_get? there)
    cases eq
    exact readable
  · cases found

end Settings

end SearchTuning
