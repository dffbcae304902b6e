import SearchTuning.Json.Reader
import SearchTuning.Proofs.Json.Literal

/-!
# String literals among tokens

What spells the places of a literal is read as that literal, and nothing else is: a text in which a
literal has begun either goes on with what spells one, or has a token that no document holds.
Blanks behind a text change none of its tokens.
-/

namespace SearchTuning.Json

open Literal (Piece Spells)

theorem tokensFrom_cons {scan next : Scan} {c : CodePoint} {ended : List Token}
    (stepped : scan.step c = some (ended, next)) (t : Text) :
    tokensFrom scan (c :: t) = ended ++ tokensFrom next t := by
  rw [tokensFrom, stepped]

/-- A text that goes on has a step for its first code point. -/
theorem exists_step {scan : Scan} {c : CodePoint} {t : Text}
    (good : Token.bad ∉ tokensFrom scan (c :: t)) :
    ∃ ended next, scan.step c = some (ended, next) ∧ Token.bad ∉ tokensFrom next t := by
  cases stepped : scan.step c with
  | none =>
    rw [tokensFrom, stepped] at good
    exact absurd List.mem_cons_self good
  | some taken =>
    obtain ⟨ended, next⟩ := taken
    rw [tokensFrom_cons stepped] at good
    exact ⟨ended, next, rfl, fun member => good (List.mem_append_right ended member)⟩

/-! ## Reading a literal -/

theorem step_quote (read : List Piece) :
    Scan.step (.string read) '"' = some ([.str read.reverse], .between) := by
  rw [Scan.step, if_pos rfl]

theorem step_backslash (read : List Piece) :
    Scan.step (.string read) '\\' = some ([], .escape read) := by
  rw [Scan.step, if_neg (by decide), if_pos rfl]

theorem step_plain (read : List Piece) {c : CodePoint} (quote : c ≠ '"') (backslash : c ≠ '\\')
    (visible : ¬ c.val < 0x20) :
    Scan.step (.string read) c = some ([], .string (.plain c :: read)) := by
  rw [Scan.step, if_neg quote, if_neg backslash, if_neg visible]

theorem step_named (read : List Piece) {letter c : CodePoint}
    (name : Literal.named? letter = some c) :
    Scan.step (.escape read) letter = some ([], .string (.named c :: read)) := by
  have other : letter ≠ 'u' := by
    rintro rfl
    rw [(by decide : Literal.named? (CodePoint.ofChar 'u') = none)] at name
    cases name
  rw [Scan.step, if_neg other, name, Option.map_some]

theorem step_u (read : List Piece) :
    Scan.step (.escape read) 'u' = some ([], .unit read []) := by
  rw [Scan.step, if_pos rfl]

/-- Where reading stands after a further digit of a unit, whose digits are in reverse. -/
def afterDigit (read : List Piece) (d : Fin 16) : List (Fin 16) → Scan
  | [x, y, z] => .string (.unit (unitOfDigits z y x d) :: read)
  | digits => .unit read (d :: digits)

theorem step_digit (read : List Piece) (digits : List (Fin 16)) {c : CodePoint} {d : Fin 16}
    (hex : c.hexValue? = some d) :
    Scan.step (.unit read digits) c = some ([], afterDigit read d digits) := by
  rw [Scan.step, hex]
  rcases digits with _ | ⟨x, _ | ⟨y, _ | ⟨z, _ | ⟨w, digits⟩⟩⟩⟩ <;> rfl

theorem tokensFrom_spells {body : Text} {pieces : List Piece} (spells : Spells body pieces)
    (read : List Piece) (rest : Text) :
    tokensFrom (.string read) (body ++ CodePoint.ofChar '"' :: rest) =
      .str (read.reverse ++ pieces) :: tokensFrom .between rest := by
  induction spells generalizing read with
  | nil =>
    rw [List.nil_append, tokensFrom_cons (step_quote read), List.append_nil]
    rfl
  | plain quote backslash visible _ ih =>
    rw [List.cons_append, tokensFrom_cons (step_plain read quote backslash visible),
      List.nil_append, ih, List.reverse_cons, List.append_assoc]
    rfl
  | named name _ ih =>
    rw [List.cons_append, List.cons_append, tokensFrom_cons (step_backslash read), List.nil_append,
      tokensFrom_cons (step_named read name), List.nil_append, ih, List.reverse_cons,
      List.append_assoc]
    rfl
  | unit first second third fourth _ ih =>
    simp only [List.cons_append]
    rw [tokensFrom_cons (step_backslash read), List.nil_append, tokensFrom_cons (step_u read),
      List.nil_append, tokensFrom_cons (step_digit read [] first), List.nil_append, afterDigit,
      tokensFrom_cons (step_digit read _ second), List.nil_append, afterDigit,
      tokensFrom_cons (step_digit read _ third), List.nil_append, afterDigit,
      tokensFrom_cons (step_digit read _ fourth), List.nil_append, afterDigit, ih,
      List.reverse_cons, List.append_assoc]
    all_goals simp

/-! ## Nothing else is a literal -/

theorem exists_digit {read : List Piece} {digits : List (Fin 16)} {t : Text}
    (good : Token.bad ∉ tokensFrom (.unit read digits) t) :
    ∃ c d rest, t = c :: rest ∧ c.hexValue? = some d ∧
      Token.bad ∉ tokensFrom (afterDigit read d digits) rest := by
  cases t with
  | nil => exact absurd List.mem_cons_self good
  | cons c t =>
    obtain ⟨ended, next, stepped, good⟩ := exists_step good
    cases hex : c.hexValue? with
    | none =>
      rw [Scan.step, hex] at stepped
      cases stepped
    | some d =>
      rw [step_digit read digits hex] at stepped
      cases stepped
      exact ⟨c, d, t, rfl, hex, good⟩

/-- A literal that has begun in a text of good tokens goes on, up to a quote, with what spells
one. -/
theorem exists_spells {read : List Piece} {t : Text}
    (good : Token.bad ∉ tokensFrom (.string read) t) :
    ∃ body pieces rest, t = body ++ CodePoint.ofChar '"' :: rest ∧ Spells body pieces := by
  induction size : t.length using Nat.strongRecOn generalizing t read with
  | _ n shorter =>
    cases t with
    | nil => exact absurd List.mem_cons_self good
    | cons c t =>
      obtain ⟨ended, next, stepped, good⟩ := exists_step good
      by_cases quote : c = '"'
      · subst quote
        exact ⟨[], [], t, rfl, .nil⟩
      by_cases backslash : c = '\\'
      · subst backslash
        rw [step_backslash] at stepped
        cases stepped
        cases t with
        | nil => exact absurd List.mem_cons_self good
        | cons letter t =>
          obtain ⟨ended, next, stepped, good⟩ := exists_step good
          by_cases four : letter = 'u'
          · subst four
            rw [step_u] at stepped
            cases stepped
            obtain ⟨a, x, t, rfl, first, good⟩ := exists_digit good
            obtain ⟨b, y, t, rfl, second, good⟩ := exists_digit good
            obtain ⟨c, z, t, rfl, third, good⟩ := exists_digit good
            obtain ⟨d, w, t, rfl, fourth, good⟩ := exists_digit good
            obtain ⟨body, pieces, rest, eq, spells⟩ :=
              shorter t.length (by simp at size; omega) good rfl
            exact ⟨_, _, rest, by rw [eq]; rfl, .unit first second third fourth spells⟩
          · cases name : Literal.named? letter with
            | none =>
              rw [Scan.step, if_neg four, name] at stepped
              cases stepped
            | some d =>
              rw [step_named read name] at stepped
              cases stepped
              obtain ⟨body, pieces, rest, eq, spells⟩ :=
                shorter t.length (by simp at size; omega) good rfl
              exact ⟨_, _, rest, by rw [eq]; rfl, .named name spells⟩
      · by_cases visible : c.val < 0x20
        · rw [Scan.step, if_neg quote, if_neg backslash, if_pos visible] at stepped
          cases stepped
        · rw [step_plain read quote backslash visible] at stepped
          cases stepped
          obtain ⟨body, pieces, rest, eq, spells⟩ :=
            shorter t.length (by simp at size; omega) good rfl
          exact ⟨_, _, rest, by rw [eq]; rfl, .plain quote backslash visible spells⟩

/-! ## Blanks behind a text -/

theorem isSpace_iff {c : CodePoint} :
    isSpace c = true ↔ c = ' ' ∨ c = '\t' ∨ c = '\n' ∨ c = '\r' := by
  simp only [isSpace, Bool.or_eq_true, decide_eq_true_eq, or_assoc]

theorem not_isWordPoint_of_isSpace {c : CodePoint} (space : isSpace c = true) :
    isWordPoint c = false := by
  rcases isSpace_iff.mp space with rfl | rfl | rfl | rfl <;> decide

/-- Inside a literal a blank is a place of it or what no literal holds. -/
theorem step_string_of_isSpace (read : List Piece) {c : CodePoint}
    (space : isSpace c = true) :
    Scan.step (.string read) c = none ∨
      Scan.step (.string read) c = some ([], .string (.plain c :: read)) := by
  rcases isSpace_iff.mp space with rfl | rfl | rfl | rfl
  · exact .inr (step_plain read (by decide) (by decide) (by decide))
  all_goals exact .inl rfl

theorem step_escape_of_isSpace (read : List Piece) {c : CodePoint}
    (space : isSpace c = true) : Scan.step (.escape read) c = none := by
  rcases isSpace_iff.mp space with rfl | rfl | rfl | rfl <;> rfl

theorem step_unit_of_isSpace (read : List Piece) (digits : List (Fin 16)) {c : CodePoint}
    (space : isSpace c = true) : Scan.step (.unit read digits) c = none := by
  rcases isSpace_iff.mp space with rfl | rfl | rfl | rfl <;> rfl

/-- Blanks behind what has been read of a text are like the end of the text: they end a word as it
does, and a literal that is cut off stays cut off. -/
theorem tokensFrom_of_blanks (scan : Scan) {blanks : Text} (space : ∀ c ∈ blanks, isSpace c = true) :
    tokensFrom scan blanks = scan.finish := by
  induction blanks generalizing scan with
  | nil => rfl
  | cons c blanks ih =>
    obtain ⟨here, later⟩ := List.forall_mem_cons.mp space
    have begun : start c = some ([], .between) := if_pos here
    cases scan with
    | between =>
      have stepped : Scan.step .between c = some ([], .between) := begun
      rw [tokensFrom_cons stepped, ih .between later]
      rfl
    | word read =>
      rw [tokensFrom, Scan.step, not_isWordPoint_of_isSpace here, begun, Scan.finish]
      cases scalar? read.reverse with
      | none => rfl
      | some s => exact congrArg ([Token.scalar s] ++ ·) (ih .between later)
    | string read =>
      rcases step_string_of_isSpace read here with stuck | stepped
      · rw [tokensFrom, stuck]
        rfl
      · rw [tokensFrom_cons stepped, ih _ later]
        rfl
    | escape read =>
      rw [tokensFrom, step_escape_of_isSpace read here]
      rfl
    | unit read digits =>
      rw [tokensFrom, step_unit_of_isSpace read digits here]
      rfl

theorem tokensFrom_append_blanks (scan : Scan) (t : Text) {blanks : Text}
    (space : ∀ c ∈ blanks, isSpace c = true) :
    tokensFrom scan (t ++ blanks) = tokensFrom scan t := by
  induction t generalizing scan with
  | nil => exact tokensFrom_of_blanks scan space
  | cons c t ih =>
    rw [List.cons_append, tokensFrom, tokensFrom]
    cases scan.step c with
    | none => rfl
    | some taken => exact congrArg (taken.1 ++ ·) (ih taken.2)

/-- Blanks behind a text change nothing of what it is read as. -/
theorem read_append_blanks [Platform] (t : Text) {blanks : Text}
    (space : ∀ c ∈ blanks, isSpace c = true) : read (t ++ blanks) = read t := by
  rw [read, read, readRaw, readRaw, tokens, tokensFrom_append_blanks .between t space, tokens]

end SearchTuning.Json
