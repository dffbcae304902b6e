import SearchTuning.Json.Reader

/-!
# How deep a text nests

The brackets and braces of a text, counted one by one, tell how many containers are open at once.  A
reader that has not failed holds just so many open, so it fails on the depth of a text only if the
text nests deeper than any reader goes.
-/

namespace SearchTuning.Json

/-- How many containers are open after a token, where so many were open before it. -/
def openAfter : Token → Nat → Nat
  | .mark .openBracket, n | .mark .openBrace, n => n + 1
  | .mark .closeBracket, n | .mark .closeBrace, n => n - 1
  | _, n => n

/-- The most containers that are open at once, where so many are open before the tokens. -/
def mostOpen : Nat → List Token → Nat
  | n, [] => n
  | n, token :: rest => max n (mostOpen (openAfter token n) rest)

/-- The most containers that are open at once in a text. -/
def nesting (t : Text) : Nat := mostOpen 0 (tokens t)

theorem le_mostOpen (n : Nat) (tokens : List Token) : n ≤ mostOpen n tokens := by
  cases tokens with
  | nil => exact Nat.le_refl n
  | cons token rest => exact Nat.le_max_left _ _

theorem mostOpen_openAfter_le (n : Nat) (token : Token) (rest : List Token) :
    mostOpen (openAfter token n) rest ≤ mostOpen n (token :: rest) := Nat.le_max_right _ _

namespace Reader

/-- How many containers are open. -/
def depth : Reader → Nat
  | .value outer | .complete _ outer => outer.length
  | .firstItem outer | .firstKey outer | .nextKey _ outer | .colon _ _ outer => outer.length + 1

variable [Platform]

theorem depth_begin {outer : List Frame} {token : Token} {next : Reader}
    (begun : begin outer token = .ok next) : next.depth = openAfter token outer.length := by
  cases token with
  | scalar s =>
    cases begun
    rfl
  | str pieces =>
    cases begun
    rfl
  | bad => cases begun
  | mark m =>
    cases m with
    | openBracket =>
      rw [begin] at begun
      split at begun
      · cases begun
        rfl
      · cases begun
    | openBrace =>
      rw [begin] at begun
      split at begun
      · cases begun
        rfl
      · cases begun
    | _ => cases begun

/-- The first item of an array begins like any value, unless the array ends at once. -/
theorem step_firstItem {outer : List Frame} {token : Token} (other : token ≠ .mark .closeBracket) :
    step (.firstItem outer) token = begin (.items [] :: outer) token := by
  cases token with
  | mark m => cases m <;> first | rfl | exact absurd rfl other
  | _ => rfl

theorem depth_step {reader next : Reader} {token : Token}
    (stepped : reader.step token = .ok next) : next.depth = openAfter token reader.depth := by
  cases reader with
  | value outer => exact depth_begin stepped
  | firstItem outer =>
    by_cases close : token = .mark .closeBracket
    · subst close
      cases stepped
      rfl
    · rw [step_firstItem close] at stepped
      exact depth_begin stepped
  | firstKey outer =>
    cases token with
    | str key =>
      cases stepped
      rfl
    | mark m =>
      cases m <;> cases stepped
      rfl
    | _ => cases stepped
  | nextKey done outer =>
    cases token with
    | str key =>
      cases stepped
      rfl
    | _ => cases stepped
  | colon done key outer =>
    cases token with
    | mark m =>
      cases m <;> cases stepped
      rfl
    | _ => cases stepped
  | complete v outer =>
    cases outer with
    | nil => cases stepped
    | cons frame outer =>
      cases frame with
      | items done =>
        cases token with
        | mark m => cases m <;> cases stepped <;> rfl
        | _ => cases stepped
      | members done key =>
        cases token with
        | mark m => cases m <;> cases stepped <;> rfl
        | _ => cases stepped

theorem lt_openAfter_of_begin {outer : List Frame} {token : Token} {container : Container}
    (deep : begin outer token = .error (.tooDeep container)) :
    Platform.reading < openAfter token outer.length := by
  cases token with
  | mark m =>
    cases m with
    | openBracket =>
      rw [begin] at deep
      split at deep
      · cases deep
      · next full => exact Nat.lt_succ_of_le (Nat.le_of_not_lt full)
    | openBrace =>
      rw [begin] at deep
      split at deep
      · cases deep
      · next full => exact Nat.lt_succ_of_le (Nat.le_of_not_lt full)
    | _ => cases deep
  | _ => cases deep

/-- A reader fails on the depth only with a container more than any reader holds open. -/
theorem lt_openAfter_of_step {reader : Reader} {token : Token} {container : Container}
    (deep : reader.step token = .error (.tooDeep container)) :
    Platform.reading < openAfter token reader.depth := by
  cases reader with
  | value outer => exact lt_openAfter_of_begin deep
  | firstItem outer =>
    by_cases close : token = .mark .closeBracket
    · subst close
      cases deep
    · rw [step_firstItem close] at deep
      exact lt_openAfter_of_begin deep
  | firstKey outer =>
    cases token with
    | mark m => cases m <;> cases deep
    | _ => cases deep
  | nextKey done outer => cases token <;> cases deep
  | colon done key outer =>
    cases token with
    | mark m => cases m <;> cases deep
    | _ => cases deep
  | complete v outer =>
    cases outer with
    | nil => cases deep
    | cons frame outer =>
      cases frame <;> cases token with
      | mark m => cases m <;> cases deep
      | _ => cases deep

theorem lt_mostOpen_of_run {tokens : List Token} {reader : Reader} {container : Container}
    (deep : run reader tokens = .error (.tooDeep container)) :
    Platform.reading < mostOpen reader.depth tokens := by
  induction tokens generalizing reader with
  | nil => cases deep
  | cons token tokens ih =>
    rw [run] at deep
    refine Nat.lt_of_lt_of_le ?_ (mostOpen_openAfter_le reader.depth token tokens)
    cases stepped : reader.step token with
    | error e =>
      rw [stepped] at deep
      cases deep
      exact Nat.lt_of_lt_of_le (lt_openAfter_of_step stepped) (le_mostOpen _ _)
    | ok next =>
      rw [stepped] at deep
      rw [← depth_step stepped]
      exact ih deep

theorem depth_le_of_begin {outer : List Frame} {token : Token} {next : Reader}
    (begun : begin outer token = .ok next) (within : outer.length ≤ Platform.reading) :
    next.depth ≤ Platform.reading := by
  cases token with
  | mark m =>
    cases m with
    | openBracket =>
      rw [begin] at begun
      split at begun
      · next free =>
        cases begun
        exact free
      · cases begun
    | openBrace =>
      rw [begin] at begun
      split at begun
      · next free =>
        cases begun
        exact free
      · cases begun
    | _ => cases begun
  | bad => cases begun
  | _ =>
    cases begun
    exact within

/-- A reader never holds more containers open than the limit. -/
theorem depth_le_of_step {reader next : Reader} {token : Token}
    (stepped : reader.step token = .ok next) (within : reader.depth ≤ Platform.reading) :
    next.depth ≤ Platform.reading := by
  by_cases opens : token = .mark .openBracket ∨ token = .mark .openBrace
  · cases reader with
    | value outer => exact depth_le_of_begin stepped within
    | firstItem outer =>
      have other : token ≠ .mark .closeBracket := by rcases opens with rfl | rfl <;> decide
      rw [step_firstItem other] at stepped
      exact depth_le_of_begin stepped within
    | complete v outer =>
      rcases opens with rfl | rfl <;> rcases outer with _ | ⟨_ | _, outer⟩ <;> cases stepped
    | _ => rcases opens with rfl | rfl <;> cases stepped
  · rw [depth_step stepped]
    refine Nat.le_trans ?_ within
    cases token with
    | mark m =>
      cases m with
      | openBracket => exact absurd (.inl rfl) opens
      | openBrace => exact absurd (.inr rfl) opens
      | closeBracket => exact Nat.sub_le _ _
      | closeBrace => exact Nat.sub_le _ _
      | _ => exact Nat.le_refl _
    | _ => exact Nat.le_refl _

theorem mostOpen_le_of_run {tokens : List Token} {reader last : Reader}
    (ran : run reader tokens = .ok last) (within : reader.depth ≤ Platform.reading) :
    mostOpen reader.depth tokens ≤ Platform.reading := by
  induction tokens generalizing reader with
  | nil => exact within
  | cons token tokens ih =>
    rw [run] at ran
    cases stepped : reader.step token with
    | error e =>
      rw [stepped] at ran
      cases ran
    | ok next =>
      rw [stepped] at ran
      rw [mostOpen, ← depth_step stepped]
      exact Nat.max_le.mpr ⟨within, ih ran (depth_le_of_step stepped within)⟩

end Reader

/-- A text that is a document nests no deeper than any reader goes. -/
theorem nesting_le_of_readRaw [Platform] {t : Text} {document : Node Raw}
    (read : readRaw t = .ok document) :
    nesting t ≤ Platform.reading := by
  rw [readRaw] at read
  cases ran : Reader.run (.value []) (tokens t) with
  | error e =>
    rw [ran] at read
    cases read
  | ok last => exact Reader.mostOpen_le_of_run ran (Nat.zero_le Platform.reading)

/-- Only a text that nests deeper than any reader goes is refused for its depth. -/
theorem lt_nesting_of_read [Platform] {t : Text} {container : Container}
    (deep : read t = .error (.tooDeep container)) : Platform.reading < nesting t := by
  rw [read, readRaw] at deep
  cases ran : Reader.run (.value []) (tokens t) with
  | error e =>
    rw [ran] at deep
    cases deep
    exact Reader.lt_mostOpen_of_run ran
  | ok last =>
    rw [ran] at deep
    cases last with
    | complete v outer => cases outer <;> cases deep
    | _ => cases deep

/-! ## Brackets alone -/

/-- Opening brackets alone are read one by one. -/
theorem tokens_replicate_openBracket (n : Nat) :
    tokens (List.replicate n (CodePoint.ofChar '[')) =
      List.replicate n (.mark .openBracket) := by
  induction n with
  | zero => rfl
  | succ n ih =>
    rw [List.replicate_succ, List.replicate_succ, ← ih]
    rfl

theorem Reader.run_replicate_openBracket [Platform] {n : Nat} {outer : List Frame}
    (deep : Platform.reading ≤ outer.length + n) (begun : 0 < n) :
    run (.firstItem outer) (List.replicate n (.mark .openBracket)) = .error (.tooDeep .array) := by
  induction n generalizing outer with
  | zero => exact absurd begun (Nat.lt_irrefl 0)
  | succ n ih =>
    rw [List.replicate_succ, run, step_firstItem (by decide), begin]
    by_cases room : (Frame.items [] :: outer).length < Platform.reading
    · rw [if_pos room]
      rw [List.length_cons] at room
      exact ih (by rw [List.length_cons]; omega) (by omega)
    · rw [if_neg room]
      rfl

/-- More opening brackets than a reader goes deep are not read. -/
theorem read_replicate_openBracket [Platform] {n : Nat} (deep : Platform.reading < n) :
    read (List.replicate n (CodePoint.ofChar '[')) = .error (.tooDeep .array) := by
  obtain ⟨k, rfl⟩ : ∃ k, n = k + 1 := ⟨n - 1, by omega⟩
  rw [read, readRaw, tokens_replicate_openBracket, List.replicate_succ, Reader.run, Reader.step,
    Reader.begin]
  by_cases room : ([] : List Frame).length < Platform.reading
  · rw [if_pos room]
    rw [List.length_nil] at room
    have failed : Reader.run (.firstItem []) (List.replicate k (.mark .openBracket)) =
        .error (.tooDeep .array) :=
      Reader.run_replicate_openBracket (by rw [List.length_nil]; omega) (by omega)
    change ((Reader.run (.firstItem []) _ >>= _).map ofRaw) = _
    rw [failed]
    rfl
  · rw [if_neg room]
    rfl

end SearchTuning.Json
