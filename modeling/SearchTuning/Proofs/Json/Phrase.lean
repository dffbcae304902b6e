import SearchTuning.Args
import SearchTuning.Proofs.Json.Document
import SearchTuning.Proofs.Json.Tokens
import SearchTuning.Proofs.Template.Phrase

/-!
# Phrases in documents

An escaped phrase stays in the string literals that it is put into.  A mark stands in a literal, or
the text is no document; and it stands there between places of the literal, never within an escape.
So binding a phrase puts its places into literals, and changes nothing else of a document.
-/

namespace SearchTuning.Json

open Literal (Piece Spells Plain Solid pieces)
open Occurrences Template

/-! ## Marks in a literal -/

/-- The mark in a literal, each of its code points written as itself. -/
def markPieces : Raw := phraseMark.map .plain

/-- The literal with a phrase in the place of each mark. -/
def bindPieces (phrase : Text) (raw : Raw) : Raw :=
  List.intercalate (pieces phrase) (around markPieces raw)

/-- The text that a literal stands for, with a text in the place of each mark. -/
def textWith (value : Text) (raw : Raw) : Text :=
  List.intercalate value ((around markPieces raw).map Literal.decode)

theorem markPieces_ne_nil : markPieces ≠ [] :=
  mt List.map_eq_nil_iff.mp phraseMark_ne_nil

theorem plain_phraseMark : ∀ c ∈ phraseMark, Plain c :=
  forall_mem_phraseMark (by decide +kernel)

theorem bindPieces_mark_append (phrase : Text) (rest : Raw) :
    bindPieces phrase (markPieces ++ rest) = pieces phrase ++ bindPieces phrase rest := by
  rw [bindPieces, around_append markPieces_ne_nil,
    intercalate_nil_cons _ _ (around_ne_nil markPieces_ne_nil rest), bindPieces]

theorem bindPieces_cons (phrase : Text) {place : Piece} {rest : Raw}
    (absent : ¬ markPieces <+: place :: rest) :
    bindPieces phrase (place :: rest) = place :: bindPieces phrase rest := by
  rw [bindPieces, around_cons absent,
    intercalate_modifyHead_cons _ _ _ (around_ne_nil markPieces_ne_nil rest), bindPieces]

/-- What does not hold the sign that the mark begins with is passed over. -/
theorem bindPhrase_append (escaped : Text) {u : Text} (absent : CodePoint.ofChar '#' ∉ u)
    (rest : Text) : bindPhrase escaped (u ++ rest) = u ++ bindPhrase escaped rest :=
  Text.replace_append_of_not_mem absent rest

/-- A mark in what spells a literal is a mark in the literal. -/
theorem markPieces_prefix_iff {body : Text} {raw : Raw} (spells : Spells body raw) :
    markPieces <+: raw ↔ phraseMark <+: body := by
  constructor
  · rintro ⟨later, rfl⟩
    obtain ⟨rest, rfl, -⟩ := spells.of_map_plain
    exact List.prefix_append phraseMark rest
  · rintro ⟨rest, rfl⟩
    obtain ⟨later, rfl, -⟩ := spells.of_append plain_phraseMark
    exact List.prefix_append markPieces later

theorem hash_ne_of_hexValue? {c : CodePoint} {d : Fin 16} (hex : c.hexValue? = some d) :
    CodePoint.ofChar '#' ≠ c := by
  rintro rfl
  exact absurd hex (by simp [(by decide : (CodePoint.ofChar '#').hexValue? = none)])

theorem hash_ne_of_named? {letter c : CodePoint} (name : Literal.named? letter = some c) :
    CodePoint.ofChar '#' ≠ letter := by
  rintro rfl
  exact absurd name (by simp [(by decide : Literal.named? (CodePoint.ofChar '#') = none)])

/-- What spells a literal spells, with an escaped phrase bound, the literal with the phrase in the
place of marks. -/
theorem spells_bindPhrase (phrase : Text) {body : Text} {raw : Raw} (spells : Spells body raw) :
    Spells (bindPhrase (Literal.encode false phrase) body) (bindPieces phrase raw) := by
  induction size : body.length using Nat.strongRecOn generalizing body raw with
  | _ n shorter =>
    by_cases found : phraseMark <+: body
    · obtain ⟨rest, rfl⟩ := found
      obtain ⟨later, rfl, spelled⟩ := spells.of_append plain_phraseMark
      have pos := List.length_pos_iff.mpr phraseMark_ne_nil
      rw [List.length_append] at size
      have bound := shorter rest.length (by omega) spelled rfl
      rw [bindPhrase, Text.replace_append phraseMark_ne_nil]
      exact bindPieces_mark_append phrase later ▸ (Literal.spells_encode phrase).append bound
    · have absent := mt (markPieces_prefix_iff spells).mp found
      cases spells with
      | nil => exact .nil
      | plain quote backslash visible spells =>
        rw [List.length_cons] at size
        have bound := shorter _ (by omega) spells rfl
        rw [bindPieces_cons phrase absent, bindPhrase, Text.replace_cons found]
        exact .plain quote backslash visible bound
      | @named letter c t raw name spells =>
        have passed : CodePoint.ofChar '#' ∉ [CodePoint.ofChar '\\', letter] := by
          simp [hash_ne_of_named? name, (by decide : CodePoint.ofChar '#' ≠ CodePoint.ofChar '\\')]
        rw [List.length_cons, List.length_cons] at size
        have bound := shorter t.length (by omega) spells rfl
        rw [bindPieces_cons phrase absent]
        exact bindPhrase_append _ passed t ▸ .named name bound
      | @unit a b c d x y z w t raw first second third fourth spells =>
        have passed : CodePoint.ofChar '#' ∉
            [CodePoint.ofChar '\\', CodePoint.ofChar 'u', a, b, c, d] := by
          simp [hash_ne_of_hexValue? first, hash_ne_of_hexValue? second,
            hash_ne_of_hexValue? third, hash_ne_of_hexValue? fourth,
            (by decide : CodePoint.ofChar '#' ≠ CodePoint.ofChar '\\'),
            (by decide : CodePoint.ofChar '#' ≠ CodePoint.ofChar 'u')]
        simp only [List.length_cons] at size
        have bound := shorter t.length (by omega) spells rfl
        rw [bindPieces_cons phrase absent]
        exact bindPhrase_append _ passed t ▸ .unit first second third fourth bound

/-! ## Marks in a text -/

/-- Whether reading stands outside of string literals. -/
def Scan.Outside : Scan → Prop
  | .between | .word _ => True
  | _ => False

theorem between_outside : Scan.between.Outside := trivial

/-- The token is no string literal. -/
def Token.NoString : Token → Prop
  | .str _ => False
  | _ => True

theorem start_outside {c : CodePoint} {ended : List Token} {next : Scan}
    (started : start c = some (ended, next)) :
    c ≠ '#' ∧ (∀ token ∈ ended, token.NoString) ∧ (next.Outside ∨ next = .string []) := by
  refine ⟨?_, ?_⟩
  · rintro rfl
    rw [(by decide : start (CodePoint.ofChar '#') = none)] at started
    cases started
  unfold start at started
  split at started
  · cases started
    exact ⟨by simp, .inl trivial⟩
  split at started
  · cases started
    exact ⟨by simp, .inr rfl⟩
  split at started
  · cases started
    exact ⟨by simp, .inl trivial⟩
  · obtain ⟨m, -, eq⟩ := Option.map_eq_some_iff.mp started
    cases eq
    exact ⟨by simp [Token.NoString], .inl trivial⟩

/-- Outside of literals no mark goes on with a token, and reading comes to a literal only by its
quote. -/
theorem step_outside {scan next : Scan} (outside : scan.Outside) {c : CodePoint}
    {ended : List Token} (stepped : scan.step c = some (ended, next)) :
    c ≠ '#' ∧ (∀ token ∈ ended, token.NoString) ∧ (next.Outside ∨ next = .string []) := by
  cases scan with
  | between => exact start_outside stepped
  | word read =>
    rw [Scan.step] at stepped
    split at stepped
    · next inWord =>
      cases stepped
      refine ⟨?_, by simp, .inl trivial⟩
      rintro rfl
      exact absurd inWord (by decide)
    · obtain ⟨s, -, stepped⟩ := Option.bind_eq_some_iff.mp stepped
      obtain ⟨⟨tokens, after⟩, started, eq⟩ := Option.bind_eq_some_iff.mp stepped
      cases eq
      obtain ⟨other, noString, comes⟩ := start_outside started
      refine ⟨other, ?_, comes⟩
      rw [List.forall_mem_cons]
      exact ⟨trivial, noString⟩
  | _ => exact outside.elim

theorem finish_outside {scan : Scan} (outside : scan.Outside) :
    ∀ token ∈ scan.finish, token.NoString := by
  cases scan with
  | between => simp [Scan.finish]
  | word read =>
    rw [Scan.finish]
    split <;> simp [Token.NoString]
  | _ => exact outside.elim

theorem map_of_noString (f : Raw → Raw) {tokens : List Token}
    (noString : ∀ token ∈ tokens, token.NoString) : tokens.map (Token.map f) = tokens := by
  have same : ∀ token ∈ tokens, token.map f = id token := by
    intro token member
    cases token with
    | str pieces => exact (noString _ member).elim
    | _ => rfl
  rw [List.map_congr_left same, List.map_id]

/-- A text of good tokens has, with an escaped phrase bound, the same tokens with the phrase bound
in its literals. -/
theorem tokensFrom_bindPhrase (phrase : Text) {scan : Scan} (outside : scan.Outside) {t : Text}
    (good : Token.bad ∉ tokensFrom scan t) :
    tokensFrom scan (bindPhrase (Literal.encode false phrase) t) =
      (tokensFrom scan t).map (Token.map (bindPieces phrase)) := by
  induction size : t.length using Nat.strongRecOn generalizing t scan with
  | _ n shorter =>
    cases t with
    | nil => exact (map_of_noString _ (finish_outside outside)).symm
    | cons c t =>
      obtain ⟨ended, next, stepped, good⟩ := exists_step good
      obtain ⟨other, noString, comes⟩ := step_outside outside stepped
      rw [List.length_cons] at size
      have passed : CodePoint.ofChar '#' ∉ [c] := by
        simpa using Ne.symm other
      have here : bindPhrase (Literal.encode false phrase) (c :: t) =
          c :: bindPhrase (Literal.encode false phrase) t :=
        bindPhrase_append _ passed t
      rw [here, tokensFrom_cons stepped, tokensFrom_cons stepped, List.map_append,
        map_of_noString _ noString]
      rcases comes with outside | rfl
      · rw [shorter t.length (by omega) outside good rfl]
      · -- A literal has begun: it is read to its quote at once, and the mark holds no quote.
        obtain ⟨body, raw, rest, rfl, spells⟩ := exists_spells good
        have quote : CodePoint.ofChar '"' ∉ phraseMark := fun member =>
          (plain_phraseMark _ member).1 rfl
        rw [tokensFrom_spells spells, List.mem_cons, not_or] at good
        rw [List.length_append, List.length_cons] at size
        have later := shorter rest.length (by omega) between_outside good.2 rfl
        rw [bindPhrase, Text.replace_append_cons phraseMark_ne_nil quote,
          tokensFrom_spells spells, List.map_cons, ← later]
        exact congrArg (ended ++ ·) (tokensFrom_spells (spells_bindPhrase phrase spells) [] _)

/-- A document is read, with an escaped phrase bound, as the same document with the phrase bound in
its literals. -/
theorem readRaw_bindPhrase [Platform] (phrase : Text) {t : Text} {document : Node Raw}
    (parsed : readRaw t = .ok document) :
    readRaw (bindPhrase (Literal.encode false phrase) t) =
      .ok (document.map (bindPieces phrase)) := by
  have same := tokensFrom_bindPhrase phrase between_outside (bad_not_mem_tokens parsed)
  rw [readRaw_map same, parsed]
  rfl

/-! ## What the literals stand for -/

theorem decode_map_plain (t : Text) : Literal.decode (t.map .plain) = t := by
  induction t with
  | nil => rfl
  | cons c t ih => rw [List.map_cons, Literal.decode, ih]

theorem solid_markPieces : Solid markPieces := by
  refine ⟨markPieces_ne_nil, ?_⟩
  intro u member
  obtain ⟨c, -, eq⟩ := List.mem_map.mp member
  cases eq

/-- A literal stands for its parts with marks between them. -/
theorem decode_eq_textWith : Literal.decode = textWith phraseMark := by
  funext raw
  have parted := Literal.decode_intercalate solid_markPieces (around markPieces raw)
  rw [intercalate_around markPieces_ne_nil, markPieces, decode_map_plain] at parted
  exact parted

/-- With a phrase bound, a literal stands for its parts with the phrase between them. -/
theorem decode_bindPieces {phrase : Text} (given : phrase ≠ []) :
    Literal.decode ∘ bindPieces phrase = textWith phrase := by
  funext raw
  rw [Function.comp_apply, bindPieces, Literal.decode_intercalate (Literal.solid_pieces given),
    Literal.decode_pieces, textWith]

/-- A literal without a mark stands for the same whatever is put into marks. -/
theorem textWith_of_not_infix {raw : Raw} (absent : ¬ markPieces <:+: raw) (value : Text) :
    textWith value raw = Literal.decode raw := by
  rw [textWith, around_of_not_infix absent, List.map_singleton, List.intercalate_singleton]

theorem materialize_of_readRaw [Platform] {t : Text} {document : Node Raw}
    (parsed : readRaw t = .ok document) : Engine.es.materialize t = .ok (ofRaw document) := by
  rw [Engine.materialize, read, parsed]
  rfl

/-- A document none of whose keys holds a mark collapses as without marks, and its string values are
those of its literals with a text in the place of each mark. -/
theorem collapse_textWith {document : Node Raw}
    (clear : ∀ key ∈ document.keys, ¬ markPieces <:+: key) (value : Text) :
    collapse (document.map (textWith value)) =
      (document.collapseBy Literal.decode).mapParts Literal.decode (textWith value) := by
  rw [Node.map_eq_mapParts fun key member => textWith_of_not_infix (clear key member) value,
    Node.collapse_mapParts]

/-- A phrase stays in the string literals that it is put into.  The text with the phrase is a
document if the template's was: the same one but for the literals that hold a mark, each of which
stands for its parts with the clean phrase between them.  If no key holds a mark, what the template
comes to differs in nothing but its string values. -/
theorem phrase_stays_in_strings [Platform] (t phrase : Text) (given : phrase ≠ [])
    (document : Node Raw) (parsed : readRaw t = .ok document) :
    let clean := phrase.replaceSurrogates
    let bound := bindPhrase (Args.escaper .es true phrase) t
    readRaw bound = .ok (document.map (bindPieces clean)) ∧
    document.map Literal.decode = document.map (textWith phraseMark) ∧
    (document.map (bindPieces clean)).map Literal.decode = document.map (textWith clean) ∧
    ((∀ key ∈ document.keys, ¬ markPieces <:+: key) →
      let kept := document.collapseBy Literal.decode
      Engine.es.materialize t = .ok (kept.mapParts Literal.decode (textWith phraseMark)) ∧
      Engine.es.materialize bound = .ok (kept.mapParts Literal.decode (textWith clean))) ∧
    ∀ lookup template, fill lookup template = t →
      Args.compile .es true none lookup template = .ok (collapse (document.map Literal.decode)) ∧
      Args.compile .es true (some phrase) lookup template =
        .ok (collapse (document.map (textWith clean))) := by
  intro clean bound
  have filled : clean ≠ [] := Text.replaceSurrogates_ne_nil given
  have parsedBound : readRaw bound = .ok (document.map (bindPieces clean)) :=
    readRaw_bindPhrase clean parsed
  have decoded : (document.map (bindPieces clean)).map Literal.decode =
      document.map (textWith clean) := by
    rw [Node.map_map, decode_bindPieces filled]
  have before := materialize_of_readRaw parsed
  have after := materialize_of_readRaw parsedBound
  rw [ofRaw] at before
  rw [ofRaw, decoded] at after
  refine ⟨parsedBound, by rw [← decode_eq_textWith], decoded, ?_, ?_⟩
  · intro clear kept
    rw [before, after, decode_eq_textWith, collapse_textWith clear, collapse_textWith clear,
      ← decode_eq_textWith]
    exact ⟨rfl, rfl⟩
  · rintro lookup template rfl
    refine ⟨?_, ?_⟩
    · exact congrArg (Except.mapError Error.tooDeep) before
    · exact congrArg (Except.mapError Error.tooDeep) after

/-- A quote and a surrogate in a phrase end no literal. -/
theorem phrase_stays_in_strings_quote :
    letI := Platform.usual
    let t := Text.ofString "\x7b\"q\": [1, \"a #$query##\"]\x7d"
    let document : Node Raw :=
      .obj [([.plain 'q'],
        .arr [.int 1, .str (.plain 'a' :: .plain ' ' :: markPieces)])]
    let phrase : Text := [CodePoint.ofChar '"', 0xD800]
    phrase ≠ [] ∧ readRaw t = .ok document ∧
    readRaw (bindPhrase (Args.escaper .es true phrase) t) =
      .ok (document.map (bindPieces phrase.replaceSurrogates)) ∧
    document.map (textWith phrase.replaceSurrogates) =
      .obj [(Text.ofString "q", .arr [.int 1, .str (Text.ofString "a \"?")])] :=
  ⟨by decide, by decide +kernel,
    (@phrase_stays_in_strings Platform.usual _ _ (by decide) _ (by decide +kernel)).1, by decide +kernel⟩

end SearchTuning.Json
