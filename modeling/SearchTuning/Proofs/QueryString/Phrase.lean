import Mathlib.Data.List.Forall2
import SearchTuning.Args
import SearchTuning.Proofs.QueryString.Escapes
import SearchTuning.Proofs.Template.Phrase

/-!
# Phrases in query strings

An escaped phrase stays where the template puts it.  Binding it changes no segment but those that
hold a mark, and of these only what stands at the mark: a segment that is kept is kept with the
clean phrase between the decoded parts around the marks, and one that is passed over is passed over
still, unless a mark follows an unfinished percent escape.
-/

namespace SearchTuning.QueryString

open Occurrences Template

/-- A segment in which one of the marks that are replaced follows an unfinished escape, which a
phrase may finish. -/
def BreaksEscape (segment : Text) : Prop :=
  ∃ part ∈ (around phraseMark segment).dropLast, EscapeOpen part

/-- What binding a phrase makes of a segment. -/
structure SegmentBound (phrase segment bound : Text) : Prop where
  /-- A segment that is kept is kept, with the clean phrase between the decoded parts. -/
  kept : ∀ key value, pair? segment = some (key, value) →
    ∃ rawKey rawValue keys values,
      segment.trim.cut? '=' = some (rawKey, rawValue) ∧
      (around phraseMark rawKey).mapM decode = some keys ∧
      (around phraseMark rawValue).mapM decode = some values ∧
      key = List.intercalate phraseMark keys ∧
      value = List.intercalate phraseMark values ∧
      pair? bound = some (List.intercalate phrase.replaceSurrogates keys,
        List.intercalate phrase.replaceSurrogates values)
  /-- A segment without a mark comes to the same. -/
  unmarked : ¬ phraseMark <:+: segment → pair? bound = pair? segment
  /-- A segment that is passed over stays so. -/
  dropped : pair? segment = none → ¬ BreaksEscape segment → pair? bound = none

/-- A key and a value that differ from others by the phrase in the place of marks. -/
def EntryBound (phrase : Text) (entry bound : Text × Text) : Prop :=
  ∃ keys values,
    entry = (List.intercalate phraseMark keys, List.intercalate phraseMark values) ∧
    bound = (List.intercalate phrase.replaceSurrogates keys,
      List.intercalate phrase.replaceSurrogates values)

/-! ## Keys and values -/

theorem decode_eq_some_of_mapM {parts texts : List Text} (decoded : parts.mapM decode = some texts)
    {a : Text} (member : a ∈ parts) : decode a ≠ none := by
  induction parts generalizing texts with
  | nil => cases member
  | cons b parts ih =>
    rw [mapM_decode_cons] at decoded
    obtain ⟨t, here, decoded⟩ := Option.bind_eq_some_iff.mp decoded
    obtain ⟨others, later, -⟩ := Option.map_eq_some_iff.mp decoded
    rcases List.mem_cons.mp member with rfl | member
    · simp [here]
    · exact ih later member

theorem begins_phraseMark : Begins phraseMark := by
  refine ⟨.octet 0x23, (phraseMark.drop 1).map plainPiece, ?_, ?_⟩
  · decide +kernel
  · exact (by decide : ¬ (0x80 ≤ (0x23 : Octet).val ∧ (0x23 : Octet).val < 0xC0))

theorem decode_phraseMark : decode phraseMark = some phraseMark := by
  decide +kernel

/-- A key or a value with marks in it stands for its decoded parts, with the marks between them. -/
theorem decode_eq_map_intercalate (raw : Text) :
    decode raw =
      ((around phraseMark raw).mapM decode).map (List.intercalate phraseMark) := by
  have closed : ∀ a : Text, Closed a '#' := fun a _ => by decide
  have parted := decode_intercalate begins_phraseMark decode_phraseMark
    (around_ne_nil phraseMark_ne_nil raw) fun a _ _ => closed a
  exact (congrArg decode (intercalate_around phraseMark_ne_nil raw)).symm.trans parted

/-- A key or a value with a phrase in the place of its marks stands for its decoded parts, with the
clean phrase between them, unless the phrase finishes an escape. -/
theorem decode_bindPhrase {phrase : Text} (given : phrase ≠ []) {raw : Text}
    (closed : ∀ a ∈ (around phraseMark raw).dropLast, decode a = none → ¬ EscapeOpen a) :
    decode (bindPhrase (Engine.solr.escape phrase) raw) =
      ((around phraseMark raw).mapM decode).map
        (List.intercalate phrase.replaceSurrogates) := by
  have begins := begins_quote (Text.replaceSurrogates_ne_nil given)
  have decoded := decode_quote (Text.hasSurrogate_replaceSurrogates phrase)
  rw [bindPhrase_eq_intercalate, Engine.escape]
  -- What stands between the parts begins with a percent sign or an unreserved sign.
  cases eq : quote phrase.replaceSurrogates with
  | nil =>
    rw [eq] at begins
    obtain ⟨piece, pieces, read, -⟩ := begins
    cases read
  | cons next rest =>
    rw [eq] at begins decoded
    exact decode_intercalate begins decoded (around_ne_nil phraseMark_ne_nil raw)
      fun a member failed is_open => absurd is_open (closed a member failed)

/-- A key or a value that stands for a text stands for another with the phrase bound. -/
theorem decode_bindPhrase_of_some {phrase : Text} (given : phrase ≠ []) {raw text : Text}
    (decoded : decode raw = some text) :
    ∃ texts, (around phraseMark raw).mapM decode = some texts ∧
      text = List.intercalate phraseMark texts ∧
      decode (bindPhrase (Engine.solr.escape phrase) raw) =
        some (List.intercalate phrase.replaceSurrogates texts) := by
  rw [decode_eq_map_intercalate] at decoded
  obtain ⟨texts, parted, eq⟩ := Option.map_eq_some_iff.mp decoded
  refine ⟨texts, parted, eq.symm, ?_⟩
  rw [decode_bindPhrase given fun a member failed =>
    absurd failed (decode_eq_some_of_mapM parted (List.dropLast_subset _ member)), parted,
    Option.map_some]

/-- A key or a value that stands for no text stands for none with the phrase bound. -/
theorem decode_bindPhrase_of_none {phrase : Text} (given : phrase ≠ []) {raw : Text}
    (whole : ¬ BreaksEscape raw) (failed : decode raw = none) :
    decode (bindPhrase (Engine.solr.escape phrase) raw) = none := by
  rw [decode_eq_map_intercalate, Option.map_eq_none_iff] at failed
  rw [decode_bindPhrase given fun a member _ is_open => whole ⟨a, member, is_open⟩, failed,
    Option.map_none]

/-! ## Segments -/

theorem inert_phraseMark : ∀ c ∈ phraseMark, Inert c :=
  forall_mem_phraseMark (by decide +kernel)

theorem trim_bindPhrase {phrase : Text} (given : phrase ≠ []) (segment : Text) :
    (bindPhrase (Engine.solr.escape phrase) segment).trim =
      bindPhrase (Engine.solr.escape phrase) segment.trim :=
  Text.trimBy_replace phraseMark_ne_nil (quote_ne_nil (Text.replaceSurrogates_ne_nil given))
    (fun c member => (inert_phraseMark c member).isBlank)
    (fun c member => (inert_quote c member).isBlank) segment

theorem cut?_bindPhrase (phrase segment : Text) :
    (bindPhrase (Engine.solr.escape phrase) segment).cut? '=' =
      (segment.cut? '=').map fun (key, value) =>
        (bindPhrase (Engine.solr.escape phrase) key,
          bindPhrase (Engine.solr.escape phrase) value) :=
  Text.cut?_replace phraseMark_ne_nil (Inert.not_mem inert_phraseMark).2
    (Inert.not_mem inert_quote).2 segment

theorem splitOn_bindPhrase (phrase t : Text) :
    (bindPhrase (Engine.solr.escape phrase) t).splitOn '&' =
      (t.splitOn '&').map (bindPhrase (Engine.solr.escape phrase)) :=
  Text.splitOn_replace phraseMark_ne_nil (Inert.not_mem inert_phraseMark).1
    (Inert.not_mem inert_quote).1 t

/-- The key and the value of a segment that is cut in two. -/
theorem pair?_of_cut? {segment key value : Text}
    (cut : segment.trim.cut? '=' = some (key, value)) (filled : key ≠ []) :
    pair? segment = (decode key).bind fun k => (decode value).map fun v => (k, v) := by
  rw [pair?, cut]
  simp only [if_neg filled, Option.map_eq_bind]
  rfl

/-- A segment that is kept is cut in two, and both parts are decoded. -/
theorem exists_cut?_of_pair? {segment : Text} {entry : Text × Text}
    (kept : pair? segment = some entry) :
    ∃ key value, segment.trim.cut? '=' = some (key, value) ∧ key ≠ [] ∧
      decode key = some entry.1 ∧ decode value = some entry.2 := by
  cases cut : segment.trim.cut? '=' with
  | none =>
    rw [pair?, cut] at kept
    cases kept
  | some parts =>
    obtain ⟨key, value⟩ := parts
    by_cases filled : key = []
    · rw [pair?, cut] at kept
      simp only [if_pos filled] at kept
      cases kept
    · rw [pair?_of_cut? cut filled] at kept
      obtain ⟨k, first, kept⟩ := Option.bind_eq_some_iff.mp kept
      obtain ⟨v, second, rfl⟩ := Option.map_eq_some_iff.mp kept
      exact ⟨key, value, rfl, filled, first, second⟩

theorem cut?_trim_bindPhrase {phrase : Text} (given : phrase ≠ []) (segment : Text) :
    (bindPhrase (Engine.solr.escape phrase) segment).trim.cut? '=' =
      (segment.trim.cut? '=').map fun (key, value) =>
        (bindPhrase (Engine.solr.escape phrase) key,
          bindPhrase (Engine.solr.escape phrase) value) := by
  rw [trim_bindPhrase given, cut?_bindPhrase]

theorem bindPhrase_eq_nil_iff {phrase : Text} (given : phrase ≠ []) (t : Text) :
    bindPhrase (Engine.solr.escape phrase) t = [] ↔ t = [] :=
  Text.replace_eq_nil_iff phraseMark_ne_nil (quote_ne_nil (Text.replaceSurrogates_ne_nil given)) t

/-- A mark after an unfinished escape begins within no mark before it, so it is one of those that
are replaced. -/
theorem breaksEscape_of_infix {opening segment : Text}
    (unfinished : opening = [CodePoint.ofChar '%'] ∨
      ∃ h : CodePoint, h.hexValue?.isSome ∧ opening = [CodePoint.ofChar '%', h])
    (inside : opening ++ phraseMark <:+: segment) : BreaksEscape segment := by
  have percent : CodePoint.ofChar '%' ∉ phraseMark := by decide
  obtain ⟨front, rest, rfl⟩ := inside
  have marked := around_append phraseMark_ne_nil rest
  have more := around_ne_nil phraseMark_ne_nil rest
  rw [List.append_assoc, List.append_assoc]
  rcases unfinished with rfl | ⟨h, hex, rfl⟩
  · obtain ⟨before, member⟩ := exists_mem_around phraseMark_ne_nil percent marked more front
    exact ⟨_, member, .inl (List.suffix_append before _)⟩
  · have other : ¬ phraseMark <+: h :: (phraseMark ++ rest) := by
      intro found
      have same : CodePoint.ofChar '#' = h := (List.cons_prefix_cons.mp found).1
      rw [← same] at hex
      exact absurd hex (by decide)
    have digit : around phraseMark (h :: (phraseMark ++ rest)) = [h] :: around phraseMark rest := by
      rw [around_cons other, marked, List.modifyHead_cons]
    obtain ⟨before, member⟩ := exists_mem_around phraseMark_ne_nil percent digit more front
    exact ⟨_, member, .inr ⟨h, hex, List.suffix_append before _⟩⟩

theorem BreaksEscape.of_piece {part segment : Text} (inside : part <:+: segment)
    (broken : BreaksEscape part) : BreaksEscape segment := by
  obtain ⟨a, member, unfinished⟩ := broken
  have found : a ++ phraseMark <:+: List.intercalate phraseMark (around phraseMark part) :=
    append_mark_infix member
  rw [intercalate_around phraseMark_ne_nil] at found
  rcases unfinished with ⟨front, rfl⟩ | ⟨h, hex, front, rfl⟩
  · refine breaksEscape_of_infix (.inl rfl) (List.IsInfix.trans ?_ (found.trans inside))
    rw [List.append_assoc]
    exact (List.suffix_append front _).isInfix
  · refine breaksEscape_of_infix (.inr ⟨h, hex, rfl⟩) (List.IsInfix.trans ?_ (found.trans inside))
    rw [List.append_assoc]
    exact (List.suffix_append front _).isInfix

/-- The parts of a segment are pieces of it. -/
theorem infix_of_cut? {segment key value : Text}
    (cut : segment.trim.cut? '=' = some (key, value)) : key <:+: segment ∧ value <:+: segment := by
  have eq := Text.eq_of_cut? cut
  have inside : segment.trim <:+: segment := Text.trimBy_infix segment
  rw [eq] at inside
  exact ⟨(List.prefix_append key _).isInfix.trans inside,
    ((List.suffix_cons _ value).trans (List.suffix_append key _)).isInfix.trans inside⟩

theorem segmentBound_bindPhrase {phrase : Text} (given : phrase ≠ []) (segment : Text) :
    SegmentBound phrase segment (bindPhrase (Engine.solr.escape phrase) segment) where
  kept := by
    intro key value kept
    obtain ⟨rawKey, rawValue, cut, filled, first, second⟩ := exists_cut?_of_pair? kept
    obtain ⟨keys, keyParts, keyEq, keyBound⟩ := decode_bindPhrase_of_some given first
    obtain ⟨values, valueParts, valueEq, valueBound⟩ := decode_bindPhrase_of_some given second
    refine ⟨rawKey, rawValue, keys, values, cut, keyParts, valueParts, keyEq, valueEq, ?_⟩
    have cutBound := cut?_trim_bindPhrase given segment
    rw [cut, Option.map_some] at cutBound
    rw [pair?_of_cut? cutBound (mt (bindPhrase_eq_nil_iff given rawKey).mp filled), keyBound,
      valueBound]
    rfl
  unmarked := by
    intro absent
    rw [bindPhrase, Text.replace_of_not_infix absent]
  dropped := by
    intro dropped whole
    have cutBound := cut?_trim_bindPhrase given segment
    cases cut : segment.trim.cut? '=' with
    | none =>
      rw [cut, Option.map_none] at cutBound
      rw [pair?, cutBound]
    | some parts =>
      obtain ⟨rawKey, rawValue⟩ := parts
      rw [cut, Option.map_some] at cutBound
      obtain ⟨keyInside, valueInside⟩ := infix_of_cut? cut
      by_cases filled : rawKey = []
      · rw [pair?, cutBound]
        simp only [(bindPhrase_eq_nil_iff given rawKey).mpr filled, if_true]
      · rw [pair?_of_cut? cut filled] at dropped
        rw [pair?_of_cut? cutBound (mt (bindPhrase_eq_nil_iff given rawKey).mp filled)]
        cases first : decode rawKey with
        | none =>
          rw [decode_bindPhrase_of_none given (mt (.of_piece keyInside) whole) first,
            Option.bind_none]
        | some k =>
          rw [first, Option.bind_some, Option.map_eq_none_iff] at dropped
          rw [decode_bindPhrase_of_none given (mt (.of_piece valueInside) whole) dropped]
          exact Option.bind_fun_none _

/-! ## Query strings -/

theorem pairs_bindPhrase {phrase : Text} (given : phrase ≠ []) {segments : List Text}
    (whole : ∀ s ∈ segments, ¬ BreaksEscape s) :
    List.Forall₂ (EntryBound phrase) (segments.filterMap pair?)
      ((segments.map (bindPhrase (Engine.solr.escape phrase))).filterMap pair?) := by
  induction segments with
  | nil => exact .nil
  | cons s segments ih =>
    have here := segmentBound_bindPhrase given s
    have later := ih fun r member => whole r (List.mem_cons_of_mem s member)
    rw [List.map_cons]
    cases kept : pair? s with
    | none =>
      rw [List.filterMap_cons_none kept,
        List.filterMap_cons_none (here.dropped kept (whole s List.mem_cons_self))]
      exact later
    | some entry =>
      obtain ⟨-, -, keys, values, -, -, -, keyEq, valueEq, bound⟩ := here.kept entry.1 entry.2 kept
      rw [List.filterMap_cons_some kept, List.filterMap_cons_some bound]
      exact .cons ⟨keys, values, by rw [← keyEq, ← valueEq], rfl⟩ later

/-- A phrase stays in the segments that it is put into.  It adds and splits no segment; a segment
that is kept is kept with the clean phrase between its decoded parts, and one that is passed over is
passed over still unless a mark follows an unfinished escape.  Such segments aside, the phrase adds
and removes no parameter of what the template comes to. -/
theorem phrase_stays_in_segment [Platform] (t phrase : Text) (given : phrase ≠ []) :
    let bound := bindPhrase (Args.escaper .solr true phrase) t
    (bound.splitOn '&').length = (t.splitOn '&').length ∧
    List.Forall₂ (SegmentBound phrase) (t.splitOn '&') (bound.splitOn '&') ∧
    ((∀ s ∈ t.splitOn '&', ¬ BreaksEscape s) →
      List.Forall₂ (EntryBound phrase) (pairs t) (pairs bound)) ∧
    ∀ lookup template, fill lookup template = t →
      Args.compile .solr true none lookup template =
        .ok (Engine.paramsValue (gather ((t.splitOn '&').filterMap pair?))) ∧
      Args.compile .solr true (some phrase) lookup template =
        .ok (Engine.paramsValue (gather ((bound.splitOn '&').filterMap pair?))) := by
  have split := splitOn_bindPhrase phrase t
  refine ⟨?_, ?_, ?_, ?_⟩
  · exact (congrArg List.length split).trans (List.length_map _)
  · refine split ▸ List.forall₂_map_right_iff.mpr (List.forall₂_same.mpr ?_)
    exact fun s _ => segmentBound_bindPhrase given s
  · intro whole
    have entries := pairs_bindPhrase given whole
    rw [← split] at entries
    exact entries
  · rintro lookup template rfl
    exact ⟨rfl, rfl⟩

/-- An ampersand and a surrogate in a phrase make no parameter of their own. -/
theorem phrase_stays_in_segment_ampersand :
    letI := Platform.usual
    let t := Text.ofString "q=a #$query##&rows=5&rest"
    let phrase : Text := [CodePoint.ofChar '&', 0xD800]
    let bound := bindPhrase (Args.escaper .solr true phrase) t
    phrase ≠ [] ∧
    List.Forall₂ (SegmentBound phrase) (t.splitOn '&') (bound.splitOn '&') ∧
    pairs bound = [(Text.ofString "q", Text.ofString "a &?"),
      (Text.ofString "rows", Text.ofString "5")] :=
  ⟨by decide, (@phrase_stays_in_segment Platform.usual _ _ (by decide)).2.1, by decide +kernel⟩

end SearchTuning.QueryString
