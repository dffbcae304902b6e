import SearchTuning.Proofs.QueryString.Parameters
import SearchTuning.Proofs.Text.Numeral
import SearchTuning.Proofs.Variables
import SearchTuning.Request

/-!
# Args sent as a query

The args of a try for the engine that takes parameters are sent in the query of the search URL.
Read as a template is read, the query gives the args again, with the number of rows at their end
unless they have one.
-/

namespace SearchTuning

open QueryString (Params Written isUnreserved)

/-! ## The query of a URL -/

namespace Url

/-- Whether a code point stands in the query of a URL as it is. -/
def isKept (c : CodePoint) : Bool :=
  c.isAscii && !c.isAsciiControl && !queryEscapes.contains c

theorem isKept_of_isUnreserved :
    ∀ n : Fin 0x80, isUnreserved (n.castLE (by decide)) = true →
      isKept (n.castLE (by decide)) = true := by
  decide +kernel

/-- What parameters are written in needs no escape in the query of a URL. -/
theorem isKept_of_written {c : CodePoint} (written : Written c ∨ c = '=' ∨ c = '&') :
    isKept c = true := by
  rcases written with (free | rfl | rfl) | rfl | rfl
  · have ascii : c.val < 0x80 := (QueryString.isUnreserved_bounds free).2.1
    exact isKept_of_isUnreserved ⟨c.val, ascii⟩ free
  all_goals decide

theorem escapePart_of_isKept {t : Text} (kept : ∀ c ∈ t, isKept c = true) :
    escapePart queryEscapes t = .ok t := by
  have whole : t.hasSurrogate = false := by
    refine Text.hasSurrogate_eq_false_iff.mpr fun c member => ?_
    have ascii := kept c member
    simp only [isKept, CodePoint.isAscii, Bool.and_eq_true, decide_eq_true_eq] at ascii
    simp only [CodePoint.isSurrogate, Bool.and_eq_false_iff, decide_eq_false_iff_not]
    omega
  have same : t.flatMap (fun c => if isKept c then [c]
      else (Utf8.encodePoint c).flatMap QueryString.escapeOctet) = t := by
    rw [List.flatMap_congr fun c member => if_pos (kept c member), List.flatMap_singleton']
  rw [escapePart, whole]
  exact congrArg Except.ok same

/-- Another query leaves the other parts of a URL as they are. -/
theorem ofPieces_query {pieces : Pieces} {given : Option Text} {url : Url}
    (accepted : ofPieces pieces given = .ok url) {query : Text}
    (kept : escapePart queryEscapes query = .ok query) :
    ofPieces pieces (some query) = .ok { url with query := some query } := by
  obtain ⟨userinfo, userinfoRead, rest⟩ := exists_of_bind_eq_ok accepted
  obtain ⟨host, hostRead, rest⟩ := exists_of_bind_eq_ok rest
  obtain ⟨port, portRead, rest⟩ := exists_of_bind_eq_ok rest
  obtain ⟨⟨⟩, pathClean, rest⟩ := exists_of_bind_eq_ok rest
  obtain ⟨path, pathRead, rest⟩ := exists_of_bind_eq_ok rest
  obtain ⟨_, -, rest⟩ := exists_of_bind_eq_ok rest
  obtain ⟨fragment, fragmentRead, rest⟩ := exists_of_bind_eq_ok rest
  cases rest
  have queryRead : (some query).mapM (escapePart queryEscapes) = .ok (some query) := by
    rw [Option.mapM_some, kept]
    rfl
  refine (bind_of_eq_ok userinfoRead _).trans ?_
  refine (bind_of_eq_ok hostRead _).trans ?_
  refine (bind_of_eq_ok portRead _).trans ?_
  refine (bind_of_eq_ok pathClean _).trans ?_
  refine (bind_of_eq_ok pathRead _).trans ?_
  refine (bind_of_eq_ok queryRead _).trans ?_
  exact bind_of_eq_ok fragmentRead _

theorem parse_query {replacement : Option (Option Text)} {t : Text} {url : Url}
    (accepted : parse replacement t = .ok url) {query : Text} (short : query.length ≤ lengthLimit)
    (kept : escapePart queryEscapes query = .ok query) :
    parse (some (some query)) t = .ok { url with query := some query } := by
  obtain ⟨⟨⟩, clean, rest⟩ := exists_of_bind_eq_ok accepted
  obtain ⟨⟨⟩, -, rest⟩ := exists_of_bind_eq_ok rest
  rw [parse, clean, checkReplacement, if_neg (Nat.not_lt.mpr short)]
  exact ofPieces_query rest kept

end Url

/-! ## What is sent -/

namespace QueryString

theorem isKept_render (params : Params) : ∀ c ∈ render params, Url.isKept c = true := by
  intro c member
  apply Url.isKept_of_written
  rcases Text.mem_of_mem_join member with sep | ⟨piece, listed, inside⟩
  · exact .inr (.inr (List.mem_singleton.mp sep))
  · obtain ⟨entry, -, rfl⟩ := List.mem_map.mp listed
    exact (written_or_equals_renderPair c inside).imp_right .inl

/-- A key that is not there yet can be written after the others. -/
theorem Params.Writable.append {params : Params} (writable : params.Writable) {key value : Text}
    (absent : key ∉ params.map Prod.fst) (filled : key ≠ []) (keyWhole : key.hasSurrogate = false)
    (valueWhole : value.hasSurrogate = false) : Writable (params ++ [(key, [value])]) where
  distinct := writable.distinct.append_single absent [value]
  valued :=
    List.forall_mem_append.mpr
      ⟨writable.valued, List.forall_mem_singleton.mpr (List.cons_ne_nil value [])⟩
  keyed := List.forall_mem_append.mpr ⟨writable.keyed, List.forall_mem_singleton.mpr filled⟩
  whole := by
    rw [entries, List.flatMap_append]
    exact List.forall_mem_append.mpr
      ⟨writable.whole, List.forall_mem_singleton.mpr ⟨keyWhole, valueWhole⟩⟩

end QueryString

namespace Numeral

theorem hasSurrogate_ofNat (n : Nat) : (ofNat n).hasSurrogate = false := by
  refine Text.hasSurrogate_eq_false_iff.mpr fun c member => ?_
  obtain ⟨d, -, rfl⟩ := List.mem_map.mp member
  have digits : ∀ d : Fin 10, (CodePoint.ofDigit d).isSurrogate = false := by decide
  exact digits d

theorem hasSurrogate_ofInt (n : Int) : (ofInt n).hasSurrogate = false := by
  cases n with
  | ofNat n => exact hasSurrogate_ofNat n
  | negSucc n =>
    rw [ofInt, Text.hasSurrogate, List.any_cons, ← Text.hasSurrogate, hasSurrogate_ofNat]
    decide

end Numeral

namespace Request

/-- Parameters as the members of an object. -/
def membersOf (params : Params) : List (Text × Json) :=
  params.map fun (key, values) => (key, .arr (values.map Node.str))

theorem has_membersOf (key : Text) (params : Params) :
    Table.has key (membersOf params) = Table.has key params := by
  induction params with
  | nil => rfl
  | cons entry params ih =>
    simp only [membersOf, Table.has, List.map_cons, Table.get?] at ih ⊢
    split
    · rfl
    · exact ih

/-- Parameters with their values as parts. -/
def partsOfParams (params : Params) : List (Text × List Json) :=
  params.map fun (key, values) => (key, values.map Node.str)

theorem partsOfMembers_membersOf (params : Params) :
    partsOfMembers (membersOf params) = .ok (partsOfParams params) := by
  induction params with
  | nil => rfl
  | cons entry params ih =>
    rw [membersOf, List.map_cons, partsOfMembers, ← membersOf, ih]
    rfl

section Texts

variable [Platform]

theorem mapM_paramText (values : List Text) :
    (values.map Node.str).mapM paramText = .ok values := by
  induction values with
  | nil => rfl
  | cons value values ih =>
    rw [List.map_cons, List.mapM_cons, ih]
    rfl

/-- Texts are parameters as they are. -/
theorem texts_partsOfParams (params : Params) : texts (partsOfParams params) = .ok params := by
  induction params with
  | nil => rfl
  | cons entry params ih =>
    rw [partsOfParams, List.map_cons, texts, ← partsOfParams, ih, mapM_paramText]
    rfl

end Texts

/-- Parameters with a number of rows at their end, unless they have one. -/
def withRows (params : Params) (numberOfRows : Int) : Params :=
  if Table.has (Text.ofString "rows") params then params
  else params ++ [(Text.ofString "rows", [Numeral.ofInt numberOfRows])]

/-- A number of rows can be written, or none has to be. -/
def RowsFit (params : Params) (numberOfRows : Int) : Prop :=
  Table.has (Text.ofString "rows") params = true ∨ Numeral.fits numberOfRows = true

theorem rowsFor_membersOf {given : Params} {numberOfRows : Int}
    (fit : RowsFit given numberOfRows) :
    ∃ rows, rowsFor (membersOf given) numberOfRows = .ok (partsOfParams rows) ∧
      withRows given numberOfRows = given ++ rows := by
  rw [rowsFor, has_membersOf, withRows]
  by_cases has : Table.has (Text.ofString "rows") given = true
  · exact ⟨[], by rw [if_pos has]; rfl, by rw [if_pos has, List.append_nil]⟩
  · refine ⟨[(Text.ofString "rows", [Numeral.ofInt numberOfRows])], ?_, by rw [if_neg has]⟩
    rw [if_neg has, if_pos (fit.resolve_left has)]
    rfl

theorem params_membersOf [Platform] {given : Params} {numberOfRows : Int}
    (fit : RowsFit given numberOfRows) :
    params (.obj (membersOf given)) numberOfRows = .ok (withRows given numberOfRows) := by
  obtain ⟨rows, made, eq⟩ := rowsFor_membersOf fit
  have parts : partsOfParams given ++ partsOfParams rows = partsOfParams (given ++ rows) :=
    (List.map_append ..).symm
  refine (bind_of_eq_ok (partsOfMembers_membersOf given) _).trans ?_
  refine (bind_of_eq_ok made _).trans ?_
  rw [parts, eq]
  exact texts_partsOfParams (given ++ rows)

theorem params_of_not_fit [Platform] {given : Params} {numberOfRows : Int}
    (unfit : ¬ RowsFit given numberOfRows) :
    params (.obj (membersOf given)) numberOfRows = .error .tooManyDigits := by
  obtain ⟨missing, long⟩ := not_or.mp unfit
  refine (bind_of_eq_ok (partsOfMembers_membersOf given) _).trans ?_
  rw [rowsFor, has_membersOf, if_neg missing, if_neg long]
  rfl

theorem writable_withRows {params : Params} (writable : params.Writable) (numberOfRows : Int) :
    (withRows params numberOfRows).Writable := by
  rw [withRows]
  split
  · exact writable
  · next missing =>
    refine writable.append (Table.not_mem_keys_of_has (Bool.not_eq_true _ ▸ missing)) ?_ ?_ ?_
    · decide
    · decide
    · exact Numeral.hasSurrogate_ofInt numberOfRows

theorem entries_withRows_ne_nil {params : Params} (gathered : params.Gathered)
    (numberOfRows : Int) : (withRows params numberOfRows).entries ≠ [] := by
  intro none
  have absent : ∀ entry, entry ∉ (withRows params numberOfRows).entries := by
    intro entry
    rw [none]
    exact List.not_mem_nil
  rw [withRows] at absent
  split at absent
  · next has =>
    obtain ⟨values, found⟩ := Option.isSome_iff_exists.mp has
    have there := Table.mem_of_get? found
    obtain ⟨value, inside⟩ := List.exists_mem_of_ne_nil values (gathered.valued _ there)
    exact absent (Text.ofString "rows", value) (Params.mem_entries.mpr ⟨values, there, inside⟩)
  · refine absent (Text.ofString "rows", Numeral.ofInt numberOfRows) ?_
    refine Params.mem_entries.mpr ⟨_, List.mem_append_right _ List.mem_cons_self, ?_⟩
    exact List.mem_cons_self

theorem queryOf_of_writable {params : Params} (writable : params.Writable)
    (filled : params.entries ≠ []) : queryOf params = .ok (some (QueryString.render params)) := by
  have clean : ¬ (params.entries.any fun entry =>
      entry.1.hasSurrogate || entry.2.hasSurrogate) = true := by
    rw [Bool.not_eq_true, List.any_eq_false]
    intro entry member
    obtain ⟨key, value⟩ := writable.whole entry member
    simp [key, value]
  rw [queryOf, if_neg filled]
  exact if_neg clean

section Build

variable [Platform]

theorem build_of_not_fit {t : Try} (solr : t.engine = .solr) {given : Params}
    (unfit : ¬ RowsFit given t.numberOfRows) :
    build t (.obj (membersOf given)) = .error .tooManyDigits := by
  have refused : ofArgs .solr t.searchUrl t.numberOfRows (.obj (membersOf given)) =
      .error .tooManyDigits := by
    rw [ofArgs, params_of_not_fit unfit]
    rfl
  rw [build, if_neg (fun same => nomatch same), solr, refused]
  rfl

/-- Parameters that can be written are sent with the URL. -/
theorem build_of_params {t : Try} (solr : t.engine = .solr) {args : Json} (given : args ≠ .null)
    {sent : Params} (made : params args t.numberOfRows = .ok sent) (writable : sent.Writable)
    (filled : sent.entries ≠ []) (short : (QueryString.render sent).length ≤ Url.lengthLimit)
    {replacement : Option (Option Text)} {url : Url}
    (accepted : Url.parse replacement t.searchUrl = .ok url) (sendable : checkHost url = .ok ()) :
    build t args = .ok (some ⟨{ url with query := some (QueryString.render sent) }, none⟩) := by
  have query := queryOf_of_writable writable filled
  have parsed := Url.parse_query accepted short
    (Url.escapePart_of_isKept (QueryString.isKept_render sent))
  have host : checkHost { url with query := some (QueryString.render sent) } = .ok () := sendable
  have formed : ofArgs .solr t.searchUrl t.numberOfRows args =
      .ok ⟨{ url with query := some (QueryString.render sent) }, none⟩ := by
    refine (bind_of_eq_ok made _).trans ?_
    refine (bind_of_eq_ok query _).trans ?_
    refine (bind_of_eq_ok parsed _).trans ?_
    exact bind_of_eq_ok host _
  rw [build, if_neg given, solr, formed]
  rfl

/-- The request of a try for the engine that takes parameters is made without a body, to the search
URL with the args in the place of its query: read as a template is, the query gives the same keys in
the same order with the same values, and at the end the number of rows if the args have none.  If
that number is wanted and has too many digits, no request is made. -/
theorem build_query_read_back (t : Try) (solr : t.engine = .solr) {text : Text}
    (whole : text.hasSurrogate = false) {args : Json} (read : t.engine.materialize text = .ok args)
    {replacement : Option (Option Text)} {url : Url}
    (accepted : Url.parse replacement t.searchUrl = .ok url) (sendable : checkHost url = .ok ())
    (short : ∀ sent, params args t.numberOfRows = .ok sent →
      (QueryString.render sent).length ≤ Url.lengthLimit) :
    ∃ members, args = .obj members ∧
      (Table.has (Text.ofString "rows") members = true ∨ Numeral.fits t.numberOfRows = true →
        ∃ request query, build t args = .ok (some request) ∧ request.method = .get ∧
          request.url = { url with query := some query } ∧
          t.engine.materialize query = .ok (.obj
            (if Table.has (Text.ofString "rows") members then members
            else members ++ [(Text.ofString "rows", .arr [.str (Numeral.ofInt t.numberOfRows)])]))) ∧
      (Table.has (Text.ofString "rows") members = false → Numeral.fits t.numberOfRows = false →
        build t args = .error .tooManyDigits) := by
  rw [solr] at read ⊢
  cases read
  let given := QueryString.parse text
  let sent := withRows given t.numberOfRows
  have writable : given.Writable := QueryString.writable_parse whole
  have some_args : Engine.paramsValue given ≠ .null := fun same => nomatch same
  refine ⟨membersOf given, rfl, ?_, ?_⟩
  · intro fit
    rw [has_membersOf] at fit
    have sentWritable : sent.Writable := writable_withRows writable t.numberOfRows
    have made : params (.obj (membersOf given)) t.numberOfRows = .ok sent := params_membersOf fit
    have filled := entries_withRows_ne_nil writable.toGathered t.numberOfRows
    refine ⟨⟨{ url with query := some (QueryString.render sent) }, none⟩, QueryString.render sent, ?_,
      rfl, rfl, ?_⟩
    · exact build_of_params solr some_args made sentWritable filled (short sent made) accepted sendable
    · rw [Engine.materialize, QueryString.parse_render sentWritable]
      show Except.ok (Node.obj (membersOf sent)) = _
      rw [has_membersOf]
      simp only [sent, withRows]
      split
      · rfl
      · rw [membersOf, List.map_append]
        rfl
  · intro missing long
    rw [has_membersOf] at missing
    have unfit : ¬ RowsFit given t.numberOfRows := by simp [RowsFit, missing, long]
    exact build_of_not_fit solr unfit

end Build

/-- The query of the search URL gives way, its fragment stays, and an ampersand in a value is read
back. -/
theorem build_query_read_back_ampersand :
    letI := Platform.usual
    let t : Try := ⟨1, 1, Text.ofString "Try 1", .solr, Text.ofString "http://h/select?x=1#top", [],
      Text.ofString "q=a%26b+c", true, 10, .null⟩
    let args : Json := .obj [(Text.ofString "q", .arr [.str (Text.ofString "a&b c")])]
    Text.hasSurrogate (Text.ofString "q=a%26b+c") = false ∧
    t.engine.materialize (Text.ofString "q=a%26b+c") = .ok args ∧
    Numeral.fits t.numberOfRows = true ∧
    (∃ members request query, args = .obj members ∧
      build t args = .ok (some request) ∧ request.method = .get ∧
      request.url = ⟨Text.ofString "http", [], Text.ofString "h", none, Text.ofString "/select",
        some query, some (Text.ofString "top")⟩ ∧
      t.engine.materialize query = .ok (.obj
        (if Table.has (Text.ofString "rows") members then members
        else members ++ [(Text.ofString "rows", .arr [.str (Numeral.ofInt t.numberOfRows)])]))) := by
  intro t args
  let _ := Platform.usual
  have whole : Text.hasSurrogate (Text.ofString "q=a%26b+c") = false := by decide +kernel
  have read : t.engine.materialize (Text.ofString "q=a%26b+c") = .ok args := by decide +kernel
  have accepted : Url.parse none t.searchUrl = .ok ⟨Text.ofString "http", [], Text.ofString "h", none,
      Text.ofString "/select", some (Text.ofString "x=1"), some (Text.ofString "top")⟩ := by
    decide +kernel
  have fits : Numeral.fits t.numberOfRows = true := by decide +kernel
  have short : ∀ sent, params args t.numberOfRows = .ok sent →
      (QueryString.render sent).length ≤ Url.lengthLimit := by
    intro sent made
    have eq : params args t.numberOfRows = .ok [(Text.ofString "q", [Text.ofString "a&b c"]),
      (Text.ofString "rows", [Text.ofString "10"])] := by decide +kernel
    rw [eq] at made
    cases made
    decide +kernel
  obtain ⟨members, same, built, -⟩ :=
    build_query_read_back t rfl whole read accepted (by decide +kernel) short
  obtain ⟨request, query, made⟩ := built (.inr fits)
  exact ⟨whole, read, fits, members, request, query, same, made⟩

/-- A number of rows of more digits than are written. -/
theorem build_query_refused :
    letI := Platform.usual
    let t : Try := ⟨1, 1, Text.ofString "Try 1", .solr, Text.ofString "http://h/select", [],
      Text.ofString "q=a", true, 10 ^ Numeral.digitLimit, .null⟩
    let args : Json := .obj [(Text.ofString "q", .arr [.str (Text.ofString "a")])]
    Text.hasSurrogate (Text.ofString "q=a") = false ∧
    t.engine.materialize (Text.ofString "q=a") = .ok args ∧
    (∃ url, Url.parse none t.searchUrl = .ok url ∧ checkHost url = .ok ()) ∧
    build t args = .error .tooManyDigits := by
  intro t args
  let _ := Platform.usual
  refine ⟨by decide, by decide +kernel, ?_, ?_⟩
  · exact ⟨⟨Text.ofString "http", [], Text.ofString "h", none, Text.ofString "/select", none, none⟩,
      by decide +kernel, by decide +kernel⟩
  · have unfit : ¬ RowsFit [(Text.ofString "q", [Text.ofString "a"])] t.numberOfRows := by
      rw [RowsFit, Numeral.not_fits_pow]
      decide
    exact @build_of_not_fit _ t rfl _ unfit

end Request

end SearchTuning
