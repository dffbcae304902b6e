import SearchTuning.Proofs.Json.Strings
import SearchTuning.Proofs.Json.Walk
import SearchTuning.Proofs.Text.Numeral
import SearchTuning.Request

/-!
# Args sent as a document

The args of a try for the engine that takes documents are sent as the body.  Read as a template is
read, the body gives the args again, with the number of rows after all other members if the args are
an object without one.  Nothing is sent where that number has too many digits, or where the args
hold a number that is not finite.
-/

namespace SearchTuning

namespace Json

variable [Platform]

theorem read_of_materialize {t : Text} {v : Json} (read : Engine.es.materialize t = .ok v)
    (given : v ≠ .null) : Json.read t = .ok v := by
  rw [Engine.materialize] at read
  split at read
  · next found =>
    cases read
    exact found
  · cases read
    exact absurd rfl given
  · cases read

theorem materialize_of_read {t : Text} {v : Json} (read : Json.read t = .ok v) :
    Engine.es.materialize t = .ok v := by
  rw [Engine.materialize, read]

end Json

/-! ## A member more -/

section Member

variable {members : List (Text × Json)} {key : Text} {s : Scalar}

theorem Node.Readable.append_scalar {room : Nat} (readable : (Node.obj members).Readable room)
    (scalar : s.Readable) : Readable room (.obj (members ++ [(key, .scalar s)])) := by
  cases readable with
  | obj each =>
    refine .obj (List.forall_mem_append.mpr ⟨each, List.forall_mem_singleton.mpr ?_⟩)
    exact .scalar scalar

theorem Json.Settled.append_scalar (settled : Settled (.obj members))
    (missing : Table.has key members = false) : Settled (.obj (members ++ [(key, .scalar s)])) := by
  cases settled with
  | obj distinct each =>
    refine .obj (distinct.append_single (Table.not_mem_keys_of_has missing) _) ?_
    exact List.forall_mem_append.mpr ⟨each, List.forall_mem_singleton.mpr (.scalar s)⟩

end Member

namespace Request

/-- No number of rows is added to args: they are an object that has one, or no object. -/
def Sized (args : Json) : Prop :=
  ∀ members, args = .obj members → Table.has (Text.ofString "size") members = true

/-- The number of rows can be written, or is not added. -/
def SizeFits (args : Json) (numberOfRows : Int) : Prop :=
  Sized args ∨ Numeral.fits numberOfRows = true

theorem exists_of_not_sized {args : Json} (unsized : ¬ Sized args) :
    ∃ members, args = .obj members ∧ Table.has (Text.ofString "size") members = false := by
  unfold Sized at unsized
  push Not at unsized
  obtain ⟨members, same, missing⟩ := unsized
  exact ⟨members, same, Bool.not_eq_true _ ▸ missing⟩

theorem document_of_sized {args : Json} (sized : Sized args) (numberOfRows : Int) :
    document args numberOfRows = args := by
  unfold document
  split
  · next members => rw [if_pos (sized members rfl)]
  · rfl

theorem document_of_missing {members : List (Text × Json)}
    (missing : Table.has (Text.ofString "size") members = false) (numberOfRows : Int) :
    document (.obj members) numberOfRows =
      .obj (members ++ [(Text.ofString "size", .int numberOfRows)]) := by
  simp only [document, missing, Bool.false_eq_true, if_false]

/-- The document that is sent is finite just if the args are. -/
theorem isFinite_document (args : Json) (numberOfRows : Int) :
    (document args numberOfRows).isFinite = args.isFinite := by
  by_cases sized : Sized args
  · rw [document_of_sized sized]
  · obtain ⟨members, rfl, missing⟩ := exists_of_not_sized sized
    rw [document_of_missing missing, Json.isFinite, Json.isFinite, Node.scalars, Node.scalars,
      Node.scalarsOfMembers_append, List.all_append]
    exact Bool.and_true _

/-- The document that is sent holds a surrogate only if the args do. -/
theorem hasSurrogate_document {args : Json} (whole : ∀ s ∈ args.strings, s.hasSurrogate = false)
    (numberOfRows : Int) : ∀ s ∈ (document args numberOfRows).strings, s.hasSurrogate = false := by
  by_cases sized : Sized args
  · rwa [document_of_sized sized]
  · obtain ⟨members, rfl, missing⟩ := exists_of_not_sized sized
    rw [document_of_missing missing, Node.strings, Node.stringsOfMembers_append]
    refine List.forall_mem_append.mpr ⟨whole, List.forall_mem_singleton.mpr ?_⟩
    decide

theorem readable_document {args : Json} {room : Nat} (readable : args.Readable room)
    {numberOfRows : Int} (fits : SizeFits args numberOfRows) :
    (document args numberOfRows).Readable room := by
  by_cases sized : Sized args
  · rwa [document_of_sized sized]
  · obtain ⟨members, rfl, missing⟩ := exists_of_not_sized sized
    rw [document_of_missing missing]
    exact readable.append_scalar (fits_iff_readable.mp (fits.resolve_left sized))

theorem settled_document {args : Json} (settled : args.Settled) (numberOfRows : Int) :
    (document args numberOfRows).Settled := by
  by_cases sized : Sized args
  · rwa [document_of_sized sized]
  · obtain ⟨members, rfl, missing⟩ := exists_of_not_sized sized
    rw [document_of_missing missing]
    exact settled.append_scalar missing

section

variable [Platform] {args : Json} {numberOfRows : Int}

theorem bodyOf_document (readable : args.Readable Platform.sending)
    (fits : SizeFits args numberOfRows) (finite : args.isFinite = true)
    (whole : ∀ s ∈ args.strings, s.hasSurrogate = false) :
    bodyOf (document args numberOfRows) =
      .ok (Json.render .compact (document args numberOfRows)) := by
  have checked := Json.Walk.check_sending (readable_document readable fits) (Nat.le_refl _)
  rw [isFinite_document, if_pos finite] at checked
  have clean := Json.hasSurrogate_render Json.plain_compact (hasSurrogate_document whole numberOfRows)
  rw [bodyOf, bind_of_eq_ok checked]
  simp only [clean, Bool.false_eq_true, if_false]

/-- The args are walked through before the number of rows that is added to them. -/
theorem check_of_not_fits {members : List (Text × Json)}
    (readable : (Node.obj members).Readable Platform.sending)
    (missing : Table.has (Text.ofString "size") members = false)
    (long : Numeral.fits numberOfRows = false) :
    Json.Walk.sending.check Platform.sending (document (.obj members) numberOfRows) =
      .error (if Json.isFinite (.obj members) then .tooManyDigits else .notFinite) := by
  have checked := Json.Walk.check_sending readable (Nat.le_refl _)
  rw [document_of_missing missing]
  generalize Platform.sending = most at readable checked ⊢
  cases most with
  | zero => cases readable
  | succ room =>
    rw [Json.Walk.check] at checked
    rw [Json.Walk.check, Json.Walk.checkMembers_append, checked]
    cases Json.isFinite (.obj members) with
    | false => rfl
    | true =>
      have refused : Json.Walk.sending.check room (.int numberOfRows) = .error .tooManyDigits := by
        change Json.Walk.digits (.int numberOfRows) = _
        rw [Json.Walk.digits, long]
        rfl
      rw [if_pos rfl, if_pos rfl]
      change (Json.Walk.sending.check room (.int numberOfRows) >>= fun _ => _) = _
      rw [refused]
      rfl

theorem bodyOf_of_not_fits (readable : args.Readable Platform.sending)
    (unfit : ¬ SizeFits args numberOfRows) (finite : args.isFinite = true) :
    bodyOf (document args numberOfRows) = .error .tooManyDigits := by
  obtain ⟨unsized, long⟩ := not_or.mp unfit
  obtain ⟨members, rfl, missing⟩ := exists_of_not_sized unsized
  rw [bodyOf, check_of_not_fits readable missing (Bool.not_eq_true _ ▸ long), if_pos finite]
  rfl

variable {t : Try} {url : Url} (es : t.engine = .es) (given : args ≠ .null)
  (accepted : Url.parse none t.searchUrl = .ok url)

include es given accepted

theorem build_of_body {body : Text} (written : bodyOf (document args t.numberOfRows) = .ok body)
    (sendable : checkHost url = .ok ()) : build t args = .ok (some ⟨url, some body⟩) := by
  have formed : ofArgs .es t.searchUrl t.numberOfRows args = .ok ⟨url, some body⟩ := by
    refine (bind_of_eq_ok accepted _).trans ?_
    refine (bind_of_eq_ok written _).trans ?_
    exact bind_of_eq_ok sendable _
  rw [build, if_neg given, es, formed]
  rfl

theorem build_of_body_refused {e : Error}
    (refused : bodyOf (document args t.numberOfRows) = .error e) : build t args = .error e := by
  have failed : ofArgs .es t.searchUrl t.numberOfRows args = .error e := by
    refine (bind_of_eq_ok accepted _).trans ?_
    rw [refused]
    rfl
  rw [build, if_neg given, es, failed]
  rfl

end

/-- A try makes a request with a body that its engine reads as a value. -/
def Posts [Platform] (t : Try) (args : Json) (url : Url) (value : Json) : Prop :=
  ∃ request body, build t args = .ok (some request) ∧ request.method = .post ∧
    request.url = url ∧ request.body = some body ∧ t.engine.materialize body = .ok value

/-- The request of a try for the engine that takes documents is made with a body, to the search URL
as it is: read as a template is, the body gives the args, with the number of rows as a last member
if they are an object without one.  If that number is wanted and has too many digits, no request is
made. -/
theorem build_body_read_back [Platform] (t : Try) (es : t.engine = .es) {source : Text} {args : Json}
    (read : t.engine.materialize source = .ok args) (given : args ≠ .null)
    (finite : args.isFinite = true) (whole : ∀ s ∈ args.strings, s.hasSurrogate = false)
    (nested : args.Nested Platform.sending) {url : Url}
    (accepted : Url.parse none t.searchUrl = .ok url) (sendable : checkHost url = .ok ()) :
    ((∀ members, args = .obj members → Table.has (Text.ofString "size") members = true) →
      Posts t args url args) ∧
    ∀ members, args = .obj members → Table.has (Text.ofString "size") members = false →
      (Numeral.fits t.numberOfRows = true →
        Posts t args url (.obj (members ++ [(Text.ofString "size", .int t.numberOfRows)]))) ∧
      (Numeral.fits t.numberOfRows = false → build t args = .error .tooManyDigits) := by
  have found := read
  rw [es] at found
  obtain ⟨readable, settled⟩ := Json.readable_of_read (Json.read_of_materialize found given)
  have short := readable.within nested
  have posts : SizeFits args t.numberOfRows → Posts t args url (document args t.numberOfRows) := by
    intro fits
    have written := bodyOf_document short fits finite whole
    have back := Json.materialize_of_read (Json.read_render Json.plain_compact
      (readable_document readable fits) (settled_document settled t.numberOfRows))
    rw [← es] at back
    exact ⟨_, _, build_of_body es given accepted written sendable, rfl, rfl, rfl, back⟩
  constructor
  · intro sized
    have posted := posts (.inl sized)
    rwa [document_of_sized sized] at posted
  · rintro members rfl missing
    have unsized : ¬ Sized (.obj members) := by
      intro sized
      rw [sized members rfl] at missing
      cases missing
    constructor
    · intro fits
      have posted := posts (.inr fits)
      rwa [document_of_missing missing] at posted
    · intro long
      have unfit : ¬ SizeFits (.obj members) t.numberOfRows := by simp [SizeFits, unsized, long]
      exact build_of_body_refused es given accepted (bodyOf_of_not_fits short unfit finite)

/-- Escapes and doubles come back as they were, before the number of rows that is added. -/
theorem build_body_read_back_escaped :
    letI := Platform.usual
    let source := Text.ofString "\x7b\"title\": [\"a\\\"\\u0001\", 1.5, -7, true]\x7d"
    let members : List (Text × Json) := [(Text.ofString "title",
      .arr [.str (Text.ofString "a\"\x01"), .double (.finite false ⟨0x3FF8000000000000, by decide⟩),
        .int (-7), .bool true])]
    let url : Url := ⟨Text.ofString "http", [], Text.ofString "h", none, Text.ofString "/_search",
      none, none⟩
    let t : Try := ⟨1, 1, Text.ofString "Try 1", .es, Text.ofString "http://h/_search", [], source, true,
      10, .null⟩
    t.engine.materialize source = .ok (.obj members) ∧ (Node.obj members).Nested Platform.sending ∧
    Posts t (.obj members) url (.obj (members ++ [(Text.ofString "size", .int 10)])) := by
  intro source members url t
  let _ := Platform.usual
  have read : t.engine.materialize source = .ok (.obj members) := by decide +kernel
  have whole : ∀ s ∈ (Node.obj members).strings, s.hasSurrogate = false := by decide +kernel
  have accepted : Url.parse none t.searchUrl = .ok url := by decide +kernel
  have nested : (Node.obj members).Nested Platform.sending :=
    Node.nested_of_levels_le (by decide +kernel)
  obtain ⟨-, added⟩ := build_body_read_back t rfl read (fun same => nomatch same) (by decide +kernel)
    whole nested accepted (by decide +kernel)
  exact ⟨read, nested, (added members rfl (by decide +kernel)).1 (by decide +kernel)⟩

/-- A number of rows of more digits than are written. -/
theorem build_body_refused :
    letI := Platform.usual
    let t : Try := ⟨1, 1, Text.ofString "Try 1", .es, Text.ofString "http://h/_search", [],
      Text.ofString "\x7b\x7d", true, 10 ^ Numeral.digitLimit, .null⟩
    t.engine.materialize (Text.ofString "\x7b\x7d") = .ok (.obj []) ∧
    (∃ url, Url.parse none t.searchUrl = .ok url ∧ checkHost url = .ok ()) ∧
    build t (.obj []) = .error .tooManyDigits := by
  intro t
  let _ := Platform.usual
  have accepted : Url.parse none t.searchUrl = .ok ⟨Text.ofString "http", [], Text.ofString "h",
      none, Text.ofString "/_search", none, none⟩ := by
    decide +kernel
  have unfit : ¬ SizeFits (.obj []) t.numberOfRows := by
    rintro (sized | fits)
    · exact nomatch sized [] rfl
    · rw [Numeral.not_fits_pow] at fits
      cases fits
  have readable : (Node.obj [] : Json).Readable Platform.sending := .obj (List.forall_mem_nil _)
  refine ⟨by decide +kernel, ⟨_, accepted, by decide +kernel⟩, ?_⟩
  have refused := bodyOf_of_not_fits readable unfit rfl
  have given : (Node.obj [] : Json) ≠ .null := fun same => nomatch same
  exact build_of_body_refused rfl given accepted refused

end Request

end SearchTuning
