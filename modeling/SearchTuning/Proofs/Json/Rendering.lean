import SearchTuning.Json.Printer
import SearchTuning.Proofs.Json.Ascii
import SearchTuning.Proofs.Json.Readable

/-!
# Documents written and read back

A document that is written with its strings as they are is read back as it was: its tokens are those
of the document with each string place by place, and a reader takes them for that document.
-/

namespace SearchTuning.Json

open Literal (places)
open Node (Readable mapItems mapMembers)

/-! ## The tokens of a document -/

mutual

/-- The tokens of a document. -/
def tokensOf : Node Raw → List Token
  | .scalar s => [.scalar s]
  | .str raw => [.str raw]
  | .arr [] => [.mark .openBracket, .mark .closeBracket]
  | .arr (item :: items) =>
      .mark .openBracket :: (tokensOf item ++ (tokensOfItems items ++ [.mark .closeBracket]))
  | .obj [] => [.mark .openBrace, .mark .closeBrace]
  | .obj ((key, value) :: members) =>
      .mark .openBrace :: .str key :: .mark .colon ::
        (tokensOf value ++ (tokensOfMembers members ++ [.mark .closeBrace]))

/-- The tokens of the items after the first, each after a comma. -/
def tokensOfItems : List (Node Raw) → List Token
  | [] => []
  | item :: items => .mark .comma :: (tokensOf item ++ tokensOfItems items)

/-- The tokens of the members after the first, each after a comma. -/
def tokensOfMembers : List (Raw × Node Raw) → List Token
  | [] => []
  | (key, value) :: members =>
      .mark .comma :: .str key :: .mark .colon :: (tokensOf value ++ tokensOfMembers members)

end

/-! ## Writing -/

/-- A layout that has no more than blanks beside the marks. -/
structure Layout.Loose (layout : Layout) : Prop where
  items : ∃ blanks, layout.itemSeparator = CodePoint.ofChar ',' :: blanks ∧
    ∀ c ∈ blanks, isSpace c = true
  keys : ∃ blanks, layout.keySeparator = CodePoint.ofChar ':' :: blanks ∧
    ∀ c ∈ blanks, isSpace c = true

/-- A layout that changes no string and has no more than blanks beside the marks. -/
structure Layout.Plain (layout : Layout) : Prop extends layout.Loose where
  raw : layout.ascii = false

theorem loose_spaced : Layout.spaced.Loose where
  items := ⟨[CodePoint.ofChar ' '], by decide, List.forall_mem_singleton.mpr (by decide)⟩
  keys := ⟨[CodePoint.ofChar ' '], by decide, List.forall_mem_singleton.mpr (by decide)⟩

theorem plain_compact : Layout.compact.Plain where
  items := ⟨[], by decide, List.forall_mem_nil _⟩
  keys := ⟨[], by decide, List.forall_mem_nil _⟩
  raw := rfl

theorem plain_indented : Layout.indented.Plain where
  items := ⟨[], by decide, List.forall_mem_nil _⟩
  keys := ⟨[CodePoint.ofChar ' '], by decide, List.forall_mem_singleton.mpr (by decide)⟩
  raw := rfl

theorem tokensFrom_blanks {blanks : Text} (space : ∀ c ∈ blanks, isSpace c = true) (rest : Text) :
    tokensFrom .between (blanks ++ rest) = tokensFrom .between rest := by
  induction blanks with
  | nil => rfl
  | cons c blanks ih =>
    have stepped : Scan.step .between c = some ([], .between) :=
      if_pos (space c List.mem_cons_self)
    rw [List.cons_append, tokensFrom_cons stepped, List.nil_append,
      ih fun d member => space d (List.mem_cons_of_mem c member)]

theorem tokensFrom_mark (m : Mark) {c : CodePoint} (mark : start c = some ([.mark m], .between))
    (rest : Text) : tokensFrom .between (c :: rest) = .mark m :: tokensFrom .between rest := by
  have stepped : Scan.step .between c = some ([.mark m], .between) := mark
  rw [tokensFrom_cons stepped, List.singleton_append]

theorem tokensFrom_quote (ascii : Bool) (t rest : Text) :
    tokensFrom .between (Literal.quote ascii t ++ rest) =
      .str (places ascii t) :: tokensFrom .between rest := by
  have opened : Scan.step .between (CodePoint.ofChar '"') = some ([], .string []) := by decide
  have read := tokensFrom_spells (Literal.spells_places ascii t) [] rest
  rw [Literal.quote, List.cons_append, List.cons_append, List.append_assoc, List.singleton_append,
    tokensFrom_cons opened, List.nil_append, read]
  rfl

theorem isSpace_newline (layout : Layout) (depth : Nat) :
    ∀ c ∈ layout.newline depth, isSpace c = true := by
  rw [Layout.newline]
  split
  · exact List.forall_mem_nil _
  · refine List.forall_mem_cons.mpr ⟨by decide, fun c member => ?_⟩
    rw [List.eq_of_mem_replicate member]
    decide

theorem endsWord_nil : EndsWord [] := fun _ first => nomatch first

theorem endsWord_cons {c : CodePoint} (other : isWordPoint c = false)
    (starts : (start c).isSome = true) (rest : Text) : EndsWord (c :: rest) := by
  intro d first
  cases first
  exact ⟨other, starts⟩

theorem EndsWord.blanks {blanks rest : Text} (ends : EndsWord rest)
    (space : ∀ c ∈ blanks, isSpace c = true) : EndsWord (blanks ++ rest) := by
  cases blanks with
  | nil => exact ends
  | cons c blanks =>
    have here : isSpace c = true := space c List.mem_cons_self
    refine endsWord_cons (not_isWordPoint_of_isSpace here) ?_ _
    rw [start, if_pos here]
    rfl

variable {layout : Layout} (loose : layout.Loose)

include loose

theorem tokensFrom_itemSeparator (depth : Nat) (rest : Text) :
    tokensFrom .between (layout.itemSeparator ++ (layout.newline depth ++ rest)) =
      .mark .comma :: tokensFrom .between rest := by
  obtain ⟨blanks, eq, space⟩ := loose.items
  rw [eq, List.cons_append, tokensFrom_mark .comma (by decide), tokensFrom_blanks space,
    tokensFrom_blanks (isSpace_newline layout depth)]

theorem tokensFrom_keySeparator (rest : Text) :
    tokensFrom .between (layout.keySeparator ++ rest) =
      .mark .colon :: tokensFrom .between rest := by
  obtain ⟨blanks, eq, space⟩ := loose.keys
  rw [eq, List.cons_append, tokensFrom_mark .colon (by decide), tokensFrom_blanks space]

theorem endsWord_itemSeparator (rest : Text) : EndsWord (layout.itemSeparator ++ rest) := by
  obtain ⟨blanks, eq, -⟩ := loose.items
  rw [eq]
  exact endsWord_cons (by decide) (by decide) _

theorem endsWord_renderItems (depth : Nat) (items : List Json) {rest : Text}
    (ends : EndsWord rest) : EndsWord (renderItems layout depth items ++ rest) := by
  cases items with
  | nil => exact ends
  | cons item items =>
    rw [renderItems, List.append_assoc, List.append_assoc, List.append_assoc]
    exact endsWord_itemSeparator loose _

theorem endsWord_renderMembers (depth : Nat) (members : List (Text × Json)) {rest : Text}
    (ends : EndsWord rest) : EndsWord (renderMembers layout depth members ++ rest) := by
  cases members with
  | nil => exact ends
  | cons member members =>
    simp only [renderMembers, List.append_assoc]
    exact endsWord_itemSeparator loose _

mutual

/-- The tokens of a document that is written are those of the document with each string place by
place. -/
theorem tokensFrom_renderAt : ∀ {v : Json} {room : Nat}, v.Readable room → ∀ (depth : Nat)
    {rest : Text}, EndsWord rest → tokensFrom .between (renderAt layout depth v ++ rest) =
      tokensOf (v.map (places layout.ascii)) ++ tokensFrom .between rest
  | .scalar s, _, .scalar readable, depth, rest, ends => tokensFrom_scalarText readable ends
  | .str s, _, _, depth, rest, _ => by
      rw [renderAt]
      exact tokensFrom_quote layout.ascii s rest
  | .arr [], _, _, depth, rest, _ => by
      rw [renderAt]
      change tokensFrom .between (CodePoint.ofChar '[' :: CodePoint.ofChar ']' :: rest) = _
      rw [tokensFrom_mark .openBracket (by decide), tokensFrom_mark .closeBracket (by decide)]
      rfl
  | .arr (item :: items), _, .arr each, depth, rest, ends => by
      have first := each item List.mem_cons_self
      have others := fun other member => each other (List.mem_cons_of_mem item member)
      have close : EndsWord (CodePoint.ofChar ']' :: rest) :=
        endsWord_cons (by decide) (by decide) rest
      have after := close.blanks (isSpace_newline layout depth)
      simp only [renderAt, List.cons_append, List.append_assoc, List.nil_append]
      rw [tokensFrom_mark .openBracket (by decide), tokensFrom_blanks (isSpace_newline layout _),
        tokensFrom_renderAt first (depth + 1) (endsWord_renderItems loose (depth + 1) items after),
        tokensFrom_renderItems others (depth + 1) after,
        tokensFrom_blanks (isSpace_newline layout depth), tokensFrom_mark .closeBracket (by decide)]
      simp only [Node.map, mapItems, tokensOf, List.cons_append, List.append_assoc, List.nil_append]
  | .obj [], _, _, depth, rest, _ => by
      rw [renderAt, List.cons_append, List.singleton_append, tokensFrom_mark .openBrace (by decide),
        tokensFrom_mark .closeBrace (by decide)]
      rfl
  | .obj ((key, value) :: members), _, .obj each, depth, rest, ends => by
      have first := each (key, value) List.mem_cons_self
      have others := fun other member => each other (List.mem_cons_of_mem (key, value) member)
      have close : EndsWord (CodePoint.ofChar '}' :: rest) :=
        endsWord_cons (by decide) (by decide) rest
      have after := close.blanks (isSpace_newline layout depth)
      simp only [renderAt, List.cons_append, List.append_assoc, List.nil_append]
      rw [tokensFrom_mark .openBrace (by decide), tokensFrom_blanks (isSpace_newline layout _),
        tokensFrom_quote, tokensFrom_keySeparator loose,
        tokensFrom_renderAt first (depth + 1)
          (endsWord_renderMembers loose (depth + 1) members after),
        tokensFrom_renderMembers others (depth + 1) after,
        tokensFrom_blanks (isSpace_newline layout depth), tokensFrom_mark .closeBrace (by decide)]
      simp only [Node.map, mapMembers, tokensOf, List.cons_append, List.append_assoc, List.nil_append]

theorem tokensFrom_renderItems : ∀ {items : List Json} {room : Nat},
    (∀ item ∈ items, item.Readable room) → ∀ (depth : Nat) {rest : Text}, EndsWord rest →
      tokensFrom .between (renderItems layout depth items ++ rest) =
        tokensOfItems (mapItems (places layout.ascii) items) ++ tokensFrom .between rest
  | [], _, _, _, _, _ => rfl
  | item :: items, _, each, depth, rest, ends => by
      have first := each item List.mem_cons_self
      have others := fun other member => each other (List.mem_cons_of_mem item member)
      simp only [renderItems, List.append_assoc]
      rw [tokensFrom_itemSeparator loose,
        tokensFrom_renderAt first depth (endsWord_renderItems loose depth items ends),
        tokensFrom_renderItems others depth ends]
      simp only [mapItems, tokensOfItems, List.cons_append, List.append_assoc]

theorem tokensFrom_renderMembers : ∀ {members : List (Text × Json)} {room : Nat},
    (∀ member ∈ members, member.2.Readable room) → ∀ (depth : Nat) {rest : Text}, EndsWord rest →
      tokensFrom .between (renderMembers layout depth members ++ rest) =
        tokensOfMembers (mapMembers (places layout.ascii) members) ++ tokensFrom .between rest
  | [], _, _, _, _, _ => rfl
  | (key, value) :: members, _, each, depth, rest, ends => by
      have first := each (key, value) List.mem_cons_self
      have others := fun other member => each other (List.mem_cons_of_mem (key, value) member)
      simp only [renderMembers, List.append_assoc]
      rw [tokensFrom_itemSeparator loose, tokensFrom_quote, tokensFrom_keySeparator loose,
        tokensFrom_renderAt first depth (endsWord_renderMembers loose depth members ends),
        tokensFrom_renderMembers others depth ends]
      simp only [mapMembers, tokensOfMembers, List.cons_append, List.append_assoc]

end

omit loose

/-! ## Reading -/

namespace Reader

variable [Platform]

theorem run_cons {reader next : Reader} {token : Token} (stepped : reader.step token = .ok next)
    (rest : List Token) : run reader (token :: rest) = run next rest := by
  rw [run, stepped]
  rfl

/-- The first item of an array is read like any other. -/
theorem run_firstItem (outer : List Frame) (item : Node Raw) (rest : List Token) :
    run (.firstItem outer) (tokensOf item ++ rest) =
      run (.value (.items [] :: outer)) (tokensOf item ++ rest) := by
  cases item with
  | scalar s => rfl
  | str raw => rfl
  | arr items => cases items <;> rfl
  | obj members => cases members <;> rfl

theorem begin_openBracket {outer : List Frame} (within : outer.length < Platform.reading) :
    step (.value outer) (.mark .openBracket) = .ok (.firstItem outer) := by
  rw [step, begin, if_pos within]

theorem begin_openBrace {outer : List Frame} (within : outer.length < Platform.reading) :
    step (.value outer) (.mark .openBrace) = .ok (.firstKey outer) := by
  rw [step, begin, if_pos within]

mutual

/-- The tokens of a document are read as the document, if it fits into the open containers. -/
theorem run_tokensOf : ∀ {v : Node Raw} {room : Nat}, v.Readable room → ∀ {outer : List Frame},
    outer.length + room ≤ Platform.reading → ∀ rest : List Token,
      run (.value outer) (tokensOf v ++ rest) = run (.complete v outer) rest
  | .scalar s, _, _, outer, _, rest => run_cons rfl rest
  | .str raw, _, _, outer, _, rest => run_cons rfl rest
  | .arr [], _, .arr _, outer, fits, rest => by
      have within : outer.length < Platform.reading := by omega
      rw [tokensOf, List.cons_append, run_cons (begin_openBracket within)]
      exact run_cons rfl rest
  | .arr (item :: items), room + 1, .arr each, outer, fits, rest => by
      have within : outer.length < Platform.reading := by omega
      have first := each item List.mem_cons_self
      have others := fun other member => each other (List.mem_cons_of_mem item member)
      have inside : (Frame.items [] :: outer).length + room ≤ Platform.reading := by
        rw [List.length_cons]
        omega
      simp only [tokensOf, List.cons_append, List.append_assoc, List.nil_append]
      rw [run_cons (begin_openBracket within), run_firstItem, run_tokensOf first inside,
        run_tokensOfItems others (by omega)]
      rfl
  | .obj [], _, .obj _, outer, fits, rest => by
      have within : outer.length < Platform.reading := by omega
      rw [tokensOf, List.cons_append, run_cons (begin_openBrace within)]
      exact run_cons rfl rest
  | .obj ((key, v) :: members), room + 1, .obj each, outer, fits, rest => by
      have within : outer.length < Platform.reading := by omega
      have first := each (key, v) List.mem_cons_self
      have others := fun other member => each other (List.mem_cons_of_mem (key, v) member)
      have inside : (Frame.members [] key :: outer).length + room ≤ Platform.reading := by
        rw [List.length_cons]
        omega
      have keyRead : step (.firstKey outer) (.str key) = .ok (.colon [] key outer) := rfl
      have colonRead : step (.colon [] key outer) (.mark .colon) =
          .ok (.value (.members [] key :: outer)) := rfl
      simp only [tokensOf, List.cons_append, List.append_assoc, List.nil_append]
      rw [run_cons (begin_openBrace within), run_cons keyRead, run_cons colonRead,
        run_tokensOf first inside, run_tokensOfMembers others (by omega)]
      rfl

theorem run_tokensOfItems : ∀ {items : List (Node Raw)} {room : Nat},
    (∀ item ∈ items, item.Readable room) → ∀ {outer : List Frame},
      outer.length + room + 1 ≤ Platform.reading → ∀ (v : Node Raw) (done : List (Node Raw))
      (rest : List Token),
      run (.complete v (.items done :: outer))
          (tokensOfItems items ++ .mark .closeBracket :: rest) =
        run (.complete (.arr ((v :: done).reverse ++ items)) outer) rest
  | [], _, _, outer, _, v, done, rest => by
      rw [List.append_nil]
      exact run_cons rfl rest
  | item :: items, room, each, outer, fits, v, done, rest => by
      have first := each item List.mem_cons_self
      have others := fun other member => each other (List.mem_cons_of_mem item member)
      have inside : (Frame.items (v :: done) :: outer).length + room ≤ Platform.reading := by
        rw [List.length_cons]
        omega
      have commaRead : step (.complete v (.items done :: outer)) (.mark .comma) =
          .ok (.value (.items (v :: done) :: outer)) := rfl
      rw [tokensOfItems, List.cons_append, List.append_assoc, run_cons commaRead,
        run_tokensOf first inside, run_tokensOfItems others fits, List.reverse_cons,
        List.append_assoc, List.singleton_append]

theorem run_tokensOfMembers : ∀ {members : List (Raw × Node Raw)} {room : Nat},
    (∀ member ∈ members, member.2.Readable room) → ∀ {outer : List Frame},
      outer.length + room + 1 ≤ Platform.reading → ∀ (v : Node Raw) (done : List (Raw × Node Raw))
      (key : Raw) (rest : List Token),
      run (.complete v (.members done key :: outer))
          (tokensOfMembers members ++ .mark .closeBrace :: rest) =
        run (.complete (.obj (((key, v) :: done).reverse ++ members)) outer) rest
  | [], _, _, outer, _, v, done, key, rest => by
      rw [List.append_nil]
      exact run_cons rfl rest
  | (next, w) :: members, room, each, outer, fits, v, done, key, rest => by
      have first := each (next, w) List.mem_cons_self
      have others := fun other member => each other (List.mem_cons_of_mem (next, w) member)
      have inside : (Frame.members ((key, v) :: done) next :: outer).length + room ≤
          Platform.reading := by
        rw [List.length_cons]
        omega
      have commaRead : step (.complete v (.members done key :: outer)) (.mark .comma) =
          .ok (.nextKey ((key, v) :: done) outer) := rfl
      have keyRead : step (.nextKey ((key, v) :: done) outer) (.str next) =
          .ok (.colon ((key, v) :: done) next outer) := rfl
      have colonRead : step (.colon ((key, v) :: done) next outer) (.mark .colon) =
          .ok (.value (.members ((key, v) :: done) next :: outer)) := rfl
      rw [tokensOfMembers, List.cons_append, List.cons_append, List.cons_append, List.append_assoc,
        run_cons commaRead, run_cons keyRead, run_cons colonRead, run_tokensOf first inside,
        run_tokensOfMembers others fits, List.reverse_cons, List.append_assoc, List.singleton_append]

end

end Reader

variable [Platform]

/-- A document that can be read is read back from what is written, string by string in its
places. -/
theorem readRaw_render (loose : layout.Loose) {v : Json} (readable : v.Readable Platform.reading) :
    readRaw (render layout v) = .ok (v.map (places layout.ascii)) := by
  have written : tokens (render layout v) = tokensOf (v.map (places layout.ascii)) ++ [] := by
    have read := tokensFrom_renderAt loose readable 0 endsWord_nil
    rw [List.append_nil] at read
    exact read
  have fits : ([] : List Frame).length + Platform.reading ≤ Platform.reading :=
    Nat.le_of_eq (Nat.zero_add Platform.reading)
  have ran : Reader.run (.value []) (tokensOf (v.map (places layout.ascii)) ++ []) =
      .ok (.complete (v.map (places layout.ascii)) []) :=
    Reader.run_tokensOf (readable.map (places layout.ascii)) fits []
  rw [readRaw, written, ran]
  rfl

/-- A value that reading can give is read back from what is written. -/
theorem read_render (plain : layout.Plain) {v : Json} (readable : v.Readable Platform.reading)
    (settled : v.Settled) : read (render layout v) = .ok v := by
  have texts : Literal.decode ∘ places layout.ascii = id := by
    rw [plain.raw]
    exact funext Literal.decode_pieces
  have decoded : ofRaw (v.map (places layout.ascii)) = v := by
    rw [ofRaw, Node.map_map, texts, Node.map_id, settled.collapse_eq]
  rw [read, readRaw_render plain.toLoose readable]
  exact congrArg Except.ok decoded

end SearchTuning.Json
