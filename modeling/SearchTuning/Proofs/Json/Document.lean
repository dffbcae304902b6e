import SearchTuning.Json.Reader

/-!
# Documents with other strings

Reading looks at no string: with every literal in another form the tokens of a document are those of
the same document with every literal in that form.  Objects in which keys come more than once
collapse alike whatever the string values are.
-/

namespace SearchTuning

namespace Node

variable {σ τ ρ κ : Type}

theorem mapItems_eq_map (f : σ → τ) (items : List (Node σ)) :
    mapItems f items = items.map (map f) := by
  induction items with
  | nil => rfl
  | cons item items ih => rw [mapItems, ih, List.map_cons]

theorem mapMembers_eq_map (f : σ → τ) (members : List (σ × Node σ)) :
    mapMembers f members = members.map fun member => (f member.1, map f member.2) := by
  induction members with
  | nil => rfl
  | cons member members ih => rw [mapMembers, ih, List.map_cons]

mutual

theorem map_map (f : σ → τ) (g : τ → ρ) : ∀ n : Node σ, (n.map f).map g = n.map (g ∘ f)
  | .scalar _ => rfl
  | .str _ => rfl
  | .arr items => congrArg Node.arr (mapItems_mapItems f g items)
  | .obj members => congrArg Node.obj (mapMembers_mapMembers f g members)

theorem mapItems_mapItems (f : σ → τ) (g : τ → ρ) :
    ∀ items : List (Node σ), mapItems g (mapItems f items) = mapItems (g ∘ f) items
  | [] => rfl
  | item :: items => by
      rw [mapItems, mapItems, mapItems, map_map f g item, mapItems_mapItems f g items]

theorem mapMembers_mapMembers (f : σ → τ) (g : τ → ρ) :
    ∀ members : List (σ × Node σ), mapMembers g (mapMembers f members) = mapMembers (g ∘ f) members
  | [] => rfl
  | (key, value) :: members => by
      rw [mapMembers, mapMembers, mapMembers, map_map f g value, mapMembers_mapMembers f g members]
      rfl

end

mutual

theorem map_id : ∀ n : Node σ, n.map id = n
  | .scalar _ => rfl
  | .str _ => rfl
  | .arr items => congrArg Node.arr (mapItems_id items)
  | .obj members => congrArg Node.obj (mapMembers_id members)

theorem mapItems_id : ∀ items : List (Node σ), mapItems id items = items
  | [] => rfl
  | item :: items => by rw [mapItems, map_id item, mapItems_id items]

theorem mapMembers_id : ∀ members : List (σ × Node σ), mapMembers id members = members
  | [] => rfl
  | (key, value) :: members => by
      rw [mapMembers, map_id value, mapMembers_id members]
      rfl

end

/-! ## Keys and string values apart -/

mutual

/-- The same document with its keys in one form and its string values in another. -/
def mapParts (key str : σ → τ) : Node σ → Node τ
  | .scalar s => .scalar s
  | .str s => .str (str s)
  | .arr items => .arr (mapPartsItems key str items)
  | .obj members => .obj (mapPartsMembers key str members)

/-- The items of an array, with keys and string values in their forms. -/
def mapPartsItems (key str : σ → τ) : List (Node σ) → List (Node τ)
  | [] => []
  | item :: items => mapParts key str item :: mapPartsItems key str items

/-- The members of an object, with keys and string values in their forms. -/
def mapPartsMembers (key str : σ → τ) : List (σ × Node σ) → List (τ × Node τ)
  | [] => []
  | (k, value) :: members => (key k, mapParts key str value) :: mapPartsMembers key str members

end

mutual

/-- The keys of all objects in a document. -/
def keys : Node σ → List σ
  | .scalar _ => []
  | .str _ => []
  | .arr items => keysOfItems items
  | .obj members => keysOfMembers members

/-- The keys of all objects in the items of an array. -/
def keysOfItems : List (Node σ) → List σ
  | [] => []
  | item :: items => keys item ++ keysOfItems items

/-- The keys of members, and those of all objects in their values. -/
def keysOfMembers : List (σ × Node σ) → List σ
  | [] => []
  | (key, value) :: members => key :: keys value ++ keysOfMembers members

end

mutual

/-- Where two forms agree on the keys, it makes no difference in which the keys are. -/
theorem map_eq_mapParts {key str : σ → τ} :
    ∀ {n : Node σ}, (∀ k ∈ n.keys, str k = key k) → n.map str = n.mapParts key str
  | .scalar _, _ => rfl
  | .str _, _ => rfl
  | .arr _, same => congrArg Node.arr (mapItems_eq_mapParts same)
  | .obj _, same => congrArg Node.obj (mapMembers_eq_mapParts same)

theorem mapItems_eq_mapParts {key str : σ → τ} :
    ∀ {items : List (Node σ)}, (∀ k ∈ keysOfItems items, str k = key k) →
      mapItems str items = mapPartsItems key str items
  | [], _ => rfl
  | _ :: _, same => by
      rw [mapItems, mapPartsItems,
        map_eq_mapParts fun k member => same k (List.mem_append_left _ member),
        mapItems_eq_mapParts fun k member => same k (List.mem_append_right _ member)]

theorem mapMembers_eq_mapParts {key str : σ → τ} :
    ∀ {members : List (σ × Node σ)}, (∀ k ∈ keysOfMembers members, str k = key k) →
      mapMembers str members = mapPartsMembers key str members
  | [], _ => rfl
  | (k, _) :: _, same => by
      rw [mapMembers, mapPartsMembers, same k List.mem_cons_self,
        map_eq_mapParts fun j member =>
          same j (List.mem_cons_of_mem k (List.mem_append_left _ member)),
        mapMembers_eq_mapParts fun j member =>
          same j (List.mem_cons_of_mem k (List.mem_append_right _ member))]

end

/-! ## Keys that come more than once -/

variable [DecidableEq κ]

/-- Writes a member: in the place of the one whose key stands for the same, at the end if there is
none. -/
def insertBy (text : σ → κ) (key : σ) (value : Node σ) : List (σ × Node σ) → List (σ × Node σ)
  | [] => [(key, value)]
  | (k, v) :: rest =>
      if text k = text key then (k, value) :: rest else (k, v) :: insertBy text key value rest

mutual

/-- The document in which of members whose keys stand for the same one is left: at the place of the
first, with the value of the last. -/
def collapseBy (text : σ → κ) : Node σ → Node σ
  | .scalar s => .scalar s
  | .str s => .str s
  | .arr items => .arr (collapseItemsBy text items)
  | .obj members =>
      .obj ((collapseMembersBy text members).foldl
        (fun kept member => insertBy text member.1 member.2 kept) [])

/-- The items of an array, each collapsed. -/
def collapseItemsBy (text : σ → κ) : List (Node σ) → List (Node σ)
  | [] => []
  | item :: items => collapseBy text item :: collapseItemsBy text items

/-- The members of an object, the value of each collapsed. -/
def collapseMembersBy (text : σ → κ) : List (σ × Node σ) → List (σ × Node σ)
  | [] => []
  | (key, value) :: members => (key, collapseBy text value) :: collapseMembersBy text members

end

theorem insert_mapPartsMembers (text : σ → Text) (str : σ → Text) (key : σ) (value : Node σ)
    (members : List (σ × Node σ)) :
    Table.insert (text key) (value.mapParts text str) (mapPartsMembers text str members) =
      mapPartsMembers text str (insertBy text key value members) := by
  induction members with
  | nil => rfl
  | cons member members ih =>
    rw [mapPartsMembers, Table.insert, insertBy]
    split
    · rw [mapPartsMembers]
    · rw [mapPartsMembers, ih]

theorem foldl_mapPartsMembers (text : σ → Text) (str : σ → Text) (members : List (σ × Node σ))
    (kept : List (σ × Node σ)) :
    (mapPartsMembers text str members).foldl
        (fun table entry => Table.insert entry.1 entry.2 table) (mapPartsMembers text str kept) =
      mapPartsMembers text str
        (members.foldl (fun kept member => insertBy text member.1 member.2 kept) kept) := by
  induction members generalizing kept with
  | nil => rfl
  | cons member members ih =>
    obtain ⟨key, value⟩ := member
    rw [mapPartsMembers, List.foldl_cons, List.foldl_cons, ← ih]
    exact congrArg (List.foldl _ · _) (insert_mapPartsMembers text str key value kept)

mutual

/-- A document collapses by its keys alone, whatever its string values are. -/
theorem collapse_mapParts (text : σ → Text) (str : σ → Text) :
    ∀ n : Node σ, Json.collapse (n.mapParts text str) = (n.collapseBy text).mapParts text str
  | .scalar _ => rfl
  | .str _ => rfl
  | .arr items => congrArg Node.arr (collapseItems_mapParts text str items)
  | .obj members => by
      rw [mapParts, Json.collapse, collapseMembers_mapParts text str members, collapseBy, mapParts]
      exact congrArg Node.obj (foldl_mapPartsMembers text str _ [])

theorem collapseItems_mapParts (text : σ → Text) (str : σ → Text) :
    ∀ items : List (Node σ), Json.collapseItems (mapPartsItems text str items) =
      mapPartsItems text str (collapseItemsBy text items)
  | [] => rfl
  | item :: items => by
      rw [mapPartsItems, Json.collapseItems, collapse_mapParts text str item,
        collapseItems_mapParts text str items, collapseItemsBy, mapPartsItems]

theorem collapseMembers_mapParts (text : σ → Text) (str : σ → Text) :
    ∀ members : List (σ × Node σ), Json.collapseMembers (mapPartsMembers text str members) =
      mapPartsMembers text str (collapseMembersBy text members)
  | [] => rfl
  | (key, value) :: members => by
      rw [mapPartsMembers, Json.collapseMembers, collapse_mapParts text str value,
        collapseMembers_mapParts text str members, collapseMembersBy, mapPartsMembers]

end

end Node

namespace Json

/-! ## Reading -/

/-- The token with its literal in another form. -/
def Token.map (f : Raw → Raw) : Token → Token
  | .str pieces => .str (f pieces)
  | token => token

/-- The open container with every literal in another form. -/
def Frame.map (f : Raw → Raw) : Frame → Frame
  | .items done => .items (Node.mapItems f done)
  | .members done key => .members (Node.mapMembers f done) (f key)

namespace Reader

/-- Where reading stands, with every literal that has been read in another form. -/
def map (f : Raw → Raw) : Reader → Reader
  | .value outer => .value (outer.map (Frame.map f))
  | .firstItem outer => .firstItem (outer.map (Frame.map f))
  | .firstKey outer => .firstKey (outer.map (Frame.map f))
  | .nextKey done outer => .nextKey (Node.mapMembers f done) (outer.map (Frame.map f))
  | .colon done key outer => .colon (Node.mapMembers f done) (f key) (outer.map (Frame.map f))
  | .complete v outer => .complete (v.map f) (outer.map (Frame.map f))

variable (f : Raw → Raw)

theorem finish_map (reader : Reader) :
    (reader.map f).finish = reader.finish.map (Node.map f) := by
  cases reader with
  | complete v outer => cases outer <;> rfl
  | _ => rfl

variable [Platform]

theorem begin_map (outer : List Frame) (token : Token) :
    begin (outer.map (Frame.map f)) (token.map f) = (begin outer token).map (map f) := by
  cases token with
  | scalar s => rfl
  | str pieces => rfl
  | bad => rfl
  | mark m =>
    cases m with
    | openBrace =>
      simp only [Token.map, begin, List.length_map]
      split <;> rfl
    | openBracket =>
      simp only [Token.map, begin, List.length_map]
      split <;> rfl
    | _ => rfl

theorem step_map (reader : Reader) (token : Token) :
    (reader.map f).step (token.map f) = (reader.step token).map (map f) := by
  cases reader with
  | value outer => exact begin_map f outer token
  | firstItem outer =>
    have begun := begin_map f (.items [] :: outer) token
    cases token with
    | mark m =>
      cases m with
      | closeBracket => rfl
      | _ => exact begun
    | _ => exact begun
  | firstKey outer =>
    cases token with
    | mark m => cases m <;> rfl
    | _ => rfl
  | nextKey done outer => cases token <;> rfl
  | colon done key outer =>
    cases token with
    | mark m => cases m <;> rfl
    | _ => rfl
  | complete v outer =>
    cases outer with
    | nil => rfl
    | cons frame outer =>
      cases frame with
      | items done =>
        cases token with
        | mark m =>
          cases m with
          | closeBracket =>
            have reversed : Node.mapItems f (v :: done).reverse =
                (Node.mapItems f (v :: done)).reverse := by
              rw [Node.mapItems_eq_map, Node.mapItems_eq_map, List.map_reverse]
            exact congrArg (fun items => Except.ok
              (Reader.complete (.arr items) (outer.map (Frame.map f)))) reversed.symm
          | _ => rfl
        | _ => rfl
      | members done key =>
        cases token with
        | mark m =>
          cases m with
          | closeBrace =>
            have reversed : Node.mapMembers f ((key, v) :: done).reverse =
                (Node.mapMembers f ((key, v) :: done)).reverse := by
              rw [Node.mapMembers_eq_map, Node.mapMembers_eq_map, List.map_reverse]
            exact congrArg (fun members => Except.ok
              (Reader.complete (.obj members) (outer.map (Frame.map f)))) reversed.symm
          | _ => rfl
        | _ => rfl

theorem run_map (tokens : List Token) (reader : Reader) :
    run (reader.map f) (tokens.map (Token.map f)) = (run reader tokens).map (map f) := by
  induction tokens generalizing reader with
  | nil => rfl
  | cons token tokens ih =>
    rw [List.map_cons, run, step_map, run]
    cases reader.step token with
    | error e => rfl
    | ok next => exact ih next

/-- A reader that goes to the end has met no token that no document holds. -/
theorem bad_not_mem {tokens : List Token} {reader last : Reader}
    (ran : run reader tokens = .ok last) : Token.bad ∉ tokens := by
  induction tokens generalizing reader with
  | nil => exact List.not_mem_nil
  | cons token tokens ih =>
    rw [run] at ran
    cases stepped : reader.step token with
    | error e =>
      rw [stepped] at ran
      cases ran
    | ok next =>
      rw [stepped] at ran
      rw [List.mem_cons, not_or]
      refine ⟨?_, ih ran⟩
      rintro rfl
      cases reader with
      | complete v outer => rcases outer with _ | ⟨_ | _, outer⟩ <;> cases stepped
      | _ => cases stepped

end Reader

theorem bad_not_mem_tokens [Platform] {t : Text} {document : Node Raw}
    (read : readRaw t = .ok document) : Token.bad ∉ tokens t := by
  rw [readRaw] at read
  cases ran : Reader.run (.value []) (tokens t) with
  | error e =>
    rw [ran] at read
    cases read
  | ok last => exact Reader.bad_not_mem ran

/-- A text whose tokens are those of another, with every literal in another form, is read as the
same document with every literal in that form. -/
theorem readRaw_map [Platform] {f : Raw → Raw} {t u : Text}
    (same : tokens u = (tokens t).map (Token.map f)) :
    readRaw u = (readRaw t).map (Node.map f) := by
  have ran := Reader.run_map f (tokens t) (.value [])
  rw [readRaw, readRaw, same]
  change Reader.run (.value []) _ = _ at ran
  rw [ran]
  cases Reader.run (.value []) (tokens t) with
  | error e => rfl
  | ok last => exact Reader.finish_map f last

end Json

end SearchTuning
