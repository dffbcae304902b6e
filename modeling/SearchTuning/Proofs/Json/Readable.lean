import SearchTuning.Proofs.Json.Document
import SearchTuning.Proofs.Json.Nesting
import SearchTuning.Proofs.Json.Scalar
import SearchTuning.Proofs.Table

/-!
# What reading can give

Reading gives no container inside more others than the text nests, no whole number with too many
digits, and no key twice in one object.  A document of this kind is all that writing has to bring
back.
-/

namespace SearchTuning

namespace Node

variable {σ τ : Type}

/-- A document that can be read where so many levels of containers are left. -/
inductive Readable : Nat → Node σ → Prop where
  | scalar {room : Nat} {s : Scalar} (readable : s.Readable) : Readable room (.scalar s)
  | str {room : Nat} (s : σ) : Readable room (.str s)
  | arr {room : Nat} {items : List (Node σ)} (each : ∀ item ∈ items, Readable room item) :
      Readable (room + 1) (.arr items)
  | obj {room : Nat} {members : List (σ × Node σ)}
      (each : ∀ member ∈ members, Readable room member.2) : Readable (room + 1) (.obj members)

theorem Readable.map {room : Nat} {n : Node σ} (readable : n.Readable room) (f : σ → τ) :
    (n.map f).Readable room := by
  induction readable with
  | scalar readable => exact .scalar readable
  | str s => exact .str (f s)
  | arr each ih =>
    refine .arr fun item member => ?_
    rw [mapItems_eq_map] at member
    obtain ⟨before, there, rfl⟩ := List.mem_map.mp member
    exact ih before there
  | obj each ih =>
    refine .obj fun entry member => ?_
    rw [mapMembers_eq_map] at member
    obtain ⟨before, there, rfl⟩ := List.mem_map.mp member
    exact ih before there

theorem Readable.mono {room more : Nat} {n : Node σ} (readable : n.Readable room)
    (wider : room ≤ more) : n.Readable more := by
  induction readable generalizing more with
  | scalar readable => exact .scalar readable
  | str s => exact .str s
  | arr each ih =>
    obtain ⟨more, rfl⟩ := Nat.exists_eq_add_of_le' (Nat.le_of_add_left_le wider)
    exact .arr fun item member => ih item member (Nat.le_of_add_le_add_right wider)
  | obj each ih =>
    obtain ⟨more, rfl⟩ := Nat.exists_eq_add_of_le' (Nat.le_of_add_left_le wider)
    exact .obj fun entry member => ih entry member (Nat.le_of_add_le_add_right wider)

end Node

namespace Json

theorem collapseItems_eq_map (items : List Json) : collapseItems items = items.map collapse := by
  induction items with
  | nil => rfl
  | cons item items ih => rw [collapseItems, ih, List.map_cons]

theorem collapseMembers_eq_map (members : List (Text × Json)) :
    collapseMembers members = members.map fun member => (member.1, collapse member.2) := by
  induction members with
  | nil => rfl
  | cons member members ih => rw [collapseMembers, ih, List.map_cons]

/-- A value in which no object has a key twice. -/
inductive Settled : Json → Prop where
  | scalar (s : Scalar) : Settled (.scalar s)
  | str (t : Text) : Settled (.str t)
  | arr {items : List Json} (each : ∀ item ∈ items, Settled item) : Settled (.arr items)
  | obj {members : List (Text × Json)} (distinct : Table.Distinct members)
      (each : ∀ member ∈ members, Settled member.2) : Settled (.obj members)

theorem Settled.collapse_eq {v : Json} (settled : v.Settled) : v.collapse = v := by
  induction settled with
  | scalar s => rfl
  | str t => rfl
  | arr each ih =>
    rw [collapse, collapseItems_eq_map, List.map_congr_left ih, List.map_id']
  | obj distinct each ih =>
    have same : ∀ member ∈ _, (member.1, collapse member.2) = member := fun member there =>
      Prod.ext rfl (ih member there)
    rw [collapse, collapseMembers_eq_map, List.map_congr_left same, List.map_id',
      Table.ofEntries_of_distinct distinct]

mutual

theorem settled_collapse : ∀ v : Json, v.collapse.Settled
  | .scalar s => .scalar s
  | .str t => .str t
  | .arr items => .arr (settled_collapseItems items)
  | .obj members => .obj (Table.distinct_ofEntries _) fun member there =>
      settled_collapseMembers members member (Table.mem_of_mem_ofEntries there)

theorem settled_collapseItems : ∀ (items : List Json), ∀ item ∈ collapseItems items, item.Settled
  | [], _, member => nomatch member
  | first :: items, item, member => by
      rcases List.mem_cons.mp member with rfl | later
      · exact settled_collapse first
      · exact settled_collapseItems items item later

theorem settled_collapseMembers : ∀ (members : List (Text × Json)),
    ∀ member ∈ collapseMembers members, member.2.Settled
  | [], _, there => nomatch there
  | (key, value) :: members, member, there => by
      rcases List.mem_cons.mp there with rfl | later
      · exact settled_collapse value
      · exact settled_collapseMembers members member later

end

theorem readable_collapse {room : Nat} {v : Json} (readable : v.Readable room) :
    v.collapse.Readable room := by
  induction readable with
  | scalar readable => exact .scalar readable
  | str t => exact .str t
  | arr each ih =>
    refine .arr fun item member => ?_
    rw [collapseItems_eq_map] at member
    obtain ⟨before, there, rfl⟩ := List.mem_map.mp member
    exact ih before there
  | obj each ih =>
    refine .obj fun entry member => ?_
    have given := Table.mem_of_mem_ofEntries member
    rw [collapseMembers_eq_map] at given
    obtain ⟨before, there, rfl⟩ := List.mem_map.mp given
    exact ih before there

/-! ## Tokens and readers -/

theorem not_mem_start {c : CodePoint} {ended : List Token} {next : Scan}
    (started : start c = some (ended, next)) (s : Scalar) : Token.scalar s ∉ ended := by
  intro member
  unfold start at started
  split at started
  · cases started
    cases member
  split at started
  · cases started
    cases member
  split at started
  · cases started
    cases member
  · obtain ⟨m, -, eq⟩ := Option.map_eq_some_iff.mp started
    cases eq
    cases List.mem_singleton.mp member

theorem readable_of_mem_step {scan next : Scan} {c : CodePoint} {ended : List Token}
    (stepped : scan.step c = some (ended, next)) {s : Scalar} (member : Token.scalar s ∈ ended) :
    s.Readable := by
  cases scan with
  | between => exact absurd member (not_mem_start stepped s)
  | word read =>
    rw [Scan.step] at stepped
    split at stepped
    · cases stepped
      cases member
    · obtain ⟨found, read, rest⟩ := Option.bind_eq_some_iff.mp stepped
      obtain ⟨⟨tokens, after⟩, started, eq⟩ := Option.bind_eq_some_iff.mp rest
      cases eq
      rcases List.mem_cons.mp member with here | later
      · cases here
        exact readable_of_scalar? read
      · exact absurd later (not_mem_start started s)
  | string read =>
    rw [Scan.step] at stepped
    split at stepped
    · cases stepped
      cases List.mem_singleton.mp member
    split at stepped
    · cases stepped
      cases member
    split at stepped
    · cases stepped
    · cases stepped
      cases member
  | escape read =>
    rw [Scan.step] at stepped
    split at stepped
    · cases stepped
      cases member
    · obtain ⟨d, -, eq⟩ := Option.map_eq_some_iff.mp stepped
      cases eq
      cases member
  | unit read digits =>
    obtain ⟨d, -, rest⟩ := Option.bind_eq_some_iff.mp stepped
    split at rest
    · cases rest
      cases member
    · cases rest
      cases member

/-- Every number among the tokens of a text has few enough digits. -/
theorem readable_of_mem_tokensFrom {scan : Scan} {t : Text} {s : Scalar}
    (member : Token.scalar s ∈ tokensFrom scan t) : s.Readable := by
  induction t generalizing scan with
  | nil =>
    cases scan with
    | word read =>
      rw [tokensFrom, Scan.finish] at member
      split at member
      · next found =>
        cases List.mem_singleton.mp member
        exact readable_of_scalar? found
      · cases List.mem_singleton.mp member
    | between => cases member
    | string read => cases List.mem_singleton.mp member
    | escape read => cases List.mem_singleton.mp member
    | unit read digits => cases List.mem_singleton.mp member
  | cons c t ih =>
    cases stepped : scan.step c with
    | none =>
      rw [tokensFrom, stepped] at member
      cases List.mem_singleton.mp member
    | some taken =>
      obtain ⟨ended, next⟩ := taken
      rw [tokensFrom_cons stepped] at member
      rcases List.mem_append.mp member with here | later
      · exact readable_of_mem_step stepped here
      · exact ih later

/-- The levels of containers that are left inside a container that stands in the given ones, where
the text nests so many. -/
def roomIn (levels : Nat) (outer : List Frame) : Nat := levels - (outer.length + 1)

/-- What an open container holds fits into it. -/
def Frame.Holds (room : Nat) : Frame → Prop
  | .items done => ∀ item ∈ done, item.Readable room
  | .members done _ => ∀ member ∈ done, member.2.Readable room

/-- Open containers stand in few enough others, and what each of them holds fits into it. -/
def FramesHold (levels : Nat) : List Frame → Prop
  | [] => True
  | frame :: outer =>
      outer.length < levels ∧ frame.Holds (roomIn levels outer) ∧ FramesHold levels outer

/-- Whether what has been read so far can be part of a document of so many levels. -/
def Reader.Holds (levels : Nat) : Reader → Prop
  | .value outer => FramesHold levels outer
  | .firstItem outer => outer.length < levels ∧ FramesHold levels outer
  | .firstKey outer => outer.length < levels ∧ FramesHold levels outer
  | .nextKey done outer => FramesHold levels (.members done [] :: outer)
  | .colon done key outer => FramesHold levels (.members done key :: outer)
  | .complete v outer => v.Readable (levels - outer.length) ∧ FramesHold levels outer

theorem room_eq {levels : Nat} {outer : List Frame} (within : outer.length < levels) :
    levels - outer.length = roomIn levels outer + 1 := by
  rw [roomIn]
  omega

/-- Whether the number that a token is, if it is one, has few enough digits. -/
def Token.Readable : Token → Prop
  | .scalar s => s.Readable
  | _ => True

namespace Reader

variable [Platform] {levels : Nat}

theorem begin_holds {outer : List Frame} (hold : FramesHold levels outer) {token : Token}
    (readable : token.Readable) {next : Reader} (begun : begin outer token = .ok next)
    (shallow : next.depth ≤ levels) : next.Holds levels := by
  cases token with
  | scalar s =>
    cases begun
    exact ⟨.scalar readable, hold⟩
  | str pieces =>
    cases begun
    exact ⟨.str pieces, hold⟩
  | bad => cases begun
  | mark m =>
    cases m with
    | openBracket =>
      rw [begin] at begun
      split at begun
      · cases begun
        exact ⟨shallow, hold⟩
      · cases begun
    | openBrace =>
      rw [begin] at begun
      split at begun
      · cases begun
        exact ⟨shallow, hold⟩
      · cases begun
    | _ => cases begun

/-- After an item the list goes on or ends. -/
theorem item_holds {v : Node Raw} {done : List (Node Raw)} {outer : List Frame}
    (within : outer.length < levels)
    (all : ∀ item ∈ v :: done, item.Readable (roomIn levels outer))
    (hold : FramesHold levels outer) {token : Token} {next : Reader}
    (stepped : (Reader.complete v (.items done :: outer)).step token = .ok next) :
    next.Holds levels := by
  cases token with
  | mark m =>
    cases m with
    | comma =>
      cases stepped
      exact ⟨within, all, hold⟩
    | closeBracket =>
      cases stepped
      refine ⟨?_, hold⟩
      rw [room_eq within]
      exact .arr fun item member => all item (List.mem_reverse.mp member)
    | _ => cases stepped
  | _ => cases stepped

/-- After a member the object goes on or ends. -/
theorem member_holds {v : Node Raw} {done : List (Raw × Node Raw)} {key : Raw} {outer : List Frame}
    (within : outer.length < levels)
    (all : ∀ member ∈ (key, v) :: done, member.2.Readable (roomIn levels outer))
    (hold : FramesHold levels outer) {token : Token} {next : Reader}
    (stepped : (Reader.complete v (.members done key :: outer)).step token = .ok next) :
    next.Holds levels := by
  cases token with
  | mark m =>
    cases m with
    | comma =>
      cases stepped
      exact ⟨within, all, hold⟩
    | closeBrace =>
      cases stepped
      refine ⟨?_, hold⟩
      rw [room_eq within]
      exact .obj fun member there => all member (List.mem_reverse.mp there)
    | _ => cases stepped
  | _ => cases stepped

/-- A further token leaves what has been read a part of a document that can be read. -/
theorem step_holds {reader next : Reader} (holds : reader.Holds levels) {token : Token}
    (readable : token.Readable) (stepped : reader.step token = .ok next)
    (shallow : next.depth ≤ levels) : next.Holds levels := by
  cases reader with
  | value outer => exact begin_holds holds readable stepped shallow
  | firstItem outer =>
    obtain ⟨within, hold⟩ := holds
    have opened : FramesHold levels (.items [] :: outer) :=
      ⟨within, List.forall_mem_nil _, hold⟩
    by_cases close : token = .mark .closeBracket
    · subst close
      cases stepped
      refine ⟨?_, hold⟩
      rw [room_eq within]
      exact .arr (List.forall_mem_nil _)
    · rw [step_firstItem close] at stepped
      exact begin_holds opened readable stepped shallow
  | firstKey outer =>
    obtain ⟨within, hold⟩ := holds
    cases token with
    | str key =>
      cases stepped
      exact ⟨within, List.forall_mem_nil _, hold⟩
    | mark m =>
      cases m with
      | closeBrace =>
        cases stepped
        refine ⟨?_, hold⟩
        rw [room_eq within]
        exact .obj (List.forall_mem_nil _)
      | _ => cases stepped
    | _ => cases stepped
  | nextKey done outer =>
    cases token with
    | str key =>
      cases stepped
      exact holds
    | _ => cases stepped
  | colon done key outer =>
    cases token with
    | mark m =>
      cases m with
      | colon =>
        cases stepped
        exact holds
      | _ => cases stepped
    | _ => cases stepped
  | complete v outer =>
    obtain ⟨given, hold⟩ := holds
    cases outer with
    | nil => cases stepped
    | cons frame outer =>
      obtain ⟨within, held, hold⟩ := hold
      cases frame with
      | items done =>
        exact item_holds within (List.forall_mem_cons.mpr ⟨given, held⟩) hold stepped
      | members done key =>
        exact member_holds within (List.forall_mem_cons.mpr ⟨given, held⟩) hold stepped

theorem run_holds {tokens : List Token} (readable : ∀ token ∈ tokens, token.Readable)
    {reader last : Reader} (holds : reader.Holds levels) (ran : run reader tokens = .ok last)
    (shallow : mostOpen reader.depth tokens ≤ levels) : last.Holds levels := by
  induction tokens generalizing reader with
  | nil =>
    cases ran
    exact holds
  | cons token tokens ih =>
    rw [run] at ran
    cases stepped : reader.step token with
    | error e =>
      rw [stepped] at ran
      cases ran
    | ok next =>
      rw [stepped] at ran
      have here := readable token List.mem_cons_self
      have later := fun t member => readable t (List.mem_cons_of_mem token member)
      have rest : mostOpen next.depth tokens ≤ levels := by
        rw [depth_step stepped]
        exact Nat.le_trans (mostOpen_openAfter_le _ _ _) shallow
      have open_next := Nat.le_trans (le_mostOpen next.depth tokens) rest
      exact ih later (step_holds holds here stepped open_next) ran rest

end Reader

variable [Platform]

/-- A document has no more levels than its text nests. -/
theorem readable_nesting_of_readRaw {t : Text} {document : Node Raw}
    (read : readRaw t = .ok document) : document.Readable (nesting t) := by
  have words : ∀ token ∈ tokens t, token.Readable := by
    intro token member
    cases token with
    | scalar s => exact readable_of_mem_tokensFrom member
    | _ => trivial
  rw [readRaw] at read
  cases ran : Reader.run (.value []) (tokens t) with
  | error e =>
    rw [ran] at read
    cases read
  | ok last =>
    have begins : (Reader.value []).Holds (nesting t) := trivial
    have holds := Reader.run_holds words begins ran (Nat.le_refl _)
    rw [ran] at read
    cases last with
    | complete v outer =>
      cases outer with
      | nil =>
        cases read
        exact holds.1
      | cons frame outer => cases read
    | _ => cases read

/-- What is read has no more levels than the text nests, and no key twice in one object. -/
theorem readable_nesting_of_read {t : Text} {v : Json} (read : read t = .ok v) :
    v.Readable (nesting t) ∧ v.Settled := by
  cases raw : readRaw t with
  | error e =>
    rw [Json.read, raw] at read
    cases read
  | ok document =>
    rw [Json.read, raw] at read
    cases read
    exact ⟨readable_collapse ((readable_nesting_of_readRaw raw).map Literal.decode),
      settled_collapse _⟩

theorem nesting_le_of_read {t : Text} {v : Json} (read : read t = .ok v) :
    nesting t ≤ Platform.reading := by
  cases raw : readRaw t with
  | error e =>
    rw [Json.read, raw] at read
    cases read
  | ok document => exact nesting_le_of_readRaw raw

/-- What is read is a value that can be read, and has no key twice in one object. -/
theorem readable_of_read {t : Text} {v : Json} (read : read t = .ok v) :
    v.Readable Platform.reading ∧ v.Settled :=
  (readable_nesting_of_read read).imp_left (Node.Readable.mono · (nesting_le_of_read read))

end Json

end SearchTuning
