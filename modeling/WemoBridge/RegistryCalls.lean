/-
**A call of the registry on its own.**

A `GetOrAssign` with the database to itself and any statements failing does one of five things
(`run_getOrAssign`): it gives up, returns the id stored, throws, stores a new row and returns its id,
or returns the id although `COMMIT` failed, whose result the source ignores. In the last case nothing
is stored. `all_or_nothing_iff`: a call keeps its promise exactly when it is not this one.
-/

import WemoBridge.EndpointRegistry

namespace WemoBridge.EndpointRegistry

open Library
open Library.Transaction

/-- The operations that fail in a call. -/
abbrev Faults := Op schema → Bool

/-- The calls of SQLite all succeed, but for violated constraints. -/
def noFaults : Faults := fun _ => false

/-! ### What the statements of a call come to -/

section Statements

variable (faults : Faults) (udn : CppString) (tables : Tables)

/-- What `QueryEndpointId` returns. -/
def readId : Option EndpointId :=
  if faults (.plain (.prepare .selectEndpointId)) ∨ faults (.read (.endpointId (cStr udn))) then none
  else (tables.answer (.endpointId (cStr udn))).map UInt16.ofInt

/-- What `QueryNextEndpointId` returns, unless it throws. -/
def readNext : Option EndpointId :=
  if faults (.plain (.prepare .selectNextEndpointId)) ∨
      faults (.read (.metaValue nextEndpointIdKey)) then some kFirstDynamicEndpointId
  else
    match tables.answer (.metaValue nextEndpointIdKey) with
    | some value => (stoi value).map UInt16.ofInt
    | none => some kFirstDynamicEndpointId

/-- The tables after a prepared write, if it succeeds. -/
def written (statement : Statement) (update : Update) : Option Tables :=
  if faults (.plain (.prepare statement)) ∨ faults (.write update) then none
  else tables.apply update

/-- The tables with the new row and the next counter, if both writes succeed. -/
def assigned (id : EndpointId) : Option Tables :=
  (written faults tables .insertMapping (.insertMapping (cStr udn) id.toNat)).bind fun inserted =>
    written faults inserted .upsertNextEndpointId
      (.upsertMeta nextEndpointIdKey (Decimal.ofNat (id + 1).toNat))

variable {faults udn tables} {committed : Tables}

/-- A call that touches no row. -/
theorem run_plain (label : Call) (view : View schema) :
    Program.run (alone faults) (call (.plain label)) view = (!faults (.plain label), view) := rfl

theorem run_begin :
    Program.run (alone faults) execBegin { committed := committed, own := none } =
      (!faults .begin,
        { committed := committed, own := if faults .begin then none else some committed }) := by
  cases begun : faults .begin <;> simp [execBegin, alone, exec, begun]

theorem run_queryEndpointId (view : View schema) :
    Program.run (alone faults) (queryEndpointId udn) view =
      (readId faults udn (view.own.getD view.committed), view) := by
  unfold queryEndpointId sqlite3Prepare sqlite3StepSelect readId
  by_cases prepare : faults (.plain (.prepare .selectEndpointId)) = true
  · simp [alone, exec, prepare]
  · by_cases read : faults (.read (.endpointId (cStr udn))) = true <;>
      simp [alone, exec, prepare, read]

theorem run_queryNextEndpointId :
    Program.run (alone faults) queryNextEndpointId { committed := committed, own := some tables } =
      (readNext faults tables, { committed := committed, own := some tables }) := by
  unfold queryNextEndpointId sqlite3Prepare sqlite3StepSelect readNext
  by_cases prepare : faults (.plain (.prepare .selectNextEndpointId)) = true
  · simp [alone, exec, prepare]
  · by_cases read : faults (.read (.metaValue nextEndpointIdKey)) = true
    · simp [alone, exec, prepare, read]
    · cases stored : tables.answer (.metaValue nextEndpointIdKey) <;>
        simp [alone, exec, prepare, read, stored]

/-- A prepared write in a transaction. -/
theorem run_write (statement : Statement) (update : Update) :
    Program.run (alone faults)
        (do if ← sqlite3Prepare statement then sqlite3StepWrite update else return false)
        { committed := committed, own := some tables } =
      match written faults tables statement update with
      | some next => (true, { committed := committed, own := some next })
      | none => (false, { committed := committed, own := some tables }) := by
  unfold sqlite3Prepare sqlite3StepWrite written
  by_cases prepare : faults (.plain (.prepare statement)) = true
  · simp [alone, exec, prepare]
  · by_cases step : faults (.write update) = true
    · simp [alone, exec, prepare, step]
    · cases applied : tables.apply update with
      | none => simp [alone, exec, prepare, step, applied]
      | some next => simp [alone, exec, prepare, step, applied]

/-- The end of a transaction that assigns. -/
theorem run_assign (id : EndpointId) :
    Program.run (alone faults)
        (do
          if ← both (insertMapping udn id) (upsertNextEndpointId (id + 1)) then
            let _ ← execCommit
            sqlite3Close
            return Outcome.returned (some id)
          else
            let _ ← execRollback
            sqlite3Close
            return Outcome.returned none)
        { committed := committed, own := some tables } =
      match assigned faults udn tables id with
      | none => (.returned none, { committed := committed, own := none })
      | some next =>
        (.returned (some id),
          { committed := if faults .commit then committed else next, own := none }) := by
  have givesUp : ∀ copy : Tables, Program.run (alone faults)
      (do
        let _ ← execRollback
        sqlite3Close
        return Outcome.returned none)
      { committed := committed, own := some copy } =
        (.returned none, { committed := committed, own := none }) := by
    intro copy
    by_cases rollback : faults .rollback = true <;>
      simp [execRollback, sqlite3Close, alone, exec, rollback]
  have commits : ∀ copy : Tables, Program.run (alone faults)
      (do
        let _ ← execCommit
        sqlite3Close
        return Outcome.returned (some id))
      { committed := committed, own := some copy } =
        (.returned (some id),
          { committed := if faults .commit then committed else copy, own := none }) := by
    intro copy
    by_cases commit : faults .commit = true <;>
      simp [execCommit, sqlite3Close, alone, exec, commit]
  unfold assigned
  rw [Program.run_bind, both, Program.run_bind, insertMapping, run_write]
  cases inserted : written faults tables .insertMapping (.insertMapping (cStr udn) id.toNat) with
  | none => exact givesUp tables
  | some next =>
    dsimp only
    rw [if_pos rfl, upsertNextEndpointId, run_write, Option.bind_some]
    cases written faults next .upsertNextEndpointId
      (.upsertMeta nextEndpointIdKey (Decimal.ofNat (id + 1).toNat)) with
    | none => exact givesUp next
    | some after => exact commits after

/-- **What a call comes to.** -/
theorem run_getOrAssign :
    Program.run (alone faults) (getOrAssign udn) { committed := tables, own := none } =
      if faults (.plain .sqlite3_open) ∨ faults (.plain .createTables) ∨ faults .begin then
        (.returned none, { committed := tables, own := none })
      else
        match readId faults udn tables with
        | some existing => (.returned (some existing), { committed := tables, own := none })
        | none =>
          match readNext faults tables with
          | none => (.threw, { committed := tables, own := some tables })
          | some id =>
            match assigned faults udn tables id with
            | none => (.returned none, { committed := tables, own := none })
            | some next =>
              (.returned (some id),
                { committed := if faults .commit then tables else next, own := none }) := by
  have existing : ∀ id : EndpointId, Program.run (alone faults)
      (do
        let _ ← execCommit
        sqlite3Close
        return Outcome.returned (some id))
      { committed := tables, own := some tables } =
        (.returned (some id), { committed := tables, own := none }) := by
    intro id
    by_cases commit : faults .commit = true <;>
      simp [execCommit, sqlite3Close, alone, exec, commit]
  rw [getOrAssign, Program.run_bind, sqlite3Open, run_plain]
  cases opened : faults (.plain .sqlite3_open) with
  | true => simp [sqlite3Close, alone, exec]
  | false =>
    dsimp only
    rw [Bool.not_false, if_pos rfl, Program.run_bind, both, Program.run_bind, execCreateTables,
      run_plain]
    cases created : faults (.plain .createTables) with
    | true => simp [sqlite3Close, alone, exec]
    | false =>
      dsimp only
      rw [Bool.not_false, if_pos rfl, run_begin]
      cases begun : faults .begin with
      | true => simp [sqlite3Close, alone, exec]
      | false =>
        dsimp only
        rw [Bool.not_false, if_pos rfl, if_neg Bool.false_ne_true, if_neg (by simp),
          Program.run_bind, run_queryEndpointId, Option.getD_some]
        cases readId faults udn tables with
        | some id => exact existing id
        | none =>
          dsimp only
          rw [Program.run_bind, run_queryNextEndpointId]
          cases readNext faults tables with
          | none => rfl
          | some id => exact run_assign id

theorem run_lookup :
    Program.run (alone faults) (lookup udn) { committed := tables, own := none } =
      (.returned
        (if faults (.plain .sqlite3_open) ∨ faults (.plain .createTables) then none
          else readId faults udn tables), { committed := tables, own := none }) := by
  rw [lookup, Program.run_bind, sqlite3Open, run_plain]
  cases opened : faults (.plain .sqlite3_open) with
  | true => simp [sqlite3Close, alone, exec]
  | false =>
    dsimp only
    rw [Bool.not_false, if_pos rfl, Program.run_bind, execCreateTables, run_plain]
    cases created : faults (.plain .createTables) with
    | true => simp [sqlite3Close, alone, exec]
    | false =>
      dsimp only
      rw [Bool.not_false, if_pos rfl, Program.run_bind, run_queryEndpointId]
      simp [sqlite3Close, alone, exec]

end Statements

/-! ### Statements on good tables -/

section Good

variable {faults : Faults} {udn : CppString} {tables next : Tables} {id : EndpointId}

theorem readId_noFaults : readId noFaults udn tables =
    (tables.answer (.endpointId (cStr udn))).map UInt16.ofInt := by
  simp [readId, noFaults]

/-- An id read is the UDN's. -/
theorem maps_of_readId (good : tables.Good) (read : readId faults udn tables = some id) :
    tables.Maps (cStr udn) id := by
  unfold readId at read
  split at read
  · cases read
  · exact (good.answer_eq (cStr udn) id).mp read

/-- The stored counter is always a number. -/
theorem readNext_isSome (good : tables.Good) (faults : Faults) :
    (readNext faults tables).isSome = true := by
  unfold readNext
  split
  · rfl
  · cases stored : tables.answer (.metaValue nextEndpointIdKey) with
    | none => rfl
    | some value =>
      obtain ⟨next, rfl⟩ := good.counter value stored
      simp [stoi_ofNat]

/-- The writes of an assignment all succeed: neither the UDN nor the id is taken, and nothing else
fails. -/
structure Writes (faults : Faults) (udn : CppString) (tables : Tables) (id : EndpointId) :
    Prop where
  free : ∀ row ∈ tables.endpointMap, row.udn ≠ udn ∧ row.endpointId ≠ id.toNat
  inserts : ¬ (faults (.plain (.prepare .insertMapping)) ∨
    faults (.write (.insertMapping udn id.toNat)))
  upserts : ¬ (faults (.plain (.prepare .upsertNextEndpointId)) ∨
    faults (.write (.upsertMeta nextEndpointIdKey (Decimal.ofNat (id + 1).toNat))))

/-- A new row, and the counter past its id. -/
structure Stored (udn : CppString) (id : EndpointId) (tables next : Tables) : Prop where
  good : next.Good
  rows : next.endpointMap = tables.endpointMap ++ [{ udn := udn, endpointId := id.toNat }]
  counter : next.answer (.metaValue nextEndpointIdKey) = some (Decimal.ofNat (id + 1).toNat)

theorem Stored.grows (stored : Stored udn id tables next) : tables.Grows next := by
  rw [Tables.Grows, stored.rows]
  exact List.subset_append_left _ _

theorem Stored.maps (stored : Stored udn id tables next) : next.Maps udn id := by
  rw [Tables.Maps, stored.rows]
  exact List.mem_append_right _ (List.mem_singleton_self _)

/-- An assignment that succeeds stores the row. -/
theorem assigned_stored (good : tables.Good) (ok : assigned faults udn tables id = some next) :
    Writes faults (cStr udn) tables id ∧ Stored (cStr udn) id tables next := by
  obtain ⟨inserted, insert, upsert⟩ := Option.bind_eq_some_iff.mp ok
  unfold written at insert upsert
  split at insert
  · cases insert
  · rename_i inserts
    split at upsert
    · cases upsert
    · rename_i upserts
      rcases tables.apply_insert (cStr udn) id with ⟨-, taken⟩ | ⟨free, new⟩
      · cases taken.symm.trans insert
      · obtain rfl := Option.some.inj (new.symm.trans insert)
        obtain ⟨rows, counter⟩ := Tables.answer_upsert _ _ _ upsert
        exact ⟨⟨free, inserts, upserts⟩, (good.insert free).upsert (id + 1) upsert, rows, counter⟩

/-- If the writes succeed, so does the assignment. -/
theorem Writes.assigned (writes : Writes faults (cStr udn) tables id) :
    ∃ next, assigned faults udn tables id = some next := by
  rcases tables.apply_insert (cStr udn) id with ⟨⟨row, member, same⟩, -⟩ | ⟨-, new⟩
  · rcases same with same | same
    · exact absurd same (writes.free row member).1
    · exact absurd same (writes.free row member).2
  · unfold EndpointRegistry.assigned written
    rw [if_neg writes.inserts, new, Option.bind_some, if_neg writes.upserts]
    exact ⟨_, rfl⟩

end Good

/-! ### Calls one after the other -/

/-- A call with the database to itself: how it ends, and the committed rows it leaves. -/
def Request.call (faults : Faults) (request : Request) (tables : Tables) : Outcome × Tables :=
  let ended := Program.run (alone faults) request.code { committed := tables, own := none }
  (ended.1, ended.2.committed)

/-- The committed rows after calls one after the other, each with its faults. -/
def runCalls (calls : List (Request × Faults)) (tables : Tables) : Tables :=
  calls.foldl (fun tables call => (call.1.call call.2 tables).2) tables

/-- **A call that stores a new row**, if its `COMMIT` succeeds: the counter offers an id that is
free, the UDN has no row, and no statement that the row depends on fails. -/
structure Assigns (faults : Faults) (udn : CppString) (tables : Tables) (id : EndpointId) :
    Prop where
  starts : ¬ (faults (.plain .sqlite3_open) ∨ faults (.plain .createTables) ∨ faults .begin)
  offered : readNext faults tables = some id
  writes : Writes faults udn tables id

section Calls

variable {faults : Faults} {udn : Udn} {tables : Tables} {id : EndpointId}

/-- **What `GetOrAssign` comes to**: it gives up, finds the row, or assigns an id. -/
theorem call_getOrAssign (good : tables.Good) (faults : Faults) (udn : Udn) :
    ((Request.getOrAssign udn).call faults tables = (.returned none, tables) ∧
        ¬ ∃ id, Assigns faults udn tables id) ∨
      (∃ id, (Request.getOrAssign udn).call faults tables = (.returned (some id), tables) ∧
        tables.Maps udn id) ∨
      ∃ id next, (Request.getOrAssign udn).call faults tables =
          (.returned (some id), if faults .commit then tables else next) ∧
        Assigns faults udn tables id ∧ Stored udn id tables next := by
  have same : cStr udn = udn := cStr_of_nulFree udn.2
  unfold Request.call
  rw [Request.code, run_getOrAssign]
  by_cases starts : faults (.plain .sqlite3_open) ∨ faults (.plain .createTables) ∨ faults .begin
  · rw [if_pos starts]
    exact Or.inl ⟨rfl, fun ⟨_, assigns⟩ => assigns.starts starts⟩
  · rw [if_neg starts]
    cases read : readId faults udn tables with
    | some existing =>
      have maps := maps_of_readId good read
      rw [same] at maps
      exact Or.inr (Or.inl ⟨existing, rfl, maps⟩)
    | none =>
      obtain ⟨id, offered⟩ := Option.isSome_iff_exists.mp (readNext_isSome good faults)
      rw [offered]
      dsimp only
      cases ok : assigned faults udn tables id with
      | none =>
        refine Or.inl ⟨rfl, ?_⟩
        rintro ⟨other, assigns⟩
        obtain rfl := Option.some.inj (offered.symm.trans assigns.offered)
        obtain ⟨next, some⟩ := (same.symm ▸ assigns.writes : Writes _ (cStr udn) _ _).assigned
        cases ok.symm.trans some
      | some next =>
        obtain ⟨writes, stored⟩ := assigned_stored good ok
        rw [same] at writes stored
        exact Or.inr (Or.inr ⟨id, next, rfl, ⟨starts, offered, writes⟩, stored⟩)

/-- A call that has a new row to store reaches its `COMMIT`. -/
theorem call_of_assigns (good : tables.Good) (assigns : Assigns faults udn tables id) :
    ∃ next, (Request.getOrAssign udn).call faults tables =
        (.returned (some id), if faults .commit then tables else next) ∧
      Stored udn id tables next := by
  rcases call_getOrAssign good faults udn with ⟨-, never⟩ | ⟨other, -, maps⟩ |
    ⟨other, next, ended, assigns', stored⟩
  · exact absurd ⟨id, assigns⟩ never
  · exact absurd rfl (assigns.writes.free _ maps).1
  · obtain rfl := Option.some.inj (assigns'.offered.symm.trans assigns.offered)
    exact ⟨next, ended, stored⟩

theorem call_lookup (faults : Faults) (udn : Udn) (tables : Tables) :
    (Request.lookup udn).call faults tables =
      (.returned
        (if faults (.plain .sqlite3_open) ∨ faults (.plain .createTables) then none
          else readId faults udn tables), tables) := by
  unfold Request.call
  rw [Request.code, run_lookup]

/-- A call keeps the tables good and loses no row. -/
theorem call_good (good : tables.Good) (faults : Faults) (request : Request) :
    (request.call faults tables).2.Good ∧ tables.Grows (request.call faults tables).2 := by
  cases request with
  | lookup udn =>
    rw [call_lookup]
    exact ⟨good, List.Subset.refl _⟩
  | getOrAssign udn =>
    rcases call_getOrAssign good faults udn with ⟨ended, -⟩ | ⟨id, ended, -⟩ |
      ⟨id, next, ended, -, stored⟩
    · rw [ended]
      exact ⟨good, List.Subset.refl _⟩
    · rw [ended]
      exact ⟨good, List.Subset.refl _⟩
    · rw [ended]
      by_cases commit : faults .commit = true
      · rw [if_pos commit]
        exact ⟨good, List.Subset.refl _⟩
      · rw [if_neg commit]
        exact ⟨stored.good, stored.grows⟩

/-- **Calls keep the tables good and lose no row.** -/
theorem runCalls_good (calls : List (Request × Faults)) :
    ∀ {tables : Tables}, tables.Good →
      (runCalls calls tables).Good ∧ tables.Grows (runCalls calls tables) := by
  induction calls with
  | nil => exact fun good => ⟨good, List.Subset.refl _⟩
  | cons call calls ih =>
    intro tables good
    have first := call_good good call.2 call.1
    have rest := ih first.1
    exact ⟨rest.1, List.Subset.trans first.2 rest.2⟩

/-- An id in use is returned for its UDN only, whatever fails. -/
theorem call_other (good : tables.Good) (maps : tables.Maps udn id) (faults : Faults)
    (request : Request) (other : request.udn ≠ udn) :
    (request.call faults tables).1 ≠ .returned (some id) := by
  have unique : ¬ tables.Maps request.udn id :=
    fun maps' => other (Subtype.ext (good.udn_unique maps' maps))
  intro returned
  cases request with
  | lookup caller =>
    rw [call_lookup] at returned
    have found := Outcome.returned.inj returned
    split at found
    · cases found
    · have maps' := maps_of_readId good found
      rw [cStr_of_nulFree caller.2] at maps'
      exact unique maps'
  | getOrAssign caller =>
    rcases call_getOrAssign good faults caller with ⟨ended, -⟩ | ⟨found, ended, maps'⟩ |
      ⟨fresh, next, ended, assigns, -⟩
    · rw [ended] at returned
      cases returned
    · rw [ended] at returned
      obtain rfl := Option.some.inj (Outcome.returned.inj returned)
      exact unique maps'
    · rw [ended] at returned
      obtain rfl := Option.some.inj (Outcome.returned.inj returned)
      exact (assigns.writes.free _ maps).2 rfl

/-- A call that nothing goes wrong with returns the id of a UDN that has one. -/
theorem call_noFaults (good : tables.Good) (maps : tables.Maps udn id) (request : Request)
    (caller : request.udn = udn) : (request.call noFaults tables).1 = .returned (some id) := by
  have read : readId noFaults udn tables = some id := by
    rw [readId_noFaults, cStr_of_nulFree udn.2]
    exact (good.answer_eq udn id).mpr maps
  cases request with
  | lookup of =>
    obtain rfl : of = udn := caller
    rw [call_lookup, read]
    rfl
  | getOrAssign of =>
    obtain rfl : of = udn := caller
    unfold Request.call
    rw [Request.code, run_getOrAssign, if_neg (by simp [noFaults]), read]

end Calls

/-! ### All or nothing -/

/-- The committed tables map the UDN to the id, and it stays so: after any later calls, a call for
the UDN without faults returns the id, and none for another UDN ever does. -/
def Durable (udn : Udn) (id : EndpointId) (tables : Tables) : Prop :=
  tables.Maps udn id ∧ ∀ later : List (Request × Faults),
    (∀ request : Request, request.udn = udn →
      (request.call noFaults (runCalls later tables)).1 = .returned (some id)) ∧
    ∀ (request : Request) (faults : Faults), request.udn ≠ udn →
      (request.call faults (runCalls later tables)).1 ≠ .returned (some id)

/-- A call either returns an id and has stored it for good, or returns none and leaves both tables
as they were. -/
def AllOrNothing (faults : Faults) (udn : Udn) (before : Tables) : Prop :=
  match (Request.getOrAssign udn).call faults before with
  | (.returned (some id), after) => Durable udn id after
  | (.returned none, after) => after = before
  | (.threw, _) => False

theorem durable_of_maps {udn : Udn} {id : EndpointId} {tables : Tables} (good : tables.Good)
    (maps : tables.Maps udn id) : Durable udn id tables := by
  refine ⟨maps, fun later => ?_⟩
  obtain ⟨goodLater, grows⟩ := runCalls_good later good
  refine ⟨fun request caller => ?_, fun request faults other => ?_⟩
  · exact call_noFaults goodLater (grows maps) request caller
  · exact call_other goodLater (grows maps) faults request other

/-- A failed `COMMIT` loses the row of an id that is returned. -/
theorem not_allOrNothing {faults : Faults} {udn : Udn} {tables : Tables} {id : EndpointId}
    (good : tables.Good) (assigns : Assigns faults udn tables id) (commit : faults .commit = true) :
    ¬ AllOrNothing faults udn tables := by
  obtain ⟨next, ended, -⟩ := call_of_assigns good assigns
  unfold AllOrNothing
  rw [ended, if_pos commit]
  exact fun durable => (assigns.writes.free _ durable.1).1 rfl

/-- **All or nothing.** After any calls, with whatever faults, a call of `GetOrAssign` is
all-or-nothing exactly if it is not the `COMMIT` of a new row that fails. -/
theorem all_or_nothing_iff (calls : List (Request × Faults)) (faults : Faults) (udn : Udn) :
    let before := runCalls calls Tables.empty
    AllOrNothing faults udn before ↔
      ¬ ((∃ id, Assigns faults udn before id) ∧ faults .commit = true) := by
  intro before
  have good : before.Good := (runCalls_good calls Tables.good_empty).1
  constructor
  · rintro holds ⟨⟨id, assigns⟩, commit⟩
    exact not_allOrNothing good assigns commit holds
  · intro kept
    unfold AllOrNothing
    rcases call_getOrAssign good faults udn with ⟨ended, -⟩ | ⟨id, ended, maps⟩ |
      ⟨id, next, ended, assigns, stored⟩
    · rw [ended]
    · rw [ended]
      exact durable_of_maps good maps
    · have commits : ¬ faults .commit = true := fun failed => kept ⟨⟨id, assigns⟩, failed⟩
      rw [ended, if_neg commits]
      exact durable_of_maps stored.good stored.maps

/-- Only `COMMIT` fails. -/
def commitFails : Faults := fun op =>
  match op with
  | .commit => true
  | _ => false

/-- The first call of all returns endpoint 2; its `COMMIT` fails, and nothing is stored. -/
theorem commit_failure_unnoticed :
    (Request.getOrAssign ⟨literal "uuid:A", by decide⟩).call commitFails Tables.empty =
        (.returned (some 2), Tables.empty) ∧
      ¬ AllOrNothing commitFails ⟨literal "uuid:A", by decide⟩ Tables.empty := by
  have assigns : Assigns commitFails (literal "uuid:A") Tables.empty 2 :=
    ⟨by decide, by decide, ⟨fun _ member => (List.not_mem_nil member).elim, by decide, by decide⟩⟩
  exact ⟨by decide, not_allOrNothing Tables.good_empty assigns rfl⟩

end WemoBridge.EndpointRegistry
