/-
**The endpoint registry** (`endpoint_registry.cpp`).

The two tables are their rows, in the order of insertion; every call of SQLite is an operation of a
session of a transactional store, which may fail. `sqlite3_prepare_v2` and table creation touch no
row; the connection is dropped by `sqlite3_close`, with the transaction that may be open.

A statement that fails is taken to leave its transaction open. After `SQLITE_FULL`, `SQLITE_IOERR`,
`SQLITE_NOMEM` and `SQLITE_INTERRUPT` SQLite may roll the transaction back by itself; the statements
that follow would then commit one by one. Such a failure is not modelled.

`Tables.Good` is what every committed state satisfies: UDNs and ids are unique, ids are endpoint
ids, and the stored counter is the numeral of one, so that `std::stoi` does not throw.
-/

import WemoBridge.Basic
import WemoBridge.Library.Decimal
import WemoBridge.Library.ListSearch
import WemoBridge.Library.Transaction

namespace WemoBridge.EndpointRegistry

open Library
open Library.Transaction

/-! ### The tables -/

/-- A row of `endpoint_map`. -/
structure Mapping where
  udn : CppString
  endpointId : Int
  deriving DecidableEq, Repr

/-- The rows of `endpoint_map`, and of `bridge_meta` as pairs of key and value. -/
structure Tables where
  endpointMap : List Mapping
  bridgeMeta : List (CppString × CppString)
  deriving DecidableEq, Repr

/-- The prepared statements. -/
inductive Statement where
  | selectEndpointId
  | selectNextEndpointId
  | upsertNextEndpointId
  | insertMapping
  deriving DecidableEq, Repr

/-- The calls that touch no row. -/
inductive Call where
  | sqlite3_open
  | createTables
  | prepare (statement : Statement)
  deriving DecidableEq, Repr

/-- The two reads. -/
inductive Query where
  | endpointId (udn : CppString)
  | metaValue (key : CppString)
  deriving DecidableEq, Repr

/-- The column of the row found, if any. -/
abbrev Query.Column : Query → Type
  | .endpointId _ => Option Int
  | .metaValue _ => Option CppString

/-- The two writes. -/
inductive Update where
  | insertMapping (udn : CppString) (endpointId : Int)
  | upsertMeta (key value : CppString)
  deriving DecidableEq, Repr

namespace Tables

def empty : Tables := { endpointMap := [], bridgeMeta := [] }

/-- What a read finds. -/
def answer : (query : Query) → Tables → query.Column
  | .endpointId udn, tables =>
      (tables.endpointMap.find? (·.udn = udn)).map Mapping.endpointId
  | .metaValue key, tables => (tables.bridgeMeta.find? (·.1 = key)).map Prod.snd

/-- What a write does, under `PRIMARY KEY` and `UNIQUE`. -/
def apply : Update → Tables → Option Tables
  | .insertMapping udn endpointId, tables =>
      if tables.endpointMap.any fun row => row.udn = udn ∨ row.endpointId = endpointId then none
      else
        some { tables with
          endpointMap := tables.endpointMap ++ [{ udn := udn, endpointId := endpointId }] }
  | .upsertMeta key value, tables =>
      some { tables with
        bridgeMeta :=
          if tables.bridgeMeta.any (·.1 = key) then
            modifyFirst (·.1 = key) (fun _ => (key, value)) tables.bridgeMeta
          else tables.bridgeMeta ++ [(key, value)] }

end Tables

/-- The store of the registry. -/
abbrev schema : Schema where
  Rows := Tables
  Label := Call
  Query := Query
  Reply := Query.Column
  Update := Update
  answer := Tables.answer
  apply := Tables.apply

/-- Code that calls SQLite. -/
abbrev Sql := Code schema

/-! ### The functions of the source -/

/-- `kFirstDynamicEndpointId` -/
def kFirstDynamicEndpointId : EndpointId := 2

/-- The key `'next_endpoint_id'`. -/
def nextEndpointIdKey : CppString := literal "next_endpoint_id"

/-- `std::stoi`, if it does not throw. -/
def stoi (text : CppString) : Option Int :=
  (Decimal.readInteger text).bind fun read =>
    if -2147483648 ≤ read.1 ∧ read.1 ≤ 2147483647 then some read.1 else none

/-- One call of SQLite. -/
abbrev call (op : Op schema) : Sql op.Answer := perform op

def sqlite3Open : Sql Bool := call (.plain .sqlite3_open)

def sqlite3Close : Sql Unit := call .close

def sqlite3Prepare (statement : Statement) : Sql Bool :=
  call (.plain (.prepare statement))

/-- `sqlite3_step` of a select: the row found, `none` also if it fails. -/
def sqlite3StepSelect (query : Query) : Sql (Option query.Column) :=
  call (.read query)

/-- `sqlite3_step` of a write: whether it answers `SQLITE_DONE`. -/
def sqlite3StepWrite (update : Update) : Sql Bool := call (.write update)

/-- `ExecSql` of `kCreateTablesSql`. -/
def execCreateTables : Sql Bool := call (.plain .createTables)

/-- `ExecSql` of `BEGIN IMMEDIATE TRANSACTION`. -/
def execBegin : Sql Bool := call .begin

/-- `ExecSql` of `COMMIT`. -/
def execCommit : Sql Bool := call .commit

/-- `ExecSql` of `ROLLBACK`. -/
def execRollback : Sql Bool := call .rollback

/-- `first && second` -/
def both (first second : Sql Bool) : Sql Bool := do
  if ← first then second else return false

def queryEndpointId (udn : CppString) : Sql (Option EndpointId) := do
  if ← sqlite3Prepare .selectEndpointId then
    let row ← sqlite3StepSelect (.endpointId (cStr udn))
    return row.join.map UInt16.ofInt
  else return none

/-- `QueryNextEndpointId`; `none` if `std::stoi` throws. -/
def queryNextEndpointId : Sql (Option EndpointId) := do
  if ← sqlite3Prepare .selectNextEndpointId then
    match (← sqlite3StepSelect (.metaValue nextEndpointIdKey)).join with
    | some value => return (stoi value).map UInt16.ofInt
    | none => return some kFirstDynamicEndpointId
  else return some kFirstDynamicEndpointId

def upsertNextEndpointId (nextId : EndpointId) : Sql Bool := do
  if ← sqlite3Prepare .upsertNextEndpointId then
    sqlite3StepWrite (.upsertMeta nextEndpointIdKey (Decimal.ofNat nextId.toNat))
  else return false

def insertMapping (udn : CppString) (endpointId : EndpointId) : Sql Bool := do
  if ← sqlite3Prepare .insertMapping then
    sqlite3StepWrite (.insertMapping (cStr udn) endpointId.toNat)
  else return false

/-- How a call ends. -/
inductive Outcome where
  | returned (endpointId : Option EndpointId)
  /-- `std::stoi` threw, with the connection open -/
  | threw
  deriving DecidableEq, Repr

def lookup (udn : CppString) : Sql Outcome := do
  if ← sqlite3Open then
    if ← execCreateTables then
      let endpointId ← queryEndpointId udn
      sqlite3Close
      return .returned endpointId
    else
      sqlite3Close
      return .returned none
  else
    sqlite3Close
    return .returned none

def getOrAssign (udn : CppString) : Sql Outcome := do
  if ← sqlite3Open then
    if ← both execCreateTables execBegin then
      match ← queryEndpointId udn with
      | some existing =>
        let _ ← execCommit
        sqlite3Close
        return .returned (some existing)
      | none =>
        match ← queryNextEndpointId with
        | none => return .threw
        | some endpointId =>
          let nextId := endpointId + 1
          if ← both (insertMapping udn endpointId) (upsertNextEndpointId nextId) then
            let _ ← execCommit
            sqlite3Close
            return .returned (some endpointId)
          else
            let _ ← execRollback
            sqlite3Close
            return .returned none
    else
      sqlite3Close
      return .returned none
  else
    sqlite3Close
    return .returned none

/-- A UDN without NUL bytes. -/
abbrev Udn := { udn : CppString // NulFree udn }

/-- A call of the registry. -/
inductive Request where
  | lookup (udn : Udn)
  | getOrAssign (udn : Udn)

def Request.udn : Request → Udn
  | .lookup udn => udn
  | .getOrAssign udn => udn

def Request.code : Request → Sql Outcome
  | .lookup udn => EndpointRegistry.lookup udn
  | .getOrAssign udn => EndpointRegistry.getOrAssign udn

/-! ### Good tables -/

theorem stoi_ofNat (id : EndpointId) : stoi (Decimal.ofNat id.toNat) = some (id.toNat : Int) := by
  have below := UInt16.toNat_lt id
  rw [stoi, Decimal.readInteger_ofNat, Option.bind_some]
  exact if_pos ⟨by omega, by omega⟩

@[simp] theorem ofInt_toNat (id : EndpointId) : UInt16.ofInt id.toNat = id := by
  have below := UInt16.toNat_lt id
  refine UInt16.toNat_inj.mp ?_
  rw [UInt16.ofInt, UInt16.toNat_ofNat']
  omega

namespace Tables

/-- The row of a UDN with its endpoint id. -/
def Maps (tables : Tables) (udn : CppString) (id : EndpointId) : Prop :=
  { udn := udn, endpointId := id.toNat } ∈ tables.endpointMap

/-- **Well-formed tables.** -/
structure Good (tables : Tables) : Prop where
  udns : (tables.endpointMap.map Mapping.udn).Nodup
  ids : (tables.endpointMap.map Mapping.endpointId).Nodup
  endpoint : ∀ row ∈ tables.endpointMap, ∃ id : EndpointId, row.endpointId = id.toNat
  counter : ∀ value, tables.answer (.metaValue nextEndpointIdKey) = some value →
    ∃ next : EndpointId, value = Decimal.ofNat next.toNat

/-- No row is lost. -/
def Grows (before after : Tables) : Prop := before.endpointMap ⊆ after.endpointMap

variable {tables after : Tables} {udn other : CppString} {id : EndpointId}

theorem good_empty : empty.Good :=
  ⟨List.nodup_nil, List.nodup_nil, by simp [empty], by simp [empty, answer]⟩

/-- A UDN has one id. -/
theorem Good.id_unique (good : tables.Good) {id' : EndpointId} (maps : tables.Maps udn id)
    (maps' : tables.Maps udn id') : id = id' := by
  have same := List.inj_on_of_nodup_map good.udns maps maps' rfl
  exact UInt16.toNat_inj.mp (Int.ofNat.inj (congrArg Mapping.endpointId same))

/-- An id has one UDN. -/
theorem Good.udn_unique (good : tables.Good) (maps : tables.Maps udn id)
    (maps' : tables.Maps other id) : udn = other :=
  congrArg Mapping.udn (List.inj_on_of_nodup_map good.ids maps maps' rfl)

/-- Reading a UDN finds its row. -/
theorem Good.answer_eq (good : tables.Good) (udn : CppString) (id : EndpointId) :
    (tables.answer (.endpointId udn)).map UInt16.ofInt = some id ↔ tables.Maps udn id := by
  constructor
  · intro found
    obtain ⟨value, row, rfl⟩ := Option.map_eq_some_iff.mp found
    obtain ⟨mapping, first, rfl⟩ := Option.map_eq_some_iff.mp row
    obtain ⟨member, rfl⟩ := find?_key_eq_some first
    obtain ⟨id, value⟩ := good.endpoint mapping member
    rw [value, ofInt_toNat]
    rw [Maps, ← value]
    exact member
  · intro maps
    have first := find?_key_of_mem good.udns maps
    simp only [answer, first, Option.map_some, ofInt_toNat]

/-- An insert succeeds exactly if neither the UDN nor the id is taken. -/
theorem apply_insert (tables : Tables) (udn : CppString) (id : EndpointId) :
    (∃ row ∈ tables.endpointMap, row.udn = udn ∨ row.endpointId = id.toNat) ∧
        tables.apply (.insertMapping udn id.toNat) = none ∨
      (∀ row ∈ tables.endpointMap, row.udn ≠ udn ∧ row.endpointId ≠ id.toNat) ∧
        tables.apply (.insertMapping udn id.toNat) =
          some { tables with
            endpointMap := tables.endpointMap ++ [{ udn := udn, endpointId := id.toNat }] } := by
  by_cases taken : ∃ row ∈ tables.endpointMap, row.udn = udn ∨ row.endpointId = id.toNat
  · refine Or.inl ⟨taken, if_pos ?_⟩
    obtain ⟨row, member, same⟩ := taken
    exact List.any_eq_true.mpr ⟨row, member, decide_eq_true same⟩
  · have free : ∀ row ∈ tables.endpointMap, row.udn ≠ udn ∧ row.endpointId ≠ id.toNat :=
      fun row member => not_or.mp fun same => taken ⟨row, member, same⟩
    refine Or.inr ⟨free, if_neg fun found => ?_⟩
    obtain ⟨row, member, same⟩ := List.any_eq_true.mp found
    exact taken ⟨row, member, of_decide_eq_true same⟩

/-- A new row keeps the tables good. -/
theorem Good.insert (good : tables.Good)
    (free : ∀ row ∈ tables.endpointMap, row.udn ≠ udn ∧ row.endpointId ≠ id.toNat) :
    ({ tables with
      endpointMap := tables.endpointMap ++ [{ udn := udn, endpointId := id.toNat }] } :
        Tables).Good := by
  refine ⟨?_, ?_, ?_, good.counter⟩
  · rw [List.map_append]
    refine List.nodup_append.mpr ⟨good.udns, List.nodup_singleton _, ?_⟩
    rintro taken member _ last rfl
    obtain ⟨row, rowMember, rfl⟩ := List.mem_map.mp member
    exact (free row rowMember).1 (List.mem_singleton.mp last)
  · rw [List.map_append]
    refine List.nodup_append.mpr ⟨good.ids, List.nodup_singleton _, ?_⟩
    rintro taken member _ last rfl
    obtain ⟨row, rowMember, rfl⟩ := List.mem_map.mp member
    exact (free row rowMember).2 (List.mem_singleton.mp last)
  · intro row member
    rcases List.mem_append.mp member with old | last
    · exact good.endpoint row old
    · exact ⟨id, by rw [List.mem_singleton.mp last]⟩

/-- The counter written is the counter read. -/
theorem answer_upsert (tables : Tables) (key value : CppString)
    (upserted : tables.apply (.upsertMeta key value) = some after) :
    after.endpointMap = tables.endpointMap ∧ after.answer (.metaValue key) = some value := by
  obtain rfl := Option.some.inj upserted
  refine ⟨rfl, ?_⟩
  simp only [answer]
  split
  · rename_i present
    obtain ⟨row, member, here⟩ := List.any_eq_true.mp present
    have isSome : (tables.bridgeMeta.find? fun row => decide (row.1 = key)).isSome = true :=
      List.find?_isSome.mpr ⟨row, member, here⟩
    obtain ⟨first, found⟩ := Option.isSome_iff_exists.mp isSome
    rw [find?_modifyFirst_self found (by simp)]
    rfl
  · rename_i absent
    have missing : tables.bridgeMeta.find? (fun row => decide (row.1 = key)) = none := by
      refine List.find?_eq_none.mpr fun row member here => absent ?_
      exact List.any_eq_true.mpr ⟨row, member, here⟩
    rw [List.find?_append, missing]
    simp

theorem Good.upsert (good : tables.Good) (next : EndpointId)
    (upserted : tables.apply (.upsertMeta nextEndpointIdKey (Decimal.ofNat next.toNat)) =
      some after) : after.Good := by
  obtain ⟨sameMap, counter⟩ := answer_upsert tables _ _ upserted
  refine ⟨sameMap ▸ good.udns, sameMap ▸ good.ids, sameMap ▸ good.endpoint, fun value found => ?_⟩
  exact ⟨next, Option.some.inj (found.symm.trans counter)⟩

end Tables

end WemoBridge.EndpointRegistry
