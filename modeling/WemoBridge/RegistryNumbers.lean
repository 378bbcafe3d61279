/-
**The registry has no gaps.**

`Dense` tables number their rows: the `n`th row, in the order of the commits, has the id `2 + n`
modulo `2 ^ 16`, and the counter is the number of the next one. Calls run on one database in any
interleaving, every statement may fail, `COMMIT` among them, and a call may die anywhere. Still the
committed tables stay dense: a transaction that does not commit is discarded and uses up no id. Where
`QueryNextEndpointId` fails it answers 2, but that is the id of the first row, so that `UNIQUE`
refuses the insert; where `QueryEndpointId` fails a known UDN looks new, and `PRIMARY KEY` does. All
this is for failures that leave the transaction open: were it rolled back by SQLite, the insert and
the counter would be committed one without the other.

`registry_numbers` says this of every run, and that it is serializable: what is committed is what
calls for the committed UDNs leave, made one after the other and without a fault. No returned id runs
ahead of the committed rows: with fewer than 65533 of them no reserved id is ever returned.
-/

import WemoBridge.RegistryIds
import WemoBridge.RegistrySafety

namespace WemoBridge.EndpointRegistry

open Library
open Library.Transaction

/-! ### Dense tables -/

namespace Tables

/-- The rows are kept, and new ones come after them. -/
def Extends (before after : Tables) : Prop := before.endpointMap <+: after.endpointMap

/-- **The rows are numbered without gaps**, and the counter is the number of the next one. Calls for
the UDNs, one after the other and without faults, leave the same tables. -/
structure Dense (tables : Tables) : Prop where
  udns : (tables.endpointMap.map Mapping.udn).Nodup
  ids : ∀ n row, tables.endpointMap[n]? = some row →
    row.endpointId = ((numberedId n).toNat : Int)
  room : tables.endpointMap.length ≤ 65536
  counter : tables.answer (.metaValue nextEndpointIdKey) =
      some (Decimal.ofNat (numberedId tables.endpointMap.length).toNat) ∨
    tables.endpointMap = [] ∧ tables.answer (.metaValue nextEndpointIdKey) = none
  serial : ∃ firsts : List Udn, tables.endpointMap.map Mapping.udn = firsts.map Subtype.val ∧
    tables = assignAll firsts

/-- An id the tables have numbered, or are about to. -/
def HasNumbered (tables : Tables) (id : EndpointId) : Prop :=
  ∃ n ≤ tables.endpointMap.length, n < 65536 ∧ id = numberedId n

variable {tables next after : Tables} {udn : CppString} {id : EndpointId}

theorem dense_empty : empty.Dense :=
  ⟨List.nodup_nil, (fun n row here => by cases here), Nat.zero_le _, Or.inr ⟨rfl, rfl⟩, [], rfl, rfl⟩

theorem HasNumbered.extends (numbered : tables.HasNumbered id) (extends_ : tables.Extends after) :
    after.HasNumbered id := by
  obtain ⟨n, le, below, same⟩ := numbered
  exact ⟨n, le.trans extends_.length_le, below, same⟩

/-- The counter of dense tables is the numeral of an id. -/
theorem Dense.counter_numeral (dense : tables.Dense) (value : CppString)
    (stored : tables.answer (.metaValue nextEndpointIdKey) = some value) :
    ∃ next : EndpointId, value = Decimal.ofNat next.toNat := by
  rcases dense.counter with same | ⟨-, none_⟩
  · exact ⟨_, Option.some.inj (stored.symm.trans same)⟩
  · cases none_.symm.trans stored

/-- What `QueryNextEndpointId` offers of dense tables: the next number, or the first. -/
theorem Dense.offers (dense : tables.Dense) (offers : tables.Offers id) :
    id = numberedId tables.endpointMap.length ∨ id = numberedId 0 := by
  refine offers.imp (fun stored => ?_) fun same => same
  rcases dense.counter with same | ⟨-, none_⟩
  · have read := congrArg stoi (Option.some.inj (stored.symm.trans same))
    rw [stoi_ofNat, stoi_ofNat] at read
    exact UInt16.toNat_inj.mp (Int.ofNat.inj (Option.some.inj read))
  · cases none_.symm.trans stored

/-- An id read is that of a row. -/
theorem Dense.hasNumbered (dense : tables.Dense)
    (found : (tables.answer (.endpointId udn)).map UInt16.ofInt = some id) :
    tables.HasNumbered id := by
  obtain ⟨value, row, rfl⟩ := Option.map_eq_some_iff.mp found
  obtain ⟨mapping, first, rfl⟩ := Option.map_eq_some_iff.mp row
  obtain ⟨n, here⟩ := List.getElem?_of_mem (List.mem_of_find?_eq_some first)
  have below := (List.getElem?_eq_some_iff.mp here).1
  refine ⟨n, Nat.le_of_lt below, Nat.lt_of_lt_of_le below dense.room, ?_⟩
  rw [dense.ids n mapping here, ofInt_toNat]

/-- **An insert that goes through takes the next number**: the first one, which a failing read of the
counter offers, is taken as soon as there is a row. -/
theorem Dense.insert_takes_next (dense : tables.Dense) (offers : tables.Offers id)
    (free : ∀ row ∈ tables.endpointMap, row.udn ≠ udn ∧ row.endpointId ≠ id.toNat) :
    id = numberedId tables.endpointMap.length ∧ tables.endpointMap.length < 65536 := by
  have firstTaken : id = numberedId 0 → tables.endpointMap = [] := by
    rintro rfl
    cases rows : tables.endpointMap with
    | nil => rfl
    | cons row rest =>
      have here : tables.endpointMap[0]? = some row := by rw [rows]; rfl
      exact absurd (dense.ids 0 row here) (free row (List.mem_of_getElem? here)).2
  have takes : id = numberedId tables.endpointMap.length := by
    rcases dense.offers offers with same | same
    · exact same
    · rw [same, firstTaken same]
      rfl
  refine ⟨takes, lt_of_le_of_ne dense.room fun full => ?_⟩
  -- the counter is back at the id of the first row
  have back : numberedId 65536 = numberedId 0 := by decide
  rw [full, back] at takes
  rw [firstTaken takes] at full
  cases full

/-- Undisturbed, the counter offers the next number. -/
theorem Dense.readNext (dense : tables.Dense) :
    readNext noFaults tables = some (numberedId tables.endpointMap.length) := by
  unfold EndpointRegistry.readNext
  rw [if_neg (by simp [noFaults])]
  rcases dense.counter with stored | ⟨rows, stored⟩
  · rw [stored]
    show (stoi _).map UInt16.ofInt = _
    rw [stoi_ofNat, Option.map_some, ofInt_toNat]
  · rw [stored, rows]
    rfl

/-- Undisturbed, a call for a new UDN leaves the new row and the new counter. -/
theorem Dense.call_new (dense : tables.Dense) (udn : Udn)
    (inserted : tables.apply (.insertMapping udn.1 (numberedId tables.endpointMap.length).toNat) =
      some next)
    (upserted : next.apply (.upsertMeta nextEndpointIdKey
      (Decimal.ofNat (numberedId tables.endpointMap.length + 1).toNat)) = some after) :
    ((Request.getOrAssign udn).call noFaults tables).2 = after := by
  have same := cStr_of_nulFree udn.2
  have new : readId noFaults udn.1 tables = none := by
    rw [readId_noFaults, same, Option.map_eq_none_iff, answer, Option.map_eq_none_iff]
    refine List.find?_eq_none.mpr fun row member taken => ?_
    rcases tables.apply_insert udn.1 (numberedId tables.endpointMap.length) with
      ⟨-, refused⟩ | ⟨free, -⟩
    · cases refused.symm.trans inserted
    · exact (free row member).1 (of_decide_eq_true taken)
  have stores : assigned noFaults udn.1 tables (numberedId tables.endpointMap.length) =
      some after := by
    unfold assigned written
    rw [if_neg (by simp [noFaults]), same, inserted, Option.bind_some, if_neg (by simp [noFaults]),
      upserted]
  show (Program.run (alone noFaults) (getOrAssign udn.1) _).2.committed = after
  rw [run_getOrAssign, if_neg (by simp [noFaults]), new, dense.readNext]
  dsimp only
  rw [stores]
  rfl

/-- **The new row with its counter.** -/
theorem Dense.assign (dense : tables.Dense) (offers : tables.Offers id) {udn : Udn}
    (inserted : tables.apply (.insertMapping udn.1 id.toNat) = some next)
    (upserted : next.apply (.upsertMeta nextEndpointIdKey (Decimal.ofNat (id + 1).toNat)) =
      some after) : after.Dense ∧ tables.Extends after ∧ tables.HasNumbered id := by
  rcases tables.apply_insert udn.1 id with ⟨-, refused⟩ | ⟨free, accepted⟩
  · cases refused.symm.trans inserted
  · obtain ⟨rfl, below⟩ := dense.insert_takes_next offers free
    obtain ⟨firsts, udns, rfl⟩ := dense.serial
    have left := dense.call_new udn inserted upserted
    obtain rfl := Option.some.inj (accepted.symm.trans inserted)
    obtain ⟨rows, counter⟩ := answer_upsert _ _ _ upserted
    have count : after.endpointMap.length = (assignAll firsts).endpointMap.length + 1 := by
      rw [rows, List.length_append, List.length_singleton]
    refine ⟨⟨?_, fun n row here => ?_, count ▸ below, Or.inl ?_, firsts ++ [udn], ?_, ?_⟩, ?_,
      _, Nat.le_refl _, below, rfl⟩
    · rw [rows, List.map_append]
      refine List.nodup_append.mpr ⟨dense.udns, List.nodup_singleton _, ?_⟩
      rintro taken member _ last rfl
      obtain ⟨row, rowMember, rfl⟩ := List.mem_map.mp member
      exact (free row rowMember).1 (List.mem_singleton.mp last)
    · rw [rows] at here
      by_cases earlier : n < (assignAll firsts).endpointMap.length
      · rw [List.getElem?_append_left earlier] at here
        exact dense.ids n row here
      · have last : n = (assignAll firsts).endpointMap.length := by
          have bound := (List.getElem?_eq_some_iff.mp here).1
          rw [List.length_append, List.length_singleton] at bound
          omega
        rw [last, List.getElem?_concat_length] at here
        rw [← Option.some.inj here, last]
    · rw [counter, numberedId_succ, count]
    · rw [rows, List.map_append, List.map_append, udns]
      rfl
    · rw [assignAll_concat, left]
    · rw [Extends, rows]
      exact List.prefix_append _ _

end Tables

/-! ### Every run -/

/-- Every statement may fail. -/
def anyMayFail : Op schema → Bool := fun _ => true

/-- A returned id is one the tables have numbered; `std::stoi` does not throw. -/
def NumbersOnly (outcome : Outcome) (tables : Tables) : Prop :=
  outcome ≠ .threw ∧ ∀ id, outcome = .returned (some id) → tables.HasNumbered id

theorem numbersOnly_some {id : EndpointId} {tables : Tables} (numbered : tables.HasNumbered id) :
    NumbersOnly (.returned (some id)) tables := by
  refine ⟨(fun other => by cases other), fun other same => ?_⟩
  obtain rfl := Option.some.inj (Outcome.returned.inj same)
  exact numbered

/-- **The calls keep the tables dense**, and the ids they return are numbered. -/
theorem dense_kept : Kept anyMayFail Tables.Dense Tables.Extends fun _ => NumbersOnly where
  refl _ := List.prefix_refl _
  trans _ _ _ := List.IsPrefix.trans
  stable _ _ _ _ extends_ numbers :=
    ⟨numbers.1, fun id returned => (numbers.2 id returned).extends extends_⟩
  counter dense := dense.counter_numeral
  nothing _ _ := ⟨(fun other => by cases other), (fun _ other => by cases other)⟩
  reads _ _ _ dense found := numbersOnly_some (dense.hasNumbered found)
  assigns := by
    intro udn tables next after id dense offers inserted upserted
    obtain ⟨denseAfter, extends_, numbered⟩ := dense.assign offers inserted upserted
    exact ⟨denseAfter, extends_, numbersOnly_some (numbered.extends extends_),
      fun _ => numbersOnly_some numbered⟩

/-- The calls are safe to run together, whatever fails. -/
theorem dense_calls : Safe Request.code anyMayFail Tables.Dense Tables.Extends
    fun _ => NumbersOnly := dense_kept.safe

/-- The calls on one database, any statement of which may fail. -/
abbrev faultyRegistry : Machine (System schema Request Outcome) (SystemInput Request) Unit :=
  systemMachine Request.code anyMayFail

/-- A call has ended. -/
def Ended (system : System schema Request Outcome) (call : Nat) (outcome : Outcome) : Prop :=
  ∃ session, system.sessions[call]? = some session ∧ session.program = some (.pure outcome)

/-- Ids below the number 65533 are dynamic. -/
theorem Tables.HasNumbered.dynamic {tables : Tables} {id : EndpointId}
    (numbered : tables.HasNumbered id) (few : tables.endpointMap.length < 65533) : Dynamic id := by
  obtain ⟨n, le, -, rfl⟩ := numbered
  exact dynamic_numberedId (Nat.lt_of_le_of_lt le few)

/-- **The registry numbers its UDNs without gaps, as if its calls came one after the other.** In every
run of any number of calls on an initially empty database, with their statements interleaved in any
order, any of them failing, `COMMIT` included, and calls dying anywhere, where a failing statement
leaves its transaction open (SQLite does not roll it back by itself): the `n`th row committed has
the id `2 + n` modulo `2 ^ 16`, no UDN has two rows, the counter is the next number, and both tables
are those that undisturbed calls for the committed UDNs leave. Rows only come after the ones that are
there. No call throws; a returned id is the number of a committed row or the next one, so it is not
reserved as long as there are fewer than 65533 rows. -/
theorem registry_numbers (inputs later : List (SystemInput Request)) :
    let now := faultyRegistry.run emptyRegistry inputs
    now.committed.Dense ∧ now.committed.Extends (faultyRegistry.run now later).committed ∧
      ∀ call outcome, Ended now call outcome → outcome ≠ .threw ∧
        ∀ id, outcome = .returned (some id) → now.committed.HasNumbered id ∧
          (now.committed.endpointMap.length < 65533 → Dynamic id) := by
  intro now
  have good := (System.good_run dense_calls (System.good_initial Tables.dense_empty) inputs).1
  refine ⟨good.committed, (System.good_run dense_calls good later).2, ?_⟩
  rintro call outcome ⟨session, found, ended⟩
  obtain ⟨returns, numbered⟩ := good.returned dense_calls found ended
  exact ⟨returns, fun id same => ⟨numbered id same, (numbered id same).dynamic⟩⟩

end WemoBridge.EndpointRegistry
