/-
**The registry under concurrency and failure.**

Any number of calls of `GetOrAssign` and `Lookup` run on one database, their SQL statements
interleaved in any order; statements may fail, and a call may die with its process at any point. Each
function of the source has its rule under the store's rely-guarantee specification, for any invariant
of the tables; `Kept` is what an invariant has to satisfy for the calls to keep it, and `Kept.safe`
the rule for the calls together.

With every statement but `COMMIT` failing, `registry_safety` follows: no committed row is lost, one
UDN is given one id, and two UDNs are given two.
-/

import WemoBridge.EndpointRegistry

namespace WemoBridge.EndpointRegistry

open Library
open Library.Transaction

/-! ### The rules of the functions -/

/-- An id that `QueryNextEndpointId` may answer: the one stored, or the first one. -/
def Tables.Offers (tables : Tables) (id : EndpointId) : Prop :=
  tables.answer (.metaValue nextEndpointIdKey) = some (Decimal.ofNat id.toNat) ∨
    id = kFirstDynamicEndpointId

section Rules

variable {fails : Op schema → Bool} {inv : Tables → Prop} {grows : Tables → Tables → Prop}
  {committed rows : Tables}

theorem wp_both {spec : Spec (Op schema) Op.Answer (View schema)}
    {post : Bool → View schema → Prop} {first second : Sql Bool} {view : View schema}
    (holds : Program.wp spec (fun ok after =>
      if ok then Program.wp spec post second after else post false after) first view) :
    Program.wp spec post (both first second) view := by
  refine (Program.wp_bind _ _ _).mpr (Program.wp_mono ?_ _ _ holds)
  intro ok after met
  cases ok <;> exact met

/-- Reading an id finds the row of the tables read, or nothing. -/
theorem wp_queryEndpointId_waiting {udn : CppString}
    (trans : ∀ first second third, grows first second → grows second third → grows first third)
    {post : Option EndpointId → View schema → Prop}
    (meets : ∀ found (seen : Tables), Later inv grows committed seen →
      (∀ id, found = some id →
        (seen.answer (.endpointId (cStr udn))).map UInt16.ofInt = some id) →
      post found { committed := seen, own := none }) :
    Program.wp (shared inv grows fails) post (queryEndpointId udn)
      { committed := committed, own := none } := by
  refine (Program.wp_bind _ _ _).mpr (wp_plain_waiting fun ok prepared later => ?_)
  cases ok with
  | false => exact meets none prepared later (by simp)
  | true =>
    refine (Program.wp_bind _ _ _).mpr (wp_read_waiting fun seen later' => ⟨?_, ?_⟩)
    · exact meets none seen ⟨later'.1, trans _ _ _ later.2 later'.2⟩ (by simp)
    · exact meets _ seen ⟨later'.1, trans _ _ _ later.2 later'.2⟩ fun _ found => found

theorem wp_queryEndpointId {udn : CppString} {post : Option EndpointId → View schema → Prop}
    (meets : ∀ found, (∀ id, found = some id →
        (rows.answer (.endpointId (cStr udn))).map UInt16.ofInt = some id) →
      post found { committed := committed, own := some rows }) :
    Program.wp (shared inv grows fails) post (queryEndpointId udn)
      { committed := committed, own := some rows } := by
  refine (Program.wp_bind _ _ _).mpr (wp_plain_holding fun ok => ?_)
  cases ok with
  | false => exact meets none (by simp)
  | true =>
    refine (Program.wp_bind _ _ _).mpr (wp_read_holding ?_ ?_)
    · exact meets none (by simp)
    · exact meets _ fun _ found => found

/-- A counter that is the numeral of an id never makes `std::stoi` throw. -/
theorem wp_queryNextEndpointId
    (counter : ∀ value, rows.answer (.metaValue nextEndpointIdKey) = some value →
      ∃ next : EndpointId, value = Decimal.ofNat next.toNat)
    {post : Option EndpointId → View schema → Prop}
    (meets : ∀ id, rows.Offers id → post (some id) { committed := committed, own := some rows }) :
    Program.wp (shared inv grows fails) post queryNextEndpointId
      { committed := committed, own := some rows } := by
  have first := meets kFirstDynamicEndpointId (Or.inr rfl)
  refine (Program.wp_bind _ _ _).mpr (wp_plain_holding fun ok => ?_)
  cases ok with
  | false => exact first
  | true =>
    refine (Program.wp_bind _ _ _).mpr (wp_read_holding first ?_)
    show Program.wp (shared inv grows fails) post _ _
    dsimp only [schema, Option.join]
    cases stored : rows.answer (.metaValue nextEndpointIdKey) with
    | none => simpa [stored] using first
    | some value =>
      obtain ⟨next, rfl⟩ := counter value stored
      simpa [stored, stoi_ofNat] using meets next (Or.inl stored)

theorem wp_insertMapping {udn : CppString} {id : EndpointId} {post : Bool → View schema → Prop}
    (failed : post false { committed := committed, own := some rows })
    (inserted : ∀ next, rows.apply (.insertMapping (cStr udn) id.toNat) = some next →
      post true { committed := committed, own := some next }) :
    Program.wp (shared inv grows fails) post (insertMapping udn id)
      { committed := committed, own := some rows } := by
  refine (Program.wp_bind _ _ _).mpr (wp_plain_holding fun ok => ?_)
  cases ok with
  | false => exact failed
  | true => exact wp_write_holding failed inserted

theorem wp_upsertNextEndpointId {nextId : EndpointId} {post : Bool → View schema → Prop}
    (failed : post false { committed := committed, own := some rows })
    (upserted : ∀ next,
      rows.apply (.upsertMeta nextEndpointIdKey (Decimal.ofNat nextId.toNat)) = some next →
        post true { committed := committed, own := some next }) :
    Program.wp (shared inv grows fails) post (upsertNextEndpointId nextId)
      { committed := committed, own := some rows } := by
  refine (Program.wp_bind _ _ _).mpr (wp_plain_holding fun ok => ?_)
  cases ok with
  | false => exact failed
  | true => exact wp_write_holding failed upserted

end Rules

/-! ### What the calls keep -/

/-- **What an invariant of the tables has to satisfy for the calls to keep it**, with what their
outcomes say about the tables: the stored counter is the numeral of an id, a row that is read gives
the answer, and an assigned row keeps the invariant. A commit that may fail answers all the same. -/
structure Kept (fails : Op schema → Bool) (inv : Tables → Prop) (grows : Tables → Tables → Prop)
    (answers : Request → Outcome → Tables → Prop) : Prop where
  refl : ∀ tables, grows tables tables
  trans : ∀ first second third, grows first second → grows second third → grows first third
  stable : ∀ request outcome first second, grows first second → answers request outcome first →
    answers request outcome second
  counter : ∀ {tables}, inv tables → ∀ value,
    tables.answer (.metaValue nextEndpointIdKey) = some value →
      ∃ next : EndpointId, value = Decimal.ofNat next.toNat
  nothing : ∀ request tables, answers request (.returned none) tables
  reads : ∀ (request : Request) {tables id}, inv tables →
    (tables.answer (.endpointId request.udn.1)).map UInt16.ofInt = some id →
      answers request (.returned (some id)) tables
  assigns : ∀ {udn : Udn} {tables next after id}, inv tables → tables.Offers id →
    tables.apply (.insertMapping udn.1 id.toNat) = some next →
      next.apply (.upsertMeta nextEndpointIdKey (Decimal.ofNat (id + 1).toNat)) = some after →
        inv after ∧ grows tables after ∧ answers (.getOrAssign udn) (.returned (some id)) after ∧
          (fails .commit = true → answers (.getOrAssign udn) (.returned (some id)) tables)

namespace Kept

variable {fails : Op schema → Bool} {inv : Tables → Prop} {grows : Tables → Tables → Prop}
  {answers : Request → Outcome → Tables → Prop} {committed rows : Tables} {request : Request}
  {outcome : Outcome}

/-- Closing a session that holds no lock returns a result that stays true. -/
theorem close_waiting (kept : Kept fails inv grows answers)
    (holds : answers request outcome committed) :
    Program.wp (shared inv grows fails) (final (answers request))
      (sqlite3Close >>= fun _ => pure outcome) { committed := committed, own := none } := by
  refine (Program.wp_bind _ _ _).mpr (wp_close_waiting fun seen later => ?_)
  exact ⟨rfl, kept.stable _ _ _ _ later.2 holds⟩

/-- Closing a session that holds the lock drops its copy. -/
theorem close_holding (holds : answers request outcome committed) :
    Program.wp (shared inv grows fails) (final (answers request))
      (sqlite3Close >>= fun _ => pure outcome) { committed := committed, own := some rows } :=
  (Program.wp_bind _ _ _).mpr (wp_close_holding ⟨rfl, holds⟩)

/-- **`Lookup` keeps the invariant.** -/
theorem lookup (kept : Kept fails inv grows answers) (udn : Udn) :
    Program.wp (shared inv grows fails) (final (answers (.lookup udn)))
      (EndpointRegistry.lookup udn) { committed := committed, own := none } := by
  refine (Program.wp_bind _ _ _).mpr (wp_plain_waiting fun opened seen _ => ?_)
  cases opened with
  | false => exact kept.close_waiting (kept.nothing _ _)
  | true =>
    refine (Program.wp_bind _ _ _).mpr (wp_plain_waiting fun created seen _ => ?_)
    cases created with
    | false => exact kept.close_waiting (kept.nothing _ _)
    | true =>
      refine (Program.wp_bind _ _ _).mpr
        (wp_queryEndpointId_waiting kept.trans fun found seen later reads => ?_)
      rw [cStr_of_nulFree udn.2] at reads
      cases found with
      | none => exact kept.close_waiting (kept.nothing _ _)
      | some id => exact kept.close_waiting (kept.reads (.lookup udn) later.1 (reads id rfl))

/-- A transaction that assigns: it inserts and commits, or gives up; a commit that fails leaves the
copy to `sqlite3_close`. -/
theorem assign (kept : Kept fails inv grows answers) (udn : Udn) {id : EndpointId}
    (holds : inv rows) (offers : rows.Offers id) (same : rows = committed) :
    Program.wp (shared inv grows fails) (final (answers (.getOrAssign udn)))
      (do
        if ← both (insertMapping udn id) (upsertNextEndpointId (id + 1)) then
          let _ ← execCommit
          sqlite3Close
          return .returned (some id)
        else
          let _ ← execRollback
          sqlite3Close
          return .returned none)
      { committed := committed, own := some rows } := by
  have givesUp : ∀ copy : Tables,
      Program.wp (shared inv grows fails) (final (answers (.getOrAssign udn)))
        (do
          let _ ← execRollback
          sqlite3Close
          return .returned none)
        { committed := committed, own := some copy } := by
    intro copy
    refine (Program.wp_bind _ _ _).mpr (wp_rollback_holding ?_ ?_)
    · exact close_holding (kept.nothing _ _)
    · exact kept.close_waiting (kept.nothing _ _)
  refine (Program.wp_bind _ _ _).mpr
    (wp_both (wp_insertMapping (givesUp rows) fun next inserted => ?_))
  refine wp_upsertNextEndpointId (givesUp next) fun after upserted => ?_
  rw [cStr_of_nulFree udn.2] at inserted
  obtain ⟨holdsAfter, extends_, answered, unsure⟩ := kept.assigns holds offers inserted upserted
  rw [same] at extends_ unsure
  refine (Program.wp_bind _ _ _).mpr
    (wp_commit_holding holdsAfter extends_ (fun failing => ?_) ?_)
  · exact close_holding (unsure failing)
  · exact kept.close_waiting answered

/-- **`GetOrAssign` keeps the invariant.** -/
theorem getOrAssign (kept : Kept fails inv grows answers) (udn : Udn) :
    Program.wp (shared inv grows fails) (final (answers (.getOrAssign udn)))
      (EndpointRegistry.getOrAssign udn) { committed := committed, own := none } := by
  refine (Program.wp_bind _ _ _).mpr (wp_plain_waiting fun opened seen _ => ?_)
  cases opened with
  | false => exact kept.close_waiting (kept.nothing _ _)
  | true =>
    refine (Program.wp_bind _ _ _).mpr (wp_both (wp_plain_waiting fun created seen _ => ?_))
    cases created with
    | false => exact kept.close_waiting (kept.nothing _ _)
    | true =>
      refine wp_begin_waiting fun seen later => ⟨kept.close_waiting (kept.nothing _ _), ?_⟩
      refine (Program.wp_bind _ _ _).mpr (wp_queryEndpointId fun found reads => ?_)
      rw [cStr_of_nulFree udn.2] at reads
      cases found with
      | some existing =>
        -- the commit of an unchanged copy
        have known := kept.reads (.getOrAssign udn) later.1 (reads existing rfl)
        refine (Program.wp_bind _ _ _).mpr
          (wp_commit_holding later.1 (kept.refl _) (fun _ => ?_) ?_)
        · exact close_holding known
        · exact kept.close_waiting known
      | none =>
        refine (Program.wp_bind _ _ _).mpr
          (wp_queryNextEndpointId (kept.counter later.1) fun id offers => ?_)
        exact kept.assign udn later.1 offers rfl

/-- **The calls are safe to run together.** -/
theorem safe (kept : Kept fails inv grows answers) : Safe Request.code fails inv grows answers where
  refl := kept.refl
  trans := kept.trans
  stable := kept.stable
  safe request _ _ := by
    cases request with
    | lookup udn => exact kept.lookup udn
    | getOrAssign udn => exact kept.getOrAssign udn

end Kept

/-! ### Safety -/

/-- Every statement but `COMMIT` may fail. -/
def mayFail : Op schema → Bool
  | .commit => false
  | _ => true

/-- What a returned id says about the committed rows. -/
def Answers (request : Request) (outcome : Outcome) (tables : Tables) : Prop :=
  ∀ id, outcome = .returned (some id) → tables.Maps request.udn id

/-- **The calls keep the tables good**, and the ids they return are those of the rows. -/
theorem good_kept : Kept mayFail Tables.Good Tables.Grows Answers where
  refl _ := List.Subset.refl _
  trans _ _ _ := List.Subset.trans
  stable _ _ _ _ grows answers id returned := grows (answers id returned)
  counter good := good.counter
  nothing _ _ := fun _ returned => by cases returned
  reads := by
    intro request tables id good found other returned
    obtain rfl := Option.some.inj (Outcome.returned.inj returned)
    exact (good.answer_eq _ _).mp found
  assigns := by
    intro udn tables next after id good _ inserted upserted
    rcases tables.apply_insert udn.1 id with ⟨-, refused⟩ | ⟨free, accepted⟩
    · cases refused.symm.trans inserted
    · obtain rfl := Option.some.inj (accepted.symm.trans inserted)
      have sameMap := (Tables.answer_upsert _ _ _ upserted).1
      refine ⟨(good.insert free).upsert _ upserted, ?_, ?_, (fun failing => by cases failing)⟩
      · rw [Tables.Grows, sameMap]
        exact List.subset_append_left _ _
      · intro other returned
        obtain rfl := Option.some.inj (Outcome.returned.inj returned)
        rw [Tables.Maps, sameMap]
        exact List.mem_append_right _ (List.mem_singleton_self _)

/-- The calls are safe to run together, if no `COMMIT` fails. -/
theorem safe_calls : Safe Request.code mayFail Tables.Good Tables.Grows Answers := good_kept.safe

/-- The calls running on one database. -/
abbrev registry : Machine (System schema Request Outcome) (SystemInput Request) Unit :=
  systemMachine Request.code mayFail

/-- The database before its first call. -/
abbrev emptyRegistry : System schema Request Outcome := System.initial Tables.empty

/-- The call with a number has returned an id. -/
def Returned (system : System schema Request Outcome) (call : Nat) (udn : Udn)
    (id : EndpointId) : Prop :=
  ∃ session, system.sessions[call]? = some session ∧ session.request.udn = udn ∧
    session.program = some (.pure (.returned (some id)))

/-- **Registry safety.** In every run of any number of calls on an initially empty database, with
their statements interleaved in any order, any statement but `COMMIT` failing and calls dying
anywhere: a committed row is never changed or removed, calls that return ids for one UDN return the
same id, and calls that return ids for different UDNs return different ids. -/
theorem registry_safety (inputs later : List (SystemInput Request)) :
    let now := registry.run emptyRegistry inputs
    now.committed.endpointMap ⊆ (registry.run now later).committed.endpointMap ∧
      ∀ call call' udn udn' id id', Returned now call udn id → Returned now call' udn' id' →
        (udn = udn' ↔ id = id') := by
  intro now
  have good := (System.good_run safe_calls (System.good_initial Tables.good_empty) inputs).1
  refine ⟨(System.good_run safe_calls good later).2, ?_⟩
  rintro call call' udn udn' id id' ⟨session, found, rfl, returned⟩
    ⟨session', found', rfl, returned'⟩
  have maps := good.returned safe_calls found returned id rfl
  have maps' := good.returned safe_calls found' returned' id' rfl
  constructor
  · intro same
    rw [← same] at maps'
    exact good.committed.id_unique maps maps'
  · rintro rfl
    exact Subtype.ext (good.committed.udn_unique maps maps')

end WemoBridge.EndpointRegistry
