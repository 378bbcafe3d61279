/-
**The ids that the registry hands out.**

Calls of `GetOrAssign` one after the other, on an initially empty database and without faults, number
the distinct UDNs in the order of their first call (`assignAll_numbered`): the `n`th gets the id
`2 + n`, modulo `2 ^ 16`. The first 65533 get the ids up to `0xFFFE`; the next ones get `0xFFFF`, 0
and 1, and only then does the constraint `UNIQUE` refuse a new UDN. `never_reserved_iff`: no reserved
id is handed out exactly if there are at most 65533 distinct UDNs.
-/

import WemoBridge.RegistryCalls
import WemoBridge.Library.Distinct

namespace WemoBridge.EndpointRegistry

open Library
open Library.Transaction

/-! ### Numbering -/

/-- The tables after calls of `GetOrAssign` for the UDNs, one after the other and without faults. -/
def assignAll (udns : List Udn) : Tables :=
  runCalls (udns.map fun udn => (.getOrAssign udn, noFaults)) Tables.empty

theorem assignAll_concat (udns : List Udn) (udn : Udn) : assignAll (udns ++ [udn]) =
    ((Request.getOrAssign udn).call noFaults (assignAll udns)).2 := by
  unfold assignAll runCalls
  rw [List.map_append, List.foldl_append]
  rfl

/-- The id of the `n`th UDN: the counter of 16 bits starts at `kFirstDynamicEndpointId`. -/
def numberedId (n : Nat) : EndpointId := UInt16.ofNat (2 + n)

theorem toNat_numberedId (n : Nat) : (numberedId n).toNat = (2 + n) % 65536 := UInt16.toNat_ofNat'

theorem numberedId_succ (n : Nat) : numberedId n + 1 = numberedId (n + 1) := by
  refine UInt16.toNat_inj.mp ?_
  rw [UInt16.toNat_add, toNat_numberedId, toNat_numberedId]
  show ((2 + n) % 65536 + 1) % 65536 = (2 + (n + 1)) % 65536
  omega

/-- The ids differ until the counter has been all the way round. -/
theorem numberedId_inj {n m : Nat} (below : n < 65536) (below' : m < 65536)
    (same : (numberedId n).toNat = (numberedId m).toNat) : n = m := by
  rw [toNat_numberedId, toNat_numberedId] at same
  omega

/-- The counter stored is the next one offered. -/
theorem Stored.readNext {udn : CppString} {id : EndpointId} {tables next : Tables}
    (stored : Stored udn id tables next) : readNext noFaults next = some (id + 1) := by
  unfold EndpointRegistry.readNext
  rw [if_neg (by simp [noFaults]), stored.counter]
  show (stoi (Decimal.ofNat (id + 1).toNat)).map UInt16.ofInt = some (id + 1)
  rw [stoi_ofNat, Option.map_some, ofInt_toNat]

/-- The tables number the UDNs, as far as there are ids, and count them. -/
structure Numbered (firsts : List Udn) (tables : Tables) : Prop where
  good : tables.Good
  rows : ∀ row, row ∈ tables.endpointMap ↔ ∃ (n : Nat) (udn : Udn), n < 65536 ∧
    firsts[n]? = some udn ∧ row = { udn := udn, endpointId := (numberedId n).toNat }
  counter : readNext noFaults tables = some (numberedId (min firsts.length 65536))

section Numbered

variable {firsts : List Udn} {tables : Tables} {udn : Udn} {n : Nat}

theorem numbered_empty : Numbered [] Tables.empty :=
  ⟨Tables.good_empty, by simp [Tables.empty], by decide⟩

theorem Numbered.maps (numbered : Numbered firsts tables) (below : n < 65536)
    (here : firsts[n]? = some udn) : tables.Maps udn (numberedId n) :=
  (numbered.rows _).mpr ⟨n, udn, below, here, rfl⟩

/-- A UDN with a row gets its id. -/
theorem Numbered.call_known (numbered : Numbered firsts tables) (below : n < 65536)
    (here : firsts[n]? = some udn) : (Request.getOrAssign udn).call noFaults tables =
      (.returned (some (numberedId n)), tables) := by
  have maps := numbered.maps below here
  refine Prod.ext (call_noFaults numbered.good maps (.getOrAssign udn) rfl) ?_
  rcases call_getOrAssign numbered.good noFaults udn with ⟨ended, -⟩ | ⟨id, ended, -⟩ |
    ⟨id, next, -, assigns, -⟩
  · rw [ended]
  · rw [ended]
  · exact absurd rfl (assigns.writes.free _ maps).1

/-- A new UDN gets the next id. -/
theorem Numbered.call_fresh (numbered : Numbered firsts tables) (room : firsts.length < 65536)
    (new : udn ∉ firsts) : ∃ next, (Request.getOrAssign udn).call noFaults tables =
      (.returned (some (numberedId firsts.length)), next) ∧ Numbered (firsts ++ [udn]) next := by
  have free : ∀ row ∈ tables.endpointMap,
      row.udn ≠ udn ∧ row.endpointId ≠ (numberedId firsts.length).toNat := by
    intro row member
    obtain ⟨n, other, below, here, rfl⟩ := (numbered.rows row).mp member
    refine ⟨fun same => new (Subtype.ext same ▸ List.mem_of_getElem? here), fun same => ?_⟩
    have last := numberedId_inj below room (Int.ofNat.inj same)
    rw [last, List.getElem?_eq_none (Nat.le_refl _)] at here
    cases here
  have offered : readNext noFaults tables = some (numberedId firsts.length) := by
    rw [numbered.counter, Nat.min_eq_left (Nat.le_of_lt room)]
  have assigns : Assigns noFaults udn tables (numberedId firsts.length) :=
    ⟨by simp [noFaults], offered, ⟨free, by simp [noFaults], by simp [noFaults]⟩⟩
  obtain ⟨next, ended, stored⟩ := call_of_assigns numbered.good assigns
  refine ⟨next, ended, stored.good, fun row => ?_, ?_⟩
  · rw [stored.rows, List.mem_append, numbered.rows, List.mem_singleton]
    constructor
    · rintro (⟨n, other, below, here, rfl⟩ | rfl)
      · exact ⟨n, other, below, (List.getElem?_append_left (List.getElem?_eq_some_iff.mp here).1).trans
          here, rfl⟩
      · exact ⟨firsts.length, udn, room, by simp, rfl⟩
    · rintro ⟨n, other, below, here, rfl⟩
      by_cases earlier : n < firsts.length
      · rw [List.getElem?_append_left earlier] at here
        exact Or.inl ⟨n, other, below, here, rfl⟩
      · rw [List.getElem?_append_right (Nat.le_of_not_lt earlier)] at here
        obtain ⟨last, rfl⟩ : n - firsts.length = 0 ∧ udn = other := by
          cases gap : n - firsts.length with
          | zero => simpa [gap] using here
          | succ k => simp [gap] at here
        obtain rfl : n = firsts.length := by omega
        exact Or.inr rfl
  · have count : min (firsts ++ [udn]).length 65536 = firsts.length + 1 := by simp; omega
    rw [count, ← numberedId_succ]
    exact stored.readNext

/-- Once all ids are used a UDN without a row is refused. -/
theorem Numbered.call_full (numbered : Numbered firsts tables) (full : 65536 ≤ firsts.length)
    (unmapped : ∀ id, ¬ tables.Maps udn id) :
    (Request.getOrAssign udn).call noFaults tables = (.returned none, tables) := by
  rcases call_getOrAssign numbered.good noFaults udn with ⟨ended, -⟩ | ⟨id, -, maps⟩ |
    ⟨id, next, -, assigns, -⟩
  · exact ended
  · exact absurd maps (unmapped id)
  · -- the counter is back at the id of the first row
    have offered := assigns.offered
    rw [numbered.counter, Nat.min_eq_right full] at offered
    obtain ⟨first, here⟩ : ∃ first, firsts[0]? = some first :=
      ⟨_, List.getElem?_eq_getElem (Nat.lt_of_lt_of_le (by decide) full)⟩
    have taken := (assigns.writes.free _ (numbered.maps (by decide) here)).2
    have back : numberedId 65536 = numberedId 0 := by decide
    rw [← Option.some.inj offered, back] at taken
    exact absurd rfl taken

/-- **One more call.** -/
theorem Numbered.call (numbered : Numbered firsts tables) (distinct : firsts.Nodup) (udn : Udn) :
    let ended := (Request.getOrAssign udn).call noFaults tables
    let firsts' := if udn ∈ firsts then firsts else firsts ++ [udn]
    Numbered firsts' ended.2 ∧ ∃ n, firsts'[n]? = some udn ∧
      ended.1 = .returned (if n < 65536 then some (numberedId n) else none) := by
  dsimp only
  by_cases known : udn ∈ firsts
  · rw [if_pos known]
    obtain ⟨n, here⟩ := List.getElem?_of_mem known
    by_cases below : n < 65536
    · rw [numbered.call_known below here]
      exact ⟨numbered, n, here, by rw [if_pos below]⟩
    · have full : 65536 ≤ firsts.length :=
        Nat.le_trans (Nat.le_of_not_lt below)
          (Nat.le_of_lt (List.getElem?_eq_some_iff.mp here).1)
      have unmapped : ∀ id, ¬ tables.Maps udn id := by
        intro id maps
        obtain ⟨m, other, below', here', same⟩ := (numbered.rows _).mp maps
        obtain rfl : udn = other := Subtype.ext (congrArg Mapping.udn same)
        have short := (List.getElem?_eq_some_iff.mp here').1
        obtain rfl := (List.getElem?_inj short distinct).mp (here'.trans here.symm)
        exact below below'
      rw [numbered.call_full full unmapped]
      exact ⟨numbered, n, here, by rw [if_neg below]⟩
  · rw [if_neg known]
    have last : (firsts ++ [udn])[firsts.length]? = some udn := by simp
    by_cases room : firsts.length < 65536
    · obtain ⟨next, ended, numbered'⟩ := numbered.call_fresh room known
      rw [ended]
      exact ⟨numbered', firsts.length, last, by rw [if_pos room]⟩
    · have full := Nat.le_of_not_lt room
      have unmapped : ∀ id, ¬ tables.Maps udn id := by
        intro id maps
        obtain ⟨m, other, -, here, same⟩ := (numbered.rows _).mp maps
        obtain rfl : udn = other := Subtype.ext (congrArg Mapping.udn same)
        exact known (List.mem_of_getElem? here)
      rw [numbered.call_full full unmapped]
      refine ⟨⟨numbered.good, fun row => ?_, ?_⟩, firsts.length, last, by rw [if_neg room]⟩
      · rw [numbered.rows]
        refine exists_congr fun m => exists_congr fun other => and_congr_right fun below => ?_
        rw [List.getElem?_append_left (Nat.lt_of_lt_of_le below full)]
      · rw [numbered.counter, Nat.min_eq_right full, Nat.min_eq_right]
        rw [List.length_append]
        exact Nat.le_add_right_of_le full

/-- **The registry numbers the UDNs** in the order of their first call. -/
theorem assignAll_numbered (udns : List Udn) : Numbered udns.eraseDups (assignAll udns) := by
  induction udns using List.reverseRecOn with
  | nil => exact numbered_empty
  | append_singleton earlier udn ih =>
    have next := (ih.call (nodup_eraseDups earlier) udn).1
    rw [assignAll_concat]
    by_cases known : udn ∈ earlier
    · rw [if_pos (List.mem_eraseDups.mpr known)] at next
      rw [eraseDups_concat_of_mem known]
      exact next
    · rw [if_neg (mt List.mem_eraseDups.mp known)] at next
      rw [eraseDups_concat_of_notMem known]
      exact next

/-- **The id of a call** is that of the UDN's number, if there are so many ids. -/
theorem call_assignAll (earlier : List Udn) (udn : Udn) :
    ∃ n, (earlier ++ [udn]).eraseDups[n]? = some udn ∧
      ((Request.getOrAssign udn).call noFaults (assignAll earlier)).1 =
        .returned (if n < 65536 then some (numberedId n) else none) := by
  have next := ((assignAll_numbered earlier).call (nodup_eraseDups earlier) udn).2
  by_cases known : udn ∈ earlier
  · rw [if_pos (List.mem_eraseDups.mpr known)] at next
    rw [eraseDups_concat_of_mem known]
    exact next
  · rw [if_neg (mt List.mem_eraseDups.mp known)] at next
    rw [eraseDups_concat_of_notMem known]
    exact next

end Numbered

/-! ### Reserved ids -/

/-- An id that the registry may hand out: not that of the root, of the aggregator, or invalid. -/
def Dynamic (id : EndpointId) : Prop := kFirstDynamicEndpointId ≤ id ∧ id ≤ 0xFFFE

/-- Every call of a sequence returns only dynamic ids and, once they are used up, refuses a new UDN
and changes neither table. -/
def NeverReserved (udns : List Udn) : Prop :=
  ∀ earlier udn, earlier ++ [udn] <+: udns →
    let before := assignAll earlier
    let ended := (Request.getOrAssign udn).call noFaults before
    (∀ id, ended.1 = .returned (some id) → Dynamic id) ∧
      ((∀ id, Dynamic id → ∃ other, before.Maps other id) → (∀ id, ¬ before.Maps udn id) →
        ended = (.returned none, before))

theorem dynamic_numberedId {n : Nat} (below : n < 65533) : Dynamic (numberedId n) := by
  have value : (numberedId n).toNat = 2 + n := by
    rw [toNat_numberedId]
    omega
  refine ⟨UInt16.le_iff_toNat_le.mpr ?_, UInt16.le_iff_toNat_le.mpr ?_⟩
  · rw [value]
    exact Nat.le_add_right 2 n
  · rw [value]
    show 2 + n ≤ 65534
    omega

/-- The UDN after 65533 others gets the invalid id. -/
theorem call_invalid {earlier : List Udn} {udn : Udn} (count : earlier.eraseDups.length = 65533)
    (new : udn ∉ earlier) : ((Request.getOrAssign udn).call noFaults (assignAll earlier)).1 =
      .returned (some 0xFFFF) := by
  obtain ⟨next, ended, -⟩ := (assignAll_numbered earlier).call_fresh (by rw [count]; decide)
    (mt List.mem_eraseDups.mp new)
  rw [ended, count]
  exact congrArg (fun id => Outcome.returned (some id)) (by decide : numberedId 65533 = 0xFFFF)

theorem not_neverReserved {udns : List Udn} (many : 65533 < udns.eraseDups.length) :
    ¬ NeverReserved udns := by
  intro holds
  obtain ⟨earlier, udn, first, count, new⟩ := exists_new_element many
  have invalid := (holds earlier udn first).1 0xFFFF (call_invalid count new)
  exact absurd invalid.2 (by decide)

/-- If all dynamic ids are used, there are as many UDNs. -/
theorem length_of_used_up {earlier : List Udn}
    (used : ∀ id, Dynamic id → ∃ other, (assignAll earlier).Maps other id) :
    65533 ≤ earlier.eraseDups.length := by
  obtain ⟨other, maps⟩ := used 0xFFFE (by unfold Dynamic; decide)
  obtain ⟨n, udn, below, here, same⟩ := ((assignAll_numbered earlier).rows _).mp maps
  have value : (0xFFFE : EndpointId).toNat = (numberedId n).toNat :=
    Int.ofNat.inj (congrArg Mapping.endpointId same)
  rw [toNat_numberedId] at value
  have last : n = 65532 := by
    have lastId : (0xFFFE : EndpointId).toNat = 65534 := rfl
    omega
  have short := (List.getElem?_eq_some_iff.mp here).1
  omega

/-- **Reserved ids.** In a sequence of calls on an initially empty database, without faults, no
reserved id is handed out exactly if there are at most 65533 distinct UDNs. -/
theorem never_reserved_iff (udns : List Udn) :
    NeverReserved udns ↔ udns.eraseDups.length ≤ 65533 := by
  constructor
  · intro holds
    by_contra many
    exact not_neverReserved (Nat.lt_of_not_le many) holds
  · intro few earlier udn first
    have short : (earlier ++ [udn]).eraseDups.length ≤ 65533 :=
      Nat.le_trans (eraseDups_isPrefix first).length_le few
    obtain ⟨n, here, ended⟩ := call_assignAll earlier udn
    have below : n < 65533 :=
      Nat.lt_of_lt_of_le (List.getElem?_eq_some_iff.mp here).1 short
    rw [if_pos (by omega)] at ended
    refine ⟨fun id returned => ?_, fun used unmapped => ?_⟩
    · obtain rfl := Option.some.inj (Outcome.returned.inj (ended.symm.trans returned))
      exact dynamic_numberedId below
    · -- a new UDN would be one too many
      have enough := length_of_used_up used
      have known : udn ∈ earlier := by
        by_contra new
        rw [eraseDups_concat_of_notMem new, List.length_append, List.length_singleton] at short
        omega
      rw [eraseDups_concat_of_mem known] at here
      exact absurd ((assignAll_numbered earlier).maps (by omega) here) (unmapped _)

/-- The numeral of a number as a UDN. -/
def numeralUdn (n : Nat) : Udn :=
  ⟨Decimal.ofNat n, fun zero => absurd (Decimal.isDigit_of_mem_ofNat zero) (by decide)⟩

theorem numeralUdn_injective : Function.Injective numeralUdn := by
  intro n m same
  have numerals : Decimal.ofNat n = Decimal.ofNat m := congrArg Subtype.val same
  rw [← Decimal.value_ofNat n, numerals, Decimal.value_ofNat]

/-- The 65534th UDN is given the invalid endpoint id. -/
theorem invalid_id_assigned :
    ((Request.getOrAssign (numeralUdn 65533)).call noFaults
        (assignAll ((List.range 65533).map numeralUdn))).1 = .returned (some 0xFFFF) ∧
      ¬ NeverReserved ((List.range 65534).map numeralUdn) := by
  have distinct : ∀ n, ((List.range n).map numeralUdn).eraseDups.length = n := by
    intro n
    rw [eraseDups_of_nodup (List.nodup_range.map numeralUdn_injective), List.length_map,
      List.length_range]
  refine ⟨call_invalid (distinct 65533) fun member => ?_, not_neverReserved ?_⟩
  · obtain ⟨n, below, same⟩ := List.mem_map.mp member
    have last := numeralUdn_injective same
    rw [List.mem_range, last] at below
    exact absurd below (Nat.lt_irrefl _)
  · rw [distinct]
    decide

end WemoBridge.EndpointRegistry
