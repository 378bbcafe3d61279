/-
**A transactional store with one writer.**

Sessions read and write the rows of one store. A session that begins takes the only write lock and
works on its own copy; a commit makes the copy the committed rows, a rollback, a close or the death
of the session discards it. Every operation may fail, and one that fails leaves its session as it
was: the transaction stays open, with its copy. (A store that answers some failures by rolling the
transaction back itself is not of this kind.) A write fails too if it would break a constraint
(`Schema.apply` has no value). `exec` is one operation of one session; a session on its own runs with
`alone`, any number of them in any order in a `System`.

`System.Good` is the rely-guarantee invariant: every session is at a point of its program from which,
whatever the other sessions do, it commits only rows that keep the store's invariant and extend the
committed rows. `System.good_run` is the rule: if each program is safe on its own under `shared`,
every run of the system keeps the invariant, never loses a committed row, and returns only results
that hold of the committed rows from then on.
-/

import WemoBridge.Library.Machine
import WemoBridge.Library.Program

namespace WemoBridge.Library

/-- What a store holds and what can be asked of it; labels are operations that touch no row. -/
structure Schema where
  Rows : Type
  Label : Type
  Query : Type
  Reply : Query → Type
  Update : Type
  answer : (query : Query) → Rows → Reply query
  /-- the rows after an update, unless it breaks a constraint -/
  apply : Update → Rows → Option Rows

namespace Transaction

variable {S : Schema}

/-- An operation of a session. -/
inductive Op (S : Schema) where
  | plain (label : S.Label)
  | begin
  | read (query : S.Query)
  | write (update : S.Update)
  | commit
  | rollback
  | close

/-- Whether the operation succeeded; a read answers with what it read. -/
abbrev Op.Answer : Op S → Type
  | .plain _ => Bool
  | .begin => Bool
  | .read query => Option (S.Reply query)
  | .write _ => Bool
  | .commit => Bool
  | .rollback => Bool
  | .close => Unit

/-- A program of a session. -/
abbrev Code (S : Schema) (α : Type) := Program (Op S) Op.Answer α

/-- Ask one operation. -/
abbrev perform (op : Op S) : Code S op.Answer := Program.operation op

/-- What a session sees: the committed rows, and its own copy if it holds the write lock. -/
@[ext] structure View (S : Schema) where
  committed : S.Rows
  own : Option S.Rows

/-- One operation of a session that fails on its own if `fault`, where `free` says that no other
session holds the write lock. A write without a transaction commits itself. A failure changes nothing
and leaves an open transaction open. -/
def exec (fault free : Bool) : (op : Op S) → View S → op.Answer × View S
  | .plain _, view => (!fault, view)
  | .begin, view =>
      match view.own with
      | some _ => (false, view)
      | none =>
        if fault ∨ free = false then (false, view)
        else (true, { view with own := some view.committed })
  | .read query, view =>
      (if fault then none else some (S.answer query (view.own.getD view.committed)), view)
  | .write update, view =>
      if fault then (false, view)
      else
        match view.own with
        | some rows =>
          match S.apply update rows with
          | none => (false, view)
          | some rows => (true, { view with own := some rows })
        | none =>
          if free = false then (false, view)
          else
            match S.apply update view.committed with
            | none => (false, view)
            | some rows => (true, { view with committed := rows })
  | .commit, view =>
      match view.own with
      | none => (false, view)
      | some rows =>
        if fault then (false, view) else (true, { committed := rows, own := none })
  | .rollback, view =>
      match view.own with
      | none => (false, view)
      | some _ => if fault then (false, view) else (true, { view with own := none })
  | .close, view => ((), { view with own := none })

/-- A session with the store to itself, in which the operations in `faults` fail. -/
def alone (faults : Op S → Bool) (op : Op S) (view : View S) : op.Answer × View S :=
  exec (faults op) true op view

/-- A session that waits for the write lock changes nothing. -/
theorem exec_blocked (fault : Bool) (op : Op S) {view : View S} (idle : view.own = none) :
    (exec fault false op view).2 = view := by
  obtain ⟨committed, own⟩ := view
  obtain rfl : own = none := idle
  cases op with
  | write update =>
    rw [exec]
    split <;> simp
  | begin => simp [exec]
  | _ => rfl

/-! ### Many sessions -/

/-- A call of a session; its program is gone once the session has died in it. -/
structure Session (S : Schema) (Request Result : Type) where
  request : Request
  program : Option (Code S Result)

/-- The store with its sessions, numbered in the order they started. -/
structure System (S : Schema) (Request Result : Type) where
  committed : S.Rows
  /-- the session that holds the write lock, with its copy -/
  writer : Option (Nat × S.Rows)
  sessions : List (Session S Request Result)

/-- A session starts, takes its next operation, or dies. -/
inductive SystemInput (Request : Type) where
  | start (request : Request)
  | operate (id : Nat) (fault : Bool)
  | die (id : Nat)

section System

variable {Request Result : Type}

namespace System

/-- The copy of a session. -/
def own (system : System S Request Result) (id : Nat) : Option S.Rows :=
  match system.writer with
  | none => none
  | some (holder, rows) => if holder = id then some rows else none

/-- No other session holds the write lock. -/
def free (system : System S Request Result) (id : Nat) : Bool :=
  match system.writer with
  | none => true
  | some (holder, _) => holder = id

def view (system : System S Request Result) (id : Nat) : View S :=
  { committed := system.committed, own := system.own id }

/-- The system after a session did something that left it with `after`. -/
def update (system : System S Request Result) (id : Nat) (after : View S)
    (session : Session S Request Result) : System S Request Result where
  committed := after.committed
  writer :=
    match after.own with
    | some rows => some (id, rows)
    | none => if system.free id then none else system.writer
  sessions := system.sessions.set id session

/-- One step, where an operation fails on its own only if it `mayFail`. -/
def step (code : Request → Code S Result) (mayFail : Op S → Bool)
    (system : System S Request Result) : SystemInput Request → System S Request Result
  | .start request =>
      { system with
        sessions := system.sessions ++ [{ request := request, program := some (code request) }] }
  | .operate id fault =>
      match system.sessions[id]? with
      | none => system
      | some session =>
        match session.program with
        | some (.ask op next) =>
          let done := exec (fault && mayFail op) (system.free id) op (system.view id)
          system.update id done.2 { session with program := some (next done.1) }
        | _ => system
  | .die id =>
      match system.sessions[id]? with
      | none => system
      | some session =>
        match session.program with
        | some (.ask _ _) =>
          system.update id { system.view id with own := none } { session with program := none }
        | _ => system

/-- The system with no session, on the given rows. -/
def initial (rows : S.Rows) : System S Request Result :=
  { committed := rows, writer := none, sessions := [] }

end System

/-- **The running system.** -/
def systemMachine (code : Request → Code S Result) (mayFail : Op S → Bool) :
    Machine (System S Request Result) (SystemInput Request) Unit :=
  { step := fun system input => (system.step code mayFail input, ()) }

/-! ### The rule for many sessions -/

/-- What a session may rely on and what it must see to: while it waits the committed rows grow and
keep the invariant; while it holds the lock they stay; it writes only in a transaction, and commits
only rows that keep the invariant and extend the committed ones. -/
def shared (inv : S.Rows → Prop) (grows : S.Rows → S.Rows → Prop) (mayFail : Op S → Bool) :
    Spec (Op S) Op.Answer (View S) where
  pre op view :=
    match op with
    | .write _ => view.own ≠ none
    | .commit => ∀ rows, view.own = some rows → inv rows ∧ grows view.committed rows
    | _ => True
  may op view answer after :=
    ∃ seen, (view.own = none → grows view.committed seen) ∧
      (view.own ≠ none → seen = view.committed) ∧ inv seen ∧
      ∃ fault free, (fault = true → mayFail op = true) ∧ (view.own ≠ none → free = true) ∧
        exec fault free op { view with committed := seen } = (answer, after)

/-- A result that holds of the committed rows, of a session that has let go of the lock. -/
def final (post : Result → S.Rows → Prop) (result : Result) (view : View S) : Prop :=
  view.own = none ∧ post result view.committed

/-- What makes a set of programs safe to run together: rows grow reflexively and transitively,
results stay true as rows grow, and each program is safe on its own. -/
structure Safe (code : Request → Code S Result) (mayFail : Op S → Bool) (inv : S.Rows → Prop)
    (grows : S.Rows → S.Rows → Prop) (post : Request → Result → S.Rows → Prop) : Prop where
  refl : ∀ rows, grows rows rows
  trans : ∀ first second third, grows first second → grows second third → grows first third
  stable : ∀ request result first second, grows first second → post request result first →
    post request result second
  safe : ∀ request rows, inv rows → Program.wp (shared inv grows mayFail) (final (post request))
    (code request) { committed := rows, own := none }

/-- An operation of a safe session keeps the invariant and extends the committed rows. -/
theorem exec_shared {inv : S.Rows → Prop} {grows : S.Rows → S.Rows → Prop}
    {mayFail : Op S → Bool} (refl : ∀ rows, grows rows rows) {op : Op S} {view : View S}
    (pre : (shared inv grows mayFail).pre op view) (holds : inv view.committed)
    (fault free : Bool) :
    inv (exec fault free op view).2.committed ∧
      grows view.committed (exec fault free op view).2.committed := by
  obtain ⟨committed, own⟩ := view
  have same := And.intro holds (refl committed)
  cases own with
  | none =>
    cases op with
    | write update => exact absurd rfl pre
    | begin =>
      rw [exec]
      dsimp only
      split <;> exact same
    | _ => exact same
  | some rows =>
    cases op with
    | write update =>
      rw [exec]
      split
      · exact same
      · dsimp only
        split <;> exact same
    | commit =>
      rw [exec]
      dsimp only
      split
      · exact same
      · exact pre rows rfl
    | rollback =>
      rw [exec]
      dsimp only
      split <;> exact same
    | _ => exact same

namespace System

section Update

variable (system : System S Request Result) {id other : Nat} {after : View S}
  {session : Session S Request Result}

theorem free_of_own {rows : S.Rows} (own : system.own id = some rows) : system.free id = true := by
  unfold System.own at own
  unfold free
  split at own
  · cases own
  · split at own
    · simpa using ‹_ = id›
    · cases own

/-- A session that another one may overtake has no copy. -/
theorem own_of_free (free : system.free id = true) (ne : other ≠ id) : system.own other = none := by
  unfold System.free at free
  unfold own
  split at free
  · rfl
  · exact if_neg fun same => ne (same.symm.trans (of_decide_eq_true free))

theorem own_update_self : (system.update id after session).own id = after.own := by
  unfold own update free
  cases after.own with
  | some rows => simp
  | none =>
    cases system.writer with
    | none => simp
    | some held => by_cases same : held.1 = id <;> simp [same]

theorem own_update_other (ne : other ≠ id) (locked : after.own ≠ none → system.free id = true) :
    (system.update id after session).own other = system.own other := by
  by_cases free : system.free id = true
  · rw [system.own_of_free free ne]
    unfold own update
    cases after.own with
    | some rows => exact if_neg ne.symm
    | none => simp [free]
  · have released : after.own = none := by
      by_contra held
      exact free (locked held)
    unfold own update
    simp [free, released]

end Update

section Good

variable (code : Request → Code S Result) (mayFail : Op S → Bool) (inv : S.Rows → Prop)
  (grows : S.Rows → S.Rows → Prop) (post : Request → Result → S.Rows → Prop)

/-- **The invariant of a system**: the committed rows keep theirs, the lock is held by a live
session, and every live session is at a safe point of its program. -/
structure Good (system : System S Request Result) : Prop where
  committed : inv system.committed
  holder : ∀ id rows, system.writer = some (id, rows) →
    ∃ session program, system.sessions[id]? = some session ∧ session.program = some program
  points : ∀ id session program, system.sessions[id]? = some session →
    session.program = some program → ∃ seen,
      Program.wp (shared inv grows mayFail) (final (post session.request)) program
        { committed := seen, own := system.own id } ∧
      (system.own id = none → grows seen system.committed) ∧
      (system.own id ≠ none → seen = system.committed)

variable {code mayFail inv grows post} {system : System S Request Result}

/-- A step of a safe session keeps the system good. -/
theorem Good.update (safe : Safe code mayFail inv grows post)
    (good : Good mayFail inv grows post system) {id : Nat} {session : Session S Request Result}
    (found : system.sessions[id]? = some session) (next : Session S Request Result)
    (request : next.request = session.request)
    {after : View S} (invAfter : inv after.committed)
    (growsAfter : grows system.committed after.committed)
    (locked : after.own ≠ none → system.free id = true)
    (blocked : system.free id = false → after.committed = system.committed)
    (point : ∀ program, next.program = some program →
      Program.wp (shared inv grows mayFail) (final (post session.request)) program after)
    (gone : next.program = none → after.own = none) :
    Good mayFail inv grows post (system.update id after next) := by
  have below := (List.getElem?_eq_some_iff.mp found).1
  refine ⟨invAfter, ?_, ?_⟩
  · intro holder rows writer
    by_cases same : holder = id
    · subst same
      have held : after.own ≠ none := by
        have own : (system.update holder after next).own holder = after.own :=
          system.own_update_self
        rw [← own, System.own, writer]
        simp
      obtain ⟨program, alive⟩ := Option.ne_none_iff_exists'.mp fun none => held (gone none)
      exact ⟨next, program, List.getElem?_set_self below, alive⟩
    · have unchanged : system.writer = some (holder, rows) := by
        unfold System.update at writer
        cases released : after.own with
        | some own =>
          simp only [released, Option.some.injEq, Prod.mk.injEq] at writer
          exact absurd writer.1.symm same
        | none =>
          simp only [released] at writer
          split at writer
          · cases writer
          · exact writer
      obtain ⟨other, program, there, alive⟩ := good.holder holder rows unchanged
      exact ⟨other, program, (List.getElem?_set_ne (Ne.symm same)).trans there, alive⟩
  · intro other otherSession program there alive
    by_cases same : id = other
    · subst same
      obtain rfl : next = otherSession :=
        Option.some.inj ((List.getElem?_set_self below).symm.trans there)
      rw [system.own_update_self, request]
      exact ⟨after.committed, point program alive, fun _ => safe.refl _, fun _ => rfl⟩
    · obtain ⟨seen, holds, waiting, holding⟩ := good.points other otherSession program
        ((List.getElem?_set_ne same).symm.trans there) alive
      rw [system.own_update_other (Ne.symm same) locked]
      refine ⟨seen, holds, fun idle => safe.trans _ _ _ (waiting idle) growsAfter, fun held => ?_⟩
      obtain ⟨rows, own⟩ := Option.ne_none_iff_exists'.mp held
      have notFree : system.free id = false := by
        by_contra free
        rw [system.own_of_free (by simpa using free) (Ne.symm same)] at own
        cases own
      exact (holding held).trans (blocked notFree).symm

/-- A session that has not locked the rows has none of its own. -/
theorem own_of_not_free {id : Nat} (notFree : system.free id = false) :
    system.own id = none := by
  cases own : system.own id with
  | none => rfl
  | some rows =>
    rw [system.free_of_own own] at notFree
    cases notFree

/-- A session that is about to begin holds no lock. -/
theorem Good.own_length (good : Good mayFail inv grows post system) {id : Nat}
    (above : system.sessions.length ≤ id) : system.own id = none := by
  cases writer : system.writer with
  | none => simp [System.own, writer]
  | some held =>
    obtain ⟨session, program, there, -⟩ := good.holder held.1 held.2 writer
    have different : held.1 ≠ id := fun same =>
      absurd (List.getElem?_eq_some_iff.mp there).1 (by omega)
    simp [System.own, writer, different]

/-- A new session of a safe program begins at a safe point. -/
theorem Good.start (safe : Safe code mayFail inv grows post)
    (good : Good mayFail inv grows post system) (request : Request) :
    Good mayFail inv grows post (system.step code mayFail (.start request)) := by
  refine ⟨good.committed, ?_, ?_⟩
  · intro holder rows writer
    obtain ⟨session, program, there, alive⟩ := good.holder holder rows writer
    exact ⟨session, program,
      (List.getElem?_append_left (List.getElem?_eq_some_iff.mp there).1).trans there, alive⟩
  · intro id session program there alive
    rcases Nat.lt_or_ge id system.sessions.length with below | above
    · rw [System.step, List.getElem?_append_left below] at there
      exact good.points id session program there alive
    · obtain rfl : { request := request, program := some (code request) } = session := by
        rw [System.step, List.getElem?_append_right above] at there
        exact (List.mem_singleton.mp (List.mem_of_getElem? there)).symm
      obtain rfl := Option.some.inj alive
      have idle : (system.step code mayFail (.start request)).own id = none := good.own_length above
      rw [idle]
      exact ⟨system.committed, safe.safe request _ good.committed, fun _ => safe.refl _,
        fun held => absurd rfl held⟩

/-- The next operation of a session takes it to a safe point, on whatever rows it finds. -/
theorem Good.operate (safe : Safe code mayFail inv grows post)
    (good : Good mayFail inv grows post system) {id : Nat} {session : Session S Request Result}
    (found : system.sessions[id]? = some session) {op : Op S}
    {next : op.Answer → Program (Op S) Op.Answer Result}
    (alive : session.program = some (.ask op next)) {failing : Bool}
    (mayFault : failing = true → mayFail op = true) :
    let done := exec failing (system.free id) op (system.view id)
    Good mayFail inv grows post
        (system.update id done.2 { session with program := some (next done.1) }) ∧
      grows system.committed done.2.committed := by
  intro done
  obtain ⟨seen, holds, waiting, holding⟩ := good.points id session _ found alive
  obtain ⟨pre, goesOn⟩ := (Program.wp_ask op next _).mp holds
  have may : (shared inv grows mayFail).may op { committed := seen, own := system.own id }
      done.1 done.2 := by
    refine ⟨system.committed, waiting, fun held => (holding held).symm, good.committed,
      failing, system.free id, mayFault, fun held => ?_, rfl⟩
    obtain ⟨rows, own⟩ := Option.ne_none_iff_exists'.mp held
    exact system.free_of_own own
  have preNow : (shared inv grows mayFail).pre op (system.view id) := by
    cases op with
    | write update => exact pre
    | commit =>
      intro rows own
      have same := holding (by rw [show system.own id = some rows from own]; simp)
      have obligation := pre rows own
      rwa [show ({ committed := seen, own := system.own id } : View S).committed =
        system.committed from same] at obligation
    | _ => trivial
  obtain ⟨invAfter, growsAfter⟩ :=
    exec_shared safe.refl preNow good.committed failing (system.free id)
  have blocked : system.free id = false → done.2 = system.view id := by
    intro notFree
    show (exec failing (system.free id) op (system.view id)).2 = _
    rw [notFree]
    exact exec_blocked failing op (own_of_not_free notFree)
  refine ⟨good.update safe found _ ?_ invAfter growsAfter ?_ ?_ ?_ ?_, growsAfter⟩
  · rfl
  · intro held
    by_contra notFree
    rw [blocked (by simpa using notFree)] at held
    exact held (own_of_not_free (by simpa using notFree))
  · intro notFree
    rw [blocked notFree]
    rfl
  · rintro program isNext
    obtain rfl := Option.some.inj isNext
    exact goesOn _ _ may
  · simp

/-- **Every step keeps a system good** and extends the committed rows. -/
theorem Good.step (safe : Safe code mayFail inv grows post)
    (good : Good mayFail inv grows post system) (input : SystemInput Request) :
    Good mayFail inv grows post (system.step code mayFail input) ∧
      grows system.committed (system.step code mayFail input).committed := by
  have stays : Good mayFail inv grows post system ∧ grows system.committed system.committed :=
    ⟨good, safe.refl _⟩
  cases input with
  | start request => exact ⟨good.start safe request, safe.refl _⟩
  | operate id fault =>
    rw [System.step]
    cases found : system.sessions[id]? with
    | none => exact stays
    | some session =>
      match alive : session.program with
      | none => simpa [alive] using stays
      | some (.pure result) => simpa [alive] using stays
      | some (.ask op next) =>
        simp only [alive]
        exact good.operate safe found alive fun both => (Bool.and_eq_true_iff.mp both).2
  | die id =>
    rw [System.step]
    cases found : system.sessions[id]? with
    | none => exact stays
    | some session =>
      match alive : session.program with
      | none => simpa [alive] using stays
      | some (.pure result) => simpa [alive] using stays
      | some (.ask op next) =>
        simp only [alive]
        refine ⟨good.update safe found _ ?_ good.committed (safe.refl _) ?_ ?_ ?_ ?_, safe.refl _⟩
        · rfl
        · exact fun held => absurd rfl held
        · exact fun _ => rfl
        · simp
        · exact fun _ => rfl

/-- A system without a session is good. -/
theorem good_initial {rows : S.Rows} (holds : inv rows) :
    Good mayFail inv grows post (System.initial rows : System S Request Result) :=
  ⟨holds, by simp [System.initial], by simp [System.initial]⟩

/-- **Every run keeps a system good** and extends the committed rows. -/
theorem good_run (safe : Safe code mayFail inv grows post)
    (good : Good mayFail inv grows post system) (inputs : List (SystemInput Request)) :
    Good mayFail inv grows post ((systemMachine code mayFail).run system inputs) ∧
      grows system.committed ((systemMachine code mayFail).run system inputs).committed :=
  (systemMachine code mayFail).run_invariant
    (fun after => Good mayFail inv grows post after ∧ grows system.committed after.committed)
    (fun _ input before =>
      have next := before.1.step safe input
      ⟨next.1, safe.trans _ _ _ before.2 next.2⟩)
    inputs ⟨good, safe.refl _⟩

/-- **A returned result holds of the committed rows.** -/
theorem Good.returned (safe : Safe code mayFail inv grows post)
    (good : Good mayFail inv grows post system) {id : Nat} {session : Session S Request Result}
    (found : system.sessions[id]? = some session) {result : Result}
    (returned : session.program = some (.pure result)) :
    post session.request result system.committed := by
  obtain ⟨seen, holds, waiting, -⟩ := good.points id session _ found returned
  exact safe.stable _ _ _ _ (waiting holds.1) holds.2

end Good

end System

end System

/-! ### Rules for programs under `shared` -/

section Rules

variable {inv : S.Rows → Prop} {grows : S.Rows → S.Rows → Prop} {mayFail : Op S → Bool}
  {committed rows : S.Rows}

/-- The committed rows a waiting session may find. -/
def Later {Rows : Type} (inv : Rows → Prop) (grows : Rows → Rows → Prop) (committed seen : Rows) :
    Prop := inv seen ∧ grows committed seen

/-- One operation: whatever comes of it meets the postcondition. -/
theorem wp_operation {op : Op S} {view : View S} {post : op.Answer → View S → Prop}
    (pre : (shared inv grows mayFail).pre op view)
    (meets : ∀ fault free seen, (fault = true → mayFail op = true) →
      (view.own = none → Later inv grows view.committed seen) →
      (view.own ≠ none → free = true ∧ seen = view.committed) →
        post (exec fault free op { view with committed := seen }).1
          (exec fault free op { view with committed := seen }).2) :
    Program.wp (shared inv grows mayFail) post (perform op) view := by
  refine ⟨pre, ?_⟩
  rintro answer after ⟨seen, waiting, holding, holds, fault, free, may, only, done⟩
  have met := meets fault free seen may (fun idle => ⟨holds, waiting idle⟩)
    (fun held => ⟨only held, holding held⟩)
  rw [done] at met
  exact met

theorem wp_plain_waiting {label : S.Label} {post : Bool → View S → Prop}
    (meets : ∀ ok seen, Later inv grows committed seen →
      post ok { committed := seen, own := none }) :
    Program.wp (shared inv grows mayFail) post (perform (.plain label))
      { committed := committed, own := none } :=
  wp_operation trivial fun _ _ seen _ later _ => meets _ seen (later rfl)

theorem wp_begin_waiting {post : Bool → View S → Prop}
    (meets : ∀ seen, Later inv grows committed seen →
      post false { committed := seen, own := none } ∧
        post true { committed := seen, own := some seen }) :
    Program.wp (shared inv grows mayFail) post (perform .begin)
      { committed := committed, own := none } := by
  refine wp_operation trivial fun fault free seen _ later _ => ?_
  obtain ⟨failed, begun⟩ := meets seen (later rfl)
  rw [exec]
  dsimp only
  split
  · exact failed
  · exact begun

theorem wp_read_waiting {query : S.Query} {post : Option (S.Reply query) → View S → Prop}
    (meets : ∀ seen, Later inv grows committed seen →
      post none { committed := seen, own := none } ∧
        post (some (S.answer query seen)) { committed := seen, own := none }) :
    Program.wp (shared inv grows mayFail) post (perform (.read query))
      { committed := committed, own := none } := by
  refine wp_operation trivial fun fault free seen _ later _ => ?_
  obtain ⟨failed, found⟩ := meets seen (later rfl)
  rw [exec]
  cases fault
  · exact found
  · exact failed

theorem wp_close_waiting {post : Unit → View S → Prop}
    (meets : ∀ seen, Later inv grows committed seen →
      post () { committed := seen, own := none }) :
    Program.wp (shared inv grows mayFail) post (perform .close)
      { committed := committed, own := none } :=
  wp_operation trivial fun _ _ seen _ later _ => meets seen (later rfl)

theorem wp_plain_holding {label : S.Label} {post : Bool → View S → Prop}
    (meets : ∀ ok, post ok { committed := committed, own := some rows }) :
    Program.wp (shared inv grows mayFail) post (perform (.plain label))
      { committed := committed, own := some rows } := by
  refine wp_operation trivial fun fault free seen _ _ holding => ?_
  obtain ⟨-, rfl⟩ := holding (by simp)
  exact meets _

theorem wp_read_holding {query : S.Query} {post : Option (S.Reply query) → View S → Prop}
    (failed : post none { committed := committed, own := some rows })
    (found : post (some (S.answer query rows)) { committed := committed, own := some rows }) :
    Program.wp (shared inv grows mayFail) post (perform (.read query))
      { committed := committed, own := some rows } := by
  refine wp_operation trivial fun fault free seen _ _ holding => ?_
  obtain ⟨-, rfl⟩ := holding (by simp)
  rw [exec]
  cases fault
  · exact found
  · exact failed

theorem wp_write_holding {update : S.Update} {post : Bool → View S → Prop}
    (failed : post false { committed := committed, own := some rows })
    (written : ∀ next, S.apply update rows = some next →
      post true { committed := committed, own := some next }) :
    Program.wp (shared inv grows mayFail) post (perform (.write update))
      { committed := committed, own := some rows } := by
  refine wp_operation (by simp [shared]) fun fault free seen _ _ holding => ?_
  obtain ⟨-, rfl⟩ := holding (by simp)
  rw [exec]
  cases fault with
  | true => exact failed
  | false =>
    cases applied : S.apply update rows with
    | none => simpa [applied] using failed
    | some next => simpa [applied] using written next applied

/-- A commit that fails leaves the copy as it is. -/
theorem wp_commit_holding {post : Bool → View S → Prop} (holds : inv rows)
    (extends_ : grows committed rows)
    (failed : mayFail .commit = true → post false { committed := committed, own := some rows })
    (done : post true { committed := rows, own := none }) :
    Program.wp (shared inv grows mayFail) post (perform .commit)
      { committed := committed, own := some rows } := by
  refine wp_operation ?_ fun fault free seen may _ holding => ?_
  · intro own same
    obtain rfl := Option.some.inj same
    exact ⟨holds, extends_⟩
  · obtain ⟨-, rfl⟩ := holding (by simp)
    rw [exec]
    cases fault
    · exact done
    · exact failed (may rfl)

theorem wp_rollback_holding {post : Bool → View S → Prop}
    (failed : post false { committed := committed, own := some rows })
    (done : post true { committed := committed, own := none }) :
    Program.wp (shared inv grows mayFail) post (perform .rollback)
      { committed := committed, own := some rows } := by
  refine wp_operation trivial fun fault free seen _ _ holding => ?_
  obtain ⟨-, rfl⟩ := holding (by simp)
  rw [exec]
  cases fault
  · exact done
  · exact failed

theorem wp_close_holding {post : Unit → View S → Prop}
    (done : post () { committed := committed, own := none }) :
    Program.wp (shared inv grows mayFail) post (perform .close)
      { committed := committed, own := some rows } := by
  refine wp_operation trivial fun fault free seen _ _ holding => ?_
  obtain ⟨-, rfl⟩ := holding (by simp)
  exact done

/-- **A program keeps the invariant and extends the committed rows**, besides what it is known to
do. -/
theorem wp_later {α : Type} {post : α → View S → Prop} (refl : ∀ rows, grows rows rows)
    (trans : ∀ first second third, grows first second → grows second third → grows first third)
    (program : Code S α) : ∀ view : View S, inv view.committed →
      Program.wp (shared inv grows mayFail) post program view →
      Program.wp (shared inv grows mayFail)
        (fun result after => post result after ∧ Later inv grows view.committed after.committed)
        program view := by
  induction program with
  | pure result => exact fun view keeps holds => ⟨holds, keeps, refl _⟩
  | ask op next ih =>
    rintro view - ⟨pre, goesOn⟩
    refine ⟨pre, fun answer after may => ?_⟩
    obtain ⟨seen, waiting, holding, holds, fault, free, -, -, done⟩ := id may
    -- what the session finds extends what it knew, and what it leaves extends what it finds
    have found : grows view.committed seen := by
      by_cases idle : view.own = none
      · exact waiting idle
      · rw [holding idle]
        exact refl _
    have preNow : (shared inv grows mayFail).pre op { view with committed := seen } := by
      cases op with
      | commit =>
        intro rows own
        rw [holding (by rw [show view.own = some rows from own]; simp)]
        exact pre rows own
      | _ => exact pre
    obtain ⟨keeps, left⟩ := exec_shared refl preNow holds fault free
    rw [done] at keeps left
    refine Program.wp_mono ?_ _ _ (ih answer after keeps (goesOn answer after may))
    rintro result last ⟨ended, later⟩
    exact ⟨ended, later.1, trans _ _ _ (trans _ _ _ found left) later.2⟩

end Rules

end Transaction

end WemoBridge.Library
