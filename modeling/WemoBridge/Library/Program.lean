/-
**Programs that ask their surroundings.**

A `Program` stops at every operation and goes on with the answer it gets; `do` notation composes
programs. `run` answers the operations one after the other with a handler. A `Spec` says what an
operation asks for and what may come of it, with whatever the surroundings do in between; `wp` is the
weakest precondition under a `Spec`, with the usual rules (`wp_bind`, `wp_mono`).
-/

import Mathlib

namespace WemoBridge.Library

/-- A computation that asks operations of its surroundings. -/
inductive Program (Op : Type) (Answer : Op → Type) (α : Type) where
  | pure (a : α)
  | ask (op : Op) (next : Answer op → Program Op Answer α)

namespace Program

section Monad

variable {Op : Type} {Answer : Op → Type} {α β : Type}

/-- Go on with the result. -/
def bind : Program Op Answer α → (α → Program Op Answer β) → Program Op Answer β
  | .pure a, next => next a
  | .ask op answered, next => .ask op fun answer => (answered answer).bind next

instance : Monad (Program Op Answer) where
  pure := .pure
  bind := bind

/-- Ask one operation and return its answer. -/
def operation (op : Op) : Program Op Answer (Answer op) := .ask op .pure

@[simp] theorem pure_bind (a : α) (next : α → Program Op Answer β) :
    (Pure.pure a >>= next : Program Op Answer β) = next a := rfl

@[simp] theorem operation_bind (op : Op) (next : Answer op → Program Op Answer β) :
    (operation op >>= next : Program Op Answer β) = .ask op next := rfl

/-- The body for one item after the other, up to the first one it has no result for. -/
def collect {Item : Type} (body : Item → Program Op Answer (Option β)) :
    List Item → Program Op Answer (Option (List β))
  | [] => Pure.pure (some [])
  | item :: items => do
    match ← body item with
    | none => return none
    | some result =>
      match ← collect body items with
      | none => return none
      | some results => return some (result :: results)

end Monad

section Run

variable {Op State α β : Type} {Answer : Op → Type}
  (handle : (op : Op) → State → Answer op × State)

/-- Run a program with a handler for its operations. -/
def run : Program Op Answer α → State → α × State
  | .pure a, state => (a, state)
  | .ask op next, state => run (next (handle op state).1) (handle op state).2

@[simp] theorem run_pure (a : α) (state : State) :
    run handle (Pure.pure a : Program Op Answer α) state = (a, state) := rfl

@[simp] theorem run_ask (op : Op) (next : Answer op → Program Op Answer α) (state : State) :
    run handle (.ask op next) state = run handle (next (handle op state).1) (handle op state).2 :=
  rfl

@[simp] theorem run_operation (op : Op) (state : State) :
    run handle (operation op : Program Op Answer (Answer op)) state = handle op state := rfl

/-- **Running one program after another.** -/
theorem run_bind (program : Program Op Answer α) (next : α → Program Op Answer β) :
    ∀ state : State, run handle (program >>= next) state =
      run handle (next (run handle program state).1) (run handle program state).2 := by
  induction program with
  | pure a => exact fun _ => rfl
  | ask op answered ih => exact fun state => ih _ _

end Run

end Program

/-! ### Preconditions and postconditions -/

/-- What operations ask for, and what may come of them. -/
structure Spec (Op : Type) (Answer : Op → Type) (State : Type) where
  pre : Op → State → Prop
  may : (op : Op) → State → Answer op → State → Prop

namespace Program

variable {Op State α β : Type} {Answer : Op → Type} (spec : Spec Op Answer State)

/-- The weakest precondition: every operation may be asked, and whatever comes of it, the result
meets the postcondition. -/
def wp (post : α → State → Prop) : Program Op Answer α → State → Prop
  | .pure a, state => post a state
  | .ask op next, state =>
      spec.pre op state ∧ ∀ answer after, spec.may op state answer after →
        wp post (next answer) after

variable {spec} {post : α → State → Prop}

@[simp] theorem wp_pure (a : α) (state : State) :
    wp spec post (Pure.pure a : Program Op Answer α) state ↔ post a state := Iff.rfl

theorem wp_ask (op : Op) (next : Answer op → Program Op Answer α) (state : State) :
    wp spec post (.ask op next) state ↔ spec.pre op state ∧
      ∀ answer after, spec.may op state answer after → wp spec post (next answer) after := Iff.rfl

/-- **The rule of sequence.** -/
theorem wp_bind {post : β → State → Prop} (program : Program Op Answer α)
    (next : α → Program Op Answer β) : ∀ state : State,
      wp spec post (program >>= next) state ↔
        wp spec (fun a after => wp spec post (next a) after) program state := by
  induction program with
  | pure a => exact fun _ => Iff.rfl
  | ask op answered ih =>
    exact fun state => and_congr_right fun _ => forall_congr' fun answer =>
      forall_congr' fun after => imp_congr_right fun _ => ih answer after

/-- **The rule of consequence.** -/
theorem wp_mono {post' : α → State → Prop} (weaker : ∀ a state, post a state → post' a state)
    (program : Program Op Answer α) :
    ∀ state : State, wp spec post program state → wp spec post' program state := by
  induction program with
  | pure a => exact fun state => weaker a state
  | ask op answered ih =>
    exact fun state holds => ⟨holds.1, fun answer after may => ih answer after
      (holds.2 answer after may)⟩

/-- **The rule of the loop**: the body keeps what holds of the items done, with their results, or
gives up. -/
theorem wp_collect {Item : Type} (inv : List (Item × α) → State → Prop) (gaveUp : State → Prop)
    {body : Item → Program Op Answer (Option α)} (items : List Item) :
    (∀ done item state, item ∈ items → inv done state →
      wp spec (fun result after => result.elim (gaveUp after) fun a => inv (done ++ [(item, a)]) after)
        (body item) state) →
    ∀ done state, inv done state →
      wp spec (fun results after => results.elim (gaveUp after) fun as =>
        as.length = items.length ∧ inv (done ++ items.zip as) after) (collect body items) state := by
  induction items with
  | nil => exact fun _ done state holds => ⟨rfl, by simpa using holds⟩
  | cons item items ih =>
    intro step done state holds
    refine (wp_bind _ _ _).mpr (wp_mono ?_ _ _ (step done item state List.mem_cons_self holds))
    intro result after next
    cases result with
    | none => exact next
    | some a =>
      have rest := ih (fun done' item' state' member => step done' item' state'
        (List.mem_cons_of_mem _ member)) _ after next
      refine (wp_bind _ _ _).mpr (wp_mono ?_ _ _ rest)
      intro results last ended
      cases results with
      | none => exact ended
      | some as =>
        obtain ⟨sameLength, ended⟩ := ended
        rw [List.append_assoc] at ended
        exact ⟨congrArg Nat.succ sameLength, ended⟩

end Program

end WemoBridge.Library
