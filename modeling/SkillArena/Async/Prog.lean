/-
**Asynchronous programs, as the questions they ask.**

A program is a tree: it is finished, or it awaits one operation and continues with the reply. What an
operation does to the world is not part of the program, so one program text can be run alone, run with
failures, or interleaved with others.

* `Prog S α` — programs over a signature `S` of operations and reply types; `Prog.interpret` runs one
  alone.
* `Task S ε α` — programs that may end in an exception `ε`; `attempt` is the `try … catch`.
* `Contract S` — what a program may ask in each phase, what it may assume about the replies, and the
  phase each reply leads to.
* `Prog.Keeps` — the program keeps the contract from a phase on and ends in a phase that satisfies
  the postcondition. It is computed along the program text by `keeps_bind` and `keeps_attempt`;
  two contracts are kept side by side (`Contract.both`).
* `Task.Computes` — the task returns to its phase with the result of a pure computation.
* `Task.Asks` — every operation the task may await, whatever the replies, is of a given kind.
* `Task.Stable` — the task keeps the contract from, and ends in, phases with a property; it composes
  without a look at the values passed on (`stable_bind`, `stable_attempt`, `Asks.stable`).
-/

import Mathlib.Data.List.Basic
import Mathlib.Tactic.Common

namespace Async

/-- The operations a program may await, each with the type of its reply. -/
structure Signature where
  Op : Type
  Reply : Op → Type

/-- **A program**: finished with a value, or awaiting an operation. -/
inductive Prog (S : Signature) (α : Type) : Type
  | done (value : α)
  | await (op : S.Op) (next : S.Reply op → Prog S α)

namespace Prog

variable {S : Signature} {α β γ : Type}

/-- Sequencing: what follows is grafted onto every end of the first program. -/
def bind : Prog S α → (α → Prog S β) → Prog S β
  | done value, rest => rest value
  | await op next, rest => await op fun reply => (next reply).bind rest

/-- Run a program alone, its operations performed one after the other on a state. -/
def interpret {σ : Type} (perform : (op : S.Op) → σ → S.Reply op × σ) : Prog S α → σ → α × σ
  | done value, state => (value, state)
  | await op next, state =>
    (next (perform op state).1).interpret perform (perform op state).2

/-- The operation a program awaits next. -/
def head : Prog S α → Option S.Op
  | done _ => none
  | await op _ => some op

@[simp] theorem bind_done (value : α) (rest : α → Prog S β) :
    (done value).bind rest = rest value := rfl

@[simp] theorem bind_await (op : S.Op) (next : S.Reply op → Prog S α) (rest : α → Prog S β) :
    (await op next).bind rest = await op fun reply => (next reply).bind rest := rfl

@[simp] theorem head_await (op : S.Op) (next : S.Reply op → Prog S α) :
    (await op next).head = some op := rfl

@[simp] theorem head_done (value : α) : (done value : Prog S α).head = none := rfl

theorem await_of_head {prog : Prog S α} {op : S.Op} (awaits : prog.head = some op) :
    ∃ next, prog = await op next := by
  cases prog with
  | done value => cases awaits
  | await op' next =>
    cases awaits
    exact ⟨next, rfl⟩

@[simp] theorem interpret_done {σ : Type} (perform : (op : S.Op) → σ → S.Reply op × σ) (value : α)
    (state : σ) : (done value).interpret perform state = (value, state) := rfl

@[simp] theorem interpret_await {σ : Type} (perform : (op : S.Op) → σ → S.Reply op × σ) (op : S.Op)
    (next : S.Reply op → Prog S α) (state : σ) : (await op next).interpret perform state =
      (next (perform op state).1).interpret perform (perform op state).2 := rfl

/-- **Sequencing, run alone.** -/
theorem interpret_bind {σ : Type} (perform : (op : S.Op) → σ → S.Reply op × σ) (prog : Prog S α)
    (rest : α → Prog S β) (state : σ) : (prog.bind rest).interpret perform state =
      (rest (prog.interpret perform state).1).interpret perform (prog.interpret perform state).2 := by
  induction prog generalizing state with
  | done value => rfl
  | await op next ih => exact ih _ _

/-- A map of the states that the operations do not notice is not noticed by a program. -/
theorem interpret_map {σ : Type} {perform : (op : S.Op) → σ → S.Reply op × σ} {f : σ → σ}
    (unnoticed : ∀ op state, perform op (f state) = ((perform op state).1, f (perform op state).2))
    (prog : Prog S α) (state : σ) :
    prog.interpret perform (f state) = ((prog.interpret perform state).1, f (prog.interpret perform state).2) := by
  induction prog generalizing state with
  | done value => rfl
  | await op next ih =>
    rw [interpret_await, interpret_await, unnoticed]
    exact ih _ _

end Prog

/-! ### Programs that may throw -/

/-- **A task**: a program that ends with a value or with an exception. -/
structure Task (S : Signature) (ε α : Type) : Type where
  prog : Prog S (Except ε α)

namespace Task

variable {S : Signature} {ε α β : Type}

def ret (value : α) : Task S ε α := ⟨.done (.ok value)⟩

def throw (err : ε) : Task S ε α := ⟨.done (.error err)⟩

/-- Sequencing; an exception skips what follows. -/
def andThen (task : Task S ε α) (rest : α → Task S ε β) : Task S ε β :=
  ⟨task.prog.bind fun
    | .ok value => (rest value).prog
    | .error err => .done (.error err)⟩

instance : Monad (Task S ε) where
  pure := ret
  bind := andThen

/-- **`try … catch`**: the handler runs exactly when the body throws. -/
def attempt (body : Task S ε α) (handler : ε → Task S ε α) : Task S ε α :=
  ⟨body.prog.bind fun
    | .ok value => .done (.ok value)
    | .error err => (handler err).prog⟩

instance : MonadExceptOf ε (Task S ε) where
  throw := throw
  tryCatch := attempt

/-- A task whose exception is handed on as a value. -/
def settled (task : Task S ε α) : Task S ε (Except ε α) := ⟨task.prog.bind fun result => .done (.ok result)⟩

/-- **`try … finally`**: the last task runs however the body ends, and then the body's end counts. -/
def lastly (body : Task S ε α) (last : Task S ε Unit) : Task S ε α :=
  ⟨body.prog.bind fun result => last.prog.bind fun
    | .ok _ => .done result
    | .error err => .done (.error err)⟩

/-- Run a task alone. -/
def interpret {σ : Type} (perform : (op : S.Op) → σ → S.Reply op × σ) (task : Task S ε α) (state : σ) :
    Except ε α × σ :=
  task.prog.interpret perform state

@[simp] theorem interpret_pure {σ : Type} (perform : (op : S.Op) → σ → S.Reply op × σ) (value : α)
    (state : σ) : (pure value : Task S ε α).interpret perform state = (.ok value, state) := rfl

@[simp] theorem interpret_throw {σ : Type} (perform : (op : S.Op) → σ → S.Reply op × σ) (err : ε)
    (state : σ) : (throw err : Task S ε α).interpret perform state = (.error err, state) := rfl

/-- **Sequencing, run alone**: the rest runs where the first task ended normally. -/
theorem interpret_bind {σ : Type} (perform : (op : S.Op) → σ → S.Reply op × σ) (task : Task S ε α)
    (rest : α → Task S ε β) (state : σ) : (task >>= rest).interpret perform state =
      match task.interpret perform state with
      | (.ok value, state') => (rest value).interpret perform state'
      | (.error err, state') => (.error err, state') := by
  refine (Prog.interpret_bind perform task.prog _ state).trans ?_
  unfold interpret
  rcases task.prog.interpret perform state with ⟨err | value, state'⟩
  · rfl
  · rfl

theorem interpret_bind_assoc {σ γ : Type} (perform : (op : S.Op) → σ → S.Reply op × σ) (task : Task S ε α)
    (middle : α → Task S ε β) (rest : β → Task S ε γ) (state : σ) :
    ((task >>= middle) >>= rest).interpret perform state =
      (task >>= fun value => middle value >>= rest).interpret perform state := by
  rw [interpret_bind, interpret_bind, interpret_bind]
  rcases task.interpret perform state with ⟨err | value, state'⟩
  · rfl
  · exact (interpret_bind _ _ _ _).symm

/-- A sequence returns exactly when both its parts do. -/
theorem interpret_bind_ok {σ : Type} {perform : (op : S.Op) → σ → S.Reply op × σ} {task : Task S ε α}
    {rest : α → Task S ε β} {state state' : σ} {value : β} :
    (task >>= rest).interpret perform state = (.ok value, state') ↔
      ∃ first between, task.interpret perform state = (.ok first, between) ∧
        (rest first).interpret perform between = (.ok value, state') := by
  rw [interpret_bind]
  rcases task.interpret perform state with ⟨err | first, between⟩
  · simp
  · simp

/-- **`try … catch`, run alone**: the handler runs where the body threw. -/
theorem interpret_attempt {σ : Type} (perform : (op : S.Op) → σ → S.Reply op × σ)
    (body : Task S ε α) (handler : ε → Task S ε α) (state : σ) :
    (attempt body handler).interpret perform state =
      match body.interpret perform state with
      | (.ok value, state') => (.ok value, state')
      | (.error err, state') => (handler err).interpret perform state' := by
  refine (Prog.interpret_bind perform body.prog _ state).trans ?_
  unfold interpret
  rcases body.prog.interpret perform state with ⟨err | value, state'⟩
  · rfl
  · rfl

/-- A `catch` that does nothing leaves the state the body leaves. -/
theorem interpret_attempt_pure {σ : Type} (perform : (op : S.Op) → σ → S.Reply op × σ)
    (body : Task S ε α) (value : α) (state : σ) :
    ((attempt body fun _ => pure value).interpret perform state).2 = (body.interpret perform state).2 := by
  rw [interpret_attempt]
  rcases body.interpret perform state with ⟨err | value, state'⟩
  · rfl
  · rfl

/-- The program of a task, its value and its exception dropped. -/
def run (task : Task S ε α) : Prog S Unit := task.prog.bind fun _ => .done ()

end Task

/-! ### Contracts -/

/-- **A contract**: the phases of a conversation, what may be asked in each, what the answers may
be, and the phase after an answer. -/
structure Contract (S : Signature) where
  Phase : Type
  may : Phase → S.Op → Prop
  answers : Phase → (op : S.Op) → S.Reply op → Prop
  after : Phase → (op : S.Op) → S.Reply op → Phase

namespace Prog

variable {S : Signature} {C : Contract S} {α β : Type}

/-- **The program keeps the contract** from a phase on, and ends as the postcondition says. -/
def Keeps (C : Contract S) : C.Phase → Prog S α → (α → C.Phase → Prop) → Prop
  | phase, done value, post => post value phase
  | phase, await op next, post =>
    C.may phase op ∧
      ∀ reply, C.answers phase op reply → Keeps C (C.after phase op reply) (next reply) post

@[simp] theorem keeps_done (phase : C.Phase) (value : α) (post : α → C.Phase → Prop) :
    Keeps C phase (done value) post ↔ post value phase := Iff.rfl

@[simp] theorem keeps_await (phase : C.Phase) (op : S.Op) (next : S.Reply op → Prog S α)
    (post : α → C.Phase → Prop) :
    Keeps C phase (await op next) post ↔ C.may phase op ∧
      ∀ reply, C.answers phase op reply → Keeps C (C.after phase op reply) (next reply) post :=
  Iff.rfl

theorem keeps_bind (phase : C.Phase) (prog : Prog S α) (rest : α → Prog S β)
    (post : β → C.Phase → Prop) :
    Keeps C phase (prog.bind rest) post ↔
      Keeps C phase prog fun value phase' => Keeps C phase' (rest value) post := by
  induction prog generalizing phase with
  | done value => exact Iff.rfl
  | await op next ih =>
    simp only [bind_await, keeps_await]
    exact and_congr_right fun _ => forall_congr' fun reply => imp_congr_right fun _ => ih reply _

theorem Keeps.mono {phase : C.Phase} {prog : Prog S α} {post post' : α → C.Phase → Prop}
    (keeps : Keeps C phase prog post) (weaker : ∀ value phase', post value phase' → post' value phase') :
    Keeps C phase prog post' := by
  induction prog generalizing phase with
  | done value => exact weaker _ _ keeps
  | await op next ih => exact ⟨keeps.1, fun reply answer => ih reply (keeps.2 reply answer)⟩

end Prog

/-- **Two contracts side by side.** -/
@[reducible] def Contract.both {S : Signature} (C D : Contract S) : Contract S where
  Phase := C.Phase × D.Phase
  may phase op := C.may phase.1 op ∧ D.may phase.2 op
  answers phase op reply := C.answers phase.1 op reply ∧ D.answers phase.2 op reply
  after phase op reply := (C.after phase.1 op reply, D.after phase.2 op reply)

/-- A program that keeps two contracts keeps them side by side. -/
theorem Prog.Keeps.both {S : Signature} {C D : Contract S} {α : Type} {prog : Prog S α} {first : C.Phase}
    {second : D.Phase} {post : α → C.Phase → Prop} {post' : α → D.Phase → Prop}
    (here : prog.Keeps C first post) (there : prog.Keeps D second post') :
    prog.Keeps (C.both D) (first, second) fun value phase => post value phase.1 ∧ post' value phase.2 := by
  induction prog generalizing first second with
  | done value => exact ⟨here, there⟩
  | await op next ih =>
    exact ⟨⟨here.1, there.1⟩, fun reply answers => ih reply (here.2 reply answers.1) (there.2 reply answers.2)⟩

namespace Task

variable {S : Signature} {ε α β : Type} {C : Contract S}

/-- A task keeps the contract if its program does; the postcondition sees the exception. -/
def Keeps (C : Contract S) (phase : C.Phase) (task : Task S ε α)
    (post : Except ε α → C.Phase → Prop) : Prop :=
  task.prog.Keeps C phase post

@[simp] theorem keeps_pure (phase : C.Phase) (value : α) (post : Except ε α → C.Phase → Prop) :
    Keeps C phase (pure value : Task S ε α) post ↔ post (.ok value) phase := Iff.rfl

@[simp] theorem keeps_throw (phase : C.Phase) (err : ε) (post : Except ε α → C.Phase → Prop) :
    Keeps C phase (throw err) post ↔ post (.error err) phase := Iff.rfl

theorem Keeps.mono {phase : C.Phase} {task : Task S ε α} {post post' : Except ε α → C.Phase → Prop}
    (keeps : Keeps C phase task post) (weaker : ∀ value phase', post value phase' → post' value phase') :
    Keeps C phase task post' :=
  Prog.Keeps.mono keeps weaker

/-- **Sequencing.** The rest keeps the contract from wherever the first task ends normally. -/
theorem keeps_bind (phase : C.Phase) (task : Task S ε α) (rest : α → Task S ε β)
    (post : Except ε β → C.Phase → Prop) :
    Keeps C phase (task >>= rest) post ↔ Keeps C phase task fun result phase' =>
      match result with
      | .ok value => Keeps C phase' (rest value) post
      | .error err => post (.error err) phase' := by
  refine (Prog.keeps_bind phase task.prog _ post).trans ⟨fun keeps => ?_, fun keeps => ?_⟩
  all_goals
    refine Prog.Keeps.mono keeps ?_
    rintro (err | value) phase' holds
    · exact holds
    · exact holds

/-- **`try … catch`.** The handler keeps the contract from wherever the body throws. -/
theorem keeps_attempt (phase : C.Phase) (body : Task S ε α) (handler : ε → Task S ε α)
    (post : Except ε α → C.Phase → Prop) :
    Keeps C phase (attempt body handler) post ↔ Keeps C phase body fun result phase' =>
      match result with
      | .ok value => post (.ok value) phase'
      | .error err => Keeps C phase' (handler err) post := by
  refine (Prog.keeps_bind phase body.prog _ post).trans ⟨fun keeps => ?_, fun keeps => ?_⟩
  all_goals
    refine Prog.Keeps.mono keeps ?_
    rintro (err | value) phase' holds
    · exact holds
    · exact holds

theorem keeps_settled (phase : C.Phase) (task : Task S ε α) (post : Except ε (Except ε α) → C.Phase → Prop) :
    Keeps C phase task.settled post ↔ Keeps C phase task fun result => post (.ok result) :=
  Prog.keeps_bind phase task.prog _ post

theorem keeps_run (phase : C.Phase) (task : Task S ε α) (post : Unit → C.Phase → Prop) :
    task.run.Keeps C phase post ↔ Keeps C phase task fun _ phase' => post () phase' :=
  Prog.keeps_bind phase task.prog _ post

end Task

/-! ### Tasks that compute -/

namespace Task

variable {S : Signature} {ε α β : Type} {C : Contract S} {phase : C.Phase}

/-- **A task computes a value** at a phase: under the contract it comes back to this phase, with the result of
the computation. -/
def Computes (C : Contract S) (phase : C.Phase) (task : Task S ε α) (value : Except ε α) : Prop :=
  task.Keeps C phase fun result phase' => result = value ∧ phase' = phase

theorem computes_pure (value : α) : (pure value : Task S ε α).Computes C phase (pure value) := ⟨rfl, rfl⟩

theorem computes_throw (err : ε) :
    (MonadExceptOf.throw err : Task S ε α).Computes C phase (MonadExceptOf.throw err) := ⟨rfl, rfl⟩

theorem computes_bind {task : Task S ε α} {value : Except ε α} {rest : α → Task S ε β}
    {next : α → Except ε β} (first : task.Computes C phase value)
    (second : ∀ result, (rest result).Computes C phase (next result)) :
    (task >>= rest).Computes C phase (value >>= next) := by
  refine (keeps_bind _ _ _ _).mpr (first.mono ?_)
  rintro (err | result) phase' ⟨rfl, rfl⟩
  · exact ⟨rfl, rfl⟩
  · exact second result

theorem computes_tryCatch {body : Task S ε α} {value : Except ε α} {handler : ε → Task S ε α}
    {caught : ε → Except ε α} (first : body.Computes C phase value)
    (second : ∀ err, (handler err).Computes C phase (caught err)) :
    (tryCatchThe ε body handler).Computes C phase (tryCatchThe ε value caught) := by
  refine (keeps_attempt _ _ _ _).mpr (first.mono ?_)
  rintro (err | result) phase' ⟨rfl, rfl⟩
  · exact second err
  · exact ⟨rfl, rfl⟩

theorem computes_settled {task : Task S ε α} {value : Except ε α} (computes : task.Computes C phase value) :
    task.settled.Computes C phase (.ok value) := by
  refine (keeps_settled _ _ _).mpr (Prog.Keeps.mono computes ?_)
  rintro result phase' ⟨rfl, rfl⟩
  exact ⟨rfl, rfl⟩

end Task

/-! ### The operations a task may await -/

/-- The contract that only says which operations may be awaited. -/
def Contract.asking {S : Signature} (P : S.Op → Prop) : Contract S where
  Phase := Unit
  may _ op := P op
  answers _ _ _ := True
  after _ _ _ := ()

/-- Every operation the program may await satisfies a predicate, whatever the replies are. -/
def Prog.Asks {S : Signature} {α : Type} (P : S.Op → Prop) : Prog S α → Prop
  | .done _ => True
  | .await op next => P op ∧ ∀ reply, (next reply).Asks P

theorem Prog.asks_bind {S : Signature} {α β : Type} {P : S.Op → Prop} (prog : Prog S α)
    {rest : α → Prog S β} (first : prog.Asks P) (second : ∀ value, (rest value).Asks P) :
    (prog.bind rest).Asks P := by
  induction prog with
  | done value => exact second value
  | await op next ih => exact ⟨first.1, fun reply => ih reply (first.2 reply)⟩

namespace Task

variable {S : Signature} {ε α β : Type} {P : S.Op → Prop} {C : Contract S}

/-- Every operation the task may await satisfies a predicate, whatever the replies are. -/
def Asks (P : S.Op → Prop) (task : Task S ε α) : Prop := task.prog.Asks P

theorem Asks.mono {task : Task S ε α} {P' : S.Op → Prop} (asks : task.Asks P)
    (weaker : ∀ op, P op → P' op) : task.Asks P' := by
  obtain ⟨prog⟩ := task
  change prog.Asks P at asks
  change prog.Asks P'
  induction prog with
  | done value => trivial
  | await op next ih => exact ⟨weaker op asks.1, fun reply => ih reply (asks.2 reply)⟩

theorem asks_pure (value : α) : (pure value : Task S ε α).Asks P := trivial

theorem asks_throw (err : ε) : (throw err : Task S ε α).Asks P := trivial

theorem asks_bind {task : Task S ε α} {rest : α → Task S ε β} (first : task.Asks P)
    (second : ∀ value, (rest value).Asks P) : (task >>= rest).Asks P := by
  refine Prog.asks_bind task.prog first ?_
  rintro (err | value)
  · trivial
  · exact second value

theorem asks_attempt {body : Task S ε α} {handler : ε → Task S ε α} (first : body.Asks P)
    (second : ∀ err, (handler err).Asks P) : (attempt body handler).Asks P := by
  refine Prog.asks_bind body.prog first ?_
  rintro (err | value)
  · exact second err
  · trivial

/-! ### Stable tasks -/

/-- **A stable task**: from every phase with a property it keeps the contract, and it ends in a phase
with this property. -/
def Stable (C : Contract S) (Q : C.Phase → Prop) (task : Task S ε α) : Prop :=
  ∀ phase, Q phase → task.Keeps C phase fun _ => Q

variable {Q : C.Phase → Prop}

theorem stable_pure (value : α) : (pure value : Task S ε α).Stable C Q := fun _ here => here

theorem stable_throw (err : ε) : (throw err : Task S ε α).Stable C Q := fun _ here => here

theorem stable_bind {task : Task S ε α} {rest : α → Task S ε β} (first : task.Stable C Q)
    (second : ∀ value, (rest value).Stable C Q) : (task >>= rest).Stable C Q := by
  intro phase here
  refine (keeps_bind _ _ _ _).mpr ((first phase here).mono ?_)
  rintro (err | value) phase' there
  · exact there
  · exact second value phase' there

theorem stable_attempt {body : Task S ε α} {handler : ε → Task S ε α} (first : body.Stable C Q)
    (second : ∀ err, (handler err).Stable C Q) : (attempt body handler).Stable C Q := by
  intro phase here
  refine (keeps_attempt _ _ _ _).mpr ((first phase here).mono ?_)
  rintro (err | value) phase' there
  · exact second err phase' there
  · exact there

theorem Stable.keeps_bind {phase : C.Phase} {task : Task S ε α} (stable : task.Stable C (· = phase))
    {rest : α → Task S ε β} {post : Except ε β → C.Phase → Prop}
    (next : ∀ value, (rest value).Keeps C phase post) (failed : ∀ err, post (.error err) phase) :
    (task >>= rest).Keeps C phase post := by
  refine (Task.keeps_bind _ _ _ _).mpr ((stable phase rfl).mono ?_)
  rintro (err | value) _ rfl
  · exact failed err
  · exact next value

/-- Run alone, a task keeps every reflexive and transitive relation that its operations keep. -/
theorem Asks.interpret {σ : Type} {perform : (op : S.Op) → σ → S.Reply op × σ} {R : σ → σ → Prop}
    (refl : ∀ state, R state state) (trans : ∀ {a b c}, R a b → R b c → R a c)
    (step : ∀ op state, P op → R state (perform op state).2) {task : Task S ε α} (asks : task.Asks P)
    (state : σ) : R state (task.interpret perform state).2 := by
  obtain ⟨prog⟩ := task
  change prog.Asks P at asks
  change R state (prog.interpret perform state).2
  induction prog generalizing state with
  | done value => exact refl state
  | await op next ih => exact trans (step op state asks.1) (ih _ _ (asks.2 _))

/-- **A task of idle operations is stable.** -/
theorem Asks.stable {task : Task S ε α} (asks : task.Asks P)
    (idle : ∀ phase op, Q phase → P op →
      C.may phase op ∧ ∀ reply, C.answers phase op reply → Q (C.after phase op reply)) :
    task.Stable C Q := by
  obtain ⟨prog⟩ := task
  change prog.Asks P at asks
  intro phase here
  change prog.Keeps C phase fun _ => Q
  induction prog generalizing phase with
  | done value => exact here
  | await op next ih =>
    obtain ⟨may, stays⟩ := idle phase op here asks.1
    exact ⟨may, fun reply answer => ih reply (asks.2 reply) _ (stays reply answer)⟩

theorem Stable.asks {task : Task S ε α} (stable : task.Stable (.asking P) fun _ => True) : task.Asks P := by
  obtain ⟨prog⟩ := task
  have keeps : prog.Keeps (.asking P) () fun _ _ => True := stable () trivial
  change prog.Asks P
  induction prog with
  | done value => trivial
  | await op next ih =>
    have later : ∀ reply, (⟨next reply⟩ : Task S ε α).Stable (.asking P) fun _ => True :=
      fun reply _ _ => keeps.2 reply trivial
    exact ⟨keeps.1, fun reply => ih reply (later reply) (keeps.2 reply trivial)⟩

end Task

end Async
