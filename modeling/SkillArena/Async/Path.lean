/-
**Programs that are under way.**

A program that has asked some operations and been answered is at the end of a path through its tree. The state the
operations act on may be changed by others meanwhile; what matters is that the answers it was given still fit.

* `Responder` — what an operation does to a state, and which answers fit the state it is asked in.
* `Prog.Path` — the operations that were asked lead from a program to the rest of it; `Path.snoc` is one more
  operation, `Path.transfer` moves a path to another state in which the same answers fit.
* `Task.Ends` — a path of a task to its value; `ends_bind` and `ends_query` take it apart.
* `Prog.Aborts` — a program that throws as soon as an operation fails.
-/

import SkillArena.Async.Prog

namespace Async

variable {S : Signature} {σ ε α β : Type}

/-- What the operations do, and the answers that fit. -/
structure Responder (S : Signature) (σ : Type) where
  effect : S.Op → σ → σ
  answers : (op : S.Op) → σ → S.Reply op → Prop

/-- The state after some operations. -/
def Responder.run (R : Responder S σ) (asked : List S.Op) (state : σ) : σ :=
  asked.foldl (fun state op => R.effect op state) state

variable {R : Responder S σ} {asked : List S.Op} {state state' : σ}

namespace Prog

/-- **A path**: the operations are asked one after the other, each is given an answer that fits, and what is left
of the program is `rest`. -/
def Path (R : Responder S σ) : Prog S α → List S.Op → σ → Prog S α → Prop
  | prog, [], _, rest => prog = rest
  | prog, op :: asked, state, rest =>
    ∃ next reply, prog = .await op next ∧ R.answers op state reply ∧
      Path R (next reply) asked (R.effect op state) rest

theorem Path.snoc {prog : Prog S α} {op : S.Op} {next : S.Reply op → Prog S α} {reply : S.Reply op}
    (path : prog.Path R asked state (.await op next)) (answered : R.answers op (R.run asked state) reply) :
    prog.Path R (asked ++ [op]) state (next reply) := by
  induction asked generalizing prog state with
  | nil =>
    cases path
    exact ⟨next, reply, rfl, answered, rfl⟩
  | cons first asked ih =>
    obtain ⟨next', reply', rfl, fits, path⟩ := path
    exact ⟨next', reply', rfl, fits, ih path answered⟩

/-- **The same answers in another state.** -/
theorem Path.transfer {prog rest : Prog S α} {rel : σ → σ → Prop}
    (steps : ∀ op ∈ asked, ∀ state state', rel state state' → rel (R.effect op state) (R.effect op state') ∧
      ∀ reply, R.answers op state reply → R.answers op state' reply)
    (related : rel state state') (path : prog.Path R asked state rest) : prog.Path R asked state' rest := by
  induction asked generalizing prog state state' with
  | nil => exact path
  | cons op asked ih =>
    obtain ⟨next, reply, rfl, fits, path⟩ := path
    obtain ⟨related', kept⟩ := steps op (.head _) _ _ related
    exact ⟨next, reply, rfl, kept reply fits, ih (fun op member => steps op (.tail _ member)) related' path⟩

/-- A program that throws as soon as an operation fails. -/
def Aborts (failed : (op : S.Op) → S.Reply op → Prop) : Prog S (Except ε α) → Prop
  | .done _ => True
  | .await op next =>
    (∀ reply, failed op reply → ∃ err, next reply = .done (.error err)) ∧ ∀ reply, (next reply).Aborts failed

end Prog

namespace Task

/-- **A task runs to its value**: the operations it asks, and the state after them. -/
def Ends (R : Responder S σ) (task : Task S ε α) (asked : List S.Op) (state : σ) (value : α) (state' : σ) : Prop :=
  task.prog.Path R asked state (.done (.ok value)) ∧ R.run asked state = state'

variable {value : α}

theorem not_ends_throw {err : ε} : ¬ (throw err : Task S ε α).Ends R asked state value state' := by
  rintro ⟨path, _⟩
  cases asked with
  | nil => cases path
  | cons op asked =>
    obtain ⟨_, _, same, _⟩ := path
    cases same

theorem ends_pure {result : α} (ends : (pure result : Task S ε α).Ends R asked state value state') :
    asked = [] ∧ value = result ∧ state' = state := by
  obtain ⟨path, rfl⟩ := ends
  cases asked with
  | nil =>
    cases path
    exact ⟨rfl, rfl, rfl⟩
  | cons op asked =>
    obtain ⟨_, _, same, _⟩ := path
    cases same

/-- **Sequencing**: a sequence runs to its value through the value of its first part. -/
theorem ends_bind {task : Task S ε α} {rest : α → Task S ε β} {value : β}
    (ends : (task >>= rest).Ends R asked state value state') :
    ∃ first before after between, asked = before ++ after ∧ task.Ends R before state first between ∧
      (rest first).Ends R after between value state' := by
  obtain ⟨prog⟩ := task
  obtain ⟨path, rfl⟩ := ends
  change (prog.bind _).Path R asked state _ at path
  induction prog generalizing asked state with
  | done result =>
    cases result with
    | error err => exact (not_ends_throw ⟨path, rfl⟩).elim
    | ok first => exact ⟨first, [], asked, state, rfl, ⟨rfl, rfl⟩, path, rfl⟩
  | await op next ih =>
    cases asked with
    | nil => cases path
    | cons op' asked =>
      obtain ⟨next', reply, same, fits, path⟩ := path
      cases same
      obtain ⟨first, before, after, between, rfl, ⟨path₁, rfl⟩, path₂, ended⟩ := ih reply path
      exact ⟨first, op :: before, after, _, rfl, ⟨⟨next, reply, rfl, fits, path₁⟩, rfl⟩, path₂, ended⟩

theorem aborts_bind {failed : (op : S.Op) → S.Reply op → Prop} {task : Task S ε α} {rest : α → Task S ε β}
    (first : task.prog.Aborts failed) (later : ∀ value, (rest value).prog.Aborts failed) :
    (task >>= rest).prog.Aborts failed := by
  obtain ⟨prog⟩ := task
  change (prog.bind _).Aborts failed
  induction prog with
  | done result =>
    cases result with
    | error err => exact trivial
    | ok value => exact later value
  | await op next ih =>
    refine ⟨fun reply fails => ?_, fun reply => ih reply (first.2 reply)⟩
    obtain ⟨err, ended⟩ := first.1 reply fails
    refine ⟨err, ?_⟩
    show (next reply).bind _ = _
    rw [ended]
    rfl

end Task

end Async
