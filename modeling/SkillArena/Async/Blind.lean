/-
**Programs that do not see what is hidden.**

A program is blind to a part of the replies if it goes on alike whether that part is there or not. When every
program of a machine is blind, and hiding the part in the state hides it in the replies and nowhere else, two states
that differ in the hidden part only take the same moves and lead to such states again: no run tells them apart.

* `Prog.Blind` — the program does not see what `hide` takes out of a reply; along a program text it is computed by
  `blind_bind` and `blind_attempt`, and operations of which nothing is hidden are seen as they are (`Asks.blind`).
* `Veil M` — what is hidden in the states of a machine and in the replies, with every program blind to it.
* `Veil.replay_eq` — the two runs.
-/

import SkillArena.Async.Pool

namespace Async

variable {S : Signature} {α β : Type}

/-! ### Blind programs -/

section Blind

variable {hide : (op : S.Op) → S.Reply op → S.Reply op}

/-- **The program does not see what is hidden** of the replies. -/
def Prog.Blind (hide : (op : S.Op) → S.Reply op → S.Reply op) : Prog S α → Prop
  | .done _ => True
  | .await op next => ∀ reply, next (hide op reply) = next reply ∧ (next reply).Blind hide

theorem Prog.blind_bind {prog : Prog S α} {rest : α → Prog S β} (first : prog.Blind hide)
    (second : ∀ value, (rest value).Blind hide) : (prog.bind rest).Blind hide := by
  induction prog with
  | done value => exact second value
  | await op next ih =>
    intro reply
    obtain ⟨alike, later⟩ := first reply
    exact ⟨congrArg (Prog.bind · rest) alike, ih reply later⟩

namespace Task

variable {ε : Type} {P : S.Op → Prop}

/-- The task does not see what is hidden of the replies. -/
def Blind (hide : (op : S.Op) → S.Reply op → S.Reply op) (task : Task S ε α) : Prop := task.prog.Blind hide

theorem blind_pure (value : α) : (pure value : Task S ε α).Blind hide := trivial

theorem blind_bind {task : Task S ε α} {rest : α → Task S ε β} (first : task.Blind hide)
    (second : ∀ value, (rest value).Blind hide) : (task >>= rest).Blind hide := by
  refine Prog.blind_bind first ?_
  rintro (err | value)
  · trivial
  · exact second value

theorem blind_attempt {body : Task S ε α} {handler : ε → Task S ε α} (first : body.Blind hide)
    (second : ∀ err, (handler err).Blind hide) : (attempt body handler).Blind hide := by
  refine Prog.blind_bind first ?_
  rintro (err | value)
  · exact second err
  · trivial

theorem blind_run {task : Task S ε α} (blind : task.Blind hide) : task.run.Blind hide :=
  Prog.blind_bind blind fun _ => trivial

/-- A task is blind if nothing is hidden of what it asks. -/
theorem Asks.blind {task : Task S ε α} (asks : task.Asks P) (plain : ∀ op, P op → ∀ reply, hide op reply = reply) :
    task.Blind hide := by
  obtain ⟨prog⟩ := task
  change prog.Asks P at asks
  change prog.Blind hide
  induction prog with
  | done value => trivial
  | await op next ih =>
    intro reply
    exact ⟨congrArg next (plain op asks.1 reply), ih reply (asks.2 reply)⟩

end Task

end Blind

/-! ### Runs under a veil -/

variable {σ L κ ω : Type}

/-- **A veil over a machine**: what is left of a state and of a reply when a part of them is hidden. -/
structure Veil (M : Machine S σ L κ ω) where
  hide : (op : S.Op) → S.Reply op → S.Reply op
  cover : σ → σ
  performs : ∀ choice op state,
    M.perform choice op (cover state) = (M.perform choice op state).map fun (reply, state') =>
      (hide op reply, cover state')
  arrives : ∀ event state, M.arrive event (cover state) = (M.arrive event state).map cover
  acts : ∀ act state, M.outside act (cover state) = (M.outside act state).map cover
  blind : ∀ event, (M.program event).Blind hide

namespace Veil

variable {M : Machine S σ L κ ω} (V : Veil M) {c c' : Config S σ L}

/-- A configuration under the veil. -/
def config (c : Config S σ L) : Config S σ L := ⟨V.cover c.state, c.threads⟩

/-- Every program in flight is blind. -/
def Covers (c : Config S σ L) : Prop := ∀ thread ∈ c.threads, thread.2.Blind V.hide

theorem covers_move {m : Move L κ ω} (covers : V.Covers c) (moved : M.move c m = some c') : V.Covers c' := by
  rcases Machine.move_cases moved with ⟨event, state, rfl, -, rfl⟩ |
    ⟨index, choice, event, op, next, reply, state, rfl, found, -, rfl⟩ | ⟨act, state, rfl, -, rfl⟩
  · intro thread member
    rcases List.mem_append.mp member with old | new
    · exact covers thread old
    · rw [List.mem_singleton.mp new]
      exact V.blind event
  · intro thread member
    rcases List.mem_append.mp member with old | new
    · rcases List.mem_or_eq_of_mem_set old with other | rfl
      · exact covers thread other
      · exact (covers _ (List.mem_of_getElem? found) reply).2
    · obtain ⟨child, -, rfl⟩ := List.mem_map.mp new
      exact V.blind child
  · exact covers

/-- **One move under the veil** is the move, under the veil. -/
theorem move_config (covers : V.Covers c) (m : Move L κ ω) :
    M.move (V.config c) m = (M.move c m).map V.config := by
  cases m with
  | start event =>
    simp only [Machine.move, config, V.arrives]
    cases M.arrive event c.state with
    | none => rfl
    | some state => rfl
  | step index choice =>
    simp only [Machine.move, config]
    cases found : c.threads[index]? with
    | none => rfl
    | some thread =>
      obtain ⟨event, prog⟩ := thread
      cases prog with
      | done value => rfl
      | await op next =>
        simp only [V.performs]
        cases M.perform choice op c.state with
        | none => rfl
        | some outcome =>
          obtain ⟨reply, state⟩ := outcome
          have alike : next (V.hide op reply) = next reply := (covers _ (List.mem_of_getElem? found) reply).1
          simp only [Option.map_some, alike]
          rfl
  | outside act =>
    simp only [Machine.move, config, V.acts]
    cases M.outside act c.state with
    | none => rfl
    | some state => rfl

/-- A run under the veil is the run, under the veil. -/
theorem replay_config (covers : V.Covers c) (moves : List (Move L κ ω)) :
    M.replay (V.config c) moves = (M.replay c moves).map V.config := by
  induction moves generalizing c with
  | nil => rfl
  | cons m rest ih =>
    simp only [Machine.replay, V.move_config covers m]
    cases moved : M.move c m with
    | none => rfl
    | some c' => exact ih (V.covers_move covers moved)

/-- **No run tells apart two states that are the same under the veil.** -/
theorem replay_eq {state state' : σ} (same : V.cover state = V.cover state') (moves : List (Move L κ ω)) :
    (M.replay ⟨state, []⟩ moves).map V.config = (M.replay ⟨state', []⟩ moves).map V.config := by
  have idle : ∀ state, V.Covers ⟨state, []⟩ := fun _ => List.forall_mem_nil _
  rw [← V.replay_config (idle state), ← V.replay_config (idle state')]
  show M.replay ⟨V.cover state, []⟩ moves = M.replay ⟨V.cover state', []⟩ moves
  rw [same]

end Veil

end Async
