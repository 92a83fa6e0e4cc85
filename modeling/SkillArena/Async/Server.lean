/-
**A program by itself, whatever it is answered.**

A server says which replies an operation may get in a state, and which state each of them leaves. A program run by
itself awaits one operation after the other, and nothing happens in between.

* `Prog.Ensures` — **total correctness**: every operation is answered, and whatever the answers are, the program
  ends as the postcondition says. It is computed along the program text by `ensures_bind` and `ensures_attempt`.
* `Task.Asks.ensures` — the frame rule: what all operations of a task keep, the task keeps.
* `Machine.serving` — the server of a machine, with some of its choices. What a program ensures holds at the end of
  every run of the machine in which only this program moves (`Task.Ensures.reaches`).
-/

import SkillArena.Async.Pool

namespace Async

variable {S : Signature} {σ L κ ω ε α β : Type}

/-- **A server**: the replies an operation may get in a state, each with the state it leaves. -/
abbrev Server (S : Signature) (σ : Type) : Type := (op : S.Op) → σ → S.Reply op → σ → Prop

/-- The server of a machine that makes only some choices. -/
def Machine.serving (M : Machine S σ L κ ω) (allowed : κ → S.Op → σ → Prop) : Server S σ :=
  fun op state reply state' => ∃ choice, allowed choice op state ∧ M.perform choice op state = some (reply, state')

variable {server : Server S σ}

namespace Prog

/-- **Every run of the program by itself ends**, and ends as the postcondition says. -/
def Ensures (server : Server S σ) : Prog S α → σ → (α → σ → Prop) → Prop
  | done value, state, post => post value state
  | await op next, state, post =>
    (∃ reply state', server op state reply state') ∧
      ∀ reply state', server op state reply state' → Ensures server (next reply) state' post

theorem ensures_bind (prog : Prog S α) (rest : α → Prog S β) (state : σ) (post : β → σ → Prop) :
    Ensures server (prog.bind rest) state post ↔
      Ensures server prog state fun value state' => Ensures server (rest value) state' post := by
  induction prog generalizing state with
  | done value => exact Iff.rfl
  | await op next ih =>
    exact and_congr_right fun _ => forall_congr' fun reply => forall_congr' fun state' =>
      imp_congr_right fun _ => ih reply state'

theorem Ensures.mono {prog : Prog S α} {state : σ} {post post' : α → σ → Prop}
    (ensures : Ensures server prog state post) (weaker : ∀ value state', post value state' → post' value state') :
    Ensures server prog state post' := by
  induction prog generalizing state with
  | done value => exact weaker _ _ ensures
  | await op next ih => exact ⟨ensures.1, fun reply state' answers => ih reply (ensures.2 reply state' answers)⟩

theorem Ensures.both {prog : Prog S α} {state : σ} {post post' : α → σ → Prop}
    (first : Ensures server prog state post) (second : Ensures server prog state post') :
    Ensures server prog state fun value state' => post value state' ∧ post' value state' := by
  induction prog generalizing state with
  | done value => exact ⟨first, second⟩
  | await op next ih =>
    exact ⟨first.1, fun reply state' answers =>
      ih reply (first.2 reply state' answers) (second.2 reply state' answers)⟩

theorem Ensures.exists_end {prog : Prog S α} {state : σ} {post : α → σ → Prop}
    (ensures : Ensures server prog state post) : ∃ value state', post value state' := by
  induction prog generalizing state with
  | done value => exact ⟨value, state, ensures⟩
  | await op next ih =>
    obtain ⟨reply, state', answers⟩ := ensures.1
    exact ih reply (ensures.2 reply state' answers)

end Prog

namespace Task

/-- Every run of the task by itself ends as the postcondition says; it sees the exception. -/
def Ensures (server : Server S σ) (task : Task S ε α) (state : σ) (post : Except ε α → σ → Prop) : Prop :=
  task.prog.Ensures server state post

@[simp] theorem ensures_pure (value : α) (state : σ) (post : Except ε α → σ → Prop) :
    Ensures server (pure value : Task S ε α) state post ↔ post (.ok value) state := Iff.rfl

@[simp] theorem ensures_throw (err : ε) (state : σ) (post : Except ε α → σ → Prop) :
    Ensures server (throw err : Task S ε α) state post ↔ post (.error err) state := Iff.rfl

theorem Ensures.mono {task : Task S ε α} {state : σ} {post post' : Except ε α → σ → Prop}
    (ensures : Ensures server task state post) (weaker : ∀ value state', post value state' → post' value state') :
    Ensures server task state post' :=
  Prog.Ensures.mono ensures weaker

theorem Ensures.both {task : Task S ε α} {state : σ} {post post' : Except ε α → σ → Prop}
    (first : Ensures server task state post) (second : Ensures server task state post') :
    Ensures server task state fun value state' => post value state' ∧ post' value state' :=
  Prog.Ensures.both first second

/-- A task by itself does end. -/
theorem Ensures.exists_end {task : Task S ε α} {state : σ} {post : Except ε α → σ → Prop}
    (ensures : Ensures server task state post) : ∃ result state', post result state' :=
  Prog.Ensures.exists_end ensures

/-- **Sequencing**: the rest runs from wherever the first task ends normally. -/
theorem ensures_bind (task : Task S ε α) (rest : α → Task S ε β) (state : σ) (post : Except ε β → σ → Prop) :
    Ensures server (task >>= rest) state post ↔ Ensures server task state fun result state' =>
      match result with
      | .ok value => Ensures server (rest value) state' post
      | .error err => post (.error err) state' := by
  refine (Prog.ensures_bind task.prog _ state post).trans ⟨fun ensures => ?_, fun ensures => ?_⟩
  all_goals
    refine Prog.Ensures.mono ensures ?_
    rintro (err | value) state' holds
    · exact holds
    · exact holds

/-- **`try … catch`**: the handler runs from wherever the body throws. -/
theorem ensures_attempt (body : Task S ε α) (handler : ε → Task S ε α) (state : σ)
    (post : Except ε α → σ → Prop) :
    Ensures server (attempt body handler) state post ↔ Ensures server body state fun result state' =>
      match result with
      | .ok value => post (.ok value) state'
      | .error err => Ensures server (handler err) state' post := by
  refine (Prog.ensures_bind body.prog _ state post).trans ⟨fun ensures => ?_, fun ensures => ?_⟩
  all_goals
    refine Prog.Ensures.mono ensures ?_
    rintro (err | value) state' holds
    · exact holds
    · exact holds

/-- **The frame rule**: a task keeps every reflexive and transitive relation that its operations keep. -/
theorem Asks.ensures {P : S.Op → Prop} {R : σ → σ → Prop} (refl : ∀ state, R state state)
    (trans : ∀ {a b c}, R a b → R b c → R a c)
    (step : ∀ op state, P op → (∃ reply state', server op state reply state') ∧
      ∀ reply state', server op state reply state' → R state state')
    {task : Task S ε α} (asks : task.Asks P) (state : σ) :
    task.Ensures server state fun _ state' => R state state' := by
  obtain ⟨prog⟩ := task
  change prog.Asks P at asks
  change prog.Ensures server state fun _ state' => R state state'
  induction prog generalizing state with
  | done value => exact refl state
  | await op next ih =>
    obtain ⟨answered, keeps⟩ := step op state asks.1
    refine ⟨answered, fun reply state' answers => ?_⟩
    exact (ih reply state' (asks.2 reply)).mono fun _ _ after => trans (keeps reply state' answers) after

end Task

/-! ### The runs of a machine -/

/-- Only the thread at an index moves, and its choices are allowed. -/
def onlyThread (allowed : κ → S.Op → σ → Prop) (index : ℕ) (c : Config S σ L) : Move L κ ω → Prop
  | .step moving choice => moving = index ∧
      ∀ event op next, c.threads[index]? = some (event, .await op next) → allowed choice op c.state
  | _ => False

def stepsOnly (index : ℕ) : Move L κ ω → Bool
  | .step moving _ => moving = index
  | _ => false

theorem Reaches.onlyThread {M : Machine S σ L κ ω} {index : ℕ} {c c' : Config S σ L}
    (run : Reaches M (fun _ m => stepsOnly index m = true) c c') :
    Reaches M (onlyThread (fun _ _ _ => True) index) c c' := by
  refine run.mono fun c m only => ?_
  cases m with
  | start event => cases only
  | step moving choice => exact ⟨of_decide_eq_true only, fun _ _ _ _ => trivial⟩
  | outside act => cases only

theorem Prog.Ensures.reaches {M : Machine S σ L κ ω} {allowed : κ → S.Op → σ → Prop} {index : ℕ} {event : L}
    {prog : Prog S Unit} {c c' : Config S σ L} {post : Unit → σ → Prop}
    (ensures : prog.Ensures (M.serving allowed) c.state post) (found : c.threads[index]? = some (event, prog))
    (run : Reaches M (onlyThread allowed index) c c') :
    ∃ prog', c'.threads[index]? = some (event, prog') ∧ prog'.Ensures (M.serving allowed) c'.state post := by
  induction run with
  | refl => exact ⟨prog, found, ensures⟩
  | @move c₁ c₂ m _ only moved ih =>
    obtain ⟨prog₁, found₁, ensures₁⟩ := ih
    rcases Machine.move_cases moved with ⟨_, _, rfl, _⟩ | ⟨i, choice, event', op, next, reply, state, rfl, here,
      performed, rfl⟩ | ⟨_, _, rfl, _⟩
    · exact absurd only id
    · obtain ⟨rfl, may⟩ := only
      cases found₁.symm.trans here
      have inside : i < c₁.threads.length := (List.getElem?_eq_some_iff.mp here).1
      refine ⟨next reply, ?_, ensures₁.2 reply state ⟨choice, may _ _ _ here, performed⟩⟩
      rw [List.getElem?_append_left (by rwa [List.length_set]), List.getElem?_set_self inside]
    · exact absurd only id

def Config.ended (c : Config S σ L) (index : ℕ) : Bool :=
  match c.threads[index]? with
  | some (_, .done _) => true
  | _ => false

/-- **What a task ensures holds once it has ended**, in every run in which only this task moves. -/
theorem Task.Ensures.reaches {M : Machine S σ L κ ω} {allowed : κ → S.Op → σ → Prop} {index : ℕ} {event : L}
    {task : Task S ε α} {state : σ} {c c' : Config S σ L} {post : Except ε α → σ → Prop}
    (ensures : task.Ensures (M.serving allowed) state post) (run : Reaches M (onlyThread allowed index) c c')
    (ended : c'.ended index = true) (here : c.state = state)
    (found : c.threads[index]? = some (event, task.run)) : ∃ result, post result c'.state := by
  subst here
  have whole : task.run.Ensures (M.serving allowed) c.state fun _ state => ∃ result, post result state :=
    (Prog.ensures_bind _ _ _ _).mpr (Prog.Ensures.mono ensures fun result _ holds => ⟨result, holds⟩)
  obtain ⟨prog, left, last⟩ := Prog.Ensures.reaches whole found run
  unfold Config.ended at ended
  rw [left] at ended
  cases prog with
  | done value => exact last
  | await op next => cases ended

end Async
