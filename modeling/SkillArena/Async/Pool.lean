/-
**Interleaving: a pool of programs over one shared state.**

A machine says what an operation does to the state, which program an event starts, which programs an
operation forks, and what may happen from outside. A configuration is the state and the pool; a move
starts a program, performs the next operation of one program, or lets the outside act. Every operation
is one move, so the programs may be preempted between any two operations.

* `Reaches M ok c c'` — a run from `c` to `c'` all of whose moves satisfy `ok`.
* `Reaches.invariant` — an invariant of the moves holds along every run; `Reaches.hindsight` lets its proof use
  what the end of the run remembers.
* `Discipline` — the proof rule used for the pools of programs: every program keeps a contract from
  the phase its event enters, and a global invariant ties the state to the phases of the pool.
  `Discipline.holds` concludes it of every configuration a run reaches.
* `Machine.replayIf` — a run computed from the list of its moves, for concrete runs.
-/

import Mathlib.Data.List.Forall2
import SkillArena.Async.Prog

namespace Async

variable {S : Signature} {σ L κ ω : Type}

/-- **A machine.** `perform` may refuse an operation (it is not enabled) and is told by `κ` how the
outcome falls where it is not determined by the state. -/
structure Machine (S : Signature) (σ L κ ω : Type) where
  perform : κ → (op : S.Op) → σ → Option (S.Reply op × σ)
  forks : S.Op → List L
  arrive : L → σ → Option σ
  program : L → Prog S Unit
  outside : ω → σ → Option σ

/-- A shared state and the programs in flight, each with the event that started it. -/
structure Config (S : Signature) (σ L : Type) where
  state : σ
  threads : List (L × Prog S Unit)

/-- **One move**: an event arrives, a program takes its next operation, or the outside acts. -/
inductive Move (L κ ω : Type) : Type
  | start (event : L)
  | step (thread : ℕ) (choice : κ)
  | outside (act : ω)

namespace Machine

/-- The thread an event starts. -/
def thread (M : Machine S σ L κ ω) (event : L) : L × Prog S Unit := (event, M.program event)

/-- The configuration after a move, if the move is enabled. -/
def move (M : Machine S σ L κ ω) (c : Config S σ L) : Move L κ ω → Option (Config S σ L)
  | .start event =>
    match M.arrive event c.state with
    | some state => some ⟨state, c.threads ++ [M.thread event]⟩
    | none => none
  | .step index choice =>
    match c.threads[index]? with
    | some (event, .await op next) =>
      match M.perform choice op c.state with
      | some (reply, state) =>
        some ⟨state, c.threads.set index (event, next reply) ++ (M.forks op).map M.thread⟩
      | none => none
    | _ => none
  | .outside act =>
    match M.outside act c.state with
    | some state => some { c with state := state }
    | none => none

/-- What a move can do. -/
theorem move_cases {M : Machine S σ L κ ω} {c c' : Config S σ L} {m : Move L κ ω}
    (moved : M.move c m = some c') :
    (∃ event state, m = .start event ∧ M.arrive event c.state = some state ∧
      c' = ⟨state, c.threads ++ [M.thread event]⟩) ∨
    (∃ index choice event op next reply state, m = .step index choice ∧
      c.threads[index]? = some (event, .await op next) ∧
      M.perform choice op c.state = some (reply, state) ∧
      c' = ⟨state, c.threads.set index (event, next reply) ++ (M.forks op).map M.thread⟩) ∨
    (∃ act state, m = .outside act ∧ M.outside act c.state = some state ∧
      c' = { c with state := state }) := by
  cases m with
  | start event =>
    left
    simp only [move] at moved
    split at moved
    · rename_i state arrived
      cases moved
      exact ⟨event, state, rfl, arrived, rfl⟩
    · cases moved
  | step index choice =>
    right; left
    simp only [move] at moved
    split at moved
    · rename_i event op next found
      split at moved
      · rename_i reply state performed
        cases moved
        exact ⟨index, choice, event, op, next, reply, state, rfl, found, performed, rfl⟩
      · cases moved
    · cases moved
  | outside act =>
    right; right
    simp only [move] at moved
    split at moved
    · rename_i state acted
      cases moved
      exact ⟨act, state, rfl, acted, rfl⟩
    · cases moved

theorem move_step {M : Machine S σ L κ ω} {c : Config S σ L} {index : ℕ} {choice : κ} {event : L} {op : S.Op}
    {next : S.Reply op → Prog S Unit} {reply : S.Reply op} {state : σ}
    (found : c.threads[index]? = some (event, .await op next))
    (performed : M.perform choice op c.state = some (reply, state)) : M.move c (.step index choice) =
      some ⟨state, c.threads.set index (event, next reply) ++ (M.forks op).map M.thread⟩ := by
  simp only [move, found, performed]

theorem move_outside {M : Machine S σ L κ ω} {c : Config S σ L} {act : ω} {state : σ}
    (acted : M.outside act c.state = some state) : M.move c (.outside act) = some { c with state := state } := by
  simp only [move, acted]

end Machine

/-! ### Runs -/

/-- **Runs** all of whose moves are allowed where they are made. -/
inductive Reaches (M : Machine S σ L κ ω) (ok : Config S σ L → Move L κ ω → Prop)
    (start : Config S σ L) : Config S σ L → Prop
  | refl : Reaches M ok start start
  | move {c c' : Config S σ L} {m : Move L κ ω} :
      Reaches M ok start c → ok c m → M.move c m = some c' → Reaches M ok start c'

namespace Reaches

variable {M : Machine S σ L κ ω} {ok ok' : Config S σ L → Move L κ ω → Prop}
  {c₀ c₁ c : Config S σ L}

/-- **An invariant of the allowed moves holds along every run.** -/
theorem invariant (I : Config S σ L → Prop) (initial : I c₀)
    (moves : ∀ c m c', I c → ok c m → M.move c m = some c' → I c') (run : Reaches M ok c₀ c) :
    I c := by
  induction run with
  | refl => exact initial
  | move _ allowed moved ih => exact moves _ _ _ ih allowed moved

theorem trans (first : Reaches M ok c₀ c₁) (second : Reaches M ok c₁ c) : Reaches M ok c₀ c := by
  induction second with
  | refl => exact first
  | move _ allowed moved ih => exact .move ih allowed moved

theorem mono (weaker : ∀ c m, ok c m → ok' c m) (run : Reaches M ok c₀ c) : Reaches M ok' c₀ c := by
  induction run with
  | refl => exact .refl
  | move _ allowed moved ih => exact .move ih (weaker _ _ allowed) moved

/-- **Hindsight**: every move of a run is made on the way to where the run ends. What the end remembers of every
configuration on the way may then be used while the run goes on. -/
theorem hindsight (run : Reaches M ok c₀ c) :
    Reaches M (fun c₁ m => ok c₁ m ∧ ∀ c₂, M.move c₁ m = some c₂ → Reaches M ok c₂ c) c₀ c := by
  induction run with
  | refl => exact .refl
  | @move c₁ c₂ m _ allowed moved ih =>
    refine .move (ih.mono fun c₃ m' before => ⟨before.1, fun c₄ next => ?_⟩) ⟨allowed, fun c₃ next => ?_⟩ moved
    · exact .move (before.2 c₄ next) allowed moved
    · rw [moved] at next
      cases next
      exact .refl

end Reaches

namespace Machine

/-- A run computed from the list of its moves. -/
def replay (M : Machine S σ L κ ω) (c : Config S σ L) : List (Move L κ ω) → Option (Config S σ L)
  | [] => some c
  | m :: rest => (M.move c m).bind fun c' => M.replay c' rest

theorem replay_start {M : Machine S σ L κ ω} {event : L} {state state' : σ}
    (arrived : M.arrive event state = some state') (rest : List (Move L κ ω)) :
    M.replay ⟨state, []⟩ (.start event :: rest) = M.replay ⟨state', [M.thread event]⟩ rest := by
  simp only [replay, move, arrived, Option.bind_some, List.nil_append]

theorem replay_step {M : Machine S σ L κ ω} {event : L} {op : S.Op} {next : S.Reply op → Prog S Unit}
    {state state' : σ} {choice : κ} {reply : S.Reply op}
    (performed : M.perform choice op state = some (reply, state')) (alone : M.forks op = [])
    (rest : List (Move L κ ω)) : M.replay ⟨state, [(event, .await op next)]⟩ (.step 0 choice :: rest) =
      M.replay ⟨state', [(event, next reply)]⟩ rest := by
  simp only [replay, move, List.getElem?_cons_zero, performed, alone, Option.bind_some, List.set_cons_zero,
    List.map_nil, List.append_nil]

/-- A replay that stops where a move fails its test. -/
def replayIf (M : Machine S σ L κ ω) (test : Config S σ L → Move L κ ω → Bool) (c : Config S σ L) :
    List (Move L κ ω) → Option (Config S σ L)
  | [] => some c
  | m :: rest =>
    if test c m then
      match M.move c m with
      | some c' => M.replayIf test c' rest
      | none => none
    else none

/-- **A tested replay is a run.** -/
theorem reaches_replayIf {M : Machine S σ L κ ω} {test : Config S σ L → Move L κ ω → Bool}
    {c₀ c : Config S σ L} {moves : List (Move L κ ω)}
    (replayed : M.replayIf test c₀ moves = some c) :
    Reaches M (fun c m => test c m = true) c₀ c := by
  induction moves generalizing c₀ with
  | nil =>
    cases replayed
    exact .refl
  | cons m rest ih =>
    simp only [replayIf] at replayed
    split at replayed
    · rename_i passed
      split at replayed
      · rename_i c₁ moved
        exact (Reaches.move .refl passed moved).trans (ih replayed)
      · cases replayed
    · cases replayed

/-- A concrete run exists once its replay passes a check of the configuration it ends in. -/
theorem exists_run (M : Machine S σ L κ ω) (test : Config S σ L → Move L κ ω → Bool)
    (c₀ : Config S σ L) (moves : List (Move L κ ω)) (check : Config S σ L → Bool)
    (checked : (M.replayIf test c₀ moves).any check = true) :
    ∃ c, Reaches M (fun c m => test c m = true) c₀ c ∧ check c = true := by
  cases replayed : M.replayIf test c₀ moves with
  | none =>
    rw [replayed] at checked
    cases checked
  | some c =>
    rw [replayed] at checked
    exact ⟨c, reaches_replayIf replayed, checked⟩

/-- A concrete run in two parts, with a check after each. -/
theorem exists_run_then (M : Machine S σ L κ ω) (test : Config S σ L → Move L κ ω → Bool)
    (c₀ : Config S σ L) (moves later : List (Move L κ ω)) (check last : Config S σ L → Bool)
    (checked : (M.replayIf test c₀ moves).any
      (fun c₁ => check c₁ && (M.replayIf test c₁ later).any last) = true) :
    ∃ c₁ c, Reaches M (fun c m => test c m = true) c₀ c₁ ∧ check c₁ = true ∧
      Reaches M (fun c m => test c m = true) c₁ c ∧ last c = true := by
  obtain ⟨c₁, run, both⟩ := exists_run M test c₀ moves _ checked
  obtain ⟨between, rest⟩ := Bool.and_eq_true_iff.mp both
  obtain ⟨c, run', ended⟩ := exists_run M test c₁ later _ rest
  exact ⟨c₁, c, run, between, run', ended⟩

end Machine

/-! ### Disciplines: contracts of a whole pool -/

/-- Every thread of the pool keeps the contract from its phase on. -/
def Tracks (C : Contract S) (finished : C.Phase → Prop) (c : Config S σ L)
    (phases : List (L × C.Phase)) : Prop :=
  List.Forall₂ (fun thread phase => thread.1 = phase.1 ∧
    thread.2.Keeps C phase.2 fun _ => finished) c.threads phases

/-- **A discipline**: the phase each event enters, and an invariant of the state and the phases that
every allowed move keeps. -/
structure Discipline (M : Machine S σ L κ ω) (ok : Config S σ L → Move L κ ω → Prop)
    (C : Contract S) where
  enter : L → C.Phase
  finished : C.Phase → Prop
  Inv : σ → List (L × C.Phase) → Prop
  keeps : ∀ c event, ok c (.start event) → (M.program event).Keeps C (enter event) fun _ => finished
  start : ∀ c phases event state, Tracks C finished c phases → Inv c.state phases →
    ok c (.start event) → M.arrive event c.state = some state →
      Inv state (phases ++ [(event, enter event)])
  step : ∀ c phases index choice event op next phase reply state, Tracks C finished c phases →
    Inv c.state phases → ok c (.step index choice) →
    c.threads[index]? = some (event, .await op next) → phases[index]? = some (event, phase) →
    C.may phase op → M.perform choice op c.state = some (reply, state) →
      C.answers phase op reply ∧
      (∀ child ∈ M.forks op, (M.program child).Keeps C (enter child) fun _ => finished) ∧
      Inv state (phases.set index (event, C.after phase op reply) ++
        (M.forks op).map fun child => (child, enter child))
  outside : ∀ c phases act state, Tracks C finished c phases → Inv c.state phases →
    ok c (.outside act) → M.outside act c.state = some state → Inv state phases

namespace Tracks

variable {C : Contract S} {finished : C.Phase → Prop} {c : Config S σ L}
  {phases : List (L × C.Phase)}

theorem length_eq (tracks : Tracks C finished c phases) : c.threads.length = phases.length :=
  List.Forall₂.length_eq tracks

theorem get {index : ℕ} {event : L} {prog : Prog S Unit} (tracks : Tracks C finished c phases)
    (found : c.threads[index]? = some (event, prog)) :
    ∃ phase, phases[index]? = some (event, phase) ∧ prog.Keeps C phase fun _ => finished := by
  unfold Tracks at tracks
  rw [List.forall₂_iff_get] at tracks
  obtain ⟨sameLength, each⟩ := tracks
  obtain ⟨inside, found⟩ := List.getElem?_eq_some_iff.mp found
  have here := each index inside (sameLength ▸ inside)
  simp only [List.get_eq_getElem, found] at here
  refine ⟨phases[index].2, ?_, here.2⟩
  rw [List.getElem?_eq_some_iff]
  exact ⟨sameLength ▸ inside, Prod.ext here.1.symm rfl⟩

theorem get_of_phase {index : ℕ} {event : L} {phase : C.Phase} (tracks : Tracks C finished c phases)
    (found : phases[index]? = some (event, phase)) :
    ∃ prog, c.threads[index]? = some (event, prog) ∧ prog.Keeps C phase fun _ => finished := by
  obtain ⟨inside, found⟩ := List.getElem?_eq_some_iff.mp found
  have inside' : index < c.threads.length := tracks.length_eq ▸ inside
  have thread : c.threads[index]? = some (c.threads[index].1, c.threads[index].2) :=
    List.getElem?_eq_getElem inside'
  obtain ⟨phase', here, keeps⟩ := tracks.get thread
  rw [List.getElem?_eq_getElem inside, found] at here
  cases here
  exact ⟨_, thread, keeps⟩

end Tracks

theorem forall₂_set {α β : Type} {R : α → β → Prop} {xs : List α} {ys : List β}
    (related : List.Forall₂ R xs ys) {index : ℕ} {x : α} {y : β} (new : R x y) :
    List.Forall₂ R (xs.set index x) (ys.set index y) := by
  induction related generalizing index with
  | nil => exact .nil
  | cons here _ ih =>
    cases index with
    | zero => exact .cons new ‹_›
    | succ index => exact .cons here ih

theorem countP_set {α : Type} {p : α → Bool} {xs : List α} {index : ℕ} {x : α}
    (found : xs[index]? = some x) (y : α) :
    (xs.set index y).countP p + (if p x then 1 else 0) = xs.countP p + (if p y then 1 else 0) := by
  induction xs generalizing index with
  | nil => cases found
  | cons z zs ih =>
    cases index with
    | zero =>
      cases found
      simp only [List.set_cons_zero, List.countP_cons]
      omega
    | succ index =>
      have here : zs[index]? = some x := by simpa using found
      have rest := ih here
      simp only [List.set_cons_succ, List.countP_cons]
      omega

theorem mem_set_of_found {α : Type} {xs : List α} {index : ℕ} {x : α} (found : xs[index]? = some x) (y : α) :
    y ∈ xs.set index y :=
  List.mem_of_getElem? (List.getElem?_set_self (List.getElem?_eq_some_iff.mp found).1)

theorem exists_mem_set {α : Type} {p : α → Prop} {xs : List α} {index : ℕ} {x y : α} (found : xs[index]? = some x)
    (some_ : ∃ z ∈ xs, p z) (kept : p x → p y) : ∃ z ∈ xs.set index y, p z := by
  obtain ⟨z, member, holds⟩ := some_
  obtain ⟨index', here⟩ := List.getElem?_of_mem member
  by_cases same : index' = index
  · subst same
    cases found.symm.trans here
    exact ⟨y, mem_set_of_found found y, kept holds⟩
  · exact ⟨z, List.mem_of_getElem? ((List.getElem?_set_ne (Ne.symm same)).trans here), holds⟩

theorem flatMap_set {α β : Type} (f : α → List β) {xs : List α} {index : ℕ} {x : α}
    (found : xs[index]? = some x) :
    ∃ others, (xs.flatMap f).Perm (f x ++ others) ∧
      ∀ y, ((xs.set index y).flatMap f).Perm (f y ++ others) := by
  induction xs generalizing index with
  | nil => cases found
  | cons z zs ih =>
    cases index with
    | zero =>
      cases found
      exact ⟨zs.flatMap f, .refl _, fun _ => .refl _⟩
    | succ index =>
      have here : zs[index]? = some x := by simpa using found
      obtain ⟨others, before, after⟩ := ih here
      have swap : ∀ first : List β, (f z ++ (first ++ others)).Perm (first ++ (f z ++ others)) := by
        intro first
        rw [← List.append_assoc, ← List.append_assoc]
        exact List.perm_append_comm.append_right others
      exact ⟨f z ++ others, (before.append_left _).trans (swap _), fun y =>
        ((after y).append_left _).trans (swap _)⟩

/-- **A discipline holds of every configuration a run reaches.** -/
theorem Discipline.holds {M : Machine S σ L κ ω} {ok : Config S σ L → Move L κ ω → Prop}
    {C : Contract S} (D : Discipline M ok C) {c₀ c : Config S σ L}
    (initial : ∃ phases, Tracks C D.finished c₀ phases ∧ D.Inv c₀.state phases)
    (run : Reaches M ok c₀ c) :
    ∃ phases, Tracks C D.finished c phases ∧ D.Inv c.state phases := by
  refine run.invariant (fun c => ∃ phases, Tracks C D.finished c phases ∧ D.Inv c.state phases) initial ?_
  rintro c m c' ⟨phases, tracks, inv⟩ allowed moved
  rcases Machine.move_cases moved with ⟨event, state, rfl, arrived, rfl⟩ |
    ⟨index, choice, event, op, next, reply, state, rfl, found, performed, rfl⟩ |
    ⟨act, state, rfl, acted, rfl⟩
  · refine ⟨phases ++ [(event, D.enter event)], ?_, D.start c phases event state tracks inv allowed arrived⟩
    exact List.rel_append tracks (.cons ⟨rfl, D.keeps c event allowed⟩ .nil)
  · obtain ⟨phase, inPhase, keeps⟩ := tracks.get found
    obtain ⟨answers, children, kept⟩ := D.step c phases index choice event op next phase reply state
      tracks inv allowed found inPhase keeps.1 performed
    refine ⟨_, List.rel_append (forall₂_set tracks ⟨rfl, keeps.2 reply answers⟩) ?_, kept⟩
    rw [List.forall₂_map_left_iff, List.forall₂_map_right_iff]
    exact List.forall₂_same.mpr fun child member => ⟨rfl, children child member⟩
  · exact ⟨phases, tracks, D.outside c phases act state tracks inv allowed acted⟩

/-- Whatever a reached configuration is about to do is allowed by the contract. -/
theorem Discipline.may_next {M : Machine S σ L κ ω} {ok : Config S σ L → Move L κ ω → Prop}
    {C : Contract S} (D : Discipline M ok C) {c₀ c : Config S σ L}
    (initial : ∃ phases, Tracks C D.finished c₀ phases ∧ D.Inv c₀.state phases)
    (run : Reaches M ok c₀ c) {index : ℕ} {event : L} {op : S.Op} {next : S.Reply op → Prog S Unit}
    (found : c.threads[index]? = some (event, .await op next)) : ∃ phase, C.may phase op := by
  obtain ⟨phases, tracks, _⟩ := D.holds initial run
  obtain ⟨phase, _, keeps⟩ := tracks.get found
  exact ⟨phase, keeps.1⟩

theorem tracks_nil {C : Contract S} {finished : C.Phase → Prop} {c : Config S σ L}
    (idle : c.threads = []) : Tracks C finished c [] := by
  unfold Tracks
  rw [idle]
  exact .nil

end Async
