/-
**Runs with an observer.**

An observer follows a run and changes nothing. It knows of every thread the phase of a contract the
thread is in, and keeps notes of its own. Conditions on a run and statements about its past can then
speak of what the threads hold and of what has happened.

* `Machine.watch` — one move, with its observer.
* `reaches_of_watches`, `Reaches.watches` — the observed runs are the runs.
* `Vigil` — the proof rule: every program keeps the contract, and an invariant of the state, the notes
  and the phases is kept by every allowed move. `Vigil.holds` concludes it of every observed run,
  `Vigil.holds_from` of every run from where it holds.
-/

import SkillArena.Async.Pool

namespace Async

variable {S : Signature} {C : Contract S} {σ L κ ω γ : Type}

/-- **An observer**: the phase an event enters, and what the notes become when an event arrives and
when an operation of a thread is answered. -/
structure Observer (C : Contract S) (σ L γ : Type) where
  enter : L → C.Phase
  starts : L → σ → γ → γ
  sees : C.Phase → (op : S.Op) → S.Reply op → σ → γ → γ

/-- A thread with its phase. -/
structure Followed (C : Contract S) (L : Type) where
  event : L
  phase : C.Phase
  prog : Prog S Unit

/-- A configuration with the notes of an observer. -/
structure Watched (C : Contract S) (σ L γ : Type) where
  state : σ
  notes : γ
  threads : List (Followed C L)

namespace Watched

def forget (w : Watched C σ L γ) : Config S σ L :=
  ⟨w.state, w.threads.map fun thread => (thread.event, thread.prog)⟩

/-- The phases of the threads, each with its event. -/
def phases (w : Watched C σ L γ) : List (L × C.Phase) :=
  w.threads.map fun thread => (thread.event, thread.phase)

end Watched

/-- The thread an event starts, in the phase it enters. -/
def Observer.follow (O : Observer C σ L γ) (M : Machine S σ L κ ω) (event : L) : Followed C L :=
  ⟨event, O.enter event, M.program event⟩

namespace Machine

/-- **One move, with its observer.** -/
def watch (M : Machine S σ L κ ω) (O : Observer C σ L γ) (w : Watched C σ L γ) :
    Move L κ ω → Option (Watched C σ L γ)
  | .start event =>
    match M.arrive event w.state with
    | some state => some ⟨state, O.starts event w.state w.notes, w.threads ++ [O.follow M event]⟩
    | none => none
  | .step index choice =>
    match w.threads[index]? with
    | some ⟨event, phase, .await op next⟩ =>
      match M.perform choice op w.state with
      | some (reply, state) =>
        some ⟨state, O.sees phase op reply w.state w.notes,
          w.threads.set index ⟨event, C.after phase op reply, next reply⟩ ++
            (M.forks op).map (O.follow M)⟩
      | none => none
    | _ => none
  | .outside act =>
    match M.outside act w.state with
    | some state => some { w with state := state }
    | none => none

theorem watch_cases {M : Machine S σ L κ ω} {O : Observer C σ L γ} {w w' : Watched C σ L γ}
    {m : Move L κ ω} (moved : M.watch O w m = some w') :
    (∃ event state, m = .start event ∧ M.arrive event w.state = some state ∧
      w' = ⟨state, O.starts event w.state w.notes, w.threads ++ [O.follow M event]⟩) ∨
    (∃ index choice event phase op next reply state, m = .step index choice ∧
      w.threads[index]? = some ⟨event, phase, .await op next⟩ ∧
      M.perform choice op w.state = some (reply, state) ∧
      w' = ⟨state, O.sees phase op reply w.state w.notes,
        w.threads.set index ⟨event, C.after phase op reply, next reply⟩ ++
          (M.forks op).map (O.follow M)⟩) ∨
    (∃ act state, m = .outside act ∧ M.outside act w.state = some state ∧
      w' = { w with state := state }) := by
  cases m with
  | start event =>
    left
    simp only [watch] at moved
    split at moved
    · rename_i state arrived
      cases moved
      exact ⟨event, state, rfl, arrived, rfl⟩
    · cases moved
  | step index choice =>
    right; left
    simp only [watch] at moved
    split at moved
    · rename_i event phase op next found
      split at moved
      · rename_i reply state performed
        cases moved
        exact ⟨index, choice, event, phase, op, next, reply, state, rfl, found, performed, rfl⟩
      · cases moved
    · cases moved
  | outside act =>
    right; right
    simp only [watch] at moved
    split at moved
    · rename_i state acted
      cases moved
      exact ⟨act, state, rfl, acted, rfl⟩
    · cases moved

end Machine

/-! ### Observed runs -/

/-- **Observed runs** all of whose moves are allowed where they are made. -/
inductive Watches (M : Machine S σ L κ ω) (O : Observer C σ L γ)
    (ok : Watched C σ L γ → Move L κ ω → Prop) (start : Watched C σ L γ) : Watched C σ L γ → Prop
  | refl : Watches M O ok start start
  | move {w w' : Watched C σ L γ} {m : Move L κ ω} :
      Watches M O ok start w → ok w m → M.watch O w m = some w' → Watches M O ok start w'

section Forget

variable {M : Machine S σ L κ ω} {O : Observer C σ L γ} {w w' : Watched C σ L γ} {m : Move L κ ω}

theorem move_of_watch (moved : M.watch O w m = some w') : M.move w.forget m = some w'.forget := by
  rcases Machine.watch_cases moved with ⟨event, state, rfl, arrived, rfl⟩ |
    ⟨index, choice, event, phase, op, next, reply, state, rfl, found, performed, rfl⟩ |
    ⟨act, state, rfl, acted, rfl⟩
  · simp only [Machine.move, Watched.forget, arrived, List.map_append, List.map_cons, List.map_nil]
    rfl
  · have running : w.forget.threads[index]? = some (event, .await op next) := by
      simp [Watched.forget, List.getElem?_map, found]
    have forked : ∀ children : List L, (children.map (O.follow M)).map
        (fun thread => (thread.event, thread.prog)) = children.map M.thread := by
      intro children
      rw [List.map_map]
      rfl
    simp only [Machine.move, running]
    rw [show w.forget.state = w.state from rfl, performed]
    simp only [Watched.forget, List.map_append, List.map_set, forked]
  · simp only [Machine.move, Watched.forget, acted]

theorem watch_of_move {c' : Config S σ L} (moved : M.move w.forget m = some c') :
    ∃ w', M.watch O w m = some w' ∧ w'.forget = c' := by
  have enabled : (M.watch O w m).isSome = true := by
    rcases Machine.move_cases moved with ⟨event, state, rfl, arrived, _⟩ |
      ⟨index, choice, event, op, next, reply, state, rfl, found, performed, _⟩ |
      ⟨act, state, rfl, acted, _⟩
    · have arrived : M.arrive event w.state = some state := arrived
      simp only [Machine.watch, arrived, Option.isSome_some]
    · have running : (w.threads[index]?).map (fun thread => (thread.event, thread.prog)) =
          some (event, .await op next) := by
        simpa [Watched.forget, List.getElem?_map] using found
      obtain ⟨⟨event', phase, prog⟩, here, same⟩ := Option.map_eq_some_iff.mp running
      cases same
      have performed : M.perform choice op w.state = some (reply, state) := performed
      simp only [Machine.watch, here, performed, Option.isSome_some]
    · have acted : M.outside act w.state = some state := acted
      simp only [Machine.watch, acted, Option.isSome_some]
  obtain ⟨w', watched⟩ := Option.isSome_iff_exists.mp enabled
  refine ⟨w', watched, ?_⟩
  rw [move_of_watch watched] at moved
  exact Option.some.inj moved

/-- **An observed run is a run.** -/
theorem reaches_of_watches {ok : Watched C σ L γ → Move L κ ω → Prop} {w₀ : Watched C σ L γ}
    (run : Watches M O ok w₀ w) : Reaches M (fun _ _ => True) w₀.forget w.forget := by
  induction run with
  | refl => exact .refl
  | move _ _ moved ih => exact .move ih trivial (move_of_watch moved)

/-- **Every run can be observed**, from any notes on. -/
theorem Reaches.watches {ok : Config S σ L → Move L κ ω → Prop} {w₀ : Watched C σ L γ}
    {c : Config S σ L} (O : Observer C σ L γ) (run : Reaches M ok w₀.forget c) :
    ∃ w, Watches M O (fun w m => ok w.forget m) w₀ w ∧ w.forget = c := by
  induction run with
  | refl => exact ⟨w₀, .refl, rfl⟩
  | move _ allowed moved ih =>
    obtain ⟨w, watched, rfl⟩ := ih
    obtain ⟨w', next, same⟩ := watch_of_move moved
    exact ⟨w', .move watched allowed next, same⟩

end Forget

namespace Machine

/-- An observed replay that stops where a move fails its test. -/
def watchIf (M : Machine S σ L κ ω) (O : Observer C σ L γ)
    (test : Watched C σ L γ → Move L κ ω → Bool) (w : Watched C σ L γ) :
    List (Move L κ ω) → Option (Watched C σ L γ)
  | [] => some w
  | m :: rest =>
    if test w m then
      match M.watch O w m with
      | some w' => M.watchIf O test w' rest
      | none => none
    else none

/-- A tested replay is an observed run, from wherever an observed run has come. -/
theorem watches_watchIf {M : Machine S σ L κ ω} {O : Observer C σ L γ}
    {test : Watched C σ L γ → Move L κ ω → Bool} {w₀ w₁ w : Watched C σ L γ} {moves : List (Move L κ ω)}
    (before : Watches M O (fun w m => test w m = true) w₀ w₁)
    (replayed : M.watchIf O test w₁ moves = some w) :
    Watches M O (fun w m => test w m = true) w₀ w := by
  induction moves generalizing w₁ with
  | nil =>
    cases replayed
    exact before
  | cons m rest ih =>
    simp only [watchIf] at replayed
    split at replayed
    · rename_i passed
      split at replayed
      · rename_i w₂ moved
        exact ih (.move before passed moved) replayed
      · cases replayed
    · cases replayed

/-- A concrete observed run exists once its replay passes a check of where it ends. -/
theorem exists_watch (M : Machine S σ L κ ω) (O : Observer C σ L γ)
    (test : Watched C σ L γ → Move L κ ω → Bool) (w₀ : Watched C σ L γ) (moves : List (Move L κ ω))
    (check : Watched C σ L γ → Bool) (checked : (M.watchIf O test w₀ moves).any check = true) :
    ∃ w, Watches M O (fun w m => test w m = true) w₀ w ∧ check w = true := by
  obtain ⟨w, replayed, ended⟩ := (Option.any_eq_true _ _).mp checked
  exact ⟨w, watches_watchIf .refl replayed, ended⟩

/-- A concrete observed run in two parts, with a check after each. -/
theorem exists_watch_then (M : Machine S σ L κ ω) (O : Observer C σ L γ)
    (test : Watched C σ L γ → Move L κ ω → Bool) (w₀ : Watched C σ L γ) (moves later : List (Move L κ ω))
    (check last : Watched C σ L γ → Bool) (checked : (M.watchIf O test w₀ moves).any
      (fun w₁ => check w₁ && (M.watchIf O test w₁ later).any last) = true) :
    ∃ w₁ w, Watches M O (fun w m => test w m = true) w₀ w₁ ∧ check w₁ = true ∧
      Watches M O (fun w m => test w m = true) w₁ w ∧ last w = true := by
  obtain ⟨w₁, run, both⟩ := exists_watch M O test w₀ moves _ checked
  obtain ⟨between, rest⟩ := Bool.and_eq_true_iff.mp both
  obtain ⟨w, run', ended⟩ := exists_watch M O test w₁ later _ rest
  exact ⟨w₁, w, run, between, run', ended⟩

end Machine

/-! ### Vigils: the proof rule -/

/-- Every thread keeps the contract from its phase on. -/
def Watched.Follows (w : Watched C σ L γ) (finished : C.Phase → Prop) : Prop :=
  ∀ thread ∈ w.threads, thread.prog.Keeps C thread.phase fun _ => finished

theorem Watched.Follows.finished {w : Watched C σ L γ} {finished : C.Phase → Prop} (follows : w.Follows finished)
    {thread : Followed C L} (running : thread ∈ w.threads) (ended : thread.prog.head = none) :
    finished thread.phase := by
  have keeps := follows thread running
  obtain ⟨event, phase, prog⟩ := thread
  cases prog with
  | done value => exact keeps
  | await op next => cases ended

/-- **A vigil**: an invariant of the state, the notes and the phases that every allowed move keeps, over threads
that all keep the contract. -/
structure Vigil (M : Machine S σ L κ ω) (O : Observer C σ L γ)
    (ok : Watched C σ L γ → Move L κ ω → Prop) where
  admits : L → Prop := fun _ => True
  finished : C.Phase → Prop
  Inv : σ → γ → List (L × C.Phase) → Prop
  keeps : ∀ event, admits event → (M.program event).Keeps C (O.enter event) fun _ => finished
  enters : ∀ w event, ok w (.start event) → admits event
  forks : ∀ phase op, C.may phase op → ∀ child ∈ M.forks op, admits child
  start : ∀ w event state, Inv w.state w.notes w.phases → ok w (.start event) →
    M.arrive event w.state = some state →
      Inv state (O.starts event w.state w.notes) (w.phases ++ [(event, O.enter event)])
  step : ∀ w index choice event phase op next reply state, Inv w.state w.notes w.phases →
    ok w (.step index choice) → w.threads[index]? = some ⟨event, phase, .await op next⟩ →
    w.phases[index]? = some (event, phase) → C.may phase op →
    M.perform choice op w.state = some (reply, state) →
      C.answers phase op reply ∧
      Inv state (O.sees phase op reply w.state w.notes)
        (w.phases.set index (event, C.after phase op reply) ++
          (M.forks op).map fun child => (child, O.enter child))
  outside : ∀ w act state, Inv w.state w.notes w.phases → ok w (.outside act) →
    M.outside act w.state = some state → Inv state w.notes w.phases

theorem Watched.phases_get {w : Watched C σ L γ} {index : ℕ} {thread : Followed C L}
    (found : w.threads[index]? = some thread) :
    w.phases[index]? = some (thread.event, thread.phase) := by
  simp [Watched.phases, List.getElem?_map, found]

/-- **A vigil that holds somewhere holds from there on.** -/
theorem Vigil.holds_from {M : Machine S σ L κ ω} {O : Observer C σ L γ}
    {ok : Watched C σ L γ → Move L κ ω → Prop} (V : Vigil M O ok) {w₀ w : Watched C σ L γ}
    (initial : V.Inv w₀.state w₀.notes w₀.phases) (following : w₀.Follows V.finished)
    (run : Watches M O ok w₀ w) : V.Inv w.state w.notes w.phases ∧ w.Follows V.finished := by
  induction run with
  | refl => exact ⟨initial, following⟩
  | @move w w' m _ allowed moved ih =>
    obtain ⟨inv, follows⟩ := ih
    rcases Machine.watch_cases moved with ⟨event, state, rfl, arrived, rfl⟩ |
      ⟨index, choice, event, phase, op, next, reply, state, rfl, found, performed, rfl⟩ |
      ⟨act, state, rfl, acted, rfl⟩
    · refine ⟨?_, fun thread member => ?_⟩
      · have kept := V.start w event state inv allowed arrived
        simpa [Watched.phases, Observer.follow] using kept
      · rcases List.mem_append.mp member with old | new
        · exact follows thread old
        · cases List.mem_singleton.mp new
          exact V.keeps event (V.enters w event allowed)
    · have keeps := follows _ (List.mem_of_getElem? found)
      obtain ⟨answers, kept⟩ := V.step w index choice event phase op next reply state inv allowed found
        (Watched.phases_get found) keeps.1 performed
      refine ⟨?_, fun thread member => ?_⟩
      · simpa [Watched.phases, List.map_set, Observer.follow, Function.comp_def] using kept
      · rcases List.mem_append.mp member with inside | forked
        · rcases List.mem_or_eq_of_mem_set inside with old | rfl
          · exact follows thread old
          · exact keeps.2 reply answers
        · obtain ⟨child, started, rfl⟩ := List.mem_map.mp forked
          exact V.keeps child (V.forks phase op keeps.1 child started)
    · exact ⟨V.outside w act state inv allowed acted, follows⟩

/-- **A vigil holds of every observed run.** -/
theorem Vigil.holds {M : Machine S σ L κ ω} {O : Observer C σ L γ}
    {ok : Watched C σ L γ → Move L κ ω → Prop} (V : Vigil M O ok) {w₀ w : Watched C σ L γ}
    (idle : w₀.threads = []) (initial : V.Inv w₀.state w₀.notes []) (run : Watches M O ok w₀ w) :
    V.Inv w.state w.notes w.phases ∧ w.Follows V.finished := by
  refine V.holds_from ?_ ?_ run
  · unfold Watched.phases
    rw [idle]
    exact initial
  · unfold Watched.Follows
    rw [idle]
    exact List.forall_mem_nil _

end Async
