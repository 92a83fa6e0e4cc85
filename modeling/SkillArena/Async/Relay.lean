/-
**Relays: rights that are handed on.**

Some steps of a program give their thread the right to one further step: a lock that was taken, the right to write
under it; what was written, the right to the next. A relay counts at each station the threads that hold the right
there, what has been done with it (`done`), and what has given it (`due`): at every station, holders and deeds
together are at most the grants.

* `Relay.set` — one thread goes on, if the balance of each station is kept.
* `Relay.pending` — where at most one right was ever given, its holder has not used it yet, and nobody else has.
-/

import SkillArena.Async.Pool

namespace Async

variable {L P K : Type} [DecidableEq K] {station : P → Option K} {due done due' done' : K → ℕ}
  {phases : List (L × P)} {index : ℕ} {event : L} {phase : P}

/-- **A relay**: at every station, the holders and what was done are at most what was due. -/
def Relay (station : P → Option K) (due done : K → ℕ) (phases : List (L × P)) : Prop :=
  ∀ k, phases.countP (fun entry => station entry.2 = some k) + done k ≤ due k

namespace Relay

/-- Whether a phase holds the right of a station, as a number. -/
def share (station : P → Option K) (phase : P) (k : K) : ℕ := if station phase = some k then 1 else 0

theorem share_of_none (none : station phase = none) (k : K) : share station phase k = 0 := by
  unfold share
  rw [none, if_neg nofun]

theorem share_congr {phase' : P} (same : station phase' = station phase) (k : K) :
    share station phase' k = share station phase k := by
  unfold share
  rw [same]

/-- **One thread goes on**, if what it did, what it was given and what it holds balance at every station. -/
theorem set (relay : Relay station due done phases) (found : phases[index]? = some (event, phase)) {phase' : P}
    (balance : ∀ k, done' k + share station phase' k + due k ≤ due' k + done k + share station phase k) :
    Relay station due' done' (phases.set index (event, phase')) := by
  intro k
  have before := relay k
  have change := countP_set (p := fun entry : L × P => station entry.2 = some k) found (event, phase')
  have balanced := balance k
  unfold share at balanced
  simp only [decide_eq_true_eq] at change
  omega

theorem append (relay : Relay station due done phases) {others : List (L × P)}
    (empty : ∀ entry ∈ others, station entry.2 = none) : Relay station due done (phases ++ others) := by
  intro k
  have none : others.countP (fun entry => station entry.2 = some k) = 0 := by
    rw [List.countP_eq_zero]
    intro entry inside
    simp [empty entry inside]
  rw [List.countP_append, none]
  exact relay k

/-- Where at most one right was given, its holder has not used it. -/
theorem pending (relay : Relay station due done phases) (found : phases[index]? = some (event, phase)) {k : K}
    (here : station phase = some k) (single : due k ≤ 1) : done k = 0 := by
  have some : 0 < phases.countP fun entry => station entry.2 = some k :=
    List.countP_pos_iff.mpr ⟨_, List.mem_of_getElem? found, by simpa using here⟩
  have bound := Nat.le_trans (relay k) single
  omega

theorem done_le (relay : Relay station due done phases) (k : K) : done k ≤ due k :=
  Nat.le_trans (Nat.le_add_left _ _) (relay k)

end Relay

end Async
