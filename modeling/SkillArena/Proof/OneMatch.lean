/-
**One match at a time.**

The active-match key, the disconnect forfeit and the escrow all suppose that a user plays one match at a time
and does not wait for another while playing. No handler checks it: a user can join two queues, or join again
while playing (`plays_two_waits_for_third`). Where every stale check of a join is made by a user who is in no
other queue, in no hand, about to be pushed by no other join and in no unsettled match, it holds of every
reachable state (`one_match_at_a_time`).

The proof counts the places of a user (`places`) over all queues: an operation adds none but the stale check,
and a committed match takes the place of each of its players.
-/

import SkillArena.Proof.Entries
import SkillArena.Proof.Settlement

namespace SkillArena

open Async

/-! ### Unsettled matches -/

/-- The user is a player of a match that has been neither paid out nor refunded. -/
def Db.openFor (db : Db) (user : UserId) (matchId : MatchId) : Bool :=
  (db.matches_ matchId).any (fun row => row.playerAId = user || row.playerBId = user) && db.unsettled matchId

/-- The matches there have been. -/
def registry : Observer queueing World Handler (List MatchId) :=
  doorkeeper (fun _ known => known) fun phase op reply _ known => known ++ (phase.played op reply).map (·.matchId)

/-- The handler is about to push an entry of the user, or holds one. -/
def Hold.engages (user : UserId) : Hold → Bool
  | joining user' _ => user' = user
  | holding taken => taken.playerA.userId = user || taken.playerB.userId = user
  | _ => false

/-- No handler is about to push an entry of the user or holds one, the user is in no other queue, and has no
unsettled match. -/
def unengaged (user : UserId) (fee : ℕ) (w : QueueRun (List MatchId)) : Bool :=
  (w.threads.all fun thread => !Hold.engages user thread.phase) &&
  (validFees.all fun fee' => fee' = fee || (w.state.memory.live fee').all fun entry => !entry.ofUser user) &&
  w.notes.all fun matchId => !w.state.db.openFor user matchId

/-- **The condition on a run**: the stale check of a join is made by a user who is not engaged. -/
def oneByOne (w : QueueRun (List MatchId)) : BackendMove → Bool
  | .start _ => true
  | .step index _ => match (w.threads[index]?).bind (·.prog.head) with
    | some (.memory (.dropStale fee user)) => unengaged user fee w
    | _ => true
  | .outside act => act.spares

section Unsettled

variable {env : Env} {choice : Choice} {world world' : World} {op : Op} {reply : Except Err op.Reply}
  {user : UserId} {matchId : MatchId}

theorem unsettled_before (performed : op.perform env choice world = some (reply, world'))
    (unsettled : world'.db.unsettled matchId = true) : world.db.unsettled matchId = true := by
  cases reply with
  | error err => rwa [perform_error performed] at unsettled
  | ok value =>
    obtain ⟨payouts, refunds⟩ := perform_counts matchId performed
    simp only [Db.unsettled, Bool.and_eq_true, decide_eq_true_eq] at unsettled ⊢
    omega

theorem openFor_iff {db : Db} : db.openFor user matchId = true ↔
    ∃ row, db.matches_ matchId = some row ∧ (row.playerAId = user ∨ row.playerBId = user) ∧
      db.unsettled matchId = true := by
  unfold Db.openFor
  cases db.matches_ matchId with
  | none => simp
  | some row => simp

theorem plays_of_terms {row row' : MatchRow} (same : row'.terms = row.terms)
    (plays : row.playerAId = user ∨ row.playerBId = user) : row'.playerAId = user ∨ row'.playerBId = user := by
  have playerA : row'.playerAId = row.playerAId := congrArg Prod.fst same
  have playerB : row'.playerBId = row.playerBId := congrArg (·.2.1) same
  rwa [playerA, playerB]

/-- **An unsettled match of a user was there, or has just been committed.** -/
theorem Shift.open_cases {phase phase' : Hold} (shift : Shift world.memory world'.memory phase op reply phase')
    (performed : op.perform env choice world = some (reply, world'))
    (opened : world'.db.openFor user matchId = true) :
    (∃ taken, ⟨matchId, taken⟩ ∈ phase.played op reply ∧
      (taken.playerA.userId = user ∨ taken.playerB.userId = user)) ∨ world.db.openFor user matchId = true := by
  obtain ⟨row, here, plays, unsettled⟩ := openFor_iff.mp opened
  rcases shift.row_cases performed here with ⟨taken, new, terms⟩ | ⟨row', before, same⟩
  · have playerA : row.playerAId = taken.playerA.userId := congrArg Prod.fst terms
    have playerB : row.playerBId = taken.playerB.userId := congrArg (·.2.1) terms
    rw [playerA, playerB] at plays
    exact .inl ⟨taken, new, plays⟩
  · exact .inr (openFor_iff.mpr ⟨row', before, plays_of_terms same plays, unsettled_before performed unsettled⟩)

theorem open_outside {act : Outside} (spares : act.spares = true) (acted : act.run env world = some world') :
    (∀ user matchId, world'.db.openFor user matchId = true → world.db.openFor user matchId = true) ∧
      ∀ matchId, (world'.db.matches_ matchId).isSome = true → (world.db.matches_ matchId).isSome = true := by
  cases act with
  | tick ms =>
    cases acted
    exact ⟨fun _ _ opened => opened, fun _ there => there⟩
  | act choice op =>
    obtain ⟨⟨reply, state⟩, performed, rfl⟩ := Option.map_eq_some_iff.mp acted
    have terms : ∀ matchId, (state.db.matches_ matchId).map MatchRow.terms =
        (world.db.matches_ matchId).map MatchRow.terms := by
      intro matchId
      refine terms_frame performed ?_
      rintro playerA playerB problemId fee rfl
      cases spares
    refine ⟨fun user matchId opened => ?_, fun matchId there => ?_⟩
    · obtain ⟨row, here, plays, unsettled⟩ := openFor_iff.mp opened
      have same := terms matchId
      rw [here, Option.map_some] at same
      obtain ⟨row', before, agrees⟩ := Option.map_eq_some_iff.mp same.symm
      exact openFor_iff.mpr ⟨row', before, plays_of_terms agrees plays, unsettled_before performed unsettled⟩
    · have same := congrArg Option.isSome (terms matchId)
      rw [Option.isSome_map, Option.isSome_map] at same
      exact same ▸ there

end Unsettled

/-! ### The places of a user in all queues -/

/-- **The invariant**: a user has one place in all queues together, none while an unsettled match of the user
is there, and one unsettled match at most. -/
structure Engaged (world : World) (known : List MatchId) (phases : List (Handler × Hold)) : Prop where
  listed : ∀ matchId, (world.db.matches_ matchId).isSome = true → matchId ∈ known
  placed : Placed world.memory phases
  apart : ∀ user, ∀ fee ∈ validFees, ∀ fee' ∈ validFees, fee ≠ fee' →
    places user fee world.memory phases + places user fee' world.memory phases ≤ 1
  busy : ∀ user matchId, world.db.openFor user matchId = true →
    ∀ fee ∈ validFees, places user fee world.memory phases = 0
  sole : ∀ user matchId matchId', world.db.openFor user matchId = true →
    world.db.openFor user matchId' = true → matchId = matchId'

section Engaged

variable {memory memory' : Memory} {phases : List (Handler × Hold)} {index : ℕ} {event : Handler}
  {phase phase' : Hold} {op : Op} {reply : Except Err op.Reply} {user : UserId}

theorem creates_of_played {played : Matched} (member : played ∈ phase.played op reply) :
    op.creates reply = true ∧ ∀ act, op ≠ .memory act := by
  unfold Hold.played at member
  split at member
  · exact ⟨rfl, nofun⟩
  · cases member

theorem played_unique {first second : Matched} (here : first ∈ phase.played op reply)
    (there : second ∈ phase.played op reply) : first = second := by
  unfold Hold.played at here there
  split at here
  · exact (List.mem_singleton.mp here).trans (List.mem_singleton.mp there).symm
  · cases here

/-- **A committed match takes the place of each of its players.** -/
theorem Shift.places_commit {matchId : MatchId} {taken : Taken} (stalls : Stalls memory phases)
    (found : phases[index]? = some (event, phase)) (shift : Shift memory memory' phase op reply phase')
    (played : ⟨matchId, taken⟩ ∈ phase.played op reply)
    (plays : taken.playerA.userId = user ∨ taken.playerB.userId = user) :
    places user taken.fee memory' (phases.set index (event, phase')) + 1 ≤ places user taken.fee memory phases := by
  obtain rfl : phase = .holding taken := holding_of_played played
  obtain ⟨creates, elsewhere⟩ := creates_of_played played
  have owned := stalls.owned _ (List.mem_of_getElem? found) taken rfl
  have moved := shift.seats_le (p := QueueEntry.ofUser user) stalls found owned.valid
    fun _ _ here there => ofUser_single here there
  have counted := countP_set (p := fun entry : Handler × Hold => entry.2.joins user taken.fee) found
    (event, phase')
  have has : (Hold.holding taken).has taken.fee (QueueEntry.ofUser user) = true := by
    simpa [QueueEntry.ofUser] using plays
  have pushes : op.pushes taken.fee (QueueEntry.ofUser user) memory.nextTicket = false := by
    refine Bool.eq_false_iff.mpr fun pushes => ?_
    have before := (shift.joins_of_pushes pushes).1
    cases before
  have after : phase'.joins user taken.fee = false := by
    refine Bool.eq_false_iff.mpr fun joins => ?_
    have before := shift.joins_of_joins (elsewhere _) joins
    cases before
  dsimp only at counted
  rw [after, if_neg Bool.false_ne_true] at counted
  rw [creates, has, pushes, Bool.and_self, if_pos rfl, if_neg Bool.false_ne_true] at moved
  unfold places
  omega

namespace Engaged

variable {world world' : World} {known : List MatchId}

theorem start (engaged : Engaged world known phases) (memory : world'.memory = world.memory)
    (db : world'.db = world.db) (event : Handler) : Engaged world' known (phases ++ [(event, event.hold)]) := by
  refine ⟨?_, ?_, fun user fee valid fee' valid' different => ?_, fun user matchId opened fee valid => ?_, ?_⟩
  · rw [db]
    exact engaged.listed
  · rw [memory]
    exact engaged.placed.start event
  · rw [memory, places_append, places_append]
    exact engaged.apart user fee valid fee' valid' different
  · rw [memory, places_append]
    rw [db] at opened
    exact engaged.busy user matchId opened fee valid
  · rw [db]
    exact engaged.sole

/-- **One operation**, where `less` says that no user gains a place but by the stale check of one who has none
and no unsettled match. -/
theorem step {env : Env} {choice : Choice} (engaged : Engaged world known phases)
    (stalls : Stalls world.memory phases) (found : phases[index]? = some (event, phase))
    (performed : op.perform env choice world = some (reply, world'))
    (shift : Shift world.memory world'.memory phase op reply phase')
    (placed : Placed world'.memory (phases.set index (event, phase')))
    (alone : ∀ fee ∈ validFees, ∀ user, op = .memory (.dropStale fee user) →
      (∀ fee' ∈ validFees, fee' ≠ fee → places user fee' world.memory phases = 0) ∧
        ∀ matchId ∈ known, world.db.openFor user matchId = false) :
    Engaged world' (known ++ (phase.played op reply).map (·.matchId)) (phases.set index (event, phase')) := by
  have less : ∀ user, ∀ fee ∈ validFees, op ≠ .memory (.dropStale fee user) →
      places user fee world'.memory (phases.set index (event, phase')) ≤ places user fee world.memory phases :=
    fun user fee valid => shift.places_le stalls found valid
  -- who commits a match had a place for each player, and has it no more
  have served : ∀ user matchId taken, ⟨matchId, taken⟩ ∈ phase.played op reply →
      (taken.playerA.userId = user ∨ taken.playerB.userId = user) → taken.fee ∈ validFees ∧
        places user taken.fee world'.memory (phases.set index (event, phase')) + 1 ≤
          places user taken.fee world.memory phases := fun user matchId taken played plays =>
    ⟨(stalls.owned _ (List.mem_of_getElem? found) taken (holding_of_played played)).valid,
      shift.places_commit stalls found played plays⟩
  refine ⟨fun matchId there => ?_, placed, fun user fee valid fee' valid' different => ?_,
    fun user matchId opened fee valid => ?_, fun user matchId matchId' opened opened' => ?_⟩
  · obtain ⟨row, here⟩ := Option.isSome_iff_exists.mp there
    rcases shift.row_cases performed here with ⟨taken, new, _⟩ | ⟨row', before, _⟩
    · exact List.mem_append_right _ (List.mem_map.mpr ⟨_, new, rfl⟩)
    · exact List.mem_append_left _ (engaged.listed matchId (Option.isSome_iff_exists.mpr ⟨row', before⟩))
  · have bound := engaged.apart user fee valid fee' valid' different
    by_cases here : op = .memory (.dropStale fee user)
    · have single := placed fee valid user
      have other := less user fee' valid' fun there => different (by
        rw [here] at there
        cases there
        rfl)
      rw [(alone fee valid user here).1 fee' valid' (Ne.symm different)] at other
      omega
    · have first := less user fee valid here
      by_cases there : op = .memory (.dropStale fee' user)
      · have single := placed fee' valid' user
        rw [(alone fee' valid' user there).1 fee valid different] at first
        omega
      · have second := less user fee' valid' there
        omega
  · rcases shift.open_cases performed opened with ⟨taken, played, plays⟩ | before
    · obtain ⟨valid', commit⟩ := served user matchId taken played plays
      by_cases same : fee = taken.fee
      · subst same
        have single := engaged.placed taken.fee valid' user
        omega
      · have bound := engaged.apart user fee valid taken.fee valid' same
        have fewer := less user fee valid ((creates_of_played played).2 _)
        omega
    · have none := engaged.busy user matchId before fee valid
      by_cases check : op = .memory (.dropStale fee user)
      · obtain ⟨row, here, _⟩ := openFor_iff.mp before
        have closed := (alone fee valid user check).2 matchId
          (engaged.listed matchId (Option.isSome_iff_exists.mpr ⟨row, here⟩))
        rw [before] at closed
        cases closed
      · have fewer := less user fee valid check
        omega
  · have clash : ∀ matchId matchId' taken, ⟨matchId, taken⟩ ∈ phase.played op reply →
        (taken.playerA.userId = user ∨ taken.playerB.userId = user) →
        world.db.openFor user matchId' = true → False := by
      intro matchId matchId' taken played plays before
      obtain ⟨valid, commit⟩ := served user matchId taken played plays
      have none := engaged.busy user matchId' before taken.fee valid
      omega
    rcases shift.open_cases performed opened with ⟨taken, played, plays⟩ | before
    · rcases shift.open_cases performed opened' with ⟨taken', played', _⟩ | before'
      · exact congrArg Matched.matchId (played_unique played played')
      · exact (clash matchId matchId' taken played plays before').elim
    · rcases shift.open_cases performed opened' with ⟨taken', played', plays'⟩ | before'
      · exact (clash matchId' matchId taken' played' plays' before).elim
      · exact engaged.sole user matchId matchId' before before'

end Engaged

end Engaged

/-! ### Every run -/

theorem unengaged_phase {user : UserId} {phase : Hold} (fee : ℕ) (free : phase.engages user = false) :
    phase.joins user fee = false ∧ phase.has fee (QueueEntry.ofUser user) = false := by
  cases phase
  case joining user' fee' =>
    have other : user' ≠ user := of_decide_eq_false free
    exact ⟨by simp [Hold.joins, other], rfl⟩
  case holding taken =>
    simp only [Hold.engages, Bool.or_eq_false_iff, decide_eq_false_iff_not] at free
    exact ⟨rfl, by simp [QueueEntry.ofUser, free]⟩
  all_goals exact ⟨rfl, rfl⟩

theorem unengaged_places {w : QueueRun (List MatchId)} {user : UserId} {fee : ℕ}
    (free : unengaged user fee w = true) :
    clearFor user fee w = true ∧
    (∀ fee' ∈ validFees, fee' ≠ fee → places user fee' w.state.memory w.phases = 0) ∧
      ∀ matchId ∈ w.notes, w.state.db.openFor user matchId = false := by
  simp only [unengaged, Bool.and_eq_true, List.all_eq_true, Bool.or_eq_true, decide_eq_true_eq,
    Bool.not_eq_true'] at free
  obtain ⟨⟨handlers, queues⟩, matches_⟩ := free
  have nobody : ∀ fee', ∀ entry ∈ w.phases, entry.2.joins user fee' = false ∧
      entry.2.has fee' (QueueEntry.ofUser user) = false := by
    intro fee' entry member
    obtain ⟨thread, running, rfl⟩ := List.mem_map.mp member
    exact unengaged_phase fee' (handlers thread running)
  refine ⟨List.all_eq_true.mpr fun thread running => ?_, fun fee' valid different => ?_, matches_⟩
  · obtain ⟨joins, has⟩ := unengaged_phase fee (handlers thread running)
    rw [joins, has]
    rfl
  · have joins : w.phases.countP (fun entry : Handler × Hold => entry.2.joins user fee') = 0 :=
      List.countP_eq_zero.mpr fun entry member => by simp [(nobody fee' entry member).1]
    have has : w.phases.countP (fun entry : Handler × Hold => entry.2.has fee' (QueueEntry.ofUser user)) = 0 :=
      List.countP_eq_zero.mpr fun entry member => by simp [(nobody fee' entry member).2]
    have waits : (w.state.memory.live fee').countP (QueueEntry.ofUser user) = 0 :=
      List.countP_eq_zero.mpr fun entry inside => by
        simp [(queues fee' valid).resolve_left different entry inside]
    show _ + _ + _ = 0
    rw [waits, has, joins]

/-- **The rule of the engagements.** -/
def engagedRule (env : Env) : QueueRule env registry (fun w move => oneByOne w move = true) where
  Inv world known phases := Engaged world known phases
  enter := rfl
  spares _ _ spares := spares
  start w event state inv _ arrived := inv.start (arrive_memory arrived) (arrive_frame arrived).2 event
  step w index choice event phase op next reply state stalls inv allowed found inPhase performed shift := by
    have free : ∀ fee user, op = .memory (.dropStale fee user) → unengaged user fee w = true := by
      rintro fee user rfl
      simpa [oneByOne, found] using allowed
    refine inv.step stalls inPhase performed shift (fun fee valid user => ?_)
      fun fee valid user check => (unengaged_places (free fee user check)).2
    by_cases check : op = .memory (.dropStale fee user)
    · have clear := (unengaged_places (free fee user check)).1
      subst check
      exact shift.places_stale inPhase valid clear
    · exact (shift.places_le stalls inPhase valid check).trans (inv.placed fee valid user)
  fork world known phases child inv away := by
    have started := inv.start rfl rfl child
    rwa [away] at started
  outside w act state inv spares acted := by
    have memory := memory_outside spares acted
    obtain ⟨opens, there⟩ := open_outside spares acted
    refine ⟨fun matchId here => inv.listed matchId (there matchId here), memory ▸ inv.placed,
      memory ▸ inv.apart, fun user matchId opened => ?_, fun user matchId matchId' opened opened' => ?_⟩
    · rw [memory]
      exact inv.busy user matchId (opens user matchId opened)
    · exact inv.sole user matchId matchId' (opens user matchId opened) (opens user matchId' opened')

/-- **One match at a time.** Along every run that meets the condition no user is a player of two unsettled
matches, and no player of an unsettled match is in a queue. -/
theorem one_match_at_a_time (env : Env) {w₀ w : QueueRun (List MatchId)} (idle : w₀.threads = [])
    (empty : w₀.state.memory = {})
    (listed : ∀ matchId, (w₀.state.db.matches_ matchId).isSome = true → matchId ∈ w₀.notes)
    (sole : ∀ user matchId matchId', w₀.state.db.openFor user matchId = true →
      w₀.state.db.openFor user matchId' = true → matchId = matchId')
    (run : Watches (backend env) registry (fun w move => oneByOne w move = true) w₀ w) (user : UserId) :
    (∀ matchId matchId', w.state.db.openFor user matchId = true → w.state.db.openFor user matchId' = true →
      matchId = matchId') ∧
    ∀ matchId, w.state.db.openFor user matchId = true →
      ∀ fee ∈ validFees, ∀ entry ∈ w.state.memory.live fee, entry.userId ≠ user := by
  have initial : (engagedRule env).Inv w₀.state w₀.notes [] := by
    show Engaged _ _ _
    refine ⟨listed, ?_, ?_, ?_, sole⟩
    all_goals rw [empty]
    · exact fun _ _ _ => Nat.zero_le _
    · exact fun _ _ _ _ _ _ => Nat.zero_le _
    · exact fun _ _ _ _ _ => rfl
  obtain ⟨_, engaged, _⟩ := (engagedRule env).holds idle empty initial run
  refine ⟨engaged.sole user, fun matchId opened fee valid entry inside same => ?_⟩
  have none := engaged.busy user matchId opened fee valid
  have counted : 0 < (w.state.memory.live fee).countP (QueueEntry.ofUser user) :=
    List.countP_pos_iff.mpr ⟨entry, inside, decide_eq_true same⟩
  unfold places seats at none
  omega

/-- Users 1 and 2 are matched as match 7, join again and are matched as match 8; then user 1 joins a third time,
for 25. -/
def joinsThrice : List BackendMove :=
  joinsAndPlays ++
    .start (.queueJoin 1 "ann" 10 "all") :: List.replicate 11 (.step 2 .proceed) ++
    .start (.queueJoin 2 "bob" 10 "all") :: List.replicate 14 (.step 3 .proceed) ++
    [.step 3 (.fresh 8), .step 3 .proceed] ++
    .start (.queueJoin 1 "ann" 25 "all") :: List.replicate 5 (.step 4 .proceed)

/-- **A user plays two unsettled matches and waits for a third.** -/
theorem plays_two_waits_for_third : ∃ c, Reaches (backend sampleEnv) (fun _ move => queues move = true)
    ⟨openDoors, []⟩ c ∧ c.state.db.openFor 1 7 = true ∧ c.state.db.openFor 1 8 = true ∧
      (c.state.memory.live 25).map (·.userId) = [1] := by
  obtain ⟨c, run, ended⟩ := Machine.exists_run (backend sampleEnv) (fun _ move => queues move)
    ⟨openDoors, []⟩ joinsThrice (fun c => decide (c.state.db.openFor 1 7 = true ∧
      c.state.db.openFor 1 8 = true ∧ (c.state.memory.live 25).map (·.userId) = [1])) (by decide +kernel)
  exact ⟨c, run, of_decide_eq_true ended⟩

theorem one_match_at_a_time_played : ∃ w, Watches (backend sampleEnv) registry
    (fun w move => oneByOne w move = true) ⟨openDoors, [], []⟩ w ∧ w.state.db.openFor 1 7 = true ∧
      ∀ fee ∈ validFees, ∀ entry ∈ w.state.memory.live fee, entry.userId ≠ 1 := by
  obtain ⟨w, run, ended⟩ := Machine.exists_watch (backend sampleEnv) registry oneByOne
    ⟨openDoors, [], []⟩ joinsAndPlays (fun w => w.state.db.openFor 1 7) (by decide +kernel)
  exact ⟨w, run, ended, (one_match_at_a_time sampleEnv rfl rfl (fun _ there => by cases there)
    (fun _ _ _ opened => by cases opened) run 1).2 7 ended⟩

end SkillArena
