/-
**Leaving the queue.**

After `queue:left` a user should be out: in no queue and in no match that is committed before the user's next
join. The handlers do not see to it: an attempt that has taken the user goes on after the user has left and
locks the fee (`left_then_matched`), and so does a join that is past its checks. Where `queue:leave` takes the
user out while no join of the user is under way and no attempt holds the user, and the user sends no join
before `queue:left`, leaving is leaving (`left_is_left`).

The proof follows one fact: nobody has to do with the user (`Clear`). One operation keeps it (`Shift.clear`),
since players are taken only from the queues and entries are pushed only by joins.
-/

import SkillArena.Proof.Entries

namespace SkillArena

open Async

/-! ### Debits -/

/-- The entry fees a user has paid, one row each. -/
def Db.debits (db : Db) (user : UserId) : ℕ :=
  db.ledger.countP fun row => row.type = .matchEntryDebit ∧ row.userId = user

/-- The transaction locks the fee of a user. -/
def Transaction.locks (user : UserId) : Transaction → Bool
  | createMatch _ playerA playerB _ _ => playerA = user || playerB = user
  | _ => false

theorem run_debits {env : Env} {db db' : Db} {transaction : Transaction} {reply : transaction.Reply}
    {user : UserId} (ran : transaction.run env db = (.ok reply, db'))
    (other : transaction.locks user = false) : db'.debits user = db.debits user := by
  have debits := run_countP ran fun posting => posting.type = .matchEntryDebit ∧ posting.userId = user
  refine debits.trans (congrArg _ (?_ : _ = 0))
  cases transaction with
  | createMatch matchId playerA playerB problemId fee =>
    simp only [Transaction.locks, Bool.or_eq_false_iff, decide_eq_false_iff_not] at other
    simp [Transaction.postings, other]
  | creditWebhook userId payment amount =>
    simp only [Transaction.postings]
    split
    · rfl
    · rfl
  | _ => rfl

theorem debits_frame {env : Env} {choice : Choice} {world world' : World} {op : Op}
    {reply : Except Err op.Reply} {user : UserId}
    (performed : op.perform env choice world = some (reply, world'))
    (other : op.commits (·.locks user) = false) : world'.db.debits user = world.db.debits user := by
  rcases money_frame performed with ⟨_, ledger⟩ | ⟨transaction, value, rfl, ran⟩
  · unfold Db.debits
    rw [ledger]
  · exact run_debits ran other

/-! ### Nobody has to do with the user -/

/-- The handler joins for the user, or holds an entry of the user. -/
def Hold.concerns (user : UserId) : Hold → Bool
  | arriving user' _ | joining user' _ => user' = user
  | holding taken => taken.playerA.userId = user || taken.playerB.userId = user
  | _ => false

/-- **The user is out**: in no queue, and no handler is about to bring the user in or into a match. -/
structure Clear (user : UserId) (memory : Memory) (phases : List (Handler × Hold)) : Prop where
  queues : ∀ fee ∈ validFees, ∀ entry ∈ memory.live fee, entry.userId ≠ user
  handlers : ∀ entry ∈ phases, entry.2.concerns user = false

section Clear

variable {user : UserId} {memory memory' : Memory} {phases : List (Handler × Hold)} {index : ℕ}
  {event : Handler} {phase phase' : Hold} {op : Op} {reply : Except Err op.Reply}

theorem concerns_holding {taken : Taken} (free : (Hold.holding taken).concerns user = false) :
    taken.playerA.userId ≠ user ∧ taken.playerB.userId ≠ user := by
  simpa [Hold.concerns] using free

theorem Shift.queues_clear (queues : ∀ fee ∈ validFees, ∀ entry ∈ memory.live fee, entry.userId ≠ user)
    (free : phase.concerns user = false) (shift : Shift memory memory' phase op reply phase') :
    ∀ fee ∈ validFees, ∀ entry ∈ memory'.live fee, entry.userId ≠ user := by
  intro fee valid
  have before := queues fee valid
  have updated : ∀ {fee' : ℕ} {entries : List QueueEntry}, (fee = fee' → ∀ entry ∈ entries, entry.userId ≠ user) →
      ∀ entry ∈ Function.update memory.live fee' entries fee, entry.userId ≠ user := by
    intro fee' entries here
    by_cases same : fee = fee'
    · subst same
      rw [Function.update_self]
      exact here rfl
    · rw [Function.update_of_ne same]
      exact before
  cases shift
  case stale user' fee' valid' evolves =>
    rw [evolves.live fee valid]
    refine updated fun same entry inside => ?_
    subst same
    exact before entry (List.mem_of_mem_filter inside)
  case push user' fee' username category valid' evolves next =>
    rw [evolves.live fee valid]
    refine updated fun same entry inside => ?_
    subst same
    rcases List.mem_append.mp inside with old | new
    · exact before entry old
    · cases List.mem_singleton.mp new
      exact of_decide_eq_false free
  case drop fee' first second rest valid' front twice evolves =>
    rw [evolves.live fee valid]
    refine updated fun same entry inside => ?_
    subst same
    exact before entry (front ▸ List.mem_cons_of_mem _ inside)
  case take fee' playerA playerB rest valid' front distinct evolves =>
    rw [evolves.live fee valid]
    refine updated fun same entry inside => ?_
    subst same
    exact before entry (front ▸ List.mem_cons_of_mem _ (List.mem_cons_of_mem _ inside))
  case putBack taken attached evolves =>
    rw [evolves.live fee valid]
    refine updated fun same entry inside => ?_
    obtain ⟨freeA, freeB⟩ := concerns_holding free
    rcases List.mem_cons.mp inside with rfl | inside
    · exact freeA
    · rcases List.mem_cons.mp inside with rfl | inside
      · exact freeB
      · exact before entry (same ▸ inside)
  case abandon taken detached evolves =>
    rw [evolves.live fee valid]
    exact before
  case depart user' evolves =>
    rw [evolves.live fee valid]
    exact fun entry inside => before entry (List.mem_of_mem_filter inside)
  case leave user' evolves =>
    rw [evolves.live fee valid]
    exact fun entry inside => before entry (List.mem_of_mem_filter inside)
  all_goals
    obtain rfl : memory' = memory := ‹_›
    exact before

/-- A handler that has nothing to do with the user begins nothing with the user. -/
theorem Shift.concerns_clear (queues : ∀ fee ∈ validFees, ∀ entry ∈ memory.live fee, entry.userId ≠ user)
    (free : phase.concerns user = false) (shift : Shift memory memory' phase op reply phase') :
    phase'.concerns user = false := by
  cases shift
  case take fee' playerA playerB rest valid' front distinct evolves =>
    have freeA := queues fee' valid' playerA (front ▸ List.mem_cons_self)
    have freeB := queues fee' valid' playerB (front ▸ List.mem_cons_of_mem _ List.mem_cons_self)
    simp [Hold.concerns, freeA, freeB]
  case idle => exact free
  case reject => exact free
  case stale => exact free
  all_goals rfl

/-- **One operation of a handler leaves the user out.** -/
theorem Shift.clear (clear : Clear user memory phases) (found : phases[index]? = some (event, phase))
    (shift : Shift memory memory' phase op reply phase') :
    Clear user memory' (phases.set index (event, phase')) := by
  have free := clear.handlers _ (List.mem_of_getElem? found)
  refine ⟨shift.queues_clear clear.queues free, fun entry member => ?_⟩
  rcases List.mem_or_eq_of_mem_set member with old | rfl
  · exact clear.handlers entry old
  · exact shift.concerns_clear clear.queues free

/-- **`queue:leave` takes the user out** where no handler has to do with the user. -/
theorem Shift.clear_left (free : ∀ entry ∈ phases, entry.2.concerns user = false)
    (shift : Shift memory memory' (.leaving user) op reply (.left user)) :
    Clear user memory' (phases.set index (event, .left user)) := by
  cases shift
  case leave evolves =>
    refine ⟨fun fee valid entry inside => ?_, fun entry member => ?_⟩
    · rw [evolves.live fee valid] at inside
      simpa using (List.mem_filter.mp inside).2
    · rcases List.mem_or_eq_of_mem_set member with old | rfl
      · exact free entry old
      · rfl

theorem Clear.append (clear : Clear user memory phases) (free : event.hold.concerns user = false) :
    Clear user memory (phases ++ [(event, event.hold)]) := by
  refine ⟨clear.queues, fun entry member => ?_⟩
  rcases List.mem_append.mp member with old | new
  · exact clear.handlers entry old
  · cases List.mem_singleton.mp new
    exact free

theorem locks_of_queueless (quiet : op.queueless = true) : op.commits (·.locks user) = false := by
  cases op
  case transact transaction =>
    cases transaction
    case createMatch => cases quiet
    all_goals rfl
  all_goals rfl

theorem Shift.unlocked (free : phase.concerns user = false)
    (shift : Shift memory memory' phase op reply phase') : op.commits (·.locks user) = false := by
  cases shift
  case commit taken matchId problemId same =>
    obtain ⟨freeA, freeB⟩ := concerns_holding free
    simp [Op.commits, Transaction.locks, freeA, freeB]
  case reject taken matchId problemId err same =>
    obtain ⟨freeA, freeB⟩ := concerns_holding free
    simp [Op.commits, Transaction.locks, freeA, freeB]
  case idle same quiet => exact locks_of_queueless quiet
  case giveUp same gives quiet => exact locks_of_queueless quiet
  case lose same quiet => exact locks_of_queueless quiet
  all_goals rfl

end Clear

/-! ### Farewells -/

/-- What is known of a user who has been told of having left: the debits at that moment, and the matches of
the user committed since. -/
structure Farewell where
  debits : ℕ
  matched : List MatchId := []

/-- The users who have left and not joined again. -/
abbrev Farewells := UserId → Option Farewell

/-- A join ends the farewell. -/
def Farewells.starts : Handler → Farewells → Farewells
  | .queueJoin user _ _ _, told => Function.update told user none
  | _, told => told

/-- `queue:left` begins it, and a committed match is noted for both its players. -/
def Farewells.sees : Hold → (op : Op) → Except Err op.Reply → World → Farewells → Farewells
  | _, .emit (.sender user) .queueLeft, _, world, told =>
    Function.update told user (some { debits := world.db.debits user })
  | _, .transact (.createMatch matchId playerA playerB _ _), .ok _, _, told => fun user =>
    (told user).map fun farewell => if playerA = user ∨ playerB = user then
      { farewell with matched := farewell.matched ++ [matchId] } else farewell
  | _, _, _, _, told => told

/-- The observer of the farewells. -/
def porter : Observer queueing World Handler Farewells := doorkeeper Farewells.starts Farewells.sees

/-- **The condition on a run**: `queue:leave` takes the user out while no join of the user is under way and no
attempt holds the user, and the user does not join again before `queue:left`. -/
def courteous {γ : Type} (w : QueueRun γ) : BackendMove → Bool
  | .start (.queueJoin user _ _ _) => w.threads.all fun thread => thread.phase ≠ Hold.left user
  | .start _ => true
  | .step index _ => match w.threads[index]? with
    | some ⟨_, .leaving user, _⟩ => w.threads.all fun thread => !Hold.concerns user thread.phase
    | _ => true
  | .outside act => act.spares

/-- **The invariant of the farewells.** -/
structure Gone (world : World) (told : Farewells) (phases : List (Handler × Hold)) : Prop where
  leaving : ∀ entry ∈ phases, ∀ user, entry.2 = .left user → Clear user world.memory phases
  clear : ∀ user farewell, told user = some farewell → Clear user world.memory phases
  kept : ∀ user farewell, told user = some farewell → farewell = { debits := world.db.debits user }

section Gone

variable {user : UserId} {memory' : Memory} {phases : List (Handler × Hold)} {index : ℕ}
  {event : Handler} {phase phase' : Hold} {op : Op} {reply : Except Err op.Reply} {world world' : World}
  {told : Farewells} {farewell : Farewell}

theorem told_of_queueless (quiet : op.queueless = true) : told.sees phase op reply world = told := by
  unfold Farewells.sees
  split
  all_goals first | rfl | cases quiet

/-- A farewell after an operation was there before, or the user has just been told. -/
theorem Shift.told_cases (shift : Shift world.memory memory' phase op reply phase')
    (free : ∀ farewell, told user = some farewell → phase.concerns user = false)
    (after : told.sees phase op reply world user = some farewell) :
    told user = some farewell ∨ (phase = .left user ∧ farewell = { debits := world.db.debits user }) := by
  by_cases quiet : op.queueless = true
  · rw [told_of_queueless quiet] at after
    exact .inl after
  cases shift
  case tell user' same =>
    have after : Function.update told user' (some { debits := world.db.debits user' }) user = some farewell := after
    by_cases here : user = user'
    · subst here
      rw [Function.update_self] at after
      cases after
      exact .inr ⟨rfl, rfl⟩
    · rw [Function.update_of_ne here] at after
      exact .inl after
  case commit taken matchId problemId same =>
    obtain ⟨farewell', before, rfl⟩ := Option.map_eq_some_iff.mp after
    obtain ⟨freeA, freeB⟩ := concerns_holding (free farewell' before)
    simp [freeA, freeB, before]
  case idle same silent => exact absurd silent quiet
  case giveUp same gives silent => exact absurd silent quiet
  case lose same silent => exact absurd silent quiet
  all_goals exact .inl after

/-- Who is about to tell the user has taken the user out. -/
theorem Shift.left_cases (shift : Shift world.memory memory' phase op reply phase')
    (left : phase' = .left user) : phase = .left user ∨ phase = .leaving user := by
  cases shift
  case idle => exact .inl left
  case leave =>
    cases left
    exact .inr rfl
  all_goals cases left

namespace Gone

theorem congr {told' : Farewells} (gone : Gone world told phases) (memory : world'.memory = world.memory)
    (debits : ∀ user, world'.db.debits user = world.db.debits user)
    (fewer : ∀ user farewell, told' user = some farewell → told user = some farewell) :
    Gone world' told' phases := by
  refine ⟨?_, fun user farewell known => ?_, fun user farewell known => ?_⟩
  · rw [memory]
    exact gone.leaving
  · rw [memory]
    exact gone.clear user farewell (fewer user farewell known)
  · rw [debits]
    exact gone.kept user farewell (fewer user farewell known)

theorem append (gone : Gone world told phases) (free : ∀ user, event.hold.concerns user = true →
      told user = none ∧ ∀ entry ∈ phases, entry.2 ≠ .left user) :
    Gone world told (phases ++ [(event, event.hold)]) := by
  have away : ∀ user, event.hold ≠ .left user := by
    cases event
    all_goals exact nofun
  refine ⟨fun entry member user left => ?_, fun user farewell known => ?_, gone.kept⟩
  · rcases List.mem_append.mp member with old | new
    · refine (gone.leaving entry old user left).append (Bool.eq_false_iff.mpr fun concerns => ?_)
      exact (free user concerns).2 entry old left
    · cases List.mem_singleton.mp new
      exact absurd left (away user)
  · refine (gone.clear user farewell known).append (Bool.eq_false_iff.mpr fun concerns => ?_)
    rw [(free user concerns).1] at known
    cases known

/-- **One operation keeps the farewells.** -/
theorem step {env : Env} {choice : Choice} (gone : Gone world told phases)
    (found : phases[index]? = some (event, phase))
    (performed : op.perform env choice world = some (reply, world'))
    (shift : Shift world.memory world'.memory phase op reply phase')
    (polite : ∀ user, phase = .leaving user → ∀ entry ∈ phases, entry.2.concerns user = false) :
    Gone world' (told.sees phase op reply world) (phases.set index (event, phase')) := by
  have here := List.mem_of_getElem? found
  have before : ∀ user farewell, told.sees phase op reply world user = some farewell →
      Clear user world.memory phases ∧ farewell = { debits := world.db.debits user } := by
    intro user farewell known
    rcases shift.told_cases (fun farewell known => (gone.clear user farewell known).handlers _ here) known
      with old | ⟨left, new⟩
    · exact ⟨gone.clear user farewell old, gone.kept user farewell old⟩
    · exact ⟨gone.leaving _ here user left, new⟩
  refine ⟨fun entry member user left => ?_, fun user farewell known => ?_, fun user farewell known => ?_⟩
  · rcases List.mem_or_eq_of_mem_set member with old | rfl
    · exact shift.clear (gone.leaving entry old user left) found
    · rcases shift.left_cases left with still | leaving
      · exact shift.clear (gone.leaving _ here user still) found
      · cases left
        cases leaving
        exact shift.clear_left (polite user rfl)
  · exact shift.clear (before user farewell known).1 found
  · obtain ⟨clear, same⟩ := before user farewell known
    rw [debits_frame performed (shift.unlocked (clear.handlers _ here))]
    exact same

end Gone

end Gone

/-! ### Every run -/

/-- **The rule of the farewells.** -/
def farewellRule (env : Env) : QueueRule env porter (fun w move => courteous w move = true) where
  Inv world told phases := Gone world told phases
  enter := rfl
  spares _ _ spares := spares
  start w event state inv allowed arrived := by
    have unlocked : ∀ user, state.db.debits user = w.state.db.debits user := by
      rw [(arrive_frame arrived).2]
      exact fun _ => rfl
    by_cases joins : ∃ user username fee category, event = .queueJoin user username fee category
    · obtain ⟨user, username, fee, category, rfl⟩ := joins
      have forgotten : Gone state (Function.update w.notes user none) w.phases := by
        refine inv.congr (arrive_memory arrived) unlocked fun user' farewell known => ?_
        by_cases same : user' = user
        · rw [same, Function.update_self] at known
          cases known
        · rwa [Function.update_of_ne same] at known
      refine forgotten.append fun user' concerns => ?_
      obtain rfl : user = user' := of_decide_eq_true concerns
      refine ⟨Function.update_self _ _ _, fun entry member => ?_⟩
      obtain ⟨thread, running, rfl⟩ := List.mem_map.mp member
      simpa using List.all_eq_true.mp allowed thread running
    · have same : porter.starts event w.state w.notes = w.notes := by
        show Farewells.starts event w.notes = w.notes
        unfold Farewells.starts
        split
        · exact absurd ⟨_, _, _, _, rfl⟩ joins
        · rfl
      rw [same]
      refine (inv.congr (arrive_memory arrived) unlocked fun _ _ known => known).append fun user concerns => ?_
      cases event
      case queueJoin => exact absurd ⟨_, _, _, _, rfl⟩ joins
      all_goals cases concerns
  step w index choice event phase op next reply state stalls inv allowed found inPhase performed shift := by
    refine inv.step inPhase performed shift ?_
    rintro user rfl entry member
    obtain ⟨thread, running, rfl⟩ := List.mem_map.mp member
    have all : (w.threads.all fun thread => !Hold.concerns user thread.phase) = true := by
      simpa only [courteous, found] using allowed
    simpa using List.all_eq_true.mp all thread running
  fork world told phases child inv away := by
    have started : Gone world told (phases ++ [(child, child.hold)]) := by
      refine inv.append fun user concerns => ?_
      rw [away] at concerns
      cases concerns
    rwa [away] at started
  outside w act state inv spares acted := by
    refine inv.congr (memory_outside spares acted) (fun user => ?_) fun _ _ known => known
    cases act with
    | tick ms =>
      cases acted
      rfl
    | act choice op =>
      obtain ⟨⟨reply, state'⟩, performed, rfl⟩ := Option.map_eq_some_iff.mp acted
      exact debits_frame performed (locks_of_queueless spares)

/-- **Who has left has left.** Along every run that meets the condition, a user who has been told `queue:left`
and has not joined again is in no queue, no match of the user has been committed since, and the user has paid
no entry fee since. -/
theorem left_is_left (env : Env) {w₀ w : QueueRun Farewells} (idle : w₀.threads = [])
    (empty : w₀.state.memory = {}) (blank : w₀.notes = fun _ => none)
    (run : Watches (backend env) porter (fun w move => courteous w move = true) w₀ w) {user : UserId}
    {farewell : Farewell} (told : w.notes user = some farewell) :
    (∀ fee ∈ validFees, ∀ entry ∈ w.state.memory.live fee, entry.userId ≠ user) ∧
      farewell.matched = [] ∧ w.state.db.debits user = farewell.debits := by
  have initial : (farewellRule env).Inv w₀.state w₀.notes [] := by
    show Gone _ _ _
    rw [blank]
    exact ⟨List.forall_mem_nil _, nofun, nofun⟩
  obtain ⟨_, gone, _⟩ := (farewellRule env).holds idle empty initial run
  rw [gone.kept user farewell told]
  exact ⟨(gone.clear user farewell told).queues, rfl, rfl⟩

/-- Users 1 and 2 join. The attempt of the second join has taken both when user 1 leaves; then it commits
match 7. -/
def leavesTooLate : List BackendMove :=
  .start (.queueJoin 1 "ann" 10 "all") :: List.replicate 11 (.step 0 .proceed) ++
    .start (.queueJoin 2 "bob" 10 "all") :: List.replicate 13 (.step 1 .proceed) ++
    .start (.queueLeave 1) :: List.replicate 5 (.step 2 .proceed) ++
    [.step 1 .proceed, .step 1 (.fresh 7), .step 1 .proceed]

/-- **Who has left is matched**: `queue:left` is sent while user 1 has paid nothing, and then the fee of user 1
is locked for match 7. -/
theorem left_then_matched : ∃ w, Watches (backend sampleEnv) porter (fun _ move => queues move = true)
    ⟨openDoors, fun _ => none, []⟩ w ∧
      (w.notes 1).map (fun farewell => (farewell.debits, farewell.matched)) = some (0, [7]) ∧
      w.state.db.debits 1 = 1 := by
  obtain ⟨w, run, ended⟩ := Machine.exists_watch (backend sampleEnv) porter (fun _ move => queues move)
    ⟨openDoors, fun _ => none, []⟩ leavesTooLate
    (fun w => decide ((w.notes 1).map (fun farewell => (farewell.debits, farewell.matched)) = some (0, [7]) ∧
      w.state.db.debits 1 = 1)) (by decide +kernel)
  exact ⟨w, run, of_decide_eq_true ended⟩

/-- User 1 joins and leaves; user 2 joins and finds nobody. -/
def leavesInTime : List BackendMove :=
  .start (.queueJoin 1 "ann" 10 "all") :: List.replicate 11 (.step 0 .proceed) ++
    .start (.queueLeave 1) :: List.replicate 5 (.step 1 .proceed) ++
    .start (.queueJoin 2 "bob" 10 "all") :: List.replicate 11 (.step 2 .proceed)

theorem left_is_left_in_time : ∃ w farewell, Watches (backend sampleEnv) porter
    (fun w move => courteous w move = true) ⟨openDoors, fun _ => none, []⟩ w ∧
      (w.state.memory.live 10).map (·.userId) = [2] ∧ w.notes 1 = some farewell ∧
      w.state.db.debits 1 = farewell.debits := by
  obtain ⟨w, run, ended⟩ := Machine.exists_watch (backend sampleEnv) porter courteous
    ⟨openDoors, fun _ => none, []⟩ leavesInTime
    (fun w => decide ((w.state.memory.live 10).map (·.userId) = [2]) && (w.notes 1).isSome) (by decide +kernel)
  obtain ⟨users, told⟩ := Bool.and_eq_true_iff.mp ended
  obtain ⟨farewell, known⟩ := Option.isSome_iff_exists.mp told
  exact ⟨w, farewell, run, of_decide_eq_true users, known,
    (left_is_left sampleEnv rfl rfl rfl run known).2.2⟩

end SkillArena
