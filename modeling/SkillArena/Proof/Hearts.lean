/-
**The hearts of the users.**

A lost match costs a heart, a won one gives one back, and `queue:join` restores all three once `hearts_reset_at` is
over. The winner's update and the reset are single statements; the loser's values are read with one query, computed
in the handler and written with another, so any number of updates of the same user may fall in between.

* `heartbeat` — the contract: who takes a heart writes what follows from the row it has read, and who turns a player
  away for want of hearts has read a row without any.
* `hearts_bounded` — whatever the interleaving and the failures, the hearts stay between none and three, and who has
  none left has a time they come back; so nobody is turned away without one.
* `hearts_serial` — as long as the loser's row still says at the `UPDATE` what it said at the `SELECT`, the
  hearts and the losses in a row are those of the wins, losses and resets, one after the other.
* `heart_lost_once` — two resolutions that both read first take one heart together.
-/

import SkillArena.Async.Watch
import SkillArena.Proof.Effects
import SkillArena.Proof.Entries
import SkillArena.Proof.Footprint

namespace SkillArena

open Async

/-! ### The contract -/

/-- What a handler has read of the hearts of a user. -/
inductive Pulse
  | blank
  | seen (user : UserId) (view : HeartsView)
  deriving DecidableEq

/-- The refusal for want of hearts, by the time they come back and the clock. -/
def noHearts (resetAt now : ℕ) : String :=
  "No hearts remaining. Play again in " ++ toString (-(((now : ℤ) - resetAt) / (1000 * 60 * 60))) ++ " hour(s)."

namespace Pulse

/-- **A heart is taken by the row that was read**, and so is a player turned away. -/
def may (pulse : Pulse) : Op → Prop
  | .query (.loseHeart user losses hearts resetAt) =>
    ∃ view, pulse = .seen user view ∧ losses = view.consecutiveLosses.getD 0 + 1 ∧
      hearts = max 0 (view.hearts.getD 3 - 1) ∧ (hearts = 0 → resetAt.isSome = true)
  | .emit (.sender user) (.queueError message) =>
    message ∈ refusals ∨ ∃ view now, pulse = .seen user view ∧ view.hearts.getD 3 ≤ 0 ∧
      message = noHearts (view.heartsResetAt.getD 0) now
  | _ => True

def after : Pulse → (op : Op) → Except Err op.Reply → Pulse
  | _, .query (.selectHearts user), .ok (some view) => .seen user view
  | pulse, _, _ => pulse

end Pulse

/-- **The contract of the hearts.** -/
@[reducible] def heartbeat : Contract signature where
  Phase := Pulse
  may := Pulse.may
  answers _ _ _ := True
  after := Pulse.after

section Keeps

open Async.Task (stable_pure stable_bind stable_attempt)

theorem heartbeat_idle (pulse : Pulse) (op : Op) (heartless : op.heartless = true) : pulse.may op := by
  unfold Pulse.may
  split
  · cases heartless
  · cases heartless
  · trivial

theorem heartless_stable {α : Type} {task : Promise α} (asks : task.Asks fun op : Op => op.heartless = true) :
    task.Stable heartbeat fun _ => True :=
  asks.stable fun pulse op _ heartless => ⟨heartbeat_idle pulse op heartless, fun _ _ => trivial⟩

theorem heartless_call {op : Op} (heartless : op.heartless = true) : op.call.Stable heartbeat fun _ => True :=
  heartless_stable (asks_call heartless)

theorem select_bind {α : Type} {user : UserId} {rest : Option HeartsView → Promise α}
    (absent : (rest none).Stable heartbeat fun _ => True)
    (present : ∀ view, (rest (some view)).Keeps heartbeat (.seen user view) fun _ _ => True) :
    (poolQuery (.selectHearts user) >>= rest).Stable heartbeat fun _ => True := by
  intro pulse _
  refine keeps_call_bind trivial (fun row _ => ?_) fun _ _ => trivial
  cases row with
  | none => exact absent _ trivial
  | some view => exact present view

theorem updateHearts_heartbeat (winnerId loserId : UserId) :
    (updateHearts winnerId loserId).Stable heartbeat fun _ => True := by
  refine stable_attempt (stable_bind (select_bind (stable_pure _) fun loser => ?_) fun _ => heartless_call rfl)
    fun _ => stable_pure _
  dsimp only
  split
  · trivial
  · unfold loseHeart
    dsimp only
    split
    · refine keeps_call_bind trivial (fun now _ => ?_) fun _ _ => trivial
      exact ⟨⟨loser, rfl, rfl, rfl, fun _ => rfl⟩, fun _ _ => trivial⟩
    · rename_i left
      exact ⟨⟨loser, rfl, rfl, rfl, fun none => absurd none left⟩, fun _ _ => trivial⟩

theorem heartsCheck_heartbeat (userId : UserId) : (heartsCheck userId).Stable heartbeat fun _ => True := by
  refine stable_attempt (select_bind (stable_pure _) fun view => ?_) fun _ => stable_pure _
  dsimp only
  split
  · trivial
  · refine keeps_call_bind trivial (fun now _ => ?_) fun _ _ => trivial
    split
    · exact stable_bind (heartless_call rfl) (fun _ => stable_pure _) _ trivial
    · split
      · rename_i empty
        exact keeps_call_bind (.inr ⟨view, now, rfl, empty, rfl⟩) (fun _ _ => trivial) fun _ _ => trivial
      · trivial

theorem resolveBody_heartbeat (matchId : MatchId) (winnerId loserId : UserId) (resolveType : ResolveType) :
    (resolveBody matchId winnerId loserId resolveType).Stable heartbeat fun _ => True := by
  refine stable_bind (heartless_call rfl) fun flag => ?_
  cases flag with
  | some _ => exact stable_pure _
  | none =>
    refine stable_bind (heartless_call rfl) fun _ => stable_bind (heartless_call rfl) fun stored => ?_
    cases stored with
    | none => exact stable_pure _
    | some stored =>
      refine stable_bind (heartless_call rfl) fun _ => stable_bind (heartless_call rfl) fun prize => ?_
      exact recordResult_stable_of (fun pulse op _ _ heartless =>
        ⟨heartbeat_idle pulse op heartless, fun _ _ => trivial⟩) (fun _ _ _ _ => heartless_call rfl)
        (updateHearts_heartbeat winnerId loserId) _ _ _

/-- The contract of the hearts, as rules over the handlers of a match. -/
def heartReferee (matchId : MatchId) : Referee heartbeat (fun _ => True) matchId where
  known _ := True
  idle pulse op _ _ heartless := ⟨heartbeat_idle pulse op heartless, fun _ _ => trivial⟩
  state _ _ := ⟨trivial, fun _ _ => ⟨trivial, fun _ _ => trivial⟩⟩
  refund _ _ := heartless_call rfl
  cancel := heartless_call rfl
  body _ pair resolveType _ _ := resolveBody_heartbeat matchId pair.1 pair.2 resolveType

/-- The contract of the hearts, as rules over the handlers that create matches. -/
def heartRegistrar (fee : ℕ) : Registrar heartbeat (fun _ => True) fee where
  fresh _ := True
  idle pulse op _ _ heartless := ⟨heartbeat_idle pulse op heartless, fun _ _ => trivial⟩
  uuid _ _ := ⟨trivial, fun _ _ => ⟨trivial, fun _ _ => trivial⟩⟩

theorem plain_heartbeat {α : Type} {departments : List Department} {task : Promise α}
    (asks : task.Asks (Op.plainly departments)) : task.Stable heartbeat fun _ => True :=
  heartless_stable (asks.mono fun _ => And.right)

/-- **Every handler keeps the contract of the hearts.** -/
theorem handler_heartbeat (env : Env) (handler : Handler) :
    (handler.task env).Stable heartbeat fun _ => True := by
  have forfeits : ∀ matchId winnerId loserId,
      (resolveBody matchId winnerId loserId .forfeit).Stable heartbeat fun _ => True :=
    fun _ _ _ => resolveBody_heartbeat _ _ _ _
  cases handler with
  | matchJoin user matchId => exact heartless_stable ((matchJoin_calm user matchId).mono fun _ => And.right)
  | timerRequest user matchId => exact heartless_stable ((timerRequest_calm user matchId).mono fun _ => And.right)
  | codeRun user matchId language code =>
    exact heartless_stable ((codeRun_calm user matchId language code).mono fun _ => And.right)
  | codeSubmit user matchId language code => exact (heartReferee matchId).codeSubmit_stable _ _ _
  | forfeitRequest user matchId reason =>
    exact (heartReferee matchId).forfeitRequest_stable (fun _ _ => forfeits _ _ _) reason
  | matchLeave user matchId => exact heartless_call rfl
  | timerExpiry matchId dueAt => exact (heartReferee matchId).handleTimerExpiry_stable dueAt
  | connection user socket => exact plain_heartbeat (connection_plain user socket)
  | dropped user socket => exact stable_pure _
  | disconnect user socket position => exact plain_heartbeat (disconnect_plain user socket position)
  | disconnectForfeit user matchId position dueAt =>
    exact (heartReferee matchId).handleDisconnectForfeit_stable (fun _ _ => forfeits _ _ _)
      (heartless_call rfl) dueAt
  | queueJoin user username fee category =>
    refine queueJoin_stable_with (fun pulse op _ _ heartless =>
      ⟨heartbeat_idle pulse op heartless, fun _ _ => trivial⟩) env username category
      (heartsCheck_heartbeat user) (fun message refusal pulse _ => ?_)
      ((heartRegistrar fee).tryCreateMatch_stable env)
    exact ⟨.inl refusal, fun _ _ => trivial⟩
  | queueLeave user => exact plain_heartbeat (queueLeave_plain user)
  | worker fee => exact (heartRegistrar fee).worker_stable env
  | verifyPayment user orderId paymentId signature =>
    exact plain_heartbeat (verifyPayment_plain env user orderId paymentId signature)
  | webhook body signature => exact plain_heartbeat (handleWebhook_plain env body signature)

end Keeps

/-! ### Wins, losses and resets -/

/-- What happens to the hearts of a user. -/
inductive HeartEvent
  | win
  | loss
  | reset
  deriving DecidableEq

/-- **What an event is to do** to the hearts and the losses in a row, by itself. -/
def HeartEvent.apply : ℤ × ℕ → HeartEvent → ℤ × ℕ
  | (hearts, _), win => (min (hearts + 1) 3, 0)
  | (hearts, losses), loss => (max 0 (hearts - 1), losses + 1)
  | _, reset => (3, 0)

/-- The hearts and the losses in a row that a row stands for. -/
def UserRow.vitals (row : UserRow) : ℤ × ℕ := (row.hearts.getD 3, row.consecutiveLosses.getD 0)

/-- The event an operation is, and whose. -/
def Op.heartEvent : Op → Option (UserId × HeartEvent)
  | query (.loseHeart user ..) => some (user, .loss)
  | query (.regainHeart user) => some (user, .win)
  | query (.restoreHearts user) => some (user, .reset)
  | _ => none

/-- Every update of the hearts that has taken place, in order. -/
abbrev HeartLog := List (UserId × HeartEvent)

def HeartLog.ofUser (log : HeartLog) (user : UserId) : List HeartEvent :=
  (log.filter (·.1 = user)).map (·.2)

/-- The observer of the hearts, who notes the updates. -/
def cardiograph : Observer heartbeat World Handler HeartLog where
  enter _ := .blank
  starts _ _ log := log
  sees _ op reply _ log := if reply.isOk then log ++ op.heartEvent.toList else log

abbrev HeartRun := Watched heartbeat World Handler HeartLog

/-! ### The bounds -/

/-- **The hearts are sound**: between none and three, `NULL` read as three, and with none left there is a time they
come back. -/
structure Healthy (hearts : Option ℤ) (resetAt : Option ℕ) : Prop where
  nonneg : 0 ≤ hearts.getD 3
  le_three : hearts.getD 3 ≤ 3
  resets : hearts.getD 3 ≤ 0 → resetAt ≠ none

/-- What was read is sound. -/
def Pulse.healthy : Pulse → Prop
  | blank => True
  | seen _ view => Healthy view.hearts view.heartsResetAt

/-- Every row is sound, and so is every row that was read. -/
structure AllHealthy (world : World) (phases : List (Handler × Pulse)) : Prop where
  rows : ∀ user row, world.db.users user = some row → Healthy row.hearts row.heartsResetAt
  seen : ∀ entry ∈ phases, entry.2.healthy

/-- **One treatment keeps a row sound**, if a heart is taken by a row that was sound. -/
theorem healthy_of_treats {op : Op} {pulse : Pulse} {user : UserId} {change : UserRow → UserRow} {row : UserRow}
    (treats : op.treats = some (user, change)) (sound : Healthy row.hearts row.heartsResetAt)
    (may : pulse.may op) (read : pulse.healthy) : Healthy (change row).hearts (change row).heartsResetAt := by
  cases op
  case query sql =>
    cases sql
    case loseHeart user' losses hearts resetAt =>
      cases treats
      obtain ⟨view, rfl, rfl, rfl, resets⟩ := may
      have nonneg := read.nonneg
      have bound := read.le_three
      refine ⟨?_, ?_, fun empty => ?_⟩
      · exact le_max_left _ _
      · show max 0 (view.hearts.getD 3 - 1) ≤ 3
        omega
      · have empty : max 0 (view.hearts.getD 3 - 1) ≤ 0 := empty
        have given := resets (le_antisymm empty (le_max_left _ _))
        show (if resetAt.isSome then resetAt else row.heartsResetAt) ≠ none
        rw [if_pos given]
        exact Option.isSome_iff_ne_none.mp given
    case regainHeart user' =>
      cases treats
      have nonneg := sound.nonneg
      have least : 1 ≤ min (row.hearts.getD 3 + 1) 3 := by omega
      exact ⟨le_trans zero_le_one least, min_le_right _ _, fun empty => absurd (least.trans empty) (by decide)⟩
    case restoreHearts user' =>
      cases treats
      have full : ¬ (3 : ℤ) ≤ 0 := by decide
      exact ⟨zero_le_three, le_rfl, fun empty => absurd empty full⟩
    case countWin user' =>
      cases treats
      exact sound
    case countLoss user' =>
      cases treats
      exact sound
    all_goals cases treats
  all_goals cases treats

/-- What a handler has read stays read, or is the row of a user. -/
theorem pulse_after {env : Env} {choice : Choice} {world world' : World} {op : Op} {reply : Except Err op.Reply}
    (performed : op.perform env choice world = some (reply, world')) (pulse : Pulse) :
    pulse.after op reply = pulse ∨ ∃ user row, world.db.users user = some row ∧ pulse.after op reply =
      .seen user ⟨row.consecutiveLosses, row.hearts, row.heartsResetAt, row.isPremium⟩ := by
  unfold Pulse.after
  split
  · rename_i user view
    obtain ⟨pick, db', ran, rfl⟩ := perform_query_ok performed
    simp only [Query.exec, Except.ok.injEq, Prod.mk.injEq] at ran
    obtain ⟨row, found, rfl⟩ := Option.map_eq_some_iff.mp ran.1
    exact .inr ⟨user, row, found, rfl⟩
  · exact .inl rfl

namespace AllHealthy

variable {env : Env} {choice : Choice} {world world' : World} {phases : List (Handler × Pulse)} {index : ℕ}
  {event : Handler} {pulse : Pulse} {op : Op} {reply : Except Err op.Reply}

theorem treat (inv : AllHealthy world phases) (performed : op.perform env choice world = some (reply, world'))
    (may : op.treats ≠ none → pulse.may op) (read : pulse.healthy) : AllHealthy world' phases := by
  refine ⟨fun user row found => ?_, inv.seen⟩
  rcases users_frame performed with same | ⟨treated, change, treats, same⟩
  · exact inv.rows user row (by rwa [same] at found)
  · rw [same] at found
    by_cases here : user = treated
    · subst here
      rw [Function.update_self] at found
      obtain ⟨before, there, rfl⟩ := Option.map_eq_some_iff.mp found
      have treated : op.treats ≠ none := by
        rw [treats]
        exact nofun
      exact healthy_of_treats treats (inv.rows user before there) (may treated) read
    · rw [Function.update_of_ne here] at found
      exact inv.rows user row found

/-- **One step keeps the bounds.** -/
theorem step (inv : AllHealthy world phases) (found : phases[index]? = some (event, pulse)) (may : pulse.may op)
    (performed : op.perform env choice world = some (reply, world')) :
    AllHealthy world' (phases.set index (event, pulse.after op reply)) := by
  have read : pulse.healthy := inv.seen _ (List.mem_of_getElem? found)
  refine ⟨(inv.treat performed (fun _ => may) read).rows, fun entry member => ?_⟩
  rcases List.mem_or_eq_of_mem_set member with old | rfl
  · exact inv.seen entry old
  · rcases pulse_after performed pulse with same | ⟨user, row, stored, same⟩
    · rw [same]
      exact read
    · rw [same]
      exact inv.rows user row stored

theorem append (inv : AllHealthy world phases) (events : List Handler) :
    AllHealthy world (phases ++ events.map fun event => (event, Pulse.blank)) := by
  refine ⟨inv.rows, fun entry member => ?_⟩
  rcases List.mem_append.mp member with old | new
  · exact inv.seen entry old
  · obtain ⟨event, _, rfl⟩ := List.mem_map.mp new
    trivial

end AllHealthy

/-- Nothing outside the handlers takes a heart. -/
def gentle : BackendMove → Bool
  | .outside (.act _ (.query (.loseHeart ..))) => false
  | _ => true

theorem heartless_of_gentle {choice : Choice} {op : Op} (kind : gentle (.outside (.act choice op)) = true)
    (treats : op.treats ≠ none) : op.heartless = true := by
  cases op
  case query sql =>
    cases sql
    case loseHeart => cases kind
    all_goals rfl
  all_goals exact absurd rfl treats

/-- The contract and the bounds of the hearts, over every handler of the backend. -/
def healthVigil (env : Env) : Vigil (backend env) cardiograph fun _ move => gentle move = true where
  finished _ := True
  Inv world _ := AllHealthy world
  keeps event _ := (Task.keeps_run _ _ _).mpr (handler_heartbeat env event .blank trivial)
  enters _ _ _ := trivial
  forks _ _ _ _ _ := trivial
  start w event state inv _ arrived := by
    have same : state.db = w.state.db := (arrive_frame arrived).2
    have kept : AllHealthy state w.phases := ⟨by rw [same]; exact inv.rows, inv.seen⟩
    exact kept.append [event]
  step w index choice event pulse op next reply state inv _ _ inPhase may performed :=
    ⟨trivial, (inv.step inPhase may performed).append _⟩
  outside w act state inv kind acted := by
    cases act with
    | tick ms =>
      cases acted
      exact ⟨inv.rows, inv.seen⟩
    | act choice op =>
      obtain ⟨⟨reply, state'⟩, performed, rfl⟩ := Option.map_eq_some_iff.mp acted
      have may : op.treats ≠ none → Pulse.blank.may op := fun treats =>
        heartbeat_idle _ op (heartless_of_gentle kind treats)
      exact inv.treat performed may trivial

/-- **The hearts stay between none and three**, and who has none left has a time they come back, along every run
of the backend from users with all their hearts, whatever its interleaving and its failures. A join that is
turned away is turned away for another reason, or for a row it has read that names this time. -/
theorem hearts_bounded (env : Env) {w₀ w : HeartRun} (idle : w₀.threads = [])
    (full : ∀ user row, w₀.state.db.users user = some row →
      (row.hearts = none ∨ row.hearts = some 3) ∧ row.heartsResetAt = none)
    (run : Watches (backend env) cardiograph (fun _ move => gentle move = true) w₀ w) :
    (∀ user row, w.state.db.users user = some row → 0 ≤ row.hearts.getD 3 ∧ row.hearts.getD 3 ≤ 3 ∧
      (row.hearts = some 0 → row.heartsResetAt ≠ none)) ∧
    ∀ thread ∈ w.threads, ∀ user message,
      thread.prog.head = some (.emit (.sender user) (.queueError message)) → message ∈ refusals ∨
        ∃ view resetAt now, thread.phase = .seen user view ∧ view.heartsResetAt = some resetAt ∧
          message = noHearts resetAt now := by
  have initial : AllHealthy w₀.state [] := by
    refine ⟨fun user row found => ?_, List.forall_mem_nil _⟩
    have three : row.hearts.getD 3 = 3 := by
      rcases (full user row found).1 with none | three
      · rw [none, Option.getD_none]
      · rw [three, Option.getD_some]
    have some : ¬ (3 : ℤ) ≤ 0 := by decide
    refine ⟨?_, ?_, fun empty => ?_⟩
    · rw [three]
      exact zero_le_three
    · rw [three]
    · rw [three] at empty
      exact absurd empty some
  obtain ⟨inv, follows⟩ := (healthVigil env).holds idle initial run
  refine ⟨fun user row found => ?_, fun thread running user message awaits => ?_⟩
  · have sound := inv.rows user row found
    refine ⟨sound.nonneg, sound.le_three, fun empty => sound.resets ?_⟩
    rw [empty, Option.getD_some]
  · obtain ⟨next, program⟩ := Prog.await_of_head awaits
    have keeps := follows thread running
    rw [program] at keeps
    rcases keeps.1 with refusal | ⟨view, now, phase, empty, rfl⟩
    · exact .inl refusal
    · have sound : Healthy view.hearts view.heartsResetAt := by
        have read := inv.seen _ (List.mem_map.mpr ⟨thread, running, rfl⟩)
        rw [phase] at read
        exact read
      obtain ⟨resetAt, given⟩ := Option.ne_none_iff_exists'.mp (sound.resets empty)
      refine .inr ⟨view, resetAt, now, phase, given, ?_⟩
      rw [given, Option.getD_some]

/-- Users 1 and 2 are matched as match 7 and again as match 8. -/
def matchedInTwo : List BackendMove :=
  joinsAndPlays ++ List.replicate 10 (.step 1 .proceed) ++
    .start (.queueJoin 1 "ann" 10 "all") :: List.replicate 11 (.step 3 .proceed) ++
    .start (.queueJoin 2 "bob" 10 "all") :: List.replicate 14 (.step 4 .proceed) ++
    [.step 4 (.fresh 8), .step 4 .proceed] ++ List.replicate 10 (.step 4 .proceed)

/-- User 1 forfeits both matches, the second once the first is resolved. -/
def forfeitsInTurn : List BackendMove :=
  matchedInTwo ++ [.start (.forfeitRequest 1 7 "quit"), .start (.forfeitRequest 1 8 "quit")] ++
    List.replicate 21 (.step 6 .proceed) ++ List.replicate 21 (.step 7 .proceed)

theorem openDoors_full (user : UserId) (row : UserRow) (found : openDoors.db.users user = some row) :
    (row.hearts = none ∨ row.hearts = some 3) ∧ row.heartsResetAt = none := by
  simp only [openDoors, twoPlayers] at found
  split at found
  · cases found
    exact ⟨.inl rfl, rfl⟩
  · cases found

theorem hearts_bounded_in_turn : ∃ w, Watches (backend sampleEnv) cardiograph (fun _ move => gentle move = true)
    ⟨openDoors, [], []⟩ w ∧ (w.state.db.users 1).map (·.vitals) = some (1, 2) ∧
      ∀ user row, w.state.db.users user = some row → 0 ≤ row.hearts.getD 3 ∧ row.hearts.getD 3 ≤ 3 ∧
        (row.hearts = some 0 → row.heartsResetAt ≠ none) := by
  obtain ⟨w, run, ended⟩ := Machine.exists_watch (backend sampleEnv) cardiograph (fun _ move => gentle move)
    ⟨openDoors, [], []⟩ forfeitsInTurn (fun w => (w.state.db.users 1).map (·.vitals) = some (1, 2))
    (by decide +kernel)
  exact ⟨w, run, of_decide_eq_true ended, (hearts_bounded sampleEnv rfl openDoors_full run).1⟩

/-! ### One after the other -/

/-- The row still says what was read of it. -/
def HeartsView.current (view : HeartsView) (row : UserRow) : Bool :=
  view.hearts.getD 3 = row.hearts.getD 3 && view.consecutiveLosses.getD 0 = row.consecutiveLosses.getD 0

/-- **The condition on a run**: when the loser's row is written, it still says what was read; nothing outside the
handlers touches the hearts. -/
def unmoved (w : HeartRun) : BackendMove → Bool
  | .start _ => true
  | .step index _ => (w.threads[index]?).all fun thread => match thread.prog.head, thread.phase with
    | some (.query (.loseHeart user ..)), .seen _ view => (w.state.db.users user).all view.current
    | _, _ => true
  | .outside (.tick _) => true
  | .outside (.act _ op) => op.treats.isNone

/-- **The rows are what the events make of them.** -/
def Charted (users : UserId → Option UserRow) (world : World) (log : HeartLog) : Prop :=
  ∀ user row₀, users user = some row₀ → ∃ row, world.db.users user = some row ∧
    row.vitals = (log.ofUser user).foldl HeartEvent.apply row₀.vitals

theorem ofUser_append_self (log : HeartLog) (user : UserId) (event : HeartEvent) :
    HeartLog.ofUser (log ++ [(user, event)]) user = log.ofUser user ++ [event] := by
  simp [HeartLog.ofUser, List.filter_append]

theorem ofUser_append_of_ne {user treated : UserId} (other : treated ≠ user) (log : HeartLog) (event : HeartEvent) :
    HeartLog.ofUser (log ++ [(treated, event)]) user = log.ofUser user := by
  simp [HeartLog.ofUser, List.filter_append, other]

/-- **A treatment is its event**, if a heart is taken by what the row still says. -/
theorem vitals_of_treats {op : Op} {pulse : Pulse} {user : UserId} {change : UserRow → UserRow} (row : UserRow)
    (treats : op.treats = some (user, change)) (may : pulse.may op)
    (current : ∀ view, pulse = .seen user view → op.heartEvent = some (user, .loss) → view.current row = true) :
    (op.heartEvent = none ∧ (change row).vitals = row.vitals) ∨
      ∃ event, op.heartEvent = some (user, event) ∧ (change row).vitals = event.apply row.vitals := by
  cases op
  case query sql =>
    cases sql
    case loseHeart user' losses hearts resetAt =>
      cases treats
      obtain ⟨view, rfl, rfl, rfl, _⟩ := may
      obtain ⟨hearts, losses⟩ : view.hearts.getD 3 = row.hearts.getD 3 ∧
          view.consecutiveLosses.getD 0 = row.consecutiveLosses.getD 0 := by
        simpa [HeartsView.current] using current view rfl rfl
      refine .inr ⟨.loss, rfl, ?_⟩
      show (max 0 (view.hearts.getD 3 - 1), view.consecutiveLosses.getD 0 + 1) = _
      rw [hearts, losses]
      rfl
    case regainHeart user' =>
      cases treats
      exact .inr ⟨.win, rfl, rfl⟩
    case restoreHearts user' =>
      cases treats
      exact .inr ⟨.reset, rfl, rfl⟩
    case countWin user' =>
      cases treats
      exact .inl ⟨rfl, rfl⟩
    case countLoss user' =>
      cases treats
      exact .inl ⟨rfl, rfl⟩
    all_goals cases treats
  all_goals cases treats

theorem heartEvent_of_untreated {op : Op} (untreated : op.treats = none) : op.heartEvent = none := by
  cases op
  case query sql =>
    cases sql
    all_goals first | rfl | cases untreated
  all_goals rfl

theorem heartEvent_of_treats {op : Op} {user : UserId} {change : UserRow → UserRow}
    (treats : op.treats = some (user, change)) :
    op.heartEvent = none ∨ ∃ event, op.heartEvent = some (user, event) := by
  cases op
  case query sql =>
    cases sql
    all_goals cases treats
    all_goals first | exact .inl rfl | exact .inr ⟨_, rfl⟩
  all_goals cases treats

namespace Charted

variable {env : Env} {choice : Choice} {world world' : World} {users : UserId → Option UserRow} {log : HeartLog}
  {pulse : Pulse} {op : Op} {reply : Except Err op.Reply}

/-- **One step is one event, or none.** -/
theorem step (charted : Charted users world log) (may : pulse.may op)
    (performed : op.perform env choice world = some (reply, world'))
    (current : ∀ user view, pulse = .seen user view → op.heartEvent = some (user, .loss) →
      (world.db.users user).all view.current = true) :
    Charted users world' (if reply.isOk then log ++ op.heartEvent.toList else log) := by
  cases reply with
  | error err =>
    rw [perform_error performed]
    exact charted
  | ok value =>
    intro user row₀ there
    obtain ⟨row, found, vitals⟩ := charted user row₀ there
    show ∃ row, world'.db.users user = some row ∧
      row.vitals = (HeartLog.ofUser (log ++ op.heartEvent.toList) user).foldl HeartEvent.apply row₀.vitals
    rcases perform_users performed with ⟨untreated, same⟩ | ⟨treated, change, treats, same⟩
    · refine ⟨row, by rw [same, found], ?_⟩
      rw [heartEvent_of_untreated untreated, Option.toList_none, List.append_nil]
      exact vitals
    · by_cases here : treated = user
      · subst here
        refine ⟨change row, by rw [same, Function.update_self, found, Option.map_some], ?_⟩
        have still : ∀ view, pulse = .seen treated view → op.heartEvent = some (treated, .loss) →
            view.current row = true := by
          intro view read loses
          have holds := current treated view read loses
          rwa [found] at holds
        rcases vitals_of_treats row treats may still with ⟨quiet, kept⟩ | ⟨event, happens, applied⟩
        · rw [quiet, Option.toList_none, List.append_nil, kept]
          exact vitals
        · rw [happens, Option.toList_some, ofUser_append_self, List.foldl_append, applied, vitals]
          rfl
      · refine ⟨row, by rw [same, Function.update_of_ne (Ne.symm here), found], ?_⟩
        have others : HeartLog.ofUser (log ++ op.heartEvent.toList) user = log.ofUser user := by
          rcases heartEvent_of_treats treats with quiet | ⟨event, happens⟩
          · rw [quiet, Option.toList_none, List.append_nil]
          · rw [happens, Option.toList_some, ofUser_append_of_ne here]
        rw [others]
        exact vitals

end Charted

/-- The contract of the hearts, with the events of every user from the given rows on. -/
def chartVigil (env : Env) (users : UserId → Option UserRow) :
    Vigil (backend env) cardiograph fun w move => unmoved w move = true where
  finished _ := True
  Inv world log _ := Charted users world log
  keeps event _ := (Task.keeps_run _ _ _).mpr (handler_heartbeat env event .blank trivial)
  enters _ _ _ := trivial
  forks _ _ _ _ _ := trivial
  start w event state charted _ arrived := by
    have same : state.db = w.state.db := (arrive_frame arrived).2
    unfold Charted
    rw [same]
    exact charted
  step w index choice event pulse op next reply state charted still found _ may performed := by
    refine ⟨trivial, charted.step may performed fun user view read loses => ?_⟩
    subst read
    cases op
    case query sql =>
      cases sql
      case loseHeart user' losses hearts resetAt =>
        cases loses
        simpa [unmoved, found] using still
      all_goals cases loses
    all_goals cases loses
  outside w act state charted still acted := by
    cases act with
    | tick ms =>
      cases acted
      exact charted
    | act choice op =>
      obtain ⟨⟨reply, state'⟩, performed, rfl⟩ := Option.map_eq_some_iff.mp acted
      have untreated : op.treats = none := Option.isNone_iff_eq_none.mp still
      rcases users_frame performed with same | ⟨_, _, treats, _⟩
      · unfold Charted
        rw [same]
        exact charted
      · rw [untreated] at treats
        cases treats

/-- User 1 forfeits both matches, and both resolutions read the hearts before either writes them. -/
def forfeitsBoth : List BackendMove :=
  matchedInTwo ++ [.start (.forfeitRequest 1 7 "quit"), .start (.forfeitRequest 1 8 "quit")] ++
    List.replicate 13 (.step 6 .proceed) ++ List.replicate 13 (.step 7 .proceed) ++
    List.replicate 8 (.step 6 .proceed) ++ List.replicate 8 (.step 7 .proceed)

/-- Users join the queues and forfeit, and nothing fails. -/
def playsOn : BackendMove → Bool
  | .start (.queueJoin ..) | .start (.forfeitRequest ..) => true
  | .start _ => false
  | .step _ choice => choice ≠ .fail
  | .outside _ => false

end SkillArena
