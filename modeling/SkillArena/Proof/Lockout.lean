/-
**Players without hearts.**

A user who has no hearts left is not to play before they come back. The hearts are read once, at `queue:join`; the
match is committed much later, and nothing looks at the hearts again. A player who waits in the queues of two fees
can lose the last heart in a match of one and be matched from the other (`plays_without_hearts`).

* `checking` — the contract of the hearts check: who pushes to a queue has passed it.
* `turnstile` — this contract beside the one of the queues.
* `around` — the users on their way into a match: in a queue, past the check, or taken from a queue.
* `matched_with_hearts` — as long as the last heart of a user is taken only while the user is on no such way, no
  match is committed with a player who is locked out.
-/

import SkillArena.Proof.Entries
import SkillArena.Proof.Hearts
import SkillArena.Proof.Queue

namespace SkillArena

open Async

/-! ### The contract -/

/-- How far the join of a user has come with its hearts check; other handlers make none. -/
inductive Gate
  | exempt
  | unchecked (user : UserId)
  | passed (user : UserId)
  deriving DecidableEq

/-- The row that was read lets its user play, without a look at the clock. -/
def HeartsView.admits (view : HeartsView) : Bool := view.isPremium || 0 < view.hearts.getD 3

def Handler.gate : Handler → Gate
  | queueJoin user .. => .unchecked user
  | _ => .exempt

namespace Gate

/-- **Who pushes has passed the check**, and checks its own user. -/
def may : Gate → Op → Prop
  | unchecked _, .memory (.push ..) => False
  | unchecked user, .query (.selectHearts user') => user' = user
  | unchecked user, .query (.restoreHearts user') => user' = user
  | _, _ => True

/-- The statements of the check do not fail. -/
def answers : (op : Op) → Except Err op.Reply → Prop
  | .query (.selectHearts _), reply => reply.isOk = true
  | .query (.restoreHearts _), reply => reply.isOk = true
  | .dateNow, reply => reply.isOk = true
  | .emit .., reply => reply.isOk = true
  | _, _ => True

def after : Gate → (op : Op) → Except Err op.Reply → Gate
  | unchecked user, .query (.selectHearts _), .ok view =>
    if view.all HeartsView.admits then passed user else unchecked user
  | unchecked user, .query (.restoreHearts _), .ok _ => passed user
  | gate, _, _ => gate

end Gate

/-- **The contract of the hearts check.** -/
@[reducible] def checking : Contract signature where
  Phase := Gate
  may := Gate.may
  answers _ := Gate.answers
  after := Gate.after

/-- The contract of the queues beside the one of the hearts check. -/
@[reducible] def turnstile : Contract signature := queueing.both checking

section Keeps

variable {gate : Gate} {user : UserId}

theorem checked_keeps {α : Type} (task : Promise α) (checked : ∀ user, gate ≠ .unchecked user) :
    task.Keeps checking gate fun _ phase => phase = gate := by
  obtain ⟨prog⟩ := task
  show prog.Keeps checking gate fun _ phase => phase = gate
  have idle : ∀ op reply, gate.may op ∧ gate.after op reply = gate := by
    intro op reply
    cases gate
    case unchecked user => exact absurd rfl (checked user)
    all_goals exact ⟨trivial, rfl⟩
  induction prog with
  | done value => rfl
  | await op next ih =>
    refine ⟨(idle op (.error .unavailable)).1, fun reply _ => ?_⟩
    rw [show checking.after gate op reply = gate from (idle op reply).2]
    exact ih reply

theorem passed_keeps {α : Type} (task : Promise α) (user : UserId) :
    task.Keeps checking (.passed user) fun _ phase => phase = .passed user :=
  checked_keeps task nofun

theorem exempt_keeps {α : Type} (task : Promise α) : task.Keeps checking .exempt fun _ phase => phase = .exempt :=
  checked_keeps task nofun

/-- A join that goes on has passed the check. -/
def Gate.follows (user : UserId) : Except Err Bool → Gate → Prop
  | .ok true, gate => gate = .passed user
  | _, _ => True

theorem follows_passed (user : UserId) (result : Except Err Bool) : Gate.follows user result (.passed user) := by
  unfold Gate.follows
  split
  · rfl
  · trivial

/-- **The hearts check** lets a join go on by what it has read, or once it has given the hearts back. -/
theorem heartsCheck_checking (user : UserId) :
    (heartsCheck user).Keeps checking (.unchecked user) (Gate.follows user) := by
  refine (Task.keeps_attempt _ _ _ _).mpr ?_
  refine keeps_call_bind rfl (fun userData _ => ?_) fun _ answer => by cases answer
  cases userData with
  | none => exact rfl
  | some view =>
    cases admitted : view.admits with
    | true =>
      have passed : checking.after (.unchecked user) (.query (.selectHearts user)) (.ok (some view)) =
          .passed user := by
        show (if view.admits then Gate.passed user else .unchecked user) = .passed user
        rw [admitted, if_pos rfl]
      rw [passed]
      refine (passed_keeps _ user).mono ?_
      rintro (err | value) _ rfl
      · exact rfl
      · exact follows_passed user _
    | false =>
      have refused : checking.after (.unchecked user) (.query (.selectHearts user)) (.ok (some view)) =
          .unchecked user := by
        show (if view.admits then Gate.passed user else .unchecked user) = .unchecked user
        rw [admitted, if_neg Bool.false_ne_true]
      rw [refused]
      obtain ⟨free, empty⟩ : view.isPremium = false ∧ view.hearts.getD 3 ≤ 0 := by
        simpa [HeartsView.admits] using admitted
      dsimp only
      rw [if_neg (by simp [free])]
      refine keeps_call_bind trivial (fun now _ => ?_) fun _ answer => by cases answer
      split
      · exact keeps_call_bind rfl (fun _ _ => rfl) fun _ answer => by cases answer
      · exact keeps_call_bind trivial (fun _ _ => trivial) fun _ answer => by cases answer

/-- **`queue:join`** pushes after its hearts check only. -/
theorem queueJoin_checking (env : Env) (user : UserId) (username : String) (fee : ℕ) (category : String) :
    (queueJoin env user username fee category).Keeps checking (.unchecked user) fun _ _ => True := by
  have tells : ∀ {room : Room} {event : Event} (gate : Gate),
      (emit room event).Keeps checking gate fun _ _ => True := by
    intro room event gate
    refine ⟨?_, fun _ _ => trivial⟩
    cases gate
    all_goals trivial
  have caught : ∀ {task : Promise Unit} {gate : Gate}, task.Keeps checking gate (fun _ _ => True) →
      (Task.attempt task fun _ => emit (.sender user) (.queueError "Failed to join queue. Try again.")).Keeps
        checking gate fun _ _ => True := by
    intro task gate keeps
    refine (Task.keeps_attempt _ _ _ _).mpr (keeps.mono ?_)
    rintro (err | _) gate _
    · exact tells gate
    · trivial
  refine caught ?_
  split
  · exact tells _
  · refine keeps_call_bind trivial (fun _ _ => ?_) fun _ _ => trivial
    refine (Task.keeps_bind _ _ _ _).mpr ((heartsCheck_checking user).mono ?_)
    rintro (err | goesOn) gate follows
    · trivial
    · cases goesOn with
      | false => trivial
      | true =>
        obtain rfl : gate = .passed user := follows
        exact (passed_keeps _ user).mono fun _ _ _ => trivial

/-- **Every handler goes through the turnstile.** -/
theorem handler_turnstile (env : Env) (handler : Handler) :
    (handler.task env).Keeps turnstile (handler.hold, handler.gate) fun _ phase => phase.1.ended := by
  have checks : (handler.task env).Keeps checking handler.gate fun _ _ => True := by
    cases handler
    case queueJoin user username fee category => exact queueJoin_checking env user username fee category
    all_goals exact (exempt_keeps _).mono fun _ _ _ => trivial
  exact (Prog.Keeps.both (handler_queueing env handler) checks).mono fun _ _ => And.left

end Keeps

/-! ### Locked out -/

/-- **The user may not play**: not premium, without hearts, and the time they come back is still to come. -/
def UserRow.lockedOut (now : ℕ) (row : UserRow) : Bool :=
  !row.isPremium && row.hearts = some 0 && row.heartsResetAt.any (now < ·)

def World.lockedOut (world : World) (user : UserId) : Bool :=
  (world.db.users user).any (·.lockedOut world.now)

/-- The operation takes the last heart of a user. -/
def Op.takesLast (user : UserId) : Op → Bool
  | query (.loseHeart user' _ hearts _) => user' = user && hearts = 0
  | _ => false

section Rows

variable {env : Env} {choice : Choice} {world world' : World} {op : Op} {reply : Except Err op.Reply}
  {user : UserId}

theorem lockedOut_iff : world.lockedOut user = true ↔
    ∃ row, world.db.users user = some row ∧ row.lockedOut world.now = true := by
  rw [World.lockedOut, Option.any_eq_true]

/-- **Only the loss of the last heart locks out.** -/
theorem lockedOut_of_treats {change : UserRow → UserRow} {now : ℕ} {row : UserRow}
    (treats : op.treats = some (user, change)) (after : (change row).lockedOut now = true) :
    row.lockedOut now = true ∨ op.takesLast user = true := by
  cases op
  case query sql =>
    cases sql
    case loseHeart user' losses hearts resetAt =>
      cases treats
      simp only [UserRow.lockedOut, Bool.and_eq_true, decide_eq_true_eq] at after
      refine .inr ?_
      simpa [Op.takesLast] using after.1.2
    case regainHeart user' =>
      cases treats
      simp [UserRow.lockedOut] at after
    case restoreHearts user' =>
      cases treats
      simp [UserRow.lockedOut] at after
    case countWin user' =>
      cases treats
      exact .inl after
    case countLoss user' =>
      cases treats
      exact .inl after
    all_goals cases treats
  all_goals cases treats

/-- Who is locked out after an operation was so before, or has lost the last heart with it. -/
theorem lockedOut_frame (performed : op.perform env choice world = some (reply, world'))
    (after : world'.lockedOut user = true) : world.lockedOut user = true ∨ op.takesLast user = true := by
  obtain ⟨row, found, locked⟩ := lockedOut_iff.mp after
  rw [now_frame performed] at locked
  rcases users_frame performed with same | ⟨treated, change, treats, same⟩
  · rw [same] at found
    exact .inl (lockedOut_iff.mpr ⟨row, found, locked⟩)
  · rw [same] at found
    by_cases here : user = treated
    · subst here
      rw [Function.update_self] at found
      obtain ⟨before, there, rfl⟩ := Option.map_eq_some_iff.mp found
      exact (lockedOut_of_treats treats locked).imp_left fun locked => lockedOut_iff.mpr ⟨before, there, locked⟩
    · rw [Function.update_of_ne here] at found
      exact .inl (lockedOut_iff.mpr ⟨row, found, locked⟩)

theorem lockedOut_later (db : world'.db = world.db) (later : world.now ≤ world'.now)
    (after : world'.lockedOut user = true) : world.lockedOut user = true := by
  obtain ⟨row, found, locked⟩ := lockedOut_iff.mp after
  rw [db] at found
  refine lockedOut_iff.mpr ⟨row, found, ?_⟩
  simp only [UserRow.lockedOut, Bool.and_eq_true, Option.any_eq_true, decide_eq_true_eq] at locked ⊢
  obtain ⟨empty, resetAt, given, future⟩ := locked
  exact ⟨empty, resetAt, given, later.trans_lt future⟩

theorem open_of_admits {row : UserRow} {now : ℕ} (admitted : HeartsView.admits ⟨row.consecutiveLosses, row.hearts,
    row.heartsResetAt, row.isPremium⟩ = true) : row.lockedOut now = false := by
  rcases Bool.or_eq_true_iff.mp admitted with premium | hearts
  · have premium : row.isPremium = true := premium
    simp [UserRow.lockedOut, premium]
  · have some : row.hearts ≠ some 0 := by
      intro none
      have none : row.hearts.getD 3 = 0 := by rw [none, Option.getD_some]
      simp [none] at hearts
    simp [UserRow.lockedOut, some]

/-- **Who passes the check is not locked out** at that moment. -/
theorem open_of_passed (performed : op.perform env choice world = some (reply, world'))
    (may : (Gate.unchecked user).may op) (passed : (Gate.unchecked user).after op reply = .passed user) :
    world'.lockedOut user = false := by
  unfold Gate.after at passed
  split at passed
  · rename_i asked view same
    cases same
    obtain rfl : asked = user := may
    obtain ⟨pick, db', ran, rfl⟩ := perform_query_ok performed
    simp only [Query.exec, Except.ok.injEq, Prod.mk.injEq] at ran
    obtain ⟨rfl, rfl⟩ := ran
    split at passed
    · rename_i admitted
      show (world.db.users asked).any (·.lockedOut world.now) = false
      cases found : world.db.users asked with
      | none => rfl
      | some row =>
        rw [found] at admitted
        exact open_of_admits admitted
    · cases passed
  · rename_i asked _ same
    cases same
    obtain rfl : asked = user := may
    obtain ⟨pick, db', ran, rfl⟩ := perform_query_ok performed
    simp only [Query.exec, Except.ok.injEq, Prod.mk.injEq, true_and] at ran
    subst ran
    show (Function.update world.db.users asked ((world.db.users asked).map _) asked).any
      (·.lockedOut world.now) = false
    rw [Function.update_self]
    cases world.db.users asked with
    | none => rfl
    | some row => simp [UserRow.lockedOut]
  · cases passed

end Rows

/-! ### On the way into a match -/

/-- The user whose join a handler is about to make. -/
def Hold.joiner : Hold → Option UserId
  | arriving user _ | joining user _ => some user
  | _ => none

/-- The join of the user is past its check and has not pushed, or the user is taken from a queue. -/
def entering (user : UserId) : Hold × Gate → Bool
  | (.holding taken, _) => taken.playerA.userId = user || taken.playerB.userId = user
  | (hold, gate) => hold.joiner = some user && gate = .passed user

/-- **The user is on the way into a match**: waits in a queue, or is being brought into or out of one. -/
def around (user : UserId) (memory : Memory) (phases : List (Handler × (Hold × Gate))) : Bool :=
  validFees.any (fun fee => (memory.live fee).any (·.userId = user)) ||
    phases.any fun entry => entering user entry.2

theorem entering_iff {user : UserId} {phase : Hold × Gate} : entering user phase = true ↔
    (∃ taken, phase.1 = .holding taken ∧ (taken.playerA.userId = user ∨ taken.playerB.userId = user)) ∨
      (phase.1.joiner = some user ∧ phase.2 = .passed user) := by
  obtain ⟨hold, gate⟩ := phase
  cases hold
  all_goals simp [entering, Hold.joiner]

theorem around_iff {user : UserId} {memory : Memory} {phases : List (Handler × (Hold × Gate))} :
    around user memory phases = true ↔ (∃ fee ∈ validFees, ∃ entry ∈ memory.live fee, entry.userId = user) ∨
      ∃ entry ∈ phases, entering user entry.2 = true := by
  simp [around]

namespace Shift

variable {memory memory' : Memory} {phase phase' : Hold} {op : Op} {reply : Except Err op.Reply}

/-- **Where an entry of a queue comes from.** -/
theorem mem_live (shift : Shift memory memory' phase op reply phase') {fee : ℕ} (valid : fee ∈ validFees)
    {entry : QueueEntry} (waits : entry ∈ memory'.live fee) : entry ∈ memory.live fee ∨
      (∃ taken, phase = .holding taken ∧ (entry = taken.playerA ∨ entry = taken.playerB)) ∨
      (phase.joiner = some entry.userId ∧
        ∃ fee user username category, op = .memory (.push fee user username category)) := by
  have before : memory'.live fee = memory.live fee → entry ∈ memory.live fee := fun same => same ▸ waits
  have filtered : ∀ {user : UserId}, memory'.live fee = (memory.live fee).filter (·.userId != user) →
      entry ∈ memory.live fee := by
    intro user same
    rw [same] at waits
    exact List.mem_of_mem_filter waits
  -- what is written to the queue of one fee, and the queues of the other fees as they were
  have updated : ∀ {fee' : ℕ} {entries : List QueueEntry},
      memory'.live fee = Function.update memory.live fee' entries fee →
      (fee = fee' ∧ entry ∈ entries) ∨ entry ∈ memory.live fee := by
    intro fee' entries same
    rw [same] at waits
    by_cases here : fee = fee'
    · subst here
      rw [Function.update_self] at waits
      exact .inl ⟨rfl, waits⟩
    · rw [Function.update_of_ne here] at waits
      exact .inr waits
  cases shift
  case stale evolves =>
    rcases updated (evolves.live fee valid) with ⟨rfl, inside⟩ | old
    · exact .inl (List.mem_of_mem_filter inside)
    · exact .inl old
  case push user fee' username category _ evolves _ =>
    rcases updated (evolves.live fee valid) with ⟨rfl, inside⟩ | old
    · rcases List.mem_append.mp inside with old | new
      · exact .inl old
      · cases List.mem_singleton.mp new
        exact .inr (.inr ⟨rfl, _, _, _, _, rfl⟩)
    · exact .inl old
  case drop line _ evolves =>
    rcases updated (evolves.live fee valid) with ⟨rfl, inside⟩ | old
    · rw [line]
      exact .inl (List.mem_cons_of_mem _ inside)
    · exact .inl old
  case take line _ evolves =>
    rcases updated (evolves.live fee valid) with ⟨rfl, inside⟩ | old
    · rw [line]
      exact .inl (List.mem_cons_of_mem _ (List.mem_cons_of_mem _ inside))
    · exact .inl old
  case putBack taken _ evolves =>
    rcases updated (evolves.live fee valid) with ⟨rfl, inside⟩ | old
    · rcases List.mem_cons.mp inside with first | later
      · exact .inr (.inl ⟨taken, rfl, .inl first⟩)
      · rcases List.mem_cons.mp later with second | old
        · exact .inr (.inl ⟨taken, rfl, .inr second⟩)
        · exact .inl old
    · exact .inl old
  case abandon evolves => exact .inl (before (evolves.live fee valid))
  case depart evolves => exact .inl (filtered (evolves.live fee valid))
  case leave evolves => exact .inl (filtered (evolves.live fee valid))
  all_goals
    obtain rfl : memory' = memory := ‹_›
    exact .inl waits

/-- **Where the players a handler holds come from.** -/
theorem mem_of_holding (shift : Shift memory memory' phase op reply phase') {taken : Taken}
    (holds : phase' = .holding taken) : phase = .holding taken ∨
      taken.fee ∈ validFees ∧ taken.playerA ∈ memory.live taken.fee ∧ taken.playerB ∈ memory.live taken.fee := by
  cases shift
  case take playerA playerB rest valid line distinct evolves =>
    cases holds
    refine .inr ⟨valid, ?_, ?_⟩
    · rw [line]
      exact List.mem_cons_self
    · rw [line]
      exact List.mem_cons_of_mem _ List.mem_cons_self
  case idle => exact .inl holds
  case reject => exact .inl holds
  all_goals cases holds

theorem joiner_eq (shift : Shift memory memory' phase op reply phase') {user : UserId}
    (joins : phase'.joiner = some user) : phase.joiner = some user := by
  cases shift
  case idle => exact joins
  case stale => exact joins
  all_goals cases joins

end Shift

theorem gate_after_of_unchecked {user : UserId} (op : Op) (reply : Except Err op.Reply) :
    (Gate.unchecked user).after op reply = .unchecked user ∨
      (Gate.unchecked user).after op reply = .passed user := by
  unfold Gate.after
  split
  · rename_i same
    cases same
    split
    · exact .inr rfl
    · exact .inl rfl
  · rename_i same
    cases same
    exact .inr rfl
  · exact .inl rfl

/-! ### Nobody on the way is locked out -/

/-- The observer at the turnstile. -/
def gatekeeper : Observer turnstile World Handler Unit where
  enter event := (event.hold, event.gate)
  starts _ _ notes := notes
  sees _ _ _ _ notes := notes

abbrev GateRun := Watched turnstile World Handler Unit

/-- **The condition on a run**: no query fails, and the last heart of a user is taken only while the user is on no
way into a match; nothing outside the handlers touches the users or the queues. -/
def losesAway (w : GateRun) : BackendMove → Bool
  | .start _ => true
  | .step index choice => (w.threads[index]?).all fun thread => match thread.prog.head with
    | some (.query (.loseHeart user _ hearts _)) => hearts ≠ 0 || !around user w.state.memory w.phases
    | some (.query _) => choice ≠ .fail
    | _ => true
  | .outside (.tick _) => true
  | .outside (.act _ op) => op.treats.isNone && op.queueless

/-- **The invariant**: a join checks its own user, and nobody on the way into a match is locked out. -/
structure Unlocked (world : World) (phases : List (Handler × (Hold × Gate))) : Prop where
  stalls : Stalls world.memory (phases.map fun entry => (entry.1, entry.2.1))
  gates : ∀ entry ∈ phases, ∀ user, entry.2.1.joiner = some user →
    entry.2.2 = .unchecked user ∨ entry.2.2 = .passed user
  admitted : ∀ user, around user world.memory phases = true → world.lockedOut user = false

namespace Unlocked

variable {env : Env} {choice : Choice} {world world' : World} {phases : List (Handler × (Hold × Gate))} {index : ℕ}
  {event : Handler} {phase : Hold × Gate} {op : Op} {reply : Except Err op.Reply}

/-- **Who is on the way was so before**, or has just passed the check. -/
theorem around_cases (inv : Unlocked world phases) (found : phases[index]? = some (event, phase))
    (may : turnstile.may phase op) (performed : op.perform env choice world = some (reply, world'))
    (shift : Shift world.memory world'.memory phase.1 op reply (phase.1.after op reply)) {user : UserId}
    (on : around user world'.memory (phases.set index (event, turnstile.after phase op reply)) = true) :
    around user world.memory phases = true ∨ world'.lockedOut user = false := by
  have here : (event, phase) ∈ phases := List.mem_of_getElem? found
  have waiting : ∀ {fee : ℕ} {entry : QueueEntry}, fee ∈ validFees → entry ∈ world.memory.live fee →
      around entry.userId world.memory phases = true := fun valid waits =>
    around_iff.mpr (.inl ⟨_, valid, _, waits, rfl⟩)
  have entered : entering user phase = true → around user world.memory phases = true := fun enters =>
    around_iff.mpr (.inr ⟨_, here, enters⟩)
  rcases around_iff.mp on with ⟨fee, valid, entry, waits, rfl⟩ | ⟨entry, member, enters⟩
  · rcases shift.mem_live valid waits with old | ⟨taken, holds, player⟩ | ⟨joins, _, _, _, _, rfl⟩
    · exact .inl (waiting valid old)
    · refine .inl (entered (entering_iff.mpr (.inl ⟨taken, holds, ?_⟩)))
      exact player.imp (fun same => by rw [same]) fun same => by rw [same]
    · refine .inl (entered (entering_iff.mpr (.inr ⟨joins, ?_⟩)))
      refine (inv.gates _ here _ joins).resolve_left fun unchecked => ?_
      have pushes := may.2
      rw [show phase.2 = .unchecked entry.userId from unchecked] at pushes
      exact pushes
  · rcases List.mem_or_eq_of_mem_set member with old | rfl
    · exact .inl (around_iff.mpr (.inr ⟨entry, old, enters⟩))
    · rcases entering_iff.mp enters with ⟨taken, holds, player⟩ | ⟨joins, passed⟩
      · rcases shift.mem_of_holding holds with held | ⟨valid, first, second⟩
        · exact .inl (entered (entering_iff.mpr (.inl ⟨taken, held, player⟩)))
        · rcases player with rfl | rfl
          · exact .inl (waiting valid first)
          · exact .inl (waiting valid second)
      · have joined := shift.joiner_eq joins
        rcases inv.gates _ here _ joined with unchecked | already
        · have passed : phase.2.after op reply = .passed user := passed
          have may := may.2
          rw [show phase.2 = .unchecked user from unchecked] at passed may
          exact .inr (open_of_passed performed may passed)
        · exact .inl (entered (entering_iff.mpr (.inr ⟨joined, already⟩)))

theorem later (inv : Unlocked world phases) (memory : world'.memory = world.memory)
    (opens : ∀ user, world'.lockedOut user = true → world.lockedOut user = true) : Unlocked world' phases := by
  refine ⟨by rw [memory]; exact inv.stalls, inv.gates, fun user on => ?_⟩
  rw [memory] at on
  by_contra locked
  have before := opens user (by simpa using locked)
  rw [inv.admitted user on] at before
  cases before

/-- Handlers that start are on no way into a match. -/
theorem append {events : List Handler} (stalls : Stalls world.memory ((phases ++ events.map fun event =>
      (event, (event.hold, event.gate))).map fun entry => (entry.1, entry.2.1)))
    (gates : ∀ entry ∈ phases, ∀ user, entry.2.1.joiner = some user →
      entry.2.2 = .unchecked user ∨ entry.2.2 = .passed user)
    (admitted : ∀ user, around user world.memory phases = true → world.lockedOut user = false) :
    Unlocked world (phases ++ events.map fun event => (event, (event.hold, event.gate))) := by
  have unchecked : ∀ (event : Handler) user, event.hold.joiner = some user → event.gate = .unchecked user := by
    intro event user joins
    cases event
    case queueJoin =>
      cases joins
      rfl
    all_goals cases joins
  refine ⟨stalls, fun entry member user joins => ?_, fun user on => admitted user (around_iff.mpr ?_)⟩
  · rcases List.mem_append.mp member with old | new
    · exact gates entry old user joins
    · obtain ⟨event, _, rfl⟩ := List.mem_map.mp new
      exact .inl (unchecked event user joins)
  · rcases around_iff.mp on with waits | ⟨entry, member, enters⟩
    · exact .inl waits
    · rcases List.mem_append.mp member with old | new
      · exact .inr ⟨entry, old, enters⟩
      · obtain ⟨event, _, rfl⟩ := List.mem_map.mp new
        rcases entering_iff.mp enters with ⟨taken, holds, _⟩ | ⟨joins, passed⟩
        · cases event
          all_goals cases holds
        · rw [show event.gate = .unchecked user from unchecked event user joins] at passed
          cases passed

/-- **One step keeps everybody on the way playable.** -/
theorem step (inv : Unlocked world phases) (found : phases[index]? = some (event, phase))
    (may : turnstile.may phase op) (performed : op.perform env choice world = some (reply, world'))
    (away : ∀ user, op.takesLast user = true → around user world.memory phases = false) :
    Unlocked world' (phases.set index (event, turnstile.after phase op reply) ++
      op.forks.map fun child => (child, (child.hold, child.gate))) := by
  have here : (event, phase) ∈ phases := List.mem_of_getElem? found
  have stalled : (phases.map fun entry => (entry.1, entry.2.1))[index]? = some (event, phase.1) := by
    rw [List.getElem?_map, found]
    rfl
  have shift : Shift world.memory world'.memory phase.1 op reply (phase.1.after op reply) :=
    shift_of_perform inv.stalls.sound
      (inv.stalls.owned _ (List.mem_of_getElem? stalled)) may.1 performed
  refine append ?_ (fun entry member user joins => ?_) fun user on => ?_
  · have moved := inv.stalls.step stalled shift
    simpa [List.map_set, Function.comp_def] using moved
  · rcases List.mem_or_eq_of_mem_set member with old | rfl
    · exact inv.gates entry old user joins
    · show phase.2.after op reply = .unchecked user ∨ phase.2.after op reply = .passed user
      rcases inv.gates _ here user (shift.joiner_eq joins) with unchecked | passed
      · rw [show phase.2 = .unchecked user from unchecked]
        exact gate_after_of_unchecked op reply
      · rw [show phase.2 = .passed user from passed]
        exact .inr rfl
  · rcases inv.around_cases found may performed shift on with before | free
    · by_contra locked
      rcases lockedOut_frame performed (Bool.not_eq_false _ ▸ locked) with already | takes
      · rw [inv.admitted user before] at already
        cases already
      · rw [away user takes] at before
        cases before
    · exact free

end Unlocked

theorem checking_answers {env : Env} {choice : Choice} {world world' : World} {op : Op}
    {reply : Except Err op.Reply} (performed : op.perform env choice world = some (reply, world'))
    (answered : ∀ user, op = .query (.selectHearts user) ∨ op = .query (.restoreHearts user) → choice ≠ .fail) :
    Gate.answers op reply := by
  unfold Gate.answers
  split
  · rename_i user _
    rw [Op.perform, if_neg (answered user (.inl rfl))] at performed
    cases performed
    rfl
  · rename_i user _
    rw [Op.perform, if_neg (answered user (.inr rfl))] at performed
    cases performed
    rfl
  · unfold Op.perform at performed
    split at performed
    · cases performed
    · cases performed
      rfl
  · rw [perform_emit performed]
    rfl
  · trivial

/-- The turnstile, with nobody locked out on the way. -/
def gateVigil (env : Env) : Vigil (backend env) gatekeeper fun w move => losesAway w move = true where
  finished phase := phase.1.ended
  Inv world _ := Unlocked world
  keeps event _ := (Task.keeps_run _ _ _).mpr (handler_turnstile env event)
  enters _ _ _ := trivial
  forks _ _ _ _ _ := trivial
  start w event state inv _ arrived := by
    have kept : Unlocked state w.phases := inv.later (arrive_memory arrived) fun user locked =>
      lockedOut_later (arrive_frame arrived).2 (arrive_now arrived).ge locked
    show Unlocked state (w.phases ++ [event].map fun event => (event, (event.hold, event.gate)))
    refine Unlocked.append ?_ kept.gates kept.admitted
    have started := kept.stalls.start event
    simpa using started
  step w index choice event phase op next reply state inv allowed found inPhase may performed := by
    simp only [losesAway, found, Option.all_some, Prog.head_await] at allowed
    refine ⟨⟨queueing_answers performed, checking_answers performed ?_⟩, inv.step inPhase may performed ?_⟩
    · rintro user (rfl | rfl)
      · simpa using allowed
      · simpa using allowed
    · intro user takes
      unfold Op.takesLast at takes
      split at takes
      · obtain ⟨rfl, rfl⟩ : _ = user ∧ _ = (0 : ℤ) := by simpa using takes
        simpa using allowed
      · cases takes
  outside w act state inv allowed acted := by
    cases act with
    | tick ms =>
      cases acted
      have later : w.state.now ≤ w.state.now + ms := Nat.le_add_right _ _
      exact inv.later rfl fun user locked => lockedOut_later (by rfl) later locked
    | act choice op =>
      obtain ⟨untreated, quiet⟩ := Bool.and_eq_true_iff.mp allowed
      have untreated : op.treats = none := Option.isNone_iff_eq_none.mp untreated
      have spares : (Outside.act choice op).spares = true := quiet
      have memory : state.memory = w.state.memory := memory_outside spares acted
      obtain ⟨⟨reply, state'⟩, performed, rfl⟩ := Option.map_eq_some_iff.mp acted
      refine inv.later memory fun user locked => (lockedOut_frame performed locked).resolve_right fun takes => ?_
      unfold Op.takesLast at takes
      split at takes
      · cases untreated
      · cases takes

/-- **No match is committed with a player who is locked out**, along every run of the backend that meets the
condition. -/
theorem matched_with_hearts (env : Env) {w₀ w : GateRun} (idle : w₀.threads = []) (empty : w₀.state.memory = {})
    (run : Watches (backend env) gatekeeper (fun w move => losesAway w move = true) w₀ w) {index : ℕ}
    {choice : Choice} {event : Handler} {phase : Hold × Gate} {matchId : MatchId} {playerA playerB : UserId}
    {problem : ProblemId} {fee : ℚ} {next : Except Err Unit → Prog signature Unit} {state : World}
    (awaits : w.threads[index]? =
      some ⟨event, phase, .await (.transact (.createMatch matchId playerA playerB problem fee)) next⟩)
    (commits : (Op.transact (.createMatch matchId playerA playerB problem fee)).perform env choice w.state =
      some (.ok (), state)) : state.lockedOut playerA = false ∧ state.lockedOut playerB = false := by
  have initial : Unlocked w₀.state [] := by
    refine ⟨by rw [empty]; exact Stalls.initial, List.forall_mem_nil _, fun user on => ?_⟩
    rw [empty] at on
    cases on
  obtain ⟨inv, follows⟩ := (gateVigil env).holds idle initial run
  have running := List.mem_of_getElem? awaits
  obtain ⟨taken, holds, first, second⟩ : ∃ taken, phase.1 = Hold.holding taken ∧
      playerA = taken.playerA.userId ∧ playerB = taken.playerB.userId := by
    have may : phase.1.may (.transact (.createMatch matchId playerA playerB problem fee)) := (follows _ running).1.1
    cases hold : phase.1
    case holding taken =>
      rw [hold] at may
      exact ⟨taken, rfl, may.1, may.2.1⟩
    all_goals
      rw [hold] at may
      cases may
  have unlocked : ∀ user, taken.playerA.userId = user ∨ taken.playerB.userId = user →
      state.lockedOut user = false := by
    intro user plays
    have inside : (event, phase) ∈ w.phases := List.mem_map.mpr ⟨_, running, rfl⟩
    have enters := entering_iff.mpr (.inl ⟨taken, holds, plays⟩)
    by_contra locked
    rcases lockedOut_frame commits (by simpa using locked) with before | takes
    · rw [inv.admitted user (around_iff.mpr (.inr ⟨_, inside, enters⟩))] at before
      cases before
    · cases takes
  exact ⟨unlocked playerA (.inl first.symm), unlocked playerB (.inr second.symm)⟩

/-- Two users who can pay; user 1 has one heart left. -/
def oneHeartLeft : World :=
  { openDoors with
    db := { openDoors.db with users := Function.update openDoors.db.users 1 (some { hearts := some 1 }) } }

/-- User 1 waits for fees 25 and 10, is matched for 10 with user 2 as match 7, and forfeits. User 2 then joins
for 25 and takes user 1 from that queue. -/
def waitsInTwo : List BackendMove :=
  .start (.queueJoin 1 "ann" 25 "all") :: List.replicate 11 (.step 0 .proceed) ++
    .start (.queueJoin 1 "ann" 10 "all") :: List.replicate 11 (.step 1 .proceed) ++
    .start (.queueJoin 2 "bob" 10 "all") :: List.replicate 14 (.step 2 .proceed) ++
    [.step 2 (.fresh 7), .step 2 .proceed] ++ List.replicate 10 (.step 2 .proceed) ++
    .start (.forfeitRequest 1 7 "quit") :: List.replicate 21 (.step 4 .proceed) ++
    .start (.queueJoin 2 "bob" 25 "all") :: List.replicate 14 (.step 5 .proceed) ++ [.step 5 (.fresh 8)]

/-- **A player without hearts is matched**: user 1 is locked out before and after match 8 is committed. -/
theorem plays_without_hearts : ∃ w₁ w, Watches (backend sampleEnv) gatekeeper (fun _ move => playsOn move = true)
    ⟨oneHeartLeft, (), []⟩ w₁ ∧ (w₁.state.lockedOut 1 = true ∧ (w₁.state.db.matches_ 8).isNone = true) ∧
    Watches (backend sampleEnv) gatekeeper (fun _ move => playsOn move = true) w₁ w ∧
      w.state.lockedOut 1 = true ∧ (w.state.db.matches_ 8).map MatchRow.terms = some (1, 2, 25) := by
  obtain ⟨w₁, w, run, before, step, after⟩ := Machine.exists_watch_then (backend sampleEnv) gatekeeper
    (fun _ move => playsOn move) ⟨oneHeartLeft, (), []⟩ waitsInTwo [.step 5 .proceed]
    (fun w => w.state.lockedOut 1 && (w.state.db.matches_ 8).isNone)
    (fun w => w.state.lockedOut 1 = true ∧ (w.state.db.matches_ 8).map MatchRow.terms = some (1, 2, 25))
    (by decide +kernel)
  exact ⟨w₁, w, run, Bool.and_eq_true_iff.mp before, step, of_decide_eq_true after⟩

/-- User 1 waits for fee 10 only and loses the last heart in match 7. A day later the join of user 1 gives the
hearts back, and match 8 is about to be committed. -/
def comesBack : List BackendMove :=
  joinsAndPlays ++ List.replicate 10 (.step 1 .proceed) ++
    .start (.forfeitRequest 1 7 "quit") :: List.replicate 21 (.step 3 .proceed) ++
    .outside (.tick (24 * 60 * 60 * 1000 + 1)) ::
    .start (.queueJoin 1 "ann" 10 "all") :: List.replicate 12 (.step 4 .proceed) ++
    .start (.queueJoin 2 "bob" 10 "all") :: List.replicate 14 (.step 5 .proceed) ++ [.step 5 (.fresh 8)]

/-- The creation of match 8 that user 1 plays against user 2. -/
def Op.createsEighth : Op → Bool
  | transact (.createMatch matchId playerA playerB problem fee) =>
    matchId = 8 && playerA = 1 && playerB = 2 && problem = 0 && fee = 10
  | _ => false

theorem matched_with_hearts_back : ∃ w state, Watches (backend sampleEnv) gatekeeper
    (fun w move => losesAway w move = true) ⟨oneHeartLeft, (), []⟩ w ∧
    (Op.transact (.createMatch 8 1 2 0 10)).perform sampleEnv .proceed w.state = some (.ok (), state) ∧
    state.lockedOut 1 = false ∧ state.lockedOut 2 = false := by
  obtain ⟨w, run, ended⟩ := Machine.exists_watch (backend sampleEnv) gatekeeper losesAway
    ⟨oneHeartLeft, (), []⟩ comesBack
    (fun w => (w.threads[5]?).any (fun thread => thread.prog.head.any Op.createsEighth) &&
      ((Op.transact (.createMatch 8 1 2 0 10)).perform sampleEnv .proceed w.state).any fun result => result.1.isOk)
    (by decide +kernel)
  obtain ⟨waits, succeeds⟩ := Bool.and_eq_true_iff.mp ended
  obtain ⟨⟨event, phase, prog⟩, found, creates⟩ := (Option.any_eq_true _ _).mp waits
  obtain ⟨op, awaits, about⟩ := (Option.any_eq_true _ _).mp creates
  obtain ⟨next, rfl⟩ := Prog.await_of_head awaits
  obtain ⟨⟨reply, state⟩, commits, fine⟩ := (Option.any_eq_true _ _).mp succeeds
  obtain rfl : op = .transact (.createMatch 8 1 2 0 10) := by
    unfold Op.createsEighth at about
    split at about
    · obtain ⟨⟨⟨⟨rfl, rfl⟩, rfl⟩, rfl⟩, rfl⟩ := by
        simpa only [Bool.and_eq_true, decide_eq_true_eq] using about
      rfl
    · cases about
  cases reply with
  | error err => cases fine
  | ok value => exact ⟨w, state, run, commits, matched_with_hearts sampleEnv rfl rfl run found commits⟩

end SkillArena
