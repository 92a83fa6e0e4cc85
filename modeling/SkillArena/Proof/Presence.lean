/-
**The forfeit after a disconnect.**

Fifteen seconds after a disconnect the backend looks for the presence key of the user, one key for all the
sockets of the user. The `disconnect` handler deletes that key whatever other sockets there are, so that
closing a second tab forfeits the match of a user who is still connected (`second_tab_forfeits`). Where the
key is deleted only while no socket of the user has been connected since any disconnect whose check is
still pending, and a check reads the key when no connecting socket still has to write it and before it
expires, a check goes on to the forfeit only if the user has been absent since the disconnect
(`forfeit_only_if_absent`).

* `absentSince` — no socket of the user is connected at any moment of the history from a disconnect on.
* `attendance` — the contract: who connects writes the key first, only the `disconnect` handler deletes it,
  a check that finds the key does nothing more.
* `Attended` — the invariant: a user who is connected, or was since a pending check, has the key or is about
  to write it.
-/

import SkillArena.Proof.Settlement

namespace SkillArena

open Async Expiring

/-! ### Histories -/

def SocketEvent.connects (user : UserId) : SocketEvent → Bool
  | connected user' _ => user' = user
  | disconnected .. => false

/-- **Absence since a disconnect**: after the event at a position no socket of the user is connected, and
none connects later. -/
def absentSince (user : UserId) (position : ℕ) (history : List SocketEvent) : Bool :=
  connectedSockets user (history.take (position + 1)) = [] &&
    (history.drop (position + 1)).all fun event => !event.connects user

section History

variable {user : UserId} {position : ℕ} {history : List SocketEvent} {event : SocketEvent}

theorem connectedSockets_append (user : UserId) (history : List SocketEvent) (event : SocketEvent) :
    connectedSockets user (history ++ [event]) = event.apply user (connectedSockets user history) := by
  unfold connectedSockets
  rw [List.foldl_append]
  rfl

/-- Where nobody connects, nobody is connected afterwards who was not before. -/
theorem apply_of_absent (away : event.connects user = false) : event.apply user [] = [] := by
  cases event with
  | connected user' socket =>
    have other : ¬ user' = user := of_decide_eq_false away
    exact if_neg other
  | disconnected user' socket =>
    show (if user' = user then [] else []) = []
    exact ite_self _

theorem foldl_of_absent {events : List SocketEvent}
    (away : ∀ event ∈ events, event.connects user = false) : events.foldl (SocketEvent.apply user) [] = [] := by
  induction events with
  | nil => rfl
  | cons event rest ih =>
    rw [List.foldl_cons, apply_of_absent (away event (by simp))]
    exact ih fun other inside => away other (List.mem_cons_of_mem _ inside)

theorem connectedSockets_of_absent (absent : absentSince user position history = true) :
    connectedSockets user history = [] := by
  unfold absentSince at absent
  simp only [Bool.and_eq_true, decide_eq_true_eq, List.all_eq_true, Bool.not_eq_true'] at absent
  have parts : history = history.take (position + 1) ++ history.drop (position + 1) :=
    (List.take_append_drop _ _).symm
  rw [parts]
  unfold connectedSockets at absent ⊢
  rw [List.foldl_append, absent.1]
  exact foldl_of_absent absent.2

theorem absentSince_append (inside : position < history.length) :
    absentSince user position (history ++ [event]) =
      (absentSince user position history && !event.connects user) := by
  unfold absentSince
  rw [List.take_append_of_le_length inside, List.drop_append_of_le_length inside, List.all_append,
    Bool.and_assoc]
  simp

theorem absentSince_last : absentSince user history.length (history ++ [event]) = true ↔
    connectedSockets user (history ++ [event]) = [] := by
  unfold absentSince
  rw [List.take_of_length_le (by simp), List.drop_of_length_le (by simp)]
  simp

/-- A socket is connected after an event of no connection only if one was before. -/
theorem connected_before (away : event.connects user = false)
    (connected : connectedSockets user (history ++ [event]) ≠ []) : connectedSockets user history ≠ [] := by
  intro none
  rw [connectedSockets_append, none] at connected
  exact connected (apply_of_absent away)

end History

/-! ### The contract -/

/-- What a handler has to do with the presence of a user: it is about to write the key, it may delete it
and schedule a check, it is a check, nothing more, or it is finished. -/
inductive Attendance
  | arriving (user : UserId)
  | leaving (user : UserId) (position : ℕ)
  | checking (user : UserId) (position : ℕ)
  | settled
  | closed
  deriving DecidableEq

/-- The operation writes or deletes a presence key. -/
def Op.presents : Op → Bool
  | set (.presence _) .. | setNx (.presence _) .. | del (.presence _) => true
  | _ => false

def Handler.attendance : Handler → Attendance
  | connection user _ => .arriving user
  | disconnect user _ position => .leaving user position
  | disconnectForfeit user _ position _ => .checking user position
  | _ => .settled

namespace Attendance

def may : Attendance → Op → Prop
  | arriving user, op => ∃ socket seconds, op = .set (.presence user) socket seconds
  | leaving user position, op => (op.presents = true → op = .del (.presence user)) ∧
      ∀ child ∈ op.forks, child.attendance = .checking user position
  | checking user _, op => (∃ instant, op = .sleepUntil instant) ∨ op = .get (.presence user)
  | settled, op => op.presents = false ∧ (∀ user, op ≠ .get (.presence user)) ∧
      ∀ child ∈ op.forks, child.attendance = .settled
  | closed, _ => False

/-- What follows a check depends on what it finds. -/
def afterCheck : (op : Op) → Except Err op.Reply → Attendance → Attendance
  | .get (.presence _), .ok none, _ => .settled
  | .get _, _, _ => .closed
  | _, .ok _, phase => phase
  | _, .error _, _ => .closed

/-- A `disconnect` handler is settled once it has scheduled the check, or does not schedule one. -/
def afterLeaving : (op : Op) → Except Err op.Reply → Attendance → Attendance
  | .get (.activeMatch _), .ok none, _ => .settled
  | .fork _, _, _ => .settled
  | _, .ok _, phase => phase
  | _, .error _, _ => .settled

def after (phase : Attendance) (op : Op) (reply : Except Err op.Reply) : Attendance :=
  match phase with
  | arriving _ => .settled
  | leaving .. => afterLeaving op reply phase
  | checking .. => afterCheck op reply phase
  | _ => phase

/-- The user and the disconnect whose check is pending. -/
def window : Attendance → Option (UserId × ℕ)
  | leaving user position => some (user, position)
  | checking user position => some (user, position)
  | _ => none

def done (phase : Attendance) : Prop := phase = .settled ∨ phase = .closed

end Attendance

/-- **The contract of the presence key.** -/
def attendance : Contract signature where
  Phase := Attendance
  may := Attendance.may
  answers phase _ reply := ∀ user, phase = .arriving user → reply.isOk = true
  after := Attendance.after

section Contract

open Async.Task (stable_pure stable_bind stable_attempt)

theorem settled_may {op : Op} (other : op.department ≠ some .presence) : Attendance.settled.may op := by
  refine ⟨?_, ?_, ?_⟩
  · unfold Op.presents
    split
    · exact absurd rfl other
    · exact absurd rfl other
    · exact absurd rfl other
    · rfl
  · rintro user rfl
    exact other rfl
  · intro child forked
    obtain rfl := fork_of_mem forked
    cases child
    case timerExpiry => rfl
    case queueJoin => rfl
    case queueLeave => rfl
    case worker => rfl
    case verifyPayment => rfl
    case webhook => rfl
    all_goals exact absurd rfl other

theorem settled_stable {α : Type} {departments : List Department} {task : Promise α}
    (asks : task.Asks (Op.within departments)) (other : departments.contains .presence = false) :
    task.Stable attendance (· = Attendance.settled) := by
  refine asks.stable fun phase op here inside => ?_
  subst here
  exact ⟨settled_may (department_ne inside other), fun _ _ => rfl⟩

/-- The handlers of a match have nothing to do with the presence of a user. -/
def attendanceReferee (matchId : MatchId) : Referee attendance (· = Attendance.settled) matchId where
  known _ := True
  idle phase op here sideline _ := by
    subst here
    exact ⟨settled_may (department_ne (within_of_sideline sideline) rfl), fun _ _ => rfl⟩
  state phase here := by
    subst here
    exact ⟨settled_may nofun, fun _ _ => ⟨rfl, fun _ _ => trivial⟩⟩
  refund _ _ phase here := by
    subst here
    exact ⟨settled_may nofun, fun _ _ => rfl⟩
  cancel phase here := by
    subst here
    exact ⟨settled_may nofun, fun _ _ => rfl⟩
  body _ pair resolveType _ _ :=
    settled_stable (resolveBody_within (fun _ => id) matchId pair.1 pair.2 resolveType).asks rfl

theorem connection_attendance (user : UserId) (socket : SocketId) :
    (connection user socket).Keeps attendance (.arriving user) fun _ phase => phase.done := by
  refine keeps_call_bind ⟨socket, 3600, rfl⟩ (fun _ _ => ?_) fun _ _ => .inl rfl
  exact ⟨⟨rfl, nofun, List.forall_mem_nil _⟩, fun _ _ => .inl rfl⟩

theorem leaving_then {α : Type} {user : UserId} {position : ℕ} {op : Op} {rest : op.Reply → Promise α}
    (own : op.presents = true → op = .del (.presence user)) (alone : op.forks = [])
    (stays : ∀ value, Attendance.afterLeaving op (.ok value) (.leaving user position) = .leaving user position)
    (ends : ∀ err, Attendance.afterLeaving op (.error err) (.leaving user position) = .settled)
    (next : ∀ value, (rest value).Keeps attendance (.leaving user position) fun _ phase => phase.done) :
    (op.call >>= rest).Keeps attendance (.leaving user position) fun _ phase => phase.done := by
  refine keeps_call_bind ⟨own, ?_⟩ (fun value _ => ?_) fun err _ => .inl (ends err)
  · rw [alone]
    exact List.forall_mem_nil _
  · have here : attendance.after (.leaving user position) op (.ok value) = .leaving user position := stays value
    rw [here]
    exact next value

theorem clearQueueKeys_attendance (user : UserId) :
    (clearQueueKeys user).Stable attendance (· = Attendance.settled) := by
  have asks : (clearQueueKeys user).Asks (Op.within [.queue]) := by
    refine Task.asks_bind (asks_call rfl) fun queued => ?_
    cases queued with
    | none => exact Task.asks_pure _
    | some fee =>
      exact Task.asks_bind (asks_call rfl) fun _ => Task.asks_bind (asks_call rfl) fun _ => asks_call rfl
  exact settled_stable asks rfl

theorem dropOwnPresence_attendance (user : UserId) (socket : SocketId) (position : ℕ) :
    (dropOwnPresence user socket).Keeps attendance (.leaving user position) fun result phase =>
      match result with
      | .ok _ => phase = .leaving user position
      | .error _ => phase = Attendance.settled := by
  refine keeps_call_bind ⟨nofun, List.forall_mem_nil _⟩ (fun current _ => ?_) fun _ _ => rfl
  split
  · refine ⟨⟨fun _ => rfl, List.forall_mem_nil _⟩, fun reply _ => ?_⟩
    cases reply with
    | error err => exact rfl
    | ok _ => exact rfl
  · exact rfl

/-- The forfeit check is scheduled for the disconnect of the handler, or there is none. -/
theorem scheduleForfeit_attendance {user : UserId} {position : ℕ} :
    (scheduleForfeit user position).Keeps attendance (.leaving user position)
      fun _ phase => phase = Attendance.settled := by
  refine keeps_call_bind ⟨nofun, List.forall_mem_nil _⟩ (fun active _ => ?_) fun _ _ => rfl
  cases active with
  | none => exact rfl
  | some matchId =>
    refine keeps_call_bind ⟨nofun, List.forall_mem_nil _⟩ (fun now _ => ?_) fun _ _ => rfl
    refine ⟨⟨nofun, fun child forked => ?_⟩, fun _ _ => rfl⟩
    cases List.mem_singleton.mp forked
    rfl

/-- **The `disconnect` handler** deletes the key of its own user only. -/
theorem disconnect_attendance (user : UserId) (socket : SocketId) (position : ℕ) :
    (disconnect user socket position).Keeps attendance (.leaving user position)
      fun _ phase => phase.done := by
  refine leaving_then (fun _ => rfl) rfl (fun _ => rfl) (fun _ => rfl) fun _ =>
    leaving_then nofun rfl (fun _ => rfl) (fun _ => rfl) fun _ => ?_
  refine (Task.keeps_bind _ _ _ _).mpr ((dropOwnPresence_attendance user socket position).mono ?_)
  rintro (err | _) phase here
  · exact .inl here
  obtain rfl : phase = .leaving user position := here
  refine (Task.keeps_bind _ _ _ _).mpr (scheduleForfeit_attendance.mono ?_)
  rintro (err | _) phase here
  · exact .inl here
  · exact (clearQueueKeys_attendance user phase here).mono fun _ _ settled => .inl settled

/-- **The check** does nothing more where it finds the key. -/
theorem handleDisconnectForfeit_attendance (user : UserId) (matchId : MatchId) (position dueAt : ℕ) :
    (handleDisconnectForfeit user matchId dueAt).Keeps attendance (.checking user position)
      fun _ phase => phase.done := by
  refine (Task.keeps_attempt _ _ _ _).mpr ?_
  refine keeps_call_bind (.inl ⟨dueAt, rfl⟩) (fun _ _ => ?_) fun _ _ => .inr rfl
  refine keeps_call_bind (.inr rfl) (fun found _ => ?_) fun _ _ => .inr rfl
  cases found with
  | some socket => exact .inr rfl
  | none =>
    let R := attendanceReferee matchId
    refine (R.state_bind ?_ (fun matchState _ => ?_) Attendance.settled rfl).mono ?_
    · exact stable_pure _
    · dsimp only
      split
      · exact stable_pure _
      · exact stable_bind (R.call rfl) fun _ => R.resolveMatch_stable
          (settled_stable (resolveBody_within (fun _ => id) matchId _ _ _).asks rfl)
    · rintro (err | _) phase settled
      · exact .inl settled
      · exact .inl settled

/-- **Every handler keeps the contract of the presence key.** -/
theorem handler_attendance (env : Env) (handler : Handler) :
    (handler.task env).Keeps attendance handler.attendance fun _ phase => phase.done := by
  have quiet : handler.departments.contains .presence = false →
      (handler.task env).Keeps attendance .settled fun _ phase => phase.done := fun other =>
    (settled_stable (Handler.asks_within env handler) other _ rfl).mono fun _ _ settled => .inl settled
  cases handler
  case connection user socket => exact connection_attendance user socket
  case disconnect user socket position => exact disconnect_attendance user socket position
  case disconnectForfeit user matchId position dueAt =>
    exact handleDisconnectForfeit_attendance user matchId position dueAt
  all_goals exact quiet rfl

end Contract

/-! ### The invariant -/

/-- The presence key of the user is written, or a handler is about to write it. -/
def attended (user : UserId) (world : World) (phases : List (Handler × Attendance)) : Prop :=
  world.redis (.presence user) ≠ none ∨ ∃ entry ∈ phases, entry.2 = .arriving user

/-- **The invariant of the presence keys.** -/
structure Attended (world : World) (phases : List (Handler × Attendance)) : Prop where
  role : ∀ entry ∈ phases, entry.2 = entry.1.attendance ∨ entry.2.done
  inside : ∀ entry ∈ phases, ∀ user position, entry.2.window = some (user, position) →
    position < world.history.length
  present : ∀ user, connectedSockets user world.history ≠ [] → attended user world phases
  windows : ∀ entry ∈ phases, ∀ user position, entry.2.window = some (user, position) →
    absentSince user position world.history = false → attended user world phases

section Inv

variable {env : Env} {choice : Choice} {world world' : World} {phases : List (Handler × Attendance)}
  {index : ℕ} {event : Handler} {phase : Attendance} {op : Op} {reply : Except Err op.Reply}
  {user : UserId} {position : ℕ}

theorem history_frame (performed : op.perform env choice world = some (reply, world')) :
    world'.history = world.history := by
  rcases perform_cases performed with ⟨_, _, rfl⟩ | ⟨_, _, rfl⟩ | ⟨_, _, _, rfl⟩ | ⟨_, _, _, rfl⟩
  all_goals rfl

theorem after_cases (phase : Attendance) (op : Op) (reply : Except Err op.Reply) :
    phase.after op reply = phase ∨ (phase.after op reply).done := by
  unfold Attendance.after
  split
  · exact .inr (.inl rfl)
  · unfold Attendance.afterLeaving
    split
    · exact .inr (.inl rfl)
    · exact .inr (.inl rfl)
    · exact .inl rfl
    · exact .inr (.inl rfl)
  · unfold Attendance.afterCheck
    split
    · exact .inr (.inl rfl)
    · exact .inr (.inr rfl)
    · exact .inl rfl
    · exact .inr (.inr rfl)
  · exact .inl rfl

theorem window_of_done (done : phase.done) : phase.window = none := by
  rcases done with rfl | rfl
  · rfl
  · rfl

theorem window_of_after (pending : (phase.after op reply).window = some (user, position)) :
    phase.window = some (user, position) := by
  rcases after_cases phase op reply with same | done
  · rwa [same] at pending
  · rw [window_of_done done] at pending
    cases pending

/-- A check that is scheduled is one for the disconnect of the handler. -/
theorem window_of_fork (may : phase.may op) {child : Handler} (forked : child ∈ op.forks)
    (pending : child.attendance.window = some (user, position)) :
    phase.window = some (user, position) := by
  cases phase with
  | arriving =>
    obtain ⟨_, _, rfl⟩ := may
    cases forked
  | leaving =>
    rw [may.2 child forked] at pending
    exact pending
  | checking =>
    rcases may with ⟨_, rfl⟩ | rfl
    · cases forked
    · cases forked
  | settled =>
    rw [may.2.2 child forked] at pending
    cases pending
  | closed => exact absurd may id

theorem Op.del_of_deletes {op : Op} {key : Key} (deletes : op.deletes key = true) : op = .del key := by
  unfold Op.deletes at deletes
  split at deletes
  · rw [of_decide_eq_true deletes]
  · cases deletes

theorem deletes_of_may (may : phase.may op) (deletes : op.deletes (.presence user) = true) :
    ∃ position, phase = .leaving user position := by
  obtain rfl := Op.del_of_deletes deletes
  cases phase with
  | arriving => exact absurd may (by simp [Attendance.may])
  | leaving user' position =>
    have own := may.1 rfl
    cases own
    exact ⟨position, rfl⟩
  | checking => exact absurd may (by simp [Attendance.may])
  | settled => cases may.1
  | closed => exact absurd may id

/-- **The key of a user is kept, or somebody is about to write it**, over a step that does not delete it. -/
theorem attended_step (found : phases[index]? = some (event, phase)) (may : phase.may op)
    (answers : ∀ user, phase = .arriving user → reply.isOk = true)
    (performed : op.perform env choice world = some (reply, world'))
    (kept : op.deletes (.presence user) = false) (here : attended user world phases)
    (children : List (Handler × Attendance)) :
    attended user world' (phases.set index (event, phase.after op reply) ++ children) := by
  rcases here with written | ⟨entry, member, arriving⟩
  · exact .inl (written_frame performed kept written)
  · obtain ⟨other, at_⟩ := List.getElem?_of_mem member
    by_cases same : other = index
    · -- who was about to write the key has written it
      subst same
      rw [found] at at_
      cases at_
      obtain rfl : phase = .arriving user := arriving
      obtain ⟨socket, seconds, rfl⟩ := may
      cases reply with
      | error err => cases answers user rfl
      | ok value =>
        left
        rw [perform_set_ok performed, withRedis_redis, Store.write_self]
        exact nofun
    · right
      refine ⟨entry, List.mem_append_left _ (List.mem_of_getElem? (i := other) ?_), arriving⟩
      rw [List.getElem?_set_ne (Ne.symm same)]
      exact at_

/-- **One step keeps the invariant**, if a key is deleted only while its user has been absent since every
disconnect with a pending check. -/
theorem Attended.step (inv : Attended world phases) (found : phases[index]? = some (event, phase))
    (may : phase.may op) (answers : ∀ user, phase = .arriving user → reply.isOk = true)
    (performed : op.perform env choice world = some (reply, world'))
    (clear : ∀ user, op.deletes (.presence user) = true → ∀ entry ∈ phases, ∀ position,
      entry.2.window = some (user, position) → absentSince user position world.history = true) :
    Attended world' (phases.set index (event, phase.after op reply) ++
      op.forks.map fun child => (child, child.attendance)) := by
  have member := List.mem_of_getElem? found
  have same := history_frame performed
  -- every pending check was pending before, as the handler's own or as another's
  have old : ∀ entry ∈ phases.set index (event, phase.after op reply) ++
      op.forks.map (fun child => (child, child.attendance)), ∀ user position,
      entry.2.window = some (user, position) →
        ∃ before ∈ phases, before.2.window = some (user, position) := by
    intro entry inside user position pending
    rcases List.mem_append.mp inside with inside | inside
    · rcases List.mem_or_eq_of_mem_set inside with before | rfl
      · exact ⟨entry, before, pending⟩
      · exact ⟨_, member, window_of_after pending⟩
    · obtain ⟨child, forked, rfl⟩ := List.mem_map.mp inside
      exact ⟨_, member, window_of_fork may forked pending⟩
  have keep : ∀ user, attended user world phases →
      (connectedSockets user world.history ≠ [] ∨ ∃ entry ∈ phases, ∃ position,
        entry.2.window = some (user, position) ∧ absentSince user position world.history = false) →
      attended user world' (phases.set index (event, phase.after op reply) ++
        op.forks.map fun child => (child, child.attendance)) := by
    intro user here needed
    by_cases deletes : op.deletes (.presence user) = true
    · obtain ⟨own, rfl⟩ := deletes_of_may may deletes
      have absent := clear user deletes _ member own rfl
      rcases needed with connected | ⟨entry, inside, position, pending, present⟩
      · exact absurd (connectedSockets_of_absent absent) connected
      · rw [clear user deletes entry inside position pending] at present
        cases present
    · exact attended_step found may answers performed (Bool.eq_false_iff.mpr deletes) here _
  refine ⟨fun entry inside => ?_, fun entry inside user position pending => ?_, fun user connected => ?_,
    fun entry inside user position pending present => ?_⟩
  · rcases List.mem_append.mp inside with inside | inside
    · rcases List.mem_or_eq_of_mem_set inside with before | rfl
      · exact inv.role entry before
      · rcases after_cases phase op reply with stays | done
        · rw [stays]
          exact inv.role _ member
        · exact .inr done
    · obtain ⟨child, _, rfl⟩ := List.mem_map.mp inside
      exact .inl rfl
  · obtain ⟨before, inside, pending⟩ := old entry inside user position pending
    rw [same]
    exact inv.inside before inside user position pending
  · rw [same] at connected
    exact keep user (inv.present user connected) (.inl connected)
  · obtain ⟨before, inside, pending⟩ := old entry inside user position pending
    rw [same] at present
    exact keep user (inv.windows before inside user position pending present)
      (.inr ⟨before, inside, position, pending, present⟩)

theorem attended_append (here : attended user world phases) (same : world'.redis = world.redis)
    (more : List (Handler × Attendance)) : attended user world' (phases ++ more) := by
  rcases here with written | ⟨entry, member, arriving⟩
  · exact .inl (by rw [same]; exact written)
  · exact .inr ⟨entry, List.mem_append_left _ member, arriving⟩

/-- **A socket event, with the handler it starts**, keeps the invariant: who connects is about to write the
key, and a disconnect starts its own window. -/
theorem Attended.happens (inv : Attended world phases) {socketEvent : SocketEvent}
    (connects : ∀ user, socketEvent.connects user = true → event.attendance = .arriving user)
    (leaves : ∀ user position, event.attendance.window = some (user, position) →
      position = world.history.length) :
    Attended { world with history := world.history ++ [socketEvent] }
      (phases ++ [(event, event.attendance)]) := by
  have keep : ∀ {user}, attended user world phases →
      attended user { world with history := world.history ++ [socketEvent] }
        (phases ++ [(event, event.attendance)]) :=
    fun here => attended_append here rfl _
  have arrives : ∀ {user}, socketEvent.connects user = true →
      attended user { world with history := world.history ++ [socketEvent] }
        (phases ++ [(event, event.attendance)]) :=
    fun connecting => .inr ⟨_, List.mem_append_right _ List.mem_cons_self, connects _ connecting⟩
  have before : ∀ {user}, socketEvent.connects user = false →
      connectedSockets user (world.history ++ [socketEvent]) ≠ [] → attended user world phases :=
    fun away connected => inv.present _ (connected_before away connected)
  refine ⟨fun entry inside => ?_, fun entry inside user position pending => ?_, fun user connected => ?_,
    fun entry inside user position pending present => ?_⟩
  · rcases List.mem_append.mp inside with old | new
    · exact inv.role entry old
    · cases List.mem_singleton.mp new
      exact .inl rfl
  · show position < (world.history ++ [socketEvent]).length
    rw [List.length_append, List.length_singleton]
    rcases List.mem_append.mp inside with old | new
    · exact (inv.inside entry old user position pending).trans (Nat.lt_succ_self _)
    · cases List.mem_singleton.mp new
      rw [leaves user position pending]
      exact Nat.lt_succ_self _
  · cases connecting : socketEvent.connects user with
    | true => exact arrives connecting
    | false => exact keep (before connecting connected)
  · cases connecting : socketEvent.connects user with
    | true => exact arrives connecting
    | false =>
      refine keep ?_
      rcases List.mem_append.mp inside with old | new
      · have since : position < world.history.length := inv.inside entry old user position pending
        have earlier : absentSince user position world.history = false := by
          simpa [absentSince_append since, connecting] using present
        exact inv.windows entry old user position pending earlier
      · cases List.mem_singleton.mp new
        obtain rfl := leaves user position pending
        refine before connecting fun none => ?_
        rw [absentSince_last.mpr none] at present
        cases present

theorem Attended.joins (inv : Attended world phases) (settled : event.attendance = .settled) :
    Attended world (phases ++ [(event, event.attendance)]) := by
  refine ⟨fun entry inside => ?_, fun entry inside user position pending => ?_,
    fun user connected => attended_append (inv.present user connected) rfl _,
    fun entry inside user position pending present => ?_⟩
  · rcases List.mem_append.mp inside with old | new
    · exact inv.role entry old
    · cases List.mem_singleton.mp new
      exact .inl rfl
  · rcases List.mem_append.mp inside with old | new
    · exact inv.inside entry old user position pending
    · cases List.mem_singleton.mp new
      rw [settled] at pending
      cases pending
  · rcases List.mem_append.mp inside with old | new
    · exact attended_append (inv.windows entry old user position pending present) rfl _
    · cases List.mem_singleton.mp new
      rw [settled] at pending
      cases pending

/-- **A handler that arrives keeps the invariant**; checks are started by `disconnect` handlers only. -/
theorem Attended.arrives (inv : Attended world phases) (arrived : event.arrive world = some world')
    (unchecked : ∀ user matchId position dueAt, event ≠ .disconnectForfeit user matchId position dueAt) :
    Attended world' (phases ++ [(event, event.attendance)]) := by
  cases event
  case connection user socket =>
    simp only [Handler.arrive] at arrived
    split at arrived
    · cases arrived
    · cases arrived
      refine inv.happens (fun user' connecting => ?_) nofun
      rw [of_decide_eq_true connecting]
      rfl
  case dropped user socket =>
    simp only [Handler.arrive] at arrived
    split at arrived
    · cases arrived
      exact inv.happens nofun nofun
    · cases arrived
  case disconnect user socket position =>
    simp only [Handler.arrive] at arrived
    split at arrived
    · rename_i registered
      cases arrived
      refine inv.happens nofun fun user' position' pending => ?_
      cases pending
      exact registered.2.2
    · cases arrived
  case disconnectForfeit => exact absurd rfl (unchecked _ _ _ _)
  all_goals
    cases arrived
    exact inv.joins rfl

end Inv

/-! ### The run -/

/-- The user and the disconnect of a check that a thread is to make, or may still schedule. -/
def pendingCheck : Handler × Prog signature Unit → Option (UserId × ℕ)
  | (.disconnect user _ position, prog) => if prog.head.isSome then some (user, position) else none
  | (.disconnectForfeit user _ position _, prog) => match prog.head with
    | some (.sleepUntil _) => some (user, position)
    | some (.get (.presence _)) => some (user, position)
    | _ => none
  | _ => none

/-- The thread is the connection of a socket of the user that has not written the key yet. -/
def connecting (user : UserId) : Handler × Prog signature Unit → Bool
  | (.connection user' _, prog) => user' = user && prog.head.any (Op.writes (.presence user))
  | _ => false

def Handler.checks : Handler → Bool
  | disconnectForfeit .. => true
  | _ => false

def Op.reads (key : Key) : Op → Bool
  | get key' => key' = key
  | _ => false

theorem Op.get_of_reads {op : Op} {key : Key} (reads : op.reads key = true) : op = .get key := by
  unfold Op.reads at reads
  split at reads
  · rw [of_decide_eq_true reads]
  · cases reads

/-- The condition on one operation of a handler. -/
def touches (c : BackendConfig) (choice : Choice) (event : Handler) : Op → Bool
  | .set (.presence _) .. => choice ≠ .fail
  | .del (.presence user) => c.threads.all fun thread => (pendingCheck thread).all fun check =>
      check.1 ≠ user || absentSince user check.2 c.state.history
  | .get (.presence user) => !event.checks ||
      (c.state.current (.presence user) && c.threads.all fun thread => !connecting user thread)
  | _ => true

/-- **The condition on a run**: whenever the key of a user is deleted, the user has been absent since every
disconnect whose check is pending, that of the handler itself included; a check reads the key while no
connecting socket has still to write it, and before it expires; writing it does not fail. Checks are started
by `disconnect` handlers, and nothing else touches the keys. -/
def inTouch (c : BackendConfig) : BackendMove → Bool
  | .start handler => !handler.checks
  | .step index choice => (c.threads[index]?).all fun thread => thread.2.head.all (touches c choice thread.1)
  | .outside (.tick _) => true
  | .outside (.act _ op) => !op.presents

section Run

variable {env : Env} {choice : Choice} {c : BackendConfig} {world' : World}
  {phases : List (Handler × Attendance)} {index : ℕ} {event : Handler} {phase : Attendance}
  {op : Op} {next : signature.Reply op → Prog signature Unit} {reply : Except Err op.Reply}
  {user : UserId} {position : ℕ}

theorem touches_of_inTouch (found : c.threads[index]? = some (event, .await op next))
    (allowed : inTouch c (.step index choice) = true) : touches c choice event op = true := by
  simpa only [inTouch, found, Option.all_some, Prog.head_await] using allowed

/-- A thread in a phase that is not done is in the phase its event enters, and has an operation left. -/
theorem Attended.awaits (inv : Attended c.state phases) (tracks : Tracks attendance Attendance.done c phases)
    {entry : Handler × Attendance} (member : entry ∈ phases) (pending : ¬ entry.2.done) :
    entry.2 = entry.1.attendance ∧ ∃ op next, (entry.1, .await op next) ∈ c.threads ∧
      entry.2.may op := by
  obtain ⟨event, phase⟩ := entry
  obtain ⟨index, inPhase⟩ := List.getElem?_of_mem member
  obtain ⟨prog, found, keeps⟩ := tracks.get_of_phase inPhase
  refine ⟨(inv.role _ member).resolve_right pending, ?_⟩
  cases prog with
  | done value => exact absurd keeps pending
  | await op next => exact ⟨op, next, List.mem_of_getElem? found, keeps.1⟩

theorem undone_of_window {phase : Attendance} (pending : phase.window = some (user, position)) :
    ¬ phase.done := by
  intro done
  rw [window_of_done done] at pending
  cases pending

theorem Attended.pending (inv : Attended c.state phases) (tracks : Tracks attendance Attendance.done c phases)
    {entry : Handler × Attendance} (member : entry ∈ phases)
    (pending : entry.2.window = some (user, position)) :
    ∃ thread ∈ c.threads, pendingCheck thread = some (user, position) := by
  obtain ⟨same, op, next, running, may⟩ := inv.awaits tracks member (undone_of_window pending)
  refine ⟨_, running, ?_⟩
  rw [same] at pending may
  generalize entry.1 = event at pending may
  cases event
  case disconnect => exact pending
  case disconnectForfeit =>
    rcases may with ⟨instant, rfl⟩ | rfl
    · exact pending
    · exact pending
  all_goals cases pending

theorem Attended.connecting (inv : Attended c.state phases)
    (tracks : Tracks attendance Attendance.done c phases) {entry : Handler × Attendance}
    (member : entry ∈ phases) (arriving : entry.2 = .arriving user) :
    ∃ thread ∈ c.threads, SkillArena.connecting user thread = true := by
  have undone : ¬ entry.2.done := by
    rw [arriving]
    exact nofun
  obtain ⟨same, op, next, running, may⟩ := inv.awaits tracks member undone
  refine ⟨_, running, ?_⟩
  rw [arriving] at same may
  obtain ⟨socket, seconds, rfl⟩ := may
  generalize entry.1 = event at same
  cases event
  case connection =>
    cases same
    simp [SkillArena.connecting, Op.writes]
  all_goals cases same

theorem answers_of_touches (may : phase.may op) (allowed : touches c choice event op = true)
    (performed : op.perform env choice c.state = some (reply, world')) (user : UserId)
    (arriving : phase = .arriving user) : reply.isOk = true := by
  subst arriving
  obtain ⟨socket, seconds, rfl⟩ := may
  have proceeds : choice ≠ .fail := of_decide_eq_true allowed
  unfold Op.perform at performed
  rw [if_neg proceeds] at performed
  cases performed
  rfl

/-- A key is deleted under the condition only while its user is absent. -/
theorem Attended.clear (inv : Attended c.state phases) (tracks : Tracks attendance Attendance.done c phases)
    (allowed : touches c choice event op = true) (deletes : op.deletes (.presence user) = true)
    {entry : Handler × Attendance} (member : entry ∈ phases)
    (pending : entry.2.window = some (user, position)) :
    absentSince user position c.state.history = true := by
  obtain rfl := Op.del_of_deletes deletes
  obtain ⟨thread, running, check⟩ := inv.pending tracks member pending
  have each := List.all_eq_true.mp allowed thread running
  simpa [check] using each

theorem Attended.outside {world : World} (inv : Attended world phases) (other : op.presents = false)
    (performed : op.perform env choice world = some (reply, world')) : Attended world' phases := by
  have same := history_frame performed
  have keep : ∀ {user}, attended user world phases → attended user world' phases := by
    rintro user (written | arriving)
    · refine .inl (written_frame performed (Bool.eq_false_iff.mpr fun deletes => ?_) written)
      obtain rfl := Op.del_of_deletes deletes
      cases other
    · exact .inr arriving
  refine ⟨inv.role, fun entry member user position pending => ?_, fun user connected => ?_,
    fun entry member user position pending present => ?_⟩
  · rw [same]
    exact inv.inside entry member user position pending
  · rw [same] at connected
    exact keep (inv.present user connected)
  · rw [same] at present
    exact keep (inv.windows entry member user position pending present)

/-- **The discipline of the presence keys.** -/
def attendanceDiscipline (env : Env) :
    Discipline (backend env) (fun c move => inTouch c move = true) attendance where
  enter := Handler.attendance
  finished := Attendance.done
  Inv := Attended
  keeps _ event _ := (Task.keeps_run _ _ _).mpr (handler_attendance env event)
  start c phases event state _ inv allowed arrived := by
    refine inv.arrives arrived ?_
    rintro user matchId position dueAt rfl
    cases allowed
  step c phases index choice event op next phase reply state tracks inv allowed found inPhase may performed := by
    have touches := touches_of_inTouch found allowed
    have answers := answers_of_touches may touches performed
    refine ⟨answers, fun child _ => (Task.keeps_run _ _ _).mpr (handler_attendance env child), ?_⟩
    exact inv.step inPhase may answers performed fun user deletes entry member position =>
      inv.clear tracks touches deletes member
  outside c phases act state _ inv allowed acted := by
    cases act with
    | tick ms =>
      cases acted
      exact ⟨inv.role, inv.inside, inv.present, inv.windows⟩
    | act choice op =>
      obtain ⟨⟨reply, state'⟩, performed, rfl⟩ := Option.map_eq_some_iff.mp acted
      exact inv.outside (by simpa [inTouch] using allowed) performed

/-- A check that is to read the key has read nothing yet, and is over if it finds the key. -/
theorem Attended.unchecked (inv : Attended c.state phases)
    (tracks : Tracks attendance Attendance.done c phases) {matchId : MatchId} {dueAt : ℕ}
    {next : signature.Reply (.get (.presence user)) → Prog signature Unit}
    (check : c.threads[index]? = some (.disconnectForfeit user matchId position dueAt,
      .await (.get (.presence user)) next)) :
    phases[index]? = some (.disconnectForfeit user matchId position dueAt, .checking user position) ∧
      ∀ reply, (next reply).Keeps attendance
        (Attendance.afterCheck (.get (.presence user)) reply (.checking user position))
        fun _ => Attendance.done := by
  obtain ⟨phase, inPhase, keeps⟩ := tracks.get check
  have here : phase = .checking user position := by
    rcases inv.role _ (List.mem_of_getElem? inPhase) with entered | rfl | rfl
    · exact entered
    · exact absurd rfl (keeps.1.2.1 user)
    · exact absurd keeps.1 id
  subst here
  exact ⟨inPhase, fun reply => keeps.2 reply nofun⟩

theorem absent_of_goesOn {prog : Prog signature Unit} {reply : Except Err (Option SocketId)}
    (keeps : prog.Keeps attendance (Attendance.afterCheck (.get (.presence user)) reply phase)
      fun _ => Attendance.done) (goesOn : prog.head.isSome = true) : reply = .ok none := by
  have stops : ∀ {reply : Except Err (Option SocketId)},
      Attendance.afterCheck (.get (.presence user)) reply phase = .closed →
        prog.Keeps attendance (Attendance.afterCheck (.get (.presence user)) reply phase)
          (fun _ => Attendance.done) → False := by
    intro reply closed keeps
    rw [closed] at keeps
    cases prog with
    | done value => cases goesOn
    | await op next => exact keeps.1
  match reply with
  | .ok none => rfl
  | .ok (some socket) => exact (stops rfl keeps).elim
  | .error err => exact (stops rfl keeps).elim

end Run

/-! ### A second tab -/

/-- User 1 is in match 7, which is running. -/
def inMatch : World :=
  matchedOnce.withRedis (matchedOnce.redis.write (.activeMatch 1) 7 7200000)

/-- Sockets connect and disconnect, and nothing fails. -/
def visits : BackendMove → Bool
  | .start (.connection ..) | .start (.disconnect ..) => true
  | .start _ => false
  | .step _ choice => choice ≠ .fail
  | .outside (.tick _) => true
  | .outside (.act ..) => false

/-- User 1 opens two sockets and closes the first; the check comes fifteen seconds later. -/
def closesFirst : List BackendMove :=
  .start (.connection 1 1) :: List.replicate 2 (.step 0 .proceed) ++
    .start (.connection 1 2) :: List.replicate 2 (.step 1 .proceed) ++
    .start (.disconnect 1 1 2) :: List.replicate 7 (.step 2 .proceed) ++
    .outside (.tick 15000) :: List.replicate 14 (.step 3 .proceed)

/-- User 1 opens a socket and closes it; the check is about to read the key. -/
def closesOnly : List BackendMove :=
  .start (.connection 1 1) :: List.replicate 2 (.step 0 .proceed) ++
    .start (.disconnect 1 1 1) :: List.replicate 7 (.step 1 .proceed) ++
    [.outside (.tick 15000), .step 2 .proceed]

end SkillArena
