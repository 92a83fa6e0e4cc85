/-
**The resolved flag, and how often a match is paid out.**

`resolveMatch` guards itself with `match:<id>:resolved`: it reads the flag, returns when it is there, and
otherwise writes it and goes on to the payout. The read and the write are two commands, so two
resolutions can both find the flag absent (`double_payout`), and both payouts commit as soon as the
players hold enough other escrow. Where no resolution reads the flag while another stands between its
read and its write, and the flag is not read after it has expired, a match is paid out at most once
(`payout_at_most_once`), whatever handlers run and whatever else fails.

The proof follows each handler through three phases: before the guard, armed (the flag was read as
absent, the write comes next), and holding (the flag is written, the payout may come).
-/

import SkillArena.Proof.Effects
import SkillArena.Proof.Footprint

namespace SkillArena

open Async Expiring

/-! ### The contract of the flag -/

/-- Where a handler stands with respect to the flag of a match. -/
inductive Guard
  | before
  | armed
  | holding
  deriving DecidableEq

/-- The handler may still pay the match out. -/
def Guard.mayPay : Guard → Bool
  | before => false
  | armed => true
  | holding => true

@[simp] theorem Guard.mayPay_before : Guard.before.mayPay = false := rfl

@[simp] theorem Guard.mayPay_armed : Guard.armed.mayPay = true := rfl

@[simp] theorem Guard.mayPay_holding : Guard.holding.mayPay = true := rfl

/-- The operation read a key and found nothing. -/
def Op.foundAbsent (key : Key) : (op : Op) → Except Err op.Reply → Bool
  | get key', .ok none => key' = key
  | _, _ => false

theorem foundAbsent_get {key : Key} {op : Op} {reply : Except Err op.Reply}
    (absent : op.foundAbsent key reply = true) :
    op = .get key ∧ reply ≍ (.ok none : Except Err (Option key.Val)) := by
  unfold Op.foundAbsent at absent
  split at absent
  · rename_i key'
    obtain rfl : key' = key := by simpa using absent
    exact ⟨rfl, HEq.rfl⟩
  · cases absent

/-- **The contract of the flag**: it is written only right after it was read as absent, and the match
is paid out only by who has written it. -/
def guard (matchId : MatchId) : Contract signature where
  Phase := Guard
  may
    | .armed, op => ∃ seconds, op = .set (.resolved matchId) () seconds
    | .holding, op => op.writes (.resolved matchId) = false
    | .before, op => op.writes (.resolved matchId) = false ∧ op.commits (·.paysOut matchId) = false
  answers _ _ _ := True
  after phase op reply :=
    if phase = .armed then if reply.isOk then .holding else .before
    else if op.foundAbsent (.resolved matchId) reply then .armed
    else if op.commits (·.paysOut matchId) then .before
    else phase

theorem guard_after {matchId : MatchId} {phase : Guard} (unarmed : phase ≠ .armed) (op : Op)
    (reply : Except Err op.Reply) : (guard matchId).after phase op reply =
      if op.foundAbsent (.resolved matchId) reply then .armed
      else if op.commits (·.paysOut matchId) then .before else phase :=
  if_neg unarmed

/-- The phases in which a handler is not between the read and the write. -/
def Guard.unarmed (phase : Guard) : Prop := phase ≠ .armed

section Contract

variable {matchId : MatchId}

open Async.Task (stable_pure stable_bind stable_attempt)

/-- The operation leaves the flag and the payout of the match alone. -/
def Op.sparesGuard (matchId : MatchId) (op : Op) : Prop :=
  op ≠ .get (.resolved matchId) ∧ op.writes (.resolved matchId) = false ∧
    op.commits (·.paysOut matchId) = false

theorem guard_idle {Q : Guard → Prop} (unarmed : ∀ phase, Q phase → phase ≠ .armed) (phase : Guard)
    (op : Op) (here : Q phase) (spares : op.sparesGuard matchId) :
    (guard matchId).may phase op ∧ ∀ reply, (guard matchId).answers phase op reply →
      Q ((guard matchId).after phase op reply) := by
  obtain ⟨noRead, noWrite, noPayout⟩ := spares
  refine ⟨?_, fun reply _ => ?_⟩
  · cases phase with
    | armed => exact absurd rfl (unarmed _ here)
    | before => exact ⟨noWrite, noPayout⟩
    | holding => exact noWrite
  · have notAbsent : op.foundAbsent (.resolved matchId) reply = false :=
      Bool.eq_false_iff.mpr fun absent => noRead (foundAbsent_get absent).1
    rw [guard_after (unarmed phase here), notAbsent, noPayout]
    exact here

theorem spares_of_within {departments : List Department} {op : Op}
    (inside : op.within departments) (other : departments.contains .play = false) :
    op.sparesGuard matchId := by
  have unplayed := department_ne inside other
  refine ⟨fun same => ?_, Bool.eq_false_iff.mpr fun writes => ?_, Bool.eq_false_iff.mpr fun pays => ?_⟩
  · exact unplayed (by rw [same]; rfl)
  · cases op
    all_goals simp only [Op.writes, decide_eq_true_eq, Bool.false_eq_true] at writes
    all_goals
      subst writes
      exact unplayed rfl
  · cases op
    case transact transaction =>
      cases transaction
      case releaseEscrowToWinner => exact unplayed rfl
      all_goals cases pays
    all_goals cases pays

theorem spares_of_sideline {op : Op} (sideline : op.sideline = true) : op.sparesGuard matchId := by
  have unsettling : op.settling = false := by simpa using (Bool.and_eq_true_iff.mp sideline).1
  refine ⟨fun same => ?_, Bool.eq_false_iff.mpr fun writes => ?_, Bool.eq_false_iff.mpr fun pays => ?_⟩
  · rw [same] at unsettling
    cases unsettling
  · cases op
    all_goals simp only [Op.writes, decide_eq_true_eq, Bool.false_eq_true] at writes
    all_goals
      subst writes
      cases unsettling
  · cases op
    case transact transaction => cases unsettling
    all_goals cases pays

theorem guard_call {Q : Guard → Prop} (unarmed : ∀ phase, Q phase → phase ≠ .armed) {op : Op}
    (spares : op.sparesGuard matchId) : op.call.Stable (guard matchId) Q :=
  (asks_call spares).stable (guard_idle unarmed)

theorem recordResult_guard (resolved : MatchId) (winnerId loserId : UserId) (resolveType : ResolveType)
    (matchState : MatchState) (prize : ℚ × ℚ) :
    (recordResult resolved winnerId loserId resolveType matchState prize).Stable (guard matchId)
      Guard.unarmed :=
  recordResult_stable (fun phase op unarmed kept =>
    guard_idle (fun _ => id) phase op unarmed (spares_of_sideline (sideline_of_bookkeeping kept)))
    (fun _ _ _ _ => guard_call (fun _ => id) ⟨nofun, rfl, rfl⟩) loserId resolveType matchState prize

theorem before_unarmed : Guard.before.unarmed := by
  rintro ⟨⟩

theorem holding_unarmed : Guard.holding.unarmed := by
  rintro ⟨⟩

theorem resolveBody_guard_of_ne {resolved : MatchId} (other : resolved ≠ matchId)
    (winnerId loserId : UserId) (resolveType : ResolveType) :
    (resolveBody resolved winnerId loserId resolveType).Stable (guard matchId) Guard.unarmed := by
  have call : ∀ {op : Op}, op.sparesGuard matchId → op.call.Stable (guard matchId) Guard.unarmed :=
    guard_call fun _ => id
  have otherKey : Key.resolved resolved ≠ Key.resolved matchId := fun same => other (by cases same; rfl)
  refine stable_bind (call ⟨fun same => ?_, rfl, rfl⟩) fun flag => ?_
  · cases same
    exact other rfl
  cases flag with
  | some _ => exact stable_pure _
  | none =>
    refine stable_bind (call ⟨by rintro ⟨⟩, by simp [Op.writes, otherKey], rfl⟩) fun _ =>
      stable_bind (call ⟨by rintro ⟨⟩, rfl, rfl⟩) fun stored => ?_
    cases stored with
    | none => exact stable_pure _
    | some stored =>
      refine stable_bind (call ⟨by rintro ⟨⟩, rfl, rfl⟩) fun _ => stable_bind
        (call ⟨by rintro ⟨⟩, rfl, by simp [Op.commits, Transaction.paysOut, other]⟩) fun prize => ?_
      exact recordResult_guard _ _ _ _ _ _

/-- **The `try` block of a resolution keeps the contract of its flag**: the write follows the read that
found nothing, and the payout follows the write. -/
theorem resolveBody_guard (winnerId loserId : UserId) (resolveType : ResolveType) :
    (resolveBody matchId winnerId loserId resolveType).Stable (guard matchId) Guard.unarmed := by
  have call : ∀ op : Op, op.sparesGuard matchId →
      op.call.Stable (guard matchId) (· = Guard.holding) := fun op =>
    guard_call fun phase same => by simp [same]
  intro phase unarmed
  refine (Task.keeps_bind _ _ _ _).mpr ⟨?_, fun flag _ => ?_⟩
  · cases phase with
    | armed => exact absurd rfl unarmed
    | before => exact ⟨rfl, rfl⟩
    | holding => rfl
  rw [guard_after unarmed]
  match flag with
  | .error _ => exact unarmed
  | .ok (some _) => exact unarmed
  | .ok none =>
    have absent : (Op.get (.resolved matchId)).foundAbsent (.resolved matchId) (.ok none) = true := by
      simp [Op.foundAbsent]
    rw [if_pos absent]
    refine (Task.keeps_bind _ _ _ _).mpr ⟨⟨7200, rfl⟩, fun written _ => ?_⟩
    cases written with
    | error err => exact before_unarmed
    | ok =>
      refine (Task.keeps_bind _ _ _ _).mpr ((call (.get (.state matchId)) ⟨by rintro ⟨⟩, rfl, rfl⟩
        .holding rfl).mono ?_)
      rintro (err | stored) _ rfl
      · exact holding_unarmed
      · cases stored with
        | none => exact holding_unarmed
        | some stored =>
          refine (Task.keeps_bind _ _ _ _).mpr ((call (.set (.state matchId) _ 7200) ⟨by rintro ⟨⟩, rfl, rfl⟩
            .holding rfl).mono ?_)
          rintro (err | _) _ rfl
          · exact holding_unarmed
          · -- the payout takes the handler out of the guard, whether it commits or not
            refine (Task.keeps_bind _ _ _ _).mpr ⟨rfl, fun paid _ => ?_⟩
            have pays : (Op.transact (.releaseEscrowToWinner winnerId loserId stored.entryFee
                matchId)).commits (·.paysOut matchId) = true := by
              simp [Op.commits, Transaction.paysOut]
            rw [guard_after holding_unarmed, if_pos pays]
            cases paid with
            | error err => exact before_unarmed
            | ok prize => exact recordResult_guard _ _ _ _ _ _ .before before_unarmed

/-- The contract of a flag, as rules over the handlers of any match. -/
def guardReferee (matchId played : MatchId) : Referee (guard matchId) Guard.unarmed played where
  known _ := True
  idle phase op unarmed sideline _ :=
    guard_idle (fun _ => id) phase op unarmed (spares_of_sideline sideline)
  state phase unarmed := by
    have spares : (Op.get (.state played)).sparesGuard matchId := ⟨nofun, rfl, rfl⟩
    obtain ⟨may, stays⟩ := guard_idle (fun _ => id) phase _ unarmed spares
    exact ⟨may, fun reply answer => ⟨stays reply answer, fun _ _ => trivial⟩⟩
  refund _ _ := guard_call (fun _ => id) ⟨nofun, rfl, rfl⟩
  cancel := guard_call (fun _ => id) ⟨nofun, rfl, rfl⟩
  body _ pair resolveType _ _ := by
    by_cases same : played = matchId
    · rw [same]
      exact resolveBody_guard _ _ _
    · exact resolveBody_guard_of_ne same _ _ _

/-- **Every handler keeps the contract of every flag.** -/
theorem handler_guard (env : Env) (handler : Handler) :
    (handler.task env).Stable (guard matchId) Guard.unarmed := by
  have forfeits : ∀ played winnerId loserId,
      (resolveBody played winnerId loserId .forfeit).Stable (guard matchId) Guard.unarmed := by
    intro played winnerId loserId
    by_cases same : played = matchId
    · rw [same]
      exact resolveBody_guard _ _ _
    · exact resolveBody_guard_of_ne same _ _ _
  cases handler
  case codeSubmit user played language code => exact (guardReferee matchId played).codeSubmit_stable _ _ _
  case forfeitRequest user played reason =>
    exact (guardReferee matchId played).forfeitRequest_stable (fun _ _ => forfeits _ _ _) reason
  case timerExpiry played dueAt => exact (guardReferee matchId played).handleTimerExpiry_stable dueAt
  case disconnectForfeit user played position dueAt =>
    exact (guardReferee matchId played).handleDisconnectForfeit_stable (fun _ _ => forfeits _ _ _)
      (guard_call (fun _ => id) ⟨nofun, rfl, rfl⟩) dueAt
  all_goals
    exact (Handler.asks_within env _).stable fun phase op unarmed inside =>
      guard_idle (fun _ => id) phase op unarmed (spares_of_within inside rfl)

end Contract

/-! ### The invariant -/

/-- **The invariant of the flag**: payouts and handlers that may still pay are one in total, and as long
as the flag was never written nobody has paid or holds it. -/
structure GuardInv (matchId : MatchId) (world : World) (phases : List (Handler × Guard)) : Prop where
  once : world.db.payouts matchId + phases.countP (·.2.mayPay) ≤ 1
  unwritten : world.redis (.resolved matchId) = none →
    world.db.payouts matchId = 0 ∧ ∀ entry ∈ phases, entry.2 ≠ .holding

namespace GuardInv

variable {env : Env} {choice : Choice} {matchId : MatchId} {world world' : World}
  {phases : List (Handler × Guard)} {index : ℕ} {event : Handler} {phase : Guard}

theorem append (inv : GuardInv matchId world phases) (events : List Handler) :
    GuardInv matchId world (phases ++ events.map fun event => (event, Guard.before)) := by
  have fresh : (events.map fun event => (event, Guard.before)).countP (·.2.mayPay) = 0 := by
    rw [List.countP_eq_zero]
    simp [Guard.mayPay]
  refine ⟨?_, fun absent => ⟨(inv.unwritten absent).1, ?_⟩⟩
  · rw [List.countP_append, fresh]
    exact inv.once
  · intro entry member
    rcases List.mem_append.mp member with old | new
    · exact (inv.unwritten absent).2 entry old
    · obtain ⟨event, _, rfl⟩ := List.mem_map.mp new
      exact nofun

/-- A step that moves neither the flag nor the payouts, to a phase that may pay only if the old one
might. -/
theorem same (inv : GuardInv matchId world phases) (found : phases[index]? = some (event, phase))
    (flag : world'.redis (.resolved matchId) = world.redis (.resolved matchId))
    (payouts : world'.db.payouts matchId = world.db.payouts matchId) {next : Guard}
    (stays : next = phase ∨ next = .before) : GuardInv matchId world' (phases.set index (event, next)) := by
  have counted := countP_set (p := fun entry : Handler × Guard => entry.2.mayPay) found (event, next)
  refine ⟨?_, fun absent => ?_⟩
  · rw [payouts]
    have once := inv.once
    rcases stays with rfl | rfl
    · omega
    · simp only [Guard.mayPay_before, Bool.false_eq_true, if_false] at counted
      split at counted
      · omega
      · omega
  · rw [flag] at absent
    obtain ⟨unpaid, unheld⟩ := inv.unwritten absent
    refine ⟨payouts.trans unpaid, fun entry member => ?_⟩
    rcases List.mem_or_eq_of_mem_set member with old | rfl
    · exact unheld entry old
    · rcases stays with rfl | rfl
      · exact unheld _ (List.mem_of_getElem? found)
      · exact nofun

theorem arms (inv : GuardInv matchId world phases) (found : phases[index]? = some (event, phase))
    (unwritten : world.redis (.resolved matchId) = none) (unarmed : ∀ entry ∈ phases, entry.2 ≠ .armed) :
    GuardInv matchId world (phases.set index (event, .armed)) := by
  obtain ⟨unpaid, unheld⟩ := inv.unwritten unwritten
  have nobody : phases.countP (·.2.mayPay) = 0 := by
    rw [List.countP_eq_zero]
    rintro ⟨other, phase'⟩ member
    cases phase' with
    | before => exact nofun
    | armed => exact absurd rfl (unarmed _ member)
    | holding => exact absurd rfl (unheld _ member)
  have counted := countP_set (p := fun entry : Handler × Guard => entry.2.mayPay) found (event, Guard.armed)
  refine ⟨?_, fun _ => ⟨unpaid, fun entry member => ?_⟩⟩
  · simp only [Guard.mayPay_armed, if_true] at counted
    rw [unpaid]
    omega
  · rcases List.mem_or_eq_of_mem_set member with old | rfl
    · exact unheld entry old
    · exact nofun

theorem holds (inv : GuardInv matchId world phases) (found : phases[index]? = some (event, .armed))
    (written : world'.redis (.resolved matchId) ≠ none)
    (payouts : world'.db.payouts matchId = world.db.payouts matchId) :
    GuardInv matchId world' (phases.set index (event, .holding)) := by
  have counted := countP_set (p := fun entry : Handler × Guard => entry.2.mayPay) found (event, Guard.holding)
  refine ⟨?_, fun absent => absurd absent written⟩
  rw [payouts]
  have once := inv.once
  simp only [Guard.mayPay_armed, Guard.mayPay_holding, if_true] at counted
  omega

theorem pays (inv : GuardInv matchId world phases) (found : phases[index]? = some (event, .holding))
    (flag : world'.redis (.resolved matchId) = world.redis (.resolved matchId))
    (paid : world'.db.payouts matchId = world.db.payouts matchId + 1) :
    GuardInv matchId world' (phases.set index (event, .before)) := by
  have counted := countP_set (p := fun entry : Handler × Guard => entry.2.mayPay) found (event, Guard.before)
  refine ⟨?_, fun unwritten => ?_⟩
  · have once := inv.once
    simp only [Guard.mayPay_before, Guard.mayPay_holding, Bool.false_eq_true, if_true, if_false] at counted
    omega
  · rw [flag] at unwritten
    exact absurd rfl ((inv.unwritten unwritten).2 _ (List.mem_of_getElem? found))

/-- **One step keeps the invariant**, if the flag is read only while nobody is armed, and is not read
after it has expired. -/
theorem step (inv : GuardInv matchId world phases) (found : phases[index]? = some (event, phase))
    {op : Op} {reply : Except Err op.Reply} (may : (guard matchId).may phase op)
    (performed : op.perform env choice world = some (reply, world'))
    (respected : op = .get (.resolved matchId) → (∀ entry ∈ phases, entry.2 ≠ .armed) ∧
      (world.redis (.resolved matchId) = none ∨
        (world.redis.read world.now (.resolved matchId)).isSome)) :
    GuardInv matchId world' (phases.set index (event, (guard matchId).after phase op reply)) := by
  by_cases armed : phase = .armed
  · subst armed
    obtain ⟨seconds, rfl⟩ := may
    cases reply with
    | error err =>
      obtain rfl := perform_error performed
      exact inv.same found rfl rfl (.inr rfl)
    | ok =>
      refine inv.holds found ?_ ((counts_frame matchId performed).1 rfl)
      rw [perform_set_ok performed]
      simp
  · have untouched : op.writes (.resolved matchId) = false := by
      cases phase with
      | armed => exact absurd rfl armed
      | before => exact may.1
      | holding => exact may
    have flag := redis_frame performed untouched
    rw [guard_after armed]
    by_cases absent : op.foundAbsent (.resolved matchId) reply = true
    · obtain ⟨rfl, read⟩ := foundAbsent_get absent
      obtain rfl : reply = .ok none := eq_of_heq read
      obtain ⟨nothing, rfl⟩ := perform_get_ok performed
      obtain ⟨unarmed, unexpired⟩ := respected rfl
      rw [if_pos absent]
      refine inv.arms found ?_ unarmed
      rcases unexpired with unwritten | live
      · exact unwritten
      · rw [← nothing] at live
        cases live
    · rw [if_neg absent]
      by_cases pays : op.commits (·.paysOut matchId) = true
      · rw [if_pos pays]
        obtain rfl : phase = .holding := by
          cases phase with
          | armed => exact absurd rfl armed
          | before =>
            rw [may.2] at pays
            cases pays
          | holding => rfl
        cases reply with
        | error err =>
          obtain rfl := perform_error performed
          exact inv.same found rfl rfl (.inr rfl)
        | ok value =>
          have paid := (perform_counts matchId performed).1
          rw [if_pos pays] at paid
          exact inv.pays found flag paid
      · rw [if_neg pays]
        have payouts := (counts_frame matchId performed).1 (Bool.eq_false_iff.mpr pays)
        exact inv.same found flag payouts (.inl rfl)

end GuardInv

/-! ### At most one payout -/

/-- **The condition on a run**: when the flag of the match is read, no other handler is about to write
it, and it has not expired since it was written; nothing outside the handlers writes the flag or pays
the match out. -/
def flagRespected (matchId : MatchId) (c : BackendConfig) : BackendMove → Bool
  | .start _ => true
  | .step index _ =>
    match (c.threads[index]?).bind (·.2.head) with
    | some (.get key) => key ≠ .resolved matchId ||
      (c.threads.all fun thread => !thread.2.head.any (Op.writes (.resolved matchId))) &&
        ((c.state.redis (.resolved matchId)).isNone ||
          (c.state.redis.read c.state.now (.resolved matchId)).isSome)
    | _ => true
  | .outside (.tick _) => true
  | .outside (.act _ op) => !op.writes (.resolved matchId) && !op.commits (·.paysOut matchId)

variable {env : Env} {matchId : MatchId} {c c₀ : BackendConfig}

theorem armed_writes {phases : List (Handler × Guard)}
    (tracks : Tracks (guard matchId) Guard.unarmed c phases) {event : Handler}
    (member : (event, Guard.armed) ∈ phases) :
    ∃ thread ∈ c.threads, thread.2.head.any (Op.writes (.resolved matchId)) = true := by
  obtain ⟨index, found⟩ := List.getElem?_of_mem member
  obtain ⟨prog, thread, keeps⟩ := tracks.get_of_phase found
  refine ⟨_, List.mem_of_getElem? thread, ?_⟩
  cases prog with
  | done value => exact absurd rfl keeps
  | await op next =>
    obtain ⟨seconds, rfl⟩ := keeps.1
    simp [Op.writes]

theorem flagRespected_read {index : ℕ} {choice : Choice} {event : Handler}
    {next : signature.Reply (.get (.resolved matchId)) → Prog signature Unit}
    (respected : flagRespected matchId c (.step index choice) = true)
    (found : c.threads[index]? = some (event, .await (.get (.resolved matchId)) next)) :
    (∀ thread ∈ c.threads, thread.2.head.any (Op.writes (.resolved matchId)) = false) ∧
      (c.state.redis (.resolved matchId) = none ∨
        (c.state.redis.read c.state.now (.resolved matchId)).isSome) := by
  simpa [flagRespected, found] using respected

/-- The contract and the invariant of the flag, over every handler of the backend. -/
def guardDiscipline (env : Env) (matchId : MatchId) :
    Discipline (backend env) (fun c move => flagRespected matchId c move = true) (guard matchId) where
  enter _ := .before
  finished := Guard.unarmed
  Inv := GuardInv matchId
  keeps c event _ := (Task.keeps_run _ _ _).mpr (handler_guard env event .before nofun)
  start c phases event state _ inv _ arrived := by
    have kept : GuardInv matchId state phases := by
      have same := arrive_frame arrived
      exact ⟨by rw [same.2]; exact inv.once, by rw [same.1, same.2]; exact inv.unwritten⟩
    exact kept.append [event]
  step c phases index choice event op next phase reply state tracks inv respected found inPhase may
      performed := by
    refine ⟨trivial, fun child _ => (Task.keeps_run _ _ _).mpr (handler_guard env child .before nofun),
      (inv.step inPhase may performed ?_).append _⟩
    rintro rfl
    obtain ⟨nobody, unexpired⟩ := flagRespected_read respected found
    refine ⟨?_, unexpired⟩
    rintro ⟨other, phase'⟩ member armed
    obtain rfl : phase' = .armed := armed
    obtain ⟨thread, inPool, writes⟩ := armed_writes tracks member
    rw [nobody thread inPool] at writes
    cases writes
  outside c phases act state _ inv respected acted := by
    cases act with
    | tick ms =>
      cases acted
      exact ⟨inv.once, inv.unwritten⟩
    | act choice op =>
      obtain ⟨⟨reply, state'⟩, performed, rfl⟩ := Option.map_eq_some_iff.mp acted
      simp only [flagRespected, Bool.and_eq_true, Bool.not_eq_true'] at respected
      have flag := redis_frame performed respected.1
      have payouts := (counts_frame matchId performed).1 respected.2
      exact ⟨by rw [payouts]; exact inv.once, by rw [flag, payouts]; exact inv.unwritten⟩

/-- **A match is paid out at most once** along every run of the backend, over any number of handlers
and matches, whose reads of the flag meet the condition. -/
theorem payout_at_most_once (env : Env) (matchId : MatchId) {c₀ c : BackendConfig}
    (idle : c₀.threads = []) (unpaid : c₀.state.db.payouts matchId = 0)
    (run : Reaches (backend env) (fun c move => flagRespected matchId c move = true) c₀ c) :
    c.state.db.payouts matchId ≤ 1 := by
  have initial : GuardInv matchId c₀.state [] := by
    refine ⟨?_, fun _ => ⟨unpaid, nofun⟩⟩
    rw [unpaid]
    exact Nat.zero_le 1
  obtain ⟨phases, _, inv⟩ := (guardDiscipline env matchId).holds ⟨[], tracks_nil idle, initial⟩ run
  exact (Nat.le_add_right _ _).trans inv.once

/-! ### Two payouts -/

theorem hundred_nonneg : (0 : ℚ) ≤ 100 := by norm_num

theorem none_locked : (0 : ℚ) ≤ 0 := le_rfl

/-- Two users with a hundred rupees each. -/
def twoPlayers : Db where
  wallets user := if user ∈ [1, 2] then some ⟨100, 0, 0, 0, hundred_nonneg, none_locked⟩ else none
  users user := if user ∈ [1, 2] then some {} else none

/-- An environment for concrete runs. -/
def sampleEnv : Env := .standard (fun secret text => secret ++ text) fun _ => .error .invalidInput

/-- The state of a match between the two users for ten rupees. -/
def openState (matchId : MatchId) : MatchState :=
  { matchId, playerAId := 1, playerBId := 2, entryFee := 10, prizePool := 18, platformFee := 2,
    problemId := 0, status := .inProgress }

/-- The two users have been matched twice, as matches 7 and 8. -/
def matchedTwice : World where
  now := 0
  db := [Transaction.createMatch 7 1 2 0 10, .createMatch 8 1 2 0 10].foldl
    (fun db transaction => (transaction.run sampleEnv db).2) twoPlayers
  redis := Store.write (Store.write (fun _ => none) (.state 7) (openState 7) 7200000)
    (.state 8) (openState 8) 7200000

/-- Who sends the event of a handler that plays a match. -/
def Handler.sender : Handler → Option UserId
  | codeSubmit user _ _ _ => some user
  | forfeitRequest user _ _ => some user
  | disconnectForfeit user _ _ _ => some user
  | _ => none

/-- Nothing fails, and the judge returns a verdict. -/
def Choice.smooth : Choice → Bool
  | fail => false
  | verdict result => result.status ≠ .judgeError
  | _ => true

/-- The moves of one match played by its two players, without a failure. -/
def playedBy (matchId : MatchId) (playerA playerB : UserId) : BackendMove → Bool
  | .start handler => handler.plays = some matchId &&
      handler.sender.all fun user => user = playerA || user = playerB
  | .step _ choice => choice.smooth
  | .outside (.tick _) => true
  | .outside (.act ..) => false

/-- Both players forfeit, and the two resolutions run side by side. -/
def forfeitTwice : List BackendMove :=
  [.start (.forfeitRequest 1 7 "quit"), .start (.forfeitRequest 2 7 "quit")] ++
    (List.replicate 7 [.step 0 .proceed, .step 1 .proceed]).flatten

/-- **Two forfeits of one match pay it out twice**, to the one player and to the other: both
resolutions read the flag before either writes it, and the escrow of the second match covers the second
payout. -/
theorem double_payout : ∃ c, Reaches (backend sampleEnv) (fun _ move => playedBy 7 1 2 move = true)
    ⟨matchedTwice, []⟩ c ∧ c.state.db.payouts 7 = 2 := by
  obtain ⟨c, run, paid⟩ := Machine.exists_run (backend sampleEnv) (fun _ move => playedBy 7 1 2 move)
    ⟨matchedTwice, []⟩ forfeitTwice (fun c => c.state.db.payouts 7 == 2) (by decide +kernel)
  exact ⟨c, run, by simpa using paid⟩

/-- The second forfeit reads the flag once the first resolution has paid. -/
def forfeitInTurn : List BackendMove :=
  [.start (.forfeitRequest 1 7 "quit"), .start (.forfeitRequest 2 7 "quit")] ++
    List.replicate 2 (.step 1 .proceed) ++ List.replicate 7 (.step 0 .proceed) ++ [.step 1 .proceed]

theorem payout_once_in_turn : ∃ c, Reaches (backend sampleEnv)
    (fun c move => flagRespected 7 c move = true) ⟨matchedTwice, []⟩ c ∧
      c.state.db.payouts 7 = 1 ∧ c.state.db.payouts 7 ≤ 1 := by
  obtain ⟨c, run, paid⟩ := Machine.exists_run (backend sampleEnv) (flagRespected 7)
    ⟨matchedTwice, []⟩ forfeitInTurn (fun c => c.state.db.payouts 7 == 1) (by decide +kernel)
  exact ⟨c, run, by simpa using paid, payout_at_most_once sampleEnv 7 rfl (by decide +kernel) run⟩

end SkillArena
