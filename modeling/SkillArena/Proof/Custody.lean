/-
**Who still settles a match.**

The entry fees of a match are locked when `createMatch` commits, before its timer keys, its state and its
timeout are there; `resolveMatch` sets the resolved flag before it pays, and its `catch` block may fail too. So
one failed call can leave both fees locked with nothing that would ever settle them: the `SET` of `start_ts`
after the commit is enough (`fees_locked_forever`). Where no call fails between the commit and the timeout, none
of the timer before it calls `resolveMatch`, none in a `catch` block that has to refund, whose players still hold
the fee, and the state of an unsettled match does not expire, every match whose fees are locked has its state in
progress and its timer, or a handler that creates or resolves it (`escrow_in_custody`), whatever else fails.

* `Duty` — what a handler has to do with the escrow of a match: it creates it, waits as its timer, resolves it.
* `custody` — the contract of these steps.
* `Custody` — the invariant: as long as the fees are locked somebody settles, or the flag is unset, the state in
  progress, and somebody creates or times.
-/

import SkillArena.Async.Watch
import SkillArena.Proof.OneMatch

namespace SkillArena

open Async Expiring

/-! ### The contract -/

/-- **What a handler has to do with the escrow of a match.** `committed` and `opened` are in `tryCreateMatch`,
before and after the state is written; `scheduled` and `expired` in `handleTimerExpiry`, before and after it has
found the match in progress; `called` and `aware` may enter `resolveMatch`; the others are in it. -/
inductive Duty
  | free
  | committed
  | opened
  | scheduled
  | expired
  | called
  | aware
  | marking
  | opening
  | closing
  | paying
  | catching
  | refunding
  deriving DecidableEq

/-- Two players, and a fee that is not negative. -/
def MatchState.proper (matchState : MatchState) : Prop :=
  matchState.playerAId ≠ matchState.playerBId ∧ 0 ≤ matchState.entryFee

/-- The keys a resolution goes by. -/
def Key.rules (matchId : MatchId) (key : Key) : Bool := key = .state matchId || key = .resolved matchId

def Transaction.founds (matchId : MatchId) : Transaction → Bool
  | createMatch matchId' .. => matchId' = matchId
  | _ => false

/-- The operation neither looks at the flag of a match nor changes what its escrow depends on. -/
def Op.detached (matchId : MatchId) : Op → Bool
  | get (.resolved matchId') => matchId' ≠ matchId
  | set key .. | setNx key .. | del key => !key.rules matchId
  | transact transaction => !transaction.settles matchId && !transaction.founds matchId
  | _ => true

/-- The operation rejects only if it fails outside. -/
def Op.certain : Op → Bool
  | query _ | transact _ => false
  | _ => true

/-- The operation does not read the state of a match. -/
def Op.blind : Op → Bool
  | get (.state _) => false
  | _ => true

namespace Duty

/-- What a handler may do next. -/
def may (matchId : MatchId) : Duty → Op → Prop
  | free, op => op.detached matchId = true ∨ op.commits (·.founds matchId) = true
  | committed, op => op.detached matchId = true ∧ op.certain = true ∨
    ∃ matchState seconds, op = .set (.state matchId) matchState seconds ∧ matchState.status = .inProgress ∧
      matchState.proper
  | opened, op => op.detached matchId = true ∧ op.certain = true
  | scheduled, op => (∃ instant, op = .sleepUntil instant) ∨ op = .get (.state matchId)
  | expired, op => op.detached matchId = true ∧ op.certain = true
  | called, op => op = .get (.resolved matchId)
  | aware, op => op.detached matchId = true ∨ op = .get (.resolved matchId) ∨ op.commits (·.refunds matchId) = true
  | marking, op => ∃ seconds, op = .set (.resolved matchId) () seconds
  | opening, op => op = .get (.state matchId)
  | closing, op => ∃ matchState seconds, op = .set (.state matchId) matchState seconds ∧ matchState.proper
  | paying, op => op.commits (·.paysOut matchId) = true
  | catching, op => op = .get (.state matchId)
  | refunding, op => ∃ playerA playerB fee, op = .transact (.refundBothPlayers playerA playerB fee matchId) ∧
    playerA ≠ playerB ∧ 0 ≤ fee

/-- What the timer does with the state it has read. -/
def found : Option MatchState → Duty
  | some matchState => if matchState.status = .inProgress then expired else free
  | none => free

/-- Where an operation that returned leads. -/
def goes (matchId : MatchId) : Duty → (op : Op) → op.Reply → Duty
  | free, .get (.state matchId'), some _ => if matchId' = matchId then aware else free
  | free, .transact (.createMatch matchId' ..), _ => if matchId' = matchId then committed else free
  | committed, .set (.state matchId') _ _, _ => if matchId' = matchId then opened else committed
  | opened, .fork (.timerExpiry matchId' _), _ => if matchId' = matchId then free else opened
  | scheduled, .get (.state _), reply => found reply
  | expired, .emit _ (.timeUp _), _ => called
  | called, .get (.resolved _), none => marking
  | called, _, _ => free
  | aware, .get (.resolved matchId'), none => if matchId' = matchId then marking else aware
  | marking, _, _ => opening
  | opening, .get (.state _), some _ => closing
  | opening, _, _ => aware
  | closing, _, _ => paying
  | paying, _, _ => aware
  | catching, .get (.state _), some _ => refunding
  | catching, _, _ => aware
  | refunding, _, _ => aware
  | duty, _, _ => duty

/-- Where an operation that rejected leads. -/
def fails (matchId : MatchId) : Duty → Op → Duty
  | committed, _ | opened, _ | scheduled, _ | expired, _ => free
  | called, _ => catching
  | aware, .get (.resolved matchId') => if matchId' = matchId then catching else aware
  | marking, _ | opening, _ | closing, _ | paying, _ => catching
  | catching, _ | refunding, _ => aware
  | duty, _ => duty

def after (matchId : MatchId) (duty : Duty) (op : Op) : Except Err op.Reply → Duty
  | .ok value => duty.goes matchId op value
  | .error _ => duty.fails matchId op

end Duty

/-- What the answers say: a state that is read is proper, and two players that are taken are different. -/
def Op.tells (matchId : MatchId) : (op : Op) → Except Err op.Reply → Prop
  | get (.state matchId'), .ok (some matchState) => matchId' = matchId → matchState.proper
  | memory (.takeTwo _), .ok (some taken) => taken.playerA.userId ≠ taken.playerB.userId
  | _, _ => True

/-- **The contract of the escrow of a match.** -/
def custody (matchId : MatchId) : Contract signature where
  Phase := Duty
  may duty op := duty.may matchId op
  answers _ op reply := op.tells matchId reply
  after duty op reply := duty.after matchId op reply

/-- The handler has no duty. -/
def Duty.light (duty : Duty) : Prop := duty = .free ∨ duty = .aware

section Contract

variable {matchId played : MatchId} {op : Op} {α : Type}

open Async.Task (stable_pure stable_bind stable_attempt asks_pure asks_bind asks_attempt)

theorem keeps_at {duty duty' : Duty} {task : Promise α} {post : Except Err α → Duty → Prop} (same : duty = duty')
    (keeps : task.Keeps (custody matchId) duty' post) : task.Keeps (custody matchId) duty post := same ▸ keeps

theorem aware_detached (detached : op.detached matchId = true) (reply : Except Err op.Reply) :
    Duty.aware.after matchId op reply = .aware := by
  have apart : op ≠ .get (.resolved matchId) := by
    rintro rfl
    simp [Op.detached] at detached
  cases reply with
  | error err =>
    show Duty.aware.fails matchId op = .aware
    cases op
    case get key =>
      cases key
      case resolved matchId' => exact if_neg fun same : matchId' = matchId => apart (by rw [same])
      all_goals rfl
    all_goals rfl
  | ok value =>
    show Duty.aware.goes matchId op value = .aware
    cases op
    case get key =>
      cases key
      case resolved matchId' =>
        cases value with
        | none => exact if_neg fun same : matchId' = matchId => apart (by rw [same])
        | some _ => rfl
      all_goals rfl
    all_goals rfl

theorem free_detached (detached : op.detached matchId = true) (reply : Except Err op.Reply) :
    (Duty.free.after matchId op reply).light := by
  cases reply with
  | error err => exact .inl rfl
  | ok value =>
    show (Duty.free.goes matchId op value).light
    cases op
    case get key =>
      cases key
      case state matchId' =>
        cases value with
        | none => exact .inl rfl
        | some matchState =>
          show (if matchId' = matchId then Duty.aware else .free).light
          split
          · exact .inr rfl
          · exact .inl rfl
      all_goals exact .inl rfl
    case transact transaction =>
      cases transaction
      case createMatch matchId' playerA playerB problemId fee =>
        have other : matchId' ≠ matchId := by simpa [Op.detached, Transaction.settles, Transaction.paysOut,
          Transaction.refunds, Transaction.founds] using detached
        exact .inl (if_neg other)
      all_goals exact .inl rfl
    all_goals exact .inl rfl

theorem free_blind (detached : op.detached matchId = true) (blind : op.blind = true) (reply : Except Err op.Reply) :
    Duty.free.after matchId op reply = .free := by
  rcases free_detached detached reply with free | aware
  · exact free
  · exfalso
    cases reply with
    | error err => cases aware
    | ok value =>
      cases op
      case get key =>
        cases key
        case state => cases blind
        all_goals cases aware
      case transact transaction =>
        cases transaction
        case createMatch matchId' playerA playerB problemId fee =>
          have there : (if matchId' = matchId then Duty.committed else .free) = .aware := aware
          split at there
          · cases there
          · cases there
        all_goals cases aware
      all_goals cases aware

theorem light_idle {duty : Duty} (light : duty.light) (detached : op.detached matchId = true) :
    duty.may matchId op ∧ ∀ reply, (duty.after matchId op reply).light := by
  rcases light with rfl | rfl
  · exact ⟨.inl detached, free_detached detached⟩
  · exact ⟨.inl detached, fun reply => .inr (aware_detached detached reply)⟩

theorem light_stable {task : Promise α} (asks : task.Asks fun op : Op => op.detached matchId = true) :
    task.Stable (custody matchId) Duty.light :=
  asks.stable fun _ _ light detached =>
    ⟨(light_idle light detached).1, fun reply _ => (light_idle light detached).2 reply⟩

theorem aware_stable {task : Promise α} (asks : task.Asks fun op : Op => op.detached matchId = true) :
    task.Stable (custody matchId) (· = Duty.aware) := by
  refine asks.stable ?_
  rintro _ op rfl detached
  exact ⟨.inl detached, fun reply _ => aware_detached detached reply⟩

theorem free_stable {task : Promise α}
    (asks : task.Asks fun op : Op => op.detached matchId = true ∧ op.blind = true) :
    task.Stable (custody matchId) (· = Duty.free) := by
  refine asks.stable ?_
  rintro _ op rfl ⟨detached, blind⟩
  exact ⟨.inl detached, fun reply _ => free_blind detached blind reply⟩

theorem detached_of_sideline (sideline : op.sideline = true) :
    op.detached matchId = true ∧ op.blind = true := by
  have idle : op.settling = false := by simpa [Op.sideline] using (Bool.and_eq_true_iff.mp sideline).1
  cases op
  case get key =>
    cases key
    case resolved => cases idle
    case state => cases idle
    all_goals exact ⟨rfl, rfl⟩
  case set key value seconds =>
    cases key
    case resolved => cases idle
    case state => cases idle
    all_goals exact ⟨rfl, rfl⟩
  case setNx key value seconds =>
    cases key
    case resolved => cases idle
    case state => cases idle
    all_goals exact ⟨rfl, rfl⟩
  case del key =>
    cases key
    case resolved => cases idle
    case state => cases idle
    all_goals exact ⟨rfl, rfl⟩
  case transact => cases idle
  all_goals exact ⟨rfl, rfl⟩

theorem detached_of_admitting (admitting : op.admitting = true) :
    op.detached matchId = true ∧ op.blind = true := by
  unfold Op.admitting at admitting
  split at admitting
  all_goals first | exact ⟨rfl, rfl⟩ | cases admitting

/-! ### `resolveMatch` -/

theorem aware_refund (playerA playerB : UserId) (fee : ℚ) :
    (transact (.refundBothPlayers playerA playerB fee matchId)).Stable (custody matchId) (· = Duty.aware) := by
  rintro _ rfl
  refine ⟨.inr (.inr (decide_eq_true rfl)), fun reply _ => ?_⟩
  cases reply with
  | error err => rfl
  | ok value => rfl

theorem refundUnresolved_aware : (refundUnresolved matchId).Stable (custody matchId) (· = Duty.aware) := by
  refine stable_bind (aware_stable (asks_call rfl)) fun stored => ?_
  cases stored with
  | none => exact stable_pure _
  | some matchState => exact stable_bind (aware_refund _ _ _) fun _ => aware_stable (asks_call rfl)

/-- The refund in the `catch` block of a resolution that has not paid. -/
theorem refundUnresolved_catching :
    (refundUnresolved matchId).Keeps (custody matchId) .catching fun _ duty => duty = Duty.aware := by
  refine keeps_call_bind rfl (fun stored proper => ?_) fun _ _ => rfl
  cases stored with
  | none => exact rfl
  | some matchState =>
    obtain ⟨distinct, nonneg⟩ := proper rfl
    exact keeps_call_bind ⟨_, _, _, rfl, distinct, nonneg⟩ (fun _ _ => aware_stable (asks_call rfl) _ rfl)
      fun _ _ => rfl

theorem resolveCatch_custody {duty : Duty} (here : duty = .catching ∨ duty = .aware) :
    (resolveCatch matchId).Keeps (custody matchId) duty fun _ duty => duty = Duty.aware := by
  have body : (refundUnresolved matchId).Keeps (custody matchId) duty fun _ duty => duty = Duty.aware := by
    rcases here with rfl | rfl
    · exact refundUnresolved_catching
    · exact refundUnresolved_aware _ rfl
  refine (Task.keeps_attempt _ _ _ _).mpr (body.mono ?_)
  rintro (err | value) duty' there
  · exact there
  · exact there

theorem recordResult_detached (winnerId loserId : UserId) (resolveType : ResolveType) (matchState : MatchState)
    (prize : ℚ × ℚ) : (recordResult played winnerId loserId resolveType matchState prize).Asks
      fun op : Op => op.detached matchId = true := by
  refine (recordResult_stable (C := .asking fun op : Op => op.detached matchId = true) (Q := fun _ => True)
    (fun _ _ _ kept => ?_) (fun _ _ _ _ _ _ => ⟨rfl, fun _ _ => trivial⟩) _ _ _ _).asks
  exact ⟨(detached_of_sideline (sideline_of_bookkeeping kept)).1, fun _ _ => trivial⟩

theorem resolveBody_detached (other : played ≠ matchId) (winnerId loserId : UserId) (resolveType : ResolveType) :
    (resolveBody played winnerId loserId resolveType).Asks fun op : Op => op.detached matchId = true := by
  have flag : decide (played ≠ matchId) = true := decide_eq_true other
  have resolved : (!(Key.resolved played).rules matchId) = true := by simp [Key.rules, other]
  have state : (!(Key.state played).rules matchId) = true := by simp [Key.rules, other]
  have payout : ∀ fee, (Op.transact (.releaseEscrowToWinner winnerId loserId fee played)).detached matchId =
      true := by
    simp [Op.detached, Transaction.settles, Transaction.paysOut, Transaction.refunds, Transaction.founds, other]
  refine asks_bind (asks_call flag) fun flag => ?_
  cases flag with
  | some _ => exact asks_pure _
  | none =>
    refine asks_bind (asks_call resolved) fun _ => asks_bind (asks_call rfl) fun stored => ?_
    cases stored with
    | none => exact asks_pure _
    | some stored =>
      exact asks_bind (asks_call state) fun _ => asks_bind (asks_call (payout _)) fun _ =>
        recordResult_detached _ _ _ _ _

/-- **`resolveMatch`** from where the flag may be read: it is set before the state, the state before the payout. -/
theorem resolveMatch_custody {duty : Duty} {Q : Duty → Prop} (reads : duty.may matchId (.get (.resolved matchId)))
    (unset : duty.goes matchId (.get (.resolved matchId)) none = .marking)
    (set : ∀ flag, Q (duty.goes matchId (.get (.resolved matchId)) (some flag)))
    (failed : duty.fails matchId (.get (.resolved matchId)) = .catching) (aware : Q .aware)
    (winnerId loserId : UserId) (resolveType : ResolveType) :
    (resolveMatch matchId winnerId loserId resolveType).Keeps (custody matchId) duty fun _ => Q := by
  have body : (resolveBody matchId winnerId loserId resolveType).Keeps (custody matchId) duty fun result duty =>
      match result with
      | .ok _ => Q duty
      | .error _ => duty = Duty.catching ∨ duty = Duty.aware := by
    refine keeps_call_bind reads (fun flag _ => ?_) fun _ _ => .inl failed
    cases flag with
    | some flag => exact set flag
    | none =>
      have marking : (custody matchId).after duty (.get (.resolved matchId)) (.ok none) = .marking := unset
      rw [marking]
      refine keeps_call_bind ⟨_, rfl⟩ (fun _ _ => ?_) fun _ _ => .inl rfl
      refine keeps_call_bind rfl (fun stored proper => ?_) fun _ _ => .inl rfl
      cases stored with
      | none => exact aware
      | some stored =>
        refine keeps_call_bind ⟨_, _, rfl, proper rfl⟩ (fun _ _ => ?_) fun _ _ => .inl rfl
        refine keeps_call_bind (decide_eq_true rfl) (fun prize _ => ?_) fun _ _ => .inl rfl
        refine (aware_stable (recordResult_detached _ _ _ _ _) _ rfl).mono ?_
        rintro (err | value) duty rfl
        · exact .inr rfl
        · exact aware
  refine (Task.keeps_attempt _ _ _ _).mpr (body.mono ?_)
  rintro (err | value) duty' there
  · exact (resolveCatch_custody there).mono fun _ _ same => same ▸ aware
  · exact there

theorem resolveMatch_aware (winnerId loserId : UserId) (resolveType : ResolveType) :
    (resolveMatch matchId winnerId loserId resolveType).Stable (custody matchId) (· = Duty.aware) := by
  rintro _ rfl
  have reads : Duty.aware.may matchId (.get (.resolved matchId)) := .inr (.inl rfl)
  exact resolveMatch_custody (Q := (· = Duty.aware)) reads (if_pos rfl) (fun _ => rfl) (if_pos rfl) rfl _ _ _

/-! ### The handlers of the match -/

/-- Once a handler has read the state of the match it is aware, and stays so. -/
def awareUmpire (matchId : MatchId) : Umpire (custody matchId) (· = Duty.aware) matchId where
  known _ := True
  idle := by
    rintro _ op rfl sideline -
    have detached : op.detached matchId = true := (detached_of_sideline sideline).1
    exact ⟨.inl detached, fun reply _ => aware_detached detached reply⟩
  refunds message afterwards stable := by
    refine stable_bind (aware_stable (asks_call rfl)) fun stored => ?_
    cases stored with
    | none => exact stable_pure _
    | some matchState =>
      exact stable_bind (aware_refund _ _ _) fun _ => stable_bind stable fun _ => aware_stable (asks_call rfl)
  cancel := aware_stable (asks_call rfl)
  resolves _ _ _ _ _ := resolveMatch_aware _ _ _

theorem free_approach (matchId : MatchId) : (awareUmpire matchId).Approach (· = Duty.free) where
  idle := by
    rintro _ op rfl sideline -
    obtain ⟨detached, blind⟩ : op.detached matchId = true ∧ op.blind = true := detached_of_sideline sideline
    exact ⟨.inl detached, fun reply _ => free_blind detached blind reply⟩
  looks := by
    rintro _ rfl
    refine ⟨.inl rfl, fun reply _ => ?_⟩
    match reply with
    | .error err => exact rfl
    | .ok none => exact rfl
    | .ok (some matchState) => exact ⟨trivial, if_pos rfl⟩

theorem expired_read {key : Key} {β : Type} {rest : α → Promise β} {read : Option key.Val → α}
    {post : Except Err β → Duty → Prop} (detached : (Op.get key).detached matchId = true)
    (next : ∀ value, (rest value).Keeps (custody matchId) .expired post) (failed : ∀ err, post (.error err) .free) :
    ((redisGet key >>= fun stored => pure (read stored)) >>= rest).Keeps (custody matchId) .expired post := by
  refine (Task.keeps_bind _ _ _ _).mpr
    (keeps_call_bind ⟨detached, rfl⟩ (fun stored _ => ?_) fun err _ => failed err)
  exact next _

theorem attempt_light {duty : Duty} {body : Promise Unit}
    (first : body.Keeps (custody matchId) duty fun _ => Duty.light) :
    (Task.attempt body fun _ => pure ()).Keeps (custody matchId) duty fun _ => Duty.light := by
  refine (Task.keeps_attempt _ _ _ _).mpr (first.mono ?_)
  rintro (err | value) duty' there
  · exact there
  · exact there

/-- **`handleTimerExpiry`**: it finds the match in progress, and calls `resolveMatch`. -/
theorem handleTimerExpiry_custody (dueAt : ℕ) :
    (handleTimerExpiry matchId dueAt).Keeps (custody matchId) .scheduled fun _ => Duty.light := by
  refine keeps_call_bind (.inl ⟨_, rfl⟩) (fun _ _ => attempt_light ?_) fun _ _ => .inl rfl
  refine keeps_call_bind (.inr rfl) (fun stored _ => ?_) fun _ _ => .inl rfl
  cases stored with
  | none => exact .inl rfl
  | some matchState =>
    dsimp only
    split
    · rename_i ended
      exact .inl (if_neg ended)
    · rename_i open_
      have here : Duty.scheduled.goes matchId (.get (.state matchId)) (some matchState) = .expired :=
        if_pos (not_not.mp open_)
      have reads : Duty.called.may matchId (.get (.resolved matchId)) := rfl
      refine keeps_at here ?_
      refine expired_read rfl (fun scoreA => ?_) fun _ => .inl rfl
      refine expired_read rfl (fun scoreB => ?_) fun _ => .inl rfl
      refine expired_read rfl (fun timeA => ?_) fun _ => .inl rfl
      refine expired_read rfl (fun timeB => ?_) fun _ => .inl rfl
      refine keeps_call_bind ⟨rfl, rfl⟩ (fun _ _ => ?_) fun _ _ => .inl rfl
      exact resolveMatch_custody reads rfl (fun _ => .inl rfl) rfl (.inr rfl) _ _ _

/-! ### The handlers that create matches -/

theorem announceMatch_custody (env : Env) (fee : ℕ) (taken : Taken) (problem : Problem)
    (distinct : taken.playerA.userId ≠ taken.playerB.userId) :
    (announceMatch env fee taken problem matchId).Keeps (custody matchId) .committed
      fun _ duty => duty = Duty.free := by
  refine (Task.keeps_bind _ _ _ _).mpr ?_
  refine keeps_call_bind (.inl ⟨rfl, rfl⟩) (fun now _ => ?_) fun _ _ => rfl
  refine keeps_call_bind (.inl ⟨rfl, rfl⟩) (fun _ _ => ?_) fun _ _ => rfl
  refine keeps_call_bind (.inl ⟨rfl, rfl⟩) (fun _ _ => ?_) fun _ _ => rfl
  refine keeps_call_bind (.inr ⟨_, _, rfl, rfl, distinct, Nat.cast_nonneg fee⟩) (fun _ _ => ?_) fun _ _ => rfl
  refine keeps_at (if_pos rfl : (if matchId = matchId then Duty.opened else .committed) = .opened) ?_
  refine keeps_call_bind ⟨rfl, rfl⟩ (fun _ _ => ?_) fun _ _ => rfl
  refine keeps_call_bind ⟨rfl, rfl⟩ (fun _ _ => ?_) fun _ _ => rfl
  refine keeps_call_bind ⟨rfl, rfl⟩ (fun _ _ => ?_) fun _ _ => rfl
  refine keeps_call_bind ⟨rfl, rfl⟩ (fun _ _ => ?_) fun _ _ => rfl
  refine keeps_call_bind ⟨rfl, rfl⟩ (fun later _ => ?_) fun _ _ => rfl
  refine ⟨⟨rfl, rfl⟩, fun reply _ => ?_⟩
  cases reply with
  | error err => rfl
  | ok value => exact if_pos rfl

theorem announceMatch_free (env : Env) (fee : ℕ) (taken : Taken) (problem : Problem) (other : played ≠ matchId) :
    (announceMatch env fee taken problem played).Stable (custody matchId) (· = Duty.free) := by
  have state : (!(Key.state played).rules matchId) = true := by simp [Key.rules, other]
  refine free_stable (asks_bind (asks_bind (asks_call ⟨rfl, rfl⟩) fun _ => asks_bind (asks_call ⟨rfl, rfl⟩) fun _ =>
    asks_bind (asks_call ⟨rfl, rfl⟩) fun _ => asks_pure _) fun _ => asks_bind (asks_call ⟨state, rfl⟩) fun _ => ?_)
  exact asks_bind (asks_call ⟨rfl, rfl⟩) fun _ => asks_bind (asks_call ⟨rfl, rfl⟩) fun _ =>
    asks_bind (asks_call ⟨rfl, rfl⟩) fun _ => asks_bind (asks_call ⟨rfl, rfl⟩) fun _ =>
    asks_bind (asks_call ⟨rfl, rfl⟩) fun _ => asks_call ⟨rfl, rfl⟩

theorem free_call (detached : op.detached matchId = true) (blind : op.blind = true) :
    op.call.Stable (custody matchId) (· = Duty.free) :=
  free_stable (asks_call (P := fun op : Op => op.detached matchId = true ∧ op.blind = true) ⟨detached, blind⟩)

/-- The creating transaction: who has committed the match is in charge of it. -/
theorem commitMatch_custody (fee : ℕ) (taken : Taken) (problem : Problem) :
    (commitMatch fee taken problem matchId).Keeps (custody matchId) .free fun result duty =>
      match result with
      | .ok true => duty = Duty.committed
      | _ => duty = Duty.free := by
  refine (Task.keeps_attempt _ _ _ _).mpr
    (keeps_call_bind (.inr (decide_eq_true rfl)) (fun _ _ => ?_) fun _ _ => ?_)
  · exact if_pos rfl
  · exact keeps_call_bind (.inl rfl) (fun _ _ => rfl) fun _ _ => rfl

theorem createFor_custody (env : Env) (fee : ℕ) (taken : Taken)
    (distinct : taken.playerA.userId ≠ taken.playerB.userId) :
    (createFor env fee taken).Stable (custody matchId) (· = Duty.free) := by
  refine stable_bind (free_call rfl rfl) fun _ => stable_bind (free_call rfl rfl) fun _ =>
    stable_bind (free_call rfl rfl) fun problem => ?_
  cases problem with
  | none =>
    exact stable_bind (free_call rfl rfl) fun _ => stable_bind (free_call rfl rfl) fun _ =>
      stable_bind (free_call rfl rfl) fun _ => stable_pure _
  | some problem =>
    refine stable_bind (free_call rfl rfl) fun created => ?_
    by_cases same : created = matchId
    · subst same
      rintro _ rfl
      refine (Task.keeps_bind _ _ _ _).mpr ((commitMatch_custody fee taken problem).mono ?_)
      rintro (err | committed) duty there
      · exact there
      cases committed with
      | false => exact there
      | true =>
        obtain rfl : duty = .committed := there
        refine (Task.keeps_bind _ _ _ _).mpr ((announceMatch_custody env fee taken problem distinct).mono ?_)
        rintro (err | value) duty free
        · exact free
        · exact free
    · refine stable_bind ?_ fun committed => ?_
      · have founds : (Op.transact (.createMatch created taken.playerA.userId taken.playerB.userId problem.id
            fee)).detached matchId = true := by
          simp [Op.detached, Transaction.settles, Transaction.paysOut, Transaction.refunds, Transaction.founds,
            same]
        exact stable_attempt (stable_bind (free_call founds rfl) fun _ => stable_pure _) fun _ =>
          stable_bind (free_call rfl rfl) fun _ => stable_pure _
      · cases committed with
        | true => exact stable_bind (announceMatch_free env fee taken problem same) fun _ => stable_pure _
        | false => exact stable_pure _

theorem tryCreateMatch_custody (env : Env) (fee : ℕ) :
    (tryCreateMatch env fee).Stable (custody matchId) (· = Duty.free) := by
  rintro _ rfl
  refine keeps_call_bind (.inl rfl) (fun taken distinct => ?_) fun _ _ => rfl
  cases taken with
  | none => exact rfl
  | some taken => exact createFor_custody env fee taken distinct _ rfl

/-! ### All handlers -/

/-- A handler of another match has no duty. -/
def otherReferee (other : played ≠ matchId) : Referee (custody matchId) Duty.light played where
  known _ := True
  idle _ _ light sideline _ :=
    ⟨(light_idle light (detached_of_sideline sideline).1).1,
      fun reply _ => (light_idle light (detached_of_sideline sideline).1).2 reply⟩
  state _ light := ⟨(light_idle light rfl).1, fun reply _ => ⟨(light_idle light rfl).2 reply, fun _ _ => trivial⟩⟩
  refund _ _ := light_stable (asks_call (by simp [Op.detached, Transaction.settles, Transaction.paysOut,
    Transaction.refunds, Transaction.founds, other]))
  cancel := light_stable (asks_call rfl)
  body _ pair resolveType _ _ := light_stable (resolveBody_detached other pair.1 pair.2 resolveType)

theorem detached_of_passive (op : Op) (passive : op.passive) : op.detached matchId = true := by
  cases op with
  | get key =>
    cases key
    case resolved played => exact absurd rfl (passive.1 played)
    all_goals rfl
  | query => rfl
  | executeCode => rfl
  | dateNow => rfl
  | emit => rfl
  | _ => cases passive

theorem detached_of_within {departments : List Department} (inside : op.within departments)
    (play : departments.contains .play = false) (record : departments.contains .record = false)
    (queue : departments.contains .queue = false) : op.detached matchId = true := by
  have unplayed := department_ne inside play
  have unrecorded := department_ne inside record
  have uncreated := department_ne inside queue
  cases op with
  | get key =>
    cases key
    case resolved => exact absurd rfl unplayed
    all_goals rfl
  | set key value seconds =>
    cases key
    case resolved => exact absurd rfl unplayed
    case state => exact absurd rfl unrecorded
    all_goals rfl
  | setNx key value seconds =>
    cases key
    case resolved => exact absurd rfl unplayed
    case state => exact absurd rfl unplayed
    all_goals rfl
  | del key =>
    cases key
    case resolved => exact absurd rfl unplayed
    case state => exact absurd rfl unplayed
    all_goals rfl
  | transact transaction =>
    cases transaction
    case createMatch => exact absurd rfl uncreated
    case releaseEscrowToWinner => exact absurd rfl unplayed
    case refundBothPlayers => exact absurd rfl unplayed
    all_goals rfl
  | _ => rfl

/-- The duty a handler starts with. -/
def Handler.duty (matchId : MatchId) : Handler → Duty
  | timerExpiry matchId' _ => if matchId' = matchId then .scheduled else .free
  | _ => .free

/-- **Every handler keeps the contract**, and ends without a duty. -/
theorem handler_custody (env : Env) (handler : Handler) :
    (handler.task env).Keeps (custody matchId) (handler.duty matchId) fun _ => Duty.light := by
  have free : Duty.light .free := .inl rfl
  cases handler
  case matchJoin user played =>
    exact light_stable ((matchJoin_passive user played).mono detached_of_passive) _ free
  case timerRequest user played =>
    exact light_stable ((timerRequest_passive user played).mono detached_of_passive) _ free
  case codeRun user played language code =>
    exact light_stable ((codeRun_passive user played language code).mono detached_of_passive) _ free
  case codeSubmit user played language code =>
    by_cases same : played = matchId
    · subst same
      exact (free_approach played).codeSubmit_keeps rfl user language code
    · exact (otherReferee same).codeSubmit_stable user language code _ free
  case forfeitRequest user played reason =>
    by_cases same : played = matchId
    · subst same
      exact (free_approach played).forfeitRequest_keeps (fun _ _ => resolveMatch_aware _ _ _) rfl reason
    · exact (otherReferee same).forfeitRequest_stable
        (fun _ _ => light_stable (resolveBody_detached same _ _ _)) reason _ free
  case matchLeave user played => exact light_stable (asks_call rfl) _ free
  case timerExpiry played dueAt =>
    by_cases same : played = matchId
    · subst same
      exact keeps_at (if_pos rfl) (handleTimerExpiry_custody dueAt)
    · exact keeps_at (if_neg same) ((otherReferee same).handleTimerExpiry_stable dueAt _ free)
  case disconnectForfeit user played position dueAt =>
    by_cases same : played = matchId
    · subst same
      exact (free_approach played).handleDisconnectForfeit_keeps (fun _ _ => resolveMatch_aware _ _ _) rfl
        (free_call rfl rfl) dueAt
    · exact (otherReferee same).handleDisconnectForfeit_stable
        (fun _ _ => light_stable (resolveBody_detached same _ _ _)) (light_stable (asks_call rfl)) dueAt _ free
  case queueJoin user username fee category =>
    refine (queueJoin_stable_of ?_ env user username category (tryCreateMatch_custody env fee) _ rfl).mono
      fun _ _ => .inl
    rintro _ op rfl admitting
    obtain ⟨detached, blind⟩ : op.detached matchId = true ∧ op.blind = true := detached_of_admitting admitting
    exact ⟨.inl detached, fun reply _ => free_blind detached blind reply⟩
  case worker fee =>
    exact ((stable_attempt (stable_bind (tryCreateMatch_custody env fee) fun _ => stable_pure _)
      fun _ => stable_pure _) _ rfl).mono fun _ _ => .inl
  case queueLeave user =>
    refine light_stable (asks_attempt ?_ fun _ => asks_pure _) _ free
    exact asks_bind (asks_call rfl) fun _ => asks_bind (asks_call rfl) fun _ =>
      asks_bind (asks_call rfl) fun _ => asks_bind (asks_call rfl) fun _ => asks_call rfl
  all_goals
    exact light_stable ((Handler.asks_within env _).mono fun op inside => detached_of_within inside rfl rfl rfl)
      _ free

end Contract

/-! ### The invariant -/

/-- The entry fees of a match are locked: it was created, and neither paid out nor refunded. -/
def Db.inEscrow (db : Db) (matchId : MatchId) : Bool := (db.matches_ matchId).isSome && db.unsettled matchId

namespace Duty

/-- The handler is in `tryCreateMatch`, between the commit and the timeout. -/
def creates : Duty → Bool
  | committed | opened => true
  | _ => false

/-- The handler is the timer of the match, due or not. -/
def expires : Duty → Bool
  | scheduled | expired => true
  | _ => false

/-- The handler is in `resolveMatch`. -/
def resolves : Duty → Bool
  | called | marking | opening | closing | paying | catching | refunding => true
  | _ => false

/-- The handler will resolve the match if nobody else has begun to. -/
def times : Duty → Bool
  | scheduled | expired | called => true
  | _ => false

/-- The handler is the one that settles the match. -/
def settles : Duty → Bool
  | marking | opening | closing | paying | catching | refunding => true
  | _ => false

/-- The handler has written or read the state of the match. -/
def knows : Duty → Bool
  | free | committed | scheduled => false
  | _ => true

/-- A failed call of the handler would leave the fees to nobody. -/
def fragile : Duty → Bool
  | committed | opened | scheduled | expired | catching | refunding => true
  | _ => false

/-- The handler is at the refund of a `catch` block. -/
def refunds : Duty → Bool
  | refunding => true
  | _ => false

/-- The handler may be there before the match. -/
def early : Duty → Bool
  | free | scheduled => true
  | _ => false

end Duty

/-- Nobody has begun to resolve the match. -/
structure Unresolved (matchId : MatchId) (world : World) : Prop where
  flag : world.redis (.resolved matchId) = none
  status : ∀ cell, world.redis (.state matchId) = some cell → cell.value.status = .inProgress

/-- **The match is taken care of**: somebody settles it; or nobody has begun to, and somebody creates it, or its
state is there and somebody times it. -/
def InHand (matchId : MatchId) (world : World) (phases : List (Handler × Duty)) : Prop :=
  (∃ entry ∈ phases, entry.2.settles = true) ∨ Unresolved matchId world ∧
    ∃ entry ∈ phases, entry.2.creates = true ∨ entry.2.times = true ∧ world.redis (.state matchId) ≠ none

/-- **The invariant of the escrow of a match.** -/
structure Custody (matchId : MatchId) (world : World) (phases : List (Handler × Duty)) : Prop where
  unborn : world.db.matches_ matchId = none → world.redis (.state matchId) = none ∧
    world.redis (.resolved matchId) = none ∧ ∀ entry ∈ phases, entry.2.early = true
  proper : ∀ cell, world.redis (.state matchId) = some cell → cell.value.proper
  live : world.db.inEscrow matchId = true → ∀ cell, world.redis (.state matchId) = some cell →
    world.now ≤ cell.expiresAt
  seen : ∀ entry ∈ phases, entry.2.knows = true → world.redis (.state matchId) ≠ none
  timers : ∀ entry ∈ phases, entry.2.times = true → ∃ dueAt, entry.1 = .timerExpiry matchId dueAt
  held : world.db.inEscrow matchId = true → InHand matchId world phases

/-- What the escrow of a match depends on is as before. -/
structure EscrowKept (matchId : MatchId) (world world' : World) : Prop where
  now : world'.now = world.now
  state : world'.redis (.state matchId) = world.redis (.state matchId)
  resolved : world'.redis (.resolved matchId) = world.redis (.resolved matchId)
  row : (world'.db.matches_ matchId).isSome = (world.db.matches_ matchId).isSome
  unsettled : world'.db.unsettled matchId = world.db.unsettled matchId

section Inv

variable {env : Env} {choice : Choice} {matchId : MatchId} {world world' : World} {phases : List (Handler × Duty)}
  {index : ℕ} {event : Handler} {duty duty' : Duty} {op : Op} {reply : Except Err op.Reply}

namespace EscrowKept

theorem refl (world : World) : EscrowKept matchId world world := ⟨rfl, rfl, rfl, rfl, rfl⟩

theorem escrow (same : EscrowKept matchId world world') :
    world'.db.inEscrow matchId = world.db.inEscrow matchId := by
  unfold Db.inEscrow
  rw [same.row, same.unsettled]

theorem unresolved (same : EscrowKept matchId world world') (quiet : Unresolved matchId world) :
    Unresolved matchId world' := by
  refine ⟨same.resolved.trans quiet.flag, fun cell stored => ?_⟩
  rw [same.state] at stored
  exact quiet.status cell stored

theorem unborn (same : EscrowKept matchId world world') (absent : world'.db.matches_ matchId = none) :
    world.db.matches_ matchId = none := by
  have row := same.row
  rw [absent] at row
  exact Option.isNone_iff_eq_none.mp (by simpa using row.symm)

end EscrowKept

theorem commits_of_detached (detached : op.detached matchId = true) :
    op.commits (·.paysOut matchId) = false ∧ op.commits (·.refunds matchId) = false ∧
      ∀ playerA playerB problemId fee, op ≠ .transact (.createMatch matchId playerA playerB problemId fee) := by
  cases op
  case transact transaction =>
    simp only [Op.detached, Transaction.settles, Bool.and_eq_true, Bool.not_eq_true', Bool.or_eq_false_iff]
      at detached
    refine ⟨detached.1.1, detached.1.2, ?_⟩
    rintro playerA playerB problemId fee same
    cases same
    simp [Transaction.founds] at detached
  all_goals exact ⟨rfl, rfl, nofun⟩

/-- **A detached operation leaves what the escrow depends on.** -/
theorem untouched_of_detached (performed : op.perform env choice world = some (reply, world'))
    (detached : op.detached matchId = true) : EscrowKept matchId world world' := by
  have keys : ∀ key : Key, key.rules matchId = true → world'.redis key = world.redis key := by
    intro key own
    refine redis_frame performed (Bool.eq_false_iff.mpr fun writes => ?_)
    unfold Op.writes at writes
    split at writes
    all_goals first | cases writes | skip
    all_goals
      obtain rfl : _ = key := of_decide_eq_true writes
      simp [Op.detached, own] at detached
  obtain ⟨pays, refunds, founds⟩ := commits_of_detached detached
  refine ⟨now_frame performed, keys _ (by simp [Key.rules]), keys _ (by simp [Key.rules]), ?_, ?_⟩
  · have rows := congrArg Option.isSome (terms_frame performed founds)
    rwa [Option.isSome_map, Option.isSome_map] at rows
  · unfold Db.unsettled
    rw [(counts_frame matchId performed).1 pays, (counts_frame matchId performed).2 refunds]

theorem ok_of_certain (performed : op.perform env choice world = some (reply, world')) (certain : op.certain = true)
    (succeeds : choice ≠ .fail) : ∃ value, reply = .ok value := by
  unfold Op.perform at performed
  rw [if_neg succeeds] at performed
  cases op
  case query => cases certain
  case transact => cases certain
  case get => cases performed; exact ⟨_, rfl⟩
  all_goals
    simp only [Op.proceed] at performed
    repeat' split at performed
    all_goals
      cases performed
      try exact ⟨_, rfl⟩

theorem takeTwo_distinct {memory : Memory} {fee : ℕ} {taken : Taken}
    (took : ((MemoryOp.takeTwo fee).exec memory).1 = some taken) :
    taken.playerA.userId ≠ taken.playerB.userId := by
  simp only [MemoryOp.exec] at took
  repeat' split at took
  all_goals first | (cases took; done) | skip
  rename_i different
  cases took
  exact different

/-! ### One step -/

theorem Handler.duty_start (handler : Handler) : (handler.duty matchId).early = true ∧
    (handler.duty matchId).knows = false ∧
      ((handler.duty matchId).times = true → ∃ dueAt, handler = .timerExpiry matchId dueAt) := by
  cases handler
  case timerExpiry matchId' dueAt =>
    by_cases same : matchId' = matchId
    · have here : (Handler.timerExpiry matchId' dueAt).duty matchId = .scheduled := if_pos same
      rw [here]
      exact ⟨rfl, rfl, fun _ => ⟨dueAt, by rw [same]⟩⟩
    · have here : (Handler.timerExpiry matchId' dueAt).duty matchId = .free := if_neg same
      rw [here]
      exact ⟨rfl, rfl, nofun⟩
  all_goals exact ⟨rfl, rfl, nofun⟩

theorem early_of_knows (knows : duty.knows = true) : duty.early = false := by
  cases duty
  case free => cases knows
  case committed => cases knows
  case scheduled => cases knows
  all_goals rfl

theorem times_of_settles (settles : duty.settles = true) : duty.times = false := by
  cases duty
  case scheduled => cases settles
  case expired => cases settles
  case called => cases settles
  all_goals rfl

theorem stored_of_read {matchState : MatchState}
    (read : some matchState = world.redis.read world.now (.state matchId)) :
    world.redis (.state matchId) ≠ none := by
  obtain ⟨cell, stored, _⟩ := Store.read_eq_some.mp read.symm
  rw [stored]
  exact nofun

theorem stored_of_aware (performed : op.perform env choice world = some (reply, world'))
    (aware : Duty.free.after matchId op reply = .aware) : world.redis (.state matchId) ≠ none := by
  cases reply with
  | error err => cases aware
  | ok value =>
    cases op
    case get key =>
      cases key
      case state matchId' =>
        cases value with
        | none => cases aware
        | some matchState =>
          have there : (if matchId' = matchId then Duty.aware else .free) = .aware := aware
          split at there
          · rename_i same
            subst same
            exact stored_of_read (perform_get_ok performed).1
          · cases there
      all_goals cases aware
    case transact transaction =>
      cases transaction
      case createMatch matchId' playerA playerB problemId fee =>
        have there : (if matchId' = matchId then Duty.committed else .free) = .aware := aware
        split at there
        · cases there
        · cases there
      all_goals cases aware
    all_goals cases aware

theorem committed_detached (detached : op.detached matchId = true) (value : op.Reply) :
    Duty.committed.after matchId op (.ok value) = .committed := by
  cases op
  case set key stored seconds =>
    cases key
    case state matchId' =>
      exact if_neg fun same : matchId' = matchId => by simp [Op.detached, Key.rules, same] at detached
    all_goals rfl
  all_goals rfl

theorem opened_cases (op : Op) (value : op.Reply) : Duty.opened.after matchId op (.ok value) = .opened ∨
    Duty.opened.after matchId op (.ok value) = .free ∧ ∃ dueAt, op = .fork (.timerExpiry matchId dueAt) := by
  cases op
  case fork handler =>
    cases handler
    case timerExpiry matchId' dueAt =>
      by_cases same : matchId' = matchId
      · exact .inr ⟨if_pos same, dueAt, by rw [same]⟩
      · exact .inl (if_neg same)
    all_goals exact .inl rfl
  all_goals exact .inl rfl

theorem expired_cases (op : Op) (value : op.Reply) :
    Duty.expired.after matchId op (.ok value) = .expired ∨ Duty.expired.after matchId op (.ok value) = .called := by
  cases op
  case emit room event =>
    cases event
    case timeUp => exact .inr rfl
    all_goals exact .inl rfl
  all_goals exact .inl rfl

theorem settled_of_commit {value : op.Reply} (performed : op.perform env choice world = some (.ok value, world'))
    (settles : op.commits (·.settles matchId) = true) : world'.redis = world.redis ∧
      (world'.db.matches_ matchId).isSome = (world.db.matches_ matchId).isSome ∧
        world'.db.unsettled matchId = false := by
  have counts := perform_counts matchId performed
  cases op
  case transact transaction =>
    obtain ⟨db', ran, rfl⟩ := perform_transact_ok performed
    have kept : (Op.transact transaction).rewrites matchId = false := by
      cases transaction
      case createMatch => cases settles
      all_goals rfl
    have settling : (transaction.paysOut matchId || transaction.refunds matchId) = true := settles
    refine ⟨rfl, by rw [matches_frame performed kept], ?_⟩
    rw [Bool.eq_false_iff]
    intro unsettled
    simp only [Db.unsettled, Bool.and_eq_true, decide_eq_true_eq] at unsettled
    rcases Bool.or_eq_true_iff.mp settling with pays | refunds
    · have paid := counts.1
      simp only [Op.commits, pays, if_true] at paid
      omega
    · have refunded := counts.2
      simp only [Op.commits, refunds, if_true] at refunded
      omega
  all_goals cases settles

/-- The users a refund takes the fee of hold it in escrow. -/
def Op.covered (db : Db) : Op → Bool
  | transact (.refundBothPlayers playerA playerB fee _) =>
    [playerA, playerB].all fun user => (db.wallets user).any fun wallet => fee ≤ wallet.lockedBalance
  | _ => true

theorem refund_of_covered {playerA playerB : UserId} {fee : ℚ}
    {reply : Except Err (Op.transact (.refundBothPlayers playerA playerB fee matchId)).Reply}
    (performed : (Op.transact (.refundBothPlayers playerA playerB fee matchId)).perform env choice world =
      some (reply, world')) (succeeds : choice ≠ .fail) (distinct : playerA ≠ playerB) (nonneg : 0 ≤ fee)
    (covered : (Op.transact (.refundBothPlayers playerA playerB fee matchId)).covered world.db = true) :
    ∃ value, reply = .ok value := by
  simp only [Op.covered, List.all_cons, List.all_nil, Bool.and_true, Bool.and_eq_true, Option.any_eq_true,
    decide_eq_true_eq] at covered
  obtain ⟨⟨A, foundA, coveredA⟩, B, foundB, coveredB⟩ := covered
  obtain ⟨value, db', ran⟩ : ∃ value db', (Transaction.refundBothPlayers playerA playerB fee matchId).run env
      world.db = (.ok value, db') := refund_commits matchId distinct foundA foundB coveredA coveredB nonneg
  unfold Op.perform at performed
  rw [if_neg succeeds] at performed
  simp only [Op.proceed, ran] at performed
  cases performed
  exact ⟨value, rfl⟩

theorem founded {value : op.Reply} (performed : op.perform env choice world = some (.ok value, world'))
    (founds : op.commits (·.founds matchId) = true) :
    world.db.matches_ matchId = none ∧ (world'.db.matches_ matchId).isSome = true ∧ world'.redis = world.redis ∧
      world'.now = world.now ∧ Duty.free.after matchId op (.ok value) = .committed := by
  cases op
  case transact transaction =>
    cases transaction
    case createMatch matchId' playerA playerB problemId fee =>
      obtain rfl : matchId' = matchId := of_decide_eq_true founds
      obtain ⟨db', ran, rfl⟩ := perform_transact_ok performed
      obtain ⟨absent, A, A', B, B', _, _, _, _, _, _, rfl⟩ := createMatch_ok.mp ran
      refine ⟨absent, ?_, rfl, rfl, if_pos rfl⟩
      show (Function.update world.db.matches_ matchId' _ matchId').isSome = true
      rw [Function.update_self]
      rfl
    all_goals cases founds
  all_goals cases founds

namespace Custody

theorem reads (inv : Custody matchId world phases) (escrow : world.db.inEscrow matchId = true)
    (stored : world.redis (.state matchId) ≠ none) :
    ∃ cell, world.redis (.state matchId) = some cell ∧
      world.redis.read world.now (.state matchId) = some cell.value := by
  obtain ⟨cell, here⟩ := Option.ne_none_iff_exists'.mp stored
  exact ⟨cell, here, Store.read_eq_some.mpr ⟨cell, here, inv.live escrow cell here, rfl⟩⟩

/-- **A handler goes on** and leaves what the escrow depends on. -/
theorem look (inv : Custody matchId world phases) (found : phases[index]? = some (event, duty))
    (same : EscrowKept matchId world world')
    (early : duty.early = true → world.redis (.state matchId) = none → duty'.early = true)
    (knows : duty'.knows = true → world.redis (.state matchId) ≠ none)
    (timer : duty'.times = true → duty.times = true)
    (settles : world.db.inEscrow matchId = true → duty.settles = true → duty'.settles = true)
    (tends : world.db.inEscrow matchId = true → Unresolved matchId world →
      (duty.creates = true ∨ duty.times = true ∧ world.redis (.state matchId) ≠ none) →
        InHand matchId world (phases.set index (event, duty'))) :
    Custody matchId world' (phases.set index (event, duty')) := by
  have carried : InHand matchId world (phases.set index (event, duty')) →
      InHand matchId world' (phases.set index (event, duty')) := by
    rintro (settled | ⟨quiet, cares⟩)
    · exact .inl settled
    · refine .inr ⟨same.unresolved quiet, ?_⟩
      rw [same.state]
      exact cares
  refine ⟨fun absent => ?_, fun cell stored => ?_, fun escrow cell stored => ?_, fun entry inside there => ?_,
    fun entry inside there => ?_, fun escrow => carried ?_⟩
  · obtain ⟨state, flag, all⟩ := inv.unborn (same.unborn absent)
    refine ⟨same.state.trans state, same.resolved.trans flag, fun entry inside => ?_⟩
    rcases List.mem_or_eq_of_mem_set inside with old | rfl
    · exact all entry old
    · exact early (all _ (List.mem_of_getElem? found)) state
  · rw [same.state] at stored
    exact inv.proper cell stored
  · rw [same.state] at stored
    rw [same.escrow] at escrow
    rw [same.now]
    exact inv.live escrow cell stored
  · rw [same.state]
    rcases List.mem_or_eq_of_mem_set inside with old | rfl
    · exact inv.seen entry old there
    · exact knows there
  · rcases List.mem_or_eq_of_mem_set inside with old | rfl
    · exact inv.timers entry old there
    · exact inv.timers (event, duty) (List.mem_of_getElem? found) (timer there)
  · rw [same.escrow] at escrow
    rcases inv.held escrow with settled | ⟨quiet, entry, member, cares⟩
    · exact .inl (exists_mem_set found settled (settles escrow))
    · obtain ⟨index', here⟩ := List.getElem?_of_mem member
      by_cases own : index' = index
      · subst own
        cases found.symm.trans here
        exact tends escrow quiet cares
      · exact .inr ⟨quiet, entry, List.mem_of_getElem? ((List.getElem?_set_ne (Ne.symm own)).trans here), cares⟩

theorem stay (inv : Custody matchId world phases) (found : phases[index]? = some (event, duty))
    (same : EscrowKept matchId world world') : Custody matchId world' (phases.set index (event, duty)) :=
  inv.look found same (fun early _ => early) (inv.seen _ (List.mem_of_getElem? found)) id (fun _ => id)
    fun _ quiet cares => .inr ⟨quiet, _, mem_set_of_found found _, cares⟩

/-- **A handler takes the settlement over**, or goes on with it. -/
theorem takeOver (inv : Custody matchId world phases) (found : phases[index]? = some (event, duty))
    (same : EscrowKept matchId world world') (knows : duty.knows = true) (settles : duty'.settles = true) :
    Custody matchId world' (phases.set index (event, duty')) := by
  have stored := inv.seen _ (List.mem_of_getElem? found) knows
  refine inv.look found same (fun early => ?_) (fun _ => stored) (fun timer => ?_) (fun _ _ => settles)
    fun _ _ _ => .inl ⟨_, mem_set_of_found found _, settles⟩
  · rw [early_of_knows knows] at early
    cases early
  · rw [times_of_settles settles] at timer
    cases timer

/-- A handler that has lost nothing by giving up: it did not settle the match, and nobody needed it. -/
theorem resign (inv : Custody matchId world phases) (found : phases[index]? = some (event, duty))
    (same : EscrowKept matchId world world') (settles : duty.settles = false)
    (needless : world.db.inEscrow matchId = true → Unresolved matchId world →
      ¬ (duty.creates = true ∨ duty.times = true ∧ world.redis (.state matchId) ≠ none)) :
    Custody matchId world' (phases.set index (event, .free)) := by
  refine inv.look found same (fun _ _ => rfl) nofun nofun (fun _ settling => ?_)
    fun escrow quiet cares => absurd cares (needless escrow quiet)
  rw [settles] at settling
  cases settling

/-- **The state of the match is written** by a handler that was not there before it. -/
theorem restate (inv : Custody matchId world phases) (found : phases[index]? = some (event, duty))
    {matchState : MatchState} {expiresAt : ℕ} (proper : matchState.proper) (current : world.now ≤ expiresAt)
    (late : duty.early = false) (timer : duty'.times = false)
    (held : world.db.inEscrow matchId = true →
      InHand matchId (world.withRedis (world.redis.write (.state matchId) matchState expiresAt))
        (phases.set index (event, duty'))) :
    Custody matchId (world.withRedis (world.redis.write (.state matchId) matchState expiresAt))
      (phases.set index (event, duty')) := by
  have written : ∀ cell, (world.redis.write (.state matchId) matchState expiresAt) (.state matchId) = some cell →
      cell.value = matchState ∧ cell.expiresAt = expiresAt := by
    intro cell stored
    rw [Store.write_self] at stored
    cases stored
    exact ⟨rfl, rfl⟩
  refine ⟨fun absent => ?_, fun cell stored => ?_, fun _ cell stored => ?_, fun _ _ _ => ?_,
    fun entry inside times => ?_, held⟩
  · have early := (inv.unborn absent).2.2 _ (List.mem_of_getElem? found)
    rw [late] at early
    cases early
  · rw [(written cell stored).1]
    exact proper
  · rw [(written cell stored).2]
    exact current
  · rw [withRedis_redis, Store.write_self]
    exact nofun
  · rcases List.mem_or_eq_of_mem_set inside with old | rfl
    · exact inv.timers entry old times
    · rw [timer] at times
      cases times

/-- **The match is settled**: whoever did it has no duty any more. -/
theorem settled {value : op.Reply} (inv : Custody matchId world phases)
    (found : phases[index]? = some (event, duty))
    (performed : op.perform env choice world = some (.ok value, world'))
    (settles : op.commits (·.settles matchId) = true) (knows : duty.knows = true) :
    Custody matchId world' (phases.set index (event, .aware)) := by
  obtain ⟨redis, row, closed⟩ := settled_of_commit performed settles
  have stored := inv.seen _ (List.mem_of_getElem? found) knows
  have escrow : world'.db.inEscrow matchId = false := by simp [Db.inEscrow, closed]
  refine ⟨fun absent => ?_, ?_, fun locked => ?_, fun _ _ _ => ?_, fun entry inside times => ?_, fun locked => ?_⟩
  · rw [absent] at row
    exact absurd (inv.unborn (Option.isNone_iff_eq_none.mp (by simpa using row.symm))).1 stored
  · rw [redis]
    exact inv.proper
  · rw [escrow] at locked
    cases locked
  · rw [redis]
    exact stored
  · rcases List.mem_or_eq_of_mem_set inside with old | rfl
    · exact inv.timers entry old times
    · cases times
  · rw [escrow] at locked
    cases locked

/-- The state of a match whose fees are locked does not vanish. -/
theorem vanished (inv : Custody matchId world phases) (found : phases[index]? = some (event, duty))
    (knows : duty.knows = true) (read : none = world.redis.read world.now (.state matchId)) :
    Custody matchId world (phases.set index (event, .aware)) := by
  have stored := inv.seen _ (List.mem_of_getElem? found) knows
  have gone : world.db.inEscrow matchId = true → False := by
    intro escrow
    obtain ⟨cell, _, reads⟩ := inv.reads escrow stored
    rw [reads] at read
    cases read
  exact inv.look found (.refl _) (fun _ absent => absurd absent stored) (fun _ => stored) nofun
    (fun escrow => (gone escrow).elim) fun escrow => (gone escrow).elim

/-! ### The steps of each duty -/

/-- **Before the match, to its commit.** -/
theorem free_step (inv : Custody matchId world phases) (found : phases[index]? = some (event, .free))
    (performed : op.perform env choice world = some (reply, world')) (may : Duty.free.may matchId op) :
    Custody matchId world' (phases.set index (event, Duty.free.after matchId op reply)) := by
  rcases may with detached | founds
  · have same := untouched_of_detached performed detached
    rcases free_detached detached reply with free | aware
    · rw [free]
      exact inv.stay found same
    · have stored := stored_of_aware performed aware
      rw [aware]
      refine inv.look found same (fun _ absent => absurd absent stored) (fun _ => stored) nofun (fun _ => nofun) ?_
      rintro _ _ (creates | ⟨times, _⟩)
      · cases creates
      · cases times
  · cases reply with
    | error err =>
      rw [perform_error performed]
      exact inv.stay found (.refl _)
    | ok value =>
      obtain ⟨absent, row, redis, now, there⟩ := founded performed founds
      obtain ⟨state, flag, all⟩ := inv.unborn absent
      rw [there]
      refine ⟨fun none => ?_, fun cell stored => ?_, fun _ cell stored => ?_, fun entry inside knows => ?_,
        fun entry inside times => ?_,
        fun _ => .inr ⟨⟨?_, fun cell stored => ?_⟩, _, mem_set_of_found found _, .inl rfl⟩⟩
      · rw [none] at row
        cases row
      · rw [redis, state] at stored
        cases stored
      · rw [redis, state] at stored
        cases stored
      · rcases List.mem_or_eq_of_mem_set inside with old | rfl
        · have early := early_of_knows knows
          rw [all entry old] at early
          cases early
        · cases knows
      · rcases List.mem_or_eq_of_mem_set inside with old | rfl
        · exact inv.timers entry old times
        · cases times
      · rw [redis, flag]
      · rw [redis, state] at stored
        cases stored

/-- **From the commit to the state of the match.** -/
theorem committed_step (inv : Custody matchId world phases) (found : phases[index]? = some (event, .committed))
    (performed : op.perform env choice world = some (reply, world')) (may : Duty.committed.may matchId op)
    (succeeds : choice ≠ .fail) :
    Custody matchId world' (phases.set index (event, Duty.committed.after matchId op reply)) := by
  rcases may with ⟨detached, certain⟩ | ⟨matchState, seconds, rfl, inProgress, proper⟩
  · obtain ⟨value, rfl⟩ := ok_of_certain performed certain succeeds
    rw [committed_detached detached value]
    exact inv.stay found (untouched_of_detached performed detached)
  · obtain ⟨value, rfl⟩ := ok_of_certain performed rfl succeeds
    have there : Duty.committed.after matchId (.set (.state matchId) matchState seconds) (.ok value) = .opened :=
      if_pos rfl
    rw [there, perform_set_ok performed]
    refine inv.restate found proper (Nat.le_add_right _ _) rfl rfl fun escrow => ?_
    rcases inv.held escrow with settled | ⟨quiet, _⟩
    · exact .inl (exists_mem_set found settled nofun)
    · refine .inr ⟨⟨?_, fun cell stored => ?_⟩, _, mem_set_of_found found _, .inl rfl⟩
      · have other : Key.resolved matchId ≠ .state matchId := nofun
        rw [withRedis_redis, Store.write_of_ne other]
        exact quiet.flag
      · rw [withRedis_redis, Store.write_self] at stored
        cases stored
        exact inProgress

/-- **From the state of the match to its timeout.** -/
theorem opened_step (inv : Custody matchId world phases) (found : phases[index]? = some (event, .opened))
    (performed : op.perform env choice world = some (reply, world')) (may : Duty.opened.may matchId op)
    (succeeds : choice ≠ .fail)
    (forked : ∀ dueAt, op = .fork (.timerExpiry matchId dueAt) → ∃ entry ∈ phases, entry.2 = Duty.scheduled) :
    Custody matchId world' (phases.set index (event, Duty.opened.after matchId op reply)) := by
  obtain ⟨detached, certain⟩ := may
  obtain ⟨value, rfl⟩ := ok_of_certain performed certain succeeds
  have same := untouched_of_detached performed detached
  rcases opened_cases op value with there | ⟨there, dueAt, fork⟩
  · rw [there]
    exact inv.stay found same
  · -- the timer is there before this handler is through
    rw [there]
    refine inv.look found same (fun _ _ => rfl) nofun nofun (fun _ => nofun) fun _ quiet _ => .inr ⟨quiet, ?_⟩
    have stored := inv.seen _ (List.mem_of_getElem? found) rfl
    obtain ⟨entry, inside, timer⟩ := exists_mem_set (y := (event, Duty.free)) found (forked dueAt fork) nofun
    exact ⟨entry, inside, .inr ⟨by rw [timer]; rfl, stored⟩⟩

/-- **The timer**, until it has found the match in progress. -/
theorem scheduled_step (inv : Custody matchId world phases) (found : phases[index]? = some (event, .scheduled))
    (performed : op.perform env choice world = some (reply, world')) (may : Duty.scheduled.may matchId op)
    (succeeds : choice ≠ .fail) :
    Custody matchId world' (phases.set index (event, Duty.scheduled.after matchId op reply)) := by
  rcases may with ⟨instant, rfl⟩ | rfl
  · obtain ⟨value, rfl⟩ := ok_of_certain performed rfl succeeds
    exact inv.stay found (untouched_of_detached performed rfl)
  · obtain ⟨value, rfl⟩ := ok_of_certain performed rfl succeeds
    obtain ⟨read, rfl⟩ := perform_get_ok performed
    show Custody matchId world' (phases.set index (event, Duty.found value))
    cases value with
    | none =>
      refine inv.resign found (.refl _) rfl ?_
      rintro escrow _ (creates | ⟨_, stored⟩)
      · cases creates
      · obtain ⟨cell, _, reads⟩ := inv.reads escrow stored
        rw [reads] at read
        cases read
    | some matchState =>
      have stored := stored_of_read read
      by_cases running : matchState.status = .inProgress
      · have there : Duty.found (some matchState) = .expired := if_pos running
        rw [there]
        exact inv.look found (.refl _) (fun _ absent => absurd absent stored) (fun _ => stored) (fun _ => rfl)
          (fun _ => nofun) fun _ quiet _ => .inr ⟨quiet, _, mem_set_of_found found _, .inr ⟨rfl, stored⟩⟩
      · have there : Duty.found (some matchState) = .free := if_neg running
        rw [there]
        refine inv.resign found (.refl _) rfl fun escrow quiet _ => running ?_
        obtain ⟨cell, here, reads⟩ := inv.reads escrow stored
        rw [reads] at read
        cases read
        exact quiet.status cell here

/-- **The timer**, until it calls `resolveMatch`. -/
theorem expired_step (inv : Custody matchId world phases) (found : phases[index]? = some (event, .expired))
    (performed : op.perform env choice world = some (reply, world')) (may : Duty.expired.may matchId op)
    (succeeds : choice ≠ .fail) :
    Custody matchId world' (phases.set index (event, Duty.expired.after matchId op reply)) := by
  obtain ⟨detached, certain⟩ := may
  obtain ⟨value, rfl⟩ := ok_of_certain performed certain succeeds
  have same := untouched_of_detached performed detached
  rcases expired_cases op value with there | there
  · rw [there]
    exact inv.stay found same
  · have stored := inv.seen _ (List.mem_of_getElem? found) rfl
    rw [there]
    exact inv.look found same nofun (fun _ => stored) (fun _ => rfl) (fun _ => nofun)
      fun _ quiet _ => .inr ⟨quiet, _, mem_set_of_found found _, .inr ⟨rfl, stored⟩⟩

/-- **The timer in `resolveMatch`**, at the flag. -/
theorem called_step (inv : Custody matchId world phases) (found : phases[index]? = some (event, .called))
    (performed : op.perform env choice world = some (reply, world')) (may : Duty.called.may matchId op) :
    Custody matchId world' (phases.set index (event, Duty.called.after matchId op reply)) := by
  obtain rfl : op = .get (.resolved matchId) := may
  cases reply with
  | error err =>
    rw [perform_error performed]
    exact inv.takeOver found (.refl _) rfl rfl
  | ok value =>
    obtain ⟨read, rfl⟩ := perform_get_ok performed
    cases value with
    | none => exact inv.takeOver found (.refl _) rfl rfl
    | some flag =>
      refine inv.resign found (.refl _) rfl fun _ quiet _ => ?_
      rw [Store.read_of_none quiet.flag] at read
      cases read

/-- **Another handler**, up to the flag. -/
theorem aware_step (inv : Custody matchId world phases) (found : phases[index]? = some (event, .aware))
    (performed : op.perform env choice world = some (reply, world')) (may : Duty.aware.may matchId op) :
    Custody matchId world' (phases.set index (event, Duty.aware.after matchId op reply)) := by
  rcases may with detached | rfl | refunds
  · rw [aware_detached detached reply]
    exact inv.stay found (untouched_of_detached performed detached)
  · cases reply with
    | error err =>
      have there : Duty.aware.after matchId (.get (.resolved matchId)) (.error err) = .catching := if_pos rfl
      rw [perform_error performed, there]
      exact inv.takeOver found (.refl _) rfl rfl
    | ok value =>
      obtain ⟨read, rfl⟩ := perform_get_ok performed
      cases value with
      | none =>
        have there : Duty.aware.after matchId (.get (.resolved matchId)) (.ok none) = .marking := if_pos rfl
        rw [there]
        exact inv.takeOver found (.refl _) rfl rfl
      | some flag => exact inv.stay found (.refl _)
  · cases op
    case transact transaction =>
      cases reply with
      | error err =>
        rw [perform_error performed]
        exact inv.stay found (.refl _)
      | ok value => exact inv.settled found performed (Bool.or_eq_true_iff.mpr (.inr refunds)) rfl
    all_goals cases refunds

/-- **`resolveMatch`** sets the flag. -/
theorem marking_step (inv : Custody matchId world phases) (found : phases[index]? = some (event, .marking))
    (performed : op.perform env choice world = some (reply, world')) (may : Duty.marking.may matchId op) :
    Custody matchId world' (phases.set index (event, Duty.marking.after matchId op reply)) := by
  obtain ⟨seconds, rfl⟩ := may
  cases reply with
  | error err =>
    rw [perform_error performed]
    exact inv.takeOver found (.refl _) rfl rfl
  | ok value =>
    have other : Key.state matchId ≠ .resolved matchId := nofun
    have state : (world.redis.write (.resolved matchId) () (world.expiry seconds)) (.state matchId) =
        world.redis (.state matchId) := Store.write_of_ne other _ _
    have stored := inv.seen _ (List.mem_of_getElem? found) rfl
    rw [perform_set_ok performed]
    refine ⟨fun absent => absurd (inv.unborn absent).1 stored, fun cell here => ?_, fun escrow cell here => ?_,
      fun _ _ _ => ?_, fun entry inside times => ?_, fun _ => .inl ⟨_, mem_set_of_found found _, rfl⟩⟩
    · rw [withRedis_redis, state] at here
      exact inv.proper cell here
    · rw [withRedis_redis, state] at here
      exact inv.live escrow cell here
    · rw [withRedis_redis, state]
      exact stored
    · rcases List.mem_or_eq_of_mem_set inside with old | rfl
      · exact inv.timers entry old times
      · cases times

/-- **`resolveMatch`** reads the state. -/
theorem opening_step (inv : Custody matchId world phases) (found : phases[index]? = some (event, .opening))
    (performed : op.perform env choice world = some (reply, world')) (may : Duty.opening.may matchId op) :
    Custody matchId world' (phases.set index (event, Duty.opening.after matchId op reply)) := by
  obtain rfl : op = .get (.state matchId) := may
  cases reply with
  | error err =>
    rw [perform_error performed]
    exact inv.takeOver found (.refl _) rfl rfl
  | ok value =>
    obtain ⟨read, rfl⟩ := perform_get_ok performed
    cases value with
    | none => exact inv.vanished found rfl read
    | some matchState => exact inv.takeOver found (.refl _) rfl rfl

/-- **`resolveMatch`** completes the state. -/
theorem closing_step (inv : Custody matchId world phases) (found : phases[index]? = some (event, .closing))
    (performed : op.perform env choice world = some (reply, world')) (may : Duty.closing.may matchId op) :
    Custody matchId world' (phases.set index (event, Duty.closing.after matchId op reply)) := by
  obtain ⟨matchState, seconds, rfl, proper⟩ := may
  cases reply with
  | error err =>
    rw [perform_error performed]
    exact inv.takeOver found (.refl _) rfl rfl
  | ok value =>
    rw [perform_set_ok performed]
    exact inv.restate found proper (Nat.le_add_right _ _) rfl rfl
      fun _ => .inl ⟨_, mem_set_of_found found _, rfl⟩

/-- **`resolveMatch`** pays. -/
theorem paying_step (inv : Custody matchId world phases) (found : phases[index]? = some (event, .paying))
    (performed : op.perform env choice world = some (reply, world')) (may : Duty.paying.may matchId op) :
    Custody matchId world' (phases.set index (event, Duty.paying.after matchId op reply)) := by
  cases reply with
  | error err =>
    rw [perform_error performed]
    exact inv.takeOver found (.refl _) rfl rfl
  | ok value =>
    have settles : op.commits (·.settles matchId) = true := by
      cases op
      case transact transaction => exact Bool.or_eq_true_iff.mpr (.inl may)
      all_goals cases may
    exact inv.settled found performed settles rfl

theorem catching_step (inv : Custody matchId world phases) (found : phases[index]? = some (event, .catching))
    (performed : op.perform env choice world = some (reply, world')) (may : Duty.catching.may matchId op)
    (succeeds : choice ≠ .fail) :
    Custody matchId world' (phases.set index (event, Duty.catching.after matchId op reply)) := by
  obtain rfl : op = .get (.state matchId) := may
  obtain ⟨value, rfl⟩ := ok_of_certain performed rfl succeeds
  obtain ⟨read, rfl⟩ := perform_get_ok performed
  cases value with
  | none => exact inv.vanished found rfl read
  | some matchState => exact inv.takeOver found (.refl _) rfl rfl

theorem refunding_step (inv : Custody matchId world phases) (found : phases[index]? = some (event, .refunding))
    (performed : op.perform env choice world = some (reply, world')) (may : Duty.refunding.may matchId op)
    (succeeds : choice ≠ .fail) (covered : op.covered world.db = true) :
    Custody matchId world' (phases.set index (event, Duty.refunding.after matchId op reply)) := by
  obtain ⟨playerA, playerB, fee, rfl, distinct, nonneg⟩ := may
  obtain ⟨value, rfl⟩ := refund_of_covered performed succeeds distinct nonneg covered
  exact inv.settled found performed (by simp [Op.commits, Transaction.settles, Transaction.refunds]) rfl

/-- **One step**, where what must not fail does not. -/
theorem step (inv : Custody matchId world phases) (found : phases[index]? = some (event, duty))
    (performed : op.perform env choice world = some (reply, world')) (may : duty.may matchId op)
    (succeeds : duty.fragile = true → choice ≠ .fail) (covered : duty.refunds = true → op.covered world.db = true)
    (forked : ∀ dueAt, op = .fork (.timerExpiry matchId dueAt) → ∃ entry ∈ phases, entry.2 = Duty.scheduled) :
    Custody matchId world' (phases.set index (event, duty.after matchId op reply)) := by
  cases duty with
  | free => exact inv.free_step found performed may
  | committed => exact inv.committed_step found performed may (succeeds rfl)
  | opened => exact inv.opened_step found performed may (succeeds rfl) forked
  | scheduled => exact inv.scheduled_step found performed may (succeeds rfl)
  | expired => exact inv.expired_step found performed may (succeeds rfl)
  | called => exact inv.called_step found performed may
  | aware => exact inv.aware_step found performed may
  | marking => exact inv.marking_step found performed may
  | opening => exact inv.opening_step found performed may
  | closing => exact inv.closing_step found performed may
  | paying => exact inv.paying_step found performed may
  | catching => exact inv.catching_step found performed may (succeeds rfl)
  | refunding => exact inv.refunding_step found performed may (succeeds rfl) (covered rfl)

theorem append (inv : Custody matchId world phases) (children : List Handler) :
    Custody matchId world (phases ++ children.map fun child => (child, child.duty matchId)) := by
  have start : ∀ entry ∈ children.map (fun child => (child, child.duty matchId)), entry.2.early = true ∧
      entry.2.knows = false ∧ (entry.2.times = true → ∃ dueAt, entry.1 = .timerExpiry matchId dueAt) := by
    intro entry inside
    obtain ⟨child, _, rfl⟩ := List.mem_map.mp inside
    exact child.duty_start
  refine ⟨fun absent => ?_, inv.proper, inv.live, fun entry inside knows => ?_, fun entry inside times => ?_,
    fun escrow => ?_⟩
  · obtain ⟨state, flag, all⟩ := inv.unborn absent
    refine ⟨state, flag, fun entry inside => ?_⟩
    rcases List.mem_append.mp inside with old | new
    · exact all entry old
    · exact (start entry new).1
  · rcases List.mem_append.mp inside with old | new
    · exact inv.seen entry old knows
    · rw [(start entry new).2.1] at knows
      cases knows
  · rcases List.mem_append.mp inside with old | new
    · exact inv.timers entry old times
    · exact (start entry new).2.2 times
  · rcases inv.held escrow with ⟨entry, member, settles⟩ | ⟨quiet, entry, member, cares⟩
    · exact .inl ⟨entry, List.mem_append_left _ member, settles⟩
    · exact .inr ⟨quiet, entry, List.mem_append_left _ member, cares⟩

theorem frame (inv : Custody matchId world phases) (same : EscrowKept matchId world world') :
    Custody matchId world' phases := by
  refine ⟨fun absent => ?_, ?_, fun escrow cell stored => ?_, ?_, inv.timers, fun escrow => ?_⟩
  · rw [same.state, same.resolved]
    exact inv.unborn (same.unborn absent)
  · rw [same.state]
    exact inv.proper
  · rw [same.state] at stored
    rw [same.escrow] at escrow
    rw [same.now]
    exact inv.live escrow cell stored
  · rw [same.state]
    exact inv.seen
  · rw [same.escrow] at escrow
    rcases inv.held escrow with settled | ⟨quiet, cares⟩
    · exact .inl settled
    · refine .inr ⟨same.unresolved quiet, ?_⟩
      rw [same.state]
      exact cares

theorem tells (inv : Custody matchId world phases)
    (performed : op.perform env choice world = some (reply, world')) : op.tells matchId reply := by
  cases op
  case get key =>
    cases key
    case state matchId' =>
      match reply, performed with
      | .error err, _ => trivial
      | .ok none, _ => trivial
      | .ok (some matchState), performed =>
        show matchId' = matchId → matchState.proper
        rintro rfl
        obtain ⟨cell, stored, _, rfl⟩ := Store.read_eq_some.mp (perform_get_ok performed).1.symm
        exact inv.proper cell stored
    all_goals trivial
  case memory act =>
    cases act
    case takeTwo fee =>
      match reply, performed with
      | .error err, _ => trivial
      | .ok none, _ => trivial
      | .ok (some taken), performed =>
        have proceeded := proceed_of_ok performed
        simp only [Op.proceed, Option.some.injEq, Prod.mk.injEq, Except.ok.injEq] at proceeded
        exact takeTwo_distinct proceeded.1
    all_goals trivial
  all_goals trivial

theorem advance (inv : Custody matchId world phases) (found : phases[index]? = some (event, duty))
    (performed : op.perform env choice world = some (reply, world')) (may : duty.may matchId op)
    (succeeds : duty.fragile = true → choice ≠ .fail) (covered : duty.refunds = true → op.covered world.db = true) :
    Custody matchId world' (phases.set index (event, duty.after matchId op reply) ++
      op.forks.map fun child => (child, child.duty matchId)) := by
  have inside := (List.getElem?_eq_some_iff.mp found).1
  have there : (phases ++ op.forks.map fun child => (child, child.duty matchId))[index]? = some (event, duty) :=
    (List.getElem?_append_left inside).trans found
  have stepped := (inv.append op.forks).step there performed may succeeds covered ?_
  · rwa [List.set_append_left _ _ inside] at stepped
  · rintro dueAt rfl
    exact ⟨_, List.mem_append_right _ (List.mem_map.mpr ⟨_, List.mem_singleton.mpr rfl, rfl⟩), if_pos rfl⟩

/-- Time passes, and the state of a match whose fees are locked does not expire. -/
theorem tick (inv : Custody matchId world phases) (ms : ℕ)
    (lasts : world.db.inEscrow matchId = true → ∀ cell, world.redis (.state matchId) = some cell →
      world.now + ms ≤ cell.expiresAt) : Custody matchId { world with now := world.now + ms } phases := by
  refine ⟨inv.unborn, inv.proper, lasts, inv.seen, inv.timers, fun escrow => ?_⟩
  rcases inv.held escrow with settled | ⟨quiet, cares⟩
  · exact .inl settled
  · exact .inr ⟨⟨quiet.flag, quiet.status⟩, cares⟩

end Custody

theorem custody_of_unborn (unborn : world.db.matches_ matchId = none) (state : world.redis (.state matchId) = none)
    (flag : world.redis (.resolved matchId) = none) : Custody matchId world [] := by
  refine ⟨fun _ => ⟨state, flag, List.forall_mem_nil _⟩, fun cell stored => ?_, fun _ cell stored => ?_,
    List.forall_mem_nil _, List.forall_mem_nil _, fun escrow => ?_⟩
  · rw [state] at stored
    cases stored
  · rw [state] at stored
    cases stored
  · rw [Db.inEscrow, unborn] at escrow
    cases escrow

end Inv

/-! ### Every run -/

/-- The observer of the escrow of a match. -/
def steward (matchId : MatchId) : Observer (custody matchId) World Handler Unit where
  enter := Handler.duty matchId
  starts _ _ _ := ()
  sees _ _ _ _ _ := ()

/-- A run of the backend, with the observer of the escrow of a match. -/
abbrev EscrowRun (matchId : MatchId) := Watched (custody matchId) World Handler Unit

/-- **The condition on a run**: no call fails from the commit of the match to its timeout, in its timer before
`resolveMatch`, or in a `catch` block of `resolveMatch` that has to refund; such a refund finds the fee in both
escrows; and the state of the match does not expire while the fees are locked. Anything else may fail. -/
def tended (matchId : MatchId) (w : EscrowRun matchId) : BackendMove → Bool
  | .start _ => true
  | .step index choice => (w.threads[index]?).all fun thread =>
    (!Duty.fragile thread.phase || choice ≠ .fail) &&
      (!Duty.refunds thread.phase || thread.prog.head.all (·.covered w.state.db))
  | .outside (.tick ms) => !w.state.db.inEscrow matchId ||
    (w.state.redis (.state matchId)).all fun cell => w.state.now + ms ≤ cell.expiresAt
  | .outside (.act _ op) => op.detached matchId

/-- **The vigil of the escrow.** -/
def escrowVigil (env : Env) (matchId : MatchId) :
    Vigil (backend env) (steward matchId) (fun w move => tended matchId w move = true) where
  finished := Duty.light
  Inv world _ phases := Custody matchId world phases
  keeps event _ := (Task.keeps_run _ _ _).mpr (handler_custody env event)
  enters _ _ _ := trivial
  forks _ _ _ _ _ := trivial
  start w event state inv _ arrived := by
    obtain ⟨redis, db⟩ := arrive_frame arrived
    have same : EscrowKept matchId w.state state :=
      ⟨arrive_now arrived, by rw [redis], by rw [redis], by rw [db], by rw [db]⟩
    exact (inv.frame same).append [event]
  step w index choice event duty op next reply state inv allowed found inPhase may performed := by
    have condition : ((!Duty.fragile duty || choice ≠ .fail) &&
        (!Duty.refunds duty || op.covered w.state.db)) = true := by
      have allowed : ((w.threads[index]?).all fun thread => (!Duty.fragile thread.phase || choice ≠ .fail) &&
        (!Duty.refunds thread.phase || thread.prog.head.all (·.covered w.state.db))) = true := allowed
      rwa [found] at allowed
    obtain ⟨careful, covers⟩ := Bool.and_eq_true_iff.mp condition
    have succeeds : Duty.fragile duty = true → choice ≠ .fail := by
      intro fragile
      rw [fragile] at careful
      exact of_decide_eq_true careful
    have covered : Duty.refunds duty = true → op.covered w.state.db = true := by
      intro refunds
      rwa [refunds] at covers
    exact ⟨inv.tells performed, inv.advance inPhase performed may succeeds covered⟩
  outside w act state inv allowed acted := by
    cases act with
    | tick ms =>
      cases acted
      refine inv.tick ms fun escrow cell stored => ?_
      have lasts : (!w.state.db.inEscrow matchId ||
        (w.state.redis (.state matchId)).all fun cell => w.state.now + ms ≤ cell.expiresAt) = true := allowed
      rw [escrow, stored] at lasts
      exact of_decide_eq_true lasts
    | act choice op =>
      obtain ⟨⟨reply, state'⟩, performed, rfl⟩ := Option.map_eq_some_iff.mp acted
      exact inv.frame (untouched_of_detached performed allowed)

/-- Users join the queues, and one call fails: the `SET` of the start of match 7. -/
def failsOnce (c : BackendConfig) : BackendMove → Bool
  | .start (.queueJoin ..) => true
  | .start _ => false
  | .step index .fail => (c.threads[index]?).any fun thread => match thread.2.head with
    | some (.set (.startTs matchId) _ _) => matchId = 7
    | _ => false
  | .step _ _ => true
  | .outside _ => false

/-- Users 1 and 2 are matched as match 7. The transaction commits, the first `SET` after it fails, and the join
that was to create the match ends with an error for its user. -/
def failsToAnnounce : List BackendMove := joinsAndPlays ++ [.step 1 .proceed, .step 1 .fail, .step 1 .proceed]

/-- Users 1 and 2 are matched as match 7. Its timer fires, and the payout fails. -/
def failsToPay : List BackendMove :=
  joinsAndPlays ++ List.replicate 10 (.step 1 .proceed) ++ .outside (.tick 1802000) ::
    List.replicate 11 (.step 2 .proceed) ++ [.step 2 .fail]

end SkillArena
