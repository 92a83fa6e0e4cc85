/-
**How often a payment is credited.**

`POST /payments/verify` and the `payment.captured` webhook both look for an earlier credit of the payment
with a `LIKE` query and then credit it in a transaction of their own. The query is not part of the
transaction and no unique key backs it, so a request and a webhook that both query first both credit
(`double_credit`). Where no delivery of a payment queries while another stands between its query and its
transaction, the payment is credited at most once (`credited_at_most_once`), over any number of requests,
webhooks, retries and failures.

A handler is cleared when its query has found no credit; the transaction is then its next operation.
-/

import SkillArena.Proof.Guard

namespace SkillArena

open Async
open Sql (like like_append like_percent)

/-! ### Credits in the ledger -/

/-- The description names a payment that was credited. -/
def Description.names (paymentId : Text) : Description → Bool
  | razorpayDeposit _ payment => payment = paymentId
  | webhookDeposit payment => payment = paymentId
  | _ => false

/-- How often a payment has been credited. -/
def Db.credits (db : Db) (paymentId : Text) : ℕ :=
  db.ledger.countP fun row => row.type = .deposit ∧ row.description.names paymentId

def Transaction.credits (paymentId : Text) : Transaction → Bool
  | creditVerified _ _ payment _ => payment = paymentId
  | creditWebhook _ payment _ => payment = paymentId
  | _ => false

section Credits

variable {env : Env} {choice : Choice} {world world' : World} {db db' : Db} {paymentId : Text}

/-- **A transaction credits only the payment it carries**, and once. -/
theorem run_credits {transaction : Transaction} {reply : transaction.Reply}
    (ran : transaction.run env db = (.ok reply, db')) : db'.credits paymentId ≤
      db.credits paymentId + (if transaction.credits paymentId then 1 else 0) := by
  have credits := run_countP ran fun posting => posting.type = .deposit ∧ posting.description.names paymentId
  refine credits.trans_le (Nat.add_le_add_left ?_ _)
  cases transaction with
  | creditVerified userId order payment amount =>
    simp [Transaction.postings, Transaction.credits, Description.names, List.countP_cons]
  | creditWebhook userId payment amount =>
    simp only [Transaction.postings]
    split
    · simp [Transaction.credits, Description.names, List.countP_cons]
    · exact Nat.zero_le _
  | _ => exact Nat.zero_le _

/-- **The credits of a payment after an operation.** -/
theorem perform_credits (paymentId : Text) {op : Op} {reply : Except Err op.Reply}
    (performed : op.perform env choice world = some (reply, world')) : world'.db.credits paymentId ≤
      world.db.credits paymentId + (if op.commits (·.credits paymentId) then 1 else 0) := by
  rcases money_frame performed with ⟨_, ledger⟩ | ⟨transaction, value, rfl, ran⟩
  · unfold Db.credits
    rw [ledger]
    exact Nat.le_add_right _ _
  · exact run_credits ran

end Credits

/-! ### Finding a credit again -/

/-- **The pattern of a payment matches every description that names it.** -/
theorem like_containing {paymentId : Text} (plain : '\\' ∉ paymentId) {description : Description}
    (names : description.names paymentId = true) : like (containing paymentId) description.text = true := by
  have ends : like (paymentId ++ ['%']) paymentId = true := by
    have tail : like ['%'] [] = true := rfl
    simpa using like_append plain tail
  cases description with
  | razorpayDeposit order payment =>
    obtain rfl : payment = paymentId := by simpa [Description.names] using names
    exact like_percent (List.suffix_append _ _) ends
  | webhookDeposit payment =>
    obtain rfl : payment = paymentId := by simpa [Description.names] using names
    exact like_percent (List.suffix_append _ _) ends
  | _ => cases names

theorem containing_injective {paymentId paymentId' : Text}
    (same : containing paymentId = containing paymentId') : paymentId = paymentId' := by
  unfold containing at same
  rw [List.cons.injEq] at same
  exact List.append_cancel_right same.2

def Op.checks (paymentId : Text) : Op → Bool
  | query (.depositsLike pattern) => pattern = containing paymentId
  | query (.transactionsLike pattern) => pattern = containing paymentId
  | _ => false

/-- The operation has looked for a credit of a payment and found none. -/
def Op.clears (paymentId : Text) : (op : Op) → Except Err op.Reply → Bool
  | query (.depositsLike pattern), .ok existing => pattern = containing paymentId && existing = 0
  | query (.transactionsLike pattern), .ok existing => pattern = containing paymentId && existing = 0
  | _, _ => false

theorem commits_of_checks {paymentId : Text} {of : Transaction → Bool} {op : Op}
    (checks : op.checks paymentId = true) : op.commits of = false := by
  cases op
  case transact => cases checks
  all_goals rfl

theorem clears_error {paymentId : Text} {op : Op} (err : Err) : op.clears paymentId (.error err) = false := by
  unfold Op.clears
  split
  · rename_i failed
    cases failed
  · rename_i failed
    cases failed
  · rfl

/-- **A check that finds nothing is right.** -/
theorem credits_of_clears {env : Env} {choice : Choice} {world world' : World} {op : Op}
    {reply : Except Err op.Reply} {paymentId : Text} (plain : '\\' ∉ paymentId)
    (performed : op.perform env choice world = some (reply, world'))
    (clears : op.clears paymentId reply = true) :
    op.checks paymentId = true ∧ world.db.credits paymentId = 0 := by
  unfold Op.clears at clears
  split at clears
  · rename_i pattern existing
    obtain ⟨rfl, rfl⟩ : pattern = containing paymentId ∧ existing = 0 := by simpa using clears
    obtain ⟨pick, db', ran, rfl⟩ := perform_query_ok performed
    simp only [Query.exec, Except.ok.injEq, Prod.mk.injEq, List.length_eq_zero_iff,
      List.filter_eq_nil_iff, Bool.and_eq_true, beq_iff_eq, not_and] at ran
    refine ⟨by simp [Op.checks], List.countP_eq_zero.mpr fun row member => ?_⟩
    simp only [decide_eq_true_eq, not_and]
    exact fun deposit names => ran.1 row member deposit (like_containing plain names)
  · rename_i pattern existing
    obtain ⟨rfl, rfl⟩ : pattern = containing paymentId ∧ existing = 0 := by simpa using clears
    obtain ⟨pick, db', ran, rfl⟩ := perform_query_ok performed
    simp only [Query.exec, Except.ok.injEq, Prod.mk.injEq, List.length_eq_zero_iff,
      List.filter_eq_nil_iff] at ran
    refine ⟨by simp [Op.checks], List.countP_eq_zero.mpr fun row member => ?_⟩
    simp only [decide_eq_true_eq, not_and]
    exact fun _ names => ran.1 row member (like_containing plain names)
  · cases clears

/-! ### The contract of a payment -/

/-- Whether a handler has been cleared to credit a payment. -/
inductive Clearance
  | unchecked
  | cleared
  deriving DecidableEq

/-- **The contract of a payment**: it is credited only right after no credit was found. -/
def payment (paymentId : Text) : Contract signature where
  Phase := Clearance
  may
    | .unchecked, op => op.commits (·.credits paymentId) = false
    | .cleared, op => op.commits (·.credits paymentId) = true
  answers _ _ _ := True
  after _ op reply := if op.clears paymentId reply then .cleared else .unchecked

section Contract

variable {paymentId : Text}

theorem payment_after {phase : Clearance} {op : Op} {reply : Except Err op.Reply}
    (unclear : op.clears paymentId reply = false) :
    (payment paymentId).after phase op reply = Clearance.unchecked := by
  show (if op.clears paymentId reply then Clearance.cleared else .unchecked) = _
  rw [unclear]
  rfl

theorem payment_after_clear {phase : Clearance} {op : Op} {reply : Except Err op.Reply}
    (clear : op.clears paymentId reply = true) :
    (payment paymentId).after phase op reply = Clearance.cleared := by
  show (if op.clears paymentId reply then Clearance.cleared else .unchecked) = _
  rw [clear]
  rfl

theorem payment_idle (phase : Clearance) (op : Op) (here : phase = .unchecked)
    (other : op.department ≠ some .pay) : (payment paymentId).may phase op ∧
      ∀ reply, (payment paymentId).answers phase op reply →
        (payment paymentId).after phase op reply = Clearance.unchecked := by
  subst here
  refine ⟨Bool.eq_false_iff.mpr fun credits => ?_, fun reply _ =>
    payment_after (Bool.eq_false_iff.mpr fun clears => ?_)⟩
  · cases op
    case transact transaction =>
      cases transaction
      case creditVerified => exact other rfl
      case creditWebhook => exact other rfl
      all_goals cases credits
    all_goals cases credits
  · unfold Op.clears at clears
    split at clears
    · exact other rfl
    · exact other rfl
    · cases clears

theorem payment_call {op : Op} (other : op.department ≠ some .pay) :
    op.call.Stable (payment paymentId) (· = Clearance.unchecked) :=
  (asks_call other).stable payment_idle

/-- The clearance of a handler that has found no credit of its payment. -/
def clearanceOf (paymentId checked : Text) : Clearance :=
  if checked = paymentId then .cleared else .unchecked

theorem credit_keeps {checked : Text} {transaction : Transaction}
    (credits : transaction.credits paymentId = decide (checked = paymentId)) :
    (transact transaction).Keeps (payment paymentId) (clearanceOf paymentId checked)
      fun _ => (· = Clearance.unchecked) := by
  refine ⟨?_, fun reply _ => payment_after rfl⟩
  unfold clearanceOf
  by_cases same : checked = paymentId
  · rw [if_pos same]
    exact credits.trans (decide_eq_true same)
  · rw [if_neg same]
    exact credits.trans (decide_eq_false same)

theorem check_bind {α : Type} (checked : Text) (check : Query) (existing : check.Reply → ℕ)
    (clears : ∀ reply, (Op.query check).clears paymentId (.ok reply) =
      (decide (checked = paymentId) && decide (existing reply = 0))) {stop credit : Promise α}
    (stops : stop.Stable (payment paymentId) (· = Clearance.unchecked))
    (credits : credit.Keeps (payment paymentId) (clearanceOf paymentId checked)
      fun _ => (· = Clearance.unchecked)) :
    (do
      let reply ← poolQuery check
      if 0 < existing reply then stop else credit : Promise α).Stable (payment paymentId)
        (· = Clearance.unchecked) := by
  rintro _ rfl
  refine keeps_call_bind rfl (fun reply _ => ?_) fun err _ => payment_after (clears_error err)
  by_cases found : 0 < existing reply
  · rw [if_pos found]
    exact stops _ (payment_after (by simp [clears, Nat.ne_of_gt found]))
  · rw [if_neg found]
    have none : existing reply = 0 := Nat.eq_zero_of_not_pos found
    have here : (payment paymentId).after Clearance.unchecked (.query check) (.ok reply) =
        clearanceOf paymentId checked := by
      unfold clearanceOf
      by_cases same : checked = paymentId
      · rw [if_pos same, payment_after_clear (by simp [clears, none, same])]
      · rw [if_neg same, payment_after (by simp [clears, same])]
    rw [here]
    exact credits

open Async.Task (stable_pure stable_throw stable_bind)

theorem verifyPayment_payment (env : Env) (userId : UserId) (orderId checked signature : Text) :
    (verifyPayment env userId orderId checked signature).Stable (payment paymentId)
      (· = Clearance.unchecked) := by
  unfold verifyPayment
  split
  · exact stable_throw _
  · refine stable_bind ?_ fun _ => stable_pure _
    simp only [verifyAndCreditWallet]
    split
    · exact stable_throw _
    · refine stable_bind (payment_call (by rintro ⟨⟩)) fun orderAmount => ?_
      refine check_bind checked (.depositsLike (containing checked)) (fun reply => reply) (fun reply => ?_)
        (stable_throw _) ((Task.keeps_bind _ _ _ _).mpr ((credit_keeps rfl).mono ?_))
      · simp only [Op.clears, decide_eq_decide.mpr ⟨containing_injective, congrArg containing⟩]
      · rintro (err | balance) _ rfl
        · rfl
        · rfl

theorem handleWebhook_payment (env : Env) (body signature : Text) :
    (handleWebhook env body signature).Stable (payment paymentId) (· = Clearance.unchecked) := by
  simp only [handleWebhook]
  split
  · exact stable_throw _
  · cases env.parseWebhook body with
    | error err => exact stable_throw _
    | ok event =>
      simp only
      split
      · cases event.userId with
        | none => exact stable_pure _
        | some userId =>
          refine check_bind event.paymentId (.transactionsLike (containing event.paymentId))
            (fun reply => reply) (fun reply => ?_) (stable_pure _) (credit_keeps rfl)
          simp only [Op.clears, decide_eq_decide.mpr ⟨containing_injective, congrArg containing⟩]
      · exact stable_pure _

/-- **Every handler keeps the contract of every payment.** -/
theorem handler_payment (env : Env) (handler : Handler) :
    (handler.task env).Stable (payment paymentId) (· = Clearance.unchecked) := by
  cases handler
  case verifyPayment user orderId checked signature => exact verifyPayment_payment env _ _ _ _
  case webhook body signature => exact handleWebhook_payment env _ _
  all_goals
    exact (Handler.asks_within env _).stable fun phase op here inside =>
      payment_idle phase op here (department_ne inside rfl)

end Contract

/-! ### The invariant -/

/-- **The invariant of a payment**: its credits and the handlers cleared to credit it are one in total. -/
def PaymentInv (paymentId : Text) (world : World) (phases : List (Handler × Clearance)) : Prop :=
  world.db.credits paymentId + phases.countP (·.2 = .cleared) ≤ 1

namespace PaymentInv

variable {env : Env} {choice : Choice} {paymentId : Text} {world world' : World}
  {phases : List (Handler × Clearance)} {index : ℕ} {event : Handler} {phase : Clearance} {op : Op}
  {reply : Except Err op.Reply}

theorem append (inv : PaymentInv paymentId world phases) (events : List Handler) :
    PaymentInv paymentId world (phases ++ events.map fun event => (event, Clearance.unchecked)) := by
  have fresh : (events.map fun event => (event, Clearance.unchecked)).countP (·.2 = .cleared) = 0 := by
    rw [List.countP_eq_zero]
    simp
  unfold PaymentInv
  rw [List.countP_append, fresh]
  exact inv

/-- **One step keeps the invariant**, if a check finds nobody cleared. -/
theorem step (inv : PaymentInv paymentId world phases) (plain : '\\' ∉ paymentId)
    (found : phases[index]? = some (event, phase)) (may : (payment paymentId).may phase op)
    (performed : op.perform env choice world = some (reply, world'))
    (alone : op.checks paymentId = true → ∀ entry ∈ phases, entry.2 ≠ .cleared) :
    PaymentInv paymentId world'
      (phases.set index (event, (payment paymentId).after phase op reply)) := by
  have credits := perform_credits paymentId performed
  have counted := countP_set (p := fun entry : Handler × Clearance => entry.2 = .cleared) found
    (event, (payment paymentId).after phase op reply)
  unfold PaymentInv at inv ⊢
  by_cases clears : op.clears paymentId reply = true
  · -- the check was right, and nobody else is cleared
    obtain ⟨checks, uncredited⟩ := credits_of_clears plain performed clears
    have nobody : phases.countP (·.2 = .cleared) = 0 := by
      rw [List.countP_eq_zero]
      intro entry member
      simpa using alone checks entry member
    rw [commits_of_checks checks, uncredited] at credits
    rw [payment_after_clear clears] at counted ⊢
    simp only [decide_true, if_true, Bool.false_eq_true, if_false] at counted credits
    omega
  · rw [payment_after (Bool.eq_false_iff.mpr clears)] at counted ⊢
    cases phase with
    | unchecked =>
      have uncommitted : op.commits (·.credits paymentId) = false := may
      rw [uncommitted] at credits
      simp only [Bool.false_eq_true, if_false] at credits
      simp only [reduceCtorEq, decide_false, Bool.false_eq_true, if_false] at counted
      omega
    | cleared =>
      have committed : op.commits (·.credits paymentId) = true := may
      rw [committed] at credits
      simp only [if_true] at credits
      simp only [reduceCtorEq, decide_false, decide_true, Bool.false_eq_true, if_true, if_false] at counted
      omega

end PaymentInv

/-! ### At most one credit -/

/-- **The condition on a run**: when a delivery of the payment looks for an earlier credit, no other
delivery of it is about to run its crediting transaction; nothing outside the handlers credits it. -/
def checkedAlone (paymentId : Text) (c : BackendConfig) : BackendMove → Bool
  | .start _ => true
  | .step index _ =>
    match (c.threads[index]?).bind (·.2.head) with
    | some op => !op.checks paymentId ||
      c.threads.all fun thread => !thread.2.head.any (Op.commits (·.credits paymentId))
    | none => true
  | .outside (.tick _) => true
  | .outside (.act _ op) => !op.commits (·.credits paymentId)

variable {env : Env} {paymentId : Text} {c c₀ : BackendConfig}

theorem cleared_credits {phases : List (Handler × Clearance)}
    (tracks : Tracks (payment paymentId) (· = Clearance.unchecked) c phases) {event : Handler}
    (member : (event, Clearance.cleared) ∈ phases) :
    ∃ thread ∈ c.threads, thread.2.head.any (Op.commits (·.credits paymentId)) = true := by
  obtain ⟨index, found⟩ := List.getElem?_of_mem member
  obtain ⟨prog, thread, keeps⟩ := tracks.get_of_phase found
  refine ⟨_, List.mem_of_getElem? thread, ?_⟩
  cases prog with
  | done value => cases keeps
  | await op next => exact keeps.1

/-- The contract and the invariant of a payment, over every handler of the backend. -/
def paymentDiscipline (env : Env) {paymentId : Text} (plain : '\\' ∉ paymentId) :
    Discipline (backend env) (fun c move => checkedAlone paymentId c move = true) (payment paymentId) where
  enter _ := .unchecked
  finished := (· = .unchecked)
  Inv := PaymentInv paymentId
  keeps c event _ := (Task.keeps_run _ _ _).mpr (handler_payment env event .unchecked rfl)
  start c phases event state _ inv _ arrived := by
    have kept : PaymentInv paymentId state phases := by
      unfold PaymentInv
      rw [(arrive_frame arrived).2]
      exact inv
    exact kept.append [event]
  step c phases index choice event op next phase reply state tracks inv alone found inPhase may
      performed := by
    refine ⟨trivial, fun child _ => (Task.keeps_run _ _ _).mpr (handler_payment env child .unchecked rfl),
      (inv.step plain inPhase may performed fun checks => ?_).append _⟩
    rintro ⟨other, phase'⟩ member cleared
    obtain rfl : phase' = .cleared := cleared
    obtain ⟨thread, inPool, credits⟩ := cleared_credits tracks member
    have nobody : ∀ thread ∈ c.threads,
        thread.2.head.any (Op.commits (·.credits paymentId)) = false := by
      simpa [checkedAlone, found, checks] using alone
    rw [nobody thread inPool] at credits
    cases credits
  outside c phases act state _ inv alone acted := by
    cases act with
    | tick ms =>
      cases acted
      exact inv
    | act choice op =>
      obtain ⟨⟨reply, state'⟩, performed, rfl⟩ := Option.map_eq_some_iff.mp acted
      have uncommitted : op.commits (·.credits paymentId) = false := by simpa [checkedAlone] using alone
      have credits := perform_credits paymentId performed
      rw [uncommitted] at credits
      exact (Nat.add_le_add_right credits _).trans inv

/-- **A payment is credited at most once** along every run of the backend, over any number of requests,
webhooks, retries and failures, whose checks meet the condition. -/
theorem credited_at_most_once (env : Env) {paymentId : Text} (plain : '\\' ∉ paymentId)
    {c₀ c : BackendConfig} (idle : c₀.threads = []) (once : c₀.state.db.credits paymentId ≤ 1)
    (run : Reaches (backend env) (fun c move => checkedAlone paymentId c move = true) c₀ c) :
    c.state.db.credits paymentId ≤ 1 := by
  obtain ⟨phases, _, inv⟩ := (paymentDiscipline env plain).holds ⟨[], tracks_nil idle, once⟩ run
  exact (Nat.le_add_right _ _).trans inv

/-! ### Two credits -/

/-- A payment of 500 rupees by user 1. -/
def samplePayment : Text := "pay_1".toList

/-- An environment in which every webhook body reports the payment. -/
def paymentEnv : Env :=
  .standard (fun secret text => secret ++ text) fun _ => .ok ⟨true, samplePayment, some 1, 50000⟩

/-- Users 1 and 2, nobody in a match. -/
def noMatches : World where
  now := 0
  db := twoPlayers

/-- The deliveries of a payment with a valid signature, and nothing else. -/
def delivers (env : Env) (paymentId : Text) : BackendMove → Bool
  | .start (.verifyPayment _ orderId payment signature) => payment = paymentId &&
      env.hmacSha256 env.razorpayKeySecret (orderId ++ ['|'] ++ payment) = signature
  | .start (.webhook body signature) => env.hmacSha256 env.razorpayWebhookSecret body = signature &&
      match env.parseWebhook body with
      | .ok event => event.paymentId = paymentId
      | .error _ => false
  | .step _ choice => choice ≠ .fail
  | _ => false

/-- The request and the webhook of one payment. -/
def bothDeliveries : List BackendMove :=
  [.start (.verifyPayment 1 "order_1".toList samplePayment "order_1|pay_1".toList),
    .start (.webhook "captured".toList "captured".toList)]

/-- **A request and a webhook credit one payment twice**: both look for an earlier credit before either
has committed one. -/
theorem double_credit : ∃ c, Reaches (backend paymentEnv)
    (fun _ move => delivers paymentEnv samplePayment move = true) ⟨noMatches, []⟩ c ∧
      c.state.db.credits samplePayment = 2 ∧ (c.state.db.wallets 1).map (·.balance) = some 1100 := by
  obtain ⟨c, run, credited⟩ := Machine.exists_run (backend paymentEnv)
    (fun _ move => delivers paymentEnv samplePayment move) ⟨noMatches, []⟩
    (bothDeliveries ++ [.step 0 (.order 50000), .step 0 .proceed, .step 1 .proceed, .step 0 .proceed,
      .step 1 .proceed])
    (fun c => c.state.db.credits samplePayment = 2 ∧
      (c.state.db.wallets 1).map (·.balance) = some 1100) (by decide +kernel)
  exact ⟨c, run, by simpa using credited⟩

theorem credited_once_in_turn : ∃ c, Reaches (backend paymentEnv)
    (fun c move => checkedAlone samplePayment c move = true) ⟨noMatches, []⟩ c ∧
      c.state.db.credits samplePayment = 1 ∧ c.state.db.credits samplePayment ≤ 1 := by
  obtain ⟨c, run, credited⟩ := Machine.exists_run (backend paymentEnv) (checkedAlone samplePayment)
    ⟨noMatches, []⟩ (bothDeliveries ++ [.step 0 (.order 50000), .step 0 .proceed, .step 0 .proceed,
      .step 1 .proceed])
    (fun c => c.state.db.credits samplePayment == 1) (by decide +kernel)
  exact ⟨c, run, by simpa using credited,
    credited_at_most_once paymentEnv (by decide) rfl (by decide +kernel) run⟩

end SkillArena
