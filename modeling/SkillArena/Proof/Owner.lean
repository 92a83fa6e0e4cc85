/-
**Who is credited with a payment.**

`POST /payments/verify` credits the caller with the amount of the order, and the webhook credits the user in the
notes of the payment. The signature says that the payment pays the order, not who calls: a user who presents the
order, the payment and the signature of another user is credited with it (`credited_to_stranger`). Where every user
presents the orders created for this user only, both paths credit the user for whom `createOrder` created the order,
with the same amount (`credited_to_owner`), over any interleaving of all handlers.

The rules of a credit are a contract without phases: `orders.fetch` answers from the order, and a transaction
credits what is due.
-/

import SkillArena.Model.Orders
import SkillArena.Proof.Payment

namespace SkillArena

open Async

/-! ### What an order is worth -/

section Orders

variable {razorpay : Razorpay} {orderId paymentId : Text} {order : Order}

theorem createOrder_userId {userId : UserId} {amount : JsFloat} {request : OrderRequest}
    (created : createOrder userId amount = .ok request) : request.userId = userId := by
  unfold createOrder at created
  split at created
  · cases created
  · split at created
    · cases created
    · cases created
      rfl

theorem accepted_userId {request : OrderRequest} (accepted : request.accepted = some order) :
    order.userId = request.userId := by
  unfold OrderRequest.accepted at accepted
  split at accepted
  · split at accepted
    · cases accepted
      rfl
    · cases accepted
  · cases accepted

theorem created_of_order (found : razorpay.order orderId = some order) :
    ∃ amount, razorpay.created orderId = some (order.userId, amount) := by
  unfold Razorpay.order at found
  obtain ⟨⟨userId, amount⟩, created, found⟩ := Option.bind_eq_some_iff.mp found
  simp only at found
  split at found
  · rename_i request asked
    refine ⟨amount, ?_⟩
    rw [created, accepted_userId found, createOrder_userId asked]
  · cases found

theorem due_of_order (pays : razorpay.pays paymentId = some orderId) (found : razorpay.order orderId = some order) :
    razorpay.due paymentId = some (order.userId, (order.amount / 100 : ℚ)) := by
  obtain ⟨amount, created⟩ := created_of_order found
  simp [Razorpay.due, pays, created, found]

end Orders

/-! ### The rules of a credit -/

/-- The operation credits what is due, and hands no request on. -/
def Op.billed (razorpay : Razorpay) : Op → Prop
  | .transact transaction => ∀ paymentId userId amount,
      transaction.creditOf = some (paymentId, userId, amount) → razorpay.due paymentId = some (userId, amount)
  | .fork handler => handler.departments.contains .pay = false
  | _ => True

/-- `orders.fetch` returns the order. -/
def Op.quotes (razorpay : Razorpay) : (op : Op) → Except Err op.Reply → Prop
  | .fetchOrder orderId, .ok amount => ∀ order, razorpay.order orderId = some order → amount = order.amount
  | _, _ => True

/-- **The rules of a credit.** -/
@[reducible] def billing (razorpay : Razorpay) : Contract signature where
  Phase := Unit
  may _ := Op.billed razorpay
  answers _ := Op.quotes razorpay
  after _ _ _ := ()

section Rules

variable {razorpay : Razorpay}

theorem billed_of_department {op : Op} (other : op.department ≠ some .pay) : op.billed razorpay := by
  cases op with
  | transact transaction =>
    cases transaction with
    | creditVerified => exact absurd rfl other
    | creditWebhook => exact absurd rfl other
    | _ => exact nofun
  | fork handler =>
    cases handler with
    | verifyPayment => exact absurd rfl other
    | webhook => exact absurd rfl other
    | _ => rfl
  | _ => trivial

theorem billing_of_department (env : Env) {handler : Handler} (other : handler.departments.contains .pay = false) :
    ((handler.task env).run).Keeps (billing razorpay) () fun _ _ => True := by
  refine (Task.keeps_run _ _ _).mpr ((((handler.asks_within env).stable
    (C := billing razorpay) (Q := fun _ => True) ?_) () trivial).mono fun _ _ _ => trivial)
  exact fun _ op _ inside => ⟨billed_of_department (department_ne inside other), fun _ _ => trivial⟩

theorem verifyPayment_billing {env : Env} {userId : UserId} {orderId paymentId signature : Text}
    (genuine : env.hmacSha256 env.razorpayKeySecret (orderId ++ ['|'] ++ paymentId) = signature →
      razorpay.pays paymentId = some orderId ∧
        ∃ order, razorpay.order orderId = some order ∧ order.userId = userId) :
    (verifyPayment env userId orderId paymentId signature).Keeps (billing razorpay) () fun _ _ => True := by
  have credits : (verifyAndCreditWallet env userId orderId paymentId signature).Keeps (billing razorpay) ()
      fun _ _ => True := by
    simp only [verifyAndCreditWallet]
    split
    · exact trivial
    rename_i signed
    obtain ⟨pays, order, found, rfl⟩ := genuine (not_not.mp signed)
    refine keeps_call_bind trivial (fun amount quoted => ?_) fun _ _ => trivial
    refine keeps_call_bind trivial (fun existing _ => ?_) fun _ _ => trivial
    split
    · exact trivial
    · refine keeps_call_bind ?_ (fun _ _ => trivial) fun _ _ => trivial
      rintro _ _ _ ⟨⟩
      rw [due_of_order pays found, quoted order found]
  unfold verifyPayment
  split
  · exact trivial
  · refine (Task.keeps_bind _ _ _ _).mpr (credits.mono ?_)
    rintro (err | value) _ _
    · trivial
    · trivial

theorem handleWebhook_billing {env : Env} {body signature : Text}
    (genuine : env.hmacSha256 env.razorpayWebhookSecret body = signature →
      ∀ event, env.parseWebhook body = .ok event → event.isPaymentCaptured = true → razorpay.reports event = true) :
    (handleWebhook env body signature).Keeps (billing razorpay) () fun _ _ => True := by
  simp only [handleWebhook]
  split
  · exact trivial
  rename_i signed
  cases parsed : env.parseWebhook body with
  | error err => exact trivial
  | ok event =>
    simp only
    split
    · rename_i captured
      have reported := genuine (not_not.mp signed) event parsed captured
      obtain ⟨order, paid, named, amount⟩ : ∃ order, razorpay.orderOf event.paymentId = some order ∧
          event.userId = some order.userId ∧ event.amount = order.amount := by
        simpa [Razorpay.reports, Option.any_eq_true] using reported
      obtain ⟨orderId, pays, found⟩ := Option.bind_eq_some_iff.mp paid
      rw [named]
      refine keeps_call_bind trivial (fun existing _ => ?_) fun _ _ => trivial
      split
      · exact trivial
      · refine ⟨?_, fun _ _ => trivial⟩
        rintro _ _ _ ⟨⟩
        rw [due_of_order pays found, amount]
    · exact trivial

end Rules

/-! ### The ledger -/

/-- **Every credit of a payment is what is due**, to whom it is due. -/
def Billed (env : Env) (razorpay : Razorpay) (ledger : List LedgerRow) : Prop :=
  ∀ row ∈ ledger, ∀ paymentId, row.description.names paymentId = true →
    ∃ rupees, razorpay.due paymentId = some (row.userId, rupees) ∧ row.amount = env.numeric.store rupees

theorem creditOf_of_names {env : Env} {db : Db} {transaction : Transaction} {posting : Posting} {paymentId : Text}
    (posted : posting ∈ transaction.postings env db) (names : posting.description.names paymentId = true) :
    ∃ rupees, transaction.creditOf = some (paymentId, posting.userId, rupees) ∧
      posting.amount = env.numeric.store rupees := by
  cases transaction with
  | creditVerified userId order payment amount =>
    obtain rfl := List.mem_singleton.mp posted
    obtain rfl : payment = paymentId := of_decide_eq_true names
    exact ⟨amount, rfl, rfl⟩
  | creditWebhook userId payment amount =>
    simp only [Transaction.postings] at posted
    split at posted
    · obtain rfl := List.mem_singleton.mp posted
      obtain rfl : payment = paymentId := of_decide_eq_true names
      exact ⟨amount, rfl, rfl⟩
    · cases posted
  | deposit | withdraw =>
    obtain rfl := List.mem_singleton.mp posted
    cases names
  | createMatch | releaseEscrowToWinner | refundBothPlayers =>
    rcases List.mem_pair.mp posted with rfl | rfl
    · cases names
    · cases names

/-- **One operation keeps the ledger billed** if it credits what is due. -/
theorem Billed.perform {env : Env} {razorpay : Razorpay} {choice : Choice} {op : Op} {world world' : World}
    {reply : Except Err op.Reply} (billed : Billed env razorpay world.db.ledger) (due : op.billed razorpay)
    (performed : op.perform env choice world = some (reply, world')) : Billed env razorpay world'.db.ledger := by
  rcases money_frame performed with ⟨_, same⟩ | ⟨transaction, value, rfl, ran⟩
  · rw [same]
    exact billed
  · obtain ⟨rows, posted, ledger⟩ := run_ledger ran
    rw [ledger]
    intro row member paymentId names
    rcases List.mem_append.mp member with old | new
    · exact billed row old paymentId names
    · have written : row.posting ∈ transaction.postings env world.db := posted ▸ List.mem_map_of_mem new
      obtain ⟨rupees, credit, amount⟩ := creditOf_of_names written names
      exact ⟨rupees, due _ _ _ credit, amount⟩

/-! ### Requests of the owner -/

/-- **Whoever presents a signed payment is the user for whom its order was created.** -/
def Razorpay.byOwner (razorpay : Razorpay) (env : Env) : BackendMove → Bool
  | .start (.verifyPayment userId orderId paymentId signature) =>
    env.hmacSha256 env.razorpayKeySecret (orderId ++ ['|'] ++ paymentId) ≠ signature ||
      (razorpay.created orderId).all (·.1 = userId)
  | _ => true

variable {env : Env} {razorpay : Razorpay} {c c₀ : BackendConfig}

theorem handler_billing {handler : Handler} (honest : razorpay.honest env c (.start handler) = true)
    (own : razorpay.byOwner env (.start handler) = true) :
    (handler.task env).run.Keeps (billing razorpay) () fun _ _ => True := by
  cases handler with
  | verifyPayment userId orderId paymentId signature =>
    refine (Task.keeps_run _ _ _).mpr (verifyPayment_billing fun signed => ?_)
    simp only [Razorpay.honest, signed, ne_eq, not_true_eq_false, decide_false, Bool.false_or, Bool.and_eq_true,
      decide_eq_true_eq] at honest
    obtain ⟨order, found⟩ := Option.isSome_iff_exists.mp honest.2
    obtain ⟨amount, created⟩ := created_of_order found
    simp only [Razorpay.byOwner, signed, ne_eq, not_true_eq_false, decide_false, Bool.false_or, created,
      Option.all_some, decide_eq_true_eq] at own
    exact ⟨honest.1, order, found, own⟩
  | webhook body signature =>
    refine (Task.keeps_run _ _ _).mpr (handleWebhook_billing fun signed event parsed captured => ?_)
    simpa [Razorpay.honest, signed, parsed, captured] using honest
  | _ => exact billing_of_department env rfl

/-- `orders.fetch` of an honest Razorpay returns the order. -/
theorem quotes_of_honest {index : ℕ} {choice : Choice} {handler : Handler} {op : Op}
    {next : signature.Reply op → Prog signature Unit} {reply : Except Err op.Reply} {world : World}
    (honest : razorpay.honest env c (.step index choice) = true)
    (found : c.threads[index]? = some (handler, .await op next))
    (performed : op.perform env choice c.state = some (reply, world)) : op.quotes razorpay reply := by
  cases op with
  | fetchOrder orderId =>
    cases reply with
    | error err => trivial
    | ok amount =>
      intro order placed
      cases choice with
      | order amount' =>
        cases performed
        simpa [Razorpay.honest, found, placed] using honest
      | _ => cases performed
  | _ => trivial

/-- **The rules and the ledger**, over every handler of the backend. -/
def billingDiscipline (env : Env) (razorpay : Razorpay) : Discipline (backend env)
    (fun c move => razorpay.honest env c move = true ∧ razorpay.byOwner env move = true) (billing razorpay) where
  enter _ := ()
  finished _ := True
  Inv world _ := Billed env razorpay world.db.ledger
  keeps c event allowed := handler_billing allowed.1 allowed.2
  start c phases event state _ billed _ arrived := by
    show Billed env razorpay state.db.ledger
    rw [(arrive_frame arrived).2]
    exact billed
  step c phases index choice event op next phase reply state _ billed allowed found _ may performed := by
    refine ⟨quotes_of_honest allowed.1 found performed, fun child forked => ?_, billed.perform may performed⟩
    obtain rfl := fork_of_mem forked
    exact billing_of_department env may
  outside c phases act state _ billed allowed acted := by
    cases act with
    | tick ms =>
      cases acted
      exact billed
    | act choice op =>
      obtain ⟨⟨reply, state'⟩, performed, rfl⟩ := Option.map_eq_some_iff.mp acted
      rcases money_frame performed with ⟨_, same⟩ | ⟨transaction, value, rfl, ran⟩
      · show Billed env razorpay state'.db.ledger
        rw [same]
        exact billed
      · have uncredited : transaction.creditOf = none := by simpa [Razorpay.honest] using allowed.1
        refine billed.perform ?_ performed
        intro paymentId userId amount credit
        rw [uncredited] at credit
        cases credit

/-- **Every payment is credited to the user for whom `createOrder` created its order**, with the amount of the
order, where users present their own orders only: whatever credit a handler is about to run, on either path, is what
is due for the payment, and so is every credit in the ledger. -/
theorem credited_to_owner (env : Env) (razorpay : Razorpay) {c₀ c : BackendConfig} (idle : c₀.threads = [])
    (billed : Billed env razorpay c₀.state.db.ledger)
    (run : Reaches (backend env)
      (fun c move => razorpay.honest env c move = true ∧ razorpay.byOwner env move = true) c₀ c) :
    (∀ thread ∈ c.threads, ∀ transaction, thread.2.head = some (.transact transaction) →
      ∀ paymentId userId amount, transaction.creditOf = some (paymentId, userId, amount) →
        razorpay.due paymentId = some (userId, amount)) ∧
    Billed env razorpay c.state.db.ledger := by
  have initial : ∃ phases, Tracks (billing razorpay) (fun _ => True) c₀ phases ∧
      Billed env razorpay c₀.state.db.ledger := ⟨[], tracks_nil idle, billed⟩
  refine ⟨?_, ?_⟩
  · rintro ⟨handler, prog⟩ member transaction awaits
    obtain ⟨next, rfl⟩ := Prog.await_of_head awaits
    obtain ⟨index, found⟩ := List.getElem?_of_mem member
    obtain ⟨_, may⟩ := (billingDiscipline env razorpay).may_next initial run found
    exact may
  · obtain ⟨_, _, holds⟩ := (billingDiscipline env razorpay).holds initial run
    exact holds

/-! ### Another user's payment -/

/-- An order of the first user for 500 rupees, and its payment. -/
def sampleRazorpay : Razorpay where
  created orderId := if orderId = "order_1".toList then some (1, .finite 500) else none
  pays paymentId := if paymentId = samplePayment then some "order_1".toList else none

/-- A user presents the payment and is credited, then the webhook comes. -/
def presentedBy (userId : UserId) : List BackendMove :=
  [.start (.verifyPayment userId "order_1".toList samplePayment "order_1|pay_1".toList), .step 0 (.order 50000),
    .step 0 .proceed, .step 0 .proceed, .start (.webhook "captured".toList "captured".toList), .step 1 .proceed]

/-- **A user is credited with the payment of another**, for whom the order was created and who gets nothing: the
webhook finds the payment credited. -/
theorem credited_to_stranger : ∃ c, Reaches (backend paymentEnv)
    (fun c move => sampleRazorpay.honest paymentEnv c move = true) ⟨noMatches, []⟩ c ∧
      sampleRazorpay.due samplePayment = some (1, 500) ∧ c.threads.all (fun thread => thread.2.head.isNone) = true ∧
      (c.state.db.wallets 1).map (·.balance) = some 100 ∧ (c.state.db.wallets 2).map (·.balance) = some 600 := by
  obtain ⟨c, run, ended⟩ := Machine.exists_run (backend paymentEnv) (sampleRazorpay.honest paymentEnv)
    ⟨noMatches, []⟩ (presentedBy 2) (fun c => c.threads.all (fun thread => thread.2.head.isNone) = true ∧
      (c.state.db.wallets 1).map (·.balance) = some 100 ∧ (c.state.db.wallets 2).map (·.balance) = some 600)
    (by decide +kernel)
  exact ⟨c, run, by decide +kernel, of_decide_eq_true ended⟩

/-- The first user presents the payment. -/
theorem credited_to_owner_first : ∃ c, Reaches (backend paymentEnv)
    (fun c move => sampleRazorpay.honest paymentEnv c move = true ∧ sampleRazorpay.byOwner paymentEnv move = true)
      ⟨noMatches, []⟩ c ∧
    c.state.db.credits samplePayment = 1 ∧ Billed paymentEnv sampleRazorpay c.state.db.ledger := by
  obtain ⟨c, run, ended⟩ := Machine.exists_run (backend paymentEnv)
    (fun c move => sampleRazorpay.honest paymentEnv c move && sampleRazorpay.byOwner paymentEnv move)
    ⟨noMatches, []⟩ (presentedBy 1) (fun c => c.state.db.credits samplePayment = 1) (by decide +kernel)
  have both := run.mono fun _ _ allowed => Bool.and_eq_true_iff.mp allowed
  have start : Billed paymentEnv sampleRazorpay noMatches.db.ledger := List.forall_mem_nil _
  exact ⟨c, both, of_decide_eq_true ended, (credited_to_owner paymentEnv sampleRazorpay rfl start both).2⟩

end SkillArena
