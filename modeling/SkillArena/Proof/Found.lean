/-
**What the already-credited checks find.**

Both crediting paths look for a payment with `description LIKE '%<payment id>%'`, where the `_` of a Razorpay
identifier stands for any character. The identifiers are `pay_` or `order_` and fourteen letters or digits, and what
the code writes around them has no such run, so a description of a credit is found exactly if it names the payment.
The only text of a client in a description is the UPI id of a withdrawal: a withdrawal to a UPI id that contains the
identifier of a payment is found by the check of the webhook, which looks at rows of every type, and the payment is
dropped (`withdrawal_hides_payment`).

* `like_description_iff` — which descriptions are found.
* `checks_find_credited` — over every history without such a withdrawal both checks find a row exactly if the
  payment was credited, and an uncredited payment of a user with a wallet is credited by either path.
-/

import SkillArena.Async.Blind
import SkillArena.Model.Withdraw
import SkillArena.Proof.Payment

namespace SkillArena

open Async
open Sql (like Fits fits_cons_iff fits_iff like_contains_iff)

/-! ### Identifiers -/

/-- Fourteen letters or digits. -/
def idTail (text : Text) : Bool := text.length = 14 && text.all Char.isAlphanum

/-- **A Razorpay identifier** of a kind: `pay_` or `order_`, and fourteen letters or digits. -/
def isId (kind text : Text) : Bool := kind.isPrefixOf text && idTail (text.drop kind.length)

theorem isId_iff {kind text : Text} : isId kind text = true ↔ ∃ tail, text = kind ++ tail ∧ idTail tail = true := by
  unfold isId
  rw [Bool.and_eq_true, List.isPrefixOf_iff_prefix]
  constructor
  · rintro ⟨⟨tail, rfl⟩, good⟩
    exact ⟨tail, rfl, by rwa [List.drop_left] at good⟩
  · rintro ⟨tail, rfl, good⟩
    exact ⟨List.prefix_append _ _, by rwa [List.drop_left]⟩

section Windows

variable {x c : Char} {tail text before after : Text}

theorem length_of_idTail (good : idTail tail = true) : tail.length = 14 :=
  of_decide_eq_true (Bool.and_eq_true_iff.mp good).1

theorem alphanum_of_idTail (good : idTail tail = true) (member : c ∈ tail) : c.isAlphanum = true :=
  List.all_eq_true.mp (Bool.and_eq_true_iff.mp good).2 c member

/-- What the pattern of a payment fits: any character may stand for the `_`. -/
def window (x : Char) (tail : Text) : Text := 'p' :: 'a' :: 'y' :: x :: tail

theorem fits_payment (good : idTail tail = true) {part : Text} :
    Fits ("pay_".toList ++ tail) part ↔ ∃ x, part = window x tail := by
  have plain : '_' ∉ tail := fun member => nomatch alphanum_of_idTail good member
  show Fits ('p' :: 'a' :: 'y' :: '_' :: tail) part ↔ _
  simp only [fits_cons_iff, fits_iff plain]
  constructor
  · rintro ⟨p, _, first, ⟨a, _, second, ⟨y, _, third, ⟨x, _, _, rfl, rfl⟩, rfl⟩, rfl⟩, rfl⟩
    obtain rfl := first.resolve_left (by decide)
    obtain rfl := second.resolve_left (by decide)
    obtain rfl := third.resolve_left (by decide)
    exact ⟨x, rfl⟩
  · rintro ⟨x, rfl⟩
    exact ⟨_, _, .inr rfl, ⟨_, _, .inr rfl, ⟨_, _, .inr rfl, ⟨x, _, .inl trivial, rfl, rfl⟩, rfl⟩, rfl⟩, rfl⟩

theorem not_mem_payment (good : idTail tail = true) (other : c ∉ "pay_".toList) (apart : c.isAlphanum = false) :
    c ∉ "pay_".toList ++ tail := by
  intro member
  rcases List.mem_append.mp member with kind | inTail
  · exact other kind
  · rw [alphanum_of_idTail good inTail] at apart
    cases apart

/-- **What the pattern of a payment finds.** -/
theorem like_payment_iff (good : idTail tail = true) :
    like (containing ("pay_".toList ++ tail)) text = true ↔ ∃ x, window x tail <:+: text := by
  have percent : '%' ∉ "pay_".toList ++ tail := not_mem_payment good (by decide) rfl
  have escape : '\\' ∉ "pay_".toList ++ tail := not_mem_payment good (by decide) rfl
  refine (like_contains_iff percent escape).trans ⟨?_, ?_⟩
  · rintro ⟨part, inside, fits⟩
    obtain ⟨x, rfl⟩ := (fits_payment good).mp fits
    exact ⟨x, inside⟩
  · rintro ⟨x, inside⟩
    exact ⟨_, inside, (fits_payment good).mpr ⟨x, rfl⟩⟩

/-- **A separator cuts a window** only where the `_` is. -/
theorem window_cut (good : idTail tail = true) (apart : c.isAlphanum = false)
    (inside : window x tail <:+: before ++ c :: after) :
    window x tail <:+: before ∨ window x tail <:+: after ∨ "pay".toList <:+ before ∧ tail <+: after := by
  have other : ∀ {d : Char}, d.isAlphanum = true → d ≠ c := by
    rintro d letter rfl
    rw [letter] at apart
    cases apart
  rcases List.infix_append_iff.mp inside with left | right | ⟨first, last, same, ends, starts⟩
  · exact .inl left
  · rcases List.infix_cons_iff.mp right with start | later
    · exact absurd (List.cons_prefix_cons.mp start).1 (other rfl)
    · exact .inr (.inl later)
  · cases last with
    | nil =>
      rw [List.append_nil] at same
      exact .inl (same ▸ ends.isInfix)
    | cons d last =>
      obtain ⟨rfl, goesOn⟩ := List.cons_prefix_cons.mp starts
      -- the separator is one of the characters of the window
      rcases first with _ | ⟨p, _ | ⟨a, _ | ⟨y, _ | ⟨x', first⟩⟩⟩⟩
      · exact absurd (List.cons.inj same).1 (other rfl)
      · exact absurd (List.cons.inj (List.cons.inj same).2).1 (other rfl)
      · exact absurd (List.cons.inj (List.cons.inj (List.cons.inj same).2).2).1 (other rfl)
      · obtain ⟨rfl, rfl, rfl, rfl, rfl⟩ : 'p' = p ∧ 'a' = a ∧ 'y' = y ∧ x = d ∧ tail = last := by
          simpa [window] using same
        exact .inr (.inr ⟨ends, goesOn⟩)
      · have cut : tail = first ++ d :: last := by
          have parts : 'p' = p ∧ 'a' = a ∧ 'y' = y ∧ x = x' ∧ tail = first ++ d :: last := by
            simpa [window] using same
          exact parts.2.2.2.2
        have member : d ∈ tail := cut ▸ List.mem_append_right _ (List.mem_cons_self ..)
        exact absurd rfl (other (alphanum_of_idTail good member))

/-- A text that no window is in, whatever the payment. -/
def clean (text : Text) : Bool :=
  text.tails.all fun suffix => !("pay".toList.isPrefixOf suffix && idTail ((suffix.drop 4).take 14))

theorem not_window_of_clean (spotless : clean text = true) (good : idTail tail = true) :
    ¬ window x tail <:+: text := by
  rintro ⟨before, after, rfl⟩
  have inside : window x tail ++ after ∈ (before ++ window x tail ++ after).tails := by
    rw [List.mem_tails, List.append_assoc]
    exact List.suffix_append _ _
  have tails : ((window x tail ++ after).drop 4).take 14 = tail := by
    show (tail ++ after).take 14 = tail
    rw [← length_of_idTail good, List.take_left]
  have spotted := List.all_eq_true.mp spotless _ inside
  rw [tails, good] at spotted
  cases spotted

theorem not_window_of_length (short : text.length < 18) (good : idTail tail = true) :
    ¬ window x tail <:+: text := by
  intro inside
  have bound := inside.length_le
  have length := length_of_idTail good
  simp only [window, List.length_cons] at bound
  omega

end Windows

/-! ### Descriptions -/

section Descriptions

variable {x : Char} {tail : Text}

theorem not_window_order (good : idTail tail = true) {order : Text} (genuine : isId "order_".toList order = true) :
    ¬ window x tail <:+: order := by
  obtain ⟨orderTail, rfl, ofOrder⟩ := isId_iff.mp genuine
  intro inside
  have inside : window x tail <:+: "order".toList ++ '_' :: orderTail := inside
  rcases window_cut good rfl inside with left | right | ⟨ends, _⟩
  · exact not_window_of_clean (by decide) good left
  · exact not_window_of_length (by rw [length_of_idTail ofOrder]; decide) good right
  · exact absurd ends (by decide)

theorem window_payment (good : idTail tail = true) {payment : Text} (genuine : isId "pay_".toList payment = true)
    (inside : window x tail <:+: payment) : payment = "pay_".toList ++ tail := by
  obtain ⟨own, rfl, ofPayment⟩ := isId_iff.mp genuine
  have same : window x tail = "pay_".toList ++ own := by
    refine inside.eq_of_length ?_
    simp [window, length_of_idTail good, length_of_idTail ofPayment]
  obtain ⟨rfl, rfl⟩ : x = '_' ∧ tail = own := by simpa [window] using same
  rfl

theorem window_named (good : idTail tail = true) {payment before : Text} (spotless : clean before = true)
    (apart : ¬ "pay".toList <:+ before) (genuine : isId "pay_".toList payment = true)
    (inside : window x tail <:+: before ++ ':' :: payment) : payment = "pay_".toList ++ tail := by
  rcases window_cut good rfl inside with left | right | ⟨ends, _⟩
  · exact absurd left (not_window_of_clean spotless good)
  · exact window_payment good genuine right
  · exact absurd ends apart

/-- A separator of two characters cuts no window. -/
theorem not_prefix_bar (good : idTail tail = true) (after : Text) : ¬ tail <+: '|' :: after := by
  intro starts
  cases tail with
  | nil => cases good
  | cons c tail =>
    have letter := alphanum_of_idTail good (List.mem_cons_self ..)
    rw [(List.cons_prefix_cons.mp starts).1] at letter
    cases letter

/-! The texts, cut at the separators next to what is put in. -/

theorem text_webhook (payment : Text) :
    (Description.webhookDeposit payment).text = "Webhook deposit | payment".toList ++ ':' :: payment := by
  have label : "Webhook deposit | payment:".toList = "Webhook deposit | payment".toList ++ [':'] := by
    decide +kernel
  show "Webhook deposit | payment:".toList ++ payment = _
  rw [label, List.append_assoc, List.singleton_append]

theorem text_razorpay (order payment : Text) : (Description.razorpayDeposit order payment).text =
    "Razorpay deposit | order".toList ++ ':' :: (order ++ ' ' :: ("| payment".toList ++ ':' :: payment)) := by
  have first : "Razorpay deposit | order:".toList = "Razorpay deposit | order".toList ++ [':'] := by
    decide +kernel
  have second : " | payment:".toList = ' ' :: ("| payment".toList ++ [':']) := by decide +kernel
  show "Razorpay deposit | order:".toList ++ order ++ " | payment:".toList ++ payment = _
  rw [first, second]
  simp only [List.append_assoc, List.cons_append, List.nil_append]

theorem text_withdrawal (upiId : Text) (ref : ℕ) : (Description.withdrawalTo upiId ref).text =
    "Withdrawal to UPI:".toList ++ ' ' :: (upiId ++ ' ' :: ("| ref:".toList ++ ' ' :: (toString ref).toList)) := by
  have first : "Withdrawal to UPI: ".toList = "Withdrawal to UPI:".toList ++ [' '] := by decide +kernel
  have second : " | ref: ".toList = ' ' :: ("| ref:".toList ++ [' ']) := by decide +kernel
  show "Withdrawal to UPI: ".toList ++ upiId ++ " | ref: ".toList ++ (toString ref).toList = _
  rw [first, second]
  simp only [List.append_assoc, List.cons_append, List.nil_append]

/-- A number has no window. -/
theorem not_window_digits (ref : ℕ) : ¬ window x tail <:+: (toString ref).toList := by
  intro inside
  have digits : (toString ref).toList = Nat.toDigits 10 ref := Nat.toList_repr
  have first : 'p' ∈ Nat.toDigits 10 ref := digits ▸ inside.subset (List.mem_cons_self ..)
  exact absurd (Nat.isDigit_of_mem_toDigits (by decide) (by decide) first) (by decide)

/-- The identifiers in a description are genuine. -/
def Description.genuine : Description → Bool
  | razorpayDeposit order payment => isId "order_".toList order && isId "pay_".toList payment
  | webhookDeposit payment => isId "pay_".toList payment
  | _ => true

/-- The description is of a withdrawal to a UPI id that is found by the pattern of a payment. -/
def Description.bears (paymentId : Text) : Description → Bool
  | withdrawalTo upiId _ => like (containing paymentId) upiId
  | _ => false

/-- **Which descriptions the pattern of a payment finds**: those that name it, and withdrawals to a UPI id that
bears it. -/
theorem like_description_iff {paymentId : Text} (isPayment : isId "pay_".toList paymentId = true)
    {description : Description} (genuine : description.genuine = true) :
    like (containing paymentId) description.text = true ↔
      description.names paymentId = true ∨ description.bears paymentId = true := by
  obtain ⟨tail, rfl, good⟩ := isId_iff.mp isPayment
  constructor
  · intro found
    obtain ⟨x, inside⟩ := (like_payment_iff good).mp found
    cases description with
    | razorpayDeposit order payment =>
      obtain ⟨isOrder, isPayment⟩ := Bool.and_eq_true_iff.mp genuine
      rw [text_razorpay] at inside
      rcases window_cut good rfl inside with left | right | ⟨ends, _⟩
      · exact absurd left (not_window_of_clean (by decide +kernel) good)
      · rcases window_cut good rfl right with inOrder | named | ⟨_, starts⟩
        · exact absurd inOrder (not_window_order good isOrder)
        · exact .inl (decide_eq_true (window_named good (by decide +kernel) (by decide) isPayment named))
        · exact absurd starts (not_prefix_bar good _)
      · exact absurd ends (by decide)
    | webhookDeposit payment =>
      rw [text_webhook] at inside
      exact .inl (decide_eq_true (window_named good (by decide +kernel) (by decide) genuine inside))
    | withdrawalTo upiId ref =>
      rw [text_withdrawal] at inside
      rcases window_cut good rfl inside with left | right | ⟨ends, _⟩
      · exact absurd left (not_window_of_clean (by decide +kernel) good)
      · rcases window_cut good rfl right with inUpi | later | ⟨_, starts⟩
        · exact .inr ((like_payment_iff good).mpr ⟨x, inUpi⟩)
        · rcases window_cut good rfl later with label | digits | ⟨ends, _⟩
          · exact absurd label (not_window_of_clean (by decide +kernel) good)
          · exact absurd digits (not_window_digits ref)
          · exact absurd ends (by decide)
        · exact absurd starts (not_prefix_bar good _)
      · exact absurd ends (by decide)
    | walletTopUp => exact absurd inside (not_window_of_clean (by decide +kernel) good)
    | entryFeeLocked => exact absurd inside (not_window_of_clean (by decide +kernel) good)
    | matchWinnings => exact absurd inside (not_window_of_clean (by decide +kernel) good)
    | matchLost => exact absurd inside (not_window_of_clean (by decide +kernel) good)
    | matchCancelled => exact absurd inside (not_window_of_clean (by decide +kernel) good)
  · rintro (names | bears)
    · exact like_containing (not_mem_payment good (by decide) rfl) names
    · cases description with
      | withdrawalTo upiId ref =>
        obtain ⟨x, inside⟩ := (like_payment_iff good).mp bears
        refine (like_payment_iff good).mpr ⟨x, inside.trans ?_⟩
        exact ⟨"Withdrawal to UPI: ".toList, " | ref: ".toList ++ (toString ref).toList,
          (List.append_assoc _ _ _).symm⟩
      | _ => cases bears

end Descriptions

/-! ### Histories -/

/-- The database after transactions, one after the other; one that fails leaves it as it was. -/
def Db.after (env : Env) (db : Db) (history : List Transaction) : Db :=
  history.foldl (fun db transaction => (transaction.run env db).2) db

theorem rows_after (env : Env) {P : Posting → Prop} {history : List Transaction} {db : Db}
    (old : ∀ row ∈ db.ledger, P row.posting)
    (new : ∀ transaction ∈ history, ∀ db, ∀ posting ∈ transaction.postings env db, P posting) :
    ∀ row ∈ (db.after env history).ledger, P row.posting := by
  induction history generalizing db with
  | nil => exact old
  | cons transaction history ih =>
    rw [List.forall_mem_cons] at new
    have between : ∀ row ∈ (transaction.run env db).2.ledger, P row.posting := by
      rcases run_cases env transaction db with ⟨reply, db', ran⟩ | ⟨err, ran⟩
      · rw [ran]
        obtain ⟨rows, posted, ledger⟩ := run_ledger ran
        show ∀ row ∈ db'.ledger, P row.posting
        rw [ledger, List.forall_mem_append]
        exact ⟨old, fun row member => new.1 db row.posting (posted ▸ List.mem_map_of_mem member)⟩
      · rw [ran]
        exact old
    exact ih between new.2

/-- The identifiers a transaction writes are genuine. -/
def Transaction.genuine : Transaction → Bool
  | creditVerified _ order payment _ => isId "order_".toList order && isId "pay_".toList payment
  | creditWebhook _ payment _ => isId "pay_".toList payment
  | _ => true

/-- The transaction is a withdrawal to a UPI id that is found by the pattern of a payment. -/
def Transaction.bears (paymentId : Text) : Transaction → Bool
  | withdraw _ _ upiId => like (containing paymentId) upiId
  | _ => false

/-- What a row of a history says of a payment. -/
structure Plain (paymentId : Text) (posting : Posting) : Prop where
  genuine : posting.description.genuine = true
  spared : posting.description.bears paymentId = false
  credit : posting.description.names paymentId = true → posting.type = .deposit

theorem postings_plain {env : Env} {db : Db} {transaction : Transaction} {paymentId : Text}
    (genuine : transaction.genuine = true) (spared : transaction.bears paymentId = false) :
    ∀ posting ∈ transaction.postings env db, Plain paymentId posting := by
  cases transaction with
  | creditWebhook user payment amount =>
    simp only [Transaction.postings]
    split
    · exact List.forall_mem_singleton.mpr ⟨genuine, rfl, fun _ => rfl⟩
    · exact List.forall_mem_nil _
  | creditVerified => exact List.forall_mem_singleton.mpr ⟨genuine, rfl, fun _ => rfl⟩
  | withdraw => exact List.forall_mem_singleton.mpr ⟨rfl, spared, by rintro ⟨⟩⟩
  | deposit => exact List.forall_mem_singleton.mpr ⟨rfl, rfl, by rintro ⟨⟩⟩
  | createMatch | releaseEscrowToWinner | refundBothPlayers =>
    intro posting member
    rcases List.mem_pair.mp member with rfl | rfl
    · exact ⟨rfl, rfl, by rintro ⟨⟩⟩
    · exact ⟨rfl, rfl, by rintro ⟨⟩⟩

section Checks

variable {db : Db} {paymentId : Text}

/-- A row is found by the pattern of a payment exactly if it is a credit of it. -/
theorem like_row_iff (isPayment : isId "pay_".toList paymentId = true) {row : LedgerRow}
    (plain : Plain paymentId row.posting) : like (containing paymentId) row.description.text = true ↔
      row.type = .deposit ∧ row.description.names paymentId = true := by
  have found : like (containing paymentId) row.description.text = true ↔
      row.description.names paymentId = true ∨ row.description.bears paymentId = true :=
    like_description_iff isPayment plain.genuine
  have spared : row.description.bears paymentId = false := plain.spared
  rw [found, spared, or_iff_left (by decide)]
  exact ⟨fun names => ⟨plain.credit names, names⟩, And.right⟩

/-- **The check of `verifyAndCreditWallet`.** -/
theorem depositsLike_eq (isPayment : isId "pay_".toList paymentId = true)
    (plain : ∀ row ∈ db.ledger, Plain paymentId row.posting) :
    ∃ rows, (Query.depositsLike (containing paymentId)).exec 0 db = .ok (rows, db) ∧
      rows = db.credits paymentId := by
  refine ⟨_, rfl, ?_⟩
  rw [← List.countP_eq_length_filter]
  refine List.countP_congr fun row member => ?_
  have found := like_row_iff isPayment (plain row member)
  simp only [Bool.and_eq_true, beq_iff_eq, decide_eq_true_eq, found]
  tauto

/-- **The check of `handleWebhook`.** -/
theorem transactionsLike_eq (isPayment : isId "pay_".toList paymentId = true)
    (plain : ∀ row ∈ db.ledger, Plain paymentId row.posting) :
    ∃ rows, (Query.transactionsLike (containing paymentId)).exec 0 db = .ok (rows, db) ∧
      rows = db.credits paymentId := by
  refine ⟨_, rfl, ?_⟩
  rw [← List.countP_eq_length_filter]
  refine List.countP_congr fun row member => ?_
  simp only [like_row_iff isPayment (plain row member), decide_eq_true_eq]

end Checks

/-! ### Credits -/

section Credits

variable {env : Env} {world : World} {user : UserId} {paymentId orderId body signature : Text} {amount : ℚ}

theorem credits_after {transaction : Transaction} {reply : transaction.Reply} {db db' : Db}
    (ran : transaction.run env db = (.ok reply, db'))
    (posts : (transaction.postings env db).countP
      (fun posting => posting.type = .deposit ∧ posting.description.names paymentId) = 1) :
    db'.credits paymentId = db.credits paymentId + 1 := by
  have counted := run_countP ran fun posting => posting.type = .deposit ∧ posting.description.names paymentId
  rw [posts] at counted
  exact counted

theorem credit_exists (env : Env) (W : Wallet) (nonneg : 0 ≤ amount) :
    ∃ W', W.update env.numeric (creditSet W (amount / 100)) = .ok W' := by
  have rupees : 0 ≤ amount / 100 := div_nonneg nonneg (by norm_num)
  refine update_exists ?_ nofun
  rintro _ ⟨⟩
  exact add_nonneg W.positive_balance rupees

/-- **A webhook that finds no row of its payment credits it.** -/
theorem webhook_credits (signed : env.hmacSha256 env.razorpayWebhookSecret body = signature)
    (parsed : env.parseWebhook body = .ok ⟨true, paymentId, some user, amount⟩)
    (unseen : (Query.transactionsLike (containing paymentId)).exec 0 world.db = .ok (0, world.db))
    {W : Wallet} (found : world.db.wallets user = some W) (nonneg : 0 ≤ amount) :
    ∃ c, (backend env).replay ⟨world, []⟩
        [.start (.webhook body signature), .step 0 .proceed, .step 0 .proceed] = some c ∧
      c.state.db.credits paymentId = world.db.credits paymentId + 1 := by
  obtain ⟨W', stored⟩ := credit_exists env W nonneg
  obtain ⟨db', ran⟩ : ∃ db', (Transaction.creditWebhook user paymentId (amount / 100)).run env world.db =
      (.ok (), db') := ⟨_, creditWebhook_ok.mpr (.inr ⟨W, W', found, stored, rfl⟩)⟩
  obtain ⟨next, last, looks, credits⟩ : ∃ next last, (handleWebhook env body signature).run =
      .await (.query (.transactionsLike (containing paymentId))) next ∧
      next (.ok 0) = .await (.transact (.creditWebhook user paymentId (amount / 100))) last := by
    simp only [handleWebhook, signed, parsed, ne_eq, not_true_eq_false, if_false, if_true]
    exact ⟨_, _, rfl, rfl⟩
  have looked : (Op.query (.transactionsLike (containing paymentId))).perform env .proceed world =
      some (.ok 0, world) := by
    simp only [Op.perform, Op.proceed, unseen]
    rfl
  have credited : (Op.transact (.creditWebhook user paymentId (amount / 100))).perform env .proceed world =
      some (.ok (), world.withDb db') := by
    simp only [Op.perform, Op.proceed, ran]
    rfl
  refine ⟨⟨world.withDb db', [(.webhook body signature, last (.ok ()))]⟩, ?_, ?_⟩
  · rw [Machine.replay_start rfl]
    show (backend env).replay ⟨world, [(_, (handleWebhook env body signature).run)]⟩ _ = _
    rw [looks, Machine.replay_step looked rfl, credits, Machine.replay_step credited rfl]
    rfl
  · exact credits_after ran (by simp [Transaction.postings, found, Description.names])

/-- **A request that finds no credit of its payment credits it.** -/
theorem verify_credits (signed : env.hmacSha256 env.razorpayKeySecret (orderId ++ ['|'] ++ paymentId) = signature)
    (given : ¬ (orderId = [] ∨ paymentId = [] ∨ signature = []))
    (unseen : (Query.depositsLike (containing paymentId)).exec 0 world.db = .ok (0, world.db))
    {W : Wallet} (found : world.db.wallets user = some W) (nonneg : 0 ≤ amount) :
    ∃ c, (backend env).replay ⟨world, []⟩ [.start (.verifyPayment user orderId paymentId signature),
        .step 0 (.order amount), .step 0 .proceed, .step 0 .proceed] = some c ∧
      c.state.db.credits paymentId = world.db.credits paymentId + 1 := by
  obtain ⟨W', stored⟩ := credit_exists env W nonneg
  obtain ⟨balance, db', ran⟩ : ∃ balance db',
      (Transaction.creditVerified user orderId paymentId (amount / 100)).run env world.db = (.ok balance, db') :=
    ⟨_, _, creditVerified_ok.mpr ⟨W, W', found, stored, rfl, rfl⟩⟩
  obtain ⟨next, middle, last, fetches, looks, credits⟩ : ∃ next middle last,
      (verifyPayment env user orderId paymentId signature).run = .await (.fetchOrder orderId) next ∧
      next (.ok amount) = .await (.query (.depositsLike (containing paymentId))) middle ∧
      middle (.ok 0) = .await (.transact (.creditVerified user orderId paymentId (amount / 100))) last := by
    simp only [verifyPayment, verifyAndCreditWallet, given, signed, ne_eq, not_true_eq_false, if_false]
    exact ⟨_, _, _, rfl, rfl, rfl⟩
  have looked : (Op.query (.depositsLike (containing paymentId))).perform env .proceed world =
      some (.ok 0, world) := by
    simp only [Op.perform, Op.proceed, unseen]
    rfl
  have credited : (Op.transact (.creditVerified user orderId paymentId (amount / 100))).perform env .proceed world =
      some (.ok balance, world.withDb db') := by
    simp only [Op.perform, Op.proceed, ran]
    rfl
  have fetched : (Op.fetchOrder orderId).perform env (.order amount) world = some (.ok amount, world) := rfl
  refine ⟨⟨world.withDb db', [(.verifyPayment user orderId paymentId signature, last (.ok balance))]⟩, ?_, ?_⟩
  · rw [Machine.replay_start rfl]
    show (backend env).replay ⟨world, [(_, (verifyPayment env user orderId paymentId signature).run)]⟩ _ = _
    rw [fetches, Machine.replay_step fetched rfl, looks, Machine.replay_step looked rfl, credits,
      Machine.replay_step credited rfl]
    rfl
  · exact credits_after ran (by simp [Transaction.postings, Description.names])

end Credits

/-- **The checks find a row exactly if the payment was credited**, over every history in which no withdrawal goes to
a UPI id that bears the identifier of the payment; and a payment that was never credited is credited by the webhook
and by a request, if there is a wallet. -/
theorem checks_find_credited (env : Env) {start : Db} (fresh : start.ledger = []) {history : List Transaction}
    (genuine : ∀ transaction ∈ history, transaction.genuine = true) {paymentId : Text}
    (isPayment : isId "pay_".toList paymentId = true)
    (spared : ∀ transaction ∈ history, transaction.bears paymentId = false) {world : World}
    (here : world.db = start.after env history) :
    (∃ rows, (Query.depositsLike (containing paymentId)).exec 0 world.db = .ok (rows, world.db) ∧
      (0 < rows ↔ 0 < world.db.credits paymentId)) ∧
    (∃ rows, (Query.transactionsLike (containing paymentId)).exec 0 world.db = .ok (rows, world.db) ∧
      (0 < rows ↔ 0 < world.db.credits paymentId)) ∧
    (world.db.credits paymentId = 0 → ∀ user W amount, world.db.wallets user = some W → 0 ≤ amount →
      (∀ body signature, env.hmacSha256 env.razorpayWebhookSecret body = signature →
        env.parseWebhook body = .ok ⟨true, paymentId, some user, amount⟩ →
        ∃ c, (backend env).replay ⟨world, []⟩
            [.start (.webhook body signature), .step 0 .proceed, .step 0 .proceed] = some c ∧
          c.state.db.credits paymentId = 1) ∧
      (∀ orderId signature, env.hmacSha256 env.razorpayKeySecret (orderId ++ ['|'] ++ paymentId) = signature →
        orderId ≠ [] → signature ≠ [] →
        ∃ c, (backend env).replay ⟨world, []⟩ [.start (.verifyPayment user orderId paymentId signature),
            .step 0 (.order amount), .step 0 .proceed, .step 0 .proceed] = some c ∧
          c.state.db.credits paymentId = 1)) := by
  have none_ : ∀ row ∈ start.ledger, Plain paymentId row.posting := by
    rw [fresh]
    exact List.forall_mem_nil _
  have plain : ∀ row ∈ world.db.ledger, Plain paymentId row.posting := by
    rw [here]
    exact rows_after env none_ fun transaction member db =>
      postings_plain (genuine transaction member) (spared transaction member)
  obtain ⟨deposits, seenByRequest, rfl⟩ := depositsLike_eq isPayment plain
  obtain ⟨rows, seenByWebhook, same⟩ := transactionsLike_eq isPayment plain
  refine ⟨⟨_, seenByRequest, Iff.rfl⟩, ⟨_, seenByWebhook, by rw [same]⟩,
    fun uncredited user W amount found nonneg => ⟨fun body signature signed parsed => ?_,
      fun orderId signature signed order given => ?_⟩⟩
  · rw [same, uncredited] at seenByWebhook
    obtain ⟨c, ran, credited⟩ := webhook_credits signed parsed seenByWebhook found nonneg
    exact ⟨c, ran, by rw [credited, uncredited]⟩
  · rw [uncredited] at seenByRequest
    have payment : paymentId ≠ [] := by
      rintro rfl
      cases isPayment
    obtain ⟨c, ran, credited⟩ := verify_credits signed (by simp [order, payment, given]) seenByRequest found nonneg
    exact ⟨c, ran, by rw [credited, uncredited]⟩

/-! ### A withdrawal to a payment -/

/-- A payment of 500 rupees by the first user, and a UPI id that bears its identifier. -/
def hiddenPayment : Text := "pay_29QQoUBi66xm2f".toList

def bearingUpi : Text := "pay_29QQoUBi66xm2f@upi".toList

/-- An environment in which every webhook body reports this payment. -/
def hiddenPaymentEnv : Env :=
  .standard (fun secret text => secret ++ text) fun _ => .ok ⟨true, hiddenPayment, some 1, 50000⟩

/-- The world after a withdrawal of the first user. -/
def withdrawnTo (upiId : Text) : World where
  now := 0
  db := twoPlayers.after hiddenPaymentEnv [.withdraw 1 50 upiId]

/-- **A withdrawal hides a payment from the webhook**: the route accepts the UPI id, the payment was never credited,
its user has a wallet, and the webhook ends without a credit. -/
theorem withdrawal_hides_payment : upiRegex bearingUpi = true ∧
    (withdrawnTo bearingUpi).db.credits hiddenPayment = 0 ∧ ((withdrawnTo bearingUpi).db.wallets 1).isSome = true ∧
    ∃ c, (backend hiddenPaymentEnv).replay ⟨withdrawnTo bearingUpi, []⟩
        [.start (.webhook "captured".toList "captured".toList), .step 0 .proceed] = some c ∧
      c.threads.all (fun thread => thread.2.head.isNone) = true ∧ c.state.db.credits hiddenPayment = 0 := by
  refine ⟨by decide +kernel, by decide +kernel, by decide +kernel, ?_⟩
  have ended : ((backend hiddenPaymentEnv).replay ⟨withdrawnTo bearingUpi, []⟩
      [.start (.webhook "captured".toList "captured".toList), .step 0 .proceed]).any
        (fun c => c.threads.all (fun thread => thread.2.head.isNone) ∧
          c.state.db.credits hiddenPayment = 0) = true := by
    decide +kernel
  obtain ⟨c, ran, checked⟩ := (Option.any_eq_true _ _).mp ended
  exact ⟨c, ran, of_decide_eq_true checked⟩

/-- After a withdrawal to another UPI id the webhook credits the payment. -/
theorem checks_find_credited_sample : ∃ c, (backend hiddenPaymentEnv).replay ⟨withdrawnTo "player@upi".toList, []⟩
    [.start (.webhook "captured".toList "captured".toList), .step 0 .proceed, .step 0 .proceed] = some c ∧
      c.state.db.credits hiddenPayment = 1 := by
  have wallet : ((withdrawnTo "player@upi".toList).db.wallets 1).isSome = true := by decide +kernel
  obtain ⟨W, found⟩ := Option.isSome_iff_exists.mp wallet
  have fresh : twoPlayers.ledger = [] := rfl
  have genuine : ∀ transaction ∈ [Transaction.withdraw 1 50 "player@upi".toList], transaction.genuine = true :=
    List.forall_mem_singleton.mpr rfl
  have isPayment : isId "pay_".toList hiddenPayment = true := by decide +kernel
  have spared : ∀ transaction ∈ [Transaction.withdraw 1 50 "player@upi".toList],
      transaction.bears hiddenPayment = false := List.forall_mem_singleton.mpr (by decide +kernel)
  have here : (withdrawnTo "player@upi".toList).db =
      twoPlayers.after hiddenPaymentEnv [.withdraw 1 50 "player@upi".toList] := rfl
  have checks := checks_find_credited hiddenPaymentEnv fresh genuine isPayment spared here
  exact (checks.2.2 (by decide +kernel) 1 W 50000 found (by norm_num)).1 _ _ rfl rfl

end SkillArena
