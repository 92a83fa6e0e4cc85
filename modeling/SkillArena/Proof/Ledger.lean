/-
**The ledger explains the wallets.**

`transactions` has a row for every movement of a balance, with the balance after it. Over any run of the
backend whose transactions have amounts in whole paise, starting from empty wallets, the balance of every
user is the signed sum of the user's rows, and every row records the running balance (`ledger_balances`).

The journal is general (`Journal.Audited`); each of the eight `INSERT`s is one posting (`Audit.post`), and the
row of a lost match is a posting of nothing, whose balance the database reads itself.
-/

import SkillArena.Store.Journal
import SkillArena.Proof.Effects
import SkillArena.Proof.Conservation
import SkillArena.Proof.Guard

namespace SkillArena

open Async
open Sql (Numeric)

/-- The sign with which a row counts. -/
def TxType.sign : TxType → ℚ
  | deposit | matchWinCredit | refund => 1
  | matchEntryDebit | withdrawal => -1
  | matchLossDebit => 0

/-- What a row says the balance has changed by. -/
def LedgerRow.signed (row : LedgerRow) : ℚ := row.type.sign * row.amount

/-- The amounts a transaction writes are values of their columns: whole paise. -/
def Transaction.whole (env : Env) : Transaction → Bool
  | deposit _ amount | creditVerified _ _ _ amount | creditWebhook _ _ amount | withdraw _ amount _ =>
    env.numeric.store amount = amount
  | createMatch _ _ _ _ fee | refundBothPlayers _ _ fee _ => env.numeric.store fee = fee
  | releaseEscrowToWinner _ _ fee _ =>
    env.numeric.store fee = fee && env.numeric.store (netPrizeOf env fee) = netPrizeOf env fee

/-- The balances of the wallets. -/
def Db.balances (db : Db) (user : UserId) : Option ℚ := (db.wallets user).map (·.balance)

theorem wallets_all {P : Wallet → Prop} {db db' : Db} {user : UserId} {W' : Wallet}
    (all : ∀ user W, db.wallets user = some W → P W) (new : P W')
    (wallets : db'.wallets = Function.update db.wallets user (some W')) :
    ∀ user W, db'.wallets user = some W → P W := by
  intro user' V there
  rw [wallets] at there
  by_cases here : user' = user
  · rw [here, Function.update_self] at there
    cases there
    exact new
  · rw [Function.update_of_ne here] at there
    exact all user' V there

/-- **The ledger explains the wallets**, whose balances are values of their column. -/
structure Audit (N : Numeric) (db : Db) : Prop where
  books : Journal.Audited LedgerRow.userId LedgerRow.signed LedgerRow.balanceAfter db.balances db.ledger
  whole : ∀ user W, db.wallets user = some W → N.store W.balance = W.balance

namespace Audit

variable {N : Numeric} {db db' : Db} {user : UserId} {W W' : Wallet} {row : LedgerRow}

/-- **One row, with the wallet it is about.** -/
theorem post (audit : Audit N db) (found : db.wallets user = some W)
    (wallets : db'.wallets = Function.update db.wallets user (some W')) (ledger : db'.ledger = db.ledger ++ [row])
    (owner : row.userId = user) (moved : W'.balance = W.balance + row.signed)
    (written : row.balanceAfter = W'.balance) (whole : N.store W'.balance = W'.balance) : Audit N db' := by
  subst owner
  have current : db.balances row.userId = some W.balance := by
    unfold Db.balances
    rw [found, Option.map_some]
  have posted := audit.books.post current (written.trans moved)
  have same : db'.balances = Function.update db.balances row.userId (some (W.balance + row.signed)) := by
    funext user'
    unfold Db.balances
    rw [wallets]
    by_cases here : user' = row.userId
    · rw [here, Function.update_self, Function.update_self, Option.map_some, moved]
    · rw [Function.update_of_ne here, Function.update_of_ne here]
  refine ⟨?_, wallets_all audit.whole whole wallets⟩
  rw [same, ledger]
  exact posted

theorem move {set : WalletSet} {amount : ℚ} (audit : Audit N db) (found : db.wallets user = some W)
    (stored : W.update N set = .ok W') (moves : set.balance = some (W.balance + amount))
    (paise : N.store amount = amount) (wallets : db'.wallets = Function.update db.wallets user (some W'))
    (ledger : db'.ledger = db.ledger ++ [row]) (owner : row.userId = user) (signed : row.signed = amount)
    (written : row.balanceAfter = N.store (W.balance + amount)) : Audit N db' := by
  have exact : N.store (W.balance + amount) = W.balance + amount :=
    N.store_add _ _ (audit.whole user W found) paise
  have balance : W'.balance = W.balance + amount := by
    rw [(update_ok.mp stored).1, moves, Option.map_some, Option.getD_some, exact]
  refine audit.post found wallets ledger owner ?_ ?_ ?_
  · rw [balance, signed]
  · rw [written, exact, balance]
  · rw [balance, exact]

theorem keep (audit : Audit N db) (found : db.wallets user = some W) (same : W'.balance = W.balance) :
    Audit N (db.setWallet user W') := by
  have balances : (db.setWallet user W').balances = db.balances := by
    funext user'
    show (Function.update db.wallets user (some W') user').map _ = (db.wallets user').map _
    by_cases here : user' = user
    · rw [here, Function.update_self, found, Option.map_some, Option.map_some, same]
    · rw [Function.update_of_ne here]
  refine ⟨?_, wallets_all audit.whole ?_ (setWallet_wallets _ _ _)⟩
  · rw [balances]
    exact audit.books
  · rw [same]
    exact audit.whole user W found

theorem note (audit : Audit N db) (found : db.wallets row.userId = some W) (nothing : row.signed = 0)
    (written : row.balanceAfter = W.balance) : Audit N (db.addRow row) := by
  refine audit.post found ?_ (addRow_ledger db row) rfl ?_ written (audit.whole _ W found)
  · rw [addRow_wallets, ← found, Function.update_eq_self]
  · rw [nothing, add_zero]

theorem congr (audit : Audit N db) (wallets : db'.wallets = db.wallets) (ledger : db'.ledger = db.ledger) :
    Audit N db' := by
  refine ⟨?_, ?_⟩
  · have same : db'.balances = db.balances := by
      funext user
      unfold Db.balances
      rw [wallets]
    rw [same, ledger]
    exact audit.books
  · rw [wallets]
    exact audit.whole

section Rows

variable {amount : ℚ} (audit : Audit N db) (found : db.wallets user = some W) (paise : N.store amount = amount)

include audit found paise

theorem credit {description : Description} (stored : W.update N (creditSet W amount) = .ok W') :
    Audit N ((db.setWallet user W').addRow (depositRow N user W amount description)) := by
  refine audit.move found stored rfl paise rfl rfl rfl ?_ rfl
  show 1 * N.store amount = amount
  rw [one_mul, paise]

theorem lock {matchId : MatchId} (stored : W.update N (lockSet W amount) = .ok W') :
    Audit N ((db.setWallet user W').addRow (lockRow N user W amount matchId)) := by
  have negative : N.store (-amount) = -amount := by rw [N.store_neg, paise]
  refine audit.move found stored ?_ negative rfl rfl rfl ?_ ?_
  · show some (W.balance - amount) = _
    rw [sub_eq_add_neg]
  · show -1 * N.store amount = -amount
    rw [paise, neg_one_mul]
  · show N.store (W.balance - amount) = _
    rw [sub_eq_add_neg]

theorem giveBack {matchId : MatchId} (stored : W.update N (refundSet W amount) = .ok W') :
    Audit N ((db.setWallet user W').addRow (refundRow N user W amount matchId)) := by
  refine audit.move found stored rfl paise rfl rfl rfl ?_ rfl
  show 1 * N.store amount = amount
  rw [one_mul, paise]

theorem payOut {upiId : Text} {withdrawal : Withdrawal} {ref : ℕ}
    (stored : W.update N { balance := some (W.balance - amount) } = .ok W') :
    Audit N (((db.setWallet user W').withWithdrawal withdrawal).addRow
      (withdrawalRow N user W amount upiId ref)) := by
  have negative : N.store (-amount) = -amount := by rw [N.store_neg, paise]
  refine audit.move found stored ?_ negative rfl rfl rfl ?_ ?_
  · show some (W.balance - amount) = _
    rw [sub_eq_add_neg]
  · show -1 * N.store amount = -amount
    rw [paise, neg_one_mul]
  · show N.store (W.balance - amount) = _
    rw [sub_eq_add_neg]

end Rows

theorem initial (zero : ∀ user W, db.wallets user = some W → W.balance = 0) (blank : db.ledger = []) :
    Audit N db := by
  refine ⟨?_, fun user W found => ?_⟩
  · rw [blank]
    refine Journal.Audited.empty fun user amount here => ?_
    obtain ⟨W, found, rfl⟩ := Option.map_eq_some_iff.mp here
    exact zero user W found
  · rw [zero user W found, Numeric.store_zero]

/-- **Every transaction that commits is explained by its rows.** -/
theorem run {env : Env} {transaction : Transaction} {reply : transaction.Reply}
    (audit : Audit env.numeric db) (whole : transaction.whole env = true)
    (ran : transaction.run env db = (.ok reply, db')) : Audit env.numeric db' := by
  cases transaction with
  | deposit owner amount =>
    obtain ⟨_, W, W', found, stored, _, rfl⟩ := deposit_ok.mp ran
    exact audit.credit found (of_decide_eq_true whole) stored
  | creditVerified owner order payment amount =>
    obtain ⟨W, W', found, stored, _, rfl⟩ := creditVerified_ok.mp ran
    exact audit.credit found (of_decide_eq_true whole) stored
  | creditWebhook owner payment amount =>
    rcases creditWebhook_ok.mp ran with ⟨_, rfl⟩ | ⟨W, W', found, stored, rfl⟩
    · exact audit
    · exact audit.credit found (of_decide_eq_true whole) stored
  | withdraw owner amount upiId =>
    obtain ⟨W, W', found, _, stored, _, rfl⟩ := withdraw_ok.mp ran
    exact audit.payOut found (of_decide_eq_true whole) stored
  | createMatch matchId playerA playerB problemId fee =>
    obtain ⟨_, A, A', B, B', foundA, _, storedA, foundB, _, storedB, rfl⟩ := createMatch_ok.mp ran
    have paise : env.numeric.store fee = fee := of_decide_eq_true whole
    have matched : Audit env.numeric (db.withMatch matchId (newMatchRow env playerA playerB problemId fee)) :=
      audit.congr rfl rfl
    exact (matched.lock foundA paise storedA).lock foundB paise storedB
  | refundBothPlayers playerA playerB fee matchId =>
    obtain ⟨A, A', B, B', foundA, storedA, foundB, storedB, rfl⟩ := refund_ok.mp ran
    have paise : env.numeric.store fee = fee := of_decide_eq_true whole
    exact (audit.giveBack foundA paise storedA).giveBack foundB paise storedB
  | releaseEscrowToWinner winner loser fee matchId =>
    obtain ⟨L, L', W, W', X, foundL, storedL, foundW, storedW, foundX, _, rfl⟩ := release_ok.mp ran
    obtain ⟨_, prize⟩ := Bool.and_eq_true_iff.mp whole
    have paise : env.numeric.store (netPrizeOf env fee) = netPrizeOf env fee := of_decide_eq_true prize
    have consumed : Audit env.numeric (db.setWallet loser L') := audit.keep foundL (update_ok.mp storedL).1
    have credited : Audit env.numeric (((db.setWallet loser L').setWallet winner W').addRow
        (winRow env winner W fee matchId)) := by
      refine consumed.move foundW storedW rfl paise rfl rfl rfl ?_ rfl
      show 1 * env.numeric.store (netPrizeOf env fee) = netPrizeOf env fee
      rw [one_mul, paise]
    refine credited.note foundX ?_ rfl
    exact zero_mul _

end Audit

/-! ### Every run -/

/-- Every transaction of a run has its amounts in whole paise. -/
def inPaise (env : Env) (c : BackendConfig) : BackendMove → Bool
  | .start _ => true
  | .step index _ => match (c.threads[index]?).bind (·.2.head) with
    | some (.transact transaction) => transaction.whole env
    | _ => true
  | .outside (.act _ (.transact transaction)) => transaction.whole env
  | .outside _ => true

/-- **What every transaction in whole paise keeps** of the wallets and the ledger holds along every such run. -/
theorem holds_inPaise (env : Env) {P : Db → Prop}
    (congr : ∀ {db db' : Db}, P db → db'.wallets = db.wallets → db'.ledger = db.ledger → P db')
    (commits : ∀ {db db' : Db} {transaction : Transaction} {reply : transaction.Reply}, P db →
      transaction.whole env = true → transaction.run env db = (.ok reply, db') → P db')
    {c₀ c : BackendConfig} (initial : P c₀.state.db)
    (run : Reaches (backend env) (fun c move => inPaise env c move = true) c₀ c) : P c.state.db := by
  have performs : ∀ {choice : Choice} {world world' : World} {op : Op} {reply : Except Err op.Reply}, P world.db →
      op.perform env choice world = some (reply, world') →
      (∀ transaction, op = .transact transaction → transaction.whole env = true) → P world'.db := by
    intro choice world world' op reply holds performed whole
    rcases money_frame performed with ⟨wallets, ledger⟩ | ⟨transaction, value, same, ran⟩
    · exact congr holds wallets ledger
    · exact commits holds (whole transaction same) ran
  refine Reaches.invariant (fun c => P c.state.db) initial (fun c move c' holds whole moved => ?_) run
  rcases Machine.move_cases moved with ⟨event, state, rfl, arrived, rfl⟩ |
    ⟨index, choice, event, op, next, reply, state, rfl, found, performed, rfl⟩ | ⟨act, state, rfl, acted, rfl⟩
  · have same : state.db = c.state.db := (arrive_frame arrived).2
    exact congr holds (congrArg Db.wallets same) (congrArg Db.ledger same)
  · refine performs holds performed fun transaction same => ?_
    subst same
    simpa [inPaise, found] using whole
  · cases act with
    | tick ms =>
      cases acted
      exact holds
    | act choice op =>
      obtain ⟨⟨reply, state'⟩, performed, rfl⟩ := Option.map_eq_some_iff.mp acted
      refine performs holds performed fun transaction same => ?_
      subst same
      exact whole

/-- **The ledger explains the wallets** along every run whose amounts are in whole paise: every balance is the
signed sum of the rows of its user, and every row records the running balance. -/
theorem ledger_balances (env : Env) {c₀ c : BackendConfig}
    (zero : ∀ user W, c₀.state.db.wallets user = some W → W.balance = 0) (blank : c₀.state.db.ledger = [])
    (run : Reaches (backend env) (fun c move => inPaise env c move = true) c₀ c) :
    (∀ user W, c.state.db.wallets user = some W →
      W.balance = ((c.state.db.ledger.filter (·.userId = user)).map LedgerRow.signed).sum) ∧
    ∀ before row after, c.state.db.ledger = before ++ row :: after →
      row.balanceAfter = (((before ++ [row]).filter (·.userId = row.userId)).map LedgerRow.signed).sum := by
  have audit : Audit env.numeric c.state.db := holds_inPaise env Audit.congr Audit.run (.initial zero blank) run
  refine ⟨fun user W found => audit.books.agree user W.balance ?_, audit.books.running⟩
  unfold Db.balances
  rw [found, Option.map_some]

/-- Committed transactions, as moves of the backend. -/
def committed (transactions : List Transaction) : List BackendMove :=
  transactions.map fun transaction => .outside (.act .proceed (.transact transaction))

theorem emptyWallets_zero (user : UserId) (W : Wallet) (found : emptyWallets.wallets user = some W) :
    W.balance = 0 := congrArg Wallet.balance (emptyWallets_found found)

theorem ledger_balances_two_matches : ∃ c, Reaches (backend sampleEnv)
    (fun c move => inPaise sampleEnv c move = true) ⟨{ now := 0, db := emptyWallets }, []⟩ c ∧
      c.state.db.ledger.length = 9 ∧ ∀ user W, c.state.db.wallets user = some W →
        W.balance = ((c.state.db.ledger.filter (·.userId = user)).map LedgerRow.signed).sum := by
  obtain ⟨c, run, rows⟩ := Machine.exists_run (backend sampleEnv) (inPaise sampleEnv)
    ⟨{ now := 0, db := emptyWallets }, []⟩ (committed twoMatchHistory)
    (fun c => c.state.db.ledger.length = 9) (by decide +kernel)
  exact ⟨c, run, of_decide_eq_true rows, (ledger_balances sampleEnv emptyWallets_zero rfl run).1⟩

end SkillArena
