/-
**The totals of a wallet.**

A wallet row has two counters beside its balances, `total_deposited` and `total_withdrawn`. The payout of a match
adds the prize to `total_deposited` but writes a `MATCH_WIN_CREDIT` row, and nothing ever writes `total_withdrawn`,
so the counters are not the sums of the `DEPOSIT` and `WITHDRAWAL` rows (`totals_drift`).

* `Tally` — what the counters are: the deposits and the prizes, and nothing.
* `totals_agree_iff` — along every run, the counters of a user are the sums of the user's deposits and withdrawals
  exactly if the user's prizes and withdrawals come to nothing.
-/

import SkillArena.Store.Journal
import SkillArena.Proof.Ledger

namespace SkillArena

open Async
open Sql (Numeric)

/-- The sum of the amounts of a user's rows of one type. -/
def Db.sumOf (db : Db) (user : UserId) (type : TxType) : ℚ :=
  ((db.ledger.filter fun row => row.userId = user && row.type = type).map LedgerRow.amount).sum

/-- What a row adds to `total_deposited`. -/
def LedgerRow.counted (row : LedgerRow) : ℚ :=
  match row.type with
  | .deposit | .matchWinCredit => row.amount
  | _ => 0

/-- The counters `total_deposited`. -/
def Db.deposited (db : Db) (user : UserId) : Option ℚ := (db.wallets user).map (·.totalDeposited)

/-- **What the counters are**: the deposits and the prizes in the one, nothing in the other. -/
structure Tally (N : Numeric) (db : Db) : Prop where
  counted : Journal.Agrees LedgerRow.userId LedgerRow.counted db.deposited db.ledger
  whole : ∀ user W, db.wallets user = some W → N.store W.totalDeposited = W.totalDeposited
  withdrawn : ∀ user W, db.wallets user = some W → W.totalWithdrawn = 0

namespace Tally

variable {N : Numeric} {db db' : Db} {user : UserId} {W W' : Wallet} {row : LedgerRow} {set : WalletSet}

theorem deposited_update (wallets : db'.wallets = Function.update db.wallets user (some W')) :
    db'.deposited = Function.update db.deposited user (some W'.totalDeposited) := by
  funext user'
  unfold Db.deposited
  rw [wallets]
  by_cases here : user' = user
  · rw [here, Function.update_self, Function.update_self, Option.map_some]
  · rw [Function.update_of_ne here, Function.update_of_ne here]

/-- **One row, with the wallet it is about.** -/
theorem post (tally : Tally N db) (found : db.wallets user = some W) (stored : W.update N set = .ok W')
    (wallets : db'.wallets = Function.update db.wallets user (some W')) (ledger : db'.ledger = db.ledger ++ [row])
    (owner : row.userId = user) (adds : row.counted = set.addDeposited.getD 0)
    (paise : N.store row.counted = row.counted) : Tally N db' := by
  subst owner
  have current : db.deposited row.userId = some W.totalDeposited := by
    unfold Db.deposited
    rw [found, Option.map_some]
  have total : W'.totalDeposited = W.totalDeposited + row.counted := by
    rw [(update_ok.mp stored).2.2.1]
    cases adding : set.addDeposited with
    | none =>
      rw [adding, Option.getD_none] at adds
      rw [adds, Option.map_none, Option.getD_none, add_zero]
    | some amount =>
      rw [adding, Option.getD_some] at adds
      rw [Option.map_some, Option.getD_some, ← adds]
      exact N.store_add _ _ (tally.whole _ W found) paise
  have exact : N.store (W.totalDeposited + row.counted) = W.totalDeposited + row.counted :=
    N.store_add _ _ (tally.whole _ W found) paise
  refine ⟨?_, wallets_all tally.whole ?_ wallets, wallets_all tally.withdrawn ?_ wallets⟩
  · rw [deposited_update wallets, ledger, total]
    exact tally.counted.post current
  · rw [total, exact]
  · rw [(update_ok.mp stored).2.2.2]
    exact tally.withdrawn _ W found

theorem keep (tally : Tally N db) (found : db.wallets user = some W) (stored : W.update N set = .ok W')
    (none : set.addDeposited = none) : Tally N (db.setWallet user W') := by
  have wallets := setWallet_wallets db user W'
  have total : W'.totalDeposited = W.totalDeposited := by
    rw [(update_ok.mp stored).2.2.1, none, Option.map_none, Option.getD_none]
  refine ⟨?_, wallets_all tally.whole ?_ wallets, wallets_all tally.withdrawn ?_ wallets⟩
  · have current : db.deposited user = some W.totalDeposited := by
      unfold Db.deposited
      rw [found, Option.map_some]
    rw [deposited_update wallets, total, ← current, Function.update_eq_self]
    exact tally.counted
  · rw [total]
    exact tally.whole user W found
  · rw [(update_ok.mp stored).2.2.2]
    exact tally.withdrawn user W found

theorem note (tally : Tally N db) (nothing : row.counted = 0) : Tally N (db.addRow row) := by
  refine ⟨fun user total here => ?_, tally.whole, tally.withdrawn⟩
  have before := tally.counted user total here
  by_cases owner : row.userId = user
  · subst owner
    rw [addRow_ledger, Journal.total_append_self, nothing, add_zero]
    exact before
  · rw [addRow_ledger, Journal.total_append_of_ne owner]
    exact before

theorem congr (tally : Tally N db) (wallets : db'.wallets = db.wallets) (ledger : db'.ledger = db.ledger) :
    Tally N db' := by
  have same : db'.deposited = db.deposited := by
    funext user
    unfold Db.deposited
    rw [wallets]
  refine ⟨?_, ?_, ?_⟩
  · rw [same, ledger]
    exact tally.counted
  · rw [wallets]
    exact tally.whole
  · rw [wallets]
    exact tally.withdrawn

section Rows

variable {amount : ℚ} (tally : Tally N db) (found : db.wallets user = some W)

include tally found

theorem credit {description : Description} (paise : N.store amount = amount)
    (stored : W.update N (creditSet W amount) = .ok W') :
    Tally N ((db.setWallet user W').addRow (depositRow N user W amount description)) :=
  tally.post found stored rfl rfl rfl paise (N.store_store amount)

theorem uncounted (stored : W.update N set = .ok W') (none : set.addDeposited = none)
    (wallets : db'.wallets = Function.update db.wallets user (some W')) (ledger : db'.ledger = db.ledger ++ [row])
    (owner : row.userId = user) (nothing : row.counted = 0) : Tally N db' := by
  refine tally.post found stored wallets ledger owner ?_ ?_
  · rw [nothing, none, Option.getD_none]
  · rw [nothing, N.store_zero]

end Rows

/-- **Every transaction that commits keeps the tally.** -/
theorem run {env : Env} {transaction : Transaction} {reply : transaction.Reply}
    (tally : Tally env.numeric db) (whole : transaction.whole env = true)
    (ran : transaction.run env db = (.ok reply, db')) : Tally env.numeric db' := by
  cases transaction with
  | deposit owner amount =>
    obtain ⟨_, W, W', found, stored, _, rfl⟩ := deposit_ok.mp ran
    exact tally.credit found (of_decide_eq_true whole) stored
  | creditVerified owner order payment amount =>
    obtain ⟨W, W', found, stored, _, rfl⟩ := creditVerified_ok.mp ran
    exact tally.credit found (of_decide_eq_true whole) stored
  | creditWebhook owner payment amount =>
    rcases creditWebhook_ok.mp ran with ⟨_, rfl⟩ | ⟨W, W', found, stored, rfl⟩
    · exact tally
    · exact tally.credit found (of_decide_eq_true whole) stored
  | withdraw owner amount upiId =>
    obtain ⟨W, W', found, _, stored, _, rfl⟩ := withdraw_ok.mp ran
    exact tally.uncounted found stored rfl rfl rfl rfl rfl
  | createMatch matchId playerA playerB problemId fee =>
    obtain ⟨_, A, A', B, B', foundA, _, storedA, foundB, _, storedB, rfl⟩ := createMatch_ok.mp ran
    have matched : Tally env.numeric (db.withMatch matchId (newMatchRow env playerA playerB problemId fee)) :=
      tally.congr rfl rfl
    have first : Tally env.numeric (((db.withMatch matchId (newMatchRow env playerA playerB problemId
        fee)).setWallet playerA A').addRow (lockRow env.numeric playerA A fee matchId)) :=
      matched.uncounted foundA storedA rfl rfl rfl rfl rfl
    exact first.uncounted foundB storedB rfl rfl rfl rfl rfl
  | refundBothPlayers playerA playerB fee matchId =>
    obtain ⟨A, A', B, B', foundA, storedA, foundB, storedB, rfl⟩ := refund_ok.mp ran
    have first : Tally env.numeric ((db.setWallet playerA A').addRow
        (refundRow env.numeric playerA A fee matchId)) :=
      tally.uncounted foundA storedA rfl rfl rfl rfl rfl
    exact first.uncounted foundB storedB rfl rfl rfl rfl rfl
  | releaseEscrowToWinner winner loser fee matchId =>
    obtain ⟨L, L', W, W', X, foundL, storedL, foundW, storedW, foundX, _, rfl⟩ := release_ok.mp ran
    obtain ⟨_, prize⟩ := Bool.and_eq_true_iff.mp whole
    have paise : env.numeric.store (netPrizeOf env fee) = netPrizeOf env fee := of_decide_eq_true prize
    have consumed : Tally env.numeric (db.setWallet loser L') := tally.keep foundL storedL rfl
    -- the prize is counted as a deposit
    have credited : Tally env.numeric (((db.setWallet loser L').setWallet winner W').addRow
        (winRow env winner W fee matchId)) :=
      consumed.post foundW storedW rfl rfl rfl paise (env.numeric.store_store _)
    exact credited.note rfl

end Tally

theorem total_counted (user : UserId) (db : Db) : Journal.total LedgerRow.userId LedgerRow.counted user db.ledger =
    db.sumOf user .deposit + db.sumOf user .matchWinCredit := by
  unfold Journal.total Db.sumOf
  induction db.ledger with
  | nil => simp
  | cons row rest ih =>
    by_cases owner : row.userId = user
    · cases type : row.type
      all_goals simp [owner, type, LedgerRow.counted, ih]
      · ring
      · ring
    · simp [owner, ih]

/-- **The counters are the sums of the deposits and withdrawals of a user exactly if the prizes and the withdrawals
come to nothing**, along every run in whole paise from wallets whose counters are zero. -/
theorem totals_agree_iff (env : Env) {c₀ c : BackendConfig}
    (zero : ∀ user W, c₀.state.db.wallets user = some W → W.totalDeposited = 0 ∧ W.totalWithdrawn = 0)
    (blank : c₀.state.db.ledger = [])
    (run : Reaches (backend env) (fun c move => inPaise env c move = true) c₀ c) {user : UserId} {W : Wallet}
    (found : c.state.db.wallets user = some W) :
    (W.totalDeposited = c.state.db.sumOf user .deposit ∧ W.totalWithdrawn = c.state.db.sumOf user .withdrawal) ↔
      c.state.db.sumOf user .matchWinCredit = 0 ∧ c.state.db.sumOf user .withdrawal = 0 := by
  have initial : Tally env.numeric c₀.state.db := by
    refine ⟨fun user total here => ?_, fun user W found => ?_, fun user W found => (zero user W found).2⟩
    · obtain ⟨W, found, rfl⟩ := Option.map_eq_some_iff.mp here
      rw [blank, (zero user W found).1, Journal.total_nil]
    · rw [(zero user W found).1, Numeric.store_zero]
  have tally : Tally env.numeric c.state.db := holds_inPaise env Tally.congr Tally.run initial run
  have deposited : W.totalDeposited = c.state.db.sumOf user .deposit + c.state.db.sumOf user .matchWinCredit := by
    rw [← total_counted]
    refine tally.counted user _ ?_
    unfold Db.deposited
    rw [found, Option.map_some]
  rw [deposited, tally.withdrawn user W found, add_eq_left]
  exact and_congr_right fun _ => eq_comm

/-- Both users deposit, user 1 wins a match and withdraws. -/
def winsAndWithdraws : List Transaction :=
  [.deposit 1 100, .deposit 2 100, .createMatch 7 1 2 0 10, .releaseEscrowToWinner 1 2 10 7, .withdraw 1 50 []]

/-- **The counters drift**: 100 deposited and 50 withdrawn, and the counters say 118 and nothing. -/
theorem totals_drift : ∃ c, Reaches (backend sampleEnv) (fun c move => inPaise sampleEnv c move = true)
    ⟨{ now := 0, db := emptyWallets }, []⟩ c ∧
      (c.state.db.wallets 1).map (fun W => (W.totalDeposited, W.totalWithdrawn)) = some (118, 0) ∧
      c.state.db.sumOf 1 .deposit = 100 ∧ c.state.db.sumOf 1 .withdrawal = 50 := by
  obtain ⟨c, run, ended⟩ := Machine.exists_run (backend sampleEnv) (inPaise sampleEnv)
    ⟨{ now := 0, db := emptyWallets }, []⟩ (committed winsAndWithdraws)
    (fun c => (c.state.db.wallets 1).map (fun W => (W.totalDeposited, W.totalWithdrawn)) = some (118, 0) ∧
      c.state.db.sumOf 1 .deposit = 100 ∧ c.state.db.sumOf 1 .withdrawal = 50) (by decide +kernel)
  exact ⟨c, run, of_decide_eq_true ended⟩

theorem emptyWallets_totals (user : UserId) (W : Wallet) (found : emptyWallets.wallets user = some W) :
    W.totalDeposited = 0 ∧ W.totalWithdrawn = 0 := by
  rw [emptyWallets_found found]
  exact ⟨rfl, rfl⟩

/-- The counters of the loser of the match are the loser's sums. -/
theorem totals_agree_loser : ∃ c W, Reaches (backend sampleEnv) (fun c move => inPaise sampleEnv c move = true)
    ⟨{ now := 0, db := emptyWallets }, []⟩ c ∧ c.state.db.wallets 2 = some W ∧
      W.totalDeposited = c.state.db.sumOf 2 .deposit ∧ W.totalWithdrawn = c.state.db.sumOf 2 .withdrawal ∧
      c.state.db.sumOf 2 .deposit = 100 := by
  obtain ⟨c, run, ended⟩ := Machine.exists_run (backend sampleEnv) (inPaise sampleEnv)
    ⟨{ now := 0, db := emptyWallets }, []⟩ (committed winsAndWithdraws)
    (fun c => (c.state.db.wallets 2).isSome ∧ c.state.db.sumOf 2 .matchWinCredit = 0 ∧
      c.state.db.sumOf 2 .withdrawal = 0 ∧ c.state.db.sumOf 2 .deposit = 100) (by decide +kernel)
  obtain ⟨owns, prizes, withdrawals, deposits⟩ := of_decide_eq_true ended
  obtain ⟨W, found⟩ := Option.isSome_iff_exists.mp owns
  obtain ⟨deposited, withdrawn⟩ :=
    (totals_agree_iff sampleEnv emptyWallets_totals rfl run found).mpr ⟨prizes, withdrawals⟩
  exact ⟨c, W, run, found, deposited, withdrawn, deposits⟩

end SkillArena
