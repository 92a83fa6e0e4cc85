/-
**Amounts that are rounded apart.**

The columns keep whole paise, the code computes with any amounts, and each column rounds what it is given on its
own.

* `POST /wallet/withdraw` accepts any amount from 50 to 50000. The rest of the balance and the amount of the ledger
  row are rounded apart, and add up to the old balance exactly if the amount is no half paisa
  (`withdrawal_adds_up_iff`).
* A match stores the prize and the fee of the platform, computed from `PLATFORM_FEE_PERCENT`. The winner is credited
  what is stored as the prize, in the balance and in the ledger; the prize and the fee add up to the two entry fees
  exactly if the fee is no half paisa (`prize_adds_up_iff`).
-/

import SkillArena.Async.Server
import SkillArena.Proof.Withdrawals

namespace SkillArena

open Async
open Sql (IsHalf Numeric)

/-! ### Withdrawals -/

/-- **The routes of the wallet**, where any statement may fail. -/
def withdrawing (env : Env) : Server withdrawSignature WithdrawState :=
  (withdrawServer env).serving fun _ _ _ => True

section Withdraw

variable {env : Env} {state : WithdrawState} {α : Type}

theorem withdrawing_call {op : WithdrawOp} {post : Except Err op.Reply → WithdrawState → Prop}
    (proceeds : post (op.proceed env state).1 (op.proceed env state).2)
    (fails : op.fallible = true → post (.error .unavailable) state) :
    op.call.Ensures (withdrawing env) state post := by
  refine ⟨⟨_, _, false, trivial, rfl⟩, ?_⟩
  rintro reply state' ⟨choice, -, performed⟩
  have performed : op.perform env choice state = some (reply, state') := performed
  unfold WithdrawOp.perform at performed
  split at performed
  · split at performed
    · rename_i fallible
      cases performed
      exact fails fallible
    · cases performed
  · rw [Option.some.inj performed] at proceeds
    exact proceeds

/-- The amounts the route accepts. -/
structure WithdrawRequest.Accepts (request : WithdrawRequest) (amount : ℚ) : Prop where
  parsed : request.amount.parsed = .finite amount
  minimum : 50 ≤ amount
  maximum : amount ≤ 50000

/-- **What a withdrawal leaves**: the wallet and one ledger row. -/
structure Withdrawn (user : UserId) (db db' : Db) (wallet' : Wallet) (row : LedgerRow) : Prop where
  wallet : db'.wallets user = some wallet'
  ledger : db'.ledger = db.ledger ++ [row]
  owner : row.userId = user
  type : row.type = .withdrawal

/-- The rest and the amount, rounded apart. -/
theorem withdrawn_adds_up {user : UserId} {amount : ℚ} {upiId : Text} {reply : ℕ × ℚ} {db db' : Db} {W : Wallet}
    (hundredths : env.numeric = .scale 2) (found : db.wallets user = some W)
    (paise : env.numeric.store W.balance = W.balance) (nonneg : 0 ≤ amount)
    (ran : (Transaction.withdraw user amount upiId).run env db = (.ok reply, db')) :
    ∃ W' row, Withdrawn user db db' W' row ∧ row.balanceAfter = W'.balance ∧
      (W'.balance + row.amount = W.balance ↔ ¬ IsHalf (amount * 100)) := by
  obtain ⟨W₀, W', found₀, rich, stored, -, rfl⟩ := withdraw_ok.mp ran
  cases found.symm.trans found₀
  have balance : W'.balance = env.numeric.store (W.balance - amount) := (update_ok.mp stored).1
  refine ⟨W', withdrawalRow env.numeric user W amount upiId db.withdrawals.length,
    ⟨by simp [Db.addRow], by simp [Db.addRow], rfl, rfl⟩, balance.symm, ?_⟩
  show W'.balance + env.numeric.store amount = W.balance ↔ _
  rw [hundredths] at paise balance ⊢
  rw [balance, add_comm, Numeric.scale_parts paise nonneg rich]
  norm_num

/-- What holds once a body of the route has ended: if it has succeeded, the amounts are as `adds` says. -/
def Accounted (state : WithdrawState) (adds : Db → Prop) (result : Except Err (Response WithdrawReply))
    (state' : WithdrawState) : Prop :=
  state'.responses = state.responses ∧ ∀ reply, result = .ok (.success reply) → adds state'.db

theorem accounted_other {adds : Db → Prop} {result : Except Err (Response WithdrawReply)}
    (other : ∀ reply, result ≠ .ok (.success reply)) : Accounted state adds result state :=
  ⟨rfl, fun reply same => absurd same (other reply)⟩

theorem requestWithdrawal_accounted {user : UserId} {amount : ℚ} {upiId : Text} {adds : Db → Prop}
    (ran : ∀ reply db', (Transaction.withdraw user amount upiId).run env state.db = (.ok reply, db') → adds db') :
    (requestWithdrawal user amount upiId).Ensures (withdrawing env) state (Accounted state adds) := by
  refine (Task.ensures_bind _ _ _ _).mpr (withdrawing_call ?_ fun _ => accounted_other nofun)
  show (ite _ _ _ : Task withdrawSignature Err (Response WithdrawReply)).Ensures _ state _
  split
  · exact accounted_other nofun
  · refine (Task.ensures_bind _ _ _ _).mpr (withdrawing_call ?_ fun _ => accounted_other nofun)
    rcases run_cases env (.withdraw user amount upiId) state.db with ⟨reply, db', committed⟩ | ⟨err, failed⟩
    · simp only [WithdrawOp.proceed, committed]
      refine (Task.ensures_bind _ _ _ _).mpr (withdrawing_call ?_ fun _ => ?_)
      · exact ⟨rfl, fun _ _ => ran reply db' committed⟩
      · exact ⟨rfl, fun _ same => by cases same⟩
    · simp only [WithdrawOp.proceed, failed]
      exact accounted_other nofun

theorem withdrawBody_accounted {request : WithdrawRequest} {adds : Db → Prop}
    (ran : ∀ amount upiId reply db', request.Accepts amount →
      (Transaction.withdraw request.userId amount upiId).run env state.db = (.ok reply, db') → adds db') :
    (withdrawBody request).Ensures (withdrawing env) state (Accounted state adds) := by
  unfold withdrawBody
  cases request.upiId
  case str upiId =>
    dsimp only
    split
    · exact accounted_other nofun
    · split
      · exact accounted_other nofun
      · split
        · exact accounted_other nofun
        · split
          · exact accounted_other nofun
          · split
            · exact accounted_other nofun
            · rename_i _ _ minimum maximum _
              cases parsed : request.amount.parsed
              case finite amount =>
                rw [parsed] at minimum maximum
                refine requestWithdrawal_accounted fun reply db' => ran amount _ reply db' ⟨parsed, ?_, ?_⟩
                · simpa [JsFloat.lt] using minimum
                · simpa [JsFloat.gt] using maximum
              all_goals exact accounted_other nofun
  all_goals exact accounted_other nofun

end Withdraw

/-- A withdrawal of fifty rupees and half a paisa. -/
def halfPaisa : WithdrawRequest :=
  ⟨1, ⟨true, .finite (50005 / 1000), .finite (50005 / 1000)⟩, .str "player@upi".toList⟩

section Prize

variable {env : Env} {matchId : MatchId} {playerA playerB winner loser : UserId} {problemId : ProblemId} {fee : ℚ}
  {db db' : Db}

/-- The prize stored with the match and the prize paid out are computed alike. -/
theorem netPrizeOf_eq (env : Env) (fee : ℚ) :
    netPrizeOf env fee = fee * 2 * (1 - env.platformFeePercent / 100) := by
  unfold netPrizeOf platformFeeOf
  ring

/-- The row of a match that was created. -/
theorem created_row (creates : (Transaction.createMatch matchId playerA playerB problemId fee).run env db =
    (.ok (), db')) : db'.matches_ matchId = some (newMatchRow env playerA playerB problemId fee) := by
  obtain ⟨-, A, A', B, B', -, -, -, -, -, -, rfl⟩ := createMatch_ok.mp creates
  simp [Db.addRow, Db.setWallet, Db.withMatch]

/-- **The winner is credited what is stored as the prize**, in the wallet and in the ledger. -/
theorem credited_prize (hundredths : env.numeric = .scale 2)
    (percent : 0 ≤ env.platformFeePercent ∧ env.platformFeePercent ≤ 100) (nonneg : 0 ≤ fee) {W : Wallet}
    (found : db.wallets winner = some W) (paise : env.numeric.store W.balance = W.balance) {reply : ℚ × ℚ}
    (pays : (Transaction.releaseEscrowToWinner winner loser fee matchId).run env db = (.ok reply, db')) :
    ∃ W' credit debit, db'.wallets winner = some W' ∧ db'.ledger = db.ledger ++ [credit, debit] ∧
      credit.userId = winner ∧ credit.type = .matchWinCredit ∧
      credit.amount = env.numeric.store (fee * 2 * (1 - env.platformFeePercent / 100)) ∧
      W'.balance - W.balance = credit.amount := by
  obtain ⟨L, L', W₁, W', X, foundL, storedL, foundW, storedW, -, -, rfl⟩ := release_ok.mp pays
  -- the loser's update leaves the balances alone
  have same : W₁.balance = W.balance := by
    by_cases own : winner = loser
    · subst own
      have kept : L'.balance = L.balance := (update_ok.mp storedL).1
      simp only [Db.setWallet, Function.update_self, Option.some.injEq] at foundW
      cases found.symm.trans foundL
      rw [← foundW, kept]
    · simp only [Db.setWallet, Function.update_of_ne own] at foundW
      cases found.symm.trans foundW
      rfl
  have balance : W'.balance = env.numeric.store (W₁.balance + netPrizeOf env fee) := (update_ok.mp storedW).1
  refine ⟨W', winRow env winner W₁ fee matchId, lossRow env loser X fee matchId, by simp [Db.addRow, Db.setWallet],
    by simp [Db.addRow, Db.setWallet], rfl, rfl, congrArg _ (netPrizeOf_eq env fee), ?_⟩
  show W'.balance - W.balance = env.numeric.store (netPrizeOf env fee)
  have prize := netPrizeOf_nonneg percent nonneg
  rw [hundredths] at paise balance ⊢
  rw [balance, same, Numeric.scale_store_add paise W.positive_balance prize, add_sub_cancel_left]

end Prize

/-- An environment whose `PLATFORM_FEE_PERCENT` is 2.25. -/
def quarterEnv : Env := { sampleEnv with platformFeePercent := 9 / 4 }

/-- The two users, matched for ten rupees. -/
def matchedForTen : Db := ((Transaction.createMatch 7 1 2 0 10).run sampleEnv twoPlayers).2

/-- The first one has won. -/
def wonTen : Db := ((Transaction.releaseEscrowToWinner 1 2 10 7).run sampleEnv matchedForTen).2

end SkillArena
