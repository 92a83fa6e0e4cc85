/-
**The platform stays solvent.**

What all users own together, their balances and their escrow, is what came in less what was paid out less what the
platform kept of the payouts, and what the platform keeps never falls (`platform_solvent`). This is not the
account of orderly histories of `Proof.Conservation`: it holds along every run of the backend, where a match may
be paid twice or refunded after a payout, because every payout is made out of the escrow of both users.

* `InUnits.run` — one transaction in whole paise: it moves every wallet by exactly its amounts.
* `flow_run` — the sum of what it moves is what its ledger rows say.
* `retained_mono` — with the fee of a charter, a payout is never more than both fees.
-/

import SkillArena.Proof.Charter
import SkillArena.Proof.Ledger

namespace SkillArena

open Async
open Sql (Numeric)

/-! ### Wallets in whole paise -/

/-- A wallet whose columns hold what the code computed. -/
structure Wallet.Kept (N : Numeric) (wallet : Wallet) : Prop where
  balance : N.store wallet.balance = wallet.balance
  locked : N.store wallet.lockedBalance = wallet.lockedBalance

/-- Every wallet is kept in whole paise. -/
def InUnits (N : Numeric) (db : Db) : Prop := ∀ user W, db.wallets user = some W → W.Kept N

section Units

variable {N : Numeric} {db db' : Db} {owner : UserId} {W W' : Wallet} {written : WalletSet} {balance locked : ℚ}

/-- **An update by whole paise is exact.** -/
theorem update_kept (kept : W.Kept N) (stored : W.update N written = .ok W')
    (balanceSet : written.balance.getD W.balance = W.balance + balance)
    (lockedSet : written.lockedBalance.getD W.lockedBalance = W.lockedBalance + locked)
    (balancePaise : N.store balance = balance) (lockedPaise : N.store locked = locked) :
    W'.balance = W.balance + balance ∧ W'.lockedBalance = W.lockedBalance + locked ∧ W'.Kept N := by
  have column : ∀ {value change : ℚ} {new : Option ℚ}, N.store value = value → N.store change = change →
      new.getD value = value + change → (new.map N.store).getD value = value + change := by
    intro value change new valuePaise changePaise given
    cases new with
    | none => exact given
    | some number =>
      rw [Option.getD_some] at given
      rw [Option.map_some, Option.getD_some, given]
      exact N.store_add _ _ valuePaise changePaise
  obtain ⟨toBalance, toLocked, _⟩ := update_ok.mp stored
  rw [column kept.balance balancePaise balanceSet] at toBalance
  rw [column kept.locked lockedPaise lockedSet] at toLocked
  refine ⟨toBalance, toLocked, ?_, ?_⟩
  · rw [toBalance]
    exact N.store_add _ _ kept.balance balancePaise
  · rw [toLocked]
    exact N.store_add _ _ kept.locked lockedPaise

/-- **One wallet written**, seen from every user. -/
theorem InUnits.set (kept : InUnits N db) (found : db.wallets owner = some W) (stored : W.update N written = .ok W')
    (wallets : db'.wallets = Function.update db.wallets owner (some W'))
    (balanceSet : written.balance.getD W.balance = W.balance + balance)
    (lockedSet : written.lockedBalance.getD W.lockedBalance = W.lockedBalance + locked)
    (balancePaise : N.store balance = balance) (lockedPaise : N.store locked = locked) :
    (∀ user, Shifts db db' user (if user = owner then balance else 0) (if user = owner then locked else 0)) ∧
      InUnits N db' := by
  obtain ⟨toBalance, toLocked, new⟩ :=
    update_kept (kept owner W found) stored balanceSet lockedSet balancePaise lockedPaise
  exact ⟨fun user => shifts_of_set user found wallets toBalance toLocked, wallets_all kept new wallets⟩

end Units

section Run

variable {env : Env} {db db' : Db} {owner : UserId} {W W' : Wallet} {amount : ℚ}

theorem InUnits.credit (kept : InUnits env.numeric db) (found : db.wallets owner = some W)
    (stored : W.update env.numeric (creditSet W amount) = .ok W') (paise : env.numeric.store amount = amount)
    (row : LedgerRow) :
    (∀ user, Shifts db ((db.setWallet owner W').addRow row) user (if user = owner then amount else 0) 0) ∧
      InUnits env.numeric ((db.setWallet owner W').addRow row) := by
  have wallets : ((db.setWallet owner W').addRow row).wallets = Function.update db.wallets owner (some W') := rfl
  obtain ⟨shifts, after⟩ := kept.set found stored wallets
    (show W.balance + amount = _ from rfl) (add_zero _).symm paise (Numeric.store_zero _)
  refine ⟨fun user => ?_, after⟩
  have moved := shifts user
  rwa [ite_self] at moved

/-- **A transaction in whole paise moves every wallet by exactly its amounts.** -/
theorem InUnits.run {transaction : Transaction} {reply : transaction.Reply} (kept : InUnits env.numeric db)
    (whole : transaction.whole env = true) (ran : transaction.run env db = (.ok reply, db')) :
    (∀ user, Shifts db db' user (transaction.balanceChange env user) (transaction.lockedChange user)) ∧
      InUnits env.numeric db' := by
  have negative : ∀ {value : ℚ}, env.numeric.store value = value → env.numeric.store (-value) = -value :=
    fun paise => by rw [env.numeric.store_neg, paise]
  cases transaction with
  | deposit owner amount =>
    obtain ⟨_, W, W', found, stored, _, rfl⟩ := deposit_ok.mp ran
    exact kept.credit found stored (of_decide_eq_true whole) _
  | creditVerified owner order payment amount =>
    obtain ⟨W, W', found, stored, _, rfl⟩ := creditVerified_ok.mp ran
    exact kept.credit found stored (of_decide_eq_true whole) _
  | creditWebhook owner payment amount =>
    rcases creditWebhook_ok.mp ran with ⟨missing, rfl⟩ | ⟨W, W', found, stored, rfl⟩
    · refine ⟨fun user => ⟨id, fun W found => ⟨W, found, ?_, (add_zero _).symm⟩⟩, kept⟩
      have other : user ≠ owner := fun same => Option.some_ne_none W ((same ▸ found).symm.trans missing)
      show _ = _ + if user = owner then amount else 0
      rw [if_neg other, add_zero]
    · exact kept.credit found stored (of_decide_eq_true whole) _
  | withdraw owner amount upiId =>
    obtain ⟨W, W', found, _, stored, _, rfl⟩ := withdraw_ok.mp ran
    have paise : env.numeric.store amount = amount := of_decide_eq_true whole
    obtain ⟨shifts, after⟩ := kept.set found stored (setWallet_wallets db owner W') (sub_eq_add_neg _ _)
      (add_zero _).symm (negative paise) (Numeric.store_zero _)
    refine ⟨fun user => ?_, after⟩
    have moved := shifts user
    rw [ite_self] at moved
    exact moved
  | createMatch matchId playerA playerB problemId fee =>
    obtain ⟨_, A, A', B, B', foundA, _, storedA, foundB, _, storedB, rfl⟩ := createMatch_ok.mp ran
    have paise : env.numeric.store fee = fee := of_decide_eq_true whole
    obtain ⟨first, between⟩ := kept.set foundA storedA (setWallet_wallets db playerA A') (sub_eq_add_neg _ _) rfl
      (negative paise) paise
    obtain ⟨second, after⟩ := between.set foundB storedB (setWallet_wallets _ playerB B') (sub_eq_add_neg _ _) rfl
      (negative paise) paise
    exact ⟨fun user => (first user).trans (second user), after⟩
  | refundBothPlayers playerA playerB fee matchId =>
    obtain ⟨A, A', B, B', foundA, storedA, foundB, storedB, rfl⟩ := refund_ok.mp ran
    have paise : env.numeric.store fee = fee := of_decide_eq_true whole
    obtain ⟨first, between⟩ := kept.set foundA storedA (setWallet_wallets db playerA A') rfl (sub_eq_add_neg _ _)
      paise (negative paise)
    obtain ⟨second, after⟩ := between.set foundB storedB (setWallet_wallets _ playerB B') rfl (sub_eq_add_neg _ _)
      paise (negative paise)
    exact ⟨fun user => (first user).trans (second user), after⟩
  | releaseEscrowToWinner winner loser fee matchId =>
    obtain ⟨L, L', W, W', X, foundL, storedL, foundW, storedW, _, _, rfl⟩ := release_ok.mp ran
    obtain ⟨fees, prize⟩ := Bool.and_eq_true_iff.mp whole
    have paise : env.numeric.store fee = fee := of_decide_eq_true fees
    obtain ⟨first, between⟩ := kept.set foundL storedL (setWallet_wallets db loser L') (add_zero _).symm
      (sub_eq_add_neg _ _) (Numeric.store_zero _) (negative paise)
    obtain ⟨second, after⟩ := between.set foundW storedW (setWallet_wallets _ winner W') rfl (sub_eq_add_neg _ _)
      (of_decide_eq_true prize) (negative paise)
    refine ⟨fun user => ?_, after⟩
    have both := (first user).trans (second user)
    rw [ite_self, zero_add] at both
    exact both

end Run

/-! ### What the ledger says of the total -/

/-- What a ledger row brought in from outside. -/
@[simp] def Posting.cash (posting : Posting) : ℚ := match posting.type with
  | .deposit => posting.amount
  | .withdrawal => -posting.amount
  | _ => 0

/-- What the platform keeps by a ledger row: a loss stands for both entry fees, out of which the winner is paid. -/
@[simp] def Posting.retained (posting : Posting) : ℚ := match posting.type with
  | .matchLossDebit => 2 * posting.amount
  | .matchWinCredit => -posting.amount
  | _ => 0

/-- The money that came in, less the money that was paid out. -/
def Db.cash (db : Db) : ℚ := (db.ledger.map (·.posting.cash)).sum

/-- What the platform kept of the payouts. -/
def Db.retained (db : Db) : ℚ := (db.ledger.map (·.posting.retained)).sum

/-- What all the users own. -/
def Db.owned (users : Finset UserId) (db : Db) : ℚ := ∑ user ∈ users, db.holdings user

section Flow

variable {env : Env} {db db' : Db} {transaction : Transaction} {reply : transaction.Reply} {users : Finset UserId}

theorem run_sum (ran : transaction.run env db = (.ok reply, db')) (f : Posting → ℚ) :
    (db'.ledger.map (f ·.posting)).sum =
      (db.ledger.map (f ·.posting)).sum + ((transaction.postings env db).map f).sum := by
  obtain ⟨rows, posted, ledger⟩ := run_ledger ran
  rw [ledger, List.map_append, List.sum_append, ← posted, List.map_map]
  rfl

/-- A wallet that a transaction moved, in what its owner holds. -/
theorem Shifts.holdings {user : UserId} {balance locked : ℚ} (shifts : Shifts db db' user balance locked)
    (there : db.wallets user ≠ none) : db'.holdings user = db.holdings user + (balance + locked) := by
  obtain ⟨W, found⟩ := Option.ne_none_iff_exists'.mp there
  obtain ⟨W', found', toBalance, toLocked⟩ := shifts.2 W found
  unfold Db.holdings
  rw [found, found', Option.map_some, Option.map_some, Option.getD_some, Option.getD_some, toBalance, toLocked]
  ring

/-- **What a transaction moves is what its rows say.** -/
theorem flow_run (owners : ∀ user, user ∈ users ↔ db.wallets user ≠ none) (whole : transaction.whole env = true)
    (ran : transaction.run env db = (.ok reply, db')) :
    ∑ user ∈ users, (transaction.balanceChange env user + transaction.lockedChange user) =
      ((transaction.postings env db).map Posting.cash).sum -
        ((transaction.postings env db).map Posting.retained).sum := by
  have one : ∀ {owner : UserId} (amount : ℚ), db.wallets owner ≠ none →
      ∑ user ∈ users, (if user = owner then amount else 0) = amount := by
    intro owner amount there
    rw [Finset.sum_ite_eq' users owner, if_pos ((owners owner).mpr there)]
  have there : ∀ {owner : UserId} {W : Wallet}, db.wallets owner = some W → db.wallets owner ≠ none :=
    fun found => found ▸ Option.some_ne_none _
  cases transaction with
  | deposit owner amount =>
    obtain ⟨_, W, W', found, _⟩ := deposit_ok.mp ran
    have paise : env.numeric.store amount = amount := of_decide_eq_true whole
    simp [Transaction.balanceChange, Transaction.lockedChange, Transaction.postings,
      one amount (there found), paise]
  | creditVerified owner order payment amount =>
    obtain ⟨W, W', found, _⟩ := creditVerified_ok.mp ran
    have paise : env.numeric.store amount = amount := of_decide_eq_true whole
    simp [Transaction.balanceChange, Transaction.lockedChange, Transaction.postings,
      one amount (there found), paise]
  | creditWebhook owner payment amount =>
    have paise : env.numeric.store amount = amount := of_decide_eq_true whole
    rcases creditWebhook_ok.mp ran with ⟨missing, _⟩ | ⟨W, W', found, _⟩
    · -- nothing is credited, and the owner of no wallet is not one of the users
      have outside : owner ∉ users := fun inside => (owners owner).mp inside missing
      simp [Transaction.balanceChange, Transaction.lockedChange, Transaction.postings, missing, outside]
    · simp [Transaction.balanceChange, Transaction.lockedChange, Transaction.postings,
        found, one amount (there found), paise]
  | withdraw owner amount upiId =>
    obtain ⟨W, W', found, _⟩ := withdraw_ok.mp ran
    have paise : env.numeric.store amount = amount := of_decide_eq_true whole
    simp [Transaction.balanceChange, Transaction.lockedChange, Transaction.postings,
      one (-amount) (there found), paise]
  | createMatch | refundBothPlayers =>
    rw [Finset.sum_eq_zero]
    · simp [Transaction.postings]
    · intro user _
      simp only [Transaction.balanceChange, Transaction.lockedChange]
      split_ifs
      all_goals ring
  | releaseEscrowToWinner winner loser fee matchId =>
    obtain ⟨L, L', W, W', X, foundL, _, foundW, _⟩ := release_ok.mp ran
    obtain ⟨fees, prize⟩ := Bool.and_eq_true_iff.mp whole
    have feePaise : env.numeric.store fee = fee := of_decide_eq_true fees
    have prizePaise : env.numeric.store (netPrizeOf env fee) = netPrizeOf env fee := of_decide_eq_true prize
    have thereW : db.wallets winner ≠ none := by
      by_cases same : winner = loser
      · exact same ▸ there foundL
      · rw [setWallet_wallets, Function.update_of_ne same] at foundW
        exact there foundW
    simp only [Transaction.balanceChange, Transaction.lockedChange, Finset.sum_add_distrib, one _ thereW,
      one _ (there foundL)]
    simp [Transaction.postings, feePaise, prizePaise]
    ring

/-- **The account of one transaction.** -/
theorem owned_run (kept : InUnits env.numeric db) (owners : ∀ user, user ∈ users ↔ db.wallets user ≠ none)
    (whole : transaction.whole env = true) (ran : transaction.run env db = (.ok reply, db')) :
    db'.owned users - db'.cash + db'.retained = db.owned users - db.cash + db.retained := by
  obtain ⟨shifts, _⟩ := kept.run whole ran
  have total : db'.owned users = db.owned users +
      ∑ user ∈ users, (transaction.balanceChange env user + transaction.lockedChange user) := by
    unfold Db.owned
    rw [← Finset.sum_add_distrib]
    exact Finset.sum_congr rfl fun user inside => (shifts user).holdings ((owners user).mp inside)
  rw [total, flow_run owners whole ran]
  unfold Db.cash Db.retained
  rw [run_sum ran Posting.cash, run_sum ran Posting.retained]
  ring

theorem Shifts.owner {user : UserId} {balance locked : ℚ} (shifts : Shifts db db' user balance locked) :
    db'.wallets user ≠ none ↔ db.wallets user ≠ none := by
  refine ⟨mt shifts.1, fun there => ?_⟩
  obtain ⟨W, found⟩ := Option.ne_none_iff_exists'.mp there
  obtain ⟨W', found', _⟩ := shifts.2 W found
  exact found' ▸ Option.some_ne_none _

end Flow

/-! ### What the platform keeps -/

theorem IsFee.nonneg {fee : ℚ} (isFee : IsFee fee) : 0 ≤ fee := by
  obtain ⟨entryFee, _, rfl⟩ := isFee
  exact Nat.cast_nonneg entryFee

/-- The prize is at most both fees, and so is the prize that is stored. -/
theorem prize_le {env : Env} (keepsFees : env.KeepsFees) (percent : 0 ≤ env.platformFeePercent) {fee : ℚ}
    (isFee : IsFee fee) : env.numeric.store (netPrizeOf env fee) ≤ 2 * env.numeric.store fee := by
  have kept := keepsFees.store isFee
  have share : 0 ≤ platformFeeOf env fee := by
    have nonneg := isFee.nonneg
    unfold platformFeeOf
    positivity
  have both : env.numeric.store (fee + fee) = fee + fee := env.numeric.store_add _ _ kept kept
  calc env.numeric.store (netPrizeOf env fee) ≤ env.numeric.store (fee + fee) := by
        refine env.numeric.store_mono ?_
        unfold netPrizeOf
        linarith
    _ = 2 * env.numeric.store fee := by rw [both, kept, two_mul]

/-- **A transaction that the charters allow keeps or adds to what the platform keeps.** -/
theorem retained_mono {env : Env} (last : Db) (keepsFees : env.KeepsFees) (percent : 0 ≤ env.platformFeePercent)
    (start : ℚ) : CharterKeeps env last fun db => start ≤ db.retained := by
  intro choice world world' op reply allowed performed before
  rcases money_frame performed with ⟨_, ledger⟩ | ⟨transaction, value, rfl, ran⟩
  · unfold Db.retained
    rw [ledger]
    exact before
  · refine before.trans ?_
    unfold Db.retained
    rw [run_sum ran Posting.retained, le_add_iff_nonneg_right]
    cases transaction with
    | releaseEscrowToWinner winner loser fee matchId =>
      have prize := prize_le keepsFees percent allowed.2
      simp only [Transaction.postings, Posting.retained, List.map_cons, List.map_nil, List.sum_cons, List.sum_nil]
      linarith
    | creditWebhook owner payment amount =>
      simp only [Transaction.postings]
      split_ifs
      all_goals simp
    | _ => simp [Transaction.postings]

/-! ### Every run -/

/-- **The platform stays solvent** along every run in whole paise: what all users own is what they owned, with
what came in and without what was paid out and what the platform kept of the payouts, and the platform never pays
out more than the escrow of both players. -/
theorem platform_solvent (env : Env) (keepsFees : env.KeepsFees) (percent : 0 ≤ env.platformFeePercent)
    (users : Finset UserId) {c₀ c : BackendConfig} (idle : c₀.threads = []) (orderly : Orderly env c₀.state)
    (kept : InUnits env.numeric c₀.state.db) (owners : ∀ user, user ∈ users ↔ c₀.state.db.wallets user ≠ none)
    (run : Reaches (backend env) (fun c move => hosted move = true ∧ inPaise env c move = true) c₀ c) :
    c.state.db.owned users = c₀.state.db.owned users + (c.state.db.cash - c₀.state.db.cash) -
        (c.state.db.retained - c₀.state.db.retained) ∧
      c₀.state.db.retained ≤ c.state.db.retained := by
  have account : (∀ user, user ∈ users ↔ c.state.db.wallets user ≠ none) ∧ InUnits env.numeric c.state.db ∧
      c.state.db.owned users - c.state.db.cash + c.state.db.retained =
        c₀.state.db.owned users - c₀.state.db.cash + c₀.state.db.retained := by
    refine holds_inPaise env (P := fun db => (∀ user, user ∈ users ↔ db.wallets user ≠ none) ∧
      InUnits env.numeric db ∧ db.owned users - db.cash + db.retained =
        c₀.state.db.owned users - c₀.state.db.cash + c₀.state.db.retained) ?_ ?_ ⟨owners, kept, rfl⟩
      (run.mono fun _ _ allowed => allowed.2)
    · intro db db' holds wallets ledger
      unfold InUnits Db.owned Db.holdings Db.cash Db.retained at holds ⊢
      rw [wallets, ledger]
      exact holds
    · intro db db' transaction reply holds whole ran
      obtain ⟨owners, kept, account⟩ := holds
      obtain ⟨shifts, after⟩ := kept.run whole ran
      exact ⟨fun user => (owners user).trans (shifts user).owner.symm, after,
        (owned_run kept owners whole ran).trans account⟩
  refine ⟨by linarith [account.2.2], ?_⟩
  have grows := retained_mono c.state.db keepsFees percent c₀.state.db.retained
  exact (orderly.carries keepsFees idle (run.mono fun _ _ allowed => allowed.1) grows
    (le_refl c₀.state.db.retained)).2

theorem openDoors_wallet {user : UserId} {W : Wallet} (found : openDoors.db.wallets user = some W) :
    W = ⟨100, 0, 0, 0, hundred_nonneg, none_locked⟩ := by
  change (if user ∈ [1, 2] then _ else _) = _ at found
  split_ifs at found
  exact (Option.some.inj found).symm

theorem openDoors_kept : InUnits sampleEnv.numeric openDoors.db := by
  intro user W found
  rw [openDoors_wallet found]
  exact ⟨Numeric.scale_store_natCast 2 100, Numeric.store_zero _⟩

theorem openDoors_owners (user : UserId) : user ∈ ({1, 2} : Finset UserId) ↔ openDoors.db.wallets user ≠ none := by
  change _ ↔ (if user ∈ [1, 2] then _ else _) ≠ none
  split_ifs with owner
  · simpa using owner
  · simpa using owner

theorem platform_solvent_forfeited : ∃ c, Reaches (backend sampleEnv)
    (fun c move => hosted move = true ∧ inPaise sampleEnv c move = true) ⟨openDoors, []⟩ c ∧
      c.state.db.retained = 2 ∧ c.state.db.owned {1, 2} = openDoors.db.owned {1, 2} - 2 := by
  obtain ⟨c, run, ended⟩ := Machine.exists_run (backend sampleEnv)
    (fun c move => hosted move && inPaise sampleEnv c move) ⟨openDoors, []⟩ joinsPlaysForfeits
    (fun c => c.state.db.retained = 2 && c.state.db.cash = 0) (by decide +kernel)
  obtain ⟨kept, cash⟩ := Bool.and_eq_true_iff.mp ended
  have run := run.mono fun _ _ allowed => Bool.and_eq_true_iff.mp allowed
  have solvent := (platform_solvent sampleEnv sampleEnv_keepsFees (by decide) {1, 2} rfl openDoors_orderly
    openDoors_kept openDoors_owners run).1
  refine ⟨c, run, of_decide_eq_true kept, ?_⟩
  rw [solvent, of_decide_eq_true kept, of_decide_eq_true cash]
  show _ + (0 - 0) - (2 - 0) = _
  ring

end SkillArena
