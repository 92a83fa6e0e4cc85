/-
**The books balance.**

The abstract account of a history of committed transactions is a `Book`: the matches that are created
and not yet settled, the matches that were paid out, and what was credited and withdrawn. Over exact
arithmetic and any history in which matches are created between two different users and settled at
most once, with their own players and fee (`Book.allows`), the wallets agree with the book at every
point (`books_balance`):

* the escrow of every user is the sum of the fees of the user's unsettled matches;
* what all users own together is what was credited, less what was withdrawn, less the platform's share
  of the matches paid out;
* every unsettled match can be settled, in every way: no constraint of the wallets can reject it.

One lemma says what a transaction does to the wallet of each user (`run_shifts`); the sums follow from
it.
-/

import Mathlib.Algebra.BigOperators.Group.Finset.Piecewise
import Mathlib.Algebra.Order.BigOperators.Group.List
import Mathlib.Tactic.Ring
import SkillArena.Proof.Transactions

namespace SkillArena

open Async
open Sql (Numeric)

/-! ### What a transaction does to each wallet -/

/-- Between two databases the wallet of a user moved by the given amounts. -/
def Shifts (db db' : Db) (user : UserId) (balance locked : ℚ) : Prop :=
  (db.wallets user = none → db'.wallets user = none) ∧
    ∀ W, db.wallets user = some W → ∃ W', db'.wallets user = some W' ∧
      W'.balance = W.balance + balance ∧ W'.lockedBalance = W.lockedBalance + locked

section Shifts

variable {db db₁ db₂ : Db} {user : UserId} {balance balance' locked locked' : ℚ}

theorem Shifts.trans (first : Shifts db db₁ user balance locked)
    (second : Shifts db₁ db₂ user balance' locked') :
    Shifts db db₂ user (balance + balance') (locked + locked') := by
  refine ⟨fun missing => second.1 (first.1 missing), fun W found => ?_⟩
  obtain ⟨W₁, found₁, balance₁, locked₁⟩ := first.2 W found
  obtain ⟨W₂, found₂, balance₂, locked₂⟩ := second.2 W₁ found₁
  refine ⟨W₂, found₂, ?_, ?_⟩
  · rw [balance₂, balance₁, add_assoc]
  · rw [locked₂, locked₁, add_assoc]

theorem shifts_of_set (user : UserId) {owner : UserId} {V V' : Wallet} (found : db.wallets owner = some V)
    (stored : db₁.wallets = Function.update db.wallets owner (some V'))
    (balance : V'.balance = V.balance + balance') (locked : V'.lockedBalance = V.lockedBalance + locked') :
    Shifts db db₁ user (if user = owner then balance' else 0) (if user = owner then locked' else 0) := by
  unfold Shifts
  rw [stored]
  by_cases same : user = owner
  · subst same
    rw [if_pos rfl, if_pos rfl, Function.update_self]
    refine ⟨fun missing => absurd (missing.symm.trans found) nofun, fun W found' => ?_⟩
    obtain rfl : V = W := Option.some.inj (found.symm.trans found')
    exact ⟨V', rfl, balance, locked⟩
  · rw [if_neg same, if_neg same, Function.update_of_ne same]
    exact ⟨id, fun W found' => ⟨W, found', (add_zero _).symm, (add_zero _).symm⟩⟩

end Shifts

/-- What a transaction adds to the balance of a user. -/
def Transaction.balanceChange (env : Env) (user : UserId) : Transaction → ℚ
  | deposit owner amount => if user = owner then amount else 0
  | createMatch _ playerA playerB _ fee =>
    (if user = playerA then -fee else 0) + (if user = playerB then -fee else 0)
  | releaseEscrowToWinner winner _ fee _ => if user = winner then netPrizeOf env fee else 0
  | refundBothPlayers playerA playerB fee _ =>
    (if user = playerA then fee else 0) + (if user = playerB then fee else 0)
  | creditVerified owner _ _ amount => if user = owner then amount else 0
  | creditWebhook owner _ amount => if user = owner then amount else 0
  | withdraw owner amount _ => if user = owner then -amount else 0

/-- What a transaction adds to the escrow of a user. -/
def Transaction.lockedChange (user : UserId) : Transaction → ℚ
  | createMatch _ playerA playerB _ fee =>
    (if user = playerA then fee else 0) + (if user = playerB then fee else 0)
  | releaseEscrowToWinner winner loser fee _ =>
    (if user = loser then -fee else 0) + (if user = winner then -fee else 0)
  | refundBothPlayers playerA playerB fee _ =>
    (if user = playerA then -fee else 0) + (if user = playerB then -fee else 0)
  | _ => 0

section Exact

variable {env : Env} {db db' : Db} (exact : env.numeric = .exact)

include exact

theorem update_exact {W W' : Wallet} {set : WalletSet} (stored : W.update env.numeric set = .ok W') :
    W'.balance = set.balance.getD W.balance ∧ W'.lockedBalance = set.lockedBalance.getD W.lockedBalance := by
  rw [exact] at stored
  obtain ⟨balance, locked, _, _⟩ := update_ok.mp stored
  refine ⟨balance.trans ?_, locked.trans ?_⟩
  · cases set.balance with
    | none => rfl
    | some value => rfl
  · cases set.lockedBalance with
    | none => rfl
    | some value => rfl

theorem shifts_credit {owner user : UserId} {amount : ℚ} {row : LedgerRow} {W W' : Wallet}
    (found : db.wallets owner = some W) (stored : W.update env.numeric (creditSet W amount) = .ok W') :
    Shifts db ((db.setWallet owner W').addRow row) user (if user = owner then amount else 0) 0 := by
  obtain ⟨balance, locked⟩ := update_exact exact stored
  have shifts := shifts_of_set user found (setWallet_wallets db owner W') balance
    (locked.trans (add_zero _).symm)
  rwa [ite_self] at shifts

/-- **A committed transaction moves every wallet by its amounts.** -/
theorem run_shifts {transaction : Transaction} {reply : transaction.Reply}
    (ran : transaction.run env db = (.ok reply, db')) (user : UserId) :
    Shifts db db' user (transaction.balanceChange env user) (transaction.lockedChange user) := by
  cases transaction with
  | deposit owner amount =>
    obtain ⟨_, W, W', found, stored, _, rfl⟩ := deposit_ok.mp ran
    exact shifts_credit exact found stored
  | creditVerified owner order payment amount =>
    obtain ⟨W, W', found, stored, _, rfl⟩ := creditVerified_ok.mp ran
    exact shifts_credit exact found stored
  | creditWebhook owner payment amount =>
    rcases creditWebhook_ok.mp ran with ⟨missing, rfl⟩ | ⟨W, W', found, stored, rfl⟩
    · refine ⟨id, fun W found => ⟨W, found, ?_, (add_zero _).symm⟩⟩
      have other : user ≠ owner := fun same => by
        rw [same, missing] at found
        cases found
      show _ = _ + if user = owner then amount else 0
      rw [if_neg other, add_zero]
    · exact shifts_credit exact found stored
  | withdraw owner amount upiId =>
    obtain ⟨W, W', found, _, stored, _, rfl⟩ := withdraw_ok.mp ran
    obtain ⟨balance, locked⟩ := update_exact exact stored
    have shifts := shifts_of_set user found (setWallet_wallets db owner W')
      (balance.trans (sub_eq_add_neg _ _)) (locked.trans (add_zero _).symm)
    rw [ite_self] at shifts
    exact shifts
  | createMatch matchId playerA playerB problemId fee =>
    obtain ⟨_, A, A', B, B', foundA, _, storedA, foundB, _, storedB, rfl⟩ := createMatch_ok.mp ran
    obtain ⟨balanceA, lockedA⟩ := update_exact exact storedA
    obtain ⟨balanceB, lockedB⟩ := update_exact exact storedB
    have first := shifts_of_set user foundA (setWallet_wallets db playerA A')
      (balanceA.trans (sub_eq_add_neg _ _)) lockedA
    have second := shifts_of_set user foundB (setWallet_wallets _ playerB B')
      (balanceB.trans (sub_eq_add_neg _ _)) lockedB
    exact first.trans second
  | releaseEscrowToWinner winner loser fee matchId =>
    obtain ⟨L, L', W, W', X, foundL, storedL, foundW, storedW, _, _, rfl⟩ := release_ok.mp ran
    obtain ⟨balanceL, lockedL⟩ := update_exact exact storedL
    obtain ⟨balanceW, lockedW⟩ := update_exact exact storedW
    have first := shifts_of_set user foundL (setWallet_wallets db loser L')
      (balanceL.trans (add_zero _).symm) (lockedL.trans (sub_eq_add_neg _ _))
    have second := shifts_of_set user foundW (setWallet_wallets _ winner W') balanceW
      (lockedW.trans (sub_eq_add_neg _ _))
    have both := first.trans second
    rw [ite_self, zero_add] at both
    exact both
  | refundBothPlayers playerA playerB fee matchId =>
    obtain ⟨A, A', B, B', foundA, storedA, foundB, storedB, rfl⟩ := refund_ok.mp ran
    obtain ⟨balanceA, lockedA⟩ := update_exact exact storedA
    obtain ⟨balanceB, lockedB⟩ := update_exact exact storedB
    have first := shifts_of_set user foundA (setWallet_wallets db playerA A') balanceA
      (lockedA.trans (sub_eq_add_neg _ _))
    have second := shifts_of_set user foundB (setWallet_wallets _ playerB B') balanceB
      (lockedB.trans (sub_eq_add_neg _ _))
    exact first.trans second

end Exact

/-! ### The abstract account -/

/-- A match that was created: its players and its fee. -/
structure OpenMatch where
  matchId : MatchId
  playerA : UserId
  playerB : UserId
  fee : ℚ
  deriving DecidableEq

def OpenMatch.has (entry : OpenMatch) (user : UserId) : Bool := user = entry.playerA || user = entry.playerB

/-- The two users are the players, in either order. -/
def OpenMatch.between (entry : OpenMatch) (first second : UserId) : Bool :=
  (first = entry.playerA && second = entry.playerB) || (first = entry.playerB && second = entry.playerA)

/-- **The book** of a history: the unsettled matches, the matches paid out, and the money that came
and went. -/
structure Book where
  unsettled : List OpenMatch := []
  released : List OpenMatch := []
  credited : ℚ := 0
  withdrawn : ℚ := 0

namespace Book

/-- The fees of the matches a user plays. -/
def feesOf (user : UserId) (entries : List OpenMatch) : ℚ := ((entries.filter (·.has user)).map (·.fee)).sum

/-- The fees a user has in unsettled matches. -/
def escrowOf (book : Book) (user : UserId) : ℚ := feesOf user book.unsettled

/-- The platform's share of the matches paid out. -/
def platformFees (env : Env) (book : Book) : ℚ := (book.released.map fun entry => platformFeeOf env entry.fee).sum

/-- The unsettled match a settlement is about: the right id, players and fee. -/
def isAbout (matchId : MatchId) (first second : UserId) (fee : ℚ) (entry : OpenMatch) : Bool :=
  entry.matchId = matchId && entry.between first second && entry.fee = fee

/-- **The histories considered**: a match is created between two users for a positive fee, and is
settled while it is unsettled, between its own players and for its own fee. -/
def allows (book : Book) : Transaction → Bool
  | .createMatch _ playerA playerB _ fee => playerA ≠ playerB && 0 < fee
  | .releaseEscrowToWinner winner loser fee matchId => book.unsettled.any (isAbout matchId winner loser fee)
  | .refundBothPlayers playerA playerB fee matchId =>
    book.unsettled.any (isAbout matchId playerA playerB fee)
  | _ => true

/-- The unsettled matches without one. -/
def settle (book : Book) (matchId : MatchId) : List OpenMatch :=
  book.unsettled.filter (·.matchId != matchId)

/-- **The book after a committed transaction.** A webhook credits nothing when the user has no
wallet. -/
def record (book : Book) (db : Db) : Transaction → Book
  | .deposit _ amount => { book with credited := book.credited + amount }
  | .creditVerified _ _ _ amount => { book with credited := book.credited + amount }
  | .creditWebhook owner _ amount =>
    { book with credited := book.credited + if (db.wallets owner).isSome then amount else 0 }
  | .withdraw _ amount _ => { book with withdrawn := book.withdrawn + amount }
  | .createMatch matchId playerA playerB _ fee =>
    { book with unsettled := ⟨matchId, playerA, playerB, fee⟩ :: book.unsettled }
  | .releaseEscrowToWinner winner loser fee matchId =>
    { book with unsettled := book.settle matchId
                released := ⟨matchId, winner, loser, fee⟩ :: book.released }
  | .refundBothPlayers _ _ _ matchId => { book with unsettled := book.settle matchId }

end Book

/-- **Histories of committed transactions**, with their books. -/
inductive Committed (env : Env) (start : Db) : Book → Db → Prop
  | start : Committed env start {} start
  | step {book : Book} {db db' : Db} {transaction : Transaction} {reply : transaction.Reply} :
      Committed env start book db → book.allows transaction = true →
      transaction.run env db = (.ok reply, db') → Committed env start (book.record db transaction) db'

/-- What a user owns: the balance and the escrow. -/
def Db.holdings (db : Db) (user : UserId) : ℚ :=
  ((db.wallets user).map fun wallet => wallet.balance + wallet.lockedBalance).getD 0

/-- **The books balance.** -/
structure Balanced (env : Env) (users : Finset UserId) (book : Book) (db : Db) : Prop where
  escrow : ∀ user ∈ users, ∃ W, db.wallets user = some W ∧ 0 ≤ W.balance ∧
    W.lockedBalance = book.escrowOf user
  total : ∑ user ∈ users, db.holdings user = book.credited - book.withdrawn - book.platformFees env
  settleable : ∀ entry ∈ book.unsettled, ∀ first second, entry.between first second = true →
    (∃ reply db', (Transaction.releaseEscrowToWinner first second entry.fee entry.matchId).run env db =
      (.ok reply, db')) ∧
    (∃ reply db', (Transaction.refundBothPlayers first second entry.fee entry.matchId).run env db =
      (.ok reply, db'))

/-! ### Escrow -/

section Escrow

variable {book : Book} {user : UserId} {entry : OpenMatch}

/-- What a match contributes to the fees of a user. -/
def OpenMatch.share (entry : OpenMatch) (user : UserId) : ℚ := if entry.has user then entry.fee else 0

theorem feesOf_cons (entries : List OpenMatch) :
    Book.feesOf user (entry :: entries) = entry.share user + Book.feesOf user entries := by
  unfold Book.feesOf OpenMatch.share
  rw [List.filter_cons]
  by_cases plays : entry.has user = true
  · rw [if_pos plays, if_pos plays, List.map_cons, List.sum_cons]
  · rw [if_neg plays, if_neg plays, zero_add]

/-- **Removing a match removes its fee from the escrow of its players.** -/
theorem feesOf_remove (user : UserId) {entries : List OpenMatch}
    (unique : (entries.map (·.matchId)).Nodup) (member : entry ∈ entries) : Book.feesOf user entries =
      entry.share user + Book.feesOf user (entries.filter (·.matchId != entry.matchId)) := by
  induction entries with
  | nil => cases member
  | cons first rest ih =>
    obtain ⟨fresh, unique⟩ := List.nodup_cons.mp unique
    have differs : ∀ other ∈ rest, other.matchId ≠ first.matchId := fun other inRest same =>
      fresh (List.mem_map.mpr ⟨other, inRest, same⟩)
    rw [List.filter_cons]
    rcases List.mem_cons.mp member with rfl | inRest
    · -- no other match has this id, so the filter drops exactly the first one
      have others : rest.filter (·.matchId != entry.matchId) = rest := by
        rw [List.filter_eq_self]
        intro other inRest
        simpa using differs other inRest
      rw [if_neg (by simp), others, feesOf_cons]
    · have kept : (first.matchId != entry.matchId) = true := by
        simpa using (differs entry inRest).symm
      rw [if_pos kept, feesOf_cons, feesOf_cons, ih unique inRest]
      ring

theorem fee_le_escrow (unique : (book.unsettled.map (·.matchId)).Nodup)
    (positive : ∀ other ∈ book.unsettled, 0 < other.fee) (member : entry ∈ book.unsettled)
    (plays : entry.has user = true) : entry.fee ≤ book.escrowOf user := by
  have rest : 0 ≤ Book.feesOf user (book.unsettled.filter (·.matchId != entry.matchId)) := by
    refine List.sum_nonneg fun fee inRest => ?_
    obtain ⟨other, kept, rfl⟩ := List.mem_map.mp inRest
    exact (positive other (List.mem_of_mem_filter (List.mem_of_mem_filter kept))).le
  unfold Book.escrowOf
  rw [feesOf_remove user unique member, OpenMatch.share, if_pos plays]
  linarith

theorem share_between {first second : UserId} (different : entry.playerA ≠ entry.playerB)
    (between : entry.between first second = true) : entry.share user =
      (if user = first then entry.fee else 0) + (if user = second then entry.fee else 0) := by
  have cases : (first = entry.playerA ∧ second = entry.playerB) ∨
      (first = entry.playerB ∧ second = entry.playerA) := by
    simpa [OpenMatch.between] using between
  unfold OpenMatch.share OpenMatch.has
  rcases cases with ⟨rfl, rfl⟩ | ⟨rfl, rfl⟩
  all_goals
    by_cases isA : user = entry.playerA
    · subst isA
      simp [different]
    · by_cases isB : user = entry.playerB
      · subst isB
        simp [different.symm]
      · simp [isA, isB]

end Escrow

/-! ### The invariant -/

/-- **The invariant of the books**, with what its proof needs of the unsettled matches. -/
structure BookInv (env : Env) (users : Finset UserId) (book : Book) (db : Db) : Prop where
  owned : ∀ user ∈ users, ∃ W, db.wallets user = some W ∧ W.lockedBalance = book.escrowOf user
  others : ∀ user, user ∉ users → db.wallets user = none
  total : ∑ user ∈ users, db.holdings user = book.credited - book.withdrawn - book.platformFees env
  unique : (book.unsettled.map (·.matchId)).Nodup
  rows : ∀ entry ∈ book.unsettled, db.matches_ entry.matchId ≠ none
  positive : ∀ entry ∈ book.unsettled, 0 < entry.fee
  players : ∀ entry ∈ book.unsettled,
    entry.playerA ≠ entry.playerB ∧ entry.playerA ∈ users ∧ entry.playerB ∈ users

section Step

variable {env : Env} {users : Finset UserId} {book : Book} {db db' : Db} {transaction : Transaction}
  {reply : transaction.Reply}

theorem about_unsettled {matchId : MatchId} {first second : UserId} {fee : ℚ}
    (allowed : book.unsettled.any (Book.isAbout matchId first second fee) = true) :
    ∃ entry ∈ book.unsettled, entry.matchId = matchId ∧ entry.between first second = true ∧
      entry.fee = fee := by
  obtain ⟨entry, member, about⟩ := List.any_eq_true.mp allowed
  have parts : (entry.matchId = matchId ∧ entry.between first second = true) ∧ entry.fee = fee := by
    simpa [Book.isAbout] using about
  exact ⟨entry, member, parts.1.1, parts.1.2, parts.2⟩

/-- **The book and the wallets move by the same escrow.** -/
theorem escrow_record (inv : BookInv env users book db) (allowed : book.allows transaction = true)
    (user : UserId) :
    (book.record db transaction).escrowOf user = book.escrowOf user + transaction.lockedChange user := by
  have settled : ∀ matchId first second fee,
      book.unsettled.any (Book.isAbout matchId first second fee) = true →
      Book.feesOf user (book.settle matchId) = book.escrowOf user +
        ((if user = first then -fee else 0) + (if user = second then -fee else 0)) := by
    intro matchId first second fee about
    obtain ⟨entry, member, rfl, between, rfl⟩ := about_unsettled about
    have removed := feesOf_remove user inv.unique member
    rw [share_between (inv.players entry member).1 between] at removed
    unfold Book.escrowOf Book.settle
    rw [removed]
    split_ifs
    all_goals ring
  cases transaction with
  | createMatch matchId playerA playerB problemId fee =>
    have different : playerA ≠ playerB ∧ 0 < fee := by simpa [Book.allows] using allowed
    have between : (OpenMatch.mk matchId playerA playerB fee).between playerA playerB = true := by
      simp [OpenMatch.between]
    show Book.feesOf user (_ :: book.unsettled) = _
    rw [feesOf_cons, share_between different.1 between, add_comm]
    rfl
  | releaseEscrowToWinner winner loser fee matchId =>
    refine (settled matchId winner loser fee allowed).trans ?_
    rw [add_comm (if user = winner then -fee else 0)]
    rfl
  | refundBothPlayers playerA playerB fee matchId => exact settled matchId playerA playerB fee allowed
  | deposit => exact (add_zero _).symm
  | creditVerified => exact (add_zero _).symm
  | creditWebhook => exact (add_zero _).symm
  | withdraw => exact (add_zero _).symm

/-- What a transaction does to the sum of the wallets, as the book records it. -/
def Book.worth (env : Env) (book : Book) : ℚ := book.credited - book.withdrawn - book.platformFees env

/-- **The book and the sum of the wallets move by the same amount.** -/
theorem worth_record (inv : BookInv env users book db)
    (ran : transaction.run env db = (.ok reply, db')) :
    (book.record db transaction).worth env = book.worth env +
      ∑ user ∈ users, (transaction.balanceChange env user + transaction.lockedChange user) := by
  have member : ∀ {user W}, db.wallets user = some W → user ∈ users := by
    intro user W found
    by_contra outside
    rw [inv.others user outside] at found
    cases found
  have one : ∀ (owner : UserId) (amount : ℚ), owner ∈ users →
      ∑ user ∈ users, (if user = owner then amount else 0) = amount := by
    intro owner amount inside
    rw [Finset.sum_ite_eq' users owner, if_pos inside]
  cases transaction with
  | deposit owner amount =>
    obtain ⟨_, W, W', found, _⟩ := deposit_ok.mp ran
    simp only [Transaction.balanceChange, Transaction.lockedChange, add_zero, one owner amount (member found)]
    simp only [Book.worth, Book.record, Book.platformFees]
    ring
  | creditVerified owner order payment amount =>
    obtain ⟨W, W', found, _⟩ := creditVerified_ok.mp ran
    simp only [Transaction.balanceChange, Transaction.lockedChange, add_zero, one owner amount (member found)]
    simp only [Book.worth, Book.record, Book.platformFees]
    ring
  | creditWebhook owner payment amount =>
    simp only [Transaction.balanceChange, Transaction.lockedChange, add_zero, Finset.sum_ite_eq' users owner]
    simp only [Book.worth, Book.record, Book.platformFees]
    rcases creditWebhook_ok.mp ran with ⟨missing, _⟩ | ⟨W, W', found, _⟩
    · have outside : owner ∉ users := fun inside => by
        obtain ⟨W, found, _⟩ := inv.owned owner inside
        rw [missing] at found
        cases found
      rw [if_neg outside, missing]
      simp
    · rw [if_pos (member found), found]
      simp only [Option.isSome_some, if_true]
      ring
  | withdraw owner amount upiId =>
    obtain ⟨W, W', found, _⟩ := withdraw_ok.mp ran
    simp only [Transaction.balanceChange, Transaction.lockedChange, add_zero, one owner (-amount) (member found)]
    simp only [Book.worth, Book.record, Book.platformFees]
    ring
  | createMatch matchId playerA playerB problemId fee =>
    have cancels : ∀ user, Transaction.balanceChange env user (.createMatch matchId playerA playerB
        problemId fee) + Transaction.lockedChange user (.createMatch matchId playerA playerB problemId fee) =
          0 := by
      intro user
      simp only [Transaction.balanceChange, Transaction.lockedChange]
      split_ifs
      all_goals ring
    rw [Finset.sum_eq_zero fun user _ => cancels user, add_zero]
    rfl
  | refundBothPlayers playerA playerB fee matchId =>
    have cancels : ∀ user, Transaction.balanceChange env user (.refundBothPlayers playerA playerB fee
        matchId) + Transaction.lockedChange user (.refundBothPlayers playerA playerB fee matchId) = 0 := by
      intro user
      simp only [Transaction.balanceChange, Transaction.lockedChange]
      split_ifs
      all_goals ring
    rw [Finset.sum_eq_zero fun user _ => cancels user, add_zero]
    rfl
  | releaseEscrowToWinner winner loser fee matchId =>
    obtain ⟨L, L', W, W', X, foundL, _, foundW, _⟩ := release_ok.mp ran
    have insideL := member foundL
    have insideW : winner ∈ users := by
      by_cases same : winner = loser
      · rw [same]
        exact insideL
      · rw [setWallet_wallets, Function.update_of_ne same] at foundW
        exact member foundW
    simp only [Transaction.balanceChange, Transaction.lockedChange, Finset.sum_add_distrib,
      one winner _ insideW, one loser _ insideL]
    simp only [Book.worth, Book.record, Book.platformFees, List.map_cons, List.sum_cons, netPrizeOf]
    ring

theorem row_kept (ran : transaction.run env db = (.ok reply, db')) {matchId : MatchId}
    (row : db.matches_ matchId ≠ none) : db'.matches_ matchId ≠ none := by
  cases transaction with
  | deposit =>
    obtain ⟨_, W, W', _, _, _, rfl⟩ := deposit_ok.mp ran
    exact row
  | creditVerified =>
    obtain ⟨W, W', _, _, _, rfl⟩ := creditVerified_ok.mp ran
    exact row
  | creditWebhook =>
    rcases creditWebhook_ok.mp ran with ⟨_, rfl⟩ | ⟨W, W', _, _, rfl⟩
    · exact row
    · exact row
  | withdraw =>
    obtain ⟨W, W', _, _, _, _, rfl⟩ := withdraw_ok.mp ran
    exact row
  | createMatch created =>
    obtain ⟨fresh, A, A', B, B', _, _, _, _, _, _, rfl⟩ := createMatch_ok.mp ran
    have other : matchId ≠ created := fun same => row (same ▸ fresh)
    simpa [Function.update_of_ne other] using row
  | releaseEscrowToWinner =>
    obtain ⟨L, L', W, W', X, _, _, _, _, _, _, rfl⟩ := release_ok.mp ran
    exact row
  | refundBothPlayers =>
    obtain ⟨A, A', B, B', _, _, _, _, rfl⟩ := refund_ok.mp ran
    exact row

theorem unsettled_record {entry : OpenMatch} (member : entry ∈ (book.record db transaction).unsettled) :
    entry ∈ book.unsettled ∨ ∃ problemId,
      transaction = .createMatch entry.matchId entry.playerA entry.playerB problemId entry.fee := by
  cases transaction with
  | createMatch matchId playerA playerB problemId fee =>
    rcases List.mem_cons.mp member with rfl | old
    · exact .inr ⟨problemId, rfl⟩
    · exact .inl old
  | releaseEscrowToWinner => exact .inl (List.mem_of_mem_filter member)
  | refundBothPlayers => exact .inl (List.mem_of_mem_filter member)
  | deposit => exact .inl member
  | creditVerified => exact .inl member
  | creditWebhook => exact .inl member
  | withdraw => exact .inl member

/-- No id comes twice: a new match has an id that no row had. -/
theorem unique_record (inv : BookInv env users book db)
    (ran : transaction.run env db = (.ok reply, db')) :
    ((book.record db transaction).unsettled.map (·.matchId)).Nodup := by
  have settled : ∀ matchId, ((book.settle matchId).map (·.matchId)).Nodup := fun matchId =>
    inv.unique.sublist (List.filter_sublist.map _)
  cases transaction with
  | createMatch matchId playerA playerB problemId fee =>
    obtain ⟨fresh, _⟩ := createMatch_ok.mp ran
    refine List.nodup_cons.mpr ⟨fun again => ?_, inv.unique⟩
    obtain ⟨entry, member, same⟩ := List.mem_map.mp again
    exact inv.rows entry member (same ▸ fresh)
  | releaseEscrowToWinner winner loser fee matchId => exact settled matchId
  | refundBothPlayers playerA playerB fee matchId => exact settled matchId
  | deposit => exact inv.unique
  | creditVerified => exact inv.unique
  | creditWebhook => exact inv.unique
  | withdraw => exact inv.unique

theorem holdings_shifts {user : UserId} {balance locked : ℚ} (owns : ∃ W, db.wallets user = some W)
    (shifts : Shifts db db' user balance locked) :
    db'.holdings user = db.holdings user + (balance + locked) := by
  obtain ⟨W, found⟩ := owns
  obtain ⟨W', found', movedBalance, movedLocked⟩ := shifts.2 W found
  unfold Db.holdings
  rw [found, found']
  simp only [Option.map_some, Option.getD_some]
  rw [movedBalance, movedLocked]
  ring

/-- **A committed transaction keeps the invariant of the books.** -/
theorem BookInv.step (exact : env.numeric = .exact) (inv : BookInv env users book db)
    (allowed : book.allows transaction = true) (ran : transaction.run env db = (.ok reply, db')) :
    BookInv env users (book.record db transaction) db' where
  owned user member := by
    obtain ⟨W, found, locked⟩ := inv.owned user member
    obtain ⟨W', found', _, movedLocked⟩ := (run_shifts exact ran user).2 W found
    exact ⟨W', found', by rw [movedLocked, locked, escrow_record inv allowed]⟩
  others user outside := (run_shifts exact ran user).1 (inv.others user outside)
  total := by
    have moved : ∀ user ∈ users, db'.holdings user = db.holdings user +
        (transaction.balanceChange env user + transaction.lockedChange user) := by
      intro user member
      obtain ⟨W, found, _⟩ := inv.owned user member
      exact holdings_shifts ⟨W, found⟩ (run_shifts exact ran user)
    rw [Finset.sum_congr rfl moved, Finset.sum_add_distrib, inv.total]
    exact (worth_record inv ran).symm
  unique := unique_record inv ran
  rows entry member := by
    rcases unsettled_record member with old | ⟨problemId, rfl⟩
    · exact row_kept ran (inv.rows entry old)
    · obtain ⟨_, A, A', B, B', _, _, _, _, _, _, rfl⟩ := createMatch_ok.mp ran
      simp
  positive entry member := by
    rcases unsettled_record member with old | ⟨problemId, rfl⟩
    · exact inv.positive entry old
    · have different : entry.playerA ≠ entry.playerB ∧ 0 < entry.fee := by
        simpa [Book.allows] using allowed
      exact different.2
  players entry member := by
    rcases unsettled_record member with old | ⟨problemId, rfl⟩
    · exact inv.players entry old
    · have different : entry.playerA ≠ entry.playerB ∧ 0 < entry.fee := by
        simpa [Book.allows] using allowed
      obtain ⟨_, A, A', B, B', foundA, _, _, foundB, _, _, _⟩ := createMatch_ok.mp ran
      rw [setWallet_wallets, Function.update_of_ne different.1.symm] at foundB
      have inside : ∀ {user W}, db.wallets user = some W → user ∈ users := by
        intro user W found
        by_contra outside
        rw [inv.others user outside] at found
        cases found
      exact ⟨different.1, inside foundA, inside foundB⟩

end Step

/-! ### The theorem -/

/-- **The books balance after every step** of every history of committed transactions that starts with
empty wallets. -/
theorem books_balance (env : Env) (exact : env.numeric = .exact)
    (percent : 0 ≤ env.platformFeePercent ∧ env.platformFeePercent ≤ 100) (users : Finset UserId)
    {start : Db} (empty : ∀ user ∈ users, ∃ W, start.wallets user = some W ∧ W.balance = 0 ∧ W.lockedBalance = 0)
    (others : ∀ user, user ∉ users → start.wallets user = none) {book : Book} {db : Db}
    (history : Committed env start book db) : Balanced env users book db := by
  have inv : BookInv env users book db := by
    induction history with
    | start =>
      refine ⟨fun user member => ?_, others, ?_, List.nodup_nil, nofun, nofun, nofun⟩
      · obtain ⟨W, found, _, locked⟩ := empty user member
        exact ⟨W, found, locked⟩
      · have nothing : ∀ user ∈ users, start.holdings user = 0 := by
          intro user member
          obtain ⟨W, found, balance, locked⟩ := empty user member
          simp [Db.holdings, found, balance, locked]
        rw [Finset.sum_eq_zero nothing]
        simp [Book.platformFees]
    | step _ allowed ran ih => exact ih.step exact allowed ran
  refine ⟨fun user member => ?_, inv.total, fun entry member first second between => ?_⟩
  · obtain ⟨W, found, locked⟩ := inv.owned user member
    exact ⟨W, found, W.positive_balance, locked⟩
  · -- both players hold the fee in escrow, so neither constraint can stop a settlement
    obtain ⟨different, insideA, insideB⟩ := inv.players entry member
    have positive := inv.positive entry member
    have parts : (first = entry.playerA ∧ second = entry.playerB) ∨
        (first = entry.playerB ∧ second = entry.playerA) := by
      simpa [OpenMatch.between] using between
    have covered : ∀ user ∈ users, entry.has user = true →
        ∃ W, db.wallets user = some W ∧ entry.fee ≤ W.lockedBalance := by
      intro user inside plays
      obtain ⟨W, found, locked⟩ := inv.owned user inside
      exact ⟨W, found, locked ▸ fee_le_escrow inv.unique inv.positive member plays⟩
    obtain ⟨A, foundA, coveredA⟩ := covered entry.playerA insideA (by simp [OpenMatch.has])
    obtain ⟨B, foundB, coveredB⟩ := covered entry.playerB insideB (by simp [OpenMatch.has])
    have prize := netPrizeOf_nonneg percent positive.le
    rcases parts with ⟨rfl, rfl⟩ | ⟨rfl, rfl⟩
    · exact ⟨release_commits _ different foundA foundB coveredA coveredB prize,
        refund_commits _ different foundA foundB coveredA coveredB positive.le⟩
    · exact ⟨release_commits _ different.symm foundB foundA coveredB coveredA prize,
        refund_commits _ different.symm foundB foundA coveredB coveredA positive.le⟩

/-- A history from the list of its transactions. -/
def replayBook (env : Env) : List Transaction → Book → Db → Option (Book × Db)
  | [], book, db => some (book, db)
  | transaction :: rest, book, db =>
    if book.allows transaction && (transaction.run env db).1.isOk then
      replayBook env rest (book.record db transaction) (transaction.run env db).2
    else none

theorem committed_replay {env : Env} {start : Db} {transactions : List Transaction} {book book' : Book}
    {db db' : Db} (history : Committed env start book db)
    (replayed : replayBook env transactions book db = some (book', db')) :
    Committed env start book' db' := by
  induction transactions generalizing book db with
  | nil =>
    cases replayed
    exact history
  | cons transaction rest ih =>
    simp only [replayBook, Bool.and_eq_true] at replayed
    split at replayed
    · rename_i passed
      cases ran : transaction.run env db with
      | mk outcome after =>
        rw [ran] at replayed passed
        cases outcome with
        | error err => cases passed.2
        | ok reply => exact ih (history.step passed.1 ran) replayed
    · cases replayed

/-- Two users with empty wallets. -/
def emptyWallets : Db where
  wallets user := if user ∈ [1, 2] then some ⟨0, 0, 0, 0, le_rfl, le_rfl⟩ else none

theorem emptyWallets_found {user : UserId} {W : Wallet} (found : emptyWallets.wallets user = some W) :
    W = ⟨0, 0, 0, 0, le_rfl, le_rfl⟩ := by
  simp only [emptyWallets] at found
  split at found
  · exact (Option.some.inj found).symm
  · cases found

/-- Exact columns and the default fee. -/
def exactEnv : Env :=
  { numeric := .exact, hmacSha256 := fun secret text => secret ++ text,
    parseWebhook := fun _ => .error .invalidInput }

/-- Two deposits, two matches between the same users, one of them paid out, and a withdrawal. -/
def twoMatchHistory : List Transaction :=
  [.deposit 1 50, .creditVerified 2 [] [] 50, .createMatch 7 1 2 0 10, .createMatch 8 2 1 0 25,
    .releaseEscrowToWinner 2 1 10 7, .withdraw 2 15 []]

theorem books_balance_two_matches : ∃ book db, Committed exactEnv emptyWallets book db ∧
    book.unsettled.length = 1 ∧ book.released.length = 1 ∧ Balanced exactEnv {1, 2} book db := by
  have checked : ((replayBook exactEnv twoMatchHistory {} emptyWallets).any fun after =>
      after.1.unsettled.length == 1 && after.1.released.length == 1) = true := by decide +kernel
  cases replayed : replayBook exactEnv twoMatchHistory {} emptyWallets with
  | none =>
    rw [replayed] at checked
    cases checked
  | some after =>
    rw [replayed] at checked
    have history : Committed exactEnv emptyWallets after.1 after.2 := committed_replay .start replayed
    have counts : after.1.unsettled.length = 1 ∧ after.1.released.length = 1 := by simpa using checked
    refine ⟨after.1, after.2, history, counts.1, counts.2,
      books_balance exactEnv rfl (by decide +kernel) _ ?_ ?_ history⟩
    · intro user member
      have listed : user ∈ [1, 2] := by simpa using member
      exact ⟨_, if_pos listed, rfl, rfl⟩
    · intro user outside
      have unlisted : user ∉ [1, 2] := by simpa using outside
      exact if_neg unlisted

end SkillArena
