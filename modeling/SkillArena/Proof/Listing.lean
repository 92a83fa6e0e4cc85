/-
**The statement of `GET /wallet/transactions`.**

The route lists the ledger rows of a user by `created_at`, the time at which the transaction of the row began.
The balance of a row is fixed later, when its transaction has locked the wallet. A transaction that begins first
and locks second has its row listed below one whose balance it includes (`listing_out_of_order`).

`statement_consistent` is for every run in which the wallets are locked in the order in which the transactions
began: then the listing is the ledger read backwards (`Dated.lists_eq`), every commit is its transaction in one
step (`Serving.enacts`), and the rows of one user form a statement since the ledger explains the wallets
(`Audit`, `Journal.Audited.chain`). The row of a lost match counts nothing: the fee left the balance when the
match began.
-/

import SkillArena.Model.Clock
import SkillArena.Proof.Ledger
import SkillArena.Proof.Serial

namespace SkillArena

open Async

abbrev ClockedConfig := Config sessionSignature Clocked (ℕ × Transaction)

/-- **A consistent statement**, the newest row first: every row has the balance of the row before it, changed by its
own amount. -/
def Consistent (page : List LedgerRow) : Prop :=
  page.IsChain fun newer older => newer.balanceAfter = older.balanceAfter + newer.signed

instance : DecidablePred Consistent := fun page => inferInstanceAs (Decidable (page.IsChain _))

/-! ### The rows of a transaction -/

section Postings

variable {env : Env} {db db' : Db} {transaction : Transaction} {reply : transaction.Reply}

theorem postings_owners (env : Env) (db : Db) (transaction : Transaction) :
    ∃ owners, ((transaction.postings env db).map Posting.userId).Sublist owners ∧
      owners.Perm transaction.lockOrder := by
  cases transaction with
  | releaseEscrowToWinner winner loser fee matchId => exact ⟨[winner, loser], .refl _, .swap _ _ _⟩
  | creditWebhook user payment amount =>
    refine ⟨[user], ?_, .refl _⟩
    simp only [Transaction.postings]
    split
    · exact .refl _
    · exact List.nil_sublist _
  | _ => exact ⟨_, .refl _, .refl _⟩

theorem isSome_of_setWallet {user other : UserId} {W X : Wallet} (known : (db.wallets user).isSome = true)
    (found : (db.setWallet user W).wallets other = some X) : (db.wallets other).isSome = true := by
  by_cases same : other = user
  · rw [same, known]
  · rw [setWallet_wallets, Function.update_of_ne same] at found
    rw [found]
    rfl

theorem run_found (ran : transaction.run env db = (.ok reply, db')) :
    ∀ posting ∈ transaction.postings env db, (db.wallets posting.userId).isSome = true := by
  cases transaction with
  | deposit user amount =>
    obtain ⟨_, W, _, found, _⟩ := deposit_ok.mp ran
    simp [Transaction.postings, found]
  | createMatch matchId playerA playerB problemId fee =>
    obtain ⟨_, A, _, B, _, foundA, _, _, foundB, _⟩ := createMatch_ok.mp ran
    have knownA : (db.wallets playerA).isSome = true := by rw [foundA]; rfl
    simp [Transaction.postings, knownA, isSome_of_setWallet knownA foundB]
  | releaseEscrowToWinner winner loser fee matchId =>
    obtain ⟨L, _, W, _, _, foundL, _, foundW, _⟩ := release_ok.mp ran
    have knownL : (db.wallets loser).isSome = true := by rw [foundL]; rfl
    simp [Transaction.postings, knownL, isSome_of_setWallet knownL foundW]
  | refundBothPlayers playerA playerB fee matchId =>
    obtain ⟨A, _, B, _, foundA, _, foundB, _⟩ := refund_ok.mp ran
    have knownA : (db.wallets playerA).isSome = true := by rw [foundA]; rfl
    simp [Transaction.postings, knownA, isSome_of_setWallet knownA foundB]
  | creditVerified user order payment amount =>
    obtain ⟨W, _, found, _⟩ := creditVerified_ok.mp ran
    simp [Transaction.postings, found]
  | creditWebhook user payment amount =>
    simp only [Transaction.postings]
    split
    · rename_i found
      simp [found]
    · exact List.forall_mem_nil _
  | withdraw user amount upiId =>
    obtain ⟨W, _, found, _⟩ := withdraw_ok.mp ran
    simp [Transaction.postings, found]

end Postings

/-! ### What the clock keeps -/

/-- **The ledger rows of every user were created in the order they were committed**, before the transaction that has
locked the user's wallet began. -/
structure Dated (clocked : Clocked) : Prop where
  aligned : clocked.sessions.db.ledger.length = clocked.createdAt.length
  rising : ∀ user, (clocked.rowsOf user).Pairwise fun older newer => older.2 < newer.2
  before : ∀ user client, clocked.sessions.locks user = some client →
    ∀ row ∈ clocked.rowsOf user, row.2 < clocked.began client

theorem zip_replicate {α β : Type} (xs : List α) (y : β) : xs.zip (List.replicate xs.length y) = xs.map (·, y) := by
  induction xs with
  | nil => rfl
  | cons x xs ih => exact congrArg _ ih

namespace Dated

variable {clocked clocked' : Clocked}

/-- No row is added, and whoever takes a wallet began after its rows. -/
theorem relock (dated : Dated clocked) (ledger : clocked'.sessions.db.ledger = clocked.sessions.db.ledger)
    (created : clocked'.createdAt = clocked.createdAt)
    (locks : ∀ user client, clocked'.sessions.locks user = some client →
      ∀ row ∈ clocked.rowsOf user, row.2 < clocked'.began client) : Dated clocked' := by
  have rows : clocked'.rowsOf = clocked.rowsOf := by
    funext user
    unfold Clocked.rowsOf
    rw [ledger, created]
  refine ⟨?_, ?_, ?_⟩
  · rw [ledger, created]
    exact dated.aligned
  · rw [rows]
    exact dated.rising
  · rw [rows]
    exact locks

/-- **A commit** of rows of wallets the client has locked, one row a wallet. -/
theorem commit {client : ℕ} {new : List LedgerRow} (dated : Dated clocked)
    (ledger : clocked'.sessions.db.ledger = clocked.sessions.db.ledger ++ new)
    (created : clocked'.createdAt = clocked.createdAt ++ List.replicate new.length (clocked.began client))
    (began : clocked'.began = clocked.began)
    (locks : clocked'.sessions.locks = clocked.sessions.locks.release client)
    (owned : ∀ row ∈ new, clocked.sessions.locks row.userId = some client)
    (single : (new.map LedgerRow.userId).Nodup) : Dated clocked' := by
  have rows : ∀ user, clocked'.rowsOf user =
      clocked.rowsOf user ++ (new.filter fun row => row.userId = user).map (·, clocked.began client) := by
    intro user
    unfold Clocked.rowsOf
    rw [ledger, created, List.zip_append dated.aligned, zip_replicate, List.filter_append, List.filter_map]
    rfl
  refine ⟨?_, fun user => ?_, fun user owner held row member => ?_⟩
  · rw [ledger, created, List.length_append, List.length_append, List.length_replicate, dated.aligned]
  · rw [rows, List.pairwise_append]
    refine ⟨dated.rising user, ?_, fun older old newer added => ?_⟩
    · -- there is at most one new row of the user
      have different := (List.pairwise_map.mp single).filter fun row => row.userId = user
      refine List.pairwise_map.mpr (different.imp_of_mem fun first second other => absurd ?_ other)
      rw [of_decide_eq_true (List.mem_filter.mp first).2, of_decide_eq_true (List.mem_filter.mp second).2]
    · obtain ⟨row, inside, rfl⟩ := List.mem_map.mp added
      obtain ⟨isNew, isUser⟩ := List.mem_filter.mp inside
      cases of_decide_eq_true isUser
      exact dated.before _ client (owned row isNew) older old
  · rw [locks, Locks.Table.release_iff] at held
    rw [began]
    rw [rows] at member
    rcases List.mem_append.mp member with old | added
    · exact dated.before user owner held.1 row old
    · obtain ⟨row, inside, rfl⟩ := List.mem_map.mp added
      obtain ⟨isNew, isUser⟩ := List.mem_filter.mp inside
      cases of_decide_eq_true isUser
      rw [owned row isNew] at held
      exact absurd (Option.some.inj held.1).symm held.2

/-- **The listing is the ledger read backwards.** -/
theorem lists_eq (dated : Dated clocked) {user : UserId} {limit : Option ℕ} {page : List LedgerRow}
    (lists : clocked.Lists user limit page) :
    page = ((clocked.sessions.db.ledger.filter fun row => row.userId = user).reverse).take
      (transactionsLimit limit) := by
  obtain ⟨rows, perm, sorted, rfl⟩ := lists
  have falling : (clocked.rowsOf user).reverse.Pairwise fun newer older => older.2 ≤ newer.2 := by
    rw [List.pairwise_reverse]
    exact (dated.rising user).imp le_of_lt
  have listed : rows = (clocked.rowsOf user).reverse := by
    refine List.Perm.eq_of_pairwise (fun first second here there below above => ?_) sorted falling
      (perm.trans (List.reverse_perm _).symm)
    -- different rows were created at different times
    have apart : ((clocked.rowsOf user).map Prod.snd).Nodup :=
      List.pairwise_map.mpr ((dated.rising user).imp ne_of_lt)
    exact List.inj_on_of_nodup_map apart (perm.mem_iff.mp here) (List.mem_reverse.mp there)
      (le_antisymm above below)
  have rowsOnly : (clocked.rowsOf user).map Prod.fst =
      clocked.sessions.db.ledger.filter fun row => row.userId = user := by
    unfold Clocked.rowsOf
    have all := List.map_fst_zip (le_of_eq dated.aligned)
    conv_rhs => rw [← all, List.filter_map]
    rfl
  rw [listed, List.map_take, List.map_reverse, rowsOnly]

end Dated

/-! ### What a commit adds -/

section Commit

variable {env : Env} {transaction : Transaction} {sent : List Statement} {db db' : Db}

theorem Enacts.rows (enacts : Enacts env transaction sent db db') :
    ∃ new, db'.ledger = db.ledger ++ new ∧
      (∀ row ∈ new, row.userId ∈ transaction.lockOrder ∧ (db.wallets row.userId).isSome = true) ∧
      (transaction.lockOrder.Nodup → (new.map LedgerRow.userId).Nodup) := by
  obtain ⟨before, reply, after, ⟨wallets, ledger⟩, ran, _, ledger'⟩ := enacts.oneStep
  obtain ⟨new, posted, written⟩ := run_ledger ran
  obtain ⟨owners, sublist, perm⟩ := postings_owners env before transaction
  have users : new.map LedgerRow.userId = (transaction.postings env before).map Posting.userId := by
    rw [← posted, List.map_map]
    rfl
  refine ⟨new, ?_, fun row member => ⟨?_, ?_⟩, fun distinct => ?_⟩
  · rw [← ledger', written, ledger]
  · have owner : row.userId ∈ new.map LedgerRow.userId := List.mem_map_of_mem member
    rw [users] at owner
    exact perm.mem_iff.mp (sublist.subset owner)
  · rw [← wallets]
    exact run_found ran row.posting (posted ▸ List.mem_map_of_mem member)
  · rw [users]
    exact (perm.nodup_iff.mpr distinct).sublist sublist

theorem Enacts.audit (enacts : Enacts env transaction sent db db') (audit : Audit env.numeric db)
    (whole : transaction.whole env = true) : Audit env.numeric db' := by
  obtain ⟨before, reply, after, ⟨wallets, ledger⟩, ran, wallets', ledger'⟩ := enacts.oneStep
  exact ((audit.congr wallets ledger).run whole ran).congr wallets'.symm ledger'.symm

end Commit

/-! ### Every run -/

/-- **The condition**: the amounts are in whole paise, the wallets of a transaction are different ones, and a
transaction locks a wallet only if it began after the transactions on the wallet that have committed. -/
def inStartOrder (env : Env) (c : ClockedConfig) : Move (ℕ × Transaction) Bool ℕ → Bool
  | .start event => event.2.whole env && event.2.lockOrder.Nodup
  | .step index _ => match (c.threads[index]?).bind (·.2.head) with
    | some (.statement client sql) => (c.state.sessions.rowOf env.numeric client sql).all fun user =>
        c.state.sessions.locks user == some client || (c.state.rowsOf user).all (·.2 < c.state.began client)
    | _ => true
  | .outside _ => true

/-- What every run that meets the condition keeps. -/
structure Timely (env : Env) (c : ClockedConfig) : Prop where
  serving : Serving env ⟨c.state.sessions, c.threads⟩
  asked : ∀ thread ∈ c.threads, thread.1.2.whole env = true ∧ thread.1.2.lockOrder.Nodup
  dated : Dated c.state
  audit : Audit env.numeric c.state.sessions.db

theorem Serving.client_of_finish {env : Env} {c : ServerConfig} {event : ℕ × Transaction} {client : ℕ}
    {committed : Bool} {next : Unit → Prog sessionSignature Unit} (serving : Serving env c)
    (inside : (event, .await (.finish client committed) next) ∈ c.threads) : client = event.1 := by
  rcases serving.each _ _ inside with ended | ⟨rest, is_session, _⟩
  · cases ended
  · cases rest with
    | await sql rest => cases is_session
    | done result =>
      cases result with
      | error err =>
        cases is_session
        rfl
      | ok value =>
        cases is_session
        rfl

namespace Timely

variable {env : Env} {c : ClockedConfig} {clocked : Clocked} {index : ℕ} {event : ℕ × Transaction}

theorem statement {client : ℕ} {sql : Statement} {fails : Bool} {reply : Except Err sql.Reply} {sessions : Sessions}
    (timely : Timely env c)
    (inOrder : ∀ user, c.state.sessions.rowOf env.numeric client sql = some user →
      ∀ row ∈ c.state.rowsOf user, row.2 < c.state.began client)
    (performed : (SessionOp.statement client sql).perform env.numeric fails c.state.sessions =
      some (reply, sessions)) :
    sessions.db = c.state.sessions.db ∧ ∀ user owner, sessions.locks user = some owner →
      ∀ row ∈ c.state.rowsOf user, row.2 < c.state.began owner := by
  simp only [SessionOp.perform] at performed
  split at performed
  · cases performed
    exact ⟨rfl, timely.dated.before⟩
  · split at performed
    · cases performed
    · cases performed
      refine ⟨rfl, fun user owner owned => ?_⟩
      simp only [Sessions.lockFor] at owned
      cases taken : c.state.sessions.rowOf env.numeric client sql with
      | none =>
        rw [taken] at owned
        exact timely.dated.before user owner owned
      | some wallet =>
        rw [taken] at owned
        rcases Locks.Table.take_iff.mp owned with ⟨rfl, rfl⟩ | ⟨_, before⟩
        · exact inOrder user taken
        · exact timely.dated.before user owner before

/-- **Every step of a session.** -/
theorem perform {op : SessionOp} {next : op.Reply → Prog sessionSignature Unit} {fails : Bool} {reply : op.Reply}
    (timely : Timely env c) (found : c.threads[index]? = some (event, .await op next))
    (allowed : inStartOrder env c (.step index fails) = true)
    (performed : c.state.perform env.numeric fails op = some (reply, clocked)) :
    Timely env ⟨clocked, c.threads.set index (event, next reply)⟩ := by
  obtain ⟨⟨reply', sessions⟩, stepped, same⟩ := Option.map_eq_some_iff.mp performed
  cases same
  have inside := List.mem_of_getElem? found
  have serving : Serving env ⟨sessions, c.threads.set index (event, next reply)⟩ :=
    timely.serving.perform found stepped
  have asked : ∀ thread ∈ c.threads.set index (event, next reply),
      thread.1.2.whole env = true ∧ thread.1.2.lockOrder.Nodup := by
    intro thread member
    rcases List.mem_or_eq_of_mem_set member with before | rfl
    · exact timely.asked thread before
    · exact timely.asked (event, .await op next) inside
  cases op with
  | statement client sql =>
    have inOrder : ∀ user, c.state.sessions.rowOf env.numeric client sql = some user →
        ∀ row ∈ c.state.rowsOf user, row.2 < c.state.began client := by
      intro user taken row member
      simp only [inStartOrder, found, Option.bind_some, Prog.head_await, taken, Option.all_some, Bool.or_eq_true,
        beq_iff_eq, List.all_eq_true, decide_eq_true_eq] at allowed
      rcases allowed with mine | later
      · exact timely.dated.before user client mine row member
      · exact later row member
    obtain ⟨rows, locks⟩ := timely.statement inOrder stepped
    refine ⟨serving, asked, timely.dated.relock ?_ ?_ locks, ?_⟩
    · exact congrArg Db.ledger rows
    · simp [rows]
    · exact rows ▸ timely.audit
  | finish client committed =>
    cases timely.serving.client_of_finish inside
    cases stepped
    cases committed with
    | false =>
      refine ⟨serving, asked, timely.dated.relock rfl ?_ fun user owner owned => ?_, timely.audit⟩
      · simp
      · exact timely.dated.before user owner (Locks.Table.release_iff.mp owned).1
    | true =>
      obtain ⟨whole, distinct⟩ := timely.asked _ inside
      obtain ⟨enacts, locked⟩ := timely.serving.enacts inside
      obtain ⟨new, ledger, owners, single⟩ := enacts.rows
      refine ⟨serving, asked, ?_, enacts.audit timely.audit whole⟩
      refine timely.dated.commit ledger ?_ rfl rfl (fun row member => ?_) (single distinct)
      · simp [ledger, SessionOp.client]
      · exact locked _ (owners row member).1 (owners row member).2

theorem start (timely : Timely env c) (allowed : inStartOrder env c (.start event) = true)
    (fresh : event.1 ∉ c.state.sessions.clients) :
    Timely env ⟨{ c.state with
      sessions := { c.state.sessions with clients := c.state.sessions.clients ++ [event.1] }
      began := Function.update c.state.began event.1 c.state.now }, c.threads ++ [(server env).thread event]⟩ := by
  obtain ⟨whole, distinct⟩ := Bool.and_eq_true_iff.mp allowed
  refine ⟨timely.serving.start fresh, fun thread member => ?_,
    timely.dated.relock rfl rfl fun user owner owned => ?_, timely.audit⟩
  · rcases List.mem_append.mp member with before | new
    · exact timely.asked thread before
    · cases List.mem_singleton.mp new
      exact ⟨whole, of_decide_eq_true distinct⟩
  · have other : owner ≠ event.1 := fun same => fresh (same ▸ timely.serving.owners user owner owned)
    show ∀ row ∈ c.state.rowsOf user, row.2 < Function.update c.state.began event.1 c.state.now owner
    rw [Function.update_of_ne other]
    exact timely.dated.before user owner owned

theorem move {c' : ClockedConfig} {m : Move (ℕ × Transaction) Bool ℕ} (timely : Timely env c)
    (allowed : inStartOrder env c m = true) (moved : (clockedServer env).move c m = some c') : Timely env c' := by
  rcases Machine.move_cases moved with ⟨event, state, rfl, arrived, rfl⟩ |
    ⟨index, choice, event, op, next, reply, state, rfl, found, performed, rfl⟩ | ⟨ms, state, rfl, passed, rfl⟩
  · obtain ⟨sessions, begun, rfl⟩ := Option.map_eq_some_iff.mp arrived
    simp only [server] at begun
    split at begun
    · cases begun
    · rename_i fresh
      cases begun
      exact timely.start allowed fresh
  · show Timely env ⟨state, _ ++ []⟩
    rw [List.append_nil]
    exact timely.perform found allowed performed
  · cases passed
    exact ⟨timely.serving, timely.asked, timely.dated.relock rfl rfl timely.dated.before, timely.audit⟩

end Timely

/-- **The listing is a consistent statement** for every user after every run in which the wallets are locked in the
order in which the transactions began, by transactions with amounts in whole paise and different wallets. -/
theorem statement_consistent (env : Env) {db₀ : Db} {now : ℕ} {c : ClockedConfig}
    (zero : ∀ user W, db₀.wallets user = some W → W.balance = 0) (blank : db₀.ledger = [])
    (run : Reaches (clockedServer env) (fun c move => inStartOrder env c move = true)
      ⟨{ sessions := { db := db₀ }, now }, []⟩ c)
    (user : UserId) (limit : Option ℕ) (page : List LedgerRow) (lists : c.state.Lists user limit page) :
    Consistent page := by
  have idle : Timely env ⟨{ sessions := { db := db₀ }, now }, []⟩ := by
    refine ⟨.idle env db₀, fun _ => nofun, ⟨?_, fun user => ?_, fun _ _ => nofun⟩, .initial zero blank⟩
    · exact congrArg List.length blank
    · simp [Clocked.rowsOf]
  have timely : Timely env c :=
    run.invariant (Timely env) idle fun _ _ _ timely allowed moved => timely.move allowed moved
  rw [timely.dated.lists_eq lists]
  unfold Consistent
  refine List.IsChain.take (List.isChain_reverse.mpr ?_) _
  exact timely.audit.books.chain user

/-- Two payments of user 1 are verified at the same time: the transaction of the first begins a moment before
that of the second, and `turns` says whose statements go first. -/
def twoPayments (turns : List ℕ) : List (Move (ℕ × Transaction) Bool ℕ) :=
  [.start (1, .creditVerified 1 ['o', '1'] ['p', '1'] 100), .outside 1,
    .start (2, .creditVerified 1 ['o', '2'] ['p', '2'] 50)] ++ turns.map fun thread => .step thread false

/-- The second takes the lock once the first has committed. -/
theorem statement_consistent_two_payments : ∃ c, Reaches (clockedServer sampleEnv)
    (fun c move => inStartOrder sampleEnv c move = true) ⟨{ sessions := { db := emptyWallets }, now := 0 }, []⟩ c ∧
      c.state.sessions.db.ledger.length = 2 ∧
      ∀ page, c.state.Lists 1 none page → Consistent page := by
  obtain ⟨c, run, rows⟩ := Machine.exists_run (clockedServer sampleEnv) (inStartOrder sampleEnv)
    ⟨{ sessions := { db := emptyWallets }, now := 0 }, []⟩ (twoPayments [0, 0, 0, 0, 1, 1, 1, 1])
    (fun c => c.state.sessions.db.ledger.length = 2) (by decide +kernel)
  exact ⟨c, run, of_decide_eq_true rows,
    statement_consistent sampleEnv emptyWallets_zero rfl run 1 none⟩

/-- **The listing is not a statement** when the second takes the lock first: its row is listed above that of the
first, which has the balance after both. -/
theorem listing_out_of_order : ∃ c, Reaches (clockedServer sampleEnv) (fun _ _ => True)
    ⟨{ sessions := { db := emptyWallets }, now := 0 }, []⟩ c ∧
      ∃ page, c.state.Lists 1 none page ∧ page.map (·.balanceAfter) = [50, 150] ∧ ¬ Consistent page := by
  obtain ⟨c, run, ended⟩ := Machine.exists_run (clockedServer sampleEnv) (fun _ _ => true)
    ⟨{ sessions := { db := emptyWallets }, now := 0 }, []⟩ (twoPayments [1, 1, 1, 1, 0, 0, 0, 0])
    (fun c => decide ((c.state.rowsOf 1).map Prod.snd = [1, 0] ∧
      (c.state.rowsOf 1).map (·.1.balanceAfter) = [50, 150] ∧ ¬ Consistent ((c.state.rowsOf 1).map Prod.fst)))
    (by decide +kernel)
  obtain ⟨created, balances, inconsistent⟩ := of_decide_eq_true ended
  have sorted : (c.state.rowsOf 1).Pairwise fun newer older => older.2 ≤ newer.2 := by
    have falling : ((c.state.rowsOf 1).map Prod.snd).Pairwise fun newer older => older ≤ newer := by
      rw [created]
      decide
    exact List.pairwise_map.mp falling
  have two : (c.state.rowsOf 1).length = 2 := by
    rw [← List.length_map, created]
    rfl
  refine ⟨c, run.mono fun _ _ _ => trivial, (c.state.rowsOf 1).map Prod.fst, ⟨_, .refl _, sorted, ?_⟩, ?_,
    inconsistent⟩
  · rw [List.take_of_length_le (by rw [two]; decide)]
  · rw [List.map_map]
    exact balances

end SkillArena
