/-
**The row locks make every transaction one step.**

The statements of the transactions interleave, and a transaction commits what its statements make of the rows
that are committed by then. Since a session keeps the wallets it has selected locked, its answers still fit
them: when it commits, the wallets and the ledger become what the transaction makes of them in one step
(`commits_as_one_step`). This is the ground for `Transaction.run` as one operation of the backend.

* `rowLocks` — what the statements do, and which answers fit; `ends_enacts` takes the seven bodies apart.
* `Open` — a session under way: the path it has come, and the rows it has locked. `Open.after_commit` is the
  heart: a commit of another session changes none of these rows, so the path is one in the new rows as well.
* `Serving` — the invariant of the server, kept by every move of it.
-/

import SkillArena.Async.Path
import SkillArena.Proof.Deadlock
import SkillArena.Proof.Transactions

namespace SkillArena

open Async
open Sql (Numeric)

variable {N : Numeric} {env : Env} {db db' : Db} {sent : List Statement} {α : Type}

/-! ### Sessions that run to their end -/

/-- The reply of a statement depends on more than the wallets. -/
def Statement.shared : Statement → Bool
  | insertMatch .. | insertWithdrawal .. => true
  | _ => false

/-- **How a session is answered**: as the wallets say. What the insertion of a match or of a withdrawal replies is
left open, since others may have committed rows of these tables meanwhile. -/
def rowLocks (N : Numeric) : Responder sqlSignature Db where
  effect sql db := (Statement.perform N sql db).2
  answers sql db reply := sql.shared = false → reply = (Statement.perform N sql db).1

theorem ends_query {sql : Statement} {reply : sql.Reply} (ends : sql.query.Ends (rowLocks N) sent db reply db') :
    sent = [sql] ∧ db' = (Statement.perform N sql db).2 ∧
      (sql.shared = false → sql.query.interpret (Statement.perform N) db = (.ok reply, db')) := by
  obtain ⟨path, rfl⟩ := ends
  cases sent with
  | nil => cases path
  | cons sql' later =>
    obtain ⟨next, answer, same, fits, path⟩ := path
    cases same
    cases later with
    | nil =>
      cases path
      exact ⟨rfl, rfl, fun own => Prod.ext (fits own).symm rfl⟩
    | cons sql' later =>
      obtain ⟨_, _, same, _⟩ := path
      cases same

theorem selectThen_ends {user : UserId} {err : Err} {rest : Wallet → SqlTask α} {value : α}
    (ends : (do
      match ← (Statement.selectWallet user).query with
      | none => Task.throw err
      | some wallet => rest wallet : SqlTask α).Ends (rowLocks N) sent db value db') :
    ∃ wallet later, sent = .selectWallet user :: later ∧ db.wallets user = some wallet ∧
      (rest wallet).Ends (rowLocks N) later db value db' := by
  obtain ⟨found, _, later, _, rfl, selected, ends⟩ := Task.ends_bind ends
  obtain ⟨rfl, _, interpreted⟩ := ends_query selected
  obtain ⟨seen, rfl⟩ := select_ok.mp (interpreted rfl)
  cases found with
  | none => exact (Task.not_ends_throw ends).elim
  | some wallet => exact ⟨wallet, later, rfl, seen, ends⟩

theorem updateThen_ends {user : UserId} {set : WalletSet} {rest : SqlTask α} {value : α} {wallet : Wallet}
    (found : db.wallets user = some wallet)
    (ends : (do
      (Statement.updateWallet user set).query
      rest : SqlTask α).Ends (rowLocks N) sent db value db') :
    ∃ wallet' later, sent = .updateWallet user set :: later ∧ wallet.update N set = .ok wallet' ∧
      rest.Ends (rowLocks N) later (db.setWallet user wallet') value db' := by
  obtain ⟨_, _, later, _, rfl, updated, ends⟩ := Task.ends_bind ends
  obtain ⟨rfl, _, interpreted⟩ := ends_query updated
  obtain ⟨wallet', stored, rfl⟩ := (updateWallet_ok found).mp (interpreted rfl)
  exact ⟨wallet', later, rfl, stored, ends⟩

theorem updateInsertThen_ends {user : UserId} {set : WalletSet} {type : TxType}
    {amount balance : ℚ} {reference : Option MatchId} {description : Description}
    {rest : SqlTask α} {value : α} {wallet : Wallet} (found : db.wallets user = some wallet)
    (ends : (do
      (Statement.updateWallet user set).query
      (Statement.insertTransaction user type amount (.value balance) reference description).query
      rest : SqlTask α).Ends (rowLocks N) sent db value db') :
    ∃ wallet' later, (∀ sql ∈ later, sql ∈ sent) ∧ wallet.update N set = .ok wallet' ∧
      rest.Ends (rowLocks N) later ((db.setWallet user wallet').addRow
        ⟨user, type, N.store amount, N.store balance, reference, description⟩) value db' := by
  obtain ⟨wallet', _, rfl, stored, ends⟩ := updateThen_ends found ends
  obtain ⟨_, before, later, _, rfl, inserted, ends⟩ := Task.ends_bind ends
  obtain ⟨_, _, interpreted⟩ := ends_query inserted
  obtain rfl := insertTransaction_ok.mp (interpreted rfl)
  exact ⟨wallet', later, fun sql member => .tail _ (List.mem_append_right _ member), stored, ends⟩

theorem updateInsert_ends {user : UserId} {set : WalletSet} {type : TxType} {amount balance : ℚ}
    {reference : Option MatchId} {description : Description} {wallet : Wallet}
    (found : db.wallets user = some wallet)
    (ends : (do
      (Statement.updateWallet user set).query
      (Statement.insertTransaction user type amount (.value balance) reference
        description).query : SqlTask Unit).Ends (rowLocks N) sent db () db') :
    ∃ wallet', wallet.update N set = .ok wallet' ∧ db' = (db.setWallet user wallet').addRow
      ⟨user, type, N.store amount, N.store balance, reference, description⟩ := by
  obtain ⟨wallet', _, rfl, stored, ends⟩ := updateThen_ends found ends
  obtain ⟨_, _, interpreted⟩ := ends_query ends
  exact ⟨wallet', stored, insertTransaction_ok.mp (interpreted rfl)⟩

/-- Databases with the same wallets and the same ledger. -/
def SameMoney (db db' : Db) : Prop := db.wallets = db'.wallets ∧ db.ledger = db'.ledger

/-- **What a session that runs to its end does**: it has selected the wallets of its transaction, and the wallets
and the ledger are as after the transaction in one step. -/
structure Enacts (env : Env) (transaction : Transaction) (sent : List Statement) (db db' : Db) : Prop where
  selects : ∀ user ∈ transaction.lockOrder, .selectWallet user ∈ sent
  oneStep : ∃ before reply after, SameMoney before db ∧ transaction.run env before = (.ok reply, after) ∧
    SameMoney after db'

theorem Enacts.of_run {transaction : Transaction} {reply : transaction.Reply}
    (selects : ∀ user ∈ transaction.lockOrder, .selectWallet user ∈ sent)
    (ran : transaction.run env db = (.ok reply, db')) : Enacts env transaction sent db db' :=
  ⟨selects, db, reply, db', ⟨rfl, rfl⟩, ran, rfl, rfl⟩

theorem selects_one {user : UserId} {later : List Statement} :
    ∀ other ∈ [user], Statement.selectWallet other ∈ .selectWallet user :: later := by
  intro other member
  cases List.mem_singleton.mp member
  exact .head _

theorem lockFunds_ends {user : UserId} {fee : ℚ} {matchId : MatchId}
    (ends : (lockFundsForMatch user fee matchId).Ends (rowLocks N) sent db () db') :
    .selectWallet user ∈ sent ∧
      (lockFundsForMatch user fee matchId).interpret (Statement.perform N) db = (.ok (), db') := by
  obtain ⟨W, later, rfl, found, ends⟩ := selectThen_ends ends
  refine ⟨.head _, lockFunds_ok.mpr ?_⟩
  by_cases poor : W.balance < fee
  · rw [if_pos poor] at ends
    exact (Task.not_ends_throw ends).elim
  · rw [if_neg poor] at ends
    obtain ⟨W', stored, rfl⟩ := updateInsert_ends found ends
    exact ⟨W, W', found, not_lt.mp poor, stored, rfl⟩

theorem insertMatch_money (matchId : MatchId) (row : MatchRow) :
    SameMoney db (Statement.perform N (.insertMatch matchId row) db).2 := by
  by_cases known : (db.matches_ matchId).isSome
  · simp [Statement.perform, Statement.exec, known, SameMoney]
  · simp [Statement.perform, Statement.exec, known, SameMoney]

theorem createMatch_ends {matchId : MatchId} {playerA playerB : UserId} {problemId : ProblemId} {fee : ℚ}
    (ends : (createMatch env matchId playerA playerB problemId fee).Ends (rowLocks env.numeric) sent db () db') :
    Enacts env (.createMatch matchId playerA playerB problemId fee) sent db db' := by
  obtain ⟨_, _, _, between, rfl, inserted, locks⟩ := Task.ends_bind ends
  obtain ⟨rfl, performed, _⟩ := ends_query inserted
  obtain ⟨wallets, ledger⟩ : SameMoney db between := performed ▸ insertMatch_money _ _
  obtain ⟨_, _, _, _, rfl, lockedA, lockedB⟩ := Task.ends_bind locks
  obtain ⟨selectsA, ranA⟩ := lockFunds_ends lockedA
  obtain ⟨selectsB, ranB⟩ := lockFunds_ends lockedB
  obtain ⟨A, A', foundA, richA, storedA, rfl⟩ := lockFunds_ok.mp ranA
  obtain ⟨B, B', foundB, richB, storedB, rfl⟩ := lockFunds_ok.mp ranB
  rw [addRow_wallets, setWallet_wallets, ← wallets] at foundB
  rw [← wallets] at foundA
  refine ⟨?_, { db with matches_ := fun _ => none }, (), _, ⟨rfl, rfl⟩,
    createMatch_ok.mpr ⟨rfl, A, A', B, B', foundA, richA, storedA, foundB, richB, storedB, rfl⟩, ?_, ?_⟩
  · simp [Transaction.lockOrder, selectsA, selectsB]
  · simp [← wallets]
  · simp [← ledger]

theorem withdraw_ends {user : UserId} {amount : ℚ} {upiId : Text} {value : ℕ × ℚ}
    (ends : (withdraw user amount upiId).Ends (rowLocks env.numeric) sent db value db') :
    Enacts env (.withdraw user amount upiId) sent db db' := by
  obtain ⟨W, _, rfl, found, ends⟩ := selectThen_ends ends
  by_cases poor : W.balance < amount
  · rw [if_pos poor] at ends
    exact (Task.not_ends_throw ends).elim
  · rw [if_neg poor] at ends
    obtain ⟨W', _, rfl, stored, ends⟩ := updateThen_ends found ends
    obtain ⟨number, _, _, _, rfl, requested, ends⟩ := Task.ends_bind ends
    obtain ⟨rfl, rfl, _⟩ := ends_query requested
    obtain ⟨_, _, _, _, rfl, inserted, ends⟩ := Task.ends_bind ends
    obtain ⟨_, rfl, _⟩ := ends_query inserted
    obtain ⟨rfl, rfl, rfl⟩ := Task.ends_pure ends
    let before : Db := { db with withdrawals := List.replicate number ⟨user, 0, [], true⟩ }
    have numbered : before.withdrawals.length = number := List.length_replicate
    refine ⟨selects_one, before, _, _, ⟨rfl, rfl⟩,
      withdraw_ok.mpr ⟨W, W', found, not_lt.mp poor, stored, rfl, rfl⟩, rfl, ?_⟩
    rw [numbered]
    rfl

theorem refundPlayers_ends {user : UserId} {rest : List UserId} {fee : ℚ} {matchId : MatchId}
    (ends : (refundPlayers fee matchId (user :: rest)).Ends (rowLocks N) sent db () db') :
    ∃ W W' later, sent.head? = some (.selectWallet user) ∧ (∀ sql ∈ later, sql ∈ sent) ∧
      db.wallets user = some W ∧ W.update N (refundSet W fee) = .ok W' ∧
      (refundPlayers fee matchId rest).Ends (rowLocks N) later
        ((db.setWallet user W').addRow (refundRow N user W fee matchId)) () db' := by
  obtain ⟨W, _, rfl, found, ends⟩ := selectThen_ends ends
  obtain ⟨W', later, inside, stored, ends⟩ := updateInsertThen_ends found ends
  exact ⟨W, W', later, rfl, fun sql member => .tail _ (inside sql member), found, stored, ends⟩

/-- **Every session that runs to its end.** -/
theorem ends_enacts {transaction : Transaction} {value : transaction.Reply}
    (ends : (transaction.body env).Ends (rowLocks env.numeric) sent db value db') :
    Enacts env transaction sent db db' := by
  cases transaction with
  | deposit user amount =>
    change (SkillArena.deposit user amount).Ends _ _ _ _ _ at ends
    unfold SkillArena.deposit at ends
    by_cases positive : amount ≤ 0
    · rw [if_pos positive] at ends
      exact (Task.not_ends_throw ends).elim
    · rw [if_neg positive] at ends
      obtain ⟨W, _, rfl, found, ends⟩ := selectThen_ends ends
      obtain ⟨W', _, _, stored, ends⟩ := updateInsertThen_ends found ends
      obtain ⟨_, rfl, rfl⟩ := Task.ends_pure ends
      exact .of_run selects_one (deposit_ok.mpr ⟨not_le.mp positive, W, W', found, stored, rfl, rfl⟩)
  | createMatch matchId playerA playerB problemId fee => exact createMatch_ends ends
  | releaseEscrowToWinner winner loser fee matchId =>
    obtain ⟨L, _, rfl, foundL, ends⟩ := selectThen_ends ends
    obtain ⟨L', _, rfl, storedL, ends⟩ := updateThen_ends foundL ends
    obtain ⟨W, _, rfl, foundW, ends⟩ := selectThen_ends ends
    obtain ⟨W', _, _, storedW, ends⟩ := updateInsertThen_ends foundW ends
    obtain ⟨_, _, _, _, rfl, inserted, ends⟩ := Task.ends_bind ends
    obtain ⟨_, _, interpreted⟩ := ends_query inserted
    obtain ⟨_, rfl, rfl⟩ := Task.ends_pure ends
    obtain ⟨X, foundX⟩ : ∃ X, ((db.setWallet loser L').setWallet winner W').wallets loser = some X := by
      by_cases same : loser = winner
      · exact ⟨W', by simp [same]⟩
      · exact ⟨L', by simp [same]⟩
    have current : (((db.setWallet loser L').setWallet winner W').addRow
        (winRow env winner W fee matchId)).wallets loser = some X := foundX
    obtain rfl := (insertCurrent_ok current).mp (interpreted rfl)
    refine .of_run ?_ (release_ok.mpr ⟨L, L', W, W', X, foundL, storedL, foundW, storedW, foundX, rfl, rfl⟩)
    simp [Transaction.lockOrder]
  | refundBothPlayers playerA playerB fee matchId =>
    obtain ⟨A, A', _, first, inside, foundA, storedA, ends⟩ := refundPlayers_ends ends
    obtain ⟨B, B', _, second, _, foundB, storedB, ends⟩ := refundPlayers_ends ends
    obtain ⟨_, _, rfl⟩ := Task.ends_pure ends
    refine .of_run ?_ (refund_ok.mpr ⟨A, A', B, B', foundA, storedA, foundB, storedB, rfl⟩)
    simp [Transaction.lockOrder, List.mem_of_mem_head? first, inside _ (List.mem_of_mem_head? second)]
  | creditVerified user order payment amount =>
    obtain ⟨W, _, rfl, found, ends⟩ := selectThen_ends ends
    obtain ⟨W', _, _, stored, ends⟩ := updateInsertThen_ends found ends
    obtain ⟨_, rfl, rfl⟩ := Task.ends_pure ends
    exact .of_run selects_one (creditVerified_ok.mpr ⟨W, W', found, stored, rfl, rfl⟩)
  | creditWebhook user payment amount =>
    obtain ⟨seen, _, _, _, rfl, selected, ends⟩ := Task.ends_bind ends
    obtain ⟨rfl, _, interpreted⟩ := ends_query selected
    obtain ⟨found, rfl⟩ := select_ok.mp (interpreted rfl)
    cases seen with
    | none =>
      obtain ⟨rfl, rfl, rfl⟩ := Task.ends_pure ends
      exact .of_run selects_one (creditWebhook_ok.mpr (.inl ⟨found, rfl⟩))
    | some W =>
      obtain ⟨W', stored, rfl⟩ := updateInsert_ends found ends
      exact .of_run selects_one (creditWebhook_ok.mpr (.inr ⟨W, W', found, stored, rfl⟩))
  | withdraw user amount upiId => exact withdraw_ends ends

/-! ### Sessions that fail -/

/-- A statement is answered with an error. -/
def rejected (sql : sqlSignature.Op) (reply : sqlSignature.Reply sql) : Prop := ∃ err, reply = .error err

theorem aborts_query (sql : Statement) : sql.query.prog.Aborts rejected := by
  refine ⟨?_, fun _ => trivial⟩
  rintro _ ⟨err, rfl⟩
  exact ⟨err, rfl⟩

theorem query_aborts {sql : Statement} {rest : sql.Reply → SqlTask α}
    (later : ∀ reply, (rest reply).prog.Aborts rejected) : (sql.query >>= rest).prog.Aborts rejected :=
  Task.aborts_bind (aborts_query sql) later

theorem select_aborts {user : UserId} {missing : SqlTask α} {rest : Wallet → SqlTask α}
    (absent : missing.prog.Aborts rejected) (later : ∀ wallet, (rest wallet).prog.Aborts rejected) :
    (do
      match ← (Statement.selectWallet user).query with
      | none => missing
      | some wallet => rest wallet : SqlTask α).prog.Aborts rejected := by
  refine query_aborts fun found => ?_
  cases found with
  | none => exact absent
  | some wallet => exact later wallet

theorem lockFunds_aborts (user : UserId) (fee : ℚ) (matchId : MatchId) :
    (lockFundsForMatch user fee matchId).prog.Aborts rejected := by
  refine select_aborts trivial fun wallet => ?_
  split
  · exact trivial
  · exact query_aborts fun _ => aborts_query _

theorem refundPlayers_aborts (fee : ℚ) (matchId : MatchId) (players : List UserId) :
    (refundPlayers fee matchId players).prog.Aborts rejected := by
  induction players with
  | nil => exact trivial
  | cons user rest ih => exact select_aborts trivial fun _ => query_aborts fun _ => query_aborts fun _ => ih

/-- **No transaction goes on after an error.** -/
theorem body_aborts (env : Env) (transaction : Transaction) : (transaction.body env).prog.Aborts rejected := by
  cases transaction with
  | deposit user amount =>
    show (SkillArena.deposit user amount).prog.Aborts rejected
    unfold SkillArena.deposit
    split
    · exact trivial
    · exact select_aborts trivial fun _ => query_aborts fun _ => query_aborts fun _ => trivial
  | createMatch matchId playerA playerB problemId fee =>
    refine query_aborts fun _ => ?_
    exact Task.aborts_bind (lockFunds_aborts _ _ _) fun _ => lockFunds_aborts _ _ _
  | releaseEscrowToWinner winner loser fee matchId =>
    refine select_aborts trivial fun _ => query_aborts fun _ => ?_
    refine select_aborts trivial fun _ => query_aborts fun _ => ?_
    exact query_aborts fun _ => query_aborts fun _ => trivial
  | refundBothPlayers playerA playerB fee matchId => exact refundPlayers_aborts fee matchId [playerA, playerB]
  | creditVerified user order payment amount =>
    exact select_aborts trivial fun _ => query_aborts fun _ => query_aborts fun _ => trivial
  | creditWebhook user payment amount => exact select_aborts trivial fun _ => query_aborts fun _ => aborts_query _
  | withdraw user amount upiId =>
    refine select_aborts trivial fun wallet => ?_
    dsimp only
    split
    · exact trivial
    · exact query_aborts fun _ => query_aborts fun _ => query_aborts fun _ => trivial

/-! ### What the statements do to the wallets -/

/-- What an `UPDATE` replies, and what it makes of the row. -/
def updatedRow (N : Numeric) (set : WalletSet) : Option Wallet → Except Err Unit × Option Wallet
  | none => (.ok (), none)
  | some wallet => match wallet.update N set with
    | .ok wallet' => (.ok (), some wallet')
    | .error err => (.error err, some wallet)

theorem perform_update (user : UserId) (set : WalletSet) :
    Statement.perform N (.updateWallet user set) db = ((updatedRow N set (db.wallets user)).1,
      { db with wallets := Function.update db.wallets user (updatedRow N set (db.wallets user)).2 }) := by
  have unchanged : { db with wallets := Function.update db.wallets user (db.wallets user) } = db := by
    rw [Function.update_eq_self]
  simp only [Statement.perform, Statement.exec]
  cases found : db.wallets user with
  | none =>
    rw [found] at unchanged
    exact congrArg (Prod.mk _) unchanged.symm
  | some wallet =>
    rw [found] at unchanged
    simp only [updatedRow]
    cases wallet.update N set with
    | error err => exact congrArg (Prod.mk _) unchanged.symm
    | ok wallet' => rfl

theorem updatedRow_isSome (set : WalletSet) (row : Option Wallet) :
    (updatedRow N set row).2.isSome = row.isSome := by
  cases row with
  | none => rfl
  | some wallet =>
    simp only [updatedRow]
    cases wallet.update N set with
    | error err => rfl
    | ok wallet' => rfl

theorem effect_wallets {sql : Statement} {user : UserId} (other : sql.row ≠ some user) :
    ((rowLocks N).effect sql db).wallets user = db.wallets user := by
  cases sql with
  | updateWallet owner set =>
    have different : user ≠ owner := fun same => other (congrArg some same.symm)
    simp only [rowLocks, perform_update]
    exact Function.update_of_ne different _ _
  | selectWallet owner => rfl
  | insertTransaction owner type amount balance reference description =>
    cases balance with
    | value balance => rfl
    | currentBalance =>
      simp only [rowLocks, Statement.perform, Statement.exec]
      cases db.wallets owner with
      | none => rfl
      | some wallet => rfl
  | insertMatch matchId row => exact (congrFun (insertMatch_money matchId row).1 user).symm
  | insertWithdrawal owner amount upiId => rfl

/-- What a statement makes of the wallet it locks depends on this wallet alone. -/
theorem effect_at_row {sql : Statement} {user : UserId} (row : sql.row = some user) :
    ∃ change : Option Wallet → Option Wallet, (∀ wallet, (change wallet).isSome = wallet.isSome) ∧
      ∀ db, ((rowLocks N).effect sql db).wallets user = change (db.wallets user) := by
  cases sql with
  | selectWallet owner =>
    cases row
    exact ⟨id, fun _ => rfl, fun _ => rfl⟩
  | updateWallet owner set =>
    cases row
    refine ⟨fun wallet => (updatedRow N set wallet).2, updatedRow_isSome set, fun db => ?_⟩
    simp only [rowLocks, perform_update]
    exact Function.update_self _ _ _
  | insertTransaction => cases row
  | insertMatch => cases row
  | insertWithdrawal => cases row

theorem effect_isSome (sql : Statement) (user : UserId) :
    (((rowLocks N).effect sql db).wallets user).isSome = (db.wallets user).isSome := by
  by_cases row : sql.row = some user
  · obtain ⟨change, keeps, changes⟩ := effect_at_row (N := N) row
    rw [changes, keeps]
  · rw [effect_wallets row]

theorem run_isSome (sent : List Statement) (db : Db) (user : UserId) :
    (((rowLocks N).run sent db).wallets user).isSome = (db.wallets user).isSome := by
  induction sent generalizing db with
  | nil => rfl
  | cons sql later ih => exact (ih _).trans (effect_isSome sql user)

theorem run_wallets {user : UserId} (others : ∀ sql ∈ sent, sql.row ≠ some user) (db : Db) :
    ((rowLocks N).run sent db).wallets user = db.wallets user := by
  induction sent generalizing db with
  | nil => rfl
  | cons sql later ih =>
    refine (ih (fun sql member => others sql (.tail _ member)) _).trans ?_
    exact effect_wallets (others sql (.head _))

/-- Two databases with the same users, whose wallets are the same as far as a session owns them. -/
structure OwnedAlike (here : UserId → Bool) (own : UserId → Prop) (db db' : Db) : Prop where
  left : ∀ user, (db.wallets user).isSome = here user
  right : ∀ user, (db'.wallets user).isSome = here user
  same : ∀ user, own user → db.wallets user = db'.wallets user

namespace OwnedAlike

variable {here : UserId → Bool} {own : UserId → Prop} {sql : Statement}

theorem at_row (alike : OwnedAlike here own db db') {user : UserId}
    (owned : here user = true → own user) : db.wallets user = db'.wallets user := by
  by_cases known : here user = true
  · exact alike.same user (owned known)
  · have missing : (db.wallets user).isSome = false := by rw [alike.left, Bool.eq_false_iff.mpr known]
    have missing' : (db'.wallets user).isSome = false := by rw [alike.right, Bool.eq_false_iff.mpr known]
    rw [Option.isSome_eq_false_iff, Option.isNone_iff_eq_none] at missing missing'
    rw [missing, missing']

theorem effect (alike : OwnedAlike here own db db')
    (owned : ∀ user, sql.row = some user → here user = true → own user) :
    OwnedAlike here own ((rowLocks N).effect sql db) ((rowLocks N).effect sql db') := by
  refine ⟨fun user => ?_, fun user => ?_, fun user mine => ?_⟩
  · rw [effect_isSome, alike.left]
  · rw [effect_isSome, alike.right]
  · by_cases row : sql.row = some user
    · obtain ⟨change, _, changes⟩ := effect_at_row (N := N) row
      rw [changes, changes, alike.at_row (owned user row)]
    · rw [effect_wallets row, effect_wallets row, alike.same user mine]

/-- **A statement is answered alike in both.** -/
theorem answers (alike : OwnedAlike here own db db')
    (owned : ∀ user, sql.row = some user → here user = true → own user) (own : sql.shared = false) :
    (Statement.perform N sql db).1 = (Statement.perform N sql db').1 := by
  cases sql with
  | selectWallet owner => exact congrArg Except.ok (alike.at_row (owned owner rfl))
  | updateWallet owner set => rw [perform_update, perform_update, alike.at_row (owned owner rfl)]
  | insertTransaction owner type amount balance reference description =>
    cases balance with
    | value balance => rfl
    | currentBalance =>
      -- the row is inserted exactly if the user has a wallet
      have known : (db.wallets owner).isSome = (db'.wallets owner).isSome := by rw [alike.left, alike.right]
      simp only [Statement.perform, Statement.exec]
      cases found : db.wallets owner with
      | none =>
        rw [found] at known
        rw [Option.isNone_iff_eq_none.mp (Option.isSome_eq_false_iff.mp known.symm)]
      | some wallet =>
        rw [found] at known
        obtain ⟨wallet', found'⟩ := Option.isSome_iff_exists.mp known.symm
        rw [found']
  | insertMatch matchId row => cases own
  | insertWithdrawal owner amount upiId => cases own

end OwnedAlike

/-! ### The server -/

abbrev ServerConfig := Config sessionSignature Sessions (ℕ × Transaction)

/-- A statement that is not blocked takes no row from another session. -/
theorem lockFor_keeps {sessions : Sessions} {client owner : ℕ} {sql : Statement} {user : UserId}
    (unblocked : ¬ sessions.blocked N client sql = true) (owned : sessions.locks user = some owner) :
    sessions.lockFor N client sql user = some owner := by
  unfold Sessions.lockFor
  cases row : sessions.rowOf N client sql with
  | none => exact owned
  | some taken =>
    by_cases here : user = taken
    · subst here
      cases Held.free_of_unblocked row unblocked owner owned
      exact Locks.Table.take_iff.mpr (.inl ⟨rfl, rfl⟩)
    · exact Locks.Table.take_iff.mpr (.inr ⟨here, owned⟩)

/-- **An open transaction**: what is left of its body, and the wallets it has locked. -/
structure Open (env : Env) (sessions : Sessions) (event : ℕ × Transaction)
    (rest : Prog sqlSignature (Except Err event.2.Reply)) : Prop where
  aborts : rest.Aborts rejected
  path : (event.2.body env).prog.Path (rowLocks env.numeric) (sessions.sent event.1) sessions.db rest ∨
    ∃ err, rest = .done (.error err)
  locked : ∀ sql ∈ sessions.sent event.1, ∀ user, sql.row = some user → (sessions.db.wallets user).isSome = true →
    sessions.locks user = some event.1

namespace Open

variable {sessions sessions' : Sessions} {event : ℕ × Transaction}
  {rest : Prog sqlSignature (Except Err event.2.Reply)}

theorem stay (opened : Open env sessions event rest) (sent : sessions'.sent event.1 = sessions.sent event.1)
    (rows : sessions'.db = sessions.db)
    (locks : ∀ user, sessions.locks user = some event.1 → sessions'.locks user = some event.1) :
    Open env sessions' event rest := by
  refine ⟨opened.aborts, ?_, ?_⟩
  · rw [sent, rows]
    exact opened.path
  · rw [sent, rows]
    exact fun sql member user row found => locks user (opened.locked sql member user row found)

/-- **Another transaction commits**: the rows it has changed are not those of this one. -/
theorem after_commit (opened : Open env sessions event rest) {client : ℕ} (other : client ≠ event.1)
    (theirs : ∀ sql ∈ sessions.sent client, ∀ user, sql.row = some user →
      (sessions.db.wallets user).isSome = true → sessions.locks user = some client)
    (sent : sessions'.sent event.1 = sessions.sent event.1)
    (rows : sessions'.db = sessions.view env.numeric client)
    (locks : ∀ user, sessions.locks user = some event.1 → sessions'.locks user = some event.1) :
    Open env sessions' event rest := by
  have known : ∀ user, (sessions'.db.wallets user).isSome = (sessions.db.wallets user).isSome := by
    rw [rows]
    exact run_isSome _ _
  have alike : OwnedAlike (fun user => (sessions.db.wallets user).isSome)
      (fun user => (sessions.db.wallets user).isSome = true ∧ sessions.locks user = some event.1)
      sessions.db sessions'.db := by
    refine ⟨fun _ => rfl, known, fun user ⟨found, mine⟩ => ?_⟩
    rw [rows]
    refine (run_wallets (fun sql member row => ?_) _).symm
    rw [theirs sql member user row found] at mine
    exact other (Option.some.inj mine)
  refine ⟨opened.aborts, ?_, ?_⟩
  · rw [sent]
    refine opened.path.imp_left fun path => path.transfer (fun sql member db db' alike => ?_) alike
    have owned := fun user row found => And.intro found (opened.locked sql member user row found)
    exact ⟨alike.effect owned, fun reply fits own => (fits own).trans (alike.answers owned own)⟩
  · rw [sent]
    intro sql member user row found
    rw [known] at found
    exact locks user (opened.locked sql member user row found)

/-- A statement of this transaction is answered. -/
theorem answered {sql : Statement} {next : Except Err sql.Reply → Prog sqlSignature (Except Err event.2.Reply)}
    (opened : Open env sessions event (.await sql next))
    (unblocked : ¬ sessions.blocked env.numeric event.1 sql = true) :
    Open env { sessions with
      locks := sessions.lockFor env.numeric event.1 sql
      sent := Function.update sessions.sent event.1 (sessions.sent event.1 ++ [sql]) } event
      (next (sql.perform env.numeric (sessions.view env.numeric event.1)).1) := by
  refine ⟨opened.aborts.2 _, .inl ?_, ?_⟩
  · rcases opened.path with path | ⟨_, ended⟩
    · simp only [Function.update_self]
      exact path.snoc fun _ => rfl
    · cases ended
  · simp only [Function.update_self]
    intro sql' member user row found
    have seen : ((sessions.view env.numeric event.1).wallets user).isSome = true := (run_isSome _ _ _).trans found
    rcases List.mem_append.mp member with before | new
    · exact lockFor_keeps unblocked (opened.locked sql' before user row found)
    · cases List.mem_singleton.mp new
      have locks : sessions.rowOf env.numeric event.1 sql = some user := by
        simp [Sessions.rowOf, row, seen]
      simp only [Sessions.lockFor, locks]
      exact Locks.Table.take_iff.mpr (.inl ⟨rfl, rfl⟩)

end Open

/-- **What the server keeps**: every session is over, or its transaction is open. -/
structure Serving (env : Env) (c : ServerConfig) : Prop where
  known : ∀ thread ∈ c.threads, thread.1.1 ∈ c.state.clients
  one : (c.threads.map fun thread => thread.1.1).Nodup
  unsent : ∀ client, client ∉ c.state.clients → c.state.sent client = []
  owners : ∀ user client, c.state.locks user = some client → client ∈ c.state.clients
  each : ∀ event prog, (event, prog) ∈ c.threads → prog = .done () ∨
    ∃ rest, prog = session event.1 rest ∧ Open env c.state event rest

namespace Serving

variable {c : ServerConfig} {sessions' : Sessions} {index : ℕ} {event : ℕ × Transaction}
  {prog prog' : Prog sessionSignature Unit}

theorem step (serving : Serving env c) (found : c.threads[index]? = some (event, prog))
    (clients : sessions'.clients = c.state.clients)
    (sent : ∀ client, client ≠ event.1 → sessions'.sent client = c.state.sent client)
    (owners : ∀ user client, sessions'.locks user = some client →
      client = event.1 ∨ c.state.locks user = some client)
    (self : prog' = .done () ∨ ∃ rest, prog' = session event.1 rest ∧ Open env sessions' event rest)
    (others : ∀ (event' : ℕ × Transaction) rest, event'.1 ≠ event.1 → Open env c.state event' rest →
      Open env sessions' event' rest) :
    Serving env ⟨sessions', c.threads.set index (event, prog')⟩ := by
  have here : (event, prog) ∈ c.threads := List.mem_of_getElem? found
  have same : (c.threads.set index (event, prog')).map (fun thread => thread.1.1) =
      c.threads.map fun thread => thread.1.1 := by
    refine List.ext_getElem? fun i => ?_
    by_cases here : i = index
    · subst here
      have inside := (List.getElem?_eq_some_iff.mp found).1
      rw [List.getElem?_map, List.getElem?_map, List.getElem?_set_self inside, found]
      rfl
    · rw [List.getElem?_map, List.getElem?_map, List.getElem?_set_ne (Ne.symm here)]
  have one : ((c.threads.set index (event, prog')).map fun thread => thread.1.1).Nodup := by
    rw [same]
    exact serving.one
  have member := mem_set_of_found found (event, prog')
  refine ⟨fun thread inside => ?_, one, fun client unknown => ?_, fun user client owned => ?_,
    fun event' prog'' inside => ?_⟩
  · rw [clients]
    rcases List.mem_or_eq_of_mem_set inside with before | rfl
    · exact serving.known thread before
    · exact serving.known (event, prog) here
  · rw [clients] at unknown
    have other : client ≠ event.1 := fun same => unknown (same ▸ serving.known _ here)
    rw [sent client other]
    exact serving.unsent client unknown
  · rw [clients]
    rcases owners user client owned with rfl | before
    · exact serving.known _ here
    · exact serving.owners user client before
  · -- the sessions of other clients are as they were
    by_cases client : event'.1 = event.1
    · cases List.inj_on_of_nodup_map one inside member client
      exact self
    · rcases List.mem_or_eq_of_mem_set inside with before | same
      · refine (serving.each event' prog'' before).imp_right ?_
        rintro ⟨rest, is_session, opened⟩
        exact ⟨rest, is_session, others _ _ client opened⟩
      · cases same
        exact absurd rfl client

theorem finish {committed : Bool} (serving : Serving env c) (found : c.threads[index]? = some (event, prog))
    {rest : Prog sqlSignature (Except Err event.2.Reply)} (opened : Open env c.state event rest) :
    Serving env ⟨{ c.state with
      db := if committed then c.state.view env.numeric event.1 else c.state.db
      locks := c.state.locks.release event.1
      sent := Function.update c.state.sent event.1 [] }, c.threads.set index (event, .done ())⟩ := by
  have released : ∀ user client, client ≠ event.1 → c.state.locks user = some client →
      c.state.locks.release event.1 user = some client :=
    fun user client other owned => Locks.Table.release_iff.mpr ⟨owned, other⟩
  refine serving.step found rfl (fun client other => Function.update_of_ne other _ _) (fun user client owned => ?_)
    (.inl rfl) fun event' rest' other opened' => ?_
  · exact .inr (Locks.Table.release_iff.mp owned).1
  · have sent := Function.update_of_ne other ([] : List Statement) c.state.sent
    cases committed with
    | true => exact opened'.after_commit (Ne.symm other) opened.locked sent rfl fun user => released user _ other
    | false => exact opened'.stay sent rfl fun user => released user _ other

/-- **Every step of a session.** -/
theorem perform {op : SessionOp} {next : op.Reply → Prog sessionSignature Unit} {fails : Bool} {reply : op.Reply}
    (serving : Serving env c) (found : c.threads[index]? = some (event, .await op next))
    (performed : op.perform env.numeric fails c.state = some (reply, sessions')) :
    Serving env ⟨sessions', c.threads.set index (event, next reply)⟩ := by
  rcases serving.each _ _ (List.mem_of_getElem? found) with ended | ⟨rest, is_session, opened⟩
  · cases ended
  · cases rest with
    | done result =>
      cases result with
      | ok value =>
        cases is_session
        cases performed
        exact serving.finish found opened
      | error err =>
        cases is_session
        cases performed
        exact serving.finish found opened
    | await sql rest =>
      cases is_session
      simp only [SessionOp.perform] at performed
      split at performed
      · -- a failed statement: nothing is sent, and the transaction is rolled back
        cases performed
        obtain ⟨err, ended⟩ := opened.aborts.1 (.error .unavailable) ⟨_, rfl⟩
        refine serving.step found rfl (fun _ _ => rfl) (fun _ _ owned => .inr owned)
          (.inr ⟨_, rfl, opened.aborts.2 _, .inr ⟨err, ended⟩, opened.locked⟩) fun _ _ _ opened' => opened'
      · split at performed
        · cases performed
        · rename_i unblocked
          cases performed
          refine serving.step found rfl (fun client other => Function.update_of_ne other _ _)
            (fun user client owned => ?_) (.inr ⟨_, rfl, opened.answered unblocked⟩)
            fun event' rest' other opened' => ?_
          · simp only [Sessions.lockFor] at owned
            cases row : c.state.rowOf env.numeric event.1 sql with
            | none =>
              rw [row] at owned
              exact .inr owned
            | some taken =>
              rw [row] at owned
              exact (Locks.Table.take_iff.mp owned).imp And.right And.right
          · exact opened'.stay (Function.update_of_ne other _ _) rfl fun user => lockFor_keeps unblocked

theorem start (serving : Serving env c) (fresh : event.1 ∉ c.state.clients) :
    Serving env ⟨{ c.state with clients := c.state.clients ++ [event.1] },
      c.threads ++ [(server env).thread event]⟩ := by
  refine ⟨fun thread inside => ?_, ?_, fun client unknown => ?_, fun user client owned => ?_,
    fun event' prog inside => ?_⟩
  · rcases List.mem_append.mp inside with before | new
    · exact List.mem_append_left _ (serving.known thread before)
    · cases List.mem_singleton.mp new
      exact List.mem_append_right _ (.head _)
  · rw [List.map_append, List.nodup_append]
    refine ⟨serving.one, List.nodup_singleton _, ?_⟩
    rintro client before _ new rfl
    obtain ⟨thread, inside, rfl⟩ := List.mem_map.mp before
    have same : thread.1.1 = event.1 := List.mem_singleton.mp new
    exact fresh (same ▸ serving.known thread inside)
  · exact serving.unsent client fun before => unknown (List.mem_append_left _ before)
  · exact List.mem_append_left _ (serving.owners user client owned)
  · rcases List.mem_append.mp inside with before | new
    · refine (serving.each event' prog before).imp_right ?_
      rintro ⟨rest, is_session, opened⟩
      exact ⟨rest, is_session, opened.stay rfl rfl fun _ owned => owned⟩
    · cases List.mem_singleton.mp new
      have nothing := serving.unsent event.1 fresh
      refine .inr ⟨_, rfl, body_aborts env event.2, .inl ?_, ?_⟩
      · show (event.2.body env).prog.Path _ (c.state.sent event.1) c.state.db _
        rw [nothing]
        rfl
      · show ∀ sql ∈ c.state.sent event.1, _
        rw [nothing]
        exact fun _ member => nomatch member

theorem move {c' : ServerConfig} {m : Move (ℕ × Transaction) Bool Empty} (serving : Serving env c)
    (moved : (server env).move c m = some c') : Serving env c' := by
  rcases Machine.move_cases moved with ⟨event, state, rfl, arrived, rfl⟩ |
    ⟨index, choice, event, op, next, reply, state, rfl, found, performed, rfl⟩ | ⟨act, _⟩
  · simp only [server] at arrived
    split at arrived
    · cases arrived
    · rename_i fresh
      cases arrived
      exact serving.start fresh
  · show Serving env ⟨state, _ ++ []⟩
    rw [List.append_nil]
    exact serving.perform found performed
  · exact act.elim

theorem idle (env : Env) (db : Db) : Serving env ⟨{ db }, []⟩ :=
  ⟨fun _ => nofun, .nil, fun _ _ => rfl, fun _ _ => nofun, fun _ _ => nofun⟩

/-- **A session about to commit**: it has locked its wallets, and its commit is the transaction in one step. -/
theorem enacts {next : Unit → Prog sessionSignature Unit} (serving : Serving env c)
    (inside : (event, .await (.finish event.1 true) next) ∈ c.threads) :
    Enacts env event.2 (c.state.sent event.1) c.state.db (c.state.view env.numeric event.1) ∧
      ∀ user ∈ event.2.lockOrder, (c.state.db.wallets user).isSome = true → c.state.locks user = some event.1 := by
  rcases serving.each _ _ inside with ended | ⟨rest, is_session, opened⟩
  · cases ended
  · cases rest with
    | await sql rest => cases is_session
    | done result =>
      cases result with
      | error err => cases is_session
      | ok value =>
        rcases opened.path with path | ⟨err, ended⟩
        · have enacts : Enacts env event.2 _ _ _ := ends_enacts ⟨path, rfl⟩
          exact ⟨enacts, fun user member found => opened.locked _ (enacts.selects user member) user rfl found⟩
        · cases ended

end Serving

/-- **Every commit is one step.** In any interleaving of the statements of any transactions, a session that is
about to commit turns the committed wallets and ledger into what its transaction makes of them in one step. -/
theorem commits_as_one_step (env : Env) {db₀ : Db} {c : ServerConfig} {event : ℕ × Transaction}
    {next : Unit → Prog sessionSignature Unit} (run : Reaches (server env) (fun _ _ => True) ⟨{ db := db₀ }, []⟩ c)
    (inside : (event, .await (.finish event.1 true) next) ∈ c.threads) :
    ∃ before reply after, SameMoney before c.state.db ∧ event.2.run env before = (.ok reply, after) ∧
      SameMoney after (c.state.view env.numeric event.1) := by
  have serving : Serving env c :=
    run.invariant (Serving env) (.idle env db₀) fun _ _ _ serving _ moved => serving.move moved
  exact (serving.enacts inside).1.oneStep

/-- Two sessions pay in for two users; the second one is about to commit. -/
theorem commits_as_one_step_deposits : ∃ c, Reaches (server sampleEnv) (fun _ _ => True)
    ⟨{ db := twoPlayers }, []⟩ c ∧ ∃ before reply after, SameMoney before c.state.db ∧
      (Transaction.deposit 2 50).run sampleEnv before = (.ok reply, after) ∧
      SameMoney after (c.state.view sampleEnv.numeric 1) := by
  obtain ⟨c, run, ended⟩ := Machine.exists_run (server sampleEnv) (fun _ _ => true) ⟨{ db := twoPlayers }, []⟩
    [.start (0, .deposit 1 50), .start (1, .deposit 2 50), .step 0 false, .step 1 false, .step 1 false,
      .step 0 false, .step 1 false] (fun c => c.threads[1]?.any fun thread => thread.1 = (1, .deposit 2 50) &&
        thread.2.head = some (.finish 1 true)) (by decide +kernel)
  obtain ⟨⟨event, prog⟩, there, awaits⟩ := (Option.any_eq_true _ _).mp ended
  obtain ⟨same, head⟩ := Bool.and_eq_true_iff.mp awaits
  obtain rfl : event = (1, .deposit 2 50) := of_decide_eq_true same
  obtain ⟨next, rfl⟩ := Prog.await_of_head (of_decide_eq_true head)
  have run := run.mono fun _ _ _ => trivial
  exact ⟨c, run, commits_as_one_step sampleEnv run (List.mem_of_getElem? there)⟩

end SkillArena
