/-
**The charter of a match.**

What a match is about is fixed when its row is inserted: the players, the problem, the fee and its shares. Copies of
it are used later, by the state in Redis and by the arguments of every settlement. Whatever the handlers, the users
and the failures do, strangers included, the copies agree with the row, and the row and the ledger are sound:

* `history_kept` — nothing is rewritten: not a charter, not the ledger, not the withdrawals.
* `match_rows_sound` — two different players, one of the six fees with its shares, an active problem of the right
  difficulty, a winner who is a player and was paid; the state in Redis says the same.
* `ledger_rows_backed` — every row of the ledger that names a match names one that exists, is of the amount of its
  charter and, but for a loss, of one of its players; each player was debited exactly once.

The proof looks back from the end of a run (`Reaches.hindsight`): rows are never removed, so what the last database
says of a match may be relied on from the moment the match is there. The contract of the handlers can therefore be
about one fixed database (`allows`, `expects`).
-/

import SkillArena.Proof.Custody

namespace SkillArena

open Async Expiring
open Sql (Numeric)

/-! ### Charters -/

/-- **What is fixed when a match is created**, as its row has it. -/
structure Charter where
  playerAId : UserId
  playerBId : UserId
  problemId : Option ProblemId
  entryFee : ℚ
  prizePool : ℚ
  platformFee : ℚ
  deriving DecidableEq

def Charter.players (charter : Charter) : List UserId := [charter.playerAId, charter.playerBId]

def MatchRow.charter (row : MatchRow) : Charter :=
  ⟨row.playerAId, row.playerBId, row.problemId, row.entryFee, row.prizePool, row.platformFee⟩

/-- The charter of the row that a match state belongs to. -/
def MatchState.charter (N : Numeric) (matchState : MatchState) : Charter :=
  ⟨matchState.playerAId, matchState.playerBId, some matchState.problemId, N.store matchState.entryFee,
    N.store matchState.prizePool, N.store matchState.platformFee⟩

/-- The charter of a match that exists. -/
def Db.charter (db : Db) (matchId : MatchId) : Option Charter := (db.matches_ matchId).map MatchRow.charter

/-- The user was paid out as the winner of a match. -/
def Db.Paid (db : Db) (matchId : MatchId) (user : UserId) : Prop :=
  ∃ row ∈ db.ledger, row.type = .matchWinCredit ∧ row.referenceId = some matchId ∧ row.userId = user

/-! ### What the database remembers -/

/-- **A later database**: the charters and the problems of the earlier one are in it, and its ledger and its
withdrawals go on from there. -/
structure Remembers (db last : Db) : Prop where
  charter : ∀ matchId charter, db.charter matchId = some charter → last.charter matchId = some charter
  ledger : db.ledger <+: last.ledger
  withdrawals : db.withdrawals <+: last.withdrawals
  problems : last.problems = db.problems

namespace Remembers

variable {db db₁ db₂ last : Db}

theorem refl (db : Db) : Remembers db db := ⟨fun _ _ => id, List.prefix_rfl, List.prefix_rfl, rfl⟩

theorem trans (first : Remembers db db₁) (second : Remembers db₁ db₂) : Remembers db db₂ where
  charter matchId charter there := second.charter matchId charter (first.charter matchId charter there)
  ledger := first.ledger.trans second.ledger
  withdrawals := first.withdrawals.trans second.withdrawals
  problems := second.problems.trans first.problems

theorem paid (remembers : Remembers db last) {matchId : MatchId} {user : UserId} (paid : db.Paid matchId user) :
    last.Paid matchId user := by
  obtain ⟨row, member, tells⟩ := paid
  exact ⟨row, remembers.ledger.subset member, tells⟩

end Remembers

section Frame

variable {env : Env} {choice : Choice} {world world' : World} {db db' : Db} {op : Op} {reply : Except Err op.Reply}

theorem query_shelf {sql : Query} {pick : ℕ} {reply : sql.Reply} (ran : sql.exec pick db = .ok (reply, db')) :
    db'.problems = db.problems ∧ db'.withdrawals = db.withdrawals := by
  cases sql
  case insertSubmission =>
    simp only [Query.exec] at ran
    repeat' split at ran
    all_goals first | cases ran; exact ⟨rfl, rfl⟩ | cases ran
  case completeMatch =>
    simp only [Query.exec] at ran
    split at ran
    · cases ran
      exact ⟨rfl, rfl⟩
    · cases ran
  all_goals
    cases ran
    exact ⟨rfl, rfl⟩

/-- **What every operation leaves**: the problems, and the withdrawals that were asked for. -/
theorem shelf_frame (performed : op.perform env choice world = some (reply, world')) :
    world'.db.problems = world.db.problems ∧ world.db.withdrawals <+: world'.db.withdrawals := by
  cases reply with
  | error err =>
    rw [perform_error performed]
    exact ⟨rfl, List.prefix_rfl⟩
  | ok value =>
    rcases db_frame performed with same | ⟨sql, rfl⟩ | ⟨transaction, rfl⟩
    · rw [same]
      exact ⟨rfl, List.prefix_rfl⟩
    · obtain ⟨pick, db', ran, rfl⟩ := perform_query_ok performed
      obtain ⟨problems, withdrawals⟩ := query_shelf ran
      rw [withDb_db, problems, withdrawals]
      exact ⟨rfl, List.prefix_rfl⟩
    · obtain ⟨db', ran, rfl⟩ := perform_transact_ok performed
      obtain ⟨_, _, written⟩ := run_writes ran
      rw [withDb_db, written]
      exact ⟨rfl, List.prefix_append _ _⟩

theorem charter_updateMatch {matchId matchId' : MatchId} {change : MatchRow → MatchRow}
    (keeps : ∀ row, (change row).charter = row.charter) :
    (db.updateMatch matchId' change).charter matchId = db.charter matchId := by
  unfold Db.charter
  by_cases same : matchId = matchId'
  · subst same
    rw [updateMatch_self, Option.map_map]
    exact congrArg (fun f => (db.matches_ matchId).map f) (funext keeps)
  · exact congrArg (Option.map MatchRow.charter) (Function.update_of_ne same _ _)

/-- **What an operation does to the charters**: it creates a match that was not there, or keeps them. -/
theorem charter_cases (performed : op.perform env choice world = some (reply, world')) :
    (∃ matchId playerA playerB problemId fee,
      op = .transact (.createMatch matchId playerA playerB problemId fee) ∧ (∃ value, reply = .ok value) ∧
      world.db.matches_ matchId = none ∧ world'.db.matches_ =
        Function.update world.db.matches_ matchId (some (newMatchRow env playerA playerB problemId fee))) ∨
    (∀ matchId, world'.db.charter matchId = world.db.charter matchId) ∧
      (∀ matchId playerA playerB problemId fee value,
        op = .transact (.createMatch matchId playerA playerB problemId fee) → reply ≠ .ok value) := by
  cases reply with
  | error err =>
    rw [perform_error performed]
    exact .inr ⟨fun _ => rfl, fun _ _ _ _ _ _ _ same => by cases same⟩
  | ok value =>
    cases op
    case transact transaction =>
      obtain ⟨db', ran, rfl⟩ := perform_transact_ok performed
      cases transaction
      case createMatch matchId playerA playerB problemId fee =>
        obtain ⟨fresh, _⟩ := createMatch_ok.mp ran
        exact .inl ⟨matchId, playerA, playerB, problemId, fee, rfl, ⟨value, rfl⟩, fresh, run_matchesAfter ran⟩
      all_goals
        refine .inr ⟨fun matchId => ?_, fun _ _ _ _ _ _ same => by cases same⟩
        unfold Db.charter
        rw [withDb_db, run_matchesAfter ran]
        rfl
    case query sql =>
      obtain ⟨pick, db', ran, rfl⟩ := perform_query_ok performed
      refine .inr ⟨fun matchId => ?_, fun _ _ _ _ _ _ same => by cases same⟩
      cases sql
      case cancelMatch matchId' =>
        cases ran
        exact charter_updateMatch fun _ => rfl
      case completeMatch matchId' winner scoreA scoreB timeA timeB =>
        simp only [Query.exec] at ran
        split at ran
        · cases ran
          exact charter_updateMatch fun _ => rfl
        · cases ran
      all_goals
        unfold Db.charter
        rw [withDb_db, query_matches ran rfl]
    all_goals
      refine .inr ⟨fun matchId => ?_, fun _ _ _ _ _ _ same => by cases same⟩
      rcases db_frame performed with same | ⟨_, same⟩ | ⟨_, same⟩
      · rw [same]
      · cases same
      · cases same

/-- **Every operation remembers.** -/
theorem perform_remembers (performed : op.perform env choice world = some (reply, world')) :
    Remembers world.db world'.db where
  charter matchId charter there := by
    rcases charter_cases performed with ⟨created, _, _, _, _, _, _, fresh, rows⟩ | ⟨same, _⟩
    · have other : matchId ≠ created := by
        rintro rfl
        unfold Db.charter at there
        rw [fresh] at there
        cases there
      unfold Db.charter
      rw [rows, Function.update_of_ne other]
      exact there
    · rw [same]
      exact there
  ledger := by
    rcases money_frame performed with ⟨_, ledger⟩ | ⟨transaction, value, rfl, ran⟩
    · rw [ledger]
    · obtain ⟨rows, _, ledger⟩ := run_ledger ran
      exact ⟨rows, ledger.symm⟩
  withdrawals := (shelf_frame performed).2
  problems := (shelf_frame performed).1

end Frame

/-- **What every operation keeps of the database** is kept along every run. -/
theorem db_along {env : Env} {ok : BackendConfig → BackendMove → Prop} {P : Db → Prop}
    (kept : ∀ ⦃choice : Choice⦄ ⦃world world' : World⦄ ⦃op : Op⦄ ⦃reply : Except Err op.Reply⦄,
      op.perform env choice world = some (reply, world') → P world.db → P world'.db)
    {c₀ c : BackendConfig} (initial : P c₀.state.db) (run : Reaches (backend env) ok c₀ c) : P c.state.db := by
  refine run.invariant (fun c => P c.state.db) initial fun c move c' before _ moved => ?_
  rcases Machine.move_cases moved with ⟨event, state, rfl, arrived, rfl⟩ |
    ⟨index, choice, event, op, next, reply, state, rfl, found, performed, rfl⟩ | ⟨act, state, rfl, acted, rfl⟩
  · show P state.db
    rw [(arrive_frame arrived).2]
    exact before
  · exact kept performed before
  · cases act with
    | tick ms =>
      cases acted
      exact before
    | act choice op =>
      obtain ⟨⟨reply, state'⟩, performed, rfl⟩ := Option.map_eq_some_iff.mp acted
      exact kept performed before

/-- **A run remembers.** -/
theorem remembers_of_reaches {env : Env} {ok : BackendConfig → BackendMove → Prop} {c₁ c₂ : BackendConfig}
    (run : Reaches (backend env) ok c₁ c₂) : Remembers c₁.state.db c₂.state.db :=
  db_along (fun _ _ _ _ _ performed before => before.trans (perform_remembers performed)) (.refl _) run

/-- The columns keep the six entry fees. -/
def Env.KeepsFees (env : Env) : Prop := ∀ fee ∈ validFees, env.numeric.store (fee : ℚ) = fee

/-- One of the six entry fees. -/
def IsFee (fee : ℚ) : Prop := ∃ entryFee ∈ validFees, fee = entryFee

theorem Env.KeepsFees.store {env : Env} (keepsFees : env.KeepsFees) {fee : ℚ} (isFee : IsFee fee) :
    env.numeric.store fee = fee := by
  obtain ⟨entryFee, valid, rfl⟩ := isFee
  exact keepsFees entryFee valid

/-- A match may be created so: between two users, for one of the fees, on a problem that fits the fee. -/
def Founds (problems : List Problem) (playerA playerB : UserId) (problemId : ProblemId) (fee : ℚ) : Prop :=
  playerA ≠ playerB ∧ ∃ entryFee ∈ validFees, fee = entryFee ∧ ∃ problem ∈ problems, problem.isActive = true ∧
    problem.difficulty = difficultyOf entryFee ∧ problem.id = problemId

/-- **The state of a match agrees with its row.** -/
def Db.Knows (N : Numeric) (db : Db) (matchId : MatchId) (matchState : MatchState) : Prop :=
  db.charter matchId = some (matchState.charter N) ∧ IsFee matchState.entryFee

theorem Remembers.knows {N : Numeric} {db last : Db} (remembers : Remembers db last) {matchId : MatchId}
    {matchState : MatchState} (known : db.Knows N matchId matchState) : last.Knows N matchId matchState :=
  ⟨remembers.charter _ _ known.1, known.2⟩

/-- The match exists, with the given fee, and the predicate holds of its charter. -/
def Db.Has (db : Db) (matchId : MatchId) (fee : ℚ) (of : Charter → Prop) : Prop :=
  ∃ charter, db.charter matchId = some charter ∧ charter.entryFee = fee ∧ of charter

namespace Charter

/-- What a handler may ask, by the last database. -/
def allows (N : Numeric) (last : Db) : Op → Prop
  | .set (.state matchId) matchState _ => last.Knows N matchId matchState
  | .setNx (.state _) .. => False
  | .transact (.createMatch _ playerA playerB problemId fee) => Founds last.problems playerA playerB problemId fee
  | .transact (.releaseEscrowToWinner winner _ fee matchId) =>
    last.Has matchId fee (winner ∈ ·.players) ∧ IsFee fee
  | .transact (.refundBothPlayers playerA playerB fee matchId) =>
    last.Has matchId fee (·.players = [playerA, playerB]) ∧ IsFee fee
  | .query (.completeMatch matchId winner ..) => last.Paid matchId winner ∧
      ∃ charter, last.charter matchId = some charter ∧ winner ∈ charter.players
  | _ => True

/-- What a handler may rely on, by the last database. -/
def expects (env : Env) (last : Db) : (op : Op) → Except Err op.Reply → Prop
  | .get (.state matchId), .ok (some matchState) => last.Knows env.numeric matchId matchState
  | .memory (.takeTwo fee), .ok (some taken) =>
    taken.playerA.userId ≠ taken.playerB.userId ∧ fee ∈ validFees
  | .query (.pickProblem difficulty _), .ok (some problem) =>
    problem ∈ last.problems ∧ problem.isActive = true ∧ problem.difficulty = difficulty
  | .transact (.createMatch matchId playerA playerB problemId fee), .ok _ =>
    last.charter matchId = some (newMatchRow env playerA playerB problemId fee).charter
  | .transact (.releaseEscrowToWinner winner _ _ matchId), .ok _ => last.Paid matchId winner
  | _, _ => True

/-- **The contract of the charters.** -/
def contract (env : Env) (last : Db) : Contract signature where
  Phase := Unit
  may _ op := allows env.numeric last op
  answers _ op reply := expects env last op reply
  after _ _ _ := ()

section Handlers

open Async.Task (stable_pure stable_bind stable_attempt)

variable {env : Env} {last : Db} {op : Op} (keepsFees : env.KeepsFees)

theorem call (allowed : allows env.numeric last op) : op.call.Stable (contract env last) fun _ => True :=
  fun _ _ => ⟨allowed, fun _ _ => trivial⟩

theorem call_bind {α : Type} {rest : op.Reply → Promise α} (allowed : allows env.numeric last op)
    (next : ∀ value, expects env last op (.ok value) → (rest value).Stable (contract env last) fun _ => True) :
    (op.call >>= rest).Stable (contract env last) fun _ => True := by
  intro phase _
  exact keeps_call_bind allowed (fun value answer => next value answer () trivial) fun _ _ => trivial

theorem allows_of_sideline (sideline : op.sideline = true) : allows env.numeric last op := by
  unfold allows
  split
  all_goals first | exact absurd sideline Bool.false_ne_true | trivial

theorem allows_of_admitting (admitting : op.admitting = true) : allows env.numeric last op := by
  unfold allows
  split
  all_goals first | exact absurd admitting Bool.false_ne_true | trivial

theorem allows_of_department (unplayed : op.department ≠ some .play) (unrecorded : op.department ≠ some .record)
    (unqueued : op.department ≠ some .queue) : allows env.numeric last op := by
  unfold allows
  split
  all_goals first | exact absurd rfl unplayed | exact absurd rfl unrecorded | exact absurd rfl unqueued | trivial

include keepsFees in
/-- **A resolution in favour of a player**, whoever the loser is. -/
theorem resolveBody_stable {matchId : MatchId} {winnerId loserId : UserId} (resolveType : ResolveType)
    (wins : ∃ charter, last.charter matchId = some charter ∧ winnerId ∈ charter.players) :
    (resolveBody matchId winnerId loserId resolveType).Stable (contract env last) fun _ => True := by
  obtain ⟨charter, there, plays⟩ := wins
  refine stable_bind (call trivial) fun flag => ?_
  cases flag with
  | some _ => exact stable_pure _
  | none =>
    refine stable_bind (call trivial) fun _ => call_bind trivial fun stored known => ?_
    cases stored with
    | none => exact stable_pure _
    | some stored =>
      have same : charter = stored.charter env.numeric := Option.some.inj (there.symm.trans known.1)
      refine stable_bind (call known) fun _ => call_bind ⟨⟨charter, there, ?_, plays⟩, known.2⟩ fun prize paid => ?_
      · rw [same]
        exact keepsFees.store known.2
      · exact recordResult_stable (fun _ _ _ kept =>
          ⟨allows_of_sideline (sideline_of_bookkeeping kept), fun _ _ => trivial⟩)
          (fun _ _ _ _ => call ⟨paid, charter, there, plays⟩) _ _ _ _

/-- The contract as rules over the handlers of a match. -/
def referee (last : Db) (matchId : MatchId) : Referee (contract env last) (fun _ => True) matchId where
  known := last.Knows env.numeric matchId
  idle _ _ _ sideline _ := ⟨allows_of_sideline sideline, fun _ _ => trivial⟩
  state _ _ := by
    refine ⟨trivial, fun reply known => ⟨trivial, ?_⟩⟩
    rintro matchState rfl
    exact known
  refund matchState known := call ⟨⟨_, known.1, keepsFees.store known.2, rfl⟩, known.2⟩
  cancel := call trivial
  body matchState pair resolveType known decides := by
    refine resolveBody_stable keepsFees resolveType ⟨_, known.1, ?_⟩
    rcases decides with rfl | rfl
    · exact .head _
    · exact .tail _ (.head _)

include keepsFees in
/-- Who forfeits loses to a player of the match, even where the forfeit is not a player's. -/
theorem forfeits {matchId : MatchId} {user : UserId} (matchState : MatchState)
    (known : last.Knows env.numeric matchId matchState) :
    (resolveBody matchId (Referee.opponentOf matchState user) user .forfeit).Stable (contract env last)
      fun _ => True := by
  refine resolveBody_stable keepsFees .forfeit ⟨_, known.1, ?_⟩
  unfold Referee.opponentOf
  split
  · exact .tail _ (.head _)
  · exact .head _

theorem announceMatch_stable {fee : ℕ} {taken : Taken} {problem : Problem} {matchId : MatchId}
    (valid : fee ∈ validFees) (there : last.charter matchId =
      some (newMatchRow env taken.playerA.userId taken.playerB.userId problem.id fee).charter) :
    (announceMatch env fee taken problem matchId).Stable (contract env last) fun _ => True := by
  have timer : (startMatchTimer matchId).Stable (contract env last) fun _ => True :=
    stable_bind (call trivial) fun _ => stable_bind (call trivial) fun _ =>
      stable_bind (call trivial) fun _ => stable_pure _
  refine stable_bind timer fun _ => stable_bind (call ⟨there, fee, valid, rfl⟩) fun _ => ?_
  exact stable_bind (call trivial) fun _ => stable_bind (call trivial) fun _ => stable_bind (call trivial) fun _ =>
    stable_bind (call trivial) fun _ => stable_bind (call trivial) fun _ => call trivial

/-- The creating transaction: who has committed it knows the charter. -/
theorem commitMatch_keeps {fee : ℕ} {taken : Taken} {problem : Problem} {matchId : MatchId}
    (founds : Founds last.problems taken.playerA.userId taken.playerB.userId problem.id fee) :
    (commitMatch fee taken problem matchId).Keeps (contract env last) () fun result _ => result = .ok true →
      last.charter matchId =
        some (newMatchRow env taken.playerA.userId taken.playerB.userId problem.id fee).charter := by
  refine (Task.keeps_attempt _ _ _ _).mpr (keeps_call_bind founds (fun _ there => ?_) fun _ _ => ?_)
  · exact fun _ => there
  · exact keeps_call_bind trivial (fun _ _ same => by cases same) fun _ _ same => by cases same

/-- **`tryCreateMatch`**: it creates a match of two different users on a problem it has picked. -/
theorem tryCreateMatch_stable (fee : ℕ) :
    (tryCreateMatch env fee).Stable (contract env last) fun _ => True := by
  refine call_bind trivial fun taken took => ?_
  cases taken with
  | none => exact stable_pure _
  | some taken =>
    obtain ⟨distinct, valid⟩ := took
    refine stable_bind (call trivial) fun _ => stable_bind (call trivial) fun _ =>
      call_bind trivial fun problem picked => ?_
    cases problem with
    | none =>
      exact stable_bind (call trivial) fun _ => stable_bind (call trivial) fun _ =>
        stable_bind (call trivial) fun _ => stable_pure _
    | some problem =>
      obtain ⟨listed, active, difficulty⟩ := picked
      have founds : Founds last.problems taken.playerA.userId taken.playerB.userId problem.id fee :=
        ⟨distinct, fee, valid, rfl, problem, listed, active, difficulty, rfl⟩
      refine stable_bind (call trivial) fun matchId phase _ => ?_
      refine (Task.keeps_bind _ _ _ _).mpr ((commitMatch_keeps founds).mono ?_)
      rintro (err | committed) _ known
      · trivial
      cases committed with
      | false => exact trivial
      | true =>
        have announced := announceMatch_stable valid (known rfl)
        exact stable_bind announced (fun _ => stable_pure _) () trivial

include keepsFees in
/-- **Every handler keeps the contract of the charters.** -/
theorem handler_stable (handler : Handler) : (handler.task env).Stable (contract env last) fun _ => True := by
  cases handler
  case codeSubmit user matchId language code => exact (referee keepsFees last matchId).codeSubmit_stable _ _ _
  case forfeitRequest user matchId reason =>
    exact (referee keepsFees last matchId).forfeitRequest_stable (forfeits keepsFees) reason
  case timerExpiry matchId dueAt => exact (referee keepsFees last matchId).handleTimerExpiry_stable dueAt
  case disconnectForfeit user matchId position dueAt =>
    exact (referee keepsFees last matchId).handleDisconnectForfeit_stable (forfeits keepsFees) (call trivial) dueAt
  case queueJoin user username fee category =>
    exact queueJoin_stable_of (fun _ _ _ admitting => ⟨allows_of_admitting admitting, fun _ _ => trivial⟩) env user
      username category (tryCreateMatch_stable fee)
  case worker fee =>
    exact stable_attempt (stable_bind (tryCreateMatch_stable fee) fun _ => stable_pure _)
      fun _ => stable_pure _
  case queueLeave user =>
    exact stable_attempt (stable_bind (call trivial) fun _ => stable_bind (call trivial) fun _ =>
      stable_bind (call trivial) fun _ => stable_bind (call trivial) fun _ => call trivial) fun _ => stable_pure _
  all_goals
    exact (Handler.asks_within env _).stable fun _ op _ inside => ⟨allows_of_department (department_ne inside rfl)
      (department_ne inside rfl) (department_ne inside rfl), fun _ _ => trivial⟩

end Handlers

end Charter

/-! ### The invariant -/

/-- **A sound row** of `matches`. -/
structure MatchRow.Sound (env : Env) (db : Db) (matchId : MatchId) (row : MatchRow) : Prop where
  distinct : row.playerAId ≠ row.playerBId
  terms : ∃ fee ∈ validFees, row.entryFee = fee ∧ row.prizePool = env.numeric.store (netPrizeOf env fee) ∧
    row.platformFee = env.numeric.store (platformFeeOf env fee) ∧
    ∃ problem ∈ db.problems, problem.isActive = true ∧ problem.difficulty = difficultyOf fee ∧
      row.problemId = some problem.id
  winner : ∀ user, row.winnerId = some user → user ∈ row.charter.players ∧ db.Paid matchId user
  started : row.status ≠ .waiting
  completed : row.status = .completed → row.winnerId ≠ none

/-- **A ledger row is backed**: what it says of a match is what the match is about. -/
def Posting.Backed (env : Env) (db : Db) (posting : Posting) : Prop :=
  match posting.type with
  | .deposit | .withdrawal => posting.referenceId = none
  | .matchEntryDebit | .refund => ∃ matchId, posting.referenceId = some matchId ∧
      db.Has matchId posting.amount (posting.userId ∈ ·.players)
  | .matchWinCredit => ∃ matchId fee, posting.referenceId = some matchId ∧
      db.Has matchId fee (posting.userId ∈ ·.players) ∧ posting.amount = env.numeric.store (netPrizeOf env fee)
  | .matchLossDebit => ∃ matchId, posting.referenceId = some matchId ∧ db.Has matchId posting.amount fun _ => True

/-- The entry fee of a user for a match. -/
def Posting.isEntry (matchId : MatchId) (user : UserId) (posting : Posting) : Bool :=
  posting.type = .matchEntryDebit ∧ posting.referenceId = some matchId ∧ posting.userId = user

/-- How often a user was debited for a match. -/
def Db.entryDebits (db : Db) (matchId : MatchId) (user : UserId) : ℕ :=
  db.ledger.countP fun row => row.posting.isEntry matchId user

/-- **A world in order**, by a later database. -/
structure Chartered (env : Env) (last : Db) (world : World) : Prop where
  stored : ∀ matchId cell, world.redis (.state matchId) = some cell → last.Knows env.numeric matchId cell.value
  rows : ∀ matchId row, world.db.matches_ matchId = some row → row.Sound env last matchId
  backed : ∀ row ∈ world.db.ledger, row.posting.Backed env last
  entries : ∀ matchId user, world.db.entryDebits matchId user =
    if (world.db.charter matchId).any (user ∈ ·.players) then 1 else 0

/-- **A world in order.** -/
def Orderly (env : Env) (world : World) : Prop := Chartered env world.db world

section Monotone

variable {env : Env} {db last : Db} {world : World}

theorem Remembers.has (remembers : Remembers db last) {matchId : MatchId} {fee : ℚ} {of : Charter → Prop}
    (has : db.Has matchId fee of) : last.Has matchId fee of := by
  obtain ⟨charter, there, same, holds⟩ := has
  exact ⟨charter, remembers.charter _ _ there, same, holds⟩

theorem Remembers.sound (remembers : Remembers db last) {matchId : MatchId} {row : MatchRow}
    (sound : row.Sound env db matchId) : row.Sound env last matchId := by
  refine ⟨sound.distinct, ?_, fun user won => ?_, sound.started, sound.completed⟩
  · rw [remembers.problems]
    exact sound.terms
  · obtain ⟨plays, paid⟩ := sound.winner user won
    exact ⟨plays, remembers.paid paid⟩

theorem Remembers.backed (remembers : Remembers db last) {posting : Posting} (backed : posting.Backed env db) :
    posting.Backed env last := by
  unfold Posting.Backed at backed ⊢
  split at backed
  case h_5 =>
    obtain ⟨matchId, fee, named, has, amount⟩ := backed
    exact ⟨matchId, fee, named, remembers.has has, amount⟩
  case h_3 | h_4 | h_6 =>
    obtain ⟨matchId, named, has⟩ := backed
    exact ⟨matchId, named, remembers.has has⟩
  all_goals exact backed

theorem Chartered.mono (remembers : Remembers db last) (inv : Chartered env db world) :
    Chartered env last world where
  stored matchId cell there := remembers.knows (inv.stored matchId cell there)
  rows matchId row there := remembers.sound (inv.rows matchId row there)
  backed row member := remembers.backed (inv.backed row member)
  entries := inv.entries

end Monotone

section Step

variable {env : Env} {last : Db} {choice : Choice} {world world' : World} {op : Op} {reply : Except Err op.Reply}

theorem Chartered.stored_step (inv : Chartered env last world) (allowed : Charter.allows env.numeric last op)
    (performed : op.perform env choice world = some (reply, world')) :
    ∀ matchId cell, world'.redis (.state matchId) = some cell → last.Knows env.numeric matchId cell.value := by
  intro matchId cell there
  cases writes : op.writes (.state matchId) with
  | false =>
    rw [redis_frame performed writes] at there
    exact inv.stored matchId cell there
  | true =>
    cases reply with
    | error err =>
      rw [perform_error performed] at there
      exact inv.stored matchId cell there
    | ok value =>
      unfold Op.writes at writes
      split at writes
      · obtain rfl : _ = Key.state matchId := by simpa using writes
        rw [perform_set_ok performed, withRedis_redis, Store.write_self] at there
        cases there
        exact allowed
      · obtain rfl : _ = Key.state matchId := by simpa using writes
        exact absurd allowed id
      · obtain rfl : _ = Key.state matchId := by simpa using writes
        rw [perform_del_ok performed, withRedis_redis, Store.delete_self] at there
        cases there
      · cases writes

theorem newMatchRow_sound {playerA playerB : UserId} {problemId : ProblemId} {fee : ℚ} (matchId : MatchId)
    (keepsFees : env.KeepsFees) (founds : Founds last.problems playerA playerB problemId fee) :
    (newMatchRow env playerA playerB problemId fee).Sound env last matchId := by
  obtain ⟨distinct, entryFee, valid, rfl, problem, listed, active, difficulty, rfl⟩ := founds
  have prize : netPrizeOf env entryFee = (entryFee : ℚ) * 2 * (1 - env.platformFeePercent / 100) := by
    unfold netPrizeOf platformFeeOf
    ring
  refine ⟨distinct, ⟨entryFee, valid, keepsFees entryFee valid, ?_, rfl, problem, listed, active, difficulty, rfl⟩,
    fun user won => ?_, fun waiting => ?_, fun completed => ?_⟩
  · rw [prize]
    rfl
  · cases won
  · cases waiting
  · cases completed

theorem Chartered.rows_step (keepsFees : env.KeepsFees) (inv : Chartered env last world)
    (remembers : Remembers world.db last) (allowed : Charter.allows env.numeric last op)
    (performed : op.perform env choice world = some (reply, world')) :
    ∀ matchId row, world'.db.matches_ matchId = some row → row.Sound env last matchId := by
  intro matchId row there
  cases rewrites : op.rewrites matchId with
  | false =>
    rw [matches_frame performed rewrites] at there
    exact inv.rows matchId row there
  | true =>
    cases reply with
    | error err =>
      rw [perform_error performed] at there
      exact inv.rows matchId row there
    | ok value =>
      cases op
      case transact transaction =>
        obtain ⟨db', ran, rfl⟩ := perform_transact_ok performed
        cases transaction
        case createMatch created playerA playerB problemId fee =>
          obtain rfl : created = matchId := of_decide_eq_true rewrites
          rw [withDb_db, run_matchesAfter ran, Transaction.matchesAfter, Function.update_self] at there
          cases there
          exact newMatchRow_sound created keepsFees allowed
        all_goals cases rewrites
      case query sql =>
        obtain ⟨pick, db', ran, rfl⟩ := perform_query_ok performed
        cases sql
        case cancelMatch cancelled =>
          obtain rfl : cancelled = matchId := of_decide_eq_true rewrites
          cases ran
          rw [withDb_db, updateMatch_self] at there
          obtain ⟨before, here, rfl⟩ := Option.map_eq_some_iff.mp there
          have sound := inv.rows cancelled before here
          exact ⟨sound.distinct, sound.terms, sound.winner, by rintro ⟨⟩, by rintro ⟨⟩⟩
        case completeMatch completed winner scoreA scoreB timeA timeB =>
          obtain rfl : completed = matchId := of_decide_eq_true rewrites
          simp only [Query.exec] at ran
          split at ran
          · cases ran
            rw [withDb_db, updateMatch_self] at there
            obtain ⟨before, here, rfl⟩ := Option.map_eq_some_iff.mp there
            have sound := inv.rows completed before here
            obtain ⟨paid, charter, known, plays⟩ := allowed
            refine ⟨sound.distinct, sound.terms, ?_, by rintro ⟨⟩, by rintro _ ⟨⟩⟩
            rintro user ⟨⟩
            refine ⟨?_, paid⟩
            -- the charter of the last database is the charter of this row
            have same := remembers.charter completed before.charter (by rw [Db.charter, here, Option.map_some])
            cases known.symm.trans same
            exact plays
          · cases ran
        all_goals cases rewrites
      all_goals cases rewrites

/-- **What a transaction posts is backed.** -/
theorem postings_backed (keepsFees : env.KeepsFees) {db db' : Db} {transaction : Transaction}
    {value : transaction.Reply} (allowed : Charter.allows env.numeric last (.transact transaction))
    (remembers : Remembers db' last) (ran : transaction.run env db = (.ok value, db')) :
    ∀ posting ∈ transaction.postings env db, posting.Backed env last := by
  cases transaction with
  | deposit | creditVerified | withdraw =>
    intro posting member
    cases List.mem_singleton.mp member
    exact rfl
  | creditWebhook user payment amount =>
    intro posting member
    simp only [Transaction.postings] at member
    split at member
    · cases List.mem_singleton.mp member
      exact rfl
    · cases member
  | createMatch matchId playerA playerB problemId fee =>
    have here : db'.charter matchId = some (newMatchRow env playerA playerB problemId fee).charter := by
      rw [Db.charter, run_matchesAfter ran, Transaction.matchesAfter, Function.update_self, Option.map_some]
    have there := remembers.charter _ _ here
    intro posting member
    rcases List.mem_pair.mp member with rfl | rfl
    · exact ⟨matchId, rfl, _, there, rfl, .head _⟩
    · exact ⟨matchId, rfl, _, there, rfl, .tail _ (.head _)⟩
  | releaseEscrowToWinner winner loser fee matchId =>
    obtain ⟨has, isFee⟩ := allowed
    have kept := keepsFees.store isFee
    intro posting member
    rcases List.mem_pair.mp member with rfl | rfl
    · exact ⟨matchId, fee, rfl, has, rfl⟩
    · obtain ⟨charter, there, same, _⟩ := has
      exact ⟨matchId, rfl, charter, there, same.trans kept.symm, trivial⟩
  | refundBothPlayers playerA playerB fee matchId =>
    obtain ⟨⟨charter, there, same, players⟩, isFee⟩ := allowed
    have kept := keepsFees.store isFee
    have plays : ∀ user ∈ [playerA, playerB], user ∈ charter.players := by
      rw [players]
      exact fun _ => id
    intro posting member
    rcases List.mem_pair.mp member with rfl | rfl
    · exact ⟨matchId, rfl, charter, there, same.trans kept.symm, plays playerA (.head _)⟩
    · exact ⟨matchId, rfl, charter, there, same.trans kept.symm, plays playerB (.tail _ (.head _))⟩

theorem Chartered.backed_step (keepsFees : env.KeepsFees) (inv : Chartered env last world)
    (remembers : Remembers world'.db last) (allowed : Charter.allows env.numeric last op)
    (performed : op.perform env choice world = some (reply, world')) :
    ∀ row ∈ world'.db.ledger, row.posting.Backed env last := by
  intro row member
  rcases money_frame performed with ⟨_, ledger⟩ | ⟨transaction, value, rfl, ran⟩
  · rw [ledger] at member
    exact inv.backed row member
  · obtain ⟨rows, posted, ledger⟩ := run_ledger ran
    rw [ledger] at member
    rcases List.mem_append.mp member with before | new
    · exact inv.backed row before
    · refine postings_backed keepsFees allowed remembers ran _ ?_
      rw [← posted]
      exact List.mem_map_of_mem new

theorem postings_entries {transaction : Transaction} (db : Db) (matchId : MatchId) (user : UserId)
    (uncreated : ∀ created playerA playerB problemId fee,
      transaction ≠ .createMatch created playerA playerB problemId fee) :
    (transaction.postings env db).countP (Posting.isEntry matchId user) = 0 := by
  cases transaction with
  | createMatch created playerA playerB problemId fee => exact absurd rfl (uncreated _ _ _ _ _)
  | creditWebhook userId payment amount =>
    simp only [Transaction.postings]
    split
    · rfl
    · rfl
  | _ => rfl

theorem createMatch_entries {playerA playerB : UserId} (distinct : playerA ≠ playerB) (db : Db)
    (created matchId : MatchId) (problemId : ProblemId) (fee : ℚ) (user : UserId) :
    ((Transaction.createMatch created playerA playerB problemId fee).postings env db).countP
      (Posting.isEntry matchId user) = if created = matchId ∧ user ∈ [playerA, playerB] then 1 else 0 := by
  by_cases here : created = matchId
  · by_cases isA : user = playerA
    · simp [Transaction.postings, Posting.isEntry, here, isA, distinct.symm]
    · by_cases isB : user = playerB
      · simp [Transaction.postings, Posting.isEntry, here, isB, distinct]
      · simp [Transaction.postings, Posting.isEntry, isA, isB, Ne.symm isA, Ne.symm isB]
  · simp [Transaction.postings, Posting.isEntry, here]

theorem Chartered.entries_step (inv : Chartered env last world) (allowed : Charter.allows env.numeric last op)
    (performed : op.perform env choice world = some (reply, world')) (matchId : MatchId) (user : UserId) :
    world'.db.entryDebits matchId user = if (world'.db.charter matchId).any (user ∈ ·.players) then 1 else 0 := by
  have before := inv.entries matchId user
  cases reply with
  | error err =>
    rw [perform_error performed]
    exact before
  | ok value =>
    rcases charter_cases performed with ⟨created, playerA, playerB, problemId, fee, rfl, _, fresh, rows⟩ |
      ⟨same, uncreated⟩
    · obtain ⟨db', ran, rfl⟩ := perform_transact_ok performed
      have counted : db'.entryDebits matchId user = _ := run_countP ran (Posting.isEntry matchId user)
      rw [createMatch_entries allowed.1] at counted
      show db'.entryDebits matchId user = if (db'.charter matchId).any _ then 1 else 0
      rw [counted]
      change world.db.entryDebits matchId user + _ = _
      rw [before]
      rw [withDb_db] at rows
      by_cases here : created = matchId
      · subst here
        rw [Db.charter, fresh, Db.charter, rows, Function.update_self]
        simp [Charter.players, MatchRow.charter, newMatchRow]
      · have other : db'.charter matchId = world.db.charter matchId := by
          rw [Db.charter, rows, Function.update_of_ne (Ne.symm here), Db.charter]
        rw [other, if_neg fun both : created = matchId ∧ _ => here both.1, add_zero]
    · rw [same, ← before]
      rcases money_frame performed with ⟨_, ledger⟩ | ⟨transaction, value', rfl, ran⟩
      · unfold Db.entryDebits
        rw [ledger]
      · refine (run_countP ran (Posting.isEntry matchId user)).trans ?_
        rw [postings_entries, add_zero]
        · rfl
        · rintro created playerA playerB problemId fee rfl
          exact uncreated created playerA playerB problemId fee value rfl rfl

/-- **One operation** keeps a world in order. -/
theorem Chartered.step (keepsFees : env.KeepsFees) (inv : Chartered env last world)
    (remembers : Remembers world'.db last) (allowed : Charter.allows env.numeric last op)
    (performed : op.perform env choice world = some (reply, world')) : Chartered env last world' where
  stored := inv.stored_step allowed performed
  rows := inv.rows_step keepsFees ((perform_remembers performed).trans remembers) allowed performed
  backed := inv.backed_step keepsFees remembers allowed performed
  entries := inv.entries_step allowed performed

theorem takeTwo_valid {memory : Memory} {fee : ℕ} {taken : Taken}
    (took : ((MemoryOp.takeTwo fee).exec memory).1 = some taken) : fee ∈ validFees := by
  by_contra invalid
  simp only [MemoryOp.exec, if_neg invalid] at took
  cases took

theorem pickProblem_mem {difficulty : String} {category : Option String} {problem : Problem}
    (performed : (Op.query (.pickProblem difficulty category)).perform env choice world =
      some (.ok (some problem), world')) :
    problem ∈ world.db.problems ∧ problem.isActive = true ∧ problem.difficulty = difficulty := by
  obtain ⟨pick, db', ran, _⟩ := perform_query_ok performed
  simp only [Query.exec, Except.ok.injEq, Prod.mk.injEq] at ran
  have member := List.mem_of_getElem? ran.1
  simp only [Db.candidates, List.mem_filter, Bool.and_eq_true, beq_iff_eq] at member
  exact ⟨member.1, member.2.1.1, member.2.1.2⟩

theorem release_paid {db db' : Db} {winner loser : UserId} {fee : ℚ} {matchId : MatchId} {value : ℚ × ℚ}
    (ran : (Transaction.releaseEscrowToWinner winner loser fee matchId).run env db = (.ok value, db')) :
    db'.Paid matchId winner := by
  obtain ⟨L, L', W, W', X, _, _, _, _, _, _, rfl⟩ := release_ok.mp ran
  refine ⟨winRow env winner W fee matchId, ?_, rfl, rfl, rfl⟩
  exact List.mem_append_left _ (List.mem_append_right _ (.head _))

theorem Chartered.expects (inv : Chartered env last world) (remembers : Remembers world'.db last)
    (performed : op.perform env choice world = some (reply, world')) : Charter.expects env last op reply := by
  unfold Charter.expects
  split
  · obtain ⟨read, _⟩ := perform_get_ok performed
    obtain ⟨cell, stored, _, rfl⟩ := Store.read_eq_some.mp read.symm
    exact inv.stored _ cell stored
  · have proceeded := proceed_of_ok performed
    simp only [Op.proceed, Option.some.injEq, Prod.mk.injEq, Except.ok.injEq] at proceeded
    exact ⟨takeTwo_distinct proceeded.1, takeTwo_valid proceeded.1⟩
  · obtain ⟨listed, active, difficulty⟩ := pickProblem_mem performed
    rw [remembers.problems, (shelf_frame performed).1]
    exact ⟨listed, active, difficulty⟩
  · rename_i matchId playerA playerB problemId fee value
    obtain ⟨db', ran, rfl⟩ := perform_transact_ok performed
    refine remembers.charter _ _ ?_
    rw [Db.charter, withDb_db, run_matchesAfter ran, Transaction.matchesAfter, Function.update_self,
      Option.map_some]
  · obtain ⟨db', ran, rfl⟩ := perform_transact_ok performed
    exact remembers.paid (release_paid ran)
  · trivial

end Step

/-! ### Every run -/

/-- The departments in which the rest of the system may act: it plays, records and creates no match. -/
def elsewhere : List Department := [.sample, .pay, .presence, .leave]

/-- **The setting**: any handlers of any users in any order, with any failures; what happens outside the handlers
leaves the matches alone. -/
def hosted : BackendMove → Bool
  | .outside (.act _ op) => op.belongs elsewhere
  | _ => true

theorem allows_of_elsewhere (env : Env) (last : Db) {op : Op} (inside : op.belongs elsewhere = true) :
    Charter.allows env.numeric last op :=
  Charter.allows_of_department (department_ne inside rfl) (department_ne inside rfl) (department_ne inside rfl)

/-- **What the allowed operations keep of the database.** -/
def CharterKeeps (env : Env) (last : Db) (P : Db → Prop) : Prop :=
  ∀ ⦃choice : Choice⦄ ⦃world world' : World⦄ ⦃op : Op⦄ ⦃reply : Except Err op.Reply⦄,
    Charter.allows env.numeric last op → op.perform env choice world = some (reply, world') →
      P world.db → P world'.db

/-- The contract and the invariant of the charters, over every handler of the backend, with anything else that the
allowed operations keep. -/
def charterDiscipline {env : Env} (keepsFees : env.KeepsFees) (last : Db) {P : Db → Prop}
    (kept : CharterKeeps env last P) : Discipline (backend env) (fun c move => hosted move = true ∧
      ∀ c', (backend env).move c move = some c' → Remembers c'.state.db last) (Charter.contract env last) where
  enter _ := ()
  finished _ := True
  Inv world _ := Chartered env last world ∧ P world.db
  keeps c event _ := (Task.keeps_run _ _ _).mpr (Charter.handler_stable keepsFees event () trivial)
  start c phases event state _ inv _ arrived := by
    obtain ⟨inv, holds⟩ := inv
    obtain ⟨redis, db⟩ := arrive_frame arrived
    rw [db]
    exact ⟨⟨by rw [redis]; exact inv.stored, by rw [db]; exact inv.rows, by rw [db]; exact inv.backed,
      by rw [db]; exact inv.entries⟩, holds⟩
  step c phases index choice event op next phase reply state _ inv allowed found _ may performed := by
    obtain ⟨inv, holds⟩ := inv
    have remembers : Remembers state.db last := allowed.2 _ (Machine.move_step found performed)
    refine ⟨inv.expects remembers performed, fun child _ => ?_, inv.step keepsFees remembers may performed,
      kept may performed holds⟩
    exact (Task.keeps_run _ _ _).mpr (Charter.handler_stable keepsFees child () trivial)
  outside c phases act state _ inv allowed acted := by
    obtain ⟨inv, holds⟩ := inv
    have remembers : Remembers state.db last := allowed.2 _ (Machine.move_outside acted)
    cases act with
    | tick ms =>
      cases acted
      exact ⟨⟨inv.stored, inv.rows, inv.backed, inv.entries⟩, holds⟩
    | act choice op =>
      obtain ⟨⟨reply, state'⟩, performed, rfl⟩ := Option.map_eq_some_iff.mp acted
      have may := allows_of_elsewhere env last allowed.1
      exact ⟨inv.step keepsFees remembers may performed, kept may performed holds⟩

/-- **Order is kept along every run**, and so is whatever the allowed operations keep. -/
theorem Orderly.carries {env : Env} (keepsFees : env.KeepsFees) {c₀ c : BackendConfig} (idle : c₀.threads = [])
    (orderly : Orderly env c₀.state) (run : Reaches (backend env) (fun _ move => hosted move = true) c₀ c)
    {P : Db → Prop} (kept : CharterKeeps env c.state.db P) (initial : P c₀.state.db) :
    Orderly env c.state ∧ P c.state.db := by
  have looking := run.hindsight.mono fun c₁ move before => And.intro before.1 fun c₂ moved =>
    remembers_of_reaches (before.2 c₂ moved)
  have before : Chartered env c.state.db c₀.state := orderly.mono (remembers_of_reaches run)
  obtain ⟨_, _, inv⟩ :=
    (charterDiscipline keepsFees c.state.db kept).holds ⟨[], tracks_nil idle, before, initial⟩ looking
  exact inv

/-- **Order is kept along every run.** -/
theorem Orderly.reaches {env : Env} (keepsFees : env.KeepsFees) {c₀ c : BackendConfig} (idle : c₀.threads = [])
    (orderly : Orderly env c₀.state) (run : Reaches (backend env) (fun _ move => hosted move = true) c₀ c) :
    Orderly env c.state :=
  (orderly.carries keepsFees idle run (P := fun _ => True) (fun _ _ _ _ _ _ _ _ => trivial) trivial).1

theorem Orderly.blank {env : Env} {world : World} (unstored : ∀ matchId, world.redis (.state matchId) = none)
    (rowless : world.db.matches_ = fun _ => none) (blank : world.db.ledger = []) : Orderly env world where
  stored matchId cell there := by
    rw [unstored] at there
    cases there
  rows matchId row there := by
    rw [rowless] at there
    cases there
  backed row member := by
    rw [blank] at member
    cases member
  entries matchId user := by
    unfold Db.entryDebits Db.charter
    rw [blank, rowless]
    rfl

theorem sampleEnv_keepsFees : sampleEnv.KeepsFees := fun fee _ => Numeric.scale_store_natCast 2 fee

theorem openDoors_orderly : Orderly sampleEnv openDoors := .blank (fun _ => rfl) rfl rfl

/-- Users 1 and 2 are matched as match 7, the match is announced, and user 1 forfeits. -/
def joinsPlaysForfeits : List BackendMove :=
  joinsAndPlays ++ List.replicate 10 (.step 1 .proceed) ++
    .start (.forfeitRequest 1 7 "quit") :: List.replicate 20 (.step 3 .proceed)

end SkillArena
