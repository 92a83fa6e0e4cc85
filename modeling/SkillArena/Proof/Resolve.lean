/-
**One call of `resolveMatch`, with failures.**

`resolveMatch` is a dozen separately committed steps inside one `try`, whose `catch` always refunds both
players. Run alone, with any of its operations failing, it does not always end in one of the two states
it is meant to reach. A Redis command that fails after the payout makes the `catch` refund players whose
match was paid out, if other escrow covers it (`paid_and_refunded`); a query that fails there leaves the
winner paid and the result unrecorded; a failing refund leaves the match unsettled.

`resolveMatch_settles_iff` says exactly when the call ends well: a failure before the payout is followed
by a refund that succeeds, or nothing fails up to the last statistics and a later failure finds no
escrow to refund.
-/

import SkillArena.Proof.Guard

namespace SkillArena

open Async Expiring

/-! ### Running alone with failures -/

/-- The operation belongs to the hearts block, whose failures are swallowed. -/
def Op.ofHearts : Op → Bool
  | query (.selectHearts _) | query (.loseHeart ..) | query (.regainHeart _) => true
  | _ => false

/-- **Which operations fail**, before the first rejection outside the hearts block and after it. In one
call of `resolveMatch` no operation is awaited twice on the same side of it. -/
abbrev Faults := Bool → Op → Bool

/-- A call in progress: the world, and whether an operation outside the hearts block has rejected. -/
structure Attempt where
  world : World
  broken : Bool := false

/-- One operation of a call. -/
def Attempt.perform (env : Env) (fails : Faults) (op : signature.Op) (attempt : Attempt) :
    signature.Reply op × Attempt :=
  let choice := if Op.fallible op && fails attempt.broken op then Choice.fail else .proceed
  match Op.perform env choice op attempt.world with
  | some (.ok value, world) => (.ok value, ⟨world, attempt.broken⟩)
  | some (.error err, world) => (.error err, ⟨world, attempt.broken || !Op.ofHearts op⟩)
  | none => (.error .unavailable, ⟨attempt.world, attempt.broken || !Op.ofHearts op⟩)

/-- The world after one call of `resolveMatch`. -/
def resolveAlone (env : Env) (fails : Faults) (matchId : MatchId) (winnerId loserId : UserId)
    (resolveType : ResolveType) (world : World) : World :=
  ((resolveMatch matchId winnerId loserId resolveType).interpret (Attempt.perform env fails)
    ⟨world, false⟩).2.world

section Calls

variable {env : Env} {fails : Faults} {world world' : World} {broken : Bool} {α : Type}

theorem attempt_fails {op : Op} (fallible : op.fallible = true) (failing : fails broken op = true) :
    Attempt.perform env fails op ⟨world, broken⟩ =
      (.error .unavailable, ⟨world, broken || !op.ofHearts⟩) := by
  simp [Attempt.perform, Op.perform, fallible, failing]

theorem attempt_proceeds {op : Op} (working : fails broken op = false) {value : op.Reply}
    (proceeds : op.proceed env .proceed world = some (.ok value, world')) :
    Attempt.perform env fails op ⟨world, broken⟩ = (.ok value, ⟨world', broken⟩) := by
  simp [Attempt.perform, Op.perform, working, proceeds]

/-- What an operation that fails leaves of a call. -/
abbrev thrown (world : World) : Except Err α × Attempt := (.error .unavailable, ⟨world, true⟩)

/-- **One operation outside the hearts block, and what follows it.** -/
theorem call_bind {op : Op} {rest : op.Reply → Promise α} (fallible : op.fallible = true)
    (outside : op.ofHearts = false) {value : op.Reply} {ended : Except Err α × Attempt}
    (proceeds : op.proceed env .proceed world = some (.ok value, world'))
    (next : (rest value).interpret (Attempt.perform env fails) ⟨world', broken⟩ = ended) :
    (op.call >>= rest).interpret (Attempt.perform env fails) ⟨world, broken⟩ =
      if fails broken op then thrown world else ended := by
  have called : op.call.interpret (Attempt.perform env fails) ⟨world, broken⟩ =
      Attempt.perform env fails op ⟨world, broken⟩ := rfl
  rw [Task.interpret_bind, called]
  by_cases failing : fails broken op = true
  · rw [attempt_fails fallible failing, if_pos failing, outside, Bool.not_false, Bool.or_true]
  · rw [attempt_proceeds (Bool.eq_false_iff.mpr failing) proceeds, if_neg failing]
    exact next

theorem call_rejects {op : Op} {rest : op.Reply → Promise α} {err : Err} {attempt : Attempt}
    (rejects : Attempt.perform env fails op ⟨world, broken⟩ = (.error err, attempt)) :
    (op.call >>= rest).interpret (Attempt.perform env fails) ⟨world, broken⟩ = (.error err, attempt) := by
  have called : op.call.interpret (Attempt.perform env fails) ⟨world, broken⟩ =
      Attempt.perform env fails op ⟨world, broken⟩ := rfl
  rw [Task.interpret_bind, called, rejects]

end Calls

/-! ### The two outcomes -/

/-- The statistics of a user: played, won, rating. -/
def UserRow.stats (row : UserRow) : ℕ × ℕ × ℤ := (row.matchesPlayed, row.matchesWon, row.skillRating)

def wonStats : ℕ × ℕ × ℤ → ℕ × ℕ × ℤ
  | (played, won, rating) => (played + 1, won + 1, rating + 25)

def lostStats : ℕ × ℕ × ℤ → ℕ × ℕ × ℤ
  | (played, won, rating) => (played + 1, won, max (rating - 15) 0)

def Db.statsOf (db : Db) (user : UserId) : Option (ℕ × ℕ × ℤ) := (db.users user).map (·.stats)

/-- The result of a match is recorded: its row, and the statistics of both players. -/
structure Recorded (matchId : MatchId) (winnerId loserId : UserId) (db db' : Db) : Prop where
  row : (db'.matches_ matchId).map (fun row => (row.status, row.winnerId)) = some (.completed, some winnerId)
  winner : db'.statsOf winnerId = (db.statsOf winnerId).map wonStats
  loser : db'.statsOf loserId = (db.statsOf loserId).map lostStats

/-- **Paid**: the wallets and the ledger are as the payout leaves them, and the result is recorded. -/
structure Paid (env : Env) (matchId : MatchId) (winnerId loserId : UserId) (fee : ℚ) (db db' : Db) :
    Prop where
  payout : ∃ reply paid, (Transaction.releaseEscrowToWinner winnerId loserId fee matchId).run env db =
    (.ok reply, paid) ∧ db'.wallets = paid.wallets ∧ db'.ledger = paid.ledger
  recorded : Recorded matchId winnerId loserId db db'

/-- **Refunded**: the wallets and the ledger are as the refund leaves them, no winner is recorded, and
no statistics have changed. -/
structure Refunded (env : Env) (matchId : MatchId) (playerA playerB : UserId) (fee : ℚ) (db db' : Db) :
    Prop where
  refund : ∃ refunded, (Transaction.refundBothPlayers playerA playerB fee matchId).run env db =
    (.ok (), refunded) ∧ db'.wallets = refunded.wallets ∧ db'.ledger = refunded.ledger
  row : (db'.matches_ matchId).map (·.winnerId) = some none
  users : ∀ user ∈ [playerA, playerB], db'.statsOf user = db.statsOf user

/-! ### Where a call starts, and which failures it survives -/

/-- **An open match**: the flag is absent, the state is in Redis, the two users are its players, hold
its fee in escrow and have their rows, and the row of the match has no winner. -/
structure Opens (env : Env) (matchId : MatchId) (winnerId loserId : UserId) (matchState : MatchState)
    (world : World) : Prop where
  unresolved : world.redis.read world.now (.resolved matchId) = none
  state : world.redis.read world.now (.state matchId) = some matchState
  players : matchState.Decides (winnerId, loserId)
  different : winnerId ≠ loserId
  positive : 0 < matchState.entryFee
  kept : env.numeric.store matchState.entryFee = matchState.entryFee
  percent : 0 ≤ env.platformFeePercent ∧ env.platformFeePercent ≤ 100
  escrow : ∀ user ∈ [winnerId, loserId], ∃ W, world.db.wallets user = some W ∧
    env.numeric.store W.lockedBalance = W.lockedBalance ∧ matchState.entryFee ≤ W.lockedBalance
  users : ∀ user ∈ [winnerId, loserId], (world.db.users user).isSome
  row : (world.db.matches_ matchId).map (·.winnerId) = some none

/-- The score `recordResult` reads of a user. -/
def World.scoreOf (world : World) (matchId : MatchId) (user : UserId) : JsNum :=
  numberOr 0 (world.redis.read world.now (.score matchId user))

/-- The time `recordResult` reads of a user. -/
def World.timeOf (world : World) (matchId : MatchId) (user : UserId) : JsNum :=
  numberOr 0 (world.redis.read world.now (.time matchId user))

namespace Faults

variable (fails : Faults) (matchId : MatchId) (winnerId loserId : UserId) (matchState : MatchState)
  (world : World)

/-- Something fails up to the payout. -/
def upToPayout : Bool :=
  fails false (.get (.resolved matchId)) || fails false (.set (.resolved matchId) () 7200) ||
  fails false (.get (.state matchId)) ||
  fails false (.set (.state matchId) { matchState with status := .completed } 7200) ||
  fails false (.transact (.releaseEscrowToWinner winnerId loserId matchState.entryFee matchId))

/-- The read of a score or of a time fails. -/
def inReading : Bool :=
  fails false (.get (.score matchId matchState.playerAId)) ||
  fails false (.get (.score matchId matchState.playerBId)) ||
  fails false (.get (.time matchId matchState.playerAId)) ||
  fails false (.get (.time matchId matchState.playerBId))

/-- Something fails between the payout and the last statistics; a time that is `NaN` cannot be stored. -/
def inRecording : Bool :=
  fails.inReading matchId matchState || fails false (.query (.completeMatch matchId winnerId
    (world.scoreOf matchId matchState.playerAId) (world.scoreOf matchId matchState.playerBId)
    (world.timeOf matchId matchState.playerAId) (world.timeOf matchId matchState.playerBId))) ||
  (world.timeOf matchId matchState.playerAId = .nan || world.timeOf matchId matchState.playerBId = .nan) ||
  fails false (.query (.countWin winnerId)) || fails false (.query (.countLoss loserId))

/-- Something fails after the last statistics. -/
def afterwards : Bool :=
  fails false (.del (.activeMatch winnerId)) || fails false (.del (.activeMatch loserId)) ||
  fails false (.query (.selectBalance winnerId))

/-- The `catch` block cannot refund. -/
def inCatch : Bool :=
  fails true (.get (.state matchId)) ||
  fails true (.transact (.refundBothPlayers matchState.playerAId matchState.playerBId
    matchState.entryFee matchId))

/-- A player has no other escrow that covers a second fee. -/
def uncovered : Prop :=
  ∃ user ∈ [winnerId, loserId], ∃ W, world.db.wallets user = some W ∧
    W.lockedBalance < 2 * matchState.entryFee

/-- **The failures a call survives**: a failure up to the payout is followed by a refund that succeeds;
else nothing fails up to the last statistics, and a later failure is followed by no refund. -/
def survived : Prop :=
  if fails.upToPayout matchId winnerId loserId matchState then fails.inCatch matchId matchState = false
  else fails.inRecording matchId winnerId loserId matchState world = false ∧
    (fails.afterwards winnerId loserId = true → fails.inCatch matchId matchState = true ∨
      uncovered winnerId loserId matchState world)

end Faults

/-! ### The hearts block -/

/-- Nothing but hearts has changed. -/
structure HeartsOnly (before after : Attempt) : Prop where
  broken : after.broken = before.broken
  redis : after.world.redis = before.world.redis
  now : after.world.now = before.world.now
  wallets : after.world.db.wallets = before.world.db.wallets
  ledger : after.world.db.ledger = before.world.db.ledger
  matches_ : after.world.db.matches_ = before.world.db.matches_
  stats : ∀ user, after.world.db.statsOf user = before.world.db.statsOf user

namespace HeartsOnly

theorem refl (attempt : Attempt) : HeartsOnly attempt attempt :=
  ⟨rfl, rfl, rfl, rfl, rfl, rfl, fun _ => rfl⟩

theorem trans {a b c : Attempt} (first : HeartsOnly a b) (second : HeartsOnly b c) : HeartsOnly a c :=
  ⟨second.broken.trans first.broken, second.redis.trans first.redis, second.now.trans first.now,
    second.wallets.trans first.wallets, second.ledger.trans first.ledger,
    second.matches_.trans first.matches_, fun user => (second.stats user).trans (first.stats user)⟩

end HeartsOnly

theorem updateUser_stats {change : UserRow → UserRow} (keeps : ∀ row, (change row).stats = row.stats)
    (db : Db) (user user' : UserId) :
    (db.updateUser user change).statsOf user' = db.statsOf user' := by
  unfold Db.updateUser Db.statsOf
  by_cases same : user' = user
  · subst same
    simp only [Function.update_self, Option.map_map]
    exact congrArg (Option.map · _) (funext keeps)
  · simp only [Function.update_of_ne same]

theorem hearts_step (env : Env) (fails : Faults) (op : Op) (attempt : Attempt)
    (hearts : op.ofHearts = true ∨ op = .dateNow) :
    HeartsOnly attempt (Attempt.perform env fails op attempt).2 := by
  obtain ⟨world, broken⟩ := attempt
  rcases hearts with hearts | rfl
  · have fallible : op.fallible = true := by
      cases op
      case query => rfl
      all_goals cases hearts
    by_cases failing : fails broken op = true
    · rw [attempt_fails fallible failing, hearts, Bool.not_true, Bool.or_false]
      exact HeartsOnly.refl _
    · have working := Bool.eq_false_iff.mpr failing
      unfold Op.ofHearts at hearts
      split at hearts
      · rw [attempt_proceeds working rfl]
        exact HeartsOnly.refl _
      · rw [attempt_proceeds working rfl]
        refine ⟨rfl, rfl, rfl, rfl, rfl, rfl, fun user => updateUser_stats ?_ _ _ user⟩
        exact fun _ => rfl
      · rw [attempt_proceeds working rfl]
        refine ⟨rfl, rfl, rfl, rfl, rfl, rfl, fun user => updateUser_stats ?_ _ _ user⟩
        exact fun _ => rfl
      · cases hearts
  · have same : Attempt.perform env fails Op.dateNow ⟨world, broken⟩ = (.ok world.now, ⟨world, broken⟩) := rfl
    rw [same]
    exact HeartsOnly.refl _

/-- **The hearts block** never throws, and changes nothing but hearts. -/
theorem updateHearts_alone (env : Env) (fails : Faults) (winnerId loserId : UserId) (attempt : Attempt) :
    ∃ after, (updateHearts winnerId loserId).interpret (Attempt.perform env fails) attempt = (.ok (), after) ∧
      HeartsOnly attempt after := by
  have asks : (updateHearts winnerId loserId).Asks fun op : Op => op.ofHearts = true ∨ op = .dateNow :=
    updateHearts_asks winnerId loserId (.inr rfl) (.inl rfl) (fun _ _ _ => .inl rfl) (.inl rfl)
  have frame := asks.interpret HeartsOnly.refl HeartsOnly.trans (hearts_step env fails) attempt
  refine ⟨_, Prod.ext ?_ rfl, frame⟩
  unfold updateHearts
  rw [Task.interpret_attempt]
  split
  · rename_i value state ran
    rfl
  · rfl

/-! ### Up to the payout -/

section Call

variable {env : Env} {fails : Faults} {matchId : MatchId} {winnerId loserId : UserId}
  {matchState : MatchState} {world : World} {resolveType : ResolveType}

/-- The state of the match can be read, and its players and its fee are the given ones. -/
def Readable (matchId : MatchId) (matchState : MatchState) (world : World) : Prop :=
  ∃ stored, world.redis.read world.now (.state matchId) = some stored ∧
    stored.playerAId = matchState.playerAId ∧ stored.playerBId = matchState.playerBId ∧
    stored.entryFee = matchState.entryFee

def World.flagged (world : World) (matchId : MatchId) : World :=
  world.withRedis (world.redis.write (.resolved matchId) () (world.expiry 7200))

def World.closed (world : World) (matchId : MatchId) (matchState : MatchState) : World :=
  (world.flagged matchId).withRedis ((world.flagged matchId).redis.write (.state matchId)
    { matchState with status := .completed } ((world.flagged matchId).expiry 7200))

theorem flagged_read (world : World) (matchId : MatchId) {key : Key} (other : key ≠ .resolved matchId) :
    (world.flagged matchId).redis.read (world.flagged matchId).now key = world.redis.read world.now key :=
  Store.read_write_of_ne other _ _ _

theorem closed_read (world : World) (matchId : MatchId) (matchState : MatchState) {key : Key}
    (other : key ≠ .resolved matchId) (notState : key ≠ .state matchId) :
    (world.closed matchId matchState).redis.read (world.closed matchId matchState).now key =
      world.redis.read world.now key :=
  (Store.read_write_of_ne notState _ _ _).trans (flagged_read world matchId other)

theorem closed_readable (world : World) (matchId : MatchId) (matchState : MatchState) :
    Readable matchId matchState (world.closed matchId matchState) := by
  refine ⟨_, Store.read_write_self _ _ _ ?_, rfl, rfl, rfl⟩
  exact Nat.le_add_right _ _

/-- **The call up to the payout**, as a cascade of failures. -/
theorem resolveBody_alone (opens : Opens env matchId winnerId loserId matchState world) {paid : Db}
    {reply : ℚ × ℚ} (payout : (Transaction.releaseEscrowToWinner winnerId loserId matchState.entryFee
      matchId).run env world.db = (.ok reply, paid)) :
    (resolveBody matchId winnerId loserId resolveType).interpret (Attempt.perform env fails)
        ⟨world, false⟩ =
      if fails false (.get (.resolved matchId)) then thrown world
      else if fails false (.set (.resolved matchId) () 7200) then thrown world
      else if fails false (.get (.state matchId)) then thrown (world.flagged matchId)
      else if fails false (.set (.state matchId) { matchState with status := .completed } 7200) then
        thrown (world.flagged matchId)
      else if fails false (.transact (.releaseEscrowToWinner winnerId loserId matchState.entryFee
        matchId)) then thrown (world.closed matchId matchState)
      else (recordResult matchId winnerId loserId resolveType { matchState with status := .completed }
        reply).interpret (Attempt.perform env fails)
          ⟨(world.closed matchId matchState).withDb paid, false⟩ := by
  refine call_bind rfl rfl rfl ?_
  rw [opens.unresolved]
  refine call_bind rfl rfl rfl (call_bind rfl rfl rfl ?_)
  have state : (world.withRedis (world.redis.write (.resolved matchId) () (world.expiry 7200))).redis.read
      (world.withRedis (world.redis.write (.resolved matchId) () (world.expiry 7200))).now
        (.state matchId) = some matchState :=
    (flagged_read world matchId (show Key.state matchId ≠ .resolved matchId from nofun)).trans opens.state
  rw [state]
  refine call_bind rfl rfl rfl (call_bind rfl rfl ?_ rfl)
  show some ((Transaction.run env _ world.db).1, World.withDb _ (Transaction.run env _ world.db).2) = _
  rw [payout]
  rfl

/-! ### The record of the result -/

def World.completed (world : World) (matchId : MatchId) (winnerId : UserId) (scoreA scoreB : JsNum)
    (timeA timeB : ℤ) : World :=
  world.withDb (world.db.updateMatch matchId fun row =>
    { row with status := .completed, winnerId := some winnerId, playerAScore := scoreA,
               playerBScore := scoreB, playerATimeMs := some timeA, playerBTimeMs := some timeB })

def World.wins (world : World) (user : UserId) : World :=
  world.withDb (world.db.updateUser user fun row =>
    { row with matchesPlayed := row.matchesPlayed + 1, matchesWon := row.matchesWon + 1,
               skillRating := row.skillRating + 25 })

def World.loses (world : World) (user : UserId) : World :=
  world.withDb (world.db.updateUser user fun row =>
    { row with matchesPlayed := row.matchesPlayed + 1, skillRating := max (row.skillRating - 15) 0 })

def World.freed (world : World) (user : UserId) : World :=
  world.withRedis (world.redis.delete (.activeMatch user))

def World.announced (world : World) (matchId : MatchId) (result : Event) : World :=
  { world with sent := world.sent ++ [(.matchRoom matchId, result)] }

theorem readResults_alone {rest : JsNum → JsNum → JsNum → JsNum → Promise Unit}
    {ended : Except Err Unit × Attempt}
    (next : (rest (world.scoreOf matchId matchState.playerAId) (world.scoreOf matchId matchState.playerBId)
      (world.timeOf matchId matchState.playerAId) (world.timeOf matchId matchState.playerBId)).interpret
        (Attempt.perform env fails) ⟨world, false⟩ = ended) :
    (do
      let scoreA ← readScore matchId matchState.playerAId 0
      let scoreB ← readScore matchId matchState.playerBId 0
      let timeA ← readTime matchId matchState.playerAId 0
      let timeB ← readTime matchId matchState.playerBId 0
      rest scoreA scoreB timeA timeB : Promise Unit).interpret (Attempt.perform env fails) ⟨world, false⟩ =
      if fails.inReading matchId matchState then thrown world else ended := by
  refine (Task.interpret_bind_assoc _ _ _ _ _).trans ((call_bind rfl rfl rfl
    ((Task.interpret_bind_assoc _ _ _ _ _).trans (call_bind rfl rfl rfl
    ((Task.interpret_bind_assoc _ _ _ _ _).trans (call_bind rfl rfl rfl
    ((Task.interpret_bind_assoc _ _ _ _ _).trans (call_bind rfl rfl rfl next))))))).trans ?_)
  unfold Faults.inReading
  simp only [← ite_or, Bool.or_eq_true, or_assoc]

/-- **The record of a result**, as a cascade of failures. -/
theorem recordResult_alone (env : Env) (fails : Faults) (winnerId loserId : UserId)
    (resolveType : ResolveType) (prize : ℚ × ℚ) {timeA timeB : ℤ}
    (isA : world.timeOf matchId matchState.playerAId = .int timeA)
    (isB : world.timeOf matchId matchState.playerBId = .int timeB) :
    ∃ counted result, HeartsOnly ⟨world.completed matchId winnerId
        (world.scoreOf matchId matchState.playerAId) (world.scoreOf matchId matchState.playerBId)
        timeA timeB, false⟩ ⟨counted, false⟩ ∧
      (recordResult matchId winnerId loserId resolveType matchState prize).interpret
          (Attempt.perform env fails) ⟨world, false⟩ =
        if fails.inReading matchId matchState then thrown world
        else if fails false (.query (.completeMatch matchId winnerId
          (world.scoreOf matchId matchState.playerAId) (world.scoreOf matchId matchState.playerBId)
          (world.timeOf matchId matchState.playerAId) (world.timeOf matchId matchState.playerBId))) then
          thrown world
        else if fails false (.query (.countWin winnerId)) then thrown counted
        else if fails false (.query (.countLoss loserId)) then thrown (counted.wins winnerId)
        else if fails false (.del (.activeMatch winnerId)) then
          thrown ((counted.wins winnerId).loses loserId)
        else if fails false (.del (.activeMatch loserId)) then
          thrown (((counted.wins winnerId).loses loserId).freed winnerId)
        else if fails false (.query (.selectBalance winnerId)) then
          thrown ((((counted.wins winnerId).loses loserId).freed winnerId).freed loserId)
        else (.ok (), ⟨((((counted.wins winnerId).loses loserId).freed winnerId).freed
          loserId).announced matchId result, false⟩) := by
  obtain ⟨⟨counted, broken⟩, hearts, only⟩ := updateHearts_alone env fails winnerId loserId
    ⟨world.completed matchId winnerId (world.scoreOf matchId matchState.playerAId)
      (world.scoreOf matchId matchState.playerBId) timeA timeB, false⟩
  obtain rfl : broken = false := only.broken
  have completes : (Op.query (.completeMatch matchId winnerId
      (world.scoreOf matchId matchState.playerAId) (world.scoreOf matchId matchState.playerBId)
      (world.timeOf matchId matchState.playerAId) (world.timeOf matchId matchState.playerBId))).proceed
      env .proceed world = some (.ok (), world.completed matchId winnerId
        (world.scoreOf matchId matchState.playerAId) (world.scoreOf matchId matchState.playerBId)
        timeA timeB) := by
    rw [isA, isB]
    rfl
  refine ⟨counted, .result matchId resolveType winnerId loserId prize.1 prize.2
    (world.scoreOf matchId matchState.playerAId) (world.scoreOf matchId matchState.playerBId)
    (world.timeOf matchId matchState.playerAId) (world.timeOf matchId matchState.playerBId)
    (((counted.db.wallets winnerId).map (·.balance)).getD 0), only, ?_⟩
  refine readResults_alone (call_bind rfl rfl completes ?_)
  rw [Task.interpret_bind, hearts]
  exact call_bind rfl rfl rfl (call_bind rfl rfl rfl (call_bind rfl rfl rfl (call_bind rfl rfl rfl
    (call_bind rfl rfl rfl rfl))))

/-- A time that is `NaN` cannot be stored: the record of the result throws before it changes anything. -/
theorem recordResult_nan {prize : ℚ × ℚ}
    (nan : world.timeOf matchId matchState.playerAId = .nan ∨
      world.timeOf matchId matchState.playerBId = .nan) :
    ∃ err, (recordResult matchId winnerId loserId resolveType matchState prize).interpret
      (Attempt.perform env fails) ⟨world, false⟩ = (.error err, ⟨world, true⟩) := by
  obtain ⟨err, rejects⟩ : ∃ err, Attempt.perform env fails (.query (.completeMatch matchId winnerId
      (world.scoreOf matchId matchState.playerAId) (world.scoreOf matchId matchState.playerBId)
      (world.timeOf matchId matchState.playerAId) (world.timeOf matchId matchState.playerBId)))
      ⟨world, false⟩ = (.error err, ⟨world, true⟩) := by
    by_cases failing : fails false (.query (.completeMatch matchId winnerId
        (world.scoreOf matchId matchState.playerAId) (world.scoreOf matchId matchState.playerBId)
        (world.timeOf matchId matchState.playerAId) (world.timeOf matchId matchState.playerBId))) = true
    · exact ⟨_, attempt_fails rfl failing⟩
    · refine ⟨.invalidInput, ?_⟩
      have rejected : Query.exec 0 (.completeMatch matchId winnerId
          (world.scoreOf matchId matchState.playerAId) (world.scoreOf matchId matchState.playerBId)
          (world.timeOf matchId matchState.playerAId) (world.timeOf matchId matchState.playerBId))
          world.db = .error .invalidInput := by
        rcases nan with nan | nan
        · rw [nan]
          rfl
        · rw [nan]
          cases world.timeOf matchId matchState.playerAId with
          | nan => rfl
          | int time => rfl
      simp [Attempt.perform, Op.perform, Op.proceed, failing, rejected, Op.ofHearts]
  by_cases reading : fails.inReading matchId matchState = true
  · exact ⟨_, (readResults_alone rfl).trans (if_pos reading)⟩
  · exact ⟨_, (readResults_alone (call_rejects rejects)).trans (if_neg reading)⟩

/-! ### The statistics -/

theorem wins_stats (world : World) (user : UserId) :
    (world.wins user).db.statsOf user = (world.db.statsOf user).map wonStats := by
  show ((Function.update world.db.users user _) user).map _ = _
  rw [Function.update_self, Option.map_map, Db.statsOf, Option.map_map]
  rfl

theorem loses_stats (world : World) (user : UserId) :
    (world.loses user).db.statsOf user = (world.db.statsOf user).map lostStats := by
  show ((Function.update world.db.users user _) user).map _ = _
  rw [Function.update_self, Option.map_map, Db.statsOf, Option.map_map]
  rfl

theorem wins_stats_of_ne {user other : UserId} (different : other ≠ user) (world : World) :
    (world.wins user).db.statsOf other = world.db.statsOf other :=
  congrArg (Option.map _) (Function.update_of_ne different _ _)

theorem loses_stats_of_ne {user other : UserId} (different : other ≠ user) (world : World) :
    (world.loses user).db.statsOf other = world.db.statsOf other :=
  congrArg (Option.map _) (Function.update_of_ne different _ _)

theorem stats_ne {db : Db} {user : UserId} (found : (db.users user).isSome) {after : ℕ × ℕ × ℤ → ℕ × ℕ × ℤ}
    (counts : ∀ stats, (after stats).1 = stats.1 + 1) : db.statsOf user ≠ (db.statsOf user).map after := by
  obtain ⟨row, here⟩ := Option.isSome_iff_exists.mp found
  unfold Db.statsOf
  rw [here]
  intro same
  have played := congrArg (·.1) (Option.some_injective _ same)
  rw [counts] at played
  omega

theorem JsNum.exists_int {number : JsNum} (notNan : number ≠ .nan) : ∃ value, number = .int value := by
  cases number with
  | nan => exact absurd rfl notNan
  | int value => exact ⟨value, rfl⟩

/-- **A failure in the record** of the result leaves the wallets and the ledger, and the result is not
recorded. -/
theorem recordResult_fails (resolveType : ResolveType) (prize : ℚ × ℚ) (different : winnerId ≠ loserId)
    (unrecorded : (world.db.matches_ matchId).map (·.winnerId) = some none)
    (users : ∀ user ∈ [winnerId, loserId], (world.db.users user).isSome)
    (failing : fails.inRecording matchId winnerId loserId matchState world = true) :
    ∃ err world', (recordResult matchId winnerId loserId resolveType matchState prize).interpret
        (Attempt.perform env fails) ⟨world, false⟩ = (.error err, ⟨world', true⟩) ∧
      world'.db.wallets = world.db.wallets ∧ world'.db.ledger = world.db.ledger ∧
      world'.redis = world.redis ∧ world'.now = world.now ∧
      ¬ Recorded matchId winnerId loserId world.db world'.db := by
  have noRow : ¬ Recorded matchId winnerId loserId world.db world.db := by
    intro recorded
    have winner := congrArg (Option.map (·.2)) recorded.row
    rw [Option.map_map] at winner
    exact absurd (unrecorded.symm.trans winner) nofun
  by_cases nan : world.timeOf matchId matchState.playerAId = .nan ∨
      world.timeOf matchId matchState.playerBId = .nan
  · obtain ⟨err, runs⟩ := recordResult_nan nan
    exact ⟨err, world, runs, rfl, rfl, rfl, rfl, noRow⟩
  rw [not_or] at nan
  obtain ⟨timeA, isA⟩ := JsNum.exists_int nan.1
  obtain ⟨timeB, isB⟩ := JsNum.exists_int nan.2
  obtain ⟨counted, result, only, runs⟩ := recordResult_alone env fails winnerId loserId resolveType prize isA isB
  rw [runs]
  split_ifs with reading completing winning losing
  · exact ⟨_, world, rfl, rfl, rfl, rfl, rfl, noRow⟩
  · exact ⟨_, world, rfl, rfl, rfl, rfl, rfl, noRow⟩
  · refine ⟨_, counted, rfl, only.wallets, only.ledger, only.redis, only.now, fun recorded => ?_⟩
    exact stats_ne (users winnerId (by simp)) (fun _ => rfl)
      ((only.stats winnerId).symm.trans recorded.winner)
  · refine ⟨_, counted.wins winnerId, rfl, only.wallets, only.ledger, only.redis, only.now,
      fun recorded => ?_⟩
    have kept := recorded.loser
    rw [wins_stats_of_ne different.symm] at kept
    exact stats_ne (users loserId (by simp)) (fun _ => rfl) ((only.stats loserId).symm.trans kept)
  all_goals
    exfalso
    simp_all [Faults.inRecording]

/-- **Without a failure in the record** the result is recorded, and the call throws exactly when something
fails after it. -/
theorem recordResult_records (resolveType : ResolveType) (prize : ℚ × ℚ) (different : winnerId ≠ loserId)
    (found : (world.db.matches_ matchId).isSome)
    (working : fails.inRecording matchId winnerId loserId matchState world = false) :
    ∃ result world', (recordResult matchId winnerId loserId resolveType matchState prize).interpret
        (Attempt.perform env fails) ⟨world, false⟩ = (result, ⟨world', fails.afterwards winnerId loserId⟩) ∧
      result.isOk = !fails.afterwards winnerId loserId ∧
      world'.db.wallets = world.db.wallets ∧ world'.db.ledger = world.db.ledger ∧
      world'.redis (.state matchId) = world.redis (.state matchId) ∧ world'.now = world.now ∧
      Recorded matchId winnerId loserId world.db world'.db := by
  simp only [Faults.inRecording, Bool.or_eq_false_iff, decide_eq_false_iff_not, and_assoc] at working
  obtain ⟨reading, completing, nanA, nanB, winning, losing⟩ := working
  obtain ⟨timeA, isA⟩ := JsNum.exists_int nanA
  obtain ⟨timeB, isB⟩ := JsNum.exists_int nanB
  obtain ⟨counted, result, only, runs⟩ :=
    recordResult_alone env fails winnerId loserId resolveType prize isA isB
  have recorded : Recorded matchId winnerId loserId world.db ((counted.wins winnerId).loses loserId).db := by
    refine ⟨?_, ?_, ?_⟩
    · obtain ⟨row, here⟩ := Option.isSome_iff_exists.mp found
      show (counted.db.matches_ matchId).map _ = _
      rw [only.matches_]
      show ((Function.update world.db.matches_ matchId _) matchId).map _ = _
      rw [Function.update_self, here]
      rfl
    · rw [loses_stats_of_ne different, wins_stats, only.stats]
      rfl
    · rw [loses_stats, wins_stats_of_ne different.symm, only.stats]
      rfl
  have state : ∀ user, (Key.state matchId) ≠ .activeMatch user := nofun
  have freed : ∀ (freed : World) user, (freed.freed user).redis (.state matchId) =
      freed.redis (.state matchId) := fun _ user => Store.delete_of_ne (state user)
  have kept : counted.redis (.state matchId) = world.redis (.state matchId) := congrFun only.redis _
  have bothFreed : ((((counted.wins winnerId).loses loserId).freed winnerId).freed loserId).redis
      (.state matchId) = world.redis (.state matchId) := (freed _ _).trans ((freed _ _).trans kept)
  simp only [reading, completing, winning, losing, Bool.false_eq_true, if_false] at runs
  split_ifs at runs with first second third
  · have after : fails.afterwards winnerId loserId = true := by simp [Faults.afterwards, first]
    rw [after]
    exact ⟨_, _, runs, rfl, only.wallets, only.ledger, kept, only.now, recorded⟩
  · have after : fails.afterwards winnerId loserId = true := by simp [Faults.afterwards, second]
    rw [after]
    exact ⟨_, _, runs, rfl, only.wallets, only.ledger, (freed _ _).trans kept, only.now, recorded⟩
  · have after : fails.afterwards winnerId loserId = true := by simp [Faults.afterwards, third]
    rw [after]
    exact ⟨_, _, runs, rfl, only.wallets, only.ledger, bothFreed, only.now, recorded⟩
  · have after : fails.afterwards winnerId loserId = false := by
      simp [Faults.afterwards, first, second, third]
    rw [after]
    exact ⟨_, _, runs, rfl, only.wallets, only.ledger, bothFreed, only.now, recorded⟩

/-! ### The `catch` block -/

/-- **The `catch` block** refunds, unless it fails itself. -/
theorem resolveCatch_db (readable : Readable matchId matchState world) :
    ((resolveCatch matchId).interpret (Attempt.perform env fails) ⟨world, true⟩).2.world.db =
      if fails.inCatch matchId matchState then world.db
      else ((Transaction.refundBothPlayers matchState.playerAId matchState.playerBId matchState.entryFee
        matchId).run env world.db).2 := by
  obtain ⟨stored, read, isA, isB, isFee⟩ := readable
  rw [resolveCatch, Task.interpret_attempt_pure]
  have first : (refundUnresolved matchId).interpret (Attempt.perform env fails) ⟨world, true⟩ =
      if fails true (.get (.state matchId)) then thrown world
      else (do
        transact (.refundBothPlayers stored.playerAId stored.playerBId stored.entryFee matchId)
        emit (.matchRoom matchId) (.matchError "Match resolution failed. Both refunded.") :
          Promise Unit).interpret (Attempt.perform env fails) ⟨world, true⟩ :=
    call_bind rfl rfl rfl (by rw [read])
  unfold Faults.inCatch
  rw [← isA, ← isB, ← isFee, first]
  by_cases reading : fails true (.get (.state matchId)) = true
  · rw [if_pos reading, reading, Bool.true_or, if_pos rfl]
  rw [if_neg reading, Bool.eq_false_iff.mpr reading, Bool.false_or]
  by_cases refunding : fails true (.transact (.refundBothPlayers stored.playerAId stored.playerBId
      stored.entryFee matchId)) = true
  · rw [if_pos refunding]
    exact congrArg (fun ended : Except Err Unit × Attempt => ended.2.world.db)
      (call_rejects (attempt_fails rfl refunding))
  rw [if_neg refunding]
  rcases run_cases env (.refundBothPlayers stored.playerAId stored.playerBId stored.entryFee matchId)
    world.db with ⟨_, db', ran⟩ | ⟨err, ran⟩
  · have proceeds : (Op.transact (.refundBothPlayers stored.playerAId stored.playerBId stored.entryFee
        matchId)).proceed env .proceed world = some (.ok (), world.withDb db') := by
      simp only [Op.proceed, ran]
    rw [ran]
    exact congrArg (fun ended : Except Err Unit × Attempt => ended.2.world.db)
      ((call_bind rfl rfl proceeds rfl).trans (if_neg refunding))
  · have rejects : Attempt.perform env fails (.transact (.refundBothPlayers stored.playerAId
        stored.playerBId stored.entryFee matchId)) ⟨world, true⟩ = (.error err, ⟨world, true⟩) := by
      simp [Attempt.perform, Op.perform, Op.proceed, refunding, ran, World.withDb]
    rw [ran]
    exact congrArg (fun ended : Except Err Unit × Attempt => ended.2.world.db) (call_rejects rejects)

/-! ### The whole call -/

theorem resolveAlone_returns {attempt : Attempt}
    (ran : (resolveBody matchId winnerId loserId resolveType).interpret (Attempt.perform env fails)
      ⟨world, false⟩ = (.ok (), attempt)) :
    resolveAlone env fails matchId winnerId loserId resolveType world = attempt.world := by
  unfold resolveAlone resolveMatch
  rw [Task.interpret_attempt, ran]

theorem resolveAlone_throws {err : Err} {world' : World}
    (ran : (resolveBody matchId winnerId loserId resolveType).interpret (Attempt.perform env fails)
      ⟨world, false⟩ = (.error err, ⟨world', true⟩)) (readable : Readable matchId matchState world') :
    (resolveAlone env fails matchId winnerId loserId resolveType world).db =
      if fails.inCatch matchId matchState then world'.db
      else ((Transaction.refundBothPlayers matchState.playerAId matchState.playerBId matchState.entryFee
        matchId).run env world'.db).2 := by
  rw [← resolveCatch_db readable]
  unfold resolveAlone resolveMatch
  rw [Task.interpret_attempt, ran]

/-- **A failure up to the payout** leaves the database to the `catch` block as it was. -/
theorem resolveBody_unpaid (resolveType : ResolveType)
    (opens : Opens env matchId winnerId loserId matchState world) {paid : Db}
    {reply : ℚ × ℚ} (payout : (Transaction.releaseEscrowToWinner winnerId loserId matchState.entryFee
      matchId).run env world.db = (.ok reply, paid))
    (failing : fails.upToPayout matchId winnerId loserId matchState = true) :
    ∃ world', (resolveBody matchId winnerId loserId resolveType).interpret (Attempt.perform env fails)
        ⟨world, false⟩ = (.error .unavailable, ⟨world', true⟩) ∧ world'.db = world.db ∧
      Readable matchId matchState world' := by
  have readable : Readable matchId matchState world := ⟨_, opens.state, rfl, rfl, rfl⟩
  have flagged : Readable matchId matchState (world.flagged matchId) :=
    ⟨_, (flagged_read world matchId (show Key.state matchId ≠ .resolved matchId from nofun)).trans
      opens.state, rfl, rfl, rfl⟩
  rw [resolveBody_alone opens payout]
  split_ifs with reading writing fetching closing paying
  · exact ⟨_, rfl, rfl, readable⟩
  · exact ⟨_, rfl, rfl, readable⟩
  · exact ⟨_, rfl, rfl, flagged⟩
  · exact ⟨_, rfl, rfl, flagged⟩
  · exact ⟨_, rfl, rfl, closed_readable world matchId matchState⟩
  · exfalso
    simp_all [Faults.upToPayout]

/-- Without a failure up to the payout the call goes on with the record of the result. -/
theorem resolveBody_paid (resolveType : ResolveType)
    (opens : Opens env matchId winnerId loserId matchState world) {paid : Db} {reply : ℚ × ℚ}
    (payout : (Transaction.releaseEscrowToWinner winnerId loserId matchState.entryFee matchId).run env
      world.db = (.ok reply, paid))
    (working : fails.upToPayout matchId winnerId loserId matchState = false) :
    (resolveBody matchId winnerId loserId resolveType).interpret (Attempt.perform env fails)
        ⟨world, false⟩ =
      (recordResult matchId winnerId loserId resolveType { matchState with status := .completed }
        reply).interpret (Attempt.perform env fails)
          ⟨(world.closed matchId matchState).withDb paid, false⟩ := by
  simp only [Faults.upToPayout, Bool.or_eq_false_iff, and_assoc] at working
  obtain ⟨reading, writing, fetching, closing, paying⟩ := working
  rw [resolveBody_alone opens payout]
  simp only [reading, writing, fetching, closing, paying, Bool.false_eq_true, if_false]

theorem inRecording_closed (paid : Db) :
    fails.inRecording matchId winnerId loserId { matchState with status := .completed }
        ((world.closed matchId matchState).withDb paid) =
      fails.inRecording matchId winnerId loserId matchState world := by
  have score : ∀ user, ((world.closed matchId matchState).withDb paid).scoreOf matchId user =
      world.scoreOf matchId user := fun user =>
    congrArg (numberOr 0) (closed_read world matchId matchState
      (show Key.score matchId user ≠ .resolved matchId from nofun) nofun)
  have time : ∀ user, ((world.closed matchId matchState).withDb paid).timeOf matchId user =
      world.timeOf matchId user := fun user =>
    congrArg (numberOr 0) (closed_read world matchId matchState
      (show Key.time matchId user ≠ .resolved matchId from nofun) nofun)
  unfold Faults.inRecording Faults.inReading
  rw [score, score, time, time]

theorem Opens.payout (opens : Opens env matchId winnerId loserId matchState world) :
    ∃ reply paid, (Transaction.releaseEscrowToWinner winnerId loserId matchState.entryFee matchId).run env
      world.db = (.ok reply, paid) := by
  obtain ⟨W, foundW, _, coveredW⟩ := opens.escrow winnerId (by simp)
  obtain ⟨L, foundL, _, coveredL⟩ := opens.escrow loserId (by simp)
  exact release_commits matchId opens.different foundW foundL coveredW coveredL
    (netPrizeOf_nonneg opens.percent opens.positive.le)

end Call

/-! ### Settled exactly when the failures are survived -/

section Settled

variable {env : Env} {fails : Faults} {matchId : MatchId} {winnerId loserId playerA playerB : UserId}
  {matchState : MatchState} {world : World} {resolveType : ResolveType} {fee : ℚ} {db db' : Db}

/-- **The match is settled, one way or the other.** -/
def Settled (env : Env) (matchId : MatchId) (winnerId loserId : UserId) (matchState : MatchState)
    (db db' : Db) : Prop :=
  Paid env matchId winnerId loserId matchState.entryFee db db' ∨
    Refunded env matchId matchState.playerAId matchState.playerBId matchState.entryFee db db'

theorem counts_of_ledger (same : db'.ledger = db.ledger) (matchId : MatchId) :
    db'.payouts matchId = db.payouts matchId ∧ db'.refundRows matchId = db.refundRows matchId := by
  unfold Db.payouts Db.refundRows
  rw [same]
  exact ⟨rfl, rfl⟩

theorem Paid.counts (paid : Paid env matchId winnerId loserId fee db db') :
    db'.payouts matchId = db.payouts matchId + 1 ∧ db'.refundRows matchId = db.refundRows matchId := by
  obtain ⟨reply, after, ran, _, ledger⟩ := paid.payout
  obtain ⟨payouts, refunds⟩ := counts_of_ledger ledger matchId
  obtain ⟨more, same⟩ := run_counts matchId ran
  exact ⟨by simpa [payouts, Transaction.paysOut] using more, by simpa [refunds, Transaction.refunds] using same⟩

theorem Refunded.counts (refunded : Refunded env matchId playerA playerB fee db db') :
    db'.payouts matchId = db.payouts matchId ∧ db'.refundRows matchId = db.refundRows matchId + 2 := by
  obtain ⟨after, ran, _, ledger⟩ := refunded.refund
  obtain ⟨payouts, refunds⟩ := counts_of_ledger ledger matchId
  obtain ⟨same, more⟩ := run_counts matchId ran
  exact ⟨by simpa [payouts, Transaction.paysOut] using same, by simpa [refunds, Transaction.refunds] using more⟩

theorem refund_frame (env : Env) (matchId : MatchId) (playerA playerB : UserId) (fee : ℚ) (db : Db) :
    let after := ((Transaction.refundBothPlayers playerA playerB fee matchId).run env db).2
    after.payouts matchId = db.payouts matchId ∧ after.matches_ = db.matches_ ∧ after.users = db.users := by
  intro after
  rcases run_cases env (.refundBothPlayers playerA playerB fee matchId) db with ⟨_, db', ran⟩ | ⟨err, ran⟩
  · have same : after = db' := congrArg (·.2) ran
    obtain ⟨A, A', B, B', _, _, _, _, rows⟩ := refund_ok.mp ran
    rw [same]
    refine ⟨by simpa [Transaction.paysOut] using (run_counts matchId ran).1, ?_, ?_⟩
    · rw [rows]
      rfl
    · rw [rows]
      rfl
  · have same : after = db := congrArg (·.2) ran
    rw [same]
    exact ⟨rfl, rfl, rfl⟩

/-- The winner and the loser are the two players, in one order or the other. -/
theorem Opens.sides (opens : Opens env matchId winnerId loserId matchState world) :
    matchState.playerAId ≠ matchState.playerBId ∧
      ∀ user, user ∈ [winnerId, loserId] ↔ user = matchState.playerAId ∨ user = matchState.playerBId := by
  have different := opens.different
  rcases opens.players with same | same
  · obtain ⟨rfl, rfl⟩ := Prod.mk.inj same
    exact ⟨different, by simp⟩
  · obtain ⟨rfl, rfl⟩ := Prod.mk.inj same
    exact ⟨different.symm, fun user => by simp [or_comm]⟩

/-- What the payout leaves of the escrow of the two players. -/
theorem Opens.remaining (opens : Opens env matchId winnerId loserId matchState world) {reply : ℚ × ℚ}
    {paid : Db} (payout : (Transaction.releaseEscrowToWinner winnerId loserId matchState.entryFee
      matchId).run env world.db = (.ok reply, paid)) :
    ∀ user ∈ [winnerId, loserId], ∃ W V, world.db.wallets user = some W ∧ paid.wallets user = some V ∧
      V.lockedBalance = W.lockedBalance - matchState.entryFee ∧
      env.numeric.store V.lockedBalance = V.lockedBalance := by
  obtain ⟨W, W', L, L', foundW, foundL, wallets, lockedW, lockedL⟩ :=
    release_escrow opens.different payout
  have consumed : ∀ user ∈ [winnerId, loserId], ∀ V V' : Wallet, world.db.wallets user = some V →
      V'.lockedBalance = env.numeric.store (V.lockedBalance - matchState.entryFee) →
      V'.lockedBalance = V.lockedBalance - matchState.entryFee ∧
        env.numeric.store V'.lockedBalance = V'.lockedBalance := by
    intro user member V V' found locked
    obtain ⟨U, here, kept, _⟩ := opens.escrow user member
    obtain rfl : U = V := Option.some_injective _ (here.symm.trans found)
    refine ⟨locked.trans (env.numeric.store_sub kept opens.kept), ?_⟩
    rw [locked, env.numeric.store_store]
  intro user member
  have isSide : user = winnerId ∨ user = loserId := by simpa using member
  rcases isSide with rfl | rfl
  · obtain ⟨exactly, kept⟩ := consumed user member W W' foundW lockedW
    exact ⟨W, W', foundW, by rw [wallets, Function.update_self], exactly, kept⟩
  · obtain ⟨exactly, kept⟩ := consumed user member L L' foundL lockedL
    refine ⟨L, L', foundL, ?_, exactly, kept⟩
    rw [wallets, Function.update_of_ne opens.different.symm, Function.update_self]

/-- **A refund after the payout** commits exactly when both players hold escrow for a second fee. -/
theorem refund_after_payout (opens : Opens env matchId winnerId loserId matchState world) {reply : ℚ × ℚ}
    {paid : Db} (payout : (Transaction.releaseEscrowToWinner winnerId loserId matchState.entryFee
      matchId).run env world.db = (.ok reply, paid)) (wallets : db.wallets = paid.wallets) :
    (∃ after, (Transaction.refundBothPlayers matchState.playerAId matchState.playerBId matchState.entryFee
      matchId).run env db = (.ok (), after)) ↔ ¬ Faults.uncovered winnerId loserId matchState world := by
  have remaining := opens.remaining payout
  obtain ⟨different, side⟩ := opens.sides
  obtain ⟨A, A', foundA, paidA, lockedA, keptA⟩ := remaining _ ((side _).mpr (.inl rfl))
  obtain ⟨B, B', foundB, paidB, lockedB, keptB⟩ := remaining _ ((side _).mpr (.inr rfl))
  rw [← wallets] at paidA paidB
  constructor
  · rintro ⟨after, ran⟩ ⟨user, member, V, found, short⟩
    obtain ⟨X, X', Y, Y', foundX, foundY, _, lockedX, lockedY⟩ := refund_escrow different ran
    obtain rfl : A' = X := Option.some_injective _ (paidA.symm.trans foundX)
    obtain rfl : B' = Y := Option.some_injective _ (paidB.symm.trans foundY)
    rw [env.numeric.store_sub keptA opens.kept] at lockedX
    rw [env.numeric.store_sub keptB opens.kept] at lockedY
    rcases (side user).mp member with rfl | rfl
    · obtain rfl : A = V := Option.some_injective _ (foundA.symm.trans found)
      linarith [X'.positive_locked]
    · obtain rfl : B = V := Option.some_injective _ (foundB.symm.trans found)
      linarith [Y'.positive_locked]
  · intro covered
    have enough : ∀ user ∈ [winnerId, loserId], ∀ W, world.db.wallets user = some W →
        2 * matchState.entryFee ≤ W.lockedBalance := by
      intro user member W found
      exact not_lt.mp fun short => covered ⟨user, member, W, found, short⟩
    have enoughA := enough _ ((side _).mpr (.inl rfl)) A foundA
    have enoughB := enough _ ((side _).mpr (.inr rfl)) B foundB
    obtain ⟨_, after, ran⟩ : ∃ reply after, (Transaction.refundBothPlayers matchState.playerAId
        matchState.playerBId matchState.entryFee matchId).run env db = (.ok reply, after) :=
      refund_commits matchId different paidA paidB (by linarith) (by linarith) opens.positive.le
    exact ⟨after, ran⟩

theorem release_frame {reply : ℚ × ℚ} (ran : (Transaction.releaseEscrowToWinner winnerId loserId fee
    matchId).run env db = (.ok reply, db')) : db'.matches_ = db.matches_ ∧ db'.users = db.users := by
  obtain ⟨L, L', W, W', X, _, _, _, _, _, _, rfl⟩ := release_ok.mp ran
  exact ⟨rfl, rfl⟩

theorem Recorded.of_users {before : Db} (same : before.users = db.users)
    (recorded : Recorded matchId winnerId loserId before db') : Recorded matchId winnerId loserId db db' := by
  obtain ⟨row, winner, loser⟩ := recorded
  unfold Db.statsOf at winner loser
  rw [same] at winner loser
  exact ⟨row, winner, loser⟩

/-- Without a payout the match is settled exactly by the refund. -/
theorem settled_unpaid (opens : Opens env matchId winnerId loserId matchState world) :
    ¬ Settled env matchId winnerId loserId matchState world.db world.db ∧
      Settled env matchId winnerId loserId matchState world.db ((Transaction.refundBothPlayers
        matchState.playerAId matchState.playerBId matchState.entryFee matchId).run env world.db).2 := by
  constructor
  · rintro (paid | refunded)
    · have := paid.counts.1
      omega
    · have := refunded.counts.2
      omega
  · obtain ⟨different, side⟩ := opens.sides
    obtain ⟨A, foundA, _, coveredA⟩ := opens.escrow _ ((side _).mpr (.inl rfl))
    obtain ⟨B, foundB, _, coveredB⟩ := opens.escrow _ ((side _).mpr (.inr rfl))
    obtain ⟨_, after, ran⟩ : ∃ reply after, (Transaction.refundBothPlayers matchState.playerAId
        matchState.playerBId matchState.entryFee matchId).run env world.db = (.ok reply, after) :=
      refund_commits matchId different foundA foundB coveredA coveredB opens.positive.le
    obtain ⟨_, rows, users⟩ := refund_frame env matchId matchState.playerAId matchState.playerBId
      matchState.entryFee world.db
    rw [ran] at rows users ⊢
    refine .inr ⟨⟨after, ran, rfl, rfl⟩, ?_, fun user _ => ?_⟩
    · rw [rows]
      exact opens.row
    · unfold Db.statsOf
      rw [users]

/-- After a payout whose result is not recorded the match is not settled, with or without a refund. -/
theorem not_settled_of_unrecorded {reply : ℚ × ℚ} {paid : Db}
    (payout : (Transaction.releaseEscrowToWinner winnerId loserId matchState.entryFee matchId).run env
      db = (.ok reply, paid)) (ledger : db'.ledger = paid.ledger)
    (unrecorded : ¬ Recorded matchId winnerId loserId db db') :
    ¬ Settled env matchId winnerId loserId matchState db db' ∧
      ¬ Settled env matchId winnerId loserId matchState db ((Transaction.refundBothPlayers
        matchState.playerAId matchState.playerBId matchState.entryFee matchId).run env db').2 := by
  have more : db'.payouts matchId = db.payouts matchId + 1 := by
    rw [(counts_of_ledger ledger matchId).1]
    simpa [Transaction.paysOut] using (run_counts matchId payout).1
  obtain ⟨payouts, rows, users⟩ := refund_frame env matchId matchState.playerAId matchState.playerBId
    matchState.entryFee db'
  constructor
  · rintro (settled | refunded)
    · exact unrecorded settled.recorded
    · have := refunded.counts.1
      omega
  · rintro (settled | refunded)
    · obtain ⟨row, winner, loser⟩ := settled.recorded
      unfold Db.statsOf at winner loser
      rw [rows] at row
      rw [users] at winner loser
      exact unrecorded ⟨row, winner, loser⟩
    · have := refunded.counts.1
      omega

/-- After a payout whose result is recorded the match is settled, unless a refund comes on top. -/
theorem settled_of_recorded (opens : Opens env matchId winnerId loserId matchState world)
    {reply : ℚ × ℚ} {paid : Db}
    (payout : (Transaction.releaseEscrowToWinner winnerId loserId matchState.entryFee matchId).run env
      world.db = (.ok reply, paid)) (wallets : db.wallets = paid.wallets) (ledger : db.ledger = paid.ledger)
    (recorded : Recorded matchId winnerId loserId world.db db) :
    Settled env matchId winnerId loserId matchState world.db db ∧
      (Settled env matchId winnerId loserId matchState world.db ((Transaction.refundBothPlayers
        matchState.playerAId matchState.playerBId matchState.entryFee matchId).run env db).2 ↔
          Faults.uncovered winnerId loserId matchState world) := by
  have settled : Settled env matchId winnerId loserId matchState world.db db :=
    .inl ⟨⟨reply, paid, payout, wallets, ledger⟩, recorded⟩
  refine ⟨settled, ?_⟩
  have commits := refund_after_payout opens payout wallets
  rcases run_cases env (.refundBothPlayers matchState.playerAId matchState.playerBId matchState.entryFee
    matchId) db with ⟨_, after, ran⟩ | ⟨err, ran⟩
  · have covered := commits.mp ⟨after, ran⟩
    refine ⟨fun both => absurd both ?_, fun uncovered => absurd uncovered covered⟩
    obtain ⟨payouts, refunds⟩ := run_counts matchId payout
    obtain ⟨samePayouts, sameRefunds⟩ := counts_of_ledger ledger matchId
    obtain ⟨payouts', refunds'⟩ := run_counts matchId ran
    simp only [Transaction.paysOut, Transaction.refunds, decide_true, if_true, Bool.false_eq_true,
      if_false] at payouts refunds payouts' refunds'
    rw [ran]
    rintro (alsoPaid | refunded)
    · have unrefunded : after.refundRows matchId = world.db.refundRows matchId := alsoPaid.counts.2
      omega
    · have unpaid : after.payouts matchId = world.db.payouts matchId := refunded.counts.1
      omega
  · rw [ran]
    refine ⟨fun _ => not_not.mp fun covered => ?_, fun _ => settled⟩
    obtain ⟨after, ran'⟩ := commits.mpr covered
    rw [ran] at ran'
    cases ran'

/-- A call that fails up to the payout settles the match exactly when the `catch` block refunds. -/
theorem settles_unpaid (resolveType : ResolveType)
    (opens : Opens env matchId winnerId loserId matchState world)
    (failing : fails.upToPayout matchId winnerId loserId matchState = true) :
    Settled env matchId winnerId loserId matchState world.db
        (resolveAlone env fails matchId winnerId loserId resolveType world).db ↔
      fails.inCatch matchId matchState = false := by
  obtain ⟨reply, paid, payout⟩ := opens.payout
  obtain ⟨world', ran, same, readable⟩ := resolveBody_unpaid resolveType opens payout failing
  obtain ⟨unsettled, settled⟩ := settled_unpaid opens
  rw [resolveAlone_throws ran readable, same]
  by_cases catching : fails.inCatch matchId matchState = true
  · rw [if_pos catching]
    exact ⟨fun bad => absurd bad unsettled, fun none => absurd catching (Bool.eq_false_iff.mp none)⟩
  · rw [if_neg catching]
    exact ⟨fun _ => Bool.eq_false_iff.mpr catching, fun _ => settled⟩

/-- A call that fails between the payout and the last statistics does not settle the match. -/
theorem not_settles_unrecorded (resolveType : ResolveType)
    (opens : Opens env matchId winnerId loserId matchState world)
    (working : fails.upToPayout matchId winnerId loserId matchState = false)
    (failing : fails.inRecording matchId winnerId loserId matchState world = true) :
    ¬ Settled env matchId winnerId loserId matchState world.db
        (resolveAlone env fails matchId winnerId loserId resolveType world).db := by
  obtain ⟨reply, paid, payout⟩ := opens.payout
  have body := resolveBody_paid resolveType opens payout working
  obtain ⟨rows, users⟩ := release_frame payout
  rw [← inRecording_closed paid] at failing
  obtain ⟨err, world', runs, _, ledger, redis, now, unrecorded⟩ :=
    recordResult_fails resolveType reply opens.different
      (show (paid.matches_ matchId).map (·.winnerId) = some none by rw [rows]; exact opens.row)
      (show ∀ user ∈ [winnerId, loserId], (paid.users user).isSome by rw [users]; exact opens.users) failing
  have readable : Readable matchId matchState world' := by
    unfold Readable
    rw [redis, now]
    exact closed_readable world matchId matchState
  obtain ⟨alone, withRefund⟩ := not_settled_of_unrecorded payout ledger
    (fun recorded => unrecorded (recorded.of_users users.symm))
  rw [resolveAlone_throws (body.trans runs) readable]
  split_ifs
  · exact alone
  · exact withRefund

/-- A call that records the result settles the match, unless a later failure leads to a refund that
other escrow covers. -/
theorem settles_recorded (resolveType : ResolveType)
    (opens : Opens env matchId winnerId loserId matchState world)
    (working : fails.upToPayout matchId winnerId loserId matchState = false)
    (recording : fails.inRecording matchId winnerId loserId matchState world = false) :
    Settled env matchId winnerId loserId matchState world.db
        (resolveAlone env fails matchId winnerId loserId resolveType world).db ↔
      (fails.afterwards winnerId loserId = true → fails.inCatch matchId matchState = true ∨
        Faults.uncovered winnerId loserId matchState world) := by
  obtain ⟨reply, paid, payout⟩ := opens.payout
  have body := resolveBody_paid resolveType opens payout working
  obtain ⟨rows, users⟩ := release_frame payout
  have found : (paid.matches_ matchId).isSome := by
    rw [rows, ← Option.isSome_map (f := fun row : MatchRow => row.winnerId), opens.row]
    rfl
  rw [← inRecording_closed paid] at recording
  obtain ⟨result, world', runs, ends, wallets, ledger, state, now, recorded⟩ :=
    recordResult_records resolveType reply opens.different found recording
  obtain ⟨settled, withRefund⟩ := settled_of_recorded opens payout wallets ledger
    (recorded.of_users users)
  by_cases later : fails.afterwards winnerId loserId = true
  · rw [later] at runs ends
    have readable : Readable matchId matchState world' := by
      obtain ⟨stored, read, parts⟩ := closed_readable world matchId matchState
      refine ⟨stored, ?_, parts⟩
      unfold Store.read
      rw [state, now]
      exact read
    cases result with
    | ok value => cases ends
    | error err =>
      rw [resolveAlone_throws (body.trans runs) readable]
      by_cases catching : fails.inCatch matchId matchState = true
      · rw [if_pos catching]
        exact ⟨fun _ _ => .inl catching, fun _ => settled⟩
      · rw [if_neg catching, withRefund]
        exact ⟨fun uncovered _ => .inr uncovered, fun either => (either later).resolve_left catching⟩
  · rw [Bool.eq_false_iff.mpr later] at runs ends
    cases result with
    | error err => cases ends
    | ok value =>
      rw [resolveAlone_returns (body.trans runs)]
      exact ⟨fun _ now => absurd now later, fun _ => settled⟩

/-- **When a call of `resolveMatch` settles its match**: exactly when it survives its failures. -/
theorem resolveMatch_settles_iff (env : Env) (fails : Faults) (matchId : MatchId)
    (winnerId loserId : UserId) (resolveType : ResolveType) {matchState : MatchState} {world : World}
    (opens : Opens env matchId winnerId loserId matchState world) :
    Settled env matchId winnerId loserId matchState world.db
        (resolveAlone env fails matchId winnerId loserId resolveType world).db ↔
      fails.survived matchId winnerId loserId matchState world := by
  unfold Faults.survived
  by_cases failing : fails.upToPayout matchId winnerId loserId matchState = true
  · rw [if_pos failing]
    exact settles_unpaid resolveType opens failing
  rw [if_neg failing]
  have working := Bool.eq_false_iff.mpr failing
  by_cases recording : fails.inRecording matchId winnerId loserId matchState world = true
  · refine ⟨fun settled => ?_, fun none => absurd recording (Bool.eq_false_iff.mp none.1)⟩
    exact absurd settled (not_settles_unrecorded resolveType opens working recording)
  · have recorded := Bool.eq_false_iff.mpr recording
    rw [settles_recorded resolveType opens working recorded]
    exact ⟨fun later => ⟨recorded, later⟩, fun both => both.2⟩

/-! ### Paid and refunded -/

/-- The deletion of an active match fails. -/
def clearingFails : Faults := fun _ op => match op with
  | .del (.activeMatch _) => true
  | _ => false

/-- **One call pays the winner and refunds both players**: match 7 of two users who have been matched
twice is paid out, the Redis deletion after it fails, and the refund of the `catch` block is covered by
the escrow of match 8. -/
theorem paid_and_refunded :
    let world := resolveAlone sampleEnv clearingFails 7 1 2 .completed matchedTwice
    world.db.payouts 7 = 1 ∧ world.db.refundRows 7 = 2 ∧
      (world.db.wallets 1).map (·.balance) = some 108 ∧ (world.db.wallets 2).map (·.balance) = some 90 ∧
      (world.db.wallets 1).map (·.lockedBalance) = some 0 ∧
      (world.db.wallets 2).map (·.lockedBalance) = some 0 := by
  decide +kernel

end Settled

theorem matchedTwice_opens : Opens sampleEnv 7 1 2 (openState 7) matchedTwice where
  unresolved := by decide +kernel
  state := by decide +kernel
  players := .inl rfl
  different := by decide
  positive := by decide +kernel
  kept := by decide +kernel
  percent := by decide +kernel
  escrow := by
    intro user member
    have locked : (matchedTwice.db.wallets user).map (·.lockedBalance) = some 20 := by
      have isSide : user = 1 ∨ user = 2 := by simpa using member
      rcases isSide with rfl | rfl
      · decide +kernel
      · decide +kernel
    obtain ⟨W, found, same⟩ := Option.map_eq_some_iff.mp locked
    refine ⟨W, found, ?_⟩
    rw [same]
    exact ⟨by decide +kernel, by decide +kernel⟩
  users := by
    intro user member
    have isSide : user = 1 ∨ user = 2 := by simpa using member
    rcases isSide with rfl | rfl
    · decide +kernel
    · decide +kernel
  row := by decide +kernel

theorem resolveMatch_settles_undisturbed : Opens sampleEnv 7 1 2 (openState 7) matchedTwice ∧
    Settled sampleEnv 7 1 2 (openState 7) matchedTwice.db
      (resolveAlone sampleEnv (fun _ _ => false) 7 1 2 .completed matchedTwice).db := by
  refine ⟨matchedTwice_opens, ?_⟩
  refine (resolveMatch_settles_iff sampleEnv (fun _ _ => false) 7 1 2 .completed matchedTwice_opens).mpr ?_
  refine (if_neg (by decide +kernel)).mpr ⟨by decide +kernel, fun later => ?_⟩
  exact absurd later (by decide +kernel)

end SkillArena
