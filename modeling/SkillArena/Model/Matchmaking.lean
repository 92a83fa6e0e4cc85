/-
**The queues and the creation of matches.**

`matchmakingHandler.js`: `queue:join`, `queue:leave` and `tryCreateMatch`, which the worker of `index.js`
also calls once a second for every fee.
-/

import SkillArena.Model.MatchHandler

namespace SkillArena

open Async

/-- A synchronous block on the in-memory queues. -/
def inMemory (op : MemoryOp) : Promise op.Reply := (Op.memory op).call

/-- The difficulty of the problems played for a fee. -/
def difficultyOf (fee : ℕ) : String :=
  if fee ≤ 25 then "easy" else if fee ≤ 100 then "medium" else "hard"

/-- The category filter of the problem query; `''` and `'all'` are no filter. -/
def categoryOf (category : String) : Option String :=
  if category = "" ∨ category = "all" then none else some category

/-- What `tryCreateMatch` does once the match is committed. -/
def announceMatch (env : Env) (fee : ℕ) (taken : Taken) (problem : Problem) (matchId : MatchId) :
    Promise Unit := do
  let timer ← startMatchTimer matchId
  let prizePool := (fee : ℚ) * 2 * (1 - env.platformFeePercent / 100)
  let platformFee := (fee : ℚ) * 2 * (env.platformFeePercent / 100)
  redisSet (.state matchId)
    { matchId, playerAId := taken.playerA.userId, playerBId := taken.playerB.userId, entryFee := fee,
      prizePool, platformFee, problemId := problem.id, status := .inProgress } 7200
  setActiveMatch taken.playerA.userId matchId
  setActiveMatch taken.playerB.userId matchId
  let playerA := (taken.playerA.userId, taken.playerA.username)
  let playerB := (taken.playerB.userId, taken.playerB.username)
  emit (.user taken.playerA.userId)
    (.matchReady matchId fee prizePool timer.1 timer.2 matchDurationMs problem.view playerA playerB)
  emit (.user taken.playerB.userId)
    (.matchReady matchId fee prizePool timer.1 timer.2 matchDurationMs problem.view playerB playerA)
  let now ← Op.dateNow.call
  (Op.fork (.timerExpiry matchId (now + ((timer.2 - timer.1) + 2000)))).call

/-- The `try … catch` around the creating transaction: whether the match was committed. -/
def commitMatch (fee : ℕ) (taken : Taken) (problem : Problem) (matchId : MatchId) : Promise Bool :=
  Task.attempt
    (do
      transact (.createMatch matchId taken.playerA.userId taken.playerB.userId problem.id fee)
      return true)
    fun _ => do
      inMemory (.putBack taken)
      return false

/-- What `tryCreateMatch` does with the two players it has taken. -/
def createFor (env : Env) (fee : ℕ) (taken : Taken) : Promise (Option MatchId) := do
  redisDel (.queue taken.playerA.userId)
  redisDel (.queue taken.playerB.userId)
  match ← poolQuery (.pickProblem (difficultyOf fee) (categoryOf taken.playerA.category)) with
  | none =>
    inMemory (.putBack taken)
    emit (.user taken.playerA.userId) (.queueError "No problems available. Try category \"All\".")
    emit (.user taken.playerB.userId) (.queueError "No problems available. Try category \"All\".")
    return none
  | some problem =>
    let matchId ← Op.uuid.call
    let committed ← commitMatch fee taken problem matchId
    if committed then
      announceMatch env fee taken problem matchId
      return some matchId
    else
      return none

/-- **`tryCreateMatch`.** -/
def tryCreateMatch (env : Env) (fee : ℕ) : Promise (Option MatchId) := do
  match ← inMemory (.takeTwo fee) with
  | none => return none
  | some taken => createFor env fee taken

/-- The inner `try … catch` of `queue:join`: whether the handler goes on. -/
def heartsCheck (userId : UserId) : Promise Bool :=
  Task.attempt
    (do
      match ← poolQuery (.selectHearts userId) with
      | none => return true
      | some userData =>
        if userData.isPremium then return true
        else
          let now ← Op.dateNow.call
          if (userData.heartsResetAt.map fun resetAt => decide (resetAt < now)).getD false then
            poolQuery (.restoreHearts userId)
            return true
          else if userData.hearts.getD 3 ≤ 0 then
            let hoursLeft := -(((now : ℤ) - (userData.heartsResetAt.getD 0 : ℕ)) / (1000 * 60 * 60))
            emit (.sender userId) (.queueError
              ("No hearts remaining. Play again in " ++ toString hoursLeft ++ " hour(s)."))
            return false
          else return true)
    fun _ => pure true

/-- **`queue:join`.** -/
def queueJoin (env : Env) (userId : UserId) (username : String) (fee : ℕ) (category : String) :
    Promise Unit :=
  Task.attempt
    (do
      if fee ∉ validFees then
        emit (.sender userId) (.queueError "Invalid entry fee")
      else
        inMemory (.dropStale fee userId)
        let goesOn ← heartsCheck userId
        if goesOn then
          let balance ← poolQuery (.selectBalance userId)
          if (balance.map fun balance : ℚ => decide (balance < fee)).getD true then
            emit (.sender userId) (.queueError "Insufficient balance")
          else
            inMemory (.push fee userId username category)
            redisSet (.queue userId) fee 120
            redisSet (.username userId) username 120
            redisSet (.category userId) category 120
            let position ← inMemory (.length fee)
            emit (.sender userId) (.queueJoined fee position)
            let _ ← tryCreateMatch env fee
            return ()
        else return ())
    fun _ => emit (.sender userId) (.queueError "Failed to join queue. Try again.")

/-- **`queue:leave`.** -/
def queueLeave (userId : UserId) : Promise Unit :=
  Task.attempt
    (do
      inMemory (.removeFromMemoryQueue userId)
      redisDel (.queue userId)
      redisDel (.username userId)
      redisDel (.category userId)
      emit (.sender userId) .queueLeft)
    fun _ => pure ()

/-- One turn of the worker for one fee. -/
def worker (env : Env) (fee : ℕ) : Promise Unit :=
  Task.attempt
    (do
      let _ ← tryCreateMatch env fee
      return ())
    fun _ => pure ()

end SkillArena
