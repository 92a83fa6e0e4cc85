/-
**A handler by itself.**

The handlers, run one at a time. `unfailing` is the world in which no command fails of itself, `mayFail` the one in
which any command may. Most operations leave no choice but that (`Op.determined`). A server that answers them as the
unfailing world does `Works`, whatever it makes of the judge and of chance; its rules take a program through one
operation after the other (`Works.get_bind`, …), and `Works.frame` says what a task leaves alone.
-/

import SkillArena.Async.Server
import SkillArena.Model.Connection
import SkillArena.Proof.Effects

namespace SkillArena

open Async Expiring

/-- What is chosen where nothing fails; a new identifier is one that no match has. -/
def Choice.works (choice : Choice) (world : World) : Prop :=
  choice ≠ .fail ∧ ∀ matchId, choice = .fresh matchId → world.db.matches_ matchId = none

/-- **The world in which nothing fails.** -/
def unfailing (env : Env) : Server signature World := (backend env).serving fun choice _ world => choice.works world

/-- **The world in which any command may fail.** -/
def mayFail (env : Env) : Server signature World := (backend env).serving fun _ _ _ => True

/-- The operation can be answered in one way only, unless it fails. -/
def Op.determined : Op → Bool
  | query (.pickProblem ..) | evaluateCode .. | executeCode .. | fetchOrder _ | uuid => false
  | _ => true

/-- What `getMatchTimer` returns. -/
def World.timer (world : World) (matchId : MatchId) : Option Timer :=
  match world.redis.read world.now (.startTs matchId), world.redis.read world.now (.endTs matchId) with
  | some startTs, some endTs => some ⟨startTs, endTs, endTs - world.now, endTs - world.now = 0⟩
  | _, _ => none

def World.sends (world : World) (room : Room) (event : Event) : World :=
  { world with sent := world.sent ++ [(room, event)] }

section Fields

variable (world : World) (room : Room) (event : Event)

@[simp] theorem sends_redis : (world.sends room event).redis = world.redis := rfl

@[simp] theorem sends_db : (world.sends room event).db = world.db := rfl

@[simp] theorem sends_now : (world.sends room event).now = world.now := rfl

end Fields

/-- The operation is answered at once. -/
def Op.prompt : Op → Bool
  | sleepUntil _ => false
  | op => op.determined

section Rules

variable {env : Env} {world world' : World} {op : Op} {reply : Except Err op.Reply} {α : Type}

theorem proceed_determined (determined : op.determined = true) (choice : Choice) :
    op.proceed env choice world = op.proceed env .proceed world := by
  cases op
  case query sql =>
    cases sql
    case pickProblem => cases determined
    all_goals rfl
  case evaluateCode => cases determined
  case executeCode => cases determined
  case fetchOrder => cases determined
  case uuid => cases determined
  all_goals rfl

theorem determined_of_prompt (prompt : op.prompt = true) : op.determined = true := by
  cases op
  case sleepUntil => rfl
  all_goals exact prompt

theorem proceed_of_prompt (prompt : op.prompt = true) (world : World) :
    ∃ reply world', op.proceed env .proceed world = some (reply, world') := by
  cases op
  case sleepUntil => cases prompt
  case evaluateCode => cases prompt
  case executeCode => cases prompt
  case fetchOrder => cases prompt
  case uuid => cases prompt
  case setNx key value seconds =>
    by_cases present : (world.redis.read world.now key).isSome = true
    · exact ⟨_, _, if_pos present⟩
    · exact ⟨_, _, if_neg present⟩
  case query sql =>
    simp only [Op.proceed]
    split
    · exact ⟨_, _, rfl⟩
    · exact ⟨_, _, rfl⟩
  all_goals exact ⟨_, _, rfl⟩

theorem works_proceed (world : World) : Choice.works .proceed world := ⟨nofun, nofun⟩

/-- **A server of a world in which nothing fails**: a determined operation gets the one answer there is. -/
structure Works (env : Env) (server : Server signature World) : Prop where
  answers : ∀ {op : Op} {world world' : World} {reply : Except Err op.Reply}, op.determined = true →
    op.proceed env .proceed world = some (reply, world') → ∀ {reply' : Except Err op.Reply} {world'' : World},
      server op world reply' world'' ↔ reply' = reply ∧ world'' = world'

theorem unfailing_works (env : Env) : Works env (unfailing env) where
  answers {op world world' reply} determined proceeds {reply' world''} := by
    constructor
    · rintro ⟨choice, works, performed⟩
      have same : op.proceed env choice world = some (reply', world'') := by
        rwa [show (backend env).perform choice op world = op.proceed env choice world from if_neg works.1]
          at performed
      rw [proceed_determined determined, proceeds] at same
      cases same
      exact ⟨rfl, rfl⟩
    · rintro ⟨rfl, rfl⟩
      exact ⟨.proceed, works_proceed world, proceeds⟩

theorem unfailing_evaluate {matchId : MatchId} {user : UserId} {language code : JsVal} {problemId : ProblemId}
    {post : Except Err EvalResult → World → Prop} (each : ∀ result, post (.ok result) world) :
    (Op.evaluateCode matchId user language code problemId).call.Ensures (unfailing env) world post := by
  refine ⟨⟨.ok ⟨.nan, 0, 0, .judgeError, none, none⟩, world, .verdict _, ⟨nofun, nofun⟩, rfl⟩, ?_⟩
  rintro reply world' ⟨choice, works, performed⟩
  cases choice
  case verdict result =>
    cases performed
    exact each result
  case fail => exact absurd rfl works.1
  all_goals cases performed

theorem unfailing_pick {difficulty : String} {category : Option String}
    {post : Except Err (Option Problem) → World → Prop}
    (nonempty : world.db.candidates difficulty category ≠ [])
    (each : ∀ problem ∈ world.db.candidates difficulty category, post (.ok (some problem)) world) :
    (poolQuery (.pickProblem difficulty category)).Ensures (unfailing env) world post := by
  have drawn : ∀ index, ∃ problem ∈ world.db.candidates difficulty category,
      (Query.pickProblem difficulty category).exec index world.db = .ok (some problem, world.db) := by
    intro index
    have inside := Nat.mod_lt index (List.length_pos_iff.mpr nonempty)
    exact ⟨_, List.getElem_mem inside, by simp only [Query.exec, List.getElem?_eq_getElem inside]⟩
  have proceeds : ∀ choice, ∃ problem ∈ world.db.candidates difficulty category,
      (Op.query (.pickProblem difficulty category)).proceed env choice world =
        some (.ok (some problem), world) := by
    intro choice
    cases choice
    case pick index =>
      obtain ⟨problem, member, ran⟩ := drawn index
      exact ⟨problem, member, by simp only [Op.proceed, ran]; rfl⟩
    all_goals
      obtain ⟨problem, member, ran⟩ := drawn 0
      exact ⟨problem, member, by simp only [Op.proceed, ran]; rfl⟩
  obtain ⟨problem, -, first⟩ := proceeds .proceed
  refine ⟨⟨_, _, .proceed, works_proceed world, first⟩, ?_⟩
  rintro reply world' ⟨choice, works, performed⟩
  obtain ⟨problem, member, ran⟩ := proceeds choice
  rw [show (backend env).perform choice _ world = _ from if_neg works.1, ran] at performed
  cases performed
  exact each problem member

theorem unfailing_uuid {post : Except Err MatchId → World → Prop} (unused : ∃ id, world.db.matches_ id = none)
    (each : ∀ id, world.db.matches_ id = none → post (.ok id) world) :
    Op.uuid.call.Ensures (unfailing env) world post := by
  obtain ⟨id, free⟩ := unused
  have works : Choice.works (.fresh id) world := ⟨nofun, fun _ same => by cases same; exact free⟩
  refine ⟨⟨.ok id, world, .fresh id, works, rfl⟩, ?_⟩
  rintro reply world' ⟨choice, works, performed⟩
  cases choice
  case fresh id =>
    cases performed
    exact each id (works.2 id rfl)
  case fail => exact absurd rfl works.1
  all_goals cases performed

/-- Where a command may fail, a determined operation has at most one answer more. -/
theorem mayFail_call (determined : op.determined = true)
    (proceeds : op.proceed env .proceed world = some (reply, world')) {post : Except Err op.Reply → World → Prop}
    (works : post reply world') (fails : op.fallible = true → post (.error .unavailable) world) :
    op.call.Ensures (mayFail env) world post := by
  refine ⟨⟨reply, world', .proceed, trivial, proceeds⟩, ?_⟩
  rintro reply' world'' ⟨choice, -, performed⟩
  have performed : op.perform env choice world = some (reply', world'') := performed
  unfold Op.perform at performed
  by_cases failed : choice = .fail
  · rw [if_pos failed] at performed
    split at performed
    · rename_i fallible
      cases performed
      exact fails fallible
    · cases performed
  · rw [if_neg failed, proceed_determined determined, proceeds] at performed
    cases performed
    exact works

theorem mayFail_bind {value : op.Reply} {rest : op.Reply → Promise α} (determined : op.determined = true)
    (proceeds : op.proceed env .proceed world = some (.ok value, world')) {post : Except Err α → World → Prop}
    (works : (rest value).Ensures (mayFail env) world' post)
    (fails : op.fallible = true → post (.error .unavailable) world) :
    (op.call >>= rest).Ensures (mayFail env) world post :=
  (Task.ensures_bind _ _ _ _).mpr (mayFail_call determined proceeds works fails)

theorem mayFail_emit {room : Room} {event : Event} {post : Except Err Unit → World → Prop}
    (told : post (.ok ()) (world.sends room event)) : (emit room event).Ensures (mayFail env) world post :=
  mayFail_call rfl rfl told nofun

theorem mayFail_setNx {key : Key} {value : key.Val} {seconds : ℕ} {rest : Bool → Promise α}
    {post : Except Err α → World → Prop} (taken : (rest false).Ensures (mayFail env) world post)
    (free : (rest true).Ensures (mayFail env)
      (world.withRedis (world.redis.write key value (world.expiry seconds))) post)
    (fails : post (.error .unavailable) world) :
    ((Op.setNx key value seconds).call >>= rest).Ensures (mayFail env) world post := by
  by_cases present : (world.redis.read world.now key).isSome = true
  · have proceeds : (Op.setNx key value seconds).proceed env .proceed world = some (.ok false, world) :=
      if_pos present
    exact mayFail_bind rfl proceeds taken fun _ => fails
  · have proceeds : (Op.setNx key value seconds).proceed env .proceed world = some (.ok true,
        world.withRedis (world.redis.write key value (world.expiry seconds))) := if_neg present
    exact mayFail_bind rfl proceeds free fun _ => fails

theorem mayFail_timer {matchId : MatchId} {post : Except Err (Option Timer) → World → Prop}
    (reads : ∀ timer, post (.ok timer) world) (fails : post (.error .unavailable) world) :
    (getMatchTimer matchId).Ensures (mayFail env) world post := by
  refine mayFail_bind rfl rfl (mayFail_bind rfl rfl ?_ fun _ => fails) fun _ => fails
  split
  · exact mayFail_bind rfl rfl (reads _) nofun
  · exact reads none

end Rules

/-! ### The operations, where nothing fails -/

namespace Works

variable {env : Env} {server : Server signature World} (works : Works env server) {world : World} {α : Type}
  {post : Except Err α → World → Prop}

include works

theorem call {op : Op} {world' : World} {reply : Except Err op.Reply} {post : Except Err op.Reply → World → Prop}
    (determined : op.determined = true) (proceeds : op.proceed env .proceed world = some (reply, world')) :
    op.call.Ensures server world post ↔ post reply world' := by
  constructor
  · intro ensures
    exact ensures.2 reply world' ((works.answers determined proceeds).mpr ⟨rfl, rfl⟩)
  · intro holds
    refine ⟨⟨reply, world', (works.answers determined proceeds).mpr ⟨rfl, rfl⟩⟩, fun reply' world'' answers => ?_⟩
    obtain ⟨rfl, rfl⟩ := (works.answers determined proceeds).mp answers
    exact holds

/-- **One operation, and what follows it.** -/
theorem call_bind {op : Op} {world' : World} {value : op.Reply} {rest : op.Reply → Promise α}
    (determined : op.determined = true) (proceeds : op.proceed env .proceed world = some (.ok value, world')) :
    (op.call >>= rest).Ensures server world post ↔ (rest value).Ensures server world' post :=
  (Task.ensures_bind _ _ _ _).trans (works.call determined proceeds)

/-- **The frame rule**: what every operation of a task leaves alone, the task does. -/
theorem frame {P : Op → Prop} {R : World → World → Prop} (refl : ∀ world, R world world)
    (trans : ∀ {a b c}, R a b → R b c → R a c) (prompt : ∀ op, P op → op.prompt = true)
    (step : ∀ {op world reply world'}, P op → op.perform env .proceed world = some (reply, world') → R world world')
    {task : Promise α} (asks : task.Asks P) (world : World) :
    task.Ensures server world fun _ world' => R world world' := by
  refine asks.ensures refl trans (fun op world asked => ?_) world
  obtain ⟨reply, world', proceeds⟩ := @proceed_of_prompt env op (prompt op asked) world
  have answers := @works.answers op world world' reply (determined_of_prompt (prompt op asked)) proceeds
  refine ⟨⟨reply, world', answers.mpr ⟨rfl, rfl⟩⟩, fun reply' world'' answer => ?_⟩
  obtain ⟨rfl, rfl⟩ := answers.mp answer
  exact step asked proceeds

theorem get_bind {key : Key} {rest : Option key.Val → Promise α} :
    (redisGet key >>= rest).Ensures server world post ↔
      (rest (world.redis.read world.now key)).Ensures server world post :=
  works.call_bind rfl rfl

theorem set_bind {key : Key} {value : key.Val} {seconds : ℕ} {rest : Unit → Promise α} :
    (redisSet key value seconds >>= rest).Ensures server world post ↔ (rest ()).Ensures server
      (world.withRedis (world.redis.write key value (world.expiry seconds))) post :=
  works.call_bind rfl rfl

theorem del_bind {key : Key} {rest : Unit → Promise α} :
    (redisDel key >>= rest).Ensures server world post ↔
      (rest ()).Ensures server (world.withRedis (world.redis.delete key)) post :=
  works.call_bind rfl rfl

theorem memory_bind {op : MemoryOp} {rest : op.Reply → Promise α} :
    (inMemory op >>= rest).Ensures server world post ↔ (rest (op.exec world.memory).1).Ensures server
      { world with memory := (op.exec world.memory).2 } post :=
  works.call_bind rfl rfl

theorem emit_bind {room : Room} {event : Event} {rest : Unit → Promise α} :
    (emit room event >>= rest).Ensures server world post ↔
      (rest ()).Ensures server (world.sends room event) post :=
  works.call_bind rfl rfl

theorem emit_call {room : Room} {event : Event} {post : Except Err Unit → World → Prop} :
    (emit room event).Ensures server world post ↔ post (.ok ()) (world.sends room event) :=
  works.call rfl rfl

theorem dateNow_bind {rest : ℕ → Promise α} :
    (Op.dateNow.call >>= rest).Ensures server world post ↔ (rest world.now).Ensures server world post :=
  works.call_bind rfl rfl

theorem setNx_free {key : Key} {value : key.Val} {seconds : ℕ} {rest : Bool → Promise α}
    (absent : world.redis.read world.now key = none) :
    ((Op.setNx key value seconds).call >>= rest).Ensures server world post ↔ (rest true).Ensures server
      (world.withRedis (world.redis.write key value (world.expiry seconds))) post :=
  works.call_bind rfl (if_neg (by simp [absent]))

theorem setNx_taken {key : Key} {value : key.Val} {seconds : ℕ} {rest : Bool → Promise α}
    (present : (world.redis.read world.now key).isSome = true) :
    ((Op.setNx key value seconds).call >>= rest).Ensures server world post ↔
      (rest false).Ensures server world post :=
  works.call_bind rfl (if_pos present)

theorem query_bind {sql : Query} {rest : sql.Reply → Promise α} {value : sql.Reply} {db : Db}
    (determined : (Op.query sql).determined = true) (ran : sql.exec 0 world.db = .ok (value, db)) :
    (poolQuery sql >>= rest).Ensures server world post ↔ (rest value).Ensures server (world.withDb db) post :=
  works.call_bind determined (by simp only [Op.proceed, ran])

theorem getMatchTimer_bind {matchId : MatchId} {rest : Option Timer → Promise α} :
    (getMatchTimer matchId >>= rest).Ensures server world post ↔
      (rest (world.timer matchId)).Ensures server world post := by
  refine (Task.ensures_bind _ _ _ _).trans (works.get_bind.trans (works.get_bind.trans ?_))
  unfold World.timer
  cases world.redis.read world.now (.startTs matchId) with
  | none => exact Iff.rfl
  | some startTs =>
    cases world.redis.read world.now (.endTs matchId) with
    | none => exact Iff.rfl
    | some endTs => exact works.dateNow_bind

theorem readScore_bind {matchId : MatchId} {user : UserId} {default : ℤ} {rest : JsNum → Promise α} :
    (readScore matchId user default >>= rest).Ensures server world post ↔
      (rest (numberOr default (world.redis.read world.now (.score matchId user)))).Ensures server world post :=
  (Task.ensures_bind _ _ _ _).trans works.get_bind

theorem readTime_bind {matchId : MatchId} {user : UserId} {default : ℤ} {rest : JsNum → Promise α} :
    (readTime matchId user default >>= rest).Ensures server world post ↔
      (rest (numberOr default (world.redis.read world.now (.time matchId user)))).Ensures server world post :=
  (Task.ensures_bind _ _ _ _).trans works.get_bind

end Works

end SkillArena
