/-
**Sending a code, registering and logging in.**

The public routes of `routes/auth.js`. Every command sent to Redis, every statement sent to the pool and every call
of the password functions is one operation. The password functions are those the route imports from
`authService.js`, so a call of one that is not exported throws. `bcrypt` is taken to be correct; texts are
lower-cased and tokens signed by functions that are given. The tables are the columns the routes read and write:
those that `schema.sql` lacks are taken to be there. The welcome mail, whose errors are caught, is left out.
-/

import SkillArena.Async.Pool
import SkillArena.Model.Routes
import SkillArena.Store.Expiring

namespace SkillArena

open Async Expiring

/-! ### Tables -/

/-- What is written to a user's row after the registration. -/
structure UserStats where
  skillRating : ℤ := 1000
  matchesPlayed : ℕ := 0
  matchesWon : ℕ := 0
  hearts : Option ℤ := none
  isPremium : Bool := false
  deriving DecidableEq

/-- A row of `users`. -/
structure Account where
  id : UserId
  email : Text
  username : Text
  passwordHash : Text
  isVerified : Bool
  stats : UserStats
  deriving DecidableEq

/-- A row of `wallets`. -/
structure WalletRow where
  userId : UserId
  balance : ℚ
  lockedBalance : ℚ
  deriving DecidableEq

/-- **The two tables, with their keys.** -/
structure AuthTables where
  users : List Account := []
  wallets : List WalletRow := []
  uniqueId : (users.map Account.id).Nodup := by decide
  uniqueEmail : (users.map Account.email).Nodup := by decide
  uniqueUsername : (users.map Account.username).Nodup := by decide
  uniqueWallet : (wallets.map WalletRow.userId).Nodup := by decide
  references : ∀ wallet ∈ wallets, wallet.userId ∈ users.map Account.id := by decide

namespace AuthTables

/-- `INSERT INTO users`. -/
def insertUser (tables : AuthTables) (account : Account) : Except Err AuthTables :=
  if fresh : account.id ∉ tables.users.map Account.id ∧ account.email ∉ tables.users.map Account.email ∧
      account.username ∉ tables.users.map Account.username then
    .ok { users := tables.users ++ [account]
          wallets := tables.wallets
          uniqueId := by
            rw [List.map_append]
            exact List.nodup_append_comm.mp (List.nodup_cons.mpr ⟨fresh.1, tables.uniqueId⟩)
          uniqueEmail := by
            rw [List.map_append]
            exact List.nodup_append_comm.mp (List.nodup_cons.mpr ⟨fresh.2.1, tables.uniqueEmail⟩)
          uniqueUsername := by
            rw [List.map_append]
            exact List.nodup_append_comm.mp (List.nodup_cons.mpr ⟨fresh.2.2, tables.uniqueUsername⟩)
          uniqueWallet := tables.uniqueWallet
          references := fun wallet member => by
            rw [List.map_append]
            exact List.mem_append_left _ (tables.references wallet member) }
  else .error .duplicateKey

/-- `INSERT INTO wallets`. -/
def insertWallet (tables : AuthTables) (wallet : WalletRow) : Except Err AuthTables :=
  if fresh : wallet.userId ∉ tables.wallets.map WalletRow.userId then
    if known : wallet.userId ∈ tables.users.map Account.id then
      .ok { tables with
            wallets := tables.wallets ++ [wallet]
            uniqueWallet := by
              rw [List.map_append]
              exact List.nodup_append_comm.mp (List.nodup_cons.mpr ⟨fresh, tables.uniqueWallet⟩)
            references := fun row member => by
              rcases List.mem_append.mp member with old | new
              · exact tables.references row old
              · rw [List.mem_singleton.mp new]
                exact known }
    else .error .foreignKey
  else .error .duplicateKey

/-- What the other handlers write to a user's row. -/
def setStats (tables : AuthTables) (id : UserId) (stats : UserStats) : AuthTables :=
  have same : ∀ {β : Type} (column : Account → β), (∀ account, column { account with stats } = column account) →
      (tables.users.map fun account => if account.id = id then { account with stats } else account).map column =
        tables.users.map column := by
    intro β column kept
    rw [List.map_map]
    refine List.map_congr_left fun account _ => ?_
    show column (if account.id = id then _ else _) = _
    split
    · exact kept account
    · rfl
  { users := tables.users.map fun account => if account.id = id then { account with stats } else account
    wallets := tables.wallets
    uniqueId := by rw [same _ fun _ => rfl]; exact tables.uniqueId
    uniqueEmail := by rw [same _ fun _ => rfl]; exact tables.uniqueEmail
    uniqueUsername := by rw [same _ fun _ => rfl]; exact tables.uniqueUsername
    uniqueWallet := tables.uniqueWallet
    references := by rw [same _ fun _ => rfl]; exact tables.references }

/-- What the other handlers write to a user's wallet. -/
def setBalance (tables : AuthTables) (id : UserId) (balance lockedBalance : ℚ) : AuthTables :=
  have same : (tables.wallets.map fun wallet => if wallet.userId = id then { wallet with balance, lockedBalance }
      else wallet).map WalletRow.userId = tables.wallets.map WalletRow.userId := by
    rw [List.map_map]
    refine List.map_congr_left fun wallet _ => ?_
    show WalletRow.userId (if wallet.userId = id then _ else _) = _
    split <;> rfl
  { tables with
    wallets := tables.wallets.map fun wallet => if wallet.userId = id then { wallet with balance, lockedBalance }
      else wallet
    uniqueWallet := by rw [same]; exact tables.uniqueWallet
    references := fun wallet member => by
      obtain ⟨row, there, userId⟩ := List.mem_map.mp (same ▸ List.mem_map_of_mem member : wallet.userId ∈ _)
      exact userId ▸ tables.references row there }

end AuthTables

/-! ### Requests and answers -/

/-- `String(value)`. -/
def JsVal.toText : JsVal → Text
  | undefined => "undefined".toList
  | null => "null".toList
  | bool value => (toString value).toList
  | num value => (toString value).toList
  | str value => value
  | object => "[object Object]".toList

/-- `text.length`, in UTF-16 code units. -/
def utf16Length (text : Text) : ℕ := (text.map fun c => if c.toNat < 0x10000 then 1 else 2).sum

/-- `value.length < bound`; what is no text has no length, and `undefined` is not less than anything. -/
def JsVal.shorterThan (bound : ℕ) : JsVal → Bool
  | str value => utf16Length value < bound
  | _ => false

/-- `/^[a-zA-Z0-9_]+$/.test(text)`. -/
def usernameRegex (text : Text) : Bool := text ≠ [] && text.all fun c => c.isAlphanum || c = '_'

/-- `/^[^\s@]+@[^\s@]+\.[^\s@]+$/.test(text)`: the only `@` is not in front, and behind it is a dot that is neither
the first nor the last of the characters. -/
def emailRegex (text : Text) : Bool :=
  match text.span (· ≠ '@') with
  | (name, '@' :: host) =>
    name ≠ [] && name.all (!isJsSpace ·) && host.all (fun c => !isJsSpace c && c ≠ '@') && '.' ∈ host.tail.dropLast
  | _ => false

structure SendOtpRequest where
  email : JsVal
  username : JsVal
  deriving DecidableEq

structure RegisterRequest where
  email : JsVal
  username : JsVal
  password : JsVal
  otp : JsVal
  deriving DecidableEq

structure LoginRequest where
  email : JsVal
  password : JsVal
  deriving DecidableEq

/-- What is stored under `otp:<email>`. -/
structure OtpData where
  otp : Text
  username : JsVal
  deriving DecidableEq

/-- What a token is signed for. -/
structure TokenPayload where
  id : UserId
  username : Text
  email : Text
  deriving DecidableEq

/-- The `user` of an answer to a login. -/
structure LoginView where
  id : UserId
  email : Text
  username : Text
  skillRating : ℤ
  matchesPlayed : ℕ
  matchesWon : ℕ
  hearts : ℤ
  isPremium : Bool
  balance : Option ℚ
  deriving DecidableEq

/-- What the routes send; the `user` of a registration is the row without its hash. -/
inductive AuthReply
  | codeSent
  | registered (id : UserId) (email username : Text) (skillRating : ℤ) (matchesPlayed matchesWon : ℕ)
      (isVerified : Bool) (token : Text)
  | loggedIn (user : LoginView) (token : Text)
  deriving DecidableEq

/-! ### Operations -/

/-- **`bcrypt`**: a password matches its hash, whatever the salt. -/
structure Bcrypt where
  hash : Text → Text → Text
  compare : Text → Text → Bool
  compare_hash : ∀ salt password, compare password (hash salt password) = true
  hash_printable : ∀ salt password, '\x00' ∉ hash salt password

/-- `module.exports` of `authService.js`. -/
def authServiceExports : List String := ["register", "login", "getProfile"]

/-- What the routes are given. -/
structure AuthEnv where
  authService : List String := authServiceExports
  bcrypt : Bcrypt
  toLowerCase : Text → Text
  toLowerCase_nil : ∀ text, toLowerCase text = [] ↔ text = []
  generateToken : TokenPayload → Text

/-- **What the routes await.** -/
inductive AuthOp
  | selectExisting (email : Text) (username : JsVal)
  | getOtp (email : Text)
  | setOtp (email : Text) (data : OtpData) (seconds : ℕ)
  | delOtp (email : Text)
  | random
  | sendOTP (email : Text) (otp : Text) (username : JsVal)
  | hashPassword (password : JsVal)
  | insertUser (email : Text) (username : JsVal) (passwordHash : Text)
  | insertWallet (userId : UserId)
  | selectLogin (email : Text)
  | comparePassword (password : JsVal) (passwordHash : Text)
  | respond (response : Response AuthReply)
  deriving DecidableEq

@[reducible] def AuthOp.Reply : AuthOp → Type
  | selectExisting .. => ℕ
  | getOtp _ => Option OtpData
  | random => ℕ
  | sendOTP .. => Bool
  | hashPassword _ => Text
  | insertUser .. => Account
  | selectLogin _ => Option (Account × Option WalletRow)
  | comparePassword .. => Bool
  | _ => Unit

abbrev authSignature : Signature := ⟨AuthOp, fun op => Except Err op.Reply⟩

/-- `await` one of them. -/
def AuthOp.call (op : AuthOp) : Task authSignature Err op.Reply := ⟨.await (S := authSignature) op .done⟩

/-- A call of an imported function; one that is not exported is `undefined`. -/
def AuthEnv.imported (env : AuthEnv) (name : String) (op : AuthOp) : Task authSignature Err op.Reply :=
  if name ∈ env.authService then op.call else Task.throw .typeError

/-! ### The routes -/

/-- The `try` block of `POST /auth/send-otp`. -/
def sendOtpBody (env : AuthEnv) (request : SendOtpRequest) : Task authSignature Err (Response AuthReply) := do
  if !request.email.truthy || !request.username.truthy then return .error "Email and username required" 400
  else if !emailRegex request.email.toText then return .error "Invalid email format" 400
  else
    match request.email with
    | .str email =>
      let existing ← (AuthOp.selectExisting (env.toLowerCase email) request.username).call
      if 0 < existing then return .error "Email or username already taken" 409
      else
        let code ← AuthOp.random.call
        let otp := (toString (100000 + code)).toList
        (AuthOp.setOtp (env.toLowerCase email) ⟨otp, request.username⟩ 600).call
        let sent ← (AuthOp.sendOTP email otp request.username).call
        if sent then return .success .codeSent
        else return .error "Failed to send verification email. Check your email address." 500
    | _ => Task.throw .typeError

/-- The first check that a request fails. -/
def RegisterRequest.refusal (request : RegisterRequest) : Option String :=
  if !request.email.truthy || !request.username.truthy || !request.password.truthy || !request.otp.truthy then
    some "All fields including OTP are required"
  else if request.username.shorterThan 3 then some "Username must be at least 3 characters"
  else if !usernameRegex request.username.toText then some "Username: letters, numbers, underscore only"
  else if request.password.shorterThan 8 then some "Password must be at least 8 characters"
  else none

/-- `POST /auth/register` once the code is verified and deleted. -/
def createAccount (env : AuthEnv) (email : Text) (username password : JsVal) :
    Task authSignature Err (Response AuthReply) := do
  let existing ← (AuthOp.selectExisting email username).call
  if 0 < existing then return .error "Email or username already taken" 409
  else
    let hashedPassword ← env.imported "hashPassword" (.hashPassword password)
    let user ← (AuthOp.insertUser email username hashedPassword).call
    (AuthOp.insertWallet user.id).call
    return .success (.registered user.id user.email user.username user.stats.skillRating user.stats.matchesPlayed
      user.stats.matchesWon user.isVerified (env.generateToken ⟨user.id, user.username, user.email⟩))

/-- The `try` block of `POST /auth/register`. -/
def registerBody (env : AuthEnv) (request : RegisterRequest) : Task authSignature Err (Response AuthReply) :=
  match request.refusal with
  | some message => return .error message 400
  | none =>
    match request.email with
    | .str email => do
      match ← (AuthOp.getOtp (env.toLowerCase email)).call with
      | none => return .error "Verification code expired. Request a new one." 400
      | some otpData =>
        match request.otp with
        | .str otp =>
          if otpData.otp ≠ trim otp then return .error "Invalid verification code" 400
          else
            (AuthOp.delOtp (env.toLowerCase email)).call
            createAccount env (env.toLowerCase email) request.username request.password
        -- `otp.trim` and `email.toLowerCase` are there for texts only
        | _ => Task.throw .typeError
    | _ => Task.throw .typeError

/-- The `try` block of `POST /auth/login`. -/
def loginBody (env : AuthEnv) (request : LoginRequest) : Task authSignature Err (Response AuthReply) :=
  if !request.email.truthy || !request.password.truthy then return .error "Email and password required" 400
  else
    match request.email with
    | .str email => do
      match ← (AuthOp.selectLogin (env.toLowerCase email)).call with
      | none => return .error "Invalid email or password" 401
      | some (user, wallet) =>
        let valid ← env.imported "comparePassword" (.comparePassword request.password user.passwordHash)
        if !valid then return .error "Invalid email or password" 401
        else
          let view : LoginView :=
            ⟨user.id, user.email, user.username, user.stats.skillRating, user.stats.matchesPlayed,
              user.stats.matchesWon, user.stats.hearts.getD 3, user.stats.isPremium, wallet.map WalletRow.balance⟩
          return .success (.loggedIn view (env.generateToken ⟨user.id, user.username, user.email⟩))
    | _ => Task.throw .typeError

/-- `try { … } catch (err) { next(err); }`, and the answer. -/
def answering (body : Task authSignature Err (Response AuthReply)) : Task authSignature Err Unit := do
  let response ← Task.attempt body fun err => pure (.next err)
  (AuthOp.respond response).call

/-- **`POST /auth/send-otp`.** -/
def sendOtpRoute (env : AuthEnv) (request : SendOtpRequest) : Task authSignature Err Unit :=
  answering (sendOtpBody env request)

/-- **`POST /auth/register`.** -/
def registerRoute (env : AuthEnv) (request : RegisterRequest) : Task authSignature Err Unit :=
  answering (registerBody env request)

/-- **`POST /auth/login`.** -/
def loginRoute (env : AuthEnv) (request : LoginRequest) : Task authSignature Err Unit :=
  answering (loginBody env request)

/-! ### Requests of all clients -/

/-- The clock, the codes in Redis, the tables, and what was answered. -/
structure AuthState where
  now : ℕ := 0
  otps : Store fun _ : Text => OtpData := fun _ => none
  tables : AuthTables := {}
  responses : List (Response AuthReply) := []

/-- What is left open: whether the operation fails, a new identifier, a salt, a number, and whether a mail is sent.
-/
structure AuthChoice where
  fails : Bool
  id : UserId
  salt : Text
  number : Fin 900000
  sent : Bool

/-- The operation can be rejected for reasons of its own. -/
def AuthOp.fallible : AuthOp → Bool
  | random | sendOTP .. | respond _ => false
  | _ => true

/-- A text in a column `VARCHAR(n)`: spaces in excess are cut off, and nothing else may be in excess. -/
def varchar (n : ℕ) (text : Text) : Option Text :=
  if (text.drop n).all (· = ' ') then some (text.take n) else none

/-- Postgres takes no text with a NUL character. -/
def nulFree (text : Text) : Bool := '\x00' ∉ text

/-- The row of a new user. -/
def newAccount (id : UserId) (email username passwordHash : Text) : Account :=
  { id, email, username, passwordHash, isVerified := true, stats := {} }

/-- The effect of an operation. -/
def AuthOp.proceed (env : AuthEnv) (choice : AuthChoice) :
    (op : AuthOp) → AuthState → Except Err op.Reply × AuthState
  | selectExisting email username, state =>
    if nulFree email && username.toSql.all nulFree then
      (.ok (state.tables.users.filter fun user => user.email = email || some user.username = username.toSql).length,
        state)
    else (.error .invalidInput, state)
  | getOtp email, state => (.ok (state.otps.read state.now email), state)
  | setOtp email data seconds, state =>
    (.ok (), { state with otps := state.otps.write email data (state.now + seconds * 1000) })
  | delOtp email, state => (.ok (), { state with otps := state.otps.delete email })
  | random, state => (.ok choice.number, state)
  | sendOTP .., state => (.ok choice.sent, state)
  | hashPassword password, state =>
    match password with
    | .str password => (.ok (env.bcrypt.hash choice.salt password), state)
    | _ => (.error .typeError, state)
  | insertUser email username passwordHash, state =>
    match username.toSql with
    | none => (.error .notNull, state)
    | some username =>
      if nulFree email && nulFree username && nulFree passwordHash then
        match varchar 255 email, varchar 30 username with
        | some email, some username =>
          let account := newAccount choice.id email username passwordHash
          match state.tables.insertUser account with
          | .ok tables => (.ok account, { state with tables })
          | .error err => (.error err, state)
        | _, _ => (.error .invalidInput, state)
      else (.error .invalidInput, state)
  | insertWallet userId, state =>
    match state.tables.insertWallet ⟨userId, 0, 0⟩ with
    | .ok tables => (.ok (), { state with tables })
    | .error err => (.error err, state)
  | selectLogin email, state =>
    if nulFree email then
      (.ok ((state.tables.users.find? (·.email = email)).map fun user =>
        (user, state.tables.wallets.find? (·.userId = user.id))), state)
    else (.error .invalidInput, state)
  | comparePassword password passwordHash, state =>
    match password with
    | .str password => (.ok (env.bcrypt.compare password passwordHash), state)
    | _ => (.error .typeError, state)
  | respond response, state => (.ok (), { state with responses := state.responses ++ [response] })

/-- One operation; a failed one has no effect. -/
def AuthOp.perform (env : AuthEnv) (choice : AuthChoice) (op : AuthOp) (state : AuthState) :
    Option (Except Err op.Reply × AuthState) :=
  if choice.fails then
    if op.fallible then some (.error .unavailable, state) else none
  else some (op.proceed env choice state)

inductive AuthRequest
  | sendOtp (request : SendOtpRequest)
  | register (request : RegisterRequest)
  | login (request : LoginRequest)
  deriving DecidableEq

/-- What happens beside the requests: time passes, and the other handlers write to the two tables. -/
inductive AuthOutside
  | tick (ms : ℕ)
  | stats (id : UserId) (stats : UserStats)
  | balance (id : UserId) (balance lockedBalance : ℚ)

def AuthOutside.act : AuthOutside → AuthState → AuthState
  | tick ms, state => { state with now := state.now + ms }
  | stats id row, state => { state with tables := state.tables.setStats id row }
  | balance id funds locked, state => { state with tables := state.tables.setBalance id funds locked }

/-- **Registration and login**: requests arrive at any time and are served in turns. -/
def authServer (env : AuthEnv) : Machine authSignature AuthState AuthRequest AuthChoice AuthOutside where
  perform choice op state := AuthOp.perform env choice op state
  forks _ := []
  arrive _ state := some state
  program
    | .sendOtp request => (sendOtpRoute env request).run
    | .register request => (registerRoute env request).run
    | .login request => (loginRoute env request).run
  outside act state := some (act.act state)

end SkillArena
