/-
**What a registration leaves behind.**

`POST /auth/register` spends the code first, then checks, hashes and inserts. A request is followed by itself, with
any of its calls failing (`faulting`) or none (`smooth`).

* `register_error_iff` — after an error the state is as before exactly if the code was not deleted.
* `round_trip_iff` — a registration is followed by logins for the same user exactly if the two password functions
  are exported, the password is a text, and the columns take the username and the email (`Registrable`).
* `exports_lack_hash`, `error_changes_state` — with the exports of `authService.js` a request registers nobody and
  spends its code; a user is left without a wallet where the last statement fails.
-/

import Mathlib.Data.Fintype.EquivFin
import SkillArena.Async.Server
import SkillArena.Model.Auth

namespace SkillArena

open Async Task Expiring

/-! ### The routes by themselves -/

/-- **The routes where some calls fail**: those that are named, and no others; a new identifier is one that no user
has. -/
def faulting (env : AuthEnv) (faulty : AuthOp → Bool) : Server authSignature AuthState :=
  (authServer env).serving fun choice op state =>
    choice.fails = (faulty op && op.fallible) ∧ choice.id ∉ state.tables.users.map Account.id

/-- The routes where nothing fails. -/
abbrev smooth (env : AuthEnv) : Server authSignature AuthState := faulting env fun _ => false

section Rules

variable {env : AuthEnv} {faulty : AuthOp → Bool} {state : AuthState} {α : Type}

theorem exists_choice (state : AuthState) (fails : Bool) :
    ∃ choice : AuthChoice, choice.fails = fails ∧ choice.id ∉ state.tables.users.map Account.id := by
  obtain ⟨id, unused⟩ := Infinite.exists_notMem_finset (state.tables.users.map Account.id).toFinset
  exact ⟨⟨fails, id, [], 0, true⟩, rfl, by simpa using unused⟩

/-- **One operation**: it fails, or it has its effect. -/
theorem faulting_call {op : AuthOp} {post : Except Err op.Reply → AuthState → Prop}
    (fails : (faulty op && op.fallible) = true → post (.error .unavailable) state)
    (works : (faulty op && op.fallible) = false → ∀ choice, choice.id ∉ state.tables.users.map Account.id →
      post (op.proceed env choice state).1 (op.proceed env choice state).2) :
    op.call.Ensures (faulting env faulty) state post := by
  have performs : ∀ choice : AuthChoice, choice.fails = (faulty op && op.fallible) →
      choice.id ∉ state.tables.users.map Account.id →
        ∃ reply state', AuthOp.perform env choice op state = some (reply, state') ∧ post reply state' := by
    intro choice same unused
    unfold AuthOp.perform
    cases broken : faulty op && op.fallible with
    | true =>
      rw [broken] at same
      rw [if_pos same, if_pos (Bool.and_eq_true_iff.mp broken).2]
      exact ⟨_, _, rfl, fails broken⟩
    | false =>
      rw [broken] at same
      rw [if_neg (by rw [same]; exact Bool.false_ne_true)]
      exact ⟨_, _, rfl, works broken choice unused⟩
  constructor
  · obtain ⟨choice, same, unused⟩ := exists_choice state (faulty op && op.fallible)
    obtain ⟨reply, state', performed, -⟩ := performs choice same unused
    exact ⟨reply, state', choice, ⟨same, unused⟩, performed⟩
  · rintro reply state' ⟨choice, ⟨same, unused⟩, performed⟩
    obtain ⟨_, _, performed', holds⟩ := performs choice same unused
    cases performed'.symm.trans performed
    exact holds

/-- One operation that leaves no choice, and what follows it. -/
theorem faulting_bind {op : AuthOp} {rest : op.Reply → Task authSignature Err α} {value : op.Reply}
    {state' : AuthState} {post : Except Err α → AuthState → Prop}
    (replies : ∀ choice, op.proceed env choice state = (.ok value, state'))
    (fails : (faulty op && op.fallible) = true → post (.error .unavailable) state)
    (works : (faulty op && op.fallible) = false → (rest value).Ensures (faulting env faulty) state' post) :
    (op.call >>= rest).Ensures (faulting env faulty) state post := by
  refine (ensures_bind _ _ _ _).mpr (faulting_call fails fun healthy choice _ => ?_)
  rw [replies choice]
  exact works healthy

theorem answering_ensures {body : Task authSignature Err (Response AuthReply)}
    {post : Except Err Unit → AuthState → Prop}
    (ends : body.Ensures (faulting env faulty) state fun result state' =>
      post (.ok ()) { state' with responses := state'.responses ++ [Response.catching result] }) :
    (answering body).Ensures (faulting env faulty) state post := by
  have answered : ∀ (response : Response AuthReply) (state' : AuthState),
      post (.ok ()) { state' with responses := state'.responses ++ [response] } →
        (AuthOp.respond response).call.Ensures (faulting env faulty) state' post := by
    intro response state' holds
    exact faulting_call (fun broken => by simp [AuthOp.fallible] at broken) fun _ _ _ => holds
  refine (ensures_bind _ _ _ _).mpr ((ensures_attempt _ _ _ _).mpr (ends.mono ?_))
  rintro (err | response) state' holds
  · exact answered _ _ holds
  · exact answered _ _ holds

end Rules

/-! ### One operation -/

section Effects

variable {tables tables' : AuthTables} {account : Account}

theorem insertUser_fresh (id : account.id ∉ tables.users.map Account.id)
    (email : account.email ∉ tables.users.map Account.email)
    (username : account.username ∉ tables.users.map Account.username) :
    ∃ tables', tables.insertUser account = .ok tables' :=
  ⟨_, dif_pos ⟨id, email, username⟩⟩

theorem insertUser_ok (inserted : tables.insertUser account = .ok tables') :
    tables'.users = tables.users ++ [account] ∧ tables'.wallets = tables.wallets := by
  unfold AuthTables.insertUser at inserted
  split at inserted
  · cases inserted
    exact ⟨rfl, rfl⟩
  · cases inserted

theorem insertWallet_fresh {wallet : WalletRow} (fresh : wallet.userId ∉ tables.wallets.map WalletRow.userId)
    (known : wallet.userId ∈ tables.users.map Account.id) : ∃ tables', tables.insertWallet wallet = .ok tables' ∧
      tables'.users = tables.users ∧ tables'.wallets = tables.wallets ++ [wallet] :=
  ⟨_, (dif_pos fresh).trans (dif_pos known), rfl, rfl⟩

theorem insertWallet_ok {wallet : WalletRow} (inserted : tables.insertWallet wallet = .ok tables') :
    tables'.users = tables.users := by
  unfold AuthTables.insertWallet at inserted
  split at inserted
  · split at inserted
    · cases inserted
      rfl
    · cases inserted
  · cases inserted

def AuthOp.creates : AuthOp → Bool
  | selectExisting .. | hashPassword _ | insertUser .. | insertWallet _ => true
  | _ => false

/-- **What one operation can do**: those of `createAccount` add users, and the others keep the tables. -/
theorem proceed_cases (env : AuthEnv) (choice : AuthChoice) (op : AuthOp) (state : AuthState) :
    (∃ tables, (op.proceed env choice state).2 = { state with tables } ∧ state.tables.users <+: tables.users) ∨
      (op.creates = false ∧ (op.proceed env choice state).2.tables = state.tables) := by
  have stays : ∃ tables, state = { state with tables } ∧ state.tables.users <+: tables.users :=
    ⟨state.tables, rfl, List.prefix_refl _⟩
  cases op
  case insertUser email username passwordHash =>
    refine .inl ?_
    simp only [AuthOp.proceed]
    split
    · exact stays
    · split
      · split
        · split
          · rename_i inserted
            exact ⟨_, rfl, (insertUser_ok inserted).1 ▸ List.prefix_append _ _⟩
          · exact stays
        · exact stays
      · exact stays
  case insertWallet =>
    refine .inl ?_
    simp only [AuthOp.proceed]
    split
    · rename_i inserted
      exact ⟨_, rfl, insertWallet_ok inserted ▸ List.prefix_refl _⟩
    · exact stays
  case selectExisting =>
    refine .inl ?_
    simp only [AuthOp.proceed]
    split <;> exact stays
  case hashPassword =>
    refine .inl ?_
    simp only [AuthOp.proceed]
    split <;> exact stays
  case selectLogin =>
    refine .inr ⟨rfl, ?_⟩
    simp only [AuthOp.proceed]
    split <;> rfl
  case comparePassword =>
    refine .inr ⟨rfl, ?_⟩
    simp only [AuthOp.proceed]
    split <;> rfl
  all_goals exact .inr ⟨rfl, rfl⟩

end Effects

/-! ### What an error leaves -/

section Errors

variable {env : AuthEnv} {faulty : AuthOp → Bool} {state : AuthState} {request : RegisterRequest}

/-- **The request redeems a code**: it passes the checks, and its code is the one stored for its email. -/
structure Redeems (env : AuthEnv) (request : RegisterRequest) (state : AuthState) (email otp : Text)
    (data : OtpData) : Prop where
  email_eq : request.email = .str email
  otp_eq : request.otp = .str otp
  accepted : request.refusal = none
  stored : state.otps.read state.now (env.toLowerCase email) = some data
  verified : data.otp = trim otp

/-- **The code is not deleted**: the request redeems none, or the call that reads or deletes it fails. -/
def CodeKept (env : AuthEnv) (faulty : AuthOp → Bool) (request : RegisterRequest) (state : AuthState) : Prop :=
  ∀ email otp data, Redeems env request state email otp data →
    faulty (.getOtp (env.toLowerCase email)) = true ∨ faulty (.delOtp (env.toLowerCase email)) = true

theorem auth_asks_call {P : AuthOp → Prop} {op : AuthOp} (asked : P op) : op.call.Asks P :=
  ⟨asked, fun _ => trivial⟩

theorem createAccount_creates (env : AuthEnv) (email : Text) (username password : JsVal) :
    (createAccount env email username password).Asks fun op : AuthOp => op.creates = true := by
  refine asks_bind (auth_asks_call rfl) fun existing => ?_
  split
  · exact asks_pure _
  · refine asks_bind ?_ fun _ => asks_bind (auth_asks_call rfl) fun _ => asks_bind (auth_asks_call rfl) fun _ =>
      asks_pure _
    unfold AuthEnv.imported
    split
    · exact auth_asks_call rfl
    · exact asks_throw _

/-- The same clock, the same codes and the same answers. -/
def SameCodes (state state' : AuthState) : Prop :=
  state'.now = state.now ∧ state'.otps = state.otps ∧ state'.responses = state.responses

theorem proceed_sameCodes {op : AuthOp} (creates : op.creates = true) (choice : AuthChoice) (state : AuthState) :
    SameCodes state (op.proceed env choice state).2 := by
  rcases proceed_cases env choice op state with ⟨tables, after, -⟩ | ⟨other, -⟩
  · rw [after]
    exact ⟨rfl, rfl, rfl⟩
  · cases creates.symm.trans other

theorem createAccount_sameCodes (env : AuthEnv) (faulty : AuthOp → Bool) (email : Text) (username password : JsVal)
    (state : AuthState) : (createAccount env email username password).Ensures (faulting env faulty) state
      fun _ state' => SameCodes state state' := by
  refine Asks.ensures (R := SameCodes) (fun _ => ⟨rfl, rfl, rfl⟩)
    (fun first second => ⟨second.1.trans first.1, second.2.1.trans first.2.1, second.2.2.trans first.2.2⟩)
    (fun op state creates => ?_) (createAccount_creates env email username password) state
  have step : op.call.Ensures (faulting env faulty) state fun _ state' => SameCodes state state' :=
    faulting_call (fun _ => ⟨rfl, rfl, rfl⟩) fun _ choice _ => proceed_sameCodes creates choice state
  exact step

theorem getOtp_replies {key : Text} {data : Option OtpData} (stored : state.otps.read state.now key = data)
    (choice : AuthChoice) : (AuthOp.getOtp key).proceed env choice state = (.ok data, state) := by
  rw [← stored]
  rfl

/-- **Where a registration ends**: nothing is changed, and nobody registered; or the code is spent. -/
theorem registerBody_ends (env : AuthEnv) (faulty : AuthOp → Bool) (request : RegisterRequest) (state : AuthState) :
    (registerBody env request).Ensures (faulting env faulty) state fun _ state' =>
      (CodeKept env faulty request state ∧ state' = state) ∨
      ∃ email otp data, Redeems env request state email otp data ∧
        faulty (.getOtp (env.toLowerCase email)) = false ∧ faulty (.delOtp (env.toLowerCase email)) = false ∧
        SameCodes { state with otps := state.otps.delete (env.toLowerCase email) } state' := by
  unfold registerBody
  cases accepted : request.refusal with
  | some message => exact .inl ⟨fun _ _ _ redeems => (nomatch accepted.symm.trans redeems.accepted), rfl⟩
  | none =>
    cases isEmail : request.email with
    | str email =>
      have email_eq : ∀ {email' otp data}, Redeems env request state email' otp data → email' = email :=
        fun redeems => by cases isEmail.symm.trans redeems.email_eq; rfl
      cases stored : state.otps.read state.now (env.toLowerCase email) with
      | none =>
        have kept : CodeKept env faulty request state := fun email' _ _ redeems => by
          cases email_eq redeems
          cases stored.symm.trans redeems.stored
        refine faulting_bind (getOtp_replies stored) (fun _ => .inl ⟨kept, rfl⟩) fun _ => ?_
        exact .inl ⟨kept, rfl⟩
      | some data =>
        refine faulting_bind (getOtp_replies stored) (fun broken => .inl ⟨?_, rfl⟩) fun healthy => ?_
        · intro email' _ _ redeems
          cases email_eq redeems
          exact .inl (Bool.and_eq_true_iff.mp broken).1
        · have reads : faulty (.getOtp (env.toLowerCase email)) = false := by simpa [AuthOp.fallible] using healthy
          cases isOtp : request.otp with
          | str otp =>
            by_cases verified : data.otp = trim otp
            · have redeems : Redeems env request state email otp data :=
                ⟨isEmail, isOtp, accepted, stored, verified⟩
              simp only [ne_eq, verified, not_true_eq_false, if_false]
              refine faulting_bind (fun _ => rfl) (fun broken => .inl ⟨?_, rfl⟩) fun healthy => ?_
              · intro email' _ _ redeems
                cases email_eq redeems
                exact .inr (Bool.and_eq_true_iff.mp broken).1
              · have deletes : faulty (.delOtp (env.toLowerCase email)) = false := by
                  simpa [AuthOp.fallible] using healthy
                exact (createAccount_sameCodes env faulty _ _ _ _).mono fun _ _ same =>
                  .inr ⟨email, otp, data, redeems, reads, deletes, same⟩
            · simp only [ne_eq, verified, not_false_eq_true, if_true]
              refine .inl ⟨fun email' _ _ redeems => ?_, rfl⟩
              cases email_eq redeems
              cases isOtp.symm.trans redeems.otp_eq
              cases stored.symm.trans redeems.stored
              exact absurd redeems.verified verified
          | _ => exact .inl ⟨fun _ _ _ redeems => (nomatch isOtp.symm.trans redeems.otp_eq), rfl⟩
    | _ => exact .inl ⟨fun _ _ _ redeems => (nomatch isEmail.symm.trans redeems.email_eq), rfl⟩

def Response.isError {α : Type} : Response α → Bool
  | success _ => false
  | _ => true

/-- **The state is as before**: no user was created without a wallet, and a code for the email is still stored. -/
def AsBefore (env : AuthEnv) (request : RegisterRequest) (state state' : AuthState) : Prop :=
  (∀ user ∈ state'.tables.users, user ∈ state.tables.users ∨ user.id ∈ state'.tables.wallets.map WalletRow.userId) ∧
    ∀ email data, request.email = .str email →
      state.otps.read state.now (env.toLowerCase email) = some data →
        state'.otps.read state'.now (env.toLowerCase email) = some data

/-- **An error leaves the state as before exactly if the code was not deleted**, whichever calls fail. -/
theorem register_error_iff (env : AuthEnv) (faulty : AuthOp → Bool) (request : RegisterRequest)
    (state : AuthState) :
    (registerRoute env request).Ensures (faulting env faulty) state fun _ state' =>
      ∃ response, state'.responses = state.responses ++ [response] ∧
        (response.isError = true → (AsBefore env request state state' ↔ CodeKept env faulty request state)) := by
  refine answering_ensures ((registerBody_ends env faulty request state).mono ?_)
  rintro result state' (⟨kept, rfl⟩ | ⟨email, otp, data, redeems, reads, deletes, now, otps, responses⟩)
  · exact ⟨_, rfl, fun _ => ⟨fun _ => kept, fun _ => ⟨fun _ member => .inl member, fun _ _ _ stored => stored⟩⟩⟩
  · refine ⟨_, congrArg (· ++ _) responses, fun _ => ⟨fun before => ?_, fun kept => ?_⟩⟩
    · have still := before.2 email data redeems.email_eq redeems.stored
      have gone : state'.otps (env.toLowerCase email) = none := by
        rw [otps]
        exact Store.delete_self _ _
      cases (Store.read_of_none gone _).symm.trans still
    · rcases kept email otp data redeems with broken | broken
      · cases reads.symm.trans broken
      · cases deletes.symm.trans broken

end Errors

/-! ### What is held -/

section Held

variable {tables : AuthTables} {account : Account}

/-- **The account is held**: its row is there, whatever was written to the other columns. -/
def AccountHeld (account : Account) (tables : AuthTables) : Prop :=
  ∃ row ∈ tables.users, row.id = account.id ∧ row.email = account.email ∧ row.username = account.username ∧
    row.passwordHash = account.passwordHash

theorem AccountHeld.find (held : AccountHeld account tables) : ∃ row,
    tables.users.find? (·.email = account.email) = some row ∧
    row.id = account.id ∧ row.email = account.email ∧ row.username = account.username ∧
      row.passwordHash = account.passwordHash := by
  obtain ⟨row, member, id, email, rest⟩ := held
  cases found : tables.users.find? (·.email = account.email) with
  | none => exact absurd (List.find?_eq_none.mp found row member) (by simp [email])
  | some row' =>
    have email' : row'.email = account.email := by simpa using List.find?_some found
    have same : row' = row :=
      List.inj_on_of_nodup_map tables.uniqueEmail (List.mem_of_find?_eq_some found) member (email'.trans email.symm)
    subst same
    exact ⟨row', rfl, id, email, rest⟩

theorem proceed_held {env : AuthEnv} {choice : AuthChoice} {op : AuthOp} {state : AuthState}
    (held : AccountHeld account state.tables) : AccountHeld account (op.proceed env choice state).2.tables := by
  obtain ⟨row, member, same⟩ := held
  rcases proceed_cases env choice op state with ⟨tables, after, more⟩ | ⟨-, after⟩
  · rw [after]
    exact ⟨row, more.subset member, same⟩
  · rw [after]
    exact ⟨row, member, same⟩

theorem act_held {act : AuthOutside} {state : AuthState} (held : AccountHeld account state.tables) :
    AccountHeld account (act.act state).tables := by
  obtain ⟨row, member, same⟩ := held
  cases act with
  | tick ms => exact ⟨row, member, same⟩
  | balance id funds locked => exact ⟨row, member, same⟩
  | stats id stats =>
    refine ⟨_, List.mem_map_of_mem member, ?_⟩
    split
    · exact same
    · exact same

/-- **An account is held for good**, whatever requests come in. -/
theorem held_later {env : AuthEnv} {c₀ c : Config authSignature AuthState AuthRequest}
    (held : AccountHeld account c₀.state.tables) (run : Reaches (authServer env) (fun _ _ => True) c₀ c) :
    AccountHeld account c.state.tables := by
  refine run.invariant (fun c => AccountHeld account c.state.tables) held fun c m c' held _ moved => ?_
  rcases Machine.move_cases moved with ⟨event, state, -, arrived, rfl⟩ |
    ⟨index, choice, event, op, next, reply, state, -, -, performed, rfl⟩ | ⟨act, state, -, acted, rfl⟩
  · cases arrived
    exact held
  · have performed : AuthOp.perform env choice op c.state = some (reply, state) := performed
    unfold AuthOp.perform at performed
    split at performed
    · split at performed
      · cases performed
        exact held
      · cases performed
    · have after : (op.proceed env choice c.state).2 = state := congrArg Prod.snd (Option.some.inj performed)
      exact after ▸ proceed_held held
  · cases acted
    exact act_held held

end Held

/-! ### Registering, and logging in -/

section RoundTrip

variable {env : AuthEnv} {state : AuthState} {request : RegisterRequest} {email : Text}

/-- **What the columns and the hashing take**, and that there is hashing. -/
structure Insertable (env : AuthEnv) (request : RegisterRequest) (email : Text) : Prop where
  hash : "hashPassword" ∈ env.authService
  password : ∃ password, request.password = .str password
  username : request.username.toText.length ≤ 30
  short : email.length ≤ 255
  clean : nulFree email = true

theorem checks_of_accepted (accepted : request.refusal = none) : request.email.truthy = true ∧
    request.username.truthy = true ∧ request.password.truthy = true ∧
      usernameRegex request.username.toText = true := by
  unfold RegisterRequest.refusal at accepted
  split_ifs at accepted with missing short regex weak
  simp only [Bool.or_eq_true, Bool.not_eq_true', not_or, Bool.not_eq_false] at missing regex
  exact ⟨missing.1.1.1, missing.1.1.2, missing.1.2, regex⟩

theorem username_of_accepted (accepted : request.refusal = none) :
    request.username.toSql = some request.username.toText ∧ nulFree request.username.toText = true ∧
      ' ' ∉ request.username.toText := by
  obtain ⟨-, truthy, -, matched⟩ := checks_of_accepted accepted
  refine ⟨?_, ?_⟩
  · cases isUsername : request.username with
    | undefined => rw [isUsername] at truthy; cases truthy
    | null => rw [isUsername] at truthy; cases truthy
    | bool value => rfl
    | num value => rfl
    | str value => rfl
    | object =>
      rw [isUsername] at matched
      cases matched
  · unfold usernameRegex at matched
    have chars := List.all_eq_true.mp (Bool.and_eq_true_iff.mp matched).2
    exact ⟨decide_eq_true fun nul => (nomatch chars _ nul), fun space => (nomatch chars _ space)⟩

theorem varchar_short {n : ℕ} {text : Text} (short : text.length ≤ n) : varchar n text = some text := by
  unfold varchar
  rw [List.drop_eq_nil_of_le short, List.take_of_length_le short]
  rfl

theorem varchar_long {n : ℕ} {text stored : Text} (long : ¬ text.length ≤ n) (same : varchar n text = some stored) :
    stored ≠ text := by
  unfold varchar at same
  split at same
  · cases same
    intro whole
    have length := congrArg List.length whole
    rw [List.length_take] at length
    omega
  · cases same

theorem varchar_none {n : ℕ} {text : Text} (long : ¬ text.length ≤ n) (spaceless : ' ' ∉ text) :
    varchar n text = none := by
  unfold varchar
  refine if_neg fun spaces => ?_
  obtain ⟨c, member⟩ := List.exists_mem_of_ne_nil (text.drop n) fun nil => long (List.drop_eq_nil_iff.mp nil)
  have space : c = ' ' := by simpa using List.all_eq_true.mp spaces c member
  exact spaceless (space ▸ List.mem_of_mem_drop member)

/-- The account that a registration adds, with its wallet. -/
def Adds (env : AuthEnv) (request : RegisterRequest) (email : Text) (tables tables' : AuthTables) : Prop :=
  ∃ id salt password, request.password = .str password ∧
    tables'.users = tables.users ++ [newAccount id email request.username.toText (env.bcrypt.hash salt password)] ∧
    tables'.wallets = tables.wallets ++ [⟨id, 0, 0⟩]

/-- No row of the email was added. -/
def AddsNone (email : Text) (tables tables' : AuthTables) : Prop :=
  ∀ account, tables'.users = tables.users ++ [account] → account.email ≠ email

/-- **What becomes of the tables**: a user with a wallet where everything is taken, and otherwise nobody. -/
def Created (env : AuthEnv) (request : RegisterRequest) (email : Text) (tables tables' : AuthTables) : Prop :=
  (Insertable env request email ∧ Adds env request email tables tables') ∨
    (¬ Insertable env request email ∧ AddsNone email tables tables')

theorem created_unchanged (refused : ¬ Insertable env request email) (tables : AuthTables) :
    Created env request email tables tables := by
  refine .inr ⟨refused, fun account same => ?_⟩
  have length := congrArg List.length same
  rw [List.length_append, List.length_singleton] at length
  omega

theorem created_other {tables tables' : AuthTables} {account : Account} (refused : ¬ Insertable env request email)
    (users : tables'.users = tables.users ++ [account]) (other : account.email ≠ email) :
    Created env request email tables tables' := by
  refine .inr ⟨refused, fun account' users' => ?_⟩
  have same := List.append_cancel_left (users.symm.trans users')
  cases same
  exact other

theorem insertWallet_replies {tables : AuthTables} {account : Account}
    (fresh : account.id ∉ state.tables.users.map Account.id)
    (inserted : state.tables.insertUser account = .ok tables) :
    ∃ tables', (∀ choice, (AuthOp.insertWallet account.id).proceed env choice { state with tables } =
        (.ok (), { state with tables := tables' })) ∧
      tables'.users = state.tables.users ++ [account] ∧
      tables'.wallets = state.tables.wallets ++ [⟨account.id, 0, 0⟩] := by
  obtain ⟨users, wallets⟩ := insertUser_ok inserted
  have free : account.id ∉ tables.wallets.map WalletRow.userId := by
    rw [wallets]
    intro taken
    obtain ⟨wallet, member, same⟩ := List.mem_map.mp taken
    exact fresh (same ▸ state.tables.references wallet member)
  have known : account.id ∈ tables.users.map Account.id := by
    rw [users]
    exact List.mem_map_of_mem (List.mem_append_right _ (List.mem_singleton_self _))
  obtain ⟨tables', wallet, users', wallets'⟩ : ∃ tables', tables.insertWallet ⟨account.id, 0, 0⟩ = .ok tables' ∧
      tables'.users = tables.users ∧ tables'.wallets = tables.wallets ++ [⟨account.id, 0, 0⟩] :=
    insertWallet_fresh free known
  exact ⟨tables', fun _ => by simp only [AuthOp.proceed, wallet], users'.trans users, by rw [wallets', wallets]⟩

section Insert

variable {username : JsVal} {name passwordHash : Text} {choice : AuthChoice}

/-- The statement for a user whose texts the columns do not take. -/
theorem insertUser_rejects (named : username.toSql = some name)
    (none : varchar 255 email = none ∨ varchar 30 name = none) :
    (AuthOp.insertUser email username passwordHash).proceed env choice state = (.error .invalidInput, state) := by
  simp only [AuthOp.proceed, named]
  split
  · rcases none with none | none
    · rw [none]
    · rw [none]
      cases varchar 255 email <;> rfl
  · rfl

theorem insertUser_replies (named : username.toSql = some name)
    (clean : (nulFree email && nulFree name && nulFree passwordHash) = true) {stored : Text}
    (storedAs : varchar 255 email = some stored) (short : name.length ≤ 30) :
    (AuthOp.insertUser email username passwordHash).proceed env choice state =
      ((state.tables.insertUser (newAccount choice.id stored name passwordHash)).map fun _ =>
          newAccount choice.id stored name passwordHash,
        match state.tables.insertUser (newAccount choice.id stored name passwordHash) with
        | .ok tables => { state with tables }
        | .error _ => state) := by
  simp only [AuthOp.proceed, named, clean, if_true, storedAs, varchar_short short]
  cases state.tables.insertUser (newAccount choice.id stored name passwordHash) <;> rfl

end Insert

theorem insertAccount_ends {password : Text} (salt : Text) (rest : Account → Response AuthReply)
    (accepted : request.refusal = none) (exported : "hashPassword" ∈ env.authService)
    (isText : request.password = .str password) (clean : nulFree email = true)
    (freeEmail : email ∉ state.tables.users.map Account.email)
    (freeName : request.username.toText ∉ state.tables.users.map Account.username) :
    ((AuthOp.insertUser email request.username (env.bcrypt.hash salt password)).call >>= fun user =>
      (AuthOp.insertWallet user.id).call >>= fun _ => (pure (rest user) : Task authSignature Err _)).Ensures
        (smooth env) state fun _ state' => Created env request email state.tables state'.tables := by
  obtain ⟨named, cleanName, spaceless⟩ := username_of_accepted accepted
  refine (ensures_bind _ _ _ _).mpr (faulting_call nofun fun _ choice fresh => ?_)
  by_cases shortName : request.username.toText.length ≤ 30
  · cases storedAs : varchar 255 email with
    | none =>
      have long : ¬ email.length ≤ 255 := fun short => nomatch storedAs.symm.trans (varchar_short short)
      rw [insertUser_rejects named (.inl storedAs)]
      exact created_unchanged (fun insertable => long insertable.short) _
    | some stored =>
      have cleanAll : (nulFree email && nulFree request.username.toText &&
          nulFree (env.bcrypt.hash salt password)) = true := by
        rw [clean, cleanName]
        exact decide_eq_true (env.bcrypt.hash_printable _ _)
      rw [insertUser_replies named cleanAll storedAs shortName]
      cases inserted : state.tables.insertUser (newAccount choice.id stored request.username.toText
          (env.bcrypt.hash salt password)) with
      | error err =>
        refine created_unchanged (fun insertable => ?_) _
        cases storedAs.symm.trans (varchar_short insertable.short)
        obtain ⟨tables, inserted'⟩ : ∃ tables, state.tables.insertUser (newAccount choice.id email
            request.username.toText (env.bcrypt.hash salt password)) = .ok tables :=
          insertUser_fresh fresh freeEmail freeName
        cases inserted.symm.trans inserted'
      | ok tables =>
        obtain ⟨tables', wallet, users, wallets⟩ := @insertWallet_replies env state _ _ fresh inserted
        refine faulting_bind wallet nofun fun _ => ?_
        by_cases short : email.length ≤ 255
        · cases storedAs.symm.trans (varchar_short short)
          exact .inl ⟨⟨exported, ⟨password, isText⟩, shortName, short, clean⟩, choice.id, salt, password, isText,
            users, wallets⟩
        · exact created_other (fun insertable => short insertable.short) users (varchar_long short storedAs)
  · rw [insertUser_rejects named (.inr (varchar_none shortName spaceless))]
    exact created_unchanged (fun insertable => shortName insertable.username) _

theorem selectExisting_unused (accepted : request.refusal = none) (clean : nulFree email = true)
    (unused : ∀ user ∈ state.tables.users, user.email ≠ email ∧ user.username ≠ request.username.toText)
    (choice : AuthChoice) :
    (AuthOp.selectExisting email request.username).proceed env choice state = (.ok 0, state) := by
  obtain ⟨named, cleanName, -⟩ := username_of_accepted accepted
  have empty : (state.tables.users.filter fun user =>
      user.email = email || some user.username = some request.username.toText) = [] := by
    refine List.filter_eq_nil_iff.mpr fun user member => ?_
    simpa using unused user member
  simp only [AuthOp.proceed, named, clean, Option.all_some, cleanName, Bool.and_self, if_true, empty,
    List.length_nil]

/-- **Creating an account.** -/
theorem createAccount_ends (accepted : request.refusal = none)
    (unused : ∀ user ∈ state.tables.users, user.email ≠ email ∧ user.username ≠ request.username.toText) :
    (createAccount env email request.username request.password).Ensures (smooth env) state fun _ state' =>
      Created env request email state.tables state'.tables := by
  by_cases clean : nulFree email = true
  · refine faulting_bind (selectExisting_unused accepted clean unused) nofun fun _ => ?_
    rw [show (if 0 < 0 then _ else _) = _ from if_neg (lt_irrefl 0)]
    unfold AuthEnv.imported
    by_cases exported : "hashPassword" ∈ env.authService
    · rw [if_pos exported]
      refine (ensures_bind _ _ _ _).mpr (faulting_call nofun fun _ choice _ => ?_)
      cases isText : request.password with
      | str password =>
        refine insertAccount_ends choice.salt _ accepted exported isText clean (fun taken => ?_) fun taken => ?_
        · obtain ⟨user, member, same⟩ := List.mem_map.mp taken
          exact (unused user member).1 same
        · obtain ⟨user, member, same⟩ := List.mem_map.mp taken
          exact (unused user member).2 same
      | _ =>
        exact created_unchanged (fun insertable => nomatch isText.symm.trans insertable.password.choose_spec) _
    · rw [if_neg exported]
      exact created_unchanged (fun insertable => exported insertable.hash) _
  · have rejected : ∀ choice, (AuthOp.selectExisting email request.username).proceed env choice state =
        (.error .invalidInput, state) := by
      intro choice
      simp only [AuthOp.proceed, clean, Bool.false_and, Bool.false_eq_true, if_false]
    refine (ensures_bind _ _ _ _).mpr (faulting_call nofun fun _ choice _ => ?_)
    rw [rejected choice]
    exact created_unchanged (fun insertable => clean insertable.clean) _

theorem registerRoute_redeems {faulty : AuthOp → Bool} {otp : Text} {data : OtpData}
    (redeems : Redeems env request state email otp data) {post : Except Err Unit → AuthState → Prop}
    (reads : faulty (.getOtp (env.toLowerCase email)) = false)
    (deletes : faulty (.delOtp (env.toLowerCase email)) = false)
    (creates : (createAccount env (env.toLowerCase email) request.username request.password).Ensures
      (faulting env faulty) { state with otps := state.otps.delete (env.toLowerCase email) } fun result state' =>
        post (.ok ()) { state' with responses := state'.responses ++ [Response.catching result] }) :
    (registerRoute env request).Ensures (faulting env faulty) state post := by
  refine answering_ensures ?_
  unfold registerBody
  rw [redeems.accepted, redeems.email_eq, redeems.otp_eq]
  refine faulting_bind (getOtp_replies redeems.stored) (fun broken => ?_) fun _ => ?_
  · cases reads.symm.trans (Bool.and_eq_true_iff.mp broken).1
  · simp only [ne_eq, redeems.verified, not_true_eq_false, if_false]
    refine faulting_bind (fun _ => rfl) (fun broken => ?_) fun _ => creates
    cases deletes.symm.trans (Bool.and_eq_true_iff.mp broken).1

/-- **A login** with the password of an account that is held. -/
theorem loginRoute_held {account : Account} {password : Text} (held : AccountHeld account state.tables)
    (exported : "comparePassword" ∈ env.authService) (nonempty : email ≠ []) (strong : password ≠ [])
    (same : env.toLowerCase email = account.email) (clean : nulFree account.email = true)
    (right : env.bcrypt.compare password account.passwordHash = true) :
    (loginRoute env ⟨.str email, .str password⟩).Ensures (smooth env) state fun _ state' =>
      ∃ user, user.id = account.id ∧ state'.responses = state.responses ++ [.success (.loggedIn user
        (env.generateToken ⟨account.id, account.username, account.email⟩))] := by
  obtain ⟨row, found, id, isEmail, isUsername, isHash⟩ := held.find
  refine answering_ensures ?_
  unfold loginBody
  rw [if_neg (by simp [JsVal.truthy, nonempty, strong])]
  refine faulting_bind (fun _ => by simp only [AuthOp.proceed, same, clean, if_true, found, Option.map_some]; rfl)
    nofun fun _ => ?_
  simp only [AuthEnv.imported, if_pos exported]
  refine faulting_bind (fun _ => by simp only [AuthOp.proceed, isHash, right]; rfl) nofun fun _ => ?_
  rw [← id, ← isEmail, ← isUsername]
  exact ⟨_, rfl, rfl⟩

theorem loginRoute_unexported {request : LoginRequest} (unexported : "comparePassword" ∉ env.authService) :
    (loginRoute env request).Ensures (smooth env) state fun _ state' =>
      ∃ response, response.isError = true ∧ state'.responses = state.responses ++ [response] := by
  refine answering_ensures ?_
  unfold loginBody
  split
  · exact ⟨_, rfl, rfl⟩
  · split
    · refine (ensures_bind _ _ _ _).mpr (faulting_call nofun fun _ choice _ => ?_)
      simp only [AuthOp.proceed]
      split_ifs with clean
      · cases state.tables.users.find? _ with
        | none => exact ⟨_, rfl, rfl⟩
        | some user =>
          simp only [Option.map_some, AuthEnv.imported, if_neg unexported]
          exact ⟨_, rfl, rfl⟩
      · exact ⟨_, rfl, rfl⟩
    · exact ⟨_, rfl, rfl⟩

/-- **One user with one wallet**, who logs in from then on: with the same password and any casing of the email, at
any later time and whatever happens in between. -/
def RoundTrip (env : AuthEnv) (request : RegisterRequest) (email : Text) (state : AuthState) : Prop :=
  (registerRoute env request).Ensures (smooth env) state fun _ state' =>
    ∃ account, state'.tables.users = state.tables.users ++ [account] ∧
      state'.tables.wallets = state.tables.wallets ++ [⟨account.id, 0, 0⟩] ∧
      account.email = env.toLowerCase email ∧ account.username = request.username.toText ∧
      ∀ threads later, Reaches (authServer env) (fun _ _ => True) ⟨state', threads⟩ later →
        ∀ email', env.toLowerCase email' = env.toLowerCase email →
          (loginRoute env ⟨.str email', request.password⟩).Ensures (smooth env) later.state fun _ state'' =>
            ∃ user, user.id = account.id ∧ state''.responses = later.state.responses ++ [.success (.loggedIn user
              (env.generateToken ⟨account.id, account.username, account.email⟩))]

/-- **What it takes to register and to log in.** -/
def Registrable (env : AuthEnv) (request : RegisterRequest) (email : Text) : Prop :=
  Insertable env request (env.toLowerCase email) ∧ "comparePassword" ∈ env.authService

theorem registerRoute_ends {otp : Text} {data : OtpData} (redeems : Redeems env request state email otp data)
    (unused : ∀ user ∈ state.tables.users,
      user.email ≠ env.toLowerCase email ∧ user.username ≠ request.username.toText) :
    (registerRoute env request).Ensures (smooth env) state fun _ state' =>
      Created env request (env.toLowerCase email) state.tables state'.tables := by
  refine registerRoute_redeems redeems rfl rfl ?_
  have creates := @createAccount_ends env { state with otps := state.otps.delete (env.toLowerCase email) } request
    (env.toLowerCase email) redeems.accepted unused
  exact creates

/-- A login at any time after a registration. -/
theorem login_later {otp : Text} {data : OtpData} (redeems : Redeems env request state email otp data)
    (registrable : Registrable env request email) {id : UserId} {salt password : Text}
    (isText : request.password = .str password) {c later : Config authSignature AuthState AuthRequest}
    (inserted : newAccount id (env.toLowerCase email) request.username.toText (env.bcrypt.hash salt password) ∈
      c.state.tables.users) (run : Reaches (authServer env) (fun _ _ => True) c later) {email' : Text}
    (same : env.toLowerCase email' = env.toLowerCase email) :
    (loginRoute env ⟨.str email', request.password⟩).Ensures (smooth env) later.state fun _ state' =>
      ∃ user, user.id = id ∧ state'.responses = later.state.responses ++ [.success (.loggedIn user
        (env.generateToken ⟨id, request.username.toText, env.toLowerCase email⟩))] := by
  have held : AccountHeld (newAccount id (env.toLowerCase email) request.username.toText
      (env.bcrypt.hash salt password)) later.state.tables :=
    held_later ⟨_, inserted, rfl, rfl, rfl, rfl⟩ run
  obtain ⟨nonempty, -, strong, -⟩ := checks_of_accepted redeems.accepted
  rw [redeems.email_eq] at nonempty
  rw [isText] at strong
  rw [isText]
  refine loginRoute_held held registrable.2 (fun nil => ?_) (of_decide_eq_true strong) same registrable.1.clean
    (env.bcrypt.compare_hash salt password)
  have empty := (env.toLowerCase_nil email').mpr nil
  rw [same, env.toLowerCase_nil] at empty
  exact of_decide_eq_true nonempty empty

/-- **Registering and logging in go together exactly if** both password functions are exported, the password is a
text, and the columns take the username and the email. -/
theorem round_trip_iff {otp : Text} {data : OtpData} (redeems : Redeems env request state email otp data)
    (unused : ∀ user ∈ state.tables.users,
      user.email ≠ env.toLowerCase email ∧ user.username ≠ request.username.toText) :
    RoundTrip env request email state ↔ Registrable env request email := by
  have ends := registerRoute_ends redeems unused
  constructor
  · intro trip
    obtain ⟨_, state', ⟨account, users, wallets, isEmail, isUsername, logins⟩, created⟩ :=
      (trip.both ends).exists_end
    refine ⟨?_, ?_⟩
    · rcases created with ⟨insertable, -⟩ | ⟨-, none⟩
      · exact insertable
      · exact absurd isEmail (none account users)
    · by_contra unexported
      have login := logins [] ⟨state', []⟩ .refl email rfl
      obtain ⟨_, _, ⟨user, -, success⟩, response, isError, answered⟩ :=
        (login.both (loginRoute_unexported unexported)).exists_end
      cases List.append_cancel_left (success.symm.trans answered)
      cases isError
  · intro registrable
    refine ends.mono ?_
    rintro _ state' (⟨-, id, salt, password, isText, users, wallets⟩ | ⟨refused, -⟩)
    · refine ⟨_, users, wallets, rfl, rfl, fun threads later run email' same => ?_⟩
      have inserted : newAccount id (env.toLowerCase email) request.username.toText
          (env.bcrypt.hash salt password) ∈ state'.tables.users := by
        rw [users]
        exact List.mem_append_right _ (List.mem_singleton_self _)
      exact login_later redeems registrable isText inserted run same
    · exact absurd registrable.1 refused

/-- Without the hashing, nothing is inserted. -/
theorem createAccount_unexported (unexported : "hashPassword" ∉ env.authService) (username password : JsVal) :
    (createAccount env email username password).Ensures (smooth env) state fun result state' =>
      state' = state ∧ (Response.catching result).isError = true := by
  refine (ensures_bind _ _ _ _).mpr (faulting_call nofun fun _ choice _ => ?_)
  simp only [AuthOp.proceed]
  split_ifs with clean
  · simp only [AuthEnv.imported, if_neg unexported]
    split
    · exact ⟨rfl, rfl⟩
    · exact ⟨rfl, rfl⟩
  · exact ⟨rfl, rfl⟩

end RoundTrip

/-! ### Two requests -/

/-- A hashing for concrete requests. -/
def sampleBcrypt : Bcrypt where
  hash _ password := password.filter (· ≠ '\x00')
  compare password hashed := password.filter (· ≠ '\x00') = hashed
  compare_hash _ _ := decide_eq_true rfl
  hash_printable _ _ := by simp

/-- The routes with the exports they are given. -/
def sampleAuthEnv (authService : List String) : AuthEnv where
  authService
  bcrypt := sampleBcrypt
  toLowerCase := List.map Char.toLower
  toLowerCase_nil _ := List.map_eq_nil_iff
  generateToken payload := payload.username

/-- The routes with both password functions. -/
abbrev exportingEnv : AuthEnv := sampleAuthEnv ["hashPassword", "comparePassword"]

/-- A code is stored for `ana@x.in`. -/
def codeSent : AuthState where
  otps := Store.write (fun _ => none) "ana@x.in".toList ⟨"123456".toList, .str "ana".toList⟩ 600000

/-- The request of a user with that code. -/
def anaRegisters : RegisterRequest :=
  ⟨.str "Ana@x.in".toList, .str "ana".toList, .str "password".toList, .str " 123456".toList⟩

theorem ana_lower (authService : List String) :
    (sampleAuthEnv authService).toLowerCase "Ana@x.in".toList = "ana@x.in".toList := by
  show "Ana@x.in".toList.map Char.toLower = _
  decide

theorem anaRegisters_redeems (authService : List String) : Redeems (sampleAuthEnv authService) anaRegisters codeSent
    "Ana@x.in".toList " 123456".toList ⟨"123456".toList, .str "ana".toList⟩ := by
  refine ⟨rfl, rfl, by decide, ?_, by decide⟩
  rw [ana_lower]
  exact Store.read_write_self _ _ _ (by decide)

/-- **The exports lack the hashing**: the request registers nobody. -/
theorem exports_lack_hash : (registerRoute (sampleAuthEnv authServiceExports) anaRegisters).Ensures
    (smooth (sampleAuthEnv authServiceExports)) codeSent fun _ state' =>
      state'.tables.users = [] ∧ ∃ response, response.isError = true ∧ state'.responses = [response] := by
  refine registerRoute_redeems (anaRegisters_redeems _) rfl rfl ((createAccount_unexported (by decide) _ _).mono ?_)
  rintro result state' ⟨rfl, isError⟩
  exact ⟨rfl, _, isError, rfl⟩

/-- With them, the user registers and logs in. -/
theorem round_trip_ana : RoundTrip exportingEnv anaRegisters "Ana@x.in".toList codeSent :=
  (round_trip_iff (anaRegisters_redeems _) nofun).mpr
    ⟨⟨by decide, ⟨_, rfl⟩, by decide, by decide, by decide⟩, by decide⟩

/-- **An error changes the state**: with the exports there are, the code is spent; with both functions, and the last
statement failing, so it is, and a user is left without a wallet. -/
theorem error_changes_state :
    ((registerRoute (sampleAuthEnv authServiceExports) anaRegisters).Ensures
      (smooth (sampleAuthEnv authServiceExports)) codeSent fun _ state' =>
        (∃ response, response.isError = true ∧ state'.responses = [response]) ∧
          state'.otps.read state'.now "ana@x.in".toList = none) ∧
    (registerRoute exportingEnv anaRegisters).Ensures
      (faulting exportingEnv fun op => op matches .insertWallet _) codeSent fun _ state' =>
        (∃ response, response.isError = true ∧ state'.responses = [response]) ∧
          (∃ user, state'.tables.users = [user]) ∧ state'.tables.wallets = [] := by
  constructor
  · refine registerRoute_redeems (anaRegisters_redeems _) rfl rfl
      ((createAccount_unexported (by decide) _ _).mono ?_)
    rintro result state' ⟨rfl, isError⟩
    have gone : codeSent.otps.delete "ana@x.in".toList "ana@x.in".toList = none := Store.delete_self _ _
    refine ⟨⟨_, isError, rfl⟩, Store.read_of_none ?_ _⟩
    rw [ana_lower]
    exact gone
  · refine registerRoute_redeems (anaRegisters_redeems _) rfl rfl (faulting_bind (fun _ => rfl) nofun fun _ => ?_)
    refine (ensures_bind _ _ _ _).mpr (faulting_call nofun fun _ choice _ => ?_)
    refine (ensures_bind _ _ _ _).mpr (faulting_call nofun fun _ choice' _ => ?_)
    refine (ensures_bind _ _ _ _).mpr (faulting_call (fun _ => ?_) nofun)
    exact ⟨⟨_, rfl, rfl⟩, ⟨_, rfl⟩, rfl⟩

/-- Where the deletion fails, the user can try again. -/
theorem register_error_undeleted : (registerRoute exportingEnv anaRegisters).Ensures
    (faulting exportingEnv fun op => op matches .delOtp _) codeSent fun _ state' =>
      ∃ response, state'.responses = [response] ∧
        (response.isError = true → AsBefore exportingEnv anaRegisters codeSent state') := by
  refine (register_error_iff exportingEnv _ anaRegisters codeSent).mono ?_
  rintro _ state' ⟨response, answered, before⟩
  exact ⟨response, answered, fun isError => (before isError).mpr fun _ _ _ _ => .inr rfl⟩

end SkillArena
