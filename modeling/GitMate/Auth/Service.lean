import GitMate.Auth.Token
import GitMate.Library.Resolution
import GitMate.Library.System
import GitMate.Library.Table

namespace GitMate.Auth

open JavaScript Relational Interleaving

/-!
# Sessions

A session starts with the OAuth callback, which finds or creates the user,
signs an access and a refresh token and stores the hash of the latter.  A
refresh compares the presented token with the stored hash and replaces both
tokens.  Every guarded request presents a token and has its user looked up,
and an account can be deactivated.

Each request is a program over the user table, the clock and the libraries
that sign, verify, encrypt and compare; any number of them runs side by side.
-/

/-! ## The user table -/

inductive UserStatus where
  | ACTIVE | DEACTIVATED
  deriving DecidableEq, Repr

structure User where
  id : UserId
  githubId : String
  username : Text
  avatarUrl : Option String
  githubToken : Option String
  hashedRefreshToken : Option BcryptHash
  status : UserStatus
  deriving DecidableEq, Repr

/-- The table of users, whose ids and GitHub ids are unique. -/
structure Users extends Table User.id where
  githubIds : (rows.map User.githubId).Nodup

/-- What GitHub tells about the user who has logged in. -/
structure GithubOAuthDetails where
  githubId : String
  username : Text
  avatarUrl : String
  accessToken : String
  deriving DecidableEq, Repr

namespace Users

/-- The users by their GitHub ids. -/
def byGithubId (users : Users) : Table User.githubId := ⟨users.rows, users.githubIds⟩

def findByGithubId (users : Users) (githubId : String) : Option User :=
  users.byGithubId.find? githubId

/-- Rewrite every selected row, apart from its ids. -/
def modify (users : Users) (selects : User -> Bool) (change : User -> User)
    (keepsId : forall row, (change row).id = row.id)
    (keepsGithubId : forall row, (change row).githubId = row.githubId) : Users where
  toTable := users.updateMany selects change keepsId
  githubIds := (users.byGithubId.updateMany selects change keepsGithubId).distinct

/-- Insert a row, unless one of its ids is taken. -/
def create (users : Users) (user : User) : Option Users :=
  if fresh : user.id ∉ users.rows.map User.id ∧ user.githubId ∉ users.rows.map User.githubId then
    some ⟨users.insert user fresh.1, (users.byGithubId.insert user fresh.2).distinct⟩
  else none

end Users

/-- The columns that both branches of the OAuth callback set. -/
def User.authorize (details : GithubOAuthDetails) (githubToken : String) (user : User) : User :=
  { user with
    username := details.username
    avatarUrl := some details.avatarUrl
    githubToken := some githubToken }

/-- `user.upsert` by the GitHub id; `generated` is the id of a new row. -/
def Users.upsertGithubUser (users : Users) (details : GithubOAuthDetails) (githubToken : String)
    (generated : UserId) : Option (User × Users) :=
  match users.findByGithubId details.githubId with
  | some user =>
      some (user.authorize details githubToken,
        users.modify (fun row => row.githubId == details.githubId)
          (User.authorize details githubToken) (fun _ => rfl) (fun _ => rfl))
  | none =>
      let created : User :=
        ⟨generated, details.githubId, details.username, some details.avatarUrl, some githubToken,
          none, .ACTIVE⟩
      (users.create created).map fun users => (created, users)

/-- `user.update` of one row, which must be there. -/
def Users.update (users : Users) (id : UserId) (change : User -> User)
    (keepsId : forall row, (change row).id = row.id)
    (keepsGithubId : forall row, (change row).githubId = row.githubId) : Option (User × Users) :=
  match users.find? id with
  | some user =>
      some (change user, users.modify (fun row => row.id == id) change keepsId keepsGithubId)
  | none => none

/-- The `data` of `updateRefreshToken`. -/
def User.setRefreshToken (refreshToken : Token) (user : User) : User :=
  { user with hashedRefreshToken := some ⟨refreshToken⟩ }

/-- The `data` of `deactivateUser`. -/
def User.deactivate (user : User) : User :=
  { user with status := .DEACTIVATED, hashedRefreshToken := none }

/-! ## The operations -/

inductive AuthError where
  | unauthorized (message : String)
  | forbidden (message : String)
  /-- A `ForbiddenException` with a code of its own. -/
  | forbiddenCode (code message : String)
  | notFound (message : String)
  /-- An error of the library that verifies tokens. -/
  | invalidToken
  /-- An error of the database client. -/
  | prisma (code : String)
  deriving DecidableEq, Repr

inductive Response where
  | done
  | tokens (access_token refresh_token : Token)
  | deactivated (status : UserStatus)
  deriving DecidableEq, Repr

/-- The token of an `Authorization` header, and what the removal of `Bearer `
leaves in front of it, which is nothing unless the scheme is spelled in
another way. -/
structure Bearer where
  leftover : Bytes
  token : Token
  deriving DecidableEq, Repr

/-- What the controller takes for the refresh token. -/
def Bearer.toBytes (bearer : Bearer) : Bytes := bearer.leftover ++ bearer.token.toBytes

inductive Op where
  /-- `verifyAsync`, or the verification of `passport-jwt`. -/
  | verify (token : Token)
  | sign (body : TokenBody) (expiresIn : Nat)
  /-- `findUnique` in `JwtStrategy.validate`. -/
  | findAuthenticatedUser (id : UserId)
  /-- `findUnique` in `refreshTokens`. -/
  | findUser (id : UserId)
  /-- `findUnique` in `deactivateUser`. -/
  | findUserId (id : UserId)
  /-- `findUnique` in `validateUser`. -/
  | findUserByGithubId (githubId : String)
  /-- `findUnique` in `reauthorizeGithubUser`. -/
  | findGithubUser (id : UserId)
  | encrypt (accessToken : String)
  | upsertGithubUser (details : GithubOAuthDetails) (githubToken : String)
  | updateGithubUser (id : UserId) (details : GithubOAuthDetails) (githubToken : String)
  | compare (presented : Bearer) (hash : BcryptHash)
  | updateRefreshToken (id : UserId) (refreshToken : Token)
  | deactivate (id : UserId)
  /-- The response to the request. -/
  | answer (result : Except AuthError Response)
  deriving DecidableEq, Repr

def Op.Reply : Op -> Type
  | .verify _ => JwtClaims
  | .sign .. => Token
  | .findAuthenticatedUser _ | .findUser _ | .findUserByGithubId _ | .findGithubUser _ =>
      Option User
  | .findUserId _ => Option UserId
  | .encrypt _ => String
  | .upsertGithubUser .. | .updateGithubUser .. => User
  | .compare .. => Bool
  | .deactivate _ => UserStatus
  | .updateRefreshToken .. | .answer _ => Unit

abbrev Services : Interface := ⟨Op, Op.Reply, AuthError⟩

abbrev Service (α : Type) : Type := Program Services α

def perform (op : Op) : Service op.Reply := @Program.perform Services op

def ofExcept {α : Type} : Except AuthError α -> Service α
  | .ok value => pure value
  | .error error => throw error

/-! ## The checks -/

def accountDeactivated : AuthError :=
  .forbiddenCode "ACCOUNT_DEACTIVATED" "Account is deactivated"

/-- `JwtStrategy.validate`, after its query. -/
def validate (found : Option User) : Except AuthError User :=
  match found with
  | none => .error (.unauthorized "Invalid authentication token")
  | some user => if user.status = .DEACTIVATED then .error accountDeactivated else .ok user

/-- The checks of `refreshTokens` before it compares. -/
def checkRefresh (found : Option User) : Except AuthError (User × BcryptHash) :=
  match found with
  | none => .error (.forbidden "Access Denied")
  | some user =>
      match user.hashedRefreshToken with
      | none => .error (.forbidden "Access Denied")
      | some hash =>
          if user.status = .DEACTIVATED then .error accountDeactivated else .ok (user, hash)

def invalidOAuthState : AuthError := .unauthorized "Invalid GitHub OAuth state"

/-- `verifyGithubOAuthState`, after the verification of the token. -/
def checkOAuthState (payload : JwtClaims) : Except AuthError UserId :=
  if payload.purpose ≠ some "github-oauth-reauthorize" then .error invalidOAuthState
  else .ok payload.sub

/-- The check of `validateUser`. -/
def checkExistingUser (found : Option User) : Except AuthError Unit :=
  match found with
  | none => .ok ()
  | some user => if user.status = .DEACTIVATED then .error accountDeactivated else .ok ()

/-- The checks of `reauthorizeGithubUser`. -/
def checkReauthorized (found : Option User) (details : GithubOAuthDetails) : Except AuthError Unit :=
  match found with
  | none => .error invalidOAuthState
  | some user =>
      if user.status = .DEACTIVATED then .error accountDeactivated
      else if user.githubId ≠ details.githubId then
        .error (.forbidden "GitHub account does not match the authenticated user")
      else .ok ()

/-- `GithubOAuthGuard.getAuthenticateOptions`: the state to pass on, if any.
Everything in it happens at once, at a time in seconds. -/
def getAuthenticateOptions (mode : Option String) (bearer : Option Token) (now : Nat)
    (signature : Bytes) : Except AuthError (Option Token) :=
  if mode ≠ some "reauthorize" then .ok none
  else
    match bearer with
    | none => .ok none
    | some accessToken =>
        match accessToken.verify now with
        | none => .error (.unauthorized "Invalid access token")
        | some payload =>
            .ok (some (sign (reauthorizeBody payload.sub) STATE_LIFETIME now signature))

/-! ## The requests -/

/-- The strategy `jwt`; a token that does not verify is answered by the
library. -/
def authenticate (token : Token) : Service User := do
  let verified : Except AuthError JwtClaims <- Program.attempt (perform (.verify token))
  match verified with
  | .error _ => throw (.unauthorized "Unauthorized")
  | .ok payload => do
      let found : Option User <- perform (.findAuthenticatedUser payload.sub)
      ofExcept (validate found)

def getTokens (userId : UserId) (username : Text) : Service (Token × Token) := do
  let access : Token <- perform (.sign (sessionBody userId username) ACCESS_TOKEN_LIFETIME)
  let refresh : Token <- perform (.sign (sessionBody userId username) REFRESH_TOKEN_LIFETIME)
  pure (access, refresh)

def login (user : User) : Service Response := do
  let tokens <- getTokens user.id user.username
  let _ : Unit <- perform (.updateRefreshToken user.id tokens.2)
  pure (.tokens tokens.1 tokens.2)

def refreshTokens (userId : UserId) (presented : Bearer) : Service Response := do
  let found : Option User <- perform (.findUser userId)
  let checked <- ofExcept (checkRefresh found)
  let matched : Bool <- perform (.compare presented checked.2)
  if matched then login checked.1 else throw (.forbidden "Access Denied")

def validateUser (details : GithubOAuthDetails) : Service User := do
  let found : Option User <- perform (.findUserByGithubId details.githubId)
  ofExcept (checkExistingUser found)
  let encryptedToken : String <- perform (.encrypt details.accessToken)
  perform (.upsertGithubUser details encryptedToken)

def reauthorizeGithubUser (userId : UserId) (details : GithubOAuthDetails) : Service User := do
  let found : Option User <- perform (.findGithubUser userId)
  ofExcept (checkReauthorized found details)
  let encryptedToken : String <- perform (.encrypt details.accessToken)
  perform (.updateGithubUser userId details encryptedToken)

def verifyGithubOAuthState (state : Token) : Service UserId := do
  let verified : Except AuthError JwtClaims <- Program.attempt (perform (.verify state))
  match verified with
  | .error _ => throw invalidOAuthState
  | .ok payload => ofExcept (checkOAuthState payload)

/-- The `state` of the query: missing or empty, a string, or a list. -/
inductive StateParameter where
  | absent
  | string (state : Token)
  | list
  deriving DecidableEq, Repr

def completeGithubOAuth (details : GithubOAuthDetails) : StateParameter -> Service User
  | .absent => validateUser details
  | .list => throw invalidOAuthState
  | .string state => do
      let userId <- verifyGithubOAuthState state
      reauthorizeGithubUser userId details

/-- The answer stands for the redirection with both tokens. -/
def AuthController.githubAuthRedirect (details : GithubOAuthDetails) (state : StateParameter) :
    Service Response := do
  let user <- completeGithubOAuth details state
  login user

def AuthController.refresh (bearer : Bearer) : Service Response := do
  let user <- authenticate bearer.token
  refreshTokens user.id bearer

def deactivateUser (userId : UserId) : Service Response := do
  let found : Option UserId <- perform (.findUserId userId)
  match found with
  | none => throw (.notFound "User not found")
  | some _ => do
      let status : UserStatus <- perform (.deactivate userId)
      pure (.deactivated status)

def UserController.deactivate (bearer : Bearer) : Service Response := do
  let user <- authenticate bearer.token
  deactivateUser user.id

/-- Any other request behind the strategy `jwt`. -/
def guardedRequest (bearer : Bearer) : Service Response := do
  let _ <- authenticate bearer.token
  pure .done

/-- A request ends with its response. -/
def respond (body : Service Response) : Service Unit := do
  let result : Except AuthError Response <- Program.attempt body
  perform (.answer result)

/-! ## The machine -/

/-- What the environment supplies: the id of a new row, the signature of a
token, and an encrypted text. -/
structure Supply where
  generated : UserId
  signature : Bytes
  cipher : String
  deriving DecidableEq, Repr

abbrev Choice : Type := Resolution Supply AuthError

structure World where
  users : Users
  /-- The time in milliseconds. -/
  clock : Nat

/-- The time in seconds, as tokens count it. -/
def World.seconds (world : World) : Nat := world.clock / 1000

/-- The effect of an operation on the user table; most have none. -/
def Op.effect : (op : Op) -> Users -> Supply -> Option (op.Reply × Users)
  | .upsertGithubUser details githubToken, users, supply =>
      users.upsertGithubUser details githubToken supply.generated
  | .updateGithubUser id details githubToken, users, _ =>
      users.update id (User.authorize details githubToken) (fun _ => rfl) (fun _ => rfl)
  | .updateRefreshToken id refreshToken, users, _ =>
      (users.update id (User.setRefreshToken refreshToken) (fun _ => rfl) (fun _ => rfl)).map fun done =>
        ((), done.2)
  | .deactivate id, users, _ =>
      (users.update id User.deactivate (fun _ => rfl) (fun _ => rfl)).map fun done => (done.1.status, done.2)
  | .verify .., _, _ | .sign .., _, _ | .findAuthenticatedUser _, _, _ | .findUser _, _, _ |
    .findUserId _, _, _ | .findUserByGithubId _, _, _ | .findGithubUser _, _, _ |
    .encrypt _, _, _ | .compare .., _, _ | .answer _, _, _ => none

/-- The error of a write that the database refuses. -/
def Op.refused : Op -> AuthError
  | .upsertGithubUser .. => .prisma "P2002"
  | _ => .prisma "P2025"

/-- Resolve a write to the user table. -/
def World.write (op : Op) (choice : Choice) (world : World) : Except AuthError op.Reply × World :=
  choice.write world op.refused fun supply =>
    (op.effect world.users supply).map fun done => (done.1, { world with users := done.2 })

def World.exec (op : Op) (choice : Choice) (world : World) :
    Option (Except AuthError op.Reply × World) :=
  match op with
  | .verify token =>
      some (match token.verify world.seconds with
        | some payload => .ok payload
        | none => .error .invalidToken, world)
  | .sign body expiresIn =>
      some (choice.read fun supply => sign body expiresIn world.seconds supply.signature, world)
  | .findAuthenticatedUser id | .findUser id | .findGithubUser id =>
      some (choice.read fun _ => world.users.find? id, world)
  | .findUserId id => some (choice.read fun _ => (world.users.find? id).map User.id, world)
  | .findUserByGithubId githubId =>
      some (choice.read fun _ => world.users.findByGithubId githubId, world)
  | .encrypt _ => some (choice.read fun supply => supply.cipher, world)
  | .compare presented hash => some (choice.read fun _ => hash.compare presented.toBytes, world)
  | .upsertGithubUser .. | .updateGithubUser .. | .updateRefreshToken .. | .deactivate _ =>
      some (world.write _ choice)
  | .answer _ => some (.ok (), world)

inductive Entry where
  | githubCallback (details : GithubOAuthDetails) (state : StateParameter)
  | refresh (bearer : Bearer)
  | deactivate (bearer : Bearer)
  | guarded (bearer : Bearer)
  deriving DecidableEq, Repr

def Entry.program : Entry -> Service Unit
  | .githubCallback details state => respond (AuthController.githubAuthRedirect details state)
  | .refresh bearer => respond (AuthController.refresh bearer)
  | .deactivate bearer => respond (UserController.deactivate bearer)
  | .guarded bearer => respond (guardedRequest bearer)

/-- Requests side by side; time passes on its own. -/
def sessions : Machine Services where
  World := World
  Choice := Choice
  exec := World.exec
  Entry := Entry
  start := Entry.program
  Internal := Nat
  internal milliseconds world := some { world with clock := world.clock + milliseconds }

abbrev AuthState : Type := sessions.State
abbrev AuthLabel : Type := sessions.Label

/-- The user table of a state of the machine. -/
def AuthState.users (state : AuthState) : Users :=
  let world : World := state.world
  world.users

/-! ## A login -/

/-- No user and no request yet. -/
def emptyState : AuthState :=
  ⟨({ users := ⟨⟨[], by decide⟩, by decide⟩, clock := 0 } : World), []⟩

def octocat : GithubOAuthDetails := ⟨"7", text "octocat", "avatar", "token"⟩

/-- The signature that the environment supplies. -/
def sampleSignature : Bytes := utf8 (text "signature")

/-- The label by which a request goes on when everything succeeds. -/
def proceeds (index : Nat) : AuthLabel := .act index (.succeed ⟨1, sampleSignature, "cipher"⟩)

/-- The label by which time passes. -/
def elapse (milliseconds : Nat) : AuthLabel := .internal milliseconds

/-- A login from the callback to the redirection, of the first request. -/
def loginScript : List AuthLabel :=
  .spawn (.githubCallback octocat .absent) :: List.replicate 7 (proceeds 0)

def loggedInState : AuthState := emptyState.after loginScript

/-- The refresh token of the login. -/
def firstRefreshToken : Token := refreshToken 1 (text "octocat") 0 sampleSignature

def firstBearer : Bearer := ⟨[], firstRefreshToken⟩

end GitMate.Auth
