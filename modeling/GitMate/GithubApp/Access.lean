import GitMate.Collection.GithubErrors
import GitMate.GithubApp.Callback
import GitMate.Library.Parallel
import GitMate.Library.Solitary

namespace GitMate.GithubApp.Access

open Relational Interleaving JavaScript Collection

/-!
# Access to repositories

The list of the installations of a user is brought into line with GitHub before
it is shown: every installation on an account of the user, or of one of the
user's organizations, is stored and linked to the user, and every other link
of the user is deleted.

A repository is reached through the installations that are linked to the user
and active.  Each is asked for its repositories with a token of its own.  The
tokens are kept in memory until shortly before they expire; one that GitHub
rejects is forgotten and fetched again, once.

All requests share the tokens in memory.  Whatever else writes to the database
is left to the environment.  What a request throws is looked at like any other
value, and the loops over pages count down a fuel in place of running without a
bound.
-/

/-! ## The database -/

/-- The tables that the requests use.  The ids of installations are generated,
besides the ids that GitHub gives. -/
structure Store where
  users : Table GithubUser.id
  installations : Installations
  links : Table UserGithubInstallation.key
  identified : (installations.rows.map fun row => row.id).Nodup

namespace Store

/-- The installations of the user with a status. -/
def linkedInstallations (store : Store) (userId : UserId) (status : GithubInstallationStatus) :
    List GithubInstallation :=
  store.installations.rows.filter fun row =>
    row.status == status && (store.links.find? (userId, row.id)).isSome

/-- `githubInstallation.upsert`, which returns the id of the row.  A generated
id is not in use. -/
def upsertInstallation (store : Store) (githubInstallationId : String) (data : InstallationData)
    (generated : Nat) : Option (Nat × Store) :=
  let installations := store.installations.upsertData githubInstallationId data generated
  if identified : (installations.rows.map fun row => row.id).Nodup then
    (installations.find? githubInstallationId).map fun row =>
      (row.id, { store with installations := installations, identified := identified })
  else none

/-- `userGithubInstallation.upsert` with the dates of its two branches; the
foreign keys refuse a link between rows that do not exist. -/
def upsertLink (store : Store) (userId : UserId) (installationId : Nat) (updated created : Instant) :
    Option Store :=
  if (store.users.find? userId).isSome ∧
      installationId ∈ store.installations.rows.map fun row => row.id then
    let links := store.links.upsert ⟨userId, installationId, .AUTO_DISCOVERY, created⟩
      (fun link => { link with membershipVerifiedAt := updated }) (fun _ => rfl)
    some { store with links := links }
  else none

/-- `deleteMany` with `notIn`. -/
def deleteLinks (store : Store) (userId : UserId) (kept : List Nat) : Store :=
  { store with links := store.links.deleteMany fun link =>
      link.userId == userId && !kept.contains link.installationId }

end Store

/-! ## GitHub -/

structure Organization where
  login : String
  deriving DecidableEq, Repr

structure Repository where
  id : Nat
  full_name : String
  isPrivate : Bool
  deriving DecidableEq, Repr

/-- What GitHub knows: the organizations of the user that a stored token
belongs to, and the installations of the app. -/
structure Github where
  organizations : String -> List Organization
  installations : List GithubInstallationPayload

def PER_PAGE : Nat := 100

/-- A page of a list; the first one is 1. -/
def pageOf {α : Type} (list : List α) (page : Nat) : List α :=
  (list.drop (PER_PAGE * (page - 1))).take PER_PAGE

/-! ## The operations -/

/-- What a request throws. -/
inductive Thrown where
  | value (error : Value)
  | outOfFuel

structure CachedInstallationToken where
  token : String
  expiresAt : Option Instant
  deriving DecidableEq, Repr

structure InstallationRepository where
  id : Nat
  fullName : String
  isPrivate : Bool
  installationId : String
  deriving DecidableEq, Repr

inductive Response where
  | synchronised
  | available (repositories : List InstallationRepository)
  | executed (result : Value)

inductive Op where
  /-- `new Date()` and `Date.now()`. -/
  | currentDate
  | findUser (userId : UserId)
  /-- A page of `orgs.listForAuthenticatedUser`, with the decrypted token. -/
  | listOrganizations (githubToken : String) (page : Nat)
  /-- A page of `apps.listInstallations`. -/
  | listInstallations (page : Nat)
  | upsertInstallation (githubInstallationId : String) (data : InstallationData)
  | upsertLink (userId : UserId) (installationId : Nat) (updated created : Instant)
  | deleteLinks (userId : UserId) (kept : List Nat)
  /-- The GitHub ids of the active installations that are linked to a user. -/
  | findActiveLinks (userId : UserId)
  /-- The token in memory, unless it is about to expire.  Before it is looked
  up it may be deleted; nothing else runs in between. -/
  | cachedToken (deleted : Bool) (installationId : String)
  | findActiveInstallation (installationId : String)
  /-- `tokenCache.delete`. -/
  | forget (installationId : String)
  /-- `apps.createInstallationAccessToken`; the id is sent as a number. -/
  | createInstallationAccessToken (installationId : String)
  /-- `tokenCache.set`. -/
  | remember (installationId : String) (cached : CachedInstallationToken)
  /-- A page of `apps.listReposAccessibleToInstallation`. -/
  | listRepositories (token : String) (page : Nat)
  /-- The operation that the caller wants to be run. -/
  | operate (token : String)
  /-- Which of two procedures of one request goes on. -/
  | turn
  | answer (result : Except Thrown Response)

def Op.Reply : Op -> Type
  | .currentDate => Instant
  | .findUser _ => Option GithubUser
  | .listOrganizations .. => List Organization
  | .listInstallations _ => List GithubInstallationPayload
  | .upsertInstallation .. => Nat
  | .findActiveLinks _ => List String
  | .cachedToken .. => Option String
  | .findActiveInstallation _ => Bool
  | .createInstallationAccessToken _ => CachedInstallationToken
  | .listRepositories .. => List Repository
  | .operate _ => Value
  | .turn => Bool
  | .upsertLink .. | .deleteLinks .. | .forget _ | .remember .. | .answer _ => Unit

abbrev Services : Interface := ⟨Op, Op.Reply, Thrown⟩

abbrev Service (α : Type) : Type := Program Services α

def perform (op : Op) : Service op.Reply := @Program.perform Services op

def fail {α : Type} (error : Value) : Service α := .fail (.value error)

/-! ## Errors -/

/-- An exception of the framework, with its body and its status. -/
def httpException (status : Nat) (response : Value) (message : String) : Value :=
  .object true none
    [(text "response", response), (text "status", .number (.finite status)),
      (text "message", .string (text message))] []

/-- The body of an exception that is given a message only. -/
def createBody (status : Nat) (error message : String) : Value :=
  .object false none
    [(text "message", .string (text message)), (text "error", .string (text error)),
      (text "statusCode", .number (.finite status))] []

def notFoundException (message : String) : Value :=
  httpException 404 (createBody 404 "Not Found" message) message

def forbiddenException (message : String) : Value :=
  httpException 403 (createBody 403 "Forbidden" message) message

/-- The response of a user without an active installation. -/
def installationRequired : Value :=
  let message := "Install or reconnect the GitHub App to access repositories"
  httpException 403
    (.object false none
      [(text "code", .string (text "GITHUB_APP_INSTALLATION_REQUIRED")),
        (text "message", .string (text message)),
        (text "installUrlEndpoint", .string (text "/github-app/installations/install-url"))] [])
    message

def thrownError : HttpError -> Value
  | .badRequest message => httpException 400 (createBody 400 "Bad Request" message) message
  | .unauthorized message => httpException 401 (createBody 401 "Unauthorized" message) message
  | .forbidden message => forbiddenException message
  | .prisma code => .object true none [(text "code", .string (text code))] []

/-- The exceptions of the framework carry their status as a property. -/
def isUnauthorized : Thrown -> Bool
  | .value error => decide (numericProperty error "status" = some (.finite 401))
  | .outOfFuel => false

/-- How the engine maps texts, and what a column of the database holds. -/
structure CaseMapping where
  toLowerCase : Text -> Text
  toUpperCase : Text -> Text
  loginToLowerCase : String -> String

/-! ## Pages -/

/-- The loop that asks for page after page until one is not full. -/
def listPages {α : Type} (list : Nat -> Service (List α)) : Nat -> Nat -> List α -> Service (List α)
  | 0, _, _ => .fail .outOfFuel
  | fuel + 1, page, listed => do
      let data <- list page
      if data.length < PER_PAGE then pure (listed ++ data)
      else listPages list fuel (page + 1) (listed ++ data)

/-! ## Synchronisation -/

section Synchronisation

variable (cases : CaseMapping)

def isAccessible (githubId : String) (organizations : List Organization)
    (installation : GithubInstallationPayload) : Bool :=
  match installation.account with
  | none => false
  | some account =>
      if account.type = "User" then toString account.id == githubId
      else (organizations.map fun organization =>
        cases.loginToLowerCase organization.login).contains (cases.loginToLowerCase account.login)

def ofExcept {α : Type} : Except HttpError α -> Service α
  | .ok value => pure value
  | .error error => fail (thrownError error)

/-- The loop over the installations, with the ids that it has stored so far. -/
def linkAccessible (userId : UserId) (githubId : String) (organizations : List Organization) :
    List GithubInstallationPayload -> List Nat -> Service (List Nat)
  | [], accessibleInstallationIds => pure accessibleInstallationIds
  | installation :: rest, accessibleInstallationIds =>
      if isAccessible cases githubId organizations installation = false then
        linkAccessible userId githubId organizations rest accessibleInstallationIds
      else do
        let data <- ofExcept (toInstallationData installation)
        let savedId : Nat <- perform (.upsertInstallation (toString installation.id) data)
        let updated : Instant <- perform .currentDate
        let created : Instant <- perform .currentDate
        let _ : Unit <- perform (.upsertLink userId savedId updated created)
        linkAccessible userId githubId organizations rest (accessibleInstallationIds ++ [savedId])

def syncUserInstallations (fuel : Nat) (userId : UserId) : Service Unit := do
  let found : Option GithubUser <- perform (.findUser userId)
  match found with
  | none => fail (notFoundException "User not found")
  | some user =>
      match user.githubToken with
      | none | some "" => fail (forbiddenException "GitHub OAuth token is missing")
      | some githubToken => do
          let organizations <-
            listPages (fun page => perform (.listOrganizations githubToken page)) fuel 1 []
          let rawInstallations <- listPages (fun page => perform (.listInstallations page)) fuel 1 []
          let accessibleInstallationIds <-
            linkAccessible cases userId user.githubId organizations rawInstallations []
          perform (.deleteLinks userId accessibleInstallationIds)

end Synchronisation

/-! ## Tokens -/

section Tokens

variable (cases : CaseMapping)

/-- `throw normalizeGithubRequestError(error)`. -/
def throwNormalized {α : Type} (error : Thrown) : Service α :=
  match error with
  | .value error => do
      let now : Instant <- perform .currentDate
      fail (normalizeGithubRequestError cases.toLowerCase cases.toUpperCase error
        (Date.ofMilliseconds now))
  | .outOfFuel => .fail .outOfFuel

/-- `getInstallationToken`, right after the token was deleted or not. -/
def getInstallationToken (deleted : Bool) (installationId : String) : Service String := do
  let cached : Option String <- perform (.cachedToken deleted installationId)
  match cached with
  | some token => pure token
  | none => do
      let isActive : Bool <- perform (.findActiveInstallation installationId)
      if isActive = false then do
        let _ : Unit <- perform (.forget installationId)
        fail (forbiddenException "GitHub App installation is deleted, suspended, or unavailable")
      else do
        let created : CachedInstallationToken <-
          perform (.createInstallationAccessToken installationId)
        let _ : Unit <- perform (.remember installationId created)
        pure created.token

/-- One try of an operation, with the token for it. -/
def executeOnce {α : Type} (deleted : Bool) (installationId : String)
    (operation : String -> Service α) : Service α := do
  let token <- getInstallationToken deleted installationId
  operation token

def executeWithRetry {α : Type} (installationId : String) (operation : String -> Service α) :
    Service α := do
  let tried : Except Thrown α <- Program.attempt (executeOnce false installationId operation)
  match tried with
  | .ok result => pure result
  | .error error =>
      if isUnauthorized error = false then throwNormalized cases error
      else do
        let retried : Except Thrown α <-
          Program.attempt (executeOnce true installationId operation)
        match retried with
        | .ok result => pure result
        | .error retryError => throwNormalized cases retryError

/-! ## Repositories -/

/-- A page of the repositories of an installation. -/
def listOfInstallation (installationId : String) (page : Nat) :
    Service (List InstallationRepository) :=
  executeWithRetry cases installationId fun token => do
    let repositories : List Repository <- perform (.listRepositories token page)
    pure (repositories.map fun repository =>
      ⟨repository.id, repository.full_name, repository.isPrivate, installationId⟩)

def getActiveRepoInstallations (userId : UserId) : Service (List String) := do
  let links : List String <- perform (.findActiveLinks userId)
  if links = [] then fail installationRequired else pure links

/-- `Map.set` by the id of the repository. -/
def setRepository (repositories : List InstallationRepository) (repository : InstallationRepository) :
    List InstallationRepository :=
  if (repositories.map fun other => other.id).contains repository.id then
    repositories.map fun other => if other.id = repository.id then repository else other
  else repositories ++ [repository]

def goesLeft : Services.Outcome Op.turn -> Bool
  | .ok left => left
  | .error _ => true

def getAvailableRepos (fuel : Nat) (userId : UserId) : Service (List InstallationRepository) := do
  let installations <- getActiveRepoInstallations userId
  let repositories <- @Program.all Services _ .turn goesLeft (installations.map fun installationId =>
    listPages (listOfInstallation cases installationId) fuel 1 [])
  pure (repositories.flatten.foldl setRepository [])

def executeForRepository (fuel : Nat) (userId : UserId) (githubRepoId : String) : Service Value := do
  let available <- getAvailableRepos cases fuel userId
  match available.find? fun repository => toString repository.id == githubRepoId with
  | none =>
      fail (forbiddenException
        "Repository is not accessible through an active GitHub App installation")
  | some repository =>
      executeWithRetry cases repository.installationId fun token => perform (.operate token)

end Tokens

/-! ## The machine -/

/-- A request ends with its response. -/
def respond {α : Type} (body : Service α) (response : α -> Response) : Service Unit := do
  let result : Except Thrown α <- Program.attempt body
  perform (.answer (result.map response))

inductive Entry where
  | synchronise (fuel : Nat) (userId : UserId)
  | availableRepos (fuel : Nat) (userId : UserId)
  | execute (fuel : Nat) (userId : UserId) (githubRepoId : String)
  deriving DecidableEq, Repr

def Entry.program (cases : CaseMapping) : Entry -> Service Unit
  | .synchronise fuel userId =>
      respond (syncUserInstallations cases fuel userId) fun _ => .synchronised
  | .availableRepos fuel userId => respond (getAvailableRepos cases fuel userId) .available
  | .execute fuel userId githubRepoId =>
      respond (executeForRepository cases fuel userId githubRepoId) .executed

/-- What the environment supplies to an operation. -/
structure Supply where
  generated : Nat
  links : List String
  created : CachedInstallationToken
  repositories : List Repository
  result : Value
  left : Bool

/-- How the environment resolves an operation: it succeeds, it takes effect
although its reply is lost, or it fails without an effect. -/
inductive Choice where
  | succeed (supply : Supply)
  | lose (supply : Supply) (error : Value)
  | fail (error : Value)

/-- The database, GitHub, the time and the tokens in memory.  GitHub also knows
which token it has issued for which installation. -/
structure World where
  store : Store
  github : Github
  clock : Instant
  tokenCache : String -> Option CachedInstallationToken
  issued : List (String × String)

namespace World

/-- A reply that changes nothing. -/
def read {α : Type} (world : World) (choice : Choice) (reply : Supply -> α) :
    Option (Except Thrown α × World) :=
  match choice with
  | .succeed supply => some (.ok (reply supply), world)
  | .lose _ error | .fail error => some (.error (.value error), world)

/-- An effect with its reply; one that is refused can only fail. -/
def write {α : Type} (world : World) (choice : Choice) (effect : Supply -> Option (α × World)) :
    Option (Except Thrown α × World) :=
  match choice with
  | .succeed supply => (effect supply).map fun done => (.ok done.1, done.2)
  | .lose supply error => (effect supply).map fun done => (.error (.value error), done.2)
  | .fail error => some (.error (.value error), world)

def REFRESH_BUFFER_MS : Int := 5 * 60 * 1000

/-- The token in memory, if it will not expire soon. -/
def lastingToken (world : World) (installationId : String) : Option String :=
  match world.tokenCache installationId with
  | some ⟨token, some expiresAt⟩ =>
      if world.clock < expiresAt - REFRESH_BUFFER_MS then some token else none
  | _ => none

def setToken (world : World) (installationId : String)
    (cached : Option CachedInstallationToken) : World :=
  { world with tokenCache := Function.update world.tokenCache installationId cached }

/-- The rows of a query come in any order. -/
def activeLinks (world : World) (userId : UserId) (order : List String) : List String :=
  let links := (world.store.linkedInstallations userId .ACTIVE).map fun row =>
    row.githubInstallationId
  if order.Perm links then order else links

def exec (op : Op) (choice : Choice) (world : World) :
    Option (Except Thrown op.Reply × World) :=
  match op with
  | .currentDate => some (.ok world.clock, world)
  | .findUser userId => world.read choice fun _ => world.store.users.find? userId
  | .listOrganizations githubToken page =>
      world.read choice fun _ => pageOf (world.github.organizations githubToken) page
  | .listInstallations page => world.read choice fun _ => pageOf world.github.installations page
  | .upsertInstallation githubInstallationId data =>
      world.write choice fun supply =>
        (world.store.upsertInstallation githubInstallationId data supply.generated).map fun done =>
          (done.1, { world with store := done.2 })
  | .upsertLink userId installationId updated created =>
      world.write choice fun _ =>
        (world.store.upsertLink userId installationId updated created).map fun store =>
          ((), { world with store := store })
  | .deleteLinks userId kept =>
      world.write choice fun _ => some ((), { world with store := world.store.deleteLinks userId kept })
  | .findActiveLinks userId => world.read choice fun supply => world.activeLinks userId supply.links
  | .cachedToken true installationId =>
      let world := world.setToken installationId none
      some (.ok (world.lastingToken installationId), world)
  | .cachedToken false installationId => some (.ok (world.lastingToken installationId), world)
  | .findActiveInstallation installationId =>
      world.read choice fun _ => world.store.installations.status? installationId == some .ACTIVE
  | .forget installationId => some (.ok (), world.setToken installationId none)
  | .createInstallationAccessToken installationId =>
      world.write choice fun supply =>
        some (supply.created,
          { world with issued := (installationId, supply.created.token) :: world.issued })
  | .remember installationId cached => some (.ok (), world.setToken installationId (some cached))
  | .listRepositories .. => world.read choice fun supply => supply.repositories
  | .operate _ => world.read choice fun supply => supply.result
  | .turn =>
      match choice with
      | .succeed supply => some (.ok supply.left, world)
      | .lose .. | .fail _ => none
  | .answer _ => some (.ok (), world)

end World

/-- What happens outside of the requests. -/
inductive Occurrence where
  | pass (milliseconds : Nat)
  /-- Something else writes to the database. -/
  | write (store : Store)
  /-- GitHub changes. -/
  | change (github : Github)

/-- Requests side by side in one instance of the service. -/
def installationAccess (cases : CaseMapping) : Machine Services where
  World := World
  Choice := Choice
  exec := World.exec
  Entry := Entry
  start := Entry.program cases
  Internal := Occurrence
  internal
    | .pass milliseconds, world => some { world with clock := world.clock + milliseconds }
    | .write store, world => some { world with store := store }
    | .change github, world => some { world with github := github }

end GitMate.GithubApp.Access
