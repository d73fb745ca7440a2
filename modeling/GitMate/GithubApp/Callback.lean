import GitMate.GithubApp.Installation
import GitMate.Library.System

namespace GitMate.GithubApp

open Relational Interleaving

/-!
# The install callback

A user starts an installation with a signed state whose id is stored for ten
minutes.  GitHub sends the browser back with that state; the callback reads
the stored state, asks GitHub about the installation and the user, and then
links the two in one transaction, which also marks the state as consumed.

The callback and the request for a state are programs over the database, the
clock and GitHub; any number of them runs side by side.
-/

/-! ## The database -/

structure GithubAppInstallState where
  id : String
  userId : UserId
  expiresAt : Instant
  consumedAt : Option Instant
  deriving DecidableEq, Repr

/-- The columns of a user that the callback reads. -/
structure GithubUser where
  id : UserId
  githubId : String
  username : String
  githubToken : Option String
  deriving DecidableEq, Repr

inductive GithubInstallationLinkSource where
  | INSTALL_CALLBACK | AUTO_DISCOVERY
  deriving DecidableEq, Repr

structure UserGithubInstallation where
  userId : UserId
  installationId : Nat
  source : GithubInstallationLinkSource
  membershipVerifiedAt : Instant
  deriving DecidableEq, Repr

/-- The primary key of a link. -/
def UserGithubInstallation.key (link : UserGithubInstallation) : UserId × Nat :=
  (link.userId, link.installationId)

structure Database where
  users : Table GithubUser.id
  installStates : Table GithubAppInstallState.id
  installations : Installations
  links : Table UserGithubInstallation.key

/-- A state with its user, as `findUnique` includes it; the foreign key
guarantees the user. -/
def Database.findInstallState (db : Database) (id : String) :
    Option (GithubAppInstallState × GithubUser) :=
  match db.installStates.find? id with
  | some installState => (db.users.find? installState.userId).map fun user => (installState, user)
  | none => none

def Database.createInstallState (db : Database) (id : String) (userId : UserId)
    (expiresAt : Instant) : Option Database :=
  (db.installStates.insert? ⟨id, userId, expiresAt, none⟩).map fun installStates =>
    { db with installStates := installStates }

/-- What the linking transaction is given. -/
structure LinkInput where
  stateId : String
  userId : UserId
  installationId : String
  data : InstallationData
  deriving DecidableEq, Repr

/-- Mark a state as consumed; `update` names it by its id alone. -/
def Database.consume (db : Database) (stateId : String) (now : Instant) :
    Table GithubAppInstallState.id :=
  db.installStates.updateMany (fun row => row.id == stateId)
    (fun row => { row with consumedAt := some now }) (fun _ => rfl)

/-- The transaction of `completeInstallation`.  It is rolled back if the state
is gone. -/
def Database.linkInstallation (db : Database) (input : LinkInput) (now : Instant)
    (generated : Nat) : Option Database :=
  let installations :=
    db.installations.upsertData input.installationId input.data generated
  match installations.find? input.installationId, db.installStates.find? input.stateId with
  | some saved, some _ =>
      some
        { db with
          installations := installations
          links := db.links.upsert ⟨input.userId, saved.id, .INSTALL_CALLBACK, now⟩
            (fun link => { link with source := .INSTALL_CALLBACK, membershipVerifiedAt := now })
            (fun _ => rfl)
          installStates := db.consume input.stateId now }
  | _, _ => none

/-! ## The operations -/

inductive Op where
  /-- `new Date()`. -/
  | currentDate
  | createInstallState (userId : UserId) (expiresAt : Instant)
  | findInstallState (id : String)
  /-- `apps.getInstallation`. -/
  | getInstallation (installationId : String)
  /-- `orgs.checkMembershipForUser`, with the decrypted token of the user. -/
  | checkMembershipForUser (org username : String)
  | linkInstallation (input : LinkInput)
  | upsertInstallation (installationId : String) (data : InstallationData)
  /-- The response to the request. -/
  | answer (result : Except HttpError String)
  deriving DecidableEq, Repr

def Op.Reply : Op -> Type
  | .currentDate => Instant
  | .createInstallState .. => String
  | .findInstallState _ => Option (GithubAppInstallState × GithubUser)
  | .getInstallation _ => GithubInstallationPayload
  | .checkMembershipForUser .. | .linkInstallation _ | .upsertInstallation .. | .answer _ => Unit

abbrev Services : Interface := ⟨Op, Op.Reply, HttpError⟩

abbrev Service (α : Type) : Type := Program Services α

def perform (op : Op) : Service op.Reply := @Program.perform Services op

def ofExcept {α : Type} : Except HttpError α -> Service α
  | .ok value => pure value
  | .error error => throw error

/-! ## The requests -/

/-- What `verifyState` learns from a signed token; the payload is missing if
the signature does not belong to it. -/
structure StateToken where
  payload : Option (UserId × String × String)
  exp : Instant
  deriving DecidableEq, Repr

structure GithubInstallationStatePayload where
  sub : UserId
  jti : String
  deriving DecidableEq, Repr

def invalidState : HttpError := .badRequest "Installation state is invalid or expired"

def verifyState (stateToken : StateToken) (now : Instant) :
    Except HttpError GithubInstallationStatePayload :=
  match stateToken.payload with
  | some (sub, jti, purpose) =>
      if stateToken.exp ≤ now ∨ purpose ≠ "github-app-install" ∨ jti = "" ∨ sub = 0 then
        .error invalidState
      else .ok ⟨sub, jti⟩
  | none => .error invalidState

/-- The check of the stored state. -/
def checkInstallState (state : GithubInstallationStatePayload)
    (found : Option (GithubAppInstallState × GithubUser)) (now : Instant) :
    Except HttpError (GithubAppInstallState × GithubUser) :=
  match found with
  | some (installState, user) =>
      if installState.userId ≠ state.sub ∨ installState.consumedAt.isSome = true ∨
          installState.expiresAt ≤ now then .error invalidState
      else .ok (installState, user)
  | none => .error invalidState

def fetchInstallation (installationId : String) : Service GithubInstallationPayload := do
  let fetched : Except HttpError GithubInstallationPayload <-
    Program.attempt (perform (.getInstallation installationId))
  match fetched with
  | .ok installation => pure installation
  | .error _ => throw (.badRequest "GitHub installation could not be verified")

def verifyUserAccess (user : GithubUser) (installation : GithubInstallationPayload) :
    Service Unit := do
  let account <- ofExcept (requireAccount installation)
  if account.type = "User" then
    if toString account.id ≠ user.githubId then
      throw (.forbidden "The installation does not belong to this GitHub user")
    else pure ()
  else if user.githubToken = none ∨ user.githubToken = some "" then
    throw (.forbidden "GitHub OAuth token is missing")
  else do
    let checked : Except HttpError Unit <-
      Program.attempt (perform (.checkMembershipForUser account.login user.username))
    match checked with
    | .ok _ => pure ()
    | .error _ => throw (.forbidden "The GitHub user is not a member of this organization")

/-- The address of the front end that the browser is sent to. -/
def redirectUrl (status installationId : String) : String :=
  "/repositories?status=" ++ status ++ "&installation_id=" ++ installationId

def completeInstallationUpdate (installationId : String) : Service String := do
  let installation <- fetchInstallation installationId
  let data <- ofExcept (toInstallationData installation)
  let _ : Unit <- perform (.upsertInstallation installationId data)
  pure (redirectUrl "updated" installationId)

/-- The part of `completeInstallation` that follows the check of the state. -/
def linkChecked (installationId : String) (installState : GithubAppInstallState)
    (user : GithubUser) : Service String := do
  let installation <- fetchInstallation installationId
  verifyUserAccess user installation
  let data <- ofExcept (toInstallationData installation)
  let _ : Unit <- perform
    (.linkInstallation ⟨installState.id, installState.userId, installationId, data⟩)
  pure (redirectUrl "installed" installationId)

def completeInstallation (installationId : String) (stateToken : Option StateToken)
    (setupAction : Option String) : Service String :=
  match stateToken with
  | none =>
      if setupAction ≠ some "update" then
        throw (.badRequest "Installation state is required for new installations")
      else completeInstallationUpdate installationId
  | some stateToken => do
      let verifiedAt : Instant <- perform .currentDate
      let state <- ofExcept (verifyState stateToken verifiedAt)
      let found : Option (GithubAppInstallState × GithubUser) <-
        perform (.findInstallState state.jti)
      let now : Instant <- perform .currentDate
      let checked <- ofExcept (checkInstallState state found now)
      linkChecked installationId checked.1 checked.2

/-- `createInstallUrl`; the answer stands for the URL with the signed state. -/
def createInstallUrl (userId : UserId) : Service String := do
  let now : Instant <- perform .currentDate
  let stateId : String <- perform (.createInstallState userId (now + 10 * 60 * 1000))
  pure ("/install?state=" ++ stateId)

/-- A request ends with its response. -/
def respond (body : Service String) : Service Unit := do
  let result : Except HttpError String <- Program.attempt body
  perform (.answer result)

/-! ## The machine -/

/-- How the environment resolves an operation: it succeeds with what GitHub
and the database supply, it takes effect although its reply is lost, or it
fails without an effect. -/
inductive Choice where
  | succeed (generated : Nat) (uuid : String) (report : GithubInstallationPayload)
  | lose (generated : Nat) (uuid : String) (error : HttpError)
  | fail (error : HttpError)
  deriving DecidableEq, Repr

structure World where
  db : Database
  clock : Instant

/-- An effect on the database with its reply, or an error if the database
refuses it. -/
def World.write {α : Type} (world : World) (choice : Choice)
    (effect : Nat -> String -> Option (α × Database)) :
    Except HttpError α × World :=
  match choice with
  | .succeed generated uuid _ =>
      match effect generated uuid with
      | some done => (.ok done.1, { world with db := done.2 })
      | none => (.error (.prisma "P2025"), world)
  | .lose generated uuid error =>
      match effect generated uuid with
      | some done => (.error error, { world with db := done.2 })
      | none => (.error error, world)
  | .fail error => (.error error, world)

/-- A reply that depends on the choice alone. -/
def World.read {α : Type} (world : World) (choice : Choice)
    (reply : GithubInstallationPayload -> α) : Except HttpError α × World :=
  match choice with
  | .succeed _ _ report => (.ok (reply report), world)
  | .lose _ _ error | .fail error => (.error error, world)

def World.exec (op : Op) (choice : Choice) (world : World) :
    Option (Except HttpError op.Reply × World) :=
  match op with
  | .currentDate => some (.ok world.clock, world)
  | .createInstallState userId expiresAt =>
      some (world.write choice fun _ uuid =>
        (world.db.createInstallState uuid userId expiresAt).map fun db => (uuid, db))
  | .findInstallState id => some (world.read choice fun _ => world.db.findInstallState id)
  | .getInstallation _ => some (world.read choice fun report => report)
  | .checkMembershipForUser .. => some (world.read choice fun _ => ())
  | .linkInstallation input =>
      some (world.write choice fun generated _ =>
        (world.db.linkInstallation input world.clock generated).map fun db => ((), db))
  | .upsertInstallation installationId data =>
      some (world.write choice fun generated _ => some ((), { world.db with
        installations := world.db.installations.upsertData installationId data generated }))
  | .answer _ => some (.ok (), world)

inductive Entry where
  | callback (installationId : String) (stateToken : Option StateToken)
      (setupAction : Option String)
  | installUrl (userId : UserId)
  deriving DecidableEq, Repr

def Entry.program : Entry -> Service Unit
  | .callback installationId stateToken setupAction =>
      respond (completeInstallation installationId stateToken setupAction)
  | .installUrl userId => respond (createInstallUrl userId)

/-- Callbacks and requests for states side by side; time passes on its own. -/
def githubApp : Machine Services where
  World := World
  Choice := Choice
  exec := World.exec
  Entry := Entry
  start := Entry.program
  Internal := Nat
  internal milliseconds world := some { world with clock := world.clock + milliseconds }

abbrev AppState : Type := githubApp.State
abbrev AppLabel : Type := githubApp.Label

end GitMate.GithubApp
