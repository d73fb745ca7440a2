import GitMate.Library.Table
import GitMate.Ledger.Schema

namespace GitMate.GithubApp

open Relational

/-!
# Installations of the GitHub App

An installation is stored under the id that GitHub gives it.  The webhooks
and the install callback both write the state that GitHub reports as it is;
neither compares it with what is stored.
-/

structure GithubInstallationAccount where
  id : Nat
  login : String
  type : String
  deriving DecidableEq, Repr

/-- The installation as GitHub reports it; a time stamp counts as parsed. -/
structure GithubInstallationPayload where
  id : Nat
  account : Option GithubInstallationAccount
  repository_selection : String
  suspended_at : Option Instant
  created_at : Option Instant
  updated_at : Option Instant
  deriving DecidableEq, Repr

inductive GithubInstallationStatus where
  | ACTIVE | SUSPENDED | DELETED
  deriving DecidableEq, Repr

inductive GithubInstallationAccountType where
  | USER | ORGANIZATION
  deriving DecidableEq, Repr

/-- The columns that both writers set. -/
structure InstallationData where
  accountId : String
  accountLogin : String
  accountType : GithubInstallationAccountType
  repositorySelection : String
  status : GithubInstallationStatus
  suspendedAt : Option Instant
  deletedAt : Option Instant
  githubCreatedAt : Option Instant
  githubUpdatedAt : Option Instant
  deriving DecidableEq, Repr

structure GithubInstallation extends InstallationData where
  id : Nat
  githubInstallationId : String
  deriving DecidableEq, Repr

inductive HttpError where
  | badRequest (message : String)
  | unauthorized (message : String)
  | forbidden (message : String)
  /-- An error of the database client. -/
  | prisma (code : String)
  deriving DecidableEq, Repr

/-- `requireAccount`. -/
def requireAccount (installation : GithubInstallationPayload) :
    Except HttpError GithubInstallationAccount :=
  match installation.account with
  | some account => .ok account
  | none => .error (.badRequest "GitHub installation account is missing")

/-- `toInstallationData`, which is also the `data` of the webhook upsert. -/
def toInstallationData (installation : GithubInstallationPayload) :
    Except HttpError InstallationData := do
  let account <- requireAccount installation
  pure
    { accountId := toString account.id
      accountLogin := account.login
      accountType := if account.type = "Organization" then .ORGANIZATION else .USER
      repositorySelection := installation.repository_selection
      status := if installation.suspended_at.isSome then .SUSPENDED else .ACTIVE
      suspendedAt := installation.suspended_at
      deletedAt := none
      githubCreatedAt := installation.created_at
      githubUpdatedAt := installation.updated_at }

abbrev Installations : Type := Table GithubInstallation.githubInstallationId

/-- `githubInstallation.upsert`; `generated` is the id of a new row. -/
def Installations.upsertData (installations : Installations) (githubInstallationId : String)
    (data : InstallationData) (generated : Nat) : Installations :=
  Table.upsert installations ⟨data, generated, githubInstallationId⟩
    (fun row => { row with toInstallationData := data }) (fun _ => rfl)

/-- The stored status of an installation. -/
def Installations.status? (installations : Installations) (githubInstallationId : String) :
    Option GithubInstallationStatus :=
  (Table.find? installations githubInstallationId).map fun row => row.status

theorem Installations.status?_upsertData (installations : Installations)
    (githubInstallationId : String) (data : InstallationData) (generated : Nat) :
    (installations.upsertData githubInstallationId data generated).status? githubInstallationId =
      some data.status := by
  have found := @Table.find?_upsert_self GithubInstallation String
    GithubInstallation.githubInstallationId _ installations
    ⟨data, generated, githubInstallationId⟩ (fun row => { row with toInstallationData := data })
    (fun _ => rfl)
  rw [status?, upsertData]
  simp only at found
  rw [found]
  cases Table.find? installations githubInstallationId <;> rfl

/-- What the writers write is the reported status. -/
theorem toInstallationData_status {installation : GithubInstallationPayload}
    {data : InstallationData} (read : toInstallationData installation = .ok data) :
    data.status = if installation.suspended_at.isSome then .SUSPENDED else .ACTIVE := by
  unfold toInstallationData at read
  cases found : requireAccount installation with
  | error error => rw [found] at read; cases read
  | ok account =>
      rw [found] at read
      cases read
      rfl

end GitMate.GithubApp
