import GitMate.GithubApp.Installation

namespace GitMate.GithubApp

open Relational

/-!
# Webhooks

A webhook is accepted if its signature belongs to its body.  Deletion and
suspension update the row of the installation, if there is one; every other
action, of whichever of the three events, stores the reported state.  No
handler looks at what is stored before.
-/

structure GithubInstallationWebhookPayload where
  action : String
  installation : GithubInstallationPayload
  deriving DecidableEq, Repr

/-- What `handle` reads of a request. -/
structure WebhookRequest where
  rawBody : Option String
  signature : Option String
  event : Option String
  deriving DecidableEq, Repr

/-- The libraries and the secret behind a webhook. -/
structure WebhookConfig where
  /-- The hexadecimal HMAC of a body under the webhook secret. -/
  hexDigest : String -> String
  /-- `JSON.parse` of a body as a payload, whose installation may be missing. -/
  parseJson : String -> Option (String × Option GithubInstallationPayload)

/-- `parsePayload`; an empty action and the id zero count as missing. -/
def parsePayload (config : WebhookConfig) (rawBody : String) :
    Except HttpError GithubInstallationWebhookPayload :=
  match config.parseJson rawBody with
  | some (action, some installation) =>
      if action = "" ∨ installation.id = 0 then
        .error (.badRequest "Invalid GitHub webhook payload")
      else .ok ⟨action, installation⟩
  | _ => .error (.badRequest "Invalid GitHub webhook payload")

/-- `upsertInstallation`. -/
def upsertInstallation (generated : Nat) (installation : GithubInstallationPayload)
    (installations : Installations) : Except HttpError Installations := do
  let data <- toInstallationData installation
  pure (installations.upsertData (toString installation.id) data generated)

/-- `updateMany` of the row with an installation id. -/
def Installations.updateById (installations : Installations) (githubInstallationId : String)
    (change : InstallationData -> InstallationData) : Installations :=
  Table.updateMany installations (fun row => row.githubInstallationId == githubInstallationId)
    (fun row => { row with toInstallationData := change row.toInstallationData }) (fun _ => rfl)

/-- `handleInstallation`. -/
def handleInstallation (now : Instant) (generated : Nat)
    (payload : GithubInstallationWebhookPayload) (installations : Installations) :
    Except HttpError Installations :=
  if payload.action = "deleted" then
    .ok (installations.updateById (toString payload.installation.id) fun data =>
      { data with status := .DELETED, deletedAt := some now, suspendedAt := none })
  else if payload.action = "suspend" then
    .ok (installations.updateById (toString payload.installation.id) fun data =>
      { data with
        status := .SUSPENDED
        suspendedAt := some (payload.installation.suspended_at.getD now) })
  else upsertInstallation generated payload.installation installations

/-- The part of `handle` behind the parsing, by the name of the event. -/
def handleEvent (now : Instant) (generated : Nat) (event : String)
    (payload : GithubInstallationWebhookPayload) (installations : Installations) :
    Except HttpError Installations :=
  if event = "installation" then handleInstallation now generated payload installations
  else upsertInstallation generated payload.installation installations

/-- `GithubAppWebhookService.handle`. -/
def handle (config : WebhookConfig) (now : Instant) (generated : Nat) (request : WebhookRequest)
    (installations : Installations) : Except HttpError Installations :=
  match request.rawBody, request.signature, request.event with
  | some rawBody, some signature, some event =>
      if signature = "" ∨ event = "" then
        .error (.badRequest "Missing GitHub webhook headers or body")
      else if signature ≠ "sha256=" ++ config.hexDigest rawBody then
        .error (.unauthorized "Invalid GitHub webhook signature")
      else if event = "ping" then .ok installations
      else if event ≠ "installation" ∧ event ≠ "installation_repositories" ∧
          event ≠ "installation_target" then .ok installations
      else do
        let payload <- parsePayload config rawBody
        handleEvent now generated event payload installations
  | _, _, _ => .error (.badRequest "Missing GitHub webhook headers or body")

/-! ## Events as GitHub emits them -/

/-- An event of one of the three kinds that concern installations. -/
structure Emission where
  event : String
  payload : GithubInstallationWebhookPayload
  concerns : event = "installation" ∨ event = "installation_repositories" ∨
    event = "installation_target"
  deriving DecidableEq, Repr

/-- A signed request that carries an emission. -/
structure Carries (config : WebhookConfig) (request : WebhookRequest) (emission : Emission) :
    Prop where
  event : request.event = some emission.event
  body : Exists fun rawBody => request.rawBody = some rawBody ∧
    request.signature = some ("sha256=" ++ config.hexDigest rawBody) ∧
      parsePayload config rawBody = .ok emission.payload

/-- A signed request is handled by its event. -/
theorem Carries.handle_eq {config : WebhookConfig} {request : WebhookRequest} {emission : Emission}
    (carries : Carries config request emission) (now : Instant) (generated : Nat)
    (installations : Installations) :
    handle config now generated request installations =
      handleEvent now generated emission.event emission.payload installations := by
  rcases carries.body with ⟨rawBody, body, signature, parsed⟩
  have signed : ¬("sha256=" ++ config.hexDigest rawBody = "" ∨ emission.event = "") := by
    rintro (empty | empty)
    · have lengths := congrArg String.length empty
      rw [String.length_append] at lengths
      exact absurd lengths (by simp)
    · rcases emission.concerns with same | same | same <;> rw [same] at empty <;>
        exact absurd empty (by decide)
  have notPing : emission.event ≠ "ping" := by
    rcases emission.concerns with same | same | same <;> rw [same] <;> decide
  have concerned : ¬(emission.event ≠ "installation" ∧
      emission.event ≠ "installation_repositories" ∧ emission.event ≠ "installation_target") := by
    rintro ⟨first, second, third⟩
    rcases emission.concerns with same | same | same
    · exact first same
    · exact second same
    · exact third same
  unfold handle
  rw [body, signature, carries.event]
  simp only
  rw [if_neg signed, if_neg (not_not.mpr rfl), if_neg notPing, if_neg concerned, parsed]
  rfl

end GitMate.GithubApp
