import GitMate.GithubApp.Webhook

namespace GitMate.GithubApp

open Relational

/-!
# Webhooks in the order of their delivery

GitHub emits the events of an installation in one order and delivers them in
another, some of them more than once.  The handlers keep no version, so what
is stored is the state of the event that was delivered last, whichever event
was emitted last.  A deletion that is overtaken by an older event is therefore
forgotten.
-/

/-- The status that GitHub's installation has when an event is emitted. -/
def impliedStatus (emission : Emission) : GithubInstallationStatus :=
  if emission.event = "installation" ∧ emission.payload.action = "deleted" then .DELETED
  else if emission.event = "installation" ∧ emission.payload.action = "suspend" then .SUSPENDED
  else if emission.payload.installation.suspended_at.isSome then .SUSPENDED else .ACTIVE

/-- The first event of every installation. -/
def IsCreation (emission : Emission) : Prop :=
  emission.event = "installation" ∧ emission.payload.action = "created"

def IsDeletion (emission : Emission) : Prop :=
  emission.event = "installation" ∧ emission.payload.action = "deleted"

/-- The events of one installation as GitHub emitted them, from its creation
to its deletion, if it has been deleted. -/
structure Emitted (installationId : Nat) (first : Emission) (others : List Emission) : Prop where
  named : forall emission, emission ∈ first :: others ->
    emission.payload.installation.id = installationId
  created : IsCreation first
  deletedLast : forall front emission rest, first :: others = front ++ emission :: rest ->
    IsDeletion emission -> rest = []

/-- A signed request that carries an emission, and when it is handled. -/
structure Delivery (config : WebhookConfig) where
  emission : Emission
  request : WebhookRequest
  now : Instant
  generated : Nat
  carries : Carries config request emission

/-- Handle the deliveries one after the other. -/
def handleAll {config : WebhookConfig} :
    List (Delivery config) -> Installations -> Except HttpError Installations
  | [], installations => .ok installations
  | delivery :: rest, installations => do
      let handled <- handle config delivery.now delivery.generated delivery.request installations
      handleAll rest handled

section Handling

variable {config : WebhookConfig} {installations after : Installations}

/-- Handling a sequence is handling its parts. -/
theorem handleAll_append {front back : List (Delivery config)}
    (handled : handleAll (front ++ back) installations = .ok after) :
    Exists fun middle => handleAll front installations = .ok middle ∧
      handleAll back middle = .ok after := by
  induction front generalizing installations with
  | nil => exact ⟨installations, rfl, handled⟩
  | cons delivery rest inductionHypothesis =>
      rw [List.cons_append, handleAll] at handled
      rw [handleAll]
      cases first : handle config delivery.now delivery.generated delivery.request installations with
      | error error => rw [first] at handled; cases handled
      | ok next =>
          rw [first] at handled
          exact inductionHypothesis handled

theorem status?_updateById (githubInstallationId : String)
    (change : InstallationData -> InstallationData) :
    (installations.updateById githubInstallationId change).status? githubInstallationId =
      (Table.find? installations githubInstallationId).map fun row =>
        (change row.toInstallationData).status := by
  unfold Installations.status? Installations.updateById
  rw [Table.find?_updateMany]
  cases found : Table.find? installations githubInstallationId with
  | none => rfl
  | some row =>
      have same : (row.githubInstallationId == githubInstallationId) = true :=
        beq_iff_eq.mpr (Table.key_of_find? found)
      simp only [Option.map_some, same, if_true]

/-- What one delivery does to the stored status: deletion and suspension
change a row that is there, everything else stores the reported status. -/
theorem handle_status {delivery : Delivery config}
    (handled : handle config delivery.now delivery.generated delivery.request installations =
      .ok after) :
    after.status? (toString delivery.emission.payload.installation.id) =
        some (impliedStatus delivery.emission) ∨
      ¬IsCreation delivery.emission ∧
        installations.status? (toString delivery.emission.payload.installation.id) = none := by
  rw [delivery.carries.handle_eq] at handled
  generalize delivery.emission = emission at handled ⊢
  have upserted : forall {data}, toInstallationData emission.payload.installation = .ok data ->
      impliedStatus emission = (if emission.payload.installation.suspended_at.isSome then
        .SUSPENDED else .ACTIVE) ->
      after = installations.upsertData (toString emission.payload.installation.id) data
        delivery.generated ->
      after.status? (toString emission.payload.installation.id) =
        some (impliedStatus emission) := by
    intro data read implied same
    rw [same, Installations.status?_upsertData, toInstallationData_status read, implied]
  have upserts : upsertInstallation delivery.generated emission.payload.installation installations =
      .ok after -> Exists fun data => toInstallationData emission.payload.installation = .ok data ∧
        after = installations.upsertData (toString emission.payload.installation.id) data
          delivery.generated := by
    intro done
    unfold upsertInstallation at done
    cases read : toInstallationData emission.payload.installation with
    | error error => rw [read] at done; cases done
    | ok data =>
        rw [read] at done
        cases done
        exact ⟨data, rfl, rfl⟩
  -- An update finds the row or leaves the table as it is.
  have updated : forall {change : InstallationData -> InstallationData},
      (forall data, (change data).status = impliedStatus emission) -> ¬IsCreation emission ->
      after = installations.updateById (toString emission.payload.installation.id) change ->
      after.status? (toString emission.payload.installation.id) = some (impliedStatus emission) ∨
        ¬IsCreation emission ∧
          installations.status? (toString emission.payload.installation.id) = none := by
    intro change implied notCreation same
    rw [same, status?_updateById]
    unfold Installations.status?
    cases found : Table.find? installations (toString emission.payload.installation.id) with
    | none => exact Or.inr ⟨notCreation, rfl⟩
    | some row => exact Or.inl (congrArg some (implied row.toInstallationData))
  unfold handleEvent at handled
  by_cases installation : emission.event = "installation"
  · rw [if_pos installation, handleInstallation] at handled
    by_cases deleted : emission.payload.action = "deleted"
    · rw [if_pos deleted] at handled
      cases handled
      refine updated (fun data => ?_) (fun creation => ?_) rfl
      · rw [impliedStatus, if_pos ⟨installation, deleted⟩]
      · rw [creation.2] at deleted
        exact absurd deleted (by decide)
    · rw [if_neg deleted] at handled
      by_cases suspended : emission.payload.action = "suspend"
      · rw [if_pos suspended] at handled
        cases handled
        refine updated (fun data => ?_) (fun creation => ?_) rfl
        · rw [impliedStatus, if_neg (fun both => deleted both.2), if_pos ⟨installation, suspended⟩]
        · rw [creation.2] at suspended
          exact absurd suspended (by decide)
      · rw [if_neg suspended] at handled
        rcases upserts handled with ⟨data, read, same⟩
        refine Or.inl (upserted read ?_ same)
        rw [impliedStatus, if_neg (fun both => deleted both.2),
          if_neg (fun both => suspended both.2)]
  · rw [if_neg installation] at handled
    rcases upserts handled with ⟨data, read, same⟩
    refine Or.inl (upserted read ?_ same)
    rw [impliedStatus, if_neg (fun both => installation both.1),
      if_neg (fun both => installation both.1)]

/-- A stored installation stays stored. -/
theorem handleAll_stored {installationId : Nat} {deliveries : List (Delivery config)}
    (named : forall delivery, delivery ∈ deliveries ->
      delivery.emission.payload.installation.id = installationId)
    (handled : handleAll deliveries installations = .ok after)
    (stored : (installations.status? (toString installationId)).isSome = true ∨
      Exists fun delivery => delivery ∈ deliveries ∧ IsCreation delivery.emission) :
    (after.status? (toString installationId)).isSome = true := by
  induction deliveries generalizing installations with
  | nil =>
      cases handled
      rcases stored with here | ⟨delivery, member, _⟩
      · exact here
      · exact absurd member List.not_mem_nil
  | cons delivery rest inductionHypothesis =>
      rw [handleAll] at handled
      cases first : handle config delivery.now delivery.generated delivery.request installations with
      | error error => rw [first] at handled; cases handled
      | ok next =>
          rw [first] at handled
          have restNamed := fun other member => named other (List.mem_cons_of_mem delivery member)
          refine inductionHypothesis restNamed handled ?_
          have status := handle_status first
          rw [named delivery List.mem_cons_self] at status
          rcases status with implied | ⟨notCreation, missing⟩
          · exact Or.inl (by rw [implied]; rfl)
          · rcases stored with here | ⟨created, member, creation⟩
            · rw [missing] at here
              cases here
            · rcases List.mem_cons.mp member with same | later
              · exact absurd (same ▸ creation) notCreation
              · exact Or.inr ⟨created, later, creation⟩

end Handling

/-- The event that GitHub emitted last. -/
def lastEmitted (first : Emission) (others : List Emission) : Emission :=
  others.getLastD first

/-- Once every emitted event has been delivered, in whatever order and however
often, the stored status is the one of the event that was delivered last.  It
is the one of the event that was emitted last exactly if the two imply the
same status. -/
theorem webhooks_store_last_delivery (config : WebhookConfig) (installationId : Nat)
    (first : Emission) (others : List Emission) (emitted : Emitted installationId first others)
    (front : List (Delivery config)) (last : Delivery config)
    (known : forall delivery, delivery ∈ front ++ [last] -> delivery.emission ∈ first :: others)
    (complete : forall emission, emission ∈ first :: others ->
      Exists fun delivery => delivery ∈ front ++ [last] ∧ delivery.emission = emission)
    (before after : Installations) (handled : handleAll (front ++ [last]) before = .ok after) :
    after.status? (toString installationId) = some (impliedStatus last.emission) ∧
      (after.status? (toString installationId) = some (impliedStatus (lastEmitted first others)) ↔
        impliedStatus last.emission = impliedStatus (lastEmitted first others)) := by
  have named : forall delivery, delivery ∈ front ++ [last] ->
      delivery.emission.payload.installation.id = installationId :=
    fun delivery member => emitted.named _ (known delivery member)
  have lastMember : last ∈ front ++ [last] := List.mem_append_right _ List.mem_cons_self
  have stored : after.status? (toString installationId) = some (impliedStatus last.emission) := by
    rcases handleAll_append handled with ⟨middle, earlier, final⟩
    rw [handleAll] at final
    cases handledLast : handle config last.now last.generated last.request middle with
    | error error => rw [handledLast] at final; cases final
    | ok stored =>
        rw [handledLast] at final
        cases final
        have status := handle_status handledLast
        rw [named last lastMember] at status
        rcases status with implied | ⟨notCreation, missing⟩
        · exact implied
        · rcases complete first List.mem_cons_self with ⟨creator, member, same⟩
          have creation : IsCreation creator.emission := same ▸ emitted.created
          rcases List.mem_append.mp member with inFront | isLast
          · have there := handleAll_stored
              (fun delivery among => named delivery (List.mem_append_left _ among)) earlier
                (Or.inr ⟨creator, inFront, creation⟩)
            rw [missing] at there
            cases there
          · rw [List.mem_singleton.mp isLast] at creation
            exact absurd creation notCreation
  refine ⟨stored, ?_⟩
  rw [stored]
  exact ⟨Option.some.inj, congrArg some⟩

/-! ## A deletion that is overtaken -/

/-- The installation of an organization, as GitHub reports it. -/
def acmeInstallation : GithubInstallationPayload :=
  ⟨101, some ⟨7, "acme", "Organization"⟩, "all", none, none, none⟩

/-- The body of a webhook about it. -/
def acmeBody (action : String) : String :=
  "\x7b\"action\":\"" ++ action ++ "\",\"installation\":\x7b\"id\":101," ++
    "\"account\":\x7b\"id\":7,\"login\":\"acme\",\"type\":\"Organization\"\x7d," ++
    "\"repository_selection\":\"all\",\"suspended_at\":null," ++
    "\"created_at\":null,\"updated_at\":null\x7d\x7d"

/-- The digests of the two bodies below under the secret `secret`. -/
def acmeConfig : WebhookConfig where
  hexDigest body :=
    if body = acmeBody "created" then
      "c96cefdd3a5ec46e97156860e595a2b92a4aa6732fdeb5a8c2792a64a3354872"
    else if body = acmeBody "deleted" then
      "5ee413fefb474e079e3516c21fcdfc28b205c476bd300adc1cb3a12895f9683a"
    else ""
  parseJson body :=
    if body = acmeBody "created" then some ("created", some acmeInstallation)
    else if body = acmeBody "deleted" then some ("deleted", some acmeInstallation)
    else none

def acmeEmission (action : String) : Emission :=
  ⟨"installation", ⟨action, acmeInstallation⟩, Or.inl rfl⟩

def acmeRequest (action : String) : WebhookRequest :=
  ⟨some (acmeBody action), some ("sha256=" ++ acmeConfig.hexDigest (acmeBody action)),
    some "installation"⟩

def createdDelivery (now : Instant) : Delivery acmeConfig :=
  ⟨acmeEmission "created", acmeRequest "created", now, 1,
    ⟨rfl, _, rfl, rfl, by decide +kernel⟩⟩

def deletedDelivery (now : Instant) : Delivery acmeConfig :=
  ⟨acmeEmission "deleted", acmeRequest "deleted", now, 1,
    ⟨rfl, _, rfl, rfl, by decide +kernel⟩⟩

theorem acme_emitted : Emitted 101 (acmeEmission "created") [acmeEmission "deleted"] where
  named := by decide
  created := ⟨rfl, rfl⟩
  deletedLast := by
    intro front emission rest split deletion
    cases front with
    | nil =>
        cases split
        exact absurd deletion.2 (by decide)
    | cons head front =>
        cases front with
        | nil =>
            cases split
            rfl
        | cons next front =>
            have lengths := congrArg List.length split
            simp only [List.length_cons, List.length_append, List.length_nil] at lengths
            omega

/-- The final table of deliveries, or the first one if a delivery fails. -/
def tableAfter (deliveries : List (Delivery acmeConfig)) : Installations :=
  match handleAll deliveries Table.empty with
  | .ok installations => installations
  | .error _ => Table.empty

theorem handleAll_tableAfter {deliveries : List (Delivery acmeConfig)}
    (handled : (handleAll deliveries Table.empty).isOk = true) :
    handleAll deliveries Table.empty = .ok (tableAfter deliveries) := by
  unfold tableAfter
  cases done : handleAll deliveries Table.empty with
  | ok installations => rfl
  | error error => rw [done] at handled; cases handled

theorem webhooks_store_last_delivery_deleted :
    (tableAfter [createdDelivery 10, deletedDelivery 20]).status? (toString 101) =
      some .DELETED :=
  (webhooks_store_last_delivery acmeConfig 101 (acmeEmission "created") [acmeEmission "deleted"]
    acme_emitted [createdDelivery 10] (deletedDelivery 20) (by decide) (by decide) Table.empty
      (tableAfter [createdDelivery 10, deletedDelivery 20])
        (handleAll_tableAfter (by decide +kernel))).1

/-- A redelivery of the creation revives an installation that GitHub has
deleted. -/
theorem redelivered_creation_revives :
    Emitted 101 (acmeEmission "created") [acmeEmission "deleted"] ∧
    handleAll [createdDelivery 10, deletedDelivery 20, createdDelivery 30] Table.empty =
      .ok (tableAfter [createdDelivery 10, deletedDelivery 20, createdDelivery 30]) ∧
    (tableAfter [createdDelivery 10, deletedDelivery 20, createdDelivery 30]).status?
      (toString 101) = some .ACTIVE ∧
    impliedStatus (lastEmitted (acmeEmission "created") [acmeEmission "deleted"]) = .DELETED :=
  ⟨acme_emitted, handleAll_tableAfter (by decide +kernel), by decide +kernel, by decide⟩

end GitMate.GithubApp
