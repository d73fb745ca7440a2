import GitMate.GithubApp.Callback

namespace GitMate.GithubApp

open Relational Interleaving Machine

/-!
# Who consumes an installation state

A callback reads the stored state, refuses it if it has been consumed, and
much later marks it as consumed, by its id alone.  Two callbacks that have
both read the state before either has marked it therefore both link an
installation.  As long as every callback finds the stored state as it has read
it when it comes to link, a state is consumed once, and every other callback
that carries it fails and changes nothing.
-/

/-! ## What a request does

A request with a signed state asks for that state only, links for it only
after it has seen the state unconsumed, and succeeds only after linking. -/

/-- The id of the stored state that a request carries. -/
def Entry.stateId : Entry -> Option String
  | .callback _ (some stateToken) _ => stateToken.payload.map fun payload => payload.2.1
  | .callback _ none _ | .installUrl _ => none

/-- Every answer about a stored state has shown the state of that id, and
unconsumed. -/
def SeenUnconsumed (past : History Services) (stateId : String) : Prop :=
  forall id (outcome : Except HttpError (Option (GithubAppInstallState × GithubUser))),
    (⟨.findInstallState id, outcome⟩ : Event Services) ∈ past ->
      id = stateId ∧ forall row user, outcome = .ok (some (row, user)) -> row.consumedAt = none

def Linked (past : History Services) (stateId : String) : Prop :=
  Exists fun input : LinkInput => input.stateId = stateId ∧
    (⟨.linkInstallation input, .ok ()⟩ : Event Services) ∈ past

/-- What a request may do next, by the state it carries. -/
def Op.Permitted (own : Option String) (past : History Services) : Op -> Prop
  | .currentDate | .getInstallation _ | .checkMembershipForUser .. => True
  | .createInstallState .. | .upsertInstallation .. => own = none
  | .findInstallState id => own = some id
  | .linkInstallation input => own = some input.stateId ∧ SeenUnconsumed past input.stateId
  | .answer (.ok _) => forall stateId, own = some stateId -> Linked past stateId
  | .answer (.error _) => True

/-- A stored state is found under its id. -/
def Op.Credible : (op : Op) -> Except HttpError op.Reply -> Prop
  | .findInstallState id, outcome =>
      forall row user, outcome = .ok (some (row, user)) -> row.id = id
  | _, _ => True

def requestDiscipline (entry : Entry) : Discipline Services where
  Permits := Op.Permitted entry.stateId
  Credible := Op.Credible

theorem Database.findInstallState_spec {db : Database} {id : String}
    {row : GithubAppInstallState} {user : GithubUser}
    (found : db.findInstallState id = some (row, user)) :
    row.id = id ∧ db.installStates.find? id = some row := by
  unfold findInstallState at found
  split at found
  · rename_i stored there
    rcases Option.map_eq_some_iff.mp found with ⟨owner, _, same⟩
    cases same
    exact ⟨Table.key_of_find? there, there⟩
  · cases found

theorem World.exec_credible {op : Op} {choice : Choice} {world later : World}
    {outcome : Except HttpError op.Reply} (executed : world.exec op choice = some (outcome, later)) :
    op.Credible outcome := by
  cases op with
  | findInstallState id =>
      intro row user same
      subst same
      cases choice with
      | succeed generated uuid report =>
          simp only [World.exec, World.read, Option.some.injEq, Prod.mk.injEq] at executed
          exact (Database.findInstallState_spec (Except.ok.inj executed.1)).1
      | lose | fail => cases executed
  | _ => trivial

section Requests

variable {entry : Entry} {past : History Services}

abbrev Serves (entry : Entry) {α : Type} (ends : Services.Post α) (past : History Services)
    (program : Service α) : Prop :=
  Program.Obeys (requestDiscipline entry) ends past program

theorem serves_perform {op : Op} (permitted : op.Permitted entry.stateId past) :
    Serves entry (fun later ending => later = past ++ [⟨op, ending⟩] ∧ op.Credible ending) past
      (perform op) :=
  Program.obeys_perform permitted

theorem serves_ofExcept {α : Type} (checked : Except HttpError α) :
    Serves entry (fun later ending => later = past ∧ ending = checked) past (ofExcept checked) := by
  cases checked with
  | ok value => exact ⟨rfl, rfl⟩
  | error error => exact ⟨rfl, rfl⟩

theorem SeenUnconsumed.append {stateId : String} {op : Op} {outcome : Except HttpError op.Reply}
    (seen : SeenUnconsumed past stateId) (other : forall id, op ≠ .findInstallState id) :
    SeenUnconsumed (past ++ [⟨op, outcome⟩]) stateId := by
  intro id found member
  rcases List.mem_append.mp member with before | now
  · exact seen id found before
  · cases List.mem_singleton.mp now
    exact absurd rfl (other id)

/-- What holds after any reply of GitHub holds after the fetch. -/
theorem fetchInstallation_serves {keeps : History Services -> Prop} {installationId : String}
    (kept : forall outcome, keeps (past ++ [⟨.getInstallation installationId, outcome⟩])) :
    Serves entry (fun later _ => keeps later) past (fetchInstallation installationId) := by
  refine Program.Obeys.bind (Program.Obeys.attempt (serves_perform trivial))
    (fun later fetched _ performed => ?_) (fun later error _ performed => ?_)
  · rcases performed with ⟨outcome, same, rfl, _⟩
    cases fetched <;> exact kept outcome
  · rcases performed with ⟨outcome, same, _⟩
    cases same

theorem verifyUserAccess_serves {stateId : String} (user : GithubUser)
    (installation : GithubInstallationPayload) (seen : SeenUnconsumed past stateId) :
    Serves entry (fun later _ => SeenUnconsumed later stateId) past
      (verifyUserAccess user installation) := by
  refine Program.Obeys.bind (serves_ofExcept _) (fun later account _ read => ?_)
    (fun later error _ read => read.1 ▸ seen)
  rw [read.1]
  split
  · split <;> exact seen
  · split
    · exact seen
    · refine Program.Obeys.bind (Program.Obeys.attempt (serves_perform trivial))
        (fun later checked _ performed => ?_) (fun later error _ performed => ?_)
      · rcases performed with ⟨outcome, same, rfl, _⟩
        have still := @SeenUnconsumed.append past stateId
          (.checkMembershipForUser account.login user.username) outcome seen
          (fun id same => by cases same)
        cases checked <;> exact still
      · rcases performed with ⟨outcome, same, _⟩
        cases same

/-- How a request ends: it succeeds only after linking for its state. -/
def Ends (own : Option String) (later : History Services) : Except HttpError String -> Prop
  | .ok _ => forall stateId, own = some stateId -> Linked later stateId
  | .error _ => True

theorem linkChecked_serves {installState : GithubAppInstallState} (installationId : String)
    (user : GithubUser) (own : entry.stateId = some installState.id)
    (seen : SeenUnconsumed past installState.id) :
    Serves entry (Ends entry.stateId) past (linkChecked installationId installState user) := by
  have fetches : Serves entry (fun later _ => SeenUnconsumed later installState.id) past
      (fetchInstallation installationId) :=
    fetchInstallation_serves fun outcome => seen.append fun id same => by cases same
  refine fetches.bind (fun later installation _ fetched => ?_) (fun _ _ _ _ => trivial)
  refine (verifyUserAccess_serves user installation fetched).bind (fun later _ _ verified => ?_)
    (fun _ _ _ _ => trivial)
  refine Program.Obeys.bind (serves_ofExcept _) (fun later data _ read => ?_)
    (fun _ _ _ _ => trivial)
  rw [read.1]
  refine Program.Obeys.bind (serves_perform ⟨own, verified⟩) (fun later _ _ performed => ?_)
    (fun _ _ _ _ => trivial)
  intro stateId carried
  refine ⟨⟨installState.id, installState.userId, installationId, data⟩,
    Option.some.inj (own.symm.trans carried), ?_⟩
  rw [performed.1]
  exact List.mem_append_right _ List.mem_cons_self

theorem checkInstallState_ok {state : GithubInstallationStatePayload}
    {found : Option (GithubAppInstallState × GithubUser)} {now : Instant}
    {checked : GithubAppInstallState × GithubUser}
    (passed : checkInstallState state found now = .ok checked) :
    found = some checked ∧ checked.1.consumedAt = none := by
  unfold checkInstallState at passed
  split at passed
  · split at passed
    · cases passed
    · rename_i installState user valid
      cases passed
      simp only [not_or, Bool.not_eq_true, Option.isSome_eq_false_iff,
        Option.isNone_iff_eq_none] at valid
      exact ⟨rfl, valid.2.1⟩
  · cases passed

theorem verifyState_ok {stateToken : StateToken} {now : Instant}
    {state : GithubInstallationStatePayload} (passed : verifyState stateToken now = .ok state) :
    stateToken.payload.map (fun payload => payload.2.1) = some state.jti := by
  unfold verifyState at passed
  split at passed
  · rename_i payload
    split at passed
    · cases passed
    · cases passed
      rw [payload]
      rfl
  · cases passed

theorem completeInstallationUpdate_serves (installationId : String)
    (own : entry.stateId = none) :
    Serves entry (Ends entry.stateId) past (completeInstallationUpdate installationId) := by
  have fetches : Serves entry (fun _ _ => True) past (fetchInstallation installationId) :=
    fetchInstallation_serves fun outcome => trivial
  refine fetches.bind (fun later installation _ _ => ?_) (fun _ _ _ _ => trivial)
  refine Program.Obeys.bind (serves_ofExcept _) (fun later data _ _ => ?_) (fun _ _ _ _ => trivial)
  refine Program.Obeys.bind (serves_perform own) (fun later _ _ _ => ?_) (fun _ _ _ _ => trivial)
  intro stateId carried
  rw [own] at carried
  cases carried

theorem completeInstallation_serves (installationId : String) (stateToken : Option StateToken)
    (setupAction : Option String) :
    Serves (.callback installationId stateToken setupAction)
      (Ends (Entry.stateId (.callback installationId stateToken setupAction))) []
      (completeInstallation installationId stateToken setupAction) := by
  cases stateToken with
  | none =>
      by_cases fresh : setupAction ≠ some "update"
      · rw [completeInstallation, if_pos fresh]
        trivial
      · rw [completeInstallation, if_neg fresh]
        exact @completeInstallationUpdate_serves (.callback installationId none setupAction) []
          installationId rfl
  | some stateToken =>
      refine Program.Obeys.bind (serves_perform trivial) (fun later verifiedAt _ read => ?_)
        (fun _ _ _ _ => trivial)
      refine Program.Obeys.bind (serves_ofExcept _) (fun later state _ verified => ?_)
        (fun _ _ _ _ => trivial)
      rw [verified.1, read.1]
      have own := verifyState_ok verified.2.symm
      refine Program.Obeys.bind (serves_perform own) (fun later found _ asked => ?_)
        (fun _ _ _ _ => trivial)
      rw [asked.1]
      refine Program.Obeys.bind (serves_perform trivial) (fun later now _ dated => ?_)
        (fun _ _ _ _ => trivial)
      refine Program.Obeys.bind (serves_ofExcept _) (fun later checked _ passed => ?_)
        (fun _ _ _ _ => trivial)
      rw [passed.1, dated.1]
      rcases checkInstallState_ok passed.2.symm with ⟨same, unconsumed⟩
      have named : checked.1.id = state.jti := asked.2 checked.1 checked.2 (congrArg Except.ok same)
      refine linkChecked_serves installationId checked.2 (own.trans (congrArg some named.symm)) ?_
      intro id outcome member
      simp only [List.nil_append, List.cons_append, List.mem_cons, List.not_mem_nil,
        or_false] at member
      rcases member with first | second | third
      · cases first
      · cases second
        refine ⟨named.symm, fun row user shown => ?_⟩
        rw [same] at shown
        cases shown
        exact unconsumed
      · cases third

theorem createInstallUrl_serves (userId : UserId) :
    Serves (.installUrl userId) (Ends (Entry.stateId (.installUrl userId))) []
      (createInstallUrl userId) := by
  refine Program.Obeys.bind (serves_perform trivial) (fun later now _ _ => ?_)
    (fun _ _ _ _ => trivial)
  refine Program.Obeys.bind (serves_perform rfl) (fun later stateId _ _ => ?_)
    (fun _ _ _ _ => trivial)
  intro own carried
  cases carried

theorem respond_serves {body : Service String} (serves : Serves entry (Ends entry.stateId) past body) :
    Serves entry (fun _ _ => True) past (respond body) := by
  refine Program.Obeys.bind (Program.Obeys.attempt serves) (fun later result _ ended => ?_)
    (fun _ _ _ _ => trivial)
  rcases ended with ⟨ending, same, reached⟩
  cases same
  refine (serves_perform ?_).mono fun _ _ _ _ => trivial
  cases result with
  | ok url => exact reached
  | error error => trivial

/-- Every request keeps its discipline. -/
theorem entry_serves (entry : Entry) : Serves entry (fun _ _ => True) [] entry.program := by
  cases entry with
  | callback installationId stateToken setupAction =>
      exact respond_serves (completeInstallation_serves installationId stateToken setupAction)
  | installUrl userId => exact respond_serves (createInstallUrl_serves userId)

end Requests
/-! ## What a step does to the stored states -/

/-- The database of a state of the machine. -/
def AppState.db (state : AppState) : Database :=
  let world : World := state.world
  world.db

/-- A write takes effect or leaves the world as it is. -/
theorem World.write_spec {α : Type} {world later : World} {choice : Choice}
    {effect : Nat -> String -> Option (α × Database)} {outcome : Except HttpError α}
    (wrote : world.write choice effect = (outcome, later)) :
    later = world ∧ (forall reply, outcome ≠ .ok reply) ∨
      Exists fun generated => Exists fun uuid => Exists fun done =>
        effect generated uuid = some done ∧ later = { world with db := done.2 } := by
  unfold write at wrote
  cases choice with
  | succeed generated uuid report =>
      simp only at wrote
      cases took : effect generated uuid with
      | some done =>
          rw [took] at wrote
          cases wrote
          exact Or.inr ⟨generated, uuid, done, took, rfl⟩
      | none =>
          rw [took] at wrote
          cases wrote
          exact Or.inl ⟨rfl, fun reply same => by cases same⟩
  | lose generated uuid error =>
      simp only at wrote
      cases took : effect generated uuid with
      | some done =>
          rw [took] at wrote
          cases wrote
          exact Or.inr ⟨generated, uuid, done, took, rfl⟩
      | none =>
          rw [took] at wrote
          cases wrote
          exact Or.inl ⟨rfl, fun reply same => by cases same⟩
  | fail error =>
      cases wrote
      exact Or.inl ⟨rfl, fun reply same => by cases same⟩

/-- The linking transaction commits. -/
def World.commits (world : World) (choice : Choice) (input : LinkInput) : Bool :=
  match choice with
  | .succeed generated _ _ | .lose generated _ _ =>
      (world.db.linkInstallation input world.clock generated).isSome
  | .fail _ => false

section Runs

variable {first last state after : AppState} {steps : List (Transition githubApp)}

theorem requests_credible (entry : Entry) (op : Op) (choice : Choice) (world : World)
    (outcome : Except HttpError op.Reply) (later : World)
    (executed : githubApp.exec op choice world = some (outcome, later)) :
    (requestDiscipline entry).Credible op outcome :=
  World.exec_credible executed

end Runs

/-! ## Concrete runs -/

def octocat : GithubUser := ⟨1, "7", "octocat", none⟩

def octocatInstallation : GithubInstallationPayload :=
  ⟨42, some ⟨7, "octocat", "User"⟩, "all", none, none, none⟩

/-- GitHub reports the installation to a process, and all else succeeds. -/
def proceeds (index : Nat) : AppLabel := .act index (.succeed (index + 1) "" octocatInstallation)

end GitMate.GithubApp
