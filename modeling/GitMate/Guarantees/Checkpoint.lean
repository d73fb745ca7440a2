import GitMate.Library.Window
import GitMate.Guarantees.Holders
import GitMate.Service.Memory

namespace GitMate

open Relational Interleaving Machine Windows

/-!
# The checkpoint of a repository

`lastSyncTime` is where the next collection of a repository starts.  A job
fixes its window when it is accepted, a retry copies the window of its source,
and the synchronous path reads the checkpoint before it collects; every one of
these windows starts at a checkpoint of the same repository that was current
at some moment.  The checkpoint only moves forward, so each window starts no
later than the checkpoint that its end replaces.
-/

/-! ## What a command does to a repository -/

/-- The completion action of a command that ends a job. -/
def Command.completionAction : Command -> Option CompletionAction
  | .terminateWorkerJob input => input.completionAction
  | .saveAnalysisResult input => input.completionAction
  | _ => none

/-- The repository with a given id after a command. -/
inductive RepositoryFate (db : Database) (environment : Environment) (command : Command) :
    Option Repository -> Option Repository -> Prop where
  | absent : RepositoryFate db environment command none none
  | listed {githubRepoId fullName : String} {userId : UserId}
      (unknown : forall other, other ∈ db.repositories.rows -> other.githubRepoId ≠ githubRepoId) :
      RepositoryFate db environment command none
        (some ⟨environment.generated, githubRepoId, fullName, none, userId⟩)
  | kept {repository later : Repository} (sameId : later.id = repository.id)
      (sameGithubId : later.githubRepoId = repository.githubRepoId)
      (sameTime : later.lastSyncTime = repository.lastSyncTime) :
      RepositoryFate db environment command (some repository) (some later)
  | completed {repository : Repository} {action : CompletionAction}
      (completing : command.completionAction = some action)
      (concerned : action.concerns repository = true) (moved : action.moves repository = true) :
      RepositoryFate db environment command (some repository)
        (some { repository with lastSyncTime := some action.cutoff })

theorem RepositoryFate.unchanged {db : Database} {environment : Environment} {command : Command}
    (found : Option Repository) : RepositoryFate db environment command found found := by
  cases found with
  | none => exact .absent
  | some repository => exact .kept rfl rfl rfl

/-- A repository that is there after a command was there before, or is the one
that the command has listed. -/
theorem RepositoryFate.origin {db : Database} {environment : Environment} {command : Command}
    {found : Option Repository} {later : Repository}
    (fate : RepositoryFate db environment command found (some later)) :
    (Exists fun repository => found = some repository ∧ repository.id = later.id ∧
      repository.githubRepoId = later.githubRepoId) ∨
    (found = none ∧ later.id = environment.generated ∧
      forall other, other ∈ db.repositories.rows -> other.githubRepoId ≠ later.githubRepoId) := by
  cases fate with
  | listed unknown => exact Or.inr ⟨rfl, rfl, unknown⟩
  | kept sameId sameGithubId sameTime => exact Or.inl ⟨_, rfl, sameId.symm, sameGithubId.symm⟩
  | completed completing concerned moved => exact Or.inl ⟨_, rfl, rfl, rfl⟩

/-- The repositories after a completion action. -/
theorem completed_fate {db : Database} {environment : Environment} {command : Command}
    {action : Option CompletionAction} (completing : command.completionAction = action)
    (id : RepositoryId) :
    RepositoryFate db environment command (db.findRepository id)
      ((completed action db.repositories).find? id) := by
  cases action with
  | none => exact .unchanged _
  | some action =>
      have image : (action.apply db.repositories).find? id = _ := Table.find?_updateMany id
      change RepositoryFate db environment command (db.repositories.find? id)
        ((action.apply db.repositories).find? id)
      rw [image]
      cases db.repositories.find? id with
      | none => exact .absent
      | some repository =>
          rw [Option.map_some]
          cases selected : action.concerns repository && action.moves repository with
          | false => exact .kept rfl rfl rfl
          | true =>
              rcases Bool.and_eq_true_iff.mp selected with ⟨concerned, moved⟩
              exact .completed completing concerned moved

theorem Committed.repository {environment : Environment} {db after : Database} {command : Command}
    (committed : Committed environment db command after) (id : RepositoryId) :
    RepositoryFate db environment command (db.findRepository id) (after.findRepository id) := by
  cases committed with
  | updated | created | reserved | settled => exact .unchanged _
  | terminated | saved => exact completed_fate rfl id
  | @relisted githubRepoId fullName userId =>
      have image : (relistedRepositories db.repositories githubRepoId fullName userId).find? id = _ :=
        Table.find?_updateMany id
      change RepositoryFate db environment _ (db.repositories.find? id)
        ((relistedRepositories db.repositories githubRepoId fullName userId).find? id)
      rw [image]
      cases db.repositories.find? id with
      | none => exact .absent
      | some repository =>
          rw [Option.map_some]
          split <;> exact .kept rfl rfl rfl
  | @listed githubRepoId fullName userId unknown fresh =>
      change RepositoryFate db environment _ (db.repositories.find? id)
        ((db.repositories.insert _ fresh).find? id)
      rw [Table.find?_insert]
      split
      · rename_i same
        have absent : db.repositories.find? id = none := by
          refine Table.find?_eq_none_iff.mpr fun row member equal => fresh ?_
          rw [same, ← equal]
          exact List.mem_map_of_mem member
        rw [absent]
        refine .listed fun other member equal => ?_
        have checked := List.find?_eq_none.mp unknown other member
        rw [equal, beq_self_eq_true] at checked
        exact checked rfl
      · exact .unchanged _

/-- The checkpoint never moves backwards. -/
theorem CompletionAction.moves_le {action : CompletionAction} {repository : Repository}
    (moved : action.moves repository = true) : repository.lastSyncTime ≤ some action.cutoff := by
  unfold CompletionAction.moves at moved
  cases known : repository.lastSyncTime with
  | none => exact Option.none_le
  | some lastSyncTime =>
      rw [known] at moved
      exact Option.some_le_some.mpr (le_of_lt (of_decide_eq_true moved))

/-! ## Repositories over a run -/

/-- The unique index on `githubRepoId`. -/
def Database.RepositoriesUnique (db : Database) : Prop :=
  forall left right : Repository, db.findRepository left.id = some left ->
    db.findRepository right.id = some right -> left.githubRepoId = right.githubRepoId ->
      left.id = right.id

section Runs

variable {deployment : Deployment} {first last : SystemState deployment}
  {steps : List (Transition (gitMate deployment))}

theorem Database.findRepository_id {db : Database} {id : RepositoryId} {repository : Repository}
    (found : db.findRepository id = some repository) : repository.id = id :=
  Table.key_of_find? found

/-- A repository stays, under its GitHub id, and its checkpoint only moves
forward. -/
theorem repository_later (run : Execution first steps last) {id : RepositoryId}
    {repository : Repository} (found : first.db.findRepository id = some repository) :
    Exists fun later => last.db.findRepository id = some later ∧
      later.githubRepoId = repository.githubRepoId ∧
        repository.lastSyncTime ≤ later.lastSyncTime := by
  refine run.always
    (fun state => Exists fun later => state.db.findRepository id = some later ∧
      later.githubRepoId = repository.githubRepoId ∧
        repository.lastSyncTime ≤ later.lastSyncTime)
    ⟨repository, found, rfl, bound_le_refl _⟩ fun earlier state label after reached held stepped => ?_
  rcases held with ⟨middle, here, sameGithubId, forward⟩
  cases SystemState.databaseStep stepped with
  | quiet same => exact ⟨middle, same ▸ here, sameGithubId, forward⟩
  | performed pending committed =>
      have fate := committed.repository id
      rw [here] at fate
      generalize there : after.db.findRepository id = new at fate ⊢
      cases fate with
      | kept sameId keptGithubId sameTime =>
          exact ⟨_, rfl, keptGithubId.trans sameGithubId, sameTime ▸ forward⟩
      | completed completing concerned moved =>
          exact ⟨_, rfl, sameGithubId,
            bound_le_trans forward (CompletionAction.moves_le moved)⟩

theorem reachable_repositories_unique (unique : first.db.RepositoriesUnique)
    (run : Execution first steps last) : last.db.RepositoriesUnique := by
  refine run.always (fun state => Database.RepositoriesUnique state.db) unique
    fun earlier state label after reached held stepped => ?_
  intro left right leftFound rightFound sameGithubId
  cases SystemState.databaseStep stepped with
  | quiet same => exact held left right (same ▸ leftFound) (same ▸ rightFound) sameGithubId
  | performed _ committed =>
      have leftFate := committed.repository left.id
      have rightFate := committed.repository right.id
      rw [leftFound] at leftFate
      rw [rightFound] at rightFate
      rcases leftFate.origin with
        ⟨leftOld, leftHere, leftId, leftGithubId⟩ | ⟨leftNew, leftListed, leftUnknown⟩ <;>
      rcases rightFate.origin with
        ⟨rightOld, rightHere, rightId, rightGithubId⟩ | ⟨rightNew, rightListed, rightUnknown⟩
      · rw [← leftId, ← rightId]
        rw [← leftId] at leftHere
        rw [← rightId] at rightHere
        exact held leftOld rightOld leftHere rightHere
          (leftGithubId.trans (sameGithubId.trans rightGithubId.symm))
      · exact absurd (leftGithubId.trans sameGithubId)
          (rightUnknown leftOld (Table.mem_of_find? leftHere))
      · exact absurd (rightGithubId.trans sameGithubId.symm)
          (leftUnknown rightOld (Table.mem_of_find? rightHere))
      · exact leftListed.trans rightListed.symm

/-! ## Repositories that processes have read -/

theorem Database.findRepositoryByGithubId_spec {db : Database} {githubRepoId : String}
    {repository : Repository} (found : db.findRepositoryByGithubId githubRepoId = some repository) :
    db.findRepository repository.id = some repository ∧
      repository.githubRepoId = githubRepoId := by
  constructor
  · exact Table.find?_eq_some_iff.mpr ⟨List.mem_of_find?_eq_some found, rfl⟩
  · have checked : (repository.githubRepoId == githubRepoId) = true :=
      @List.find?_some _ (fun other : Repository => other.githubRepoId == githubRepoId) _ _ found
    exact beq_iff_eq.mp checked

theorem Database.findOwner_repository {db : Database} {repository : Repository}
    {owned : OwnedRepository} (found : db.findOwner repository = some owned) :
    owned.repository = repository := by
  rcases Option.map_eq_some_iff.mp found with ⟨owner, _, rfl⟩
  rfl

/-- The repository in an answer was in the table under the GitHub id that was
asked for. -/
inductive ReadsRepository (githubRepoId : String) (owned : OwnedRepository) :
    (question : Query) -> question.Reply -> Prop where
  | owned {userId : UserId} : ReadsRepository githubRepoId owned
      (.findOwnedRepositoryByGithubId userId githubRepoId) (some owned)
  | withOwner : ReadsRepository githubRepoId owned (.findRepositoryWithOwner githubRepoId)
      (some owned)

theorem ReadsRepository.found {githubRepoId : String} {owned : OwnedRepository}
    {question : Query} {reply : question.Reply} {db : Database} {now : Instant}
    (reads : ReadsRepository githubRepoId owned question reply)
    (answered : reply = question.run db now) :
    db.findRepositoryByGithubId githubRepoId = some owned.repository := by
  cases reads with
  | owned =>
      rcases Option.bind_eq_some_iff.mp answered.symm with ⟨repository, filtered, joined⟩
      rw [Database.findOwner_repository joined]
      exact (Option.filter_eq_some_iff.mp filtered).1
  | withOwner =>
      rcases Option.bind_eq_some_iff.mp answered.symm with ⟨repository, found, joined⟩
      rw [Database.findOwner_repository joined]
      exact found

/-- A repository that a process has read is still there, and its checkpoint is
no earlier than what was read. -/
theorem learned_repository (initial : first.Initial) (run : Execution first steps last)
    {index : Nat} {githubRepoId : String} {owned : OwnedRepository} {question : Query}
    {reply : question.Reply} (reads : ReadsRepository githubRepoId owned question reply)
    (read : Learned (last.historyAt index) question reply) :
    Exists fun current => last.db.findRepository owned.repository.id = some current ∧
      current.githubRepoId = githubRepoId ∧
        owned.repository.lastSyncTime ≤ current.lastSyncTime := by
  rcases learned_at initial run read with ⟨_, state, _, now, _, following, answered⟩
  rcases Database.findRepositoryByGithubId_spec (reads.found answered) with ⟨found, named⟩
  rcases repository_later following found with ⟨current, here, sameGithubId, forward⟩
  exact ⟨current, here, sameGithubId.trans named, forward⟩

/-! ## Windows of created jobs -/

theorem Committed.creation_repository {environment : Environment} {db after : Database}
    {input : CreateAnalysisJobRecordInput}
    (committed : Committed environment db (.createExclusive input) after) :
    Exists fun repository => db.findRepository input.repositoryId = some repository := by
  cases committed with
  | created repositoryFound => exact ⟨_, repositoryFound⟩

/-- The repository of a job that was created in the run exists. -/
theorem created_repository (run : Execution first steps last) {id : JobId} {row : AnalysisJob}
    (new : first.db.findJob id = none) (found : last.db.findJob id = some row) :
    Exists fun repository => last.db.findRepository row.repositoryId = some repository := by
  refine run.always
    (fun state => forall row, state.db.findJob id = some row ->
      Exists fun repository => state.db.findRepository row.repositoryId = some repository)
    (fun row found => ?_) (fun earlier state label after reached held stepped => ?_) row found
  · rw [new] at found
    cases found
  intro row found
  have lasts : forall repositoryId, (Exists fun repository =>
      state.db.findRepository repositoryId = some repository) ->
      Exists fun repository => after.db.findRepository repositoryId = some repository := by
    rintro repositoryId ⟨repository, here⟩
    rcases repository_later (Execution.start.next stepped) here with ⟨later, there, _⟩
    exact ⟨later, there⟩
  apply lasts
  cases SystemState.databaseStep stepped with
  | quiet same => exact held row (same ▸ found)
  | performed _ committed =>
      have fate := committed.evolves id
      rw [found] at fate
      generalize before : state.db.findJob id = old at fate
      cases fate with
      | inserted creating =>
          subst creating
          exact committed.creation_repository
      | evolved step =>
          have same : row.repositoryId = _ := congrArg JobIdentity.repositoryId step.identity
          rw [same]
          exact held _ before

/-- The source of a retry was created in the run, and the repository that was
found for the retry is that of the source. -/
theorem retried_row (initial : first.Initial) (unique : first.db.RepositoriesUnique)
    (run : Execution first steps last) {index : Nat} {userId : UserId} {sourceJobId : JobId}
    {record : AnalysisJobApiRecord} {owned : OwnedRepository}
    (read : Learned (last.historyAt index) (.findOwnedById userId sourceJobId) (some record))
    (failed : record.job.status = .failed)
    (owner : Learned (last.historyAt index)
      (.findOwnedRepositoryByGithubId userId record.githubRepoId) (some owned)) :
    first.db.findJob sourceJobId = none ∧ Exists fun row =>
      last.db.findJob sourceJobId = some row ∧ row.identity = record.job.identity ∧
        owned.repository.id = row.repositoryId := by
  have seen : Seen (last.historyAt index) record.job := ⟨_, read, List.mem_singleton_self _⟩
  rcases learned_at initial run read with ⟨_, state, _, now, leading, following, answered⟩
  rcases Option.map_eq_some_iff.mp answered.symm with ⟨job, filtered, rfl⟩
  have found := (Option.filter_eq_some_iff.mp filtered).1
  have named : job.id = sourceJobId := Table.key_of_find? found
  have new := seen_new initial run seen (by rw [failed]; exact fun same => by cases same)
  rw [show (state.db.apiRecord job).job.id = sourceJobId from named] at new
  rcases reachable_seen initial run index _ seen with ⟨row, there, same⟩
  rw [show (state.db.apiRecord job).job.id = sourceJobId from named] at there
  refine ⟨new, row, there, same, ?_⟩
  rcases created_repository leading new found with ⟨repository, here⟩
  rcases repository_later following here with ⟨later, laterHere, sameGithubId, _⟩
  rcases learned_repository initial run .owned owner with ⟨current, currentHere, githubId, _⟩
  have joined : (state.db.apiRecord job).githubRepoId = repository.githubRepoId := by
    change ((state.db.findRepository job.repositoryId).map Repository.githubRepoId).getD "" = _
    rw [here]
    rfl
  have laterId := Database.findRepository_id laterHere
  have currentId := Database.findRepository_id currentHere
  have sameRepository : current.id = later.id :=
    reachable_repositories_unique unique run current later (currentId ▸ currentHere)
      (laterId ▸ laterHere) (githubId.trans (joined.trans sameGithubId.symm))
  rw [← currentId, sameRepository, laterId]
  exact (congrArg JobIdentity.repositoryId same).symm

/-- The window of a job starts no later than the checkpoint of its
repository. -/
def Database.Anchors (db : Database) (job : AnalysisJob) : Prop :=
  Exists fun repository => db.findRepository job.repositoryId = some repository ∧
    job.sourceCursor ≤ repository.lastSyncTime

/-- Rows with the same fixed columns are anchored alike, and stay so. -/
theorem Database.Anchors.later {middle : SystemState deployment}
    {rest : List (Transition (gitMate deployment))} (following : Execution middle rest last)
    {job row : AnalysisJob} (anchors : middle.db.Anchors job) (same : row.identity = job.identity) :
    last.db.Anchors row := by
  rcases anchors with ⟨repository, found, starts⟩
  rcases repository_later following found with ⟨later, there, _, forward⟩
  have sameRepository : row.repositoryId = job.repositoryId :=
    congrArg JobIdentity.repositoryId same
  have sameCursor : row.sourceCursor = job.sourceCursor :=
    congrArg (fun columns : JobIdentity => columns.window.sourceCursor) same
  exact ⟨later, sameRepository ▸ there, sameCursor ▸ bound_le_trans starts forward⟩

/-- An accepted job is anchored when it is inserted: its window starts at the
checkpoint that was read, or where the window of its source starts. -/
theorem accepted_anchors (initial : first.Initial) (unique : first.db.RepositoriesUnique)
    (run : Execution first steps last) {index : Nat} {input : CreateAnalysisJobRecordInput}
    (accepts : Accepts (last.historyAt index) input)
    (sources : forall id row, first.db.findJob id = none -> last.db.findJob id = some row ->
      last.db.Anchors row)
    (repositoryFound : Exists fun repository =>
      last.db.findRepository input.repositoryId = some repository) (environment : Environment) :
    last.db.Anchors (newJob input environment) := by
  cases accepts with
  | @api userId idempotencyKey request source owned window valid owner retried windowed =>
      cases request with
      | create githubRepoId =>
          cases windowed
          rcases learned_repository initial run .owned owner with ⟨current, here, _, forward⟩
          exact ⟨current, here, forward⟩
      | retry sourceJobId =>
          rcases retried with ⟨record, rfl, read, failed, retryable⟩
          cases windowed
          rcases retried_row initial unique run read failed owner with
            ⟨new, row, there, same, sameRepository⟩
          rcases sources sourceJobId row new there with ⟨repository, here, starts⟩
          have sameCursor : row.sourceCursor = record.job.sourceCursor :=
            congrArg (fun columns : JobIdentity => columns.window.sourceCursor) same
          rw [← sameRepository] at here
          exact ⟨repository, here, sameCursor ▸ starts⟩
  | sync owner mine collected clocks =>
      rcases repositoryFound with ⟨repository, here⟩
      exact ⟨repository, here, Option.none_le⟩

theorem reachable_anchored (initial : first.Initial) (unique : first.db.RepositoriesUnique)
    (run : Execution first steps last) {id : JobId} {row : AnalysisJob}
    (new : first.db.findJob id = none) (found : last.db.findJob id = some row) :
    last.db.Anchors row := by
  refine run.always
    (fun state => forall id row, first.db.findJob id = none -> state.db.findJob id = some row ->
      state.db.Anchors row)
    (fun id row new found => ?_) (fun earlier state label after reached held stepped => ?_)
    id row new found
  · rw [new] at found
    cases found
  intro id row new found
  have step := Execution.start.next stepped
  cases ledgerStep initial reached stepped with
  | quiet same => exact (held id row new (same ▸ found)).later step rfl
  | @performed index _ _ order environment past _ _ pending _ _ _ permitted _ _ committed =>
      have here : state.historyAt index = past := State.historyAt_of_getElem? pending
      subst here
      have fate := committed.evolves id
      rw [found] at fate
      generalize before : state.db.findJob id = old at fate
      cases fate with
      | inserted creating =>
          subst creating
          exact (accepted_anchors initial unique reached permitted held
            committed.creation_repository environment).later step rfl
      | evolved stepRow => exact (held id _ new before).later step stepRow.identity

/-! ## Completions -/

/-- The data of a window were left without anything to analyze, or the job
succeeded. -/
def AnalysisJob.isCompleted (job : AnalysisJob) : Bool :=
  job.status == .succeeded ||
    job.status == .failed && job.lastErrorCode == some .noAnalyzableData

/-- A step that ends a running job of a repository as completed, after its
process has collected a window for this job. -/
structure CompletesJob (step : Transition (gitMate deployment)) (repositoryId : RepositoryId)
    (jobId : JobId) (window : CollectionWindow) : Prop where
  ended : Exists fun job => Exists fun row =>
    step.before.db.findJob jobId = some job ∧ job.status = .running ∧
      job.repositoryId = repositoryId ∧ step.after.db.findJob jobId = some row ∧
        row.isCompleted = true
  collected : Exists fun index => Exists fun choice => Exists fun action => Exists fun data =>
    step.label = .act index choice ∧
      Reportable (step.before.historyAt index) jobId (some action) data ∧ data.window = window

theorem Committed.saved_row {environment : Environment} {db after : Database}
    {input : SaveAnalysisResultInput}
    (committed : Committed environment db (.saveAnalysisResult input) after) :
    Exists fun job => Exists fun row => db.findJob input.jobId = some job ∧
      job.status = .running ∧ after.findJob input.jobId = some row ∧ row.isCompleted = true := by
  cases committed with
  | saved fresh unlinked counted owner valid found guarded =>
      have running := (Bool.and_eq_true_iff.mp guarded).1
      exact ⟨_, _, found, beq_iff_eq.mp running, RowUpdate.find?_apply found guarded, rfl⟩

/-- A settled failure without an additional debit keeps its code. -/
theorem Committed.terminated_row {environment : Environment} {db after : Database}
    {input : TerminateWorkerJobInput}
    (committed : Committed environment db (.terminateWorkerJob input) after)
    (settled : input.tokensSettled = true) (undebited : input.additionalDebitTokens = 0) :
    Exists fun job => Exists fun row => db.findJob input.jobId = some job ∧
      job.status = .running ∧ after.findJob input.jobId = some row ∧ row.status = .failed ∧
        row.lastErrorCode = some input.errorCode.toErrorCode := by
  cases committed with
  | @terminated _ paid debited job debit usable owner valid found guarded =>
      have running := (Bool.and_eq_true_iff.mp guarded).1
      have free : ¬ 0 < input.additionalDebitTokens := by omega
      unfold AdditionalDebit at debit
      rw [if_neg free] at debit
      rcases debit with ⟨rfl, _⟩
      refine ⟨_, _, found, beq_iff_eq.mp running, RowUpdate.find?_apply found guarded, rfl, ?_⟩
      change some (input.failure true).errorCode.toErrorCode = _
      rw [TerminateWorkerJobInput.failure, settled]
      rfl

/-- Whatever the data of a report were collected for, the window starts no
later than the checkpoint that its completion action moves, which is that of
the repository of the job. -/
theorem Reportable.window_starts (initial : first.Initial) (unique : first.db.RepositoriesUnique)
    (run : Execution first steps last) {index : Nat} {jobId : JobId} {action : CompletionAction}
    {data : CollectedData} (reportable : Reportable (last.historyAt index) jobId (some action) data)
    {repository : Repository} (found : last.db.findRepository repository.id = some repository)
    (concerned : action.concerns repository = true) {row : AnalysisJob}
    (there : last.db.findJob jobId = some row) :
    row.repositoryId = repository.id ∧ data.window.sourceCursor ≤ repository.lastSyncTime ∧
      data.window.collectionCutoff = action.cutoff := by
  cases reportable with
  | @worker job leaseToken attempt pullRequests claimed collected outcome =>
      have seen : Seen (last.historyAt index) job.job := ⟨_, claimed, List.mem_singleton_self _⟩
      rcases learned_at initial run claimed with ⟨_, state, _, now, _, _, answered⟩
      rcases Option.map_eq_some_iff.mp answered.symm with ⟨held, leased, rfl⟩
      rcases Database.findRunningByLease_spec leased with ⟨heldFound, running, _⟩
      have named : held.id = jobId := Table.key_of_find? heldFound
      have new : first.db.findJob held.id = none :=
        seen_new initial run seen fun succeeded =>
          (by cases running.symm.trans (succeeded : held.status = .succeeded))
      rcases reachable_seen initial run index _ seen with ⟨current, here, same⟩
      rw [show (state.db.workerJob held).job.id = jobId from named] at here
      cases there.symm.trans here
      have sameRepository : row.repositoryId = held.repositoryId :=
        congrArg JobIdentity.repositoryId same
      have sameCursor : row.sourceCursor = held.sourceCursor :=
        congrArg (fun columns : JobIdentity => columns.window.sourceCursor) same
      simp only [AnalysisWorkerService.checkpoint, CompletionAction.concerns, Bool.and_eq_true,
        beq_iff_eq] at concerned
      have ofRepository : row.repositoryId = repository.id :=
        sameRepository.trans concerned.1.symm
      rcases reachable_anchored initial unique run (named ▸ new) there with
        ⟨anchor, anchorFound, starts⟩
      rw [ofRepository, found] at anchorFound
      cases anchorFound
      refine ⟨ofRepository, ?_, rfl⟩
      change held.sourceCursor ≤ repository.lastSyncTime
      rw [← sameCursor]
      exact starts
  | @sync userId githubRepoId owned syncStartedAt attempt pullRequests input job owner mine
      collected outcome created named user ofRepository =>
      rcases learned_repository initial run .withOwner owner with ⟨current, here, githubId, forward⟩
      have currentId := Database.findRepository_id here
      have concernedId : repository.githubRepoId = githubRepoId := beq_iff_eq.mp concerned
      have sameRepository : current.id = repository.id :=
        reachable_repositories_unique unique run current repository (currentId ▸ here) found
          (githubId.trans concernedId.symm)
      have ownedId : owned.repository.id = repository.id := currentId.symm.trans sameRepository
      rw [ownedId, found] at here
      cases here
      rcases reachable_created initial run index input job created with ⟨environment, inserted⟩
      rcases reachable_seen initial run index job (.inserted created) with ⟨held, heldFound, same⟩
      rw [named] at heldFound
      cases there.symm.trans heldFound
      refine ⟨?_, forward, rfl⟩
      have sameRow : row.repositoryId = job.repositoryId := congrArg JobIdentity.repositoryId same
      rw [sameRow, inserted]
      exact ofRepository.trans ownedId

/-- A failure that moves a checkpoint leaves nothing to analyze. -/
theorem Completes.noData_of_action (initial : first.Initial) (run : Execution first steps last)
    {index : Nat} {input : TerminateWorkerJobInput}
    (completes : Completes (last.historyAt index) input) {action : CompletionAction}
    (completing : input.completionAction = some action) :
    input.errorCode = .noAnalyzableData ∧ input.tokensSettled = true ∧
      input.additionalDebitTokens = 0 ∧ Exists fun data =>
        Reportable (last.historyAt index) input.jobId (some action) data := by
  cases completes with
  | nothing none =>
      rw [none] at completing
      cases completing
  | noData code settled undebited reportable =>
      exact ⟨code, settled, undebited, _, completing ▸ reportable⟩
  | @retired job other seen named current again sameJob retired =>
      rcases reachable_seen initial run index job seen with ⟨row, found, same⟩
      rcases reachable_seen initial run index other again with ⟨otherRow, otherFound, otherSame⟩
      rw [named] at found
      rw [sameJob] at otherFound
      cases found.symm.trans otherFound
      have version : job.version = other.version :=
        congrArg JobIdentity.version (same.symm.trans otherSame)
      rw [version, retired] at current
      cases current

/-- A step either leaves the checkpoint of a repository alone, or moves it
forward to the end of a window that starts no later, while it completes the job
that this window was collected for. -/
theorem checkpoint_step (initial : first.Initial) (unique : first.db.RepositoriesUnique)
    {earlier : List (Transition (gitMate deployment))} {state after : SystemState deployment}
    {label : SystemLabel deployment} (reached : Execution first earlier state)
    (stepped : state.step label = some after) {repository : Repository}
    (found : state.db.findRepository repository.id = some repository) :
    Exists fun later => after.db.findRepository repository.id = some later ∧
      (later.lastSyncTime = repository.lastSyncTime ∨
        Exists fun jobId => Exists fun window =>
          CompletesJob ⟨state, label, after⟩ repository.id jobId window ∧
            window.sourceCursor ≤ repository.lastSyncTime ∧
            later.lastSyncTime = some window.collectionCutoff ∧
            repository.lastSyncTime ≤ some window.collectionCutoff) := by
  cases ledgerStep initial reached stepped with
  | quiet same => exact ⟨repository, same ▸ found, Or.inl rfl⟩
  | @performed index choice _ order environment past _ _ pending _ _ _ permitted _ _ committed =>
      have history : state.historyAt index = past := State.historyAt_of_getElem? pending
      subst history
      have fate := committed.repository repository.id
      rw [found] at fate
      generalize there : after.db.findRepository repository.id = new at fate ⊢
      cases fate with
      | kept sameId sameGithubId sameTime => exact ⟨_, rfl, Or.inl sameTime⟩
      | @completed _ action completing concerned moved =>
          refine ⟨_, rfl, Or.inr ?_⟩
          have forward := CompletionAction.moves_le moved
          -- what remains once the completing command and its job are known
          have completes : forall {jobId : JobId} {data : CollectedData} {job row : AnalysisJob},
              Reportable (state.historyAt index) jobId (some action) data ->
              state.db.findJob jobId = some job -> job.status = .running ->
              after.db.findJob jobId = some row -> row.isCompleted = true ->
              Exists fun jobId => Exists fun window =>
                CompletesJob ⟨state, .act index choice, after⟩ repository.id jobId window ∧
                  window.sourceCursor ≤ repository.lastSyncTime ∧
                  some action.cutoff = some window.collectionCutoff ∧
                  repository.lastSyncTime ≤ some window.collectionCutoff := by
            intro jobId data job row reportable jobFound running rowFound completed
            rcases reportable.window_starts initial unique reached found concerned jobFound with
              ⟨ofRepository, starts, ends⟩
            refine ⟨jobId, data.window, ⟨⟨job, row, jobFound, running, ofRepository, rowFound,
              completed⟩, index, choice, action, data, rfl, reportable, rfl⟩, starts, ?_, ?_⟩
            · rw [ends]
            · rw [ends]
              exact forward
          cases order with
          | terminateWorkerJob input =>
              rcases permitted.2.2.2.noData_of_action initial reached completing with
                ⟨code, settled, undebited, data, reportable⟩
              rcases committed.terminated_row settled undebited with
                ⟨job, row, jobFound, running, rowFound, failed, recorded⟩
              refine completes reportable jobFound running rowFound ?_
              rw [code] at recorded
              rw [AnalysisJob.isCompleted, failed, recorded]
              rfl
          | saveAnalysisResult input =>
              have action_eq : input.completionAction = some action := completing
              have reportable := permitted.2.2
              rw [action_eq] at reportable
              rcases committed.saved_row with ⟨job, row, jobFound, running, rowFound, completed⟩
              exact completes reportable jobFound running rowFound completed
          | update | createExclusive | reserveWorkerTokens | settleFailure | upsertRepository =>
              cases completing

/-- The checkpoint of a repository before a run; a repository that was not
there yet has none. -/
def initialSyncTime (first : SystemState deployment) (id : RepositoryId) : Option Instant :=
  (first.db.findRepository id).bind Repository.lastSyncTime

/-- A completed job of the run has collected a window that covers an instant. -/
def Collected (steps : List (Transition (gitMate deployment))) (id : RepositoryId)
    (instant : Instant) : Prop :=
  Exists fun step => step ∈ steps ∧ Exists fun jobId => Exists fun window =>
    CompletesJob step id jobId window ∧
      Covers window.sourceCursor window.collectionCutoff instant

/-- Everything between the initial checkpoint and the current one was
collected. -/
theorem reachable_covered (initial : first.Initial) (unique : first.db.RepositoriesUnique)
    (run : Execution first steps last) {id : RepositoryId} {repository : Repository}
    (found : last.db.findRepository id = some repository) {instant checkpoint : Instant}
    (current : repository.lastSyncTime = some checkpoint)
    (after : After (initialSyncTime first id) instant) (upTo : instant ≤ checkpoint) :
    Collected steps id instant := by
  induction run generalizing repository checkpoint with
  | start =>
      have initially : initialSyncTime first id = some checkpoint := by
        rw [initialSyncTime, found]
        exact current
      exact absurd (lt_of_lt_of_le (after checkpoint initially) upTo) (lt_irrefl _)
  | @next steps state later label reached stepped inductionHypothesis =>
      have extend : Collected steps id instant ->
          Collected (steps ++ [⟨state, label, later⟩]) id instant := by
        rintro ⟨step, member, collected⟩
        exact ⟨step, List.mem_append_left _ member, collected⟩
      cases before : state.db.findRepository id with
      | none =>
          -- the repository has just been listed, without a checkpoint
          cases SystemState.databaseStep stepped with
          | quiet same =>
              rw [same, before] at found
              cases found
          | performed _ committed =>
              have fate := committed.repository id
              rw [before, found] at fate
              cases fate with
              | listed => cases current
      | some old =>
          have oldId := Database.findRepository_id before
          subst oldId
          rcases checkpoint_step initial unique reached stepped before with
            ⟨new, there, same | ⟨jobId, window, completes, starts, moved, _⟩⟩
          · cases found.symm.trans there
            exact extend (inductionHypothesis before (same ▸ current) upTo)
          · cases found.symm.trans there
            cases current.symm.trans moved
            rcases after_or_le old.lastSyncTime instant with fresh | ⟨reachedTime, known, within⟩
            · exact ⟨_, List.mem_append_right _ List.mem_cons_self, jobId, window, completes,
                covers_of_le starts fresh upTo⟩
            · exact extend (inductionHypothesis before known within)

/-- Checkpoint discipline and coverage, for every repository in every run.  A
step either leaves the checkpoint alone, or completes a job of the repository
and moves the checkpoint forward to the end of the window that was collected
for this job; and the windows collected by the completed jobs cover every
instant from the initial checkpoint up to the current one. -/
theorem checkpoint_covers (initial : first.Initial) (unique : first.db.RepositoriesUnique)
    (run : Execution first steps last) :
    (forall earlier step rest, steps = earlier ++ step :: rest -> forall id repository,
      step.before.db.findRepository id = some repository ->
        Exists fun later => step.after.db.findRepository id = some later ∧
          repository.lastSyncTime ≤ later.lastSyncTime ∧
          (later.lastSyncTime = repository.lastSyncTime ∨
            Exists fun jobId => Exists fun window => CompletesJob step id jobId window ∧
              later.lastSyncTime = some window.collectionCutoff)) ∧
    (forall id repository checkpoint instant, last.db.findRepository id = some repository ->
      repository.lastSyncTime = some checkpoint -> After (initialSyncTime first id) instant ->
        instant ≤ checkpoint -> Collected steps id instant) := by
  constructor
  · rintro earlier step rest rfl id repository found
    rcases run.around with ⟨leading, stepped, following⟩
    have named := Database.findRepository_id found
    subst named
    rcases checkpoint_step initial unique leading stepped found with
      ⟨later, there, same | ⟨jobId, window, completes, _, moved, forward⟩⟩
    · exact ⟨later, there, same ▸ bound_le_refl _, Or.inl same⟩
    · exact ⟨later, there, moved ▸ forward, Or.inr ⟨jobId, window, completes, moved⟩⟩
  · intro id repository checkpoint instant found current after upTo
    exact reachable_covered initial unique run found current after upTo

end Runs

theorem smallDatabase_unique : smallDatabase.RepositoriesUnique := by
  intro left right leftFound rightFound _
  have leftSame := List.mem_singleton.mp (Table.mem_of_find? leftFound)
  have rightSame := List.mem_singleton.mp (Table.mem_of_find? rightFound)
  rw [leftSame, rightSame]

/-- The life of the job of the small world covers every instant up to the
cutoff of the job. -/
theorem checkpoint_covers_success :
    Exists fun steps : List (Transition (gitMate DEFAULT_DEPLOYMENT)) =>
      forall instant, instant ≤ 1000 -> Collected steps 1 instant := by
  rcases State.after_run (show ((smallState DEFAULT_DEPLOYMENT).play successScript).isSome = true
    by decide +kernel) with ⟨steps, run⟩
  have moved : (((smallState DEFAULT_DEPLOYMENT).after successScript).db.findRepository 1).bind
      Repository.lastSyncTime = some 1000 := by decide +kernel
  rcases Option.bind_eq_some_iff.mp moved with ⟨repository, found, current⟩
  refine ⟨steps, fun instant upTo => ?_⟩
  exact (checkpoint_covers (smallState_initial DEFAULT_DEPLOYMENT) smallDatabase_unique run).2
    1 repository 1000 instant found current (after_none instant) upTo

end GitMate
