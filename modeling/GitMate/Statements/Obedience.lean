import GitMate.Statements.Discipline

namespace GitMate

open Relational Interleaving Dialect

/-!
# The transactions keep to their discipline

Each program issues only what its entry permits, whatever it is told.  The
proofs follow the programs, statement by statement.
-/

variable {digest : String -> Int}

namespace Isolated

open TransactionEntry

variable {entry : TransactionEntry} {past : Past digest} {id : Nat}

theorem obeys_ofExcept {α : Type} {ends : (statements digest).interface.Post α}
    (checked : Except AppError α) (ended : forall ending, ends past ending) :
    (ofExcept checked : Isolated digest α).Obeys (conduct digest entry) ends past := by
  cases checked with
  | ok value => exact ended _
  | error error => exact ended _

theorem obeys_ensure {ends : (statements digest).interface.Post Unit} {condition : Bool}
    {error : AppError} (ended : forall ending, ends past ending) :
    (ensure condition error : Isolated digest Unit).Obeys (conduct digest entry) ends past := by
  unfold ensure
  split
  · exact ended _
  · exact ended _

/-- A checked condition holds in what follows. -/
theorem obeys_ensure_bind {α : Type} {ends : (statements digest).interface.Post α}
    {condition : Bool} {error : AppError} {next : Unit -> Isolated digest α}
    (failed : ends past (.error error))
    (continues : condition = true -> (next ()).Obeys (conduct digest entry) ends past) :
    (ensure condition error >>= next).Obeys (conduct digest entry) ends past := by
  cases condition with
  | false => exact failed
  | true => exact continues rfl

theorem obeys_ofExcept_bind {α β : Type} {ends : (statements digest).interface.Post β}
    {checked : Except AppError α} {next : α -> Isolated digest β}
    (failed : forall error, ends past (.error error))
    (continues : forall value, checked = .ok value ->
      (next value).Obeys (conduct digest entry) ends past) :
    (ofExcept checked >>= next).Obeys (conduct digest entry) ends past := by
  cases checked with
  | ok value => exact continues value rfl
  | error error => exact failed error

/-- The event of a statement. -/
abbrev answer (id : Nat) (asked : Statement) (outcome : Except AppError asked.Reply) :
    Event (statements digest).interface := ⟨.statement id asked, outcome⟩

/-- The event of a lock. -/
abbrev lock (id : Nat) (scope : LockScope) (outcome : Except AppError Unit) :
    Event (statements digest).interface := ⟨.acquire id scope, outcome⟩

theorem obeys_issue {asked : Statement} {ends : (statements digest).interface.Post asked.Reply}
    (owns : Owns past id) (issues : entry.Issues past id asked)
    (ended : forall outcome, ends (past ++ [answer id asked outcome]) outcome) :
    (issue id asked).Obeys (conduct digest entry) ends past := by
  have permitted : entry.Permits past (.statement id asked) := ⟨owns, issues⟩
  refine (Program.obeys_perform permitted).mono ?_
  rintro later ending _ ⟨rfl, _⟩
  exact ended ending

theorem obeys_issue_bind {α : Type} {asked : Statement}
    {ends : (statements digest).interface.Post α} {next : asked.Reply -> Isolated digest α}
    (owns : Owns past id) (issues : entry.Issues past id asked)
    (continues : forall reply,
      (next reply).Obeys (conduct digest entry) ends (past ++ [answer id asked (.ok reply)]))
    (faults : forall fault, ends (past ++ [answer id asked (.error fault)]) (.error fault)) :
    (issue id asked >>= next).Obeys (conduct digest entry) ends past := by
  have permitted : entry.Permits past (.statement id asked) := ⟨owns, issues⟩
  exact Program.obeys_perform_bind permitted continues faults

theorem obeys_acquire_bind {α : Type} {scope : LockScope}
    {ends : (statements digest).interface.Post α} {next : Unit -> Isolated digest α}
    (owns : Owns past id)
    (ranked : forall other (held : LockScope), Acquired past other held -> held.rank < scope.rank)
    (uncounted : scope.rank = 1 -> ¬Counted past id)
    (continues :
      (next ()).Obeys (conduct digest entry) ends (past ++ [lock id scope (.ok ())]))
    (faults : forall fault, ends (past ++ [lock id scope (.error fault)]) (.error fault)) :
    (acquire id scope >>= next).Obeys (conduct digest entry) ends past := by
  have permitted : entry.Permits past (.acquire id scope) := ⟨owns, ranked, uncounted⟩
  exact Program.obeys_perform_bind permitted (fun _ => continues) faults

theorem obeys_recoverStaleActiveJobs {repositoryId : RepositoryId} (creates : entry.creates = true)
    (owns : Owns past id) (acquired : Acquired past id (.repository repositoryId))
    (new : ¬Inserted past id) :
    (recoverStaleActiveJobs id repositoryId).Obeys (conduct digest entry)
      (fun later _ => ¬Inserted later id) past := by
  have read : forall completedAt : Instant, ReadUnder (past ++
      [(⟨.now, .ok completedAt⟩ : Event (statements digest).interface)]) id
      (.repository repositoryId) completedAt :=
    fun completedAt => ⟨past, _, rfl, acquired, List.mem_cons_self⟩
  refine Program.obeys_perform_bind trivial (fun completedAt => ?_) (fun fault => ?_)
  · refine obeys_issue_bind (owns_mono owns (List.prefix_append _ _)) ⟨creates,
      read completedAt⟩ (fun _ => ?_) (fun fault => ?_)
    · refine obeys_issue (owns_mono owns ?_) ⟨creates,
        (read completedAt).mono (List.prefix_append _ _)⟩ (fun outcome => ?_)
      · exact (List.prefix_append _ _).trans (List.prefix_append _ _)
      · exact not_inserted_append (not_inserted_append (not_inserted_append new
          fun _ _ same => by cases same) fun _ _ same => by cases same) fun _ _ same => by cases same
    · exact not_inserted_append (not_inserted_append new fun _ _ same => by cases same)
        fun _ _ same => by cases same
  · exact not_inserted_append new fun _ _ same => by cases same

theorem obeys_createExclusive {input : CreateAnalysisJobRecordInput}
    (creates : entry.creates = true) (owns : Owns past id)
    (ranked : forall other held, Acquired past other held -> held.rank < 2) (new : ¬Inserted past id)
    (quota : WithinQuota past id input) :
    (createExclusive id input).Obeys (conduct digest entry) (fun _ _ => True) past := by
  refine obeys_acquire_bind owns ranked (fun same => by cases same) ?_ (fun _ => trivial)
  have grown := List.prefix_append past
    [(lock id (.repository input.repositoryId) (.ok ()) : Event (statements digest).interface)]
  have fresh : ¬Inserted (past ++ [(lock id (.repository input.repositoryId) (.ok ()) :
      Event (statements digest).interface)]) id :=
    not_inserted_append new fun _ _ same => by cases same
  refine (obeys_recoverStaleActiveJobs creates (owns_mono owns grown)
    (List.mem_append_right _ List.mem_cons_self) fresh).bind
    (fun recovered _ further absent => ?_) (fun _ _ _ _ => trivial)
  have whole := grown.trans further
  refine obeys_issue_bind (owns_mono owns whole) ⟨creates,
    Acquired.mono (List.mem_append_right _ List.mem_cons_self) further, absent⟩ (fun active => ?_)
    (fun _ => trivial)
  refine obeys_ensure_bind trivial fun none => ?_
  cases Option.isNone_iff_eq_none.mp none
  exact obeys_issue (owns_mono owns (whole.trans (List.prefix_append _ _))) ⟨creates,
    not_inserted_append absent (fun _ _ same => by cases same),
    List.mem_append_right _ List.mem_cons_self, quota.mono (whole.trans (List.prefix_append _ _))⟩
    (fun _ => trivial)

/-! ### Acceptance -/

theorem obeys_query {asked : Query} (owns : Owns past id) :
    (query id asked).Obeys (conduct digest entry) (fun _ _ => True) past :=
  obeys_issue owns trivial fun _ => trivial

theorem obeys_replayExisting {userId : UserId} {existing : AnalysisJobApiRecord}
    {requestHash : RequestHash} (owns : Owns past id) :
    (replayExisting id userId existing requestHash).Obeys (conduct digest entry)
      (fun _ _ => True) past :=
  obeys_ofExcept_bind (fun _ => trivial) fun _ _ =>
    (obeys_query owns).bind (fun _ _ _ _ => trivial) (fun _ _ _ _ => trivial)

/-- The transaction has only looked for the idempotency key so far. -/
structure Opened (past : Past digest) (id : Nat) : Prop where
  owns : Owns past id
  ranked : forall other held, Acquired past other held -> held.rank < 1
  new : ¬Inserted past id
  uncounted : ¬Counted past id

theorem obeys_acceptNew {userId : UserId} {idempotencyKey : String} {request : JobRequest}
    {retrySource : Option AnalysisJobApiRecord} (creates : entry.creates = true)
    (opened : Opened past id) :
    (acceptNew id userId idempotencyKey request retrySource).Obeys (conduct digest entry)
      (fun _ _ => True) past := by
  refine obeys_acquire_bind opened.owns opened.ranked (fun _ => opened.uncounted) ?_
    (fun _ => trivial)
  refine obeys_issue_bind (owns_mono opened.owns (List.prefix_append _ _)) trivial
    (fun rateLimit => ?_) (fun _ => trivial)
  refine obeys_ensure_bind trivial fun free => obeys_ensure_bind trivial fun _ => ?_
  have counting := (List.prefix_append past
    [(lock id (.rateLimit userId) (.ok ()) : Event (statements digest).interface)]).trans
      (List.prefix_append _ [(answer id (.query (.getCreationRateLimitStatus userId))
        (.ok rateLimit) : Event (statements digest).interface)])
  refine obeys_issue_bind (owns_mono opened.owns counting) trivial (fun found => ?_)
    (fun _ => trivial)
  cases found with
  | none => exact trivial
  | some owned =>
      refine obeys_ensure_bind trivial fun _ => obeys_ofExcept_bind (fun _ => trivial)
        fun window _ => ?_
      have whole := counting.trans (List.prefix_append _
        [(answer id (.query (.findOwnedRepositoryByGithubId userId
          (requestedGithubRepoId request retrySource))) (.ok (some owned)) :
            Event (statements digest).interface)])
      refine (obeys_createExclusive creates (owns_mono opened.owns whole) ?_ ?_ ?_).bind
        (fun later _ further _ => ?_) (fun _ _ _ _ => trivial)
      · intro other held acquired
        rcases acquired_append.mp acquired with before | same
        · rcases acquired_append.mp before with before | same
          · rcases acquired_append.mp before with before | same
            · exact Nat.lt_succ_of_lt (opened.ranked other held before)
            · cases same
              exact Nat.lt_succ_self 1
          · cases same
        · cases same
      · exact not_inserted_append (not_inserted_append (not_inserted_append opened.new
          fun _ _ same => by cases same) fun _ _ same => by cases same) fun _ _ same => by cases same
      · refine Or.inr ⟨?_, rateLimit, ?_, ?_⟩
        · exact List.mem_append_left _ (List.mem_append_left _
            (List.mem_append_right _ List.mem_cons_self))
        · exact List.mem_append_left _ (List.mem_append_right _ List.mem_cons_self)
        · simpa using free
      · exact (obeys_query (owns_mono opened.owns (whole.trans further))).bind
          (fun _ _ _ _ => trivial) (fun _ _ _ _ => trivial)

/-- Nothing of what a transaction does has been done yet, in any transaction. -/
def Idle (past : Past digest) : Prop :=
  forall id, (forall held, ¬Acquired past id held) ∧ ¬Inserted past id ∧ ¬Counted past id

theorem obeys_acceptInTransaction {userId : UserId} {idempotencyKey : String}
    {request : JobRequest} {retrySource : Option AnalysisJobApiRecord}
    (creates : entry.creates = true) (owns : Owns past id)
    (none : forall other held, ¬Acquired past other held) (new : ¬Inserted past id)
    (uncounted : ¬Counted past id) :
    (acceptInTransaction id userId idempotencyKey request retrySource).Obeys
      (conduct digest entry) (fun _ _ => True) past := by
  refine obeys_acquire_bind owns (fun other held acquired => absurd acquired (none other held))
    (fun same => by cases same) ?_ (fun _ => trivial)
  refine obeys_issue_bind (owns_mono owns (List.prefix_append _ _)) trivial (fun existing => ?_)
    (fun _ => trivial)
  have owned := owns_mono owns ((List.prefix_append past
    [(lock id (.idempotency userId idempotencyKey) (.ok ()) :
      Event (statements digest).interface)]).trans (List.prefix_append _
        [(answer id (.query (.findByIdempotencyKey userId idempotencyKey)) (.ok existing) :
          Event (statements digest).interface)]))
  cases existing with
  | some existing => exact obeys_replayExisting owned
  | none =>
      refine obeys_acceptNew creates ⟨owned, ?_, ?_, ?_⟩
      · intro other held acquired
        rcases acquired_append.mp acquired with before | same
        · rcases acquired_append.mp before with before | same
          · exact absurd before (none other held)
          · cases same
            exact Nat.lt_succ_self 0
        · cases same
      · exact not_inserted_append (not_inserted_append new fun _ _ same => by cases same)
          fun _ _ same => by cases same
      · intro counted
        rcases counted_append.mp counted with before | ⟨_, _, same⟩
        · rcases counted_append.mp before with before | ⟨_, _, same⟩
          · exact uncounted before
          · cases same
        · cases same

theorem idle_nil : Idle ([] : Past digest) :=
  fun _ => ⟨(fun _ acquired => by cases acquired), (fun ⟨_, _, inserted⟩ => by cases inserted),
    (fun ⟨_, _, counted⟩ => by cases counted)⟩

/-- An event that is none of these things leaves a history idle. -/
theorem Idle.append {event : Event (statements digest).interface} (idle : Idle past)
    (unlocking : forall id scope, event ≠ lock id scope (.ok ()))
    (unwritten : forall id input job, event ≠ answer id (.createJob input) (.ok job))
    (uncounted : forall id userId status,
      event ≠ answer id (.query (.getCreationRateLimitStatus userId)) (.ok status)) :
    Idle (past ++ [event]) := by
  refine fun id => ⟨fun held acquired => ?_, not_inserted_append (idle id).2.1 (unwritten id),
    fun counted => ?_⟩
  · rcases acquired_append.mp acquired with before | same
    · exact (idle id).1 held before
    · exact unlocking id held same
  · rcases counted_append.mp counted with before | ⟨userId, status, same⟩
    · exact (idle id).2.2 before
    · exact uncounted id userId status same

theorem Idle.append_silent {event : Event (statements digest).interface} (idle : Idle past)
    (silent : grants event = none) : Idle (past ++ [event]) := by
  refine idle.append ?_ ?_ ?_
  · rintro id scope rfl
    cases silent
  · rintro id input job rfl
    cases silent
  · rintro id userId status rfl
    cases silent

/-- A transaction whose commit asks nothing. -/
theorem obeys_transaction_of {α : Type} {body : Nat -> Isolated digest α}
    (unsaved : forall input, entry ≠ .save input)
    (obeys : forall id, (body id).Obeys (conduct digest entry) (fun _ _ => True)
      (past ++ [⟨.begin, .ok id⟩])) :
    (transaction body).Obeys (conduct digest entry) (fun _ _ => True) past := by
  refine obeys_transaction trivial (fun id later _ owns _ => ⟨owns, fun input same => ?_⟩)
    (fun id later owns => owns) obeys (fun _ => trivial) (fun _ _ _ _ _ _ => trivial)
  exact absurd same (unsaved input)

theorem owns_begun {id : Nat} : Owns (past ++ [⟨.begin, .ok id⟩]) id :=
  List.mem_append_right _ List.mem_cons_self

/-- A statement of its own. -/
theorem obeys_direct {asked : Statement} (unsaved : forall input, entry ≠ .save input)
    (free : forall (past : Past digest) id, entry.Issues past id asked) :
    (direct asked).Obeys (conduct digest entry) (fun _ _ => True) past :=
  obeys_transaction_of unsaved fun id =>
    obeys_issue owns_begun (free _ id) fun _ => trivial

theorem creates_unsaved (creates : entry.creates = true) (input : SaveAnalysisResultInput) :
    entry ≠ .save input := by
  rintro rfl
  cases creates

theorem obeys_acceptJob {userId : UserId} {idempotencyKey : String} {request : JobRequest}
    {retrySource : Option AnalysisJobApiRecord} (creates : entry.creates = true)
    (idle : Idle past) :
    (acceptJob userId idempotencyKey request retrySource).Obeys (conduct digest entry)
      (fun _ _ => True) past := by
  have reading : forall {later : Past digest} (asked : Query),
      (direct (.query asked)).Obeys (conduct digest entry) (fun _ _ => True) later :=
    fun asked => obeys_direct (creates_unsaved creates) fun _ _ => trivial
  refine (obeys_transaction_of (creates_unsaved creates) fun id => ?_).tryCatch
    (fun _ _ _ _ => trivial) (fun later fault _ _ => ?_)
  · have opened : Idle (past ++ [(⟨.begin, .ok id⟩ : Event (statements digest).interface)]) :=
      idle.append (fun _ _ same => by cases same) (fun _ _ _ same => by cases same)
        (fun _ _ _ same => by cases same)
    exact obeys_acceptInTransaction creates owns_begun (fun other => (opened other).1) (opened id).2.1
      (opened id).2.2
  · unfold recoverAcceptance
    split
    · refine (reading _).bind (fun _ existing _ _ => ?_) (fun _ _ _ _ => trivial)
      cases existing with
      | none => exact trivial
      | some existing =>
          refine obeys_ofExcept_bind (fun _ => trivial) fun _ _ => ?_
          exact (reading _).bind (fun _ _ _ _ => trivial) (fun _ _ _ _ => trivial)
    · exact trivial

theorem obeys_create {userId : UserId} {githubRepoId key : String}
    (creates : entry.creates = true) (idle : Idle past) :
    (create userId githubRepoId key).Obeys (conduct digest entry) (fun _ _ => True) past :=
  obeys_ensure_bind trivial fun _ =>
    (obeys_acceptJob creates idle).bind (fun _ _ _ _ => trivial) (fun _ _ _ _ => trivial)

theorem obeys_retry {userId : UserId} {sourceJobId : JobId} {key : String}
    (creates : entry.creates = true) (idle : Idle past) :
    (retry userId sourceJobId key).Obeys (conduct digest entry) (fun _ _ => True) past := by
  refine obeys_ensure_bind trivial fun _ => ?_
  have looked : (direct (.query (.findOwnedById userId sourceJobId))).Obeys
      (conduct digest entry) (fun later _ => Idle later) past := by
    refine @obeys_transaction _ _ _ (statements digest) _ _ _ _ (fun _ later _ => Idle later)
      Idle trivial (fun id later _ owns _ => ⟨owns, fun input same => ?_⟩)
      (fun id later owns => owns) (fun id => ?_) (fun fault => ?_)
      (fun id later ending event held silent => held.append_silent silent)
    · exact absurd same (creates_unsaved creates input)
    · refine obeys_issue owns_begun trivial fun outcome => ?_
      refine Idle.append (idle.append ?_ ?_ ?_) ?_ ?_ ?_
      all_goals
        intros
        rintro ⟨⟩
    · exact idle.append_silent rfl
  refine looked.bind (fun later sourceJob _ still => ?_) (fun _ _ _ _ => trivial)
  cases sourceJob with
  | none => exact trivial
  | some source =>
      refine obeys_ensure_bind trivial fun _ => ?_
      exact (obeys_acceptJob creates still).bind (fun _ _ _ _ => trivial) (fun _ _ _ _ => trivial)

/-- The key of a synchronous job marks it as one. -/
theorem startsWith_syncKey (uuid : Uuid) : startsWith (syncKey uuid) "sync:" = true := by
  rw [startsWith, syncKey, String.toList_append]
  exact List.isPrefixOf_iff_prefix.mpr (List.prefix_append _ _)

theorem obeys_sync {input : CreateAnalysisJobInput} (creates : entry.creates = true)
    (marked : startsWith input.idempotencyKey "sync:" = true) (idle : Idle past) :
    (sync input).Obeys (conduct digest entry) (fun _ _ => True) past := by
  refine obeys_ofExcept_bind (fun _ => trivial) fun _ _ => ?_
  refine Program.obeys_perform_bind trivial (fun now => ?_) (fun _ => trivial)
  refine (obeys_transaction_of (creates_unsaved creates) fun id => ?_).bind
    (fun _ _ _ _ => trivial) (fun _ _ _ _ => trivial)
  have opened : Idle (past ++ [(⟨.now, .ok now⟩ : Event (statements digest).interface)] ++
      [⟨.begin, .ok id⟩]) := by
    refine Idle.append (idle.append ?_ ?_ ?_) ?_ ?_ ?_
    all_goals
      intros
      rintro ⟨⟩
  exact obeys_createExclusive creates owns_begun
    (fun other held acquired => absurd acquired ((opened other).1 held)) (opened id).2.1 (Or.inl marked)

/-! ### Settlement -/

theorem obeys_transition {input : TransitionAnalysisJobInput} (owns : Owns past id)
    (transitions : entry.Transitions past id input) :
    (transition id input).Obeys (conduct digest entry)
      (fun later ending => forall value, ending = .ok value ->
        Answered later id (.transitionJob input) true) past := by
  have rejected : forall {past : Past digest} {error : AppError},
      (forall value : Unit, (Except.error error : Except AppError Unit) = .ok value ->
        Answered past id (.transitionJob input) true) := fun _ same => by cases same
  refine obeys_ensure_bind rejected fun _ => obeys_ofExcept_bind (fun _ => rejected) fun _ _ => ?_
  refine obeys_issue_bind owns transitions (fun transitioned => ?_) (fun _ => rejected)
  cases transitioned with
  | false => exact rejected
  | true => exact fun _ _ => List.mem_append_right _ List.mem_cons_self

theorem obeys_updateStats {input : SaveAnalysisResultInput} (owns : Owns past id)
    (ranked : forall other held, Acquired past other held -> held.rank < 3) (unscored : ¬Scored past id) :
    (updateStats id input.userId input.metrics).Obeys (conduct digest (.save input))
      (fun later ending => forall value, ending = .ok value -> Scored later id) past := by
  have rejected : forall {past : Past digest} {error : AppError},
      (forall value : Unit, (Except.error error : Except AppError Unit) = .ok value ->
        Scored past id) := fun _ same => by cases same
  have grown := List.prefix_append past
    [(lock id (.userStat input.userId) (.ok ()) : Event (statements digest).interface)]
  have still : forall {earlier : Past digest} {event : Event (statements digest).interface},
      ¬Scored earlier id -> (forall userId metrics,
        event ≠ answer id (.createStat userId metrics) (.ok ())) ->
      (forall userId scores, event ≠ answer id (.updateStat userId scores) (.ok ())) ->
      ¬Scored (earlier ++ [event]) id := by
    intro earlier event absent uncreated unchanged scored
    rcases scored_append.mp scored with before | ⟨userId, metrics, same⟩ | ⟨userId, scores, same⟩
    · exact absent before
    · exact uncreated userId metrics same
    · exact unchanged userId scores same
  have locked : ¬Scored (past ++ [lock id (.userStat input.userId) (.ok ())]) id :=
    still unscored (fun _ _ same => by cases same) (fun _ _ same => by cases same)
  refine obeys_acquire_bind owns ranked (fun same => by cases same) ?_ (fun _ => rejected)
  refine obeys_issue_bind (owns_mono owns grown) ⟨⟨input, rfl, rfl⟩,
    List.mem_append_right _ List.mem_cons_self, locked⟩ (fun existingStat => ?_) (fun _ => rejected)
  have read : ¬Scored (past ++ [lock id (.userStat input.userId) (.ok ())] ++
      [answer id (.findStat input.userId) (.ok existingStat)]) id :=
    still locked (fun _ _ same => by cases same) (fun _ _ same => by cases same)
  have whole := owns_mono owns (grown.trans (List.prefix_append _
    [(answer id (.findStat input.userId) (.ok existingStat) :
      Event (statements digest).interface)]))
  cases existingStat with
  | none =>
      refine obeys_issue whole ⟨read, ⟨input, rfl, rfl, rfl⟩,
        List.mem_append_right _ List.mem_cons_self⟩ fun outcome value same => ?_
      cases same
      exact Or.inl ⟨_, _, List.mem_append_right _ List.mem_cons_self⟩
  | some stat =>
      refine obeys_issue whole ⟨read, input, stat, rfl, rfl, rfl,
        List.mem_append_right _ List.mem_cons_self⟩ fun outcome value same => ?_
      cases same
      exact Or.inr ⟨_, _, List.mem_append_right _ List.mem_cons_self⟩

theorem obeys_refundTokens {userId : UserId} {amount : Int} {settled : Bool}
    (owns : Owns past id) :
    (refundTokens id userId amount settled).Obeys (conduct digest entry)
      (fun _ _ => True) past := by
  unfold refundTokens
  split
  · rename_i positive
    have amountPositive : 0 < amount := of_decide_eq_true (Bool.and_eq_true_iff.mp positive).2
    exact obeys_issue owns amountPositive fun _ => trivial
  · exact trivial

theorem obeys_runCompletionAction {action : Option CompletionAction} (owns : Owns past id) :
    (runCompletionAction id action).Obeys (conduct digest entry) (fun _ _ => True) past := by
  cases action with
  | none => exact trivial
  | some action => exact obeys_issue owns trivial fun _ => trivial

theorem obeys_saveAnalysisResult {input : SaveAnalysisResultInput} (owns : Owns past id)
    (ranked : forall other held, Acquired past other held -> held.rank < 3) (unscored : ¬Scored past id)
    (unreported : forall reportId, ¬Answered past id (.createReport input) reportId) :
    (saveAnalysisResult id input).Obeys (conduct digest (.save input))
      (fun later ending => forall value, ending = .ok value ->
        (TransactionEntry.save input).Finishes later id) past := by
  have rejected : forall {past : Past digest} {error : AppError},
      (forall value : Unit, (Except.error error : Except AppError Unit) = .ok value ->
        (TransactionEntry.save input).Finishes past id) := fun _ same => by cases same
  refine obeys_issue_bind owns ⟨rfl, unreported⟩ (fun reportId => ?_) (fun _ => rejected)
  have reported : Answered (past ++ [answer id (.createReport input) (.ok reportId)]) id
      (.createReport input) reportId := List.mem_append_right _ List.mem_cons_self
  have grown := List.prefix_append past
    [(answer id (.createReport input) (.ok reportId) : Event (statements digest).interface)]
  refine (obeys_updateStats (owns_mono owns grown) ?_ ?_).bind (fun counted _ further scored => ?_)
    (fun _ _ _ _ => rejected)
  · intro other held acquired
    rcases acquired_append.mp acquired with before | same
    · exact ranked other held before
    · cases same
  · intro scored
    rcases scored_append.mp scored with before | ⟨_, _, same⟩ | ⟨_, _, same⟩
    · exact unscored before
    · cases same
    · cases same
  have whole := grown.trans further
  refine (obeys_refundTokens (owns_mono owns whole)).bind (fun refunded _ onward _ => ?_)
    (fun _ _ _ _ => rejected)
  refine Program.obeys_perform_bind trivial (fun completedAt => ?_) (fun _ => rejected)
  have last := (further.trans onward).trans (List.prefix_append refunded
    [(⟨.now, .ok completedAt⟩ : Event (statements digest).interface)])
  refine (obeys_transition (owns_mono owns (grown.trans last)) (Or.inr ⟨input, reportId, completedAt,
    rfl, reported.mono last, rfl⟩)).bind (fun ended _ final transitioned => ?_)
    (fun _ _ _ _ => rejected)
  refine (obeys_runCompletionAction (owns_mono owns ((grown.trans last).trans final))).mono
    fun later ending finally_ _ value _ other same => ?_
  cases same
  have onto := ((onward.trans (List.prefix_append refunded
    [(⟨.now, .ok completedAt⟩ : Event (statements digest).interface)])).trans final).trans finally_
  refine ⟨?_, reportId, completedAt, reported.mono ((last.trans final).trans finally_),
    (transitioned () rfl).mono finally_⟩
  rcases scored () rfl with ⟨userId, metrics, created⟩ | ⟨userId, scores, changed⟩
  · exact Or.inl ⟨userId, metrics, created.mono onto⟩
  · exact Or.inr ⟨userId, scores, changed.mono onto⟩

theorem obeys_reserveWorkerTokens {input : ReserveAnalysisJobTokensInput} (owns : Owns past id) :
    (reserveWorkerTokens id input).Obeys (conduct digest (.reserve input))
      (fun _ _ => True) past := by
  refine obeys_issue_bind owns trivial (fun debited => ?_) (fun _ => trivial)
  refine obeys_ensure_bind trivial fun _ => obeys_ofExcept_bind (fun _ => trivial) fun _ _ => ?_
  exact obeys_issue_bind (owns_mono owns (List.prefix_append _ _)) rfl
    (fun _ => obeys_ensure fun _ => trivial) (fun _ => trivial)

theorem obeys_terminateWorkerJob {input : TerminateWorkerJobInput} (owns : Owns past id) :
    (terminateWorkerJob id input).Obeys (conduct digest (.terminate input))
      (fun _ _ => True) past := by
  have debit : (debitAdditionally id input).Obeys (conduct digest (.terminate input))
      (fun _ _ => True) past := by
    unfold debitAdditionally
    split
    · exact obeys_issue owns trivial fun _ => trivial
    · exact trivial
  refine debit.bind (fun paying paid further _ => ?_) (fun _ _ _ _ => trivial)
  refine (obeys_refundTokens (owns_mono owns further)).bind (fun refunded _ onward _ => ?_)
    (fun _ _ _ _ => trivial)
  have whole := further.trans onward
  refine obeys_ensure_bind trivial fun _ => ?_
  refine (obeys_transition (owns_mono owns whole) (Or.inl ⟨input, paid, rfl, rfl⟩)).bind
    (fun _ _ final _ => ?_) (fun _ _ _ _ => trivial)
  exact obeys_runCompletionAction (owns_mono owns (whole.trans final))

theorem obeys_settleFailure {input : SettleFailureInput} (owns : Owns past id) :
    (settleFailure id input).Obeys (conduct digest (.settle input)) (fun _ _ => True) past := by
  refine obeys_issue_bind owns trivial (fun row => ?_) (fun _ => trivial)
  cases row with
  | none => exact trivial
  | some job =>
      simp only
      split
      · exact trivial
      · have grown := List.prefix_append past [(answer id (.findJob input.jobId) (.ok (some job)) :
          Event (statements digest).interface)]
        refine obeys_ensure_bind trivial fun _ => ?_
        refine obeys_issue_bind (owns_mono owns grown) rfl (fun terminalized => ?_)
          (fun _ => trivial)
        refine obeys_ensure_bind trivial fun _ => ?_
        exact (obeys_refundTokens (owns_mono owns (grown.trans (List.prefix_append _ _)))).bind
          (fun _ _ _ _ => trivial) (fun _ _ _ _ => trivial)

end Isolated

/-- Every transaction keeps to the discipline of its entry. -/
theorem TransactionEntry.program_obeys (entry : TransactionEntry) :
    (entry.program : Isolated digest Unit).Obeys (conduct digest entry) (fun _ _ => True) [] := by
  have ignoring : forall {α : Type} {program : Isolated digest α},
      program.Obeys (conduct digest entry) (fun _ _ => True) [] ->
      (Isolated.ignoring program).Obeys (conduct digest entry) (fun _ _ => True) [] :=
    fun obeys => obeys.bind (fun _ _ _ _ => trivial) (fun _ _ _ _ => trivial)
  cases entry with
  | create userId githubRepoId key => exact Isolated.obeys_create rfl Isolated.idle_nil
  | retry userId sourceJobId key => exact Isolated.obeys_retry rfl Isolated.idle_nil
  | sync userId repositoryId key sourceCursor collectionCutoff =>
      exact Isolated.obeys_sync rfl (Isolated.startsWith_syncKey key) Isolated.idle_nil
  | update change =>
      exact ignoring (Isolated.obeys_direct (fun _ same => by cases same) fun _ _ => rfl)
  | reserve input =>
      exact Isolated.obeys_transaction_of (fun _ same => by cases same) fun id =>
        Isolated.obeys_reserveWorkerTokens Isolated.owns_begun
  | terminate input =>
      exact Isolated.obeys_transaction_of (fun _ same => by cases same) fun id =>
        Isolated.obeys_terminateWorkerJob Isolated.owns_begun
  | save input =>
      refine @obeys_transaction _ _ _ (statements digest) _ _ _ _
        (fun id later ending => forall value, ending = .ok value ->
          (TransactionEntry.save input).Finishes later id) (fun _ => True) trivial
        (fun id later value owns ends => ⟨owns, ends value rfl⟩) (fun id later owns => owns)
        (fun id => ?_) (fun _ => trivial) (fun _ _ _ _ _ _ => trivial)
      refine Isolated.obeys_saveAnalysisResult Isolated.owns_begun ?_ ?_ ?_
      · intro other held acquired
        rcases acquired_append.mp acquired with before | same
        · cases before
        · cases same
      · intro scored
        rcases scored_append.mp scored with before | ⟨_, _, same⟩ | ⟨_, _, same⟩
        · rcases before with ⟨_, _, before⟩ | ⟨_, _, before⟩ <;> cases before
        · cases same
        · cases same
      · intro reportId answered
        rcases answered_append.mp answered with before | same
        · cases before
        · cases same
  | settle input =>
      exact ignoring (Isolated.obeys_transaction_of (fun _ same => by cases same) fun id =>
        Isolated.obeys_settleFailure Isolated.owns_begun)
  | upsertRepository githubRepoId fullName userId =>
      have free : forall (past : Past digest) id,
          (TransactionEntry.upsertRepository githubRepoId fullName userId).Issues past id
            (.upsertRepository githubRepoId fullName userId) := fun _ _ => trivial
      exact Isolated.obeys_direct (fun _ same => by cases same) free

end GitMate
