import GitMate.Collection.RepositoryCollection
import Mathlib.Data.Finset.Card
import Mathlib.Data.Finset.Option

namespace GitMate.Collection

open Interleaving JavaScript

/-!
# The pagination loops end

The server may answer every fetch of an attempt as it likes, as long as the end
cursors of all its answers come from one finite set.  Every loop then fetches a
cursor at most once, and so it ends after at most one fetch more than there are
cursors.  The node limits bound the number of nested loops: a loop over reviews
is begun for each collected pull request, and one over comments for each
counted review.

The discipline says what may be fetched next; that a whole attempt follows it
is shown loop by loop.  The identity of a connection is that of its loop except
for comments: a review that is listed under two pull requests has its comments
fetched once for each of them.
-/

/-! ## Fetches of a history -/

/-- The fetches in their order. -/
def fetches (past : History Github) : List (Loop × Option Text) :=
  past.filterMap fun event => match event.op with
    | .fetch loop cursor => some (loop, cursor)
    | .onPage => none

@[simp] theorem fetches_nil : fetches [] = [] := rfl

theorem fetches_append (past later : History Github) :
    fetches (past ++ later) = fetches past ++ fetches later :=
  List.filterMap_append

theorem fetches_fetch (past : History Github) (loop : Loop) (cursor : Option Text)
    (outcome : Github.Outcome (.fetch loop cursor)) :
    fetches (past ++ [⟨.fetch loop cursor, outcome⟩]) = fetches past ++ [(loop, cursor)] :=
  fetches_append past _

theorem fetches_onPage (past : History Github) (outcome : Github.Outcome .onPage) :
    fetches (past ++ [⟨.onPage, outcome⟩]) = fetches past :=
  (fetches_append past _).trans (List.append_nil _)

/-- Since the start, only some loops have fetched. -/
def Adds (allowed : Loop -> Prop) (start later : History Github) : Prop :=
  Exists fun more => fetches later = fetches start ++ more ∧
    forall fetch, fetch ∈ more -> allowed fetch.1

theorem Adds.refl (allowed : Loop -> Prop) (start : History Github) : Adds allowed start start :=
  ⟨[], (List.append_nil _).symm, nofun⟩

theorem Adds.trans {allowed : Loop -> Prop} {start middle later : History Github}
    (first : Adds allowed start middle) (second : Adds allowed middle later) :
    Adds allowed start later := by
  rcases first with ⟨one, before, among⟩
  rcases second with ⟨two, after, within⟩
  refine ⟨one ++ two, ?_, fun fetch member => ?_⟩
  · rw [after, before, List.append_assoc]
  · rcases List.mem_append.1 member with early | late
    · exact among fetch early
    · exact within fetch late

theorem Adds.mono {narrow wide : Loop -> Prop} {start later : History Github}
    (adds : Adds narrow start later) (implies : forall loop, narrow loop -> wide loop) :
    Adds wide start later := by
  rcases adds with ⟨more, grown, among⟩
  exact ⟨more, grown, fun fetch member => implies _ (among fetch member)⟩

/-- A fetch that has been made was made before or by an allowed loop. -/
theorem Adds.mem {allowed : Loop -> Prop} {start later : History Github}
    (adds : Adds allowed start later) {fetch : Loop × Option Text}
    (member : fetch ∈ fetches later) : fetch ∈ fetches start ∨ allowed fetch.1 := by
  rcases adds with ⟨more, grown, among⟩
  rw [grown] at member
  exact (List.mem_append.1 member).imp_right (among fetch)

/-! ## The discipline -/

/-- The page information of a response, if it is well formed. -/
def givenPageInfo {ν : Type} (connection : Option (Connection ν)) : Option PageInfo :=
  connection.bind fun connection => match connection.pageInfo with
    | .given pageInfo => some pageInfo
    | _ => none

def replyPageInfo : (op : GithubOp) -> op.Reply -> Option PageInfo
  | .fetch .pullRequests _, response =>
      response.bind fun (response : RepositoryQueryResponse) => givenPageInfo response.pullRequests
  | .fetch (.reviews _) _, response =>
      response.bind fun (response : PullRequestReviewsQueryResponse) =>
        response.node.bind fun node => givenPageInfo node.reviews
  | .fetch (.comments ..) _, response =>
      response.bind fun (response : ReviewCommentsQueryResponse) =>
        response.node.bind fun node => givenPageInfo node.comments
  | .onPage, _ => none

/-- The end cursor of the page, trimmed, is one of the given ones. -/
def DrawnFrom (cursors : Finset Text) (pageInfo : PageInfo) : Prop :=
  forall endCursor, pageInfo.endCursor = some endCursor -> trim endCursor ∈ cursors

/-- A fetch may fail for a reason of its own; if it is answered, the end cursor
comes from the set. -/
def Answers (cursors : Finset Text) (op : GithubOp) (outcome : Github.Outcome op) : Prop :=
  match outcome with
  | .ok reply => forall pageInfo, replyPageInfo op reply = some pageInfo ->
      DrawnFrom cursors pageInfo
  | .error error => error = .request

/-- What has to hold for a loop to begin: the nested loops that have begun so
far belong to fewer nodes than the limit. -/
def MayBegin (past : History Github) : Loop -> Prop
  | .pullRequests => True
  | .reviews _ => Exists fun known : List Text => known.length < CHANGED_PULL_REQUESTS ∧
      forall pullRequestId cursor, (.reviews pullRequestId, cursor) ∈ fetches past ->
        pullRequestId ∈ known
  | .comments pullRequestId _ =>
      Exists fun known : List Text => known.length < REVIEW_AND_COMMENT_NODES ∧
        forall reviewId cursor, (.comments pullRequestId reviewId, cursor) ∈ fetches past ->
          reviewId ∈ known

/-- A loop may fetch what it has not fetched before. -/
structure MayFetch (cursors : Finset Text) (past : History Github) (loop : Loop)
    (cursor : Option Text) : Prop where
  fresh : (loop, cursor) ∉ fetches past
  drawn : forall next, cursor = some next -> next ∈ cursors
  begins : cursor = none -> MayBegin past loop

def following (cursors : Finset Text) : Discipline Github where
  Permits past op := match op with
    | .fetch loop cursor => MayFetch cursors past loop cursor
    | .onPage => True
  Credible := Answers cursors

/-- The error is one that the code throws, or a request has failed with it. -/
def Explained (later : History Github) (error : CollectionError) : Prop :=
  error.isRejection = true ∨ Exists fun op => (⟨op, .error error⟩ : Event Github) ∈ later

/-! ## What the checks return -/

/-- The result of a check is accepted, or its error is one that the code
throws. -/
def Sound {α : Type} (accepts : α -> Prop) : Except CollectionError α -> Prop
  | .ok value => accepts value
  | .error error => error.isRejection = true

theorem Sound.bind {α β : Type} {accepts : α -> Prop} {ends : β -> Prop}
    {result : Except CollectionError α} {next : α -> Except CollectionError β}
    (sound : Sound accepts result) (continues : forall value, accepts value -> Sound ends (next value)) :
    Sound ends (result >>= next) := by
  cases result with
  | ok value => exact continues value sound
  | error error => exact sound

theorem Sound.mono {α : Type} {narrow wide : α -> Prop} {result : Except CollectionError α}
    (sound : Sound narrow result) (implies : forall value, narrow value -> wide value) :
    Sound wide result := by
  cases result with
  | ok value => exact implies value sound
  | error error => exact sound

/-- A check does nothing. -/
theorem obeys_ofExcept {α : Type} {D : Discipline Github} {accepts : α -> Prop}
    {past : History Github} {result : Except CollectionError α} (sound : Sound accepts result) :
    Program.Obeys D (fun later ending => later = past ∧ Sound accepts ending) past
      (Collecting.ofExcept result) := by
  cases result with
  | ok value => exact ⟨rfl, sound⟩
  | error error => exact ⟨rfl, sound⟩

section Checks

variable {ν : Type} {connection : String}

theorem assertConnection_sound (found : Option (Connection ν)) :
    Sound (fun checked => givenPageInfo found = some checked.2)
      (assertConnection connection found) := by
  unfold assertConnection
  split <;> rfl

theorem assertParentId_sound (actual : Option Text) (expected : Text) :
    Sound (fun _ => True) (assertParentId connection actual expected) := by
  unfold assertParentId
  split
  · rfl
  · split
    · rfl
    · split
      · rfl
      · trivial

theorem nextCursor_sound (pageInfo : PageInfo) (currentCursor : Option Text) (nodeCount : Nat)
    (visitedCursors : List Text) :
    Sound (fun next => (Exists fun endCursor => pageInfo.endCursor = some endCursor ∧
        trim endCursor = next) ∧ next ∉ visitedCursors)
      (nextCursor connection pageInfo currentCursor nodeCount visitedCursors) := by
  unfold nextCursor
  simp only
  split
  · rfl
  · rename_i present
    split
    · rfl
    · split
      · rfl
      · rename_i fresh
        refine ⟨?_, fun member => fresh (.inr member)⟩
        cases given : pageInfo.endCursor with
        | none => exact absurd (by rw [given]; rfl) present
        | some endCursor => exact ⟨endCursor, rfl, rfl⟩

theorem parseGithubDate_sound (parseDate : Text -> Option Instant) (value : Option Text)
    (field : String) : Sound (fun _ => True) (parseGithubDate parseDate value field) := by
  unfold parseGithubDate
  split
  · rfl
  · split
    · rfl
    · split
      · trivial
      · rfl

theorem readNode_sound (listed : Listed ν) : Sound (fun _ => True) (readNode listed connection) := by
  unfold readNode
  split
  · rfl
  · rfl
  · trivial

theorem incrementNestedNodeCount_sound (state : CollectionState) :
    Sound (fun after => state.reviewAndCommentCount < REVIEW_AND_COMMENT_NODES ∧
        after = { state with reviewAndCommentCount := state.reviewAndCommentCount + 1 })
      (incrementNestedNodeCount state) := by
  unfold incrementNestedNodeCount
  simp only
  split
  · rfl
  · rename_i within
    exact ⟨not_lt.1 within, rfl⟩

/-- The ids that a map knows. -/
def NodeMap.ids (entries : NodeMap) : List Text := entries.map Prod.fst

theorem lookup_eq_none_iff {entries : NodeMap} {key : Text} :
    entries.lookup key = none ↔ key ∉ entries.ids := by
  rw [List.lookup_eq_none_iff]
  unfold NodeMap.ids
  simp only [List.mem_map, not_exists, not_and, bne_iff_ne, ne_eq]
  exact ⟨fun apart entry member same => apart entry member same.symm,
    fun apart entry member same => apart entry member same.symm⟩

/-- A node that is seen for the first time is added, any other changes
nothing. -/
def Observed (id serialized : Text) (seenNodes : NodeMap) (firstObservation : Bool)
    (after : NodeMap) : Prop :=
  (firstObservation = true ∧ after = seenNodes ++ [(id, serialized)] ∧ id ∉ seenNodes.ids) ∨
    (firstObservation = false ∧ after = seenNodes)

theorem observeUniqueNode_sound (id serialized : Text) (seenNodes : NodeMap) :
    Sound (fun observed => Observed id serialized seenNodes observed.1 observed.2)
      (observeUniqueNode id serialized seenNodes connection) := by
  unfold observeUniqueNode
  split
  · rfl
  · split
    · rename_i unseen
      refine .inl ⟨rfl, ?_, lookup_eq_none_iff.1 unseen⟩
      unfold NodeMap.set
      rw [unseen]
      rfl
    · split
      · rfl
      · exact .inr ⟨rfl, rfl⟩

theorem observeOwnedUniqueNode_sound (id serialized ownerId : Text) (seenNodes owners : NodeMap) :
    Sound (fun observed => Observed id serialized seenNodes observed.1 observed.2.1)
      (observeOwnedUniqueNode id serialized ownerId seenNodes owners connection) := by
  unfold observeOwnedUniqueNode
  split
  · rfl
  · exact (observeUniqueNode_sound id serialized seenNodes).bind fun observed found => found

end Checks

/-! ## One loop -/

/-- Where a loop stands before a fetch: what it has fetched is the first page
and the visited cursors, all of them different. -/
structure AtPage (cursors : Finset Text) (loop : Loop) (past : History Github)
    (cursor : Option Text) (visitedCursors : List Text) : Prop where
  fresh : (loop, cursor) ∉ fetches past
  current : cursor = none ∨ Exists fun next => next ∈ visitedCursors ∧ cursor = some next
  earlier : forall fetched, (loop, fetched) ∈ fetches past ->
    fetched = none ∨ Exists fun next => next ∈ visitedCursors ∧ fetched = some next
  nodup : visitedCursors.Nodup
  drawn : forall next, next ∈ visitedCursors -> next ∈ cursors

theorem AtPage.first {cursors : Finset Text} {loop : Loop} {past : History Github}
    (unread : forall cursor, (loop, cursor) ∉ fetches past) : AtPage cursors loop past none [] where
  fresh := unread none
  current := .inl rfl
  earlier := fun fetched member => absurd member (unread fetched)
  nodup := List.nodup_nil
  drawn := nofun

/-- There are no more visited cursors than cursors. -/
theorem AtPage.length_le {cursors : Finset Text} {loop : Loop} {past : History Github}
    {cursor : Option Text} {visitedCursors : List Text}
    (place : AtPage cursors loop past cursor visitedCursors) :
    visitedCursors.length ≤ cursors.card := by
  rw [← List.toFinset_card_of_nodup place.nodup]
  exact Finset.card_le_card fun next member => place.drawn next (List.mem_toFinset.1 member)

/-- The page has been fetched, nested loops may have run, and its end cursor is
a new one. -/
theorem AtPage.next {cursors : Finset Text} {loop : Loop} {past middle later : History Github}
    {cursor : Option Text} {visitedCursors : List Text} {next : Text}
    (place : AtPage cursors loop past cursor visitedCursors)
    (fetched : fetches middle = fetches past ++ [(loop, cursor)])
    (nested : Adds (· ≠ loop) middle later) (drawn : next ∈ cursors)
    (unvisited : next ∉ visitedCursors) :
    AtPage cursors loop later (some next) (visitedCursors ++ [next]) := by
  have known : forall fetch, (loop, fetch) ∈ fetches later ->
      fetch = none ∨ Exists fun visited => visited ∈ visitedCursors ∧ fetch = some visited := by
    intro fetch member
    rcases nested.mem member with before | other
    · rw [fetched] at before
      rcases List.mem_append.1 before with early | now
      · exact place.earlier fetch early
      · cases List.mem_singleton.1 now
        exact place.current
    · exact absurd rfl other
  refine ⟨fun member => ?_, .inr ⟨next, List.mem_append_right _ List.mem_cons_self, rfl⟩,
    fun fetch member => (known fetch member).imp_right fun ⟨visited, among, same⟩ =>
      ⟨visited, List.mem_append_left _ among, same⟩, ?_, fun visited member => ?_⟩
  · rcases known _ member with none' | ⟨visited, among, same⟩
    · cases none'
    · cases same
      exact unvisited among
  · exact List.nodup_append.2 ⟨place.nodup, List.nodup_singleton next, fun visited member other single =>
      List.mem_singleton.1 single ▸ fun same => unvisited (same ▸ member)⟩
  · rcases List.mem_append.1 member with early | now
    · exact place.drawn visited early
    · exact List.mem_singleton.1 now ▸ drawn

/-- A page was fetched, or the fetch or its checks have failed. -/
def Fetched {ν : Type} (cursors : Finset Text) (past : History Github) (loop : Loop)
    (cursor : Option Text) : Github.Post (Page ν) :=
  fun later ending => match ending with
    | .ok page => fetches later = fetches past ++ [(loop, cursor)] ∧ DrawnFrom cursors page.pageInfo
    | .error error => Explained later error

section Loop

variable {cursors : Finset Text} {ν σ α : Type} {connection : String} {loop : Loop}
  {fetchPage : Option Text -> Collecting (Page ν)} {visit : Page ν -> σ -> Collecting (Visit σ α)}
  {finish : σ -> α} {ends : Github.Post α}

/-- A loop whose fuel exceeds the number of cursors never runs out of it.  Its
visits may run other loops; `keeps` is what they keep up besides. -/
theorem obeys_paginate (keeps : History Github -> σ -> Prop)
    (fetch : forall past cursor, MayFetch cursors past loop cursor ->
      Program.Obeys (following cursors) (Fetched cursors past loop cursor) past (fetchPage cursor))
    (kept : forall past later cursor state, keeps past state ->
      fetches later = fetches past ++ [(loop, cursor)] -> keeps later state)
    (visits : forall past page state, keeps past state ->
      Program.Obeys (following cursors) (fun later ending => match ending with
        | .ok (Visit.proceed state) => keeps later state ∧ Adds (· ≠ loop) past later
        | .ok (Visit.leave result) => ends later (.ok result)
        | .error error => ends later (.error error)) past (visit page state))
    (finishes : forall past state, keeps past state -> ends past (.ok (finish state)))
    (fails : forall past error, Explained past error -> ends past (.error error))
    {fuel : Nat} {cursor : Option Text} {visitedCursors : List Text} {state : σ}
    {past : History Github} (enough : cursors.card + 1 ≤ visitedCursors.length + fuel)
    (place : AtPage cursors loop past cursor visitedCursors)
    (begins : cursor = none -> MayBegin past loop) (holds : keeps past state) :
    Program.Obeys (following cursors) ends past
      (paginate connection fetchPage visit finish fuel cursor visitedCursors state) := by
  induction fuel generalizing past cursor visitedCursors state with
  | zero =>
      have most := place.length_le
      omega
  | succ fuel inductionHypothesis =>
      have may : MayFetch cursors past loop cursor := by
        refine ⟨place.fresh, fun next same => ?_, begins⟩
        rcases place.current with first | ⟨visited, member, here⟩
        · rw [first] at same
          cases same
        · rw [here] at same
          exact Option.some.inj same ▸ place.drawn visited member
      refine (fetch past cursor may).bind (fun middle page _ fetched => ?_)
        (fun later error _ explained => fails later error explained)
      refine (visits middle page state (kept past middle cursor state holds fetched.1)).bind
        (fun later visited _ verdict => ?_) (fun later error _ failed => failed)
      cases visited with
      | leave result => exact verdict
      | proceed after =>
          change Program.Obeys _ _ _ (if page.pageInfo.hasNextPage = false then _ else _)
          split
          · exact finishes later after verdict.1
          · refine (obeys_ofExcept (nextCursor_sound page.pageInfo cursor page.nodes.length
              visitedCursors)).bind (fun final next _ found => ?_) (fun final error _ found => ?_)
            · rcases found with ⟨rfl, ⟨endCursor, given, same⟩, unvisited⟩
              refine inductionHypothesis ?_ (place.next fetched.1 verdict.2
                (same ▸ fetched.2 endCursor given) unvisited) nofun verdict.1
              rw [List.length_append, List.length_singleton]
              omega
            · exact fails final error (.inl found.2)

end Loop

/-! ## Fetching and checking a page -/

section Fetch

variable {parseDate : Text -> Option Instant} {input : CollectAttemptInput} {cursors : Finset Text}

theorem obeys_notifyPage {past : History Github} :
    Program.Obeys (following cursors) (fun later ending => match ending with
      | .ok _ => fetches later = fetches past
      | .error error => Explained later error) past (notifyPage input) := by
  unfold notifyPage
  by_cases asked : input.onPage = true
  · rw [if_pos asked]
    refine (@Program.obeys_perform Github (following cursors) past .onPage trivial).mono
      fun later ending _ performed => ?_
    rcases performed with ⟨rfl, _⟩
    cases ending with
    | ok reply => exact fetches_onPage past _
    | error error => exact .inr ⟨_, List.mem_append_right _ List.mem_cons_self⟩
  · rw [if_neg asked]
    exact rfl

/-- An accepted page has the page information of the response. -/
theorem obeys_fetchPage {ν ρ : Type} {loop : Loop} {cursor : Option Text}
    {check : ρ -> Except CollectionError (Page ν)} {past : History Github}
    (sort : GithubOp.Reply (.fetch loop cursor) = Option ρ)
    (sound : forall response : ρ, Sound (fun page =>
      replyPageInfo (.fetch loop cursor) (cast sort.symm (some response)) = some page.pageInfo)
        (check response))
    (may : MayFetch cursors past loop cursor) :
    Program.Obeys (following cursors) (Fetched cursors past loop cursor) past
      ((Program.perform (I := Github) (.fetch loop cursor)).bind fun reply =>
        checkedPage input check (cast sort reply)) := by
  refine (@Program.obeys_perform Github (following cursors) past (.fetch loop cursor) may).bind
    (fun middle reply _ performed => ?_) (fun later error _ performed => ?_)
  · rcases performed with ⟨rfl, answered⟩
    unfold checkedPage
    refine (@obeys_ofExcept _ _ (fun response => cast sort reply = some response) _ _ ?_).bind
      (fun later response _ read => ?_) (fun later error _ failed => .inl failed.2)
    · split
      · assumption
      · rfl
    rcases read with ⟨rfl, read⟩
    refine (obeys_ofExcept (sound response)).bind (fun final page _ accepted => ?_)
      (fun final error _ failed => .inl failed.2)
    rcases accepted with ⟨rfl, known⟩
    rw [← read, cast_cast, cast_eq] at known
    refine obeys_notifyPage.bind (fun last _ _ notified => ?_) (fun last error _ failed => failed)
    exact ⟨notified.trans (fetches_fetch past loop cursor _), answered page.pageInfo known⟩
  · rcases performed with ⟨rfl, _⟩
    exact .inr ⟨_, List.mem_append_right _ List.mem_cons_self⟩

end Fetch

/-! ## The loop over comments -/

section Comments

variable {parseDate : Text -> Option Instant} {input : CollectAttemptInput} {cursors : Finset Text}
  {pullRequestId reviewId : Text}

theorem checkReviewComments_sound (response : ReviewCommentsQueryResponse) :
    Sound (fun page =>
        response.node.bind (fun node => givenPageInfo node.comments) = some page.pageInfo)
      (checkReviewComments parseDate pullRequestId reviewId response) := by
  unfold checkReviewComments
  cases response.node with
  | none => rfl
  | some node =>
      refine (assertParentId_sound node.id reviewId).bind fun _ _ => ?_
      cases node.pullRequest with
      | none => rfl
      | some pullRequest =>
          refine (assertParentId_sound pullRequest.id pullRequestId).bind fun _ _ => ?_
          refine (parseGithubDate_sound _ _ _).bind fun _ _ => ?_
          exact (assertConnection_sound node.comments).bind fun _ known => known

theorem obeys_fetchReviewComments {past : History Github} {cursor : Option Text}
    (may : MayFetch cursors past (.comments pullRequestId reviewId) cursor) :
    Program.Obeys (following cursors)
      (Fetched cursors past (.comments pullRequestId reviewId) cursor) past
      (fetchReviewComments parseDate input pullRequestId reviewId cursor) :=
  obeys_fetchPage rfl checkReviewComments_sound may

/-- Comments leave the observed reviews alone and only add to the count. -/
def CommentsOnly (before after : CollectionState) : Prop :=
  after.reviewNodes = before.reviewNodes ∧
    before.reviewAndCommentCount ≤ after.reviewAndCommentCount

theorem observeComments_sound (nodes : List (Listed ReviewCommentNode))
    (collected : List ReviewCommentDto × CollectionState) :
    Sound (fun after => CommentsOnly collected.2 after.2)
      (observeComments parseDate reviewId nodes collected) := by
  induction nodes generalizing collected with
  | nil => exact ⟨rfl, le_rfl⟩
  | cons listed rest inductionHypothesis =>
      rcases collected with ⟨comments, state⟩
      refine (readNode_sound listed).bind fun comment _ => ?_
      refine (observeOwnedUniqueNode_sound _ _ _ _ _).bind fun observed _ => ?_
      rcases observed with ⟨firstObservation, commentNodes, commentOwners⟩
      cases firstObservation with
      | false => exact inductionHypothesis (comments, state)
      | true =>
          refine (incrementNestedNodeCount_sound _).bind fun counted increment => ?_
          refine (parseGithubDate_sound _ _ _).bind fun _ _ => ?_
          refine (inductionHypothesis _).mono fun after grown => ?_
          rw [increment.2] at grown
          exact ⟨grown.1, (Nat.le_succ _).trans grown.2⟩

/-- The loop over the comments of one review. -/
theorem obeys_collectComments {fuel : Nat} {start : History Github} {state : CollectionState}
    (enough : cursors.card + 1 ≤ fuel)
    (unread : forall cursor, (.comments pullRequestId reviewId, cursor) ∉ fetches start)
    (begins : MayBegin start (.comments pullRequestId reviewId)) :
    Program.Obeys (following cursors) (fun later ending => match ending with
      | .ok collected => Adds (· = .comments pullRequestId reviewId) start later ∧
          forall comments after, collected = some (comments, after) -> CommentsOnly state after
      | .error error => Explained later error) start
      (collectComments parseDate input fuel pullRequestId reviewId state) := by
  refine obeys_paginate
    (fun past collected => Adds (· = .comments pullRequestId reviewId) start past ∧
      CommentsOnly state collected.2)
    (fun past cursor may => obeys_fetchReviewComments may)
    (fun past later cursor collected kept fetched => ?_)
    (fun past page collected kept => ?_)
    (fun past collected kept => ⟨kept.1, fun comments after same => ?_⟩)
    (fun past error explained => explained) ?_ (.first unread) (fun _ => begins)
    ⟨.refl _ _, rfl, le_rfl⟩
  · exact ⟨kept.1.trans ⟨_, fetched, fun fetch member => List.mem_singleton.1 member ▸ rfl⟩,
      kept.2⟩
  · unfold visitComments
    split
    · exact ⟨kept.1, nofun⟩
    · refine (obeys_ofExcept (observeComments_sound page.nodes collected)).bind
        (fun later after _ observed => ?_) (fun later error _ failed => .inl failed.2)
      rcases observed with ⟨rfl, grown⟩
      exact ⟨⟨kept.1, grown.1.trans kept.2.1, kept.2.2.trans grown.2⟩, .refl _ _⟩
  · rw [List.length_nil, Nat.zero_add]
    exact enough
  · cases same
    exact kept.2

end Comments

/-! ## The loop over reviews -/

section Reviews

variable {parseDate : Text -> Option Instant} {input : CollectAttemptInput} {cursors : Finset Text}
  {pullRequestId : Text}

/-- The loop over the reviews of a pull request, or one nested in it. -/
def BelongsTo (pullRequestId : Text) (loop : Loop) : Prop :=
  loop = .reviews pullRequestId ∨ Exists fun reviewId => loop = .comments pullRequestId reviewId

theorem checkReviews_sound (response : PullRequestReviewsQueryResponse) :
    Sound (fun page =>
        response.node.bind (fun node => givenPageInfo node.reviews) = some page.pageInfo)
      (checkReviews parseDate pullRequestId response) := by
  unfold checkReviews
  cases response.node with
  | none => rfl
  | some node =>
      refine (assertParentId_sound node.id pullRequestId).bind fun _ _ => ?_
      refine (parseGithubDate_sound _ _ _).bind fun _ _ => ?_
      exact (assertConnection_sound node.reviews).bind fun _ known => known

theorem obeys_fetchPullRequestReviews {past : History Github} {cursor : Option Text}
    (may : MayFetch cursors past (.reviews pullRequestId) cursor) :
    Program.Obeys (following cursors) (Fetched cursors past (.reviews pullRequestId) cursor) past
      (fetchPullRequestReviews parseDate input pullRequestId cursor) :=
  obeys_fetchPage rfl checkReviews_sound may

/-- The loops over comments belong to observed reviews, and every observed
review was counted. -/
structure ReviewsKept (pullRequestId : Text) (past : History Github) (state : CollectionState) :
    Prop where
  observed : forall reviewId cursor, (.comments pullRequestId reviewId, cursor) ∈ fetches past ->
    reviewId ∈ state.reviewNodes.ids
  counted : state.reviewNodes.ids.length ≤ state.reviewAndCommentCount

/-- A review that is seen for the first time is counted, and then its comments
may be collected. -/
theorem ReviewsKept.begins {past : History Github} {state counted : CollectionState}
    {review : ReviewNode} {reviewNodes reviewOwners : NodeMap}
    (kept : ReviewsKept pullRequestId past state) (unseen : review.id ∉ state.reviewNodes.ids)
    (added : reviewNodes = state.reviewNodes ++ [(review.id, review.serialized)])
    (increment : state.reviewAndCommentCount < REVIEW_AND_COMMENT_NODES ∧
      counted = { state with
        reviewNodes := reviewNodes
        reviewOwners := reviewOwners
        reviewAndCommentCount := state.reviewAndCommentCount + 1 }) :
    (forall cursor, (.comments pullRequestId review.id, cursor) ∉ fetches past) ∧
      MayBegin past (.comments pullRequestId review.id) ∧
      ReviewsKept pullRequestId past counted ∧ review.id ∈ counted.reviewNodes.ids := by
  have ids : counted.reviewNodes.ids = state.reviewNodes.ids ++ [review.id] := by
    rw [increment.2, added]
    exact List.map_append
  refine ⟨fun cursor member => unseen (kept.observed review.id cursor member),
    ⟨state.reviewNodes.ids, kept.counted.trans_lt increment.1, kept.observed⟩, ⟨?_, ?_⟩, ?_⟩
  · intro reviewId cursor member
    rw [ids]
    exact List.mem_append_left _ (kept.observed reviewId cursor member)
  · rw [ids, List.length_append, List.length_singleton, increment.2]
    exact Nat.succ_le_succ kept.counted
  · rw [ids]
    exact List.mem_append_right _ List.mem_cons_self

/-- Comments of an observed review were collected. -/
theorem ReviewsKept.collected {past later : History Github} {state after : CollectionState}
    {reviewId : Text} (kept : ReviewsKept pullRequestId past state)
    (adds : Adds (· = .comments pullRequestId reviewId) past later)
    (known : reviewId ∈ state.reviewNodes.ids) (only : CommentsOnly state after) :
    ReviewsKept pullRequestId later after := by
  refine ⟨fun other cursor member => ?_, ?_⟩
  · rw [only.1]
    rcases adds.mem member with before | now
    · exact kept.observed other cursor before
    · cases now
      exact known
  · rw [only.1]
    exact kept.counted.trans only.2

/-- What the reviews of a page lead to. -/
def ReviewsVisited (pullRequestId : Text) (past : History Github) :
    Github.Post (Visit (List ReviewDto × CollectionState)
      (Option (List ReviewDto × CollectionState))) :=
  fun later ending => match ending with
    | .ok visit => Adds (fun loop => Exists fun reviewId => loop = .comments pullRequestId reviewId)
        past later ∧ forall collected, visit = .proceed collected ->
          ReviewsKept pullRequestId later collected.2
    | .error error => Explained later error

theorem obeys_observeReviews {fuel : Nat} {past : History Github} (nodes : List (Listed ReviewNode))
    (collected : List ReviewDto × CollectionState) (enough : cursors.card + 1 ≤ fuel)
    (kept : ReviewsKept pullRequestId past collected.2) :
    Program.Obeys (following cursors) (ReviewsVisited pullRequestId past) past
      (observeReviews parseDate input fuel pullRequestId nodes collected) := by
  induction nodes generalizing past collected with
  | nil => exact ⟨.refl _ _, fun _ same => by cases same; exact kept⟩
  | cons listed rest inductionHypothesis =>
      rcases collected with ⟨reviews, state⟩
      refine (obeys_ofExcept (readNode_sound listed)).bind (fun later review _ read => ?_)
        (fun later error _ failed => .inl failed.2)
      rcases read with ⟨rfl, _⟩
      refine (obeys_ofExcept (observeOwnedUniqueNode_sound _ _ _ _ _)).bind
        (fun later observed _ found => ?_) (fun later error _ failed => .inl failed.2)
      rcases found with ⟨rfl, found⟩
      rcases observed with ⟨firstObservation, reviewNodes, reviewOwners⟩
      rcases found with ⟨rfl, added, unseen⟩ | ⟨rfl, _⟩
      · refine (obeys_ofExcept (incrementNestedNodeCount_sound _)).bind
          (fun later counted _ increment => ?_) (fun later error _ failed => .inl failed.2)
        rcases increment with ⟨rfl, increment⟩
        rcases kept.begins unseen added increment with ⟨unread, begins, observed, known⟩
        refine (obeys_collectComments enough unread begins).bind
          (fun after comments _ ended => ?_) (fun later error _ explained => explained)
        have nested := ended.1.mono fun loop same =>
          (⟨review.id, same⟩ : Exists fun reviewId => loop = .comments pullRequestId reviewId)
        cases comments with
        | none => exact ⟨nested, nofun⟩
        | some collected =>
            refine (inductionHypothesis _ (observed.collected ended.1 known
              (ended.2 collected.1 collected.2 rfl))).mono fun last ending _ visited => ?_
            cases ending with
            | ok visit => exact ⟨nested.trans visited.1, visited.2⟩
            | error error => exact visited
      · exact inductionHypothesis (reviews, state) kept

/-- The loop over the reviews of one pull request, with its nested loops. -/
theorem obeys_collectReviews {fuel : Nat} {start : History Github} (enough : cursors.card + 1 ≤ fuel)
    (unread : forall loop cursor, BelongsTo pullRequestId loop -> (loop, cursor) ∉ fetches start)
    (begins : MayBegin start (.reviews pullRequestId)) :
    Program.Obeys (following cursors) (fun later ending => match ending with
      | .ok _ => Adds (BelongsTo pullRequestId) start later
      | .error error => Explained later error) start
      (collectReviews parseDate input fuel pullRequestId .empty) := by
  refine obeys_paginate
    (fun past collected => Adds (BelongsTo pullRequestId) start past ∧
      ReviewsKept pullRequestId past collected.2)
    (fun past cursor may => obeys_fetchPullRequestReviews may)
    (fun past later cursor collected kept fetched => ?_)
    (fun past page collected kept => ?_) (fun past collected kept => kept.1)
    (fun past error explained => explained) ?_
    (.first fun cursor => unread _ cursor (.inl rfl)) (fun _ => begins) ⟨.refl _ _, ?_, le_rfl⟩
  · have adds : Adds (· = .reviews pullRequestId) past later :=
      ⟨_, fetched, fun fetch member => List.mem_singleton.1 member ▸ rfl⟩
    refine ⟨kept.1.trans (adds.mono fun _ => .inl), fun reviewId cursor member => ?_,
      kept.2.counted⟩
    rcases adds.mem member with before | now
    · exact kept.2.observed reviewId cursor before
    · cases now
  · unfold visitReviews
    split
    · exact kept.1
    · refine (obeys_observeReviews page.nodes collected enough kept.2).mono
        fun later ending _ visited => ?_
      cases ending with
      | error error => exact visited
      | ok visit =>
          have nested := kept.1.trans (visited.1.mono fun _ => .inr)
          cases visit with
          | leave result => exact nested
          | proceed after =>
              refine ⟨⟨nested, visited.2 after rfl⟩, visited.1.mono fun loop among => ?_⟩
              rcases among with ⟨reviewId, rfl⟩
              exact nofun
  · rw [List.length_nil, Nat.zero_add]
    exact enough
  · exact fun reviewId cursor member => absurd member (unread _ cursor (.inr ⟨reviewId, rfl⟩))

end Reviews

/-! ## The loop over pull requests -/

section PullRequests

variable {parseDate : Text -> Option Instant} {input : CollectAttemptInput} {cursors : Finset Text}

/-- Different pull requests, no more than the limit. -/
structure Distinct (pullRequests : List PullRequestNode) : Prop where
  nodup : (pullRequests.map PullRequestNode.id).Nodup
  limit : pullRequests.length ≤ CHANGED_PULL_REQUESTS

/-- Every collected pull request has been seen. -/
structure PullRequestsKept (collected : List PullRequestNode × NodeMap) : Prop extends
    Distinct collected.1 where
  seen : forall id, id ∈ collected.1.map PullRequestNode.id -> id ∈ collected.2.ids

/-- Seeing a node again changes nothing for those collected. -/
theorem PullRequestsKept.observed {collected : List PullRequestNode} {seenNodes after : NodeMap}
    {id serialized : Text} {firstObservation : Bool} (kept : PullRequestsKept (collected, seenNodes))
    (found : Observed id serialized seenNodes firstObservation after) :
    PullRequestsKept (collected, after) := by
  refine ⟨kept.toDistinct, fun known member => ?_⟩
  rcases found with ⟨_, rfl, _⟩ | ⟨_, rfl⟩
  · unfold NodeMap.ids
    rw [List.map_append]
    exact List.mem_append_left _ (kept.seen known member)
  · exact kept.seen known member

/-- A pull request that is seen for the first time may be collected. -/
theorem PullRequestsKept.collect {collected : List PullRequestNode} {seenNodes after : NodeMap}
    {pullRequest : PullRequestNode} (kept : PullRequestsKept (collected, seenNodes))
    (found : Observed pullRequest.id pullRequest.serialized seenNodes true after)
    (within : collected.length + 1 ≤ CHANGED_PULL_REQUESTS) :
    PullRequestsKept (collected ++ [pullRequest], after) := by
  rcases found with ⟨_, rfl, unseen⟩ | ⟨impossible, _⟩
  · have ids : (seenNodes ++ [(pullRequest.id, pullRequest.serialized)]).ids =
        seenNodes.ids ++ [pullRequest.id] := List.map_append
    refine ⟨⟨?_, ?_⟩, fun id member => ?_⟩
    · rw [List.map_append]
      refine List.nodup_append.2 ⟨kept.nodup, List.nodup_singleton _, fun id member other single => ?_⟩
      rw [List.mem_singleton.1 single]
      exact fun same => unseen (same ▸ kept.seen id member)
    · rw [List.length_append, List.length_singleton]
      exact within
    · rw [ids]
      rw [List.map_append] at member
      exact List.mem_append.2 ((List.mem_append.1 member).imp_left (kept.seen id))
  · cases impossible

theorem observePullRequests_sound (nodes : List (Listed PullRequestNode))
    (collected : List PullRequestNode × NodeMap) (kept : PullRequestsKept collected) :
    Sound (fun visit => match visit with
      | .proceed after => PullRequestsKept after
      | .leave result => Distinct result)
      (observePullRequests parseDate input nodes collected) := by
  induction nodes generalizing collected with
  | nil => exact kept
  | cons listed rest inductionHypothesis =>
      rcases collected with ⟨collected, seenNodes⟩
      refine (readNode_sound listed).bind fun pullRequest _ => ?_
      refine (observeUniqueNode_sound _ _ _).bind fun observed found => ?_
      rcases observed with ⟨firstObservation, after⟩
      refine (parseGithubDate_sound _ _ _).bind fun updatedAt _ => ?_
      split
      · exact kept.toDistinct
      · split
        · rename_i accepted
          split
          · rfl
          · rename_i within
            rw [accepted.1] at found
            exact inductionHypothesis _ (kept.collect found (not_lt.1 within))
        · exact inductionHypothesis _ (kept.observed found)

theorem checkPullRequests_sound (response : RepositoryQueryResponse) :
    Sound (fun page => givenPageInfo response.pullRequests = some page.pageInfo)
      (checkPullRequests response) :=
  (assertConnection_sound response.pullRequests).bind fun _ known => known

theorem obeys_fetchPullRequests {past : History Github} {cursor : Option Text}
    (may : MayFetch cursors past .pullRequests cursor) :
    Program.Obeys (following cursors) (Fetched cursors past .pullRequests cursor) past
      (fetchPullRequests input cursor) :=
  obeys_fetchPage rfl checkPullRequests_sound may

theorem obeys_collectPullRequests {fuel : Nat} (enough : cursors.card + 1 ≤ fuel) :
    Program.Obeys (following cursors) (fun later ending => match ending with
      | .ok pullRequests => Adds (· = .pullRequests) [] later ∧ Distinct pullRequests
      | .error error => Explained later error) []
      (collectPullRequests parseDate input fuel) := by
  refine obeys_paginate
    (fun past collected => Adds (· = .pullRequests) [] past ∧ PullRequestsKept collected)
    (fun past cursor may => obeys_fetchPullRequests may)
    (fun past later cursor collected kept fetched => ?_)
    (fun past page collected kept => ?_)
    (fun past collected kept => ⟨kept.1, kept.2.toDistinct⟩)
    (fun past error explained => explained) ?_ (.first nofun) (fun _ => trivial)
    ⟨.refl _ _, ⟨List.nodup_nil, Nat.zero_le _⟩, nofun⟩
  · exact ⟨kept.1.trans ⟨_, fetched, fun fetch member => List.mem_singleton.1 member ▸ rfl⟩,
      kept.2⟩
  · refine (obeys_ofExcept (observePullRequests_sound page.nodes collected kept.2)).mono
      fun later ending _ observed => ?_
    rcases observed with ⟨rfl, observed⟩
    cases ending with
    | error error => exact .inl observed
    | ok visit =>
        cases visit with
        | leave result => exact ⟨kept.1, observed⟩
        | proceed after => exact ⟨⟨kept.1, observed⟩, .refl _ _⟩
  · rw [List.length_nil, Nat.zero_add]
    exact enough

end PullRequests

/-! ## A whole attempt -/

section Attempt

variable {parseDate : Text -> Option Instant} {input : CollectAttemptInput} {cursors : Finset Text}

theorem mergeOwnedNode_sound {connection : String} (owners : NodeMap) (entry : Text × Text)
    (nodes targetOwners : NodeMap) (count : CollectionState) :
    Sound (fun _ => True) (mergeOwnedNode connection owners entry nodes targetOwners count) := by
  unfold mergeOwnedNode
  split
  · rfl
  · split
    · rfl
    · split
      · split
        · rfl
        · trivial
      · exact (incrementNestedNodeCount_sound count).bind fun _ _ => trivial

theorem mergeOwnedNodes_sound {connection : String} (owners source : NodeMap)
    (target : NodeMap × NodeMap × CollectionState) :
    Sound (fun _ => True) (mergeOwnedNodes connection owners source target) := by
  induction source generalizing target with
  | nil => trivial
  | cons entry rest inductionHypothesis =>
      exact (mergeOwnedNode_sound owners entry _ _ _).bind fun merged _ => inductionHypothesis merged

theorem mergeCollectionState_sound (target source : CollectionState) :
    Sound (fun _ => True) (mergeCollectionState target source) :=
  (mergeOwnedNodes_sound _ _ _).bind fun _ _ =>
    (mergeOwnedNodes_sound _ _ _).bind fun _ _ => trivial

/-- The pull requests are collected one after another; `done` are those whose
loops may have run. -/
theorem obeys_collectEach {fuel : Nat} {past : History Github} (enough : cursors.card + 1 ≤ fuel)
    (pullRequests : List PullRequestNode) (state : CollectionState) (results : List PullRequestDto)
    (done : List Text)
    (ran : forall pullRequestId loop cursor, BelongsTo pullRequestId loop ->
      (loop, cursor) ∈ fetches past -> pullRequestId ∈ done)
    (nodup : (done ++ pullRequests.map PullRequestNode.id).Nodup)
    (limit : done.length + pullRequests.length ≤ CHANGED_PULL_REQUESTS) :
    Program.Obeys (following cursors) (fun later ending => match ending with
      | .ok _ => True
      | .error error => Explained later error) past
      (collectEach parseDate input fuel pullRequests state results) := by
  induction pullRequests generalizing past state results done with
  | nil => exact trivial
  | cons pullRequest rest inductionHypothesis =>
      rw [List.length_cons] at limit
      rw [List.map_cons, List.append_cons] at nodup
      have fresh : pullRequest.id ∉ done := fun member =>
        (List.nodup_append.1 (List.nodup_append.1 nodup).1).2.2 _ member _ List.mem_cons_self rfl
      refine (obeys_collectReviews enough
        (fun loop cursor among member => fresh (ran pullRequest.id loop cursor among member))
        ⟨done, by omega, fun pullRequestId cursor member =>
          ran pullRequestId _ cursor (.inl rfl) member⟩).bind
        (fun later collected _ adds => ?_) (fun later error _ explained => explained)
      have ranLater : forall pullRequestId loop cursor, BelongsTo pullRequestId loop ->
          (loop, cursor) ∈ fetches later -> pullRequestId ∈ done ++ [pullRequest.id] := by
        intro pullRequestId loop cursor among member
        rcases adds.mem member with before | now
        · exact List.mem_append_left _ (ran pullRequestId loop cursor among before)
        · refine List.mem_append_right _ (List.mem_singleton.2 ?_)
          rcases among with rfl | ⟨_, rfl⟩ <;> rcases now with same | ⟨_, same⟩ <;> cases same <;> rfl
      have fits : (done ++ [pullRequest.id]).length + rest.length ≤ CHANGED_PULL_REQUESTS := by
        rw [List.length_append, List.length_singleton]
        omega
      cases collected with
      | none => exact inductionHypothesis state results _ ranLater nodup fits
      | some provisional =>
          refine (obeys_ofExcept (mergeCollectionState_sound state provisional.2)).bind
            (fun final merged _ same => ?_) (fun final error _ failed => .inl failed.2)
          rcases same with ⟨rfl, _⟩
          exact inductionHypothesis merged _ _ ranLater nodup fits

theorem obeys_collectAttempt {fuel : Nat} (enough : cursors.card + 1 ≤ fuel) :
    Program.Obeys (following cursors) (fun later ending => match ending with
      | .ok _ => True
      | .error error => Explained later error) [] (collectAttempt parseDate input fuel) := by
  refine (obeys_collectPullRequests enough).bind (fun later pullRequests _ collected => ?_)
    (fun later error _ explained => explained)
  refine obeys_collectEach enough pullRequests .empty [] [] (fun pullRequestId loop cursor among
    member => ?_) collected.2.nodup (by rw [List.length_nil, Nat.zero_add]; exact collected.2.limit)
  rcases collected.1.mem member with before | now
  · cases before
  · rcases among with same | ⟨_, same⟩ <;> cases now.symm.trans same

end Attempt

/-! ## Whole runs -/

/-- The cursors that one loop has fetched. -/
def fetchedBy (loop : Loop) (past : History Github) : List (Option Text) :=
  (fetches past).filterMap fun fetch => if fetch.1 = loop then some fetch.2 else none

/-- The pull requests whose loops over reviews have begun; the first page has no
cursor. -/
def begunReviews (past : History Github) : List Text :=
  (fetches past).filterMap fun fetch => match fetch with
    | (.reviews pullRequestId, none) => some pullRequestId
    | _ => none

/-- The reviews of a pull request whose loops over comments have begun. -/
def begunComments (pullRequestId : Text) (past : History Github) : List Text :=
  (fetches past).filterMap fun fetch => match fetch with
    | (.comments owner reviewId, none) => if owner = pullRequestId then some reviewId else none
    | _ => none

theorem mem_fetchedBy {loop : Loop} {past : History Github} {cursor : Option Text} :
    cursor ∈ fetchedBy loop past ↔ (loop, cursor) ∈ fetches past := by
  unfold fetchedBy
  rw [List.mem_filterMap]
  constructor
  · rintro ⟨⟨other, fetched⟩, member, same⟩
    split at same
    · rename_i here
      cases same
      exact here ▸ member
    · cases same
  · exact fun member => ⟨_, member, if_pos rfl⟩

theorem mem_begunReviews {past : History Github} {pullRequestId : Text} :
    pullRequestId ∈ begunReviews past ↔ (.reviews pullRequestId, none) ∈ fetches past := by
  unfold begunReviews
  rw [List.mem_filterMap]
  constructor
  · rintro ⟨fetch, member, same⟩
    split at same
    · cases same
      exact member
    · cases same
  · exact fun member => ⟨_, member, rfl⟩

theorem mem_begunComments {past : History Github} {pullRequestId reviewId : Text} :
    reviewId ∈ begunComments pullRequestId past ↔
      (.comments pullRequestId reviewId, none) ∈ fetches past := by
  unfold begunComments
  rw [List.mem_filterMap]
  constructor
  · rintro ⟨fetch, member, same⟩
    split at same
    · split at same
      · rename_i here
        cases same
        exact here ▸ member
      · cases same
    · cases same
  · exact fun member => ⟨_, member, if_pos rfl⟩

section Nodup

variable {past : History Github} (nodup : (fetches past).Nodup)

include nodup

theorem nodup_fetchedBy (loop : Loop) : (fetchedBy loop past).Nodup := by
  refine nodup.filterMap fun first second cursor here there => ?_
  simp only [Option.mem_def, Option.ite_none_right_eq_some, Option.some.injEq] at here there
  exact Prod.ext (here.1.trans there.1.symm) (here.2.trans there.2.symm)

theorem nodup_begunReviews : (begunReviews past).Nodup := by
  refine nodup.filterMap fun first second pullRequestId here there => ?_
  rw [Option.mem_def] at here there
  split at here <;> cases here
  split at there <;> cases there
  rfl

theorem nodup_begunComments (pullRequestId : Text) : (begunComments pullRequestId past).Nodup := by
  refine nodup.filterMap fun first second reviewId here there => ?_
  rw [Option.mem_def] at here there
  split at here
  · split at there
    · simp only [Option.ite_none_right_eq_some, Option.some.injEq] at here there
      rw [here.1, here.2, there.1, there.2]
    · cases there
  · cases here

end Nodup

/-- What holds in every run: no loop fetches a cursor twice, cursors come from
the set, and the nested loops keep to the limits. -/
structure Bounded (cursors : Finset Text) (past : History Github) : Prop where
  nodup : (fetches past).Nodup
  drawn : forall loop next, (loop, some next) ∈ fetches past -> next ∈ cursors
  reviews : (begunReviews past).length ≤ CHANGED_PULL_REQUESTS
  comments : forall pullRequestId,
    (begunComments pullRequestId past).length ≤ REVIEW_AND_COMMENT_NODES

/-- A list without repetitions is not longer than one that contains it. -/
theorem length_le_of_known {begun known : List Text} (nodup : begun.Nodup)
    (among : forall id, id ∈ begun -> id ∈ known) : begun.length ≤ known.length :=
  (List.subperm_of_subset nodup among).length_le

theorem Bounded.fetch {cursors : Finset Text} {past : History Github} {loop : Loop}
    {cursor : Option Text} (bounded : Bounded cursors past)
    (may : MayFetch cursors past loop cursor) (outcome : Github.Outcome (.fetch loop cursor)) :
    Bounded cursors (past ++ [⟨.fetch loop cursor, outcome⟩]) := by
  have grown := fetches_fetch past loop cursor outcome
  have nodup : (fetches (past ++ [⟨.fetch loop cursor, outcome⟩])).Nodup := by
    rw [grown]
    exact List.nodup_append.2 ⟨bounded.nodup, List.nodup_singleton _, fun fetch member other single =>
      List.mem_singleton.1 single ▸ fun same => may.fresh (same ▸ member)⟩
  refine ⟨nodup, fun other next member => ?_, ?_, fun pullRequestId => ?_⟩
  · rw [grown] at member
    rcases List.mem_append.1 member with before | now
    · exact bounded.drawn other next before
    · exact may.drawn next (Prod.ext_iff.1 (List.mem_singleton.1 now)).2.symm
  · by_cases begins : Exists fun pullRequestId => loop = .reviews pullRequestId ∧ cursor = none
    · rcases begins with ⟨pullRequestId, rfl, rfl⟩
      rcases may.begins rfl with ⟨known, few, among⟩
      have before : (begunReviews past).length ≤ known.length :=
        length_le_of_known (nodup_begunReviews bounded.nodup)
          fun id member => among id none (mem_begunReviews.1 member)
      unfold begunReviews
      rw [grown, List.filterMap_append, List.length_append]
      exact Nat.succ_le_of_lt (before.trans_lt few)
    · have same : begunReviews (past ++ [⟨.fetch loop cursor, outcome⟩]) = begunReviews past := by
        unfold begunReviews
        rw [grown, List.filterMap_append]
        refine (congrArg _ (List.filterMap_eq_nil_iff.2 fun fetch member => ?_)).trans
          (List.append_nil _)
        rw [List.mem_singleton.1 member]
        split
        · rename_i found
          cases found
          exact absurd ⟨_, rfl, rfl⟩ begins
        · rfl
      rw [same]
      exact bounded.reviews
  · by_cases begins : Exists fun reviewId =>
      loop = .comments pullRequestId reviewId ∧ cursor = none
    · rcases begins with ⟨reviewId, rfl, rfl⟩
      rcases may.begins rfl with ⟨known, few, among⟩
      have before : (begunComments pullRequestId past).length ≤ known.length :=
        length_le_of_known (nodup_begunComments bounded.nodup pullRequestId)
          fun id member => among id none (mem_begunComments.1 member)
      unfold begunComments
      rw [grown, List.filterMap_append, List.length_append]
      refine (Nat.add_le_add_left (List.length_filterMap_le _ _) _).trans ?_
      exact Nat.succ_le_of_lt (before.trans_lt few)
    · have same : begunComments pullRequestId (past ++ [⟨.fetch loop cursor, outcome⟩]) =
          begunComments pullRequestId past := by
        unfold begunComments
        rw [grown, List.filterMap_append]
        refine (congrArg _ (List.filterMap_eq_nil_iff.2 fun fetch member => ?_)).trans
          (List.append_nil _)
        rw [List.mem_singleton.1 member]
        split
        · rename_i found
          cases found
          exact if_neg fun owner => begins ⟨_, congrArg (Loop.comments · _) owner, rfl⟩
        · rfl
      rw [same]
      exact bounded.comments pullRequestId

/-- The first page and as many more as there are cursors. -/
theorem Bounded.length_fetchedBy_le {cursors : Finset Text} {past : History Github}
    (bounded : Bounded cursors past) (loop : Loop) :
    (fetchedBy loop past).length ≤ cursors.card + 1 := by
  rw [← List.toFinset_card_of_nodup (nodup_fetchedBy bounded.nodup loop),
    ← Finset.card_insertNone]
  refine Finset.card_le_card fun cursor member => ?_
  have fetched := mem_fetchedBy.1 (List.mem_toFinset.1 member)
  exact Finset.mem_insertNone.2 fun next same => bounded.drawn loop next (same ▸ fetched)

/-! ## The claim -/

section Claim

variable {parseDate : Text -> Option Instant} {input : CollectAttemptInput} {cursors : Finset Text}

theorem bounded_of_run {fuel : Nat} {events : History Github}
    {rest : Collecting (List PullRequestDto)} (enough : cursors.card + 1 ≤ fuel)
    (run : Program.Run (collectAttempt parseDate input fuel) events rest)
    (answered : forall event, event ∈ events -> Answers cursors event.op event.outcome) :
    Bounded cursors events := by
  refine (obeys_collectAttempt enough).maintains run answered ?_ fun past event bounded may _ => ?_
  · exact ⟨List.nodup_nil, nofun, Nat.zero_le _, fun _ => Nat.zero_le _⟩
  · rcases event with ⟨op, outcome⟩
    cases op with
    | fetch loop cursor => exact bounded.fetch may outcome
    | onPage =>
        have same := fetches_onPage past outcome
        refine ⟨by rw [same]; exact bounded.nodup, fun loop next member => ?_, ?_, fun id => ?_⟩
        · exact bounded.drawn loop next (same ▸ member)
        · unfold begunReviews
          rw [same]
          exact bounded.reviews
        · unfold begunComments
          rw [same]
          exact bounded.comments id

/-- Whatever the server answers, an attempt ends without running out of fuel.
Every loop fetches each cursor at most once, and one page more than there are
cursors at most; the nested loops of an attempt and of a pull request keep to
the limits; and the error of an attempt that fails is one that the code throws
or the one that a request has failed with. -/
theorem collection_ends {fuel : Nat} {events : History Github}
    {rest : Collecting (List PullRequestDto)} (enough : cursors.card + 1 ≤ fuel)
    (run : Program.Run (collectAttempt parseDate input fuel) events rest)
    (answered : forall event, event ∈ events -> Answers cursors event.op event.outcome) :
    (fetches events).Nodup ∧
      (forall loop, (fetchedBy loop events).length ≤ cursors.card + 1) ∧
      (begunReviews events).length ≤ 100 ∧
      (forall pullRequestId, (begunComments pullRequestId events).length ≤ 2000) ∧
      (forall error, rest = .fail error -> error ≠ .outOfFuel ∧ Explained events error) := by
  have bounded := bounded_of_run enough run answered
  refine ⟨bounded.nodup, bounded.length_fetchedBy_le, bounded.reviews, bounded.comments,
    fun error failed => ?_⟩
  subst failed
  have explained : Explained events error := (obeys_collectAttempt enough).run run answered
  refine ⟨fun same => ?_, explained⟩
  rcases explained with rejection | ⟨op, member⟩
  · rw [same] at rejection
    cases rejection
  · have request : error = .request := answered _ member
    rw [same] at request
    cases request

end Claim

/-! ## A review of two pull requests -/

def someDate : Option Text := some (text "2026-09-12T00:00:00Z")

def sharedPullRequest (id : String) : Listed PullRequestNode :=
  .node ⟨text id, 1, [], [], [], none, someDate, text id⟩

def sharedComment : Listed ReviewCommentNode := .node ⟨text "comment", [], none, someDate, []⟩

/-- A server that lists one review under two pull requests, and two pages of
comments under the review.  The owner of the review is always the pull request
in whose loop it is read, which the server knows from the order of the
requests. -/
def sharedReview : (op : GithubOp) -> Github.Outcome op
  | .fetch .pullRequests _ => .ok (some (RepositoryQueryResponse.mk (some
      ⟨some [sharedPullRequest "first", sharedPullRequest "second"], .given ⟨none, false⟩⟩)))
  | .fetch (.reviews pullRequestId) _ => .ok (some (PullRequestReviewsQueryResponse.mk (some
      ⟨some pullRequestId, someDate, some ⟨some [.node ⟨text "review", [], [], none, []⟩],
        .given ⟨none, false⟩⟩⟩)))
  | .fetch (.comments pullRequestId reviewId) none =>
      .ok (some (ReviewCommentsQueryResponse.mk (some
        ⟨some reviewId, some ⟨some pullRequestId, someDate⟩,
          some ⟨some [sharedComment], .given ⟨some (text " more "), true⟩⟩⟩)))
  | .fetch (.comments pullRequestId reviewId) (some _) =>
      .ok (some (ReviewCommentsQueryResponse.mk (some
        ⟨some reviewId, some ⟨some pullRequestId, someDate⟩,
          some ⟨some [sharedComment], .given ⟨none, false⟩⟩⟩)))
  | .onPage => .ok ()

def sharedInput : CollectAttemptInput := ⟨none, 0, true⟩

def sharedRun : History Github × Github.Ending (List PullRequestDto) :=
  @Program.serve Github (List PullRequestDto) sharedReview
    (collectAttempt (fun _ => some 0) sharedInput 2)

theorem sharedRun_run : Program.Run (collectAttempt (fun _ => some 0) sharedInput 2) sharedRun.1
    (Program.ended sharedRun.2) :=
  @Program.run_serve Github (List PullRequestDto) sharedReview
    (collectAttempt (fun _ => some 0) sharedInput 2)

theorem sharedReview_answers (op : GithubOp) : Answers {text "more"} op (sharedReview op) := by
  cases op with
  | onPage => exact nofun
  | fetch loop cursor =>
      cases loop with
      | pullRequests =>
          intro pageInfo given endCursor same
          cases given
          cases same
      | reviews =>
          intro pageInfo given endCursor same
          cases given
          cases same
      | comments =>
          cases cursor with
          | none =>
              intro pageInfo given endCursor same
              cases given
              cases same
              exact Finset.mem_singleton.2 (by decide)
          | some =>
              intro pageInfo given endCursor same
              cases given
              cases same

theorem sharedRun_answers (event : Event Github) (member : event ∈ sharedRun.1) :
    Answers {text "more"} event.op event.outcome := by
  have same : event.outcome = sharedReview event.op := Program.outcome_of_mem_serve member
  rw [same]
  exact sharedReview_answers event.op

/-- One cursor besides the first page: seven fetches, and a review that is found
to have two owners when the second pull request is merged. -/
theorem collection_ends_shared :
    (fetches sharedRun.1).length = 7 ∧ (fetches sharedRun.1).Nodup ∧
      (fetchedBy (.comments (text "first") (text "review")) sharedRun.1).length ≤ 2 ∧
      sharedRun.2 =
        .error (.githubPagination "review" "a node appeared under multiple parents") := by
  have ends := collection_ends (by decide) sharedRun_run sharedRun_answers
  exact ⟨by decide +kernel, ends.1, ends.2.1 _, by decide +kernel⟩

/-- The requests of an attempt may repeat: the comments of a review are asked
for once for each of the pull requests that list it, page by page. -/
theorem shared_review_requested_twice :
    ¬ forall (events : History Github) (rest : Collecting (List PullRequestDto)),
      Program.Run (collectAttempt (fun _ => some 0) sharedInput 2) events rest ->
      (forall event, event ∈ events -> Answers {text "more"} event.op event.outcome) ->
        ((fetches events).map fun fetch => fetch.1.request fetch.2).Nodup := by
  intro claimed
  have once := claimed _ _ sharedRun_run sharedRun_answers
  have twice : ¬ ((fetches sharedRun.1).map fun fetch => fetch.1.request fetch.2).Nodup := by
    decide +kernel
  exact twice once

end GitMate.Collection
