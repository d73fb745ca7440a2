import GitMate.Library.Program
import GitMate.Library.Whitespace
import GitMate.Ledger.Errors

namespace GitMate.Collection

open Interleaving JavaScript

/-!
# Collecting a repository page by page

One attempt reads three kinds of connections from the GraphQL interface: the
pull requests of the repository, the reviews of each, and the comments of each
review.  Every connection is read in a loop that follows end cursors.  The
loops are programs that fetch one page at a time, so the server may answer
every fetch as it likes, in view of all that has happened before.

What a page holds is typed as the source declares it, as far as the source
does not check it; what it checks may be missing.  A node carries its own
serialization, since two observations of a node are compared as texts.  The
loops count down a fuel in place of `while (true)`, and one that runs out of it
raises a fault of its own, so that a claim about the end of a loop says that
this fault does not occur.

How the engine reads a text as a date is a parameter.  All fetches are performed
on behalf of one loop each, and the model notes with the operation which one
it is; the request itself names the review but not the pull request.
-/

/-! ## Responses -/

structure PageInfo where
  endCursor : Option Text
  hasNextPage : Bool
  deriving DecidableEq, Repr

/-- What stands in the place of `pageInfo`. -/
inductive PageInfoField where
  | missing
  | null
  | malformed
  | given (pageInfo : PageInfo)
  deriving DecidableEq, Repr

/-- An element of a list of nodes: `null`, a value whose `id` is not a string,
or a node. -/
inductive Listed (ν : Type) where
  | null
  | unidentified
  | node (node : ν)
  deriving DecidableEq, Repr

/-- A connection; `nodes` is absent if it is not an array. -/
structure Connection (ν : Type) where
  nodes : Option (List (Listed ν))
  pageInfo : PageInfoField
  deriving DecidableEq, Repr

/-- A date is absent if it is not a string. -/
structure PullRequestNode where
  id : Text
  number : Nat
  title : Text
  body : Text
  permalink : Text
  author : Option Text
  updatedAt : Option Text
  serialized : Text
  deriving DecidableEq, Repr

structure ReviewNode where
  id : Text
  body : Text
  state : Text
  author : Option Text
  serialized : Text
  deriving DecidableEq, Repr

structure ReviewCommentNode where
  id : Text
  body : Text
  author : Option Text
  createdAt : Option Text
  serialized : Text
  deriving DecidableEq, Repr

/-- `repository?.pullRequests`. -/
structure RepositoryQueryResponse where
  pullRequests : Option (Connection PullRequestNode)
  deriving DecidableEq, Repr

/-- The node that was asked for; its `id` is absent if it is not a string. -/
structure PullRequestReviews where
  id : Option Text
  updatedAt : Option Text
  reviews : Option (Connection ReviewNode)
  deriving DecidableEq, Repr

structure PullRequestReviewsQueryResponse where
  node : Option PullRequestReviews
  deriving DecidableEq, Repr

structure OwningPullRequest where
  id : Option Text
  updatedAt : Option Text
  deriving DecidableEq, Repr

structure ReviewComments where
  id : Option Text
  pullRequest : Option OwningPullRequest
  comments : Option (Connection ReviewCommentNode)
  deriving DecidableEq, Repr

structure ReviewCommentsQueryResponse where
  node : Option ReviewComments
  deriving DecidableEq, Repr

/-! ## Operations and errors -/

inductive CollectionError where
  | inputLimitExceeded (limitKind : CollectionLimitKind) (limit actual : Nat)
  | invalidGithubDate (field : String)
  | githubPagination (connection reason : String)
  | typeError
  | request
  | outOfFuel
  deriving DecidableEq, Repr

/-- A limit, a date or a pagination error, or the `TypeError` that a `null` in
the place of an object raises. -/
def CollectionError.isRejection : CollectionError -> Bool
  | .inputLimitExceeded .. | .invalidGithubDate _ | .githubPagination .. | .typeError => true
  | .request | .outOfFuel => false

/-- The loop that a fetch belongs to. -/
inductive Loop where
  | pullRequests
  | reviews (pullRequestId : Text)
  | comments (pullRequestId reviewId : Text)
  deriving DecidableEq, Repr

/-- What is sent: the node and the cursor. -/
inductive GithubRequest where
  | pullRequests (cursor : Option Text)
  | reviews (pullRequestId : Text) (cursor : Option Text)
  | comments (reviewId : Text) (cursor : Option Text)
  deriving DecidableEq, Repr

def Loop.request : Loop -> Option Text -> GithubRequest
  | .pullRequests => .pullRequests
  | .reviews pullRequestId => .reviews pullRequestId
  | .comments _ reviewId => .comments reviewId

inductive GithubOp where
  | fetch (loop : Loop) (cursor : Option Text)
  | onPage
  deriving DecidableEq, Repr

/-- A response may be `null`. -/
def GithubOp.Reply : GithubOp -> Type
  | .fetch .pullRequests _ => Option RepositoryQueryResponse
  | .fetch (.reviews _) _ => Option PullRequestReviewsQueryResponse
  | .fetch (.comments ..) _ => Option ReviewCommentsQueryResponse
  | .onPage => Unit

abbrev Github : Interface := ⟨GithubOp, GithubOp.Reply, CollectionError⟩

abbrev Collecting : Type -> Type := Program Github

def Collecting.ofExcept {α : Type} : Except CollectionError α -> Collecting α
  | .ok value => .done value
  | .error error => .fail error

/-! ## Results -/

structure ReviewCommentDto where
  author : Text
  body : Text
  createdAt : Text
  deriving DecidableEq, Repr

structure ReviewDto where
  author : Text
  body : Text
  state : Text
  comments : List ReviewCommentDto
  deriving DecidableEq, Repr

structure PullRequestDto where
  number : Nat
  title : Text
  body : Text
  author : Text
  updatedAt : Text
  permalink : Text
  reviews : List ReviewDto
  deriving DecidableEq, Repr

def DELETED_GITHUB_AUTHOR : Text := text "[deleted]"

/-- `author?.login || DELETED_GITHUB_AUTHOR`. -/
def authorLogin (author : Option Text) : Text :=
  match author with
  | none | some [] => DELETED_GITHUB_AUTHOR
  | some login => login

/-! ## Checks -/

section Checks

variable {ν : Type} (connection : String)

def assertConnection (found : Option (Connection ν)) :
    Except CollectionError (List (Listed ν) × PageInfo) :=
  match found with
  | some ⟨some nodes, .given pageInfo⟩ => .ok (nodes, pageInfo)
  | some ⟨some _, .null⟩ => .error .typeError
  | _ => .error (.githubPagination connection "malformed pageInfo")

def assertParentId (actual : Option Text) (expected : Text) : Except CollectionError Unit :=
  match actual with
  | none => .error (.githubPagination connection "parent node ID is missing")
  | some actual =>
      if trim actual = [] then .error (.githubPagination connection "parent node ID is missing")
      else if actual ≠ expected then
        .error (.githubPagination connection "parent node does not match")
      else .ok ()

def nextCursor (pageInfo : PageInfo) (currentCursor : Option Text) (nodeCount : Nat)
    (visitedCursors : List Text) : Except CollectionError Text :=
  let next := (pageInfo.endCursor.map trim).getD []
  if next = [] then .error (.githubPagination connection "next cursor is empty")
  else if nodeCount = 0 then
    .error (.githubPagination connection "an empty page claims to have a next page")
  else if some next = currentCursor ∨ next ∈ visitedCursors then
    .error (.githubPagination connection "cursor was repeated")
  else .ok next

end Checks

/-- The first characters of `GITHUB_DATE_PATTERN`, before the fraction. -/
def GITHUB_DATE_START : Pattern :=
  List.replicate 4 isDigit ++ [(· == 0x2D)] ++ List.replicate 2 isDigit ++ [(· == 0x2D)] ++
    List.replicate 2 isDigit ++ [(· == 0x54)] ++ List.replicate 2 isDigit ++ [(· == 0x3A)] ++
      List.replicate 2 isDigit ++ [(· == 0x3A)] ++ List.replicate 2 isDigit

/-- `Z` or an offset. -/
def isTimeZone (zone : Text) : Bool :=
  zone == [0x5A] ||
    Pattern.test ((fun code => code == 0x2B || code == 0x2D) ::
      (List.replicate 2 isDigit ++ (· == 0x3A) :: List.replicate 2 isDigit)) zone

/-- `GITHUB_DATE_PATTERN.test(value)`. -/
def isGithubDate (value : Text) : Bool :=
  GITHUB_DATE_START.test (value.take 19) &&
    match value.drop 19 with
    | 0x2E :: rest =>
        let fraction := rest.span isDigit
        fraction.1 != [] && isTimeZone fraction.2
    | zone => isTimeZone zone

/-- `parseDate` is the time value of `new Date(value)`. -/
def parseGithubDate (parseDate : Text -> Option Instant) (value : Option Text) (field : String) :
    Except CollectionError Instant :=
  match value with
  | none => .error (.invalidGithubDate field)
  | some value =>
      if isGithubDate value = false then .error (.invalidGithubDate field)
      else
        match parseDate value with
        | some time => .ok time
        | none => .error (.invalidGithubDate field)

/-! ## Observed nodes -/

/-- A `Map` with string values. -/
abbrev NodeMap : Type := List (Text × Text)

def NodeMap.set (entries : NodeMap) (key value : Text) : NodeMap :=
  if (entries.lookup key).isSome then
    entries.map fun entry => if entry.1 = key then (key, value) else entry
  else entries ++ [(key, value)]

/-- Whether the node is seen for the first time, and the nodes seen since. -/
def observeUniqueNode (id serialized : Text) (seenNodes : NodeMap) (connection : String) :
    Except CollectionError (Bool × NodeMap) :=
  if trim id = [] then .error (.githubPagination connection "node ID is missing")
  else
    match seenNodes.lookup id with
    | none => .ok (true, seenNodes.set id serialized)
    | some previous =>
        if previous ≠ serialized then
          .error (.githubPagination connection "a repeated node contains conflicting data")
        else .ok (false, seenNodes)

/-- The same for a node with an owner; the owners are returned last. -/
def observeOwnedUniqueNode (id serialized ownerId : Text) (seenNodes owners : NodeMap)
    (connection : String) : Except CollectionError (Bool × NodeMap × NodeMap) :=
  if (owners.lookup id).any (· ≠ ownerId) then
    .error (.githubPagination connection "a node appeared under multiple parents")
  else do
    let (firstObservation, seenNodes) <- observeUniqueNode id serialized seenNodes connection
    pure (firstObservation, seenNodes,
      if firstObservation then owners.set id ownerId else owners)

/-- A `null` has no `id` to look at. -/
def readNode {ν : Type} (listed : Listed ν) (connection : String) : Except CollectionError ν :=
  match listed with
  | .null => .error .typeError
  | .unidentified => .error (.githubPagination connection "node ID is missing")
  | .node node => .ok node

structure CollectionState where
  reviewNodes : NodeMap
  reviewOwners : NodeMap
  commentNodes : NodeMap
  commentOwners : NodeMap
  reviewAndCommentCount : Nat
  deriving DecidableEq, Repr

def CollectionState.empty : CollectionState := ⟨[], [], [], [], 0⟩

def CHANGED_PULL_REQUESTS : Nat := 100
def REVIEW_AND_COMMENT_NODES : Nat := 2000

def incrementNestedNodeCount (state : CollectionState) : Except CollectionError CollectionState :=
  let count := state.reviewAndCommentCount + 1
  if REVIEW_AND_COMMENT_NODES < count then
    .error (.inputLimitExceeded .reviewAndCommentNodes REVIEW_AND_COMMENT_NODES count)
  else .ok { state with reviewAndCommentCount := count }

/-! ## Following a connection -/

/-- A page whose checks have passed.  `updatedAt` is the time of the pull
request that a nested page belongs to. -/
structure Page (ν : Type) where
  nodes : List (Listed ν)
  pageInfo : PageInfo
  updatedAt : Option Instant

/-- What the nodes of a page lead to: the loop returns, or it looks for a next
page. -/
inductive Visit (σ α : Type) where
  | leave (result : α)
  | proceed (state : σ)

/-- The frame of the three loops: fetch and check a page, visit its nodes, and
follow the cursor while there is a next page. -/
def paginate {ν σ α : Type} (connection : String) (fetchPage : Option Text -> Collecting (Page ν))
    (visit : Page ν -> σ -> Collecting (Visit σ α)) (finish : σ -> α) :
    Nat -> Option Text -> List Text -> σ -> Collecting α
  | 0, _, _, _ => .fail .outOfFuel
  | fuel + 1, cursor, visitedCursors, state => do
      let page <- fetchPage cursor
      let visited <- visit page state
      match visited with
      | .leave result => pure result
      | .proceed state =>
          if page.pageInfo.hasNextPage = false then pure (finish state)
          else do
            let next <- Collecting.ofExcept
              (nextCursor connection page.pageInfo cursor page.nodes.length visitedCursors)
            paginate connection fetchPage visit finish fuel (some next) (visitedCursors ++ [next])
              state

/-- What an attempt reads of its input; `onPage` says that there is a
callback. -/
structure CollectAttemptInput where
  sourceCursor : Option Instant
  collectionCutoff : Instant
  onPage : Bool
  deriving DecidableEq, Repr

def Collecting.onPage : Collecting Unit := Program.perform (I := Github) .onPage

/-- `await input.onPage?.()`. -/
def notifyPage (input : CollectAttemptInput) : Collecting Unit :=
  if input.onPage then Collecting.onPage else pure ()

/-- A page that was fetched and checked, once the callback has been told. -/
def checkedPage {ν ρ : Type} (input : CollectAttemptInput)
    (check : ρ -> Except CollectionError (Page ν)) (response : Option ρ) : Collecting (Page ν) := do
  let response <- Collecting.ofExcept (match response with
    | some response => .ok response
    | none => .error .typeError)
  let page <- Collecting.ofExcept (check response)
  notifyPage input
  pure page

variable (parseDate : Text -> Option Instant) (input : CollectAttemptInput)

/-! ## Comments of a review -/

def checkReviewComments (pullRequestId reviewId : Text) (response : ReviewCommentsQueryResponse) :
    Except CollectionError (Page ReviewCommentNode) := do
  match response.node with
  | none => .error (.githubPagination "review comment" "parent node is missing")
  | some node =>
      assertParentId "review comment" node.id reviewId
      match node.pullRequest with
      | none => .error (.githubPagination "review comment" "owning pull request is missing")
      | some pullRequest =>
          assertParentId "review comment" pullRequest.id pullRequestId
          let updatedAt <- parseGithubDate parseDate pullRequest.updatedAt "pull request updatedAt"
          let (nodes, pageInfo) <- assertConnection "review comment" node.comments
          pure ⟨nodes, pageInfo, some updatedAt⟩

def fetchReviewComments (pullRequestId reviewId : Text) (cursor : Option Text) :
    Collecting (Page ReviewCommentNode) := do
  let response : Option ReviewCommentsQueryResponse <-
    Program.perform (I := Github) (.fetch (.comments pullRequestId reviewId) cursor)
  checkedPage input (checkReviewComments parseDate pullRequestId reviewId) response

/-- The comments of a page, each of them once. -/
def observeComments (reviewId : Text) :
    List (Listed ReviewCommentNode) -> List ReviewCommentDto × CollectionState ->
      Except CollectionError (List ReviewCommentDto × CollectionState)
  | [], collected => .ok collected
  | listed :: rest, (comments, state) => do
      let comment <- readNode listed "review comment"
      let (firstObservation, commentNodes, commentOwners) <- observeOwnedUniqueNode comment.id
        comment.serialized reviewId state.commentNodes state.commentOwners "review comment"
      if firstObservation = false then observeComments reviewId rest (comments, state)
      else do
        let state <- incrementNestedNodeCount
          { state with commentNodes := commentNodes, commentOwners := commentOwners }
        let _ <- parseGithubDate parseDate comment.createdAt "review comment createdAt"
        observeComments reviewId rest
          (comments ++ [⟨authorLogin comment.author, comment.body, comment.createdAt.getD []⟩], state)

/-- A pull request that was updated after the cutoff is given up. -/
def isOutdated {ν : Type} (page : Page ν) : Bool :=
  page.updatedAt.any (input.collectionCutoff < ·)

def visitComments (reviewId : Text) (page : Page ReviewCommentNode)
    (collected : List ReviewCommentDto × CollectionState) :
    Collecting (Visit (List ReviewCommentDto × CollectionState)
      (Option (List ReviewCommentDto × CollectionState))) :=
  if isOutdated input page then pure (.leave none)
  else do
    let collected <- Collecting.ofExcept (observeComments parseDate reviewId page.nodes collected)
    pure (.proceed collected)

def collectComments (fuel : Nat) (pullRequestId reviewId : Text) (state : CollectionState) :
    Collecting (Option (List ReviewCommentDto × CollectionState)) :=
  paginate "review comment" (fetchReviewComments parseDate input pullRequestId reviewId)
    (visitComments parseDate input reviewId) some fuel none [] ([], state)

/-! ## Reviews of a pull request -/

def checkReviews (pullRequestId : Text) (response : PullRequestReviewsQueryResponse) :
    Except CollectionError (Page ReviewNode) := do
  match response.node with
  | none => .error (.githubPagination "review" "parent node is missing")
  | some node =>
      assertParentId "review" node.id pullRequestId
      let updatedAt <- parseGithubDate parseDate node.updatedAt "pull request updatedAt"
      let (nodes, pageInfo) <- assertConnection "review" node.reviews
      pure ⟨nodes, pageInfo, some updatedAt⟩

def fetchPullRequestReviews (pullRequestId : Text) (cursor : Option Text) :
    Collecting (Page ReviewNode) := do
  let response : Option PullRequestReviewsQueryResponse <-
    Program.perform (I := Github) (.fetch (.reviews pullRequestId) cursor)
  checkedPage input (checkReviews parseDate pullRequestId) response

/-- The reviews of a page; each new one has its comments collected. -/
def observeReviews (fuel : Nat) (pullRequestId : Text) :
    List (Listed ReviewNode) -> List ReviewDto × CollectionState ->
      Collecting (Visit (List ReviewDto × CollectionState)
        (Option (List ReviewDto × CollectionState)))
  | [], collected => pure (.proceed collected)
  | listed :: rest, (reviews, state) => do
      let review <- Collecting.ofExcept (readNode listed "review")
      let (firstObservation, reviewNodes, reviewOwners) <- Collecting.ofExcept
        (observeOwnedUniqueNode review.id review.serialized pullRequestId state.reviewNodes
          state.reviewOwners "review")
      if firstObservation = false then observeReviews fuel pullRequestId rest (reviews, state)
      else do
        let state <- Collecting.ofExcept (incrementNestedNodeCount
          { state with reviewNodes := reviewNodes, reviewOwners := reviewOwners })
        let collected <- collectComments parseDate input fuel pullRequestId review.id state
        match collected with
        | none => pure (.leave none)
        | some (comments, state) =>
            observeReviews fuel pullRequestId rest
              (reviews ++ [⟨authorLogin review.author, review.body, review.state, comments⟩], state)

def visitReviews (fuel : Nat) (pullRequestId : Text) (page : Page ReviewNode)
    (collected : List ReviewDto × CollectionState) :
    Collecting (Visit (List ReviewDto × CollectionState)
      (Option (List ReviewDto × CollectionState))) :=
  if isOutdated input page then pure (.leave none)
  else observeReviews parseDate input fuel pullRequestId page.nodes collected

def collectReviews (fuel : Nat) (pullRequestId : Text) (state : CollectionState) :
    Collecting (Option (List ReviewDto × CollectionState)) :=
  paginate "review" (fetchPullRequestReviews parseDate input pullRequestId)
    (visitReviews parseDate input fuel pullRequestId) some fuel none [] ([], state)

/-! ## Pull requests of the repository -/

def checkPullRequests (response : RepositoryQueryResponse) :
    Except CollectionError (Page PullRequestNode) := do
  let (nodes, pageInfo) <- assertConnection "pull request" response.pullRequests
  pure ⟨nodes, pageInfo, none⟩

def fetchPullRequests (cursor : Option Text) : Collecting (Page PullRequestNode) := do
  let response : Option RepositoryQueryResponse <-
    Program.perform (I := Github) (.fetch .pullRequests cursor)
  checkedPage input checkPullRequests response

/-- The pull requests of a page that belong to the window; a node at or before
the source cursor ends the search. -/
def observePullRequests :
    List (Listed PullRequestNode) -> List PullRequestNode × NodeMap ->
      Except CollectionError (Visit (List PullRequestNode × NodeMap) (List PullRequestNode))
  | [], collected => .ok (.proceed collected)
  | listed :: rest, (collected, seenNodes) => do
      let pullRequest <- readNode listed "pull request"
      let (firstObservation, seenNodes) <- observeUniqueNode pullRequest.id pullRequest.serialized
        seenNodes "pull request"
      let updatedAt <- parseGithubDate parseDate pullRequest.updatedAt "pull request updatedAt"
      if input.sourceCursor.any (updatedAt ≤ ·) then .ok (.leave collected)
      else if firstObservation = true ∧ updatedAt ≤ input.collectionCutoff then
        if CHANGED_PULL_REQUESTS < collected.length + 1 then
          .error (.inputLimitExceeded .changedPullRequests CHANGED_PULL_REQUESTS
            (collected.length + 1))
        else observePullRequests rest (collected ++ [pullRequest], seenNodes)
      else observePullRequests rest (collected, seenNodes)

def visitPullRequests (page : Page PullRequestNode) (collected : List PullRequestNode × NodeMap) :
    Collecting (Visit (List PullRequestNode × NodeMap) (List PullRequestNode)) :=
  Collecting.ofExcept (observePullRequests parseDate input page.nodes collected)

def collectPullRequests (fuel : Nat) : Collecting (List PullRequestNode) :=
  paginate "pull request" (fetchPullRequests input) (visitPullRequests parseDate input) Prod.fst
    fuel none [] ([], [])

/-! ## One attempt -/

/-- One node of a pull request, brought into the state of the attempt. -/
def mergeOwnedNode (connection : String) (sourceOwners : NodeMap) (entry : Text × Text)
    (targetNodes targetOwners : NodeMap) (count : CollectionState) :
    Except CollectionError (NodeMap × NodeMap × CollectionState) :=
  match sourceOwners.lookup entry.1 with
  | none => .error (.githubPagination connection "node owner is missing")
  | some ownerId =>
      if (targetOwners.lookup entry.1).any (· ≠ ownerId) then
        .error (.githubPagination connection "a node appeared under multiple parents")
      else
        match targetNodes.lookup entry.1 with
        | some previous =>
            if previous ≠ entry.2 then
              .error (.githubPagination connection "a repeated node contains conflicting data")
            else .ok (targetNodes, targetOwners, count)
        | none => do
            let count <- incrementNestedNodeCount count
            pure (targetNodes.set entry.1 entry.2, targetOwners.set entry.1 ownerId, count)

/-- `count` is the state whose node count is incremented; the maps that are
being merged are passed along with it. -/
def mergeOwnedNodes (connection : String) (sourceOwners : NodeMap) :
    NodeMap -> NodeMap × NodeMap × CollectionState ->
      Except CollectionError (NodeMap × NodeMap × CollectionState)
  | [], target => .ok target
  | entry :: rest, (targetNodes, targetOwners, count) => do
      let target <- mergeOwnedNode connection sourceOwners entry targetNodes targetOwners count
      mergeOwnedNodes connection sourceOwners rest target

def mergeCollectionState (target source : CollectionState) :
    Except CollectionError CollectionState := do
  let (reviewNodes, reviewOwners, target) <- mergeOwnedNodes "review" source.reviewOwners
    source.reviewNodes (target.reviewNodes, target.reviewOwners, target)
  let target := { target with reviewNodes := reviewNodes, reviewOwners := reviewOwners }
  let (commentNodes, commentOwners, target) <- mergeOwnedNodes "review comment"
    source.commentOwners source.commentNodes (target.commentNodes, target.commentOwners, target)
  pure { target with commentNodes := commentNodes, commentOwners := commentOwners }

def collectEach (fuel : Nat) :
    List PullRequestNode -> CollectionState -> List PullRequestDto -> Collecting (List PullRequestDto)
  | [], _, pullRequests => pure pullRequests
  | pullRequest :: rest, state, pullRequests => do
      let collected <- collectReviews parseDate input fuel pullRequest.id .empty
      match collected with
      | none => collectEach fuel rest state pullRequests
      | some (reviews, provisionalState) => do
          let state <- Collecting.ofExcept (mergeCollectionState state provisionalState)
          collectEach fuel rest state (pullRequests ++ [
            { number := pullRequest.number
              title := pullRequest.title
              body := pullRequest.body
              author := authorLogin pullRequest.author
              updatedAt := pullRequest.updatedAt.getD []
              permalink := pullRequest.permalink
              reviews := reviews }])

def collectAttempt (fuel : Nat) : Collecting (List PullRequestDto) := do
  let pullRequestNodes <- collectPullRequests parseDate input fuel
  collectEach parseDate input fuel pullRequestNodes .empty []

end GitMate.Collection
