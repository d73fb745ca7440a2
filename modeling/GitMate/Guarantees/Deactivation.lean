import GitMate.Auth.Discipline

namespace GitMate.Auth

open JavaScript Relational Interleaving Machine

/-!
# What a deactivation ends

A deactivated account stays deactivated, and every check that starts
afterwards sees it.  A refresh token can still be stored afterwards by a
request that has passed its last check before; if no such request is left, the
hash stays empty.
-/

section Steps

variable {state after : AuthState} {label : AuthLabel}

/-- What a step does to the users: nothing, or what the operation of the
acting process does. -/
theorem step_users (stepped : state.step label = some after) :
    AuthState.users after = AuthState.users state ∨
      Exists fun index => Exists fun choice => Exists fun op =>
        label = .act index choice ∧ state.pending index = some op ∧
          Evolves op (AuthState.users state) (AuthState.users after) := by
  cases label with
  | spawn entry =>
      cases State.step_spawn stepped
      exact Or.inl rfl
  | act index choice =>
      rcases State.step_act stepped with ⟨op, resume, past, outcome, world, here, executed, rfl⟩
      refine Or.inr ⟨index, choice, op, rfl, ?_, World.exec_evolves executed⟩
      rw [State.pending, here]
  | crash index =>
      rcases State.step_crash stepped with ⟨stopped, here, rfl⟩
      exact Or.inl rfl
  | internal event =>
      rcases State.step_internal stepped with ⟨world, moved, rfl⟩
      cases moved
      exact Or.inl rfl

/-- A user is never removed, and keeps its GitHub id and its deactivation. -/
theorem step_keeps (stepped : state.step label = some after) {id : UserId} {user : User}
    (found : (AuthState.users state).find? id = some user) :
    Exists fun changed => (AuthState.users after).find? id = some changed ∧
      changed.githubId = user.githubId ∧
      (user.status = .DEACTIVATED -> changed.status = .DEACTIVATED) := by
  rcases step_users stepped with same | ⟨index, choice, op, _, _, evolves⟩
  · rw [same]
    exact ⟨user, found, rfl, fun status => status⟩
  · rcases evolves.keeps found with ⟨changed, there, change⟩
    exact ⟨changed, there, change.githubId, change.deactivated_stays⟩

end Steps

/-- The account with the id is deactivated. -/
def Deactivated (users : Users) (id : UserId) : Prop :=
  Exists fun user => users.find? id = some user ∧ user.status = .DEACTIVATED

/-- The account with the id has the GitHub id. -/
def Owns (users : Users) (githubId : String) (id : UserId) : Prop :=
  Exists fun user => users.find? id = some user ∧ user.githubId = githubId

section Runs

variable {first last : AuthState} {steps : List (Transition sessions)} {id : UserId}

theorem deactivated_lasts (run : Execution first steps last)
    (deactivated : Deactivated (AuthState.users first) id) :
    Deactivated (AuthState.users last) id := by
  refine run.always (fun state => Deactivated (AuthState.users state) id) deactivated
    fun earlier state label after _ held stepped => ?_
  rcases held with ⟨user, found, status⟩
  rcases step_keeps stepped found with ⟨changed, there, _, stays⟩
  exact ⟨changed, there, stays status⟩

theorem owns_lasts {githubId : String} (run : Execution first steps last)
    (owns : Owns (AuthState.users first) githubId id) : Owns (AuthState.users last) githubId id := by
  refine run.always (fun state => Owns (AuthState.users state) githubId id) owns
    fun earlier state label after _ held stepped => ?_
  rcases held with ⟨user, found, named⟩
  rcases step_keeps stepped found with ⟨changed, there, same, _⟩
  exact ⟨changed, there, same.trans named⟩

/-- Two moments of a run agree on the GitHub id of an account. -/
theorem Owns.unique {users : Users} {one other : String} (left : Owns users one id)
    (right : Owns users other id) : one = other := by
  rcases left with ⟨user, found, rfl⟩
  rcases right with ⟨same, there, rfl⟩
  cases found.symm.trans there
  rfl

/-- An account is found by the GitHub id it has. -/
theorem Owns.findByGithubId {users : Users} {githubId : String} (owns : Owns users githubId id) :
    Exists fun user => users.findByGithubId githubId = some user ∧ users.find? id = some user := by
  rcases owns with ⟨user, found, named⟩
  exact ⟨user, Users.findByGithubId_eq_some.mpr ⟨Table.mem_of_find? found, named⟩, found⟩

/-- What cannot be replied once the account is deactivated was replied
before. -/
theorem replied_before {event : Event Services} {index : Nat} (run : Execution first steps last)
    (deactivated : Deactivated (AuthState.users first) id)
    (happened : event ∈ last.historyAt index)
    (impossible : forall (world : World) choice replied, Deactivated world.users id ->
      world.exec event.op choice = some replied -> event.outcome ≠ replied.1) :
    event ∈ first.historyAt index := by
  rcases run.event_since happened with before | ⟨step, member, choice, resume, _, _, executed⟩
  · exact before
  · rcases List.append_of_mem member with ⟨earlier, rest, rfl⟩
    have still := deactivated_lasts run.around.1 deactivated
    exact absurd rfl (impossible _ choice _ still executed)

/-- A query by id shows that the account is deactivated. -/
theorem read_deactivated {world : World} {choice : Choice} {user : User}
    (deactivated : Deactivated world.users id) (active : user.status ≠ .DEACTIVATED) :
    .ok (some user) ≠ choice.read fun _ => world.users.find? id := by
  intro replied
  rcases Resolution.read_ok replied.symm with ⟨_, found⟩
  rcases deactivated with ⟨stored, there, status⟩
  cases found.trans there
  exact active status

/-- The last check before a refresh token of the account is stored has been
passed, or will be. -/
def Admitted (entry : Entry) (users : Users) (past : History Services) (id : UserId) : Prop :=
  match entry with
  | .refresh bearer =>
      Exists fun user => Exists fun hash =>
        (⟨.findUser id, .ok (some user)⟩ : Event Services) ∈ past ∧ user.status ≠ .DEACTIVATED ∧
          user.hashedRefreshToken = some hash ∧ hash.compare bearer.toBytes = true
  | .githubCallback details _ =>
      Reauthorized past details.githubId id ∨
      Exists fun found => Owns users details.githubId id ∧
        (⟨.findUserByGithubId details.githubId, .ok found⟩ : Event Services) ∈ past ∧
          checkExistingUser found = .ok ()
  | .deactivate _ | .guarded _ => False

/-- Every request that is admitted is over, or it has already come to store a
refresh token. -/
def Settled (steps : List (Transition sessions)) (state : AuthState) (id : UserId) : Prop :=
  forall index entry, Spawned steps index entry ->
    Admitted entry (AuthState.users state) (state.historyAt index) id ->
      state.pending index = none ∨ Not (Unstored (state.historyAt index))

/-- What admits a request after the deactivation has happened before it. -/
theorem admitted_before {entry : Entry} {index : Nat} {githubId : String}
    (run : Execution first steps last) (deactivated : Deactivated (AuthState.users first) id)
    (owns : Owns (AuthState.users first) githubId id)
    (written : forall githubId, Validated (last.historyAt index) githubId id ->
      Owns (AuthState.users last) githubId id)
    (compared : forall presented hash,
      (⟨.compare presented hash, .ok true⟩ : Event Services) ∈ last.historyAt index ->
        hash.compare presented.toBytes = true)
    (admits : Admits entry (last.historyAt index) id) :
    Admitted entry (AuthState.users first) (first.historyAt index) id := by
  cases entry with
  | refresh bearer =>
      rcases admits with ⟨_, user, hash, found, active, hashed, matched⟩
      refine ⟨user, hash, replied_before run deactivated found ?_, active, hashed,
        compared bearer hash matched⟩
      intro world choice replied still executed
      cases executed
      exact read_deactivated still active
  | githubCallback details state =>
      rcases admits with ⟨user, found, active, named⟩ | validated
      · refine Or.inl ⟨user, replied_before run deactivated found ?_, active, named⟩
        intro world choice replied still executed
        cases executed
        exact read_deactivated still active
      · have same : githubId = details.githubId :=
          Owns.unique (owns_lasts run owns) (written _ validated)
        subst same
        rcases validated with ⟨found, given, githubToken, user, asked, checked, _⟩
        refine Or.inr ⟨found, owns, ?_, checked⟩
        rcases run.event_since asked with before | ⟨step, member, choice, resume, _, _, executed⟩
        · exact before
        · rcases List.append_of_mem member with ⟨earlier, rest, rfl⟩
          have leading := run.around.1
          rcases deactivated_lasts leading deactivated with ⟨row, there, status⟩
          rcases (owns_lasts leading owns).findByGithubId with ⟨other, byName, byId⟩
          cases there.symm.trans byId
          rcases Resolution.read_ok (Prod.mk.inj (Option.some.inj executed)).1 with ⟨_, replied⟩
          cases replied.trans byName
          rw [checkExistingUser, if_pos status] at checked
          cases checked
  | deactivate | guarded => exact admits.elim

/-- The user of an upsert has the GitHub id afterwards. -/
theorem upsertGithubUser_owns {users later : Users} {details : GithubOAuthDetails}
    {githubToken : String} {generated : UserId} {saved : User}
    (upserted : users.upsertGithubUser details githubToken generated = some (saved, later)) :
    Owns later details.githubId saved.id := by
  rcases Users.upsertGithubUser_spec upserted with ⟨user, found, rfl, updated⟩ | ⟨named, _, _, new⟩
  · rcases Users.findByGithubId_eq_some.mp found with ⟨member, named⟩
    have there : users.find? user.id = some user := Table.find?_eq_some_iff.mpr ⟨member, rfl⟩
    refine ⟨user.authorize details githubToken, ?_, named⟩
    change later.find? user.id = _
    rw [updated, there, Option.map_some, if_pos (beq_iff_eq.mpr named)]
  · refine ⟨saved, ?_, named⟩
    rw [new, if_pos rfl]

/-- Whoever was validated has written an account with that GitHub id. -/
theorem validated_owns (initially : first.processes = []) (run : Execution first steps last)
    {index : Nat} {githubId : String} (validated : Validated (last.historyAt index) githubId id) :
    Owns (AuthState.users last) githubId id := by
  rcases validated with ⟨_, details, githubToken, user, _, _, rfl, rfl, written⟩
  rcases run.step_of_event initially written with
    ⟨step, member, choice, resume, _, _, executed⟩
  rcases World.write_spec (Option.some.inj executed) with
    ⟨_, supply, reply, took, replied⟩ | ⟨_, _, failed⟩
  · rcases List.append_of_mem member with ⟨earlier, rest, rfl⟩
    rw [replied user rfl]
    exact owns_lasts run.around.2.2 (upsertGithubUser_owns took)
  · exact absurd rfl (failed user)

/-- A comparison that was answered with success is one. -/
theorem compared_true (initially : first.processes = []) (run : Execution first steps last)
    {index : Nat} {presented : Bearer} {hash : BcryptHash}
    (compared : (⟨.compare presented hash, .ok true⟩ : Event Services) ∈ last.historyAt index) :
    hash.compare presented.toBytes = true := by
  rcases run.step_of_event initially compared with ⟨step, _, choice, _, _, _, executed⟩
  have credible := @World.exec_credible (.compare presented hash) choice step.before.world
    step.after.world (.ok true) executed
  exact (credible true rfl).symm

/-- The user that a step deactivates. -/
def deactivatedUser (step : Transition sessions) : Option UserId :=
  match step.label with
  | .act index choice =>
      match step.before.pending index with
      | some (.deactivate id) =>
          if World.commits (.deactivate id) choice step.before.world then some id else none
      | _ => none
  | .spawn _ | .crash _ | .internal _ => none

theorem deactivatedUser_spec {state after : AuthState} {label : AuthLabel}
    (stepped : state.step label = some after)
    (deactivates : deactivatedUser ⟨state, label, after⟩ = some id) :
    Exists fun index => Exists fun choice =>
      label = .act index choice ∧ state.pending index = some (.deactivate id) ∧
      Exists fun user => (AuthState.users state).find? id = some user ∧
        (AuthState.users after).find? id = some user.deactivate := by
  unfold deactivatedUser at deactivates
  cases label with
  | spawn | crash | internal => cases deactivates
  | act index choice =>
      simp only at deactivates
      split at deactivates
      · rename_i target pending
        split at deactivates
        · rename_i commits
          cases deactivates
          refine ⟨index, choice, rfl, pending, ?_⟩
          rcases State.historyAt_act stepped pending with ⟨resume, outcome, _, executed, _⟩
          rcases World.write_spec (Option.some.inj executed) with
            ⟨_, supply, reply, took, _⟩ | ⟨refused, _⟩
          · rcases Option.map_eq_some_iff.mp took with ⟨⟨saved, users⟩, updated, same⟩
            rcases Users.update_spec updated with ⟨user, found, _, rows⟩
            cases same
            refine ⟨user, found, ?_⟩
            have changed := rows id
            rw [found, Option.map_some,
              if_pos (beq_iff_eq.mpr (Table.key_of_find? found))] at changed
            exact changed
          · rw [commits] at refused
            cases refused
        · cases deactivates
      · cases deactivates

/-- The deactivation itself admits nobody. -/
theorem admitted_of_after {state after : AuthState} {label : AuthLabel} {entry : Entry}
    {index : Nat}
    (stepped : state.step label = some after)
    (deactivates : deactivatedUser ⟨state, label, after⟩ = some id)
    (admitted : Admitted entry (AuthState.users after) (after.historyAt index) id) :
    Admitted entry (AuthState.users state) (state.historyAt index) id := by
  rcases deactivatedUser_spec stepped deactivates with
    ⟨acting, choice, acts, pending, user, found, changed⟩
  have older : forall {event : Event Services}, event ∈ after.historyAt index ->
      event.op ≠ .deactivate id -> event ∈ state.historyAt index := by
    intro event happened other
    rcases State.historyAt_step stepped index with
      same | ⟨chosen, op, resume, outcome, label, here, _, grown⟩
    · exact same ▸ happened
    · rw [grown] at happened
      rcases List.mem_append.mp happened with before | now
      · exact before
      · cases acts.symm.trans label
        rw [State.pending, here] at pending
        cases pending
        cases List.mem_singleton.mp now
        exact absurd rfl other
  cases entry with
  | refresh bearer =>
      rcases admitted with ⟨seen, hash, asked, matching⟩
      exact ⟨seen, hash, older asked (fun same => by cases same), matching⟩
  | githubCallback details state =>
      rcases admitted with ⟨seen, asked, active⟩ |
        ⟨replied, ⟨row, there, named⟩, asked, checked⟩
      · exact Or.inl ⟨seen, older asked (fun same => by cases same), active⟩
      · refine Or.inr ⟨replied, ⟨user, found, ?_⟩, older asked (fun same => by cases same), checked⟩
        cases changed.symm.trans there
        exact named
  | deactivate | guarded => exact admitted

/-- A request that is admitted has done something. -/
theorem Admitted.present {entry : Entry} {state : AuthState} {users : Users} {index : Nat}
    (admitted : Admitted entry users (state.historyAt index) id) :
    index < state.processes.length := by
  cases entry with
  | refresh bearer =>
      rcases admitted with ⟨_, _, asked, _⟩
      exact State.present_of_history asked
  | githubCallback details _ =>
      rcases admitted with ⟨_, asked, _⟩ | ⟨_, _, asked, _⟩
      all_goals exact State.present_of_history asked
  | deactivate | guarded => exact admitted.elim

theorem Unstored.of_shorter {past later : History Services} (unstored : Unstored later)
    (extended : past <+: later) : Unstored past :=
  fun id refreshToken outcome member => unstored id refreshToken outcome (extended.subset member)

/-- When every admitted request is settled, no refresh token is stored after
the deactivation. -/
theorem unhashed_lasts {step : Transition sessions} {earlier rest : List (Transition sessions)}
    (initially : first.processes = []) (run : Execution first (earlier ++ step :: rest) last)
    (deactivates : deactivatedUser step = some id) (settled : Settled earlier step.before id) :
    Exists fun user => (AuthState.users last).find? id = some user ∧
      user.hashedRefreshToken = none := by
  rcases run.around with ⟨leading, stepped, following⟩
  rcases deactivatedUser_spec stepped deactivates with
    ⟨acting, choice, acts, pending, user, found, changed⟩
  refine following.always (fun state => Exists fun user =>
      (AuthState.users state).find? id = some user ∧ user.hashedRefreshToken = none)
    ⟨_, changed, rfl⟩ fun middle state label after reached held moved => ?_
  rcases held with ⟨current, there, unhashed⟩
  rcases step_users moved with same | ⟨index, chosen, op, _, acting, evolves⟩
  · rw [same]
    exact ⟨current, there, unhashed⟩
  · rcases evolves.keeps there with ⟨next, here, change⟩
    refine ⟨next, here, ?_⟩
    cases change with
    | same | authorized => exact unhashed
    | deactivated => rfl
    | stored refreshToken stores =>
        -- The process that stores has been admitted before the deactivation.
        exfalso
        subst stores
        have whole := (leading.next stepped).append reached
        rcases State.getElem?_of_pending acting with ⟨resume, process⟩
        rcases whole.spawned initially process with ⟨entry, spawned⟩
        rcases whole.permits_next entry_serves requests_credible initially spawned process with
          ⟨admits, _, unstored⟩
        have admitted := admitted_of_after stepped deactivates (admitted_before reached
          ⟨_, changed, rfl⟩ ⟨_, changed, rfl⟩
          (fun githubId validated => validated_owns initially whole validated)
          (fun presented hash matched => compared_true initially whole matched) admits)
        have present := List.getElem?_eq_getElem admitted.present
        rcases leading.spawned initially present with ⟨started, spawnedBefore⟩
        have longer : Spawned (earlier ++ [step] ++ middle) index started :=
          spawnedBefore.imp fun _ spawns =>
            ⟨List.mem_append_left _ (List.mem_append_left _ spawns.1), spawns.2⟩
        cases whole.spawned_unique spawned longer
        have since := (Execution.start.next stepped).append reached
        rcases settled index entry spawnedBefore admitted with idle | stored
        · rw [(since.over admitted.present idle).2] at acting
          cases acting
        · exact stored (unstored.of_shorter (since.historyAt_grows index))

/-- A request whose check of the account starts after the deactivation does
not succeed, whatever token it presents. -/
theorem rejected_after {step : Transition sessions} {earlier rest : List (Transition sessions)}
    (initially : first.processes = []) (run : Execution first (earlier ++ step :: rest) last)
    (deactivates : deactivatedUser step = some id) {index : Nat} {entry : Entry} {bearer : Bearer}
    (spawned : Spawned (earlier ++ step :: rest) index entry) (presents : entry.bearer = some bearer)
    (subject : bearer.token.claims.sub = id)
    (unchecked : forall outcome,
      (⟨.findAuthenticatedUser id, outcome⟩ : Event Services) ∉ step.before.historyAt index)
    (response : Response) (outcome : Except AuthError Unit) :
    (⟨.answer (.ok response), outcome⟩ : Event Services) ∉ last.historyAt index := by
  intro answered
  rcases List.append_of_mem answered with ⟨front, back, split⟩
  rcases run.permits_event entry_serves requests_credible initially spawned split with
    ⟨authenticated, _⟩
  rcases authenticated bearer presents with ⟨user, asked, active⟩
  rw [subject] at asked
  rcases run.around with ⟨_, stepped, following⟩
  rcases deactivatedUser_spec stepped deactivates with ⟨acting, choice, acts, pending, row, _, changed⟩
  have earlierAsked := replied_before following ⟨_, changed, rfl⟩
    (split ▸ List.mem_append_left _ asked) fun world choice replied still executed => by
      cases executed
      exact read_deactivated still active
  rcases State.historyAt_step stepped index with
    same | ⟨chosen, op, resume, replied, label, here, _, grown⟩
  · exact unchecked _ (same ▸ earlierAsked)
  · rw [grown] at earlierAsked
    rcases List.mem_append.mp earlierAsked with before | now
    · exact unchecked _ before
    · cases acts.symm.trans label
      rw [State.pending, here] at pending
      cases pending
      cases List.mem_singleton.mp now

/-- After a deactivation the account is never active again, and no request
whose check starts later succeeds.  If every request that has passed its last
check before is settled, the hash stays empty, too. -/
theorem deactivation_final {step : Transition sessions}
    {earlier rest : List (Transition sessions)} (initially : first.processes = [])
    (run : Execution first (earlier ++ step :: rest) last)
    (deactivates : deactivatedUser step = some id) :
    Deactivated (AuthState.users last) id ∧
    (Settled earlier step.before id ->
      Exists fun user => (AuthState.users last).find? id = some user ∧
        user.hashedRefreshToken = none) ∧
    forall index entry bearer, Spawned (earlier ++ step :: rest) index entry ->
      entry.bearer = some bearer -> bearer.token.claims.sub = id ->
      (forall outcome,
        (⟨.findAuthenticatedUser id, outcome⟩ : Event Services) ∉ step.before.historyAt index) ->
      forall response outcome,
        (⟨.answer (.ok response), outcome⟩ : Event Services) ∉ last.historyAt index := by
  refine ⟨?_, unhashed_lasts initially run deactivates, ?_⟩
  · rcases run.around with ⟨_, stepped, following⟩
    rcases deactivatedUser_spec stepped deactivates with ⟨_, _, _, _, row, _, changed⟩
    exact deactivated_lasts following ⟨_, changed, rfl⟩
  · intro index entry bearer spawned presents subject unchecked response outcome
    exact rejected_after initially run deactivates spawned presents subject unchecked response
      outcome

end Runs

/-! ## Concrete runs -/

def deactivatingState : AuthState := loggedInState.after [.spawn (.deactivate firstBearer)]

/-- The second request is about to deactivate the account. -/
def checkedState : AuthState := deactivatingState.after (List.replicate 3 (proceeds 1))

def deactivatedState : AuthState := checkedState.after [proceeds 1]

/-- A deactivation with no other request under way. -/
theorem deactivation_final_alone :
    Exists fun steps => Execution emptyState steps deactivatedState ∧
      Deactivated (AuthState.users deactivatedState) 1 ∧
      Exists fun user => (AuthState.users deactivatedState).find? 1 = some user ∧
        user.hashedRefreshToken = none := by
  have loggedIn : Execution emptyState (emptyState.trace loginScript) loggedInState :=
    State.trace_execution (by decide +kernel)
  have spawns : loggedInState.step (.spawn (.deactivate firstBearer)) = some deactivatingState :=
    State.after_step (by decide +kernel)
  have checks : Execution deactivatingState
      (deactivatingState.trace (List.replicate 3 (proceeds 1))) checkedState :=
    State.trace_execution (by decide +kernel)
  have deactivates : checkedState.step (proceeds 1) = some deactivatedState :=
    State.after_step (by decide +kernel)
  have leading := (loggedIn.next spawns).append checks
  have run := leading.next deactivates
  rcases deactivation_final rfl run (show _ = some 1 by decide +kernel) with ⟨status, hash, _⟩
  refine ⟨_, run, status, hash fun index entry spawned admitted => Or.inl ?_⟩
  have inside : index < 2 := admitted.present
  cases index with
  | zero => decide +kernel
  | succ other =>
      have second : other = 0 := by omega
      subst second
      have deactivating : @Spawned Services sessions (emptyState.trace loginScript ++
          [⟨loggedInState, .spawn (.deactivate firstBearer), deactivatingState⟩] ++
          deactivatingState.trace (List.replicate 3 (proceeds 1))) 1
          (Entry.deactivate firstBearer) :=
        ⟨_, List.mem_append_left _ (List.mem_append_right _ List.mem_cons_self), rfl,
          show loggedInState.processes.length = 1 by decide +kernel⟩
      cases leading.spawned_unique spawned deactivating
      exact admitted.elim

/-- A refresh that has compared its token, and then a deactivation up to its
update. -/
def overtakenScript : List AuthLabel :=
  loginScript ++ .spawn (.refresh firstBearer) :: List.replicate 4 (proceeds 1) ++
    .spawn (.deactivate firstBearer) :: List.replicate 3 (proceeds 2)

def overtakenState : AuthState := emptyState.after overtakenScript

/-- The deactivation commits, and the refresh goes on. -/
def rehashedState : AuthState :=
  (overtakenState.after [proceeds 2]).after (List.replicate 3 (proceeds 1))

/-- A refresh that was admitted before stores a hash after the deactivation. -/
theorem overtaken_refresh_rehashes :
    Exists fun earlier => Exists fun step => Exists fun rest =>
      Execution emptyState (earlier ++ step :: rest) rehashedState ∧
      deactivatedUser step = some 1 ∧
      ((AuthState.users rehashedState).find? 1).map
        (fun user => (user.status, user.hashedRefreshToken.isSome)) =
          some (.DEACTIVATED, true) := by
  have leading : Execution emptyState (emptyState.trace overtakenScript) overtakenState :=
    State.trace_execution (by decide +kernel)
  have deactivates : overtakenState.step (proceeds 2) =
      some (overtakenState.after [proceeds 2]) :=
    State.after_step (by decide +kernel)
  have following := @State.trace_execution _ _ (overtakenState.after [proceeds 2])
    (List.replicate 3 (proceeds 1)) (by decide +kernel)
  have run := (leading.next deactivates).append following
  rw [List.append_assoc, List.singleton_append] at run
  exact ⟨_, _, _, run, by decide +kernel, by decide +kernel⟩

end GitMate.Auth
