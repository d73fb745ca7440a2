import GitMate.Auth.Discipline

namespace GitMate.Auth

open JavaScript Relational Interleaving Machine

/-!
# Which refresh token is accepted

The row of a user carries the hash of the refresh token that was stored last.
A refresh accepts a token if bcrypt takes it for the stored one, and stores a
new one without looking at the row again.  If bcrypt takes no other token for
the stored one, if the row is still as it was read when a refresh stores, and
if no two refresh tokens of a user are signed in one second, then exactly the
token that was stored last is accepted, and once.
-/

/-! ## Marks of a run -/

/-- The refresh token that a step stores, and for whom. -/
def storedToken (step : Transition sessions) : Option (UserId × Token) :=
  match step.label with
  | .act index choice =>
      match step.before.pending index with
      | some (.updateRefreshToken id refreshToken) =>
          if World.commits (.updateRefreshToken id refreshToken) choice step.before.world then
            some (id, refreshToken)
          else none
      | _ => none
  | .spawn _ | .crash _ | .internal _ => none

/-- The refresh tokens that are stored in a run. -/
def storedTokens (steps : List (Transition sessions)) : List (UserId × Token) :=
  steps.filterMap storedToken

/-- The refresh tokens of one user, the latest last. -/
def tokensOf (steps : List (Transition sessions)) (id : UserId) : List Token :=
  ((storedTokens steps).filter fun stored => stored.1 == id).map Prod.snd

/-- The user and the second for which a step signs a refresh token. -/
def signedAt (step : Transition sessions) : Option (UserId × Nat) :=
  match step.label with
  | .act index (.succeed _) =>
      match step.before.pending index with
      | some (.sign body expiresIn) =>
          if expiresIn = REFRESH_TOKEN_LIFETIME then
            some (body.sub, World.seconds step.before.world)
          else none
      | _ => none
  | .act _ _ | .spawn _ | .crash _ | .internal _ => none

/-- The token that a request has presented and bcrypt has taken for the
stored one. -/
def presentedToken (past : History Services) : Option Bearer :=
  past.findSome? fun event =>
    match event with
    | ⟨.compare presented _, .ok true⟩ => some presented
    | _ => none

/-- The token that a step accepts: it stores a new one in its place. -/
def acceptedToken (step : Transition sessions) : Option (UserId × Bearer) :=
  match step.label with
  | .act index _ =>
      (storedToken step).bind fun stored =>
        (presentedToken (step.before.historyAt index)).map fun presented => (stored.1, presented)
  | .spawn _ | .crash _ | .internal _ => none

theorem presentedToken_spec {past : History Services} {bearer : Bearer}
    (presented : presentedToken past = some bearer) :
    Exists fun hash => (⟨.compare bearer hash, .ok true⟩ : Event Services) ∈ past := by
  rcases List.exists_of_findSome?_eq_some presented with ⟨event, member, found⟩
  split at found
  · rename_i other hash
    cases found
    exact ⟨hash, member⟩
  · cases found

theorem storedToken_spec {step : Transition sessions} {id : UserId} {refreshToken : Token}
    (stores : storedToken step = some (id, refreshToken)) :
    Exists fun index => Exists fun choice => step.label = .act index choice ∧
      step.before.pending index = some (.updateRefreshToken id refreshToken) ∧
      World.commits (.updateRefreshToken id refreshToken) choice step.before.world = true := by
  unfold storedToken at stores
  split at stores
  · rename_i index choice acts
    split at stores
    · rename_i target token pending
      split at stores
      · rename_i commits
        cases stores
        exact ⟨index, choice, acts, pending, commits⟩
      · cases stores
    · cases stores
  · cases stores
  · cases stores
  · cases stores

theorem acceptedToken_spec {step : Transition sessions} {id : UserId} {bearer : Bearer}
    (accepts : acceptedToken step = some (id, bearer)) :
    Exists fun refreshToken => storedToken step = some (id, refreshToken) ∧
      Exists fun index => Exists fun choice => Exists fun hash =>
        step.label = .act index choice ∧
        step.before.pending index = some (.updateRefreshToken id refreshToken) ∧
        (⟨.compare bearer hash, .ok true⟩ : Event Services) ∈ step.before.historyAt index := by
  unfold acceptedToken at accepts
  split at accepts
  · rename_i index choice acts
    rcases Option.bind_eq_some_iff.mp accepts with ⟨⟨target, refreshToken⟩, stores, found⟩
    rcases Option.map_eq_some_iff.mp found with ⟨presented, seen, same⟩
    cases same
    rcases presentedToken_spec seen with ⟨hash, member⟩
    rcases storedToken_spec stores with ⟨acting, chosen, label, pending, _⟩
    cases acts.symm.trans label
    exact ⟨refreshToken, stores, index, choice, hash, acts, pending, member⟩
  · cases accepts
  · cases accepts
  · cases accepts

/-! ## The hash of a user -/

/-- Wherever a hash stands after a step, the step has stored it, or it stood
there before and the step has stored nothing for the user. -/
theorem step_hash {state after : AuthState} {label : AuthLabel}
    (stepped : state.step label = some after) {id : UserId} {changed : User} {hash : BcryptHash}
    (there : (AuthState.users after).find? id = some changed)
    (hashed : changed.hashedRefreshToken = some hash) :
    storedToken ⟨state, label, after⟩ = some (id, hash.input) ∨
      (forall token, storedToken ⟨state, label, after⟩ ≠ some (id, token)) ∧
        Exists fun user => (AuthState.users state).find? id = some user ∧
          user.hashedRefreshToken = some hash := by
  cases label with
  | spawn entry =>
      cases State.step_spawn stepped
      exact Or.inr ⟨fun token same => (by cases same), changed, there, hashed⟩
  | crash index =>
      rcases State.step_crash stepped with ⟨stopped, here, rfl⟩
      exact Or.inr ⟨fun token same => (by cases same), changed, there, hashed⟩
  | internal event =>
      rcases State.step_internal stepped with ⟨world, moved, rfl⟩
      cases moved
      exact Or.inr ⟨fun token same => (by cases same), changed, there, hashed⟩
  | act index choice =>
      rcases State.step_act stepped with ⟨op, resume, past, outcome, world, here, executed, rfl⟩
      have pending : state.pending index = some op := by rw [State.pending, here]
      by_cases stores : Exists fun target => Exists fun token =>
          op = .updateRefreshToken target token
      · rcases stores with ⟨target, token, rfl⟩
        rcases World.write_spec (Option.some.inj executed) with
          ⟨commits, supply, reply, took, _⟩ | ⟨refused, same, _⟩
        · have mark : storedToken ⟨state, .act index choice,
              ⟨world, state.processes.set index ⟨resume outcome,
                past ++ [⟨.updateRefreshToken target token, outcome⟩]⟩⟩⟩ = some (target, token) := by
            unfold storedToken
            simp only [pending]
            exact if_pos commits
          rcases Option.map_eq_some_iff.mp took with ⟨⟨saved, users⟩, updated, same⟩
          rcases Users.update_spec updated with ⟨user, found, _, rows⟩
          cases same
          have changedRow := (rows id).symm.trans there
          by_cases own : id = target
          · subst own
            rw [found, Option.map_some,
              if_pos (beq_iff_eq.mpr (Table.key_of_find? found))] at changedRow
            cases changedRow
            cases hashed
            exact Or.inl mark
          · refine Or.inr ⟨fun other same => ?_, ?_⟩
            · rw [mark] at same
              cases same
              exact own rfl
            · rcases Option.map_eq_some_iff.mp changedRow with ⟨row, before, same⟩
              have other : (row.id == target) = false :=
                beq_false_of_ne ((Table.key_of_find? before).symm ▸ own)
              rw [other, if_neg Bool.false_ne_true] at same
              exact ⟨row, before, same ▸ hashed⟩
        · subst same
          refine Or.inr ⟨fun other mark => ?_, changed, there, hashed⟩
          rcases storedToken_spec mark with ⟨acting, chosen, acts, waits, commits⟩
          cases acts
          cases pending.symm.trans waits
          cases commits.symm.trans refused
      · refine Or.inr ⟨fun token mark => ?_, ?_⟩
        · rcases storedToken_spec mark with ⟨acting, chosen, acts, waits, _⟩
          cases acts
          exact stores ⟨id, token, Option.some.inj (pending.symm.trans waits)⟩
        · have evolves : Evolves op (AuthState.users state) world.users :=
            World.exec_evolves executed
          cases before : (AuthState.users state).find? id with
          | none =>
              rw [evolves.appears there before] at hashed
              cases hashed
          | some user =>
              rcases evolves.keeps before with ⟨row, now, change⟩
              cases now.symm.trans there
              rcases change.hash (fun token same => stores ⟨id, token, same⟩) with same | none
              · exact ⟨user, rfl, same.symm.trans hashed⟩
              · rw [none] at hashed
                cases hashed

section Runs

variable {first last : AuthState} {steps : List (Transition sessions)} {id : UserId}

/-- No request is under way, and nobody has a refresh token. -/
structure Fresh (state : AuthState) : Prop where
  idle : state.processes = []
  unhashed : forall id user, (AuthState.users state).find? id = some user ->
    user.hashedRefreshToken = none

theorem tokensOf_append (front back : List (Transition sessions)) (id : UserId) :
    tokensOf (front ++ back) id = tokensOf front id ++ tokensOf back id := by
  simp only [tokensOf, storedTokens, List.filterMap_append, List.filter_append, List.map_append]

theorem tokensOf_cons_stored {step : Transition sessions} {token : Token}
    (stores : storedToken step = some (id, token)) (rest : List (Transition sessions)) :
    tokensOf (step :: rest) id = token :: tokensOf rest id := by
  rw [tokensOf, storedTokens, List.filterMap_cons_some stores,
    List.filter_cons,
    if_pos (beq_self_eq_true id)]
  rfl

theorem tokensOf_singleton_other {step : Transition sessions}
    (other : forall token, storedToken step ≠ some (id, token)) : tokensOf [step] id = [] := by
  unfold tokensOf storedTokens
  cases stores : storedToken step with
  | none =>
      rw [List.filterMap_cons_none stores]
      rfl
  | some stored =>
      have different : (stored.1 == id) = false := by
        refine beq_false_of_ne fun same => other stored.2 ?_
        rw [stores, ← same]
      rw [List.filterMap_cons_some stores, List.filterMap_nil, List.filter_cons,
        if_neg (ne_true_of_eq_false different)]
      rfl

/-- The row of a user carries the hash of the token that was stored last. -/
theorem hash_last (fresh : Fresh first) (run : Execution first steps last) {user : User}
    {hash : BcryptHash} (found : (AuthState.users last).find? id = some user)
    (hashed : user.hashedRefreshToken = some hash) :
    (tokensOf steps id).getLast? = some hash.input := by
  induction run generalizing user with
  | start =>
      rw [fresh.unhashed id user found] at hashed
      cases hashed
  | @next steps state after label run stepped inductionHypothesis =>
      rw [tokensOf_append]
      rcases step_hash stepped found hashed with stores | ⟨other, before, there, same⟩
      · rw [tokensOf_cons_stored stores]
        exact List.getLast?_concat
      · rw [tokensOf_singleton_other other, List.append_nil]
        exact inductionHypothesis there same

/-- What a process that stores has signed, and when. -/
theorem signing_step (fresh : Fresh first) (run : Execution first steps last) {index : Nat}
    {token : Token} (signed : Signed (last.historyAt index) id token) :
    token.claims.sub = id ∧ token.claims.exp = token.claims.iat + REFRESH_TOKEN_LIFETIME ∧
      Exists fun step => step ∈ steps ∧ step.actor = some index ∧
        signedAt step = some (id, token.claims.iat) := by
  rcases signed with ⟨username, happened⟩
  rcases run.step_of_event fresh.idle happened with
    ⟨step, member, choice, resume, acts, here, executed⟩
  have pending : step.before.pending index =
      some (.sign (sessionBody id username) REFRESH_TOKEN_LIFETIME) := by rw [State.pending, here]
  have replied := (Prod.mk.inj (Option.some.inj executed)).1
  cases choice with
  | succeed supply =>
      cases replied
      refine ⟨rfl, rfl, step, member, ?_, ?_⟩
      · rw [Transition.actor, acts]
      · unfold signedAt
        rw [acts]
        simp only [pending]
        rfl
  | lose | fail => cases replied

/-- A process that comes to store has signed what it stores, and has not
stored before. -/
theorem storing_permitted (fresh : Fresh first) (run : Execution first steps last)
    {step : Transition sessions} (member : step ∈ steps) {index : Nat} {choice : Choice}
    (acts : step.label = .act index choice) {token : Token}
    (pending : step.before.pending index = some (.updateRefreshToken id token)) :
    Signed (step.before.historyAt index) id token ∧ Unstored (step.before.historyAt index) := by
  have stepped := (run.reaches_step member).2
  rw [acts] at stepped
  rcases State.historyAt_act stepped pending with ⟨resume, outcome, here, _, _⟩
  rcases List.append_of_mem member with ⟨earlier, rest, rfl⟩
  rcases run.around.1.spawned fresh.idle here with ⟨entry, spawned⟩
  have permitted := run.around.1.permits_next entry_serves requests_credible fresh.idle spawned here
  exact permitted.2

/-- What a step that stores has signed in the run before it. -/
theorem stored_signed (fresh : Fresh first) {earlier rest : List (Transition sessions)}
    {step : Transition sessions} (run : Execution first (earlier ++ step :: rest) last)
    {token : Token} (stores : storedToken step = some (id, token)) :
    token.claims.sub = id ∧ token.claims.exp = token.claims.iat + REFRESH_TOKEN_LIFETIME ∧
      Exists fun index => Exists fun choice => Exists fun signing =>
        step.label = .act index choice ∧
        step.before.pending index = some (.updateRefreshToken id token) ∧
        signing ∈ earlier ∧ signing.actor = some index ∧
        signedAt signing = some (id, token.claims.iat) := by
  rcases storedToken_spec stores with ⟨index, choice, acts, pending, _⟩
  have permitted := storing_permitted fresh run (List.mem_append_right _ List.mem_cons_self)
    acts pending
  rcases signing_step fresh run.around.1 permitted.1 with
    ⟨subject, expiry, signing, member, actor, marked⟩
  exact ⟨subject, expiry, index, choice, signing, acts, pending, member, actor, marked⟩

/-- When no two refresh tokens of a user are signed in one second, no token is
stored twice. -/
theorem stored_once (fresh : Fresh first) (run : Execution first steps last)
    (seconds : (steps.filterMap signedAt).Nodup) :
    ((storedTokens steps).map Prod.snd).Nodup := by
  induction run with
  | start => exact List.nodup_nil
  | @next steps state after label run stepped inductionHypothesis =>
      have before := inductionHypothesis (seconds.sublist
        ((List.sublist_append_left _ _).filterMap signedAt))
      unfold storedTokens at before ⊢
      rw [List.filterMap_append]
      cases stores : storedToken ⟨state, label, after⟩ with
      | none =>
          rw [List.filterMap_cons_none stores, List.filterMap_nil, List.append_nil]
          exact before
      | some stored =>
          rw [List.filterMap_cons_some stores, List.filterMap_nil, List.map_append]
          refine List.nodup_append.mpr ⟨before, List.nodup_singleton _, ?_⟩
          intro left leftMember right rightMember same
          rw [List.map_singleton, List.mem_singleton] at rightMember
          rcases List.mem_map.mp leftMember with ⟨other, among, token⟩
          rcases List.mem_filterMap.mp among with ⟨step, member, otherStores⟩
          -- Both steps store one token, so one process has signed it.
          rcases stored_signed fresh (run.next stepped) stores with
            ⟨subject, _, index, choice, signing, acts, pending, signed, actor, marked⟩
          rcases List.append_of_mem member with ⟨earlier, rest, rfl⟩
          rcases stored_signed fresh run otherStores with
            ⟨otherSubject, _, otherIndex, otherChoice, otherSigning, otherActs, otherPending,
              otherSigned, otherActor, otherMarked⟩
          have sameToken : other.2 = stored.2 := token.trans (same.trans rightMember)
          have sameUser : other.1 = stored.1 :=
            otherSubject.symm.trans ((congrArg (fun token => token.claims.sub) sameToken).trans
              subject)
          have once := eq_of_mark seconds (List.mem_append_left _ signed)
            (List.mem_append_left _ (List.mem_append_left _ otherSigned)) marked
            (otherMarked.trans (by rw [sameUser, sameToken]))
          subst once
          cases actor.symm.trans otherActor
          -- That process has stored in the earlier step already.
          have unstored := (storing_permitted fresh (run.next stepped)
            (List.mem_append_right _ List.mem_cons_self) acts pending).2
          have following := run.around.2
          rw [otherActs] at following
          rcases State.historyAt_act following.1 otherPending with ⟨resume, outcome, _, _, grown⟩
          refine unstored other.1 other.2 outcome (List.IsPrefix.subset
            (following.2.historyAt_grows index) ?_)
          rw [grown]
          exact List.mem_append_right _ List.mem_cons_self

theorem tokensOf_nodup (fresh : Fresh first) (run : Execution first steps last)
    (seconds : (steps.filterMap signedAt).Nodup) (id : UserId) : (tokensOf steps id).Nodup :=
  (stored_once fresh run seconds).sublist (List.filter_sublist.map Prod.snd)

end Runs

/-! ## What is accepted -/

/-- A token that bcrypt takes for the stored one is the stored one. -/
def Unambiguous (step : Transition sessions) : Prop :=
  forall index choice presented hash, step.label = .act index choice ->
    step.before.pending index = some (.compare presented hash) ->
      hash.compare presented.toBytes = true -> presented = ⟨[], hash.input⟩

/-- A refresh that comes to store finds the hash as it has read it. -/
def Unreplaced (step : Transition sessions) : Prop :=
  forall index choice id token presented hash, step.label = .act index choice ->
    step.before.pending index = some (.updateRefreshToken id token) ->
      (⟨.compare presented hash, .ok true⟩ : Event Services) ∈ step.before.historyAt index ->
        Exists fun user => (AuthState.users step.before).find? id = some user ∧
          user.hashedRefreshToken = some hash

/-- Among the tokens of one user under one name the first condition admits the
stored token alone, since bcrypt cannot tell them apart. -/
theorem unambiguous_session {step : Transition sessions} {index : Nat} {choice : Choice}
    {token : Token} {hash : BcryptHash} {userId : UserId} {username : Text}
    (acts : step.label = .act index choice)
    (pending : step.before.pending index = some (.compare ⟨[], token⟩ hash))
    (storedBody : hash.input.claims.toTokenBody = sessionBody userId username)
    (presentedBody : token.claims.toTokenBody = sessionBody userId username) :
    Unambiguous step ↔ token = hash.input := by
  refine ⟨fun unambiguous => ?_, fun same other chosen presented read alsoActs alsoPending _ => ?_⟩
  · have agrees : hash.compare (Bearer.toBytes ⟨[], token⟩) = true :=
      compare_session storedBody presentedBody
    exact congrArg Bearer.token (unambiguous index choice _ hash acts pending agrees)
  · cases acts.symm.trans alsoActs
    cases pending.symm.trans alsoPending
    rw [same]

section Acceptance

variable {first last : AuthState} {steps earlier rest : List (Transition sessions)}
  {step : Transition sessions} {id : UserId}

/-- What is accepted is the token that was stored last. -/
theorem accepted_last (fresh : Fresh first)
    (run : Execution first (earlier ++ step :: rest) last)
    (unambiguous : forall step, step ∈ earlier -> Unambiguous step) (unreplaced : Unreplaced step)
    {bearer : Bearer} (accepts : acceptedToken step = some (id, bearer)) :
    (tokensOf earlier id).getLast? = some bearer.token := by
  rcases acceptedToken_spec accepts with
    ⟨refreshToken, stores, index, choice, hash, acts, pending, compared⟩
  have leading := run.around.1
  rcases unreplaced index choice id refreshToken bearer hash acts pending compared with
    ⟨user, found, hashed⟩
  have latest := hash_last fresh leading found hashed
  rcases leading.step_of_event fresh.idle compared with
    ⟨comparing, member, chosen, resume, compares, here, executed⟩
  have waits : comparing.before.pending index = some (.compare bearer hash) := by
    rw [State.pending, here]
  have credible := @World.exec_credible (.compare bearer hash) chosen comparing.before.world
    comparing.after.world (.ok true) executed
  have same := unambiguous comparing member index chosen bearer hash compares waits
    (credible true rfl).symm
  rw [same]
  exact latest

/-- Where nothing occurs twice, the last element occurs nowhere before. -/
theorem not_mem_of_last {α : Type} {front back : List α} {middle latest : α}
    (distinct : (front ++ middle :: back).Nodup)
    (last : (front ++ middle :: back).getLast? = some latest) : latest ∉ front := by
  intro member
  rw [List.getLast?_append_of_ne_nil _ (List.cons_ne_nil _ _)] at last
  exact (List.nodup_append.mp distinct).2.2 latest member latest (List.mem_of_getLast? last) rfl

/-- Whoever stores a token of a user has signed it for that user. -/
theorem mem_tokensOf (fresh : Fresh first) (run : Execution first steps last) {token : Token}
    (member : token ∈ tokensOf steps id) :
    token.claims.sub = id ∧ token.claims.exp = token.claims.iat + REFRESH_TOKEN_LIFETIME := by
  rcases List.mem_map.mp member with ⟨⟨target, stored⟩, selected, rfl⟩
  rcases List.mem_filter.mp selected with ⟨among, own⟩
  cases beq_iff_eq.mp own
  rcases List.mem_filterMap.mp among with ⟨step, here, stores⟩
  rcases List.append_of_mem here with ⟨earlier, rest, rfl⟩
  rcases stored_signed fresh run stores with ⟨subject, expiry, _⟩
  exact ⟨subject, expiry⟩

/-- A refresh that has been answered with success has accepted its token. -/
theorem accepted_of_answer (fresh : Fresh first) (run : Execution first steps last) {index : Nat}
    {bearer : Bearer} (spawned : Spawned steps index (Entry.refresh bearer)) {response : Response}
    {outcome : Except AuthError Unit}
    (answered : (⟨.answer (.ok response), outcome⟩ : Event Services) ∈ last.historyAt index) :
    Exists fun step => step ∈ steps ∧ Exists fun id => acceptedToken step = some (id, bearer) := by
  have permits : forall {event : Event Services}, event ∈ last.historyAt index ->
      Exists fun front => Op.Permitted (.refresh bearer) front event.op ∧
        front <+: last.historyAt index := by
    intro event member
    rcases List.append_of_mem member with ⟨front, back, split⟩
    refine ⟨front, ?_, split ▸ List.prefix_append _ _⟩
    exact run.permits_event entry_serves requests_credible fresh.idle spawned split
  rcases permits answered with ⟨front, ⟨_, stored⟩, extended⟩
  rcases stored bearer rfl with ⟨id, refreshToken, stores⟩
  rcases run.step_of_event fresh.idle (extended.subset stores) with
    ⟨step, member, choice, resume, acts, here, executed⟩
  have pending : step.before.pending index = some (.updateRefreshToken id refreshToken) := by
    rw [State.pending, here]
  have permitted := run.permits_step entry_serves requests_credible fresh.idle spawned member acts
    pending
  rcases permitted.1.2 with ⟨user, hash, _, _, _, compared⟩
  refine ⟨step, member, id, ?_⟩
  rcases World.write_spec (Option.some.inj executed) with ⟨commits, _⟩ | ⟨_, _, failed⟩
  · have mark : storedToken step = some (id, refreshToken) := by
      unfold storedToken
      rw [acts]
      simp only [pending]
      exact if_pos commits
    cases presented : presentedToken (step.before.historyAt index) with
    | none =>
        have unseen := List.findSome?_eq_none_iff.mp presented _ compared
        cases unseen
    | some other =>
        rcases presentedToken_spec presented with ⟨_, alsoCompared⟩
        have inside : step.before.historyAt index <+: last.historyAt index := by
          rcases List.append_of_mem member with ⟨earlier, rest, rfl⟩
          rcases run.around with ⟨_, stepped, following⟩
          exact ((Execution.start.next stepped).append following).historyAt_grows index
        rcases permits (inside.subset alsoCompared) with ⟨_, same, _⟩
        cases same
        unfold acceptedToken
        rw [acts]
        simp only [mark, presented]
        rfl
  · exact absurd rfl (failed ())

/-- As long as bcrypt takes no other token for the stored one, a refresh finds
the hash as it has read it, and no two refresh tokens of a user are signed in
one second, a refresh accepts exactly the token that was stored last.  No
token is then accepted twice, none that was stored before a completed login or
refresh is accepted after it, and an access token never is. -/
theorem refresh_rotation (fresh : Fresh first) (run : Execution first steps last)
    (seconds : (steps.filterMap signedAt).Nodup)
    (unambiguous : forall step, step ∈ steps -> Unambiguous step)
    (unreplaced : forall step, step ∈ steps -> Unreplaced step) :
    (forall index bearer, Spawned steps index (Entry.refresh bearer) -> forall response outcome,
      (⟨.answer (.ok response), outcome⟩ : Event Services) ∈ last.historyAt index ->
        Exists fun step => step ∈ steps ∧
          Exists fun id => acceptedToken step = some (id, bearer)) ∧
    forall earlier step rest id bearer, steps = earlier ++ step :: rest ->
      acceptedToken step = some (id, bearer) ->
        (forall later, later ∈ rest -> forall other again,
          acceptedToken later = some (other, again) -> again.token ≠ bearer.token) ∧
        (forall front completed back token, earlier = front ++ completed :: back ->
          storedToken completed = some (id, token) -> bearer.token ∉ tokensOf front id) ∧
        forall userId username now signature,
          bearer.token ≠ accessToken userId username now signature := by
  refine ⟨fun index bearer spawned response outcome answered =>
    accepted_of_answer fresh run spawned answered, ?_⟩
  rintro earlier step rest id bearer rfl accepts
  have latest := accepted_last fresh run
    (fun other member => unambiguous other (List.mem_append_left _ member))
    (unreplaced step (List.mem_append_right _ List.mem_cons_self)) accepts
  have leading := run.around.1
  rcases mem_tokensOf fresh leading (List.mem_of_getLast? latest) with ⟨subject, expiry⟩
  refine ⟨fun later member other again acceptsAgain same => ?_,
    fun front completed back token split stores stale => ?_,
    fun userId username now signature same => ?_⟩
  · rcases List.append_of_mem member with ⟨between, after, rfl⟩
    have split : earlier ++ step :: (between ++ later :: after) =
        (earlier ++ step :: between) ++ later :: after := by
      rw [List.append_assoc, List.cons_append]
    rw [split] at run seconds unambiguous unreplaced
    have latestAgain := accepted_last fresh run
      (fun other member => unambiguous other (List.mem_append_left _ member))
      (unreplaced later (List.mem_append_right _ List.mem_cons_self)) acceptsAgain
    have sameUser : other = id := by
      rw [← (mem_tokensOf fresh run.around.1 (List.mem_of_getLast? latestAgain)).1, same]
      exact subject
    subst sameUser
    have distinct := tokensOf_nodup fresh run.around.1
      (seconds.sublist ((List.sublist_append_left _ _).filterMap signedAt)) other
    rcases acceptedToken_spec accepts with ⟨token, stores, _⟩
    rw [tokensOf_append, tokensOf_cons_stored stores] at distinct latestAgain
    exact not_mem_of_last distinct latestAgain (same ▸ List.mem_of_getLast? latest)
  · subst split
    have distinct := tokensOf_nodup fresh leading
      (seconds.sublist ((List.sublist_append_left _ _).filterMap signedAt)) id
    rw [tokensOf_append, tokensOf_cons_stored stores] at distinct latest
    exact not_mem_of_last distinct latest stale
  · rw [same] at expiry
    exact absurd (Nat.add_left_cancel expiry) (by decide)

end Acceptance

/-! ## Concrete runs -/

/-- Both conditions on a step, as they can be computed. -/
def rotationCheck (step : Transition sessions) : Bool :=
  match step.label with
  | .act index _ =>
      match step.before.pending index with
      | some (.compare presented hash) =>
          !hash.compare presented.toBytes || presented == ⟨[], hash.input⟩
      | some (.updateRefreshToken id _) =>
          (step.before.historyAt index).all fun event =>
            match event with
            | ⟨.compare _ hash, .ok true⟩ =>
                ((AuthState.users step.before).find? id).any fun user =>
                  user.hashedRefreshToken == some hash
            | _ => true
      | _ => true
  | .spawn _ | .crash _ | .internal _ => true

theorem unambiguous_of_check {step : Transition sessions} (checked : rotationCheck step = true) :
    Unambiguous step := by
  intro index choice presented hash acts pending agrees
  unfold rotationCheck at checked
  rw [acts] at checked
  simp only [pending, agrees, Bool.not_true, Bool.false_or] at checked
  exact beq_iff_eq.mp checked

theorem unreplaced_of_check {step : Transition sessions} (checked : rotationCheck step = true) :
    Unreplaced step := by
  intro index choice id token presented hash acts pending compared
  unfold rotationCheck at checked
  rw [acts] at checked
  simp only [pending] at checked
  have found := List.all_eq_true.mp checked _ compared
  cases there : (AuthState.users step.before).find? id with
  | none =>
      rw [there] at found
      cases found
  | some user =>
      rw [there] at found
      exact ⟨user, rfl, beq_iff_eq.mp found⟩

/-- A refresh two seconds after the login. -/
def refreshScript : List AuthLabel :=
  loginScript ++ elapse 2000 :: .spawn (.refresh firstBearer) :: List.replicate 8 (proceeds 1)

/-- The refresh token of the login is accepted, and then is not any more. -/
theorem refresh_rotation_first :
    Exists fun steps => Execution emptyState steps (emptyState.after refreshScript) ∧
      steps.filterMap acceptedToken = [(1, firstBearer)] ∧
      forall userId username now signature,
        firstBearer.token ≠ accessToken userId username now signature := by
  have run := State.trace_execution
    (show (emptyState.play refreshScript).isSome = true by decide +kernel)
  have checked : (emptyState.trace refreshScript).all rotationCheck = true := by decide +kernel
  have accepts : (emptyState.trace refreshScript).filterMap acceptedToken = [(1, firstBearer)] := by
    decide +kernel
  have fresh : Fresh emptyState := ⟨rfl, fun id user found => by cases found⟩
  have rotates := refresh_rotation fresh run (by decide +kernel)
    (fun step member => unambiguous_of_check (List.all_eq_true.mp checked step member))
    (fun step member => unreplaced_of_check (List.all_eq_true.mp checked step member))
  have accepted : (1, firstBearer) ∈ (emptyState.trace refreshScript).filterMap acceptedToken := by
    rw [accepts]
    exact List.mem_cons_self
  rcases List.mem_filterMap.mp accepted with ⟨step, member, marked⟩
  rcases List.append_of_mem member with ⟨earlier, rest, split⟩
  exact ⟨_, run, accepts, (rotates.2 earlier step rest 1 firstBearer split marked).2.2⟩

def firstAccessToken : Token := accessToken 1 (text "octocat") 0 sampleSignature

/-- Three refreshes, each two seconds after the one before: twice with the
refresh token of the login, and then with its access token. -/
def replayedScript : List AuthLabel :=
  refreshScript ++ elapse 2000 :: .spawn (.refresh firstBearer) :: List.replicate 8 (proceeds 2) ++
    elapse 2000 :: .spawn (.refresh ⟨[], firstAccessToken⟩) :: List.replicate 8 (proceeds 3)

/-- All three are accepted. -/
theorem replayed_tokens_accepted :
    Exists fun steps => Execution emptyState steps (emptyState.after replayedScript) ∧
      steps.filterMap acceptedToken =
        [(1, firstBearer), (1, firstBearer), (1, ⟨[], firstAccessToken⟩)] := by
  have run := State.trace_execution
    (show (emptyState.play replayedScript).isSome = true by decide +kernel)
  exact ⟨_, run, by decide +kernel⟩

end GitMate.Auth
