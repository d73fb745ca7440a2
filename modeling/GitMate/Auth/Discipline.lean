import GitMate.Auth.Service

namespace GitMate.Auth

open JavaScript Relational Interleaving

/-!
# What the requests of a session do

Two things are stated once for everything that follows.  An operation changes
the row of a user in one of four ways, and none of them changes the GitHub id
or makes a deactivated account active again.  A request stores a refresh token
only after it has signed that token and has seen the account active, and only
once; and a request that presents a token succeeds only after it has seen the
account of its subject active.
-/

/-! ## What an operation does to a user -/

/-- The ways in which an operation changes the row of a user. -/
inductive Change (op : Op) (id : UserId) : User -> User -> Prop where
  | same {user : User} : Change op id user user
  | authorized {user : User} (details : GithubOAuthDetails) (githubToken : String) :
      Change op id user (user.authorize details githubToken)
  | stored {user : User} (refreshToken : Token) (stores : op = .updateRefreshToken id refreshToken) :
      Change op id user (user.setRefreshToken refreshToken)
  | deactivated {user : User} (deactivates : op = .deactivate id) :
      Change op id user user.deactivate

theorem Change.githubId {op : Op} {id : UserId} {before after : User}
    (change : Change op id before after) : after.githubId = before.githubId := by
  cases change <;> rfl

/-- A deactivated account stays deactivated. -/
theorem Change.deactivated_stays {op : Op} {id : UserId} {before after : User}
    (change : Change op id before after) (deactivated : before.status = .DEACTIVATED) :
    after.status = .DEACTIVATED := by
  cases change with
  | deactivated => rfl
  | same | authorized | stored => exact deactivated

/-- Only a stored refresh token sets a hash. -/
theorem Change.hash {op : Op} {id : UserId} {before after : User}
    (change : Change op id before after) (others : forall token, op ≠ .updateRefreshToken id token) :
    after.hashedRefreshToken = before.hashedRefreshToken ∨ after.hashedRefreshToken = none := by
  cases change with
  | same | authorized => exact Or.inl rfl
  | stored token stores => exact absurd stores (others token)
  | deactivated => exact Or.inr rfl

/-- What a table keeps of its users, and what may be new in it. -/
structure Evolves (op : Op) (before after : Users) : Prop where
  keeps : forall {id user}, before.find? id = some user ->
    Exists fun changed => after.find? id = some changed ∧ Change op id user changed
  appears : forall {id changed}, after.find? id = some changed -> before.find? id = none ->
    changed.hashedRefreshToken = none

theorem Evolves.refl (op : Op) (users : Users) : Evolves op users users where
  keeps found := ⟨_, found, .same⟩
  appears found absent := by
    rw [found] at absent
    cases absent

theorem Users.findByGithubId_eq_some {users : Users} {githubId : String} {user : User} :
    users.findByGithubId githubId = some user ↔ user ∈ users.rows ∧ user.githubId = githubId :=
  @Table.find?_eq_some_iff User String User.githubId _ users.byGithubId githubId user

theorem Users.find?_modify {users : Users} {selects : User -> Bool} {change : User -> User}
    {keepsId : forall row, (change row).id = row.id}
    {keepsGithubId : forall row, (change row).githubId = row.githubId} (wanted : UserId) :
    (users.modify selects change keepsId keepsGithubId).find? wanted =
      (users.find? wanted).map fun row => if selects row then change row else row :=
  @Table.find?_updateMany User UserId User.id users.toTable selects change keepsId _ wanted

theorem Users.create_spec {users later : Users} {user : User}
    (created : users.create user = some later) :
    users.find? user.id = none ∧ forall wanted,
      later.find? wanted = if user.id = wanted then some user else users.find? wanted := by
  unfold create at created
  split at created
  · rename_i fresh
    cases created
    refine ⟨Table.find?_eq_none_iff.mpr fun other member same => fresh.1 ?_,
      @Table.find?_insert User UserId User.id users.toTable user fresh.1 _⟩
    exact same ▸ List.mem_map_of_mem member
  · cases created

theorem Users.update_spec {users later : Users} {id : UserId} {change : User -> User}
    {keepsId : forall row, (change row).id = row.id}
    {keepsGithubId : forall row, (change row).githubId = row.githubId} {saved : User}
    (updated : users.update id change keepsId keepsGithubId = some (saved, later)) :
    Exists fun user => users.find? id = some user ∧ saved = change user ∧
      forall wanted, later.find? wanted =
        (users.find? wanted).map fun row => if row.id == id then change row else row := by
  unfold update at updated
  split at updated
  · rename_i user found
    cases updated
    exact ⟨user, found, rfl, Users.find?_modify⟩
  · cases updated

/-- An update of one row evolves the table. -/
theorem Users.update_evolves {users later : Users} {op : Op} {id : UserId} {change : User -> User}
    {keepsId : forall row, (change row).id = row.id}
    {keepsGithubId : forall row, (change row).githubId = row.githubId} {saved : User}
    (updated : users.update id change keepsId keepsGithubId = some (saved, later))
    (changes : forall user, Change op id user (change user)) : Evolves op users later := by
  rcases Users.update_spec updated with ⟨_, _, _, found⟩
  refine ⟨fun {wanted user} there => ?_, fun {wanted changed} there absent => ?_⟩
  · rw [found, there, Option.map_some]
    refine ⟨_, rfl, ?_⟩
    split
    · rename_i same
      have key := (Table.key_of_find? there).symm.trans (beq_iff_eq.mp same)
      exact key ▸ changes user
    · exact .same
  · rw [found, absent] at there
    cases there

/-- An upsert authorizes the user it has found, or creates one without a
refresh token. -/
theorem Users.upsertGithubUser_spec {users later : Users} {details : GithubOAuthDetails}
    {githubToken : String} {generated : UserId} {saved : User}
    (upserted : users.upsertGithubUser details githubToken generated = some (saved, later)) :
    (Exists fun user => users.findByGithubId details.githubId = some user ∧
      saved = user.authorize details githubToken ∧ forall wanted, later.find? wanted =
        (users.find? wanted).map fun row =>
          if row.githubId == details.githubId then row.authorize details githubToken else row) ∨
    (saved.githubId = details.githubId ∧ saved.hashedRefreshToken = none ∧
      users.find? saved.id = none ∧ forall wanted,
        later.find? wanted = if saved.id = wanted then some saved else users.find? wanted) := by
  unfold upsertGithubUser at upserted
  split at upserted
  · rename_i user found
    cases upserted
    exact Or.inl ⟨user, found, rfl, Users.find?_modify⟩
  · rcases Option.map_eq_some_iff.mp upserted with ⟨inserted, done, same⟩
    cases same
    exact Or.inr ⟨rfl, rfl, Users.create_spec done⟩

theorem Users.upsertGithubUser_evolves {users later : Users} {op : Op}
    {details : GithubOAuthDetails} {githubToken : String} {generated : UserId} {saved : User}
    (upserted : users.upsertGithubUser details githubToken generated = some (saved, later)) :
    Evolves op users later := by
  rcases Users.upsertGithubUser_spec upserted with
    ⟨_, _, _, found⟩ | ⟨_, unhashed, fresh, found⟩
  · refine ⟨fun {wanted user} there => ?_, fun {wanted changed} there absent => ?_⟩
    · rw [found, there, Option.map_some]
      refine ⟨_, rfl, ?_⟩
      split
      · exact .authorized details githubToken
      · exact .same
    · rw [found, absent] at there
      cases there
  · refine ⟨fun {wanted user} there => ?_, fun {wanted changed} there absent => ?_⟩
    · rw [found, if_neg]
      · exact ⟨user, there, .same⟩
      · intro taken
        rw [taken, there] at fresh
        cases fresh
    · rw [found] at there
      split at there
      · cases there
        exact unhashed
      · rw [absent] at there
        cases there

theorem Op.effect_evolves {op : Op} {users later : Users} {supply : Supply} {reply : op.Reply}
    (took : op.effect users supply = some (reply, later)) : Evolves op users later := by
  cases op with
  | upsertGithubUser details githubToken => exact Users.upsertGithubUser_evolves took
  | updateGithubUser id details githubToken =>
      exact Users.update_evolves took fun user => .authorized details githubToken
  | updateRefreshToken id refreshToken =>
      rcases Option.map_eq_some_iff.mp took with ⟨⟨saved, updated⟩, done, same⟩
      cases same
      exact Users.update_evolves done fun user => .stored refreshToken rfl
  | deactivate id =>
      rcases Option.map_eq_some_iff.mp took with ⟨⟨saved, updated⟩, done, same⟩
      cases same
      exact Users.update_evolves done fun user => .deactivated rfl
  | _ => cases took

/-- The write takes effect. -/
def World.commits (op : Op) (choice : Choice) (world : World) : Bool :=
  choice.commits fun supply => (op.effect world.users supply).map fun done =>
    (done.1, { world with users := done.2 })

/-- A write takes effect, or it leaves the world as it is and does not
reply. -/
theorem World.write_spec {op : Op} {choice : Choice} {world later : World}
    {outcome : Except AuthError op.Reply} (wrote : world.write op choice = (outcome, later)) :
    (world.commits op choice = true ∧ Exists fun supply => Exists fun reply =>
      op.effect world.users supply = some (reply, later.users) ∧
        forall replied, outcome = .ok replied -> replied = reply) ∨
    (world.commits op choice = false ∧ later = world ∧ forall replied, outcome ≠ .ok replied) := by
  rcases Resolution.write_spec wrote with ⟨commits, supply, done, took, same, replied⟩ | refused
  · rcases Option.map_eq_some_iff.mp took with ⟨effect, happened, replaced⟩
    cases replaced
    subst same
    exact Or.inl ⟨commits, supply, effect.1, happened, replied⟩
  · exact Or.inr refused

theorem World.write_evolves {op : Op} {choice : Choice} {world later : World}
    {outcome : Except AuthError op.Reply} (wrote : world.write op choice = (outcome, later)) :
    Evolves op world.users later.users := by
  rcases World.write_spec wrote with ⟨_, supply, reply, took, _⟩ | ⟨_, same, _⟩
  · exact Op.effect_evolves took
  · exact same ▸ Evolves.refl op world.users

/-- Every operation evolves the table of users. -/
theorem World.exec_evolves {op : Op} {choice : Choice} {world later : World}
    {outcome : Except AuthError op.Reply} (executed : world.exec op choice = some (outcome, later)) :
    Evolves op world.users later.users := by
  cases op with
  | upsertGithubUser | updateGithubUser | updateRefreshToken | deactivate =>
      exact World.write_evolves (Option.some.inj executed)
  | _ =>
      cases executed
      exact Evolves.refl _ world.users

/-! ## What a request does -/

def Entry.bearer : Entry -> Option Bearer
  | .githubCallback .. => none
  | .refresh bearer | .deactivate bearer | .guarded bearer => some bearer

/-- The strategy `jwt` has seen the account active. -/
def Authenticated (past : History Services) (id : UserId) : Prop :=
  Exists fun user => (⟨.findAuthenticatedUser id, .ok (some user)⟩ : Event Services) ∈ past ∧
    user.status ≠ .DEACTIVATED

/-- The refresh token was signed for the user. -/
def Signed (past : History Services) (id : UserId) (refreshToken : Token) : Prop :=
  Exists fun username =>
    (⟨.sign (sessionBody id username) REFRESH_TOKEN_LIFETIME, .ok refreshToken⟩ : Event Services) ∈
      past

/-- No refresh token has been stored, or tried to be. -/
def Unstored (past : History Services) : Prop :=
  forall id refreshToken outcome,
    (⟨.updateRefreshToken id refreshToken, outcome⟩ : Event Services) ∉ past

def Stored (past : History Services) : Prop :=
  Exists fun id => Exists fun refreshToken =>
    (⟨.updateRefreshToken id refreshToken, .ok ()⟩ : Event Services) ∈ past

/-- The presented token has matched the hash of an active account. -/
def Matched (past : History Services) (bearer : Bearer) (id : UserId) : Prop :=
  Exists fun user => Exists fun hash =>
    (⟨.findUser id, .ok (some user)⟩ : Event Services) ∈ past ∧ user.status ≠ .DEACTIVATED ∧
      user.hashedRefreshToken = some hash ∧
      (⟨.compare bearer hash, .ok true⟩ : Event Services) ∈ past

/-- The account was found active by its id, and has the GitHub id. -/
def Reauthorized (past : History Services) (githubId : String) (id : UserId) : Prop :=
  Exists fun user => (⟨.findGithubUser id, .ok (some user)⟩ : Event Services) ∈ past ∧
    user.status ≠ .DEACTIVATED ∧ user.githubId = githubId

/-- No deactivated account was found by the GitHub id, and the account with
it was written. -/
def Validated (past : History Services) (githubId : String) (id : UserId) : Prop :=
  Exists fun found => Exists fun details => Exists fun githubToken => Exists fun user =>
    (⟨.findUserByGithubId githubId, .ok found⟩ : Event Services) ∈ past ∧
      checkExistingUser found = .ok () ∧ details.githubId = githubId ∧ user.id = id ∧
      (⟨.upsertGithubUser details githubToken, .ok user⟩ : Event Services) ∈ past

/-- The checks after which a request may store a refresh token. -/
def Admits (entry : Entry) (past : History Services) (id : UserId) : Prop :=
  match entry with
  | .refresh bearer => id = bearer.token.claims.sub ∧ Matched past bearer id
  | .githubCallback details _ =>
      Reauthorized past details.githubId id ∨ Validated past details.githubId id
  | .deactivate _ | .guarded _ => False

/-- What a request may do next. -/
def Op.Permitted (entry : Entry) (past : History Services) : Op -> Prop
  | .updateRefreshToken id refreshToken =>
      Admits entry past id ∧ Signed past id refreshToken ∧ Unstored past
  | .compare presented _ => entry = .refresh presented
  | .answer (.ok _) =>
      (forall bearer, entry.bearer = some bearer -> Authenticated past bearer.token.claims.sub) ∧
        forall bearer, entry = .refresh bearer -> Stored past
  | _ => True

/-- What the operations reply. -/
def Op.Credible : (op : Op) -> Except AuthError op.Reply -> Prop
  | .verify token, outcome => forall payload, outcome = .ok payload -> payload = token.claims
  | .sign body expiresIn, outcome => forall token, outcome = .ok token ->
      Exists fun now => Exists fun signature => token = Auth.sign body expiresIn now signature
  | .findAuthenticatedUser id, outcome | .findUser id, outcome | .findGithubUser id, outcome =>
      forall user, outcome = .ok (some user) -> user.id = id
  | .upsertGithubUser details _, outcome =>
      forall user, outcome = .ok user -> user.githubId = details.githubId
  | .updateGithubUser id .., outcome => forall user, outcome = .ok user -> user.id = id
  | .compare presented hash, outcome =>
      forall matched, outcome = .ok matched -> matched = hash.compare presented.toBytes
  | _, _ => True

def requestDiscipline (entry : Entry) : Discipline Services where
  Permits := Op.Permitted entry
  Credible := Op.Credible

theorem World.exec_credible {op : Op} {choice : Choice} {world later : World}
    {outcome : Except AuthError op.Reply} (executed : world.exec op choice = some (outcome, later)) :
    op.Credible outcome := by
  cases op with
  | verify token =>
      intro payload same
      subst same
      simp only [World.exec, Option.some.injEq, Prod.mk.injEq] at executed
      cases verified : token.verify world.seconds with
      | none => rw [verified] at executed; cases executed.1
      | some claims =>
          rw [verified] at executed
          cases executed.1
          unfold Token.verify at verified
          split at verified
          · exact (Option.some.inj verified).symm
          · cases verified
  | sign body expiresIn =>
      intro token same
      subst same
      rcases Resolution.read_ok (Prod.mk.inj (Option.some.inj executed)).1 with ⟨supply, made⟩
      exact ⟨_, _, made⟩
  | findAuthenticatedUser id | findUser id | findGithubUser id =>
      intro user same
      subst same
      rcases Resolution.read_ok (Prod.mk.inj (Option.some.inj executed)).1 with ⟨_, found⟩
      exact Table.key_of_find? found.symm
  | compare presented hash =>
      intro matched same
      subst same
      rcases Resolution.read_ok (Prod.mk.inj (Option.some.inj executed)).1 with ⟨_, compared⟩
      exact compared
  | upsertGithubUser details githubToken =>
      intro user same
      subst same
      rcases World.write_spec (Option.some.inj executed) with
        ⟨_, supply, reply, took, replied⟩ | ⟨_, _, failed⟩
      · rw [replied user rfl]
        rcases Users.upsertGithubUser_spec took with ⟨row, found, rfl, _⟩ | ⟨named, _⟩
        · exact (Users.findByGithubId_eq_some.mp found).2
        · exact named
      · exact absurd rfl (failed user)
  | updateGithubUser id details githubToken =>
      intro user same
      subst same
      rcases World.write_spec (Option.some.inj executed) with
        ⟨_, supply, reply, took, replied⟩ | ⟨_, _, failed⟩
      · rw [replied user rfl]
        rcases Users.update_spec took with ⟨row, found, rfl, _⟩
        exact show row.id = id from Table.key_of_find? found
      · exact absurd rfl (failed user)
  | _ => trivial

section Requests

variable {entry : Entry} {past : History Services}

abbrev Serves (entry : Entry) {α : Type} (ends : Services.Post α) (past : History Services)
    (program : Service α) : Prop :=
  Program.Obeys (requestDiscipline entry) ends past program

theorem serves_perform {op : Op} (permitted : op.Permitted entry past) :
    Serves entry (fun later ending => later = past ++ [⟨op, ending⟩] ∧ op.Credible ending) past
      (perform op) :=
  Program.obeys_perform permitted

theorem serves_ofExcept {α : Type} (checked : Except AuthError α) :
    Serves entry (fun later ending => later = past ∧ ending = checked) past (ofExcept checked) := by
  cases checked with
  | ok value => exact ⟨rfl, rfl⟩
  | error error => exact ⟨rfl, rfl⟩

theorem Unstored.nil : Unstored [] := fun _ _ _ member => absurd member List.not_mem_nil

theorem Unstored.append {op : Op} {outcome : Except AuthError op.Reply} (unstored : Unstored past)
    (other : forall id refreshToken, op ≠ .updateRefreshToken id refreshToken) :
    Unstored (past ++ [⟨op, outcome⟩]) := by
  intro id refreshToken ending member
  rcases List.mem_append.mp member with before | now
  · exact unstored id refreshToken ending before
  · cases List.mem_singleton.mp now
    exact other id refreshToken rfl

/-- What has been seen stays seen. -/
theorem Admits.mono {later : History Services} {id : UserId} (admits : Admits entry past id)
    (extended : past <+: later) : Admits entry later id := by
  have seen : forall {event : Event Services}, event ∈ past -> event ∈ later :=
    fun member => extended.subset member
  cases entry with
  | refresh bearer =>
      rcases admits with ⟨same, user, hash, found, active, hashed, matched⟩
      exact ⟨same, user, hash, seen found, active, hashed, seen matched⟩
  | githubCallback details state =>
      rcases admits with ⟨user, found, active, named⟩ |
        ⟨found, given, githubToken, user, asked, checked, named, same, written⟩
      · exact Or.inl ⟨user, seen found, active, named⟩
      · exact Or.inr ⟨found, given, githubToken, user, seen asked, checked, named, same, seen written⟩
  | deactivate | guarded => exact admits

/-- How `login` and what ends with it end. -/
def StoredEnding (later : History Services) (ending : Except AuthError Response) : Prop :=
  forall response, ending = .ok response -> Stored later

theorem login_serves (user : User) (admits : Admits entry past user.id)
    (unstored : Unstored past) : Serves entry StoredEnding past (login user) := by
  have signs : Serves entry (fun later ending => forall tokens, ending = .ok tokens ->
      Unstored later ∧ Signed later user.id tokens.2) past (getTokens user.id user.username) := by
    refine Program.Obeys.bind (serves_perform trivial) (fun first access _ one => ?_)
      (fun _ _ _ _ tokens same => by cases same)
    refine Program.Obeys.bind (serves_perform trivial) (fun second refresh _ other => ?_)
      (fun _ _ _ _ tokens same => by cases same)
    intro tokens same
    cases same
    rw [other.1, one.1]
    refine ⟨(unstored.append fun _ _ same => (by cases same)).append
      fun _ _ same => (by cases same), user.username, ?_⟩
    exact List.mem_append_right _ List.mem_cons_self
  refine signs.bind (fun later tokens extended signed => ?_) (fun _ _ _ _ response same => ?_)
  · rcases signed tokens rfl with ⟨still, made⟩
    refine Program.Obeys.bind (serves_perform ⟨admits.mono extended, made, still⟩)
      (fun final stored _ performed => ?_) (fun _ _ _ _ response same => by cases same)
    intro response _
    refine ⟨user.id, tokens.2, ?_⟩
    rw [performed.1]
    exact List.mem_append_right _ List.mem_cons_self
  · cases same

theorem validate_ok {found : Option User} {user : User} (passed : validate found = .ok user) :
    found = some user ∧ user.status ≠ .DEACTIVATED := by
  unfold validate at passed
  split at passed
  · cases passed
  · split at passed
    · cases passed
    · rename_i active
      cases passed
      exact ⟨rfl, active⟩

/-- After the strategy the account of the subject has been seen active. -/
theorem authenticate_serves (token : Token) (unstored : Unstored past) :
    Serves entry (fun later ending => Unstored later ∧ forall user, ending = .ok user ->
      Authenticated later token.claims.sub ∧ user.id = token.claims.sub) past
      (authenticate token) := by
  refine Program.Obeys.bind (Program.Obeys.attempt (serves_perform trivial))
    (fun later verified _ performed => ?_) (fun later error _ performed => ?_)
  · rcases performed with ⟨outcome, same, history, credible⟩
    have still : Unstored later := history ▸ unstored.append fun _ _ same => (by cases same)
    cases same
    cases verified with
    | error error => exact ⟨still, fun user same => by cases same⟩
    | ok payload =>
        have claims : payload = token.claims := credible payload rfl
        refine Program.Obeys.bind (serves_perform trivial) (fun after found _ asked => ?_)
          (fun after error _ asked => ⟨?_, fun user same => by cases same⟩)
        · refine (serves_ofExcept _).mono fun final ending _ checked => ?_
          rcases checked with ⟨rfl, same⟩
          have kept : Unstored final := asked.1 ▸ still.append fun _ _ same => (by cases same)
          refine ⟨kept, fun user ended => ?_⟩
          rcases validate_ok (same.symm.trans ended) with ⟨there, active⟩
          subst there
          rw [← claims]
          refine ⟨⟨user, ?_, active⟩, asked.2 user rfl⟩
          rw [asked.1]
          exact List.mem_append_right _ List.mem_cons_self
        · exact asked.1 ▸ still.append fun _ _ same => (by cases same)
  · rcases performed with ⟨outcome, same, _⟩
    cases same

theorem checkRefresh_ok {found : Option User} {user : User} {hash : BcryptHash}
    (passed : checkRefresh found = .ok (user, hash)) :
    found = some user ∧ user.hashedRefreshToken = some hash ∧ user.status ≠ .DEACTIVATED := by
  unfold checkRefresh at passed
  split at passed
  · cases passed
  · split at passed
    · cases passed
    · rename_i hashed
      split at passed
      · cases passed
      · rename_i active
        cases passed
        exact ⟨rfl, hashed, active⟩

theorem Authenticated.mono {later : History Services} {id : UserId}
    (authenticated : Authenticated past id) (extended : past <+: later) : Authenticated later id :=
  authenticated.imp fun _ seen => ⟨extended.subset seen.1, seen.2⟩

/-- How a request ends: it succeeds only after what its answer requires. -/
def RequestEnding (entry : Entry) (later : History Services)
    (ending : Except AuthError Response) : Prop :=
  forall response, ending = .ok response -> Op.Permitted entry later (.answer (.ok response))

theorem refreshTokens_serves (bearer : Bearer) (unstored : Unstored past) :
    Serves (.refresh bearer) StoredEnding past (refreshTokens bearer.token.claims.sub bearer) := by
  refine Program.Obeys.bind (serves_perform trivial) (fun first found _ asked => ?_)
    (fun _ _ _ _ response same => by cases same)
  refine Program.Obeys.bind (serves_ofExcept _) (fun second checked _ passed => ?_)
    (fun _ _ _ _ response same => by cases same)
  rcases checkRefresh_ok passed.2.symm with ⟨there, hashed, active⟩
  subst there
  refine Program.Obeys.bind (serves_perform rfl) (fun third matched extended compared => ?_)
    (fun _ _ _ _ response same => by cases same)
  cases matched with
  | false => exact fun response same => by cases same
  | true =>
      have named : checked.1.id = bearer.token.claims.sub := asked.2 checked.1 rfl
      have still : Unstored second :=
        passed.1 ▸ asked.1 ▸ unstored.append fun _ _ same => (by cases same)
      refine login_serves checked.1 ⟨named, checked.1, checked.2, ?_, active, hashed, ?_⟩ ?_
      · refine extended.subset ?_
        rw [passed.1, asked.1, named]
        exact List.mem_append_right _ List.mem_cons_self
      · rw [compared.1]
        exact List.mem_append_right _ List.mem_cons_self
      · exact compared.1 ▸ still.append fun _ _ same => (by cases same)

theorem refresh_serves (bearer : Bearer) :
    Serves (.refresh bearer) (RequestEnding (.refresh bearer)) [] (AuthController.refresh bearer) := by
  refine Program.Obeys.bind (authenticate_serves bearer.token Unstored.nil)
    (fun later user _ authenticated => ?_) (fun _ _ _ _ response same => by cases same)
  rcases authenticated.2 user rfl with ⟨seen, same⟩
  rw [same]
  refine (refreshTokens_serves bearer authenticated.1).mono fun final ending extended stored => ?_
  intro response ended
  refine ⟨fun other presents => ?_, fun _ _ => stored response ended⟩
  cases presents
  exact seen.mono extended

theorem deactivate_serves (bearer : Bearer) :
    Serves (.deactivate bearer) (RequestEnding (.deactivate bearer)) []
      (UserController.deactivate bearer) := by
  refine Program.Obeys.bind (authenticate_serves bearer.token Unstored.nil)
    (fun later user _ authenticated => ?_) (fun _ _ _ _ response same => by cases same)
  rcases authenticated.2 user rfl with ⟨seen, _⟩
  have ends : forall {final : History Services} {response : Response}, later <+: final ->
      Op.Permitted (.deactivate bearer) final (.answer (.ok response)) := by
    intro final response extended
    refine ⟨fun other presents => ?_, fun other same => by cases same⟩
    cases presents
    exact seen.mono extended
  refine Program.Obeys.bind (serves_perform trivial) (fun after found reached asked => ?_)
    (fun _ _ _ _ response same => by cases same)
  cases found with
  | none => exact fun response same => by cases same
  | some id =>
      refine Program.Obeys.bind (serves_perform trivial) (fun final status extended _ => ?_)
        (fun _ _ _ _ response same => by cases same)
      exact fun response _ => ends (reached.trans extended)

theorem guardedRequest_serves (bearer : Bearer) :
    Serves (.guarded bearer) (RequestEnding (.guarded bearer)) [] (guardedRequest bearer) := by
  refine Program.Obeys.bind (authenticate_serves bearer.token Unstored.nil)
    (fun later user _ authenticated => ?_) (fun _ _ _ _ response same => by cases same)
  intro response _
  refine ⟨fun other presents => ?_, fun other same => by cases same⟩
  cases presents
  exact (authenticated.2 user rfl).1

theorem validateUser_serves (details : GithubOAuthDetails) (state : StateParameter)
    (unstored : Unstored past) :
    Serves (.githubCallback details state) (fun later ending => forall user, ending = .ok user ->
      Unstored later ∧ Admits (.githubCallback details state) later user.id) past
      (validateUser details) := by
  refine Program.Obeys.bind (serves_perform trivial) (fun first found _ asked => ?_)
    (fun _ _ _ _ user same => by cases same)
  refine Program.Obeys.bind (serves_ofExcept _) (fun second passed _ checked => ?_)
    (fun _ _ _ _ user same => by cases same)
  refine Program.Obeys.bind (serves_perform trivial) (fun third encryptedToken _ encrypted => ?_)
    (fun _ _ _ _ user same => by cases same)
  refine (@serves_perform _ _ (.upsertGithubUser details encryptedToken) trivial).mono fun final ending _ written => ?_
  intro user ended
  subst ended
  rw [written.1, encrypted.1, checked.1, asked.1]
  refine ⟨((unstored.append fun _ _ same => (by cases same)).append fun _ _ same =>
    (by cases same)).append fun _ _ same => (by cases same), Or.inr ?_⟩
  refine ⟨found, details, encryptedToken, user, ?_, checked.2.symm, rfl, rfl, ?_⟩
  · exact List.mem_append_left _ (List.mem_append_left _ (List.mem_append_right _
      List.mem_cons_self))
  · exact List.mem_append_right _ List.mem_cons_self

theorem checkReauthorized_ok {found : Option User} {details : GithubOAuthDetails}
    (passed : checkReauthorized found details = .ok ()) :
    Exists fun user => found = some user ∧ user.status ≠ .DEACTIVATED ∧
      user.githubId = details.githubId := by
  unfold checkReauthorized at passed
  split at passed
  · cases passed
  · split at passed
    · cases passed
    · rename_i user active
      split at passed
      · cases passed
      · rename_i named
        exact ⟨user, rfl, active, not_not.mp named⟩

theorem reauthorizeGithubUser_serves (userId : UserId) (details : GithubOAuthDetails)
    (state : StateParameter) (unstored : Unstored past) :
    Serves (.githubCallback details state) (fun later ending => forall user, ending = .ok user ->
      Unstored later ∧ Admits (.githubCallback details state) later user.id) past
      (reauthorizeGithubUser userId details) := by
  refine Program.Obeys.bind (serves_perform trivial) (fun first found _ asked => ?_)
    (fun _ _ _ _ user same => by cases same)
  refine Program.Obeys.bind (serves_ofExcept _) (fun second passed _ checked => ?_)
    (fun _ _ _ _ user same => by cases same)
  refine Program.Obeys.bind (serves_perform trivial) (fun third encryptedToken _ encrypted => ?_)
    (fun _ _ _ _ user same => by cases same)
  refine (@serves_perform _ _ (.updateGithubUser userId details encryptedToken) trivial).mono
    fun final ending _ written => ?_
  intro user ended
  subst ended
  have named : user.id = userId := written.2 user rfl
  rcases checkReauthorized_ok checked.2.symm with ⟨seen, rfl, active, owned⟩
  rw [written.1, encrypted.1, checked.1, asked.1, named]
  refine ⟨((unstored.append fun _ _ same => (by cases same)).append fun _ _ same =>
    (by cases same)).append fun _ _ same => (by cases same), Or.inl ⟨seen, ?_, active, owned⟩⟩
  exact List.mem_append_left _ (List.mem_append_left _ (List.mem_append_right _
    List.mem_cons_self))

theorem verifyGithubOAuthState_serves (state : Token) (unstored : Unstored past) :
    Serves entry (fun later _ => Unstored later) past (verifyGithubOAuthState state) := by
  refine Program.Obeys.bind (Program.Obeys.attempt (serves_perform trivial))
    (fun later verified _ performed => ?_) (fun later error _ performed => ?_)
  · rcases performed with ⟨outcome, same, history, _⟩
    have still : Unstored later := history ▸ unstored.append fun _ _ same => (by cases same)
    cases verified with
    | error error => exact still
    | ok payload =>
        exact (serves_ofExcept _).mono fun final ending _ checked => checked.1 ▸ still
  · rcases performed with ⟨outcome, same, _⟩
    cases same

theorem completeGithubOAuth_serves (details : GithubOAuthDetails) (state : StateParameter) :
    Serves (.githubCallback details state) (fun later ending => forall user, ending = .ok user ->
      Unstored later ∧ Admits (.githubCallback details state) later user.id) []
      (completeGithubOAuth details state) := by
  cases state with
  | absent => exact validateUser_serves details .absent Unstored.nil
  | list => exact fun user same => by cases same
  | string state =>
      refine Program.Obeys.bind (verifyGithubOAuthState_serves state Unstored.nil)
        (fun later userId _ verified => ?_) (fun _ _ _ _ user same => by cases same)
      exact reauthorizeGithubUser_serves userId details (.string state) verified

theorem githubAuthRedirect_serves (details : GithubOAuthDetails) (state : StateParameter) :
    Serves (.githubCallback details state) (RequestEnding (.githubCallback details state)) []
      (AuthController.githubAuthRedirect details state) := by
  refine (completeGithubOAuth_serves details state).bind (fun later user _ admitted => ?_)
    (fun _ _ _ _ response same => by cases same)
  rcases admitted user rfl with ⟨unstored, admits⟩
  refine (login_serves user admits unstored).mono fun final ending _ _ => ?_
  intro response _
  exact ⟨fun bearer presents => (by cases presents), fun bearer same => by cases same⟩

theorem respond_serves {body : Service Response}
    (serves : Serves entry (RequestEnding entry) past body) :
    Serves entry (fun _ _ => True) past (respond body) := by
  refine Program.Obeys.bind (Program.Obeys.attempt serves) (fun later result _ ended => ?_)
    (fun _ _ _ _ => trivial)
  rcases ended with ⟨ending, same, reached⟩
  cases same
  refine (serves_perform ?_).mono fun _ _ _ _ => trivial
  cases result with
  | ok response => exact reached response rfl
  | error error => trivial

/-- Every request keeps its discipline. -/
theorem entry_serves (entry : Entry) : Serves entry (fun _ _ => True) [] entry.program := by
  cases entry with
  | githubCallback details state => exact respond_serves (githubAuthRedirect_serves details state)
  | refresh bearer => exact respond_serves (refresh_serves bearer)
  | deactivate bearer => exact respond_serves (deactivate_serves bearer)
  | guarded bearer => exact respond_serves (guardedRequest_serves bearer)

theorem requests_credible (entry : Entry) (op : Op) (choice : Choice) (world : World)
    (outcome : Except AuthError op.Reply) (later : World)
    (executed : sessions.exec op choice world = some (outcome, later)) :
    (requestDiscipline entry).Credible op outcome :=
  World.exec_credible executed

end Requests

end GitMate.Auth
