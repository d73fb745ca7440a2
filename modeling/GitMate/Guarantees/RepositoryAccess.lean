import GitMate.GithubApp.Access

namespace GitMate.GithubApp.Access

open Relational Interleaving Machine Collection

/-!
# Links follow GitHub, and access follows the links

While nobody else writes to the database and GitHub reports the same lists, a
synchronisation that completes leaves the user with exactly the links to the
installations on the user's account and on those of the user's organizations.

An operation for a repository is run with a token that was issued for an
installation that was linked to the user and active when it was looked up, and
that has listed the repository.  It is run a second time only after the first
one was unauthorized, with a token that was issued in between.
-/

/-! ## What a synchronisation promises -/

/-- The installation is on the account of the user or, by its login, on that of
an organization of the user. -/
def Accessible (cases : CaseMapping) (github : Github) (user : GithubUser)
    (installation : GithubInstallationPayload) : Prop :=
  Exists fun account => installation.account = some account ∧
    ((account.type = "User" ∧ toString account.id = user.githubId) ∨
      (account.type ≠ "User" ∧ Exists fun githubToken => user.githubToken = some githubToken ∧
        Exists fun organization => organization ∈ github.organizations githubToken ∧
          cases.loginToLowerCase organization.login = cases.loginToLowerCase account.login))

/-- The user has a link to the installation with an id. -/
def Store.Linked (store : Store) (userId : UserId) (installationId : Nat) : Prop :=
  Exists fun link => link ∈ store.links ∧ link.key = (userId, installationId)

/-- The links of the user are those to the accessible installations, which are
all stored; the links of others are what they were. -/
structure Synchronised (cases : CaseMapping) (github : Github) (before after : Store)
    (userId : UserId) (user : GithubUser) : Prop where
  found : before.users.find? userId = some user
  stored : forall installation, installation ∈ github.installations ->
    Accessible cases github user installation ->
    (after.installations.find? (toString installation.id)).isSome = true
  exact_ : forall installationId, after.Linked userId installationId ↔
    Exists fun row => row ∈ after.installations ∧ row.id = installationId ∧
      Exists fun installation => installation ∈ github.installations ∧
        Accessible cases github user installation ∧
        row.githubInstallationId = toString installation.id
  others : forall link : UserGithubInstallation, link.userId ≠ userId ->
    (link ∈ after.links ↔ link ∈ before.links)

/-! ## The operations on the store -/

theorem Store.linked_iff {store : Store} {userId : UserId} {installationId : Nat} :
    store.Linked userId installationId ↔
      (store.links.find? (userId, installationId)).isSome = true := by
  rw [Option.isSome_iff_exists]
  exact exists_congr fun link => Table.find?_eq_some_iff.symm

/-- What an upsert of an installation leaves alone, and what it returns. -/
structure Stored (before after : Store) (githubInstallationId : String) (savedId : Nat) :
    Prop where
  users : after.users = before.users
  links : after.links = before.links
  saved : Exists fun row => after.installations.find? githubInstallationId = some row ∧
    row.id = savedId
  kept : forall other row, before.installations.find? other = some row ->
    Exists fun later => after.installations.find? other = some later ∧ later.id = row.id
  old : forall other row, other ≠ githubInstallationId ->
    after.installations.find? other = some row -> before.installations.find? other = some row

theorem Store.stored_of_upsert {before after : Store} {githubInstallationId : String}
    {data : InstallationData} {generated savedId : Nat}
    (upserted : before.upsertInstallation githubInstallationId data generated =
      some (savedId, after)) : Stored before after githubInstallationId savedId := by
  unfold Store.upsertInstallation at upserted
  simp only at upserted
  split at upserted
  · rename_i identified
    rcases Option.map_eq_some_iff.1 upserted with ⟨row, found, same⟩
    cases same
    have elsewhere : forall other, other ≠ githubInstallationId ->
        (before.installations.upsertData githubInstallationId data generated).find? other =
          before.installations.find? other :=
      fun other different => Table.find?_upsert_ne different
    refine ⟨rfl, rfl, ⟨row, found, rfl⟩, fun other old there => ?_, fun other old different there =>
      (elsewhere other different).symm.trans there⟩
    by_cases here : other = githubInstallationId
    · subst here
      have self : (before.installations.upsertData other data generated).find? other =
          some (((before.installations.find? other).map fun row =>
            { row with toInstallationData := data }).getD ⟨data, generated, other⟩) :=
        Table.find?_upsert_self
      rw [there] at self
      exact ⟨_, self, rfl⟩
    · exact ⟨old, (elsewhere other here).trans there, rfl⟩
  · cases upserted

/-- What an upsert of a link leaves alone. -/
structure LinkedTo (before after : Store) (userId : UserId) (installationId : Nat) : Prop where
  users : after.users = before.users
  installations : after.installations = before.installations
  linked : after.Linked userId installationId
  kept : forall other, before.Linked userId other -> after.Linked userId other
  others : forall link : UserGithubInstallation, link.userId ≠ userId ->
    (link ∈ after.links ↔ link ∈ before.links)

theorem Store.linkedTo_of_upsert {before after : Store} {userId : UserId} {installationId : Nat}
    {updated created : Instant}
    (upserted : before.upsertLink userId installationId updated created = some after) :
    LinkedTo before after userId installationId := by
  unfold Store.upsertLink at upserted
  split at upserted
  · cases upserted
    have self := @Table.find?_upsert_self _ _ UserGithubInstallation.key _ before.links
      ⟨userId, installationId, .AUTO_DISCOVERY, created⟩
      (fun link => { link with membershipVerifiedAt := updated }) (fun _ => rfl)
    have linked := Option.isSome_iff_exists.2 ⟨_, self⟩
    refine ⟨rfl, rfl, Store.linked_iff.2 linked, fun other there => Store.linked_iff.2 ?_,
      fun link different => ?_⟩
    · by_cases same : other = installationId
      · exact same ▸ linked
      · have elsewhere : (userId, other) ≠ UserGithubInstallation.key
            ⟨userId, installationId, .AUTO_DISCOVERY, created⟩ :=
          fun equal => same (Prod.ext_iff.1 equal).2
        exact (congrArg Option.isSome (Table.find?_upsert_ne elsewhere)).trans
          (Store.linked_iff.1 there)
    · have elsewhere : link.key ≠ UserGithubInstallation.key
          ⟨userId, installationId, .AUTO_DISCOVERY, created⟩ :=
        fun equal => different (Prod.ext_iff.1 equal).1
      have lookUp : forall table : Table UserGithubInstallation.key,
          link ∈ table ↔ table.find? link.key = some link :=
        fun table => ⟨fun member => Table.find?_eq_some_iff.2 ⟨member, rfl⟩, Table.mem_of_find?⟩
      rw [lookUp, lookUp]
      exact iff_of_eq (congrArg (· = some link) (Table.find?_upsert_ne elsewhere))
  · cases upserted

theorem Store.linked_deleteLinks {store : Store} {userId : UserId} {kept : List Nat}
    {installationId : Nat} : (store.deleteLinks userId kept).Linked userId installationId ↔
      store.Linked userId installationId ∧ installationId ∈ kept := by
  constructor
  · rintro ⟨link, member, key⟩
    rcases Table.mem_deleteMany.1 member with ⟨before, selected⟩
    rcases Prod.ext_iff.1 key with ⟨sameUser, sameInstallation⟩
    simp only [UserGithubInstallation.key] at sameUser sameInstallation
    rw [sameUser, sameInstallation, beq_self_eq_true, Bool.true_and, Bool.not_eq_false',
      List.contains_iff_mem] at selected
    exact ⟨⟨link, before, key⟩, selected⟩
  · rintro ⟨⟨link, member, key⟩, isKept⟩
    refine ⟨link, Table.mem_deleteMany.2 ⟨member, ?_⟩, key⟩
    rcases Prod.ext_iff.1 key with ⟨_, sameInstallation⟩
    simp only [UserGithubInstallation.key] at sameInstallation
    rw [sameInstallation, List.contains_iff_mem.2 isKept, Bool.not_true, Bool.and_false]

theorem Store.others_deleteLinks {store : Store} {userId : UserId} {kept : List Nat}
    {link : UserGithubInstallation} (different : link.userId ≠ userId) :
    link ∈ (store.deleteLinks userId kept).links ↔ link ∈ store.links := by
  refine Table.mem_deleteMany.trans (and_iff_left ?_)
  rw [beq_eq_false_iff_ne.2 different, Bool.false_and]

/-! ## The operations of a synchronisation -/

/-- The part of the world that a synchronisation has to itself. -/
abbrev View : Type := Store × Github

def observe (world : World) : View := (world.store, world.github)

theorem World.read_ok {α : Type} {world later : World} {choice : Choice} {reply : Supply -> α}
    {value : α} (read : world.read choice reply = some (.ok value, later)) :
    later = world ∧ Exists fun supply => value = reply supply := by
  cases choice with
  | succeed supply =>
      cases read
      exact ⟨rfl, supply, rfl⟩
  | lose supply error => cases read
  | fail error => cases read

theorem World.write_ok {α : Type} {world later : World} {choice : Choice}
    {effect : Supply -> Option (α × World)} {value : α}
    (written : world.write choice effect = some (.ok value, later)) :
    Exists fun supply => effect supply = some (value, later) := by
  cases choice with
  | succeed supply =>
      rcases Option.map_eq_some_iff.1 written with ⟨done, found, same⟩
      cases same
      exact ⟨supply, found⟩
  | lose supply error =>
      rcases Option.map_eq_some_iff.1 written with ⟨done, _, same⟩
      cases same
  | fail error => cases written

section Effects

variable {cases : CaseMapping} {view after : View}

/-- An operation of the machine, with what it does to the view. -/
abbrev Does (cases : CaseMapping) (op : Op) (reply : op.Reply) (view after : View) : Prop :=
  (installationAccess cases).effectOn observe op (.ok reply) view after

theorem does_currentDate {now : Instant} (done : Does cases .currentDate now view after) :
    after = view := by
  rcases done with ⟨choice, world, later, executed, rfl, rfl⟩
  cases executed
  rfl

theorem does_findUser {userId : UserId} {found : Option GithubUser}
    (done : Does cases (.findUser userId) found view after) :
    after = view ∧ found = view.1.users.find? userId := by
  rcases done with ⟨choice, world, later, executed, rfl, rfl⟩
  rcases World.read_ok executed with ⟨rfl, _, same⟩
  exact ⟨rfl, same⟩

theorem does_listOrganizations {githubToken : String} {page : Nat} {data : List Organization}
    (done : Does cases (.listOrganizations githubToken page) data view after) :
    after = view ∧ data = pageOf (view.2.organizations githubToken) page := by
  rcases done with ⟨choice, world, later, executed, rfl, rfl⟩
  rcases World.read_ok executed with ⟨rfl, _, same⟩
  exact ⟨rfl, same⟩

theorem does_listInstallations {page : Nat} {data : List GithubInstallationPayload}
    (done : Does cases (.listInstallations page) data view after) :
    after = view ∧ data = pageOf view.2.installations page := by
  rcases done with ⟨choice, world, later, executed, rfl, rfl⟩
  rcases World.read_ok executed with ⟨rfl, _, same⟩
  exact ⟨rfl, same⟩

theorem does_upsertInstallation {githubInstallationId : String} {data : InstallationData}
    {savedId : Nat}
    (done : Does cases (.upsertInstallation githubInstallationId data) savedId view after) :
    after.2 = view.2 ∧ Stored view.1 after.1 githubInstallationId savedId := by
  rcases done with ⟨choice, world, later, executed, rfl, rfl⟩
  rcases World.write_ok executed with ⟨supply, written⟩
  rcases Option.map_eq_some_iff.1 written with ⟨stored, upserted, same⟩
  cases same
  exact ⟨rfl, Store.stored_of_upsert upserted⟩

theorem does_upsertLink {userId : UserId} {installationId : Nat} {updated created : Instant}
    {nothing : Unit}
    (done : Does cases (.upsertLink userId installationId updated created) nothing view after) :
    after.2 = view.2 ∧ LinkedTo view.1 after.1 userId installationId := by
  rcases done with ⟨choice, world, later, executed, rfl, rfl⟩
  rcases World.write_ok executed with ⟨supply, written⟩
  rcases Option.map_eq_some_iff.1 written with ⟨store, upserted, same⟩
  cases same
  exact ⟨rfl, Store.linkedTo_of_upsert upserted⟩

theorem does_deleteLinks {userId : UserId} {kept : List Nat} {nothing : Unit}
    (done : Does cases (.deleteLinks userId kept) nothing view after) :
    after = (view.1.deleteLinks userId kept, view.2) := by
  rcases done with ⟨choice, world, later, executed, rfl, rfl⟩
  rcases World.write_ok executed with ⟨supply, written⟩
  cases written
  rfl

end Effects

/-! ## The pages of a list -/

theorem take_append_pageOf {α : Type} (whole : List α) (count : Nat) :
    whole.take (PER_PAGE * count) ++ pageOf whole (count + 1) =
      whole.take (PER_PAGE * (count + 1)) := by
  rw [pageOf, Nat.add_sub_cancel, Nat.mul_succ, List.take_add]

/-- A page that is not full is the last one. -/
theorem take_of_short {α : Type} {whole : List α} {count : Nat}
    (short : (pageOf whole (count + 1)).length < PER_PAGE) :
    whole.take (PER_PAGE * (count + 1)) = whole := by
  refine List.take_of_length_le ?_
  rw [pageOf, Nat.add_sub_cancel, List.length_take, List.length_drop] at short
  rw [Nat.mul_succ]
  omega

section Pages

variable {cases : CaseMapping} {requires : Op -> View -> Prop} {view : View}

/-- A program that, if it returns, has left the view alone and returns what is
promised. -/
abbrev Returns {α : Type} (cases : CaseMapping) (requires : Op -> View -> Prop)
    (program : Service α) (view : View) (promised : α -> View -> Prop) : Prop :=
  program.Safe ((installationAccess cases).effectOn observe) requires
    (fun ending after => forall value, ending = .ok value -> promised value after) view

/-- The loop returns the whole list. -/
theorem returns_listPages {α : Type} {list : Nat -> Service (List α)} {whole : List α}
    (each : forall page, Returns cases requires (list page) view
      fun data after => after = view ∧ data = pageOf whole page) (fuel count : Nat) :
    Returns cases requires (listPages list fuel (count + 1) (whole.take (PER_PAGE * count))) view
      fun listed after => after = view ∧ listed = whole := by
  induction fuel generalizing count with
  | zero => exact fun value same => nomatch same
  | succ fuel inductionHypothesis =>
      refine (each (count + 1)).bind (fun data after read => ?_)
        (fun fault after _ value same => nomatch same)
      rcases read data rfl with ⟨same, rfl⟩
      subst same
      rw [take_append_pageOf]
      split
      · rename_i short
        intro value same
        cases same
        exact ⟨rfl, take_of_short short⟩
      · exact inductionHypothesis (count + 1)

end Pages

/-! ## The synchronisation -/

theorem isAccessible_iff {cases : CaseMapping} {github : Github} {user : GithubUser}
    {githubToken : String} (token : user.githubToken = some githubToken)
    {installation : GithubInstallationPayload} :
    isAccessible cases user.githubId (github.organizations githubToken) installation = true ↔
      Accessible cases github user installation := by
  unfold isAccessible Accessible
  cases account : installation.account with
  | none =>
      constructor
      · intro yes
        cases yes
      · rintro ⟨_, none, _⟩
        cases none
  | some account =>
      simp only [Option.some.injEq, exists_eq_left', token]
      split
      · rename_i isUser
        simp only [isUser, true_and, ne_eq, not_true_eq_false, false_and, or_false, beq_iff_eq]
      · rename_i isOther
        simp only [isOther, false_and, ne_eq, not_false_eq_true, true_and, false_or,
          List.contains_iff_mem, List.mem_map]

/-- How far the loop over the installations has come. -/
structure Progress (before store : Store) (userId : UserId)
    (accessible : GithubInstallationPayload -> Bool) (done : List GithubInstallationPayload)
    (savedIds : List Nat) : Prop where
  users : store.users = before.users
  stored : forall installation, installation ∈ done -> accessible installation = true ->
    Exists fun row => store.installations.find? (toString installation.id) = some row ∧
      row.id ∈ savedIds
  saved : forall savedId, savedId ∈ savedIds -> store.Linked userId savedId ∧
    Exists fun installation => installation ∈ done ∧ accessible installation = true ∧
      Exists fun row => store.installations.find? (toString installation.id) = some row ∧
        row.id = savedId
  others : forall link : UserGithubInstallation, link.userId ≠ userId ->
    (link ∈ store.links ↔ link ∈ before.links)

section Loop

variable {before store : Store} {userId : UserId} {accessible : GithubInstallationPayload -> Bool}
  {done : List GithubInstallationPayload} {savedIds : List Nat}

/-- An installation that is not accessible is passed over. -/
theorem Progress.skip (progress : Progress before store userId accessible done savedIds)
    {installation : GithubInstallationPayload} (inaccessible : accessible installation = false) :
    Progress before store userId accessible (done ++ [installation]) savedIds where
  users := progress.users
  stored := by
    intro other member isAccessible
    rcases List.mem_append.1 member with earlier | here
    · exact progress.stored other earlier isAccessible
    · cases List.mem_singleton.1 here
      exact absurd isAccessible (inaccessible ▸ Bool.false_ne_true)
  saved := by
    intro savedId member
    rcases progress.saved savedId member with ⟨linked, other, earlier, found⟩
    exact ⟨linked, other, List.mem_append_left _ earlier, found⟩
  others := progress.others

/-- An accessible installation is stored and linked. -/
theorem Progress.link (progress : Progress before store userId accessible done savedIds)
    {installation : GithubInstallationPayload} (isAccessible : accessible installation = true)
    {middle after : Store} {savedId : Nat}
    (stored : Stored store middle (toString installation.id) savedId)
    (linked : LinkedTo middle after userId savedId) :
    Progress before after userId accessible (done ++ [installation]) (savedIds ++ [savedId]) where
  users := linked.users.trans (stored.users.trans progress.users)
  stored := by
    intro other member accessibleOther
    rw [linked.installations]
    rcases List.mem_append.1 member with earlier | here
    · rcases progress.stored other earlier accessibleOther with ⟨row, found, isSaved⟩
      rcases stored.kept _ row found with ⟨later, there, same⟩
      exact ⟨later, there, List.mem_append_left _ (same ▸ isSaved)⟩
    · cases List.mem_singleton.1 here
      rcases stored.saved with ⟨row, found, same⟩
      exact ⟨row, found, List.mem_append_right _ (List.mem_singleton.2 same)⟩
  saved := by
    intro other member
    rw [linked.installations]
    rcases List.mem_append.1 member with earlier | here
    · rcases progress.saved other earlier with
        ⟨isLinked, installation, inDone, accessibleOther, row, found, same⟩
      rcases stored.kept _ row found with ⟨later, there, sameId⟩
      refine ⟨linked.kept other ?_, installation, List.mem_append_left _ inDone, accessibleOther,
        later, there, sameId.trans same⟩
      rcases isLinked with ⟨link, member, key⟩
      exact ⟨link, stored.links.symm ▸ member, key⟩
    · cases List.mem_singleton.1 here
      rcases stored.saved with ⟨row, found, same⟩
      exact ⟨linked.linked, installation, List.mem_append_right _ List.mem_cons_self, isAccessible,
        row, found, same⟩
  others := by
    intro link different
    rw [linked.others link different, stored.links]
    exact progress.others link different

/-- Deleting the other links finishes the synchronisation. -/
theorem Progress.finish {cases : CaseMapping} {github : Github} {user : GithubUser}
    {githubToken : String} (found : before.users.find? userId = some user)
    (token : user.githubToken = some githubToken)
    (progress : Progress before store userId
      (isAccessible cases user.githubId (github.organizations githubToken)) github.installations
      savedIds) :
    Synchronised cases github before (store.deleteLinks userId savedIds) userId user where
  found := found
  stored := by
    intro installation member isAccessible
    rcases progress.stored installation member ((isAccessible_iff token).2 isAccessible) with
      ⟨row, there, _⟩
    exact Option.isSome_iff_exists.2 ⟨row, there⟩
  exact_ := by
    intro installationId
    rw [Store.linked_deleteLinks]
    constructor
    · rintro ⟨_, isSaved⟩
      rcases (progress.saved installationId isSaved).2 with
        ⟨installation, listed, isAccessible, saved, there, same⟩
      exact ⟨saved, Table.mem_of_find? there, same, installation, listed,
        (isAccessible_iff token).1 isAccessible, Table.key_of_find? there⟩
    · rintro ⟨row, member, rfl, installation, listed, isAccessible, same⟩
      rcases progress.stored installation listed ((isAccessible_iff token).2 isAccessible) with
        ⟨saved, there, isSaved⟩
      have here : saved = row :=
        Table.eq_of_key_eq (Table.mem_of_find? there) member
          ((Table.key_of_find? there).trans same.symm)
      subst here
      exact ⟨(progress.saved saved.id isSaved).1, isSaved⟩
  others := by
    intro link different
    rw [Store.others_deleteLinks different]
    exact progress.others link different

end Loop

section Synchronisation

variable {cases : CaseMapping} {requires : Op -> View -> Prop} {userId : UserId}
  (free : forall op view, (forall result, op ≠ .answer result) -> requires op view)

include free

theorem returns_perform {op : Op} (other : forall result, op ≠ .answer result) (view : View) :
    Returns cases requires (perform op) view fun reply after => Does cases op reply view after := by
  refine (Program.safe_perform (free op view other)).mono fun ending after done value same => ?_
  subst same
  exact done

/-- The loop keeps its progress up to the end of the list. -/
theorem returns_linkAccessible {before : Store} {github : Github} {githubId : String}
    {organizations : List Organization} (rest done : List GithubInstallationPayload)
    (savedIds : List Nat) (store : Store)
    (progress : Progress before store userId (isAccessible cases githubId organizations) done
      savedIds) :
    Returns cases requires (linkAccessible cases userId githubId organizations rest savedIds)
      (store, github) fun finalIds after => after.2 = github ∧
        Progress before after.1 userId (isAccessible cases githubId organizations) (done ++ rest)
          finalIds := by
  induction rest generalizing done savedIds store with
  | nil =>
      intro value same
      cases same
      rw [List.append_nil]
      exact ⟨rfl, progress⟩
  | cons installation rest inductionHypothesis =>
      rw [List.append_cons]
      unfold linkAccessible
      split
      · rename_i inaccessible
        exact inductionHypothesis _ savedIds store (progress.skip inaccessible)
      · rename_i accessible
        have accessible := Bool.not_eq_false _ ▸ accessible
        cases read : toInstallationData installation with
        | error error => exact fun value same => nomatch same
        | ok data =>
            refine (returns_perform free (by nofun) _).bind (fun savedId middle done => ?_)
              (fun fault after _ value same => nomatch same)
            rcases middle with ⟨middle, seen⟩
            rcases does_upsertInstallation (done savedId rfl) with ⟨sameGithub, stored⟩
            simp only at sameGithub
            subst sameGithub
            refine (returns_perform free (by nofun) _).bind (fun updated view done => ?_)
              (fun fault after _ value same => nomatch same)
            cases does_currentDate (done updated rfl)
            refine (returns_perform free (by nofun) _).bind (fun created view done => ?_)
              (fun fault after _ value same => nomatch same)
            cases does_currentDate (done created rfl)
            refine (returns_perform free (by nofun) _).bind (fun nothing view done => ?_)
              (fun fault after _ value same => nomatch same)
            rcases view with ⟨later, seen⟩
            rcases does_upsertLink (done nothing rfl) with ⟨sameGithub, linked⟩
            simp only at sameGithub
            subst sameGithub
            exact inductionHypothesis _ _ later (progress.link accessible stored linked)

theorem returns_syncUserInstallations (fuel : Nat) (view : View) :
    Returns cases requires (syncUserInstallations cases fuel userId) view fun _ after =>
      after.2 = view.2 ∧ Exists (Synchronised cases view.2 view.1 after.1 userId) := by
  rcases view with ⟨before, github⟩
  refine (returns_perform free (by nofun) _).bind (fun found middle done => ?_)
    (fun fault after _ value same => nomatch same)
  rcases does_findUser (done found rfl) with ⟨rfl, found⟩
  split
  · exact fun value same => nomatch same
  · rename_i user
    split
    · exact fun value same => nomatch same
    · exact fun value same => nomatch same
    · rename_i githubToken _ token
      refine (@returns_listPages _ _ _ _ _ (github.organizations githubToken) (fun page => ?_)
        fuel 0).bind (fun organizations middle read => ?_)
        (fun fault after _ value same => nomatch same)
      · exact (returns_perform free (by nofun) _).mono fun ending after done data same =>
          does_listOrganizations (done data same)
      · rcases read organizations rfl with ⟨same, rfl⟩
        subst same
        refine (@returns_listPages _ _ _ _ _ github.installations (fun page => ?_) fuel 0).bind
          (fun rawInstallations middle read => ?_) (fun fault after _ value same => nomatch same)
        · exact (returns_perform free (by nofun) _).mono fun ending after done data same =>
            does_listInstallations (done data same)
        · rcases read rawInstallations rfl with ⟨same, rfl⟩
          subst same
          have starts : Progress before before userId
              (isAccessible cases user.githubId (github.organizations githubToken)) [] [] :=
            { users := rfl
              stored := fun _ member => nomatch member
              saved := fun _ member => nomatch member
              others := fun _ _ => Iff.rfl }
          refine (returns_linkAccessible free github.installations [] [] before starts).bind
            (fun savedIds middle linked => ?_) (fun fault after _ value same => nomatch same)
          rcases middle with ⟨store, seen⟩
          rcases linked savedIds rfl with ⟨sameGithub, progress⟩
          simp only at sameGithub
          subst sameGithub
          refine (returns_perform free (by nofun) _).mono fun ending after done value same => ?_
          cases does_deleteLinks (done value same)
          exact ⟨rfl, user, progress.finish found.symm token⟩

end Synchronisation

/-- What may be answered in view of the lists that GitHub reported: a
synchronisation that has completed is exact. -/
def AnswersExactly (cases : CaseMapping) (before : View) (userId : UserId) : Op -> View -> Prop
  | .answer (.ok _), view =>
      view.2 = before.2 ∧ Exists (Synchronised cases before.2 before.1 view.1 userId)
  | _, _ => True

theorem answersExactly_free {cases : CaseMapping} {before : View} {userId : UserId} (op : Op)
    (view : View) (other : forall result, op ≠ .answer result) :
    AnswersExactly cases before userId op view := by
  cases op with
  | answer result => exact absurd rfl (other result)
  | _ => trivial

theorem safe_synchronise (cases : CaseMapping) (fuel : Nat) (userId : UserId) (view : View) :
    (Entry.program cases (.synchronise fuel userId)).Safe
      ((installationAccess cases).effectOn observe) (AnswersExactly cases view userId)
      (fun _ _ => True) view := by
  refine (returns_syncUserInstallations answersExactly_free fuel view).attempt.bind
    (fun tried after synchronised => ?_) (fun _ _ _ => trivial)
  rcases synchronised with ⟨result, same, ended⟩
  cases same
  refine (@Program.safe_perform Services View _ _ _
    (.answer (tried.map fun _ => .synchronised)) ?_).mono fun _ _ _ => trivial
  cases tried with
  | error fault => trivial
  | ok value => exact ended value rfl

/-! ## What a request may do -/

abbrev Past : Type := History Services

/-- The installation was among those that were found linked and active. -/
def FoundActive (past : Past) (userId : UserId) (installationId : String) : Prop :=
  Exists fun links : List String =>
    (⟨.findActiveLinks userId, .ok links⟩ : Event Services) ∈ past ∧ installationId ∈ links

/-- The token was created for the installation. -/
def Created (past : Past) (installationId token : String) : Prop :=
  Exists fun created : CachedInstallationToken =>
    (⟨.createInstallationAccessToken installationId, .ok created⟩ : Event Services) ∈ past ∧
      created.token = token

/-- The token was created for the installation or found in memory under it. -/
def Obtained (past : Past) (installationId token : String) : Prop :=
  Created past installationId token ∨ Exists fun deleted =>
    (⟨.cachedToken deleted installationId, .ok (some token)⟩ : Event Services) ∈ past

/-- The repository was listed with a token of the installation. -/
def Listed (past : Past) (installationId : String) (repositoryId : Nat) : Prop :=
  Exists fun front => Exists fun token => Exists fun page =>
    Exists fun repositories : List Repository => Exists fun back =>
      past = front ++ (⟨.listRepositories token page, .ok repositories⟩ : Event Services) :: back ∧
      Obtained front installationId token ∧
      Exists fun repository => repository ∈ repositories ∧ repository.id = repositoryId

def isOperation : Event Services -> Bool
  | ⟨.operate _, _⟩ => true
  | _ => false

/-- The operations that have been run. -/
def operations (past : Past) : Past := past.filter isOperation

/-- Everything that the second operation follows: a first one that was
unauthorized, and a token created since. -/
def Retried (past : Past) (installationId token : String) : Prop :=
  Exists fun front => Exists fun rejected => Exists fun error => Exists fun middle =>
    past = front ++ (⟨.operate rejected, .error error⟩ : Event Services) :: middle ∧
    isUnauthorized error = true ∧ operations front = [] ∧ operations middle = [] ∧
    Created middle installationId token

/-- An operation may be run with a token of an installation that gives access
to the repository, for the first time or after a rejection. -/
def MayOperate (past : Past) (userId : UserId) (githubRepoId token : String) : Prop :=
  Exists fun installationId => FoundActive past userId installationId ∧
    (Exists fun repositoryId => Listed past installationId repositoryId ∧
      toString repositoryId = githubRepoId) ∧
    Obtained past installationId token ∧
    (operations past = [] ∨ Retried past installationId token)

/-- A token is kept in memory only under the installation that it was created
for, and an operation is run only where it may be.  What was deleted just
before is not found. -/
def operating (may : Past -> String -> Prop) : Discipline Services where
  Permits
    | past, .remember installationId cached =>
        (⟨.createInstallationAccessToken installationId, .ok cached⟩ : Event Services) ∈ past
    | past, .operate token => may past token
    | _, _ => True
  Credible
    | .cachedToken true _, outcome => outcome = .ok none
    | _, _ => True

/-- The discipline of everything that comes before an operation. -/
abbrev listing : Discipline Services := operating fun _ _ => False

theorem listing_lasting : listing.Lasting := by
  intro past later op more permitted
  cases op with
  | remember installationId cached => exact more.mem permitted
  | operate token => exact permitted
  | _ => trivial

theorem listing_free (past : Past) : listing.Permits past .turn := trivial

section Lasting

variable {past later : Past} (more : past.Sublist later)

include more

theorem FoundActive.after_more {userId : UserId} {installationId : String} :
    FoundActive past userId installationId -> FoundActive later userId installationId
  | ⟨links, found, member⟩ => ⟨links, more.mem found, member⟩

theorem Created.after_more {installationId token : String} :
    Created past installationId token -> Created later installationId token
  | ⟨created, happened, same⟩ => ⟨created, more.mem happened, same⟩

theorem Obtained.after_more {installationId token : String} :
    Obtained past installationId token -> Obtained later installationId token
  | .inl created => .inl (created.after_more more)
  | .inr ⟨deleted, found⟩ => .inr ⟨deleted, more.mem found⟩

theorem Listed.after_more {installationId : String} {repositoryId : Nat} :
    Listed past installationId repositoryId -> Listed later installationId repositoryId := by
  rintro ⟨front, token, page, repositories, back, rfl, obtained, found⟩
  rcases List.append_sublist_iff.1 more with ⟨leading, following, rfl, moreFront, rest⟩
  rcases List.cons_sublist_iff.1 rest with ⟨near, far, rfl, member, _⟩
  rcases List.append_of_mem member with ⟨between, remaining, rfl⟩
  refine ⟨leading ++ between, token, page, repositories, remaining ++ far, ?_,
    obtained.after_more (moreFront.trans (List.sublist_append_left _ _)), found⟩
  simp only [List.append_assoc, List.cons_append]

end Lasting

theorem operations_append (past later : Past) :
    operations (past ++ later) = operations past ++ operations later :=
  List.filter_append _ _

/-! ## Getting a token -/

section Requests

variable {cases : CaseMapping} {may : Past -> String -> Prop} {past : Past}

/-- An operation that a discipline does not restrict. -/
def IsFree : Op -> Prop
  | .remember .. | .operate _ => False
  | _ => True

theorem permits_of_isFree {op : Op} (isFree : IsFree op) (past : Past) :
    (operating may).Permits past op := by
  cases op with
  | remember installationId cached => exact absurd isFree id
  | operate token => exact absurd isFree id
  | _ => trivial

theorem obeys_free (op : Op) (isFree : IsFree op) :
    (perform op).Obeys (operating may) (fun later ending =>
      later = past ++ [(⟨op, ending⟩ : Event Services)] ∧ (operating may).Credible op ending) past :=
  Program.obeys_perform (permits_of_isFree isFree past)

/-- What has happened since, without an operation. -/
def Since (past later : Past) (holds : Past -> Prop) : Prop :=
  Exists fun news => later = past ++ news ∧ operations news = [] ∧ holds news

theorem Since.nothing {holds : Past -> Prop} (held : holds []) : Since past past holds :=
  ⟨[], (List.append_nil past).symm, rfl, held⟩

/-- One operation of a request that is not an operation for the caller, and
what follows it. -/
theorem obeys_next {α : Type} {op : Op} {next : op.Reply -> Service α}
    {holds : Past -> Services.Ending α -> Prop} (permitted : (operating may).Permits past op)
    (quiet : forall outcome, isOperation ⟨op, outcome⟩ = false)
    (faults : forall fault news, holds news (.error fault))
    (continues : forall reply, (operating may).Credible op (.ok reply) ->
      (next reply).Obeys (operating may) (fun later ending =>
        Since (past ++ [(⟨op, .ok reply⟩ : Event Services)]) later fun news =>
          holds ((⟨op, .ok reply⟩ : Event Services) :: news) ending)
        (past ++ [(⟨op, .ok reply⟩ : Event Services)])) :
    (perform op >>= next).Obeys (operating may)
      (fun later ending => Since past later fun news => holds news ending) past := by
  have none : forall outcome news, operations ((⟨op, outcome⟩ : Event Services) :: news) =
      operations news :=
    fun outcome news => List.filter_cons_of_neg (Bool.eq_false_iff.1 (quiet outcome))
  refine (Program.obeys_perform permitted).bind (fun later reply _ ended => ?_)
    (fun later fault _ ended => ?_)
  · rcases ended with ⟨rfl, credible⟩
    refine (continues reply credible).mono fun later ending _ since => ?_
    rcases since with ⟨news, rfl, noneSince, held⟩
    exact ⟨_ :: news, by rw [List.append_assoc, List.singleton_append],
      (none _ news).trans noneSince, held⟩
  · exact ⟨_, ended.1, none _ [], faults fault _⟩

/-- How a token is known to be one of an installation: if it was deleted from
memory before, it was created since. -/
def Known (deleted : Bool) (installationId : String) (news : Past) :
    Services.Ending String -> Prop :=
  fun ending => forall token, ending = .ok token ->
    Obtained news installationId token ∧ (deleted = true -> Created news installationId token)

theorem known_of_created {deleted : Bool} {installationId token : String} {news : Past}
    (created : Created news installationId token) :
    Known deleted installationId news (.ok token) := by
  intro other same
  cases same
  exact ⟨.inl created, fun _ => created⟩

theorem obeys_getInstallationToken (deleted : Bool) (installationId : String) :
    (getInstallationToken deleted installationId).Obeys (operating may)
      (fun later ending => Since past later fun news => Known deleted installationId news ending)
      past := by
  refine obeys_next trivial (fun _ => rfl) (fun _ _ _ same => nomatch same) fun cached credible => ?_
  cases cached with
  | some token =>
      refine .nothing fun other same => ?_
      cases same
      refine ⟨.inr ⟨deleted, List.mem_cons_self⟩, fun isDeleted => ?_⟩
      subst isDeleted
      cases credible
  | none =>
      refine obeys_next trivial (fun _ => rfl) (fun _ _ _ same => nomatch same) fun isActive _ => ?_
      cases isActive with
      | false =>
          refine obeys_next trivial (fun _ => rfl) (fun _ _ _ same => nomatch same) fun _ _ => ?_
          exact .nothing fun token same => nomatch same
      | true =>
          refine obeys_next trivial (fun _ => rfl) (fun _ _ _ same => nomatch same)
            fun created _ => ?_
          refine obeys_next (List.mem_append_right _ List.mem_cons_self) (fun _ => rfl)
            (fun _ _ _ same => nomatch same) fun _ _ => ?_
          exact .nothing (known_of_created
            ⟨created, .tail _ (.tail _ List.mem_cons_self), rfl⟩)

/-! ## Listing the repositories -/

open Program (returning)

theorem obeys_throwNormalized {α : Type} {holds : Past -> α -> Prop} (error : Thrown) :
    (throwNormalized cases error : Service α).Obeys (operating may) (returning holds) past := by
  cases error with
  | value error =>
      exact (obeys_free .currentDate trivial).bind (fun later now _ _ value same => nomatch same)
        (fun later fault _ _ value same => nomatch same)
  | outOfFuel => exact fun value same => nomatch same

/-- What either try promises, the operation with its retry promises. -/
theorem obeys_executeWithRetry {α : Type} {holds : Past -> α -> Prop} {installationId : String}
    {operation : String -> Service α}
    (once : forall deleted past, (executeOnce deleted installationId operation).Obeys
      (operating may) (returning holds) past) :
    (executeWithRetry cases installationId operation).Obeys (operating may) (returning holds)
      past := by
  refine (once false past).attempt.bind (fun later tried _ ended => ?_)
    (fun later fault _ _ value same => nomatch same)
  rcases ended with ⟨result, same, held⟩
  cases same
  cases tried with
  | ok value => exact held
  | error error =>
      dsimp only
      split
      · exact obeys_throwNormalized error
      · refine (once true later).attempt.bind (fun later retried _ ended => ?_)
          (fun later fault _ _ value same => nomatch same)
        rcases ended with ⟨result, same, held⟩
        cases same
        cases retried with
        | ok value => exact held
        | error error => exact obeys_throwNormalized error

/-- A repository that carries the installation it was listed by. -/
def ListedByItsOwn (past : Past) (repository : InstallationRepository) : Prop :=
  Listed past repository.installationId repository.id

theorem obeys_listOfInstallation (installationId : String) (page : Nat) :
    (listOfInstallation cases installationId page).Obeys (operating may)
      (returning fun later repositories => forall repository, repository ∈ repositories ->
        repository.installationId = installationId ∧ ListedByItsOwn later repository) past := by
  refine obeys_executeWithRetry fun deleted past => ?_
  refine (obeys_getInstallationToken deleted installationId).bind (fun later token _ known => ?_)
    (fun later fault _ _ value same => nomatch same)
  rcases known with ⟨news, rfl, _, known⟩
  have obtained : Obtained (past ++ news) installationId token :=
    (known token rfl).1.after_more (List.sublist_append_right past news)
  refine (obeys_free (.listRepositories token page) trivial).bind
    (fun later repositories _ ended => ?_)
    (fun later fault _ _ value same => nomatch same)
  rcases ended with ⟨rfl, _⟩
  intro value same repository member
  cases same
  rcases List.mem_map.1 member with ⟨listed, inPage, rfl⟩
  exact ⟨rfl, _, token, page, repositories, [], rfl, obtained, listed, inPage, rfl⟩

/-- What holds of the elements of every page holds of the whole list. -/
theorem obeys_listPages {α : Type} {list : Nat -> Service (List α)} {good : Past -> α -> Prop}
    (lasting : forall past later value, past.Sublist later -> good past value -> good later value)
    (each : forall page past, (list page).Obeys (operating may)
      (returning fun later data => forall value, value ∈ data -> good later value) past)
    (fuel page : Nat) (listed : List α) (past : Past)
    (before : forall value, value ∈ listed -> good past value) :
    (listPages list fuel page listed).Obeys (operating may)
      (returning fun later whole => forall value, value ∈ whole -> good later value) past := by
  induction fuel generalizing page listed past with
  | zero => exact fun value same => nomatch same
  | succ fuel inductionHypothesis =>
      refine (each page past).bind (fun later data extended ended => ?_)
        (fun later fault _ _ value same => nomatch same)
      have together : forall value, value ∈ listed ++ data -> good later value := by
        intro value member
        rcases List.mem_append.1 member with earlier | here
        · exact lasting past later value extended.sublist (before value earlier)
        · exact ended data rfl value here
      split
      · intro whole same
        cases same
        exact together
      · exact inductionHypothesis (page + 1) _ later together

/-- The repository belongs to an installation that was found linked and
active, and that has listed it. -/
def Reachable (userId : UserId) (past : Past) (repository : InstallationRepository) : Prop :=
  FoundActive past userId repository.installationId ∧ ListedByItsOwn past repository

theorem Reachable.after_more {userId : UserId} {later : Past} {repository : InstallationRepository}
    (more : past.Sublist later) (reachable : Reachable userId past repository) :
    Reachable userId later repository :=
  ⟨reachable.1.after_more more, reachable.2.after_more more⟩

theorem mem_of_mem_setRepository {repositories : List InstallationRepository}
    {repository other : InstallationRepository}
    (member : other ∈ setRepository repositories repository) :
    other ∈ repositories ∨ other = repository := by
  unfold setRepository at member
  split at member
  · rcases List.mem_map.1 member with ⟨old, oldMember, same⟩
    split at same
    · exact .inr same.symm
    · exact .inl (same ▸ oldMember)
  · exact (List.mem_append.1 member).imp_right List.mem_singleton.1

theorem mem_of_mem_foldl_setRepository {listed repositories : List InstallationRepository}
    {repository : InstallationRepository}
    (member : repository ∈ listed.foldl setRepository repositories) :
    repository ∈ repositories ∨ repository ∈ listed := by
  induction listed generalizing repositories with
  | nil => exact .inl member
  | cons head rest inductionHypothesis =>
      rcases inductionHypothesis member with earlier | later
      · rcases mem_of_mem_setRepository earlier with before | rfl
        · exact .inl before
        · exact .inr List.mem_cons_self
      · exact .inr (List.mem_cons_of_mem head later)

theorem obeys_getAvailableRepos (fuel : Nat) (userId : UserId) :
    (getAvailableRepos cases fuel userId).Obeys listing
      (returning fun later repositories => forall repository, repository ∈ repositories ->
        Reachable userId later repository) past := by
  have active : (getActiveRepoInstallations userId).Obeys listing
      (returning fun later installations => forall installationId, installationId ∈ installations ->
        FoundActive later userId installationId) past := by
    refine (obeys_free (.findActiveLinks userId) trivial).bind (fun later links _ ended => ?_)
      (fun later fault _ _ value same => nomatch same)
    rcases ended with ⟨rfl, _⟩
    split
    · exact fun value same => nomatch same
    · intro value same installationId member
      cases same
      exact ⟨links, List.mem_append_right _ List.mem_cons_self, member⟩
  refine active.bind (fun later installations _ found => ?_)
    (fun later fault _ _ value same => nomatch same)
  have lasting : (returning fun later (repositories : List InstallationRepository) =>
      forall repository, repository ∈ repositories -> Reachable userId later repository).Lasting :=
    fun past later ending more held value same repository member =>
      (held value same repository member).after_more more
  refine (Program.obeys_all listing_lasting listing_free lasting fun program member => ?_).bind
    (fun later repositories _ reachable => ?_) (fun later fault _ _ value same => nomatch same)
  · rcases List.mem_map.1 member with ⟨installationId, linked, rfl⟩
    have isActive := found installations rfl installationId linked
    have paged := @obeys_listPages (fun _ _ => False) _ (listOfInstallation cases installationId)
      (fun past repository => repository.installationId = installationId ∧
        ListedByItsOwn past repository)
      (fun past later repository more held => ⟨held.1, held.2.after_more more⟩)
      (fun page past => obeys_listOfInstallation installationId page) fuel 1 [] later
      (fun repository none => nomatch none)
    refine paged.mono fun after ending extended held value same repository member => ?_
    rcases held value same repository member with ⟨rfl, listed⟩
    exact ⟨isActive.after_more extended.sublist, listed⟩
  · intro value same repository member
    cases same
    rcases mem_of_mem_foldl_setRepository member with none | flat
    · cases none
    · rcases List.mem_flatten.1 flat with ⟨ofOne, inAll, inOne⟩
      exact reachable repositories rfl ofOne inAll repository inOne

/-! ## Running the operation -/

/-- The discipline of an operation for a repository of a user. -/
abbrev operatingFor (userId : UserId) (githubRepoId : String) : Discipline Services :=
  operating fun past token => MayOperate past userId githubRepoId token

theorem operations_operate (past : Past) (token : String) (outcome : Except Thrown Value) :
    operations (past ++ [(⟨.operate token, outcome⟩ : Event Services)]) =
      operations past ++ [⟨.operate token, outcome⟩] :=
  operations_append past _

/-- How one try ends: without having run the operation, or with its outcome. -/
def Tried (later : Past) (ending : Except Thrown Value) : Prop :=
  operations later = [] ∨ Exists fun front => Exists fun token =>
    later = front ++ [(⟨.operate token, ending⟩ : Event Services)] ∧ operations front = []

theorem obeys_executeOnce {userId : UserId} {githubRepoId installationId : String}
    {repositoryId : Nat} (deleted : Bool)
    (found : FoundActive past userId installationId)
    (listed : Listed past installationId repositoryId) (same : toString repositoryId = githubRepoId)
    (before : operations past = [] ∨ (deleted = true ∧
      forall news token, operations news = [] -> Created news installationId token ->
        Retried (past ++ news) installationId token)) :
    (executeOnce deleted installationId fun token => perform (.operate token)).Obeys
      (operatingFor userId githubRepoId)
      (fun later ending => operations past = [] -> Tried later ending) past := by
  have still : forall {news}, operations past = [] -> operations news = [] ->
      operations (past ++ news) = [] := by
    intro news none noneSince
    rw [operations_append, none, noneSince, List.append_nil]
  refine (obeys_getInstallationToken deleted installationId).bind (fun later token _ known => ?_)
    (fun later fault _ known none => ?_)
  · rcases known with ⟨news, rfl, noneSince, known⟩
    rcases known token rfl with ⟨obtained, created⟩
    have more := List.sublist_append_left past news
    have entitled : MayOperate (past ++ news) userId githubRepoId token := by
      refine ⟨installationId, found.after_more more, ⟨repositoryId, listed.after_more more, same⟩,
        obtained.after_more (List.sublist_append_right past news), ?_⟩
      rcases before with none | ⟨isDeleted, retried⟩
      · exact .inl (still none noneSince)
      · exact .inr (retried news token noneSince (created isDeleted))
    refine (@Program.obeys_perform Services (operatingFor userId githubRepoId) _ (.operate token)
      entitled).mono fun last ending _ ended none => ?_
    exact .inr ⟨_, token, ended.1, still none noneSince⟩
  · rcases known with ⟨news, rfl, noneSince, _⟩
    exact .inl (still none noneSince)

/-- The second try follows a first one that was unauthorized. -/
theorem obeys_operation {userId : UserId} {githubRepoId installationId : String}
    {repositoryId : Nat} (found : FoundActive past userId installationId)
    (listed : Listed past installationId repositoryId) (same : toString repositoryId = githubRepoId)
    (none : operations past = []) :
    (executeWithRetry cases installationId fun token => perform (.operate token)).Obeys
      (operatingFor userId githubRepoId) (fun _ _ => True) past := by
  have ending : forall {later} (error : Thrown),
      (throwNormalized cases error : Service Value).Obeys (operatingFor userId githubRepoId)
        (fun _ _ => True) later :=
    fun error => (@obeys_throwNormalized _ _ _ _ (fun _ _ => True) error).mono
      fun _ _ _ _ => trivial
  refine (obeys_executeOnce false found listed same (.inl none)).attempt.bind
    (fun later first extended ended => ?_) (fun _ _ _ _ => trivial)
  rcases ended with ⟨result, sameResult, tried⟩
  cases sameResult
  have more := extended.sublist
  cases first with
  | ok value => trivial
  | error error =>
      dsimp only
      split
      · exact ending error
      · rename_i unauthorized
        refine (obeys_executeOnce true (found.after_more more) (listed.after_more more) same
          ?_).attempt.bind (fun later retried _ ended => ?_) (fun _ _ _ _ => trivial)
        · rcases tried none with stillNone | ⟨front, token, rfl, noneBefore⟩
          · exact .inl stillNone
          · refine .inr ⟨rfl, fun news fresh noneSince created => ?_⟩
            exact ⟨front, token, error, news, List.append_assoc _ _ _,
              Bool.not_eq_false _ ▸ unauthorized, noneBefore, noneSince, created⟩
        · rcases ended with ⟨result, sameResult, _⟩
          cases sameResult
          cases retried with
          | ok value => trivial
          | error error => exact ending error

theorem operations_of_listing {op : Op} {outcome : Services.Outcome op}
    (none : operations past = []) (permitted : listing.Permits past op) :
    operations (past ++ [⟨op, outcome⟩]) = [] := by
  rw [operations_append, none, List.nil_append]
  cases op with
  | operate token => exact absurd permitted id
  | _ => rfl

theorem obeys_executeForRepository (fuel : Nat) (userId : UserId) (githubRepoId : String) :
    (executeForRepository cases fuel userId githubRepoId).Obeys
      (operatingFor userId githubRepoId) (fun _ _ => True) [] := by
  have listed : (getAvailableRepos cases fuel userId).Obeys (operatingFor userId githubRepoId)
      (fun later ending => returning (fun later repositories =>
        forall repository, repository ∈ repositories -> Reachable userId later repository)
          later ending ∧ operations later = []) [] := by
    refine (@Program.Obeys.and_keeps Services _ listing [] (fun past => operations past = []) _ _
      (obeys_getAvailableRepos fuel userId) rfl
      fun past event none permitted => operations_of_listing none permitted).weaken ?_
      (fun _ _ believed => believed)
    intro past op permitted
    cases op with
    | operate token => exact absurd permitted id
    | _ => exact permitted
  refine listed.bind (fun later available _ ended => ?_) (fun _ _ _ _ => trivial)
  rcases ended with ⟨reachable, none⟩
  split
  · trivial
  · rename_i repository chosen
    have isWanted := List.find?_some chosen
    have access := reachable available rfl repository (List.mem_of_find?_eq_some chosen)
    exact obeys_operation access.1 access.2 (beq_iff_eq.1 isWanted) none

/-! ## What the other requests do -/

theorem obeys_freely {α : Type} {op : Op} {next : op.Reply -> Service α} (isFree : IsFree op)
    (continues : forall reply past, (next reply).Obeys (operating may) (fun _ _ => True) past) :
    (perform op >>= next).Obeys (operating may) (fun _ _ => True) past :=
  (obeys_free op isFree).bind (fun later reply _ _ => continues reply later) (fun _ _ _ _ => trivial)

theorem obeys_linkAccessible {userId : UserId} {githubId : String}
    {organizations : List Organization} (rest : List GithubInstallationPayload)
    (savedIds : List Nat) (past : Past) :
    (linkAccessible cases userId githubId organizations rest savedIds).Obeys (operating may)
      (fun _ _ => True) past := by
  induction rest generalizing savedIds past with
  | nil => trivial
  | cons installation rest inductionHypothesis =>
      unfold linkAccessible
      split
      · exact inductionHypothesis savedIds past
      · cases toInstallationData installation with
        | error error => trivial
        | ok data =>
            refine obeys_freely trivial fun savedId past => ?_
            refine obeys_freely trivial fun updated past => ?_
            refine obeys_freely trivial fun created past => ?_
            refine obeys_freely trivial fun _ past => ?_
            exact inductionHypothesis _ past

theorem obeys_freePages {α : Type} {list : Nat -> Service (List α)} (fuel : Nat) (past : Past)
    (each : forall page past, (list page).Obeys (operating may) (fun _ _ => True) past) :
    (listPages list fuel 1 []).Obeys (operating may) (fun _ _ => True) past := by
  refine (@obeys_listPages may α list (fun _ _ => True) (fun _ _ _ _ _ => trivial)
    (fun page past => ?_) fuel 1 [] past (fun _ _ => trivial)).mono fun _ _ _ _ => trivial
  exact (each page past).mono fun _ _ _ _ _ _ _ _ => trivial

theorem obeys_syncUserInstallations (fuel : Nat) (userId : UserId) :
    (syncUserInstallations cases fuel userId).Obeys (operating may) (fun _ _ => True) past := by
  refine obeys_freely trivial fun found past => ?_
  split
  · trivial
  · rename_i user
    split
    · trivial
    · trivial
    · refine (obeys_freePages fuel past fun page past => ?_).bind
        (fun later organizations _ _ => ?_) (fun _ _ _ _ => trivial)
      · exact (obeys_free (.listOrganizations _ page) trivial).mono fun _ _ _ _ => trivial
      · refine (obeys_freePages fuel later fun page past => ?_).bind
          (fun later installations _ _ => ?_) (fun _ _ _ _ => trivial)
        · exact (obeys_free (.listInstallations page) trivial).mono fun _ _ _ _ => trivial
        · refine (obeys_linkAccessible installations [] later).bind
            (fun later savedIds _ _ => ?_) (fun _ _ _ _ => trivial)
          exact (obeys_free (.deleteLinks userId savedIds) trivial).mono fun _ _ _ _ => trivial

theorem obeys_respond {α : Type} {ends : Services.Post α} {body : Service α}
    {response : α -> Response} (obeys : body.Obeys (operating may) ends []) :
    (respond body response).Obeys (operating may) (fun _ _ => True) [] := by
  refine obeys.attempt.bind (fun later tried _ _ => ?_) (fun _ _ _ _ => trivial)
  exact (obeys_free (.answer (tried.map response)) trivial).mono fun _ _ _ _ => trivial

end Requests

/-- A request for a repository may run the operation, every other one none. -/
def Entry.discipline : Entry -> Discipline Services
  | .execute _ userId githubRepoId => operatingFor userId githubRepoId
  | .synchronise .. | .availableRepos .. => listing

theorem Entry.obeys (cases : CaseMapping) (entry : Entry) :
    (Entry.program cases entry).Obeys entry.discipline (fun _ _ => True) [] := by
  cases entry with
  | synchronise fuel userId => exact obeys_respond (obeys_syncUserInstallations fuel userId)
  | availableRepos fuel userId => exact obeys_respond (obeys_getAvailableRepos fuel userId)
  | execute fuel userId githubRepoId =>
      exact obeys_respond (obeys_executeForRepository fuel userId githubRepoId)

/-! ## Tokens belong to installations -/

/-- Every token in memory, and every one that a process has come by, was issued
for its installation. -/
structure TokensIssued (world : World) (past : Past) : Prop where
  cached : forall installationId cached, world.tokenCache installationId = some cached ->
    (installationId, cached.token) ∈ world.issued
  known : forall installationId token, Obtained past installationId token ->
    (installationId, token) ∈ world.issued

/-- What every operation leaves alone: no issued token is taken back, and a
token in memory was there before unless it is put there. -/
structure Frame (op : Op) (world after : World) : Prop where
  issued : world.issued ⊆ after.issued
  cached : forall installationId cached, after.tokenCache installationId = some cached ->
    world.tokenCache installationId = some cached ∨ op = .remember installationId cached

theorem Frame.of_same {op : Op} {world after : World} (sameIssued : after.issued = world.issued)
    (sameCache : after.tokenCache = world.tokenCache) : Frame op world after :=
  ⟨fun _ member => sameIssued ▸ member, fun _ _ found => .inl (sameCache ▸ found)⟩

theorem World.read_keeps {α : Type} {world later : World} {choice : Choice} {reply : Supply -> α}
    {outcome : Except Thrown α} (read : world.read choice reply = some (outcome, later)) :
    later = world := by
  cases choice <;> cases read <;> rfl

theorem World.write_cases {α : Type} {world later : World} {choice : Choice}
    {effect : Supply -> Option (α × World)} {outcome : Except Thrown α}
    (written : world.write choice effect = some (outcome, later)) :
    later = world ∨ Exists fun supply => Exists fun value => effect supply = some (value, later) := by
  cases choice with
  | succeed supply | lose supply error =>
      rcases Option.map_eq_some_iff.1 written with ⟨done, found, same⟩
      cases same
      exact .inr ⟨supply, done.1, found⟩
  | fail error =>
      cases written
      exact .inl rfl

section Tokens

variable {world after : World} {op : Op} {choice : Choice}

theorem frame_setToken_none (installationId : String) (world : World) :
    Frame op world (world.setToken installationId none) := by
  refine ⟨fun _ member => member, fun other cached found => .inl ?_⟩
  unfold World.setToken at found
  simp only [Function.update_apply] at found
  split at found
  · cases found
  · exact found

theorem World.exec_frame {outcome : Except Thrown op.Reply}
    (executed : World.exec op choice world = some (outcome, after)) : Frame op world after := by
  cases op with
  | currentDate | answer result =>
      cases executed
      exact .of_same rfl rfl
  | findUser | listOrganizations | listInstallations | findActiveLinks | findActiveInstallation
  | listRepositories | operate =>
      cases World.read_keeps executed
      exact .of_same rfl rfl
  | turn =>
      cases choice with
      | succeed supply =>
          cases executed
          exact .of_same rfl rfl
      | lose | fail => cases executed
  | upsertInstallation githubInstallationId data =>
      rcases World.write_cases executed with rfl | ⟨supply, value, written⟩
      · exact .of_same rfl rfl
      · rcases Option.map_eq_some_iff.1 written with ⟨done, _, same⟩
        cases same
        exact .of_same rfl rfl
  | upsertLink userId installationId updated created =>
      rcases World.write_cases executed with rfl | ⟨supply, value, written⟩
      · exact .of_same rfl rfl
      · rcases Option.map_eq_some_iff.1 written with ⟨done, _, same⟩
        cases same
        exact .of_same rfl rfl
  | deleteLinks userId kept =>
      rcases World.write_cases executed with rfl | ⟨supply, value, written⟩
      · exact .of_same rfl rfl
      · cases written
        exact .of_same rfl rfl
  | createInstallationAccessToken installationId =>
      rcases World.write_cases executed with rfl | ⟨supply, value, written⟩
      · exact .of_same rfl rfl
      · cases written
        exact ⟨fun _ member => List.mem_cons_of_mem _ member, fun _ _ found => .inl found⟩
  | cachedToken deleted installationId =>
      cases deleted with
      | false =>
          cases executed
          exact .of_same rfl rfl
      | true =>
          cases executed
          exact frame_setToken_none installationId world
  | forget installationId =>
      cases executed
      exact frame_setToken_none installationId world
  | remember installationId cached =>
      cases executed
      refine ⟨fun _ member => member, fun other later found => ?_⟩
      unfold World.setToken at found
      simp only [Function.update_apply] at found
      split at found
      · rename_i same
        cases found
        exact .inr (same ▸ rfl)
      · exact .inl found

theorem World.issued_of_created {installationId : String} {created : CachedInstallationToken}
    (executed : World.exec (.createInstallationAccessToken installationId) choice world =
      some (.ok created, after)) : (installationId, created.token) ∈ after.issued := by
  rcases World.write_ok executed with ⟨supply, written⟩
  cases written
  exact List.mem_cons_self

/-- What was deleted is not found. -/
theorem World.lastingToken_setToken_none (installationId : String) (world : World) :
    (world.setToken installationId none).lastingToken installationId = none := by
  unfold World.lastingToken World.setToken
  simp only [Function.update_self]

theorem World.cached_of_lastingToken {installationId token : String}
    (found : world.lastingToken installationId = some token) :
    Exists fun cached => world.tokenCache installationId = some cached ∧ cached.token = token := by
  unfold World.lastingToken at found
  split at found
  · rename_i cached
    split at found
    · cases found
      exact ⟨_, cached, rfl⟩
    · cases found
  · cases found

theorem World.cached_of_found {deleted : Bool} {installationId token : String}
    (executed : World.exec (.cachedToken deleted installationId) choice world =
      some (.ok (some token), after)) :
    Exists fun cached => world.tokenCache installationId = some cached ∧ cached.token = token := by
  cases deleted with
  | false =>
      rcases Prod.ext_iff.1 (Option.some.inj executed) with ⟨same, _⟩
      exact World.cached_of_lastingToken (Except.ok.inj same)
  | true =>
      rcases Prod.ext_iff.1 (Option.some.inj executed) with ⟨same, _⟩
      rw [World.lastingToken_setToken_none] at same
      cases same

theorem World.exec_credible {may : Past -> String -> Prop} {outcome : Except Thrown op.Reply}
    (executed : World.exec op choice world = some (outcome, after)) :
    (operating may).Credible op outcome := by
  cases op with
  | cachedToken deleted installationId =>
      cases deleted with
      | false => trivial
      | true =>
          rcases Prod.ext_iff.1 (Option.some.inj executed) with ⟨same, _⟩
          exact same.symm.trans (congrArg Except.ok (World.lastingToken_setToken_none _ _))
  | _ => trivial

/-- A token that is known after an operation was known before, or the operation
brought it. -/
theorem obtained_append {past : Past} {event : Event Services} {installationId token : String}
    (obtained : Obtained (past ++ [event]) installationId token) :
    Obtained past installationId token ∨
      (Exists fun created : CachedInstallationToken =>
        event = ⟨.createInstallationAccessToken installationId, .ok created⟩ ∧
          created.token = token) ∨
      Exists fun deleted => event = ⟨.cachedToken deleted installationId, .ok (some token)⟩ := by
  rcases obtained with ⟨created, member, same⟩ | ⟨deleted, member⟩
  · rcases List.mem_append.1 member with before | now
    · exact .inl (.inl ⟨created, before, same⟩)
    · exact .inr (.inl ⟨created, (List.mem_singleton.1 now).symm, same⟩)
  · rcases List.mem_append.1 member with before | now
    · exact .inl (.inr ⟨deleted, before⟩)
    · exact .inr (.inr ⟨deleted, (List.mem_singleton.1 now).symm⟩)

theorem TokensIssued.lasts {past : Past} (holds : TokensIssued world past)
    (frame : Frame op world after)
    (put : forall installationId cached, op = .remember installationId cached ->
      (installationId, cached.token) ∈ world.issued) : TokensIssued after past where
  cached installationId cached found := by
    rcases frame.cached installationId cached found with before | same
    · exact frame.issued (holds.cached installationId cached before)
    · exact frame.issued (put installationId cached same)
  known installationId token obtained := frame.issued (holds.known installationId token obtained)

/-- The process that performs an operation learns only of issued tokens. -/
theorem TokensIssued.learns {past : Past} {outcome : Except Thrown op.Reply}
    (holds : TokensIssued world past) (lasting : TokensIssued after past)
    (executed : World.exec op choice world = some (outcome, after)) :
    TokensIssued after (past ++ [⟨op, outcome⟩]) where
  cached := lasting.cached
  known installationId token obtained := by
    rcases obtained_append obtained with before | ⟨created, same, rfl⟩ | ⟨deleted, same⟩
    · exact lasting.known installationId token before
    · cases same
      exact World.issued_of_created executed
    · cases same
      rcases World.cached_of_found executed with ⟨cached, found, rfl⟩
      exact (World.exec_frame executed).issued (holds.cached installationId cached found)

end Tokens

/-! ## Runs -/

section Runs

variable {cases : CaseMapping} {first last : (installationAccess cases).State}
  {steps : List (installationAccess cases).Transition}

/-- Every process keeps in memory only what it has created. -/
theorem Entry.obeys_listing_or (cases : CaseMapping) (entry : Entry) :
    (Entry.program cases entry).Obeys (operating fun _ _ => True) (fun _ _ => True) [] := by
  refine (Entry.obeys cases entry).weaken (fun past op permitted => ?_) fun _ _ believed => ?_
  · cases entry <;> cases op <;> first | exact permitted | trivial
  · cases entry <;> exact believed

/-- What is remembered lasts, since only created tokens are put into memory. -/
theorem tokensIssued_lasts {state after : (installationAccess cases).State}
    {label : (installationAccess cases).Label}
    (disciplined : state.Disciplined (operating fun _ _ => True))
    (held : State.Remembers (M := installationAccess cases) TokensIssued state)
    (stepped : state.step label = some after) {past : Past}
    (holds : TokensIssued state.world past) : TokensIssued after.world past := by
  cases label with
  | spawn entry =>
      cases State.step_spawn stepped
      exact holds
  | crash index =>
      rcases State.step_crash stepped with ⟨process, _, rfl⟩
      exact holds
  | internal event =>
      rcases State.step_internal stepped with ⟨world, moved, rfl⟩
      cases event <;> cases moved <;> exact ⟨holds.cached, holds.known⟩
  | act index choice =>
      rcases State.step_act stepped with ⟨op, resume, before, outcome, world, here, executed, rfl⟩
      refine holds.lasts (World.exec_frame executed) fun installationId cached same => ?_
      cases same
      have created : Created before installationId cached.token :=
        ⟨cached, disciplined.permits here, rfl⟩
      have known := held index
      rw [State.historyAt_of_getElem? here] at known
      exact known.known installationId cached.token (.inl created)

theorem tokensIssued (run : Execution first steps last) (initially : first.processes = [])
    (empty : forall installationId, first.world.tokenCache installationId = none) :
    State.Remembers (M := installationAccess cases) TokensIssued last := by
  have start : State.Remembers (M := installationAccess cases) TokensIssued first := by
    intro index
    have none : first.historyAt index = [] := by
      rw [State.historyAt, initially]
      rfl
    rw [none]
    refine ⟨fun installationId cached found => ?_, fun installationId token obtained => ?_⟩
    · rw [empty] at found
      cases found
    · rcases obtained with ⟨_, none, _⟩ | ⟨_, none⟩ <;> cases none
  refine run.always (State.Remembers (M := installationAccess cases) TokensIssued) start
    fun earlier state label after reached held stepped => ?_
  have nobody : first.Disciplined (operating fun _ _ => True) := by
    intro process member
    rw [initially] at member
    cases member
  have disciplined := reached.disciplined (Entry.obeys_listing_or cases)
    (fun _ _ _ _ _ executed => World.exec_credible executed) nobody
  have lasts := fun past => @tokensIssued_lasts _ _ _ _ disciplined held stepped past
  refine held.step stepped (fun index choice op resume past outcome here executed holds => ?_) lasts
  exact holds.learns (lasts past holds) executed

/-- The installation is linked to the user and active. -/
def Store.ActivelyLinked (store : Store) (userId : UserId) (installationId : String) : Prop :=
  Exists fun row => row ∈ store.installations ∧ row.githubInstallationId = installationId ∧
    row.status = .ACTIVE ∧ store.Linked userId row.id

/-- In a step of the run a process performs an operation after what it has done
so far, with an outcome. -/
def Performs (step : (installationAccess cases).Transition) (index : Nat) (past : Past)
    (event : Event Services) : Prop :=
  step.actor = some index ∧ step.before.historyAt index = past ∧
    Exists fun choice =>
      World.exec event.op choice step.before.world = some (event.outcome, step.after.world)

/-- What entitles a process that has done certain things to run an operation
with a token: an installation that was linked and active when it was looked up,
that has listed the repository with a token of its own, and that the token was
issued for.  A second operation follows a rejected first one, with a token
created since. -/
structure Entitled (steps : List (installationAccess cases).Transition) (index : Nat) (past : Past)
    (userId : UserId) (githubRepoId token installationId : String) : Prop where
  lookedUp : Exists fun step => step ∈ steps ∧ Exists fun front => Exists fun links =>
    Exists fun back => past = front ++ (⟨.findActiveLinks userId, .ok links⟩ : Event Services) :: back ∧
      Performs step index front ⟨.findActiveLinks userId, .ok links⟩ ∧
      step.before.world.store.ActivelyLinked userId installationId
  listed : Exists fun step => step ∈ steps ∧ Exists fun front => Exists fun listingToken =>
    Exists fun page => Exists fun repositories : List Repository => Exists fun back =>
      past = front ++
        (⟨.listRepositories listingToken page, .ok repositories⟩ : Event Services) :: back ∧
      Performs step index front ⟨.listRepositories listingToken page, .ok repositories⟩ ∧
      (installationId, listingToken) ∈ step.before.world.issued ∧
      Exists fun repository => repository ∈ repositories ∧ toString repository.id = githubRepoId
  issued : Exists fun step => step ∈ steps ∧ Exists fun outcome =>
    Performs step index past ⟨.operate token, outcome⟩ ∧
      (installationId, token) ∈ step.before.world.issued
  once_or_retried : operations past = [] ∨ Retried past installationId token

theorem performed (run : Execution first steps last) (initially : first.processes = [])
    {index : Nat} {front back : Past} {event : Event Services}
    (split : last.historyAt index = front ++ event :: back) :
    Exists fun step => step ∈ steps ∧ Performs step index front event ∧
      Exists fun earlier => Execution first earlier step.before := by
  rcases run.step_of_split initially split with ⟨step, member, choice, resume, acts, here, executed⟩
  refine ⟨step, member, ⟨?_, State.historyAt_of_getElem? here, choice, executed⟩,
    (run.reaches_step member).1⟩
  rw [Transition.actor, acts]

/-- The rows of the lookup are linked and active. -/
theorem activelyLinked_of_found {world after : World} {userId : UserId} {choice : Choice}
    {links : List String} (executed : World.exec (.findActiveLinks userId) choice world =
      some (.ok links, after)) {installationId : String} (member : installationId ∈ links) :
    world.store.ActivelyLinked userId installationId := by
  rcases World.read_ok executed with ⟨rfl, supply, rfl⟩
  have inRows : installationId ∈ (after.store.linkedInstallations userId .ACTIVE).map
      fun row => row.githubInstallationId := by
    unfold World.activeLinks at member
    simp only at member
    split at member
    · rename_i permuted
      exact permuted.mem_iff.1 member
    · exact member
  rcases List.mem_map.1 inRows with ⟨row, selected, same⟩
  rcases List.mem_filter.1 selected with ⟨stored, conditions⟩
  rcases Bool.and_eq_true_iff.1 conditions with ⟨active, linked⟩
  exact ⟨row, stored, same, beq_iff_eq.1 active, Store.linked_iff.2 linked⟩

/-- The operations of a request are those it is entitled to. -/
theorem entitled (run : Execution first steps last) (initially : first.processes = [])
    (empty : forall installationId, first.world.tokenCache installationId = none) {index : Nat}
    {fuel : Nat} {userId : UserId} {githubRepoId : String}
    (spawned : Spawned steps index (.execute fuel userId githubRepoId)) {past back : Past}
    {token : String} {outcome : Except Thrown Value}
    (split : last.historyAt index = past ++ (⟨.operate token, outcome⟩ : Event Services) :: back) :
    Exists (Entitled steps index past userId githubRepoId token) := by
  have may : MayOperate past userId githubRepoId token :=
    run.permits_event (fun entry => Entry.obeys cases entry)
      (fun entry _ _ _ _ _ executed => by cases entry <;> exact World.exec_credible executed)
      initially spawned split
  rcases may with ⟨installationId, ⟨links, foundEvent, linked⟩, ⟨repositoryId, listed, sameId⟩,
    obtained, turnOf⟩
  refine ⟨installationId, ?_, ?_, ?_, turnOf⟩
  · rcases List.append_of_mem foundEvent with ⟨front, between, rfl⟩
    rw [List.append_assoc, List.cons_append] at split
    rcases performed run initially split with ⟨step, member, performs, _⟩
    rcases performs.2.2 with ⟨choice, executed⟩
    exact ⟨step, member, front, links, between, rfl, performs,
      activelyLinked_of_found executed linked⟩
  · rcases listed with
      ⟨front, listingToken, page, repositories, between, rfl, obtainedBefore, repository, inPage,
        same⟩
    rw [List.append_assoc, List.cons_append] at split
    rcases performed run initially split with ⟨step, member, performs, earlier, reached⟩
    have known := tokensIssued reached initially empty index
    rw [performs.2.1] at known
    exact ⟨step, member, front, listingToken, page, repositories, between, rfl, performs,
      known.known installationId listingToken obtainedBefore, repository, inPage,
      same ▸ sameId⟩
  · rcases performed run initially split with ⟨step, member, performs, earlier, reached⟩
    have known := tokensIssued reached initially empty index
    rw [performs.2.1] at known
    exact ⟨step, member, outcome, performs, known.known installationId token obtained⟩

theorem eq_of_isOperation {event : Event Services} (operated : isOperation event = true) :
    Exists fun token => Exists fun outcome => event = ⟨.operate token, outcome⟩ := by
  rcases event with ⟨op, outcome⟩
  cases op with
  | operate token => exact ⟨token, outcome, rfl⟩
  | _ => cases operated

/-- At most two operations, if each follows at most one. -/
theorem operations_le_two {past : Past}
    (each : forall front token outcome back,
      past = front ++ (⟨.operate token, outcome⟩ : Event Services) :: back ->
        (operations front).length ≤ 1) : (operations past).length ≤ 2 := by
  induction past using List.reverseRecOn with
  | nil => exact Nat.zero_le 2
  | append_singleton past event inductionHypothesis =>
      rw [operations_append, List.length_append]
      cases operated : isOperation event with
      | true =>
          rcases eq_of_isOperation operated with ⟨token, outcome, rfl⟩
          exact Nat.add_le_add_right (each past token outcome [] rfl) 1
      | false =>
          have none : operations [event] = [] :=
            List.filter_cons_of_neg (Bool.eq_false_iff.1 operated)
          rw [none]
          refine inductionHypothesis fun front token outcome back split =>
            each front token outcome (back ++ [event]) ?_
          rw [split, List.append_assoc, List.cons_append]

theorem operations_le_one {past : Past} {installationId token : String}
    (turnOf : operations past = [] ∨ Retried past installationId token) :
    (operations past).length ≤ 1 := by
  rcases turnOf with none | ⟨front, rejected, error, middle, rfl, _, noneBefore, noneSince, _⟩
  · rw [none]
    exact Nat.zero_le 1
  · have single : operations ((⟨.operate rejected, .error error⟩ : Event Services) :: middle) =
        ⟨.operate rejected, .error error⟩ :: operations middle := rfl
    rw [operations_append, noneBefore, single, noneSince]
    exact Nat.le_refl 1

/-- A synchronisation that has the database and the lists of GitHub to itself
is exact when it completes, and every operation for a repository follows a
lookup, a listing and a token of one installation, at most twice. -/
theorem synchronised_and_entitled (run : Execution first steps last)
    (initially : first.processes = [])
    (empty : forall installationId, first.world.tokenCache installationId = none) :
    (forall earlier spawning during fuel userId, steps = earlier ++ spawning :: during ->
      spawning.label = .spawn (.synchronise fuel userId) ->
      (forall step, step ∈ during -> step.Quiet observe spawning.before.processes.length) ->
      forall response, last.pending spawning.before.processes.length =
          some (.answer (.ok response)) ->
        last.world.github = spawning.before.world.github ∧
          Exists (Synchronised cases spawning.before.world.github spawning.before.world.store
            last.world.store userId)) ∧
    (forall index fuel userId githubRepoId,
      Spawned steps index (.execute fuel userId githubRepoId) ->
        (operations (last.historyAt index)).length ≤ 2 ∧
        forall past token outcome back,
          last.historyAt index = past ++ (⟨.operate token, outcome⟩ : Event Services) :: back ->
            Exists (Entitled steps index past userId githubRepoId token)) := by
  refine ⟨fun earlier spawning during fuel userId split spawns quiet response completes => ?_,
    fun index fuel userId githubRepoId spawned => ⟨?_, fun past token outcome back split =>
      entitled run initially empty spawned split⟩⟩
  · subst split
    rcases run.around with ⟨_, stepped, onward⟩
    rw [spawns] at stepped
    have spawnedState := State.step_spawn stepped
    have starts : spawning.after.processes[spawning.before.processes.length]? =
        some ⟨Entry.program cases (.synchronise fuel userId), []⟩ := by
      rw [spawnedState]
      exact List.getElem?_concat_length
    have sameWorld : spawning.after.world = spawning.before.world := by rw [spawnedState]
    have exact_ := onward.solitary starts (safe_synchronise cases fuel userId _) quiet completes
    rw [sameWorld] at exact_
    exact exact_
  · refine operations_le_two fun front token outcome back split => ?_
    rcases entitled run initially empty spawned split with ⟨installationId, granted⟩
    exact operations_le_one granted.once_or_retried

end Runs

/-! ## A run with both -/

section Example

/-- A case mapping as far as the run needs it. -/
def exampleCases : CaseMapping where
  toLowerCase := id
  toUpperCase := id
  loginToLowerCase login := if login = "ACME" then "acme" else login

def exampleInstallation (githubInstallationId : String) (id : Nat) : GithubInstallation where
  accountId := "9"
  accountLogin := "stranger"
  accountType := .USER
  repositorySelection := "all"
  status := .ACTIVE
  suspendedAt := none
  deletedAt := none
  githubCreatedAt := none
  githubUpdatedAt := none
  id := id
  githubInstallationId := githubInstallationId

/-- Two users with a link to an installation that belongs to neither. -/
def exampleStore : Store where
  users := ⟨[⟨1, "7", "one", some "token"⟩, ⟨2, "8", "two", none⟩], by decide⟩
  installations := ⟨[exampleInstallation "41" 10], by decide⟩
  links := ⟨[⟨1, 10, .AUTO_DISCOVERY, 0⟩, ⟨2, 10, .AUTO_DISCOVERY, 0⟩], by decide⟩
  identified := by decide

def examplePayload (id account : Nat) (login type : String) : GithubInstallationPayload :=
  ⟨id, some ⟨account, login, type⟩, "all", none, none, none⟩

def exampleWorld : World where
  store := exampleStore
  github :=
    { organizations := fun _ => [⟨"acme"⟩]
      installations := [examplePayload 41 9 "stranger" "User", examplePayload 42 7 "one" "User",
        examplePayload 43 5 "ACME" "Organization"] }
  clock := 1000
  tokenCache := fun _ => none
  issued := []

def exampleStart : (installationAccess exampleCases).State := ⟨exampleWorld, []⟩

/-- The environment answers as asked; an installation has one repository. -/
def exampleSupply (generated : Nat) (token : String) : Supply where
  generated := generated
  links := []
  created := ⟨token, some 4000000⟩
  repositories := [⟨5, "stranger/project", false⟩]
  result := .null
  left := true

/-- A synchronisation up to its answer: the two accessible installations are
stored under new ids. -/
def synchronisingChoices : List Choice :=
  List.replicate 7 (.succeed (exampleSupply 11 "")) ++
    List.replicate 5 (.succeed (exampleSupply 12 ""))

def synchronisingScript : List (installationAccess exampleCases).Label :=
  .spawn (.synchronise 3 1) :: synchronisingChoices.map (.act 0)

/-- The replies to an operation for the repository, whose first token is
rejected. -/
def operatingChoices : List Choice :=
  List.replicate 7 (.succeed (exampleSupply 0 "first")) ++
    .fail (httpException 401 (createBody 401 "Unauthorized" "") "") ::
      List.replicate 5 (.succeed (exampleSupply 0 "second"))

def operatingScript : List (installationAccess exampleCases).Label :=
  .spawn (.execute 3 1 "5") :: operatingChoices.map (.act 0)

/-- The history of the operating process. -/
def operatingHistory : Past := (exampleStart.after operatingScript).historyAt 0

theorem synchronised_and_entitled_example :
    (Exists (Synchronised exampleCases exampleWorld.github exampleWorld.store
      (exampleStart.after synchronisingScript).world.store 1)) ∧
    (operations operatingHistory).length ≤ 2 ∧
    Exists (Entitled (exampleStart.trace operatingScript) 0 (operatingHistory.take 12) 1 "5"
      "second") := by
  have synchronising := @State.trace_execution _ _ exampleStart synchronisingScript
    (by decide +kernel)
  have operating := @State.trace_execution _ _ exampleStart operatingScript (by decide +kernel)
  have exact_ := (synchronised_and_entitled synchronising rfl fun _ => rfl).1 []
    ⟨exampleStart, .spawn (.synchronise 3 1), exampleStart.after [.spawn (.synchronise 3 1)]⟩
    ((exampleStart.after [.spawn (.synchronise 3 1)]).trace (synchronisingChoices.map (.act 0)))
    3 1 rfl rfl (fun step member => State.quiet_of_alone member) .synchronised rfl
  have granted := (synchronised_and_entitled operating rfl fun _ => rfl).2 0 3 1 "5"
    ⟨⟨exampleStart, .spawn (.execute 3 1 "5"), exampleStart.after [.spawn (.execute 3 1 "5")]⟩,
      List.mem_cons_self, rfl, rfl⟩
  exact ⟨exact_.2, granted.1, granted.2 (operatingHistory.take 12) "second" (.ok .null) [] rfl⟩

end Example

end GitMate.GithubApp.Access
