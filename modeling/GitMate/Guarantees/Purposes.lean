import GitMate.Auth.Service
import GitMate.GithubApp.Callback

namespace GitMate.Auth

open JavaScript Relational

/-!
# Which token is accepted where

Four kinds of tokens are signed with one secret, and four places verify a
token.  The two places that expect a state read its purpose; the two that
expect an access token read no more than its subject.  A token of another flow
is therefore rejected by the former two, and by the strategy `jwt` only if its
subject has no account that is active.
-/

/-- What a token is for. -/
inductive Flow where
  | access | refresh | oauthState | installState
  deriving DecidableEq, Repr

/-- What makes a token: a login or refresh makes two, a reauthorization one,
and the request for an installation one. -/
inductive Minting where
  | accessToken (userId : UserId) (username : Text)
  | refreshToken (userId : UserId) (username : Text)
  | githubOAuthState (userId : UserId)
  | installState (userId : UserId) (jti : String)
  deriving DecidableEq, Repr

namespace Minting

def flow : Minting -> Flow
  | .accessToken .. => .access
  | .refreshToken .. => .refresh
  | .githubOAuthState _ => .oauthState
  | .installState .. => .installState

def body : Minting -> TokenBody
  | .accessToken userId username | .refreshToken userId username => sessionBody userId username
  | .githubOAuthState userId => reauthorizeBody userId
  | .installState userId jti => installBody userId jti

def expiresIn : Minting -> Nat
  | .accessToken .. => ACCESS_TOKEN_LIFETIME
  | .refreshToken .. => REFRESH_TOKEN_LIFETIME
  | .githubOAuthState _ | .installState .. => STATE_LIFETIME

/-- The token that is minted at a time in seconds. -/
def token (minting : Minting) (issued : Nat) (signature : Bytes) : Token :=
  sign minting.body minting.expiresIn issued signature

theorem verify_token (minting : Minting) {issued now : Nat} (signature : Bytes)
    (unexpired : now < issued + minting.expiresIn) :
    (minting.token issued signature).verify now =
      some ⟨minting.body, issued, issued + minting.expiresIn⟩ :=
  if_pos ⟨rfl, unexpired⟩

end Minting

/-- The same token as the callback of the GitHub App sees it; a claim that is
missing is as falsy as an empty one. -/
def Token.toStateToken (token : Token) : GithubApp.StateToken where
  payload :=
    if token.genuine then
      some (token.claims.sub, token.claims.jti.getD "", token.claims.purpose.getD "")
    else none
  exp := token.claims.exp * 1000

inductive Acceptor where
  | jwtStrategy | githubOAuthGuard | verifyGithubOAuthState | verifyState
  deriving DecidableEq, Repr

namespace Acceptor

def flow : Acceptor -> Flow
  | .jwtStrategy | .githubOAuthGuard => .access
  | .verifyGithubOAuthState => .oauthState
  | .verifyState => .installState

/-- The token gets past the acceptor. -/
def accepts (acceptor : Acceptor) (world : World) (token : Token) : Bool :=
  match acceptor with
  | .jwtStrategy =>
      match token.verify world.seconds with
      | some payload => (validate (world.users.find? payload.sub)).isOk
      | none => false
  | .githubOAuthGuard =>
      (getAuthenticateOptions (some "reauthorize") (some token) world.seconds []).isOk
  | .verifyGithubOAuthState =>
      match token.verify world.seconds with
      | some payload => (checkOAuthState payload).isOk
      | none => false
  | .verifyState => (GithubApp.verifyState token.toStateToken world.clock).isOk

/-- The acceptor reads the purpose of a token. -/
def checksPurpose : Acceptor -> Bool
  | .jwtStrategy | .githubOAuthGuard => false
  | .verifyGithubOAuthState | .verifyState => true

end Acceptor

/-- No user with the id has an active account. -/
def Inactive (users : Users) (userId : UserId) : Prop :=
  forall user, users.find? userId = some user -> user.status = .DEACTIVATED

theorem validate_isOk {users : Users} {userId : UserId} :
    (validate (users.find? userId)).isOk = false ↔ Inactive users userId := by
  unfold Inactive validate
  cases users.find? userId with
  | none => exact ⟨fun _ user found => (by cases found), fun _ => rfl⟩
  | some user =>
      simp only [Option.some.injEq, forall_eq']
      split
      · rename_i deactivated
        exact ⟨fun _ => deactivated, fun _ => rfl⟩
      · rename_i active
        exact ⟨fun rejected => (by cases rejected), fun deactivated => absurd deactivated active⟩

/-- A token of another purpose does not get past `verifyGithubOAuthState`. -/
theorem verifyGithubOAuthState_foreign {minting : Minting} (foreign : Flow.oauthState ≠ minting.flow)
    {world : World} {issued : Nat} (signature : Bytes) :
    Acceptor.verifyGithubOAuthState.accepts world (minting.token issued signature) = false := by
  have other : minting.body.purpose ≠ some "github-oauth-reauthorize" := by
    cases minting with
    | accessToken | refreshToken => exact fun same => by cases same
    | githubOAuthState => exact absurd rfl foreign
    | installState => exact fun same => absurd (Option.some.inj same) (by decide)
  unfold Acceptor.accepts
  simp only
  split
  · rename_i payload verified
    unfold Token.verify at verified
    split at verified
    · cases verified
      have checked : checkOAuthState (minting.token issued signature).claims =
          .error invalidOAuthState := if_pos other
      rw [checked]
      rfl
    · cases verified
  · rfl

/-- A token of another purpose does not get past `verifyState`. -/
theorem verifyState_foreign {minting : Minting} (foreign : Flow.installState ≠ minting.flow)
    {world : World} {issued : Nat} (signature : Bytes) :
    Acceptor.verifyState.accepts world (minting.token issued signature) = false := by
  have other : minting.body.purpose.getD "" ≠ "github-app-install" := by
    cases minting with
    | accessToken | refreshToken => exact show "" ≠ "github-app-install" by decide
    | githubOAuthState => exact show "github-oauth-reauthorize" ≠ "github-app-install" by decide
    | installState => exact absurd rfl foreign
  unfold Acceptor.accepts GithubApp.verifyState
  simp only [Token.toStateToken, Minting.token, sign, if_true]
  rw [if_pos (Or.inr (Or.inl other))]
  rfl

/-- An unexpired token of another flow is rejected exactly where its purpose
is read, and by the strategy `jwt` where its subject has no active account. -/
theorem token_purposes (minting : Minting) (acceptor : Acceptor) (world : World) (issued : Nat)
    (signature : Bytes) (foreign : acceptor.flow ≠ minting.flow)
    (unexpired : world.seconds < issued + minting.expiresIn) :
    acceptor.accepts world (minting.token issued signature) = false ↔
      acceptor.checksPurpose = true ∨
        acceptor = .jwtStrategy ∧ Inactive world.users minting.body.sub := by
  have verified := minting.verify_token signature unexpired
  cases acceptor with
  | jwtStrategy =>
      unfold Acceptor.accepts
      rw [verified]
      refine validate_isOk.trans ⟨fun inactive => Or.inr ⟨rfl, inactive⟩, fun allowed => ?_⟩
      rcases allowed with checked | ⟨_, inactive⟩
      · cases checked
      · exact inactive
  | githubOAuthGuard =>
      unfold Acceptor.accepts getAuthenticateOptions
      rw [if_neg (not_not_intro rfl)]
      simp only [verified]
      refine ⟨fun rejected => (by cases rejected), fun allowed => ?_⟩
      rcases allowed with checked | ⟨same, _⟩
      · cases checked
      · cases same
  | verifyGithubOAuthState =>
      exact ⟨fun _ => Or.inl rfl, fun _ => verifyGithubOAuthState_foreign foreign signature⟩
  | verifyState =>
      exact ⟨fun _ => Or.inl rfl, fun _ => verifyState_foreign foreign signature⟩

/-! ## Concrete tokens -/

/-- One active user, at a time in seconds. -/
def activeWorld (seconds : Nat) : World where
  users := ⟨⟨[⟨1, "7", text "octocat", none, none, none, .ACTIVE⟩], by decide⟩, by decide⟩
  clock := seconds * 1000

/-- A refresh token does not get past `verifyState`. -/
theorem token_purposes_refresh :
    Acceptor.verifyState.accepts (activeWorld 3600)
      ((Minting.refreshToken 1 (text "octocat")).token 0 []) = false :=
  (token_purposes (.refreshToken 1 (text "octocat")) .verifyState (activeWorld 3600) 0 []
    (by decide) (by decide)).mpr (Or.inl rfl)

/-- Both kinds of states authenticate a request of their user before they
expire, and so does a refresh token an hour after it was issued. -/
theorem states_authenticate :
    (Acceptor.jwtStrategy.flow ≠ (Minting.githubOAuthState 1).flow ∧
      Acceptor.jwtStrategy.accepts (activeWorld 300)
        ((Minting.githubOAuthState 1).token 0 []) = true) ∧
    (Acceptor.jwtStrategy.flow ≠ (Minting.installState 1 "jti").flow ∧
      Acceptor.jwtStrategy.accepts (activeWorld 300)
        ((Minting.installState 1 "jti").token 0 []) = true) ∧
    (Acceptor.jwtStrategy.flow ≠ (Minting.refreshToken 1 (text "octocat")).flow ∧
      Acceptor.jwtStrategy.accepts (activeWorld 3600)
        ((Minting.refreshToken 1 (text "octocat")).token 0 []) = true) := by
  decide +kernel

end GitMate.Auth
