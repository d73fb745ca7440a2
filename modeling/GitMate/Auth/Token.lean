import GitMate.Library.Base64
import GitMate.Ledger.Schema

namespace GitMate.Auth

open JavaScript

/-!
# Signed tokens and their hashes

Every token of the service is a JWT that is signed with one secret.  Its
payload lists the claims in the order in which they are given, and then the
times of issue and of expiry, in seconds.  A refresh token is stored as a
bcrypt hash, and bcrypt reads 72 bytes of what it is given.

The 72 bytes end before the time of issue.  Two tokens of one user under one
name are therefore the same to bcrypt, whenever they were issued and however
long they are valid.
-/

/-! ## Tokens -/

/-- The claims that a caller of `signAsync` gives. -/
structure TokenBody where
  sub : UserId
  username : Option Text
  jti : Option String
  purpose : Option String
  deriving DecidableEq, Repr

structure JwtClaims extends TokenBody where
  iat : Nat
  exp : Nat
  deriving DecidableEq, Repr

/-- A whole number as `JSON.stringify` renders it. -/
def renderNat (number : Nat) : Text :=
  (Nat.toDigits 10 number).map fun digit => UInt16.ofNat digit.toNat

def member (key : String) (rendered : Text) : Text × Text := (text key, rendered)

/-- The rendered claims in signing order; a claim that is not given is left
out. -/
def TokenBody.members (body : TokenBody) : List (Text × Text) :=
  member "sub" (renderNat body.sub) ::
    ((body.username.map fun username => member "username" (quote username)).toList ++
      (body.jti.map fun jti => member "jti" (quote (text jti))).toList ++
      (body.purpose.map fun purpose => member "purpose" (quote (text purpose))).toList)

def JwtClaims.payload (claims : JwtClaims) : Text :=
  stringifyObject (claims.toTokenBody.members ++
    [member "iat" (renderNat claims.iat), member "exp" (renderNat claims.exp)])

/-- A token that is presented to the service.  It is genuine if its signature
is the one that the secret yields for its first two parts. -/
structure Token where
  claims : JwtClaims
  signature : Bytes
  genuine : Bool
  deriving DecidableEq, Repr

def FULL_STOP_BYTE : Byte := 0x2E

def header : Text :=
  stringifyObject [member "alg" (quote (text "HS256")), member "typ" (quote (text "JWT"))]

/-- The token as it travels. -/
def Token.toBytes (token : Token) : Bytes :=
  base64url (utf8 header) ++ FULL_STOP_BYTE ::
    (base64url (utf8 token.claims.payload) ++ FULL_STOP_BYTE :: token.signature)

/-- `signAsync` with `expiresIn`, in seconds, at a time in seconds. -/
def sign (body : TokenBody) (expiresIn now : Nat) (signature : Bytes) : Token :=
  ⟨⟨body, now, now + expiresIn⟩, signature, true⟩

/-- `verifyAsync`: the signature belongs to the token, and the token has not
expired. -/
def Token.verify (token : Token) (now : Nat) : Option JwtClaims :=
  if token.genuine = true ∧ now < token.claims.exp then some token.claims else none

/-- The claims of both tokens of `getTokens`. -/
def sessionBody (userId : UserId) (username : Text) : TokenBody := ⟨userId, some username, none, none⟩

/-- The claims of a state that `createGithubReauthorizationUrl` or the guard
signs. -/
def reauthorizeBody (userId : UserId) : TokenBody :=
  ⟨userId, none, none, some "github-oauth-reauthorize"⟩

/-- The claims of the state of `createInstallUrl`. -/
def installBody (userId : UserId) (jti : String) : TokenBody :=
  ⟨userId, none, some jti, some "github-app-install"⟩

/-- `'15m'`. -/
def ACCESS_TOKEN_LIFETIME : Nat := 15 * 60

/-- `'7d'`. -/
def REFRESH_TOKEN_LIFETIME : Nat := 7 * 24 * 60 * 60

/-- `'10m'`. -/
def STATE_LIFETIME : Nat := 10 * 60

def accessToken (userId : UserId) (username : Text) (now : Nat) (signature : Bytes) : Token :=
  sign (sessionBody userId username) ACCESS_TOKEN_LIFETIME now signature

def refreshToken (userId : UserId) (username : Text) (now : Nat) (signature : Bytes) : Token :=
  sign (sessionBody userId username) REFRESH_TOKEN_LIFETIME now signature

/-! ## Hashes -/

/-- The number of bytes that bcrypt reads. -/
def BCRYPT_LIMIT : Nat := 72

/-- A stored hash, named by the token that was hashed; only the bytes that
bcrypt reads can be told from it. -/
structure BcryptHash where
  input : Token
  deriving DecidableEq, Repr

/-- `bcrypt.compare`. -/
def BcryptHash.compare (hash : BcryptHash) (presented : Bytes) : Bool :=
  presented.take BCRYPT_LIMIT == hash.input.toBytes.take BCRYPT_LIMIT

/-! ## What bcrypt reads of a token -/

/-- The payload of a token of `getTokens` up to the value of `iat`. -/
def sessionFront (userId : UserId) (username : Text) : Text :=
  LEFT_CURLY_BRACKET :: (quote (text "sub") ++ COLON :: renderNat userId ++ COMMA ::
    (quote (text "username") ++ COLON :: quote username ++ COMMA :: quote (text "iat")))

theorem payload_session {claims : JwtClaims} {userId : UserId} {username : Text}
    (body : claims.toTokenBody = sessionBody userId username) :
    Exists fun rest => claims.payload = sessionFront userId username ++ COLON :: rest := by
  refine ⟨renderNat claims.iat ++ COMMA :: (quote (text "exp") ++ COLON :: renderNat claims.exp) ++
    [RIGHT_CURLY_BRACKET], ?_⟩
  rw [JwtClaims.payload, body]
  simp only [TokenBody.members, sessionBody, member, Option.map_some, Option.map_none,
    Option.toList_some, Option.toList_none, List.append_nil, List.cons_append, List.nil_append,
    stringifyObject, stringifyMembers, sessionFront, List.append_assoc]

/-- The front has 28 code units besides the digits and the name. -/
theorem sessionFront_length (userId : UserId) (username : Text) :
    28 ≤ (sessionFront userId username ++ [COLON]).length := by
  have digits : 0 < (renderNat userId).length := by
    rw [renderNat, List.length_map]
    exact Nat.length_toDigits_pos
  have sub : (quote (text "sub")).length = 5 := by decide
  have name : (quote (text "username")).length = 10 := by decide
  have issued : (quote (text "iat")).length = 5 := by decide
  have quoted : 2 ≤ (quote username).length := by
    rw [quote, List.length_append, List.length_cons, List.length_singleton]
    omega
  simp only [sessionFront, List.length_append, List.length_cons, List.length_nil, sub, name, issued]
  omega

/-- The first 27 bytes of a payload of `getTokens`. -/
theorem take_payload_session {claims : JwtClaims} {userId : UserId} {username : Text}
    (body : claims.toTokenBody = sessionBody userId username) :
    (utf8 claims.payload).take 27 =
        (utf8 (sessionFront userId username ++ [COLON])).take 27 ∧
      27 ≤ (utf8 claims.payload).length := by
  rcases payload_session body with ⟨rest, split⟩
  have long : 27 ≤ (utf8 (sessionFront userId username ++ [COLON])).length :=
    Nat.le_trans (Nat.le_trans (by decide) (sessionFront_length userId username))
      (length_le_utf8 _)
  rw [split, utf8_append _ rest (show isLeadingSurrogate COLON = false by decide)]
  refine ⟨List.take_append_of_le_length long, ?_⟩
  rw [List.length_append]
  omega

theorem header_length : (base64url (utf8 header)).length = 36 := by decide +kernel

/-- Of a token with a long enough payload, bcrypt reads the header and 35
characters of the payload. -/
theorem Token.take_toBytes {token : Token} (long : 27 ≤ (utf8 token.claims.payload).length) :
    token.toBytes.take BCRYPT_LIMIT = base64url (utf8 header) ++ FULL_STOP_BYTE ::
      ((base64url (utf8 token.claims.payload)).take (4 * 9)).take 35 := by
  have encoded := take_base64url 9 ((utf8 token.claims.payload).take 27)
    ((utf8 token.claims.payload).drop 27) (List.length_take_of_le long)
  rw [List.take_append_drop] at encoded
  have enough : 35 ≤ (base64url (utf8 token.claims.payload)).length := by
    rw [encoded.1, List.length_append, encoded.2]
    omega
  rw [toBytes, BCRYPT_LIMIT, show 72 = (base64url (utf8 header)).length + 36 by rw [header_length],
    List.take_length_add_append, List.take_succ_cons, List.take_append_of_le_length enough,
    List.take_take]
  rfl

/-- To bcrypt, all tokens of one user under one name are the same. -/
theorem compare_session {stored presented : Token} {userId : UserId} {username : Text}
    (storedBody : stored.claims.toTokenBody = sessionBody userId username)
    (presentedBody : presented.claims.toTokenBody = sessionBody userId username) :
    (⟨stored⟩ : BcryptHash).compare presented.toBytes = true := by
  rcases take_payload_session storedBody with ⟨one, oneLong⟩
  rcases take_payload_session presentedBody with ⟨other, otherLong⟩
  rw [BcryptHash.compare, beq_iff_eq, Token.take_toBytes otherLong, Token.take_toBytes oneLong,
    @take_base64url_congr 9 _ _ otherLong oneLong (other.trans one.symm)]

end GitMate.Auth
