/-
  File:      Brackets/Accounts/Auth.lean
  Subject:   `routes/auth.py`: tokens, signing in, and who may do what.

  A token is signed with the secret of the configuration and carries the id of its user and a code
  of the user's password hash (`createAccessToken`). It counts as long as its times allow and the
  stored hash still has that code (`checkJwtAndGetUser`).
-/
import Brackets.Accounts.Tables
import Brackets.Library.Windows

namespace Brackets

open Library

/-! ## 1. Tokens -/

structure Config where
  jwtSecret : String
  jwtAudience : String
  jwtIssuer : String
  accessTokenExpireMinutes : Int
  allowUserRegistration : Bool
  expire_ge : 5 ≤ accessTokenExpireMinutes

/-- `Token`: what a sign-in answers; the session cookie is the same token. -/
structure Token where
  accessToken : String
  userId : UserId
  name : String
  deriving DecidableEq, Repr

/-- The part of a request's head that says who asks. -/
structure Headers where
  /-- `Authorization`, split into scheme and parameters -/
  authorization : Option (String × String) := none
  /-- the session cookie -/
  cookie : Option String := none
  /-- `X-Requested-With` -/
  csrf : Option String := none

def unauthorized (detail : String) : Failure := .http 401 detail

def couldNotValidate : Failure := unauthorized "Could not validate credentials"

def forbidden (detail : String) : Failure := .http 403 detail

/-- A time in whole seconds, as tokens have it. -/
def DateTime.seconds (t : DateTime) : Int := t / 1000000

section Tokens

variable (L : Libraries) (cfg : Config)

/-- `protect_session_from_csrf`, for a method that is not safe. -/
def protectSessionFromCsrf (headers : Headers) : Outcome Unit :=
  if headers.cookie.isSome && headers.authorization.isNone &&
      headers.csrf != some "XMLHttpRequest" then
    .error (forbidden "Requests signed in with the session cookie need the X-Requested-With header")
  else .ok ()

def getAuthHash (passwordHash : String) : String := L.hmac cfg.jwtSecret passwordHash

/-- The claims of a token that is issued at a time. -/
def issuedClaims (now : DateTime) (userId : UserId) (passwordHash : String) : Claims where
  sub := userId.repr
  aud := cfg.jwtAudience
  exp := DateTime.seconds (now + timedelta cfg.accessTokenExpireMinutes)
  iat := DateTime.seconds now
  iss := cfg.jwtIssuer
  nbf := DateTime.seconds now
  type := "access"
  authHash := getAuthHash L cfg passwordHash

def createAccessToken (now : DateTime) (userId : UserId) (passwordHash : String) : String :=
  L.sign cfg.jwtSecret (issuedClaims L cfg now userId passwordHash)

def issueToken (now : DateTime) (userId : UserId) (name passwordHash : String) : Token :=
  ⟨createAccessToken L cfg now userId passwordHash, userId, name⟩

/-- The scheme is compared without case, and an empty token is none. -/
def getToken (headers : Headers) : Option String :=
  let bearer := headers.authorization.bind fun a =>
    if a.1.toLower = "bearer" then some a.2 else none
  (bearer.filter (· ≠ "")).or (headers.cookie.filter (· ≠ ""))

/-- The times, the audience and the issuer that `jwt.decode` asks for. -/
structure Claims.Current (now : DateTime) (c : Claims) : Prop where
  issued : c.iat * 1000000 ≤ now
  begun : c.nbf * 1000000 ≤ now
  notOver : now < c.exp * 1000000
  audience : c.aud = cfg.jwtAudience
  issuer : c.iss = cfg.jwtIssuer

instance (now : DateTime) (c : Claims) : Decidable (c.Current cfg now) :=
  decidable_of_iff (c.iat * 1000000 ≤ now ∧ c.nbf * 1000000 ≤ now ∧ now < c.exp * 1000000 ∧
      c.aud = cfg.jwtAudience ∧ c.iss = cfg.jwtIssuer)
    ⟨fun ⟨h1, h2, h3, h4, h5⟩ => ⟨h1, h2, h3, h4, h5⟩, fun ⟨h1, h2, h3, h4, h5⟩ =>
      ⟨h1, h2, h3, h4, h5⟩⟩

/-- `jwt.decode`; none for an `InvalidTokenError`. -/
def jwtDecode (now : DateTime) (token : String) : Option Claims :=
  (L.signed cfg.jwtSecret token).filter fun c => c.Current cfg now

def checkJwtAndGetUser (site : Site) (now : DateTime) (token : String) : Option UserPublic := do
  let payload ← jwtDecode L cfg now token
  let userId ← payload.sub.toInt?
  if payload.type ≠ "access" then none
  else
    let user ← getUserInDb site userId
    if payload.authHash ≠ getAuthHash L cfg user.passwordHash then none else some user.public

/-- The user whose token comes with the request. -/
def signedInUser (site : Site) (now : DateTime) (headers : Headers) : Option UserPublic :=
  (getToken headers).bind (checkJwtAndGetUser L cfg site now)

def userAuthenticated (site : Site) (now : DateTime) (headers : Headers) : Outcome UserPublic :=
  orRaise (signedInUser L cfg site now headers) couldNotValidate

def userAuthenticatedForTournament (site : Site) (now : DateTime) (headers : Headers)
    (tid : TournamentId) : Outcome UserPublic :=
  orRaise ((signedInUser L cfg site now headers).filter fun user =>
    getUserAccessToTournament site tid user.id) couldNotValidate

def userAuthenticatedForClub (site : Site) (now : DateTime) (headers : Headers)
    (clubId : ClubId) : Outcome UserPublic :=
  orRaise ((signedInUser L cfg site now headers).filter fun user =>
    getUserAccessToClub site clubId user.id) couldNotValidate

end Tokens

/-! ## 2. Signing in -/

/-- The `FixedWindowRateLimiter` of an account lockout, on a storage `F`. -/
structure LockoutLimiter (F : Type) where
  /-- `get_window_stats`: what is left in the window of an identifier, and when it is reset -/
  getWindowStats : F → DateTime → String → Nat × DateTime
  /-- `hit`: whether the limit still allows it -/
  hit : F → DateTime → String → Bool × F
  /-- `storage.clear` -/
  clear : F → String → F

/-- The hits of `ACCOUNT_LOCKOUT_LIMIT`. -/
def accountLockoutLimit : Nat := 5

/-- Its window: `RateLimitItemPerMinute(5, 15)`. -/
def accountLockoutWindow : Int := timedelta 15

/-- The routes with a limit per address. -/
inductive RouteLimit where
  | loginForAccessToken
  | putUserPassword
  | registerUser
  deriving DecidableEq, Repr

/-- `@limiter.limit("10/5minutes")` and `@limiter.limit("5/15minutes")`: the requests. -/
def RouteLimit.amount : RouteLimit → Nat
  | .loginForAccessToken => 10
  | .putUserPassword => 10
  | .registerUser => 5

/-- Their minutes. -/
def RouteLimit.minutes : RouteLimit → Nat
  | .loginForAccessToken => 5
  | .putUserPassword => 5
  | .registerUser => 15

/-- The answer to one request more, which does not reach the body of the route. -/
def RouteLimit.exceeded (limit : RouteLimit) : Failure :=
  .http 429 ("Rate limit exceeded: " ++ toString limit.amount ++ " per " ++
    toString limit.minutes ++ " minute")

/-- The lockouts of the accounts, and the `Limiter` of the routes. Each has a storage of its own, so
    a visit leaves the windows of the accounts alone. -/
structure SiteLimiter (F : Type) extends LockoutLimiter F where
  /-- `limiter.limit`: whether the route still serves the address -/
  visit : F → DateTime → RouteLimit → String → Bool × F
  visit_apart : ∀ counters now limit address now' k,
    getWindowStats (visit counters now limit address).2 now' k = getWindowStats counters now' k

/-- The limiter keeps fixed windows. -/
structure LockoutLimiter.Lawful {F : Type} (lim : LockoutLimiter F) (windows : F → Windows String) :
    Prop where
  getWindowStats : ∀ failures now k, (lim.getWindowStats failures now k).1 =
    accountLockoutLimit - Window.hitsAt (windows failures k) now
  hit : ∀ failures now k, (lim.hit failures now k).1 =
      decide (Window.hitsAt (windows failures k) now + 1 ≤ accountLockoutLimit) ∧
    windows (lim.hit failures now k).2 = (windows failures).hit accountLockoutWindow now k
  clear : ∀ failures k, windows (lim.clear failures k) = (windows failures).clear k

section Login

variable (L : Libraries) (cfg : Config) {F : Type} (lim : LockoutLimiter F)

/-- The seconds until the account is unlocked; none if it is not locked. -/
def getAccountLockoutRetryAfter (failures : F) (now : DateTime) (identifier : String) :
    Option Int :=
  let stats := lim.getWindowStats failures now identifier
  if 0 < stats.1 then none else some (max 1 (-((now - stats.2) / 1000000)))

def recordAccountFailure (failures : F) (now : DateTime) (identifier : String) :
    Option Int × F :=
  let (allowed, failures) := lim.hit failures now identifier
  (if allowed then none else getAccountLockoutRetryAfter lim failures now identifier, failures)

/-- The user, if address and password are right; an outdated hash is replaced. -/
def authenticateUser (site : Site) (salt : Nat) (email password : String) :
    Outcome (Option (UserRow × Site)) :=
  match L.normalizeEmail email with
  | .error _ => .ok none
  | .ok normalizedEmail => do
    match ← getUser L site normalizedEmail with
    | none => .ok none
    | some user =>
      let (isValid, updatedHash) := L.verifyAndUpdate salt password user.passwordHash
      if isValid then
        match updatedHash with
        | some hash =>
          .ok (some ({ user with passwordHash := hash }, updateUserPassword site user.id hash))
        | none => .ok (some (user, site))
      else .ok none

/-- The name under which failures are counted. -/
def loginIdentifier (username : String) : String :=
  match L.normalizeEmail username with
  | .ok email => email
  | .error _ => L.lower (String.ofList (Text.strip username.toList))

/-- The first half of `login_for_access_token`: a locked account is refused. -/
def checkLockout (failures : F) (now : DateTime) (username : String) : Outcome Unit :=
  match getAccountLockoutRetryAfter lim failures now (loginIdentifier L username) with
  | some _ =>
    .error (.http 429 "This account is temporarily locked after repeated failed login attempts")
  | none => .ok ()

/-- The second half: the password is checked, and a failure is recorded. -/
def attemptLogin (site : Site) (failures : F) (now : DateTime) (salt : Nat)
    (username password : String) : Outcome (Site × Token) × F :=
  match authenticateUser L site salt username password with
  | .error e => (.error e, failures)
  | .ok none =>
    let (retryAfter, failures) := recordAccountFailure lim failures now (loginIdentifier L username)
    match retryAfter with
    | some _ => (.error (.http 429 "Incorrect email or password"), failures)
    | none => (.error (unauthorized "Incorrect email or password"), failures)
  | .ok (some (user, site)) =>
    (.ok (site, issueToken L cfg now user.id user.name user.passwordHash),
      lim.clear failures (loginIdentifier L username))

/-- The body of the route. -/
def loginForAccessToken (site : Site) (failures : F) (now : DateTime) (salt : Nat)
    (username password : String) : Outcome (Site × Token) × F :=
  match checkLockout L lim failures now username with
  | .error e => (.error e, failures)
  | .ok () => attemptLogin L cfg lim site failures now salt username password

end Login

end Brackets
