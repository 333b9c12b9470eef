/-
  File:      Brackets/Accounts/Requests.lean
  Subject:   `routes/users.py`, `routes/clubs.py`, and the requests for tournaments as they arrive.

  `Backend.serve` is one request: a state-changing request that is signed in with the cookie has to
  send the CSRF header, logins, registrations and new passwords are limited per address, the route
  asks who may do what, and a request that fails leaves what is stored as it was. Visits and failed
  logins are counted outside of the database, so their counts stay.
  `Backend.run` is any sequence of requests.
-/
import Brackets.Accounts.Auth

namespace Brackets

open Library

/-! ## 1. Bodies -/

/-- A registration that passed its validation. -/
structure UserToRegister (L : Libraries) where
  email : String
  name : String
  password : String
  email_normal : ∃ address, L.normalizeEmail address = .ok email
  password_strong : validatePasswordStrength L password [email, name] = .ok password

structure UserToUpdate (L : Libraries) where
  email : String
  name : String
  email_normal : ∃ address, L.normalizeEmail address = .ok email

structure UserPasswordToUpdate where
  currentPassword : String
  password : String
  password_length : passwordMinLength ≤ password.length ∧ password.length ≤ passwordMaxLength

/-! ## 2. The routes -/

section Routes

variable (L : Libraries) (cfg : Config) (site : Site) (now : DateTime) (salt : Nat)
  (headers : Headers)

def checkIsSameUser (userPublic : UserPublic) (userId : UserId) : Outcome Unit :=
  require (userPublic.id == userId) (forbidden "You can only manage your own account")

def updateUserDetails (userId : UserId) (body : UserToUpdate L) : Outcome Site := do
  let userPublic ← userAuthenticated L cfg site now headers
  checkIsSameUser userPublic userId
  let site ← checkViolation (updateUser L site userPublic.id body.name body.email)
    "This email is already taken"
  let _ ← orRaise (getUserById site userId) (.crash .assertionError)
  .ok site

def putUserPassword (userId : UserId) (body : UserPasswordToUpdate) : Outcome (Site × Token) := do
  let userPublic ← userAuthenticated L cfg site now headers
  checkIsSameUser userPublic userId
  let user ← orRaise (getUserInDb site userPublic.id) (.crash .assertionError)
  require (L.verifyAndUpdate salt body.currentPassword user.passwordHash).1
    (badRequest "The current password is incorrect")
  match validatePasswordStrength L body.password [user.email, user.name] with
  | .error text => .error (.http 422 text)
  | .ok _ =>
    let passwordHash := L.hash salt body.password
    .ok (updateUserPassword site user.id passwordHash,
      issueToken L cfg now user.id user.name passwordHash)

def registerUser (body : UserToRegister L) : Outcome (Site × Token) := do
  require cfg.allowUserRegistration (forbidden "Account creation is unavailable for now")
  let email ← L.normalizeEmail body.email
  let passwordHash := L.hash salt body.password
  let inUse ← checkWhetherEmailIsInUse L site email
  require (!inUse) (badRequest "Email address already in use")
  let (userId, site) ← checkViolation (createUser L site now email body.name passwordHash)
    "This email is already taken"
  .ok (site, issueToken L cfg now userId body.name passwordHash)

/-- `max_clubs` of the one subscription. -/
def maxClubs : Nat := 32

def createNewClub (name : String) : Outcome Site := do
  let user ← userAuthenticated L cfg site now headers
  checkRequirement (getClubsForUserId site user.id).length maxClubs "events"
  checkViolation (createClub site now name user.id) "This event name is already taken"

def deleteClub (clubId : ClubId) : Outcome Site := do
  let _ ← userAuthenticatedForClub L cfg site now headers clubId
  checkViolation (sqlDeleteClub site clubId)
    "This event still has tournaments, delete those first"

def updateClub (clubId : ClubId) (name : String) : Outcome Site := do
  let _ ← userAuthenticatedForClub L cfg site now headers clubId
  checkViolation (sqlUpdateClub site clubId name) "This event name is already taken"

/-- A request for a tournament, or a new tournament. -/
def handleCall (env : Environment) (call : Call) : Outcome Site := do
  match call with
  | .createTournament body =>
    let user ← userAuthenticated L cfg site env.now headers
    require (getUserAccessToClub site body.clubId user.id) (forbidden "Club ID is invalid")
  | .request tid _ =>
    let _ ← userAuthenticatedForTournament L cfg site env.now headers tid
  let db ← call.handle env site.db
  .ok { site with db := db }

end Routes

/-! ## 3. Requests as they arrive -/

/-- A state-changing request. -/
inductive SiteRequest (L : Libraries) where
  | loginForAccessToken (username password : String)
  | logout
  | registerUser (body : UserToRegister L)
  | updateUserDetails (userId : UserId) (body : UserToUpdate L)
  | putUserPassword (userId : UserId) (body : UserPasswordToUpdate)
  | createNewClub (name : String)
  | deleteClub (clubId : ClubId)
  | updateClub (clubId : ClubId) (name : String)
  | call (call : Call)

/-- A request with its head, and what the program takes from outside while it serves it. -/
structure Arrival (L : Libraries) where
  env : Environment
  salt : Nat
  /-- `get_remote_address` -/
  address : String
  headers : Headers
  request : SiteRequest L

abbrev Arrival.now {L : Libraries} (a : Arrival L) : DateTime := a.env.now

/-- A stored site, and what the limiters have counted. -/
structure Backend (F : Type) where
  site : Site
  counters : F

section Serve

variable (L : Libraries) (cfg : Config) {F : Type} (lim : SiteLimiter F)

/-- Every request but a login: the site after it, and the token if it signs in. -/
def Arrival.handle (a : Arrival L) (site : Site) : Outcome (Site × Option Token) :=
  match a.request with
  | .loginForAccessToken _ _ => .ok (site, none)
  | .logout => .ok (site, none)
  | .registerUser body => do
    let (site, token) ← Brackets.registerUser L cfg site a.now a.salt body
    .ok (site, some token)
  | .updateUserDetails userId body => do
    let site ← Brackets.updateUserDetails L cfg site a.now a.headers userId body
    .ok (site, none)
  | .putUserPassword userId body => do
    let (site, token) ← Brackets.putUserPassword L cfg site a.now a.salt a.headers userId body
    .ok (site, some token)
  | .createNewClub name => do
    let site ← Brackets.createNewClub L cfg site a.now a.headers name
    .ok (site, none)
  | .deleteClub clubId => do
    let site ← Brackets.deleteClub L cfg site a.now a.headers clubId
    .ok (site, none)
  | .updateClub clubId name => do
    let site ← Brackets.updateClub L cfg site a.now a.headers clubId name
    .ok (site, none)
  | .call call => do
    let site ← handleCall L cfg site a.headers a.env call
    .ok (site, none)

/-- The answer, and the backend with what the request left. -/
def Backend.respond (b : Backend F) (answer : Outcome (Site × Option Token)) (counters : F) :
    Outcome (Option Token) × Backend F :=
  match answer with
  | .ok (site, token) => (.ok token, ⟨site, counters⟩)
  | .error e => (.error e, ⟨b.site, counters⟩)

/-- The limit that the request meets. That of a new password comes after the dependencies of the
    route, so only requests that are signed in meet it. -/
def Arrival.limit (a : Arrival L) (site : Site) : Option RouteLimit :=
  match a.request with
  | .loginForAccessToken _ _ => some .loginForAccessToken
  | .registerUser _ => some .registerUser
  | .putUserPassword _ _ =>
    if (signedInUser L cfg site a.now a.headers).isSome then some .putUserPassword else none
  | _ => none

/-- The route counts the request, and refuses it beyond its limit. -/
def Backend.visit (b : Backend F) (a : Arrival L) : Outcome Unit × F :=
  match a.limit L cfg b.site with
  | none => (.ok (), b.counters)
  | some limit =>
    let (allowed, counters) := lim.visit b.counters a.now limit a.address
    (require allowed limit.exceeded, counters)

/-- What the route does with a request that its limit lets in. -/
def Backend.answer (b : Backend F) (a : Arrival L) (counters : F) :
    Outcome (Option Token) × Backend F :=
  match a.request with
  | .loginForAccessToken username password =>
    let answer := Brackets.loginForAccessToken L cfg lim.toLockoutLimiter b.site counters a.now a.salt
      username password
    b.respond (answer.1.map fun x => (x.1, some x.2)) answer.2
  | _ => b.respond (a.handle L cfg b.site) counters

def Backend.serve (b : Backend F) (a : Arrival L) : Outcome (Option Token) × Backend F :=
  match protectSessionFromCsrf a.headers with
  | .error e => (.error e, b)
  | .ok () =>
    match b.visit L cfg lim a with
    | (.error e, counters) => (.error e, ⟨b.site, counters⟩)
    | (.ok (), counters) => b.answer L cfg lim a counters

/-- The requests one after the other. -/
def Backend.run (b : Backend F) (arrivals : List (Arrival L)) : Backend F :=
  arrivals.foldl (fun b a => (b.serve L cfg lim a).2) b

/-- The requests one after the other, from an empty site. -/
def reached (counters : F) (arrivals : List (Arrival L)) : Backend F :=
  Backend.run L cfg lim ⟨.empty, counters⟩ arrivals

theorem reached_append (counters : F) (before after : List (Arrival L)) :
    reached L cfg lim counters (before ++ after) =
      Backend.run L cfg lim (reached L cfg lim counters before) after := List.foldl_append

theorem reached_concat (counters : F) (before : List (Arrival L)) (a : Arrival L) :
    reached L cfg lim counters (before ++ [a]) =
      ((reached L cfg lim counters before).serve L cfg lim a).2 := List.foldl_append

end Serve

end Brackets
