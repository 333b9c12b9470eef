/-
  File:      Brackets/Accounts/Tables.lean
  Subject:   Users, clubs and who has access to which: `sql/users.py`, `sql/clubs.py`,
             `utils/security.py`.

  * `Libraries`: what the program takes from packages (addresses, password hashes, signatures);
    `Libraries.Lawful` is what it relies on.
  * `Site`: the tables of the accounts beside the tournament database.
  * The statements. Deleting a club takes the rows of `users_x_clubs` with it; a club that still has
    tournaments cannot be deleted.
-/
import Brackets.Library.Text
import Brackets.Routes.Api

namespace Brackets

open Library

abbrev UserId := Int

/-! ## 1. Packages -/

/-- The claims of an access token. -/
structure Claims where
  sub : String
  aud : String
  exp : Int
  iat : Int
  iss : String
  nbf : Int
  type : String
  authHash : String
  deriving DecidableEq, Repr

/-- What `zxcvbn` says of a password. -/
structure Strength where
  score : Nat
  warning : String
  suggestions : List String

structure Libraries where
  /-- `validate_email`: the normalized address, none if it is refused -/
  validateEmail : String → Option String
  /-- `str.lower` -/
  lower : String → String
  /-- `LOWER` of the database -/
  sqlLower : String → String
  zxcvbn : String → List String → Strength
  /-- `password_hash.hash`, with the salt it draws -/
  hash : Nat → String → String
  /-- `password_hash.verify_and_update`, with the salt it draws for a new hash -/
  verifyAndUpdate : Nat → String → String → Bool × Option String
  /-- `hmac.new(key, message, sha256).hexdigest()` -/
  hmac : String → String → String
  /-- `jwt.encode` with a secret -/
  sign : String → Claims → String
  /-- the claims of a token whose signature is right for the secret -/
  signed : String → String → Option Claims

namespace Libraries

variable (L : Libraries)

def normalizeEmail (email : String) : Outcome String :=
  match L.validateEmail (String.ofList (Text.strip email.toList)) with
  | some address => .ok (L.lower address)
  | none => .error (.crash .valueError)

/-- A hash that the salt goes into. -/
def Salted (salt : Nat) (hash : String) : Prop :=
  (∃ password, L.hash salt password = hash) ∨
    ∃ password old, L.verifyAndUpdate salt password old = (true, some hash)

/-- The packages as they are documented. -/
structure Lawful : Prop where
  /-- A normalized address is its own normal form, also to the database. -/
  normal : ∀ email address, L.normalizeEmail email = .ok address →
    L.normalizeEmail address = .ok address ∧ L.sqlLower address = address
  /-- A new hash is verified by its password and up to date. -/
  verified : ∀ salt password hash, L.hash salt password = hash ∨
    (∃ old, L.verifyAndUpdate salt password old = (true, some hash)) →
    ∀ salt', L.verifyAndUpdate salt' password hash = (true, none)
  /-- A hash holds its salt. -/
  salted : ∀ salt salt' hash, L.Salted salt hash → L.Salted salt' hash → salt = salt'
  /-- The codes are ideal: different messages have different ones. -/
  hmac : ∀ key message message', L.hmac key message = L.hmac key message' → message = message'
  /-- A signed token is read back. -/
  signed : ∀ secret claims, L.signed secret (L.sign secret claims) = some claims

end Libraries

def passwordMinLength : Nat := 12

def passwordMaxLength : Nat := 72

/-- `validate_password_strength`: the password, or the text of the `ValueError`. -/
def validatePasswordStrength (L : Libraries) (password : String)
    (disallowedValues : List String) : Except String String :=
  if String.ofList (Text.strip password.toList) != password then
    .error "Password must not start or end with whitespace"
  else if password.length < passwordMinLength then
    .error "Password must be at least 12 characters long"
  else if password.length > passwordMaxLength then
    .error "Password must be at most 72 characters long"
  else
    let strength := L.zxcvbn password
      (disallowedValues.filter fun value => !(Text.strip value.toList).isEmpty)
    if strength.score < 3 then
      let feedback := " ".intercalate
        ((strength.warning :: strength.suggestions).filter (· != ""))
      .error (if feedback = "" then "Password is too easy to guess" else feedback)
    else .ok password

/-! ## 2. Rows -/

inductive UserAccountType where
  | regular
  deriving DecidableEq, Repr

inductive UserXClubRelation where
  | owner
  | collaborator
  deriving DecidableEq, Repr

structure UserRow where
  id : UserId
  email : String
  name : String
  passwordHash : String
  created : DateTime
  accountType : UserAccountType
  deriving DecidableEq, Repr

structure ClubRow where
  id : ClubId
  name : String
  created : DateTime
  deriving DecidableEq, Repr

/-- A user's access to a club. -/
structure UserXClubRow where
  id : Int
  clubId : ClubId
  userId : UserId
  relation : UserXClubRelation
  deriving DecidableEq, Repr

instance : Keyed UserRow := ⟨UserRow.id⟩
instance : Keyed ClubRow := ⟨ClubRow.id⟩
instance : Keyed UserXClubRow := ⟨UserXClubRow.id⟩

@[simp] theorem key_user (r : UserRow) : key r = r.id := rfl
@[simp] theorem key_club (r : ClubRow) : key r = r.id := rfl
@[simp] theorem key_userXClub (r : UserXClubRow) : key r = r.id := rfl

/-- What the API shows of a user: everything but the hash. -/
structure UserPublic where
  id : UserId
  email : String
  name : String
  created : DateTime
  accountType : UserAccountType
  deriving DecidableEq, Repr

def UserRow.public (u : UserRow) : UserPublic := ⟨u.id, u.email, u.name, u.created, u.accountType⟩

/-- Everything that is stored. -/
structure Site where
  users : Table UserRow
  clubs : Table ClubRow
  usersXClubs : Table UserXClubRow
  db : Database

def Site.empty : Site := ⟨.empty, .empty, .empty, .empty⟩

/-! ## 3. Users -/

section Users

variable (L : Libraries) (site : Site)

/-- The constraints `ix_users_email` and `ix_users_email_lower`. -/
def emailsUnique (users : Table UserRow) : Bool :=
  noTwoAgree (fun u => some (L.sqlLower u.email)) users.rows

/-- A statement on the users that has to keep the addresses apart. -/
def writeUsers (users : Table UserRow) : Outcome Site :=
  if emailsUnique L users then .ok { site with users := users }
  else .error (.crash .integrityError)

def getUserAccessToTournament (tid : TournamentId) (userId : UserId) : Bool :=
  site.usersXClubs.rows.any fun x =>
    x.userId == userId && site.db.tournaments.rows.any fun t => t.clubId == x.clubId && t.id == tid

def getWhichClubsHasUserAccessTo (userId : UserId) : List ClubId :=
  (site.usersXClubs.rows.filter (·.userId == userId)).map (·.clubId)

def getUserAccessToClub (clubId : ClubId) (userId : UserId) : Bool :=
  site.usersXClubs.rows.any fun x => x.userId == userId && x.clubId == clubId

def updateUser (userId : UserId) (name email : String) : Outcome Site := do
  let email ← L.normalizeEmail email
  writeUsers L site
    (site.users.update (·.id == userId) (fun u => { u with name := name, email := email })
      fun _ => rfl)

def updateUserPassword (userId : UserId) (passwordHash : String) : Site :=
  { site with
    users := site.users.update (·.id == userId) (fun u => { u with passwordHash := passwordHash })
      fun _ => rfl }

def getUserById (userId : UserId) : Option UserPublic := (site.users.find? userId).map (·.public)

/-- `create_user`: the new id and the site with the user. -/
def createUser (now : DateTime) (email name passwordHash : String) : Outcome (UserId × Site) := do
  let email ← L.normalizeEmail email
  let site' ← writeUsers L site
    (site.users.insert (fun k => ⟨k, email, name, passwordHash, now, .regular⟩) fun _ => rfl)
  .ok (site.users.next, site')

def checkWhetherEmailIsInUse (email : String) : Outcome Bool := do
  let email ← L.normalizeEmail email
  .ok (site.users.rows.any fun u => L.sqlLower u.email == L.sqlLower email)

def getUser (email : String) : Outcome (Option UserRow) := do
  let email ← L.normalizeEmail email
  .ok (site.users.rows.find? fun u => L.sqlLower u.email == email)

def getUserInDb (userId : UserId) : Option UserRow := site.users.find? userId

end Users

/-! ## 4. Clubs -/

section Clubs

variable (site : Site)

/-- A statement on the clubs that has to keep the names apart: `ix_clubs_name`. -/
def writeClubs (clubs : Table ClubRow) : Outcome Site :=
  if noTwoAgree (fun c => some c.name) clubs.rows then .ok { site with clubs := clubs }
  else .error (.crash .integrityError)

def sqlGiveUserAccessToClub (userId : UserId) (clubId : ClubId) : Site :=
  { site with
    usersXClubs := site.usersXClubs.insert (fun k => ⟨k, clubId, userId, .owner⟩) fun _ => rfl }

def createClub (now : DateTime) (name : String) (userId : UserId) : Outcome Site := do
  let site' ← writeClubs site (site.clubs.insert (fun k => ⟨k, name, now⟩) fun _ => rfl)
  .ok (sqlGiveUserAccessToClub site' userId site.clubs.next)

def sqlUpdateClub (clubId : ClubId) (name : String) : Outcome Site :=
  writeClubs site
    (site.clubs.update (·.id == clubId) (fun c => { c with name := name }) fun _ => rfl)

/-- DELETE FROM clubs; `tournaments_club_id_fkey` keeps a club with tournaments, and the access to
    the club goes with it. -/
def sqlDeleteClub (clubId : ClubId) : Outcome Site :=
  if site.db.tournaments.rows.any (·.clubId == clubId) && (site.clubs.find? clubId).isSome then
    .error (.crash .integrityError)
  else .ok { site with
    clubs := site.clubs.delete (·.id == clubId)
    usersXClubs := site.usersXClubs.delete (·.clubId == clubId) }

def getClubsForUserId (userId : UserId) : List ClubRow :=
  (site.usersXClubs.rows.filter (·.userId == userId)).filterMap fun x => site.clubs.find? x.clubId

end Clubs

end Brackets
