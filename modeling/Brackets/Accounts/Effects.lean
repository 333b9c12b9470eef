/-
  File:      Brackets/Accounts/Effects.lean
  Subject:   What one request does to the site.

  `Arrival.Effect` lists the ways a request leaves the site, each with what the route has checked;
  `Backend.serve_effect`: every request does one of them. What holds of accounts, access and
  tournaments over a run is read off these cases.
-/
import Brackets.Accounts.Requests

namespace Brackets

open Library

section Effect

variable {L : Libraries} {cfg : Config} {F : Type} {lim : SiteLimiter F}

theorem checkViolation_eq_ok {α : Type} {x : Outcome α} {detail : String} {a : α} :
    checkViolation x detail = .ok a ↔ x = .ok a := by
  unfold checkViolation
  split
  · constructor <;> intro h <;> cases h
  · exact Iff.rfl

/-- The signed-in user of the request. -/
def Arrival.user (cfg : Config) (a : Arrival L) (site : Site) : Option UserPublic :=
  signedInUser L cfg site a.now a.headers

/-- The token that a request answers. -/
def answeredToken : Outcome (Option Token) → Option Token
  | .ok token => token
  | .error _ => none

/-- The site after a request, and the token it answers. -/
inductive Arrival.Effect (cfg : Config) (a : Arrival L) (site : Site) : Site → Option Token → Prop
  | nothing : Effect cfg a site site none
  | login {user : UserRow} {username password : String}
      (request : a.request = .loginForAccessToken username password)
      (found : getUser L site username = .ok (some user))
      (right : L.verifyAndUpdate a.salt password user.passwordHash = (true, none)) :
      Effect cfg a site site (some (issueToken L cfg a.now user.id user.name user.passwordHash))
  | rehash {user : UserRow} {username password hash : String}
      (request : a.request = .loginForAccessToken username password)
      (found : getUser L site username = .ok (some user))
      (right : L.verifyAndUpdate a.salt password user.passwordHash = (true, some hash)) :
      Effect cfg a site (updateUserPassword site user.id hash)
        (some (issueToken L cfg a.now user.id user.name hash))
  | register {body : UserToRegister L} {site' : Site} (request : a.request = .registerUser body)
      (stored : createUser L site a.now body.email body.name (L.hash a.salt body.password) =
        .ok (site.users.next, site')) :
      Effect cfg a site site' (some (issueToken L cfg a.now site.users.next body.name
        (L.hash a.salt body.password)))
  | details {user : UserPublic} {body : UserToUpdate L} {site' : Site}
      (request : a.request = .updateUserDetails user.id body)
      (signed : a.user cfg site = some user)
      (stored : updateUser L site user.id body.name body.email = .ok site') :
      Effect cfg a site site' none
  | password {user : UserPublic} {row : UserRow} {body : UserPasswordToUpdate}
      (request : a.request = .putUserPassword user.id body)
      (signed : a.user cfg site = some user) (found : site.users.find? user.id = some row)
      (right : (L.verifyAndUpdate a.salt body.currentPassword row.passwordHash).1 = true)
      (strong : ∃ p, validatePasswordStrength L body.password [row.email, row.name] = .ok p) :
      Effect cfg a site (updateUserPassword site row.id (L.hash a.salt body.password))
        (some (issueToken L cfg a.now row.id row.name (L.hash a.salt body.password)))
  | newClub {user : UserPublic} {name : String} {site' : Site}
      (request : a.request = .createNewClub name) (signed : a.user cfg site = some user)
      (few : (getClubsForUserId site user.id).length < maxClubs)
      (stored : createClub site a.now name user.id = .ok site') : Effect cfg a site site' none
  | noClub {user : UserPublic} {clubId : ClubId} {site' : Site}
      (request : a.request = .deleteClub clubId) (signed : a.user cfg site = some user)
      (access : getUserAccessToClub site clubId user.id = true)
      (stored : sqlDeleteClub site clubId = .ok site') : Effect cfg a site site' none
  | renameClub {user : UserPublic} {clubId : ClubId} {name : String} {site' : Site}
      (request : a.request = .updateClub clubId name) (signed : a.user cfg site = some user)
      (access : getUserAccessToClub site clubId user.id = true)
      (stored : sqlUpdateClub site clubId name = .ok site') : Effect cfg a site site' none
  | newTournament {user : UserPublic} {body : TournamentBody} {db : Database}
      (request : a.request = .call (.createTournament body)) (signed : a.user cfg site = some user)
      (access : getUserAccessToClub site body.clubId user.id = true)
      (stored : (Call.createTournament body).handle a.env site.db = .ok db) :
      Effect cfg a site { site with db := db } none
  | tournament {user : UserPublic} {tid : TournamentId} {r : Request} {db : Database}
      (request : a.request = .call (.request tid r)) (signed : a.user cfg site = some user)
      (access : getUserAccessToTournament site tid user.id = true)
      (stored : r.handle a.env site.db tid = .ok db) :
      Effect cfg a site { site with db := db } none

/-! ## 1. The logins -/

theorem authenticateUser_eq_some {site site' : Site} {salt : Nat} {email password : String}
    {user : UserRow} (hL : L.Lawful)
    (h : authenticateUser L site salt email password = .ok (some (user, site'))) :
    ∃ row, getUser L site email = .ok (some row) ∧
      (L.verifyAndUpdate salt password row.passwordHash = (true, none) ∧ user = row ∧
          site' = site ∨
        ∃ hash, L.verifyAndUpdate salt password row.passwordHash = (true, some hash) ∧
          user = { row with passwordHash := hash } ∧
          site' = updateUserPassword site row.id hash) := by
  unfold authenticateUser at h
  split at h
  · cases h
  · next normalized hnormal =>
    have hget : getUser L site normalized = getUser L site email := by
      unfold getUser
      rw [hnormal, (hL.normal _ _ hnormal).1]
    obtain ⟨found, hfound, h⟩ := bind_eq_ok.mp h
    rw [hget] at hfound
    cases found with
    | none => cases h
    | some row =>
      refine ⟨row, hfound, ?_⟩
      cases hv : L.verifyAndUpdate salt password row.passwordHash with
      | mk valid updated =>
        simp only [hv] at h
        cases valid with
        | false => cases h
        | true =>
          cases updated with
          | none =>
            cases h
            exact Or.inl ⟨rfl, rfl, rfl⟩
          | some hash =>
            cases h
            exact Or.inr ⟨hash, rfl, rfl, rfl⟩

theorem loginForAccessToken_ok {lockout : LockoutLimiter F} {site site' : Site} {failures : F}
    {now : DateTime} {salt : Nat} {username password : String} {token : Token}
    (h : (loginForAccessToken L cfg lockout site failures now salt username password).1 =
      .ok (site', token)) :
    ∃ user, authenticateUser L site salt username password = .ok (some (user, site')) ∧
      token = issueToken L cfg now user.id user.name user.passwordHash := by
  unfold loginForAccessToken at h
  split at h
  · cases h
  · unfold attemptLogin at h
    split at h
    · cases h
    · dsimp only at h
      split at h <;> cases h
    · next user site1 hauth =>
      cases h
      exact ⟨user, hauth, rfl⟩

/-! ## 2. The other requests -/

theorem checkJwtAndGetUser_eq_some {site : Site} {now : DateTime} {token : String} {user : UserPublic} :
    checkJwtAndGetUser L cfg site now token = some user ↔
      ∃ c k row, jwtDecode L cfg now token = some c ∧ c.sub.toInt? = some k ∧ c.type = "access" ∧
        site.users.find? k = some row ∧ c.authHash = getAuthHash L cfg row.passwordHash ∧
        row.public = user := by
  unfold checkJwtAndGetUser getUserInDb
  simp only [bind, Option.bind_eq_some_iff]
  constructor
  · rintro ⟨c, hc, k, hk, h⟩
    split at h
    · cases h
    · next htype =>
      obtain ⟨row, hrow, h⟩ := Option.bind_eq_some_iff.mp h
      split at h
      · cases h
      · next hhash =>
        exact ⟨c, k, row, hc, hk, not_not.mp htype, hrow, not_not.mp hhash, Option.some.inj h⟩
  · rintro ⟨c, k, row, hc, hk, htype, hrow, hhash, rfl⟩
    refine ⟨c, hc, k, hk, ?_⟩
    rw [if_neg (not_not.mpr htype), hrow, Option.bind_some, if_neg (not_not.mpr hhash)]

/-- A signed-in user is stored. -/
theorem Arrival.user_stored {a : Arrival L} {site : Site} {user : UserPublic}
    (h : a.user cfg site = some user) : ∃ row, site.users.find? user.id = some row := by
  obtain ⟨token, -, h⟩ := Option.bind_eq_some_iff.mp h
  obtain ⟨c, k, row, -, -, -, hrow, -, rfl⟩ := checkJwtAndGetUser_eq_some.mp h
  have hid : row.id = k := site.users.key_of_find? hrow
  exact ⟨row, (congrArg site.users.find? hid).trans hrow⟩

theorem userAuthenticated_eq_ok {site : Site} {now : DateTime} {headers : Headers}
    {user : UserPublic} : userAuthenticated L cfg site now headers = .ok user ↔
      signedInUser L cfg site now headers = some user := orRaise_eq_ok

theorem userAuthenticatedForTournament_eq_ok {site : Site} {now : DateTime} {headers : Headers}
    {tid : TournamentId} {user : UserPublic} :
    userAuthenticatedForTournament L cfg site now headers tid = .ok user ↔
      signedInUser L cfg site now headers = some user ∧
        getUserAccessToTournament site tid user.id = true := by
  unfold userAuthenticatedForTournament
  rw [orRaise_eq_ok, Option.filter_eq_some_iff]

theorem userAuthenticatedForClub_eq_ok {site : Site} {now : DateTime} {headers : Headers}
    {clubId : ClubId} {user : UserPublic} :
    userAuthenticatedForClub L cfg site now headers clubId = .ok user ↔
      signedInUser L cfg site now headers = some user ∧
        getUserAccessToClub site clubId user.id = true := by
  unfold userAuthenticatedForClub
  rw [orRaise_eq_ok, Option.filter_eq_some_iff]

theorem checkIsSameUser_ok {user : UserPublic} {userId : UserId} {u : Unit}
    (h : checkIsSameUser user userId = .ok u) : user.id = userId :=
  eq_of_beq (require_eq_ok.mp h)

theorem createUser_ok {site site' : Site} {now : DateTime} {email name passwordHash : String}
    {userId : UserId} (h : createUser L site now email name passwordHash = .ok (userId, site')) :
    userId = site.users.next := by
  obtain ⟨_, -, h⟩ := bind_eq_ok.mp h
  obtain ⟨_, -, h⟩ := bind_eq_ok.mp h
  cases h
  rfl

theorem registerUser_ok {site site' : Site} {now : DateTime} {salt : Nat}
    {body : UserToRegister L} {token : Token} (hL : L.Lawful)
    (h : registerUser L cfg site now salt body = .ok (site', token)) :
    createUser L site now body.email body.name (L.hash salt body.password) =
        .ok (site.users.next, site') ∧
      token = issueToken L cfg now site.users.next body.name (L.hash salt body.password) := by
  obtain ⟨_, -, h⟩ := bind_eq_ok.mp h
  obtain ⟨email, hemail, h⟩ := bind_eq_ok.mp h
  obtain ⟨_, -, h⟩ := bind_eq_ok.mp h
  obtain ⟨_, -, h⟩ := bind_eq_ok.mp h
  obtain ⟨⟨userId, site1⟩, hstored, h⟩ := bind_eq_ok.mp h
  cases h
  have hstored := checkViolation_eq_ok.mp hstored
  obtain ⟨address, haddress⟩ := body.email_normal
  rw [(hL.normal _ _ haddress).1] at hemail
  obtain rfl := createUser_ok hstored
  exact ⟨Except.ok.inj hemail ▸ hstored, rfl⟩

theorem updateUserDetails_ok {site site' : Site} {now : DateTime} {headers : Headers}
    {userId : UserId} {body : UserToUpdate L}
    (h : updateUserDetails L cfg site now headers userId body = .ok site') :
    ∃ user, signedInUser L cfg site now headers = some user ∧ user.id = userId ∧
      updateUser L site userId body.name body.email = .ok site' := by
  obtain ⟨user, hsigned, h⟩ := bind_eq_ok.mp h
  obtain ⟨_, hsame, h⟩ := bind_eq_ok.mp h
  obtain ⟨site1, hstored, h⟩ := bind_eq_ok.mp h
  obtain ⟨_, -, h⟩ := bind_eq_ok.mp h
  cases h
  have hid := checkIsSameUser_ok hsame
  exact ⟨user, userAuthenticated_eq_ok.mp hsigned, hid, hid ▸ checkViolation_eq_ok.mp hstored⟩

theorem putUserPassword_ok {site site' : Site} {now : DateTime} {salt : Nat} {headers : Headers}
    {userId : UserId} {body : UserPasswordToUpdate} {token : Token}
    (h : putUserPassword L cfg site now salt headers userId body = .ok (site', token)) :
    ∃ user row, signedInUser L cfg site now headers = some user ∧ user.id = userId ∧
      site.users.find? user.id = some row ∧
      (L.verifyAndUpdate salt body.currentPassword row.passwordHash).1 = true ∧
      (∃ p, validatePasswordStrength L body.password [row.email, row.name] = .ok p) ∧
      site' = updateUserPassword site row.id (L.hash salt body.password) ∧
      token = issueToken L cfg now row.id row.name (L.hash salt body.password) := by
  obtain ⟨user, hsigned, h⟩ := bind_eq_ok.mp h
  obtain ⟨_, hsame, h⟩ := bind_eq_ok.mp h
  obtain ⟨row, hfound, h⟩ := bind_eq_ok.mp h
  obtain ⟨_, hright, h⟩ := bind_eq_ok.mp h
  cases hstrong : validatePasswordStrength L body.password [row.email, row.name] with
  | error text =>
    rw [hstrong] at h
    cases h
  | ok p =>
    rw [hstrong] at h
    cases h
    exact ⟨user, row, userAuthenticated_eq_ok.mp hsigned, checkIsSameUser_ok hsame,
      orRaise_eq_ok.mp hfound, require_eq_ok.mp hright, ⟨p, hstrong⟩, rfl, rfl⟩

theorem createNewClub_ok {site site' : Site} {now : DateTime} {headers : Headers} {name : String}
    (h : createNewClub L cfg site now headers name = .ok site') :
    ∃ user, signedInUser L cfg site now headers = some user ∧
      (getClubsForUserId site user.id).length < maxClubs ∧
      createClub site now name user.id = .ok site' := by
  obtain ⟨user, hsigned, h⟩ := bind_eq_ok.mp h
  obtain ⟨_, hfew, h⟩ := bind_eq_ok.mp h
  refine ⟨user, userAuthenticated_eq_ok.mp hsigned, ?_, checkViolation_eq_ok.mp h⟩
  unfold checkRequirement at hfew
  split at hfew
  · cases hfew
  · omega

theorem handleCall_ok {site site' : Site} {headers : Headers} {env : Environment} {call : Call}
    (h : handleCall L cfg site headers env call = .ok site') :
    ∃ user db, signedInUser L cfg site env.now headers = some user ∧
      (match call with
        | .createTournament body => getUserAccessToClub site body.clubId user.id = true
        | .request tid _ => getUserAccessToTournament site tid user.id = true) ∧
      call.handle env site.db = .ok db ∧ site' = { site with db := db } := by
  cases call with
  | createTournament body =>
    obtain ⟨user, hsigned, h⟩ := bind_eq_ok.mp h
    obtain ⟨_, haccess, h⟩ := bind_eq_ok.mp h
    obtain ⟨db, hstored, h⟩ := bind_eq_ok.mp h
    cases h
    exact ⟨user, db, userAuthenticated_eq_ok.mp hsigned, require_eq_ok.mp haccess, hstored, rfl⟩
  | request tid r =>
    obtain ⟨user, hsigned, h⟩ := bind_eq_ok.mp h
    obtain ⟨db, hstored, h⟩ := bind_eq_ok.mp h
    cases h
    obtain ⟨hsigned, haccess⟩ := userAuthenticatedForTournament_eq_ok.mp hsigned
    exact ⟨user, db, hsigned, haccess, hstored, rfl⟩

/-! ## 3. What the statements leave -/

section Statements

variable {site site' : Site}

theorem writeUsers_ok {users : Table UserRow} (h : writeUsers L site users = .ok site') :
    site' = { site with users := users } := by
  unfold writeUsers at h
  split at h
  · exact (Except.ok.inj h).symm
  · cases h

theorem createUser_site {now : DateTime} {email name passwordHash : String} {userId : UserId}
    (h : createUser L site now email name passwordHash = .ok (userId, site')) :
    ∃ users, site' = { site with users := users } := by
  obtain ⟨address, -, h⟩ := bind_eq_ok.mp h
  obtain ⟨site1, h1, h⟩ := bind_eq_ok.mp h
  cases h
  exact ⟨_, writeUsers_ok h1⟩

theorem updateUser_site {userId : UserId} {name email : String}
    (h : updateUser L site userId name email = .ok site') :
    ∃ users, site' = { site with users := users } := by
  obtain ⟨address, -, h⟩ := bind_eq_ok.mp h
  exact ⟨_, writeUsers_ok h⟩

theorem writeClubs_ok {clubs : Table ClubRow} (h : writeClubs site clubs = .ok site') :
    site' = { site with clubs := clubs } := by
  unfold writeClubs at h
  split at h
  · exact (Except.ok.inj h).symm
  · cases h

theorem createClub_ok {now : DateTime} {name : String} {u : UserId}
    (h : createClub site now name u = .ok site') : site' = sqlGiveUserAccessToClub
      { site with clubs := site.clubs.insert (fun k => ⟨k, name, now⟩) fun _ => rfl } u
      site.clubs.next := by
  obtain ⟨site1, h1, h⟩ := bind_eq_ok.mp h
  cases h
  rw [writeClubs_ok h1]

theorem sqlDeleteClub_ok {clubId : ClubId} (h : sqlDeleteClub site clubId = .ok site') :
    site' = { site with
      clubs := site.clubs.delete (·.id == clubId)
      usersXClubs := site.usersXClubs.delete (·.clubId == clubId) } := by
  unfold sqlDeleteClub at h
  split at h
  · cases h
  · exact (Except.ok.inj h).symm

theorem getUser_mem {email : String} {user : UserRow}
    (h : getUser L site email = .ok (some user)) : user ∈ site.users.rows := by
  obtain ⟨address, -, h⟩ := bind_eq_ok.mp h
  exact List.mem_of_find?_eq_some (Except.ok.inj h)

end Statements

/-! ## 4. All requests -/

theorem Arrival.handle_effect (hL : L.Lawful) {a : Arrival L} {site site' : Site}
    {token : Option Token} (h : a.handle L cfg site = .ok (site', token)) :
    a.Effect cfg site site' token := by
  unfold Arrival.handle at h
  split at h
  · cases h
    exact .nothing
  · cases h
    exact .nothing
  · next body hrequest =>
    obtain ⟨⟨site1, t⟩, h1, h⟩ := bind_eq_ok.mp h
    cases h
    obtain ⟨hstored, rfl⟩ := registerUser_ok hL h1
    exact .register hrequest hstored
  · next userId body hrequest =>
    obtain ⟨site1, h1, h⟩ := bind_eq_ok.mp h
    cases h
    obtain ⟨user, hsigned, rfl, hstored⟩ := updateUserDetails_ok h1
    exact .details hrequest hsigned hstored
  · next userId body hrequest =>
    obtain ⟨⟨site1, t⟩, h1, h⟩ := bind_eq_ok.mp h
    cases h
    obtain ⟨user, row, hsigned, rfl, hfound, hright, hstrong, rfl, rfl⟩ := putUserPassword_ok h1
    exact .password hrequest hsigned hfound hright hstrong
  · next name hrequest =>
    obtain ⟨site1, h1, h⟩ := bind_eq_ok.mp h
    cases h
    obtain ⟨user, hsigned, hfew, hstored⟩ := createNewClub_ok h1
    exact .newClub hrequest hsigned hfew hstored
  · next clubId hrequest =>
    obtain ⟨site1, h1, h⟩ := bind_eq_ok.mp h
    cases h
    obtain ⟨user, hsigned, h1⟩ := bind_eq_ok.mp h1
    obtain ⟨hsigned, haccess⟩ := userAuthenticatedForClub_eq_ok.mp hsigned
    exact .noClub hrequest hsigned haccess (checkViolation_eq_ok.mp h1)
  · next clubId name hrequest =>
    obtain ⟨site1, h1, h⟩ := bind_eq_ok.mp h
    cases h
    obtain ⟨user, hsigned, h1⟩ := bind_eq_ok.mp h1
    obtain ⟨hsigned, haccess⟩ := userAuthenticatedForClub_eq_ok.mp hsigned
    exact .renameClub hrequest hsigned haccess (checkViolation_eq_ok.mp h1)
  · next call hrequest =>
    obtain ⟨site1, h1, h⟩ := bind_eq_ok.mp h
    cases h
    obtain ⟨user, db, hsigned, haccess, hstored, rfl⟩ := handleCall_ok h1
    cases call with
    | createTournament body => exact .newTournament hrequest hsigned haccess hstored
    | request tid r => exact .tournament hrequest hsigned haccess hstored

theorem Backend.respond_effect {a : Arrival L} (b : Backend F)
    {answer : Outcome (Site × Option Token)} (counters : F)
    (h : ∀ site token, answer = .ok (site, token) → a.Effect cfg b.site site token) :
    a.Effect cfg b.site (b.respond answer counters).2.site
      (answeredToken (b.respond answer counters).1) := by
  cases answer with
  | ok x => exact h x.1 x.2 rfl
  | error e => exact .nothing

/-- What a request does that the limit of its route lets in. -/
theorem Backend.answer_effect (hL : L.Lawful) (b : Backend F) (a : Arrival L) (counters : F) :
    a.Effect cfg b.site (b.answer L cfg lim a counters).2.site
      (answeredToken (b.answer L cfg lim a counters).1) := by
  unfold Backend.answer
  split
  · next username password hrequest =>
    refine b.respond_effect _ fun site token h => ?_
    generalize hanswer : (Brackets.loginForAccessToken L cfg lim.toLockoutLimiter b.site counters
      a.now a.salt username password).1 = answer at h
    cases answer with
    | error e => cases h
    | ok x =>
      cases h
      obtain ⟨user, hauth, hx⟩ := loginForAccessToken_ok hanswer
      obtain ⟨row, hfound, ⟨hright, rfl, hsite⟩ | ⟨hash, hright, rfl, hsite⟩⟩ :=
        authenticateUser_eq_some hL hauth
      · rw [hx, hsite]
        exact .login hrequest hfound hright
      · rw [hx, hsite]
        exact .rehash hrequest hfound hright
  · exact b.respond_effect _ fun _ _ => a.handle_effect hL

/-- **Every request has one of the effects.** -/
theorem Backend.serve_effect (hL : L.Lawful) (b : Backend F) (a : Arrival L) :
    a.Effect cfg b.site (b.serve L cfg lim a).2.site
      (answeredToken (b.serve L cfg lim a).1) := by
  unfold Backend.serve
  split
  · exact .nothing
  · split
    · exact .nothing
    · exact b.answer_effect hL a _

/-- What is stored of the tournaments changes by accepted calls alone. -/
theorem Arrival.Effect.db {a : Arrival L} {site site' : Site} {token : Option Token}
    (h : a.Effect cfg site site' token) : site'.db = site.db ∨
      ∃ call, a.request = .call call ∧ call.handle a.env site.db = .ok site'.db := by
  cases h with
  | nothing => exact .inl rfl
  | login => exact .inl rfl
  | rehash => exact .inl rfl
  | register _ stored =>
    obtain ⟨users, rfl⟩ := createUser_site stored
    exact .inl rfl
  | details _ _ stored =>
    obtain ⟨users, rfl⟩ := updateUser_site stored
    exact .inl rfl
  | password => exact .inl rfl
  | newClub _ _ _ stored =>
    rw [createClub_ok stored]
    exact .inl rfl
  | noClub _ _ _ stored =>
    rw [sqlDeleteClub_ok stored]
    exact .inl rfl
  | renameClub _ _ _ stored =>
    rw [writeClubs_ok stored]
    exact .inl rfl
  | newTournament request _ _ stored => exact .inr ⟨_, request, stored⟩
  | @tournament _ tid r _ request _ _ stored => exact .inr ⟨.request tid r, request, stored⟩

/-- **What every request of a run keeps holds after it.** -/
theorem Backend.run_invariant (hL : L.Lawful) {P : Site → Prop} {arrivals : List (Arrival L)}
    (hstep : ∀ a ∈ arrivals, ∀ site site' token, P site → a.Effect cfg site site' token → P site')
    {b : Backend F} (hb : P b.site) : P (b.run L cfg lim arrivals).site := by
  induction arrivals generalizing b with
  | nil => exact hb
  | cons a arrivals ih =>
    exact ih (fun a' ha' => hstep a' (List.mem_cons_of_mem _ ha'))
      (hstep a List.mem_cons_self _ _ _ hb (b.serve_effect hL a))

end Effect

end Brackets
