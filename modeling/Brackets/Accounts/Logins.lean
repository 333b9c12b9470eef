/-
  File:      Brackets/Accounts/Logins.lean
  Subject:   Who can log in, and what a session alone cannot do.

  * `Addressed`: stored addresses are in normal form, and no two users share one.
  * `signsIn_login_iff`: so a login answers a token for a user exactly if it is let in (`Admitted`),
    the address is that user's and the password verifies the stored hash.
  * `registered_signsIn`: who registers can log in as long as nothing changes the user.
  * `sessions_survive`: whatever is sent with stolen sessions, without the password the stored hash stays,
    and with it the sessions of the owner.
-/
import Brackets.Accounts.Sessions
import Brackets.Progress.StoredResults

namespace Brackets

open Library

/-! ## 1. Addresses -/

section Addresses

variable {L : Libraries} {cfg : Config} {site site' : Site}

/-- Addresses are in normal form, and no two users have one. -/
structure Addressed (L : Libraries) (users : Table UserRow) : Prop where
  normal : ∀ u ∈ users.rows, L.sqlLower u.email = u.email
  unique : emailsUnique L users = true

theorem addressed_empty : Addressed L .empty := ⟨fun _ h => absurd h List.not_mem_nil, rfl⟩

theorem Addressed.update {users : Table UserRow} (h : Addressed L users) {p : UserRow → Bool}
    {f : UserRow → UserRow} (hf : ∀ r, key (f r) = key r) (hemail : ∀ r, (f r).email = r.email) :
    Addressed L (users.update p f hf) := by
  have hsame : ∀ r : UserRow, (if p r then f r else r).email = r.email := by
    intro r
    split
    · exact hemail r
    · rfl
  refine ⟨fun u hu => ?_, ?_⟩
  · rw [Table.rows_update] at hu
    obtain ⟨r, hr, rfl⟩ := List.mem_map.mp hu
    rw [hsame]
    exact h.normal r hr
  · have hunique := h.unique
    unfold emailsUnique at hunique ⊢
    rw [Table.rows_update, noTwoAgree_map]
    simpa only [Function.comp_def, hsame] using hunique

theorem writeUsers_unique {users : Table UserRow} (h : writeUsers L site users = .ok site') :
    emailsUnique L users = true := by
  unfold writeUsers at h
  split at h
  · assumption
  · cases h

theorem Addressed.newHash (h : Addressed L site.users) (k : UserId) (hash : String) :
    Addressed L (updateUserPassword site k hash).users :=
  h.update (f := fun u => { u with passwordHash := hash }) (fun _ => rfl) fun _ => rfl

/-- Every request keeps the addresses apart. -/
theorem Addressed.effect (hL : L.Lawful) {a : Arrival L} {token : Option Token}
    (hs : Addressed L site.users) (h : a.Effect cfg site site' token) :
    Addressed L site'.users := by
  cases h with
  | nothing => exact hs
  | login => exact hs
  | rehash => exact hs.newHash _ _
  | register _ stored =>
    obtain ⟨address, haddress, stored⟩ := bind_eq_ok.mp stored
    obtain ⟨site1, h1, stored⟩ := bind_eq_ok.mp stored
    cases stored
    have hunique := writeUsers_unique h1
    rw [writeUsers_ok h1]
    refine ⟨fun u hu => ?_, hunique⟩
    rcases (Table.mem_insert _).mp hu with hu | rfl
    · exact hs.normal u hu
    · exact (hL.normal _ _ haddress).2
  | details _ _ stored =>
    obtain ⟨address, haddress, stored⟩ := bind_eq_ok.mp stored
    have hunique := writeUsers_unique stored
    rw [writeUsers_ok stored]
    refine ⟨fun u hu => ?_, hunique⟩
    rw [Table.rows_update] at hu
    obtain ⟨r, hr, rfl⟩ := List.mem_map.mp hu
    split
    · exact (hL.normal _ _ haddress).2
    · exact hs.normal r hr
  | password => exact hs.newHash _ _
  | newClub _ _ _ stored =>
    rw [createClub_ok stored]
    exact hs
  | noClub _ _ _ stored =>
    rw [sqlDeleteClub_ok stored]
    exact hs
  | renameClub _ _ _ stored =>
    rw [writeClubs_ok stored]
    exact hs
  | newTournament => exact hs
  | tournament => exact hs

/-- An address finds the one user who has it. -/
theorem getUser_eq_some (hs : Addressed L site.users) {email : String} {row : UserRow} :
    getUser L site email = .ok (some row) ↔
      row ∈ site.users.rows ∧ L.normalizeEmail email = .ok row.email := by
  unfold getUser
  rw [bind_eq_ok]
  constructor
  · rintro ⟨address, haddress, h⟩
    have hfind : site.users.rows.find? (fun u => L.sqlLower u.email == address) = some row :=
      Except.ok.inj h
    have hrow := List.mem_of_find?_eq_some hfind
    have hsame : L.sqlLower row.email = address :=
      eq_of_beq (List.find?_some (p := fun u : UserRow => L.sqlLower u.email == address) hfind)
    rw [hs.normal row hrow] at hsame
    exact ⟨hrow, hsame ▸ haddress⟩
  · rintro ⟨hrow, haddress⟩
    refine ⟨row.email, haddress, congrArg Except.ok ?_⟩
    cases hfind : site.users.rows.find? fun u => L.sqlLower u.email == row.email with
    | none =>
      have hno := List.find?_eq_none.mp hfind row hrow
      rw [hs.normal row hrow, beq_self_eq_true] at hno
      exact absurd rfl hno
    | some found =>
      have hfound := List.mem_of_find?_eq_some hfind
      have hsame : L.sqlLower found.email = row.email :=
        eq_of_beq (List.find?_some (p := fun u : UserRow => L.sqlLower u.email == row.email) hfind)
      have hrow' := hs.normal row hrow
      exact congrArg some (noTwoAgree_inj hs.unique hfound hrow (x := row.email)
        (congrArg some hsame) (congrArg some hrow'))

end Addresses

/-! ## 2. Logins -/

section Logins

variable (L : Libraries) (cfg : Config) {F : Type} (lim : SiteLimiter F)

theorem reached_addressed {L cfg lim} (hL : L.Lawful) (counters : F) (arrivals : List (Arrival L)) :
    Addressed L (reached L cfg lim counters arrivals).site.users :=
  Backend.run_invariant (P := fun site => Addressed L site.users) hL
    (fun _ _ _ _ _ hs h => hs.effect hL h) addressed_empty

/-- What `authenticate_user` finds. -/
theorem authenticateUser_iff {L} (hL : L.Lawful) {site : Site} (hs : Addressed L site.users)
    {salt : Nat} {email password : String} {u : UserId} :
    (∃ user site', authenticateUser L site salt email password = .ok (some (user, site')) ∧
        user.id = u) ↔
      ∃ row ∈ site.users.rows, row.id = u ∧ L.normalizeEmail email = .ok row.email ∧
        (L.verifyAndUpdate salt password row.passwordHash).1 = true := by
  constructor
  · rintro ⟨user, site', h, rfl⟩
    obtain ⟨row, hfound, hcase⟩ := authenticateUser_eq_some hL h
    obtain ⟨hrow, hemail⟩ := (getUser_eq_some hs).mp hfound
    refine ⟨row, hrow, ?_, hemail, ?_⟩
    · rcases hcase with ⟨-, rfl, -⟩ | ⟨hash, -, rfl, -⟩ <;> rfl
    · rcases hcase with ⟨hright, -, -⟩ | ⟨hash, hright, -, -⟩ <;> rw [hright]
  · rintro ⟨row, hrow, rfl, hemail, hright⟩
    have hfound : getUser L site row.email = .ok (some row) :=
      (getUser_eq_some hs).mpr ⟨hrow, (hL.normal _ _ hemail).1⟩
    unfold authenticateUser
    cases hv : L.verifyAndUpdate salt password row.passwordHash with
    | mk valid updated =>
      rw [hv] at hright
      obtain rfl : valid = true := hright
      simp only [hemail, hfound, bind, Except.bind, hv, if_true]
      cases updated with
      | none => exact ⟨row, site, rfl, rfl⟩
      | some hash => exact ⟨_, _, rfl, rfl⟩

/-- A visit leaves the lockouts alone. -/
theorem checkLockout_visit {L cfg lim} (b : Backend F) (a : Arrival L) (now : DateTime)
    (username : String) :
    checkLockout L lim.toLockoutLimiter (b.visit L cfg lim a).2 now username =
      checkLockout L lim.toLockoutLimiter b.counters now username := by
  unfold Backend.visit
  split
  · rfl
  · unfold checkLockout getAccountLockoutRetryAfter
    dsimp only
    rw [lim.visit_apart]

/-- Only the password stands between a login and its token: a session cookie comes with the CSRF
    header, the route still serves the address, and the account is not locked. -/
structure Admitted (b : Backend F) (a : Arrival L) (username : String) : Prop where
  head : protectSessionFromCsrf a.headers = .ok ()
  served : (b.visit L cfg lim a).1 = .ok ()
  unlocked : checkLockout L lim.toLockoutLimiter b.counters a.now username = .ok ()

/-- A login that is let in gets what its second half answers. -/
theorem Admitted.serve {L cfg lim} {b : Backend F} {a : Arrival L} {username password : String}
    (h : Admitted L cfg lim b a username)
    (hrequest : a.request = .loginForAccessToken username password) :
    (b.serve L cfg lim a).1 = (attemptLogin L cfg lim.toLockoutLimiter b.site
      (b.visit L cfg lim a).2 a.now a.salt username password).1.map fun x => some x.2 := by
  have hlogin : loginForAccessToken L cfg lim.toLockoutLimiter b.site (b.visit L cfg lim a).2 a.now
      a.salt username password = attemptLogin L cfg lim.toLockoutLimiter b.site
        (b.visit L cfg lim a).2 a.now a.salt username password := by
    unfold loginForAccessToken
    rw [checkLockout_visit, h.unlocked]
  have hserve : b.serve L cfg lim a = b.answer L cfg lim a (b.visit L cfg lim a).2 := by
    unfold Backend.serve
    rw [h.head]
    have hserved := h.served
    generalize b.visit L cfg lim a = visited at hserved ⊢
    obtain ⟨_, counters⟩ := visited
    cases hserved
    rfl
  rw [hserve]
  unfold Backend.answer
  rw [hrequest]
  dsimp only
  rw [hlogin]
  unfold Backend.respond
  cases (attemptLogin L cfg lim.toLockoutLimiter b.site (b.visit L cfg lim a).2 a.now a.salt
    username password).1 <;> rfl

/-- A login that gets a token was let in. -/
theorem admitted_of_token {L cfg lim} {b : Backend F} {a : Arrival L} {username password : String}
    (hrequest : a.request = .loginForAccessToken username password) {t : Token}
    (h : answeredToken (b.serve L cfg lim a).1 = some t) : Admitted L cfg lim b a username := by
  unfold Backend.serve at h
  split at h
  · cases h
  · next hhead =>
    cases hvisit : b.visit L cfg lim a with
    | mk allowed counters =>
      rw [hvisit] at h
      cases allowed with
      | error e => cases h
      | ok _ =>
        refine ⟨hhead, congrArg Prod.fst hvisit, ?_⟩
        cases hlock : checkLockout L lim.toLockoutLimiter b.counters a.now username with
        | ok _ => rfl
        | error e =>
          have hlock' := @checkLockout_visit F L cfg lim b a a.now username
          rw [hvisit, hlock] at hlock'
          unfold Backend.answer at h
          rw [hrequest] at h
          dsimp only at h
          unfold loginForAccessToken at h
          rw [hlock'] at h
          cases h

/-- A request for a login, as `serve` answers it. -/
theorem serve_login {L cfg lim} {b : Backend F} {a : Arrival L} {username password : String}
    (hrequest : a.request = .loginForAccessToken username password) {t : Token} :
    answeredToken (b.serve L cfg lim a).1 = some t ↔ Admitted L cfg lim b a username ∧
      ∃ user site', authenticateUser L b.site a.salt username password = .ok (some (user, site')) ∧
        t = issueToken L cfg a.now user.id user.name user.passwordHash := by
  have hattempt : ∀ counters : F, answeredToken ((attemptLogin L cfg lim.toLockoutLimiter b.site
      counters a.now a.salt username password).1.map fun x => some x.2) = some t ↔
        ∃ user site', authenticateUser L b.site a.salt username password =
            .ok (some (user, site')) ∧
          t = issueToken L cfg a.now user.id user.name user.passwordHash := by
    intro counters
    unfold attemptLogin
    cases hauth : authenticateUser L b.site a.salt username password with
    | error e =>
      constructor
      · intro h
        cases h
      · rintro ⟨user, site', h, -⟩
        cases h
    | ok found =>
      cases found with
      | none =>
        dsimp only
        constructor
        · intro h
          split at h <;> cases h
        · rintro ⟨user, site', h, -⟩
          cases h
      | some x =>
        constructor
        · intro h
          exact ⟨x.1, x.2, rfl, (Option.some.inj h).symm⟩
        · rintro ⟨user, site', h, rfl⟩
          cases h
          rfl
  constructor
  · intro h
    have hadmitted := admitted_of_token hrequest h
    rw [hadmitted.serve hrequest] at h
    exact ⟨hadmitted, (hattempt _).mp h⟩
  · rintro ⟨hadmitted, h⟩
    rw [hadmitted.serve hrequest]
    exact (hattempt _).mpr h

/-- Whom a login signs in. -/
theorem signsIn_iff_authenticates {L cfg lim} {b : Backend F} {a : Arrival L}
    {username password : String} (hrequest : a.request = .loginForAccessToken username password)
    {u : UserId} :
    (∃ t, SignsIn L cfg lim b a u t) ↔ Admitted L cfg lim b a username ∧ ∃ user site',
      authenticateUser L b.site a.salt username password = .ok (some (user, site')) ∧
        user.id = u := by
  unfold SignsIn
  constructor
  · rintro ⟨t, token, htoken, rfl, -⟩
    obtain ⟨hadmitted, user, site', hauth, rfl⟩ := (serve_login hrequest).mp htoken
    exact ⟨hadmitted, user, site', hauth, rfl⟩
  · rintro ⟨hadmitted, user, site', hauth, rfl⟩
    exact ⟨_, _, (serve_login hrequest).mpr ⟨hadmitted, user, site', hauth, rfl⟩, rfl, rfl⟩

/-- **A login signs in exactly the user whose address it is and whose stored hash the password
    verifies**, if it is let in: the cookie check, the limit of the address and the lock of the
    account stand before the password. -/
theorem signsIn_login_iff (hL : L.Lawful) (counters : F) (arrivals : List (Arrival L))
    {a : Arrival L} {username password : String}
    (hrequest : a.request = .loginForAccessToken username password) (u : UserId) :
    (∃ t, SignsIn L cfg lim (reached L cfg lim counters arrivals) a u t) ↔
      Admitted L cfg lim (reached L cfg lim counters arrivals) a username ∧
      ∃ row ∈ (reached L cfg lim counters arrivals).site.users.rows, row.id = u ∧
        L.normalizeEmail username = .ok row.email ∧
        (L.verifyAndUpdate a.salt password row.passwordHash).1 = true :=
  (signsIn_iff_authenticates hrequest).trans
    (and_congr_right fun _ => authenticateUser_iff hL (reached_addressed hL counters arrivals))

/-- What a registration stores. -/
theorem Arrival.Effect.registered {L cfg} {a : Arrival L} {site site' : Site} {token : Token}
    {body : UserToRegister L} (h : a.Effect cfg site site' (some token))
    (hrequest : a.request = .registerUser body) :
    createUser L site a.now body.email body.name (L.hash a.salt body.password) =
      .ok (token.userId, site') := by
  cases h with
  | login request =>
    rw [hrequest] at request
    cases request
  | rehash request =>
    rw [hrequest] at request
    cases request
  | register request stored =>
    rw [hrequest] at request
    cases request
    exact stored
  | password request =>
    rw [hrequest] at request
    cases request

/-- The row of a new user. -/
theorem createUser_row {L} (hL : L.Lawful) {site site' : Site} {now : DateTime} {body : UserToRegister L}
    {hash : String} {u : UserId}
    (h : createUser L site now body.email body.name hash = .ok (u, site')) :
    ∃ row, site'.users.find? u = some row ∧ row.email = body.email ∧ row.passwordHash = hash := by
  obtain ⟨address, haddress, h⟩ := bind_eq_ok.mp h
  obtain ⟨site1, h1, h⟩ := bind_eq_ok.mp h
  cases h
  obtain ⟨text, htext⟩ := body.email_normal
  rw [(hL.normal _ _ htext).1] at haddress
  rw [writeUsers_ok h1]
  exact ⟨_, Table.find?_insert_self _, (Except.ok.inj haddress).symm, rfl⟩

/-- **Who registers can log in**, with any spelling of the address, as long as no request has
    changed the user: whenever the login is let in. -/
theorem registered_signsIn (hL : L.Lawful) (counters : F) (before after : List (Arrival L))
    {r : Arrival L} {body : UserToRegister L} (hr : r.request = .registerUser body) {u : UserId}
    {t : String} (hregistered : SignsIn L cfg lim (reached L cfg lim counters before) r u t)
    (hkept : ∀ p e q, after = p ++ e :: q →
      (reached L cfg lim counters (before ++ r :: (p ++ [e]))).site.users.find? u =
        (reached L cfg lim counters (before ++ r :: p)).site.users.find? u)
    {a : Arrival L} {username : String}
    (ha : a.request = .loginForAccessToken username body.password)
    (hname : L.normalizeEmail username = .ok body.email)
    (hadmitted : Admitted L cfg lim (reached L cfg lim counters (before ++ r :: after)) a username) :
    ∃ t, SignsIn L cfg lim (reached L cfg lim counters (before ++ r :: after)) a u t := by
  obtain ⟨token, htoken, rfl, -⟩ := hregistered
  have heffect : r.Effect cfg (reached L cfg lim counters before).site
      ((reached L cfg lim counters before).serve L cfg lim r).2.site
      (answeredToken ((reached L cfg lim counters before).serve L cfg lim r).1) :=
    Backend.serve_effect hL _ r
  rw [htoken, ← reached_concat] at heffect
  obtain ⟨row, hrow, hemail, hhash⟩ := createUser_row hL (heffect.registered hr)
  have hlast : (reached L cfg lim counters (before ++ r :: after)).site.users.find? token.userId =
      some row := by
    rw [List.append_cons, reached_append, ← hrow]
    refine foldl_unchanged (fun b : Backend F => b.site.users.find? token.userId)
      fun p e q hafter => ?_
    have hsame := hkept p e q hafter
    rw [← List.cons_append, ← List.append_assoc, reached_concat, List.append_cons,
      reached_append] at hsame
    exact hsame
  have hverified := hL.verified r.salt body.password row.passwordHash (Or.inl hhash.symm) a.salt
  have hmem := Table.mem_of_find? _ hlast
  have hid : row.id = token.userId := Table.key_of_find? _ hlast
  exact (signsIn_iff_authenticates ha).mpr ⟨hadmitted, (authenticateUser_iff hL
    (reached_addressed hL counters _)).mpr ⟨row, hmem, hid, hemail ▸ hname, by rw [hverified]⟩⟩

end Logins

/-! ## 3. What a session alone cannot do -/

section Sessions

variable (L : Libraries) (cfg : Config) {F : Type} (lim : SiteLimiter F)

/-- The password that a request gives as the current one. -/
def Arrival.givenPassword {L : Libraries} (a : Arrival L) : Option String :=
  match a.request with
  | .loginForAccessToken _ password => some password
  | .putUserPassword _ body => some body.currentPassword
  | _ => none

/-- A request without the right password keeps the hash. -/
theorem Arrival.Effect.hash_kept {L cfg} {a : Arrival L} {site site' : Site} {token : Option Token}
    (h : a.Effect cfg site site' token) {u : UserId} {hash : String}
    (hhash : site.hashOf u = some hash) (hwrong : ∀ password, a.givenPassword = some password →
      (L.verifyAndUpdate a.salt password hash).1 = false) : site'.hashOf u = some hash := by
  have update : ∀ (row : UserRow) (new : String), row ∈ site.users.rows →
      (∃ password, a.givenPassword = some password ∧
        (L.verifyAndUpdate a.salt password row.passwordHash).1 = true) →
      (updateUserPassword site row.id new).hashOf u = some hash := by
    rintro row new hrow ⟨password, hgiven, hright⟩
    rw [hashOf_updateUserPassword]
    split
    · -- the row is the user's, so the password was right
      next hu =>
      subst hu
      rw [Site.hashOf_row hrow] at hhash
      have hno := hwrong password hgiven
      rw [← Option.some.inj hhash, hright] at hno
      cases hno
    · exact hhash
  cases h with
  | nothing => exact hhash
  | login => exact hhash
  | rehash request found right =>
    refine update _ _ (getUser_mem found) ⟨_, ?_, by rw [right]⟩
    unfold Arrival.givenPassword
    rw [request]
  | register _ stored =>
    rw [createUser_hashOf stored]
    split
    · next hu =>
      subst hu
      rw [Site.hashOf, Table.find?_next] at hhash
      cases hhash
    · exact hhash
  | details _ _ stored => exact updateUser_hashOf stored u ▸ hhash
  | password request _ found right =>
    refine update _ _ (site.users.mem_of_find? found) ⟨_, ?_, right⟩
    unfold Arrival.givenPassword
    rw [request]
  | newClub _ _ _ stored =>
    rw [createClub_ok stored]
    exact hhash
  | noClub _ _ _ stored =>
    rw [sqlDeleteClub_ok stored]
    exact hhash
  | renameClub _ _ _ stored =>
    rw [writeClubs_ok stored]
    exact hhash
  | newTournament => exact hhash
  | tournament => exact hhash

/-- **Without the password a stolen session locks nobody out**: if no request of a run gives a
    password that verifies the stored hash of a user, the hash stays, and every token that was
    issued for it goes on signing in the user. -/
theorem sessions_survive (hL : L.Lawful) (counters : F) (before after : List (Arrival L)) {u : UserId}
    {hash : String} (hhash : (reached L cfg lim counters before).site.hashOf u = some hash)
    (hwrong : ∀ a ∈ after, ∀ password, a.givenPassword = some password →
      (L.verifyAndUpdate a.salt password hash).1 = false) :
    (reached L cfg lim counters (before ++ after)).site.hashOf u = some hash ∧
      ∀ issued now, cfg.Lasts issued now → ∃ user, checkJwtAndGetUser L cfg
        (reached L cfg lim counters (before ++ after)).site now
        (createAccessToken L cfg issued u hash) = some user ∧ user.id = u := by
  have hlast : (reached L cfg lim counters (before ++ after)).site.hashOf u = some hash := by
    rw [reached_append]
    exact Backend.run_invariant (P := fun site => site.hashOf u = some hash) hL
      (fun a ha _ _ _ hb h => h.hash_kept hb (hwrong a ha)) hhash
  refine ⟨hlast, fun issued now hlasts => ?_⟩
  obtain ⟨row, hrow, hstored⟩ := Option.map_eq_some_iff.mp hlast
  exact ⟨row.public, (checkJwtAndGetUser_issued hL).mpr ⟨hlasts, row, hrow, hstored, rfl⟩,
    Table.key_of_find? _ hrow⟩

end Sessions

/-! ### Ann comes back -/

section Ann

def annLogsIn : Arrival plainLibraries :=
  ⟨quietEnvironment, 3, annsAddress, {},
    .loginForAccessToken "ann@example.org" "correct-horse-battery"⟩

/-- Someone has her session, but not her password. -/
def thiefChangesPassword : Arrival plainLibraries :=
  ⟨quietEnvironment, 4, bobsAddress, bearer annToken,
    .putUserPassword 1 ⟨"guess", "thief-horse-battery", by decide⟩⟩

theorem reached_annRegisters : reached plainLibraries plainConfig memoryLimits noCounts
    [annRegisters] = annRegistered.2 := reached_concat _ _ _ _ [] _

theorem ann_stored : ∃ row ∈ annRegistered.2.site.users.rows, row.id = 1 ∧
    row.email = "ann@example.org" ∧
    Plain.verifies "correct-horse-battery" row.passwordHash = true := by
  decide +kernel

theorem annLogsIn_admitted :
    Admitted plainLibraries plainConfig memoryLimits annRegistered.2 annLogsIn "ann@example.org" :=
  ⟨rfl, by decide +kernel, by decide +kernel⟩

/-- Ann has logged in ten times within five minutes. -/
def annsLogins : List (Arrival plainLibraries) := annRegisters :: List.replicate 10 annLogsIn

theorem annsLogins_exceed : (Backend.visit plainLibraries plainConfig memoryLimits
    (reached plainLibraries plainConfig memoryLimits noCounts annsLogins) annLogsIn).1 =
      .error (.http 429 "Rate limit exceeded: 10 per 5 minute") := by
  decide +kernel

/-- Ann can log in, but not eleven times within five minutes. -/
theorem annLogsIn_signsIn :
    (∃ t, SignsIn plainLibraries plainConfig memoryLimits
      (reached plainLibraries plainConfig memoryLimits noCounts [annRegisters]) annLogsIn 1 t) ∧
    ¬ ∃ t, SignsIn plainLibraries plainConfig memoryLimits
      (reached plainLibraries plainConfig memoryLimits noCounts annsLogins) annLogsIn 1 t := by
  have hiff := fun arrivals => signsIn_login_iff plainLibraries plainConfig memoryLimits
    plainLibraries_lawful noCounts arrivals (a := annLogsIn) rfl 1
  constructor
  · obtain ⟨row, hrow, hid, hemail, hright⟩ := ann_stored
    refine (hiff [annRegisters]).mpr ?_
    rw [reached_annRegisters]
    refine ⟨annLogsIn_admitted, row, hrow, hid, ?_, hright⟩
    rw [hemail]
    exact Plain.normalizeEmail_address List.mem_cons_self
  · intro h
    have hserved := ((hiff annsLogins).mp h).1.served
    rw [annsLogins_exceed] at hserved
    cases hserved

theorem annLogsIn_again : ∃ t, SignsIn plainLibraries plainConfig memoryLimits
    (reached plainLibraries plainConfig memoryLimits noCounts [annRegisters, annLogsOut])
    annLogsIn 1 t := by
  refine registered_signsIn plainLibraries plainConfig memoryLimits plainLibraries_lawful
    noCounts [] [annLogsOut] (r := annRegisters) rfl ann_signsIn (fun p e q h => ?_)
    (a := annLogsIn) rfl (Plain.normalizeEmail_address List.mem_cons_self) annLogsIn_admitted
  cases p with
  | nil =>
    cases h
    rfl
  | cons _ p => cases p <;> cases h

theorem annHash_survives : (reached plainLibraries plainConfig memoryLimits noCounts
    [annRegisters, annLogsOut, thiefChangesPassword]).site.hashOf 1 =
      some (Plain.hash 1 "correct-horse-battery") := by
  have hhash : (reached plainLibraries plainConfig memoryLimits noCounts
      [annRegisters]).site.hashOf 1 = some (Plain.hash 1 "correct-horse-battery") :=
    reached_annRegisters ▸ annRegistered_hash.2
  refine (sessions_survive plainLibraries plainConfig memoryLimits plainLibraries_lawful
    noCounts [annRegisters] [annLogsOut, thiefChangesPassword] hhash
    fun a ha password hgiven => ?_).1
  rcases List.mem_pair.mp ha with rfl | rfl
  · cases hgiven
  · cases hgiven
    decide +kernel

end Ann

end Brackets
