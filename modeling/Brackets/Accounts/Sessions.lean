/-
  File:      Brackets/Accounts/Sessions.lean
  Subject:   Whom a token signs in.

  Tokens are signed, and nobody else has the secret: a token that is presented was issued. Salts
  are not used twice. Then a token signs in its user exactly as long as its times allow and the
  hash for which it was issued is stored: `checkJwtAndGetUser_iff`. Changing the password, and
  replacing an outdated hash, sign out all other sessions for good.
-/
import Mathlib
import Brackets.Accounts.Effects
import Brackets.Accounts.Plain
import Brackets.Library.Stamps

namespace Brackets

open Library

section Hashes

variable {L : Libraries} {cfg : Config} {site site' : Site}

/-! ## 1. The stored hash of a user -/

def Site.hashOf (site : Site) (u : UserId) : Option String :=
  (site.users.find? u).map (·.passwordHash)

theorem Site.hashOf_row {row : UserRow} (h : row ∈ site.users.rows) :
    site.hashOf row.id = some row.passwordHash := by
  have hfind : site.users.find? row.id = some row := site.users.find?_key h
  rw [Site.hashOf, hfind, Option.map_some]

theorem hashOf_updateUserPassword (site : Site) (k u : UserId) (hash : String) :
    (updateUserPassword site k hash).hashOf u =
      if u = k then (site.hashOf u).map fun _ => hash else site.hashOf u := by
  have hfind : (updateUserPassword site k hash).users.find? u =
      (site.users.find? u).map fun r => if r.id == k then { r with passwordHash := hash } else r := by
    unfold updateUserPassword
    rw [Table.find?_update]
  unfold Site.hashOf
  rw [hfind]
  cases hrow : site.users.find? u with
  | none => simp
  | some row =>
    have hid : row.id = u := site.users.key_of_find? hrow
    simp only [Option.map_some, hid, beq_iff_eq]
    split <;> rfl

theorem createUser_hashOf {now : DateTime} {email name passwordHash : String} {k : UserId}
    (h : createUser L site now email name passwordHash = .ok (k, site')) (u : UserId) :
    site'.hashOf u = if u = site.users.next then some passwordHash else site.hashOf u := by
  obtain ⟨address, -, h⟩ := bind_eq_ok.mp h
  obtain ⟨site1, h1, h⟩ := bind_eq_ok.mp h
  cases h
  rw [writeUsers_ok h1]
  unfold Site.hashOf
  split
  · next hu => rw [hu, Table.find?_insert_self, Option.map_some]
  · next hu => rw [Table.find?_insert_of_ne _ hu]

theorem updateUser_hashOf {k : UserId} {name email : String}
    (h : updateUser L site k name email = .ok site') (u : UserId) :
    site'.hashOf u = site.hashOf u := by
  obtain ⟨address, -, h⟩ := bind_eq_ok.mp h
  rw [writeUsers_ok h]
  unfold Site.hashOf
  rw [Table.find?_update, Option.map_map]
  congr 1
  funext row
  simp only [Function.comp]
  split <;> rfl

/-- **A hash that is stored after a request was stored before or got its salt.** -/
theorem Arrival.Effect.hashOf {a : Arrival L} {token : Option Token}
    (h : a.Effect cfg site site' token) {u : UserId} {hash : String}
    (hhash : site'.hashOf u = some hash) : site.hashOf u = some hash ∨ L.Salted a.salt hash := by
  have update : ∀ k new, L.Salted a.salt new →
      (updateUserPassword site k new).hashOf u = some hash →
      site.hashOf u = some hash ∨ L.Salted a.salt hash := by
    intro k new hnew hu
    rw [hashOf_updateUserPassword] at hu
    split at hu
    · obtain ⟨_, -, rfl⟩ := Option.map_eq_some_iff.mp hu
      exact Or.inr hnew
    · exact Or.inl hu
  cases h with
  | nothing => exact Or.inl hhash
  | login => exact Or.inl hhash
  | rehash _ _ right => exact update _ _ (Or.inr ⟨_, _, right⟩) hhash
  | @register body _ _ stored =>
    rw [createUser_hashOf stored] at hhash
    split at hhash
    · cases hhash
      exact Or.inr (Or.inl ⟨body.password, rfl⟩)
    · exact Or.inl hhash
  | details _ _ stored => exact Or.inl (updateUser_hashOf stored u ▸ hhash)
  | password => exact update _ _ (Or.inl ⟨_, rfl⟩) hhash
  | newClub _ _ _ stored =>
    rw [createClub_ok stored] at hhash
    exact Or.inl hhash
  | noClub _ _ _ stored =>
    rw [sqlDeleteClub_ok stored] at hhash
    exact Or.inl hhash
  | renameClub _ _ _ stored =>
    rw [writeClubs_ok stored] at hhash
    exact Or.inl hhash
  | newTournament => exact Or.inl hhash
  | tournament => exact Or.inl hhash

/-- **A token is issued for the hash that is stored then.** -/
theorem Arrival.Effect.issued {a : Arrival L} {token : Token}
    (h : a.Effect cfg site site' (some token)) : ∃ hash, site'.hashOf token.userId = some hash ∧
      token.accessToken = createAccessToken L cfg a.now token.userId hash := by
  have update : ∀ (row : UserRow) (new : String), row ∈ site.users.rows →
      (updateUserPassword site row.id new).hashOf row.id = some new := by
    intro row new hrow
    rw [hashOf_updateUserPassword, if_pos rfl, Site.hashOf_row hrow, Option.map_some]
  cases h with
  | login _ found => exact ⟨_, Site.hashOf_row (getUser_mem found), rfl⟩
  | rehash _ found => exact ⟨_, update _ _ (getUser_mem found), rfl⟩
  | register _ stored =>
    refine ⟨_, ?_, rfl⟩
    rw [createUser_hashOf stored]
    exact if_pos rfl
  | password _ _ found => exact ⟨_, update _ _ (site.users.mem_of_find? found), rfl⟩

end Hashes

/-! ## 2. What a token says -/

section Tokens

variable {L : Libraries} {cfg : Config} {site : Site}

/-- A token that was issued at one time counts at another. -/
def Config.Lasts (cfg : Config) (issued now : DateTime) : Prop :=
  issued.seconds * 1000000 ≤ now ∧
    now < DateTime.seconds (issued + timedelta cfg.accessTokenExpireMinutes) * 1000000

instance (issued now : DateTime) : Decidable (cfg.Lasts issued now) :=
  inferInstanceAs (Decidable (_ ∧ _))

theorem issuedClaims_current {issued now : DateTime} {u : UserId} {hash : String} :
    (issuedClaims L cfg issued u hash).Current cfg now ↔ cfg.Lasts issued now :=
  ⟨fun h => ⟨h.issued, h.notOver⟩, fun h => ⟨h.1, h.1, h.2, rfl, rfl⟩⟩

theorem jwtDecode_issued (hL : L.Lawful) {issued now : DateTime} {k : UserId} {hash : String}
    {c : Claims} : jwtDecode L cfg now (createAccessToken L cfg issued k hash) = some c ↔
      cfg.Lasts issued now ∧ issuedClaims L cfg issued k hash = c := by
  unfold jwtDecode createAccessToken
  rw [hL.signed, Option.filter_eq_some_iff, decide_eq_true_eq, Option.some.injEq]
  constructor
  · rintro ⟨rfl, h⟩
    exact ⟨issuedClaims_current.mp h, rfl⟩
  · rintro ⟨h, rfl⟩
    exact ⟨rfl, issuedClaims_current.mpr h⟩

/-- **An issued token signs in its user as long as the hash is stored.** -/
theorem checkJwtAndGetUser_issued (hL : L.Lawful) {issued now : DateTime} {k : UserId}
    {hash : String} {user : UserPublic} :
    checkJwtAndGetUser L cfg site now (createAccessToken L cfg issued k hash) = some user ↔
      cfg.Lasts issued now ∧
        ∃ row, site.users.find? k = some row ∧ row.passwordHash = hash ∧ row.public = user := by
  rw [checkJwtAndGetUser_eq_some]
  constructor
  · rintro ⟨c, k', row, hc, hk, -, hrow, hhash, huser⟩
    obtain ⟨hlasts, rfl⟩ := (jwtDecode_issued hL).mp hc
    obtain rfl : k = k' := Option.some.inj ((Int.toInt?_repr k).symm.trans hk)
    exact ⟨hlasts, row, hrow, (hL.hmac _ _ _ hhash).symm, huser⟩
  · rintro ⟨hlasts, row, hrow, rfl, huser⟩
    exact ⟨_, k, row, (jwtDecode_issued hL).mpr ⟨hlasts, rfl⟩, Int.toInt?_repr k, rfl, hrow, rfl,
      huser⟩

end Tokens

/-! ## 3. Over a run -/

section Runs

variable (L : Libraries) (cfg : Config) {F : Type} (lim : SiteLimiter F)

/-- The request signs in the user with the token. -/
def SignsIn (b : Backend F) (a : Arrival L) (u : UserId) (t : String) : Prop :=
  ∃ token, answeredToken (b.serve L cfg lim a).1 = some token ∧ token.userId = u ∧
    token.accessToken = t

/-- The request replaces the stored hash of the user. -/
def ReplacesHash (b : Backend F) (a : Arrival L) (u : UserId) : Prop :=
  (b.serve L cfg lim a).2.site.hashOf u ≠ b.site.hashOf u

/-- The token that a request answers is for the hash that is stored after it. -/
theorem signsIn_issued {L cfg lim} (hL : L.Lawful) {counters : F} {before : List (Arrival L)}
    {a : Arrival L} {k : UserId} {t : String}
    (h : SignsIn L cfg lim (reached L cfg lim counters before) a k t) : ∃ hash,
      t = createAccessToken L cfg a.now k hash ∧
        (reached L cfg lim counters (before ++ [a])).site.hashOf k = some hash := by
  obtain ⟨token, htoken, rfl, rfl⟩ := h
  have heffect : a.Effect cfg (reached L cfg lim counters before).site
      ((reached L cfg lim counters before).serve L cfg lim a).2.site
      (answeredToken ((reached L cfg lim counters before).serve L cfg lim a).1) :=
    Backend.serve_effect hL _ a
  rw [htoken] at heffect
  obtain ⟨hash, hhash, haccess⟩ := heffect.issued
  exact ⟨hash, haccess, (reached_concat L cfg lim counters before a).symm ▸ hhash⟩

/-- A hash that is stored again was never replaced. -/
theorem hashOf_stays {L cfg lim} (hL : L.Lawful) {counters : F}
    {before after rest : List (Arrival L)} {u : UserId} {hash : String}
    (hsalts : ((before ++ (after ++ rest)).map (·.salt)).Nodup)
    (hfirst : (reached L cfg lim counters before).site.hashOf u = some hash)
    (hlast : (reached L cfg lim counters (before ++ (after ++ rest))).site.hashOf u = some hash) :
    (reached L cfg lim counters (before ++ after)).site.hashOf u = some hash := by
  refine foldl_stays (fun b : Backend F => b.site.hashOf u)
    (fun (a : Arrival L) h => L.Salted a.salt h) (fun a => a.salt)
    (fun b a h hh => (b.serve_effect hL a).hashOf hh)
    (fun a a' h => hL.salted a.salt a'.salt h) ?_ hsalts hfirst hlast
  exact fun h => nomatch h

/-- **A token that was issued in the run signs in a user exactly if it was issued for that user, its
    time is not over, and no later request has replaced the user's hash.** -/
theorem checkJwtAndGetUser_iff (hL : L.Lawful) {counters : F} {arrivals : List (Arrival L)}
    (hsalts : (arrivals.map (·.salt)).Nodup) {t : String} {now : DateTime}
    (hissued : ∀ c, L.signed cfg.jwtSecret t = some c → ∃ before a after u,
      arrivals = before ++ a :: after ∧
        SignsIn L cfg lim (reached L cfg lim counters before) a u t) (u : UserId) :
    (∃ user, checkJwtAndGetUser L cfg (reached L cfg lim counters arrivals).site now t = some user ∧
        user.id = u) ↔
      ∃ before a after, arrivals = before ++ a :: after ∧
        SignsIn L cfg lim (reached L cfg lim counters before) a u t ∧ cfg.Lasts a.now now ∧
        ∀ p e q, after = p ++ e :: q →
          ¬ ReplacesHash L cfg lim (reached L cfg lim counters (before ++ a :: p)) e u := by
  constructor
  · rintro ⟨user, hcheck, rfl⟩
    obtain ⟨c, k, row, hc, -⟩ := checkJwtAndGetUser_eq_some.mp hcheck
    obtain ⟨before, a, after, k, rfl, hsigns⟩ := hissued c (Option.filter_eq_some_iff.mp hc).1
    obtain ⟨hash, rfl, hfirst⟩ := signsIn_issued hL hsigns
    obtain ⟨hlasts, row, hrow, hhash, rfl⟩ := (checkJwtAndGetUser_issued hL).mp hcheck
    have hid : row.id = k := Table.key_of_find? _ hrow
    subst hid
    refine ⟨before, a, after, rfl, hsigns, hlasts, ?_⟩
    rintro p e q rfl hreplaces
    rw [List.append_cons] at hrow hsalts
    have hlast : (reached L cfg lim counters ((before ++ [a]) ++ (p ++ e :: q))).site.hashOf row.id =
        some hash := by
      rw [Site.hashOf, hrow, Option.map_some, hhash]
    have hp := hashOf_stays hL hsalts hfirst hlast
    rw [List.append_cons p] at hlast hsalts
    have he := hashOf_stays hL hsalts hfirst hlast
    rw [← List.append_assoc, reached_concat] at he
    rw [List.append_cons] at hreplaces
    exact hreplaces (he.trans hp.symm)
  · rintro ⟨before, a, after, rfl, hsigns, hlasts, hkept⟩
    obtain ⟨hash, rfl, hfirst⟩ := signsIn_issued hL hsigns
    have hlast : (reached L cfg lim counters (before ++ a :: after)).site.hashOf u = some hash := by
      rw [List.append_cons, reached_append, ← hfirst]
      refine foldl_unchanged (fun b : Backend F => b.site.hashOf u) fun p e q hafter => ?_
      have hunreplaced := not_not.mp (hkept p e q hafter)
      rwa [List.append_cons, reached_append] at hunreplaced
    obtain ⟨row, hrow, hhash⟩ := Option.map_eq_some_iff.mp hlast
    have hcheck := (checkJwtAndGetUser_issued hL).mpr ⟨hlasts, row, hrow, hhash, rfl⟩
    exact ⟨row.public, hcheck, Table.key_of_find? _ hrow⟩

end Runs

/-! ### A session -/

/-- Ann registers. -/
def annRegisters : Arrival plainLibraries :=
  ⟨quietEnvironment, 1, annsAddress, {}, .registerUser plainRegistration⟩

/-- She logs out in her browser; the server forgets nothing. -/
def annLogsOut : Arrival plainLibraries := ⟨quietEnvironment, 2, annsAddress, {}, .logout⟩

/-- The token of her registration. -/
def annToken : String :=
  createAccessToken plainLibraries plainConfig 0 1 (Plain.hash 1 "correct-horse-battery")

/-- The answer to her registration, and the backend after it. -/
def annRegistered : Outcome (Option Token) × Backend MemoryCounts :=
  Backend.serve plainLibraries plainConfig memoryLimits ⟨.empty, noCounts⟩ annRegisters

theorem annRegistered_hash : (answeredToken annRegistered.1).map (·.userId) = some 1 ∧
    annRegistered.2.site.hashOf 1 = some (Plain.hash 1 "correct-horse-battery") := by
  decide +kernel

theorem ann_signsIn : SignsIn plainLibraries plainConfig memoryLimits
    (reached plainLibraries plainConfig memoryLimits noCounts []) annRegisters 1
    annToken := by
  obtain ⟨huser, hhash⟩ := annRegistered_hash
  obtain ⟨token, htoken, hid⟩ := Option.map_eq_some_iff.mp huser
  have heffect : annRegisters.Effect plainConfig .empty annRegistered.2.site
      (answeredToken annRegistered.1) := by
    unfold annRegistered
    exact Backend.serve_effect plainLibraries_lawful ⟨.empty, noCounts⟩ annRegisters
  rw [htoken] at heffect
  obtain ⟨hash, hstored, haccess⟩ := heffect.issued
  rw [hid] at hstored haccess
  obtain rfl := Option.some.inj (hhash.symm.trans hstored)
  exact ⟨token, htoken, hid, haccess⟩

/-- A token in the head of the request. -/
def bearer (token : String) : Headers := { authorization := some ("Bearer", token) }

theorem getToken_bearer {token : String} (h : token ≠ "") : getToken (bearer token) = some token := by
  have hscheme : "Bearer".toLower = "bearer" := by decide +kernel
  have hkept : (some token).filter (· ≠ "") = some token :=
    Option.filter_some_pos (decide_eq_true h)
  unfold getToken bearer
  dsimp only
  rw [Option.bind_some, if_pos hscheme]
  exact (congrArg (Option.or · _) hkept).trans Option.some_or

theorem accessToken_ne (now : DateTime) (u : UserId) (hash : String) :
    createAccessToken plainLibraries plainConfig now u hash ≠ "" := by
  intro h
  have htoken : plainLibraries.signed "secret"
      (createAccessToken plainLibraries plainConfig now u hash) = some _ :=
    plainLibraries_lawful.signed "secret" (issuedClaims plainLibraries plainConfig now u hash)
  have hnone : plainLibraries.signed "secret" "" = none := by decide +kernel
  rw [h, hnone] at htoken
  cases htoken

/-- Ann is signed in as long as her hash is stored. -/
theorem ann_signedIn {site : Site}
    (h : site.hashOf 1 = some (Plain.hash 1 "correct-horse-battery")) :
    ∃ user, signedInUser plainLibraries plainConfig site 0 (bearer annToken) = some user ∧
      user.id = 1 := by
  obtain ⟨row, hrow, hhash⟩ := Option.map_eq_some_iff.mp h
  have hcheck : checkJwtAndGetUser plainLibraries plainConfig site 0 annToken = some row.public :=
    (checkJwtAndGetUser_issued plainLibraries_lawful).mpr ⟨by decide, row, hrow, hhash, rfl⟩
  have htoken : getToken (bearer annToken) = some annToken :=
    getToken_bearer (accessToken_ne _ _ _)
  refine ⟨row.public, ?_, site.users.key_of_find? hrow⟩
  rw [signedInUser, htoken, Option.bind_some, hcheck]

theorem annToken_counts : ∃ user, checkJwtAndGetUser plainLibraries plainConfig
    (reached plainLibraries plainConfig memoryLimits noCounts
      [annRegisters, annLogsOut]).site 60000000 annToken = some user ∧ user.id = 1 := by
  refine (checkJwtAndGetUser_iff plainLibraries plainConfig memoryLimits plainLibraries_lawful
    (by decide) (fun _ _ => ⟨[], annRegisters, [annLogsOut], 1, rfl, ann_signsIn⟩) 1).mpr
    ⟨[], annRegisters, [annLogsOut], rfl, ann_signsIn, by decide, fun p e q h => ?_⟩
  -- logging out is the only later request
  cases p with
  | nil =>
    cases h
    exact fun h => h rfl
  | cons _ p => cases p <;> cases h

end Brackets
