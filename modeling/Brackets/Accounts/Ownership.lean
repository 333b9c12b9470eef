/-
  File:      Brackets/Accounts/Ownership.lean
  Subject:   Whose a tournament is.

  * `Owned`: every tournament is in a club, and every club has one row of access, of a user that
    there is. Every request keeps it.
  * `one_owner`: so a tournament always has exactly one user who may work on it.
  * `others_keep_out`: as long as that user sends nothing, nobody changes the tournament or takes it
    over, whatever the others send.
-/
import Brackets.Accounts.Sessions
import Brackets.Progress.IsolatedLoads
import Brackets.Progress.Heads

namespace Brackets

open Library

/-! ## 1. Access -/

theorem getUserAccessToTournament_iff {site : Site} {tid : TournamentId} {u : UserId} :
    getUserAccessToTournament site tid u = true ↔ ∃ t, site.db.tournaments.find? tid = some t ∧
      ∃ x ∈ site.usersXClubs.rows, x.userId = u ∧ x.clubId = t.clubId := by
  unfold getUserAccessToTournament
  rw [List.any_eq_true]
  constructor
  · rintro ⟨x, hx, h⟩
    rw [Bool.and_eq_true, beq_iff_eq, List.any_eq_true] at h
    obtain ⟨hu, t, ht, h⟩ := h
    rw [Bool.and_eq_true, beq_iff_eq, beq_iff_eq] at h
    exact ⟨t, h.2 ▸ site.db.tournaments.find?_key ht, x, hx, hu, h.1.symm⟩
  · rintro ⟨t, ht, x, hx, rfl, hclub⟩
    refine ⟨x, hx, ?_⟩
    rw [beq_self_eq_true, Bool.true_and, List.any_eq_true]
    refine ⟨t, site.db.tournaments.mem_of_find? ht, ?_⟩
    rw [Bool.and_eq_true, beq_iff_eq, beq_iff_eq]
    exact ⟨hclub.symm, site.db.tournaments.key_of_find? ht⟩

theorem getUserAccessToClub_iff {site : Site} {clubId : ClubId} {u : UserId} :
    getUserAccessToClub site clubId u = true ↔
      ∃ x ∈ site.usersXClubs.rows, x.userId = u ∧ x.clubId = clubId := by
  unfold getUserAccessToClub
  simp only [List.any_eq_true, Bool.and_eq_true, beq_iff_eq]

/-- **Every tournament is in a club, and every club is one user's.** -/
structure Owned (site : Site) : Prop where
  isolated : Isolated site.db
  users : ∀ x ∈ site.usersXClubs.rows, (site.users.find? x.userId).isSome = true
  clubs : ∀ x ∈ site.usersXClubs.rows, (site.clubs.find? x.clubId).isSome = true
  once : ∀ x ∈ site.usersXClubs.rows, ∀ y ∈ site.usersXClubs.rows, x.clubId = y.clubId → x = y
  tournaments : ∀ t ∈ site.db.tournaments.rows, ∃ x ∈ site.usersXClubs.rows, x.clubId = t.clubId

theorem owned_empty : Owned .empty where
  isolated := isolated_empty
  users _ h := absurd h List.not_mem_nil
  clubs _ h := absurd h List.not_mem_nil
  once _ h := absurd h List.not_mem_nil
  tournaments _ h := absurd h List.not_mem_nil

/-- Two users with access are one. -/
theorem Owned.unique {site : Site} (hs : Owned site) {tid : TournamentId} {u v : UserId}
    (hu : getUserAccessToTournament site tid u = true)
    (hv : getUserAccessToTournament site tid v = true) : u = v := by
  obtain ⟨t, ht, x, hx, rfl, hxclub⟩ := getUserAccessToTournament_iff.mp hu
  obtain ⟨t', ht', y, hy, rfl, hyclub⟩ := getUserAccessToTournament_iff.mp hv
  obtain rfl : t = t' := Option.some.inj (ht.symm.trans ht')
  rw [hs.once x hx y hy (hxclub.trans hyclub.symm)]

/-! ## 2. One request -/

section Step

variable {L : Libraries} {cfg : Config} {site site' : Site} {a : Arrival L} {token : Option Token}

theorem isSome_update {α : Type} [Keyed α] (t : Table α) {p : α → Bool} {f : α → α}
    {hf : ∀ r, key (f r) = key r} (k : Int) :
    ((t.update p f hf).find? k).isSome = (t.find? k).isSome := by
  rw [Table.find?_update, Option.isSome_map]

/-- A new hash drops no user. -/
theorem isSome_updateUserPassword (k : UserId) (hash : String) (u : UserId) :
    ((updateUserPassword site k hash).users.find? u).isSome = (site.users.find? u).isSome := by
  unfold updateUserPassword
  rw [isSome_update]

/-- No request drops a user. -/
theorem Arrival.Effect.user_stays (h : a.Effect cfg site site' token) {u : UserId}
    (hu : (site.users.find? u).isSome = true) : (site'.users.find? u).isSome = true := by
  cases h with
  | nothing => exact hu
  | login => exact hu
  | rehash => exact (isSome_updateUserPassword _ _ u).trans hu
  | register _ stored =>
    obtain ⟨address, -, stored⟩ := bind_eq_ok.mp stored
    obtain ⟨site1, h1, stored⟩ := bind_eq_ok.mp stored
    cases stored
    rw [writeUsers_ok h1]
    have hne : u ≠ site.users.next := by
      rintro rfl
      rw [Table.find?_next] at hu
      cases hu
    exact (congrArg Option.isSome (Table.find?_insert_of_ne _ hne)).trans hu
  | details _ _ stored =>
    obtain ⟨address, -, stored⟩ := bind_eq_ok.mp stored
    rw [writeUsers_ok stored]
    dsimp only
    rw [isSome_update]
    exact hu
  | password => exact (isSome_updateUserPassword _ _ u).trans hu
  | newClub _ _ _ stored =>
    rw [createClub_ok stored]
    exact hu
  | noClub _ _ _ stored =>
    rw [sqlDeleteClub_ok stored]
    exact hu
  | renameClub _ _ _ stored =>
    rw [writeClubs_ok stored]
    exact hu
  | newTournament => exact hu
  | tournament => exact hu

/-- What is written to the users alone. -/
theorem Owned.of_users (hs : Owned site) (husers : ∀ u, (site.users.find? u).isSome = true →
      (site'.users.find? u).isSome = true) (hclubs : site'.clubs = site.clubs)
    (haccess : site'.usersXClubs = site.usersXClubs) (hdb : site'.db = site.db) : Owned site' where
  isolated := hdb ▸ hs.isolated
  users x hx := husers _ (hs.users x (haccess ▸ hx))
  clubs x hx := hclubs ▸ hs.clubs x (haccess ▸ hx)
  once := haccess ▸ hs.once
  tournaments := haccess ▸ hdb ▸ hs.tournaments

/-- What a call of a user who may make it leaves. -/
theorem Owned.of_call (hs : Owned site) {env : Environment} {call : Call} {db : Database}
    (h : call.handle env site.db = .ok db) (hclub : ∀ body, call = .createTournament body →
      ∃ x ∈ site.usersXClubs.rows, x.clubId = body.clubId) : Owned { site with db := db } where
  isolated := (Confined.call hs.isolated h).isolated
  users := hs.users
  clubs := hs.clubs
  once := hs.once
  tournaments t ht := by
    rcases Call.club_of hs.isolated h ht with ⟨old, hold, -, hsame⟩ | ⟨body, hcall, hsame⟩
    · exact hsame ▸ hs.tournaments old hold
    · exact hsame ▸ hclub body hcall

/-- A new club is its creator's. -/
theorem Owned.newClub (hs : Owned site) {now : DateTime} {name : String} {u : UserId}
    (hu : (site.users.find? u).isSome = true) (h : createClub site now name u = .ok site') :
    Owned site' := by
  have hold : ∀ x ∈ site.usersXClubs.rows, x.clubId ≠ site.clubs.next := by
    intro x hx hnext
    have hclub := hs.clubs x hx
    rw [hnext, Table.find?_next] at hclub
    cases hclub
  rw [createClub_ok h]
  refine ⟨hs.isolated, fun x hx => ?_, fun x hx => ?_, fun x hx y hy hxy => ?_, fun t ht => ?_⟩
  · rcases (Table.mem_insert _).mp hx with hx | rfl
    · exact hs.users x hx
    · exact hu
  · rcases (Table.mem_insert _).mp hx with hx | rfl
    · exact (congrArg Option.isSome (Table.find?_insert_of_ne _ (hold x hx))).trans (hs.clubs x hx)
    · exact congrArg Option.isSome (Table.find?_insert_self _)
  · rcases (Table.mem_insert _).mp hx with hx | rfl
    · rcases (Table.mem_insert _).mp hy with hy | rfl
      · exact hs.once x hx y hy hxy
      · exact absurd hxy (hold x hx)
    · rcases (Table.mem_insert _).mp hy with hy | rfl
      · exact absurd hxy.symm (hold y hy)
      · rfl
  · obtain ⟨x, hx, hclub⟩ := hs.tournaments t ht
    exact ⟨x, (Table.mem_insert _).mpr (Or.inl hx), hclub⟩

/-- A club that is deleted has no tournaments. -/
theorem sqlDeleteClub_unused {clubId : ClubId} (hclub : (site.clubs.find? clubId).isSome = true)
    (h : sqlDeleteClub site clubId = .ok site') :
    ∀ t ∈ site.db.tournaments.rows, t.clubId ≠ clubId := by
  intro t ht hof
  unfold sqlDeleteClub at h
  have hany : site.db.tournaments.rows.any (·.clubId == clubId) = true :=
    List.any_eq_true.mpr ⟨t, ht, beq_iff_eq.mpr hof⟩
  rw [hany, hclub] at h
  cases h

theorem Owned.noClub (hs : Owned site) {clubId : ClubId}
    (hclub : (site.clubs.find? clubId).isSome = true)
    (h : sqlDeleteClub site clubId = .ok site') : Owned site' := by
  have hunused := sqlDeleteClub_unused hclub h
  rw [sqlDeleteClub_ok h]
  refine ⟨hs.isolated, fun x hx => ?_, fun x hx => ?_, fun x hx y hy hxy => ?_, fun t ht => ?_⟩
  · exact hs.users x ((Table.mem_delete _).mp hx).1
  · obtain ⟨hx, hkept⟩ := (Table.mem_delete _).mp hx
    obtain ⟨c, hc⟩ := Option.isSome_iff_exists.mp (hs.clubs x hx)
    have hid : c.id = x.clubId := site.clubs.key_of_find? hc
    dsimp only
    rw [Table.find?_delete, hc, Option.filter_some_pos]
    · rfl
    · rw [hid, hkept]
      rfl
  · exact hs.once x ((Table.mem_delete _).mp hx).1 y ((Table.mem_delete _).mp hy).1 hxy
  · obtain ⟨x, hx, hof⟩ := hs.tournaments t ht
    refine ⟨x, (Table.mem_delete _).mpr ⟨hx, beq_eq_false_iff_ne.mpr ?_⟩, hof⟩
    exact hof ▸ hunused t ht

/-- **Every request keeps the tournaments owned.** -/
theorem Owned.effect (hs : Owned site) (h : a.Effect cfg site site' token) : Owned site' := by
  have hstays := fun u (hu : (site.users.find? u).isSome = true) => h.user_stays hu
  cases h with
  | nothing => exact hs
  | login => exact hs
  | rehash => exact hs.of_users hstays rfl rfl rfl
  | register _ stored =>
    obtain ⟨users, rfl⟩ := createUser_site stored
    exact hs.of_users hstays rfl rfl rfl
  | details _ _ stored =>
    obtain ⟨users, rfl⟩ := updateUser_site stored
    exact hs.of_users hstays rfl rfl rfl
  | password => exact hs.of_users hstays rfl rfl rfl
  | newClub _ signed _ stored =>
    obtain ⟨row, hrow⟩ := Arrival.user_stored signed
    exact hs.newClub (hrow ▸ rfl) stored
  | noClub _ _ access stored =>
    obtain ⟨x, hx, -, rfl⟩ := getUserAccessToClub_iff.mp access
    exact hs.noClub (hs.clubs x hx) stored
  | @renameClub user clubId name _ _ _ _ stored =>
    rw [writeClubs_ok stored]
    refine ⟨hs.isolated, hs.users, fun x hx => ?_, hs.once, hs.tournaments⟩
    dsimp only
    rw [isSome_update]
    exact hs.clubs x hx
  | newTournament _ _ access stored =>
    refine hs.of_call stored fun body hbody => ?_
    cases hbody
    obtain ⟨x, hx, -, hclub⟩ := getUserAccessToClub_iff.mp access
    exact ⟨x, hx, hclub⟩
  | @tournament _ tid r _ _ _ _ stored =>
    have hcall : (Call.request tid r).handle a.env site.db = .ok _ := stored
    exact hs.of_call hcall nofun

/-- **What another user's request does to a tournament**: nothing. -/
theorem Arrival.Effect.others (hs : Owned site) (h : a.Effect cfg site site' token)
    {tid : TournamentId} {u : UserId} (howner : getUserAccessToTournament site tid u = true)
    (hother : ∀ user, a.user cfg site = some user → user.id ≠ u) :
    SameFor tid site.db site'.db ∧ getUserAccessToTournament site' tid u = true := by
  have hsame : site'.usersXClubs = site.usersXClubs → SameFor tid site.db site'.db →
      getUserAccessToTournament site' tid u = true := by
    intro haccess hsame
    obtain ⟨t, ht, hx⟩ := getUserAccessToTournament_iff.mp howner
    exact getUserAccessToTournament_iff.mpr ⟨t, hsame.tournament.trans ht, haccess ▸ hx⟩
  obtain ⟨t, ht, x, hx, rfl, hclub⟩ := getUserAccessToTournament_iff.mp howner
  cases h with
  | nothing => exact ⟨.refl _ _, howner⟩
  | login => exact ⟨.refl _ _, howner⟩
  | rehash => exact ⟨.refl _ _, hsame rfl (.refl _ _)⟩
  | register _ stored =>
    obtain ⟨users, rfl⟩ := createUser_site stored
    exact ⟨.refl _ _, hsame rfl (.refl _ _)⟩
  | details _ _ stored =>
    obtain ⟨users, rfl⟩ := updateUser_site stored
    exact ⟨.refl _ _, hsame rfl (.refl _ _)⟩
  | password => exact ⟨.refl _ _, hsame rfl (.refl _ _)⟩
  | newClub _ _ _ stored =>
    rw [createClub_ok stored]
    exact ⟨.refl _ _, getUserAccessToTournament_iff.mpr
      ⟨t, ht, x, (Table.mem_insert _).mpr (Or.inl hx), rfl, hclub⟩⟩
  | noClub _ signed access stored =>
    -- the club is the other user's, so it is not the tournament's
    obtain ⟨y, hy, hyuser, rfl⟩ := getUserAccessToClub_iff.mp access
    rw [sqlDeleteClub_ok stored]
    refine ⟨.refl _ _, getUserAccessToTournament_iff.mpr ⟨t, ht, x,
      (Table.mem_delete _).mpr ⟨hx, beq_eq_false_iff_ne.mpr fun heq => ?_⟩, rfl, hclub⟩⟩
    obtain rfl := hs.once x hx y hy heq
    exact hother _ signed hyuser.symm
  | renameClub _ _ _ stored =>
    rw [writeClubs_ok stored] at hsame ⊢
    exact ⟨.refl _ _, hsame rfl (.refl _ _)⟩
  | newTournament _ _ _ stored =>
    have hne : tid ≠ site.db.tournaments.next := by
      rintro rfl
      rw [Table.find?_next] at ht
      cases ht
    have hkept := (Confined.call hs.isolated stored).same tid hne
    exact ⟨hkept, hsame rfl hkept⟩
  | tournament _ signed access stored =>
    have hne : tid ≠ _ := fun heq => hother _ signed (hs.unique (heq ▸ access) howner)
    have hkept := (Confined.handle hs.isolated stored).same tid hne
    exact ⟨hkept, hsame rfl hkept⟩

end Step

/-! ## 3. Runs -/

section Runs

variable (L : Libraries) (cfg : Config) {F : Type} (lim : SiteLimiter F)

theorem reached_owned {L cfg lim} (hL : L.Lawful) (counters : F) (arrivals : List (Arrival L)) :
    Owned (reached L cfg lim counters arrivals).site :=
  Backend.run_invariant hL (fun _ _ _ _ _ hs h => Owned.effect hs h) owned_empty

/-- **Whatever requests are sent, a tournament has exactly one user who may work on it.** -/
theorem one_owner (hL : L.Lawful) (counters : F) (arrivals : List (Arrival L)) {t : TournamentRow}
    (ht : t ∈ (reached L cfg lim counters arrivals).site.db.tournaments.rows) :
    ∃! u, getUserAccessToTournament (reached L cfg lim counters arrivals).site t.id u = true ∧
      ((reached L cfg lim counters arrivals).site.users.find? u).isSome = true := by
  have hs : Owned (reached L cfg lim counters arrivals).site := reached_owned hL counters arrivals
  obtain ⟨x, hx, hclub⟩ := hs.tournaments t ht
  have hfind := Table.find?_key _ ht
  have haccess := getUserAccessToTournament_iff.mpr ⟨t, hfind, x, hx, rfl, hclub⟩
  exact ⟨x.userId, ⟨haccess, hs.users x hx⟩, fun v hv => hs.unique hv.1 haccess⟩

theorem others_run {L cfg lim} (hL : L.Lawful) {after : List (Arrival L)} {b : Backend F}
    (hb : Owned b.site) {tid : TournamentId} {u : UserId}
    (howner : getUserAccessToTournament b.site tid u = true)
    (hothers : ∀ p a q, after = p ++ a :: q → ∀ user,
      a.user cfg (b.run L cfg lim p).site = some user → user.id ≠ u) :
    SameFor tid b.site.db (b.run L cfg lim after).site.db ∧
      getUserAccessToTournament (b.run L cfg lim after).site tid u = true := by
  induction after generalizing b with
  | nil => exact ⟨.refl _ _, howner⟩
  | cons a after ih =>
    have heffect : a.Effect cfg b.site (b.serve L cfg lim a).2.site
        (answeredToken (b.serve L cfg lim a).1) := b.serve_effect hL a
    obtain ⟨hsame, howner'⟩ := heffect.others hb howner (hothers [] a after rfl)
    obtain ⟨hrest, hfinal⟩ := ih (hb.effect heffect) howner' fun p e q hafter =>
      hothers (a :: p) e q (congrArg (a :: ·) hafter)
    exact ⟨hsame.trans hrest, hfinal⟩

/-- **As long as its owner sends nothing, a tournament stays as it is and the owner's**, whatever
    requests are sent. -/
theorem others_keep_out (hL : L.Lawful) (counters : F) (before after : List (Arrival L))
    {tid : TournamentId} {u : UserId}
    (howner : getUserAccessToTournament (reached L cfg lim counters before).site tid u = true)
    (hothers : ∀ p a q, after = p ++ a :: q → ∀ user,
      a.user cfg (reached L cfg lim counters (before ++ p)).site = some user → user.id ≠ u) :
    SameFor tid (reached L cfg lim counters before).site.db
        (reached L cfg lim counters (before ++ after)).site.db ∧
      (∀ f, fullTournamentDetails (reached L cfg lim counters (before ++ after)).site.db tid f =
        fullTournamentDetails (reached L cfg lim counters before).site.db tid f) ∧
      ∀ v, getUserAccessToTournament (reached L cfg lim counters (before ++ after)).site tid v =
        true ↔ v = u := by
  have hs : Owned (reached L cfg lim counters before).site := reached_owned hL counters before
  have hs' : Owned (reached L cfg lim counters (before ++ after)).site := reached_owned hL counters _
  simp only [reached_append] at hothers hs' ⊢
  obtain ⟨hsame, hfinal⟩ := others_run hL hs howner hothers
  exact ⟨hsame, hsame.details hs.isolated hs'.isolated, fun v => ⟨fun hv => hs'.unique hv hfinal, fun h => h ▸ hfinal⟩⟩

end Runs

/-! ### Ann's cup -/

section Cup

def chessCup : TournamentBody := ⟨⟨0, true, none, 30, 9, by decide, by decide⟩, 1⟩

def annFoundsClub : Arrival plainLibraries :=
  ⟨quietEnvironment, 2, annsAddress, bearer annToken, .createNewClub "Chess club"⟩

def annOpensCup : Arrival plainLibraries :=
  ⟨quietEnvironment, 3, annsAddress, bearer annToken, .call (.createTournament chessCup)⟩

/-- The site with Ann's club and cup. -/
def cupSite : Outcome Site := do
  let site ← createClub annRegistered.2.site 0 "Chess club" 1
  let db ← (Call.createTournament chessCup).handle quietEnvironment site.db
  .ok { site with db := db }

theorem cupSite_owned : ∃ site, cupSite = .ok site ∧ getUserAccessToTournament site 1 1 = true :=
  exists_ok_of_any (by decide +kernel)

theorem annFoundsClub_served {b : Backend MemoryCounts} {user : UserPublic} {site : Site}
    (huser : signedInUser plainLibraries plainConfig b.site 0 (bearer annToken) = some user)
    (hfew : (getClubsForUserId b.site user.id).length = 0)
    (hstored : createClub b.site 0 "Chess club" user.id = .ok site) :
    (b.serve plainLibraries plainConfig memoryLimits annFoundsClub).2 = ⟨site, b.counters⟩ := by
  have hhandle : annFoundsClub.handle plainLibraries plainConfig b.site = .ok (site, none) := by
    have huser' : userAuthenticated plainLibraries plainConfig b.site 0 (bearer annToken) =
        .ok user := userAuthenticated_eq_ok.mpr huser
    unfold Arrival.handle annFoundsClub createNewClub
    dsimp only [Arrival.now, quietEnvironment]
    rw [huser']
    dsimp only [bind, Except.bind]
    rw [hfew, hstored]
    rfl
  have hserve : b.serve plainLibraries plainConfig memoryLimits annFoundsClub =
      b.respond (annFoundsClub.handle plainLibraries plainConfig b.site) b.counters := rfl
  rw [hserve, hhandle]
  rfl

theorem annOpensCup_served {b : Backend MemoryCounts} {user : UserPublic} {db : Database}
    (huser : signedInUser plainLibraries plainConfig b.site 0 (bearer annToken) = some user)
    (haccess : getUserAccessToClub b.site 1 user.id = true)
    (hstored : (Call.createTournament chessCup).handle quietEnvironment b.site.db = .ok db) :
    (b.serve plainLibraries plainConfig memoryLimits annOpensCup).2 =
      ⟨{ b.site with db := db }, b.counters⟩ := by
  have hhandle : annOpensCup.handle plainLibraries plainConfig b.site =
      .ok ({ b.site with db := db }, none) := by
    have huser' : userAuthenticated plainLibraries plainConfig b.site 0 (bearer annToken) =
        .ok user := userAuthenticated_eq_ok.mpr huser
    have hclub : getUserAccessToClub b.site chessCup.clubId user.id = true := haccess
    unfold Arrival.handle annOpensCup handleCall
    dsimp only [quietEnvironment] at hstored ⊢
    rw [huser']
    dsimp only [bind, Except.bind]
    rw [hclub, hstored]
    rfl
  have hserve : b.serve plainLibraries plainConfig memoryLimits annOpensCup =
      b.respond (annOpensCup.handle plainLibraries plainConfig b.site) b.counters := rfl
  rw [hserve, hhandle]
  rfl

/-- Ann registers, founds a club and opens a cup. -/
def annsRun : List (Arrival plainLibraries) := [annRegisters, annFoundsClub, annOpensCup]

theorem reached_annsRun : ∃ site, cupSite = .ok site ∧
    reached plainLibraries plainConfig memoryLimits noCounts annsRun =
      ⟨site, annRegistered.2.counters⟩ ∧
    site.hashOf 1 = some (Plain.hash 1 "correct-horse-battery") := by
  obtain ⟨site, hcup, haccess⟩ := cupSite_owned
  refine ⟨site, hcup, ?_⟩
  obtain ⟨club, hclub, hcup⟩ := bind_eq_ok.mp hcup
  obtain ⟨db, hdb, hcup⟩ := bind_eq_ok.mp hcup
  cases hcup
  -- the club
  have hhash := annRegistered_hash.2
  obtain ⟨user, huser, hid⟩ := ann_signedIn hhash
  have hfew : (getClubsForUserId annRegistered.2.site 1).length = 0 := by decide +kernel
  have hfounded := annFoundsClub_served huser (hid ▸ hfew) (hid ▸ hclub)
  -- the cup
  have hhash' : club.hashOf 1 = some (Plain.hash 1 "correct-horse-battery") :=
    createClub_ok hclub ▸ hhash
  obtain ⟨user', huser', hid'⟩ := ann_signedIn hhash'
  have hmine : getUserAccessToClub club 1 1 = true := by
    have hany : ((createClub annRegistered.2.site 0 "Chess club" 1).toOption.any fun s =>
        getUserAccessToClub s 1 1) = true := by decide +kernel
    rwa [hclub] at hany
  have hopened := annOpensCup_served (b := ⟨club, annRegistered.2.counters⟩) huser'
    (hid' ▸ hmine) hdb
  have hrun : annsRun = (([] ++ [annRegisters]) ++ [annFoundsClub]) ++ [annOpensCup] := rfl
  have hregistered : reached plainLibraries plainConfig memoryLimits noCounts
      ([] ++ [annRegisters]) = annRegistered.2 := reached_concat _ _ _ _ _ _
  rw [hrun, reached_concat, reached_concat, hregistered, hfounded, hopened]
  exact ⟨rfl, hhash'⟩

theorem ann_owns_cup : getUserAccessToTournament
    (reached plainLibraries plainConfig memoryLimits noCounts annsRun).site 1 1 = true := by
  obtain ⟨site, hcup, hrun, -⟩ := reached_annsRun
  obtain ⟨site', hcup', haccess⟩ := cupSite_owned
  obtain rfl : site = site' := Except.ok.inj (hcup.symm.trans hcup')
  rw [hrun]
  exact haccess

/-- A request of Ann's for the cup. -/
def annAsks (r : Request) : Arrival plainLibraries :=
  ⟨quietEnvironment, 4, annsAddress, bearer annToken, .call (.request 1 r)⟩

theorem annAsks_served {b : Backend MemoryCounts} {user : UserPublic} {db : Database}
    {r : Request}
    (huser : signedInUser plainLibraries plainConfig b.site 0 (bearer annToken) = some user)
    (haccess : getUserAccessToTournament b.site 1 user.id = true)
    (hstored : r.handle quietEnvironment b.site.db 1 = .ok db) :
    (b.serve plainLibraries plainConfig memoryLimits (annAsks r)).2 =
      ⟨{ b.site with db := db }, b.counters⟩ := by
  have hhandle : (annAsks r).handle plainLibraries plainConfig b.site =
      .ok ({ b.site with db := db }, none) := by
    have huser' : userAuthenticatedForTournament plainLibraries plainConfig b.site 0
        (bearer annToken) 1 = .ok user := userAuthenticatedForTournament_eq_ok.mpr ⟨huser, haccess⟩
    have hcall : (Call.request 1 r).handle quietEnvironment b.site.db = .ok db := hstored
    unfold Arrival.handle annAsks handleCall
    dsimp only [quietEnvironment] at hcall ⊢
    rw [huser']
    dsimp only [bind, Except.bind]
    rw [hcall]
  have hserve : b.serve plainLibraries plainConfig memoryLimits (annAsks r) =
      b.respond ((annAsks r).handle plainLibraries plainConfig b.site) b.counters := rfl
  rw [hserve, hhandle]
  rfl

/-- What is stored after requests of Ann's for the cup, as long as it is hers. -/
def askAll (site : Site) (db : Database) (rs : List Request) : Outcome Database :=
  rs.foldlM (fun db r => do
    require (getUserAccessToTournament { site with db := db } 1 1) couldNotValidate
    r.handle quietEnvironment db 1) db

theorem run_annAsks {rs : List Request} {b : Backend MemoryCounts} {db : Database}
    (hhash : b.site.hashOf 1 = some (Plain.hash 1 "correct-horse-battery"))
    (hdb : askAll b.site b.site.db rs = .ok db) :
    Backend.run plainLibraries plainConfig memoryLimits b (rs.map annAsks) =
      ⟨{ b.site with db := db }, b.counters⟩ := by
  induction rs generalizing b with
  | nil =>
    cases hdb
    rfl
  | cons r rs ih =>
    unfold askAll at hdb
    rw [List.foldlM_cons] at hdb
    obtain ⟨db1, h1, hdb⟩ := bind_eq_ok.mp hdb
    obtain ⟨_, haccess, h1⟩ := bind_eq_ok.mp h1
    obtain ⟨user, huser, hid⟩ := ann_signedIn hhash
    have hmine : getUserAccessToTournament b.site 1 1 = true := require_eq_ok.mp haccess
    have hserved := annAsks_served huser (hid.symm ▸ hmine) h1
    have hrun : Backend.run plainLibraries plainConfig memoryLimits b ((r :: rs).map annAsks) =
        Backend.run plainLibraries plainConfig memoryLimits ⟨{ b.site with db := db1 }, b.counters⟩
          (rs.map annAsks) := hserved ▸ rfl
    exact hrun.trans (@ih ⟨{ b.site with db := db1 }, b.counters⟩ hhash hdb)

/-- The site after the cup and more requests of Ann's. -/
theorem reached_annAsks {rs : List Request} {site : Site} {db : Database}
    (hcup : cupSite = .ok site) (hdb : askAll site site.db rs = .ok db) :
    reached plainLibraries plainConfig memoryLimits noCounts (annsRun ++ rs.map annAsks) =
      ⟨{ site with db := db }, annRegistered.2.counters⟩ := by
  obtain ⟨site', hcup', hrun, hhash⟩ := reached_annsRun
  obtain rfl : site = site' := Except.ok.inj (hcup.symm.trans hcup')
  rw [reached_append, hrun]
  exact @run_annAsks rs ⟨site, _⟩ db hhash hdb

def bobsRegistration : UserToRegister plainLibraries where
  email := "bob@example.org"
  name := "Bob"
  password := "correct-horse-battery"
  email_normal := ⟨"bob@example.org", Plain.normalizeEmail_address (by decide)⟩
  password_strong := Plain.strong_password _

def bobRegisters : Arrival plainLibraries :=
  ⟨quietEnvironment, 4, bobsAddress, {}, .registerUser bobsRegistration⟩

def bobDeletes : Arrival plainLibraries :=
  ⟨quietEnvironment, 5, bobsAddress, bearer (createAccessToken plainLibraries plainConfig 0 2
    (Plain.hash 4 "correct-horse-battery")), .call (.request 1 .deleteTournament)⟩

/-- Bob registers too, and asks to delete the cup. -/
def bobsRun : List (Arrival plainLibraries) := [bobRegisters, bobDeletes]

/-- Ann sends none of the requests. -/
theorem bobsRun_others (b : Backend MemoryCounts) : ∀ p a q, bobsRun = p ++ a :: q → ∀ user,
    a.user plainConfig (b.run plainLibraries plainConfig memoryLimits p).site = some user →
      user.id ≠ 1 := by
  intro p a q hrun user huser
  -- the registration comes without a token, the other request with Bob's
  cases p with
  | nil =>
    cases hrun
    cases huser
  | cons e p =>
    cases p with
    | nil =>
      cases hrun
      obtain ⟨token, htoken, huser⟩ := Option.bind_eq_some_iff.mp huser
      have hbearer : getToken bobDeletes.headers = some _ := getToken_bearer (accessToken_ne _ _ _)
      obtain rfl := Option.some.inj (hbearer.symm.trans htoken)
      obtain ⟨-, row, hrow, -, rfl⟩ := (checkJwtAndGetUser_issued plainLibraries_lawful).mp huser
      have hid : row.id = 2 := Table.key_of_find? _ hrow
      exact fun hann => absurd (hid.symm.trans hann) (by decide)
    | cons e' p => cases p <;> cases hrun

theorem annsCup_kept : SameFor 1
    (reached plainLibraries plainConfig memoryLimits noCounts annsRun).site.db
    (reached plainLibraries plainConfig memoryLimits noCounts (annsRun ++ bobsRun)).site.db ∧
    getUserAccessToTournament (reached plainLibraries plainConfig memoryLimits noCounts
      (annsRun ++ bobsRun)).site 1 2 = false := by
  have hothers := bobsRun_others
    (reached plainLibraries plainConfig memoryLimits noCounts annsRun)
  simp only [← reached_append] at hothers
  obtain ⟨hsame, -, howner⟩ := others_keep_out plainLibraries plainConfig memoryLimits
    plainLibraries_lawful noCounts annsRun bobsRun ann_owns_cup hothers
  exact ⟨hsame, Bool.eq_false_iff.mpr fun h => absurd ((howner 2).mp h) (by decide)⟩

/-- Bob is registered, whatever becomes of his request. -/
theorem bob_registered : ((reached plainLibraries plainConfig memoryLimits noCounts
    (annsRun ++ bobsRun)).site.users.find? 2).isSome = true := by
  obtain ⟨site, hcup, hrun, -⟩ := reached_annsRun
  obtain ⟨site', hcup', hbob⟩ := exists_ok_of_any (x := cupSite) (P := fun site =>
    ((Backend.serve plainLibraries plainConfig memoryLimits ⟨site, annRegistered.2.counters⟩
      bobRegisters).2.site.users.find? 2).isSome = true) (by decide +kernel)
  obtain rfl : site = site' := Except.ok.inj (hcup.symm.trans hcup')
  have hboth : annsRun ++ bobsRun = (annsRun ++ [bobRegisters]) ++ [bobDeletes] := rfl
  rw [hboth, reached_concat]
  refine (Backend.serve_effect plainLibraries_lawful _ _).user_stays ?_
  rw [reached_concat, hrun]
  exact hbob

/-- There is Bob, but the cup is Ann's alone. -/
theorem annsCup_one_owner : ((reached plainLibraries plainConfig memoryLimits noCounts
      (annsRun ++ bobsRun)).site.users.find? 2).isSome = true ∧
    ∃ t ∈ (reached plainLibraries plainConfig memoryLimits noCounts
      (annsRun ++ bobsRun)).site.db.tournaments.rows, t.id = 1 ∧
      ∃! u, getUserAccessToTournament (reached plainLibraries plainConfig memoryLimits noCounts
          (annsRun ++ bobsRun)).site t.id u = true ∧
        ((reached plainLibraries plainConfig memoryLimits noCounts
          (annsRun ++ bobsRun)).site.users.find? u).isSome = true := by
  obtain ⟨t, ht, -⟩ := getUserAccessToTournament_iff.mp ann_owns_cup
  have hsame := (others_run plainLibraries_lawful (reached_owned plainLibraries_lawful noCounts _)
    ann_owns_cup (bobsRun_others _)).1
  rw [← reached_append] at hsame
  have hkept := hsame.tournament.trans ht
  have hmem := Table.mem_of_find? _ hkept
  exact ⟨bob_registered, t, hmem, Table.key_of_find? _ hkept,
    one_owner plainLibraries plainConfig memoryLimits plainLibraries_lawful noCounts
      (annsRun ++ bobsRun) hmem⟩

end Cup

end Brackets
