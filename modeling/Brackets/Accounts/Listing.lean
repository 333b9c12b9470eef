/-
  File:      Brackets/Accounts/Listing.lean
  Subject:   Which tournaments are shown to whom: `get_tournament` and `get_tournaments`.

  * Who asks for one tournament is its organizer or a visitor (`caller`), and a visitor reads it
    while it is open or its dashboard public.
  * The list is asked for by endpoint, by a signed-in user, or by anyone.
  * `listed_iff`: a list shows exactly those of the tournaments asked for that the same request may
    read one by one. For this no two tournaments may share an endpoint (`EndpointsApart`).
-/
import Brackets.Accounts.Ownership
import Brackets.Ranking.Storage

namespace Brackets

open Library

/-! ## 1. The statements -/

/-- `filter_` of `get_tournaments`. -/
inductive TournamentFilter where
  | all
  | opened
  | archived
  deriving DecidableEq, Repr

def TournamentFilter.admits (filter : TournamentFilter) (status : TournamentStatus) : Bool :=
  match filter with
  | .all => true
  | .opened => status == .opened
  | .archived => status == .archived

section Statements

variable (db : Database)

def sqlGetTournamentByEndpointName (endpointName : String) : Option TournamentRow :=
  db.tournaments.rows.find? fun t => t.dashboardEndpoint == some endpointName && t.dashboardPublic

def sqlGetTournaments (clubIds : List ClubId) (endpointName : Option String)
    (filter : TournamentFilter) : List TournamentRow :=
  db.tournaments.rows.filter fun t => clubIds.contains t.clubId &&
    endpointName.all (fun e => t.dashboardEndpoint == some e) && filter.admits t.status

/-- Running tournaments first, then the most recent ones. -/
def TournamentRow.listedBefore (a b : TournamentRow) : Bool :=
  if (a.status == .archived) = (b.status == .archived) then decide (b.startTime ≤ a.startTime)
  else b.status == .archived

def sqlGetPublicTournaments (filter : TournamentFilter) : List TournamentRow :=
  (db.tournaments.rows.filter fun t => (t.status == .opened || t.dashboardPublic) &&
    filter.admits t.status).insertionSort (TournamentRow.listedBefore · ·)

end Statements

/-! ## 2. The routes -/

section Routes

variable (L : Libraries) (cfg : Config) (site : Site) (now : DateTime) (headers : Headers)

/-- Who asks, by the token of the request. -/
def caller (tid : TournamentId) : Caller :=
  match signedInUser L cfg site now headers with
  | some user => if getUserAccessToTournament site tid user.id then .organizer else .visitor
  | none => .visitor

def getTournament (tid : TournamentId) : Outcome TournamentRow := do
  userAuthenticatedOrPublicDashboard site.db tid (caller L cfg site now headers tid)
  sqlGetTournament site.db tid

/-- The user that a list is for; none for everyone. -/
def userAuthenticatedOrPublicDashboardByEndpointName (endpointName : Option String) :
    Outcome (Option UserPublic) :=
  match endpointName, getToken headers with
  | some e, _ => do
    let _ ← orRaise (sqlGetTournamentByEndpointName site.db e) couldNotValidate
    .ok none
  | none, none => .ok none
  | none, some _ => do
    let user ← userAuthenticated L cfg site now headers
    .ok (some user)

def getTournaments (filter : TournamentFilter) (endpointName : Option String) :
    Outcome (List TournamentRow) := do
  let user ←
    userAuthenticatedOrPublicDashboardByEndpointName L cfg site now headers endpointName
  match user, endpointName with
  | none, none => .ok (sqlGetPublicTournaments site.db filter)
  | _, some e => do
    let tournament ← orRaise (sqlGetTournamentByEndpointName site.db e)
      (notFound "Can't find this tournament")
    .ok [tournament]
  | some user, none =>
    .ok (sqlGetTournaments site.db (getWhichClubsHasUserAccessTo site user.id) none filter)

end Routes

/-! ## 3. Endpoints -/

/-- No two tournaments share an endpoint. -/
def EndpointsApart (db : Database) : Prop :=
  ∀ t ∈ db.tournaments.rows, ∀ t' ∈ db.tournaments.rows, ∀ e,
    t.dashboardEndpoint = some e → t'.dashboardEndpoint = some e → t = t'

section Endpoints

variable {db db' : Database}

theorem EndpointsApart.of_unique (h : noTwoAgree (·.dashboardEndpoint) db.tournaments.rows = true) :
    EndpointsApart db := fun _ ht _ ht' _ => noTwoAgree_inj h ht ht'

/-- A write that keeps the endpoint. -/
theorem EndpointsApart.update (h : EndpointsApart db) {p : TournamentRow → Bool}
    {f : TournamentRow → TournamentRow} {hkey : ∀ t, key (f t) = key t}
    (hsame : db'.tournaments = db.tournaments.update p f hkey)
    (hf : ∀ t, (f t).dashboardEndpoint = t.dashboardEndpoint) : EndpointsApart db' := by
  have hkept : ∀ t, (if p t then f t else t).dashboardEndpoint = t.dashboardEndpoint := by
    intro t
    split
    · exact hf t
    · rfl
  intro t ht t' ht' e he he'
  rw [hsame] at ht ht'
  obtain ⟨old, hold, rfl⟩ := mem_update_tournaments ht
  obtain ⟨old', hold', rfl⟩ := mem_update_tournaments ht'
  rw [hkept] at he he'
  rw [h old hold old' hold' e he he']

/-- **Every call keeps the endpoints apart.** -/
theorem EndpointsApart.call (hdb : Isolated db) (hapart : EndpointsApart db) {env : Environment}
    {call : Call} (h : call.handle env db = .ok db') : EndpointsApart db' := by
  cases Call.tournamentEffect hdb h with
  | kept hsame =>
    unfold EndpointsApart
    rw [hsame]
    exact hapart
  | created _ unique => exact .of_unique unique
  | settings _ unique => exact .of_unique unique
  | status hsame => exact hapart.update hsame fun _ => rfl
  | logo hsame => exact hapart.update hsame fun _ => rfl
  | deleted hsame =>
    have hmem : ∀ t ∈ db'.tournaments.rows, t ∈ db.tournaments.rows := by
      rw [hsame]
      exact fun t ht => (db.tournaments.mem_delete.mp ht).1
    exact fun t ht t' ht' => hapart t (hmem t ht) t' (hmem t' ht')

end Endpoints

/-! ## 4. What is shown -/

section Shown

variable (L : Libraries) (cfg : Config) (site : Site) (now : DateTime) (headers : Headers)

/-- A tournament that a list is asked for: the one of the endpoint, or those of the status and of
    the signed-in user. -/
def Asked (filter : TournamentFilter) (endpointName : Option String) (t : TournamentRow) : Prop :=
  match endpointName with
  | some e => t.dashboardPublic = true ∧ t.dashboardEndpoint = some e
  | none => filter.admits t.status = true ∧ ∀ user, signedInUser L cfg site now headers = some user →
      getUserAccessToTournament site t.id user.id = true

variable {L cfg site now headers}

/-- Organizers read a tournament, and visitors while it is open or public. -/
theorem getTournament_eq_ok {tid : TournamentId} {t : TournamentRow} :
    getTournament L cfg site now headers tid = .ok t ↔ site.db.tournaments.find? tid = some t ∧
      (caller L cfg site now headers tid = .organizer ∨ t.dashboardPublic = true ∨
        t.status = .opened) := by
  unfold getTournament userAuthenticatedOrPublicDashboard sqlGetTournament
  cases caller L cfg site now headers tid with
  | organizer =>
    rw [ok_bind, orRaise_eq_ok]
    simp
  | visitor =>
    cases hfind : site.db.tournaments.find? tid with
    | none => simp [require, bind, Except.bind]
    | some row =>
      rw [Option.any_some]
      cases hreads : row.dashboardPublic || row.status == .opened with
      | true =>
        rw [require, if_pos rfl, ok_bind, orRaise_some]
        rw [Bool.or_eq_true, beq_iff_eq] at hreads
        constructor
        · intro h
          cases h
          exact ⟨rfl, .inr hreads⟩
        · rintro ⟨h, -⟩
          cases h
          rfl
      | false =>
        rw [Bool.or_eq_false_iff, beq_eq_false_iff_ne] at hreads
        constructor
        · intro h
          cases h
        · rintro ⟨h, hcaller | hpublic | hopen⟩
          · cases hcaller
          · cases h
            rw [hreads.1] at hpublic
            cases hpublic
          · cases h
            exact absurd hopen hreads.2

theorem caller_organizer {user : UserPublic} (huser : signedInUser L cfg site now headers = some user)
    {tid : TournamentId} (haccess : getUserAccessToTournament site tid user.id = true) :
    caller L cfg site now headers tid = .organizer := by
  unfold caller
  rw [huser]
  exact if_pos haccess

theorem caller_visitor (huser : signedInUser L cfg site now headers = none) (tid : TournamentId) :
    caller L cfg site now headers tid = .visitor := by
  unfold caller
  rw [huser]

/-- A tournament is the user's if one of the user's clubs has it. -/
theorem contains_club_iff {t : TournamentRow} (ht : t ∈ site.db.tournaments.rows) {u : UserId} :
    (getWhichClubsHasUserAccessTo site u).contains t.clubId = true ↔
      getUserAccessToTournament site t.id u = true := by
  rw [getUserAccessToTournament_iff, List.contains_iff_mem]
  unfold getWhichClubsHasUserAccessTo
  rw [List.mem_map]
  constructor
  · rintro ⟨x, hx, hclub⟩
    obtain ⟨hx, hu⟩ := List.mem_filter.mp hx
    exact ⟨t, Table.find?_key _ ht, x, hx, eq_of_beq hu, hclub⟩
  · rintro ⟨t', ht', x, hx, hu, hclub⟩
    obtain rfl : t' = t := Option.some.inj (ht'.symm.trans (Table.find?_key _ ht))
    exact ⟨x, List.mem_filter.mpr ⟨hx, beq_iff_eq.mpr hu⟩, hclub⟩

/-- The list for everyone. -/
theorem mem_public_iff (huser : signedInUser L cfg site now headers = none)
    {filter : TournamentFilter} {t : TournamentRow} :
    t ∈ sqlGetPublicTournaments site.db filter ↔
      getTournament L cfg site now headers t.id = .ok t ∧ Asked L cfg site now headers filter none t := by
  unfold sqlGetPublicTournaments Asked
  rw [List.mem_insertionSort, List.mem_filter, getTournament_eq_ok, caller_visitor huser, huser]
  simp only [Bool.and_eq_true, Bool.or_eq_true, beq_iff_eq]
  constructor
  · rintro ⟨ht, hreads, hadmits⟩
    exact ⟨⟨Table.find?_key _ ht, .inr hreads.symm⟩, hadmits, nofun⟩
  · rintro ⟨⟨ht, hreads⟩, hadmits, -⟩
    refine ⟨Table.mem_of_find? _ ht, (hreads.resolve_left nofun).symm, hadmits⟩

/-- The list of a signed-in user. -/
theorem mem_own_iff {user : UserPublic} (huser : signedInUser L cfg site now headers = some user)
    {filter : TournamentFilter} {t : TournamentRow} :
    t ∈ sqlGetTournaments site.db (getWhichClubsHasUserAccessTo site user.id) none filter ↔
      getTournament L cfg site now headers t.id = .ok t ∧ Asked L cfg site now headers filter none t := by
  unfold sqlGetTournaments Asked
  rw [List.mem_filter, getTournament_eq_ok, huser]
  simp only [Option.all_none, Bool.and_true, Bool.and_eq_true]
  constructor
  · rintro ⟨ht, hclub, hadmits⟩
    have haccess := (contains_club_iff ht).mp hclub
    refine ⟨⟨Table.find?_key _ ht, .inl (caller_organizer huser haccess)⟩, hadmits, fun u hu => ?_⟩
    cases hu
    exact haccess
  · rintro ⟨⟨ht, -⟩, hadmits, haccess⟩
    have ht := Table.mem_of_find? _ ht
    exact ⟨ht, (contains_club_iff ht).mpr (haccess user rfl), hadmits⟩

/-- The tournament of an endpoint. -/
theorem endpoint_iff (hapart : EndpointsApart site.db) {e : String} {found : TournamentRow}
    (hfound : sqlGetTournamentByEndpointName site.db e = some found) {filter : TournamentFilter}
    {t : TournamentRow} : t = found ↔ getTournament L cfg site now headers t.id = .ok t ∧
      Asked L cfg site now headers filter (some e) t := by
  unfold sqlGetTournamentByEndpointName at hfound
  have hmem := List.mem_of_find?_eq_some hfound
  have hfacts := List.find?_some hfound
  rw [Bool.and_eq_true, beq_iff_eq] at hfacts
  rw [getTournament_eq_ok]
  constructor
  · rintro rfl
    exact ⟨⟨Table.find?_key _ hmem, .inr (.inl hfacts.2)⟩, hfacts.2, hfacts.1⟩
  · rintro ⟨⟨ht, -⟩, -, he⟩
    exact hapart t (Table.mem_of_find? _ ht) found hmem e he hfacts.1

/-- Without a token nobody is signed in. -/
theorem signedInUser_none (h : getToken headers = none) : signedInUser L cfg site now headers = none := by
  unfold signedInUser
  rw [h]
  rfl

/-- What a list holds. -/
theorem mem_listed_iff (hapart : EndpointsApart site.db) {filter : TournamentFilter}
    {endpointName : Option String} {listed : List TournamentRow}
    (h : getTournaments L cfg site now headers filter endpointName = .ok listed) (t : TournamentRow) :
    t ∈ listed ↔ getTournament L cfg site now headers t.id = .ok t ∧
      Asked L cfg site now headers filter endpointName t := by
  obtain ⟨user, huser, h⟩ := bind_eq_ok.mp h
  unfold userAuthenticatedOrPublicDashboardByEndpointName at huser
  cases endpointName with
  | some e =>
    obtain ⟨_, -, huser⟩ := bind_eq_ok.mp huser
    cases huser
    obtain ⟨found, hfound, h⟩ := bind_eq_ok.mp h
    cases h
    rw [List.mem_singleton]
    exact endpoint_iff hapart (orRaise_eq_ok.mp hfound)
  | none =>
    cases htoken : getToken headers with
    | none =>
      rw [htoken] at huser
      cases huser
      cases h
      exact mem_public_iff (signedInUser_none htoken)
    | some token =>
      rw [htoken] at huser
      obtain ⟨user, hsigned, huser⟩ := bind_eq_ok.mp huser
      cases huser
      cases h
      exact mem_own_iff (userAuthenticated_eq_ok.mp hsigned)

end Shown

/-! ## 5. Runs -/

section Runs

variable (L : Libraries) (cfg : Config) {F : Type} (lim : SiteLimiter F)

/-- **A list shows exactly the tournaments asked for that the same request may read**, in every site
    that requests lead to. -/
theorem listed_iff (hL : L.Lawful) (counters : F) (arrivals : List (Arrival L)) {now : DateTime}
    {headers : Headers} {filter : TournamentFilter} {endpointName : Option String}
    {listed : List TournamentRow}
    (h : getTournaments L cfg (reached L cfg lim counters arrivals).site now headers filter
      endpointName = .ok listed) (t : TournamentRow) :
    t ∈ listed ↔
      getTournament L cfg (reached L cfg lim counters arrivals).site now headers t.id = .ok t ∧
        Asked L cfg (reached L cfg lim counters arrivals).site now headers filter endpointName t := by
  have hboth : Isolated (reached L cfg lim counters arrivals).site.db ∧
      EndpointsApart (reached L cfg lim counters arrivals).site.db := by
    refine Backend.run_invariant (P := fun site => Isolated site.db ∧ EndpointsApart site.db) hL
      (fun _ _ site site' _ hP heffect => ?_) ⟨isolated_empty, fun _ ht => absurd ht List.not_mem_nil⟩
    rcases heffect.db with hkept | ⟨call, -, hcall⟩
    · rw [hkept]
      exact hP
    · exact ⟨(Confined.call hP.1 hcall).isolated, hP.2.call hP.1 hcall⟩
  exact mem_listed_iff hboth.2 h t

end Runs

/-! ### The cup is listed -/

theorem cupSite_lists : ∃ site, cupSite = .ok site ∧
    ((getTournaments plainLibraries plainConfig site 4 {} .opened none).toOption.any fun listed =>
      decide (∃ t ∈ listed, t.id = 1)) = true :=
  exists_ok_of_any (by decide +kernel)

/-- Ann's cup is open, so everyone sees it in the list, and can read it. -/
theorem annsCup_listed : ∃ listed t, getTournaments plainLibraries plainConfig
      (reached plainLibraries plainConfig memoryLimits noCounts annsRun).site 4 {} .opened none =
        .ok listed ∧ t ∈ listed ∧ t.id = 1 ∧
    getTournament plainLibraries plainConfig
      (reached plainLibraries plainConfig memoryLimits noCounts annsRun).site 4 {} t.id = .ok t := by
  obtain ⟨site, hcup, hrun, -⟩ := reached_annsRun
  obtain ⟨site', hcup', hany⟩ := cupSite_lists
  obtain rfl : site = site' := Except.ok.inj (hcup.symm.trans hcup')
  obtain ⟨listed, hlisted, t, ht, hid⟩ := exists_ok_of_any hany
  have hsite : (reached plainLibraries plainConfig memoryLimits noCounts annsRun).site = site :=
    congrArg Backend.site hrun
  rw [← hsite] at hlisted
  have hiff := listed_iff plainLibraries plainConfig memoryLimits plainLibraries_lawful noCounts
    annsRun hlisted t
  exact ⟨listed, t, hlisted, ht, hid, (hiff.mp ht).1⟩

end Brackets
