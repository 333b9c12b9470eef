/-
  File:      Brackets/Frontend/TournamentBundle.lean
  Subject:   `fetchTournamentBundle` of `api.ts`: what a tournament page loads.

  A page sends its requests one after the other, and each of them finds the site of its own moment.
  Whether the draft rounds are answered tells the page who is an organizer.

  * `fetchStages_ok`: the stages of a page, by who asks;
  * `details_same_for_everyone`: on the Details pages everyone sees the same;
  * `drafts_for_organizers`: a page with draft rounds is the workspace of an organizer, whatever
    happens between its requests;
  * `page_holds_everyone`: a page has every team and player of the tournament.
-/
import Brackets.Frontend.DetailsLink
import Brackets.Progress.Activation
import Brackets.Progress.HiddenDrafts
import Brackets.Progress.Rosters

namespace Brackets

open Library

/-! ## 1. Requests of a page -/

/-- What a request finds. -/
structure Moment where
  site : Site
  now : DateTime

abbrev Moment.db (m : Moment) : Database := m.site.db

structure TournamentBundle where
  canManage : Bool
  tournament : TournamentRow
  stages : List StageWithStageItems
  players : List Player
  teams : List FullTeamWithPlayers
  rankings : List RankingRow
  standings : StageItemXTeamRanking
  availableInputs : Dict StageId (List StageItemInputOption)
  nextStageRankings : StageItemInputUpdates

def Failure.isAuthorizationError : Failure → Bool
  | .http statusCode _ => statusCode == 401 || statusCode == 403
  | .crash _ => false

def withoutDraftRounds (stages : List StageWithStageItems) : List StageWithStageItems :=
  stages.map fun stage => { stage with
    stageItems := stage.stageItems.map fun stageItem => { stageItem with
      rounds := stageItem.rounds.filter fun round => !round.isDraft } }

/-- `get_teams`, by name. -/
def getTeams (db : Database) (tid : TournamentId) (caller : Caller) (limit offset : Nat) :
    Outcome (List FullTeamWithPlayers × Nat) := do
  userAuthenticatedOrPublicDashboard db tid caller
  let teams := getTeamsWithMembers db tid
  .ok ((teams.drop offset).take limit, teams.length)

def getRankings (db : Database) (tid : TournamentId) (caller : Caller) : Outcome (List RankingRow) := do
  userAuthenticatedOrPublicDashboard db tid caller
  .ok (getAllRankingsInTournament db tid)

def answered {α : Type} (answer : Outcome α) : Except PageError α := answer.mapError .response

/-- The page of all players. -/
def allPlayers : PaginationPlayers := { limit := 500 }

section Page

variable (W : Browser) (E : ExpectedScore) (L : Libraries) (cfg : Config) (moments : Nat → Moment)
  (headers : Headers)

/-- Who the request of a moment comes from. -/
def Moment.caller (m : Moment) (tid : TournamentId) : Caller :=
  Brackets.caller L cfg m.site m.now headers tid

/-- The stages, and whether whoever is signed in can manage the tournament. -/
def fetchStages (tid : TournamentId) (isAuthenticated : Bool) :
    Except PageError (Bool × List StageWithStageItems) :=
  match getStages (moments 1).db tid ((moments 1).caller L cfg headers tid) (!isAuthenticated) with
  | .ok stages => .ok (isAuthenticated, stages)
  | .error failure =>
    if !isAuthenticated || !failure.isAuthorizationError then .error (.response failure)
    else do
      let stages ← answered (getStages (moments 2).db tid ((moments 2).caller L cfg headers tid) true)
      .ok (false, stages)

/-- What only the workspace of an organizer shows. -/
def fetchManagementData (tid : TournamentId) :
    Except PageError (Dict StageId (List StageItemInputOption) × StageItemInputUpdates) := do
  let _ ← answered
    (userAuthenticatedForTournament L cfg (moments 7).site (moments 7).now headers tid)
  let availableInputs ← answered (getAvailableInputs (moments 7).db tid)
  let _ ← answered
    (userAuthenticatedForTournament L cfg (moments 8).site (moments 8).now headers tid)
  let nextStageRankings ← answered (getNextStageRankings E (moments 8).db tid)
  .ok (availableInputs, nextStageRankings)

def fetchTournamentBundle (tournamentKey : String) (dashboardMode isAuthenticated : Bool) :
    Except PageError TournamentBundle := do
  let tournament ← fetchTournament W L cfg (moments 0).site (moments 0).now headers tournamentKey
    dashboardMode
  let tid := tournament.id
  let (canManage, stages) ← fetchStages L cfg moments headers tid isAuthenticated
  let players ← answered
    (getPlayers E (moments 3).db tid ((moments 3).caller L cfg headers tid) false allPlayers)
  let teams ← answered (getTeams (moments 4).db tid ((moments 4).caller L cfg headers tid) 500 0)
  let rankings ← answered (getRankings (moments 5).db tid ((moments 5).caller L cfg headers tid))
  let standings ← answered (standingsFor E (moments 6).db tid ((moments 6).caller L cfg headers tid))
  let managementData ← (if canManage && !dashboardMode then
    fetchManagementData E L cfg moments headers tid else .ok (.empty, .empty))
  .ok {
    canManage := canManage
    tournament := tournament
    stages := if dashboardMode then withoutDraftRounds stages else stages
    players := players.1
    teams := teams.1
    rankings := rankings
    standings := standings
    availableInputs := managementData.1
    nextStageRankings := managementData.2 }

end Page

/-! ## 2. Answers -/

section Answers

variable {α β : Type}

theorem page_bind_eq_ok {x : Except PageError α} {f : α → Except PageError β} {b : β} :
    (x >>= f) = .ok b ↔ ∃ a, x = .ok a ∧ f a = .ok b := by
  cases x with
  | error e => simp [bind, Except.bind]
  | ok a => simp [bind, Except.bind]

@[simp] theorem answered_eq_ok {x : Outcome α} {a : α} : answered x = .ok a ↔ x = .ok a := by
  cases x with
  | error e => simp [answered, Except.mapError]
  | ok a => simp [answered, Except.mapError]

end Answers

/-! ## 3. Drafts -/

section Drafts

variable {db : Database} {tid : TournamentId}

theorem withoutDraftRounds_eq (stages : List StageWithStageItems) :
    withoutDraftRounds stages = stages.map (·.published) := rfl

theorem published_published (stage : StageWithStageItems) :
    stage.published.published = stage.published := by
  unfold StageWithStageItems.published
  simp [StageItemWithRounds.published, Function.comp_def]

/-- Dropping the drafts twice is dropping them once. -/
theorem withoutDraftRounds_published (stages : List StageWithStageItems) :
    withoutDraftRounds (stages.map (·.published)) = withoutDraftRounds stages := by
  simp [withoutDraftRounds_eq, Function.comp_def, published_published]

/-- A draft round of the stages. -/
def HasDraft (stages : List StageWithStageItems) : Prop :=
  ∃ stage ∈ stages, ∃ stageItem ∈ stage.stageItems, ∃ round ∈ stageItem.rounds, round.isDraft = true

theorem not_hasDraft (stages : List StageWithStageItems) : ¬ HasDraft (withoutDraftRounds stages) := by
  rintro ⟨stage, hstage, item, hitem, round, hround, hdraft⟩
  obtain ⟨stage', -, rfl⟩ := List.mem_map.mp hstage
  obtain ⟨item', -, rfl⟩ := List.mem_map.mp hitem
  have hkept := (List.mem_filter.mp hround).2
  rw [hdraft] at hkept
  cases hkept

/-- **Who gets which stages.** -/
theorem getStages_eq_ok (hfiled : db.InputsFiled tid) {caller : Caller} {noDraftRounds : Bool}
    {stages : List StageWithStageItems} :
    getStages db tid caller noDraftRounds = .ok stages ↔
      userAuthenticatedOrPublicDashboard db tid caller = .ok () ∧
        (noDraftRounds = true ∨ caller = .organizer) ∧
        ∃ all, getFullTournamentDetails db tid {} = .ok all ∧
          stages = if noDraftRounds then withoutDraftRounds all else all := by
  have hload : getFullTournamentDetails db tid { noDraftRounds := noDraftRounds } = .ok stages ↔
      ∃ all, getFullTournamentDetails db tid {} = .ok all ∧
        stages = if noDraftRounds then withoutDraftRounds all else all := by
    cases noDraftRounds with
    | false => simp
    | true =>
      have hpublished := load_published hfiled
      unfold publishedFilter at hpublished
      rw [hpublished, bind_eq_ok]
      simp [withoutDraftRounds_eq, eq_comm]
  unfold getStages
  constructor
  · intro h
    obtain ⟨_, haccess, h⟩ := bind_eq_ok.mp h
    obtain ⟨_, hmay, h⟩ := bind_eq_ok.mp h
    rw [require_eq_ok, Bool.or_eq_true, beq_iff_eq] at hmay
    exact ⟨haccess, hmay, hload.mp h⟩
  · rintro ⟨haccess, hmay, h⟩
    rw [haccess, ok_bind, (require_eq_ok (u := ())).mpr (by simpa using hmay), ok_bind]
    exact hload.mpr h

end Drafts

/-! ## 4. The stages of a page -/

section Stages

variable {L : Libraries} {cfg : Config} {moments : Nat → Moment} {headers : Headers}
  {tid : TournamentId} {isAuthenticated canManage : Bool} {stages : List StageWithStageItems}

theorem not_hasDraft_of_getStages {db : Database} {caller : Caller}
    (h : getStages db tid caller true = .ok stages) : ¬ HasDraft stages := by
  obtain ⟨_, -, h⟩ := bind_eq_ok.mp h
  obtain ⟨_, -, h⟩ := bind_eq_ok.mp h
  unfold getFullTournamentDetails at h
  split at h
  · cases h
    have hpublished := fullTournamentDetails_published db tid
    unfold publishedFilter at hpublished
    rw [← hpublished]
    exact not_hasDraft _
  · cases h

/-- The drafts are answered to an organizer only. -/
theorem organizer_of_getStages {db : Database} {caller : Caller}
    (h : getStages db tid caller false = .ok stages) : caller = .organizer := by
  obtain ⟨_, -, h⟩ := bind_eq_ok.mp h
  obtain ⟨_, hmay, -⟩ := bind_eq_ok.mp h
  simpa using hmay

/-- What fails for an organizer is no question of authorization. -/
theorem getStages_organizer {db : Database} {noDraftRounds : Bool} {failure : Failure}
    (h : getStages db tid .organizer noDraftRounds = .error failure) :
    failure.isAuthorizationError = false := by
  have hmay : (noDraftRounds || Caller.organizer == .organizer) = true := Bool.or_true _
  have hstages : getStages db tid .organizer noDraftRounds =
      getFullTournamentDetails db tid { noDraftRounds := noDraftRounds } := by
    unfold getStages
    rw [hmay]
    rfl
  rw [hstages] at h
  unfold getFullTournamentDetails at h
  split at h
  · cases h
  · cases h
    rfl

/-- **Who manages, and who sees drafts.** -/
theorem fetchStages_ok
    (h : fetchStages L cfg moments headers tid isAuthenticated = .ok (canManage, stages)) :
    (canManage = true ↔
        isAuthenticated = true ∧ (moments 1).caller L cfg headers tid = .organizer) ∧
      (HasDraft stages → canManage = true) := by
  unfold fetchStages at h
  split at h
  · next first hfirst =>
    cases h
    cases isAuthenticated with
    | false => exact ⟨by simp, fun hdraft => absurd hdraft (not_hasDraft_of_getStages hfirst)⟩
    | true => exact ⟨by simp [organizer_of_getStages hfirst], fun _ => rfl⟩
  · next failure hfirst =>
    split at h
    · cases h
    · next hretry =>
      rw [Bool.not_eq_true, Bool.or_eq_false_iff, Bool.not_eq_false', Bool.not_eq_false'] at hretry
      obtain ⟨second, hsecond, h⟩ := page_bind_eq_ok.mp h
      cases h
      have hvisitor : (moments 1).caller L cfg headers tid ≠ .organizer := by
        intro horganizer
        rw [horganizer] at hfirst
        rw [getStages_organizer hfirst] at hretry
        cases hretry.2
      exact ⟨by simp [hvisitor],
        fun hdraft => absurd hdraft (not_hasDraft_of_getStages (answered_eq_ok.mp hsecond))⟩

end Stages

section Loads

variable {W : Browser} {E : ExpectedScore} {L : Libraries} {cfg : Config}
  {moments : Nat → Moment} {headers : Headers} {tournamentKey : String}
  {dashboardMode isAuthenticated : Bool} {b : TournamentBundle}

variable (W E L cfg moments headers tournamentKey dashboardMode isAuthenticated b) in
/-- What a page holds, by the requests that answered it. -/
structure Fetched : Prop where
  tournament : fetchTournament W L cfg (moments 0).site (moments 0).now headers tournamentKey
    dashboardMode = .ok b.tournament
  stages : ∃ stages, fetchStages L cfg moments headers b.tournament.id isAuthenticated =
      .ok (b.canManage, stages) ∧
    b.stages = if dashboardMode then withoutDraftRounds stages else stages
  players : ∃ count, getPlayers E (moments 3).db b.tournament.id
    ((moments 3).caller L cfg headers b.tournament.id) false allPlayers = .ok (b.players, count)
  teams : ∃ count, getTeams (moments 4).db b.tournament.id
    ((moments 4).caller L cfg headers b.tournament.id) 500 0 = .ok (b.teams, count)
  rankings : getRankings (moments 5).db b.tournament.id
    ((moments 5).caller L cfg headers b.tournament.id) = .ok b.rankings
  standings : standingsFor E (moments 6).db b.tournament.id
    ((moments 6).caller L cfg headers b.tournament.id) = .ok b.standings
  managementData : (if b.canManage && !dashboardMode then
    fetchManagementData E L cfg moments headers b.tournament.id else .ok (.empty, .empty)) =
      .ok (b.availableInputs, b.nextStageRankings)

theorem fetchTournamentBundle_eq_ok :
    fetchTournamentBundle W E L cfg moments headers tournamentKey dashboardMode isAuthenticated =
        .ok b ↔
      Fetched W E L cfg moments headers tournamentKey dashboardMode isAuthenticated b := by
  constructor
  · intro h
    obtain ⟨tournament, htournament, h⟩ := page_bind_eq_ok.mp h
    obtain ⟨⟨canManage, stages⟩, hstages, h⟩ := page_bind_eq_ok.mp h
    obtain ⟨⟨players, playerCount⟩, hplayers, h⟩ := page_bind_eq_ok.mp h
    obtain ⟨⟨teams, teamCount⟩, hteams, h⟩ := page_bind_eq_ok.mp h
    obtain ⟨rankings, hrankings, h⟩ := page_bind_eq_ok.mp h
    obtain ⟨standings, hstandings, h⟩ := page_bind_eq_ok.mp h
    obtain ⟨management, hmanagement, h⟩ := page_bind_eq_ok.mp h
    cases h
    exact ⟨htournament, ⟨stages, hstages, rfl⟩, ⟨playerCount, answered_eq_ok.mp hplayers⟩,
      ⟨teamCount, answered_eq_ok.mp hteams⟩, answered_eq_ok.mp hrankings,
      answered_eq_ok.mp hstandings, hmanagement⟩
  · rintro ⟨htournament, ⟨stages, hstages, hshown⟩, ⟨playerCount, hplayers⟩, ⟨teamCount, hteams⟩,
      hrankings, hstandings, hmanagement⟩
    refine page_bind_eq_ok.mpr ⟨_, htournament, page_bind_eq_ok.mpr ⟨_, hstages,
      page_bind_eq_ok.mpr ⟨_, answered_eq_ok.mpr hplayers, page_bind_eq_ok.mpr
      ⟨_, answered_eq_ok.mpr hteams, page_bind_eq_ok.mpr ⟨_, answered_eq_ok.mpr hrankings,
      page_bind_eq_ok.mpr ⟨_, answered_eq_ok.mpr hstandings, page_bind_eq_ok.mpr
      ⟨_, hmanagement, ?_⟩⟩⟩⟩⟩⟩⟩
    rw [← hshown]

/-- **Draft rounds are shown in the workspace of an organizer only**, whatever happens between the
    requests of the page. -/
theorem drafts_for_organizers
    (h : fetchTournamentBundle W E L cfg moments headers tournamentKey dashboardMode
      isAuthenticated = .ok b) :
    (b.canManage = true ↔ isAuthenticated = true ∧
        (moments 1).caller L cfg headers b.tournament.id = .organizer) ∧
      (HasDraft b.stages → dashboardMode = false ∧ b.canManage = true) := by
  obtain ⟨stages, hstages, hshown⟩ := (fetchTournamentBundle_eq_ok.mp h).stages
  obtain ⟨hmanages, hdrafts⟩ := fetchStages_ok hstages
  refine ⟨hmanages, fun hdraft => ?_⟩
  rw [hshown] at hdraft
  cases dashboardMode with
  | true => exact absurd hdraft (not_hasDraft stages)
  | false => exact ⟨rfl, hdrafts hdraft⟩

end Loads

/-! ## 5. Everyone sees the same -/

section Reading

variable {W : Browser} {L : Libraries} {cfg : Config} {site : Site} {now now' : DateTime}
  {headers headers' : Headers} {tournamentKey : String} {dashboardMode : Bool} {t t' : TournamentRow}

/-- A key stands for one tournament, whoever asks. -/
theorem fetchTournament_unique
    (h : fetchTournament W L cfg site now headers tournamentKey dashboardMode = .ok t)
    (h' : fetchTournament W L cfg site now' headers' tournamentKey dashboardMode = .ok t') :
    t = t' := by
  rw [fetchTournament_eq_ok] at h h'
  split at h
  · next hnumeric =>
    rw [if_pos hnumeric] at h'
    exact Option.some.inj
      ((getTournament_eq_ok.mp h).1.symm.trans (getTournament_eq_ok.mp h').1)
  · next hlink =>
    rw [if_neg hlink] at h'
    exact Option.some.inj (h.2.symm.trans h'.2)

/-- What a page shows may be read one by one. -/
theorem fetchTournament_access
    (h : fetchTournament W L cfg site now headers tournamentKey dashboardMode = .ok t) :
    userAuthenticatedOrPublicDashboard site.db t.id (caller L cfg site now headers t.id) =
      .ok () := by
  have hreads : getTournament L cfg site now headers t.id = .ok t := by
    rw [fetchTournament_eq_ok] at h
    split at h
    · have hid : t.id = W.number tournamentKey :=
        Table.key_of_find? _ (getTournament_eq_ok.mp h).1
      rw [hid]
      exact h
    · have hfind := h.2
      unfold sqlGetTournamentByEndpointName at hfind
      have hpublic := List.find?_some hfind
      rw [Bool.and_eq_true] at hpublic
      exact getTournament_eq_ok.mpr
        ⟨Table.find?_key _ (List.mem_of_find?_eq_some hfind), .inr (.inl hpublic.2)⟩
  obtain ⟨_, haccess, -⟩ := bind_eq_ok.mp hreads
  exact haccess

end Reading

section Access

variable {E : ExpectedScore} {db : Database} {tid : TournamentId} {caller caller' : Caller}
  (h : userAuthenticatedOrPublicDashboard db tid caller =
    userAuthenticatedOrPublicDashboard db tid caller')

include h

theorem getPlayers_access (notInTeam : Bool) (pagination : PaginationPlayers) :
    getPlayers E db tid caller notInTeam pagination =
      getPlayers E db tid caller' notInTeam pagination := by
  unfold getPlayers
  rw [h]

theorem getTeams_access (limit offset : Nat) :
    getTeams db tid caller limit offset = getTeams db tid caller' limit offset := by
  unfold getTeams
  rw [h]

theorem getRankings_access : getRankings db tid caller = getRankings db tid caller' := by
  unfold getRankings
  rw [h]

theorem standingsFor_access : standingsFor E db tid caller = standingsFor E db tid caller' := by
  unfold standingsFor
  rw [h]

end Access

section Same

variable {W : Browser} {E : ExpectedScore} {L : Libraries} {cfg : Config} {site : Site}
  {now now' : DateTime} {headers headers' : Headers} {tournamentKey : String}
  {tid : TournamentId} {isAuthenticated isAuthenticated' : Bool} {b : TournamentBundle}

/-- The stages that a page gets in one site are the loaded ones, with or without drafts. -/
theorem fetchStages_loaded (hfiled : site.db.InputsFiled tid) {canManage : Bool}
    {stages : List StageWithStageItems}
    (h : fetchStages L cfg (fun _ => ⟨site, now⟩) headers tid isAuthenticated =
      .ok (canManage, stages)) : ∃ all, getFullTournamentDetails site.db tid {} = .ok all ∧
        withoutDraftRounds stages = withoutDraftRounds all := by
  have hload : ∀ {caller : Caller} {noDraftRounds : Bool},
      getStages site.db tid caller noDraftRounds = .ok stages →
      ∃ all, getFullTournamentDetails site.db tid {} = .ok all ∧
        withoutDraftRounds stages = withoutDraftRounds all := by
    intro caller noDraftRounds h
    obtain ⟨-, -, all, hall, rfl⟩ := (getStages_eq_ok hfiled).mp h
    refine ⟨all, hall, ?_⟩
    cases noDraftRounds with
    | false => rfl
    | true => exact withoutDraftRounds_published all
  unfold fetchStages at h
  split at h
  · next first hfirst =>
    cases h
    exact hload hfirst
  · split at h
    · cases h
    · obtain ⟨second, hsecond, h⟩ := page_bind_eq_ok.mp h
      cases h
      exact hload (answered_eq_ok.mp hsecond)

/-- Whoever may read a tournament gets its stages. -/
theorem exists_fetchStages (isAuthenticated : Bool) (hfiled : site.db.InputsFiled tid)
    (haccess : userAuthenticatedOrPublicDashboard site.db tid
      (caller L cfg site now headers tid) = .ok ())
    {all : List StageWithStageItems} (hall : getFullTournamentDetails site.db tid {} = .ok all) :
    ∃ stages, fetchStages L cfg (fun _ => ⟨site, now⟩) headers tid isAuthenticated =
        .ok (isAuthenticated && caller L cfg site now headers tid == .organizer, stages) ∧
      withoutDraftRounds stages = withoutDraftRounds all := by
  have hpublished : getStages site.db tid (caller L cfg site now headers tid) true =
      .ok (withoutDraftRounds all) :=
    (getStages_eq_ok hfiled).mpr ⟨haccess, .inl rfl, all, hall, rfl⟩
  unfold fetchStages Moment.caller
  dsimp only
  cases isAuthenticated with
  | false =>
    rw [Bool.not_false, hpublished]
    exact ⟨_, rfl, withoutDraftRounds_published all⟩
  | true =>
    rw [Bool.not_true, Bool.true_and]
    cases hcaller : caller L cfg site now headers tid with
    | organizer =>
      rw [hcaller] at haccess
      rw [(getStages_eq_ok hfiled).mpr ⟨haccess, .inr rfl, all, hall, rfl⟩]
      exact ⟨_, rfl, rfl⟩
    | visitor =>
      rw [hcaller] at haccess hpublished
      have hrefused : getStages site.db tid .visitor false =
          .error (.http 403 "Can't view draft rounds when not authorized") := by
        unfold getStages
        rw [haccess]
        rfl
      rw [hrefused, hpublished]
      exact ⟨_, rfl, withoutDraftRounds_published all⟩

/-- In one site. -/
theorem bundle_same (hdb : Isolated site.db)
    (h : fetchTournamentBundle W E L cfg (fun _ => ⟨site, now⟩) headers tournamentKey true
      isAuthenticated = .ok b) {t : TournamentRow}
    (hreads : fetchTournament W L cfg site now' headers' tournamentKey true = .ok t) :
    fetchTournamentBundle W E L cfg (fun _ => ⟨site, now'⟩) headers' tournamentKey true
        isAuthenticated' =
      .ok { b with canManage :=
        isAuthenticated' && caller L cfg site now' headers' b.tournament.id == .organizer } := by
  have hfetched := fetchTournamentBundle_eq_ok.mp h
  obtain rfl : b.tournament = t := fetchTournament_unique hfetched.tournament hreads
  have haccess := fetchTournament_access hreads
  have hsame : userAuthenticatedOrPublicDashboard site.db b.tournament.id
        (caller L cfg site now' headers' b.tournament.id) =
      userAuthenticatedOrPublicDashboard site.db b.tournament.id
        (caller L cfg site now headers b.tournament.id) :=
    haccess.trans (fetchTournament_access hfetched.tournament).symm
  obtain ⟨stages, hstages, hshown⟩ := hfetched.stages
  obtain ⟨playerCount, hplayers⟩ := hfetched.players
  obtain ⟨teamCount, hteams⟩ := hfetched.teams
  obtain ⟨all, hall, hdrop⟩ := fetchStages_loaded (hdb.filed b.tournament.id) hstages
  obtain ⟨stages', hstages', hdrop'⟩ := exists_fetchStages isAuthenticated'
    (hdb.filed b.tournament.id) haccess hall
  refine fetchTournamentBundle_eq_ok.mpr ⟨hreads, ⟨stages', hstages', ?_⟩,
    ⟨playerCount, (getPlayers_access hsame false allPlayers).trans hplayers⟩,
    ⟨teamCount, (getTeams_access hsame 500 0).trans hteams⟩,
    (getRankings_access hsame).trans hfetched.rankings,
    (standingsFor_access hsame).trans hfetched.standings, ?_⟩
  · exact hshown.trans (hdrop.trans hdrop'.symm)
  · -- the Details pages load nothing for the workspace
    have hmanagement := hfetched.managementData
    rw [Bool.not_true, Bool.and_false] at hmanagement ⊢
    exact hmanagement

end Same

/-! ## 6. The largest page -/

section LargestPage

variable {E : ExpectedScore} {db : Database} {tid : TournamentId} {caller : Caller}

theorem take_drop_zero {α : Type} {l : List α} {n : Nat} (h : l.length ≤ n) :
    (l.drop 0).take n = l := by
  rw [List.drop_zero, List.take_of_length_le h]

theorem getPlayers_all (hdb : WithinRosters db) {x : List Player × Nat}
    (h : getPlayers E db tid caller false allPlayers = .ok x) :
    (x.1.map (·.row)).Perm (db.players.rows.filter (·.tournamentId == tid)) := by
  obtain ⟨_, -, h⟩ := bind_eq_ok.mp h
  obtain ⟨statistics, -, h⟩ := bind_eq_ok.mp h
  obtain ⟨players, hplayers, h⟩ := bind_eq_ok.mp h
  cases h
  obtain ⟨rows, hrows, hplayers⟩ := bind_eq_ok.mp hplayers
  cases hplayers
  cases hrows
  have hperm := List.perm_insertionSort (SortDirection.asc.order PlayerSort.name.column · ·)
    (db.players.rows.filter (·.tournamentId == tid))
  have hfew : (db.players.rows.filter (·.tournamentId == tid)).length ≤ 500 :=
    (hdb.players tid).trans (by decide)
  rw [List.map_map]
  refine List.Perm.trans (List.Perm.of_eq ?_) hperm
  exact (List.map_id _).trans (take_drop_zero (hperm.length_eq ▸ hfew))

theorem getTeamsWithMembers_few (hdb : WithinRosters db) (tid : TournamentId) :
    (getTeamsWithMembers db tid).length ≤ regularSubscription.maxTeams := by
  unfold getTeamsWithMembers
  rw [List.length_map, List.length_insertionSort]
  exact hdb.teams tid

theorem getTeams_all (hdb : WithinRosters db) {x : List FullTeamWithPlayers × Nat}
    (h : getTeams db tid caller 500 0 = .ok x) : x.1 = getTeamsWithMembers db tid := by
  obtain ⟨_, -, h⟩ := bind_eq_ok.mp h
  cases h
  exact take_drop_zero ((getTeamsWithMembers_few hdb tid).trans (by decide))

end LargestPage

/-! ## 7. Runs -/

section Runs

variable (W : Browser) (E : ExpectedScore) (L : Libraries) (cfg : Config) {F : Type}
  (lim : SiteLimiter F)

/-- **The Details pages show organizers exactly what everyone else sees**: in every site that
    requests lead to, whoever may read a tournament gets the same bundle but for `canManage`. -/
theorem details_same_for_everyone (hL : L.Lawful) (counters : F) (arrivals : List (Arrival L))
    {now now' : DateTime} {headers headers' : Headers} {tournamentKey : String}
    {isAuthenticated : Bool} {b : TournamentBundle} {t : TournamentRow}
    (h : fetchTournamentBundle W E L cfg
      (fun _ => ⟨(reached L cfg lim counters arrivals).site, now⟩) headers tournamentKey true
      isAuthenticated = .ok b)
    (hreads : fetchTournament W L cfg (reached L cfg lim counters arrivals).site now' headers'
      tournamentKey true = .ok t) (isAuthenticated' : Bool) :
    fetchTournamentBundle W E L cfg
        (fun _ => ⟨(reached L cfg lim counters arrivals).site, now'⟩) headers' tournamentKey true
        isAuthenticated' =
      .ok { b with canManage := (isAuthenticated' && caller L cfg
        (reached L cfg lim counters arrivals).site now' headers' b.tournament.id == .organizer) } :=
  bundle_same (reached_owned hL counters arrivals).isolated h hreads

theorem reached_rosters (hL : L.Lawful) (counters : F) (arrivals : List (Arrival L)) :
    WithinRosters (reached L cfg lim counters arrivals).site.db := by
  have hboth : Isolated (reached L cfg lim counters arrivals).site.db ∧
      WithinRosters (reached L cfg lim counters arrivals).site.db := by
    refine Backend.run_invariant (P := fun site => Isolated site.db ∧ WithinRosters site.db) hL
      (fun _ _ site site' _ hP heffect => ?_) ⟨isolated_empty, withinRosters_empty⟩
    rcases heffect.db with hkept | ⟨call, -, hcall⟩
    · rw [hkept]
      exact hP
    · exact ⟨(Confined.call hP.1 hcall).isolated, hP.2.call hP.1 hcall⟩
  exact hboth.2

/-- **The largest page of the API holds every player and team of a tournament**: no page is cut
    off, whatever requests are served before and between the requests of the page. -/
theorem page_holds_everyone (hL : L.Lawful) (counters : F) (arrivals : Nat → List (Arrival L))
    {times : Nat → DateTime} {headers : Headers} {tournamentKey : String}
    {dashboardMode isAuthenticated : Bool} {b : TournamentBundle}
    (h : fetchTournamentBundle W E L cfg
      (fun i => ⟨(reached L cfg lim counters (arrivals i)).site, times i⟩) headers tournamentKey
      dashboardMode isAuthenticated = .ok b) :
    (b.players.map (·.row)).Perm ((reached L cfg lim counters (arrivals 3)).site.db.players.rows.filter
        (·.tournamentId == b.tournament.id)) ∧ b.players.length ≤ 256 ∧
      b.teams = getTeamsWithMembers (reached L cfg lim counters (arrivals 4)).site.db
        b.tournament.id ∧ b.teams.length ≤ 128 := by
  have hfetched := fetchTournamentBundle_eq_ok.mp h
  obtain ⟨playerCount, hplayers⟩ := hfetched.players
  obtain ⟨teamCount, hteams⟩ := hfetched.teams
  have hplayerRows := reached_rosters L cfg lim hL counters (arrivals 3)
  have hteamRows := reached_rosters L cfg lim hL counters (arrivals 4)
  have hallPlayers := getPlayers_all hplayerRows hplayers
  have hallTeams : b.teams = _ := getTeams_all hteamRows hteams
  refine ⟨hallPlayers, ?_, hallTeams, ?_⟩
  · rw [← b.players.length_map (·.row), hallPlayers.length_eq]
    exact hplayerRows.players b.tournament.id
  · rw [hallTeams]
    exact getTeamsWithMembers_few hteamRows b.tournament.id

end Runs

/-! ### Ann's league, and a league with a draft -/

section Cup

theorem exists_ok_of_isOk {α : Type} {x : Except PageError α} (h : x.isOk = true) :
    ∃ a, x = .ok a := by
  cases x with
  | error e => cases h
  | ok a => exact ⟨a, rfl⟩

instance (stages : List StageWithStageItems) : Decidable (HasDraft stages) :=
  inferInstanceAs (Decidable (∃ stage ∈ stages, ∃ stageItem ∈ stage.stageItems,
    ∃ round ∈ stageItem.rounds, round.isDraft = true))

/-- A league of three teams in Ann's cup: its first round is published, the second one a draft. -/
def annsLeague : List Request :=
  [.createMultipleTeams [("Red", ["Ann", "Bob"]), ("Blue", ["Cas"]), ("Green", [])] true,
    .createStage, .createStageItem ⟨1, none, .swiss, 3, none, three_teams⟩,
    .updateStageItemInput 1 1 (.final 1), .updateStageItemInput 1 2 (.final 2),
    .updateStageItemInput 1 3 (.final 3), .createRound ⟨none, 1⟩,
    .updateRoundById 1 ⟨"Round 1", false⟩, .createRound ⟨none, 1⟩]

/-- Ann's site with the league. -/
def annsLeagueRun : List (Arrival plainLibraries) := annsRun ++ annsLeague.map annAsks

theorem annsLeague_stored : ∃ site db, cupSite = .ok site ∧
    askAll site site.db annsLeague = .ok db ∧
    getUserAccessToTournament { site with db := db } 1 1 = true ∧
    ((getFullTournamentDetails db 1 {}).toOption.any fun all => decide (HasDraft all)) = true ∧
    (fetchTournamentBundle plainBrowser evenly plainLibraries plainConfig
      (fun _ => ⟨{ site with db := db }, 0⟩) {} "1" true false).isOk = true := by
  obtain ⟨site, hcup, hany⟩ := exists_ok_of_any (x := cupSite) (P := fun site =>
    ((askAll site site.db annsLeague).toOption.any fun db => decide
      (getUserAccessToTournament { site with db := db } 1 1 = true ∧
      ((getFullTournamentDetails db 1 {}).toOption.any fun all => decide (HasDraft all)) = true ∧
      (fetchTournamentBundle plainBrowser evenly plainLibraries plainConfig
        (fun _ => ⟨{ site with db := db }, 0⟩) {} "1" true false).isOk = true)) = true)
    (by decide +kernel)
  obtain ⟨db, hdb, haccess, hdraft, hshown⟩ := exists_ok_of_any hany
  exact ⟨site, db, hcup, hdb, haccess, hdraft, hshown⟩

/-- Ann sees on the Details pages what a visitor sees, without the draft that is stored, and may
    manage the league. -/
theorem annsCup_same : ∃ b,
    (∃ all, getFullTournamentDetails
        (reached plainLibraries plainConfig memoryLimits noCounts annsLeagueRun).site.db 1 {} =
      .ok all ∧ HasDraft all) ∧ ¬ HasDraft b.stages ∧
    fetchTournamentBundle plainBrowser evenly plainLibraries plainConfig
      (fun _ => ⟨(reached plainLibraries plainConfig memoryLimits noCounts annsLeagueRun).site, 0⟩)
      {} "1" true false = .ok b ∧
    fetchTournamentBundle plainBrowser evenly plainLibraries plainConfig
      (fun _ => ⟨(reached plainLibraries plainConfig memoryLimits noCounts annsLeagueRun).site, 0⟩)
      (bearer annToken) "1" true true = .ok { b with canManage := true } := by
  obtain ⟨site, db, hcup, hdb, haccess, hdraft, hshown⟩ := annsLeague_stored
  have hsite : (reached plainLibraries plainConfig memoryLimits noCounts annsLeagueRun).site =
      { site with db := db } := congrArg Backend.site (reached_annAsks hcup hdb)
  have hhash : ({ site with db := db } : Site).hashOf 1 =
      some (Plain.hash 1 "correct-horse-battery") := by
    obtain ⟨site', hcup', -, hhash⟩ := reached_annsRun
    obtain rfl : site = site' := Except.ok.inj (hcup.symm.trans hcup')
    exact hhash
  obtain ⟨b, hb⟩ := exists_ok_of_isOk hshown
  have hnumeric : isNumericIdentifier "1" = true := by decide
  have hfetched := fetchTournamentBundle_eq_ok.mp hb
  have hread := fetchTournament_eq_ok.mp hfetched.tournament
  rw [if_pos hnumeric] at hread
  obtain ⟨hfind, hshows⟩ := getTournament_eq_ok.mp hread
  have hone : b.tournament.id = 1 := Table.key_of_find? _ hfind
  obtain ⟨user, huser, hid⟩ := ann_signedIn hhash
  have hreads : fetchTournament plainBrowser plainLibraries plainConfig { site with db := db } 0
      (bearer annToken) "1" true = .ok b.tournament := by
    rw [fetchTournament_eq_ok, if_pos hnumeric]
    exact getTournament_eq_ok.mpr ⟨hfind, .inr (hshows.resolve_left nofun)⟩
  have hsame := details_same_for_everyone plainBrowser evenly plainLibraries plainConfig
    memoryLimits plainLibraries_lawful noCounts annsLeagueRun (hsite.symm ▸ hb)
    (hsite.symm ▸ hreads) true
  rw [hsite] at hsame ⊢
  rw [hone, caller_organizer huser (hid.symm ▸ haccess)] at hsame
  refine ⟨b, exists_ok_of_any hdraft, ?_, hb, hsame⟩
  obtain ⟨stages, -, hdropped⟩ := hfetched.stages
  rw [hdropped]
  exact not_hasDraft stages

/-- The league is there for every request of a page; from the fifth one on it has a fourth team. -/
def annsArrivals (i : Nat) : List (Arrival plainLibraries) :=
  annsRun ++ (if i < 4 then annsLeague
    else annsLeague ++ [.createTeam ⟨"White", true, []⟩]).map annAsks

theorem annsTeams_stored : ∃ site db db', cupSite = .ok site ∧
    askAll site site.db annsLeague = .ok db ∧
    askAll site site.db (annsLeague ++ [.createTeam ⟨"White", true, []⟩]) = .ok db' ∧
    ∃ b, fetchTournamentBundle plainBrowser evenly plainLibraries plainConfig
        (fun i => ⟨if i < 4 then { site with db := db } else { site with db := db' }, 0⟩) {} "1"
        true false = .ok b ∧
      b.players.length = 3 ∧ b.teams.length = 4 := by
  obtain ⟨site, hcup, hany⟩ := exists_ok_of_any (x := cupSite) (P := fun site =>
    ((askAll site site.db annsLeague).toOption.any fun db => decide
      (((askAll site site.db (annsLeague ++ [.createTeam ⟨"White", true, []⟩])).toOption.any
        fun db' => decide ((fetchTournamentBundle plainBrowser evenly plainLibraries plainConfig
          (fun i => ⟨if i < 4 then { site with db := db } else { site with db := db' }, 0⟩) {} "1"
          true false).toOption.any fun b =>
            decide (b.players.length = 3 ∧ b.teams.length = 4))) = true)) = true)
    (by decide +kernel)
  obtain ⟨db, hdb, hany⟩ := exists_ok_of_any hany
  obtain ⟨db', hdb', hany⟩ := exists_ok_of_any hany
  exact ⟨site, db, db', hcup, hdb, hdb', exists_ok_of_any hany⟩

/-- Everyone of Ann's league is on its page, also the team that comes while it loads. -/
theorem annsCup_everyone : ∃ b,
    fetchTournamentBundle plainBrowser evenly plainLibraries plainConfig
      (fun i => ⟨(reached plainLibraries plainConfig memoryLimits noCounts (annsArrivals i)).site,
        0⟩) {} "1" true false = .ok b ∧
    b.players.length = 3 ∧ b.teams.length = 4 ∧
    (b.players.map (·.row)).Perm ((reached plainLibraries plainConfig memoryLimits noCounts
      (annsArrivals 3)).site.db.players.rows.filter (·.tournamentId == b.tournament.id)) ∧
    b.teams = getTeamsWithMembers
      (reached plainLibraries plainConfig memoryLimits noCounts (annsArrivals 4)).site.db
      b.tournament.id := by
  obtain ⟨site, db, db', hcup, hdb, hdb', b, hb, hplayers, hteams⟩ := annsTeams_stored
  have hsites : ∀ i,
      (reached plainLibraries plainConfig memoryLimits noCounts (annsArrivals i)).site =
        if i < 4 then { site with db := db } else { site with db := db' } := by
    intro i
    unfold annsArrivals
    split
    · exact congrArg Backend.site (reached_annAsks hcup hdb)
    · exact congrArg Backend.site (reached_annAsks hcup hdb')
  have hpage : fetchTournamentBundle plainBrowser evenly plainLibraries plainConfig
      (fun i => ⟨(reached plainLibraries plainConfig memoryLimits noCounts (annsArrivals i)).site,
        0⟩) {} "1" true false = .ok b := by
    simp only [hsites]
    exact hb
  have heveryone := page_holds_everyone plainBrowser evenly plainLibraries plainConfig
    memoryLimits plainLibraries_lawful noCounts annsArrivals hpage
  exact ⟨b, hpage, hplayers, hteams, heveryone.1, heveryone.2.2.1⟩

/-- The league with its draft. -/
def leagueSite : Site := { Site.empty with db := draftedLeague }

theorem league_shown : (fetchTournamentBundle plainBrowser evenly plainLibraries plainConfig
    (fun _ => ⟨leagueSite, 0⟩) {} "1" false true).isOk = true := by decide +kernel

/-- Who is no longer signed in gets the league without its draft. -/
theorem league_without_draft : ∃ b, fetchTournamentBundle plainBrowser evenly plainLibraries
    plainConfig (fun _ => ⟨leagueSite, 0⟩) {} "1" false true = .ok b ∧ ¬ HasDraft b.stages := by
  obtain ⟨b, hb⟩ := exists_ok_of_isOk league_shown
  obtain ⟨hmanages, hdrafts⟩ := drafts_for_organizers hb
  refine ⟨b, hb, fun hdraft => ?_⟩
  have horganizer := (hmanages.mp (hdrafts hdraft).2).2
  cases horganizer

end Cup

end Brackets
