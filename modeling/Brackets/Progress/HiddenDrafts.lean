/-
  File:      Brackets/Progress/HiddenDrafts.lean
  Subject:   Drafts are invisible.

  Two databases that differ in their draft rounds and the matches of those (`SameButDrafts`) load
  alike without the draft rounds. So whoever is not an organizer of a tournament gets the same
  answers from both, and the next stage gets the same teams (`drafts_invisible`).
-/
import Brackets.Ranking.Published
import Brackets.Ranking.Storage
import Brackets.Routes.Dashboard

namespace Brackets

open Library

/-- The databases differ in draft rounds and their matches only. -/
structure SameButDrafts (db db' : Database) : Prop where
  tournaments : db'.tournaments.rows = db.tournaments.rows
  stages : db'.stages.rows = db.stages.rows
  stageItems : db'.stageItems.rows = db.stageItems.rows
  inputs : db'.stageItemInputs.rows = db.stageItemInputs.rows
  rounds : db'.rounds.rows.filter (!·.isDraft) = db.rounds.rows.filter (!·.isDraft)
  matches_ : db'.matches_.rows.filter (fun m => db'.published m.roundId) =
    db.matches_.rows.filter fun m => db.published m.roundId
  teams : db'.teams.rows = db.teams.rows
  players : db'.players.rows = db.players.rows
  members : db'.playersXTeams.rows = db.playersXTeams.rows
  rankings : db'.rankings.rows = db.rankings.rows

namespace SameButDrafts

variable {db db' : Database} (h : SameButDrafts db db') (tid : TournamentId)

include h

theorem stageItemTournament (k : StageItemId) :
    db'.stageItemTournament k = db.stageItemTournament k := by
  unfold Database.stageItemTournament Table.find?
  rw [h.stageItems, h.stages]

theorem inputsWithTeams : inputsWithTeams db' tid publishedFilter =
    Brackets.inputsWithTeams db tid publishedFilter := by
  unfold Brackets.inputsWithTeams
  rw [h.inputs]
  simp only [h.stageItemTournament]
  refine List.map_congr_left fun i _ => ?_
  unfold withTeam Table.find?
  rw [h.teams]

/-- A published round has the same matches. -/
theorem roundWithMatches (inputs : List StageItemInput) {r : RoundRow} (hr : r ∈ db.rounds.rows)
    (hdraft : r.isDraft = false) :
    roundWithMatches db' inputs r = Brackets.roundWithMatches db inputs r := by
  have hr' : r ∈ db'.rounds.rows.filter (!·.isDraft) := by
    rw [h.rounds]
    exact List.mem_filter.mpr ⟨hr, by rw [hdraft]; rfl⟩
  have hin : ∀ d : Database, r ∈ d.rounds.rows → d.matches_.rows.filter (·.roundId == r.id) =
      (d.matches_.rows.filter fun m => d.published m.roundId).filter (·.roundId == r.id) := by
    intro d hd
    rw [List.filter_filter]
    refine List.filter_congr fun m _ => ?_
    by_cases hm : m.roundId = r.id
    · have hfind : d.rounds.find? m.roundId = some r := hm ▸ d.rounds.find?_key hd
      rw [Database.published, hfind, Option.any_some, hdraft, Bool.not_false, Bool.and_true]
    · rw [beq_eq_false_iff_ne.mpr hm, Bool.false_and]
  unfold Brackets.roundWithMatches
  rw [hin db hr, hin db' (List.mem_filter.mp hr').1, h.matches_]

theorem stageItemWithRounds (item : StageItemRow) :
    stageItemWithRounds db' tid publishedFilter item =
      Brackets.stageItemWithRounds db tid publishedFilter item := by
  have hsplit : ∀ d : Database, d.rounds.rows.filter (fun r => r.stageItemId == item.id &&
      publishedFilter.round r) = (d.rounds.rows.filter (!·.isDraft)).filter
        (·.stageItemId == item.id) := by
    intro d
    rw [List.filter_filter]
    refine List.filter_congr fun r _ => ?_
    simp [DetailsFilter.round, publishedFilter]
  unfold Brackets.stageItemWithRounds
  rw [h.inputsWithTeams, hsplit, hsplit, h.rounds]
  congr 1
  refine List.map_congr_left fun r hr => ?_
  obtain ⟨hr, -⟩ := List.mem_filter.mp hr
  obtain ⟨hr, hdraft⟩ := List.mem_filter.mp hr
  exact h.roundWithMatches _ hr (by simpa using hdraft)

/-- **What is loaded without the draft rounds is the same.** -/
theorem load : getFullTournamentDetails db' tid publishedFilter =
    getFullTournamentDetails db tid publishedFilter := by
  have hfull : fullTournamentDetails db' tid publishedFilter =
      fullTournamentDetails db tid publishedFilter := by
    have hitem : Brackets.stageItemWithRounds db' tid publishedFilter =
        Brackets.stageItemWithRounds db tid publishedFilter := funext (h.stageItemWithRounds tid)
    unfold fullTournamentDetails stageWithStageItems
    rw [h.stages, h.stageItems, hitem]
  unfold getFullTournamentDetails
  rw [hfull]

theorem lookup (E : ExpectedScore) (stages : List StageWithStageItems) :
    getTeamRankingsLookupForTournament E db' tid stages =
      getTeamRankingsLookupForTournament E db tid stages := by
  have hranking : ∀ k, getRankingForStageItem db' tid k = getRankingForStageItem db tid k := by
    intro k
    unfold getRankingForStageItem Table.find?
    rw [h.stageItems, h.rankings]
  unfold getTeamRankingsLookupForTournament teamRankingOf
  simp only [hranking]

theorem access (caller : Caller) : userAuthenticatedOrPublicDashboard db' tid caller =
    userAuthenticatedOrPublicDashboard db tid caller := by
  unfold userAuthenticatedOrPublicDashboard Table.find?
  rw [h.tournaments]

theorem getPlayers (E : ExpectedScore) (caller : Caller) (notInTeam : Bool)
    (pagination : PaginationPlayers) : getPlayers E db' tid caller notInTeam pagination =
      Brackets.getPlayers E db tid caller notInTeam pagination := by
  have hstatistics : getPlayerStatistics E db' tid = getPlayerStatistics E db tid := by
    have hteams : getTeamsWithMembers db' tid = getTeamsWithMembers db tid := by
      unfold getTeamsWithMembers Table.find?
      rw [h.teams, h.members, h.players]
    have hload := h.load tid
    unfold publishedFilter at hload
    unfold getPlayerStatistics
    rw [hload, hteams]
  unfold Brackets.getPlayers getAllPlayersInTournament getPlayerCount
  rw [h.access, hstatistics, h.players]

theorem updatesIn (E : ExpectedScore) (stageId : StageId) (stages : List StageWithStageItems) :
    updatesInActivatedStage E db' tid stageId stages =
      updatesInActivatedStage E db tid stageId stages := by
  have hinput : ∀ k, getStageItemInputById db' tid k = getStageItemInputById db tid k := by
    intro k
    unfold getStageItemInputById getTeamById Table.find?
    rw [h.inputs, h.teams]
  have hadd : ∀ rankings k, addUpdate db' tid rankings k = addUpdate db tid rankings k := by
    intro rankings k
    unfold addUpdate getTeamUpdateForInput
    simp only [hinput]
  unfold updatesInActivatedStage
  simp only [h.lookup, hadd]

theorem filed (hfiled : db.InputsFiled tid) : db'.InputsFiled tid := by
  intro i hi ht
  rw [h.inputs] at hi
  rw [h.stageItemTournament] at ht
  exact hfiled i hi ht

end SameButDrafts

/-- **Drafts are invisible.** Whoever is not an organizer gets the same stages, standings and
    players, may not load the draft rounds, and every stage would be entered by the same teams. -/
theorem drafts_invisible (E : ExpectedScore) {db db' : Database} (h : SameButDrafts db db')
    (tid : TournamentId) (hfiled : db.InputsFiled tid) :
    (∀ noDraftRounds, getStages db' tid .visitor noDraftRounds =
      getStages db tid .visitor noDraftRounds) ∧
    (∀ stages, getStages db tid .visitor false ≠ .ok stages) ∧
    standingsFor E db' tid .visitor = standingsFor E db tid .visitor ∧
    (∀ notInTeam pagination, getPlayers E db' tid .visitor notInTeam pagination =
      getPlayers E db tid .visitor notInTeam pagination) ∧
    (∀ next, getNextStageInTournament db' tid next = getNextStageInTournament db tid next) ∧
    ∀ stageId, getUpdatesToInputsInActivatedStage E db' tid stageId =
      getUpdatesToInputsInActivatedStage E db tid stageId := by
  refine ⟨fun noDraftRounds => ?_, fun stages hok => ?_, ?_, fun notInTeam pagination => ?_,
    fun next => ?_, fun stageId => ?_⟩
  · unfold getStages
    rw [h.access]
    refine bind_congr_ok fun _ _ => ?_
    cases noDraftRounds with
    | false =>
      have hrefused : ∀ e, require (false || Caller.visitor == .organizer) e = .error e :=
        fun _ => rfl
      rw [hrefused, error_bind, error_bind]
    | true => exact bind_congr_ok fun _ _ => h.load tid
  · obtain ⟨_, _, hok⟩ := bind_eq_ok.mp hok
    obtain ⟨_, hrequire, _⟩ := bind_eq_ok.mp hok
    exact absurd (require_eq_ok.mp hrequire) (by decide)
  · have hload := h.load tid
    unfold publishedFilter at hload
    unfold standingsFor getStandings
    rw [h.access, hload]
    simp only [h.lookup]
  · exact h.getPlayers tid E .visitor notInTeam pagination
  · unfold getNextStageInTournament
    rw [h.stages]
  · rw [updates_published hfiled, updates_published (h.filed tid hfiled), h.load]
    simp only [h.updatesIn]

/-! ### A league and its final -/

/-- The league, and a final between its teams in a stage that has not begun. -/
def leagueAndFinal : Database :=
  { league with
    stages := ⟨[⟨1, "Stage", 1, true, none⟩, ⟨2, "Finals", 1, false, none⟩], 3, by decide, by decide⟩
    stageItems := ⟨[⟨1, "League", 1, 2, 1, .roundRobin⟩, ⟨2, "Final", 2, 2, 1, .singleElimination⟩], 3,
      by decide, by decide⟩
    stageItemInputs := ⟨[⟨1, 1, 1, 1, some 1, none, none, 0, 0, 0, 0⟩,
      ⟨2, 2, 1, 1, some 2, none, none, 0, 0, 0, 0⟩,
      ⟨3, 1, 1, 2, none, some 1, some 1, 0, 0, 0, 0⟩,
      ⟨4, 2, 1, 2, none, some 1, some 2, 0, 0, 0, 0⟩], 5, by decide, by decide⟩ }

/-- The same while a second round is drafted, with a result already entered. -/
def draftedLeague : Database :=
  { leagueAndFinal with
    rounds := ⟨[⟨1, "Round 01", false, 1⟩, ⟨2, "Round 02", true, 1⟩], 3, by decide, by decide⟩
    matches_ := ⟨[⟨1, some 0, 10, 5, none, none, 1, some 1, some 2, false, false, none, none, 3, 1⟩,
      ⟨2, some 900000000, 10, 5, none, none, 2, some 2, some 1, false, false, none, none, 4, 0⟩], 3,
      by decide, by decide⟩ }

theorem league_sameButDrafts : SameButDrafts leagueAndFinal draftedLeague where
  tournaments := rfl
  stages := rfl
  stageItems := rfl
  inputs := rfl
  rounds := by decide
  matches_ := by decide
  teams := rfl
  players := rfl
  members := rfl
  rankings := rfl

theorem league_filed : leagueAndFinal.InputsFiled 1 := by
  unfold Database.InputsFiled
  decide

/-- The inputs of the league, best first. -/
def leagueOrder (standings : StageItemXTeamRanking) : List StageItemInputId :=
  (standings.filter (·.1 == 1)).flatMap fun e => e.2.map (·.1)

/-- Who enters the final, slot by slot. -/
def entersFinal (updates : StageItemInputUpdates) : List (StageItemInputId × TeamId) :=
  (updates.getD 2 []).map fun u => (u.stageItemInput.id, u.team.id)

/-- The draft has a win of the second team, which nobody but the organizers learns: the first leads
    and would enter the first slot of the final. -/
theorem league_draft_invisible :
    ((∀ noDraftRounds, getStages draftedLeague 1 .visitor noDraftRounds =
      getStages leagueAndFinal 1 .visitor noDraftRounds) ∧
    (∀ stages, getStages leagueAndFinal 1 .visitor false ≠ .ok stages) ∧
    standingsFor evenly draftedLeague 1 .visitor = standingsFor evenly leagueAndFinal 1 .visitor ∧
    (∀ notInTeam pagination, getPlayers evenly draftedLeague 1 .visitor notInTeam pagination =
      getPlayers evenly leagueAndFinal 1 .visitor notInTeam pagination) ∧
    (∀ next, getNextStageInTournament draftedLeague 1 next =
      getNextStageInTournament leagueAndFinal 1 next) ∧
    ∀ stageId, getUpdatesToInputsInActivatedStage evenly draftedLeague 1 stageId =
      getUpdatesToInputsInActivatedStage evenly leagueAndFinal 1 stageId) ∧
    (standingsFor evenly leagueAndFinal 1 .visitor).map leagueOrder = .ok [1, 2] ∧
    (getUpdatesToInputsInActivatedStage evenly leagueAndFinal 1 2).map entersFinal =
      .ok [(3, 1), (4, 2)] :=
  ⟨drafts_invisible evenly league_sameButDrafts 1 league_filed, by decide +kernel, by decide +kernel⟩

end Brackets
