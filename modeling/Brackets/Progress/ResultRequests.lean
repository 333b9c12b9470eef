/-
  File:      Brackets/Progress/ResultRequests.lean
  Subject:   The requests that change the results of groups and Swiss stage items.

  Seven requests change what the ranking of a stage item reads. Six of them recalculate the
  statistics they change; the seventh publishes a round or takes it back, and does not.

  * `Request.OnResults`: the seven requests;
  * `resultRequest_exact`: what is exact before is exact afterwards, unless a round in which a team
    has a result turns its draft flag.
-/
import Brackets.Progress.PublishedRounds

namespace Brackets

open Library

variable {E : ExpectedScore} {db db' : Database} {tid : TournamentId}

/-! ## 1. The requests -/

/-- The requests that change the results of a stage item or how they count: they enter, create and
    delete matches, create, update and delete rounds, and update rankings. A match that is updated
    stays in its round. -/
def Request.OnResults (db : Database) : Request → Prop
  | .updateMatchById k body => ∀ m, db.matches_.find? k = some m → body.roundId = m.roundId
  | .createMatch _ | .deleteMatch _ | .createRound _ | .updateRoundById _ _ | .deleteRound _
  | .updateRankingById _ _ => True
  | _ => False

/-- The request turns the draft flag of a round of a group or a Swiss stage item. -/
structure TurnedRound (db : Database) (k : RoundId) (body : RoundUpdateBody) (r : RoundRow)
    (row : StageItemRow) : Prop where
  round : db.rounds.find? k = some r
  flip : body.isDraft ≠ r.isDraft
  item : db.stageItems.find? r.stageItemId = some row
  scored : row.type ≠ .singleElimination

/-- No team has a result in a round that is published or taken back. -/
def Request.SparesTeams (db : Database) : Request → Prop
  | .updateRoundById k body => ∀ r row, TurnedRound db k body r row → TeamsRest db r.stageItemId k
  | _ => True

/-- In a Swiss stage item nobody has: the ratings of the teams depend on all results. -/
def Request.SparesRatings (db : Database) : Request → Prop
  | .updateRoundById k body => ∀ r row, TurnedRound db k body r row → row.type = .swiss →
      roundResults db r.stageItemId k = []
  | _ => True

/-! ## 2. What they leave -/

/-- The other stage items read the same. -/
theorem SameRanking.updateRound_other {k : RoundId} {r : RoundRow} {body : RoundUpdateBody}
    (hr : db.rounds.find? k = some r) {j : StageItemId} (hj : j ≠ r.stageItemId) :
    SameRanking db (sqlUpdateRound db tid k body.name body.isDraft) tid j := by
  refine .of_rounds (storedResults_updateRounds fun r' hr' hp => ?_)
  rw [Bool.and_eq_true, beq_iff_eq, beq_iff_eq] at hp
  obtain rfl := round_of_id hr hr' hp.2
  unfold publishedResults
  rw [if_neg fun h => hj h.1.symm, if_neg fun h => hj h.1.symm]

/-- A stage item reads as before, unless it has the round, with results. -/
theorem updateRound_turned {k : RoundId} {body : RoundUpdateBody} {j : StageItemId}
    {row : StageItemRow} (hrow : db.stageItems.find? j = some row)
    (htype : row.type ≠ .singleElimination) :
    SameRanking db (sqlUpdateRound db tid k body.name body.isDraft) tid j ∨
      ∃ r, r.stageItemId = j ∧ TurnedRound db k body r row ∧ roundResults db j k ≠ [] := by
  by_cases hkeeps : KeepsResults db k body
  · exact Or.inl (.updateRound hkeeps j)
  unfold KeepsResults at hkeeps
  push Not at hkeeps
  obtain ⟨r, hr, hflip, hsome⟩ := hkeeps
  by_cases hj : j = r.stageItemId
  · subst hj
    exact Or.inr ⟨r, rfl, ⟨hr, hflip, hrow, htype⟩, hsome⟩
  · exact Or.inl (.updateRound_other hr hj)

theorem StandingsExact.turnRound {k : RoundId} {body : RoundUpdateBody}
    (h : StandingsExact E db tid) (hload : Loadable db tid)
    (hteams : (Request.updateRoundById k body).SparesTeams db)
    (hratings : (Request.updateRoundById k body).SparesRatings db)
    (hcall : Brackets.updateRoundById db tid k body = .ok db') : StandingsExact E db' tid := by
  obtain ⟨-, -, rfl⟩ := updateRoundById_ok hcall
  have hb : Backdrop db (sqlUpdateRound db tid k body.name body.isDraft) := ⟨rfl, rfl, rfl, rfl⟩
  intro j row hrow ht htype
  have hrow : db.stageItems.find? j = some row := hrow
  rcases updateRound_turned hrow htype with hsame | ⟨r, rfl, hturned, hsome⟩
  · exact (h j).of_same hsame (hb.loadable hload) row hrow ht htype
  · have hswiss : row.type ≠ .swiss := fun e => hsome (hratings r row hturned e)
    exact exact_of_teamsRest hload hturned.round (h _ row hrow ht htype) hrow hswiss
      (hteams r row hturned)

/-- **The requests that change results keep exact statistics exact**, unless they publish or take
    back a round in which a team has a result: then the statistics are stale. -/
theorem resultRequest_exact {env : Environment} {r : Request} (hU : TeamsOnce db)
    (hload : Loadable db tid) (h : StandingsExact env.expectedScore db tid) (hr : r.OnResults db)
    (hcall : r.handle env db tid = .ok db') :
    (r.SparesTeams db → r.SparesRatings db → StandingsExact env.expectedScore db' tid) ∧
      (StandingsExact env.expectedScore db' tid → r.SparesTeams db) := by
  cases r with
  | updateMatchById k body =>
    exact ⟨fun _ _ => h.refreshed (.updateMatchById hU hload hr hcall), fun _ => trivial⟩
  | createMatch body => exact ⟨fun _ _ => h.refreshed (.createMatch hload hcall), fun _ => trivial⟩
  | deleteMatch k => exact ⟨fun _ _ => h.refreshed (.deleteMatch hU hload hcall), fun _ => trivial⟩
  | createRound body => exact ⟨fun _ _ => h.refreshed (.createRound hload hcall), fun _ => trivial⟩
  | deleteRound k => exact ⟨fun _ _ => h.refreshed (.deleteRound hU hload hcall), fun _ => trivial⟩
  | updateRankingById k body =>
    exact ⟨fun _ _ => h.refreshed (.updateRankingById hU hload hcall), fun _ => trivial⟩
  | updateRoundById k body =>
    refine ⟨fun hteams hratings => h.turnRound hload hteams hratings hcall,
      fun hexact r row hturned => ?_⟩
    obtain ⟨-, ⟨round, hround⟩, rfl⟩ := updateRoundById_ok hcall
    obtain ⟨hfound, ht⟩ := roundDependency_ok hround
    obtain rfl := Option.some.inj (hfound.symm.trans hturned.round)
    exact teamsRest_of_exact hload hfound (h _ row hturned.item ht hturned.scored) hturned.flip
      (hexact _ row hturned.item ht hturned.scored)
  | _ => cases hr

/-! ### A league with a drafted round -/

/-- Two teams in a league, and its next round as a draft. -/
def draftedRound : List Call :=
  [.createTournament ⟨⟨0, true, none, 46, 22, by decide, by decide⟩, 1⟩,
    .request 1 .createStage,
    .request 1 (.createMultipleTeams [("Red", []), ("Blue", [])] true),
    .request 1 (.createStageItem ⟨1, none, .swiss, 2, none, two_teams⟩),
    .request 1 (.updateStageItemInput 1 1 (.final 1)),
    .request 1 (.updateStageItemInput 1 2 (.final 2)),
    .request 1 (.createRound ⟨none, 1⟩)]

/-- The stage item of the league. -/
def leagueItem : StageItemRow := ⟨1, "Swiss", 1, 2, 1, .swiss⟩

/-- The draft of the league, and the round it becomes. -/
def leagueRound (isDraft : Bool) : RoundRow := ⟨1, "Round 01", isDraft, 1⟩

/-- The draft is published. -/
def publication : Request := .updateRoundById 1 ⟨"Round 01", false⟩

/-- The round is a draft again. -/
def retraction : Request := .updateRoundById 1 ⟨"Round 01", true⟩

/-- A score entry without a score: it recalculates. -/
def noScore : MatchBody where
  roundId := 1
  duration_ge := no_duration
  margin_ge := no_margin

/-- The statistics of the stored stage items are exact, computed. -/
def standingsTest (E : ExpectedScore) (db : Database) (tid : TournamentId) : Bool :=
  db.stageItems.rows.all fun row => exactTest E db tid row.id

theorem standingsExact_of_test (h : standingsTest E db tid = true) : StandingsExact E db tid := by
  intro k row hrow _ _
  have htest := List.all_eq_true.mp h row (db.stageItems.mem_of_find? hrow)
  have hid : row.id = k := db.stageItems.key_of_find? hrow
  exact exactTest_iff.mp (hid ▸ htest)

/-- What is stored for the league is not what is computed. -/
def Stale (db : Database) : Prop :=
  db.stageItems.find? 1 = some leagueItem ∧ db.stageItemTournament 1 = some 1 ∧
    exactTest quietEnvironment.expectedScore db 1 1 = false

instance : DecidablePred Stale := fun db => by unfold Stale; infer_instance

theorem Stale.not_exact (h : Stale db) :
    ¬ StandingsExact quietEnvironment.expectedScore db 1 := by
  obtain ⟨hitem, ht, htest⟩ := h
  intro hexact
  have htest' := exactTest_iff.mpr (hexact 1 leagueItem hitem ht nofun)
  rw [htest] at htest'
  cases htest'

/-- **A draft with a result is published**, and what is stored for the two teams is stale. -/
theorem scoredDraft_stale : ∃ db db', Runs (fun _ _ _ => True) .empty db ∧
    StandingsExact quietEnvironment.expectedScore db 1 ∧ publication.OnResults db ∧
    publication.handle quietEnvironment db 1 = .ok db' ∧
    ¬ StandingsExact quietEnvironment.expectedScore db' 1 := by
  obtain ⟨db, hdb, hexact, hcall⟩ := exists_ok_of_any
    (x := runCalls quietEnvironment (draftedRound ++ [.request 1 (.updateMatchById 1 firstScore)]))
    (P := fun db => standingsTest quietEnvironment.expectedScore db 1 = true ∧
      ((publication.handle quietEnvironment db 1).toOption.any fun db' => decide (Stale db')) = true)
    (by decide +kernel)
  obtain ⟨db', hcall, hstale⟩ := exists_ok_of_any (P := Stale) hcall
  exact ⟨db, db', runs_of_calls (fun _ _ => trivial) hdb, standingsExact_of_test hexact, trivial,
    hcall, hstale.not_exact⟩

/-- The states of the league: with a draft, with the round, and with a result in it. -/
def leagueStates : Outcome (Database × Database × Database) := do
  let drafted ← runCalls quietEnvironment (draftedRound ++ [.request 1 (.updateMatchById 1 noScore)])
  let published ← publication.handle quietEnvironment drafted 1
  let scored ← (Request.updateMatchById 1 firstScore).handle quietEnvironment published 1
  .ok (drafted, published, scored)

/-- The draft is published before a result is entered: the standings are exact with the result, and
    stale when the round is taken back. -/
theorem publishedDraft_exact : ∃ drafted published scored,
    leagueStates = .ok (drafted, published, scored) ∧
    StandingsExact quietEnvironment.expectedScore published 1 ∧
    StandingsExact quietEnvironment.expectedScore scored 1 ∧
    ∀ db', retraction.handle quietEnvironment scored 1 = .ok db' →
      ¬ StandingsExact quietEnvironment.expectedScore db' 1 := by
  obtain ⟨⟨drafted, published, scored⟩, hstates, hexact, ⟨hdraft, hnone⟩,
      ⟨hround, hitem, hresult, hteam⟩, hkept⟩ :=
    exists_ok_of_any (x := leagueStates) (P := fun s =>
      standingsTest quietEnvironment.expectedScore s.1 1 = true ∧
      (s.1.rounds.find? 1 = some (leagueRound true) ∧ roundResults s.1 1 1 = []) ∧
      (s.2.2.rounds.find? 1 = some (leagueRound false) ∧
        s.2.2.stageItems.find? 1 = some leagueItem ∧ ⟨1, 2, 2, 1⟩ ∈ roundResults s.2.2 1 1 ∧
        (s.2.2.stageItemInputs.find? 1).any (fun i => i.teamId.isSome) = true) ∧
      (s.2.1.matches_.find? 1).map (·.roundId) = some 1) (by decide +kernel)
  obtain ⟨_, hdrafted, h⟩ := bind_eq_ok.mp hstates
  obtain ⟨_, hpublished, h⟩ := bind_eq_ok.mp h
  obtain ⟨_, hscored, h⟩ := bind_eq_ok.mp h
  cases h
  have hrun0 : Runs (fun _ _ _ => True) .empty drafted :=
    runs_of_calls (fun _ _ => trivial) hdrafted
  have hrun1 : Runs (fun _ _ _ => True) .empty published :=
    hrun0.tail ⟨quietEnvironment, .request 1 publication, trivial, hpublished⟩
  have hrun2 : Runs (fun _ _ _ => True) .empty scored :=
    hrun1.tail ⟨quietEnvironment, .request 1 (.updateMatchById 1 firstScore), trivial, hscored⟩
  have hempty : ∀ r row, TurnedRound drafted 1 ⟨"Round 01", false⟩ r row →
      roundResults drafted r.stageItemId 1 = [] := by
    intro r row hturned
    obtain rfl := Option.some.inj (hdraft.symm.trans hturned.round)
    exact hnone
  have hexact1 := (resultRequest_exact (r := publication) hrun0.teamsOnce (hrun0.loadable 1)
    (standingsExact_of_test hexact) trivial hpublished).1
    (fun r row hturned res hres => absurd (hempty r row hturned ▸ hres) List.not_mem_nil)
    fun r row hturned _ => hempty r row hturned
  have hstays : ∀ m, published.matches_.find? 1 = some m → firstScore.roundId = m.roundId := by
    intro m hm
    have hkept : (published.matches_.find? 1).map (·.roundId) = some 1 := hkept
    rw [hm] at hkept
    exact (Option.some.inj hkept).symm
  have hexact2 := (resultRequest_exact (r := .updateMatchById 1 firstScore) hrun1.teamsOnce
    (hrun1.loadable 1) hexact1 hstays hscored).1 trivial trivial
  refine ⟨drafted, published, scored, hstates, hexact1, hexact2, fun db' hcall hexact' => ?_⟩
  obtain ⟨i, hi, hseated⟩ := Option.any_eq_true _ _ |>.mp hteam
  exact (resultRequest_exact (r := retraction) hrun2.teamsOnce (hrun2.loadable 1) hexact2 trivial
    hcall).2 hexact' (leagueRound false) leagueItem ⟨hround, nofun, hitem, nofun⟩ ⟨1, 2, 2, 1⟩
    hresult .one ⟨1, i, rfl, hi, hseated⟩

end Brackets
