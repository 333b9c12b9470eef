/-
  File:      Brackets/Routes/Api.lean
  Subject:   The requests that change what is stored, and runs of them.

  A call is a request for one tournament or the creation of a new one. A call that fails changes
  nothing, so a run is a sequence of accepted calls (`Runs`), each under a condition on the state
  before it.

  Each route has a lemma that says what an accepted request checked and did (`createRound_ok`,
  `updateMatchById_ok`, ..). The invariants over runs are derived from these.
-/
import Mathlib.Logic.Relation
import Brackets.Routes.Matches
import Brackets.Routes.Rankings
import Brackets.Routes.Rounds
import Brackets.Routes.StageItems
import Brackets.Routes.Stages
import Brackets.Routes.Teams
import Brackets.Routes.Tournaments

namespace Brackets

/-- What a request gets from outside. -/
structure Environment where
  expectedScore : ExpectedScore
  maxWeightMatching : MatchingSolver
  shuffle : Shuffle
  now : DateTime

/-- A request for a tournament. -/
inductive Request where
  | updateTournamentById (body : TournamentUpdateBody)
  | deleteTournament
  | changeStatus (status : TournamentStatus)
  | uploadLogo (filename : Option String)
  | createStage
  | updateStage (k : StageId) (body : StageUpdateBody)
  | deleteStage (k : StageId)
  | activateNextStage (direction : Direction)
  | createStageItem (body : StageItemCreateBody)
  | updateStageItem (k : StageItemId) (body : StageItemUpdateBody)
  | deleteStageItem (k : StageItemId)
  | updateStageItemInput (stageItemId : StageItemId) (k : StageItemInputId)
      (body : StageItemInputUpdateBody)
  | createRound (body : RoundCreateBody)
  | updateRoundById (k : RoundId) (body : RoundUpdateBody)
  | deleteRound (k : RoundId)
  | createMatch (body : MatchCreateBodyFrontend)
  | updateMatchById (k : MatchId) (body : MatchBody)
  | deleteMatch (k : MatchId)
  | scheduleMatches
  | createRanking (body : RankingCreateBody)
  | updateRankingById (k : RankingId) (body : RankingBody)
  | deleteRanking (k : RankingId)
  | createTeam (body : TeamBody)
  | createMultipleTeams (teamsWithPlayers : List (String × List String)) (active : Bool)
  | updateTeamById (k : TeamId) (body : TeamBody)
  | updateTeamLogo (k : TeamId) (filename : Option String)
  | deleteTeam (k : TeamId)
  | createSinglePlayer (body : PlayerBody)
  | createMultiplePlayers (playerNames : List String) (active : Bool)
  | updatePlayerById (k : PlayerId) (body : PlayerBody)
  | deletePlayer (k : PlayerId)

def Request.handle (env : Environment) (db : Database) (tid : TournamentId) :
    Request → Outcome Database
  | updateTournamentById body => Brackets.updateTournamentById db tid body
  | deleteTournament => Brackets.deleteTournament db tid
  | changeStatus status => Brackets.changeStatus db tid status
  | uploadLogo filename => Brackets.uploadLogo db tid filename
  | createStage => Brackets.createStage db tid
  | updateStage k body => Brackets.updateStage db tid k body
  | deleteStage k => Brackets.deleteStage db tid k
  | activateNextStage direction =>
      Brackets.activateNextStage env.expectedScore db tid direction
  | createStageItem body => Brackets.createStageItem env.expectedScore db tid body
  | updateStageItem k body => Brackets.updateStageItem env.expectedScore db tid k body
  | deleteStageItem k => Brackets.deleteStageItem db tid k
  | updateStageItemInput stageItemId k body =>
      Brackets.updateStageItemInput db tid stageItemId k body
  | createRound body => Brackets.createRound env.maxWeightMatching env.shuffle db tid body
  | updateRoundById k body => Brackets.updateRoundById db tid k body
  | deleteRound k => Brackets.deleteRound env.expectedScore db tid k
  | createMatch body => Brackets.createMatch db tid body
  | updateMatchById k body => Brackets.updateMatchById env.expectedScore db tid k body
  | deleteMatch k => Brackets.deleteMatch env.expectedScore db tid k
  | scheduleMatches => Brackets.scheduleMatches db tid
  | createRanking body => Brackets.createRanking db tid body
  | updateRankingById k body => Brackets.updateRankingById env.expectedScore db tid k body
  | deleteRanking k => Brackets.deleteRanking db tid k
  | createTeam body => Brackets.createTeam db tid body
  | createMultipleTeams teamsWithPlayers active =>
      Brackets.createMultipleTeams db env.now tid teamsWithPlayers active
  | updateTeamById k body => Brackets.updateTeamById db tid k body
  | updateTeamLogo k filename => Brackets.updateTeamLogo db tid k filename
  | deleteTeam k => Brackets.deleteTeam db tid k
  | createSinglePlayer body => Brackets.createSinglePlayer db env.now tid body
  | createMultiplePlayers playerNames active =>
      Brackets.createMultiplePlayers db env.now tid playerNames active
  | updatePlayerById k body => Brackets.updatePlayerById db tid k body
  | deletePlayer k => Brackets.deletePlayer db tid k

/-- The requests that an archived tournament takes. -/
def Request.forArchived : Request → Bool
  | .deleteTournament | .changeStatus _ => true
  | _ => false

/-- **Every other request finds its tournament open.** -/
theorem Request.tournament_open {env : Environment} {db db' : Database} {tid : TournamentId}
    {r : Request} (h : r.handle env db tid = .ok db') (hr : r.forArchived = false) :
    NotArchived db tid := by
  cases r with
  | updateTournamentById body => exact (updateTournamentById_ok h).1
  | deleteTournament => cases hr
  | changeStatus status => cases hr
  | uploadLogo filename => exact (uploadLogo_ok h).1
  | createStage => exact (createStage_ok h).1
  | updateStage k body =>
    obtain ⟨_, hopen, -⟩ := updateStage_ok h
    exact hopen
  | deleteStage k =>
    obtain ⟨_, hopen, -⟩ := deleteStage_ok h
    exact hopen
  | activateNextStage direction =>
    obtain ⟨_, _, hopen, -⟩ := activateNextStage_ok h
    exact hopen
  | createStageItem body => exact (createStageItem_ok h).elim (·.opened)
  | updateStageItem k body => exact (updateStageItem_ok h).elim (·.opened)
  | deleteStageItem k => exact (deleteStageItem_ok h).elim (·.opened)
  | updateStageItemInput stageItemId k body => exact (updateStageItemInput_ok h).elim (·.opened)
  | createRound body => exact (createRound_ok h).elim fun e => disallowArchived_ok e.checks.opened
  | updateRoundById k body => exact (updateRoundById_ok h).1
  | deleteRound k => exact (deleteRound_ok h).elim (·.opened)
  | createMatch body => exact (createMatch_ok h).elim (·.opened)
  | updateMatchById k body => exact (updateMatchById_ok h).elim (·.opened)
  | deleteMatch k => exact (deleteMatch_ok h).elim (·.opened)
  | scheduleMatches => exact (scheduleMatches_ok h).1
  | createRanking body => exact (createRanking_ok h).1
  | updateRankingById k body => exact (updateRankingById_ok h).1
  | deleteRanking k => exact (deleteRanking_ok h).1
  | createTeam body => exact (createTeam_ok h).1
  | createMultipleTeams teamsWithPlayers active => exact (createMultipleTeams_ok h).1
  | updateTeamById k body =>
    obtain ⟨_, hopen, -⟩ := updateTeamById_ok h
    exact hopen
  | updateTeamLogo k filename =>
    obtain ⟨_, hopen, -⟩ := updateTeamLogo_ok h
    exact hopen
  | deleteTeam k => exact (deleteTeam_ok h).1
  | createSinglePlayer body => exact (createSinglePlayer_ok h).1
  | createMultiplePlayers playerNames active => exact (createMultiplePlayers_ok h).1
  | updatePlayerById k body => exact (updatePlayerById_ok h).1
  | deletePlayer k => exact (deletePlayer_ok h).1

inductive Call where
  | createTournament (body : TournamentBody)
  | request (tid : TournamentId) (r : Request)

namespace Call

/-- The tournament that the call is made for; a new tournament takes the next id. -/
def tournament (db : Database) : Call → TournamentId
  | createTournament _ => db.tournaments.next
  | request tid _ => tid

def handle (env : Environment) (db : Database) : Call → Outcome Database
  | createTournament body => Brackets.createTournament db body
  | request tid r => r.handle env db tid

end Call

/-- The calls one after the other, from nothing; all of them have to be accepted. -/
def runCalls (env : Environment) (calls : List Call) : Outcome Database :=
  calls.foldlM (fun db call => call.handle env db) .empty

/-- An accepted call under a condition. -/
def Accepted (C : Environment → Database → Call → Prop) (db db' : Database) : Prop :=
  ∃ env call, C env db call ∧ call.handle env db = .ok db'

/-- Any number of accepted calls, each under the condition. -/
abbrev Runs (C : Environment → Database → Call → Prop) : Database → Database → Prop :=
  Relation.ReflTransGen (Accepted C)

/-- **What every accepted call keeps holds after a run.** -/
theorem Runs.invariant {C : Environment → Database → Call → Prop} {P : Database → Prop}
    (hstep : ∀ env db call db', P db → C env db call → call.handle env db = .ok db' → P db')
    {db db' : Database} (h : Runs C db db') (hdb : P db) : P db' := by
  induction h with
  | refl => exact hdb
  | tail _ hacc ih =>
    obtain ⟨env, call, hC, hcall⟩ := hacc
    exact hstep env _ call _ ih hC hcall

/-- The calls one after the other, from nothing, each as long as the test lets it pass. -/
def runAllowed (env : Environment) (allowed : Database → Call → Bool) (calls : List Call) :
    Outcome Database :=
  calls.foldlM (fun db call =>
    if allowed db call then call.handle env db else .error (.crash .assertionError)) .empty

theorem runs_of_allowed {C : Environment → Database → Call → Prop} {env : Environment}
    {allowed : Database → Call → Bool} (hC : ∀ db call, allowed db call = true → C env db call)
    {calls : List Call} {db : Database} (h : runAllowed env allowed calls = .ok db) :
    Runs C .empty db := by
  refine foldlM_invariant (P := Runs C .empty) (fun d call d' hd hcall => ?_) .refl h
  split at hcall
  · next hallowed => exact hd.tail ⟨env, call, hC d call hallowed, hcall⟩
  · cases hcall

end Brackets
