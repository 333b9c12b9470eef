/-
  File:      Brackets/Progress/Rosters.lean
  Subject:   No tournament has more teams and players than the subscription allows.

  Unlike for the rounds, every request that adds teams or players counts them all first, so these
  two limits hold after any accepted calls: `WithinRosters.call`.
-/
import Brackets.Progress.Limits

namespace Brackets

open Library

/-- The teams and players of every tournament are within the limits. -/
structure WithinRosters (db : Database) : Prop where
  teams : ∀ tid, db.count tid .teams ≤ regularSubscription.maxTeams
  players : ∀ tid, db.count tid .players ≤ regularSubscription.maxPlayers

variable {db db' : Database} {tid : TournamentId}

/-- A new stage item with its rounds has no teams or players of its own. -/
theorem count_newRounds (hdb : Isolated db) {body : StageItemCreateBody}
    {new : StageItemRow × Database} (hnew : sqlCreateStageItemWithEmptyInputs db tid body = .ok new)
    (n : Nat) : ((createNextRound tid new.1.id)^[n] new.2).count tid .teams ≤ db.count tid .teams ∧
      ((createNextRound tid new.1.id)^[n] new.2).count tid .players ≤ db.count tid .players := by
  have hrest := (count_newStageItem hdb hnew).2
  constructor
  · rw [iterate_project (fun d : Database => d.count tid .teams) (createNextRound tid new.1.id)
      fun _ => rfl]
    exact hrest .teams nofun
  · rw [iterate_project (fun d : Database => d.count tid .players) (createNextRound tid new.1.id)
      fun _ => rfl]
    exact hrest .players nofun

/-- The teams of a bulk import, and their players, are counted before they are stored. -/
theorem count_createMultipleTeams {now : DateTime} {teamsWithPlayers : List (String × List String)}
    {active : Bool} :
    (teamsWithPlayers.foldl (createTeamWithPlayers now tid active) db).count tid .teams ≤
        db.count tid .teams + teamsWithPlayers.length ∧
      (teamsWithPlayers.foldl (createTeamWithPlayers now tid active) db).count tid .players ≤
        db.count tid .players + (teamsWithPlayers.flatMap (·.2)).length := by
  have hteams := foldl_count_le (f := createTeamWithPlayers now tid active) (fun d team =>
    (count_createTeamWithPlayers now active d team).1) teamsWithPlayers db
  have hplayers := foldl_count_le (f := createTeamWithPlayers now tid active) (fun d team =>
    (count_createTeamWithPlayers now active d team).2) teamsWithPlayers db
  rw [sum_map_one] at hteams
  rw [← List.length_flatMap] at hplayers
  exact ⟨hteams, hplayers⟩

theorem count_createMultiplePlayers {now : DateTime} {playerNames : List String} {active : Bool} :
    (playerNames.foldl (fun d name => (insertPlayer d now ⟨name, active⟩ tid).2) db).count tid
        .teams = db.count tid .teams ∧
      (playerNames.foldl (fun d name => (insertPlayer d now ⟨name, active⟩ tid).2) db).count tid
        .players ≤ db.count tid .players + playerNames.length := by
  constructor
  · exact foldl_project (fun d : Database => d.count tid .teams)
      (fun d name => (insertPlayer d now ⟨name, active⟩ tid).2) (fun _ _ => rfl) _ _
  · have hadd := foldl_count_le (c := .players)
      (f := fun d name => (insertPlayer d now ⟨name, active⟩ tid).2)
      (fun d _ => (Table.length_owned_insert : _ ≤ d.count tid .players + 1)) playerNames db
    rwa [sum_map_one] at hadd

/-- The tournament that the call is made for stays within the two limits. -/
theorem Effect.roster_le {call : Call} (heffect : Effect db call db') (hdb : Isolated db)
    (h : WithinRosters db) :
    db'.count (call.tournament db) .teams ≤ regularSubscription.maxTeams ∧
      db'.count (call.tournament db) .players ≤ regularSubscription.maxPlayers := by
  have hold : ∀ tid, db.count tid .teams ≤ regularSubscription.maxTeams ∧
      db.count tid .players ≤ regularSubscription.maxPlayers := fun tid =>
    ⟨h.teams tid, h.players tid⟩
  -- a database with the same outline has as many
  have hsame : ∀ {d : Database}, db'.outline = d.outline →
      d.count (call.tournament db) .teams ≤ regularSubscription.maxTeams ∧
        d.count (call.tournament db) .players ≤ regularSubscription.maxPlayers →
      db'.count (call.tournament db) .teams ≤ regularSubscription.maxTeams ∧
        db'.count (call.tournament db) .players ≤ regularSubscription.maxPlayers := by
    intro d houtline hd
    rwa [count_of_outline houtline, count_of_outline houtline]
  cases heffect with
  | kept houtline => exact hsame houtline (hold _)
  | createTournament houtline => exact hsame houtline (hold _)
  | deleteTournament _ hcleared =>
    exact ⟨(count_cleared hcleared .teams).le.trans (Nat.zero_le _),
      (count_cleared hcleared .players).le.trans (Nat.zero_le _)⟩
  | createStage _ houtline => exact hsame houtline (hold _)
  | deleteStage _ houtline => exact hsame houtline (hold _)
  | @createStageItem tid _ _ n _ _ _ hnew _ houtline =>
    obtain ⟨hteams, hplayers⟩ := count_newRounds hdb hnew n
    exact hsame houtline ⟨hteams.trans (h.teams tid), hplayers.trans (h.players tid)⟩
  | deleteStageItem _ houtline => exact hsame houtline (hold _)
  | updateStageItemInput _ houtline => exact hsame houtline (hold _)
  | createRound _ houtline => exact hsame houtline (hold _)
  | deleteRound houtline => exact hsame houtline (hold _)
  | createRanking _ houtline => exact hsame houtline (hold _)
  | deleteRanking houtline => exact hsame houtline (hold _)
  | createTeam hroom houtline =>
    exact hsame houtline ⟨Table.length_owned_insert.trans hroom, (hold _).2⟩
  | createMultipleTeams hteams hplayers =>
    exact ⟨count_createMultipleTeams.1.trans hteams, count_createMultipleTeams.2.trans hplayers⟩
  | deleteTeam houtline =>
    exact hsame houtline ⟨Table.length_owned_delete.trans (hold _).1, (hold _).2⟩
  | createSinglePlayer hroom => exact ⟨(hold _).1, Table.length_owned_insert.trans hroom⟩
  | createMultiplePlayers hroom =>
    exact ⟨count_createMultiplePlayers.1.le.trans (hold _).1,
      count_createMultiplePlayers.2.trans hroom⟩
  | deletePlayer houtline =>
    exact hsame houtline ⟨(hold _).1, Table.length_owned_delete.trans (hold _).2⟩

/-- **Every accepted call keeps the teams and players within the limits.** -/
theorem WithinRosters.call (h : WithinRosters db) (hdb : Isolated db) {env : Environment}
    {call : Call} (hcall : call.handle env db = .ok db') : WithinRosters db' := by
  have hboth : ∀ tid, db'.count tid .teams ≤ regularSubscription.maxTeams ∧
      db'.count tid .players ≤ regularSubscription.maxPlayers := by
    intro tid
    by_cases ht : tid = call.tournament db
    · exact ht ▸ (Call.effect hdb hcall).roster_le hdb h
    · have hsame := (Confined.call hdb hcall).same tid ht
      rw [count_sameFor hsame, count_sameFor hsame]
      exact ⟨h.teams tid, h.players tid⟩
  exact ⟨fun tid => (hboth tid).1, fun tid => (hboth tid).2⟩

theorem withinRosters_empty : WithinRosters .empty :=
  ⟨fun _ => Nat.zero_le _, fun _ => Nat.zero_le _⟩

end Brackets
