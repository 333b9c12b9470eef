/-
  File:      Brackets/Progress/Limits.lean
  Subject:   The limits of a subscription.

  Six kinds of records are counted within a tournament. Every request that creates records checks
  that there is room for them, except for the rounds that come with a stage item:

  * `Runs.rooted`: after any run every row belongs to a tournament that is there, so a new
    tournament starts empty;
  * `withinLimits_of_room`: the limits hold after every run whose new stage items find room for
    their rounds;
  * `emptiedRounds_exceed`: a tournament with more rounds than the subscription allows.
-/
import Brackets.Progress.Effects

namespace Brackets

open Library

variable {db db' : Database} {tid : TournamentId}

/-! ## 1. The tournaments that there are -/

/-- An accepted request is made for a tournament that is there. -/
theorem Request.tournament_isSome {env : Environment} {r : Request}
    (h : r.handle env db tid = .ok db') : (db.tournaments.find? tid).isSome = true := by
  cases hr : r.forArchived with
  | false =>
    obtain ⟨t, ht, -⟩ := Request.tournament_open h hr
    exact Option.isSome_of_mem ht
  | true =>
    cases r with
    | deleteTournament =>
      obtain ⟨t, ht, -⟩ := bind_eq_ok.mp h
      exact Option.isSome_of_mem (orRaise_eq_ok.mp ht)
    | changeStatus status =>
      obtain ⟨⟨t, ht, -⟩, -⟩ := changeStatus_ok h
      exact Option.isSome_of_mem ht
    | _ => cases hr

/-- The ids of the tournaments. -/
def Database.tournamentIds (db : Database) : Table TournamentRow := db.layout.tournaments

theorem tournamentIds_of_outline (h : db'.outline = db.outline) :
    db'.tournamentIds = db.tournamentIds := by
  unfold Database.tournamentIds
  rw [layout_of_outline h]

theorem isSome_of_tournamentIds (h : db'.tournamentIds = db.tournamentIds) (k : TournamentId) :
    (db'.tournaments.find? k).isSome = (db.tournaments.find? k).isSome := by
  have hfind : ∀ d : Database, (d.tournamentIds.find? k).isSome = (d.tournaments.find? k).isSome := by
    intro d
    rw [Database.tournamentIds, Database.layout, Table.find?_map, Option.isSome_map]
  rw [← hfind, ← hfind, h]

/-- A request deletes its tournament or changes none of the ids. -/
theorem Effect.tournamentIds {r : Request} (h : Effect db (.request tid r) db') :
    r = .deleteTournament ∨ db'.tournamentIds = db.tournamentIds := by
  cases h with
  | kept h => exact Or.inr (tournamentIds_of_outline h)
  | deleteTournament _ _ => exact Or.inl rfl
  | createStage _ h => exact Or.inr ((tournamentIds_of_outline h).trans rfl)
  | deleteStage _ h => exact Or.inr ((tournamentIds_of_outline h).trans rfl)
  | createStageItem _ _ hnew _ h =>
    obtain ⟨rankingId, -, rfl⟩ := sqlCreateStageItem_ok hnew
    refine Or.inr ((tournamentIds_of_outline h).trans ?_)
    rw [iterate_project Database.tournamentIds (createNextRound tid _) fun _ => rfl]
    exact foldl_project Database.tournamentIds
      (fun d (i : Nat) => sqlCreateEmptyInput tid db.stageItems.next d (i + 1)) (fun _ _ => rfl) _ _
  | deleteStageItem _ h => exact Or.inr ((tournamentIds_of_outline h).trans rfl)
  | updateStageItemInput _ h => exact Or.inr ((tournamentIds_of_outline h).trans rfl)
  | createRound _ h => exact Or.inr ((tournamentIds_of_outline h).trans rfl)
  | deleteRound h => exact Or.inr ((tournamentIds_of_outline h).trans rfl)
  | createRanking _ h => exact Or.inr ((tournamentIds_of_outline h).trans rfl)
  | deleteRanking h => exact Or.inr ((tournamentIds_of_outline h).trans rfl)
  | createTeam _ h => exact Or.inr ((tournamentIds_of_outline h).trans rfl)
  | createMultipleTeams _ _ =>
    exact Or.inr (foldl_project Database.tournamentIds _ (fun d team =>
      createTeamWithPlayers_project Database.tournamentIds (fun _ _ => rfl) (fun _ _ _ => rfl) d team)
      _ _)
  | deleteTeam h => exact Or.inr ((tournamentIds_of_outline h).trans rfl)
  | createSinglePlayer _ => exact Or.inr rfl
  | @createMultiplePlayers _ now _ active _ =>
    exact Or.inr (foldl_project Database.tournamentIds
      (fun d name => (insertPlayer d now ⟨name, active⟩ tid).2) (fun _ _ => rfl) _ _)
  | deletePlayer h => exact Or.inr ((tournamentIds_of_outline h).trans rfl)

/-- The tournament that a call is made for is there afterwards, unless the call deleted it. -/
theorem Effect.tournament_isSome {env : Environment} {call : Call} (h : Effect db call db')
    (hcall : call.handle env db = .ok db') :
    call = .request (call.tournament db) .deleteTournament ∨
      (db'.tournaments.find? (call.tournament db)).isSome = true := by
  cases call with
  | createTournament body =>
    refine Or.inr ?_
    obtain ⟨-, -, rfl⟩ := createTournament_ok hcall
    have hnew : (db.tournaments.insert body.row body.key_row).find? db.tournaments.next =
      some (body.row db.tournaments.next) := db.tournaments.find?_insert_self
    exact congrArg Option.isSome hnew
  | request tid r =>
    rcases h.tournamentIds with rfl | hids
    · exact Or.inl rfl
    · exact Or.inr ((isSome_of_tournamentIds hids tid).trans (Request.tournament_isSome hcall))

theorem Rooted.confined (hroot : Rooted db) (hconfined : Confined tid db db')
    (htid : (db'.tournaments.find? tid).isSome = true) : Rooted db' := by
  have hkept : ∀ b, (b ≠ tid → (db.tournaments.find? b).isSome = true) →
      (db'.tournaments.find? b).isSome = true := by
    intro b hfind
    by_cases hb : b = tid
    · exact hb ▸ htid
    · rw [(hconfined.same b hb).tournament]
      exact hfind hb
  refine ⟨fun s hs => ?_, fun i hi => ?_, fun t ht => ?_, fun p hp => ?_, fun r hr => ?_⟩
  · exact hkept _ fun hb =>
      hroot.stages s (Table.mem_of_owned (hconfined.same _ hb).stages hs rfl)
  · exact hkept _ fun hb =>
      hroot.inputs i (Table.mem_of_owned (hconfined.same _ hb).inputs hi rfl)
  · exact hkept _ fun hb =>
      hroot.teams t (Table.mem_of_owned (hconfined.same _ hb).teams ht rfl)
  · exact hkept _ fun hb =>
      hroot.players p (Table.mem_of_owned (hconfined.same _ hb).players hp rfl)
  · exact hkept _ fun hb =>
      hroot.rankings r (Table.mem_of_owned (hconfined.same _ hb).rankings hr rfl)

theorem Rooted.call (hroot : Rooted db) (hdb : Isolated db) {env : Environment} {call : Call}
    (hcall : call.handle env db = .ok db') : Rooted db' := by
  have hconfined := Confined.call hdb hcall
  have heffect := Call.effect hdb hcall
  rcases heffect.tournament_isSome hcall with hdelete | htid
  · rw [hdelete] at heffect hcall
    cases heffect with
    | kept h =>
      have hcall : Request.handle env db (call.tournament db) .deleteTournament = .ok db' := hcall
      exact hroot.confined hconfined ((isSome_of_tournamentIds (tournamentIds_of_outline h) _).trans
        (Request.tournament_isSome hcall))
    | deleteTournament hconfined hcleared => exact hroot.of_cleared hconfined hcleared
  · exact hroot.confined hconfined htid

theorem rooted_empty : Rooted .empty where
  stages _ h := absurd h List.not_mem_nil
  inputs _ h := absurd h List.not_mem_nil
  teams _ h := absurd h List.not_mem_nil
  players _ h := absurd h List.not_mem_nil
  rankings _ h := absurd h List.not_mem_nil

/-- **Every row belongs to a tournament that is there**, whatever condition the calls are under. -/
theorem Runs.rooted {C : Environment → Database → Call → Prop} (h : Runs C .empty db) :
    Isolated db ∧ Rooted db :=
  h.invariant (P := fun d => Isolated d ∧ Rooted d)
    (fun _ _ _ _ hd _ hcall => ⟨(Confined.call hd.1 hcall).isolated, hd.2.call hd.1 hcall⟩)
    ⟨isolated_empty, rooted_empty⟩

/-! ## 2. Counting -/

theorem count_sameFor (h : SameFor tid db db') (c : Counted) : db'.count tid c = db.count tid c := by
  cases c with
  | teams => exact congrArg List.length h.teams
  | players => exact congrArg List.length h.players
  | stages => exact congrArg List.length h.stages
  | stageItems => exact congrArg List.length h.stageItems
  | rounds => exact congrArg List.length h.rounds
  | rankings => exact congrArg List.length h.rankings

/-- Nothing is counted for a tournament that is not there. -/
theorem count_rankings_absent (hroot : Rooted db) (h : db.tournaments.find? tid = none) :
    db.count tid .rankings = 0 := by
  refine List.length_eq_zero_iff.mpr (List.filter_eq_nil_iff.mpr fun r hr e => ?_)
  have hfind := hroot.rankings r hr
  rw [Option.some.inj (eq_of_beq e), h] at hfind
  cases hfind

theorem count_cleared (h : Cleared tid db) (c : Counted) : db.count tid c = 0 := by
  have hstage : ∀ k, db.stageTournament k ≠ some tid := by
    intro k hk
    obtain ⟨s, hs, -, ht⟩ := Table.ownerAt_eq_some.mp hk
    exact h.stages s hs (Option.some.inj ht)
  have hitem : ∀ k, db.stageItemTournament k ≠ some tid := by
    intro k hk
    rw [db.stageItemTournament_eq] at hk
    obtain ⟨i, -, -, ht⟩ := Table.ownerAt_eq_some.mp hk
    exact hstage i.stageId ht
  have hnone : ∀ {α : Type} [Keyed α] (t : Table α) (owner : α → Option TournamentId),
      (∀ r ∈ t.rows, owner r ≠ some tid) → (t.owned owner tid).length = 0 := by
    intro α _ t owner hno
    exact List.length_eq_zero_iff.mpr (List.filter_eq_nil_iff.mpr fun r hr e =>
      hno r hr (eq_of_beq e))
  cases c with
  | teams => exact hnone _ _ fun t ht e => h.teams t ht (Option.some.inj e)
  | players => exact hnone _ _ fun p hp e => h.players p hp (Option.some.inj e)
  | stages => exact hnone _ _ fun s hs e => h.stages s hs (Option.some.inj e)
  | stageItems => exact hnone _ _ fun i _ => hstage i.stageId
  | rounds => exact hnone _ _ fun r _ => hitem r.stageItemId
  | rankings => exact hnone _ _ fun r hr e => h.rankings r hr (Option.some.inj e)

/-- The count reads the outline only. -/
theorem count_outline (db : Database) (tid : TournamentId) (c : Counted) :
    db.outline.count tid c = db.count tid c := by
  have hstage : ∀ k, db.outline.stageTournament k = db.stageTournament k := fun k =>
    Table.ownerAt_map StageRow.key_outline (fun _ => rfl) k
  have hitem : ∀ k, db.outline.stageItemTournament k = db.stageItemTournament k := by
    intro k
    rw [Database.stageItemTournament_eq, Database.stageItemTournament_eq]
    exact Table.ownerAt_map StageItemRow.key_skeleton (fun i => hstage i.stageId) k
  cases c with
  | teams => exact Table.length_owned_map TeamRow.key_skeleton fun _ => rfl
  | players => exact Table.length_owned_map PlayerRow.key_skeleton fun _ => rfl
  | stages => exact Table.length_owned_map StageRow.key_outline fun _ => rfl
  | stageItems =>
    exact Table.length_owned_map StageItemRow.key_skeleton fun i => hstage i.stageId
  | rounds => exact Table.length_owned_map RoundRow.key_outline fun r => hitem r.stageItemId
  | rankings => exact Table.length_owned_map RankingRow.key_skeleton fun _ => rfl

theorem count_of_outline (h : db'.outline = db.outline) (tid : TournamentId) (c : Counted) :
    db'.count tid c = db.count tid c := by
  rw [← count_outline, ← count_outline db, h]

/-! ## 3. The steps -/

/-- The limits for one tournament. -/
def Fits (db : Database) (tid : TournamentId) : Prop :=
  ∀ c, db.count tid c ≤ regularSubscription.limit c

/-- One kind of records has room, the others do not become more. -/
theorem Fits.grow (h : Fits db tid) (c : Counted)
    (hc : db'.count tid c ≤ regularSubscription.limit c)
    (hrest : ∀ c', c' ≠ c → db'.count tid c' ≤ db.count tid c') : Fits db' tid := by
  intro c'
  by_cases e : c' = c
  · exact e ▸ hc
  · exact (hrest c' e).trans (h c')

theorem Fits.mono (h : Fits db tid) (hle : ∀ c, db'.count tid c ≤ db.count tid c) : Fits db' tid :=
  fun c => (hle c).trans (h c)

theorem Fits.of_outline (h : Fits db tid) (houtline : db'.outline = db.outline) : Fits db' tid :=
  h.mono fun c => (count_of_outline houtline tid c).le

/-- Where the rows that there were keep their tournaments, they are counted as before. -/
theorem count_stageItems_keeps (hdb : Isolated db) (hkeeps : Keeps db db')
    (hitems : db'.stageItems = db.stageItems) :
    db'.count tid .stageItems ≤ db.count tid .stageItems := by
  refine Table.length_owned_mono fun i hi hown => ?_
  rw [hitems] at hi
  obtain ⟨b, hb⟩ := hdb.stageItems i hi
  have hb' : some b = some tid := (hkeeps.stage _ _ hb.stage).symm.trans hown
  exact ⟨hi, hb.stage.trans hb'⟩

theorem count_rounds_keeps (hdb : Isolated db) (hkeeps : Keeps db db')
    (hrounds : db'.rounds = db.rounds) : db'.count tid .rounds ≤ db.count tid .rounds := by
  refine Table.length_owned_mono fun r hr hown => ?_
  rw [hrounds] at hr
  obtain ⟨b, hb⟩ := hdb.rounds r hr
  have hb' : some b = some tid := (hkeeps.stageItem _ _ hb).symm.trans hown
  exact ⟨hr, Eq.trans hb hb'⟩

theorem Fits.createStage (h : Fits db tid) (hdb : Isolated db) (hroom : Room db tid .stages 1) :
    Fits (sqlCreateStage db tid) tid := by
  have hgrows : Grows tid db (sqlCreateStage db tid) := .stages hdb (.insert ⟨rfl, trivial⟩)
  refine h.grow .stages (Table.length_owned_insert.trans hroom) fun c hc => ?_
  cases c with
  | stages => exact absurd rfl hc
  | stageItems => exact count_stageItems_keeps hdb hgrows.keeps rfl
  | rounds => exact count_rounds_keeps hdb hgrows.keeps rfl
  | teams => exact Nat.le_refl _
  | players => exact Nat.le_refl _
  | rankings => exact Nat.le_refl _

theorem Fits.deleteStage (h : Fits db tid) (p : StageRow → Bool) :
    Fits { db with stages := db.stages.delete p } tid := by
  have hstage : ∀ k, { db with stages := db.stages.delete p }.stageTournament k = some tid →
      db.stageTournament k = some tid := fun k hk => Table.ownerAt_of_delete hk
  refine h.mono fun c => ?_
  cases c with
  | stages => exact Table.length_owned_delete
  | stageItems => exact Table.length_owned_mono fun i hi hown => ⟨hi, hstage i.stageId hown⟩
  | rounds =>
    refine Table.length_owned_mono fun r hr hown => ⟨hr, ?_⟩
    rw [Database.stageItemTournament_eq] at hown ⊢
    obtain ⟨i, hi, hk, ht⟩ := Table.ownerAt_eq_some.mp hown
    exact Table.ownerAt_eq_some.mpr ⟨i, hi, hk, hstage i.stageId ht⟩
  | teams => exact Nat.le_refl _
  | players => exact Nat.le_refl _
  | rankings => exact Nat.le_refl _

theorem Fits.withoutStageItem (h : Fits db tid) (k : StageItemId) :
    Fits (withoutStageItem db k) tid := by
  refine h.mono fun c => ?_
  cases c with
  | stageItems => exact Table.length_owned_delete
  | rounds =>
    refine Table.length_owned_mono fun r hr hown => ⟨(db.rounds.mem_delete.mp hr).1, ?_⟩
    rw [Database.stageItemTournament_eq] at hown ⊢
    exact Table.ownerAt_of_delete hown
  | teams => exact Nat.le_refl _
  | players => exact Nat.le_refl _
  | stages => exact Nat.le_refl _
  | rankings => exact Nat.le_refl _

theorem count_createRounds (k : StageItemId) (n : Nat) (db : Database) :
    ((createNextRound tid k)^[n] db).count tid .rounds ≤ db.count tid .rounds + n := by
  induction n generalizing db with
  | zero => exact Nat.le_refl _
  | succ n ih =>
    have hnext : (createNextRound tid k db).count tid .rounds ≤ db.count tid .rounds + 1 :=
      Table.length_owned_insert
    refine (ih (createNextRound tid k db)).trans ?_
    omega

theorem count_createInputs (k : StageItemId) (l : List Nat) (c : Counted) (db : Database) :
    (l.foldl (fun d (i : Nat) => sqlCreateEmptyInput tid k d (i + 1)) db).count tid c =
      db.count tid c :=
  foldl_project (fun d : Database => d.count tid c)
    (fun d (i : Nat) => sqlCreateEmptyInput tid k d (i + 1)) (fun _ _ => by cases c <;> rfl) l db

/-- A new stage item with its inputs; its rounds are counted apart. -/
theorem count_newStageItem (hdb : Isolated db) {body : StageItemCreateBody}
    {new : StageItemRow × Database}
    (hnew : sqlCreateStageItemWithEmptyInputs db tid body = .ok new) :
    new.2.count tid .stageItems ≤ db.count tid .stageItems + 1 ∧
      ∀ c, c ≠ .stageItems → new.2.count tid c ≤ db.count tid c := by
  obtain ⟨rankingId, -, rfl⟩ := sqlCreateStageItem_ok hnew
  have hrow := body.key_row rankingId
  refine ⟨?_, fun c hc => ?_⟩
  · rw [count_createInputs]
    show ((db.stageItems.insert (body.row rankingId) hrow).owned _ tid).length ≤ _
    exact Table.length_owned_insert
  · rw [count_createInputs]
    cases c with
    | stageItems => exact absurd rfl hc
    | rounds =>
      refine Table.length_owned_mono fun r hr hown => ⟨hr, ?_⟩
      obtain ⟨b, hb⟩ := hdb.rounds r hr
      have hb : db.stageItemTournament r.stageItemId = some b := hb
      rw [Database.stageItemTournament_eq] at hown hb ⊢
      have hnew : (db.stageItems.insert (body.row rankingId) hrow).ownerAt _ r.stageItemId =
        some b := Table.ownerAt_insert hb
      exact hb.trans (hnew.symm.trans hown)
    | teams => exact Nat.le_refl _
    | players => exact Nat.le_refl _
    | stages => exact Nat.le_refl _
    | rankings => exact Nat.le_refl _

theorem Fits.createStageItem (h : Fits db tid) (hdb : Isolated db) {body : StageItemCreateBody}
    {new : StageItemRow × Database}
    (hnew : sqlCreateStageItemWithEmptyInputs db tid body = .ok new)
    (hroom : Room db tid .stageItems 1) {n : Nat} (hrounds : Room db tid .rounds n) :
    Fits ((createNextRound tid new.1.id)^[n] new.2) tid := by
  obtain ⟨hitems, hrest⟩ := count_newStageItem hdb hnew
  intro c
  by_cases hc : c = .rounds
  · subst hc
    have hadd : ((createNextRound tid new.1.id)^[n] new.2).count tid .rounds ≤
        new.2.count tid .rounds + n := count_createRounds _ _ _
    have hle := hrest .rounds nofun
    unfold Room at hrounds
    omega
  · rw [iterate_project (fun d : Database => d.count tid c) (createNextRound tid new.1.id) fun d => by
      cases c <;> first | exact absurd rfl hc | rfl]
    by_cases hi : c = .stageItems
    · exact hi ▸ hitems.trans hroom
    · exact (hrest c hi).trans (h c)

theorem Fits.createRound (h : Fits db tid) {name : String} {isDraft : Bool} {k : StageItemId}
    (hroom : Room db tid .rounds 1) : Fits (sqlCreateRound db name isDraft k).2 tid := by
  refine h.grow .rounds (Table.length_owned_insert.trans hroom) fun c hc => ?_
  cases c <;> first | exact absurd rfl hc | exact Nat.le_refl _

theorem Fits.createRanking (h : Fits db tid) {body : RankingCreateBody} {position : Int}
    (hroom : Room db tid .rankings 1) : Fits (sqlCreateRanking db tid body position) tid := by
  refine h.grow .rankings (Table.length_owned_insert.trans hroom) fun c hc => ?_
  cases c <;> first | exact absurd rfl hc | exact Nat.le_refl _

/-! Teams and players. -/

theorem Fits.createTeam (h : Fits db tid) {name : String} {active : Bool}
    (hroom : Room db tid .teams 1) : Fits (insertTeam db tid name active).2 tid := by
  refine h.grow .teams (Table.length_owned_insert.trans hroom) fun c hc => ?_
  cases c <;> first | exact absurd rfl hc | exact Nat.le_refl _

theorem Fits.createPlayer (h : Fits db tid) {now : DateTime} {body : PlayerBody}
    (hroom : Room db tid .players 1) : Fits (insertPlayer db now body tid).2 tid := by
  refine h.grow .players (Table.length_owned_insert.trans hroom) fun c hc => ?_
  cases c <;> first | exact absurd rfl hc | exact Nat.le_refl _

/-- A loop adds at most what its turns add. -/
theorem foldl_count_le {β : Type} {f : Database → β → Database} {c : Counted} {w : β → Nat}
    (h : ∀ d b, (f d b).count tid c ≤ d.count tid c + w b) (l : List β) (db : Database) :
    (l.foldl f db).count tid c ≤ db.count tid c + (l.map w).sum := by
  induction l generalizing db with
  | nil => exact Nat.le_refl _
  | cons b l ih =>
    have hb := h db b
    refine (ih (f db b)).trans ?_
    rw [List.map_cons, List.sum_cons]
    omega

theorem sum_map_one {β : Type} (l : List β) : (l.map fun _ => 1).sum = l.length := by
  simp

theorem Fits.createMultiplePlayers (h : Fits db tid) {now : DateTime} {playerNames : List String}
    {active : Bool} (hroom : Room db tid .players playerNames.length) :
    Fits (playerNames.foldl (fun d name => (insertPlayer d now ⟨name, active⟩ tid).2) db) tid := by
  have hadd : (playerNames.foldl (fun d name => (insertPlayer d now ⟨name, active⟩ tid).2)
      db).count tid .players ≤ db.count tid .players + (playerNames.map fun _ => 1).sum :=
    foldl_count_le (fun _ _ => Table.length_owned_insert) _ _
  rw [sum_map_one] at hadd
  refine h.grow .players (hadd.trans hroom) fun c hc => ?_
  rw [foldl_project (fun d : Database => d.count tid c)
    (fun d name => (insertPlayer d now ⟨name, active⟩ tid).2) fun _ _ => ?_]
  cases c <;> first | exact absurd rfl hc | rfl

theorem count_createTeamWithPlayers (now : DateTime) (active : Bool) (db : Database)
    (team : String × List String) :
    (createTeamWithPlayers now tid active db team).count tid .teams ≤ db.count tid .teams + 1 ∧
      (createTeamWithPlayers now tid active db team).count tid .players ≤
        db.count tid .players + team.2.length := by
  constructor
  · exact ((foldl_project (fun d : Database => d.count tid .teams) (fun d name =>
      insertMember (insertPlayer d now ⟨name, active⟩ tid).2 db.teams.next d.players.next)
      (fun _ _ => rfl) team.2 (insertTeam db tid team.1 active).2).le).trans
      Table.length_owned_insert
  · have hplayers : (team.2.foldl (fun d name =>
        insertMember (insertPlayer d now ⟨name, active⟩ tid).2 db.teams.next d.players.next)
        (insertTeam db tid team.1 active).2).count tid .players ≤
        db.count tid .players + (team.2.map fun _ => 1).sum :=
      foldl_count_le (fun _ _ => Table.length_owned_insert) _ _
    rwa [sum_map_one] at hplayers

theorem Fits.createMultipleTeams (h : Fits db tid) {now : DateTime}
    {teamsWithPlayers : List (String × List String)} {active : Bool}
    (hteams : Room db tid .teams teamsWithPlayers.length)
    (hplayers : Room db tid .players (teamsWithPlayers.flatMap (·.2)).length) :
    Fits (teamsWithPlayers.foldl (createTeamWithPlayers now tid active) db) tid := by
  have hother : ∀ c, c ≠ .teams → c ≠ .players →
      (teamsWithPlayers.foldl (createTeamWithPlayers now tid active) db).count tid c =
        db.count tid c := by
    intro c h1 h2
    refine foldl_project (fun d : Database => d.count tid c) _ (fun d team =>
      createTeamWithPlayers_project (fun d : Database => d.count tid c) (fun _ _ => ?_)
        (fun _ _ _ => ?_) d team) _ _
    · cases c <;> first | exact absurd rfl h1 | rfl
    · cases c <;> first | exact absurd rfl h2 | rfl
  have hadd1 := foldl_count_le (f := createTeamWithPlayers now tid active) (fun d team =>
    (count_createTeamWithPlayers now active d team).1) teamsWithPlayers db
  have hadd2 := foldl_count_le (f := createTeamWithPlayers now tid active) (fun d team =>
    (count_createTeamWithPlayers now active d team).2) teamsWithPlayers db
  rw [sum_map_one] at hadd1
  unfold Room at hteams hplayers
  rw [List.length_flatMap] at hplayers
  intro c
  by_cases h1 : c = .teams
  · exact h1 ▸ hadd1.trans hteams
  · by_cases h2 : c = .players
    · exact h2 ▸ hadd2.trans hplayers
    · exact (hother c h1 h2).le.trans (h c)

/-! ## 4. The runs -/

/-- **Every tournament is within the limits of the subscription.** -/
def WithinLimits (db : Database) : Prop := ∀ tid, Fits db tid

/-- The number of rounds that come with a new stage item. -/
def Call.newRounds : Call → Option Nat
  | .request _ (.createStageItem body) =>
    (roundsToCreate ⟨0, "", body.stageId, body.teamCount, 0, body.type⟩).toOption
  | _ => none

/-- There is room for the rounds that come with the call's stage item. -/
def Accommodates (db : Database) (call : Call) : Prop :=
  ∀ n ∈ call.newRounds, Room db (call.tournament db) .rounds n

instance (db : Database) (call : Call) : Decidable (Accommodates db call) :=
  inferInstanceAs (Decidable (∀ n ∈ call.newRounds, _ ≤ _))

theorem newRounds_eq {body : StageItemCreateBody} {new : StageItemRow × Database} {n : Nat}
    (hnew : sqlCreateStageItemWithEmptyInputs db tid body = .ok new)
    (hn : roundsToCreate new.1 = .ok n) :
    n ∈ (Call.request tid (.createStageItem body)).newRounds := by
  obtain ⟨rankingId, -, rfl⟩ := sqlCreateStageItem_ok hnew
  exact congrArg Except.toOption hn

/-- The tournament that the call is made for stays within the limits. -/
theorem Effect.fits {call : Call} (heffect : Effect db call db') (hdb : Isolated db)
    (hroot : Rooted db) (h : Fits db (call.tournament db)) (hroom : Accommodates db call) :
    Fits db' (call.tournament db) := by
  cases heffect with
  | kept houtline => exact h.of_outline houtline
  | createTournament houtline =>
    have hnone : db.count db.tournaments.next .rankings = 0 :=
      count_rankings_absent hroot db.tournaments.find?_next
    refine Fits.of_outline ?_ houtline
    refine h.grow .rankings (Table.length_owned_insert.trans ?_) fun c hc => ?_
    · show db.count db.tournaments.next .rankings + 1 ≤ 16
      omega
    · cases c <;> first | exact absurd rfl hc | exact Nat.le_refl _
  | deleteTournament _ hcleared => exact fun c => (count_cleared hcleared c).le.trans (Nat.zero_le _)
  | createStage hstages houtline => exact (h.createStage hdb hstages).of_outline houtline
  | deleteStage _ houtline => exact (h.deleteStage _).of_outline houtline
  | createStageItem hitems _ hnew hn houtline =>
    exact (h.createStageItem hdb hnew hitems (hroom _ (newRounds_eq hnew hn))).of_outline houtline
  | deleteStageItem _ houtline => exact (h.withoutStageItem _).of_outline houtline
  | updateStageItemInput _ houtline =>
    refine Fits.of_outline (h.mono fun c => ?_) houtline
    cases c <;> exact Nat.le_refl _
  | createRound hround houtline => exact (h.createRound hround).of_outline houtline
  | deleteRound houtline =>
    refine Fits.of_outline (h.mono fun c => ?_) houtline
    cases c <;> first | exact Table.length_owned_delete | exact Nat.le_refl _
  | createRanking hranking houtline => exact (h.createRanking hranking).of_outline houtline
  | deleteRanking houtline =>
    refine Fits.of_outline (h.mono fun c => ?_) houtline
    cases c <;> first | exact Table.length_owned_delete | exact Nat.le_refl _
  | createTeam hteam houtline => exact (h.createTeam hteam).of_outline houtline
  | createMultipleTeams hteams hplayers => exact h.createMultipleTeams hteams hplayers
  | deleteTeam houtline =>
    refine Fits.of_outline (h.mono fun c => ?_) houtline
    cases c <;> first | exact Table.length_owned_delete | exact Nat.le_refl _
  | createSinglePlayer hplayer => exact h.createPlayer hplayer
  | createMultiplePlayers hplayers => exact h.createMultiplePlayers hplayers
  | deletePlayer houtline =>
    refine Fits.of_outline (h.mono fun c => ?_) houtline
    cases c <;> first | exact Table.length_owned_delete | exact Nat.le_refl _

theorem WithinLimits.call (h : WithinLimits db) (hdb : Isolated db) (hroot : Rooted db)
    {env : Environment} {call : Call} (hroom : Accommodates db call)
    (hcall : call.handle env db = .ok db') : WithinLimits db' := by
  intro tid
  by_cases ht : tid = call.tournament db
  · exact ht ▸ (Call.effect hdb hcall).fits hdb hroot (h _) hroom
  · exact (h tid).mono fun c => (count_sameFor ((Confined.call hdb hcall).same tid ht) c).le

/-- **The limits hold** after every run whose new stage items find room for their rounds. -/
theorem withinLimits_of_room (h : Runs (fun _ db call => Accommodates db call) .empty db) :
    WithinLimits db := by
  have hboth : (Isolated db ∧ Rooted db) ∧ WithinLimits db := by
    refine h.invariant (P := fun d => (Isolated d ∧ Rooted d) ∧ WithinLimits d)
      (fun env d call d' hd hC hcall => ?_)
      ⟨⟨isolated_empty, rooted_empty⟩, fun tid c => by cases c <;> exact Nat.zero_le _⟩
    obtain ⟨⟨hdb, hroot⟩, hlimits⟩ := hd
    exact ⟨⟨(Confined.call hdb hcall).isolated, hroot.call hdb hcall⟩,
      hlimits.call hdb hroot hC hcall⟩
  exact hboth.2

/-! ### Rounds without a check -/

/-- A Swiss stage item for two teams. -/
def duelSetup : List Call :=
  [.createTournament ⟨⟨0, true, none, 15, 6, by decide, by decide⟩, 1⟩, .request 1 .createStage,
    .request 1 (.createTeam ⟨"Red", true, []⟩), .request 1 (.createTeam ⟨"Blue", true, []⟩),
    .request 1 (.createStageItem { stageId := 1, type := .swiss, teamCount := 8 }),
    .request 1 (.updateStageItemInput 1 1 (.final 1)),
    .request 1 (.updateStageItemInput 1 2 (.final 2))]

theorem duelSetup_within : ∃ db,
    runAllowed quietEnvironment (fun db call => decide (Accommodates db call)) duelSetup = .ok db ∧
      WithinLimits db := by
  obtain ⟨db, hdb⟩ := exists_ok (x := runAllowed quietEnvironment
    (fun db call => decide (Accommodates db call)) duelSetup) (by decide +kernel)
  exact ⟨db, hdb, withinLimits_of_room (runs_of_allowed (fun _ _ h => of_decide_eq_true h) hdb)⟩

/-- A draft whose match is deleted before it is published. -/
def emptiedRound (n : Nat) : List Call :=
  [.request 1 (.createRound ⟨some "Empty", 1⟩), .request 1 (.deleteMatch (n + 1)),
    .request 1 (.updateRoundById (n + 1) ⟨"Empty", false⟩)]

/-- 58 rounds, and then a group of seven with seven more. -/
def emptiedRounds : List Call :=
  duelSetup ++ (List.range 58).flatMap emptiedRound ++
    [.request 1 (.createStageItem { stageId := 1, type := .roundRobin, teamCount := 7 })]

/-- **More rounds than the subscription allows**: nobody counts those of the group. -/
theorem emptiedRounds_exceed : ∃ db, Runs (fun _ _ _ => True) .empty db ∧ ¬ WithinLimits db := by
  obtain ⟨db, hdb, hmore⟩ := exists_ok_of_any (x := runCalls quietEnvironment emptiedRounds)
    (P := fun db => regularSubscription.maxRounds < db.count 1 .rounds) (by decide +kernel)
  exact ⟨db, runs_of_calls (fun _ _ => trivial) hdb, fun h => absurd (h 1 .rounds) (by
    exact Nat.not_le.mpr hmore)⟩

end Brackets
