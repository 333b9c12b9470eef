/-
  File:      Brackets/Progress/Isolation.lean
  Subject:   Tournaments as tenants of one database.

  A row belongs to a tournament through its `tournament_id`, or through the rows above it: a round
  through its stage item and stage, a match through its round, a membership through its team.

  * `Isolated`: every reference of a row leads to a row of the same tournament;
  * `SameFor`: a tournament has the same rows in two databases;
  * `Confined`: a change by a tournament that leaves the database isolated and the rows of the
    others as they were; `Grows`, one that deletes nothing.

  `Grows.of_tables` says it table by table; the sections after it are the deletions.
-/
import Brackets.Entities
import Brackets.FullLoad
import Brackets.Library.Tenants

namespace Brackets

open Library

/-! ## 1. The tournament of a row -/

namespace Database

variable (db : Database)

def stageTournament (k : StageId) : Option TournamentId :=
  db.stages.ownerAt (fun s => some s.tournamentId) k

def inputTournament (k : StageItemInputId) : Option TournamentId :=
  db.stageItemInputs.ownerAt (fun i => some i.tournamentId) k

def matchTournament (k : MatchId) : Option TournamentId :=
  db.matches_.ownerAt (fun m => db.roundTournament m.roundId) k

def teamTournament (k : TeamId) : Option TournamentId :=
  db.teams.ownerAt (fun t => some t.tournamentId) k

def playerTournament (k : PlayerId) : Option TournamentId :=
  db.players.ownerAt (fun p => some p.tournamentId) k

def rankingTournament (k : RankingId) : Option TournamentId :=
  db.rankings.ownerAt (fun r => some r.tournamentId) k

theorem stageItemTournament_eq (k : StageItemId) : db.stageItemTournament k =
    db.stageItems.ownerAt (fun i => db.stageTournament i.stageId) k := by
  unfold stageItemTournament Table.ownerAt stageTournament Table.ownerAt
  congr 1
  funext i
  cases db.stages.find? i.stageId <;> rfl

/-! The rows themselves. -/

variable {db}

theorem stageTournament_row {s : StageRow} (h : s ∈ db.stages.rows) :
    db.stageTournament s.id = some s.tournamentId := Table.ownerAt_key h

theorem stageItemTournament_row {i : StageItemRow} (h : i ∈ db.stageItems.rows) :
    db.stageItemTournament i.id = db.stageTournament i.stageId := by
  rw [db.stageItemTournament_eq]
  exact Table.ownerAt_key h

theorem inputTournament_row {i : StageItemInputRow} (h : i ∈ db.stageItemInputs.rows) :
    db.inputTournament i.id = some i.tournamentId := Table.ownerAt_key h

theorem roundTournament_row {r : RoundRow} (h : r ∈ db.rounds.rows) :
    db.roundTournament r.id = db.stageItemTournament r.stageItemId := Table.ownerAt_key h

theorem matchTournament_row {m : MatchRow} (h : m ∈ db.matches_.rows) :
    db.matchTournament m.id = db.roundTournament m.roundId := Table.ownerAt_key h

theorem teamTournament_row {t : TeamRow} (h : t ∈ db.teams.rows) :
    db.teamTournament t.id = some t.tournamentId := Table.ownerAt_key h

theorem playerTournament_row {p : PlayerRow} (h : p ∈ db.players.rows) :
    db.playerTournament p.id = some p.tournamentId := Table.ownerAt_key h

theorem rankingTournament_row {r : RankingRow} (h : r ∈ db.rankings.rows) :
    db.rankingTournament r.id = some r.tournamentId := Table.ownerAt_key h

end Database

/-! ## 2. References within a tournament -/

structure StageItemRow.Within (db : Database) (tid : TournamentId) (i : StageItemRow) : Prop where
  stage : db.stageTournament i.stageId = some tid
  ranking : db.rankingTournament i.rankingId = some tid

structure StageItemInputRow.Within (db : Database) (tid : TournamentId) (i : StageItemInputRow) :
    Prop where
  own : i.tournamentId = tid
  stageItem : db.stageItemTournament i.stageItemId = some tid
  source : ∀ k, i.winnerFromStageItemId = some k → db.stageItemTournament k = some tid
  team : ∀ t, i.teamId = some t → db.teamTournament t = some tid

def RoundRow.Within (db : Database) (tid : TournamentId) (r : RoundRow) : Prop :=
  db.stageItemTournament r.stageItemId = some tid

structure MatchRow.Within (db : Database) (tid : TournamentId) (m : MatchRow) : Prop where
  round : db.roundTournament m.roundId = some tid
  input : ∀ side i, m.inputId side = some i → db.inputTournament i = some tid
  source : ∀ side j, m.winnerFrom side = some j → db.matchTournament j = some tid

structure MemberRow.Within (db : Database) (tid : TournamentId) (x : MemberRow) : Prop where
  team : db.teamTournament x.teamId = some tid
  player : db.playerTournament x.playerId = some tid

/-- **No row refers to a row of another tournament.** -/
structure Isolated (db : Database) : Prop where
  stageItems : ∀ i ∈ db.stageItems.rows, ∃ tid, i.Within db tid
  inputs : ∀ i ∈ db.stageItemInputs.rows, ∃ tid, i.Within db tid
  rounds : ∀ r ∈ db.rounds.rows, ∃ tid, r.Within db tid
  matches_ : ∀ m ∈ db.matches_.rows, ∃ tid, m.Within db tid
  members : ∀ x ∈ db.playersXTeams.rows, ∃ tid, x.Within db tid

/-- The tournament has the same rows in both databases. -/
structure SameFor (tid : TournamentId) (db db' : Database) : Prop where
  tournament : db'.tournaments.find? tid = db.tournaments.find? tid
  stages : db'.stages.owned (fun s => some s.tournamentId) tid =
    db.stages.owned (fun s => some s.tournamentId) tid
  stageItems : db'.stageItems.owned (fun i => db'.stageTournament i.stageId) tid =
    db.stageItems.owned (fun i => db.stageTournament i.stageId) tid
  inputs : db'.stageItemInputs.owned (fun i => some i.tournamentId) tid =
    db.stageItemInputs.owned (fun i => some i.tournamentId) tid
  rounds : db'.rounds.owned (fun r => db'.stageItemTournament r.stageItemId) tid =
    db.rounds.owned (fun r => db.stageItemTournament r.stageItemId) tid
  matches_ : db'.matches_.owned (fun m => db'.roundTournament m.roundId) tid =
    db.matches_.owned (fun m => db.roundTournament m.roundId) tid
  teams : db'.teams.owned (fun t => some t.tournamentId) tid =
    db.teams.owned (fun t => some t.tournamentId) tid
  players : db'.players.owned (fun p => some p.tournamentId) tid =
    db.players.owned (fun p => some p.tournamentId) tid
  members : db'.playersXTeams.owned (fun x => db'.teamTournament x.teamId) tid =
    db.playersXTeams.owned (fun x => db.teamTournament x.teamId) tid
  rankings : db'.rankings.owned (fun r => some r.tournamentId) tid =
    db.rankings.owned (fun r => some r.tournamentId) tid

theorem SameFor.refl (tid : TournamentId) (db : Database) : SameFor tid db db :=
  ⟨rfl, rfl, rfl, rfl, rfl, rfl, rfl, rfl, rfl, rfl⟩

theorem SameFor.trans {tid : TournamentId} {db db' db'' : Database} (h : SameFor tid db db')
    (h' : SameFor tid db' db'') : SameFor tid db db'' where
  tournament := h'.tournament.trans h.tournament
  stages := h'.stages.trans h.stages
  stageItems := h'.stageItems.trans h.stageItems
  inputs := h'.inputs.trans h.inputs
  rounds := h'.rounds.trans h.rounds
  matches_ := h'.matches_.trans h.matches_
  teams := h'.teams.trans h.teams
  players := h'.players.trans h.players
  members := h'.members.trans h.members
  rankings := h'.rankings.trans h.rankings

/-- The rows of every table, by their owners before the change. -/
theorem SameFor.of_parts {tid : TournamentId} {db db' : Database}
    (tournament : db'.tournaments.find? tid = db.tournaments.find? tid)
    (stages : db'.stages.owned (fun s => some s.tournamentId) tid =
      db.stages.owned (fun s => some s.tournamentId) tid)
    (stageItems : db'.stageItems.owned (fun i => db.stageTournament i.stageId) tid =
      db.stageItems.owned (fun i => db.stageTournament i.stageId) tid)
    (inputs : db'.stageItemInputs.owned (fun i => some i.tournamentId) tid =
      db.stageItemInputs.owned (fun i => some i.tournamentId) tid)
    (rounds : db'.rounds.owned (fun r => db.stageItemTournament r.stageItemId) tid =
      db.rounds.owned (fun r => db.stageItemTournament r.stageItemId) tid)
    (matches_ : db'.matches_.owned (fun m => db.roundTournament m.roundId) tid =
      db.matches_.owned (fun m => db.roundTournament m.roundId) tid)
    (teams : db'.teams.owned (fun t => some t.tournamentId) tid =
      db.teams.owned (fun t => some t.tournamentId) tid)
    (players : db'.players.owned (fun p => some p.tournamentId) tid =
      db.players.owned (fun p => some p.tournamentId) tid)
    (members : db'.playersXTeams.owned (fun x => db.teamTournament x.teamId) tid =
      db.playersXTeams.owned (fun x => db.teamTournament x.teamId) tid)
    (rankings : db'.rankings.owned (fun r => some r.tournamentId) tid =
      db.rankings.owned (fun r => some r.tournamentId) tid) : SameFor tid db db' := by
  have hstage : ∀ k, db'.stageTournament k = some tid ↔ db.stageTournament k = some tid :=
    Table.ownerAt_iff stages
  have hitems := (Table.owned_congr (t := db'.stageItems) fun i => hstage i.stageId).trans stageItems
  have hitem : ∀ k, db'.stageItemTournament k = some tid ↔ db.stageItemTournament k = some tid := by
    intro k
    rw [db'.stageItemTournament_eq, db.stageItemTournament_eq]
    exact Table.ownerAt_iff hitems k
  have hrounds := (Table.owned_congr (t := db'.rounds) fun r => hitem r.stageItemId).trans rounds
  have hround : ∀ k, db'.roundTournament k = some tid ↔ db.roundTournament k = some tid :=
    Table.ownerAt_iff hrounds
  have hteam : ∀ k, db'.teamTournament k = some tid ↔ db.teamTournament k = some tid :=
    Table.ownerAt_iff teams
  exact ⟨tournament, stages, hitems, inputs, hrounds,
    (Table.owned_congr (t := db'.matches_) fun m => hround m.roundId).trans matches_, teams, players,
    (Table.owned_congr (t := db'.playersXTeams) fun x => hteam x.teamId).trans members, rankings⟩

namespace SameFor

variable {tid : TournamentId} {db db' : Database} (h : SameFor tid db db')

include h

theorem stage_iff (k : StageId) :
    db'.stageTournament k = some tid ↔ db.stageTournament k = some tid :=
  Table.ownerAt_iff h.stages k

theorem stageItem_iff (k : StageItemId) :
    db'.stageItemTournament k = some tid ↔ db.stageItemTournament k = some tid := by
  rw [db'.stageItemTournament_eq, db.stageItemTournament_eq]
  exact Table.ownerAt_iff h.stageItems k

theorem round_iff (k : RoundId) :
    db'.roundTournament k = some tid ↔ db.roundTournament k = some tid :=
  Table.ownerAt_iff h.rounds k

theorem match_iff (k : MatchId) :
    db'.matchTournament k = some tid ↔ db.matchTournament k = some tid :=
  Table.ownerAt_iff h.matches_ k

end SameFor

/-! ## 3. Changes -/

/-- Every row that there was keeps its tournament. -/
structure Keeps (db db' : Database) : Prop where
  stage : ∀ k tid, db.stageTournament k = some tid → db'.stageTournament k = some tid
  stageItem : ∀ k tid, db.stageItemTournament k = some tid → db'.stageItemTournament k = some tid
  input : ∀ k tid, db.inputTournament k = some tid → db'.inputTournament k = some tid
  round : ∀ k tid, db.roundTournament k = some tid → db'.roundTournament k = some tid
  match_ : ∀ k tid, db.matchTournament k = some tid → db'.matchTournament k = some tid
  team : ∀ k tid, db.teamTournament k = some tid → db'.teamTournament k = some tid
  player : ∀ k tid, db.playerTournament k = some tid → db'.playerTournament k = some tid
  ranking : ∀ k tid, db.rankingTournament k = some tid → db'.rankingTournament k = some tid

namespace Keeps

variable {db db' db'' : Database} {tid : TournamentId} (h : Keeps db db')

theorem refl (db : Database) : Keeps db db :=
  ⟨fun _ _ h => h, fun _ _ h => h, fun _ _ h => h, fun _ _ h => h, fun _ _ h => h, fun _ _ h => h,
    fun _ _ h => h, fun _ _ h => h⟩

include h

theorem trans (h' : Keeps db' db'') : Keeps db db'' where
  stage k tid hk := h'.stage k tid (h.stage k tid hk)
  stageItem k tid hk := h'.stageItem k tid (h.stageItem k tid hk)
  input k tid hk := h'.input k tid (h.input k tid hk)
  round k tid hk := h'.round k tid (h.round k tid hk)
  match_ k tid hk := h'.match_ k tid (h.match_ k tid hk)
  team k tid hk := h'.team k tid (h.team k tid hk)
  player k tid hk := h'.player k tid (h.player k tid hk)
  ranking k tid hk := h'.ranking k tid (h.ranking k tid hk)

theorem withinStageItem {i : StageItemRow} (hi : i.Within db tid) : i.Within db' tid :=
  ⟨h.stage _ _ hi.stage, h.ranking _ _ hi.ranking⟩

theorem withinInput {i : StageItemInputRow} (hi : i.Within db tid) : i.Within db' tid :=
  ⟨hi.own, h.stageItem _ _ hi.stageItem, fun k hk => h.stageItem _ _ (hi.source k hk),
    fun t ht => h.team _ _ (hi.team t ht)⟩

theorem withinMatch {m : MatchRow} (hm : m.Within db tid) : m.Within db' tid :=
  ⟨h.round _ _ hm.round, fun side i hi => h.input _ _ (hm.input side i hi),
    fun side j hj => h.match_ _ _ (hm.source side j hj)⟩

theorem withinMember {x : MemberRow} (hx : x.Within db tid) : x.Within db' tid :=
  ⟨h.team _ _ hx.team, h.player _ _ hx.player⟩

end Keeps

/-- A change by a tournament that keeps to its own rows, in an isolated database. -/
structure Confined (tid : TournamentId) (db db' : Database) : Prop where
  isolated : Isolated db'
  same : ∀ tid', tid' ≠ tid → SameFor tid' db db'

/-- A change by a tournament that keeps to its own rows and deletes nothing. -/
structure Grows (tid : TournamentId) (db db' : Database) : Prop extends Confined tid db db' where
  keeps : Keeps db db'

section Change

variable {tid : TournamentId} {db db' db'' : Database}

theorem Confined.refl (tid : TournamentId) (hdb : Isolated db) : Confined tid db db :=
  ⟨hdb, fun _ _ => SameFor.refl _ _⟩

theorem Confined.trans (h : Confined tid db db') (h' : Confined tid db' db'') :
    Confined tid db db'' :=
  ⟨h'.isolated, fun tid' hne => (h.same tid' hne).trans (h'.same tid' hne)⟩

/-- What each turn of a loop keeps to, the loop keeps to. -/
theorem Confined.foldlM {β : Type} {f : Database → β → Outcome Database} {P : Database → β → Prop}
    (hmono : ∀ db db' b, Confined tid db db' → P db b → P db' b)
    (hstep : ∀ db db' b, Isolated db → P db b → f db b = .ok db' → Confined tid db db') {l : List β}
    {db db' : Database} (hdb : Isolated db) (hl : ∀ b ∈ l, P db b) (h : l.foldlM f db = .ok db') :
    Confined tid db db' := by
  induction l generalizing db with
  | nil =>
    cases h
    exact Confined.refl tid hdb
  | cons b l ih =>
    rw [List.foldlM_cons] at h
    obtain ⟨db1, h1, h⟩ := bind_eq_ok.mp h
    have hb := hstep db db1 b hdb (hl b List.mem_cons_self) h1
    exact hb.trans (ih hb.isolated
      (fun c hc => hmono db db1 c hb (hl c (List.mem_cons_of_mem _ hc))) h)

theorem Confined.foldl {β : Type} {f : Database → β → Database} {P : Database → β → Prop}
    (hmono : ∀ db db' b, Confined tid db db' → P db b → P db' b)
    (hstep : ∀ db b, Isolated db → P db b → Confined tid db (f db b)) {l : List β} {db : Database}
    (hdb : Isolated db) (hl : ∀ b ∈ l, P db b) : Confined tid db (l.foldl f db) := by
  induction l generalizing db with
  | nil => exact Confined.refl tid hdb
  | cons b l ih =>
    have h := hstep db b hdb (hl b List.mem_cons_self)
    exact h.trans (ih h.isolated fun c hc => hmono db _ c h (hl c (List.mem_cons_of_mem _ hc)))

theorem Grows.refl (tid : TournamentId) (hdb : Isolated db) : Grows tid db db :=
  ⟨Confined.refl tid hdb, Keeps.refl db⟩

theorem Grows.trans (h : Grows tid db db') (h' : Grows tid db' db'') : Grows tid db db'' :=
  ⟨h.toConfined.trans h'.toConfined, h.keeps.trans h'.keeps⟩

/-- What each turn of a loop keeps to, the loop keeps to. -/
theorem Grows.foldl {β : Type} {f : Database → β → Database} {P : Database → β → Prop}
    (hmono : ∀ db db' b, Keeps db db' → P db b → P db' b)
    (hstep : ∀ db b, Isolated db → P db b → Grows tid db (f db b)) {l : List β} {db : Database}
    (hdb : Isolated db) (hl : ∀ b ∈ l, P db b) : Grows tid db (l.foldl f db) := by
  induction l generalizing db with
  | nil => exact Grows.refl tid hdb
  | cons b l ih =>
    have h := hstep db b hdb (hl b List.mem_cons_self)
    exact h.trans (ih h.isolated fun c hc => hmono db _ c h.keeps (hl c (List.mem_cons_of_mem _ hc)))

theorem Grows.foldlM {β : Type} {f : Database → β → Outcome Database} {P : Database → β → Prop}
    (hmono : ∀ db db' b, Keeps db db' → P db b → P db' b)
    (hstep : ∀ db db' b, Isolated db → P db b → f db b = .ok db' → Grows tid db db') {l : List β}
    {db db' : Database} (hdb : Isolated db) (hl : ∀ b ∈ l, P db b) (h : l.foldlM f db = .ok db') :
    Grows tid db db' := by
  induction l generalizing db with
  | nil =>
    cases h
    exact Grows.refl tid hdb
  | cons b l ih =>
    rw [List.foldlM_cons] at h
    obtain ⟨db1, h1, h⟩ := bind_eq_ok.mp h
    have hb := hstep db db1 b hdb (hl b List.mem_cons_self) h1
    exact hb.trans (ih hb.isolated
      (fun c hc => hmono db db1 c hb.keeps (hl c (List.mem_cons_of_mem _ hc))) h)

/-- **A change table by table**: the tournament rewrites and adds rows of its own whose references
    stay within it. -/
theorem Grows.of_tables (hdb : Isolated db)
    (tournaments : ∀ tid', tid' ≠ tid → db'.tournaments.find? tid' = db.tournaments.find? tid')
    (stages : db.stages.ChangedBy (fun s => some s.tournamentId) tid (fun _ => True) db'.stages)
    (stageItems : db.stageItems.ChangedBy (fun i => db.stageTournament i.stageId) tid
      (·.Within db tid) db'.stageItems)
    (inputs : db.stageItemInputs.ChangedBy (fun i => some i.tournamentId) tid (·.Within db tid)
      db'.stageItemInputs)
    (rounds : db.rounds.ChangedBy (fun r => db.stageItemTournament r.stageItemId) tid
      (fun _ => True) db'.rounds)
    (matches_ : db.matches_.ChangedBy (fun m => db.roundTournament m.roundId) tid (·.Within db tid)
      db'.matches_)
    (teams : db.teams.ChangedBy (fun t => some t.tournamentId) tid (fun _ => True) db'.teams)
    (players : db.players.ChangedBy (fun p => some p.tournamentId) tid (fun _ => True) db'.players)
    (members : db.playersXTeams.ChangedBy (fun x => db.teamTournament x.teamId) tid
      (·.Within db tid) db'.playersXTeams)
    (rankings : db.rankings.ChangedBy (fun r => some r.tournamentId) tid (fun _ => True)
      db'.rankings) : Grows tid db db' := by
  have hstage : ∀ k a, db.stageTournament k = some a → db'.stageTournament k = some a :=
    fun _ _ hk => stages.ownerAt (fun _ h => h) hk
  have hitem : ∀ k a, db.stageItemTournament k = some a → db'.stageItemTournament k = some a := by
    intro k a hk
    rw [db.stageItemTournament_eq] at hk
    rw [db'.stageItemTournament_eq]
    exact stageItems.ownerAt (fun i => hstage i.stageId a) hk
  have hround : ∀ k a, db.roundTournament k = some a → db'.roundTournament k = some a :=
    fun k a hk => rounds.ownerAt (fun r => hitem r.stageItemId a) hk
  have hkeeps : Keeps db db' :=
    { stage := hstage
      stageItem := hitem
      input := fun _ _ hk => inputs.ownerAt (fun _ h => h) hk
      round := hround
      match_ := fun k a hk => matches_.ownerAt (fun m => hround m.roundId a) hk
      team := fun _ _ hk => teams.ownerAt (fun _ h => h) hk
      player := fun _ _ hk => players.ownerAt (fun _ h => h) hk
      ranking := fun _ _ hk => rankings.ownerAt (fun _ h => h) hk }
  refine ⟨⟨⟨fun i hi => ?_, fun i hi => ?_, fun r hr => ?_, fun m hm => ?_, fun x hx => ?_⟩,
    fun tid' hne => ?_⟩, hkeeps⟩
  · rcases stageItems.rows i hi with hi | ⟨-, hi⟩
    · obtain ⟨a, ha⟩ := hdb.stageItems i hi
      exact ⟨a, hkeeps.withinStageItem ha⟩
    · exact ⟨tid, hkeeps.withinStageItem hi⟩
  · rcases inputs.rows i hi with hi | ⟨-, hi⟩
    · obtain ⟨a, ha⟩ := hdb.inputs i hi
      exact ⟨a, hkeeps.withinInput ha⟩
    · exact ⟨tid, hkeeps.withinInput hi⟩
  · rcases rounds.rows r hr with hr | ⟨hr, -⟩
    · obtain ⟨a, ha⟩ := hdb.rounds r hr
      exact ⟨a, hkeeps.stageItem _ _ ha⟩
    · exact ⟨tid, hkeeps.stageItem _ _ hr⟩
  · rcases matches_.rows m hm with hm | ⟨-, hm⟩
    · obtain ⟨a, ha⟩ := hdb.matches_ m hm
      exact ⟨a, hkeeps.withinMatch ha⟩
    · exact ⟨tid, hkeeps.withinMatch hm⟩
  · rcases members.rows x hx with hx | ⟨-, hx⟩
    · obtain ⟨a, ha⟩ := hdb.members x hx
      exact ⟨a, hkeeps.withinMember ha⟩
    · exact ⟨tid, hkeeps.withinMember hx⟩
  · exact SameFor.of_parts (tournaments tid' hne) (stages.others tid' hne)
      (stageItems.others tid' hne) (inputs.others tid' hne) (rounds.others tid' hne)
      (matches_.others tid' hne) (teams.others tid' hne) (players.others tid' hne)
      (members.others tid' hne) (rankings.others tid' hne)

/-! One table at a time. -/

theorem Grows.tournaments (hdb : Isolated db) {t : Table TournamentRow}
    (h : ∀ tid', tid' ≠ tid → t.find? tid' = db.tournaments.find? tid') :
    Grows tid db { db with tournaments := t } :=
  .of_tables hdb h .refl .refl .refl .refl .refl .refl .refl .refl .refl

theorem Grows.stages (hdb : Isolated db) {t : Table StageRow}
    (h : db.stages.ChangedBy (fun s => some s.tournamentId) tid (fun _ => True) t) :
    Grows tid db { db with stages := t } :=
  .of_tables hdb (fun _ _ => rfl) h .refl .refl .refl .refl .refl .refl .refl .refl

theorem Grows.stageItems (hdb : Isolated db) {t : Table StageItemRow}
    (h : db.stageItems.ChangedBy (fun i => db.stageTournament i.stageId) tid (·.Within db tid) t) :
    Grows tid db { db with stageItems := t } :=
  .of_tables hdb (fun _ _ => rfl) .refl h .refl .refl .refl .refl .refl .refl .refl

theorem Grows.inputs (hdb : Isolated db) {t : Table StageItemInputRow}
    (h : db.stageItemInputs.ChangedBy (fun i => some i.tournamentId) tid (·.Within db tid) t) :
    Grows tid db { db with stageItemInputs := t } :=
  .of_tables hdb (fun _ _ => rfl) .refl .refl h .refl .refl .refl .refl .refl .refl

theorem Grows.rounds (hdb : Isolated db) {t : Table RoundRow}
    (h : db.rounds.ChangedBy (fun r => db.stageItemTournament r.stageItemId) tid (fun _ => True) t) :
    Grows tid db { db with rounds := t } :=
  .of_tables hdb (fun _ _ => rfl) .refl .refl .refl h .refl .refl .refl .refl .refl

theorem Grows.matches_ (hdb : Isolated db) {t : Table MatchRow}
    (h : db.matches_.ChangedBy (fun m => db.roundTournament m.roundId) tid (·.Within db tid) t) :
    Grows tid db { db with matches_ := t } :=
  .of_tables hdb (fun _ _ => rfl) .refl .refl .refl .refl h .refl .refl .refl .refl

theorem Grows.teams (hdb : Isolated db) {t : Table TeamRow}
    (h : db.teams.ChangedBy (fun r => some r.tournamentId) tid (fun _ => True) t) :
    Grows tid db { db with teams := t } :=
  .of_tables hdb (fun _ _ => rfl) .refl .refl .refl .refl .refl h .refl .refl .refl

theorem Grows.players (hdb : Isolated db) {t : Table PlayerRow}
    (h : db.players.ChangedBy (fun r => some r.tournamentId) tid (fun _ => True) t) :
    Grows tid db { db with players := t } :=
  .of_tables hdb (fun _ _ => rfl) .refl .refl .refl .refl .refl .refl h .refl .refl

theorem Grows.members (hdb : Isolated db) {t : Table MemberRow}
    (h : db.playersXTeams.ChangedBy (fun x => db.teamTournament x.teamId) tid (·.Within db tid) t) :
    Grows tid db { db with playersXTeams := t } :=
  .of_tables hdb (fun _ _ => rfl) .refl .refl .refl .refl .refl .refl .refl h .refl

theorem Grows.rankings (hdb : Isolated db) {t : Table RankingRow}
    (h : db.rankings.ChangedBy (fun r => some r.tournamentId) tid (fun _ => True) t) :
    Grows tid db { db with rankings := t } :=
  .of_tables hdb (fun _ _ => rfl) .refl .refl .refl .refl .refl .refl .refl .refl h

end Change

/-! ## 4. Rows of a tournament in an isolated database -/

section Rows

variable {db : Database} {tid : TournamentId} (hdb : Isolated db)

include hdb

theorem Isolated.stageItem_within {i : StageItemRow} (hi : i ∈ db.stageItems.rows)
    (ht : db.stageTournament i.stageId = some tid) : i.Within db tid := by
  obtain ⟨a, ha⟩ := hdb.stageItems i hi
  obtain rfl : a = tid := Option.some.inj (ha.stage.symm.trans ht)
  exact ha

theorem Isolated.input_within {i : StageItemInputRow} (hi : i ∈ db.stageItemInputs.rows)
    (ht : i.tournamentId = tid) : i.Within db tid := by
  obtain ⟨a, ha⟩ := hdb.inputs i hi
  obtain rfl : a = tid := ha.own.symm.trans ht
  exact ha

theorem Isolated.match_within {m : MatchRow} (hm : m ∈ db.matches_.rows)
    (ht : db.roundTournament m.roundId = some tid) : m.Within db tid := by
  obtain ⟨a, ha⟩ := hdb.matches_ m hm
  obtain rfl : a = tid := Option.some.inj (ha.round.symm.trans ht)
  exact ha

/-- The inputs of a stage item of the tournament are stored under the tournament. -/
theorem Isolated.input_own {i : StageItemInputRow} (hi : i ∈ db.stageItemInputs.rows)
    (ht : db.stageItemTournament i.stageItemId = some tid) : i.tournamentId = tid := by
  obtain ⟨a, ha⟩ := hdb.inputs i hi
  obtain rfl : a = tid := Option.some.inj (ha.stageItem.symm.trans ht)
  exact ha.own

theorem Isolated.inputTournament {i : StageItemInputRow} (hi : i ∈ db.stageItemInputs.rows)
    (ht : db.stageItemTournament i.stageItemId = some tid) :
    db.inputTournament i.id = some tid :=
  Table.ownerAt_eq_some.mpr ⟨i, hi, rfl, congrArg some (hdb.input_own hi ht)⟩

end Rows

end Brackets
