/-
  File:      Brackets/Planning/Agenda.lean
  Subject:   The plan in terms of rows, and which columns it depends on.

  The timing of a match is read off the rows of its tournament (`Database.timing`), and a
  tournament is on schedule exactly if every match row follows it: `planned_iff`.

  `Database.agenda` keeps the columns that the plan reads together with the stored times. What
  leaves the agenda as it was leaves a tournament on schedule: `Planned.of_agenda`. The plan
  itself does not read the stored times: `timing_untimed`.
-/
import Brackets.Planning.Clashes

namespace Brackets

open Library

/-! ## 1. The plan by rows -/

namespace Database

variable (db : Database) (tournament : TournamentRow)

/-- What a round takes. -/
def roundSpan (duration : Int) (k : RoundId) : Int :=
  timedelta (longest ((db.matches_.rows.filter (·.roundId == k)).map fun m =>
    m.customDurationMinutes.getD duration + m.customMarginMinutes.getD tournament.marginMinutes))

def itemSpan (duration : Int) (k : StageItemId) : Int :=
  ((db.rounds.rows.filter (·.stageItemId == k)).map
    fun r => db.roundSpan tournament duration r.id).sum

def stageSpan (s : StageRow) : Int :=
  longest ((db.stageItems.rows.filter (·.stageId == s.id)).map fun i =>
    db.itemSpan tournament (s.customDurationMinutes.getD tournament.durationMinutes) i.id)

/-- What the earlier stages of the tournament take. -/
def stageOffset (tid : TournamentId) (k : StageId) : Int :=
  lengthBefore (·.id) (db.stageSpan tournament) (db.stages.rows.filter (·.tournamentId == tid)) k

/-- What the earlier rounds of the stage item take. -/
def roundOffset (duration : Int) (i : StageItemId) (k : RoundId) : Int :=
  lengthBefore (·.id) (fun r => db.roundSpan tournament duration r.id)
    (db.rounds.rows.filter (·.stageItemId == i)) k

/-- The timing of a match row at its place. -/
def timing (s : StageRow) (i : StageItemRow) (r : RoundRow) (m : MatchRow) : MatchTiming where
  matchId := m.id
  startTime := tournament.startTime + db.stageOffset tournament s.tournamentId s.id +
    db.roundOffset tournament (s.customDurationMinutes.getD tournament.durationMinutes) i.id r.id
  durationMinutes :=
    m.customDurationMinutes.getD (s.customDurationMinutes.getD tournament.durationMinutes)
  marginMinutes := m.customMarginMinutes.getD tournament.marginMinutes

end Database

section Load

variable {db : Database} {tid : TournamentId} {f : DetailsFilter} (tournament : TournamentRow)

theorem roundLength_eq (duration : Int) (inputs : List StageItemInput) (r : RoundRow) :
    roundLength tournament duration (roundWithMatches db inputs r) =
      db.roundSpan tournament duration r.id := by
  unfold roundLength roundWithMatches Database.roundSpan
  rw [List.map_map]
  rfl

theorem full_rounds (i : StageItemRow) : (stageItemWithRounds db tid {} i).rounds =
    (db.rounds.rows.filter (·.stageItemId == i.id)).map
      (roundWithMatches db (inputsWithTeams db tid {})) := by
  have hround : ∀ r : RoundRow, DetailsFilter.round {} r = true := fun _ => rfl
  simp only [stageItemWithRounds, hround, Bool.and_true]

theorem itemLength_eq (duration : Int) (i : StageItemRow) :
    itemLength tournament duration (stageItemWithRounds db tid {} i) =
      db.itemSpan tournament duration i.id := by
  unfold itemLength Database.itemSpan
  rw [full_rounds, List.map_map]
  congr 1
  refine List.map_congr_left fun r _ => ?_
  exact roundLength_eq tournament duration _ r

theorem stageLength_eq (s : StageRow) :
    stageLength tournament (stageWithStageItems db tid {} s) = db.stageSpan tournament s := by
  have hitem : ∀ k, DetailsFilter.stageItem {} k = true := fun _ => rfl
  unfold stageLength Database.stageSpan
  simp only [stageWithStageItems, hitem, Bool.and_true, List.map_map]
  refine longest_perm (((List.perm_insertionSort nameLe _).map _).trans (List.Perm.of_eq ?_))
  refine List.map_congr_left fun i _ => ?_
  exact itemLength_eq tournament _ i

theorem stageStart_eq (k : StageId) : stageStart tournament (fullTournamentDetails db tid {}) k =
    tournament.startTime + db.stageOffset tournament tid k := by
  have hrows : fullTournamentDetails db tid {} =
      (db.stages.rows.filter (·.tournamentId == tid)).map (stageWithStageItems db tid {}) := by
    have hstage : ∀ s : StageRow, DetailsFilter.stage {} s = true := fun _ => rfl
    simp only [fullTournamentDetails, hstage, Option.isNone_none, Bool.true_or, Bool.and_true]
  unfold stageStart Database.stageOffset lengthBefore
  rw [hrows, List.filter_map, List.map_map]
  congr 3
  funext s
  exact stageLength_eq tournament s

theorem roundOffset_eq (duration : Int) (i : StageItemRow) (k : RoundId) :
    roundOffset tournament duration (stageItemWithRounds db tid {} i) k =
      db.roundOffset tournament duration i.id k := by
  unfold roundOffset Database.roundOffset lengthBefore
  rw [full_rounds, List.filter_map, List.map_map]
  congr 2
  funext r
  exact roundLength_eq tournament duration _ r

/-- The timing of a loaded match is the one of its row. -/
theorem timingAt_eq {s : StageRow} (hs : s.tournamentId = tid) (i : StageItemRow) (r : RoundRow)
    (m : MatchRow) (inputs : List StageItemInput) :
    timingAt tournament (fullTournamentDetails db tid {}) (stageWithStageItems db tid {} s)
        (stageItemWithRounds db tid {} i) (roundWithMatches db inputs r)
        (matchWithInputs inputs m) = db.timing tournament s i r m := by
  have hstart : stageStart tournament (fullTournamentDetails db tid {})
      (stageWithStageItems db tid {} s).id =
        tournament.startTime + db.stageOffset tournament tid s.id := stageStart_eq tournament s.id
  unfold timingAt
  rw [hstart, roundOffset_eq, ← hs]
  rfl

end Load

/-- **A tournament is on schedule if every match row follows its timing.** -/
theorem planned_iff {db : Database} {tid : TournamentId} : Planned db tid ↔
    ∀ tournament, db.tournaments.find? tid = some tournament → ∀ s i r m,
      RowsAt db tid s i r m → Follows m (db.timing tournament s i r m) := by
  have hD : DistinctIds (fullTournamentDetails db tid {}) :=
    fullTournamentDetails_distinctIds whole_default
  constructor
  · intro hP tournament ht s i r m h
    have hL := (located_iff whole_default).mpr ⟨s, i, r, m, h, rfl, rfl, rfl, rfl, rfl⟩
    rw [← timingAt_eq tournament h.tournament i r m (inputsWithTeams db tid {})]
    exact hP.timing ht hL
  · intro hall tournament ht m hm hround
    obtain ⟨s, i, r, h⟩ := exists_rowsAt hm hround
    have hL := (located_iff whole_default).mpr ⟨s, i, r, m, h, rfl, rfl, rfl, rfl, rfl⟩
    refine ⟨_, (timetable_perm tournament hD).mem_iff.mpr
      (mem_timeline.mpr ⟨_, _, _, _, hL, rfl⟩), rfl, ?_⟩
    rw [timingAt_eq tournament h.tournament i r m]
    exact hall tournament ht s i r m h

/-! ## 2. What the plan depends on -/

def TournamentRow.agenda (t : TournamentRow) : TournamentRow :=
  { t with status := .opened, dashboardPublic := false, dashboardEndpoint := none, clubId := 0,
           logoPath := none }

def StageRow.agenda (s : StageRow) : StageRow := { s with name := "", isActive := false }

def StageItemRow.agenda (i : StageItemRow) : StageItemRow :=
  { i with name := "", teamCount := 0, rankingId := 0, type := .swiss }

def RoundRow.agenda (r : RoundRow) : RoundRow := { r with name := "", isDraft := false }

def MatchRow.agenda (m : MatchRow) : MatchRow :=
  { m with
    stageItemInput1Id := none, stageItemInput2Id := none,
    stageItemInput1Conflict := false, stageItemInput2Conflict := false,
    stageItemInput1WinnerFromMatchId := none, stageItemInput2WinnerFromMatchId := none,
    stageItemInput1Score := 0, stageItemInput2Score := 0 }

theorem TournamentRow.key_agenda (t : TournamentRow) : key t.agenda = key t := rfl
theorem StageRow.key_agenda (s : StageRow) : key s.agenda = key s := rfl
theorem StageItemRow.key_agenda (i : StageItemRow) : key i.agenda = key i := rfl
theorem RoundRow.key_agenda (r : RoundRow) : key r.agenda = key r := rfl
theorem MatchRow.key_agenda (m : MatchRow) : key m.agenda = key m := rfl

/-- What the plan reads, and the stored times. -/
def Database.agenda (db : Database) : Database :=
  { Database.empty with
    tournaments := db.tournaments.map TournamentRow.agenda TournamentRow.key_agenda
    stages := db.stages.map StageRow.agenda StageRow.key_agenda
    stageItems := db.stageItems.map StageItemRow.agenda StageItemRow.key_agenda
    rounds := db.rounds.map RoundRow.agenda RoundRow.key_agenda
    matches_ := db.matches_.map MatchRow.agenda MatchRow.key_agenda }

section Agenda

variable (db : Database) (tournament : TournamentRow)

theorem roundSpan_agenda (duration : Int) (k : RoundId) :
    db.agenda.roundSpan tournament.agenda duration k = db.roundSpan tournament duration k := by
  unfold Database.roundSpan
  congr 2
  dsimp only [Database.agenda]
  exact db.matches_.map_filter_map (fun _ => rfl) fun _ => rfl

theorem itemSpan_agenda (duration : Int) (k : StageItemId) :
    db.agenda.itemSpan tournament.agenda duration k = db.itemSpan tournament duration k := by
  unfold Database.itemSpan
  simp only [roundSpan_agenda]
  congr 1
  dsimp only [Database.agenda]
  exact db.rounds.map_filter_map (fun _ => rfl) fun _ => rfl

theorem stageSpan_agenda (s : StageRow) :
    db.agenda.stageSpan tournament.agenda s.agenda = db.stageSpan tournament s := by
  unfold Database.stageSpan
  simp only [itemSpan_agenda]
  congr 1
  dsimp only [Database.agenda]
  exact db.stageItems.map_filter_map (fun _ => rfl) fun _ => rfl

theorem stageOffset_agenda (tid : TournamentId) (k : StageId) :
    db.agenda.stageOffset tournament.agenda tid k = db.stageOffset tournament tid k := by
  unfold Database.stageOffset lengthBefore
  rw [List.filter_filter, List.filter_filter]
  congr 1
  dsimp only [Database.agenda]
  rw [Table.rows_map, List.filter_map, List.map_map]
  congr 1
  funext s
  exact stageSpan_agenda db tournament s

theorem roundOffset_agenda (duration : Int) (i : StageItemId) (k : RoundId) :
    db.agenda.roundOffset tournament.agenda duration i k =
      db.roundOffset tournament duration i k := by
  unfold Database.roundOffset lengthBefore
  simp only [roundSpan_agenda]
  rw [List.filter_filter, List.filter_filter]
  congr 1
  dsimp only [Database.agenda]
  exact db.rounds.map_filter_map (fun _ => rfl) fun _ => rfl

/-- **The agenda holds what the plan reads.** -/
theorem timing_agenda (s : StageRow) (i : StageItemRow) (r : RoundRow) (m : MatchRow) :
    db.agenda.timing tournament.agenda s.agenda i.agenda r.agenda m.agenda =
      db.timing tournament s i r m := by
  have hstages : db.agenda.stageOffset tournament.agenda s.agenda.tournamentId s.agenda.id =
      db.stageOffset tournament s.tournamentId s.id := stageOffset_agenda db tournament _ _
  unfold Database.timing
  rw [hstages, roundOffset_agenda]
  rfl

end Agenda

/-- The rows of the agenda are those of the database, place by place. -/
theorem rowsAt_agenda {db : Database} {tid : TournamentId} {s : StageRow} {i : StageItemRow}
    {r : RoundRow} {m : MatchRow} : RowsAt db.agenda tid s i r m ↔ ∃ s' i' r' m',
      RowsAt db tid s' i' r' m' ∧ s'.agenda = s ∧ i'.agenda = i ∧ r'.agenda = r ∧
        m'.agenda = m := by
  constructor
  · rintro ⟨hs, ht, hi, his, hr, hri, hm, hmr⟩
    obtain ⟨s', hs', rfl⟩ := List.mem_map.mp hs
    obtain ⟨i', hi', rfl⟩ := List.mem_map.mp hi
    obtain ⟨r', hr', rfl⟩ := List.mem_map.mp hr
    obtain ⟨m', hm', rfl⟩ := List.mem_map.mp hm
    exact ⟨s', i', r', m', ⟨hs', ht, hi', his, hr', hri, hm', hmr⟩, rfl, rfl, rfl, rfl⟩
  · rintro ⟨s', i', r', m', h, rfl, rfl, rfl, rfl⟩
    exact ⟨List.mem_map_of_mem h.stage, h.tournament, List.mem_map_of_mem h.item, h.ofStage,
      List.mem_map_of_mem h.round, h.ofItem, List.mem_map_of_mem h.match_, h.ofRound⟩

theorem find?_agenda (db : Database) (tid : TournamentId) : db.agenda.tournaments.find? tid =
    (db.tournaments.find? tid).map TournamentRow.agenda := db.tournaments.find?_map TournamentRow.key_agenda tid

theorem planned_agenda {db : Database} {tid : TournamentId} :
    Planned db.agenda tid ↔ Planned db tid := by
  rw [planned_iff, planned_iff]
  constructor
  · intro hall tournament ht s i r m h
    have hagenda := hall tournament.agenda (by rw [find?_agenda, ht]; rfl) _ _ _ _
      (rowsAt_agenda.mpr ⟨s, i, r, m, h, rfl, rfl, rfl, rfl⟩)
    rw [timing_agenda] at hagenda
    exact ⟨hagenda.startTime, hagenda.durationMinutes, hagenda.marginMinutes⟩
  · intro hall tournament ht s i r m h
    rw [find?_agenda] at ht
    obtain ⟨t, hfind, rfl⟩ := Option.map_eq_some_iff.mp ht
    obtain ⟨s', i', r', m', hrows, rfl, rfl, rfl, rfl⟩ := rowsAt_agenda.mp h
    rw [timing_agenda]
    have hrow := hall t hfind s' i' r' m' hrows
    exact ⟨hrow.startTime, hrow.durationMinutes, hrow.marginMinutes⟩

/-- **A tournament stays on schedule while the agenda stays the same.** -/
theorem Planned.of_agenda {db db' : Database} {tid : TournamentId} (h : db'.agenda = db.agenda)
    (hP : Planned db tid) : Planned db' tid := by
  rw [← planned_agenda, h, planned_agenda]
  exact hP

theorem match_of_agenda {db db' : Database} (h : db'.agenda = db.agenda) {m' : MatchRow}
    (hm : m' ∈ db'.matches_.rows) : ∃ m ∈ db.matches_.rows, m'.agenda = m.agenda := by
  have hrows : db'.matches_.rows.map MatchRow.agenda = db.matches_.rows.map MatchRow.agenda := by
    have hfield := congrArg (·.matches_.rows) h
    exact hfield
  obtain ⟨m, hm, e⟩ := List.mem_map.mp (hrows ▸ List.mem_map_of_mem hm)
  exact ⟨m, hm, e.symm⟩

theorem Follows.of_agenda {m m' : MatchRow} {t : MatchTiming} (h : m'.agenda = m.agenda)
    (hf : Follows m t) : Follows m' t where
  startTime := (congrArg MatchRow.startTime h).trans hf.startTime
  durationMinutes := (congrArg MatchRow.durationMinutes h).trans hf.durationMinutes
  marginMinutes := (congrArg MatchRow.marginMinutes h).trans hf.marginMinutes

/-! The plan does not read what it writes. -/

theorem roundSpan_untimed (db : Database) (tournament : TournamentRow) (duration : Int)
    (k : RoundId) :
    db.untimed.roundSpan tournament duration k = db.roundSpan tournament duration k := by
  unfold Database.roundSpan
  congr 2
  dsimp only [Database.untimed]
  exact db.matches_.map_filter_map (fun _ => rfl) fun _ => rfl

theorem timing_untimed (db : Database) (tournament : TournamentRow) (s : StageRow)
    (i : StageItemRow) (r : RoundRow) (m : MatchRow) :
    db.untimed.timing tournament s i r m.untimed = db.timing tournament s i r m := by
  unfold Database.timing Database.stageOffset Database.stageSpan Database.itemSpan
    Database.roundOffset
  simp only [roundSpan_untimed]
  rfl

end Brackets
