/-
  File:      Brackets/Planning/Replanning.lean
  Subject:   Planning puts a tournament on schedule.

  `scheduleAllMatches` compares the stored timing of every match with the planned one, writes those
  that differ and then the conflict flags. What it writes the plan does not read, so the plan is
  the same before and after, and every match follows it: `scheduleAllMatches_planned`.
-/
import Brackets.Planning.Agenda

namespace Brackets

open Library

/-! ## 1. What is written -/

/-- The row with the timing stored. -/
def MatchRow.withTiming (m : MatchRow) (t : MatchTiming) : MatchRow :=
  { m with
    startTime := some t.startTime
    durationMinutes := t.durationMinutes
    marginMinutes := t.marginMinutes }

theorem MatchRow.key_withTiming (t : MatchTiming) (m : MatchRow) : key (m.withTiming t) = key m :=
  rfl

theorem MatchRow.follows_withTiming (m : MatchRow) (t : MatchTiming) : Follows (m.withTiming t) t :=
  ⟨rfl, rfl, rfl⟩

/-- The row after the timings of a list are stored. -/
def MatchRow.withTimings (m : MatchRow) (timings : List MatchTiming) : MatchRow :=
  match timings.find? (·.matchId == m.id) with
  | some t => m.withTiming t
  | none => m

theorem MatchRow.withTimings_id (m : MatchRow) (timings : List MatchTiming) :
    (m.withTimings timings).id = m.id := by
  unfold MatchRow.withTimings
  split <;> rfl

/-- A match follows its timing once the timings that differ are stored. -/
theorem MatchRow.follows_withTimings {m : MatchRow} {timings : List MatchTiming}
    (hids : (timings.map (·.matchId)).Nodup) {t : MatchTiming} (ht : t ∈ timings)
    (hid : t.matchId = m.id) {q : MatchTiming → Bool} (hsame : q t = false → Follows m t) :
    Follows (m.withTimings (timings.filter q)) t := by
  unfold MatchRow.withTimings
  split
  · next u hu =>
    have hmem := List.mem_filter.mp (List.mem_of_find?_eq_some hu)
    have hum : u.matchId = m.id := by simpa using List.find?_some hu
    obtain rfl : u = t := List.inj_on_of_nodup_map hids hmem.1 ht (hum.trans hid.symm)
    exact m.follows_withTiming u
  · next hnone =>
    refine hsame ?_
    by_contra hq
    rw [Bool.not_eq_false] at hq
    have hne := List.find?_eq_none.mp hnone t (List.mem_filter.mpr ⟨ht, hq⟩)
    exact hne (beq_iff_eq.mpr hid)

theorem sqlUpdateMatchTimings_rows (db : Database) {timings : List MatchTiming}
    (hids : (timings.map (·.matchId)).Nodup) :
    (sqlUpdateMatchTimings db timings).matches_.rows =
      db.matches_.rows.map (·.withTimings timings) := by
  induction timings generalizing db with
  | nil => exact (List.map_id _).symm
  | cons t timings ih =>
    rw [List.map_cons, List.nodup_cons] at hids
    have hstep : sqlUpdateMatchTimings db (t :: timings) = sqlUpdateMatchTimings
        { db with
          matches_ := db.matches_.update (fun m => m.id == t.matchId) (·.withTiming t)
            (MatchRow.key_withTiming t) }
        timings := rfl
    rw [hstep, ih _ hids.2]
    dsimp only
    rw [Table.rows_update, List.map_map]
    refine List.map_congr_left fun m _ => ?_
    by_cases hm : m.id = t.matchId
    · have hnone : timings.find? (·.matchId == m.id) = none := by
        rw [List.find?_eq_none]
        intro u hu he
        exact hids.1 (List.mem_map.mpr ⟨u, hu, (eq_of_beq he).trans hm⟩)
      have hid : (m.withTiming t).id = m.id := rfl
      simp only [Function.comp, hm, beq_self_eq_true, if_true, MatchRow.withTimings,
        List.find?_cons]
      rw [hid, hnone]
    · have hne : (t.matchId == m.id) = false := beq_eq_false_iff_ne.mpr (Ne.symm hm)
      simp only [Function.comp, beq_eq_false_iff_ne.mpr hm, Bool.false_eq_true, if_false,
        MatchRow.withTimings, List.find?_cons, hne]

theorem sqlSetConflict_agenda (db : Database) (k : MatchId) (flags : Bool × Bool) :
    (sqlSetConflict db k flags).agenda = db.agenda := by
  simp only [Database.agenda, sqlSetConflict]
  congr 1
  exact db.matches_.map_of_update fun _ => rfl

theorem handleConflicts_agenda {db db' : Database} {stages : List StageWithStageItems}
    (h : handleConflicts db stages = .ok db') : db'.agenda = db.agenda := by
  obtain ⟨_, _, h⟩ := bind_eq_ok.mp h
  cases h
  exact (foldl_project _ _ (fun db k => sqlSetConflict_agenda db k _) _ _).trans
    (foldl_project Database.agenda (fun db (e : MatchId × Bool × Bool) => sqlSetConflict db e.1 e.2)
      (fun db e => sqlSetConflict_agenda db e.1 e.2) _ _)

/-! ## 2. What is compared -/

theorem timingChanged_eq_ok {matches_ : Dict MatchId Match} {t : MatchTiming} {changed : Bool}
    (h : timingChanged matches_ t = .ok changed) : ∃ m, matches_.get? t.matchId = some m ∧
      (changed = false → Follows m.toMatchRow t) := by
  obtain ⟨m, hm, h⟩ := bind_eq_ok.mp h
  refine ⟨m, orRaise_eq_ok.mp hm, fun hf => ?_⟩
  rw [hf] at h
  have heq := bne_eq_false_iff_eq.mp (Except.ok.inj h)
  exact ⟨congrArg (·.1) heq, congrArg (·.2.1) heq, congrArg (·.2.2) heq⟩

/-- The dictionary of the loaded matches finds a match under its id. -/
theorem get?_matches {stages : List StageWithStageItems} {k : MatchId} {m : Match}
    (h : (Dict.ofList ((tournamentMatches stages).map fun m => (m.id, m))).get? k = some m) :
    m ∈ tournamentMatches stages ∧ m.id = k := by
  obtain ⟨m', hm', e⟩ := List.mem_map.mp (Dict.mem_of_ofList h)
  cases e
  exact ⟨hm', rfl⟩

/-- The timing of a match row is planned. -/
theorem timing_mem {db : Database} {tid : TournamentId} (tournament : TournamentRow) {s : StageRow}
    {i : StageItemRow} {r : RoundRow} {m : MatchRow} (h : RowsAt db tid s i r m) :
    db.timing tournament s i r m ∈
      timetable tournament (fullTournamentDetails db tid {}) := by
  have hL := (located_iff whole_default).mpr ⟨s, i, r, m, h, rfl, rfl, rfl, rfl, rfl⟩
  rw [← timingAt_eq tournament h.tournament i r m (inputsWithTeams db tid {})]
  exact (timetable_perm tournament (fullTournamentDetails_distinctIds whole_default)).mem_iff.mpr
    (mem_timeline.mpr ⟨_, _, _, _, hL, rfl⟩)

theorem planned_ids {stages : List StageWithStageItems} (hD : DistinctIds stages)
    (tournament : TournamentRow) :
    ((timetable tournament stages).map (·.matchId)).Nodup := by
  rw [((timetable_perm tournament hD).map _).nodup_iff, timeline_ids]
  exact hD.matchIds

/-! ## 3. The schedule after planning -/

/-- A place after a change of times and flags is one before it. -/
theorem RowsAt.of_untimed {db db' : Database} {tid : TournamentId} {s : StageRow}
    {i : StageItemRow} {r : RoundRow} {m' : MatchRow} (h : db'.untimed = db.untimed)
    (h' : RowsAt db' tid s i r m') : ∃ m, RowsAt db tid s i r m ∧ m'.untimed = m.untimed := by
  have hstages : db'.stages = db.stages := by
    have hfield := congrArg Database.stages h
    exact hfield
  have hitems : db'.stageItems = db.stageItems := by
    have hfield := congrArg Database.stageItems h
    exact hfield
  have hrounds : db'.rounds = db.rounds := by
    have hfield := congrArg Database.rounds h
    exact hfield
  have hmatches : db'.matches_.rows.map MatchRow.untimed = db.matches_.rows.map MatchRow.untimed := by
    have hfield := congrArg (·.matches_.rows) h
    exact hfield
  have hmem := List.mem_map_of_mem (f := MatchRow.untimed) h'.match_
  rw [hmatches] at hmem
  obtain ⟨m, hm, hrow⟩ := List.mem_map.mp hmem
  have hround : m.untimed.roundId = m'.untimed.roundId := congrArg MatchRow.roundId hrow
  exact ⟨m, ⟨hstages ▸ h'.stage, h'.tournament, hitems ▸ h'.item, h'.ofStage, hrounds ▸ h'.round,
    h'.ofItem, hm, hround.trans h'.ofRound⟩, hrow.symm⟩

/-- Where the rows of a tournament follow the plan from before a change of times and flags, the
    tournament is on schedule. -/
theorem planned_of_untimed {db db' : Database} {tid : TournamentId}
    (h : db'.untimed = db.untimed)
    (hfollows : ∀ tournament, db.tournaments.find? tid = some tournament → ∀ s i r m,
      RowsAt db tid s i r m → ∀ m' ∈ db'.matches_.rows, m'.untimed = m.untimed →
        Follows m' (db.timing tournament s i r m)) : Planned db' tid := by
  have htournaments : db'.tournaments = db.tournaments := by
    have hfield := congrArg Database.tournaments h
    exact hfield
  rw [planned_iff]
  intro tournament ht s i r m' h'
  obtain ⟨m, hrows, hrow⟩ := h'.of_untimed h
  have htiming : db'.timing tournament s i r m' = db.timing tournament s i r m := by
    rw [← timing_untimed db', ← timing_untimed db, h, hrow]
  rw [htiming]
  exact hfollows tournament (htournaments ▸ ht) s i r m hrows m' h'.match_ hrow

/-- **Planning puts the tournament on schedule.** -/
theorem scheduleAllMatches_planned {db db' : Database} {tid : TournamentId}
    (h : scheduleAllMatches db tid = .ok db') : Planned db' tid := by
  have huntimed := scheduleAllMatches_untimed h
  obtain ⟨tournament, ht, h⟩ := bind_eq_ok.mp h
  obtain ⟨stages, hstages, h⟩ := bind_eq_ok.mp h
  obtain ⟨timings, htimings, h⟩ := bind_eq_ok.mp h
  obtain ⟨changed, hchanged, h⟩ := bind_eq_ok.mp h
  obtain rfl := getFullTournamentDetails_ok hstages
  obtain ⟨q, hq, rfl⟩ := filterM_eq_ok hchanged
  have hD : DistinctIds (fullTournamentDetails db tid {}) :=
    fullTournamentDetails_distinctIds whole_default
  obtain rfl := planMatchTimings_ok hD htimings
  have hids := planned_ids hD tournament
  refine planned_of_untimed huntimed fun tournament' ht' s i r m hrows m' hm' hrow => ?_
  obtain rfl : tournament' = tournament := Option.some.inj (ht'.symm.trans (orRaise_eq_ok.mp ht))
  have hplanned := timing_mem tournament' hrows
  -- what the comparison found out about the match
  have hsame : q (db.timing tournament' s i r m) = false →
      Follows m (db.timing tournament' s i r m) := by
    intro hf
    obtain ⟨loaded, hget, hfollows⟩ := timingChanged_eq_ok (hq _ hplanned)
    obtain ⟨hloaded, hid⟩ := get?_matches hget
    obtain ⟨row, hmem, -, rfl⟩ := mem_tournamentMatches_iff.mp hloaded
    obtain rfl : row = m := db.matches_.eq_of_key hmem hrows.match_ hid
    exact hfollows hf
  split at h
  · next hnone =>
    cases h
    have hid : m'.untimed.id = m.untimed.id := congrArg MatchRow.id hrow
    obtain rfl : m' = m := db.matches_.eq_of_key hm' hrows.match_ hid
    have hnil := List.isEmpty_iff.mp hnone
    exact hsame (Bool.eq_false_iff.mpr (List.filter_eq_nil_iff.mp hnil _ hplanned))
  · obtain ⟨stages, -, h⟩ := bind_eq_ok.mp h
    obtain ⟨m1, hm1, hagenda⟩ := match_of_agenda (handleConflicts_agenda h) hm'
    rw [sqlUpdateMatchTimings_rows db (hids.sublist (List.filter_sublist.map _))] at hm1
    obtain ⟨m0, hm0, rfl⟩ := List.mem_map.mp hm1
    have hid : m0.id = m.id := by
      have h1 : m'.agenda.id = (m0.withTimings _).agenda.id := congrArg MatchRow.id hagenda
      have h2 : m'.untimed.id = m.untimed.id := congrArg MatchRow.id hrow
      rw [← m0.withTimings_id]
      exact h1.symm.trans h2
    obtain rfl : m0 = m := db.matches_.eq_of_key hm0 hrows.match_ hid
    exact (MatchRow.follows_withTimings hids hplanned rfl hsame).of_agenda hagenda

end Brackets
