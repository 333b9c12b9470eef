/-
  File:      Brackets/Planning/Clashes.lean
  Subject:   A tournament on schedule has no conflicts.

  Two matches with a common input are in different rounds of one stage item, so on the timeline
  one is over before the other starts (`Planned.apart`). The overlap test of the conflict search
  fails for such matches (`matchesOverlap_of_apart`), so the search sets no flag and clears those
  of every definitive match: `planned_noConflicts`.
-/
import Brackets.Planning.Timeline

namespace Brackets

open Library

/-! ## 1. A tournament on schedule -/

/-- The stored timing of a match is the planned one. -/
structure Follows (m : MatchRow) (t : MatchTiming) : Prop where
  startTime : m.startTime = some t.startTime
  durationMinutes : m.durationMinutes = t.durationMinutes
  marginMinutes : m.marginMinutes = t.marginMinutes

instance (m : MatchRow) (t : MatchTiming) : Decidable (Follows m t) :=
  decidable_of_iff (m.startTime = some t.startTime ∧ m.durationMinutes = t.durationMinutes ∧
    m.marginMinutes = t.marginMinutes) ⟨fun ⟨h1, h2, h3⟩ => ⟨h1, h2, h3⟩, fun ⟨h1, h2, h3⟩ => ⟨h1, h2, h3⟩⟩

/-- Every match of the tournament is stored with the timing that the planner gives it. -/
def Planned (db : Database) (tid : TournamentId) : Prop :=
  ∀ tournament, db.tournaments.find? tid = some tournament → ∀ m ∈ db.matches_.rows,
    db.roundTournament m.roundId = some tid →
      ∃ t ∈ timetable tournament (fullTournamentDetails db tid {}),
        t.matchId = m.id ∧ Follows m t

instance (db : Database) (tid : TournamentId) : Decidable (Planned db tid) :=
  inferInstanceAs (Decidable (∀ tournament ∈ db.tournaments.find? tid, ∀ m ∈ db.matches_.rows,
    db.roundTournament m.roundId = some tid →
      ∃ t ∈ timetable tournament (fullTournamentDetails db tid {}),
        t.matchId = m.id ∧ Follows m t))

/-- The inputs of a match belong to the stage item of its round, and none has two matches in a
    round. -/
structure FairRounds (db : Database) (tid : TournamentId) : Prop where
  own : ∀ m ∈ db.matches_.rows, db.roundTournament m.roundId = some tid → ∀ side k,
    m.inputId side = some k → ∃ input, db.stageItemInputs.find? k = some input ∧
      db.roundItem m.roundId = some input.stageItemId
  once : ∀ m ∈ db.matches_.rows, ∀ m' ∈ db.matches_.rows,
    db.roundTournament m.roundId = some tid → m.roundId = m'.roundId → m.id ≠ m'.id →
      ∀ side side' k, m.inputId side = some k → m'.inputId side' ≠ some k

/-- Matches take time and margins are not negative, whichever level decides them. -/
structure PositiveTimes (db : Database) (tournament : TournamentRow) : Prop where
  duration : 1 ≤ tournament.durationMinutes
  margin : 0 ≤ tournament.marginMinutes
  stages : ∀ s ∈ db.stages.rows, ∀ n ∈ s.customDurationMinutes, 1 ≤ n
  durations : ∀ m ∈ db.matches_.rows, ∀ n ∈ m.customDurationMinutes, 1 ≤ n
  margins : ∀ m ∈ db.matches_.rows, ∀ n ∈ m.customMarginMinutes, 0 ≤ n

theorem whole_default : DetailsFilter.Whole {} := ⟨rfl, rfl⟩

section Planned

variable {db : Database} {tid : TournamentId} {tournament : TournamentRow}
  (ht : db.tournaments.find? tid = some tournament) (hP : Planned db tid)
include ht hP

/-- The timing of a loaded match, at its place. -/
theorem Planned.timing {s : StageWithStageItems} {i : StageItemWithRounds} {r : RoundWithMatches}
    {m : Match} (hL : Located (fullTournamentDetails db tid {}) s i r m) :
    Follows m.toMatchRow (timingAt tournament (fullTournamentDetails db tid {}) s i r m) := by
  obtain ⟨srow, irow, rrow, row, hrows, -, rfl, rfl, rfl, rfl⟩ := (located_iff whole_default).mp hL
  obtain ⟨t, htmem, hid, hf⟩ := hP tournament ht row hrows.match_ hrows.roundTournament
  rw [← timing_of_located tournament (fullTournamentDetails_distinctIds whole_default) hL htmem hid]
  exact hf

/-- The stored end of a match is the planned one. -/
theorem Planned.endTime {s : StageWithStageItems} {i : StageItemWithRounds} {r : RoundWithMatches}
    {m : Match} (hL : Located (fullTournamentDetails db tid {}) s i r m) {start : DateTime}
    (hstart : m.startTime = some start) :
    start = (timingAt tournament (fullTournamentDetails db tid {}) s i r m).startTime ∧
      m.endTime start =
        (timingAt tournament (fullTournamentDetails db tid {}) s i r m).endTime := by
  obtain ⟨h1, h2, h3⟩ := hP.timing ht hL
  have hs := Option.some.inj (hstart.symm.trans h1)
  refine ⟨hs, ?_⟩
  rw [Match.endTime, MatchTiming.endTime, h2, h3, hs]

variable (hF : FairRounds db tid)
include hF

/-- **Matches with a common input are played one after the other.** -/
theorem Planned.apart {m m' : Match} (hm : m ∈ tournamentMatches (fullTournamentDetails db tid {}))
    (hm' : m' ∈ tournamentMatches (fullTournamentDetails db tid {})) (hne : m.id ≠ m'.id)
    {side side' : Side} {k : StageItemInputId} (hk : m.inputId side = some k)
    (hk' : m'.inputId side' = some k) {start start' : DateTime} (hstart : m.startTime = some start)
    (hstart' : m'.startTime = some start') :
    m.endTime start ≤ start' ∨ m'.endTime start' ≤ start := by
  obtain ⟨s, i, r, hL⟩ := mem_tournamentMatches.mp hm
  obtain ⟨s', i', r', hL'⟩ := mem_tournamentMatches.mp hm'
  obtain ⟨hs, he⟩ := hP.endTime ht hL hstart
  obtain ⟨hs', he'⟩ := hP.endTime ht hL' hstart'
  rw [he, he', hs, hs']
  obtain ⟨srow, irow, rrow, row, hrows, -, rfl, rfl, rfl, rfl⟩ := (located_iff whole_default).mp hL
  obtain ⟨srow', irow', rrow', row', hrows', -, rfl, rfl, rfl, rfl⟩ :=
    (located_iff whole_default).mp hL'
  -- the common input is one of one stage item
  obtain ⟨input, hinput, hitem⟩ := hF.own row hrows.match_ hrows.roundTournament side k hk
  obtain ⟨input', hinput', hitem'⟩ := hF.own row' hrows'.match_ hrows'.roundTournament side' k hk'
  obtain rfl : input = input' := Option.some.inj (hinput.symm.trans hinput')
  rw [hrows.roundItem] at hitem
  rw [hrows'.roundItem, ← hitem] at hitem'
  obtain rfl : irow' = irow :=
    db.stageItems.eq_of_key hrows'.item hrows.item (Option.some.inj hitem')
  obtain rfl : srow' = srow :=
    db.stages.eq_of_key hrows'.stage hrows.stage (hrows'.ofStage.symm.trans hrows.ofStage)
  -- and has one match in a round
  have hround : rrow.id ≠ rrow'.id := by
    intro e
    have hsame : row.roundId = row'.roundId := by rw [hrows.ofRound, hrows'.ofRound, e]
    exact hF.once row hrows.match_ row' hrows'.match_ hrows.roundTournament hsame hne side side' k
      hk hk'
  rcases lt_or_gt_of_ne hround with hlt | hlt
  · exact Or.inl (endTime_le_of_round tournament hL hlt)
  · exact Or.inr (endTime_le_of_round tournament hL' hlt)

end Planned

/-! ## 2. The conflict search -/

/-- Matches that take time and are played one after the other do not overlap. -/
theorem matchesOverlap_of_apart {m m' : Match} (hm : 0 < m.durationMinutes + m.marginMinutes)
    (hm' : 0 < m'.durationMinutes + m'.marginMinutes)
    (h : ∀ start start', m.startTime = some start → m'.startTime = some start' →
      m.endTime start ≤ start' ∨ m'.endTime start' ≤ start) : matchesOverlap m m' = false := by
  unfold matchesOverlap
  split
  · next start start' hs hs' =>
    have hlt : start < m.endTime start := Int.lt_add_of_pos_right start (timedelta_pos hm)
    have hlt' : start' < m'.endTime start' := Int.lt_add_of_pos_right start' (timedelta_pos hm')
    dsimp only
    rw [Bool.not_eq_false', Bool.or_eq_true, Bool.or_eq_true, Bool.and_eq_true]
    simp only [decide_eq_true_eq]
    rcases h start start' hs hs' with hend | hend
    · exact Or.inl ⟨(hend.trans_lt hlt'), hlt.trans_le hend⟩
    · exact Or.inr (Or.inl (hlt'.trans_le hend))
  · rfl

/-- Two definitive matches that do not overlap if they have a common input. -/
theorem compareMatches_of_apart {c : Conflicts} {m m' : Match} (hd : m.isDefinitive)
    (hj : m.Joined) (h : m.id ≠ m'.id → ∀ side side' k, m.inputId side = some k →
      m'.inputId side' = some k → matchesOverlap m m' = false) : compareMatches c (m, m') = c := by
  unfold compareMatches
  dsimp only
  split
  · rfl
  · next hid =>
    split
    · rfl
    · next hshared =>
      have hfalse : matchesOverlap m m' = false := by
        obtain ⟨o, ho⟩ := List.exists_mem_of_ne_nil _ (fun e => hshared (List.isEmpty_iff.mpr e))
        obtain ⟨ho', ho⟩ := List.mem_filter.mp ho
        obtain ⟨side', rfl⟩ : ∃ side', m'.inputId side' = o := by
          rcases List.mem_cons.mp ho' with rfl | ho'
          · exact ⟨.one, rfl⟩
          · exact ⟨.two, (List.mem_singleton.mp ho').symm⟩
        obtain ⟨side, hside⟩ : ∃ side, m.inputId side = m'.inputId side' := by
          rcases List.mem_cons.mp (List.contains_iff_mem.mp ho) with e | ho
          · exact ⟨.one, e.symm⟩
          · exact ⟨.two, (List.mem_singleton.mp ho).symm⟩
        obtain ⟨k, hk⟩ : ∃ k, m.inputId side = some k := by
          rw [Match.isDefinitive, Bool.and_eq_true] at hd
          cases side with
          | one =>
            obtain ⟨i, hi⟩ := Option.isSome_iff_exists.mp hd.1
            exact ⟨i.id, hj .one i hi⟩
          | two =>
            obtain ⟨i, hi⟩ := Option.isSome_iff_exists.mp hd.2
            exact ⟨i.id, hj .two i hi⟩
        exact h (fun e => hid (beq_iff_eq.mpr e)) side side' k hk (hside ▸ hk)
      rw [hfalse]
      rfl

/-- A search in which no comparison finds anything. -/
theorem getConflictingMatches_of_apart {stages : List StageWithStageItems}
    (h : ∀ m ∈ definitiveMatches stages, ∀ m' ∈ definitiveMatches stages, ∀ c,
      compareMatches c (m, m') = c) :
    getConflictingMatches stages = .ok (.empty, (definitiveMatches stages).map (·.id)) := by
  have hnone : (pairsInOrder (definitiveMatches stages)).foldl compareMatches ⟨.empty, []⟩ =
      ⟨.empty, []⟩ := by
    have run : ∀ l : List (Match × Match), (∀ p ∈ l, ∀ c, compareMatches c p = c) → ∀ c,
        l.foldl compareMatches c = c := by
      intro l
      induction l with
      | nil => exact fun _ _ => rfl
      | cons p l ih =>
        intro hl c
        rw [List.foldl_cons, hl p List.mem_cons_self]
        exact ih (fun p hp => hl p (List.mem_cons_of_mem _ hp)) c
    exact run _ (fun p hp c => h p.1 (mem_of_mem_pairsInOrder hp).1 p.2
      (mem_of_mem_pairsInOrder hp).2 c) _
  unfold getConflictingMatches
  dsimp only
  rw [hnone]
  have hclear : ((definitiveMatches stages).map (·.id)).filter (!([] : List MatchId).contains ·) =
      (definitiveMatches stages).map (·.id) := List.filter_eq_self.mpr fun _ _ => rfl
  dsimp only
  rw [hclear]
  rfl

theorem definitiveMatches_eq (stages : List StageWithStageItems) :
    definitiveMatches stages = (tournamentMatches stages).filter (·.isDefinitive) := rfl

section NoConflicts

variable {db : Database} {tid : TournamentId} {tournament : TournamentRow}

/-- The input ids of a loaded match that belong to its stage item are joined. -/
theorem FairRounds.definitive_iff (hF : FairRounds db tid) {m : Match}
    (hm : m ∈ tournamentMatches (fullTournamentDetails db tid {})) :
    m.isDefinitive ↔ ∀ side, (m.inputId side).isSome := by
  obtain ⟨row, hrow, ht, rfl⟩ := mem_tournamentMatches_iff.mp hm
  have hside : ∀ side, ((matchWithInputs (inputsWithTeams db tid {}) row).input side).isSome ↔
      (row.inputId side).isSome := by
    intro side
    rw [matchWithInputs_input]
    cases hk : row.inputId side with
    | none => rfl
    | some k =>
      obtain ⟨input, hinput, hitem⟩ := hF.own row hrow ht side k hk
      obtain ⟨r, hr, hri⟩ := Option.map_eq_some_iff.mp hitem
      have htour : db.stageItemTournament input.stageItemId = some tid := by
        rw [Database.roundTournament, hr] at ht
        rw [← hri]
        exact ht
      have hloaded : withTeam db input ∈ inputsWithTeams db tid {} := by
        refine List.mem_map_of_mem (List.mem_filter.mpr ⟨db.stageItemInputs.mem_of_find? hinput, ?_⟩)
        rw [htour, beq_self_eq_true, whole_default.stageItem, Bool.and_self]
      have hid : input.id = k := db.stageItemInputs.key_of_find? hinput
      have hfound : ((inputsWithTeams db tid {}).find? fun i => i.id == k).isSome :=
        List.find?_isSome.mpr ⟨_, hloaded, beq_iff_eq.mpr hid⟩
      simp only [Option.bind_some, hfound, Option.isSome_some]
  rw [Match.isDefinitive, Bool.and_eq_true]
  constructor
  · rintro ⟨h1, h2⟩ side
    cases side
    · exact (hside .one).mp h1
    · exact (hside .two).mp h2
  · exact fun h => ⟨(hside .one).mpr (h .one), (hside .two).mpr (h .two)⟩

/-- A match on schedule takes time. -/
theorem Planned.takesTime (ht : db.tournaments.find? tid = some tournament) (hP : Planned db tid)
    (hT : PositiveTimes db tournament) {m : Match}
    (hm : m ∈ tournamentMatches (fullTournamentDetails db tid {})) :
    0 < m.durationMinutes + m.marginMinutes := by
  obtain ⟨s, i, r, hL⟩ := mem_tournamentMatches.mp hm
  obtain ⟨-, hdur, hmargin⟩ := hP.timing ht hL
  obtain ⟨srow, irow, rrow, row, hrows, -, rfl, rfl, rfl, rfl⟩ := (located_iff whole_default).mp hL
  have hstage : 1 ≤ stageDuration tournament (stageWithStageItems db tid {} srow) := by
    cases hc : srow.customDurationMinutes with
    | none => simpa [stageDuration, stageWithStageItems, hc] using hT.duration
    | some n => simpa [stageDuration, stageWithStageItems, hc] using hT.stages srow hrows.stage n hc
  have hd : 1 ≤ row.customDurationMinutes.getD
      (stageDuration tournament (stageWithStageItems db tid {} srow)) := by
    cases hc : row.customDurationMinutes with
    | none => exact hstage
    | some n => exact hT.durations row hrows.match_ n hc
  have hg : 0 ≤ row.customMarginMinutes.getD tournament.marginMinutes := by
    cases hc : row.customMarginMinutes with
    | none => exact hT.margin
    | some n => exact hT.margins row hrows.match_ n hc
  rw [hdur, hmargin]
  exact Int.add_pos_of_pos_of_nonneg hd hg

/-- **A tournament on schedule has no conflicts**, and the search clears the flags of the matches
    whose inputs are both known. -/
theorem planned_noConflicts (ht : db.tournaments.find? tid = some tournament)
    (hF : FairRounds db tid) (hT : PositiveTimes db tournament) (hP : Planned db tid) :
    (∀ m ∈ tournamentMatches (fullTournamentDetails db tid {}),
      ∀ m' ∈ tournamentMatches (fullTournamentDetails db tid {}), m.id ≠ m'.id →
        ∀ side side' k, m.inputId side = some k → m'.inputId side' = some k →
          ∀ start start', m.startTime = some start → m'.startTime = some start' →
            m.endTime start ≤ start' ∨ m'.endTime start' ≤ start) ∧
    ∃ clear, getConflictingMatches (fullTournamentDetails db tid {}) = .ok (.empty, clear) ∧
      ∀ k, k ∈ clear ↔ ∃ m ∈ tournamentMatches (fullTournamentDetails db tid {}), m.id = k ∧
        ∀ side, (m.inputId side).isSome := by
  have hapart : ∀ m ∈ tournamentMatches (fullTournamentDetails db tid {}),
      ∀ m' ∈ tournamentMatches (fullTournamentDetails db tid {}), m.id ≠ m'.id →
        ∀ side side' k, m.inputId side = some k → m'.inputId side' = some k →
          ∀ start start', m.startTime = some start → m'.startTime = some start' →
            m.endTime start ≤ start' ∨ m'.endTime start' ≤ start :=
    fun m hm m' hm' hne side side' k hk hk' start start' hs hs' =>
      hP.apart ht hF hm hm' hne hk hk' hs hs'
  refine ⟨hapart, _, getConflictingMatches_of_apart fun m hm m' hm' c => ?_, fun k => ?_⟩
  · rw [definitiveMatches_eq, List.mem_filter] at hm hm'
    have hjoined : m.Joined := by
      obtain ⟨row, -, -, rfl⟩ := mem_tournamentMatches_iff.mp hm.1
      exact fun side i hi => matchWithInputs_inputId hi
    refine compareMatches_of_apart hm.2 hjoined fun hne side side' k hk hk' => ?_
    exact matchesOverlap_of_apart (hP.takesTime ht hT hm.1) (hP.takesTime ht hT hm'.1)
      (hapart m hm.1 m' hm'.1 hne side side' k hk hk')
  · simp only [definitiveMatches_eq, List.mem_map, List.mem_filter]
    constructor
    · rintro ⟨m, ⟨hm, hd⟩, rfl⟩
      exact ⟨m, hm, rfl, (hF.definitive_iff hm).mp hd⟩
    · rintro ⟨m, hm, rfl, hd⟩
      exact ⟨m, ⟨hm, (hF.definitive_iff hm).mpr hd⟩, rfl⟩

end NoConflicts

/-! ### An evening of two rounds -/

theorem evening_fair : FairRounds evening 1 where
  own m hm _ side k hk := by
    have hall : ∀ m ∈ evening.matches_.rows, ∀ side ∈ [Side.one, Side.two],
        ∀ k ∈ m.inputId side, ∃ input ∈ evening.stageItemInputs.rows, input.id = k ∧
          evening.roundItem m.roundId = some input.stageItemId := by decide
    obtain ⟨input, hinput, rfl, hitem⟩ := hall m hm side (by cases side <;> decide) k hk
    exact ⟨input, evening.stageItemInputs.find?_key hinput, hitem⟩
  once m hm m' hm' _ hround hne := by
    have hall : ∀ m ∈ evening.matches_.rows, ∀ m' ∈ evening.matches_.rows,
        m.roundId = m'.roundId → m.id = m'.id := by decide
    exact absurd (hall m hm m' hm' hround) hne

theorem evening_positive : PositiveTimes evening ⟨1, 0, 10, 5, .opened, true, none, 1, none⟩ :=
  ⟨by decide, by decide, by decide, by decide, by decide⟩

theorem evening_planned : Planned evening 1 := by
  intro tournament ht m hm _
  obtain rfl := Option.some.inj ht
  have hall : ∀ m ∈ evening.matches_.rows,
      ∃ t ∈ timetable eveningTournament (fullTournamentDetails evening 1 {}),
        t.matchId = m.id ∧ m.startTime = some t.startTime ∧
          m.durationMinutes = t.durationMinutes ∧ m.marginMinutes = t.marginMinutes := by decide
  obtain ⟨t, ht, hid, h1, h2, h3⟩ := hall m hm
  exact ⟨t, ht, hid, h1, h2, h3⟩

theorem evening_noConflicts :
    (∀ m ∈ tournamentMatches (fullTournamentDetails evening 1 {}),
      ∀ m' ∈ tournamentMatches (fullTournamentDetails evening 1 {}), m.id ≠ m'.id →
        ∀ side side' k, m.inputId side = some k → m'.inputId side' = some k →
          ∀ start start', m.startTime = some start → m'.startTime = some start' →
            m.endTime start ≤ start' ∨ m'.endTime start' ≤ start) ∧
    ∃ clear, getConflictingMatches (fullTournamentDetails evening 1 {}) = .ok (.empty, clear) ∧
      ∀ k, k ∈ clear ↔ ∃ m ∈ tournamentMatches (fullTournamentDetails evening 1 {}), m.id = k ∧
        ∀ side, (m.inputId side).isSome :=
  planned_noConflicts rfl evening_fair evening_positive evening_planned

end Brackets
