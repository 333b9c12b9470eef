/-
  File:      Brackets/Planning/Timeline.lean
  Subject:   What the planner computes: one clock through the stages, one through the rounds of
             each stage item.

  `timetable_perm`: up to the order of the entries, the plan gives each match the start of
  its stage (`stageStart`) plus what the earlier rounds of its stage item take (`roundOffset`).
  From it `planMatchTimings_timeline`: the first stage starts with the tournament, the next one
  when the last stage item of the one before is over, nothing starts before what comes earlier
  has ended, and the order in which anything is listed plays no part (`Relisted`).
-/
import Mathlib.Algebra.Order.BigOperators.Group.List
import Mathlib.Algebra.Order.Monoid.Unbundled.MinMax
import Mathlib.Tactic.Linarith
import Brackets.Library.Clock
import Brackets.FullLoad
import Brackets.Planning.Matches

namespace Brackets

open Library

/-! ## 1. Lengths -/

theorem timedelta_nonneg {n : Int} (h : 0 ≤ n) : 0 ≤ timedelta n := by
  unfold timedelta
  omega

theorem timedelta_pos {n : Int} (h : 0 < n) : 0 < timedelta n := by
  unfold timedelta
  omega

theorem timedelta_mono {n n' : Int} (h : n ≤ n') : timedelta n ≤ timedelta n' := by
  unfold timedelta
  omega

def MatchTiming.endTime (t : MatchTiming) : DateTime :=
  t.startTime + timedelta (t.durationMinutes + t.marginMinutes)

section Lengths

variable (tournament : TournamentRow)

def stageDuration (stage : StageWithStageItems) : Int :=
  stage.customDurationMinutes.getD tournament.durationMinutes

/-- What a round takes: its longest match with the margin. -/
def roundLength (duration : Int) (round : RoundWithMatches) : Int :=
  timedelta (longest (round.matches_.map fun m =>
    m.customDurationMinutes.getD duration + m.customMarginMinutes.getD tournament.marginMinutes))

def itemLength (duration : Int) (item : StageItemWithRounds) : Int :=
  (item.rounds.map (roundLength tournament duration)).sum

/-- What a stage takes: its stage items are played in parallel. -/
def stageLength (stage : StageWithStageItems) : Int :=
  longest (stage.stageItems.map (itemLength tournament (stageDuration tournament stage)))

def stageStart (stages : List StageWithStageItems) (k : StageId) : DateTime :=
  tournament.startTime + lengthBefore (·.id) (stageLength tournament) stages k

/-- What the earlier rounds of the stage item take. -/
def roundOffset (duration : Int) (item : StageItemWithRounds) (k : RoundId) : Int :=
  lengthBefore (·.id) (roundLength tournament duration) item.rounds k

/-- The timing of a match at its place in the tournament. -/
def timingAt (stages : List StageWithStageItems) (stage : StageWithStageItems)
    (item : StageItemWithRounds) (round : RoundWithMatches) (m : Match) : MatchTiming :=
  matchTiming tournament (stageDuration tournament stage)
    (stageStart tournament stages stage.id +
      roundOffset tournament (stageDuration tournament stage) item round.id) m

theorem roundLength_nonneg (duration : Int) (round : RoundWithMatches) :
    0 ≤ roundLength tournament duration round := timedelta_nonneg (longest_nonneg _)

theorem itemLength_nonneg (duration : Int) (item : StageItemWithRounds) :
    0 ≤ itemLength tournament duration item := by
  refine List.sum_nonneg fun x hx => ?_
  obtain ⟨r, _, rfl⟩ := List.mem_map.mp hx
  exact roundLength_nonneg tournament duration r

theorem stageLength_nonneg (stage : StageWithStageItems) : 0 ≤ stageLength tournament stage :=
  longest_nonneg _

end Lengths

/-! ## 2. The loops of the planner -/

section Loops

variable (tournament : TournamentRow)

/-- The timings of a stage item that starts at a time. -/
def itemTimings (duration : Int) (start : DateTime) (item : StageItemWithRounds) :
    List MatchTiming :=
  clock (fun t (r : RoundWithMatches) => r.matches_.map (matchTiming tournament duration t))
    (roundLength tournament duration) start (item.rounds.insertionSort (·.id ≤ ·.id))

theorem planRound_cases (duration : Int) (plan : Plan) (round : RoundWithMatches) :
    planRound tournament duration plan round =
      if plan.2 + roundLength tournament duration round ≤ datetimeMax then
        .ok (plan.1 ++ round.matches_.map (matchTiming tournament duration plan.2),
          plan.2 + roundLength tournament duration round)
      else .error (.crash .overflowError) := by
  have hlength : timedelta ((round.matches_.map (matchTiming tournament duration plan.2)).foldl
      (fun n t => max n (t.durationMinutes + t.marginMinutes)) 0) =
        roundLength tournament duration round := by
    unfold roundLength longest
    rw [List.foldl_map, List.foldl_map]
    rfl
  unfold planRound addTimedelta
  dsimp only
  rw [hlength]
  split <;> rfl

/-- The rounds of a stage item that starts at a time end before the calendar does. -/
def ItemFits (duration : Int) (start : DateTime) (item : StageItemWithRounds) : Prop :=
  ∀ x ∈ starts (roundLength tournament duration) start (item.rounds.insertionSort (·.id ≤ ·.id)),
    x.1 + roundLength tournament duration x.2 ≤ datetimeMax

theorem planStageItem_cases (duration : Int) (start : DateTime) (timings : List MatchTiming)
    (item : StageItemWithRounds) :
    (ItemFits tournament duration start item →
      planStageItem tournament duration start timings item =
        .ok (timings ++ itemTimings tournament duration start item,
          start + itemLength tournament duration item)) ∧
    (¬ ItemFits tournament duration start item →
      planStageItem tournament duration start timings item = .error (.crash .overflowError)) := by
  have hlength : itemLength tournament duration item =
      ((item.rounds.insertionSort (·.id ≤ ·.id)).map (roundLength tournament duration)).sum := by
    unfold itemLength
    rw [((List.perm_insertionSort (·.id ≤ ·.id) item.rounds).map _).sum_eq]
  rw [hlength]
  exact @foldlM_clock _ _
    (fun t (r : RoundWithMatches) => r.matches_.map (matchTiming tournament duration t))
    (roundLength tournament duration) _
    (fun t r => t + roundLength tournament duration r ≤ datetimeMax) _ _
    (fun p r h => (planRound_cases tournament duration p r).trans (if_pos h))
    (fun p r h => (planRound_cases tournament duration p r).trans (if_neg h)) _ _ _

/-- The timings of a stage that starts at a time. -/
def stageTimings (start : DateTime) (stage : StageWithStageItems) : List MatchTiming :=
  stage.stageItems.flatMap (itemTimings tournament (stageDuration tournament stage) start)

theorem planStage_cases (plan : Plan) (stage : StageWithStageItems) :
    ((∀ item ∈ stage.stageItems, ItemFits tournament (stageDuration tournament stage) plan.2 item) →
      planStage tournament plan stage = .ok (plan.1 ++ stageTimings tournament plan.2 stage,
        plan.2 + stageLength tournament stage)) ∧
    (¬ (∀ item ∈ stage.stageItems,
        ItemFits tournament (stageDuration tournament stage) plan.2 item) →
      planStage tournament plan stage = .error (.crash .overflowError)) := by
  have run : ∀ (items : List StageItemWithRounds) (out : List MatchTiming) (len : Int),
      ((∀ item ∈ items, ItemFits tournament (stageDuration tournament stage) plan.2 item) →
        items.foldlM (fun (p : Plan) item => do
          let itemPlan ← planStageItem tournament (stageDuration tournament stage) plan.2 p.1 item
          (.ok (itemPlan.1, max p.2 itemPlan.2) : Outcome Plan)) (out, plan.2 + len) =
        .ok (out ++ items.flatMap
            (itemTimings tournament (stageDuration tournament stage) plan.2),
          plan.2 + (items.map (itemLength tournament (stageDuration tournament stage))).foldl max
            len)) ∧
      (¬ (∀ item ∈ items, ItemFits tournament (stageDuration tournament stage) plan.2 item) →
        items.foldlM (fun (p : Plan) item => do
          let itemPlan ← planStageItem tournament (stageDuration tournament stage) plan.2 p.1 item
          (.ok (itemPlan.1, max p.2 itemPlan.2) : Outcome Plan)) (out, plan.2 + len) =
        .error (.crash .overflowError)) := by
    intro items
    induction items with
    | nil =>
      intro out len
      rw [List.flatMap_nil, List.append_nil]
      exact ⟨fun _ => rfl, fun h => absurd (fun x hx => nomatch hx) h⟩
    | cons item items ih =>
      intro out len
      obtain ⟨hfits, hfails⟩ :=
        planStageItem_cases tournament (stageDuration tournament stage) plan.2 out item
      rw [List.forall_mem_cons, List.foldlM_cons]
      by_cases hitem : ItemFits tournament (stageDuration tournament stage) plan.2 item
      · rw [hfits hitem, ok_bind, ok_bind, and_iff_right hitem, max_add_add_left, List.flatMap_cons,
          ← List.append_assoc, List.map_cons, List.foldl_cons]
        exact ih _ _
      · rw [hfails hitem]
        exact ⟨fun h => absurd h.1 hitem, fun _ => rfl⟩
  have hall := run stage.stageItems plan.1 0
  rw [Int.add_zero] at hall
  exact hall

/-- The timings that the planner gives, stage by stage. -/
def timetable (stages : List StageWithStageItems) : List MatchTiming :=
  clock (stageTimings tournament) (stageLength tournament) tournament.startTime
    (stages.insertionSort (·.id ≤ ·.id))

/-- Every round ends before the calendar does. -/
def FitsCalendar (stages : List StageWithStageItems) : Prop :=
  ∀ stage ∈ stages, ∀ item ∈ stage.stageItems, ∀ round ∈ item.rounds,
    stageStart tournament stages stage.id +
        roundOffset tournament (stageDuration tournament stage) item round.id +
      roundLength tournament (stageDuration tournament stage) round ≤ datetimeMax

instance (stages : List StageWithStageItems) : Decidable (FitsCalendar tournament stages) :=
  inferInstanceAs (Decidable (∀ stage ∈ stages, ∀ item ∈ stage.stageItems,
    ∀ round ∈ item.rounds, _))

/-- **The planner returns the timetable, or its clock runs out of the calendar.** -/
theorem planMatchTimings_cases {stages : List StageWithStageItems} (hD : DistinctIds stages) :
    planMatchTimings stages tournament =
      if FitsCalendar tournament stages then .ok (timetable tournament stages)
      else .error (.crash .overflowError) := by
  have hfits : (∀ x ∈ starts (stageLength tournament) tournament.startTime
      (stages.insertionSort (·.id ≤ ·.id)), ∀ item ∈ x.2.stageItems,
        ItemFits tournament (stageDuration tournament x.2) x.1 item) ↔
      FitsCalendar tournament stages := by
    refine (@forall_starts_sorted _ (·.id) (stageLength tournament) stages hD.stageIds
      tournament.startTime (fun t stage => ∀ item ∈ stage.stageItems,
        ItemFits tournament (stageDuration tournament stage) t item)).trans ?_
    refine forall₂_congr fun stage hstage => forall₂_congr fun item hitem => ?_
    exact @forall_starts_sorted _ (·.id) (roundLength tournament (stageDuration tournament stage))
      item.rounds (hD.roundIds stage hstage item hitem) _
      (fun t round => t + roundLength tournament (stageDuration tournament stage) round ≤ datetimeMax)
  obtain ⟨hreturns, hfails⟩ := @foldlM_clock _ _ (stageTimings tournament) (stageLength tournament) _
    (fun t stage => ∀ item ∈ stage.stageItems,
      ItemFits tournament (stageDuration tournament stage) t item) _ _
    (fun p stage => (planStage_cases tournament p stage).1)
    (fun p stage => (planStage_cases tournament p stage).2)
    (stages.insertionSort (·.id ≤ ·.id)) [] tournament.startTime
  rw [hfits] at hreturns hfails
  unfold planMatchTimings
  split
  · next h => rw [hreturns h, ok_bind, List.nil_append]; rfl
  · next h => rw [hfails h]; rfl

/-- What the planner returns is the timetable. -/
theorem planMatchTimings_ok {tournament : TournamentRow} {stages : List StageWithStageItems} (hD : DistinctIds stages)
    {timings : List MatchTiming} (h : planMatchTimings stages tournament = .ok timings) :
    timings = timetable tournament stages := by
  rw [planMatchTimings_cases tournament hD] at h
  split at h
  · exact (Except.ok.inj h).symm
  · cases h

end Loops

/-! ## 3. The plan -/

/-- Every match with its timing. -/
def timeline (tournament : TournamentRow) (stages : List StageWithStageItems) : List MatchTiming :=
  stages.flatMap fun s => s.stageItems.flatMap fun i => i.rounds.flatMap fun r =>
    r.matches_.map (timingAt tournament stages s i r)

theorem timeline_ids (tournament : TournamentRow) (stages : List StageWithStageItems) :
    (timeline tournament stages).map (·.matchId) = (tournamentMatches stages).map (·.id) := by
  unfold timeline tournamentMatches
  simp only [List.map_flatMap, List.map_map]
  rfl

/-- **The timetable is the timeline**, up to the order of the entries. -/
theorem timetable_perm (tournament : TournamentRow) {stages : List StageWithStageItems}
    (hD : DistinctIds stages) :
    (timetable tournament stages).Perm (timeline tournament stages) := by
  refine (clock_sorted (·.id) (stageLength tournament) hD.stageIds tournament.startTime).trans ?_
  refine List.Perm.flatMap_left _ fun s hs => List.Perm.flatMap_left _ fun i hi => ?_
  exact clock_sorted (·.id) (roundLength tournament (stageDuration tournament s))
    (hD.roundIds s hs i hi) _

section Plan

variable {tournament : TournamentRow} {stages : List StageWithStageItems}

theorem mem_timeline {t : MatchTiming} : t ∈ timeline tournament stages ↔
    ∃ s i r m, Located stages s i r m ∧ timingAt tournament stages s i r m = t := by
  simp only [timeline, List.mem_flatMap, List.mem_map]
  constructor
  · rintro ⟨s, hs, i, hi, r, hr, m, hm, rfl⟩
    exact ⟨s, i, r, m, ⟨hs, hi, hr, hm⟩, rfl⟩
  · rintro ⟨s, i, r, m, ⟨hs, hi, hr, hm⟩, rfl⟩
    exact ⟨s, hs, i, hi, r, hr, m, hm, rfl⟩

variable (tournament)

/-- The one timing of a match is the one at its place. -/
theorem timing_of_located (hD : DistinctIds stages) {s : StageWithStageItems}
    {i : StageItemWithRounds} {r : RoundWithMatches} {m : Match} (hL : Located stages s i r m)
    {t : MatchTiming} (ht : t ∈ timetable tournament stages) (hid : t.matchId = m.id) :
    t = timingAt tournament stages s i r m := by
  have hnodup : ((timeline tournament stages).map (·.matchId)).Nodup :=
    timeline_ids tournament stages ▸ hD.matchIds
  exact List.inj_on_of_nodup_map hnodup ((timetable_perm tournament hD).mem_iff.mp ht)
    (mem_timeline.mpr ⟨s, i, r, m, hL, rfl⟩) hid

/-- A match is over when the clock of its stage item has passed its round. -/
theorem timingAt_endTime_le {s : StageWithStageItems} {i : StageItemWithRounds}
    {r : RoundWithMatches} {m : Match} (hL : Located stages s i r m) :
    (timingAt tournament stages s i r m).endTime ≤
      (timingAt tournament stages s i r m).startTime +
        roundLength tournament (stageDuration tournament s) r := by
  refine Int.add_le_add_left (timedelta_mono (le_longest ?_)) _
  exact List.mem_map_of_mem (f := fun m : Match =>
    m.customDurationMinutes.getD (stageDuration tournament s) +
      m.customMarginMinutes.getD tournament.marginMinutes) hL.inRound

/-- Within a stage item a match is over when a later round starts. -/
theorem endTime_le_of_round {s : StageWithStageItems} {i : StageItemWithRounds}
    {r r' : RoundWithMatches} {m m' : Match} (hL : Located stages s i r m) (h : r.id < r'.id) :
    (timingAt tournament stages s i r m).endTime ≤
      (timingAt tournament stages s i r' m').startTime := by
  have hround := lengthBefore_add_le (·.id) (roundLength tournament (stageDuration tournament s))
    (fun r _ => roundLength_nonneg tournament _ r) hL.inItem h
  have hend := timingAt_endTime_le tournament hL
  simp only [timingAt, matchTiming, roundOffset] at hround hend ⊢
  linarith

/-- Within a stage item a match is over when all rounds are. -/
theorem endTime_le_of_item {s : StageWithStageItems} {i : StageItemWithRounds}
    {r : RoundWithMatches} {m : Match} (hL : Located stages s i r m) :
    (timingAt tournament stages s i r m).endTime ≤ stageStart tournament stages s.id +
      itemLength tournament (stageDuration tournament s) i := by
  have hround := lengthBefore_add_le_sum (·.id)
    (roundLength tournament (stageDuration tournament s))
    (fun r _ => roundLength_nonneg tournament _ r) hL.inItem
  have hend := timingAt_endTime_le tournament hL
  simp only [timingAt, matchTiming, roundOffset, itemLength] at hround hend ⊢
  linarith

/-- A match is over when a later stage starts. -/
theorem endTime_le_of_stage {s s' : StageWithStageItems}
    {i i' : StageItemWithRounds} {r r' : RoundWithMatches} {m m' : Match}
    (hL : Located stages s i r m) (h : s.id < s'.id) :
    (timingAt tournament stages s i r m).endTime ≤
      (timingAt tournament stages s' i' r' m').startTime := by
  have hstage := lengthBefore_add_le (·.id) (stageLength tournament)
    (fun s _ => stageLength_nonneg tournament s) hL.inStages h
  have hitem : itemLength tournament (stageDuration tournament s) i ≤ stageLength tournament s :=
    le_longest (List.mem_map_of_mem hL.inStage)
  have hend := endTime_le_of_item tournament hL
  have hoffset := lengthBefore_nonneg (·.id) (l := i'.rounds)
    (roundLength tournament (stageDuration tournament s'))
    (fun r _ => roundLength_nonneg tournament _ r) r'.id
  simp only [timingAt, matchTiming, stageStart, roundOffset] at hstage hend hoffset ⊢
  linarith

end Plan

/-! ## 4. Another order -/

structure RoundRelisted (r r' : RoundWithMatches) : Prop where
  row : r.toRoundRow = r'.toRoundRow
  matches_ : r.matches_.Perm r'.matches_

structure ItemRelisted (i i' : StageItemWithRounds) : Prop where
  row : i.toStageItemRow = i'.toStageItemRow
  inputs : i.inputs.Perm i'.inputs
  rounds : PermUpTo RoundRelisted i.rounds i'.rounds

structure StageRelisted (s s' : StageWithStageItems) : Prop where
  row : s.toStageRow = s'.toStageRow
  stageItems : PermUpTo ItemRelisted s.stageItems s'.stageItems

/-- The same tournament, with stages, stage items, rounds and matches listed in another order. -/
def Relisted (stages stages' : List StageWithStageItems) : Prop :=
  PermUpTo StageRelisted stages stages'

section Relisted

variable (tournament : TournamentRow)

theorem RoundRelisted.id {r r' : RoundWithMatches} (h : RoundRelisted r r') : r.id = r'.id :=
  congrArg RoundRow.id h.row

theorem RoundRelisted.length {r r' : RoundWithMatches} (h : RoundRelisted r r') (duration : Int) :
    roundLength tournament duration r = roundLength tournament duration r' :=
  congrArg timedelta (longest_perm (h.matches_.map _))

theorem ItemRelisted.length {i i' : StageItemWithRounds} (h : ItemRelisted i i')
    (duration : Int) : itemLength tournament duration i = itemLength tournament duration i' :=
  (h.rounds.map fun _ _ h => h.length tournament duration).sum_eq

theorem ItemRelisted.offset {i i' : StageItemWithRounds} (h : ItemRelisted i i')
    (duration : Int) (k : RoundId) :
    roundOffset tournament duration i k = roundOffset tournament duration i' k :=
  h.rounds.lengthBefore (fun _ _ h => ⟨h.id, h.length tournament duration⟩) k

theorem StageRelisted.duration {s s' : StageWithStageItems} (h : StageRelisted s s') :
    stageDuration tournament s = stageDuration tournament s' := by
  have hrow : s.customDurationMinutes = s'.customDurationMinutes :=
    congrArg StageRow.customDurationMinutes h.row
  rw [stageDuration, stageDuration, hrow]

theorem StageRelisted.length {s s' : StageWithStageItems} (h : StageRelisted s s') :
    stageLength tournament s = stageLength tournament s' := by
  rw [stageLength, stageLength, h.duration tournament]
  exact longest_perm (h.stageItems.map fun _ _ h => h.length tournament _)

variable {stages stages' : List StageWithStageItems}

theorem Relisted.start (h : Relisted stages stages') (k : StageId) :
    stageStart tournament stages k = stageStart tournament stages' k :=
  congrArg (tournament.startTime + ·) (h.lengthBefore
    (fun _ _ h => ⟨congrArg StageRow.id h.row, h.length tournament⟩) k)

theorem Relisted.timeline (h : Relisted stages stages') :
    (timeline tournament stages).Perm (timeline tournament stages') := by
  refine h.flatMap fun s s' hs => hs.stageItems.flatMap fun i i' hi => ?_
  refine hi.rounds.flatMap fun r r' hr => ?_
  have hid : s.id = s'.id := congrArg StageRow.id hs.row
  have htiming : timingAt tournament stages s i r = timingAt tournament stages' s' i' r' := by
    unfold timingAt
    rw [h.start tournament, hs.duration tournament, hi.offset tournament, hid, hr.id]
  rw [htiming]
  exact hr.matches_.map _

theorem Relisted.fitsCalendar (h : Relisted stages stages') :
    FitsCalendar tournament stages ↔ FitsCalendar tournament stages' := by
  refine h.forall_iff fun s s' hs => hs.stageItems.forall_iff fun i i' hi =>
    hi.rounds.forall_iff fun r r' hr => ?_
  have hid : s.id = s'.id := congrArg StageRow.id hs.row
  rw [h.start tournament, hs.duration tournament, hi.offset tournament, hr.length tournament, hid,
    hr.id]

theorem Relisted.distinctIds (h : Relisted stages stages') (hD : DistinctIds stages) :
    DistinctIds stages' where
  stageIds := (h.map fun _ _ hs => congrArg StageRow.id hs.row).nodup_iff.mp hD.stageIds
  roundIds s' hs' i' hi' := by
    obtain ⟨s, hs, hss⟩ := h.exists_of_mem hs'
    obtain ⟨i, hi, hii⟩ := hss.stageItems.exists_of_mem hi'
    exact (hii.rounds.map fun _ _ hr => hr.id).nodup_iff.mp (hD.roundIds s hs i hi)
  matchIds := by
    have hperm : (tournamentMatches stages).Perm (tournamentMatches stages') :=
      h.flatMap fun _ _ hs => hs.stageItems.flatMap fun _ _ hi =>
        hi.rounds.flatMap fun _ _ hr => hr.matches_
    exact (hperm.map _).nodup_iff.mp hD.matchIds

end Relisted

/-! ## 5. What the planner promises -/

/-- A plan in which stage `k` starts at `start k`. -/
structure IsTimeline (tournament : TournamentRow) (stages : List StageWithStageItems)
    (start : StageId → DateTime) (timings : List MatchTiming) : Prop where
  once : (timings.map (·.matchId)).Nodup
  allMatches : ∀ k, k ∈ timings.map (·.matchId) ↔ k ∈ (tournamentMatches stages).map (·.id)
  firstStage : ∀ s ∈ stages, (∀ s' ∈ stages, s.id ≤ s'.id) → start s.id = tournament.startTime
  nextStage : ∀ s ∈ stages, ∀ s' ∈ stages, s.id < s'.id →
    (∀ u ∈ stages, s.id < u.id → s'.id ≤ u.id) →
      (∀ i ∈ s.stageItems,
        start s.id + itemLength tournament (stageDuration tournament s) i ≤ start s'.id) ∧
      (s.stageItems = [] ∧ start s'.id = start s.id ∨ ∃ i ∈ s.stageItems,
        start s'.id = start s.id + itemLength tournament (stageDuration tournament s) i)
  timing : ∀ s i r m, Located stages s i r m → ∀ t ∈ timings, t.matchId = m.id →
    t = matchTiming tournament (stageDuration tournament s)
      (start s.id + roundOffset tournament (stageDuration tournament s) i r.id) m
  afterRound : ∀ s i r r' m m', Located stages s i r m → Located stages s i r' m' → r.id < r'.id →
    ∀ t ∈ timings, ∀ t' ∈ timings, t.matchId = m.id → t'.matchId = m'.id →
      t.endTime ≤ t'.startTime
  afterStage : ∀ s s' i i' r r' m m', Located stages s i r m → Located stages s' i' r' m' →
    s.id < s'.id → ∀ t ∈ timings, ∀ t' ∈ timings, t.matchId = m.id → t'.matchId = m'.id →
      t.endTime ≤ t'.startTime
  together : ∀ s i r m m', Located stages s i r m → Located stages s i r m' →
    ∀ t ∈ timings, ∀ t' ∈ timings, t.matchId = m.id → t'.matchId = m'.id →
      t.startTime = t'.startTime

theorem stageStart_next (tournament : TournamentRow) {stages : List StageWithStageItems}
    (hD : DistinctIds stages) {s s' : StageWithStageItems} (hs : s ∈ stages) (hlt : s.id < s'.id)
    (hnext : ∀ u ∈ stages, s.id < u.id → s'.id ≤ u.id) :
    stageStart tournament stages s'.id =
      stageStart tournament stages s.id + stageLength tournament s := by
  rw [stageStart, stageStart, lengthBefore_next (·.id) _ hD.stageIds hs hlt hnext, Int.add_assoc]

/-- A stage takes as long as one of its stage items. -/
theorem stageLength_cases (tournament : TournamentRow) (s : StageWithStageItems) (start : DateTime) :
    s.stageItems = [] ∧ start + stageLength tournament s = start ∨
      ∃ i ∈ s.stageItems, start + stageLength tournament s =
        start + itemLength tournament (stageDuration tournament s) i := by
  have hn : ∀ x ∈ s.stageItems.map (itemLength tournament (stageDuration tournament s)), 0 ≤ x := by
    intro x hx
    obtain ⟨i, _, rfl⟩ := List.mem_map.mp hx
    exact itemLength_nonneg tournament _ i
  rcases longest_mem hn with ⟨hnil, h0⟩ | hmem
  · rw [stageLength, h0, Int.add_zero]
    exact Or.inl ⟨List.map_eq_nil_iff.mp hnil, rfl⟩
  · obtain ⟨i, hi, e⟩ := List.mem_map.mp hmem
    exact Or.inr ⟨i, hi, by rw [stageLength, e]⟩

/-- The timetable keeps one timeline. -/
theorem timetable_isTimeline (tournament : TournamentRow) {stages : List StageWithStageItems}
    (hD : DistinctIds stages) : IsTimeline tournament stages (stageStart tournament stages)
      (timetable tournament stages) := by
  have hids : ((timetable tournament stages).map (·.matchId)).Perm
      ((tournamentMatches stages).map (·.id)) :=
    timeline_ids tournament stages ▸ (timetable_perm tournament hD).map _
  have hat : ∀ s i r m, Located stages s i r m → ∀ t ∈ timetable tournament stages,
      t.matchId = m.id → t = timingAt tournament stages s i r m :=
    fun s i r m hL t ht hid => timing_of_located tournament hD hL ht hid
  exact {
    once := hids.nodup_iff.mpr hD.matchIds
    allMatches := fun k => hids.mem_iff
    firstStage := fun s _ hfirst => by
      rw [stageStart, lengthBefore_first _ _ hfirst, Int.add_zero]
    nextStage := fun s hs s' _ hlt hnext => by
      rw [stageStart_next tournament hD hs hlt hnext]
      refine ⟨fun i hi => Int.add_le_add_left (le_longest (List.mem_map_of_mem hi)) _, ?_⟩
      exact stageLength_cases tournament s _
    timing := hat
    afterRound := fun s i r r' m m' hL hL' hlt t ht t' ht' hid hid' => by
      rw [hat s i r m hL t ht hid, hat s i r' m' hL' t' ht' hid']
      exact endTime_le_of_round tournament hL hlt
    afterStage := fun s s' i i' r r' m m' hL hL' hlt t ht t' ht' hid hid' => by
      rw [hat s i r m hL t ht hid, hat s' i' r' m' hL' t' ht' hid']
      exact endTime_le_of_stage tournament hL hlt
    together := fun s i r m m' hL hL' t ht t' ht' hid hid' => by
      rw [hat s i r m hL t ht hid, hat s i r m' hL' t' ht' hid']
      rfl }

/-- **The planner keeps one timeline**, whatever the order in which the tournament is listed, or it
    fails in every order: exactly if a round would end after `datetime.max`. -/
theorem planMatchTimings_timeline (tournament : TournamentRow) {stages : List StageWithStageItems}
    (hD : DistinctIds stages) :
    (FitsCalendar tournament stages → ∃ timings, planMatchTimings stages tournament = .ok timings ∧
      (∃ start, IsTimeline tournament stages start timings) ∧
      ∀ stages', Relisted stages stages' → ∃ timings',
        planMatchTimings stages' tournament = .ok timings' ∧ timings'.Perm timings) ∧
    (¬ FitsCalendar tournament stages →
      planMatchTimings stages tournament = .error (.crash .overflowError) ∧
      ∀ stages', Relisted stages stages' →
        planMatchTimings stages' tournament = .error (.crash .overflowError)) := by
  have hplan := fun stages' (h : Relisted stages stages') =>
    planMatchTimings_cases tournament (h.distinctIds hD)
  constructor
  · intro hfits
    refine ⟨_, (planMatchTimings_cases tournament hD).trans (if_pos hfits),
      ⟨_, timetable_isTimeline tournament hD⟩, fun stages' h => ?_⟩
    refine ⟨_, (hplan stages' h).trans (if_pos ((h.fitsCalendar tournament).mp hfits)), ?_⟩
    exact (timetable_perm tournament (h.distinctIds hD)).trans
      ((h.timeline tournament).symm.trans (timetable_perm tournament hD).symm)
  · intro hover
    refine ⟨(planMatchTimings_cases tournament hD).trans (if_neg hover), fun stages' h => ?_⟩
    exact (hplan stages' h).trans (if_neg fun hfits => hover ((h.fitsCalendar tournament).mpr hfits))

/-! ### An evening of two rounds -/

def eveningItem : StageItemRow := ⟨1, "Evening", 1, 3, 1, .roundRobin⟩

/-- A match of the evening that starts after some quarters of an hour. -/
def eveningMatch (k quarters r input1 input2 : Int) : MatchRow :=
  ⟨k, some (quarters * 900000000), 10, 5, none, none, r, some input1, some input2, false, false,
    none, none, 0, 0⟩

/-- Three inputs, of which the first plays in both rounds. -/
def evening : Database :=
  { Database.empty with
    tournaments := oneTournament
    stages := oneStage
    stageItems := ⟨[eveningItem], 2, by decide, by decide⟩
    stageItemInputs := ⟨[⟨1, 1, 1, 1, none, none, none, 0, 0, 0, 0⟩,
      ⟨2, 2, 1, 1, none, none, none, 0, 0, 0, 0⟩, ⟨3, 3, 1, 1, none, none, none, 0, 0, 0, 0⟩], 4,
      by decide, by decide⟩
    rounds := twoRounds
    matches_ := ⟨[eveningMatch 1 0 1 1 2, eveningMatch 2 1 2 1 3], 3, by decide, by decide⟩ }

def eveningTournament : TournamentRow := ⟨1, 0, 10, 5, .opened, true, none, 1, none⟩

theorem evening_distinctIds : DistinctIds (fullTournamentDetails evening 1 {}) :=
  fullTournamentDetails_distinctIds ⟨rfl, rfl⟩

theorem evening_timeline : ∃ timings,
    planMatchTimings (fullTournamentDetails evening 1 {}) eveningTournament = .ok timings ∧
    timings.map (fun t => (t.matchId, t.startTime)) = [(1, 0), (2, 900000000)] ∧
    (∃ start, IsTimeline eveningTournament (fullTournamentDetails evening 1 {}) start timings) ∧
    ∀ stages', Relisted (fullTournamentDetails evening 1 {}) stages' → ∃ timings',
      planMatchTimings stages' eveningTournament = .ok timings' ∧ timings'.Perm timings := by
  obtain ⟨timings, hplan, hrest⟩ :=
    (planMatchTimings_timeline eveningTournament evening_distinctIds).1 (by decide)
  have hstarts : (planMatchTimings (fullTournamentDetails evening 1 {}) eveningTournament).map
      (fun timings => timings.map fun t => (t.matchId, t.startTime)) =
        .ok [(1, 0), (2, 900000000)] := by decide +kernel
  rw [hplan] at hstarts
  exact ⟨timings, hplan, Except.ok.inj hstarts, hrest⟩

/-- The same evening, ten minutes before the end of the calendar. -/
def lastEvening : TournamentRow := { eveningTournament with startTime := datetimeMax + 1 - 600000000 }

/-- **The last evening has no plan.** -/
theorem lastEvening_overflows : DistinctIds (fullTournamentDetails evening 1 {}) ∧
    lastEvening.startTime ≤ datetimeMax ∧ lastEvening.durationMinutes = 10 ∧
    lastEvening.marginMinutes = 5 ∧
    planMatchTimings (fullTournamentDetails evening 1 {}) lastEvening =
      .error (.crash .overflowError) :=
  ⟨evening_distinctIds, by decide, rfl, rfl, by decide +kernel⟩

end Brackets
