/-
  File:      Brackets/Planning/Matches.lean
  Subject:   `logic/planning/matches.py`: when every match of a tournament starts.

  `planMatchTimings` walks stages, stage items and rounds and assigns a timing to every match,
  unless its clock runs out of the calendar;
  `scheduleAllMatches` writes the timings that changed and then the conflict flags. It writes
  nothing else: `scheduleAllMatches_untimed`.
-/
import Brackets.Planning.Conflicts

namespace Brackets

open Library

structure MatchTiming where
  matchId : MatchId
  startTime : DateTime
  durationMinutes : Int
  marginMinutes : Int
  deriving DecidableEq, Repr

/-- A loop of the planner: the timings so far and the time the next round or stage starts. -/
abbrev Plan := List MatchTiming × DateTime

section Plan

variable (tournament : TournamentRow) (stageDurationMinutes : Int)

/-- The timing of one match of a round. -/
def matchTiming (roundStart : DateTime) (m : Match) : MatchTiming where
  matchId := m.id
  startTime := roundStart
  durationMinutes := m.customDurationMinutes.getD stageDurationMinutes
  marginMinutes := m.customMarginMinutes.getD tournament.marginMinutes

def planRound (plan : Plan) (round : RoundWithMatches) : Outcome Plan := do
  let timings := round.matches_.map (matchTiming tournament stageDurationMinutes plan.2)
  let roundMinutes := timings.foldl (fun n t => max n (t.durationMinutes + t.marginMinutes)) 0
  let roundStart ← addTimedelta plan.2 roundMinutes
  .ok (plan.1 ++ timings, roundStart)

/-- The rounds of a stage item, from the start of the stage: the timings and the item's end. -/
def planStageItem (stageStart : DateTime) (timings : List MatchTiming)
    (item : StageItemWithRounds) : Outcome Plan :=
  (item.rounds.insertionSort (·.id ≤ ·.id)).foldlM (planRound tournament stageDurationMinutes)
    (timings, stageStart)

end Plan

def planStage (tournament : TournamentRow) (plan : Plan) (stage : StageWithStageItems) :
    Outcome Plan :=
  let stageDurationMinutes := stage.customDurationMinutes.getD tournament.durationMinutes
  stage.stageItems.foldlM
    (fun p item => do
      let itemPlan ← planStageItem tournament stageDurationMinutes plan.2 p.1 item
      .ok (itemPlan.1, max p.2 itemPlan.2))
    plan

def planMatchTimings (stages : List StageWithStageItems) (tournament : TournamentRow) :
    Outcome (List MatchTiming) := do
  let plan ← (stages.insertionSort (·.id ≤ ·.id)).foldlM (planStage tournament)
    ([], tournament.startTime)
  .ok plan.1

def sqlUpdateMatchTimings (db : Database) (timings : List MatchTiming) : Database :=
  timings.foldl (fun db t =>
    { db with
      matches_ := db.matches_.update (fun m => m.id == t.matchId)
        (fun m => { m with
          startTime := some t.startTime
          durationMinutes := t.durationMinutes
          marginMinutes := t.marginMinutes })
        fun _ => rfl }) db

/-- The stored timing of the match differs from the planned one. -/
def timingChanged (matches_ : Dict MatchId Match) (t : MatchTiming) : Outcome Bool := do
  let m ← orRaise (matches_.get? t.matchId) (.crash .keyError)
  .ok ((m.startTime, m.durationMinutes, m.marginMinutes) !=
    (some t.startTime, t.durationMinutes, t.marginMinutes))

def scheduleAllMatches (db : Database) (tid : TournamentId) : Outcome Database := do
  let tournament ← sqlGetTournament db tid
  let stages ← getFullTournamentDetails db tid {}
  let matches_ : Dict MatchId Match := .ofList
    ((stages.flatMap fun s => s.stageItems.flatMap fun i => i.rounds.flatMap (·.matches_)).map
      fun m => (m.id, m))
  let timings ← planMatchTimings stages tournament
  let changedTimings ← timings.filterM (timingChanged matches_)
  if changedTimings.isEmpty then .ok db
  else
    let db := sqlUpdateMatchTimings db changedTimings
    let stages ← getFullTournamentDetails db tid {}
    handleConflicts db stages

theorem sqlUpdateMatchTimings_untimed (db : Database) (timings : List MatchTiming) :
    (sqlUpdateMatchTimings db timings).untimed = db.untimed := by
  refine foldl_project _ _ (fun db t => ?_) _ _
  simp only [Database.untimed]
  congr 1
  exact db.matches_.map_of_update fun _ => rfl

/-- **Planning writes times and conflict flags only.** -/
theorem scheduleAllMatches_untimed {db db' : Database} {tid : TournamentId}
    (h : scheduleAllMatches db tid = .ok db') : db'.untimed = db.untimed := by
  obtain ⟨tournament, _, h⟩ := bind_eq_ok.mp h
  obtain ⟨stages, _, h⟩ := bind_eq_ok.mp h
  obtain ⟨timings, _, h⟩ := bind_eq_ok.mp h
  obtain ⟨changed, _, h⟩ := bind_eq_ok.mp h
  split at h
  · cases h
    rfl
  · obtain ⟨_, _, h⟩ := bind_eq_ok.mp h
    rw [handleConflicts_untimed h, sqlUpdateMatchTimings_untimed]

theorem refusesNothing_addTimedelta (t : DateTime) (n : Int) : RefusesNothing (addTimedelta t n) := by
  unfold addTimedelta
  split
  · exact refusesNothing_ok _
  · exact refusesNothing_crash _

theorem planMatchTimings_refusesNothing (stages : List StageWithStageItems)
    (tournament : TournamentRow) : RefusesNothing (planMatchTimings stages tournament) := by
  have hround : ∀ n p r, RefusesNothing (planRound tournament n p r) := fun n p r =>
    (refusesNothing_addTimedelta _ _).bind fun _ => refusesNothing_ok _
  have hitem : ∀ n t out item, RefusesNothing (planStageItem tournament n t out item) :=
    fun n t out item => refusesNothing_foldlM (hround n) _ _
  have hstage : ∀ p s, RefusesNothing (planStage tournament p s) := fun p s =>
    refusesNothing_foldlM (fun _ _ => (hitem _ _ _ _).bind fun _ => refusesNothing_ok _) _ _
  exact (refusesNothing_foldlM hstage _ _).bind fun _ => refusesNothing_ok _

/-- Planning refuses nothing. -/
theorem scheduleAllMatches_refusesNothing (db : Database) (tid : TournamentId) :
    RefusesNothing (scheduleAllMatches db tid) := by
  have hload : ∀ (db : Database) (f : DetailsFilter),
      RefusesNothing (getFullTournamentDetails db tid f) := by
    intro db f
    unfold getFullTournamentDetails
    split
    · exact refusesNothing_ok _
    · exact refusesNothing_crash _
  have hconflicts : ∀ stages, RefusesNothing (getConflictingMatches stages) := by
    intro stages
    unfold getConflictingMatches
    dsimp only
    split
    · exact refusesNothing_crash _
    · exact refusesNothing_ok _
  have hchanged : ∀ d t, RefusesNothing (timingChanged d t) := fun d t =>
    (refusesNothing_orRaise _ _).bind fun _ => refusesNothing_ok _
  refine (refusesNothing_orRaise _ _).bind fun tournament => (hload _ _).bind fun stages => ?_
  refine (planMatchTimings_refusesNothing _ _).bind fun timings => ?_
  refine (refusesNothing_filterM (hchanged _) _).bind fun changed => ?_
  split
  · exact refusesNothing_ok _
  · exact (hload _ _).bind fun stages => (hconflicts stages).bind fun _ => refusesNothing_ok _

end Brackets
