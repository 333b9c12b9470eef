/-
  File:      Brackets/Planning/Conflicts.lean
  Subject:   `logic/planning/conflicts.py`: the conflict flags of the matches.

  `getConflictingMatches` compares every two definitive matches in the order they are listed and
  returns the flags to set and the matches to clear; its final assertion is a failure of the
  model. `handleConflicts` writes the flags and nothing else: `handleConflicts_untimed`.
-/
import Brackets.Library.Dict
import Brackets.Library.Pairs
import Brackets.Details

namespace Brackets

open Library

/-- `end_time`; the property asserts a start time. -/
def Match.endTime (m : Match) (startTime : DateTime) : DateTime :=
  startTime + timedelta (m.durationMinutes + m.marginMinutes)

def matchesOverlap (match1 match2 : Match) : Bool :=
  match match1.startTime, match2.startTime with
  | some start1, some start2 =>
    let end1 := match1.endTime start1
    let end2 := match2.endTime start2
    !((end1 < end2 && start1 < start2) || (start1 > start2 || end1 > end2))
  | _, _ => false

/-- `conflicts_to_set` and `matches_with_conflicts`. -/
structure Conflicts where
  toSet : Dict MatchId (Bool × Bool)
  matchesWithConflicts : List MatchId

/-- Mark the slots of a match that hold a conflicting input. -/
def markConflicts (inputIds : List (Option StageItemInputId))
    (toSet : Dict MatchId (Bool × Bool)) (m : Match) : Dict MatchId (Bool × Bool) :=
  let flags := toSet.getD m.id (false, false)
  toSet.set m.id
    (flags.1 || inputIds.contains m.stageItemInput1Id,
      flags.2 || inputIds.contains m.stageItemInput2Id)

/-- The body of the inner loop. -/
def compareMatches (conflicts : Conflicts) (pair : Match × Match) : Conflicts :=
  let (match1, match2) := pair
  if match1.id == match2.id then conflicts
  else
    let inputIds1 := [match1.stageItemInput1Id, match1.stageItemInput2Id]
    let conflictingInputIds :=
      [match2.stageItemInput1Id, match2.stageItemInput2Id].filter (inputIds1.contains ·)
    if conflictingInputIds.isEmpty then conflicts
    else if matchesOverlap match1 match2 then
      { toSet := [match1, match2].foldl (markConflicts conflictingInputIds) conflicts.toSet
        matchesWithConflicts := conflicts.matchesWithConflicts ++ [match1.id, match2.id] }
    else conflicts

def definitiveMatches (stages : List StageWithStageItems) : List Match :=
  (stages.flatMap fun s => s.stageItems.flatMap fun i => i.rounds.flatMap (·.matches_)).filter
    (·.isDefinitive)

def getConflictingMatches (stages : List StageWithStageItems) :
    Outcome (Dict MatchId (Bool × Bool) × List MatchId) :=
  let matches_ := definitiveMatches stages
  let conflicts := (pairsInOrder matches_).foldl compareMatches ⟨.empty, []⟩
  let conflictsToClear := (matches_.map (·.id)).filter
    (!conflicts.matchesWithConflicts.contains ·)
  if conflicts.toSet.keys.any (conflictsToClear.contains ·) then .error (.crash .assertionError)
  else .ok (conflicts.toSet, conflictsToClear)

/-- The statement that writes both flags of one match. -/
def sqlSetConflict (db : Database) (k : MatchId) (flags : Bool × Bool) : Database :=
  { db with
    matches_ := db.matches_.update (fun m => m.id == k)
      (fun m => { m with stageItemInput1Conflict := flags.1, stageItemInput2Conflict := flags.2 })
      fun _ => rfl }

def setConflicts (db : Database) (conflictsToSet : Dict MatchId (Bool × Bool))
    (conflictsToClear : List MatchId) : Database :=
  let db := conflictsToSet.entries.foldl (fun db e => sqlSetConflict db e.1 e.2) db
  conflictsToClear.foldl (fun db k => sqlSetConflict db k (false, false)) db

def handleConflicts (db : Database) (stages : List StageWithStageItems) : Outcome Database := do
  let (conflictsToSet, conflictsToClear) ← getConflictingMatches stages
  .ok (setConflicts db conflictsToSet conflictsToClear)

/-! ## What planning leaves alone -/

/-- The database without what planning writes. -/
def Database.untimed (db : Database) : Database :=
  { db with matches_ := db.matches_.map MatchRow.untimed MatchRow.key_untimed }

theorem sqlSetConflict_untimed (db : Database) (k : MatchId) (flags : Bool × Bool) :
    (sqlSetConflict db k flags).untimed = db.untimed := by
  simp only [Database.untimed, sqlSetConflict]
  congr 1
  exact db.matches_.map_of_update fun _ => rfl

theorem handleConflicts_untimed {db db' : Database} {stages : List StageWithStageItems}
    (h : handleConflicts db stages = .ok db') : db'.untimed = db.untimed := by
  obtain ⟨_, _, h⟩ := bind_eq_ok.mp h
  cases h
  exact (foldl_project _ _ (fun db k => sqlSetConflict_untimed db k _) _ _).trans
    (foldl_project Database.untimed (fun db (e : MatchId × Bool × Bool) => sqlSetConflict db e.1 e.2)
      (fun db e => sqlSetConflict_untimed db e.1 e.2) _ _)

end Brackets
