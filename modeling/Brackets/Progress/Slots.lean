/-
  File:      Brackets/Progress/Slots.lean
  Subject:   The slots of a stage item.

  Every stage item is created with the slots 1 to `team_count`. Slots are filled, cleared and
  sourced, but only two requests delete them: the deletion of their stage item and the deletion
  of a stage item that they take a team from. `slotted_of_spares` is the invariant while nobody
  makes a request of the second kind; `groupDeleted_short` is a bracket that lost a slot to one.
-/
import Brackets.Progress.Effects

namespace Brackets

open Library

/-! ## 1. The slots -/

/-- The slot numbers of a stage item, in the order of its inputs. -/
def slotNumbers (inputs : Table StageItemInputRow) (k : StageItemId) : List Int :=
  (inputs.rows.filter (·.stageItemId == k)).map (·.slot)

/-- The numbers 1 to `n`. -/
def slotRange (n : Nat) : List Int := (List.range n).map fun (i : Nat) => (i : Int) + 1

/-- Every stage item has each of its slots once and no others. -/
def SlotsFull (slots : Table StageItemRow × Table StageItemInputRow) : Prop :=
  ∀ i ∈ slots.1.rows, (slotNumbers slots.2 i.id).Perm (slotRange i.teamCount)

instance (slots : Table StageItemRow × Table StageItemInputRow) : Decidable (SlotsFull slots) :=
  inferInstanceAs (Decidable (∀ i ∈ slots.1.rows, _))

/-- **Every stage item has exactly `team_count` inputs, the slots 1 to `team_count` once each.** -/
def Slotted (db : Database) : Prop := SlotsFull (db.stageItems, db.stageItemInputs)

instance (db : Database) : Decidable (Slotted db) := inferInstanceAs (Decidable (SlotsFull _))

theorem slotNumbers_skeleton (inputs : Table StageItemInputRow) (k : StageItemId) :
    slotNumbers (inputs.map StageItemInputRow.skeleton StageItemInputRow.key_skeleton) k =
      slotNumbers inputs k := inputs.map_filter_map (fun _ => rfl) fun _ => rfl

theorem slotted_iff (db : Database) : SlotsFull db.slotTables ↔ Slotted db := by
  have hnumbers : ∀ k, slotNumbers db.slotTables.2 k = slotNumbers db.stageItemInputs k :=
    slotNumbers_skeleton db.stageItemInputs
  constructor
  · intro h i hi
    have hfull := h i.skeleton (List.mem_map_of_mem hi)
    rwa [hnumbers] at hfull
  · intro h i' hi'
    obtain ⟨i, hi, rfl⟩ := List.mem_map.mp hi'
    rw [hnumbers]
    exact h i hi

theorem Slotted.of_slotTables {db db' : Database} (h : Slotted db)
    (hslots : db'.slotTables = db.slotTables) : Slotted db' := by
  rw [← slotted_iff, hslots]
  exact (slotted_iff db).mpr h

variable {db db' : Database} {tid : TournamentId}

/-! ## 2. The steps -/

/-- The new inputs stand after the others, in slot order. -/
theorem slotNumbers_createEmpty (k j : StageItemId) (l : List Nat) (db : Database) :
    slotNumbers (l.foldl (fun db (i : Nat) => sqlCreateEmptyInput tid k db (i + 1))
        db).stageItemInputs j =
      slotNumbers db.stageItemInputs j ++
        if k = j then l.map fun (i : Nat) => (i : Int) + 1 else [] := by
  induction l generalizing db with
  | nil => split <;> exact (List.append_nil _).symm
  | cons a l ih =>
    have hrow : slotNumbers (sqlCreateEmptyInput tid k db (a + 1)).stageItemInputs j =
        slotNumbers db.stageItemInputs j ++ if k = j then [(a : Int) + 1] else [] := by
      unfold slotNumbers sqlCreateEmptyInput
      dsimp only
      rw [Table.filter_insert, List.map_append]
      by_cases hk : k = j
      · rw [if_pos (beq_iff_eq.mpr hk), if_pos hk, List.map_singleton]
      · rw [if_neg (fun e => hk (eq_of_beq e)), if_neg hk, List.map_nil]
    rw [List.foldl_cons, ih, hrow, List.append_assoc]
    congr 1
    split <;> rfl

/-- Nothing is stored yet for the next stage item. -/
theorem slotNumbers_next (hdb : Isolated db) :
    slotNumbers db.stageItemInputs db.stageItems.next = [] := by
  unfold slotNumbers
  rw [List.filter_eq_nil_iff.mpr fun i hi e => ?_, List.map_nil]
  obtain ⟨b, hb⟩ := hdb.inputs i hi
  have hitem := hb.stageItem
  rw [eq_of_beq e, db.stageItemTournament_eq, Table.ownerAt, db.stageItems.find?_next] at hitem
  cases hitem

theorem Slotted.create (h : Slotted db) (hdb : Isolated db) {body : StageItemCreateBody}
    {new : StageItemRow × Database}
    (hnew : sqlCreateStageItemWithEmptyInputs db tid body = .ok new) : Slotted new.2 := by
  obtain ⟨rankingId, -, rfl⟩ := sqlCreateStageItem_ok hnew
  intro i hi
  rw [foldl_project Database.stageItems (fun d (n : Nat) => sqlCreateEmptyInput tid
    db.stageItems.next d (n + 1)) (fun _ _ => rfl), Table.mem_insert] at hi
  rw [slotNumbers_createEmpty]
  rcases hi with hi | rfl
  · have hne : db.stageItems.next ≠ i.id := ne_of_gt (db.stageItems.below i hi)
    rw [if_neg hne, List.append_nil]
    exact h i hi
  · have hnew : (body.row rankingId db.stageItems.next).id = db.stageItems.next := rfl
    rw [hnew, if_pos rfl, slotNumbers_next hdb]
    exact .refl _

/-- The deletion of a stage item that fills no slot of another one. -/
theorem Slotted.delete (h : Slotted db) {k : StageItemId}
    (hspares : ∀ i ∈ db.stageItemInputs.rows, i.winnerFromStageItemId = some k →
      i.stageItemId = k) : Slotted (withoutStageItem db k) := by
  intro i hi
  obtain ⟨hi, hne⟩ := (Table.mem_delete _).mp hi
  have hne : i.id ≠ k := beq_eq_false_iff_ne.mp hne
  have hnumbers : slotNumbers (withoutStageItem db k).stageItemInputs i.id =
      slotNumbers db.stageItemInputs i.id := by
    unfold slotNumbers withoutStageItem Table.delete
    rw [List.filter_filter]
    congr 1
    refine List.filter_congr fun j hj => ?_
    cases hown : j.stageItemId == i.id with
    | false => rfl
    | true =>
      have hstay : (j.stageItemId == k || j.winnerFromStageItemId == some k) = false := by
        rw [Bool.or_eq_false_iff, beq_eq_false_iff_ne, beq_eq_false_iff_ne, eq_of_beq hown]
        exact ⟨hne, fun e => hne ((eq_of_beq hown).symm.trans (hspares j hj e))⟩
      exact congrArg (true && !·) hstay
  rw [hnumbers]
  exact h i hi

theorem slotNumbers_update {p : StageItemInputRow → Bool}
    {f : StageItemInputRow → StageItemInputRow} (inputs : Table StageItemInputRow)
    (hf : ∀ i, key (f i) = key i) (hitem : ∀ i, (f i).stageItemId = i.stageItemId) (hslot : ∀ i, (f i).slot = i.slot)
    (k : StageItemId) : slotNumbers (inputs.update p f hf) k = slotNumbers inputs k := by
  unfold slotNumbers
  rw [inputs.filter_update _ fun i => by rw [hitem], List.map_map]
  refine List.map_congr_left fun i _ => ?_
  simp only [Function.comp]
  split
  · exact hslot i
  · rfl

theorem Slotted.update (h : Slotted db) (k : StageItemInputId) (winnerFrom : Option StageItemId)
    (position : Option Int) :
    Slotted (sqlUpdateStageItemInput db tid k none winnerFrom position) := by
  intro i hi
  have hnumbers : slotNumbers
      (sqlUpdateStageItemInput db tid k none winnerFrom position).stageItemInputs i.id =
      slotNumbers db.stageItemInputs i.id := by
    refine slotNumbers_update _ ?_ ?_ ?_ _
    · exact fun _ => rfl
    · exact fun _ => rfl
    · exact fun _ => rfl
  rw [hnumbers]
  exact h i hi

/-- The deletion of a tournament: its stage items are gone, the others keep their slots. -/
theorem Slotted.confined (h : Slotted db) (hdb : Isolated db) (hconfined : Confined tid db db')
    (hcleared : Cleared tid db') : Slotted db' := by
  intro i hi
  obtain ⟨b, hb⟩ := hconfined.isolated.stageItems i hi
  have hne : b ≠ tid := by
    obtain ⟨s, hs, -, ht⟩ := Table.ownerAt_eq_some.mp hb.stage
    exact Option.some.inj ht ▸ hcleared.stages s hs
  have hsame := hconfined.same b hne
  have hi0 : i ∈ db.stageItems.rows := Table.mem_of_owned hsame.stageItems hi hb.stage
  have hitem' : db'.stageItemTournament i.id = some b :=
    (Database.stageItemTournament_row hi).trans hb.stage
  have hitem : db.stageItemTournament i.id = some b := (hsame.stageItem_iff i.id).mp hitem'
  have hnumbers : slotNumbers db'.stageItemInputs i.id = slotNumbers db.stageItemInputs i.id := by
    refine congrArg (List.map _) (Table.filter_owned hsame.inputs (fun j hj e => ?_) fun j hj e => ?_)
    · exact congrArg some (hdb.input_own hj (eq_of_beq e ▸ hitem))
    · exact congrArg some (hconfined.isolated.input_own hj (eq_of_beq e ▸ hitem'))
  rw [hnumbers]
  exact h i hi0

/-! ## 3. The runs -/

def Call.deletedStageItem : Call → Option StageItemId
  | .request _ (.deleteStageItem k) => some k
  | _ => none

/-- The call deletes no stage item that another stage item takes a team from. -/
def Spares (db : Database) (call : Call) : Prop :=
  ∀ k ∈ call.deletedStageItem, ∀ i ∈ db.stageItemInputs.rows,
    i.winnerFromStageItemId = some k → i.stageItemId = k

instance (db : Database) (call : Call) : Decidable (Spares db call) :=
  inferInstanceAs (Decidable (∀ k ∈ call.deletedStageItem, _))

theorem Slotted.call (h : Slotted db) (hdb : Isolated db) {env : Environment} {call : Call}
    (hspares : Spares db call) (hcall : call.handle env db = .ok db') : Slotted db' := by
  cases (Call.effect hdb hcall).slots with
  | kept hslots => exact h.of_slotTables hslots
  | deleteTournament hconfined hcleared => exact h.confined hdb hconfined hcleared
  | createStageItem _ hnew hslots => exact (h.create hdb hnew).of_slotTables hslots
  | deleteStageItem hslots => exact (h.delete (hspares _ rfl)).of_slotTables hslots
  | updateStageItemInput _ hslots => exact (h.update _ _ _).of_slotTables hslots

/-- **The slots stay complete** in every run that deletes no stage item that another one takes a
    team from. -/
theorem slotted_of_spares (h : Runs (fun _ db call => Spares db call) .empty db) : Slotted db := by
  have hboth : Isolated db ∧ Slotted db := by
    refine h.invariant (P := fun d => Isolated d ∧ Slotted d) (fun env d call d' hd hC hcall => ?_)
      ⟨isolated_empty, fun i hi => absurd hi List.not_mem_nil⟩
    exact ⟨(Confined.call hd.1 hcall).isolated, hd.2.call hd.1 hC hcall⟩
  exact hboth.2

/-! ### A stage item that lost a slot -/

/-- A group whose third place plays on in the next stage. -/
def groupThenFinals : List Call :=
  [.createTournament ⟨⟨0, true, none, 14, 4, by decide, by decide⟩, 1⟩,
    .request 1 .createStage, .request 1 .createStage,
    .request 1 (.createStageItem { stageId := 1, type := .swiss, teamCount := 5 }),
    .request 1 (.createStageItem { stageId := 2, type := .swiss, teamCount := 6 }),
    .request 1 (.updateStageItemInput 2 6 (.tentative 1 3 (by decide)))]

theorem groupThenFinals_slotted : ∃ db,
    runAllowed quietEnvironment (fun db call => decide (Spares db call)) groupThenFinals = .ok db ∧
      Slotted db := by
  obtain ⟨db, hdb⟩ := exists_ok (x := runAllowed quietEnvironment
    (fun db call => decide (Spares db call)) groupThenFinals) (by decide +kernel)
  exact ⟨db, hdb, slotted_of_spares (runs_of_allowed (fun _ _ h => of_decide_eq_true h) hdb)⟩

/-- **A slot goes with the group that fills it**: the finals are left with five of six slots. -/
theorem groupDeleted_short : ∃ db, Runs (fun _ _ _ => True) .empty db ∧ ¬ Slotted db := by
  obtain ⟨db, hdb, hshort⟩ := exists_ok_of_any
    (x := runCalls quietEnvironment (groupThenFinals ++ [.request 1 (.deleteStageItem 1)]))
    (P := fun db => ¬ Slotted db) (by decide +kernel)
  exact ⟨db, runs_of_calls (fun _ _ => trivial) hdb, hshort⟩

end Brackets
