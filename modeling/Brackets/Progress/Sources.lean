/-
  File:      Brackets/Progress/Sources.lean
  Subject:   Where the slots take their teams from.

  The program lists the places that a slot can be filled from and, for a request to fill one, only
  checks that the stage item is there. `Sourced` is the invariant that every source satisfies a
  relation between the stage item, the place and the stage item that owns the slot:

  * for the check that the program does make it holds in every state, so a tournament can always
    be loaded (`Runs.load`);
  * for the relation behind the listed places, `Advances`, it holds while nobody asks for another
    one, and then the sources form no cycle: `sources_of_advances`.

  `ownWinner_cycle` is a group whose slot waits for the group's own winner.
-/
import Brackets.Progress.Effects

namespace Brackets

open Library

/-! ## 1. Sources -/

/-- How a slot is filled: not from a place, or from a place in the relation. -/
inductive SourcedBy (R : StageItemRow → Int → StageItemRow → Prop) (items : Table StageItemRow)
    (i : StageItemInputRow) : Prop where
  | free (hsource : i.winnerFromStageItemId = none) (hposition : i.winnerPosition = none)
  | place {s own : StageItemRow} {p : Int} (hs : s ∈ items.rows) (hown : own ∈ items.rows)
      (hsource : i.winnerFromStageItemId = some s.id) (hposition : i.winnerPosition = some p)
      (hitem : i.stageItemId = own.id) (h : R s p own)

/-- All slots are filled in this way. -/
def Sourced (R : StageItemRow → Int → StageItemRow → Prop) (db : Database) : Prop :=
  ∀ i ∈ db.stageItemInputs.rows, SourcedBy R db.stageItems i

/-- The source that the call gives a slot. -/
def Call.newSource : Call → Option (StageItemInputId × StageItemId × Int)
  | .request _ (.updateStageItemInput _ k (.tentative s p _)) => some (k, s, p)
  | _ => none

/-- The new source is in the relation. -/
def Fills (R : StageItemRow → Int → StageItemRow → Prop) (db : Database) (call : Call) : Prop :=
  ∀ u ∈ call.newSource, ∀ i ∈ db.stageItemInputs.rows, i.id = u.1 → ∀ s ∈ db.stageItems.rows,
    s.id = u.2.1 → ∀ own ∈ db.stageItems.rows, own.id = i.stageItemId → R s u.2.2 own

section

variable {R : StageItemRow → Int → StageItemRow → Prop} {db db' : Database} {tid : TournamentId}

theorem SourcedBy.mono {items items' : Table StageItemRow} {i : StageItemInputRow}
    (h : SourcedBy R items i) (hkept : ∀ s ∈ items.rows,
      i.winnerFromStageItemId = some s.id ∨ i.stageItemId = s.id → s ∈ items'.rows) :
    SourcedBy R items' i := by
  cases h with
  | free hsource hposition => exact .free hsource hposition
  | place hs hown hsource hposition hitem h =>
    exact .place (hkept _ hs (.inl hsource)) (hkept _ hown (.inr hitem)) hsource hposition hitem h

/-! ## 2. The steps -/

theorem Sourced.create (h : Sourced R db) {body : StageItemCreateBody}
    {new : StageItemRow × Database}
    (hnew : sqlCreateStageItemWithEmptyInputs db tid body = .ok new) : Sourced R new.2 := by
  obtain ⟨rankingId, -, rfl⟩ := sqlCreateStageItem_ok hnew
  have hempty : ∀ (l : List Nat) (d : Database),
      ∀ i ∈ (l.foldl (fun d (n : Nat) => sqlCreateEmptyInput tid db.stageItems.next d (n + 1))
        d).stageItemInputs.rows, i ∈ d.stageItemInputs.rows ∨
          i.winnerFromStageItemId = none ∧ i.winnerPosition = none := by
    intro l
    induction l with
    | nil => exact fun d i hi => Or.inl hi
    | cons n l ih =>
      intro d i hi
      rcases ih _ i hi with hi | hi
      · rcases (Table.mem_insert _).mp hi with hi | rfl
        · exact Or.inl hi
        · exact Or.inr ⟨rfl, rfl⟩
      · exact Or.inr hi
  intro i hi
  rw [foldl_project Database.stageItems (fun d (n : Nat) => sqlCreateEmptyInput tid
    db.stageItems.next d (n + 1)) (fun _ _ => rfl)]
  rcases hempty _ _ i hi with hi | ⟨hsource, hposition⟩
  · have hkept : ∀ s ∈ db.stageItems.rows,
        s ∈ (db.stageItems.insert (body.row rankingId) (body.key_row rankingId)).rows :=
      fun s hs => (Table.mem_insert _).mpr (.inl hs)
    exact (h i hi).mono fun s hs _ => hkept s hs
  · exact .free hsource hposition

theorem Sourced.delete (h : Sourced R db) (k : StageItemId) :
    Sourced R (withoutStageItem db k) := by
  intro i hi
  obtain ⟨hi, hstay⟩ := (Table.mem_delete _).mp hi
  rw [Bool.or_eq_false_iff, beq_eq_false_iff_ne, beq_eq_false_iff_ne] at hstay
  refine (h i hi).mono fun s hs hnamed => (Table.mem_delete _).mpr ⟨hs, ?_⟩
  rw [beq_eq_false_iff_ne]
  rintro rfl
  rcases hnamed with hnamed | hnamed
  · exact hstay.2 hnamed
  · exact hstay.1 hnamed

theorem Sourced.confined (h : Sourced R db) (hconfined : Confined tid db db')
    (hcleared : Cleared tid db') : Sourced R db' := by
  intro i hi
  have hne := hcleared.inputs i hi
  have hsame := hconfined.same i.tournamentId hne
  have hwithin := hconfined.isolated.input_within hi rfl
  have hi0 : i ∈ db.stageItemInputs.rows := Table.mem_of_owned hsame.inputs hi rfl
  have hkept : ∀ s ∈ db.stageItems.rows,
      db'.stageItemTournament s.id = some i.tournamentId → s ∈ db'.stageItems.rows := by
    intro s hs ht
    have hbefore := (hsame.stageItem_iff s.id).mp ht
    rw [Database.stageItemTournament_row hs] at hbefore
    exact Table.mem_of_owned hsame.stageItems.symm hs hbefore
  refine (h i hi0).mono fun s hs hnamed => hkept s hs ?_
  rcases hnamed with hnamed | hnamed
  · exact hwithin.source s.id hnamed
  · exact hnamed ▸ hwithin.stageItem

theorem Sourced.update (h : Sourced R db) (hdb : Isolated db)
    {stageItemId : StageItemId} {k : StageItemInputId} {body : StageItemInputUpdateBody}
    (hfills : Fills R db (.request tid (.updateStageItemInput stageItemId k body)))
    (hsource : ∀ s, body.source = some s → db.stageItemTournament s = some tid) :
    Sourced R (sqlUpdateStageItemInput db tid k none body.source body.position) := by
  intro i hi
  obtain ⟨i, hi0, rfl⟩ := List.mem_map.mp hi
  split
  · next hk =>
    obtain ⟨hk, -⟩ := Bool.and_eq_true _ _ |>.mp hk
    cases body with
    | final t => exact .free rfl rfl
    | empty => exact .free rfl rfl
    | tentative source p hge =>
      obtain ⟨s, -, hs, -, -⟩ := stageItemTournament_eq_some.mp (hsource source rfl)
      obtain ⟨b, hb⟩ := hdb.inputs i hi0
      obtain ⟨own, -, hown, -, -⟩ := stageItemTournament_eq_some.mp hb.stageItem
      have hsid := db.stageItems.key_of_find? hs
      have hoid := db.stageItems.key_of_find? hown
      exact .place (db.stageItems.mem_of_find? hs) (db.stageItems.mem_of_find? hown)
        (congrArg some hsid.symm) rfl hoid.symm
        (hfills _ rfl i hi0 (eq_of_beq hk) s (db.stageItems.mem_of_find? hs) hsid own
          (db.stageItems.mem_of_find? hown) hoid)
  · exact h i hi0

/-- Names, teams and results play no part. -/
theorem sourced_layout (hR : ∀ s p own, R s.skeleton p own.skeleton ↔ R s p own) (db : Database) :
    Sourced R db.layout ↔ Sourced R db := by
  constructor
  · intro h i hi
    cases h i.skeleton (List.mem_map_of_mem hi) with
    | free hsource hposition => exact .free hsource hposition
    | place hs hown hsource hposition hitem h =>
      have hrows : db.layout.stageItems.rows = db.stageItems.rows.map StageItemRow.skeleton := rfl
      rw [hrows] at hs hown
      obtain ⟨s, hs0, rfl⟩ := List.mem_map.mp hs
      obtain ⟨own, hown0, rfl⟩ := List.mem_map.mp hown
      exact .place hs0 hown0 hsource hposition hitem ((hR s _ own).mp h)
  · intro h i' hi'
    obtain ⟨i, hi, rfl⟩ := List.mem_map.mp hi'
    cases h i hi with
    | free hsource hposition => exact .free hsource hposition
    | place hs hown hsource hposition hitem h =>
      exact .place (List.mem_map_of_mem hs) (List.mem_map_of_mem hown) hsource hposition hitem
        ((hR _ _ _).mpr h)

theorem Sourced.of_slotTables (hR : ∀ s p own, R s.skeleton p own.skeleton ↔ R s p own)
    (h : Sourced R db) (hslots : db'.slotTables = db.slotTables) : Sourced R db' := by
  obtain ⟨hitems, hinputs⟩ := Prod.mk.inj hslots
  rw [← sourced_layout hR] at h ⊢
  unfold Sourced
  rw [hitems, hinputs]
  exact h

/-- **What a call keeps of the sources.** -/
theorem Sourced.call (hR : ∀ s p own, R s.skeleton p own.skeleton ↔ R s p own)
    (h : Sourced R db) (hdb : Isolated db) {env : Environment} {call : Call}
    (hfills : Fills R db call) (hcall : call.handle env db = .ok db') : Sourced R db' := by
  cases (Call.effect hdb hcall).slots with
  | kept hslots => exact h.of_slotTables hR hslots
  | deleteTournament hconfined hcleared => exact h.confined hconfined hcleared
  | createStageItem _ hnew hslots => exact (h.create hnew).of_slotTables hR hslots
  | @deleteStageItem _ k _ hslots => exact (h.delete k).of_slotTables hR hslots
  | updateStageItemInput hsource hslots =>
    exact (h.update hdb hfills hsource).of_slotTables hR hslots

/-- **The sources of a run** whose new sources are all in the relation. -/
theorem Runs.sourced (hR : ∀ s p own, R s.skeleton p own.skeleton ↔ R s p own)
    (h : Runs (fun _ db call => Fills R db call) .empty db) : Sourced R db := by
  have hboth : Isolated db ∧ Sourced R db := by
    refine h.invariant (P := fun d => Isolated d ∧ Sourced R d)
      (fun env d call d' hd hC hcall => ?_)
      ⟨isolated_empty, fun i hi => absurd hi List.not_mem_nil⟩
    exact ⟨(Confined.call hd.1 hcall).isolated, hd.2.call hR hd.1 hC hcall⟩
  exact hboth.2

end

/-! ## 3. Every tournament can be loaded -/

section

variable {db db' : Database} {tid : TournamentId}

/-- The one thing that is checked about every new place. -/
theorem fills_position (db : Database) (call : Call) : Fills (fun _ p _ => 1 ≤ p) db call := by
  intro u hu
  unfold Call.newSource at hu
  split at hu
  · next hge =>
    cases hu
    exact fun _ _ _ _ _ _ _ _ _ => hge
  · cases hu

theorem Runs.weaken {C C' : Environment → Database → Call → Prop}
    (hC : ∀ env db call, C env db call → C' env db call) (h : Runs C db db') : Runs C' db db' := by
  have hle : Accepted C ≤ Accepted C' := fun _ _ ⟨env, call, hcall, hok⟩ =>
    ⟨env, call, hC _ _ _ hcall, hok⟩
  exact Relation.ReflTransGen.mono hle _ _ h

/-- The program accepts every input that is stored after a run. -/
theorem Runs.valid {C : Environment → Database → Call → Prop} (h : Runs C .empty db)
    {i : StageItemInputRow} (hi : i ∈ db.stageItemInputs.rows) : (withTeam db i).valid = true := by
  have hsourced : Sourced (fun _ p _ => 1 ≤ p) db :=
    Runs.sourced (fun _ _ _ => Iff.rfl) (h.weaken fun _ db call _ => fills_position db call)
  obtain ⟨b, hb⟩ := (h.isolated isolated_empty).inputs i hi
  unfold StageItemInput.valid withTeam
  dsimp only
  split
  · next t ht =>
    obtain ⟨team, hteam, hid, -⟩ := Table.ownerAt_eq_some.mp (hb.team t ht)
    rw [ht, Option.bind_some, ← hid]
    exact Option.isSome_iff_exists.mpr ⟨team, db.teams.find?_key hteam⟩
  · cases hsourced i hi with
    | free hsource hposition => rw [hsource, hposition]
    | place _ _ hsource hposition _ hge =>
      rw [hsource, hposition]
      exact decide_eq_true hge

/-- **After any run every tournament is loaded.** -/
theorem Runs.load {C : Environment → Database → Call → Prop} (h : Runs C .empty db)
    (tid : TournamentId) :
    getFullTournamentDetails db tid {} = .ok (fullTournamentDetails db tid {}) :=
  load_of_valid (h.isolated isolated_empty) fun _ hi _ => h.valid hi

end

/-! ## 4. The listed places -/

/-- The first stage item is a group of an earlier stage, and it has the place. -/
structure Advances (s : StageItemRow) (p : Int) (own : StageItemRow) : Prop where
  type : s.type ≠ .singleElimination
  stage : s.stageId < own.stageId
  position : 1 ≤ p ∧ p ≤ s.teamCount

instance (s : StageItemRow) (p : Int) (own : StageItemRow) : Decidable (Advances s p own) :=
  decidable_of_iff (s.type ≠ .singleElimination ∧ s.stageId < own.stageId ∧
    1 ≤ p ∧ p ≤ s.teamCount)
    ⟨fun ⟨htype, hstage, hp⟩ => ⟨htype, hstage, hp⟩, fun ⟨htype, hstage, hp⟩ => ⟨htype, hstage, hp⟩⟩

theorem advances_skeleton (s : StageItemRow) (p : Int) (own : StageItemRow) :
    Advances s.skeleton p own.skeleton ↔ Advances s p own :=
  ⟨fun ⟨htype, hstage, hp⟩ => ⟨htype, hstage, hp⟩, fun ⟨htype, hstage, hp⟩ => ⟨htype, hstage, hp⟩⟩

/-- The place is listed for the stage. -/
def Offered (db : Database) (tid : TournamentId) (stageId : StageId) (source : StageItemId)
    (p : Int) : Prop :=
  ∃ options l taken, getAvailableInputs db tid = .ok options ∧ options.get? stageId = some l ∧
    .tentative ⟨source, p, taken⟩ ∈ l

/-- The place is listed for the stage of the stage item that owns the slot. -/
def OfferedTo (db : Database) (tid : TournamentId) (k : StageItemInputId) (source : StageItemId)
    (p : Int) : Prop :=
  ∃ i ∈ db.stageItemInputs.rows, i.id = k ∧ ∃ own ∈ db.stageItems.rows, own.id = i.stageItemId ∧
    Offered db tid own.stageId source p

section

variable {db db' : Database} {tid : TournamentId}

/-- The row of a loaded stage item. -/
theorem loaded_item_row {stage : StageWithStageItems} {i : StageItemWithRounds}
    (hstage : stage ∈ fullTournamentDetails db tid {}) (hi : i ∈ stage.stageItems) :
    ∃ row ∈ db.stageItems.rows, row.stageId = stage.id ∧
      stageItemWithRounds db tid {} row = i := by
  obtain ⟨row, -, -, rfl⟩ := (mem_full_stages wholeFilter_whole).mp hstage
  exact (mem_full_stageItems wholeFilter_whole).mp hi

/-- A loaded stage item is known by its id. -/
theorem loaded_item_unique {st st' : StageWithStageItems} {i i' : StageItemWithRounds}
    (hst : st ∈ fullTournamentDetails db tid {}) (hi : i ∈ st.stageItems)
    (hst' : st' ∈ fullTournamentDetails db tid {}) (hi' : i' ∈ st'.stageItems)
    (he : i.id = i'.id) : i = i' := by
  obtain ⟨row, hrow, -, rfl⟩ := loaded_item_row hst hi
  obtain ⟨row', hrow', -, rfl⟩ := loaded_item_row hst' hi'
  rw [db.stageItems.eq_of_key hrow hrow' he]

/-- The stage of a stage item is loaded with it. -/
theorem exists_loaded_stage {i : StageItemRow} (hi : i ∈ db.stageItems.rows)
    (ht : db.stageTournament i.stageId = some tid) :
    ∃ stage ∈ fullTournamentDetails db tid {}, stage.id = i.stageId ∧
      stageItemWithRounds db tid {} i ∈ stage.stageItems := by
  obtain ⟨row, hrow, hid, hown⟩ := Table.ownerAt_eq_some.mp ht
  exact ⟨_, (mem_full_stages wholeFilter_whole).mpr ⟨row, hrow, Option.some.inj hown, rfl⟩, hid,
    (mem_full_stageItems wholeFilter_whole).mpr ⟨i, hi, hid.symm, rfl⟩⟩

/-- **The places that are listed for the stage of a stage item** are those that advance to it. -/
theorem offered_iff
    (hload : getFullTournamentDetails db tid {} = .ok (fullTournamentDetails db tid {}))
    {s own : StageItemRow} (hs : s ∈ db.stageItems.rows) (hown : own ∈ db.stageItems.rows)
    (hst : db.stageTournament s.stageId = some tid)
    (hot : db.stageTournament own.stageId = some tid) (p : Int) :
    Offered db tid own.stageId s.id p ↔ Advances s p own := by
  obtain ⟨stage, hmem, hid, -⟩ := exists_loaded_stage hown hot
  have hsorted : (fullTournamentDetails db tid {}).Pairwise (·.id < ·.id) :=
    List.pairwise_map.mpr (db.stages.sorted_filter _)
  obtain ⟨l, hl, hplaces⟩ := mem_determineAvailableInputs (getTeamsWithMembers db tid) hsorted
    (fun _ hst _ hi _ hst' _ hi' => loaded_item_unique hst hi hst' hi') hmem
  rw [hid] at hl hplaces
  have hlisted : Offered db tid own.stageId s.id p ↔ ∃ taken, .tentative ⟨s.id, p, taken⟩ ∈ l := by
    constructor
    · rintro ⟨options, l', taken, hoptions, hl', htaken⟩
      rw [getAvailableInputs, hload] at hoptions
      cases hoptions
      rw [hl] at hl'
      cases hl'
      exact ⟨taken, htaken⟩
    · rintro ⟨taken, htaken⟩
      refine ⟨_, l, taken, ?_, hl, htaken⟩
      rw [getAvailableInputs, hload]
      rfl
  rw [hlisted, hplaces]
  constructor
  · rintro ⟨st, hst, hlt, i, hi, htype, he, hp⟩
    obtain ⟨row, hrow, hrowStage, rfl⟩ := loaded_item_row hst hi
    obtain rfl := db.stageItems.eq_of_key hs hrow he
    exact ⟨htype, hrowStage ▸ hlt, hp⟩
  · rintro ⟨htype, hlt, hp⟩
    obtain ⟨st, hmem', hid', hitem⟩ := exists_loaded_stage hs hst
    exact ⟨st, hmem', hid'.symm ▸ hlt, _, hitem, htype, rfl, hp⟩

/-! ## 5. The requests and the runs -/

/-- The slot and the stage item that an accepted request names are the tournament's. -/
theorem updateSource_rows {stageItemId : StageItemId} {k : StageItemInputId} {source : StageItemId}
    {p : Int} {hge : 1 ≤ p}
    (h : updateStageItemInput db tid stageItemId k (.tentative source p hge) = .ok db') :
    db.stageItemTournament source = some tid ∧
      ∃ i ∈ db.stageItemInputs.rows, i.id = k ∧ i.tournamentId = tid := by
  obtain ⟨e⟩ := updateStageItemInput_ok h
  refine ⟨source_belongs (e.source source rfl), ?_⟩
  have hinput := e.foundInput
  unfold getStageItemInputById at hinput
  split at hinput
  · cases hinput
  · next row hrow =>
    obtain ⟨hrow, ht⟩ := Option.filter_eq_some_iff.mp hrow
    exact ⟨row, db.stageItemInputs.mem_of_find? hrow, db.stageItemInputs.key_of_find? hrow,
      eq_of_beq ht⟩

/-- **An accepted source is listed just if it advances to the slot's stage item.** -/
theorem offeredTo_iff {C : Environment → Database → Call → Prop} (h : Runs C .empty db)
    {env : Environment} {stageItemId : StageItemId} {k : StageItemInputId} {source : StageItemId}
    {p : Int} {hge : 1 ≤ p}
    (hcall : (Call.request tid (.updateStageItemInput stageItemId k
      (.tentative source p hge))).handle env db = .ok db') :
    OfferedTo db tid k source p ↔ Fills Advances db
      (.request tid (.updateStageItemInput stageItemId k (.tentative source p hge))) := by
  have hdb := h.isolated isolated_empty
  obtain ⟨hst, i, hi, hik, hit⟩ := updateSource_rows hcall
  have hwithin := hdb.input_within hi hit
  obtain ⟨s, -, hfind, -, -⟩ := stageItemTournament_eq_some.mp hst
  obtain ⟨own, -, hfindOwn, -, -⟩ := stageItemTournament_eq_some.mp hwithin.stageItem
  have hsid : s.id = source := db.stageItems.key_of_find? hfind
  have hoid : own.id = i.stageItemId := db.stageItems.key_of_find? hfindOwn
  have hs := db.stageItems.mem_of_find? hfind
  have hown := db.stageItems.mem_of_find? hfindOwn
  have hot := (Database.stageItemTournament_row hown).symm.trans (hoid ▸ hwithin.stageItem)
  have hst := (Database.stageItemTournament_row hs).symm.trans (hsid ▸ hst)
  have hlisted := offered_iff (h.load tid) hs hown hst hot p
  have hslot : ∀ j ∈ db.stageItemInputs.rows, j.id = k → j = i :=
    fun j hj hjk => db.stageItemInputs.eq_of_key hj hi (hjk.trans hik.symm)
  constructor
  · rintro ⟨j, hj, hjk, own', hown', hoid', hoffered⟩
    intro u hu j' hj' hjk' s' hs' hsid' own'' hown'' hoid''
    cases hu
    obtain rfl := hslot j hj hjk
    obtain rfl := hslot j' hj' hjk'
    obtain rfl := db.stageItems.eq_of_key hs' hs (hsid'.trans hsid.symm)
    obtain rfl := db.stageItems.eq_of_key hown' hown (hoid'.trans hoid.symm)
    obtain rfl := db.stageItems.eq_of_key hown'' hown (hoid''.trans hoid.symm)
    exact hlisted.mp (hsid ▸ hoffered)
  · intro hfills
    have hadvances := hfills _ rfl i hi hik s hs hsid own hown hoid
    exact ⟨i, hi, hik, own, hown, hoid, hsid ▸ hlisted.mpr hadvances⟩

/-- A place of the first stage item fills a slot of the second. -/
def Supplies (db : Database) (a b : StageItemId) : Prop :=
  ∃ i ∈ db.stageItemInputs.rows, i.winnerFromStageItemId = some a ∧ i.stageItemId = b

instance (db : Database) (a b : StageItemId) : Decidable (Supplies db a b) :=
  inferInstanceAs (Decidable (∃ i ∈ db.stageItemInputs.rows, _))

/-- Along the sources the stages come one after the other. -/
theorem Sourced.acyclic (h : Sourced Advances db) (k : StageItemId) :
    ¬ Relation.TransGen (Supplies db) k k := by
  have hstep : ∀ {a b}, Supplies db a b → ∃ s ∈ db.stageItems.rows, ∃ own ∈ db.stageItems.rows,
      s.id = a ∧ own.id = b ∧ s.stageId < own.stageId := by
    rintro a b ⟨i, hi, hsource, hitem⟩
    cases h i hi with
    | free hnone _ =>
      rw [hnone] at hsource
      cases hsource
    | @place s own _ hs hown hsource' _ hitem' hadvances =>
      exact ⟨s, hs, own, hown, Option.some.inj (hsource'.symm.trans hsource),
        hitem'.symm.trans hitem, hadvances.stage⟩
  have hlt : ∀ {a b}, Relation.TransGen (Supplies db) a b → ∃ s ∈ db.stageItems.rows,
      ∃ own ∈ db.stageItems.rows, s.id = a ∧ own.id = b ∧ s.stageId < own.stageId := by
    intro a b hab
    induction hab with
    | single hab => exact hstep hab
    | tail _ hbc ih =>
      obtain ⟨s, hs, m, hm, ha, hb, hlt⟩ := ih
      obtain ⟨m', hm', own, hown, hb', hc, hlt'⟩ := hstep hbc
      obtain rfl := db.stageItems.eq_of_key hm hm' (hb.trans hb'.symm)
      exact ⟨s, hs, own, hown, ha, hc, hlt.trans hlt'⟩
  intro hcycle
  obtain ⟨s, hs, own, hown, ha, hb, hlt⟩ := hlt hcycle
  obtain rfl := db.stageItems.eq_of_key hs hown (ha.trans hb.symm)
  exact lt_irrefl _ hlt

/-- **After any run an accepted source is listed just if it advances to the slot's stage item.**
    If every new source of the run did, every stored source is a place of an earlier group, and no
    stage item waits for itself. -/
theorem sources_of_advances {C : Environment → Database → Call → Prop} (h : Runs C .empty db) :
    (∀ (env : Environment) (db' : Database) (tid : TournamentId) (stageItemId : StageItemId)
        (k : StageItemInputId) (source : StageItemId) (p : Int) (hge : 1 ≤ p),
      (Call.request tid (.updateStageItemInput stageItemId k
        (.tentative source p hge))).handle env db = .ok db' →
      (OfferedTo db tid k source p ↔ Fills Advances db
        (.request tid (.updateStageItemInput stageItemId k (.tentative source p hge))))) ∧
    ((∀ env db call, C env db call → Fills Advances db call) →
      Sourced Advances db ∧ ∀ k, ¬ Relation.TransGen (Supplies db) k k) := by
  refine ⟨fun _ _ _ _ _ _ _ _ hcall => offeredTo_iff h hcall, fun hC => ?_⟩
  have hsourced := (h.weaken hC).sourced advances_skeleton
  exact ⟨hsourced, hsourced.acyclic⟩

end

instance (R : StageItemRow → Int → StageItemRow → Prop) [∀ s p own, Decidable (R s p own)]
    (db : Database) (call : Call) : Decidable (Fills R db call) :=
  inferInstanceAs (Decidable (∀ u ∈ call.newSource, ∀ i ∈ db.stageItemInputs.rows, i.id = u.1 →
    ∀ s ∈ db.stageItems.rows, s.id = u.2.1 → ∀ own ∈ db.stageItems.rows, own.id = i.stageItemId →
      R s u.2.2 own))

/-- Two groups, one after the other. -/
def twoGroups : List Call :=
  [.createTournament ⟨⟨0, true, none, 18, 7, by decide, by decide⟩, 1⟩,
    .request 1 .createStage, .request 1 .createStage,
    .request 1 (.createStageItem { stageId := 1, type := .swiss, teamCount := 9 }),
    .request 1 (.createStageItem { stageId := 2, type := .swiss, teamCount := 9 })]

/-- The winner of the first group plays in the second. -/
def winnerPlaysOn : Call := .request 1 (.updateStageItemInput 2 10 (.tentative 1 1 le_rfl))

/-- The winner of the first group plays in the first group. -/
def ownWinner : Call := .request 1 (.updateStageItemInput 1 1 (.tentative 1 1 le_rfl))

theorem winnerPlaysOn_sourced : ∃ db db',
    runAllowed quietEnvironment (fun d call => decide (Fills Advances d call)) twoGroups = .ok db ∧
      winnerPlaysOn.handle quietEnvironment db = .ok db' ∧ OfferedTo db 1 10 1 1 ∧
      Sourced Advances db' ∧ ∀ k, ¬ Relation.TransGen (Supplies db') k k := by
  obtain ⟨db, hdb, hfills, hok⟩ := exists_ok_of_any
    (x := runAllowed quietEnvironment (fun db call => decide (Fills Advances db call)) twoGroups)
    (P := fun db => Fills Advances db winnerPlaysOn ∧
      (winnerPlaysOn.handle quietEnvironment db).toOption.isSome = true) (by decide +kernel)
  obtain ⟨db', hdb'⟩ := exists_ok hok
  have hrun := runs_of_allowed (C := fun _ db call => Fills Advances db call)
    (fun _ _ h => of_decide_eq_true h) hdb
  have hlisted := (sources_of_advances hrun).1 quietEnvironment db' 1 2 10 1 1 le_rfl hdb'
  have hrun' := hrun.tail ⟨quietEnvironment, winnerPlaysOn, hfills, hdb'⟩
  exact ⟨db, db', hdb, hdb', hlisted.mpr hfills, (sources_of_advances hrun').2 fun _ _ _ h => h⟩

/-- **A group may wait for its own winner**: the request is accepted, the place is not listed for
    the group's stage, and the group now feeds itself. -/
theorem ownWinner_cycle : ∃ db db', Runs (fun _ _ _ => True) .empty db ∧
    ownWinner.handle quietEnvironment db = .ok db' ∧ ¬ OfferedTo db 1 1 1 1 ∧
      Relation.TransGen (Supplies db') 1 1 := by
  obtain ⟨db, hdb, hfills, hok⟩ := exists_ok_of_any (x := runCalls quietEnvironment twoGroups)
    (P := fun db => ¬ Fills Advances db ownWinner ∧
      ((ownWinner.handle quietEnvironment db).toOption.any fun db' =>
        decide (Supplies db' 1 1)) = true) (by decide +kernel)
  obtain ⟨db', hdb', hself⟩ := exists_ok_of_any hok
  have hrun : Runs (fun _ _ _ => True) .empty db := runs_of_calls (fun _ _ => trivial) hdb
  exact ⟨db, db', hrun, hdb', fun hlisted => hfills ((offeredTo_iff hrun hdb').mp hlisted),
    .single hself⟩

end Brackets
