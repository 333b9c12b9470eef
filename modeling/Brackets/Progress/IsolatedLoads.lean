/-
  File:      Brackets/Progress/IsolatedLoads.lean
  Subject:   What a tournament loads depends on its own rows.

  In isolated databases with the same rows of a tournament the query returns the same stages for
  it, whatever the other tournaments store: `SameFor.details`.
-/
import Brackets.Progress.Isolation

namespace Brackets

open Library

namespace SameFor

variable {tid : TournamentId} {db db' : Database} (h : SameFor tid db db')

include h

theorem filter_stageItems {p : StageItemRow → Bool} {k : StageId}
    (hk : db.stageTournament k = some tid) (hp : ∀ i, p i = true → i.stageId = k) :
    db'.stageItems.rows.filter p = db.stageItems.rows.filter p :=
  Table.filter_owned h.stageItems (fun i _ hi => (hp i hi).symm ▸ hk)
    fun i _ hi => (hp i hi).symm ▸ (h.stage_iff k).mpr hk

theorem filter_rounds {p : RoundRow → Bool} {k : StageItemId}
    (hk : db.stageItemTournament k = some tid) (hp : ∀ r, p r = true → r.stageItemId = k) :
    db'.rounds.rows.filter p = db.rounds.rows.filter p :=
  Table.filter_owned h.rounds (fun r _ hr => (hp r hr).symm ▸ hk)
    fun r _ hr => (hp r hr).symm ▸ (h.stageItem_iff k).mpr hk

theorem filter_matches {p : MatchRow → Bool} {k : RoundId}
    (hk : db.roundTournament k = some tid) (hp : ∀ m, p m = true → m.roundId = k) :
    db'.matches_.rows.filter p = db.matches_.rows.filter p :=
  Table.filter_owned h.matches_ (fun m _ hm => (hp m hm).symm ▸ hk)
    fun m _ hm => (hp m hm).symm ▸ (h.round_iff k).mpr hk

theorem find?_team {t : TeamId} (ht : db.teamTournament t = some tid) :
    db'.teams.find? t = db.teams.find? t := Table.find?_owned h.teams ht

theorem roundWithMatches (inputs : List StageItemInput) {r : RoundRow}
    (hr : db.roundTournament r.id = some tid) :
    roundWithMatches db' inputs r = Brackets.roundWithMatches db inputs r := by
  unfold Brackets.roundWithMatches
  rw [h.filter_matches hr fun _ hm => eq_of_beq hm]

variable (hdb : Isolated db) (hdb' : Isolated db')

include hdb hdb'

theorem inputsWithTeams (f : DetailsFilter) :
    inputsWithTeams db' tid f = Brackets.inputsWithTeams db tid f := by
  have hown : ∀ {d : Database}, Isolated d → ∀ i ∈ d.stageItemInputs.rows,
      (d.stageItemTournament i.stageItemId = some tid ↔ i.tournamentId = tid) :=
    fun hd i hi => ⟨hd.input_own hi, fun ht => (hd.input_within hi ht).stageItem⟩
  have hsel : ∀ {d : Database}, Isolated d → d.stageItemInputs.rows.filter (fun i =>
      d.stageItemTournament i.stageItemId == some tid && f.stageItem i.stageItemId) =
        d.stageItemInputs.rows.filter fun i => i.tournamentId == tid && f.stageItem i.stageItemId := by
    intro d hd
    refine List.filter_congr fun i hi => ?_
    congr 1
    rw [Bool.eq_iff_iff, beq_iff_eq, beq_iff_eq]
    exact hown hd i hi
  have hrows : db'.stageItemInputs.rows.filter (fun i =>
      i.tournamentId == tid && f.stageItem i.stageItemId) =
        db.stageItemInputs.rows.filter fun i =>
          i.tournamentId == tid && f.stageItem i.stageItemId :=
    Table.filter_owned h.inputs
      (fun i _ hi => congrArg some (eq_of_beq (Bool.and_eq_true _ _ |>.mp hi).1))
      fun i _ hi => congrArg some (eq_of_beq (Bool.and_eq_true _ _ |>.mp hi).1)
  unfold Brackets.inputsWithTeams
  rw [hsel hdb, hsel hdb', hrows]
  refine List.map_congr_left fun i hi => ?_
  obtain ⟨hi, hsel⟩ := List.mem_filter.mp hi
  have ht : i.tournamentId = tid := eq_of_beq (Bool.and_eq_true _ _ |>.mp hsel).1
  unfold withTeam
  congr 1
  cases hteam : i.teamId with
  | none => rfl
  | some t => exact h.find?_team ((hdb.input_within hi ht).team t hteam)

theorem stageItemWithRounds (f : DetailsFilter) {i : StageItemRow}
    (hi : db.stageItemTournament i.id = some tid) :
    stageItemWithRounds db' tid f i = Brackets.stageItemWithRounds db tid f i := by
  unfold Brackets.stageItemWithRounds
  rw [h.inputsWithTeams hdb hdb', h.filter_rounds hi fun _ hr =>
    eq_of_beq (Bool.and_eq_true _ _ |>.mp hr).1]
  congr 1
  refine List.map_congr_left fun r hr => h.roundWithMatches _ ?_
  obtain ⟨hr, hsel⟩ := List.mem_filter.mp hr
  rw [Database.roundTournament_row hr, eq_of_beq (Bool.and_eq_true _ _ |>.mp hsel).1, hi]

theorem stageWithStageItems (f : DetailsFilter) {s : StageRow}
    (hs : db.stageTournament s.id = some tid) :
    stageWithStageItems db' tid f s = Brackets.stageWithStageItems db tid f s := by
  unfold Brackets.stageWithStageItems
  rw [h.filter_stageItems hs fun _ hi => eq_of_beq (Bool.and_eq_true _ _ |>.mp hi).1]
  congr 1
  refine List.map_congr_left fun i hi => h.stageItemWithRounds hdb hdb' f ?_
  obtain ⟨hi, hsel⟩ := List.mem_filter.mp ((List.mem_insertionSort nameLe).mp hi)
  rw [Database.stageItemTournament_row hi, eq_of_beq (Bool.and_eq_true _ _ |>.mp hsel).1, hs]

/-- **A tournament loads the same stages**, whatever the others store. -/
theorem details (f : DetailsFilter) :
    fullTournamentDetails db' tid f = fullTournamentDetails db tid f := by
  have hany : ∀ s ∈ db.stages.rows, s.tournamentId = tid →
      (db'.stageItems.rows.any fun k => k.stageId == s.id && f.stageItem k.id) =
        db.stageItems.rows.any fun k => k.stageId == s.id && f.stageItem k.id := by
    intro s hs ht
    have hown : db.stageTournament s.id = some tid := by rw [Database.stageTournament_row hs, ht]
    have hrows := h.filter_stageItems hown (p := fun k => k.stageId == s.id && f.stageItem k.id)
      fun _ hi => eq_of_beq (Bool.and_eq_true _ _ |>.mp hi).1
    have hfilter : ∀ l : List StageItemRow, (l.any fun k => k.stageId == s.id && f.stageItem k.id) =
        (l.filter fun k => k.stageId == s.id && f.stageItem k.id).any fun _ => true := by
      intro l
      rw [List.any_filter]
      simp only [Bool.and_true]
    rw [hfilter, hfilter, hrows]
  have hstages : db'.stages.rows.filter (fun s => s.tournamentId == tid && f.stage s &&
      (f.stageItemIds.isNone || db'.stageItems.rows.any fun k =>
        k.stageId == s.id && f.stageItem k.id)) =
      db.stages.rows.filter fun s => s.tournamentId == tid && f.stage s &&
        (f.stageItemIds.isNone || db.stageItems.rows.any fun k =>
          k.stageId == s.id && f.stageItem k.id) := by
    have htest : ∀ (s : StageRow) (a b : Bool), (s.tournamentId == tid && a && b) = true →
        some s.tournamentId = some tid := by
      intro s a b hs
      rw [Bool.and_eq_true, Bool.and_eq_true] at hs
      exact congrArg some (eq_of_beq hs.1.1)
    rw [Table.filter_owned h.stages (fun s _ => htest s _ _) fun s _ => htest s _ _]
    refine List.filter_congr fun s hs => ?_
    by_cases ht : s.tournamentId = tid
    · rw [hany s hs ht]
    · rw [beq_eq_false_iff_ne.mpr ht, Bool.false_and, Bool.false_and, Bool.false_and]
  unfold fullTournamentDetails
  rw [hstages]
  refine List.map_congr_left fun s hs => h.stageWithStageItems hdb hdb' f ?_
  obtain ⟨hs, hsel⟩ := List.mem_filter.mp hs
  rw [Bool.and_eq_true, Bool.and_eq_true] at hsel
  rw [Database.stageTournament_row hs, eq_of_beq hsel.1.1]

end SameFor

end Brackets
