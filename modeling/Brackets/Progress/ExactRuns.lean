/-
  File:      Brackets/Progress/ExactRuns.lean
  Subject:   The stored statistics over runs of requests.

  A team that enters a slot takes over what is stored there, and a stage that is left keeps what is
  stored for the teams that stay.

  * `KeepsStandings`: the calls after which the statistics are exact if they were before;
  * `standings_stay_exact`: they are exact in every run of such calls.
-/
import Brackets.Progress.ItemRequests

namespace Brackets

open Library

/-! ## 1. Filling slots -/

/-- What is stored in the slot is what the ranking computes for it. -/
def SlotExact (E : ExpectedScore) (db : Database) (tid : TournamentId) (i : StageItemInputRow) :
    Prop :=
  ∀ row, db.stageItems.find? i.stageItemId = some row → row.type ≠ .singleElimination →
    ExactOn E db tid i.stageItemId fun j => j = i

/-- What each turn of a loop establishes, if no other turn undoes it. -/
theorem foldlM_marks {α β : Type} {f : α → β → Outcome α} {I : α → Prop} {Q : α → β → Prop}
    {l : List β} (hI : ∀ a b a', b ∈ l → I a → f a b = .ok a' → I a')
    (hQ : ∀ a b a', b ∈ l → I a → f a b = .ok a' → Q a' b)
    (hkeep : ∀ a b c a', b ∈ l → I a → f a b = .ok a' → Q a c → Q a' c) {a a' : α} (ha : I a)
    (h : l.foldlM f a = .ok a') : I a' ∧ ∀ b ∈ l, Q a' b := by
  have run : ∀ (l' : List β), (∀ b ∈ l', b ∈ l) → ∀ (done : List β) (a : α), I a →
      (∀ b ∈ done, Q a b) → l'.foldlM f a = .ok a' → I a' ∧ ∀ b ∈ done ++ l', Q a' b := by
    intro l'
    induction l' with
    | nil =>
      intro _ done a ha hdone h
      cases h
      exact ⟨ha, by rwa [List.append_nil]⟩
    | cons b l' ih =>
      intro hl done a ha hdone h
      rw [List.foldlM_cons] at h
      obtain ⟨a1, h1, h⟩ := bind_eq_ok.mp h
      have hb := hl b List.mem_cons_self
      have hmarks : ∀ c ∈ done ++ [b], Q a1 c := by
        intro c hc
        rcases List.mem_append.mp hc with hc | hc
        · exact hkeep a b c a1 hb ha h1 (hdone c hc)
        · rw [List.mem_singleton.mp hc]
          exact hQ a b a1 hb ha h1
      have hrest := ih (fun c hc => hl c (List.mem_cons_of_mem _ hc)) (done ++ [b]) a1
        (hI a b a1 hb ha h1) hmarks h
      rwa [List.append_assoc] at hrest
  exact run l (fun _ h => h) [] a ha (fun _ hb => absurd hb List.not_mem_nil) h

section Seating

variable {E : ExpectedScore} {db db' : Database} {tid : TournamentId}

/-- The rankings read the same, and only slots with `N` have got a team. -/
structure SeatsFilled (db db' : Database) (tid : TournamentId) (N : StageItemInputRow → Prop) : Prop where
  reading : ∀ k, SameReading db db' tid k
  slots : ∀ i' ∈ db'.stageItemInputs.rows, i'.teamId.isSome = true →
    ∃ i ∈ db.stageItemInputs.rows, i.id = i'.id ∧ i.stageItemId = i'.stageItemId ∧
      i.tournamentId = i'.tournamentId ∧ i.cached = i'.cached ∧ (i.teamId.isSome = true ∨ N i)

/-- **Teams that enter exact slots.** -/
theorem StandingsExact.fill (h : StandingsExact E db tid) {N : StageItemInputRow → Prop}
    (hfills : SeatsFilled db db' tid N) (hload' : Loadable db' tid)
    (hN : ∀ i ∈ db.stageItemInputs.rows, N i → SlotExact E db tid i) : StandingsExact E db' tid := by
  intro k row' hrow' ht htype'
  have hreading := hfills.reading k
  have htype := hreading.item
  rw [hrow', Option.map_some] at htype
  obtain ⟨row, hrow, htype⟩ := Option.map_eq_some_iff.mp htype.symm
  have hscored : row.type ≠ .singleElimination := fun e => htype' (htype.symm.trans e)
  have hold := statisticsExact_iff.mp (h k row hrow (hreading.tournament.symm.trans ht) hscored)
  have hslot : ExactOn E db tid k fun i => SlotExact E db tid i := by
    obtain ⟨item, d, hnow, -⟩ := hold
    refine ⟨item, d, hnow, fun i hi hik hit hexact => ?_⟩
    subst hik
    obtain ⟨item', d', hnow', hone⟩ := hexact row hrow hscored
    cases hnow.symm.trans hnow'
    exact hone i hi rfl hit rfl
  refine statisticsExact_iff.mpr ((hold.or hslot).of_same hreading (fun row hrow => ?_)
    fun i' hi' hik hteam => ?_)
  · obtain rfl : row.id = k := db'.stageItems.key_of_find? hrow
    exact hload'.item ht
  · obtain ⟨i, hi, hid, hk, hit, hcached, hteam⟩ := hfills.slots i' hi' hteam
    exact ⟨i, hi, hid, hk.trans hik, hit, hteam.imp_right (hN i hi), hcached⟩

/-- Only the slot of the request gets a team, and only a final one. -/
theorem updateStageItemInput_fills {stageItemId : StageItemId} {k : StageItemInputId}
    {body : StageItemInputUpdateBody}
    (hcall : updateStageItemInput db tid stageItemId k body = .ok db') :
    SeatsFilled db db' tid fun i => i.id = k ∧ i.teamId = none ∧ ∃ t, body = .final t := by
  obtain ⟨e⟩ := updateStageItemInput_ok hcall
  obtain rfl := e.stored
  refine ⟨fun _ => .of_updateInputs fun _ => rfl, fun i' hi' hteam => ?_⟩
  rw [sqlUpdateStageItemInput, Table.rows_update] at hi'
  obtain ⟨i, hi, rfl⟩ := List.mem_map.mp hi'
  refine ⟨i, hi, ?_⟩
  by_cases hp : (i.id == k && i.tournamentId == tid) = true
  · rw [if_pos hp] at hteam ⊢
    refine ⟨rfl, rfl, rfl, rfl, ?_⟩
    cases hseat : i.teamId with
    | some _ => exact Or.inl rfl
    | none =>
      refine Or.inr ⟨eq_of_beq (Bool.and_eq_true _ _ |>.mp hp).1, rfl, ?_⟩
      cases body with
      | final t => exact ⟨t, rfl⟩
      | tentative => cases hteam
      | empty => cases hteam
  · rw [if_neg hp] at hteam ⊢
    exact ⟨rfl, rfl, rfl, rfl, Or.inl hteam⟩

/-- Which stage is active is not read. -/
theorem SameRanking.activate (stageId : StageId) (k : StageItemId) :
    SameRanking db (sqlActivateNextStage db stageId tid) tid k := by
  refine .of_tables rfl ?_ rfl rfl rfl rfl
  unfold Database.stageItemTournament sqlActivateNextStage
  dsimp only
  refine Option.bind_congr fun i _ => ?_
  rw [Table.find?_update, Option.map_map]
  refine Option.map_congr fun s _ => ?_
  rw [Function.comp]
  split <;> rfl

theorem SameReading.setTeams {β : Type} {f : β → StageItemInputId} {t : β → Option TeamId}
    {l : List β} (h : l.foldlM (fun db b => sqlSetTeamIdForStageItemInput db tid (f b) (t b)) db =
      .ok db') (k : StageItemId) : SameReading db db' tid k := by
  refine foldlM_invariant (P := fun d => SameReading db d tid k) (fun d b d' hd hstep => hd.trans ?_)
    ⟨rfl, rfl, rfl, rfl⟩ h
  rw [(sqlSetTeamId_ok hstep).1]
  exact .of_updateInputs fun _ => rfl

theorem activateNext_fills (hload : Loadable db tid) {E' : ExpectedScore}
    (hcall : activateNextStage E' db tid .next = .ok db') :
    ∃ stageId, getNextStageInTournament db tid true = some stageId ∧
      SeatsFilled db db' tid (db.Enters stageId) := by
  obtain ⟨stageId, standings, us, db1, hnext, -, hentries, hrun, rfl⟩ :=
    activateNext_entries hload.filed hcall
  refine ⟨stageId, hnext, fun k => ?_, fun i' hi' hteam => ?_⟩
  · have hseated : SameReading db db1 tid k := .setTeams hrun k
    exact hseated.trans (SameRanking.activate stageId k).toSameReading
  have hfind' : db1.stageItemInputs.find? i'.id = some i' := db1.stageItemInputs.find?_key hi'
  cases hi : db.stageItemInputs.find? i'.id with
  | none =>
    have hkept := hentries.kept hrun (x := i'.id) fun i hsome => by rw [hi] at hsome; cases hsome
    rw [hfind', hi] at hkept
    cases hkept
  | some i =>
    have hmem := db.stageItemInputs.mem_of_find? hi
    have hid : i.id = i'.id := db.stageItemInputs.key_of_find? hi
    refine ⟨i, hmem, hid, ?_⟩
    by_cases henters : db.Enters stageId i
    · obtain ⟨_, _, _, t, -, -, -, hfind⟩ := hentries.entered hrun hmem henters
      have hfind := (congrArg db1.stageItemInputs.find? hid).symm.trans hfind
      obtain rfl := Option.some.inj (hfind'.symm.trans hfind)
      exact ⟨rfl, rfl, rfl, Or.inr henters⟩
    · have hkept := hentries.kept hrun (x := i'.id) fun j hj hjenters => by
        rw [hi] at hj
        exact henters (Option.some.inj hj ▸ hjenters)
      rw [hfind', hi] at hkept
      obtain rfl := Option.some.inj hkept
      exact ⟨rfl, rfl, rfl, Or.inl hteam⟩

end Seating

/-! ## 2. Emptying a stage -/

section Emptying

variable {E : ExpectedScore} {db db' : Database} {tid : TournamentId}

/-- The rows are as they were, but some without their team. -/
def Vacated (db db' : Database) : Prop :=
  ∀ i' ∈ db'.stageItemInputs.rows, ∃ i ∈ db.stageItemInputs.rows,
    i' = i ∨ i' = { i with teamId := none }

/-- A sourced slot of the stage item is empty. -/
def Emptied (db : Database) (tid : TournamentId) (k : StageItemId) : Prop :=
  ∀ i ∈ db.stageItemInputs.rows, i.stageItemId = k → i.tournamentId = tid →
    i.winnerFromStageItemId.isSome = true → i.teamId = none

theorem Vacated.refl (db : Database) : Vacated db db := fun i hi => ⟨i, hi, Or.inl rfl⟩

theorem Vacated.trans {db'' : Database} (h : Vacated db db') (h' : Vacated db' db'') :
    Vacated db db'' := by
  intro i'' hi''
  obtain ⟨i', hi', hsame'⟩ := h' i'' hi''
  obtain ⟨i, hi, hsame⟩ := h i' hi'
  refine ⟨i, hi, ?_⟩
  rcases hsame' with rfl | rfl
  · exact hsame
  · rcases hsame with rfl | rfl
    · exact Or.inr rfl
    · exact Or.inr rfl

theorem Vacated.clear (x : StageItemInputId) : Vacated db (setTeamId db tid x none) := by
  intro i' hi'
  rw [setTeamId, Table.rows_update] at hi'
  obtain ⟨i, hi, rfl⟩ := List.mem_map.mp hi'
  refine ⟨i, hi, ?_⟩
  split
  · exact Or.inr rfl
  · exact Or.inl rfl

/-- A team that is there was there. -/
theorem Vacated.row (h : Vacated db db') {i' : StageItemInputRow}
    (hi' : i' ∈ db'.stageItemInputs.rows) (hteam : i'.teamId.isSome = true) :
    i' ∈ db.stageItemInputs.rows := by
  obtain ⟨i, hi, rfl | rfl⟩ := h i' hi'
  · exact hi
  · cases hteam

theorem Emptied.vacated {k : StageItemId} (h : Emptied db tid k) (hv : Vacated db db') :
    Emptied db' tid k := by
  intro i' hi' hk ht hsource
  obtain ⟨i, hi, rfl | rfl⟩ := hv i' hi'
  · exact h i' hi hk ht hsource
  · rfl

theorem SameRanking.clearTeam (x : StageItemInputId) (k : StageItemId) :
    SameRanking db (setTeamId db tid x none) tid k := by
  refine .of_updateInputs (fun _ => rfl) (fun _ => rfl) (fun _ => rfl) fun i _ _ hteam => ?_
  cases hteam

/-- The scores of a stage item. -/
theorem storedResults_clearScores {k : StageItemId} (ht : db.stageItemTournament k = some tid) :
    storedResults (clearScoresForMatchesInStageItem db tid k) k = [] := by
  rw [storedResults_eq]
  refine List.flatMap_eq_nil_iff.mpr fun r hr => ?_
  have hr : r ∈ db.rounds.rows := hr
  unfold publishedResults
  split
  · next hk =>
    refine List.filterMap_eq_nil_iff.mpr fun m hm => ?_
    obtain ⟨hm, hround⟩ := List.mem_filter.mp hm
    rw [clearScoresForMatchesInStageItem, Table.rows_update] at hm
    obtain ⟨m0, hm0, rfl⟩ := List.mem_map.mp hm
    have hfind : db.rounds.find? r.id = some r := db.rounds.find?_key hr
    have hsel : (db.rounds.find? m0.roundId).any (fun r => r.stageItemId == k &&
        db.stageItemTournament r.stageItemId == some tid) = true := by
      have hid : m0.roundId = r.id := by
        split at hround
        · exact eq_of_beq hround
        · exact eq_of_beq hround
      rw [hid, hfind, Option.any_some, hk.1, ht, beq_self_eq_true, beq_self_eq_true]
      rfl
    rw [if_pos hsel]
    exact MatchRow.resultWith_of_unscored rfl rfl _
  · rfl

theorem SameRanking.clearScores {j k : StageItemId} (hk : k ≠ j) :
    SameRanking db (clearScoresForMatchesInStageItem db tid j) tid k := by
  refine .of_matches fun r hr hof => roundResults_update fun m _ hp => ?_
  have hround : m.roundId ≠ r.id := by
    intro hid
    have hfind : db.rounds.find? r.id = some r := db.rounds.find?_key hr
    rw [hid, hfind, Option.any_some, Bool.and_eq_true] at hp
    exact hk (hof.symm.trans (eq_of_beq hp.1))
  exact ⟨hround, hround⟩

/-- The turn of the loop on a stage item of the deactivated stage. -/
theorem clearStageItem_ok {item : StageItemRow} {d : Database} (hv : Vacated db d)
    (htable : d.stageItemTournament item.id = db.stageItemTournament item.id)
    (ht : db.stageItemTournament item.id = some tid)
    (h : clearStageItem tid d (stageItemWithRounds db tid {} item) = .ok db') :
    Vacated d db' ∧ storedResults db' item.id = [] ∧ Emptied db' tid item.id ∧
      (∀ k, SameReading (clearScoresForMatchesInStageItem d tid item.id) db' tid k) ∧
      ∀ k, k ≠ item.id → SameRanking d db' tid k := by
  have hstep : ∀ (a : Database) (i : StageItemInput) (a' : Database),
      sqlSetTeamIdForStageItemInput a tid i.id none = .ok a' → a' = setTeamId a tid i.id none :=
    fun _ _ _ h => (sqlSetTeamId_ok h).1
  have hsame : ∀ k, SameRanking (clearScoresForMatchesInStageItem d tid item.id) db' tid k := by
    refine fun k => foldlM_invariant (P := fun a => SameRanking _ a tid k) (fun a i a' ha hi => ?_)
      (.refl _ tid k) h
    rw [hstep a i a' hi]
    exact ha.trans (.clearTeam i.id k)
  have hcleared : ∀ (a : Database) (i : StageItemInput) (a' : Database),
      sqlSetTeamIdForStageItemInput a tid i.id none = .ok a' → ∀ i' ∈ a'.stageItemInputs.rows,
        i'.tournamentId = tid → (i'.id = i.id → i'.teamId = none) ∧
          (i'.teamId = none ∨ i' ∈ a.stageItemInputs.rows) := by
    intro a i a' hi i' hi' hit
    rw [hstep a i a' hi, setTeamId, Table.rows_update] at hi'
    obtain ⟨i0, hi0, rfl⟩ := List.mem_map.mp hi'
    by_cases hp : (i0.tournamentId == tid && i0.id == i.id) = true
    · rw [if_pos hp]
      exact ⟨fun _ => rfl, Or.inl rfl⟩
    · rw [if_neg hp] at hit ⊢
      refine ⟨fun hid => absurd ?_ hp, Or.inr hi0⟩
      rw [hid, hit, beq_self_eq_true, beq_self_eq_true]
      rfl
  obtain ⟨hvacated, hmarks⟩ := foldlM_marks (a := clearScoresForMatchesInStageItem d tid item.id)
    (I := Vacated d) (Q := fun a (i : StageItemInput) => ∀ i' ∈ a.stageItemInputs.rows,
      i'.id = i.id → i'.tournamentId = tid → i'.teamId = none)
    (fun a i a' _ ha hi => hstep a i a' hi ▸ ha.trans (.clear i.id))
    (fun a i a' _ _ hi i' hi' hid hit => (hcleared a i a' hi i' hi' hit).1 hid)
    (fun a i c a' _ _ hi hc i' hi' hid hit =>
      (hcleared a i a' hi i' hi' hit).2.elim id fun hold => hc i' hold hid hit)
    (fun i hi => ⟨i, hi, Or.inl rfl⟩) h
  refine ⟨hvacated, ?_, fun i hi hk hit hsource => ?_, fun k => (hsame k).toSameReading,
    fun k hk => (SameRanking.clearScores hk).trans (hsame k)⟩
  · rw [(hsame item.id).results]
    exact storedResults_clearScores (htable.trans ht)
  · obtain ⟨i0, hi0, hrow⟩ := (hv.trans hvacated) i hi
    have hkept : i0.id = i.id ∧ i0.stageItemId = i.stageItemId ∧
        i0.tournamentId = i.tournamentId ∧ i0.winnerFromStageItemId = i.winnerFromStageItemId := by
      rcases hrow with rfl | rfl
      · exact ⟨rfl, rfl, rfl, rfl⟩
      · exact ⟨rfl, rfl, rfl, rfl⟩
    obtain ⟨hid, hk0, hit0, hsource0⟩ := hkept
    have hloaded : withTeam db i0 ∈ (stageItemWithRounds db tid {} item).inputs :=
      (mem_full_inputs wholeFilter_whole).mpr ⟨i0, hi0, by rw [hk0, hk, ht], hk0.trans hk,
        hit0.trans hit, rfl⟩
    refine hmarks (withTeam db i0) (List.mem_filter.mpr ⟨hloaded, ?_⟩) i hi hid.symm hit
    show i0.winnerFromStageItemId.isSome = true
    rw [hsource0, hsource]

/-- What emptying some stage items leaves of the others. -/
structure EmptiedStage (db db' : Database) (tid : TournamentId) (ks : List StageItemId) : Prop where
  vacated : Vacated db db'
  item : ∀ k, (db'.stageItems.find? k).map (·.type) = (db.stageItems.find? k).map (·.type)
  tournament : ∀ k, db'.stageItemTournament k = db.stageItemTournament k
  others : ∀ k, k ∉ ks → SameRanking db db' tid k

theorem updateMatchesInDeactivatedStage_ok {s : StageRow} (hs : s ∈ db.stages.rows)
    (hst : s.tournamentId = tid)
    (h : updateMatchesInDeactivatedStage db tid (stageWithStageItems db tid {} s) = .ok db') :
    EmptiedStage db db' tid ((stageWithStageItems db tid {} s).stageItems.map (·.id)) ∧
      ∀ row ∈ db.stageItems.rows, row.stageId = s.id →
        storedResults db' row.id = [] ∧ Emptied db' tid row.id := by
  have hturn : ∀ (d : Database) (item : StageItemWithRounds) (d' : Database),
      item ∈ (stageWithStageItems db tid {} s).stageItems →
      EmptiedStage db d tid ((stageWithStageItems db tid {} s).stageItems.map (·.id)) →
      clearStageItem tid d item = .ok d' → Vacated d d' ∧ storedResults d' item.id = [] ∧
        Emptied d' tid item.id ∧
        (∀ k, SameReading (clearScoresForMatchesInStageItem d tid item.id) d' tid k) ∧
        ∀ k, k ≠ item.id → SameRanking d d' tid k := by
    intro d item d' hitem hd hstep
    obtain ⟨row, hrow, hstage, rfl⟩ := (mem_full_stageItems wholeFilter_whole).mp hitem
    have ht : db.stageItemTournament row.id = some tid := by
      rw [Database.stageItemTournament_row hrow, hstage, Database.stageTournament_row hs, hst]
    exact clearStageItem_ok hd.vacated (hd.tournament row.id) ht hstep
  have hloop := foldlM_marks
    (I := fun d => EmptiedStage db d tid ((stageWithStageItems db tid {} s).stageItems.map (·.id)))
    (Q := fun d (item : StageItemWithRounds) => storedResults d item.id = [] ∧ Emptied d tid item.id)
    (fun d item d' hitem hd hstep => ?_)
    (fun d item d' hitem hd hstep => (hturn d item d' hitem hd hstep).2.imp_right (·.1))
    (fun d item c d' hitem hd hstep hc => ?_)
    ⟨.refl db, fun _ => rfl, fun _ => rfl, fun k _ => .refl db tid k⟩ h
  · refine ⟨hloop.1, fun row hrow hstage => ?_⟩
    exact hloop.2 _ ((mem_full_stageItems wholeFilter_whole).mpr ⟨row, hrow, hstage, rfl⟩)
  · obtain ⟨hvacated, -, -, hreading, hothers⟩ := hturn d item d' hitem hd hstep
    refine ⟨hd.vacated.trans hvacated, fun k => (hreading k).item.trans (hd.item k),
      fun k => (hreading k).tournament.trans (hd.tournament k), fun k hk => ?_⟩
    refine (hd.others k hk).trans (hothers k fun e => hk ?_)
    exact e ▸ List.mem_map_of_mem hitem
  · obtain ⟨hvacated, hresults, hempty, -, hothers⟩ := hturn d item d' hitem hd hstep
    refine ⟨?_, hc.2.vacated hvacated⟩
    by_cases he : c.id = item.id
    · rw [he]
      exact hresults
    · exact (hothers c.id he).results.trans hc.1

/-- The stage item of the active stage has no results any more, and only the teams that come from
    no other stage item stay. -/
structure LeftItem (db db' : Database) (tid : TournamentId) (k : StageItemId) : Prop where
  active : ∃ s ∈ db.stages.rows, s.tournamentId = tid ∧ s.isActive = true ∧
    ∃ row ∈ db.stageItems.rows, row.id = k ∧ row.stageId = s.id
  item : (db'.stageItems.find? k).map (·.type) = (db.stageItems.find? k).map (·.type)
  results : storedResults db' k = []
  seats : ∀ i ∈ db'.stageItemInputs.rows, i.stageItemId = k → i.teamId.isSome = true →
    i ∈ db.stageItemInputs.rows ∧ i.winnerFromStageItemId = none

/-- **Going back** empties the stage items of the active stage. -/
theorem activatePrevious_left (hload : Loadable db tid) {E' : ExpectedScore}
    (hcall : activateNextStage E' db tid .previous = .ok db') (k : StageItemId) :
    SameRanking db db' tid k ∨ LeftItem db db' tid k := by
  obtain ⟨newActive, db1, -, -, hwrites, rfl⟩ := activateNextStage_ok hcall
  have hactivate : ∀ (d : Database) k, SameRanking d (sqlActivateNextStage d newActive tid) tid k :=
    fun _ k => .activate newActive k
  cases hwrites with
  | nothing _ => exact Or.inl (hactivate db k)
  | left hactive h1 =>
    obtain ⟨s, hs, hst, rfl⟩ :=
      (mem_full_stages wholeFilter_whole).mp (List.mem_of_find?_eq_some hactive)
    have hisActive := List.find?_some hactive
    have hisActive : s.isActive = true := hisActive
    obtain ⟨hemptied, hall⟩ := updateMatchesInDeactivatedStage_ok hs hst h1
    by_cases hk : k ∈ (stageWithStageItems db tid {} s).stageItems.map (·.id)
    · obtain ⟨item, hitem, rfl⟩ := List.mem_map.mp hk
      obtain ⟨row, hrow, hstage, rfl⟩ := (mem_full_stageItems wholeFilter_whole).mp hitem
      have ht : db.stageItemTournament row.id = some tid := by
        rw [Database.stageItemTournament_row hrow, hstage, Database.stageTournament_row hs, hst]
      obtain ⟨hresults, hempty⟩ := hall row hrow hstage
      refine Or.inr ⟨⟨s, hs, hst, hisActive, row, hrow, rfl, hstage⟩, hemptied.item row.id,
        (hactivate db1 row.id).results.trans hresults, fun i hi hik hteam => ?_⟩
      have hold := hemptied.vacated.row hi hteam
      refine ⟨hold, ?_⟩
      cases hsome : i.winnerFromStageItemId with
      | none => rfl
      | some j =>
        have hnone := hempty i hi hik (hload.filed i hold (hik ▸ ht)) (by rw [hsome]; rfl)
        rw [hnone] at hteam
        cases hteam
    · exact Or.inl ((hemptied.others k hk).trans (hactivate db1 k))

/-- The slots of the active stage that keep their team, because it comes from no other stage item,
    have no results. -/
def StaysEmpty (db : Database) (tid : TournamentId) : Prop :=
  ∀ s ∈ db.stages.rows, s.tournamentId = tid → s.isActive = true →
    ∀ row ∈ db.stageItems.rows, row.stageId = s.id → ∀ i ∈ db.stageItemInputs.rows,
      i.stageItemId = row.id → i.teamId.isSome = true → i.winnerFromStageItemId = none →
      i.cached = (initialStatistics row.type).cached

theorem Refreshed.activatePrevious (hdb' : Isolated db') (hload : Loadable db tid)
    (hload' : Loadable db' tid) (hstays : StaysEmpty db tid) {E' : ExpectedScore}
    (hcall : activateNextStage E' db tid .previous = .ok db') : Refreshed E db db' tid := by
  refine ⟨fun k => ?_, hload'⟩
  rcases activatePrevious_left hload hcall k with hsame | hleft
  · exact Or.inl hsame
  refine Or.inr (accurate_of_empty hload' hdb' hleft.results fun row' hrow' i hi hik hteam => ?_)
  obtain ⟨s, hs, hst, hisActive, row, hrow, rfl, hstage⟩ := hleft.active
  obtain ⟨hold, hsource⟩ := hleft.seats i hi hik hteam
  have htype := hleft.item
  have hfind : db.stageItems.find? row.id = some row := db.stageItems.find?_key hrow
  rw [hrow', hfind, Option.map_some, Option.map_some] at htype
  rw [Option.some.inj htype]
  exact hstays s hs hst hisActive row hrow hstage i hold hik hteam hsource

end Emptying

/-! ## 3. Runs -/

section Runs

variable {E : ExpectedScore} {db db' : Database} {tid : TournamentId}

/-- The ranking of a stage item reads rows of its tournament. -/
theorem rankingNow_sameFor (hdb : Isolated db) (hdb' : Isolated db') (h : SameFor tid db db')
    {k : StageItemId} (ht : db.stageItemTournament k = some tid) :
    rankingNow E db' tid k = rankingNow E db tid k := by
  have hload : getStageItem db' tid k = getStageItem db tid k := by
    unfold getStageItem getFullTournamentDetails
    rw [h.details hdb hdb']
  have hfind : db'.stageItems.find? k = db.stageItems.find? k :=
    Table.find?_owned h.stageItems (db.stageItemTournament_eq k ▸ ht)
  have hranking : getRankingForStageItem db' tid k = getRankingForStageItem db tid k := by
    unfold getRankingForStageItem
    rw [hfind]
    cases hrow : db.stageItems.find? k with
    | none => rfl
    | some row =>
      have hmem := db.stageItems.mem_of_find? hrow
      obtain rfl : row.id = k := db.stageItems.key_of_find? hrow
      have hwithin := hdb.stageItem_within hmem ((Database.stageItemTournament_row hmem).symm.trans ht)
      rw [Option.bind_some, Option.bind_some, Table.find?_owned h.rankings hwithin.ranking]
  unfold rankingNow
  rw [hload]
  cases hitem : getStageItem db tid k with
  | error e => rfl
  | ok item =>
    obtain ⟨row, hrow, -, rfl, -⟩ := getStageItem_eq_ok.mp hitem
    have hid : row.id = k := db.stageItems.key_of_find? hrow
    have hid : (loadStageItem db tid row).id = k := hid
    rw [ok_bind, ok_bind, hid, hranking]

/-- What the other tournaments do leaves the statistics exact. -/
theorem StandingsExact.sameFor (h : StandingsExact E db tid) (hdb : Isolated db)
    (hdb' : Isolated db') (hsame : SameFor tid db db') : StandingsExact E db' tid := by
  intro k row hrow ht htype
  have ht0 := (hsame.stageItem_iff k).mp ht
  have hfind : db'.stageItems.find? k = db.stageItems.find? k :=
    Table.find?_owned hsame.stageItems (db.stageItemTournament_eq k ▸ ht0)
  obtain ⟨item, d, hnow, hexact⟩ := h k row (hfind ▸ hrow) ht0 htype
  exact ⟨item, d, (rankingNow_sameFor hdb hdb' hsame ht0).trans hnow, hexact⟩

/-- The request leaves exact statistics exact. -/
def Request.KeepsStandings (E : ExpectedScore) (db : Database) (tid : TournamentId) :
    Request → Prop
  | .updateMatchById k body => ∀ m, db.matches_.find? k = some m → body.roundId = m.roundId
  | .updateRoundById k body => KeepsResults db k body
  | .updateStageItemInput _ k body => ∀ t, body = .final t →
      ∀ i, db.stageItemInputs.find? k = some i → i.teamId = none → SlotExact E db tid i
  | .activateNextStage .next => ∀ stageId, getNextStageInTournament db tid true = some stageId →
      ∀ i ∈ db.stageItemInputs.rows, db.Enters stageId i → SlotExact E db tid i
  | .activateNextStage .previous => StaysEmpty db tid
  | _ => True

/-- The call does, or it is for another tournament. -/
def KeepsStandings (E : ExpectedScore) (tid : TournamentId) (env : Environment) (db : Database)
    (call : Call) : Prop :=
  ∀ r, call = .request tid r → env.expectedScore = E ∧ r.KeepsStandings E db tid

/-- **What one request refreshes.** The other requests fill slots. -/
theorem Request.refreshed {env : Environment} {r : Request} (hdb : Isolated db)
    (hdb' : Isolated db') (hU : TeamsOnce db) (hload : Loadable db tid) (hload' : Loadable db' tid)
    (hr : match r with
      | .updateMatchById k body => ∀ m, db.matches_.find? k = some m → body.roundId = m.roundId
      | .updateRoundById k body => KeepsResults db k body
      | .updateStageItemInput _ _ _ | .activateNextStage _ => False
      | _ => True)
    (hcall : r.handle env db tid = .ok db') : Refreshed env.expectedScore db db' tid := by
  cases r with
  | updateTournamentById body =>
    obtain ⟨-, -, hcall⟩ := updateTournamentById_ok hcall
    refine .of_same (fun k => .trans (.of_ranked ?_ k)
      (.of_untimed (scheduleAllMatches_untimed hcall))) hload'
    rfl
  | deleteTournament =>
    have hcleared := deleteTournament_cleared hcall
    refine ⟨fun k => Or.inr fun row _ ht => ?_, hload'⟩
    obtain ⟨_, s, -, hs, hst⟩ := stageItemTournament_eq_some.mp ht
    exact absurd hst (hcleared.stages s (db'.stages.mem_of_find? hs))
  | createStage => exact .of_same (fun k => createStage_same hdb k hcall) hload'
  | updateStage j body => exact .of_same (fun k => updateStage_same k hcall) hload'
  | deleteStage j => exact .of_same (fun k => deleteStage_same k hcall) hload'
  | activateNextStage direction => exact hr.elim
  | createStageItem body => exact .createStageItem hdb hdb' hload' hcall
  | updateStageItem k body => exact .updateStageItem hU hload hcall
  | deleteStageItem k => exact .deleteStageItem hload' hcall
  | updateStageItemInput stageItemId k body => exact hr.elim
  | createRound body => exact .createRound hload hcall
  | updateRoundById k body => exact .updateRoundById hload hr hcall
  | deleteRound k => exact .deleteRound hU hload hcall
  | createMatch body => exact .createMatch hload hcall
  | updateMatchById k body => exact .updateMatchById hU hload hr hcall
  | deleteMatch k => exact .deleteMatch hU hload hcall
  | scheduleMatches =>
    have hplan := scheduleAllMatches_untimed (scheduleMatches_ok hcall).2
    exact .of_same (fun k => .of_untimed hplan) hload'
  | createRanking body => exact .of_same (fun k => createRanking_same hdb k hcall) hload'
  | updateRankingById k body => exact .updateRankingById hU hload hcall
  | deleteRanking j => exact .of_same (fun k => deleteRanking_same hdb hdb' k hcall) hload'
  | _ => exact .of_same (.of_ranked (Request.ranked hcall trivial)) hload'

/-- **What one request keeps.** -/
theorem Request.standingsExact {env : Environment} {r : Request} (hE : env.expectedScore = E)
    (hdb : Isolated db) (hdb' : Isolated db') (hU : TeamsOnce db) (hload : Loadable db tid)
    (hload' : Loadable db' tid) (h : StandingsExact E db tid) (hr : r.KeepsStandings E db tid)
    (hcall : r.handle env db tid = .ok db') : StandingsExact E db' tid := by
  subst hE
  cases r with
  | activateNextStage direction =>
    cases direction with
    | next =>
      obtain ⟨stageId, hnext, hfills⟩ := activateNext_fills hload hcall
      exact h.fill hfills hload' (hr stageId hnext)
    | previous => exact h.refreshed (.activatePrevious hdb' hload hload' hr hcall)
  | updateStageItemInput stageItemId k body =>
    refine h.fill (updateStageItemInput_fills hcall) hload' ?_
    rintro i hi ⟨rfl, hempty, t, rfl⟩
    exact hr t rfl i (db.stageItemInputs.find?_key hi) hempty
  | updateMatchById k body => exact h.refreshed (Request.refreshed hdb hdb' hU hload hload' hr hcall)
  | updateRoundById k body => exact h.refreshed (Request.refreshed hdb hdb' hU hload hload' hr hcall)
  | _ => exact h.refreshed (Request.refreshed hdb hdb' hU hload hload' trivial hcall)

theorem createTournament_same (hdb : Isolated db) {body : TournamentBody} (k : StageItemId)
    (hcall : createTournament db body = .ok db') : SameRanking db db' tid k := by
  obtain ⟨-, -, rfl⟩ := createTournament_ok hcall
  refine .trans (.of_ranked (by rfl) k) (.of_rankings (fun i hi => ?_) k)
  refine Table.find?_insert_of_ne _ fun hnext => ?_
  obtain ⟨b, hb⟩ := hdb.stageItems i hi
  obtain ⟨r, hr, hid, -⟩ := Table.ownerAt_eq_some.mp hb.ranking
  exact (db.rankings.below r hr).ne (hid.trans hnext)

theorem StandingsExact.call {env : Environment} {call : Call} (h : StandingsExact E db tid)
    (hrun : Runs (fun _ _ _ => True) .empty db) (hkeeps : KeepsStandings E tid env db call)
    (hcall : call.handle env db = .ok db') : StandingsExact E db' tid := by
  have hrun' : Runs (fun _ _ _ => True) .empty db' := hrun.tail ⟨env, call, trivial, hcall⟩
  have hdb : Isolated db := hrun.isolated isolated_empty
  have hdb' : Isolated db' := hrun'.isolated isolated_empty
  cases call with
  | createTournament body =>
    exact h.refreshed (.of_same (fun k => createTournament_same hdb k hcall) (hrun'.loadable tid))
  | request t r =>
    by_cases ht : tid = t
    · subst ht
      obtain ⟨hE, hr⟩ := hkeeps r rfl
      exact Request.standingsExact hE hdb hdb' hrun.teamsOnce (hrun.loadable tid)
        (hrun'.loadable tid) h hr hcall
    · exact h.sameFor hdb hdb' ((Confined.call hdb hcall).same tid ht)

/-- **The stored statistics stay exact** in every run of calls that keep them exact. -/
theorem standings_stay_exact {start : Database} (h0 : Runs (fun _ _ _ => True) .empty start)
    (hstart : StandingsExact E start tid) (hrun : Runs (KeepsStandings E tid) start db) :
    StandingsExact E db tid := by
  have hall : Runs (fun _ _ _ => True) .empty db ∧ StandingsExact E db tid := by
    refine hrun.invariant (P := fun d => Runs (fun _ _ _ => True) .empty d ∧
      StandingsExact E d tid) (fun env d call d' hd hkeeps hcall => ?_) ⟨h0, hstart⟩
    exact ⟨hd.1.tail ⟨env, call, trivial, hcall⟩, hd.2.call hd.1 hkeeps hcall⟩
  exact hall.2

/-! A run with a test for the condition. -/

/-- What is stored for the slot is computed again. -/
def slotTest (E : ExpectedScore) (db : Database) (tid : TournamentId) (i : StageItemInputRow) : Bool :=
  (rankingNow E db tid i.stageItemId).toOption.any fun x =>
    decide (i.cached = (x.2.getD i.id (initialStatistics x.1.type)).cached)

theorem slotExact_of_test {i : StageItemInputRow} (h : slotTest E db tid i = true) :
    SlotExact E db tid i := by
  intro row _ _
  unfold slotTest at h
  cases hnow : rankingNow E db tid i.stageItemId with
  | error e =>
    rw [hnow] at h
    cases h
  | ok x =>
    rw [hnow] at h
    have h := of_decide_eq_true h
    exact ⟨x.1, x.2, hnow, fun j _ _ _ hj => hj ▸ h⟩

/-- The condition, for calls that empty no stage. -/
def keepsTest (E : ExpectedScore) (db : Database) : Call → Bool
  | .request _ (.updateMatchById k body) =>
      (db.matches_.find? k).all fun m => body.roundId == m.roundId
  | .request _ (.updateRoundById k body) =>
      (db.rounds.find? k).all fun r => body.isDraft == r.isDraft
  | .request tid (.updateStageItemInput _ k (.final _)) =>
      (db.stageItemInputs.find? k).all fun i => slotTest E db tid i
  | .request tid (.activateNextStage .next) =>
      db.stageItemInputs.rows.all fun i => i.teamId.isSome || slotTest E db tid i
  | .request _ (.activateNextStage .previous) => false
  | _ => true

theorem keepsStandings_of_test {env : Environment} {call : Call}
    (h : keepsTest env.expectedScore db call = true) :
    KeepsStandings env.expectedScore tid env db call := by
  rintro r rfl
  refine ⟨rfl, ?_⟩
  cases r with
  | updateMatchById k body =>
    intro m hm
    exact eq_of_beq (Option.all_eq_true _ _ |>.mp h m hm)
  | updateRoundById k body =>
    intro r hr
    exact Or.inl (eq_of_beq (Option.all_eq_true _ _ |>.mp h r hr))
  | updateStageItemInput stageItemId k body =>
    rintro t rfl i hi _
    exact slotExact_of_test (Option.all_eq_true _ _ |>.mp h i hi)
  | activateNextStage direction =>
    cases direction with
    | next =>
      intro stageId _ i hi henters
      have htest := List.all_eq_true.mp h i hi
      rw [henters.teamless, Option.isSome_none, Bool.false_or] at htest
      exact slotExact_of_test htest
    | previous => cases h
  | _ => trivial

/-- A group of three whose first two play a final. -/
def groupThenFinal : List Call :=
  [.createTournament ⟨⟨0, true, none, 40, 11, by decide, by decide⟩, 1⟩,
    .request 1 .createStage, .request 1 .createStage,
    .request 1 (.createMultipleTeams [("Red", []), ("Blue", []), ("Green", [])] true),
    .request 1 (.createStageItem ⟨1, none, .roundRobin, 3, none, three_teams⟩),
    .request 1 (.createStageItem ⟨2, none, .singleElimination, 2, none, two_teams⟩),
    .request 1 (.updateStageItemInput 1 1 (.final 3)),
    .request 1 (.updateStageItemInput 1 2 (.final 1)),
    .request 1 (.updateStageItemInput 1 3 (.final 2)),
    .request 1 (.updateStageItemInput 2 4 (.tentative 1 2 second_place)),
    .request 1 (.updateStageItemInput 2 5 (.tentative 1 1 first_place)),
    .request 1 (.activateNextStage .next)]

/-- A score in the group of three. -/
def firstScore : MatchBody where
  roundId := 1
  stageItemInput1Score := 2
  stageItemInput2Score := 1
  duration_ge := no_duration
  margin_ge := no_margin

/-- The group is seated, a match is played, and its winner goes to the final. -/
def playedGroup : List Call :=
  groupThenFinal ++ [.request 1 (.updateMatchById 1 firstScore), .request 1 (.activateNextStage .next)]

theorem standingsExact_empty : StandingsExact E .empty tid := by
  intro k row hrow
  cases hrow

theorem playedGroup_exact : ∃ db, runAllowed quietEnvironment
    (keepsTest quietEnvironment.expectedScore) playedGroup = .ok db ∧
    StandingsExact quietEnvironment.expectedScore db 1 := by
  obtain ⟨db, hdb, -⟩ := exists_ok_of_any (x := runAllowed quietEnvironment
    (keepsTest quietEnvironment.expectedScore) playedGroup)
    (P := fun db => (db.stageItemInputs.rows.map (·.wins)) = [0, 1, 0, 0, 0]) (by decide +kernel)
  have hrun : Runs (KeepsStandings quietEnvironment.expectedScore 1) .empty db :=
    runs_of_allowed (fun _ _ => keepsStandings_of_test) hdb
  exact ⟨db, hdb, standings_stay_exact .refl standingsExact_empty hrun⟩

end Runs

end Brackets
