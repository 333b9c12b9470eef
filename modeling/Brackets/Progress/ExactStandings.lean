/-
  File:      Brackets/Progress/ExactStandings.lean
  Subject:   The stored statistics of groups and Swiss stage items: matches, rounds and rankings.

  A score entry and the deletions recalculate the stage item of the match, a change of a ranking
  all stage items that use it, and the other requests leave alone what the rankings read
  (`Refreshed`). The exceptions are in the hypotheses:

  * a match that is moved to another round counts in a stage item that is not recalculated;
  * publishing a round with results, or taking it back, does not recalculate (`KeepsResults`).
-/
import Brackets.Progress.ItemView
import Brackets.Progress.Seats
import Brackets.Progress.Sources

namespace Brackets

open Library

/-! ## 1. Exact standings -/

/-- The stored statistics of the stage item are exact, if it is a group or a Swiss stage item of
    the tournament. -/
def Accurate (E : ExpectedScore) (db : Database) (tid : TournamentId) (k : StageItemId) : Prop :=
  ∀ row, db.stageItems.find? k = some row → db.stageItemTournament k = some tid →
    row.type ≠ .singleElimination → StatisticsExact E db tid k

def StandingsExact (E : ExpectedScore) (db : Database) (tid : TournamentId) : Prop :=
  ∀ k, Accurate E db tid k

/-- Every stored input of the tournament can be loaded. -/
structure Loadable (db : Database) (tid : TournamentId) : Prop where
  filed : db.InputsFiled tid
  valid : ∀ i ∈ db.stageItemInputs.rows, (withTeam db i).valid = true

theorem Runs.loadable {C : Environment → Database → Call → Prop} {db : Database}
    (h : Runs C .empty db) (tid : TournamentId) : Loadable db tid :=
  ⟨(h.isolated isolated_empty).filed tid, fun _ hi => h.valid hi⟩

section Exact

variable {E : ExpectedScore} {db db' : Database} {tid : TournamentId} {j k : StageItemId}

theorem Loadable.item (h : Loadable db tid) {row : StageItemRow}
    (ht : db.stageItemTournament row.id = some tid) : (loadStageItem db tid row).valid = true :=
  (valid_iff_inputs h.filed ht).mpr fun i hi _ => h.valid i hi

theorem Loadable.getStageItem (h : Loadable db tid) {row : StageItemRow}
    (hrow : db.stageItems.find? k = some row) (ht : db.stageItemTournament k = some tid) :
    getStageItem db tid k = .ok (loadStageItem db tid row) := by
  obtain rfl : row.id = k := db.stageItems.key_of_find? hrow
  exact getStageItem_eq_ok.mpr ⟨row, hrow, ht, rfl, h.item ht⟩

theorem Backdrop.loadable (hb : Backdrop db db') (h : Loadable db tid) : Loadable db' tid :=
  ⟨hb.filed h.filed, hb.loads h.valid⟩

theorem Accurate.of_same (h : Accurate E db tid k) (hsame : SameRanking db db' tid k)
    (hload : Loadable db' tid) : Accurate E db' tid k := by
  intro row' hrow' ht htype'
  have htype := hsame.item
  rw [hrow', Option.map_some] at htype
  obtain ⟨row, hrow, htype⟩ := Option.map_eq_some_iff.mp htype.symm
  refine (h row hrow (hsame.tournament.symm.trans ht) (htype ▸ htype')).of_same hsame
    fun row hrow => ?_
  obtain rfl : row.id = k := db'.stageItems.key_of_find? hrow
  exact hload.item ht

/-- Each stage item is recalculated, or its ranking reads as before. -/
structure Refreshed (E : ExpectedScore) (db db' : Database) (tid : TournamentId) : Prop where
  item : ∀ k, SameRanking db db' tid k ∨ Accurate E db' tid k
  loadable : Loadable db' tid

theorem StandingsExact.refreshed (h : StandingsExact E db tid) (hr : Refreshed E db db' tid) :
    StandingsExact E db' tid :=
  fun k => (hr.item k).elim (fun hsame => (h k).of_same hsame hr.loadable) id

theorem Refreshed.of_same (h : ∀ k, SameRanking db db' tid k) (hload' : Loadable db' tid) :
    Refreshed E db db' tid :=
  ⟨fun k => Or.inl (h k), hload'⟩

theorem Refreshed.trans {db'' : Database} (h : Refreshed E db db' tid)
    (h' : Refreshed E db' db'' tid) : Refreshed E db db'' tid := by
  refine ⟨fun k => ?_, h'.loadable⟩
  rcases h'.item k with hsame' | hacc'
  · exact (h.item k).imp (fun hsame => hsame.trans hsame') fun hacc =>
      hacc.of_same hsame' h'.loadable
  · exact Or.inr hacc'

theorem Refreshed.of_elsewhere (he : Elsewhere db db' tid j) (hload : Loadable db tid)
    (hj : Accurate E db' tid j) : Refreshed E db db' tid := by
  refine ⟨fun k => ?_, he.backdrop.loadable hload⟩
  by_cases hk : k = j
  · exact Or.inr (hk ▸ hj)
  · exact Or.inl (he.same k hk)

/-- What changes no stage item's ranking. -/
theorem Refreshed.of_nowhere (he : ∀ j, Elsewhere db db' tid j) (hload : Loadable db tid) :
    Refreshed E db db' tid :=
  .of_same (fun k => (he (k + 1)).same k (Int.lt_succ k).ne) ((he 0).backdrop.loadable hload)

/-- After the stage item has been recalculated, and planned again. -/
theorem Refreshed.of_recalculated {db1 db2 : Database} {item : StageItemWithRounds}
    (hU : TeamsOnce db) (hload : Loadable db tid) (he : Elsewhere db db1 tid j)
    (hitem : getStageItem db1 tid j = .ok item)
    (hr : recalculateRankingForStageItem E db1 tid item = .ok db2)
    (hplan : db'.untimed = db2.untimed) : Refreshed E db db' tid := by
  have hstored := he.trans (.of_recalculated hitem hr)
  have hexact : StatisticsExact E db2 tid j :=
    exact_of_recalculated (he.backdrop.teamsOnce hU) hitem hr
  have hrecalculated : Refreshed E db db2 tid :=
    .of_elsewhere hstored hload fun _ _ _ _ => hexact
  exact hrecalculated.trans (.of_nowhere (fun _ => .of_untimed hplan) hrecalculated.loadable)

/-- Tables that no ranking reads. -/
theorem SameRanking.of_tables
    (hitems : (db'.stageItems.find? k).map (·.type) = (db.stageItems.find? k).map (·.type))
    (htour : db'.stageItemTournament k = db.stageItemTournament k)
    (hranking : getRankingForStageItem db' tid k = getRankingForStageItem db tid k)
    (hinputs : db'.stageItemInputs = db.stageItemInputs) (hrounds : db'.rounds = db.rounds)
    (hmatches : db'.matches_ = db.matches_) : SameRanking db db' tid k where
  item := hitems
  tournament := htour
  ranking := hranking
  results := by
    refine storedResults_of_rounds hrounds fun r _ _ => ?_
    unfold roundResults Database.knows
    rw [hinputs, hmatches]
  seats x i hi hk hteam := ⟨i, hinputs ▸ hi, hk, rfl, hteam, rfl⟩

end Exact

/-! ## 2. Matches -/

section Matches

variable {E : ExpectedScore} {db db' : Database} {tid : TournamentId}

theorem Elsewhere.scored {k : MatchId} {body : MatchBody} {m : MatchRow} {j : StageItemId}
    (hm : db.matches_.find? k = some m) (hround : body.roundId = m.roundId)
    (hitem : db.roundItem m.roundId = some j) : Elsewhere db (sqlUpdateMatch db k body) tid j := by
  refine .of_updateMatches fun row hrow hk => ?_
  have hrowid : row.id = m.id := (eq_of_beq hk).trans (db.matches_.key_of_find? hm).symm
  obtain rfl : row = m := db.matches_.eq_of_key hrow (db.matches_.mem_of_find? hm) hrowid
  exact ⟨hitem, hround⟩

/-- The matches of a loaded stage item are in its rounds. -/
theorem loaded_roundItem {d : Database} {item : StageItemRow} (hrounds : d.rounds = db.rounds)
    {r : RoundWithMatches} (hr : r ∈ (loadStageItem db tid item).rounds) {m : Match}
    (hm : m ∈ r.matches_) : d.roundItem m.roundId = some item.id := by
  obtain ⟨rrow, hrrow, hitem, rfl⟩ := mem_loaded_rounds.mp hr
  obtain ⟨mrow, -, hmround, rfl⟩ := mem_roundWithMatches.mp hm
  have hfind : db.rounds.find? mrow.roundId = some rrow := hmround ▸ db.rounds.find?_key hrrow
  show d.roundItem mrow.roundId = some item.id
  rw [Database.roundItem, hrounds, hfind, Option.map_some, hitem]

/-- **A score entry recalculates the stage item of its match** and leaves the others alone. -/
theorem Refreshed.updateMatchById {k : MatchId} {body : MatchBody} (hU : TeamsOnce db)
    (hload : Loadable db tid)
    (hround : ∀ m, db.matches_.find? k = some m → body.roundId = m.roundId)
    (hcall : updateMatchById E db tid k body = .ok db') : Refreshed E db db' tid := by
  obtain ⟨e⟩ := updateMatchById_ok hcall
  have hj : e.item.id = e.round.stageItemId := db.stageItems.key_of_find? e.ofItem
  have hof : db.roundItem e.row.roundId = some e.round.stageItemId := by
    rw [Database.roundItem, e.ofRound, Option.map_some]
  have hscored : Elsewhere db (sqlUpdateMatch db k body) tid e.round.stageItemId :=
    .scored e.found (hround _ e.found) hof
  have hplanned : Refreshed E db e.planned tid :=
    .of_recalculated hU hload hscored e.loads e.recalculation e.planning
  have hpropagation := e.propagation
  split at hpropagation
  · next htype =>
    have hstored := Elsewhere.of_recalculated e.loads e.recalculation
    have hbefore := (hscored.trans hstored).trans (.of_untimed e.planning)
    have hrounds : e.planned.rounds = (sqlUpdateMatch db k body).rounds := by
      have h1 : e.planned.untimed.rounds = e.recalculated.untimed.rounds := by rw [e.planning]
      have h2 : e.recalculated.unscored.rounds = (sqlUpdateMatch db k body).unscored.rounds := by
        rw [recalculateRanking_unscored e.recalculation]
      exact h1.trans h2
    have hmoved : Elsewhere e.planned db' tid e.item.id :=
      .of_propagated (fun r hr m hm => loaded_roundItem hrounds hr hm) hpropagation
    refine hplanned.trans (.of_elsewhere hmoved hplanned.loadable
      fun row hrow _ hne => absurd ?_ hne)
    -- the stage item whose winners move on is a single elimination
    rw [hmoved.backdrop.stageItems, hbefore.backdrop.stageItems, hj, e.ofItem] at hrow
    cases hrow
    exact htype
  · exact Except.ok.inj hpropagation ▸ hplanned

theorem Refreshed.createMatch {body : MatchCreateBodyFrontend} (hload : Loadable db tid)
    (hcall : createMatch db tid body = .ok db') : Refreshed E db db' tid := by
  obtain ⟨e⟩ := createMatch_ok hcall
  exact .of_nowhere (fun _ => .trans .of_createMatch
    (.of_untimed (scheduleAllMatches_untimed e.planning))) hload

theorem Elsewhere.deleted {k : MatchId} {j : StageItemId}
    (h : ∀ m ∈ db.matches_.rows, m.id = k → db.roundItem m.roundId = some j) :
    Elsewhere db (sqlDeleteMatch db k) tid j :=
  .of_deleteMatches fun m hm hk => h m hm (eq_of_beq hk)

theorem Refreshed.deleteMatch {k : MatchId} (hU : TeamsOnce db) (hload : Loadable db tid)
    (hcall : deleteMatch E db tid k = .ok db') : Refreshed E db db' tid := by
  obtain ⟨e⟩ := deleteMatch_ok hcall
  obtain ⟨row, inputs, hrow, -, hround⟩ := getRoundById_ok e.ofRound
  refine .of_recalculated hU hload (.deleted fun m hm hid => ?_) e.reloaded e.recalculation
    (scheduleAllMatches_untimed e.planning)
  have hfound := (matchDependency_ok e.found).1
  have hm : m = e.row := db.matches_.eq_of_key hm (db.matches_.mem_of_find? hfound) hid
  rw [hm, Database.roundItem, hrow, hround]
  rfl

end Matches

/-! ## 3. Rounds -/

section Rounds

variable {E : ExpectedScore} {db db' : Database} {tid : TournamentId}

theorem Elsewhere.createRound (name : String) (k j : StageItemId) :
    Elsewhere db (sqlCreateRound db name true k).2 tid j :=
  ⟨⟨rfl, rfl, rfl, rfl⟩, fun _ _ => .of_rounds storedResults_createRound⟩

theorem Elsewhere.createMatches {β : Type} (body : β → MatchCreateBody) (l : List β) (db : Database)
    (j : StageItemId) :
    Elsewhere db (l.foldl (fun d b => (sqlCreateMatch d (body b)).2) db) tid j :=
  .foldl (P := fun _ _ => True) (fun _ _ _ _ => trivial) (fun _ _ _ => .of_createMatch) l
    fun _ _ => trivial

theorem Refreshed.createRound {maxWeightMatching : MatchingSolver} {shuffle : Shuffle}
    {body : RoundCreateBody} (hload : Loadable db tid)
    (hcall : createRound maxWeightMatching shuffle db tid body = .ok db') :
    Refreshed E db db' tid := by
  obtain ⟨e⟩ := createRound_ok hcall
  let name := (body.name.filter (· ≠ "")).getD (getNextRoundName db tid e.item.id)
  have hdraft : ∀ j, Elsewhere db (e.pairing.pairs.foldl
      (fun d pair => (sqlCreateMatch d (pairBody e.tournament db.rounds.next pair)).2)
      (sqlCreateRound db name true e.item.id).2) tid j := fun j =>
    (Elsewhere.createRound name e.item.id j).trans (.createMatches _ _ _ j)
  exact .of_nowhere (fun j => (hdraft j).trans (.of_untimed (scheduleAllMatches_untimed e.drafted)))
    hload

/-- The matches of a round go one by one, and then the round. -/
theorem Elsewhere.withoutRound {k : RoundId} {row : RoundRow} (hrow : db.rounds.find? k = some row)
    {round : List Match} (hround : ∀ m ∈ round, ∀ r ∈ db.matches_.rows, r.id = m.id → r.roundId = k) :
    Elsewhere db (sqlDeleteRound (round.foldl (fun db m => sqlDeleteMatch db m.id) db) k) tid
      row.stageItemId := by
  have hof : ∀ {d : Database}, d.rounds = db.rounds → d.roundItem k = some row.stageItemId := by
    intro d hd
    rw [Database.roundItem, hd, hrow, Option.map_some]
  have hmatches : Elsewhere db (round.foldl (fun d (m : Match) => sqlDeleteMatch d m.id) db) tid
      row.stageItemId := Elsewhere.foldl (f := fun d (m : Match) => sqlDeleteMatch d m.id)
    (P := fun d m => d.rounds = db.rounds ∧ ∀ r ∈ d.matches_.rows, r.id = m.id → r.roundId = k)
    (fun d a m hd => ⟨hd.1, fun r hr hid => ?_⟩)
    (fun d m hd => .deleted fun r hr hid => by rw [hd.2 r hr hid, hof hd.1]) round
    (fun m hm => ⟨rfl, hround m hm⟩)
  · have hrounds : (round.foldl (fun d (m : Match) => sqlDeleteMatch d m.id) db).rounds = db.rounds :=
      foldl_project Database.rounds (fun d (m : Match) => sqlDeleteMatch d m.id) (fun _ _ => rfl) _ _
    revert hmatches hrounds
    generalize round.foldl (fun d (m : Match) => sqlDeleteMatch d m.id) db = d
    intro hmatches hrounds
    refine hmatches.trans (.trans (.of_deleteMatches (p := fun m => m.roundId == k)
      fun m _ hm => by rw [eq_of_beq hm, hof hrounds]) ⟨⟨rfl, rfl, rfl, rfl⟩, fun j hj => ?_⟩)
    refine .of_rounds (storedResults_deleteRounds fun r hr hrk => if_neg fun hof' => hj ?_)
    have hfind : d.rounds.find? r.id = some r := d.rounds.find?_key hr
    rw [eq_of_beq hrk, hrounds, hrow] at hfind
    rw [← hof'.1, ← Option.some.inj hfind]
  · obtain ⟨r0, hr0, rfl⟩ := List.mem_map.mp hr
    exact hd.2 r0 (Table.mem_delete _ |>.mp hr0).1 hid

theorem Refreshed.deleteRound {k : RoundId} (hU : TeamsOnce db) (hload : Loadable db tid)
    (hcall : deleteRound E db tid k = .ok db') : Refreshed E db db' tid := by
  obtain ⟨e⟩ := deleteRound_ok hcall
  obtain ⟨row, inputs, hrow, -, hround⟩ := getRoundById_ok e.found
  have hitem : e.round.stageItemId = row.stageItemId := by rw [hround]; rfl
  refine .of_recalculated hU hload (.withoutRound hrow fun m hm r hr hid => ?_)
    (hitem ▸ e.reloaded) e.recalculation (scheduleAllMatches_untimed e.planning)
  rw [hround] at hm
  obtain ⟨mrow, hmrow, hmround, rfl⟩ := mem_roundWithMatches.mp hm
  obtain rfl : r = mrow := db.matches_.eq_of_key hr hmrow hid
  exact hmround.trans (db.rounds.key_of_find? hrow)

/-- A round that is updated counts as before: its draft flag stays, or it has no results. -/
def KeepsResults (db : Database) (k : RoundId) (body : RoundUpdateBody) : Prop :=
  ∀ r, db.rounds.find? k = some r → body.isDraft = r.isDraft ∨ roundResults db r.stageItemId k = []

theorem SameRanking.updateRound {k : RoundId} {body : RoundUpdateBody}
    (hkeeps : KeepsResults db k body) (j : StageItemId) :
    SameRanking db (sqlUpdateRound db tid k body.name body.isDraft) tid j := by
  refine .of_rounds (storedResults_updateRounds fun r hr hp => ?_)
  rw [Bool.and_eq_true, beq_iff_eq, beq_iff_eq] at hp
  have hfind : db.rounds.find? r.id = some r := db.rounds.find?_key hr
  rw [hp.2] at hfind
  unfold publishedResults
  dsimp only
  rcases hkeeps r hfind with hflag | hnone
  · rw [hflag]
  · by_cases hj : r.stageItemId = j
    · rw [hp.2, ← hj, hnone, ite_self, ite_self]
    · rw [if_neg fun h => hj h.1, if_neg fun h => hj h.1]

theorem Refreshed.updateRoundById {k : RoundId} {body : RoundUpdateBody} (hload : Loadable db tid)
    (hkeeps : KeepsResults db k body) (hcall : updateRoundById db tid k body = .ok db') :
    Refreshed E db db' tid := by
  obtain ⟨-, -, rfl⟩ := updateRoundById_ok hcall
  have hb : Backdrop db (sqlUpdateRound db tid k body.name body.isDraft) := ⟨rfl, rfl, rfl, rfl⟩
  exact .of_same (SameRanking.updateRound hkeeps) (hb.loadable hload)

end Rounds

/-! ## 4. Stage items and rankings -/

section Rankings

variable {E : ExpectedScore} {db db' : Database} {tid : TournamentId}

/-- The turn of the loop over the stage items that use a ranking. -/
theorem refreshStageItem_elsewhere {j : StageItemId} (hU : TeamsOnce db)
    (h : refreshStageItem E tid db j = .ok db') :
    Elsewhere db db' tid j ∧ Accurate E db' tid j := by
  obtain ⟨item, hitem, ⟨e⟩⟩ := refreshStageItem_ok h
  have hstored := Elsewhere.of_recalculated hitem e.recalculation
  have hexact := exact_of_recalculated hU hitem e.recalculation
  have hpropagation := e.propagation
  split at hpropagation
  · next htype =>
    obtain ⟨row, hrow, -, rfl, -⟩ := getStageItem_eq_ok.mp hitem
    obtain rfl : row.id = j := db.stageItems.key_of_find? hrow
    have hrounds : e.recalculated.rounds = db.rounds := by
      have hall : e.recalculated.unscored.rounds = db.unscored.rounds := by
        rw [recalculateRanking_unscored e.recalculation]
      exact hall
    have hmoved : Elsewhere e.recalculated db' tid row.id :=
      .of_completed (fun r hr m hm => loaded_roundItem hrounds hr hm) hpropagation
    refine ⟨hstored.trans hmoved, fun row' hrow' _ hne => absurd ?_ hne⟩
    rw [(hstored.trans hmoved).backdrop.stageItems, hrow] at hrow'
    cases hrow'
    exact htype
  · obtain he := Except.ok.inj hpropagation
    exact he ▸ ⟨hstored, fun _ _ _ _ => hexact⟩

/-- **The loop recalculates** the stage items it visits, and leaves the others alone. -/
theorem refreshStageItems_refreshed {db0 : Database} {l : List StageItemId} (hU : TeamsOnce db)
    (hload : Loadable db tid)
    (hother : ∀ k, k ∈ l ∨ SameRanking db0 db tid k ∨ Accurate E db tid k)
    (h : l.foldlM (refreshStageItem E tid) db = .ok db') : Refreshed E db0 db' tid := by
  induction l generalizing db with
  | nil =>
    cases h
    exact ⟨fun k => (hother k).resolve_left List.not_mem_nil, hload⟩
  | cons j l ih =>
    rw [List.foldlM_cons] at h
    obtain ⟨db1, h1, h⟩ := bind_eq_ok.mp h
    obtain ⟨he, hj⟩ := refreshStageItem_elsewhere hU h1
    have hload1 := he.backdrop.loadable hload
    refine ih (he.backdrop.teamsOnce hU) hload1 (fun k => ?_) h
    by_cases hk : k = j
    · exact Or.inr (Or.inr (hk ▸ hj))
    · rcases hother k with hmem | hsame | hacc
      · exact Or.inl ((List.mem_cons.mp hmem).resolve_left hk)
      · exact Or.inr (Or.inl (hsame.trans (he.same k hk)))
      · exact Or.inr (Or.inr (hacc.of_same (he.same k hk) hload1))

theorem Refreshed.updateRankingById {k : RankingId} {body : RankingBody} (hU : TeamsOnce db)
    (hload : Loadable db tid) (hcall : updateRankingById E db tid k body = .ok db') :
    Refreshed E db db' tid := by
  obtain ⟨-, -, hcall⟩ := updateRankingById_ok hcall
  have hb : Backdrop db (sqlUpdateRanking db tid k body) := ⟨rfl, rfl, rfl, rfl⟩
  refine refreshStageItems_refreshed (hb.teamsOnce hU) (hb.loadable hload) (fun j => ?_) hcall
  by_cases hj : j ∈ getStageItemIdsByRankingId (sqlUpdateRanking db tid k body) tid k
  · exact Or.inl hj
  refine Or.inr ?_
  by_cases ht : db.stageItemTournament j = some tid
  · obtain ⟨row, _, hrow, -⟩ := stageItemTournament_eq_some.mp ht
    have hne : row.rankingId ≠ k := fun hk => hj (List.mem_map.mpr ⟨row, List.mem_filter.mpr
      ⟨db.stageItems.mem_of_find? hrow, ?_⟩, db.stageItems.key_of_find? hrow⟩)
    · refine Or.inl (.of_tables rfl rfl ?_ rfl rfl rfl)
      unfold getRankingForStageItem sqlUpdateRanking
      dsimp only
      rw [hrow, Option.bind_some, Option.bind_some, Table.find?_update]
      cases hr : db.rankings.find? row.rankingId with
      | none => rfl
      | some r =>
        have hid : r.id = row.rankingId := db.rankings.key_of_find? hr
        rw [Option.map_some, if_neg fun hp => hne ?_]
        rw [Bool.and_eq_true, beq_iff_eq, beq_iff_eq] at hp
        rw [← hid, hp.2]
    · obtain rfl : row.id = j := db.stageItems.key_of_find? hrow
      rw [Bool.and_eq_true, beq_iff_eq, beq_iff_eq]
      exact ⟨hk, ht⟩
  · exact Or.inr fun _ _ ht' => absurd ht' ht

end Rankings

end Brackets
