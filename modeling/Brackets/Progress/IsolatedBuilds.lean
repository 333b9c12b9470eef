/-
  File:      Brackets/Progress/IsolatedBuilds.lean
  Subject:   What is created or moved for a tournament keeps to it.

  New stage items with their inputs, rounds and matches, the draft round of a Swiss pairing, and
  the teams that enter an activated stage.
-/
import Brackets.Progress.IsolatedStatements
import Brackets.Routes.Rounds
import Brackets.Scheduling.Builder
import Brackets.Scheduling.StageActivation

namespace Brackets

open Library

/-! ## 1. Matches of a new stage item -/

section Build

variable {db : Database} {tid : TournamentId}

theorem Grows.createMatches (hdb : Isolated db) {bodies : List MatchCreateBody}
    (h : ∀ b ∈ bodies, b.Within db tid) : Grows tid db (createMatches db bodies).2 := by
  induction bodies generalizing db with
  | nil => exact .refl tid hdb
  | cons b bodies ih =>
    have hb : Grows tid db (Brackets.sqlCreateMatch db b).2 :=
      .sqlCreateMatch hdb (h b List.mem_cons_self)
    exact hb.trans (ih hb.isolated fun c hc => hb.keeps.body (h c (List.mem_cons_of_mem _ hc)))

/-- The created matches are the tournament's. -/
theorem created_match (hdb : Isolated db) {bodies : List MatchCreateBody}
    (h : ∀ b ∈ bodies, b.Within db tid) {m : MatchRow} (hm : m ∈ (createMatches db bodies).1) :
    (createMatches db bodies).2.matchTournament m.id = some tid := by
  have hrow : m ∈ (createMatches db bodies).2.matches_.rows := by
    rw [createMatches_rows]
    exact List.mem_append_right _ hm
  rw [Database.matchTournament_row hrow]
  obtain ⟨b, hb, x, rfl⟩ := exists_body hm
  exact (Grows.createMatches hdb h).keeps.round _ _ (h b hb).round

theorem adjacentPairs_mem {α : Type} {l : List α} {ps : List (α × α)}
    (h : adjacentPairs l = .ok ps) : ∀ p ∈ ps, p.1 ∈ l ∧ p.2 ∈ l := by
  match l with
  | [] =>
    cases h
    exact fun p hp => absurd hp List.not_mem_nil
  | [a] => cases h
  | a :: b :: l =>
    obtain ⟨qs, hqs, h⟩ := bind_eq_ok.mp h
    cases h
    intro p hp
    rcases List.mem_cons.mp hp with rfl | hp
    · exact ⟨List.mem_cons_self, List.mem_cons_of_mem _ List.mem_cons_self⟩
    · obtain ⟨h1, h2⟩ := adjacentPairs_mem hqs p hp
      exact ⟨List.mem_cons_of_mem _ (List.mem_cons_of_mem _ h1),
        List.mem_cons_of_mem _ (List.mem_cons_of_mem _ h2)⟩

theorem Grows.buildRoundRobin (hdb : Isolated db) {item : StageItemWithRounds}
    (hitem : item.BelongsTo db tid) {db' : Database}
    (h : buildRoundRobinStageItem db tid item = .ok db') : Grows tid db db' := by
  obtain ⟨combinations, -, h⟩ := bind_eq_ok.mp h
  obtain ⟨tournament, -, h⟩ := bind_eq_ok.mp h
  obtain ⟨bodies, hbodies, h⟩ := bind_eq_ok.mp h
  cases h
  refine .createMatches hdb fun b hb => ?_
  obtain ⟨bs, hbs, hb⟩ := List.mem_flatten.mp hb
  obtain ⟨⟨round, n⟩, hround, hbs⟩ := mapM_ok_mem hbodies bs hbs
  have hround : round ∈ item.rounds := List.mem_of_getElem? (List.mem_zipIdx_iff_getElem?.mp hround)
  obtain ⟨pairs, -, hbs⟩ := bind_eq_ok.mp hbs
  obtain ⟨p, -, hp⟩ := mapM_ok_mem hbs b hb
  obtain ⟨i1, h1, hp⟩ := bind_eq_ok.mp hp
  obtain ⟨i2, h2, hp⟩ := bind_eq_ok.mp hp
  cases hp
  exact within_of_inputs (hitem.rounds round hround)
    (hitem.inputs i1 (List.mem_of_getElem? (orRaise_eq_ok.mp h1)))
    (hitem.inputs i2 (List.mem_of_getElem? (orRaise_eq_ok.mp h2)))

/-- The rounds of a bracket after the first; the induction carries that the matches of the round
    before are the tournament's. -/
theorem Grows.buildSubsequentRounds {tournament : TournamentRow} {rounds : List RoundWithMatches}
    {prevMatches : List MatchRow} (hdb : Isolated db)
    (hrounds : ∀ r ∈ rounds, db.roundTournament r.id = some tid)
    (hprev : ∀ m ∈ prevMatches, db.matchTournament m.id = some tid) {db' : Database}
    (h : buildSubsequentRounds tournament rounds (prevMatches, db) = .ok db') :
    Grows tid db db' := by
  induction rounds generalizing db prevMatches with
  | nil =>
    cases h
    exact .refl tid hdb
  | cons r rounds ih =>
    obtain ⟨bodies, hbodies, h⟩ := bind_eq_ok.mp h
    obtain ⟨pairs, hpairs, hbodies⟩ := bind_eq_ok.mp hbodies
    have hwithin : ∀ b ∈ bodies, b.Within db tid := by
      cases hbodies
      intro b hb
      obtain ⟨p, hp, rfl⟩ := List.mem_map.mp hb
      obtain ⟨h1, h2⟩ := adjacentPairs_mem hpairs p hp
      exact within_of_sources (hrounds r List.mem_cons_self) (hprev p.1 h1) (hprev p.2 h2)
    have hgrow := Grows.createMatches hdb hwithin
    exact hgrow.trans (ih hgrow.isolated
      (fun r hr => hgrow.keeps.round _ _ (hrounds r (List.mem_cons_of_mem _ hr)))
      (fun m hm => created_match hdb hwithin hm) h)

theorem Grows.buildSingleElimination (hdb : Isolated db) {item : StageItemWithRounds}
    (hitem : item.BelongsTo db tid) {db' : Database}
    (h : buildSingleEliminationStageItem db tid item = .ok db') : Grows tid db db' := by
  obtain ⟨loaded, hloaded, h⟩ := bind_eq_ok.mp h
  obtain ⟨tournament, -, h⟩ := bind_eq_ok.mp h
  have hrounds := (hdb.stageItem hloaded).rounds
  split at h
  · cases h
  · next firstRound rounds hloaded =>
    rw [hloaded] at hrounds
    obtain ⟨bodies, hbodies, h⟩ := bind_eq_ok.mp h
    obtain ⟨pairs, hpairs, hbodies⟩ := bind_eq_ok.mp hbodies
    have hwithin : ∀ b ∈ bodies, b.Within db tid := by
      cases hbodies
      intro b hb
      obtain ⟨p, hp, rfl⟩ := List.mem_map.mp hb
      obtain ⟨h1, h2⟩ := adjacentPairs_mem hpairs p hp
      exact within_of_inputs (hrounds firstRound List.mem_cons_self) (hitem.inputs p.1 h1)
        (hitem.inputs p.2 h2)
    have hgrow := Grows.createMatches hdb hwithin
    exact hgrow.trans (.buildSubsequentRounds hgrow.isolated
      (fun r hr => hgrow.keeps.round _ _ (hrounds r (List.mem_cons_of_mem _ hr)))
      (fun m hm => created_match hdb hwithin hm) h)

/-! ## 2. Stage items and their rounds -/

theorem Grows.sqlCreateRound (hdb : Isolated db) {name : String} {isDraft : Bool} {k : StageItemId}
    (hk : db.stageItemTournament k = some tid) :
    Grows tid db (sqlCreateRound db name isDraft k).2 :=
  .rounds hdb (.insert ⟨hk, trivial⟩)

/-- The new round is the tournament's. -/
theorem created_round (hdb : Isolated db) {name : String} {isDraft : Bool} {k : StageItemId}
    (hk : db.stageItemTournament k = some tid) :
    (sqlCreateRound db name isDraft k).2.roundTournament (sqlCreateRound db name isDraft k).1 =
      some tid := by
  have hrow : ⟨db.rounds.next, name, isDraft, k⟩ ∈
      (Brackets.sqlCreateRound db name isDraft k).2.rounds.rows :=
    db.rounds.mem_insert.mpr (Or.inr rfl)
  exact (Database.roundTournament_row hrow).trans
    ((Grows.sqlCreateRound hdb hk).keeps.stageItem _ _ hk)

theorem Grows.createRounds (hdb : Isolated db) {k : StageItemId}
    (hk : db.stageItemTournament k = some tid) (n : Nat) :
    Grows tid db ((createNextRound tid k)^[n] db) := by
  induction n generalizing db with
  | zero => exact .refl tid hdb
  | succ n ih =>
    have h : Grows tid db (createNextRound tid k db) := .sqlCreateRound hdb hk
    exact h.trans (ih h.isolated (h.keeps.stageItem _ _ hk))

theorem Grows.buildMatches (hdb : Isolated db) {E : ExpectedScore} {item : StageItemRow}
    (hk : db.stageItemTournament item.id = some tid) {db' : Database}
    (h : buildMatchesForStageItem E db item tid = .ok db') : Grows tid db db' := by
  obtain ⟨db1, h1, h⟩ := bind_eq_ok.mp h
  obtain ⟨loaded, hloaded, h⟩ := bind_eq_ok.mp h
  obtain ⟨n, -, h1⟩ := bind_eq_ok.mp h1
  cases h1
  have hrounds := Grows.createRounds hdb hk n
  have hitem := hrounds.isolated.stageItem hloaded
  refine hrounds.trans ?_
  split at h
  · obtain ⟨db2, h2, h⟩ := bind_eq_ok.mp h
    have hbuild := Grows.buildRoundRobin hrounds.isolated hitem h2
    exact hbuild.trans (.recalculateRanking hbuild.isolated h)
  · obtain ⟨db2, h2, h⟩ := bind_eq_ok.mp h
    have hbuild := Grows.buildSingleElimination hrounds.isolated hitem h2
    exact hbuild.trans (.recalculateRanking hbuild.isolated h)
  · cases h
    exact .refl tid hrounds.isolated

theorem Grows.sqlCreateEmptyInput (hdb : Isolated db) {k : StageItemId}
    (hk : db.stageItemTournament k = some tid) (slot : Int) :
    Grows tid db (sqlCreateEmptyInput tid k db slot) :=
  .inputs hdb (.insert ⟨rfl, rfl, hk, fun _ hs => (nomatch hs), fun _ ht => (nomatch ht)⟩)

theorem Grows.createEmptyInputs (hdb : Isolated db) {k : StageItemId}
    (hk : db.stageItemTournament k = some tid) (n : Nat) : Grows tid db
      ((List.range n).foldl (fun db (i : Nat) => Brackets.sqlCreateEmptyInput tid k db (i + 1)) db) :=
  .foldl (P := fun (db : Database) (_ : Nat) => db.stageItemTournament k = some tid)
    (fun _ _ _ hkeep hk => hkeep.stageItem _ _ hk)
    (fun _ i hdb hk => .sqlCreateEmptyInput hdb hk (i + 1)) hdb fun _ _ => hk

/-- The new stage item is of the tournament, under a ranking of the tournament. -/
theorem Grows.createStageItem (hdb : Isolated db) {body : StageItemCreateBody}
    (hstage : db.stageTournament body.stageId = some tid)
    (hranking : ∀ k, body.rankingId = some k → db.rankingTournament k = some tid)
    {new : StageItemRow × Database}
    (h : sqlCreateStageItemWithEmptyInputs db tid body = .ok new) :
    Grows tid db new.2 ∧ new.2.stageItemTournament new.1.id = some tid := by
  obtain ⟨rankingId, hr, rfl⟩ := sqlCreateStageItem_ok h
  have hranking : db.rankingTournament rankingId = some tid := by
    unfold rankingIdOf at hr
    split at hr
    · next hk =>
      cases hr
      exact hranking _ (Option.filter_eq_some_iff.mp hk).1
    · obtain ⟨ranking, hdefault, hr⟩ := bind_eq_ok.mp hr
      cases hr
      have hmem := List.mem_of_head? (orRaise_eq_ok.mp hdefault)
      rw [getAllRankingsInTournament, List.mem_insertionSort, List.mem_filter, beq_iff_eq] at hmem
      rw [Database.rankingTournament_row hmem.1, hmem.2]
  have hnew : Grows tid db { db with
      stageItems := db.stageItems.insert (body.row rankingId) (body.key_row rankingId) } :=
    .stageItems hdb (.insert ⟨hstage, hstage, hranking⟩)
  have hrow : body.row rankingId db.stageItems.next ∈
      (db.stageItems.insert (body.row rankingId) (body.key_row rankingId)).rows :=
    db.stageItems.mem_insert.mpr (Or.inr rfl)
  have hitem := (Database.stageItemTournament_row hrow).trans (hnew.keeps.stage _ _ hstage)
  have hinputs := Grows.createEmptyInputs hnew.isolated hitem body.teamCount
  exact ⟨hnew.trans hinputs, hinputs.keeps.stageItem _ _ hitem⟩

/-! ## 3. The draft of a Swiss round -/

/-- The pairs are pairs of the stage item's inputs, whatever the solver answers. -/
theorem pairing_inputs {maxWeightMatching : MatchingSolver} {shuffle : Shuffle}
    {item : StageItemWithRounds} {pairing : SwissPairing}
    (h : getSwissPairing maxWeightMatching shuffle item = .ok pairing) :
    ∀ p ∈ pairing.pairs, p.1 ∈ item.inputs ∧ p.2 ∈ item.inputs := by
  obtain ⟨meetings, -, h⟩ := bind_eq_ok.mp h
  obtain ⟨ordered, -, h⟩ := bind_eq_ok.mp h
  obtain ⟨pairs, hpairs, h⟩ := bind_eq_ok.mp h
  cases h
  have hteam : ∀ k i, (teamsById (swissOrder shuffle item)).get? k = some i → i ∈ item.inputs := by
    intro k i hi
    obtain ⟨t, ht, e⟩ := List.mem_map.mp (Dict.mem_of_ofList hi)
    cases e
    have ht := (shuffle.perm _).mem_iff.mp ((List.mem_insertionSort _).mp ht)
    exact (List.mem_filter.mp ht).1
  intro p hp
  obtain ⟨ids, -, hp⟩ := mapM_ok_mem hpairs p hp
  obtain ⟨team1, h1, hp⟩ := bind_eq_ok.mp hp
  obtain ⟨team2, h2, hp⟩ := bind_eq_ok.mp hp
  cases hp
  exact ⟨hteam _ _ (orRaise_eq_ok.mp h1), hteam _ _ (orRaise_eq_ok.mp h2)⟩

theorem Grows.createPairs (hdb : Isolated db) (tournament : TournamentRow) {roundId : RoundId}
    (hround : db.roundTournament roundId = some tid) {pairs : List (StageItemInput × StageItemInput)}
    (hpairs : ∀ p ∈ pairs, db.inputTournament p.1.id = some tid ∧
      db.inputTournament p.2.id = some tid) :
    Grows tid db (pairs.foldl
      (fun db pair => (Brackets.sqlCreateMatch db (pairBody tournament roundId pair)).2) db) :=
  .foldl (P := fun (db : Database) (p : StageItemInput × StageItemInput) =>
      (pairBody tournament roundId p).Within db tid)
    (fun _ _ _ hk hb => hk.body hb) (fun _ _ hdb hb => .sqlCreateMatch hdb hb) hdb
    fun p hp => within_of_inputs hround (hpairs p hp).1 (hpairs p hp).2

theorem Grows.draftRound (hdb : Isolated db) {tournament : TournamentRow} {body : RoundCreateBody}
    {item : StageItemWithRounds} (hitem : item.BelongsTo db tid) {pairing : SwissPairing}
    (hpairs : ∀ p ∈ pairing.pairs, p.1 ∈ item.inputs ∧ p.2 ∈ item.inputs) {db' : Database}
    (h : draftRound db tid tournament body item pairing = .ok db') : Grows tid db db' := by
  unfold Brackets.draftRound at h
  dsimp only at h
  generalize (body.name.filter (· ≠ "")).getD (getNextRoundName db tid item.id) = name at h
  have hround : Grows tid db (Brackets.sqlCreateRound db name true item.id).2 :=
    .sqlCreateRound hdb hitem.own
  have hmatches := Grows.createPairs hround.isolated tournament
    (created_round hdb hitem.own) fun p hp =>
      ⟨hround.keeps.input _ _ (hitem.inputs _ (hpairs p hp).1),
        hround.keeps.input _ _ (hitem.inputs _ (hpairs p hp).2)⟩
  exact (hround.trans hmatches).trans (.scheduleAllMatches hmatches.isolated h)

end Build

/-! ## 4. Activating and deactivating a stage -/

section Activation

variable {db : Database} {tid : TournamentId}

/-- A team that enters is the team of an input of the tournament. -/
theorem update_team {i : StageItemInput} {source : StageItemId × Int}
    {rankings : StageItemXTeamRanking} {u : StageItemInputUpdate}
    (h : getTeamUpdateForInput db tid i source rankings = .ok u) :
    db.teamTournament u.team.id = some tid := by
  obtain ⟨targetId, -, h⟩ := bind_eq_ok.mp h
  obtain ⟨target, htarget, h⟩ := bind_eq_ok.mp h
  obtain ⟨_, -, h⟩ := bind_eq_ok.mp h
  obtain ⟨team, hteam, h⟩ := bind_eq_ok.mp h
  cases h
  obtain ⟨input, hinput, hjoined⟩ := Option.bind_eq_some_iff.mp (orRaise_eq_ok.mp hteam)
  clear hteam
  obtain ⟨rfl, -⟩ := Option.filter_eq_some_iff.mp hinput
  unfold getStageItemInputById at htarget
  split at htarget
  · cases htarget
  · dsimp only at htarget
    split at htarget
    · cases htarget
      obtain ⟨t, -, ht⟩ := Option.bind_eq_some_iff.mp hjoined
      obtain ⟨ht, htid⟩ := Option.filter_eq_some_iff.mp ht
      have htid : team.tournamentId = tid := eq_of_beq htid
      rw [Database.teamTournament_row (db.teams.mem_of_find? ht), htid]
    · cases htarget

/-- The updates have teams of the tournament. -/
theorem updates_team {E : ExpectedScore} {stageId : StageId} {updates : StageItemInputUpdates}
    (h : getUpdatesToInputsInActivatedStage E db tid stageId = .ok updates) :
    ∀ u ∈ updates.values.flatten, db.teamTournament u.team.id = some tid := by
  obtain ⟨stages, -, h⟩ := bind_eq_ok.mp h
  obtain ⟨rankings, stage, -, -, -, hmem⟩ := updatesInActivatedStage_ok h
  intro u hu
  obtain ⟨item, -, i, -, source, -, hupdate⟩ := (hmem u).mp hu
  exact update_team hupdate

theorem Grows.updateMatchesInActivatedStage (hdb : Isolated db) {E : ExpectedScore}
    {stageId : StageId} {db' : Database}
    (h : updateMatchesInActivatedStage E db tid stageId = .ok db') : Grows tid db db' := by
  obtain ⟨updates, hupdates, h⟩ := bind_eq_ok.mp h
  exact .foldlM (P := fun (db : Database) (u : StageItemInputUpdate) =>
      db.teamTournament u.team.id = some tid)
    (fun _ _ _ hk hu => hk.team _ _ hu)
    (fun _ _ _ hdb hu h => .sqlSetTeamId hdb (fun t ht => Option.some.inj ht ▸ hu) h) hdb
    (updates_team hupdates) h

theorem Grows.updateMatchesInDeactivatedStage (hdb : Isolated db) {stage : StageWithStageItems}
    {db' : Database} (h : updateMatchesInDeactivatedStage db tid stage = .ok db') :
    Grows tid db db' := by
  refine .foldlM (P := fun _ _ => True) (fun _ _ _ _ h => h) (fun db db' item hdb _ h => ?_) hdb
    (fun _ _ => trivial) h
  have hclear : Grows tid db (clearScoresForMatchesInStageItem db tid item.id) :=
    .clearScores hdb item.id
  exact hclear.trans (.foldlM (P := fun _ _ => True) (fun _ _ _ _ h => h)
    (fun _ _ _ hdb _ h => .sqlSetTeamId hdb (fun _ ht => by cases ht) h) hclear.isolated
    (fun _ _ => trivial) h)

end Activation

end Brackets
