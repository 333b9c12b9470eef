/-
  File:      Brackets/Ranking/PlayerTurns.lean
  Subject:   A turn of the players' replay, on the results as a function of the player.

  What the replay reads of a match is its `Bout`: the members of the two teams and the scores. A
  turn rates both teams from the ratings before it and credits every member, so it reads and
  writes the players of the bout only.

  * `determinePlayerStatistics_bouts`: the statistics are the run of the bouts;
  * `sides_free`: on which side a team is entered does not matter, for inputs and for players;
  * `order_free`: the order within a round, and of matches that follow each other and share no
    player, does not matter.
-/
import Brackets.Ranking.Players
import Brackets.Ranking.Turns

namespace Brackets

open Library

/-! ## 1. Bouts -/

/-- What the players' replay reads of a match. -/
structure Bout where
  ids1 : List PlayerId
  ids2 : List PlayerId
  score1 : Int
  score2 : Int
  deriving DecidableEq, Repr

namespace Bout

def swap (b : Bout) : Bout := ⟨b.ids2, b.ids1, b.score2, b.score1⟩

/-- The player is in one of the two teams. -/
def Has (b : Bout) (p : PlayerId) : Prop := p ∈ b.ids1 ∨ p ∈ b.ids2

end Bout

def Match.bout? (perTeam : Dict TeamId (List PlayerId)) (m : Match) : Option Bout :=
  match m.stageItemInput1, m.stageItemInput2 with
  | some i1, some i2 => some ⟨teamPlayerIds perTeam i1, teamPlayerIds perTeam i2,
      m.stageItemInput1Score, m.stageItemInput2Score⟩
  | _, _ => none

/-- The bouts of the matches that count, in the order of the replay. -/
def bouts (stages : List StageWithStageItems) (teams : List FullTeamWithPlayers) : List Bout :=
  ((playedMatches stages).insertionSort scheduledBefore).filterMap
    (·.bout? (playerIdsPerTeam teams))

/-- The rating and the results of every player. -/
abbrev PlayersOf := PlayerId → Rat × Option PlayerStatistics

def PlayerTotals.reading (s : PlayerTotals) : PlayersOf := fun p =>
  (s.ratings.getD p startElo, s.statistics.get? p)

def creditPlayer (v : Verdict) (change : Rat) (s : PlayersOf) (p : PlayerId) : PlayersOf := fun q =>
  if q = p then ((s q).1 + change, some (((s q).2.getD {}).record v)) else s q

/-- The average rating of a team. -/
def averageIn (s : PlayersOf) (ids : List PlayerId) : Rat :=
  if ids.length > 0 then (ids.map fun p => (s p).1).foldl (· + ·) 0 / ids.length else startElo

def boutTurn (E : ExpectedScore) (s : PlayersOf) (b : Bout) : Outcome PlayersOf := do
  let rating1 := averageIn s b.ids1
  let rating2 := averageIn s b.ids2
  let e1 ← orRaise (E ((rating2 - rating1) / D)) (.crash .overflowError)
  let e2 ← orRaise (E ((rating1 - rating2) / D)) (.crash .overflowError)
  let v1 := verdictOf b.score1 b.score2
  let v2 := verdictOf b.score2 b.score1
  .ok (b.ids2.foldl (creditPlayer v2 (K * (v2.result - e2)))
    (b.ids1.foldl (creditPlayer v1 (K * (v1.result - e1))) s))

/-- The statistics that the program returns. -/
def finish (s : PlayersOf) : PlayerId → Option PlayerStatistics := fun p =>
  (s p).2.map fun q => { q with eloScore := roundHalfEven (s p).1 }

section Turns

variable {E : ExpectedScore}

theorem recordPlayer_reading (v : Verdict) (change : Rat) (s : PlayerTotals) (p : PlayerId) :
    (recordPlayer v change s p).reading = creditPlayer v change s.reading p := by
  funext q
  unfold PlayerTotals.reading creditPlayer recordPlayer
  rw [Dict.getD_set, Dict.get?_set]
  split
  · next hq =>
    subst hq
    rfl
  · rfl

theorem recordPlayers_reading (v : Verdict) (change : Rat) (ids : List PlayerId)
    (s : PlayerTotals) : (ids.foldl (recordPlayer v change) s).reading =
      ids.foldl (creditPlayer v change) s.reading := by
  induction ids generalizing s with
  | nil => rfl
  | cons p ids ih => rw [List.foldl_cons, List.foldl_cons, ih, recordPlayer_reading]

/-- A turn of the loop is a turn. -/
theorem replayForPlayers_reading {perTeam : Dict TeamId (List PlayerId)} {m : Match} {b : Bout}
    (hb : m.bout? perTeam = some b) (s : PlayerTotals) :
    (replayForPlayers E perTeam s m).map PlayerTotals.reading = boutTurn E s.reading b := by
  have haverage : ∀ ids, teamRating s.ratings ids = averageIn s.reading ids := fun _ => rfl
  unfold Match.bout? at hb
  unfold replayForPlayers
  cases h1 : m.stageItemInput1 with
  | none =>
    rw [h1] at hb
    cases hb
  | some i1 =>
    cases h2 : m.stageItemInput2 with
    | none =>
      rw [h1, h2] at hb
      cases hb
    | some i2 =>
      rw [h1, h2] at hb
      cases hb
      dsimp only
      rw [haverage, haverage]
      unfold boutTurn recordTeam
      dsimp only
      generalize averageIn s.reading (teamPlayerIds perTeam i1) = rating1
      generalize averageIn s.reading (teamPlayerIds perTeam i2) = rating2
      cases E ((rating2 - rating1) / D) with
      | none => rfl
      | some e1 =>
        cases E ((rating1 - rating2) / D) with
        | none => rfl
        | some e2 =>
          refine congrArg Except.ok ?_
          rw [recordPlayers_reading, recordPlayers_reading]

theorem foldlM_bouts (perTeam : Dict TeamId (List PlayerId)) {ms : List Match}
    (hms : ∀ m ∈ ms, m.counts = true) (s : PlayerTotals) :
    (ms.foldlM (replayForPlayers E perTeam) s).map PlayerTotals.reading =
      (ms.filterMap (·.bout? perTeam)).foldlM (boutTurn E) s.reading := by
  induction ms generalizing s with
  | nil => rfl
  | cons m ms ih =>
    obtain ⟨b, hb⟩ : ∃ b, m.bout? perTeam = some b := by
      have hm := hms m List.mem_cons_self
      unfold Match.counts Match.isDefinitive at hm
      unfold Match.bout?
      cases h1 : m.stageItemInput1 with
      | none => simp [h1] at hm
      | some i1 =>
        cases h2 : m.stageItemInput2 with
        | none => simp [h2] at hm
        | some i2 => exact ⟨_, rfl⟩
    rw [List.foldlM_cons, List.filterMap_cons_some hb, List.foldlM_cons,
      ← replayForPlayers_reading hb]
    cases replayForPlayers E perTeam s m with
    | error e => rfl
    | ok s1 => exact ih (fun m hm => hms m (List.mem_cons_of_mem _ hm)) s1

/-- **The statistics of the players are the run of the bouts.** -/
theorem determinePlayerStatistics_bouts (stages : List StageWithStageItems)
    (teams : List FullTeamWithPlayers) :
    (determinePlayerStatistics E stages teams).map Dict.get? =
      ((bouts stages teams).foldlM (boutTurn E) fun _ => (startElo, none)).map finish := by
  have hperm := List.perm_insertionSort scheduledBefore (playedMatches stages)
  have hrun := foldlM_bouts (E := E) (playerIdsPerTeam teams)
    (fun m hm => playedMatches_counts (hperm.mem_iff.mp hm)) PlayerTotals.empty
  unfold determinePlayerStatistics bouts
  rw [show (fun _ => (startElo, none) : PlayersOf) = PlayerTotals.empty.reading from rfl, ← hrun]
  cases ((playedMatches stages).insertionSort scheduledBefore).foldlM
      (replayForPlayers E (playerIdsPerTeam teams)) .empty with
  | error e => rfl
  | ok s =>
    refine congrArg Except.ok (funext fun p => ?_)
    exact Dict.get?_mapValues _ _ p

/-! ## 2. Crediting -/

theorem record_comm (s : PlayerStatistics) (v w : Verdict) :
    (s.record v).record w = (s.record w).record v := by
  have hscore : s.swissScore + v.result + w.result = s.swissScore + w.result + v.result :=
    add_right_comm _ _ _
  unfold PlayerStatistics.record
  cases v <;> cases w <;> dsimp only <;> rw [hscore]

theorem creditPlayer_comm (v w : Verdict) (c d : Rat) (s : PlayersOf) (p q : PlayerId) :
    creditPlayer w d (creditPlayer v c s p) q = creditPlayer v c (creditPlayer w d s q) p := by
  funext r
  unfold creditPlayer
  by_cases hp : r = p
  · by_cases hq : r = q
    · rw [if_pos hq, if_pos hp, if_pos hp, if_pos hq]
      refine Prod.ext (add_right_comm _ _ _) (congrArg some ?_)
      exact record_comm _ v w
    · rw [if_neg hq, if_pos hp, if_pos hp, if_neg hq]
  · by_cases hq : r = q
    · rw [if_pos hq, if_neg hp, if_neg hp, if_pos hq]
    · rw [if_neg hq, if_neg hp, if_neg hp, if_neg hq]

theorem creditPlayer_foldl (v w : Verdict) (c d : Rat) (ids : List PlayerId) (s : PlayersOf)
    (q : PlayerId) : creditPlayer w d (ids.foldl (creditPlayer v c) s) q =
      ids.foldl (creditPlayer v c) (creditPlayer w d s q) := by
  induction ids generalizing s with
  | nil => rfl
  | cons p ids ih => rw [List.foldl_cons, List.foldl_cons, ih, creditPlayer_comm]

/-- Two teams can be credited in either order, also where they share players. -/
theorem creditTeams_comm (v w : Verdict) (c d : Rat) (ids ids' : List PlayerId) (s : PlayersOf) :
    ids'.foldl (creditPlayer w d) (ids.foldl (creditPlayer v c) s) =
      ids.foldl (creditPlayer v c) (ids'.foldl (creditPlayer w d) s) := by
  induction ids' generalizing s with
  | nil => rfl
  | cons q ids' ih => rw [List.foldl_cons, List.foldl_cons, creditPlayer_foldl, ih]

/-- **A turn does not depend on which side a team is entered on.** -/
theorem boutTurn_swap (s : PlayersOf) (b : Bout) : boutTurn E s b.swap = boutTurn E s b := by
  unfold boutTurn Bout.swap
  dsimp only
  generalize averageIn s b.ids1 = rating1
  generalize averageIn s b.ids2 = rating2
  cases E ((rating2 - rating1) / D) with
  | none => cases E ((rating1 - rating2) / D) <;> rfl
  | some e1 =>
    cases E ((rating1 - rating2) / D) with
    | none => rfl
    | some e2 => exact congrArg Except.ok (creditTeams_comm _ _ _ _ _ _ s)

theorem creditTeam_other {v : Verdict} {c : Rat} {ids : List PlayerId} {p : PlayerId} (hp : p ∉ ids)
    (s : PlayersOf) : ids.foldl (creditPlayer v c) s p = s p := by
  induction ids generalizing s with
  | nil => rfl
  | cons q ids ih =>
    have hne : p ≠ q := fun e => hp (List.mem_cons.mpr (Or.inl e))
    rw [List.foldl_cons, ih fun h => hp (List.mem_cons_of_mem _ h)]
    exact if_neg hne

theorem creditTeam_same {v : Verdict} {c : Rat} {ids : List PlayerId} {p : PlayerId}
    {s s' : PlayersOf} (h : s' p = s p) :
    ids.foldl (creditPlayer v c) s' p = ids.foldl (creditPlayer v c) s p := by
  induction ids generalizing s s' with
  | nil => exact h
  | cons q ids ih =>
    refine ih ?_
    unfold creditPlayer
    rw [h]

theorem averageIn_congr {s s' : PlayersOf} {ids : List PlayerId} (h : ∀ p ∈ ids, s' p = s p) :
    averageIn s' ids = averageIn s ids := by
  unfold averageIn
  rw [List.map_congr_left fun p hp => congrArg Prod.fst (h p hp)]

/-- **A turn is local to the players of the bout.** -/
theorem boutTurn_local (b : Bout) :
    LocalTo (.crash .overflowError) b.Has (boutTurn E · b) := by
  refine ⟨fun s t h p hp => ?_, fun s s' h => ?_⟩
  · obtain ⟨e1, -, h⟩ := bind_eq_ok.mp h
    obtain ⟨e2, -, h⟩ := bind_eq_ok.mp h
    cases h
    rw [creditTeam_other fun hmem => hp (Or.inr hmem), creditTeam_other fun hmem => hp (Or.inl hmem)]
  · unfold boutTurn
    dsimp only
    rw [averageIn_congr fun p hp => h p (Or.inl hp), averageIn_congr fun p hp => h p (Or.inr hp)]
    generalize averageIn s b.ids1 = rating1
    generalize averageIn s b.ids2 = rating2
    cases E ((rating2 - rating1) / D) with
    | none => exact Or.inl ⟨rfl, rfl⟩
    | some e1 =>
      cases E ((rating1 - rating2) / D) with
      | none => exact Or.inl ⟨rfl, rfl⟩
      | some e2 =>
        exact Or.inr ⟨_, _, rfl, rfl, fun p hp => creditTeam_same (creditTeam_same (h p hp))⟩

end Turns

/-! ## 3. Sides -/

/-- The tournament with its matches changed. -/
def mapMatches (f : Match → Match) (stages : List StageWithStageItems) :
    List StageWithStageItems :=
  stages.map fun stage => { stage with stageItems := stage.stageItems.map (·.mapMatches f) }

theorem counts_swapIf (p : Match → Bool) (m : Match) : (swapIf p m).counts = m.counts := by
  rw [Match.counts_eq, Match.counts_eq, swapIf]
  split
  · rw [m.result?_swapSides, Option.isSome_map]
  · rfl

theorem scheduledBefore_swapIf (p : Match → Bool) (a b : Match) :
    scheduledBefore (swapIf p a) (swapIf p b) ↔ scheduledBefore a b := by
  unfold swapIf
  split <;> split <;> rfl

theorem playedMatches_swap (p : Match → Bool) (stages : List StageWithStageItems) :
    playedMatches (mapMatches (swapIf p) stages) = (playedMatches stages).map (swapIf p) := by
  unfold playedMatches mapMatches StageItemWithRounds.mapMatches
  simp only [List.flatMap_map, List.map_flatMap, List.filter_map, Function.comp_def, counts_swapIf]

/-- **Which side a team is entered on does not matter for the players.** -/
theorem determinePlayerStatistics_swapSides (E : ExpectedScore)
    (stages : List StageWithStageItems) (teams : List FullTeamWithPlayers) (p : Match → Bool) :
    (determinePlayerStatistics E (mapMatches (swapIf p) stages) teams).map Dict.get? =
      (determinePlayerStatistics E stages teams).map Dict.get? := by
  rw [determinePlayerStatistics_bouts, determinePlayerStatistics_bouts]
  congr 1
  unfold bouts
  rw [playedMatches_swap, ← List.map_insertionSort _ _ _ _ fun a _ b _ =>
    (scheduledBefore_swapIf p a b).symm, List.foldlM_filterMap, List.foldlM_filterMap,
    List.foldlM_map]
  congr 1
  funext s m
  by_cases hp : p m = true
  · have hbout : m.swapSides.bout? (playerIdsPerTeam teams) =
        (m.bout? (playerIdsPerTeam teams)).map (·.swap) := by
      unfold Match.bout? Match.swapSides
      cases m.stageItemInput1 <;> cases m.stageItemInput2 <;> rfl
    rw [swapIf, if_pos hp, hbout]
    cases m.bout? (playerIdsPerTeam teams) with
    | none => rfl
    | some b => exact boutTurn_swap s b
  · rw [swapIf, if_neg hp]

/-- **Sides do not matter**, in a stage item and for the players: exchanging the two inputs with
    their scores in any of the matches changes nobody's statistics. -/
theorem sides_free (E : ExpectedScore) (p : Match → Bool) :
    (∀ (item : StageItemWithRounds) (ranking : RankingRow),
      contents (determineRankingForStageItem E (item.mapMatches (swapIf p)) ranking) =
        contents (determineRankingForStageItem E item ranking)) ∧
    ∀ (stages : List StageWithStageItems) (teams : List FullTeamWithPlayers),
      (determinePlayerStatistics E (mapMatches (swapIf p) stages) teams).map Dict.get? =
        (determinePlayerStatistics E stages teams).map Dict.get? :=
  ⟨fun item ranking => determineRanking_swapSides E item ranking p,
    fun stages teams => determinePlayerStatistics_swapSides E stages teams p⟩

/-! ## 4. The order of the replay -/

/-- **Bouts that follow each other and share no player can be replayed in any order.** -/
theorem determinePlayerStatistics_reordered (E : ExpectedScore)
    {stages stages' : List StageWithStageItems} {teams : List FullTeamWithPlayers}
    {pre block block' post : List Bout} (h : bouts stages teams = pre ++ (block ++ post))
    (h' : bouts stages' teams = pre ++ (block' ++ post)) (hperm : block.Perm block')
    (hapart : block.Pairwise fun a b => ∀ p, a.Has p → ¬ b.Has p) :
    (determinePlayerStatistics E stages' teams).map Dict.get? =
      (determinePlayerStatistics E stages teams).map Dict.get? := by
  rw [determinePlayerStatistics_bouts, determinePlayerStatistics_bouts, h, h',
    foldlM_perm_middle boutTurn_local hperm hapart]

/-- **The order of matches without a common participant does not matter**, in a round of a stage
    item and in a stretch of the players' replay. -/
theorem order_free (E : ExpectedScore) :
    (∀ (item item' : StageItemWithRounds) (ranking : RankingRow), item.PlaysOnce →
      Renumbered item item' → contents (determineRankingForStageItem E item' ranking) =
        contents (determineRankingForStageItem E item ranking)) ∧
    ∀ (stages stages' : List StageWithStageItems) (teams : List FullTeamWithPlayers)
      (pre block block' post : List Bout), bouts stages teams = pre ++ (block ++ post) →
      bouts stages' teams = pre ++ (block' ++ post) → block.Perm block' →
      (block.Pairwise fun a b => ∀ p, a.Has p → ¬ b.Has p) →
      (determinePlayerStatistics E stages' teams).map Dict.get? =
        (determinePlayerStatistics E stages teams).map Dict.get? :=
  ⟨fun _ _ ranking hitem h => determineRanking_renumbered E hitem h ranking,
    fun _ _ _ _ _ _ _ h h' hperm hapart => determinePlayerStatistics_reordered E h h' hperm hapart⟩

/-- A Swiss round of four with its two matches under these numbers. -/
def foursome (first second : MatchId) : StageItemWithRounds where
  id := 1
  name := "Swiss"
  stageId := 1
  teamCount := 4
  rankingId := 1
  type := .swiss
  rounds := [{
    id := 1, name := "Round 01", isDraft := false, stageItemId := 1
    matches_ := [pairing first 1 2 3 1, pairing second 3 4 0 2] }]
  inputs := [duel.seat 1, duel.seat 2, duel.seat 3, duel.seat 4]
where
  pairing (k : MatchId) (a b score1 score2 : Int) : Match :=
    { id := k, startTime := none, durationMinutes := 10, marginMinutes := 5
      customDurationMinutes := none, customMarginMinutes := none, roundId := 1
      stageItemInput1Id := some a, stageItemInput2Id := some b
      stageItemInput1Conflict := false, stageItemInput2Conflict := false
      stageItemInput1WinnerFromMatchId := none, stageItemInput2WinnerFromMatchId := none
      stageItemInput1Score := score1, stageItemInput2Score := score2
      stageItemInput1 := some (duel.seat a), stageItemInput2 := some (duel.seat b) }

def foursomeStages (first second : MatchId) : List StageWithStageItems :=
  [{ id := 1, name := "Stage", tournamentId := 1, isActive := true
     customDurationMinutes := none, stageItems := [foursome first second] }]

/-- Four teams of one player each. -/
def singles : List FullTeamWithPlayers :=
  [1, 2, 3, 4].map fun k =>
    { id := k, name := "Team", tournamentId := 1, active := true, logoPath := none
      players := [⟨k, "Player", 0, 1, true⟩] }

theorem foursome_order_free :
    contents (determineRankingForStageItem evenly (foursome 2 1) ⟨1, 1, 0, 1, 1 / 2, 0, false⟩) =
      contents (determineRankingForStageItem evenly (foursome 1 2) ⟨1, 1, 0, 1, 1 / 2, 0, false⟩) ∧
    (determinePlayerStatistics evenly (foursomeStages 2 1) singles).map Dict.get? =
      (determinePlayerStatistics evenly (foursomeStages 1 2) singles).map Dict.get? := by
  refine ⟨(order_free evenly).1 _ _ _ ?_ ?_, (order_free evenly).2 _ _ _ []
    [⟨[1], [2], 3, 1⟩, ⟨[3], [4], 0, 2⟩] [⟨[3], [4], 0, 2⟩, ⟨[1], [2], 3, 1⟩] [] ?_ ?_ ?_ ?_⟩
  · intro r hr _
    obtain rfl := List.mem_singleton.mp hr
    refine List.pairwise_pair.mpr fun side side' => ?_
    cases side <;> cases side' <;> decide
  · exact ⟨rfl, rfl, .cons ⟨rfl, .refl _⟩ .nil⟩
  · decide +kernel
  · decide +kernel
  · exact .swap _ _ _
  · refine List.pairwise_pair.mpr fun p hp hq => ?_
    rcases hp with hp | hp <;> rcases hq with hq | hq <;>
      exact absurd ((List.mem_singleton.mp hp).symm.trans (List.mem_singleton.mp hq)) (by decide)

end Brackets
