/-
  File:      Brackets/Ranking/Players.lean
  Subject:   `logic/ranking/players.py`: the results of the players, in schedule order.

  `determinePlayerStatistics` replays the counted matches of all stages and adds each result to
  the members of both teams. The ratings are floats in the program and exact rationals here; the
  expected result comes from `math.pow`, so it is the parameter `E` of the rankings.

  * `playerStatistics_count`: a player's wins, draws and losses count the sides of the published
    matches, once for each place the player has in the side's team;
  * `playerStatistics_score`: the score is the wins and half the draws;
  * `playerStatistics_teams`: players and teams count the same matches.
-/
import Brackets.FullLoad
import Brackets.Library.Tally
import Brackets.Ranking.Tallies

namespace Brackets

open Library

/-! ## 1. Statistics of a player -/

structure PlayerStatistics where
  wins : Int := 0
  draws : Int := 0
  losses : Int := 0
  eloScore : Rat := startElo
  swissScore : Rat := 0
  deriving DecidableEq, Repr

/-- The result of a side: `Decimal(1)`, `Decimal("0.5")` or `Decimal(0)`. -/
def Verdict.result : Verdict → Rat
  | .win => 1
  | .draw => 1 / 2
  | .loss => 0

namespace PlayerStatistics

def count (s : PlayerStatistics) : Verdict → Int
  | .win => s.wins
  | .draw => s.draws
  | .loss => s.losses

/-- One more result. -/
def record (s : PlayerStatistics) (v : Verdict) : PlayerStatistics :=
  let s := { s with swissScore := s.swissScore + v.result }
  match v with
  | .win => { s with wins := s.wins + 1 }
  | .draw => { s with draws := s.draws + 1 }
  | .loss => { s with losses := s.losses + 1 }

theorem count_record (s : PlayerStatistics) (v w : Verdict) :
    (s.record v).count w = s.count w + if v = w then 1 else 0 := by
  cases v <;> cases w <;> simp [record, count]

/-- The score is the wins and half the draws. -/
def Scored (s : PlayerStatistics) : Prop := s.swissScore = s.wins + (s.draws : Rat) / 2

instance (s : PlayerStatistics) : Decidable s.Scored := inferInstanceAs (Decidable (_ = _))

theorem scored_empty : ({} : PlayerStatistics).Scored := by decide +kernel

theorem Scored.record {s : PlayerStatistics} (h : s.Scored) (v : Verdict) : (s.record v).Scored := by
  unfold Scored at h ⊢
  cases v with
  | win =>
    show s.swissScore + 1 = ((s.wins + 1 : Int) : Rat) + (s.draws : Rat) / 2
    rw [h, Rat.intCast_add]
    grind
  | draw =>
    show s.swissScore + 1 / 2 = (s.wins : Rat) + ((s.draws + 1 : Int) : Rat) / 2
    rw [h, Rat.intCast_add]
    grind
  | loss =>
    show s.swissScore + 0 = (s.wins : Rat) + (s.draws : Rat) / 2
    rw [h, Rat.add_zero]

end PlayerStatistics

/-! ## 2. The matches in schedule order -/

/-- The matches of the published rounds that count. -/
def playedMatches (stages : List StageWithStageItems) : List Match :=
  stages.flatMap fun stage => stage.stageItems.flatMap fun item =>
    (item.rounds.filter fun r => !r.isDraft).flatMap fun r => r.matches_.filter (·.counts)

/-- The sort key's order: the start (a match without one comes last), then the round, then the
    match. -/
def scheduledBefore (a b : Match) : Prop :=
  let later : Prop := a.roundId < b.roundId ∨ a.roundId = b.roundId ∧ a.id ≤ b.id
  match a.startTime, b.startTime with
  | some s, some t => s < t ∨ s = t ∧ later
  | some _, none => True
  | none, some _ => False
  | none, none => later

instance : DecidableRel scheduledBefore := fun a b => by
  unfold scheduledBefore
  dsimp only
  split <;> infer_instance

/-! ## 3. The replay -/

/-- `round(q)`: to the nearest integer, halves to the even one. -/
def roundHalfEven (q : Rat) : Int :=
  let n := (q + 1 / 2).floor
  if q + 1 / 2 = n ∧ n % 2 = 1 then n - 1 else n

/-- Ratings and statistics while the matches are replayed. -/
structure PlayerTotals where
  ratings : Dict PlayerId Rat
  statistics : Dict PlayerId PlayerStatistics

def PlayerTotals.empty : PlayerTotals := ⟨.empty, .empty⟩

/-- The members of the team of an input. -/
def teamPlayerIds (playerIdsPerTeam : Dict TeamId (List PlayerId)) (i : StageItemInput) :
    List PlayerId :=
  match i.teamId with
  | some t => playerIdsPerTeam.getD t []
  | none => []

/-- The average rating of a team. -/
def teamRating (ratings : Dict PlayerId Rat) (playerIds : List PlayerId) : Rat :=
  if playerIds.length > 0 then
    (playerIds.map fun p => ratings.getD p startElo).foldl (· + ·) 0 / playerIds.length
  else startElo

/-- A result of a team, for one of its players. -/
def recordPlayer (v : Verdict) (ratingChange : Rat) (s : PlayerTotals) (p : PlayerId) :
    PlayerTotals where
  ratings := s.ratings.set p (s.ratings.getD p startElo + ratingChange)
  statistics := s.statistics.set p ((s.statistics.getD p {}).record v)

/-- The turn of one side of a match. -/
def recordTeam (E : ExpectedScore) (v : Verdict) (ratingDiff : Rat) (playerIds : List PlayerId)
    (s : PlayerTotals) : Outcome PlayerTotals := do
  let expectedResult ← orRaise (E (ratingDiff / D)) (.crash .overflowError)
  .ok (playerIds.foldl (recordPlayer v (K * (v.result - expectedResult))) s)

/-- One turn of the loop over the matches. -/
def replayForPlayers (E : ExpectedScore) (playerIdsPerTeam : Dict TeamId (List PlayerId))
    (s : PlayerTotals) (m : Match) : Outcome PlayerTotals :=
  match m.stageItemInput1, m.stageItemInput2 with
  | some i1, some i2 => do
    let ids1 := teamPlayerIds playerIdsPerTeam i1
    let ids2 := teamPlayerIds playerIdsPerTeam i2
    let rating1 := teamRating s.ratings ids1
    let rating2 := teamRating s.ratings ids2
    let (score1, score2) := (m.stageItemInput1Score, m.stageItemInput2Score)
    let s ← recordTeam E (verdictOf score1 score2) (rating2 - rating1) ids1 s
    recordTeam E (verdictOf score2 score1) (rating1 - rating2) ids2 s
  | _, _ => .error (.crash .assertionError)

def playerIdsPerTeam (teams : List FullTeamWithPlayers) : Dict TeamId (List PlayerId) :=
  .ofList (teams.map fun t => (t.id, t.playerIds))

def determinePlayerStatistics (E : ExpectedScore) (stages : List StageWithStageItems)
    (teams : List FullTeamWithPlayers) : Outcome (Dict PlayerId PlayerStatistics) := do
  let s ← ((playedMatches stages).insertionSort scheduledBefore).foldlM
    (replayForPlayers E (playerIdsPerTeam teams)) .empty
  .ok (s.statistics.mapValues fun p q =>
    { q with eloScore := roundHalfEven (s.ratings.getD p startElo) })

def getPlayerStatistics (E : ExpectedScore) (db : Database) (tid : TournamentId) :
    Outcome (Dict PlayerId PlayerStatistics) := do
  let stages ← getFullTournamentDetails db tid { noDraftRounds := true }
  determinePlayerStatistics E stages (getTeamsWithMembers db tid)

/-! ## 4. What the replay counts -/

/-- How often a player has a verdict through a side of a match. -/
def timesOnSide (perTeam : Dict TeamId (List PlayerId)) (p : PlayerId) (v : Verdict)
    (a : StageItemInput × Verdict) : Int :=
  if a.2 = v then (teamPlayerIds perTeam a.1).count p else 0

section Counts

variable {E : ExpectedScore} {perTeam : Dict TeamId (List PlayerId)}

theorem recordPlayers_count (v w : Verdict) (ratingChange : Rat) (ids : List PlayerId)
    (s : PlayerTotals) (p : PlayerId) :
    ((ids.foldl (recordPlayer v ratingChange) s).statistics.getD p {}).count w =
      (s.statistics.getD p {}).count w + if v = w then (ids.count p : Int) else 0 := by
  induction ids generalizing s with
  | nil =>
    rw [List.foldl_nil, List.count_nil, Int.natCast_zero, ite_self, Int.add_zero]
  | cons q ids ih =>
    rw [List.foldl_cons, ih, List.count_cons, recordPlayer, Dict.getD_set]
    by_cases hq : p = q
    · subst hq
      rw [if_pos rfl, PlayerStatistics.count_record, beq_self_eq_true, if_pos rfl]
      split <;> omega
    · rw [if_neg hq, beq_eq_false_iff_ne.mpr (Ne.symm hq), if_neg Bool.false_ne_true, Nat.add_zero]

theorem recordPlayers_scored (v : Verdict) (ratingChange : Rat) (ids : List PlayerId)
    {s : PlayerTotals} (h : ∀ p, (s.statistics.getD p {}).Scored) (p : PlayerId) :
    ((ids.foldl (recordPlayer v ratingChange) s).statistics.getD p {}).Scored := by
  induction ids generalizing s with
  | nil => exact h p
  | cons q ids ih =>
    refine ih fun r => ?_
    rw [recordPlayer, Dict.getD_set]
    split
    · exact (h q).record v
    · exact h r

theorem recordTeam_ok {v : Verdict} {ratingDiff : Rat} {ids : List PlayerId} {s s' : PlayerTotals}
    (h : recordTeam E v ratingDiff ids s = .ok s') :
    ∃ change, s' = ids.foldl (recordPlayer v change) s := by
  obtain ⟨e, -, h⟩ := bind_eq_ok.mp h
  cases h
  exact ⟨_, rfl⟩

/-- A turn of the loop records both teams with their verdicts. -/
theorem replayForPlayers_ok {s s' : PlayerTotals} {m : Match} (hm : m.counts = true)
    (h : replayForPlayers E perTeam s m = .ok s') : ∃ i1 i2 v1 v2 change1 change2,
      m.sides = [(i1, v1), (i2, v2)] ∧
      s' = (teamPlayerIds perTeam i2).foldl (recordPlayer v2 change2)
        ((teamPlayerIds perTeam i1).foldl (recordPlayer v1 change1) s) := by
  unfold replayForPlayers at h
  unfold Match.counts Match.isDefinitive at hm
  unfold Match.sides
  cases h1 : m.stageItemInput1 with
  | none =>
    rw [h1] at h
    cases h
  | some i1 =>
    cases h2 : m.stageItemInput2 with
    | none =>
      rw [h1, h2] at h
      cases h
    | some i2 =>
      rw [h1, h2] at h hm
      obtain ⟨s1, hs1, h⟩ := bind_eq_ok.mp h
      obtain ⟨c1, rfl⟩ := recordTeam_ok hs1
      obtain ⟨c2, rfl⟩ := recordTeam_ok h
      have hscore : (m.stageItemInput1Score != 0 || m.stageItemInput2Score != 0) = true := by
        simpa using hm
      exact ⟨i1, i2, _, _, c1, c2, if_pos hscore, rfl⟩

theorem replayForPlayers_count {s s' : PlayerTotals} {m : Match} (hm : m.counts = true)
    (h : replayForPlayers E perTeam s m = .ok s') (p : PlayerId) (v : Verdict) :
    (s'.statistics.getD p {}).count v =
      (s.statistics.getD p {}).count v + (m.sides.map (timesOnSide perTeam p v)).sum := by
  obtain ⟨i1, i2, v1, v2, c1, c2, hsides, rfl⟩ := replayForPlayers_ok hm h
  rw [recordPlayers_count, recordPlayers_count, hsides, List.map_cons, List.map_singleton,
    List.sum_cons, List.sum_singleton, Int.add_assoc]
  rfl

theorem replayAll_count {ms : List Match} (hms : ∀ m ∈ ms, m.counts = true) {s s' : PlayerTotals}
    (h : ms.foldlM (replayForPlayers E perTeam) s = .ok s') (p : PlayerId) (v : Verdict) :
    (s'.statistics.getD p {}).count v = (s.statistics.getD p {}).count v +
      ((ms.flatMap (·.sides)).map (timesOnSide perTeam p v)).sum := by
  induction ms generalizing s with
  | nil =>
    cases h
    exact (Int.add_zero _).symm
  | cons m ms ih =>
    rw [List.foldlM_cons] at h
    obtain ⟨s1, h1, h⟩ := bind_eq_ok.mp h
    rw [ih (fun m hm => hms m (List.mem_cons_of_mem _ hm)) h,
      replayForPlayers_count (hms m List.mem_cons_self) h1, List.flatMap_cons, List.map_append,
      List.sum_append, Int.add_assoc]

theorem replayAll_scored {ms : List Match} (hms : ∀ m ∈ ms, m.counts = true) {s s' : PlayerTotals}
    (h : ms.foldlM (replayForPlayers E perTeam) s = .ok s')
    (hs : ∀ p, (s.statistics.getD p {}).Scored) (p : PlayerId) :
    (s'.statistics.getD p {}).Scored := by
  induction ms generalizing s with
  | nil =>
    cases h
    exact hs p
  | cons m ms ih =>
    rw [List.foldlM_cons] at h
    obtain ⟨s1, h1, h⟩ := bind_eq_ok.mp h
    obtain ⟨i1, i2, v1, v2, c1, c2, -, rfl⟩ := replayForPlayers_ok (hms m List.mem_cons_self) h1
    exact ih (fun m hm => hms m (List.mem_cons_of_mem _ hm)) h fun q =>
      recordPlayers_scored v2 c2 _ (recordPlayers_scored v1 c1 _ hs) q

end Counts

/-! ## 5. The published matches -/

/-- The sides of the published matches of a stage item. -/
def StageItemWithRounds.publishedSides (item : StageItemWithRounds) :
    List (StageItemInput × Verdict) :=
  ((item.rounds.filter fun r => !r.isDraft).flatMap (·.matches_)).flatMap (·.sides)

theorem Match.sides_of_not_counts {m : Match} (h : ¬ m.counts = true) : m.sides = [] := by
  unfold Match.counts Match.isDefinitive at h
  unfold Match.sides
  cases h1 : m.stageItemInput1 with
  | none => rfl
  | some i1 =>
    cases h2 : m.stageItemInput2 with
    | none => rfl
    | some i2 =>
      rw [h1, h2] at h
      exact if_neg (by simpa using h)

theorem sides_filter_counts (ms : List Match) :
    (ms.filter (·.counts)).flatMap (·.sides) = ms.flatMap (·.sides) := by
  induction ms with
  | nil => rfl
  | cons m ms ih =>
    by_cases hm : m.counts = true
    · rw [List.filter_cons_of_pos hm, List.flatMap_cons, List.flatMap_cons, ih]
    · rw [List.filter_cons_of_neg hm, List.flatMap_cons, Match.sides_of_not_counts hm,
        List.nil_append, ih]

/-- The order of the replay plays no part in what is counted. -/
theorem publishedMatches_sides (item : StageItemWithRounds) :
    (item.publishedMatches.flatMap (·.sides)).Perm item.publishedSides :=
  (publishedMatches_perm item).flatMap_right _

theorem playedMatches_sides (stages : List StageWithStageItems) :
    (playedMatches stages).flatMap (·.sides) =
      (stages.flatMap (·.stageItems)).flatMap (·.publishedSides) := by
  unfold playedMatches StageItemWithRounds.publishedSides
  simp only [List.flatMap_assoc, sides_filter_counts]

theorem playedMatches_counts {stages : List StageWithStageItems} {m : Match}
    (h : m ∈ playedMatches stages) : m.counts = true := by
  obtain ⟨stage, -, h⟩ := List.mem_flatMap.mp h
  obtain ⟨item, -, h⟩ := List.mem_flatMap.mp h
  obtain ⟨r, -, h⟩ := List.mem_flatMap.mp h
  exact (List.mem_filter.mp h).2

section Players

variable {E : ExpectedScore} {stages : List StageWithStageItems} {teams : List FullTeamWithPlayers}
  {statistics : Dict PlayerId PlayerStatistics}

theorem mapElo_getD (d : Dict PlayerId PlayerStatistics) (elo : PlayerId → Rat) (p : PlayerId) :
    ((d.mapValues fun p q => { q with eloScore := elo p }).getD p {}) =
      { d.getD p {} with eloScore := if d.get? p = none then startElo else elo p } := by
  rw [Dict.getD, Dict.getD, Dict.get?_mapValues]
  cases d.get? p <;> rfl

/-- **A player's wins, draws and losses count the sides of the player's teams.** -/
theorem playerStatistics_count (h : determinePlayerStatistics E stages teams = .ok statistics)
    (p : PlayerId) (v : Verdict) : (statistics.getD p {}).count v =
      (((stages.flatMap (·.stageItems)).flatMap (·.publishedSides)).map
        (timesOnSide (playerIdsPerTeam teams) p v)).sum := by
  obtain ⟨s, hs, h⟩ := bind_eq_ok.mp h
  cases h
  have hperm := List.perm_insertionSort scheduledBefore (playedMatches stages)
  have hcount := replayAll_count (fun m hm => playedMatches_counts (hperm.mem_iff.mp hm)) hs p v
  rw [mapElo_getD _ fun p => roundHalfEven (s.ratings.getD p startElo), ← playedMatches_sides]
  have hstart : (((PlayerTotals.empty).statistics.getD p {}).count v) = 0 := by cases v <;> rfl
  rw [hstart, Int.zero_add, ((hperm.flatMap_right (·.sides)).map _).sum_eq] at hcount
  rw [← hcount]
  cases v <;> rfl

/-- **A player's score is the wins and half the draws.** -/
theorem playerStatistics_score (h : determinePlayerStatistics E stages teams = .ok statistics)
    (p : PlayerId) : (statistics.getD p {}).Scored := by
  obtain ⟨s, hs, h⟩ := bind_eq_ok.mp h
  cases h
  have hperm := List.perm_insertionSort scheduledBefore (playedMatches stages)
  have hscored := replayAll_scored (fun m hm => playedMatches_counts (hperm.mem_iff.mp hm)) hs
    (fun _ => PlayerStatistics.scored_empty) p
  rw [mapElo_getD _ fun p => roundHalfEven (s.ratings.getD p startElo)]
  exact hscored

end Players

/-! ## 6. Players and teams -/

theorem playerIdsPerTeam_get? {teams : List FullTeamWithPlayers} (hn : (teams.map (·.id)).Nodup)
    {t : FullTeamWithPlayers} (ht : t ∈ teams) :
    (playerIdsPerTeam teams).get? t.id = some t.playerIds := by
  rw [playerIdsPerTeam, Dict.get?_eq_some, Dict.ofList_entries (by rw [List.map_map]; exact hn)]
  exact List.mem_map_of_mem (f := fun t : FullTeamWithPlayers => (t.id, t.playerIds)) ht

theorem playerIdsPerTeam_none {teams : List FullTeamWithPlayers} (hn : (teams.map (·.id)).Nodup)
    {k : TeamId} (hk : ∀ t ∈ teams, t.id ≠ k) : (playerIdsPerTeam teams).get? k = none := by
  rw [playerIdsPerTeam, Dict.get?_eq_none, Dict.keys,
    Dict.ofList_entries (by rw [List.map_map]; exact hn), List.map_map]
  intro h
  obtain ⟨t, ht, e⟩ := List.mem_map.mp h
  exact hk t ht e

section OneItem

variable {teams : List FullTeamWithPlayers} {item : StageItemWithRounds} {p : PlayerId}
  {v : Verdict}

/-- The teams a player is in. -/
def teamsOf (teams : List FullTeamWithPlayers) (p : PlayerId) : List FullTeamWithPlayers :=
  teams.filter fun t => t.playerIds.contains p

/-- The inputs of a team in a stage item. -/
def StageItemWithRounds.inputsOf (item : StageItemWithRounds) (t : FullTeamWithPlayers) :
    List StageItemInput := item.inputs.filter (·.teamId == some t.id)

/-- The player's places in the team of an input are the player's teams that hold the input. -/
theorem count_teamPlayerIds (hn : (teams.map (·.id)).Nodup)
    (hmembers : ∀ t ∈ teams, t.playerIds.Nodup) (i : StageItemInput) :
    (teamPlayerIds (playerIdsPerTeam teams) i).count p =
      (teamsOf teams p).countP fun t => i.teamId == some t.id := by
  rw [teamsOf, List.countP_filter, teamPlayerIds]
  cases i.teamId with
  | none => exact (List.countP_eq_zero.mpr fun t _ => by simp).symm
  | some k =>
    by_cases hk : ∃ t ∈ teams, t.id = k
    · obtain ⟨t, ht, rfl⟩ := hk
      have hone := countP_key hn ht fun t => t.playerIds.contains p
      have hsame : teams.countP (fun u => (some t.id == some u.id) && u.playerIds.contains p) =
          if t.playerIds.contains p then 1 else 0 := by
        rw [← hone]
        refine List.countP_congr fun u _ => ?_
        rw [Bool.and_eq_true, Bool.and_eq_true, beq_iff_eq, decide_eq_true_eq, Option.some.injEq]
        exact and_congr_left' eq_comm
      rw [hsame]
      show ((playerIdsPerTeam teams).getD t.id []).count p = _
      rw [Dict.getD, playerIdsPerTeam_get? hn ht, Option.getD_some]
      by_cases hp : p ∈ t.playerIds
      · rw [List.count_eq_one_of_mem (hmembers t ht) hp, if_pos (by simpa using hp)]
      · rw [List.count_eq_zero_of_not_mem hp, if_neg (by simpa using hp)]
    · show ((playerIdsPerTeam teams).getD k []).count p = _
      rw [Dict.getD, playerIdsPerTeam_none hn fun t ht e => hk ⟨t, ht, e⟩, Option.getD_none,
        List.count_nil]
      refine (List.countP_eq_zero.mpr fun t ht h => hk ⟨t, ht, ?_⟩).symm
      rw [Bool.and_eq_true, beq_iff_eq] at h
      exact (Option.some.inj h.1).symm

/-- A side counts for the player through each of the player's teams that holds its input. -/
theorem timesOnSide_eq (hn : (teams.map (·.id)).Nodup) (hmembers : ∀ t ∈ teams, t.playerIds.Nodup)
    (hinputs : (item.inputs.map (·.id)).Nodup) {a : StageItemInput × Verdict}
    (ha : a.1 ∈ item.inputs) : timesOnSide (playerIdsPerTeam teams) p v a =
      (((teamsOf teams p).flatMap item.inputsOf).countP fun i =>
        decide (a.1.id = i.id ∧ a.2 = v) : Nat) := by
  unfold timesOnSide
  by_cases hv : a.2 = v
  · have hin : ∀ t ∈ teamsOf teams p, (item.inputsOf t).countP (fun i =>
        decide (a.1.id = i.id ∧ a.2 = v)) = if a.1.teamId == some t.id then 1 else 0 := by
      intro t _
      rw [StageItemWithRounds.inputsOf, List.countP_filter,
        ← countP_key hinputs ha fun i => i.teamId == some t.id]
      refine List.countP_congr fun i _ => ?_
      rw [Bool.and_eq_true, Bool.and_eq_true, decide_eq_true_eq, decide_eq_true_eq,
        and_iff_left hv]
      exact and_congr_left' eq_comm
    rw [if_pos hv, count_teamPlayerIds hn hmembers, countP_flatMap_unit hin]
  · rw [if_neg hv, List.countP_eq_zero.mpr fun i _ => by simp [hv]]
    rfl

/-- In one stage item, players and the inputs of their teams count the same sides. -/
theorem sides_of_teams (hn : (teams.map (·.id)).Nodup) (hmembers : ∀ t ∈ teams, t.playerIds.Nodup)
    (hinputs : (item.inputs.map (·.id)).Nodup) (hown : ∀ a ∈ item.publishedSides, a.1 ∈ item.inputs)
    {E : ExpectedScore} {ranking : RankingRow} {d : StatisticsDict}
    (hd : determineRankingForStageItem E item ranking = .ok d) :
    (item.publishedSides.map (timesOnSide (playerIdsPerTeam teams) p v)).sum =
      ((teamsOf teams p).map fun t => ((item.inputsOf t).map fun i =>
        (d.getD i.id (initialStatistics item.type)).count v).sum).sum := by
  have hcount : ∀ i : StageItemInput, (d.getD i.id (initialStatistics item.type)).count v =
      (item.publishedSides.countP (fun a => decide (a.1.id = i.id ∧ a.2 = v)) : Int) := by
    intro i
    rw [determineRanking_count hd, (publishedMatches_sides item).countP_eq]
  calc (item.publishedSides.map (timesOnSide (playerIdsPerTeam teams) p v)).sum
      = (item.publishedSides.map fun a => (((teamsOf teams p).flatMap item.inputsOf).countP fun i =>
          decide (a.1.id = i.id ∧ a.2 = v) : Int)).sum := by
        rw [List.map_congr_left fun a ha => timesOnSide_eq hn hmembers hinputs (hown a ha)]
    _ = (((teamsOf teams p).flatMap item.inputsOf).map fun i =>
          (d.getD i.id (initialStatistics item.type)).count v).sum := by
        rw [← sum_countP]
        simp only [hcount]
    _ = _ := by
        rw [List.map_flatMap, List.flatMap_def, List.sum_flatten, List.map_map]
        rfl

end OneItem

/-! ## 7. A tournament -/

section Tournament

variable {db : Database} {tid : TournamentId} {f : DetailsFilter}

theorem getTeamsWithMembers_nodup : ((getTeamsWithMembers db tid).map (·.id)).Nodup := by
  rw [getTeamsWithMembers, List.map_map]
  refine ((List.perm_insertionSort _ _).map _).nodup_iff.mpr ?_
  exact List.pairwise_map.mpr ((db.teams.sorted_filter _).imp fun h => ne_of_lt h)

theorem nodup_full_inputs (i : StageItemRow) :
    ((stageItemWithRounds db tid f i).inputs.map (·.id)).Nodup := by
  rw [stageItemWithRounds]
  refine ((List.perm_insertionSort _ _).map _).nodup_iff.mpr ?_
  refine List.Nodup.sublist (List.filter_sublist.map _) ?_
  rw [inputsWithTeams, List.map_map]
  exact List.pairwise_map.mpr ((db.stageItemInputs.sorted_filter _).imp fun h => ne_of_lt h)

/-- A side belongs to a match of the stage item. -/
theorem mem_publishedSides {item : StageItemWithRounds} {a : StageItemInput × Verdict}
    (h : a ∈ item.publishedSides) : ∃ r ∈ item.rounds, r.isDraft = false ∧
      ∃ m ∈ r.matches_, ∃ side, m.input side = some a.1 := by
  obtain ⟨m, hm, ha⟩ := List.mem_flatMap.mp h
  obtain ⟨r, hr, hm⟩ := List.mem_flatMap.mp hm
  obtain ⟨hr, hdraft⟩ := List.mem_filter.mp hr
  refine ⟨r, hr, by simpa using hdraft, m, hm, ?_⟩
  unfold Match.sides at ha
  cases h1 : m.stageItemInput1 with
  | none =>
    rw [h1] at ha
    cases ha
  | some i1 =>
    cases h2 : m.stageItemInput2 with
    | none =>
      rw [h1, h2] at ha
      cases ha
    | some i2 =>
      rw [h1, h2] at ha
      dsimp only at ha
      split at ha
      · rcases List.mem_cons.mp ha with rfl | ha
        · exact ⟨.one, h1⟩
        · rw [List.mem_singleton.mp ha]
          exact ⟨.two, h2⟩
      · cases ha

/-- The matches of a stage item are between its own inputs. -/
def OwnInputs (stages : List StageWithStageItems) : Prop :=
  ∀ stage item round m, Located stages stage item round m →
    ∀ side i, m.input side = some i → i ∈ item.inputs

/-- **Team and player results agree.** The counts of a player are the sums of those of the inputs
    of the player's teams, over all stage items, and the score follows from them. -/
theorem playerStatistics_teams {E : ExpectedScore} {noDraftRounds : Bool}
    {stages : List StageWithStageItems} {statistics : Dict PlayerId PlayerStatistics}
    (hload : getFullTournamentDetails db tid { noDraftRounds := noDraftRounds } = .ok stages)
    (hown : OwnInputs stages)
    (hmembers : ∀ t ∈ getTeamsWithMembers db tid, t.playerIds.Nodup)
    (hstatistics : determinePlayerStatistics E stages (getTeamsWithMembers db tid) = .ok statistics)
    {ranking : StageItemWithRounds → RankingRow} {d : StageItemWithRounds → StatisticsDict}
    (hd : ∀ item ∈ stages.flatMap (·.stageItems),
      determineRankingForStageItem E item (ranking item) = .ok (d item)) (p : PlayerId) :
    (∀ v, (statistics.getD p {}).count v =
      ((teamsOf (getTeamsWithMembers db tid) p).map fun t =>
        ((stages.flatMap (·.stageItems)).map fun item => ((item.inputsOf t).map fun i =>
          ((d item).getD i.id (initialStatistics item.type)).count v).sum).sum).sum) ∧
    (statistics.getD p {}).swissScore =
      (statistics.getD p {}).wins + ((statistics.getD p {}).draws : Rat) / 2 := by
  refine ⟨fun v => ?_, playerStatistics_score hstatistics p⟩
  have hf : DetailsFilter.Whole { noDraftRounds := noDraftRounds } := ⟨rfl, rfl⟩
  have hitem : ∀ item ∈ stages.flatMap (·.stageItems), (item.inputs.map (·.id)).Nodup ∧
      ∀ a ∈ item.publishedSides, a.1 ∈ item.inputs := by
    intro item hitem
    obtain ⟨stage, hstage, hin⟩ := List.mem_flatMap.mp hitem
    refine ⟨?_, fun a ha => ?_⟩
    · unfold getFullTournamentDetails at hload
      split at hload
      · cases hload
        obtain ⟨s, -, -, rfl⟩ := (mem_full_stages hf).mp hstage
        obtain ⟨i, -, -, rfl⟩ := (mem_full_stageItems hf).mp hin
        exact nodup_full_inputs i
      · cases hload
    · obtain ⟨r, hr, -, m, hm, side, hside⟩ := mem_publishedSides ha
      exact hown stage item r m ⟨hstage, hin, hr, hm⟩ side a.1 hside
  rw [playerStatistics_count hstatistics p v, List.map_flatMap, List.flatMap_def, List.sum_flatten,
    List.map_map, ← sum_swap]
  congr 1
  refine List.map_congr_left fun item hmem => ?_
  exact sides_of_teams getTeamsWithMembers_nodup hmembers (hitem item hmem).1 (hitem item hmem).2
    (hd item hmem)

end Tournament

/-- Two teams that share a player, after their first match. -/
def league : Database :=
  { Database.empty with
    tournaments := oneTournament
    stages := oneStage
    stageItems := ⟨[⟨1, "League", 1, 2, 1, .roundRobin⟩], 2, by decide, by decide⟩
    stageItemInputs := ⟨[⟨1, 1, 1, 1, some 1, none, none, 0, 0, 0, 0⟩,
      ⟨2, 2, 1, 1, some 2, none, none, 0, 0, 0, 0⟩], 3, by decide, by decide⟩
    rounds := oneRound
    matches_ := ⟨[⟨1, some 0, 10, 5, none, none, 1, some 1, some 2, false, false, none, none, 3, 1⟩],
      2, by decide, by decide⟩
    rankings := ⟨[⟨1, 1, 0, 2, 1, 0, false⟩], 2, by decide, by decide⟩
    teams := ⟨[⟨1, "Red", 1, true, none⟩, ⟨2, "Blue", 1, true, none⟩], 3, by decide, by decide⟩
    players := ⟨[⟨1, "Ann", 0, 1, true⟩, ⟨2, "Bob", 0, 1, true⟩, ⟨3, "Cas", 0, 1, true⟩], 4,
      by decide, by decide⟩
    playersXTeams := ⟨[⟨1, 1, 1⟩, ⟨2, 2, 1⟩, ⟨3, 1, 2⟩, ⟨4, 3, 2⟩], 5, by decide, by decide⟩ }

/-- The expected score between equal ratings, the only ones that meet in `league`. -/
def evenly : ExpectedScore := fun _ => some (1 / 2)

def leagueRanking : StageItemWithRounds → RankingRow := fun _ => ⟨1, 1, 0, 1, 1 / 2, 0, false⟩

def leagueStages : List StageWithStageItems :=
  fullTournamentDetails league 1 { noDraftRounds := true }

theorem league_players : ∃ statistics, ∃ d : StageItemWithRounds → StatisticsDict,
    determinePlayerStatistics evenly leagueStages (getTeamsWithMembers league 1) = .ok statistics ∧
    ∀ p, (∀ v, (statistics.getD p {}).count v =
      ((teamsOf (getTeamsWithMembers league 1) p).map fun t =>
        ((leagueStages.flatMap (·.stageItems)).map fun item => ((item.inputsOf t).map fun i =>
          ((d item).getD i.id (initialStatistics item.type)).count v).sum).sum).sum) ∧
      (statistics.getD p {}).swissScore =
        (statistics.getD p {}).wins + ((statistics.getD p {}).draws : Rat) / 2 := by
  have hplayers : (determinePlayerStatistics evenly leagueStages
      (getTeamsWithMembers league 1)).toOption.isSome = true := by decide +kernel
  have hitems : ∀ item ∈ leagueStages.flatMap (·.stageItems),
      (determineRankingForStageItem evenly item (leagueRanking item)).toOption.isSome = true := by
    decide +kernel
  obtain ⟨statistics, hstatistics⟩ := exists_ok hplayers
  have hown : ∀ stage ∈ leagueStages, ∀ item ∈ stage.stageItems, ∀ r ∈ item.rounds,
      ∀ m ∈ r.matches_, ∀ side ∈ [Side.one, Side.two], ∀ i ∈ m.input side, i ∈ item.inputs := by
    decide +kernel
  refine ⟨statistics, fun item => (determineRankingForStageItem evenly item
    (leagueRanking item)).toOption.getD .empty, hstatistics, fun p => ?_⟩
  refine @playerStatistics_teams league 1 evenly true leagueStages statistics ?_ ?_ ?_ hstatistics
    leagueRanking _ ?_ p
  · exact if_pos (by decide +kernel)
  · rintro stage item round m ⟨hs, hi, hr, hm⟩ side i hside
    exact hown stage hs item hi round hr m hm side (by cases side <;> decide) i hside
  · decide +kernel
  · intro item hitem
    obtain ⟨d, hd⟩ := exists_ok (hitems item hitem)
    rw [hd]
    rfl

end Brackets
