/-
  File:      Brackets/Scheduling/RoundRobin.lean
  Subject:   `logic/scheduling/round_robin.py`: the matches of a round robin stage item.

  `getRoundRobinCombinations` is the circle method on the numbers of the inputs, with one phantom
  number when the inputs are odd; `buildRoundRobinStageItem` makes the matches of the rounds,
  leaving out those of the phantom. Positions out of range are failures of the model.

  * `getRoundRobinCombinations_eq`: the table of round `r` is `circle`, so the combinations are
    `circlePairs`;
  * `buildRoundRobin_ok`: with the rounds made for it the stage item is built, and of the created
    matches each two inputs have exactly one, no input has two in a round, and no input is missing
    from a round unless it sits out its one round (`Complete`).
-/
import Brackets.Library.Circle
import Brackets.Scheduling.Elimination

namespace Brackets

open Library

/-! ## 1. Combinations -/

/-- `(t[m], t[-1 - m])` for the matches of one round. -/
def tablePairs (matchesPerRound : Nat) (t : List Nat) : Outcome (List (Nat × Nat)) :=
  (List.range matchesPerRound).mapM fun m => do
    let team1 ← orRaise t[m]? (.crash .indexError)
    let team2 ← orRaise t.reverse[m]? (.crash .indexError)
    .ok (team1, team2)

/-- `t.remove(team)` and `t.insert(1, team)`. -/
def turnTable (t : List Nat) (team : Nat) : Outcome (List Nat) :=
  if team ∈ t then .ok ((t.erase team).take 1 ++ team :: (t.erase team).drop 1)
  else .error (.crash .valueError)

/-- The loop over the rounds `r`, with the table between them. -/
def combinationsLoop (rounds : Nat) : List Nat → List Nat → Outcome (List (List (Nat × Nat)))
  | [], _ => .ok []
  | r :: rs, t => do
    let pairs ← tablePairs ((rounds + 1) / 2) t
    let t ← turnTable t (rounds - r)
    let rest ← combinationsLoop rounds rs t
    .ok (pairs :: rest)

def getRoundRobinCombinations (teamCount : Nat) : Outcome (List (List (Nat × Nat))) :=
  let rounds := if teamCount % 2 = 1 then teamCount else teamCount - 1
  combinationsLoop rounds (List.range rounds) (List.range (rounds + 1))

def getNumberOfRoundsToCreateRoundRobin (teamCount : Nat) : Nat :=
  if teamCount < 1 then 0
  else if teamCount % 2 = 0 then teamCount - 1 else teamCount

/-! ## 2. Matches -/

def roundRobinBody (tournament : TournamentRow) (roundId : RoundId)
    (input1Id input2Id : StageItemInputId) : MatchCreateBody where
  roundId := roundId
  stageItemInput1Id := some input1Id
  stageItemInput2Id := some input2Id
  durationMinutes := tournament.durationMinutes
  marginMinutes := tournament.marginMinutes

/-- The bodies of the matches of one round, in order. -/
def roundRobinBodies (item : StageItemWithRounds) (tournament : TournamentRow)
    (combinations : List (List (Nat × Nat))) (round : RoundWithMatches × Nat) :
    Outcome (List MatchCreateBody) := do
  let pairs ← orRaise combinations[round.2]? (.crash .indexError)
  (pairs.filter fun p => p.1 < item.teamCount && p.2 < item.teamCount).mapM fun p => do
    let input1 ← orRaise item.inputs[p.1]? (.crash .indexError)
    let input2 ← orRaise item.inputs[p.2]? (.crash .indexError)
    .ok (roundRobinBody tournament round.1.id input1.id input2.id)

def buildRoundRobinStageItem (db : Database) (tid : TournamentId) (item : StageItemWithRounds) :
    Outcome Database := do
  let combinations ← getRoundRobinCombinations item.teamCount
  let tournament ← sqlGetTournament db tid
  let bodies ← item.rounds.zipIdx.mapM (roundRobinBodies item tournament combinations)
  .ok (createMatches db bodies.flatten).2

/-- A group is built of matches. -/
theorem buildRoundRobin_created {db db' : Database} {tid : TournamentId}
    {item : StageItemWithRounds} (h : buildRoundRobinStageItem db tid item = .ok db') :
    ∃ bodies, db' = (createMatches db bodies).2 := by
  obtain ⟨combinations, -, h⟩ := bind_eq_ok.mp h
  obtain ⟨tournament, -, h⟩ := bind_eq_ok.mp h
  obtain ⟨bodies, -, h⟩ := bind_eq_ok.mp h
  exact ⟨bodies.flatten, (Except.ok.inj h).symm⟩

/-! ## 3. The combinations are the circle method -/

theorem tablePairs_circle {R r : Nat} (hr : r ≤ R) :
    tablePairs ((R + 1) / 2) (circle R r) = .ok (circlePairs R r) := by
  refine mapM_eq_ok fun m hm => ?_
  have hm := List.mem_range.mp hm
  have hlen := length_circle hr
  have h1 := circle_getElem? hr (show m ≤ R by omega)
  have h2 : (circle R r).reverse[m]? = some (seat R r (R - m)) := by
    rw [List.getElem?_reverse (by omega), hlen, ← circle_getElem? hr (Nat.sub_le R m)]
    congr 1
  rw [h1, h2]
  rfl

theorem combinationsLoop_circle {R : Nat} (n r : Nat) (hn : r + n = R) :
    combinationsLoop R (List.range' r n) (circle R r) =
      .ok ((List.range' r n).map (circlePairs R)) := by
  induction n generalizing r with
  | zero => rfl
  | succ n ih =>
    obtain ⟨hmem, hturn⟩ := circle_turn (show r < R by omega)
    rw [List.range'_succ, combinationsLoop, tablePairs_circle (by omega), ok_bind, turnTable,
      if_pos hmem, ok_bind, hturn, ih (r + 1) (by omega)]
    rfl

/-- The number of rounds is odd. -/
theorem rounds_odd {n : Nat} (hn : 1 ≤ n) : getNumberOfRoundsToCreateRoundRobin n % 2 = 1 ∧
    n ≤ getNumberOfRoundsToCreateRoundRobin n + 1 := by
  unfold getNumberOfRoundsToCreateRoundRobin
  rw [if_neg (by omega)]
  split <;> omega

/-- **The combinations are the circle method.** -/
theorem getRoundRobinCombinations_eq {n : Nat} (hn : 1 ≤ n) : getRoundRobinCombinations n =
    .ok ((List.range (getNumberOfRoundsToCreateRoundRobin n)).map
      (circlePairs (getNumberOfRoundsToCreateRoundRobin n))) := by
  have hrounds : (if n % 2 = 1 then n else n - 1) = getNumberOfRoundsToCreateRoundRobin n := by
    have hpos : ¬ n < 1 := by omega
    unfold getNumberOfRoundsToCreateRoundRobin
    rcases Nat.mod_two_eq_zero_or_one n with h | h <;> simp [h, hpos]
  rw [getRoundRobinCombinations, hrounds, ← circle_zero, List.range_eq_range']
  exact combinationsLoop_circle _ 0 (Nat.zero_add _)

/-! ## 4. The created matches -/

/-- A stage item with its inputs and the rounds made for it. -/
structure RoundRobinItem (item : StageItemWithRounds) (n : Nat) : Prop where
  pos : 1 ≤ n
  teamCount : item.teamCount = n
  inputs : item.inputs.length = n
  distinctInputs : (item.inputs.map (·.id)).Nodup
  rounds : item.rounds.length = getNumberOfRoundsToCreateRoundRobin n
  distinctRounds : (item.rounds.map (·.id)).Nodup

/-- The input plays in the match. -/
def MatchRow.Plays (m : MatchRow) (i : StageItemInputId) : Prop :=
  m.stageItemInput1Id = some i ∨ m.stageItemInput2Id = some i

/-- The match is one of the two inputs. -/
def MatchRow.Between (m : MatchRow) (i j : StageItemInputId) : Prop :=
  m.stageItemInput1Id = some i ∧ m.stageItemInput2Id = some j ∨
    m.stageItemInput1Id = some j ∧ m.stageItemInput2Id = some i

/-- What the matches of a round robin are. -/
structure RoundRobin (item : StageItemWithRounds) (n : Nat) (created : List MatchRow) : Prop where
  ofItem : ∀ m ∈ created, (∃ r ∈ item.rounds, m.roundId = r.id) ∧
    ∃ i ∈ item.inputs, ∃ j ∈ item.inputs, i.id ≠ j.id ∧ m.Between i.id j.id
  everyPair : ∀ i ∈ item.inputs, ∀ j ∈ item.inputs, i.id ≠ j.id →
    ∃! m, m ∈ created ∧ m.Between i.id j.id
  oncePerRound : ∀ m ∈ created, ∀ m' ∈ created, m.roundId = m'.roundId →
    ∀ i, m.Plays i → m'.Plays i → m = m'
  even : n % 2 = 0 → ∀ i ∈ item.inputs, ∀ r ∈ item.rounds,
    ∃ m ∈ created, m.roundId = r.id ∧ m.Plays i.id
  odd : n % 2 = 1 → ∀ i ∈ item.inputs,
    ∃! r, r ∈ item.rounds ∧ ∀ m ∈ created, m.roundId = r.id → ¬ m.Plays i.id

/-- The id of the input with a number. -/
def inputNumber (item : StageItemWithRounds) (a : Nat) : StageItemInputId :=
  (item.inputs[a]?.map (·.id)).getD 0

/-- The bodies of a round, by the numbers that meet. -/
def numberedBodies (item : StageItemWithRounds) (tournament : TournamentRow) (R : Nat)
    (round : RoundWithMatches × Nat) : List MatchCreateBody :=
  ((circlePairs R round.2).filter fun p => p.1 < item.teamCount && p.2 < item.teamCount).map
    fun p => roundRobinBody tournament round.1.id (inputNumber item p.1) (inputNumber item p.2)

/-- One round stands at an index. -/
theorem round_at {rounds : List RoundWithMatches} {r s : RoundWithMatches} {k : Nat}
    (hr : (r, k) ∈ rounds.zipIdx) (hs : (s, k) ∈ rounds.zipIdx) : r = s := by
  have h1 := List.mem_zipIdx_iff_getElem?.mp hr
  have h2 := List.mem_zipIdx_iff_getElem?.mp hs
  exact Option.some.inj (h1.symm.trans h2)

section RoundRobin

variable {item : StageItemWithRounds} {n : Nat} (h : RoundRobinItem item n)
include h

theorem input_getElem? {a : Nat} (ha : a < n) :
    ∃ i, item.inputs[a]? = some i ∧ i ∈ item.inputs ∧ i.id = inputNumber item a := by
  have hlt : a < item.inputs.length := h.inputs ▸ ha
  have hget := List.getElem?_eq_getElem hlt
  exact ⟨_, hget, List.getElem_mem hlt, by rw [inputNumber, hget]; rfl⟩

theorem exists_inputNumber {i : StageItemInput} (hi : i ∈ item.inputs) :
    ∃ a < n, inputNumber item a = i.id := by
  obtain ⟨a, hlt, hget⟩ := List.getElem_of_mem hi
  refine ⟨a, h.inputs ▸ hlt, ?_⟩
  rw [inputNumber, List.getElem?_eq_getElem hlt, hget]
  rfl

/-- Different numbers are different inputs. -/
theorem inputNumber_inj {a b : Nat} (ha : a < n) (hb : b < n)
    (e : inputNumber item a = inputNumber item b) : a = b := by
  obtain ⟨i, hi, -, hia⟩ := input_getElem? h ha
  obtain ⟨j, hj, -, hjb⟩ := input_getElem? h hb
  have h1 : (item.inputs.map (·.id))[a]? = some (inputNumber item a) := by
    rw [List.getElem?_map, hi, ← hia]
    rfl
  have h2 : (item.inputs.map (·.id))[b]? = some (inputNumber item a) := by
    rw [List.getElem?_map, hj, e, ← hjb]
    rfl
  have hlt : a < (item.inputs.map (·.id)).length := by rw [List.length_map, h.inputs]; exact ha
  exact (List.getElem?_inj hlt h.distinctInputs).mp (h1.trans h2.symm)

/-- Every lookup of a round succeeds. -/
theorem roundRobinBodies_eq (tournament : TournamentRow) {round : RoundWithMatches × Nat}
    (hround : round ∈ item.rounds.zipIdx) :
    roundRobinBodies item tournament
        ((List.range (getNumberOfRoundsToCreateRoundRobin n)).map
          (circlePairs (getNumberOfRoundsToCreateRoundRobin n))) round =
      .ok (numberedBodies item tournament (getNumberOfRoundsToCreateRoundRobin n) round) := by
  have hlt : round.2 < getNumberOfRoundsToCreateRoundRobin n := by
    obtain ⟨hlt, -⟩ := List.getElem?_eq_some_iff.mp (List.mem_zipIdx_iff_getElem?.mp hround)
    rwa [h.rounds] at hlt
  rw [roundRobinBodies, List.getElem?_map, List.getElem?_range hlt, Option.map_some, orRaise_some,
    ok_bind]
  refine mapM_eq_ok fun p hp => ?_
  have hp := (List.mem_filter.mp hp).2
  rw [Bool.and_eq_true, decide_eq_true_eq, decide_eq_true_eq, h.teamCount] at hp
  obtain ⟨i, hi, -, hia⟩ := input_getElem? h hp.1
  obtain ⟨j, hj, -, hjb⟩ := input_getElem? h hp.2
  rw [hi, hj, ← hia, ← hjb]
  rfl

theorem round_index {r s : RoundWithMatches} {k l : Nat} (hr : (r, k) ∈ item.rounds.zipIdx)
    (hs : (s, l) ∈ item.rounds.zipIdx) (e : r.id = s.id) : k = l := by
  have hk := List.mem_zipIdx_iff_getElem?.mp hr
  have hl := List.mem_zipIdx_iff_getElem?.mp hs
  have h1 : (item.rounds.map (·.id))[k]? = some r.id := by rw [List.getElem?_map, hk]; rfl
  have h2 : (item.rounds.map (·.id))[l]? = some r.id := by rw [List.getElem?_map, hl, e]; rfl
  obtain ⟨hlt, -⟩ := List.getElem?_eq_some_iff.mp h1
  exact (List.getElem?_inj hlt h.distinctRounds).mp (h1.trans h2.symm)

theorem round_index_lt {r : RoundWithMatches} {k : Nat} (hr : (r, k) ∈ item.rounds.zipIdx) :
    k < getNumberOfRoundsToCreateRoundRobin n := by
  obtain ⟨hlt, -⟩ := List.getElem?_eq_some_iff.mp (List.mem_zipIdx_iff_getElem?.mp hr)
  rwa [h.rounds] at hlt

theorem exists_round {k : Nat} (hk : k < getNumberOfRoundsToCreateRoundRobin n) :
    ∃ r, (r, k) ∈ item.rounds.zipIdx ∧ r ∈ item.rounds := by
  have hlt : k < item.rounds.length := h.rounds ▸ hk
  exact ⟨item.rounds[k], List.mem_zipIdx_iff_getElem?.mpr (List.getElem?_eq_getElem hlt),
    List.getElem_mem hlt⟩

variable {tournament : TournamentRow} {db : Database} {created : List MatchRow}
  (hc : created = (createMatches db (item.rounds.zipIdx.map
    (numberedBodies item tournament (getNumberOfRoundsToCreateRoundRobin n))).flatten).1)
include hc

/-- Every created match is a meeting in its round. -/
theorem created_meets {m : MatchRow} (hm : m ∈ created) : ∃ r k a b,
    (r, k) ∈ item.rounds.zipIdx ∧ m.roundId = r.id ∧
    Meets (getNumberOfRoundsToCreateRoundRobin n) k a b ∧ a < n ∧ b < n ∧ a ≠ b ∧
    m.stageItemInput1Id = some (inputNumber item a) ∧
    m.stageItemInput2Id = some (inputNumber item b) := by
  rw [hc] at hm
  obtain ⟨body, hbody, x, rfl⟩ := exists_body hm
  obtain ⟨bodies, hbodies, hbody⟩ := List.mem_flatten.mp hbody
  obtain ⟨⟨r, k⟩, hr, rfl⟩ := List.mem_map.mp hbodies
  obtain ⟨⟨a, b⟩, hp, rfl⟩ := List.mem_map.mp hbody
  obtain ⟨hp, hlt⟩ := List.mem_filter.mp hp
  rw [Bool.and_eq_true, decide_eq_true_eq, decide_eq_true_eq, h.teamCount] at hlt
  have hodd := (rounds_odd h.pos).1
  have hk := Nat.le_of_lt (round_index_lt h hr)
  exact ⟨r, k, a, b, hr, rfl, (mem_circlePairs_or hodd).mp (Or.inl hp), hlt.1, hlt.2,
    circlePairs_ne hodd hk hp, rfl, rfl⟩

/-- Every meeting of two inputs is created. -/
theorem meets_created {r : RoundWithMatches} {k a b : Nat} (hr : (r, k) ∈ item.rounds.zipIdx)
    (hmeets : Meets (getNumberOfRoundsToCreateRoundRobin n) k a b) (ha : a < n) (hb : b < n) :
    ∃ m ∈ created, m.roundId = r.id ∧ m.Between (inputNumber item a) (inputNumber item b) := by
  have hbody : ∀ c d, (c, d) ∈ circlePairs (getNumberOfRoundsToCreateRoundRobin n) k → c < n →
      d < n → ∃ x, newMatch (roundRobinBody tournament r.id (inputNumber item c)
        (inputNumber item d)) x ∈ created := by
    intro c d hp hcn hdn
    rw [hc]
    refine exists_created db (List.mem_flatten.mpr
      ⟨_, List.mem_map_of_mem hr, List.mem_map.mpr ⟨(c, d), List.mem_filter.mpr ⟨hp, ?_⟩, rfl⟩⟩)
    rw [Bool.and_eq_true, decide_eq_true_eq, decide_eq_true_eq, h.teamCount]
    exact ⟨hcn, hdn⟩
  rcases (mem_circlePairs_or (rounds_odd h.pos).1).mpr hmeets with hp | hp
  · obtain ⟨x, hx⟩ := hbody a b hp ha hb
    exact ⟨_, hx, rfl, Or.inl ⟨rfl, rfl⟩⟩
  · obtain ⟨x, hx⟩ := hbody b a hp hb ha
    exact ⟨_, hx, rfl, Or.inr ⟨rfl, rfl⟩⟩

/-- **No input has two matches in a round.** -/
theorem created_oncePerRound {m m' : MatchRow} (hm : m ∈ created) (hm' : m' ∈ created)
    (hround : m.roundId = m'.roundId) {i : StageItemInputId} (hi : m.Plays i) (hi' : m'.Plays i) :
    m = m' := by
  let Apart : MatchRow → MatchRow → Prop := fun m m' =>
    m.roundId = m'.roundId → ∀ i, m.Plays i → ¬ m'.Plays i
  have hpairwise : created.Pairwise Apart := by
    rw [hc]
    refine createMatches_pairwise (List.pairwise_flatten.mpr ⟨fun bodies hbodies => ?_, ?_⟩)
    · -- within a round the pairs are disjoint
      obtain ⟨⟨r, k⟩, hr, rfl⟩ := List.mem_map.mp hbodies
      have hk := Nat.le_of_lt (round_index_lt h hr)
      refine List.pairwise_map.mpr (((circlePairs_disjoint hk).filter _).imp_of_mem ?_)
      intro p q hp hq hpq x x' _ i hi hi'
      have hp := (List.mem_filter.mp hp).2
      have hq := (List.mem_filter.mp hq).2
      rw [Bool.and_eq_true, decide_eq_true_eq, decide_eq_true_eq, h.teamCount] at hp hq
      have hnum : ∀ a b, a < n → b < n → some (inputNumber item a) = some i →
          some (inputNumber item b) = some i → a = b := fun a b ha hb h1 h2 =>
        inputNumber_inj h ha hb (Option.some.inj (h1.trans h2.symm))
      rcases hi with h1 | h1 <;> rcases hi' with h2 | h2
      · exact hpq p.1 (Or.inl rfl) (Or.inl (hnum _ _ hp.1 hq.1 h1 h2))
      · exact hpq p.1 (Or.inl rfl) (Or.inr (hnum _ _ hp.1 hq.2 h1 h2))
      · exact hpq p.2 (Or.inr rfl) (Or.inl (hnum _ _ hp.2 hq.1 h1 h2))
      · exact hpq p.2 (Or.inr rfl) (Or.inr (hnum _ _ hp.2 hq.2 h1 h2))
    · -- different rounds have different ids
      have hrounds : item.rounds.zipIdx.Pairwise fun r s => r.1.id ≠ s.1.id := by
        have e : item.rounds.zipIdx.map (fun r => r.1.id) = item.rounds.map (·.id) := by
          conv_rhs => rw [← List.zipIdx_map_fst 0 item.rounds, List.map_map]
          rfl
        exact List.pairwise_map.mp (e ▸ h.distinctRounds)
      refine List.pairwise_map.mpr (hrounds.imp fun {r s} hne b hb b' hb' x x' e => ?_)
      obtain ⟨p, -, rfl⟩ := List.mem_map.mp hb
      obtain ⟨q, -, rfl⟩ := List.mem_map.mp hb'
      exact absurd e hne
  have hsymm : ∀ a b : MatchRow, Apart a b → Apart b a := fun a b hab e i hb ha =>
    hab e.symm i ha hb
  by_contra hne
  have : Std.Symm Apart := ⟨hsymm⟩
  exact hpairwise.forall hm hm' hne hround i hi hi'

/-- **The created matches are a round robin.** -/
theorem created_roundRobin : RoundRobin item n created where
  ofItem := by
    intro m hm
    obtain ⟨r, k, a, b, hr, hround, -, ha, hb, hab, h1, h2⟩ := created_meets h hc hm
    obtain ⟨i, -, hi, hia⟩ := input_getElem? h ha
    obtain ⟨j, -, hj, hjb⟩ := input_getElem? h hb
    refine ⟨⟨r, List.mem_of_getElem? (List.mem_zipIdx_iff_getElem?.mp hr), hround⟩, i, hi, j, hj, ?_⟩
    rw [hia, hjb]
    exact ⟨fun e => hab (inputNumber_inj h ha hb e), Or.inl ⟨h1, h2⟩⟩
  everyPair := by
    intro i hi j hj hij
    obtain ⟨a, ha, hia⟩ := exists_inputNumber h hi
    obtain ⟨b, hb, hjb⟩ := exists_inputNumber h hj
    have hab : a ≠ b := fun e => hij (by rw [← hia, ← hjb, e])
    obtain ⟨hodd, hn⟩ := rounds_odd h.pos
    obtain ⟨k, ⟨hk, hmeets⟩, huniq⟩ := meets_existsUnique hodd (show a ≤ _ by omega)
      (show b ≤ _ by omega) hab
    obtain ⟨r, hr, -⟩ := exists_round h hk
    obtain ⟨m, hm, hround, hbetween⟩ := meets_created h hc hr hmeets ha hb
    rw [hia, hjb] at hbetween
    refine ⟨m, ⟨hm, hbetween⟩, fun m' ⟨hm', hbetween'⟩ => ?_⟩
    -- another match of the two is in the same round, where each of them has one match
    obtain ⟨r', k', a', b', hr', hround', hmeets', ha', hb', -, h1, h2⟩ := created_meets h hc hm'
    have hk' : k' = k := by
      refine huniq k' ⟨round_index_lt h hr', ?_⟩
      rcases hbetween' with ⟨e1, e2⟩ | ⟨e1, e2⟩
      · have ea : a' = a := inputNumber_inj h ha' ha
          (hia ▸ Option.some.inj (h1.symm.trans e1))
        have eb : b' = b := inputNumber_inj h hb' hb
          (hjb ▸ Option.some.inj (h2.symm.trans e2))
        exact ea ▸ eb ▸ hmeets'
      · have eb : a' = b := inputNumber_inj h ha' hb
          (hjb ▸ Option.some.inj (h1.symm.trans e1))
        have ea : b' = a := inputNumber_inj h hb' ha
          (hia ▸ Option.some.inj (h2.symm.trans e2))
        exact ea ▸ eb ▸ hmeets'.symm
    have hplays : ∀ m : MatchRow, m.Between i.id j.id → m.Plays i.id := fun m hb =>
      hb.imp And.left And.right
    have hrr : r' = r := round_at (hk' ▸ hr') hr
    exact created_oncePerRound h hc hm' hm (by rw [hround, hround', hrr]) (hplays m' hbetween')
      (hplays m hbetween)
  oncePerRound m hm m' hm' hround i hi hi' := created_oncePerRound h hc hm hm' hround hi hi'
  even := by
    intro heven i hi r hr
    obtain ⟨a, ha, hia⟩ := exists_inputNumber h hi
    have hR : getNumberOfRoundsToCreateRoundRobin n + 1 = n := by
      have := h.pos
      unfold getNumberOfRoundsToCreateRoundRobin
      rw [if_neg (by omega), if_pos heven]
      omega
    obtain ⟨k, hk⟩ := List.mem_iff_getElem?.mp hr
    have hrk : (r, k) ∈ item.rounds.zipIdx := List.mem_zipIdx_iff_getElem?.mpr hk
    obtain ⟨b, hb, hmeets⟩ := exists_meets (round_index_lt h hrk) (show a ≤ _ by omega)
    obtain ⟨m, hm, hround, hbetween⟩ := meets_created h hc hrk hmeets ha (by omega)
    exact ⟨m, hm, hround, hia ▸ hbetween.imp And.left And.right⟩
  odd := by
    intro hoddn i hi
    obtain ⟨a, ha, hia⟩ := exists_inputNumber h hi
    have hR : getNumberOfRoundsToCreateRoundRobin n = n := by
      have := h.pos
      unfold getNumberOfRoundsToCreateRoundRobin
      rw [if_neg (by omega), if_neg (by omega)]
    obtain ⟨k, ⟨hk, hphantom⟩, huniq⟩ := meets_existsUnique (rounds_odd h.pos).1
      (show a ≤ _ by omega) (le_refl _) (show a ≠ _ by omega)
    obtain ⟨r, hr, hmem⟩ := exists_round h hk
    refine ⟨r, ⟨hmem, fun m hm hround hplays => ?_⟩, fun s ⟨hs, hfree⟩ => ?_⟩
    · -- the opponent of the round is the phantom
      obtain ⟨r', k', c, d, hr', hround', hmeets, hcn, hdn, -, h1, h2⟩ := created_meets h hc hm
      obtain rfl := round_index h hr hr' (hround.symm.trans hround')
      have hle := Nat.le_of_lt hk
      rcases hplays with e | e
      · have hca : c = a := inputNumber_inj h hcn ha (hia ▸ Option.some.inj (h1.symm.trans e))
        have := (hca ▸ hmeets).right_unique hle hphantom
        omega
      · have hda : d = a := inputNumber_inj h hdn ha (hia ▸ Option.some.inj (h2.symm.trans e))
        have := (hda ▸ hmeets).symm.right_unique hle hphantom
        omega
    · obtain ⟨l, hl⟩ := List.mem_iff_getElem?.mp hs
      have hsl : (s, l) ∈ item.rounds.zipIdx := List.mem_zipIdx_iff_getElem?.mpr hl
      obtain ⟨b, hb, hmeets⟩ := exists_meets (round_index_lt h hsl) (show a ≤ _ by omega)
      by_cases hbn : b < n
      · obtain ⟨m, hm, hround, hbetween⟩ := meets_created h hc hsl hmeets ha hbn
        exact absurd (hia ▸ hbetween.imp And.left And.right) (hfree m hm hround)
      · have hbR : b = getNumberOfRoundsToCreateRoundRobin n := by omega
        have hlk : l = k := huniq l ⟨round_index_lt h hsl, hbR ▸ hmeets⟩
        exact round_at (hlk ▸ hsl) hr

end RoundRobin

/-- The rounds get their matches one after the other; no lookup fails. -/
theorem buildRoundRobin_robin {db : Database} {tid : TournamentId} {item : StageItemWithRounds}
    {tournament : TournamentRow} {n : Nat} (ht : db.tournaments.find? tid = some tournament)
    (h : RoundRobinItem item n) : ∃ bodies, buildRoundRobinStageItem db tid item =
      .ok (createMatches db bodies).2 ∧ RoundRobin item n (createMatches db bodies).1 := by
  have htour : sqlGetTournament db tid = .ok tournament := orRaise_eq_ok.mpr ht
  have hbodies := mapM_eq_ok fun round hround => roundRobinBodies_eq h tournament hround
  refine ⟨(item.rounds.zipIdx.map
    (numberedBodies item tournament (getNumberOfRoundsToCreateRoundRobin n))).flatten, ?_,
    created_roundRobin h rfl⟩
  rw [buildRoundRobinStageItem, h.teamCount, getRoundRobinCombinations_eq h.pos, ok_bind, htour,
    ok_bind, hbodies, ok_bind]

/-- **A round robin stage item is built completely**: no lookup fails, every two inputs have
    exactly one match, no input has two in a round, and an input misses a round only to sit out
    its one round. -/
theorem buildRoundRobin_ok {db : Database} {tid : TournamentId} {item : StageItemWithRounds}
    {tournament : TournamentRow} {n : Nat} (ht : db.tournaments.find? tid = some tournament)
    (h : RoundRobinItem item n) : ∃ db' created, buildRoundRobinStageItem db tid item = .ok db' ∧
      db'.matches_.rows = db.matches_.rows ++ created ∧ RoundRobin item n created := by
  obtain ⟨bodies, hbuild, hrobin⟩ := buildRoundRobin_robin ht h
  exact ⟨_, _, hbuild, createMatches_rows db bodies, hrobin⟩

/-! ### A group of three -/

def triItem : StageItemRow := ⟨1, "Group", 1, 3, 1, .roundRobin⟩

def triInput (k : Int) : StageItemInputRow := ⟨k, k, 1, 1, some k, none, none, 0, 0, 0, 0⟩

def triRound (k : Int) : RoundWithMatches where
  id := k
  name := "Round"
  isDraft := false
  stageItemId := 1
  matches_ := []

/-- Three teams and the three rounds made for them. -/
def tri : StageItemWithRounds :=
  { triItem with
    rounds := [1, 2, 3].map triRound
    inputs := [1, 2, 3].map fun k => { triInput k with team := some ⟨k, "Team", 1, true, none⟩ } }

def triDatabase : Database := { Database.empty with tournaments := oneTournament }

theorem tri_built : ∃ db' created, buildRoundRobinStageItem triDatabase 1 tri = .ok db' ∧
    db'.matches_.rows = triDatabase.matches_.rows ++ created ∧ RoundRobin tri 3 created :=
  buildRoundRobin_ok rfl ⟨by decide, by decide, by decide, by decide, by decide, by decide⟩

end Brackets
