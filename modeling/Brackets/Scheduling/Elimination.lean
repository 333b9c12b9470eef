/-
  File:      Brackets/Scheduling/Elimination.lean
  Subject:   `logic/scheduling/elimination.py`: the matches of a single elimination stage item.

  The first round pairs the inputs in slot order, every later round pairs the matches of the
  round before it: its slots have sources and no inputs. A round with an odd number of inputs or
  matches runs out of range (`adjacentPairs`).
-/
import Brackets.Library.Pairs
import Brackets.Statements

namespace Brackets

open Library

/-- Neighbours, as the loops `for i in range(0, len(l), 2)` take them. -/
def adjacentPairs {α : Type} : List α → Outcome (List (α × α))
  | [] => .ok []
  | [_] => .error (.crash .indexError)
  | a :: b :: l => do
    let ps ← adjacentPairs l
    .ok ((a, b) :: ps)

def determineMatchesFirstRound (round : RoundWithMatches) (item : StageItemWithRounds)
    (tournament : TournamentRow) : Outcome (List MatchCreateBody) := do
  let pairs ← adjacentPairs item.inputs
  .ok (pairs.map fun p =>
    { roundId := round.id
      stageItemInput1Id := some p.1.id
      stageItemInput2Id := some p.2.id
      durationMinutes := tournament.durationMinutes
      marginMinutes := tournament.marginMinutes })

def determineMatchesSubsequentRound (prevMatches : List MatchRow) (round : RoundWithMatches)
    (tournament : TournamentRow) : Outcome (List MatchCreateBody) := do
  let pairs ← adjacentPairs prevMatches
  .ok (pairs.map fun p =>
    { roundId := round.id
      stageItemInput1WinnerFromMatchId := some p.1.id
      stageItemInput2WinnerFromMatchId := some p.2.id
      durationMinutes := tournament.durationMinutes
      marginMinutes := tournament.marginMinutes })

/-- The created matches of a round, in order, and the database with them. -/
def createMatches (db : Database) : List MatchCreateBody → List MatchRow × Database
  | [] => ([], db)
  | body :: bodies =>
    let (m, db) := sqlCreateMatch db body
    let (ms, db) := createMatches db bodies
    (m :: ms, db)

/-- The loop over the rounds after the first. -/
def buildSubsequentRounds (tournament : TournamentRow) :
    List RoundWithMatches → List MatchRow × Database → Outcome Database
  | [], (_, db) => .ok db
  | round :: rounds, (prevMatches, db) => do
    let bodies ← determineMatchesSubsequentRound prevMatches round tournament
    buildSubsequentRounds tournament rounds (createMatches db bodies)

def buildSingleEliminationStageItem (db : Database) (tid : TournamentId)
    (item : StageItemWithRounds) : Outcome Database := do
  let loaded ← getStageItem db tid item.id
  let tournament ← sqlGetTournament db tid
  match loaded.rounds with
  | [] => .error (.crash .assertionError)
  | firstRound :: rounds => do
    let bodies ← determineMatchesFirstRound firstRound item tournament
    buildSubsequentRounds tournament rounds (createMatches db bodies)

def getNumberOfRoundsToCreateSingleElimination (teamCount : Nat) : Outcome Nat :=
  if teamCount < 1 then .ok 0
  else
    match teamCount with
    | 2 => .ok 1
    | 4 => .ok 2
    | 8 => .ok 3
    | 16 => .ok 4
    | 32 => .ok 5
    | _ => .error (badRequest "Number of teams invalid, should be one of [2, 4, 8, 16, 32]")

/-! ## What is created -/

theorem createMatches_append (db : Database) (bodies bodies' : List MatchCreateBody) :
    (createMatches db (bodies ++ bodies')).2 =
      (createMatches (createMatches db bodies).2 bodies').2 := by
  induction bodies generalizing db with
  | nil => rfl
  | cons body bodies ih => exact ih (sqlCreateMatch db body).2

/-- What no new match changes. -/
theorem createMatches_project {γ : Type} (π : Database → γ)
    (h : ∀ db body, π (sqlCreateMatch db body).2 = π db) (bodies : List MatchCreateBody)
    (db : Database) : π (createMatches db bodies).2 = π db := by
  induction bodies generalizing db with
  | nil => rfl
  | cons body bodies ih => exact (ih (sqlCreateMatch db body).2).trans (h db body)

theorem buildSubsequentRounds_created {tournament : TournamentRow} {rounds : List RoundWithMatches}
    {prev : List MatchRow × Database} {db' : Database}
    (h : buildSubsequentRounds tournament rounds prev = .ok db') :
    ∃ bodies, db' = (createMatches prev.2 bodies).2 := by
  induction rounds generalizing prev with
  | nil =>
    cases h
    exact ⟨[], rfl⟩
  | cons round rounds ih =>
    obtain ⟨bodies, -, h⟩ := bind_eq_ok.mp h
    obtain ⟨bodies', rfl⟩ := ih h
    exact ⟨bodies ++ bodies', (createMatches_append prev.2 bodies bodies').symm⟩

/-- A bracket is built of matches. -/
theorem buildSingleElimination_created {db db' : Database} {tid : TournamentId}
    {item : StageItemWithRounds} (h : buildSingleEliminationStageItem db tid item = .ok db') :
    ∃ bodies, db' = (createMatches db bodies).2 := by
  obtain ⟨loaded, -, h⟩ := bind_eq_ok.mp h
  obtain ⟨tournament, -, h⟩ := bind_eq_ok.mp h
  split at h
  · cases h
  · obtain ⟨bodies, -, h⟩ := bind_eq_ok.mp h
    obtain ⟨bodies', rfl⟩ := buildSubsequentRounds_created h
    exact ⟨bodies ++ bodies', (createMatches_append db bodies bodies').symm⟩

theorem createMatches_rows (db : Database) (bodies : List MatchCreateBody) :
    (createMatches db bodies).2.matches_.rows =
      db.matches_.rows ++ (createMatches db bodies).1 := by
  induction bodies generalizing db with
  | nil => exact (List.append_nil _).symm
  | cons body bodies ih =>
    rw [createMatches]
    dsimp only
    rw [ih, List.append_cons]
    rfl

/-- Every created match comes from a body. -/
theorem exists_body {db : Database} {bodies : List MatchCreateBody} {m : MatchRow}
    (hm : m ∈ (createMatches db bodies).1) : ∃ b ∈ bodies, ∃ x, m = newMatch b x := by
  induction bodies generalizing db with
  | nil => exact absurd hm List.not_mem_nil
  | cons body bodies ih =>
    rcases List.mem_cons.mp hm with rfl | hm
    · exact ⟨body, List.mem_cons_self, _, rfl⟩
    · obtain ⟨b, hb, h⟩ := ih hm
      exact ⟨b, List.mem_cons_of_mem _ hb, h⟩

/-- Every body is created. -/
theorem exists_created (db : Database) {bodies : List MatchCreateBody} {b : MatchCreateBody}
    (hb : b ∈ bodies) : ∃ x, newMatch b x ∈ (createMatches db bodies).1 := by
  induction bodies generalizing db with
  | nil => exact absurd hb List.not_mem_nil
  | cons body bodies ih =>
    rcases List.mem_cons.mp hb with rfl | hb
    · exact ⟨_, List.mem_cons_self⟩
    · obtain ⟨x, hx⟩ := ih (sqlCreateMatch db body).2 hb
      exact ⟨x, List.mem_cons_of_mem _ hx⟩

/-- What holds between any two bodies holds between any two created matches. -/
theorem createMatches_pairwise {P : MatchRow → MatchRow → Prop} {db : Database}
    {bodies : List MatchCreateBody}
    (h : bodies.Pairwise fun b b' => ∀ x x', P (newMatch b x) (newMatch b' x')) :
    (createMatches db bodies).1.Pairwise P := by
  induction bodies generalizing db with
  | nil => exact List.Pairwise.nil
  | cons body bodies ih =>
    rw [List.pairwise_cons] at h
    refine List.Pairwise.cons (fun m hm => ?_) (ih h.2)
    obtain ⟨b, hb, x, rfl⟩ := exists_body hm
    exact h.1 b hb _ _

/-- An even number of elements is cut into neighbours. -/
theorem adjacentPairs_eq_ok {α : Type} (n : Nat) (l : List α) (h : l.length = 2 * n) :
    ∃ ps, adjacentPairs l = .ok ps ∧ endpoints ps = l ∧ ps.length = n := by
  induction n generalizing l with
  | zero =>
    rw [List.length_eq_zero_iff.mp h]
    exact ⟨[], rfl, rfl, rfl⟩
  | succ n ih =>
    match l, h with
    | a :: b :: l, h =>
      rw [List.length_cons, List.length_cons] at h
      obtain ⟨ps, hps, rfl, rfl⟩ := ih l (by omega)
      refine ⟨(a, b) :: ps, ?_, rfl, rfl⟩
      rw [adjacentPairs, hps]
      rfl

end Brackets
