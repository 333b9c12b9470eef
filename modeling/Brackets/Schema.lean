/-
  File:      Brackets/Schema.lean
  Subject:   The tables of the tournament database and the ways a request fails.

  One structure per table of `schema.py`, with the columns that a modelled function reads or
  writes. Ids are integers. Points are exact rationals (`Decimal` in the program, a float column
  in the database), times are microseconds. A match's two sides are addressed by `Side`, so that
  the twin columns of the `matches` table need one lemma and not two.

  A request either returns or fails, and a failed request is rolled back as a whole: `Outcome`
  keeps the new database only on success, `Outcome.settle` is what is stored afterwards.
-/
import Mathlib.Data.Rat.Defs
import Brackets.Library.Table

namespace Brackets

open Library

abbrev ClubId := Int
abbrev TournamentId := Int
abbrev StageId := Int
abbrev StageItemId := Int
abbrev StageItemInputId := Int
abbrev RoundId := Int
abbrev MatchId := Int
abbrev TeamId := Int
abbrev PlayerId := Int
abbrev RankingId := Int

/-- A point in time, in microseconds. -/
abbrev DateTime := Int

/-- `timedelta(minutes=n)`. -/
def timedelta (minutes : Int) : Int := minutes * 60000000

/-- `datetime.max`, the last microsecond of the year 9999. -/
def datetimeMax : DateTime := 253402300799999999

inductive StageType where
  | roundRobin
  | singleElimination
  | swiss
  deriving DecidableEq, Repr

inductive TournamentStatus where
  | opened
  | archived
  deriving DecidableEq, Repr

/-- The two sides of a match. -/
inductive Side where
  | one
  | two
  deriving DecidableEq, Repr

/-! ## 1. Rows -/

structure TournamentRow where
  id : TournamentId
  startTime : DateTime
  durationMinutes : Int
  marginMinutes : Int
  status : TournamentStatus
  dashboardPublic : Bool
  dashboardEndpoint : Option String
  clubId : ClubId
  logoPath : Option String
  deriving DecidableEq, Repr

structure StageRow where
  id : StageId
  name : String
  tournamentId : TournamentId
  isActive : Bool
  customDurationMinutes : Option Int
  deriving DecidableEq, Repr

structure StageItemRow where
  id : StageItemId
  name : String
  stageId : StageId
  teamCount : Nat
  rankingId : RankingId
  type : StageType
  deriving DecidableEq, Repr

/-- A slot of a stage item: its team, or the place of another stage item that fills it, and the
    cached results. -/
structure StageItemInputRow where
  id : StageItemInputId
  slot : Int
  tournamentId : TournamentId
  stageItemId : StageItemId
  teamId : Option TeamId
  winnerFromStageItemId : Option StageItemId
  winnerPosition : Option Int
  points : Rat
  wins : Int
  draws : Int
  losses : Int
  deriving DecidableEq, Repr

structure RoundRow where
  id : RoundId
  name : String
  isDraft : Bool
  stageItemId : StageItemId
  deriving DecidableEq, Repr

structure MatchRow where
  id : MatchId
  startTime : Option DateTime
  durationMinutes : Int
  marginMinutes : Int
  customDurationMinutes : Option Int
  customMarginMinutes : Option Int
  roundId : RoundId
  stageItemInput1Id : Option StageItemInputId
  stageItemInput2Id : Option StageItemInputId
  stageItemInput1Conflict : Bool
  stageItemInput2Conflict : Bool
  stageItemInput1WinnerFromMatchId : Option MatchId
  stageItemInput2WinnerFromMatchId : Option MatchId
  stageItemInput1Score : Int
  stageItemInput2Score : Int
  deriving DecidableEq, Repr

structure TeamRow where
  id : TeamId
  name : String
  tournamentId : TournamentId
  active : Bool
  logoPath : Option String
  deriving DecidableEq, Repr

structure PlayerRow where
  id : PlayerId
  name : String
  created : DateTime
  tournamentId : TournamentId
  active : Bool
  deriving DecidableEq, Repr

/-- A player in a team: `players_x_teams`. -/
structure MemberRow where
  id : Int
  playerId : PlayerId
  teamId : TeamId
  deriving DecidableEq, Repr

structure RankingRow where
  id : RankingId
  tournamentId : TournamentId
  position : Int
  winPoints : Rat
  drawPoints : Rat
  lossPoints : Rat
  addScorePoints : Bool
  deriving DecidableEq, Repr

instance : Keyed TournamentRow := ⟨TournamentRow.id⟩
instance : Keyed StageRow := ⟨StageRow.id⟩
instance : Keyed StageItemRow := ⟨StageItemRow.id⟩
instance : Keyed StageItemInputRow := ⟨StageItemInputRow.id⟩
instance : Keyed RoundRow := ⟨RoundRow.id⟩
instance : Keyed MatchRow := ⟨MatchRow.id⟩
instance : Keyed TeamRow := ⟨TeamRow.id⟩
instance : Keyed PlayerRow := ⟨PlayerRow.id⟩
instance : Keyed MemberRow := ⟨MemberRow.id⟩
instance : Keyed RankingRow := ⟨RankingRow.id⟩

@[simp] theorem key_stage (r : StageRow) : key r = r.id := rfl
@[simp] theorem key_stageItem (r : StageItemRow) : key r = r.id := rfl
@[simp] theorem key_input (r : StageItemInputRow) : key r = r.id := rfl
@[simp] theorem key_round (r : RoundRow) : key r = r.id := rfl
@[simp] theorem key_match (r : MatchRow) : key r = r.id := rfl
@[simp] theorem key_team (r : TeamRow) : key r = r.id := rfl
@[simp] theorem key_player (r : PlayerRow) : key r = r.id := rfl
@[simp] theorem key_member (r : MemberRow) : key r = r.id := rfl
@[simp] theorem key_ranking (r : RankingRow) : key r = r.id := rfl
@[simp] theorem key_tournament (r : TournamentRow) : key r = r.id := rfl

/-! ## 2. A match by its sides -/

namespace MatchRow

/-- `stage_item_input1_id` / `stage_item_input2_id`. -/
def inputId (m : MatchRow) : Side → Option StageItemInputId
  | .one => m.stageItemInput1Id
  | .two => m.stageItemInput2Id

/-- `stage_item_input1_winner_from_match_id` / `stage_item_input2_winner_from_match_id`. -/
def winnerFrom (m : MatchRow) : Side → Option MatchId
  | .one => m.stageItemInput1WinnerFromMatchId
  | .two => m.stageItemInput2WinnerFromMatchId

/-- The one of two inputs that is on the side with the strictly higher score. -/
def winnerOf (m : MatchRow) (ids : Side → Option StageItemInputId) : Option StageItemInputId :=
  if m.stageItemInput1Score > m.stageItemInput2Score then ids .one
  else if m.stageItemInput1Score < m.stageItemInput2Score then ids .two
  else none

/-- The input id on the side with the strictly higher score. -/
def winnerId (m : MatchRow) : Option StageItemInputId := m.winnerOf m.inputId

/-- The row with other inputs on its sides. -/
def withInputIds (m : MatchRow) (ids : Side → Option StageItemInputId) : MatchRow :=
  { m with stageItemInput1Id := ids .one, stageItemInput2Id := ids .two }

/-- The columns of a match that planning writes, cleared. -/
def untimed (m : MatchRow) : MatchRow :=
  { m with
    startTime := none, durationMinutes := 0, marginMinutes := 0,
    stageItemInput1Conflict := false, stageItemInput2Conflict := false }

@[simp] theorem inputId_withInputIds (m : MatchRow) (ids : Side → Option StageItemInputId)
    (side : Side) : (m.withInputIds ids).inputId side = ids side := by
  cases side <;> rfl

theorem key_untimed (m : MatchRow) : key m.untimed = key m := rfl

theorem withInputIds_inputId (m : MatchRow) : m.withInputIds m.inputId = m := rfl

end MatchRow

/-! ## 3. The database -/

structure Database where
  tournaments : Table TournamentRow
  stages : Table StageRow
  stageItems : Table StageItemRow
  stageItemInputs : Table StageItemInputRow
  rounds : Table RoundRow
  matches_ : Table MatchRow
  teams : Table TeamRow
  players : Table PlayerRow
  playersXTeams : Table MemberRow
  rankings : Table RankingRow

/-- A database without rows. -/
def Database.empty : Database where
  tournaments := .empty
  stages := .empty
  stageItems := .empty
  stageItemInputs := .empty
  rounds := .empty
  matches_ := .empty
  teams := .empty
  players := .empty
  playersXTeams := .empty
  rankings := .empty

/-- One open tournament. -/
def oneTournament : Table TournamentRow :=
  ⟨[⟨1, 0, 10, 5, .opened, true, none, 1, none⟩], 2, by decide, by decide⟩

/-- Its first stage, active. -/
def oneStage : Table StageRow := ⟨[⟨1, "Stage", 1, true, none⟩], 2, by decide, by decide⟩

/-- A published round of a first stage item. -/
def oneRound : Table RoundRow := ⟨[⟨1, "Round 01", false, 1⟩], 2, by decide, by decide⟩

/-- Two published rounds of a first stage item. -/
def twoRounds : Table RoundRow :=
  ⟨[⟨1, "Round 01", false, 1⟩, ⟨2, "Round 02", false, 1⟩], 3, by decide, by decide⟩

/-! ## 4. Failures -/

/-- The exceptions that no handler turns into an HTTP error: the request answers 500. -/
inductive PythonError where
  | assertionError
  | keyError
  | indexError
  | overflowError
  | valueError
  | stopIteration
  | noResultFound
  | validationError
  | integrityError
  | programmingError
  deriving DecidableEq, Repr

/-- How a request fails: an `HTTPException` of the program, or an exception it does not catch. -/
inductive Failure where
  | http (statusCode : Nat) (detail : String)
  | crash (error : PythonError)
  deriving DecidableEq, Repr

abbrev Outcome (α : Type) := Except Failure α

/-- `t + timedelta(minutes=n)` for an `n` that is not negative: a sum past `datetime.max` raises
    OverflowError. -/
def addTimedelta (t : DateTime) (minutes : Int) : Outcome DateTime :=
  if t + timedelta minutes ≤ datetimeMax then .ok (t + timedelta minutes)
  else .error (.crash .overflowError)

/-- `HTTP_400_BAD_REQUEST`. -/
def badRequest (detail : String) : Failure := .http 400 detail

/-- `HTTP_404_NOT_FOUND`. -/
def notFound (detail : String) : Failure := .http 404 detail

/-- The stored state after a request: a failed request leaves the state before it. -/
def Outcome.settle (db : Database) : Outcome Database → Database
  | .ok db' => db'
  | .error _ => db

@[simp] theorem Outcome.settle_ok (db db' : Database) :
    Outcome.settle db (.ok db') = db' := rfl

@[simp] theorem Outcome.settle_error (db : Database) (e : Failure) :
    Outcome.settle db (.error e) = db := rfl

/-- What a successful sequence went through. -/
theorem bind_eq_ok {α β : Type} {x : Outcome α} {f : α → Outcome β} {b : β} :
    (x >>= f) = .ok b ↔ ∃ a, x = .ok a ∧ f a = .ok b := by
  cases x with
  | error e =>
      constructor
      · intro h
        cases h
      · rintro ⟨_, h, _⟩
        cases h
  | ok a =>
      constructor
      · exact fun h => ⟨a, rfl, h⟩
      · rintro ⟨_, h, h'⟩
        cases h
        exact h'

instance {α : Type} (x : Outcome α) (e : Failure) : Decidable (x = .error e) :=
  match x with
  | .ok _ => isFalse nofun
  | .error f => decidable_of_iff (f = e) ⟨congrArg _, Except.error.inj⟩

@[simp] theorem ok_bind {α β : Type} (a : α) (f : α → Outcome β) :
    ((Except.ok a : Outcome α) >>= f) = f a := rfl

@[simp] theorem error_bind {α β : Type} (e : Failure) (f : α → Outcome β) :
    ((Except.error e : Outcome α) >>= f) = .error e := rfl

/-- Where a sequence failed. -/
theorem bind_eq_error {α β : Type} {x : Outcome α} {f : α → Outcome β} {e : Failure} :
    (x >>= f) = .error e ↔ x = .error e ∨ ∃ a, x = .ok a ∧ f a = .error e := by
  cases x with
  | error e' =>
    rw [error_bind]
    exact ⟨fun h => .inl (congrArg _ (Except.error.inj h)), fun h => h.elim
      (fun h => congrArg _ (Except.error.inj h)) fun ⟨_, h, _⟩ => by cases h⟩
  | ok a =>
    rw [ok_bind]
    constructor
    · exact fun h => .inr ⟨a, rfl, h⟩
    · rintro (h | ⟨_, h, h'⟩)
      · cases h
      · cases h
        exact h'

theorem bind_congr_ok {α β : Type} {x : Outcome α} {f g : α → Outcome β}
    (h : ∀ a, x = .ok a → f a = g a) : x >>= f = x >>= g := by
  cases x with
  | error e => rfl
  | ok a => exact h a rfl

theorem exists_ok {α : Type} {x : Outcome α} (h : x.toOption.isSome = true) : ∃ a, x = .ok a := by
  cases x with
  | error e => cases h
  | ok a => exact ⟨a, rfl⟩

/-- What a test of the outcome says about it. -/
theorem exists_ok_of_any {ε α : Type} {x : Except ε α} {P : α → Prop} [DecidablePred P]
    (h : (x.toOption.any fun a => decide (P a)) = true) : ∃ a, x = .ok a ∧ P a := by
  cases x with
  | error e => cases h
  | ok a => exact ⟨a, rfl, of_decide_eq_true h⟩

/-- `raise` unless the test holds. -/
def require (test : Bool) (failure : Failure) : Outcome Unit :=
  if test then .ok () else .error failure

@[simp] theorem require_eq_ok {test : Bool} {failure : Failure} {u : Unit} :
    require test failure = .ok u ↔ test = true := by
  cases test <;> simp [require]

/-- The value, or the exception that its absence raises. -/
def orRaise {α : Type} (x : Option α) (failure : Failure) : Outcome α :=
  match x with
  | some a => .ok a
  | none => .error failure

@[simp] theorem orRaise_some {α : Type} (a : α) (failure : Failure) :
    orRaise (some a) failure = .ok a := rfl

@[simp] theorem orRaise_eq_ok {α : Type} {x : Option α} {failure : Failure} {a : α} :
    orRaise x failure = .ok a ↔ x = some a := by
  cases x <;> simp [orRaise]

theorem orRaise_eq_error {α : Type} {x : Option α} {failure e : Failure} :
    orRaise x failure = .error e ↔ x = none ∧ failure = e := by
  cases x <;> simp [orRaise]

/-- The request may crash, but the program refuses nothing. -/
def RefusesNothing {α : Type} (x : Outcome α) : Prop := ∀ e, x = .error e → ∃ c, e = .crash c

theorem refusesNothing_ok {α : Type} (a : α) : RefusesNothing (.ok a : Outcome α) :=
  fun _ h => nomatch h

theorem refusesNothing_crash {α : Type} (c : PythonError) :
    RefusesNothing (.error (.crash c) : Outcome α) := by
  intro e h
  cases h
  exact ⟨c, rfl⟩

theorem RefusesNothing.bind {α β : Type} {x : Outcome α} {f : α → Outcome β}
    (hx : RefusesNothing x) (hf : ∀ a, RefusesNothing (f a)) : RefusesNothing (x >>= f) := by
  cases x with
  | error e =>
    intro e' h
    exact hx e' (congrArg Except.error (Except.error.inj h))
  | ok a => exact hf a

theorem refusesNothing_orRaise {α : Type} (x : Option α) (c : PythonError) :
    RefusesNothing (orRaise x (.crash c)) := by
  cases x with
  | none => exact refusesNothing_crash c
  | some a => exact refusesNothing_ok a

theorem refusesNothing_foldlM {α β : Type} {f : β → α → Outcome β}
    (h : ∀ b a, RefusesNothing (f b a)) (l : List α) (b : β) : RefusesNothing (l.foldlM f b) := by
  induction l generalizing b with
  | nil => exact refusesNothing_ok b
  | cons a l ih =>
    rw [List.foldlM_cons]
    exact (h b a).bind ih

theorem refusesNothing_filterM {α : Type} {p : α → Outcome Bool} (h : ∀ a, RefusesNothing (p a))
    (l : List α) : RefusesNothing (l.filterM p) := by
  have run : ∀ l acc : List α, RefusesNothing (l.filterAuxM p acc) := by
    intro l
    induction l with
    | nil => exact fun acc => refusesNothing_ok acc
    | cons a l ih => exact fun acc => (h a).bind fun b => ih _
  exact (run l []).bind fun as => refusesNothing_ok as.reverse

/-- A loop whose turns all succeed returns what they return. -/
theorem mapM_eq_ok {α β : Type} {l : List α} {f : α → Outcome β} {g : α → β}
    (h : ∀ a ∈ l, f a = .ok (g a)) : l.mapM f = .ok (l.map g) := by
  induction l with
  | nil => rfl
  | cons a l ih =>
    rw [List.mapM_cons, h a List.mem_cons_self, ih fun b hb => h b (List.mem_cons_of_mem _ hb)]
    rfl

/-- What every turn returns is in the result. -/
theorem mem_of_mapM_ok {α β : Type} {f : α → Outcome β} {l : List α} {l' : List β}
    (h : l.mapM f = .ok l') : ∀ a ∈ l, ∃ b ∈ l', f a = .ok b := by
  induction l generalizing l' with
  | nil => exact fun a ha => absurd ha List.not_mem_nil
  | cons a l ih =>
    rw [List.mapM_cons] at h
    obtain ⟨b, hb, h⟩ := bind_eq_ok.mp h
    obtain ⟨bs, hbs, h⟩ := bind_eq_ok.mp h
    cases h
    intro c hc
    rcases List.mem_cons.mp hc with rfl | hc
    · exact ⟨b, List.mem_cons_self, hb⟩
    · obtain ⟨b', hb', hc⟩ := ih hbs c hc
      exact ⟨b', List.mem_cons_of_mem _ hb', hc⟩

/-- It returns nothing else. -/
theorem mapM_ok_mem {α β : Type} {f : α → Outcome β} {l : List α} {l' : List β}
    (h : l.mapM f = .ok l') : ∀ b ∈ l', ∃ a ∈ l, f a = .ok b := by
  induction l generalizing l' with
  | nil =>
    cases h
    exact fun b hb => absurd hb List.not_mem_nil
  | cons a l ih =>
    rw [List.mapM_cons] at h
    obtain ⟨b, hb, h⟩ := bind_eq_ok.mp h
    obtain ⟨bs, hbs, h⟩ := bind_eq_ok.mp h
    cases h
    intro c hc
    rcases List.mem_cons.mp hc with rfl | hc
    · exact ⟨a, List.mem_cons_self, hb⟩
    · obtain ⟨a', ha', hc⟩ := ih hbs c hc
      exact ⟨a', List.mem_cons_of_mem _ ha', hc⟩

/-- A loop that fails fails in one of its turns. -/
theorem mapM_error {α β : Type} {f : α → Outcome β} {l : List α} {e : Failure}
    (h : l.mapM f = .error e) : ∃ a ∈ l, f a = .error e := by
  induction l with
  | nil => cases h
  | cons a l ih =>
    rw [List.mapM_cons] at h
    rcases bind_eq_error.mp h with hturn | ⟨b, -, h⟩
    · exact ⟨a, List.mem_cons_self, hturn⟩
    · rcases bind_eq_error.mp h with hturns | ⟨bs, -, h⟩
      · obtain ⟨c, hc, hturn⟩ := ih hturns
        exact ⟨c, List.mem_cons_of_mem _ hc, hturn⟩
      · cases h

/-- What a filter with a fallible test returns: the elements that pass, if every test returns. -/
theorem filterM_eq_ok {α : Type} {p : α → Outcome Bool} {l l' : List α}
    (h : l.filterM p = .ok l') : ∃ q : α → Bool, (∀ a ∈ l, p a = .ok (q a)) ∧ l' = l.filter q := by
  let q (a : α) : Bool := (p a).toOption == some true
  have run : ∀ l acc out : List α, l.filterAuxM p acc = .ok out →
      (∀ a ∈ l, p a = .ok (q a)) ∧ out.reverse = acc.reverse ++ l.filter q := by
    intro l
    induction l with
    | nil =>
      intro acc out h
      cases h
      exact ⟨fun a ha => absurd ha List.not_mem_nil, (List.append_nil _).symm⟩
    | cons b l ih =>
      intro acc out h
      obtain ⟨keep, hb, h⟩ := bind_eq_ok.mp h
      obtain ⟨hall, hout⟩ := ih _ _ h
      have hq : q b = keep := by cases keep <;> simp [q, hb, Except.toOption]
      refine ⟨fun a ha => ?_, ?_⟩
      · rcases List.mem_cons.mp ha with rfl | ha
        · rw [hb, hq]
        · exact hall a ha
      · rw [hout, List.filter_cons, hq]
        cases keep <;> simp
  obtain ⟨out, hout, h⟩ := bind_eq_ok.mp h
  cases h
  exact ⟨q, run l [] out hout⟩

/-- An operation that the projection does not see can be folded over any list. -/
theorem foldl_project {α β γ : Type} (π : α → γ) (f : α → β → α) (h : ∀ a b, π (f a b) = π a)
    (l : List β) (a : α) : π (l.foldl f a) = π a := by
  induction l generalizing a with
  | nil => rfl
  | cons b l ih => rw [List.foldl_cons, ih, h]

/-- What every turn of a loop keeps holds after the loop. -/
theorem foldlM_invariant {α β : Type} {f : α → β → Outcome α} {P : α → Prop}
    (hstep : ∀ a b a', P a → f a b = .ok a' → P a') {l : List β} {a a' : α} (ha : P a)
    (h : l.foldlM f a = .ok a') : P a' := by
  induction l generalizing a with
  | nil =>
    cases h
    exact ha
  | cons b l ih =>
    rw [List.foldlM_cons] at h
    obtain ⟨a1, h1, h⟩ := bind_eq_ok.mp h
    exact ih (hstep a b a1 ha h1) h

/-- Every turn of a loop that returns succeeded. -/
theorem foldlM_each {α β : Type} {f : α → β → Outcome α} {P : β → Prop}
    (hstep : ∀ a b a', f a b = .ok a' → P b) {l : List β} {a a' : α}
    (h : l.foldlM f a = .ok a') : ∀ b ∈ l, P b := by
  induction l generalizing a with
  | nil => exact fun b hb => absurd hb List.not_mem_nil
  | cons c l ih =>
    rw [List.foldlM_cons] at h
    obtain ⟨a1, h1, h⟩ := bind_eq_ok.mp h
    intro b hb
    rcases List.mem_cons.mp hb with rfl | hb
    · exact hstep a b a1 h1
    · exact ih h b hb

theorem foldlM_error {α β : Type} {f : α → β → Outcome α} {l : List β} {a : α} {e : Failure}
    (h : l.foldlM f a = .error e) : ∃ b ∈ l, ∃ a', f a' b = .error e := by
  induction l generalizing a with
  | nil => cases h
  | cons b l ih =>
    rw [List.foldlM_cons] at h
    rcases bind_eq_error.mp h with hturn | ⟨a1, -, h⟩
    · exact ⟨b, List.mem_cons_self, a, hturn⟩
    · obtain ⟨c, hc, hturn⟩ := ih h
      exact ⟨c, List.mem_cons_of_mem _ hc, hturn⟩

/-- A loop collects what its turns add. -/
theorem foldlM_collects {α β γ : Type} {f : α → β → Outcome α} {S : α → γ → Prop}
    {T : β → γ → Prop} (hstep : ∀ a b a', f a b = .ok a' → ∀ c, S a' c ↔ S a c ∨ T b c)
    {l : List β} {a a' : α} (h : l.foldlM f a = .ok a') (c : γ) :
    S a' c ↔ S a c ∨ ∃ b ∈ l, T b c := by
  induction l generalizing a with
  | nil =>
    cases h
    exact (or_iff_left fun ⟨_, hb, _⟩ => List.not_mem_nil hb).symm
  | cons b l ih =>
    rw [List.foldlM_cons] at h
    obtain ⟨a1, h1, h⟩ := bind_eq_ok.mp h
    rw [ih h, hstep a b a1 h1, List.exists_mem_cons_iff, or_assoc]

end Brackets
