/-
  File:      Brackets/Frontend/Schedule.lean
  Subject:   The matches of a page by time, and which of them are being played (`utils.ts`).

  A match has no flag for being played: the page compares its planned times with the clock. On
  schedule, matches with a common input are apart, so nobody is shown playing twice.

  * `matchStatus_live_iff`: the moments at which a match is shown as being played;
  * `nextMatch_eq_some`: what a card announces;
  * `playingNow_apart`: nobody plays twice at the same time.
-/
import Brackets.Frontend.TournamentBundle
import Brackets.Frontend.ViewerData
import Brackets.Planning.Clashes

namespace Brackets

open Library

/-! ## 1. The matches of a page -/

structure FlattenedMatch where
  stage : StageWithStageItems
  stageItem : StageItemWithRounds
  round : RoundWithMatches
  match_ : Match

inductive MatchStatus where
  | finished
  | live
  | scheduled
  | waiting
  deriving DecidableEq, Repr

/-- `new Date(value).getTime()`, in milliseconds. -/
def getTime (value : DateTime) : Int := value / 1000

def matchStatus (m : Match) (now : Int) : MatchStatus :=
  if isScored m then .finished
  else if m.stageItemInput1.isNone || m.stageItemInput2.isNone then .waiting
  else
    match m.startTime with
    | none => .scheduled
    | some startTime =>
      let start := getTime startTime
      if now ≥ start ∧ now < start + m.durationMinutes * 60000 then .live else .scheduled

def flattenMatches (stages : List StageWithStageItems) : List FlattenedMatch :=
  stages.flatMap fun stage => stage.stageItems.flatMap fun stageItem =>
    stageItem.rounds.flatMap fun round => round.matches_.map fun m => ⟨stage, stageItem, round, m⟩

def compareMatchesByTime (left right : FlattenedMatch) : Int :=
  let leftTime := (left.match_.startTime.map getTime).getD maxSafeInteger
  let rightTime := (right.match_.startTime.map getTime).getD maxSafeInteger
  if leftTime ≠ rightTime then leftTime - rightTime
  else if left.round.id ≠ right.round.id then left.round.id - right.round.id
  else left.match_.id - right.match_.id

/-- The published matches of a page, by time. -/
def pageMatches (stages : List StageWithStageItems) : List FlattenedMatch :=
  ((flattenMatches stages).filter fun entry => !entry.round.isDraft).insertionSort
    fun left right => compareMatchesByTime left right ≤ 0

/-- What the overview shows as being played. -/
def playingNow (stages : List StageWithStageItems) (now : Int) : List FlattenedMatch :=
  (pageMatches stages).filter fun entry => matchStatus entry.match_ now == .live

def nextMatch (entries : List FlattenedMatch) (now : Int) : Option FlattenedMatch :=
  (entries.find? fun entry => matchStatus entry.match_ now == .live).or
    (entries.find? fun entry => !isScored entry.match_)

/-! ## 2. What is shown of a match -/

theorem matchStatus_live_iff {m : Match} {now : Int} : matchStatus m now = .live ↔
    isScored m = false ∧ m.isDefinitive = true ∧ ∃ startTime, m.startTime = some startTime ∧
      getTime startTime ≤ now ∧ now < getTime startTime + m.durationMinutes * 60000 := by
  unfold matchStatus Match.isDefinitive
  cases hscored : isScored m with
  | true => simp
  | false =>
    cases h1 : m.stageItemInput1 with
    | none => simp
    | some i =>
      cases h2 : m.stageItemInput2 with
      | none => simp
      | some j =>
        cases hstart : m.startTime with
        | none => simp
        | some startTime => simp

/-- A card announces the match that is being played, and else the earliest without a result. -/
theorem nextMatch_eq_some {entries : List FlattenedMatch} {now : Int} {entry : FlattenedMatch} :
    nextMatch entries now = some entry ↔
      (entries.filter fun e => matchStatus e.match_ now == .live).head? = some entry ∨
      (∀ e ∈ entries, matchStatus e.match_ now ≠ .live) ∧
        (entries.filter fun e => !isScored e.match_).head? = some entry := by
  unfold nextMatch
  rw [Option.or_eq_some_iff, List.head?_filter, List.head?_filter, List.find?_eq_none]
  simp

theorem flattenMatches_matches (stages : List StageWithStageItems) :
    (flattenMatches stages).map (·.match_) = tournamentMatches stages := by
  simp [flattenMatches, tournamentMatches, List.map_flatMap, Function.comp_def]

/-! ## 3. Who plays now -/

/-- The input has the match. -/
def Match.hasInput (m : Match) (k : StageItemInputId) : Bool :=
  m.inputId .one == some k || m.inputId .two == some k

theorem hasInput_iff {m : Match} {k : StageItemInputId} :
    m.hasInput k = true ↔ ∃ side, m.inputId side = some k := by
  unfold Match.hasInput
  rw [Bool.or_eq_true, beq_iff_eq, beq_iff_eq]
  constructor
  · rintro (h | h)
    · exact ⟨.one, h⟩
    · exact ⟨.two, h⟩
  · rintro ⟨side, h⟩
    cases side with
    | one => exact Or.inl h
    | two => exact Or.inr h

/-- No input of the one match has the other. -/
def Match.Separate (m m' : Match) : Prop := ∀ k, m.hasInput k = true → ¬ m'.hasInput k = true

theorem Match.Separate.symm {m m' : Match} (h : m.Separate m') : m'.Separate m :=
  fun k hk hk' => h k hk' hk

section Shown

variable {stages : List StageWithStageItems} {now : Int}

theorem mem_playingNow {entry : FlattenedMatch} (h : entry ∈ playingNow stages now) :
    entry ∈ pageMatches stages ∧ matchStatus entry.match_ now = .live := by
  obtain ⟨hmem, hlive⟩ := List.mem_filter.mp h
  exact ⟨hmem, beq_iff_eq.mp hlive⟩

theorem mem_tournamentMatches_of_page {entry : FlattenedMatch} (h : entry ∈ pageMatches stages) :
    entry.match_ ∈ tournamentMatches stages := by
  have hmem := List.mem_of_mem_filter ((List.perm_insertionSort _ _).mem_iff.mp h)
  rw [← flattenMatches_matches]
  exact List.mem_map_of_mem hmem

/-- Different places of a page have different matches. -/
theorem playingNow_distinct (h : DistinctIds stages) :
    (playingNow stages now).Pairwise fun e e' => e.match_.id ≠ e'.match_.id := by
  have hflat : ((flattenMatches stages).map fun e => e.match_.id).Nodup := by
    have hids := h.matchIds
    rwa [← flattenMatches_matches, List.map_map] at hids
  have hpage : ((pageMatches stages).map fun e => e.match_.id).Nodup :=
    ((List.perm_insertionSort _ _).map _).nodup_iff.mpr (hflat.sublist (List.filter_sublist.map _))
  exact List.pairwise_map.mp (hpage.sublist (List.filter_sublist.map _))

/-- If nobody plays twice, the card of a competitor announces the match that it plays. -/
theorem nextMatch_playing
    (h : (playingNow stages now).Pairwise fun e e' => e.match_.Separate e'.match_)
    {entry : FlattenedMatch} (hentry : entry ∈ playingNow stages now) {k : StageItemInputId}
    (hk : entry.match_.hasInput k = true) :
    nextMatch ((pageMatches stages).filter fun e => e.match_.hasInput k) now = some entry := by
  rw [nextMatch_eq_some]
  left
  obtain ⟨hpage, hlive⟩ := mem_playingNow hentry
  have hmem : entry ∈ ((pageMatches stages).filter fun e => e.match_.hasInput k).filter
      fun e => matchStatus e.match_ now == .live :=
    List.mem_filter.mpr ⟨List.mem_filter.mpr ⟨hpage, hk⟩, beq_iff_eq.mpr hlive⟩
  obtain ⟨first, rest, hfirst⟩ := List.exists_cons_of_ne_nil (List.ne_nil_of_mem hmem)
  have hfirstMem := hfirst ▸ List.mem_cons_self (a := first) (l := rest)
  rw [hfirst, List.head?_cons]
  obtain ⟨hfirstPage, hfirstLive⟩ := List.mem_filter.mp hfirstMem
  obtain ⟨hfirstPage, hfirstK⟩ := List.mem_filter.mp hfirstPage
  by_contra hne
  have hfirstEntry : first ∈ playingNow stages now := List.mem_filter.mpr ⟨hfirstPage, hfirstLive⟩
  have : Std.Symm fun e e' : FlattenedMatch => e.match_.Separate e'.match_ :=
    ⟨fun _ _ hseparate => hseparate.symm⟩
  exact h.forall hfirstEntry hentry (fun e => hne (congrArg some e)) k hfirstK hk

end Shown

section OnSchedule

variable {db : Database} {tid : TournamentId} {tournament : TournamentRow}

/-- The margin of a match on schedule. -/
theorem Planned.margin_nonneg (ht : db.tournaments.find? tid = some tournament)
    (hP : Planned db tid) (hT : PositiveTimes db tournament) {m : Match}
    (hm : m ∈ tournamentMatches (fullTournamentDetails db tid {})) : 0 ≤ m.marginMinutes := by
  obtain ⟨s, i, r, hL⟩ := mem_tournamentMatches.mp hm
  obtain ⟨-, -, hmargin⟩ := hP.timing ht hL
  obtain ⟨srow, irow, rrow, row, hrows, -, rfl, rfl, rfl, rfl⟩ := (located_iff whole_default).mp hL
  rw [hmargin]
  have hnonneg : 0 ≤ row.customMarginMinutes.getD tournament.marginMinutes := by
    cases hc : row.customMarginMinutes with
    | none => exact hT.margin
    | some n => exact hT.margins row hrows.match_ n hc
  exact hnonneg

/-- The matches of a page are matches of the tournament. -/
theorem page_matches {caller : Caller} {noDraftRounds : Bool} {stages : List StageWithStageItems}
    (h : getStages db tid caller noDraftRounds = .ok stages) : DistinctIds stages ∧
      ∀ m ∈ tournamentMatches stages, m ∈ tournamentMatches (fullTournamentDetails db tid {}) := by
  obtain ⟨_, -, h⟩ := bind_eq_ok.mp h
  obtain ⟨_, -, h⟩ := bind_eq_ok.mp h
  have hwhole : DetailsFilter.Whole { noDraftRounds := noDraftRounds } := ⟨rfl, rfl⟩
  obtain rfl := getFullTournamentDetails_ok h
  refine ⟨fullTournamentDetails_distinctIds hwhole, fun m hm => ?_⟩
  obtain ⟨s, i, r, hL⟩ := mem_tournamentMatches.mp hm
  obtain ⟨srow, irow, rrow, row, hrows, -, -, -, -, rfl⟩ := (located_iff hwhole).mp hL
  exact mem_tournamentMatches_iff.mpr ⟨row, hrows.match_, hrows.roundTournament, rfl⟩

/-- The clock of the page in milliseconds, the planned times in microseconds. -/
theorem milliseconds_apart {start start' duration margin now : Int} (hmargin : 0 ≤ margin)
    (hafter : start' / 1000 ≤ now) (hbefore : now < start / 1000 + duration * 60000) :
    ¬ start + (duration + margin) * 60000000 ≤ start' := by
  omega

/-- Of two matches that are shown as being played, neither is over before the other starts. -/
theorem not_apart_of_live {m m' : Match} {now : Int} (hmargin : 0 ≤ m.marginMinutes)
    (hlive : matchStatus m now = .live) (hlive' : matchStatus m' now = .live)
    {start start' : DateTime} (hstart : m.startTime = some start)
    (hstart' : m'.startTime = some start') : ¬ m.endTime start ≤ start' := by
  obtain ⟨-, -, s, hs, -, hbefore⟩ := matchStatus_live_iff.mp hlive
  obtain ⟨-, -, s', hs', hafter, -⟩ := matchStatus_live_iff.mp hlive'
  obtain rfl : s = start := Option.some.inj (hs.symm.trans hstart)
  obtain rfl : s' = start' := Option.some.inj (hs'.symm.trans hstart')
  exact milliseconds_apart hmargin hafter hbefore

/-- **Nobody is shown playing twice.** On every page of a tournament that is on schedule, at every
    moment, the matches that are shown as being played have no competitor in common, and the card
    of everyone who plays announces the match that is being played. -/
theorem playingNow_apart (ht : db.tournaments.find? tid = some tournament)
    (hF : FairRounds db tid) (hT : PositiveTimes db tournament) (hP : Planned db tid)
    {caller : Caller} {noDraftRounds : Bool} {stages : List StageWithStageItems}
    (h : getStages db tid caller noDraftRounds = .ok stages) (now : Int) :
    ((playingNow stages now).Pairwise fun e e' => e.match_.Separate e'.match_) ∧
      ∀ entry ∈ playingNow stages now, ∀ k, entry.match_.hasInput k = true →
        nextMatch ((pageMatches stages).filter fun e => e.match_.hasInput k) now = some entry := by
  obtain ⟨hids, hmatches⟩ := page_matches h
  have hfull : ∀ e ∈ playingNow stages now,
      e.match_ ∈ tournamentMatches (fullTournamentDetails db tid {}) := fun e he =>
    hmatches e.match_ (mem_tournamentMatches_of_page (mem_playingNow he).1)
  have hapart : (playingNow stages now).Pairwise fun e e' => e.match_.Separate e'.match_ := by
    refine (playingNow_distinct hids).imp_of_mem fun {e e'} he he' hne k hk hk' => ?_
    obtain ⟨side, hside⟩ := hasInput_iff.mp hk
    obtain ⟨side', hside'⟩ := hasInput_iff.mp hk'
    have hlive := (mem_playingNow he).2
    have hlive' := (mem_playingNow he').2
    obtain ⟨-, -, start, hstart, -⟩ := matchStatus_live_iff.mp hlive
    obtain ⟨-, -, start', hstart', -⟩ := matchStatus_live_iff.mp hlive'
    rcases hP.apart ht hF (hfull e he) (hfull e' he') hne hside hside' hstart hstart' with
      hover | hover
    · exact not_apart_of_live (hP.margin_nonneg ht hT (hfull e he)) hlive hlive' hstart hstart' hover
    · exact not_apart_of_live (hP.margin_nonneg ht hT (hfull e' he')) hlive' hlive hstart' hstart
        hover
  exact ⟨hapart, fun entry hentry k hk => nextMatch_playing hapart hentry hk⟩

end OnSchedule

/-- The evening, while the second round is played. -/
theorem evening_playing : ∃ stages, getStages evening 1 .visitor true = .ok stages ∧
    ((playingNow stages 1200000).Pairwise fun e e' => e.match_.Separate e'.match_) ∧
      ∀ entry ∈ playingNow stages 1200000, ∀ k, entry.match_.hasInput k = true →
        nextMatch ((pageMatches stages).filter fun e => e.match_.hasInput k) 1200000 =
          some entry := by
  have hstages : getStages evening 1 .visitor true =
      .ok (fullTournamentDetails evening 1 publishedFilter) := rfl
  exact ⟨_, hstages, playingNow_apart rfl evening_fair evening_positive evening_planned hstages
    1200000⟩

/-- The first input plays its second match. -/
example : (playingNow (fullTournamentDetails evening 1 publishedFilter) 1200000).map
    (·.match_.id) = [2] := by decide

end Brackets
