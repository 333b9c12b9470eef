/-
  File:      Brackets/Frontend/ViewerData.lean
  Subject:   `toBracketViewerData`: what the viewer is given to draw.

  The viewer has no sources of slots: it draws a line from the matches numbered `2 n - 1` and `2 n`
  of a round to the match numbered `n` of the next, and the names that it is given. The picture is
  right if the two names are those of the winners that it shows on the other end of the lines.

  * `toViewerMatch_winner`: the winner that is shown is the winner of the scores;
  * `winnersDrawn_of_connectors`: connectors and settled slots make a right picture;
  * `drawn_winners`: of a built bracket, after any score entries.
-/
import Brackets.Frontend.BracketAdapter
import Brackets.Progress.KnockoutStandings

namespace Brackets

open Library

/-! ## 1. The data -/

inductive ViewerResult where
  | draw
  | loss
  | win
  deriving DecidableEq, Repr

structure ParticipantResult where
  id : Option StageItemInputId
  score : Option Int
  result : Option ViewerResult
  deriving DecidableEq, Repr

structure ViewerMatch where
  childCount : Nat
  groupId : Nat
  id : MatchId
  number : Nat
  opponent1 : ParticipantResult
  opponent2 : ParticipantResult
  roundId : Nat
  stageId : Nat
  status : Nat
  deriving DecidableEq, Repr

structure ViewerParticipant where
  id : StageItemInputId
  name : String
  tournamentId : TournamentId
  deriving DecidableEq, Repr

inductive ViewerStageType where
  | roundRobin
  | singleElimination
  deriving DecidableEq, Repr

structure ViewerStage where
  id : Nat
  name : String
  number : Nat
  size : Nat
  tournamentId : TournamentId
  type : ViewerStageType
  deriving DecidableEq, Repr

structure BracketViewerData where
  matches_ : List ViewerMatch
  participants : List ViewerParticipant
  stages : List ViewerStage
  deriving DecidableEq, Repr

def statusLocked : Nat := 0
def statusWaiting : Nat := 1
def statusReady : Nat := 2
def statusCompleted : Nat := 4

def viewerStageId : Nat := 1
def viewerGroupId : Nat := 1

/-- `type_name` -/
def StageType.typeName : StageType → String
  | .roundRobin => "Round robin"
  | .singleElimination => "Single elimination"
  | .swiss => "Swiss"

/-- `name || type_name` -/
def shownName (item : StageItemWithRounds) : String :=
  if item.name = "" then item.type.typeName else item.name

/-! ## 2. The adapter -/

def inputLabel (input : StageItemInput) (stageItemsById : Dict StageItemId StageItemWithRounds) :
    String :=
  match input.team with
  | some team => team.name
  | none =>
    match input.winnerFromStageItemId.bind stageItemsById.get? with
    | some stageItem => shownName stageItem ++ " #" ++ toString (input.winnerPosition.getD 0)
    | none => "TBD"

def isScored (m : Match) : Bool := m.stageItemInput1Score != 0 || m.stageItemInput2Score != 0

def toOpponent (inputId : Option StageItemInputId) (score : Int) (known : List StageItemInputId)
    (showScore : Bool) (result : Option ViewerResult) : ParticipantResult where
  id := inputId.filter (known.contains ·)
  score := if showScore then some score else none
  result := result

/-- The result of the side that has the first of two scores. -/
def shownResult (scored : Bool) (own other : Int) : Option ViewerResult :=
  if scored then some (if own = other then .draw else if own > other then .win else .loss) else none

def toViewerMatch (known : List StageItemInputId) (roundIndex matchIndex : Nat) (m : Match) :
    ViewerMatch :=
  let scored := isScored m
  let first := m.stageItemInput1Score
  let second := m.stageItemInput2Score
  let hasBoth := m.stageItemInput1Id.isSome && m.stageItemInput2Id.isSome
  let hasNone := m.stageItemInput1Id.isNone && m.stageItemInput2Id.isNone
  { childCount := 0
    groupId := viewerGroupId
    id := m.id
    number := matchIndex + 1
    opponent1 := toOpponent m.stageItemInput1Id first known scored (shownResult scored first second)
    opponent2 := toOpponent m.stageItemInput2Id second known scored (shownResult scored second first)
    roundId := roundIndex + 1
    stageId := viewerStageId
    status := if scored then statusCompleted else if hasBoth then statusReady
      else if hasNone then statusLocked else statusWaiting }

def viewerMatches (known : List StageItemInputId) (rounds : List RoundWithMatches) :
    List ViewerMatch :=
  (orderRounds rounds).zipIdx.flatMap fun round =>
    round.1.matches_.zipIdx.map fun m => toViewerMatch known round.2 m.2 m.1

def viewerParticipants (stageItem : StageItemWithRounds)
    (stageItemsById : Dict StageItemId StageItemWithRounds) (tournamentId : TournamentId) :
    List ViewerParticipant :=
  (stageItem.inputs.map fun input =>
    ⟨input.id, inputLabel input stageItemsById, tournamentId⟩).filter fun participant =>
      participant.name != "TBD"

def toBracketViewerData (stageItem : StageItemWithRounds)
    (stageItemsById : Dict StageItemId StageItemWithRounds) (tournamentId : TournamentId) :
    Option BracketViewerData :=
  let participants := viewerParticipants stageItem stageItemsById tournamentId
  let known := participants.map (·.id)
  let matches_ := viewerMatches known stageItem.rounds
  if matches_.isEmpty then none
  else some {
    matches_ := matches_
    participants := participants
    stages := [{
      id := viewerStageId
      name := shownName stageItem
      number := 1
      size := stageItem.teamCount
      tournamentId := tournamentId
      type := if stageItem.type = .swiss then .roundRobin else .singleElimination }] }

/-! ## 3. What is shown of a match -/

/-- The side that is marked as the winner. -/
def ViewerMatch.winner (v : ViewerMatch) : Option StageItemInputId :=
  if v.opponent1.result = some .win then v.opponent1.id
  else if v.opponent2.result = some .win then v.opponent2.id
  else none

section Matches

variable {known : List StageItemInputId} {rounds : List RoundWithMatches}

theorem shownResult_win {scored : Bool} {own other : Int} :
    shownResult scored own other = some .win ↔ scored = true ∧ other < own := by
  unfold shownResult
  cases scored with
  | false => simp
  | true => grind

/-- A side that is ahead has scored. -/
theorem isScored_of_ne {m : Match} (h : m.stageItemInput1Score ≠ m.stageItemInput2Score) :
    isScored m = true := by
  unfold isScored
  rw [Bool.or_eq_true, bne_iff_ne, bne_iff_ne]
  omega

/-- An opponent is somebody known. -/
theorem toOpponent_known {inputId : Option StageItemInputId} {score : Int} {showScore : Bool}
    {result : Option ViewerResult} {id : StageItemInputId}
    (h : (toOpponent inputId score known showScore result).id = some id) : id ∈ known :=
  List.contains_iff_mem.mp (Option.filter_eq_some_iff.mp h).2

theorem toViewerMatch_winner (roundIndex matchIndex : Nat) (m : Match) :
    (toViewerMatch known roundIndex matchIndex m).winner =
      m.winnerId.filter (known.contains ·) := by
  have hfirst : (toViewerMatch known roundIndex matchIndex m).opponent1.result = some .win ↔
      m.stageItemInput2Score < m.stageItemInput1Score :=
    shownResult_win.trans (and_iff_right_of_imp fun h => isScored_of_ne (ne_of_gt h))
  have hsecond : (toViewerMatch known roundIndex matchIndex m).opponent2.result = some .win ↔
      m.stageItemInput1Score < m.stageItemInput2Score :=
    shownResult_win.trans (and_iff_right_of_imp fun h => isScored_of_ne (ne_of_lt h))
  unfold ViewerMatch.winner MatchRow.winnerId MatchRow.winnerOf
  simp only [hfirst, hsecond]
  split
  · rfl
  · split
    · rfl
    · rfl

theorem mem_viewerMatches {v : ViewerMatch} : v ∈ viewerMatches known rounds ↔
    ∃ r d i m, (orderRounds rounds)[r]? = some d ∧ d.matches_[i]? = some m ∧
      toViewerMatch known r i m = v := by
  unfold viewerMatches
  rw [List.mem_flatMap]
  constructor
  · rintro ⟨⟨d, r⟩, hd, hv⟩
    obtain ⟨⟨m, i⟩, hm, rfl⟩ := List.mem_map.mp hv
    exact ⟨r, d, i, m, List.mem_zipIdx_iff_getElem?.mp hd, List.mem_zipIdx_iff_getElem?.mp hm, rfl⟩
  · rintro ⟨r, d, i, m, hd, hm, rfl⟩
    exact ⟨(d, r), List.mem_zipIdx_iff_getElem?.mpr hd,
      List.mem_map.mpr ⟨(m, i), List.mem_zipIdx_iff_getElem?.mpr hm, rfl⟩⟩

theorem zipIdx_distinct {α : Type} (l : List α) : l.zipIdx.Pairwise fun a b => a.2 ≠ b.2 := by
  have hrange : (l.zipIdx.map Prod.snd).Nodup := by
    rw [List.zipIdx_map_snd]
    exact List.nodup_range'
  exact List.pairwise_map.mp hrange

/-- No two matches have the same number in the same round. -/
theorem viewerMatches_placed :
    ((viewerMatches known rounds).map fun v => (v.roundId, v.number)).Nodup := by
  refine List.pairwise_map.mpr (List.pairwise_flatMap.mpr ⟨fun round _ => ?_, ?_⟩)
  · refine List.pairwise_map.mpr ((zipIdx_distinct _).imp fun hne e => hne ?_)
    exact Nat.succ.inj (Prod.mk.inj e).2
  · refine (zipIdx_distinct _).imp fun hne v hv w hw e => hne ?_
    obtain ⟨m, -, rfl⟩ := List.mem_map.mp hv
    obtain ⟨m', -, rfl⟩ := List.mem_map.mp hw
    exact Nat.succ.inj (Prod.mk.inj e).1

end Matches

/-! ## 4. A right picture -/

/-- The opponents are participants, and every line of the picture ends at the winner of the match
    that it starts from. -/
structure WinnersDrawn (data : BracketViewerData) : Prop where
  placed : (data.matches_.map fun v => (v.roundId, v.number)).Nodup
  participants : ∀ v ∈ data.matches_, ∀ id, v.opponent1.id = some id ∨ v.opponent2.id = some id →
    ∃ participant ∈ data.participants, participant.id = id
  moved : ∀ v ∈ data.matches_, 1 < v.roundId → ∃ a ∈ data.matches_, ∃ b ∈ data.matches_,
    a.roundId + 1 = v.roundId ∧ a.number + 1 = 2 * v.number ∧
      b.roundId + 1 = v.roundId ∧ b.number = 2 * v.number ∧
      v.opponent1.id = a.winner ∧ v.opponent2.id = b.winner

section Picture

variable {item : StageItemWithRounds} {stageItemsById : Dict StageItemId StageItemWithRounds}
  {tid : TournamentId}

theorem toBracketViewerData_eq_some {data : BracketViewerData}
    (h : toBracketViewerData item stageItemsById tid = some data) :
    data.matches_ = viewerMatches (data.participants.map (·.id)) item.rounds := by
  unfold toBracketViewerData at h
  dsimp only at h
  split at h
  · cases h
  · cases h
    rfl

/-- The drawn matches are those of the stage item. -/
theorem mem_of_drawn (h : Connectors item.rounds (orderRounds item.rounds)) {d : OrderedRound}
    (hd : d ∈ orderRounds item.rounds) {m : Match} (hm : m ∈ d.matches_) : m ∈ item.allMatches := by
  have hround : d.round ∈ item.rounds := h.rounds ▸ List.mem_map_of_mem hd
  exact mem_allMatches.mpr ⟨d.round, hround, (h.placed d hd).mem_iff.mp hm⟩

theorem winnersDrawn_of_connectors (hC : Connectors item.rounds (orderRounds item.rounds))
    (hsettled : ∀ m ∈ item.allMatches, ∀ src ∈ item.allMatches, ∀ side,
      m.winnerFrom side = some src.id → m.inputId side = src.winnerId)
    {data : BracketViewerData} (h : toBracketViewerData item stageItemsById tid = some data) :
    WinnersDrawn data := by
  have hmatches := toBracketViewerData_eq_some h
  refine ⟨?_, fun v hv id hid => ?_, fun v hv hlater => ?_⟩
  · rw [hmatches]
    exact viewerMatches_placed
  · rw [hmatches] at hv
    obtain ⟨r, d, i, m, -, -, rfl⟩ := mem_viewerMatches.mp hv
    have hknown : id ∈ data.participants.map (·.id) :=
      hid.elim toOpponent_known toOpponent_known
    exact List.mem_map.mp hknown
  rw [hmatches] at hv ⊢
  obtain ⟨r, next, i, m, hnext, hm, rfl⟩ := mem_viewerMatches.mp hv
  obtain ⟨j, rfl⟩ : ∃ j, r = j + 1 := Nat.exists_eq_succ_of_ne_zero (Nat.succ_lt_succ_iff.mp hlater).ne'
  obtain ⟨hj, -⟩ := List.getElem?_eq_some_iff.mp hnext
  have htier := List.getElem?_eq_getElem (Nat.lt_of_succ_lt hj)
  obtain ⟨a, b, ha, hb, hone, htwo⟩ := (hC.connected j _ next htier hnext).1 i m hm
  have hmem := mem_of_drawn hC (List.mem_of_getElem? hnext) (List.mem_of_getElem? hm)
  have htierMem := List.mem_of_getElem? htier
  have hfirst := hsettled m hmem a (mem_of_drawn hC htierMem (List.mem_of_getElem? ha)) .one hone
  have hsecond := hsettled m hmem b (mem_of_drawn hC htierMem (List.mem_of_getElem? hb)) .two htwo
  refine ⟨_, mem_viewerMatches.mpr ⟨j, _, 2 * i, a, htier, ha, rfl⟩,
    _, mem_viewerMatches.mpr ⟨j, _, 2 * i + 1, b, htier, hb, rfl⟩, rfl, rfl, rfl, rfl, ?_, ?_⟩
  · rw [toViewerMatch_winner, ← hfirst]
    rfl
  · rw [toViewerMatch_winner, ← hsecond]
    rfl

/-- As soon as there is a match, there is something to draw. -/
theorem exists_toBracketViewerData (h : Connectors item.rounds (orderRounds item.rounds)) {m : Match}
    (hm : m ∈ item.allMatches) (stageItemsById : Dict StageItemId StageItemWithRounds)
    (tid : TournamentId) : ∃ data, toBracketViewerData item stageItemsById tid = some data := by
  obtain ⟨round, hround, hm⟩ := mem_allMatches.mp hm
  rw [← h.rounds] at hround
  obtain ⟨d, hd, rfl⟩ := List.mem_map.mp hround
  obtain ⟨r, hr⟩ := List.mem_iff_getElem?.mp hd
  obtain ⟨i, hi⟩ := List.mem_iff_getElem?.mp ((h.placed d hd).mem_iff.mpr hm)
  have hv : toViewerMatch ((viewerParticipants item stageItemsById tid).map (·.id)) r i m ∈
      viewerMatches ((viewerParticipants item stageItemsById tid).map (·.id)) item.rounds :=
    mem_viewerMatches.mpr ⟨r, d, i, m, hr, hi, rfl⟩
  unfold toBracketViewerData
  dsimp only
  rw [if_neg (by rw [List.isEmpty_iff]; exact List.ne_nil_of_mem hv)]
  exact ⟨_, rfl⟩

end Picture

/-! ## 5. A built bracket -/

section Runs

variable {E : ExpectedScore} {db : Database} {tid : TournamentId}

theorem DeliveredAs.mem_iff {rounds delivered : List RoundWithMatches}
    (h : DeliveredAs rounds delivered) {m : Match} :
    m ∈ delivered.flatMap (·.matches_) ↔ m ∈ rounds.flatMap (·.matches_) := by
  induction h with
  | nil => rfl
  | cons hround _ ih => rw [List.flatMap_cons, List.flatMap_cons, List.mem_append, List.mem_append,
      ih, hround.2.mem_iff]

/-- Slots in order of the sources, in rows and as loaded. -/
theorem Settled.loaded {row : StageItemRow} (h : Settled db row.id) :
    ∀ m ∈ (loadStageItem db tid row).allMatches, ∀ src ∈ (loadStageItem db tid row).allMatches,
      ∀ side, m.winnerFrom side = some src.id → m.inputId side = src.winnerId := by
  intro m hm src hsrc side hsource
  obtain ⟨mrow, hmrow, rfl⟩ := mem_loaded_matches.mp hm
  obtain ⟨srow, hsrow, rfl⟩ := mem_loaded_matches.mp hsrc
  exact h mrow srow hmrow hsrow side hsource

/-- Rounds that are seeded with somebody have a match. -/
theorem Levels.exists_match {row : StageItemRow} {seeds : List StageItemInputId}
    (h : Levels db ((loadStageItem db tid row).rounds.map (·.id)) seeds) (hseeds : seeds ≠ [])
    (hrounds : (loadStageItem db tid row).rounds ≠ []) :
    ∃ m, m ∈ (loadStageItem db tid row).allMatches := by
  obtain ⟨round, rest, hfirst⟩ := List.exists_cons_of_ne_nil hrounds
  have hround : round ∈ (loadStageItem db tid row).rounds := hfirst ▸ List.mem_cons_self
  have hseeded := h.seeded round.id (by rw [hfirst]; rfl)
  have hrows : db.roundRows round.id ≠ [] := by
    intro hnone
    rw [hnone] at hseeded
    exact hseeds (List.map_eq_nil_iff.mp hseeded.symm)
  obtain ⟨m, hm⟩ := List.exists_mem_of_ne_nil _ hrows
  obtain ⟨hrow, hid⟩ := List.mem_filter.mp hm
  obtain ⟨rrow, hrrow, hk, rfl⟩ := mem_loaded_rounds.mp hround
  exact ⟨_, mem_loaded_matches.mpr ⟨m, inItem_iff.mpr ⟨hrow, rrow, hrrow, hk,
    (beq_iff_eq.mp hid).symm⟩, rfl⟩⟩

/-- **The picture of a bracket is right after any score entries.** It is built from `2 ^ n` inputs;
    whatever is entered, and in whatever order the matches are delivered, the viewer draws from
    every shown winner to the place where it shows this winner again. -/
theorem drawn_winners {k : StageItemId} {item : StageItemWithRounds} {tournament : TournamentRow}
    {n : Nat} (hitem : getStageItem db tid k = .ok item) (htype : item.type = .singleElimination)
    (ht : db.tournaments.find? tid = some tournament) (hfresh : Fresh item n) (hn : 1 ≤ n) :
    ∃ built, buildSingleEliminationStageItem db tid item = .ok built ∧
      ∀ db', Relation.ReflTransGen (Scores E tid k) built db' →
        ∃ loaded, getStageItem db' tid k = .ok loaded ∧
          ∀ delivered, DeliveredAs loaded.rounds delivered → ∀ stageItemsById, ∃ data,
            toBracketViewerData { loaded with rounds := delivered } stageItemsById tid = some data ∧
              WinnersDrawn data := by
  obtain ⟨built, hbuilt, hW, hU, hframe⟩ := buildSingleElimination_ok hitem ht hfresh hn
  have hlevels := buildSingleElimination_levels hitem hfresh.noMatches hbuilt
  obtain ⟨row, hrow, -, rfl, -⟩ := getStageItem_eq_ok.mp hitem
  obtain rfl : row.id = k := db.stageItems.key_of_find? hrow
  refine ⟨built, hbuilt, fun db' hrun => ?_⟩
  have hbuiltTree := tree_of_built hitem hrow htype hW hU hframe
  have hT := hbuiltTree.run hrun
  have hsame : db'.frame = db.frame := by
    rw [Scores.frame hrun, ← hframe]
    rfl
  have hids : (loadStageItem db' tid row).rounds.map (·.id) =
      (loadStageItem db tid row).rounds.map (·.id) :=
    loaded_rounds_of_frame hsame fun _ _ _ => rfl
  have hL := hlevels.run hbuiltTree hrun
  rw [← hids] at hL
  refine ⟨_, hT.loads, fun delivered hdelivered stageItemsById => ?_⟩
  have hC := connectors_of_levels hL hdelivered
  have hmatch : ∃ m, m ∈ (loadStageItem db' tid row).allMatches := by
    refine hL.exists_match (List.ne_nil_of_length_pos ?_) (List.ne_nil_of_length_pos ?_)
    · rw [List.length_map, hfresh.inputs]
      exact Nat.two_pow_pos n
    · rw [← List.length_map (·.id), hids, List.length_map, hfresh.rounds]
      exact hn
  obtain ⟨m, hm⟩ := hmatch
  obtain ⟨data, hdata⟩ := @exists_toBracketViewerData
    { loadStageItem db' tid row with rounds := delivered } hC m (hdelivered.mem_iff.mpr hm)
    stageItemsById tid
  refine ⟨data, hdata, winnersDrawn_of_connectors hC (fun m hm src hsrc => ?_) hdata⟩
  exact hT.settled.loaded m (hdelivered.mem_iff.mp hm) src (hdelivered.mem_iff.mp hsrc)

end Runs

/-! ### The corrected cup -/

/-- The stage item with the matches of each round in the opposite order. -/
def upsideDown (item : StageItemWithRounds) : StageItemWithRounds :=
  { item with rounds := item.rounds.map fun r => { r with matches_ := r.matches_.reverse } }

/-- The places of the picture with the winners it shows there. -/
def shownWinners (data : BracketViewerData) : List (Nat × Nat × Option StageItemInputId) :=
  data.matches_.map fun v => (v.roundId, v.number, v.winner)

theorem cupCorrected_shown : ((getStageItem cupCorrected 1 1).toOption.bind fun item =>
    (toBracketViewerData (upsideDown item) Dict.empty 1).map shownWinners) =
      some [(1, 1, some 2), (1, 2, some 4), (2, 1, some 2)] := by
  decide +kernel

/-- After the correction of a semifinal the picture shows the other winner, there and in the
    final. -/
theorem cup_drawn : buildSingleEliminationStageItem cup 1 (loadStageItem cup 1 cupItem) =
      .ok cupBuilt ∧
    Relation.ReflTransGen (Scores evenExpectation 1 1) cupBuilt cupCorrected ∧
    ∃ item data, getStageItem cupCorrected 1 1 = .ok item ∧
      toBracketViewerData (upsideDown item) Dict.empty 1 = some data ∧ WinnersDrawn data ∧
      shownWinners data = [(1, 1, some 2), (1, 2, some 4), (2, 1, some 2)] := by
  obtain ⟨built, hbuilt, hruns⟩ := @drawn_winners evenExpectation cup 1 1 _ _ 2 cup_loads rfl rfl
    cup_fresh (by decide)
  obtain rfl : cupBuilt = built := Except.ok.inj (cupBuilt_eq.symm.trans hbuilt)
  obtain ⟨item, hitem, hdrawn⟩ := hruns cupCorrected cupCorrected_run
  obtain ⟨data, hdata, hright⟩ := hdrawn _ (deliveredAs_reverse item.rounds) Dict.empty
  have hshown := cupCorrected_shown
  rw [hitem] at hshown
  have hdata' : toBracketViewerData (upsideDown item) Dict.empty 1 = some data := hdata
  rw [Except.toOption, Option.bind_some, hdata', Option.map_some] at hshown
  exact ⟨hbuilt, cupCorrected_run, item, data, hitem, hdata, hright, Option.some.inj hshown⟩

end Brackets
