/-
  File:      Brackets/Progress/Lineups.lean
  Subject:   The lineups of the matches, over all requests.

  Everyone plays in his stage item, and nobody plays against himself or twice in a round
  (`Lineups`). Two requests can break that: `create_match` takes any input of the tournament, and
  `update_match_by_id` moves a match to any round of the tournament.

  * `Lined.call`: every other request keeps the matches lined up, and so do these two with the
    inputs of the stage item and a round where nobody of the match can be already (`KeepsLined`);
  * `lineups_of_keeps`: the run theorem, and that the standings find a slot for everyone;
  * `lineups_broken`: a match that is moved to the next round, and one with an input of another
    stage item.
-/
import Brackets.Progress.Activation
import Brackets.Progress.NewStageItems
import Brackets.Ranking.Standings

namespace Brackets

open Library

variable {db db' : Database} {tid : TournamentId}

/-! ## 1. Lineups -/

/-- **Everyone plays in his stage item, against another one, and once in a round.** -/
structure Lineups (db : Database) : Prop where
  own : ∀ m ∈ db.matches_.rows, ∀ i, m.Plays i →
    ∃ k, db.inputItem i = some k ∧ db.roundItem m.roundId = some k
  differ : ∀ m ∈ db.matches_.rows, ∀ i, m.stageItemInput1Id = some i → m.stageItemInput2Id ≠ some i
  once : ∀ m ∈ db.matches_.rows, ∀ n ∈ db.matches_.rows, m.roundId = n.roundId →
    ∀ i, m.Plays i → n.Plays i → m = n

/-- Who plays has a side. -/
theorem MatchRow.Plays.side {m : MatchRow} {i : StageItemInputId} (h : m.Plays i) :
    ∃ side, m.inputId side = some i := by
  rcases h with h | h
  · exact ⟨.one, h⟩
  · exact ⟨.two, h⟩

/-- A match of an isolated database is in a stage item. -/
theorem Isolated.match_item (hdb : Isolated db) {m : MatchRow} (hm : m ∈ db.matches_.rows) :
    ∃ k, db.roundItem m.roundId = some k := by
  obtain ⟨b, hb⟩ := hdb.matches_ m hm
  obtain ⟨r, hr, hid, -⟩ := Table.ownerAt_eq_some.mp hb.round
  exact ⟨r.stageItemId, hid ▸ roundItem_row hr⟩

/-- Its inputs are stored. -/
theorem Isolated.match_input (hdb : Isolated db) {m : MatchRow} (hm : m ∈ db.matches_.rows)
    {side : Side} {i : StageItemInputId} (hi : m.inputId side = some i) :
    ∃ k, db.inputItem i = some k := by
  obtain ⟨b, hb⟩ := hdb.matches_ m hm
  obtain ⟨row, hrow, hid, -⟩ := Table.ownerAt_eq_some.mp (hb.input side i hi)
  exact ⟨row.stageItemId, hid ▸ inputItem_row hrow⟩

/-- Who is stored can reach the match. -/
theorem Lined.lineups (hL : Lined db) (hdb : Isolated db) : Lineups db where
  own m hm i hi := by
    obtain ⟨side, hside⟩ := hi.side
    obtain ⟨k, hk⟩ := hdb.match_input hm hside
    obtain ⟨k', hk'⟩ := hdb.match_item hm
    obtain rfl := hL.own m hm side i (.stored hm hside) k k' hk hk'
    exact ⟨k, hk, hk'⟩
  differ m hm i h1 h2 := by
    have hone : m.inputId .one = some i := h1
    have htwo : m.inputId .two = some i := h2
    obtain ⟨-, hside⟩ := hL.apart m hm m hm rfl .one .two i (.stored hm hone) (.stored hm htwo)
    cases hside
  once m hm n hn hround i hi hi' := by
    obtain ⟨side, hside⟩ := hi.side
    obtain ⟨side', hside'⟩ := hi'.side
    exact (hL.apart m hm n hn hround side side' i (.stored hm hside) (.stored hn hside')).1

/-! ## 2. A match that moves -/

/-- The round is of the stage item of the match, and nobody who can reach the match can reach
    another match of the round. -/
structure MovesApart (db : Database) (m : MatchRow) (r : RoundId) : Prop where
  ofItem : db.roundItem r = db.roundItem m.roundId
  apart : ∀ n ∈ db.matches_.rows, n.roundId = r → n.id ≠ m.id → ∀ side side' i,
    Origin db m.id side i → ¬ Origin db n.id side' i

/-- Its own round is always free for a match that is lined up. -/
theorem Lined.movesApart (hL : Lined db) {m : MatchRow} (hm : m ∈ db.matches_.rows) :
    MovesApart db m m.roundId where
  ofItem := rfl
  apart n hn hround hne side side' i hi hi' :=
    hne (congrArg MatchRow.id (hL.apart m hm n hn hround.symm side side' i hi hi').1).symm

/-- The round is of the stage item of the match, which is no bracket, and nobody of the match has
    another one there. -/
def FreeRound (db : Database) (m : MatchRow) (r : RoundId) : Prop :=
  db.roundItem r = db.roundItem m.roundId ∧
    (∀ k ∈ db.roundItem r, ∀ row ∈ db.stageItems.find? k, row.type ≠ .singleElimination) ∧
    ∀ n ∈ db.matches_.rows, n.roundId = r → n.id ≠ m.id →
      ∀ i ∈ m.stageItemInput1Id.toList ++ m.stageItemInput2Id.toList, n.names i = false

instance (db : Database) (m : MatchRow) (r : RoundId) : Decidable (FreeRound db m r) :=
  inferInstanceAs (Decidable (_ ∧ (∀ k ∈ db.roundItem r, ∀ row ∈ db.stageItems.find? k, _) ∧ _))

theorem MatchRow.names_iff {m : MatchRow} {i : StageItemInputId} :
    m.names i = true ↔ m.Plays i := by
  rw [MatchRow.names, Bool.or_eq_true, beq_iff_eq, beq_iff_eq]
  rfl

/-- Outside of brackets it is enough to look at who plays. -/
theorem FreeRound.movesApart {m : MatchRow} {r : RoundId} (h : FreeRound db m r)
    (hm : m ∈ db.matches_.rows) : MovesApart db m r := by
  obtain ⟨hof, hgroup, hfree⟩ := h
  have hgroup : ∀ k, db.roundItem r = some k → ¬ db.IsBracket k :=
    fun k hk ⟨row, hrow, htype⟩ => hgroup k hk row hrow htype
  refine ⟨hof, fun n hn hround hne side side' i hi hi' => ?_⟩
  have hplays := MatchRow.plays_of_inputId (hi.stays hm (hof ▸ hgroup))
  have hmem : i ∈ m.stageItemInput1Id.toList ++ m.stageItemInput2Id.toList :=
    List.mem_append.mpr (hplays.imp Option.mem_toList.mpr Option.mem_toList.mpr)
  have hno := hfree n hn hround hne i hmem
  rw [MatchRow.names_iff.mpr (MatchRow.plays_of_inputId (hi'.stays hn (hround ▸ hgroup)))] at hno
  cases hno

section Move

variable {k : MatchId} {body : MatchBody} {m : MatchRow} (hfind : db.matches_.find? k = some m)

/-- A row after the update of a match. -/
theorem mem_updateMatch {m' : MatchRow} (hm' : m' ∈ (sqlUpdateMatch db k body).matches_.rows) :
    ∃ n ∈ db.matches_.rows, m'.id = n.id ∧ (∀ side, m'.inputId side = n.inputId side) ∧
      (∀ side, m'.winnerFrom side = n.winnerFrom side) ∧
      m'.roundId = if n.id = k then body.roundId else n.roundId := by
  obtain ⟨n, hn, rfl⟩ := List.mem_map.mp hm'
  refine ⟨n, hn, ?_⟩
  by_cases hk : n.id = k
  · rw [if_pos (beq_iff_eq.mpr hk), if_pos hk]
    exact ⟨rfl, fun side => by cases side <;> rfl, fun side => by cases side <;> rfl, rfl⟩
  · rw [if_neg (fun e => hk (eq_of_beq e)), if_neg hk]
    exact ⟨rfl, fun _ => rfl, fun _ => rfl, rfl⟩

include hfind

theorem eq_of_updated {n : MatchRow} (hn : n ∈ db.matches_.rows) (hid : n.id = k) : n = m :=
  db.matches_.eq_of_key hn (db.matches_.mem_of_find? hfind)
    (hid.trans (db.matches_.key_of_find? hfind).symm)

/-- The stage item of every match stays. -/
theorem roundItem_updateMatch (hof : db.roundItem body.roundId = db.roundItem m.roundId)
    {n : MatchRow} (hn : n ∈ db.matches_.rows) :
    db.roundItem (if n.id = k then body.roundId else n.roundId) = db.roundItem n.roundId := by
  split
  · next hid => rw [hof, eq_of_updated hfind hn hid]
  · rfl

/-- Nothing new can reach a match of which the round changes within the stage item. -/
theorem origin_updateMatch (hof : db.roundItem body.roundId = db.roundItem m.roundId)
    {x : MatchId} {side : Side} {i : StageItemInputId}
    (h : Origin (sqlUpdateMatch db k body) x side i) : Origin db x side i := by
  induction h with
  | stored hm' hi =>
    obtain ⟨n, hn, hid, hinput, -, -⟩ := mem_updateMatch hm'
    exact hid ▸ .stored hn ((hinput _).symm.trans hi)
  | @fed m' src' _ _ _ j hm' hsrc' hj hw _ ih =>
    obtain ⟨n, hn, hid, -, hsource, hround⟩ := mem_updateMatch hm'.1
    obtain ⟨src, hsrc, hsrcid, -, -, hsrcround⟩ := mem_updateMatch hsrc'.1
    have hin : ∀ {a : MatchRow}, a ∈ db.matches_.rows → ∀ {a' : MatchRow},
        (sqlUpdateMatch db k body).roundItem a'.roundId = some j →
        a'.roundId = (if a.id = k then body.roundId else a.roundId) → db.InItem j a := by
      intro a ha a' hitem hr
      refine ⟨ha, ?_⟩
      rw [← roundItem_updateMatch hfind hof ha, ← hr]
      exact hitem
    rw [hid]
    rw [hsrcid] at ih hw
    exact .fed (hin hn hm'.2 hround) (hin hsrc hsrc'.2 hsrcround) hj ((hsource _).symm.trans hw) ih

/-- **A match that moves apart stays lined up.** -/
theorem Lined.sqlUpdateMatch (hL : Lined db) (h : MovesApart db m body.roundId) :
    Lined (sqlUpdateMatch db k body) where
  own m' hm' side i hi j j' hj hj' := by
    obtain ⟨n, hn, hid, -, -, hround⟩ := mem_updateMatch hm'
    have hitem : db.roundItem n.roundId = some j' := by
      rw [← roundItem_updateMatch hfind h.ofItem hn, ← hround]
      exact hj'
    exact hL.own n hn side i (hid ▸ origin_updateMatch hfind h.ofItem hi) j j' hj hitem
  apart m' hm' n' hn' hrounds side side' i hi hi' := by
    obtain ⟨a, ha, haid, -, -, hra⟩ := mem_updateMatch hm'
    obtain ⟨b, hb, hbid, -, -, hrb⟩ := mem_updateMatch hn'
    have hia : Origin db a.id side i := haid ▸ origin_updateMatch hfind h.ofItem hi
    have hib : Origin db b.id side' i := hbid ▸ origin_updateMatch hfind h.ofItem hi'
    -- the moved match meets nobody in its new round, the others keep their rounds
    have hsame : a = b ∧ side = side' := by
      rw [hra, hrb] at hrounds
      by_cases hak : a.id = k
      · obtain rfl := eq_of_updated hfind ha hak
        by_cases hbk : b.id = k
        · obtain rfl := eq_of_updated hfind hb hbk
          exact hL.apart b hb b hb rfl side side' i hia hib
        · rw [if_pos hak, if_neg hbk] at hrounds
          exact absurd hib (h.apart b hb hrounds.symm (fun e => hbk (e.trans hak)) side side' i hia)
      · by_cases hbk : b.id = k
        · obtain rfl := eq_of_updated hfind hb hbk
          rw [if_neg hak, if_pos hbk] at hrounds
          exact absurd hia (h.apart a ha hrounds (fun e => hak (e.trans hbk)) side' side i hib)
        · rw [if_neg hak, if_neg hbk] at hrounds
          exact hL.apart a ha b hb hrounds side side' i hia hib
    have hkeys : m'.id = n'.id := haid.trans ((congrArg MatchRow.id hsame.1).trans hbid.symm)
    exact ⟨(Brackets.sqlUpdateMatch db k body).matches_.eq_of_key hm' hn' hkeys, hsame.2⟩

end Move

/-- A score entry, which may move the match. -/
theorem Lined.updateMatchById (hL : Lined db) {E : ExpectedScore} {k : MatchId} {body : MatchBody}
    (hmoves : ∀ m, db.matches_.find? k = some m → body.roundId ≠ m.roundId →
      MovesApart db m body.roundId) (hcall : updateMatchById E db tid k body = .ok db') :
    Lined db' := by
  obtain ⟨e⟩ := updateMatchById_ok hcall
  have hapart : MovesApart db e.row body.roundId := by
    by_cases hround : body.roundId = e.row.roundId
    · exact hround ▸ hL.movesApart (db.matches_.mem_of_find? e.found)
    · exact hmoves e.row e.found hround
  have hstored := hL.sqlUpdateMatch e.found hapart
  have hplanned : Reseats (Brackets.sqlUpdateMatch db k body) e.planned :=
    (Reseats.recalculateRanking e.recalculation).trans (.of_untimed e.planning)
  have hpropagation := e.propagation
  split at hpropagation
  · next htype =>
    have hid : e.item.id = e.round.stageItemId := db.stageItems.key_of_find? e.ofItem
    have hbracket : (Brackets.sqlUpdateMatch db k body).IsBracket e.item.id :=
      ⟨e.item, hid ▸ e.ofItem, htype⟩
    exact (hplanned.moveOn hbracket hpropagation).thins.lined hstored
  · exact Except.ok.inj hpropagation ▸ hplanned.thins.lined hstored

/-! ## 3. The runs -/

/-- A round is drafted with a matching, a match is created for inputs of the stage item of its
    round, and a match that changes its round moves apart from the others there. -/
def KeepsLined (env : Environment) (db : Database) : Call → Prop
  | .request _ (.createRound _) => MatchesOnly env.maxWeightMatching
  | .request _ (.createMatch body) => body.OfItem db
  | .request _ (.updateMatchById k body) => ∀ m, db.matches_.find? k = some m →
      body.roundId ≠ m.roundId → MovesApart db m body.roundId
  | _ => True

theorem Lined.call (hL : Lined db) (hdb : Isolated db) {env : Environment} {call : Call}
    (hkeeps : KeepsLined env db call) (hcall : call.handle env db = .ok db') : Lined db' := by
  cases call with
  | createTournament body =>
    obtain ⟨-, -, rfl⟩ := createTournament_ok hcall
    refine Thins.lined ?_ hL
    exact .of_same rfl rfl rfl rfl
  | request tid r =>
    have h : r.handle env db tid = .ok db' := hcall
    cases r with
    | createStageItem body => exact hL.createStageItem hdb h
    | createRound body => exact hL.createRound hdb hkeeps h
    | createMatch body => exact hL.createMatch hkeeps h
    | updateMatchById k body => exact hL.updateMatchById hkeeps h
    | _ => exact (Request.thins hdb h trivial).lined hL

theorem lined_empty : Lined .empty where
  own _ hm := absurd hm List.not_mem_nil
  apart _ hm := absurd hm List.not_mem_nil

/-- Whoever plays in a loaded stage item is one of its inputs. -/
theorem Lineups.loaded (h : Lineups db) (hdb : Isolated db) {f : DetailsFilter} {row : StageItemRow}
    {r : RoundWithMatches} (hr : r ∈ (stageItemWithRounds db tid f row).rounds) {m : Match}
    (hm : m ∈ r.matches_) {side : Side} {i : StageItemInput} (hi : m.input side = some i) :
    i ∈ (stageItemWithRounds db tid f row).inputs := by
  obtain ⟨rrow, hrrow, rfl⟩ := List.mem_map.mp hr
  obtain ⟨hrrow, hof⟩ := List.mem_filter.mp hrrow
  have hof : rrow.stageItemId = row.id := eq_of_beq (Bool.and_eq_true _ _ |>.mp hof).1
  obtain ⟨mrow, hmrow, hround, rfl⟩ := mem_roundWithMatches.mp hm
  have hid := matchWithInputs_inputId hi
  rw [matchWithInputs_input] at hi
  obtain ⟨x, -, hi⟩ := Option.bind_eq_some_iff.mp hi
  have hmem := List.mem_of_find?_eq_some hi
  obtain ⟨irow, hirow, rfl⟩ := List.mem_map.mp hmem
  obtain ⟨hirow, htour⟩ := List.mem_filter.mp hirow
  have htour : db.stageItemTournament irow.stageItemId = some tid :=
    eq_of_beq (Bool.and_eq_true _ _ |>.mp htour).1
  obtain ⟨k, hk, hk'⟩ := h.own mrow hmrow irow.id (MatchRow.plays_of_inputId hid)
  have hown : irow.stageItemId = rrow.stageItemId := Option.some.inj
    ((inputItem_row hirow).symm.trans (hk.trans (hk'.symm.trans (hround ▸ roundItem_row hrrow))))
  refine (List.mem_insertionSort _).mpr (List.mem_filter.mpr ⟨hmem, ?_⟩)
  rw [Bool.and_eq_true]
  exact ⟨beq_iff_eq.mpr (hown.trans hof), beq_iff_eq.mpr (hdb.input_own hirow htour)⟩

/-- The standings of a stage item find the slot of everyone in them. -/
def FindsSlots (item : StageItemWithRounds) : Prop :=
  ∀ A E ranking d, Rounded.determineRankingForStageItem A E item ranking = .ok d →
    (∀ k ∈ d.keys, ∃ i ∈ item.inputs, i.id = k) ∧
      ∃ l, Rounded.determineTeamRankingForStageItem A E item ranking = .ok l

theorem Lineups.findsSlots (h : Lineups db) (hdb : Isolated db) {f : DetailsFilter}
    {stage : StageWithStageItems} (hstage : stage ∈ fullTournamentDetails db tid f)
    {item : StageItemWithRounds} (hitem : item ∈ stage.stageItems) : FindsSlots item := by
  obtain ⟨s, -, -, rfl⟩ := mem_fullTournamentDetails hstage
  obtain ⟨row, -, -, -, rfl⟩ := mem_stageWithStageItems hitem
  intro A E ranking d hd
  have hslots : ∀ k ∈ d.keys, ∃ i ∈ (stageItemWithRounds db tid f row).inputs, i.id = k := by
    intro k hk
    rcases (ranking_keys hd k).mp hk with ⟨i, hi, hid, -⟩ | ⟨m, hm, side, i, hi, hid⟩
    · exact ⟨i, hi, hid⟩
    · obtain ⟨r, hr, hm⟩ := mem_played hm
      exact ⟨i, h.loaded hdb hr hm hi, hid⟩
  exact ⟨hslots, _, Rounded.determineTeamRanking_eq_ok.mpr ⟨d, hd, hslots, rfl⟩⟩

/-- **The lineups hold in every run** whose created and moved matches keep to the stage item and
    apart from the others of the round, and the standings of every loaded stage item find a slot
    for everyone. -/
theorem lineups_of_keeps (h : Runs KeepsLined .empty db) : Lineups db ∧
    ∀ tid f, ∀ stage ∈ fullTournamentDetails db tid f, ∀ item ∈ stage.stageItems,
      FindsSlots item := by
  have hboth : Isolated db ∧ Lined db := by
    refine h.invariant (P := fun d => Isolated d ∧ Lined d) (fun env d call d' hd hC hcall => ?_)
      ⟨isolated_empty, lined_empty⟩
    exact ⟨(Confined.call hd.1 hcall).isolated, hd.2.call hd.1 hC hcall⟩
  have hlineups := hboth.2.lineups hboth.1
  exact ⟨hlineups, fun tid f stage hstage item hitem =>
    hlineups.findsSlots hboth.1 hstage hitem⟩

/-! ### A cup and a Swiss stage item -/

/-- What a call of a run is asked for; a match that changes its round goes to a free one. -/
def keepsLined (db : Database) : Call → Bool
  | .request _ (.createMatch body) => decide (body.OfItem db)
  | .request _ (.updateMatchById k body) =>
    (db.matches_.find? k).all fun m =>
      body.roundId == m.roundId || decide (FreeRound db m body.roundId)
  | _ => true

theorem keepsLined_of_test {call : Call} (h : keepsLined db call = true) :
    KeepsLined quietEnvironment db call := by
  unfold keepsLined at h
  split at h
  · next body =>
    have hbody : body.OfItem db := of_decide_eq_true h
    exact hbody
  · next k body =>
    intro m hm hround
    rw [hm] at h
    rcases (Bool.or_eq_true _ _).mp h with hsame | hfree
    · exact absurd (eq_of_beq hsame) hround
    · exact (of_decide_eq_true hfree).movesApart (db.matches_.mem_of_find? hm)
  · next hmatch hupdate =>
    unfold KeepsLined
    split
    · exact fun G => (WeightedGraph.searchMatching_spec G).matching
    · exact absurd rfl (hmatch _ _)
    · exact absurd rfl (hupdate _ _ _)
    · trivial

/-- Eight teams, four in a cup and four in a Swiss stage item. -/
def cupAndSwiss : List Call :=
  [.createTournament ⟨⟨0, true, none, 50, 21, by decide, by decide⟩, 1⟩, .request 1 .createStage,
    .request 1 (.createMultipleTeams
      (["Red", "Blue", "Green", "Pink", "Grey", "Gold", "Lime", "Cyan"].map fun name => (name, []))
      true),
    .request 1 (.createStageItem ⟨1, none, .singleElimination, 4, none, four_teams⟩),
    .request 1 (.createStageItem ⟨1, none, .swiss, 4, none, four_teams⟩)] ++
  [1, 2, 3, 4].map (fun k => .request 1 (.updateStageItemInput 1 k (.final k))) ++
  [5, 6, 7, 8].map (fun k => .request 1 (.updateStageItemInput 2 k (.final k)))

/-- The cup is played out. In the first Swiss round a match is deleted; it is created again in the
    second round, and moves back with its score. -/
def cupAndSwissPlayed : List Call :=
  cupAndSwiss ++
  [.request 1 (.updateMatchById 1 (cupBody 1 2 0)),
    .request 1 (.updateMatchById 2 (cupBody 1 0 2)),
    .request 1 (.updateMatchById 3 (cupBody 2 0 2)),
    .request 1 (.createRound { name := none, stageItemId := 2 }), .request 1 (.deleteMatch 4),
    .request 1 (.updateRoundById 3 ⟨"Round 1", false⟩),
    .request 1 (.createRound { name := none, stageItemId := 2 }), .request 1 (.deleteMatch 6),
    .request 1 (.deleteMatch 7),
    .request 1 (.createMatch
      { roundId := 4, stageItemInput1Id := some 5, stageItemInput2Id := some 6 }),
    .request 1 (.updateMatchById 8 (cupBody 3 1 0))]

/-- The matches with their rounds and inputs. -/
def fixtures (db : Database) :
    List (MatchId × RoundId × Option StageItemInputId × Option StageItemInputId) :=
  db.matches_.rows.map fun m => (m.id, m.roundId, m.stageItemInput1Id, m.stageItemInput2Id)

theorem cupAndSwiss_lineups : ∃ db,
    runAllowed quietEnvironment keepsLined cupAndSwissPlayed = .ok db ∧
      fixtures db = [(1, 1, some 1, some 2), (2, 1, some 3, some 4), (3, 2, some 1, some 4),
        (5, 3, some 7, some 8), (8, 3, some 5, some 6)] ∧
      Lineups db ∧ ∀ tid f, ∀ stage ∈ fullTournamentDetails db tid f, ∀ item ∈ stage.stageItems,
        FindsSlots item := by
  obtain ⟨db, hdb, hfixtures⟩ := exists_ok_of_any
    (x := runAllowed quietEnvironment keepsLined cupAndSwissPlayed)
    (P := fun db => fixtures db = [(1, 1, some 1, some 2), (2, 1, some 3, some 4),
      (3, 2, some 1, some 4), (5, 3, some 7, some 8), (8, 3, some 5, some 6)]) (by decide +kernel)
  exact ⟨db, hdb, hfixtures,
    lineups_of_keeps (runs_of_allowed (fun _ _ h => keepsLined_of_test h) hdb)⟩

/-! ### A match too many -/

/-- A group of four, of which the first match moves to the second round. -/
def movedInGroup : List Call :=
  [.createTournament ⟨⟨0, true, none, 50, 21, by decide, by decide⟩, 1⟩, .request 1 .createStage,
    .request 1 (.createStageItem ⟨1, none, .roundRobin, 4, none, four_teams⟩),
    .request 1 (.updateMatchById 1 (cupBody 2 0 0))]

/-- Two Swiss stage items of two teams. In a draft of the first a match is created against an input
    of the second, published and scored. -/
def foreignOpponent : List Call :=
  [.createTournament ⟨⟨0, true, none, 50, 21, by decide, by decide⟩, 1⟩, .request 1 .createStage,
    .request 1 (.createMultipleTeams
      (["Red", "Blue", "Green", "Pink"].map fun name => (name, [])) true),
    .request 1 (.createStageItem ⟨1, none, .swiss, 2, none, two_teams⟩),
    .request 1 (.createStageItem ⟨1, none, .swiss, 2, none, two_teams⟩),
    .request 1 (.updateStageItemInput 1 1 (.final 1)),
    .request 1 (.updateStageItemInput 1 2 (.final 2)),
    .request 1 (.updateStageItemInput 2 3 (.final 3)),
    .request 1 (.createRound { name := none, stageItemId := 1 }), .request 1 (.deleteMatch 1),
    .request 1 (.createMatch
      { roundId := 1, stageItemInput1Id := some 1, stageItemInput2Id := some 3 }),
    .request 1 (.updateRoundById 1 ⟨"Round 1", false⟩),
    .request 1 (.updateMatchById 2 (cupBody 1 1 0))]

/-- **Lineups can be broken**: a moved match lets an input play twice in a round, and a match that
    is created against an input of another stage item makes the standings of the whole tournament
    raise a KeyError. -/
theorem lineups_broken :
    (∃ db, Runs (fun _ _ _ => True) .empty db ∧ ∃ m ∈ db.matches_.rows, ∃ n ∈ db.matches_.rows,
      m ≠ n ∧ m.roundId = n.roundId ∧ ∃ i, m.Plays i ∧ n.Plays i) ∧
    ∃ db, Runs (fun _ _ _ => True) .empty db ∧ ¬ Lineups db ∧
      getTeamRankingsLookupForTournament evenExpectation db 1 (fullTournamentDetails db 1 {}) =
        .error (.crash .keyError) := by
  obtain ⟨moved, hmoved, htwice⟩ := exists_ok_of_any (x := runCalls quietEnvironment movedInGroup)
    (P := fun db => ∃ m ∈ db.matches_.rows, ∃ n ∈ db.matches_.rows, m ≠ n ∧ m.roundId = n.roundId ∧
      ∃ i ∈ m.stageItemInput1Id.toList ++ m.stageItemInput2Id.toList, n.names i = true)
    (by decide +kernel)
  obtain ⟨m, hm, n, hn, hne, hround, i, hi, hnames⟩ := htwice
  obtain ⟨db, hdb, hforeign, hcrash⟩ := exists_ok_of_any
    (x := runCalls quietEnvironment foreignOpponent)
    (P := fun db => (∃ m ∈ db.matches_.rows, ∃ i ∈ m.stageItemInput2Id,
        db.inputItem i ≠ db.roundItem m.roundId) ∧
      getTeamRankingsLookupForTournament evenExpectation db 1 (fullTournamentDetails db 1 {}) =
        .error (.crash .keyError)) (by decide +kernel)
  obtain ⟨m', hm', j, hj, hitem⟩ := hforeign
  refine ⟨⟨moved, runs_of_calls (fun _ _ => trivial) hmoved, m, hm, n, hn, hne, hround, i, ?_,
    MatchRow.names_iff.mp hnames⟩, db, runs_of_calls (fun _ _ => trivial) hdb, fun hlineups => ?_,
    hcrash⟩
  · exact (List.mem_append.mp hi).imp Option.mem_toList.mp Option.mem_toList.mp
  · obtain ⟨k, hk, hk'⟩ := hlineups.own m' hm' j (.inr hj)
    exact hitem (hk.trans hk'.symm)

end Brackets
