/-
  File:      Brackets/Progress/KnockoutStandings.lean
  Subject:   The ranking of a single elimination stage item that is played out.

  The ranking counts the games of the knockout (`ranking_record`), so what holds of a knockout
  holds of the ranking: `KnockoutStandings`. `eliminationTree_standings` carries it from the
  construction through every sequence of score entries.
-/
import Brackets.Progress.KnockoutLevels
import Brackets.Ranking.Players

namespace Brackets

open Library

/-! ## 1. The ranking counts the games -/

section Games

variable {db : Database} {tid : TournamentId} {item : StageItemRow}

/-- The sides of a decided match are its winner and its loser. -/
theorem game_sides (hW : Wired db tid item.id) {m : MatchRow} (hm : db.InItem item.id m)
    {g : StageItemInputId × StageItemInputId} (hg : m.game = some g) :
    ((matchWithInputs (itemInputs db item.id) m).sides.map fun a => (a.1.id, a.2)).Perm
      [(g.1, .win), (g.2, .loss)] := by
  have j1 := joined_input hW hm .one
  have j2 := joined_input hW hm .two
  generalize hl : matchWithInputs (itemInputs db item.id) m = l at j1 j2 ⊢
  have hs1 : l.stageItemInput1Score = m.stageItemInput1Score := by rw [← hl]; rfl
  have hs2 : l.stageItemInput2Score = m.stageItemInput2Score := by rw [← hl]; rfl
  have j1 : m.stageItemInput1Id = l.stageItemInput1.map (·.id) := j1
  have j2 : m.stageItemInput2Id = l.stageItemInput2.map (·.id) := j2
  unfold MatchRow.game at hg
  rw [j1, j2] at hg
  unfold Match.sides
  rw [hs1, hs2]
  cases h1 : l.stageItemInput1 with
  | none =>
    rw [h1] at hg
    cases hg
  | some i1 =>
    cases h2 : l.stageItemInput2 with
    | none =>
      rw [h1, h2] at hg
      cases hg
    | some i2 =>
      rw [h1, h2] at hg
      dsimp only [Option.map_some] at hg ⊢
      rcases lt_trichotomy m.stageItemInput1Score m.stageItemInput2Score with hlt | heq | hlt
      · rw [if_neg (by omega), if_pos hlt] at hg
        cases hg
        rw [if_pos (by simp; omega), verdictOf_eq_loss.mpr hlt, verdictOf_eq_win.mpr hlt]
        exact List.Perm.swap _ _ _
      · rw [if_neg (by omega), if_neg (by omega)] at hg
        cases hg
      · rw [if_pos hlt] at hg
        cases hg
        rw [if_pos (by simp; omega), verdictOf_eq_win.mpr hlt, verdictOf_eq_loss.mpr hlt]
        exact List.Perm.refl _

theorem counts_of_sides {m : Match} (h : m.sides ≠ []) : m.counts = true :=
  by_contra fun hno => h (Match.sides_of_not_counts hno)

/-- What is listed for each game, if it is for each match. -/
theorem flatMap_games {γ : Type} {l : List MatchRow} {games : List (StageItemInputId × StageItemInputId)}
    {F : MatchRow → List γ} {G : StageItemInputId × StageItemInputId → List γ}
    (h : l.map (·.game) = games.map some) (hF : ∀ m ∈ l, ∀ g, m.game = some g → (F m).Perm (G g)) :
    (l.flatMap F).Perm (games.flatMap G) := by
  induction l generalizing games with
  | nil =>
    obtain rfl : games = [] := List.map_eq_nil_iff.mp h.symm
    exact .nil
  | cons m l ih =>
    match games, h with
    | g :: games, h =>
      obtain ⟨hg, h⟩ := List.cons.inj h
      rw [List.flatMap_cons, List.flatMap_cons]
      exact (hF m List.mem_cons_self g hg).append
        (ih h fun m hm => hF m (List.mem_cons_of_mem _ hm))

theorem countP_games (games : List (StageItemInputId × StageItemInputId)) (k : StageItemInputId)
    (v : Verdict) : ((games.flatMap fun g => [(g.1, Verdict.win), (g.2, Verdict.loss)]).countP
      fun a => decide (a.1 = k ∧ a.2 = v)) =
        match v with
        | .win => (games.map Prod.fst).count k
        | .draw => 0
        | .loss => (games.map Prod.snd).count k := by
  induction games with
  | nil => cases v <;> rfl
  | cons g games ih =>
    rw [List.flatMap_cons, List.countP_append, ih]
    cases v <;> simp [List.countP_cons, List.count_cons, Nat.add_comm]

/-- **The ranking of decided matches counts wins and losses of their games.** -/
theorem ranking_record {E : ExpectedScore} {ranking : RankingRow} (hW : Wired db tid item.id)
    (htype : item.type = .singleElimination)
    (hpublished : ∀ r ∈ (loadStageItem db tid item).rounds, r.isDraft = false)
    {levels : List (List (StageItemInputId × StageItemInputId))}
    (hlevels : ((loadStageItem db tid item).rounds.map fun r => (db.roundRows r.id).map (·.game)) =
      levels.map (·.map some)) {d : StatisticsDict}
    (hd : determineRankingForStageItem E (loadStageItem db tid item) ranking = .ok d)
    (k : StageItemInputId) :
    (d.getD k (initialStatistics .singleElimination)).wins = winsIn levels k ∧
      (d.getD k (initialStatistics .singleElimination)).losses = lossesIn levels k := by
  have hrows : ((loadStageItem db tid item).rounds.flatMap fun r => db.roundRows r.id).map (·.game) =
      levels.flatten.map some := by
    have := congrArg List.flatten hlevels
    rw [← List.map_flatten] at this
    rw [← this, List.map_flatMap, List.flatMap_def]
  have hin : ∀ m ∈ (loadStageItem db tid item).rounds.flatMap fun r => db.roundRows r.id,
      db.InItem item.id m := by
    intro m hm
    obtain ⟨r, hr, hm⟩ := List.mem_flatMap.mp hm
    obtain ⟨rrow, hrrow, hk, rfl⟩ := mem_loaded_rounds.mp hr
    obtain ⟨hm, hround⟩ := List.mem_filter.mp hm
    exact inItem_iff.mpr ⟨hm, rrow, hrrow, hk, (eq_of_beq hround).symm⟩
  have hsides : (((loadStageItem db tid item).publishedMatches.flatMap (·.sides)).map
      fun a => (a.1.id, a.2)).Perm
        (levels.flatten.flatMap fun g => [(g.1, Verdict.win), (g.2, Verdict.loss)]) := by
    refine ((publishedMatches_sides _).map _).trans ?_
    rw [StageItemWithRounds.publishedSides,
      List.filter_eq_self.mpr fun r hr => by rw [hpublished r hr]; rfl]
    have hjoin : (loadStageItem db tid item).rounds.flatMap (·.matches_) =
        ((loadStageItem db tid item).rounds.flatMap fun r => db.roundRows r.id).map
          (matchWithInputs (itemInputs db item.id)) := by
      rw [List.map_flatMap]
      refine List.flatMap_congr fun r hr => ?_
      obtain ⟨rrow, -, -, rfl⟩ := mem_loaded_rounds.mp hr
      rfl
    rw [hjoin, List.flatMap_map, List.map_flatMap]
    exact flatMap_games hrows fun m hm g hg => game_sides hW (hin m hm) hg
  have hcount : ∀ v, (d.getD k (initialStatistics .singleElimination)).count v =
      ((levels.flatten.flatMap fun g => [(g.1, Verdict.win), (g.2, Verdict.loss)]).countP
        (fun a => decide (a.1 = k ∧ a.2 = v)) : Int) := by
    intro v
    have h := determineRanking_count hd k v
    rw [show (loadStageItem db tid item).type = .singleElimination from htype] at h
    rw [h, ← hsides.countP_eq, List.countP_map]
    rfl
  exact ⟨(hcount .win).trans (congrArg _ (countP_games _ k .win)),
    (hcount .loss).trans (congrArg _ (countP_games _ k .loss))⟩

end Games

/-! ## 2. What holds between the states of a run -/

section Frame

variable {E : ExpectedScore} {db db' : Database} {tid : TournamentId}

theorem Scores.frame {k : StageItemId} (h : Relation.ReflTransGen (Scores E tid k) db db') :
    db'.frame = db.frame := by
  induction h with
  | refl => rfl
  | tail _ hstep ih =>
    obtain ⟨x, m, body, hm, rfl, hround, rfl⟩ := hstep
    rw [← ih]
    cases hupdate : updateMatchById E _ tid m.id body with
    | error e => rfl
    | ok db' =>
      obtain ⟨e⟩ := updateMatchById_ok hupdate
      exact e.entry.frame

/-- The ids of the inputs are part of the frame. -/
theorem mem_inputs_of_frame {row : StageItemRow} (h : db'.frame = db.frame) {x : StageItemInputId}
    (hx : x ∈ (loadStageItem db' tid row).inputs.map (·.id)) :
    x ∈ (loadStageItem db tid row).inputs.map (·.id) := by
  obtain ⟨i, hi, rfl⟩ := List.mem_map.mp hx
  obtain ⟨irow', hirow', hk, ht, rfl⟩ := mem_loaded_inputs.mp hi
  obtain ⟨irow, hirow, e⟩ := row_of_frame h hirow'
  have h1 : irow'.unscored.stageItemId = irow.unscored.stageItemId := by rw [e]
  have h2 : irow'.unscored.tournamentId = irow.unscored.tournamentId := by rw [e]
  have h3 : irow'.unscored.id = irow.unscored.id := by rw [e]
  refine List.mem_map.mpr ⟨withTeam db irow, ?_, h3.symm⟩
  exact mem_loaded_inputs.mpr ⟨irow, hirow, h1.symm.trans hk, h2.symm.trans ht, rfl⟩

theorem loaded_rounds_of_frame {row : StageItemRow} (h : db'.frame = db.frame) {γ : Type}
    {g : RoundWithMatches → γ} (hg : ∀ (inputs inputs' : List StageItemInput) r,
      g (roundWithMatches db' inputs' r) = g (roundWithMatches db inputs r)) :
    (loadStageItem db' tid row).rounds.map g = (loadStageItem db tid row).rounds.map g := by
  have hrounds : db'.frame.rounds = db.frame.rounds := by rw [h]
  have hrounds : db'.rounds = db.rounds := hrounds
  rw [loadStageItem, loadStageItem, hrounds, List.map_map, List.map_map]
  exact List.map_congr_left fun r _ => hg _ _ r

end Frame

/-! ## 3. The standings -/

/-- The input plays in the match and another one wins it. -/
def LostIn (m : Match) (i : StageItemInput) : Prop :=
  (∃ side, m.inputId side = some i.id) ∧ ∃ w, m.getWinner = some w ∧ w.id ≠ i.id

/-- The ranking of a knockout of `2 ^ n` inputs that is played out. The rounds are numbered from
    zero, in the order they are played. -/
structure KnockoutStandings (item : StageItemWithRounds) (n : Nat) (d : StatisticsDict) : Prop where
  counted : item.countedMatches.Perm item.allMatches
  matchCount : item.allMatches.length = 2 ^ n - 1
  champion : ∃ round final w, item.rounds.getLast? = some round ∧ round.matches_ = [final] ∧
    final.getWinner = some w ∧ w ∈ item.inputs ∧
    (d.getD w.id (initialStatistics item.type)).losses = 0 ∧
    (d.getD w.id (initialStatistics item.type)).wins = n ∧
    ∀ i ∈ item.inputs, i ≠ w → (d.getD i.id (initialStatistics item.type)).losses = 1 ∧
      ∃ (r : Nat) (round : RoundWithMatches) (m : Match), item.rounds[r]? = some round ∧
        m ∈ round.matches_ ∧ LostIn m i ∧ (d.getD i.id (initialStatistics item.type)).wins = r

section Standings

variable {E : ExpectedScore} {db : Database} {tid : TournamentId} {row : StageItemRow}

/-- Every match of the stage item is decided. -/
def PlayedOut (db : Database) (k : StageItemId) : Prop := ∀ m, db.InItem k m → m.Decided

theorem loaded_input_unique {i j : StageItemInput} (hi : i ∈ (loadStageItem db tid row).inputs)
    (hj : j ∈ itemInputs db row.id) (h : i.id = j.id) : i = j := by
  have hi : i ∈ itemInputs db row.id :=
    (List.mem_filter.mp ((List.mem_insertionSort _).mp hi)).1
  exact List.inj_on_of_nodup_map (itemInputs_nodup db row.id) hi hj h

/-- The rounds of a loaded stage item, with what each match of theirs is read as. -/
theorem exists_round_level {γ : Type} {F : RoundWithMatches → γ} {rounds : List RoundWithMatches}
    {l : List γ} (h : rounds.map F = l) {r : Nat} {x : γ} (hx : l[r]? = some x) :
    ∃ round, rounds[r]? = some round ∧ F round = x := by
  rw [← h, List.getElem?_map] at hx
  exact Option.map_eq_some_iff.mp hx

/-- What a loaded match says of its game. -/
theorem loaded_game (hW : Wired db tid row.id) {m : MatchRow} (hm : db.InItem row.id m)
    {g : StageItemInputId × StageItemInputId} (hg : m.game = some g) :
    ∃ w, (matchWithInputs (itemInputs db row.id) m).getWinner = some w ∧ w.id = g.1 ∧
      w ∈ itemInputs db row.id := by
  have hjoined : ∀ side, (matchWithInputs (itemInputs db row.id) m).inputId side =
      ((matchWithInputs (itemInputs db row.id) m).input side).map (·.id) := joined_input hW hm
  have hwinner := getWinner_id hjoined
  have hgame : (matchWithInputs (itemInputs db row.id) m).winnerId = some g.1 := (m.game_sides hg).1
  rw [hgame] at hwinner
  obtain ⟨w, hw, hid⟩ := Option.map_eq_some_iff.mp hwinner
  refine ⟨w, hw, hid, ?_⟩
  have hside : ∃ side, (matchWithInputs (itemInputs db row.id) m).input side = some w := by
    unfold Match.getWinner at hw
    split at hw
    · exact ⟨.one, hw⟩
    · split at hw
      · exact ⟨.two, hw⟩
      · cases hw
  obtain ⟨side, hside⟩ := hside
  rw [matchWithInputs_input] at hside
  obtain ⟨x, -, hfind⟩ := Option.bind_eq_some_iff.mp hside
  exact List.mem_of_find?_eq_some hfind

section Knockout

variable {n : Nat} {seeds : List StageItemInputId} {c : StageItemInputId}
  {levels : List (List (StageItemInputId × StageItemInputId))} {d : StatisticsDict}
  (hlevels : ((loadStageItem db tid row).rounds.map fun r => (db.roundRows r.id).map (·.game)) =
    levels.map (·.map some))
include hlevels

theorem mem_level {r : Nat} {games : List (StageItemInputId × StageItemInputId)}
    (h : levels[r]? = some games) : ∃ round, (loadStageItem db tid row).rounds[r]? = some round ∧
      (db.roundRows round.id).map (·.game) = games.map some := by
  refine exists_round_level hlevels (x := games.map some) ?_
  rw [List.getElem?_map, h]
  rfl

theorem exists_game {r : RoundWithMatches} (hr : r ∈ (loadStageItem db tid row).rounds) {m : MatchRow}
    (hm : m ∈ db.roundRows r.id) : ∃ g, m.game = some g := by
  have hmem := List.mem_map_of_mem (f := fun r : RoundWithMatches =>
    (db.roundRows r.id).map (·.game)) hr
  rw [hlevels] at hmem
  obtain ⟨games, -, hgames⟩ := List.mem_map.mp hmem
  have hgame := List.mem_map_of_mem (f := fun m : MatchRow => m.game) hm
  rw [← hgames] at hgame
  obtain ⟨g, -, hg⟩ := List.mem_map.mp hgame
  exact ⟨g, hg.symm⟩

/-- All matches count. -/
theorem all_counted (hW : Wired db tid row.id)
    (hpublished : ∀ r ∈ (loadStageItem db tid row).rounds, r.isDraft = false) :
    (loadStageItem db tid row).countedMatches.Perm (loadStageItem db tid row).allMatches := by
  have hperm := publishedMatches_perm (loadStageItem db tid row)
  rw [List.filter_eq_self.mpr fun r hr => by rw [hpublished r hr]; rfl] at hperm
  have hcounts : ∀ m ∈ (loadStageItem db tid row).publishedMatches, m.counts = true := by
    intro m hm
    obtain ⟨r, hr, hm⟩ := List.mem_flatMap.mp (hperm.mem_iff.mp hm)
    obtain ⟨rrow, hrrow, hk, rfl⟩ := mem_loaded_rounds.mp hr
    obtain ⟨mrow, hmrow, rfl⟩ := List.mem_map.mp hm
    obtain ⟨g, hg⟩ := exists_game hlevels hr hmrow
    have hin : db.InItem row.id mrow := by
      obtain ⟨hmem, hround⟩ := List.mem_filter.mp hmrow
      exact inItem_iff.mpr ⟨hmem, rrow, hrrow, hk, (eq_of_beq hround).symm⟩
    refine counts_of_sides fun hnil => ?_
    have hlen := (game_sides hW hin hg).length_eq
    rw [hnil] at hlen
    cases hlen
  rw [StageItemWithRounds.countedMatches, List.filter_eq_self.mpr hcounts]
  exact hperm

theorem matches_length : (loadStageItem db tid row).allMatches.length = levels.flatten.length := by
  have hflat := congrArg (fun l => (List.flatten l).length) hlevels
  rw [← List.map_flatten, List.length_map] at hflat
  rw [← hflat, StageItemWithRounds.allMatches, List.length_flatMap, List.length_flatten,
    List.map_map]
  congr 1
  refine List.map_congr_left fun r hr => ?_
  obtain ⟨rrow, -, -, rfl⟩ := mem_loaded_rounds.mp hr
  rw [roundWithMatches, List.length_map, Function.comp, List.length_map]
  rfl

end Knockout

/-- **A played out tree ranks as a knockout.** -/
theorem Tree.standings (hT : Tree db tid row) {n : Nat} {seeds : List StageItemInputId}
    (hL : Levels db ((loadStageItem db tid row).rounds.map (·.id)) seeds)
    (hnodup : seeds.Nodup) (hlen : seeds.length = 2 ^ n)
    (hseeds : ∀ x, x ∈ seeds ↔ x ∈ (loadStageItem db tid row).inputs.map (·.id))
    (hrounds : (loadStageItem db tid row).rounds.length = n)
    (hpublished : ∀ r ∈ (loadStageItem db tid row).rounds, r.isDraft = false) (hn : 1 ≤ n)
    (hplayed : PlayedOut db row.id) (ranking : RankingRow) :
    ∃ d, determineRankingForStageItem E (loadStageItem db tid row) ranking = .ok d ∧
      KnockoutStandings (loadStageItem db tid row) n d := by
  have hin : ∀ r ∈ (loadStageItem db tid row).rounds, ∀ m ∈ db.roundRows r.id,
      db.InItem row.id m := by
    intro r hr m hm
    obtain ⟨rrow, hrrow, hk, rfl⟩ := mem_loaded_rounds.mp hr
    obtain ⟨hm, hround⟩ := List.mem_filter.mp hm
    exact inItem_iff.mpr ⟨hm, rrow, hrrow, hk, (eq_of_beq hround).symm⟩
  obtain ⟨levels, c, hK, hlevels⟩ := knockout_of_rounds hT.settled hL.fed hL.seeded
    (fun r hr m hm => by
      obtain ⟨round, hround, rfl⟩ := List.mem_map.mp hr
      exact ⟨hin round hround m hm, hplayed m (hin round hround m hm)⟩)
    (by rw [List.length_map, hrounds, hlen])
  rw [List.map_map] at hlevels
  have hcount : levels.length = n := by
    have := congrArg List.length hlevels
    rw [List.length_map, List.length_map, hrounds] at this
    exact this.symm
  have htype : (loadStageItem db tid row).type = .singleElimination := hT.type
  obtain ⟨d, hd⟩ := @determineRanking_total E ranking (loadStageItem db tid row)
    (by rw [htype]; decide)
  have hrecord := ranking_record hT.wired hT.type hpublished hlevels hd
  refine ⟨d, hd, all_counted hlevels hT.wired hpublished, ?_, ?_⟩
  · rw [matches_length hlevels]
    have := hK.length
    omega
  · have hne : levels ≠ [] := by
      intro h
      rw [h, List.length_nil] at hcount
      omega
    obtain ⟨loser, hfinal⟩ := hK.final hne
    rw [List.getLast?_eq_getElem?] at hfinal
    obtain ⟨round, hround, hgames⟩ := mem_level hlevels hfinal
    have hrmem := List.mem_of_getElem? hround
    obtain ⟨final, hrow⟩ := List.length_eq_one_iff.mp
      (show (db.roundRows round.id).length = 1 by
        rw [← List.length_map (f := fun m : MatchRow => m.game), hgames]
        rfl)
    have hfin := hin round hrmem final (by rw [hrow]; exact List.mem_singleton_self final)
    rw [hrow] at hgames
    obtain ⟨w, hw, hwid, hwmem⟩ := loaded_game hT.wired hfin (List.cons.inj hgames).1
    obtain ⟨i, hi, hic⟩ := List.mem_map.mp ((hseeds c).mp hK.champion_mem)
    obtain rfl : i = w := loaded_input_unique hi hwmem (hic.trans hwid.symm)
    obtain ⟨hwins, hlosses⟩ := hK.champion_record hnodup
    have hrounds' : (loadStageItem db tid row).rounds.getLast? = some round := by
      rw [List.getLast?_eq_getElem?, hrounds, ← hcount, hround]
    refine ⟨round, matchWithInputs (itemInputs db row.id) final, i, hrounds', ?_, hw, hi, ?_, ?_,
      fun x hx hxi => ?_⟩
    · obtain ⟨rrow, -, -, rfl⟩ := mem_loaded_rounds.mp hrmem
      rw [roundWithMatches]
      exact congrArg (List.map (matchWithInputs (itemInputs db row.id))) hrow
    · rw [htype, (hrecord i.id).2, hic, hlosses]
      rfl
    · rw [htype, (hrecord i.id).1, hic, hwins, hcount]
    · have hxc : x.id ≠ c := fun e => hxi (loaded_input_unique hx hwmem (e.trans hic.symm))
      obtain ⟨hloss, games, hlevel, hsnd⟩ := hK.other_record hnodup
        ((hseeds x.id).mpr (List.mem_map_of_mem hx)) hxc
      obtain ⟨round', hround', hgames'⟩ := mem_level hlevels hlevel
      obtain ⟨g, hg, hgx⟩ := List.mem_map.mp hsnd
      have hgame : some g ∈ (db.roundRows round'.id).map (·.game) := by
        rw [hgames']
        exact List.mem_map_of_mem hg
      obtain ⟨m, hm, hmg⟩ := List.mem_map.mp hgame
      have hmin := hin round' (List.mem_of_getElem? hround') m hm
      obtain ⟨w', hw', hwid', -⟩ := loaded_game hT.wired hmin hmg
      have hdiff : g.1 ≠ g.2 := ne_of_mem_of_nodup
        (hK.level_nodup hnodup (List.mem_of_getElem? hlevel)) hg
      refine ⟨?_, winsIn levels x.id, round', matchWithInputs (itemInputs db row.id) m, hround', ?_,
        ⟨?_, w', hw', ?_⟩, ?_⟩
      · rw [htype, (hrecord x.id).2, hloss]
        rfl
      · obtain ⟨rrow, -, -, rfl⟩ := mem_loaded_rounds.mp (List.mem_of_getElem? hround')
        exact List.mem_map_of_mem hm
      · obtain ⟨side, hside⟩ := (m.game_sides hmg).2
        exact ⟨side, by rw [← hgx]; exact hside⟩
      · rw [hwid', ← hgx]
        exact hdiff
      · rw [htype, (hrecord x.id).1]

/-- **Knockout correctness end to end.** A single elimination stage item is built from `2 ^ n`
    inputs; after any sequence of score entries that decides every match, the ranking counts all
    `2 ^ n - 1` matches, the winner of the final has `n` wins and no loss, and every other input
    has one loss, after a win in every round before. -/
theorem eliminationTree_standings {k : StageItemId} {item : StageItemWithRounds}
    {tournament : TournamentRow} {n : Nat} (hitem : getStageItem db tid k = .ok item)
    (htype : item.type = .singleElimination) (ht : db.tournaments.find? tid = some tournament)
    (hfresh : Fresh item n) (hpublished : ∀ r ∈ item.rounds, r.isDraft = false) (hn : 1 ≤ n) :
    ∃ built, buildSingleEliminationStageItem db tid item = .ok built ∧
      ∀ db', Relation.ReflTransGen (Scores E tid k) built db' → PlayedOut db' k →
        ∃ item', getStageItem db' tid k = .ok item' ∧ ∀ ranking, ∃ d,
          determineRankingForStageItem E item' ranking = .ok d ∧ KnockoutStandings item' n d := by
  obtain ⟨built, hbuilt, hW, hU, hframe⟩ := buildSingleElimination_ok hitem ht hfresh hn
  have hlevels := buildSingleElimination_levels hitem hfresh.noMatches hbuilt
  obtain ⟨row, hrow, -, rfl, -⟩ := getStageItem_eq_ok.mp hitem
  obtain rfl : row.id = k := db.stageItems.key_of_find? hrow
  refine ⟨built, hbuilt, fun db' hrun hplayed => ?_⟩
  have hbuiltTree := tree_of_built hitem hrow htype hW hU hframe
  have hT := hbuiltTree.run hrun
  have hL := hlevels.run hbuiltTree hrun
  have hsame : db'.frame = db.frame := by
    rw [Scores.frame hrun, ← hframe]
    rfl
  have hids : (loadStageItem db' tid row).rounds.map (·.id) =
      (loadStageItem db tid row).rounds.map (·.id) :=
    loaded_rounds_of_frame hsame fun _ _ _ => rfl
  have hdrafts : (loadStageItem db' tid row).rounds.map (·.isDraft) =
      (loadStageItem db tid row).rounds.map (·.isDraft) :=
    loaded_rounds_of_frame hsame fun _ _ _ => rfl
  have hnodup := loaded_inputs_nodup db tid row
  refine ⟨_, hT.loads, fun ranking => hT.standings (hids ▸ hL) hnodup
    (by rw [List.length_map, hfresh.inputs]) (fun x => ⟨mem_inputs_of_frame hsame.symm,
      mem_inputs_of_frame hsame⟩) ?_ ?_ hn hplayed ranking⟩
  · rw [← hfresh.rounds, ← List.length_map (f := fun r : RoundWithMatches => r.id), hids,
      List.length_map]
  · intro r hr
    have hmem := List.mem_map_of_mem (f := fun r : RoundWithMatches => r.isDraft) hr
    rw [hdrafts] at hmem
    obtain ⟨r', hr', e⟩ := List.mem_map.mp hmem
    rw [← e]
    exact hpublished r' hr'

end Standings

theorem cupCorrected_playedOut : PlayedOut cupCorrected 1 := by
  have hdecided : ∀ m ∈ cupCorrected.matches_.rows,
      m.stageItemInput1Score ≠ m.stageItemInput2Score := by decide +kernel
  exact fun m hm => hdecided m hm.1

/-- The cup of four is over, and then its first semifinal was corrected: the second team is the
    champion. -/
theorem cup_standings : buildSingleEliminationStageItem cup 1 (loadStageItem cup 1 cupItem) =
      .ok cupBuilt ∧
    Relation.ReflTransGen (Scores evenExpectation 1 1) cupBuilt cupCorrected ∧
    PlayedOut cupCorrected 1 ∧
    ((cupCorrected.matches_.find? 3).bind (·.winnerId)) = some 2 ∧ ∃ item', getStageItem cupCorrected 1 1 = .ok item' ∧
      ∀ ranking, ∃ d, determineRankingForStageItem evenExpectation item' ranking = .ok d ∧
        KnockoutStandings item' 2 d := by
  obtain ⟨built, hbuilt, hruns⟩ := @eliminationTree_standings evenExpectation cup 1 1 _ _ 2
    cup_loads rfl rfl cup_fresh (by decide) (by decide)
  obtain rfl : cupBuilt = built := Except.ok.inj (cupBuilt_eq.symm.trans hbuilt)
  exact ⟨hbuilt, cupCorrected_run, cupCorrected_playedOut, by decide +kernel,
    hruns cupCorrected cupCorrected_run cupCorrected_playedOut⟩

end Brackets
