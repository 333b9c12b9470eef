/-
  File:      Brackets/Progress/KnockoutLevels.lean
  Subject:   The rounds of a single elimination stage item as levels of a knockout.

  * `Levels`: the matches of the first round hold the inputs in slot order, and the slots of each
    later round are fed by the matches of the round before, each once;
  * `buildSingleElimination_levels`: the construction makes levels;
  * `Levels.step`: a score entry keeps them;
  * `Levels.knockout`: once every match has a winner, the rounds are a knockout of the inputs.
-/
import Mathlib.Data.List.Chain
import Brackets.Library.Knockout
import Brackets.Progress.BracketRuns

namespace Brackets

open Library

/-! ## 1. Levels -/

/-- The matches of a round, in id order. -/
def Database.roundRows (db : Database) (r : RoundId) : List MatchRow :=
  db.matches_.rows.filter (·.roundId == r)

namespace MatchRow

/-- The inputs of both sides. -/
def slots (m : MatchRow) : List (Option StageItemInputId) := [m.inputId .one, m.inputId .two]

/-- The sources of both sides. -/
def sources (m : MatchRow) : List (Option MatchId) := [m.winnerFrom .one, m.winnerFrom .two]

end MatchRow

/-- The slots of the round `r'` are fed by the matches of the round `r`, in order. -/
def FedBy (db : Database) (r r' : RoundId) : Prop :=
  (db.roundRows r').flatMap (·.sources) = (db.roundRows r).map fun m => some m.id

/-- The rounds of a knockout of the inputs `seeds`. -/
structure Levels (db : Database) (rounds : List RoundId) (seeds : List StageItemInputId) : Prop where
  leaves : ∀ r ∈ rounds.head?, ∀ m ∈ db.roundRows r, ∀ side, m.winnerFrom side = none
  seeded : ∀ r ∈ rounds.head?, (db.roundRows r).flatMap (·.slots) = seeds.map some
  fed : rounds.IsChain (FedBy db)

/-! ## 2. The construction -/

theorem adjacentPairs_ok {α : Type} {l : List α} {ps : List (α × α)}
    (h : adjacentPairs l = .ok ps) : endpoints ps = l := by
  induction l using adjacentPairs.induct generalizing ps with
  | case1 =>
    cases h
    rfl
  | case2 a => cases h
  | case3 a b l ih =>
    obtain ⟨qs, hqs, h⟩ := bind_eq_ok.mp h
    cases h
    rw [endpoints_cons, ih hqs]

section Rows

variable {db : Database} {bodies : List MatchCreateBody} {r : RoundId}

theorem createMatches_flatMap {γ : Type} {g : MatchRow → List γ} {k : MatchCreateBody → List γ}
    (h : ∀ b x, g (newMatch b x) = k b) (db : Database) (bodies : List MatchCreateBody) :
    (createMatches db bodies).1.flatMap g = bodies.flatMap k := by
  induction bodies generalizing db with
  | nil => rfl
  | cons body bodies ih =>
    rw [createMatches]
    dsimp only
    rw [List.flatMap_cons, List.flatMap_cons, ih]
    exact congrArg (· ++ _) (h body _)

theorem createMatches_roundId (h : ∀ b ∈ bodies, b.roundId = r) {m : MatchRow}
    (hm : m ∈ (createMatches db bodies).1) : m.roundId = r := by
  obtain ⟨b, hb, x, rfl⟩ := exists_body hm
  exact h b hb

/-- The created matches are the rows of their round, if it was empty. -/
theorem roundRows_create (h : ∀ b ∈ bodies, b.roundId = r) (hempty : db.roundRows r = []) :
    (createMatches db bodies).2.roundRows r = (createMatches db bodies).1 := by
  rw [Database.roundRows, createMatches_rows, List.filter_append]
  rw [Database.roundRows] at hempty
  rw [hempty, List.nil_append]
  exact List.filter_eq_self.mpr fun m hm => by simpa using createMatches_roundId h hm

/-- The rows of other rounds stay. -/
theorem roundRows_create_of_ne (h : ∀ b ∈ bodies, b.roundId = r) {x : RoundId} (hx : x ≠ r) :
    (createMatches db bodies).2.roundRows x = db.roundRows x := by
  have hnone : (createMatches db bodies).1.filter (fun m => m.roundId == x) = [] :=
    List.filter_eq_nil_iff.mpr fun m hm h' =>
      hx ((eq_of_beq h').symm.trans (createMatches_roundId h hm))
  rw [Database.roundRows, createMatches_rows, List.filter_append, hnone, List.append_nil]
  rfl

end Rows

theorem subsequentRound_bodies {prev : List MatchRow} {round : RoundWithMatches}
    {tournament : TournamentRow} {bodies : List MatchCreateBody}
    (h : determineMatchesSubsequentRound prev round tournament = .ok bodies) :
    ∃ ps, endpoints ps = prev ∧ bodies = ps.map (feedBody round tournament) := by
  obtain ⟨ps, hps, h⟩ := bind_eq_ok.mp h
  cases h
  exact ⟨ps, adjacentPairs_ok hps, rfl⟩

theorem firstRound_bodies {item : StageItemWithRounds} {round : RoundWithMatches}
    {tournament : TournamentRow} {bodies : List MatchCreateBody}
    (h : determineMatchesFirstRound round item tournament = .ok bodies) :
    ∃ ps, endpoints ps = item.inputs ∧ bodies = ps.map (firstBody round tournament) := by
  obtain ⟨ps, hps, h⟩ := bind_eq_ok.mp h
  cases h
  exact ⟨ps, adjacentPairs_ok hps, rfl⟩

/-- What two by two reads of pairs is what is read of their ends. -/
theorem flatMap_endpoints {α β : Type} (f : α → β) (ps : List (α × α)) :
    (ps.flatMap fun p => [f p.1, f p.2]) = (endpoints ps).map f := by
  induction ps with
  | nil => rfl
  | cons p ps ih => rw [List.flatMap_cons, ih, endpoints_cons, List.map_cons, List.map_cons]; rfl

/-- The rounds after the first are fed one by another, and no other round changes. -/
theorem buildSubsequentRounds_fed {tournament : TournamentRow} {rounds : List RoundWithMatches}
    {db db' : Database} {r : RoundId} (hn : (r :: rounds.map (·.id)).Nodup)
    (hempty : ∀ round ∈ rounds, db.roundRows round.id = [])
    (h : buildSubsequentRounds tournament rounds (db.roundRows r, db) = .ok db') :
    (r :: rounds.map (·.id)).IsChain (FedBy db') ∧
      ∀ x ∉ rounds.map (·.id), db'.roundRows x = db.roundRows x := by
  induction rounds generalizing db r with
  | nil =>
    cases h
    exact ⟨List.isChain_singleton r, fun _ _ => rfl⟩
  | cons round rounds ih =>
    obtain ⟨bodies, hbodies, h⟩ := bind_eq_ok.mp h
    obtain ⟨ps, hps, rfl⟩ := subsequentRound_bodies hbodies
    have hround : ∀ b ∈ ps.map (feedBody round tournament), b.roundId = round.id := by
      intro b hb
      obtain ⟨p, -, rfl⟩ := List.mem_map.mp hb
      rfl
    rw [List.map_cons, List.nodup_cons, List.mem_cons, not_or] at hn
    obtain ⟨⟨hne, hr⟩, hn⟩ := hn
    have hnotin := (List.nodup_cons.mp hn).1
    have hcreated := roundRows_create hround (hempty round List.mem_cons_self)
    obtain ⟨hchain, hkeep⟩ := ih hn (fun round' hr' => by
      rw [roundRows_create_of_ne hround fun e => hnotin (e ▸ List.mem_map_of_mem hr')]
      exact hempty round' (List.mem_cons_of_mem _ hr')) (by rw [hcreated]; exact h)
    refine ⟨List.isChain_cons_cons.mpr ⟨?_, hchain⟩, fun x hx => ?_⟩
    · rw [FedBy, hkeep _ hnotin, hkeep _ hr, hcreated, roundRows_create_of_ne hround hne,
        createMatches_flatMap (k := fun b => [b.winnerFrom .one, b.winnerFrom .two])
          (fun b x => by rw [MatchRow.sources, newMatch_winnerFrom, newMatch_winnerFrom]),
        List.flatMap_map, ← hps]
      exact flatMap_endpoints (fun m : MatchRow => some m.id) ps
    · rw [List.map_cons, List.mem_cons, not_or] at hx
      rw [hkeep x hx.2, roundRows_create_of_ne hround hx.1]

/-- **The construction makes levels**: the rounds in order, seeded by the inputs in slot order. -/
theorem buildSingleElimination_levels {db built : Database} {tid : TournamentId} {k : StageItemId}
    {item : StageItemWithRounds} (hitem : getStageItem db tid k = .ok item)
    (hempty : ∀ r ∈ item.rounds, r.matches_ = [])
    (h : buildSingleEliminationStageItem db tid item = .ok built) :
    Levels built (item.rounds.map (·.id)) (item.inputs.map (·.id)) := by
  obtain ⟨row, hrow, -, rfl, -⟩ := getStageItem_eq_ok.mp hitem
  obtain rfl : row.id = k := db.stageItems.key_of_find? hrow
  have hsorted : ((loadStageItem db tid row).rounds.map (·.id)).Nodup := by
    rw [loadStageItem, List.map_map]
    exact List.pairwise_map.mpr ((db.rounds.sorted_filter _).imp fun h => ne_of_lt h)
  have hrows : ∀ r ∈ (loadStageItem db tid row).rounds, db.roundRows r.id = [] := by
    intro r hr
    have hnone := hempty r hr
    obtain ⟨rrow, -, -, rfl⟩ := mem_loaded_rounds.mp hr
    exact List.map_eq_nil_iff.mp hnone
  obtain ⟨loaded, hloaded, h⟩ := bind_eq_ok.mp h
  obtain rfl : loadStageItem db tid row = loaded := Except.ok.inj (hitem.symm.trans hloaded)
  obtain ⟨tournament, -, h⟩ := bind_eq_ok.mp h
  cases hrounds : (loadStageItem db tid row).rounds with
  | nil =>
    rw [hrounds] at h
    cases h
  | cons first rounds =>
    rw [hrounds] at h hsorted hrows
    dsimp only at h
    obtain ⟨bodies, hbodies, h⟩ := bind_eq_ok.mp h
    obtain ⟨ps, hps, rfl⟩ := firstRound_bodies hbodies
    have hround : ∀ b ∈ ps.map (firstBody first tournament), b.roundId = first.id := by
      intro b hb
      obtain ⟨p, -, rfl⟩ := List.mem_map.mp hb
      rfl
    rw [List.map_cons] at hsorted ⊢
    have hnotin := (List.nodup_cons.mp hsorted).1
    have hcreated := roundRows_create hround (hrows first List.mem_cons_self)
    obtain ⟨hchain, hkeep⟩ := buildSubsequentRounds_fed hsorted (fun round hr => by
      rw [roundRows_create_of_ne hround fun e => hnotin (e ▸ List.mem_map_of_mem hr)]
      exact hrows round (List.mem_cons_of_mem _ hr)) (by rw [hcreated]; exact h)
    have hfirst := (hkeep _ hnotin).trans hcreated
    refine ⟨fun r hr m hm side => ?_, fun r hr => ?_, hchain⟩
    · cases hr
      rw [hfirst] at hm
      obtain ⟨b, hb, x, rfl⟩ := exists_body hm
      obtain ⟨p, -, rfl⟩ := List.mem_map.mp hb
      cases side <;> rfl
    · cases hr
      rw [hfirst, createMatches_flatMap (k := fun b => [b.stageItemInput1Id, b.stageItemInput2Id])
        (fun b x => rfl), List.flatMap_map, List.map_map]
      show ps.flatMap (fun p => [some p.1.id, some p.2.id]) = _
      rw [flatMap_endpoints fun i : StageItemInput => some i.id, hps]
      rfl

/-! ## 3. Score entries -/

section Rewrites

variable {db db' : Database} {f : MatchRow → MatchRow} (h : Rewrites db db' f)
include h

/-- The rows of a round are rewritten one by one. -/
theorem Rewrites.roundRows {γ : Type} {g : MatchRow → γ}
    (hg : ∀ m m', m'.untimed = m.untimed → g m' = g m) (r : RoundId) :
    (db'.roundRows r).map g = (db.roundRows r).map fun m => g (f m) := by
  have hrows : db'.matches_.rows.map MatchRow.untimed =
      db.matches_.rows.map fun m => (f m).untimed :=
    Table.map_rows_congr (k := MatchRow.id) (fun _ => rfl) (fun m => h.id m) h.found
  have hidem : ∀ m : MatchRow, g m.untimed = g m := fun m => hg m m.untimed rfl
  have hread : ∀ (l : List MatchRow) (u : MatchRow → MatchRow),
      (((l.map fun m => (u m).untimed).filter (·.roundId == r)).map g) =
        (l.filter fun m => (u m).roundId == r).map fun m => g (u m) := by
    intro l u
    rw [List.filter_map, List.map_map]
    exact List.map_congr_left fun m _ => hidem (u m)
  have hkeep : db.matches_.rows.filter (fun m => (f m).roundId == r) = db.roundRows r :=
    List.filter_congr fun m hm => by rw [h.roundId m hm]
  calc (db'.roundRows r).map g
      = ((db'.matches_.rows.map fun m => m.untimed).filter (·.roundId == r)).map g :=
        (hread db'.matches_.rows fun m => m).symm
    _ = ((db.matches_.rows.map fun m => (f m).untimed).filter (·.roundId == r)).map g := by
        rw [← hrows]
    _ = (db.roundRows r).map fun m => g (f m) := by rw [hread, hkeep]

theorem Rewrites.fedBy {r r' : RoundId} (hfed : FedBy db r r') : FedBy db' r r' := by
  have hsources : (db'.roundRows r').flatMap (·.sources) = (db.roundRows r').flatMap (·.sources) := by
    rw [List.flatMap_def, List.flatMap_def, h.roundRows fun m m' e => by
      rw [MatchRow.sources, MatchRow.sources, (eq_of_untimed e).2.2.2.1]]
    congr 1
    exact List.map_congr_left fun m _ => by
      rw [MatchRow.sources, MatchRow.sources, h.winnerFrom, h.winnerFrom]
  have hids : (db'.roundRows r).map (fun m => some m.id) = (db.roundRows r).map fun m => some m.id := by
    rw [h.roundRows fun m m' e => congrArg some (eq_of_untimed e).1]
    exact List.map_congr_left fun m _ => congrArg some (h.id m)
  rw [FedBy, hsources, hids]
  exact hfed

end Rewrites

section Entry

variable {db db' : Database} {tid : TournamentId} {k : MatchId} {body : MatchBody}
  {rounds : List RoundId} {seeds : List StageItemInputId}

/-- **A score entry keeps the levels.** -/
theorem Levels.step (e : Entry db tid k body db') (hround : body.roundId = e.row.roundId)
    (hW : Wired db tid e.item.id) (htype : e.item.type = .singleElimination)
    (hL : Levels db rounds seeds) : Levels db' rounds seeds := by
  have hR := e.rewrites hround hW htype
  refine ⟨fun r hr m' hm' side => ?_, fun r hr => ?_, hL.fed.imp fun _ _ => hR.fedBy⟩
  · have hmap := hR.roundRows (g := fun m => m.winnerFrom) (fun m m' e => (eq_of_untimed e).2.2.2.1) r
    have hmem := List.mem_map_of_mem (f := fun m : MatchRow => m.winnerFrom) hm'
    rw [hmap] at hmem
    obtain ⟨m, hm, hw⟩ := List.mem_map.mp hmem
    rw [← hw, hR.winnerFrom]
    exact hL.leaves r hr m hm side
  · have hslots : ∀ m ∈ db.roundRows r, (e.rowAfter m).slots = m.slots := by
      intro m hm
      have hrow := (List.mem_filter.mp hm).1
      have hleaf : ∀ side, db.slotSource e.item.id m.id side = none := by
        intro side
        cases hs : db.slotSource e.item.id m.id side with
        | none => rfl
        | some j =>
          obtain ⟨m', hm', hid, hw⟩ := slotSource_eq_some.mp hs
          rw [db.matches_.eq_of_key hm'.1 hrow hid, hL.leaves r hr m hm side] at hw
          cases hw
      rw [MatchRow.slots, MatchRow.slots, e.rowAfter_leaf hround hW hrow (hleaf .one),
        e.rowAfter_leaf hround hW hrow (hleaf .two)]
    have hseeded := hL.seeded r hr
    rw [List.flatMap_def] at hseeded ⊢
    rw [hR.roundRows fun m m' e => by rw [MatchRow.slots, MatchRow.slots, (eq_of_untimed e).2.2.1],
      List.map_congr_left hslots, hseeded]

end Entry

/-- **Every sequence of score entries keeps the levels.** -/
theorem Levels.run {E : ExpectedScore} {db db' : Database} {tid : TournamentId} {row : StageItemRow}
    {rounds : List RoundId} {seeds : List StageItemInputId} (hT : Tree db tid row)
    (hL : Levels db rounds seeds) (h : Relation.ReflTransGen (Scores E tid row.id) db db') :
    Levels db' rounds seeds := by
  induction h with
  | refl => exact hL
  | tail hrun hstep ih =>
    have hT := hT.run hrun
    obtain ⟨x, hx⟩ := hstep
    rcases hx.cases with rfl | ⟨m, body, hm, -, hround, ⟨e⟩⟩
    · exact ih
    · obtain ⟨hrow, rfl⟩ := hT.entry_item hm e
      rw [← hrow] at hround
      exact ih.step e hround hT.wired hT.type

/-! ## 4. The knockout -/

/-- The winner and the loser of a match, once both inputs are known and one is ahead. -/
def MatchRow.game (m : MatchRow) : Option (StageItemInputId × StageItemInputId) :=
  match m.stageItemInput1Id, m.stageItemInput2Id with
  | some a, some b =>
    if m.stageItemInput1Score > m.stageItemInput2Score then some (a, b)
    else if m.stageItemInput1Score < m.stageItemInput2Score then some (b, a)
    else none
  | _, _ => none

/-- One side of the match is ahead. -/
def MatchRow.Decided (m : MatchRow) : Prop := m.stageItemInput1Score ≠ m.stageItemInput2Score

theorem MatchRow.Decided.game {m : MatchRow} (h : m.Decided) {a b : StageItemInputId}
    (h1 : m.inputId .one = some a) (h2 : m.inputId .two = some b) :
    ∃ g, m.game = some g ∧ m.winnerId = some g.1 ∧ [g.1, g.2].Perm [a, b] := by
  have h1 : m.stageItemInput1Id = some a := h1
  have h2 : m.stageItemInput2Id = some b := h2
  rw [MatchRow.game, h1, h2, MatchRow.winnerId, MatchRow.winnerOf]
  dsimp only
  rcases lt_or_gt_of_ne h with hlt | hlt
  · rw [if_neg (by omega), if_pos hlt, if_neg (by omega), if_pos hlt]
    exact ⟨(b, a), rfl, h2, List.Perm.swap a b []⟩
  · rw [if_pos hlt, if_pos hlt]
    exact ⟨(a, b), rfl, h1, List.Perm.refl _⟩

/-- A game has a winner and a loser on its sides. -/
theorem MatchRow.game_sides {m : MatchRow} {g : StageItemInputId × StageItemInputId}
    (h : m.game = some g) : m.winnerId = some g.1 ∧ ∃ side, m.inputId side = some g.2 := by
  unfold MatchRow.game at h
  rw [MatchRow.winnerId, MatchRow.winnerOf]
  split at h
  · next a b h1 h2 =>
    split at h
    · next hlt =>
      cases h
      rw [if_pos hlt]
      exact ⟨h1, .two, h2⟩
    · next hge =>
      split at h
      · next hlt =>
        cases h
        rw [if_neg hge, if_pos hlt]
        exact ⟨h2, .one, h1⟩
      · cases h
  · cases h

/-- Matches whose slots hold the players have games between these. -/
theorem games_of_slots {l : List MatchRow} {xs : List StageItemInputId}
    (h : l.flatMap (·.slots) = xs.map some) (hdecided : ∀ m ∈ l, m.Decided) :
    ∃ games, l.map (·.game) = games.map some ∧ (endpoints games).Perm xs ∧
      l.map (·.winnerId) = (games.map Prod.fst).map some := by
  induction l generalizing xs with
  | nil =>
    obtain rfl : xs = [] := List.map_eq_nil_iff.mp h.symm
    exact ⟨[], rfl, .nil, rfl⟩
  | cons m l ih =>
    rw [List.flatMap_cons, MatchRow.slots] at h
    match xs, h with
    | [a], h => exact absurd (List.cons.inj h).2 (List.cons_ne_nil _ _)
    | a :: b :: xs, h =>
      obtain ⟨h1, h⟩ := List.cons.inj h
      obtain ⟨h2, h⟩ := List.cons.inj h
      obtain ⟨g, hg, hw, hperm⟩ := (hdecided m List.mem_cons_self).game h1 h2
      obtain ⟨games, hgames, hends, hwinners⟩ :=
        ih h fun m hm => hdecided m (List.mem_cons_of_mem _ hm)
      refine ⟨g :: games, ?_, ?_, ?_⟩
      · rw [List.map_cons, List.map_cons, hg, hgames]
      · exact hperm.append hends
      · rw [List.map_cons, List.map_cons, List.map_cons, hw, hwinners]

/-- The slots of matches that are fed in order hold the winners in order. -/
theorem slots_of_sources {l l' : List MatchRow}
    (hfed : l'.flatMap (·.sources) = l.map fun m => some m.id)
    (hset : ∀ m ∈ l', ∀ src ∈ l, ∀ side, m.winnerFrom side = some src.id →
      m.inputId side = src.winnerId) : l'.flatMap (·.slots) = l.map (·.winnerId) := by
  induction l' generalizing l with
  | nil =>
    obtain rfl : l = [] := List.map_eq_nil_iff.mp hfed.symm
    rfl
  | cons m l' ih =>
    rw [List.flatMap_cons, MatchRow.sources] at hfed
    match l, hfed with
    | [a], hfed => exact absurd (List.cons.inj hfed).2 (List.cons_ne_nil _ _)
    | a :: b :: l, hfed =>
      obtain ⟨h1, hfed⟩ := List.cons.inj hfed
      obtain ⟨h2, hfed⟩ := List.cons.inj hfed
      have hm := hset m List.mem_cons_self
      rw [List.flatMap_cons, MatchRow.slots, hm a List.mem_cons_self .one h1,
        hm b (List.mem_cons_of_mem _ List.mem_cons_self) .two h2,
        ih hfed fun m hm src hsrc => hset m (List.mem_cons_of_mem _ hm) src
          (List.mem_cons_of_mem _ (List.mem_cons_of_mem _ hsrc))]
      rfl

/-- **Decided rounds are a knockout.** -/
theorem knockout_of_rounds {db : Database} {k : StageItemId} (hS : Settled db k)
    {rounds : List RoundId} {xs : List StageItemInputId} (hfed : rounds.IsChain (FedBy db))
    (hslots : ∀ r ∈ rounds.head?, (db.roundRows r).flatMap (·.slots) = xs.map some)
    (hmatches : ∀ r ∈ rounds, ∀ m ∈ db.roundRows r, db.InItem k m ∧ m.Decided)
    (hlen : xs.length = 2 ^ rounds.length) :
    ∃ levels c, Knockout xs levels c ∧
      rounds.map (fun r => (db.roundRows r).map (·.game)) = levels.map (·.map some) := by
  induction rounds generalizing xs with
  | nil =>
    obtain ⟨c, rfl⟩ := List.length_eq_one_iff.mp hlen
    exact ⟨[], c, .champion c, rfl⟩
  | cons r rounds ih =>
    obtain ⟨games, hgames, hends, hwinners⟩ := games_of_slots (hslots r rfl)
      fun m hm => (hmatches r List.mem_cons_self m hm).2
    have hhalf : games.length = 2 ^ rounds.length := by
      have h2 := length_endpoints games
      rw [hends.length_eq, hlen, List.length_cons, Nat.pow_succ'] at h2
      omega
    have hnext : ∀ r' ∈ rounds.head?,
        (db.roundRows r').flatMap (·.slots) = (games.map Prod.fst).map some := by
      intro r' hr'
      cases rounds with
      | nil => cases hr'
      | cons r'' rounds =>
        cases hr'
        have hin : ∀ m ∈ db.roundRows r', db.InItem k m := fun m hm =>
          (hmatches r' (List.mem_cons_of_mem _ List.mem_cons_self) m hm).1
        rw [slots_of_sources (List.isChain_cons_cons.mp hfed).1 fun m hm src hsrc side hw =>
          hS m src (hin m hm) (hmatches r List.mem_cons_self src hsrc).1 side hw, hwinners]
    obtain ⟨levels, c, hK, hlevels⟩ := ih hfed.tail hnext
      (fun r' hr' => hmatches r' (List.mem_cons_of_mem _ hr')) (by rw [List.length_map, hhalf])
    refine ⟨games :: levels, c, .level hends hK, ?_⟩
    rw [List.map_cons, List.map_cons, hgames, hlevels]

end Brackets
