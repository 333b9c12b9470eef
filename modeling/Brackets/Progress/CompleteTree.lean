/-
  File:      Brackets/Progress/CompleteTree.lean
  Subject:   The shape of the tree that is built for a single elimination stage item.

  The created matches come in tiers, one for each round, and every tier feeds the next one: read
  in order, the sources of the next tier are the ids of this one (`Feeds`). So a tier is half as
  long as the one before, and a match stands once among the sources of all tiers
  (`sources_flatten`): `buildSingleElimination_tree`.
-/
import Brackets.Progress.KnockoutLevels

namespace Brackets

open Library

/-! ## 1. Tiers -/

/-- The next tier holds no inputs, and its sources are the matches of the tier in order. -/
structure Feeds (tier next : List MatchRow) : Prop where
  sources : next.flatMap (·.sources) = tier.map fun m => some m.id
  empty : ∀ m ∈ next, ∀ side, m.inputId side = none

/-- A tier for each round, and each feeds the next. -/
structure Tiers (rounds : List RoundId) (tiers : List (List MatchRow)) : Prop where
  inRound : List.Forall₂ (fun r tier => ∀ m ∈ tier, m.roundId = r) rounds tiers
  fed : tiers.IsChain Feeds

theorem Feeds.length {tier next : List MatchRow} (h : Feeds tier next) :
    tier.length = 2 * next.length := by
  have hlen := congrArg List.length h.sources
  rw [List.length_map, List.length_flatMap] at hlen
  rw [← hlen]
  clear hlen h
  induction next with
  | nil => rfl
  | cons m next ih =>
    rw [List.map_cons, List.sum_cons, ih, List.length_cons]
    show 2 + 2 * next.length = 2 * (next.length + 1)
    omega

/-- The tiers halve, down to the final. -/
theorem tiers_length {n : Nat} {tiers : List (List MatchRow)} (h : tiers.IsChain Feeds)
    (hlen : tiers.length = n + 1) (hhead : ∀ t ∈ tiers.head?, t.length = 2 ^ n) :
    ∀ i t, tiers[i]? = some t → t.length = 2 ^ (n - i) := by
  induction n generalizing tiers with
  | zero =>
    intro i t ht
    obtain ⟨t0, rfl⟩ := List.length_eq_one_iff.mp hlen
    cases i with
    | zero =>
      cases ht
      exact hhead t rfl
    | succ i => cases ht
  | succ n ih =>
    intro i t ht
    match tiers, hlen with
    | t0 :: t1 :: ts, hlen =>
      cases i with
      | zero =>
        cases ht
        exact hhead _ rfl
      | succ i =>
        rw [List.isChain_cons_cons] at h
        have hfirst := h.1.length
        rw [hhead t0 rfl, Nat.pow_succ] at hfirst
        rw [Nat.add_sub_add_right]
        refine ih h.2 (by simpa using hlen) (fun t' ht' => ?_) i t ht
        cases ht'
        omega

/-- Read in order, the sources of all later tiers are the matches of all tiers but the last. -/
theorem sources_flatten {t0 : List MatchRow} {ts : List (List MatchRow)}
    (h : (t0 :: ts).IsChain Feeds) : ts.flatten.flatMap (·.sources) =
      (t0 :: ts).dropLast.flatten.map fun m => some m.id := by
  induction ts generalizing t0 with
  | nil => rfl
  | cons t1 ts ih =>
    rw [List.isChain_cons_cons] at h
    rw [List.flatten_cons, List.flatMap_append, ih h.2, h.1.sources, List.dropLast_cons_cons,
      List.flatten_cons, List.map_append]

theorem empty_flatten {t0 : List MatchRow} {ts : List (List MatchRow)}
    (h : (t0 :: ts).IsChain Feeds) : ∀ m ∈ ts.flatten, ∀ side, m.inputId side = none := by
  induction ts generalizing t0 with
  | nil => exact fun m hm => absurd hm List.not_mem_nil
  | cons t1 ts ih =>
    rw [List.isChain_cons_cons] at h
    intro m hm
    rw [List.flatten_cons, List.mem_append] at hm
    rcases hm with hm | hm
    · exact h.1.empty m hm
    · exact ih h.2 m hm

/-! ## 2. The construction in tiers -/

theorem createMatches_length (db : Database) (bodies : List MatchCreateBody) :
    (createMatches db bodies).1.length = bodies.length := by
  induction bodies generalizing db with
  | nil => rfl
  | cons body bodies ih => exact congrArg Nat.succ (ih _)

theorem createMatches_frame (db : Database) (bodies : List MatchCreateBody) :
    { (createMatches db bodies).2 with matches_ := db.matches_ } = db := by
  induction bodies generalizing db with
  | nil => rfl
  | cons body bodies ih =>
    have hrest := ih (sqlCreateMatch db body).2
    have hfirst := congrArg (fun d : Database => { d with matches_ := db.matches_ }) hrest
    exact hfirst

theorem buildSubsequentRounds_frame {tournament : TournamentRow} {rounds : List RoundWithMatches}
    {prev : List MatchRow × Database} {db' : Database}
    (h : buildSubsequentRounds tournament rounds prev = .ok db') :
    { db' with matches_ := prev.2.matches_ } = prev.2 := by
  induction rounds generalizing prev with
  | nil =>
    cases h
    rfl
  | cons round rounds ih =>
    obtain ⟨bodies, -, h⟩ := bind_eq_ok.mp h
    have hrest := congrArg (fun d : Database => { d with matches_ := prev.2.matches_ }) (ih h)
    exact hrest.trans (createMatches_frame prev.2 bodies)

/-- The construction changes no other table. -/
theorem buildSingleElimination_frame {db db' : Database} {tid : TournamentId}
    {item : StageItemWithRounds} (h : buildSingleEliminationStageItem db tid item = .ok db') :
    { db' with matches_ := db.matches_ } = db := by
  obtain ⟨loaded, -, h⟩ := bind_eq_ok.mp h
  obtain ⟨tournament, -, h⟩ := bind_eq_ok.mp h
  split at h
  · cases h
  · obtain ⟨bodies, -, h⟩ := bind_eq_ok.mp h
    have hrest := congrArg (fun d : Database => { d with matches_ := db.matches_ })
      (buildSubsequentRounds_frame h)
    exact hrest.trans (createMatches_frame db bodies)

theorem feedBodies_feed (db : Database) (round : RoundWithMatches) (tournament : TournamentRow)
    (ps : List (MatchRow × MatchRow)) :
    Feeds (endpoints ps) (createMatches db (ps.map (feedBody round tournament))).1 where
  sources := by
    rw [createMatches_flatMap (k := fun b => [b.winnerFrom .one, b.winnerFrom .two])
      (fun b x => by rw [MatchRow.sources, newMatch_winnerFrom, newMatch_winnerFrom]),
      List.flatMap_map]
    exact flatMap_endpoints (fun m : MatchRow => some m.id) ps
  empty m hm side := by
    obtain ⟨b, hb, x, rfl⟩ := exists_body hm
    obtain ⟨p, -, rfl⟩ := List.mem_map.mp hb
    cases side <;> rfl

/-- The rounds after the first are built, tier by tier. -/
theorem buildSubsequentRounds_tiers (tournament : TournamentRow) (rounds : List RoundWithMatches)
    (prev : List MatchRow) (db : Database) (h : prev.length = 2 ^ rounds.length) :
    ∃ db' tiers, buildSubsequentRounds tournament rounds (prev, db) = .ok db' ∧
      db'.matches_.rows = db.matches_.rows ++ tiers.flatten ∧
      { db' with matches_ := db.matches_ } = db ∧
      List.Forall₂ (fun r tier => ∀ m ∈ tier, m.roundId = r) (rounds.map (·.id)) tiers ∧
      (prev :: tiers).IsChain Feeds := by
  induction rounds generalizing prev db with
  | nil =>
    exact ⟨db, [], rfl, (List.append_nil _).symm, rfl, .nil, List.isChain_singleton prev⟩
  | cons round rounds ih =>
    rw [List.length_cons, Nat.pow_succ'] at h
    obtain ⟨ps, hps, rfl, hlen⟩ := adjacentPairs_eq_ok _ prev h
    have hfeeds := feedBodies_feed db round tournament ps
    have hnext := hfeeds.length
    obtain ⟨db', tiers, hdb, hrows, hframe, hrounds, hchain⟩ :=
      ih (createMatches db (ps.map (feedBody round tournament))).1
        (createMatches db (ps.map (feedBody round tournament))).2 (by omega)
    refine ⟨db', _ :: tiers, ?_, ?_, ?_, .cons (fun m hm => ?_) hrounds,
      List.isChain_cons_cons.mpr ⟨hfeeds, hchain⟩⟩
    · have hbodies : determineMatchesSubsequentRound (endpoints ps) round tournament =
          .ok (ps.map (feedBody round tournament)) := bind_eq_ok.mpr ⟨ps, hps, rfl⟩
      exact bind_eq_ok.mpr ⟨_, hbodies, hdb⟩
    · rw [hrows, createMatches_rows, List.append_assoc, List.flatten_cons]
    · have hall := congrArg (fun d : Database => { d with matches_ := db.matches_ }) hframe
      exact hall.trans (createMatches_frame db _)
    · refine createMatches_roundId (fun b hb => ?_) hm
      obtain ⟨p, -, rfl⟩ := List.mem_map.mp hb
      rfl

/-! ## 3. The tree -/

/-- A complete binary tree over the inputs, in the rounds. -/
structure CompleteTree (rounds : List RoundId) (inputs : List StageItemInputId)
    (created : List MatchRow) : Prop where
  inRounds : ∀ m ∈ created, m.roundId ∈ rounds
  sizes : ∀ i r, rounds[i]? = some r →
    (created.filter (·.roundId == r)).length = 2 ^ (rounds.length - (i + 1))
  seeded : ∀ i ∈ inputs, ∃! p : MatchRow × Side, p.1 ∈ created ∧ p.1.inputId p.2 = some i
  first : ∀ m ∈ created, rounds[0]? = some m.roundId → ∀ side,
    m.winnerFrom side = none ∧ ∃ i ∈ inputs, m.inputId side = some i
  later : ∀ m ∈ created, ∀ i, rounds[i + 1]? = some m.roundId →
    (∀ side, m.inputId side = none) ∧ ∃ a ∈ created, ∃ b ∈ created, a.id ≠ b.id ∧
      rounds[i]? = some a.roundId ∧ rounds[i]? = some b.roundId ∧
      m.winnerFrom .one = some a.id ∧ m.winnerFrom .two = some b.id
  read : ∀ m ∈ created, rounds.getLast? ≠ some m.roundId →
    ∃! p : MatchRow × Side, p.1 ∈ created ∧ p.1.winnerFrom p.2 = some m.id

/-- What stands once in a list of images has one origin. -/
theorem existsUnique_of_count {α β : Type} [BEq β] [LawfulBEq β] {l : List α} {f : α → β}
    {b : β}
    (h : (l.map f).count b = 1) : ∃! a, a ∈ l ∧ f a = b := by
  rw [List.count_eq_countP, List.countP_map, List.countP_eq_length_filter,
    List.length_eq_one_iff] at h
  obtain ⟨a, ha⟩ := h
  have hiff : ∀ x, x ∈ l ∧ f x = b ↔ x = a := by
    intro x
    have hmem : x = a ↔ x ∈ [a] := List.mem_singleton.symm
    rw [hmem, ← ha, List.mem_filter, Function.comp, beq_iff_eq]
  exact ⟨a, (hiff a).mpr rfl, fun x hx => (hiff x).mp hx⟩

/-- The sides of all matches. -/
def allSides (created : List MatchRow) : List (MatchRow × Side) :=
  created.flatMap fun m => [(m, .one), (m, .two)]

theorem mem_allSides {created : List MatchRow} {p : MatchRow × Side} :
    p ∈ allSides created ↔ p.1 ∈ created := by
  obtain ⟨m, side⟩ := p
  simp only [allSides, List.mem_flatMap, List.mem_cons, Prod.mk.injEq, List.not_mem_nil, or_false]
  constructor
  · rintro ⟨a, ha, ⟨rfl, -⟩ | ⟨rfl, -⟩⟩
    · exact ha
    · exact ha
  · intro hm
    cases side
    · exact ⟨m, hm, Or.inl ⟨rfl, rfl⟩⟩
    · exact ⟨m, hm, Or.inr ⟨rfl, rfl⟩⟩

theorem existsUnique_side {γ : Type} [BEq γ] [LawfulBEq γ] {created : List MatchRow}
    {f : MatchRow → Side → γ} {c : γ}
    (h : (created.flatMap fun m => [f m .one, f m .two]).count c = 1) :
    ∃! p : MatchRow × Side, p.1 ∈ created ∧ f p.1 p.2 = c := by
  have hmap : (allSides created).map (fun p => f p.1 p.2) =
      created.flatMap fun m => [f m .one, f m .two] := by
    rw [allSides, List.map_flatMap]
    rfl
  obtain ⟨p, ⟨hp, hc⟩, hunique⟩ := existsUnique_of_count (hmap ▸ h)
  exact ⟨p, ⟨mem_allSides.mp hp, hc⟩, fun q hq => hunique q ⟨mem_allSides.mpr hq.1, hq.2⟩⟩

theorem count_map_some {α : Type} [BEq α] [LawfulBEq α] {l : List α} (hl : l.Nodup) {a : α}
    (ha : a ∈ l) : (l.map some).count (some a) = 1 := by
  have hnodup : (l.map some).Nodup := hl.map (Option.some_injective α)
  exact List.count_eq_one_of_mem hnodup (List.mem_map_of_mem ha)

theorem count_none {α β : Type} [BEq α] [LawfulBEq α] {l : List β} {f : β → List (Option α)}
    (h : ∀ b ∈ l, ∀ x ∈ f b, x = none) (a : α) : (l.flatMap f).count (some a) = 0 := by
  refine List.count_eq_zero.mpr fun hmem => ?_
  obtain ⟨b, hb, hx⟩ := List.mem_flatMap.mp hmem
  cases h b hb _ hx

section Tree

variable {rounds : List RoundId} {inputs : List StageItemInputId} {t0 : List MatchRow}
  {ts : List (List MatchRow)}

/-- The tier of a round. -/
theorem tier_of_round {tiers : List (List MatchRow)}
    (h : List.Forall₂ (fun r tier => ∀ m ∈ tier, m.roundId = r) rounds tiers) {i : Nat} {r : RoundId}
    (hr : rounds[i]? = some r) : ∃ tier, tiers[i]? = some tier ∧ ∀ m ∈ tier, m.roundId = r := by
  induction h generalizing i with
  | nil => cases hr
  | cons hhead _ ih =>
    cases i with
    | zero =>
      cases hr
      exact ⟨_, rfl, hhead⟩
    | succ i => exact ih hr

/-- The matches of a round are those of its tier. -/
theorem filter_tier {tiers : List (List MatchRow)}
    (h : List.Forall₂ (fun r tier => ∀ m ∈ tier, m.roundId = r) rounds tiers) (hn : rounds.Nodup)
    {i : Nat} {r : RoundId} (hr : rounds[i]? = some r) {tier : List MatchRow}
    (ht : tiers[i]? = some tier) : tiers.flatten.filter (·.roundId == r) = tier := by
  induction h generalizing i with
  | nil => cases hr
  | @cons r0 tier0 rounds tiers hhead htail ih =>
    rw [List.nodup_cons] at hn
    rw [List.flatten_cons, List.filter_append]
    cases i with
    | zero =>
      cases hr
      cases ht
      have hall : tier.filter (·.roundId == r) = tier :=
        List.filter_eq_self.mpr fun m hm => beq_iff_eq.mpr (hhead m hm)
      have hnone : tiers.flatten.filter (·.roundId == r) = [] := by
        refine List.filter_eq_nil_iff.mpr fun m hm he => hn.1 ?_
        obtain ⟨t, ht, hm⟩ := List.mem_flatten.mp hm
        obtain ⟨r', hr', hin⟩ := exists_round htail ht
        rw [← eq_of_beq he, hin m hm]
        exact hr'
      rw [hall, hnone, List.append_nil]
    | succ i =>
      have hmem : r ∈ rounds := List.mem_of_getElem? hr
      have hnone : tier0.filter (·.roundId == r) = [] :=
        List.filter_eq_nil_iff.mpr fun m hm he =>
          hn.1 ((hhead m hm).symm.trans (eq_of_beq he) ▸ hmem)
      rw [hnone, List.nil_append]
      exact ih hn.2 hr ht
where
  exists_round {rounds : List RoundId} {tiers : List (List MatchRow)}
      (h : List.Forall₂ (fun r tier => ∀ m ∈ tier, m.roundId = r) rounds tiers)
      {tier : List MatchRow} (ht : tier ∈ tiers) : ∃ r ∈ rounds, ∀ m ∈ tier, m.roundId = r := by
    induction h with
    | nil => cases ht
    | cons hhead _ ih =>
      rcases List.mem_cons.mp ht with rfl | ht
      · exact ⟨_, List.mem_cons_self, hhead⟩
      · obtain ⟨r, hr, hin⟩ := ih ht
        exact ⟨r, List.mem_cons_of_mem _ hr, hin⟩

theorem mem_dropLast {tiers : List (List MatchRow)}
    (h : List.Forall₂ (fun r tier => ∀ m ∈ tier, m.roundId = r) rounds tiers) {m : MatchRow}
    (hm : m ∈ tiers.flatten) (hlast : rounds.getLast? ≠ some m.roundId) :
    m ∈ tiers.dropLast.flatten := by
  induction h with
  | nil => exact absurd hm List.not_mem_nil
  | @cons r tier rounds tiers hhead htail ih =>
    rw [List.flatten_cons, List.mem_append] at hm
    cases htail with
    | nil =>
      rw [List.flatten_nil] at hm
      exact absurd (congrArg some (hhead m (hm.resolve_right List.not_mem_nil)).symm) hlast
    | cons h1 h2 =>
      rw [List.dropLast_cons_cons, List.flatten_cons, List.mem_append]
      rw [List.getLast?_cons_cons] at hlast
      exact hm.imp (fun hm => hm) fun hm => ih hm hlast

theorem feeds_of_chain {tiers : List (List MatchRow)} (h : tiers.IsChain Feeds) {i : Nat}
    {tier next : List MatchRow} (ht : tiers[i]? = some tier) (hnext : tiers[i + 1]? = some next) :
    Feeds tier next := by
  induction tiers generalizing i with
  | nil => cases ht
  | cons t tiers ih =>
    cases i with
    | zero =>
      cases tiers with
      | nil => cases hnext
      | cons t' tiers =>
        cases ht
        cases hnext
        exact (List.isChain_cons_cons.mp h).1
    | succ i => exact ih (List.IsChain.tail h) ht hnext

/-- A match of a tier reads two matches of the tier before. -/
theorem Feeds.two {tier next : List MatchRow} (h : Feeds tier next) (hn : (tier.map (·.id)).Nodup)
    {m : MatchRow} (hm : m ∈ next) : ∃ a ∈ tier, ∃ b ∈ tier, a.id ≠ b.id ∧
      m.winnerFrom .one = some a.id ∧ m.winnerFrom .two = some b.id := by
  have hsub : m.sources.Sublist (tier.map fun m => some m.id) := by
    rw [← h.sources, List.flatMap_def]
    exact List.sublist_flatten_of_mem (List.mem_map_of_mem hm)
  have hnodup : (tier.map fun m => some m.id).Nodup := by
    have hsome := hn.map (Option.some_injective MatchId)
    rwa [List.map_map] at hsome
  obtain ⟨a, ha, hone⟩ := List.mem_map.mp (hsub.subset (List.mem_cons_self))
  obtain ⟨b, hb, htwo⟩ := List.mem_map.mp
    (hsub.subset (List.mem_cons_of_mem _ List.mem_cons_self))
  refine ⟨a, ha, b, hb, fun e => ?_, hone.symm, htwo.symm⟩
  have hpair := hnodup.sublist hsub
  rw [MatchRow.sources, ← hone, ← htwo, e] at hpair
  exact (List.nodup_cons.mp hpair).1 List.mem_cons_self

/-- **Tiers make a complete tree.** -/
theorem Tiers.completeTree (h : Tiers rounds (t0 :: ts)) (hrounds : rounds.Nodup)
    (hids : ((t0 :: ts).flatten.map (·.id)).Nodup) (hinputs : inputs.Nodup)
    (hsize : t0.length = 2 ^ (rounds.length - 1))
    (hseeds : t0.flatMap (·.slots) = inputs.map some)
    (hleaves : ∀ m ∈ t0, ∀ side, m.winnerFrom side = none) :
    CompleteTree rounds inputs (t0 :: ts).flatten := by
  have htier : ∀ {i : Nat} {r : RoundId}, rounds[i]? = some r →
      ∃ tier, (t0 :: ts)[i]? = some tier ∧ (t0 :: ts).flatten.filter (·.roundId == r) = tier := by
    intro i r hr
    obtain ⟨tier, ht, -⟩ := tier_of_round h.inRound hr
    exact ⟨tier, ht, filter_tier h.inRound hrounds hr ht⟩
  have hmem : ∀ {i : Nat} {m : MatchRow}, m ∈ (t0 :: ts).flatten → rounds[i]? = some m.roundId →
      ∃ tier, (t0 :: ts)[i]? = some tier ∧ m ∈ tier := by
    intro i m hm hr
    obtain ⟨tier, ht, hfilter⟩ := htier hr
    exact ⟨tier, ht, hfilter ▸ List.mem_filter.mpr ⟨hm, beq_self_eq_true _⟩⟩
  refine ⟨fun m hm => ?_, fun i r hr => ?_, fun i hi => ?_, fun m hm hr side => ?_,
    fun m hm i hr => ?_, fun m hm hlast => ?_⟩
  · obtain ⟨tier, ht, hm⟩ := List.mem_flatten.mp hm
    obtain ⟨r, hr, hin⟩ := filter_tier.exists_round h.inRound ht
    exact hin m hm ▸ hr
  · obtain ⟨tier, ht, hfilter⟩ := htier hr
    have hpos : i < rounds.length := (List.getElem?_eq_some_iff.mp hr).1
    have hlen : (t0 :: ts).length = (rounds.length - 1) + 1 := by
      rw [← h.inRound.length_eq]
      omega
    rw [hfilter, tiers_length h.fed hlen (fun t ht => by cases ht; exact hsize) i tier ht]
    congr 1
    omega
  · refine existsUnique_side (f := MatchRow.inputId) ?_
    have hslots : ∀ l : List MatchRow, (l.flatMap fun m => [m.inputId .one, m.inputId .two]) =
        l.flatMap (·.slots) := fun _ => rfl
    rw [hslots, List.flatten_cons, List.flatMap_append, hseeds, List.count_append,
      count_map_some hinputs hi, count_none fun m hm x hx => ?_]
    have hnone := empty_flatten h.fed m hm
    simp only [MatchRow.slots, hnone, List.mem_cons, List.not_mem_nil, or_false, or_self] at hx
    exact hx
  · obtain ⟨tier, ht, hm⟩ := hmem hm hr
    cases ht
    refine ⟨hleaves m hm side, ?_⟩
    have hslot : m.inputId side ∈ t0.flatMap (·.slots) :=
      List.mem_flatMap.mpr ⟨m, hm, by cases side <;> simp [MatchRow.slots]⟩
    rw [hseeds] at hslot
    obtain ⟨i, hi, e⟩ := List.mem_map.mp hslot
    exact ⟨i, hi, e.symm⟩
  · obtain ⟨next, hnext, hm⟩ := hmem hm hr
    have hpos : i + 1 < rounds.length := (List.getElem?_eq_some_iff.mp hr).1
    have hri : rounds[i]? = some rounds[i] := List.getElem?_eq_getElem (by omega)
    obtain ⟨tier, ht, hin⟩ := tier_of_round h.inRound hri
    have hfeeds := feeds_of_chain h.fed ht hnext
    have hsub : tier.Sublist (t0 :: ts).flatten :=
      List.sublist_flatten_of_mem (List.mem_of_getElem? ht)
    obtain ⟨a, ha, b, hb, hne, hone, htwo⟩ := hfeeds.two (hids.sublist (hsub.map _)) hm
    exact ⟨hfeeds.empty m hm, a, hsub.subset ha, b, hsub.subset hb, hne, by rw [hri, hin a ha],
      by rw [hri, hin b hb], hone, htwo⟩
  · refine existsUnique_side (f := MatchRow.winnerFrom) ?_
    have hsources : ∀ l : List MatchRow,
        (l.flatMap fun m => [m.winnerFrom .one, m.winnerFrom .two]) = l.flatMap (·.sources) :=
      fun _ => rfl
    have hdrop := mem_dropLast h.inRound hm hlast
    have hsub : (t0 :: ts).dropLast.flatten.Sublist (t0 :: ts).flatten :=
      (List.dropLast_sublist _).flatten
    have hread := count_map_some (hids.sublist (hsub.map (·.id))) (List.mem_map_of_mem hdrop)
    rw [List.map_map] at hread
    rw [hsources, List.flatten_cons, List.flatMap_append, List.count_append, sources_flatten h.fed,
      count_none fun m hm x hx => ?_]
    · exact (Nat.zero_add _).trans hread
    · simp only [MatchRow.sources, hleaves m hm, List.mem_cons, List.not_mem_nil, or_false,
        or_self] at hx
      exact hx

end Tree

/-! ## 4. The construction makes the tree -/

/-- Round by round the construction adds the tiers of the tree. -/
theorem builtTree {db : Database} {tid : TournamentId} {item loaded : StageItemWithRounds}
    {tournament : TournamentRow} {k : Nat} (hk : 1 ≤ k)
    (hloaded : getStageItem db tid item.id = .ok loaded)
    (htournament : sqlGetTournament db tid = .ok tournament) (hsize : item.inputs.length = 2 ^ k)
    (hinputs : (item.inputs.map (·.id)).Nodup) (hrounds : loaded.rounds.length = k)
    (hsorted : (loaded.rounds.map (·.id)).Pairwise (· < ·)) :
    ∃ db' created, buildSingleEliminationStageItem db tid item = .ok db' ∧
      db'.matches_.rows = db.matches_.rows ++ created ∧ { db' with matches_ := db.matches_ } = db ∧
      CompleteTree (loaded.rounds.map (·.id)) (item.inputs.map (·.id)) created := by
  cases hr : loaded.rounds with
  | nil =>
    rw [hr, List.length_nil] at hrounds
    omega
  | cons first rounds =>
    rw [hr] at hsorted
    obtain rfl : rounds.length + 1 = k := by rw [← hrounds, hr, List.length_cons]
    rw [Nat.pow_succ'] at hsize
    obtain ⟨ps, hps, hends, hlen⟩ := adjacentPairs_eq_ok _ item.inputs hsize
    have hbodies : determineMatchesFirstRound first item tournament =
        .ok (ps.map (firstBody first tournament)) := bind_eq_ok.mpr ⟨ps, hps, rfl⟩
    have hfirst : ∀ b ∈ ps.map (firstBody first tournament), b.roundId = first.id := by
      intro b hb
      obtain ⟨p, -, rfl⟩ := List.mem_map.mp hb
      rfl
    have hcreated : (createMatches db (ps.map (firstBody first tournament))).1.length =
        2 ^ rounds.length := by
      rw [createMatches_length, List.length_map, hlen]
    obtain ⟨db', tiers, hdb, hrows, hframe, hin, hchain⟩ := buildSubsequentRounds_tiers tournament
      rounds _ (createMatches db (ps.map (firstBody first tournament))).2 hcreated
    have hall : db'.matches_.rows = db.matches_.rows ++
        ((createMatches db (ps.map (firstBody first tournament))).1 :: tiers).flatten := by
      rw [hrows, createMatches_rows, List.append_assoc, List.flatten_cons]
    refine ⟨db', _, ?_, hall, ?_, Tiers.completeTree ⟨.cons (fun m => createMatches_roundId hfirst)
      hin, hchain⟩ (hsorted.imp ne_of_lt) ?_ hinputs ?_ ?_ fun m hm side => ?_⟩
    · refine bind_eq_ok.mpr ⟨loaded, hloaded, bind_eq_ok.mpr ⟨tournament, htournament, ?_⟩⟩
      rw [hr]
      exact bind_eq_ok.mpr ⟨_, hbodies, hdb⟩
    · have hmid := congrArg (fun d : Database => { d with matches_ := db.matches_ }) hframe
      exact hmid.trans (createMatches_frame db _)
    · have hids : (db'.matches_.rows.map (·.id)).Nodup :=
        List.pairwise_map.mpr (db'.matches_.sorted.imp ne_of_lt)
      rw [hall] at hids
      exact hids.sublist ((List.sublist_append_right _ _).map _)
    · rw [hcreated, List.length_map, List.length_cons, Nat.add_sub_cancel]
    · rw [createMatches_flatMap (k := fun b => [b.stageItemInput1Id, b.stageItemInput2Id])
        (fun b x => rfl), List.flatMap_map, List.map_map]
      show ps.flatMap (fun p => [some p.1.id, some p.2.id]) = _
      rw [flatMap_endpoints fun i : StageItemInput => some i.id, hends]
      rfl
    · obtain ⟨b, hb, x, rfl⟩ := exists_body hm
      obtain ⟨p, -, rfl⟩ := List.mem_map.mp hb
      cases side <;> rfl

/-- **The construction makes a complete tree**: with `2 ^ k` inputs and `k` rounds it returns, and
all it changes is that the matches of the tree are added. -/
theorem buildSingleElimination_tree {db : Database} {tid : TournamentId}
    {item loaded : StageItemWithRounds} {tournament : TournamentRow} {k : Nat} (hk : 1 ≤ k)
    (hloaded : getStageItem db tid item.id = .ok loaded)
    (htournament : sqlGetTournament db tid = .ok tournament) (hsize : item.inputs.length = 2 ^ k)
    (hinputs : (item.inputs.map (·.id)).Nodup) (hrounds : loaded.rounds.length = k) :
    (loaded.rounds.map (·.id)).Pairwise (· < ·) ∧
      ∃ db' created, buildSingleEliminationStageItem db tid item = .ok db' ∧
        db'.matches_.rows = db.matches_.rows ++ created ∧ { db' with matches_ := db.matches_ } = db ∧
        CompleteTree (loaded.rounds.map (·.id)) (item.inputs.map (·.id)) created := by
  have hsorted : (loaded.rounds.map (·.id)).Pairwise (· < ·) := by
    obtain ⟨row, -, -, rfl, -⟩ := getStageItem_eq_ok.mp hloaded
    exact loaded_roundIds db tid row
  exact ⟨hsorted, builtTree hk hloaded htournament hsize hinputs hrounds hsorted⟩

theorem cup_tree : ((loadStageItem cup 1 cupItem).rounds.map (·.id)).Pairwise (· < ·) ∧
    ∃ db' created, buildSingleEliminationStageItem cup 1 (loadStageItem cup 1 cupItem) = .ok db' ∧
      db'.matches_.rows = cup.matches_.rows ++ created ∧ { db' with matches_ := cup.matches_ } = cup ∧
      CompleteTree ((loadStageItem cup 1 cupItem).rounds.map (·.id))
        ((loadStageItem cup 1 cupItem).inputs.map (·.id)) created :=
  buildSingleElimination_tree (k := 2) (by decide) cup_loads rfl (by decide) (by decide) (by decide)

end Brackets
