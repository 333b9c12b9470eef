/-
  File:      Brackets/Planning/ConflictSearch.lean
  Subject:   Which clashes the conflict search finds.

  The overlap test holds if the match that is listed first neither starts nor ends later, and they
  start or end together (`matchesOverlap_iff`). So the search marks the slots with such a clash
  and no other: `getConflictingMatches_seen`. It is exact in an order in which every slot with a
  clash has one of these, and in all orders if it has one with a match at the same time:
  `findsConflicts_iff`.
-/
import Brackets.Planning.Timeline

namespace Brackets

open Library

/-! ## 1. Clashes -/

namespace Match

/-- The input in a slot of `m` plays in `m'`, too. -/
def Shares (m : Match) (side : Side) (m' : Match) : Prop :=
  ∃ side', m'.inputId side' = m.inputId side

/-- Each match starts before the other one ends. -/
def Intersects (m m' : Match) : Prop :=
  ∃ s s', m.startTime = some s ∧ m'.startTime = some s' ∧ s < m'.endTime s' ∧ s' < m.endTime s

/-- `m` neither starts nor ends later than `m'`, and they start or end together. -/
def SharesEnd (m m' : Match) : Prop :=
  ∃ s s', m.startTime = some s ∧ m'.startTime = some s' ∧
    (s = s' ∧ m.endTime s ≤ m'.endTime s' ∨ m.endTime s = m'.endTime s' ∧ s ≤ s')

/-- Both matches start and end together. -/
def SameTime (m m' : Match) : Prop :=
  ∃ s s', m.startTime = some s ∧ m'.startTime = some s' ∧ s = s' ∧ m.endTime s = m'.endTime s'

def TakesTime (m : Match) : Prop := ∃ s, m.startTime = some s ∧ s < m.endTime s

end Match

/-- **What the overlap test tells.** -/
theorem matchesOverlap_iff {m m' : Match} : matchesOverlap m m' = true ↔ m.SharesEnd m' := by
  unfold matchesOverlap Match.SharesEnd
  split
  · next s s' hs hs' =>
    rw [hs, hs']
    simp only [Option.some.injEq, exists_and_left, exists_eq_left', Bool.not_eq_true',
      Bool.or_eq_false_iff, Bool.and_eq_false_iff, decide_eq_false_iff_not, not_lt]
    generalize m.endTime s = e
    generalize m'.endTime s' = e'
    constructor
    · rintro ⟨h | h, hstart, hend⟩
      · exact Or.inr ⟨le_antisymm hend h, hstart⟩
      · exact Or.inl ⟨le_antisymm hstart h, hend⟩
    · rintro (⟨rfl, hend⟩ | ⟨rfl, hstart⟩)
      · exact ⟨Or.inr le_rfl, le_rfl, hend⟩
      · exact ⟨Or.inl le_rfl, hstart, le_rfl⟩
  · next hnone =>
    refine ⟨nofun, ?_⟩
    rintro ⟨s, s', hs, hs', -⟩
    exact absurd hs' (hnone s s' hs)

section Times

variable {m m' : Match}

theorem Match.SameTime.sharesEnd (h : m.SameTime m') : m.SharesEnd m' := by
  obtain ⟨s, s', hs, hs', hstart, hend⟩ := h
  exact ⟨s, s', hs, hs', Or.inl ⟨hstart, hend.le⟩⟩

theorem Match.SameTime.symm (h : m.SameTime m') : m'.SameTime m := by
  obtain ⟨s, s', hs, hs', hstart, hend⟩ := h
  exact ⟨s', s, hs', hs, hstart.symm, hend.symm⟩

/-- Matches that take time and start or end together intersect. -/
theorem Match.SharesEnd.intersects (h : m.SharesEnd m') (hm : m.TakesTime) (hm' : m'.TakesTime) :
    m.Intersects m' := by
  obtain ⟨s, s', hs, hs', hend⟩ := h
  obtain ⟨t, ht, hlt⟩ := hm
  obtain rfl := Option.some.inj (hs.symm.trans ht)
  obtain ⟨t, ht, hlt'⟩ := hm'
  obtain rfl := Option.some.inj (hs'.symm.trans ht)
  refine ⟨s, s', hs, hs', ?_⟩
  rcases hend with ⟨rfl, -⟩ | ⟨hend, -⟩
  · exact ⟨hlt', hlt⟩
  · rw [hend] at hlt ⊢
    exact ⟨hlt, hlt'⟩

theorem Match.Intersects.symm (h : m.Intersects m') : m'.Intersects m := by
  obtain ⟨s, s', hs, hs', h1, h2⟩ := h
  exact ⟨s', s, hs', hs, h2, h1⟩

end Times

/-- The slot has a clash with another definitive match. -/
def Clashes (stages : List StageWithStageItems) (m : Match) (side : Side) : Prop :=
  ∃ m' ∈ definitiveMatches stages, m'.id ≠ m.id ∧ m.Shares side m' ∧ m.Intersects m'

/-- It has one in which the match listed first neither starts nor ends later, and both start or
    end together. -/
def SeenClash (stages : List StageWithStageItems) (m : Match) (side : Side) : Prop :=
  ∃ m' ∈ definitiveMatches stages, m.Shares side m' ∧
    ((m, m') ∈ pairsInOrder (definitiveMatches stages) ∧ m.SharesEnd m' ∨
      (m', m) ∈ pairsInOrder (definitiveMatches stages) ∧ m'.SharesEnd m)

/-- It has one with a match at the same time. -/
def SameTimeClash (stages : List StageWithStageItems) (m : Match) (side : Side) : Prop :=
  ∃ m' ∈ definitiveMatches stages, m'.id ≠ m.id ∧ m.Shares side m' ∧ m.SameTime m'

/-- The definitive matches have distinct ids, start times and positive durations. -/
structure Timed (stages : List StageWithStageItems) : Prop where
  ids : ((definitiveMatches stages).map (·.id)).Nodup
  takesTime : ∀ m ∈ definitiveMatches stages, m.TakesTime

/-! ## 2. The search -/

/-- `conflicts_to_set[match_id][side]` -/
def flagOf (toSet : Dict MatchId (Bool × Bool)) (k : MatchId) : Side → Bool
  | .one => (toSet.getD k (false, false)).1
  | .two => (toSet.getD k (false, false)).2

theorem markConflicts_flag (ids : List (Option StageItemInputId))
    (toSet : Dict MatchId (Bool × Bool)) (m : Match) (k : MatchId) (side : Side) :
    flagOf (markConflicts ids toSet m) k side = true ↔
      flagOf toSet k side = true ∨ (m.id = k ∧ m.inputId side ∈ ids) := by
  cases side <;>
    · simp only [flagOf, markConflicts, Dict.getD_set, MatchRow.inputId]
      by_cases hk : k = m.id
      · rw [if_pos hk, Bool.or_eq_true, List.contains_iff_mem, hk]
        simp only [true_and]
      · rw [if_neg hk]
        simp only [Ne.symm hk, false_and, or_false]

theorem mem_keys_markConflicts (ids : List (Option StageItemInputId))
    (toSet : Dict MatchId (Bool × Bool)) (m : Match) (k : MatchId) :
    k ∈ (markConflicts ids toSet m).keys ↔ k ∈ toSet.keys ∨ k = m.id :=
  toSet.mem_keys_set m.id k _

/-- The inputs of the second match that play in the first one. -/
def sharedInputs (p : Match × Match) : List (Option StageItemInputId) :=
  [p.2.stageItemInput1Id, p.2.stageItemInput2Id].filter
    ([p.1.stageItemInput1Id, p.1.stageItemInput2Id].contains ·)

theorem mem_inputIds {m : Match} {x : Option StageItemInputId} :
    x ∈ [m.stageItemInput1Id, m.stageItemInput2Id] ↔ ∃ side, m.inputId side = x := by
  constructor
  · intro h
    rcases List.mem_cons.mp h with rfl | h
    · exact ⟨.one, rfl⟩
    · exact ⟨.two, (List.mem_singleton.mp h).symm⟩
  · rintro ⟨side, rfl⟩
    cases side
    · exact List.mem_cons_self
    · exact List.mem_cons_of_mem _ List.mem_cons_self

theorem mem_sharedInputs {p : Match × Match} {x : Option StageItemInputId} :
    x ∈ sharedInputs p ↔ (∃ side, p.1.inputId side = x) ∧ ∃ side, p.2.inputId side = x := by
  rw [sharedInputs, List.mem_filter, mem_inputIds, List.contains_iff_mem, mem_inputIds, and_comm]

/-- The comparison finds a conflict. -/
structure Found (p : Match × Match) : Prop where
  ids : p.1.id ≠ p.2.id
  shared : sharedInputs p ≠ []
  overlap : p.1.SharesEnd p.2

/-- **What a comparison does.** -/
theorem compareMatches_cases (c : Conflicts) (p : Match × Match) :
    (Found p ∧ compareMatches c p =
      { toSet := markConflicts (sharedInputs p) (markConflicts (sharedInputs p) c.toSet p.1) p.2
        matchesWithConflicts := c.matchesWithConflicts ++ [p.1.id, p.2.id] }) ∨
    (¬ Found p ∧ compareMatches c p = c) := by
  unfold compareMatches
  dsimp only
  split
  · next hid => exact Or.inr ⟨fun h => h.ids (eq_of_beq hid), rfl⟩
  · next hid =>
    split
    · next hempty => exact Or.inr ⟨fun h => h.shared (List.isEmpty_iff.mp hempty), rfl⟩
    · next hshared =>
      split
      · next hover =>
        refine Or.inl ⟨⟨fun e => hid (beq_iff_eq.mpr e), fun e => hshared ?_,
          matchesOverlap_iff.mp hover⟩, rfl⟩
        exact List.isEmpty_iff.mpr e
      · next hover => exact Or.inr ⟨fun h => hover (matchesOverlap_iff.mpr h.overlap), rfl⟩

/-- A comparison that found a conflict marks the slot of the match. -/
def Marks (p : Match × Match) (k : MatchId) (side : Side) : Prop :=
  Found p ∧ (p.1.id = k ∧ p.1.inputId side ∈ sharedInputs p ∨
    p.2.id = k ∧ p.2.inputId side ∈ sharedInputs p)

/-- A comparison that found a conflict touches the match. -/
def Touches (p : Match × Match) (k : MatchId) : Prop := Found p ∧ (k = p.1.id ∨ k = p.2.id)

/-- The search has the results of the comparisons so far. -/
structure Searched (done : List (Match × Match)) (c : Conflicts) : Prop where
  flags : ∀ k side, flagOf c.toSet k side = true ↔ ∃ p ∈ done, Marks p k side
  keys : ∀ k, k ∈ c.toSet.keys ↔ ∃ p ∈ done, Touches p k
  matches_ : ∀ k, k ∈ c.matchesWithConflicts ↔ ∃ p ∈ done, Touches p k

theorem Searched.step {done : List (Match × Match)} {c : Conflicts} (h : Searched done c)
    (p : Match × Match) : Searched (done ++ [p]) (compareMatches c p) := by
  rcases compareMatches_cases c p with ⟨hfound, hc⟩ | ⟨hfound, hc⟩
  · have hmarks : ∀ k side, Marks p k side ↔ p.1.id = k ∧ p.1.inputId side ∈ sharedInputs p ∨
        p.2.id = k ∧ p.2.inputId side ∈ sharedInputs p := fun k side => and_iff_right hfound
    have htouches : ∀ k, Touches p k ↔ k = p.1.id ∨ k = p.2.id := fun k => and_iff_right hfound
    rw [hc]
    refine ⟨fun k side => ?_, fun k => ?_, fun k => ?_⟩
    · rw [markConflicts_flag, markConflicts_flag, h.flags, or_assoc, ← hmarks]
      simp only [List.mem_append, List.mem_singleton, or_and_right, exists_or, exists_eq_left]
    · rw [mem_keys_markConflicts, mem_keys_markConflicts, h.keys, or_assoc, ← htouches]
      simp only [List.mem_append, List.mem_singleton, or_and_right, exists_or, exists_eq_left]
    · rw [List.mem_append, h.matches_]
      have hpair : k ∈ [p.1.id, p.2.id] ↔ Touches p k := by
        rw [htouches, List.mem_cons, List.mem_singleton]
      rw [hpair]
      simp only [List.mem_append, List.mem_singleton, or_and_right, exists_or, exists_eq_left]
  · have hskip : ∀ Q : Match × Match → Prop, ¬ Q p →
        ((∃ q ∈ done ++ [p], Q q) ↔ ∃ q ∈ done, Q q) := by
      intro Q hQ
      simp only [List.mem_append, List.mem_singleton, or_and_right, exists_or, exists_eq_left, hQ,
        or_false]
    rw [hc]
    refine ⟨fun k side => ?_, fun k => ?_, fun k => ?_⟩
    · rw [h.flags, hskip _ fun hp => hfound hp.1]
    · rw [h.keys, hskip _ fun hp => hfound hp.1]
    · rw [h.matches_, hskip _ fun hp => hfound hp.1]

theorem Searched.run {done : List (Match × Match)} {c : Conflicts} (h : Searched done c)
    (ps : List (Match × Match)) : Searched (done ++ ps) (ps.foldl compareMatches c) := by
  induction ps generalizing done c with
  | nil => rwa [List.append_nil]
  | cons p ps ih =>
    rw [List.append_cons]
    exact ih (h.step p)

theorem searched_empty : Searched [] ⟨.empty, []⟩ := by
  have hnone : ∀ Q : Match × Match → Prop, ¬ ∃ p ∈ ([] : List (Match × Match)), Q p := by
    rintro Q ⟨p, hp, -⟩
    cases hp
  refine ⟨fun k side => ?_, fun k => iff_of_false List.not_mem_nil (hnone _), fun k =>
    iff_of_false List.not_mem_nil (hnone _)⟩
  refine iff_of_false ?_ (hnone _)
  cases side <;> exact Bool.false_ne_true

/-! ## 3. What is found -/

section Result

variable {stages : List StageWithStageItems} (hT : Timed stages)
include hT

theorem Timed.eq {m m' : Match} (hm : m ∈ definitiveMatches stages)
    (hm' : m' ∈ definitiveMatches stages) (h : m.id = m'.id) : m = m' :=
  List.inj_on_of_nodup_map hT.ids hm hm' h

theorem Timed.ne {p : Match × Match} (hp : p ∈ pairsInOrder (definitiveMatches stages)) :
    p.1.id ≠ p.2.id := by
  intro e
  obtain ⟨h1, h2⟩ := mem_of_mem_pairsInOrder hp
  exact ne_of_mem_pairsInOrder hT.ids.of_map hp (hT.eq h1 h2 e)

/-- A slot is marked if it has a clash that is seen. -/
theorem marks_iff {m : Match} (hm : m ∈ definitiveMatches stages) {side : Side} :
    (∃ p ∈ pairsInOrder (definitiveMatches stages), Marks p m.id side) ↔
      SeenClash stages m side := by
  constructor
  · rintro ⟨p, hp, hfound, ⟨hid, hshared⟩ | ⟨hid, hshared⟩⟩
    · obtain ⟨h1, h2⟩ := mem_of_mem_pairsInOrder hp
      obtain rfl := hT.eq h1 hm hid
      exact ⟨p.2, h2, (mem_sharedInputs.mp hshared).2, Or.inl ⟨hp, hfound.overlap⟩⟩
    · obtain ⟨h1, h2⟩ := mem_of_mem_pairsInOrder hp
      obtain rfl := hT.eq h2 hm hid
      exact ⟨p.1, h1, (mem_sharedInputs.mp hshared).1, Or.inr ⟨hp, hfound.overlap⟩⟩
  · rintro ⟨m', hm', hshares, ⟨hp, hover⟩ | ⟨hp, hover⟩⟩
    · have hin : m.inputId side ∈ sharedInputs (m, m') := mem_sharedInputs.mpr ⟨⟨side, rfl⟩, hshares⟩
      exact ⟨(m, m'), hp, ⟨hT.ne hp, List.ne_nil_of_mem hin, hover⟩, Or.inl ⟨rfl, hin⟩⟩
    · have hin : m.inputId side ∈ sharedInputs (m', m) := mem_sharedInputs.mpr ⟨hshares, ⟨side, rfl⟩⟩
      exact ⟨(m', m), hp, ⟨hT.ne hp, List.ne_nil_of_mem hin, hover⟩, Or.inr ⟨rfl, hin⟩⟩

theorem touches_iff {k : MatchId} : (∃ p ∈ pairsInOrder (definitiveMatches stages), Touches p k) ↔
    ∃ m ∈ definitiveMatches stages, m.id = k ∧ ∃ side, SeenClash stages m side := by
  constructor
  · rintro ⟨p, hp, hfound, hk⟩
    obtain ⟨h1, h2⟩ := mem_of_mem_pairsInOrder hp
    obtain ⟨x, hx⟩ := List.exists_mem_of_ne_nil _ hfound.shared
    obtain ⟨⟨side, hside⟩, ⟨side', hside'⟩⟩ := mem_sharedInputs.mp hx
    rcases hk with rfl | rfl
    · exact ⟨p.1, h1, rfl, side, p.2, h2, ⟨side', hside'.trans hside.symm⟩,
        Or.inl ⟨hp, hfound.overlap⟩⟩
    · exact ⟨p.2, h2, rfl, side', p.1, h1, ⟨side, hside.trans hside'.symm⟩,
        Or.inr ⟨hp, hfound.overlap⟩⟩
  · rintro ⟨m, hm, rfl, side, hseen⟩
    obtain ⟨p, hp, hfound, hmarks⟩ := (marks_iff hT hm).mpr hseen
    exact ⟨p, hp, hfound, hmarks.imp (fun h => h.1.symm) fun h => h.1.symm⟩

/-- **The result of the search**: a slot is marked if it has a clash that is seen, and a match is
    cleared if neither slot has one. The final assertion holds. -/
theorem getConflictingMatches_seen : ∃ toSet clear,
    getConflictingMatches stages = .ok (toSet, clear) ∧
      (∀ m ∈ definitiveMatches stages, ∀ side,
        flagOf toSet m.id side = true ↔ SeenClash stages m side) ∧
      (∀ k, k ∈ toSet.keys ↔
        ∃ m ∈ definitiveMatches stages, m.id = k ∧ ∃ side, SeenClash stages m side) ∧
      ∀ k, k ∈ clear ↔
        ∃ m ∈ definitiveMatches stages, m.id = k ∧ ∀ side, ¬ SeenClash stages m side := by
  have hS := searched_empty.run (pairsInOrder (definitiveMatches stages))
  rw [List.nil_append] at hS
  unfold getConflictingMatches
  dsimp only
  generalize (pairsInOrder (definitiveMatches stages)).foldl compareMatches ⟨.empty, []⟩ = c at hS
  have hclear : ∀ k, k ∈ ((definitiveMatches stages).map (·.id)).filter
      (!c.matchesWithConflicts.contains ·) ↔
        ∃ m ∈ definitiveMatches stages, m.id = k ∧ ∀ side, ¬ SeenClash stages m side := by
    intro k
    rw [List.mem_filter, List.mem_map, Bool.not_eq_true', ← Bool.not_eq_true, List.contains_iff_mem,
      hS.matches_, touches_iff hT]
    constructor
    · rintro ⟨⟨m, hm, rfl⟩, hnone⟩
      exact ⟨m, hm, rfl, fun side hseen => hnone ⟨m, hm, rfl, side, hseen⟩⟩
    · rintro ⟨m, hm, rfl, hnone⟩
      refine ⟨⟨m, hm, rfl⟩, ?_⟩
      rintro ⟨m', hm', hid, side, hseen⟩
      exact hnone side (hT.eq hm' hm hid ▸ hseen)
  have hassert : c.toSet.keys.any (((definitiveMatches stages).map (·.id)).filter
      (!c.matchesWithConflicts.contains ·)).contains = false := by
    rw [Bool.eq_false_iff]
    intro hany
    obtain ⟨k, hk, hmem⟩ := List.any_eq_true.mp hany
    obtain ⟨m, hm, rfl, hnone⟩ := (hclear k).mp (List.contains_iff_mem.mp hmem)
    obtain ⟨m', hm', hid, side, hseen⟩ := (touches_iff hT).mp ((hS.keys _).mp hk)
    exact hnone side (hT.eq hm' hm hid ▸ hseen)
  refine ⟨c.toSet, _, if_neg (Bool.eq_false_iff.mp hassert), fun m hm side => ?_, fun k => ?_,
    hclear⟩
  · rw [hS.flags, marks_iff hT hm]
  · rw [hS.keys, touches_iff hT]

end Result

/-! ## 4. When the search is exact -/

/-- The result tells every clash and nothing else, and every match is in one of its parts. -/
structure Exact (stages : List StageWithStageItems) (toSet : Dict MatchId (Bool × Bool))
    (clear : List MatchId) : Prop where
  marked : ∀ m ∈ definitiveMatches stages, ∀ side,
    flagOf toSet m.id side = true ↔ Clashes stages m side
  cleared : ∀ m ∈ definitiveMatches stages, m.id ∈ clear ↔ ∀ side, flagOf toSet m.id side = false
  one : ∀ m ∈ definitiveMatches stages, m.id ∈ toSet.keys ↔ m.id ∉ clear

def FindsConflicts (stages : List StageWithStageItems) : Prop :=
  ∃ toSet clear, getConflictingMatches stages = .ok (toSet, clear) ∧ Exact stages toSet clear

/-- The same definitive matches, in any order. -/
def AgendaReordered (stages stages' : List StageWithStageItems) : Prop :=
  (definitiveMatches stages').Perm (definitiveMatches stages)

/-- Equal as a dictionary and as a set. -/
def SameConflicts (stages stages' : List StageWithStageItems) : Prop :=
  ∃ toSet clear toSet' clear', getConflictingMatches stages = .ok (toSet, clear) ∧
    getConflictingMatches stages' = .ok (toSet', clear') ∧
    (∀ k, toSet'.get? k = toSet.get? k) ∧ ∀ k, k ∈ clear' ↔ k ∈ clear

section Exactness

variable {stages : List StageWithStageItems} (hT : Timed stages)
include hT

theorem SeenClash.clashes {m : Match} (hm : m ∈ definitiveMatches stages) {side : Side}
    (h : SeenClash stages m side) : Clashes stages m side := by
  obtain ⟨m', hm', hshares, ⟨hp, hover⟩ | ⟨hp, hover⟩⟩ := h
  · exact ⟨m', hm', (hT.ne hp).symm, hshares,
      hover.intersects (hT.takesTime m hm) (hT.takesTime m' hm')⟩
  · exact ⟨m', hm', hT.ne hp, hshares,
      (hover.intersects (hT.takesTime m' hm') (hT.takesTime m hm)).symm⟩

omit hT in
theorem SameTimeClash.seen {m : Match} (hm : m ∈ definitiveMatches stages) {side : Side}
    (h : SameTimeClash stages m side) : SeenClash stages m side := by
  obtain ⟨m', hm', hne, hshares, htime⟩ := h
  have hdiff : m ≠ m' := fun e => hne (congrArg (fun x : Match => x.id) e).symm
  rcases mem_pairsInOrder_or hm hm' hdiff with hp | hp
  · exact ⟨m', hm', hshares, Or.inl ⟨hp, htime.sharesEnd⟩⟩
  · exact ⟨m', hm', hshares, Or.inr ⟨hp, htime.symm.sharesEnd⟩⟩

/-- The search is exact if it sees a clash of every slot that has one. -/
theorem findsConflicts_iff_seen : FindsConflicts stages ↔ ∀ m ∈ definitiveMatches stages,
    ∀ side, Clashes stages m side → SeenClash stages m side := by
  obtain ⟨toSet, clear, hget, hflags, hkeys, hclear⟩ := getConflictingMatches_seen hT
  constructor
  · rintro ⟨toSet', clear', hget', hexact⟩ m hm side hclash
    obtain ⟨rfl, rfl⟩ := Prod.mk.inj (Except.ok.inj (hget.symm.trans hget'))
    exact (hflags m hm side).mp ((hexact.marked m hm side).mpr hclash)
  · intro hall
    have hcleared : ∀ m ∈ definitiveMatches stages,
        m.id ∈ clear ↔ ∀ side, ¬ SeenClash stages m side := by
      intro m hm
      rw [hclear]
      constructor
      · rintro ⟨m', hm', hid, hnone⟩
        exact hT.eq hm' hm hid ▸ hnone
      · exact fun hnone => ⟨m, hm, rfl, hnone⟩
    refine ⟨toSet, clear, hget, fun m hm side => ?_, fun m hm => ?_, fun m hm => ?_⟩
    · exact (hflags m hm side).trans ⟨SeenClash.clashes hT hm, hall m hm side⟩
    · rw [hcleared m hm]
      exact forall_congr' fun side => by rw [← hflags m hm, Bool.not_eq_true]
    · rw [hcleared m hm, hkeys, not_forall]
      constructor
      · rintro ⟨m', hm', hid, side, hseen⟩
        exact ⟨side, not_not_intro (hT.eq hm' hm hid ▸ hseen)⟩
      · rintro ⟨side, hseen⟩
        exact ⟨m, hm, rfl, side, not_not.mp hseen⟩

end Exactness

/-! ## 5. Other orders -/

section Orders

variable {stages stages' : List StageWithStageItems} (h : AgendaReordered stages stages')
include h

theorem AgendaReordered.timed (hT : Timed stages) : Timed stages' :=
  ⟨(h.map _).nodup_iff.mpr hT.ids, fun m hm => hT.takesTime m (h.mem_iff.mp hm)⟩

theorem AgendaReordered.clashes {m : Match} {side : Side} :
    Clashes stages' m side ↔ Clashes stages m side :=
  exists_congr fun _ => and_congr_left fun _ => h.mem_iff

theorem AgendaReordered.sameTimeClash {m : Match} {side : Side} :
    SameTimeClash stages' m side ↔ SameTimeClash stages m side :=
  exists_congr fun _ => and_congr_left fun _ => h.mem_iff

/-- Orders in which the same clashes are seen have the same outcome. -/
theorem AgendaReordered.sameConflicts (hT : Timed stages) (hseen : ∀ m ∈ definitiveMatches stages,
    ∀ side, SeenClash stages' m side ↔ SeenClash stages m side) : SameConflicts stages stages' := by
  obtain ⟨toSet, clear, hget, hflags, hkeys, hclear⟩ := getConflictingMatches_seen hT
  obtain ⟨toSet', clear', hget', hflags', hkeys', hclear'⟩ :=
    getConflictingMatches_seen (h.timed hT)
  have hsame : ∀ m ∈ definitiveMatches stages,
      (fun side => SeenClash stages' m side) = fun side => SeenClash stages m side :=
    fun m hm => funext fun side => propext (hseen m hm side)
  refine ⟨toSet, clear, toSet', clear', hget, hget', fun k => ?_, fun k => ?_⟩
  · have hmem : k ∈ toSet'.keys ↔ k ∈ toSet.keys := by
      rw [hkeys, hkeys']
      refine exists_congr fun m => ?_
      rw [h.mem_iff]
      exact and_congr_right fun hm => and_congr_right fun _ => exists_congr (hseen m hm)
    by_cases hk : k ∈ toSet.keys
    · obtain ⟨m, hm, rfl, -⟩ := (hkeys k).mp hk
      obtain ⟨v, hv⟩ := Option.isSome_iff_exists.mp (toSet.get?_isSome.mpr hk)
      obtain ⟨v', hv'⟩ := Option.isSome_iff_exists.mp (toSet'.get?_isSome.mpr (hmem.mpr hk))
      have hflag : ∀ side, flagOf toSet' m.id side = flagOf toSet m.id side := fun side =>
        Bool.eq_iff_iff.mpr (by rw [hflags m hm, hflags' m (h.mem_iff.mpr hm), hseen m hm])
      have hone := hflag .one
      have htwo := hflag .two
      simp only [flagOf, Dict.getD, hv, hv', Option.getD_some] at hone htwo
      rw [hv, hv', Prod.ext hone htwo]
    · rw [toSet.get?_eq_none.mpr hk, toSet'.get?_eq_none.mpr fun hk' => hk (hmem.mp hk')]
  · rw [hclear, hclear']
    refine exists_congr fun m => ?_
    rw [h.mem_iff]
    refine and_congr_right fun hm => and_congr_right fun _ => forall_congr' fun side => ?_
    exact not_congr (hseen m hm side)

end Orders

/-- One round with the matches. -/
def inOneRound (l : List Match) : List StageWithStageItems :=
  [{ id := 1, name := "", tournamentId := 1, isActive := false, customDurationMinutes := none
     stageItems :=
      [{ id := 1, name := "", stageId := 1, teamCount := 2, rankingId := 1, type := .swiss
         rounds := [{ id := 1, name := "", isDraft := false, stageItemId := 1, matches_ := l }]
         inputs := [] }] }]

theorem definitiveMatches_inOneRound {l : List Match} (h : ∀ m ∈ l, m.isDefinitive = true) :
    definitiveMatches (inOneRound l) = l := by
  have hflat : definitiveMatches (inOneRound l) = l.filter (·.isDefinitive) := by
    simp [definitiveMatches, inOneRound]
  rw [hflat, List.filter_eq_self.mpr h]

/-- What orders the matches: later ones have a later middle. -/
def middle (m : Match) : Int := m.startTime.getD 0 + m.endTime (m.startTime.getD 0)

/-- The matches in falling order of their middles. -/
def latestFirst (l : List Match) : List Match := l.insertionSort fun m m' => middle m' ≤ middle m

theorem latestFirst_sorted (l : List Match) :
    (latestFirst l).Pairwise fun m m' => middle m' ≤ middle m := by
  have htotal : Std.Total fun m m' : Match => middle m' ≤ middle m :=
    ⟨fun m m' => le_total (middle m') (middle m)⟩
  have htrans : IsTrans Match fun m m' => middle m' ≤ middle m := ⟨fun _ _ _ h h' => h'.trans h⟩
  exact List.pairwise_insertionSort _ l

/-- In this order only matches at the same time overlap. -/
theorem Match.SharesEnd.sameTime {m m' : Match} (h : m.SharesEnd m') (hle : middle m' ≤ middle m) :
    m.SameTime m' := by
  obtain ⟨s, s', hs, hs', hend⟩ := h
  simp only [middle, hs, hs', Option.getD_some] at hle
  refine ⟨s, s', hs, hs', ?_⟩
  generalize m.endTime s = e at hle hend ⊢
  generalize m'.endTime s' = e' at hle hend ⊢
  rcases hend with ⟨rfl, hend⟩ | ⟨rfl, hstart⟩
  · exact ⟨rfl, le_antisymm hend (Int.le_of_add_le_add_left hle)⟩
  · exact ⟨le_antisymm hstart (Int.le_of_add_le_add_right hle), rfl⟩

theorem reordered_latestFirst (stages : List StageWithStageItems) :
    AgendaReordered stages (inOneRound (latestFirst (definitiveMatches stages))) ∧
      definitiveMatches (inOneRound (latestFirst (definitiveMatches stages))) =
        latestFirst (definitiveMatches stages) := by
  have hperm := List.perm_insertionSort (fun m m' : Match => middle m' ≤ middle m)
    (definitiveMatches stages)
  have hlist : definitiveMatches (inOneRound (latestFirst (definitiveMatches stages))) =
      latestFirst (definitiveMatches stages) :=
    definitiveMatches_inOneRound fun m hm => (List.mem_filter.mp (hperm.mem_iff.mp hm)).2
  refine ⟨?_, hlist⟩
  rw [AgendaReordered, hlist]
  exact hperm

/-- Where every clash is seen in some orders, the outcome in them is exact and one. -/
theorem findsConflicts_orders {stages : List StageWithStageItems} (hT : Timed stages)
    {R : List StageWithStageItems → Prop} (hR : ∀ stages', R stages' → AgendaReordered stages stages')
    (hself : R stages) :
    (FindsConflicts stages ∧ ∀ stages', R stages' → SameConflicts stages stages') ↔
      ∀ stages', R stages' → ∀ m ∈ definitiveMatches stages, ∀ side,
        Clashes stages m side → SeenClash stages' m side := by
  constructor
  · rintro ⟨hfinds, hsame⟩ stages' hstages' m hm side hclash
    have h := hR stages' hstages'
    have hseen := (findsConflicts_iff_seen hT).mp hfinds m hm side hclash
    obtain ⟨toSet, clear, hget, hflags, -⟩ := getConflictingMatches_seen hT
    obtain ⟨toSet', clear', hget', hflags', -⟩ := getConflictingMatches_seen (h.timed hT)
    obtain ⟨t, c, t', c', ht, ht', hdict, -⟩ := hsame stages' hstages'
    obtain ⟨rfl, -⟩ := Prod.mk.inj (Except.ok.inj (hget.symm.trans ht))
    obtain ⟨rfl, -⟩ := Prod.mk.inj (Except.ok.inj (hget'.symm.trans ht'))
    have hflag : flagOf toSet' m.id side = flagOf toSet m.id side := by
      cases side <;> simp only [flagOf, Dict.getD, hdict]
    exact (hflags' m (h.mem_iff.mpr hm) side).mp (hflag.trans ((hflags m hm side).mpr hseen))
  · intro hall
    refine ⟨(findsConflicts_iff_seen hT).mpr (hall stages hself), fun stages' hstages' => ?_⟩
    have h := hR stages' hstages'
    refine h.sameConflicts hT fun m hm side => ⟨fun hs => ?_, fun hs => ?_⟩
    · exact hall stages hself m hm side
        (h.clashes.mp (hs.clashes (h.timed hT) (h.mem_iff.mpr hm)))
    · exact hall stages' hstages' m hm side (hs.clashes hT hm)

/-- A clash is seen in every order if there is one with a match at the same time. -/
theorem seen_everywhere_iff {stages : List StageWithStageItems} (hT : Timed stages) :
    (∀ stages', AgendaReordered stages stages' → ∀ m ∈ definitiveMatches stages, ∀ side,
      Clashes stages m side → SeenClash stages' m side) ↔
      ∀ m ∈ definitiveMatches stages, ∀ side,
        Clashes stages m side → SameTimeClash stages m side := by
  constructor
  · intro hall m hm side hclash
    obtain ⟨h, hlist⟩ := reordered_latestFirst stages
    obtain ⟨m', hm', hshares, hover⟩ := hall _ h m hm side hclash
    rw [hlist] at hover
    have hsorted := latestFirst_sorted (definitiveMatches stages)
    have hdistinct : ∀ p ∈ pairsInOrder (latestFirst (definitiveMatches stages)),
        p.1.id ≠ p.2.id := fun p hp => (h.timed hT).ne (hlist.symm ▸ hp)
    rcases hover with ⟨hp, hover⟩ | ⟨hp, hover⟩
    · exact ⟨m', h.mem_iff.mp hm', (hdistinct _ hp).symm, hshares,
        hover.sameTime (pairwise_of_mem_pairsInOrder hsorted hp)⟩
    · exact ⟨m', h.mem_iff.mp hm', hdistinct _ hp, hshares,
        (hover.sameTime (pairwise_of_mem_pairsInOrder hsorted hp)).symm⟩
  · intro hall stages' h m hm side hclash
    exact (h.sameTimeClash.mpr (hall m hm side hclash)).seen (h.mem_iff.mpr hm)

theorem relisted_refl (stages : List StageWithStageItems) : Relisted stages stages :=
  PermUpTo.refl (fun _ => ⟨rfl, PermUpTo.refl (fun _ => ⟨rfl, .refl _, PermUpTo.refl (fun _ =>
    ⟨rfl, .refl _⟩) _⟩) _⟩) stages

theorem Relisted.reordered {stages stages' : List StageWithStageItems} (h : Relisted stages stages') :
    AgendaReordered stages stages' := by
  have hmatches : (tournamentMatches stages).Perm (tournamentMatches stages') :=
    h.flatMap fun s s' hs => hs.stageItems.flatMap fun i i' hi =>
      hi.rounds.flatMap fun r r' hr => hr.matches_
  exact (hmatches.filter _).symm

def clashTeam (k : Int) : StageItemInput :=
  ⟨⟨k, k, 1, 1, some k, none, none, 0, 0, 0, 0⟩, some ⟨k, "", 1, true, none⟩⟩

/-- A match of a quarter of an hour that starts after some minutes. -/
def clashMatch (k minutes input1 input2 : Int) : Match :=
  { id := k, startTime := some (timedelta minutes), durationMinutes := 10, marginMinutes := 5
    customDurationMinutes := none, customMarginMinutes := none, roundId := 1
    stageItemInput1Id := some input1, stageItemInput2Id := some input2
    stageItemInput1Conflict := false, stageItemInput2Conflict := false
    stageItemInput1WinnerFromMatchId := none, stageItemInput2WinnerFromMatchId := none
    stageItemInput1Score := 0, stageItemInput2Score := 0
    stageItemInput1 := some (clashTeam input1), stageItemInput2 := some (clashTeam input2) }

/-- The first input plays twice, and its second match starts after some minutes. -/
def doubleBooked (minutes : Int) : List StageWithStageItems :=
  inOneRound [clashMatch 1 0 1 2, clashMatch 2 minutes 1 3]

theorem doubleBooked_timed (minutes : Int) : Timed (doubleBooked minutes) where
  ids := by
    have hids : ([1, 2] : List MatchId).Nodup := by decide
    exact hids
  takesTime m hm := by
    have hall : ∀ m ∈ [clashMatch 1 0 1 2, clashMatch 2 minutes 1 3], m.TakesTime := by
      intro m hm
      rcases List.mem_cons.mp hm with rfl | hm
      · exact ⟨_, rfl, by decide⟩
      · obtain rfl := List.mem_singleton.mp hm
        have hpos : 0 < timedelta 15 := by decide
        exact ⟨_, rfl, Int.lt_add_of_pos_right (timedelta minutes) hpos⟩
    exact hall m hm

end Brackets
