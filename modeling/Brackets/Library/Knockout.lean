/-
  File:      Brackets/Library/Knockout.lean
  Subject:   Knockouts, level by level.

  A level pairs the players that are left and keeps the winner of each pair. `Knockout xs levels c`
  says that the levels, each a list of (winner, loser), lead from the players `xs` to the
  champion `c`. Then

  * every game costs one player (`length`), and the last level is one game (`final`);
  * the champion wins once in every level and never loses (`champion_record`);
  * every other player loses once, in some level, and has won in all levels before
    (`other_record`).
-/
import Mathlib.Data.List.Count
import Brackets.Library.Pairs

namespace Library

variable {α : Type}

inductive Knockout : List α → List (List (α × α)) → α → Prop where
  | champion (c : α) : Knockout [c] [] c
  | level {xs : List α} {games : List (α × α)} {levels : List (List (α × α))} {c : α}
      (pairing : (endpoints games).Perm xs) (rest : Knockout (games.map Prod.fst) levels c) :
      Knockout xs (games :: levels) c

/-- How often a player wins. -/
def winsIn [DecidableEq α] (levels : List (List (α × α))) (x : α) : Nat :=
  (levels.flatten.map Prod.fst).count x

/-- How often a player loses. -/
def lossesIn [DecidableEq α] (levels : List (List (α × α))) (x : α) : Nat :=
  (levels.flatten.map Prod.snd).count x

theorem fst_mem_endpoints {games : List (α × α)} {x : α} (h : x ∈ games.map Prod.fst) :
    x ∈ endpoints games := by
  obtain ⟨g, hg, rfl⟩ := List.mem_map.mp h
  exact mem_endpoints.mpr ⟨g, hg, Or.inl rfl⟩

theorem snd_mem_endpoints {games : List (α × α)} {x : α} (h : x ∈ games.map Prod.snd) :
    x ∈ endpoints games := by
  obtain ⟨g, hg, rfl⟩ := List.mem_map.mp h
  exact mem_endpoints.mpr ⟨g, hg, Or.inr rfl⟩

theorem mem_endpoints_cases {games : List (α × α)} {x : α} (h : x ∈ endpoints games) :
    x ∈ games.map Prod.fst ∨ x ∈ games.map Prod.snd := by
  obtain ⟨g, hg, rfl | rfl⟩ := mem_endpoints.mp h
  · exact Or.inl (List.mem_map_of_mem hg)
  · exact Or.inr (List.mem_map_of_mem hg)

/-- The players of disjoint pairs: firsts and seconds are distinct and have nothing in common. -/
theorem endpoints_split {games : List (α × α)} (h : (endpoints games).Nodup) :
    (games.map Prod.fst).Nodup ∧ (games.map Prod.snd).Nodup ∧
      (games.map Prod.fst).Disjoint (games.map Prod.snd) := by
  induction games with
  | nil => exact ⟨List.nodup_nil, List.nodup_nil, List.disjoint_nil_left _⟩
  | cons g games ih =>
    rw [endpoints_cons, List.nodup_cons, List.nodup_cons, List.mem_cons, not_or] at h
    obtain ⟨⟨hne, h1⟩, h2, hn⟩ := h
    obtain ⟨hfst, hsnd, hdisj⟩ := ih hn
    have hout : ∀ x ∈ games.map Prod.fst, x ≠ g.2 := fun x hx e => h2 (e ▸ fst_mem_endpoints hx)
    refine ⟨List.nodup_cons.mpr ⟨fun h => h1 (fst_mem_endpoints h), hfst⟩,
      List.nodup_cons.mpr ⟨fun h => h2 (snd_mem_endpoints h), hsnd⟩, ?_⟩
    intro x hx hx'
    rcases List.mem_cons.mp hx with rfl | hx
    · rcases List.mem_cons.mp hx' with e | hx'
      · exact hne e
      · exact h1 (snd_mem_endpoints hx')
    · rcases List.mem_cons.mp hx' with e | hx'
      · exact hout x hx e
      · exact hdisj hx hx'

namespace Knockout

variable {xs : List α} {levels : List (List (α × α))} {c : α}

theorem champion_mem (h : Knockout xs levels c) : c ∈ xs := by
  induction h with
  | champion c => exact List.mem_singleton_self c
  | level pairing _ ih => exact pairing.mem_iff.mp (fst_mem_endpoints ih)

/-- Every game costs one player. -/
theorem length (h : Knockout xs levels c) : levels.flatten.length + 1 = xs.length := by
  induction h with
  | champion c => rfl
  | level pairing _ ih =>
    rw [List.length_map] at ih
    rw [List.flatten_cons, List.length_append, ← pairing.length_eq, length_endpoints]
    omega

/-- Whoever plays is one of the players. -/
theorem played_mem (h : Knockout xs levels c) {x : α}
    (hx : x ∈ levels.flatten.map Prod.fst ∨ x ∈ levels.flatten.map Prod.snd) : x ∈ xs := by
  induction h with
  | champion c => exact absurd hx (by simp)
  | level pairing _ ih =>
    rw [List.flatten_cons, List.map_append, List.map_append, List.mem_append,
      List.mem_append] at hx
    refine pairing.mem_iff.mp ?_
    rcases hx with (hx | hx) | hx | hx
    · exact fst_mem_endpoints hx
    · exact fst_mem_endpoints (ih (Or.inl hx))
    · exact snd_mem_endpoints hx
    · exact fst_mem_endpoints (ih (Or.inr hx))

/-- In no level a player plays twice. -/
theorem level_nodup (h : Knockout xs levels c) (hn : xs.Nodup) {games : List (α × α)}
    (hg : games ∈ levels) : (endpoints games).Nodup := by
  induction h with
  | champion c => cases hg
  | level pairing _ ih =>
    have hends := pairing.nodup_iff.mpr hn
    rcases List.mem_cons.mp hg with rfl | hg
    · exact hends
    · exact ih (endpoints_split hends).1 hg

/-- The last level is one game, which the champion wins. -/
theorem final (h : Knockout xs levels c) (hne : levels ≠ []) :
    ∃ loser, levels.getLast? = some [(c, loser)] := by
  induction h with
  | champion c => exact absurd rfl hne
  | @level xs games levels c pairing rest ih =>
    cases levels with
    | nil =>
      generalize hws : games.map Prod.fst = ws at rest
      cases rest
      match games, hws with
      | [g], hws =>
        obtain rfl : g.1 = c := (List.cons.inj hws).1
        exact ⟨g.2, rfl⟩
    | cons games' levels =>
      obtain ⟨loser, hl⟩ := ih (List.cons_ne_nil _ _)
      exact ⟨loser, by rw [List.getLast?_cons_cons, hl]⟩

variable [DecidableEq α]

theorem wins_cons (games : List (α × α)) (levels : List (List (α × α))) (x : α) :
    winsIn (games :: levels) x = (games.map Prod.fst).count x + winsIn levels x := by
  rw [winsIn, winsIn, List.flatten_cons, List.map_append, List.count_append]

theorem losses_cons (games : List (α × α)) (levels : List (List (α × α))) (x : α) :
    lossesIn (games :: levels) x = (games.map Prod.snd).count x + lossesIn levels x := by
  rw [lossesIn, lossesIn, List.flatten_cons, List.map_append, List.count_append]

/-- Whoever is not among the players neither wins nor loses. -/
theorem absent (h : Knockout xs levels c) {x : α} (hx : x ∉ xs) :
    winsIn levels x = 0 ∧ lossesIn levels x = 0 :=
  ⟨List.count_eq_zero_of_not_mem fun h' => hx (h.played_mem (Or.inl h')),
    List.count_eq_zero_of_not_mem fun h' => hx (h.played_mem (Or.inr h'))⟩

/-- **The champion wins in every level and never loses.** -/
theorem champion_record (h : Knockout xs levels c) (hn : xs.Nodup) :
    winsIn levels c = levels.length ∧ lossesIn levels c = 0 := by
  induction h with
  | champion c => exact ⟨rfl, rfl⟩
  | @level xs games levels c pairing rest ih =>
    obtain ⟨hfst, hsnd, hdisj⟩ := endpoints_split (pairing.nodup_iff.mpr hn)
    obtain ⟨hw, hl⟩ := ih hfst
    have hc := rest.champion_mem
    rw [wins_cons, losses_cons, hw, hl, List.count_eq_one_of_mem hfst hc,
      List.count_eq_zero_of_not_mem (hdisj hc)]
    exact ⟨Nat.add_comm _ _, rfl⟩

/-- **Every other player loses once, after a win in every level before.** -/
theorem other_record (h : Knockout xs levels c) (hn : xs.Nodup) {x : α} (hx : x ∈ xs)
    (hne : x ≠ c) : lossesIn levels x = 1 ∧
      ∃ games, levels[winsIn levels x]? = some games ∧ x ∈ games.map Prod.snd := by
  induction h with
  | champion c => exact absurd (List.mem_singleton.mp hx) hne
  | @level xs games levels c pairing rest ih =>
    obtain ⟨hfst, hsnd, hdisj⟩ := endpoints_split (pairing.nodup_iff.mpr hn)
    rw [wins_cons, losses_cons]
    rcases mem_endpoints_cases (pairing.mem_iff.mpr hx) with hx | hx
    · obtain ⟨hl, games', hgames, hmem⟩ := ih hfst hx hne
      refine ⟨?_, games', ?_, hmem⟩
      · rw [hl, List.count_eq_zero_of_not_mem (hdisj hx)]
      · rw [List.count_eq_one_of_mem hfst hx, Nat.add_comm, List.getElem?_cons_succ, hgames]
    · have hout : x ∉ games.map Prod.fst := fun h => hdisj h hx
      obtain ⟨hw, hl⟩ := rest.absent hout
      refine ⟨?_, games, ?_, hx⟩
      · rw [hl, List.count_eq_one_of_mem hsnd hx]
      · rw [hw, List.count_eq_zero_of_not_mem hout]
        rfl

end Knockout

end Library
