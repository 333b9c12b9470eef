/-
  File:      Brackets/Library/Server.lean
  Subject:   Any number of requests that read before they write.

  A request reads what is stored, decides, and later commits its changes to what is stored then.
  Between its read and its commit any other requests may read and commit, and it may end without a
  commit (`Server.Step`). What every commit keeps holds in every run (`Server.invariant`).
-/
import Mathlib.Logic.Relation

namespace Library

/-- What is stored, and the requests that have read and not ended, with what they saw. -/
structure Server (σ ρ : Type) where
  stored : σ
  waiting : List (ρ × σ)

namespace Server

variable {σ ρ : Type}

/-- A step of a run in which the commits satisfy `C`. `commit r seen s` is what the commit of `r`,
    which has read `seen`, makes of `s`; `none` if the request fails. -/
inductive Step (commit : ρ → σ → σ → Option σ) (C : ρ → σ → σ → Prop) :
    Server σ ρ → Server σ ρ → Prop
  | read (r : ρ) (s : σ) (ps : List (ρ × σ)) : Step commit C ⟨s, ps⟩ ⟨s, (r, s) :: ps⟩
  | commit {r : ρ} {seen s s' : σ} (ps qs : List (ρ × σ)) (changes : commit r seen s = some s')
      (allowed : C r seen s) : Step commit C ⟨s, ps ++ (r, seen) :: qs⟩ ⟨s', ps ++ qs⟩
  | quit (r : ρ) (seen s : σ) (ps qs : List (ρ × σ)) :
      Step commit C ⟨s, ps ++ (r, seen) :: qs⟩ ⟨s, ps ++ qs⟩

variable {commit : ρ → σ → σ → Option σ} {C : ρ → σ → σ → Prop} {P : σ → Prop}

/-- It holds of what is stored and of all that requests have seen. -/
def All (P : σ → Prop) (s : Server σ ρ) : Prop := P s.stored ∧ ∀ p ∈ s.waiting, P p.2

theorem All.step (hcommit : ∀ r seen s s', P seen → P s → C r seen s → commit r seen s = some s' →
    P s') {s s' : Server σ ρ} (h : s.All P) (hstep : Step commit C s s') : s'.All P := by
  obtain ⟨hstored, hwaiting⟩ := h
  cases hstep with
  | read r s ps =>
    refine ⟨hstored, fun p hp => ?_⟩
    rcases List.mem_cons.mp hp with rfl | hp
    · exact hstored
    · exact hwaiting p hp
  | @commit r seen s s' ps qs changes allowed =>
    have hseen : P seen := hwaiting (r, seen) (List.mem_append_right _ List.mem_cons_self)
    refine ⟨hcommit r seen s s' hseen hstored allowed changes, fun p hp => hwaiting p ?_⟩
    rcases List.mem_append.mp hp with hp | hp
    · exact List.mem_append_left _ hp
    · exact List.mem_append_right _ (List.mem_cons_of_mem _ hp)
  | quit r seen s ps qs =>
    refine ⟨hstored, fun p hp => hwaiting p ?_⟩
    rcases List.mem_append.mp hp with hp | hp
    · exact List.mem_append_left _ hp
    · exact List.mem_append_right _ (List.mem_cons_of_mem _ hp)

/-- **What every allowed commit keeps holds in every state of a run.** -/
theorem invariant (hcommit : ∀ r seen s s', P seen → P s → C r seen s → commit r seen s = some s' →
    P s') {base : σ} (hbase : P base) {s : Server σ ρ}
    (h : Relation.ReflTransGen (Step commit C) ⟨base, []⟩ s) : P s.stored := by
  have hall : s.All P := by
    induction h with
    | refl => exact ⟨hbase, fun p hp => absurd hp List.not_mem_nil⟩
    | tail _ hstep ih => exact ih.step hcommit hstep
  exact hall.1

/-- A request that is alone. -/
theorem alone {r : ρ} {s s' : σ} (changes : commit r s s = some s') (allowed : C r s s) :
    Relation.ReflTransGen (Step commit C) ⟨s, []⟩ ⟨s', []⟩ :=
  (Relation.ReflTransGen.single (Step.read r s [])).trans
    (Relation.ReflTransGen.single (Step.commit [] [] changes allowed))

end Server

end Library
