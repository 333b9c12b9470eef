/-
  File:      Brackets/Library/Stamps.lean
  Subject:   Runs whose new values carry the stamp of the step that made them.

  A machine takes events one after the other. An observed value is either the one from before the
  event or one that the event made, and what two events with different stamps make differs. If no
  stamp is used twice, a value that has been replaced does not come back: where it is seen twice it
  was there all the time in between (`foldl_stays`).
-/
import Mathlib.Data.List.Nodup

namespace Library

variable {σ ε κ β : Type} {step : σ → ε → σ}

section Made

variable (obs : σ → Option β) (made : ε → β → Prop)

/-- A value that a run arrives at was there at the start or was made on the way. -/
theorem foldl_made (hnew : ∀ s e v, obs (step s e) = some v → obs s = some v ∨ made e v)
    {s : σ} {es : List ε} {v : β} (h : obs (es.foldl step s) = some v) :
    obs s = some v ∨ ∃ e ∈ es, made e v := by
  induction es generalizing s with
  | nil => exact Or.inl h
  | cons e es ih =>
    rcases ih h with hs | ⟨e', he', hmade⟩
    · exact (hnew s e v hs).imp_right fun hmade => ⟨e, List.mem_cons_self, hmade⟩
    · exact Or.inr ⟨e', List.mem_cons_of_mem _ he', hmade⟩

/-- **A value that is seen again was never replaced.** -/
theorem foldl_stays (stamp : ε → κ)
    (hnew : ∀ s e v, obs (step s e) = some v → obs s = some v ∨ made e v)
    (hstamp : ∀ e e' v, made e v → made e' v → stamp e = stamp e')
    {s : σ} {v : β} (hstart : obs s ≠ some v) {before after rest : List ε}
    (hnodup : ((before ++ (after ++ rest)).map stamp).Nodup)
    (hfirst : obs (before.foldl step s) = some v)
    (hlast : obs ((before ++ (after ++ rest)).foldl step s) = some v) :
    obs ((before ++ after).foldl step s) = some v := by
  by_contra hgone
  rw [← List.append_assoc, List.foldl_append] at hlast
  obtain ⟨e, he, hmade⟩ := (foldl_made obs made hnew hlast).resolve_left hgone
  obtain ⟨e', he', hmade'⟩ := (foldl_made obs made hnew hfirst).resolve_left hstart
  rw [List.map_append, List.nodup_append] at hnodup
  have hne := hnodup.2.2 (stamp e') (List.mem_map_of_mem he') (stamp e)
    (List.mem_map_of_mem (List.mem_append_right _ he))
  exact hne (hstamp e' e v hmade' hmade)

end Made

/-- A value that no step of a run replaces. -/
theorem foldl_unchanged {γ : Type} (obs : σ → γ) {s : σ} {es : List ε}
    (h : ∀ p e q, es = p ++ e :: q → obs (step (p.foldl step s) e) = obs (p.foldl step s)) :
    obs (es.foldl step s) = obs s := by
  induction es generalizing s with
  | nil => rfl
  | cons e es ih =>
    refine (ih fun p e' q hes => ?_).trans (h [] e es rfl)
    exact h (e :: p) e' q (congrArg (e :: ·) hes)

end Library
