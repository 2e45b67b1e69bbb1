import Mathlib

/-!
# Runs

Runs of a step function over a list of inputs, from a fixed start.

* `foldlM_historia` : **what a run that may fail preserves**, told with the inputs read so far;
* `exists_ultimo_cambio` : **the step since which a property has held.**
-/

namespace Corridas

variable {ε σ α : Type}

/-- A run whose steps all succeed succeeds, and what each step preserves holds of it and of its inputs. -/
theorem foldlM_historia {paso : σ → α → Except ε σ} {inicio : σ} {Inv : List α → σ → Prop} (hinicio : Inv [] inicio)
    (hpaso : ∀ cs s c, Inv cs s → ∃ s', paso s c = .ok s' ∧ Inv (cs ++ [c]) s') (cs : List α) :
    ∃ s, cs.foldlM paso inicio = .ok s ∧ Inv cs s := by
  induction cs using List.reverseRecOn with
  | nil => exact ⟨inicio, rfl, hinicio⟩
  | append_singleton cs c ih =>
    obtain ⟨s, hs, hinv⟩ := ih
    obtain ⟨s', hs', hinv'⟩ := hpaso cs s c hinv
    refine ⟨s', ?_, hinv'⟩
    rw [List.foldlM_append, hs]
    show [c].foldlM paso s = .ok s'
    rw [List.foldlM_cons, hs']
    rfl

/-- A property that holds at the end of a run and not at its start holds throughout since one of the steps. -/
theorem exists_ultimo_cambio {paso : σ → α → σ} {inicio : σ} {P : σ → Prop} (hinicio : ¬ P inicio) {cs : List α}
    (h : P (cs.foldl paso inicio)) :
    ∃ antes c despues, cs = antes ++ c :: despues ∧ ¬ P (antes.foldl paso inicio) ∧
      ∀ p, p <+: despues → P ((antes ++ c :: p).foldl paso inicio) := by
  induction cs using List.reverseRecOn with
  | nil => exact absurd h hinicio
  | append_singleton cs c ih =>
    by_cases hcs : P (cs.foldl paso inicio)
    · -- it held before the last step too
      obtain ⟨antes, d, despues, rfl, hantes, hdespues⟩ := ih hcs
      refine ⟨antes, d, despues ++ [c], by simp, hantes, fun p hp => ?_⟩
      rcases List.prefix_concat_iff.mp hp with rfl | hp
      · simpa using h
      · exact hdespues p hp
    · refine ⟨cs, c, [], rfl, hcs, fun p hp => ?_⟩
      rw [List.prefix_nil.mp hp]
      exact h

end Corridas
