import MensajeroX.Lib.Refinamiento
import MensajeroX.Lib.Maquinas

/-!
# Isolation

A part of a system is isolated from the rest when what the rest does cannot be told from what the part sees. States are
seen through a function, or through a relation between a state and what the part sees of it.

* `sobre` : an outcome seen through a function, `recorrer_sobre` : a loop seen through it;
* `foldl_purga`, `correr_purga` : **the inputs of the others can be removed from a run**, and the part sees the same;
* `filter_entrelazar` : the outputs of a group of machines, in any interleaving.
-/

/-! ## Outcomes through a function -/

namespace Efectos

variable {ε σ τ α : Type}

/-- An outcome, with its state seen through a function. -/
def sobre (f : σ → τ) : EStateM.Result ε σ α → EStateM.Result ε τ α
  | .ok a s => .ok a (f s)
  | .error e s => .error e (f s)

@[simp] theorem sobre_ok (f : σ → τ) (a : α) (s : σ) : sobre f (.ok a s : EStateM.Result ε σ α) = .ok a (f s) := rfl

@[simp] theorem sobre_error (f : σ → τ) (e : ε) (s : σ) :
    sobre f (.error e s : EStateM.Result ε σ α) = .error e (f s) := rfl

/-- A loop whose turns can be seen through `f` can be seen through `f`. -/
theorem recorrer_sobre {f : σ → τ} {I : σ → Prop} {g : σ → α → EStateM.Result ε σ PUnit}
    {g' : τ → α → EStateM.Result ε τ PUnit} {l : List α} (h : ∀ x ∈ l, ∀ s, I s → g' (f s) x = sobre f (g s x))
    (hI : ∀ x ∈ l, ∀ s, I s → I (final (g s x))) {s : σ} (hs : I s) :
    recorrer g' l (f s) = sobre f (recorrer g l s) := by
  induction l generalizing s with
  | nil => rfl
  | cons x l ih =>
    have hx := h x (by simp) s hs
    have hIx := hI x (by simp) s hs
    rw [recorrer, recorrer, hx]
    cases hg : g s x with
    | error e s' => rfl
    | ok a s' =>
      rw [hg, final_ok] at hIx
      exact ih (fun y hy => h y (by simp [hy])) (fun y hy => hI y (by simp [hy])) hIx

end Efectos

/-! ## Runs without the others -/

namespace Maquinas

variable {σ ε ω : Type} {paso : σ → ε → σ × List ω}

/-- **The inputs of the others can be removed from a run**: those of the part do the same on both sides, those of the
others change nothing that it sees. -/
theorem foldl_purga {V : σ → σ → Prop} {f : σ → ε → σ} {propia : ε → Bool} {es : List ε}
    (hpropia : ∀ e ∈ es, propia e = true → ∀ s t, V s t → V (f s e) (f t e))
    (hajena : ∀ e ∈ es, propia e = false → ∀ s t, V s t → V (f s e) t) {s t : σ} (h : V s t) :
    V (es.foldl f s) ((es.filter propia).foldl f t) := by
  induction es generalizing s t with
  | nil => exact h
  | cons e es ih =>
    have hpropia' := fun e' he' => hpropia e' (List.mem_cons_of_mem e he')
    have hajena' := fun e' he' => hajena e' (List.mem_cons_of_mem e he')
    cases he : propia e with
    | true =>
      rw [List.filter_cons_of_pos he]
      exact ih hpropia' hajena' (hpropia e List.mem_cons_self he s t h)
    | false =>
      rw [List.filter_cons_of_neg (by simp [he])]
      exact ih hpropia' hajena' (hajena e List.mem_cons_self he s t h)

theorem antes_of_correr {P : σ → Prop} (hatras : ∀ s e, P (paso s e).1 → P s) {s : σ} {es : List ε}
    (h : P (correr paso s es).1) : P s := by
  induction es generalizing s with
  | nil => exact h
  | cons e es ih => exact hatras s e (ih h)

/-- **The inputs of the others can be removed from a run.** `V s t` says that `t` is what the part sees of `s`. Its own
inputs do the same on both sides; those of the others change nothing that it sees. The steps are only asked to do so as
long as `P` holds. -/
theorem correr_purga {V : σ → σ → Prop} {P : σ → Prop} {propia : ε → Prop} {suya : ω → Prop} [DecidablePred propia]
    [DecidablePred suya] (hatras : ∀ s e, P (paso s e).1 → P s) {es : List ε}
    (hpropia : ∀ e ∈ es, propia e → ∀ s t, V s t → P (paso s e).1 →
      V (paso s e).1 (paso t e).1 ∧ (paso t e).2 = (paso s e).2.filter suya)
    (hajena : ∀ e ∈ es, ¬ propia e → ∀ s t, V s t → P (paso s e).1 →
      V (paso s e).1 t ∧ (paso s e).2.filter suya = [])
    {s t : σ} (h : V s t) (hP : P (correr paso s es).1) :
    V (correr paso s es).1 (correr paso t (es.filter propia)).1 ∧
      (correr paso t (es.filter propia)).2 = (correr paso s es).2.filter suya := by
  induction es generalizing s t with
  | nil => exact ⟨h, rfl⟩
  | cons e es ih =>
    have hpaso : P (paso s e).1 := antes_of_correr hatras hP
    have hpropia' := fun e' he' => hpropia e' (List.mem_cons_of_mem e he')
    have hajena' := fun e' he' => hajena e' (List.mem_cons_of_mem e he')
    by_cases he : propia e
    · obtain ⟨hV, hsalida⟩ := hpropia e List.mem_cons_self he s t h hpaso
      obtain ⟨hfin, hresto⟩ := ih hpropia' hajena' hV hP
      rw [List.filter_cons_of_pos (by simpa using he)]
      refine ⟨hfin, ?_⟩
      rw [correr, correr, List.filter_append, ← hresto, ← hsalida]
    · obtain ⟨hV, hsalida⟩ := hajena e List.mem_cons_self he s t h hpaso
      obtain ⟨hfin, hresto⟩ := ih hpropia' hajena' hV hP
      rw [List.filter_cons_of_neg (by simpa using he)]
      refine ⟨hfin, ?_⟩
      rw [hresto, correr, List.filter_append, hsalida, List.nil_append]

section Grupo
variable {ι : Type} [DecidableEq ι] (I : Set ι) [DecidablePred (· ∈ I)]

theorem propios_filter {α : Type} {i : ι} (hi : i ∈ I) (es : List (ι × α)) :
    propios i (es.filter fun e => e.1 ∈ I) = propios i es := by
  rw [propios, List.filter_filter, propios]
  congr 2
  funext e
  by_cases he : e.1 = i
  · simp [he, hi]
  · simp [he]

/-- **The outputs of a group of machines**, in any interleaving, are those that it has on its own inputs. -/
theorem filter_entrelazar {ss ss' : ι → σ} (h : ∀ i ∈ I, ss' i = ss i) (es : List (ι × ε)) :
    (correr (entrelazar paso) ss' (es.filter fun e => e.1 ∈ I)).2 =
      (correr (entrelazar paso) ss es).2.filter fun o => o.1 ∈ I := by
  induction es generalizing ss ss' with
  | nil => rfl
  | cons e es ih =>
    have hsalidas : ∀ os : List ω, (os.map fun o => (e.1, o)).filter (fun o => o.1 ∈ I) =
        if e.1 ∈ I then os.map fun o => (e.1, o) else [] := by
      intro os
      by_cases he : e.1 ∈ I
      · rw [if_pos he]
        exact List.filter_eq_self.mpr (by simp [he])
      · rw [if_neg he]
        exact List.filter_eq_nil_iff.mpr (by simp [he])
    rw [correr, List.filter_append]
    by_cases he : e.1 ∈ I
    · rw [List.filter_cons_of_pos (by simpa using he), correr, entrelazar, entrelazar, hsalidas, if_pos he, h _ he]
      refine congrArg _ (ih fun i hi => ?_)
      dsimp only
      by_cases hie : i = e.1
      · subst hie
        rw [Function.update_self, Function.update_self]
      · rw [Function.update_of_ne hie, Function.update_of_ne hie, h i hi]
    · rw [List.filter_cons_of_neg (by simpa using he), entrelazar, hsalidas, if_neg he, List.nil_append]
      refine ih fun i hi => ?_
      have hie : i ≠ e.1 := fun hie => he (hie ▸ hi)
      rw [h i hi]
      exact (Function.update_of_ne hie ..).symm

end Grupo

end Maquinas
