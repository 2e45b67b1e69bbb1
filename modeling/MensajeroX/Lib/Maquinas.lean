import Mathlib

/-!
# Machines that read and write

A machine takes one input at a time and writes a list of outputs. Many machines of one kind, side by side, read an
interleaving of their inputs; each input says whose it is.

* `correr_append` : a run in two parts;
* `correr_invariante` : what every step keeps, and what it says of the outputs, holds of a run;
* `propios_entrelazar` : **in any interleaving each machine runs on its own inputs** and writes what it writes alone.
-/

namespace Maquinas

variable {σ ε ω : Type} (paso : σ → ε → σ × List ω)

/-- A run over a list of inputs: the last state and all the outputs. -/
def correr : σ → List ε → σ × List ω
  | s, [] => (s, [])
  | s, e :: es =>
    let r := paso s e
    let r' := correr r.1 es
    (r'.1, r.2 ++ r'.2)

variable {paso}

theorem correr_append (s : σ) (es es' : List ε) :
    correr paso s (es ++ es') =
      ((correr paso (correr paso s es).1 es').1, (correr paso s es).2 ++ (correr paso (correr paso s es).1 es').2) := by
  induction es generalizing s with
  | nil => rfl
  | cons e es ih =>
    rw [List.cons_append, correr, ih, correr]
    simp only [List.append_assoc]

/-- What every step keeps, and what it says of the outputs, holds of a run. -/
theorem correr_invariante {I : σ → Prop} {Q : ω → Prop}
    (hpaso : ∀ s e, I s → I (paso s e).1 ∧ ∀ o ∈ (paso s e).2, Q o) {s : σ} (hs : I s) (es : List ε) :
    I (correr paso s es).1 ∧ ∀ o ∈ (correr paso s es).2, Q o := by
  induction es generalizing s with
  | nil => exact ⟨hs, by simp [correr]⟩
  | cons e es ih =>
    obtain ⟨hinv, hout⟩ := hpaso s e hs
    obtain ⟨hinv', hout'⟩ := ih hinv
    refine ⟨hinv', fun o ho => ?_⟩
    rw [correr, List.mem_append] at ho
    exact ho.elim (hout o) (hout' o)

/-! ## Interleavings -/

section Entrelazar
variable {ι : Type} [DecidableEq ι]

def propios {α : Type} (i : ι) (es : List (ι × α)) : List α := (es.filter fun e => e.1 = i).map Prod.snd

@[simp] theorem propios_nil {α : Type} (i : ι) : propios i ([] : List (ι × α)) = [] := rfl

theorem propios_append {α : Type} (i : ι) (es es' : List (ι × α)) :
    propios i (es ++ es') = propios i es ++ propios i es' := by
  rw [propios, List.filter_append, List.map_append, propios, propios]

theorem propios_cons_self {α : Type} (i : ι) (x : α) (es : List (ι × α)) :
    propios i ((i, x) :: es) = x :: propios i es := by
  simp [propios]

theorem propios_cons_ne {α : Type} {i j : ι} (h : j ≠ i) (x : α) (es : List (ι × α)) :
    propios i ((j, x) :: es) = propios i es := by
  simp [propios, h]

theorem propios_map_self {α : Type} (i : ι) (xs : List α) : propios i (xs.map fun x => (i, x)) = xs := by
  induction xs with
  | nil => rfl
  | cons x xs ih => rw [List.map_cons, propios_cons_self, ih]

theorem propios_map_ne {α : Type} {i j : ι} (h : j ≠ i) (xs : List α) : propios i (xs.map fun x => (j, x)) = [] := by
  induction xs with
  | nil => rfl
  | cons x xs ih => rw [List.map_cons, propios_cons_ne h, ih]

theorem mem_propios {α : Type} {i : ι} {x : α} {es : List (ι × α)} (h : (i, x) ∈ es) : x ∈ propios i es := by
  rw [propios, List.mem_map]
  exact ⟨(i, x), List.mem_filter.mpr ⟨h, by simp⟩, rfl⟩

theorem propios_prefijo {α : Type} {es es' : List (ι × α)} (h : es <+: es') (i : ι) : propios i es <+: propios i es' :=
  (h.filter _).map _

variable (paso) in
/-- One machine of a family takes a step; its outputs say whose they are. -/
def entrelazar (ss : ι → σ) (e : ι × ε) : (ι → σ) × List (ι × ω) :=
  (Function.update ss e.1 (paso (ss e.1) e.2).1, (paso (ss e.1) e.2).2.map fun o => (e.1, o))

/-- **In any interleaving each machine runs on its own inputs.** -/
theorem propios_entrelazar (ss : ι → σ) (es : List (ι × ε)) (i : ι) :
    (correr (entrelazar paso) ss es).1 i = (correr paso (ss i) (propios i es)).1 ∧
      propios i (correr (entrelazar paso) ss es).2 = (correr paso (ss i) (propios i es)).2 := by
  induction es generalizing ss with
  | nil => exact ⟨rfl, rfl⟩
  | cons e es ih =>
    obtain ⟨j, x⟩ := e
    obtain ⟨hstate, hout⟩ := ih (entrelazar paso ss (j, x)).1
    rw [correr]
    dsimp only
    rw [hstate, propios_append, hout]
    by_cases hj : j = i
    · subst hj
      rw [propios_cons_self, correr, entrelazar, propios_map_self]
      dsimp only
      rw [Function.update_self]
      exact ⟨rfl, rfl⟩
    · rw [propios_cons_ne hj, entrelazar, propios_map_ne hj]
      dsimp only
      rw [Function.update_of_ne (Ne.symm hj)]
      exact ⟨rfl, rfl⟩

end Entrelazar

end Maquinas
