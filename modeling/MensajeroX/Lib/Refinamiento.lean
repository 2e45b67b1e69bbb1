import MensajeroX.Lib.Efectos

/-!
# Refinement by outcome

A program over concrete states `σ` seen through a relation `R` with abstract states `τ`. `Abstrae R x t r` says
what the program does from every concrete state of `t`: it ends as the abstract outcome `r` does, with the same
value or the same exception, in a concrete state of the abstract state of `r`.

* `Abstrae.pure`, `Abstrae.bind`, `Abstrae.bind_error` : the rules for sequences;
* `Abstrae.final` : the states in which the two end;
* `Abstrae.mapM_reads` : a loop that only reads;
* `Abstrae.forM` : a loop of updates, against the abstract loop `recorrer`;
* `recorrer_invariante` : **what a loop preserves**, from what each of its turns preserves.
-/

namespace Efectos

variable {ε σ τ α β : Type}

/-- Seen through `R`, the program takes `t` to the outcome `r`. -/
def Abstrae (R : τ → σ → Prop) (x : EStateM ε σ α) (t : τ) (r : EStateM.Result ε τ α) : Prop :=
  ∀ s, R t s →
    match r with
    | .ok a t' => ∃ s', R t' s' ∧ x.run s = .ok a s'
    | .error e t' => ∃ s', R t' s' ∧ x.run s = .error e s'

/-- A loop over abstract states that stops at the first exception. -/
def recorrer (g : τ → α → EStateM.Result ε τ PUnit) : List α → τ → EStateM.Result ε τ PUnit
  | [], t => .ok ⟨⟩ t
  | x :: l, t =>
    match g t x with
    | .ok _ t' => recorrer g l t'
    | .error e t' => .error e t'

theorem recorrer_invariante {p : τ → Prop} {g : τ → α → EStateM.Result ε τ PUnit} {l : List α}
    (h : ∀ x ∈ l, ∀ t, p t → p (final (g t x))) {t : τ} (ht : p t) : p (final (recorrer g l t)) := by
  induction l generalizing t with
  | nil => exact ht
  | cons x l ih =>
    have hx := h x (by simp) t ht
    rw [recorrer]
    cases hg : g t x with
    | error e t' =>
      rw [hg] at hx
      exact hx
    | ok a t' =>
      rw [hg] at hx
      exact ih (fun y hy => h y (by simp [hy])) hx

namespace Abstrae

variable {R : τ → σ → Prop} {t t' : τ}

theorem of_reads {x : EStateM ε σ α} {a : α} (h : ∀ s, R t s → x.run s = .ok a s) : Abstrae R x t (.ok a t) :=
  fun s hs => ⟨s, hs, h s hs⟩

theorem of_throws {x : EStateM ε σ α} {e : ε} (h : ∀ s, R t s → x.run s = .error e s) :
    Abstrae R x t (.error e t) :=
  fun s hs => ⟨s, hs, h s hs⟩

protected theorem pure (a : α) : Abstrae R (pure a : EStateM ε σ α) t (.ok a t) := of_reads fun _ _ => rfl

theorem bind {x : EStateM ε σ α} {f : α → EStateM ε σ β} {a : α} {r : EStateM.Result ε τ β}
    (hx : Abstrae R x t (.ok a t')) (hf : Abstrae R (f a) t' r) : Abstrae R (x >>= f) t r := by
  intro s hs
  obtain ⟨s', hs', hrun⟩ := hx s hs
  rw [bind_ok hrun]
  exact hf s' hs'

theorem bind_error {x : EStateM ε σ α} {f : α → EStateM ε σ β} {e : ε} (hx : Abstrae R x t (.error e t')) :
    Abstrae R (x >>= f) t (.error e t') := by
  intro s hs
  obtain ⟨s', hs', hrun⟩ := hx s hs
  exact ⟨s', hs', Efectos.bind_error hrun f⟩

/-- The program ends in a concrete state of the abstract end, whether it raises or not. -/
protected theorem final {x : EStateM ε σ α} {r : EStateM.Result ε τ α} (hx : Abstrae R x t r) {s : σ} (hs : R t s) :
    R (final r) (final (x.run s)) := by
  have hr := hx s hs
  cases r with
  | ok a t' =>
    obtain ⟨s', hs', hrun⟩ := hr
    rw [hrun]
    exact hs'
  | error e t' =>
    obtain ⟨s', hs', hrun⟩ := hr
    rw [hrun]
    exact hs'

theorem error_of_run {x : EStateM ε σ α} {r : EStateM.Result ε τ α} (hx : Abstrae R x t r) {s s' : σ} (hs : R t s)
    {e : ε} (hrun : x.run s = .error e s') : ∃ t', r = .error e t' := by
  have hr := hx s hs
  cases r with
  | ok a t' =>
    obtain ⟨s'', -, hok⟩ := hr
    rw [hrun] at hok
    cases hok
  | error e' t' =>
    obtain ⟨s'', -, herror⟩ := hr
    rw [hrun] at herror
    cases herror
    exact ⟨t', rfl⟩

theorem mapM_reads {f : α → EStateM ε σ β} {g : α → β} {l : List α}
    (h : ∀ x ∈ l, Abstrae R (f x) t (.ok (g x) t)) : Abstrae R (l.mapM f) t (.ok (l.map g) t) := by
  induction l with
  | nil => exact Abstrae.pure []
  | cons x l ih =>
    rw [List.mapM_cons]
    refine (h x (by simp)).bind ((ih fun y hy => h y (by simp [hy])).bind ?_)
    exact Abstrae.pure (g x :: l.map g)

/-- A loop of updates follows the abstract loop, from the states that every turn keeps within `p`. -/
protected theorem forM {p : τ → Prop} {f : α → EStateM ε σ PUnit} {g : τ → α → EStateM.Result ε τ PUnit} {l : List α}
    (h : ∀ x ∈ l, ∀ t, p t → Abstrae R (f x) t (g t x)) (hp : ∀ x t t', p t → g t x = .ok PUnit.unit t' → p t')
    (ht : p t) : Abstrae R (forM l f) t (recorrer g l t) := by
  induction l generalizing t with
  | nil => exact Abstrae.pure PUnit.unit
  | cons x l ih =>
    have hx := h x (by simp) t ht
    rw [List.forM_cons, recorrer]
    cases hg : g t x with
    | error e t' =>
      rw [hg] at hx
      exact hx.bind_error
    | ok a t' =>
      rw [hg] at hx
      exact hx.bind (ih (fun y hy => h y (by simp [hy])) (hp x t t' ht hg))

end Abstrae

end Efectos
