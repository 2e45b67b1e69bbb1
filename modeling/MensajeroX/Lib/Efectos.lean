import Mathlib

/-!
# Programs with a state and exceptions

`EStateM ε σ` is the monad of a program whose state survives an exception. The rules below run such a program one
operation at a time: an operation whose outcome on a state is known is replaced by that outcome.

* `bind_ok`, `bind_error` : one step of a sequence;
* `Lee` : a program that only reads, whatever its outcome;
* `Uniforme` : a program that only reads and has one outcome on a set of states;
* `run_mapM_reads`, `mapM_ofExcept` : loops that only read;
* `run_forM_updates`, `run_forM_total` : loops of updates;
* `mapM_eq_ok_iff`, `foldlM_bind_eq_ok_iff` : the outcome of a loop of pure computations;
* `mapM_range`, `foldlM_range` : a loop over the indices of a list.
-/

namespace Efectos
open MonadExcept (ofExcept)

variable {ε σ α β : Type}

/-- The state in which a program ends, whether or not it raises. -/
def final : EStateM.Result ε σ α → σ
  | .ok _ s => s
  | .error _ s => s

@[simp] theorem final_ok (a : α) (s : σ) : final (.ok a s : EStateM.Result ε σ α) = s := rfl

@[simp] theorem final_error (e : ε) (s : σ) : final (.error e s : EStateM.Result ε σ α) = s := rfl

def acaba : EStateM.Result ε σ α → Bool
  | .ok _ _ => true
  | .error _ _ => false

theorem acaba_iff {r : EStateM.Result ε σ α} : acaba r = true ↔ ∃ a s, r = .ok a s := by
  cases r with
  | ok a s => exact ⟨fun _ => ⟨a, s, rfl⟩, fun _ => rfl⟩
  | error e s => exact ⟨fun h => (by cases h), fun ⟨_, _, h⟩ => (by cases h)⟩

/-- What the program gives, if it ends without an exception. -/
def valor : EStateM.Result ε σ α → Option α
  | .ok a _ => some a
  | .error _ _ => none

theorem bind_ok {x : EStateM ε σ α} {s s' : σ} {a : α} (h : x.run s = .ok a s') (f : α → EStateM ε σ β) :
    (x >>= f).run s = (f a).run s' := by
  rw [EStateM.run_bind, h]

theorem bind_error {x : EStateM ε σ α} {s s' : σ} {e : ε} (h : x.run s = .error e s') (f : α → EStateM ε σ β) :
    (x >>= f).run s = .error e s' := by
  rw [EStateM.run_bind, h]

theorem run_bind_eq_ok {x : EStateM ε σ α} {f : α → EStateM ε σ β} {s s' : σ} {b : β}
    (h : (x >>= f).run s = .ok b s') : ∃ a t, x.run s = .ok a t ∧ (f a).run t = .ok b s' := by
  cases hx : x.run s with
  | ok a t => exact ⟨a, t, rfl, (bind_ok hx f).symm.trans h⟩
  | error e t =>
    rw [bind_error hx] at h
    cases h

def Lee (x : EStateM ε σ α) (s : σ) : Prop := final (x.run s) = s

/-- The outcome of a program that leaves the state as it was. -/
def resultado : Except ε α → σ → EStateM.Result ε σ α
  | .ok a, s => .ok a s
  | .error e, s => .error e s

/-- On the states of a set the program only reads, and its outcome is always the same. -/
def Uniforme (P : σ → Prop) (x : EStateM ε σ α) : Prop := ∃ r, ∀ s, P s → x.run s = resultado r s

namespace Uniforme
variable {P : σ → Prop}

theorem pure (a : α) : Uniforme P (Pure.pure a : EStateM ε σ α) := ⟨.ok a, fun _ _ => rfl⟩

theorem ofExcept (r : Except ε α) : Uniforme P (MonadExcept.ofExcept r : EStateM ε σ α) := by
  refine ⟨r, fun s _ => ?_⟩
  cases r <;> rfl

theorem bind {x : EStateM ε σ α} {f : α → EStateM ε σ β} (hx : Uniforme P x) (hf : ∀ a, Uniforme P (f a)) :
    Uniforme P (x >>= f) := by
  obtain ⟨r, hr⟩ := hx
  cases r with
  | ok a =>
    obtain ⟨r, hr'⟩ := hf a
    exact ⟨r, fun s hs => (bind_ok (hr s hs) f).trans (hr' s hs)⟩
  | error e => exact ⟨.error e, fun s hs => bind_error (hr s hs) f⟩

theorem mapM {f : α → EStateM ε σ β} (hf : ∀ a, Uniforme P (f a)) (l : List α) : Uniforme P (l.mapM f) := by
  induction l with
  | nil => exact pure []
  | cons x l ih =>
    rw [List.mapM_cons]
    exact (hf x).bind fun _ => ih.bind fun _ => pure _

theorem lee {x : EStateM ε σ α} (hx : Uniforme P x) {s : σ} (hs : P s) : Lee x s := by
  obtain ⟨r, hr⟩ := hx
  rw [Lee, hr s hs]
  cases r <;> rfl

theorem valor_eq {x : EStateM ε σ α} (hx : Uniforme P x) {s t : σ} (hs : P s) (ht : P t) :
    valor (x.run s) = valor (x.run t) := by
  obtain ⟨r, hr⟩ := hx
  rw [hr s hs, hr t ht]
  cases r <;> rfl

theorem run_of_valor {x : EStateM ε σ α} (hx : Uniforme P x) {s t : σ} (hs : P s) (ht : P t) {a : α}
    (h : valor (x.run s) = some a) : x.run t = .ok a t := by
  obtain ⟨r, hr⟩ := hx
  rw [hr s hs] at h
  rw [hr t ht]
  cases r with
  | ok b =>
    cases h
    rfl
  | error e => cases h

theorem run_of_valor_none {x : EStateM ε σ α} (hx : Uniforme P x) {s t : σ} (hs : P s) (ht : P t)
    (h : valor (x.run s) = none) : ∃ e, x.run t = .error e t := by
  obtain ⟨r, hr⟩ := hx
  rw [hr s hs] at h
  rw [hr t ht]
  cases r with
  | ok b => cases h
  | error e => exact ⟨e, rfl⟩

end Uniforme

theorem run_mapM_reads {f : α → EStateM ε σ β} {g : α → β} {s : σ} {l : List α}
    (h : ∀ x ∈ l, (f x).run s = .ok (g x) s) : (l.mapM f).run s = .ok (l.map g) s := by
  induction l with
  | nil => rfl
  | cons x l ih =>
    have htail := ih fun y hy => h y (by simp [hy])
    rw [List.mapM_cons, bind_ok (h x (by simp)), bind_ok htail]
    rfl

/-- A loop of pure computations is a pure computation; `g` translates the exceptions. -/
theorem mapM_ofExcept {ε' : Type} (g : ε' → ε) (f : α → Except ε' β) (l : List α) :
    (l.mapM fun x => (ofExcept ((f x).mapError g) : EStateM ε σ β)) = ofExcept ((l.mapM f).mapError g) := by
  induction l with
  | nil => rfl
  | cons x l ih =>
    rw [List.mapM_cons, List.mapM_cons, ih]
    cases f x with
    | error e => rfl
    | ok b => cases l.mapM f <;> rfl

theorem run_forM_updates {τ : Type} (inj : τ → σ) {f : α → EStateM ε σ PUnit} {g : τ → α → τ}
    (h : ∀ x t, (f x).run (inj t) = .ok ⟨⟩ (inj (g t x))) (l : List α) (t : τ) :
    (forM l f).run (inj t) = .ok ⟨⟩ (inj (l.foldl g t)) := by
  induction l generalizing t with
  | nil => rfl
  | cons x l ih =>
    rw [List.forM_cons, bind_ok (h x t), ih, List.foldl_cons]

theorem run_forM_total {R : σ → σ → Prop} (hrefl : ∀ s, R s s) (htrans : ∀ {s t u}, R s t → R t u → R s u)
    {f : α → EStateM ε σ PUnit} (h : ∀ x s, ∃ s', (f x).run s = .ok ⟨⟩ s' ∧ R s s') (l : List α) (s : σ) :
    ∃ s', (forM l f).run s = .ok ⟨⟩ s' ∧ R s s' := by
  induction l generalizing s with
  | nil => exact ⟨s, rfl, hrefl s⟩
  | cons x l ih =>
    obtain ⟨t, ht, hst⟩ := h x s
    obtain ⟨u, hu, htu⟩ := ih t
    refine ⟨u, ?_, htrans hst htu⟩
    rw [List.forM_cons, bind_ok ht, hu]

/-! ## Loops of pure computations -/

theorem bind_eq_ok_iff {x : Except ε α} {f : α → Except ε β} {b : β} :
    x >>= f = .ok b ↔ ∃ a, x = .ok a ∧ f a = .ok b := by
  cases x with
  | error e => exact ⟨fun h => (by cases h), fun ⟨_, h, _⟩ => (by cases h)⟩
  | ok a => exact ⟨fun h => ⟨a, rfl, h⟩, fun ⟨_, h, hb⟩ => by cases h; exact hb⟩

theorem mapM_eq_ok_iff {f : α → Except ε β} {l : List α} {r : List β} :
    l.mapM f = .ok r ↔ List.Forall₂ (fun x y => f x = .ok y) l r := by
  induction l generalizing r with
  | nil =>
    rw [List.mapM_nil, List.forall₂_nil_left_iff]
    exact ⟨fun h => by cases h; rfl, fun h => by rw [h]; rfl⟩
  | cons x l ih =>
    simp only [List.mapM_cons, List.forall₂_cons_left_iff, bind_eq_ok_iff, ih]
    constructor
    · rintro ⟨y, hy, r', hr', hcons⟩
      cases hcons
      exact ⟨y, r', hy, hr', rfl⟩
    · rintro ⟨y, r', hy, hr', rfl⟩
      exact ⟨y, hy, r', hr', rfl⟩

theorem exists_of_mem_mapM {f : α → Except ε β} {l : List α} {r : List β} (h : l.mapM f = .ok r) {y : β}
    (hy : y ∈ r) : ∃ x ∈ l, f x = .ok y := by
  rw [mapM_eq_ok_iff] at h
  induction h with
  | nil => exact absurd hy List.not_mem_nil
  | cons hx _ ih =>
    rcases List.mem_cons.mp hy with rfl | hy
    · exact ⟨_, List.mem_cons_self, hx⟩
    · obtain ⟨x, hx, hfx⟩ := ih hy
      exact ⟨x, List.mem_cons_of_mem _ hx, hfx⟩

theorem exists_mem_of_mapM {f : α → Except ε β} {l : List α} {r : List β} (h : l.mapM f = .ok r) {x : α}
    (hx : x ∈ l) : ∃ y ∈ r, f x = .ok y := by
  rw [mapM_eq_ok_iff] at h
  induction h with
  | nil => exact absurd hx List.not_mem_nil
  | cons hfx _ ih =>
    rcases List.mem_cons.mp hx with rfl | hx
    · exact ⟨_, List.mem_cons_self, hfx⟩
    · obtain ⟨y, hy, hfy⟩ := ih hx
      exact ⟨y, List.mem_cons_of_mem _ hy, hfy⟩

theorem exists_mapM_eq_ok_iff {f : α → Except ε β} {l : List α} :
    (∃ r, l.mapM f = .ok r) ↔ ∀ x ∈ l, ∃ y, f x = .ok y := by
  induction l with
  | nil => exact ⟨fun _ x hx => absurd hx List.not_mem_nil, fun _ => ⟨[], rfl⟩⟩
  | cons x l ih =>
    simp only [mapM_eq_ok_iff, List.forall₂_cons_left_iff, List.forall_mem_cons] at ih ⊢
    rw [← ih]
    constructor
    · rintro ⟨_, y, r, hy, hr, rfl⟩
      exact ⟨⟨y, hy⟩, r, hr⟩
    · rintro ⟨⟨y, hy⟩, r, hr⟩
      exact ⟨y :: r, y, r, hy, hr, rfl⟩

/-- A loop whose turns first compute and then update succeeds when the computations do, and the updates by their
results. -/
theorem foldlM_bind_eq_ok_iff {f : α → Except ε β} {g : σ → β → Except ε σ} {l : List α} {s s' : σ} :
    l.foldlM (fun s x => f x >>= g s) s = .ok s' ↔ ∃ r, l.mapM f = .ok r ∧ r.foldlM g s = .ok s' := by
  induction l generalizing s with
  | nil => exact ⟨fun h => ⟨[], rfl, h⟩, fun ⟨r, hr, h⟩ => by cases hr; exact h⟩
  | cons x l ih =>
    simp only [List.foldlM_cons, List.mapM_cons, bind_eq_ok_iff, ih]
    constructor
    · rintro ⟨s₁, ⟨y, hy, hs₁⟩, r, hr, h⟩
      exact ⟨y :: r, ⟨y, hy, r, hr, rfl⟩, by rw [List.foldlM_cons, hs₁]; exact h⟩
    · rintro ⟨_, ⟨y, hy, r, hr, hcons⟩, h⟩
      cases hcons
      obtain ⟨s₁, hs₁, h⟩ := bind_eq_ok_iff.mp h
      exact ⟨s₁, ⟨y, hy, hs₁⟩, r, hr, h⟩

/-! ## Loops over indices -/

theorem mapM_range (l : List α) {f : α → Except ε β} {g : Nat → Except ε β} (h : ∀ i x, l[i]? = some x → g i = f x) :
    (List.range l.length).mapM g = l.mapM f := by
  induction l using List.reverseRecOn with
  | nil => rfl
  | append_singleton l x ih =>
    have hx : g l.length = f x := h l.length x (by rw [List.getElem?_concat_length])
    rw [List.length_append, List.length_singleton, List.range_succ, List.mapM_append, List.mapM_append, ih ?_,
      List.mapM_cons, List.mapM_cons, List.mapM_nil, List.mapM_nil, hx]
    intro i y hy
    have hi : i < l.length := (List.getElem?_eq_some_iff.mp hy).1
    exact h i y (by rw [List.getElem?_append_left hi, hy])

/-- A loop of updates over the indices of a list is one over its elements. -/
theorem foldlM_range (l : List α) {f : σ → α → Except ε σ} {g : σ → Nat → Except ε σ}
    (h : ∀ i x, l[i]? = some x → ∀ s, g s i = f s x) (s : σ) : (List.range l.length).foldlM g s = l.foldlM f s := by
  induction l using List.reverseRecOn with
  | nil => rfl
  | append_singleton l x ih =>
    have hx : ∀ s, g s l.length = f s x := h l.length x (by rw [List.getElem?_concat_length])
    rw [List.length_append, List.length_singleton, List.range_succ, List.foldlM_append, List.foldlM_append, ih ?_]
    · simp only [List.foldlM_cons, List.foldlM_nil, hx]
    · intro i y hy
      have hi : i < l.length := (List.getElem?_eq_some_iff.mp hy).1
      exact h i y (by rw [List.getElem?_append_left hi, hy])

end Efectos
