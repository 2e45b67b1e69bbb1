import MensajeroX.Lib.Replica

/-!
# A growing set and its copy

A set of keys that only grows, and a copy of it: a list of rows, each with a key. A request carries keys of the copy; its
response is computed later and has a row for every key of the set, at that moment, that the request does not carry;
and the copy takes from a response the rows whose keys it does not have (`Replica.fusionar`). Requests and responses
are never withdrawn, so they may be late, out of order, repeated or lost.

* `Inv.paso`, `inv_of_alcanzable` : **what every step keeps, and every run**;
* `Inv.subset_fusionar` : after a merge the copy has every key that the set had when the response was computed.
-/

namespace Inventario
open Replica (fusionar)

variable {α κ : Type} [DecidableEq κ] (clave : α → κ)

/-- A response, with the set from which it was computed. -/
structure Respuesta (α κ : Type) where
  conjunto : Set κ
  filas : List α

structure Estado (α κ : Type) where
  conjunto : Set κ := ∅
  copia : List α := []
  pedidos : List (List κ) := []
  respuestas : List (Respuesta α κ) := []

/-- The steps of the set, of the copy and of the network. A request that is made while a merge is under way carries the
keys of the rows that are there, so a beginning of the copy. -/
inductive Paso : Estado α κ → Estado α κ → Prop
  | crecer {s : Estado α κ} {conjunto : Set κ} (h : s.conjunto ⊆ conjunto) : Paso s { s with conjunto := conjunto }
  | pedir {s : Estado α κ} {claves : List κ} (h : claves <+: s.copia.map clave) :
    Paso s { s with pedidos := claves :: s.pedidos }
  | responder {s : Estado α κ} {claves : List κ} {filas : List α} (h : claves ∈ s.pedidos)
      (hnodup : (filas.map clave).Nodup) (hfilas : ∀ k, k ∈ filas.map clave ↔ k ∈ s.conjunto ∧ k ∉ claves) :
    Paso s { s with respuestas := ⟨s.conjunto, filas⟩ :: s.respuestas }
  | recibir {s : Estado α κ} {r : Respuesta α κ} (h : r ∈ s.respuestas) :
    Paso s { s with copia := fusionar clave s.copia r.filas }

def Alcanzable (s : Estado α κ) : Prop := Relation.ReflTransGen (Paso clave) {} s

/-! ## Merging -/

section Fusionar
variable {clave} {copia filas : List α}

theorem mem_map_fusionar {k : κ} :
    k ∈ (fusionar clave copia filas).map clave ↔ k ∈ copia.map clave ∨ k ∈ filas.map clave := by
  rw [fusionar, List.map_append, List.mem_append]
  constructor
  · rintro (h | h)
    · exact .inl h
    · exact .inr (List.Sublist.subset (List.filter_sublist.map clave) h)
  · rintro (h | h)
    · exact .inl h
    · obtain ⟨m, hm, rfl⟩ := List.mem_map.mp h
      by_cases hin : clave m ∈ copia.map clave
      · exact .inl hin
      · exact .inr (List.mem_map_of_mem (List.mem_filter.mpr ⟨hm, decide_eq_true hin⟩))

theorem nodup_map_fusionar (hcopia : (copia.map clave).Nodup) (hfilas : (filas.map clave).Nodup) :
    ((fusionar clave copia filas).map clave).Nodup := by
  rw [fusionar, List.map_append]
  refine hcopia.append (hfilas.sublist (List.filter_sublist.map clave)) ?_
  intro k hk hnueva
  obtain ⟨m, hm, rfl⟩ := List.mem_map.mp hnueva
  exact of_decide_eq_true (List.mem_filter.mp hm).2 hk

end Fusionar

/-! ## The invariant -/

/-- The copy has no key twice and only keys of the set, a request carries keys of the copy, and a response brings the
keys of its set that the copy does not have. -/
structure Inv (s : Estado α κ) : Prop where
  nodup : (s.copia.map clave).Nodup
  copia : ∀ k ∈ s.copia.map clave, k ∈ s.conjunto
  pedidos : ∀ claves ∈ s.pedidos, claves ⊆ s.copia.map clave
  filas : ∀ r ∈ s.respuestas, (r.filas.map clave).Nodup ∧ ∀ k ∈ r.filas.map clave, k ∈ s.conjunto
  completas : ∀ r ∈ s.respuestas, ∀ k ∈ r.conjunto, k ∈ s.copia.map clave ∨ k ∈ r.filas.map clave

variable {clave} {s s' : Estado α κ}

omit [DecidableEq κ] in
theorem inv_vacio : Inv clave ({} : Estado α κ) where
  nodup := List.nodup_nil
  copia := fun _ h => by cases h
  pedidos := fun _ h => by cases h
  filas := fun _ h => by cases h
  completas := fun _ h => by cases h

/-- **Every step keeps the invariant.** -/
theorem Inv.paso (h : Inv clave s) (hp : Paso clave s s') : Inv clave s' := by
  cases hp with
  | crecer hsub =>
    refine ⟨h.nodup, fun k hk => hsub (h.copia k hk), h.pedidos, fun r hr => ?_, h.completas⟩
    exact ⟨(h.filas r hr).1, fun k hk => hsub ((h.filas r hr).2 k hk)⟩
  | pedir hpre =>
    refine ⟨h.nodup, h.copia, ?_, h.filas, h.completas⟩
    rintro claves (_ | ⟨_, hmem⟩)
    · exact hpre.subset
    · exact h.pedidos claves hmem
  | @responder claves filas hmem hnodup hfilas =>
    refine ⟨h.nodup, h.copia, h.pedidos, ?_, ?_⟩
    · rintro r (_ | ⟨_, hr⟩)
      · exact ⟨hnodup, fun k hk => ((hfilas k).mp hk).1⟩
      · exact h.filas r hr
    · rintro r (_ | ⟨_, hr⟩)
      · -- a key of the set is one that the request carried, which the copy has, or it is in the response
        intro k hk
        by_cases hin : k ∈ claves
        · exact .inl (h.pedidos claves hmem hin)
        · exact .inr ((hfilas k).mpr ⟨hk, hin⟩)
      · exact h.completas r hr
  | recibir hr =>
    refine ⟨nodup_map_fusionar h.nodup (h.filas _ hr).1, ?_, ?_, h.filas, ?_⟩
    · intro k hk
      exact (mem_map_fusionar.mp hk).elim (h.copia k) ((h.filas _ hr).2 k)
    · exact fun claves hmem k hk => mem_map_fusionar.mpr (.inl (h.pedidos claves hmem hk))
    · exact fun r' hr' k hk => (h.completas r' hr' k hk).imp_left fun hin => mem_map_fusionar.mpr (.inl hin)

/-- **Every run keeps the invariant.** -/
theorem inv_of_alcanzable (h : Alcanzable clave s) : Inv clave s := by
  induction h with
  | refl => exact inv_vacio
  | tail _ hp ih => exact ih.paso hp

/-- After a merge the copy has every key that the set had when the response was computed. -/
theorem Inv.subset_fusionar (h : Inv clave s) {r : Respuesta α κ} (hr : r ∈ s.respuestas) :
    ∀ k ∈ r.conjunto, k ∈ (fusionar clave s.copia r.filas).map clave :=
  fun k hk => mem_map_fusionar.mpr (h.completas r hr k hk)

end Inventario
