import Mathlib

/-!
# A log and its copy

A log that grows at its end, and a copy of it that is brought up to date by requests and responses. A request names an
entry of the copy, any of them, or none when the copy is empty; the response has the entries that follow it in the log
at the moment it is computed; and the copy takes from a response the entries whose keys it does not have. Requests
and responses are never withdrawn, so they may be late, out of order, repeated or lost.

* `fusionar_foldl` : a loop of insertions merges;
* `fusionar_take` : merging a piece of the log that starts within the copy;
* `Inv.paso`, `inv_of_alcanzable` : **what every step keeps, and every run**;
* `prefijo_fusionar` : after a merge the copy has everything that the log had when the response was computed.
-/

namespace Replica

variable {α κ : Type} [DecidableEq κ] (clave : α → κ)

/-- The entries after the first one with the key; without a key, all of them. -/
def desde : Option κ → List α → List α
  | none, log => log
  | some c, log => (log.dropWhile fun m => clave m ≠ c).tail

/-- The copy, with the entries whose keys it does not have. -/
def fusionar (copia nuevas : List α) : List α := copia ++ nuevas.filter fun m => clave m ∉ copia.map clave

/-- A response has the length that the log had when it was computed. -/
structure Respuesta (α : Type) where
  largo : Nat
  entradas : List α

structure Estado (α κ : Type) where
  log : List α := []
  copia : List α := []
  pedidos : List (Option κ) := []
  respuestas : List (Respuesta α) := []

/-- The steps of the log, of the copy and of the network. -/
inductive Paso : Estado α κ → Estado α κ → Prop
  | agregar {s : Estado α κ} {m : α} (h : clave m ∉ s.log.map clave) : Paso s { s with log := s.log ++ [m] }
  | pedirTodo {s : Estado α κ} (h : s.copia = []) : Paso s { s with pedidos := none :: s.pedidos }
  | pedir {s : Estado α κ} {m : α} (h : m ∈ s.copia) : Paso s { s with pedidos := some (clave m) :: s.pedidos }
  | responder {s : Estado α κ} {c : Option κ} (h : c ∈ s.pedidos) :
    Paso s { s with respuestas := ⟨s.log.length, desde clave c s.log⟩ :: s.respuestas }
  | recibir {s : Estado α κ} {r : Respuesta α} (h : r ∈ s.respuestas) :
    Paso s { s with copia := fusionar clave s.copia r.entradas }

def Alcanzable (s : Estado α κ) : Prop := Relation.ReflTransGen (Paso clave) {} s

/-! ## Merging by insertion -/

/-- A loop that inserts the entries whose keys were not in the table before it is a merge. -/
theorem fusionar_foldl {δ : Type} (tabla : δ → List α) {insertar : δ → α → δ} {nuevas : List α}
    (h : ∀ t, ∀ m ∈ nuevas, tabla (insertar t m) = tabla t ++ [m]) (t : δ) :
    tabla (nuevas.foldl (fun t' m => if (tabla t).any (clave · = clave m) then t' else insertar t' m) t) =
      fusionar clave (tabla t) nuevas := by
  -- the keys are those of the table before the loop, while its rows grow
  have hlazo : ∀ (antes : List α) (t : δ),
      tabla (nuevas.foldl (fun t' m => if antes.any (clave · = clave m) then t' else insertar t' m) t) =
        tabla t ++ nuevas.filter fun m => clave m ∉ antes.map clave := by
    intro antes
    induction nuevas with
    | nil => exact fun t => (List.append_nil _).symm
    | cons m nuevas ih =>
      intro t
      rw [List.foldl_cons, ih fun t m' hm' => h t m' (List.mem_cons_of_mem _ hm')]
      have hany : antes.any (clave · = clave m) = true ↔ clave m ∈ antes.map clave := by simp
      by_cases hm : clave m ∈ antes.map clave
      · rw [if_pos (hany.mpr hm), List.filter_cons_of_neg (by simpa using hm)]
      · rw [if_neg (mt hany.mp hm), List.filter_cons_of_pos (by simpa using hm), h t m List.mem_cons_self,
          List.append_assoc, List.singleton_append]
  exact hlazo (tabla t) t

/-! ## Positions -/

/-- A request asks for what follows the first `j` entries. -/
def Apunta (log : List α) (c : Option κ) (j : Nat) : Prop :=
  (c = none ∧ j = 0) ∨ ∃ pre m post, log = pre ++ m :: post ∧ c = some (clave m) ∧ j = pre.length + 1

variable {clave}

omit [DecidableEq κ] in
theorem Apunta.append {log : List α} {c : Option κ} {j : Nat} (h : Apunta clave log c j) (m : α) :
    Apunta clave (log ++ [m]) c j := by
  rcases h with h | ⟨pre, m', post, rfl, rfl, rfl⟩
  · exact .inl h
  · exact .inr ⟨pre, m', post ++ [m], by simp, rfl, rfl⟩

/-- With distinct keys, the entries after a key are those after its position. -/
theorem desde_eq_drop {log : List α} (hlog : (log.map clave).Nodup) {c : Option κ} {j : Nat}
    (h : Apunta clave log c j) : desde clave c log = log.drop j := by
  rcases h with ⟨rfl, rfl⟩ | ⟨pre, m, post, rfl, rfl, rfl⟩
  · rfl
  · have hpre : ∀ x ∈ pre, clave x ≠ clave m := by
      intro x hx heq
      rw [List.map_append, List.nodup_append] at hlog
      exact hlog.2.2 _ (List.mem_map_of_mem hx) _ (List.mem_map_of_mem List.mem_cons_self) heq
    rw [desde, List.dropWhile_append_of_pos (by simpa using hpre), List.dropWhile_cons_of_neg (by simp), List.tail_cons,
      List.drop_append]
    simp

/-! ## Merging -/

theorem filter_of_subset {copia nuevas : List α} (h : nuevas ⊆ copia) :
    (nuevas.filter fun m => clave m ∉ copia.map clave) = [] := by
  rw [List.filter_eq_nil_iff]
  intro m hm
  simpa using ⟨m, h hm, rfl⟩

theorem filter_of_disjoint {copia nuevas : List α} (h : ((copia ++ nuevas).map clave).Nodup) :
    (nuevas.filter fun m => clave m ∉ copia.map clave) = nuevas := by
  rw [List.map_append, List.nodup_append] at h
  rw [List.filter_eq_self]
  intro m hm
  simpa using fun x hx heq => h.2.2 _ (List.mem_map_of_mem hx) _ (List.mem_map_of_mem hm) heq

/-- **Merging a piece of the log** that starts within the copy makes the copy at least as long as the piece. -/
theorem fusionar_take {log : List α} (hlog : (log.map clave).Nodup) {t n j : Nat} (ht : t ≤ log.length)
    (hj : j ≤ t) : fusionar clave (log.take t) ((log.take n).drop j) = log.take (max t n) := by
  unfold fusionar
  rcases Nat.le_total n t with hnt | htn
  · have hsub : (log.take n).drop j ⊆ log.take t :=
      List.Subset.trans (List.drop_subset _ _) (List.take_subset_take_left log hnt)
    rw [filter_of_subset hsub, List.append_nil, Nat.max_eq_left hnt]
  · -- the piece overlaps the copy and goes on after it
    have hpartes : log.take n = log.take t ++ (log.take n).drop t := by
      have htake : log.take t = (log.take n).take t := by rw [List.take_take, Nat.min_eq_left htn]
      rw [htake, List.take_append_drop]
    have hnodup : ((log.take t ++ (log.take n).drop t).map clave).Nodup := by
      rw [← hpartes]
      exact hlog.sublist ((List.take_sublist n log).map clave)
    have hresto : (log.take n).drop j = (log.take t).drop j ++ (log.take n).drop t := by
      conv_lhs => rw [hpartes]
      rw [List.drop_append_of_le_length (by rw [List.length_take]; omega)]
    rw [hresto, List.filter_append, filter_of_subset (List.drop_subset _ _), filter_of_disjoint hnodup, List.nil_append,
      ← hpartes, Nat.max_eq_right htn]

/-! ## Runs -/

/-- What holds in every state of a run. -/
structure Inv (clave : α → κ) (s : Estado α κ) : Prop where
  distintas : (s.log.map clave).Nodup
  copia : s.copia <+: s.log
  pedidos : ∀ c ∈ s.pedidos, ∃ j ≤ s.copia.length, Apunta clave s.log c j
  respuestas : ∀ r ∈ s.respuestas, r.largo ≤ s.log.length ∧
    ∃ j ≤ s.copia.length, r.entradas = (s.log.take r.largo).drop j

omit [DecidableEq κ] in
theorem inv_inicial : Inv clave {} where
  distintas := List.nodup_nil
  copia := List.nil_prefix
  pedidos := fun _ h => by cases h
  respuestas := fun _ h => by cases h

namespace Inv
variable {s s' : Estado α κ} (h : Inv clave s)
include h

omit [DecidableEq κ] in
theorem copia_eq : s.copia = s.log.take s.copia.length := List.prefix_iff_eq_take.mp h.copia

theorem fusionar_eq {r : Respuesta α} (hr : r ∈ s.respuestas) :
    fusionar clave s.copia r.entradas = s.log.take (max s.copia.length r.largo) := by
  obtain ⟨-, j, hj, hentradas⟩ := h.respuestas r hr
  rw [hentradas]
  conv_lhs => rw [h.copia_eq]
  exact fusionar_take h.distintas h.copia.length_le hj

/-- **What every step keeps.** -/
theorem paso (hp : Paso clave s s') : Inv clave s' := by
  cases hp with
  | agregar hm =>
    rename_i m
    refine ⟨?_, h.copia.trans (List.prefix_append _ _), fun c hc => ?_, fun r hr => ?_⟩
    · rw [List.map_append, List.map_singleton, List.nodup_append]
      refine ⟨h.distintas, List.nodup_singleton _, ?_⟩
      rintro a ha b hb rfl
      exact hm (List.mem_singleton.mp hb ▸ ha)
    · obtain ⟨j, hj, hapunta⟩ := h.pedidos c hc
      exact ⟨j, hj, hapunta.append m⟩
    · obtain ⟨hlargo, j, hj, hentradas⟩ := h.respuestas r hr
      refine ⟨by rw [List.length_append]; omega, j, hj, ?_⟩
      rw [List.take_append_of_le_length hlargo, hentradas]
  | pedirTodo hvacia =>
    refine ⟨h.distintas, h.copia, fun c hc => ?_, h.respuestas⟩
    rcases List.mem_cons.mp hc with rfl | hc
    · exact ⟨0, Nat.zero_le _, .inl ⟨rfl, rfl⟩⟩
    · exact h.pedidos c hc
  | pedir hm =>
    refine ⟨h.distintas, h.copia, fun c hc => ?_, h.respuestas⟩
    rcases List.mem_cons.mp hc with rfl | hc
    · obtain ⟨pre, post, hcopia⟩ := List.append_of_mem hm
      obtain ⟨resto, hlog⟩ := h.copia
      refine ⟨pre.length + 1, ?_, .inr ⟨pre, _, post ++ resto, ?_, rfl, rfl⟩⟩
      · rw [hcopia, List.length_append, List.length_cons]
        omega
      · rw [← hlog, hcopia, List.append_assoc, List.cons_append]
    · exact h.pedidos c hc
  | responder hc =>
    refine ⟨h.distintas, h.copia, h.pedidos, fun r hr => ?_⟩
    rcases List.mem_cons.mp hr with rfl | hr
    · obtain ⟨j, hj, hapunta⟩ := h.pedidos _ hc
      refine ⟨Nat.le_refl _, j, hj, ?_⟩
      rw [desde_eq_drop h.distintas hapunta, List.take_length]
    · exact h.respuestas r hr
  | recibir hr =>
    rename_i r₀
    have hlargo : s.copia.length ≤ (fusionar clave s.copia r₀.entradas).length := by
      rw [fusionar, List.length_append]
      omega
    refine ⟨h.distintas, ?_, fun c hc => ?_, fun r hr => ?_⟩
    · rw [h.fusionar_eq hr]
      exact List.take_prefix _ _
    · obtain ⟨j, hj, hapunta⟩ := h.pedidos c hc
      exact ⟨j, hj.trans hlargo, hapunta⟩
    · obtain ⟨hn, j, hj, hentradas⟩ := h.respuestas r hr
      exact ⟨hn, j, hj.trans hlargo, hentradas⟩

/-- After a merge the copy has everything that the log had when the response was computed. -/
theorem prefijo_fusionar {r : Respuesta α} (hr : r ∈ s.respuestas) :
    s.log.take r.largo <+: fusionar clave s.copia r.entradas := by
  rw [h.fusionar_eq hr]
  exact List.take_prefix_take_left (Nat.le_max_right _ _)

end Inv

/-- **What every run keeps.** -/
theorem inv_of_alcanzable {s : Estado α κ} (h : Alcanzable clave s) : Inv clave s := by
  induction h with
  | refl => exact inv_inicial
  | tail _ hp ih => exact ih.paso hp

end Replica
