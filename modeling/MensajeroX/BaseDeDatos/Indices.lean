import MensajeroX.BaseDeDatos

/-!
# The indices of the store

The index of a user is a text that starts with the marker of missing data, which is what is read of a missing index,
and goes on with the ids that were entered. So the marker is always the first entry that is read from it.

* `split_textoIndice` : what is read from an index;
* `Indices.foldl_indexado` : **a conversation is entered once in the index of each of its users**.
-/

namespace MensajeroX
open Bytes Separated BaseDeDatos

/-! ## Keys -/

theorem usuario_ne_conversacion (k k' : Cadena) : claveBaseUsuario ++ k ≠ claveBaseConversacion ++ k' :=
  append_ne_append 0 (by decide) (by decide) (by decide) k k'

theorem usuario_ne_indice (k k' : Cadena) : claveBaseUsuario ++ k ≠ claveBaseConversacionesPorUsuario ++ k' :=
  append_ne_append 0 (by decide) (by decide) (by decide) k k'

theorem conversacion_ne_indice (k k' : Cadena) :
    claveBaseConversacion ++ k ≠ claveBaseConversacionesPorUsuario ++ k' :=
  append_ne_append 12 (by decide) (by decide) (by decide) k k'

/-! ## Indices -/

/-- An id that can stand in an index. -/
def Entrada (k : Cadena) : Prop := k ≠ [] ∧ SeparadorListaBD ∉ k

instance (k : Cadena) : Decidable (Entrada k) := by unfold Entrada; infer_instance

def textoIndice (ids : List Cadena) : Cadena := joinLoop SeparadorListaBD (keyDatoNoEncontrado :: ids)

theorem split_textoIndice {ids : List Cadena} (h : ∀ k ∈ ids, Entrada k) :
    StringUtil.split (textoIndice ids) SeparadorListaBD = keyDatoNoEncontrado :: ids := by
  apply split_joinLoop
  · rw [List.forall_mem_cons]
    exact ⟨by decide, fun k hk => (h k hk).2⟩
  · rw [List.forall_mem_cons]
    exact ⟨by decide, fun k hk => (h k hk).1⟩

theorem textoIndice_append {ids : List Cadena} (h : ∀ k ∈ ids, Entrada k) (k : Cadena) :
    textoIndice (ids ++ [k]) = textoIndice ids ++ SeparadorListaBD :: k := by
  rw [textoIndice, ← List.cons_append]
  refine joinLoop_append_singleton _ ?_ (List.cons_ne_nil _ _) k
  rw [List.forall_mem_cons]
  exact ⟨by decide, fun k hk => (h k hk).1⟩

def anotar (k : Cadena) (ids : List Cadena) : List Cadena :=
  if k = keyDatoNoEncontrado ∨ k ∈ ids then ids else ids ++ [k]

theorem entrada_textoIndice {ids : List Cadena} (h : ∀ k ∈ ids, Entrada k) (k : Cadena) :
    entrada k (textoIndice ids) = textoIndice (anotar k ids) := by
  rw [entrada, split_textoIndice h, anotar]
  simp only [List.mem_cons]
  split
  · rfl
  · rw [textoIndice_append h]

theorem anotar_entrada {k : Cadena} (hk : Entrada k) {ids : List Cadena} (h : ∀ i ∈ ids, Entrada i) :
    ∀ i ∈ anotar k ids, Entrada i := by
  unfold anotar
  split
  · exact h
  · intro i hi
    rcases List.mem_append.mp hi with hi | hi
    · exact h i hi
    · rw [List.mem_singleton.mp hi]
      exact hk

theorem anotar_anotar (k : Cadena) (ids : List Cadena) : anotar k (anotar k ids) = anotar k ids := by
  by_cases h : k = keyDatoNoEncontrado ∨ k ∈ ids
  · rw [anotar, if_pos (by rw [anotar, if_pos h]; exact h)]
  · have : anotar k ids = ids ++ [k] := by rw [anotar, if_neg h]
    rw [this, anotar, if_pos (.inr (by simp))]

theorem mem_anotar {k i : Cadena} {ids : List Cadena} :
    i ∈ anotar k ids ↔ i ∈ ids ∨ (i = k ∧ k ≠ keyDatoNoEncontrado) := by
  unfold anotar
  by_cases hk : k = keyDatoNoEncontrado
  · simp [hk]
  · by_cases hin : k ∈ ids
    · rw [if_pos (.inr hin)]
      exact ⟨.inl, fun h => h.elim id fun h => h.1 ▸ hin⟩
    · rw [if_neg (not_or.mpr ⟨hk, hin⟩)]
      simp [hk]

theorem nodup_anotar {k : Cadena} {ids : List Cadena} (h : ids.Nodup) : (anotar k ids).Nodup := by
  unfold anotar
  split
  · exact h
  · rename_i hno
    rw [← List.concat_eq_append]
    exact h.concat (not_or.mp hno).2

def Indices (d : Cadena → Option Cadena) (f : Cadena → List Cadena) : Prop :=
  ∀ u, (d (claveBaseConversacionesPorUsuario ++ u)).getD keyDatoNoEncontrado = textoIndice (f u)

/-- The loop of `setConversacion` enters the id in the index of every user of the list. -/
theorem Indices.foldl_indexado {k : Cadena} (hk : Entrada k) (us : List Cadena)
    {d : Cadena → Option Cadena} {f : Cadena → List Cadena} (hf : ∀ u, ∀ i ∈ f u, Entrada i) (h : Indices d f) :
    Indices (us.foldl (indexado k) d) fun u => if u ∈ us then anotar k (f u) else f u := by
  induction us generalizing d f with
  | nil => simpa using h
  | cons v us ih =>
    have hstep : Indices (indexado k d v) (Function.update f v (anotar k (f v))) := by
      intro u
      by_cases hu : u = v
      · subst hu
        rw [indexado, Function.update_self, Function.update_self, h u, entrada_textoIndice (hf u)]
        rfl
      · have hkey : claveBaseConversacionesPorUsuario ++ u ≠ claveBaseConversacionesPorUsuario ++ v :=
          fun heq => hu (List.append_cancel_left heq)
        rw [indexado, Function.update_of_ne hkey, Function.update_of_ne hu]
        exact h u
    have hf' : ∀ u, ∀ i ∈ Function.update f v (anotar k (f v)) u, Entrada i := by
      intro u
      by_cases hu : u = v
      · subst hu
        rw [Function.update_self]
        exact anotar_entrada hk (hf u)
      · rw [Function.update_of_ne hu]
        exact hf u
    have htail := ih hf' hstep
    have heq : (fun u => if u ∈ us then anotar k (Function.update f v (anotar k (f v)) u)
        else Function.update f v (anotar k (f v)) u) = fun u => if u ∈ v :: us then anotar k (f u) else f u := by
      funext u
      by_cases hu : u = v
      · subst hu
        simp [anotar_anotar]
      · simp [hu]
    rw [heq] at htail
    exact htail

theorem foldl_indexado_of_ne (k : Cadena) (us : List Cadena) (d : Cadena → Option Cadena) {clave : Cadena}
    (h : ∀ u, clave ≠ claveBaseConversacionesPorUsuario ++ u) : us.foldl (indexado k) d clave = d clave := by
  induction us generalizing d with
  | nil => rfl
  | cons v us ih => rw [List.foldl_cons, ih, indexado, Function.update_of_ne (h v)]

end MensajeroX
