import MensajeroX.Utilidades.Md5.Maquina

/-!
# Hashing a text in parts

An object that is fed a text in parts is in the same state as one that is fed the text at once, as far as its next
steps go: the stale bytes of the buffer may differ.

* `foldlM_update` : the parts of a text, one after the other;
* `update_por_trozos` : two parts against both at once, and the digest of any parts.
-/

namespace MensajeroX
open Bytes

namespace MD5.Maquina

/-- The usage of the class: `update` for each part, `finalize` and `hexdigest`. -/
def resumir (m : MD5) (trozos : List Cadena) : Option Cadena := do
  let m ← trozos.foldlM (fun m trozo => update m trozo trozo.length.toUInt32) m
  let m ← finalize m
  pure m.hexdigest

section
variable (m : Objeto)

theorem update_length {input : Cadena} (h : input.length < 2 ^ 32 - 64) :
    update m.toMD5 input input.length.toUInt32 = some (m.update input (h.trans (by decide))).toMD5 := by
  have hnat := toNat_length (h.trans (by decide))
  rw [update_eq m hnat.le (hnat.trans_lt h), hnat, List.take_length]
  rfl

theorem foldlM_update {trozos : List Cadena} (h : trozos.flatten.length < 2 ^ 32 - 64) :
    ∃ m' : Objeto, trozos.foldlM (fun m trozo => update m trozo trozo.length.toUInt32) m.toMD5 = some m'.toMD5 ∧
      m'.Equivale (m.update trozos.flatten (h.trans (by decide))) := by
  induction trozos generalizing m with
  | nil => exact ⟨m, rfl, m.equivale_update_nil⟩
  | cons trozo trozos ih =>
    have hlength : (trozo :: trozos).flatten.length = trozo.length + trozos.flatten.length := by
      rw [List.flatten_cons, List.length_append]
    obtain ⟨m', hrun, hequivale⟩ := ih (m.update trozo (by omega)) (by omega)
    refine ⟨m', ?_, ?_⟩
    · rw [List.foldlM_cons, update_length m (by omega)]
      exact hrun
    · exact hequivale.trans (m.update_update_equivale _ _ _)

theorem resumir_eq (hm : m.finalized = false) {trozos : List Cadena} (h : trozos.flatten.length < 2 ^ 32 - 64) :
    resumir m.toMD5 trozos =
      some (m.update trozos.flatten (h.trans (by decide))).toMD5.finalize.hexdigest := by
  obtain ⟨m', hrun, hequivale⟩ := foldlM_update m h
  have hfinalized : m'.finalized = false := hequivale.finalized.trans ((finalized_update _ _).trans hm)
  rw [← hequivale.hexdigest_finalize hfinalized]
  simp only [resumir, hrun, finalize_eq, Option.bind_eq_bind, Option.bind_some, Option.pure_def]

/-- **Incremental hashing does not depend on the parts.** Two calls of `update` leave the chaining words, both words
of the counter and the bytes that wait for a block as one call with both parts does; so a text in any parts has one
digest. -/
theorem update_por_trozos (hm : m.finalized = false) :
    (∀ a b : Cadena, a.length + b.length < 2 ^ 32 - 64 → ∃ m₁ m₂ : Objeto,
      ((update m.toMD5 a a.length.toUInt32).bind fun m' => update m' b b.length.toUInt32) = some m₁.toMD5 ∧
      update m.toMD5 (a ++ b) (a ++ b).length.toUInt32 = some m₂.toMD5 ∧
      m₁.state = m₂.state ∧ m₁.count₀ = m₂.count₀ ∧ m₁.count₁ = m₂.count₁ ∧
      m₁.buffer.take (m₁.cuenta / 8 % 64) = m₂.buffer.take (m₂.cuenta / 8 % 64)) ∧
    ∀ trozos : List Cadena, trozos.flatten.length < 2 ^ 32 - 64 →
      ∃ t, resumir m.toMD5 trozos = some t ∧ resumir m.toMD5 [trozos.flatten] = some t := by
  refine ⟨fun a b hab => ?_, fun trozos h => ?_⟩
  · have hlength : (a ++ b).length < 2 ^ 32 - 64 := by rwa [List.length_append]
    have hequivale := m.update_update_equivale (hlength.trans (by decide)) (by omega) (by omega)
    refine ⟨_, _, ?_, update_length m hlength, congrArg Bloques.Flujo.estado hequivale.flujo, hequivale.count₀,
      hequivale.count₁, ?_⟩
    · rw [update_length m (by omega), Option.bind_some, update_length _ (by omega)]
    · rw [← MD5.indice_eq, ← MD5.indice_eq]
      exact congrArg Bloques.Flujo.resto hequivale.flujo
  · refine ⟨_, resumir_eq m hm h, ?_⟩
    have hone : [trozos.flatten].flatten = trozos.flatten := List.flatten_singleton
    have hrun := resumir_eq m hm (hone.symm ▸ h)
    simpa only [hone] using hrun

end

/-- The text `abc` in two parts. -/
theorem update_por_trozos_abc :
    (nuevo inicial).finalized = false ∧
      ∃ t, resumir (nuevo inicial).toMD5 [bytes "ab", bytes "c"] = some t ∧
        resumir (nuevo inicial).toMD5 [[bytes "ab", bytes "c"].flatten] = some t :=
  ⟨rfl, (update_por_trozos (nuevo inicial) rfl).2 [bytes "ab", bytes "c"] (by decide)⟩

end MD5.Maquina

end MensajeroX
