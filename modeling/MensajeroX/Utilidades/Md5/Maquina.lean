import MensajeroX.Utilidades.Md5.Objeto

/-!
# `MD5` at the machine's integers

`update`, `finalize` and `md5` with the indices of the source, which are 32-bit words, and with the bounds of its
arrays: a run that reads or writes outside of an array, or whose loop does not end, has no result.

* `update_eq` : below `2 ^ 32 - 64` bytes no index wraps, no array is left, and the result is that of `MD5.update`;
* `md5_eq_some` : so `md5` returns, whatever the memory of the object held before;
* `md5_eq_none` : with a length from `2 ^ 32 - 64` on, `i + blocksize` wraps and the loop does not end.
-/

namespace MensajeroX
open Bytes Bloques

namespace MD5.Maquina

/-- `memcpy(&buffer[index], &input[i], n)`. -/
def memcpy (buffer : Cadena) (index : UInt32) (input : Cadena) (i n : UInt32) : Option Cadena :=
  if i.toNat + n.toNat ≤ input.length ∧ index.toNat + n.toNat ≤ buffer.length then
    some (MD5.memcpy buffer index.toNat ((input.drop i.toNat).take n.toNat))
  else none

/-- `for (; i + blocksize <= length; i += blocksize) transform(&input[i])`, with a bound on its turns. In `2 ^ 26`
turns the index takes all the values that it can take, and is where it was. -/
def transformFrom (input : Cadena) (length : UInt32) : Nat → State → UInt32 → Option (State × UInt32)
  | 0, _, _ => none
  | n + 1, st, i =>
    if i + 64 ≤ length then
      if i.toNat + 64 ≤ input.length then
        transformFrom input length n (transform st ((input.drop i.toNat).take 64)) (i + 64)
      else none
    else some (st, i)

/-- `update(input, length)`. -/
def update (m : MD5) (input : Cadena) (length : UInt32) : Option MD5 := do
  let index := m.count₀ / 8 % 64
  let count₀ := m.count₀ + (length <<< 3)
  let count₁ := if count₀ < (length <<< 3) then m.count₁ + 1 else m.count₁
  let count₁ := count₁ + (length >>> 29)
  let firstpart := 64 - index
  if firstpart ≤ length then
    let buffer ← memcpy m.buffer index input 0 firstpart
    let r ← transformFrom input length (2 ^ 26) (transform m.state buffer) firstpart
    let buffer ← memcpy buffer 0 input r.2 (length - r.2)
    pure { m with count₀ := count₀, count₁ := count₁, state := r.1, buffer := buffer }
  else
    let buffer ← memcpy m.buffer index input 0 (length - 0)
    pure { m with count₀ := count₀, count₁ := count₁, buffer := buffer }

/-- `init()`: the buffer and the digest are left as they were. -/
def init (m : MD5) : MD5 :=
  { m with
    finalized := false
    count₀ := 0
    count₁ := 0
    state := ⟨0x67452301, 0xefcdab89, 0x98badcfe, 0x10325476⟩ }

def finalize (m : MD5) : Option MD5 := do
  if m.finalized then pure m
  else
    let bits := encode [m.count₀, m.count₁]
    let index := m.count₀ / 8 % 64
    let padLen := if index < 56 then 56 - index else 120 - index
    let m ← update m (padding 64) padLen
    let m ← update m bits 8
    pure { m with
      finalized := true
      digest := m.state.digest
      buffer := List.replicate 64 0
      count₀ := 0
      count₁ := 0 }

/-- `MD5(str).hexdigest()` in the memory of `m`. -/
def md5 (m : Objeto) (str : Cadena) : Option Cadena := do
  let m ← update (init m.toMD5) str str.length.toUInt32
  let m ← finalize m
  pure m.hexdigest

/-! ## The loop -/

section Loop
variable {input : Cadena} {length : UInt32}

theorem toNat_add_blocksize {i : UInt32} (h : i.toNat + 64 < 2 ^ 32) : (i + 64).toNat = i.toNat + 64 := by
  rw [UInt32.toNat_add]
  exact Nat.mod_eq_of_lt h

/-- The loop takes the whole blocks, and stops where the bytes left over begin. -/
theorem transformFrom_eq (hlength : length.toNat ≤ input.length) (hmax : length.toNat + 64 < 2 ^ 32) (n : Nat)
    (st : State) (i : UInt32) (hi : i.toNat ≤ length.toNat) (hn : length.toNat < i.toNat + 64 * n) :
    ∃ i' : UInt32, i'.toNat ≤ length.toNat ∧ transformFrom input length n st i =
        some ((absorber 64 transform st ((input.take length.toNat).drop i.toNat)).1, i') ∧
      (absorber 64 transform st ((input.take length.toNat).drop i.toNat)).2 =
        (input.take length.toNat).drop i'.toNat := by
  induction n generalizing st i with
  | zero => omega
  | succ n ih =>
    have hadd : (i + 64).toNat = i.toNat + 64 := toNat_add_blocksize (by omega)
    have hrest : ((input.take length.toNat).drop i.toNat).length = length.toNat - i.toNat := by
      rw [List.length_drop, List.length_take_of_le hlength]
    by_cases h : i + 64 ≤ length
    · have hle : i.toNat + 64 ≤ length.toNat := by rwa [UInt32.le_iff_toNat_le, hadd] at h
      obtain ⟨i', hi', hrun, habsorb⟩ :=
        ih (transform st ((input.drop i.toNat).take 64)) (i + 64) (by omega) (by omega)
      have hblock : ((input.take length.toNat).drop i.toNat).take 64 = (input.drop i.toNat).take 64 := by
        rw [List.drop_take, List.take_take, Nat.min_eq_left (by omega)]
      refine ⟨i', hi', ?_, ?_⟩
      · rw [transformFrom, if_pos h, if_pos (by omega), hrun, absorber_of_le (by decide) st (by omega), hblock,
          List.drop_drop, hadd]
      · rw [absorber_of_le (by decide) st (by omega), hblock, List.drop_drop, ← hadd, habsorb]
    · have hlt : length.toNat < i.toNat + 64 := by
        rw [UInt32.le_iff_toNat_le, hadd] at h
        omega
      refine ⟨i, hi, ?_, ?_⟩
      · rw [transformFrom, if_neg h, absorber_of_lt st (by omega)]
      · rw [absorber_of_lt st (by omega)]

/-- An index at the beginning of a block never passes a length from `2 ^ 32 - 64` on: it wraps. -/
theorem transformFrom_eq_none (hmax : 2 ^ 32 - 64 ≤ length.toNat) (n : Nat) (st : State) (i : UInt32)
    (hi : i.toNat % 64 = 0) : transformFrom input length n st i = none := by
  induction n generalizing st i with
  | zero => rfl
  | succ n ih =>
    have hlt := i.toNat_lt
    have hadd : (i + 64).toNat = (i.toNat + 64) % 2 ^ 32 := UInt32.toNat_add i 64
    have hle : i + 64 ≤ length := by
      rw [UInt32.le_iff_toNat_le, hadd]
      omega
    rw [transformFrom, if_pos hle]
    split
    · exact ih _ (i + 64) (by omega)
    · rfl

end Loop

/-! ## Runs with a result -/

section Result
variable (m : Objeto)

theorem toNat_index : (m.count₀ / 8 % 64).toNat = m.indice := by
  rw [UInt32.toNat_mod, UInt32.toNat_div]
  rfl

theorem toNat_firstpart : (64 - m.count₀ / 8 % 64).toNat = 64 - m.indice := by
  have hle : m.count₀ / 8 % 64 ≤ 64 := by
    rw [UInt32.le_iff_toNat_le, toNat_index]
    exact m.indice_lt.le
  rw [UInt32.toNat_sub_of_le _ _ hle, toNat_index]
  rfl

/-- **Below `2 ^ 32 - 64` bytes `update` has a result**: that of the whole-number model. -/
theorem update_eq {input : Cadena} {length : UInt32} (hlength : length.toNat ≤ input.length)
    (hmax : length.toNat < 2 ^ 32 - 64) :
    update m.toMD5 input length = some (m.toMD5.update (input.take length.toNat)) := by
  have hindice := m.indice_lt
  have hindex := toNat_index m
  have hfirst := toNat_firstpart m
  have hdata : (input.take length.toNat).length = length.toNat := List.length_take_of_le hlength
  have hword : (input.take length.toNat).length.toUInt32 = length := by
    rw [hdata]
    exact UInt32.ofNat_toNat
  rw [MD5.update_eq, hword, update]
  by_cases h : 64 - m.count₀ / 8 % 64 ≤ length
  · have hle : 64 - m.indice ≤ (input.take length.toNat).length := by
      rwa [UInt32.le_iff_toNat_le, hfirst, ← hdata] at h
    -- the first block is completed in the buffer
    have htake : (input.drop 0).take (64 - m.indice) = (input.take length.toNat).take (64 - m.indice) := by
      rw [List.drop_zero, List.take_take, Nat.min_eq_left (by omega)]
    have hbuffer : memcpy m.buffer (m.count₀ / 8 % 64) input 0 (64 - m.count₀ / 8 % 64) =
        some (m.flujo.resto ++ (input.take length.toNat).take (64 - m.indice)) := by
      rw [memcpy, hindex, hfirst, m.length_buffer, UInt32.toNat_zero, if_pos (by omega), htake,
        m.memcpy_firstpart hle]
    obtain ⟨i, hi, hrun, hrest⟩ := transformFrom_eq hlength (by omega) (2 ^ 26)
      (transform m.state (m.flujo.resto ++ (input.take length.toNat).take (64 - m.indice))) (64 - m.count₀ / 8 % 64)
      (by omega) (by omega)
    rw [hfirst, ← m.absorber_firstpart hle] at hrun hrest
    -- less than a block is left over
    have hlt := length_absorber (n := 64) (f := transform) (by decide) m.state
      (m.flujo.resto ++ input.take length.toNat)
    rw [hrest, List.length_drop, hdata] at hlt
    have hsub : (length - i).toNat = length.toNat - i.toNat :=
      UInt32.toNat_sub_of_le _ _ (UInt32.le_iff_toNat_le.mpr hi)
    have hcopy : memcpy (m.flujo.resto ++ (input.take length.toNat).take (64 - m.indice)) 0 input i (length - i) =
        some (MD5.memcpy (m.flujo.resto ++ (input.take length.toNat).take (64 - m.indice)) 0
          (absorber 64 transform m.state (m.flujo.resto ++ input.take length.toNat)).2) := by
      rw [memcpy, hsub, m.length_firstpart hle, UInt32.toNat_zero, if_pos (by omega), hrest, List.drop_take]
    obtain ⟨hstate, hbuf⟩ := m.update_of_le (by omega) hle
    simp only [if_pos h, hbuffer, hrun, hcopy, hstate, hbuf, Option.bind_eq_bind, Option.bind_some, Option.pure_def]
  · have hlt : (input.take length.toNat).length < 64 - m.indice := by
      rw [UInt32.le_iff_toNat_le, hfirst] at h
      omega
    have hcopy : memcpy m.buffer (m.count₀ / 8 % 64) input 0 (length - 0) =
        some (MD5.memcpy m.buffer m.indice (input.take length.toNat)) := by
      rw [memcpy, hindex, UInt32.sub_zero, m.length_buffer, UInt32.toNat_zero, if_pos (by omega), List.drop_zero]
    obtain ⟨hstate, hbuf⟩ := m.update_of_lt hlt
    simp only [if_neg h, hcopy, hstate, hbuf, Option.bind_eq_bind, Option.bind_some, Option.pure_def]

theorem toNat_padLen :
    (if m.count₀ / 8 % 64 < 56 then 56 - m.count₀ / 8 % 64 else 120 - m.count₀ / 8 % 64).toNat = m.padLen := by
  have hindice := m.indice_lt
  have hindex := toNat_index m
  have hiff : m.count₀ / 8 % 64 < 56 ↔ m.indice < 56 := by
    rw [UInt32.lt_iff_toNat_lt, hindex]
    rfl
  unfold padLen
  by_cases h : m.indice < 56
  · have hle : m.count₀ / 8 % 64 ≤ 56 := UInt32.le_iff_toNat_le.mpr (hindex.trans_le h.le)
    rw [if_pos (hiff.mpr h), if_pos h, UInt32.toNat_sub_of_le _ _ hle, hindex]
    rfl
  · have hle : m.count₀ / 8 % 64 ≤ 120 := UInt32.le_iff_toNat_le.mpr (hindex.trans_le (hindice.le.trans (by decide)))
    rw [if_neg (hiff.not.mpr h), if_neg h, UInt32.toNat_sub_of_le _ _ hle, hindex]
    rfl

/-- **`finalize` has a result.** -/
theorem finalize_eq : finalize m.toMD5 = some m.toMD5.finalize := by
  rw [finalize, MD5.finalize]
  by_cases hm : m.finalized = true
  · rw [if_pos hm, if_pos hm]
    rfl
  · have hpadLen := toNat_padLen m
    have hle := m.padLen_le
    have htake : (padding 64).take m.padLen = padding m.padLen := by
      rw [padding, padding, List.take_take, Nat.min_eq_left hle]
    have hfirst : update m.toMD5 (padding 64)
        (if m.count₀ / 8 % 64 < 56 then 56 - m.count₀ / 8 % 64 else 120 - m.count₀ / 8 % 64) =
          some (m.toMD5.update (padding m.padLen)) := by
      rw [update_eq m (show _ ≤ 64 from hpadLen.trans_le hle) (by omega), hpadLen, htake]
    have hsecond : update (m.toMD5.update (padding m.padLen)) (encode [m.count₀, m.count₁]) 8 =
        some ((m.toMD5.update (padding m.padLen)).update (encode [m.count₀, m.count₁])) := by
      refine (update_eq (m.update _ m.length_padding_lt) (m.length_bits ▸ le_rfl) (by decide)).trans ?_
      rw [List.take_of_length_le (show _ ≤ UInt32.toNat 8 from m.length_bits.le)]
      rfl
    simp only [if_neg hm, hfirst, hsecond, Option.bind_eq_bind, Option.bind_some, Option.pure_def]
    rfl

end Result

/-! ## `md5` -/

/-- An object after `init()`. -/
def nuevo (m : Objeto) : Objeto where
  toMD5 := init m.toMD5
  length_buffer := m.length_buffer

theorem indice_nuevo (m : Objeto) : (nuevo m).indice = 0 := by
  show UInt32.toNat 0 / 8 % 64 = 0
  rw [UInt32.toNat_zero]

theorem resto_nuevo (m : Objeto) : (nuevo m).flujo.resto = [] := by
  show (nuevo m).buffer.take (nuevo m).indice = []
  rw [indice_nuevo, List.take_zero]

/-- What the memory held before does not matter. -/
theorem nuevo_equivale (m m' : Objeto) : (nuevo m).Equivale (nuevo m') where
  finalized := rfl
  count₀ := rfl
  count₁ := rfl
  flujo := Flujo.ext rfl (by rw [resto_nuevo, resto_nuevo])

/-- The object that the whole-number model starts from. -/
def inicial : Objeto where
  toMD5 := MD5.init
  length_buffer := rfl

/-- **`md5` returns**, with the text that the whole-number model gives. -/
theorem md5_eq_some (m : Objeto) {str : Cadena} (h : str.length % 2 ^ 32 < 2 ^ 32 - 64) :
    md5 m str = some (MensajeroX.md5 str) := by
  have hnat : str.length.toUInt32.toNat = str.length % 2 ^ 32 := UInt32.toNat_ofNat'
  have hlt : (str.take (str.length % 2 ^ 32)).length < 2 ^ 32 := by
    rw [List.length_take]
    omega
  have hupdate : update (init m.toMD5) str str.length.toUInt32 =
      some ((nuevo m).update (str.take (str.length % 2 ^ 32)) hlt).toMD5 := by
    refine (update_eq (nuevo m) ?_ (hnat.trans_lt h)).trans ?_
    · rw [hnat]
      exact Nat.mod_le _ _
    · rw [hnat]
      rfl
  have hequivale : ((nuevo m).update _ hlt).Equivale ((nuevo inicial).update _ hlt) :=
    (nuevo_equivale m inicial).update hlt
  have htext : ((nuevo m).update _ hlt).toMD5.finalize.hexdigest = MensajeroX.md5 str := by
    rw [hequivale.hexdigest_finalize (MD5.finalized_update _ _), MensajeroX.md5, ← MD5.update_take MD5.init str]
    rfl
  simp only [md5, hupdate, finalize_eq, htext, Option.bind_eq_bind, Option.bind_some, Option.pure_def]

/-- **`md5` does not return** when the length wraps the index of the loop. -/
theorem md5_eq_none (m : Objeto) {str : Cadena} (h : 2 ^ 32 - 64 ≤ str.length % 2 ^ 32) : md5 m str = none := by
  have hnat : str.length.toUInt32.toNat = str.length % 2 ^ 32 := UInt32.toNat_ofNat'
  have hfirst : 64 - (init m.toMD5).count₀ / 8 % 64 = 64 := show 64 - (0 : UInt32) / 8 % 64 = 64 by decide
  have hle : 64 ≤ str.length.toUInt32 := by
    rw [UInt32.le_iff_toNat_le, hnat]
    exact le_trans (by decide) h
  have hloop : ∀ st, transformFrom str str.length.toUInt32 (2 ^ 26) st 64 = none := fun st =>
    transformFrom_eq_none (hnat.symm ▸ h) (2 ^ 26) st 64 rfl
  have hupdate : update (init m.toMD5) str str.length.toUInt32 = none := by
    rw [update]
    simp only [hfirst, if_pos hle, hloop, Option.bind_eq_bind, Option.bind_none, Option.bind_fun_none]
  simp only [md5, hupdate, Option.bind_eq_bind, Option.bind_none]

end MD5.Maquina

end MensajeroX
