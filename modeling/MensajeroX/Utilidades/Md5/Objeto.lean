import MensajeroX.Lib.Bloques
import MensajeroX.Utilidades.Md5

/-!
# An `MD5` object as a stream of blocks

What an object of the class stands for: the chaining words after the whole blocks of what it was fed, the bytes after
them, and the number of bits. The rest of its buffer is stale.

* `Objeto` : the context with a buffer of 64 bytes, as the class declares it;
* `Objeto.flujo` : the chaining words and the bytes that wait for a block;
* `Objeto.flujo_update` : `update` feeds the stream;
* `Objeto.cuenta_update` : and counts the bits modulo `2 ^ 64`, with the carry between the two words;
* `Objeto.digest_finalize` : `finalize` feeds the padding, which only the count decides.
-/

namespace MensajeroX
open Bytes Bloques

namespace MD5

def indice (m : MD5) : Nat := m.count₀.toNat / 8 % 64

def cuenta (m : MD5) : Nat := m.count₁.toNat * 2 ^ 32 + m.count₀.toNat

theorem indice_lt (m : MD5) : m.indice < 64 := Nat.mod_lt _ (by decide)

/-- The high word has whole blocks. -/
theorem indice_eq (m : MD5) : m.indice = m.cuenta / 8 % 64 := by
  unfold indice cuenta
  omega

theorem cuenta_lt (m : MD5) : m.cuenta < 2 ^ 64 := by
  have h₀ := m.count₀.toNat_lt
  have h₁ := m.count₁.toNat_lt
  unfold cuenta
  omega

theorem count_eq_of_cuenta_eq {m m' : MD5} (h : m.cuenta = m'.cuenta) :
    m.count₀ = m'.count₀ ∧ m.count₁ = m'.count₁ := by
  have h₀ := m.count₀.toNat_lt
  have h₀' := m'.count₀.toNat_lt
  unfold cuenta at h
  constructor
  · apply UInt32.toNat.inj
    omega
  · apply UInt32.toNat.inj
    omega

/-! ## The buffer -/

theorem length_memcpy {buffer src : Cadena} {index : Nat} (h : index + src.length ≤ buffer.length) :
    (memcpy buffer index src).length = buffer.length := by
  simp only [memcpy, List.length_append, List.length_take, List.length_drop]
  omega

theorem take_memcpy {buffer : Cadena} {index : Nat} (h : index ≤ buffer.length) (src : Cadena) :
    (memcpy buffer index src).take (index + src.length) = buffer.take index ++ src := by
  apply List.take_left'
  rw [List.length_append, List.length_take, Nat.min_eq_left h]

theorem take_memcpy_zero (buffer src : Cadena) : (memcpy buffer 0 src).take src.length = src :=
  List.take_left' rfl

theorem memcpy_of_length_eq {buffer src : Cadena} {index : Nat} (h : index + src.length = buffer.length) :
    memcpy buffer index src = buffer.take index ++ src := by
  rw [memcpy, h, List.drop_length, List.append_nil]

theorem transformBlocks_eq (st : State) (input : Cadena) :
    transformBlocks st input = absorber 64 transform st input := by
  induction input using block_induction (n := 64) (by decide) generalizing st with
  | rest input h => rw [transformBlocks, if_neg (by omega), absorber_of_lt st h]
  | block input h ih => rw [transformBlocks, if_pos h, ih, absorber_of_le (by decide) st h]

/-! ## The counter -/

section Counter
variable (m : MD5) {input : Cadena}

theorem toNat_length (h : input.length < 2 ^ 32) : input.length.toUInt32.toNat = input.length := by
  rw [Nat.toUInt32, UInt32.toNat_ofNat']
  omega

/-- Of a longer input only as many bytes are read as the 32 bits of its length say. -/
theorem update_take (input : Cadena) : m.update (input.take (input.length % 2 ^ 32)) = m.update input := by
  have hnat : input.length.toUInt32.toNat = input.length % 2 ^ 32 := UInt32.toNat_ofNat'
  have hword : (input.take (input.length % 2 ^ 32)).length.toUInt32 = input.length.toUInt32 := by
    apply UInt32.toNat.inj
    rw [toNat_length, hnat, List.length_take]
    · omega
    · rw [List.length_take]
      omega
  simp only [update]
  rw [hword, hnat, List.take_take, Nat.min_self]

theorem toNat_bits (h : input.length < 2 ^ 32) : (input.length.toUInt32 <<< 3).toNat = 8 * input.length % 2 ^ 32 := by
  rw [UInt32.toNat_shiftLeft, toNat_length h, Nat.shiftLeft_eq]
  exact congrArg (· % 2 ^ 32) (Nat.mul_comm _ _)

/-- The counter of an `update`: the carry of the low word, and the bits shifted out of the length. -/
theorem update_eq (input : Cadena) :
    m.update input =
      { m with
        count₀ := m.count₀ + (input.length.toUInt32 <<< 3)
        count₁ := (if m.count₀ + (input.length.toUInt32 <<< 3) < input.length.toUInt32 <<< 3 then m.count₁ + 1
          else m.count₁) + (input.length.toUInt32 >>> 29)
        state := (m.update input).state
        buffer := (m.update input).buffer } := by
  simp only [update]
  split <;> rfl

theorem count₀_update (h : input.length < 2 ^ 32) :
    (m.update input).count₀.toNat = (m.count₀.toNat + 8 * input.length) % 2 ^ 32 := by
  rw [update_eq, UInt32.toNat_add, toNat_bits h]
  omega

/-- The bits are counted modulo `2 ^ 64`. -/
theorem cuenta_update (h : input.length < 2 ^ 32) :
    (m.update input).cuenta = (m.cuenta + 8 * input.length) % 2 ^ 64 := by
  have hcount := congrArg MD5.count₁ (m.update_eq input)
  have hhigh : (input.length.toUInt32 >>> 29).toNat = input.length / 2 ^ 29 := by
    rw [UInt32.toNat_shiftRight, toNat_length h, Nat.shiftRight_eq_div_pow]
    rfl
  have h₀ := m.count₀.toNat_lt
  have h₁ := m.count₁.toNat_lt
  -- the low word is smaller than what was added to it exactly when it wrapped
  have hcarry : m.count₀ + (input.length.toUInt32 <<< 3) < input.length.toUInt32 <<< 3 ↔
      2 ^ 32 ≤ m.count₀.toNat + 8 * input.length % 2 ^ 32 := by
    rw [UInt32.lt_iff_toNat_lt, UInt32.toNat_add, toNat_bits h]
    omega
  rw [cuenta, count₀_update m h, hcount, UInt32.toNat_add, hhigh, cuenta]
  by_cases hc : 2 ^ 32 ≤ m.count₀.toNat + 8 * input.length % 2 ^ 32
  · rw [if_pos (hcarry.mpr hc), UInt32.toNat_add, UInt32.toNat_one]
    omega
  · rw [if_neg (hcarry.not.mpr hc)]
    omega

theorem indice_update (h : input.length < 2 ^ 32) : (m.update input).indice = (m.indice + input.length) % 64 := by
  rw [indice, indice, count₀_update m h]
  omega

end Counter

/-! ## Objects -/

/-- An object of the class: `uint1 buffer[blocksize]`. -/
structure Objeto extends MD5 where
  length_buffer : buffer.length = 64

namespace Objeto

/-- The chaining words, and the bytes that wait for a block. -/
def flujo (m : Objeto) : Flujo State UInt8 64 where
  estado := m.state
  resto := m.buffer.take m.indice
  length_resto_lt := by
    rw [List.length_take]
    have := m.indice_lt
    omega

theorem length_resto (m : Objeto) : m.flujo.resto.length = m.indice := by
  rw [flujo, List.length_take, m.length_buffer]
  exact Nat.min_eq_left m.indice_lt.le

section Update
variable (m : Objeto) {input : Cadena}

theorem memcpy_firstpart (h : 64 - m.indice ≤ input.length) :
    memcpy m.buffer m.indice (input.take (64 - m.indice)) = m.flujo.resto ++ input.take (64 - m.indice) := by
  have hindice := m.indice_lt
  apply memcpy_of_length_eq
  rw [List.length_take_of_le h, m.length_buffer]
  omega

theorem length_firstpart (h : 64 - m.indice ≤ input.length) :
    (m.flujo.resto ++ input.take (64 - m.indice)).length = 64 := by
  have hindice := m.indice_lt
  rw [List.length_append, List.length_take_of_le h, m.length_resto]
  omega

/-- What was waiting and the input: the completed block, and the rest of the input. -/
theorem absorber_firstpart (h : 64 - m.indice ≤ input.length) :
    absorber 64 transform m.state (m.flujo.resto ++ input) =
      absorber 64 transform (transform m.state (m.flujo.resto ++ input.take (64 - m.indice)))
        (input.drop (64 - m.indice)) := by
  rw [← absorber_block (by decide) m.state (m.length_firstpart h), List.append_assoc, List.take_append_drop]

/-- `update` without a whole block only copies. -/
theorem update_of_lt (h : input.length < 64 - m.indice) :
    (m.toMD5.update input).state = m.state ∧ (m.toMD5.update input).buffer = memcpy m.buffer m.indice input := by
  have htake : input.take input.length.toUInt32.toNat = input := by rw [toNat_length (by omega), List.take_length]
  unfold MD5.indice at h ⊢
  simp only [MD5.update, htake]
  rw [if_neg (by omega)]
  exact ⟨rfl, rfl⟩

/-- `update` with whole blocks: the first one is completed in the buffer, the others are read from the input, and what
is left over goes to the beginning of the buffer. -/
theorem update_of_le (hlt : input.length < 2 ^ 32) (h : 64 - m.indice ≤ input.length) :
    (m.toMD5.update input).state = (absorber 64 transform m.state (m.flujo.resto ++ input)).1 ∧
    (m.toMD5.update input).buffer = memcpy (m.flujo.resto ++ input.take (64 - m.indice)) 0
      (absorber 64 transform m.state (m.flujo.resto ++ input)).2 := by
  have htake : input.take input.length.toUInt32.toNat = input := by rw [toNat_length hlt, List.take_length]
  rw [m.absorber_firstpart h, ← m.memcpy_firstpart h, ← transformBlocks_eq]
  unfold MD5.indice at h ⊢
  simp only [MD5.update, htake]
  rw [if_pos h]
  exact ⟨rfl, rfl⟩

theorem length_buffer_update (hlt : input.length < 2 ^ 32) : (m.toMD5.update input).buffer.length = 64 := by
  have hindice := m.indice_lt
  by_cases h : 64 - m.indice ≤ input.length
  · have hrest := length_absorber (n := 64) (f := transform) (by decide) m.state (m.flujo.resto ++ input)
    have hblock := m.length_firstpart h
    rw [(m.update_of_le hlt h).2, length_memcpy, hblock]
    omega
  · rw [(m.update_of_lt (by omega)).2, length_memcpy, m.length_buffer]
    rw [m.length_buffer]
    omega

end Update

/-- `update`, on objects. -/
def update (m : Objeto) (input : Cadena) (h : input.length < 2 ^ 32) : Objeto where
  toMD5 := m.toMD5.update input
  length_buffer := m.length_buffer_update h

/-- **`update` feeds the stream.** -/
theorem flujo_update (m : Objeto) {input : Cadena} (hlt : input.length < 2 ^ 32) :
    (m.update input hlt).flujo = m.flujo.alimentar transform input := by
  have hindice := m.toMD5.indice_update hlt
  have hlength : (m.flujo.resto ++ input).length = m.indice + input.length := by
    rw [List.length_append, m.length_resto]
  have hmin := m.indice_lt
  by_cases h : 64 - m.indice ≤ input.length
  · obtain ⟨hstate, hbuffer⟩ := m.update_of_le hlt h
    refine Flujo.ext hstate ?_
    have hrest := length_absorber (n := 64) (f := transform) (by decide) m.state (m.flujo.resto ++ input)
    show (m.toMD5.update input).buffer.take (m.toMD5.update input).indice = _
    rw [hbuffer, hindice, ← hlength, ← hrest]
    exact take_memcpy_zero _ _
  · obtain ⟨hstate, hbuffer⟩ := m.update_of_lt (Nat.lt_of_not_le h)
    have hshort : absorber 64 transform m.state (m.flujo.resto ++ input) = (m.state, m.flujo.resto ++ input) :=
      absorber_of_lt m.state (by omega)
    refine Flujo.ext ?_ ?_
    · exact hstate.trans (congrArg Prod.fst hshort).symm
    · refine Eq.trans ?_ (congrArg Prod.snd hshort).symm
      show (m.toMD5.update input).buffer.take (m.toMD5.update input).indice = _
      rw [hbuffer, hindice, Nat.mod_eq_of_lt (by omega), take_memcpy (by rw [m.length_buffer]; omega)]
      rfl

end Objeto

/-! ## `finalize` -/

def padLen (m : MD5) : Nat := if m.indice < 56 then 56 - m.indice else 120 - m.indice

/-- What `finalize` feeds: the padding and the counter. -/
def cierre (m : MD5) : Cadena := padding m.padLen ++ encode [m.count₀, m.count₁]

theorem padLen_le (m : MD5) : m.padLen ≤ 64 := by
  unfold padLen
  split <;> omega

theorem length_padding_lt (m : MD5) : (padding m.padLen).length < 2 ^ 32 := by
  have hle := m.padLen_le
  rw [padding, List.length_take]
  omega

theorem length_bits (m : MD5) : (encode [m.count₀, m.count₁]).length = 8 := length_encode _

def State.digest (q : State) : Cadena := encode [q.a, q.b, q.c, q.d]

namespace Objeto

/-- **`finalize` feeds the padding** and writes the chaining words. -/
theorem digest_finalize (m : Objeto) (hm : m.finalized = false) :
    m.toMD5.finalize.digest = (m.flujo.alimentar transform m.cierre).estado.digest := by
  have hbits : (encode [m.count₀, m.count₁]).length < 2 ^ 32 := m.length_bits ▸ (by decide)
  rw [cierre, Flujo.alimentar_append, ← m.flujo_update m.length_padding_lt, ← flujo_update _ hbits]
  rw [MD5.finalize, if_neg (by rw [hm]; decide)]
  rfl

theorem hexdigest_finalize (m : Objeto) (hm : m.finalized = false) :
    m.toMD5.finalize.hexdigest = (m.flujo.alimentar transform m.cierre).estado.digest.flatMap hexByte := by
  have hfinalized : m.toMD5.finalize.finalized = true := by
    rw [MD5.finalize, if_neg (by rw [hm]; decide)]
  rw [MD5.hexdigest, if_pos hfinalized, m.digest_finalize hm]

/-- The same chaining words, the same count and the same waiting bytes: all that the digest depends on. -/
structure Equivale (m m' : Objeto) : Prop where
  finalized : m.finalized = m'.finalized
  count₀ : m.count₀ = m'.count₀
  count₁ : m.count₁ = m'.count₁
  flujo : m.flujo = m'.flujo

theorem Equivale.of_cuenta {m m' : Objeto} (hfinalized : m.finalized = m'.finalized) (hcuenta : m.cuenta = m'.cuenta)
    (hflujo : m.flujo = m'.flujo) : m.Equivale m' where
  finalized := hfinalized
  count₀ := (count_eq_of_cuenta_eq hcuenta).1
  count₁ := (count_eq_of_cuenta_eq hcuenta).2
  flujo := hflujo

theorem Equivale.trans {m m' m'' : Objeto} (h : m.Equivale m') (h' : m'.Equivale m'') : m.Equivale m'' where
  finalized := h.finalized.trans h'.finalized
  count₀ := h.count₀.trans h'.count₀
  count₁ := h.count₁.trans h'.count₁
  flujo := h.flujo.trans h'.flujo

theorem Equivale.update {m m' : Objeto} (h : m.Equivale m') {input : Cadena} (hlt : input.length < 2 ^ 32) :
    (m.update input hlt).Equivale (m'.update input hlt) := by
  refine .of_cuenta ?_ ?_ ?_
  · exact (finalized_update _ _).trans (h.finalized.trans (finalized_update _ _).symm)
  · refine (cuenta_update _ hlt).trans (Eq.trans ?_ (cuenta_update _ hlt).symm)
    rw [cuenta, cuenta, h.count₀, h.count₁]
  · rw [flujo_update, flujo_update, h.flujo]

theorem equivale_update_nil (m : Objeto) : m.Equivale (m.update [] (by decide)) := by
  refine .of_cuenta ?_ ?_ ?_
  · exact (finalized_update _ _).symm
  · refine Eq.trans ?_ (cuenta_update _ (by decide)).symm
    rw [List.length_nil, Nat.mul_zero, Nat.add_zero, Nat.mod_eq_of_lt m.cuenta_lt]
  · rw [flujo_update, Flujo.alimentar_nil]

/-- **Two parts, or both at once**: the counter adds up modulo `2 ^ 64`, and the stream does not see the cut. -/
theorem update_update_equivale (m : Objeto) {a b : Cadena} (hab : (a ++ b).length < 2 ^ 32) (ha : a.length < 2 ^ 32)
    (hb : b.length < 2 ^ 32) : ((m.update a ha).update b hb).Equivale (m.update (a ++ b) hab) := by
  refine .of_cuenta ?_ ?_ ?_
  · exact (finalized_update _ _).trans ((finalized_update _ _).trans (finalized_update _ _).symm)
  · refine (cuenta_update _ hb).trans (Eq.trans ?_ (cuenta_update _ hab).symm)
    rw [show (m.update a ha).cuenta = _ from cuenta_update m.toMD5 ha, List.length_append, Nat.mod_add_mod]
    ring_nf
  · rw [flujo_update, flujo_update, flujo_update, Flujo.alimentar_append]

theorem Equivale.hexdigest_finalize {m m' : Objeto} (h : m.Equivale m') (hm : m.finalized = false) :
    m.toMD5.finalize.hexdigest = m'.toMD5.finalize.hexdigest := by
  have hcierre : m.cierre = m'.cierre := by rw [cierre, cierre, padLen, padLen, indice, indice, h.count₀, h.count₁]
  rw [m.hexdigest_finalize hm, m'.hexdigest_finalize (h.finalized ▸ hm), h.flujo, hcierre]

end Objeto

end MD5

end MensajeroX
