import MensajeroX.Lib.MessageDigest
import MensajeroX.Utilidades.Md5.Maquina

/-!
# `md5` computes the MD5 message digest

The class of the program against the definition of the digest: its words, its 64 operations, its padding and its
counter.

* `registers_transform` : a call of `transform` is the compression of a block;
* `cierre_eq` : what `finalize` feeds is the padding of the message;
* `md5_digest` : `md5` returns the hexadecimal text of the digest.
-/

namespace MensajeroX
open Bytes Bloques

namespace MD5
open MessageDigest (Word Registers source shift sines toBytes word)

/-! ## Words -/

theorem wordBytes_eq (w : UInt32) : wordBytes w = toBytes 4 w.toNat := by
  have hbyte : ∀ x : UInt32, (x &&& 0xff).toUInt8 = UInt8.ofNat x.toNat := fun x => by
    apply UInt8.toNat.inj
    rw [UInt32.toNat_toUInt8, UInt32.toNat_and, UInt8.toNat_ofNat']
    exact (congrArg (· % 2 ^ 8) (Nat.and_two_pow_sub_one_eq_mod x.toNat 8)).trans (Nat.mod_mod _ _)
  have hshift : ∀ n : UInt32, n.toNat < 32 → (w >>> n).toNat = w.toNat / 2 ^ n.toNat := fun n hn => by
    rw [UInt32.toNat_shiftRight, Nat.mod_eq_of_lt hn, Nat.shiftRight_eq_div_pow]
  rw [wordBytes, hbyte, hbyte, hbyte, hbyte, hshift 8 (by decide), hshift 16 (by decide), hshift 24 (by decide)]
  rw [toBytes, show List.range 4 = [0, 1, 2, 3] from rfl]
  simp only [List.map_cons, List.map_nil, pow_zero, Nat.div_one]
  rfl

theorem toBitVec_word (b₀ b₁ b₂ b₃ : UInt8) :
    (b₀.toUInt32 ||| (b₁.toUInt32 <<< 8) ||| (b₂.toUInt32 <<< 16) ||| (b₃.toUInt32 <<< 24)).toBitVec =
      word [b₀, b₁, b₂, b₃] := by
  have h₀ := b₀.toNat_lt
  have h₁ := b₁.toNat_lt
  have h₂ := b₂.toNat_lt
  have h₃ := b₃.toNat_lt
  -- the shifted bytes have no bits in common
  have hor : ∀ x y i : Nat, x < 2 ^ i → x ||| y * 2 ^ i = x + y * 2 ^ i := fun x y i h => by
    rw [Nat.mul_comm, Nat.or_comm, ← Nat.two_pow_add_eq_or_of_lt h, Nat.add_comm]
  have hshift : ∀ (b : UInt8) (n : UInt32), n.toNat ≤ 24 → (b.toUInt32 <<< n).toNat = b.toNat * 2 ^ n.toNat :=
    fun b n hn => by
      have hb := b.toNat_lt
      have hpow : (2 : Nat) ^ n.toNat ≤ 2 ^ 24 := Nat.pow_le_pow_right (by decide) hn
      have hmod : n.toNat % 32 = n.toNat := Nat.mod_eq_of_lt (by omega)
      rw [UInt32.toNat_shiftLeft, hmod, Nat.shiftLeft_eq, UInt8.toNat_toUInt32, Nat.mod_eq_of_lt (by nlinarith)]
  have hsum : MessageDigest.ofBytes [b₀, b₁, b₂, b₃] =
      b₀.toNat + b₁.toNat * 2 ^ 8 + b₂.toNat * 2 ^ 16 + b₃.toNat * 2 ^ 24 := by
    simp only [MessageDigest.ofBytes, List.map_cons, List.map_nil, Nat.ofDigits_cons, Nat.ofDigits_nil]
    ring
  apply BitVec.eq_of_toNat_eq
  rw [UInt32.toNat_toBitVec, UInt32.toNat_or, UInt32.toNat_or, UInt32.toNat_or, UInt8.toNat_toUInt32,
    hshift b₁ 8 (by decide), hshift b₂ 16 (by decide), hshift b₃ 24 (by decide)]
  show b₀.toNat ||| b₁.toNat * 2 ^ 8 ||| b₂.toNat * 2 ^ 16 ||| b₃.toNat * 2 ^ 24 = _
  rw [hor _ _ 8 h₀, hor _ _ 16 (by omega), hor _ _ 24 (by omega), word, BitVec.toNat_ofNat, hsum,
    Nat.mod_eq_of_lt (by omega)]

theorem toBitVec_decode {block : Cadena} {k : Nat} (h : 4 * k + 4 ≤ block.length) :
    ((decode block).getD k 0).toBitVec = word ((block.drop (4 * k)).take 4) := by
  induction k generalizing block with
  | zero =>
    match block, h with
    | b₀ :: b₁ :: b₂ :: b₃ :: rest, _ => exact toBitVec_word b₀ b₁ b₂ b₃
  | succ k ih =>
    match block, h with
    | b₀ :: b₁ :: b₂ :: b₃ :: rest, h =>
      have hrest : 4 * k + 4 ≤ rest.length := by
        simp only [List.length_cons] at h
        omega
      exact ih hrest

/-! ## The operations -/

def State.registers (q : State) : Registers := ⟨q.a.toBitVec, q.b.toBitVec, q.c.toBitVec, q.d.toBitVec⟩

/-- The two shifts are a rotation. -/
theorem toBitVec_rotateLeft (x : UInt32) {n : Nat} (hpos : 0 < n) (hn : n < 32) :
    (rotateLeft x (UInt32.ofNat n)).toBitVec = x.toBitVec.rotateLeft n := by
  have hnat : (UInt32.ofNat n).toNat = n := UInt32.toNat_ofNat_of_lt' (hn.trans (by decide))
  have hsub : (32 - UInt32.ofNat n).toNat = 32 - n := by
    rw [UInt32.toNat_sub_of_le _ _ (UInt32.le_iff_toNat_le.mpr (by rw [hnat]; exact hn.le)), hnat]
    rfl
  have hleft : ((UInt32.ofNat n).toBitVec % 32).toNat = n % 32 := by
    rw [BitVec.toNat_umod, UInt32.toNat_toBitVec, hnat]
    rfl
  have hright : ((32 - UInt32.ofNat n).toBitVec % 32).toNat = 32 - n % 32 := by
    rw [BitVec.toNat_umod, UInt32.toNat_toBitVec, hsub, Nat.mod_eq_of_lt hn]
    exact Nat.mod_eq_of_lt (Nat.sub_lt (by decide) hpos)
  rw [rotateLeft, BitVec.rotateLeft_def, UInt32.toBitVec_or, UInt32.toBitVec_shiftLeft, UInt32.toBitVec_shiftRight,
    BitVec.shiftLeft_eq', BitVec.ushiftRight_eq', hleft, hright]

def funcion (i : Nat) : UInt32 → UInt32 → UInt32 → UInt32 :=
  match i / 16 with
  | 0 => F
  | 1 => G
  | 2 => H
  | _ => I

/-- The `i`th operation of `transform` with the words `x`. The words change places, so that all of them have the same
form. -/
def operacion (x : Nat → UInt32) (q : State) (i : Nat) : State where
  a := q.d
  b := paso (funcion i) q.a q.b q.c q.d (x (source i)) (UInt32.ofNat (shift i)) (UInt32.ofNat (sines.getD i 0))
  c := q.b
  d := q.c

/-- **The 64 lines of `transform`** are the 64 operations, by fours. -/
theorem transform_eq (st : State) (block : Cadena) :
    transform st block =
      let r := (List.range 64).foldl (operacion fun k => (decode block).getD k 0) st
      ⟨st.a + r.a, st.b + r.b, st.c + r.c, st.d + r.d⟩ := by
  unfold transform
  -- the words after each four operations, in the order in which they are written
  extract_lets xs x a b c d a₁ d₁ c₁ b₁ a₂ d₂ c₂ b₂ a₃ d₃ c₃ b₃ a₄ d₄ c₄ b₄
    a₅ d₅ c₅ b₅ a₆ d₆ c₆ b₆ a₇ d₇ c₇ b₇ a₈ d₈ c₈ b₈
    a₉ d₉ c₉ b₉ a₁₀ d₁₀ c₁₀ b₁₀ a₁₁ d₁₁ c₁₁ b₁₁ a₁₂ d₁₂ c₁₂ b₁₂
    a₁₃ d₁₃ c₁₃ b₁₃ a₁₄ d₁₄ c₁₄ b₁₄ a₁₅ d₁₅ c₁₅ b₁₅ a₁₆ d₁₆ c₁₆ b₁₆ r
  have h₁ : [0, 1, 2, 3].foldl (operacion x) ⟨a, b, c, d⟩ = ⟨a₁, b₁, c₁, d₁⟩ := rfl
  have h₂ : [4, 5, 6, 7].foldl (operacion x) ⟨a₁, b₁, c₁, d₁⟩ = ⟨a₂, b₂, c₂, d₂⟩ := rfl
  have h₃ : [8, 9, 10, 11].foldl (operacion x) ⟨a₂, b₂, c₂, d₂⟩ = ⟨a₃, b₃, c₃, d₃⟩ := rfl
  have h₄ : [12, 13, 14, 15].foldl (operacion x) ⟨a₃, b₃, c₃, d₃⟩ = ⟨a₄, b₄, c₄, d₄⟩ := rfl
  have h₅ : [16, 17, 18, 19].foldl (operacion x) ⟨a₄, b₄, c₄, d₄⟩ = ⟨a₅, b₅, c₅, d₅⟩ := rfl
  have h₆ : [20, 21, 22, 23].foldl (operacion x) ⟨a₅, b₅, c₅, d₅⟩ = ⟨a₆, b₆, c₆, d₆⟩ := rfl
  have h₇ : [24, 25, 26, 27].foldl (operacion x) ⟨a₆, b₆, c₆, d₆⟩ = ⟨a₇, b₇, c₇, d₇⟩ := rfl
  have h₈ : [28, 29, 30, 31].foldl (operacion x) ⟨a₇, b₇, c₇, d₇⟩ = ⟨a₈, b₈, c₈, d₈⟩ := rfl
  have h₉ : [32, 33, 34, 35].foldl (operacion x) ⟨a₈, b₈, c₈, d₈⟩ = ⟨a₉, b₉, c₉, d₉⟩ := rfl
  have h₁₀ : [36, 37, 38, 39].foldl (operacion x) ⟨a₉, b₉, c₉, d₉⟩ = ⟨a₁₀, b₁₀, c₁₀, d₁₀⟩ := rfl
  have h₁₁ : [40, 41, 42, 43].foldl (operacion x) ⟨a₁₀, b₁₀, c₁₀, d₁₀⟩ = ⟨a₁₁, b₁₁, c₁₁, d₁₁⟩ := rfl
  have h₁₂ : [44, 45, 46, 47].foldl (operacion x) ⟨a₁₁, b₁₁, c₁₁, d₁₁⟩ = ⟨a₁₂, b₁₂, c₁₂, d₁₂⟩ := rfl
  have h₁₃ : [48, 49, 50, 51].foldl (operacion x) ⟨a₁₂, b₁₂, c₁₂, d₁₂⟩ = ⟨a₁₃, b₁₃, c₁₃, d₁₃⟩ := rfl
  have h₁₄ : [52, 53, 54, 55].foldl (operacion x) ⟨a₁₃, b₁₃, c₁₃, d₁₃⟩ = ⟨a₁₄, b₁₄, c₁₄, d₁₄⟩ := rfl
  have h₁₅ : [56, 57, 58, 59].foldl (operacion x) ⟨a₁₄, b₁₄, c₁₄, d₁₄⟩ = ⟨a₁₅, b₁₅, c₁₅, d₁₅⟩ := rfl
  have h₁₆ : [60, 61, 62, 63].foldl (operacion x) ⟨a₁₅, b₁₅, c₁₅, d₁₅⟩ = ⟨a₁₆, b₁₆, c₁₆, d₁₆⟩ := rfl
  have hrange : List.range 64 =
      [0, 1, 2, 3] ++ [4, 5, 6, 7] ++ [8, 9, 10, 11] ++ [12, 13, 14, 15] ++
      [16, 17, 18, 19] ++ [20, 21, 22, 23] ++ [24, 25, 26, 27] ++ [28, 29, 30, 31] ++
      [32, 33, 34, 35] ++ [36, 37, 38, 39] ++ [40, 41, 42, 43] ++ [44, 45, 46, 47] ++
      [48, 49, 50, 51] ++ [52, 53, 54, 55] ++ [56, 57, 58, 59] ++ [60, 61, 62, 63] := rfl
  have hr : r = ⟨a₁₆, b₁₆, c₁₆, d₁₆⟩ := by
    show (List.range 64).foldl (operacion x) ⟨a, b, c, d⟩ = _
    rw [hrange]
    simp only [List.foldl_append, h₁, h₂, h₃, h₄, h₅, h₆, h₇, h₈, h₉, h₁₀, h₁₁, h₁₂, h₁₃, h₁₄, h₁₅, h₁₆]
  rw [hr]

theorem toBitVec_funcion (i : Nat) (x y z : UInt32) :
    (funcion i x y z).toBitVec = MessageDigest.function i x.toBitVec y.toBitVec z.toBitVec := by
  unfold funcion MessageDigest.function
  generalize i / 16 = ronda
  match ronda with
  | 0 => rfl
  | 1 => rfl
  | 2 => rfl
  | _ + 3 => rfl

theorem registers_operacion {x : Nat → UInt32} {X : Nat → Word} (hx : ∀ k < 16, (x k).toBitVec = X k) (q : State)
    {i : Nat} (hi : i < 64) : (operacion x q i).registers = MessageDigest.operation X q.registers i := by
  have hshift : ∀ i < 64, 0 < shift i ∧ shift i < 32 := by decide
  have hsource : ∀ i < 64, source i < 16 := by decide
  obtain ⟨hpos, hlt⟩ := hshift i hi
  have hb : (operacion x q i).b.toBitVec = (MessageDigest.operation X q.registers i).b := by
    rw [operacion, MessageDigest.operation, paso, UInt32.toBitVec_add, toBitVec_rotateLeft _ hpos hlt,
      UInt32.toBitVec_add, UInt32.toBitVec_add, UInt32.toBitVec_add, toBitVec_funcion, hx _ (hsource i hi),
      MessageDigest.T_eq hi, BitVec.add_comm]
    rfl
  rw [State.registers, hb]
  rfl

/-- **A call of `transform` is the compression of a block.** -/
theorem registers_transform (st : State) {block : Cadena} (hblock : block.length = 64) :
    (transform st block).registers = MessageDigest.compress st.registers block := by
  have hwords : ∀ k < 16, ((decode block).getD k 0).toBitVec = word ((block.drop (4 * k)).take 4) := fun k hk =>
    toBitVec_decode (by omega)
  have hfold := List.foldl_rel (l := List.range 64) (r := fun q q' => State.registers q = q')
    (f := operacion fun k => (decode block).getD k 0) (a := st) rfl fun i hi q q' hq => by
      subst hq
      exact registers_operacion hwords q (List.mem_range.mp hi)
  rw [transform_eq, MessageDigest.compress, ← hfold]
  rfl

/-! ## The message -/

theorem registers_foldl (st : State) (xs : Cadena) :
    ((bloques 64 xs).foldl transform st).registers = (bloques 64 xs).foldl MessageDigest.compress st.registers :=
  List.foldl_rel (r := fun q q' => State.registers q = q') rfl fun block hblock q q' hq => by
    subst hq
    exact registers_transform q (length_of_mem_bloques hblock)

theorem digest_registers (q : State) :
    q.digest = toBytes 4 q.registers.a.toNat ++ toBytes 4 q.registers.b.toNat ++ toBytes 4 q.registers.c.toNat ++
      toBytes 4 q.registers.d.toNat := by
  rw [State.digest, encode, List.flatMap_cons, List.flatMap_cons, List.flatMap_cons, List.flatMap_cons,
    List.flatMap_nil, wordBytes_eq, wordBytes_eq, wordBytes_eq, wordBytes_eq, List.append_nil, List.append_assoc,
    List.append_assoc]
  rfl

theorem padding_eq {n : Nat} (hpos : 0 < n) (hn : n ≤ 64) : padding n = 0x80 :: List.replicate (n - 1) 0 := by
  obtain ⟨k, rfl⟩ := Nat.exists_eq_add_of_lt hpos
  rw [padding, Nat.zero_add, List.take_succ_cons, List.take_replicate, Nat.min_eq_left (by omega),
    Nat.add_sub_cancel]

theorem encode_count (m : MD5) : encode [m.count₀, m.count₁] = toBytes 8 m.cuenta := by
  have h₀ := m.count₀.toNat_lt
  have hlow : m.cuenta % 256 ^ 4 = m.count₀.toNat := by
    unfold cuenta
    omega
  have hhigh : m.cuenta / 256 ^ 4 = m.count₁.toNat := by
    unfold cuenta
    omega
  rw [show 8 = 4 + 4 from rfl, MessageDigest.toBytes_add, ← MessageDigest.toBytes_mod 4 m.cuenta, hlow, hhigh, encode,
    List.flatMap_cons, List.flatMap_cons, List.flatMap_nil, wordBytes_eq, wordBytes_eq, List.append_nil]

/-- **What `finalize` feeds is the padding of the message**, when the count is that of its bits. -/
theorem cierre_eq {m : MD5} {n : Nat} (h : m.cuenta = 8 * n % 2 ^ 64) : m.cierre = MessageDigest.padding n := by
  have hindice : m.indice = n % 64 := by
    rw [indice_eq, h]
    omega
  have hpadLen : m.padLen = (119 - n % 64) % 64 + 1 := by
    rw [padLen, hindice]
    split <;> omega
  have hcount : toBytes 8 m.cuenta = toBytes 8 (8 * n) := by
    rw [h]
    exact MessageDigest.toBytes_mod 8 (8 * n)
  rw [cierre, hpadLen, padding_eq (by omega) (by omega), Nat.add_sub_cancel, encode_count, hcount]
  rfl

theorem flatMap_hexByte (bs : Cadena) : bs.flatMap hexByte = MessageDigest.hex bs := by
  have hdigit : ∀ n < 16, hexDigit n = (bytes "0123456789abcdef").getD n 0 := by decide
  refine List.flatMap_congr fun b _ => ?_
  have hb := b.toNat_lt
  rw [hexByte, hdigit _ (by omega), hdigit _ (Nat.mod_lt _ (by decide))]
  rfl

end MD5

open MD5 in
/-- The text that `md5` gives is that of the digest, as far as the 32 bits of the length go. -/
theorem md5_eq_hex {s : Cadena} (hs : s.length < 2 ^ 32) : md5 s = MessageDigest.hex (MessageDigest.digest s) := by
  have hinitial : MD5.init.state.registers = MessageDigest.initial := rfl
  have hcuenta : (Maquina.inicial.update s hs).cuenta = 8 * s.length % 2 ^ 64 :=
    (cuenta_update _ hs).trans (congrArg (· % 2 ^ 64) (Nat.zero_add _))
  -- the text and what `finalize` adds to it go through the stream together
  have hflujo : ((Maquina.inicial.update s hs).flujo.alimentar transform
      (Maquina.inicial.update s hs).cierre).estado =
      (bloques 64 (MessageDigest.padded s)).foldl transform MD5.init.state := by
    rw [Objeto.flujo_update, ← Flujo.alimentar_append, cierre_eq hcuenta]
    show (absorber 64 transform MD5.init.state ([] ++ MessageDigest.padded s)).1 = _
    rw [List.nil_append, absorber_eq (by decide)]
  have htext : md5 s = _ := (Maquina.inicial.update s hs).hexdigest_finalize (finalized_update _ _)
  rw [htext, hflujo, flatMap_hexByte, digest_registers, registers_foldl, hinitial]
  rfl

/-- **`md5` computes the MD5 message digest.** Below `2 ^ 32 - 64` bytes it returns, whatever the memory of the object
held before, and its text is that of the digest of the string: 32 lower-case hexadecimal digits. -/
theorem md5_digest (m : MD5.Objeto) (s : Cadena) (hs : s.length < 2 ^ 32 - 64) :
    MD5.Maquina.md5 m s = some (md5 s) ∧ md5 s = MessageDigest.hex (MessageDigest.digest s) ∧
      (md5 s).length = 32 ∧ ∀ c ∈ md5 s, IsHex c := by
  have hlt : s.length < 2 ^ 32 := hs.trans (by decide)
  have hreturns : s.length % 2 ^ 32 < 2 ^ 32 - 64 := by rwa [Nat.mod_eq_of_lt hlt]
  exact ⟨MD5.Maquina.md5_eq_some m hreturns, md5_eq_hex hlt, length_md5 s, fun c hc => isHex_md5 s hc⟩

/-- The digest of `abc`. -/
theorem md5_digest_abc : (bytes "abc").length < 2 ^ 32 - 64 ∧
    MD5.Maquina.md5 MD5.Maquina.inicial (bytes "abc") = some (bytes "900150983cd24fb0d6963f7d28e17f72") ∧
    bytes "900150983cd24fb0d6963f7d28e17f72" = MessageDigest.hex (MessageDigest.digest (bytes "abc")) := by
  have hs : (bytes "abc").length < 2 ^ 32 - 64 := by decide
  have hmd5 : md5 (bytes "abc") = bytes "900150983cd24fb0d6963f7d28e17f72" := by decide +kernel
  obtain ⟨hrun, htext, -⟩ := md5_digest MD5.Maquina.inicial (bytes "abc") hs
  rw [hmd5] at hrun htext
  exact ⟨hs, hrun, htext⟩

end MensajeroX
