import MensajeroX.Lib.Bytes

/-!
# `MD5`: the hash behind every identifier

`md5.cpp` as it computes: a context with a 64-byte buffer, a bit counter in two 32-bit words and four chaining
words, fed by `update`, closed by `finalize` and printed by `hexdigest`. The places in the input and in the buffer are
whole numbers here; `MD5.Maquina` has them as the 32-bit words of the source.

* `length_md5`, `isHex_md5` : an identifier is 32 lower-case hexadecimal digits;
* `not_mem_md5` : so no separator of the program occurs in one.
-/

namespace MensajeroX
open Bytes

namespace MD5

/-! ## The round functions -/

def F (x y z : UInt32) : UInt32 := (x &&& y) ||| (~~~x &&& z)

def G (x y z : UInt32) : UInt32 := (x &&& z) ||| (y &&& ~~~z)

def H (x y z : UInt32) : UInt32 := x ^^^ y ^^^ z

def I (x y z : UInt32) : UInt32 := y ^^^ (x ||| ~~~z)

def rotateLeft (x n : UInt32) : UInt32 := (x <<< n) ||| (x >>> (32 - n))

def paso (f : UInt32 → UInt32 → UInt32 → UInt32) (a b c d x s ac : UInt32) : UInt32 :=
  rotateLeft (a + f b c d + x + ac) s + b

def FF := paso F

def GG := paso G

def HH := paso H

def II := paso I

/-- The chaining words `state[0..3]`. -/
structure State where
  a : UInt32
  b : UInt32
  c : UInt32
  d : UInt32
deriving DecidableEq, Repr

/-! ## Words and bytes -/

def decode : Cadena → List UInt32
  | b₀ :: b₁ :: b₂ :: b₃ :: rest =>
    (b₀.toUInt32 ||| (b₁.toUInt32 <<< 8) ||| (b₂.toUInt32 <<< 16) ||| (b₃.toUInt32 <<< 24)) :: decode rest
  | _ => []

def wordBytes (w : UInt32) : Cadena :=
  [(w &&& 0xff).toUInt8, ((w >>> 8) &&& 0xff).toUInt8, ((w >>> 16) &&& 0xff).toUInt8,
    ((w >>> 24) &&& 0xff).toUInt8]

def encode (ws : List UInt32) : Cadena := ws.flatMap wordBytes

def transform (st : State) (block : Cadena) : State :=
  let xs := decode block
  let x := fun i => xs.getD i 0
  let a := st.a
  let b := st.b
  let c := st.c
  let d := st.d
  -- Round 1
  let a := FF a b c d (x 0) 7 0xd76aa478
  let d := FF d a b c (x 1) 12 0xe8c7b756
  let c := FF c d a b (x 2) 17 0x242070db
  let b := FF b c d a (x 3) 22 0xc1bdceee
  let a := FF a b c d (x 4) 7 0xf57c0faf
  let d := FF d a b c (x 5) 12 0x4787c62a
  let c := FF c d a b (x 6) 17 0xa8304613
  let b := FF b c d a (x 7) 22 0xfd469501
  let a := FF a b c d (x 8) 7 0x698098d8
  let d := FF d a b c (x 9) 12 0x8b44f7af
  let c := FF c d a b (x 10) 17 0xffff5bb1
  let b := FF b c d a (x 11) 22 0x895cd7be
  let a := FF a b c d (x 12) 7 0x6b901122
  let d := FF d a b c (x 13) 12 0xfd987193
  let c := FF c d a b (x 14) 17 0xa679438e
  let b := FF b c d a (x 15) 22 0x49b40821
  -- Round 2
  let a := GG a b c d (x 1) 5 0xf61e2562
  let d := GG d a b c (x 6) 9 0xc040b340
  let c := GG c d a b (x 11) 14 0x265e5a51
  let b := GG b c d a (x 0) 20 0xe9b6c7aa
  let a := GG a b c d (x 5) 5 0xd62f105d
  let d := GG d a b c (x 10) 9 0x2441453
  let c := GG c d a b (x 15) 14 0xd8a1e681
  let b := GG b c d a (x 4) 20 0xe7d3fbc8
  let a := GG a b c d (x 9) 5 0x21e1cde6
  let d := GG d a b c (x 14) 9 0xc33707d6
  let c := GG c d a b (x 3) 14 0xf4d50d87
  let b := GG b c d a (x 8) 20 0x455a14ed
  let a := GG a b c d (x 13) 5 0xa9e3e905
  let d := GG d a b c (x 2) 9 0xfcefa3f8
  let c := GG c d a b (x 7) 14 0x676f02d9
  let b := GG b c d a (x 12) 20 0x8d2a4c8a
  -- Round 3
  let a := HH a b c d (x 5) 4 0xfffa3942
  let d := HH d a b c (x 8) 11 0x8771f681
  let c := HH c d a b (x 11) 16 0x6d9d6122
  let b := HH b c d a (x 14) 23 0xfde5380c
  let a := HH a b c d (x 1) 4 0xa4beea44
  let d := HH d a b c (x 4) 11 0x4bdecfa9
  let c := HH c d a b (x 7) 16 0xf6bb4b60
  let b := HH b c d a (x 10) 23 0xbebfbc70
  let a := HH a b c d (x 13) 4 0x289b7ec6
  let d := HH d a b c (x 0) 11 0xeaa127fa
  let c := HH c d a b (x 3) 16 0xd4ef3085
  let b := HH b c d a (x 6) 23 0x4881d05
  let a := HH a b c d (x 9) 4 0xd9d4d039
  let d := HH d a b c (x 12) 11 0xe6db99e5
  let c := HH c d a b (x 15) 16 0x1fa27cf8
  let b := HH b c d a (x 2) 23 0xc4ac5665
  -- Round 4
  let a := II a b c d (x 0) 6 0xf4292244
  let d := II d a b c (x 7) 10 0x432aff97
  let c := II c d a b (x 14) 15 0xab9423a7
  let b := II b c d a (x 5) 21 0xfc93a039
  let a := II a b c d (x 12) 6 0x655b59c3
  let d := II d a b c (x 3) 10 0x8f0ccc92
  let c := II c d a b (x 10) 15 0xffeff47d
  let b := II b c d a (x 1) 21 0x85845dd1
  let a := II a b c d (x 8) 6 0x6fa87e4f
  let d := II d a b c (x 15) 10 0xfe2ce6e0
  let c := II c d a b (x 6) 15 0xa3014314
  let b := II b c d a (x 13) 21 0x4e0811a1
  let a := II a b c d (x 4) 6 0xf7537e82
  let d := II d a b c (x 11) 10 0xbd3af235
  let c := II c d a b (x 2) 15 0x2ad7d2bb
  let b := II b c d a (x 9) 21 0xeb86d391
  ⟨st.a + a, st.b + b, st.c + c, st.d + d⟩

end MD5

/-! ## The context -/

structure MD5 where
  finalized : Bool
  /-- bytes that did not fit in the last 64-byte chunk, and stale ones after them -/
  buffer : Cadena
  /-- low word of the bit counter -/
  count₀ : UInt32
  /-- high word of the bit counter -/
  count₁ : UInt32
  state : MD5.State
  digest : Cadena
deriving DecidableEq, Repr

namespace MD5

def init : MD5 where
  finalized := false
  buffer := List.replicate 64 0
  count₀ := 0
  count₁ := 0
  state := ⟨0x67452301, 0xefcdab89, 0x98badcfe, 0x10325476⟩
  digest := List.replicate 16 0

/-- `memcpy(&buffer[index], src, src.length)`. -/
def memcpy (buffer : Cadena) (index : Nat) (src : Cadena) : Cadena :=
  buffer.take index ++ src ++ buffer.drop (index + src.length)

/-- The loop over whole blocks: the new chaining words and the bytes left over. -/
def transformBlocks (st : State) (input : Cadena) : State × Cadena :=
  if 64 ≤ input.length then transformBlocks (transform st (input.take 64)) (input.drop 64) else (st, input)
termination_by input.length
decreasing_by simp only [List.length_drop]; omega

/-- `update(input, length)` with `length` the 32-bit length of the input. -/
def update (m : MD5) (input : Cadena) : MD5 :=
  let length : UInt32 := input.length.toUInt32
  let input := input.take length.toNat
  let index := m.count₀.toNat / 8 % 64
  let count₀ := m.count₀ + (length <<< 3)
  -- carry of the low word, then the bits shifted out of the length
  let count₁ := if count₀ < (length <<< 3) then m.count₁ + 1 else m.count₁
  let count₁ := count₁ + (length >>> 29)
  let firstpart := 64 - index
  if firstpart ≤ input.length then
    let buffer := memcpy m.buffer index (input.take firstpart)
    let r := transformBlocks (transform m.state buffer) (input.drop firstpart)
    { m with count₀ := count₀, count₁ := count₁, state := r.1, buffer := memcpy buffer 0 r.2 }
  else
    { m with count₀ := count₀, count₁ := count₁, buffer := memcpy m.buffer index input }

def padding (n : Nat) : Cadena := (0x80 :: List.replicate 63 0).take n

def finalize (m : MD5) : MD5 :=
  if m.finalized then m
  else
    let bits := encode [m.count₀, m.count₁]
    let index := m.count₀.toNat / 8 % 64
    let padLen := if index < 56 then 56 - index else 120 - index
    let m := (m.update (padding padLen)).update bits
    { m with
      finalized := true
      digest := encode [m.state.a, m.state.b, m.state.c, m.state.d]
      buffer := List.replicate 64 0
      count₀ := 0
      count₁ := 0 }

/-- `sprintf("%02x")` of a byte. -/
def hexByte (b : UInt8) : Cadena := [hexDigit (b.toNat / 16), hexDigit (b.toNat % 16)]

def hexdigest (m : MD5) : Cadena := if m.finalized then m.digest.flatMap hexByte else []

end MD5

/-- `md5(str)`. -/
def md5 (str : Cadena) : Cadena := ((MD5.init.update str).finalize).hexdigest

/-! ## The shape of an identifier -/

namespace MD5

theorem length_encode (ws : List UInt32) : (encode ws).length = 4 * ws.length := by
  induction ws with
  | nil => rfl
  | cons w ws ih =>
    simp only [encode, List.flatMap_cons, List.length_append, List.length_cons] at ih ⊢
    rw [ih]
    simp only [wordBytes, List.length_cons, List.length_nil]
    omega

theorem finalized_update (m : MD5) (input : Cadena) : (m.update input).finalized = m.finalized := by
  simp only [update]
  split <;> rfl

theorem hexdigest_finalize (m : MD5) (hm : m.finalized = false) :
    ∃ ws : List UInt32, ws.length = 4 ∧ m.finalize.hexdigest = (encode ws).flatMap hexByte := by
  simp only [finalize, hm, Bool.false_eq_true, if_false, hexdigest, if_true]
  exact ⟨_, rfl, rfl⟩

theorem length_flatMap_hexByte (bs : Cadena) : (bs.flatMap hexByte).length = 2 * bs.length := by
  induction bs with
  | nil => rfl
  | cons b bs ih =>
    rw [List.flatMap_cons, List.length_append, ih]
    simp only [hexByte, List.length_cons, List.length_nil]
    omega

theorem isHex_hexByte {b c : UInt8} (hc : c ∈ hexByte b) : IsHex c := by
  have hb := b.toNat_lt
  simp only [hexByte, List.mem_cons, List.not_mem_nil, or_false] at hc
  rcases hc with rfl | rfl
  · exact isHex_hexDigit _ (by omega)
  · exact isHex_hexDigit _ (Nat.mod_lt _ (by decide))

end MD5

theorem md5_eq (str : Cadena) :
    ∃ ws : List UInt32, ws.length = 4 ∧ md5 str = (MD5.encode ws).flatMap MD5.hexByte :=
  MD5.hexdigest_finalize _ (MD5.finalized_update _ _)

theorem length_md5 (str : Cadena) : (md5 str).length = 32 := by
  obtain ⟨ws, hws, h⟩ := md5_eq str
  rw [h, MD5.length_flatMap_hexByte, MD5.length_encode, hws]

theorem isHex_md5 (str : Cadena) {c : UInt8} (hc : c ∈ md5 str) : IsHex c := by
  obtain ⟨ws, -, h⟩ := md5_eq str
  rw [h, List.mem_flatMap] at hc
  obtain ⟨b, -, hb⟩ := hc
  exact MD5.isHex_hexByte hb

theorem md5_ne_nil (str : Cadena) : md5 str ≠ [] := by
  intro h
  have := length_md5 str
  rw [h] at this
  simp at this

/-- A byte that is not a hexadecimal digit does not occur in an identifier. -/
theorem not_mem_md5 {c : UInt8} (hc : ¬ IsHex c) (str : Cadena) : c ∉ md5 str :=
  fun h => hc (isHex_md5 str h)

end MensajeroX
