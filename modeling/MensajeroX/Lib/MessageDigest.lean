import MensajeroX.Lib.Bytes
import MensajeroX.Lib.Bloques
import MensajeroX.Lib.Seno

/-!
# The MD5 message digest

The function that the name MD5 stands for, in the steps of its definition: the message is padded to whole blocks of 64
bytes, four registers are taken through the blocks with 64 operations for each, and the digest is their bytes. Words
are bit vectors, the rotation is that of the library, and the constants are integer parts of sines.

* `padded`, `compress`, `digest` : the three steps;
* `hex` : the text of a digest;
* `T_eq` : the table of the constants.
-/

namespace MessageDigest
open Bytes

abbrev Word := BitVec 32

/-! ## Numbers and bytes, low-order byte first -/

def ofBytes (bs : Cadena) : Nat := Nat.ofDigits 256 (bs.map UInt8.toNat)

def toBytes (n v : Nat) : Cadena := (List.range n).map fun r => UInt8.ofNat (v / 256 ^ r)

def word (bs : Cadena) : Word := BitVec.ofNat 32 (ofBytes bs)

/-! ## The operations -/

structure Registers where
  a : Word
  b : Word
  c : Word
  d : Word
deriving DecidableEq

def initial : Registers where
  a := word [0x01, 0x23, 0x45, 0x67]
  b := word [0x89, 0xab, 0xcd, 0xef]
  c := word [0xfe, 0xdc, 0xba, 0x98]
  d := word [0x76, 0x54, 0x32, 0x10]

def F (x y z : Word) : Word := x &&& y ||| ~~~x &&& z

def G (x y z : Word) : Word := x &&& z ||| y &&& ~~~z

def H (x y z : Word) : Word := x ^^^ y ^^^ z

def I (x y z : Word) : Word := y ^^^ (x ||| ~~~z)

/-- The function of the `i`th operation: one for each round of sixteen. -/
def function (i : Nat) : Word → Word → Word → Word :=
  match i / 16 with
  | 0 => F
  | 1 => G
  | 2 => H
  | _ => I

/-- The word of the block that the `i`th operation reads. -/
def source (i : Nat) : Nat :=
  match i / 16 with
  | 0 => i % 16
  | 1 => (5 * i + 1) % 16
  | 2 => (3 * i + 5) % 16
  | _ => 7 * i % 16

/-- The rotation of the `i`th operation: four in turn in each round. -/
def shift (i : Nat) : Nat :=
  match i / 16 with
  | 0 => [7, 12, 17, 22].getD (i % 4) 0
  | 1 => [5, 9, 14, 20].getD (i % 4) 0
  | 2 => [4, 11, 16, 23].getD (i % 4) 0
  | _ => [6, 10, 15, 21].getD (i % 4) 0

/-- The constant of the `i`th operation, counted from one: the integer part of `2 ^ 32 * |sin i|`. -/
noncomputable def T (i : Nat) : Word := BitVec.ofNat 32 ⌊(2 ^ 32 : ℝ) * |Real.sin i|⌋₊

/-- The `i`th operation with the words `X` of a block. The registers change places, so that the next operation has the
same form. -/
noncomputable def operation (X : Nat → Word) (q : Registers) (i : Nat) : Registers where
  a := q.d
  b := q.b + (q.a + function i q.b q.c q.d + X (source i) + T (i + 1)).rotateLeft (shift i)
  c := q.b
  d := q.c

noncomputable def compress (q : Registers) (block : Cadena) : Registers :=
  let X := fun k => word ((block.drop (4 * k)).take 4)
  let r := (List.range 64).foldl (operation X) q
  ⟨q.a + r.a, q.b + r.b, q.c + r.c, q.d + r.d⟩

/-! ## The message -/

/-- What is added to a message of `n` bytes: a one bit, zero bits up to 8 bytes short of a whole block, and the 64
low-order bits of the number of bits of the message. -/
def padding (n : Nat) : Cadena := 0x80 :: (List.replicate ((119 - n % 64) % 64) 0 ++ toBytes 8 (8 * n))

def padded (message : Cadena) : Cadena := message ++ padding message.length

noncomputable def digest (message : Cadena) : Cadena :=
  let q := (Bloques.bloques 64 (padded message)).foldl compress initial
  toBytes 4 q.a.toNat ++ toBytes 4 q.b.toNat ++ toBytes 4 q.c.toNat ++ toBytes 4 q.d.toNat

/-- Two lower-case hexadecimal digits for each byte, the high-order one first. -/
def hex (bs : Cadena) : Cadena :=
  bs.flatMap fun b => [b.toNat / 16, b.toNat % 16].map fun n => (bytes "0123456789abcdef").getD n 0

/-! ## The constants -/

def sines : List Nat :=
  [0xd76aa478, 0xe8c7b756, 0x242070db, 0xc1bdceee, 0xf57c0faf, 0x4787c62a, 0xa8304613, 0xfd469501,
    0x698098d8, 0x8b44f7af, 0xffff5bb1, 0x895cd7be, 0x6b901122, 0xfd987193, 0xa679438e, 0x49b40821,
    0xf61e2562, 0xc040b340, 0x265e5a51, 0xe9b6c7aa, 0xd62f105d, 0x02441453, 0xd8a1e681, 0xe7d3fbc8,
    0x21e1cde6, 0xc33707d6, 0xf4d50d87, 0x455a14ed, 0xa9e3e905, 0xfcefa3f8, 0x676f02d9, 0x8d2a4c8a,
    0xfffa3942, 0x8771f681, 0x6d9d6122, 0xfde5380c, 0xa4beea44, 0x4bdecfa9, 0xf6bb4b60, 0xbebfbc70,
    0x289b7ec6, 0xeaa127fa, 0xd4ef3085, 0x04881d05, 0xd9d4d039, 0xe6db99e5, 0x1fa27cf8, 0xc4ac5665,
    0xf4292244, 0x432aff97, 0xab9423a7, 0xfc93a039, 0x655b59c3, 0x8f0ccc92, 0xffeff47d, 0x85845dd1,
    0x6fa87e4f, 0xfe2ce6e0, 0xa3014314, 0x4e0811a1, 0xf7537e82, 0xbd3af235, 0x2ad7d2bb, 0xeb86d391]

/-- **The table holds the integer parts of the sines.** -/
theorem T_eq {i : Nat} (hi : i < 64) : T (i + 1) = BitVec.ofNat 32 (sines.getD i 0) := by
  have hall : ∀ i < 64, Seno.Certifica (2 ^ 32) (i + 1) (sines.getD i 0) := by decide +kernel
  have hfloor := (hall i hi).floor_eq (Nat.le_of_lt (by omega))
  rw [Nat.cast_pow, Nat.cast_ofNat] at hfloor
  rw [T, hfloor]

/-! ## Bytes of numbers -/

theorem toBytes_add (m n v : Nat) : toBytes (m + n) v = toBytes m v ++ toBytes n (v / 256 ^ m) := by
  rw [toBytes, List.range_add, List.map_append, List.map_map]
  refine congrArg (toBytes m v ++ ·) (List.map_congr_left fun r _ => ?_)
  rw [Function.comp_apply, pow_add, Nat.div_div_eq_div_mul]

theorem toBytes_mod (n v : Nat) : toBytes n (v % 256 ^ n) = toBytes n v := by
  refine List.map_congr_left fun r hr => ?_
  obtain ⟨k, rfl⟩ : ∃ k, n = r + (k + 1) := ⟨n - r - 1, by have := List.mem_range.mp hr; omega⟩
  have hdvd : 2 ^ 8 ∣ 256 ^ (k + 1) := Dvd.intro_left (256 ^ k) rfl
  apply UInt8.toNat.inj
  rw [UInt8.toNat_ofNat', UInt8.toNat_ofNat', pow_add, Nat.mod_mul_right_div_self, Nat.mod_mod_of_dvd _ hdvd]

end MessageDigest
