import Mathlib

/-!
# Byte strings

A `std::string` is a list of bytes. `bytes "text"` is the byte string of a source literal (UTF-8, as the
compiler stores it), and the named bytes are the ASCII characters that the modelled code compares with.
`cstr` is what a C string function sees of a byte string: everything up to the first NUL.
-/

namespace Bytes

/-- A `std::string`. -/
abbrev Cadena := List UInt8

instance : LawfulBEq Cadena := inferInstance

def bytes (s : String) : Cadena := s.toUTF8.data.toList

/-- The bytes before the first NUL. -/
def cstr (s : Cadena) : Cadena := s.takeWhile (· != 0)

theorem cstr_not_mem_zero (s : Cadena) : (0 : UInt8) ∉ cstr s := by
  intro h
  have := List.mem_takeWhile_imp h
  simp at this

theorem cstr_of_not_mem {s : Cadena} (h : (0 : UInt8) ∉ s) : cstr s = s := by
  rw [cstr, List.takeWhile_eq_self_iff]
  intro c hc
  simpa using fun h0 : c = 0 => h (h0 ▸ hc)

theorem append_ne_append {p q : Cadena} (i : Nat) (hp : i < p.length) (hq : i < q.length) (h : p[i]? ≠ q[i]?)
    (x y : Cadena) : p ++ x ≠ q ++ y := by
  intro heq
  apply h
  rw [← List.getElem?_append_left hp, heq, List.getElem?_append_left hq]

theorem takeWhile_word {p : UInt8 → Bool} {w rest : Cadena} (hw : ∀ c ∈ w, p c = true)
    (hrest : ∀ c ∈ rest.head?, p c = false) : (w ++ rest).takeWhile p = w := by
  have hstop : rest.takeWhile p = [] := by
    cases rest with
    | nil => rfl
    | cons c rest => simp [hrest c rfl]
  rw [List.takeWhile_append_of_pos hw, hstop, List.append_nil]

theorem dropWhile_word {p : UInt8 → Bool} {w rest : Cadena} (hw : ∀ c ∈ w, p c = true)
    (hrest : ∀ c ∈ rest.head?, p c = false) : (w ++ rest).dropWhile p = rest := by
  have hstop : rest.dropWhile p = rest := by
    cases rest with
    | nil => rfl
    | cons c rest => simp [hrest c rfl]
  rw [List.dropWhile_append_of_pos hw, hstop]

/-- A C string. -/
structure CString where
  val : Cadena
  not_mem_zero : (0 : UInt8) ∉ val := by decide

/-- `""`. -/
def CString.vacia : CString where
  val := []

/-! ## Characters -/

/-- `c` is one of `'0'`, ..., `'9'`. -/
def isDigit (c : UInt8) : Bool := 48 ≤ c && c ≤ 57

/-- `isspace` in the C locale. -/
def isspace (c : UInt8) : Bool := c == 0x20 || (9 ≤ c && c ≤ 13)

/-- `tolower` in the C locale. -/
def tolower (c : UInt8) : UInt8 := if 0x41 ≤ c && c ≤ 0x5a then c + 0x20 else c

/-- The lower-case hexadecimal digit of `n < 16`. -/
def hexDigit (n : Nat) : UInt8 := if n < 10 then (48 + n).toUInt8 else (87 + n).toUInt8

/-- The upper-case hexadecimal digit of `n < 16`. -/
def upperHexDigit (n : Nat) : UInt8 := if n < 10 then (48 + n).toUInt8 else (55 + n).toUInt8

def IsHex (c : UInt8) : Prop := (48 ≤ c ∧ c ≤ 57) ∨ (97 ≤ c ∧ c ≤ 102)

instance (c : UInt8) : Decidable (IsHex c) := by unfold IsHex; infer_instance

theorem isHex_hexDigit : ∀ n < 16, IsHex (hexDigit n) := by decide

/-- A property of bytes that is checked on every byte, by its two hexadecimal digits. -/
theorem forall_byte {p : UInt8 → Prop} (h : ∀ a b : Fin 16, p (UInt8.ofNat (16 * a.val + b.val))) (c : UInt8) : p c := by
  have hdiv : c.toNat / 16 < 16 := Nat.div_lt_of_lt_mul c.toNat_lt
  have hmod : c.toNat % 16 < 16 := Nat.mod_lt _ (by decide)
  have hc := h ⟨c.toNat / 16, hdiv⟩ ⟨c.toNat % 16, hmod⟩
  rwa [Nat.div_add_mod, UInt8.ofNat_toNat] at hc

end Bytes
