import MensajeroX.Lib.Bytes
import MensajeroX.Lib.Separated

/-!
# Percent encoding

Texts that travel inside a URL or a form. `unescape` undoes the encoding, with or without the rule that a `+` is a blank;
`escape` encodes every byte outside a set of safe ones; `form` joins named values and `field` finds one again.

* `length_unescape_le` : undoing the encoding never makes a text longer;
* `unescape_escape` : what was encoded is read back;
* `mem_escape` : the bytes of an encoded text are the safe ones and those of the escapes;
* `field_form` : a form gives back the value under a name, whatever the case of its letters.
-/

namespace Percent
open Bytes

/-! ## Escapes -/

def isHexDigit (c : UInt8) : Bool := isDigit c || (0x41 ≤ c && c ≤ 0x46) || (0x61 ≤ c && c ≤ 0x66)

def hexValue (c : UInt8) : UInt8 := if isDigit c then c - 0x30 else if c ≤ 0x46 then c - 0x37 else c - 0x57

def hexByte (a b : UInt8) : UInt8 := 16 * hexValue a + hexValue b

/-- A byte outside an escape. In a form (`plus`) a `+` is a blank. -/
def plain (plus : Bool) (c : UInt8) : UInt8 := if plus && c == 0x2b then 0x20 else c

/-- Undoes the encoding. A `%` without two hexadecimal digits after it is itself. -/
def unescape (plus : Bool) : Cadena → Cadena
  | [] => []
  | [c] => [plain plus c]
  | [c, a] => [plain plus c, plain plus a]
  | c :: a :: b :: cs =>
    if c = 0x25 ∧ isHexDigit a ∧ isHexDigit b then hexByte a b :: unescape plus cs
    else plain plus c :: unescape plus (a :: b :: cs)

theorem unescape_cons {c : UInt8} (hc : c ≠ 0x25) (plus : Bool) (cs : Cadena) :
    unescape plus (c :: cs) = plain plus c :: unescape plus cs := by
  rcases cs with - | ⟨a, - | ⟨b, cs⟩⟩
  · rfl
  · rfl
  · rw [unescape, if_neg fun h => hc h.1]

theorem unescape_hex {a b : UInt8} (ha : isHexDigit a) (hb : isHexDigit b) (plus : Bool) (cs : Cadena) :
    unescape plus (0x25 :: a :: b :: cs) = hexByte a b :: unescape plus cs := by
  rw [unescape, if_pos ⟨rfl, ha, hb⟩]

theorem unescape_step (plus : Bool) (c : UInt8) (cs : Cadena) :
    unescape plus (c :: cs) =
      if c = 0x25 ∧ 2 ≤ cs.length ∧ isHexDigit (cs.getD 0 0) ∧ isHexDigit (cs.getD 1 0) then
        hexByte (cs.getD 0 0) (cs.getD 1 0) :: unescape plus (cs.drop 2)
      else plain plus c :: unescape plus cs := by
  rcases cs with - | ⟨a, - | ⟨b, cs⟩⟩ <;> simp [unescape]

theorem length_unescape_le (plus : Bool) (s : Cadena) : (unescape plus s).length ≤ s.length := by
  fun_induction unescape plus s with
  | case1 => exact Nat.le_refl _
  | case2 c => exact Nat.le_refl _
  | case3 c a => exact Nat.le_refl _
  | case4 c a b cs h ih => simp only [List.length_cons]; omega
  | case5 c a b cs h ih => simp only [List.length_cons] at ih ⊢; omega

/-- A text without `%`, and in a form without `+`, stands for itself. -/
theorem unescape_of_plain {plus : Bool} {s : Cadena} (h : ∀ c ∈ s, c ≠ 0x25 ∧ plain plus c = c) : unescape plus s = s := by
  induction s with
  | nil => rfl
  | cons c s ih =>
    rw [List.forall_mem_cons] at h
    rw [unescape_cons h.1.1, h.1.2, ih h.2]

/-! ## Encoding -/

section Escape
variable (safe : UInt8 → Bool)

/-- The encoding of a byte: itself if it is safe, `+` for a blank, otherwise its code. -/
def escapeByte (c : UInt8) : Cadena :=
  if safe c then [c] else if c = 0x20 then [0x2b]
  else [0x25, upperHexDigit (c.toNat / 16), upperHexDigit (c.toNat % 16)]

def escape (s : Cadena) : Cadena := s.flatMap (escapeByte safe)

theorem isHexDigit_upperHexDigit : ∀ n < 16, isHexDigit (upperHexDigit n) := by decide

theorem hexByte_upperHexDigit (c : UInt8) :
    hexByte (upperHexDigit (c.toNat / 16)) (upperHexDigit (c.toNat % 16)) = c := by
  revert c
  exact forall_byte (by decide)

variable {safe}

theorem unescape_escapeByte (hpercent : safe 0x25 = false) (hplus : safe 0x2b = false) (c : UInt8) (rest : Cadena) :
    unescape true (escapeByte safe c ++ rest) = c :: unescape true rest := by
  have hlt := c.toNat_lt
  unfold escapeByte
  split_ifs with hsafe hblank
  · have hne : c ≠ 0x25 := fun h => by rw [h, hpercent] at hsafe; exact Bool.noConfusion hsafe
    have hne' : c ≠ 0x2b := fun h => by rw [h, hplus] at hsafe; exact Bool.noConfusion hsafe
    rw [List.singleton_append, unescape_cons hne]
    simp [plain, hne']
  · rw [List.singleton_append, unescape_cons (by decide), hblank]
    rfl
  · have hhigh := isHexDigit_upperHexDigit (c.toNat / 16) (by omega)
    have hlow := isHexDigit_upperHexDigit (c.toNat % 16) (by omega)
    simp only [List.cons_append, List.nil_append]
    rw [unescape_hex hhigh hlow, hexByte_upperHexDigit]

/-- **What was encoded is read back**, when neither `%` nor `+` is safe. -/
theorem unescape_escape (hpercent : safe 0x25 = false) (hplus : safe 0x2b = false) (s : Cadena) :
    unescape true (escape safe s) = s := by
  induction s with
  | nil => rfl
  | cons c s ih => rw [escape, List.flatMap_cons, unescape_escapeByte hpercent hplus, ← escape, ih]

theorem mem_escape {s : Cadena} {d : UInt8} (h : d ∈ escape safe s) :
    safe d = true ∨ d = 0x2b ∨ d = 0x25 ∨ isHexDigit d = true := by
  rw [escape, List.mem_flatMap] at h
  obtain ⟨c, -, hd⟩ := h
  have hlt := c.toNat_lt
  unfold escapeByte at hd
  split_ifs at hd with hsafe hblank
  · rw [List.mem_singleton] at hd
    exact .inl (hd ▸ hsafe)
  · rw [List.mem_singleton] at hd
    exact .inr (.inl hd)
  · simp only [List.mem_cons, List.not_mem_nil, or_false] at hd
    obtain rfl | rfl | rfl := hd
    · exact .inr (.inr (.inl rfl))
    · exact .inr (.inr (.inr (isHexDigit_upperHexDigit _ (by omega))))
    · exact .inr (.inr (.inr (isHexDigit_upperHexDigit _ (by omega))))

end Escape

/-! ## Forms -/

def pair (p : Cadena × Cadena) : Cadena := p.1 ++ 0x3d :: p.2

/-- `name=value` for every pair, joined by `&`. -/
def form (ps : List (Cadena × Cadena)) : Cadena := [0x26].intercalate (ps.map pair)

theorem form_cons (p : Cadena × Cadena) (ps : List (Cadena × Cadena)) :
    form (p :: ps) = pair p ++ ps.flatMap fun q => 0x26 :: pair q := by
  induction ps generalizing p with
  | nil => simp [form]
  | cons q ps ih =>
    have hcons : form (p :: q :: ps) = pair p ++ 0x26 :: form (q :: ps) := by simp [form, List.intercalate_cons_cons]
    rw [hcons, ih, List.flatMap_cons, List.cons_append]

/-- The letters of a name in lower case. -/
def fold (s : Cadena) : Cadena := s.map tolower

theorem length_fold (s : Cadena) : (fold s).length = s.length := List.length_map _

theorem equals_mem_fold {s : Cadena} : (0x3d : UInt8) ∈ fold s ↔ (0x3d : UInt8) ∈ s := by
  have heq : ∀ c : UInt8, tolower c = 0x3d ↔ c = 0x3d := forall_byte (by decide)
  simp only [fold, List.mem_map, heq, exists_eq_right]

def valueOf (name piece : Cadena) : Option Cadena :=
  if fold (piece.take name.length) = fold name ∧ piece[name.length]? = some 0x3d then some (piece.drop (name.length + 1))
  else none

def field (name data : Cadena) : Option Cadena := (List.splitOn 0x26 data).findSome? (valueOf name)

theorem valueOf_pair {name n : Cadena} (v : Cadena) (h : fold n = fold name) : valueOf name (pair (n, v)) = some v := by
  have hlen : name.length = n.length := by rw [← length_fold name, ← h, length_fold]
  have htake : (n ++ 0x3d :: v).take name.length = n := by rw [hlen, List.take_left]
  have hget : (n ++ 0x3d :: v)[name.length]? = some 0x3d := by simp [hlen]
  have hdrop : (n ++ 0x3d :: v).drop (name.length + 1) = v := by simp [hlen, List.drop_append]
  rw [valueOf, pair, htake, hget, hdrop, if_pos ⟨h, rfl⟩]

theorem valueOf_pair_eq_none {name n : Cadena} (v : Cadena) (hn : (0x3d : UInt8) ∉ n) (hname : (0x3d : UInt8) ∉ name)
    (h : fold n ≠ fold name) : valueOf name (pair (n, v)) = none := by
  rw [valueOf, if_neg]
  rintro ⟨hfold, hget⟩
  have hshort : ¬name.length < n.length := fun hlt => by
    rw [pair, List.getElem?_append_left hlt] at hget
    exact hn (List.mem_of_getElem? hget)
  have hlong : ¬n.length < name.length := fun hlt => by
    apply hname
    rw [← equals_mem_fold, ← hfold, equals_mem_fold, List.mem_take_iff_getElem]
    exact ⟨n.length, by simp [pair]; omega, by simp [pair]⟩
  have hlen : name.length = n.length := by omega
  apply h
  rw [← hfold, pair, hlen, List.take_left]

def Clean (p : Cadena × Cadena) : Prop := (0x3d : UInt8) ∉ p.1 ∧ (0x26 : UInt8) ∉ p.1 ∧ (0x26 : UInt8) ∉ p.2

theorem Clean.not_mem_pair {p : Cadena × Cadena} (h : Clean p) : (0x26 : UInt8) ∉ pair p := by
  simp only [pair, List.mem_append, List.mem_cons, not_or]
  exact ⟨h.2.1, by decide, h.2.2⟩

theorem splitOn_form {ps : List (Cadena × Cadena)} (hps : ∀ p ∈ ps, Clean p) (hne : ps ≠ []) :
    List.splitOn 0x26 (form ps) = ps.map pair := by
  apply List.splitOn_intercalate
  · intro t ht
    obtain ⟨p, hp, rfl⟩ := List.mem_map.mp ht
    exact (hps p hp).not_mem_pair
  · simpa using hne

/-- **A form gives back the first value under a name**, whatever the case of its letters. -/
theorem field_form {ps : List (Cadena × Cadena)} (hps : ∀ p ∈ ps, Clean p) {name : Cadena}
    (hname : (0x3d : UInt8) ∉ name) :
    field name (form ps) = (ps.find? fun p => fold p.1 = fold name).map Prod.snd := by
  by_cases hne : ps = []
  · subst hne
    simp [field, form, valueOf]
  rw [field, splitOn_form hps hne, List.findSome?_map]
  clear hne
  induction ps with
  | nil => rfl
  | cons p ps ih =>
    rw [List.forall_mem_cons] at hps
    rw [List.findSome?_cons, Function.comp_apply, List.find?_cons]
    by_cases hp : fold p.1 = fold name
    · rw [show valueOf name (pair p) = some p.2 from valueOf_pair p.2 hp, decide_eq_true hp]
      rfl
    · rw [show valueOf name (pair p) = none from valueOf_pair_eq_none p.2 hps.1.1 hname hp, decide_eq_false hp]
      exact ih hps.2

end Percent
