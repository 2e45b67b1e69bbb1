import MensajeroX.Lib.Percent

/-!
# Numerals and chunks

`numeral b n` writes a number in the base `b`, as `%d` and `%X` of `printf` do, and `value` reads it. A body that is sent
while it is written goes in chunks: the size of each one in hexadecimal, a line end, the bytes and a line end, and a chunk
of size zero at the end.

* `value_numeral` : a numeral is read back;
* `decode_encode` : a body in non-empty chunks is read back, and what follows it is left.
-/

namespace Chunked
open Bytes Percent

/-! ## Numerals -/

def digit (c : UInt8) : Nat := (hexValue c).toNat

/-- A number in the base `b ≤ 16`. -/
def numeral (b n : Nat) : Cadena := if n = 0 then [0x30] else ((Nat.digits b n).map upperHexDigit).reverse

def value (b : Nat) (s : Cadena) : Nat := s.foldl (fun n c => n * b + digit c) 0

theorem digit_upperHexDigit : ∀ n < 16, digit (upperHexDigit n) = n := by decide

theorem foldr_digits {b : Nat} {ds : List Nat} (hds : ∀ d ∈ ds, d < 16) :
    (ds.map upperHexDigit).foldr (fun c n => n * b + digit c) 0 = Nat.ofDigits b ds := by
  induction ds with
  | nil => rfl
  | cons d ds ih =>
    rw [List.forall_mem_cons] at hds
    rw [List.map_cons, List.foldr_cons, ih hds.2, digit_upperHexDigit d hds.1, Nat.ofDigits_cons]
    ring

variable {b : Nat}

/-- **A numeral is read back.** -/
theorem value_numeral (hb : 1 < b) (hb' : b ≤ 16) (n : Nat) : value b (numeral b n) = n := by
  unfold numeral value
  split_ifs with hn
  · subst hn
    simp [digit, hexValue, isDigit]
  · rw [List.foldl_reverse, foldr_digits, Nat.ofDigits_digits]
    intro d hd
    exact Nat.lt_of_lt_of_le (Nat.digits_lt_base hb hd) hb'

theorem exists_of_mem_numeral (hb : 1 < b) {n : Nat} {c : UInt8} (h : c ∈ numeral b n) : ∃ d < b, c = upperHexDigit d := by
  unfold numeral at h
  split_ifs at h with hn
  · rw [List.mem_singleton] at h
    exact ⟨0, by omega, h⟩
  · rw [List.mem_reverse, List.mem_map] at h
    obtain ⟨d, hd, rfl⟩ := h
    exact ⟨d, Nat.digits_lt_base hb hd, rfl⟩

theorem isHexDigit_of_mem_numeral (hb : 1 < b) (hb' : b ≤ 16) {n : Nat} {c : UInt8} (h : c ∈ numeral b n) :
    isHexDigit c = true := by
  obtain ⟨d, hd, rfl⟩ := exists_of_mem_numeral hb h
  exact isHexDigit_upperHexDigit d (by omega)

theorem numeral_ne_nil (b n : Nat) : numeral b n ≠ [] := by
  unfold numeral
  split_ifs with hn
  · simp
  · simpa [Nat.digits_eq_nil_iff_eq_zero] using hn

/-! ## Chunks -/

def crlf : Cadena := [0x0d, 0x0a]

def chunk (data : Cadena) : Cadena := numeral 16 data.length ++ crlf ++ data ++ crlf

def encode (datas : List Cadena) : Cadena := datas.flatMap chunk ++ chunk []

def readSize (s : Cadena) : Option (Nat × Cadena) :=
  let digits := s.takeWhile isHexDigit
  let rest := s.dropWhile isHexDigit
  if digits ≠ [] ∧ rest.take 2 = crlf then some (value 16 digits, rest.drop 2) else none

/-- The body and what follows it; a chunk of size zero ends it. -/
def readChunks : Nat → Cadena → Option (Cadena × Cadena)
  | 0, _ => none
  | fuel + 1, s =>
    match readSize s with
    | none => none
    | some (n, rest) =>
      if n ≤ rest.length ∧ (rest.drop n).take 2 = crlf then
        if n = 0 then some ([], rest.drop 2)
        else (readChunks fuel (rest.drop (n + 2))).map fun r => (rest.take n ++ r.1, r.2)
      else none

def decode (s : Cadena) : Option (Cadena × Cadena) := readChunks (s.length + 1) s

theorem readSize_numeral (n : Nat) (rest : Cadena) : readSize (numeral 16 n ++ crlf ++ rest) = some (n, rest) := by
  have hall : ∀ c ∈ numeral 16 n, isHexDigit c = true :=
    fun c hc => isHexDigit_of_mem_numeral (by decide) (by decide) hc
  have htake : (crlf ++ rest).takeWhile isHexDigit = [] := rfl
  have hdrop : (crlf ++ rest).dropWhile isHexDigit = crlf ++ rest := rfl
  rw [readSize, List.append_assoc, List.takeWhile_append_of_pos hall, List.dropWhile_append_of_pos hall, htake, hdrop,
    List.append_nil, value_numeral (by decide) (by decide)]
  exact if_pos ⟨numeral_ne_nil 16 n, rfl⟩

theorem readChunks_end (fuel : Nat) (rest : Cadena) : readChunks (fuel + 1) (chunk [] ++ rest) = some ([], rest) := by
  have hsize := readSize_numeral 0 (crlf ++ rest)
  have hchunk : chunk [] ++ rest = numeral 16 0 ++ crlf ++ (crlf ++ rest) := by simp [chunk]
  rw [hchunk, readChunks, hsize]
  simp [crlf]

theorem readChunks_chunk {data : Cadena} (hdata : data ≠ []) (fuel : Nat) (rest : Cadena) :
    readChunks (fuel + 1) (chunk data ++ rest) =
      (readChunks fuel rest).map fun r => (data ++ r.1, r.2) := by
  have hsize := readSize_numeral data.length (data ++ (crlf ++ rest))
  have hchunk : chunk data ++ rest = numeral 16 data.length ++ crlf ++ (data ++ (crlf ++ rest)) := by simp [chunk]
  have hlen : data.length ≠ 0 := by simpa using hdata
  have hcrlf : crlf.length = 2 := rfl
  have hle : data.length ≤ (data ++ (crlf ++ rest)).length := by
    rw [List.length_append]
    omega
  have hdrop : (data ++ (crlf ++ rest)).drop (data.length + 2) = rest := by
    rw [← List.append_assoc, ← hcrlf, ← List.length_append, List.drop_left]
  rw [hchunk, readChunks, hsize]
  dsimp only
  rw [List.drop_left, ← hcrlf, List.take_left, if_pos ⟨hle, rfl⟩, if_neg hlen, hcrlf, hdrop, List.take_left]

/-- **A body in non-empty chunks is read back**, and what follows it is left. -/
theorem readChunks_encode {datas : List Cadena} (hne : ∀ data ∈ datas, data ≠ []) (rest : Cadena) {fuel : Nat}
    (hfuel : datas.length < fuel) : readChunks fuel (encode datas ++ rest) = some (datas.flatten, rest) := by
  induction datas generalizing fuel with
  | nil =>
    obtain ⟨fuel, rfl⟩ : ∃ n, fuel = n + 1 := ⟨fuel - 1, by simp at hfuel; omega⟩
    exact readChunks_end fuel rest
  | cons data datas ih =>
    rw [List.forall_mem_cons] at hne
    rw [List.length_cons] at hfuel
    obtain ⟨fuel, rfl⟩ : ∃ n, fuel = n + 1 := ⟨fuel - 1, by omega⟩
    have hcons : encode (data :: datas) ++ rest = chunk data ++ (encode datas ++ rest) := by simp [encode]
    rw [hcons, readChunks_chunk hne.1, ih hne.2 (by omega)]
    rfl

theorem length_le_encode (datas : List Cadena) : datas.length ≤ (encode datas).length := by
  induction datas with
  | nil => simp
  | cons data datas ih =>
    have hcons : encode (data :: datas) = chunk data ++ encode datas := by simp [encode]
    have hchunk : 0 < (chunk data).length := by simp [chunk, crlf]
    rw [hcons, List.length_append, List.length_cons]
    omega

theorem decode_encode {datas : List Cadena} (hne : ∀ data ∈ datas, data ≠ []) (rest : Cadena) :
    decode (encode datas ++ rest) = some (datas.flatten, rest) := by
  apply readChunks_encode hne
  have := length_le_encode datas
  rw [List.length_append]
  omega

end Chunked
