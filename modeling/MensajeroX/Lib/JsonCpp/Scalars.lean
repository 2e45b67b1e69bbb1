import MensajeroX.Lib.JsonCpp.Grammar

/-!
# Arrays of strings and numbers

The arrays of strings and numbers that any client may write, with the texts that they stand for: strings with every
escape of JSON, numbers with sign, fraction and exponent, and blanks between the tokens. The writer of this library
writes only some of them.

* `Body s t` : `t` is what stands between the quotes of a string with the text `s`;
* `Scalar s t` : `t` is a string or a number with the text `s`;
* `Scalars ss t` : `t` is an array of strings and numbers with the texts `ss`;
* `parse_scalars` : **the reader accepts them and keeps the texts.**
-/

namespace JsonCpp
open Bytes

/-! ## Strings -/

def IsHigh (u : Nat) : Prop := 0xD800 ≤ u ∧ u ≤ 0xDBFF

def IsLow (u : Nat) : Prop := 0xDC00 ≤ u ∧ u ≤ 0xDFFF

def Quad (q : Cadena) (u : Nat) : Prop := decodeUnicodeEscapeSequence q = some (u, [])

/-- What stands between the quotes of a string. The first half of a surrogate pair has no text without the second. -/
inductive Body : Cadena → Cadena → Prop
  | nil : Body [] []
  | plain {c : UInt8} {s t : Cadena} (hq : c ≠ 0x22) (hb : c ≠ 0x5c) (h : Body s t) : Body (c :: s) (c :: t)
  | letter {e b : UInt8} {s t : Cadena} (he : simpleEscape e = some b) (h : Body s t) : Body (b :: s) (0x5c :: e :: t)
  | unicode {q s t : Cadena} {u : Nat} (hq : Quad q u) (hu : ¬ IsHigh u) (h : Body s t) :
    Body (codePointToUTF8 u ++ s) (0x5c :: 0x75 :: (q ++ t))
  | pair {q q' s t : Cadena} {u u' : Nat} (hq : Quad q u) (hu : IsHigh u) (hq' : Quad q' u') (hu' : IsLow u')
    (h : Body s t) :
    Body (codePointToUTF8 (0x10000 + (u - 0xD800) * 0x400 + (u' - 0xDC00)) ++ s)
      (0x5c :: 0x75 :: (q ++ 0x5c :: 0x75 :: (q' ++ t)))

theorem hexValue_plain {c : UInt8} {n : Nat} (h : hexValue c = some n) : c ≠ 0x22 ∧ c ≠ 0x5c := by
  have hquote : hexValue 0x22 = none := rfl
  have hbackslash : hexValue 0x5c = none := rfl
  constructor
  · rintro rfl
    rw [hquote] at h
    cases h
  · rintro rfl
    rw [hbackslash] at h
    cases h

section Quad
variable {q : Cadena} {u : Nat} (hq : Quad q u)
include hq

theorem Quad.digits : ∃ a b c d w x y z, hexValue a = some w ∧ hexValue b = some x ∧ hexValue c = some y ∧
    hexValue d = some z ∧ q = [a, b, c, d] ∧ u = ((w * 16 + x) * 16 + y) * 16 + z := by
  unfold Quad decodeUnicodeEscapeSequence at hq
  split at hq
  · simp only [Option.bind_eq_bind, Option.bind_eq_some_iff, Option.pure_def, Option.some.injEq, Prod.mk.injEq] at hq
    obtain ⟨w, hw, x, hx, y, hy, z, hz, rfl, rfl⟩ := hq
    exact ⟨_, _, _, _, w, x, y, z, hw, hx, hy, hz, rfl, rfl⟩
  · cases hq

theorem Quad.plain : ∀ c ∈ q, c ≠ 0x22 ∧ c ≠ 0x5c := by
  obtain ⟨a, b, c, d, _, _, _, _, ha, hb, hc, hd, rfl, -⟩ := hq.digits
  simp only [List.forall_mem_cons]
  exact ⟨hexValue_plain ha, hexValue_plain hb, hexValue_plain hc, hexValue_plain hd, fun _ h => by cases h⟩

theorem Quad.decode (rest : Cadena) : decodeUnicodeEscapeSequence (q ++ rest) = some (u, rest) := by
  obtain ⟨a, b, c, d, _, _, _, _, ha, hb, hc, hd, rfl, rfl⟩ := hq.digits
  simp only [List.cons_append, List.nil_append, decodeUnicodeEscapeSequence, ha, hb, hc, hd]
  rfl

theorem Quad.length : q.length = 4 := by
  obtain ⟨_, _, _, _, _, _, _, _, -, -, -, -, rfl, -⟩ := hq.digits
  rfl

theorem Quad.codePoint (hu : ¬ IsHigh u) (rest : Cadena) : decodeUnicodeCodePoint (q ++ rest) = some (u, rest) := by
  rw [decodeUnicodeCodePoint, hq.decode]
  exact if_neg hu

theorem Quad.codePoint_pair (hu : IsHigh u) {q' : Cadena} {u' : Nat} (hq' : Quad q' u') (hu' : IsLow u') (rest : Cadena) :
    decodeUnicodeCodePoint (q ++ 0x5c :: 0x75 :: (q' ++ rest)) =
      some (0x10000 + (u - 0xD800) * 0x400 + (u' - 0xDC00), rest) := by
  have hlen := hq'.length
  have hfits : ¬ ((0x5c :: 0x75 :: (q' ++ rest)).length < 6 ∨
      (0x5c :: 0x75 :: (q' ++ rest)).take 2 ≠ [(0x5c : UInt8), 0x75]) := by
    rintro (h | h)
    · simp only [List.length_cons, List.length_append] at h
      omega
    · exact h rfl
  have hcode : 0x10000 + u % 0x400 * 0x400 + u' % 0x400 = 0x10000 + (u - 0xD800) * 0x400 + (u' - 0xDC00) := by
    unfold IsHigh at hu
    unfold IsLow at hu'
    omega
  rw [decodeUnicodeCodePoint, hq.decode]
  refine (if_pos hu).trans ((if_neg hfits).trans ?_)
  rw [List.drop_succ_cons, List.drop_succ_cons, List.drop_zero, hq'.decode, ← hcode]
  rfl

end Quad

theorem simpleEscape_ne {e b : UInt8} (h : simpleEscape e = some b) : e ≠ 0x75 := by
  rintro rfl
  have hnone : simpleEscape 0x75 = none := rfl
  rw [hnone] at h
  cases h

theorem readString_plains {q : Cadena} (hq : ∀ c ∈ q, c ≠ 0x22 ∧ c ≠ 0x5c) {cs : Cadena} (hcs : cs ≠ []) :
    readString (q ++ cs) = ((readString cs).1, q ++ (readString cs).2.1, (readString cs).2.2) := by
  induction q with
  | nil => rfl
  | cons c q ih =>
    obtain ⟨⟨h₁, h₂⟩, hq⟩ := List.forall_mem_cons.mp hq
    rw [List.cons_append, readString_plain h₁ h₂ (List.append_ne_nil_of_right_ne_nil _ hcs), ih hq]
    rfl

theorem Body.readString {s t : Cadena} (h : Body s t) (rest : Cadena) :
    JsonCpp.readString (t ++ 0x22 :: rest) = (true, t, rest) := by
  have hne : ∀ t : Cadena, t ++ 0x22 :: rest ≠ [] := fun t => List.append_ne_nil_of_right_ne_nil _ (List.cons_ne_nil _ _)
  induction h with
  | nil =>
    cases rest with
    | nil => rfl
    | cons c rest => simp [JsonCpp.readString]
  | plain hq hb h ih => rw [List.cons_append, readString_plain hq hb (hne _), ih]
  | letter he h ih => rw [List.cons_append, List.cons_append, readString_backslash, ih]
  | unicode hq hu h ih =>
    rw [List.cons_append, List.cons_append, List.append_assoc, readString_backslash,
      readString_plains hq.plain (hne _), ih]
  | pair hq hu hq' hu' h ih =>
    simp only [List.cons_append, List.append_assoc]
    rw [readString_backslash, readString_plains hq.plain (List.cons_ne_nil _ _), readString_backslash,
      readString_plains hq'.plain (hne _), ih]

theorem Body.decodeString {s t : Cadena} (h : Body s t) : JsonCpp.decodeString t = some s := by
  induction h with
  | nil => rw [JsonCpp.decodeString]
  | plain hq hb h ih => rw [decodeString_plain hq hb, ih, Option.map_some]
  | letter he h ih => rw [decodeString_letter (simpleEscape_ne he) he, ih, Option.map_some]
  | unicode hq hu h ih => rw [decodeString_unicode (hq.codePoint hu _), ih, Option.map_some]
  | pair hq hu hq' hu' h ih => rw [decodeString_unicode (hq.codePoint_pair hu hq' hu' _), ih, Option.map_some]

/-! ## Numbers -/

def Digits (ds : Cadena) : Prop := ∀ c ∈ ds, isDigit c = true

/-- The number that `n` and the digits after it denote. -/
def digitsValue (n : Nat) (ds : Cadena) : Nat := ds.foldl (fun n c => n * 10 + (c.toNat - 48)) n

inductive Fraction : Cadena → Prop
  | absent : Fraction []
  | digits {ds : Cadena} (h : Digits ds) (hne : ds ≠ []) : Fraction (0x2e :: ds)

inductive Exponent : Cadena → Prop
  | absent : Exponent []
  | digits {e : UInt8} {sg ds : Cadena} (he : e = 0x65 ∨ e = 0x45) (hsg : sg = [] ∨ sg = [0x2b] ∨ sg = [0x2d])
    (h : Digits ds) (hne : ds ≠ []) : Exponent (e :: (sg ++ ds))

theorem digitsValue_cons (n : Nat) (c : UInt8) (ds : Cadena) :
    digitsValue n (c :: ds) = digitsValue (n * 10 + (c.toNat - 48)) ds := by
  rw [digitsValue, List.foldl_cons, digitsValue]

theorem le_digitsValue (n : Nat) (ds : Cadena) : n ≤ digitsValue n ds := by
  induction ds generalizing n with
  | nil => exact le_rfl
  | cons c ds ih =>
    rw [digitsValue_cons]
    have := ih (n * 10 + (c.toNat - 48))
    omega

theorem mul_le_digitsValue (n : Nat) {ds : Cadena} (hne : ds ≠ []) : n * 10 ≤ digitsValue n ds := by
  obtain ⟨c, ds, rfl⟩ := List.exists_cons_of_ne_nil hne
  rw [digitsValue_cons]
  have := le_digitsValue (n * 10 + (c.toNat - 48)) ds
  omega

/-- The digit loop of `decodeNumber` is exact: its test before each digit fails only when the number is too large. -/
theorem decodeDigits_eq {max : Nat} (hmax : 10 ≤ max) {ds : Cadena} (hds : Digits ds) {n : Nat} (hn : n ≤ max) :
    decodeDigits max n ds = if digitsValue n ds ≤ max then some (digitsValue n ds) else none := by
  induction ds generalizing n with
  | nil => rw [digitsValue, List.foldl_nil, if_pos hn, decodeDigits]
  | cons c ds ih =>
    obtain ⟨hc, hds⟩ := List.forall_mem_cons.mp hds
    have hdigit : c.toNat - 48 ≤ 9 := by
      simp only [isDigit, Bool.and_eq_true, decide_eq_true_eq, UInt8.le_iff_toNat_le] at hc
      have := hc.2
      simp only [UInt8.reduceToNat] at this
      omega
    rw [decodeDigits, if_pos hc, digitsValue_cons]
    have hle := le_digitsValue (n * 10 + (c.toNat - 48)) ds
    split_ifs with hlarge hfits hfits
    · obtain ⟨hn', hcase⟩ := hlarge
      rcases hcase with h | h | h
      · omega
      · have := mul_le_digitsValue (n * 10 + (c.toNat - 48)) h
        omega
      · omega
    · rfl
    · rw [ih hds (by omega), if_pos hfits]
    · rw [ih hds (by omega), if_neg hfits]

/-- A byte that is no digit makes the token a `double`. -/
theorem decodeDigits_eq_none {max : Nat} {cs : Cadena} {c : UInt8} (hmem : c ∈ cs) (hc : isDigit c = false) (n : Nat) :
    decodeDigits max n cs = none := by
  induction cs generalizing n with
  | nil => cases hmem
  | cons b cs ih =>
    rw [decodeDigits]
    split_ifs with hb
    · rfl
    · rcases List.mem_cons.mp hmem with rfl | hmem
      · rw [hc] at hb
        cases hb
      · exact ih hmem _
    · rfl

/-! ### Where a number ends -/

def Stops (p : UInt8 → Bool) (cs : Cadena) : Prop := ∀ c ∈ cs.head?, p c = false

def isNumeric (c : UInt8) : Bool := isDigit c || c == 0x2e || c == 0x65 || c == 0x45

theorem takeWhile_stops {p : UInt8 → Bool} {ds cs : Cadena} (hds : ∀ c ∈ ds, p c = true) (hcs : Stops p cs) :
    (ds ++ cs).takeWhile p = ds ∧ (ds ++ cs).dropWhile p = cs := by
  rw [List.takeWhile_append_of_pos hds, List.dropWhile_append_of_pos hds]
  cases cs with
  | nil => simp
  | cons c cs =>
    have hc : p c = false := hcs c rfl
    simp [hc]

theorem isNumeric_eq_false {c : UInt8} (h : isNumeric c = false) :
    isDigit c = false ∧ c ≠ 0x2e ∧ c ≠ 0x65 ∧ c ≠ 0x45 := by
  simp only [isNumeric, Bool.or_eq_false_iff, beq_eq_false_iff_ne] at h
  obtain ⟨⟨⟨h₁, h₂⟩, h₃⟩, h₄⟩ := h
  exact ⟨h₁, h₂, h₃, h₄⟩

theorem Follows.stops {rest : Cadena} (h : Follows rest) : Stops isNumeric rest := by
  have hspace : ∀ c : UInt8, isSpace c = true → isNumeric c = false := by
    apply forall_byte
    decide
  obtain ⟨s, c, cs, hs, hc, rfl⟩ := h
  intro b hb
  cases s with
  | nil =>
    cases hb
    rcases hc with rfl | rfl <;> rfl
  | cons b' s =>
    cases hb
    exact hspace b (hs b List.mem_cons_self)

section Number
variable {rest : Cadena} (hrest : Stops isNumeric rest)
include hrest

theorem peek_of_stops : peek rest ≠ 0x2e ∧ peek rest ≠ 0x65 ∧ peek rest ≠ 0x45 := by
  cases rest with
  | nil => decide
  | cons c rest => exact (isNumeric_eq_false (hrest c rfl)).2

theorem stops_isDigit : Stops isDigit rest := fun c hc => (isNumeric_eq_false (hrest c hc)).1

theorem Exponent.stops {x : Cadena} (hx : Exponent x) : Stops isDigit (x ++ rest) ∧ peek (x ++ rest) ≠ 0x2e := by
  cases hx with
  | absent => exact ⟨stops_isDigit hrest, (peek_of_stops hrest).1⟩
  | digits he hsg h hne =>
    rcases he with rfl | rfl
    · exact ⟨fun c hc => by cases hc; rfl, fun h' => by cases h'⟩
    · exact ⟨fun c hc => by cases hc; rfl, fun h' => by cases h'⟩

theorem Exponent.read {x : Cadena} (hx : Exponent x) : readExponent (x ++ rest) = (x, rest) := by
  cases hx with
  | absent =>
    obtain ⟨-, h₁, h₂⟩ := peek_of_stops hrest
    rw [List.nil_append, readExponent, if_neg (not_or.mpr ⟨h₁, h₂⟩)]
  | digits he hsg h hne =>
    rename_i e sg ds
    have hsign : readSign (sg ++ (ds ++ rest)) = (sg, ds ++ rest) := by
      rcases hsg with rfl | rfl | rfl
      · obtain ⟨c, ds, rfl⟩ := List.exists_cons_of_ne_nil hne
        have hc : isDigit c = true := h c List.mem_cons_self
        have hno : ¬ (c = 0x2b ∨ c = 0x2d) := by
          rintro (rfl | rfl) <;> exact absurd hc (by decide)
        exact if_neg hno
      · rfl
      · rfl
    obtain ⟨htake, hdrop⟩ := takeWhile_stops h (stops_isDigit hrest)
    have hpeek : peek (e :: (sg ++ ds) ++ rest) = e := rfl
    rw [readExponent, hpeek, if_pos he]
    simp only [List.cons_append, List.tail_cons, List.append_assoc, hsign, htake, hdrop]

theorem Fraction.stops {f x : Cadena} (hf : Fraction f) (hx : Exponent x) : Stops isDigit (f ++ (x ++ rest)) := by
  cases hf with
  | absent => exact (hx.stops hrest).1
  | digits h hne => exact fun c hc => by cases hc; rfl

theorem Fraction.read {f x : Cadena} (hf : Fraction f) (hx : Exponent x) :
    readFraction (f ++ (x ++ rest)) = (f, x ++ rest) := by
  cases hf with
  | absent => exact if_neg (hx.stops hrest).2
  | digits h hne =>
    obtain ⟨htake, hdrop⟩ := takeWhile_stops h (hx.stops hrest).1
    have hpeek : ∀ cs, peek (0x2e :: cs) = 0x2e := fun _ => rfl
    rw [List.cons_append, readFraction, hpeek, if_pos rfl, List.tail_cons, htake, hdrop]

theorem readNumber_eq {ds f x : Cadena} (hds : Digits ds) (hf : Fraction f) (hx : Exponent x) :
    readNumber (ds ++ (f ++ (x ++ rest))) = (ds ++ (f ++ x), rest) := by
  obtain ⟨htake, hdrop⟩ := takeWhile_stops hds (hf.stops hrest hx)
  rw [readNumber]
  simp only [htake, hdrop, hf.read hrest hx, hx.read hrest, List.append_assoc]

end Number

theorem readToken_number {c : UInt8} (hc : isDigit c = true ∨ c = 0x2d) (cs : Cadena) :
    readToken (c :: cs) = numberToken c cs := by
  have hbyte : ∀ c : UInt8, isDigit c = true ∨ c = 0x2d → isSpace c = false ∧ c ≠ 0x7b ∧ c ≠ 0x7d ∧ c ≠ 0x5b ∧
      c ≠ 0x5d ∧ c ≠ 0x22 ∧ c ≠ 0x2f := by
    apply forall_byte
    decide
  obtain ⟨hsp, h₁, h₂, h₃, h₄, h₅, h₆⟩ := hbyte c hc
  rw [readToken, skipSpaces, List.dropWhile_cons_of_neg (by rw [hsp]; exact Bool.false_ne_true)]
  simp only [tokenAfter, if_neg h₁, if_neg h₂, if_neg h₃, if_neg h₄, if_neg h₅, if_neg h₆, if_pos hc]

/-! ## Scalars -/

def signText (negative : Bool) : Cadena := if negative then [0x2d] else []

/-- The largest absolute value that is read as an integer. -/
def maxInteger (negative : Bool) : Nat := if negative then 2 ^ 63 else 2 ^ 64 - 1

/-- The strings and numbers of JSON, with their texts. An integer has its decimal text; a number with a fraction or an
exponent, or too large for 64 bits, has the text of the `double` that the C library reads. -/
inductive Scalar [LibC] : Cadena → Cadena → Prop
  | string {s t : Cadena} (h : Body s t) : Scalar s (0x22 :: (t ++ [0x22]))
  | integer (negative : Bool) {ds : Cadena} (h : Digits ds) (hne : ds ≠ [])
    (hfits : digitsValue 0 ds ≤ maxInteger negative) :
    Scalar (intToString (if negative then -digitsValue 0 ds else digitsValue 0 ds)) (signText negative ++ ds)
  | real (negative : Bool) {ds f x : Cadena} {d : Double} (h : Digits ds) (hne : ds ≠ []) (hf : Fraction f)
    (hx : Exponent x) (hreal : f ++ x ≠ [] ∨ maxInteger negative < digitsValue 0 ds)
    (hd : LibC.ofText (signText negative ++ (ds ++ (f ++ x))) = some d) :
    Scalar (LibC.toText d) (signText negative ++ (ds ++ (f ++ x)))

/-- The reader reads `t` as the value `v` inside an array. -/
def ReadAs [LibC] (v : Value) (t : Cadena) : Prop :=
  (∃ c cs, t = c :: cs ∧ isSpace c = false ∧ c ≠ 0x5d) ∧
    ∀ depth current rest, Follows rest → readValue (depth + 1) current (t ++ rest) = .ok ⟨true, v, rest⟩

theorem heads_readAs [LibC] : Heads ReadAs := fun _ _ h => h.1

theorem readsElems_readAs [LibC] (depth : Nat) : ReadsElems (readValue (depth + 1)) ReadAs := by
  intro v t h current s rest hs hrest
  rw [readValue_blank hs]
  exact h.2 depth current rest hrest

section Scalar
variable [LibC]

theorem Body.readAs {s t : Cadena} (h : Body s t) : ReadAs (.string s) (0x22 :: (t ++ [0x22])) := by
  refine ⟨⟨_, _, rfl, by decide, by decide⟩, fun depth current rest _ => ?_⟩
  have htoken : readToken (0x22 :: (t ++ 0x22 :: rest)) = ({ type := .string, text := t }, rest) := by
    have hstart : readToken (0x22 :: (t ++ 0x22 :: rest)) = stringToken (t ++ 0x22 :: rest) := rfl
    rw [hstart, stringToken, h.readString]
    rfl
  rw [List.cons_append, List.append_assoc, List.singleton_append, readValue,
    skipCommentTokens_eq (by rw [htoken]; exact TokenType.noConfusion), htoken]
  simp only [h.decodeString]

theorem readAs_number {negative : Bool} {ds f x : Cadena} (h : Digits ds) (hne : ds ≠ []) (hf : Fraction f)
    (hx : Exponent x) {v : Value} (hv : decodeNumber (signText negative ++ (ds ++ (f ++ x))) = some v) :
    ReadAs v (signText negative ++ (ds ++ (f ++ x))) := by
  -- the first byte is the sign or a digit, and the lexer takes the rest
  obtain ⟨c, cs, hcs, hc, hread⟩ : ∃ c cs, signText negative ++ (ds ++ (f ++ x)) = c :: cs ∧
      (isDigit c = true ∨ c = 0x2d) ∧ ∀ rest, Follows rest → readNumber (cs ++ rest) = (cs, rest) := by
    cases negative with
    | true =>
      refine ⟨0x2d, ds ++ (f ++ x), rfl, .inr rfl, fun rest hrest => ?_⟩
      rw [List.append_assoc, List.append_assoc]
      exact readNumber_eq hrest.stops h hf hx
    | false =>
      obtain ⟨c, ds, rfl⟩ := List.exists_cons_of_ne_nil hne
      obtain ⟨hc, hds⟩ := List.forall_mem_cons.mp h
      refine ⟨c, ds ++ (f ++ x), rfl, .inl hc, fun rest hrest => ?_⟩
      rw [List.append_assoc, List.append_assoc]
      exact readNumber_eq hrest.stops hds hf hx
  have hbyte : ∀ c : UInt8, isDigit c = true ∨ c = 0x2d → isSpace c = false ∧ c ≠ 0x5d := by
    apply forall_byte
    decide
  refine ⟨⟨c, cs, hcs, hbyte c hc⟩, fun depth current rest hrest => ?_⟩
  have htoken : readToken (c :: (cs ++ rest)) = ({ type := .number, text := c :: cs }, rest) := by
    rw [readToken_number hc, numberToken, hread rest hrest]
  rw [hcs] at hv
  rw [hcs, List.cons_append, readValue, skipCommentTokens_eq (by rw [htoken]; exact TokenType.noConfusion), htoken]
  simp only [hv]

theorem decodeNumber_signed (negative : Bool) {ds y : Cadena} (h : Digits ds) (hne : ds ≠ []) :
    decodeNumber (signText negative ++ (ds ++ y)) =
      match decodeDigits (maxInteger negative) 0 (ds ++ y) with
      | none => (LibC.ofText (signText negative ++ (ds ++ y))).map .real
      | some value =>
        if negative then some (.int (-value)) else if value ≤ 2 ^ 31 - 1 then some (.int value) else some (.uint value) := by
  cases negative with
  | true => rfl
  | false =>
    obtain ⟨c, ds, rfl⟩ := List.exists_cons_of_ne_nil hne
    have hc : isDigit c = true := h c List.mem_cons_self
    have hno : ¬ (((c :: ds ++ y).head? = some 0x2d)) := by
      intro heq
      cases heq
      cases hc
    have hsign : signText false ++ (c :: ds ++ y) = c :: ds ++ y := rfl
    have hmax : maxInteger false = 2 ^ 64 - 1 := rfl
    rw [hsign, hmax, decodeNumber, if_neg hno, if_neg hno]
    cases decodeDigits (2 ^ 64 - 1) 0 (c :: ds ++ y) with
    | none => rfl
    | some value => exact if_neg hno

/-- **The reader keeps the text of a scalar.** -/
theorem Scalar.exists_readAs {s t : Cadena} (h : Scalar s t) : ∃ v, v.asString = .ok s ∧ ReadAs v t := by
  have hmax : ∀ negative, 10 ≤ maxInteger negative := by decide
  cases h with
  | string h => exact ⟨_, rfl, h.readAs⟩
  | integer negative h hne hfits =>
    rename_i ds
    have hdigits : decodeDigits (maxInteger negative) 0 (ds ++ ([] ++ [])) = some (digitsValue 0 ds) := by
      rw [List.append_nil, List.append_nil, decodeDigits_eq (hmax negative) h (Nat.zero_le _), if_pos hfits]
    have hdecode := decodeNumber_signed negative h hne (y := [] ++ [])
    rw [hdigits] at hdecode
    have hread : ∀ v, decodeNumber (signText negative ++ (ds ++ ([] ++ []))) = some v → ReadAs v (signText negative ++ ds) := by
      intro v hv
      have := readAs_number h hne .absent .absent hv
      rwa [List.append_nil, List.append_nil] at this
    cases negative with
    | true => exact ⟨.int (-digitsValue 0 ds), rfl, hread _ hdecode⟩
    | false =>
      simp only [Bool.false_eq_true, if_false] at hdecode ⊢
      split_ifs at hdecode
      · exact ⟨.int (digitsValue 0 ds), rfl, hread _ hdecode⟩
      · exact ⟨.uint (digitsValue 0 ds), rfl, hread _ hdecode⟩
  | real negative h hne hf hx hreal hd =>
    rename_i ds f x d
    have hdigits : decodeDigits (maxInteger negative) 0 (ds ++ (f ++ x)) = none := by
      by_cases hnil : f ++ x = []
      · have hlarge := hreal.resolve_left (not_not_intro hnil)
        rw [hnil, List.append_nil, decodeDigits_eq (hmax negative) h (Nat.zero_le _), if_neg (by omega)]
      · obtain ⟨c, hmem, hc⟩ : ∃ c ∈ f ++ x, isDigit c = false := by
          cases hf with
          | digits h hne => exact ⟨0x2e, List.mem_cons_self, rfl⟩
          | absent =>
            cases hx with
            | absent => exact absurd rfl hnil
            | digits he hsg h hne =>
              refine ⟨_, List.mem_cons_self, ?_⟩
              rcases he with rfl | rfl <;> rfl
        exact decodeDigits_eq_none (List.mem_append_right _ hmem) hc 0
    have hdecode := decodeNumber_signed negative h hne (y := f ++ x)
    rw [hdigits] at hdecode
    simp only [hd, Option.map_some] at hdecode
    exact ⟨.real d, rfl, readAs_number h hne hf hx hdecode⟩

/-! ## Arrays -/

/-- The arrays of strings and numbers, with the texts of their elements. -/
def Scalars (ss : List Cadena) (t : Cadena) : Prop :=
  ∃ s s' r, Blank s ∧ Blank s' ∧ (ss = [] ∧ Blank r ∨ ∃ r' b, Comma Scalar ss r' ∧ Blank b ∧ r = r' ++ b) ∧
    t = s ++ 0x5b :: (r ++ 0x5d :: s')

theorem Comma.exists_readAs {ss : List Cadena} {r : Cadena} (h : Comma Scalar ss r) :
    ∃ vs, List.Forall₂ (fun v s => v.asString = .ok s) vs ss ∧ Comma ReadAs vs r := by
  induction h with
  | last hs ht =>
    obtain ⟨v, hv, hread⟩ := ht.exists_readAs
    exact ⟨[v], .cons hv .nil, .last hs hread⟩
  | more hs ht hs' hr ih =>
    obtain ⟨v, hv, hread⟩ := ht.exists_readAs
    obtain ⟨vs, hvs, hreads⟩ := ih
    exact ⟨v :: vs, .cons hv hvs, .more hs hread hs' hreads⟩

/-- **The reader accepts an array of strings and numbers and keeps the texts.** -/
theorem parse_scalars {ss : List Cadena} {t : Cadena} (h : Scalars ss t) :
    ∃ vs, parse t = .ok (true, .array vs) ∧ List.Forall₂ (fun v s => v.asString = .ok s) vs ss := by
  obtain ⟨s, s', r, hs, -, hr, rfl⟩ := h
  have htoken := skipCommentTokens_byte hs (c := 0x5b) (fun _ => rfl) TokenType.noConfusion (r ++ 0x5d :: s')
  have hparse : ∀ vs, readArray (readValue 999) (r ++ 0x5d :: s') = .ok ⟨true, .array vs, s'⟩ →
      parse (s ++ 0x5b :: (r ++ 0x5d :: s')) = .ok (true, .array vs) := by
    intro vs hvs
    rw [parse, stackLimit, readValue, htoken]
    simp only [hvs]
    rfl
  rcases hr with ⟨rfl, hblank⟩ | ⟨r, b, hcomma, hb, rfl⟩
  · refine ⟨[], hparse [] ?_, .nil⟩
    have hskip : skipSpaces (r ++ 0x5d :: s') = 0x5d :: s' := skipSpaces_blank hblank _
    have hclose : readToken (r ++ 0x5d :: s') = ({ type := .arrayEnd }, s') := readToken_blank hblank _
    rw [readArray, hskip, hclose]
    rfl
  · obtain ⟨vs, hvs, hreads⟩ := hcomma.exists_readAs
    refine ⟨vs, hparse vs ?_, hvs⟩
    rw [List.append_assoc]
    exact readArray_comma (readsElems_readAs 998) heads_readAs hreads hb s'

example : Scalars [bytes "a", bytes "-7"] (bytes "[\"\\u0061\", -7]") := by
  have hbody : Body (bytes "a") (bytes "\\u0061") :=
    .unicode (q := bytes "0061") (u := 0x61) rfl (by unfold IsHigh; decide) .nil
  have hdigits : Digits (bytes "7") := by unfold Digits; decide +kernel
  have hnumber : Scalar (bytes "-7") (bytes "-7") := Scalar.integer true hdigits (by decide) (by decide)
  exact ⟨[], [], _, .nil, .nil, .inr ⟨_, [], .more .nil (.string hbody) .nil (.last .space hnumber), .nil, rfl⟩, rfl⟩

end Scalar

end JsonCpp
