import MensajeroX.Lib.JsonCpp.Writer
import MensajeroX.Lib.JsonCpp.Reader

/-!
# Strings and flat objects

The two passes of the reader over an escaped string, and the document of an object whose members are strings and
booleans, one member to a line. The strings themselves are arbitrary bytes.

* `readString_escape`, `decodeString_escape` : **an escaped string is read back**;
* `toStyledString_flat` : the document of a flat object;
* `Transparent.mem_toStyledString` : the bytes of a document that come from its names and strings.
-/

namespace JsonCpp
open Bytes

/-! ## Strings -/

/-- The three forms of an escaped byte: itself, a letter, or four hexadecimal digits. -/
theorem escapeByte_cases (c : UInt8) :
    (escapeByte c = [c] ∧ c ≠ 0x22 ∧ c ≠ 0x5c) ∨
      (∃ e, escapeByte c = [0x5c, e] ∧ e ≠ 0x75 ∧ simpleEscape e = some c) ∨
      ∃ h l, h < 16 ∧ l < 16 ∧ escapeByte c = [0x5c, 0x75, 0x30, 0x30, upperHexDigit h, upperHexDigit l] ∧
        h * 16 + l = c.toNat ∧ c.toNat ≤ 0x1f := by
  -- the seven bytes with a letter
  have hletter : ∀ b e, escapeByte b = [0x5c, e] → e ≠ 0x75 → simpleEscape e = some b → c = b →
      ∃ e, escapeByte c = [0x5c, e] ∧ e ≠ 0x75 ∧ simpleEscape e = some c := by
    rintro b e hb he hs rfl
    exact ⟨e, hb, he, hs⟩
  by_cases h₁ : c = 0x22
  · exact .inr (.inl (hletter _ 0x22 rfl (by decide) rfl h₁))
  by_cases h₂ : c = 0x5c
  · exact .inr (.inl (hletter _ 0x5c rfl (by decide) rfl h₂))
  by_cases h₃ : c = 0x08
  · exact .inr (.inl (hletter _ 0x62 rfl (by decide) rfl h₃))
  by_cases h₄ : c = 0x0c
  · exact .inr (.inl (hletter _ 0x66 rfl (by decide) rfl h₄))
  by_cases h₅ : c = 0x0a
  · exact .inr (.inl (hletter _ 0x6e rfl (by decide) rfl h₅))
  by_cases h₆ : c = 0x0d
  · exact .inr (.inl (hletter _ 0x72 rfl (by decide) rfl h₆))
  by_cases h₇ : c = 0x09
  · exact .inr (.inl (hletter _ 0x74 rfl (by decide) rfl h₇))
  rw [escapeByte, if_neg h₁, if_neg h₂, if_neg h₃, if_neg h₄, if_neg h₅, if_neg h₆, if_neg h₇]
  by_cases h₈ : c ≤ 0x1f
  · have hc : c.toNat ≤ 0x1f := h₈
    rw [if_pos h₈]
    exact .inr (.inr ⟨c.toNat / 16, c.toNat % 16, by omega, by omega, rfl, by omega, hc⟩)
  · rw [if_neg h₈]
    exact .inl ⟨rfl, h₁, h₂⟩

theorem readString_backslash (e : UInt8) (cs : Cadena) :
    readString (0x5c :: e :: cs) = ((readString cs).1, 0x5c :: e :: (readString cs).2.1, (readString cs).2.2) := by
  rw [readString, if_pos rfl]

theorem readString_plain {c : UInt8} (h₁ : c ≠ 0x22) (h₂ : c ≠ 0x5c) {cs : Cadena} (hcs : cs ≠ []) :
    readString (c :: cs) = ((readString cs).1, c :: (readString cs).2.1, (readString cs).2.2) := by
  obtain ⟨d, ds, rfl⟩ := List.exists_cons_of_ne_nil hcs
  rw [readString, if_neg h₂, if_neg h₁]

theorem upperHexDigit_plain : ∀ n < 16, upperHexDigit n ≠ 0x22 ∧ upperHexDigit n ≠ 0x5c := by decide

theorem hexValue_upperHexDigit : ∀ n < 16, hexValue (upperHexDigit n) = some n := by decide

theorem readString_escapeByte (c : UInt8) {cs : Cadena} (hcs : cs ≠ []) :
    readString (escapeByte c ++ cs) =
      ((readString cs).1, escapeByte c ++ (readString cs).2.1, (readString cs).2.2) := by
  rcases escapeByte_cases c with ⟨he, h₁, h₂⟩ | ⟨e, he, -, -⟩ | ⟨h, l, hh, hl, he, -, -⟩
  · rw [he]
    exact readString_plain h₁ h₂ hcs
  · rw [he]
    exact readString_backslash e cs
  · obtain ⟨hh₁, hh₂⟩ := upperHexDigit_plain h hh
    obtain ⟨hl₁, hl₂⟩ := upperHexDigit_plain l hl
    rw [he]
    simp only [List.cons_append, List.nil_append]
    rw [readString_backslash, readString_plain (by decide) (by decide) (by simp),
      readString_plain (by decide) (by decide) (by simp), readString_plain hh₁ hh₂ (by simp),
      readString_plain hl₁ hl₂ hcs]

theorem readString_escape (s rest : Cadena) :
    readString (escape s ++ 0x22 :: rest) = (true, escape s, rest) := by
  induction s with
  | nil =>
    cases rest with
    | nil => rfl
    | cons c rest => simp [escape, readString]
  | cons c s ih =>
    rw [escape, List.flatMap_cons, List.append_assoc, readString_escapeByte _ (by simp)]
    rw [show s.flatMap escapeByte = escape s from rfl, ih]

theorem decodeString_plain {c : UInt8} (h₁ : c ≠ 0x22) (h₂ : c ≠ 0x5c) (cs : Cadena) :
    decodeString (c :: cs) = (decodeString cs).map (c :: ·) := by
  rw [decodeString.eq_def]
  simp only [if_neg h₁, if_neg h₂]

theorem decodeString_letter {e b : UInt8} (hu : e ≠ 0x75) (he : simpleEscape e = some b) (cs : Cadena) :
    decodeString (0x5c :: e :: cs) = (decodeString cs).map (b :: ·) := by
  rw [decodeString, if_neg (by decide), if_pos rfl]
  simp only [if_neg hu, he]

theorem decodeString_unicode {cs rest : Cadena} {u : Nat} (h : decodeUnicodeCodePoint cs = some (u, rest)) :
    decodeString (0x5c :: 0x75 :: cs) = (decodeString rest).map (codePointToUTF8 u ++ ·) := by
  rw [decodeString, if_neg (by decide), if_pos rfl]
  simp only [if_true]
  split
  · rename_i hnone
    rw [h] at hnone
    cases hnone
  · rename_i hsome
    rw [h] at hsome
    cases hsome
    rfl

theorem decodeString_escapeByte (c : UInt8) (cs : Cadena) :
    decodeString (escapeByte c ++ cs) = (decodeString cs).map (c :: ·) := by
  rcases escapeByte_cases c with ⟨he, h₁, h₂⟩ | ⟨e, he, hu, hs⟩ | ⟨h, l, hh, hl, he, hc, hle⟩
  · rw [he]
    exact decodeString_plain h₁ h₂ cs
  · rw [he]
    exact decodeString_letter hu hs cs
  · have hseq : decodeUnicodeCodePoint (0x30 :: 0x30 :: upperHexDigit h :: upperHexDigit l :: cs) =
        some (c.toNat, cs) := by
      have h0 : hexValue 0x30 = some 0 := rfl
      simp only [decodeUnicodeCodePoint, decodeUnicodeEscapeSequence, h0, hexValue_upperHexDigit h hh,
        hexValue_upperHexDigit l hl, Option.bind_eq_bind, Option.bind_some, Option.pure_def, Nat.zero_mul,
        Nat.zero_add, hc]
      rw [if_neg (by omega)]
    have hutf : codePointToUTF8 c.toNat = [c] := by
      rw [codePointToUTF8, if_pos (by omega)]
      simp
    rw [he]
    simp only [List.cons_append, List.nil_append]
    rw [decodeString_unicode hseq, hutf]
    rfl

theorem decodeString_escape (s : Cadena) : decodeString (escape s) = some s := by
  induction s with
  | nil => rw [escape, List.flatMap_nil, decodeString]
  | cons c s ih =>
    rw [escape, List.flatMap_cons, decodeString_escapeByte]
    rw [show s.flatMap escapeByte = escape s from rfl, ih, Option.map_some]

/-! ## Documents of flat objects -/

/-- A string or a boolean. -/
def IsLeaf : Value → Prop
  | .string _ => True
  | .boolean _ => True
  | _ => False

def memberText [LibC] (m : Cadena × Value) : Cadena :=
  0x0a :: 0x20 :: 0x20 :: 0x20 :: (valueToQuotedString m.1 ++ (bytes " : " ++ pushText m.2))

theorem writeValue_leaf [LibC] (indent : Nat) (doc : Cadena) {v : Value} (hv : IsLeaf v) :
    writeValue indent doc v = doc ++ pushText v := by
  cases v with
  | string s => rfl
  | boolean b => rfl
  | _ => cases hv

/-- Where the text does not end in a blank, an indented text goes to a new line. -/
theorem writeWithIndent_of_getLast {doc : Cadena} {c : UInt8} (h : doc.getLast? = some c) (hsp : c ≠ 0x20)
    (hnl : c ≠ 0x0a) (indent : Nat) (text : Cadena) :
    writeWithIndent doc indent text = doc ++ 0x0a :: (List.replicate indent 0x20 ++ text) := by
  simp [writeWithIndent, writeIndent, h, hsp, hnl]

theorem getLast_pushText_leaf [LibC] {v : Value} (hv : IsLeaf v) (doc : Cadena) :
    ∃ c, (doc ++ pushText v).getLast? = some c ∧ c ≠ 0x20 ∧ c ≠ 0x0a := by
  cases v with
  | string s => exact ⟨0x22, by simp [pushText, valueToQuotedStringN, List.getLast?_cons], by decide, by decide⟩
  | boolean b =>
    refine ⟨0x65, ?_, by decide, by decide⟩
    cases b <;> rw [List.getLast?_append] <;> rfl
  | _ => cases hv

theorem writeMembers_flat [LibC] {ms : List (Cadena × Value)} (hms : ∀ m ∈ ms, IsLeaf m.2) {doc : Cadena}
    {c : UInt8} (h : doc.getLast? = some c) (hsp : c ≠ 0x20) (hnl : c ≠ 0x0a) :
    writeMembers 3 doc ms = doc ++ (bytes ",").intercalate (ms.map memberText) := by
  induction ms generalizing doc c with
  | nil => simp [writeMembers, List.intercalate]
  | cons m ms ih =>
    obtain ⟨k, v⟩ := m
    have hv : IsLeaf v := hms (k, v) (by simp)
    have hline : writeValue 3 (writeWithIndent doc 3 (valueToQuotedString k) ++ bytes " : ") v =
        doc ++ memberText (k, v) := by
      rw [writeValue_leaf 3 _ hv, writeWithIndent_of_getLast h hsp hnl]
      simp [memberText]
    cases ms with
    | nil => simp [writeMembers, hline, List.intercalate]
    | cons m' ms' =>
      rw [writeMembers, hline, ih (fun m hm => hms m (by simp [hm])) (c := 0x2c) _ (by decide) (by decide)]
      · simp [List.intercalate_cons_cons]
      · rw [List.getLast?_append]
        rfl
      · simp

theorem getLast_memberTexts [LibC] {ms : List (Cadena × Value)} (hne : ms ≠ [])
    (hms : ∀ m ∈ ms, IsLeaf m.2) (doc : Cadena) :
    ∃ c, (doc ++ (bytes ",").intercalate (ms.map memberText)).getLast? = some c ∧ c ≠ 0x20 ∧ c ≠ 0x0a := by
  induction ms generalizing doc with
  | nil => exact absurd rfl hne
  | cons m ms ih =>
    cases ms with
    | nil =>
      obtain ⟨c, hc⟩ := getLast_pushText_leaf (hms m (by simp)) (doc ++ 0x0a :: 0x20 :: 0x20 :: 0x20 ::
        (valueToQuotedString m.1 ++ bytes " : "))
      exact ⟨c, by simpa [List.intercalate, memberText] using hc⟩
    | cons m' ms' =>
      obtain ⟨c, hc⟩ := ih (by simp) (fun m hm => hms m (by simp [hm])) (doc ++ memberText m ++ bytes ",")
      refine ⟨c, ?_⟩
      rw [List.map_cons, List.map_cons, List.intercalate_cons_cons, ← List.append_assoc, ← List.append_assoc]
      exact hc

theorem toStyledString_flat [LibC] {ms : List (Cadena × Value)} (hne : ms ≠ [])
    (hms : ∀ m ∈ ms, IsLeaf m.2) :
    (Value.object ms).toStyledString =
      0x7b :: ((bytes ",").intercalate (ms.map memberText) ++ [0x0a, 0x7d, 0x0a]) := by
  obtain ⟨m, ms, rfl⟩ := List.exists_cons_of_ne_nil hne
  have hwrite : writeMembers 3 [0x7b] (m :: ms) = [0x7b] ++ (bytes ",").intercalate ((m :: ms).map memberText) :=
    writeMembers_flat hms (c := 0x7b) rfl (by decide) (by decide)
  obtain ⟨c, hlast, hsp, hnl⟩ := getLast_memberTexts hne hms [0x7b]
  have hopen : writeWithIndent [] 0 (bytes "\x7b") = [0x7b] := rfl
  rw [Value.toStyledString, writeValue, hopen, hwrite, writeWithIndent_of_getLast hlast hsp hnl]
  simp [show bytes "\x7d" = [0x7d] from rfl]

/-- The members of a flat object: sorted, with NUL-free names and strings or booleans as values. -/
structure Flat (ms : List (Cadena × Value)) : Prop where
  ne_nil : ms ≠ []
  sorted : Sorted ms
  names : ∀ m ∈ ms, (0 : UInt8) ∉ m.1
  leaves : ∀ m ∈ ms, IsLeaf m.2

theorem Flat.of_names {ms : List (Cadena × Value)} (ks : List Cadena) (hks : ms.map Prod.fst = ks) (hne : ks ≠ [])
    (hsorted : ks.Pairwise fun a b => keyLt a b = true) (hnul : ∀ k ∈ ks, (0 : UInt8) ∉ k)
    (hms : ∀ m ∈ ms, IsLeaf m.2) : Flat ms where
  ne_nil := by
    rintro rfl
    exact hne hks.symm
  sorted := by
    rw [← hks, List.pairwise_map] at hsorted
    exact hsorted
  names := fun m hm => hnul m.1 (hks ▸ List.mem_map_of_mem hm)
  leaves := hms

/-! ## The bytes of a document -/

def leafText : Value → Cadena
  | .string s => s
  | _ => []

/-- The bytes that the writer itself adds to a flat object. -/
def layout : Cadena := bytes "\x7b\x7d\n \",:truefals"

theorem mem_layout : ∀ x ∈ [0x7b, 0x7d, 0x0a, 0x20] ++ bytes " : " ++ bytes "," ++
    (boolToString true ++ boolToString false), x ∈ layout :=
  List.all_iff_forall_prop.mp rfl

theorem not_mem_pieces {c : UInt8} (hc : c ∉ layout) :
    c ∉ [0x7b, 0x7d, 0x0a, 0x20] ∧ c ∉ bytes " : " ∧ c ∉ bytes "," ∧ ∀ b, c ∉ boolToString b := by
  have hc' : c ∉ _ := fun h => hc (mem_layout c h)
  simp only [List.mem_append, not_or] at hc'
  obtain ⟨⟨⟨hbraces, hcolon⟩, hcomma⟩, htrue, hfalse⟩ := hc'
  refine ⟨hbraces, hcolon, hcomma, fun b => ?_⟩
  cases b with
  | true => exact htrue
  | false => exact hfalse

/-- A byte that is written as it is and that the writer does not add. -/
structure Transparent (c : UInt8) : Prop where
  escape : ∀ b, c ∈ escapeByte b ↔ c = b
  layout : c ∉ layout

section Transparent
variable {c : UInt8} (hc : Transparent c)
include hc

theorem Transparent.not_mem :
    c ∉ [0x7b, 0x7d, 0x0a, 0x20] ∧ c ∉ bytes " : " ∧ c ∉ bytes "," ∧ ∀ b, c ∉ boolToString b :=
  not_mem_pieces hc.layout

theorem Transparent.mem_quoted (s : Cadena) : c ∈ valueToQuotedStringN s ↔ c ∈ s := by
  have hq : c ≠ 0x22 := fun h => hc.layout (by rw [h]; decide)
  simp [valueToQuotedStringN, JsonCpp.escape, hc.escape, hq]

theorem Transparent.mem_pushText [LibC] {v : Value} (hv : IsLeaf v) : c ∈ pushText v ↔ c ∈ leafText v := by
  cases v with
  | string s => exact hc.mem_quoted s
  | boolean b =>
    have hb : c ∉ boolToString b := hc.not_mem.2.2.2 b
    simpa [pushText, leafText] using hb
  | _ => cases hv

theorem Transparent.mem_memberText [LibC] {m : Cadena × Value} (hk : (0 : UInt8) ∉ m.1) (hv : IsLeaf m.2) :
    c ∈ memberText m ↔ c ∈ m.1 ∨ c ∈ leafText m.2 := by
  obtain ⟨hbraces, hcolon, -, -⟩ := hc.not_mem
  have hl' : c ≠ 0x0a ∧ c ≠ 0x20 ∧ c ∉ bytes " : " := by
    simp only [List.mem_cons, List.not_mem_nil, or_false, not_or] at hbraces
    exact ⟨hbraces.2.2.1, hbraces.2.2.2, hcolon⟩
  simp [memberText, valueToQuotedString, cstr_of_not_mem hk, hc.mem_quoted, hc.mem_pushText hv, hl']

theorem Transparent.mem_memberTexts [LibC] {ms : List (Cadena × Value)} (hk : ∀ m ∈ ms, (0 : UInt8) ∉ m.1)
    (hms : ∀ m ∈ ms, IsLeaf m.2) :
    c ∈ (bytes ",").intercalate (ms.map memberText) ↔ ∃ m ∈ ms, c ∈ m.1 ∨ c ∈ leafText m.2 := by
  have hcomma : c ∉ bytes "," := hc.not_mem.2.2.1
  induction ms with
  | nil => simp
  | cons m ms ih =>
    have hm := hc.mem_memberText (hk m (by simp)) (hms m (by simp))
    have htail : _ ↔ _ := ih (fun m hm => hk m (by simp [hm])) (fun m hm => hms m (by simp [hm]))
    cases ms with
    | nil => simpa [List.intercalate] using hm
    | cons m' ms' =>
      rw [List.map_cons, List.map_cons, List.intercalate_cons_cons, ← List.map_cons, List.mem_append,
        List.mem_append, hm, htail]
      simp [hcomma]

/-- Such a byte occurs in the document exactly when it occurs in a name or in a string. -/
theorem Transparent.mem_toStyledString [LibC] {ms : List (Cadena × Value)} (hms : Flat ms) :
    c ∈ (Value.object ms).toStyledString ↔ ∃ m ∈ ms, c ∈ m.1 ∨ c ∈ leafText m.2 := by
  have hl' : c ≠ 0x7b ∧ c ≠ 0x0a ∧ c ≠ 0x7d := by
    have hl := hc.not_mem.1
    simp only [List.mem_cons, List.not_mem_nil, or_false, not_or] at hl
    exact ⟨hl.1, hl.2.2.1, hl.2.1⟩
  rw [toStyledString_flat hms.ne_nil hms.leaves, ← hc.mem_memberTexts hms.names hms.leaves]
  simp [hl']

end Transparent

/-- A byte that the writer never writes. -/
structure Escaped (c : UInt8) : Prop where
  escape : ∀ b, c ∉ escapeByte b
  layout : c ∉ layout

section Escaped
variable {c : UInt8} (hc : Escaped c)
include hc

theorem Escaped.not_mem_quoted (s : Cadena) : c ∉ valueToQuotedStringN s := by
  have hq : c ≠ 0x22 := fun h => hc.layout (by rw [h]; decide)
  simp [valueToQuotedStringN, JsonCpp.escape, hc.escape, hq]

theorem Escaped.not_mem_memberText [LibC] {m : Cadena × Value} (hv : IsLeaf m.2) : c ∉ memberText m := by
  obtain ⟨hbraces, hcolon, -, hbool⟩ := not_mem_pieces hc.layout
  have hpush : c ∉ pushText m.2 := by
    cases hm : m.2 with
    | string s => exact hc.not_mem_quoted s
    | boolean b => exact hbool b
    | _ =>
      rw [hm] at hv
      cases hv
  simp only [List.mem_cons, List.not_mem_nil, or_false, not_or] at hbraces
  simp [memberText, valueToQuotedString, hc.not_mem_quoted, hpush, hcolon, hbraces]

theorem Escaped.not_mem_toStyledString [LibC] {ms : List (Cadena × Value)} (hms : Flat ms) :
    c ∉ (Value.object ms).toStyledString := by
  obtain ⟨hbraces, -, hcomma, -⟩ := not_mem_pieces hc.layout
  have htextos : ∀ {ms : List (Cadena × Value)}, (∀ m ∈ ms, IsLeaf m.2) →
      c ∉ (bytes ",").intercalate (ms.map memberText) := by
    intro ms hleaves
    induction ms with
    | nil => simp
    | cons m ms ih =>
      have hm := hc.not_mem_memberText (hleaves m (by simp))
      have htail := ih fun m hm => hleaves m (by simp [hm])
      cases ms with
      | nil => simpa [List.intercalate] using hm
      | cons m' ms' =>
        rw [List.map_cons, List.map_cons, List.intercalate_cons_cons, ← List.map_cons, List.mem_append,
          List.mem_append, not_or, not_or]
        exact ⟨⟨hm, hcomma⟩, htail⟩
  simp only [List.mem_cons, List.not_mem_nil, or_false, not_or] at hbraces
  rw [toStyledString_flat hms.ne_nil hms.leaves]
  simp [htextos hms.leaves, hbraces]

end Escaped

theorem zero_escaped : Escaped 0 where
  escape := forall_byte (by decide)
  layout := by decide +kernel

theorem zero_not_mem_toStyledString [LibC] {ms : List (Cadena × Value)} (hms : Flat ms) :
    (0 : UInt8) ∉ (Value.object ms).toStyledString := zero_escaped.not_mem_toStyledString hms

theorem return_escaped : Escaped 0x0d where
  escape := forall_byte (by decide)
  layout := by decide +kernel

end JsonCpp
