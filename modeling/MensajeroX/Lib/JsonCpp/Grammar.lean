import MensajeroX.Lib.JsonCpp.RoundTrip

/-!
# Documents

The texts of a value, whatever blanks stand between their tokens. They lie between the writer, which writes one of
them, and the reader, which reads every one of them back.

* `Comma P xs r` : `r` is a list of texts of the `xs`, separated by commas;
* `Text n v t` : `t` is a text of `v`, which is nested at most `n` levels deep;
* `readValue_text` : **the reader reads a text back**;
* `writeValue_text` : **the writer writes a text**, of every `Readable` value;
* `parse_readable`, `parse_toStyledString` : the reader undoes the writer;
* `not_mem_toStyledString` : a document has only the bytes of its layout and of its strings.
-/

namespace JsonCpp
open Bytes

/-! ## Blanks -/

def Blank (s : Cadena) : Prop := ∀ c ∈ s, isSpace c = true

theorem Blank.nil : Blank [] := fun _ h => by cases h

theorem Blank.space : Blank [0x20] := by
  intro c hc
  rw [List.mem_singleton.mp hc]
  rfl

theorem Blank.append {s t : Cadena} (hs : Blank s) (ht : Blank t) : Blank (s ++ t) := by
  intro c hc
  rcases List.mem_append.mp hc with h | h
  · exact hs c h
  · exact ht c h

theorem Blank.replicate (n : Nat) : Blank (List.replicate n 0x20) := by
  intro c hc
  rw [List.eq_of_mem_replicate hc]
  rfl

section Skip
variable {s : Cadena} (hs : Blank s) (cs : Cadena)
include hs

theorem skipSpaces_blank : skipSpaces (s ++ cs) = skipSpaces cs := List.dropWhile_append_of_pos hs

theorem readToken_blank : readToken (s ++ cs) = readToken cs := by
  unfold readToken
  rw [skipSpaces_blank hs]

theorem skipCommentTokens_blank : skipCommentTokens (s ++ cs) = skipCommentTokens cs := by
  rw [skipCommentTokens, readToken_blank hs, ← skipCommentTokens]

theorem readValue_blank [LibC] (depth : Nat) (current : Value) :
    readValue depth current (s ++ cs) = readValue depth current cs := by
  cases depth with
  | zero => rfl
  | succ depth => rw [readValue, readValue, skipCommentTokens_blank hs]

end Skip

theorem skipCommentTokens_byte {s : Cadena} (hs : Blank s) {c : UInt8} {type : TokenType}
    (hc : ∀ cs, readToken (c :: cs) = ({ type := type }, cs)) (htype : type ≠ .comment) (cs : Cadena) :
    skipCommentTokens (s ++ c :: cs) = ({ type := type }, cs) := by
  rw [skipCommentTokens_blank hs, skipCommentTokens_eq (by rw [hc]; exact htype), hc]

/-! ## Texts -/

/-- Texts of the elements of a list, with commas between them and blanks around them. -/
inductive Comma {α : Type} (P : α → Cadena → Prop) : List α → Cadena → Prop
  | last {x : α} {s t : Cadena} (hs : Blank s) (ht : P x t) : Comma P [x] (s ++ t)
  | more {x : α} {xs : List α} {s t s' r : Cadena} (hs : Blank s) (ht : P x t) (hs' : Blank s') (hr : Comma P xs r) :
    Comma P (x :: xs) (s ++ (t ++ (s' ++ 0x2c :: r)))

def Member (P : Value → Cadena → Prop) (m : Cadena × Value) (r : Cadena) : Prop :=
  ∃ s s' t, Blank s ∧ Blank s' ∧ P m.2 t ∧ r = valueToQuotedStringN m.1 ++ (s ++ 0x3a :: (s' ++ t))

/-- The texts of a value that is nested at most so many levels deep. -/
def Text [LibC] : Nat → Value → Cadena → Prop
  | 0, _, _ => False
  | n + 1, v, t =>
    (IsLeaf v ∧ t = pushText v) ∨
    (∃ vs r s, v = .array vs ∧ Comma (Text n) vs r ∧ Blank s ∧ t = 0x5b :: (r ++ (s ++ [0x5d]))) ∨
    ∃ ms r s, v = .object ms ∧ Sorted ms ∧ Comma (Member (Text n)) ms r ∧ Blank s ∧ t = 0x7b :: (r ++ (s ++ [0x7d]))

/-- Every text starts with a byte that is no blank and no closing bracket. -/
def Heads {α : Type} (P : α → Cadena → Prop) : Prop :=
  ∀ x t, P x t → ∃ c cs, t = c :: cs ∧ isSpace c = false ∧ c ≠ 0x5d

theorem heads_text [LibC] (n : Nat) : Heads (Text n) := by
  intro v t h
  cases n with
  | zero => exact h.elim
  | succ n =>
    rcases h with ⟨hv, rfl⟩ | ⟨_, _, _, -, -, -, rfl⟩ | ⟨_, _, _, -, -, -, -, rfl⟩
    · cases v with
      | string s => exact ⟨0x22, _, rfl, by decide, by decide⟩
      | boolean b =>
        cases b with
        | false => exact ⟨0x66, _, rfl, by decide, by decide⟩
        | true => exact ⟨0x74, _, rfl, by decide, by decide⟩
      | _ => cases hv
    · exact ⟨0x5b, _, rfl, by decide, by decide⟩
    · exact ⟨0x7b, _, rfl, by decide, by decide⟩

theorem heads_member (P : Value → Cadena → Prop) : Heads (Member P) := by
  rintro m t ⟨s, s', r, -, -, -, rfl⟩
  exact ⟨0x22, _, rfl, by decide, by decide⟩

section Comma
variable {α : Type} {P : α → Cadena → Prop} {xs : List α} {r : Cadena}

theorem Comma.ne_nil (h : Comma P xs r) : xs ≠ [] := by
  cases h <;> exact List.cons_ne_nil _ _

theorem Comma.length_le (hP : Heads P) (h : Comma P xs r) : xs.length ≤ r.length := by
  induction h with
  | last hs ht =>
    obtain ⟨c, cs, rfl, -, -⟩ := hP _ _ ht
    simp only [List.length_append, List.length_cons, List.length_nil]
    omega
  | more hs ht hs' hr ih =>
    simp only [List.length_append, List.length_cons]
    omega

theorem Comma.skipSpaces (hP : Heads P) (h : Comma P xs r) :
    ∃ c cs, Comma P xs (c :: cs) ∧ c ≠ 0x5d ∧ ∀ rest, JsonCpp.skipSpaces (r ++ rest) = c :: (cs ++ rest) := by
  have hskip : ∀ {s : Cadena} {c : UInt8}, Blank s → isSpace c = false → ∀ cs,
      JsonCpp.skipSpaces (s ++ c :: cs) = c :: cs := by
    intro s c hs hc cs
    rw [skipSpaces_blank hs, JsonCpp.skipSpaces, List.dropWhile_cons_of_neg (by rw [hc]; exact Bool.false_ne_true)]
  cases h with
  | last hs ht =>
    obtain ⟨c, cs, rfl, hc, hne⟩ := hP _ _ ht
    refine ⟨c, cs, .last .nil ht, hne, fun rest => ?_⟩
    rw [List.append_assoc]
    exact hskip hs hc _
  | more hs ht hs' hr =>
    obtain ⟨c, cs, rfl, hc, hne⟩ := hP _ _ ht
    refine ⟨c, _, .more .nil ht hs' hr, hne, fun rest => ?_⟩
    rw [List.append_assoc]
    exact hskip hs hc _

end Comma

/-! ## Reading -/

theorem readToken_quoted (s rest : Cadena) :
    readToken (valueToQuotedStringN s ++ rest) = ({ type := .string, text := escape s }, rest) := by
  have h : readToken (0x22 :: (escape s ++ 0x22 :: rest)) = stringToken (escape s ++ 0x22 :: rest) := rfl
  rw [valueToQuotedStringN, List.cons_append, List.append_assoc, List.singleton_append, h, stringToken,
    readString_escape]
  rfl

theorem readValue_leaf [LibC] (depth : Nat) (current : Value) {v : Value} (hv : IsLeaf v)
    (rest : Cadena) : readValue (depth + 1) current (pushText v ++ rest) = .ok ⟨true, v, rest⟩ := by
  cases v with
  | string s =>
    have ht := readToken_quoted s rest
    rw [readValue, pushText, skipCommentTokens_eq (by rw [ht]; exact TokenType.noConfusion), ht]
    simp only [decodeString_escape]
  | boolean b =>
    cases b with
    | false =>
      have ht : readToken (pushText (.boolean false : Value) ++ rest) = ({ type := .false }, rest) := rfl
      rw [readValue, skipCommentTokens_eq (by rw [ht]; exact TokenType.noConfusion), ht]
    | true =>
      have ht : readToken (pushText (.boolean true : Value) ++ rest) = ({ type := .true }, rest) := rfl
      rw [readValue, skipCommentTokens_eq (by rw [ht]; exact TokenType.noConfusion), ht]
  | _ => cases hv

/-- A reading function reads the texts of `P`, after blanks. -/
def Reads (readValue : Value → Cadena → Except Exn Read) (P : Value → Cadena → Prop) : Prop :=
  ∀ v t, P v t → ∀ current s rest, Blank s → readValue current (s ++ (t ++ rest)) = .ok ⟨true, v, rest⟩

/-- What may follow an element of an array: blanks, and a comma or the closing bracket. -/
def Follows (rest : Cadena) : Prop := ∃ s c cs, Blank s ∧ (c = 0x2c ∨ c = 0x5d) ∧ rest = s ++ c :: cs

/-- A reading function reads the texts of `P` as elements of an array. -/
def ReadsElems (readValue : Value → Cadena → Except Exn Read) (P : Value → Cadena → Prop) : Prop :=
  ∀ v t, P v t → ∀ current s rest, Blank s → Follows rest → readValue current (s ++ (t ++ rest)) = .ok ⟨true, v, rest⟩

theorem Reads.elems {readValue : Value → Cadena → Except Exn Read} {P : Value → Cadena → Prop} (h : Reads readValue P) :
    ReadsElems readValue P := fun v t ht current s rest hs _ => h v t ht current s rest hs

/-! ### Elements -/

section Elements
variable {readValue : Value → Cadena → Except Exn Read} {P : Value → Cadena → Prop} (hread : ReadsElems readValue P)
include hread

theorem elemTurn_comma {v : Value} {s t s' : Cadena} (hs : Blank s) (ht : P v t) (hs' : Blank s') (vs : List Value)
    (rest : Cadena) :
    elemTurn readValue vs (s ++ (t ++ (s' ++ 0x2c :: rest))) = .ok (.next (vs ++ [v]) rest) := by
  have htoken := skipCommentTokens_byte hs' (c := 0x2c) (fun _ => rfl) TokenType.noConfusion rest
  have hfollows : Follows (s' ++ 0x2c :: rest) := ⟨s', 0x2c, rest, hs', .inl rfl, rfl⟩
  simp [elemTurn, hread v t ht _ s _ hs hfollows, htoken]

theorem elemTurn_bracket {v : Value} {s t s' : Cadena} (hs : Blank s) (ht : P v t) (hs' : Blank s') (vs : List Value)
    (rest : Cadena) :
    elemTurn readValue vs (s ++ (t ++ (s' ++ 0x5d :: rest))) = .ok (.done ⟨true, .array (vs ++ [v]), rest⟩) := by
  have htoken := skipCommentTokens_byte hs' (c := 0x5d) (fun _ => rfl) TokenType.noConfusion rest
  have hfollows : Follows (s' ++ 0x5d :: rest) := ⟨s', 0x5d, rest, hs', .inr rfl, rfl⟩
  simp [elemTurn, hread v t ht _ s _ hs hfollows, htoken]

/-- The loop over the elements of an array reads them one after the other. -/
theorem readLoop_elems {vs : List Value} {r s : Cadena} (hr : Comma P vs r) (hs : Blank s) (rest : Cadena)
    {bound : Nat} (hbound : vs.length ≤ bound) (acc : List Value) :
    readLoop (elemTurn readValue) .array bound acc (r ++ (s ++ 0x5d :: rest)) = .ok ⟨true, .array (acc ++ vs), rest⟩ := by
  induction hr generalizing bound acc with
  | last hs₀ ht =>
    obtain ⟨bound, rfl⟩ := Nat.exists_eq_add_of_le' hbound
    rw [List.append_assoc, List.length_singleton, readLoop, elemTurn_bracket hread hs₀ ht hs]
  | more hs₀ ht hs' hr ih =>
    rw [List.length_cons] at hbound
    obtain ⟨bound, rfl⟩ := Nat.exists_eq_add_of_le' (Nat.le_of_add_left_le hbound)
    rw [List.append_assoc, List.append_assoc, List.append_assoc, List.cons_append, readLoop,
      elemTurn_comma hread hs₀ ht hs']
    show readLoop _ _ bound _ _ = _
    rw [ih (by omega) _, List.append_assoc, List.singleton_append]

theorem readArray_comma (hP : Heads P) {vs : List Value} {r s : Cadena} (hr : Comma P vs r) (hs : Blank s) (rest : Cadena) :
    readArray readValue (r ++ (s ++ 0x5d :: rest)) = .ok ⟨true, .array vs, rest⟩ := by
  obtain ⟨c, cs, hr', hne, hskip⟩ := hr.skipSpaces hP
  have hlen := hr.length_le hP
  have hpeek : peek (c :: (cs ++ (s ++ 0x5d :: rest))) ≠ 0x5d := hne
  rw [readArray, hskip, if_neg hpeek]
  exact readLoop_elems hread hr' hs rest (by rw [List.length_append]; omega) []

end Elements

/-! ### Members -/

section Members
variable {readValue : Value → Cadena → Except Exn Read} {P : Value → Cadena → Prop} (hread : Reads readValue P)
include hread

theorem memberTurn_member {m : Cadena × Value} {s t : Cadena} (hs : Blank s) (ht : Member P m t)
    (acc : List (Cadena × Value)) (name rest : Cadena) :
    memberTurn readValue acc name (s ++ (t ++ rest)) = .ok (memberEnd (insert m.1 m.2 acc) m.1 ⟨true, m.2, rest⟩) := by
  obtain ⟨s₁, s₂, u, hs₁, hs₂, hu, rfl⟩ := ht
  have hname := readToken_quoted m.1 (s₁ ++ 0x3a :: (s₂ ++ (u ++ rest)))
  have hcolon : readToken (s₁ ++ 0x3a :: (s₂ ++ (u ++ rest))) = ({ type := .memberSeparator }, s₂ ++ (u ++ rest)) := by
    rw [readToken_blank hs₁]
    rfl
  have hassoc : valueToQuotedStringN m.1 ++ (s₁ ++ 0x3a :: (s₂ ++ u)) ++ rest =
      valueToQuotedStringN m.1 ++ (s₁ ++ 0x3a :: (s₂ ++ (u ++ rest))) := by simp
  rw [memberTurn, skipCommentTokens_blank hs, hassoc,
    skipCommentTokens_eq (by rw [hname]; exact TokenType.noConfusion), hname]
  simp [decodeString_escape, memberValue, hcolon, hread _ _ hu _ _ rest hs₂]

omit hread in
theorem memberEnd_comma {s : Cadena} (hs : Blank s) (ms : List (Cadena × Value)) (name : Cadena) (v : Value)
    (rest : Cadena) : memberEnd ms name ⟨true, v, s ++ 0x2c :: rest⟩ = .next (ms, name) rest := by
  have htoken := skipCommentTokens_byte hs (c := 0x2c) (fun _ => rfl) TokenType.noConfusion rest
  have hfirst : readToken (s ++ 0x2c :: rest) = ({ type := .arraySeparator }, rest) := readToken_blank hs _
  simp [memberEnd, htoken, hfirst]

omit hread in
theorem memberEnd_brace {s : Cadena} (hs : Blank s) (ms : List (Cadena × Value)) (name : Cadena) (v : Value)
    (rest : Cadena) : memberEnd ms name ⟨true, v, s ++ 0x7d :: rest⟩ = .done ⟨true, .object ms, rest⟩ := by
  have htoken := skipCommentTokens_byte hs (c := 0x7d) (fun _ => rfl) TokenType.noConfusion rest
  have hfirst : readToken (s ++ 0x7d :: rest) = ({ type := .objectEnd }, rest) := readToken_blank hs _
  simp [memberEnd, htoken, hfirst]

/-- The loop over the members of an object assigns them one after the other. -/
theorem readLoop_members {ms : List (Cadena × Value)} {r s : Cadena} (hr : Comma (Member P) ms r) (hs : Blank s)
    (rest : Cadena) {bound : Nat} (hbound : ms.length ≤ bound) (acc : List (Cadena × Value)) (name : Cadena) :
    readLoop (fun s => memberTurn readValue s.1 s.2) (fun s => .object s.1) bound (acc, name)
        (r ++ (s ++ 0x7d :: rest)) =
      .ok ⟨true, .object (ms.foldl (fun acc m => insert m.1 m.2 acc) acc), rest⟩ := by
  induction hr generalizing bound acc name with
  | last hs₀ ht =>
    obtain ⟨bound, rfl⟩ := Nat.exists_eq_add_of_le' hbound
    rw [List.append_assoc, List.length_singleton, readLoop, memberTurn_member hread hs₀ ht, memberEnd_brace hs]
    rfl
  | more hs₀ ht hs' hr ih =>
    rw [List.length_cons] at hbound
    obtain ⟨bound, rfl⟩ := Nat.exists_eq_add_of_le' (Nat.le_of_add_left_le hbound)
    rw [List.append_assoc, List.append_assoc, List.append_assoc, List.cons_append, readLoop,
      memberTurn_member hread hs₀ ht, memberEnd_comma hs']
    exact ih (by omega) _ _

theorem readObject_comma {ms : List (Cadena × Value)} (hms : Sorted ms) {r s : Cadena} (hr : Comma (Member P) ms r)
    (hs : Blank s) (rest : Cadena) :
    readObject readValue (r ++ (s ++ 0x7d :: rest)) = .ok ⟨true, .object ms, rest⟩ := by
  have hlen := hr.length_le (heads_member P)
  rw [readObject, readLoop_members hread hr hs rest (by rw [List.length_append]; omega),
    foldl_insert_of_sorted ms [] (by simpa using hms), List.nil_append]

end Members

/-- **The reader reads a text back.** -/
theorem readValue_text [LibC] (n : Nat) : Reads (readValue n) (Text n) := by
  induction n with
  | zero =>
    intro v t h
    exact h.elim
  | succ n ih =>
    intro v t h current s rest hs
    rw [readValue_blank hs]
    rcases h with ⟨hv, rfl⟩ | ⟨vs, r, s', rfl, hr, hs', rfl⟩ | ⟨ms, r, s', rfl, hms, hr, hs', rfl⟩
    · exact readValue_leaf n current hv rest
    · have hopen := skipCommentTokens_byte .nil (c := 0x5b) (fun _ => rfl) TokenType.noConfusion
        (r ++ (s' ++ 0x5d :: rest))
      rw [List.nil_append] at hopen
      simp only [List.cons_append, List.append_assoc, List.nil_append]
      rw [readValue, hopen]
      exact readArray_comma ih.elems (heads_text n) hr hs' rest
    · have hopen := skipCommentTokens_byte .nil (c := 0x7b) (fun _ => rfl) TokenType.noConfusion
        (r ++ (s' ++ 0x7d :: rest))
      rw [List.nil_append] at hopen
      simp only [List.cons_append, List.append_assoc, List.nil_append]
      rw [readValue, hopen]
      exact readObject_comma ih hms hr hs' rest

theorem parse_text [LibC] {v : Value} {t : Cadena} (h : Text stackLimit v t) : parse t = .ok (true, v) := by
  have hread := readValue_text stackLimit v t h .null [] [] .nil
  rw [List.nil_append, List.append_nil] at hread
  rw [parse, hread]
  rfl

/-! ## Writing -/

/-- The values that the reader reads back: strings, booleans, and arrays and objects of them that are not empty. -/
def Readable : Nat → Value → Prop
  | 0, _ => False
  | n + 1, v =>
    IsLeaf v ∨ (∃ vs, v = .array vs ∧ vs ≠ [] ∧ ∀ x ∈ vs, Readable n x) ∨
    ∃ ms, v = .object ms ∧ ms ≠ [] ∧ Sorted ms ∧ (∀ m ∈ ms, (0 : UInt8) ∉ m.1) ∧ ∀ m ∈ ms, Readable n m.2

theorem Readable.mono {n m : Nat} (h : n ≤ m) {v : Value} (hv : Readable n v) : Readable m v := by
  induction n generalizing m v with
  | zero => exact hv.elim
  | succ n ih =>
    obtain ⟨m, rfl⟩ := Nat.exists_eq_add_of_le' (Nat.le_of_add_left_le h)
    have hle : n ≤ m := by omega
    rcases hv with hv | ⟨vs, rfl, hne, hvs⟩ | ⟨ms, rfl, hne, hsorted, hk, hms⟩
    · exact .inl hv
    · exact .inr (.inl ⟨vs, rfl, hne, fun x hx => ih hle (hvs x hx)⟩)
    · exact .inr (.inr ⟨ms, rfl, hne, hsorted, hk, fun m hm => ih hle (hms m hm)⟩)

theorem Readable.isLeaf {n : Nat} {v : Value} (hv : Readable n v) (h : isNested v = false) : IsLeaf v := by
  cases n with
  | zero => exact hv.elim
  | succ n =>
    rcases hv with hv | ⟨vs, rfl, hne, -⟩ | ⟨ms, rfl, hne, -⟩
    · exact hv
    · simp [isNested, hne] at h
    · simp [isNested, hne] at h

theorem writeIndent_blank (doc : Cadena) (indent : Nat) : ∃ s, Blank s ∧ writeIndent doc indent = doc ++ s := by
  have hnewline : Blank [0x0a] := by
    intro c hc
    rw [List.mem_singleton.mp hc]
    rfl
  unfold writeIndent
  split
  · exact ⟨_, .replicate indent, rfl⟩
  · split
    · exact ⟨[], .nil, (List.append_nil _).symm⟩
    · split
      · exact ⟨[0x0a] ++ List.replicate indent 0x20, hnewline.append (.replicate indent), List.append_assoc _ _ _⟩
      · exact ⟨_, .replicate indent, rfl⟩

section Lists
variable [LibC] {n : Nat}

def Writes (n : Nat) : Prop :=
  ∀ v, Readable n v → ∀ indent doc, ∃ s t, Blank s ∧ Text n v t ∧ writeValue indent doc v = doc ++ (s ++ t)

theorem inlineElems_comma {vs : List Value} (hne : vs ≠ []) (hvs : ∀ v ∈ vs, Text n v (pushText v)) :
    ∃ r, Comma (Text n) vs r ∧ bytes " " ++ inlineElems vs = r := by
  induction vs with
  | nil => exact absurd rfl hne
  | cons v vs ih =>
    have hv := hvs v List.mem_cons_self
    cases vs with
    | nil => exact ⟨_, .last .space hv, rfl⟩
    | cons v' vs' =>
      obtain ⟨r, hr, heq⟩ := ih (List.cons_ne_nil _ _) fun x hx => hvs x (List.mem_cons_of_mem _ hx)
      refine ⟨_, .more .space hv .nil hr, ?_⟩
      rw [← heq, inlineElems, show bytes ", " = [0x2c, 0x20] from rfl, show bytes " " = [0x20] from rfl]
      · simp
      · exact List.cons_ne_nil _ _

theorem writeElems_comma (hw : Writes n) {vs : List Value} (hne : vs ≠ []) (hvs : ∀ v ∈ vs, Readable n v) (indent : Nat)
    (doc : Cadena) : ∃ r, Comma (Text n) vs r ∧ writeElems indent doc vs = doc ++ r := by
  induction vs generalizing doc with
  | nil => exact absurd rfl hne
  | cons v vs ih =>
    obtain ⟨s, hs, hindent⟩ := writeIndent_blank doc indent
    obtain ⟨s', t, hs', ht, hwrite⟩ := hw v (hvs v List.mem_cons_self) indent (doc ++ s)
    cases vs with
    | nil =>
      refine ⟨_, .last (hs.append hs') ht, ?_⟩
      rw [writeElems, hindent, hwrite]
      simp
    | cons v' vs' =>
      obtain ⟨r, hr, heq⟩ := ih (List.cons_ne_nil _ _) (fun x hx => hvs x (List.mem_cons_of_mem _ hx))
        (doc ++ s ++ (s' ++ t) ++ bytes ",")
      refine ⟨_, .more (hs.append hs') ht .nil hr, ?_⟩
      rw [writeElems, hindent, hwrite, heq, show bytes "," = [0x2c] from rfl]
      · simp
      · exact List.cons_ne_nil _ _

theorem writeMembers_comma (hw : Writes n) {ms : List (Cadena × Value)} (hne : ms ≠ [])
    (hk : ∀ m ∈ ms, (0 : UInt8) ∉ m.1) (hms : ∀ m ∈ ms, Readable n m.2) (indent : Nat) (doc : Cadena) :
    ∃ r, Comma (Member (Text n)) ms r ∧ writeMembers indent doc ms = doc ++ r := by
  induction ms generalizing doc with
  | nil => exact absurd rfl hne
  | cons m ms ih =>
    obtain ⟨k, v⟩ := m
    have hname : valueToQuotedString k = valueToQuotedStringN k := by
      rw [valueToQuotedString, cstr_of_not_mem (hk (k, v) List.mem_cons_self)]
    obtain ⟨s, hs, hindent⟩ := writeIndent_blank doc indent
    obtain ⟨s', t, hs', ht, hwrite⟩ := hw v (hms (k, v) List.mem_cons_self) indent
      (doc ++ s ++ valueToQuotedStringN k ++ bytes " : ")
    have hmember : Member (Text n) (k, v) (valueToQuotedStringN k ++ ([0x20] ++ 0x3a :: (([0x20] ++ s') ++ t))) :=
      ⟨_, _, t, .space, Blank.space.append hs', ht, rfl⟩
    have hcolon : bytes " : " = [0x20, 0x3a, 0x20] := rfl
    cases ms with
    | nil =>
      refine ⟨_, .last hs hmember, ?_⟩
      rw [writeMembers, writeWithIndent, hindent, hname, hwrite, hcolon]
      simp
    | cons m' ms' =>
      obtain ⟨r, hr, heq⟩ := ih (List.cons_ne_nil _ _) (fun x hx => hk x (List.mem_cons_of_mem _ hx))
        (fun x hx => hms x (List.mem_cons_of_mem _ hx))
        (doc ++ s ++ valueToQuotedStringN k ++ bytes " : " ++ (s' ++ t) ++ bytes ",")
      refine ⟨_, .more hs hmember .nil hr, ?_⟩
      rw [writeMembers, writeWithIndent, hindent, hname, hwrite, heq, hcolon, show bytes "," = [0x2c] from rfl]
      · simp
      · exact List.cons_ne_nil _ _

end Lists

/-- **The writer writes a text.** -/
theorem writeValue_text [LibC] (n : Nat) : Writes n := by
  induction n with
  | zero =>
    intro v hv
    exact hv.elim
  | succ n ih =>
    intro v hv indent doc
    rcases hv with hv | ⟨vs, rfl, hne, hvs⟩ | ⟨ms, rfl, hne, hsorted, hk, hms⟩
    · exact ⟨[], _, .nil, .inl ⟨hv, rfl⟩, by rw [writeValue_leaf indent doc hv, List.nil_append]⟩
    · obtain ⟨v, vs, rfl⟩ := List.exists_cons_of_ne_nil hne
      rw [writeValue]
      split
      · obtain ⟨s, hs, hopen⟩ := writeIndent_blank doc indent
        obtain ⟨r, hr, hwrite⟩ := writeElems_comma ih hne hvs (indent + 3) (doc ++ s ++ bytes "[")
        obtain ⟨s', hs', hclose⟩ := writeIndent_blank (doc ++ s ++ bytes "[" ++ r) indent
        refine ⟨s, _, hs, .inr (.inl ⟨_, r, s', rfl, hr, hs', rfl⟩), ?_⟩
        rw [writeWithIndent, writeWithIndent, hopen, hwrite, hclose, show bytes "[" = [0x5b] from rfl,
          show bytes "]" = [0x5d] from rfl]
        simp
      · -- on one line: no element has children, so what is pushed is a text of it
        rename_i hline
        have hleaf : ∀ x ∈ v :: vs, Text n x (pushText x) := by
          intro x hx
          obtain ⟨m, rfl⟩ : ∃ m, n = m + 1 := by
            cases n with
            | zero => exact (hvs x hx).elim
            | succ m => exact ⟨m, rfl⟩
          refine .inl ⟨(hvs x hx).isLeaf ?_, rfl⟩
          by_contra hnested
          rw [Bool.not_eq_false] at hnested
          refine hline ?_
          have hany : (v :: vs).any isNested = true := List.any_eq_true.mpr ⟨x, hx, hnested⟩
          rw [isMultineArray, hany]
          simp
        obtain ⟨r, hr, heq⟩ := inlineElems_comma hne hleaf
        refine ⟨[], _, .nil, .inr (.inl ⟨_, r, _, rfl, hr, .space, rfl⟩), ?_⟩
        rw [← heq, show bytes "[ " = [0x5b, 0x20] from rfl, show bytes " ]" = [0x20, 0x5d] from rfl,
          show bytes " " = [0x20] from rfl]
        simp
    · obtain ⟨m, ms, rfl⟩ := List.exists_cons_of_ne_nil hne
      obtain ⟨s, hs, hopen⟩ := writeIndent_blank doc indent
      obtain ⟨r, hr, hwrite⟩ := writeMembers_comma ih hne hk hms (indent + 3) (doc ++ s ++ bytes "\x7b")
      obtain ⟨s', hs', hclose⟩ := writeIndent_blank (doc ++ s ++ bytes "\x7b" ++ r) indent
      refine ⟨s, _, hs, .inr (.inr ⟨_, r, s', rfl, hsorted, hr, hs', rfl⟩), ?_⟩
      rw [writeValue, writeWithIndent, writeWithIndent, hopen, hwrite, hclose, show bytes "\x7b" = [0x7b] from rfl,
        show bytes "\x7d" = [0x7d] from rfl]
      simp

/-! ## The round trip -/

theorem parse_writeValue [LibC] {n : Nat} (hn : n ≤ stackLimit) {v : Value} (hv : Readable n v) (rest : Cadena) :
    parse (writeValue 0 [] v ++ rest) = .ok (true, v) := by
  obtain ⟨s, t, hs, ht, hwrite⟩ := writeValue_text stackLimit v (hv.mono hn) 0 []
  have hdoc : writeValue 0 [] v ++ rest = s ++ (t ++ rest) := by
    rw [hwrite]
    simp
  rw [hdoc, parse, readValue_text stackLimit v t ht .null s rest hs]
  rfl

/-- **The reader undoes the writer**, whatever follows the document. -/
theorem parse_readable [LibC] {n : Nat} (hn : n ≤ stackLimit) {v : Value} (hv : Readable n v) (rest : Cadena) :
    parse (v.toStyledString ++ rest) = .ok (true, v) := by
  rw [Value.toStyledString, List.append_assoc]
  exact parse_writeValue hn hv _

theorem Flat.readable {ms : List (Cadena × Value)} (hms : Flat ms) : Readable 2 (.object ms) :=
  .inr (.inr ⟨ms, rfl, hms.ne_nil, hms.sorted, hms.names, fun m hm => .inl (hms.leaves m hm)⟩)

theorem parse_toStyledString [LibC] {ms : List (Cadena × Value)} (hms : Flat ms) (rest : Cadena) :
    parse ((Value.object ms).toStyledString ++ rest) = .ok (true, .object ms) :=
  parse_readable (by decide) hms.readable rest

/-! ## The bytes of a text -/

/-- The byte is in no string and in no name of the value, down to a depth. -/
def Avoids (c : UInt8) : Nat → Value → Prop
  | 0, _ => True
  | _ + 1, .string s => c ∉ s
  | n + 1, .array vs => ∀ v ∈ vs, Avoids c n v
  | n + 1, .object ms => ∀ m ∈ ms, c ∉ m.1 ∧ Avoids c n m.2
  | _ + 1, _ => True

section Avoids
variable [LibC] {c : UInt8} (hc : Transparent c) (hbracket : c ≠ 0x5b ∧ c ≠ 0x5d) (hspace : isSpace c = false)
include hspace

omit [LibC] in
theorem not_mem_blank {s : Cadena} (hs : Blank s) : c ∉ s := fun hmem => by
  have := hs c hmem
  rw [hspace] at this
  cases this

include hc

omit [LibC] in
theorem not_mem_comma {α : Type} {P : α → Cadena → Prop} {xs : List α} {r : Cadena} (h : Comma P xs r)
    (hP : ∀ x ∈ xs, ∀ t, P x t → c ∉ t) : c ∉ r := by
  have hcomma : c ≠ 0x2c := by simpa [show bytes "," = [0x2c] from rfl] using hc.not_mem.2.2.1
  induction h with
  | last hs ht =>
    rw [List.mem_append, not_or]
    exact ⟨not_mem_blank hspace hs, hP _ List.mem_cons_self _ ht⟩
  | more hs ht hs' hr ih =>
    simp only [List.mem_append, List.mem_cons, not_or]
    exact ⟨not_mem_blank hspace hs, hP _ List.mem_cons_self _ ht, not_mem_blank hspace hs', hcomma,
      ih fun x hx => hP x (List.mem_cons_of_mem _ hx)⟩

include hbracket

/-- What the strings and the names of a value avoid, its texts avoid. -/
theorem not_mem_text {n : Nat} {v : Value} {t : Cadena} (ht : Text n v t) (hv : Avoids c n v) : c ∉ t := by
  have hbraces : c ≠ 0x7b ∧ c ≠ 0x7d := by
    have := hc.not_mem.1
    simp only [List.mem_cons, List.not_mem_nil, or_false, not_or] at this
    exact ⟨this.1, this.2.1⟩
  have hcolon : c ≠ 0x3a := by
    have := hc.not_mem.2.1
    simp only [show bytes " : " = [0x20, 0x3a, 0x20] from rfl, List.mem_cons, List.not_mem_nil, or_false, not_or] at this
    exact this.2.1
  induction n generalizing v t with
  | zero => exact ht.elim
  | succ n ih =>
    obtain ⟨hleaf, rfl⟩ | ⟨vs, r, s, rfl, hr, hs, rfl⟩ | ⟨ms, r, s, rfl, -, hr, hs, rfl⟩ := ht
    · rw [hc.mem_pushText hleaf]
      cases v with
      | string s => exact hv
      | boolean b => exact List.not_mem_nil
      | _ => cases hleaf
    · simp only [List.mem_cons, List.mem_append, List.not_mem_nil, or_false, not_or]
      exact ⟨hbracket.1, not_mem_comma hc hspace hr fun x hx t ht => ih ht (hv x hx), not_mem_blank hspace hs, hbracket.2⟩
    · simp only [List.mem_cons, List.mem_append, List.not_mem_nil, or_false, not_or]
      refine ⟨hbraces.1, not_mem_comma hc hspace hr ?_, not_mem_blank hspace hs, hbraces.2⟩
      rintro m hm t ⟨s, s', t, hs, hs', ht, rfl⟩
      simp only [List.mem_cons, List.mem_append, not_or]
      rw [hc.mem_quoted]
      exact ⟨(hv m hm).1, not_mem_blank hspace hs, hcolon, not_mem_blank hspace hs', ih ht (hv m hm).2⟩

theorem not_mem_toStyledString {n : Nat} {v : Value} (hread : Readable n v) (hv : Avoids c n v) :
    c ∉ v.toStyledString := by
  obtain ⟨s, t, hs, ht, hwrite⟩ := writeValue_text n v hread 0 []
  have hnewline : c ≠ 0x0a := fun h => by
    rw [h] at hspace
    exact absurd hspace (by decide)
  rw [Value.toStyledString, hwrite]
  simp only [List.nil_append, List.mem_append, List.mem_cons, List.not_mem_nil, or_false, not_or]
  exact ⟨⟨not_mem_blank hspace hs, not_mem_text hc hbracket hspace ht hv⟩, hnewline⟩

end Avoids

end JsonCpp
