import MensajeroX.Lib.JsonCpp.Token

/-!
# JsonCpp's reader: values

`Json::Reader` with its default features: comments allowed, any value as root, no numeric keys, text after the
first value ignored. `readValue` receives the current value, since a failed read leaves what was there, and how
many more nested values the stack limit allows. Comments are skipped; collecting them does not change the value.

The loops over members and elements carry a bound on their turns, the length of the input. Every turn consumes a
byte (`memberTurn_advances`, `elemTurn_advances`), so the bound is never reached (`readLoop_bound`).
-/

namespace JsonCpp
open Bytes

/-! ## Numbers -/

/-- The digit loop of `decodeNumber`; `none` when the token has to be read as a `double`. -/
def decodeDigits (max : Nat) : Nat → Cadena → Option Nat
  | value, [] => some value
  | value, c :: cs =>
    if isDigit c then
      if max / 10 ≤ value ∧ (max / 10 < value ∨ cs ≠ [] ∨ max % 10 < c.toNat - 48) then none
      else decodeDigits max (value * 10 + (c.toNat - 48)) cs
    else none

def decodeNumber [LibC] (text : Cadena) : Option Value :=
  let isNegative := text.head? = some 0x2d
  let digits := if isNegative then text.tail else text
  let max := if isNegative then 2 ^ 63 else 2 ^ 64 - 1
  match decodeDigits max 0 digits with
  | none => (LibC.ofText text).map .real
  | some value =>
    if isNegative then some (.int (-value)) else if value ≤ 2 ^ 31 - 1 then some (.int value) else some (.uint value)

/-! ## Strings -/

def hexValue (c : UInt8) : Option Nat :=
  if 0x30 ≤ c ∧ c ≤ 0x39 then some (c.toNat - 0x30)
  else if 0x61 ≤ c ∧ c ≤ 0x66 then some (c.toNat - 0x61 + 10)
  else if 0x41 ≤ c ∧ c ≤ 0x46 then some (c.toNat - 0x41 + 10)
  else none

/-- `decodeUnicodeEscapeSequence`: the code unit of four digits, and the cursor. -/
def decodeUnicodeEscapeSequence : Cadena → Option (Nat × Cadena)
  | a :: b :: c :: d :: cs => do
    let a ← hexValue a
    let b ← hexValue b
    let c ← hexValue c
    let d ← hexValue d
    return (((a * 16 + b) * 16 + c) * 16 + d, cs)
  | _ => none

/-- `decodeUnicodeCodePoint`: a code unit, or two of them for a surrogate pair. -/
def decodeUnicodeCodePoint (cs : Cadena) : Option (Nat × Cadena) := do
  let (unicode, cs) ← decodeUnicodeEscapeSequence cs
  if 0xD800 ≤ unicode ∧ unicode ≤ 0xDBFF then
    if cs.length < 6 ∨ cs.take 2 ≠ [0x5c, 0x75] then none
    else
      let (pair, cs) ← decodeUnicodeEscapeSequence (cs.drop 2)
      return (0x10000 + (unicode % 0x400) * 0x400 + pair % 0x400, cs)
  else return (unicode, cs)

def codePointToUTF8 (cp : Nat) : Cadena :=
  if cp ≤ 0x7f then [cp.toUInt8]
  else if cp ≤ 0x7ff then [(0xC0 + cp / 0x40 % 0x20).toUInt8, (0x80 + cp % 0x40).toUInt8]
  else if cp ≤ 0xffff then
    [(0xE0 + cp / 0x1000 % 0x10).toUInt8, (0x80 + cp / 0x40 % 0x40).toUInt8, (0x80 + cp % 0x40).toUInt8]
  else if cp ≤ 0x10ffff then
    [(0xF0 + cp / 0x40000 % 8).toUInt8, (0x80 + cp / 0x1000 % 0x40).toUInt8, (0x80 + cp / 0x40 % 0x40).toUInt8,
      (0x80 + cp % 0x40).toUInt8]
  else []

theorem length_decodeUnicodeEscapeSequence {cs rest : Cadena} {u : Nat}
    (h : decodeUnicodeEscapeSequence cs = some (u, rest)) : rest.length ≤ cs.length := by
  unfold decodeUnicodeEscapeSequence at h
  split at h
  · simp only [Option.bind_eq_bind, Option.bind_eq_some_iff, Option.pure_def, Option.some.injEq,
      Prod.mk.injEq] at h
    obtain ⟨_, _, _, _, _, _, _, _, _, rfl⟩ := h
    simp only [List.length_cons]
    omega
  · cases h

theorem length_decodeUnicodeCodePoint {cs rest : Cadena} {u : Nat}
    (h : decodeUnicodeCodePoint cs = some (u, rest)) : rest.length ≤ cs.length := by
  simp only [decodeUnicodeCodePoint, Option.bind_eq_bind, Option.bind_eq_some_iff] at h
  obtain ⟨⟨v, cs'⟩, hv, h⟩ := h
  have hle := length_decodeUnicodeEscapeSequence hv
  split at h
  · split at h
    · cases h
    · obtain ⟨⟨w, cs''⟩, hw, h⟩ := Option.bind_eq_some_iff.mp h
      have hle' := length_decodeUnicodeEscapeSequence hw
      cases h
      simp only [List.length_drop] at hle'
      exact hle'.trans ((Nat.sub_le _ _).trans hle)
  · cases h
    exact hle

def simpleEscape (c : UInt8) : Option UInt8 :=
  if c = 0x22 ∨ c = 0x2f ∨ c = 0x5c then some c
  else if c = 0x62 then some 0x08
  else if c = 0x66 then some 0x0c
  else if c = 0x6e then some 0x0a
  else if c = 0x72 then some 0x0d
  else if c = 0x74 then some 0x09
  else none

/-- `decodeString` on the text between the quotes. -/
def decodeString (cs : Cadena) : Option Cadena :=
  match cs with
  | [] => some []
  | c :: cs =>
    if c = 0x22 then some []
    else if c = 0x5c then
      match cs with
      | [] => none
      | e :: cs =>
        if e = 0x75 then
          match _h : decodeUnicodeCodePoint cs with
          | none => none
          | some (unicode, rest) => (decodeString rest).map (codePointToUTF8 unicode ++ ·)
        else
          match simpleEscape e with
          | none => none
          | some b => (decodeString cs).map (b :: ·)
    else (decodeString cs).map (c :: ·)
termination_by cs.length
decreasing_by
  · have := length_decodeUnicodeCodePoint _h
    simp only [List.length_cons]
    omega
  · simp only [List.length_cons]
    omega
  · simp only [List.length_cons]
    omega

/-! ## Values -/

/-- What a reading function leaves: success, the current value and the cursor. -/
structure Read where
  ok : Bool
  value : Value
  rest : Cadena
deriving Repr

/-- What a turn of a reading loop leaves: a result, or the state of the next turn. -/
inductive Turn (σ : Type) where
  | done (r : Read)
  | next (s : σ) (cs : Cadena)

/-- The error exits of `readObject`. -/
def failObject {σ : Type} (ms : List (Cadena × Value)) (cs : Cadena) : Turn σ :=
  .done ⟨false, .object ms, recoverFromError .objectEnd cs⟩

/-- The end of a turn of `readObject`: the token after the value. After comments any token but the closing brace
counts as the comma. -/
def memberEnd (ms : List (Cadena × Value)) (name : Cadena) (r : Read) :
    Turn (List (Cadena × Value) × Cadena) :=
  let first := readToken r.rest
  let comma := skipCommentTokens r.rest
  if r.ok = false then failObject ms r.rest
  else if first.1.type ≠ .objectEnd ∧ first.1.type ≠ .arraySeparator ∧ first.1.type ≠ .comment then
    failObject ms first.2
  else if comma.1.type = .objectEnd then .done ⟨true, .object ms, comma.2⟩
  else .next (ms, name) comma.2

/-- The middle of a turn of `readObject`: the colon and the value of the member `name`. -/
def memberValue (readValue : Value → Cadena → Except Exn Read) (ms : List (Cadena × Value))
    (name cs : Cadena) : Except Exn (Turn (List (Cadena × Value) × Cadena)) :=
  let colon := readToken cs
  if colon.1.type ≠ .memberSeparator then .ok (failObject ms colon.2)
  else
    match readValue ((lookup name ms).getD .null) colon.2 with
    | .error e => .error e
    | .ok r => .ok (memberEnd (insert name r.value ms) name r)

/-- A turn of `readObject`, with the members read so far and the last name. -/
def memberTurn (readValue : Value → Cadena → Except Exn Read) (ms : List (Cadena × Value))
    (name cs : Cadena) : Except Exn (Turn (List (Cadena × Value) × Cadena)) :=
  let tokenName := skipCommentTokens cs
  if tokenName.1.type = .objectEnd ∧ name = [] then .ok (.done ⟨true, .object ms, tokenName.2⟩)
  else if tokenName.1.type ≠ .string then .ok (failObject ms tokenName.2)
  else
    match decodeString tokenName.1.text with
    | none => .ok (failObject ms tokenName.2)
    | some name => memberValue readValue ms name tokenName.2

/-- A turn of `readArray`, with the elements read so far. -/
def elemTurn (readValue : Value → Cadena → Except Exn Read) (vs : List Value) (cs : Cadena) :
    Except Exn (Turn (List Value)) :=
  match readValue .null cs with
  | .error e => .error e
  | .ok r =>
    let token := skipCommentTokens r.rest
    if r.ok = false then .ok (.done ⟨false, .array (vs ++ [r.value]), recoverFromError .arrayEnd r.rest⟩)
    else if token.1.type = .arrayEnd then .ok (.done ⟨true, .array (vs ++ [r.value]), token.2⟩)
    else if token.1.type ≠ .arraySeparator then
      .ok (.done ⟨false, .array (vs ++ [r.value]), recoverFromError .arrayEnd token.2⟩)
    else .ok (.next (vs ++ [r.value]) token.2)

/-- At most `bound` turns of a reading loop; `out` is the result when they do not suffice. -/
def readLoop {σ : Type} (turn : σ → Cadena → Except Exn (Turn σ)) (out : σ → Value) :
    Nat → σ → Cadena → Except Exn Read
  | 0, s, cs => .ok ⟨false, out s, cs⟩
  | bound + 1, s, cs =>
    match turn s cs with
    | .error e => .error e
    | .ok (.done r) => .ok r
    | .ok (.next s cs) => readLoop turn out bound s cs

/-- `readObject`, after the opening brace. -/
def readObject (readValue : Value → Cadena → Except Exn Read) (cs : Cadena) : Except Exn Read :=
  readLoop (fun s => memberTurn readValue s.1 s.2) (fun s => .object s.1) (cs.length + 1) ([], []) cs

/-- `readArray`, after the opening bracket. -/
def readArray (readValue : Value → Cadena → Except Exn Read) (cs : Cadena) : Except Exn Read :=
  if peek (skipSpaces cs) = 0x5d then .ok ⟨true, .array [], (readToken cs).2⟩
  else readLoop (elemTurn readValue) .array (cs.length + 1) [] (skipSpaces cs)

/-- `readValue` with `depth` levels left below the stack limit. -/
def readValue [LibC] : Nat → Value → Cadena → Except Exn Read
  | 0, _, _ => .error (.runtimeError "Exceeded stackLimit in readValue().")
  | depth + 1, current, cs =>
    let token := skipCommentTokens cs
    match token.1.type with
    | .objectBegin => readObject (readValue depth) token.2
    | .arrayBegin => readArray (readValue depth) token.2
    | .number =>
      match decodeNumber token.1.text with
      | none => .ok ⟨false, current, token.2⟩
      | some v => .ok ⟨true, v, token.2⟩
    | .string =>
      match decodeString token.1.text with
      | none => .ok ⟨false, current, token.2⟩
      | some s => .ok ⟨true, .string s, token.2⟩
    | .true => .ok ⟨true, .boolean true, token.2⟩
    | .false => .ok ⟨true, .boolean false, token.2⟩
    | .null => .ok ⟨true, .null, token.2⟩
    | _ => .ok ⟨false, current, token.2⟩

/-- `stackLimit_g`. -/
def stackLimit : Nat := 1000

/-- `Reader::parse(document, root)` on a null root: success and the root as the reader leaves it. -/
def parse [LibC] (document : Cadena) : Except Exn (Bool × Value) := do
  let r ← readValue stackLimit .null document
  return (r.ok, r.value)

/-- `Reader::parse(document, root)` on any root: a read that fails leaves what it has read of a list or an object, or what
was there. -/
def parseInto [LibC] (root : Value) (document : Cadena) : Except Exn (Bool × Value) := do
  let r ← readValue stackLimit root document
  return (r.ok, r.value)

/-! ## The bound of the loops -/

/-- A reading function that consumes a byte whenever it succeeds, and never moves the cursor back. -/
def Advances (readValue : Value → Cadena → Except Exn Read) : Prop :=
  ∀ v cs r, readValue v cs = .ok r → r.rest.length ≤ cs.length ∧ (r.ok = true → r.rest.length < cs.length)

def Turn.rest {σ : Type} : Turn σ → Cadena
  | .done r => r.rest
  | .next _ cs => cs

/-- A turn that goes on consumes a byte, and no turn moves the cursor back. -/
def Turn.Advances {σ : Type} (t : Turn σ) (cs : Cadena) : Prop :=
  t.rest.length ≤ cs.length ∧ ∀ s rest, t = .next s rest → rest.length < cs.length

theorem memberEnd_advances (ms : List (Cadena × Value)) (name : Cadena) (r : Read) {cs : Cadena}
    (h : r.rest.length < cs.length) : (memberEnd ms name r).Advances cs := by
  have hrec := fun cs' => length_recoverFromError_le .objectEnd cs'
  have h₁ := length_readToken_le r.rest
  have h₂ := length_skipCommentTokens_le r.rest
  unfold memberEnd
  dsimp only
  split_ifs
  · exact ⟨(hrec _).trans h.le, fun _ _ h' => by cases h'⟩
  · exact ⟨(hrec _).trans (h₁.trans h.le), fun _ _ h' => by cases h'⟩
  · exact ⟨h₂.trans h.le, fun _ _ h' => by cases h'⟩
  · refine ⟨h₂.trans h.le, fun s rest h' => ?_⟩
    cases h'
    exact h₂.trans_lt h

theorem memberValue_advances {readValue : Value → Cadena → Except Exn Read} (hr : Advances readValue)
    (ms : List (Cadena × Value)) (name : Cadena) {cs cs' : Cadena} (hcs : cs.length < cs'.length)
    {t : Turn (List (Cadena × Value) × Cadena)} (ht : memberValue readValue ms name cs = .ok t) :
    t.Advances cs' := by
  have h₁ := length_readToken_le cs
  unfold memberValue at ht
  dsimp only at ht
  split_ifs at ht
  · cases ht
    refine ⟨(length_recoverFromError_le _ _).trans (h₁.trans hcs.le), fun _ _ h' => by cases h'⟩
  · split at ht
    · cases ht
    · rename_i r hv
      cases ht
      exact memberEnd_advances _ _ _ ((hr _ _ _ hv).1.trans_lt (h₁.trans_lt hcs))

theorem memberTurn_advances {readValue : Value → Cadena → Except Exn Read} (hr : Advances readValue)
    (ms : List (Cadena × Value)) (name cs : Cadena) {t : Turn (List (Cadena × Value) × Cadena)}
    (ht : memberTurn readValue ms name cs = .ok t) : t.Advances cs := by
  have h₁ := length_skipCommentTokens_le cs
  unfold memberTurn at ht
  dsimp only at ht
  split_ifs at ht with hend hstr
  · cases ht
    exact ⟨h₁, fun _ _ h' => by cases h'⟩
  · cases ht
    exact ⟨(length_recoverFromError_le _ _).trans h₁, fun _ _ h' => by cases h'⟩
  · have hlt : (skipCommentTokens cs).2.length < cs.length :=
      length_skipCommentTokens_lt (by rw [not_not.mp hstr]; decide)
    split at ht
    · cases ht
      exact ⟨(length_recoverFromError_le _ _).trans h₁, fun _ _ h' => by cases h'⟩
    · exact memberValue_advances hr _ _ hlt ht

theorem elemTurn_advances {readValue : Value → Cadena → Except Exn Read} (hr : Advances readValue)
    (vs : List Value) (cs : Cadena) {t : Turn (List Value)} (ht : elemTurn readValue vs cs = .ok t) :
    t.Advances cs := by
  unfold elemTurn at ht
  split at ht
  · cases ht
  · rename_i r hv
    obtain ⟨hle, hlt⟩ := hr _ _ _ hv
    have h₁ := length_skipCommentTokens_le r.rest
    have hrec := fun cs' => length_recoverFromError_le .arrayEnd cs'
    dsimp only at ht
    split_ifs at ht with hok
    · cases ht
      exact ⟨(hrec _).trans hle, fun _ _ h' => by cases h'⟩
    · cases ht
      exact ⟨h₁.trans hle, fun _ _ h' => by cases h'⟩
    · cases ht
      exact ⟨(hrec _).trans (h₁.trans hle), fun _ _ h' => by cases h'⟩
    · cases ht
      refine ⟨h₁.trans hle, fun s rest h' => ?_⟩
      cases h'
      exact h₁.trans_lt (hlt (by simpa using hok))

section Loop
variable {σ : Type} {turn : σ → Cadena → Except Exn (Turn σ)} (out : σ → Value)

theorem readLoop_advances (h : ∀ s cs t, turn s cs = .ok t → t.Advances cs) (bound : Nat) (s : σ) (cs : Cadena)
    (r : Read) (hr : readLoop turn out bound s cs = .ok r) : r.rest.length ≤ cs.length := by
  induction bound generalizing s cs with
  | zero =>
    cases hr
    exact le_rfl
  | succ bound ih =>
    unfold readLoop at hr
    split at hr
    · cases hr
    · rename_i r' ht
      cases hr
      exact (h _ _ _ ht).1
    · rename_i s' cs' ht
      exact (ih s' cs' hr).trans (h _ _ _ ht).1

/-- Every bound above the length of the input gives the same result. -/
theorem readLoop_bound (h : ∀ s cs t, turn s cs = .ok t → t.Advances cs) (n m : Nat) (s : σ) (cs : Cadena)
    (hn : cs.length < n) (hm : cs.length < m) : readLoop turn out n s cs = readLoop turn out m s cs := by
  induction n generalizing m s cs with
  | zero => exact absurd hn (Nat.not_lt_zero _)
  | succ n ih =>
    cases m with
    | zero => exact absurd hm (Nat.not_lt_zero _)
    | succ m =>
      simp only [readLoop]
      split
      · rfl
      · rfl
      · rename_i s' cs' ht
        have hlt := (h _ _ _ ht).2 s' cs' rfl
        exact ih m s' cs' (by omega) (by omega)

end Loop

/-- `readValue` consumes. -/
theorem readValue_advances [LibC] (depth : Nat) : Advances (readValue depth) := by
  induction depth with
  | zero => intro v cs r h; cases h
  | succ depth ih =>
    intro v cs r h
    have h₁ := length_skipCommentTokens_le cs
    have hlt : (skipCommentTokens cs).1.type ≠ .endOfStream → (skipCommentTokens cs).2.length < cs.length :=
      length_skipCommentTokens_lt
    unfold readValue at h
    simp only at h
    split at h
    · rename_i hty
      have := readLoop_advances _ (fun s cs t => memberTurn_advances ih s.1 s.2 cs) _ _ _ r h
      have hlt := hlt (by rw [hty]; decide)
      exact ⟨by omega, fun _ => by omega⟩
    · rename_i hty
      have hlt := hlt (by rw [hty]; decide)
      unfold readArray at h
      split at h
      · cases h
        have := length_readToken_le (skipCommentTokens cs).2
        exact ⟨this.trans h₁, fun _ => this.trans_lt hlt⟩
      · have h₂ := length_skipSpaces_le (skipCommentTokens cs).2
        have := readLoop_advances _ (fun s cs t => elemTurn_advances ih s cs) _ _ _ r h
        exact ⟨by omega, fun _ => by omega⟩
    · rename_i hty
      have hlt := hlt (by rw [hty]; decide)
      split at h <;> cases h <;> exact ⟨h₁, fun _ => hlt⟩
    · rename_i hty
      have hlt := hlt (by rw [hty]; decide)
      split at h <;> cases h <;> exact ⟨h₁, fun _ => hlt⟩
    · rename_i hty
      cases h
      exact ⟨h₁, fun _ => hlt (by rw [hty]; decide)⟩
    · rename_i hty
      cases h
      exact ⟨h₁, fun _ => hlt (by rw [hty]; decide)⟩
    · rename_i hty
      cases h
      exact ⟨h₁, fun _ => hlt (by rw [hty]; decide)⟩
    · cases h
      exact ⟨h₁, fun h' => by cases h'⟩

end JsonCpp
