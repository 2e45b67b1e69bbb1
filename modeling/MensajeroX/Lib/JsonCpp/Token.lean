import MensajeroX.Lib.JsonCpp.Value

/-!
# JsonCpp's reader: tokens

The lexical half of `Json::Reader` with its default features. The cursor is the list of bytes from `current_` to
`end_`; reading at the end gives the terminating NUL of the document.

* `length_readToken_lt` : every token but the end of the input consumes a byte;
* `skipCommentTokens`, `recoverFromError` : the loops over tokens, which end for that reason.
-/

namespace JsonCpp
open Bytes

/-! ## Tokens -/

inductive TokenType where
  | endOfStream
  | objectBegin
  | objectEnd
  | arrayBegin
  | arrayEnd
  | string
  | number
  | true
  | false
  | null
  | arraySeparator
  | memberSeparator
  | comment
  | error
deriving DecidableEq, Repr

/-- A token: for a number its text, for a string the text between the quotes. -/
structure Token where
  type : TokenType
  text : Cadena := []
deriving DecidableEq, Repr

/-- `*current_`. -/
def peek (cs : Cadena) : UInt8 := cs.headD 0

/-- The bytes that `skipSpaces` skips. -/
def isSpace (c : UInt8) : Bool := c == 0x20 || c == 0x09 || c == 0x0d || c == 0x0a

def skipSpaces (cs : Cadena) : Cadena := cs.dropWhile isSpace

/-- `match(pattern)`: success and the cursor. -/
def matchText (pattern cs : Cadena) : Bool × Cadena :=
  if pattern.isPrefixOf cs then (true, cs.drop pattern.length) else (false, cs)

def readCStyleComment : Cadena → Bool × Cadena
  | [] => (false, [])
  | c :: cs => if c = 0x2a ∧ peek cs = 0x2f then (true, cs.tail) else readCStyleComment cs

def readCppStyleComment : Cadena → Cadena
  | [] => []
  | c :: cs =>
    if c = 0x0a then cs
    else if c = 0x0d then (if peek cs = 0x0a then cs.tail else cs)
    else readCppStyleComment cs

/-- `readComment`, after the first slash. -/
def readComment : Cadena → Bool × Cadena
  | [] => (false, [])
  | c :: cs =>
    if c = 0x2a then readCStyleComment cs
    else if c = 0x2f then (true, readCppStyleComment cs)
    else (false, cs)

/-- The fractional part of a number: its text and the cursor. -/
def readFraction (cs : Cadena) : Cadena × Cadena :=
  if peek cs = 0x2e then (0x2e :: cs.tail.takeWhile isDigit, cs.tail.dropWhile isDigit) else ([], cs)

def readSign (cs : Cadena) : Cadena × Cadena :=
  if peek cs = 0x2b ∨ peek cs = 0x2d then ([peek cs], cs.tail) else ([], cs)

def readExponent (cs : Cadena) : Cadena × Cadena :=
  if peek cs = 0x65 ∨ peek cs = 0x45 then
    let r := readSign cs.tail
    (peek cs :: r.1 ++ r.2.takeWhile isDigit, r.2.dropWhile isDigit)
  else ([], cs)

/-- `readNumber`, after the first byte: the text it adds to the token, and the cursor. -/
def readNumber (cs : Cadena) : Cadena × Cadena :=
  let frac := readFraction (cs.dropWhile isDigit)
  let exp := readExponent frac.2
  (cs.takeWhile isDigit ++ frac.1 ++ exp.1, exp.2)

/-- `readString`, after the opening quote: success, the text up to the closing quote, and the cursor. -/
def readString : Cadena → Bool × Cadena × Cadena
  | [] => (false, [], [])
  | [c] => if c = 0x22 then (true, [], []) else (false, [c], [])
  | c :: d :: cs =>
    if c = 0x5c then
      let r := readString cs
      (r.1, c :: d :: r.2.1, r.2.2)
    else if c = 0x22 then (true, [], d :: cs)
    else
      let r := readString (d :: cs)
      (r.1, c :: r.2.1, r.2.2)

/-- A token of type `type` if the text was read, an error otherwise. -/
def tokenIf (ok : Bool) (type : TokenType) (text : Cadena := []) : Token :=
  { type := if ok then type else .error, text := text }

def stringToken (cs : Cadena) : Token × Cadena :=
  (tokenIf (readString cs).1 .string (readString cs).2.1, (readString cs).2.2)

def commentToken (cs : Cadena) : Token × Cadena := (tokenIf (readComment cs).1 .comment, (readComment cs).2)

def numberToken (c : UInt8) (cs : Cadena) : Token × Cadena :=
  ({ type := .number, text := c :: (readNumber cs).1 }, (readNumber cs).2)

def wordToken (type : TokenType) (pattern cs : Cadena) : Token × Cadena :=
  (tokenIf (matchText pattern cs).1 type, (matchText pattern cs).2)

def tokenAfter (c : UInt8) (cs : Cadena) : Token × Cadena :=
  if c = 0x7b then ({ type := .objectBegin }, cs)
  else if c = 0x7d then ({ type := .objectEnd }, cs)
  else if c = 0x5b then ({ type := .arrayBegin }, cs)
  else if c = 0x5d then ({ type := .arrayEnd }, cs)
  else if c = 0x22 then stringToken cs
  else if c = 0x2f then commentToken cs
  else if isDigit c ∨ c = 0x2d then numberToken c cs
  else if c = 0x74 then wordToken .true (bytes "rue") cs
  else if c = 0x66 then wordToken .false (bytes "alse") cs
  else if c = 0x6e then wordToken .null (bytes "ull") cs
  else if c = 0x2c then ({ type := .arraySeparator }, cs)
  else if c = 0x3a then ({ type := .memberSeparator }, cs)
  else if c = 0 then ({ type := .endOfStream }, cs)
  else ({ type := .error }, cs)

def readToken (cs : Cadena) : Token × Cadena :=
  match skipSpaces cs with
  | [] => ({ type := .endOfStream }, [])
  | c :: cs => tokenAfter c cs

/-! ### Tokens consume input -/

theorem length_skipSpaces_le (cs : Cadena) : (skipSpaces cs).length ≤ cs.length := List.length_dropWhile_le _ _

theorem length_readCStyleComment_le (cs : Cadena) : (readCStyleComment cs).2.length ≤ cs.length := by
  induction cs with
  | nil => simp [readCStyleComment]
  | cons c cs ih =>
    simp only [readCStyleComment]
    split
    · simp only [List.length_tail, List.length_cons]; omega
    · simp only [List.length_cons]; omega

theorem length_readCppStyleComment_le (cs : Cadena) : (readCppStyleComment cs).length ≤ cs.length := by
  induction cs with
  | nil => simp [readCppStyleComment]
  | cons c cs ih =>
    simp only [readCppStyleComment]
    split_ifs
    · simp
    · simp only [List.length_tail, List.length_cons]; omega
    · simp
    · simp only [List.length_cons]; omega

theorem length_readComment_le (cs : Cadena) : (readComment cs).2.length ≤ cs.length := by
  cases cs with
  | nil => simp [readComment]
  | cons c cs =>
    have h₁ := length_readCStyleComment_le cs
    have h₂ := length_readCppStyleComment_le cs
    simp only [readComment]
    split_ifs <;> simp only [List.length_cons] <;> omega

theorem length_readFraction_le (cs : Cadena) : (readFraction cs).2.length ≤ cs.length := by
  unfold readFraction
  split
  · exact (List.length_dropWhile_le _ _).trans (by simp)
  · exact le_rfl

theorem length_readSign_le (cs : Cadena) : (readSign cs).2.length ≤ cs.length := by
  unfold readSign
  split
  · simp
  · exact le_rfl

theorem length_readExponent_le (cs : Cadena) : (readExponent cs).2.length ≤ cs.length := by
  unfold readExponent
  split
  · exact (List.length_dropWhile_le _ _).trans ((length_readSign_le _).trans (by simp))
  · exact le_rfl

theorem length_readNumber_le (cs : Cadena) : (readNumber cs).2.length ≤ cs.length :=
  (length_readExponent_le _).trans ((length_readFraction_le _).trans (List.length_dropWhile_le _ _))

theorem length_readString_le (cs : Cadena) : (readString cs).2.2.length ≤ cs.length := by
  induction cs using readString.induct with
  | case1 => simp [readString]
  | case2 => simp [readString]
  | case3 c h => simp [readString, h]
  | case4 d cs ih => simp only [readString, if_true, List.length_cons]; omega
  | case5 d cs h => simp [readString]
  | case6 c d cs h₁ h₂ ih =>
    simp only [readString, if_neg h₁, if_neg h₂]
    simp only [List.length_cons] at ih ⊢
    omega

theorem length_matchText_le (pattern cs : Cadena) : (matchText pattern cs).2.length ≤ cs.length := by
  simp only [matchText]
  split <;> simp

theorem length_ite_le {p : Prop} [Decidable p] {x y : Token × Cadena} {n : Nat} (hx : x.2.length ≤ n)
    (hy : y.2.length ≤ n) : (if p then x else y).2.length ≤ n := by
  split
  · exact hx
  · exact hy

theorem length_tokenAfter_le (c : UInt8) (cs : Cadena) : (tokenAfter c cs).2.length ≤ cs.length := by
  have hs := length_readString_le cs
  have hc := length_readComment_le cs
  have hn := length_readNumber_le cs
  have hw := fun pattern => length_matchText_le pattern cs
  unfold tokenAfter
  exact length_ite_le le_rfl (length_ite_le le_rfl (length_ite_le le_rfl (length_ite_le le_rfl
    (length_ite_le hs (length_ite_le hc (length_ite_le hn (length_ite_le (hw _) (length_ite_le (hw _)
      (length_ite_le (hw _) (length_ite_le le_rfl (length_ite_le le_rfl (length_ite_le le_rfl le_rfl))))))))))))

/-- Only the end of the input is read without consuming. -/
theorem length_readToken_lt {cs : Cadena} (h : (readToken cs).1.type ≠ .endOfStream) :
    (readToken cs).2.length < cs.length := by
  have hs := length_skipSpaces_le cs
  unfold readToken at h ⊢
  split
  · rename_i hnil
    simp [hnil] at h
  · rename_i c rest hcons
    have := length_tokenAfter_le c rest
    rw [hcons, List.length_cons] at hs
    omega

theorem length_readToken_le (cs : Cadena) : (readToken cs).2.length ≤ cs.length := by
  have hs := length_skipSpaces_le cs
  unfold readToken
  split
  · simp
  · rename_i c rest hcons
    have := length_tokenAfter_le c rest
    rw [hcons, List.length_cons] at hs
    omega

/-- `skipCommentTokens`: the first token that is no comment. -/
def skipCommentTokens (cs : Cadena) : Token × Cadena :=
  if _h : (readToken cs).1.type = .comment then skipCommentTokens (readToken cs).2 else readToken cs
termination_by cs.length
decreasing_by exact length_readToken_lt (by rw [_h]; decide)

theorem skipCommentTokens_eq {cs : Cadena} (h : (readToken cs).1.type ≠ .comment) :
    skipCommentTokens cs = readToken cs := by
  rw [skipCommentTokens, dif_neg h]

theorem length_skipCommentTokens_le (cs : Cadena) : (skipCommentTokens cs).2.length ≤ cs.length := by
  induction cs using skipCommentTokens.induct with
  | case1 cs h ih =>
    rw [skipCommentTokens, dif_pos h]
    exact ih.trans (length_readToken_le cs)
  | case2 cs h =>
    rw [skipCommentTokens_eq h]
    exact length_readToken_le cs

theorem length_skipCommentTokens_lt {cs : Cadena} (h : (skipCommentTokens cs).1.type ≠ .endOfStream) :
    (skipCommentTokens cs).2.length < cs.length := by
  induction cs using skipCommentTokens.induct with
  | case1 cs hc ih =>
    rw [skipCommentTokens, dif_pos hc] at h ⊢
    exact (ih h).trans_le (length_readToken_le cs)
  | case2 cs hc =>
    rw [skipCommentTokens_eq hc] at h ⊢
    exact length_readToken_lt h

/-- `recoverFromError(skipUntilToken)`: the cursor after the next such token, or at the end. -/
def recoverFromError (skipUntil : TokenType) (cs : Cadena) : Cadena :=
  let r := readToken cs
  if _h : r.1.type = skipUntil ∨ r.1.type = .endOfStream then r.2 else recoverFromError skipUntil r.2
termination_by cs.length
decreasing_by exact length_readToken_lt (fun h => _h (Or.inr h))

theorem length_recoverFromError_le (skipUntil : TokenType) (cs : Cadena) :
    (recoverFromError skipUntil cs).length ≤ cs.length := by
  induction cs using recoverFromError.induct skipUntil with
  | case1 cs r h =>
    rw [recoverFromError, dif_pos h]
    exact length_readToken_le cs
  | case2 cs r h ih =>
    rw [recoverFromError, dif_neg h]
    exact ih.trans (length_readToken_le cs)

end JsonCpp
