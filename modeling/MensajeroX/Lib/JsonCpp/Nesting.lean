import MensajeroX.Lib.JsonCpp.Reader

/-!
# JsonCpp's reader: nesting

What the reader does with the value that was there before, and when it raises.

* `readValue_of_opens`, `readValue_of_not_opens` : a text that opens an array or an object replaces what was there; any
  other one gives a scalar, or it is not read and leaves it;
* `Nests n cs` : the text has a value inside of `n` arrays and objects, each of them in the one before;
* `readValue_error_iff` : **the reader raises on the texts that are nested down to its limit**, and on no others.
-/

namespace JsonCpp
open Bytes

/-! ## The value that was there -/

/-- After blanks and comments the text opens an array or an object. -/
def Opens (cs : Cadena) : Prop :=
  (skipCommentTokens cs).1.type = .arrayBegin ∨ (skipCommentTokens cs).1.type = .objectBegin

instance (cs : Cadena) : Decidable (Opens cs) := by unfold Opens; infer_instance

def IsContainer : Value → Prop
  | .array _ => True
  | .object _ => True
  | _ => False

theorem readLoop_value {σ : Type} {turn : σ → Cadena → Except Exn (Turn σ)} {out : σ → Value} {P : Value → Prop}
    (hturn : ∀ s cs r, turn s cs = .ok (.done r) → P r.value) (hout : ∀ s, P (out s)) {bound : Nat} {s : σ}
    {cs : Cadena} {r : Read} (hr : readLoop turn out bound s cs = .ok r) : P r.value := by
  induction bound generalizing s cs with
  | zero =>
    cases hr
    exact hout s
  | succ bound ih =>
    unfold readLoop at hr
    split at hr
    · cases hr
    · rename_i r' ht
      cases hr
      exact hturn s cs r ht
    · exact ih hr

theorem isContainer_memberEnd {ms : List (Cadena × Value)} {name : Cadena} {r r' : Read}
    (h : memberEnd ms name r = .done r') : IsContainer r'.value := by
  unfold memberEnd failObject at h
  dsimp only at h
  split_ifs at h <;> cases h <;> trivial

/-- From a member of an object to its value, over the name and the colon. -/
def MemberValue (cs cs' : Cadena) : Prop :=
  (skipCommentTokens cs).1.type = .string ∧ (∃ name, decodeString (skipCommentTokens cs).1.text = some name) ∧
    (readToken (skipCommentTokens cs).2).1.type = .memberSeparator ∧ cs' = (readToken (skipCommentTokens cs).2).2

theorem MemberValue.unique {cs value value' : Cadena} (h : MemberValue cs value) (h' : MemberValue cs value') :
    value = value' := h.2.2.2.trans h'.2.2.2.symm

/-- A turn of `readObject` ends the object, or it reads the value of a member. -/
theorem memberTurn_cases (readValue : Value → Cadena → Except Exn Read) (ms : List (Cadena × Value))
    (last cs : Cadena) :
    (∃ r, memberTurn readValue ms last cs = .ok (.done r) ∧ IsContainer r.value ∧ ∀ value, ¬ MemberValue cs value) ∨
    ∃ name value, MemberValue cs value ∧ memberTurn readValue ms last cs =
      (readValue ((lookup name ms).getD .null) value).map fun r => memberEnd (insert name r.value ms) name r := by
  unfold memberTurn
  dsimp only
  by_cases hend : (skipCommentTokens cs).1.type = .objectEnd ∧ last = []
  · rw [if_pos hend]
    exact .inl ⟨_, rfl, trivial, fun _ h => by rw [h.1] at hend; cases hend.1⟩
  rw [if_neg hend]
  by_cases hstring : (skipCommentTokens cs).1.type ≠ .string
  · rw [if_pos hstring]
    exact .inl ⟨_, rfl, trivial, fun _ h => hstring h.1⟩
  rw [if_neg hstring]
  cases hname : decodeString (skipCommentTokens cs).1.text with
  | none =>
    refine .inl ⟨_, rfl, trivial, fun _ h => ?_⟩
    obtain ⟨name, hname'⟩ := h.2.1
    rw [hname] at hname'
    cases hname'
  | some name =>
    unfold memberValue
    dsimp only
    by_cases hcolon : (readToken (skipCommentTokens cs).2).1.type ≠ .memberSeparator
    · rw [if_pos hcolon]
      exact .inl ⟨_, rfl, trivial, fun _ h => hcolon h.2.2.1⟩
    · rw [if_neg hcolon]
      refine .inr ⟨name, _, ⟨not_not.mp hstring, ⟨name, hname⟩, not_not.mp hcolon, rfl⟩, ?_⟩
      cases readValue ((lookup name ms).getD .null) (readToken (skipCommentTokens cs).2).2 <;> rfl

theorem isContainer_memberTurn {readValue : Value → Cadena → Except Exn Read} {ms : List (Cadena × Value)}
    {last cs : Cadena} {r : Read} (h : memberTurn readValue ms last cs = .ok (.done r)) : IsContainer r.value := by
  rcases memberTurn_cases readValue ms last cs with ⟨r', hr', hcontainer, -⟩ | ⟨name, value, -, hturn⟩
  · rw [h] at hr'
    cases hr'
    exact hcontainer
  · rw [h] at hturn
    cases hread : readValue ((lookup name ms).getD .null) value with
    | error e =>
      rw [hread] at hturn
      cases hturn
    | ok r' =>
      rw [hread] at hturn
      exact isContainer_memberEnd (Except.ok.inj hturn).symm

theorem isContainer_elemTurn {readValue : Value → Cadena → Except Exn Read} {vs : List Value} {cs : Cadena} {r : Read}
    (h : elemTurn readValue vs cs = .ok (.done r)) : IsContainer r.value := by
  unfold elemTurn at h
  dsimp only at h
  split at h
  · cases h
  · split_ifs at h <;> cases h <;> trivial

section Root
variable [LibC] {cs : Cadena}

/-- An array or an object replaces what was there, whether or not it is read to its end. -/
theorem readValue_of_opens (h : Opens cs) (n : Nat) (v w : Value) : readValue n v cs = readValue n w cs := by
  cases n with
  | zero => rfl
  | succ n => rcases h with h | h <;> simp only [readValue, h]

theorem isContainer_of_opens (h : Opens cs) {n : Nat} {v : Value} {r : Read} (hr : readValue n v cs = .ok r) :
    IsContainer r.value := by
  cases n with
  | zero => cases hr
  | succ n =>
    rcases h with h | h
    · simp only [readValue, h, readArray] at hr
      split at hr
      · cases hr
        trivial
      · refine readLoop_value (fun _ _ _ => isContainer_elemTurn) ?_ hr
        exact fun _ => trivial
    · simp only [readValue, h, readObject] at hr
      refine readLoop_value (fun _ _ _ => isContainer_memberTurn) ?_ hr
      exact fun _ => trivial

theorem not_isContainer_decodeNumber {text : Cadena} {v : Value} (h : decodeNumber text = some v) : ¬ IsContainer v := by
  unfold decodeNumber at h
  dsimp only at h
  split at h
  · obtain ⟨d, -, rfl⟩ := Option.map_eq_some_iff.mp h
    exact id
  · split_ifs at h <;> cases h <;> exact id

/-- Any other text is a scalar, or it is not read and leaves what was there. -/
theorem readValue_of_not_opens (h : ¬ Opens cs) (n : Nat) (v : Value) :
    ∃ r, readValue (n + 1) v cs = .ok r ∧ if r.ok then ¬ IsContainer r.value else r.value = v := by
  obtain ⟨harray, hobject⟩ := not_or.mp h
  unfold readValue
  dsimp only
  cases htype : (skipCommentTokens cs).1.type with
  | arrayBegin => exact absurd htype harray
  | objectBegin => exact absurd htype hobject
  | number =>
    dsimp only
    cases hdecode : decodeNumber (skipCommentTokens cs).1.text with
    | none => exact ⟨_, rfl, rfl⟩
    | some w => exact ⟨_, rfl, not_isContainer_decodeNumber hdecode⟩
  | string =>
    dsimp only
    cases decodeString (skipCommentTokens cs).1.text with
    | none => exact ⟨_, rfl, rfl⟩
    | some s => exact ⟨_, rfl, id⟩
  | true => exact ⟨_, rfl, id⟩
  | false => exact ⟨_, rfl, id⟩
  | null => exact ⟨_, rfl, id⟩
  | _ => exact ⟨_, rfl, rfl⟩

end Root

/-! ## The limit of the stack -/

/-- What a read says about the text: success and the cursor. -/
def cursor (x : Except Exn Read) : Except Exn (Bool × Cadena) := x.map fun r => (r.ok, r.rest)

theorem cursor_error_iff {x : Except Exn Read} {e : Exn} : cursor x = .error e ↔ x = .error e := by
  cases x <;> constructor <;> intro h <;> cases h <;> rfl

theorem cursor_readValue [LibC] (n : Nat) (v w : Value) (cs : Cadena) :
    cursor (readValue n v cs) = cursor (readValue n w cs) := by
  by_cases h : Opens cs
  · rw [readValue_of_opens h n v w]
  · cases n with
    | zero => rfl
    | succ n =>
      obtain ⟨harray, hobject⟩ := not_or.mp h
      unfold readValue
      dsimp only
      split
      · rename_i htype; exact absurd htype hobject
      · rename_i htype; exact absurd htype harray
      · split <;> rfl
      · split <;> rfl
      all_goals rfl

section Nesting
variable (readValue : Value → Cadena → Except Exn Read)

/-- From one element of an array to the next, over a value and a comma. -/
def NextElement (cs cs' : Cadena) : Prop :=
  ∃ rest, cursor (readValue .null cs) = .ok (true, rest) ∧ (skipCommentTokens rest).1.type = .arraySeparator ∧
    cs' = (skipCommentTokens rest).2

/-- From one member of an object to the next, over the name, the colon, the value and a comma or comments. -/
def NextMember (cs cs' : Cadena) : Prop :=
  ∃ value rest, MemberValue cs value ∧ cursor (readValue .null value) = .ok (true, rest) ∧
    ((readToken rest).1.type = .arraySeparator ∨ (readToken rest).1.type = .comment) ∧
    (skipCommentTokens rest).1.type ≠ .objectEnd ∧ cs' = (skipCommentTokens rest).2

end Nesting

/-- From the cursor the text has a value inside of so many arrays and objects, each of them in the one before. -/
def Nests [LibC] : Nat → Cadena → Prop
  | 0, _ => True
  | n + 1, cs =>
    let token := skipCommentTokens cs
    (token.1.type = .arrayBegin ∧ peek (skipSpaces token.2) ≠ 0x5d ∧
      ∃ element, Relation.ReflTransGen (NextElement (readValue n)) (skipSpaces token.2) element ∧ Nests n element) ∨
    (token.1.type = .objectBegin ∧ ∃ member value, Relation.ReflTransGen (NextMember (readValue n)) token.2 member ∧
      MemberValue member value ∧ Nests n value)

section Loop
variable {σ : Type} {turn : σ → Cadena → Except Exn (Turn σ)} {out : σ → Value}

theorem readLoop_error_iff {Raises : Cadena → Prop} {Next : Cadena → Cadena → Prop}
    (hadvances : ∀ s cs t, turn s cs = .ok t → t.Advances cs)
    (hraises : ∀ s cs, (∃ e, turn s cs = .error e) ↔ Raises cs)
    (hnext : ∀ s cs cs', (∃ s', turn s cs = .ok (.next s' cs')) ↔ Next cs cs') {bound : Nat} (s : σ) {cs : Cadena}
    (hbound : cs.length < bound) :
    (∃ e, readLoop turn out bound s cs = .error e) ↔ ∃ cs', Relation.ReflTransGen Next cs cs' ∧ Raises cs' := by
  induction bound generalizing s cs with
  | zero => exact absurd hbound (Nat.not_lt_zero _)
  | succ bound ih =>
    rw [readLoop]
    cases hturn : turn s cs with
    | error e => exact iff_of_true ⟨e, rfl⟩ ⟨cs, .refl, (hraises s cs).mp ⟨e, hturn⟩⟩
    | ok t =>
      have hno : ¬ Raises cs := by
        rw [← hraises s cs, hturn]
        rintro ⟨e, he⟩
        cases he
      cases t with
      | done r =>
        have hfin : ∀ cs', ¬ Next cs cs' := by
          intro cs' h
          obtain ⟨s', hs'⟩ := (hnext s cs cs').mpr h
          rw [hturn] at hs'
          cases hs'
        refine iff_of_false ?_ ?_
        · rintro ⟨e, he⟩
          cases he
        · rintro ⟨cs', hreach, hcs'⟩
          rcases Relation.ReflTransGen.cases_head hreach with rfl | ⟨cs₁, h, -⟩
          · exact hno hcs'
          · exact hfin cs₁ h
      | next s₁ cs₁ =>
        have hlt := (hadvances s cs _ hturn).2 s₁ cs₁ rfl
        have hstep : Next cs cs₁ := (hnext s cs cs₁).mp ⟨s₁, hturn⟩
        show (∃ e, readLoop turn out bound s₁ cs₁ = .error e) ↔ _
        rw [ih s₁ (by omega)]
        constructor
        · rintro ⟨cs', hreach, hcs'⟩
          exact ⟨cs', .head hstep hreach, hcs'⟩
        · rintro ⟨cs', hreach, hcs'⟩
          rcases Relation.ReflTransGen.cases_head hreach with rfl | ⟨cs₂, h, hreach⟩
          · exact absurd hcs' hno
          · obtain ⟨s₂, hs₂⟩ := (hnext s cs cs₂).mpr h
            rw [hturn] at hs₂
            cases hs₂
            exact ⟨cs', hreach, hcs'⟩

end Loop

section Turns
variable {readValue : Value → Cadena → Except Exn Read} (hcursor : ∀ v w cs, cursor (readValue v cs) = cursor (readValue w cs))

theorem elemTurn_error_iff (vs : List Value) (cs : Cadena) :
    (∃ e, elemTurn readValue vs cs = .error e) ↔ ∃ e, readValue .null cs = .error e := by
  unfold elemTurn
  cases readValue .null cs with
  | error e => exact iff_of_true ⟨e, rfl⟩ ⟨e, rfl⟩
  | ok r =>
    refine iff_of_false ?_ fun ⟨e, he⟩ => by cases he
    rintro ⟨e, he⟩
    dsimp only at he
    split_ifs at he

theorem elemTurn_next_iff (vs : List Value) (cs cs' : Cadena) :
    (∃ vs', elemTurn readValue vs cs = .ok (.next vs' cs')) ↔ NextElement readValue cs cs' := by
  unfold elemTurn NextElement
  cases readValue .null cs with
  | error e => exact iff_of_false (fun ⟨_, h⟩ => by cases h) fun ⟨_, h, _⟩ => by cases h
  | ok r =>
    obtain ⟨ok, value, rest⟩ := r
    cases ok with
    | false => exact iff_of_false (fun ⟨_, h⟩ => by cases h) fun ⟨_, h, _⟩ => by cases h
    | true =>
      simp only [Bool.true_eq_false, if_false]
      constructor
      · rintro ⟨vs', h⟩
        by_cases hsep : (skipCommentTokens rest).1.type = .arraySeparator
        · rw [if_neg (by rw [hsep]; decide), if_neg (not_not.mpr hsep)] at h
          cases h
          exact ⟨rest, rfl, hsep, rfl⟩
        · rw [if_pos hsep] at h
          split_ifs at h <;> cases h
      · rintro ⟨rest', h, hsep, rfl⟩
        cases h
        rw [if_neg (by rw [hsep]; decide), if_neg (not_not.mpr hsep)]
        exact ⟨_, rfl⟩

include hcursor in
theorem memberTurn_error_iff (ms : List (Cadena × Value)) (last cs : Cadena) :
    (∃ e, memberTurn readValue ms last cs = .error e) ↔
      ∃ value, MemberValue cs value ∧ ∃ e, readValue .null value = .error e := by
  rcases memberTurn_cases readValue ms last cs with ⟨r, hr, -, hno⟩ | ⟨name, value, hvalue, hturn⟩
  · rw [hr]
    exact iff_of_false (fun ⟨_, h⟩ => by cases h) fun ⟨value, h, _⟩ => hno value h
  · have hiff : (∃ e, memberTurn readValue ms last cs = .error e) ↔ ∃ e, readValue .null value = .error e := by
      simp only [← cursor_error_iff (x := readValue .null value), hcursor .null ((lookup name ms).getD .null),
        cursor_error_iff, hturn]
      cases readValue ((lookup name ms).getD .null) value <;> simp [Except.map]
    rw [hiff]
    exact ⟨fun h => ⟨value, hvalue, h⟩, fun ⟨value', h', h⟩ => h'.unique hvalue ▸ h⟩

theorem memberEnd_next_iff (ms : List (Cadena × Value)) (name : Cadena) (r : Read) (cs' : Cadena) :
    (∃ s, memberEnd ms name r = .next s cs') ↔
      r.ok = true ∧ ((readToken r.rest).1.type = .arraySeparator ∨ (readToken r.rest).1.type = .comment) ∧
        (skipCommentTokens r.rest).1.type ≠ .objectEnd ∧ cs' = (skipCommentTokens r.rest).2 := by
  unfold memberEnd failObject
  dsimp only
  constructor
  · rintro ⟨s, h⟩
    split_ifs at h with hok hfirst hend
    cases h
    refine ⟨by simpa using hok, ?_, hend, rfl⟩
    by_contra hno
    obtain ⟨hsep, hcomment⟩ := not_or.mp hno
    refine hfirst ⟨fun hobject => hend ?_, hsep, hcomment⟩
    rw [skipCommentTokens_eq hcomment, hobject]
  · rintro ⟨hok, hfirst, hend, rfl⟩
    rw [if_neg (by simp [hok]), if_neg (by rcases hfirst with h | h <;> simp [h]), if_neg hend]
    exact ⟨_, rfl⟩

include hcursor in
theorem memberTurn_next_iff (ms : List (Cadena × Value)) (last cs cs' : Cadena) :
    (∃ s, memberTurn readValue ms last cs = .ok (.next s cs')) ↔ NextMember readValue cs cs' := by
  rcases memberTurn_cases readValue ms last cs with ⟨r, hr, -, hno⟩ | ⟨name, value, hvalue, hturn⟩
  · rw [hr]
    exact iff_of_false (fun ⟨_, h⟩ => by cases h) fun ⟨value, _, h, _⟩ => hno value h
  · have hvalor : NextMember readValue cs cs' ↔ ∃ rest, cursor (readValue .null value) = .ok (true, rest) ∧
        ((readToken rest).1.type = .arraySeparator ∨ (readToken rest).1.type = .comment) ∧
        (skipCommentTokens rest).1.type ≠ .objectEnd ∧ cs' = (skipCommentTokens rest).2 := by
      constructor
      · rintro ⟨value', rest, hvalue', h⟩
        rw [hvalue'.unique hvalue] at h
        exact ⟨rest, h⟩
      · rintro ⟨rest, h⟩
        exact ⟨value, rest, hvalue, h⟩
    rw [hvalor, hcursor .null ((lookup name ms).getD .null), hturn]
    cases readValue ((lookup name ms).getD .null) value with
    | error e => exact iff_of_false (fun ⟨_, h⟩ => by cases h) fun ⟨_, h, _⟩ => by cases h
    | ok r =>
      simp only [Except.map, Except.ok.injEq, memberEnd_next_iff, cursor, Prod.mk.injEq]
      constructor
      · rintro ⟨hok, h⟩
        exact ⟨r.rest, ⟨hok, rfl⟩, h⟩
      · rintro ⟨rest, ⟨hok, rfl⟩, h⟩
        exact ⟨hok, h⟩

end Turns

/-- **The reader raises on the texts that are nested down to its limit**, and on no others. -/
theorem readValue_error_iff [LibC] (n : Nat) (v : Value) (cs : Cadena) :
    (∃ e, readValue n v cs = .error e) ↔ Nests n cs := by
  induction n generalizing v cs with
  | zero => exact iff_of_true ⟨_, rfl⟩ trivial
  | succ n ih =>
    by_cases h : Opens cs
    · rcases h with h | h
      · simp only [readValue, Nests, h, readArray, true_and, reduceCtorEq, false_and, or_false]
        split
        · rename_i hend
          exact iff_of_false (fun ⟨_, h⟩ => by cases h) fun h' => h'.1 hend
        · rename_i hend
          have hlength := length_skipSpaces_le (skipCommentTokens cs).2
          rw [readLoop_error_iff (fun vs cs _ => elemTurn_advances (readValue_advances n) vs cs) elemTurn_error_iff
            elemTurn_next_iff [] (by omega)]
          simp only [ih, ne_eq, hend, not_false_eq_true, true_and]
      · simp only [readValue, Nests, h, readObject, true_and, reduceCtorEq, false_and, false_or]
        rw [readLoop_error_iff (fun s cs _ => memberTurn_advances (readValue_advances n) s.1 s.2 cs)
          (fun s => memberTurn_error_iff (cursor_readValue n) s.1 s.2)
          (fun s => memberTurn_next_iff (cursor_readValue n) s.1 s.2) ([], []) (by omega)]
        simp only [ih, exists_and_left]
    · obtain ⟨r, hr, -⟩ := readValue_of_not_opens h n v
      obtain ⟨harray, hobject⟩ := not_or.mp h
      rw [hr]
      refine iff_of_false (fun ⟨_, h⟩ => by cases h) ?_
      rintro (⟨h', -⟩ | ⟨h', -⟩)
      · exact harray h'
      · exact hobject h'

theorem parse_error_iff [LibC] (document : Cadena) : (∃ e, parse document = .error e) ↔ Nests stackLimit document := by
  rw [← readValue_error_iff stackLimit .null, parse]
  cases readValue stackLimit .null document with
  | error e => exact iff_of_true ⟨e, rfl⟩ ⟨e, rfl⟩
  | ok r => exact iff_of_false (fun ⟨_, h⟩ => by cases h) fun ⟨_, h⟩ => by cases h

end JsonCpp
