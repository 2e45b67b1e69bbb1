import MensajeroX.Lib.Bytes

/-!
# JsonCpp values

`Json::Value` of JsonCpp 1.6.0: the value type, the accessors that throw on a value of the wrong type and the
assignments that build an object. An array is kept as the list of its elements and an object as the list of its
members in the order of the underlying `std::map`. Lengths are unbounded here: the limit of `2^31` bytes that
JsonCpp puts on a string is not modelled.

* `insert` keeps the members sorted, `foldl_insert_of_sorted` for keys given in order;
* `ofAssignments` : the value after `v[k] = x; ...` from a null value.
-/

namespace JsonCpp
open Bytes

/-- A `double`, as its bits. -/
structure Double where
  bits : UInt64
deriving DecidableEq, Repr

/-- What the C library decides about `double`: `sscanf("%lf")` and `snprintf("%.17g")`. -/
class LibC where
  ofText : Cadena → Option Double
  toText : Double → Cadena

/-- `Json::RuntimeError` and `Json::LogicError`, both derived from `Json::Exception`. -/
inductive Exn where
  | runtimeError (msg : String)
  | logicError (msg : String)
deriving DecidableEq, Repr

/-- `Json::Value`. -/
inductive Value where
  | null
  | int (z : Int)
  | uint (n : Nat)
  | real (d : Double)
  | string (s : Cadena)
  | boolean (b : Bool)
  | array (vs : List Value)
  | object (ms : List (Cadena × Value))
deriving Repr

/-! ## Decimal texts -/

def uintToString (n : Nat) : Cadena := (Nat.toDigits 10 n).map fun c => c.toNat.toUInt8

/-- `valueToString(LargestInt)`. -/
def intToString (z : Int) : Cadena := if z < 0 then 45 :: uintToString z.natAbs else uintToString z.natAbs

/-- `valueToString(bool)`. -/
def boolToString (b : Bool) : Cadena := if b then bytes "true" else bytes "false"

/-! ## Members -/

/-- `CZString::operator<`: `memcmp` on the common length, then the lengths. -/
def keyLt : Cadena → Cadena → Bool
  | [], [] => false
  | [], _ :: _ => true
  | _ :: _, [] => false
  | a :: as, b :: bs => if a < b then true else if b < a then false else keyLt as bs

/-- `map[k] = v`. -/
def insert (k : Cadena) (v : Value) : List (Cadena × Value) → List (Cadena × Value)
  | [] => [(k, v)]
  | (k', v') :: ms =>
    if k = k' then (k, v) :: ms else if keyLt k k' then (k, v) :: (k', v') :: ms else (k', v') :: insert k v ms

/-- `map.find(k)`. -/
def lookup (k : Cadena) : List (Cadena × Value) → Option Value
  | [] => none
  | (k', v') :: ms => if k = k' then some v' else lookup k ms

theorem keyLt_irrefl (k : Cadena) : keyLt k k = false := by
  induction k with
  | nil => rfl
  | cons a k ih => simp [keyLt, ih]

def Sorted (ms : List (Cadena × Value)) : Prop := ms.Pairwise fun a b => keyLt a.1 b.1 = true

theorem keyLt_asymm {a b : Cadena} (h : keyLt a b = true) : keyLt b a = false := by
  induction a generalizing b with
  | nil =>
    cases b with
    | nil => simp [keyLt] at h
    | cons c b => rfl
  | cons c a ih =>
    cases b with
    | nil => simp [keyLt] at h
    | cons e b =>
      simp only [keyLt] at h ⊢
      by_cases hce : c < e
      · have hec : ¬ e < c := fun hec => UInt8.lt_asymm hce hec
        simp [hec, hce]
      · by_cases hec : e < c
        · simp [hce, hec] at h
        · simp only [hce, hec, if_false] at h ⊢
          exact ih h

theorem ne_of_keyLt {a b : Cadena} (h : keyLt a b = true) : b ≠ a := by
  rintro rfl
  rw [keyLt_irrefl] at h
  cases h

theorem insert_append_of_lt {k : Cadena} {v : Value} {ms : List (Cadena × Value)}
    (h : ∀ m ∈ ms, keyLt m.1 k = true) : insert k v ms = ms ++ [(k, v)] := by
  induction ms with
  | nil => rfl
  | cons m ms ih =>
    obtain ⟨j, w⟩ := m
    have hj : keyLt j k = true := h (j, w) (by simp)
    have hkj : k ≠ j := ne_of_keyLt hj
    simp only [insert, if_neg hkj, keyLt_asymm hj, Bool.false_eq_true, if_false, List.cons_append]
    rw [ih (fun m hm => h m (by simp [hm]))]

/-- Assigning members in increasing order of their keys appends them. -/
theorem foldl_insert_of_sorted (ms acc : List (Cadena × Value)) (h : Sorted (acc ++ ms)) :
    ms.foldl (fun acc m => insert m.1 m.2 acc) acc = acc ++ ms := by
  induction ms generalizing acc with
  | nil => simp
  | cons m ms ih =>
    have hlt : ∀ m' ∈ acc, keyLt m'.1 m.1 = true := by
      intro m' hm'
      exact (List.pairwise_append.mp h).2.2 m' hm' m (by simp)
    rw [List.foldl_cons, insert_append_of_lt hlt, ih _ (by simpa using h)]
    simp

/-! ## Accessors -/

namespace Value

/-- `v[k₁] = x₁; v[k₂] = x₂; ...` on a null `v`. -/
def ofAssignments (ms : List (Cadena × Value)) : Value :=
  match ms with
  | [] => null
  | m :: ms => object ((m :: ms).foldl (fun acc m => insert m.1 m.2 acc) [])

/-- `v[0] = x₀; v[1] = x₁; ...` on a null `v`. -/
def ofElements (vs : List Value) : Value :=
  match vs with
  | [] => null
  | v :: vs => array (v :: vs)

/-- `size()`. -/
def size : Value → Nat
  | array vs => vs.length
  | object ms => ms.length
  | _ => 0

/-- `find(key)`; throws unless the value is null or an object. -/
def find (k : Cadena) : Value → Except Exn (Option Value)
  | null => .ok none
  | object ms => .ok (lookup k ms)
  | _ => .error (.logicError "in Json::Value::find(key, end, found): requires objectValue or nullValue")

/-- `get(key, defaultValue)`. -/
def get (v : Value) (k : Cadena) (defaultValue : Value) : Except Exn Value := do
  let found ← v.find k
  return found.getD defaultValue

/-- `operator[](index) const`, `none` for the shared null reference; throws unless null or an array. -/
def at? (i : Nat) : Value → Except Exn (Option Value)
  | null => .ok none
  | array vs => .ok vs[i]?
  | _ => .error (.logicError "in Json::Value::operator[](ArrayIndex)const: requires arrayValue")

/-- `get(index, defaultValue)`. -/
def getIndex (v : Value) (i : Nat) (defaultValue : Value) : Except Exn Value := do
  let found ← v.at? i
  return found.getD defaultValue

/-- `asString()`; throws on an array or an object. -/
def asString [LibC] : Value → Except Exn Cadena
  | null => .ok []
  | string s => .ok s
  | boolean b => .ok (boolToString b)
  | int z => .ok (intToString z)
  | uint n => .ok (uintToString n)
  | real d => .ok (LibC.toText d)
  | _ => .error (.logicError "Type is not convertible to string")

/-- `get(key, default).asString()`. -/
def getString [LibC] (v : Value) (k : Cadena) (defaultValue : Cadena) : Except Exn Cadena := do
  let x ← v.get k (string defaultValue)
  x.asString

end Value

end JsonCpp
