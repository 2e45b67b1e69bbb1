import Mathlib

/-!
# A text consumed block by block

A machine with a state takes a text in blocks of `n` symbols, and keeps what does not fill a block until more of the
text comes.

* `bloques n xs` : the whole blocks of a text;
* `absorber n f q xs` : the loop over them, with the symbols left over;
* `absorber_eq` : it is a fold over the whole blocks;
* `absorber_append` : a text may come in two parts, if what the first leaves over goes before the second;
* `Flujo` : a machine with the symbols that it keeps, always fewer than a block;
* `Flujo.alimentar_append` : so it does not matter where a text is cut.
-/

namespace Bloques

variable {σ τ α : Type}

def bloques (n : Nat) (xs : List α) : List (List α) :=
  (List.range (xs.length / n)).map fun j => (xs.drop (n * j)).take n

theorem length_of_mem_bloques {n : Nat} {xs b : List α} (h : b ∈ bloques n xs) : b.length = n := by
  obtain ⟨j, hj, rfl⟩ := List.mem_map.mp h
  have hle : n * (j + 1) ≤ xs.length :=
    (Nat.mul_le_mul_left n (List.mem_range.mp hj)).trans (Nat.mul_div_le xs.length n)
  rw [List.length_take_of_le]
  rw [List.length_drop]
  rw [Nat.mul_add_one] at hle
  omega

theorem bloques_of_lt {n : Nat} {xs : List α} (h : xs.length < n) : bloques n xs = [] := by
  rw [bloques, Nat.div_eq_of_lt h]
  rfl

theorem length_div_drop {n : Nat} {xs : List α} (hn : 0 < n) (h : n ≤ xs.length) :
    xs.length / n = (xs.drop n).length / n + 1 := by
  rw [List.length_drop, ← Nat.add_div_right _ hn, Nat.sub_add_cancel h]

theorem bloques_of_le {n : Nat} {xs : List α} (hn : 0 < n) (h : n ≤ xs.length) :
    bloques n xs = xs.take n :: bloques n (xs.drop n) := by
  rw [bloques, length_div_drop hn h, List.range_succ_eq_map, List.map_cons, List.map_map]
  refine congrArg₂ List.cons rfl (List.map_congr_left fun j _ => ?_)
  rw [Function.comp_apply, List.drop_drop, Nat.mul_succ, Nat.add_comm]

/-! ## The loop -/

/-- `while (n <= xs.length) ...`: the state after the whole blocks and the symbols left over. -/
def absorber (n : Nat) (f : σ → List α → σ) (q : σ) (xs : List α) : σ × List α :=
  if 0 < n ∧ n ≤ xs.length then absorber n f (f q (xs.take n)) (xs.drop n) else (q, xs)
termination_by xs.length
decreasing_by simp only [List.length_drop]; omega

section Loop
variable {n : Nat} {f : σ → List α → σ}

theorem absorber_of_lt (q : σ) {xs : List α} (h : xs.length < n) : absorber n f q xs = (q, xs) := by
  rw [absorber, if_neg (by omega)]

theorem absorber_of_le (hn : 0 < n) (q : σ) {xs : List α} (h : n ≤ xs.length) :
    absorber n f q xs = absorber n f (f q (xs.take n)) (xs.drop n) := by
  rw [absorber, if_pos ⟨hn, h⟩]

/-- Induction on a text, one block at a time. -/
@[elab_as_elim]
theorem block_induction (hn : 0 < n) {motive : List α → Prop} (rest : ∀ xs, xs.length < n → motive xs)
    (block : ∀ xs, n ≤ xs.length → motive (xs.drop n) → motive xs) (xs : List α) : motive xs := by
  induction hk : xs.length using Nat.strong_induction_on generalizing xs with
  | _ k ih =>
    by_cases h : n ≤ xs.length
    · have hlt : (xs.drop n).length < k := by
        rw [List.length_drop]
        omega
      exact block xs h (ih _ hlt (xs.drop n) rfl)
    · exact rest xs (Nat.lt_of_not_le h)

/-- **The loop is a fold over the whole blocks**, and leaves what follows them. -/
theorem absorber_eq (hn : 0 < n) (q : σ) (xs : List α) :
    absorber n f q xs = ((bloques n xs).foldl f q, xs.drop (n * (xs.length / n))) := by
  induction xs using block_induction hn generalizing q with
  | rest xs h =>
    rw [absorber_of_lt q h, bloques_of_lt h, Nat.div_eq_of_lt h, Nat.mul_zero, List.drop_zero, List.foldl_nil]
  | block xs h ih =>
    rw [absorber_of_le hn q h, ih, bloques_of_le hn h, List.foldl_cons, List.drop_drop, length_div_drop hn h,
      Nat.mul_add_one, Nat.add_comm]

theorem length_absorber (hn : 0 < n) (q : σ) (xs : List α) : (absorber n f q xs).2.length = xs.length % n := by
  have hdiv := Nat.div_add_mod xs.length n
  rw [absorber_eq hn, List.length_drop]
  omega

/-- **A text may come in two parts.** -/
theorem absorber_append (hn : 0 < n) (q : σ) (xs ys : List α) :
    absorber n f q (xs ++ ys) = absorber n f (absorber n f q xs).1 ((absorber n f q xs).2 ++ ys) := by
  induction xs using block_induction hn generalizing q with
  | rest xs h => rw [absorber_of_lt q h]
  | block xs h ih =>
    have hle : n ≤ (xs ++ ys).length := by
      rw [List.length_append]
      omega
    rw [absorber_of_le hn q hle, List.take_append_of_le_length h, List.drop_append_of_le_length h, ih,
      absorber_of_le hn q h]

theorem absorber_block (hn : 0 < n) (q : σ) {xs : List α} (h : xs.length = n) (ys : List α) :
    absorber n f q (xs ++ ys) = absorber n f (f q xs) ys := by
  have hle : n ≤ (xs ++ ys).length := by
    rw [List.length_append]
    omega
  rw [absorber_of_le hn q hle, List.take_left' h, List.drop_left' h]

end Loop

/-! ## The machine with what it keeps -/

@[ext] structure Flujo (σ α : Type) (n : Nat) where
  estado : σ
  /-- what came after the last whole block -/
  resto : List α
  length_resto_lt : resto.length < n

namespace Flujo
variable {n : Nat}

theorem pos (s : Flujo σ α n) : 0 < n := Nat.zero_lt_of_lt s.length_resto_lt

def alimentar (f : σ → List α → σ) (s : Flujo σ α n) (xs : List α) : Flujo σ α n where
  estado := (absorber n f s.estado (s.resto ++ xs)).1
  resto := (absorber n f s.estado (s.resto ++ xs)).2
  length_resto_lt := by
    rw [length_absorber s.pos]
    exact Nat.mod_lt _ s.pos

variable {f : σ → List α → σ}

@[simp] theorem alimentar_nil (s : Flujo σ α n) : s.alimentar f [] = s := by
  have hrest : absorber n f s.estado (s.resto ++ []) = (s.estado, s.resto) := by
    rw [List.append_nil, absorber_of_lt s.estado s.length_resto_lt]
  exact Flujo.ext (congrArg Prod.fst hrest) (congrArg Prod.snd hrest)

/-- **Two parts of a text, or both at once.** -/
theorem alimentar_append (s : Flujo σ α n) (xs ys : List α) :
    s.alimentar f (xs ++ ys) = (s.alimentar f xs).alimentar f ys := by
  have happend := absorber_append (f := f) s.pos s.estado (s.resto ++ xs) ys
  rw [List.append_assoc] at happend
  exact Flujo.ext (congrArg Prod.fst happend) (congrArg Prod.snd happend)

end Flujo

end Bloques
