import Mathlib

/-!
# The running minimum of a scan

A scan of a list keeps the best element so far and its key. An element replaces it when it is admissible and its key is at
most that one; before the first one the key is a given bound. So the scan ends with the last of the admissible elements
whose key is least, if one of them is within the bound.

* `recorrido` : the scan;
* `recorrido_spec` : **where a scan ends**.
-/

namespace Minimo
variable {α β : Type} [LinearOrder α] (clave : β → α) (apto : β → Bool)

def paso (s : Option β × α) (x : β) : Option β × α := if clave x ≤ s.2 ∧ apto x = true then (some x, clave x) else s

def recorrido (cota : α) (l : List β) : Option β × α := l.foldl (paso clave apto) (none, cota)

def Candidato (cota : α) (x : β) : Prop := clave x ≤ cota ∧ apto x = true

/-- `x` is the last of the candidates of the list with the least key. -/
def EsUltimoMinimo (cota : α) (l : List β) (x : β) : Prop :=
  Candidato clave apto cota x ∧ ∃ antes despues, l = antes ++ x :: despues ∧
    (∀ y ∈ antes, Candidato clave apto cota y → clave x ≤ clave y) ∧
    ∀ y ∈ despues, Candidato clave apto cota y → clave x < clave y

theorem recorrido_append_singleton (cota : α) (l : List β) (x : β) :
    recorrido clave apto cota (l ++ [x]) = paso clave apto (recorrido clave apto cota l) x := by
  rw [recorrido, List.foldl_append]
  rfl

/-- **Where a scan ends**: with the last candidate of least key, or without one and with the bound. -/
theorem recorrido_spec (cota : α) (l : List β) :
    (∃ x, recorrido clave apto cota l = (some x, clave x) ∧ EsUltimoMinimo clave apto cota l x) ∨
    (recorrido clave apto cota l = (none, cota) ∧ ∀ x ∈ l, ¬ Candidato clave apto cota x) := by
  induction l using List.reverseRecOn with
  | nil => exact .inr ⟨rfl, fun x hx => absurd hx List.not_mem_nil⟩
  | append_singleton l x ih =>
    rw [recorrido_append_singleton]
    rcases ih with ⟨z, hz, hcandidato, antes, despues, rfl, hantes, hdespues⟩ | ⟨hnada, hninguno⟩
    · rw [hz, paso]
      by_cases hx : clave x ≤ clave z ∧ apto x = true
      · -- `x` is at most as far as every candidate before it
        rw [if_pos hx]
        refine .inl ⟨x, rfl, ⟨hx.1.trans hcandidato.1, hx.2⟩, antes ++ z :: despues, [], rfl, ?_, fun y hy => ?_⟩
        · intro y hy hcandidato'
          rcases List.mem_append.mp hy with hy | hy
          · exact hx.1.trans (hantes y hy hcandidato')
          · rcases List.mem_cons.mp hy with rfl | hy
            · exact hx.1
            · exact hx.1.trans (hdespues y hy hcandidato').le
        · exact absurd hy List.not_mem_nil
      · rw [if_neg hx]
        refine .inl ⟨z, rfl, hcandidato, antes, despues ++ [x], by simp, hantes, fun y hy hcandidato' => ?_⟩
        rcases List.mem_append.mp hy with hy | hy
        · exact hdespues y hy hcandidato'
        · rw [List.mem_singleton.mp hy] at hcandidato' ⊢
          exact lt_of_not_ge fun hle => hx ⟨hle, hcandidato'.2⟩
    · rw [hnada, paso]
      by_cases hx : clave x ≤ cota ∧ apto x = true
      · rw [if_pos hx]
        refine .inl ⟨x, rfl, hx, l, [], rfl, fun y hy hcandidato' => ?_, fun y hy => absurd hy List.not_mem_nil⟩
        exact absurd hcandidato' (hninguno y hy)
      · rw [if_neg hx]
        refine .inr ⟨rfl, fun y hy => ?_⟩
        rcases List.mem_append.mp hy with hy | hy
        · exact hninguno y hy
        · rw [List.mem_singleton.mp hy]
          exact hx

end Minimo
