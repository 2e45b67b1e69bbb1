import MensajeroX.WebServer.Mongoose

/-!
# The path of a request

What `remove_double_dots_and_double_slashes` makes of a path.

* `Limpia` : the paths that have nothing to remove;
* `remove_cons` : the outer loop, one character at a time;
* `limpia_remove`, `remove_of_limpia` : the result is clean, and a clean path is left alone;
* `Limpia.segmento` : what a clean path has between two slashes; `Limpia.append_palabra` : a path with one more word;
* `limpiar_of_limpia` : a clean path without escapes arrives as it was written.
-/

namespace MensajeroX.Mongoose
open Bytes Percent

/-- Nothing to remove after any slash. -/
def Limpia : Cadena → Prop
  | [] => True
  | c :: s => (barra c = true → saltar s = s) ∧ Limpia s

instance decidableLimpia : (s : Cadena) → Decidable (Limpia s)
  | [] => .isTrue trivial
  | _ :: s => @instDecidableAnd _ _ inferInstance (decidableLimpia s)

/-! ## The inner loop -/

theorem saltar_suffix (s : Cadena) : saltar s <:+ s := by
  fun_induction saltar s with
  | case1 => exact List.suffix_rfl
  | case2 a h => exact List.nil_suffix
  | case3 a h => exact List.suffix_rfl
  | case4 a b h ih => exact ih.trans (List.suffix_cons _ _)
  | case5 a b h h' => exact List.nil_suffix
  | case6 a b h h' h'' => exact List.nil_suffix
  | case7 a b h h' h'' => exact List.suffix_rfl
  | case8 a b c s h ih => exact ih.trans (List.suffix_cons _ _)
  | case9 a b c s h h' ih => exact ih.trans ((List.suffix_cons _ _).trans (List.suffix_cons _ _))
  | case10 a b c s h h' h'' ih =>
    exact ih.trans ((List.suffix_cons _ _).trans ((List.suffix_cons _ _).trans (List.suffix_cons _ _)))
  | case11 a b c s h h' h'' => exact List.suffix_rfl

theorem saltar_saltar (s : Cadena) : saltar (saltar s) = saltar s := by
  fun_induction saltar s with
  | case1 => rfl
  | case2 a h => rfl
  | case3 a h => rw [saltar, if_neg h]
  | case4 a b h ih => exact ih
  | case5 a b h h' => rfl
  | case6 a b h h' h'' => rfl
  | case7 a b h h' h'' => rw [saltar, if_neg h, if_neg h', if_neg h'']
  | case8 a b c s h ih => exact ih
  | case9 a b c s h h' ih => exact ih
  | case10 a b c s h h' h'' ih => exact ih
  | case11 a b c s h h' h'' => rw [saltar, if_neg h, if_neg h', if_neg h'']

/-- There is something for the inner loop to skip: a slash, `./`, `../` or a final `..`. -/
def salta : Cadena → Bool
  | [] => false
  | [a] => barra a
  | [a, b] => barra a || (a == 0x2e && (barra b || b == 0x2e))
  | a :: b :: c :: _ => barra a || (a == 0x2e && (barra b || (b == 0x2e && barra c)))

theorem saltar_eq_self_iff (s : Cadena) : saltar s = s ↔ salta s = false := by
  -- where something is skipped, what is left is shorter
  have hshort : ∀ {x : Cadena}, x.length < s.length → saltar x ≠ s := by
    intro x hlt heq
    have := (saltar_suffix x).length_le
    rw [heq] at this
    omega
  fun_cases saltar s with
  | case1 => simp [salta]
  | case2 a h => simp [salta, h]
  | case3 a h => simpa [salta] using h
  | case4 a b h => simp [salta, h, hshort]
  | case5 a b h h' => simp [salta, h'.1, h'.2]
  | case6 a b h h' h'' => simp [salta, h''.1, h''.2]
  | case7 a b h h' h'' => simp_all [salta]
  | case8 a b c s h => simp [salta, h, hshort]
  | case9 a b c s h h' =>
    obtain ⟨rfl, hb⟩ := h'
    simp [salta, hb, hshort]
  | case10 a b c s h h' h'' =>
    obtain ⟨rfl, rfl, hc⟩ := h''
    have hne : saltar s ≠ 0x2e :: 0x2e :: c :: s := hshort (by simp only [List.length_cons]; omega)
    simp [salta, hc, hne]
  | case11 a b c s h h' h'' => simp_all [salta]

/-! One turn of the inner loop, by what it reads. -/

theorem saltar_barra {a : UInt8} (h : barra a = true) (s : Cadena) : saltar (a :: s) = saltar s := by
  rcases s with - | ⟨b, - | ⟨c, s⟩⟩
  · exact if_pos h
  · exact if_pos h
  · exact if_pos h

theorem saltar_otro {a : UInt8} (h : barra a = false) (h' : a ≠ 0x2e) (s : Cadena) : saltar (a :: s) = a :: s := by
  have hbarra : ¬ barra a = true := by rw [h]; exact Bool.false_ne_true
  rcases s with - | ⟨b, - | ⟨c, s⟩⟩
  · exact if_neg hbarra
  · exact (if_neg hbarra).trans ((if_neg fun hp => h' hp.1).trans (if_neg fun hp => h' hp.1))
  · exact (if_neg hbarra).trans ((if_neg fun hp => h' hp.1).trans (if_neg fun hp => h' hp.1))

theorem not_barra_punto : ¬ barra 0x2e = true := by decide

theorem saltar_punto_barra {b : UInt8} (h : barra b = true) (s : Cadena) : saltar (0x2e :: b :: s) = saltar s := by
  rcases s with - | ⟨c, s⟩
  · exact (if_neg not_barra_punto).trans (if_pos ⟨rfl, h⟩)
  · exact (if_neg not_barra_punto).trans (if_pos ⟨rfl, h⟩)

theorem saltar_punto_otro {b : UInt8} (h : barra b = false) (h' : b ≠ 0x2e) (s : Cadena) :
    saltar (0x2e :: b :: s) = 0x2e :: b :: s := by
  have hbarra : ¬ barra b = true := by rw [h]; exact Bool.false_ne_true
  rcases s with - | ⟨c, s⟩
  · exact (if_neg not_barra_punto).trans ((if_neg fun hp => hbarra hp.2).trans (if_neg fun hp => h' hp.2))
  · exact (if_neg not_barra_punto).trans ((if_neg fun hp => hbarra hp.2).trans (if_neg fun hp => h' hp.2.1))

theorem saltar_puntos (c : UInt8) (s : Cadena) :
    saltar (0x2e :: 0x2e :: c :: s) = if barra c then saltar s else 0x2e :: 0x2e :: c :: s := by
  refine (if_neg not_barra_punto).trans ((if_neg fun hp => not_barra_punto hp.2).trans ?_)
  by_cases hc : barra c = true
  · rw [if_pos hc]
    exact if_pos ⟨rfl, rfl, hc⟩
  · rw [if_neg hc]
    exact if_neg fun hp => hc hp.2.2

/-! ## The outer loop -/

theorem copiar_of_length_le {n : Nat} {s : Cadena} (h : s.length ≤ n) :
    copiar n s = remove_double_dots_and_double_slashes s := by
  unfold remove_double_dots_and_double_slashes
  -- the bound is never reached: every turn reads at least one character
  have hmono : ∀ (n m : Nat) (s : Cadena), s.length ≤ n → s.length ≤ m → copiar n s = copiar m s := by
    intro n
    induction n with
    | zero =>
      intro m s hn _
      rw [List.length_eq_zero_iff.mp (Nat.le_zero.mp hn)]
      cases m <;> rfl
    | succ n ih =>
      intro m s hn hm
      cases s with
      | nil => cases m <;> rfl
      | cons c s =>
        rw [List.length_cons] at hn hm
        obtain ⟨m, rfl⟩ : ∃ k, m = k + 1 := ⟨m - 1, by omega⟩
        have hle := (saltar_suffix s).length_le
        rw [copiar, copiar]
        congr 1
        split_ifs
        · exact ih m _ (by omega) (by omega)
        · exact ih m _ (by omega) (by omega)
  exact hmono n s.length s h (Nat.le_refl _)

@[simp] theorem remove_nil : remove_double_dots_and_double_slashes [] = [] := rfl

theorem remove_cons (c : UInt8) (s : Cadena) : remove_double_dots_and_double_slashes (c :: s) =
    c :: remove_double_dots_and_double_slashes (if barra c then saltar s else s) := by
  have hle := (saltar_suffix s).length_le
  rw [remove_double_dots_and_double_slashes, List.length_cons, copiar, copiar_of_length_le]
  split_ifs <;> omega

/-- Induction along the outer loop. -/
@[elab_as_elim]
theorem remove_induction {motive : Cadena → Prop} (nil : motive [])
    (cons : ∀ c s, motive (if barra c then saltar s else s) → motive (c :: s)) (s : Cadena) : motive s := by
  induction hn : s.length using Nat.strong_induction_on generalizing s with
  | _ n ih =>
    cases s with
    | nil => exact nil
    | cons c s =>
      have hle := (saltar_suffix s).length_le
      rw [List.length_cons] at hn
      refine cons c s (ih _ ?_ _ rfl)
      split_ifs <;> omega

theorem remove_cons_of_not_barra {c : UInt8} (h : barra c = false) (s : Cadena) :
    remove_double_dots_and_double_slashes (c :: s) = c :: remove_double_dots_and_double_slashes s := by
  rw [remove_cons, h]
  rfl

/-- What has nothing to skip at its front still has nothing after the loop. -/
theorem salta_remove {s : Cadena} (h : salta s = false) : salta (remove_double_dots_and_double_slashes s) = false := by
  rcases s with - | ⟨a, - | ⟨b, - | ⟨c, s⟩⟩⟩
  · rfl
  · have ha : barra a = false := h
    rw [remove_cons_of_not_barra ha]
    exact ha
  · simp only [salta, Bool.or_eq_false_iff, Bool.and_eq_false_iff] at h
    rw [remove_cons_of_not_barra h.1, remove_cons]
    simp only [saltar, ite_self, remove_nil, salta, Bool.or_eq_false_iff, Bool.and_eq_false_iff]
    exact h
  · simp only [salta, Bool.or_eq_false_iff, Bool.and_eq_false_iff] at h
    obtain ⟨ha, h⟩ := h
    rw [remove_cons_of_not_barra ha]
    obtain h | ⟨hb, h⟩ := h
    · -- a first character that is neither a slash nor a dot
      rw [remove_cons]
      cases remove_double_dots_and_double_slashes (if barra b then saltar (c :: s) else c :: s) <;> simp [salta, ha, h]
    · rw [remove_cons_of_not_barra hb, remove_cons]
      simp only [salta, Bool.or_eq_false_iff, Bool.and_eq_false_iff]
      exact ⟨ha, .inr ⟨hb, h⟩⟩

/-- **The result is clean.** -/
theorem limpia_remove (s : Cadena) : Limpia (remove_double_dots_and_double_slashes s) := by
  induction s using remove_induction with
  | nil => trivial
  | cons c s ih =>
    rw [remove_cons]
    refine ⟨fun hc => ?_, ih⟩
    rw [if_pos hc, saltar_eq_self_iff]
    exact salta_remove ((saltar_eq_self_iff _).mp (saltar_saltar s))

/-- **A clean path is left alone.** -/
theorem remove_of_limpia {s : Cadena} (h : Limpia s) : remove_double_dots_and_double_slashes s = s := by
  induction s with
  | nil => rfl
  | cons c s ih =>
    have hrest : (if barra c then saltar s else s) = s := by
      split_ifs with hc
      · exact h.1 hc
      · rfl
    rw [remove_cons, hrest, ih h.2]

/-! ## Segments -/

theorem Limpia.of_suffix {s t : Cadena} (h : Limpia s) (hs : t <:+ s) : Limpia t := by
  induction s with
  | nil => rwa [List.suffix_nil.mp hs]
  | cons c s ih =>
    rw [List.suffix_cons_iff] at hs
    obtain rfl | hs := hs
    · exact h
    · exact ih h.2 hs

/-- **Between two slashes** a clean path has neither nothing nor a dot, and after a slash it never has two dots alone. -/
theorem Limpia.segmento {s pre seg post : Cadena} (h : Limpia s) {c : UInt8} (hc : barra c = true)
    (hs : s = pre ++ c :: (seg ++ post)) (hpost : ∀ d ∈ post.head?, barra d = true) :
    seg ≠ [0x2e, 0x2e] ∧ (post ≠ [] → seg ≠ [] ∧ seg ≠ [0x2e]) := by
  have hfront : salta (seg ++ post) = false := by
    have hsuffix : Limpia (c :: (seg ++ post)) := h.of_suffix ⟨pre, hs.symm⟩
    exact (saltar_eq_self_iff _).mp (hsuffix.1 hc)
  cases post with
  | nil =>
    refine ⟨?_, fun hne => absurd rfl hne⟩
    rintro rfl
    exact absurd hfront (by decide)
  | cons d post =>
    have hd : barra d = true := hpost d rfl
    refine ⟨?_, fun _ => ⟨?_, ?_⟩⟩
    · rintro rfl
      simp [salta, hd] at hfront
    · rintro rfl
      rcases post with - | ⟨e, - | ⟨f, post⟩⟩ <;> simp [salta, hd] at hfront
    · rintro rfl
      rcases post with - | ⟨e, post⟩ <;> simp [salta, hd] at hfront

/-- Nothing to skip at the front of a word without slashes, unless it is two dots. -/
theorem salta_palabra {w : Cadena} (hw : ∀ c ∈ w, barra c = false) (hne : w ≠ [0x2e, 0x2e]) : salta w = false := by
  rcases w with - | ⟨a, - | ⟨b, - | ⟨c, w⟩⟩⟩
  · rfl
  · exact hw a (by simp)
  · have ha := hw a (by simp)
    have hb := hw b (by simp)
    have hdots : ¬(a = 0x2e ∧ b = 0x2e) := fun h => hne (by rw [h.1, h.2])
    simpa [salta, ha, hb] using hdots
  · simp [salta, hw a (by simp), hw b (by simp), hw c (by simp)]

/-- A clean path that ends in a slash stays clean when a word is added. -/
theorem Limpia.append_palabra {s w : Cadena} (h : Limpia s) (hlast : s.getLast? = some 0x2f)
    (hw : ∀ c ∈ w, barra c = false) (hne : w ≠ [0x2e, 0x2e]) : Limpia (s ++ w) := by
  have hword : Limpia w := by
    clear hne hlast
    induction w with
    | nil => trivial
    | cons c w ih =>
      rw [List.forall_mem_cons] at hw
      refine ⟨fun hc => ?_, ih hw.2⟩
      rw [hw.1] at hc
      cases hc
  induction s with
  | nil => cases hlast
  | cons c s ih =>
    cases s with
    | nil => exact ⟨fun _ => (saltar_eq_self_iff w).mpr (salta_palabra hw hne), hword⟩
    | cons a s =>
      have hlast' : (a :: s).getLast? = some 0x2f := by
        rw [List.getLast?_cons_cons] at hlast
        exact hlast
      refine ⟨fun hc => (saltar_eq_self_iff _).mpr ?_, ih h.2 hlast'⟩
      have hfront := (saltar_eq_self_iff _).mp (h.1 hc)
      -- the first three bytes decide, and a slash is the last of the path
      rcases s with - | ⟨b, - | ⟨d, s⟩⟩
      · cases hlast'
        exact absurd hfront (by decide)
      · cases hlast'
        have ha : barra a = false ∧ a ≠ 0x2e := by simpa [salta, show barra 0x2f = true from rfl] using hfront
        rcases w with - | ⟨d, w⟩ <;> simp [salta, ha]
      · exact hfront

/-! ## The URI of a request -/

theorem limpiar_of_limpia {uri : Cadena} (h : Limpia uri) (hescape : ∀ c ∈ uri, c ≠ 0x25 ∧ c ≠ 0) :
    limpiar uri = uri := by
  have hplain : unescape false uri = uri := unescape_of_plain fun c hc => ⟨(hescape c hc).1, rfl⟩
  have hcstr : cstr uri = uri := cstr_of_not_mem fun h0 => (hescape 0 h0).2 rfl
  rw [limpiar, mg_url_decode_uri, hplain, hcstr, remove_of_limpia h, ite_self]

end MensajeroX.Mongoose
