import Mathlib

/-!
# Separated lists

A list of texts kept as one text with a separator. `split` is the `std::getline` loop that reads it back and
`joinLoop` the loop that writes it, which puts a separator only after a non-empty accumulator.

* `split_append_of_not_mem`, `split_of_not_mem` : one turn of the loop and its last one;
* `split_append_cons` : the loop on a text that was extended;
* `split_eq_splitOn` : the loop is `List.splitOn` on the text without one separator at its end;
* `intercalate_split`, `split_intercalate` : reading and joining are inverse to each other, up to that separator;
* `joinLoop_eq_intercalate` : on non-empty texts the writing loop is `List.intercalate`;
* `splitOn_intercalate_flatMap` : cutting a joined text cuts each of its texts;
* `split_joinLoop` : separator-free non-empty texts are read back as they were written;
* `infix_ruta_iff` : what a path contains between two separators.
-/

namespace Separated

variable {α : Type}

/-! ## The writing loop -/

/-- One turn of the writing loop: a separator only after a non-empty accumulator. -/
def joinStep (d : α) (acc t : List α) : List α := (if acc ≠ [] then acc ++ [d] else acc) ++ t

/-- `for (t : ts) { if (acc != "") acc += d; acc += t; }`. -/
def joinLoop (d : α) (ts : List (List α)) : List α := ts.foldl (joinStep d) []

theorem foldl_joinStep (d : α) (ts : List (List α)) {acc : List α} (hacc : acc ≠ []) :
    ts.foldl (joinStep d) acc = acc ++ ts.flatMap (fun t => d :: t) := by
  induction ts generalizing acc with
  | nil => simp
  | cons t ts ih =>
    have hstep : joinStep d acc t = acc ++ d :: t := by simp [joinStep, hacc]
    rw [List.foldl_cons, hstep, ih (by simp), List.flatMap_cons]
    simp

theorem joinLoop_cons (d : α) {t : List α} (ht : t ≠ []) (ts : List (List α)) :
    joinLoop d (t :: ts) = t ++ ts.flatMap (fun t => d :: t) := by
  have hstep : joinStep d [] t = t := by simp [joinStep]
  rw [joinLoop, List.foldl_cons, hstep, foldl_joinStep d ts ht]

theorem intercalate_eq (d : α) (t : List α) (ts : List (List α)) :
    [d].intercalate (t :: ts) = t ++ ts.flatMap (fun t => d :: t) := by
  induction ts generalizing t with
  | nil => simp [List.intercalate]
  | cons u us ih =>
    rw [List.intercalate_cons_cons, ih]
    simp

theorem joinLoop_eq_intercalate (d : α) {ts : List (List α)} (hts : ∀ t ∈ ts, t ≠ []) :
    joinLoop d ts = [d].intercalate ts := by
  cases ts with
  | nil => rfl
  | cons t ts => rw [joinLoop_cons d (hts t (by simp)) ts, intercalate_eq]

theorem joinLoop_append_singleton (d : α) {ts : List (List α)} (hts : ∀ t ∈ ts, t ≠ []) (hne : ts ≠ [])
    (u : List α) : joinLoop d (ts ++ [u]) = joinLoop d ts ++ d :: u := by
  cases ts with
  | nil => exact absurd rfl hne
  | cons t ts =>
    rw [List.cons_append, joinLoop_cons d (hts t (by simp)), joinLoop_cons d (hts t (by simp))]
    simp

theorem joinLoop_getLast (d c : α) {ts : List (List α)} (hts : ∀ t ∈ ts, ∃ u, t = u ++ [c]) (hne : ts ≠ []) :
    ∃ u, joinLoop d ts = u ++ [c] := by
  have hne' : ∀ t ∈ ts, t ≠ [] := fun t ht => by
    obtain ⟨u, rfl⟩ := hts t ht
    simp
  obtain ⟨us, t, rfl⟩ := List.eq_nil_or_concat ts |>.resolve_left hne
  obtain ⟨u, hu⟩ := hts t (by simp)
  subst hu
  by_cases hus : us = []
  · subst hus
    exact ⟨u, by simp [joinLoop, joinStep]⟩
  · refine ⟨joinLoop d us ++ d :: u, ?_⟩
    rw [List.concat_eq_append, joinLoop_append_singleton d (fun t ht => hne' t (by simp [ht])) hus]
    simp

/-! ## The reading loop -/

section Reading
variable [DecidableEq α]

/-- `std::getline`: the text before the first separator and what follows it. -/
def getline (d : α) (s : List α) : List α × List α :=
  (s.takeWhile (fun c => decide (c ≠ d)), (s.dropWhile (fun c => decide (c ≠ d))).tail)

theorem length_getline_lt (d : α) {s : List α} (hs : s ≠ []) : (getline d s).2.length < s.length := by
  have hle : (s.dropWhile (fun c => decide (c ≠ d))).length ≤ s.length := List.length_dropWhile_le _ s
  have hpos : 0 < s.length := List.length_pos_iff.mpr hs
  simp only [getline, List.length_tail]
  omega

/-- `while (getline(ss, item, d)) elems.push_back(item)`: an empty stream ends the loop. -/
def split (d : α) (s : List α) : List (List α) :=
  if _h : s = [] then [] else (getline d s).1 :: split d (getline d s).2
termination_by s.length
decreasing_by exact length_getline_lt d _h

@[simp] theorem split_nil (d : α) : split d ([] : List α) = [] := by
  rw [split, dif_pos rfl]

theorem getline_append {d : α} {p : List α} (hp : d ∉ p) (s : List α) : getline d (p ++ d :: s) = (p, s) := by
  have hall : ∀ c ∈ p, decide (c ≠ d) = true := fun c hc => by
    simpa using fun h : c = d => hp (h ▸ hc)
  simp only [getline]
  rw [List.takeWhile_append_of_pos hall, List.dropWhile_append_of_pos hall]
  simp

theorem getline_of_not_mem {d : α} {p : List α} (hp : d ∉ p) : getline d p = (p, []) := by
  have hall : ∀ c ∈ p, decide (c ≠ d) = true := fun c hc => by
    simpa using fun h : c = d => hp (h ▸ hc)
  simp only [getline]
  rw [List.takeWhile_eq_self_iff.mpr hall, List.dropWhile_eq_nil_iff.mpr hall]
  rfl

theorem split_append_of_not_mem {d : α} {p : List α} (hp : d ∉ p) (s : List α) :
    split d (p ++ d :: s) = p :: split d s := by
  rw [split, dif_neg (by simp), getline_append hp]

theorem split_of_not_mem {d : α} {p : List α} (hp : d ∉ p) (hne : p ≠ []) : split d p = [p] := by
  rw [split, dif_neg hne, getline_of_not_mem hp, split_nil]

/-- Induction on a text, one separator at a time. -/
@[elab_as_elim]
theorem cut_induction (d : α) {motive : List α → Prop} (last : ∀ s, d ∉ s → motive s)
    (turn : ∀ p s, d ∉ p → motive s → motive (p ++ d :: s)) (s : List α) : motive s := by
  induction hn : s.length using Nat.strong_induction_on generalizing s with
  | _ n ih =>
    by_cases hd : d ∈ s
    · obtain ⟨p, t, rfl, hp⟩ := List.eq_append_cons_of_mem hd
      have hlt : t.length < n := by
        rw [← hn, List.length_append, List.length_cons]
        omega
      exact turn p t hp (ih t.length hlt t rfl)
    · exact last s hd

/-- What is read from a text that was extended: what was read before, and then what is read of the extension. -/
theorem split_append_cons (d : α) (s t : List α) :
    ∃ us, split d (s ++ d :: t) = split d s ++ us ∧ us <:+ split d (d :: t) := by
  have hcons : split d (d :: t) = [] :: split d t := split_append_of_not_mem List.not_mem_nil t
  induction s using cut_induction d with
  | last s hs =>
    by_cases hnil : s = []
    · subst hnil
      exact ⟨_, by rw [split_nil, List.nil_append, List.nil_append], List.suffix_rfl⟩
    · refine ⟨split d t, ?_, ?_⟩
      · rw [split_append_of_not_mem hs, split_of_not_mem hs hnil, List.singleton_append]
      · rw [hcons]
        exact List.suffix_cons _ _
  | turn p s hp ih =>
    obtain ⟨us, hus, hsuffix⟩ := ih
    refine ⟨us, ?_, hsuffix⟩
    rw [List.append_assoc, List.cons_append, split_append_of_not_mem hp, split_append_of_not_mem hp, hus,
      List.cons_append]

/-- A text that ends in another byte than the separator is cut at every separator. -/
theorem split_append_last {d c : α} (hc : c ≠ d) (s : List α) :
    split d (s ++ [c]) = List.splitOn d (s ++ [c]) := by
  induction s using cut_induction d with
  | last s hs =>
    have hsc : d ∉ s ++ [c] := by
      simp only [List.mem_append, List.mem_singleton, not_or]
      exact ⟨hs, fun h => hc h.symm⟩
    rw [split_of_not_mem hsc (by simp), List.splitOn_eq_singleton hsc]
  | turn p s hp ih =>
    rw [List.append_assoc, List.cons_append, split_append_of_not_mem hp,
      List.splitOn_append_cons_self_of_not_mem hp, ih]

theorem split_append_separator (d : α) (s : List α) : split d (s ++ [d]) = List.splitOn d s := by
  induction s using cut_induction d with
  | last s hs => rw [split_append_of_not_mem hs, split_nil, List.splitOn_eq_singleton hs]
  | turn p s hp ih =>
    rw [List.append_assoc, List.cons_append, split_append_of_not_mem hp,
      List.splitOn_append_cons_self_of_not_mem hp, ih]

def unterminated (d : α) (s : List α) : List α := if s.getLast? = some d then s.dropLast else s

/-- **The loop cuts at every separator** but one at the end of the text. -/
theorem split_eq_splitOn (d : α) {s : List α} (hs : s ≠ []) : split d s = List.splitOn d (unterminated d s) := by
  obtain ⟨t, c, rfl⟩ := List.eq_nil_or_concat s |>.resolve_left hs
  rw [List.concat_eq_append, unterminated, List.getLast?_concat]
  by_cases hc : c = d
  · subst hc
    rw [if_pos rfl, List.dropLast_concat, split_append_separator]
  · rw [if_neg fun h => hc (Option.some.inj h), split_append_last hc]

/-- The pieces of a text cut at every separator are one more than its separators. -/
theorem length_splitOn (d : α) (s : List α) : (List.splitOn d s).length = s.count d + 1 := by
  induction s using cut_induction d with
  | last s hs =>
    rw [List.splitOn_eq_singleton hs, List.count_eq_zero.mpr hs]
    rfl
  | turn p s hp ih =>
    rw [List.splitOn_append_cons_self_of_not_mem hp, List.length_cons, ih, List.count_append, List.count_cons_self,
      List.count_eq_zero.mpr hp]
    omega

theorem not_mem_of_mem_splitOn {d : α} {s p : List α} (h : p ∈ List.splitOn d s) : d ∉ p := by
  induction s using cut_induction d with
  | last s hs =>
    rw [List.splitOn_eq_singleton hs, List.mem_singleton] at h
    exact h ▸ hs
  | turn q s hq ih =>
    rw [List.splitOn_append_cons_self_of_not_mem hq, List.mem_cons] at h
    rcases h with rfl | h
    · exact hq
    · exact ih h

theorem not_mem_of_mem_split {d : α} {s p : List α} (h : p ∈ split d s) : d ∉ p := by
  by_cases hs : s = []
  · subst hs
    rw [split_nil] at h
    exact absurd h List.not_mem_nil
  · rw [split_eq_splitOn d hs] at h
    exact not_mem_of_mem_splitOn h

/-- **Joining the pieces gives the text back** but for one separator at its end. -/
theorem intercalate_split (d : α) (s : List α) : [d].intercalate (split d s) = unterminated d s := by
  by_cases hs : s = []
  · subst hs
    rw [split_nil]
    rfl
  · rw [split_eq_splitOn d hs, List.intercalate_splitOn]

/-! ## Reading what was written -/

theorem splitOn_intercalate_flatMap (d : α) {ts : List (List α)} (hne : ts ≠ []) :
    List.splitOn d ([d].intercalate ts) = ts.flatMap (List.splitOn d) := by
  induction ts with
  | nil => exact absurd rfl hne
  | cons t ts ih =>
    cases ts with
    | nil => simp [List.intercalate]
    | cons u us =>
      rw [List.intercalate_cons_cons, List.append_assoc, List.singleton_append,
        List.splitOn_append_cons_self, ih (by simp), List.flatMap_cons, List.flatMap_cons, List.flatMap_cons]

/-- The pieces of a joined text are the pieces of its texts, when these end in `c`. -/
theorem split_joinLoop_flatMap {d c : α} (hc : c ≠ d) {ts : List (List α)} (hts : ∀ t ∈ ts, ∃ u, t = u ++ [c]) :
    split d (joinLoop d ts) = ts.flatMap (List.splitOn d) := by
  by_cases hne : ts = []
  · subst hne
    simp [joinLoop]
  · have hne' : ∀ t ∈ ts, t ≠ [] := fun t ht => by
      obtain ⟨u, rfl⟩ := hts t ht
      simp
    obtain ⟨u, hu⟩ := joinLoop_getLast d c hts hne
    rw [hu, split_append_last hc, ← hu, joinLoop_eq_intercalate d hne', splitOn_intercalate_flatMap d hne]

/-- **Separator-free texts of which the last is not empty are read back** from their joined text. -/
theorem split_intercalate {d : α} {ts : List (List α)} (hd : ∀ t ∈ ts, d ∉ t) (hlast : ∀ t ∈ ts.getLast?, t ≠ []) :
    split d ([d].intercalate ts) = ts := by
  induction ts with
  | nil => exact split_nil d
  | cons t ts ih =>
    rw [List.forall_mem_cons] at hd
    cases ts with
    | nil =>
      rw [List.intercalate_singleton]
      exact split_of_not_mem hd.1 (hlast t rfl)
    | cons u us =>
      have hrest : ∀ v ∈ (u :: us).getLast?, v ≠ [] := fun v hv => hlast v (by rwa [List.getLast?_cons_cons])
      rw [List.intercalate_cons_cons, List.append_assoc, List.singleton_append, split_append_of_not_mem hd.1,
        ih hd.2 hrest]

/-- Separator-free non-empty texts are read back as they were written. -/
theorem split_joinLoop {d : α} {ts : List (List α)} (hd : ∀ t ∈ ts, d ∉ t) (hne : ∀ t ∈ ts, t ≠ []) :
    split d (joinLoop d ts) = ts := by
  rw [joinLoop_eq_intercalate d hne]
  exact split_intercalate hd fun t ht => hne t (List.mem_of_mem_getLast? ht)

end Reading

/-! ## Paths -/

theorem infix_append_iff {sep : α} {v p r : List α} (hv : sep ∉ v) :
    sep :: p <:+: v ++ sep :: r ↔ sep :: p <:+: sep :: r := by
  induction v with
  | nil => rfl
  | cons c v ih =>
    rw [List.mem_cons, not_or] at hv
    rw [List.cons_append, List.infix_cons_iff, ih hv.2, or_iff_right]
    intro h
    exact hv.1 (List.cons_prefix_cons.mp h).1

theorem infix_segmento_iff [DecidableEq α] {sep : α} {w v r : List α} (hw : sep ∉ w) (hv : sep ∉ v) :
    sep :: (w ++ [sep]) <:+: sep :: (v ++ sep :: r) ↔ w = v ∨ sep :: (w ++ [sep]) <:+: sep :: r := by
  rw [List.infix_cons_iff, infix_append_iff hv, List.cons_prefix_cons]
  refine or_congr_left ?_
  constructor
  · rintro ⟨-, t, h⟩
    have hline := congrArg (fun l => (getline sep l).1) h
    simpa [getline_append hw, getline_append hv] using hline
  · rintro rfl
    exact ⟨rfl, r, by simp⟩

/-- **A path contains its segments**, and no others, between two separators. -/
theorem infix_ruta_iff [DecidableEq α] {sep : α} {w k : List α} (vs : List (List α)) (hw : sep ∉ w)
    (hvs : ∀ v ∈ vs, sep ∉ v) (hk : sep ∉ k) :
    sep :: (w ++ [sep]) <:+: sep :: (vs.flatMap (· ++ [sep]) ++ k) ↔ w ∈ vs := by
  induction vs with
  | nil =>
    -- nothing separates what follows the first separator
    refine iff_of_false (fun h => ?_) List.not_mem_nil
    have hcount := h.sublist.count_le sep
    simp only [List.count_cons_self, List.count_append, List.flatMap_nil, List.nil_append, List.count_eq_zero.mpr hk,
      List.count_nil] at hcount
    omega
  | cons v vs ih =>
    rw [List.forall_mem_cons] at hvs
    rw [List.flatMap_cons, List.append_assoc, List.append_assoc, List.singleton_append, infix_segmento_iff hw hvs.1,
      ih hvs.2, List.mem_cons]

end Separated
