import MensajeroX.WebServer.Uri

/-!
# The URI in place

`parse_http_message` decodes the URI and removes its double dots within the buffer of the request, with one pointer that
reads and one that writes behind it. Here the two functions run on the buffer; a read or a write outside of it has no
result.

* `decodificarEn_eq` : the decoding loop reads only what it has not yet written over;
* `saltarEn_eq`, `copiarEn_eq` : so do the loops that remove, and the NUL stops them in time;
* `limpiarEn_eq` : the URI in the buffer becomes the URI of `limpiar`, and nothing around it changes.
-/

namespace MensajeroX.Mongoose
open Bytes Percent

/-! ## Memory -/

/-- `*p`. -/
def leer (mem : Cadena) (p : Nat) : Option UInt8 := mem[p]?

/-- `*p = c`. -/
def escribir (mem : Cadena) (p : Nat) (c : UInt8) : Option Cadena := if p < mem.length then some (mem.set p c) else none

theorem leer_drop {mem rest : Cadena} {p : Nat} (h : mem.drop p = rest) (i : Nat) : leer mem (p + i) = rest[i]? := by
  rw [leer, ← h, List.getElem?_drop]

/-- A write after what has been written, over a byte that has been read. -/
theorem escribir_hueco (pre out x : Cadena) {hueco : Cadena} (h : hueco ≠ []) (c : UInt8) :
    escribir (pre ++ (out ++ (hueco ++ x))) (pre.length + out.length) c =
      some (pre ++ ((out ++ [c]) ++ (hueco.tail ++ x))) := by
  obtain ⟨d, hueco, rfl⟩ := List.exists_cons_of_ne_nil h
  rw [escribir, if_pos (by simp)]
  simp

/-! ## The loops -/

/-- The byte of an escape at `p`, which is read as far as the tests go. -/
def escapeEn (mem : Cadena) (p : Nat) (c : UInt8) (cabe : Bool) : Option (Option UInt8) :=
  if c = 0x25 ∧ cabe then do
    let a ← leer mem (p + 1)
    if isHexDigit a then do
      let b ← leer mem (p + 2)
      pure (if isHexDigit b then some ((HEXTOI (tolower a) <<< 4) ||| HEXTOI (tolower b)) else none)
    else pure none
  else pure none

/-- The loop of `mg_url_decode` on memory, for at most so many turns: the memory, `i` and `j`. -/
def decodificarEn (is_form_url_encoded : Bool) (src src_len dst dst_len : Nat) :
    Nat → Cadena → Nat → Nat → Option (Cadena × Nat × Nat)
  | 0, _, _, _ => none
  | fuel + 1, mem, i, j =>
    if i < src_len ∧ j < dst_len - 1 then do
      let c ← leer mem (src + i)
      match ← escapeEn mem (src + i) c (i + 2 < src_len) with
      | some byte =>
        let mem ← escribir mem (dst + j) byte
        decodificarEn is_form_url_encoded src src_len dst dst_len fuel mem (i + 3) (j + 1)
      | none =>
        let mem ← escribir mem (dst + j) (if is_form_url_encoded ∧ c = 0x2b then 0x20 else c)
        decodificarEn is_form_url_encoded src src_len dst dst_len fuel mem (i + 1) (j + 1)
    else pure (mem, i, j)

/-- `mg_url_decode` on memory: the memory and the result. -/
def mg_url_decodeEn (mem : Cadena) (src src_len dst dst_len : Nat) (is_form_url_encoded : Bool) : Option (Cadena × Int) := do
  let (mem, i, j) ← decodificarEn is_form_url_encoded src src_len dst dst_len (src_len + 1) mem 0 0
  let mem ← escribir mem (dst + j) 0
  pure (mem, if src_len ≤ i then j else -1)

/-- The inner loop of `remove_double_dots_and_double_slashes` on memory: where the reading pointer stops. -/
def saltarEn (mem : Cadena) : Nat → Nat → Option Nat
  | 0, _ => none
  | fuel + 1, s => do
    let a ← leer mem s
    if a = 0 then pure s
    else if barra a then saltarEn mem fuel (s + 1)
    else if a = 0x2e then do
      let b ← leer mem (s + 1)
      if barra b then saltarEn mem fuel (s + 2)
      else if b = 0x2e then do
        let c ← leer mem (s + 2)
        if c = 0 then saltarEn mem fuel (s + 2)
        else if barra c then saltarEn mem fuel (s + 3)
        else pure s
      else pure s
    else pure s

/-- The outer loop, with the reading and the writing pointer. -/
def copiarEn : Nat → Cadena → Nat → Nat → Option (Cadena × Nat)
  | 0, _, _, _ => none
  | fuel + 1, mem, s, p => do
    let c ← leer mem s
    if c = 0 then pure (mem, p)
    else do
      let mem ← escribir mem p c
      let s ← if barra c then saltarEn mem (mem.length + 1) (s + 1) else pure (s + 1)
      copiarEn fuel mem s (p + 1)

/-- `remove_double_dots_and_double_slashes` on memory. -/
def remove_double_dots_and_double_slashesEn (mem : Cadena) (s : Nat) : Option Cadena := do
  let (mem, p) ← copiarEn (mem.length + 1) mem s s
  escribir mem p 0

/-- What `parse_http_message` does with the URI, which starts at `uri` and has `n` bytes. -/
def limpiarEn (mem : Cadena) (uri n : Nat) : Option Cadena := do
  let (mem, _) ← mg_url_decodeEn mem uri n uri (n + 1) false
  let c ← leer mem uri
  if c = 0x2f ∨ c = 0x2e then remove_double_dots_and_double_slashesEn mem uri else pure mem

/-! ## Decoding in place

The memory has a part before the URI (`pre`), what has been written (`out`), what has been read and not written over
(`hueco`) and what is still to be read. -/

theorem exists_cons_cons {s : Cadena} (h : 2 ≤ s.length) : ∃ a b t, s = a :: b :: t := by
  rcases s with - | ⟨a, - | ⟨b, t⟩⟩
  · simp at h
  · simp at h
  · exact ⟨a, b, t, rfl⟩

theorem escapeEn_eq {mem cs t : Cadena} {p : Nat} {c : UInt8} (h : mem.drop p = c :: (cs ++ t)) :
    escapeEn mem p c (2 ≤ cs.length) =
      some (if c = 0x25 ∧ 2 ≤ cs.length ∧ isHexDigit (cs.getD 0 0) ∧ isHexDigit (cs.getD 1 0) then
        some (hexByte (cs.getD 0 0) (cs.getD 1 0)) else none) := by
  rw [escapeEn]
  by_cases hc : c = 0x25 ∧ 2 ≤ cs.length
  · obtain ⟨a, b, cs, rfl⟩ := exists_cons_cons hc.2
    have ha : leer mem (p + 1) = some a := leer_drop h 1
    have hb : leer mem (p + 2) = some b := leer_drop h 2
    rw [if_pos (by simpa using hc), ha]
    by_cases hexa : isHexDigit a = true
    · by_cases hexb : isHexDigit b = true
      · simp [hexa, hexb, hb, hc.1, hexByte_eq]
      · simp [hexa, hexb, hb]
    · simp [hexa]
  · rw [if_neg (by simpa using hc), if_neg fun h => hc ⟨h.1, h.2.1⟩]
    rfl

/-- **Decoding in place.** The bytes that are still to be read are never written over, so the loop writes what it would
write elsewhere. -/
theorem decodificarEn_eq (form : Bool) (pre t : Cadena) (n : Nat) (fuel : Nat) (out hueco resto : Cadena)
    (hn : out.length + hueco.length + resto.length = n) (hfuel : resto.length < fuel) :
    ∃ hueco', (out ++ unescape form resto).length + hueco'.length = n ∧
      decodificarEn form pre.length n pre.length (n + 1) fuel (pre ++ (out ++ (hueco ++ (resto ++ t))))
        (out.length + hueco.length) out.length =
      some (pre ++ ((out ++ unescape form resto) ++ (hueco' ++ t)), n, (out ++ unescape form resto).length) := by
  induction fuel generalizing out hueco resto with
  | zero => omega
  | succ fuel ih =>
    cases resto with
    | nil =>
      refine ⟨hueco, by simpa [unescape] using hn, ?_⟩
      rw [decodificarEn, if_neg (by simp at hn; omega)]
      simp only [List.length_nil, Nat.add_zero] at hn
      simp [unescape, hn]
    | cons c cs =>
      rw [List.length_cons] at hn hfuel
      have hdrop : (pre ++ (out ++ (hueco ++ (c :: cs ++ t)))).drop (pre.length + (out.length + hueco.length)) =
          c :: (cs ++ t) := by
        rw [← List.append_assoc out, ← List.append_assoc pre, ← List.length_append, ← List.length_append,
          List.drop_left]
        rfl
      have hread : leer (pre ++ (out ++ (hueco ++ (c :: cs ++ t)))) (pre.length + (out.length + hueco.length)) =
          some c := leer_drop hdrop 0
      have hcabe : decide (out.length + hueco.length + 2 < n) = decide (2 ≤ cs.length) := by
        rw [decide_eq_decide]
        omega
      -- a turn that reads `leidos` and writes `byte`
      have hturno : ∀ (leidos cs' : Cadena) (byte : UInt8), c :: cs = leidos ++ cs' → leidos ≠ [] →
          unescape form (c :: cs) = byte :: unescape form cs' →
          ∃ hueco', (out ++ unescape form (c :: cs)).length + hueco'.length = n ∧
            (escribir (pre ++ (out ++ (hueco ++ (c :: cs ++ t)))) (pre.length + out.length) byte).bind
              (fun mem => decodificarEn form pre.length n pre.length (n + 1) fuel mem
                (out.length + hueco.length + leidos.length) (out.length + 1)) =
            some (pre ++ ((out ++ unescape form (c :: cs)) ++ (hueco' ++ t)), n,
              (out ++ unescape form (c :: cs)).length) := by
        intro leidos cs' byte hcs hne hbyte
        have hlen := congrArg List.length hcs
        have hpos : 0 < leidos.length := List.length_pos_iff.mpr hne
        rw [List.length_cons, List.length_append] at hlen
        have htail : (hueco ++ leidos).tail.length = hueco.length + leidos.length - 1 := by
          rw [List.length_tail, List.length_append]
        obtain ⟨hueco', hlen', heq⟩ := ih (out ++ [byte]) (hueco ++ leidos).tail cs'
          (by rw [List.length_append, List.length_singleton, htail]; omega) (by omega)
        have hidx : (out ++ [byte]).length + (hueco ++ leidos).tail.length =
            out.length + hueco.length + leidos.length := by
          rw [List.length_append, List.length_singleton, htail]
          omega
        have hassoc : hueco ++ (c :: cs ++ t) = (hueco ++ leidos) ++ (cs' ++ t) := by
          rw [hcs]
          simp only [List.append_assoc]
        rw [hidx, List.length_append, List.length_singleton] at heq
        refine ⟨hueco', by simpa [hbyte] using hlen', ?_⟩
        rw [hassoc, escribir_hueco _ _ _ (by simp [hne]), Option.bind_some, heq, hbyte]
        simp
      rw [decodificarEn, if_pos (by omega), hread]
      simp only [Option.bind_eq_bind, Option.bind_some]
      rw [hcabe, escapeEn_eq hdrop, Option.bind_some]
      by_cases hhex : c = 0x25 ∧ 2 ≤ cs.length ∧ isHexDigit (cs.getD 0 0) ∧ isHexDigit (cs.getD 1 0)
      · rw [if_pos hhex]
        obtain ⟨a, b, cs, rfl⟩ := exists_cons_cons hhex.2.1
        refine hturno [c, a, b] cs (hexByte a b) rfl (by simp) ?_
        rw [hhex.1]
        exact unescape_hex hhex.2.2.1 hhex.2.2.2 form cs
      · rw [if_neg hhex]
        refine hturno [c] cs _ rfl (by simp) ?_
        rw [unescape_step, if_neg hhex, plain]
        simp

/-! ## Removing in place -/

/-- The inner loop stops where `saltar` does; the NUL after the text stops it at the latest. -/
theorem saltarEn_eq {mem s t : Cadena} {p : Nat} (h : mem.drop p = s ++ 0 :: t) (hs : (0 : UInt8) ∉ s) {fuel : Nat}
    (hfuel : s.length < fuel) : saltarEn mem fuel p = some (p + (s.length - (saltar s).length)) := by
  induction fuel generalizing s p with
  | zero => omega
  | succ fuel ih =>
    -- the loop goes on after `k` characters
    have hsigue : ∀ (k : Nat) (x : Cadena), s.drop k = x → 0 < k → k ≤ s.length →
        saltarEn mem fuel (p + k) = some (p + (s.length - (saltar x).length)) := by
      intro k x hx hpos hk
      have hdrop : mem.drop (p + k) = x ++ 0 :: t := by
        rw [← List.drop_drop, h, List.drop_append_of_le_length hk, hx]
      have hlen : x.length = s.length - k := by rw [← hx, List.length_drop]
      have hle := (saltar_suffix x).length_le
      rw [ih hdrop (fun h0 => hs (List.mem_of_mem_drop (hx ▸ h0))) (by omega)]
      congr 1
      omega
    have hquieto : saltar s = s → some p = some (p + (s.length - (saltar s).length)) := fun h => by
      rw [h, Nat.sub_self, Nat.add_zero]
    have h0 : leer mem p = (s ++ 0 :: t)[0]? := leer_drop h 0
    have h1 : leer mem (p + 1) = (s ++ 0 :: t)[1]? := leer_drop h 1
    have h2 : leer mem (p + 2) = (s ++ 0 :: t)[2]? := leer_drop h 2
    have hnul : barra 0 = false := rfl
    have hdot : barra 0x2e = false := rfl
    rw [saltarEn, h0]
    rcases s with - | ⟨a, s⟩
    · rfl
    rw [List.mem_cons, not_or] at hs
    have ha : a ≠ 0 := Ne.symm hs.1
    by_cases hbar : barra a = true
    · rw [saltar_barra hbar]
      simpa [ha, hbar] using hsigue 1 s rfl (by omega) (by simp)
    by_cases hpunto : a = 0x2e
    · subst hpunto
      rcases s with - | ⟨b, s⟩
      · exact (by simp [h1, hnul, hdot] : _ = some p).trans (hquieto rfl)
      rw [List.mem_cons, not_or] at hs
      have hb : b ≠ 0 := Ne.symm hs.2.1
      by_cases hbarb : barra b = true
      · rw [saltar_punto_barra hbarb]
        simpa [h1, hdot, hbarb] using hsigue 2 s rfl (by omega) (by simp)
      by_cases hpuntob : b = 0x2e
      · subst hpuntob
        rcases s with - | ⟨c, s⟩
        · simpa [h1, h2, hdot, saltar] using hsigue 2 [] rfl (by omega) (by simp)
        rw [List.mem_cons, not_or] at hs
        have hc : c ≠ 0 := Ne.symm hs.2.2.1
        rw [saltar_puntos] at hquieto ⊢
        by_cases hbarc : barra c = true
        · rw [if_pos hbarc]
          simpa [h1, h2, hdot, hc, hbarc] using hsigue 3 s rfl (by omega) (by simp)
        · rw [if_neg hbarc] at hquieto ⊢
          exact (by simp [h1, h2, hdot, hc, hbarc] : _ = some p).trans (hquieto rfl)
      · rw [Bool.not_eq_true] at hbarb
        exact (by simp [h1, hdot, hbarb, hpuntob] : _ = some p).trans (hquieto (saltar_punto_otro hbarb hpuntob s))
    · rw [Bool.not_eq_true] at hbar
      exact (by simp [ha, hbar, hpunto] : _ = some p).trans (hquieto (saltar_otro hbar hpunto s))

/-- **Removing in place.** The writing pointer stays behind the reading one. -/
theorem copiarEn_eq (pre t : Cadena) (fuel : Nat) (out hueco s : Cadena) (hs : (0 : UInt8) ∉ s) (hfuel : s.length < fuel) :
    ∃ hueco', (out ++ remove_double_dots_and_double_slashes s).length + hueco'.length =
        out.length + hueco.length + s.length ∧
      copiarEn fuel (pre ++ (out ++ (hueco ++ (s ++ 0 :: t)))) (pre.length + (out.length + hueco.length))
        (pre.length + out.length) =
      some (pre ++ ((out ++ remove_double_dots_and_double_slashes s) ++ (hueco' ++ 0 :: t)),
        pre.length + (out ++ remove_double_dots_and_double_slashes s).length) := by
  induction fuel generalizing out hueco s with
  | zero => omega
  | succ fuel ih =>
    have hdrop : ∀ (out hueco s : Cadena),
        (pre ++ (out ++ (hueco ++ (s ++ 0 :: t)))).drop (pre.length + (out.length + hueco.length)) = s ++ 0 :: t := by
      intro out hueco s
      rw [← List.append_assoc out, ← List.append_assoc pre, ← List.length_append, ← List.length_append, List.drop_left]
    have hread := leer_drop (hdrop out hueco s) 0
    rw [Nat.add_zero] at hread
    rw [copiarEn, hread]
    cases s with
    | nil => exact ⟨hueco, by simp, by simp⟩
    | cons c s =>
      rw [List.mem_cons, not_or] at hs
      have hc : c ≠ 0 := Ne.symm hs.1
      have hassoc : hueco ++ (c :: s ++ 0 :: t) = (hueco ++ [c]) ++ (s ++ 0 :: t) := by simp
      have htail : (hueco ++ [c]).tail.length = hueco.length := by simp
      -- the reading pointer goes to the rest `x` of the text
      have hsigue : ∀ saltado x : Cadena, s = saltado ++ x →
          remove_double_dots_and_double_slashes (c :: s) = c :: remove_double_dots_and_double_slashes x →
          ∃ hueco', (out ++ remove_double_dots_and_double_slashes (c :: s)).length + hueco'.length =
              out.length + hueco.length + (c :: s).length ∧
            copiarEn fuel (pre ++ ((out ++ [c]) ++ ((hueco ++ [c]).tail ++ (s ++ 0 :: t))))
              (pre.length + (out.length + hueco.length) + 1 + saltado.length) (pre.length + out.length + 1) =
            some (pre ++ ((out ++ remove_double_dots_and_double_slashes (c :: s)) ++ (hueco' ++ 0 :: t)),
              pre.length + (out ++ remove_double_dots_and_double_slashes (c :: s)).length) := by
        intro saltado x hx hremove
        have hlen := congrArg List.length hx
        rw [List.length_append] at hlen
        rw [List.length_cons] at hfuel
        obtain ⟨hueco', hlen', heq⟩ := ih (out ++ [c]) ((hueco ++ [c]).tail ++ saltado) x
          (fun h => hs.2 (by rw [hx]; exact List.mem_append_right _ h)) (by omega)
        refine ⟨hueco', ?_, ?_⟩
        · rw [hremove]
          simp only [List.length_append, List.length_cons, List.length_nil, htail] at hlen' ⊢
          omega
        · have hidx : pre.length + (out.length + hueco.length) + 1 + saltado.length =
              pre.length + ((out ++ [c]).length + ((hueco ++ [c]).tail ++ saltado).length) := by
            rw [List.length_append, List.length_append, List.length_singleton, htail]
            omega
          have hptr : pre.length + out.length + 1 = pre.length + (out ++ [c]).length := by
            rw [List.length_append, List.length_singleton]
            omega
          have hmem : (hueco ++ [c]).tail ++ (s ++ 0 :: t) = (hueco ++ [c]).tail ++ saltado ++ (x ++ 0 :: t) := by
            rw [hx]
            simp only [List.append_assoc]
          rw [hidx, hptr, hmem, heq, hremove]
          simp
      have hwrite := escribir_hueco pre out (s ++ 0 :: t) (show hueco ++ [c] ≠ [] by simp) c
      have hnext : (pre ++ ((out ++ [c]) ++ ((hueco ++ [c]).tail ++ (s ++ 0 :: t)))).drop
          (pre.length + (out.length + hueco.length) + 1) = s ++ 0 :: t := by
        have hidx : pre.length + (out.length + hueco.length) + 1 =
            pre.length + ((out ++ [c]).length + (hueco ++ [c]).tail.length) := by
          rw [List.length_append, List.length_singleton, htail]
          omega
        rw [hidx, hdrop]
      simp only [List.cons_append, List.getElem?_cons_zero, Option.bind_eq_bind, Option.bind_some, hc, if_false]
      rw [List.cons_append] at hassoc
      rw [hassoc, hwrite, Option.bind_some]
      by_cases hbar : barra c = true
      · obtain ⟨saltado, hsaltado⟩ := saltar_suffix s
        have hlen := congrArg List.length hsaltado
        rw [List.length_append] at hlen
        have hfuel' : s.length < (pre ++ ((out ++ [c]) ++ ((hueco ++ [c]).tail ++ (s ++ 0 :: t)))).length + 1 := by
          simp only [List.length_append]
          omega
        have hskip : s.length - (saltar s).length = saltado.length := by omega
        rw [if_pos hbar, saltarEn_eq hnext hs.2 hfuel', Option.bind_some, hskip]
        exact hsigue saltado (saltar s) hsaltado.symm (by rw [remove_cons, if_pos hbar])
      · rw [if_neg hbar]
        exact hsigue [] s rfl (by rw [remove_cons, if_neg hbar])

theorem removeEn_eq (pre s t : Cadena) (hs : (0 : UInt8) ∉ s) :
    ∃ resto, (remove_double_dots_and_double_slashes s).length + resto.length = s.length ∧
      remove_double_dots_and_double_slashesEn (pre ++ (s ++ 0 :: t)) pre.length =
        some (pre ++ (remove_double_dots_and_double_slashes s ++ 0 :: (resto ++ t))) := by
  obtain ⟨hueco, hlen, heq⟩ := copiarEn_eq pre t ((pre ++ (s ++ 0 :: t)).length + 1) [] [] s hs
    (by simp only [List.length_append]; omega)
  simp only [List.nil_append, List.length_nil, Nat.add_zero, Nat.zero_add] at hlen heq
  have hassoc : hueco ++ 0 :: t = (hueco ++ [0]) ++ t := by simp
  refine ⟨(hueco ++ [0]).tail, by simpa using hlen, ?_⟩
  rw [remove_double_dots_and_double_slashesEn, heq]
  simp only [Option.bind_eq_bind, Option.bind_some]
  rw [hassoc, escribir_hueco _ _ _ (by simp)]
  simp

/-! ## The URI -/

theorem mg_url_decodeEn_eq (pre s t : Cadena) (form : Bool) :
    ∃ resto, (unescape form s).length + resto.length = s.length ∧
      mg_url_decodeEn (pre ++ (s ++ 0 :: t)) pre.length s.length pre.length (s.length + 1) form =
        some (pre ++ (unescape form s ++ 0 :: (resto ++ t)), ((unescape form s).length : Int)) := by
  obtain ⟨hueco, hlen, heq⟩ := decodificarEn_eq form pre (0 :: t) s.length (s.length + 1) [] [] s (by simp) (by omega)
  simp only [List.nil_append, List.length_nil, Nat.add_zero] at hlen heq
  have hassoc : hueco ++ 0 :: t = (hueco ++ [0]) ++ t := by simp
  refine ⟨(hueco ++ [0]).tail, by simpa using hlen, ?_⟩
  rw [mg_url_decodeEn, heq]
  simp only [Option.bind_eq_bind, Option.bind_some]
  rw [hassoc, escribir_hueco _ _ _ (by simp)]
  simp

theorem exists_cstr_append (s : Cadena) : ∃ r, s ++ [0] = cstr s ++ 0 :: r := by
  induction s with
  | nil => exact ⟨[], rfl⟩
  | cons c s ih =>
    by_cases hc : c = 0
    · subst hc
      exact ⟨s ++ [0], rfl⟩
    · obtain ⟨r, hr⟩ := ih
      have hcstr : cstr (c :: s) = c :: cstr s := by simp [cstr, hc]
      exact ⟨r, by rw [hcstr, List.cons_append, hr, List.cons_append]⟩

theorem length_cstr_append {s r : Cadena} (h : s ++ [0] = cstr s ++ 0 :: r) : (cstr s).length + r.length = s.length := by
  have := congrArg List.length h
  simp only [List.length_append, List.length_cons, List.length_nil] at this
  omega

/-- **The URI in the buffer** becomes the URI of the request, and nothing around it changes. -/
theorem limpiarEn_eq (pre uri t : Cadena) :
    ∃ resto, (limpiar uri).length + resto.length = uri.length ∧
      limpiarEn (pre ++ (uri ++ 0 :: t)) pre.length uri.length = some (pre ++ (limpiar uri ++ 0 :: (resto ++ t))) := by
  obtain ⟨resto, hlen, hdecode⟩ := mg_url_decodeEn_eq pre uri t false
  obtain ⟨r, hr⟩ := exists_cstr_append (unescape false uri)
  have hlen' := length_cstr_append hr
  have hmem : unescape false uri ++ 0 :: (resto ++ t) = cstr (unescape false uri) ++ 0 :: (r ++ resto ++ t) := by
    have hcons : unescape false uri ++ 0 :: (resto ++ t) = (unescape false uri ++ [0]) ++ (resto ++ t) := by simp
    rw [hcons, hr]
    simp
  have hcase : limpiar uri =
      if (cstr (unescape false uri)).head? = some 0x2f ∨ (cstr (unescape false uri)).head? = some 0x2e then
        remove_double_dots_and_double_slashes (cstr (unescape false uri)) else cstr (unescape false uri) := by
    rw [limpiar, mg_url_decode_uri]
  have hread : leer (pre ++ (cstr (unescape false uri) ++ 0 :: (r ++ resto ++ t))) pre.length =
      (cstr (unescape false uri) ++ 0 :: (r ++ resto ++ t))[0]? := leer_drop (List.drop_left) 0
  rw [limpiarEn, hdecode, hmem]
  simp only [Option.bind_eq_bind, Option.bind_some]
  rw [hread, hcase]
  -- the first byte of the memory decides as the first byte of the text does
  have hhead : ∀ d : UInt8, d ≠ 0 → (((cstr (unescape false uri) ++ 0 :: (r ++ resto ++ t))[0]? = some d) ↔
      (cstr (unescape false uri)).head? = some d) := by
    intro d hd
    cases cstr (unescape false uri) with
    | nil => simp [Ne.symm hd]
    | cons c s => simp
  obtain ⟨c, hc⟩ : ∃ c, (cstr (unescape false uri) ++ 0 :: (r ++ resto ++ t))[0]? = some c := by
    cases cstr (unescape false uri) with
    | nil => exact ⟨0, rfl⟩
    | cons c s => exact ⟨c, rfl⟩
  have hiff : (c = 0x2f ∨ c = 0x2e) ↔ ((cstr (unescape false uri)).head? = some 0x2f ∨
      (cstr (unescape false uri)).head? = some 0x2e) := by
    rw [← hhead 0x2f (by decide), ← hhead 0x2e (by decide), hc, Option.some.injEq, Option.some.injEq]
  rw [hc, Option.bind_some]
  by_cases hif : c = 0x2f ∨ c = 0x2e
  · obtain ⟨resto', hlen'', hremove⟩ := removeEn_eq pre (cstr (unescape false uri)) (r ++ resto ++ t) (cstr_not_mem_zero _)
    refine ⟨resto' ++ r ++ resto, ?_, ?_⟩
    · rw [if_pos (hiff.mp hif)]
      simp only [List.length_append]
      omega
    · rw [if_pos hif, if_pos (hiff.mp hif), hremove]
      simp
  · refine ⟨r ++ resto, ?_, ?_⟩
    · rw [if_neg fun h => hif (hiff.mpr h), List.length_append]
      omega
    · rw [if_neg hif, if_neg fun h => hif (hiff.mpr h)]
      rfl

end MensajeroX.Mongoose
