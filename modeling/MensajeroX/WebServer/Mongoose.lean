import MensajeroX.Lib.Chunked

/-!
# `mongoose`

The functions of the web server that turn the bytes of a connection into a request: the length of a buffered request, its
words and headers, the decoding of its URI and of the variables of its query string and body.

A C string is the bytes before its NUL. `skip` writes NULs over the delimiters of the buffer and moves a pointer; here it
returns the word and what is left. `parse_http_message` decodes and cleans the URI in place; the same steps on memory are
in `WebServer.Memoria`.

* `mg_url_decode_eq` : the decoding loop is `Percent.unescape`, up to the room of its destination;
* `get_request_len_append`, `get_request_len_of_append` : what more bytes change about the length of a request;
* `get_var_eq` : the scan for a variable is a lookup in the pieces between the `&`.
-/

namespace MensajeroX.Mongoose
open Bytes Percent

/-! ## Characters -/

/-- `isprint` in the C locale. -/
def isprint (c : UInt8) : Bool := 0x20 ≤ c && c ≤ 0x7e

/-- The control characters that `get_request_len` does not allow. -/
def prohibido (c : UInt8) : Bool := !isprint c && c != 0x0d && c != 0x0a && c < 128

/-- `mg_strcasecmp`, on two C strings. -/
def mg_strcasecmp : Cadena → Cadena → Int
  | [], s2 => (tolower 0).toNat - (tolower (s2.headD 0)).toNat
  | c :: s1, s2 =>
    let diff : Int := (tolower c).toNat - (tolower (s2.headD 0)).toNat
    if diff = 0 ∧ c ≠ 0 then mg_strcasecmp s1 s2.tail else diff

def mg_strncasecmp : Cadena → Cadena → Nat → Int
  | _, _, 0 => 0
  | s1, s2, len + 1 =>
    let diff : Int := (tolower (s1.headD 0)).toNat - (tolower (s2.headD 0)).toNat
    if diff = 0 ∧ s1.headD 0 ≠ 0 then mg_strncasecmp s1.tail s2.tail len else diff

/-! ## Decoding -/

def HEXTOI (x : UInt8) : UInt8 := if isDigit x then x - 0x30 else x - 0x57

/-- The loop of `mg_url_decode`, with room for so many bytes: what it writes, and whether it reaches the end. -/
def decodificar (is_form_url_encoded : Bool) : Nat → Cadena → Cadena × Bool
  | _, [] => ([], true)
  | 0, _ :: _ => ([], false)
  | room + 1, c :: cs =>
    let (byte, cs) :=
      if c = 0x25 ∧ 2 ≤ cs.length ∧ isHexDigit (cs.getD 0 0) ∧ isHexDigit (cs.getD 1 0) then
        ((HEXTOI (tolower (cs.getD 0 0)) <<< 4) ||| HEXTOI (tolower (cs.getD 1 0)), cs.drop 2)
      else if is_form_url_encoded ∧ c = 0x2b then (0x20, cs)
      else (c, cs)
    let r := decodificar is_form_url_encoded room cs
    (byte :: r.1, r.2)

/-- `mg_url_decode`: its result and the C string in `dst`. -/
def mg_url_decode (src : Cadena) (dst_len : Nat) (is_form_url_encoded : Bool) : Int × Cadena :=
  let r := decodificar is_form_url_encoded (dst_len - 1) src
  (if r.2 then r.1.length else -1, r.1)

/-! ## The buffered request -/

/-- The loop of `get_request_len` from the index `i`. -/
def largo (i : Nat) : Cadena → Int
  | [] => 0
  | c :: cs =>
    if prohibido c then -1
    else if c = 0x0a ∧ cs.head? = some 0x0a then i + 2
    else if c = 0x0a ∧ cs.take 2 = [0x0d, 0x0a] then i + 3
    else largo (i + 1) cs

/-- `-1` for a malformed request, `0` for one that is not complete. -/
def get_request_len (buf : Cadena) : Int := largo 0 buf

/-- The word before the delimiters, and what follows them. -/
def skip (delimiters buf : Cadena) : Cadena × Cadena :=
  (buf.takeWhile (fun c => !delimiters.contains c),
    (buf.dropWhile (fun c => !delimiters.contains c)).dropWhile (fun c => delimiters.contains c))

/-- `parse_http_headers`, with room for `n` headers. -/
def parse_http_headers : Nat → Cadena → List (Cadena × Cadena)
  | 0, _ => []
  | n + 1, buf =>
    let (name, buf) := skip [0x3a, 0x20] buf
    let (value, buf) := skip [0x0d, 0x0a] buf
    if name = [] then [] else (name, value) :: parse_http_headers n buf

/-- `ARRAY_SIZE(ri->http_headers)`. -/
def maxHeaders : Nat := 30

/-- `/` or `\`. -/
def barra (c : UInt8) : Bool := c == 0x2f || c == 0x5c

/-- The inner loop of `remove_double_dots_and_double_slashes`. -/
def saltar : Cadena → Cadena
  | [] => []
  | [a] => if barra a then [] else [a]
  | [a, b] =>
    if barra a then saltar [b] else if a = 0x2e ∧ barra b then [] else if a = 0x2e ∧ b = 0x2e then [] else [a, b]
  | a :: b :: c :: s =>
    if barra a then saltar (b :: c :: s)
    else if a = 0x2e ∧ barra b then saltar (c :: s)
    else if a = 0x2e ∧ b = 0x2e ∧ barra c then saltar s
    else a :: b :: c :: s

def copiar : Nat → Cadena → Cadena
  | 0, _ => []
  | _ + 1, [] => []
  | n + 1, c :: s => c :: copiar n (if barra c then saltar s else s)

def remove_double_dots_and_double_slashes (s : Cadena) : Cadena := copiar s.length s

def is_valid_http_method (s : Cadena) : Bool :=
  s == bytes "GET" || s == bytes "POST" || s == bytes "HEAD" || s == bytes "CONNECT" || s == bytes "PUT" ||
    s == bytes "DELETE" || s == bytes "OPTIONS" || s == bytes "PROPFIND" || s == bytes "MKCOL" || s == bytes "PATCH"

/-- `strtoll` in base ten. -/
def strtoll (s : Cadena) : Int :=
  let s := s.dropWhile isspace
  let n : Int := Chunked.value 10 ((if s.head? = some 0x2d ∨ s.head? = some 0x2b then s.tail else s).takeWhile isDigit)
  max (-2 ^ 63) (min (2 ^ 63 - 1) (if s.head? = some 0x2d then -n else n))

/-- `atoi`: `strtol`, cut to an `int`. -/
def atoi (s : Cadena) : Int := (strtoll s).bmod (2 ^ 32)

/-- `mg_connection`, as far as the server reads it. A `NULL` text is empty, but for the query string. -/
structure MgConnection where
  request_method : Cadena := []
  uri : Cadena := []
  http_version : Cadena := []
  query_string : Option Cadena := none
  http_headers : List (Cadena × Cadena) := []
  status_code : Int := 0
  is_websocket : Bool := false
  content : Cadena := []
deriving DecidableEq, Repr

/-- The URI as it stands in the request, decoded and without double dots and double slashes. -/
def limpiar (uri : Cadena) : Cadena :=
  let uri := cstr (mg_url_decode uri (uri.length + 1) false).2
  if uri.head? = some 0x2f ∨ uri.head? = some 0x2e then remove_double_dots_and_double_slashes uri else uri

/-- `parse_http_message`; `none` is the result `~0`. -/
def parse_http_message (buf : Cadena) : Option MgConnection :=
  if buf.length < 1 then none
  else
    let buf := (cstr buf.dropLast).dropWhile isspace
    let (request_method, buf) := skip [0x20] buf
    let (uri, buf) := skip [0x20] buf
    let (http_version, buf) := skip [0x0d, 0x0a] buf
    let is_request := is_valid_http_method request_method
    if (is_request ∧ ¬bytes "HTTP/" <+: http_version) ∨ (¬is_request ∧ ¬bytes "HTTP/" <+: request_method) then none
    else
      some {
        request_method := request_method
        uri := limpiar (uri.takeWhile (· != 0x3f))
        http_version := if is_request then http_version.drop 5 else http_version
        query_string := if uri.contains 0x3f then some ((uri.dropWhile (· != 0x3f)).drop 1) else none
        http_headers := parse_http_headers maxHeaders buf
        status_code := if is_request then 0 else atoi uri }

def mg_get_header (http_headers : List (Cadena × Cadena)) (s : Cadena) : Option Cadena :=
  (http_headers.find? fun h => mg_strcasecmp s h.1 = 0).map Prod.snd

/-! ## Variables -/

/-- The scan of `get_var`: the text after the name and its `=`, up to the next `&`. The flag tells that `p` is the start
of the data or follows an `&`. -/
def buscarVar (name : Cadena) : Bool → Cadena → Option Cadena
  | _, [] => none
  | inicio, c :: cs =>
    if inicio ∧ (c :: cs)[name.length]? = some 0x3d ∧ mg_strncasecmp name (c :: cs) name.length = 0 then
      some (((c :: cs).drop (name.length + 1)).takeWhile (· != 0x26))
    else buscarVar name (c == 0x26) cs

/-- `get_var`: its result and the C string in `dst`. -/
def get_var (data : Cadena) (name : Cadena) (dst_len : Nat) : Int × Cadena :=
  if dst_len = 0 then (-2, [])
  else
    match buscarVar name true data with
    | none => (-1, [])
    | some value =>
      let r := mg_url_decode value dst_len true
      (if r.1 = -1 then -2 else r.1, r.2)

def mg_get_var (conn : MgConnection) (name : Cadena) (dst_len : Nat) : Int × Cadena :=
  let r := get_var (conn.query_string.getD []) name dst_len
  if r.1 < 0 then get_var conn.content name dst_len else r

/-! ## Lemmas: comparison -/

theorem sub_toNat_eq_zero (a b : UInt8) : ((a.toNat : Int) - b.toNat = 0) ↔ a = b := by
  rw [sub_eq_zero, Int.natCast_inj, UInt8.toNat_inj]

theorem mg_strncasecmp_eq_zero {name : Cadena} (hname : (0 : UInt8) ∉ name) {s : Cadena} (hs : name.length ≤ s.length) :
    mg_strncasecmp name s name.length = 0 ↔ fold (s.take name.length) = fold name := by
  induction name generalizing s with
  | nil => simp [mg_strncasecmp, fold]
  | cons c name ih =>
    rw [List.mem_cons, not_or] at hname
    obtain ⟨d, s, rfl⟩ := List.exists_cons_of_length_pos (show 0 < s.length by rw [List.length_cons] at hs; omega)
    rw [List.length_cons, List.length_cons] at hs
    by_cases hcd : tolower c = tolower d
    · have hstep : mg_strncasecmp (c :: name) (d :: s) (name.length + 1) = mg_strncasecmp name s name.length := by
        rw [mg_strncasecmp]
        exact if_pos ⟨(sub_toNat_eq_zero _ _).mpr hcd, Ne.symm hname.1⟩
      rw [List.length_cons, hstep, ih hname.2 (by omega)]
      simp [fold, hcd]
    · have hstep : mg_strncasecmp (c :: name) (d :: s) (name.length + 1) = (tolower c).toNat - (tolower d).toNat := by
        rw [mg_strncasecmp]
        exact if_neg fun h => hcd ((sub_toNat_eq_zero _ _).mp h.1)
      rw [List.length_cons, hstep, sub_toNat_eq_zero]
      simp [fold, hcd, Ne.symm hcd]

/-! ## Lemmas: decoding -/

theorem HEXTOI_tolower : ∀ a : UInt8, isHexDigit a = true → HEXTOI (tolower a) = hexValue a ∧ hexValue a < 16 :=
  forall_byte (by decide)

theorem shift_or : ∀ x y : Fin 16,
    (UInt8.ofNat x.val <<< 4) ||| UInt8.ofNat y.val = 16 * UInt8.ofNat x.val + UInt8.ofNat y.val := by
  decide

theorem hexByte_eq {a b : UInt8} (ha : isHexDigit a = true) (hb : isHexDigit b = true) :
    (HEXTOI (tolower a) <<< 4) ||| HEXTOI (tolower b) = hexByte a b := by
  obtain ⟨ha, hlta⟩ := HEXTOI_tolower a ha
  obtain ⟨hb, hltb⟩ := HEXTOI_tolower b hb
  have h := shift_or ⟨(hexValue a).toNat, UInt8.lt_iff_toNat_lt.mp hlta⟩ ⟨(hexValue b).toNat, UInt8.lt_iff_toNat_lt.mp hltb⟩
  simp only [UInt8.ofNat_toNat] at h
  rw [ha, hb, h, hexByte]

theorem decodificar_eq (form : Bool) (room : Nat) (s : Cadena) :
    decodificar form room s = ((unescape form s).take room, decide ((unescape form s).length ≤ room)) := by
  induction room generalizing s with
  | zero =>
    cases s with
    | nil => rfl
    | cons c cs =>
      rw [decodificar, unescape_step]
      split_ifs <;> simp
  | succ room ih =>
    cases s with
    | nil => rfl
    | cons c cs =>
      rw [decodificar, unescape_step]
      split_ifs with hhex hplus
      · rw [hexByte_eq hhex.2.2.1 hhex.2.2.2]
        simp [ih]
      · have hplain : plain form c = 0x20 := by simp [plain, hplus]
        rw [hplain]
        simp [ih]
      · have hplain : plain form c = c := by
          rw [plain, if_neg]
          simpa using hplus
        simp [ih, hplain]

/-- **`mg_url_decode`** decodes the text if it fits, and otherwise fails with the beginning of it. -/
theorem mg_url_decode_eq (src : Cadena) {dst_len : Nat} (hdst : 0 < dst_len) (form : Bool) :
    mg_url_decode src dst_len form =
      if (unescape form src).length < dst_len then (((unescape form src).length : Int), unescape form src)
      else (-1, (unescape form src).take (dst_len - 1)) := by
  rw [mg_url_decode, decodificar_eq]
  by_cases hfits : (unescape form src).length < dst_len
  · have hle : (unescape form src).length ≤ dst_len - 1 := by omega
    rw [if_pos hfits, List.take_of_length_le hle]
    simp [hle]
  · have hgt : ¬(unescape form src).length ≤ dst_len - 1 := by omega
    rw [if_neg hfits]
    simp [hgt]

/-- A URI always has room for its decoded text. -/
theorem mg_url_decode_uri (uri : Cadena) : (mg_url_decode uri (uri.length + 1) false).2 = unescape false uri := by
  have hle := length_unescape_le false uri
  rw [mg_url_decode_eq _ (by omega), if_pos (by omega)]

/-! ## Lemmas: the length of a request -/

theorem largo_append {i : Nat} {s : Cadena} (h : largo i s ≠ 0) (t : Cadena) : largo i (s ++ t) = largo i s := by
  induction s generalizing i with
  | nil => exact absurd rfl h
  | cons c s ih =>
    rw [List.cons_append, largo, largo]
    rw [largo] at h
    by_cases hbad : prohibido c = true
    · rw [if_pos hbad, if_pos hbad]
    rw [if_neg hbad] at h ⊢
    rw [if_neg hbad]
    -- a line end that is the last byte, or the last but one before a CR, leaves the length open
    rcases s with - | ⟨d, - | ⟨e, s⟩⟩
    · exact absurd (by simp [largo]) h
    · by_cases hd : d = 0x0d
      · subst hd
        exact absurd (by simp [largo, prohibido, isprint]) h
      · have hhead : ([d] ++ t).head? = [d].head? := rfl
        have hshort : ¬(c = 0x0a ∧ [d].take 2 = [0x0d, 0x0a]) := by simp
        have hother : ¬(c = 0x0a ∧ ([d] ++ t).take 2 = [0x0d, 0x0a]) := by simp [hd]
        rw [if_neg hshort] at h ⊢
        rw [if_neg hother, hhead]
        split_ifs at h ⊢ with hlf
        · rfl
        · exact ih h
    · have htake : ((d :: e :: s) ++ t).take 2 = (d :: e :: s).take 2 := by simp
      have hhead : ((d :: e :: s) ++ t).head? = (d :: e :: s).head? := rfl
      rw [htake, hhead]
      split_ifs at h ⊢ with hlf hcrlf
      · rfl
      · rfl
      · exact ih h

theorem largo_pos_le {i : Nat} {s : Cadena} (h : 0 < largo i s) : largo i s ≤ i + s.length := by
  induction s generalizing i with
  | nil => simp [largo] at h
  | cons c s ih =>
    rw [largo] at h ⊢
    split_ifs at h ⊢ with hbad hlf hcrlf
    · simp at h
    · obtain ⟨d, s, rfl⟩ : ∃ d s', s = d :: s' := by
        cases s with
        | nil => simp at hlf
        | cons d s => exact ⟨d, s, rfl⟩
      simp only [List.length_cons]
      omega
    · have hlen := congrArg List.length hcrlf.2
      rw [List.length_take] at hlen
      simp only [List.length_cons, List.length_nil] at hlen ⊢
      omega
    · have := ih h
      simp only [List.length_cons]
      omega

/-- A length that is known, or known to be wrong, stays so when more bytes arrive. -/
theorem get_request_len_append {s : Cadena} (h : get_request_len s ≠ 0) (t : Cadena) :
    get_request_len (s ++ t) = get_request_len s := largo_append h t

theorem get_request_len_le {s : Cadena} (h : 0 < get_request_len s) : get_request_len s ≤ s.length := by
  have := largo_pos_le h
  simpa [get_request_len] using this

/-- Before the last byte of a request has arrived its length is open. -/
theorem get_request_len_of_append {s t : Cadena} (h : get_request_len (s ++ t) = (s ++ t).length) (ht : t ≠ []) :
    get_request_len s = 0 := by
  by_contra hne
  have heq := get_request_len_append hne t
  have hpos : 0 < t.length := List.length_pos_iff.mpr ht
  rw [h, List.length_append] at heq
  have hle := get_request_len_le (s := s) (by omega)
  omega

/-! ## Lemmas: variables -/

theorem mem_fold_ampersand {s : Cadena} : (0x26 : UInt8) ∈ fold s ↔ (0x26 : UInt8) ∈ s := by
  have heq : ∀ c : UInt8, tolower c = 0x26 ↔ c = 0x26 := forall_byte (by decide)
  simp only [fold, List.mem_map, heq, exists_eq_right]

section Variables
variable {name : Cadena}

theorem buscarVar_false_of_not_mem {p : Cadena} (hp : (0x26 : UInt8) ∉ p) : buscarVar name false p = none := by
  induction p with
  | nil => rfl
  | cons c p ih =>
    rw [List.mem_cons, not_or] at hp
    have hc : (c == 0x26) = false := beq_false_of_ne (Ne.symm hp.1)
    rw [buscarVar, if_neg (by simp), hc, ih hp.2]

theorem buscarVar_false_append {p : Cadena} (hp : (0x26 : UInt8) ∉ p) (s : Cadena) :
    buscarVar name false (p ++ 0x26 :: s) = buscarVar name true s := by
  induction p with
  | nil => rw [List.nil_append, buscarVar, if_neg (by simp), beq_self_eq_true]
  | cons c p ih =>
    rw [List.mem_cons, not_or] at hp
    have hc : (c == 0x26) = false := beq_false_of_ne (Ne.symm hp.1)
    rw [List.cons_append, buscarVar, if_neg (by simp), hc, ih hp.2]

/-- The test of the scan at the start of a piece is the test of the piece. -/
theorem valueOf_append (hname : (0x26 : UInt8) ∉ name) (p s : Cadena) :
    valueOf name (p ++ 0x26 :: s) = (valueOf name p).map (· ++ 0x26 :: s) := by
  by_cases hlt : name.length < p.length
  · have htake : (p ++ 0x26 :: s).take name.length = p.take name.length := List.take_append_of_le_length hlt.le
    have hdrop : (p ++ 0x26 :: s).drop (name.length + 1) = p.drop (name.length + 1) ++ 0x26 :: s :=
      List.drop_append_of_le_length hlt
    rw [valueOf, valueOf, htake, hdrop, List.getElem?_append_left hlt]
    split_ifs <;> rfl
  · have hnone : valueOf name p = none := by
      rw [valueOf, if_neg]
      rintro ⟨-, hget⟩
      rw [List.getElem?_eq_none (by omega)] at hget
      exact absurd hget (by simp)
    rw [hnone, valueOf, if_neg]
    · rfl
    rintro ⟨hfold, hget⟩
    by_cases heq : name.length = p.length
    · rw [heq, List.getElem?_append_right (Nat.le_refl _), Nat.sub_self] at hget
      exact absurd (Option.some.inj hget) (by decide)
    · apply hname
      rw [← mem_fold_ampersand, ← hfold, mem_fold_ampersand, List.mem_take_iff_getElem]
      exact ⟨p.length, by simp; omega, by simp⟩

theorem buscarVar_true (hzero : (0 : UInt8) ∉ name) (data : Cadena) :
    buscarVar name true data =
      match valueOf name data with
      | some v => some (v.takeWhile (· != 0x26))
      | none => buscarVar name false data := by
  cases data with
  | nil => simp [buscarVar, valueOf]
  | cons c cs =>
    have htest : ((c :: cs)[name.length]? = some 0x3d ∧ mg_strncasecmp name (c :: cs) name.length = 0) ↔
        (fold ((c :: cs).take name.length) = fold name ∧ (c :: cs)[name.length]? = some 0x3d) := by
      rw [and_comm]
      refine and_congr_left fun hget => mg_strncasecmp_eq_zero hzero ?_
      exact (List.getElem?_eq_some_iff.mp hget).1.le
    rw [buscarVar, buscarVar, valueOf]
    simp only [htest, true_and, Bool.false_eq_true, false_and, if_false]
    split_ifs <;> rfl

/-- **The scan is a lookup** in the pieces between the `&`. -/
theorem buscarVar_eq_field (hzero : (0 : UInt8) ∉ name) (hname : (0x26 : UInt8) ∉ name) (data : Cadena) :
    buscarVar name true data = field name data := by
  have hword : ∀ {p : Cadena}, (0x26 : UInt8) ∉ p → ∀ c ∈ p, (c != 0x26) = true := by
    intro p hp c hc
    simpa using fun h : c = 0x26 => hp (h ▸ hc)
  have hwhole : ∀ p : Cadena, (0x26 : UInt8) ∉ p → p.takeWhile (· != 0x26) = p := fun p hp =>
    List.takeWhile_eq_self_iff.mpr (hword hp)
  have hcut : ∀ p s : Cadena, (0x26 : UInt8) ∉ p → (p ++ 0x26 :: s).takeWhile (· != 0x26) = p := fun p s hp =>
    takeWhile_word (hword hp) (by simp)
  have hpiece : ∀ {p v : Cadena}, (0x26 : UInt8) ∉ p → valueOf name p = some v → (0x26 : UInt8) ∉ v := by
    intro p v hp hv
    rw [valueOf] at hv
    split_ifs at hv with htest
    cases hv
    exact fun h => hp (List.mem_of_mem_drop h)
  rw [field]
  induction data using Separated.cut_induction (0x26 : UInt8) with
  | last p hp =>
    rw [List.splitOn_eq_singleton hp, buscarVar_true hzero]
    cases hv : valueOf name p with
    | none => simp [hv, buscarVar_false_of_not_mem hp]
    | some v => simp [hv, hwhole v (hpiece hp hv)]
  | turn p s hp ih =>
    rw [List.splitOn_append_cons_self_of_not_mem hp, buscarVar_true hzero, valueOf_append hname]
    cases hv : valueOf name p with
    | none => simp [hv, buscarVar_false_append hp, ih]
    | some v => simp [hv, hcut v s (hpiece hp hv)]

theorem get_var_eq (hzero : (0 : UInt8) ∉ name) (hname : (0x26 : UInt8) ∉ name) (data : Cadena) {dst_len : Nat}
    (hdst : 0 < dst_len) :
    get_var data name dst_len =
      match field name data with
      | none => (-1, [])
      | some v =>
        if (unescape true v).length < dst_len then (((unescape true v).length : Int), unescape true v)
        else (-2, (unescape true v).take (dst_len - 1)) := by
  rw [get_var, if_neg (by omega), buscarVar_eq_field hzero hname]
  cases field name data with
  | none => rfl
  | some v =>
    dsimp only
    rw [mg_url_decode_eq v hdst]
    by_cases hfits : (unescape true v).length < dst_len
    · rw [if_pos hfits, if_pos hfits]
      exact congrArg (·, unescape true v) (if_neg (by simp))
    · rw [if_neg hfits, if_neg hfits]
      rfl

end Variables

end MensajeroX.Mongoose
