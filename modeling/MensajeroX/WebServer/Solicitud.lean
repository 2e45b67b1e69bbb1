import MensajeroX.WebServer.WebSocket

/-!
# Requests on the wire

A request as a client writes it, and what the web server reads of it.

* `Solicitud` : a well-formed request, by construction; `cabecera` and `texto` are its bytes;
* `get_request_len_cabecera` : the header is complete exactly at its last byte;
* `parse_cabecera` : `parse_http_message` reads the request back;
* `peticion_of_objetivo`, `peticion_of_query` : the path and the query string are told apart.
-/

namespace MensajeroX.Mongoose
open Bytes Percent Chunked

/-! ## Words -/

/-- A byte that may stand in a line. -/
def Imprimible (c : UInt8) : Prop := 0x20 ≤ c ∧ c ≠ 0x7f

instance (c : UInt8) : Decidable (Imprimible c) := by unfold Imprimible; infer_instance

/-- A byte that may stand in a word of a line. -/
def Visible (c : UInt8) : Prop := Imprimible c ∧ c ≠ 0x20

instance (c : UInt8) : Decidable (Visible c) := by unfold Visible; infer_instance

theorem Imprimible.permitido {c : UInt8} (hc : Imprimible c) : prohibido c = false ∧ c ≠ 0x0a ∧ c ≠ 0x0d ∧ c ≠ 0 := by
  have h : ∀ c : UInt8, Imprimible c → prohibido c = false ∧ c ≠ 0x0a ∧ c ≠ 0x0d ∧ c ≠ 0 :=
    forall_byte (by decide)
  exact h c hc

/-- A header that stands in a request as `name: value`. -/
structure EsCabecera (h : Cadena × Cadena) : Prop where
  nombre_ne : h.1 ≠ []
  nombre : ∀ c ∈ h.1, Visible c ∧ c ≠ 0x3a
  valor : ∀ c ∈ h.2, Imprimible c
  valor_head : ∀ c ∈ h.2.head?, c ≠ 0x20 ∧ c ≠ 0x3a

/-! ## Requests -/

def campo (h : Cadena × Cadena) : Cadena := h.1 ++ [0x3a, 0x20] ++ h.2

def campos (hs : List (Cadena × Cadena)) : Cadena := hs.flatMap fun h => campo h ++ crlf

def linea (metodo objetivo version : Cadena) : Cadena :=
  metodo ++ 0x20 :: (objetivo ++ 0x20 :: (bytes "HTTP/" ++ version))

/-- The request line and the headers, with the empty line. -/
def lineas (metodo objetivo version : Cadena) (cabeceras : List (Cadena × Cadena)) : Cadena :=
  linea metodo objetivo version ++ (crlf ++ (campos cabeceras ++ crlf))

def MAX_REQUEST_SIZE : Nat := 16384

/-- The `Content-Length` of a request. -/
def contentLength (http_headers : List (Cadena × Cadena)) : Int :=
  match mg_get_header http_headers (bytes "Content-Length") with
  | none => 0
  | some cl_hdr => strtoll cl_hdr

theorem contentLength_ge (http_headers : List (Cadena × Cadena)) : -2 ^ 63 ≤ contentLength http_headers := by
  rw [contentLength]
  split
  · decide
  · exact le_max_left _ _

theorem strtoll_numeral {n : Nat} (hn : n < 2 ^ 63) : strtoll (numeral 10 n) = n := by
  have hdigito : ∀ d < 10, isDigit (upperHexDigit d) = true ∧ isspace (upperHexDigit d) = false ∧
      upperHexDigit d ≠ 0x2d ∧ upperHexDigit d ≠ 0x2b := by decide
  have hmem : ∀ c ∈ numeral 10 n, isDigit c = true ∧ isspace c = false ∧ c ≠ 0x2d ∧ c ≠ 0x2b := by
    intro c hc
    obtain ⟨d, hd, rfl⟩ := exists_of_mem_numeral (by omega) hc
    exact hdigito d hd
  obtain ⟨c, s, hs⟩ := List.exists_cons_of_ne_nil (numeral_ne_nil 10 n)
  have htake : (numeral 10 n).takeWhile isDigit = numeral 10 n :=
    List.takeWhile_eq_self_iff.mpr fun c hc => (hmem c hc).1
  have hblanco : (numeral 10 n).dropWhile isspace = numeral 10 n := by
    rw [hs, List.dropWhile_cons_of_neg]
    rw [(hmem c (by rw [hs]; exact List.mem_cons_self)).2.1]
    decide
  have hsigno : ∀ b, b = 0x2d ∨ b = 0x2b → (numeral 10 n).head? ≠ some b := by
    intro b hb hhead
    rw [hs, List.head?_cons, Option.some.injEq] at hhead
    subst hhead
    have := hmem c (by rw [hs]; exact List.mem_cons_self)
    exact hb.elim this.2.2.1 this.2.2.2
  have hmenos : (numeral 10 n).head? ≠ some 0x2d := hsigno _ (.inl rfl)
  have hmas : (numeral 10 n).head? ≠ some 0x2b := hsigno _ (.inr rfl)
  rw [strtoll, hblanco]
  simp only [hmenos, hmas, or_self, if_false, htake, value_numeral (b := 10) (by omega) (by omega)]
  omega

/-- A well-formed request. -/
structure Solicitud where
  metodo : Cadena
  objetivo : Cadena
  version : Cadena
  cabeceras : List (Cadena × Cadena)
  cuerpo : Cadena
  metodo_valido : is_valid_http_method metodo = true
  objetivo_head : objetivo.head? = some 0x2f
  objetivo_visible : ∀ c ∈ objetivo, Visible c
  version_valida : version = bytes "1.0" ∨ version = bytes "1.1"
  cabeceras_validas : ∀ h ∈ cabeceras, EsCabecera h
  cabeceras_length : cabeceras.length ≤ maxHeaders
  sin_websocket : websocketKey cabeceras = none
  tamanio : (lineas metodo objetivo version cabeceras).length ≤ MAX_REQUEST_SIZE
  longitud : contentLength cabeceras = cuerpo.length
  longitud_cabe : cuerpo.length + MAX_REQUEST_SIZE < 2 ^ 63

namespace Solicitud
variable (r : Solicitud)

def cabecera : Cadena := lineas r.metodo r.objetivo r.version r.cabeceras

def texto : Cadena := r.cabecera ++ r.cuerpo

def mensaje : MgConnection where
  request_method := r.metodo
  uri := limpiar (r.objetivo.takeWhile (· != 0x3f))
  http_version := r.version
  query_string := if r.objetivo.contains 0x3f then some ((r.objetivo.dropWhile (· != 0x3f)).drop 1) else none
  http_headers := r.cabeceras

def peticion : MgConnection := { r.mensaje with content := r.cuerpo }

end Solicitud

/-! ## The length of the header -/

theorem largo_imprimible {w : Cadena} (hw : ∀ c ∈ w, Imprimible c) (i : Nat) (rest : Cadena) :
    largo i (w ++ rest) = largo (i + w.length) rest := by
  induction w generalizing i with
  | nil => rfl
  | cons c w ih =>
    rw [List.forall_mem_cons] at hw
    obtain ⟨hbad, hlf, -, -⟩ := hw.1.permitido
    rw [List.cons_append, largo, if_neg (by simp [hbad]), if_neg fun h => hlf h.1, if_neg fun h => hlf h.1, ih hw.2,
      List.length_cons]
    congr 1
    omega

theorem largo_crlf {rest : Cadena} (hrest : ∀ c ∈ rest.head?, c ≠ 0x0a ∧ c ≠ 0x0d) (i : Nat) :
    largo i (crlf ++ rest) = largo (i + 2) rest := by
  have hhead : rest.head? ≠ some 0x0a := fun h => (hrest _ h).1 rfl
  have htake : rest.take 2 ≠ [0x0d, 0x0a] := fun h => by
    cases rest with
    | nil => simp at h
    | cons c rest =>
      rw [List.take_succ_cons, List.cons.injEq] at h
      exact (hrest c rfl).2 h.1
  have hcr : prohibido 0x0d = false := rfl
  have hlf : prohibido 0x0a = false := rfl
  simp [crlf, largo, hcr, hlf, hhead, htake]

theorem largo_fin (i : Nat) (rest : Cadena) : largo i (crlf ++ (crlf ++ rest)) = i + 4 := by
  have hcr : prohibido 0x0d = false := rfl
  have hlf : prohibido 0x0a = false := rfl
  simp [crlf, largo, hcr, hlf]
  omega

theorem EsCabecera.imprimible {h : Cadena × Cadena} (hh : EsCabecera h) : ∀ c ∈ campo h, Imprimible c := by
  intro c hc
  simp only [campo, List.mem_append, List.mem_cons, List.not_mem_nil, or_false] at hc
  obtain (hc | rfl | rfl) | hc := hc
  · exact (hh.nombre c hc).1.1
  · decide
  · decide
  · exact hh.valor c hc

theorem EsCabecera.head {h : Cadena × Cadena} (hh : EsCabecera h) (rest : Cadena) :
    ∀ c ∈ (campo h ++ rest).head?, c ≠ 0x0a ∧ c ≠ 0x0d := by
  intro c hc
  obtain ⟨d, name, hname⟩ := List.exists_cons_of_ne_nil hh.nombre_ne
  rw [campo, hname] at hc
  cases hc
  have hc := (hh.imprimible c (by simp [campo, hname])).permitido
  exact ⟨hc.2.1, hc.2.2.1⟩

theorem campos_cons (h : Cadena × Cadena) (hs : List (Cadena × Cadena)) :
    campos (h :: hs) = campo h ++ (crlf ++ campos hs) := by
  rw [campos, List.flatMap_cons, ← campos, List.append_assoc]

/-- The scan goes through the headers, line by line, and ends after the empty line. -/
theorem largo_campos {hs : List (Cadena × Cadena)} (hhs : ∀ h ∈ hs, EsCabecera h) (i : Nat) :
    largo i (crlf ++ (campos hs ++ crlf)) = i + 4 + (campos hs).length := by
  induction hs generalizing i with
  | nil => simpa [campos] using largo_fin i []
  | cons h hs ih =>
    rw [List.forall_mem_cons] at hhs
    rw [campos_cons, List.append_assoc, largo_crlf (hhs.1.head _), largo_imprimible hhs.1.imprimible,
      List.append_assoc, ih hhs.2]
    simp only [List.length_append, crlf, List.length_cons, List.length_nil]
    push_cast
    omega

theorem is_valid_http_method_visible {s : Cadena} (h : is_valid_http_method s = true) :
    s ≠ [] ∧ ∀ c ∈ s, Visible c ∧ isspace c = false := by
  simp only [is_valid_http_method, Bool.or_eq_true, beq_iff_eq] at h
  obtain ((((((((h | h) | h) | h) | h) | h) | h) | h) | h) | h := h <;> subst h <;>
    exact ⟨List.cons_ne_nil _ _, List.all_iff_forall_prop.mp rfl⟩

namespace Solicitud
variable (r : Solicitud)

theorem version_imprimible : ∀ c ∈ bytes "HTTP/" ++ r.version, Visible c ∧ c ≠ 0x0d ∧ c ≠ 0x0a := by
  obtain h | h := r.version_valida <;> rw [h] <;> exact List.all_iff_forall_prop.mp rfl

theorem linea_imprimible : ∀ c ∈ linea r.metodo r.objetivo r.version, Imprimible c := by
  intro c hc
  simp only [linea, List.mem_append, List.mem_cons] at hc
  obtain hc | rfl | hc | rfl | hc := hc
  · exact ((is_valid_http_method_visible r.metodo_valido).2 c hc).1.1
  · decide
  · exact (r.objetivo_visible c hc).1
  · decide
  · exact (r.version_imprimible c (by simpa using hc)).1.1

/-- **The header is complete at its last byte.** -/
theorem get_request_len_cabecera : get_request_len r.cabecera = r.cabecera.length := by
  rw [cabecera, lineas, get_request_len, largo_imprimible r.linea_imprimible, largo_campos r.cabeceras_validas]
  simp only [List.length_append, crlf, List.length_cons, List.length_nil]
  push_cast
  omega

end Solicitud

/-! ## Reading the header -/

theorem skip_word {ds w sep rest : Cadena} (hw : ∀ c ∈ w, c ∉ ds) (hsep : ∀ c ∈ sep, c ∈ ds)
    (hstop : ∀ c ∈ (sep ++ rest).head?, c ∈ ds) (hrest : ∀ c ∈ rest.head?, c ∉ ds) :
    skip ds (w ++ (sep ++ rest)) = (w, rest) := by
  have hin : ∀ c ∈ w, (!ds.contains c) = true := fun c hc => by simpa using hw c hc
  have hout : ∀ c ∈ (sep ++ rest).head?, (!ds.contains c) = false := fun c hc => by simpa using hstop c hc
  have hds : ∀ c ∈ sep, ds.contains c = true := fun c hc => by simpa using hsep c hc
  have hend : ∀ c ∈ rest.head?, ds.contains c = false := fun c hc => by simpa using hrest c hc
  rw [skip, takeWhile_word hin hout, dropWhile_word hin hout, dropWhile_word hds hend]

/-- The headers without the last line end, which `parse_http_message` has overwritten. -/
def resto (hs : List (Cadena × Cadena)) : Cadena := if hs = [] then [] else campos hs ++ [0x0d]

/-- `skip` on the end of a line takes the empty line with the last one. -/
theorem skip_linea {w : Cadena} (hw : ∀ c ∈ w, Imprimible c) {hs : List (Cadena × Cadena)} (hhs : ∀ h ∈ hs, EsCabecera h) :
    skip [0x0d, 0x0a] (w ++ (crlf ++ (campos hs ++ [0x0d]))) = (w, resto hs) := by
  have hword : ∀ c ∈ w, c ∉ [0x0d, 0x0a] := fun c hc => by
    have := (hw c hc).permitido
    simp [this.2.1, this.2.2.1]
  cases hs with
  | nil =>
    have hsep : w ++ (crlf ++ (campos [] ++ [0x0d])) = w ++ ([0x0d, 0x0a, 0x0d] ++ []) := rfl
    rw [hsep, skip_word hword (by simp) (by simp) (by simp)]
    rfl
  | cons h hs =>
    refine skip_word hword (by simp [crlf]) (by simp [crlf]) ?_
    intro c hc
    rw [campos_cons, List.append_assoc] at hc
    have := (hhs h List.mem_cons_self).head _ c hc
    simp [this.1, this.2]

theorem parse_http_headers_resto {hs : List (Cadena × Cadena)} (hhs : ∀ h ∈ hs, EsCabecera h) {n : Nat}
    (hn : hs.length ≤ n) : parse_http_headers n (resto hs) = hs := by
  induction hs generalizing n with
  | nil => cases n <;> rfl
  | cons h hs ih =>
    rw [List.length_cons] at hn
    obtain ⟨n, rfl⟩ : ∃ m, n = m + 1 := ⟨n - 1, by omega⟩
    rw [List.forall_mem_cons] at hhs
    have hname : skip [0x3a, 0x20] (h.1 ++ ([0x3a, 0x20] ++ (h.2 ++ (crlf ++ (campos hs ++ [0x0d]))))) =
        (h.1, h.2 ++ (crlf ++ (campos hs ++ [0x0d]))) := by
      refine skip_word (fun c hc => ?_) (by simp) (by simp) (fun c hc => ?_)
      · have := hhs.1.nombre c hc
        simp [this.2, this.1.2]
      · cases hvalue : h.2 with
        | nil =>
          rw [hvalue] at hc
          cases hc
          decide
        | cons d v =>
          rw [hvalue] at hc
          cases hc
          have := hhs.1.valor_head c (by rw [hvalue]; rfl)
          simp [this.1, this.2]
    have hvalue := skip_linea hhs.1.valor hhs.2
    have hresto : resto (h :: hs) = h.1 ++ ([0x3a, 0x20] ++ (h.2 ++ (crlf ++ (campos hs ++ [0x0d])))) := by
      rw [resto, if_neg (by simp), campos_cons, campo]
      simp only [List.append_assoc]
    rw [hresto, parse_http_headers, hname]
    dsimp only
    rw [hvalue]
    dsimp only
    rw [if_neg hhs.1.nombre_ne, ih hhs.2 (by omega)]

namespace Solicitud
variable (r : Solicitud)

/-- The header as `parse_http_message` sees it: its last byte overwritten, and no NUL before. -/
theorem cstr_dropLast_cabecera : (cstr r.cabecera.dropLast).dropWhile isspace =
    r.metodo ++ ([0x20] ++ (r.objetivo ++ ([0x20] ++
      ((bytes "HTTP/" ++ r.version) ++ (crlf ++ (campos r.cabeceras ++ [0x0d])))))) := by
  have hdrop : r.cabecera.dropLast = r.metodo ++ ([0x20] ++ (r.objetivo ++ ([0x20] ++
      ((bytes "HTTP/" ++ r.version) ++ (crlf ++ (campos r.cabeceras ++ [0x0d])))))) := by
    have hlast : r.cabecera = (r.metodo ++ ([0x20] ++ (r.objetivo ++ ([0x20] ++
        ((bytes "HTTP/" ++ r.version) ++ (crlf ++ (campos r.cabeceras ++ [0x0d]))))))) ++ [0x0a] := by
      simp [cabecera, lineas, linea, crlf]
    rw [hlast, List.dropLast_concat]
  have hcampos : ∀ c ∈ campos r.cabeceras, c ≠ 0 := by
    intro c hc
    rw [campos, List.mem_flatMap] at hc
    obtain ⟨h, hh, hc⟩ := hc
    rw [List.mem_append] at hc
    obtain hc | hc := hc
    · exact ((r.cabeceras_validas h hh).imprimible c hc).permitido.2.2.2
    · revert hc
      simp only [crlf, List.mem_cons, List.not_mem_nil, or_false]
      rintro (rfl | rfl) <;> decide
  have hzero : (0 : UInt8) ∉ r.cabecera.dropLast := by
    intro hc
    have hlinea := fun c hc => (r.linea_imprimible c hc).permitido.2.2.2
    simp only [linea, List.mem_append, List.mem_cons] at hlinea
    rw [hdrop] at hc
    simp only [List.mem_append, List.mem_cons, List.not_mem_nil, or_false, crlf] at hc
    obtain hc | hc | hc | hc | hc | (hc | hc) | hc | hc := hc
    · exact hlinea 0 (.inl hc) rfl
    · exact absurd hc (by decide)
    · exact hlinea 0 (.inr (.inr (.inl hc))) rfl
    · exact absurd hc (by decide)
    · exact hlinea 0 (.inr (.inr (.inr (.inr hc)))) rfl
    · exact absurd hc (by decide)
    · exact absurd hc (by decide)
    · exact hcampos 0 hc rfl
    · exact absurd hc (by decide)
  obtain ⟨hne, hmetodo⟩ := is_valid_http_method_visible r.metodo_valido
  obtain ⟨c, metodo, hc⟩ := List.exists_cons_of_ne_nil hne
  rw [cstr_of_not_mem hzero, hdrop, hc, List.cons_append, List.dropWhile_cons_of_neg]
  simpa using (hmetodo c (by simp [hc])).2

/-- **`parse_http_message` reads a request back.** -/
theorem parse_cabecera : parse_http_message r.cabecera = some r.mensaje := by
  have hlen : ¬r.cabecera.length < 1 := by
    simp [cabecera, lineas, linea]
  have hmetodo : ∀ c ∈ r.metodo, c ∉ [0x20] := fun c hc => by
    simpa using ((is_valid_http_method_visible r.metodo_valido).2 c hc).1.2
  have hobjetivo : ∀ c ∈ r.objetivo, c ∉ [0x20] := fun c hc => by
    simpa using (r.objetivo_visible c hc).2
  have hversion : bytes "HTTP/" <+: bytes "HTTP/" ++ r.version := List.prefix_append _ _
  rw [parse_http_message, if_neg hlen, r.cstr_dropLast_cabecera]
  dsimp only
  rw [skip_word hmetodo (by simp) (by simp) ?_]
  · dsimp only
    rw [skip_word hobjetivo (by simp) (by simp) ?_]
    · dsimp only
      rw [skip_linea (fun c hc => (r.version_imprimible c hc).1.1) r.cabeceras_validas]
      dsimp only
      rw [r.metodo_valido, if_neg (by simp [hversion]), parse_http_headers_resto r.cabeceras_validas r.cabeceras_length]
      rfl
    · intro c hc
      cases hc
      decide
  · intro c hc
    rw [List.head?_append, r.objetivo_head] at hc
    cases hc
    decide

/-! ## The path and the query string -/

variable {r} {ruta : Cadena} (hruta : ∀ c ∈ ruta, c ≠ 0x3f)
include hruta

theorem peticion_of_objetivo (h : r.objetivo = ruta) :
    r.peticion.uri = limpiar ruta ∧ r.peticion.query_string = none := by
  have hword : ∀ c ∈ ruta, (c != 0x3f) = true := fun c hc => by simpa using hruta c hc
  rw [peticion, mensaje, h]
  refine ⟨congrArg limpiar (List.takeWhile_eq_self_iff.mpr hword), if_neg ?_⟩
  simpa using fun hmem => hruta _ hmem rfl

theorem peticion_of_query {query : Cadena} (h : r.objetivo = ruta ++ 0x3f :: query) :
    r.peticion.uri = limpiar ruta ∧ r.peticion.query_string = some query := by
  have hword : ∀ c ∈ ruta, (c != 0x3f) = true := fun c hc => by simpa using hruta c hc
  have hstop : ∀ c ∈ (0x3f :: query).head?, (c != 0x3f) = false := by simp
  rw [peticion, mensaje, h]
  refine ⟨congrArg limpiar (takeWhile_word hword hstop), (if_pos (by simp)).trans ?_⟩
  rw [dropWhile_word hword hstop]
  rfl

end Solicitud

end MensajeroX.Mongoose
