import MensajeroX.Cliente.Service
import MensajeroX.Propiedades.Respuestas
import MensajeroX.WebServer.Red

/-!
# `RestClient`

What the client writes on the wire and what it reads from it. A Java string stands for its UTF-8 bytes. The HTTP library
(`HttpClient`) encodes a form, adds the version and the headers to a request and takes the chunks of a response apart; a
response that does not arrive leaves `response` null.

* `allParams_eq` : the loop over the parameters writes a form;
* `Ejecuta` : what every request has that the library sends, `solicitud` : one of them;
* `Ejecuta.getParametro` : **every parameter arrives**, whatever it holds, in the query string or in the body;
* `Ejecuta.uri_peticion` : the path arrives as it was written;
* `convertStreamToString_concat` : the loop over the lines of a response keeps a text without carriage returns;
* `executeRequest_respuesta` : **an answer arrives**, when `printf` has left it alone.
-/

namespace MensajeroX.Cliente
open Bytes JsonCpp Percent Mongoose Servicio
open Chunked hiding encode

/-! ## The HTTP library -/

def seguro (c : UInt8) : Bool := isDigit c || esLetra c || c == 0x2e || c == 0x2d || c == 0x2a || c == 0x5f

/-- The name of a parameter; nothing in it has to be encoded. -/
structure Nombre where
  val : Cadena
  seguro : ∀ c ∈ val, seguro c = true

/-- The encoded text can stand in a form and in a request line, and the server decodes it. -/
structure Codifica (encode : Cadena → Cadena) : Prop where
  legal : ∀ s, ∀ c ∈ encode s, c ≠ 0x26 ∧ c ≠ 0x3d ∧ c ≠ 0x3f ∧ Visible c
  unescape : ∀ s, unescape true (encode s) = s

def codificados (encode : Cadena → Cadena) (params : List (Nombre × Cadena)) : List (Cadena × Cadena) :=
  params.map fun p => (p.1.val, encode p.2)

/-- The libraries of the client that know HTTP. -/
class HttpClient where
  /-- `URLEncoder.encode(s, "UTF-8")`. -/
  encode : Cadena → Cadena
  /-- The text of a `UrlEncodedFormEntity`. -/
  format : List (Nombre × Cadena) → Cadena
  /-- `getContent` of the response in what arrives, `none` when there is none. -/
  getContent : Cadena → Option Cadena
  codifica : Codifica encode
  formulario : ∃ f, Codifica f ∧ ∀ params, format params = form (codificados f params)
  contenido : ∀ provisional ∈ [[], bytes "HTTP/1.1 100 Continue\r\n\r\n"], ∀ textos : List Cadena, (∀ t ∈ textos, t ≠ []) →
    getContent (provisional ++ (bytes "HTTP/1.1 200 OK\r\nTransfer-Encoding: chunked\r\n\r\n" ++ Chunked.encode textos)) =
      some textos.flatten

/-! ## Requests -/

inductive RequestMethod where
  | GET
  | POST
  | PUT
  | DELETE
deriving DecidableEq, Repr

def RequestMethod.nombre : RequestMethod → Cadena
  | .GET => bytes "GET"
  | .POST => bytes "POST"
  | .PUT => bytes "PUT"
  | .DELETE => bytes "DELETE"

/-- A byte of a path that reaches the services as it is written. -/
def EsRuta (c : UInt8) : Prop := Visible c ∧ c ≠ 0x3f ∧ c ≠ 0x23 ∧ c ≠ 0x25

instance (c : UInt8) : Decidable (EsRuta c) := by unfold EsRuta; infer_instance

/-- The path of a URL, with nothing that the server would remove. -/
structure Ruta where
  val : Cadena
  legal : ∀ c ∈ val, EsRuta c
  limpia : Limpia val

theorem Ruta.sin_query (ruta : Ruta) : ∀ c ∈ ruta.val, c ≠ 0x3f := fun c hc => (ruta.legal c hc).2.1

theorem Ruta.limpiar_eq (ruta : Ruta) : limpiar ruta.val = ruta.val :=
  limpiar_of_limpia ruta.limpia fun c hc => ⟨(ruta.legal c hc).2.2.2, (ruta.legal c hc).1.1.permitido.2.2.2⟩

/-- `RestClient`: the path of its URL, and its parameters. -/
structure RestClient where
  ruta : Ruta
  params : List (Nombre × Cadena) := []

namespace RestClient

def addParam (client : RestClient) (name : Nombre) (value : Cadena) : RestClient :=
  { client with params := client.params ++ [(name, value)] }

section Parametros
variable [HttpClient]
open HttpClient

/-- The loop of `execute` over the parameters of a `GET` and of a `DELETE`. -/
def agregarParams (allParams : Cadena) : List (Nombre × Cadena) → Cadena
  | [] => allParams
  | param :: params =>
    let paramString := param.1.val ++ 0x3d :: encode param.2
    agregarParams (if 1 < allParams.length then allParams ++ 0x26 :: paramString else allParams ++ paramString) params

def allParams (params : List (Nombre × Cadena)) : Cadena :=
  if params.isEmpty then [] else agregarParams [0x3f] params

/-- `execute`: what stands in the request line, and what follows the header. -/
def execute (client : RestClient) : RequestMethod → Cadena × Cadena
  | .GET | .DELETE => (client.ruta.val ++ allParams client.params, [])
  | .POST | .PUT => (client.ruta.val, if client.params.isEmpty then [] else format client.params)

/-- The HTTP library sends the request `r` for `execute`. -/
structure Ejecuta (client : RestClient) (method : RequestMethod) (r : Solicitud) : Prop where
  metodo : r.metodo = method.nombre
  objetivo : r.objetivo = (client.execute method).1
  cuerpo : r.cuerpo = (client.execute method).2

/-! ### The loop over the parameters -/

omit [HttpClient] in
theorem codificados_cons (f : Cadena → Cadena) (p : Nombre × Cadena) (params : List (Nombre × Cadena)) :
    codificados f (p :: params) = (p.1.val, f p.2) :: codificados f params := rfl

theorem agregarParams_eq {acc : Cadena} (hacc : 1 < acc.length) (params : List (Nombre × Cadena)) :
    agregarParams acc params = acc ++ (codificados encode params).flatMap fun p => 0x26 :: pair p := by
  induction params generalizing acc with
  | nil => simp [agregarParams, codificados]
  | cons p params ih =>
    rw [agregarParams, if_pos hacc, ih (by rw [List.length_append]; omega), codificados_cons, List.flatMap_cons]
    simp [pair]

theorem allParams_eq {params : List (Nombre × Cadena)} (h : params ≠ []) :
    allParams params = 0x3f :: form (codificados encode params) := by
  obtain ⟨p, params, rfl⟩ := List.exists_cons_of_ne_nil h
  rw [allParams, if_neg (by simp), agregarParams, if_neg (by simp), agregarParams_eq (by simp), codificados_cons,
    form_cons]
  simp [pair]

end Parametros

def buscar (params : List (Nombre × Cadena)) (nombre : Cadena) : Option Cadena :=
  (params.find? fun p => fold p.1.val = fold nombre).map Prod.snd

section Formulario
variable {f : Cadena → Cadena} (hf : Codifica f)
include hf

theorem clean_codificados (params : List (Nombre × Cadena)) : ∀ p ∈ codificados f params, Clean p := by
  have hbytes : ∀ c : UInt8, seguro c = true → c ≠ 0x3d ∧ c ≠ 0x26 := forall_byte (by decide)
  intro p hp
  obtain ⟨q, -, rfl⟩ := List.mem_map.mp hp
  exact ⟨fun h => (hbytes _ (q.1.seguro _ h)).1 rfl, fun h => (hbytes _ (q.1.seguro _ h)).2 rfl,
    fun h => (hf.legal _ _ h).1 rfl⟩

theorem field_codificados (params : List (Nombre × Cadena)) {nombre : Cadena} (hnombre : (0x3d : UInt8) ∉ nombre) :
    field nombre (form (codificados f params)) = (buscar params nombre).map f := by
  rw [field_form (clean_codificados hf params) hnombre, buscar, codificados, List.find?_map, Option.map_map, Option.map_map]
  rfl

/-- `get_var` finds the first parameter under the name, as it was before it was encoded. -/
theorem get_var_codificados (params : List (Nombre × Cadena)) {nombre : Cadena} (hnombre : ∀ c ∈ nombre, seguro c = true) :
    get_var (form (codificados f params)) nombre tamanioBuffer =
      (buscar params nombre).elim (-1, []) fun v =>
        if v.length < tamanioBuffer then ((v.length : Int), v) else (-2, v.take (tamanioBuffer - 1)) := by
  have hbytes : ∀ c : UInt8, seguro c = true → c ≠ 0 ∧ c ≠ 0x26 ∧ c ≠ 0x3d := forall_byte (by decide)
  have hzero : (0 : UInt8) ∉ nombre := fun hmem => (hbytes _ (hnombre _ hmem)).1 rfl
  have hamp : (0x26 : UInt8) ∉ nombre := fun hmem => (hbytes _ (hnombre _ hmem)).2.1 rfl
  have heq : (0x3d : UInt8) ∉ nombre := fun hmem => (hbytes _ (hnombre _ hmem)).2.2 rfl
  rw [get_var_eq hzero hamp _ (by decide), field_codificados hf params heq]
  cases buscar params nombre with
  | none => rfl
  | some v => simp only [Option.map_some, hf.unescape, Option.elim_some]

theorem visible_form (params : List (Nombre × Cadena)) : ∀ c ∈ form (codificados f params), Visible c := by
  have hseguro : ∀ c : UInt8, seguro c = true → Visible c := forall_byte (by decide)
  have hpair : ∀ p ∈ codificados f params, ∀ c ∈ pair p, Visible c := by
    intro p hp c hc
    obtain ⟨q, -, rfl⟩ := List.mem_map.mp hp
    simp only [pair, List.mem_append, List.mem_cons] at hc
    obtain hc | rfl | hc := hc
    · exact hseguro c (q.1.seguro c hc)
    · decide
    · exact (hf.legal _ _ hc).2.2.2
  generalize codificados f params = ps at hpair
  cases ps with
  | nil => exact fun c hc => absurd hc List.not_mem_nil
  | cons p ps =>
    intro c hc
    rw [form_cons, List.mem_append] at hc
    obtain hc | hc := hc
    · exact hpair p List.mem_cons_self c hc
    · obtain ⟨q, hq, hc⟩ := List.mem_flatMap.mp hc
      obtain rfl | hc := List.mem_cons.mp hc
      · decide
      · exact hpair q (List.mem_cons_of_mem _ hq) c hc

end Formulario

theorem version_uno_uno : bytes "1.1" = bytes "1.0" ∨ bytes "1.1" = bytes "1.1" := .inr rfl

section Solicitud
variable [HttpClient]

/-- What the HTTP library sends for `execute`, with the length of the body. -/
def solicitud (client : RestClient) (method : RequestMethod) (hruta : client.ruta.val.head? = some 0x2f)
    (htamanio : (lineas method.nombre (client.execute method).1 (bytes "1.1")
      [(bytes "Content-Length", numeral 10 (client.execute method).2.length)]).length ≤ MAX_REQUEST_SIZE)
    (hcuerpo : (client.execute method).2.length + MAX_REQUEST_SIZE < 2 ^ 63) : Solicitud where
  metodo := method.nombre
  objetivo := (client.execute method).1
  version := bytes "1.1"
  cabeceras := [(bytes "Content-Length", numeral 10 (client.execute method).2.length)]
  cuerpo := (client.execute method).2
  metodo_valido := by cases method <;> decide
  objetivo_head := by
    obtain ⟨s, hs⟩ := List.head?_eq_some_iff.mp hruta
    cases method <;> simp only [execute, hs] <;> rfl
  objetivo_visible := by
    have hruta : ∀ c ∈ client.ruta.val, Visible c := fun c hc => (client.ruta.legal c hc).1
    have hparams : ∀ c ∈ allParams client.params, Visible c := by
      by_cases hnil : client.params = []
      · rw [hnil]
        exact fun c hc => absurd hc List.not_mem_nil
      · rw [allParams_eq hnil]
        exact List.forall_mem_cons.mpr ⟨by decide, visible_form HttpClient.codifica client.params⟩
    cases method with
    | GET | DELETE => exact List.forall_mem_append.mpr ⟨hruta, hparams⟩
    | POST | PUT => exact hruta
  version_valida := version_uno_uno
  cabeceras_validas := by
    have hdigito : ∀ d < 10, Visible (upperHexDigit d) ∧ upperHexDigit d ≠ 0x3a := by decide
    have hmem : ∀ c ∈ numeral 10 (client.execute method).2.length, Visible c ∧ c ≠ 0x3a := by
      intro c hc
      obtain ⟨d, hd, rfl⟩ := exists_of_mem_numeral (by omega) hc
      exact hdigito d hd
    have hnombre : ∀ c ∈ bytes "Content-Length", Visible c ∧ c ≠ 0x3a := List.all_iff_forall_prop.mp rfl
    refine List.forall_mem_singleton.mpr ⟨List.cons_ne_nil _ _, hnombre, fun c hc => (hmem c hc).1.1, fun c hc => ?_⟩
    have := hmem c (List.mem_of_mem_head? hc)
    exact ⟨this.1.2, this.2⟩
  cabeceras_length := by
    rw [List.length_singleton]
    decide
  sin_websocket := by
    have hversion : mg_strcasecmp (bytes "Sec-WebSocket-Version") (bytes "Content-Length") ≠ 0 := by decide
    simp [websocketKey, mg_get_header, hversion]
  tamanio := htamanio
  longitud := by
    show strtoll _ = _
    exact strtoll_numeral (by omega)
  longitud_cabe := hcuerpo

theorem ejecuta_solicitud (client : RestClient) (method : RequestMethod) (hruta htamanio hcuerpo) :
    client.Ejecuta method (client.solicitud method hruta htamanio hcuerpo) := ⟨rfl, rfl, rfl⟩

end Solicitud

/-! ### What arrives -/

section Ejecuta
variable [HttpClient] {client : RestClient} {method : RequestMethod} {r : Solicitud} (h : client.Ejecuta method r)
  (reloj : Reloj)
include h

/-- A `GET` and a `DELETE` have a query string if they have parameters. -/
theorem Ejecuta.peticion_query (hobjetivo : (client.execute method).1 = client.ruta.val ++ allParams client.params) :
    r.peticion.uri = client.ruta.val ∧
      r.peticion.query_string.getD [] = form (codificados HttpClient.encode client.params) := by
  rw [← h.objetivo] at hobjetivo
  by_cases hparams : client.params = []
  · rw [hparams, show allParams [] = [] from rfl, List.append_nil] at hobjetivo
    obtain ⟨huri, hnone⟩ := Solicitud.peticion_of_objetivo client.ruta.sin_query hobjetivo
    rw [huri, client.ruta.limpiar_eq, hnone, hparams]
    exact ⟨rfl, rfl⟩
  · rw [allParams_eq hparams] at hobjetivo
    obtain ⟨huri, hsome⟩ := Solicitud.peticion_of_query client.ruta.sin_query hobjetivo
    rw [huri, client.ruta.limpiar_eq, hsome]
    exact ⟨rfl, rfl⟩

/-- The path arrives, and the parameters are in the query string or in the body. -/
theorem Ejecuta.peticion :
    r.peticion.request_method = method.nombre ∧ r.peticion.uri = client.ruta.val ∧ ∃ f, Codifica f ∧
      (r.peticion.query_string.getD [] = form (codificados f client.params) ∧ r.peticion.content = [] ∨
        r.peticion.query_string.getD [] = [] ∧ r.peticion.content = form (codificados f client.params)) := by
  have hcuerpo : r.peticion.content = (client.execute method).2 := h.cuerpo
  refine ⟨h.metodo, ?_⟩
  rw [hcuerpo]
  -- a `POST` and a `PUT` have a body
  have hbody : (client.execute method).1 = client.ruta.val →
      r.peticion.uri = client.ruta.val ∧ r.peticion.query_string.getD [] = [] := by
    intro hobjetivo
    rw [← h.objetivo] at hobjetivo
    obtain ⟨huri, hnone⟩ := Solicitud.peticion_of_objetivo client.ruta.sin_query hobjetivo
    rw [huri, client.ruta.limpiar_eq, hnone]
    exact ⟨rfl, rfl⟩
  obtain ⟨f, hf, hformat⟩ := @HttpClient.formulario _
  have hform : (if client.params.isEmpty then [] else HttpClient.format client.params) =
      form (codificados f client.params) := by
    rw [hformat]
    split_ifs with hparams
    · rw [List.isEmpty_iff.mp hparams]
      rfl
    · rfl
  cases method with
  | GET | DELETE => exact ⟨(h.peticion_query rfl).1, _, HttpClient.codifica, .inl ⟨(h.peticion_query rfl).2, rfl⟩⟩
  | POST | PUT => exact ⟨(hbody rfl).1, f, hf, .inr ⟨(hbody rfl).2, hform⟩⟩

theorem Ejecuta.metodo_peticion : (peticionDe r.peticion reloj).metodo.val = method.nombre := by
  have hcstr : ∀ method : RequestMethod, cstr method.nombre = method.nombre := by
    intro method
    cases method <;> decide
  show cstr r.peticion.request_method = method.nombre
  rw [h.peticion.1, hcstr]

/-- **The path arrives** as it was written. -/
theorem Ejecuta.uri_peticion : (peticionDe r.peticion reloj).uri.val = client.ruta.val := by
  show cstr r.peticion.uri = client.ruta.val
  rw [h.peticion.2.1]
  exact cstr_of_not_mem fun hmem => (client.ruta.legal 0 hmem).1.1.permitido.2.2.2 rfl

/-- What `mg_get_var` finds: the first parameter under the name, if the buffer has room for it. -/
theorem Ejecuta.mg_get_var {nombre : Cadena} (hnombre : ∀ c ∈ nombre, seguro c = true) :
    (peticionDe r.peticion reloj).mg_get_var nombre =
      (buscar client.params nombre).filter fun v => v.length < tamanioBuffer := by
  obtain ⟨-, -, f, hf, hlugar⟩ := h.peticion
  have hforma := get_var_codificados hf client.params hnombre
  have hnada : get_var [] nombre tamanioBuffer = (-1, []) := get_var_codificados hf [] hnombre
  have hbusca : (peticionDe r.peticion reloj).mg_get_var nombre =
      if (Mongoose.mg_get_var r.peticion nombre tamanioBuffer).1 < 0 then none
      else some (Mongoose.mg_get_var r.peticion nombre tamanioBuffer).2 := rfl
  have hnat : ∀ n : Nat, ¬(n : Int) < 0 := fun n => by omega
  rw [hbusca, Mongoose.mg_get_var]
  obtain ⟨hquery, hcontent⟩ | ⟨hquery, hcontent⟩ := hlugar <;> rw [hquery, hcontent, hnada, hforma] <;>
    cases buscar client.params nombre with
    | none => rfl
    | some v => by_cases hfits : v.length < tamanioBuffer <;> simp [hfits, hnat, Option.filter]

/-- **Every parameter arrives**, whatever it holds. A parameter that is missing, empty or too long gives the default. -/
theorem Ejecuta.getParametro {nombre : Cadena} (hnombre : ∀ c ∈ nombre, seguro c = true) (valorDefault : Cadena) :
    getParametro (peticionDe r.peticion reloj) nombre valorDefault =
      match buscar client.params nombre with
      | none => valorDefault
      | some v => if v = [] ∨ tamanioBuffer ≤ v.length then valorDefault else cstr v := by
  rw [Servicio.getParametro, h.mg_get_var reloj hnombre]
  cases buscar client.params nombre with
  | none => rfl
  | some v =>
    rw [Option.filter_some]
    by_cases hmax : tamanioBuffer ≤ v.length
    · rw [if_neg (by simpa using hmax)]
      exact (if_pos (.inr hmax)).symm
    · have hempty : v.length < 1 ↔ v = [] ∨ tamanioBuffer ≤ v.length := by simp [hmax]
      rw [if_pos (by simpa using hmax)]
      simp only [hempty]

/-- **A request arrives**, however the network cuts its bytes: the services are called once, with the method, the path and
the parameters of the client. -/
theorem solicitud_recibida {es : List Evento} (hes : r.Llega es) :
    ∃ conn, Red.pedidosDe (Maquinas.correr pasar (some (libre false)) es).2 = [conn] ∧
      (peticionDe conn reloj).metodo.val = method.nombre ∧
      (peticionDe conn reloj).uri.val = client.ruta.val ∧
      ∀ nombre valorDefault, (∀ c ∈ nombre, seguro c = true) →
        Servicio.getParametro (peticionDe conn reloj) nombre valorDefault =
          match buscar client.params nombre with
          | none => valorDefault
          | some v => if v = [] ∨ tamanioBuffer ≤ v.length then valorDefault else cstr v := by
  refine ⟨r.peticion, ?_, h.metodo_peticion reloj, h.uri_peticion reloj, fun nombre valorDefault hnombre =>
    h.getParametro reloj hnombre valorDefault⟩
  have hefectos := Red.pedidosDe_efectos [r]
  rw [List.flatMap_singleton] at hefectos
  obtain ⟨c, hcorre, -⟩ := hes.correr
  rw [hcorre, hefectos]
  rfl

end Ejecuta

/-! ## Responses -/

/-- The loop of `readLine`. A line ends with `\n`, with `\r` or with both, of which `skipLF` drops the second. -/
def leerLineas (skipLF : Bool) (line : Cadena) : Cadena → Cadena
  | [] => if line = [] then [] else line ++ [0x0a]
  | c :: s =>
    if skipLF ∧ c = 0x0a then leerLineas false line s
    else if c = 0x0a then line ++ 0x0a :: leerLineas false [] s
    else if c = 0x0d then line ++ 0x0a :: leerLineas true [] s
    else leerLineas false (line ++ [c]) s

def convertStreamToString (is : Cadena) : Cadena := leerLineas false [] is

/-- `executeRequest`: the field `response`, null when the response does not arrive. -/
def executeRequest [HttpClient] (entrada : Cadena) : Option Cadena :=
  (HttpClient.getContent entrada).map convertStreamToString

theorem leerLineas_concat {s : Cadena} (h : (0x0d : UInt8) ∉ s) {c : UInt8} (hc : c ≠ 0x0d) (line : Cadena) :
    leerLineas false line (s ++ [c]) = line ++ s ++ if c = 0x0a then [c] else [c, 0x0a] := by
  induction s generalizing line with
  | nil => by_cases hnl : c = 0x0a <;> simp [leerLineas, hnl, hc]
  | cons b s ih =>
    rw [List.mem_cons, not_or] at h
    by_cases hb : b = 0x0a
    · subst hb
      simp [leerLineas, ih h.2]
    · simp [leerLineas, hb, Ne.symm h.1, ih h.2]

theorem convertStreamToString_concat {s : Cadena} (h : (0x0d : UInt8) ∉ s) {c : UInt8} (hc : c ≠ 0x0d) :
    ∃ resto, convertStreamToString (s ++ [c]) = s ++ resto := ⟨_, leerLineas_concat h hc []⟩

/-- What the web server makes of one text is read, whether or not an interim response stands before it. -/
theorem executeRequest_texto [HttpClient] (r : Solicitud) {texto : Cadena} (h : texto ≠ []) :
    executeRequest (Red.continuar r ++ respuestaHTTP 0 [texto]) =
      some (convertStreamToString (ns_avprintf IOBUF_SIZE texto)) := by
  have hrespuesta : respuestaHTTP 0 [texto] = bytes "HTTP/1.1 200 OK\r\nTransfer-Encoding: chunked\r\n\r\n" ++
      Chunked.encode [ns_avprintf IOBUF_SIZE texto] := rfl
  have hcontinuar : Red.continuar r ∈ [[], bytes "HTTP/1.1 100 Continue\r\n\r\n"] := by
    simpa using Red.continuar_casos r
  have hne : ns_avprintf IOBUF_SIZE texto ≠ [] := by
    unfold ns_avprintf
    split
    · exact List.concat_ne_nil _ _
    · exact h
  rw [executeRequest, hrespuesta, HttpClient.contenido _ hcontinuar _ (List.forall_mem_singleton.mpr hne),
    List.flatten_singleton, Option.map_some]

/-- The text of an answer has no carriage returns and ends in a line end. -/
theorem exists_respuesta [LibC] (payload : Cadena) (success : Bool) :
    ∃ s, (0x0d : UInt8) ∉ s ∧ respuesta payload success = s ++ [0x0a] := by
  have htexto : respuesta payload success = (Value.object [(keyPayload, .string payload),
      (keySuccess, .string (if success then bytes "true" else bytes "false"))]).toStyledString := rfl
  have hno := return_escaped.not_mem_toStyledString (respuesta_flat payload success)
  rw [Value.toStyledString] at htexto hno
  exact ⟨_, fun hmem => hno (List.mem_append_left _ hmem), htexto⟩

theorem enviado_respuesta [LibC] {payload : Cadena} (h : (0x25 : UInt8) ∉ payload) (success : Bool) :
    enviado (respuesta payload success) = some (respuesta payload success) := by
  have hcstr : cstr (respuesta payload success) = respuesta payload success :=
    cstr_of_not_mem (zero_not_mem_toStyledString (respuesta_flat payload success))
  rw [enviado, hcstr, printf_eq_self_iff, porcentaje_mem_respuesta]
  exact h

/-- **An answer arrives**, up to its line end. -/
theorem executeRequest_respuesta [LibC] [HttpClient] (r : Solicitud) (payload : Cadena) (success : Bool) :
    EsRespuesta (executeRequest (Red.continuar r ++ respuestaHTTP 0 [respuesta payload success])) payload success := by
  obtain ⟨s, hs, htexto⟩ := exists_respuesta payload success
  rw [executeRequest_texto r (by rw [htexto]; exact List.concat_ne_nil _ _), EsRespuesta, htexto, List.dropLast_concat,
    ns_avprintf]
  split
  · -- the text is exactly as long as the buffer, and a NUL stands in place of the line end
    obtain ⟨resto, hresto⟩ := convertStreamToString_concat hs (c := 0) (by decide)
    exact ⟨resto, by rw [List.dropLast_concat, hresto]⟩
  · obtain ⟨resto, hresto⟩ := convertStreamToString_concat hs (c := 0x0a) (by decide)
    exact ⟨resto, by rw [hresto]⟩

end RestClient

/-! ## A library -/

namespace HttpClient

/-- Letters, digits and four more signs stay, a blank becomes a `+`, and the rest is written by its code. -/
def codificar (s : Cadena) : Cadena := escape seguro s

theorem codifica_codificar : Codifica codificar where
  legal := by
    have hbytes : ∀ c : UInt8, seguro c = true ∨ c = 0x2b ∨ c = 0x25 ∨ isHexDigit c = true →
        c ≠ 0x26 ∧ c ≠ 0x3d ∧ c ≠ 0x3f ∧ Visible c := forall_byte (by decide)
    exact fun s c hc => hbytes c (mem_escape hc)
  unescape := unescape_escape rfl rfl

def sinCabecera : Cadena → Option Cadena
  | [] => none
  | c :: s => if (c :: s).take 4 = crlf ++ crlf then some ((c :: s).drop 4) else sinCabecera s

def sinProvisional (entrada : Cadena) : Option Cadena :=
  if entrada.take 12 = bytes "HTTP/1.1 100" then sinCabecera entrada else some entrada

def leerTrozos (entrada : Cadena) : Option Cadena := do
  let respuesta ← sinProvisional entrada
  let cuerpo ← sinCabecera respuesta
  let contenido ← decode cuerpo
  return contenido.1

theorem four_le_of_sinCabecera {s t : Cadena} (h : sinCabecera s = some t) : 4 ≤ s.length := by
  induction s with
  | nil => cases h
  | cons c s ih =>
    rw [sinCabecera] at h
    split at h
    · rename_i htake
      have := congrArg List.length htake
      rw [List.length_take] at this
      simp only [crlf, List.length_append, List.length_cons, List.length_nil] at this
      rw [List.length_cons]
      omega
    · have := ih h
      rw [List.length_cons]
      omega

theorem sinCabecera_append {p : Cadena} (h : sinCabecera p = some []) (s : Cadena) : sinCabecera (p ++ s) = some s := by
  induction p with
  | nil => cases h
  | cons c p ih =>
    have hlen := four_le_of_sinCabecera h
    have htake : ((c :: p) ++ s).take 4 = (c :: p).take 4 := List.take_append_of_le_length hlen
    have hdrop : ((c :: p) ++ s).drop 4 = (c :: p).drop 4 ++ s := List.drop_append_of_le_length hlen
    rw [sinCabecera] at h
    rw [List.cons_append, sinCabecera, ← List.cons_append, htake, hdrop]
    split at h
    · rename_i hcrlf
      rw [if_pos hcrlf, Option.some.inj h, List.nil_append]
    · rename_i hcrlf
      rw [if_neg hcrlf, ih h]

theorem leerTrozos_encode {provisional : Cadena} (hprovisional : provisional ∈ [[], bytes "HTTP/1.1 100 Continue\r\n\r\n"])
    {textos : List Cadena} (htextos : ∀ t ∈ textos, t ≠ []) :
    leerTrozos (provisional ++ (bytes "HTTP/1.1 200 OK\r\nTransfer-Encoding: chunked\r\n\r\n" ++ Chunked.encode textos)) =
      some textos.flatten := by
  have hheader : sinCabecera (bytes "HTTP/1.1 200 OK\r\nTransfer-Encoding: chunked\r\n\r\n") = some [] := by decide
  have hinterim : sinCabecera (bytes "HTTP/1.1 100 Continue\r\n\r\n") = some [] := by decide
  have hdecode : decode (Chunked.encode textos) = some (textos.flatten, []) := by
    simpa using decode_encode htextos []
  have hentrada : sinProvisional (provisional ++
      (bytes "HTTP/1.1 200 OK\r\nTransfer-Encoding: chunked\r\n\r\n" ++ Chunked.encode textos)) =
        some (bytes "HTTP/1.1 200 OK\r\nTransfer-Encoding: chunked\r\n\r\n" ++ Chunked.encode textos) := by
    rw [sinProvisional]
    obtain rfl | rfl : provisional = [] ∨ provisional = bytes "HTTP/1.1 100 Continue\r\n\r\n" := by simpa using hprovisional
    · rw [List.nil_append, List.take_append_of_le_length (by decide), if_neg (by decide)]
    · rw [List.take_append_of_le_length (by decide), if_pos (by decide), sinCabecera_append hinterim]
  rw [leerTrozos, hentrada, Option.bind_eq_bind, Option.bind_some, sinCabecera_append hheader, Option.bind_eq_bind,
    Option.bind_some, hdecode]
  rfl

/-- A library that encodes in this way, and that reads chunks. -/
@[reducible] def simple : HttpClient where
  encode := codificar
  format params := form (codificados codificar params)
  getContent := leerTrozos
  codifica := codifica_codificar
  formulario := ⟨codificar, codifica_codificar, fun _ => rfl⟩
  contenido _ hprovisional _ htextos := leerTrozos_encode hprovisional htextos

end HttpClient

namespace RestClient
attribute [local instance] HttpClient.simple

def clienteAlta : RestClient where
  ruta := ⟨urlBaseUsuario, by decide +kernel, by decide +kernel⟩
  params := [(⟨keyTelefono, by decide +kernel⟩, bytes "1")]

theorem solicitud_recibida_alta :
    ∃ conn, Red.pedidosDe (Maquinas.correr pasar (some (libre false)) Red.eventosAlta).2 = [conn] ∧
      (peticionDe conn Red.relojParado).uri.val = urlBaseUsuario ∧
      Servicio.getParametro (peticionDe conn Red.relojParado) (bytes "telefono") [] = bytes "1" := by
  have hllega : Red.alta.Llega Red.eventosAlta := ⟨by decide, by decide⟩
  have hejecuta : clienteAlta.Ejecuta .POST Red.alta := ⟨by decide, by decide, by decide⟩
  obtain ⟨conn, hconn, -, huri, hparametro⟩ := solicitud_recibida hejecuta Red.relojParado hllega
  refine ⟨conn, hconn, huri, ?_⟩
  rw [hparametro (bytes "telefono") [] (List.all_iff_forall_prop.mp rfl)]
  decide

end RestClient

end MensajeroX.Cliente
