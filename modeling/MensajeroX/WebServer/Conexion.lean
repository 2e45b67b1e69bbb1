import MensajeroX.Lib.Maquinas
import MensajeroX.WebServer.Solicitud
import MensajeroX.WebServer.Uri

/-!
# Connections

A connection of the web server: the bytes it has read, the request it has found in them and what it does after each read.
The event handler of the server answers `MG_TRUE` to `MG_AUTH` and to `MG_REQUEST` and `MG_FALSE` to everything else, so a
request always goes to it (`EP_USER`), and so does every frame of a WebSocket; `MG_REQUEST` stands among the effects. A
connection is closed when its client leaves it alone or closes it, or once everything has been sent after a request that
does not keep it alive.

* `on_recv_data_libre` : the recursive call of `close_local_endpoint` finds nothing to do;
* `recibir_incompleta`, `recibir_cabecera`, `recibir_cuerpo` : the three kinds of reads of a well-formed request;
* `Solicitud.correr_prefijo` : the connection after any part of the bytes of a request;
* `correr_pasar` : what else happens to a connection between its reads;
* `Solicitud.Llega.correr` : **a well-formed request is handled exactly once**, however its bytes are cut into reads;
* `correr_solicitudes` : and so are the requests of a connection, in their order.
-/

namespace MensajeroX.Mongoose
open Bytes Percent Chunked

/-! ## State -/

/-- `endpoint_type`, as far as this server sets it. -/
inductive EndpointType where
  | EP_NONE
  | EP_USER
deriving DecidableEq, Repr

/-- `connection`, with the receive buffer of its `ns_connection`. -/
structure Connection where
  recv_iobuf : Cadena := []
  mg_conn : MgConnection := {}
  endpoint_type : EndpointType := .EP_NONE
  num_bytes_recv : Int := 0
  cl : Int := 0
  request_len : Int := 0
  /-- `NSF_FINISHED_SENDING_DATA` or `NSF_CLOSE_IMMEDIATELY`. -/
  cerrar : Bool := false
deriving DecidableEq, Repr

/-- What a connection does: it sends bytes, it hands a request to the event handler, or it leaves what is defined. -/
inductive Efecto where
  | ns_send (datos : Cadena)
  | MG_REQUEST (conn : MgConnection)
  | desborde
deriving DecidableEq, Repr

/-! ## Steps -/

def should_keep_alive (conn : Connection) : Bool :=
  let header := mg_get_header conn.mg_conn.http_headers (bytes "Connection")
  (conn.mg_conn.request_method == bytes "GET" || conn.endpoint_type == .EP_USER) &&
    match header with
    | some header => mg_strcasecmp header (bytes "keep-alive") == 0
    | none => conn.mg_conn.http_version == bytes "1.1"

/-- `close_local_endpoint`. It drops what is left in the buffer. With `keep_alive` it calls `on_recv_data` once more, which
has nothing to read. -/
def close_local_endpoint (conn : Connection) : Connection where
  cerrar := !(should_keep_alive conn && conn.endpoint_type == .EP_USER)

/-- `status_code_to_str`, on the codes that are sent. -/
def status_code_to_str (status_code : Nat) : Cadena :=
  if status_code = 200 then bytes "OK"
  else if status_code = 400 then bytes "Bad Request"
  else if status_code = 413 then bytes "Payload Too Large"
  else bytes "HTTP Version Not Supported"

/-- `send_http_error`, for a code from 400 on and no further text. -/
def send_http_error (conn : Connection) (code : Nat) : Connection × List Efecto :=
  let body := numeral 10 code ++ bytes " " ++ status_code_to_str code ++ bytes "\n"
  let headers := bytes "HTTP/1.1 " ++ numeral 10 code ++ bytes " " ++ status_code_to_str code ++
    bytes "\r\nContent-Length: " ++ numeral 10 body.length ++ bytes "\r\nContent-Type: text/plain\r\n\r\n"
  (close_local_endpoint conn, [.ns_send headers, .ns_send body])

/-- `sscanf(uri, "%*[^ :]:%hu", &n) > 0`. -/
def hostPort (uri : Cadena) : Bool :=
  let host := uri.takeWhile fun c => c != 0x20 && c != 0x3a
  let resto := uri.drop host.length
  let numero := (resto.drop 1).dropWhile isspace
  let numero := if numero.head? = some 0x2d ∨ numero.head? = some 0x2b then numero.tail else numero
  host != [] && resto.head? == some 0x3a && (numero.head?.map isDigit).getD false

def is_valid_uri (uri : Cadena) : Bool :=
  uri.head? == some 0x2f || uri == bytes "*" || mg_strncasecmp uri (bytes "http") 4 == 0 || hostPort uri

def try_parse (conn : Connection) : Connection :=
  if conn.request_len = 0 then
    let request_len := get_request_len conn.recv_iobuf
    if 0 < request_len then
      let request := conn.recv_iobuf.take request_len.toNat
      let conn := { conn with recv_iobuf := conn.recv_iobuf.drop request_len.toNat }
      match parse_http_message request with
      | none => { conn with mg_conn := {}, request_len := -1 }
      | some mg_conn =>
        { conn with mg_conn := mg_conn, request_len := request_len, cl := contentLength mg_conn.http_headers }
    else { conn with request_len := request_len }
  else conn

def send_continue_if_expected (http_headers : List (Cadena × Cadena)) : List Efecto :=
  match mg_get_header http_headers (bytes "Expect") with
  | none => []
  | some expect_hdr =>
    if mg_strcasecmp expect_hdr (bytes "100-continue") = 0 then [.ns_send (bytes "HTTP/1.1 100 Continue\r\n\r\n")]
    else []

def send_websocket_handshake_if_requested (conn : MgConnection) : MgConnection × List Efecto :=
  match websocketKey conn.http_headers with
  | none => (conn, [])
  | some key => ({ conn with is_websocket := true }, [.ns_send (send_websocket_handshake key)])

/-- The first part of `on_recv_data`: a malformed request is refused, a new one is opened. -/
def abrir (conn : Connection) : Connection × List Efecto :=
  if conn.request_len < 0 ∨ (0 < conn.request_len ∧ is_valid_uri conn.mg_conn.uri = false) then send_http_error conn 400
  else if conn.request_len = 0 ∧ MAX_REQUEST_SIZE < conn.recv_iobuf.length then send_http_error conn 413
  else if 0 < conn.request_len ∧ conn.mg_conn.http_version ≠ bytes "1.0" ∧ conn.mg_conn.http_version ≠ bytes "1.1" then
    send_http_error conn 505
  else if 0 < conn.request_len ∧ conn.endpoint_type = .EP_NONE then
    let r := send_websocket_handshake_if_requested conn.mg_conn
    ({ conn with mg_conn := r.1, endpoint_type := .EP_USER }, r.2 ++ send_continue_if_expected conn.mg_conn.http_headers)
  else (conn, [])

/-- `deliver_websocket_frame`, with its result. -/
def deliver_websocket_frame (conn : Connection) : Bool × Connection × List Efecto :=
  match leerTrama conn.recv_iobuf with
  | .incompleta => (false, conn, [])
  | .entera datos frame_len =>
    (true, { conn with recv_iobuf := conn.recv_iobuf.drop frame_len }, [.MG_REQUEST { conn.mg_conn with content := datos }])
  | .desborde => (false, conn, [.desborde])

/-- The loop over the frames, for at most so many turns. -/
def entregarTramas : Nat → Connection → Connection × List Efecto
  | 0, conn => (conn, [])
  | n + 1, conn =>
    let r := deliver_websocket_frame conn
    if r.1 then
      let r' := entregarTramas n r.2.1
      (r'.1, r.2.2 ++ r'.2)
    else r.2

/-- `call_request_handler_if_data_is_buffered`; the event handler returns `MG_TRUE`. The sum is an `int64_t`, and wraps
around. -/
def call_request_handler_if_data_is_buffered (conn : Connection) : Connection × List Efecto :=
  if conn.mg_conn.is_websocket then entregarTramas conn.recv_iobuf.length conn
  else if (conn.cl + conn.request_len).bmod (2 ^ 64) ≤ conn.num_bytes_recv then
    (close_local_endpoint conn, [.MG_REQUEST { conn.mg_conn with content := conn.recv_iobuf }])
  else (conn, [])

def on_recv_data (conn : Connection) : Connection × List Efecto :=
  let r := abrir (try_parse conn)
  if r.1.endpoint_type = .EP_USER then
    let r' := call_request_handler_if_data_is_buffered r.1
    (r'.1, r.2 ++ r'.2)
  else r

/-- A read: `NS_RECV` after `datos` have been added to the buffer. -/
def recibir (conn : Connection) (datos : Cadena) : Connection × List Efecto :=
  on_recv_data { conn with
    recv_iobuf := conn.recv_iobuf ++ datos
    num_bytes_recv := conn.num_bytes_recv + datos.length }

/-! ## Events -/

def NS_READ_BUFFER_SIZE : Nat := 2048

/-- What one `recv` returns. -/
structure Trozo where
  datos : Cadena
  no_vacio : datos ≠ []
  cabe : datos.length ≤ NS_READ_BUFFER_SIZE
deriving DecidableEq

/-- What happens to a connection: a read; a turn of `ns_mgr_poll`, with the seconds since its last input or output and
whether everything has been sent; or the end of what the client sends. -/
inductive Evento where
  | NS_RECV (trozo : Trozo)
  | NS_POLL (inactiva : Nat) (vaciado : Bool)
  | fin
deriving DecidableEq

def MONGOOSE_USE_WEBSOCKET_PING_INTERVAL : Nat := 5

def MONGOOSE_IDLE_TIMEOUT_SECONDS : Nat := 300

/-- `ping_idle_websocket_connection`: an empty frame with `WEBSOCKET_OPCODE_PING`. -/
def ping_idle_websocket_connection (t : Nat) : List Efecto :=
  if MONGOOSE_USE_WEBSOCKET_PING_INTERVAL < t then [.ns_send [0x89, 0x00]] else []

/-- An event of a connection; `none` is one that has been closed. -/
def pasar : Option Connection → Evento → Option Connection × List Efecto
  | none, _ => (none, [])
  | some conn, .NS_RECV trozo => (some (recibir conn trozo.datos).1, (recibir conn trozo.datos).2)
  | some conn, .NS_POLL inactiva vaciado =>
    let conn' := if MONGOOSE_IDLE_TIMEOUT_SECONDS < inactiva ∨ (conn.cerrar ∧ vaciado) then none else some conn
    (conn', if conn.mg_conn.is_websocket then ping_idle_websocket_connection inactiva else [])
  | some conn, .fin => (some { conn with cerrar := true }, [])

/-- The loop over the frames ends because every turn takes bytes from the buffer: more turns change nothing. -/
theorem entregarTramas_of_le {n m : Nat} {conn : Connection} (hn : conn.recv_iobuf.length ≤ n)
    (hm : conn.recv_iobuf.length ≤ m) : entregarTramas n conn = entregarTramas m conn := by
  have hvacio : ∀ {conn : Connection}, conn.recv_iobuf.length ≤ 0 → ∀ n, entregarTramas n conn = (conn, []) := by
    intro conn h n
    cases n with
    | zero => rfl
    | succ n =>
      have hdeliver : deliver_websocket_frame conn = (false, conn, []) := by
        rw [deliver_websocket_frame, List.length_eq_zero_iff.mp (Nat.le_zero.mp h)]
        rfl
      rw [entregarTramas, hdeliver]
      rfl
  induction n generalizing m conn with
  | zero => rw [hvacio hn, hvacio hn]
  | succ n ih =>
    cases m with
    | zero => rw [hvacio hm, hvacio hm]
    | succ m =>
      rw [entregarTramas, entregarTramas, deliver_websocket_frame]
      cases hleer : leerTrama conn.recv_iobuf with
      | incompleta => rfl
      | desborde => rfl
      | entera datos frame_len =>
        obtain ⟨hpos, hle⟩ := leerTrama_entera hleer
        have hdrop : ∀ k, conn.recv_iobuf.length ≤ k + 1 → (conn.recv_iobuf.drop frame_len).length ≤ k := by
          intro k hk
          rw [List.length_drop]
          omega
        dsimp only
        rw [ih (hdrop n hn) (hdrop m hm)]

/-! ## Between requests -/

/-- A connection that waits for a request. -/
def libre (cerrar : Bool) : Connection where
  cerrar := cerrar

/-! ## What `try_parse` does -/

theorem try_parse_of_ne {conn : Connection} (h : conn.request_len ≠ 0) : try_parse conn = conn := if_neg h

theorem try_parse_of_nonpos {conn : Connection} (h : conn.request_len = 0) (hlen : get_request_len conn.recv_iobuf ≤ 0) :
    try_parse conn = { conn with request_len := get_request_len conn.recv_iobuf } := by
  rw [try_parse, if_pos h]
  exact if_neg (by omega)

theorem try_parse_of_pos {conn : Connection} (h : conn.request_len = 0) {n : Nat}
    (hlen : get_request_len conn.recv_iobuf = n) (hn : 0 < n) :
    try_parse conn =
      match parse_http_message (conn.recv_iobuf.take n) with
      | none => { conn with recv_iobuf := conn.recv_iobuf.drop n, mg_conn := {}, request_len := -1 }
      | some mg_conn =>
        { conn with
          recv_iobuf := conn.recv_iobuf.drop n, mg_conn := mg_conn, request_len := n
          cl := contentLength mg_conn.http_headers } := by
  have hpos : 0 < get_request_len conn.recv_iobuf := by omega
  rw [try_parse, if_pos h]
  refine (if_pos hpos).trans ?_
  rw [hlen, Int.toNat_natCast]

/-! ## The reads of a well-formed request -/

namespace Solicitud
variable (r : Solicitud)

def parcial (cerrar : Bool) (leido : Cadena) : Connection where
  recv_iobuf := leido
  num_bytes_recv := leido.length
  cerrar := cerrar

/-- The header is complete, and so much of the body has been read. -/
def abierta (cerrar : Bool) (leido : Cadena) : Connection where
  recv_iobuf := leido
  mg_conn := r.mensaje
  endpoint_type := .EP_USER
  num_bytes_recv := r.cabecera.length + leido.length
  cl := r.cuerpo.length
  request_len := r.cabecera.length
  cerrar := cerrar

def fin : Connection := close_local_endpoint (r.abierta false r.cuerpo)

def efectos : List Efecto := send_continue_if_expected r.cabeceras ++ [.MG_REQUEST r.peticion]

def persiste : Bool := should_keep_alive (r.abierta false r.cuerpo)

theorem fin_eq : r.fin = libre (!r.persiste) := by
  rw [fin, close_local_endpoint, persiste, libre, show (r.abierta false r.cuerpo).endpoint_type = .EP_USER from rfl,
    beq_self_eq_true, Bool.and_true]

end Solicitud

theorem limpiar_head {uri : Cadena} (h : uri.head? = some 0x2f) : (limpiar uri).head? = some 0x2f := by
  obtain ⟨c, s, rfl⟩ := List.exists_cons_of_ne_nil (show uri ≠ [] by rintro rfl; simp at h)
  cases h
  have hdecode : unescape false (0x2f :: s) = 0x2f :: unescape false s := unescape_cons (by decide) false s
  have hcstr : cstr (0x2f :: unescape false s) = 0x2f :: cstr (unescape false s) := rfl
  rw [limpiar, mg_url_decode_uri, hdecode, hcstr, List.head?_cons, if_pos (.inl rfl), remove_cons, List.head?_cons]

namespace Solicitud
variable (r : Solicitud)

theorem is_valid_uri_mensaje : is_valid_uri r.mensaje.uri = true := by
  have hpath : (r.objetivo.takeWhile (· != 0x3f)).head? = some 0x2f := by
    obtain ⟨c, s, hs⟩ := List.exists_cons_of_ne_nil (show r.objetivo ≠ [] from fun h => by
      have := r.objetivo_head
      rw [h] at this
      simp at this)
    have hc := r.objetivo_head
    rw [hs] at hc ⊢
    cases hc
    rfl
  have huri : r.mensaje.uri.head? = some 0x2f := limpiar_head hpath
  simp [is_valid_uri, huri]

theorem version_mensaje : ¬(r.mensaje.http_version ≠ bytes "1.0" ∧ r.mensaje.http_version ≠ bytes "1.1") := by
  rw [not_and_or, not_not, not_not]
  exact r.version_valida

theorem cabecera_pos : 0 < r.cabecera.length := by
  simp [cabecera, lineas, linea]

variable {r} {cerrar : Bool}

theorem recibir_incompleta {leido datos t : Cadena} (h : leido ++ datos ++ t = r.cabecera) (ht : t ≠ []) :
    recibir (parcial cerrar leido) datos = (parcial cerrar (leido ++ datos), []) := by
  have hread : recibir (parcial cerrar leido) datos = on_recv_data (parcial cerrar (leido ++ datos)) := by
    simp [recibir, parcial]
  have hopen : get_request_len (leido ++ datos) = 0 :=
    get_request_len_of_append (by rw [h]; exact r.get_request_len_cabecera) ht
  have hparse : try_parse (parcial cerrar (leido ++ datos)) = parcial cerrar (leido ++ datos) := by
    rw [try_parse_of_nonpos rfl hopen.le]
    simp [parcial, hopen]
  have hsize : ¬MAX_REQUEST_SIZE < (leido ++ datos).length := by
    have hmax : r.cabecera.length ≤ MAX_REQUEST_SIZE := r.tamanio
    rw [← h, List.length_append] at hmax
    omega
  have habrir : abrir (parcial cerrar (leido ++ datos)) = (parcial cerrar (leido ++ datos), []) := by
    simp only [abrir, parcial, lt_irrefl, false_and, false_or, if_false, true_and, hsize]
  rw [hread, on_recv_data, hparse, habrir]
  rfl

def esperar (r : Solicitud) (cerrar : Bool) (leido : Cadena) : Connection × List Efecto :=
  if leido = r.cuerpo then (r.fin, [.MG_REQUEST r.peticion]) else (r.abierta cerrar leido, [])

theorem call_request_handler_abierta {leido : Cadena} (h : leido <+: r.cuerpo) :
    call_request_handler_if_data_is_buffered (r.abierta cerrar leido) = r.esperar cerrar leido := by
  have hweb : (r.abierta cerrar leido).mg_conn.is_websocket = false := rfl
  have hsuma : ((r.abierta cerrar leido).cl + (r.abierta cerrar leido).request_len).bmod (2 ^ 64) =
      r.cuerpo.length + r.cabecera.length := by
    have hcabe := r.longitud_cabe
    have hmax : r.cabecera.length ≤ MAX_REQUEST_SIZE := r.tamanio
    simp only [abierta]
    exact Int.bmod_eq_of_le_mul_two (by omega) (by omega)
  rw [call_request_handler_if_data_is_buffered, hweb, if_neg (by simp), hsuma, esperar]
  by_cases heq : leido = r.cuerpo
  · subst heq
    rw [if_pos rfl, if_pos (by simp only [abierta]; omega)]
    rfl
  · have hlt : leido.length < r.cuerpo.length := by
      refine lt_of_le_of_ne h.length_le fun hlen => heq ?_
      exact h.eq_of_length hlen
    rw [if_neg heq, if_neg (by simp only [abierta]; omega)]

/-- A read after the header. -/
theorem recibir_cuerpo {leido datos : Cadena} (h : leido ++ datos <+: r.cuerpo) :
    recibir (r.abierta cerrar leido) datos = r.esperar cerrar (leido ++ datos) := by
  have hpos := r.cabecera_pos
  have hread : recibir (r.abierta cerrar leido) datos = on_recv_data (r.abierta cerrar (leido ++ datos)) := by
    simp [recibir, abierta, Int.add_assoc]
  have hparse : try_parse (r.abierta cerrar (leido ++ datos)) = r.abierta cerrar (leido ++ datos) :=
    try_parse_of_ne (by simp only [abierta]; omega)
  have habrir : abrir (r.abierta cerrar (leido ++ datos)) = (r.abierta cerrar (leido ++ datos), []) := by
    have hversion := r.version_mensaje
    have huri := r.is_valid_uri_mensaje
    have hneg : ¬(r.cabecera.length : Int) < 0 := by omega
    have hzero : ¬(r.cabecera.length : Int) = 0 := by omega
    simp only [abrir, abierta, hneg, hzero, huri, hversion, false_and, and_false, or_false, if_false, reduceCtorEq]
  rw [hread, on_recv_data, hparse, habrir, call_request_handler_abierta h]
  rfl

/-- The read that completes the header, maybe with bytes of the body. -/
theorem recibir_cabecera {leido datos cuerpo : Cadena} (h : leido ++ datos = r.cabecera ++ cuerpo)
    (hcuerpo : cuerpo <+: r.cuerpo) :
    recibir (parcial cerrar leido) datos = ((r.esperar cerrar cuerpo).1,
      send_continue_if_expected r.cabeceras ++ (r.esperar cerrar cuerpo).2) := by
  have hpos := r.cabecera_pos
  have hread : recibir (parcial cerrar leido) datos = on_recv_data (parcial cerrar (r.cabecera ++ cuerpo)) := by
    simp [recibir, parcial, ← h]
  have hlen : get_request_len (r.cabecera ++ cuerpo) = r.cabecera.length := by
    rw [get_request_len_append, r.get_request_len_cabecera]
    rw [r.get_request_len_cabecera]
    omega
  -- the request leaves the buffer, and what is left of it is the beginning of the body
  have hparse : try_parse (parcial cerrar (r.cabecera ++ cuerpo)) =
      { r.abierta cerrar cuerpo with endpoint_type := .EP_NONE } := by
    have hcl : contentLength r.mensaje.http_headers = r.cuerpo.length := r.longitud
    rw [try_parse_of_pos rfl hlen hpos]
    simp only [parcial, List.take_left, List.drop_left, r.parse_cabecera, hcl]
    simp [abierta]
  have habrir : abrir { r.abierta cerrar cuerpo with endpoint_type := .EP_NONE } =
      (r.abierta cerrar cuerpo, send_continue_if_expected r.cabeceras) := by
    have hversion := r.version_mensaje
    have huri := r.is_valid_uri_mensaje
    have hneg : ¬(r.cabecera.length : Int) < 0 := by omega
    have hzero : ¬(r.cabecera.length : Int) = 0 := by omega
    have hposint : (0 : Int) < r.cabecera.length := by omega
    have hweb : send_websocket_handshake_if_requested r.mensaje = (r.mensaje, []) := by
      rw [send_websocket_handshake_if_requested, show websocketKey r.mensaje.http_headers = none from r.sin_websocket]
    simp only [abrir, abierta, hneg, hzero, huri, hversion, false_and, and_false, or_false, if_false, hposint, true_and,
      if_true, hweb, reduceCtorEq]
    rfl
  rw [hread, on_recv_data, hparse, habrir, call_request_handler_abierta hcuerpo]
  rfl

/-! ## Runs -/

/-- The connection, and what it has done, after the beginning of the request. -/
def tras (r : Solicitud) (cerrar : Bool) (leido : Cadena) : Connection × List Efecto :=
  if leido.length < r.cabecera.length then (parcial cerrar leido, [])
  else
    let e := r.esperar cerrar (leido.drop r.cabecera.length)
    (e.1, send_continue_if_expected r.cabeceras ++ e.2)

theorem cabecera_append_drop {leido : Cadena} (h : leido <+: r.texto) (hleido : r.cabecera.length ≤ leido.length) :
    r.cabecera ++ leido.drop r.cabecera.length = leido ∧ leido.drop r.cabecera.length <+: r.cuerpo := by
  obtain ⟨t, rfl⟩ := List.prefix_of_prefix_length_le ⟨r.cuerpo, rfl⟩ h hleido
  rw [List.drop_left]
  exact ⟨rfl, (List.prefix_append_right_inj _).mp h⟩

/-- While bytes are still to come, the body is not complete. -/
theorem drop_ne_cuerpo {leido datos : Cadena} (h : leido ++ datos <+: r.texto) (hdatos : datos ≠ [])
    (hleido : r.cabecera.length ≤ leido.length) : leido.drop r.cabecera.length ≠ r.cuerpo := by
  intro heq
  have hcuerpo := congrArg List.length heq
  have hle := h.length_le
  have hpos := List.length_pos_iff.mpr hdatos
  rw [List.length_drop] at hcuerpo
  rw [texto, List.length_append, List.length_append] at hle
  omega

/-- **The connection after any part of the bytes of a request**, however they are cut. -/
theorem correr_prefijo {lecturas : List Cadena} (h : lecturas.flatten <+: r.texto) (hne : ∀ datos ∈ lecturas, datos ≠ []) :
    Maquinas.correr recibir (libre cerrar) lecturas = r.tras cerrar lecturas.flatten := by
  induction lecturas using List.reverseRecOn with
  | nil => exact (if_pos r.cabecera_pos).symm
  | append_singleton lecturas datos ih =>
    rw [List.flatten_append, List.flatten_singleton] at h ⊢
    have hdatos : datos ≠ [] := hne datos (by simp)
    have ih := ih ((List.prefix_append _ _).trans h) fun d hd => hne d (by simp [hd])
    generalize lecturas.flatten = leido at h ih ⊢
    rw [Maquinas.correr_append, ih, Maquinas.correr, Maquinas.correr]
    by_cases hleido : leido.length < r.cabecera.length
    · rw [tras, if_pos hleido]
      by_cases hlt : (leido ++ datos).length < r.cabecera.length
      · -- the header is still open
        obtain ⟨t, ht⟩ := List.prefix_of_prefix_length_le h ⟨r.cuerpo, rfl⟩ hlt.le
        have hne' : t ≠ [] := by
          rintro rfl
          rw [List.append_nil] at ht
          rw [ht] at hlt
          exact lt_irrefl _ hlt
        rw [recibir_incompleta ht hne', tras, if_pos hlt]
        rfl
      · obtain ⟨happend, hcuerpo⟩ := cabecera_append_drop h (not_lt.mp hlt)
        rw [recibir_cabecera happend.symm hcuerpo, tras, if_neg hlt]
        simp
    · have hle := not_lt.mp hleido
      have hdrop : (leido ++ datos).drop r.cabecera.length = leido.drop r.cabecera.length ++ datos :=
        List.drop_append_of_le_length hle
      have hlen : ¬(leido ++ datos).length < r.cabecera.length := by
        rw [List.length_append]
        omega
      obtain ⟨-, hcuerpo⟩ := cabecera_append_drop h (not_lt.mp hlen)
      rw [hdrop] at hcuerpo
      rw [tras, if_neg hleido, tras, if_neg hlen, hdrop, esperar, if_neg (drop_ne_cuerpo h hdatos hle)]
      dsimp only
      rw [recibir_cuerpo hcuerpo]
      simp

theorem tras_texto : r.tras cerrar r.texto = (r.fin, r.efectos) := by
  have hlen : ¬r.texto.length < r.cabecera.length := by
    rw [texto, List.length_append]
    omega
  rw [tras, if_neg hlen, texto, List.drop_left, esperar, if_pos rfl, efectos]

end Solicitud

/-! ## What happens between the reads -/

def lecturas (es : List Evento) : List Cadena :=
  es.filterMap fun e =>
    match e with
    | .NS_RECV trozo => some trozo.datos
    | _ => none

/-- A turn of `ns_mgr_poll` leaves the connection as it is, unless it comes too late. -/
def Connection.Tranquila (conn : Connection) : Prop := conn.cerrar = false ∧ conn.mg_conn.is_websocket = false

/-- Neither the end of what the client sends nor a timeout. -/
def Evento.Sereno : Evento → Prop
  | .NS_RECV _ => True
  | .NS_POLL inactiva _ => inactiva ≤ MONGOOSE_IDLE_TIMEOUT_SECONDS
  | .fin => False

instance : (e : Evento) → Decidable e.Sereno
  | .NS_RECV _ => .isTrue trivial
  | .NS_POLL inactiva _ => inferInstanceAs (Decidable (inactiva ≤ MONGOOSE_IDLE_TIMEOUT_SECONDS))
  | .fin => .isFalse id

/-- A turn of `ns_mgr_poll` may close a connection, and does nothing else to it. -/
theorem pasar_poll {conn : Connection} (hweb : conn.mg_conn.is_websocket = false) (inactiva : Nat) (vaciado : Bool) :
    pasar (some conn) (.NS_POLL inactiva vaciado) =
      (if MONGOOSE_IDLE_TIMEOUT_SECONDS < inactiva ∨ (conn.cerrar ∧ vaciado) then none else some conn, []) := by
  rw [pasar, hweb]
  rfl

theorem correr_pasar_none (es : List Evento) : Maquinas.correr pasar none es = (none, []) := by
  induction es with
  | nil => rfl
  | cons e es ih => rw [Maquinas.correr, pasar, ih, List.append_nil]

/-- **Between its reads nothing happens to a connection** that is not to be closed. After the last one it may be closed. -/
theorem correr_pasar {conn : Connection} {es : List Evento} (hes : ∀ e ∈ es, e.Sereno)
    (h : ∀ ds, ds <+: lecturas es → ds ≠ lecturas es → (Maquinas.correr recibir conn ds).1.Tranquila)
    (hfin : (Maquinas.correr recibir conn (lecturas es)).1.mg_conn.is_websocket = false) :
    ∃ c, Maquinas.correr pasar (some conn) es = (c, (Maquinas.correr recibir conn (lecturas es)).2) ∧
      (c = some (Maquinas.correr recibir conn (lecturas es)).1 ∨
        (Maquinas.correr recibir conn (lecturas es)).1.cerrar = true ∧ c = none) := by
  induction es generalizing conn with
  | nil => exact ⟨_, rfl, .inl rfl⟩
  | cons e es ih =>
    rw [List.forall_mem_cons] at hes
    cases e with
    | fin => exact absurd hes.1 id
    | NS_RECV trozo =>
      have hlecturas : lecturas (.NS_RECV trozo :: es) = trozo.datos :: lecturas es := rfl
      rw [hlecturas, Maquinas.correr] at hfin ⊢
      obtain ⟨c, hc, hcasos⟩ := ih hes.2 (fun ds hds hne => by
        refine h (trozo.datos :: ds) ?_ ?_
        · rw [hlecturas]
          exact (List.prefix_cons_inj _).mpr hds
        · rw [hlecturas]
          exact fun heq => hne (List.cons.inj heq).2) hfin
      exact ⟨c, by rw [Maquinas.correr, pasar, hc], hcasos⟩
    | NS_POLL inactiva vaciado =>
      have hlecturas : lecturas (.NS_POLL inactiva vaciado :: es) = lecturas es := rfl
      rw [hlecturas] at h hfin ⊢
      -- either more reads come, or the connection is the last one already
      have hconn : conn.Tranquila ∨ lecturas es = [] := by
        by_cases hnil : lecturas es = []
        · exact .inr hnil
        · exact .inl (h [] List.nil_prefix (Ne.symm hnil))
      have hweb : conn.mg_conn.is_websocket = false := by
        obtain htranquila | hnil := hconn
        · exact htranquila.2
        · rw [hnil] at hfin
          exact hfin
      by_cases hcierra : conn.cerrar = true ∧ vaciado = true
      · have hnil : lecturas es = [] := hconn.resolve_left fun htranquila => by
          rw [htranquila.1] at hcierra
          exact absurd hcierra.1 (by decide)
        have hpasar : pasar (some conn) (.NS_POLL inactiva vaciado) = (none, []) := by
          rw [pasar_poll hweb, if_pos (.inr hcierra)]
        refine ⟨none, ?_, .inr ⟨?_, rfl⟩⟩
        · rw [Maquinas.correr, hpasar, correr_pasar_none, hnil]
          rfl
        · rw [hnil]
          exact hcierra.1
      · have hpasar : pasar (some conn) (.NS_POLL inactiva vaciado) = (some conn, []) := by
          rw [pasar_poll hweb, if_neg (not_or.mpr ⟨not_lt.mpr hes.1, hcierra⟩)]
        obtain ⟨c, hc, hcasos⟩ := ih hes.2 h hfin
        exact ⟨c, by rw [Maquinas.correr, hpasar, hc]; rfl, hcasos⟩

theorem correr_pasar_sin_lecturas {conn : Option Connection} (hconn : ∀ c ∈ conn, c.mg_conn.is_websocket = false)
    {es : List Evento} (hes : lecturas es = []) : (Maquinas.correr pasar conn es).2 = [] := by
  induction es generalizing conn with
  | nil => rfl
  | cons e es ih =>
    cases conn with
    | none => rw [correr_pasar_none]
    | some c =>
      have hweb := hconn c rfl
      cases e with
      | NS_RECV trozo => cases hes
      | fin =>
        rw [Maquinas.correr]
        exact ih (by rintro _ ⟨⟩; exact hweb) hes
      | NS_POLL inactiva vaciado =>
        rw [Maquinas.correr, pasar_poll hweb]
        refine ih (fun c' hc' => ?_) hes
        dsimp only at hc'
        split at hc'
        · cases hc'
        · cases hc'
          exact hweb

namespace Solicitud
variable {r : Solicitud}

/-- The events that bring the bytes of the request. -/
structure Llega (r : Solicitud) (es : List Evento) : Prop where
  sereno : ∀ e ∈ es, e.Sereno
  texto : (lecturas es).flatten = r.texto

theorem lecturas_ne_nil (es : List Evento) : ∀ datos ∈ lecturas es, datos ≠ [] := by
  intro datos hdatos
  obtain ⟨e, -, he⟩ := List.mem_filterMap.mp hdatos
  cases e with
  | NS_RECV trozo =>
    cases he
    exact trozo.no_vacio
  | NS_POLL inactiva vaciado => cases he
  | fin => cases he

/-- **A well-formed request is handled exactly once**, however its bytes are cut into reads. Only after it the connection
may be closed, if it does not keep it alive. -/
theorem Llega.correr {es : List Evento} (h : r.Llega es) :
    ∃ c, Maquinas.correr pasar (some (libre false)) es = (c, r.efectos) ∧
      (c = some r.fin ∨ r.persiste = false ∧ c = none) := by
  have hne := lecturas_ne_nil es
  have hcorre : Maquinas.correr recibir (libre false) (lecturas es) = (r.fin, r.efectos) := by
    rw [correr_prefijo (by rw [h.texto]) hne, h.texto, tras_texto]
  have hantes : ∀ ds, ds <+: lecturas es → ds ≠ lecturas es →
      (Maquinas.correr recibir (libre false) ds).1.Tranquila := by
    rintro ds ⟨t, ht⟩ hds
    have htexto : ds.flatten ++ t.flatten = r.texto := by rw [← List.flatten_append, ht, h.texto]
    rw [correr_prefijo ⟨_, htexto⟩ fun d hd => hne d (by rw [← ht]; simp [hd]), tras]
    split_ifs with hlen
    · exact ⟨rfl, rfl⟩
    · -- some of the body is missing
      have ht' : t.flatten ≠ [] := by
        intro hnil
        refine hds ?_
        rw [← ht, List.eq_nil_iff_forall_not_mem.mpr fun d hd => hne d (by rw [← ht]; simp [hd])
          (List.flatten_eq_nil_iff.mp hnil d hd), List.append_nil]
      have hfalta := drop_ne_cuerpo (by rw [htexto]) ht' (not_lt.mp hlen)
      rw [esperar, if_neg hfalta]
      exact ⟨rfl, rfl⟩
  obtain ⟨c, hc, hcasos⟩ := correr_pasar h.sereno hantes (by rw [hcorre, fin_eq]; rfl)
  rw [hcorre] at hc hcasos
  refine ⟨c, hc, hcasos.imp_right fun ⟨hcerrar, hnone⟩ => ⟨?_, hnone⟩⟩
  rw [fin_eq] at hcerrar
  exact (Bool.not_eq_true' _).mp hcerrar

end Solicitud

/-- The requests of a connection, each with its events: they are handled in their order, when all but the last keep the
connection alive. What comes after them, but for more reads, does nothing. -/
theorem correr_solicitudes {ps : List (Solicitud × List Evento)} (hps : ∀ p ∈ ps, p.1.Llega p.2)
    (hpersisten : ∀ p ∈ ps.dropLast, p.1.persiste = true) {resto : List Evento} (hresto : lecturas resto = []) :
    (Maquinas.correr pasar (some (libre false)) (ps.flatMap Prod.snd ++ resto)).2 = ps.flatMap fun p => p.1.efectos := by
  induction ps with
  | nil => exact correr_pasar_sin_lecturas (by rintro _ ⟨⟩; rfl) hresto
  | cons p ps ih =>
    rw [List.forall_mem_cons] at hps
    obtain ⟨c, hc, hcasos⟩ := hps.1.correr
    rw [List.flatMap_cons, List.flatMap_cons, List.append_assoc, Maquinas.correr_append, hc]
    refine congrArg (p.1.efectos ++ ·) ?_
    cases ps with
    | nil =>
      -- the last one
      refine correr_pasar_sin_lecturas (fun c' hc' => ?_) hresto
      obtain rfl | ⟨-, rfl⟩ := hcasos
      · cases hc'
        rw [Solicitud.fin_eq]
        rfl
      · cases hc'
    | cons q qs =>
      have hpersiste : p.1.persiste = true := hpersisten p (by simp)
      obtain rfl | ⟨hcierra, -⟩ := hcasos
      · rw [Solicitud.fin_eq, hpersiste]
        exact ih hps.2 fun p' hp' => hpersisten p' (by rw [List.dropLast_cons_cons]; exact List.mem_cons_of_mem _ hp')
      · rw [hpersiste] at hcierra
        exact absurd hcierra (by decide)

end MensajeroX.Mongoose
