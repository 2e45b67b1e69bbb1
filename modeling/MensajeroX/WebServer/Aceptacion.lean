import MensajeroX.WebServer.Conexion

/-!
# What reaches the event handler

Whatever happens on a connection, and however its bytes are cut into reads, the event handler only gets requests that have
passed the tests of the web server: those of `Aceptada`, and all of the body. The body of a WebSocket frame is the frame, and
a `Content-Length` close to `2 ^ 63` makes the sum with the length of the header wrap around, so that the body is not waited
for.

* `Aceptada`, `Atendible` : the requests that pass;
* `Connection.Inv` : what a connection keeps, `recibir_inv` : every read keeps it;
* `atendible_of_eventos` : the requests of any run;
* `ruta_sin_ascensos` : **their paths have no double slashes and no double dots**.
-/

namespace MensajeroX.Mongoose
open Bytes Percent Chunked

/-- A request that `parse_http_message` has read. -/
structure Leida (m : MgConnection) : Prop where
  metodo : is_valid_http_method m.request_method = true ∨ bytes "HTTP/" <+: m.request_method
  /-- A path has no double slashes and no double dots left. -/
  limpia : m.uri.head? = some 0x2f ∨ m.uri.head? = some 0x2e → Limpia m.uri
  cabeceras : m.http_headers.length ≤ maxHeaders ∧ ∀ h ∈ m.http_headers, h.1 ≠ []

/-- A request that has also passed the tests of `on_recv_data`. -/
structure Aceptada (m : MgConnection) : Prop extends Leida m where
  version : m.http_version = bytes "1.0" ∨ m.http_version = bytes "1.1"
  uri : is_valid_uri m.uri = true

/-- The header of a request is found at the latest by the read after the one that fills `MAX_REQUEST_SIZE`. -/
def largoMaximo : Nat := MAX_REQUEST_SIZE + NS_READ_BUFFER_SIZE

/-- A request that the event handler may get: accepted, and with at least the body that it announces. -/
structure Atendible (m : MgConnection) : Prop extends Aceptada m where
  completa : m.is_websocket = true ∨ contentLength m.http_headers ≤ m.content.length ∨
    2 ^ 63 ≤ contentLength m.http_headers + largoMaximo

/-! ## The tests of the parser -/

theorem parse_http_headers_spec (n : Nat) (buf : Cadena) :
    (parse_http_headers n buf).length ≤ n ∧ ∀ h ∈ parse_http_headers n buf, h.1 ≠ [] := by
  induction n generalizing buf with
  | zero => simp [parse_http_headers]
  | succ n ih =>
    rw [parse_http_headers]
    dsimp only
    split_ifs with hname
    · simp
    · obtain ⟨hlen, hne⟩ := ih (skip [0x0d, 0x0a] (skip [0x3a, 0x20] buf).2).2
      refine ⟨by rw [List.length_cons]; omega, fun h hh => ?_⟩
      rw [List.mem_cons] at hh
      obtain rfl | hh := hh
      · exact hname
      · exact hne h hh

theorem limpia_limpiar {uri : Cadena} (h : (limpiar uri).head? = some 0x2f ∨ (limpiar uri).head? = some 0x2e) :
    Limpia (limpiar uri) := by
  revert h
  rw [limpiar]
  split_ifs with hhead
  · exact fun _ => limpia_remove _
  · exact fun h => absurd h hhead

theorem leida_of_parse {buf : Cadena} {m : MgConnection} (h : parse_http_message buf = some m) : Leida m := by
  rw [parse_http_message] at h
  split at h
  · exact absurd h (by simp)
  · dsimp only at h
    split at h
    · exact absurd h (by simp)
    · rename_i htest
      rw [not_or, not_and_or, not_and_or, not_not, not_not, not_not] at htest
      cases h
      exact ⟨htest.2, limpia_limpiar, parse_http_headers_spec _ _⟩

/-! ## The invariant -/

/-- What a connection keeps: it waits for a header, of which there are at most `cota` bytes, or it has accepted a request and
waits for the body or for frames. The counters tell how much of the buffer belongs to a request. -/
inductive Connection.Inv (cota : Nat) (conn : Connection) : Prop
  | espera (hlen : conn.request_len = 0) (hendpoint : conn.endpoint_type = .EP_NONE)
    (hnum : conn.num_bytes_recv = conn.recv_iobuf.length) (hcota : conn.recv_iobuf.length ≤ cota)
  | abierta (hlen : 0 < conn.request_len ∧ conn.request_len ≤ largoMaximo) (hendpoint : conn.endpoint_type = .EP_USER)
    (haceptada : Aceptada conn.mg_conn) (hcl : conn.cl = contentLength conn.mg_conn.http_headers)
    (hnum : conn.mg_conn.is_websocket = false → conn.num_bytes_recv = conn.request_len + conn.recv_iobuf.length)

def Efecto.Bueno : Efecto → Prop
  | .ns_send _ => True
  | .MG_REQUEST m => Atendible m
  | .desborde => True

theorem inv_libre (cota : Nat) (cerrar : Bool) : (libre cerrar).Inv cota := .espera rfl rfl rfl (Nat.zero_le _)

/-- A refusal closes the connection and calls nobody. -/
theorem send_http_error_spec (cota : Nat) (conn : Connection) (code : Nat) :
    (send_http_error conn code).1.Inv cota ∧ (send_http_error conn code).1.endpoint_type = .EP_NONE ∧
      ∀ e ∈ (send_http_error conn code).2, e.Bueno := by
  refine ⟨inv_libre _ _, rfl, fun e he => ?_⟩
  simp only [send_http_error, List.mem_cons, List.not_mem_nil, or_false] at he
  obtain rfl | rfl := he <;> trivial

theorem send_continue_bueno (hs : List (Cadena × Cadena)) : ∀ e ∈ send_continue_if_expected hs, e.Bueno := by
  intro e he
  rw [send_continue_if_expected] at he
  split at he
  · exact absurd he List.not_mem_nil
  · split_ifs at he
    · rw [List.mem_singleton.mp he]
      trivial
    · exact absurd he List.not_mem_nil

theorem send_websocket_handshake_spec {m : MgConnection} (h : Aceptada m) :
    Aceptada (send_websocket_handshake_if_requested m).1 ∧
      (send_websocket_handshake_if_requested m).1.http_headers = m.http_headers ∧
      ∀ e ∈ (send_websocket_handshake_if_requested m).2, e.Bueno := by
  rw [send_websocket_handshake_if_requested]
  split
  · exact ⟨h, rfl, fun e he => absurd he List.not_mem_nil⟩
  · refine ⟨{ h with }, rfl, fun e he => ?_⟩
    rw [List.mem_singleton.mp he]
    trivial

theorem entregarTramas_spec (cota n : Nat) {conn : Connection} (hweb : conn.mg_conn.is_websocket = true)
    (hlen : 0 < conn.request_len ∧ conn.request_len ≤ largoMaximo) (hendpoint : conn.endpoint_type = .EP_USER)
    (haceptada : Aceptada conn.mg_conn) (hcl : conn.cl = contentLength conn.mg_conn.http_headers) :
    (entregarTramas n conn).1.Inv cota ∧ ∀ e ∈ (entregarTramas n conn).2, e.Bueno := by
  have hinv : ∀ buf, ({ conn with recv_iobuf := buf } : Connection).Inv cota := fun buf =>
    .abierta hlen hendpoint haceptada hcl fun hno => absurd (hno.symm.trans hweb) (by decide)
  induction n generalizing conn with
  | zero => exact ⟨hinv conn.recv_iobuf, fun e he => absurd he List.not_mem_nil⟩
  | succ n ih =>
    rw [entregarTramas, deliver_websocket_frame]
    cases leerTrama conn.recv_iobuf with
    | incompleta => exact ⟨hinv conn.recv_iobuf, fun e he => absurd he List.not_mem_nil⟩
    | desborde => exact ⟨hinv conn.recv_iobuf, List.forall_mem_singleton.mpr trivial⟩
    | entera datos frame_len =>
      obtain ⟨hresto, hbueno⟩ := @ih { conn with recv_iobuf := conn.recv_iobuf.drop frame_len } hweb hlen hendpoint
        haceptada hcl hinv
      refine ⟨hresto, List.forall_mem_append.mpr ⟨List.forall_mem_singleton.mpr ?_, hbueno⟩⟩
      exact { haceptada with completa := .inl hweb }

theorem call_request_handler_spec (cota : Nat) {conn : Connection}
    (hlen : 0 < conn.request_len ∧ conn.request_len ≤ largoMaximo) (hendpoint : conn.endpoint_type = .EP_USER)
    (haceptada : Aceptada conn.mg_conn) (hcl : conn.cl = contentLength conn.mg_conn.http_headers)
    (hnum : conn.mg_conn.is_websocket = false → conn.num_bytes_recv = conn.request_len + conn.recv_iobuf.length) :
    (call_request_handler_if_data_is_buffered conn).1.Inv cota ∧
      ∀ e ∈ (call_request_handler_if_data_is_buffered conn).2, e.Bueno := by
  rw [call_request_handler_if_data_is_buffered]
  split_ifs with hweb hready
  · exact entregarTramas_spec cota _ hweb hlen hendpoint haceptada hcl
  · refine ⟨inv_libre _ _, List.forall_mem_singleton.mpr { haceptada with completa := .inr ?_ }⟩
    have hnum := hnum (Bool.eq_false_iff.mpr hweb)
    have hcota : -2 ^ 63 ≤ contentLength conn.mg_conn.http_headers := contentLength_ge _
    dsimp only
    by_cases hdesborde : conn.cl + conn.request_len < 2 ^ 63
    · rw [Int.bmod_eq_of_le_mul_two (by omega) (by omega)] at hready
      exact .inl (by omega)
    · exact .inr (by omega)
  · exact ⟨.abierta hlen hendpoint haceptada hcl hnum, by simp⟩

/-- What `abrir` can do after `try_parse`: refuse, wait, or hand over a request that has passed. -/
theorem abrir_casos (conn : Connection) :
    (∃ code, abrir conn = send_http_error conn code) ∨
      (conn.request_len = 0 ∧ conn.recv_iobuf.length ≤ MAX_REQUEST_SIZE ∧ abrir conn = (conn, [])) ∨
      (0 < conn.request_len ∧ is_valid_uri conn.mg_conn.uri = true ∧
        (conn.mg_conn.http_version = bytes "1.0" ∨ conn.mg_conn.http_version = bytes "1.1") ∧
        ((conn.endpoint_type = .EP_USER ∧ abrir conn = (conn, [])) ∨
          (conn.endpoint_type = .EP_NONE ∧ abrir conn =
            ({ conn with
                mg_conn := (send_websocket_handshake_if_requested conn.mg_conn).1
                endpoint_type := .EP_USER },
              (send_websocket_handshake_if_requested conn.mg_conn).2 ++
                send_continue_if_expected conn.mg_conn.http_headers)))) := by
  rw [abrir]
  split_ifs with hbad hlarge hversion hopen
  · exact .inl ⟨_, rfl⟩
  · exact .inl ⟨_, rfl⟩
  · exact .inl ⟨_, rfl⟩
  · rw [not_or, not_and_or, Bool.not_eq_false] at hbad
    refine .inr (.inr ⟨hopen.1, hbad.2.resolve_left (not_not.mpr hopen.1), ?_, .inr ⟨hopen.2, rfl⟩⟩)
    by_contra h
    rw [not_or] at h
    exact hversion ⟨hopen.1, h⟩
  · rw [not_or, not_and_or, Bool.not_eq_false] at hbad
    by_cases hzero : conn.request_len = 0
    · exact .inr (.inl ⟨hzero, not_lt.mp fun hgt => hlarge ⟨hzero, hgt⟩, rfl⟩)
    · have hpos : 0 < conn.request_len := by omega
      refine .inr (.inr ⟨hpos, hbad.2.resolve_left (not_not.mpr hpos), ?_, .inl ⟨?_, rfl⟩⟩)
      · by_contra h
        rw [not_or] at h
        exact hversion ⟨hpos, h⟩
      · cases hendpoint : conn.endpoint_type with
        | EP_NONE => exact absurd ⟨hpos, hendpoint⟩ hopen
        | EP_USER => rfl

/-- What `try_parse` leaves: a header that is open or malformed, or a request that was read now or before. -/
theorem try_parse_casos {conn : Connection} (h : conn.Inv largoMaximo) :
    ((try_parse conn).request_len ≤ 0 ∧ (try_parse conn).endpoint_type = .EP_NONE ∧
      ((try_parse conn).request_len = 0 → (try_parse conn).num_bytes_recv = (try_parse conn).recv_iobuf.length)) ∨
    ((0 < (try_parse conn).request_len ∧ (try_parse conn).request_len ≤ largoMaximo) ∧ Leida (try_parse conn).mg_conn ∧
      (try_parse conn).cl = contentLength (try_parse conn).mg_conn.http_headers ∧
      ((try_parse conn).mg_conn.is_websocket = false →
        (try_parse conn).num_bytes_recv = (try_parse conn).request_len + (try_parse conn).recv_iobuf.length) ∧
      ((try_parse conn).endpoint_type = .EP_NONE →
        (try_parse conn).num_bytes_recv = (try_parse conn).request_len + (try_parse conn).recv_iobuf.length)) := by
  cases h with
  | espera hlen hendpoint hnum hcota =>
    by_cases hnonpos : get_request_len conn.recv_iobuf ≤ 0
    · rw [try_parse_of_nonpos hlen hnonpos]
      exact .inl ⟨hnonpos, hendpoint, fun _ => hnum⟩
    · have hle := get_request_len_le (show 0 < get_request_len conn.recv_iobuf by omega)
      obtain ⟨n, hn⟩ := Int.eq_ofNat_of_zero_le (show 0 ≤ get_request_len conn.recv_iobuf by omega)
      rw [try_parse_of_pos hlen hn (by omega)]
      cases hparse : parse_http_message (conn.recv_iobuf.take n) with
      | none => exact .inl ⟨by simp, hendpoint, by simp⟩
      | some m =>
        have hcuenta : conn.num_bytes_recv = (n : Int) + (conn.recv_iobuf.drop n).length := by
          rw [hnum, List.length_drop]
          omega
        exact .inr ⟨⟨by dsimp only; omega, by dsimp only; omega⟩, leida_of_parse hparse, rfl, fun _ => hcuenta,
          fun _ => hcuenta⟩
  | abierta hlen hendpoint haceptada hcl hnum =>
    rw [try_parse_of_ne (by omega)]
    exact .inr ⟨hlen, haceptada.toLeida, hcl, hnum, fun hno => absurd (hno.symm.trans hendpoint) (by decide)⟩

theorem on_recv_data_inv {conn : Connection} (h : conn.Inv largoMaximo) :
    (on_recv_data conn).1.Inv MAX_REQUEST_SIZE ∧ ∀ e ∈ (on_recv_data conn).2, e.Bueno := by
  rw [on_recv_data]
  obtain ⟨code, habrir⟩ | ⟨hzero, hcota, habrir⟩ | ⟨hpos, huri, hversion, hrest⟩ := abrir_casos (try_parse conn)
  · -- refused
    obtain ⟨hinv, hendpoint, hbueno⟩ := send_http_error_spec MAX_REQUEST_SIZE (try_parse conn) code
    rw [habrir, if_neg (by rw [hendpoint]; decide)]
    exact ⟨hinv, hbueno⟩
  · -- the header is still open
    obtain ⟨-, hendpoint, hnum⟩ | ⟨⟨hpos, -⟩, -⟩ := try_parse_casos h
    · rw [habrir, if_neg (by rw [hendpoint]; decide)]
      exact ⟨.espera hzero hendpoint (hnum hzero) hcota, by simp⟩
    · omega
  · obtain ⟨hnonpos, -⟩ | ⟨hlen, hleida, hcl, hnum, hnueva⟩ := try_parse_casos h
    · omega
    obtain ⟨hendpoint, habrir⟩ | ⟨hendpoint, habrir⟩ := hrest
    · rw [habrir, if_pos hendpoint]
      simpa using call_request_handler_spec MAX_REQUEST_SIZE hlen hendpoint ⟨hleida, hversion, huri⟩ hcl hnum
    · rw [habrir, if_pos rfl]
      obtain ⟨haceptada, hheaders, hsaludo⟩ := send_websocket_handshake_spec ⟨hleida, hversion, huri⟩
      obtain ⟨hinv, hbueno⟩ := @call_request_handler_spec MAX_REQUEST_SIZE
        { try_parse conn with
          mg_conn := (send_websocket_handshake_if_requested (try_parse conn).mg_conn).1
          endpoint_type := .EP_USER }
        hlen rfl haceptada (by rw [hheaders]; exact hcl) fun _ => hnueva hendpoint
      exact ⟨hinv, List.forall_mem_append.mpr
        ⟨List.forall_mem_append.mpr ⟨hsaludo, send_continue_bueno _⟩, hbueno⟩⟩

/-- **Every read keeps the invariant**, and hands over only what may be handed over. -/
theorem recibir_inv {conn : Connection} {datos : Cadena} (hdatos : datos.length ≤ NS_READ_BUFFER_SIZE)
    (h : conn.Inv MAX_REQUEST_SIZE) :
    (recibir conn datos).1.Inv MAX_REQUEST_SIZE ∧ ∀ e ∈ (recibir conn datos).2, e.Bueno := by
  apply on_recv_data_inv
  cases h with
  | espera hlen hendpoint hnum hcota =>
    refine .espera hlen hendpoint ?_ ?_
    · dsimp only
      rw [hnum, List.length_append]
      push_cast
      rfl
    · dsimp only
      rw [List.length_append]
      exact Nat.add_le_add hcota hdatos
  | abierta hlen hendpoint haceptada hcl hnum =>
    refine .abierta hlen hendpoint haceptada hcl fun hweb => ?_
    dsimp only
    rw [hnum hweb, List.length_append]
    push_cast
    omega

theorem pasar_inv (conn : Option Connection) (e : Evento) (h : ∀ c ∈ conn, c.Inv MAX_REQUEST_SIZE) :
    (∀ c ∈ (pasar conn e).1, c.Inv MAX_REQUEST_SIZE) ∧ ∀ o ∈ (pasar conn e).2, o.Bueno := by
  cases conn with
  | none => exact ⟨h, fun o ho => absurd ho List.not_mem_nil⟩
  | some c =>
    have hc := h c rfl
    cases e with
    | NS_RECV trozo =>
      obtain ⟨hinv, hbueno⟩ := recibir_inv trozo.cabe hc
      exact ⟨by rintro _ ⟨⟩; exact hinv, hbueno⟩
    | fin =>
      refine ⟨?_, fun o ho => absurd ho List.not_mem_nil⟩
      rintro _ ⟨⟩
      cases hc with
      | espera hlen hendpoint hnum hcota => exact .espera hlen hendpoint hnum hcota
      | abierta hlen hendpoint haceptada hcl hnum => exact .abierta hlen hendpoint haceptada hcl hnum
    | NS_POLL inactiva vaciado =>
      refine ⟨fun c' hc' => ?_, fun o ho => ?_⟩
      · dsimp only [pasar] at hc'
        split at hc'
        · cases hc'
        · cases hc'
          exact hc
      · dsimp only [pasar, ping_idle_websocket_connection] at ho
        split_ifs at ho
        · rw [List.mem_singleton.mp ho]
          trivial
        · exact absurd ho List.not_mem_nil
        · exact absurd ho List.not_mem_nil

/-- **What reaches the event handler** on a connection, whatever happens to it. -/
theorem atendible_of_eventos (es : List Evento) (m : MgConnection)
    (hm : .MG_REQUEST m ∈ (Maquinas.correr pasar (some (libre false)) es).2) : Atendible m :=
  (Maquinas.correr_invariante pasar_inv (by rintro _ ⟨⟩; exact inv_libre _ _) es).2 _ hm

/-- **No path climbs**: in a path that reaches the event handler no slash is followed by another one, by a dot alone or by
two dots alone, however they were encoded; only at its very end a dot alone may follow one. What is not a path is a `*`, an
absolute URI or a host with a port. -/
theorem ruta_sin_ascensos {es : List Evento} {m : MgConnection}
    (hm : .MG_REQUEST m ∈ (Maquinas.correr pasar (some (libre false)) es).2) :
    (m.uri.head? ≠ some 0x2f ∧
      (m.uri = bytes "*" ∨ mg_strncasecmp m.uri (bytes "http") 4 = 0 ∨ hostPort m.uri = true)) ∨
    (m.uri.head? = some 0x2f ∧
      ∀ pre seg post c, barra c = true → m.uri = pre ++ c :: (seg ++ post) → (∀ d ∈ post.head?, barra d = true) →
        seg ≠ bytes ".." ∧ (post ≠ [] → seg ≠ [] ∧ seg ≠ bytes ".")) := by
  have hatendible := atendible_of_eventos es m hm
  by_cases hruta : m.uri.head? = some 0x2f
  · refine .inr ⟨hruta, fun pre seg post c hc huri hpost => ?_⟩
    exact (hatendible.limpia (.inl hruta)).segmento hc huri hpost
  · refine .inl ⟨hruta, ?_⟩
    have hvalida := hatendible.uri
    simp only [is_valid_uri, Bool.or_eq_true, beq_iff_eq] at hvalida
    tauto

/-- The request that is left of one that tries to climb with its dots encoded. -/
def codificada : MgConnection where
  request_method := bytes "GET"
  uri := bytes "/a/b"
  http_version := bytes "1.1"

def eventosCodificada : List Evento :=
  [.NS_RECV ⟨bytes "GET /a/%2e./", by decide, by decide⟩, .NS_RECV ⟨bytes "/b HTTP/1.1\r\n\r\n", by decide, by decide⟩]

theorem ruta_sin_ascensos_codificada :
    .MG_REQUEST codificada ∈ (Maquinas.correr pasar (some (libre false)) eventosCodificada).2 ∧
    bytes "a" ≠ bytes ".." ∧ (bytes "/b" ≠ [] → bytes "a" ≠ [] ∧ bytes "a" ≠ bytes ".") := by
  have hm : .MG_REQUEST codificada ∈ (Maquinas.correr pasar (some (libre false)) eventosCodificada).2 := by decide
  refine ⟨hm, ?_⟩
  obtain ⟨hno, -⟩ | ⟨-, hsegmento⟩ := ruta_sin_ascensos hm
  · exact absurd rfl hno
  · exact hsegmento [] (bytes "a") (bytes "/b") 0x2f (by decide) (by decide) (by rintro _ ⟨⟩; rfl)

end MensajeroX.Mongoose
