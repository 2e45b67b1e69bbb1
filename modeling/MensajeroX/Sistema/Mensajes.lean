import MensajeroX.Cliente.Tareas
import MensajeroX.Propiedades.Sesiones

/-!
# A message from one client to another

The tasks of two clients on one store, over the network: one sends, the other asks for the id of their conversation and
fetches it. In between the server may serve anyone. `printf` prints a message as it is only without a `%`, and a list of
messages is read back only without the separator; such requests and messages are plain.

* `Central.llana_ejecutar` : a run of plain requests keeps plain messages only;
* `porcentaje_arreglo`, `porcentaje_mensajes` : what the payload of a reply has to be free of;
* `Sistema.salidas_enviado` : what the server answers and delivers;
* `Sistema.mensaje_recibido` : **what the receiver gets**, with the message in its place.
-/

namespace MensajeroX
open Bytes JsonCpp BaseDeDatos Efectos Servicio Cliente
open Mongoose (Solicitud)

/-! ## Plain messages -/

/-- The texts that a request sends have neither the separator nor a `%`. -/
structure Peticion.Llana (p : Peticion) : Prop where
  limpia : p.Limpia
  cuerpo : (0x25 : UInt8) ∉ getParametro p keyCuerpo keyDefault
  fecha : (0x25 : UInt8) ∉ getParametro p keyFecha keyDefault

instance (p : Peticion) : Decidable p.Llana :=
  decidable_of_iff (p.Limpia ∧ (0x25 : UInt8) ∉ getParametro p keyCuerpo keyDefault ∧
      (0x25 : UInt8) ∉ getParametro p keyFecha keyDefault)
    ⟨fun h => ⟨h.1, h.2.1, h.2.2⟩, fun h => ⟨h.limpia, h.cuerpo, h.fecha⟩⟩

/-- The fields of a message have neither the separator nor a `%`. -/
structure Mensaje.Llano (m : Mensaje) : Prop where
  separador : m.SinSeparador
  porcentaje : (0x25 : UInt8) ∉ m.cuerpo ∧ (0x25 : UInt8) ∉ m.fecha ∧ (0x25 : UInt8) ∉ m.id ∧
    (0x25 : UInt8) ∉ m.idUsuarioEmisor

theorem Peticion.llana_iff {p : Peticion} : p.Llana ↔ p.mensaje.Llano :=
  ⟨fun hp => ⟨hp.limpia.mensaje, hp.cuerpo, hp.fecha, not_mem_md5 (by decide) _, not_mem_md5 (by decide) _⟩,
    fun hm => ⟨⟨hm.separador.2.1, hm.separador.2.2.2⟩, hm.porcentaje.1, hm.porcentaje.2.1⟩⟩

section Llano
variable [LibC]

theorem recargar_llano (ms ms' : List Mensaje) (h : ∀ m ∈ ms, m.Llano) (hrec : Conversacion.recargar ms = .ok ms') :
    ∀ m ∈ ms', m.Llano := by
  rw [Conversacion.recargar_of_sinSeparador fun m hm => (h m hm).separador] at hrec
  cases hrec
  exact h

theorem porcentaje_serializar {m : Mensaje} (hm : m.Llano) : (0x25 : UInt8) ∉ m.serializar := by
  have hkeys : (0x25 : UInt8) ∉ keyCuerpo ∧ (0x25 : UInt8) ∉ keyFecha ∧ (0x25 : UInt8) ∉ keyId ∧
      (0x25 : UInt8) ∉ keyIdUsuarioEmisor := by decide
  rw [Mensaje.serializar_eq, porcentaje_transparent.mem_toStyledString m.campos_flat]
  simp only [Mensaje.campos, List.mem_cons, List.not_mem_nil, or_false, exists_eq_or_imp, exists_eq_left, leafText, hkeys,
    hm.porcentaje, or_self, not_false_eq_true]

theorem porcentaje_arreglo {name : Cadena} (hnul : (0 : UInt8) ∉ name) (hname : (0x25 : UInt8) ∉ name) {vs : List Value}
    (hread : ∀ v ∈ vs, Readable 2 v) (hvs : ∀ v ∈ vs, Avoids 0x25 2 v) :
    (0x25 : UInt8) ∉ (arreglo name vs).toStyledString := by
  cases vs with
  | nil =>
    rw [show (arreglo name []).toStyledString = bytes "null\n" from rfl]
    decide
  | cons v vs =>
    have hreadable : Readable 4 (.object [(name, .array (v :: vs))]) := by
      refine .inr (.inr ⟨_, rfl, List.cons_ne_nil _ _, List.pairwise_singleton _ _, ?_, ?_⟩)
      · exact List.forall_mem_singleton.mpr hnul
      · exact List.forall_mem_singleton.mpr (.inr (.inl ⟨_, rfl, List.cons_ne_nil _ _, hread⟩))
    refine not_mem_toStyledString porcentaje_transparent (by decide) (by decide) hreadable ?_
    exact List.forall_mem_singleton.mpr ⟨hname, hvs⟩

theorem porcentaje_mensajes {ms : List Mensaje} (h : ∀ m ∈ ms, m.Llano) :
    (0x25 : UInt8) ∉ (mensajesJson ms).toStyledString := by
  refine porcentaje_arreglo (by decide) (by decide) ?_ ?_
  · exact List.forall_mem_map.mpr fun _ _ => .inl trivial
  · exact List.forall_mem_map.mpr fun m hm => porcentaje_serializar (h m hm)

end Llano

theorem Central.llana_ejecutar [Aritmetica] {C : Central} (hC : C.Todos Mensaje.Llano) {ps : List Peticion}
    (hps : ∀ p ∈ ps, p.Llana) (lugares : Value) : (C.ejecutar lugares ps).Todos Mensaje.Llano :=
  todos_ejecutar recargar_llano (fun p hp _ => Peticion.llana_iff.mp (hps p hp)) hC lugares

theorem Central.Todos.limpia {C : Central} (hC : C.Todos Mensaje.Llano) : C.Limpia := fun c hc m hm => (hC c hc m hm).separador

/-! ## Sending and fetching -/

/-- The id of a conversation of two users, as the end of a path. -/
def Cliente.Segmento.par (a b : Cadena) : Segmento where
  val := md5 a ++ Conversacion.guion :: md5 b
  legal := by
    have hbytes : ∀ c : UInt8, IsHex c ∨ c = Conversacion.guion → EsRuta c ∧ Mongoose.barra c = false :=
      forall_byte (by decide)
    intro c hc
    rw [List.mem_append, List.mem_cons] at hc
    exact hbytes c (hc.elim (fun h => .inl (isHex_md5 a h)) fun h => h.elim .inr fun h => .inl (isHex_md5 b h))
  no_sube := by
    intro h
    have := congrArg List.length h
    simp [length_md5] at this

theorem Central.exists_par {C : Central} {c : Chat} (hc : c ∈ C.chats) : ∃ a b, c.id = (Segmento.par a b).val := by
  obtain ⟨ha, hb⟩ := C.participantes c hc
  obtain ⟨x, hx⟩ := exists_md5 ha
  obtain ⟨y, hy⟩ := exists_md5 hb
  exact ⟨x, y, by rw [Chat.id, hx, hy]; rfl⟩

theorem Central.conId_ejecutar [Aritmetica] {C : Central} {a b k : Cadena} (h : C.ConId a b k) (lugares : Value)
    (ps : List Peticion) : (C.ejecutar lugares ps).ConId a b k :=
  ejecutar_induccion (P := fun C => C.ConId a b k) (fun p _ _ h => conId_atender h lugares p) h

namespace Sistema
variable [Aritmetica] [OrgJson] [HttpClient]

/-- The messages after the last one that a client has, all of them when it has none. -/
def nuevos (ultimo : Cadena) (ms : List Mensaje) : List Mensaje :=
  if ultimo ≠ [] then mensajesDesde ultimo false ms else ms

omit [Aritmetica] [OrgJson] [HttpClient] in
theorem mem_of_mem_mensajesDesde {ultimo : Cadena} {ms : List Mensaje} {m : Mensaje} {b : Bool}
    (h : m ∈ mensajesDesde ultimo b ms) : m ∈ ms := by
  induction ms generalizing b with
  | nil => cases b <;> exact h
  | cons m' ms ih =>
    cases b with
    | false => exact List.mem_cons_of_mem _ (ih h)
    | true =>
      rw [mensajesDesde_true] at h
      exact h

omit [Aritmetica] [OrgJson] [HttpClient] in
theorem mem_of_mem_nuevos {ultimo : Cadena} {ms : List Mensaje} {m : Mensaje} (h : m ∈ nuevos ultimo ms) : m ∈ ms := by
  unfold nuevos at h
  split_ifs at h
  · exact mem_of_mem_mensajesDesde h
  · exact h

section Tareas
variable {C : Central} {d : Cadena → Option Cadena} (h : Representa C d) (lugares : Value) {r : Solicitud} (reloj : Reloj)
include h

omit [OrgJson] [HttpClient] in
/-- The server accepts the message of a registered user with their token. -/
theorem salidas_enviado (hC : C.Limpia) {p : Peticion} (hp : Servidor.parsearURI p = .almacenarConversacion)
    {e u : Registrado} (he : C.usuarios p.emisor = some e) (hu : C.usuarios p.receptor = some u)
    (htoken : e.token = getParametro p keyTokenSesion keyDefault) :
    (Servidor.atender lugares { datos := d } p).salidas = [respuesta p.mensaje.id true] ∧
      Servidor.entregados lugares { datos := d } p p.emisor p.receptor = [p.mensaje] := by
  obtain ⟨C', hentregar, -⟩ := Central.mensajes_entregar hC (by rw [he]; rfl) (by rw [hu]; rfl) p.mensaje
  obtain ⟨d', hatender, -⟩ := h.atender lugares p
  refine ⟨?_, h.entregados_envio lugares hp he hu htoken hentregar⟩
  rw [hatender, Central.atender_envio lugares hp he hu htoken, hentregar]
  rfl

theorem leerId_conversacion (hC : C.Limpia) {transmitterId receiverId : Cadena} {c : Chat}
    (hc : C.entre (md5 transmitterId) (md5 receiverId) = some c) (htransmitter : Cabe transmitterId)
    (hreceiver : Cabe receiverId) (hr : (Service.fetchNewConversationId transmitterId receiverId).Ejecuta .GET r) :
    leerId (RestClient.getResponse lugares { datos := d } r reloj) = some c.id := by
  obtain ⟨hmem, hentre⟩ := Central.entre_eq_some_iff.mp hc
  obtain ⟨ha, hb⟩ := C.participantes c hmem
  have hpide := Service.fetchNewConversationId_recibido reloj hr htransmitter hreceiver
  have husuarios : (C.usuarios (md5 transmitterId)).isSome ∧ (C.usuarios (md5 receiverId)).isSome := by
    obtain ⟨ha', hb'⟩ | ⟨ha', hb'⟩ := hentre
    · exact ⟨ha' ▸ ha, hb' ▸ hb⟩
    · exact ⟨hb' ▸ hb, ha' ▸ ha⟩
  obtain ⟨d', hatender, -⟩ := h.atender lugares (peticionDe r.peticion reloj)
  have hsalidas : (Servidor.atender lugares { datos := d } (peticionDe r.peticion reloj)).salidas =
      [respuesta c.id true] := by
    rw [hatender, Central.atender_obtenerId lugares hpide husuarios.1 husuarios.2, hc]
    dsimp only
    rw [Conversacion.recargar_of_sinSeparador (hC c hmem)]
  obtain ⟨x, y, hid⟩ := Central.exists_par hmem
  have hporcentaje : (0x25 : UInt8) ∉ c.id := by
    rw [hid]
    exact fun hmem => ((Segmento.par x y).legal _ hmem).1.2.2.2 rfl
  exact (RestClient.esRespuesta_getResponse hsalidas hporcentaje).leerId

theorem mensajes_conversacion (hC : C.Todos Mensaje.Llano) {c : Chat} (hc : c ∈ C.chats) {k : Segmento}
    (hk : k.val = c.id) {ultimo : Cadena} (hultimo : Cabe ultimo)
    (hr : (Service.fetchNewMessage k ultimo).Ejecuta .GET r) :
    FetchNewMessage.doInBackground k.val (RestClient.getResponse lugares { datos := d } r reloj) =
      .ok (some ((nuevos ultimo c.mensajes).map (Message.deMensaje k.val))) := by
  have hlen : k.val.length = 65 := by
    obtain ⟨ha, hb⟩ := C.participantes c hc
    rw [hk, Chat.id, List.length_append, List.length_cons, Central.length_of_isSome ha, Central.length_of_isSome hb]
  have hne : k.val ≠ [] := by
    intro hnil
    rw [hnil] at hlen
    cases hlen
  obtain ⟨hpide, hparametro⟩ := Service.fetchNewMessage_recibido reloj hr hne (by omega) hultimo
  have hrec := Conversacion.recargar_of_sinSeparador fun m hm => (hC c hc m hm).separador
  obtain ⟨d', hatender, -⟩ := h.atender lugares (peticionDe r.peticion reloj)
  have hsalidas : (Servidor.atender lugares { datos := d } (peticionDe r.peticion reloj)).salidas =
      [respuesta (mensajesJson (nuevos ultimo c.mensajes)).toStyledString true] := by
    rw [hatender, Central.atender_obtenerConversacion hpide (Central.buscar_eq_some_iff.mpr ⟨hc, hk.symm⟩) hrec,
      Central.pedidos, hparametro]
    rfl
  have hporcentaje : (0x25 : UInt8) ∉ (mensajesJson (nuevos ultimo c.mensajes)).toStyledString :=
    porcentaje_mensajes fun m hm => hC c hc m (mem_of_mem_nuevos hm)
  exact FetchNewMessage.doInBackground_respuesta k.val (RestClient.esRespuesta_getResponse hsalidas hporcentaje)

end Tareas

omit [OrgJson] [HttpClient] in
/-- A token is empty or a hash, so it can be sent. -/
theorem cabe_token (lugares : Value) {ps : List Peticion} {k : Cadena} {u : Registrado}
    (hu : (Central.vacia.ejecutar lugares ps).usuarios k = some u) : Cabe u.token := by
  refine ⟨u.token_cstr, ?_⟩
  obtain hvacio | ⟨q, -, -, hmd5⟩ := token_ejecutar lugares ps hu
  · rw [hvacio]
    decide
  · rw [hmd5, length_md5]
    decide

omit [OrgJson] [HttpClient] in
/-- What a pair has written to each other: before a request, what it delivers, and after it. -/
theorem mensajes_tras (lugares : Value) {ps qs : List Peticion} {p : Peticion} (hps : ∀ q ∈ ps ++ p :: qs, q.Limpia)
    (a b : Cadena) :
    (Central.vacia.ejecutar lugares (ps ++ p :: qs)).mensajes a b =
      Servidor.historial lugares .vacia ps a b ++
        (Servidor.entregados lugares (Servidor.ejecutar lugares .vacia ps) p a b ++
          Servidor.historial lugares (Servidor.ejecutar lugares .vacia (ps ++ [p])) qs a b) := by
  obtain ⟨hps, hqs⟩ := List.forall_mem_append.mp hps
  have hC : (Central.vacia.ejecutar lugares ps).Limpia := Central.limpia_ejecutar (Central.todos_vacia _) hps lugares
  have hdespues : Servidor.ejecutar lugares .vacia (ps ++ [p]) =
      (Servidor.atender lugares (Servidor.ejecutar lugares .vacia ps) p).db := List.foldl_concat _ _ _ _
  obtain ⟨d, hdb, h⟩ := ejecutar_vacia lugares ps
  rw [Central.ejecutar_append, h.mensajes_ejecutar hC hqs, Servidor.historial, hdespues, hdb, historial_eq lugares hps]

/-- **What the receiver gets.** The sender gets the id of the message, whatever the server does next the receiver gets the
id of the conversation, and whatever it does after that a fetch brings the history of the two, with the message in its
place. -/
theorem mensaje_recibido (lugares : Value) {ps qs qs' : List Peticion} (hps : ∀ p ∈ ps ++ qs ++ qs', p.Llana)
    {transmitter receiver body date : Cadena} (hcabe : ∀ v ∈ [transmitter, receiver, body, date], Cabe v)
    (hllano : (Mensaje.nuevo body (md5 transmitter) date).Llano)
    (htransmitter : (Servidor.ejecutar lugares .vacia ps).tieneUsuario (md5 transmitter))
    (hreceiver : (Servidor.ejecutar lugares .vacia ps).tieneUsuario (md5 receiver))
    {envio consulta : Solicitud}
    (henvio : (Service.sendNewMessage transmitter receiver body date
      ((Servidor.ejecutar lugares .vacia ps).tokenDe (md5 transmitter))).Ejecuta .POST envio)
    (hconsulta : (Service.fetchNewConversationId receiver transmitter).Ejecuta .GET consulta)
    (reloj reloj' reloj'' : Reloj) :
    let m := Mensaje.nuevo body (md5 transmitter) date
    let p := peticionDe envio.peticion reloj
    leerId (RestClient.getResponse lugares (Servidor.ejecutar lugares .vacia ps) envio reloj) = some m.id ∧
    ∃ k : Segmento,
      leerId (RestClient.getResponse lugares (Servidor.ejecutar lugares .vacia (ps ++ p :: qs)) consulta reloj') =
        some k.val ∧
      ∀ ultimo r, Cabe ultimo → (Service.fetchNewMessage k ultimo).Ejecuta .GET r →
        FetchNewMessage.doInBackground k.val
            (RestClient.getResponse lugares (Servidor.ejecutar lugares .vacia (ps ++ p :: (qs ++ qs'))) r reloj'') =
          .ok (some ((nuevos ultimo (Servidor.historial lugares .vacia ps (md5 transmitter) (md5 receiver) ++ m ::
            Servidor.historial lugares (Servidor.ejecutar lugares .vacia (ps ++ [p])) (qs ++ qs') (md5 transmitter)
              (md5 receiver))).map (Message.deMensaje k.val))) := by
  intro m p
  obtain ⟨d, hdb, h⟩ := ejecutar_vacia lugares ps
  rw [hdb, h.tieneUsuario] at htransmitter hreceiver
  obtain ⟨e, he⟩ := Option.isSome_iff_exists.mp htransmitter
  obtain ⟨u, hu⟩ := Option.isSome_iff_exists.mp hreceiver
  rw [hdb, h.tokenDe he] at henvio
  obtain ⟨htransmitter, hreceiver, hbody, hdate⟩ : Cabe transmitter ∧ Cabe receiver ∧ Cabe body ∧ Cabe date := by
    simpa using hcabe
  obtain ⟨hruta, hemisor, hreceptor, htoken, hmensaje⟩ :=
    Service.sendNewMessage_recibido reloj henvio htransmitter hreceiver hbody hdate (cabe_token lugares he)
  have hp : p.Llana := Peticion.llana_iff.mpr (hmensaje ▸ hllano)
  have hC : (Central.vacia.ejecutar lugares ps).Todos Mensaje.Llano :=
    Central.llana_ejecutar (Central.todos_vacia _) (fun q hq => hps q (by simp [hq])) lugares
  rw [← hemisor] at he
  rw [← hreceptor] at hu
  obtain ⟨hsalidas, hentregados⟩ := salidas_enviado h lugares hC.limpia hruta he hu htoken.symm
  rw [hemisor, hreceptor, hmensaje] at hentregados
  have hqs : ∀ q ∈ qs, q.Llana := fun q hq => hps q (by simp [hq])
  have hqs' : ∀ q ∈ qs ++ qs', q.Llana := fun q hq => hps q (by rw [List.append_assoc]; exact List.mem_append_right _ hq)
  have hllanas : ∀ qs : List Peticion, (∀ q ∈ qs, q.Llana) → ∀ q ∈ ps ++ p :: qs, q.Llana := fun qs hqs =>
    List.forall_mem_append.mpr ⟨fun q hq => hps q (by simp [hq]), List.forall_mem_cons.mpr ⟨hp, hqs⟩⟩
  have hllana : ∀ qs : List Peticion, (∀ q ∈ qs, q.Llana) →
      (Central.vacia.ejecutar lugares (ps ++ p :: qs)).Todos Mensaje.Llano := fun qs hqs =>
    Central.llana_ejecutar (Central.todos_vacia _) (hllanas qs hqs) lugares
  -- what the two have written to each other after the message and more requests
  have hhistoria : ∀ qs : List Peticion, (∀ q ∈ qs, q.Llana) →
      (Central.vacia.ejecutar lugares (ps ++ p :: qs)).mensajes (md5 transmitter) (md5 receiver) =
        Servidor.historial lugares .vacia ps (md5 transmitter) (md5 receiver) ++ m ::
          Servidor.historial lugares (Servidor.ejecutar lugares .vacia (ps ++ [p])) qs (md5 transmitter) (md5 receiver) := by
    intro qs hqs
    rw [mensajes_tras lugares fun q hq => (hllanas qs hqs q hq).limpia, hdb, hentregados]
    rfl
  -- the conversation after the first requests, and the same one later
  obtain ⟨d₂, hdb₂, h₂⟩ := ejecutar_vacia lugares (ps ++ p :: qs)
  obtain ⟨d₃, hdb₃, h₃⟩ := ejecutar_vacia lugares (ps ++ p :: (qs ++ qs'))
  obtain ⟨c, hc⟩ := Option.isSome_iff_exists.mp
    (Central.mensajes_ne_nil_iff.mp (by rw [hhistoria qs hqs]; exact List.append_ne_nil_of_right_ne_nil _ (List.cons_ne_nil _ _)))
  obtain ⟨c', hc', hid⟩ : (Central.vacia.ejecutar lugares (ps ++ p :: (qs ++ qs'))).ConId (md5 transmitter)
      (md5 receiver) c.id := by
    rw [← List.cons_append, ← List.append_assoc, Central.ejecutar_append]
    exact Central.conId_ejecutar ⟨c, hc, rfl⟩ lugares qs'
  obtain ⟨x, y, hpar⟩ := Central.exists_par (Central.entre_eq_some_iff.mp hc).1
  have hmensajes := hhistoria (qs ++ qs') hqs'
  rw [Central.mensajes, hc', Option.map_some, Option.getD_some] at hmensajes
  refine ⟨?_, Segmento.par x y, ?_, fun ultimo r hultimo hr => ?_⟩
  · have hid : (0x25 : UInt8) ∉ p.mensaje.id := not_mem_md5 (by decide) _
    rw [hdb, (RestClient.esRespuesta_getResponse hsalidas hid).leerId, hmensaje]
  · rw [hdb₂, ← hpar]
    refine leerId_conversacion h₂ lugares reloj' (hllana qs hqs).limpia ?_ hreceiver htransmitter hconsulta
    rw [Central.entre_comm, hc]
  · rw [hdb₃, ← hmensajes]
    exact mensajes_conversacion h₃ lugares reloj'' (hllana (qs ++ qs') hqs') (Central.entre_eq_some_iff.mp hc').1
      (hpar.symm.trans hid.symm) hultimo hr

end Sistema

namespace Sistema
attribute [local instance] Aritmetica.nula OrgJson.deJsonCpp HttpClient.simple
open RestClient (ejecuta_solicitud)

/-- The first message of the telephone `1` to the telephone `2`. -/
def primero : Solicitud :=
  (Service.sendNewMessage (bytes "1") (bytes "2") (bytes "hola") (bytes "10:00") []).solicitud .POST (by decide +kernel)
    (by decide +kernel) (by decide +kernel)

def pregunta : Solicitud :=
  (Service.fetchNewConversationId (bytes "2") (bytes "1")).solicitud .GET (by decide +kernel) (by decide +kernel)
    (by decide +kernel)

theorem mensaje_recibido_primero :
    leerId (RestClient.getResponse .null (Servidor.ejecutar .null .vacia desconocidos) primero Red.relojParado) =
      some (md5 (md5 (bytes "1") ++ bytes "10:00")) ∧
    ∃ k : Segmento,
      leerId (RestClient.getResponse .null (Servidor.ejecutar .null .vacia
        (desconocidos ++ [peticionDe primero.peticion Red.relojParado])) pregunta Red.relojParado) = some k.val ∧
      ∀ r, (Service.fetchNewMessage k []).Ejecuta .GET r →
        FetchNewMessage.doInBackground k.val (RestClient.getResponse .null (Servidor.ejecutar .null .vacia
            (desconocidos ++ [peticionDe primero.peticion Red.relojParado])) r Red.relojParado) =
          .ok (some [.deMensaje k.val (.nuevo (bytes "hola") (md5 (bytes "1")) (bytes "10:00"))]) := by
  have hllana : ∀ p ∈ desconocidos ++ [] ++ [], p.Llana := by decide +kernel
  obtain ⟨htoken, huno, hdos⟩ : (Servidor.ejecutar .null .vacia desconocidos).tokenDe (md5 (bytes "1")) = [] ∧
      (Servidor.ejecutar .null .vacia desconocidos).tieneUsuario (md5 (bytes "1")) ∧
      (Servidor.ejecutar .null .vacia desconocidos).tieneUsuario (md5 (bytes "2")) := by
    simp only [tieneUsuario_ejecutar, RocksDB.tokenDe, usuarioDe_ejecutar]
    decide +kernel
  have hhistorial : Servidor.historial .null .vacia desconocidos (md5 (bytes "1")) (md5 (bytes "2")) = [] := by
    rw [historial_eq .null (by decide +kernel)]
    decide +kernel
  have hcabe : ∀ v ∈ [bytes "1", bytes "2", bytes "hola", bytes "10:00"], Cabe v := by decide
  have hllano : (Mensaje.nuevo (bytes "hola") (md5 (bytes "1")) (bytes "10:00")).Llano :=
    ⟨by decide +kernel, by decide +kernel⟩
  have henvio : (Service.sendNewMessage (bytes "1") (bytes "2") (bytes "hola") (bytes "10:00")
      ((Servidor.ejecutar .null .vacia desconocidos).tokenDe (md5 (bytes "1")))).Ejecuta .POST primero := by
    rw [htoken]
    exact ejecuta_solicitud _ _ _ _ _
  have hpregunta : (Service.fetchNewConversationId (bytes "2") (bytes "1")).Ejecuta .GET pregunta :=
    ejecuta_solicitud _ _ _ _ _
  obtain ⟨henviado, k, hk, hrecibido⟩ := mensaje_recibido .null hllana hcabe hllano huno hdos henvio hpregunta
    Red.relojParado Red.relojParado Red.relojParado
  refine ⟨henviado, k, hk, fun r hr => ?_⟩
  have := hrecibido [] r ⟨by decide, by decide⟩ hr
  rw [hhistorial] at this
  exact this

end Sistema

end MensajeroX
