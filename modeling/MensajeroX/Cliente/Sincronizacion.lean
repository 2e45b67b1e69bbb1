import MensajeroX.Cliente.Service
import MensajeroX.Lib.Replica
import MensajeroX.Servidor.Rutas

/-!
# Polling a conversation

The client polls the server for the messages of a conversation, while the conversation grows. A poll sends the id of a
latest message by date; its response is computed later, on the store of that moment, and merged later still, if it
ever arrives. Polls overlap. The log of a conversation is `bitacora`, the messages with which it loads.

* `ChatActivity.done` : the callback that merges a response;
* `Sondeo.Paso` : the steps of the server, of the client and of the network;
* `Sondeo.alcanzable_replica` : **the system refines a log and its copy** (`Replica`);
* `sincronizacion_mensajes` : **the table of the client is a beginning of the log**, and a response brings it to the
  length that the log had.
-/

namespace MensajeroX.Cliente
open Bytes JsonCpp Servicio Efectos

/-- The callback of `getMessageFromService`; `currentMessages` is read once, before the loop. -/
def ChatActivity.done (conversationId : Cadena) (db : DbHelper) (list : Option (List Message)) : DbHelper :=
  match list with
  | none => db
  | some list =>
    let currentMessages := db.getMessagesByConversationId conversationId
    list.foldl (fun db m => if currentMessages.any (·.messageId = m.messageId) then db else db.insertMessage m) db

/-- The rows of the conversation after a merge: those that are new are appended. -/
theorem ChatActivity.getMessages_done {k : Cadena} (db : DbHelper) {list : List Message}
    (hlist : ∀ m ∈ list, m.conversationId = k) :
    (done k db (some list)).getMessagesByConversationId k =
      Replica.fusionar Message.messageId (db.getMessagesByConversationId k) list := by
  refine Replica.fusionar_foldl Message.messageId (·.getMessagesByConversationId k) (fun db m hm => ?_) db
  rw [DbHelper.getMessages_insertMessage, if_pos (hlist m hm)]

/-! ## The server -/

/-- What a poll asks for; the empty text asks for everything. -/
def pedido (id : Cadena) : Option Cadena := if id = [] then none else some id

theorem map_mensajesDesde (k id : Cadena) (ms : List Mensaje) :
    (mensajesDesde id false ms).map (Message.deMensaje k) =
      Replica.desde Message.messageId (some id) (ms.map (Message.deMensaje k)) := by
  induction ms with
  | nil => rfl
  | cons m ms ih =>
    have hid : (Message.deMensaje k m).messageId = m.id := rfl
    rw [mensajesDesde, List.map_cons, Replica.desde]
    by_cases h : m.id = id
    · rw [List.dropWhile_cons_of_neg (by rw [hid, h]; simp), List.tail_cons, h, beq_self_eq_true, mensajesDesde_true]
    · rw [List.dropWhile_cons_of_pos (by rw [hid]; simpa using h), beq_false_of_ne h, ih, Replica.desde]

section Servidor
variable [Aritmetica] [OrgJson]

omit [OrgJson] in
/-- The responses to a poll, from what loading the conversation gives. -/
theorem salidas_pide {lugares : Value} {d : Cadena → Option Cadena} {p : Peticion} {k : Cadena} (hp : p.Pide k) :
    (Servidor.atender lugares { datos := d } p).salidas =
      match (Conversacion.obtener k).run (.sano d []) with
      | .error _ _ => []
      | .ok c _ =>
        if c.getId ≠ keyIdConversacionNoEncontrada then
          [respuesta (mensajesJson (if getParametro p keyIdUltimoMensaje keyDefault ≠ [] then
            mensajesDesde (getParametro p keyIdUltimoMensaje keyDefault) false c.mensajes else c.mensajes)).toStyledString true]
        else [respuesta (0x4c :: (bytes "a conversacion " ++ k ++ bytes " no se encuentra en el sistema")) false] := by
  have hlee := lee_obtener d [] k
  have hatender : Servidor.atender lugares { datos := d } p =
      final ((Servicio.obtenerConversacion p).run (.sano d [])) := by
    rw [Servidor.atender, Servidor.administrarServicio, hp.1]
  have hid : (getParametroIdMetodoGET p urlBaseConversacion).run (.sano d []) = .ok k (.sano d []) := by
    rw [getParametroIdMetodoGET, hp.2]
    rfl
  rw [hatender, Servicio.obtenerConversacion, bind_ok hid]
  rw [Lee] at hlee
  cases hcargar : (Conversacion.obtener k).run (.sano d []) with
  | error e s =>
    rw [hcargar, final_error] at hlee
    rw [bind_error hcargar, final_error, hlee]
  | ok c s =>
    rw [hcargar, final_ok] at hlee
    rw [bind_ok hcargar, hlee]
    dsimp only
    split
    · rfl
    · rfl

/-- **What the client reads of a response**: the messages of the log after the one that the poll named. -/
theorem doInBackground_salidas {lugares : Value} {d : Cadena → Option Cadena} {p : Peticion} {k texto : Cadena}
    (hp : p.Pide k) (htexto : texto ∈ (Servidor.atender lugares { datos := d } p).salidas) :
    FetchNewMessage.doInBackground k (some texto) =
      .ok (some (Replica.desde Message.messageId (pedido (getParametro p keyIdUltimoMensaje keyDefault))
        ((bitacora d k).map (Message.deMensaje k)))) := by
  rw [salidas_pide hp] at htexto
  rw [bitacora]
  cases hcargar : (Conversacion.obtener k).run (.sano d []) with
  | error e s =>
    rw [hcargar] at htexto
    cases htexto
  | ok c s =>
    rw [hcargar] at htexto
    dsimp only at htexto ⊢
    by_cases hc : c.getId ≠ keyIdConversacionNoEncontrada
    · rw [if_pos hc] at htexto ⊢
      rw [List.mem_singleton.mp htexto, FetchNewMessage.doInBackground_respuesta k (esRespuesta_respuesta _ _), pedido]
      by_cases hultimo : getParametro p keyIdUltimoMensaje keyDefault = []
      · rw [if_neg (not_not.mpr hultimo), if_pos hultimo]
        rfl
      · rw [if_pos hultimo, if_neg hultimo, map_mensajesDesde]
    · rw [if_neg hc] at htexto ⊢
      rw [List.mem_singleton.mp htexto, FetchNewMessage.doInBackground_letra k (by decide), pedido]
      split <;> rfl

omit [OrgJson] in
theorem salidas_pide_todos {lugares : Value} {d : Cadena → Option Cadena} {p : Peticion} {k : Cadena} (hp : p.Pide k)
    (hultimo : getParametro p keyIdUltimoMensaje keyDefault = []) (hne : bitacora d k ≠ []) :
    (Servidor.atender lugares { datos := d } p).salidas =
      [respuesta (mensajesJson (bitacora d k)).toStyledString true] := by
  rw [salidas_pide hp]
  rw [bitacora] at hne ⊢
  cases hcargar : (Conversacion.obtener k).run (.sano d []) with
  | error e s =>
    rw [hcargar] at hne
    exact absurd rfl hne
  | ok c s =>
    rw [hcargar] at hne
    dsimp only at hne ⊢
    by_cases hc : c.getId ≠ keyIdConversacionNoEncontrada
    · rw [if_pos hc, if_pos hc, if_neg (not_not.mpr hultimo)]
    · rw [if_neg hc] at hne
      exact absurd rfl hne

end Servidor

/-! ## The system -/

namespace Sondeo

/-- A response on its way, with the length that the log had when it was computed. -/
structure Respuesta where
  largo : Nat
  texto : Cadena

/-- The store of the server, the tables of the client, and what was ever sent: a request or a response may be served
or merged at any later time, in any order, or never. -/
structure Sistema where
  datos : Cadena → Option Cadena := RocksDB.vacia.datos
  cliente : DbHelper := {}
  pedidos : List Cadena := []
  respuestas : List Respuesta := []

variable [Aritmetica] [OrgJson] (lugares : Value) (k : Cadena)

inductive Paso : Sistema → Sistema → Prop
  /-- The server appends a message with a new id. -/
  | agregar {s : Sistema} {d : Cadena → Option Cadena} {m : Mensaje} (hlog : bitacora d k = bitacora s.datos k ++ [m])
      (hid : m.id ≠ []) (hnuevo : m.id ∉ (bitacora s.datos k).map Mensaje.id) : Paso s { s with datos := d }
  /-- The server does anything else. -/
  | servir {s : Sistema} {d : Cadena → Option Cadena} (hlog : bitacora d k = bitacora s.datos k) :
    Paso s { s with datos := d }
  /-- `lookForNewMessage`. -/
  | sondear {s : Sistema} {id : Cadena} (hid : s.cliente.EsUltimo k id) : Paso s { s with pedidos := id :: s.pedidos }
  /-- `obtenerConversacion` computes the response to a request. -/
  | responder {s : Sistema} {p : Peticion} {texto : Cadena} (hp : p.Pide k)
      (hid : getParametro p keyIdUltimoMensaje keyDefault ∈ s.pedidos)
      (htexto : texto ∈ (Servidor.atender lugares { datos := s.datos } p).salidas) :
    Paso s { s with respuestas := ⟨(bitacora s.datos k).length, texto⟩ :: s.respuestas }
  /-- The callback merges a response. -/
  | recibir {s : Sistema} {r : Respuesta} {list : Option (List Message)} (hr : r ∈ s.respuestas)
      (hlist : FetchNewMessage.doInBackground k (some r.texto) = .ok list) :
    Paso s { s with cliente := ChatActivity.done k s.cliente list }
  /-- The client does anything with its other rows. -/
  | otra {s : Sistema} {db : DbHelper} (h : db.getMessagesByConversationId k = s.cliente.getMessagesByConversationId k) :
    Paso s { s with cliente := db }

/-- The states that the system reaches from empty tables. -/
def Alcanzable (s : Sistema) : Prop := Relation.ReflTransGen (Paso lugares k) {} s

def leido (r : Respuesta) : List Message :=
  match FetchNewMessage.doInBackground k (some r.texto) with
  | .ok (some list) => list
  | _ => []

def Sistema.replica (s : Sistema) : Replica.Estado Message Cadena where
  log := (bitacora s.datos k).map (Message.deMensaje k)
  copia := s.cliente.getMessagesByConversationId k
  pedidos := s.pedidos.map pedido
  respuestas := s.respuestas.map fun r => ⟨r.largo, leido k r⟩

/-- What holds in every state besides what the log and its copy keep. -/
structure Inv (s : Sistema) : Prop where
  alcanzable : Replica.Alcanzable Message.messageId (s.replica k)
  ids : ∀ m ∈ bitacora s.datos k, m.id ≠ []
  legibles : ∀ r ∈ s.respuestas,
    FetchNewMessage.doInBackground k (some r.texto) = .ok (some (leido k r)) ∧ ∀ m ∈ leido k r, m.conversationId = k

variable {lugares k} {s s' : Sistema}

omit [Aritmetica] [OrgJson] in
theorem map_messageId (ms : List Mensaje) :
    (ms.map (Message.deMensaje k)).map Message.messageId = ms.map Mensaje.id := by
  rw [List.map_map]
  rfl

theorem Inv.messageId_ne_nil (h : Inv k s) {f : Message} (hf : f ∈ s.cliente.getMessagesByConversationId k) :
    f.messageId ≠ [] := by
  have hlog : f ∈ (bitacora s.datos k).map (Message.deMensaje k) :=
    (Replica.inv_of_alcanzable h.alcanzable).copia.subset hf
  obtain ⟨m, hm, rfl⟩ := List.mem_map.mp hlog
  exact h.ids m hm

theorem leido_responder {d : Cadena → Option Cadena} {p : Peticion} {texto : Cadena} (hp : p.Pide k)
    (htexto : texto ∈ (Servidor.atender lugares { datos := d } p).salidas) (n : Nat) :
    leido k ⟨n, texto⟩ = Replica.desde Message.messageId (pedido (getParametro p keyIdUltimoMensaje keyDefault))
      ((bitacora d k).map (Message.deMensaje k)) := by
  rw [leido, doInBackground_salidas hp htexto]

omit [Aritmetica] [OrgJson] in
theorem conversationId_desde {c : Option Cadena} {ms : List Mensaje} {m : Message}
    (hm : m ∈ Replica.desde Message.messageId c (ms.map (Message.deMensaje k))) : m.conversationId = k := by
  have hmem : m ∈ ms.map (Message.deMensaje k) := by
    cases c with
    | none => exact hm
    | some c => exact List.dropWhile_subset _ (List.mem_of_mem_tail hm)
  obtain ⟨m', -, rfl⟩ := List.mem_map.mp hmem
  rfl

/-- **A step of the system is a step of the log and its copy**, or none. -/
theorem Inv.paso_replica (h : Inv k s) (hp : Paso lugares k s s') :
    Replica.Paso Message.messageId (s.replica k) (s'.replica k) ∨ s'.replica k = s.replica k := by
  cases hp with
  | @agregar d m hlog hid hnuevo =>
    have hreplica : Sistema.replica k { s with datos := d } =
        { s.replica k with log := (s.replica k).log ++ [Message.deMensaje k m] } := by
      simp only [Sistema.replica, hlog, List.map_append, List.map_singleton]
    left
    rw [hreplica]
    apply Replica.Paso.agregar
    show m.id ∉ ((bitacora s.datos k).map (Message.deMensaje k)).map Message.messageId
    rwa [map_messageId]
  | servir hlog =>
    right
    simp only [Sistema.replica, hlog]
  | sondear hid =>
    left
    rcases hid with ⟨hvacia, rfl⟩ | ⟨f, hf, rfl, -⟩
    · exact .pedirTodo hvacia
    · have hpedido : pedido f.messageId = some f.messageId := if_neg (h.messageId_ne_nil hf)
      have hpedir : Replica.Paso Message.messageId (s.replica k) _ := .pedir hf
      rw [← hpedido] at hpedir
      exact hpedir
  | @responder p texto hpide hid htexto =>
    left
    have hresponder : Replica.Paso Message.messageId (s.replica k) _ := .responder (List.mem_map_of_mem hid)
    have hlargo : (s.replica k).log.length = (bitacora s.datos k).length := List.length_map _
    rw [hlargo] at hresponder
    show Replica.Paso _ _ { s.replica k with
      respuestas := ⟨_, leido k ⟨(bitacora s.datos k).length, texto⟩⟩ :: (s.replica k).respuestas }
    rw [leido_responder hpide htexto]
    exact hresponder
  | @recibir r list hr hlist =>
    left
    obtain ⟨hleido, hrows⟩ := h.legibles r hr
    rw [hleido] at hlist
    cases hlist
    have hmem : (⟨r.largo, leido k r⟩ : Replica.Respuesta Message) ∈ (s.replica k).respuestas :=
      List.mem_map_of_mem (f := fun r : Respuesta => (⟨r.largo, leido k r⟩ : Replica.Respuesta Message)) hr
    have hrecibir : Replica.Paso Message.messageId (s.replica k) _ := .recibir hmem
    show Replica.Paso _ _ { s.replica k with
      copia := (ChatActivity.done k s.cliente (some (leido k r))).getMessagesByConversationId k }
    rw [ChatActivity.getMessages_done s.cliente hrows]
    exact hrecibir
  | otra hotra =>
    right
    simp only [Sistema.replica, hotra]

theorem Inv.paso_ids (h : Inv k s) (hp : Paso lugares k s s') : ∀ m ∈ bitacora s'.datos k, m.id ≠ [] := by
  cases hp with
  | agregar hlog hid hnuevo =>
    intro m' hm'
    rw [hlog] at hm'
    rcases List.mem_append.mp hm' with hm' | hm'
    · exact h.ids m' hm'
    · rw [List.mem_singleton.mp hm']
      exact hid
  | servir hlog =>
    show ∀ m ∈ bitacora _ k, m.id ≠ []
    rw [hlog]
    exact h.ids
  | sondear | responder | recibir | otra => exact h.ids

theorem Inv.paso_legibles (h : Inv k s) (hp : Paso lugares k s s') : ∀ r ∈ s'.respuestas,
    FetchNewMessage.doInBackground k (some r.texto) = .ok (some (leido k r)) ∧
      ∀ m ∈ leido k r, m.conversationId = k := by
  cases hp with
  | responder hpide hid htexto =>
    intro r hr
    rcases List.mem_cons.mp hr with rfl | hr
    · rw [leido_responder hpide htexto]
      exact ⟨doInBackground_salidas hpide htexto, fun m hm => conversationId_desde hm⟩
    · exact h.legibles r hr
  | agregar | servir | sondear | recibir | otra => exact h.legibles

theorem Inv.paso (h : Inv k s) (hp : Paso lugares k s s') : Inv k s' := by
  refine ⟨?_, h.paso_ids hp, h.paso_legibles hp⟩
  rcases h.paso_replica hp with hpaso | hreplica
  · exact h.alcanzable.tail hpaso
  · rw [hreplica]
    exact h.alcanzable

omit [OrgJson] in
theorem bitacora_vacia (k : Cadena) : bitacora RocksDB.vacia.datos k = [] := rfl

/-- **The system refines a log and its copy.** -/
theorem alcanzable_replica (h : Alcanzable lugares k s) : Inv k s := by
  induction h with
  | refl =>
    refine ⟨.refl, ?_, fun _ hr => by cases hr⟩
    intro m hm
    rw [bitacora_vacia] at hm
    cases hm
  | tail _ hp ih => exact ih.paso hp

end Sondeo

section Sincronizacion
variable [Aritmetica] [OrgJson]

/-- **The rows of a conversation are a beginning of its log**, in the order of insertion, in every state; and after the
callback has merged a response, they have at least the messages that the log had when the response was computed. -/
theorem sincronizacion_mensajes {lugares : Value} {k : Cadena} {s : Sondeo.Sistema} (h : Sondeo.Alcanzable lugares k s) :
    s.cliente.getMessagesByConversationId k <+: (bitacora s.datos k).map (Message.deMensaje k) ∧
    ∀ r ∈ s.respuestas, ∃ list, FetchNewMessage.doInBackground k (some r.texto) = .ok list ∧
      ((bitacora s.datos k).take r.largo).map (Message.deMensaje k) <+:
        (ChatActivity.done k s.cliente list).getMessagesByConversationId k := by
  have hinv := Sondeo.alcanzable_replica h
  have hreplica := Replica.inv_of_alcanzable hinv.alcanzable
  refine ⟨hreplica.copia, fun r hr => ?_⟩
  obtain ⟨hleido, hrows⟩ := hinv.legibles r hr
  refine ⟨_, hleido, ?_⟩
  have hmem : (⟨r.largo, Sondeo.leido k r⟩ : Replica.Respuesta Message) ∈ (s.replica k).respuestas :=
    List.mem_map_of_mem (f := fun r : Sondeo.Respuesta => (⟨r.largo, Sondeo.leido k r⟩ : Replica.Respuesta Message)) hr
  rw [ChatActivity.getMessages_done s.cliente hrows, List.map_take]
  exact hreplica.prefijo_fusionar hmem

end Sincronizacion

section Saludo
attribute [local instance] Aritmetica.nula OrgJson.deJsonCpp

/-- Two users register, and the first writes to the second. -/
def saludo : Cadena → Option Cadena :=
  (Servidor.ejecutar .null .vacia [.registro (bytes "1"), .registro (bytes "2"),
    .envio (bytes "1") (bytes "2") [] (bytes "hola") (bytes "10:00")]).datos

def idSaludo : Cadena := md5 (bytes "1") ++ Conversacion.guion :: md5 (bytes "2")

theorem bitacora_saludo :
    bitacora saludo idSaludo = [Mensaje.nuevo (bytes "hola") (md5 (bytes "1")) (bytes "10:00")] := by decide +kernel

def consultaSaludo : Peticion := .consulta ⟨urlBaseConversacion ++ idSaludo, by decide +kernel⟩

def textoSaludo : Cadena := respuesta (mensajesJson (bitacora saludo idSaludo)).toStyledString true

/-- The message was sent before the response was computed, and the response was merged. -/
def sondeado : Sondeo.Sistema where
  datos := saludo
  cliente := ChatActivity.done idSaludo {} (some ((bitacora saludo idSaludo).map (Message.deMensaje idSaludo)))
  pedidos := [[]]
  respuestas := [⟨1, textoSaludo⟩]

theorem alcanzable_sondeado : Sondeo.Alcanzable .null idSaludo sondeado := by
  have hpide : consultaSaludo.Pide idSaludo := Peticion.pide_par rfl rfl
  have hsondear : Sondeo.Paso .null idSaludo {} { pedidos := [[]] } := .sondear (.inl ⟨rfl, rfl⟩)
  have hagregar : Sondeo.Paso .null idSaludo { pedidos := [[]] } { pedidos := [[]], datos := saludo } := by
    refine .agregar bitacora_saludo ?_ ?_
    · exact md5_ne_nil (md5 (bytes "1") ++ bytes "10:00")
    · exact List.not_mem_nil
  have hresponder : Sondeo.Paso .null idSaludo { pedidos := [[]], datos := saludo }
      { pedidos := [[]], datos := saludo, respuestas := [⟨(bitacora saludo idSaludo).length, textoSaludo⟩] } := by
    have hultimo : getParametro consultaSaludo keyIdUltimoMensaje keyDefault = [] := rfl
    refine .responder hpide (hultimo ▸ List.mem_cons_self) ?_
    rw [salidas_pide_todos hpide hultimo (by rw [bitacora_saludo]; exact List.cons_ne_nil _ _)]
    exact List.mem_cons_self
  have hlargo : (bitacora saludo idSaludo).length = 1 := by
    rw [bitacora_saludo]
    rfl
  rw [hlargo] at hresponder
  have hrecibir : Sondeo.Paso .null idSaludo
      { pedidos := [[]], datos := saludo, respuestas := [⟨1, textoSaludo⟩] } sondeado :=
    .recibir List.mem_cons_self (FetchNewMessage.doInBackground_respuesta _ (esRespuesta_respuesta _ _))
  exact .tail (.tail (.tail (.tail .refl hsondear) hagregar) hresponder) hrecibir

theorem sincronizacion_saludo :
    (sondeado.cliente.getMessagesByConversationId idSaludo).map Message.body = [bytes "hola"] ∧
    sondeado.cliente.getMessagesByConversationId idSaludo <+:
      (bitacora sondeado.datos idSaludo).map (Message.deMensaje idSaludo) := by
  refine ⟨?_, (sincronizacion_mensajes alcanzable_sondeado).1⟩
  rw [sondeado, bitacora_saludo]
  decide +kernel

end Saludo

end MensajeroX.Cliente
