import MensajeroX.Cliente.Service
import MensajeroX.Lib.Inventario
import MensajeroX.Propiedades.Respuestas

/-!
# Polling the list of conversations

The client polls the server for the conversations of its user. A poll sends the ids of its table; the response is
computed later, on the store of that moment, and has the conversations that are not among these ids; and the callback
inserts those whose ids are not in the table then. Polls overlap.

* `ConversationsListActivity.done` : the callback that merges a response;
* `Listado.Paso` : the steps of the server, of the client and of the network;
* `Listado.alcanzable_inventario` : **the system refines a growing set and its copy** (`Inventario`);
* `sincronizacion_conversaciones` : **the table of the client has conversations of the user, each once**, and a
  response brings all those that the server had.
-/

namespace MensajeroX
open Bytes JsonCpp BaseDeDatos Efectos Servicio

/-! ## The conversations of a user -/

/-- The conversation `k` is stored, and `u` is one of the users that its text names. -/
def RocksDB.EsDe [LibC] (db : RocksDB) (u k : Cadena) : Prop :=
  ∃ v conversacion idsUsuarios, db.datos (claveBaseConversacion ++ k) = some v ∧ parse v = .ok (true, conversacion) ∧
    conversacion.getString keyIdsUsuarios keyDefault = .ok idsUsuarios ∧
    u ∈ StringUtil.split idsUsuarios SeparadorListaBD

theorem Representa.esDe_iff [LibC] {C : Central} {d : Cadena → Option Cadena} (h : Representa C d) {u k : Cadena} :
    RocksDB.EsDe { datos := d } u k ↔ ∃ c ∈ C.chats, c.id = k ∧ c.Participa u := by
  have hids : ∀ c ∈ C.chats, StringUtil.split (Separated.joinLoop SeparadorListaBD [c.a, c.b]) SeparadorListaBD =
      [c.a, c.b] := by
    intro c hc
    obtain ⟨ha, hb⟩ := C.participantes c hc
    apply Separated.split_joinLoop
    · simpa using ⟨separador_not_mem ha, separador_not_mem hb⟩
    · simpa using ⟨ne_nil_of_isSome ha, ne_nil_of_isSome hb⟩
  constructor
  · rintro ⟨v, conversacion, idsUsuarios, hv, hparse, hus, hu⟩
    replace hv : d (claveBaseConversacion ++ k) = some v := hv
    rw [h.chats, Option.map_eq_some_iff] at hv
    obtain ⟨c, hc, rfl⟩ := hv
    obtain ⟨hmem, rfl⟩ := Central.buscar_eq_some_iff.mp hc
    rw [Chat.texto, Conversacion.parse_texto] at hparse
    obtain rfl := (Prod.mk.inj (Except.ok.inj hparse)).2
    obtain rfl := Except.ok.inj hus
    rw [hids c hmem] at hu
    exact ⟨c, hmem, rfl, by simpa [Chat.Participa, eq_comm] using hu⟩
  · rintro ⟨c, hmem, rfl, hu⟩
    refine ⟨c.texto, _, _, ?_, Conversacion.parse_texto _ _ _, rfl, ?_⟩
    · show d _ = _
      rw [h.chats, Central.buscar_eq_some_iff.mpr ⟨hmem, rfl⟩]
      rfl
    · rw [hids c hmem]
      simpa [Chat.Participa, eq_comm] using hu

theorem Central.chats_entregar [LibC] {C : Central} {c : Chat} (hc : c ∈ C.chats) (x y : Cadena) (m : Mensaje) :
    ∃ c' ∈ (final (C.entregar x y m)).chats, c'.a = c.a ∧ c'.b = c.b := by
  unfold entregar
  split
  · rw [final_ok, conChat]
    dsimp only
    split
    · exact ⟨c, List.mem_append_left _ hc, rfl, rfl⟩
    · exact ⟨c, hc, rfl, rfl⟩
  · unfold agregar
    split
    · exact ⟨_, List.mem_map_of_mem hc, escribir_a .., escribir_b ..⟩
    · exact ⟨c, hc, rfl, rfl⟩

/-- **The conversations of a user only grow.** -/
theorem esDe_append [Aritmetica] (lugares : Value) (ps : List Peticion) (p : Peticion) {u k : Cadena}
    (h : (Servidor.ejecutar lugares .vacia ps).EsDe u k) :
    (Servidor.ejecutar lugares .vacia (ps ++ [p])).EsDe u k := by
  obtain ⟨d, hdb, hrep⟩ := ejecutar_vacia lugares ps
  obtain ⟨d', hdb', hrep'⟩ := ejecutar_vacia lugares (ps ++ [p])
  rw [hdb, hrep.esDe_iff] at h
  rw [hdb', hrep'.esDe_iff, Central.ejecutar_append]
  obtain ⟨c, hc, rfl, hu⟩ := h
  obtain ⟨c', hc', ha, hb⟩ := Central.atender_induccion (p := p)
    (P := fun C => ∃ c' ∈ C.chats, c'.a = c.a ∧ c'.b = c.b) (fun _ _ h => h)
    (fun C r ⟨c', hc', ha, hb⟩ _ _ _ => by
      obtain ⟨c'', hc'', ha', hb'⟩ := Central.chats_entregar hc' p.emisor r p.mensaje
      exact ⟨c'', hc'', ha'.trans ha, hb'.trans hb⟩)
    ⟨c, hc, rfl, rfl⟩ lugares
  refine ⟨c', hc', ?_, ?_⟩
  · rw [Chat.id, ha, hb]
    rfl
  · rwa [Chat.Participa, ha, hb]

theorem map_fst_leidos [LibC] {cs : List Chat} {qs : List (Chat × List Mensaje)} (h : cs.mapM Chat.leido = .ok qs) :
    qs.map Prod.fst = cs := by
  rw [mapM_eq_ok_iff] at h
  induction h with
  | nil => rfl
  | cons hx _ ih =>
    rw [List.map_cons, ih]
    congr 1
    unfold Chat.leido at hx
    cases hms : Conversacion.recargar _ with
    | error e =>
      rw [hms] at hx
      cases hx
    | ok ms =>
      rw [hms] at hx
      cases hx
      rfl

namespace Cliente
open Replica (fusionar)

/-! ## The client -/

/-- The callback of `getConversationsFromService`; `currentConversations` is read once, before the loop. -/
def ConversationsListActivity.done (db : DbHelper) (conversations : List Conversation) : DbHelper :=
  let currentConversations := db.getConversations
  conversations.foldl (fun db c =>
    if currentConversations.any (·.conversationId = c.conversationId) then db else db.insertConversation c) db

theorem ConversationsListActivity.getConversations_done (db : DbHelper) (list : List Conversation) :
    (done db list).getConversations = fusionar Conversation.conversationId db.getConversations list :=
  Replica.fusionar_foldl Conversation.conversationId DbHelper.getConversations (fun _ _ _ => rfl) db

/-! ## The server -/

section Servidor
variable [Aritmetica] [OrgJson] {lugares : Value}

/-- The request of a poll: the conversations of the user with the telephone that are not among the ids. -/
structure PideConversaciones (telefono : Cadena) (ids : List Cadena) (p : Peticion) : Prop where
  ruta : Servidor.parsearURI p = .obtenerConversaciones
  telefono : idMetodoGET p urlBaseUsuarioConversaciones = .ok telefono
  ids : getParametro p keyIdConversaciones keyDefault = OrgJson.JSONArray ids

/-- The rows that the client reads of the loaded conversations of a user. -/
theorem doInBackground_leidos {C : Central} {u : Cadena} {ids : List Cadena} {qs : List (Chat × List Mensaje)}
    (hqs : C.leidos u ids = .ok qs) :
    ∃ list, FetchConversations.doInBackground
        (some (respuesta (arreglo (bytes "conversaciones") (qs.map (C.entrada u))).toStyledString true)) = .ok list ∧
      list.map Conversation.conversationId =
        (C.chats.filter fun c => c.Participa u ∧ c.id ∉ ids).map Chat.id := by
  have hentradas : qs.map (C.entrada u) = (qs.map fun q => (q.1.id, q.2.getLastD {}, C.usuario (q.1.otro u))).map
      fun x => entradaJson x.1 x.2.1 x.2.2 := by
    rw [List.map_map]
    rfl
  rw [hentradas]
  refine ⟨_, FetchConversations.doInBackground_respuesta _ true, ?_⟩
  rw [← map_fst_leidos hqs, List.map_map, List.map_map, List.map_map]
  rfl

/-- The ids that the client reads of a response, in the order of the central. -/
theorem doInBackground_ejecutar (ps : List Peticion) {telefono texto : Cadena} {ids : List Cadena} {p : Peticion}
    (hp : PideConversaciones telefono ids p)
    (htexto : texto ∈ (Servidor.atender lugares (Servidor.ejecutar lugares .vacia ps) p).salidas) :
    ∃ list, FetchConversations.doInBackground (some texto) = .ok list ∧
      list.map Conversation.conversationId = ((Central.vacia.ejecutar lugares ps).chats.filter fun c =>
        c.Participa (md5 telefono) ∧ c.id ∉ ids).map Chat.id := by
  rw [salidas_ejecutar] at htexto
  generalize Central.vacia.ejecutar lugares ps = C at htexto ⊢
  simp only [Central.atender, Central.servir, hp.ruta, Central.obtenerConversaciones,
    FetchConversations.getParametroVector_ids hp.ids, hp.telefono] at htexto
  cases hu : C.usuarios (md5 telefono) with
  | none =>
    rw [hu] at htexto
    cases htexto
  | some u =>
    rw [hu] at htexto
    dsimp only at htexto
    cases hqs : C.leidos u.id ids with
    | error e =>
      rw [hqs] at htexto
      cases htexto
    | ok qs =>
      rw [hqs] at htexto
      have hid : u.id = md5 telefono := C.claves _ _ hu
      rw [hid] at hqs htexto
      obtain ⟨list, hlist, hmap⟩ := doInBackground_leidos hqs
      exact ⟨list, by rw [List.mem_singleton.mp htexto, hlist], hmap⟩

/-- **What the client reads of a response**: the conversations of the user that are not among the ids of the poll, each
once. -/
theorem doInBackground_listado (ps : List Peticion) {telefono texto : Cadena} {ids : List Cadena} {p : Peticion}
    (hp : PideConversaciones telefono ids p)
    (htexto : texto ∈ (Servidor.atender lugares (Servidor.ejecutar lugares .vacia ps) p).salidas) :
    ∃ list, FetchConversations.doInBackground (some texto) = .ok list ∧
      (list.map Conversation.conversationId).Nodup ∧
      ∀ k, k ∈ list.map Conversation.conversationId ↔
        (Servidor.ejecutar lugares .vacia ps).EsDe (md5 telefono) k ∧ k ∉ ids := by
  obtain ⟨list, hlist, hmap⟩ := doInBackground_ejecutar ps hp htexto
  obtain ⟨d, hdb, h⟩ := ejecutar_vacia lugares ps
  refine ⟨list, hlist, ?_, fun k => ?_⟩
  · rw [hmap]
    exact (Central.nodup_ids _).sublist (List.filter_sublist.map _)
  · rw [hmap, hdb, h.esDe_iff]
    simp only [List.mem_map, List.mem_filter, decide_eq_true_eq]
    constructor
    · rintro ⟨c, ⟨hc, hp, hno⟩, rfl⟩
      exact ⟨⟨c, hc, rfl, hp⟩, hno⟩
    · rintro ⟨⟨c, hc, rfl, hp⟩, hno⟩
      exact ⟨c, ⟨hc, hp, hno⟩, rfl⟩

end Servidor

/-! ## The system -/

namespace Listado

/-- A response on its way, with the requests that the server had served when it was computed. -/
structure Respuesta where
  peticiones : List Peticion
  texto : Cadena

/-- The requests that the server has served, the tables of the client, and what was ever sent: a poll or a response may
be served or merged at any later time, in any order, or never. -/
structure Sistema where
  peticiones : List Peticion := []
  cliente : DbHelper := {}
  pedidos : List (List Cadena) := []
  respuestas : List Respuesta := []

variable [Aritmetica] [OrgJson] (lugares : Value) (telefono : Cadena)

/-- The conversations of the user on a server that has served the requests. -/
def conversaciones (peticiones : List Peticion) : Set Cadena :=
  {k | (Servidor.ejecutar lugares .vacia peticiones).EsDe (md5 telefono) k}

inductive Paso : Sistema → Sistema → Prop
  /-- The server serves a request, of anyone. -/
  | servir {s : Sistema} (p : Peticion) : Paso s { s with peticiones := s.peticiones ++ [p] }
  /-- `getConversationsFromService`; a poll that reads the table while a merge is under way gets its first rows. -/
  | sondear {s : Sistema} {ids : List Cadena} (hids : ids <+: s.cliente.getConversationIds) :
    Paso s { s with pedidos := ids :: s.pedidos }
  /-- `obtenerConversaciones` computes the response to a poll. -/
  | responder {s : Sistema} {ids : List Cadena} {p : Peticion} {texto : Cadena} (hids : ids ∈ s.pedidos)
      (hp : PideConversaciones telefono ids p)
      (htexto : texto ∈ (Servidor.atender lugares (Servidor.ejecutar lugares .vacia s.peticiones) p).salidas) :
    Paso s { s with respuestas := ⟨s.peticiones, texto⟩ :: s.respuestas }
  /-- The callback merges a response. -/
  | recibir {s : Sistema} {r : Respuesta} {list : List Conversation} (hr : r ∈ s.respuestas)
      (hlist : FetchConversations.doInBackground (some r.texto) = .ok list) :
    Paso s { s with cliente := ConversationsListActivity.done s.cliente list }
  /-- The client does anything with its other tables. -/
  | otra {s : Sistema} {db : DbHelper} (h : db.getConversations = s.cliente.getConversations) :
    Paso s { s with cliente := db }

/-- The states that the system reaches from an empty store and empty tables. -/
def Alcanzable (s : Sistema) : Prop := Relation.ReflTransGen (Paso lugares telefono) {} s

def leido (r : Respuesta) : List Conversation :=
  match FetchConversations.doInBackground (some r.texto) with
  | .ok list => list
  | .error _ => []

def Sistema.inventario (s : Sistema) : Inventario.Estado Conversation Cadena where
  conjunto := conversaciones lugares telefono s.peticiones
  copia := s.cliente.getConversations
  pedidos := s.pedidos
  respuestas := s.respuestas.map fun r => ⟨conversaciones lugares telefono r.peticiones, leido r⟩

/-- The system follows the set and its copy, and every response is readable. -/
structure Inv (s : Sistema) : Prop where
  alcanzable : Inventario.Alcanzable Conversation.conversationId (s.inventario lugares telefono)
  legibles : ∀ r ∈ s.respuestas, FetchConversations.doInBackground (some r.texto) = .ok (leido r)

variable {lugares telefono} {s s' : Sistema}

theorem leido_of_ok (ps : List Peticion) {texto : Cadena} {list : List Conversation}
    (h : FetchConversations.doInBackground (some texto) = .ok list) : leido ⟨ps, texto⟩ = list := by
  rw [leido, h]

theorem mem_respuestas_inventario {r : Respuesta} (hr : r ∈ s.respuestas) :
    ⟨conversaciones lugares telefono r.peticiones, leido r⟩ ∈ (s.inventario lugares telefono).respuestas :=
  List.mem_map.mpr ⟨r, hr, rfl⟩

/-- **A step of the system is a step of the set and its copy**, or none. -/
theorem Inv.paso (h : Inv lugares telefono s) (hp : Paso lugares telefono s s') : Inv lugares telefono s' := by
  have hseguir : ∀ {t : Sistema}, Inventario.Paso Conversation.conversationId (s.inventario lugares telefono)
      (t.inventario lugares telefono) →
      Inventario.Alcanzable Conversation.conversationId (t.inventario lugares telefono) :=
    fun hpaso => h.alcanzable.tail hpaso
  cases hp with
  | servir p =>
    refine ⟨hseguir (.crecer ?_), h.legibles⟩
    intro k hk
    exact esDe_append lugares s.peticiones p hk
  | sondear hids => exact ⟨hseguir (.pedir hids), h.legibles⟩
  | @responder ids p texto hids hpide htexto =>
    obtain ⟨list, hlist, hnodup, hfilas⟩ := doInBackground_listado s.peticiones hpide htexto
    have hleido := leido_of_ok s.peticiones hlist
    refine ⟨hseguir ?_, ?_⟩
    · show Inventario.Paso _ _ { s.inventario lugares telefono with
        respuestas := ⟨_, leido ⟨s.peticiones, texto⟩⟩ :: (s.inventario lugares telefono).respuestas }
      rw [hleido]
      exact .responder hids hnodup hfilas
    · intro r hr
      rcases List.mem_cons.mp hr with rfl | hr
      · rw [hleido, hlist]
      · exact h.legibles r hr
  | @recibir r list hr hlist =>
    refine ⟨hseguir ?_, h.legibles⟩
    rw [h.legibles r hr] at hlist
    cases hlist
    show Inventario.Paso _ _ { s.inventario lugares telefono with
      copia := (ConversationsListActivity.done s.cliente (leido r)).getConversations }
    rw [ConversationsListActivity.getConversations_done]
    exact .recibir (mem_respuestas_inventario hr)
  | @otra db hotra =>
    have hinventario : Sistema.inventario lugares telefono { s with cliente := db } = s.inventario lugares telefono := by
      simp only [Sistema.inventario, hotra]
    refine ⟨?_, h.legibles⟩
    rw [hinventario]
    exact h.alcanzable

omit [OrgJson] in
theorem conversaciones_nil : conversaciones lugares telefono [] = ∅ := by
  refine Set.eq_empty_iff_forall_notMem.mpr ?_
  rintro k ⟨v, -, -, hv, -⟩
  cases hv

/-- **The system refines a growing set and its copy.** -/
theorem alcanzable_inventario (h : Alcanzable lugares telefono s) : Inv lugares telefono s := by
  induction h with
  | refl =>
    refine ⟨?_, fun _ hr => by cases hr⟩
    have hvacio : Sistema.inventario lugares telefono {} = {} := by
      rw [Sistema.inventario, conversaciones_nil]
      rfl
    rw [hvacio]
    exact .refl
  | tail _ hp ih => exact ih.paso hp

end Listado

section Sincronizacion
variable [Aritmetica] [OrgJson]

/-- **The table of conversations has no id twice and only ids of conversations of the user**, in every state; and after
the callback has merged a response, it has every conversation of the user that the server had when the response was
computed. -/
theorem sincronizacion_conversaciones {lugares : Value} {telefono : Cadena} {s : Listado.Sistema}
    (h : Listado.Alcanzable lugares telefono s) :
    s.cliente.getConversationIds.Nodup ∧
    (∀ k ∈ s.cliente.getConversationIds, (Servidor.ejecutar lugares .vacia s.peticiones).EsDe (md5 telefono) k) ∧
    ∀ r ∈ s.respuestas, ∃ list, FetchConversations.doInBackground (some r.texto) = .ok list ∧
      ∀ k, (Servidor.ejecutar lugares .vacia r.peticiones).EsDe (md5 telefono) k →
        k ∈ (ConversationsListActivity.done s.cliente list).getConversationIds := by
  have hinv := Listado.alcanzable_inventario h
  have hinventario := Inventario.inv_of_alcanzable hinv.alcanzable
  refine ⟨hinventario.nodup, hinventario.copia, fun r hr => ⟨_, hinv.legibles r hr, fun k hk => ?_⟩⟩
  rw [DbHelper.getConversationIds, ConversationsListActivity.getConversations_done]
  exact hinventario.subset_fusionar (Listado.mem_respuestas_inventario hr) k hk

end Sincronizacion

section Charla
attribute [local instance] Aritmetica.nula OrgJson.deJsonCpp

def sondeoCharla : Peticion :=
  .con Peticion.metodoGET Peticion.uriConversaciones
    [(keyIdConversaciones, textoLista [])]

/-- The response to it, after two users have registered and written to each other. -/
def textoCharla : Cadena :=
  (Servidor.atender .null (Servidor.ejecutar .null .vacia charla) sondeoCharla).salidas.headD []

/-- The response was computed after the messages, and has been merged. -/
def listadoCharla : Listado.Sistema where
  peticiones := charla
  cliente := ConversationsListActivity.done {} (Listado.leido ⟨charla, textoCharla⟩)
  pedidos := [[]]
  respuestas := [⟨charla, textoCharla⟩]

theorem alcanzable_servir (ps : List Peticion) :
    Listado.Alcanzable .null (bytes "1") { peticiones := ps, pedidos := [[]] } := by
  induction ps using List.reverseRecOn with
  | nil => exact .tail .refl (.sondear List.nil_prefix)
  | append_singleton ps p ih => exact ih.tail (.servir p)

theorem pide_sondeoCharla : PideConversaciones (bytes "1") [] sondeoCharla := ⟨rfl, rfl, rfl⟩

theorem textoCharla_mem :
    textoCharla ∈ (Servidor.atender .null (Servidor.ejecutar .null .vacia charla) sondeoCharla).salidas := by
  have hlimpia := Central.limpia_ejecutar (Central.todos_vacia _) charla_limpia .null
  have husuario := almacen_charla.1 _ List.mem_cons_self
  rw [tieneUsuario_ejecutar] at husuario
  have hruta : (Central.vacia.ejecutar .null charla).atender .null sondeoCharla =
      final ((Central.vacia.ejecutar .null charla).obtenerConversaciones sondeoCharla) := by
    simp only [Central.atender, Central.servir, pide_sondeoCharla.ruta]
  have hlargo := (Central.salidas_obtenerConversaciones _ hlimpia sondeoCharla).mpr
    ⟨⟨_, FetchConversations.getParametroVector_ids pide_sondeoCharla.ids⟩, _, pide_sondeoCharla.telefono, husuario⟩
  rw [textoCharla, salidas_ejecutar, hruta]
  obtain ⟨texto, htexto⟩ := List.length_eq_one_iff.mp hlargo
  rw [htexto]
  exact List.mem_cons_self

theorem alcanzable_listadoCharla : Listado.Alcanzable .null (bytes "1") listadoCharla := by
  obtain ⟨list, hlist, -⟩ := doInBackground_ejecutar charla pide_sondeoCharla textoCharla_mem
  have hleido := Listado.leido_of_ok charla hlist
  have hresponder : Listado.Alcanzable .null (bytes "1")
      { peticiones := charla, pedidos := [[]], respuestas := [⟨charla, textoCharla⟩] } :=
    (alcanzable_servir charla).tail (.responder List.mem_cons_self pide_sondeoCharla textoCharla_mem)
  exact hresponder.tail (.recibir List.mem_cons_self (hlist.trans (congrArg _ hleido.symm)))

theorem sincronizacion_charla :
    listadoCharla.cliente.getConversationIds = [md5 (bytes "1") ++ Conversacion.guion :: md5 (bytes "2")] ∧
    listadoCharla.cliente.getConversationIds.Nodup := by
  refine ⟨?_, (sincronizacion_conversaciones alcanzable_listadoCharla).1⟩
  obtain ⟨list, hlist, hmap⟩ := doInBackground_ejecutar charla pide_sondeoCharla textoCharla_mem
  have hids : list.map Conversation.conversationId = [md5 (bytes "1") ++ Conversacion.guion :: md5 (bytes "2")] := by
    rw [hmap]
    decide +kernel
  rw [DbHelper.getConversationIds, listadoCharla, Listado.leido_of_ok charla hlist,
    ConversationsListActivity.getConversations_done, ← hids]
  exact congrArg (List.map Conversation.conversationId) (List.filter_eq_self.mpr fun _ _ => decide_eq_true List.not_mem_nil)

end Charla

end Cliente

end MensajeroX
