import MensajeroX.Cliente.DbHelper
import MensajeroX.Servidor.Peticion

/-!
# `Service`

The two tasks that poll the server, as far as they read a response. The client reads and writes JSON with `org.json`, of
which only this is used: it reads the documents of the server, whatever stands after them, a text that starts with a letter
is no object, and the server reads the lists that it writes (`OrgJson`). JsonCpp is such a library (`OrgJson.deJsonCpp`).

* `FetchNewMessage.doInBackground_respuesta` : **what the client reads of a reply of `obtenerConversacion`**;
* `FetchConversations.doInBackground_respuesta` : **what it reads of a reply of `obtenerConversaciones`**.

A response that arrives is the text that was handed to the connection.
-/

namespace MensajeroX.Cliente
open Bytes JsonCpp Servicio

/-! ## `org.json` -/

def esLetra (c : UInt8) : Bool := (0x41 ≤ c && c ≤ 0x5a) || (0x61 ≤ c && c ≤ 0x7a)

/-- The JSON library of the client. -/
class OrgJson [LibC] where
  /-- `new JSONObject(texto)`, `none` for a `JSONException`. -/
  JSONObject : Cadena → Option (List (Cadena × Value))
  /-- `String.valueOf` of a value that is not a string. -/
  valueOf : Value → Cadena
  /-- `new JSONArray(list).toString()`. -/
  JSONArray : List Cadena → Cadena
  documento : ∀ ms resto, Readable 4 (.object ms) → JSONObject ((Value.object ms).toStyledString.dropLast ++ resto) = some ms
  palabra : ∀ c cs, esLetra c → JSONObject (c :: cs) = none
  lista : ∀ list, parse (JSONArray list) = .ok (true, .array (list.map .string))

theorem OrgJson.JSONObject_toStyledString [LibC] [OrgJson] {ms : List (Cadena × Value)} (h : Readable 4 (.object ms)) :
    JSONObject (Value.object ms).toStyledString = some ms := by
  have := documento ms [0x0a] h
  rwa [Value.toStyledString, List.dropLast_concat] at this

/-- A text that starts with a letter is no object for JsonCpp either. -/
theorem parse_letra [LibC] {c : UInt8} (hc : esLetra c) (cs : Cadena) (ms : List (Cadena × Value)) :
    parse (c :: cs) ≠ .ok (true, .object ms) := by
  have hbytes : ∀ c : UInt8, esLetra c → isSpace c = false ∧ c ≠ 0x7b ∧ c ≠ 0x7d ∧ c ≠ 0x5b ∧ c ≠ 0x5d ∧ c ≠ 0x22 ∧
      c ≠ 0x2f ∧ ¬ (isDigit c ∨ c = 0x2d) ∧ c ≠ 0x2c ∧ c ≠ 0x3a ∧ c ≠ 0 := forall_byte (by decide)
  obtain ⟨hspace, h₁, h₂, h₃, h₄, h₅, h₆, h₇, h₈, h₉, h₁₀⟩ := hbytes c hc
  have hskip : skipSpaces (c :: cs) = c :: cs := by
    rw [skipSpaces, List.dropWhile_cons_of_neg (by rw [hspace]; exact Bool.false_ne_true)]
  have htoken : readToken (c :: cs) = tokenAfter c cs := by rw [readToken, hskip]
  -- the token is one of the three words, or an error
  have htype : (tokenAfter c cs).1.type = .true ∨ (tokenAfter c cs).1.type = .false ∨
      (tokenAfter c cs).1.type = .null ∨ (tokenAfter c cs).1.type = .error := by
    have hif : ∀ (b : Bool) (t : TokenType), (if b then t else TokenType.error) = t ∨
        (if b then t else TokenType.error) = .error := by
      intro b t
      cases b
      · exact .inr rfl
      · exact .inl rfl
    simp only [tokenAfter, if_neg h₁, if_neg h₂, if_neg h₃, if_neg h₄, if_neg h₅, if_neg h₆, if_neg h₇, if_neg h₈,
      if_neg h₉, if_neg h₁₀]
    split_ifs
    · rcases hif (matchText (bytes "rue") cs).1 .true with h | h
      · exact .inl h
      · exact .inr (.inr (.inr h))
    · rcases hif (matchText (bytes "alse") cs).1 .false with h | h
      · exact .inr (.inl h)
      · exact .inr (.inr (.inr h))
    · rcases hif (matchText (bytes "ull") cs).1 .null with h | h
      · exact .inr (.inr (.inl h))
      · exact .inr (.inr (.inr h))
    · exact .inr (.inr (.inr rfl))
  have hcomment : (readToken (c :: cs)).1.type ≠ .comment := by
    rw [htoken]
    rcases htype with h | h | h | h <;> rw [h] <;> exact TokenType.noConfusion
  rw [parse, stackLimit, readValue, skipCommentTokens_eq hcomment, htoken]
  rcases htype with h | h | h | h <;> rw [h] <;> intro heq <;> cases heq

def textoLista (list : List Cadena) : Cadena :=
  0x5b :: ((bytes ",").intercalate (list.map valueToQuotedStringN) ++ [0x5d])

section Lista
variable [LibC]

theorem comma_textoLista (n : Nat) {list : List Cadena} (hne : list ≠ []) :
    Comma (Text (n + 1)) (list.map .string) ((bytes ",").intercalate (list.map valueToQuotedStringN)) := by
  induction list with
  | nil => exact absurd rfl hne
  | cons x list ih =>
    have htexto : Text (n + 1) (.string x) (valueToQuotedStringN x) := .inl ⟨trivial, rfl⟩
    cases list with
    | nil =>
      simp only [List.map_cons, List.map_nil, List.intercalate_singleton]
      exact .last .nil htexto
    | cons x' list =>
      simp only [List.map_cons, List.intercalate_cons_cons]
      rw [List.append_assoc]
      exact .more .nil htexto .nil (ih (List.cons_ne_nil _ _))

theorem parse_textoLista (list : List Cadena) : parse (textoLista list) = .ok (true, .array (list.map .string)) := by
  by_cases hne : list = []
  · subst hne
    have htoken : skipCommentTokens (textoLista []) = ({ type := .arrayBegin }, [0x5d]) :=
      skipCommentTokens_byte .nil (c := 0x5b) (fun _ => rfl) TokenType.noConfusion [0x5d]
    rw [parse, stackLimit, readValue, htoken]
    rfl
  · exact parse_text (.inr (.inl ⟨_, _, [], rfl, comma_textoLista 998 hne, .nil, rfl⟩))

end Lista

@[reducible] def OrgJson.deJsonCpp [LibC] : OrgJson where
  JSONObject texto :=
    match parse texto with
    | .ok (true, .object ms) => some ms
    | _ => none
  valueOf v := v.asString.toOption.getD []
  JSONArray := textoLista
  documento ms resto hms := by
    rw [Value.toStyledString, List.dropLast_concat, parse_writeValue (by decide) hms]
  palabra c cs hc := by
    split
    · rename_i ms heq
      exact absurd heq (parse_letra hc cs ms)
    · rfl
  lista := parse_textoLista

/-! ## Reading a response -/

def KEY_PAYLOAD : Cadena := bytes "payload"
def KEY_MESSAGE_BODY : Cadena := bytes "Cuerpo"
def KEY_MESSAGE_DATE : Cadena := bytes "Fecha"
def KEY_MESSAGE_ID : Cadena := bytes "Id"
def KEY_PHONE_USER : Cadena := bytes "IdUsuarioEmisor"

inductive Fallo where
  | classCastException
deriving DecidableEq, Repr

section Leer
variable [LibC] [OrgJson]
open OrgJson

/-- `getString(name)`, `none` for a `JSONException`. -/
def getString (ms : List (Cadena × Value)) (name : Cadena) : Option Cadena :=
  match lookup name ms with
  | none => none
  | some (.string s) => some s
  | some v => some (valueOf v)

/-- `getJSONArray(name)`. -/
def getJSONArray (ms : List (Cadena × Value)) (name : Cadena) : Option (List Value) :=
  match lookup name ms with
  | some (.array vs) => some vs
  | _ => none

/-- The loop over an array: a `JSONException` ends it with what was read so far. -/
def leerElementos {β : Type} (leer : Value → Except Fallo (Option β)) : List Value → List β → Except Fallo (List β)
  | [], list => .ok list
  | v :: vs, list =>
    match leer v with
    | .error e => .error e
    | .ok none => .ok list
    | .ok (some x) => leerElementos leer vs (list ++ [x])

/-- The payload of a response, whose array stands under `name`. -/
def leerPayload {β : Type} (leer : Value → Except Fallo (Option β)) (name payload : Cadena) : Except Fallo (List β) :=
  match (JSONObject payload).bind fun jData => getJSONArray jData name with
  | none => .ok []
  | some vs => leerElementos leer vs []

/-- A whole response; `none` where the list is never assigned. -/
def leerRespuesta {β : Type} (leer : Value → Except Fallo (Option β)) (name : Cadena) (response : Option Cadena) :
    Except Fallo (Option (List β)) :=
  match response.bind JSONObject with
  | none => .ok none
  | some [] => .ok none
  | some jObject =>
    match getString jObject KEY_PAYLOAD with
    | none => .ok (some [])
    | some payload => (leerPayload leer name payload).map some

end Leer

/-! ### `FetchNewMessageAsyncTask` -/

namespace FetchNewMessage
variable [LibC] [OrgJson]
open OrgJson

def leerMensaje (conversationId msgString : Cadena) : Option Message := do
  let msgJson ← JSONObject msgString
  let body ← getString msgJson KEY_MESSAGE_BODY
  let date ← getString msgJson KEY_MESSAGE_DATE
  let messageId ← getString msgJson KEY_MESSAGE_ID
  let transmitterId ← getString msgJson KEY_PHONE_USER
  return { conversationId, messageId, body, date, transmitterId }

/-- An element of the array, which is cast to a string. -/
def leer (conversationId : Cadena) : Value → Except Fallo (Option Message)
  | .string msgString => .ok (leerMensaje conversationId msgString)
  | _ => .error .classCastException

/-- `doInBackground`; the list is null when the response is missing, unreadable or empty. -/
def doInBackground (conversationId : Cadena) (response : Option Cadena) : Except Fallo (Option (List Message)) :=
  leerRespuesta (leer conversationId) (bytes "mensajes") response

end FetchNewMessage

/-! ### `fetchConversationsDataAsyncTask` -/

namespace FetchConversations
variable [LibC] [OrgJson]

def leerConversacion (convJson : List (Cadena × Value)) : Option Conversation := do
  let id ← getString convJson (bytes "id")
  let lastMessage ← getString convJson (bytes "ultimoMensaje")
  let userName ← getString convJson (bytes "usuarioNombre")
  let userId ← getString convJson (bytes "usuarioTelefono")
  let userPicture ← getString convJson (bytes "usuarioFotoDePerfil")
  return {
    conversationId := id, contactPhone := userId, contactName := userName, contactProfilePicture := userPicture,
    lastMessage := lastMessage }

/-- An element of the array, which is cast to an object. -/
def leer : Value → Except Fallo (Option Conversation)
  | .object convJson => .ok (leerConversacion convJson)
  | _ => .error .classCastException

/-- `doInBackground`; the list is empty when the response is missing, unreadable or empty. -/
def doInBackground (response : Option Cadena) : Except Fallo (List Conversation) :=
  (leerRespuesta leer (bytes "conversaciones") response).map (·.getD [])

end FetchConversations

/-! ## The answers of the server -/

/-- The response is an answer of the server, up to the line end: the web server may have put another byte in its place. -/
def EsRespuesta [LibC] (response : Option Cadena) (payload : Cadena) (success : Bool) : Prop :=
  ∃ resto, response = some ((respuesta payload success).dropLast ++ resto)

section Respuestas
variable [LibC] [OrgJson] {α β : Type} {leer : Value → Except Fallo (Option β)} {g : α → Value} {f : α → β}

omit [LibC] [OrgJson] in
theorem leerElementos_map {xs : List α} (h : ∀ x ∈ xs, leer (g x) = .ok (some (f x))) (list : List β) :
    leerElementos leer (xs.map g) list = .ok (list ++ xs.map f) := by
  induction xs generalizing list with
  | nil => rw [List.map_nil, leerElementos, List.map_nil, List.append_nil]
  | cons x xs ih =>
    rw [List.map_cons, leerElementos, h x List.mem_cons_self]
    show leerElementos leer (xs.map g) (list ++ [f x]) = _
    rw [ih fun y hy => h y (List.mem_cons_of_mem _ hy), List.append_assoc, List.singleton_append, List.map_cons]

/-- The array of a payload, when the server sends one; without elements it sends `null`. -/
theorem leerPayload_arreglo {name : Cadena} (hname : (0 : UInt8) ∉ name) {xs : List α}
    (hxs : ∀ x ∈ xs, Readable 2 (g x)) (h : ∀ x ∈ xs, leer (g x) = .ok (some (f x))) :
    leerPayload leer name (arreglo name (xs.map g)).toStyledString = .ok (xs.map f) := by
  cases xs with
  | nil =>
    have hnull : OrgJson.JSONObject (arreglo name []).toStyledString = none :=
      OrgJson.palabra 0x6e (bytes "ull\n") (by decide)
    rw [leerPayload, List.map_nil, hnull]
    rfl
  | cons x xs =>
    have hreadable : Readable 4 (.object [(name, .array ((x :: xs).map g))]) := by
      refine .inr (.inr ⟨_, rfl, List.cons_ne_nil _ _, List.pairwise_singleton _ _, ?_, ?_⟩)
      · intro m hm
        rw [List.mem_singleton.mp hm]
        exact hname
      · intro m hm
        rw [List.mem_singleton.mp hm]
        exact .inr (.inl ⟨_, rfl, List.cons_ne_nil _ _, List.forall_mem_map.mpr hxs⟩)
    have harreglo : arreglo name ((x :: xs).map g) = .object [(name, .array ((x :: xs).map g))] := rfl
    have harray : getJSONArray [(name, .array ((x :: xs).map g))] name = some ((x :: xs).map g) := by
      rw [getJSONArray, lookup, if_pos rfl]
    rw [leerPayload, harreglo, OrgJson.JSONObject_toStyledString hreadable, Option.bind_some, harray]
    exact leerElementos_map h []

theorem leerPayload_letra {c : UInt8} (hc : esLetra c) (cs name : Cadena) : leerPayload leer name (c :: cs) = .ok [] := by
  rw [leerPayload, OrgJson.palabra c cs hc]
  rfl

omit [OrgJson] in
theorem esRespuesta_respuesta (payload : Cadena) (success : Bool) :
    EsRespuesta (some (respuesta payload success)) payload success := by
  refine ⟨[0x0a], ?_⟩
  rw [respuesta, Value.toStyledString, List.dropLast_concat]

theorem EsRespuesta.bind_JSONObject {response : Option Cadena} {payload : Cadena} {success : Bool}
    (h : EsRespuesta response payload success) : response.bind OrgJson.JSONObject = some [(keyPayload, .string payload),
      (keySuccess, .string (if success then bytes "true" else bytes "false"))] := by
  obtain ⟨resto, rfl⟩ := h
  exact OrgJson.documento _ resto ((respuesta_flat payload success).readable.mono (by decide))

theorem EsRespuesta.leerRespuesta {response : Option Cadena} {payload : Cadena} {success : Bool}
    (h : EsRespuesta response payload success) (name : Cadena) :
    leerRespuesta leer name response = (leerPayload leer name payload).map some := by
  rw [Cliente.leerRespuesta, h.bind_JSONObject]
  rfl

end Respuestas

def Message.deMensaje (conversationId : Cadena) (m : Mensaje) : Message where
  conversationId := conversationId
  messageId := m.id
  body := m.cuerpo
  date := m.fecha
  transmitterId := m.idUsuarioEmisor

namespace FetchNewMessage
variable [LibC] [OrgJson]

theorem leer_serializar (k : Cadena) (m : Mensaje) : leer k (.string m.serializar) = .ok (some (.deMensaje k m)) := by
  have hleer := OrgJson.JSONObject_toStyledString (m.campos_flat.readable.mono (by decide))
  rw [leer, leerMensaje, Mensaje.serializar_eq, hleer]
  rfl

/-- **What the client reads of a reply of `obtenerConversacion`.** -/
theorem doInBackground_respuesta (k : Cadena) {ms : List Mensaje} {success : Bool} {response : Option Cadena}
    (h : EsRespuesta response (mensajesJson ms).toStyledString success) :
    doInBackground k response = .ok (some (ms.map (Message.deMensaje k))) := by
  have hpayload : leerPayload (leer k) (bytes "mensajes") (mensajesJson ms).toStyledString =
      .ok (ms.map (Message.deMensaje k)) :=
    leerPayload_arreglo (by decide) (fun _ _ => .inl trivial) fun m _ => leer_serializar k m
  rw [doInBackground, h.leerRespuesta, hpayload]
  rfl

/-- A failed fetch brings no messages. -/
theorem doInBackground_letra (k : Cadena) {c : UInt8} (hc : esLetra c) (cs : Cadena) (success : Bool) :
    doInBackground k (some (respuesta (c :: cs) success)) = .ok (some []) := by
  rw [doInBackground, (esRespuesta_respuesta _ _).leerRespuesta, leerPayload_letra hc]
  rfl

end FetchNewMessage

/-- The row of a conversation in a reply of the server. -/
def Conversation.deEntrada (id : Cadena) (ultimoMensaje : Mensaje) (contacto : Usuario) : Conversation where
  conversationId := id
  contactPhone := contacto.telefono
  contactName := contacto.nombre
  contactProfilePicture := contacto.fotoDePerfil
  lastMessage := ultimoMensaje.cuerpo

namespace FetchConversations

variable [LibC] [OrgJson]

/-- **The server reads the ids that a poll sends.** -/
theorem getParametroVector_ids {p : Peticion} {ids : List Cadena}
    (h : getParametro p keyIdConversaciones keyDefault = OrgJson.JSONArray ids) :
    getParametroVector p keyIdConversaciones = .ok ids := by
  have hvector : StringUtil.jsonValueToVector (.array (ids.map .string)) = .ok ids := by
    rw [StringUtil.jsonValueToVector_array, Efectos.mapM_eq_ok_iff, List.forall₂_map_left_iff]
    exact List.forall₂_same.mpr fun _ _ => rfl
  rw [getParametroVector, getParametroArray, h, OrgJson.lista]
  exact hvector

omit [LibC] [OrgJson] in
theorem entrada_readable (id : Cadena) (m : Mensaje) (u : Usuario) : Readable 2 (entradaJson id m u) := by
  have hflat : Flat [(bytes "id", .string id), (bytes "ultimoMensaje", .string m.cuerpo),
      (bytes "usuarioFotoDePerfil", .string u.fotoDePerfil), (bytes "usuarioNombre", .string u.nombre),
      (bytes "usuarioTelefono", .string u.telefono)] :=
    .of_names [bytes "id", bytes "ultimoMensaje", bytes "usuarioFotoDePerfil", bytes "usuarioNombre",
      bytes "usuarioTelefono"] rfl (by decide) (by decide +kernel) (by decide +kernel) (by simp [IsLeaf])
  exact hflat.readable

/-- **What the client reads of a reply of `obtenerConversaciones`.** -/
theorem doInBackground_respuesta (xs : List (Cadena × Mensaje × Usuario)) (success : Bool) :
    doInBackground (some (respuesta (arreglo (bytes "conversaciones")
        (xs.map fun x => entradaJson x.1 x.2.1 x.2.2)).toStyledString success)) =
      .ok (xs.map fun x => .deEntrada x.1 x.2.1 x.2.2) := by
  have hpayload : leerPayload leer (bytes "conversaciones") (arreglo (bytes "conversaciones")
      (xs.map fun x => entradaJson x.1 x.2.1 x.2.2)).toStyledString = .ok (xs.map fun x => .deEntrada x.1 x.2.1 x.2.2) :=
    leerPayload_arreglo (by decide) (fun x _ => entrada_readable x.1 x.2.1 x.2.2) fun x _ => rfl
  rw [doInBackground, (esRespuesta_respuesta _ _).leerRespuesta, hpayload]
  rfl

end FetchConversations

end MensajeroX.Cliente
