import MensajeroX.Cliente.RestClient
import MensajeroX.Cliente.Usuarios
import MensajeroX.Propiedades.IdConversacion

/-!
# The tasks of `Service`

The requests of the tasks that log in, send a message and fetch messages, and what they read of the answers. The base URL
is a scheme and a host with a slash after them, so every path starts with a slash.

* `Ruta.mas` : a path with a telephone or an id at its end;
* `RestClient.Ejecuta.parametro` : the value of a parameter that fits into the buffer;
* `RestClient.esRespuesta_getResponse` : **what a task gets for the one answer of a service**.
-/

namespace MensajeroX.Cliente
open Bytes JsonCpp Percent Mongoose Servicio

/-! ## Paths -/

/-- A telephone or the id of a conversation, as it stands at the end of a path. -/
structure Segmento where
  val : Cadena
  legal : ∀ c ∈ val, EsRuta c ∧ barra c = false
  no_sube : val ≠ [0x2e, 0x2e]

theorem Segmento.barra_not_mem (s : Segmento) : Servidor.barra ∉ s.val := fun h =>
  absurd (s.legal _ h).2 (by decide)

theorem Segmento.isspace_eq_false (s : Segmento) : ∀ c ∈ s.val, isspace c = false := by
  have hbytes : ∀ c : UInt8, EsRuta c → isspace c = false := forall_byte (by decide)
  exact fun c hc => hbytes c (s.legal c hc).1

/-- A path that ends in a slash, and a segment after it. -/
def Ruta.mas (ruta : Ruta) (hruta : ruta.val.getLast? = some 0x2f) (s : Segmento) : Ruta where
  val := ruta.val ++ s.val
  legal := fun c hc => (List.mem_append.mp hc).elim (ruta.legal c) fun hc => (s.legal c hc).1
  limpia := ruta.limpia.append_palabra hruta (fun c hc => (s.legal c hc).2) s.no_sube

/-! ## The requests of the tasks -/

namespace Service

def USER_URL : Ruta := ⟨bytes "/usuario/", List.all_iff_forall_prop.mp rfl, by decide +kernel⟩
def COVERSATION_URL : Ruta := ⟨bytes "/conversacion/", List.all_iff_forall_prop.mp rfl, by decide +kernel⟩
def ID_URL : Ruta := ⟨bytes "/conversacion/id/", List.all_iff_forall_prop.mp rfl, by decide +kernel⟩

def KEY_ID_LAST_MESSAGE : Nombre := ⟨bytes "idUltimoMensaje", List.all_eq_true.mp rfl⟩
def KEY_PHONE_USER : Nombre := ⟨bytes "IdUsuarioEmisor", List.all_eq_true.mp rfl⟩
def KEY_PHONE_USER_RECEIVER : Nombre := ⟨bytes "IdUsuarioReceptor", List.all_eq_true.mp rfl⟩
def KEY_TRANSMITTER : Nombre := ⟨bytes "TelefonoEmisor", List.all_eq_true.mp rfl⟩
def KEY_RECEIVER : Nombre := ⟨bytes "TelefonoReceptor", List.all_eq_true.mp rfl⟩
def KEY_MESSAGE_BODY : Nombre := ⟨bytes "Cuerpo", List.all_eq_true.mp rfl⟩
def KEY_MESSAGE_DATE : Nombre := ⟨bytes "Fecha", List.all_eq_true.mp rfl⟩
def KEY_USER_NAME : Nombre := ⟨bytes "Nombre", List.all_eq_true.mp rfl⟩
def KEY_USER_PICTURE : Nombre := ⟨bytes "FotoDePerfil", List.all_eq_true.mp rfl⟩
def KEY_USER_STATE : Nombre := ⟨bytes "EstadoDeConexion", List.all_eq_true.mp rfl⟩
def KEY_USER_LOCATION : Nombre := ⟨bytes "Localizacion", List.all_eq_true.mp rfl⟩
def KEY_USER_PASSWORD : Nombre := ⟨bytes "Password", List.all_eq_true.mp rfl⟩
def KEY_TOKEN_SESION : Nombre := ⟨bytes "Token", List.all_eq_true.mp rfl⟩
def KEY_USER_RENEW_TOKEN : Nombre := ⟨bytes "renovarToken", List.all_eq_true.mp rfl⟩

/-- `new RestClient(url)`. -/
def nuevo (ruta : Ruta) : RestClient where
  ruta := ruta

/-- `SendNewMessageAsyncTask`, with the token of the logged user. -/
def sendNewMessage (transmitter receiver body date tokenSesion : Cadena) : RestClient :=
  (nuevo COVERSATION_URL)
    |>.addParam KEY_PHONE_USER transmitter
    |>.addParam KEY_PHONE_USER_RECEIVER receiver
    |>.addParam KEY_MESSAGE_BODY body
    |>.addParam KEY_MESSAGE_DATE date
    |>.addParam KEY_TOKEN_SESION tokenSesion

/-- `FetchNewConversationIdAsyncTask`. -/
def fetchNewConversationId (transmitterId receiverId : Cadena) : RestClient :=
  (nuevo ID_URL)
    |>.addParam KEY_TRANSMITTER transmitterId
    |>.addParam KEY_RECEIVER receiverId

/-- `FetchNewMessageAsyncTask`. -/
def fetchNewMessage (conversationId : Segmento) (messageId : Cadena) : RestClient :=
  (nuevo (COVERSATION_URL.mas (by decide +kernel) conversationId))
    |>.addParam KEY_ID_LAST_MESSAGE messageId

/-- `fetchUserDataAsyncTask`. -/
def fetchUserData (phone : Segmento) (renewToken : Bool) : RestClient :=
  (nuevo (USER_URL.mas (by decide +kernel) phone))
    |>.addParam KEY_USER_RENEW_TOKEN (Boolean.toString renewToken)

end Service

/-! ## What the tasks read -/

def KEY_SUCCESS : Cadena := bytes "success"
def KEY_USER_ID : Cadena := bytes "idUsuario"

section Leer
variable [LibC] [OrgJson]
open OrgJson

/-- `getBoolean(name)`: a boolean, or a text that spells one; `none` for a `JSONException`. -/
def getBoolean (ms : List (Cadena × Value)) (name : Cadena) : Option Bool :=
  match lookup name ms with
  | some (.boolean b) => some b
  | some (.string s) => if Boolean.valueOf s then some true else if fold s = bytes "false" then some false else none
  | _ => none

/-- The object of a response, unless it is missing, unreadable or empty. -/
def leerObjeto (response : Option Cadena) : Option (List (Cadena × Value)) :=
  (response.bind JSONObject).filter fun jObject => !jObject.isEmpty

/-- The payload of a response, whatever its outcome: `SendNewMessageAsyncTask` takes it for the id of a message,
`FetchNewConversationIdAsyncTask` for the id of a conversation. -/
def leerId (response : Option Cadena) : Option Cadena :=
  (leerObjeto response).bind fun jObject => getString jObject KEY_PAYLOAD

namespace FetchUserData

/-- The user of a payload, and whether they exist. What is missing before the id leaves no user. -/
def leerUsuario (phone : Cadena) (jData : List (Cadena × Value)) : Option (User × Bool) := do
  let name ← getString jData Service.KEY_USER_NAME.val
  let password ← getString jData Service.KEY_USER_PASSWORD.val
  let tokenSesion ← getString jData Service.KEY_TOKEN_SESION.val
  let state ← getString jData Service.KEY_USER_STATE.val
  let picture ← getString jData Service.KEY_USER_PICTURE.val
  let location ← getString jData Service.KEY_USER_LOCATION.val
  let user : User := { phone, name, password, tokenSesion, profilePicture := picture, connected := Boolean.valueOf state }
  match getString jData KEY_USER_ID with
  | none => return (user, false)
  | some userId => return ({ user with userId, location }, true)

/-- `doInBackground`: null, or the user and `isExist`. -/
def doInBackground (phone : Cadena) (response : Option Cadena) : Option (User × Bool) := do
  let jObject ← leerObjeto response
  let success ← getBoolean jObject KEY_SUCCESS
  if success then
    let data ← getString jObject KEY_PAYLOAD
    let jData ← JSONObject data
    leerUsuario phone jData
  else return ({}, false)

end FetchUserData

/-! ### The answers of the server -/

section EsRespuesta
variable {response : Option Cadena} {payload : Cadena} {success : Bool} (h : EsRespuesta response payload success)
include h

theorem EsRespuesta.leerObjeto :
    leerObjeto response = some [(keyPayload, .string payload),
      (keySuccess, .string (if success then bytes "true" else bytes "false"))] := by
  rw [Cliente.leerObjeto, h.bind_JSONObject]
  rfl

theorem EsRespuesta.leerId : leerId response = some payload := by
  rw [Cliente.leerId, h.leerObjeto]
  rfl

end EsRespuesta

omit [LibC] [OrgJson] in
theorem getBoolean_respuesta (payload : Cadena) (success : Bool) :
    getBoolean [(keyPayload, .string payload), (keySuccess, .string (if success then bytes "true" else bytes "false"))]
      KEY_SUCCESS = some success := by
  cases success <;> rfl

/-- The object of a user of the server, when they are queried under a telephone. -/
def User.deUsuario (phone : Cadena) (u : Usuario) : User where
  userId := u.id
  phone := phone
  profilePicture := u.fotoDePerfil
  name := u.nombre
  location := u.localizacion
  password := u.password
  tokenSesion := u.token
  connected := u.conectado

/-- The members of the reply about a user, in their order. -/
def camposUsuario (u : Usuario) : List (Cadena × Value) :=
  [(keyEstadoDeConexion, .string (StringUtil.toString u.conectado)), (keyFotoDePerfil, .string u.fotoDePerfil),
    (keyLocalizacion, .string u.localizacion), (keyNombre, .string u.nombre), (keyPassword, .string u.password),
    (keyTokenSesion, .string u.token), (bytes "idUsuario", .string u.id)]

omit [LibC] [OrgJson] in
theorem usuarioJson_eq (u : Usuario) : usuarioJson u = .object (camposUsuario u) := rfl

omit [LibC] [OrgJson] in
theorem camposUsuario_flat (u : Usuario) : Flat (camposUsuario u) :=
  .of_names [keyEstadoDeConexion, keyFotoDePerfil, keyLocalizacion, keyNombre, keyPassword, keyTokenSesion,
    bytes "idUsuario"] rfl (by decide) (by decide) (by decide) (by simp [camposUsuario, IsLeaf])

theorem FetchUserData.leerUsuario_campos (phone : Cadena) (u : Usuario) :
    leerUsuario phone (camposUsuario u) = some (.deUsuario phone u, true) := by
  have hstate : Boolean.valueOf (StringUtil.toString u.conectado) = u.conectado := by
    cases u.conectado <;> rfl
  have hleer : leerUsuario phone (camposUsuario u) =
      some ({ User.deUsuario phone u with connected := Boolean.valueOf (StringUtil.toString u.conectado) }, true) := rfl
  rw [hleer, hstate]
  rfl

/-- **What the client reads of a reply of `consultarUsuarioOnline`.** -/
theorem FetchUserData.doInBackground_usuario (phone : Cadena) {u : Usuario} {response : Option Cadena}
    (h : EsRespuesta response (usuarioJson u).toStyledString true) :
    doInBackground phone response = some (.deUsuario phone u, true) := by
  have hpayload : ∀ payload v, getString [(keyPayload, .string payload), (keySuccess, v)] KEY_PAYLOAD = some payload :=
    fun _ _ => rfl
  have hdata : JSONObject (usuarioJson u).toStyledString = some (camposUsuario u) :=
    OrgJson.JSONObject_toStyledString ((camposUsuario_flat u).readable.mono (by decide))
  rw [doInBackground, h.leerObjeto, Option.bind_eq_bind, Option.bind_some, getBoolean_respuesta, Option.bind_eq_bind,
    Option.bind_some, if_pos rfl, hpayload, Option.bind_eq_bind, Option.bind_some, hdata, Option.bind_some,
    leerUsuario_campos]

end Leer

/-! ## A task over the network -/

/-- A text that a parameter can carry: without NUL bytes, and with room in the buffer of the server. -/
structure Cabe (v : Cadena) : Prop where
  nul : (0 : UInt8) ∉ v
  largo : v.length < tamanioBuffer

instance (v : Cadena) : Decidable (Cabe v) :=
  decidable_of_iff ((0 : UInt8) ∉ v ∧ v.length < tamanioBuffer) ⟨fun h => ⟨h.1, h.2⟩, fun h => ⟨h.nul, h.largo⟩⟩

theorem Segmento.cabe (s : Segmento) (h : s.val.length ≤ 254) : Cabe s.val where
  nul := fun hmem => (s.legal _ hmem).1.1.1.permitido.2.2.2 rfl
  largo := by
    have : 254 < tamanioBuffer := by decide
    omega

namespace RestClient
variable [HttpClient] {client : RestClient} {method : RequestMethod} {r : Solicitud}

/-- A parameter that the server looks for, under a name that it spells in its own way. -/
theorem Ejecuta.parametro (h : client.Ejecuta method r) (reloj : Reloj) (nombre : Cadena) {v : Cadena}
    (hnombre : ∀ c ∈ nombre, seguro c = true) (hbuscar : buscar client.params nombre = some v) (hv : Cabe v) :
    Servicio.getParametro (peticionDe r.peticion reloj) nombre keyDefault = v := by
  rw [h.getParametro reloj hnombre, hbuscar]
  dsimp only
  split_ifs with hdefault
  · obtain hnil | hlargo := hdefault
    · exact hnil.symm
    · exact absurd hv.largo (by omega)
  · exact cstr_of_not_mem hv.nul

variable [Aritmetica]

/-- `getResponse`, after a request on the store. -/
def getResponse (lugares : Value) (db : RocksDB) (r : Solicitud) (reloj : Reloj) : Option Cadena :=
  executeRequest (Red.continuar r ++ Red.http (.respuesta r.peticion (Red.responde lugares db r.peticion reloj)))

/-- **What a task gets for the one answer of a service.** -/
theorem esRespuesta_getResponse {lugares : Value} {db : RocksDB} {reloj : Reloj} {payload : Cadena} {success : Bool}
    (h : (Servidor.atender lugares db (peticionDe r.peticion reloj)).salidas = [respuesta payload success])
    (hpayload : (0x25 : UInt8) ∉ payload) : EsRespuesta (getResponse lugares db r reloj) payload success := by
  have hresponde : Red.responde lugares db r.peticion reloj = [respuesta payload success] := by
    rw [Red.responde, h, List.mapM_cons, enviado_respuesta hpayload]
    rfl
  rw [getResponse, hresponde]
  exact executeRequest_respuesta r payload success

end RestClient

/-! ### What the server gets -/

namespace Service
variable [HttpClient] {r : Solicitud} (reloj : Reloj)

theorem sendNewMessage_recibido {transmitter receiver body date tokenSesion : Cadena}
    (h : (sendNewMessage transmitter receiver body date tokenSesion).Ejecuta .POST r) (htransmitter : Cabe transmitter)
    (hreceiver : Cabe receiver) (hbody : Cabe body) (hdate : Cabe date) (htoken : Cabe tokenSesion) :
    Servidor.parsearURI (peticionDe r.peticion reloj) = .almacenarConversacion ∧
      (peticionDe r.peticion reloj).emisor = md5 transmitter ∧ (peticionDe r.peticion reloj).receptor = md5 receiver ∧
      Servicio.getParametro (peticionDe r.peticion reloj) keyTokenSesion keyDefault = tokenSesion ∧
      (peticionDe r.peticion reloj).mensaje = Mensaje.nuevo body (md5 transmitter) date := by
  have hemisor := h.parametro reloj keyIdUsuarioEmisor KEY_PHONE_USER.seguro rfl htransmitter
  have hreceptor := h.parametro reloj keyIdUsuarioReceptor KEY_PHONE_USER_RECEIVER.seguro rfl hreceiver
  have hcuerpo := h.parametro reloj keyCuerpo KEY_MESSAGE_BODY.seguro rfl hbody
  have hfecha := h.parametro reloj keyFecha KEY_MESSAGE_DATE.seguro rfl hdate
  refine ⟨?_, congrArg md5 hemisor, congrArg md5 hreceptor,
    h.parametro reloj keyTokenSesion KEY_TOKEN_SESION.seguro rfl htoken, ?_⟩
  · exact (Servidor.parsearURI_congr (h.metodo_peticion reloj) (h.uri_peticion reloj)).trans
      (Peticion.envio_ruta [] [] [] [] [])
  · rw [Peticion.mensaje, Peticion.emisor, hemisor, hcuerpo, hfecha]

theorem fetchNewConversationId_recibido {transmitterId receiverId : Cadena}
    (h : (fetchNewConversationId transmitterId receiverId).Ejecuta .GET r) (htransmitter : Cabe transmitterId)
    (hreceiver : Cabe receiverId) :
    (peticionDe r.peticion reloj).PideId (md5 transmitterId) (md5 receiverId) := by
  refine ⟨?_, ?_, ?_⟩
  · exact Servidor.parsearURI_conversacionId (h.metodo_peticion reloj) List.not_mem_nil (h.uri_peticion reloj)
  · exact congrArg md5 (h.parametro reloj keyTelefonoEmisor KEY_TRANSMITTER.seguro rfl htransmitter)
  · exact congrArg md5 (h.parametro reloj keyTelefonoReceptor KEY_RECEIVER.seguro rfl hreceiver)

theorem fetchNewMessage_recibido {conversationId : Segmento} {messageId : Cadena}
    (h : (fetchNewMessage conversationId messageId).Ejecuta .GET r) (hid : conversationId.val ≠ [])
    (hlargo : conversationId.val.length ≤ 254) (hmessage : Cabe messageId) :
    (peticionDe r.peticion reloj).Pide conversationId.val ∧
      Servicio.getParametro (peticionDe r.peticion reloj) keyIdUltimoMensaje keyDefault = messageId := by
  refine ⟨?_, h.parametro reloj keyIdUltimoMensaje KEY_ID_LAST_MESSAGE.seguro rfl hmessage⟩
  exact Peticion.pide_of_uri (h.metodo_peticion reloj) (h.uri_peticion reloj) hid hlargo conversationId.barra_not_mem
    conversationId.isspace_eq_false

theorem fetchUserData_recibido {phone : Segmento} {renewToken : Bool}
    (h : (fetchUserData phone renewToken).Ejecuta .GET r) (hphone : phone.val ≠ []) (hlargo : phone.val.length ≤ 254) :
    Servidor.parsearURI (peticionDe r.peticion reloj) = .consultarUsuarioOnline ∧
      idMetodoGET (peticionDe r.peticion reloj) urlBaseUsuario = .ok phone.val ∧
      StringUtil.toBoolean (Servicio.getParametro (peticionDe r.peticion reloj) keyRenovarToken keyDefault) = renewToken := by
  have hrenovar : Servicio.getParametro (peticionDe r.peticion reloj) keyRenovarToken keyDefault =
      Boolean.toString renewToken := by
    refine h.parametro reloj keyRenovarToken (List.all_iff_forall_prop.mp rfl) rfl ?_
    cases renewToken
    · exact ⟨by decide, by decide⟩
    · exact ⟨by decide, by decide⟩
  refine ⟨?_, ?_, ?_⟩
  · exact (Servidor.rutas_get (h.metodo_peticion reloj) phone.barra_not_mem).1 (h.uri_peticion reloj)
  · exact (Servidor.idMetodoGET_base_iff (h.uri_peticion reloj) hphone hlargo).mpr phone.isspace_eq_false
  · rw [hrenovar]
    cases renewToken <;> rfl

end Service

end MensajeroX.Cliente
