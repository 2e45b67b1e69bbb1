import MensajeroX.BaseDeDatos
import MensajeroX.Utilidades.Localizacion

/-!
# `Servicio`

The services of the server. A request is what the web server has decoded: the method, the URI, the variable that
`mg_get_var` finds under a name, and the two clocks that a service may read. A service runs on the store and hands
texts to the connection. Logging is left out.

The block that appends a message to the conversation of two users stands twice in the source, in
`almacenarConversacion` and in the loop of `almacenarListaDifusion`; it is `almacenarMensaje` here.
-/

namespace MensajeroX
open Bytes JsonCpp

/-- A request, as `mg_connection` and the C library present it to a service. -/
structure Peticion where
  metodo : CString
  uri : CString
  /-- `mg_get_var`: the decoded variable, `none` for a negative result. -/
  mg_get_var : Cadena → Option Cadena
  /-- `ctime`, for `registrarUltimaConexion`. -/
  ctime : CString
  /-- `fechaYhoraActual`. -/
  fechaYhora : CString

namespace Servicio

/-! ## Parameters -/

def getParametro (p : Peticion) (nombreParametro valorDefault : Cadena) : Cadena :=
  match p.mg_get_var nombreParametro with
  | none => valorDefault
  | some buffer => if buffer.length < 1 then valorDefault else cstr buffer

theorem getParametro_cstr (p : Peticion) (nombre : Cadena) : (0 : UInt8) ∉ getParametro p nombre keyDefault := by
  unfold getParametro
  split
  · exact List.not_mem_nil
  · split
    · exact List.not_mem_nil
    · exact cstr_not_mem_zero _

/-- `getParametroArray`: the root as the reader leaves it, whether or not it succeeds. -/
def getParametroArray [LibC] (p : Peticion) (nombreParametro valorDefault : Cadena) : Except Exn Value := do
  let (_, valorParams) ← parse (getParametro p nombreParametro valorDefault)
  return valorParams

/-- `getParametroArray` followed by `jsonValueToVector`. -/
def getParametroVector [LibC] (p : Peticion) (nombreParametro : Cadena) : Except Exn (List Cadena) := do
  let valor ← getParametroArray p nombreParametro keyDefault
  StringUtil.jsonValueToVector valor

/-- `sscanf(uri, urlBase + "%s", id)`; the base has no blanks and no conversions. -/
def sscanf (uri urlBase : Cadena) : Option Cadena :=
  let id := ((uri.drop urlBase.length).dropWhile isspace).takeWhile (fun c => !isspace c)
  if urlBase.isPrefixOf uri ∧ id ≠ [] then some id else none

/-- What `getParametroIdMetodoGET` finds; the array `id` has room for 254 characters. -/
def idMetodoGET (p : Peticion) (urlBase : Cadena) : Except Excepcion Cadena :=
  match sscanf p.uri.val urlBase with
  | none => .ok []
  | some id => if id.length < 255 then .ok id else .error .indefinido

def getParametroIdMetodoGET (p : Peticion) (urlBase : Cadena) : Accion Cadena :=
  MonadExcept.ofExcept (idMetodoGET p urlBase)

/-! ## Responses -/

def mg_printf_data (formato : Cadena) : Accion Unit := modify fun s => { s with salidas := s.salidas ++ [formato] }

/-- What `printf` writes for a format and no further arguments. A `%` that is not doubled starts a conversion: it reads
an argument that is not there or it is none, and the behaviour is undefined. -/
def printf : Cadena → Option Cadena
  | [] => some []
  | [c] => if c = 0x25 then none else some [c]
  | c :: c' :: formato =>
    if c = 0x25 then if c' = 0x25 then (printf formato).map (0x25 :: ·) else none
    else (printf (c' :: formato)).map (c :: ·)

/-- The bytes that `mg_printf_data` hands to the connection, for a format given as `c_str()`. -/
def enviado (formato : Cadena) : Option Cadena := printf (cstr formato)

/-- The text that `responder` hands over. -/
def respuesta [LibC] (mensaje : Cadena) (success : Bool) : Cadena :=
  (Value.ofAssignments [(keyPayload, .string mensaje),
    (keySuccess, .string (if success then bytes "true" else bytes "false"))]).toStyledString

theorem respuesta_flat (mensaje : Cadena) (success : Bool) :
    Flat [(keyPayload, .string mensaje), (keySuccess, .string (if success then bytes "true" else bytes "false"))] :=
  .of_names [keyPayload, keySuccess] rfl (by decide) (by decide +kernel) (by decide +kernel) (by simp [IsLeaf])

theorem parse_respuesta [LibC] (mensaje : Cadena) (success : Bool) :
    parse (respuesta mensaje success) = .ok (true, .object [(keyPayload, .string mensaje),
      (keySuccess, .string (if success then bytes "true" else bytes "false"))]) := by
  have := parse_toStyledString (respuesta_flat mensaje success) []
  rwa [List.append_nil] at this

theorem respuesta_inj [LibC] {m m' : Cadena} {s s' : Bool} (h : respuesta m s = respuesta m' s') : m = m' ∧ s = s' := by
  have hparse := parse_respuesta m s
  rw [h, parse_respuesta m' s'] at hparse
  injection hparse with hparse
  injection hparse with _ hparse
  injection hparse with hparse
  simp only [List.cons.injEq, Prod.mk.injEq, Value.string.injEq, true_and, and_true] at hparse
  refine ⟨hparse.1.symm, ?_⟩
  have hsuccess := hparse.2
  revert hsuccess
  cases s <;> cases s' <;> decide

def responder [LibC] (mensaje : Cadena) (success : Bool) : Accion Unit := mg_printf_data (respuesta mensaje success)

def textoSinToken (user : Usuario) : Cadena :=
  bytes "El usuario " ++ user.nombre ++ bytes " no posee un token de session correcto"

/-- `v[key][i] = vᵢ` for all `i`, on a null `v`. -/
def arreglo (key : Cadena) (vs : List Value) : Value :=
  match vs with
  | [] => .null
  | v :: vs => .ofAssignments [(key, .ofElements (v :: vs))]

/-! ## Users -/

def obtenerUsuario [LibC] (p : Peticion) : Accion Usuario :=
  Usuario.obtenerPorTelefono (getParametro p keyTelefono keyDefault)

def registrarUsuario [LibC] (p : Peticion) : Accion Unit := do
  let user ← obtenerUsuario p
  if user.id ≠ keyIdUsuarioNoEncontrado then responder (bytes "El usuario ya existe") false
  else
    let nombre := getParametro p keyNombre keyDefault
    let telefono := getParametro p keyTelefono keyDefault
    let password := getParametro p keyPassword keyDefault
    (Usuario.nuevo nombre telefono password p.ctime.val).persistir
    responder (bytes "Usuario registrado correctamente") true

def administrarPerfil [LibC] (p : Peticion) : Accion Unit := do
  let nombreUsuario := getParametro p keyNombre keyDefault
  let estado := StringUtil.toBoolean (getParametro p keyEstadoDeConexion keyDefault)
  let fotoDePerfil := getParametro p keyFotoDePerfil keyDefault
  let localizacion := getParametro p keyLocalizacion keyDefault
  let password := getParametro p keyPassword keyDefault
  let user ← obtenerUsuario p
  let token := getParametro p keyTokenSesion keyDefault
  if user.id ≠ keyIdUsuarioNoEncontrado then
    if user.token = token then
      let user := { user with
        nombre := nombreUsuario, conectado := estado, fotoDePerfil := fotoDePerfil, localizacion := localizacion,
        password := password }
      user.persistir
      responder (bytes "Se modificaron los datos del usuario " ++ user.nombre ++ bytes " correctamente. Token:" ++
        user.token) true
    else responder (textoSinToken user) false
  else responder (bytes "El usuario " ++ user.nombre ++ bytes " no se encuentra registrado en el sistema") false

/-- The object that `consultarUsuarioOnline` sends. -/
def usuarioJson (user : Usuario) : Value :=
  .ofAssignments [(keyNombre, .string user.nombre), (keyPassword, .string user.password),
    (keyTokenSesion, .string user.token), (keyEstadoDeConexion, .string (StringUtil.toString user.conectado)),
    (keyFotoDePerfil, .string user.fotoDePerfil), (bytes "idUsuario", .string user.id),
    (keyLocalizacion, .string user.localizacion)]

def consultarUsuarioOnline [LibC] (p : Peticion) : Accion Unit := do
  let telefono ← getParametroIdMetodoGET p urlBaseUsuario
  let user ← Usuario.obtenerPorTelefono telefono
  let renovar := StringUtil.toBoolean (getParametro p keyRenovarToken keyDefault)
  if user.id ≠ keyIdUsuarioNoEncontrado then
    let user := user.registrarUltimaConexion p.ctime.val
    let user := if renovar then user.calcularTokenDeSesion else user
    user.persistir
    responder (usuarioJson user).toStyledString true
  else
    responder (bytes "No se pudo obtener el estado del usuario con numero: " ++
      getParametro p keyTelefono keyDefault ++ bytes " ya que no se encuentra registrado en el sistema.") false

/-- The entry of a contact in the reply of `obtenerContactos`. -/
def contactoJson (usuario : Usuario) : Value :=
  .ofAssignments [(keyNombre, .string usuario.nombre), (keyTelefono, .string usuario.telefono),
    (keyFotoDePerfil, .string usuario.fotoDePerfil), (keyLocalizacion, .string usuario.localizacion)]

/-- Registered and connected. -/
def visible (usuario : Usuario) : Bool := usuario.id != keyIdUsuarioNoEncontrado && usuario.conectado

def obtenerContactos [LibC] (p : Peticion) : Accion Unit := do
  let contactosTelefono ← ofJson (getParametroVector p keyContantosTelefono)
  let usuarios ← contactosTelefono.mapM Usuario.obtenerPorTelefono
  responder (arreglo (bytes "contactos") ((usuarios.filter visible).map contactoJson)).toStyledString true

def coordenadas [Aritmetica] (p : Peticion) : Value :=
  .ofAssignments [(bytes "latitud", .real (Aritmetica.atof (getParametro p keyLatitud keyDefault))),
    (bytes "longitud", .real (Aritmetica.atof (getParametro p keyLongitud keyDefault)))]

def checkIn [Aritmetica] (lugares : Value) (p : Peticion) : Accion Unit := do
  let usuario ← obtenerUsuario p
  if usuario.id ≠ keyIdUsuarioNoEncontrado then
    let ubicacion ← ofJson (Localizacion.calcularUbicacion lugares (coordenadas p))
    let localizacion := ubicacion ++ bytes " " ++ p.fechaYhora.val
    { usuario with localizacion := localizacion }.persistir
    responder localizacion true
  else responder (bytes "el usuario no existe.") false

/-! ## Messages -/

/-- The message of a request that `emisor` sends. -/
def mensajeDe (p : Peticion) (emisor : Usuario) : Mensaje :=
  Mensaje.nuevo (getParametro p keyCuerpo keyDefault) emisor.id (getParametro p keyFecha keyDefault)

/-- The message goes to the conversation that exists, in one order of the ids or the other, or to a new one. -/
def almacenarMensaje [LibC] (emisor receptor : Usuario) (mensaje : Mensaje) : Accion Unit := do
  let conversacion ← Conversacion.obtener (emisor.id ++ Conversacion.guion :: receptor.id)
  if conversacion.getId ≠ keyIdConversacionNoEncontrada then (conversacion.agregarMensaje mensaje).persistir
  else
    let conversacion ← Conversacion.obtener (receptor.id ++ Conversacion.guion :: emisor.id)
    if conversacion.getId ≠ keyIdConversacionNoEncontrada then (conversacion.agregarMensaje mensaje).persistir
    else (Conversacion.nueva [emisor, receptor] [mensaje]).persistir

def almacenarConversacion [LibC] (p : Peticion) : Accion Unit := do
  let emisor ← Usuario.obtenerPorTelefono (getParametro p keyIdUsuarioEmisor keyDefault)
  let receptor ← Usuario.obtenerPorTelefono (getParametro p keyIdUsuarioReceptor keyDefault)
  let token := getParametro p keyTokenSesion keyDefault
  if emisor.id = keyIdUsuarioNoEncontrado ∨ receptor.id = keyIdUsuarioNoEncontrado then
    responder (bytes "No se pudo almacenar la conversacion porque: " ++
      (if emisor.id = keyIdUsuarioNoEncontrado then bytes "el emisor no existe." else []) ++
      (if receptor.id = keyIdUsuarioNoEncontrado then bytes " el receptor no existe." else [])) false
  else if emisor.token = token then
    almacenarMensaje emisor receptor (mensajeDe p emisor)
    responder (mensajeDe p emisor).id true
  else responder (textoSinToken emisor) false

/-- The turn of the loop of `almacenarListaDifusion` for one telephone. -/
def difundir [LibC] (emisor : Usuario) (mensaje : Mensaje) (telefonoActual : Cadena) : Accion Unit := do
  let usuario ← Usuario.obtenerPorTelefono telefonoActual
  if visible usuario then almacenarMensaje emisor usuario mensaje else return ()

def almacenarListaDifusion [LibC] (p : Peticion) : Accion Unit := do
  let token := getParametro p keyTokenSesion keyDefault
  let contactosTelefono ← ofJson (getParametroVector p keyContantosTelefono)
  let emisor ← Usuario.obtenerPorTelefono (getParametro p keyIdUsuarioEmisor keyDefault)
  if emisor.id = keyIdUsuarioNoEncontrado then
    responder (bytes "No se pudo almacenar la lista de difusion porque el emisor no existe") false
  else if emisor.token ≠ token then
    responder (textoSinToken emisor) false
  else
    forM contactosTelefono (difundir emisor (mensajeDe p emisor))
    responder (bytes "Lista de difusion enviada correctamente") true

/-! ## Conversations -/

def obtenerIdConversacion [LibC] (p : Peticion) : Accion Unit := do
  let usuarioEmisor ← Usuario.obtenerPorTelefono (getParametro p keyTelefonoEmisor keyDefault)
  let usuarioReceptor ← Usuario.obtenerPorTelefono (getParametro p keyTelefonoReceptor keyDefault)
  if usuarioEmisor.id ≠ keyIdUsuarioNoEncontrado ∧ usuarioReceptor.id ≠ keyIdUsuarioNoEncontrado then
    let conversacion ← Conversacion.obtener (usuarioEmisor.id ++ Conversacion.guion :: usuarioReceptor.id)
    let conversacion ←
      if conversacion.getId = keyIdConversacionNoEncontrada then
        Conversacion.obtener (usuarioReceptor.id ++ Conversacion.guion :: usuarioEmisor.id)
      else pure conversacion
    -- the comparison is with the marker of a missing user, as in the source
    if conversacion.getId ≠ keyIdUsuarioNoEncontrado then responder conversacion.getId true
    else responder (Conversacion.nueva [usuarioEmisor, usuarioReceptor] []).getId false
  else
    let user := if usuarioEmisor.id = keyIdUsuarioNoEncontrado then usuarioEmisor else usuarioReceptor
    responder (bytes "Usuario " ++ user.nombre ++ bytes " no se encuentra registrado en el sistema") false

/-- The loop of `obtenerConversacion`: the messages after the first one with the id. -/
def mensajesDesde (idUltimoMensaje : Cadena) : Bool → List Mensaje → List Mensaje
  | _, [] => []
  | true, m :: ms => m :: mensajesDesde idUltimoMensaje true ms
  | false, m :: ms => mensajesDesde idUltimoMensaje (m.id == idUltimoMensaje) ms

theorem mensajesDesde_true (id : Cadena) (ms : List Mensaje) : mensajesDesde id true ms = ms := by
  induction ms with
  | nil => rfl
  | cons m ms ih => rw [mensajesDesde, ih]

theorem mensajesDesde_of_not_mem {id : Cadena} {ms : List Mensaje} (h : id ∉ ms.map Mensaje.id) (resto : List Mensaje) :
    mensajesDesde id false (ms ++ resto) = mensajesDesde id false resto := by
  induction ms with
  | nil => rfl
  | cons m ms ih =>
    rw [List.map_cons, List.mem_cons, not_or] at h
    have hne : (m.id == id) = false := beq_false_of_ne (Ne.symm h.1)
    rw [List.cons_append, mensajesDesde, hne, ih h.2]

theorem mensajesDesde_append {m : Mensaje} {ms : List Mensaje} (h : m.id ∉ ms.map Mensaje.id) (resto : List Mensaje) :
    mensajesDesde m.id false (ms ++ m :: resto) = resto := by
  rw [mensajesDesde_of_not_mem h, mensajesDesde, beq_self_eq_true, mensajesDesde_true]

/-- The reply of `obtenerConversacion`. -/
def mensajesJson [LibC] (mensajes : List Mensaje) : Value :=
  arreglo (bytes "mensajes") (mensajes.map fun m => .string m.serializar)

def obtenerConversacion [LibC] (p : Peticion) : Accion Unit := do
  let idConversacion ← getParametroIdMetodoGET p urlBaseConversacion
  let idUltimoMensaje := getParametro p keyIdUltimoMensaje keyDefault
  let conversacion ← Conversacion.obtener idConversacion
  if conversacion.getId ≠ keyIdConversacionNoEncontrada then
    let mensajesRespuesta :=
      if idUltimoMensaje ≠ [] then mensajesDesde idUltimoMensaje false conversacion.mensajes
      else conversacion.mensajes
    responder (mensajesJson mensajesRespuesta).toStyledString true
  else responder (bytes "La conversacion " ++ idConversacion ++ bytes " no se encuentra en el sistema") false

/-- The first loop of `obtenerConversaciones`: the conversations that the client does not have. -/
def nuevasConversaciones [LibC] (idsConversaciones : List Cadena) : List Cadena → Accion (List Conversacion)
  | [] => return []
  | idActual :: ids => do
    if !StringUtil.vectorContiene idsConversaciones idActual then
      let nuevaConversacion ← Conversacion.obtener idActual
      let resto ← nuevasConversaciones idsConversaciones ids
      return if nuevaConversacion.getId ≠ keyIdConversacionNoEncontrada then nuevaConversacion :: resto else resto
    else nuevasConversaciones idsConversaciones ids

/-- `at(i)`. -/
def posicion {α : Type} (xs : List α) (i : Nat) : Accion α :=
  match xs[i]? with
  | none => throw .outOfRange
  | some x => return x

/-- `xs[xs.size() - 1]`. -/
def ultimo {α : Type} (xs : List α) : Accion α :=
  match xs.getLast? with
  | none => throw .indefinido
  | some x => return x

/-- The entry of a conversation in the reply of `obtenerConversaciones`. -/
def entradaJson (id : Cadena) (ultimoMensaje : Mensaje) (contacto : Usuario) : Value :=
  .ofAssignments [(bytes "id", .string id), (bytes "ultimoMensaje", .string ultimoMensaje.cuerpo),
    (bytes "usuarioNombre", .string contacto.nombre), (bytes "usuarioTelefono", .string contacto.telefono),
    (bytes "usuarioFotoDePerfil", .string contacto.fotoDePerfil)]

/-- The turn of the second loop of `obtenerConversaciones` for one conversation. -/
def conversacionJson (usuario : Usuario) (conv : Conversacion) : Accion Value := do
  let ultimoMensj ← ultimo conv.mensajes
  let usuarioContacto ← posicion conv.usuarios 0
  let usuarioContacto ← if usuarioContacto.id = usuario.id then posicion conv.usuarios 1 else pure usuarioContacto
  return entradaJson conv.getId ultimoMensj usuarioContacto

/-- `obtenerConversaciones`; an unknown user gets no response. -/
def obtenerConversaciones [LibC] (p : Peticion) : Accion Unit := do
  let idsConversaciones ← ofJson (getParametroVector p keyIdConversaciones)
  let idUsuario ← getParametroIdMetodoGET p urlBaseUsuarioConversaciones
  let usuario ← Usuario.obtenerPorTelefono idUsuario
  if usuario.id ≠ keyIdUsuarioNoEncontrado then
    let idsConversacionesActuales ← usuario.obtnerIdsConversaciones
    let nuevas ← nuevasConversaciones idsConversaciones idsConversacionesActuales
    let entradas ← nuevas.mapM (conversacionJson usuario)
    responder (arreglo (bytes "conversaciones") entradas).toStyledString true
  else return ()

end Servicio

end MensajeroX
