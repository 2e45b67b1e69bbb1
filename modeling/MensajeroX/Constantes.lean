import MensajeroX.Lib.Bytes

/-!
# `constantes.h`

The names and texts that the server uses, under their own names: the members of the stored objects, the
parameters of the services, the base URLs and the texts that stand for missing data.
-/

namespace MensajeroX
open Bytes

def fotoDePerfilDefault : Cadena := bytes "default"

def keyDefault : Cadena := []

/-! ## Users -/

def keyNombre : Cadena := bytes "Nombre"
def keyId : Cadena := bytes "Id"
def keyFotoDePerfil : Cadena := bytes "FotoDePerfil"
def keyEstadoDeConexion : Cadena := bytes "EstadoDeConexion"
def keyUltimaConexion : Cadena := bytes "Ultima Conexion"
def keyTelefono : Cadena := bytes "Telefono"
def keyLocalizacion : Cadena := bytes "Localizacion"
def keyTokenSesion : Cadena := bytes "Token"
def keyPassword : Cadena := bytes "Password"
def keyRenovarToken : Cadena := bytes "RenovarToken"

/-! ## Conversations and messages -/

def keyIdConversacion : Cadena := bytes "Id"
def keyIdsUsuarios : Cadena := bytes "IdsUsuarios"
def keyMensajes : Cadena := bytes "Mensajes"
def keyCuerpo : Cadena := bytes "Cuerpo"
def keyIdUsuarioEmisor : Cadena := bytes "IdUsuarioEmisor"
def keyFecha : Cadena := bytes "Fecha"
def keyIdUsuarioReceptor : Cadena := bytes "IdUsuarioReceptor"

/-- `'#'`. -/
def SeparadorListaBD : UInt8 := 0x23

/-! ## Services -/

def urlPrueba : Cadena := bytes "/prueba"
def urlCheckinUsuario : Cadena := bytes "/usuario/checkIn"
def urlBaseUsuario : Cadena := bytes "/usuario/"
def urlBaseConversacion : Cadena := bytes "/conversacion/"
def urlBaseConversacionId : Cadena := bytes "/conversacion/id/"
def urlBaseUsuarioConversaciones : Cadena := bytes "/usuarioConversacion/"
def urlBaseContactos : Cadena := bytes "/contactos/"
def urlBaseListaDifusion : Cadena := bytes "/difusion/"

def keyIdUltimoMensaje : Cadena := bytes "idUltimoMensaje"
def keyIdConversaciones : Cadena := bytes "idsConversaciones"
def keyPayload : Cadena := bytes "payload"
def keySuccess : Cadena := bytes "success"
def keyTelefonoEmisor : Cadena := bytes "TelefonoEmisor"
def keyTelefonoReceptor : Cadena := bytes "TelefonoReceptor"
def keyContantosTelefono : Cadena := bytes "ContactosTelefono"
def keyLatitud : Cadena := bytes "latitud"
def keyLongitud : Cadena := bytes "longitud"

/-! ## Missing data -/

def keyDatoNoEncontrado : Cadena := bytes "NotFound"
def keyIdUsuarioNoEncontrado : Cadena := bytes "UsarioInvalido"
def keyIdConversacionNoEncontrada : Cadena := bytes "ConversacionInvalida"

end MensajeroX
