import MensajeroX.Utilidades.Md5
import MensajeroX.Utilidades.StringUtil
import MensajeroX.Lib.JsonCpp.Grammar

/-!
# `Usuario`

A user and their text. The defaults of the members are those of the class; the two public constructors that the
server uses are `noEncontrado`, for a telephone without a record, and `nuevo`, for a registration.

* `deserealizar_serializar` : **a user is read back as it was written**.
-/

namespace MensajeroX
open Bytes JsonCpp

/-- `Usuario`, with the initialisers of its members. -/
structure Usuario where
  nombre : Cadena := []
  fotoDePerfil : Cadena := bytes "default"
  id : Cadena := []
  telefono : Cadena := []
  conectado : Bool := true
  localizacion : Cadena := bytes "desconocida"
  ultimaConexion : Cadena := []
  token : Cadena := []
  password : Cadena := []
deriving DecidableEq, Repr, Inhabited

namespace Usuario

/-- `Usuario()`. -/
def noEncontrado : Usuario where
  id := keyIdUsuarioNoEncontrado

/-- `Usuario(nombre, telefono, password)`; `ahora` is what `ctime` gives to `registrarUltimaConexion`. -/
def nuevo (nombre telefono password ahora : Cadena) : Usuario where
  nombre := nombre
  fotoDePerfil := fotoDePerfilDefault
  telefono := telefono
  id := md5 telefono
  ultimaConexion := ahora
  token := []
  password := password

def obtenerId (telefono : Cadena) : Cadena := md5 telefono

def registrarUltimaConexion (u : Usuario) (ahora : Cadena) : Usuario := { u with ultimaConexion := ahora }

/-- `calcularTokenDeSesion`, which stores the token it returns. -/
def calcularTokenDeSesion (u : Usuario) : Usuario := { u with token := md5 (u.telefono ++ u.ultimaConexion) }

def serializar [LibC] (u : Usuario) : Cadena :=
  (Value.ofAssignments [(keyId, .string u.id), (keyNombre, .string u.nombre), (keyTelefono, .string u.telefono),
    (keyEstadoDeConexion, .boolean u.conectado), (keyUltimaConexion, .string u.ultimaConexion),
    (keyFotoDePerfil, .string u.fotoDePerfil), (keyLocalizacion, .string u.localizacion),
    (keyTokenSesion, .string u.token), (keyPassword, .string u.password)]).toStyledString

/-- `Usuario(usuarioSerializado)`: `deserealizar` on the initial members. -/
def deserealizar [LibC] (aDeserealizar : Cadena) : Except Exn Usuario := do
  let (parseoExitoso, user) ← parse aDeserealizar
  if parseoExitoso then
    let id ← user.getString keyId keyDefault
    let nombre ← user.getString keyNombre keyDefault
    let telefono ← user.getString keyTelefono keyDefault
    let estado ← user.getString keyEstadoDeConexion keyDefault
    let ultimaConexion ← user.getString keyUltimaConexion keyDefault
    let fotoDePerfil ← user.getString keyFotoDePerfil keyDefault
    let localizacion ← user.getString keyLocalizacion keyDefault
    let token ← user.getString keyTokenSesion keyDefault
    let password ← user.getString keyPassword keyDefault
    return {
      nombre, fotoDePerfil, id, telefono
      conectado := StringUtil.toBoolean estado
      localizacion, ultimaConexion, token, password }
  else return {}

def campos (u : Usuario) : List (Cadena × Value) :=
  [(keyEstadoDeConexion, .boolean u.conectado), (keyFotoDePerfil, .string u.fotoDePerfil), (keyId, .string u.id),
    (keyLocalizacion, .string u.localizacion), (keyNombre, .string u.nombre), (keyPassword, .string u.password),
    (keyTelefono, .string u.telefono), (keyTokenSesion, .string u.token),
    (keyUltimaConexion, .string u.ultimaConexion)]

theorem serializar_eq [LibC] (u : Usuario) : u.serializar = (Value.object u.campos).toStyledString := rfl

theorem campos_flat (u : Usuario) : Flat u.campos :=
  .of_names [keyEstadoDeConexion, keyFotoDePerfil, keyId, keyLocalizacion, keyNombre, keyPassword, keyTelefono,
      keyTokenSesion, keyUltimaConexion] rfl (by decide) (by decide +kernel) (by decide +kernel)
    (by simp [campos, IsLeaf])

/-- **A user is read back as it was written.** -/
theorem deserealizar_serializar [LibC] (u : Usuario) : deserealizar u.serializar = .ok u := by
  have hparse : parse u.serializar = .ok (true, .object u.campos) := by
    have := parse_toStyledString u.campos_flat []
    rwa [List.append_nil] at this
  have hleer : deserealizar u.serializar =
      .ok { u with conectado := StringUtil.toBoolean (boolToString u.conectado) } := by
    rw [deserealizar, hparse]
    rfl
  rw [hleer, StringUtil.toBoolean_boolToString]

end Usuario

end MensajeroX
