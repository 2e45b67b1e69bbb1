import MensajeroX.Servidor.Servidor

/-!
# Requests

What a request asks for, read off its parameters, and the requests that a client makes.

* `Peticion.mensaje` : the message that a request sends;
* `Peticion.registro`, `Peticion.envio`, `Peticion.difusion`, `Peticion.consulta`,
  `Peticion.renovacion`, `Peticion.checkIn` : requests with given parameters.
-/

namespace MensajeroX
open Bytes JsonCpp Servicio

namespace Peticion

/-! ## What a request asks for -/

def parametro (p : Peticion) (nombre : Cadena) : CString := ⟨getParametro p nombre keyDefault, getParametro_cstr p nombre⟩

def emisor (p : Peticion) : Cadena := md5 (getParametro p keyIdUsuarioEmisor keyDefault)

def receptor (p : Peticion) : Cadena := md5 (getParametro p keyIdUsuarioReceptor keyDefault)

def mensaje (p : Peticion) : Mensaje :=
  Mensaje.nuevo (getParametro p keyCuerpo keyDefault) p.emisor (getParametro p keyFecha keyDefault)

def Envia (p : Peticion) : Prop :=
  Servidor.parsearURI p = .almacenarConversacion ∨ Servidor.parsearURI p = .almacenarListaDifusion

instance (p : Peticion) : Decidable p.Envia := by unfold Envia; infer_instance

/-- The request asks `obtenerConversacion` for the conversation `k`. -/
def Pide (p : Peticion) (k : Cadena) : Prop :=
  Servidor.parsearURI p = .obtenerConversacion ∧ idMetodoGET p urlBaseConversacion = .ok k

/-! ## Requests of a client -/

/-- A request with the given variables, and clocks that stand still. -/
def con (metodo uri : CString) (vars : List (Cadena × Cadena)) : Peticion where
  metodo := metodo
  uri := uri
  mg_get_var := fun nombre => vars.lookup nombre
  ctime := { val := bytes "Thu Jan  1 00:00:00 1970" }
  fechaYhora := { val := bytes "1970-01-01 00:00" }

def metodoGET : CString where
  val := bytes "GET"

def metodoPUT : CString where
  val := bytes "PUT"

def uriUsuarios : CString where
  val := urlBaseUsuario

def uriConversacionId : CString where
  val := urlBaseConversacionId

def uriConversaciones : CString where
  val := bytes "/usuarioConversacion/1"

def uriUno : CString := ⟨urlBaseUsuario ++ bytes "1", by decide +kernel⟩

def uriDos : CString := ⟨urlBaseUsuario ++ bytes "2", by decide +kernel⟩

def registro (telefono : Cadena) : Peticion :=
  con { val := bytes "POST" } { val := urlBaseUsuario } [(keyTelefono, telefono)]

def envio (emisor receptor token cuerpo fecha : Cadena) : Peticion :=
  con { val := bytes "POST" } { val := urlBaseConversacion } [(keyIdUsuarioEmisor, emisor),
    (keyIdUsuarioReceptor, receptor), (keyTokenSesion, token), (keyCuerpo, cuerpo), (keyFecha, fecha)]

def difusion (emisor contactos token cuerpo fecha : Cadena) : Peticion :=
  con { val := bytes "POST" } { val := urlBaseListaDifusion } [(keyIdUsuarioEmisor, emisor),
    (keyContantosTelefono, contactos), (keyTokenSesion, token), (keyCuerpo, cuerpo), (keyFecha, fecha)]

def consulta (uri : CString) : Peticion := con { val := bytes "GET" } uri []

def renovacion (uri : CString) : Peticion := con { val := bytes "GET" } uri [(keyRenovarToken, bytes "true")]

def checkIn (telefono token : Cadena) : Peticion :=
  con { val := bytes "PUT" } { val := urlCheckinUsuario } [(keyTelefono, telefono), (keyTokenSesion, token)]

theorem getParametro_con (metodo uri : CString) (vars : List (Cadena × Cadena)) (nombre : Cadena) :
    getParametro (con metodo uri vars) nombre keyDefault = cstr ((vars.lookup nombre).getD []) := by
  simp only [getParametro, con]
  cases vars.lookup nombre with
  | none => rfl
  | some buffer =>
    dsimp only
    split
    · rename_i h
      rw [Option.getD_some, List.length_eq_zero_iff.mp (Nat.lt_one_iff.mp h)]
      rfl
    · rfl

theorem registro_telefono (telefono : CString) :
    getParametro (registro telefono.val) keyTelefono keyDefault = telefono.val := by
  rw [registro, getParametro_con]
  exact cstr_of_not_mem telefono.not_mem_zero

section Envio
variable (emisor receptor token cuerpo fecha : CString)

theorem envio_ruta (emisor receptor token cuerpo fecha : Cadena) :
    Servidor.parsearURI (envio emisor receptor token cuerpo fecha) = .almacenarConversacion := rfl

theorem envio_emisor :
    (envio emisor.val receptor.val token.val cuerpo.val fecha.val).emisor = md5 emisor.val := by
  rw [Peticion.emisor, envio, getParametro_con]
  exact congrArg md5 (cstr_of_not_mem emisor.not_mem_zero)

theorem envio_receptor :
    (envio emisor.val receptor.val token.val cuerpo.val fecha.val).receptor = md5 receptor.val := by
  rw [Peticion.receptor, envio, getParametro_con]
  exact congrArg md5 (cstr_of_not_mem receptor.not_mem_zero)

theorem envio_token :
    getParametro (envio emisor.val receptor.val token.val cuerpo.val fecha.val) keyTokenSesion keyDefault =
      token.val := by
  rw [envio, getParametro_con]
  exact cstr_of_not_mem token.not_mem_zero

theorem envio_mensaje :
    (envio emisor.val receptor.val token.val cuerpo.val fecha.val).mensaje =
      Mensaje.nuevo cuerpo.val (md5 emisor.val) fecha.val := by
  rw [Peticion.mensaje, envio_emisor, envio, getParametro_con, getParametro_con]
  exact congrArg₂ (fun c f => Mensaje.nuevo c (md5 emisor.val) f) (cstr_of_not_mem cuerpo.not_mem_zero)
    (cstr_of_not_mem fecha.not_mem_zero)

end Envio
end Peticion

end MensajeroX
