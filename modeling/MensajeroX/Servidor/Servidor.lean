import MensajeroX.Servidor.Servicio

/-!
# `Servidor`

The routing of a request and a run of the server. `ev_handler` joins the thread that it starts, so requests are
processed one at a time. A request that raises leaves the writes it has made. Nothing catches the exception, so it ends
the process (`proceso`); a run (`ejecutar`) goes on with the next request, as it does after a restart.
-/

namespace MensajeroX
open Bytes JsonCpp Servicio

/-- `tipoDeServicio`, as far as `parsearURI` returns it. -/
inductive TipoDeServicio where
  | prueba
  | registrarUsuario
  | administrarPerfil
  | almacenarConversacion
  | consultarUsuarioOnline
  | checkinUsuario
  | obtenerIdConversacion
  | obtenerConversacion
  | obtenerConversaciones
  | obtenerContactos
  | almacenarListaDifusion
  | invalido
deriving DecidableEq, Repr

namespace Servidor

/-- The last comparisons of `parsearURI`. -/
def sinMetodo (uri : Cadena) : TipoDeServicio := if uri = urlPrueba then .prueba else .invalido

def parsearURI (p : Peticion) : TipoDeServicio :=
  let uri := p.uri.val
  if p.metodo.val = bytes "POST" then
    if uri = urlBaseUsuario then .registrarUsuario
    else if uri = urlBaseConversacion then .almacenarConversacion
    else if uri = urlBaseListaDifusion then .almacenarListaDifusion
    else sinMetodo uri
  else if p.metodo.val = bytes "GET" then
    if urlBaseUsuarioConversaciones <:+: uri then .obtenerConversaciones
    else if urlBaseUsuario <:+: uri then .consultarUsuarioOnline
    else if urlBaseConversacionId <:+: uri then .obtenerIdConversacion
    else if urlBaseConversacion <:+: uri then .obtenerConversacion
    else if urlBaseContactos <:+: uri then .obtenerContactos
    else sinMetodo uri
  else if p.metodo.val = bytes "PUT" then
    if uri = urlBaseUsuario then .administrarPerfil
    else if urlCheckinUsuario <:+: uri then .checkinUsuario
    else sinMetodo uri
  else sinMetodo uri

variable [Aritmetica]

def administrarServicio (lugares : Value) (p : Peticion) : Accion Unit :=
  match parsearURI p with
  | .prueba => return ()
  | .registrarUsuario => Servicio.registrarUsuario p
  | .administrarPerfil => Servicio.administrarPerfil p
  | .almacenarConversacion => Servicio.almacenarConversacion p
  | .obtenerIdConversacion => Servicio.obtenerIdConversacion p
  | .obtenerConversacion => Servicio.obtenerConversacion p
  | .obtenerConversaciones => Servicio.obtenerConversaciones p
  | .consultarUsuarioOnline => Servicio.consultarUsuarioOnline p
  | .obtenerContactos => Servicio.obtenerContactos p
  | .almacenarListaDifusion => Servicio.almacenarListaDifusion p
  | .checkinUsuario => checkIn lugares p
  | .invalido => mg_printf_data (bytes "Servicio no encontrado")

/-- The state in which a request ends, whether or not it raises. -/
def atender (lugares : Value) (db : RocksDB) (p : Peticion) : Estado :=
  Efectos.final ((administrarServicio lugares p).run { db := db })

/-- A run of one process: an exception that leaves a service ends it. -/
def proceso (lugares : Value) (db : RocksDB) : List Peticion → RocksDB
  | [] => db
  | p :: ps =>
    match (administrarServicio lugares p).run { db := db } with
    | .ok _ s => proceso lugares s.db ps
    | .error _ s => s.db

def ejecutar (lugares : Value) (db : RocksDB) (ps : List Peticion) : RocksDB :=
  ps.foldl (fun db p => (atender lugares db p).db) db

end Servidor

end MensajeroX
