import MensajeroX.Entidades.Conversacion

/-!
# `BaseDeDatos`

The store: users, conversations and, for every user, the list of the conversations they take part in, all of them
texts under a key. RocksDB is a map from keys to values together with the outcomes of the operations to come, so
that a failing `Put` or `Get` is an outcome like any other; past the end of these lists every operation succeeds.

A state is *sound* (`Estado.sano`) when nothing is going to fail. On sound states:

* `run_setDato`, `run_getDato` : the two accesses;
* `run_deserealizar_texto` : **a conversation is loaded as `recargar` says**, its users as they are stored now;
* `run_setConversacion` : a conversation is stored, and then entered in the index of each of its users.
-/

namespace MensajeroX
open Bytes JsonCpp Separated Efectos

/-! ## RocksDB -/

/-- `rocksdb::Status`. -/
inductive Status where
  | ok
  | notFound
  | error
deriving DecidableEq, Repr

structure RocksDB where
  datos : Cadena → Option Cadena
  /-- Which of the next writes fail. -/
  fallosPut : List Bool := []
  /-- Which of the next reads fail. -/
  fallosGet : List Bool := []

namespace RocksDB

def vacia : RocksDB where
  datos := fun _ => none

/-- `Put`. -/
def put (db : RocksDB) (clave valor : Cadena) : Status × RocksDB :=
  if db.fallosPut.headD false then (.error, { db with fallosPut := db.fallosPut.tail })
  else (.ok, { db with datos := Function.update db.datos clave (some valor), fallosPut := db.fallosPut.tail })

/-- `Delete`. -/
def delete (db : RocksDB) (clave : Cadena) : Status × RocksDB :=
  if db.fallosPut.headD false then (.error, { db with fallosPut := db.fallosPut.tail })
  else (.ok, { db with datos := Function.update db.datos clave none, fallosPut := db.fallosPut.tail })

/-- The outcome of the next `Get`, with the output string; it is left empty unless the read succeeds. -/
def leer (db : RocksDB) (clave : Cadena) : Status × Cadena :=
  if db.fallosGet.headD false then (.error, [])
  else
    match db.datos clave with
    | none => (.notFound, [])
    | some valor => (.ok, valor)

/-- `Get`. -/
def get (db : RocksDB) (clave : Cadena) : (Status × Cadena) × RocksDB :=
  (db.leer clave, { db with fallosGet := db.fallosGet.tail })

end RocksDB

/-! ## The state of a request -/

/-- What ends a request before its service returns. -/
inductive Excepcion where
  /-- A `Json::Exception`. -/
  | json (e : Exn)
  /-- `std::out_of_range`, from `vector::at`. -/
  | outOfRange
  /-- Undefined behaviour: an access outside of an array. -/
  | indefinido
deriving DecidableEq, Repr

/-- The store, and the texts handed to `mg_printf_data` so far. -/
structure Estado where
  db : RocksDB
  salidas : List Cadena := []

abbrev Accion := EStateM Excepcion Estado

def ofJson {α : Type} (r : Except Exn α) : Accion α := MonadExcept.ofExcept (r.mapError .json)

namespace BaseDeDatos

def claveBaseUsuario : Cadena := bytes "usuario_"

def claveBaseConversacion : Cadena := bytes "conversacion_"

def claveBaseConversacionesPorUsuario : Cadena := bytes "conversaciones_por_usuario_"

/-- `setDato`; a failed write is only logged. -/
def setDato (clave valor : Cadena) : Accion Unit :=
  modify fun s => { s with db := (s.db.put clave valor).2 }

def getDato (clave : Cadena) : Accion Cadena := do
  let (estado, valor) ← modifyGet fun s => ((s.db.get clave).1, { s with db := (s.db.get clave).2 })
  return if estado = .notFound then keyDatoNoEncontrado else valor

/-- `eliminar`; a failed deletion is only logged. -/
def eliminar (clave : Cadena) : Accion Unit :=
  modify fun s => { s with db := (s.db.delete clave).2 }

def setUsuario [LibC] (usuario : Usuario) : Accion Unit :=
  setDato (claveBaseUsuario ++ usuario.id) usuario.serializar

def getUsuario [LibC] (clave : Cadena) : Accion Usuario := do
  let valor ← getDato (claveBaseUsuario ++ clave)
  if valor = keyDatoNoEncontrado then return Usuario.noEncontrado else ofJson (Usuario.deserealizar valor)

/-- The turn of the loop of `setConversacion` for one user: `idConversacion` goes into the index unless it is
there; the index is written in both cases. -/
def indexar (idConversacion : Cadena) (usuarioActual : Usuario) : Accion Unit := do
  let valor ← getDato (claveBaseConversacionesPorUsuario ++ usuarioActual.id)
  let idsConversaciones := StringUtil.split valor SeparadorListaBD
  let valor :=
    if !StringUtil.vectorContiene idsConversaciones idConversacion then valor ++ SeparadorListaBD :: idConversacion
    else valor
  setDato (claveBaseConversacionesPorUsuario ++ usuarioActual.id) valor

def setConversacion [LibC] (conversacion : Conversacion) : Accion Unit := do
  setDato (claveBaseConversacion ++ conversacion.getId) conversacion.serializar
  forM conversacion.usuarios (indexar conversacion.getId)

def getIdsConversacionPorIdUsuario (claveUsuario : Cadena) : Accion (List Cadena) := do
  let valor ← getDato (claveBaseConversacionesPorUsuario ++ claveUsuario)
  return StringUtil.split valor SeparadorListaBD

def eliminarUsuario (clave : Cadena) : Accion Unit := eliminar (claveBaseUsuario ++ clave)

def eliminarConversacion (clave : Cadena) : Accion Unit := eliminar (claveBaseConversacion ++ clave)

end BaseDeDatos

/-! ## Entities and the store -/

open BaseDeDatos

def RocksDB.tieneUsuario (db : RocksDB) (id : Cadena) : Bool := (db.datos (claveBaseUsuario ++ id)).isSome

def RocksDB.tieneConversacion (db : RocksDB) (id : Cadena) : Bool := (db.datos (claveBaseConversacion ++ id)).isSome

namespace Usuario

def persistir [LibC] (u : Usuario) : Accion Unit := setUsuario u

def obtener [LibC] (clave : Cadena) : Accion Usuario := getUsuario clave

def obtenerPorTelefono [LibC] (clave : Cadena) : Accion Usuario := getUsuario (obtenerId clave)

end Usuario

namespace Conversacion

/-- `Conversacion(conversacionSerializada)`: `deserealizar` on the initial members. -/
def deserealizar [LibC] (aDeserealizar : Cadena) : Accion Conversacion := do
  let (parseoExitoso, conversacion) ← ofJson (parse aDeserealizar)
  if parseoExitoso then
    let id ← ofJson (conversacion.getString keyIdConversacion keyDefault)
    let idsUsuarios ← ofJson (conversacion.getString keyIdsUsuarios keyDefault)
    let usuarios ← (StringUtil.split idsUsuarios SeparadorListaBD).mapM Usuario.obtener
    let mensajesSerializados ← ofJson (conversacion.getString keyMensajes keyDefault)
    let mensajes ←
      (StringUtil.split mensajesSerializados SeparadorListaBD).mapM fun m => ofJson (Mensaje.deserealizar m)
    return { id, mensajes, usuarios }
  else return {}

end Conversacion

def BaseDeDatos.getConversacion [LibC] (clave : Cadena) : Accion Conversacion := do
  let valor ← getDato (claveBaseConversacion ++ clave)
  if valor = keyDatoNoEncontrado then return Conversacion.noEncontrada else Conversacion.deserealizar valor

namespace Conversacion

def persistir [LibC] (c : Conversacion) : Accion Unit := setConversacion c

def obtener [LibC] (clave : Cadena) : Accion Conversacion := getConversacion clave

def obtenerIdsPorIdUsuario (claveUsuario : Cadena) : Accion (List Cadena) :=
  getIdsConversacionPorIdUsuario claveUsuario

def eliminar (clave : Cadena) : Accion Unit := eliminarConversacion clave

end Conversacion

def Usuario.obtnerIdsConversaciones (u : Usuario) : Accion (List Cadena) := Conversacion.obtenerIdsPorIdUsuario u.id

def Usuario.eliminar (clave : Cadena) : Accion Unit := eliminarUsuario clave

def RocksDB.usuarioDe [LibC] (db : RocksDB) (id : Cadena) : Option Usuario :=
  if db.tieneUsuario id then
    match (Usuario.obtener id).run { db := db } with
    | .ok u _ => some u
    | .error _ _ => none
  else none

def RocksDB.tokenDe [LibC] (db : RocksDB) (k : Cadena) : Cadena :=
  ((db.usuarioDe k).map Usuario.token).getD []

/-- The log of a conversation; it is empty while the conversation does not exist or cannot be loaded. -/
def bitacora [LibC] (d : Cadena → Option Cadena) (k : Cadena) : List Mensaje :=
  match (Conversacion.obtener k).run { db := { datos := d } } with
  | .ok c _ => if c.getId ≠ keyIdConversacionNoEncontrada then c.mensajes else []
  | .error _ _ => []

/-- Loading the conversation under an id does not raise. -/
def RocksDB.carga [LibC] (db : RocksDB) (id : Cadena) : Bool := acaba ((Conversacion.obtener id).run { db := db })

/-! ## Reads -/

/-- The store has these data, and no read is going to fail. -/
def Estado.Tiene (d : Cadena → Option Cadena) (s : Estado) : Prop := s.db.datos = d ∧ s.db.fallosGet = []

section Lecturas

/-- A read gives the value, or the marker when there is none; one that fails gives the empty text. -/
theorem run_getDato_eq (clave : Cadena) (s : Estado) :
    (getDato clave).run s =
      .ok (if s.db.fallosGet.headD false then [] else (s.db.datos clave).getD keyDatoNoEncontrado)
        { s with db := { s.db with fallosGet := s.db.fallosGet.tail } } := by
  have hleer : (getDato clave).run s =
      .ok (if (s.db.leer clave).1 = .notFound then keyDatoNoEncontrado else (s.db.leer clave).2)
        { s with db := { s.db with fallosGet := s.db.fallosGet.tail } } := rfl
  rw [hleer]
  cases hfallo : s.db.fallosGet.headD false <;> cases hvalor : s.db.datos clave <;>
    simp only [RocksDB.leer, hfallo, hvalor] <;> rfl

theorem uniforme_getDato {P : Estado → Prop} {clave : Cadena} {v : Option Cadena}
    (h : ∀ s, P s → s.db.datos clave = v ∧ s.db.fallosGet = []) : Uniforme P (getDato clave) := by
  refine ⟨.ok (v.getD keyDatoNoEncontrado), fun s hs => ?_⟩
  obtain ⟨hv, hget⟩ := h s hs
  obtain ⟨⟨datos, fallosPut, fallosGet⟩, salidas⟩ := s
  obtain rfl : fallosGet = [] := hget
  rw [run_getDato_eq, ← hv]
  rfl

theorem uniforme_ofJson {P : Estado → Prop} {α : Type} (r : Except Exn α) : Uniforme P (ofJson r) := .ofExcept _

variable [LibC]

theorem uniforme_getUsuario {P : Estado → Prop} {clave : Cadena} {v : Option Cadena}
    (h : ∀ s, P s → s.db.datos (claveBaseUsuario ++ clave) = v ∧ s.db.fallosGet = []) :
    Uniforme P (getUsuario clave) := by
  unfold getUsuario
  refine (uniforme_getDato h).bind fun valor => ?_
  split
  · exact .pure _
  · exact uniforme_ofJson _

/-- Loading a conversation depends on the conversations and the users that are stored. -/
theorem uniforme_getConversacion {P : Estado → Prop} {d : Cadena → Option Cadena} {clave : Cadena}
    (hc : ∀ s, P s → s.db.datos (claveBaseConversacion ++ clave) = d (claveBaseConversacion ++ clave) ∧
      s.db.fallosGet = [])
    (hu : ∀ k s, P s → s.db.datos (claveBaseUsuario ++ k) = d (claveBaseUsuario ++ k) ∧ s.db.fallosGet = []) :
    Uniforme P (Conversacion.obtener clave) := by
  unfold Conversacion.obtener getConversacion Conversacion.deserealizar
  refine (uniforme_getDato hc).bind fun valor => ?_
  split
  · exact .pure _
  · refine (uniforme_ofJson _).bind fun ⟨parseoExitoso, conversacion⟩ => ?_
    dsimp only
    split
    · exact (uniforme_ofJson _).bind fun _ => (uniforme_ofJson _).bind fun _ =>
        (Uniforme.mapM (fun i => uniforme_getUsuario (hu i)) _).bind fun _ => (uniforme_ofJson _).bind fun _ =>
          (Uniforme.mapM (fun m => uniforme_ofJson _) _).bind fun _ => .pure _
    · exact .pure _

theorem uniforme_obtener {d : Cadena → Option Cadena} (clave : Cadena) :
    Uniforme (Estado.Tiene d) (Conversacion.obtener clave) :=
  uniforme_getConversacion (fun _ hs => ⟨congrFun hs.1 _, hs.2⟩) fun _ _ hs => ⟨congrFun hs.1 _, hs.2⟩

end Lecturas

/-! ## Sound states -/

/-- A state in which no operation is going to fail. -/
abbrev Estado.sano (d : Cadena → Option Cadena) (o : List Cadena) : Estado where
  db := { datos := d }
  salidas := o

section Sano
variable (d : Cadena → Option Cadena) (o : List Cadena)

theorem run_setDato (clave valor : Cadena) :
    (setDato clave valor).run (.sano d o) = .ok () (.sano (Function.update d clave (some valor)) o) := rfl

theorem run_eliminar (clave : Cadena) :
    (BaseDeDatos.eliminar clave).run (.sano d o) = .ok () (.sano (Function.update d clave none) o) := rfl

theorem run_getDato (clave : Cadena) :
    (getDato clave).run (.sano d o) = .ok ((d clave).getD keyDatoNoEncontrado) (.sano d o) :=
  run_getDato_eq clave (.sano d o)

theorem run_ofJson_ok {α : Type} (a : α) (s : Estado) : (ofJson (.ok a)).run s = .ok a s := rfl

theorem run_ofJson_error {α : Type} (e : Exn) (s : Estado) :
    (ofJson (.error e : Except Exn α)).run s = .error (.json e) s := rfl

variable [LibC]

theorem serializar_ne_noEncontrado (u : Usuario) : u.serializar ≠ keyDatoNoEncontrado := by
  rw [Usuario.serializar_eq, toStyledString_flat u.campos_flat.ne_nil u.campos_flat.leaves]
  intro h
  have := congrArg List.head? h
  revert this
  simp only [List.head?_cons]
  decide

/-- A user is loaded as it was stored; the one that is not stored is `noEncontrado`. -/
theorem run_getUsuario {clave : Cadena} {x : Option Usuario}
    (h : d (claveBaseUsuario ++ clave) = x.map Usuario.serializar) :
    (getUsuario clave).run (.sano d o) = .ok (x.getD Usuario.noEncontrado) (.sano d o) := by
  rw [getUsuario, bind_ok (run_getDato d o _), h]
  cases x with
  | none => rfl
  | some u =>
    rw [Option.map_some, Option.getD_some, if_neg (serializar_ne_noEncontrado u), u.deserealizar_serializar]
    rfl

/-- **A conversation is loaded as `recargar` says**, with its users as they are stored now. -/
theorem run_deserealizar_texto {ids : List Cadena} (hne : ∀ i ∈ ids, i ≠ []) (hsep : ∀ i ∈ ids, SeparadorListaBD ∉ i)
    {f : Cadena → Usuario} (hf : ∀ i ∈ ids, (getUsuario i).run (.sano d o) = .ok (f i) (.sano d o)) (id : Cadena)
    (mensajes : List Mensaje) :
    (Conversacion.deserealizar (Conversacion.texto id ids mensajes)).run (.sano d o) =
      match Conversacion.recargar mensajes with
      | .ok ms => .ok { id := id, mensajes := ms, usuarios := ids.map f } (.sano d o)
      | .error e => .error (.json e) (.sano d o) := by
  have hids : StringUtil.split (joinLoop SeparadorListaBD ids) SeparadorListaBD = ids := split_joinLoop hsep hne
  have hus : ((StringUtil.split (joinLoop SeparadorListaBD ids) SeparadorListaBD).mapM Usuario.obtener).run (.sano d o)
      = .ok (ids.map f) (.sano d o) := by
    rw [hids]
    exact run_mapM_reads hf
  have hid : (Value.object (Conversacion.campos id ids mensajes)).getString keyIdConversacion keyDefault = .ok id := rfl
  have hidsUsuarios : (Value.object (Conversacion.campos id ids mensajes)).getString keyIdsUsuarios keyDefault =
      .ok (joinLoop SeparadorListaBD ids) := rfl
  have hmensajes : (Value.object (Conversacion.campos id ids mensajes)).getString keyMensajes keyDefault =
      .ok (joinLoop SeparadorListaBD (mensajes.map Mensaje.serializar)) := rfl
  have hrecargar : (StringUtil.split (joinLoop SeparadorListaBD (mensajes.map Mensaje.serializar))
      SeparadorListaBD).mapM (fun m => ofJson (Mensaje.deserealizar m)) = ofJson (Conversacion.recargar mensajes) :=
    mapM_ofExcept _ _ _
  rw [Conversacion.deserealizar, Conversacion.parse_texto, bind_ok (run_ofJson_ok _ _)]
  simp only [if_true]
  rw [hid, bind_ok (run_ofJson_ok _ _), hidsUsuarios, bind_ok (run_ofJson_ok _ _), bind_ok hus, hmensajes,
    bind_ok (run_ofJson_ok _ _), hrecargar]
  cases Conversacion.recargar mensajes <;> rfl

theorem lee_obtener (clave : Cadena) : Lee (Conversacion.obtener clave) (.sano d o) :=
  (uniforme_obtener clave).lee ⟨rfl, rfl⟩

/-- The text of an index after the entry of a conversation. -/
def entrada (idConversacion valor : Cadena) : Cadena :=
  if idConversacion ∈ StringUtil.split valor SeparadorListaBD then valor
  else valor ++ SeparadorListaBD :: idConversacion

/-- The store after the entry of a conversation in the index of a user. -/
def indexado (idConversacion : Cadena) (d : Cadena → Option Cadena) (idUsuario : Cadena) : Cadena → Option Cadena :=
  Function.update d (claveBaseConversacionesPorUsuario ++ idUsuario)
    (some (entrada idConversacion ((d (claveBaseConversacionesPorUsuario ++ idUsuario)).getD keyDatoNoEncontrado)))

omit [LibC] in
theorem indexar_eq (idConversacion : Cadena) (u : Usuario) :
    indexar idConversacion u = getDato (claveBaseConversacionesPorUsuario ++ u.id) >>= fun valor =>
      setDato (claveBaseConversacionesPorUsuario ++ u.id) (entrada idConversacion valor) := by
  simp only [indexar, entrada, Bool.not_eq_true', ← Bool.not_eq_true, StringUtil.vectorContiene_eq_true, ite_not]

omit [LibC] in
theorem run_indexar (idConversacion : Cadena) (u : Usuario) :
    (indexar idConversacion u).run (.sano d o) = .ok () (.sano (indexado idConversacion d u.id) o) := by
  rw [indexar_eq, bind_ok (run_getDato d o _), run_setDato, indexado]

/-- A conversation is stored, and then entered in the index of each of its users. -/
theorem run_setConversacion (c : Conversacion) :
    (setConversacion c).run (.sano d o) =
      .ok () (.sano ((c.usuarios.map (·.id)).foldl (indexado c.getId)
        (Function.update d (claveBaseConversacion ++ c.getId) (some c.serializar))) o) := by
  rw [setConversacion, bind_ok (run_setDato d o _ _), List.foldl_map]
  exact run_forM_updates (fun d => Estado.sano d o) (fun u d => run_indexar d o c.getId u) c.usuarios _

end Sano

end MensajeroX
