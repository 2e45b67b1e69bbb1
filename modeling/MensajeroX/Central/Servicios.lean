import MensajeroX.Central.Operaciones

/-!
# The services on the central

Every service as a function of the central: what it answers, what it changes and when it raises. These say what
the services are for, without texts and without a store; each is followed by the theorem that the service of the
source, run on a store of the central, does the same.

* `abstrae_almacenarConversacion`, `abstrae_almacenarListaDifusion` : sending;
* `abstrae_obtenerConversacion`, `abstrae_obtenerConversaciones` : fetching;
* `abstrae_administrarServicio` : **every request is served as `Central.servir` says**.
-/

namespace MensajeroX
open Bytes JsonCpp BaseDeDatos Efectos Servicio

/-! ## Users -/

namespace Registrado

theorem id_ne_noEncontrado (u : Registrado) : u.id ≠ keyIdUsuarioNoEncontrado := by
  intro h
  have := congrArg List.length h
  rw [u.id_eq, length_md5] at this
  revert this
  decide

def alta (p : Peticion) : Registrado where
  toUsuario := Usuario.nuevo (getParametro p keyNombre keyDefault) (getParametro p keyTelefono keyDefault)
    (getParametro p keyPassword keyDefault) p.ctime.val
  id_eq := rfl
  telefono_cstr := getParametro_cstr p keyTelefono
  token_cstr := List.not_mem_nil

def conPerfil (u : Registrado) (p : Peticion) : Registrado :=
  { u with
    nombre := getParametro p keyNombre keyDefault
    conectado := StringUtil.toBoolean (getParametro p keyEstadoDeConexion keyDefault)
    fotoDePerfil := getParametro p keyFotoDePerfil keyDefault
    localizacion := getParametro p keyLocalizacion keyDefault
    password := getParametro p keyPassword keyDefault }

/-- A connection is registered, with a new token on demand. -/
def conConexion (u : Registrado) (p : Peticion) : Registrado :=
  { u with
    ultimaConexion := p.ctime.val
    token :=
      if StringUtil.toBoolean (getParametro p keyRenovarToken keyDefault) then md5 (u.telefono ++ p.ctime.val)
      else u.token
    token_cstr := by
      split
      · exact not_mem_md5 (by decide) _
      · exact u.token_cstr }

def conLocalizacion (u : Registrado) (localizacion : Cadena) : Registrado := { u with localizacion := localizacion }

end Registrado

abbrev Resultado := EStateM.Result Excepcion Mundo Unit

/-! ## Services of users -/

namespace Central

def registrarUsuario [LibC] (C : Central) (p : Peticion) : Resultado :=
  match C.usuarios (md5 (getParametro p keyTelefono keyDefault)) with
  | some _ => .ok () ⟨C, [respuesta (bytes "El usuario ya existe") false]⟩
  | none => .ok () ⟨C.conUsuario (.alta p), [respuesta (bytes "Usuario registrado correctamente") true]⟩

def administrarPerfil [LibC] (C : Central) (p : Peticion) : Resultado :=
  match C.usuarios (md5 (getParametro p keyTelefono keyDefault)) with
  | some u =>
    if u.token = getParametro p keyTokenSesion keyDefault then
      .ok () ⟨C.conUsuario (u.conPerfil p), [respuesta (bytes "Se modificaron los datos del usuario " ++
        (u.conPerfil p).nombre ++ bytes " correctamente. Token:" ++ u.token) true]⟩
    else .ok () ⟨C, [respuesta (textoSinToken u.toUsuario) false]⟩
  | none =>
    .ok () ⟨C, [respuesta (bytes "El usuario " ++ Usuario.noEncontrado.nombre ++
      bytes " no se encuentra registrado en el sistema") false]⟩

def consultarUsuarioOnline [LibC] (C : Central) (p : Peticion) : Resultado :=
  match idMetodoGET p urlBaseUsuario with
  | .error e => .error e ⟨C, []⟩
  | .ok telefono =>
    match C.usuarios (md5 telefono) with
    | some u =>
      .ok () ⟨C.conUsuario (u.conConexion p), [respuesta (usuarioJson (u.conConexion p).toUsuario).toStyledString true]⟩
    | none =>
      .ok () ⟨C, [respuesta (bytes "No se pudo obtener el estado del usuario con numero: " ++
        getParametro p keyTelefono keyDefault ++ bytes " ya que no se encuentra registrado en el sistema.") false]⟩

def checkIn [Aritmetica] (C : Central) (lugares : Value) (p : Peticion) : Resultado :=
  match C.usuarios (md5 (getParametro p keyTelefono keyDefault)) with
  | some u =>
    match Localizacion.calcularUbicacion lugares (coordenadas p) with
    | .error e => .error (.json e) ⟨C, []⟩
    | .ok ubicacion =>
      .ok () ⟨C.conUsuario (u.conLocalizacion (ubicacion ++ bytes " " ++ p.fechaYhora.val)),
        [respuesta (ubicacion ++ bytes " " ++ p.fechaYhora.val) true]⟩
  | none => .ok () ⟨C, [respuesta (bytes "el usuario no existe.") false]⟩

/-- The contacts of a list that are registered and connected, one for each time they occur in it. -/
def visibles (C : Central) (telefonos : List Cadena) : List Registrado :=
  telefonos.filterMap fun t => (C.usuarios (md5 t)).filter (·.conectado)

def obtenerContactos [LibC] (C : Central) (p : Peticion) : Resultado :=
  match getParametroVector p keyContantosTelefono with
  | .error e => .error (.json e) ⟨C, []⟩
  | .ok telefonos =>
    .ok () ⟨C, [respuesta (arreglo (bytes "contactos")
      ((C.visibles telefonos).map fun u => contactoJson u.toUsuario)).toStyledString true]⟩

end Central

section Servicios
variable [LibC] {C : Central}

theorem abstrae_registrarUsuario (p : Peticion) :
    Abstrae Visto (Servicio.registrarUsuario p) ⟨C, []⟩ (C.registrarUsuario p) := by
  refine (abstrae_obtenerPorTelefono _).bind ?_
  rw [Central.registrarUsuario]
  cases hu : C.usuarios (md5 (getParametro p keyTelefono keyDefault)) with
  | some u =>
    rw [Central.usuario_eq_some hu, if_pos u.id_ne_noEncontrado]
    exact abstrae_responder _ _
  | none =>
    rw [Central.usuario_eq_none hu, if_neg noEncontrado_id_ne]
    exact (abstrae_persistir (.alta p)).bind (abstrae_responder _ _)

theorem abstrae_administrarPerfil (p : Peticion) :
    Abstrae Visto (Servicio.administrarPerfil p) ⟨C, []⟩ (C.administrarPerfil p) := by
  refine (abstrae_obtenerPorTelefono _).bind ?_
  rw [Central.administrarPerfil]
  cases hu : C.usuarios (md5 (getParametro p keyTelefono keyDefault)) with
  | some u =>
    rw [Central.usuario_eq_some hu, if_pos u.id_ne_noEncontrado]
    by_cases htoken : u.token = getParametro p keyTokenSesion keyDefault
    · simp only [if_pos htoken]
      exact (abstrae_persistir (u.conPerfil p)).bind (abstrae_responder _ _)
    · simp only [if_neg htoken]
      exact abstrae_responder _ _
  | none =>
    rw [Central.usuario_eq_none hu, if_neg noEncontrado_id_ne]
    exact abstrae_responder _ _

theorem abstrae_consultarUsuarioOnline (p : Peticion) :
    Abstrae Visto (Servicio.consultarUsuarioOnline p) ⟨C, []⟩ (C.consultarUsuarioOnline p) := by
  unfold Central.consultarUsuarioOnline
  cases hid : idMetodoGET p urlBaseUsuario with
  | error e => exact (abstrae_idMetodoGET_error hid).bind_error
  | ok telefono =>
    refine (abstrae_idMetodoGET_ok hid).bind ((abstrae_obtenerPorTelefono telefono).bind ?_)
    dsimp only
    cases hu : C.usuarios (md5 telefono) with
    | some u =>
      rw [Central.usuario_eq_some hu, if_pos u.id_ne_noEncontrado]
      have hconexion : (if StringUtil.toBoolean (getParametro p keyRenovarToken keyDefault) then
          (u.registrarUltimaConexion p.ctime.val).calcularTokenDeSesion
          else u.registrarUltimaConexion p.ctime.val) = (u.conConexion p).toUsuario := by
        unfold Registrado.conConexion
        split <;> rfl
      rw [hconexion]
      exact (abstrae_persistir (u.conConexion p)).bind (abstrae_responder _ _)
    | none =>
      rw [Central.usuario_eq_none hu, if_neg noEncontrado_id_ne]
      exact abstrae_responder _ _

omit [LibC] in
theorem visible_toUsuario (u : Registrado) : visible u.toUsuario = u.conectado := by
  simp [visible, u.id_ne_noEncontrado]

omit [LibC] in
theorem filter_visible (telefonos : List Cadena) :
    (telefonos.map fun t => C.usuario (md5 t)).filter visible =
      (C.visibles telefonos).map Registrado.toUsuario := by
  induction telefonos with
  | nil => rfl
  | cons t ts ih =>
    rw [List.map_cons, Central.visibles, List.filterMap_cons]
    cases hu : C.usuarios (md5 t) with
    | none =>
      rw [Central.usuario_eq_none hu, List.filter_cons_of_neg (by decide)]
      exact ih
    | some u =>
      rw [Central.usuario_eq_some hu]
      by_cases hcon : u.conectado = true
      · rw [List.filter_cons_of_pos ((visible_toUsuario u).trans hcon), Option.filter_some, if_pos hcon, ih]
        rfl
      · rw [List.filter_cons_of_neg (by rwa [visible_toUsuario]), Option.filter_some, if_neg hcon]
        exact ih

theorem abstrae_obtenerContactos (p : Peticion) :
    Abstrae Visto (Servicio.obtenerContactos p) ⟨C, []⟩ (C.obtenerContactos p) := by
  unfold Central.obtenerContactos
  cases hvec : getParametroVector p keyContantosTelefono with
  | error e => exact (abstrae_ofJson_error hvec).bind_error
  | ok telefonos =>
    refine (abstrae_ofJson_ok hvec).bind ((Abstrae.mapM_reads fun t _ => abstrae_obtenerPorTelefono t).bind ?_)
    rw [filter_visible, List.map_map]
    exact abstrae_responder _ _

end Servicios

theorem abstrae_checkIn [Aritmetica] {C : Central} (lugares : Value) (p : Peticion) :
    Abstrae Visto (Servicio.checkIn lugares p) ⟨C, []⟩ (C.checkIn lugares p) := by
  refine (abstrae_obtenerPorTelefono _).bind ?_
  unfold Central.checkIn
  cases hu : C.usuarios (md5 (getParametro p keyTelefono keyDefault)) with
  | some u =>
    rw [Central.usuario_eq_some hu, if_pos u.id_ne_noEncontrado]
    dsimp only
    cases Localizacion.calcularUbicacion lugares (coordenadas p) with
    | error e => exact (abstrae_ofJson_error rfl).bind_error
    | ok ubicacion =>
      refine (abstrae_ofJson_ok rfl).bind ?_
      exact (abstrae_persistir (u.conLocalizacion (ubicacion ++ bytes " " ++ p.fechaYhora.val))).bind
        (abstrae_responder _ _)
  | none =>
    rw [Central.usuario_eq_none hu, if_neg noEncontrado_id_ne]
    exact abstrae_responder _ _

/-! ## Sending -/

namespace Central

/-- What is answered after a change of the central that did not raise. -/
def seguido (salida : Cadena) : EStateM.Result Excepcion Central PUnit → Resultado
  | .ok _ C => .ok () ⟨C, [salida]⟩
  | .error e C => .error e ⟨C, []⟩

def almacenarConversacion [LibC] (C : Central) (p : Peticion) : Resultado :=
  match C.usuarios (md5 (getParametro p keyIdUsuarioEmisor keyDefault)),
    C.usuarios (md5 (getParametro p keyIdUsuarioReceptor keyDefault)) with
  | some e, some r =>
    if e.token = getParametro p keyTokenSesion keyDefault then
      seguido (respuesta (mensajeDe p e.toUsuario).id true) (C.entregar e.id r.id (mensajeDe p e.toUsuario))
    else .ok () ⟨C, [respuesta (textoSinToken e.toUsuario) false]⟩
  | e, r =>
    .ok () ⟨C, [respuesta (bytes "No se pudo almacenar la conversacion porque: " ++
      (if e.isNone then bytes "el emisor no existe." else []) ++
      (if r.isNone then bytes " el receptor no existe." else [])) false]⟩

def difundir [LibC] (C : Central) (e : Cadena) (m : Mensaje) (telefono : Cadena) :
    EStateM.Result Excepcion Central PUnit :=
  match (C.usuarios (md5 telefono)).filter (·.conectado) with
  | some u => C.entregar e u.id m
  | none => .ok ⟨⟩ C

/-- The deliveries of a broadcast, up to the first one that raises. -/
def difundirTodos [LibC] (C : Central) (e : Cadena) (m : Mensaje) (telefonos : List Cadena) :
    EStateM.Result Excepcion Central PUnit :=
  recorrer (fun C t => C.difundir e m t) telefonos C

def almacenarListaDifusion [LibC] (C : Central) (p : Peticion) : Resultado :=
  match getParametroVector p keyContantosTelefono with
  | .error e => .error (.json e) ⟨C, []⟩
  | .ok telefonos =>
    match C.usuarios (md5 (getParametro p keyIdUsuarioEmisor keyDefault)) with
    | none =>
      .ok () ⟨C, [respuesta (bytes "No se pudo almacenar la lista de difusion porque el emisor no existe") false]⟩
    | some e =>
      if e.token ≠ getParametro p keyTokenSesion keyDefault then
        .ok () ⟨C, [respuesta (textoSinToken e.toUsuario) false]⟩
      else
        seguido (respuesta (bytes "Lista de difusion enviada correctamente") true)
          (C.difundirTodos e.id (mensajeDe p e.toUsuario) telefonos)

theorem isSome_of_eq {C : Central} {k : Cadena} {u : Registrado} (h : C.usuarios k = some u) :
    (C.usuarios u.id).isSome := by
  rw [C.claves k u h, h]
  rfl

theorem usuarios_difundir [LibC] (C : Central) (e : Cadena) (m : Mensaje) (t : Cadena) :
    (final (C.difundir e m t)).usuarios = C.usuarios := by
  unfold difundir
  split
  · exact usuarios_entregar C e _ m
  · rfl

end Central

section Envio
variable [LibC] {C : Central}

theorem abstrae_seguido {x : Accion Unit} {r : EStateM.Result Excepcion Central PUnit}
    (hx : Abstrae Visto x ⟨C, []⟩ (conSalidas [] r)) (mensaje : Cadena) (success : Bool) :
    Abstrae Visto (x >>= fun _ => responder mensaje success) ⟨C, []⟩
      (Central.seguido (respuesta mensaje success) r) := by
  cases r with
  | ok a C' => exact hx.bind (abstrae_responder _ _)
  | error e C' => exact hx.bind_error

theorem abstrae_almacenarConversacion (p : Peticion) :
    Abstrae Visto (Servicio.almacenarConversacion p) ⟨C, []⟩ (C.almacenarConversacion p) := by
  refine (abstrae_obtenerPorTelefono _).bind ((abstrae_obtenerPorTelefono _).bind ?_)
  unfold Central.almacenarConversacion
  cases he : C.usuarios (md5 (getParametro p keyIdUsuarioEmisor keyDefault)) with
  | none =>
    rw [Central.usuario_eq_none he, if_pos (.inl rfl)]
    cases hr : C.usuarios (md5 (getParametro p keyIdUsuarioReceptor keyDefault)) with
    | none =>
      rw [Central.usuario_eq_none hr]
      exact abstrae_responder _ _
    | some r =>
      rw [Central.usuario_eq_some hr, if_neg r.id_ne_noEncontrado]
      exact abstrae_responder _ _
  | some e =>
    rw [Central.usuario_eq_some he]
    cases hr : C.usuarios (md5 (getParametro p keyIdUsuarioReceptor keyDefault)) with
    | none =>
      rw [Central.usuario_eq_none hr, if_pos (.inr rfl), if_neg e.id_ne_noEncontrado]
      exact abstrae_responder _ _
    | some r =>
      rw [Central.usuario_eq_some hr, if_neg (not_or.mpr ⟨e.id_ne_noEncontrado, r.id_ne_noEncontrado⟩)]
      dsimp only
      by_cases htoken : e.token = getParametro p keyTokenSesion keyDefault
      · rw [if_pos htoken, if_pos htoken]
        exact abstrae_seguido
          (abstrae_almacenarMensaje (Central.isSome_of_eq he) (Central.isSome_of_eq hr) _) _ _
      · rw [if_neg htoken, if_neg htoken]
        exact abstrae_responder _ _

theorem abstrae_difundir {e : Usuario} (he : (C.usuarios e.id).isSome) (m : Mensaje) (t : Cadena) :
    Abstrae Visto (Servicio.difundir e m t) ⟨C, []⟩ (conSalidas [] (C.difundir e.id m t)) := by
  refine (abstrae_obtenerPorTelefono t).bind ?_
  unfold Central.difundir
  cases hu : C.usuarios (md5 t) with
  | none =>
    rw [Central.usuario_eq_none hu, if_neg (by decide)]
    exact Abstrae.pure _
  | some u =>
    rw [Central.usuario_eq_some hu, visible_toUsuario, Option.filter_some]
    by_cases hcon : u.conectado = true
    · rw [if_pos hcon, if_pos hcon]
      exact abstrae_almacenarMensaje he (Central.isSome_of_eq hu) m
    · rw [if_neg hcon, if_neg hcon]
      exact Abstrae.pure _

theorem recorrer_conSalidas (e : Cadena) (m : Mensaje) (ts : List Cadena) (C : Central) :
    recorrer (fun t x => conSalidas t.salidas (t.central.difundir e m x)) ts ⟨C, []⟩ =
      conSalidas [] (C.difundirTodos e m ts) := by
  induction ts generalizing C with
  | nil => rfl
  | cons t ts ih =>
    simp only [Central.difundirTodos, recorrer]
    cases C.difundir e m t with
    | ok a C' => exact ih C'
    | error ex C' => rfl

theorem abstrae_difundirTodos {e : Usuario} (he : (C.usuarios e.id).isSome) (m : Mensaje) (ts : List Cadena) :
    Abstrae Visto (forM ts (Servicio.difundir e m)) ⟨C, []⟩ (conSalidas [] (C.difundirTodos e.id m ts)) := by
  rw [← recorrer_conSalidas]
  refine Abstrae.forM (p := fun t => (t.central.usuarios e.id).isSome ∧ t.salidas = []) ?_ ?_ ⟨he, rfl⟩
  · rintro x - ⟨C, o⟩ ⟨hsome, rfl⟩
    exact abstrae_difundir hsome m x
  · rintro x ⟨C, o⟩ t' ⟨hsome, rfl⟩ hok
    have hus := C.usuarios_difundir e.id m x
    dsimp only at hok
    cases hd : C.difundir e.id m x with
    | error ex C' =>
      rw [hd] at hok
      cases hok
    | ok a C' =>
      rw [hd] at hok hus
      cases hok
      exact ⟨hus ▸ hsome, rfl⟩

theorem abstrae_almacenarListaDifusion (p : Peticion) :
    Abstrae Visto (Servicio.almacenarListaDifusion p) ⟨C, []⟩ (C.almacenarListaDifusion p) := by
  unfold Central.almacenarListaDifusion
  cases hvec : getParametroVector p keyContantosTelefono with
  | error e => exact (abstrae_ofJson_error hvec).bind_error
  | ok telefonos =>
    refine (abstrae_ofJson_ok hvec).bind ((abstrae_obtenerPorTelefono _).bind ?_)
    dsimp only
    cases he : C.usuarios (md5 (getParametro p keyIdUsuarioEmisor keyDefault)) with
    | none =>
      rw [Central.usuario_eq_none he, if_pos noEncontrado_id]
      exact abstrae_responder _ _
    | some e =>
      rw [Central.usuario_eq_some he, if_neg e.id_ne_noEncontrado]
      dsimp only
      by_cases htoken : e.token ≠ getParametro p keyTokenSesion keyDefault
      · rw [if_pos htoken, if_pos htoken]
        exact abstrae_responder _ _
      · rw [if_neg htoken, if_neg htoken]
        exact abstrae_seguido (abstrae_difundirTodos (Central.isSome_of_eq he) _ _) _ _

end Envio

/-! ## Fetching -/

namespace Chat

/-- The participant that a user talks to; the user, when they talk to themself. -/
def otro (c : Chat) (u : Cadena) : Cadena := if c.a = u then c.b else c.a

/-- A conversation with the messages that a load reads. -/
def leido [LibC] (c : Chat) : Except Exn (Chat × List Mensaje) := (Conversacion.recargar c.mensajes).map (c, ·)

theorem leido_eq_ok_iff [LibC] {c : Chat} {q : Chat × List Mensaje} :
    c.leido = .ok q ↔ ∃ ms, Conversacion.recargar c.mensajes = .ok ms ∧ (c, ms) = q := by
  rw [leido]
  cases Conversacion.recargar c.mensajes <;> simp [Except.map]

end Chat

namespace Central

/-- `obtenerIdConversacion`. Without a conversation the answer is the marker of a missing one: the service compares
the id with the marker of a missing user. -/
def obtenerIdConversacion [LibC] (C : Central) (p : Peticion) : Resultado :=
  match C.usuarios (md5 (getParametro p keyTelefonoEmisor keyDefault)),
    C.usuarios (md5 (getParametro p keyTelefonoReceptor keyDefault)) with
  | some e, some r =>
    match C.entre e.id r.id with
    | none => .ok () ⟨C, [respuesta keyIdConversacionNoEncontrada true]⟩
    | some c =>
      match Conversacion.recargar c.mensajes with
      | .ok _ => .ok () ⟨C, [respuesta c.id true]⟩
      | .error ex => .error (.json ex) ⟨C, []⟩
  | _, _ =>
    .ok () ⟨C, [respuesta (bytes "Usuario " ++ Usuario.noEncontrado.nombre ++
      bytes " no se encuentra registrado en el sistema") false]⟩

def pedidos (p : Peticion) (ms : List Mensaje) : List Mensaje :=
  if getParametro p keyIdUltimoMensaje keyDefault ≠ [] then
    mensajesDesde (getParametro p keyIdUltimoMensaje keyDefault) false ms
  else ms

def obtenerConversacion [LibC] (C : Central) (p : Peticion) : Resultado :=
  match idMetodoGET p urlBaseConversacion with
  | .error e => .error e ⟨C, []⟩
  | .ok k =>
    match C.buscar k with
    | none =>
      .ok () ⟨C, [respuesta (bytes "La conversacion " ++ k ++ bytes " no se encuentra en el sistema") false]⟩
    | some c =>
      match Conversacion.recargar c.mensajes with
      | .ok ms => .ok () ⟨C, [respuesta (mensajesJson (pedidos p ms)).toStyledString true]⟩
      | .error e => .error (.json e) ⟨C, []⟩

/-- The conversations of a user that are not in a list, with their messages. -/
def leidos [LibC] (C : Central) (u : Cadena) (ids : List Cadena) : Except Exn (List (Chat × List Mensaje)) :=
  (C.chats.filter fun c => c.Participa u ∧ c.id ∉ ids).mapM Chat.leido

/-- The entry of a conversation in the list that a user gets. -/
def entrada (C : Central) (u : Cadena) (q : Chat × List Mensaje) : Value :=
  entradaJson q.1.id (q.2.getLastD {}) (C.usuario (q.1.otro u))

def obtenerConversaciones [LibC] (C : Central) (p : Peticion) : Resultado :=
  match getParametroVector p keyIdConversaciones with
  | .error e => .error (.json e) ⟨C, []⟩
  | .ok ids =>
    match idMetodoGET p urlBaseUsuarioConversaciones with
    | .error e => .error e ⟨C, []⟩
    | .ok telefono =>
      match C.usuarios (md5 telefono) with
      | none => .ok () ⟨C, []⟩
      | some u =>
        match C.leidos u.id ids with
        | .error e => .error (.json e) ⟨C, []⟩
        | .ok qs => .ok () ⟨C, [respuesta (arreglo (bytes "conversaciones") (qs.map (C.entrada u.id))).toStyledString true]⟩

end Central

section Consulta
variable [LibC] {C : Central}

theorem abstrae_obtenerConversacion (p : Peticion) :
    Abstrae Visto (Servicio.obtenerConversacion p) ⟨C, []⟩ (C.obtenerConversacion p) := by
  unfold Central.obtenerConversacion
  cases hid : idMetodoGET p urlBaseConversacion with
  | error e => exact (abstrae_idMetodoGET_error hid).bind_error
  | ok k =>
    refine (abstrae_idMetodoGET_ok hid).bind ?_
    dsimp only
    cases hc : C.buscar k with
    | none =>
      refine (abstrae_obtener_none hc).bind ?_
      rw [if_neg noEncontrada_getId_ne]
      exact abstrae_responder _ _
    | some c =>
      dsimp only
      cases hms : Conversacion.recargar c.mensajes with
      | error e => exact (abstrae_obtener_error hc hms).bind_error
      | ok ms =>
        refine (abstrae_obtener_ok hc hms).bind ?_
        rw [if_pos (getId_cargado_ne (Central.buscar_eq_some_iff.mp hc).1 ms)]
        exact abstrae_responder _ _

theorem abstrae_responder_id {c : Chat} (hc : c ∈ C.chats) (ms : List Mensaje) (x : Accion Unit) :
    Abstrae Visto (if (c.cargado C ms).getId ≠ keyIdUsuarioNoEncontrado then
        responder (c.cargado C ms).getId true else x) ⟨C, []⟩ (.ok () ⟨C, [respuesta c.id true]⟩) := by
  rw [getId_cargado hc, if_pos (id_ne hc (by decide))]
  exact abstrae_responder _ _

theorem abstrae_obtenerIdConversacion (p : Peticion) :
    Abstrae Visto (Servicio.obtenerIdConversacion p) ⟨C, []⟩ (C.obtenerIdConversacion p) := by
  refine (abstrae_obtenerPorTelefono _).bind ((abstrae_obtenerPorTelefono _).bind ?_)
  unfold Central.obtenerIdConversacion
  cases he : C.usuarios (md5 (getParametro p keyTelefonoEmisor keyDefault)) with
  | none =>
    rw [Central.usuario_eq_none he, if_neg fun h => noEncontrado_id_ne h.1, if_pos noEncontrado_id]
    exact abstrae_responder _ _
  | some e =>
    rw [Central.usuario_eq_some he]
    cases hr : C.usuarios (md5 (getParametro p keyTelefonoReceptor keyDefault)) with
    | none =>
      rw [Central.usuario_eq_none hr, if_neg fun h => noEncontrado_id_ne h.2, if_neg e.id_ne_noEncontrado]
      exact abstrae_responder _ _
    | some r =>
      rw [Central.usuario_eq_some hr, if_pos ⟨e.id_ne_noEncontrado, r.id_ne_noEncontrado⟩]
      dsimp only
      rw [Central.entre_eq_buscar]
      cases h₁ : C.buscar (e.id ++ Conversacion.guion :: r.id) with
      | some c =>
        have hmem := (Central.buscar_eq_some_iff.mp h₁).1
        rw [Option.some_or]
        dsimp only
        cases hms : Conversacion.recargar c.mensajes with
        | error ex => exact (abstrae_obtener_error h₁ hms).bind_error
        | ok ms =>
          refine (abstrae_obtener_ok h₁ hms).bind ?_
          rw [if_neg (getId_cargado_ne hmem ms)]
          exact (Abstrae.pure _).bind (abstrae_responder_id hmem ms _)
      | none =>
        rw [Option.none_or]
        refine (abstrae_obtener_none h₁).bind ?_
        rw [if_pos noEncontrada_getId]
        cases h₂ : C.buscar (r.id ++ Conversacion.guion :: e.id) with
        | some c =>
          have hmem := (Central.buscar_eq_some_iff.mp h₂).1
          dsimp only
          cases hms : Conversacion.recargar c.mensajes with
          | error ex => exact (abstrae_obtener_error h₂ hms).bind_error
          | ok ms => exact (abstrae_obtener_ok h₂ hms).bind (abstrae_responder_id hmem ms _)
        | none =>
          refine (abstrae_obtener_none h₂).bind ?_
          rw [if_pos (by decide)]
          exact abstrae_responder _ _

/-- The loaded conversation of a pair that `leidos` gives. -/
def cargadoDe (C : Central) (q : Chat × List Mensaje) : Conversacion := q.1.cargado C q.2

/-- The first loop of `obtenerConversaciones`, over the ids of conversations. -/
theorem abstrae_nuevasConversaciones (ids : List Cadena) (cs : List Chat) (hcs : ∀ c ∈ cs, c ∈ C.chats) {o : List Cadena} :
    Abstrae Visto (nuevasConversaciones ids (cs.map Chat.id)) ⟨C, o⟩
      (match (cs.filter fun c => c.id ∉ ids).mapM Chat.leido with
        | .ok qs => .ok (qs.map (cargadoDe C)) ⟨C, o⟩
        | .error e => .error (.json e) ⟨C, o⟩) := by
  induction cs with
  | nil => exact Abstrae.pure []
  | cons c cs ih =>
    have hc := hcs c (by simp)
    have ih := ih fun c' hc' => hcs c' (by simp [hc'])
    rw [List.map_cons, nuevasConversaciones]
    by_cases hin : c.id ∈ ids
    · rw [if_neg (by simpa [StringUtil.vectorContiene_eq_true] using hin), List.filter_cons_of_neg (by simpa using hin)]
      exact ih
    · rw [if_pos (by simpa [← Bool.not_eq_true, StringUtil.vectorContiene_eq_true] using hin),
        List.filter_cons_of_pos (by simpa using hin), List.mapM_cons]
      have hbuscar := Central.buscar_eq_some_iff.mpr ⟨hc, rfl⟩
      cases hms : Conversacion.recargar c.mensajes with
      | error e =>
        have hleido : c.leido = .error e := by rw [Chat.leido, hms]; rfl
        rw [hleido]
        exact (abstrae_obtener_error hbuscar hms).bind_error
      | ok ms =>
        have hleido : c.leido = .ok (c, ms) := by rw [Chat.leido, hms]; rfl
        rw [hleido]
        refine (abstrae_obtener_ok hbuscar hms).bind ?_
        cases hqs : (cs.filter fun c => c.id ∉ ids).mapM Chat.leido with
        | error e =>
          rw [hqs] at ih
          exact ih.bind_error
        | ok qs =>
          rw [hqs] at ih
          refine ih.bind ?_
          rw [if_pos (getId_cargado_ne hc ms)]
          exact Abstrae.pure _

/-- The marker at the head of an index names no conversation, so the loop passes over it. -/
theorem abstrae_nuevas_indice (ids : List Cadena) (u : Cadena) {o : List Cadena} :
    Abstrae Visto (nuevasConversaciones ids (keyDatoNoEncontrado :: C.indice u)) ⟨C, o⟩
      (match C.leidos u ids with
        | .ok qs => .ok (qs.map (cargadoDe C)) ⟨C, o⟩
        | .error e => .error (.json e) ⟨C, o⟩) := by
  have hresto := abstrae_nuevasConversaciones (C := C) (o := o) ids (C.chats.filter fun c => c.Participa u)
    fun c hc => (List.mem_filter.mp hc).1
  have hfilter : (C.chats.filter fun c => c.Participa u).filter (fun c => c.id ∉ ids) =
      C.chats.filter fun c => c.Participa u ∧ c.id ∉ ids := by
    rw [List.filter_filter]
    simp only [Bool.decide_and, Bool.and_comm]
  rw [hfilter] at hresto
  rw [nuevasConversaciones]
  split
  · have hnone : C.buscar keyDatoNoEncontrado = none :=
      Central.buscar_eq_none_iff.mpr fun c hc => id_ne hc (by decide)
    refine (abstrae_obtener_none hnone).bind ?_
    rw [Central.leidos]
    cases hqs : (C.chats.filter fun c => c.Participa u ∧ c.id ∉ ids).mapM Chat.leido with
    | error e =>
      rw [hqs] at hresto
      exact hresto.bind_error
    | ok qs =>
      rw [hqs] at hresto
      refine hresto.bind ?_
      rw [if_neg noEncontrada_getId_ne]
      exact Abstrae.pure _
  · exact hresto

/-- Every conversation that was loaded has a message. -/
theorem leido_ne_nil {cs : List Chat} {qs : List (Chat × List Mensaje)} (h : cs.mapM Chat.leido = .ok qs)
    {q : Chat × List Mensaje} (hq : q ∈ qs) : q.1 ∈ cs ∧ q.2 ≠ [] := by
  obtain ⟨c, hc, hleido⟩ := exists_of_mem_mapM h hq
  obtain ⟨ms, hms, rfl⟩ := Chat.leido_eq_ok_iff.mp hleido
  refine ⟨hc, fun hnil => ?_⟩
  have hle := Conversacion.length_le_recargar hms
  rw [show ms = [] from hnil, List.length_nil] at hle
  exact c.noVacio (List.length_eq_zero_iff.mp (Nat.le_zero.mp hle))

/-- The second loop of `obtenerConversaciones`: all its accesses are in range. -/
theorem abstrae_conversacionJson {u : Usuario} {q : Chat × List Mensaje} (hc : q.1 ∈ C.chats) (hne : q.2 ≠ [])
    {o : List Cadena} : Abstrae Visto (conversacionJson u (cargadoDe C q)) ⟨C, o⟩ (.ok (C.entrada u.id q) ⟨C, o⟩) := by
  obtain ⟨ha, -⟩ := C.participantes q.1 hc
  apply Abstrae.of_reads
  intro s _
  have hultimo : (ultimo (cargadoDe C q).mensajes).run s = .ok (q.2.getLastD {}) s := by
    have hlast : (cargadoDe C q).mensajes.getLast? = some (q.2.getLastD {}) := by
      show q.2.getLast? = _
      rw [List.getLast?_eq_some_getLast hne, List.getLastD_eq_getLast?, List.getLast?_eq_some_getLast hne]
      rfl
    rw [ultimo, hlast]
    rfl
  have h0 : (posicion (cargadoDe C q).usuarios 0).run s = .ok (C.usuario q.1.a) s := rfl
  have h1 : (posicion (cargadoDe C q).usuarios 1).run s = .ok (C.usuario q.1.b) s := rfl
  rw [conversacionJson, bind_ok hultimo, bind_ok h0, Central.usuario_id ha, Central.entrada, Chat.otro]
  by_cases hau : q.1.a = u.id
  · rw [if_pos hau, if_pos hau, bind_ok h1, cargadoDe, getId_cargado hc]
    rfl
  · rw [if_neg hau, if_neg hau, cargadoDe, getId_cargado hc]
    rfl

theorem abstrae_obtenerConversaciones (p : Peticion) :
    Abstrae Visto (Servicio.obtenerConversaciones p) ⟨C, []⟩ (C.obtenerConversaciones p) := by
  unfold Central.obtenerConversaciones
  cases hvec : getParametroVector p keyIdConversaciones with
  | error e => exact (abstrae_ofJson_error hvec).bind_error
  | ok ids =>
    refine (abstrae_ofJson_ok hvec).bind ?_
    dsimp only
    cases hid : idMetodoGET p urlBaseUsuarioConversaciones with
    | error e => exact (abstrae_idMetodoGET_error hid).bind_error
    | ok telefono =>
      refine (abstrae_idMetodoGET_ok hid).bind ((abstrae_obtenerPorTelefono telefono).bind ?_)
      dsimp only
      cases hu : C.usuarios (md5 telefono) with
      | none =>
        rw [Central.usuario_eq_none hu, if_neg noEncontrado_id_ne]
        exact Abstrae.pure _
      | some u =>
        rw [Central.usuario_eq_some hu, if_pos u.id_ne_noEncontrado]
        refine (abstrae_obtnerIdsConversaciones u.toUsuario).bind ?_
        have hnuevas := abstrae_nuevas_indice (C := C) (o := []) ids u.id
        dsimp only
        cases hqs : C.leidos u.id ids with
        | error e =>
          rw [hqs] at hnuevas
          exact hnuevas.bind_error
        | ok qs =>
          rw [hqs] at hnuevas
          have hentradas : Abstrae Visto ((qs.map (cargadoDe C)).mapM (conversacionJson u.toUsuario)) ⟨C, []⟩
              (.ok (qs.map (C.entrada u.id)) ⟨C, []⟩) := by
            rw [List.mapM_map]
            refine Abstrae.mapM_reads fun q hq => ?_
            obtain ⟨hmem, hne⟩ := leido_ne_nil hqs hq
            exact abstrae_conversacionJson (List.mem_filter.mp hmem).1 hne
          exact hnuevas.bind (hentradas.bind (abstrae_responder _ _))

end Consulta

/-! ## Requests -/

/-- `administrarServicio`. -/
def Central.servir [Aritmetica] (C : Central) (lugares : Value) (p : Peticion) : Resultado :=
  match Servidor.parsearURI p with
  | .prueba => .ok () ⟨C, []⟩
  | .registrarUsuario => C.registrarUsuario p
  | .administrarPerfil => C.administrarPerfil p
  | .almacenarConversacion => C.almacenarConversacion p
  | .obtenerIdConversacion => C.obtenerIdConversacion p
  | .obtenerConversacion => C.obtenerConversacion p
  | .obtenerConversaciones => C.obtenerConversaciones p
  | .consultarUsuarioOnline => C.consultarUsuarioOnline p
  | .obtenerContactos => C.obtenerContactos p
  | .almacenarListaDifusion => C.almacenarListaDifusion p
  | .checkinUsuario => C.checkIn lugares p
  | .invalido => .ok () ⟨C, [bytes "Servicio no encontrado"]⟩

/-- **Every request is served as `Central.servir` says.** -/
theorem abstrae_administrarServicio [Aritmetica] {C : Central} (lugares : Value) (p : Peticion) :
    Abstrae Visto (Servidor.administrarServicio lugares p) ⟨C, []⟩ (C.servir lugares p) := by
  unfold Servidor.administrarServicio Central.servir
  cases Servidor.parsearURI p with
  | prueba => exact Abstrae.pure ()
  | registrarUsuario => exact abstrae_registrarUsuario p
  | administrarPerfil => exact abstrae_administrarPerfil p
  | almacenarConversacion => exact abstrae_almacenarConversacion p
  | obtenerIdConversacion => exact abstrae_obtenerIdConversacion p
  | obtenerConversacion => exact abstrae_obtenerConversacion p
  | obtenerConversaciones => exact abstrae_obtenerConversaciones p
  | consultarUsuarioOnline => exact abstrae_consultarUsuarioOnline p
  | obtenerContactos => exact abstrae_obtenerContactos p
  | almacenarListaDifusion => exact abstrae_almacenarListaDifusion p
  | checkinUsuario => exact abstrae_checkIn lugares p
  | invalido => exact abstrae_mg_printf_data _

end MensajeroX
