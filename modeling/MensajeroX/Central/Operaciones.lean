import MensajeroX.Central.Representa
import MensajeroX.Servidor.Servidor

/-!
# The operations of the services, on the central

What the accesses of a service to the store do to the central that the store represents.

* `abstrae_getUsuario`, `abstrae_obtener_ok`, `abstrae_obtener_error`, `abstrae_obtener_none` : reading users and conversations;
* `abstrae_persistir` : storing a user;
* `abstrae_almacenarMensaje` : **a message is delivered as `Central.entregar` says**.
-/

namespace MensajeroX
open Bytes JsonCpp BaseDeDatos Efectos Servicio

structure Mundo where
  central : Central
  salidas : List Cadena

/-- The state of a request: a sound store of the central, and the answers. -/
def Visto [LibC] (t : Mundo) (s : Estado) : Prop := ∃ d, s = .sano d t.salidas ∧ Representa t.central d

/-! ## Operations -/

theorem Central.usuario_eq_some {C : Central} {k : Cadena} {u : Registrado} (h : C.usuarios k = some u) :
    C.usuario k = u.toUsuario := by
  rw [Central.usuario, h]
  rfl

theorem Central.usuario_eq_none {C : Central} {k : Cadena} (h : C.usuarios k = none) :
    C.usuario k = Usuario.noEncontrado := by
  rw [Central.usuario, h]
  rfl

theorem Central.usuario_id {C : Central} {k : Cadena} (h : (C.usuarios k).isSome) : (C.usuario k).id = k := by
  obtain ⟨u, hu⟩ := Option.isSome_iff_exists.mp h
  rw [usuario_eq_some hu, C.claves k u hu]

theorem Representa.run_obtenerPorTelefono [LibC] {C : Central} {d : Cadena → Option Cadena} (h : Representa C d)
    (o : List Cadena) (telefono : Cadena) {u : Registrado} (hu : C.usuarios (md5 telefono) = some u) :
    (Usuario.obtenerPorTelefono telefono).run (.sano d o) = .ok u.toUsuario (.sano d o) := by
  have hrun := h.run_getUsuario o (md5 telefono)
  rwa [Central.usuario_eq_some hu] at hrun

theorem noEncontrado_id : Usuario.noEncontrado.id = keyIdUsuarioNoEncontrado := rfl

theorem noEncontrado_id_ne : ¬ Usuario.noEncontrado.id ≠ keyIdUsuarioNoEncontrado := not_not.mpr rfl

section Operaciones
variable [LibC] {C : Central} {o : List Cadena}

theorem abstrae_getUsuario (k : Cadena) :
    Abstrae Visto (getUsuario k) ⟨C, o⟩ (.ok (C.usuario k) ⟨C, o⟩) := by
  apply Abstrae.of_reads
  rintro s ⟨d, rfl, h⟩
  exact h.run_getUsuario o k

theorem abstrae_obtenerPorTelefono (telefono : Cadena) :
    Abstrae Visto (Usuario.obtenerPorTelefono telefono) ⟨C, o⟩ (.ok (C.usuario (md5 telefono)) ⟨C, o⟩) :=
  abstrae_getUsuario _

theorem abstrae_persistir (u : Registrado) :
    Abstrae Visto u.persistir ⟨C, o⟩ (.ok () ⟨C.conUsuario u, o⟩) := by
  rintro s ⟨d, rfl, h⟩
  exact ⟨_, ⟨_, rfl, h.conUsuario u⟩, run_setDato d o _ _⟩

theorem abstrae_mg_printf_data (formato : Cadena) :
    Abstrae Visto (mg_printf_data formato) ⟨C, o⟩ (.ok () ⟨C, o ++ [formato]⟩) := by
  rintro s ⟨d, rfl, h⟩
  exact ⟨_, ⟨d, rfl, h⟩, rfl⟩

theorem abstrae_responder (mensaje : Cadena) (success : Bool) :
    Abstrae Visto (responder mensaje success) ⟨C, o⟩ (.ok () ⟨C, o ++ [respuesta mensaje success]⟩) :=
  abstrae_mg_printf_data _

theorem abstrae_ofJson_ok {α : Type} {r : Except Exn α} {a : α} (h : r = .ok a) :
    Abstrae Visto (ofJson r) ⟨C, o⟩ (.ok a ⟨C, o⟩) := by
  subst h
  exact Abstrae.of_reads fun _ _ => rfl

theorem abstrae_ofJson_error {α : Type} {r : Except Exn α} {e : Exn} (h : r = .error e) :
    Abstrae Visto (ofJson r) ⟨C, o⟩ (.error (.json e) ⟨C, o⟩) := by
  subst h
  exact Abstrae.of_throws fun _ _ => rfl

theorem abstrae_idMetodoGET_ok {p : Peticion} {urlBase id : Cadena} (h : idMetodoGET p urlBase = .ok id) :
    Abstrae Visto (getParametroIdMetodoGET p urlBase) ⟨C, o⟩ (.ok id ⟨C, o⟩) := by
  rw [getParametroIdMetodoGET, h]
  exact Abstrae.of_reads fun _ _ => rfl

theorem abstrae_idMetodoGET_error {p : Peticion} {urlBase : Cadena} {e : Excepcion}
    (h : idMetodoGET p urlBase = .error e) :
    Abstrae Visto (getParametroIdMetodoGET p urlBase) ⟨C, o⟩ (.error e ⟨C, o⟩) := by
  rw [getParametroIdMetodoGET, h]
  exact Abstrae.of_throws fun _ _ => rfl

/-- The conversation `c` as it is loaded, when its messages are read as `ms`. -/
def Chat.cargado (C : Central) (c : Chat) (ms : List Mensaje) : Conversacion where
  id := c.id
  mensajes := ms
  usuarios := [C.usuario c.a, C.usuario c.b]

theorem Representa.run_obtener {d : Cadena → Option Cadena} (h : Representa C d) {c : Chat} (hc : c ∈ C.chats)
    {ms : List Mensaje} (hms : Conversacion.recargar c.mensajes = .ok ms) (o : List Cadena) :
    (Conversacion.obtener c.id).run (.sano d o) = .ok (c.cargado C ms) (.sano d o) := by
  have hrun := h.run_getConversacion_some o (Central.buscar_eq_some_iff.mpr ⟨hc, rfl⟩)
  rwa [hms] at hrun

/-- A conversation with a message that cannot be read is not loaded. -/
theorem Representa.run_obtener_error {d : Cadena → Option Cadena} (h : Representa C d) {c : Chat} (hc : c ∈ C.chats)
    {e : Exn} (hms : Conversacion.recargar c.mensajes = .error e) (o : List Cadena) :
    (Conversacion.obtener c.id).run (.sano d o) = .error (.json e) (.sano d o) := by
  have hrun := h.run_getConversacion_some o (Central.buscar_eq_some_iff.mpr ⟨hc, rfl⟩)
  rwa [hms] at hrun

theorem abstrae_obtener_ok {k : Cadena} {c : Chat} (hc : C.buscar k = some c) {ms : List Mensaje}
    (hms : Conversacion.recargar c.mensajes = .ok ms) :
    Abstrae Visto (Conversacion.obtener k) ⟨C, o⟩ (.ok (c.cargado C ms) ⟨C, o⟩) := by
  obtain ⟨hmem, rfl⟩ := Central.buscar_eq_some_iff.mp hc
  apply Abstrae.of_reads
  rintro s ⟨d, rfl, h⟩
  exact h.run_obtener hmem hms o

theorem abstrae_obtener_error {k : Cadena} {c : Chat} (hc : C.buscar k = some c) {e : Exn}
    (hms : Conversacion.recargar c.mensajes = .error e) :
    Abstrae Visto (Conversacion.obtener k) ⟨C, o⟩ (.error (.json e) ⟨C, o⟩) := by
  obtain ⟨hmem, rfl⟩ := Central.buscar_eq_some_iff.mp hc
  apply Abstrae.of_throws
  rintro s ⟨d, rfl, h⟩
  exact h.run_obtener_error hmem hms o

theorem abstrae_obtener_none {k : Cadena} (hk : C.buscar k = none) :
    Abstrae Visto (Conversacion.obtener k) ⟨C, o⟩ (.ok Conversacion.noEncontrada ⟨C, o⟩) := by
  apply Abstrae.of_reads
  rintro s ⟨d, rfl, h⟩
  exact h.run_getConversacion_none o hk

/-- The index of a user starts with the marker of missing data. -/
theorem abstrae_obtnerIdsConversaciones (u : Usuario) :
    Abstrae Visto u.obtnerIdsConversaciones ⟨C, o⟩ (.ok (keyDatoNoEncontrado :: C.indice u.id) ⟨C, o⟩) := by
  apply Abstrae.of_reads
  rintro s ⟨d, rfl, h⟩
  exact h.run_getIds o u.id

omit [LibC] in
theorem getId_cargado {c : Chat} (hc : c ∈ C.chats) (ms : List Mensaje) : (c.cargado C ms).getId = c.id := by
  unfold Conversacion.getId
  exact if_pos (entrada_id hc).1

omit [LibC] in
theorem ids_cargado {c : Chat} (hc : c ∈ C.chats) (ms : List Mensaje) :
    (c.cargado C ms).usuarios.map (·.id) = [c.a, c.b] := by
  obtain ⟨ha, hb⟩ := C.participantes c hc
  show [(C.usuario c.a).id, (C.usuario c.b).id] = [c.a, c.b]
  rw [Central.usuario_id ha, Central.usuario_id hb]

theorem run_persistir_cargado {c : Chat} (hc : c ∈ C.chats) (ms : List Mensaje) (m : Mensaje)
    (d : Cadena → Option Cadena) :
    ((c.cargado C ms).agregarMensaje m).persistir.run (.sano d o) =
      .ok () (.sano ([c.a, c.b].foldl (indexado c.id) (Function.update d (claveBaseConversacion ++ c.id)
        (some (Conversacion.texto c.id [c.a, c.b] (ms ++ [m]))))) o) := by
  have hid : ((c.cargado C ms).agregarMensaje m).getId = c.id := getId_cargado hc ms
  have hids : ((c.cargado C ms).agregarMensaje m).usuarios.map (·.id) = [c.a, c.b] := ids_cargado hc ms
  rw [Conversacion.persistir, run_setConversacion, Conversacion.serializar_eq, hid, hids]
  rfl

theorem abstrae_persistir_cargado {c : Chat} (hc : c ∈ C.chats) (ms : List Mensaje) (m : Mensaje) :
    Abstrae Visto ((c.cargado C ms).agregarMensaje m).persistir ⟨C, o⟩ (.ok () ⟨C.conMensajes c.id ms m, o⟩) := by
  rintro s ⟨d, rfl, h⟩
  exact ⟨_, ⟨_, rfl, h.conMensajes hc ms m⟩, run_persistir_cargado hc ms m d⟩

theorem run_persistir_nueva {e r : Usuario} (he : e.id ≠ []) (m : Mensaje) (d : Cadena → Option Cadena) :
    (Conversacion.nueva [e, r] [m]).persistir.run (.sano d o) =
      .ok () (.sano ([e.id, r.id].foldl (indexado (Chat.nuevo e.id r.id m).id)
        (Function.update d (claveBaseConversacion ++ (Chat.nuevo e.id r.id m).id)
          (some (Chat.nuevo e.id r.id m).texto))) o) := by
  have hid : (Conversacion.nueva [e, r] [m]).getId = (Chat.nuevo e.id r.id m).id := Conversacion.getId_nueva he [m]
  rw [Conversacion.persistir, run_setConversacion, Conversacion.serializar_eq, hid]
  rfl

theorem abstrae_persistir_nueva {e r : Usuario} (he : (C.usuarios e.id).isSome) (hr : (C.usuarios r.id).isSome)
    (hno : C.entre e.id r.id = none) (m : Mensaje) :
    Abstrae Visto (Conversacion.nueva [e, r] [m]).persistir ⟨C, o⟩ (.ok () ⟨C.conChat e.id r.id m, o⟩) := by
  rintro s ⟨d, rfl, h⟩
  exact ⟨_, ⟨_, rfl, h.conChat he hr hno m⟩, run_persistir_nueva (ne_nil_of_isSome he) m d⟩

def conSalidas (o : List Cadena) : EStateM.Result Excepcion Central PUnit → EStateM.Result Excepcion Mundo PUnit
  | .ok a C => .ok a ⟨C, o⟩
  | .error e C => .error e ⟨C, o⟩

omit [LibC] in
theorem getId_cargado_ne {c : Chat} (hc : c ∈ C.chats) (ms : List Mensaje) :
    (c.cargado C ms).getId ≠ keyIdConversacionNoEncontrada := by
  rw [getId_cargado hc ms]
  exact id_ne hc (by decide)

omit [LibC] in
theorem noEncontrada_getId : Conversacion.noEncontrada.getId = keyIdConversacionNoEncontrada := rfl

omit [LibC] in
theorem noEncontrada_getId_ne : ¬ Conversacion.noEncontrada.getId ≠ keyIdConversacionNoEncontrada :=
  not_not.mpr rfl

/-- Loading a conversation that exists, and storing it with one more message. -/
theorem abstrae_agregar {k : Cadena} {c : Chat} (hc : C.buscar k = some c) (m : Mensaje) (x : Accion Unit) :
    Abstrae Visto (do
        let conversacion ← Conversacion.obtener k
        if conversacion.getId ≠ keyIdConversacionNoEncontrada then (conversacion.agregarMensaje m).persistir else x)
      ⟨C, o⟩ (conSalidas o (C.agregar c m)) := by
  have hmem := (Central.buscar_eq_some_iff.mp hc).1
  rw [Central.agregar]
  cases hms : Conversacion.recargar c.mensajes with
  | error e => exact (abstrae_obtener_error hc hms).bind_error
  | ok ms =>
    refine (abstrae_obtener_ok hc hms).bind ?_
    rw [if_pos (getId_cargado_ne hmem ms)]
    exact abstrae_persistir_cargado hmem ms m

/-- **A message is delivered as `Central.entregar` says.** -/
theorem abstrae_almacenarMensaje {e r : Usuario} (he : (C.usuarios e.id).isSome) (hr : (C.usuarios r.id).isSome)
    (m : Mensaje) : Abstrae Visto (almacenarMensaje e r m) ⟨C, o⟩ (conSalidas o (C.entregar e.id r.id m)) := by
  rw [Central.entregar, Central.entre_eq_buscar]
  cases h₁ : C.buscar (e.id ++ Conversacion.guion :: r.id) with
  | some c => exact abstrae_agregar h₁ m _
  | none =>
    refine (abstrae_obtener_none h₁).bind ?_
    rw [if_neg noEncontrada_getId_ne]
    cases h₂ : C.buscar (r.id ++ Conversacion.guion :: e.id) with
    | some c => exact abstrae_agregar h₂ m _
    | none =>
      have hno : C.entre e.id r.id = none := by rw [Central.entre_eq_buscar, h₁, h₂]; rfl
      refine (abstrae_obtener_none h₂).bind ?_
      rw [if_neg noEncontrada_getId_ne]
      exact abstrae_persistir_nueva he hr hno m

end Operaciones

end MensajeroX
