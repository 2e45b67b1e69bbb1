import MensajeroX.Propiedades.Historial
import MensajeroX.Propiedades.Marco

/-!
# Broadcasts and single sends

A broadcast stores its message as single sends would, one for each contact that `obtenerContactos` lists, in the order of
the list. Both append by the same block of the source; what has to be shown is that the two handlers come to it with
the same users, in a store that changes from one turn to the next.

* `run_almacenarMensaje` : a delivery leaves the users of a store alone, whether or not it raises;
* `Representa.difundirTodos` : **the loop of a broadcast is a process of single sends**;
* `difusion_refina_envios` : the two requests, from any reachable store.
-/

namespace MensajeroX
open Bytes JsonCpp BaseDeDatos Efectos Servicio

/-- The request sends the message of `p` to the telephone, with the token of `p`. -/
structure Peticion.EnvioDe (p : Peticion) (telefono : Cadena) (q : Peticion) : Prop where
  ruta : Servidor.parsearURI q = .almacenarConversacion
  emisor : getParametro q keyIdUsuarioEmisor keyDefault = getParametro p keyIdUsuarioEmisor keyDefault
  receptor : getParametro q keyIdUsuarioReceptor keyDefault = telefono
  token : getParametro q keyTokenSesion keyDefault = getParametro p keyTokenSesion keyDefault
  cuerpo : getParametro q keyCuerpo keyDefault = getParametro p keyCuerpo keyDefault
  fecha : getParametro q keyFecha keyDefault = getParametro p keyFecha keyDefault

theorem Peticion.EnvioDe.difusion (emisor : Cadena) (telefono : CString) (contactos token cuerpo fecha : Cadena) :
    (Peticion.difusion emisor contactos token cuerpo fecha).EnvioDe telefono.val
      (.envio emisor telefono.val token cuerpo fecha) where
  ruta := rfl
  emisor := rfl
  receptor := by
    rw [Peticion.envio, Peticion.getParametro_con]
    exact cstr_of_not_mem telefono.not_mem_zero
  token := rfl
  cuerpo := rfl
  fecha := rfl

/-- The contacts of a list that are registered and connected. -/
def Servidor.visibles [LibC] (db : RocksDB) (telefonos : List Cadena) : List Usuario :=
  telefonos.filterMap fun t => (db.usuarioDe (md5 t)).filter (·.conectado)

/-! ## The two handlers -/

section Turnos
variable [LibC] {C : Central} {d : Cadena → Option Cadena}

theorem Representa.visibles (h : Representa C d) (telefonos : List Cadena) :
    Servidor.visibles { datos := d } telefonos = (C.visibles telefonos).map Registrado.toUsuario := by
  rw [Servidor.visibles, Central.visibles, List.map_filterMap]
  congr 1
  funext t
  rw [h.usuarioDe]
  cases C.usuarios (md5 t) with
  | none => rfl
  | some u =>
    rw [Option.map_some, Option.filter_some, Option.filter_some]
    split <;> rfl

theorem Representa.run_almacenarMensaje (h : Representa C d) {e r : Usuario} (he : (C.usuarios e.id).isSome)
    (hr : (C.usuarios r.id).isSome) (m : Mensaje) :
    (∃ C' d', (almacenarMensaje e r m).run (.sano d []) = .ok () (.sano d' []) ∧ Representa C' d' ∧
      C'.usuarios = C.usuarios) ∨
    ∃ ex s, (almacenarMensaje e r m).run (.sano d []) = .error ex s := by
  have habstrae := abstrae_almacenarMensaje (o := []) he hr m (.sano d []) ⟨d, rfl, h⟩
  have husuarios := C.usuarios_entregar e.id r.id m
  cases hentregar : C.entregar e.id r.id m with
  | ok a C' =>
    rw [hentregar] at habstrae husuarios
    obtain ⟨s, ⟨d', rfl, h'⟩, hrun⟩ := habstrae
    exact .inl ⟨C', d', hrun, h', husuarios⟩
  | error ex C' =>
    rw [hentregar] at habstrae
    obtain ⟨s, -, hrun⟩ := habstrae
    exact .inr ⟨ex, s, hrun⟩

theorem Representa.run_difundir (h : Representa C d) (e : Usuario) (m : Mensaje) (t : Cadena) :
    (Servicio.difundir e m t).run (.sano d []) =
      match (C.usuarios (md5 t)).filter (·.conectado) with
      | some u => (almacenarMensaje e u.toUsuario m).run (.sano d [])
      | none => .ok () (.sano d []) := by
  have hrun : (Usuario.obtenerPorTelefono t).run (.sano d []) = .ok (C.usuario (md5 t)) (.sano d []) :=
    h.run_getUsuario [] (md5 t)
  rw [Servicio.difundir, bind_ok hrun]
  cases hu : C.usuarios (md5 t) with
  | none =>
    rw [Central.usuario_eq_none hu]
    rfl
  | some u =>
    rw [Central.usuario_eq_some hu, visible_toUsuario, Option.filter_some]
    by_cases hcon : u.conectado = true
    · rw [if_pos hcon, if_pos hcon]
    · rw [if_neg hcon, if_neg hcon]
      rfl

theorem Representa.run_envioDe (h : Representa C d) {p q : Peticion} {e r : Registrado}
    (he : C.usuarios p.emisor = some e) (htoken : e.token = getParametro p keyTokenSesion keyDefault)
    (hr : C.usuarios r.id = some r) (hq : p.EnvioDe r.telefono q) :
    (Servicio.almacenarConversacion q).run (.sano d []) =
      (almacenarMensaje e.toUsuario r.toUsuario p.mensaje >>= fun _ => responder p.mensaje.id true).run
        (.sano d []) := by
  have hemisor : q.emisor = p.emisor := congrArg md5 hq.emisor
  have hreceptor : q.receptor = r.id := (congrArg md5 hq.receptor).trans r.id_eq.symm
  have hmensaje : q.mensaje = p.mensaje := by
    rw [Peticion.mensaje, Peticion.mensaje, hemisor, hq.cuerpo, hq.fecha]
  rw [← hmensaje]
  exact h.run_almacenarConversacion (hemisor ▸ he) (hreceptor ▸ hr) (htoken.trans hq.token.symm)

end Turnos

/-! ## The loop -/

section Lazo
variable [Aritmetica] {C : Central} {d : Cadena → Option Cadena}

/-- **The loop of a broadcast is a process of single sends**, and a run of them if nothing raises. -/
theorem Representa.difundirTodos (h : Representa C d) (lugares : Value) {p : Peticion} {e : Registrado}
    (he : C.usuarios p.emisor = some e) (htoken : e.token = getParametro p keyTokenSesion keyDefault)
    (telefonos : List Cadena) {envios : List Peticion}
    (henvios : List.Forall₂ p.EnvioDe ((C.visibles telefonos).map fun u => u.telefono) envios) :
    (final ((forM telefonos (Servicio.difundir e.toUsuario p.mensaje)).run (.sano d []))).db =
      Servidor.proceso lugares { datos := d } envios ∧
    (acaba ((forM telefonos (Servicio.difundir e.toUsuario p.mensaje)).run (.sano d [])) = true →
      Servidor.proceso lugares { datos := d } envios = Servidor.ejecutar lugares { datos := d } envios) := by
  induction telefonos generalizing C d envios with
  | nil =>
    cases henvios
    exact ⟨rfl, fun _ => rfl⟩
  | cons t ts ih =>
    have hturno := h.run_difundir e.toUsuario p.mensaje t
    rw [Central.visibles, List.filterMap_cons] at henvios
    cases hu : (C.usuarios (md5 t)).filter (·.conectado) with
    | none =>
      simp only [hu] at hturno henvios
      rw [List.forM_cons, bind_ok hturno]
      exact ih h he henvios
    | some u =>
      simp only [hu] at hturno henvios
      obtain ⟨q, qs, hq, hqs, rfl⟩ := List.forall₂_cons_left_iff.mp henvios
      have hr : C.usuarios u.id = some u := by
        have := (Option.filter_eq_some_iff.mp hu).1
        rwa [C.claves _ _ this]
      have henvio : (Servidor.administrarServicio lugares q).run (.sano d []) =
          (almacenarMensaje e.toUsuario u.toUsuario p.mensaje >>= fun _ => responder p.mensaje.id true).run
            (.sano d []) := by
        rw [Servidor.administrarServicio, hq.ruta]
        exact h.run_envioDe he htoken hr hq
      rcases h.run_almacenarMensaje (Central.isSome_of_eq he) (by rw [hr]; rfl) p.mensaje with
        ⟨C', d', hrun, h', husuarios⟩ | ⟨ex, s, hrun⟩
      · rw [hrun] at hturno
        rw [bind_ok hrun] at henvio
        have hvisibles : C'.visibles ts = C.visibles ts := by rw [Central.visibles, husuarios]; rfl
        rw [List.forM_cons, bind_ok hturno, Servidor.proceso, henvio, Servidor.ejecutar, List.foldl_cons,
          Servidor.atender, henvio]
        exact ih h' (by rw [husuarios]; exact he) (hvisibles ▸ hqs)
      · rw [hrun] at hturno
        rw [bind_error hrun] at henvio
        rw [List.forM_cons, bind_error hturno, Servidor.proceso, henvio]
        exact ⟨rfl, fun hacaba => (by cases hacaba)⟩

omit [Aritmetica] in
/-- Nothing is answered inside the loop. -/
theorem Representa.salidas_difundirTodos [LibC] (h : Representa C d) {e : Registrado} (he : (C.usuarios e.id).isSome)
    (m : Mensaje) (telefonos : List Cadena) :
    (final ((forM telefonos (Servicio.difundir e.toUsuario m)).run (.sano d []))).salidas = [] := by
  obtain ⟨d', hfinal, -⟩ := (abstrae_difundirTodos (e := e.toUsuario) he m telefonos).final ⟨d, rfl, h⟩
  rw [hfinal]
  cases C.difundirTodos e.id m telefonos <;> rfl

theorem Representa.atender_difusion (h : Representa C d) (lugares : Value) {p : Peticion}
    (hp : Servidor.parsearURI p = .almacenarListaDifusion) {e : Registrado} (he : C.usuarios p.emisor = some e)
    (htoken : e.token = getParametro p keyTokenSesion keyDefault) {telefonos : List Cadena}
    (hvec : getParametroVector p keyContantosTelefono = .ok telefonos) :
    Servidor.atender lugares { datos := d } p =
      final ((forM telefonos (Servicio.difundir e.toUsuario p.mensaje) >>= fun _ =>
        responder (bytes "Lista de difusion enviada correctamente") true).run (.sano d [])) := by
  have hemisor := h.run_obtenerPorTelefono [] (getParametro p keyIdUsuarioEmisor keyDefault) he
  rw [Servidor.atender, Servidor.administrarServicio, hp]
  dsimp only
  rw [Servicio.almacenarListaDifusion, hvec, bind_ok (run_ofJson_ok _ _), bind_ok hemisor,
    if_neg e.id_ne_noEncontrado, if_neg (not_not.mpr htoken), Central.mensajeDe_eq he]

/-- A broadcast that is refused, or whose list cannot be read, changes nothing. -/
theorem Representa.atender_difusion_rechazada (h : Representa C d) (lugares : Value) {p : Peticion}
    (hp : Servidor.parsearURI p = .almacenarListaDifusion)
    (hno : ∀ e, C.usuarios p.emisor = some e → e.token ≠ getParametro p keyTokenSesion keyDefault) :
    (Servidor.atender lugares { datos := d } p).db = { datos := d } := by
  have hemisor : (Usuario.obtenerPorTelefono (getParametro p keyIdUsuarioEmisor keyDefault)).run (.sano d []) =
      .ok (C.usuario p.emisor) (.sano d []) := h.run_getUsuario [] p.emisor
  rw [Servidor.atender, Servidor.administrarServicio, hp]
  dsimp only
  rw [Servicio.almacenarListaDifusion]
  cases getParametroVector p keyContantosTelefono with
  | error ex =>
    rw [bind_error (run_ofJson_error _ _)]
    rfl
  | ok telefonos =>
    rw [bind_ok (run_ofJson_ok _ _), bind_ok hemisor]
    cases he : C.usuarios p.emisor with
    | none =>
      rw [Central.usuario_eq_none he, if_pos noEncontrado_id]
      rfl
    | some e =>
      rw [Central.usuario_eq_some he, if_neg e.id_ne_noEncontrado, if_pos (hno e he)]
      rfl

/-- **A broadcast refines single sends**: from every reachable store it leaves the one that single sends of its message
leave, to the telephones that `obtenerContactos` lists for its contacts and in that order. A broadcast of an unknown
sender or with another token changes nothing. -/
theorem difusion_refina_envios (lugares : Value) (ps : List Peticion) {p : Peticion}
    (hp : Servidor.parsearURI p = .almacenarListaDifusion) :
    ((Servidor.ejecutar lugares .vacia ps).tieneUsuario p.emisor ∧
        (Servidor.ejecutar lugares .vacia ps).tokenDe p.emisor = getParametro p keyTokenSesion keyDefault →
      ∀ telefonos, getParametroVector p keyContantosTelefono = .ok telefonos →
        (∀ q, Servidor.parsearURI q = .obtenerContactos →
          getParametro q keyContantosTelefono keyDefault = getParametro p keyContantosTelefono keyDefault →
          (Servidor.atender lugares (Servidor.ejecutar lugares .vacia ps) q).salidas =
            [respuesta (arreglo (bytes "contactos")
              ((Servidor.visibles (Servidor.ejecutar lugares .vacia ps) telefonos).map contactoJson)).toStyledString
              true]) ∧
        ∀ envios, List.Forall₂ p.EnvioDe
            ((Servidor.visibles (Servidor.ejecutar lugares .vacia ps) telefonos).map Usuario.telefono) envios →
          (Servidor.atender lugares (Servidor.ejecutar lugares .vacia ps) p).db =
            Servidor.proceso lugares (Servidor.ejecutar lugares .vacia ps) envios ∧
          ((Servidor.atender lugares (Servidor.ejecutar lugares .vacia ps) p).salidas ≠ [] →
            (Servidor.atender lugares (Servidor.ejecutar lugares .vacia ps) p).db =
              Servidor.ejecutar lugares (Servidor.ejecutar lugares .vacia ps) envios)) ∧
    (¬ ((Servidor.ejecutar lugares .vacia ps).tieneUsuario p.emisor ∧
        (Servidor.ejecutar lugares .vacia ps).tokenDe p.emisor = getParametro p keyTokenSesion keyDefault) →
      (Servidor.atender lugares (Servidor.ejecutar lugares .vacia ps) p).db =
        Servidor.ejecutar lugares .vacia ps) := by
  obtain ⟨d, hdb, h⟩ := ejecutar_vacia lugares ps
  rw [hdb]
  generalize Central.vacia.ejecutar lugares ps = C at h
  rw [h.tieneUsuario]
  constructor
  · rintro ⟨hsome, htoken⟩ telefonos hvec
    obtain ⟨e, he⟩ := Option.isSome_iff_exists.mp hsome
    rw [h.tokenDe he] at htoken
    rw [h.visibles]
    constructor
    · intro q hq hparam
      have hvecq : getParametroVector q keyContantosTelefono = .ok telefonos := by
        rw [← hvec, getParametroVector, getParametroVector, getParametroArray, getParametroArray, hparam]
      obtain ⟨d', hatender, -⟩ := h.atender lugares q
      rw [hatender, List.map_map]
      simp only [Central.atender, Central.servir, hq, Central.obtenerContactos, hvecq, final_ok]
      rfl
    · intro envios henvios
      rw [List.map_map] at henvios
      obtain ⟨hproceso, hejecutar⟩ := h.difundirTodos lugares he htoken telefonos henvios
      have hlazo := h.salidas_difundirTodos (Central.isSome_of_eq he) p.mensaje telefonos
      rw [h.atender_difusion lugares hp he htoken hvec]
      cases hrun : (forM telefonos (Servicio.difundir e.toUsuario p.mensaje)).run (.sano d []) with
      | ok a s =>
        rw [hrun] at hproceso hejecutar
        rw [bind_ok hrun]
        exact ⟨hproceso, fun _ => hproceso.trans (hejecutar rfl)⟩
      | error ex s =>
        rw [hrun] at hproceso hlazo
        rw [bind_error hrun]
        exact ⟨hproceso, fun hsalidas => absurd hlazo hsalidas⟩
  · intro hno
    refine h.atender_difusion_rechazada lugares hp fun e he htoken => hno ⟨by rw [he]; rfl, ?_⟩
    rw [h.tokenDe he, htoken]

end Lazo

section Difundida
attribute [local instance] Aritmetica.nula

def grupo : List Peticion :=
  [.registro (bytes "1"), .registro (bytes "2"), .registro (bytes "3"),
    .renovacion Peticion.uriUno]

def tokenGrupo : Cadena := md5 (bytes "1Thu Jan  1 00:00:00 1970")

/-- A broadcast to a list with an unknown telephone and a repeated one. -/
def difundida : Peticion :=
  .difusion (bytes "1") (bytes "[\"3\", \"9\", \"2\", \"3\"]") tokenGrupo (bytes "hola") (bytes "10:00")

def envios : List Peticion :=
  [bytes "3", bytes "2", bytes "3"].map fun t => .envio (bytes "1") t tokenGrupo (bytes "hola") (bytes "10:00")

theorem lista_difundida :
    getParametroVector difundida keyContantosTelefono = .ok [bytes "3", bytes "9", bytes "2", bytes "3"] := by
  decide +kernel

theorem token_difundida : getParametro difundida keyTokenSesion keyDefault = tokenGrupo := by decide +kernel

theorem almacen_grupo :
    (Servidor.ejecutar .null .vacia grupo).tieneUsuario difundida.emisor = true ∧
    (Servidor.ejecutar .null .vacia grupo).tokenDe difundida.emisor = tokenGrupo ∧
    (Servidor.visibles (Servidor.ejecutar .null .vacia grupo)
      [bytes "3", bytes "9", bytes "2", bytes "3"]).map Usuario.telefono = [bytes "3", bytes "2", bytes "3"] := by
  obtain ⟨d, hdb, h⟩ := ejecutar_vacia .null grupo
  simp only [tieneUsuario_ejecutar, RocksDB.tokenDe, usuarioDe_ejecutar]
  rw [hdb, h.visibles]
  decide +kernel

theorem difusion_refina_grupo :
    (Servidor.atender .null (Servidor.ejecutar .null .vacia grupo) difundida).db =
      Servidor.ejecutar .null (Servidor.ejecutar .null .vacia grupo) envios ∧
    (Servidor.atender .null (Servidor.ejecutar .null .vacia grupo)
      (.difusion (bytes "1") (bytes "[\"3\"]") [] (bytes "hola") (bytes "10:00"))).db =
      Servidor.ejecutar .null .vacia grupo := by
  obtain ⟨hemisor, htoken, hvisibles⟩ := almacen_grupo
  have hnul : ∀ t ∈ [bytes "3", bytes "2", bytes "3"], (0 : UInt8) ∉ t := by decide +kernel
  have hautoriza := (difusion_refina_envios .null grupo (p := difundida) rfl).1
    ⟨hemisor, htoken.trans token_difundida.symm⟩ _ lista_difundida
  have hresponde : (Servidor.atender .null (Servidor.ejecutar .null .vacia grupo) difundida).salidas ≠ [] := by
    rw [salidas_ejecutar]
    decide +kernel
  refine ⟨(hautoriza.2 envios ?_).2 hresponde, ?_⟩
  · rw [hvisibles, envios, List.forall₂_map_right_iff, List.forall₂_same]
    exact fun t ht => .difusion _ ⟨t, hnul t ht⟩ _ _ _ _
  · refine (difusion_refina_envios .null grupo rfl).2 fun hautoriza => ?_
    exact absurd (htoken.symm.trans hautoriza.2) (by decide +kernel)

end Difundida

end MensajeroX
