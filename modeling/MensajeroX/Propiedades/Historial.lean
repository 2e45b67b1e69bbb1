import MensajeroX.Central.Ejecucion
import MensajeroX.Servidor.Rutas

/-!
# The history of a pair

What two users have sent each other, read off the answers of the server, and what the server keeps of it. A send
counts when it is answered with the id of its message; a broadcast counts, once for every occurrence of a
registered and connected contact in its list, when it is answered as sent.

* `Servidor.entregados`, `Servidor.historial` : the deliveries of a request and of a run;
* `mensajes_entregar`, `mensajes_difundirTodos`, `mensajes_atender` : a delivery, a broadcast and a request append
  what they deliver, and nothing else;
* `obtenerConversacion_historial` : **a fetch returns the history**.

All of it is about texts without the separator of lists: `Central.Limpia` is the invariant.
-/

namespace MensajeroX
open Bytes JsonCpp BaseDeDatos Efectos Servicio

/-! ## Deliveries -/

namespace Servidor

/-- A broadcast of `emisor` to the telephone `t` reaches the pair `a`, `b`. -/
def alcanza [LibC] (db : RocksDB) (emisor a b t : Cadena) : Bool :=
  match (Usuario.obtenerPorTelefono t).run { db := db } with
  | .ok u _ => visible u && decide (Par emisor u.id a b)
  | .error _ _ => false

variable [Aritmetica]

/-- The messages that a request delivers between `a` and `b`. -/
def entregados (lugares : Value) (db : RocksDB) (p : Peticion) (a b : Cadena) : List Mensaje :=
  match parsearURI p with
  | .almacenarConversacion =>
    if (atender lugares db p).salidas = [respuesta p.mensaje.id true] ∧ Par p.emisor p.receptor a b then [p.mensaje]
    else []
  | .almacenarListaDifusion =>
    if (atender lugares db p).salidas = [respuesta (bytes "Lista de difusion enviada correctamente") true] then
      match getParametroVector p keyContantosTelefono with
      | .ok telefonos => (telefonos.filter (alcanza db p.emisor a b)).map fun _ => p.mensaje
      | .error _ => []
    else []
  | _ => []

/-- The messages that a run delivers between `a` and `b`, in the order of processing. -/
def historial (lugares : Value) (db : RocksDB) (ps : List Peticion) (a b : Cadena) : List Mensaje :=
  match ps with
  | [] => []
  | p :: ps => entregados lugares db p a b ++ historial lugares (atender lugares db p).db ps a b

end Servidor

/-! ## What a delivery appends -/

namespace Central

def mensajes (C : Central) (a b : Cadena) : List Mensaje := ((C.entre a b).map Chat.mensajes).getD []

/-- The separator occurs in no message. -/
abbrev Limpia (C : Central) : Prop := C.Todos Mensaje.SinSeparador

theorem mensajes_conMensajes {C : Central} {x y : Cadena} {c : Chat} (hc : C.entre x y = some c) (m : Mensaje)
    (a b : Cadena) :
    (C.conMensajes c.id c.mensajes m).mensajes a b = C.mensajes a b ++ if Par x y a b then [m] else [] := by
  rw [mensajes, entre_conMensajes hc, mensajes]
  split
  · rename_i hpar
    rw [C.entre_par hpar, hc]
    rfl
  · rw [List.append_nil]

theorem mensajes_conChat {C : Central} {x y : Cadena} (hx : (C.usuarios x).isSome) (hy : (C.usuarios y).isSome)
    (hno : C.entre x y = none) (m : Mensaje) (a b : Cadena) :
    (C.conChat x y m).mensajes a b = C.mensajes a b ++ if Par x y a b then [m] else [] := by
  rw [mensajes, entre_conChat hx hy hno, mensajes]
  split
  · rename_i hpar
    rw [C.entre_par hpar, hno]
    rfl
  · rw [List.append_nil]

variable [LibC]

/-- A delivery to a clean central does not raise, and appends its message to the messages of the pair. -/
theorem mensajes_entregar {C : Central} (hC : C.Limpia) {x y : Cadena} (hx : (C.usuarios x).isSome)
    (hy : (C.usuarios y).isSome) (m : Mensaje) :
    ∃ C', C.entregar x y m = .ok ⟨⟩ C' ∧
      ∀ a b, C'.mensajes a b = C.mensajes a b ++ if Par x y a b then [m] else [] := by
  unfold entregar
  cases hxy : C.entre x y with
  | none => exact ⟨_, rfl, mensajes_conChat hx hy hxy m⟩
  | some c =>
    have hrec := Conversacion.recargar_of_sinSeparador (hC c (entre_eq_some_iff.mp hxy).1)
    refine ⟨C.conMensajes c.id c.mensajes m, ?_, mensajes_conMensajes hxy m⟩
    show C.agregar c m = _
    rw [agregar, hrec]

theorem recargar_limpia (ms ms' : List Mensaje) (h : ∀ m ∈ ms, m.SinSeparador) (hrec : Conversacion.recargar ms = .ok ms') :
    ∀ m ∈ ms', m.SinSeparador := by
  rw [Conversacion.recargar_of_sinSeparador h] at hrec
  cases hrec
  exact h

/-- A broadcast of `e` to the telephone `t` reaches the pair `a`, `b`. -/
def alcanza (C : Central) (e a b t : Cadena) : Bool :=
  match (C.usuarios (md5 t)).filter (·.conectado) with
  | some u => decide (Par e u.id a b)
  | none => false

omit [LibC] in
theorem alcanza_congr {C C' : Central} (h : C'.usuarios = C.usuarios) : C'.alcanza = C.alcanza := by
  unfold alcanza
  rw [h]

theorem mensajes_difundir {C : Central} (hC : C.Limpia) {e : Cadena} (he : (C.usuarios e).isSome) (m : Mensaje)
    (t : Cadena) :
    ∃ C', C.difundir e m t = .ok ⟨⟩ C' ∧
      ∀ a b, C'.mensajes a b = C.mensajes a b ++ if C.alcanza e a b t then [m] else [] := by
  unfold difundir alcanza
  cases hu : (C.usuarios (md5 t)).filter (·.conectado) with
  | none => exact ⟨C, rfl, fun a b => (List.append_nil _).symm⟩
  | some u =>
    simp only [decide_eq_true_eq]
    exact mensajes_entregar hC he (isSome_of_eq (Option.filter_eq_some_iff.mp hu).1) m

theorem limpia_difundir {C : Central} (hC : C.Limpia) {m : Mensaje} (hm : m.SinSeparador) (e t : Cadena) :
    (final (C.difundir e m t)).Limpia := by
  unfold difundir
  split
  · exact todos_entregar recargar_limpia hC hm _ _
  · exact hC

/-- A broadcast appends its message once for every occurrence of a contact that it reaches. -/
theorem mensajes_difundirTodos {C : Central} (hC : C.Limpia) {e : Cadena} (he : (C.usuarios e).isSome) {m : Mensaje}
    (hm : m.SinSeparador) (ts : List Cadena) :
    ∃ C', C.difundirTodos e m ts = .ok ⟨⟩ C' ∧
      ∀ a b, C'.mensajes a b = C.mensajes a b ++ (ts.filter (C.alcanza e a b)).map fun _ => m := by
  induction ts generalizing C with
  | nil => exact ⟨C, rfl, fun a b => (List.append_nil _).symm⟩
  | cons t ts ih =>
    obtain ⟨C₁, hturno, hmensajes₁⟩ := mensajes_difundir hC he m t
    have hlimpia := limpia_difundir hC hm e t
    have husuarios := C.usuarios_difundir e m t
    rw [hturno, final_ok] at hlimpia husuarios
    obtain ⟨C₂, hresto, hmensajes₂⟩ := ih hlimpia (by rw [husuarios]; exact he)
    refine ⟨C₂, by rw [difundirTodos, recorrer, hturno]; exact hresto, fun a b => ?_⟩
    rw [hmensajes₂, hmensajes₁, alcanza_congr husuarios, List.append_assoc, List.filter_cons]
    split <;> rfl

end Central

/-! ## What a request appends -/

section Peticiones
variable [Aritmetica]

theorem Representa.alcanza {C : Central} {d : Cadena → Option Cadena} (h : Representa C d) :
    Servidor.alcanza { datos := d } = C.alcanza := by
  funext e a b t
  have hrun : (Usuario.obtenerPorTelefono t).run { db := { datos := d } } = .ok (C.usuario (md5 t)) (.sano d []) :=
    h.run_getUsuario [] (md5 t)
  rw [Servidor.alcanza, hrun, Central.alcanza]
  cases hu : C.usuarios (md5 t) with
  | none =>
    rw [Central.usuario_eq_none hu]
    rfl
  | some u =>
    dsimp only
    rw [Central.usuario_eq_some hu, visible_toUsuario, Option.filter_some]
    cases u.conectado <;> simp

/-- The texts that a request sends are free of the separator. -/
def Peticion.Limpia (p : Peticion) : Prop :=
  SeparadorListaBD ∉ getParametro p keyCuerpo keyDefault ∧ SeparadorListaBD ∉ getParametro p keyFecha keyDefault

omit [Aritmetica] in
instance (p : Peticion) : Decidable p.Limpia := by unfold Peticion.Limpia; infer_instance

omit [Aritmetica] in
theorem Peticion.Limpia.mensaje {p : Peticion} (hp : p.Limpia) : p.mensaje.SinSeparador :=
  Mensaje.nuevo_sinSeparador hp.1 (not_mem_md5 (by decide) _) hp.2

theorem Central.limpia_ejecutar {C : Central} (hC : C.Limpia) {ps : List Peticion} (hps : ∀ p ∈ ps, p.Limpia)
    (lugares : Value) : (C.ejecutar lugares ps).Limpia :=
  todos_ejecutar recargar_limpia (fun p hp _ => (hps p hp).mensaje) hC lugares

theorem Central.mensajes_of_not_envia (C : Central) {p : Peticion} (hp : ¬ p.Envia) (lugares : Value) (a b : Cadena) :
    (C.atender lugares p).central.mensajes a b = C.mensajes a b :=
  atender_induccion (P := fun C' => C'.mensajes a b = C.mensajes a b) (fun _ _ h => h)
    (fun _ _ _ henvia _ _ => absurd henvia hp) rfl lugares

theorem respuesta_ne {m m' : Cadena} : [respuesta m false] ≠ [respuesta m' true] := by
  intro h
  cases (respuesta_inj (List.cons.inj h).1).2

/-- **What a request appends** to the messages of a pair are its deliveries. -/
theorem Representa.mensajes_atender {C : Central} {d : Cadena → Option Cadena} (h : Representa C d) (hC : C.Limpia)
    {p : Peticion} (hp : p.Limpia) (lugares : Value) (a b : Cadena) :
    (C.atender lugares p).central.mensajes a b =
      C.mensajes a b ++ Servidor.entregados lugares { datos := d } p a b := by
  obtain ⟨d', hatender, -⟩ := h.atender lugares p
  have hsalidas : (Servidor.atender lugares { datos := d } p).salidas = (C.atender lugares p).salidas := by
    rw [hatender]
  have hotra : ∀ {t}, Servidor.parsearURI p = t → t ≠ .almacenarConversacion → t ≠ .almacenarListaDifusion →
      (C.atender lugares p).central.mensajes a b = C.mensajes a b ++ [] := by
    rintro t rfl h₁ h₂
    rw [List.append_nil]
    exact C.mensajes_of_not_envia (not_or.mpr ⟨h₁, h₂⟩) lugares a b
  unfold Servidor.entregados
  rw [hsalidas]
  cases hruta : Servidor.parsearURI p with
  | almacenarConversacion =>
    dsimp only
    rcases C.atender_conversacion lugares hruta with ⟨e, r, he, hr, -, hatender⟩ | ⟨texto, hatender⟩
    · obtain ⟨C', hentregar, hmensajes⟩ :=
        Central.mensajes_entregar hC (by rw [he]; rfl) (by rw [hr]; rfl) p.mensaje
      rw [hatender, hentregar, Central.seguido, final_ok]
      simp only [true_and]
      exact hmensajes a b
    · rw [hatender, if_neg fun h => respuesta_ne h.1, List.append_nil]
  | almacenarListaDifusion =>
    dsimp only
    rcases C.atender_difusion lugares hruta with ⟨telefonos, e, hvec, he, -, hatender⟩ | ⟨salidas, hno, hatender⟩
    · obtain ⟨C', hdifundir, hmensajes⟩ :=
        Central.mensajes_difundirTodos hC (by rw [he]; rfl) hp.mensaje telefonos
      rw [hatender, hdifundir, Central.seguido, final_ok, if_pos rfl, hvec, h.alcanza]
      exact hmensajes a b
    · rw [hatender, if_neg, List.append_nil]
      rcases hno with rfl | ⟨texto, rfl⟩
      · exact List.cons_ne_nil _ _ ∘ Eq.symm
      · exact respuesta_ne
  | prueba => exact hotra hruta (by decide) (by decide)
  | registrarUsuario => exact hotra hruta (by decide) (by decide)
  | administrarPerfil => exact hotra hruta (by decide) (by decide)
  | consultarUsuarioOnline => exact hotra hruta (by decide) (by decide)
  | checkinUsuario => exact hotra hruta (by decide) (by decide)
  | obtenerIdConversacion => exact hotra hruta (by decide) (by decide)
  | obtenerConversacion => exact hotra hruta (by decide) (by decide)
  | obtenerConversaciones => exact hotra hruta (by decide) (by decide)
  | obtenerContactos => exact hotra hruta (by decide) (by decide)
  | invalido => exact hotra hruta (by decide) (by decide)

/-- **What a run appends** to the messages of a pair is its history. -/
theorem Representa.mensajes_ejecutar {C : Central} {d : Cadena → Option Cadena} (h : Representa C d) (hC : C.Limpia)
    {ps : List Peticion} (hps : ∀ p ∈ ps, p.Limpia) (lugares : Value) (a b : Cadena) :
    (C.ejecutar lugares ps).mensajes a b = C.mensajes a b ++ Servidor.historial lugares { datos := d } ps a b := by
  induction ps generalizing C d with
  | nil => exact (List.append_nil _).symm
  | cons p ps ih =>
    have hp := hps p (by simp)
    obtain ⟨d', hatender, h'⟩ := h.atender lugares p
    have hresto := ih h' (Central.todos_atender Central.recargar_limpia (fun _ => hp.mensaje) hC lugares) fun q hq => hps q (by simp [hq])
    rw [Servidor.historial, hatender, ← List.append_assoc, ← h.mensajes_atender hC hp]
    exact hresto

theorem historial_eq (lugares : Value) {ps : List Peticion} (hps : ∀ p ∈ ps, p.Limpia) (a b : Cadena) :
    Servidor.historial lugares .vacia ps a b = (Central.vacia.ejecutar lugares ps).mensajes a b :=
  (Representa.vacia.mensajes_ejecutar (Central.todos_vacia _) hps lugares a b).symm

omit [Aritmetica] in
theorem Central.mensajes_of_mem {C : Central} {c : Chat} (hc : c ∈ C.chats) : C.mensajes c.a c.b = c.mensajes := by
  rw [mensajes, entre_eq_some_iff.mpr ⟨hc, .inl ⟨rfl, rfl⟩⟩]
  rfl

omit [Aritmetica] in
theorem Representa.run_obtener_limpia [LibC] {C : Central} {d : Cadena → Option Cadena} (h : Representa C d)
    (hC : C.Limpia) {c : Chat} (hc : c ∈ C.chats) (o : List Cadena) :
    (Conversacion.obtener c.id).run (.sano d o) = .ok (c.cargado C c.mensajes) (.sano d o) :=
  h.run_obtener hc (Conversacion.recargar_of_sinSeparador (hC c hc)) o

omit [Aritmetica] in
/-- A pair with messages has a conversation, and a conversation has messages. -/
theorem Central.mensajes_ne_nil_iff {C : Central} {a b : Cadena} : C.mensajes a b ≠ [] ↔ (C.entre a b).isSome := by
  rw [mensajes]
  cases h : C.entre a b with
  | none => simp
  | some c => simpa using c.noVacio

/-- **No message is lost, altered or reordered**: a fetch of the whole conversation of two users returns their
history. There is a conversation exactly when there is something to return. -/
theorem obtenerConversacion_historial (lugares : Value) {ps : List Peticion} (hps : ∀ p ∈ ps, p.Limpia) (a b : Cadena) :
    (Servidor.historial lugares .vacia ps a b ≠ [] ↔
      (Servidor.ejecutar lugares .vacia ps).tieneConversacion (a ++ Conversacion.guion :: b) ∨
      (Servidor.ejecutar lugares .vacia ps).tieneConversacion (b ++ Conversacion.guion :: a)) ∧
    ∀ k, k = a ++ Conversacion.guion :: b ∨ k = b ++ Conversacion.guion :: a →
      (Servidor.ejecutar lugares .vacia ps).tieneConversacion k → ∀ q : Peticion, q.Pide k →
      getParametro q keyIdUltimoMensaje keyDefault = [] →
      (Servidor.atender lugares (Servidor.ejecutar lugares .vacia ps) q).salidas =
        [respuesta (mensajesJson (Servidor.historial lugares .vacia ps a b)).toStyledString true] := by
  obtain ⟨d, hdb, h⟩ := ejecutar_vacia lugares ps
  have hlimpia := Central.limpia_ejecutar (Central.todos_vacia _) hps lugares
  rw [hdb, historial_eq lugares hps, Central.mensajes_ne_nil_iff, Central.entre_eq_buscar, Option.isSome_or, Bool.or_eq_true,
    h.tieneConversacion, h.tieneConversacion]
  refine ⟨Iff.rfl, fun k hk hstored q hq hultimo => ?_⟩
  rw [h.tieneConversacion] at hstored
  obtain ⟨c, hc⟩ := Option.isSome_iff_exists.mp hstored
  have hmem := (Central.buscar_eq_some_iff.mp hc).1
  obtain ⟨d', hatender, -⟩ := h.atender lugares q
  rw [hatender, Central.atender_obtenerConversacion hq hc (Conversacion.recargar_of_sinSeparador (hlimpia c hmem)),
    Central.pedidos, if_neg (not_not.mpr hultimo), Central.mensajes,
    Central.entre_of_buscar hc hk]
  rfl

end Peticiones

section Charla
attribute [local instance] Aritmetica.nula

/-- Two users register, the first writes to the second, and the second answers by a broadcast that names the first
twice. -/
def charla : List Peticion :=
  [.registro (bytes "1"), .registro (bytes "2"), .envio (bytes "1") (bytes "2") [] (bytes "hola") (bytes "10:00"),
    .difusion (bytes "2") (bytes "[\"1\", \"1\"]") [] (bytes "todos") (bytes "10:05")]

theorem charla_limpia : ∀ p ∈ charla, p.Limpia := by decide

theorem almacen_charla :
    (∀ k ∈ [md5 (bytes "1"), md5 (bytes "2")], (Servidor.ejecutar .null .vacia charla).tieneUsuario k) ∧
    (Servidor.ejecutar .null .vacia charla).tieneConversacion
      (md5 (bytes "1") ++ Conversacion.guion :: md5 (bytes "2")) := by
  simp only [tieneUsuario_ejecutar, tieneConversacion_ejecutar]
  decide +kernel

def consultaCharla : Peticion :=
  .consulta ⟨urlBaseConversacion ++ (md5 (bytes "1") ++ Conversacion.guion :: md5 (bytes "2")), by decide +kernel⟩

theorem obtenerConversacion_charla :
    (Servidor.historial .null .vacia charla (md5 (bytes "1")) (md5 (bytes "2"))).map Mensaje.cuerpo =
      [bytes "hola", bytes "todos", bytes "todos"] ∧
    (Servidor.atender .null (Servidor.ejecutar .null .vacia charla) consultaCharla).salidas =
      [respuesta (mensajesJson (Servidor.historial .null .vacia charla (md5 (bytes "1"))
        (md5 (bytes "2")))).toStyledString true] := by
  have hpide : consultaCharla.Pide (md5 (bytes "1") ++ Conversacion.guion :: md5 (bytes "2")) :=
    Peticion.pide_par rfl rfl
  refine ⟨?_, (obtenerConversacion_historial .null charla_limpia _ _).2 _
    (.inl rfl) almacen_charla.2 consultaCharla hpide rfl⟩
  rw [historial_eq .null charla_limpia]
  decide +kernel

end Charla

end MensajeroX
