import MensajeroX.Central.Servicios
import MensajeroX.Servidor.Peticion

/-!
# Runs

A run of the server on a sound store is a run of the central. Whatever the requests are, the store reached from
the empty one holds the texts of a central, so everything a central carries in its fields holds of that store.

* `Representa.atender`, `Representa.ejecutar` : **the server refines the central**, for a request and for a run;
* `Central.atender_induccion`, `Central.ejecutar_induccion` : what a run preserves, from what storing a user and
  delivering a message preserve.
-/

namespace MensajeroX
open Bytes JsonCpp BaseDeDatos Efectos Servicio

namespace Central

variable [Aritmetica]

def atender (C : Central) (lugares : Value) (p : Peticion) : Mundo := final (C.servir lugares p)

def ejecutar (C : Central) (lugares : Value) (ps : List Peticion) : Central :=
  ps.foldl (fun C p => (C.atender lugares p).central) C

theorem ejecutar_append (C : Central) (lugares : Value) (ps qs : List Peticion) :
    C.ejecutar lugares (ps ++ qs) = (C.ejecutar lugares ps).ejecutar lugares qs := List.foldl_append

end Central

section Refinamiento
variable [Aritmetica] {C : Central} {d : Cadena → Option Cadena}

/-- **The server refines the central**: a request. -/
theorem Representa.atender (h : Representa C d) (lugares : Value) (p : Peticion) :
    ∃ d', Servidor.atender lugares { datos := d } p = .sano d' (C.atender lugares p).salidas ∧
      Representa (C.atender lugares p).central d' :=
  (abstrae_administrarServicio lugares p).final ⟨d, rfl, h⟩

/-- **The server refines the central**: a run. -/
theorem Representa.ejecutar (h : Representa C d) (lugares : Value) (ps : List Peticion) :
    ∃ d', Servidor.ejecutar lugares { datos := d } ps = { datos := d' } ∧ Representa (C.ejecutar lugares ps) d' := by
  induction ps generalizing C d with
  | nil => exact ⟨d, rfl, h⟩
  | cons p ps ih =>
    obtain ⟨d₁, hatender, h₁⟩ := h.atender lugares p
    obtain ⟨d₂, hejecutar, h₂⟩ := ih h₁
    refine ⟨d₂, ?_, h₂⟩
    rw [Servidor.ejecutar, List.foldl_cons, hatender]
    exact hejecutar

theorem ejecutar_vacia (lugares : Value) (ps : List Peticion) :
    ∃ d, Servidor.ejecutar lugares .vacia ps = { datos := d } ∧ Representa (Central.vacia.ejecutar lugares ps) d :=
  Representa.vacia.ejecutar lugares ps

/-! ### What is stored after a run -/

theorem tieneUsuario_ejecutar (lugares : Value) (ps : List Peticion) (k : Cadena) :
    (Servidor.ejecutar lugares .vacia ps).tieneUsuario k = ((Central.vacia.ejecutar lugares ps).usuarios k).isSome := by
  obtain ⟨d, hdb, h⟩ := ejecutar_vacia lugares ps
  rw [hdb, h.tieneUsuario]

theorem tieneConversacion_ejecutar (lugares : Value) (ps : List Peticion) (k : Cadena) :
    (Servidor.ejecutar lugares .vacia ps).tieneConversacion k = ((Central.vacia.ejecutar lugares ps).buscar k).isSome := by
  obtain ⟨d, hdb, h⟩ := ejecutar_vacia lugares ps
  rw [hdb, h.tieneConversacion]

theorem usuarioDe_ejecutar (lugares : Value) (ps : List Peticion) (k : Cadena) :
    (Servidor.ejecutar lugares .vacia ps).usuarioDe k =
      ((Central.vacia.ejecutar lugares ps).usuarios k).map Registrado.toUsuario := by
  obtain ⟨d, hdb, h⟩ := ejecutar_vacia lugares ps
  rw [hdb, h.usuarioDe]

theorem salidas_ejecutar (lugares : Value) (ps : List Peticion) (p : Peticion) :
    (Servidor.atender lugares (Servidor.ejecutar lugares .vacia ps) p).salidas =
      ((Central.vacia.ejecutar lugares ps).atender lugares p).salidas := by
  obtain ⟨d, hdb, h⟩ := ejecutar_vacia lugares ps
  obtain ⟨d', hatender, -⟩ := h.atender lugares p
  rw [hdb, hatender]

end Refinamiento

/-! ## What a request preserves -/

namespace Central

theorem mensajeDe_eq {C : Central} {p : Peticion} {e : Registrado} (he : C.usuarios p.emisor = some e) :
    mensajeDe p e.toUsuario = p.mensaje := by
  rw [mensajeDe, Peticion.mensaje, C.claves _ _ he]

/-- A broadcast raises on a list that cannot be read, is refused, or is delivered and answered. -/
theorem atender_difusion [Aritmetica] (C : Central) (lugares : Value) {p : Peticion}
    (hp : Servidor.parsearURI p = .almacenarListaDifusion) :
    (∃ telefonos e, getParametroVector p keyContantosTelefono = .ok telefonos ∧ C.usuarios p.emisor = some e ∧
      e.token = getParametro p keyTokenSesion keyDefault ∧
      C.atender lugares p = final (seguido (respuesta (bytes "Lista de difusion enviada correctamente") true)
        (C.difundirTodos p.emisor p.mensaje telefonos))) ∨
    ∃ salidas, (salidas = [] ∨ ∃ texto, salidas = [respuesta texto false]) ∧ C.atender lugares p = ⟨C, salidas⟩ := by
  simp only [atender, servir, hp]
  unfold almacenarListaDifusion
  split
  · exact .inr ⟨[], .inl rfl, rfl⟩
  · rename_i telefonos hvec
    split
    · exact .inr ⟨_, .inr ⟨_, rfl⟩, rfl⟩
    · rename_i e he
      split
      · exact .inr ⟨_, .inr ⟨_, rfl⟩, rfl⟩
      · rename_i htoken
        refine .inl ⟨telefonos, e, hvec, he, not_not.mp htoken, ?_⟩
        rw [mensajeDe_eq he, C.claves _ _ he]
        rfl

theorem atender_difusion_token [Aritmetica] {C : Central} (lugares : Value) {p : Peticion}
    (hp : Servidor.parsearURI p = .almacenarListaDifusion) {e : Registrado} (he : C.usuarios p.emisor = some e)
    (htoken : e.token = getParametro p keyTokenSesion keyDefault) {telefonos : List Cadena}
    (hvec : getParametroVector p keyContantosTelefono = .ok telefonos) :
    C.atender lugares p = final (seguido (respuesta (bytes "Lista de difusion enviada correctamente") true)
      (C.difundirTodos p.emisor p.mensaje telefonos)) := by
  simp only [atender, servir, hp]
  unfold almacenarListaDifusion
  rw [hvec, show C.usuarios (md5 (getParametro p keyIdUsuarioEmisor keyDefault)) = some e from he]
  dsimp only
  rw [if_neg (not_not.mpr htoken), mensajeDe_eq he, C.claves _ _ he]

/-- A send of a registered user with their token, to a registered user. -/
theorem atender_envio [Aritmetica] {C : Central} (lugares : Value) {p : Peticion}
    (hp : Servidor.parsearURI p = .almacenarConversacion) {e r : Registrado} (he : C.usuarios p.emisor = some e)
    (hr : C.usuarios p.receptor = some r) (htoken : e.token = getParametro p keyTokenSesion keyDefault) :
    C.atender lugares p =
      final (seguido (respuesta p.mensaje.id true) (C.entregar p.emisor p.receptor p.mensaje)) := by
  simp only [atender, servir, hp]
  unfold almacenarConversacion
  rw [show C.usuarios (md5 (getParametro p keyIdUsuarioEmisor keyDefault)) = some e from he,
    show C.usuarios (md5 (getParametro p keyIdUsuarioReceptor keyDefault)) = some r from hr]
  dsimp only
  rw [if_pos htoken, mensajeDe_eq he, C.claves _ _ he, C.claves _ _ hr]

theorem atender_conversacion [Aritmetica] (C : Central) (lugares : Value) {p : Peticion}
    (hp : Servidor.parsearURI p = .almacenarConversacion) :
    (∃ e r, C.usuarios p.emisor = some e ∧ C.usuarios p.receptor = some r ∧
      e.token = getParametro p keyTokenSesion keyDefault ∧
      C.atender lugares p =
        final (seguido (respuesta p.mensaje.id true) (C.entregar p.emisor p.receptor p.mensaje))) ∨
    ∃ texto, C.atender lugares p = ⟨C, [respuesta texto false]⟩ := by
  simp only [atender, servir, hp]
  unfold almacenarConversacion
  split
  · rename_i e r he hr
    split
    · rename_i htoken
      refine .inl ⟨e, r, he, hr, htoken, ?_⟩
      rw [mensajeDe_eq he, C.claves _ _ he, C.claves _ _ hr]
      rfl
    · exact .inr ⟨_, rfl⟩
  · exact .inr ⟨_, rfl⟩

theorem atender_obtenerConversacion [Aritmetica] {C : Central} {lugares : Value} {p : Peticion} {k : Cadena}
    (hp : p.Pide k) {c : Chat} (hc : C.buscar k = some c) {ms : List Mensaje}
    (hms : Conversacion.recargar c.mensajes = .ok ms) :
    C.atender lugares p = ⟨C, [respuesta (mensajesJson (pedidos p ms)).toStyledString true]⟩ := by
  simp only [atender, servir, hp.1, obtenerConversacion, hp.2, hc, hms, final_ok]

theorem central_seguido (salida : Cadena) (r : EStateM.Result Excepcion Central PUnit) :
    (final (seguido salida r)).central = final r := by
  cases r <;> rfl

def escribe : TipoDeServicio → Bool
  | .registrarUsuario | .administrarPerfil | .consultarUsuarioOnline | .checkinUsuario => true
  | .almacenarConversacion | .almacenarListaDifusion => true
  | _ => false

theorem central_of_not_escribe [Aritmetica] (C : Central) (lugares : Value) {p : Peticion}
    (h : escribe (Servidor.parsearURI p) = false) : (C.atender lugares p).central = C := by
  cases hp : Servidor.parsearURI p with
  | obtenerIdConversacion =>
    simp only [atender, servir, hp]
    unfold obtenerIdConversacion
    split
    · split
      · rfl
      · split <;> rfl
    · rfl
  | obtenerConversacion =>
    simp only [atender, servir, hp]
    unfold obtenerConversacion
    split
    · rfl
    · split
      · rfl
      · split <;> rfl
  | obtenerConversaciones =>
    simp only [atender, servir, hp]
    unfold obtenerConversaciones
    split
    · rfl
    · split
      · rfl
      · split
        · rfl
        · split <;> rfl
  | obtenerContactos =>
    simp only [atender, servir, hp]
    unfold obtenerContactos
    split <;> rfl
  | prueba => simp only [atender, servir, hp, final_ok]
  | invalido => simp only [atender, servir, hp, final_ok]
  | _ =>
    rw [hp] at h
    cases h

/-- What the deliveries of a request preserve, its sending preserves. -/
theorem difundirTodos_induccion [LibC] {P : Central → Prop} {e : Cadena} {m : Mensaje}
    (h : ∀ C r, P C → (C.usuarios e).isSome → (C.usuarios r).isSome → P (final (C.entregar e r m)))
    {C : Central} (hC : P C) (he : (C.usuarios e).isSome) (ts : List Cadena) :
    P (final (C.difundirTodos e m ts)) := by
  have hinv : P (final (C.difundirTodos e m ts)) ∧ ((final (C.difundirTodos e m ts)).usuarios e).isSome := by
    refine recorrer_invariante (p := fun C => P C ∧ (C.usuarios e).isSome) ?_ ⟨hC, he⟩
    rintro t - C ⟨hC, he⟩
    refine ⟨?_, by rw [usuarios_difundir]; exact he⟩
    unfold difundir
    cases hu : (C.usuarios (md5 t)).filter (·.conectado) with
    | none => exact hC
    | some u => exact h C u.id hC he (isSome_of_eq (Option.filter_eq_some_iff.mp hu).1)
  exact hinv.1

/-- **What storing a user and delivering a message preserve, a request preserves.** -/
theorem atender_induccion [Aritmetica] {P : Central → Prop} {p : Peticion}
    (husuario : ∀ C u, P C → P (C.conUsuario u))
    (hentrega : ∀ C r, P C → p.Envia → (C.usuarios p.emisor).isSome → (C.usuarios r).isSome →
      P (final (C.entregar p.emisor r p.mensaje)))
    {C : Central} (hC : P C) (lugares : Value) : P (C.atender lugares p).central := by
  cases hp : Servidor.parsearURI p with
  | almacenarConversacion =>
    rcases C.atender_conversacion lugares hp with ⟨e, r, he, hr, -, hatender⟩ | ⟨texto, hatender⟩
    · rw [hatender, central_seguido]
      exact hentrega C _ hC (.inl hp) (by rw [he]; rfl) (by rw [hr]; rfl)
    · rw [hatender]
      exact hC
  | almacenarListaDifusion =>
    rcases C.atender_difusion lugares hp with ⟨telefonos, e, -, he, -, hatender⟩ | ⟨salidas, -, hatender⟩
    · rw [hatender, central_seguido]
      exact difundirTodos_induccion (fun C r hC he hr => hentrega C r hC (.inr hp) he hr) hC (by rw [he]; rfl) _
    · rw [hatender]
      exact hC
  | registrarUsuario =>
    simp only [atender, servir, hp]
    unfold registrarUsuario
    split
    · exact hC
    · exact husuario _ _ hC
  | administrarPerfil =>
    simp only [atender, servir, hp]
    unfold administrarPerfil
    split
    · split
      · exact husuario _ _ hC
      · exact hC
    · exact hC
  | consultarUsuarioOnline =>
    simp only [atender, servir, hp]
    unfold consultarUsuarioOnline
    split
    · exact hC
    · split
      · exact husuario _ _ hC
      · exact hC
  | checkinUsuario =>
    simp only [atender, servir, hp]
    unfold checkIn
    split
    · split
      · exact hC
      · exact husuario _ _ hC
    · exact hC
  | _ =>
    rw [C.central_of_not_escribe lugares (by rw [hp]; rfl)]
    exact hC

theorem ejecutar_induccion [Aritmetica] {P : Central → Prop} {lugares : Value} {ps : List Peticion}
    (h : ∀ p ∈ ps, ∀ C, P C → P (C.atender lugares p).central) {C : Central} (hC : P C) :
    P (C.ejecutar lugares ps) := by
  induction ps generalizing C with
  | nil => exact hC
  | cons p ps ih => exact ih (fun q hq => h q (by simp [hq])) (h p (by simp) C hC)

/-! ## What holds of every message -/

/-- Every message of the central satisfies `Q`. -/
def Todos (Q : Mensaje → Prop) (C : Central) : Prop := ∀ c ∈ C.chats, ∀ m ∈ c.mensajes, Q m

theorem todos_vacia (Q : Mensaje → Prop) : vacia.Todos Q := fun _ h => by cases h

/-- A delivery keeps what a store and a load keep of lists of messages. -/
theorem todos_entregar [LibC] {Q : Mensaje → Prop}
    (hrec : ∀ ms ms', (∀ m ∈ ms, Q m) → Conversacion.recargar ms = .ok ms' → ∀ m ∈ ms', Q m) {C : Central}
    (hC : C.Todos Q) {m : Mensaje} (hm : Q m) (x y : Cadena) : (final (C.entregar x y m)).Todos Q := by
  unfold entregar
  cases hxy : C.entre x y with
  | none =>
    intro c hc
    rw [final_ok, conChat] at hc
    dsimp only at hc
    split at hc
    · rcases List.mem_append.mp hc with hc | hc
      · exact hC c hc
      · rw [List.mem_singleton.mp hc]
        exact fun m' hm' => List.mem_singleton.mp hm' ▸ hm
    · exact hC c hc
  | some c =>
    have hmem := (entre_eq_some_iff.mp hxy).1
    dsimp only
    rw [agregar]
    cases hms : Conversacion.recargar c.mensajes with
    | error e => exact hC
    | ok ms =>
      intro c' hc'
      obtain ⟨c₀, hc₀, rfl⟩ := List.mem_map.mp hc'
      unfold escribir
      split
      · intro m' hm'
        rcases List.mem_append.mp hm' with hm' | hm'
        · exact hrec _ _ (hC c hmem) hms m' hm'
        · exact List.mem_singleton.mp hm' ▸ hm
      · exact hC c₀ hc₀

theorem todos_atender [Aritmetica] {Q : Mensaje → Prop}
    (hrec : ∀ ms ms', (∀ m ∈ ms, Q m) → Conversacion.recargar ms = .ok ms' → ∀ m ∈ ms', Q m) {p : Peticion}
    (hp : p.Envia → Q p.mensaje) {C : Central} (hC : C.Todos Q) (lugares : Value) :
    (C.atender lugares p).central.Todos Q :=
  atender_induccion (P := Todos Q) (fun _ _ h => h)
    (fun _ r h henvia _ _ => todos_entregar hrec h (hp henvia) p.emisor r) hC lugares

/-- What holds of every message that a run sends holds of every message that it keeps. -/
theorem todos_ejecutar [Aritmetica] {Q : Mensaje → Prop}
    (hrec : ∀ ms ms', (∀ m ∈ ms, Q m) → Conversacion.recargar ms = .ok ms' → ∀ m ∈ ms', Q m) {ps : List Peticion}
    (hps : ∀ p ∈ ps, p.Envia → Q p.mensaje) {C : Central} (hC : C.Todos Q) (lugares : Value) :
    (C.ejecutar lugares ps).Todos Q :=
  ejecutar_induccion (P := Todos Q) (fun p hp _ h => todos_atender hrec (hps p hp) h lugares) hC

end Central

end MensajeroX
