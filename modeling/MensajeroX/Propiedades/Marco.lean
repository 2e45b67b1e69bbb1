import MensajeroX.Central.Ejecucion

/-!
# What a send writes

All that is stored shares one space of keys. A send writes under four of them, the `huella` of its pair: the two ids that
a conversation of the pair can have, and the two indices.

* `eqOn_guardar` : what storing a conversation of a pair writes;
* `Representa.marco_almacenarMensaje` : a delivery, whether or not it raises;
* `envio_marco` : **a send touches only its own conversation**.
-/

namespace MensajeroX
open Bytes JsonCpp BaseDeDatos Efectos Servicio

/-- The keys under which a send of one of the two users to the other may write. -/
def huella (x y : Cadena) : Set Cadena :=
  {claveBaseConversacion ++ (x ++ Conversacion.guion :: y), claveBaseConversacion ++ (y ++ Conversacion.guion :: x),
    claveBaseConversacionesPorUsuario ++ x, claveBaseConversacionesPorUsuario ++ y}

section Claves
variable {x y : Cadena}

theorem not_mem_huella {clave : Cadena} : clave ∉ huella x y ↔
    clave ≠ claveBaseConversacion ++ (x ++ Conversacion.guion :: y) ∧
    clave ≠ claveBaseConversacion ++ (y ++ Conversacion.guion :: x) ∧
    clave ≠ claveBaseConversacionesPorUsuario ++ x ∧ clave ≠ claveBaseConversacionesPorUsuario ++ y := by
  simp only [huella, Set.mem_insert_iff, Set.mem_singleton_iff, not_or]

theorem huella_comm (x y : Cadena) : huella x y = huella y x := by
  ext clave
  rw [← not_iff_not, not_mem_huella, not_mem_huella]
  tauto

theorem usuario_not_mem_huella (k : Cadena) : claveBaseUsuario ++ k ∉ huella x y :=
  not_mem_huella.mpr ⟨usuario_ne_conversacion _ _, usuario_ne_conversacion _ _, usuario_ne_indice _ _,
    usuario_ne_indice _ _⟩

theorem conversacion_not_mem_huella {k : Cadena} (h₁ : k ≠ x ++ Conversacion.guion :: y)
    (h₂ : k ≠ y ++ Conversacion.guion :: x) : claveBaseConversacion ++ k ∉ huella x y :=
  not_mem_huella.mpr ⟨fun h => h₁ (List.append_cancel_left h), fun h => h₂ (List.append_cancel_left h),
    conversacion_ne_indice _ _, conversacion_ne_indice _ _⟩

theorem indice_not_mem_huella {u : Cadena} (h₁ : u ≠ x) (h₂ : u ≠ y) :
    claveBaseConversacionesPorUsuario ++ u ∉ huella x y :=
  not_mem_huella.mpr ⟨(conversacion_ne_indice _ _).symm, (conversacion_ne_indice _ _).symm,
    fun h => h₁ (List.append_cancel_left h), fun h => h₂ (List.append_cancel_left h)⟩

end Claves

/-! ## A delivery -/

/-- Storing a conversation of a pair, and entering it in the two indices. -/
theorem eqOn_guardar (x y texto : Cadena) (d : Cadena → Option Cadena) :
    Set.EqOn ([x, y].foldl (indexado (x ++ Conversacion.guion :: y))
      (Function.update d (claveBaseConversacion ++ (x ++ Conversacion.guion :: y)) (some texto))) d (huella x y)ᶜ := by
  intro clave hclave
  obtain ⟨hconversacion, -, hx, hy⟩ := not_mem_huella.mp hclave
  show indexado _ (indexado _ _ x) y clave = d clave
  rw [indexado, Function.update_of_ne hy, indexado, Function.update_of_ne hx, Function.update_of_ne hconversacion]

section Entrega
variable [LibC] {C : Central} {d : Cadena → Option Cadena} {o : List Cadena}

/-- Loading a conversation that exists, and storing it with one more message. -/
theorem Representa.marco_agregar (h : Representa C d) {k : Cadena} {c : Chat} (hc : C.buscar k = some c) (m : Mensaje)
    (x : Accion Unit) :
    ∃ d', final ((do
        let conversacion ← Conversacion.obtener k
        if conversacion.getId ≠ keyIdConversacionNoEncontrada then (conversacion.agregarMensaje m).persistir
        else x).run (.sano d o)) = .sano d' o ∧ Set.EqOn d' d (huella c.a c.b)ᶜ := by
  obtain ⟨hmem, rfl⟩ := Central.buscar_eq_some_iff.mp hc
  cases hms : Conversacion.recargar c.mensajes with
  | error e =>
    refine ⟨d, ?_, fun _ _ => rfl⟩
    rw [bind_error (h.run_obtener_error hmem hms o)]
    rfl
  | ok ms =>
    refine ⟨_, ?_, eqOn_guardar c.a c.b (Conversacion.texto c.id [c.a, c.b] (ms ++ [m])) d⟩
    rw [bind_ok (h.run_obtener hmem hms o), if_pos (getId_cargado_ne hmem ms), run_persistir_cargado hmem]
    rfl

theorem Representa.marco_almacenarMensaje (h : Representa C d) {e r : Usuario} (he : (C.usuarios e.id).isSome)
    (m : Mensaje) :
    ∃ d', final ((almacenarMensaje e r m).run (.sano d o)) = .sano d' o ∧ Set.EqOn d' d (huella e.id r.id)ᶜ := by
  cases h₁ : C.buscar (e.id ++ Conversacion.guion :: r.id) with
  | some c =>
    obtain ⟨hmem, hid⟩ := Central.buscar_eq_some_iff.mp h₁
    obtain ⟨ha, hb⟩ := Central.chat_id_inj hmem hid
    rw [almacenarMensaje, ← ha, ← hb]
    rw [← ha, ← hb] at h₁
    exact h.marco_agregar h₁ m _
  | none =>
    have hobtener : (Conversacion.obtener (e.id ++ Conversacion.guion :: r.id)).run (.sano d o) =
        .ok Conversacion.noEncontrada (.sano d o) := h.run_getConversacion_none o h₁
    rw [almacenarMensaje, bind_ok hobtener, if_neg noEncontrada_getId_ne]
    cases h₂ : C.buscar (r.id ++ Conversacion.guion :: e.id) with
    | some c =>
      obtain ⟨hmem, hid⟩ := Central.buscar_eq_some_iff.mp h₂
      obtain ⟨ha, hb⟩ := Central.chat_id_inj hmem hid
      rw [huella_comm, ← ha, ← hb]
      rw [← ha, ← hb] at h₂
      exact h.marco_agregar h₂ m _
    | none =>
      have hobtener : (Conversacion.obtener (r.id ++ Conversacion.guion :: e.id)).run (.sano d o) =
          .ok Conversacion.noEncontrada (.sano d o) := h.run_getConversacion_none o h₂
      refine ⟨_, ?_, eqOn_guardar e.id r.id (Chat.nuevo e.id r.id m).texto d⟩
      rw [bind_ok hobtener, if_neg noEncontrada_getId_ne, run_persistir_nueva (ne_nil_of_isSome he)]
      rfl

/-! ## A send -/

/-- A send of a registered user with their token, to a registered user. -/
theorem Representa.run_almacenarConversacion (h : Representa C d) {p : Peticion} {e r : Registrado}
    (he : C.usuarios p.emisor = some e) (hr : C.usuarios p.receptor = some r)
    (htoken : e.token = getParametro p keyTokenSesion keyDefault) :
    (Servicio.almacenarConversacion p).run (.sano d []) =
      (almacenarMensaje e.toUsuario r.toUsuario p.mensaje >>= fun _ => responder p.mensaje.id true).run
        (.sano d []) := by
  have hemisor := h.run_obtenerPorTelefono [] (getParametro p keyIdUsuarioEmisor keyDefault) he
  have hreceptor := h.run_obtenerPorTelefono [] (getParametro p keyIdUsuarioReceptor keyDefault) hr
  rw [Servicio.almacenarConversacion, bind_ok hemisor, bind_ok hreceptor,
    if_neg (not_or.mpr ⟨e.id_ne_noEncontrado, r.id_ne_noEncontrado⟩), if_pos htoken, Central.mensajeDe_eq he]

theorem Representa.run_almacenarConversacion_rechazada (h : Representa C d) {p : Peticion}
    (hno : ∀ e r, C.usuarios p.emisor = some e → C.usuarios p.receptor = some r →
      e.token ≠ getParametro p keyTokenSesion keyDefault) :
    (final ((Servicio.almacenarConversacion p).run (.sano d []))).db = { datos := d } := by
  have hemisor : (Usuario.obtenerPorTelefono (getParametro p keyIdUsuarioEmisor keyDefault)).run (.sano d []) =
      .ok (C.usuario p.emisor) (.sano d []) := h.run_getUsuario [] p.emisor
  have hreceptor : (Usuario.obtenerPorTelefono (getParametro p keyIdUsuarioReceptor keyDefault)).run (.sano d []) =
      .ok (C.usuario p.receptor) (.sano d []) := h.run_getUsuario [] p.receptor
  rw [Servicio.almacenarConversacion, bind_ok hemisor, bind_ok hreceptor]
  cases he : C.usuarios p.emisor with
  | none =>
    rw [Central.usuario_eq_none he, if_pos (.inl noEncontrado_id)]
    rfl
  | some e =>
    cases hr : C.usuarios p.receptor with
    | none =>
      rw [Central.usuario_eq_none hr, if_pos (.inr noEncontrado_id)]
      rfl
    | some r =>
      rw [Central.usuario_eq_some he, Central.usuario_eq_some hr,
        if_neg (not_or.mpr ⟨e.id_ne_noEncontrado, r.id_ne_noEncontrado⟩), if_neg (hno e r he hr)]
      rfl

end Entrega

section Envio
variable [Aritmetica]

/-- **A send touches only its own conversation.** The users, the conversations of other pairs and the indices of other
users stay as they were; a send that is refused changes nothing. -/
theorem envio_marco (lugares : Value) (ps : List Peticion) {p : Peticion}
    (hp : Servidor.parsearURI p = .almacenarConversacion) :
    (∀ k, (Servidor.atender lugares (Servidor.ejecutar lugares .vacia ps) p).db.datos (claveBaseUsuario ++ k) =
      (Servidor.ejecutar lugares .vacia ps).datos (claveBaseUsuario ++ k)) ∧
    (∀ k, k ≠ p.emisor ++ Conversacion.guion :: p.receptor → k ≠ p.receptor ++ Conversacion.guion :: p.emisor →
      (Servidor.atender lugares (Servidor.ejecutar lugares .vacia ps) p).db.datos (claveBaseConversacion ++ k) =
        (Servidor.ejecutar lugares .vacia ps).datos (claveBaseConversacion ++ k)) ∧
    (∀ u, u ≠ p.emisor → u ≠ p.receptor →
      (Servidor.atender lugares (Servidor.ejecutar lugares .vacia ps) p).db.datos
          (claveBaseConversacionesPorUsuario ++ u) =
        (Servidor.ejecutar lugares .vacia ps).datos (claveBaseConversacionesPorUsuario ++ u)) ∧
    ((Servidor.ejecutar lugares .vacia ps).tieneUsuario p.emisor = false ∨
        (Servidor.ejecutar lugares .vacia ps).tieneUsuario p.receptor = false ∨
        (Servidor.ejecutar lugares .vacia ps).tokenDe p.emisor ≠ getParametro p keyTokenSesion keyDefault →
      (Servidor.atender lugares (Servidor.ejecutar lugares .vacia ps) p).db = Servidor.ejecutar lugares .vacia ps) := by
  obtain ⟨d, hdb, h⟩ := ejecutar_vacia lugares ps
  rw [hdb]
  generalize Central.vacia.ejecutar lugares ps = C at h
  have hatender : Servidor.atender lugares { datos := d } p =
      final ((Servicio.almacenarConversacion p).run (.sano d [])) := by
    rw [Servidor.atender, Servidor.administrarServicio, hp]
  -- outside of the four keys nothing changes
  have hmarco : Set.EqOn (Servidor.atender lugares { datos := d } p).db.datos d (huella p.emisor p.receptor)ᶜ := by
    rw [hatender]
    by_cases hacepta : ∃ e r, C.usuarios p.emisor = some e ∧ C.usuarios p.receptor = some r ∧
        e.token = getParametro p keyTokenSesion keyDefault
    · obtain ⟨e, r, he, hr, htoken⟩ := hacepta
      rw [h.run_almacenarConversacion he hr htoken]
      obtain ⟨d', hfinal, heqOn⟩ := h.marco_almacenarMensaje (e := e.toUsuario) (r := r.toUsuario) (o := [])
        (by rw [C.claves _ _ he, he]; rfl) p.mensaje
      rw [C.claves _ _ he, C.claves _ _ hr] at heqOn
      cases hrun : (almacenarMensaje e.toUsuario r.toUsuario p.mensaje).run (.sano d []) with
      | ok a s =>
        rw [hrun] at hfinal
        obtain rfl : s = .sano d' [] := hfinal
        rw [bind_ok hrun]
        exact heqOn
      | error ex s =>
        rw [hrun] at hfinal
        obtain rfl : s = .sano d' [] := hfinal
        rw [bind_error hrun]
        exact heqOn
    · rw [h.run_almacenarConversacion_rechazada fun e r he hr htoken => hacepta ⟨e, r, he, hr, htoken⟩]
      exact fun _ _ => rfl
  refine ⟨fun k => hmarco (usuario_not_mem_huella k), fun k h₁ h₂ => hmarco (conversacion_not_mem_huella h₁ h₂),
    fun u h₁ h₂ => hmarco (indice_not_mem_huella h₁ h₂), fun hrechaza => ?_⟩
  rw [hatender]
  refine h.run_almacenarConversacion_rechazada fun e r he hr htoken => ?_
  rw [h.tieneUsuario, h.tieneUsuario, h.tokenDe he, he, hr] at hrechaza
  rcases hrechaza with hno | hno | hno
  · cases hno
  · cases hno
  · exact hno htoken

end Envio

section Enviado
attribute [local instance] Aritmetica.nula

theorem envio_marco_hola :
    (∀ k, (Servidor.atender .null (Servidor.ejecutar .null .vacia [.registro (bytes "1"), .registro (bytes "2")])
        (.envio (bytes "1") (bytes "2") [] (bytes "hola") (bytes "10:00"))).db.datos (claveBaseUsuario ++ k) =
      (Servidor.ejecutar .null .vacia [.registro (bytes "1"), .registro (bytes "2")]).datos (claveBaseUsuario ++ k)) ∧
    (Servidor.atender .null .vacia (.envio (bytes "1") (bytes "2") [] (bytes "hola") (bytes "10:00"))).db = .vacia :=
  ⟨(envio_marco .null _ rfl).1, (envio_marco .null [] rfl).2.2.2 (.inl rfl)⟩

end Enviado

end MensajeroX
