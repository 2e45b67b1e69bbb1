import MensajeroX.Central.Ejecucion

/-!
# What a request does to the users

A request stores at most one record: the one of a registration, of a profile, of a connection or of a check-in
(`Central.Escribe`). Everything else leaves the users as they are, so what is said of users over a run is said of these
four records.

* `Escribe.central` : the central after a request that stores a record;
* `usuarios_atender` : **a request stores such a record, or leaves the users alone**;
* `usuarios_atender_some`, `Escribe.sustituye` : what becomes of a record;
* `usuarios_induccion` : what a request preserves of the users.
-/

namespace MensajeroX
open Bytes JsonCpp BaseDeDatos Efectos Servicio

namespace Central

/-- The request stores the record. -/
inductive Escribe [Aritmetica] (C : Central) (lugares : Value) (p : Peticion) : Registrado → Prop
  | alta (hp : Servidor.parsearURI p = .registrarUsuario)
      (hnuevo : C.usuarios (md5 (getParametro p keyTelefono keyDefault)) = none) : Escribe C lugares p (.alta p)
  | perfil {u : Registrado} (hp : Servidor.parsearURI p = .administrarPerfil)
      (hu : C.usuarios (md5 (getParametro p keyTelefono keyDefault)) = some u)
      (htoken : u.token = getParametro p keyTokenSesion keyDefault) : Escribe C lugares p (u.conPerfil p)
  | conexion {u : Registrado} {telefono : Cadena} (hp : Servidor.parsearURI p = .consultarUsuarioOnline)
      (hid : idMetodoGET p urlBaseUsuario = .ok telefono) (hu : C.usuarios (md5 telefono) = some u) :
    Escribe C lugares p (u.conConexion p)
  | localizacion {u : Registrado} {ubicacion : Cadena} (hp : Servidor.parsearURI p = .checkinUsuario)
      (hu : C.usuarios (md5 (getParametro p keyTelefono keyDefault)) = some u)
      (hubicacion : Localizacion.calcularUbicacion lugares (coordenadas p) = .ok ubicacion) :
    Escribe C lugares p (u.conLocalizacion (ubicacion ++ bytes " " ++ p.fechaYhora.val))

section Escribe
variable [Aritmetica] {C : Central} {lugares : Value} {p : Peticion} {u : Registrado}

theorem Escribe.central (h : Escribe C lugares p u) : (C.atender lugares p).central = C.conUsuario u := by
  cases h with
  | alta hp hnuevo => simp only [atender, servir, hp, registrarUsuario, hnuevo, final_ok]
  | perfil hp hu htoken => simp only [atender, servir, hp, administrarPerfil, hu, if_pos htoken, final_ok]
  | conexion hp hid hu => simp only [atender, servir, hp, consultarUsuarioOnline, hid, hu, final_ok]
  | localizacion hp hu hubicacion => simp only [atender, servir, hp, checkIn, hu, hubicacion, final_ok]

theorem usuarios_difundirTodos (C : Central) {e : Cadena} (he : (C.usuarios e).isSome) (m : Mensaje) (ts : List Cadena) :
    (final (C.difundirTodos e m ts)).usuarios = C.usuarios := by
  refine difundirTodos_induccion (P := fun C' => C'.usuarios = C.usuarios) ?_ rfl he ts
  intro C' r hC' _ _
  rw [usuarios_entregar, hC']

/-- **A request stores a record, or leaves the users alone.** -/
theorem usuarios_atender (C : Central) (lugares : Value) (p : Peticion) :
    (∃ u, Escribe C lugares p u) ∨ (C.atender lugares p).central.usuarios = C.usuarios := by
  cases hp : Servidor.parsearURI p with
  | registrarUsuario =>
    cases hu : C.usuarios (md5 (getParametro p keyTelefono keyDefault)) with
    | none => exact .inl ⟨_, .alta hp hu⟩
    | some u =>
      right
      simp only [atender, servir, hp, registrarUsuario, hu, final_ok]
  | administrarPerfil =>
    cases hu : C.usuarios (md5 (getParametro p keyTelefono keyDefault)) with
    | none =>
      right
      simp only [atender, servir, hp, administrarPerfil, hu, final_ok]
    | some u =>
      by_cases htoken : u.token = getParametro p keyTokenSesion keyDefault
      · exact .inl ⟨_, .perfil hp hu htoken⟩
      · right
        simp only [atender, servir, hp, administrarPerfil, hu, if_neg htoken, final_ok]
  | consultarUsuarioOnline =>
    cases hid : idMetodoGET p urlBaseUsuario with
    | error e =>
      right
      simp only [atender, servir, hp, consultarUsuarioOnline, hid, final_error]
    | ok telefono =>
      cases hu : C.usuarios (md5 telefono) with
      | none =>
        right
        simp only [atender, servir, hp, consultarUsuarioOnline, hid, hu, final_ok]
      | some u => exact .inl ⟨_, .conexion hp hid hu⟩
  | checkinUsuario =>
    cases hu : C.usuarios (md5 (getParametro p keyTelefono keyDefault)) with
    | none =>
      right
      simp only [atender, servir, hp, checkIn, hu, final_ok]
    | some u =>
      cases hubicacion : Localizacion.calcularUbicacion lugares (coordenadas p) with
      | error e =>
        right
        simp only [atender, servir, hp, checkIn, hu, hubicacion, final_error]
      | ok ubicacion => exact .inl ⟨_, .localizacion hp hu hubicacion⟩
  | almacenarConversacion =>
    right
    rcases C.atender_conversacion lugares hp with ⟨e, r, -, -, -, hatender⟩ | ⟨texto, hatender⟩
    · rw [hatender, central_seguido, usuarios_entregar]
    · rw [hatender]
  | almacenarListaDifusion =>
    right
    rcases C.atender_difusion lugares hp with ⟨telefonos, e, -, he, -, hatender⟩ | ⟨salidas, -, hatender⟩
    · rw [hatender, central_seguido]
      exact usuarios_difundirTodos C (by rw [he]; rfl) _ _
    · rw [hatender]
  | _ =>
    right
    rw [C.central_of_not_escribe lugares (by rw [hp]; rfl)]

/-- A record that is stored in place of another: a profile, a connection or a check-in. -/
theorem Escribe.sustituye {v : Registrado} (hv : Escribe C lugares p v) (hu : C.usuarios v.id = some u) :
    (Servidor.parsearURI p = .administrarPerfil ∧ C.usuarios (md5 (getParametro p keyTelefono keyDefault)) = some u ∧
      u.token = getParametro p keyTokenSesion keyDefault ∧ v = u.conPerfil p) ∨
    v = u.conConexion p ∨
    ∃ ubicacion, Servidor.parsearURI p = .checkinUsuario ∧
      C.usuarios (md5 (getParametro p keyTelefono keyDefault)) = some u ∧
      Localizacion.calcularUbicacion lugares (coordenadas p) = .ok ubicacion ∧
      v = u.conLocalizacion (ubicacion ++ bytes " " ++ p.fechaYhora.val) := by
  -- the record that is rewritten is the one under the id
  have hmismo : ∀ {k : Cadena} {w : Registrado}, C.usuarios k = some w → C.usuarios w.id = some u → w = u := by
    intro k w hw hwu
    rw [C.claves k w hw, hw] at hwu
    exact Option.some.inj hwu
  cases hv with
  | alta hp hnuevo =>
    rw [show (Registrado.alta p).id = md5 (getParametro p keyTelefono keyDefault) from rfl, hnuevo] at hu
    cases hu
  | perfil hp hw htoken =>
    obtain rfl := hmismo hw hu
    exact .inl ⟨hp, hw, htoken, rfl⟩
  | conexion hp hid hw =>
    obtain rfl := hmismo hw hu
    exact .inr (.inl rfl)
  | localizacion hp hw hubicacion =>
    obtain rfl := hmismo hw hu
    exact .inr (.inr ⟨_, hp, hw, hubicacion, rfl⟩)

/-- A registered user stays registered, with the same record or with one that the request stores. -/
theorem usuarios_atender_some (lugares : Value) {k : Cadena} (hu : C.usuarios k = some u) :
    ∃ v, (C.atender lugares p).central.usuarios k = some v ∧ (v = u ∨ Escribe C lugares p v ∧ v.id = k) := by
  rcases usuarios_atender C lugares p with ⟨v, hv⟩ | husuarios
  · rw [hv.central]
    by_cases hk : k = v.id
    · subst hk
      exact ⟨v, Function.update_self .., .inr ⟨hv, rfl⟩⟩
    · exact ⟨u, (Function.update_of_ne hk ..).trans hu, .inl rfl⟩
  · exact ⟨u, husuarios ▸ hu, .inl rfl⟩

/-- **What the four records preserve, a request preserves.** -/
theorem usuarios_induccion {P : Cadena → Registrado → Prop} (hP : ∀ k u, C.usuarios k = some u → P k u)
    (hescribe : ∀ u, Escribe C lugares p u → P u.id u) {k : Cadena} {u : Registrado}
    (hu : (C.atender lugares p).central.usuarios k = some u) : P k u := by
  rcases usuarios_atender C lugares p with ⟨v, hv⟩ | husuarios
  · rw [hv.central] at hu
    by_cases hk : k = v.id
    · subst hk
      rw [show (C.conUsuario v).usuarios v.id = some v from Function.update_self ..] at hu
      obtain rfl : v = u := Option.some.inj hu
      exact hescribe v hv
    · rw [show (C.conUsuario v).usuarios k = C.usuarios k from Function.update_of_ne hk ..] at hu
      exact hP k u hu
  · rw [husuarios] at hu
    exact hP k u hu

end Escribe

end Central

end MensajeroX
