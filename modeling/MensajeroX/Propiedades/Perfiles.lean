import MensajeroX.Central.Usuarios

/-!
# The records of the users

A user is stored under the hash of their telephone. A registration creates the record; a profile, a connection and a
check-in rewrite it as a whole. `Servidor.Integra` says that a request changes the profile of a user only if it carries
their telephone and their token.

* `usuarios_por_telefono` : **a record is never replaced or lost**;
* `integra_iff` : **profiles are changed only by their users, check-ins with a foreign token apart**;
* `edicionExacta_iff` : **which profiles an edit changes as it says**.
-/

namespace MensajeroX
open Bytes JsonCpp BaseDeDatos Efectos Servicio

/-! ## Records -/

section Registros
variable [Aritmetica] {lugares : Value}

theorem Central.telefono_atender (lugares : Value) {C : Central} {p : Peticion} {k : Cadena} {u : Registrado} (hu : C.usuarios k = some u) :
    ∃ v, (C.atender lugares p).central.usuarios k = some v ∧ v.telefono = u.telefono := by
  obtain ⟨v, hv, rfl | ⟨hescribe, rfl⟩⟩ := usuarios_atender_some lugares (p := p) hu
  · exact ⟨v, hv, rfl⟩
  · refine ⟨v, hv, ?_⟩
    obtain ⟨-, -, -, rfl⟩ | rfl | ⟨_, -, -, -, rfl⟩ := hescribe.sustituye hu <;> rfl

theorem Central.telefono_ejecutar (lugares : Value) {C : Central} (ps : List Peticion) {k : Cadena} {u : Registrado}
    (hu : C.usuarios k = some u) :
    ∃ v, (C.ejecutar lugares ps).usuarios k = some v ∧ v.telefono = u.telefono :=
  ejecutar_induccion (P := fun C' => ∃ v, C'.usuarios k = some v ∧ v.telefono = u.telefono)
    (fun p _ C' ⟨v, hv, htelefono⟩ => by
      obtain ⟨w, hw, hwv⟩ := telefono_atender lugares (p := p) hv
      exact ⟨w, hw, hwv.trans htelefono⟩)
    ⟨u, hu, rfl⟩

/-- After the run `ps`, the request `p` registers its telephone. -/
def Servidor.Registra (lugares : Value) (ps : List Peticion) (p : Peticion) : Prop :=
  Servidor.parsearURI p = .registrarUsuario ∧
    (Servidor.atender lugares (Servidor.ejecutar lugares .vacia ps) p).salidas =
      [respuesta (bytes "Usuario registrado correctamente") true]

instance (lugares : Value) (ps : List Peticion) (p : Peticion) : Decidable (Servidor.Registra lugares ps p) := by
  unfold Servidor.Registra
  infer_instance

theorem Servidor.Registra.usuarios {ps : List Peticion} {p : Peticion} (h : Servidor.Registra lugares ps p) :
    (Central.vacia.ejecutar lugares (ps ++ [p])).usuarios (md5 (getParametro p keyTelefono keyDefault)) =
      some (.alta p) := by
  obtain ⟨hp, hsalidas⟩ := h
  obtain ⟨d, hdb, hrep⟩ := ejecutar_vacia lugares ps
  obtain ⟨d', hatender, -⟩ := hrep.atender lugares p
  rw [hdb, hatender] at hsalidas
  rw [Central.ejecutar_append]
  show ((Central.vacia.ejecutar lugares ps).atender lugares p).central.usuarios _ = _
  cases hu : (Central.vacia.ejecutar lugares ps).usuarios (md5 (getParametro p keyTelefono keyDefault)) with
  | some u =>
    simp only [Central.atender, Central.servir, hp, Central.registrarUsuario, hu, final_ok] at hsalidas
    cases (respuesta_inj (List.cons.inj hsalidas).1).2
  | none =>
    rw [(Central.Escribe.alta hp hu).central]
    exact Function.update_self ..

theorem Servidor.registra_inicial (lugares : Value) (t : Cadena) : Servidor.Registra lugares [] (.registro t) := by
  obtain ⟨d, hatender, -⟩ := Representa.vacia.atender lugares (.registro t)
  refine ⟨rfl, ?_⟩
  show (Servidor.atender lugares { datos := fun _ => none } (.registro t)).salidas = _
  rw [hatender]
  rfl

theorem Servidor.Registra.despues {ps₁ : List Peticion} {p : Peticion} (h : Servidor.Registra lugares ps₁ p)
    (ps₂ : List Peticion) :
    ∃ u, (Central.vacia.ejecutar lugares (ps₁ ++ p :: ps₂)).usuarios (md5 (getParametro p keyTelefono keyDefault)) =
        some u ∧ u.telefono = getParametro p keyTelefono keyDefault := by
  obtain ⟨u, hu, htelefono⟩ := Central.telefono_ejecutar lugares ps₂ h.usuarios
  rw [← Central.ejecutar_append, List.append_assoc, List.singleton_append] at hu
  exact ⟨u, hu, htelefono⟩

/-- **A record is never replaced or lost.** Every text under the key of a user is that of a user with that id, the hash
of their telephone. A telephone that was registered stays so, and registering it again is refused and changes
nothing. -/
theorem usuarios_por_telefono (lugares : Value) (ps : List Peticion) :
    (∀ k v, (Servidor.ejecutar lugares .vacia ps).datos (claveBaseUsuario ++ k) = some v →
      ∃ u, Usuario.deserealizar v = .ok u ∧ u.id = k ∧ u.id = md5 u.telefono) ∧
    ∀ ps₁ p ps₂, ps = ps₁ ++ p :: ps₂ → Servidor.Registra lugares ps₁ p →
      (∃ u, (Servidor.ejecutar lugares .vacia ps).usuarioDe (md5 (getParametro p keyTelefono keyDefault)) = some u ∧
        u.telefono = getParametro p keyTelefono keyDefault) ∧
      ∀ q, Servidor.parsearURI q = .registrarUsuario →
        getParametro q keyTelefono keyDefault = getParametro p keyTelefono keyDefault →
        Servidor.atender lugares (Servidor.ejecutar lugares .vacia ps) q =
          { db := Servidor.ejecutar lugares .vacia ps
            salidas := [respuesta (bytes "El usuario ya existe") false] } := by
  obtain ⟨d, hdb, h⟩ := ejecutar_vacia lugares ps
  rw [hdb]
  constructor
  · intro k v hv
    replace hv : d (claveBaseUsuario ++ k) = some v := hv
    rw [h.usuarios] at hv
    cases hu : (Central.vacia.ejecutar lugares ps).usuarios k with
    | none =>
      rw [hu] at hv
      cases hv
    | some u =>
      rw [hu] at hv
      obtain rfl : u.serializar = v := Option.some.inj hv
      exact ⟨u.toUsuario, u.deserealizar_serializar, Central.claves _ k u hu, u.id_eq⟩
  · rintro ps₁ p ps₂ rfl hregistra
    obtain ⟨u, hu, htelefono⟩ := hregistra.despues ps₂
    refine ⟨⟨u.toUsuario, by rw [h.usuarioDe, hu]; rfl, htelefono⟩, fun q hq htel => ?_⟩
    have hrun : (obtenerUsuario q).run { db := { datos := d } } = .ok u.toUsuario (.sano d []) :=
      h.run_obtenerPorTelefono [] _ (by rw [htel]; exact hu)
    unfold Servidor.atender Servidor.administrarServicio
    simp only [hq]
    rw [Servicio.registrarUsuario, bind_ok hrun, if_pos u.id_ne_noEncontrado]
    rfl

theorem Servidor.usuarioDe_inicial (lugares : Value) (t : Cadena) :
    (Servidor.ejecutar lugares .vacia [.registro t]).usuarioDe
      (md5 (getParametro (.registro t) keyTelefono keyDefault)) = some (Registrado.alta (.registro t)).toUsuario := by
  rw [usuarioDe_ejecutar]
  exact congrArg _ (Servidor.registra_inicial lugares t).usuarios

end Registros

section Repetido
attribute [local instance] Aritmetica.nula

def registrado : List Peticion := [.registro (bytes "1"), .consulta Peticion.uriUno]

theorem usuarios_por_telefono_registrado :
    Servidor.Registra .null [] (.registro (bytes "1")) ∧
    (∃ u, (Servidor.ejecutar .null .vacia registrado).usuarioDe (md5 (bytes "1")) = some u ∧
      u.telefono = bytes "1") ∧
    Servidor.atender .null (Servidor.ejecutar .null .vacia registrado) (.registro (bytes "1")) =
      { db := Servidor.ejecutar .null .vacia registrado
        salidas := [respuesta (bytes "El usuario ya existe") false] } := by
  have hregistra := Servidor.registra_inicial .null (bytes "1")
  obtain ⟨husuario, hrepetida⟩ := (usuarios_por_telefono .null registrado).2 [] _ _ rfl hregistra
  exact ⟨hregistra, husuario, hrepetida _ rfl rfl⟩

end Repetido

/-! ## Profiles -/

def Usuario.perfil (u : Usuario) : Cadena × Cadena × Bool × Cadena × Cadena :=
  (u.nombre, u.fotoDePerfil, u.conectado, u.localizacion, u.password)

def Peticion.perfil (p : Peticion) : Cadena × Cadena × Bool × Cadena × Cadena :=
  (getParametro p keyNombre keyDefault, getParametro p keyFotoDePerfil keyDefault,
    StringUtil.toBoolean (getParametro p keyEstadoDeConexion keyDefault), getParametro p keyLocalizacion keyDefault,
    getParametro p keyPassword keyDefault)

/-- The request carries the telephone and the token of the user. -/
def Peticion.Autoriza (p : Peticion) (u : Usuario) : Prop :=
  getParametro p keyTelefono keyDefault = u.telefono ∧ getParametro p keyTokenSesion keyDefault = u.token

instance (p : Peticion) (u : Usuario) : Decidable (p.Autoriza u) := by unfold Peticion.Autoriza; infer_instance

namespace Servidor
variable [Aritmetica] (lugares : Value) (db : RocksDB) (p : Peticion)

/-- The request changes no profile of a user that it is not authorised for. -/
def Integra : Prop :=
  ∀ k u, db.usuarioDe k = some u →
    ∃ v, (atender lugares db p).db.usuarioDe k = some v ∧ (v.perfil ≠ u.perfil → p.Autoriza u)

/-- A check-in that moves a user, without being authorised. -/
def CheckInAjeno : Prop :=
  parsearURI p = .checkinUsuario ∧
    ∃ u ubicacion, db.usuarioDe (md5 (getParametro p keyTelefono keyDefault)) = some u ∧
      Localizacion.calcularUbicacion lugares (coordenadas p) = .ok ubicacion ∧
      ubicacion ++ bytes " " ++ p.fechaYhora.val ≠ u.localizacion ∧ ¬ p.Autoriza u

/-- A new profile for a user with another telephone, whose hash is the same. -/
def PerfilAjeno : Prop :=
  parsearURI p = .administrarPerfil ∧
    ∃ u, db.usuarioDe (md5 (getParametro p keyTelefono keyDefault)) = some u ∧
      getParametro p keyTokenSesion keyDefault = u.token ∧ p.perfil ≠ u.perfil ∧
      getParametro p keyTelefono keyDefault ≠ u.telefono

end Servidor

section Perfiles
variable [Aritmetica]

theorem Representa.usuarioDe_escribe {C : Central} {d : Cadena → Option Cadena} (h : Representa C d) {lugares : Value}
    {p : Peticion} {u : Registrado} (hu : Central.Escribe C lugares p u) :
    (Servidor.atender lugares { datos := d } p).db.usuarioDe u.id = some u.toUsuario := by
  obtain ⟨d', hatender, h'⟩ := h.atender lugares p
  rw [hatender, h'.usuarioDe, hu.central, show (C.conUsuario u).usuarios u.id = some u from Function.update_self ..]
  rfl

/-- **A request changes only profiles that it is authorised for**, unless it is a check-in, which does not look at the
token, or the telephones of two users have one hash. -/
theorem integra_iff (lugares : Value) (ps : List Peticion) (p : Peticion) :
    Servidor.Integra lugares (Servidor.ejecutar lugares .vacia ps) p ↔
      ¬ Servidor.CheckInAjeno lugares (Servidor.ejecutar lugares .vacia ps) p ∧
      ¬ Servidor.PerfilAjeno (Servidor.ejecutar lugares .vacia ps) p := by
  obtain ⟨d, hdb, h⟩ := ejecutar_vacia lugares ps
  rw [hdb]
  have hregistrado : ∀ {k : Cadena} {u : Usuario}, RocksDB.usuarioDe { datos := d } k = some u →
      ∃ v : Registrado, (Central.vacia.ejecutar lugares ps).usuarios k = some v ∧ v.toUsuario = u := by
    intro k u hu
    rw [h.usuarioDe] at hu
    exact Option.map_eq_some_iff.mp hu
  constructor
  · intro hint
    -- a record that the request stores for a user it is not authorised for
    have hno : ∀ {k : Cadena} {u v : Registrado}, (Central.vacia.ejecutar lugares ps).usuarios k = some u →
        Central.Escribe (Central.vacia.ejecutar lugares ps) lugares p v → v.id = k → v.perfil ≠ u.perfil →
        p.Autoriza u.toUsuario := by
      rintro k u v hu hv rfl hperfil
      obtain ⟨w, hw, hautoriza⟩ := hint v.id u.toUsuario (by rw [h.usuarioDe, hu]; rfl)
      rw [h.usuarioDe_escribe hv] at hw
      cases hw
      exact hautoriza hperfil
    constructor
    · rintro ⟨hp, u, ubicacion, hu, hubicacion, hmueve, hajeno⟩
      obtain ⟨w, hw, rfl⟩ := hregistrado hu
      refine hajeno (hno hw (.localizacion hp hw hubicacion) (Central.claves _ _ w hw) fun hperfil => hmueve ?_)
      exact congrArg (·.2.2.2.1) hperfil
    · rintro ⟨hp, u, hu, htoken, hcambia, hajeno⟩
      obtain ⟨w, hw, rfl⟩ := hregistrado hu
      exact hajeno (hno hw (.perfil hp hw htoken.symm) (Central.claves _ _ w hw) hcambia).1
  · rintro ⟨hcheckin, hperfil⟩ k u hu
    obtain ⟨w, hw, rfl⟩ := hregistrado hu
    obtain ⟨d', hatender, h'⟩ := h.atender lugares p
    obtain ⟨v, hv, hcaso⟩ := Central.usuarios_atender_some lugares (p := p) hw
    refine ⟨v.toUsuario, by rw [hatender, h'.usuarioDe, hv]; rfl, fun hcambia => ?_⟩
    obtain rfl | ⟨hescribe, rfl⟩ := hcaso
    · exact absurd rfl hcambia
    obtain ⟨hp, hu', htoken, rfl⟩ | rfl | ⟨ubicacion, hp, hu', hubicacion, rfl⟩ := hescribe.sustituye hw
    · refine ⟨by_contra fun htelefono => hperfil ?_, htoken.symm⟩
      exact ⟨hp, w.toUsuario, by rw [h.usuarioDe, hu']; rfl, htoken.symm, hcambia, htelefono⟩
    · exact absurd rfl hcambia
    · refine by_contra fun hajeno => hcheckin ?_
      refine ⟨hp, w.toUsuario, ubicacion, by rw [h.usuarioDe, hu']; rfl, hubicacion, fun heq => hcambia ?_, hajeno⟩
      show (w.nombre, w.fotoDePerfil, w.conectado, ubicacion ++ bytes " " ++ p.fechaYhora.val, w.password) = _
      rw [heq]
      rfl

end Perfiles

section Ajena
attribute [local instance] Aritmetica.nula

/-- A check-in with a token that was never issued moves the user. -/
theorem no_integra_checkIn :
    ¬ Servidor.Integra (.array []) (Servidor.ejecutar (.array []) .vacia [.registro (bytes "1")])
      (.checkIn (bytes "1") (bytes "x")) := by
  intro h
  obtain ⟨v, hv, hautoriza⟩ := h _ _ (Servidor.usuarioDe_inicial (.array []) (bytes "1"))
  have hcambia : ((Servidor.ejecutar (.array []) .vacia [.registro (bytes "1"), .checkIn (bytes "1") (bytes "x")]).usuarioDe
      (md5 (bytes "1"))).map Usuario.perfil ≠ some (Registrado.alta (.registro (bytes "1"))).toUsuario.perfil := by
    rw [usuarioDe_ejecutar]
    decide +kernel
  have hdespues : (Servidor.ejecutar (.array []) .vacia [.registro (bytes "1"), .checkIn (bytes "1") (bytes "x")]).usuarioDe
      (md5 (bytes "1")) = some v := hv
  rw [hdespues] at hcambia
  -- the profile has changed, so the request should have carried the token
  have htoken := (hautoriza fun heq => hcambia (congrArg some heq)).2
  cases htoken

end Ajena

/-! ## Edits -/

/-- The value of a field after an edit: the one that the parameter gives, or the one before. -/
def Peticion.editado {α : Type} (p : Peticion) (nombre : Cadena) (lee : Cadena → α) (antes : α) : α :=
  match p.mg_get_var nombre with
  | none => antes
  | some valor => lee valor

def Peticion.edita (p : Peticion) (u : Usuario) : Usuario :=
  { u with
    nombre := p.editado keyNombre id u.nombre
    fotoDePerfil := p.editado keyFotoDePerfil id u.fotoDePerfil
    conectado := p.editado keyEstadoDeConexion StringUtil.toBoolean u.conectado
    localizacion := p.editado keyLocalizacion id u.localizacion
    password := p.editado keyPassword id u.password }

/-- The request changes the fields of the user that it names, and nothing else of any user. -/
structure Servidor.EdicionExacta [Aritmetica] (lugares : Value) (db : RocksDB) (p : Peticion) (u : Usuario) : Prop where
  usuario : (atender lugares db p).db.usuarioDe u.id = some (p.edita u)
  demas : ∀ k, k ≠ u.id → (atender lugares db p).db.usuarioDe k = db.usuarioDe k

/-- The parameter is given, and reads the same up to its first NUL, or the field has the default of the parameters. -/
def Peticion.Conserva {α : Type} (p : Peticion) (nombre : Cadena) (lee : Cadena → α) (antes : α) : Prop :=
  match p.mg_get_var nombre with
  | none => lee keyDefault = antes
  | some valor => lee (cstr valor) = lee valor

/-- What the handler reads of a parameter is what the edit should give. -/
theorem Peticion.lee_getParametro_iff {α : Type} (p : Peticion) (nombre : Cadena) (lee : Cadena → α) (antes : α) :
    lee (getParametro p nombre keyDefault) = p.editado nombre lee antes ↔ p.Conserva nombre lee antes := by
  unfold getParametro Peticion.editado Peticion.Conserva
  cases p.mg_get_var nombre with
  | none => exact Iff.rfl
  | some valor =>
    dsimp only
    split
    · rename_i hvacio
      rw [List.length_eq_zero_iff.mp (Nat.lt_one_iff.mp hvacio)]
      exact iff_of_true rfl rfl
    · exact Iff.rfl

/-- Every field of the profile is given, or has the default of the parameters. -/
def Peticion.ConservaPerfil (p : Peticion) (u : Usuario) : Prop :=
  p.Conserva keyNombre id u.nombre ∧ p.Conserva keyFotoDePerfil id u.fotoDePerfil ∧
    p.Conserva keyEstadoDeConexion StringUtil.toBoolean u.conectado ∧ p.Conserva keyLocalizacion id u.localizacion ∧
    p.Conserva keyPassword id u.password

theorem Peticion.conPerfil_eq_edita_iff (p : Peticion) (u : Registrado) :
    (u.conPerfil p).toUsuario = p.edita u.toUsuario ↔ p.ConservaPerfil u.toUsuario := by
  simp only [ConservaPerfil, ← lee_getParametro_iff, Registrado.conPerfil, edita, Usuario.mk.injEq, id, true_and]

section Ediciones
variable [Aritmetica]

theorem Representa.edicion_iff {C : Central} {d : Cadena → Option Cadena} (h : Representa C d) (lugares : Value)
    {p : Peticion} (hp : Servidor.parsearURI p = .administrarPerfil) {u : Registrado}
    (hu : C.usuarios (md5 (getParametro p keyTelefono keyDefault)) = some u)
    (htoken : u.token = getParametro p keyTokenSesion keyDefault) :
    Servidor.EdicionExacta lugares { datos := d } p u.toUsuario ↔ p.ConservaPerfil u.toUsuario := by
  have hescribe : Central.Escribe C lugares p (u.conPerfil p) := .perfil hp hu htoken
  rw [← p.conPerfil_eq_edita_iff u]
  constructor
  · rintro ⟨husuario, -⟩
    rw [show u.toUsuario.id = (u.conPerfil p).id from rfl, h.usuarioDe_escribe hescribe] at husuario
    exact Option.some.inj husuario
  · intro heditado
    refine ⟨?_, fun k hk => ?_⟩
    · rw [← heditado]
      exact h.usuarioDe_escribe hescribe
    · obtain ⟨d', hatender, h'⟩ := h.atender lugares p
      rw [hatender, h'.usuarioDe, h.usuarioDe, hescribe.central]
      exact congrArg _ (Function.update_of_ne hk _ _)

/-- **Which profiles an edit changes as it says**: those whose fields are all given, without NULs, or have the default of
the parameters. -/
theorem edicionExacta_iff (lugares : Value) (ps : List Peticion) {p : Peticion}
    (hp : Servidor.parsearURI p = .administrarPerfil) {u : Usuario}
    (hu : (Servidor.ejecutar lugares .vacia ps).usuarioDe (md5 (getParametro p keyTelefono keyDefault)) = some u)
    (htoken : u.token = getParametro p keyTokenSesion keyDefault) :
    Servidor.EdicionExacta lugares (Servidor.ejecutar lugares .vacia ps) p u ↔ p.ConservaPerfil u := by
  obtain ⟨d, hdb, h⟩ := ejecutar_vacia lugares ps
  rw [hdb] at hu ⊢
  rw [h.usuarioDe] at hu
  obtain ⟨v, hv, rfl⟩ := Option.map_eq_some_iff.mp hu
  exact h.edicion_iff lugares hp hv htoken

end Ediciones

section Editado
attribute [local instance] Aritmetica.nula

def edicion (vars : List (Cadena × Cadena)) : Peticion :=
  .con Peticion.metodoPUT Peticion.uriUsuarios ((keyTelefono, bytes "1") :: vars)

def edicionCompleta : Peticion :=
  edicion [(keyNombre, bytes "ana"), (keyFotoDePerfil, bytes "f"), (keyEstadoDeConexion, bytes "true"),
    (keyLocalizacion, bytes "casa"), (keyPassword, bytes "p")]

theorem edicionExacta_completa :
    Servidor.EdicionExacta .null (Servidor.ejecutar .null .vacia [.registro (bytes "1")]) edicionCompleta
      (Registrado.alta (.registro (bytes "1"))).toUsuario := by
  have hu := Servidor.usuarioDe_inicial .null (bytes "1")
  exact (edicionExacta_iff .null _ (p := edicionCompleta) rfl hu rfl).mpr ⟨rfl, rfl, rfl, rfl, rfl⟩

/-- An edit of the name disconnects the user. -/
theorem no_edicionExacta_nombre :
    (Servidor.ejecutar .null .vacia [.registro (bytes "1")]).usuarioDe (md5 (bytes "1")) =
      some (Registrado.alta (.registro (bytes "1"))).toUsuario ∧
    (Registrado.alta (.registro (bytes "1"))).token =
      getParametro (edicion [(keyNombre, bytes "ana")]) keyTokenSesion keyDefault ∧
    ¬ Servidor.EdicionExacta .null (Servidor.ejecutar .null .vacia [.registro (bytes "1")])
      (edicion [(keyNombre, bytes "ana")]) (Registrado.alta (.registro (bytes "1"))).toUsuario := by
  refine ⟨Servidor.usuarioDe_inicial .null (bytes "1"), rfl, fun hedita => ?_⟩
  obtain ⟨d, hdb, h⟩ := ejecutar_vacia .null [.registro (bytes "1")]
  rw [hdb] at hedita
  have hu := (Servidor.registra_inicial .null (bytes "1")).usuarios
  replace hedita := (h.edicion_iff .null (p := edicion [(keyNombre, bytes "ana")]) rfl hu rfl).mp hedita
  have hconectado : StringUtil.toBoolean keyDefault = true := hedita.2.2.1
  cases hconectado

end Editado

end MensajeroX
