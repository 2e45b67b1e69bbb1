import MensajeroX.Propiedades.Conversaciones
import MensajeroX.Propiedades.Parametros
import MensajeroX.Propiedades.Perfiles

/-!
# Queries by telephone

A registration accepts every text as a telephone. The telephone is queried through a URI, where the route is found by
the bases that the URI contains and the id ends at the first blank; `Servidor.Consultable` says that the queries of a
telephone reach their services and are about its user.

* `Representa.atender_consulta` : the answer to a query of a registered telephone, and the store after it;
* `consultable_iff` : **which telephones can be queried**.
-/

namespace MensajeroX
open Bytes JsonCpp BaseDeDatos Efectos Servicio

/-- A user after a query: the connection is registered, with a new token on demand. -/
def Servicio.conexion (q : Peticion) (user : Usuario) : Usuario :=
  if StringUtil.toBoolean (getParametro q keyRenovarToken keyDefault) then
    (user.registrarUltimaConexion q.ctime.val).calcularTokenDeSesion
  else user.registrarUltimaConexion q.ctime.val

theorem Servicio.conexion_id (q : Peticion) (user : Usuario) : (conexion q user).id = user.id := by
  unfold conexion
  split <;> rfl

section Consultas
variable [Aritmetica]

/-- Queries of the telephone reach their services, which read the telephone. The first is answered with the user of the
telephone and rewrites their record only; the second lists their conversations. -/
structure Servidor.Consultable (lugares : Value) (db : RocksDB) (t : Cadena) : Prop where
  usuario : ∀ q : Peticion, q.metodo.val = bytes "GET" → q.uri.val = urlBaseUsuario ++ t →
    parsearURI q = .consultarUsuarioOnline ∧ idMetodoGET q urlBaseUsuario = .ok t ∧
    ∃ u, db.usuarioDe (md5 t) = some u ∧ u.telefono = t ∧
      atender lugares db q =
        { db := { db with
            datos := Function.update db.datos (claveBaseUsuario ++ md5 t) (some (conexion q u).serializar) }
          salidas := [respuesta (usuarioJson (conexion q u)).toStyledString true] }
  conversaciones : ∀ q : Peticion, q.metodo.val = bytes "GET" → q.uri.val = urlBaseUsuarioConversaciones ++ t →
    parsearURI q = .obtenerConversaciones ∧ idMetodoGET q urlBaseUsuarioConversaciones = .ok t ∧
    ∀ ids, getParametroVector q keyIdConversaciones = .ok ids → Lista db (md5 t) ids (atender lugares db q).salidas

/-- The conversations of a user can be loaded. -/
def Servidor.Cargables (db : RocksDB) (u : Cadena) : Prop :=
  ∀ otro, db.carga (u ++ Conversacion.guion :: otro) = true ∧ db.carga (otro ++ Conversacion.guion :: u) = true

variable {C : Central} {d : Cadena → Option Cadena}

theorem Representa.cargables_iff (h : Representa C d) {u : Cadena} :
    Servidor.Cargables { datos := d } u ↔ ∀ c ∈ C.chats, c.Participa u → c.Legible := by
  simp only [Servidor.Cargables, h.carga_iff]
  constructor
  · rintro hcarga c hc (rfl | rfl)
    · exact (hcarga c.b).1 c (Central.buscar_eq_some_iff.mpr ⟨hc, rfl⟩)
    · exact (hcarga c.a).2 c (Central.buscar_eq_some_iff.mpr ⟨hc, rfl⟩)
  · intro hlegible otro
    constructor
    · intro c hc
      obtain ⟨hmem, hid⟩ := Central.buscar_eq_some_iff.mp hc
      exact hlegible c hmem (.inl (Central.chat_id_inj hmem hid).1)
    · intro c hc
      obtain ⟨hmem, hid⟩ := Central.buscar_eq_some_iff.mp hc
      exact hlegible c hmem (.inr (Central.chat_id_inj hmem hid).2)

/-- The answer to a query of a registered telephone, and the store after it. -/
theorem Representa.atender_consulta (h : Representa C d) (lugares : Value) {q : Peticion}
    (hq : Servidor.parsearURI q = .consultarUsuarioOnline) {t : Cadena} (ht : idMetodoGET q urlBaseUsuario = .ok t)
    {u : Registrado} (hu : C.usuarios (md5 t) = some u) :
    Servidor.atender lugares { datos := d } q =
      .sano (Function.update d (claveBaseUsuario ++ md5 t) (some (conexion q u.toUsuario).serializar))
        [respuesta (usuarioJson (conexion q u.toUsuario)).toStyledString true] := by
  have hid : (getParametroIdMetodoGET q urlBaseUsuario).run (.sano d []) = .ok t (.sano d []) := by
    rw [getParametroIdMetodoGET, ht]
    rfl
  have hguardar : (conexion q u.toUsuario).persistir.run (.sano d []) =
      .ok () (.sano (Function.update d (claveBaseUsuario ++ md5 t) (some (conexion q u.toUsuario).serializar)) []) := by
    rw [← C.claves _ _ hu, ← conexion_id q u.toUsuario]
    rfl
  rw [Servidor.atender, Servidor.administrarServicio, hq]
  dsimp only
  rw [Servicio.consultarUsuarioOnline, bind_ok hid, bind_ok (h.run_obtenerPorTelefono [] t hu),
    if_pos u.id_ne_noEncontrado]
  exact congrArg final (bind_ok hguardar _)

/-- **Which telephones can be queried**: those without blanks that do not spell the base of another service, once their
conversations can be loaded. -/
theorem consultable_iff (lugares : Value) {ps₁ : List Peticion} {r : Peticion} (hr : Servidor.Registra lugares ps₁ r)
    (ps₂ : List Peticion) {t : Cadena} (ht : t = getParametro r keyTelefono keyDefault) (hne : t ≠ [])
    (hlen : t.length ≤ 254) :
    Servidor.Consultable lugares (Servidor.ejecutar lugares .vacia (ps₁ ++ r :: ps₂)) t ↔
      (∀ c ∈ t, isspace c = false) ∧ ¬ urlBaseUsuarioConversaciones <:+: Servidor.barra :: t ∧
      Servidor.Cargables (Servidor.ejecutar lugares .vacia (ps₁ ++ r :: ps₂)) (md5 t) := by
  obtain ⟨u, hu, htelefono⟩ := hr.despues ps₂
  obtain ⟨d, hdb, h⟩ := ejecutar_vacia lugares (ps₁ ++ r :: ps₂)
  have hnul : (0 : UInt8) ∉ t := ht ▸ getParametro_cstr r keyTelefono
  rw [← ht] at hu htelefono
  rw [hdb]
  constructor
  · intro hconsulta
    -- the two queries without further variables
    have hnul₁ : (0 : UInt8) ∉ urlBaseUsuario ++ t := by
      rw [List.mem_append, not_or]
      exact ⟨by decide, hnul⟩
    have hnul₂ : (0 : UInt8) ∉ urlBaseUsuarioConversaciones ++ t := by
      rw [List.mem_append, not_or]
      exact ⟨by decide, hnul⟩
    obtain ⟨hruta, hid, -⟩ := hconsulta.usuario (.consulta ⟨_, hnul₁⟩) rfl rfl
    obtain ⟨hruta₂, hid₂, hlista⟩ := hconsulta.conversaciones (.consulta ⟨_, hnul₂⟩) rfl rfl
    refine ⟨(Servidor.idMetodoGET_base_iff rfl hne hlen).mp hid, (Servidor.parsearURI_usuario_iff rfl rfl).mp hruta, ?_⟩
    have hids : getParametroVector (.consulta ⟨_, hnul₂⟩) keyIdConversaciones = .ok [] := getParametroVector_ausente rfl
    obtain ⟨ks, vs, -, -, -, hsalidas⟩ := hlista [] hids
    obtain ⟨d', hatender, -⟩ := h.atender lugares (.consulta ⟨_, hnul₂⟩)
    rw [hatender] at hsalidas
    simp only [Central.atender, Central.servir, hruta₂, Central.obtenerConversaciones, hids, hid₂, hu] at hsalidas
    rw [h.cargables_iff]
    cases hleidos : (Central.vacia.ejecutar lugares (ps₁ ++ r :: ps₂)).leidos u.id [] with
    | error e =>
      rw [hleidos] at hsalidas
      cases hsalidas
    | ok qs =>
      rw [Central.claves _ _ _ hu] at hleidos
      exact fun c hc hp => Central.exists_leidos_iff.mp ⟨qs, hleidos⟩ c hc hp List.not_mem_nil
  · rintro ⟨hblanco, hbase, hcarga⟩
    refine ⟨fun q hmetodo huri => ?_, fun q hmetodo huri => ?_⟩
    · have hruta := (Servidor.parsearURI_usuario_iff hmetodo huri).mpr hbase
      have hid := (Servidor.idMetodoGET_base_iff huri hne hlen).mpr hblanco
      refine ⟨hruta, hid, u.toUsuario, by rw [h.usuarioDe, hu]; rfl, htelefono, ?_⟩
      exact h.atender_consulta lugares hruta hid hu
    · have hruta := Servidor.parsearURI_conversaciones hmetodo huri
      have hid := (Servidor.idMetodoGET_base_iff huri hne hlen).mpr hblanco
      refine ⟨hruta, hid, fun ids hids => ?_⟩
      exact h.lista lugares hruta hid (by rw [hu]; rfl) hids fun c hc hp _ => h.cargables_iff.mp hcarga c hc hp

/-- After a registration on the empty store there are no conversations to load. -/
theorem Servidor.cargables_inicial (lugares : Value) (t u : Cadena) :
    Servidor.Cargables (Servidor.ejecutar lugares .vacia [.registro t]) u := by
  obtain ⟨d, hdb, h⟩ := ejecutar_vacia lugares [.registro t]
  rw [hdb, h.cargables_iff]
  have hchats : (Central.vacia.ejecutar lugares [.registro t]).chats = [] := rfl
  intro c hc
  rw [hchats] at hc
  cases hc

end Consultas

section Telefonos
attribute [local instance] Aritmetica.nula

theorem consultable_uno :
    Servidor.Registra .null [] (.registro (bytes "1")) ∧
    Servidor.Consultable .null (Servidor.ejecutar .null .vacia [.registro (bytes "1")]) (bytes "1") := by
  have hregistra := Servidor.registra_inicial .null (bytes "1")
  have htelefono : bytes "1" = getParametro (.registro (bytes "1")) keyTelefono keyDefault := rfl
  refine ⟨hregistra, (consultable_iff .null hregistra [] htelefono ?_ ?_).mpr ⟨?_, ?_, ?_⟩⟩
  · decide
  · decide
  · decide +kernel
  · decide +kernel
  · exact Servidor.cargables_inicial .null (bytes "1") _

/-- A telephone with a blank is registered, and its queries read what stands before the blank. -/
theorem no_consultable_blanco :
    Servidor.Registra .null [] (.registro (bytes "1 2")) ∧
    ¬ Servidor.Consultable .null (Servidor.ejecutar .null .vacia [.registro (bytes "1 2")]) (bytes "1 2") := by
  refine ⟨Servidor.registra_inicial .null (bytes "1 2"), fun hconsulta => ?_⟩
  have hid := (hconsulta.usuario (.consulta ⟨urlBaseUsuario ++ bytes "1 2", by decide +kernel⟩) rfl rfl).2.1
  revert hid
  decide +kernel

end Telefonos

end MensajeroX
