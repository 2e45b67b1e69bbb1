import MensajeroX.Servidor.Peticion
import MensajeroX.Lib.Separated

/-!
# Routes

The URIs of the `GET` services: a base, and an id that `sscanf` reads after it. `parsearURI` looks for the bases
anywhere in the URI, one after the other, so an id can lead a request astray; one without slashes cannot.

* `parsearURI_usuario_iff`, `parsearURI_conversaciones` : the routes of the two services that take a telephone;
* `rutas_get` : **an id without slashes reaches the service of its base**;
* `idMetodoGET_base_iff` : **the id is read as it was written exactly when it has no blanks**;
* `Peticion.pide_of_uri`, `Peticion.pide_par` : the plain URI of a conversation asks for it.
-/

namespace MensajeroX
open Bytes Servicio Separated

namespace Servidor

/-! ## The service of a URI -/

/-- `'/'`. -/
def barra : UInt8 := 0x2f

theorem parsearURI_congr {p q : Peticion} (hmetodo : p.metodo.val = q.metodo.val) (huri : p.uri.val = q.uri.val) :
    parsearURI p = parsearURI q := by
  unfold parsearURI
  rw [hmetodo, huri]

section Rutas
variable {p : Peticion} (hmetodo : p.metodo.val = bytes "GET")
include hmetodo

theorem parsearURI_get :
    parsearURI p =
      if urlBaseUsuarioConversaciones <:+: p.uri.val then .obtenerConversaciones
      else if urlBaseUsuario <:+: p.uri.val then .consultarUsuarioOnline
      else if urlBaseConversacionId <:+: p.uri.val then .obtenerIdConversacion
      else if urlBaseConversacion <:+: p.uri.val then .obtenerConversacion
      else if urlBaseContactos <:+: p.uri.val then .obtenerContactos
      else sinMetodo p.uri.val := by
  rw [parsearURI, hmetodo]
  rfl

theorem parsearURI_conversaciones {t : Cadena} (huri : p.uri.val = urlBaseUsuarioConversaciones ++ t) :
    parsearURI p = .obtenerConversaciones := by
  rw [parsearURI_get hmetodo, huri, if_pos (List.prefix_append _ _).isInfix]

/-- A telephone is taken for the list of conversations when it spells the base of that service. -/
theorem parsearURI_usuario_iff {t : Cadena} (huri : p.uri.val = urlBaseUsuario ++ t) :
    parsearURI p = .consultarUsuarioOnline ↔ ¬ urlBaseUsuarioConversaciones <:+: barra :: t := by
  have hbase : urlBaseUsuarioConversaciones <:+: urlBaseUsuario ++ t ↔ urlBaseUsuarioConversaciones <:+: barra :: t :=
    (infix_segmento_iff (w := bytes "usuarioConversacion") (v := bytes "usuario") (by decide) (by decide)).trans
      (or_iff_right (by decide))
  rw [parsearURI_get hmetodo, huri, ← hbase, if_pos (List.prefix_append urlBaseUsuario t).isInfix]
  split
  · rename_i h
    exact ⟨fun hruta => (by cases hruta), fun hno => absurd h hno⟩
  · rename_i h
    exact ⟨fun _ => h, fun _ => rfl⟩

section Segmentos
variable {id : Cadena} (hid : barra ∉ id)
include hid

/-- A URI without the segments of the first two services goes on to the others. -/
theorem parsearURI_sin_usuario (vs : List Cadena) (huri : p.uri.val = barra :: (vs.flatMap (· ++ [barra]) ++ id))
    (hvs : ∀ v ∈ vs, barra ∉ v) (hconversaciones : bytes "usuarioConversacion" ∉ vs) (husuario : bytes "usuario" ∉ vs) :
    parsearURI p =
      if urlBaseConversacionId <:+: p.uri.val then .obtenerIdConversacion
      else if urlBaseConversacion <:+: p.uri.val then .obtenerConversacion
      else if urlBaseContactos <:+: p.uri.val then .obtenerContactos
      else sinMetodo p.uri.val := by
  have hno : ∀ w, barra ∉ w → w ∉ vs → ¬ barra :: (w ++ [barra]) <:+: p.uri.val := by
    intro w hw hwvs
    rwa [huri, infix_ruta_iff vs hw hvs hid]
  have h₁ : ¬ urlBaseUsuarioConversaciones <:+: p.uri.val := hno _ (by decide) hconversaciones
  have h₂ : ¬ urlBaseUsuario <:+: p.uri.val := hno _ (by decide) husuario
  rw [parsearURI_get hmetodo, if_neg h₁, if_neg h₂]

theorem parsearURI_conversacion (huri : p.uri.val = urlBaseConversacion ++ id) : parsearURI p = .obtenerConversacion := by
  have hno : ¬ urlBaseConversacionId <:+: p.uri.val := by
    -- three slashes, where the URI has two
    intro h
    have hcount := h.sublist.count_le barra
    rw [huri, List.count_append, List.count_eq_zero.mpr hid] at hcount
    revert hcount
    decide
  rw [parsearURI_sin_usuario hmetodo hid [bytes "conversacion"] huri (by decide) (by decide) (by decide),
    if_neg hno, huri, if_pos (List.prefix_append _ _).isInfix]

theorem parsearURI_conversacionId (huri : p.uri.val = urlBaseConversacionId ++ id) :
    parsearURI p = .obtenerIdConversacion := by
  rw [parsearURI_sin_usuario hmetodo hid [bytes "conversacion", bytes "id"] huri (by decide) (by decide)
    (by decide), huri, if_pos (List.prefix_append _ _).isInfix]

theorem parsearURI_contactos (huri : p.uri.val = urlBaseContactos ++ id) : parsearURI p = .obtenerContactos := by
  have hno : ¬ urlBaseConversacion <:+: p.uri.val := by
    rw [huri]
    exact (infix_ruta_iff (w := bytes "conversacion") [bytes "contactos"] (by decide) (by decide) hid).not.mpr
      (by decide)
  have hno' : ¬ urlBaseConversacionId <:+: p.uri.val := fun h => hno (List.IsInfix.trans ⟨[], bytes "id/", rfl⟩ h)
  rw [parsearURI_sin_usuario hmetodo hid [bytes "contactos"] huri (by decide) (by decide) (by decide),
    if_neg hno', if_neg hno, huri, if_pos (List.prefix_append _ _).isInfix]

/-- **An id without slashes reaches the service of its base.** -/
theorem rutas_get :
    (p.uri.val = urlBaseUsuario ++ id → parsearURI p = .consultarUsuarioOnline) ∧
    (p.uri.val = urlBaseUsuarioConversaciones ++ id → parsearURI p = .obtenerConversaciones) ∧
    (p.uri.val = urlBaseConversacion ++ id → parsearURI p = .obtenerConversacion) ∧
    (p.uri.val = urlBaseConversacionId ++ id → parsearURI p = .obtenerIdConversacion) ∧
    (p.uri.val = urlBaseContactos ++ id → parsearURI p = .obtenerContactos) := by
  refine ⟨fun huri => ?_, parsearURI_conversaciones hmetodo, parsearURI_conversacion hmetodo hid,
    parsearURI_conversacionId hmetodo hid, parsearURI_contactos hmetodo hid⟩
  rw [parsearURI_usuario_iff hmetodo huri]
  exact (infix_ruta_iff (w := bytes "usuarioConversacion") [] (by decide) (by simp) hid).not.mpr
    List.not_mem_nil

end Segmentos

end Rutas

theorem rutas_get_uno :
    parsearURI (.consulta { val := urlBaseUsuario ++ bytes "1" }) = .consultarUsuarioOnline ∧
    parsearURI (.consulta { val := urlBaseUsuarioConversaciones ++ bytes "1" }) = .obtenerConversaciones ∧
    parsearURI (.consulta { val := urlBaseConversacion ++ bytes "1" }) = .obtenerConversacion ∧
    parsearURI (.consulta { val := urlBaseConversacionId ++ bytes "1" }) = .obtenerIdConversacion ∧
    parsearURI (.consulta { val := urlBaseContactos ++ bytes "1" }) = .obtenerContactos :=
  have hid : barra ∉ bytes "1" := by decide
  ⟨(rutas_get rfl hid).1 rfl, (rutas_get rfl hid).2.1 rfl, (rutas_get rfl hid).2.2.1 rfl,
    (rutas_get rfl hid).2.2.2.1 rfl, (rutas_get rfl hid).2.2.2.2 rfl⟩

/-! ## The id of a URI -/

/-- `%s` skips blanks and stops at one. -/
theorem sscanf_base_iff {urlBase k : Cadena} :
    sscanf (urlBase ++ k) urlBase = some k ↔ k ≠ [] ∧ ∀ c ∈ k, isspace c = false := by
  have hbase : urlBase.isPrefixOf (urlBase ++ k) = true := List.isPrefixOf_iff_prefix.mpr (List.prefix_append _ _)
  rw [sscanf, List.drop_left]
  simp only [hbase, true_and]
  constructor
  · intro h
    split at h
    · rename_i hne
      rw [Option.some.injEq] at h
      rw [h] at hne
      refine ⟨hne, fun c hc => ?_⟩
      rw [← h] at hc
      simpa using List.mem_takeWhile_imp hc
    · cases h
  · rintro ⟨hne, hblanco⟩
    have hdrop : k.dropWhile isspace = k := by
      cases k with
      | nil => rfl
      | cons c k => rw [List.dropWhile_cons_of_neg (by simp [hblanco c])]
    have htake : k.takeWhile (fun c => !isspace c) = k := by
      rw [List.takeWhile_eq_self_iff]
      intro c hc
      simp [hblanco c hc]
    rw [hdrop, htake, if_pos hne]

/-- **The id is read as it was written exactly when it has no blanks.** -/
theorem idMetodoGET_base_iff {p : Peticion} {urlBase k : Cadena} (huri : p.uri.val = urlBase ++ k) (hk : k ≠ [])
    (hlen : k.length ≤ 254) : idMetodoGET p urlBase = .ok k ↔ ∀ c ∈ k, isspace c = false := by
  have hscan : sscanf (urlBase ++ k) urlBase = some k ↔ ∀ c ∈ k, isspace c = false := by
    rw [sscanf_base_iff, and_iff_right hk]
  rw [← hscan, idMetodoGET, huri]
  cases sscanf (urlBase ++ k) urlBase with
  | none =>
    refine ⟨fun h => ?_, fun h => (by cases h)⟩
    exact absurd (Except.ok.inj h).symm hk
  | some id =>
    dsimp only
    constructor
    · intro h
      split at h
      · rw [Except.ok.inj h]
      · cases h
    · intro h
      rw [Option.some.inj h, if_pos (by omega)]

end Servidor

/-! ## Fetching a conversation -/

namespace Peticion

theorem pide_of_uri {p : Peticion} {k : Cadena} (hmetodo : p.metodo.val = bytes "GET")
    (huri : p.uri.val = urlBaseConversacion ++ k) (hk : k ≠ []) (hlen : k.length ≤ 254) (hbarra : Servidor.barra ∉ k)
    (hblanco : ∀ c ∈ k, isspace c = false) : p.Pide k :=
  ⟨Servidor.parsearURI_conversacion hmetodo hbarra huri, (Servidor.idMetodoGET_base_iff huri hk hlen).mpr hblanco⟩

theorem pide_par {p : Peticion} {a b : Cadena} (hmetodo : p.metodo.val = bytes "GET")
    (huri : p.uri.val = urlBaseConversacion ++ (md5 a ++ Conversacion.guion :: md5 b)) :
    p.Pide (md5 a ++ Conversacion.guion :: md5 b) := by
  have hblanco : ∀ c, IsHex c → isspace c = false := forall_byte (by decide)
  refine pide_of_uri hmetodo huri (by simp) ?_ ?_ ?_
  · simp only [List.length_append, List.length_cons, length_md5]
    omega
  · rw [List.mem_append, List.mem_cons]
    rintro (h | h | h)
    · exact not_mem_md5 (by decide) a h
    · revert h
      decide
    · exact not_mem_md5 (by decide) b h
  · intro c hc
    rcases List.mem_append.mp hc with h | h
    · exact hblanco c (isHex_md5 a h)
    · rcases List.mem_cons.mp h with rfl | h
      · rfl
      · exact hblanco c (isHex_md5 b h)

end Peticion

end MensajeroX
