import MensajeroX.Propiedades.Historial
import MensajeroX.Central.Usuarios

/-!
# Session tokens

A token is the hash of a telephone and a time. It is computed on demand, when a user is queried, and it is what a
request has to carry to act for the user. A new user has the empty token, which is also what a request without one
carries.

* `Servidor.renovaciones` : the tokens that a run issues, as the texts that it hashes;
* `token_ejecutar` : **a stored token is empty or was issued to its user**;
* `tokens_distintos` : **no two users have one token**;
* `autenticos_iff` : **stored messages are authentic exactly when no message was sent with the empty token**.
-/

namespace MensajeroX
open Bytes JsonCpp BaseDeDatos Efectos Servicio

/-! ## Tokens -/

namespace Servidor

/-- The user whose token a request renews, and the text that it hashes. -/
def renueva [LibC] (db : RocksDB) (p : Peticion) : Option (Cadena × Cadena) :=
  if parsearURI p = .consultarUsuarioOnline ∧ StringUtil.toBoolean (getParametro p keyRenovarToken keyDefault) then
    match idMetodoGET p urlBaseUsuario with
    | .error _ => none
    | .ok telefono =>
      match (Usuario.obtenerPorTelefono telefono).run { db := db } with
      | .error _ _ => none
      | .ok u _ => if u.id ≠ keyIdUsuarioNoEncontrado then some (u.id, u.telefono ++ p.ctime.val) else none
  else none

def renovaciones [Aritmetica] (lugares : Value) (db : RocksDB) : List Peticion → List (Cadena × Cadena)
  | [] => []
  | p :: ps => (renueva db p).toList ++ renovaciones lugares (atender lugares db p).db ps

theorem renovaciones_eq_nil [Aritmetica] (lugares : Value) (db : RocksDB) {ps : List Peticion}
    (h : ∀ p ∈ ps, ¬ (parsearURI p = .consultarUsuarioOnline ∧ StringUtil.toBoolean (getParametro p keyRenovarToken keyDefault))) :
    renovaciones lugares db ps = [] := by
  induction ps generalizing db with
  | nil => rfl
  | cons p ps ih =>
    obtain ⟨hp, hps⟩ := List.forall_mem_cons.mp h
    rw [renovaciones, renueva, if_neg hp, ih _ hps]
    rfl

theorem renovaciones_append [Aritmetica] (lugares : Value) (db : RocksDB) (ps qs : List Peticion) :
    renovaciones lugares db (ps ++ qs) =
      renovaciones lugares db ps ++ renovaciones lugares (ejecutar lugares db ps) qs := by
  induction ps generalizing db with
  | nil => rfl
  | cons p ps ih =>
    rw [List.cons_append, renovaciones, ih, renovaciones, List.append_assoc]
    rfl

end Servidor

section Tokens
variable [Aritmetica]

theorem Representa.renueva {C : Central} {d : Cadena → Option Cadena} (h : Representa C d) {p : Peticion}
    (hp : Servidor.parsearURI p = .consultarUsuarioOnline)
    (hrenovar : StringUtil.toBoolean (getParametro p keyRenovarToken keyDefault)) {telefono : Cadena}
    (hid : idMetodoGET p urlBaseUsuario = .ok telefono) {u : Registrado} (hu : C.usuarios (md5 telefono) = some u) :
    Servidor.renueva { datos := d } p = some (u.id, u.telefono ++ p.ctime.val) := by
  have hrun : (Usuario.obtenerPorTelefono telefono).run { db := { datos := d } } = .ok u.toUsuario (.sano d []) := by
    have := h.run_getUsuario [] (md5 telefono)
    rwa [Central.usuario_eq_some hu] at this
  rw [Servidor.renueva, if_pos ⟨hp, hrenovar⟩, hid]
  dsimp only
  rw [hrun]
  exact if_pos u.id_ne_noEncontrado

/-- The token of the user was issued to them in the run, for their telephone. -/
def Registrado.Emitido (lugares : Value) (ps : List Peticion) (u : Registrado) : Prop :=
  ∃ p ∈ ps, (u.id, u.telefono ++ p.ctime.val) ∈ Servidor.renovaciones lugares .vacia ps ∧
    u.token = md5 (u.telefono ++ p.ctime.val)

/-- **A stored token is empty or was issued to its user** in the run. -/
theorem token_ejecutar (lugares : Value) (ps : List Peticion) {k : Cadena} {u : Registrado}
    (hu : (Central.vacia.ejecutar lugares ps).usuarios k = some u) : u.token = [] ∨ u.Emitido lugares ps := by
  induction ps using List.reverseRecOn generalizing k u with
  | nil => cases hu
  | append_singleton ps p ih =>
    obtain ⟨d, hdb, h⟩ := ejecutar_vacia lugares ps
    have hrenovaciones : Servidor.renovaciones lugares .vacia (ps ++ [p]) =
        Servidor.renovaciones lugares .vacia ps ++ (Servidor.renueva { datos := d } p).toList := by
      rw [Servidor.renovaciones_append, hdb, Servidor.renovaciones, Servidor.renovaciones, List.append_nil]
    -- a record that keeps the telephone and the token of a stored one
    have hantes : ∀ {k : Cadena} {u v : Registrado}, (Central.vacia.ejecutar lugares ps).usuarios k = some u →
        v.telefono = u.telefono → v.token = u.token → v.token = [] ∨ v.Emitido lugares (ps ++ [p]) := by
      intro k u v hu htelefono htoken
      have hid : v.id = u.id := by rw [v.id_eq, u.id_eq, htelefono]
      rw [Registrado.Emitido, hid, htelefono, htoken, hrenovaciones]
      rcases ih hu with hvacio | ⟨q, hq, hmem, heq⟩
      · exact .inl hvacio
      · exact .inr ⟨q, List.mem_append_left _ hq, List.mem_append_left _ hmem, heq⟩
    rw [Central.ejecutar_append] at hu
    refine Central.usuarios_induccion (P := fun _ u => u.token = [] ∨ u.Emitido lugares (ps ++ [p]))
      (fun k u hu => hantes hu rfl rfl) ?_ hu
    intro v hv
    cases hv with
    | alta => exact .inl rfl
    | perfil _ hu => exact hantes hu rfl rfl
    | localizacion _ hu => exact hantes hu rfl rfl
    | conexion hp hid hu =>
      by_cases hrenovar : StringUtil.toBoolean (getParametro p keyRenovarToken keyDefault) = true
      · refine .inr ⟨p, by simp, ?_, if_pos hrenovar⟩
        rw [hrenovaciones, h.renueva hp hrenovar hid hu]
        exact List.mem_append_right _ List.mem_cons_self
      · exact hantes hu rfl (if_neg hrenovar)

/-- The hash does not collide on the texts from which a run computes tokens. -/
def SinColisionesDeToken (lugares : Value) (ps : List Peticion) : Prop :=
  ∀ x ∈ Servidor.renovaciones lugares .vacia ps, ∀ y ∈ Servidor.renovaciones lugares .vacia ps,
    md5 x.2 = md5 y.2 → x.2 = y.2

instance (lugares : Value) (ps : List Peticion) : Decidable (SinColisionesDeToken lugares ps) := by
  unfold SinColisionesDeToken
  infer_instance

/-- **A token authenticates one user**: two registered users that have a token have different ones. The text that is
hashed has no separator; it determines the telephone because the time at its end has a fixed length. -/
theorem tokens_distintos (lugares : Value) {ps : List Peticion} {largo : Nat}
    (hctime : ∀ p ∈ ps, p.ctime.val.length = largo) (hmd5 : SinColisionesDeToken lugares ps) {k k' : Cadena}
    (hk : (Servidor.ejecutar lugares .vacia ps).tieneUsuario k)
    (hk' : (Servidor.ejecutar lugares .vacia ps).tieneUsuario k') (hne : k ≠ k')
    (htoken : (Servidor.ejecutar lugares .vacia ps).tokenDe k ≠ [])
    (htoken' : (Servidor.ejecutar lugares .vacia ps).tokenDe k' ≠ []) :
    (Servidor.ejecutar lugares .vacia ps).tokenDe k ≠ (Servidor.ejecutar lugares .vacia ps).tokenDe k' := by
  obtain ⟨d, hdb, h⟩ := ejecutar_vacia lugares ps
  rw [hdb, h.tieneUsuario] at hk hk'
  obtain ⟨u, hu⟩ := Option.isSome_iff_exists.mp hk
  obtain ⟨v, hv⟩ := Option.isSome_iff_exists.mp hk'
  rw [hdb, h.tokenDe hu] at htoken
  rw [hdb, h.tokenDe hv] at htoken'
  rw [hdb, h.tokenDe hu, h.tokenDe hv]
  intro heq
  obtain ⟨p, hp, hmem, hmd5u⟩ := (token_ejecutar lugares ps hu).resolve_left htoken
  obtain ⟨q, hq, hmem', hmd5v⟩ := (token_ejecutar lugares ps hv).resolve_left htoken'
  have htextos : u.telefono ++ p.ctime.val = v.telefono ++ q.ctime.val :=
    hmd5 _ hmem _ hmem' (by rw [← hmd5u, ← hmd5v, heq])
  have htelefono : u.telefono = v.telefono :=
    List.append_inj_left' htextos (by rw [hctime p hp, hctime q hq])
  apply hne
  rw [← Central.claves _ k u hu, ← Central.claves _ k' v hv, u.id_eq, v.id_eq, htelefono]

end Tokens

section Renovadas
attribute [local instance] Aritmetica.nula

def renovadas : List Peticion :=
  [.registro (bytes "1"), .registro (bytes "2"), .renovacion Peticion.uriUno,
    .renovacion Peticion.uriDos]

theorem tokens_distintos_renovadas :
    (Servidor.ejecutar .null .vacia renovadas).tokenDe (md5 (bytes "1")) ≠ [] ∧
    (Servidor.ejecutar .null .vacia renovadas).tokenDe (md5 (bytes "2")) ≠ [] ∧
    (Servidor.ejecutar .null .vacia renovadas).tokenDe (md5 (bytes "1")) ≠
      (Servidor.ejecutar .null .vacia renovadas).tokenDe (md5 (bytes "2")) := by
  obtain ⟨hu₁, hu₂, h₁, h₂⟩ : (Servidor.ejecutar .null .vacia renovadas).tieneUsuario (md5 (bytes "1")) ∧
      (Servidor.ejecutar .null .vacia renovadas).tieneUsuario (md5 (bytes "2")) ∧
      (Servidor.ejecutar .null .vacia renovadas).tokenDe (md5 (bytes "1")) ≠ [] ∧
      (Servidor.ejecutar .null .vacia renovadas).tokenDe (md5 (bytes "2")) ≠ [] := by
    simp only [tieneUsuario_ejecutar, RocksDB.tokenDe, usuarioDe_ejecutar]
    decide +kernel
  have hctime : ∀ p ∈ renovadas, p.ctime.val.length = 24 := by decide
  exact ⟨h₁, h₂, tokens_distintos .null hctime (by decide +kernel) hu₁ hu₂ (by decide +kernel) h₁ h₂⟩

end Renovadas

/-! ## Authenticity -/

namespace Central

def registro (C : Central) (k : Cadena) : List Mensaje := ((C.buscar k).map Chat.mensajes).getD []

/-- A delivery to a clean central appends its message, to one log at most. -/
theorem registro_entregar [LibC] {C : Central} (hC : C.Limpia) {x y : Cadena} (hx : (C.usuarios x).isSome)
    (hy : (C.usuarios y).isSome) (m : Mensaje) (k : Cadena) :
    ∃ n, (final (C.entregar x y m)).registro k = C.registro k ++ List.replicate n m := by
  unfold entregar
  cases hxy : C.entre x y with
  | none =>
    rw [final_ok, registro, registro, buscar_conChat hx hy hxy]
    by_cases hk : k = (Chat.nuevo x y m).id
    · rw [entre_eq_buscar, Option.or_eq_none_iff] at hxy
      have hnone : C.buscar k = none := hk ▸ hxy.1
      rw [if_pos hk, hnone]
      exact ⟨1, rfl⟩
    · rw [if_neg hk]
      exact ⟨0, (List.append_nil _).symm⟩
  | some c =>
    have hmem := (entre_eq_some_iff.mp hxy).1
    dsimp only
    rw [agregar, Conversacion.recargar_of_sinSeparador (hC c hmem), final_ok, registro, registro, buscar_conMensajes]
    cases hk : C.buscar k with
    | none => exact ⟨0, rfl⟩
    | some c' =>
      by_cases hid : c'.id = c.id
      · have hc : c' = c := Option.some.inj (hk.symm.trans (buscar_eq_some_iff.mpr
          ⟨hmem, hid.symm.trans (buscar_eq_some_iff.mp hk).2⟩))
        rw [hc, Option.map_some, escribir, if_pos rfl]
        exact ⟨1, rfl⟩
      · rw [Option.map_some, escribir, if_neg hid]
        exact ⟨0, (List.append_nil _).symm⟩

variable [Aritmetica]

/-- A request to a clean central appends copies of its message to the logs. -/
theorem registro_atender {C : Central} (hC : C.Limpia) {p : Peticion} (hp : p.Limpia) (lugares : Value) (k : Cadena) :
    ∃ n, (C.atender lugares p).central.registro k = C.registro k ++ List.replicate n p.mensaje := by
  have hinv : (C.atender lugares p).central.Limpia ∧
      ∃ n, (C.atender lugares p).central.registro k = C.registro k ++ List.replicate n p.mensaje := by
    refine atender_induccion (P := fun C' => C'.Limpia ∧
      ∃ n, C'.registro k = C.registro k ++ List.replicate n p.mensaje) (fun _ _ h => h) ?_
      ⟨hC, 0, (List.append_nil _).symm⟩ lugares
    rintro C' r ⟨hC', n, hn⟩ - he hr
    obtain ⟨n', hn'⟩ := registro_entregar hC' he hr p.mensaje k
    refine ⟨todos_entregar recargar_limpia hC' hp.mensaje _ _, n + n', ?_⟩
    rw [hn', hn, List.append_assoc, List.replicate_add]
  exact hinv.2

/-- The request delivers its message: it carries the token of its sender, and the receiver is registered, or some contact
of its list is registered and connected. -/
def Entrega (C : Central) (p : Peticion) : Prop :=
  (∃ e, C.usuarios p.emisor = some e ∧ e.token = getParametro p keyTokenSesion keyDefault) ∧
  match Servidor.parsearURI p with
  | .almacenarConversacion => (C.usuarios p.receptor).isSome
  | .almacenarListaDifusion => ∃ telefonos, getParametroVector p keyContantosTelefono = .ok telefonos ∧
      ∃ t ∈ telefonos, ∃ u, C.usuarios (md5 t) = some u ∧ u.conectado = true
  | _ => False

theorem Entrega.envia {C : Central} {p : Peticion} (h : C.Entrega p) : p.Envia := by
  have hruta := h.2
  split at hruta
  · exact .inl ‹_›
  · exact .inr ‹_›
  · exact hruta.elim

theorem difundirTodos_nadie {C : Central} {ts : List Cadena}
    (h : ∀ t ∈ ts, (C.usuarios (md5 t)).filter (·.conectado) = none) (e : Cadena) (m : Mensaje) :
    C.difundirTodos e m ts = .ok ⟨⟩ C := by
  induction ts with
  | nil => rfl
  | cons t ts ih =>
    obtain ⟨ht, hts⟩ := List.forall_mem_cons.mp h
    have hturno : C.difundir e m t = .ok ⟨⟩ C := by rw [difundir, ht]
    rw [difundirTodos, recorrer, hturno]
    exact ih hts

theorem chats_atender (C : Central) (lugares : Value) (p : Peticion) :
    (C.atender lugares p).central.chats = C.chats ∨ C.Entrega p := by
  by_cases hp : p.Envia
  · rcases hp with hp | hp
    · rcases C.atender_conversacion lugares hp with ⟨e, r, he, hr, htoken, -⟩ | ⟨texto, hatender⟩
      · exact .inr ⟨⟨e, he, htoken⟩, by rw [hp, hr]; rfl⟩
      · exact .inl (by rw [hatender])
    · rcases C.atender_difusion lugares hp with ⟨telefonos, e, hvec, he, htoken, hatender⟩ | ⟨salidas, -, hatender⟩
      · by_cases hnadie : ∀ t ∈ telefonos, (C.usuarios (md5 t)).filter (·.conectado) = none
        · rw [hatender, difundirTodos_nadie hnadie]
          exact .inl rfl
        · simp only [not_forall] at hnadie
          obtain ⟨t, ht, hu⟩ := hnadie
          obtain ⟨u, hu⟩ := Option.ne_none_iff_exists'.mp hu
          obtain ⟨hu, hconectado⟩ := Option.filter_eq_some_iff.mp hu
          exact .inr ⟨⟨e, he, htoken⟩, by rw [hp]; exact ⟨telefonos, hvec, t, ht, u, hu, hconectado⟩⟩
      · exact .inl (by rw [hatender])
  · exact .inl (atender_induccion (P := fun C' => C'.chats = C.chats) (fun _ _ h => h)
      (fun _ _ _ henvia _ _ => absurd henvia hp) rfl lugares)

/-- A request that delivers its message appends it to the messages of its sender and another user. -/
theorem Entrega.mensajes {C : Central} (hC : C.Limpia) {p : Peticion} (hp : p.Limpia) (h : C.Entrega p) (lugares : Value) :
    ∃ b ms, ms ≠ [] ∧ (C.atender lugares p).central.mensajes p.emisor b = C.mensajes p.emisor b ++ ms := by
  obtain ⟨⟨e, he, htoken⟩, hruta⟩ := h
  have hemisor : (C.usuarios p.emisor).isSome := by
    rw [he]
    rfl
  split at hruta
  · rename_i hp'
    obtain ⟨r, hr⟩ := Option.isSome_iff_exists.mp hruta
    obtain ⟨C', hentregar, hmensajes⟩ := mensajes_entregar hC hemisor hruta p.mensaje
    refine ⟨p.receptor, [p.mensaje], List.cons_ne_nil _ _, ?_⟩
    rw [atender_envio lugares hp' he hr htoken, hentregar, central_seguido, final_ok, hmensajes, if_pos (.inl ⟨rfl, rfl⟩)]
  · rename_i hp'
    obtain ⟨telefonos, hvec, t, ht, u, hu, hconectado⟩ := hruta
    obtain ⟨C', hdifundir, hmensajes⟩ := mensajes_difundirTodos hC hemisor hp.mensaje telefonos
    have halcanza : C.alcanza p.emisor p.emisor u.id t = true := by
      rw [alcanza, hu, Option.filter_some, if_pos hconectado]
      exact decide_eq_true (.inl ⟨rfl, rfl⟩)
    refine ⟨u.id, _, ?_, by
      rw [atender_difusion_token lugares hp' he htoken hvec, hdifundir, central_seguido, final_ok, hmensajes]⟩
    exact mt List.map_eq_nil_iff.mp (List.ne_nil_of_mem (List.mem_filter.mpr ⟨ht, halcanza⟩))
  · exact hruta.elim

omit [Aritmetica] in
/-- The messages of two users are the log under one of their two ids. -/
theorem mensajes_eq_registro (C : Central) (a b : Cadena) :
    C.mensajes a b = if C.registro (a ++ Conversacion.guion :: b) = [] then C.registro (b ++ Conversacion.guion :: a)
      else C.registro (a ++ Conversacion.guion :: b) := by
  unfold Central.mensajes registro
  rw [entre_eq_buscar]
  cases C.buscar (a ++ Conversacion.guion :: b) with
  | none => rfl
  | some c =>
    have hno : ¬ ((some c).map Chat.mensajes).getD [] = [] := c.noVacio
    rw [if_neg hno]
    rfl

end Central

theorem Representa.bitacora [LibC] {C : Central} {d : Cadena → Option Cadena} (h : Representa C d) (hC : C.Limpia)
    (k : Cadena) : bitacora d k = C.registro k := by
  unfold MensajeroX.bitacora Central.registro
  cases hk : C.buscar k with
  | none =>
    have hrun : (Conversacion.obtener k).run { db := { datos := d } } = _ := h.run_getConversacion_none [] hk
    rw [hrun]
    rfl
  | some c =>
    obtain ⟨hmem, rfl⟩ := Central.buscar_eq_some_iff.mp hk
    have hrun : (Conversacion.obtener c.id).run { db := { datos := d } } = _ := h.run_obtener_limpia hC hmem []
    rw [hrun]
    exact if_pos (getId_cargado_ne hmem _)

namespace Servidor
variable [Aritmetica] (lugares : Value)

def bitacora (ps : List Peticion) (k : Cadena) : List Mensaje := MensajeroX.bitacora (ejecutar lugares .vacia ps).datos k

/-- After the run `ps`, the request `p` appends the message at the position `i` of the conversation `k`. -/
def Agrega (ps : List Peticion) (p : Peticion) (k : Cadena) (i : Nat) : Prop :=
  (bitacora lugares ps k).length ≤ i ∧ i < (bitacora lugares (ps ++ [p]) k).length

/-- After the run `ps`, the request `p` carries a token that was issued to `u` and is still theirs. -/
def Autentica (ps : List Peticion) (p : Peticion) (u : Cadena) : Prop :=
  ∃ texto, (u, texto) ∈ renovaciones lugares .vacia ps ∧ getParametro p keyTokenSesion keyDefault = md5 texto ∧
    (ejecutar lugares .vacia ps).tokenDe u = md5 texto

/-- Every stored message was appended by a request that carries a token of its sender. -/
def Autenticos (ps : List Peticion) : Prop :=
  ∀ k i m, (bitacora lugares ps k)[i]? = some m → ∃ ps₁ p ps₂, ps = ps₁ ++ p :: ps₂ ∧ Agrega lugares ps₁ p k i ∧
    Autentica lugares ps₁ p m.idUsuarioEmisor

/-- On the store, the request delivers its message: it carries the token of its sender, and the receiver is registered, or
some contact of its list is registered and connected. -/
def Entrega (db : RocksDB) (p : Peticion) : Prop :=
  (∃ e, db.usuarioDe p.emisor = some e ∧ e.token = getParametro p keyTokenSesion keyDefault) ∧
  match parsearURI p with
  | .almacenarConversacion => (db.usuarioDe p.receptor).isSome
  | .almacenarListaDifusion => ∃ telefonos, getParametroVector p keyContantosTelefono = .ok telefonos ∧
      ∃ t ∈ telefonos, ∃ u, db.usuarioDe (md5 t) = some u ∧ u.conectado = true
  | _ => False

/-- No request delivers its message with the empty token. -/
def ConToken (ps : List Peticion) : Prop :=
  ∀ ps₁ p ps₂, ps = ps₁ ++ p :: ps₂ → Entrega (ejecutar lugares .vacia ps₁) p →
    getParametro p keyTokenSesion keyDefault ≠ []

end Servidor

section Autenticidad
variable [Aritmetica] {lugares : Value}
open Servidor (Agrega Autentica)

theorem bitacora_ejecutar (lugares : Value) {ps : List Peticion} (hps : ∀ p ∈ ps, p.Limpia) (k : Cadena) :
    Servidor.bitacora lugares ps k = (Central.vacia.ejecutar lugares ps).registro k := by
  obtain ⟨d, hdb, h⟩ := ejecutar_vacia lugares ps
  rw [Servidor.bitacora, hdb]
  exact h.bitacora (Central.limpia_ejecutar (Central.todos_vacia _) hps lugares) k

omit [Aritmetica] in
theorem limpia_hasta {ps₁ ps₂ : List Peticion} {p : Peticion} (hps : ∀ q ∈ ps₁ ++ p :: ps₂, q.Limpia) :
    ∀ q ∈ ps₁ ++ [p], q.Limpia := by
  intro q hq
  rw [← List.singleton_append, ← List.append_assoc] at hps
  exact hps q (List.mem_append_left _ hq)

/-- **What a request appends to a log** are copies of its message. -/
theorem bitacora_append_singleton (lugares : Value) {ps : List Peticion} {p : Peticion} (hps : ∀ q ∈ ps ++ [p], q.Limpia) (k : Cadena) :
    ∃ n, Servidor.bitacora lugares (ps ++ [p]) k = Servidor.bitacora lugares ps k ++ List.replicate n p.mensaje := by
  have hantes : ∀ q ∈ ps, q.Limpia := fun q hq => hps q (by simp [hq])
  rw [bitacora_ejecutar lugares hps, bitacora_ejecutar lugares hantes, Central.ejecutar_append]
  exact Central.registro_atender (Central.limpia_ejecutar (Central.todos_vacia _) hantes lugares) (hps p (by simp))
    lugares k

/-- Logs only grow. -/
theorem bitacora_mono (lugares : Value) {ps qs : List Peticion} (hps : ∀ p ∈ ps ++ qs, p.Limpia) (k : Cadena) :
    Servidor.bitacora lugares ps k <+: Servidor.bitacora lugares (ps ++ qs) k := by
  induction qs using List.reverseRecOn with
  | nil => rw [List.append_nil]
  | append_singleton qs q ih =>
    rw [← List.append_assoc] at hps ⊢
    obtain ⟨n, hn⟩ := bitacora_append_singleton lugares hps k
    rw [hn]
    exact (ih fun p hp => hps p (List.mem_append_left _ hp)).trans (List.prefix_append _ _)

/-- Every message of a log was appended by a request, which has it as its message. -/
theorem exists_agrega {ps : List Peticion} (hps : ∀ p ∈ ps, p.Limpia) {k : Cadena} {i : Nat} {m : Mensaje}
    (hm : (Servidor.bitacora lugares ps k)[i]? = some m) :
    ∃ ps₁ p ps₂, ps = ps₁ ++ p :: ps₂ ∧ Agrega lugares ps₁ p k i ∧ m = p.mensaje := by
  induction ps using List.reverseRecOn with
  | nil => cases hm
  | append_singleton ps p ih =>
    obtain ⟨n, hn⟩ := bitacora_append_singleton lugares hps k
    by_cases hi : i < (Servidor.bitacora lugares ps k).length
    · rw [hn, List.getElem?_append_left hi] at hm
      obtain ⟨ps₁, q, ps₂, rfl, hagrega, hmensaje⟩ := ih (fun q hq => hps q (List.mem_append_left _ hq)) hm
      exact ⟨ps₁, q, ps₂ ++ [p], by simp, hagrega, hmensaje⟩
    · have hlt := (List.getElem?_eq_some_iff.mp hm).1
      refine ⟨ps, p, [], rfl, ⟨Nat.le_of_not_lt hi, hlt⟩, ?_⟩
      rw [hn, List.getElem?_append_right (Nat.le_of_not_lt hi)] at hm
      exact List.eq_of_mem_replicate (List.mem_of_getElem? hm)

/-- One request appends the message at a position. -/
theorem agrega_unica {ps₁ ps₂ ps₁' ps₂' : List Peticion} {p p' : Peticion} (hps : ∀ q ∈ ps₁ ++ p :: ps₂, q.Limpia)
    (heq : ps₁ ++ p :: ps₂ = ps₁' ++ p' :: ps₂') {k : Cadena} {i : Nat} (h : Agrega lugares ps₁ p k i)
    (h' : Agrega lugares ps₁' p' k i) : ps₁ = ps₁' ∧ p = p' := by
  -- a run that goes on after one of the two has passed the position
  have hno : ∀ {qs₁ qs₂ qs₁' qs₂' : List Peticion} {q q' : Peticion}, (∀ r ∈ qs₁ ++ q :: qs₂, r.Limpia) →
      qs₁ ++ q :: qs₂ = qs₁' ++ q' :: qs₂' → Agrega lugares qs₁ q k i → Agrega lugares qs₁' q' k i →
      ¬ qs₁.length < qs₁'.length := by
    intro qs₁ qs₂ qs₁' qs₂' q q' hqs heq h h' hlt
    have hcorta : qs₁ ++ [q] <+: qs₁ ++ q :: qs₂ := ⟨qs₂, by simp⟩
    have hlarga : qs₁' <+: qs₁ ++ q :: qs₂ := ⟨q' :: qs₂', heq.symm⟩
    obtain ⟨resto, hresto⟩ : qs₁ ++ [q] <+: qs₁' :=
      List.prefix_of_prefix_length_le hcorta hlarga (by simpa using hlt)
    have hlimpia : ∀ r ∈ (qs₁ ++ [q]) ++ resto, r.Limpia := by
      intro r hr
      rw [hresto] at hr
      exact hqs r (by rw [heq]; exact List.mem_append_left _ hr)
    have hle := (bitacora_mono lugares hlimpia k).length_le
    rw [hresto] at hle
    have := h.2
    have := h'.1
    omega
  have hlen : ps₁.length = ps₁'.length := by
    have := hno hps heq h h'
    have := hno (heq ▸ hps) heq.symm h' h
    omega
  obtain ⟨hprev, hresto⟩ := List.append_inj heq hlen
  exact ⟨hprev, (List.cons.inj hresto).1⟩

theorem Representa.entrega {C : Central} {d : Cadena → Option Cadena} (h : Representa C d) (p : Peticion) :
    Servidor.Entrega { datos := d } p ↔ C.Entrega p := by
  unfold Servidor.Entrega Central.Entrega
  simp only [h.usuarioDe, Option.map_eq_some_iff, Option.isSome_map, exists_exists_and_eq_and]

/-- **A message is appended by the requests that deliver theirs**, and by no others. -/
theorem exists_agrega_iff {ps : List Peticion} {p : Peticion} (hps : ∀ q ∈ ps ++ [p], q.Limpia) :
    (∃ k i, Agrega lugares ps p k i) ↔ (Central.vacia.ejecutar lugares ps).Entrega p := by
  have hantes : ∀ q ∈ ps, q.Limpia := fun q hq => hps q (List.mem_append_left _ hq)
  constructor
  · rintro ⟨k, i, h₁, h₂⟩
    refine (Central.chats_atender _ lugares p).resolve_left fun hchats => ?_
    have hregistro : (Central.vacia.ejecutar lugares (ps ++ [p])).registro k =
        (Central.vacia.ejecutar lugares ps).registro k := by
      rw [Central.ejecutar_append]
      unfold Central.registro Central.buscar
      exact congrArg (fun cs : List Chat => ((cs.find? fun c => c.id = k).map Chat.mensajes).getD []) hchats
    rw [bitacora_ejecutar lugares hps, hregistro, ← bitacora_ejecutar lugares hantes] at h₂
    omega
  · intro h
    by_contra hno
    have hlimpia := Central.limpia_ejecutar (Central.todos_vacia _) hantes lugares
    -- a log without new messages is the one before
    have hregistro : ∀ k, (Central.vacia.ejecutar lugares (ps ++ [p])).registro k =
        (Central.vacia.ejecutar lugares ps).registro k := by
      intro k
      have hpre := bitacora_mono lugares hps k
      have hlen : ¬ (Servidor.bitacora lugares ps k).length < (Servidor.bitacora lugares (ps ++ [p]) k).length :=
        fun hlt => hno ⟨k, _, le_rfl, hlt⟩
      rw [← bitacora_ejecutar lugares hps, ← bitacora_ejecutar lugares hantes]
      exact (hpre.eq_of_length (le_antisymm hpre.length_le (Nat.le_of_not_lt hlen))).symm
    obtain ⟨b, ms, hms, hmensajes⟩ := h.mensajes hlimpia (hps p (by simp)) lugares
    have hejecutar : Central.vacia.ejecutar lugares (ps ++ [p]) =
        ((Central.vacia.ejecutar lugares ps).atender lugares p).central := Central.ejecutar_append _ _ _ _
    rw [← hejecutar, Central.mensajes_eq_registro, Central.mensajes_eq_registro, hregistro, hregistro] at hmensajes
    exact hms (List.append_right_eq_self.mp hmensajes.symm)

/-- **Stored messages are authentic exactly when no message was sent with the empty token**, which is the token of a
user to whom none was issued and the one of a request that carries none. -/
theorem autenticos_iff (lugares : Value) {ps : List Peticion} (hps : ∀ p ∈ ps, p.Limpia) :
    Servidor.Autenticos lugares ps ↔ Servidor.ConToken lugares ps := by
  constructor
  · rintro h ps₁ p ps₂ rfl hentrega
    obtain ⟨d, hdb, hrep⟩ := ejecutar_vacia lugares ps₁
    rw [hdb, hrep.entrega, ← exists_agrega_iff (limpia_hasta hps)] at hentrega
    obtain ⟨k, i, hagrega⟩ := hentrega
    have hpre : Servidor.bitacora lugares (ps₁ ++ [p]) k <+: Servidor.bitacora lugares (ps₁ ++ p :: ps₂) k := by
      have hlimpia : ∀ q ∈ (ps₁ ++ [p]) ++ ps₂, q.Limpia := by simpa using hps
      have := bitacora_mono lugares hlimpia k
      rwa [List.append_assoc, List.singleton_append] at this
    obtain ⟨ps₁', p', ps₂', heq, hagrega', texto, -, htoken, -⟩ :=
      h k i _ (List.getElem?_eq_getElem (hagrega.2.trans_le hpre.length_le))
    obtain ⟨-, rfl⟩ := agrega_unica hps heq hagrega hagrega'
    rw [htoken]
    exact md5_ne_nil texto
  · intro h k i m hm
    obtain ⟨ps₁, p, ps₂, rfl, hagrega, rfl⟩ := exists_agrega hps hm
    refine ⟨ps₁, p, ps₂, rfl, hagrega, ?_⟩
    obtain ⟨d, hdb, hrep⟩ := ejecutar_vacia lugares ps₁
    have hentrega := (exists_agrega_iff (limpia_hasta hps)).mp ⟨k, i, hagrega⟩
    obtain ⟨e, he, htoken⟩ := hentrega.1
    have hvacio : e.token ≠ [] := by
      rw [htoken]
      exact h ps₁ p ps₂ rfl (by rw [hdb, hrep.entrega]; exact hentrega)
    obtain ⟨q, -, hmem, heq⟩ := (token_ejecutar lugares ps₁ he).resolve_left hvacio
    rw [Central.claves _ _ e he] at hmem
    refine ⟨_, hmem, by rw [← htoken, heq], ?_⟩
    rw [hdb, ← heq]
    exact hrep.tokenDe he

theorem conToken_of_forall {ps : List Peticion}
    (h : ∀ p ∈ ps, p.Envia → getParametro p keyTokenSesion keyDefault ≠ []) : Servidor.ConToken lugares ps := by
  rintro ps₁ p ps₂ rfl hentrega
  obtain ⟨d, hdb, hrep⟩ := ejecutar_vacia lugares ps₁
  rw [hdb, hrep.entrega] at hentrega
  exact h p (by simp) hentrega.envia

end Autenticidad

section Anonima
attribute [local instance] Aritmetica.nula

def conSesion : List Peticion :=
  [.registro (bytes "1"), .registro (bytes "2"), .renovacion Peticion.uriUno,
    .envio (bytes "1") (bytes "2") (md5 (bytes "1Thu Jan  1 00:00:00 1970")) (bytes "hola") (bytes "10:00")]

theorem autenticos_conSesion :
    Servidor.bitacora .null conSesion (md5 (bytes "1") ++ Conversacion.guion :: md5 (bytes "2")) ≠ [] ∧
      Servidor.Autenticos .null conSesion := by
  have hlimpia : ∀ p ∈ conSesion, p.Limpia := by decide
  refine ⟨?_, (autenticos_iff .null hlimpia).mpr (conToken_of_forall (by decide +kernel))⟩
  rw [bitacora_ejecutar .null hlimpia]
  decide +kernel

/-- The message of a user to whom no token was issued, in a request that carries none. -/
def anonima : List Peticion :=
  [.registro (bytes "1"), .registro (bytes "2"), .envio (bytes "1") (bytes "2") [] (bytes "hola") (bytes "10:00")]

theorem autenticos_anonima : (∀ p ∈ anonima, p.Limpia) ∧ ¬ Servidor.Autenticos .null anonima := by
  have hlimpia : ∀ p ∈ anonima, p.Limpia := by decide
  refine ⟨hlimpia, fun h => ?_⟩
  have hne : Servidor.bitacora .null anonima (md5 (bytes "1") ++ Conversacion.guion :: md5 (bytes "2")) ≠ [] := by
    rw [bitacora_ejecutar .null hlimpia]
    decide +kernel
  obtain ⟨m, ms, hms⟩ := List.exists_cons_of_ne_nil hne
  obtain ⟨ps₁, p, ps₂, heq, -, texto, hmem, -⟩ := h _ 0 m (by rw [hms]; rfl)
  have hninguna : Servidor.renovaciones .null .vacia anonima = [] := Servidor.renovaciones_eq_nil .null .vacia (by decide)
  rw [heq, Servidor.renovaciones_append] at hninguna
  rw [(List.append_eq_nil_iff.mp hninguna).1] at hmem
  exact List.not_mem_nil hmem

end Anonima

end MensajeroX
