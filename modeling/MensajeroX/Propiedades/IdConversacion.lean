import MensajeroX.Propiedades.Historial

/-!
# The id that is handed out for a chat

`obtenerIdConversacion` looks for the conversation of two users in both orders. When there is none it compares with
the marker of a missing user in place of the marker of a missing conversation, so it hands out the marker itself.

* `entregar_ok` : what a delivery changes, and what it leaves alone;
* `idSirve_iff` : **the id that is handed out is the one of later messages exactly when the conversation exists and
  can be loaded**.
-/

namespace MensajeroX
open Bytes JsonCpp BaseDeDatos Efectos Servicio

namespace Peticion

/-- The request asks `obtenerIdConversacion` for the conversation of `a` and `b`. -/
def PideId (p : Peticion) (a b : Cadena) : Prop :=
  Servidor.parsearURI p = .obtenerIdConversacion ∧ md5 (getParametro p keyTelefonoEmisor keyDefault) = a ∧
    md5 (getParametro p keyTelefonoReceptor keyDefault) = b

/-- The request of a client for the id of a conversation. -/
def consultaId (emisor receptor : Cadena) : Peticion :=
  con metodoGET uriConversacionId [(keyTelefonoEmisor, emisor), (keyTelefonoReceptor, receptor)]

theorem pideId_consultaId (emisor receptor : CString) :
    (consultaId emisor.val receptor.val).PideId (md5 emisor.val) (md5 receptor.val) := by
  refine ⟨rfl, ?_, ?_⟩
  · rw [consultaId, getParametro_con]
    exact congrArg md5 (cstr_of_not_mem emisor.not_mem_zero)
  · rw [consultaId, getParametro_con]
    exact congrArg md5 (cstr_of_not_mem receptor.not_mem_zero)

end Peticion

theorem Registrado.existe_envio (e r : Registrado) :
    ∃ p : Peticion, Servidor.parsearURI p = .almacenarConversacion ∧ p.emisor = e.id ∧ p.receptor = r.id ∧
      getParametro p keyTokenSesion keyDefault = e.token := by
  have hemisor := Peticion.envio_emisor ⟨e.telefono, e.telefono_cstr⟩ ⟨r.telefono, r.telefono_cstr⟩
    ⟨e.token, e.token_cstr⟩ .vacia .vacia
  have hreceptor := Peticion.envio_receptor ⟨e.telefono, e.telefono_cstr⟩ ⟨r.telefono, r.telefono_cstr⟩
    ⟨e.token, e.token_cstr⟩ .vacia .vacia
  rw [← e.id_eq] at hemisor
  rw [← r.id_eq] at hreceptor
  exact ⟨_, Peticion.envio_ruta .., hemisor, hreceptor, Peticion.envio_token _ _ ⟨e.token, e.token_cstr⟩ _ _⟩

/-! ## Deliveries -/

namespace Central
variable [LibC] {C C' : Central} {x y a b k : Cadena} {m : Mensaje}

/-- What a delivery changes: the conversation of the pair ends in the message, under the id it had. -/
theorem entregar_ok (hx : (C.usuarios x).isSome) (hy : (C.usuarios y).isSome) (h : C.entregar x y m = .ok ⟨⟩ C') :
    ∃ c ms, c.mensajes = ms ++ [m] ∧ (∀ c₀, C.entre x y = some c₀ → c.id = c₀.id) ∧
      ∀ a b, C'.entre a b = if Par x y a b then some c else C.entre a b := by
  obtain ⟨c, hc, hentre⟩ := entregar_eq_ok hx hy h
  cases hxy : C.entre x y with
  | none =>
    rw [hxy] at hc
    cases hc
    exact ⟨_, [], rfl, fun _ h => (by cases h), hentre⟩
  | some c₀ =>
    rw [hxy] at hc
    obtain ⟨ms, -, rfl⟩ := recibido_some hc
    exact ⟨_, ms, rfl, fun c₁ h => (by cases h; rfl), hentre⟩

/-- A delivery that raises changes nothing. -/
theorem entregar_error (hx : (C.usuarios x).isSome) (hy : (C.usuarios y).isSome) {e : Excepcion}
    (h : C.entregar x y m = .error e C') : C' = C := by
  obtain ⟨c, C'', -, hentregar, -⟩ | ⟨e, -, hentregar⟩ := entregar_casos hx hy m
  · rw [h] at hentregar
    cases hentregar
  · rw [h] at hentregar
    cases hentregar
    rfl

/-- The conversation of `a` and `b` ends in the message. -/
def Reciente (C : Central) (a b : Cadena) (m : Mensaje) : Prop :=
  ∃ c ms, C.entre a b = some c ∧ c.mensajes = ms ++ [m]

theorem reciente_entregar (hx : (C.usuarios x).isSome) (hy : (C.usuarios y).isSome)
    (h : C.entregar x y m = .ok ⟨⟩ C') (hr : Par x y a b ∨ C.Reciente a b m) : C'.Reciente a b m := by
  obtain ⟨c, ms, hms, -, hentre⟩ := entregar_ok hx hy h
  by_cases hpar : Par x y a b
  · exact ⟨c, ms, by rw [hentre, if_pos hpar], hms⟩
  · obtain ⟨c₀, ms₀, hc₀, hms₀⟩ := hr.resolve_left hpar
    exact ⟨c₀, ms₀, by rw [hentre, if_neg hpar, hc₀], hms₀⟩

/-- The conversation of `a` and `b` is under the id `k`. -/
def ConId (C : Central) (a b k : Cadena) : Prop := ∃ c, C.entre a b = some c ∧ c.id = k

theorem conId_entregar (hx : (C.usuarios x).isSome) (hy : (C.usuarios y).isSome) (h : C.ConId a b k) (m : Mensaje) :
    (final (C.entregar x y m)).ConId a b k := by
  obtain ⟨c₀, hc₀, hid₀⟩ := h
  cases hent : C.entregar x y m with
  | error e C' => exact ⟨c₀, by rw [final_error, entregar_error hx hy hent, hc₀], hid₀⟩
  | ok u C' =>
    obtain ⟨c, ms, -, hid, hentre⟩ := entregar_ok hx hy hent
    by_cases hpar : Par x y a b
    · exact ⟨c, by rw [final_ok, hentre, if_pos hpar], (hid c₀ (by rw [← C.entre_par hpar, hc₀])).trans hid₀⟩
    · exact ⟨c₀, by rw [final_ok, hentre, if_neg hpar, hc₀], hid₀⟩

theorem reciente_difundir {e t : Cadena} (he : (C.usuarios e).isSome) (h : C.difundir e m t = .ok ⟨⟩ C')
    (hr : C.alcanza e a b t ∨ C.Reciente a b m) : C'.Reciente a b m := by
  unfold difundir at h
  unfold alcanza at hr
  cases hu : (C.usuarios (md5 t)).filter (·.conectado) with
  | none =>
    rw [hu] at h hr
    cases h
    exact hr.resolve_left (by simp)
  | some u =>
    rw [hu] at h hr
    dsimp only at h hr
    rw [decide_eq_true_eq] at hr
    exact reciente_entregar he (isSome_of_eq (Option.filter_eq_some_iff.mp hu).1) h hr

/-- A broadcast that reaches `a` and `b` leaves its message at the end of their conversation. -/
theorem reciente_difundirTodos {e : Cadena} {ts : List Cadena} (he : (C.usuarios e).isSome)
    (h : C.difundirTodos e m ts = .ok ⟨⟩ C') (hr : (∃ t ∈ ts, C.alcanza e a b t) ∨ C.Reciente a b m) :
    C'.Reciente a b m := by
  induction ts generalizing C with
  | nil =>
    cases h
    exact hr.resolve_left (by simp)
  | cons t ts ih =>
    have husuarios := C.usuarios_difundir e m t
    rw [difundirTodos, recorrer] at h
    cases hturno : C.difundir e m t with
    | error ex C₁ =>
      rw [hturno] at h
      cases h
    | ok u C₁ =>
      rw [hturno] at h husuarios
      rw [final_ok] at husuarios
      refine ih (by rw [husuarios]; exact he) h ?_
      rw [alcanza_congr husuarios]
      rcases hr with ⟨t', ht', halcanza⟩ | hr
      · rcases List.mem_cons.mp ht' with rfl | ht'
        · exact .inr (reciente_difundir he hturno (.inl halcanza))
        · exact .inl ⟨t', ht', halcanza⟩
      · exact .inr (reciente_difundir he hturno (.inr hr))

end Central

/-! ## Requests -/

section Peticiones
variable [Aritmetica]

theorem Central.conId_atender {C : Central} {a b k : Cadena} (h : C.ConId a b k) (lugares : Value) (p : Peticion) :
    (C.atender lugares p).central.ConId a b k :=
  atender_induccion (P := fun C => C.ConId a b k) (fun _ _ h => h)
    (fun _ _ h _ hx hy => conId_entregar hx hy h p.mensaje) h lugares

/-- A request that delivers a message between `a` and `b` leaves it at the end of their conversation. -/
theorem Representa.reciente {C : Central} {d : Cadena → Option Cadena} (h : Representa C d) (lugares : Value)
    {p : Peticion} {a b : Cadena} (hent : Servidor.entregados lugares { datos := d } p a b ≠ []) :
    (C.atender lugares p).central.Reciente a b p.mensaje := by
  obtain ⟨d', hatender, -⟩ := h.atender lugares p
  have hsalidas : (Servidor.atender lugares { datos := d } p).salidas = (C.atender lugares p).salidas := by
    rw [hatender]
  unfold Servidor.entregados at hent
  rw [hsalidas] at hent
  split at hent
  · rename_i hruta
    split at hent
    · rename_i hexito
      rcases C.atender_conversacion lugares hruta with ⟨e, r, he, hr, -, hat⟩ | ⟨texto, hat⟩
      · rw [hat] at hexito ⊢
        cases hentregar : C.entregar p.emisor p.receptor p.mensaje with
        | ok u C' =>
          exact Central.reciente_entregar (by rw [he]; rfl) (by rw [hr]; rfl) hentregar (.inl hexito.2)
        | error ex C' =>
          rw [hentregar] at hexito
          exact absurd hexito.1.symm (List.cons_ne_nil _ _)
      · rw [hat] at hexito
        exact absurd hexito.1 respuesta_ne
    · exact absurd rfl hent
  · rename_i hruta
    split at hent
    · rename_i hexito
      rcases C.atender_difusion lugares hruta with ⟨telefonos, e, hvec, he, -, hat⟩ | ⟨salidas, hno, hat⟩
      · rw [hvec, h.alcanza] at hent
        obtain ⟨t, ht⟩ := List.exists_mem_of_ne_nil _ fun hnil => hent (List.map_eq_nil_iff.mpr hnil)
        rw [hat] at hexito ⊢
        cases hdifundir : C.difundirTodos p.emisor p.mensaje telefonos with
        | ok u C' =>
          exact Central.reciente_difundirTodos (by rw [he]; rfl) hdifundir (.inl ⟨t, List.mem_filter.mp ht⟩)
        | error ex C' =>
          rw [hdifundir] at hexito
          exact absurd hexito.symm (List.cons_ne_nil _ _)
      · rw [hat] at hexito
        rcases hno with rfl | ⟨texto, rfl⟩
        · exact absurd hexito.symm (List.cons_ne_nil _ _)
        · exact absurd hexito respuesta_ne
    · exact absurd rfl hent
  · exact absurd rfl hent

/-- A send of a registered user with their token that does not raise is a delivery. -/
theorem Representa.entregados_envio {C C' : Central} {d : Cadena → Option Cadena} (h : Representa C d) (lugares : Value)
    {p : Peticion} (hp : Servidor.parsearURI p = .almacenarConversacion) {e r : Registrado}
    (he : C.usuarios p.emisor = some e) (hr : C.usuarios p.receptor = some r)
    (htoken : e.token = getParametro p keyTokenSesion keyDefault)
    (hent : C.entregar p.emisor p.receptor p.mensaje = .ok ⟨⟩ C') :
    Servidor.entregados lugares { datos := d } p p.emisor p.receptor = [p.mensaje] := by
  obtain ⟨d', hatender, -⟩ := h.atender lugares p
  rw [Servidor.entregados, hp, hatender, Central.atender_envio lugares hp he hr htoken, hent]
  exact if_pos ⟨rfl, .refl _ _⟩

/-- The answer to a request for the id of the conversation of two registered users. -/
theorem Central.atender_obtenerId {C : Central} (lugares : Value) {q : Peticion} {a b : Cadena} (hq : q.PideId a b)
    (ha : (C.usuarios a).isSome) (hb : (C.usuarios b).isSome) :
    C.atender lugares q =
      match C.entre a b with
      | none => ⟨C, [respuesta keyIdConversacionNoEncontrada true]⟩
      | some c =>
        match Conversacion.recargar c.mensajes with
        | .ok _ => ⟨C, [respuesta c.id true]⟩
        | .error _ => ⟨C, []⟩ := by
  obtain ⟨hruta, rfl, rfl⟩ := hq
  obtain ⟨e, he⟩ := Option.isSome_iff_exists.mp ha
  obtain ⟨r, hr⟩ := Option.isSome_iff_exists.mp hb
  simp only [atender, servir, hruta, obtenerIdConversacion, he, hr, C.claves _ _ he, C.claves _ _ hr]
  cases C.entre _ _ with
  | none => rfl
  | some c => cases hms : Conversacion.recargar c.mensajes <;> simp [hms]

/-- The id that is handed out for `a` and `b` is one under which every later message between them is stored, and it is
the same for both of them. -/
def IdSirve (lugares : Value) (db : RocksDB) (a b : Cadena) : Prop :=
  ∃ k, (∀ q : Peticion, q.PideId a b ∨ q.PideId b a →
      ∃ exito, (Servidor.atender lugares db q).salidas = [respuesta k exito]) ∧
    ∀ (ps : List Peticion) (p : Peticion), Servidor.entregados lugares (Servidor.ejecutar lugares db ps) p a b ≠ [] →
      ∃ ids ms, (Servidor.atender lugares (Servidor.ejecutar lugares db ps) p).db.datos (claveBaseConversacion ++ k) =
        some (Conversacion.texto k ids (ms ++ [p.mensaje]))

/-- The conversation of `a` and `b` is stored and can be loaded. -/
def SeCarga (db : RocksDB) (a b : Cadena) : Prop :=
  ∃ k, (k = a ++ Conversacion.guion :: b ∨ k = b ++ Conversacion.guion :: a) ∧ db.tieneConversacion k ∧
    ∃ c s, (Conversacion.obtener k).run { db := db } = .ok c s

theorem Representa.seCarga_iff {C : Central} {d : Cadena → Option Cadena} (h : Representa C d) {a b : Cadena} :
    SeCarga { datos := d } a b ↔ ∃ c ms, C.entre a b = some c ∧ Conversacion.recargar c.mensajes = .ok ms := by
  constructor
  · rintro ⟨k, hk, hstored, hcarga⟩
    rw [h.tieneConversacion] at hstored
    obtain ⟨c, hc⟩ := Option.isSome_iff_exists.mp hstored
    obtain ⟨ms, hms⟩ := (h.obtener_ok_iff [] hc).mp hcarga
    exact ⟨c, ms, Central.entre_of_buscar hc hk, hms⟩
  · rintro ⟨c, ms, hc, hms⟩
    obtain ⟨hmem, hentre⟩ := Central.entre_eq_some_iff.mp hc
    have hbuscar := Central.buscar_eq_some_iff.mpr ⟨hmem, rfl⟩
    exact ⟨c.id, hentre.id, by rw [h.tieneConversacion, hbuscar]; rfl, (h.obtener_ok_iff [] hbuscar).mpr ⟨ms, hms⟩⟩

/-- An id that serves is the one of a conversation that can be loaded. -/
theorem Representa.seCarga_of_idSirve {C : Central} {d : Cadena → Option Cadena} (h : Representa C d) {lugares : Value}
    {a b : Cadena} (ha : (C.usuarios a).isSome) (hb : (C.usuarios b).isSome)
    (hsirve : IdSirve lugares { datos := d } a b) : SeCarga { datos := d } a b := by
  obtain ⟨k, hrespuesta, hdespues⟩ := hsirve
  obtain ⟨e, he⟩ := Option.isSome_iff_exists.mp ha
  obtain ⟨r, hr⟩ := Option.isSome_iff_exists.mp hb
  have hq := Peticion.pideId_consultaId ⟨e.telefono, e.telefono_cstr⟩ ⟨r.telefono, r.telefono_cstr⟩
  rw [← e.id_eq, ← r.id_eq, C.claves _ _ he, C.claves _ _ hr] at hq
  obtain ⟨exito, hsalidas⟩ := hrespuesta _ (.inl hq)
  obtain ⟨d', hatender, -⟩ := h.atender lugares (.consultaId e.telefono r.telefono)
  rw [hatender, Central.atender_obtenerId lugares hq ha hb] at hsalidas
  rw [h.seCarga_iff]
  cases hc : C.entre a b with
  | some c =>
    rw [hc] at hsalidas
    dsimp only at hsalidas
    cases hms : Conversacion.recargar c.mensajes with
    | ok ms => exact ⟨c, ms, rfl, hms⟩
    | error ex =>
      rw [hms] at hsalidas
      exact absurd hsalidas.symm (List.cons_ne_nil _ _)
  | none =>
    -- the marker was handed out, and a message of `a` to `b` is stored under another id
    rw [hc] at hsalidas
    obtain ⟨rfl, -⟩ := respuesta_inj (List.cons.inj hsalidas).1
    exfalso
    obtain ⟨p, hruta, hemisor, hreceptor, htoken⟩ := e.existe_envio r
    rw [C.claves _ _ he] at hemisor
    rw [C.claves _ _ hr] at hreceptor
    subst hemisor hreceptor
    have hent := h.entregados_envio lugares hruta he hr htoken.symm (by rw [Central.entregar, hc])
    obtain ⟨ids, ms, hdatos⟩ := hdespues [] p (by rw [Servidor.ejecutar, List.foldl_nil, hent]; exact List.cons_ne_nil _ _)
    obtain ⟨d'', hatender', h''⟩ := h.atender lugares p
    rw [Servidor.ejecutar, List.foldl_nil, hatender'] at hdatos
    have hbuscar : (C.atender lugares p).central.buscar keyIdConversacionNoEncontrada = none :=
      Central.buscar_eq_none_iff.mpr fun c hc => id_ne hc (by decide)
    have hnone := h''.chats keyIdConversacionNoEncontrada
    rw [hbuscar] at hnone
    cases hnone.symm.trans hdatos

theorem Representa.idSirve_of_seCarga {C : Central} {d : Cadena → Option Cadena} (h : Representa C d) {lugares : Value}
    {a b : Cadena} (ha : (C.usuarios a).isSome) (hb : (C.usuarios b).isSome)
    (hcarga : SeCarga { datos := d } a b) : IdSirve lugares { datos := d } a b := by
  obtain ⟨c, ms, hc, hms⟩ := h.seCarga_iff.mp hcarga
  refine ⟨c.id, fun q hq => ⟨true, ?_⟩, fun ps p hent => ?_⟩
  · obtain ⟨d', hatender, -⟩ := h.atender lugares q
    rw [hatender]
    rcases hq with hq | hq
    · rw [Central.atender_obtenerId lugares hq ha hb, hc]
      dsimp only
      rw [hms]
    · rw [Central.atender_obtenerId lugares hq hb ha, C.entre_comm, hc]
      dsimp only
      rw [hms]
  · obtain ⟨d₁, hejecutar, h₁⟩ := h.ejecutar lugares ps
    have hid₁ : (C.ejecutar lugares ps).ConId a b c.id :=
      Central.ejecutar_induccion (P := fun C => C.ConId a b c.id) (fun p _ _ h => Central.conId_atender h lugares p)
        ⟨c, hc, rfl⟩
    rw [hejecutar] at hent ⊢
    obtain ⟨d₂, hatender, h₂⟩ := h₁.atender lugares p
    obtain ⟨c₂, hc₂, hid₂⟩ := Central.conId_atender hid₁ lugares p
    obtain ⟨c₂', ms', hc₂', hms'⟩ := h₁.reciente lugares hent
    cases hc₂.symm.trans hc₂'
    rw [hatender]
    refine ⟨[c₂.a, c₂.b], ms', (h₂.chats c.id).trans ?_⟩
    rw [← hid₂, Central.buscar_eq_some_iff.mpr ⟨(Central.entre_eq_some_iff.mp hc₂).1, rfl⟩, Option.map_some, Chat.texto,
      hms']

/-- **The id that is handed out for two users is the one of their later messages exactly when their conversation
exists and can be loaded.** -/
theorem idSirve_iff (lugares : Value) (ps : List Peticion) {a b : Cadena}
    (ha : (Servidor.ejecutar lugares .vacia ps).tieneUsuario a)
    (hb : (Servidor.ejecutar lugares .vacia ps).tieneUsuario b) :
    IdSirve lugares (Servidor.ejecutar lugares .vacia ps) a b ↔ SeCarga (Servidor.ejecutar lugares .vacia ps) a b := by
  obtain ⟨d, hdb, h⟩ := ejecutar_vacia lugares ps
  rw [hdb, h.tieneUsuario] at ha hb
  rw [hdb]
  exact ⟨h.seCarga_of_idSirve ha hb, h.idSirve_of_seCarga ha hb⟩

end Peticiones

section Charla
attribute [local instance] Aritmetica.nula

theorem idSirve_charla : IdSirve .null (Servidor.ejecutar .null .vacia charla) (md5 (bytes "1")) (md5 (bytes "2")) := by
  refine (idSirve_iff .null charla (almacen_charla.1 _ (by simp)) (almacen_charla.1 _ (by simp))).mpr
    ⟨_, .inl rfl, almacen_charla.2, ?_⟩
  -- without separators every stored conversation loads
  have hstored := almacen_charla.2
  obtain ⟨d, hdb, h⟩ := ejecutar_vacia .null charla
  rw [hdb] at hstored ⊢
  rw [h.tieneConversacion] at hstored
  obtain ⟨c, hc⟩ := Option.isSome_iff_exists.mp hstored
  obtain ⟨hmem, hid⟩ := Central.buscar_eq_some_iff.mp hc
  rw [← hid]
  exact ⟨_, _, h.run_obtener_limpia (Central.limpia_ejecutar (Central.todos_vacia _) charla_limpia .null) hmem []⟩

def desconocidos : List Peticion := [.registro (bytes "1"), .registro (bytes "2")]

theorem id_no_sirve :
    ¬ IdSirve .null (Servidor.ejecutar .null .vacia desconocidos) (md5 (bytes "1")) (md5 (bytes "2")) := by
  obtain ⟨d, hdb, h⟩ := ejecutar_vacia .null desconocidos
  obtain ⟨husuario, hninguna⟩ : (∀ k ∈ [md5 (bytes "1"), md5 (bytes "2")],
      (Servidor.ejecutar .null .vacia desconocidos).tieneUsuario k) ∧
      ∀ k ∈ [md5 (bytes "1") ++ Conversacion.guion :: md5 (bytes "2"),
        md5 (bytes "2") ++ Conversacion.guion :: md5 (bytes "1")],
        ¬ (Servidor.ejecutar .null .vacia desconocidos).tieneConversacion k := by
    simp only [tieneUsuario_ejecutar, tieneConversacion_ejecutar]
    decide +kernel
  rw [hdb] at husuario hninguna ⊢
  intro hsirve
  obtain ⟨k, hk, hstored, -⟩ := h.seCarga_of_idSirve (by rw [← h.tieneUsuario]; exact husuario _ (by simp))
    (by rw [← h.tieneUsuario]; exact husuario _ (by simp)) hsirve
  exact hninguna k (by simpa using hk) hstored

end Charla

end MensajeroX
