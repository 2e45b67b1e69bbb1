import MensajeroX.Central.Aislamiento
import MensajeroX.Propiedades.Destinatarios

/-!
# What a conversation depends on

Of a user only the telephone, the token and the connection matter to what is sent. A request takes these of every user to
new ones (`Peticion.mueve`), and what it delivers between two users depends on these of the two (`Peticion.entrega`).

* `Central.vista_atender`, `Central.mensajes_atender` : what a request does to a user, and to the messages of a pair;
* `Peticion.entrega_congr` : the deliveries between two users, from what matters of the two;
* `Peticion.interesa` : the requests that can matter to a pair;
* `historial_relevante` : **the history of two users is the one of the requests that matter to them**.
-/

namespace MensajeroX
open Bytes JsonCpp BaseDeDatos Efectos Servicio

/-! ## What matters of a user -/

/-- What matters of a user when a message is sent. -/
structure Vista where
  telefono : Cadena
  token : Cadena
  conectado : Bool

def Registrado.vista (u : Registrado) : Vista where
  telefono := u.telefono
  token := u.token
  conectado := u.conectado

namespace Peticion

/-- The telephone of a request belongs to the user `k`. -/
def EsDe (p : Peticion) (k : Cadena) : Prop := md5 (getParametro p keyTelefono keyDefault) = k

instance (p : Peticion) (k : Cadena) : Decidable (p.EsDe k) := inferInstanceAs (Decidable (_ = _))

def Renueva (p : Peticion) (k : Cadena) : Prop :=
  k ∈ p.enUri urlBaseUsuario ∧ StringUtil.toBoolean (getParametro p keyRenovarToken keyDefault) = true

instance (p : Peticion) (k : Cadena) : Decidable (p.Renueva k) := inferInstanceAs (Decidable (_ ∧ _))

def mueve (p : Peticion) (k : Cadena) (v : Option Vista) : Option Vista :=
  match Servidor.parsearURI p with
  | .registrarUsuario => if p.EsDe k then v.or (some (Registrado.alta p).vista) else v
  | .administrarPerfil =>
    if p.EsDe k then
      v.map fun v =>
        if v.token = getParametro p keyTokenSesion keyDefault then
          { v with conectado := StringUtil.toBoolean (getParametro p keyEstadoDeConexion keyDefault) }
        else v
    else v
  | .consultarUsuarioOnline =>
    if p.Renueva k then v.map fun v => { v with token := md5 (v.telefono ++ p.ctime.val) } else v
  | _ => v

/-- The sender is registered, and the request has their token. -/
def acepta (p : Peticion) (v : Option Vista) : Bool := v.any fun v => v.token = getParametro p keyTokenSesion keyDefault

/-- What a request delivers between `a` and `b`, when `vista` is what matters of the users. -/
def entrega [LibC] (p : Peticion) (vista : Cadena → Option Vista) (a b : Cadena) : List Mensaje :=
  match Servidor.parsearURI p with
  | .almacenarConversacion =>
    if p.acepta (vista p.emisor) ∧ (vista p.receptor).isSome ∧ Par p.emisor p.receptor a b then [p.mensaje] else []
  | .almacenarListaDifusion =>
    if p.acepta (vista p.emisor) then
      (p.contactos.filter fun k => (vista k).any (·.conectado) && decide (Par p.emisor k a b)).map fun _ => p.mensaje
    else []
  | _ => []

/-- The request can matter to what `a` and `b` send each other. -/
def interesa [LibC] (p : Peticion) (a b : Cadena) : Bool :=
  match Servidor.parsearURI p with
  | .registrarUsuario | .administrarPerfil => p.EsDe a ∨ p.EsDe b
  | .consultarUsuarioOnline => p.Renueva a ∨ p.Renueva b
  | .almacenarConversacion => Par p.emisor p.receptor a b
  | .almacenarListaDifusion => p.contactos.any fun k => Par p.emisor k a b
  | _ => false

/-- A request that does not matter to a pair leaves the two as they are. -/
theorem mueve_of_not_interesa [LibC] {p : Peticion} {a b : Cadena} (h : p.interesa a b = false) (v : Option Vista) :
    p.mueve a v = v ∧ p.mueve b v = v := by
  unfold interesa at h
  unfold mueve
  split at h
  all_goals simp_all

theorem entrega_of_not_interesa [LibC] {p : Peticion} {a b : Cadena} (h : p.interesa a b = false)
    (vista : Cadena → Option Vista) : p.entrega vista a b = [] := by
  unfold interesa at h
  unfold entrega
  split at h
  all_goals simp_all

/-- What a request delivers between two users depends on what matters of the two. -/
theorem entrega_congr [LibC] (p : Peticion) {vista vista' : Cadena → Option Vista} {a b : Cadena} (ha : vista a = vista' a)
    (hb : vista b = vista' b) : p.entrega vista a b = p.entrega vista' a b := by
  have hpar : ∀ {x y : Cadena}, Par x y a b → vista x = vista' x ∧ vista y = vista' y := by
    rintro x y (⟨rfl, rfl⟩ | ⟨rfl, rfl⟩)
    · exact ⟨ha, hb⟩
    · exact ⟨hb, ha⟩
  unfold entrega
  split
  · by_cases h : Par p.emisor p.receptor a b
    · rw [(hpar h).1, (hpar h).2]
    · simp [h]
  · have hfilter : (p.contactos.filter fun k => (vista k).any (·.conectado) && decide (Par p.emisor k a b)) =
        p.contactos.filter fun k => (vista' k).any (·.conectado) && decide (Par p.emisor k a b) := by
      refine List.filter_congr fun k _ => ?_
      by_cases hk : Par p.emisor k a b
      · rw [(hpar hk).2]
      · simp [hk]
    rw [hfilter]
    by_cases h : ∃ k, Par p.emisor k a b
    · obtain ⟨k, hk⟩ := h
      rw [(hpar hk).1]
    · -- the sender is not one of the two
      have hnil : (p.contactos.filter fun k => (vista' k).any (·.conectado) && decide (Par p.emisor k a b)) = [] := by
        refine List.filter_eq_nil_iff.mpr fun k _ hk => h ⟨k, ?_⟩
        rw [Bool.and_eq_true, decide_eq_true_eq] at hk
        exact hk.2
      rw [hnil, List.map_nil, ite_self, ite_self]
  · rfl

end Peticion

/-! ## What a request does -/

namespace Central

def vista (C : Central) (k : Cadena) : Option Vista := (C.usuarios k).map Registrado.vista

theorem vista_conUsuario (C : Central) (u : Registrado) (k : Cadena) :
    (C.conUsuario u).vista k = if u.id = k then some u.vista else C.vista k := by
  show (Function.update C.usuarios u.id (some u) k).map Registrado.vista = _
  by_cases hk : u.id = k
  · subst hk
    rw [if_pos rfl, Function.update_self]
    rfl
  · rw [if_neg hk, Function.update_of_ne (Ne.symm hk)]
    rfl

theorem vista_congr {C C' : Central} (h : C'.usuarios = C.usuarios) : C'.vista = C.vista := by
  funext k
  rw [vista, h, vista]

theorem vista_sustituye {C : Central} {k k' : Cadena} {u v : Registrado} (hu : C.usuarios k' = some u) (hid : v.id = u.id) :
    (C.conUsuario v).vista k = if k' = k then some v.vista else C.vista k := by
  rw [vista_conUsuario, hid, C.claves _ _ hu]

theorem vista_eq_none {C : Central} {k : Cadena} (h : C.usuarios k = none) : C.vista k = none := by
  rw [vista, h]
  rfl

theorem vista_eq_some {C : Central} {k : Cadena} {u : Registrado} (h : C.usuarios k = some u) :
    C.vista k = some u.vista := by
  rw [vista, h]
  rfl

section Atender
variable [Aritmetica] {C : Central} {lugares : Value} {p : Peticion}

theorem Escribe.mueve {u : Registrado} (hu : Escribe C lugares p u) (k : Cadena) :
    (C.conUsuario u).vista k = p.mueve k (C.vista k) := by
  rw [Peticion.mueve]
  cases hu with
  | alta hp hnuevo =>
    rw [hp, vista_conUsuario]
    dsimp only
    by_cases hk : p.EsDe k
    · have hvista : C.vista k = none := vista_eq_none (hk ▸ hnuevo)
      rw [if_pos hk, hvista, Option.none_or]
      exact if_pos hk
    · rw [if_neg hk]
      exact if_neg hk
  | @perfil w hp hw htoken =>
    rw [hp, vista_sustituye hw (v := w.conPerfil p) rfl]
    dsimp only
    by_cases hk : p.EsDe k
    · have hvista : C.vista k = some w.vista := vista_eq_some (hk ▸ hw)
      rw [if_pos hk, hvista, Option.map_some, if_pos (show w.vista.token = _ from htoken)]
      exact if_pos hk
    · rw [if_neg hk]
      exact if_neg hk
  | @conexion w telefono hp hid hw =>
    have henUri : p.enUri urlBaseUsuario = [md5 telefono] := by rw [Peticion.enUri, hid]
    rw [hp, vista_sustituye hw (v := w.conConexion p) rfl]
    dsimp only
    by_cases hk : md5 telefono = k
    · have hvista : C.vista k = some w.vista := vista_eq_some (hk ▸ hw)
      rw [if_pos hk, hvista, Option.map_some]
      by_cases hrenovar : StringUtil.toBoolean (getParametro p keyRenovarToken keyDefault) = true
      · rw [if_pos ⟨by rw [henUri, hk]; exact List.mem_cons_self, hrenovar⟩]
        exact congrArg some (congrArg (Vista.mk w.telefono · w.conectado) (if_pos hrenovar))
      · rw [if_neg fun h => hrenovar h.2]
        exact congrArg some (congrArg (Vista.mk w.telefono · w.conectado) (if_neg hrenovar))
    · rw [if_neg hk, if_neg fun h => hk (List.mem_singleton.mp (henUri ▸ h.1)).symm]
  | @localizacion w ubicacion hp hw hubicacion =>
    rw [hp, vista_sustituye hw (v := w.conLocalizacion (ubicacion ++ bytes " " ++ p.fechaYhora.val)) rfl]
    dsimp only
    split
    · rename_i hk
      rw [← hk, vista_eq_some hw]
      rfl
    · rfl

/-- Otherwise the user is missing, or the request was refused, or it is about someone else. -/
theorem mueve_of_not_escribe (hescribe : ¬ ∃ u, Escribe C lugares p u) (k : Cadena) :
    p.mueve k (C.vista k) = C.vista k := by
  unfold Peticion.mueve
  split
  · rename_i hp
    split
    · rename_i hk
      obtain rfl : md5 (getParametro p keyTelefono keyDefault) = k := hk
      cases hu : C.usuarios (md5 (getParametro p keyTelefono keyDefault)) with
      | none => exact absurd ⟨_, .alta hp hu⟩ hescribe
      | some u => rw [vista_eq_some hu, Option.some_or]
    · rfl
  · rename_i hp
    split
    · rename_i hk
      obtain rfl : md5 (getParametro p keyTelefono keyDefault) = k := hk
      cases hu : C.usuarios (md5 (getParametro p keyTelefono keyDefault)) with
      | none => rw [vista_eq_none hu, Option.map_none]
      | some u => rw [vista_eq_some hu, Option.map_some, if_neg (fun htoken : u.vista.token = _ => hescribe ⟨_, .perfil hp hu htoken⟩)]
    · rfl
  · rename_i hp
    split
    · rename_i hk
      have hk := hk.1
      rw [Peticion.enUri] at hk
      cases hid : idMetodoGET p urlBaseUsuario with
      | error e =>
        rw [hid] at hk
        exact absurd hk List.not_mem_nil
      | ok telefono =>
        rw [hid] at hk
        obtain rfl := List.mem_singleton.mp hk
        cases hu : C.usuarios (md5 telefono) with
        | none => rw [vista_eq_none hu, Option.map_none]
        | some u => exact absurd ⟨_, .conexion hp hid hu⟩ hescribe
    · rfl
  · rfl

/-- **What a request makes of a user.** -/
theorem vista_atender (C : Central) (lugares : Value) (p : Peticion) (k : Cadena) :
    (C.atender lugares p).central.vista k = p.mueve k (C.vista k) := by
  by_cases hescribe : ∃ u, Escribe C lugares p u
  · obtain ⟨u, hu⟩ := hescribe
    rw [hu.central, hu.mueve]
  · rw [mueve_of_not_escribe hescribe, vista_congr ((usuarios_atender C lugares p).resolve_left hescribe)]

end Atender

/-! ### What is delivered -/

theorem acepta_iff {C : Central} {p : Peticion} :
    p.acepta (C.vista p.emisor) = true ↔
      ∃ e, C.usuarios p.emisor = some e ∧ e.token = getParametro p keyTokenSesion keyDefault := by
  rw [Peticion.acepta, vista]
  cases C.usuarios p.emisor with
  | none => simp
  | some e => simp [Registrado.vista]

theorem isSome_vista (C : Central) (k : Cadena) : (C.vista k).isSome = (C.usuarios k).isSome := Option.isSome_map

theorem alcanza_eq (C : Central) (e a b t : Cadena) :
    C.alcanza e a b t = ((C.vista (md5 t)).any (·.conectado) && decide (Par e (md5 t) a b)) := by
  rw [alcanza, vista]
  cases hu : C.usuarios (md5 t) with
  | none => rfl
  | some u =>
    rw [Option.filter_some, Option.map_some, Option.any_some, ← C.claves _ _ hu]
    cases hcon : u.conectado <;> simp [Registrado.vista, hcon]

section Mensajes
variable [Aritmetica] {C : Central} (hC : C.Limpia) (lugares : Value) {p : Peticion}
include hC

theorem mensajes_envio (hp : Servidor.parsearURI p = .almacenarConversacion) (a b : Cadena) :
    (C.atender lugares p).central.mensajes a b = C.mensajes a b ++
      if p.acepta (C.vista p.emisor) ∧ (C.vista p.receptor).isSome ∧ Par p.emisor p.receptor a b then [p.mensaje] else [] := by
  by_cases hacepta : p.acepta (C.vista p.emisor) = true ∧ (C.vista p.receptor).isSome = true
  · obtain ⟨e, he, htoken⟩ := acepta_iff.mp hacepta.1
    obtain ⟨r, hr⟩ := Option.isSome_iff_exists.mp (isSome_vista C p.receptor ▸ hacepta.2)
    obtain ⟨C', hentregar, hmensajes⟩ := mensajes_entregar hC (by rw [he]; rfl) (by rw [hr]; rfl) p.mensaje
    rw [atender_envio lugares hp he hr htoken, hentregar, seguido, final_ok, hmensajes]
    simp only [hacepta.1, hacepta.2, true_and]
  · have hno : ¬ (p.acepta (C.vista p.emisor) = true ∧ (C.vista p.receptor).isSome = true ∧ Par p.emisor p.receptor a b) :=
      fun h => hacepta ⟨h.1, h.2.1⟩
    rw [if_neg hno, List.append_nil]
    rcases C.atender_conversacion lugares hp with ⟨e, r, he, hr, htoken, -⟩ | ⟨texto, hatender⟩
    · exact absurd ⟨acepta_iff.mpr ⟨e, he, htoken⟩, by rw [isSome_vista, hr]; rfl⟩ hacepta
    · rw [hatender]

/-- A broadcast delivers its message to the contacts that are connected, or leaves everything as it was. -/
theorem mensajes_difusion (hp : Servidor.parsearURI p = .almacenarListaDifusion) (hlimpia : p.Limpia) (a b : Cadena) :
    (C.atender lugares p).central.mensajes a b = C.mensajes a b ++
      if p.acepta (C.vista p.emisor) then
        (p.contactos.filter fun k => (C.vista k).any (·.conectado) && decide (Par p.emisor k a b)).map fun _ => p.mensaje
      else [] := by
  by_cases hacepta : p.acepta (C.vista p.emisor) = true
  · obtain ⟨e, he, htoken⟩ := acepta_iff.mp hacepta
    rw [if_pos hacepta, Peticion.contactos]
    cases hvec : getParametroVector p keyContantosTelefono with
    | error ex =>
      rcases C.atender_difusion lugares hp with ⟨telefonos, -, hok, -⟩ | ⟨salidas, -, hatender⟩
      · rw [hvec] at hok
        cases hok
      · rw [hatender]
        exact (List.append_nil _).symm
    | ok telefonos =>
      obtain ⟨C', hdifundir, hmensajes⟩ := mensajes_difundirTodos hC (by rw [he]; rfl) hlimpia.mensaje telefonos
      rw [atender_difusion_token lugares hp he htoken hvec, hdifundir, seguido, final_ok, hmensajes, List.filter_map,
        List.map_map, funext (C.alcanza_eq p.emisor a b)]
      rfl
  · rw [if_neg hacepta, List.append_nil]
    rcases C.atender_difusion lugares hp with ⟨telefonos, e, -, he, htoken, -⟩ | ⟨salidas, -, hatender⟩
    · exact absurd (acepta_iff.mpr ⟨e, he, htoken⟩) hacepta
    · rw [hatender]

/-- **What a request appends to the messages of a pair.** -/
theorem mensajes_atender (hp : p.Limpia) (a b : Cadena) :
    (C.atender lugares p).central.mensajes a b = C.mensajes a b ++ p.entrega C.vista a b := by
  unfold Peticion.entrega
  split
  · rename_i hruta
    exact mensajes_envio hC lugares hruta a b
  · rename_i hruta
    exact mensajes_difusion hC lugares hruta hp a b
  · rename_i henvio hdifusion
    rw [List.append_nil]
    exact C.mensajes_of_not_envia (not_or.mpr ⟨henvio, hdifusion⟩) lugares a b

end Mensajes

/-- The two centrals agree on what matters to `a` and `b`, and on what they have sent each other. -/
structure Coinciden (a b : Cadena) (C C' : Central) : Prop where
  limpia : C.Limpia
  limpia' : C'.Limpia
  vista_a : C.vista a = C'.vista a
  vista_b : C.vista b = C'.vista b
  mensajes : C.mensajes a b = C'.mensajes a b

section Coinciden
variable [Aritmetica] {a b : Cadena} {C C' : Central} {p : Peticion}

theorem Coinciden.atender (h : Coinciden a b C C') (lugares : Value) (hp : p.Limpia) :
    Coinciden a b (C.atender lugares p).central (C'.atender lugares p).central where
  limpia := todos_atender recargar_limpia (fun _ => hp.mensaje) h.limpia lugares
  limpia' := todos_atender recargar_limpia (fun _ => hp.mensaje) h.limpia' lugares
  vista_a := by rw [vista_atender, vista_atender, h.vista_a]
  vista_b := by rw [vista_atender, vista_atender, h.vista_b]
  mensajes := by
    rw [mensajes_atender h.limpia lugares hp, mensajes_atender h.limpia' lugares hp, h.mensajes,
      p.entrega_congr h.vista_a h.vista_b]

theorem Coinciden.atender_ajena (h : Coinciden a b C C') (lugares : Value) (hp : p.Limpia)
    (hno : p.interesa a b = false) : Coinciden a b (C.atender lugares p).central C' where
  limpia := todos_atender recargar_limpia (fun _ => hp.mensaje) h.limpia lugares
  limpia' := h.limpia'
  vista_a := by rw [vista_atender, (Peticion.mueve_of_not_interesa hno _).1, h.vista_a]
  vista_b := by rw [vista_atender, (Peticion.mueve_of_not_interesa hno _).2, h.vista_b]
  mensajes := by
    rw [mensajes_atender h.limpia lugares hp, Peticion.entrega_of_not_interesa hno, List.append_nil, h.mensajes]

end Coinciden

end Central

/-- **The history of two users is the one of the requests that matter to them**: registrations, profiles and new tokens of
the two, messages of one to the other and broadcasts that list the other. All other requests of anyone, also of the two,
can be left out. -/
theorem historial_relevante [Aritmetica] (lugares : Value) {ps : List Peticion} (hps : ∀ p ∈ ps, p.Limpia) (a b : Cadena) :
    Servidor.historial lugares .vacia (ps.filter fun p => p.interesa a b) a b =
      Servidor.historial lugares .vacia ps a b := by
  have hinicio : Central.Coinciden a b Central.vacia Central.vacia :=
    ⟨Central.todos_vacia _, Central.todos_vacia _, rfl, rfl, rfl⟩
  have hfin : Central.Coinciden a b (Central.vacia.ejecutar lugares ps)
      (Central.vacia.ejecutar lugares (ps.filter fun p => p.interesa a b)) :=
    Maquinas.foldl_purga (fun p hp _ _ _ h => h.atender lugares (hps p hp))
      (fun p hp hno _ _ h => h.atender_ajena lugares (hps p hp) hno) hinicio
  rw [historial_eq lugares hps, historial_eq lugares fun p hp => hps p (List.mem_of_mem_filter hp), hfin.mensajes]

section Relevante
attribute [local instance] Aritmetica.nula

/-- Three users register, the first writes to the third and to the second, and the third to the first. -/
def tresUsuarios : List Peticion :=
  [.registro (bytes "1"), .registro (bytes "2"), .registro (bytes "3"),
    .envio (bytes "1") (bytes "3") [] (bytes "a") (bytes "10:00"), .envio (bytes "1") (bytes "2") [] (bytes "b") (bytes "10:01"),
    .envio (bytes "3") (bytes "1") [] (bytes "c") (bytes "10:02")]

theorem historial_relevante_tres :
    (∀ p ∈ tresUsuarios, p.Limpia) ∧
      tresUsuarios.map (fun p => p.interesa (md5 (bytes "1")) (md5 (bytes "2"))) =
        [true, true, false, false, true, false] ∧
      Servidor.historial .null .vacia (tresUsuarios.filter fun p => p.interesa (md5 (bytes "1")) (md5 (bytes "2")))
          (md5 (bytes "1")) (md5 (bytes "2")) =
        Servidor.historial .null .vacia tresUsuarios (md5 (bytes "1")) (md5 (bytes "2")) ∧
      (Servidor.historial .null .vacia tresUsuarios (md5 (bytes "1")) (md5 (bytes "2"))).length = 1 := by
  have hlimpias : ∀ p ∈ tresUsuarios, p.Limpia := by decide +kernel
  refine ⟨hlimpias, by decide +kernel, historial_relevante .null hlimpias _ _, ?_⟩
  rw [historial_eq .null hlimpias]
  decide +kernel

end Relevante

end MensajeroX
