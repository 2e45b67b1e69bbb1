import MensajeroX.Central.Usuarios
import MensajeroX.Lib.Aislamiento

/-!
# Groups of users

A request names users: by their telephones, or by the id of their conversation. As long as every request stays within a
group of users or outside of it, the central falls into two parts that know nothing of each other.

* `Peticion.nombrados`, `Peticion.De` : the users that a request names, and a request within a group;
* `Central.solo` : the part of a group, with its users and its conversations;
* `Central.atender_nombrados` : a request stores users that it names, and delivers between them;
* `Central.servir_solo` : **a request within the group does the same on its part**, with the same answers;
* `Central.solo_atender` : **a request outside of the group leaves its part alone**.
-/

namespace MensajeroX
open Bytes JsonCpp BaseDeDatos Efectos Servicio

/-! ## Who a request is about -/

/-- The ids around the first hyphen of the id of a conversation. -/
def Conversacion.nombrados (k : Cadena) : List Cadena :=
  [k.takeWhile (· != guion), (k.dropWhile (· != guion)).tail]

theorem Conversacion.nombrados_id {a : Cadena} (ha : guion ∉ a) (b : Cadena) : nombrados (a ++ guion :: b) = [a, b] := by
  have hletra : ∀ c ∈ a, (c != guion) = true := by
    intro c hc
    rw [bne_iff_ne]
    exact fun heq => ha (heq ▸ hc)
  have hguion : ∀ c ∈ (guion :: b).head?, (c != guion) = false := by simp
  rw [nombrados, takeWhile_word hletra hguion, dropWhile_word hletra hguion, List.tail_cons]

namespace Peticion

def contactos [LibC] (p : Peticion) : List Cadena :=
  match getParametroVector p keyContantosTelefono with
  | .ok telefonos => telefonos.map md5
  | .error _ => []

def enUri (p : Peticion) (urlBase : Cadena) : List Cadena :=
  match idMetodoGET p urlBase with
  | .ok telefono => [md5 telefono]
  | .error _ => []

def nombrados [LibC] (p : Peticion) : List Cadena :=
  match Servidor.parsearURI p with
  | .registrarUsuario | .administrarPerfil | .checkinUsuario => [md5 (getParametro p keyTelefono keyDefault)]
  | .consultarUsuarioOnline => p.enUri urlBaseUsuario
  | .obtenerConversaciones => p.enUri urlBaseUsuarioConversaciones
  | .almacenarConversacion => [p.emisor, p.receptor]
  | .almacenarListaDifusion => p.emisor :: p.contactos
  | .obtenerContactos => p.contactos
  | .obtenerIdConversacion =>
    [md5 (getParametro p keyTelefonoEmisor keyDefault), md5 (getParametro p keyTelefonoReceptor keyDefault)]
  | .obtenerConversacion =>
    match idMetodoGET p urlBaseConversacion with
    | .ok k => Conversacion.nombrados k
    | .error _ => []
  | .prueba | .invalido => []

/-- The request names users of the group only. -/
def De [LibC] (p : Peticion) (G : Set Cadena) : Prop := ∀ k ∈ p.nombrados, k ∈ G

end Peticion

/-! ## The part of a group -/

namespace Central

section Solo
variable (G : Set Cadena) [DecidablePred (· ∈ G)]

/-- The users of the group, and their conversations with each other. -/
def solo (C : Central) : Central where
  usuarios := fun k => if k ∈ G then C.usuarios k else none
  chats := C.chats.filter fun c => c.a ∈ G ∧ c.b ∈ G
  claves := by
    intro k u h
    split_ifs at h
    exact C.claves k u h
  participantes := by
    intro c hc
    obtain ⟨hc, hG⟩ := List.mem_filter.mp hc
    obtain ⟨ha, hb⟩ : c.a ∈ G ∧ c.b ∈ G := by simpa using hG
    rw [if_pos ha, if_pos hb]
    exact C.participantes c hc
  parejas := C.parejas.filter _

/-- No conversation is between a user of the group and another one. -/
def Separada (G : Set Cadena) (C : Central) : Prop := ∀ c ∈ C.chats, c.a ∈ G ↔ c.b ∈ G

variable {G} {C : Central} {x y : Cadena}

theorem usuarios_solo {k : Cadena} (hk : k ∈ G) : (C.solo G).usuarios k = C.usuarios k := if_pos hk

theorem usuario_solo {k : Cadena} (hk : k ∈ G) : (C.solo G).usuario k = C.usuario k := by
  rw [usuario, usuarios_solo hk, usuario]

theorem mem_chats_solo {c : Chat} : c ∈ (C.solo G).chats ↔ c ∈ C.chats ∧ c.a ∈ G ∧ c.b ∈ G := by
  rw [solo, List.mem_filter, decide_eq_true_eq]

theorem entre_solo (hx : x ∈ G) (hy : y ∈ G) : (C.solo G).entre x y = C.entre x y := by
  ext c
  rw [entre_eq_some_iff, entre_eq_some_iff, mem_chats_solo]
  constructor
  · rintro ⟨⟨hc, -⟩, hentre⟩
    exact ⟨hc, hentre⟩
  · rintro ⟨hc, hentre⟩
    refine ⟨⟨hc, ?_⟩, hentre⟩
    obtain ⟨rfl, rfl⟩ | ⟨rfl, rfl⟩ := hentre
    · exact ⟨hx, hy⟩
    · exact ⟨hy, hx⟩

theorem buscar_solo {k : Cadena} (hk : ∀ u ∈ Conversacion.nombrados k, u ∈ G) : (C.solo G).buscar k = C.buscar k := by
  ext c
  rw [buscar_eq_some_iff, buscar_eq_some_iff, mem_chats_solo]
  constructor
  · rintro ⟨⟨hc, -⟩, hid⟩
    exact ⟨hc, hid⟩
  · rintro ⟨hc, rfl⟩
    rw [Chat.id, Conversacion.nombrados_id (guion_not_mem (C.participantes c hc).1)] at hk
    exact ⟨⟨hc, hk _ (by simp), hk _ (by simp)⟩, rfl⟩

theorem visibles_solo {telefonos : List Cadena} (h : ∀ t ∈ telefonos, md5 t ∈ G) :
    (C.solo G).visibles telefonos = C.visibles telefonos := by
  refine List.filterMap_congr fun t ht => ?_
  rw [usuarios_solo (h t ht)]

theorem leidos_solo [LibC] (hC : C.Separada G) {u : Cadena} (hu : u ∈ G) (ids : List Cadena) :
    (C.solo G).leidos u ids = C.leidos u ids := by
  rw [leidos, leidos, solo, List.filter_filter]
  refine congrArg _ (List.filter_congr fun c hc => ?_)
  rw [Bool.and_eq_left_iff_imp, decide_eq_true_eq, decide_eq_true_eq]
  rintro ⟨rfl | rfl, -⟩
  · exact ⟨hu, (hC c hc).mp hu⟩
  · exact ⟨(hC c hc).mpr hu, hu⟩

theorem entrada_solo (hC : C.Separada G) {u : Cadena} (hu : u ∈ G) {q : Chat × List Mensaje} (hq : q.1 ∈ C.chats)
    (hparticipa : q.1.Participa u) : (C.solo G).entrada u q = C.entrada u q := by
  have hotro : q.1.otro u ∈ G := by
    rw [Chat.otro]
    split
    · rename_i ha
      exact (hC _ hq).mp (ha ▸ hu)
    · exact (hC _ hq).mpr ((hparticipa.resolve_left ‹_›) ▸ hu)
  rw [entrada, usuario_solo hotro, entrada]

/-! ### Updates within the group -/

theorem conUsuario_solo {u : Registrado} (hu : u.id ∈ G) : (C.solo G).conUsuario u = (C.conUsuario u).solo G := by
  refine Central.ext (funext fun k => ?_) rfl
  show Function.update (C.solo G).usuarios u.id (some u) k = if k ∈ G then Function.update C.usuarios u.id (some u) k else none
  by_cases hk : k = u.id
  · subst hk
    rw [Function.update_self, Function.update_self, if_pos hu]
  · rw [Function.update_of_ne hk, Function.update_of_ne hk]
    rfl

theorem conMensajes_solo (k : Cadena) (ms : List Mensaje) (m : Mensaje) :
    (C.solo G).conMensajes k ms m = (C.conMensajes k ms m).solo G := by
  refine Central.ext rfl ?_
  show (C.chats.filter fun c => c.a ∈ G ∧ c.b ∈ G).map (escribir k ms m) =
    (C.chats.map (escribir k ms m)).filter fun c => c.a ∈ G ∧ c.b ∈ G
  rw [List.filter_map]
  simp only [Function.comp_def, escribir_a, escribir_b]

theorem conChat_solo (hx : x ∈ G) (hy : y ∈ G) (m : Mensaje) : (C.solo G).conChat x y m = (C.conChat x y m).solo G := by
  have hchats : ∀ C : Central, (C.conChat x y m).chats =
      if (C.usuarios x).isSome ∧ (C.usuarios y).isSome ∧ C.entre x y = none then C.chats ++ [Chat.nuevo x y m]
      else C.chats := fun _ => rfl
  refine Central.ext rfl ?_
  show _ = (C.conChat x y m).chats.filter _
  rw [hchats, hchats, entre_solo hx hy, usuarios_solo hx, usuarios_solo hy]
  split
  · rw [List.filter_append, List.filter_singleton]
    simp [Chat.nuevo, hx, hy, solo]
  · rfl

theorem entregar_solo [LibC] (hx : x ∈ G) (hy : y ∈ G) (m : Mensaje) :
    (C.solo G).entregar x y m = sobre (solo G) (C.entregar x y m) := by
  rw [entregar, entregar, entre_solo hx hy]
  cases C.entre x y with
  | none =>
    dsimp only
    rw [sobre_ok, conChat_solo hx hy]
  | some c =>
    dsimp only
    rw [agregar, agregar]
    cases Conversacion.recargar c.mensajes with
    | error e => rfl
    | ok ms =>
      dsimp only
      rw [sobre_ok, conMensajes_solo]

/-! ### Updates outside of the group -/

theorem solo_conUsuario {u : Registrado} (hu : u.id ∉ G) : (C.conUsuario u).solo G = C.solo G := by
  refine Central.ext (funext fun k => ?_) rfl
  show (if k ∈ G then Function.update C.usuarios u.id (some u) k else none) = if k ∈ G then C.usuarios k else none
  split
  · rename_i hk
    have hne : k ≠ u.id := fun heq => hu (heq ▸ hk)
    exact Function.update_of_ne hne ..
  · rfl

theorem solo_entregar [LibC] (hx : x ∉ G) (m : Mensaje) : (final (C.entregar x y m)).solo G = C.solo G := by
  refine Central.ext (congrArg (fun f k => if k ∈ G then f k else none) (C.usuarios_entregar x y m)) ?_
  unfold entregar
  cases hxy : C.entre x y with
  | none =>
    rw [final_ok]
    show (if _ then _ else _ : List Chat).filter _ = C.chats.filter _
    split
    · rw [List.filter_append, List.filter_singleton]
      simp [Chat.nuevo, hx]
    · rfl
  | some c =>
    obtain ⟨hmem, hentre⟩ := entre_eq_some_iff.mp hxy
    dsimp only
    rw [agregar]
    cases Conversacion.recargar c.mensajes with
    | error e => rfl
    | ok ms =>
      rw [final_ok]
      show (C.chats.map (escribir c.id ms m)).filter _ = C.chats.filter _
      rw [List.filter_map]
      simp only [Function.comp_def, escribir_a, escribir_b]
      refine (List.map_congr_left fun c' hc' => ?_).trans (List.map_id _)
      -- the conversation that is written to is not one of the group
      obtain ⟨hc', hG⟩ := List.mem_filter.mp hc'
      obtain ⟨ha, hb⟩ : c'.a ∈ G ∧ c'.b ∈ G := by simpa using hG
      refine if_neg fun hid => ?_
      obtain ⟨ha', hb'⟩ := chat_id_inj hc' hid
      rw [ha'] at ha
      rw [hb'] at hb
      obtain ⟨rfl, -⟩ | ⟨-, rfl⟩ := hentre
      · exact hx ha
      · exact hx hb

end Solo

/-! ### Separated parts -/

section Separada
variable {G : Set Cadena} {C : Central} {x y : Cadena}

theorem separada_vacia (G : Set Cadena) : vacia.Separada G := fun _ h => by cases h

theorem separada_entregar [LibC] (hC : C.Separada G) (hxy : x ∈ G ↔ y ∈ G) (m : Mensaje) :
    (final (C.entregar x y m)).Separada G := by
  unfold entregar
  cases C.entre x y with
  | none =>
    rw [final_ok]
    intro c hc
    change c ∈ (if _ then _ else _ : List Chat) at hc
    split at hc
    · rcases List.mem_append.mp hc with hc | hc
      · exact hC c hc
      · rw [List.mem_singleton.mp hc]
        exact hxy
    · exact hC c hc
  | some c =>
    dsimp only
    rw [agregar]
    cases Conversacion.recargar c.mensajes with
    | error e => exact hC
    | ok ms =>
      intro c' hc'
      obtain ⟨c₀, hc₀, rfl⟩ := List.mem_map.mp hc'
      rw [escribir_a, escribir_b]
      exact hC c₀ hc₀

end Separada

end Central

/-! ## Requests within the group -/

/-- What the group sees of the central, with the answers. -/
def Mundo.solo (G : Set Cadena) [DecidablePred (· ∈ G)] (t : Mundo) : Mundo := ⟨t.central.solo G, t.salidas⟩

namespace Central

section Servicios
variable {G : Set Cadena} [DecidablePred (· ∈ G)] {C : Central} {p : Peticion}

theorem conUsuario_sustituye {k : Cadena} (hk : k ∈ G) {u v : Registrado} (hu : C.usuarios k = some u) (hv : v.id = u.id) :
    (C.solo G).conUsuario v = (C.conUsuario v).solo G :=
  conUsuario_solo (by rw [hv, C.claves k u hu]; exact hk)

theorem seguido_sobre (salida : Cadena) (r : EStateM.Result Excepcion Central PUnit) :
    seguido salida (sobre (solo G) r) = sobre (Mundo.solo G) (seguido salida r) := by
  cases r <;> rfl

section Usuarios
variable [LibC]

theorem registrarUsuario_solo (hk : md5 (getParametro p keyTelefono keyDefault) ∈ G) :
    (C.solo G).registrarUsuario p = sobre (Mundo.solo G) (C.registrarUsuario p) := by
  rw [registrarUsuario, registrarUsuario, usuarios_solo hk]
  cases C.usuarios (md5 (getParametro p keyTelefono keyDefault)) with
  | some u => rfl
  | none =>
    dsimp only
    rw [conUsuario_solo (u := .alta p) hk]
    rfl

theorem administrarPerfil_solo (hk : md5 (getParametro p keyTelefono keyDefault) ∈ G) :
    (C.solo G).administrarPerfil p = sobre (Mundo.solo G) (C.administrarPerfil p) := by
  rw [administrarPerfil, administrarPerfil, usuarios_solo hk]
  cases hu : C.usuarios (md5 (getParametro p keyTelefono keyDefault)) with
  | none => rfl
  | some u =>
    dsimp only
    rw [conUsuario_sustituye hk hu (v := u.conPerfil p) rfl]
    split <;> rfl

theorem consultarUsuarioOnline_solo (hk : ∀ k ∈ p.enUri urlBaseUsuario, k ∈ G) :
    (C.solo G).consultarUsuarioOnline p = sobre (Mundo.solo G) (C.consultarUsuarioOnline p) := by
  rw [consultarUsuarioOnline, consultarUsuarioOnline]
  rw [Peticion.enUri] at hk
  cases hid : idMetodoGET p urlBaseUsuario with
  | error e => rfl
  | ok telefono =>
    rw [hid] at hk
    have hk : md5 telefono ∈ G := hk _ List.mem_cons_self
    dsimp only
    rw [usuarios_solo hk]
    cases hu : C.usuarios (md5 telefono) with
    | none => rfl
    | some u =>
      dsimp only
      rw [conUsuario_sustituye hk hu (v := u.conConexion p) rfl]
      rfl

theorem obtenerContactos_solo (hk : ∀ k ∈ p.contactos, k ∈ G) :
    (C.solo G).obtenerContactos p = sobre (Mundo.solo G) (C.obtenerContactos p) := by
  rw [obtenerContactos, obtenerContactos]
  rw [Peticion.contactos] at hk
  cases hvec : getParametroVector p keyContantosTelefono with
  | error e => rfl
  | ok telefonos =>
    rw [hvec] at hk
    dsimp only
    rw [visibles_solo fun t ht => hk _ (List.mem_map_of_mem ht)]
    rfl

end Usuarios

theorem checkIn_solo [Aritmetica] (lugares : Value) (hk : md5 (getParametro p keyTelefono keyDefault) ∈ G) :
    (C.solo G).checkIn lugares p = sobre (Mundo.solo G) (C.checkIn lugares p) := by
  rw [checkIn, checkIn, usuarios_solo hk]
  cases hu : C.usuarios (md5 (getParametro p keyTelefono keyDefault)) with
  | none => rfl
  | some u =>
    dsimp only
    cases Localizacion.calcularUbicacion lugares (coordenadas p) with
    | error e => rfl
    | ok ubicacion =>
      dsimp only
      rw [conUsuario_sustituye hk hu (v := u.conLocalizacion (ubicacion ++ bytes " " ++ p.fechaYhora.val)) rfl]
      rfl

section Mensajes
variable [LibC]

theorem almacenarConversacion_solo (he : p.emisor ∈ G) (hr : p.receptor ∈ G) :
    (C.solo G).almacenarConversacion p = sobre (Mundo.solo G) (C.almacenarConversacion p) := by
  rw [almacenarConversacion, almacenarConversacion]
  change md5 (getParametro p keyIdUsuarioEmisor keyDefault) ∈ G at he
  change md5 (getParametro p keyIdUsuarioReceptor keyDefault) ∈ G at hr
  rw [usuarios_solo he, usuarios_solo hr]
  cases hue : C.usuarios (md5 (getParametro p keyIdUsuarioEmisor keyDefault)) with
  | none => rfl
  | some e =>
    cases hur : C.usuarios (md5 (getParametro p keyIdUsuarioReceptor keyDefault)) with
    | none => rfl
    | some r =>
      dsimp only
      rw [C.claves _ _ hue, C.claves _ _ hur, entregar_solo he hr, seguido_sobre]
      split <;> rfl

theorem difundir_solo {e : Cadena} (he : e ∈ G) (m : Mensaje) {t : Cadena} (ht : md5 t ∈ G) :
    (C.solo G).difundir e m t = sobre (solo G) (C.difundir e m t) := by
  rw [difundir, difundir, usuarios_solo ht]
  cases hu : (C.usuarios (md5 t)).filter (·.conectado) with
  | none => rfl
  | some u =>
    dsimp only
    rw [C.claves _ _ (Option.filter_eq_some_iff.mp hu).1, entregar_solo he ht]

theorem almacenarListaDifusion_solo (he : p.emisor ∈ G) (hk : ∀ k ∈ p.contactos, k ∈ G) :
    (C.solo G).almacenarListaDifusion p = sobre (Mundo.solo G) (C.almacenarListaDifusion p) := by
  rw [almacenarListaDifusion, almacenarListaDifusion]
  rw [Peticion.contactos] at hk
  cases hvec : getParametroVector p keyContantosTelefono with
  | error e => rfl
  | ok telefonos =>
    rw [hvec] at hk
    change md5 (getParametro p keyIdUsuarioEmisor keyDefault) ∈ G at he
    dsimp only
    rw [usuarios_solo he]
    cases hu : C.usuarios (md5 (getParametro p keyIdUsuarioEmisor keyDefault)) with
    | none => rfl
    | some e =>
      have hdifundir : ∀ m, (C.solo G).difundirTodos e.id m telefonos = sobre (solo G) (C.difundirTodos e.id m telefonos) := by
        intro m
        refine recorrer_sobre (I := fun _ => True) (fun t ht C' _ => ?_) (fun _ _ _ _ => trivial) trivial
        exact difundir_solo (by rw [C.claves _ _ hu]; exact he) m (hk _ (List.mem_map_of_mem ht))
      dsimp only
      rw [hdifundir, seguido_sobre]
      split <;> rfl

theorem obtenerIdConversacion_solo (he : md5 (getParametro p keyTelefonoEmisor keyDefault) ∈ G)
    (hr : md5 (getParametro p keyTelefonoReceptor keyDefault) ∈ G) :
    (C.solo G).obtenerIdConversacion p = sobre (Mundo.solo G) (C.obtenerIdConversacion p) := by
  rw [obtenerIdConversacion, obtenerIdConversacion, usuarios_solo he, usuarios_solo hr]
  cases hue : C.usuarios (md5 (getParametro p keyTelefonoEmisor keyDefault)) with
  | none => rfl
  | some e =>
    cases hur : C.usuarios (md5 (getParametro p keyTelefonoReceptor keyDefault)) with
    | none => rfl
    | some r =>
      dsimp only
      rw [C.claves _ _ hue, C.claves _ _ hur, entre_solo he hr]
      cases C.entre (md5 (getParametro p keyTelefonoEmisor keyDefault))
          (md5 (getParametro p keyTelefonoReceptor keyDefault)) with
      | none => rfl
      | some c =>
        dsimp only
        cases Conversacion.recargar c.mensajes <;> rfl

theorem obtenerConversacion_solo (hk : ∀ k, idMetodoGET p urlBaseConversacion = .ok k →
      ∀ u ∈ Conversacion.nombrados k, u ∈ G) :
    (C.solo G).obtenerConversacion p = sobre (Mundo.solo G) (C.obtenerConversacion p) := by
  rw [obtenerConversacion, obtenerConversacion]
  cases hid : idMetodoGET p urlBaseConversacion with
  | error e => rfl
  | ok k =>
    dsimp only
    rw [buscar_solo (hk k hid)]
    cases C.buscar k with
    | none => rfl
    | some c =>
      dsimp only
      cases Conversacion.recargar c.mensajes <;> rfl

theorem obtenerConversaciones_solo (hC : C.Separada G) (hk : ∀ k ∈ p.enUri urlBaseUsuarioConversaciones, k ∈ G) :
    (C.solo G).obtenerConversaciones p = sobre (Mundo.solo G) (C.obtenerConversaciones p) := by
  rw [obtenerConversaciones, obtenerConversaciones]
  cases getParametroVector p keyIdConversaciones with
  | error e => rfl
  | ok ids =>
    rw [Peticion.enUri] at hk
    dsimp only
    cases hid : idMetodoGET p urlBaseUsuarioConversaciones with
    | error e => rfl
    | ok telefono =>
      rw [hid] at hk
      have hk : md5 telefono ∈ G := hk _ List.mem_cons_self
      dsimp only
      rw [usuarios_solo hk]
      cases hu : C.usuarios (md5 telefono) with
      | none => rfl
      | some u =>
        have huG : u.id ∈ G := by
          rw [C.claves _ _ hu]
          exact hk
        dsimp only
        rw [leidos_solo hC huG]
        cases hleidos : C.leidos u.id ids with
        | error e => rfl
        | ok qs =>
          have hentradas : qs.map ((C.solo G).entrada u.id) = qs.map (C.entrada u.id) := by
            refine List.map_congr_left fun q hq => ?_
            obtain ⟨hmem, -⟩ := leido_ne_nil hleidos hq
            obtain ⟨hmem, hparticipa⟩ := List.mem_filter.mp hmem
            exact entrada_solo hC huG hmem (decide_eq_true_eq.mp hparticipa).1
          dsimp only
          rw [hentradas]
          rfl

end Mensajes

/-- **A request within the group does the same on its part.** -/
theorem servir_solo [Aritmetica] (hC : C.Separada G) (lugares : Value) (hp : p.De G) :
    (C.solo G).servir lugares p = sobre (Mundo.solo G) (C.servir lugares p) := by
  rw [Peticion.De, Peticion.nombrados] at hp
  rw [servir, servir]
  cases hruta : Servidor.parsearURI p with
  | prueba | invalido => rfl
  | registrarUsuario =>
    rw [hruta] at hp
    exact registrarUsuario_solo (hp _ List.mem_cons_self)
  | administrarPerfil =>
    rw [hruta] at hp
    exact administrarPerfil_solo (hp _ List.mem_cons_self)
  | checkinUsuario =>
    rw [hruta] at hp
    exact checkIn_solo lugares (hp _ List.mem_cons_self)
  | consultarUsuarioOnline =>
    rw [hruta] at hp
    exact consultarUsuarioOnline_solo hp
  | obtenerConversaciones =>
    rw [hruta] at hp
    exact obtenerConversaciones_solo hC hp
  | obtenerContactos =>
    rw [hruta] at hp
    exact obtenerContactos_solo hp
  | almacenarConversacion =>
    rw [hruta] at hp
    exact almacenarConversacion_solo (hp _ (by simp)) (hp _ (by simp))
  | almacenarListaDifusion =>
    rw [hruta] at hp
    exact almacenarListaDifusion_solo (hp _ List.mem_cons_self) fun k hk => hp k (List.mem_cons_of_mem _ hk)
  | obtenerIdConversacion =>
    rw [hruta] at hp
    exact obtenerIdConversacion_solo (hp _ (by simp)) (hp _ (by simp))
  | obtenerConversacion =>
    rw [hruta] at hp
    refine obtenerConversacion_solo fun k hk => ?_
    rw [hk] at hp
    exact hp

end Servicios

/-! ## Requests outside of the group -/

section Nombrados
variable [Aritmetica] {p : Peticion}

/-- The record that a request stores is one of a user that it names. -/
theorem Escribe.nombrado {C : Central} {lugares : Value} {u : Registrado} (h : Escribe C lugares p u) :
    u.id ∈ p.nombrados := by
  rw [Peticion.nombrados]
  cases h with
  | alta hp hnuevo =>
    rw [hp]
    exact List.mem_cons_self
  | perfil hp hu htoken =>
    rw [hp, ← C.claves _ _ hu]
    exact List.mem_cons_self
  | conexion hp hid hu =>
    rw [hp, Peticion.enUri, hid]
    dsimp only
    rw [← C.claves _ _ hu]
    exact List.mem_cons_self
  | localizacion hp hu hubicacion =>
    rw [hp, ← C.claves _ _ hu]
    exact List.mem_cons_self

/-- **What storing a user that is named and delivering between two of them preserve, a request preserves.** -/
theorem atender_nombrados {P : Central → Prop} (husuario : ∀ C u, u.id ∈ p.nombrados → P C → P (C.conUsuario u))
    (hentrega : ∀ C x y m, x ∈ p.nombrados → y ∈ p.nombrados → P C → P (final (C.entregar x y m))) {C : Central}
    (hC : P C) (lugares : Value) : P (C.atender lugares p).central := by
  by_cases henvia : p.Envia
  · obtain hp | hp := henvia
    · rcases C.atender_conversacion lugares hp with ⟨e, r, -, -, -, hatender⟩ | ⟨texto, hatender⟩
      · have hnombrados : p.nombrados = [p.emisor, p.receptor] := by rw [Peticion.nombrados, hp]
        rw [hatender, central_seguido]
        exact hentrega C _ _ _ (by simp [hnombrados]) (by simp [hnombrados]) hC
      · rw [hatender]
        exact hC
    · rcases C.atender_difusion lugares hp with ⟨telefonos, e, hvec, -, -, hatender⟩ | ⟨salidas, -, hatender⟩
      · have hnombrados : p.nombrados = p.emisor :: telefonos.map md5 := by
          rw [Peticion.nombrados, hp, Peticion.contactos, hvec]
        rw [hatender, central_seguido]
        refine recorrer_invariante (p := P) (fun t ht C' hC' => ?_) hC
        rw [difundir]
        cases hu : (C'.usuarios (md5 t)).filter (·.conectado) with
        | none => exact hC'
        | some u =>
          have hid : u.id = md5 t := C'.claves _ _ (Option.filter_eq_some_iff.mp hu).1
          refine hentrega C' _ _ _ (by simp [hnombrados]) ?_ hC'
          rw [hnombrados, hid]
          exact List.mem_cons_of_mem _ (List.mem_map_of_mem ht)
      · rw [hatender]
        exact hC
  · have hchats : (C.atender lugares p).central.chats = C.chats :=
      atender_induccion (P := fun C' => C'.chats = C.chats) (fun _ _ h => h)
        (fun _ _ _ h _ _ => absurd h henvia) rfl lugares
    rcases usuarios_atender C lugares p with ⟨u, hu⟩ | husuarios
    · rw [hu.central]
      exact husuario C u hu.nombrado hC
    · rw [Central.ext husuarios hchats]
      exact hC

variable {G : Set Cadena} {C : Central}

/-- Requests within the group and outside of it keep the two parts separate. -/
theorem separada_atender (hC : C.Separada G) (lugares : Value) (hp : p.De G ∨ p.De Gᶜ) :
    (C.atender lugares p).central.Separada G := by
  refine atender_nombrados (P := Separada G) (fun _ _ _ h => h) (fun C x y m hx hy h => ?_) hC lugares
  refine separada_entregar h ?_ m
  obtain hp | hp := hp
  · exact iff_of_true (hp x hx) (hp y hy)
  · exact iff_of_false (hp x hx) (hp y hy)

/-- **A request outside of the group leaves its part alone.** -/
theorem solo_atender [DecidablePred (· ∈ G)] (C : Central) (lugares : Value) (hp : p.De Gᶜ) :
    (C.atender lugares p).central.solo G = C.solo G :=
  atender_nombrados (P := fun C' => C'.solo G = C.solo G)
    (fun _ _ hu h => (solo_conUsuario (hp _ hu)).trans h)
    (fun _ _ _ m hx _ h => (solo_entregar (hp _ hx) m).trans h) rfl lugares

end Nombrados

end Central

end MensajeroX
