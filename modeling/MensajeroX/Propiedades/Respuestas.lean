import MensajeroX.Propiedades.Conversaciones

/-!
# Answers

How many answers a request gets, and what arrives of an answer.

A service that raises answers nothing. On a store without separators in its messages the only loads that can raise are
those of a broadcast that reaches a contact again: they read the message that the same broadcast has just stored.
`Conversacion.repetir` is what becomes of it.

* `acaba_difundirTodos` : when a broadcast ends;
* `respuesta_unica_iff` : **when a request is answered exactly once**;
* `respuesta_intacta_iff` : **an answer arrives as it was written exactly when its payload has no `%`**.
-/

namespace MensajeroX
open Bytes JsonCpp Separated BaseDeDatos Efectos Servicio

/-! ## Loading a message that was just stored -/

namespace Conversacion
variable [LibC]

theorem recargar_append (ms ms' : List Mensaje) :
    recargar (ms ++ ms') = do
      let r ← recargar ms
      let r' ← recargar ms'
      return r ++ r' := by
  rw [recargar_eq, recargar_eq, recargar_eq, List.flatMap_append, List.mapM_append]

theorem recargar_append_of_sinSeparador {ms : List Mensaje} (h : ∀ m ∈ ms, m.SinSeparador) (ms' : List Mensaje) :
    recargar (ms ++ ms') = (recargar ms').map (ms ++ ·) := by
  rw [recargar_append, recargar_of_sinSeparador h]
  cases recargar ms' <;> rfl

/-- The messages at the end of a conversation after `n` deliveries of `m`, each of which loads them first. -/
def repetir (m : Mensaje) : Nat → List Mensaje → Except Exn (List Mensaje)
  | 0, cola => .ok cola
  | n + 1, cola => do
    let cola ← recargar cola
    repetir m n (cola ++ [m])

end Conversacion

namespace Central
variable [LibC] {C : Central} {e : Cadena} {m : Mensaje} {base cola : Cadena → List Mensaje}

/-- A delivery of `e` to `r`, where the messages with everyone end in `cola`: the tail is loaded, and gets the message. -/
theorem entregar_cola (hbase : ∀ r, ∀ m' ∈ base r, m'.SinSeparador) (h : ∀ r, C.mensajes e r = base r ++ cola r)
    (he : (C.usuarios e).isSome) {r : Cadena} (hr : (C.usuarios r).isSome) :
    match Conversacion.recargar (cola r) with
    | .ok l => ∃ C', C.entregar e r m = .ok ⟨⟩ C' ∧
        ∀ r', C'.mensajes e r' = base r' ++ Function.update cola r (l ++ [m]) r'
    | .error ex => C.entregar e r m = .error (.json ex) C := by
  unfold entregar
  cases hentre : C.entre e r with
  | none =>
    have hnil : base r = [] ∧ cola r = [] := by
      rw [← List.append_eq_nil_iff, ← h r, mensajes, hentre]
      rfl
    have hvacia : Conversacion.recargar [] = .ok [] := Conversacion.recargar_of_sinSeparador (by simp)
    rw [hnil.2, hvacia]
    refine ⟨_, rfl, fun r' => ?_⟩
    rw [mensajes_conChat he hr hentre, h r']
    by_cases hr' : r' = r
    · subst hr'
      rw [if_pos (.refl _ _), Function.update_self, hnil.1, hnil.2]
      rfl
    · rw [if_neg (mt Par.right_iff.mp (Ne.symm hr')), Function.update_of_ne hr', List.append_nil]
  | some c =>
    have hc : c.mensajes = base r ++ cola r := by
      rw [← h r, mensajes, hentre]
      rfl
    dsimp only
    rw [agregar, hc, Conversacion.recargar_append_of_sinSeparador (hbase r)]
    cases Conversacion.recargar (cola r) with
    | error ex => rfl
    | ok l =>
      refine ⟨_, rfl, fun r' => ?_⟩
      rw [mensajes, entre_conMensajes hentre]
      by_cases hr' : r' = r
      · subst hr'
        rw [if_pos (.refl _ _), Function.update_self, ← List.append_assoc]
        rfl
      · rw [if_neg (mt Par.right_iff.mp (Ne.symm hr')), Function.update_of_ne hr', ← h r']
        rfl

/-- **When a broadcast ends**: the message can be delivered to every contact as often as the list reaches them. -/
theorem acaba_difundirTodos (cola : Cadena → List Mensaje) (hbase : ∀ r, ∀ m' ∈ base r, m'.SinSeparador)
    (h : ∀ r, C.mensajes e r = base r ++ cola r) (he : (C.usuarios e).isSome) (ts : List Cadena) :
    acaba (C.difundirTodos e m ts) = true ↔
      ∀ r, ∃ l, Conversacion.repetir m (ts.countP (C.alcanza e e r)) (cola r) = .ok l := by
  induction ts generalizing C cola with
  | nil => exact ⟨fun _ r => ⟨cola r, rfl⟩, fun _ => rfl⟩
  | cons t ts ih =>
    simp only [difundirTodos, recorrer, List.countP_cons]
    cases hu : (C.usuarios (md5 t)).filter (·.conectado) with
    | none =>
      have hturno : C.difundir e m t = .ok ⟨⟩ C := by rw [difundir, hu]
      have hno : ∀ r, C.alcanza e e r t = false := fun r => by rw [alcanza, hu]
      simp only [hturno, hno]
      exact ih _ h he
    | some u =>
      have hturno : C.difundir e m t = C.entregar e u.id m := by rw [difundir, hu]
      have halcanza : ∀ r, C.alcanza e e r t = true ↔ r = u.id := by
        intro r
        rw [alcanza, hu]
        exact decide_eq_true_iff.trans (Par.right_iff.trans eq_comm)
      have hr : (C.usuarios u.id).isSome := isSome_of_eq (Option.filter_eq_some_iff.mp hu).1
      have hentregar := entregar_cola (m := m) hbase h he hr
      simp only [hturno, halcanza]
      cases hrec : Conversacion.recargar (cola u.id) with
      | error ex =>
        simp only [hrec] at hentregar
        rw [hentregar]
        refine ⟨fun hacaba => (by cases hacaba), fun hcola => ?_⟩
        obtain ⟨l, hl⟩ := hcola u.id
        rw [if_pos rfl, Conversacion.repetir, hrec] at hl
        cases hl
      | ok l =>
        simp only [hrec] at hentregar
        obtain ⟨C', hC', hmensajes⟩ := hentregar
        have husuarios := usuarios_entregar C e u.id m
        rw [hC', final_ok] at husuarios
        rw [hC']
        refine (ih _ hmensajes (by rw [husuarios]; exact he)).trans (forall_congr' fun r => ?_)
        rw [alcanza_congr husuarios]
        by_cases hr' : r = u.id
        · subst hr'
          rw [if_pos rfl, Function.update_self, Conversacion.repetir, hrec]
          rfl
        · rw [if_neg hr', Function.update_of_ne hr']
          rfl

end Central

/-! ## Messages without separators -/

section SinNumeral
variable [LibC]

/-- No message that is stored contains the separator of lists, `'#'`. -/
def RocksDB.SinNumeral (db : RocksDB) : Prop :=
  ∀ k v, db.datos (claveBaseConversacion ++ k) = some v →
    ∃ ids ms, v = Conversacion.texto k ids ms ∧ ∀ m ∈ ms, m.SinSeparador

theorem Representa.sinNumeral_iff {C : Central} {d : Cadena → Option Cadena} (h : Representa C d) :
    RocksDB.SinNumeral { datos := d } ↔ C.Limpia := by
  constructor
  · intro hsin c hc
    have htexto : d (claveBaseConversacion ++ c.id) = some c.texto := by
      rw [h.chats, Central.buscar_eq_some_iff.mpr ⟨hc, rfl⟩]
      rfl
    obtain ⟨ids, ms, heq, hms⟩ := hsin c.id c.texto htexto
    rw [show c.mensajes = ms from Conversacion.texto_inj heq]
    exact hms
  · intro hC k v hv
    replace hv : d (claveBaseConversacion ++ k) = some v := hv
    rw [h.chats, Option.map_eq_some_iff] at hv
    obtain ⟨c, hc, rfl⟩ := hv
    obtain ⟨hmem, rfl⟩ := Central.buscar_eq_some_iff.mp hc
    exact ⟨[c.a, c.b], c.mensajes, rfl, hC c hmem⟩

end SinNumeral

/-! ## One answer -/

namespace Servidor
variable [Aritmetica]

/-- What a request needs to be answered. The services that take their argument from the URI copy it into an array, those
that take a list read it as JSON, a check-in looks the place up, a broadcast loads what it stores, and the list of
conversations is for registered users. -/
def Atendible (lugares : Value) (db : RocksDB) (p : Peticion) : Prop :=
  match parsearURI p with
  | .prueba => False
  | .consultarUsuarioOnline => ∃ telefono, idMetodoGET p urlBaseUsuario = .ok telefono
  | .obtenerConversacion => ∃ k, idMetodoGET p urlBaseConversacion = .ok k
  | .obtenerConversaciones =>
    (∃ ids, getParametroVector p keyIdConversaciones = .ok ids) ∧
      ∃ telefono, idMetodoGET p urlBaseUsuarioConversaciones = .ok telefono ∧ db.tieneUsuario (md5 telefono)
  | .obtenerContactos => ∃ telefonos, getParametroVector p keyContantosTelefono = .ok telefonos
  | .almacenarListaDifusion =>
    ∃ telefonos, getParametroVector p keyContantosTelefono = .ok telefonos ∧
      (db.tieneUsuario p.emisor → db.tokenDe p.emisor = getParametro p keyTokenSesion keyDefault →
        ∀ r, ∃ l, Conversacion.repetir p.mensaje (telefonos.countP (alcanza db p.emisor p.emisor r)) [] = .ok l)
  | .checkinUsuario =>
    db.tieneUsuario (md5 (getParametro p keyTelefono keyDefault)) →
      ∃ ubicacion, Localizacion.calcularUbicacion lugares (coordenadas p) = .ok ubicacion
  | _ => True

end Servidor

section Unica
variable [Aritmetica] {C : Central} {d : Cadena → Option Cadena} {lugares : Value} {p : Peticion}

omit [Aritmetica] in
theorem Central.salidas_seguido (salida : Cadena) (r : EStateM.Result Excepcion Central PUnit) :
    (final (seguido salida r)).salidas.length = 1 ↔ acaba r = true := by
  cases r with
  | ok a C => exact ⟨fun _ => rfl, fun _ => rfl⟩
  | error e C => exact ⟨fun h => (by cases h), fun h => (by cases h)⟩

theorem Representa.salidas_difusion (h : Representa C d) (hC : C.Limpia)
    (hp : Servidor.parsearURI p = .almacenarListaDifusion) :
    (C.atender lugares p).salidas.length = 1 ↔ Servidor.Atendible lugares { datos := d } p := by
  have hruta : C.atender lugares p = final (C.almacenarListaDifusion p) := by
    simp only [Central.atender, Central.servir, hp]
  simp only [Servidor.Atendible, hp, h.tieneUsuario, h.alcanza]
  rw [hruta, Central.almacenarListaDifusion]
  cases hvec : getParametroVector p keyContantosTelefono with
  | error ex =>
    refine ⟨fun hlen => (by cases hlen), ?_⟩
    rintro ⟨_, hok, _⟩
    cases hok
  | ok telefonos =>
    have hemisor : p.emisor = md5 (getParametro p keyIdUsuarioEmisor keyDefault) := rfl
    dsimp only
    rw [← hemisor]
    cases he : C.usuarios p.emisor with
    | none => exact ⟨fun _ => ⟨telefonos, rfl, fun hsome => (by cases hsome)⟩, fun _ => rfl⟩
    | some e =>
      dsimp only
      rw [h.tokenDe he]
      by_cases htoken : e.token = getParametro p keyTokenSesion keyDefault
      · rw [if_neg (not_not.mpr htoken), Central.salidas_seguido, Central.mensajeDe_eq he, C.claves _ _ he,
          Central.acaba_difundirTodos (fun _ => []) ?_ (fun r => (List.append_nil _).symm) (by rw [he]; rfl)]
        · constructor
          · exact fun hcola => ⟨telefonos, rfl, fun _ _ => hcola⟩
          · rintro ⟨_, hok, hcola⟩
            cases hok
            exact hcola rfl htoken
        · intro r m hm
          rw [Central.mensajes] at hm
          cases hentre : C.entre p.emisor r with
          | none =>
            rw [hentre] at hm
            cases hm
          | some c =>
            rw [hentre] at hm
            exact hC c (Central.entre_eq_some_iff.mp hentre).1 m hm
      · rw [if_pos htoken]
        exact ⟨fun _ => ⟨telefonos, rfl, fun _ hok => absurd hok htoken⟩, fun _ => rfl⟩

omit [Aritmetica] in
theorem Central.salidas_obtenerIdConversacion [LibC] (C : Central) (hC : C.Limpia) (p : Peticion) :
    (final (C.obtenerIdConversacion p)).salidas.length = 1 := by
  unfold obtenerIdConversacion
  split
  · rename_i e r he hr
    cases hentre : C.entre e.id r.id with
    | none => rfl
    | some c =>
      dsimp only
      rw [Conversacion.recargar_of_sinSeparador (hC c (entre_eq_some_iff.mp hentre).1)]
      rfl
  · rfl

omit [Aritmetica] in
theorem Central.salidas_obtenerConversacion [LibC] (C : Central) (hC : C.Limpia) (p : Peticion) :
    (final (C.obtenerConversacion p)).salidas.length = 1 ↔ ∃ k, idMetodoGET p urlBaseConversacion = .ok k := by
  unfold obtenerConversacion
  cases idMetodoGET p urlBaseConversacion with
  | error ex => exact ⟨fun hlen => (by cases hlen), fun ⟨_, hok⟩ => (by cases hok)⟩
  | ok k =>
    refine ⟨fun _ => ⟨k, rfl⟩, fun _ => ?_⟩
    dsimp only
    cases hc : C.buscar k with
    | none => rfl
    | some c =>
      dsimp only
      rw [Conversacion.recargar_of_sinSeparador (hC c (buscar_eq_some_iff.mp hc).1)]
      rfl

/-- The list of conversations is answered when its parameters can be read and the user is registered. -/
theorem Central.salidas_obtenerConversaciones (C : Central) (hC : C.Limpia) (p : Peticion) :
    (final (C.obtenerConversaciones p)).salidas.length = 1 ↔
      (∃ ids, getParametroVector p keyIdConversaciones = .ok ids) ∧
        ∃ telefono, idMetodoGET p urlBaseUsuarioConversaciones = .ok telefono ∧
          (C.usuarios (md5 telefono)).isSome := by
  unfold obtenerConversaciones
  cases getParametroVector p keyIdConversaciones with
  | error ex => exact ⟨fun hlen => (by cases hlen), fun ⟨⟨_, hok⟩, _⟩ => (by cases hok)⟩
  | ok ids =>
    dsimp only
    cases idMetodoGET p urlBaseUsuarioConversaciones with
    | error ex => exact ⟨fun hlen => (by cases hlen), fun ⟨_, _, hok, _⟩ => (by cases hok)⟩
    | ok telefono =>
      dsimp only
      cases hu : C.usuarios (md5 telefono) with
      | none =>
        refine ⟨fun hlen => (by cases hlen), fun ⟨_, t, hok, hsome⟩ => ?_⟩
        cases hok
        rw [hu] at hsome
        cases hsome
      | some u =>
        dsimp only
        obtain ⟨qs, hqs⟩ := exists_leidos_iff.mpr fun c hc _ _ => ⟨_, Conversacion.recargar_of_sinSeparador (hC c hc)⟩
        rw [hqs]
        exact ⟨fun _ => ⟨⟨ids, rfl⟩, telefono, rfl, by rw [hu]; rfl⟩, fun _ => rfl⟩

omit [Aritmetica] in
/-- A question for the state of a user is answered when its telephone can be read. -/
theorem Central.salidas_consultarUsuarioOnline [LibC] (C : Central) (p : Peticion) :
    (final (C.consultarUsuarioOnline p)).salidas.length = 1 ↔
      ∃ telefono, idMetodoGET p urlBaseUsuario = .ok telefono := by
  unfold consultarUsuarioOnline
  cases idMetodoGET p urlBaseUsuario with
  | error ex =>
    refine ⟨fun hlen => (by cases hlen), ?_⟩
    rintro ⟨_, hok⟩
    cases hok
  | ok telefono =>
    refine ⟨fun _ => ⟨telefono, rfl⟩, fun _ => ?_⟩
    dsimp only
    split <;> rfl

/-- A check-in is answered when its user is unknown, or its place can be found. -/
theorem Central.salidas_checkIn (C : Central) (lugares : Value) (p : Peticion) :
    (final (C.checkIn lugares p)).salidas.length = 1 ↔
      ((C.usuarios (md5 (getParametro p keyTelefono keyDefault))).isSome →
        ∃ ubicacion, Localizacion.calcularUbicacion lugares (coordenadas p) = .ok ubicacion) := by
  unfold checkIn
  cases C.usuarios (md5 (getParametro p keyTelefono keyDefault)) with
  | none => exact ⟨fun _ hsome => (by cases hsome), fun _ => rfl⟩
  | some u =>
    dsimp only
    cases Localizacion.calcularUbicacion lugares (coordenadas p) with
    | error ex => exact ⟨fun hlen => (by cases hlen), fun hok => (by cases (hok rfl).choose_spec)⟩
    | ok ubicacion => exact ⟨fun _ _ => ⟨ubicacion, rfl⟩, fun _ => rfl⟩

omit [Aritmetica] in
/-- The list of contacts is answered when its parameter can be read. -/
theorem Central.salidas_obtenerContactos [LibC] (C : Central) (p : Peticion) :
    (final (C.obtenerContactos p)).salidas.length = 1 ↔
      ∃ telefonos, getParametroVector p keyContantosTelefono = .ok telefonos := by
  unfold obtenerContactos
  cases getParametroVector p keyContantosTelefono with
  | error ex =>
    refine ⟨fun hlen => (by cases hlen), ?_⟩
    rintro ⟨_, hok⟩
    cases hok
  | ok telefonos => exact ⟨fun _ => ⟨telefonos, rfl⟩, fun _ => rfl⟩

/-- A message is answered always: it is delivered, or it is refused. -/
theorem Central.salidas_conversacion (C : Central) (hC : C.Limpia) (lugares : Value) {p : Peticion}
    (hp : Servidor.parsearURI p = .almacenarConversacion) : (C.atender lugares p).salidas.length = 1 := by
  rcases C.atender_conversacion lugares hp with ⟨e, r, he, hr, -, henvio⟩ | ⟨texto, henvio⟩
  · obtain ⟨C', hentregar, -⟩ := mensajes_entregar hC (by rw [he]; rfl) (by rw [hr]; rfl) p.mensaje
    rw [henvio, hentregar]
    rfl
  · rw [henvio]
    rfl

/-- **When a request is answered exactly once.** -/
theorem respuesta_unica_iff (lugares : Value) {ps : List Peticion}
    (hsin : (Servidor.ejecutar lugares .vacia ps).SinNumeral) (p : Peticion) :
    (Servidor.atender lugares (Servidor.ejecutar lugares .vacia ps) p).salidas.length = 1 ↔
      Servidor.Atendible lugares (Servidor.ejecutar lugares .vacia ps) p := by
  obtain ⟨d, hdb, h⟩ := ejecutar_vacia lugares ps
  obtain ⟨d', hatender, -⟩ := h.atender lugares p
  rw [hdb] at hsin ⊢
  have hC := h.sinNumeral_iff.mp hsin
  rw [hatender]
  generalize Central.vacia.ejecutar lugares ps = C at h hC
  show (C.atender lugares p).salidas.length = 1 ↔ _
  cases hp : Servidor.parsearURI p with
  | almacenarListaDifusion => exact h.salidas_difusion hC hp
  | prueba =>
    simp only [Servidor.Atendible, Central.atender, Central.servir, hp, final_ok]
    exact ⟨fun hlen => (by cases hlen), False.elim⟩
  | invalido =>
    simp only [Servidor.Atendible, Central.atender, Central.servir, hp, final_ok]
    exact ⟨fun _ => trivial, fun _ => rfl⟩
  | registrarUsuario =>
    simp only [Servidor.Atendible, Central.atender, Central.servir, hp, iff_true]
    unfold Central.registrarUsuario
    split <;> rfl
  | administrarPerfil =>
    simp only [Servidor.Atendible, Central.atender, Central.servir, hp, iff_true]
    unfold Central.administrarPerfil
    split
    · split <;> rfl
    · rfl
  | almacenarConversacion =>
    simp only [Servidor.Atendible, hp, iff_true]
    exact C.salidas_conversacion hC lugares hp
  | consultarUsuarioOnline =>
    simp only [Servidor.Atendible, Central.atender, Central.servir, hp]
    exact C.salidas_consultarUsuarioOnline p
  | checkinUsuario =>
    simp only [Servidor.Atendible, Central.atender, Central.servir, hp, h.tieneUsuario]
    exact C.salidas_checkIn lugares p
  | obtenerIdConversacion =>
    simp only [Servidor.Atendible, Central.atender, Central.servir, hp, iff_true]
    exact C.salidas_obtenerIdConversacion hC p
  | obtenerConversacion =>
    simp only [Servidor.Atendible, Central.atender, Central.servir, hp]
    exact C.salidas_obtenerConversacion hC p
  | obtenerConversaciones =>
    simp only [Servidor.Atendible, Central.atender, Central.servir, hp, h.tieneUsuario]
    exact C.salidas_obtenerConversaciones hC p
  | obtenerContactos =>
    simp only [Servidor.Atendible, Central.atender, Central.servir, hp]
    exact C.salidas_obtenerContactos p

end Unica

section Charla
attribute [local instance] Aritmetica.nula

theorem sinNumeral_charla : (Servidor.ejecutar .null .vacia charla).SinNumeral := by
  obtain ⟨d, hdb, h⟩ := ejecutar_vacia .null charla
  rw [hdb]
  exact h.sinNumeral_iff.mpr (Central.limpia_ejecutar (Central.todos_vacia _) charla_limpia .null)

theorem respuesta_unica_charla :
    (Servidor.atender .null (Servidor.ejecutar .null .vacia charla) listaCharla).salidas.length = 1 := by
  exact (respuesta_unica_iff .null sinNumeral_charla listaCharla).mpr
    ⟨⟨_, vector_listaCharla⟩, bytes "1", rfl, almacen_charla.1 _ List.mem_cons_self⟩

/-- A user that is not registered gets no answer to a request for their conversations. -/
theorem sin_respuesta_listaCharla :
    Servidor.parsearURI listaCharla = .obtenerConversaciones ∧
    (∃ ids, getParametroVector listaCharla keyIdConversaciones = .ok ids) ∧
    RocksDB.vacia.SinNumeral ∧
    (Servidor.atender .null (Servidor.ejecutar .null .vacia []) listaCharla).salidas = [] :=
  ⟨rfl, ⟨_, vector_listaCharla⟩, fun _ _ hv => (by cases hv), by decide +kernel⟩

end Charla

/-! ## What arrives of an answer -/

section Envio

theorem length_printf {formato salida : Cadena} (h : printf formato = some salida) :
    salida.length ≤ formato.length := by
  fun_induction printf formato generalizing salida with
  | case1 =>
    cases h
    exact Nat.le_refl _
  | case2 => cases h
  | case3 =>
    cases h
    exact Nat.le_refl _
  | case4 formato ih =>
    obtain ⟨resto, hresto, rfl⟩ := Option.map_eq_some_iff.mp h
    have := ih hresto
    simp only [List.length_cons]
    omega
  | case5 => cases h
  | case6 c c' formato _ ih =>
    obtain ⟨resto, hresto, rfl⟩ := Option.map_eq_some_iff.mp h
    have := ih hresto
    simp only [List.length_cons] at this ⊢
    omega

/-- The texts that `printf` writes as they are. A doubled `%` is written once, so it shortens the text. -/
theorem printf_eq_self_iff (formato : Cadena) : printf formato = some formato ↔ 0x25 ∉ formato := by
  fun_induction printf formato with
  | case1 => simp
  | case2 => simp
  | case3 c hc => simp [Ne.symm hc]
  | case4 formato ih =>
    refine ⟨fun h => ?_, fun h => absurd List.mem_cons_self h⟩
    obtain ⟨resto, hresto, heq⟩ := Option.map_eq_some_iff.mp h
    have hlen := length_printf hresto
    rw [(List.cons.inj heq).2, List.length_cons] at hlen
    omega
  | case5 => simp_all
  | case6 c c' formato hc ih =>
    rw [List.mem_cons, not_or, ← ih, Option.map_eq_some_iff]
    constructor
    · rintro ⟨resto, hresto, heq⟩
      rw [(List.cons.inj heq).2] at hresto
      exact ⟨Ne.symm hc, hresto⟩
    · rintro ⟨-, h⟩
      exact ⟨_, h, rfl⟩

/-- `%` is not escaped and not part of the layout. -/
theorem porcentaje_transparent : Transparent 0x25 where
  escape := forall_byte (by decide)
  layout := by decide +kernel

variable [LibC]

theorem porcentaje_mem_respuesta (mensaje : Cadena) (success : Bool) :
    0x25 ∈ respuesta mensaje success ↔ 0x25 ∈ mensaje := by
  have hnombres : (0x25 : UInt8) ∉ keyPayload ∧ (0x25 : UInt8) ∉ keySuccess := by decide
  have hsuccess : ∀ b : Bool, (0x25 : UInt8) ∉ if b then bytes "true" else bytes "false" := by decide
  have hmem := porcentaje_transparent.mem_toStyledString (respuesta_flat mensaje success)
  refine Iff.trans hmem ?_
  simp only [List.mem_cons, List.not_mem_nil, or_false, exists_eq_or_imp, exists_eq_left, leafText, hnombres,
    hsuccess success, false_or]

/-- **An answer arrives as it was written exactly when its payload has no `%`**: then the bytes are the text of the
answer, and reading them gives the payload and the outcome. -/
theorem respuesta_intacta_iff (mensaje : Cadena) (success : Bool) :
    (∃ salida, enviado (respuesta mensaje success) = some salida ∧ salida = respuesta mensaje success ∧
      parse salida = .ok (true, .object [(keyPayload, .string mensaje),
        (keySuccess, .string (if success then bytes "true" else bytes "false"))])) ↔ 0x25 ∉ mensaje := by
  have hcstr : cstr (respuesta mensaje success) = respuesta mensaje success :=
    cstr_of_not_mem (zero_not_mem_toStyledString (respuesta_flat mensaje success))
  rw [← porcentaje_mem_respuesta mensaje success, ← printf_eq_self_iff, enviado, hcstr]
  constructor
  · rintro ⟨salida, hsalida, rfl, -⟩
    exact hsalida
  · intro h
    exact ⟨_, h, rfl, parse_respuesta mensaje success⟩

end Envio

section Alterada
attribute [local instance] Aritmetica.nula

/-- A payload with a doubled `%` loses one, and one with a conversion is undefined. -/
theorem respuesta_alterada :
    enviado (respuesta (bytes "50%%") true) = some (respuesta (bytes "50%") true) ∧
    enviado (respuesta (bytes "50%") true) = none := by
  constructor <;> decide +kernel

end Alterada

end MensajeroX
