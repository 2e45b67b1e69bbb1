import MensajeroX.Propiedades.Difusion

/-!
# The recipients of a broadcast

A broadcast has a turn for every element of its list. Seen from the conversation of the sender with one user, the turns of
that user are deliveries to it, one after the other (`Recibe`), and the other turns do not touch it. Every load gives at
least as many messages as were stored, so the number of messages (`Chat.largo`) tells how many deliveries there were.

* `recibe_difundirTodos` : the loop of a broadcast, seen from a conversation;
* `difunde_una_vez_iff` : **when a broadcast reaches each recipient once**.
-/

namespace MensajeroX
open Bytes JsonCpp BaseDeDatos Efectos Servicio

/-! ## Deliveries to one conversation -/

section Recibe
variable [LibC]

/-- `n` deliveries of `x` to `y`, seen from their conversation. -/
inductive Recibe (x y : Cadena) (m : Mensaje) : Nat → Option Chat → Option Chat → Prop
  | nada (c : Option Chat) : Recibe x y m 0 c c
  | otra {n : Nat} {c c'' : Option Chat} {c' : Chat} :
    Central.recibido x y m c = .ok c' → Recibe x y m n (some c') c'' → Recibe x y m (n + 1) c c''

def Chat.largo (c : Chat) : Nat := (c.mensajes.map fun m => (Conversacion.piezas m).length).sum

theorem Chat.largo_lt_of_recibido {x y : Cadena} {m : Mensaje} {c c' : Chat}
    (h : Central.recibido x y m (some c) = .ok c') : c.largo < c'.largo := by
  obtain ⟨ms, hms, rfl⟩ := Central.recibido_some h
  have hle := Conversacion.length_le_sum_piezas (ms ++ [m])
  rw [List.length_append, List.length_singleton, Conversacion.length_recargar hms] at hle
  exact hle

namespace Recibe
variable {x y : Cadena} {m : Mensaje} {n : Nat}

theorem of_zero {c c' : Option Chat} (h : Recibe x y m 0 c c') : c' = c := by
  cases h
  rfl

theorem of_succ {c c'' : Option Chat} (h : Recibe x y m (n + 1) c c'') :
    ∃ c', Central.recibido x y m c = .ok c' ∧ Recibe x y m n (some c') c'' := by
  cases h with
  | otra hc' hresto => exact ⟨_, hc', hresto⟩

/-- Deliveries keep the id of a conversation, and make it longer by at least their number. -/
theorem of_some {c : Chat} {z : Option Chat} (h : Recibe x y m n (some c) z) :
    ∃ c', z = some c' ∧ c'.id = c.id ∧ c.largo + n ≤ c'.largo := by
  generalize hc : some c = z₀ at h
  induction h generalizing c with
  | nada => exact ⟨c, hc.symm, rfl, le_rfl⟩
  | otra hrecibido _ ih =>
    subst hc
    obtain ⟨c', rfl, hid, hlargo⟩ := ih rfl
    have hlt := Chat.largo_lt_of_recibido hrecibido
    obtain ⟨ms, -, rfl⟩ := Central.recibido_some hrecibido
    exact ⟨c', rfl, hid, by omega⟩

end Recibe

end Recibe

/-! ## The loop of a broadcast -/

namespace Central
variable [LibC]

/-- The ids of the users that a broadcast reaches, one for each turn. -/
def alcanzados (C : Central) (ts : List Cadena) : List Cadena := (C.visibles ts).map fun u => u.id

omit [LibC] in
theorem alcanzados_eq (C : Central) (ts : List Cadena) :
    C.alcanzados ts = ((C.visibles ts).map fun u => u.telefono).map md5 := by
  rw [alcanzados, List.map_map]
  exact List.map_congr_left fun u _ => u.id_eq

omit [LibC] in
theorem alcanzados_cons (C : Central) (t : Cadena) (ts : List Cadena) :
    C.alcanzados (t :: ts) = C.alcanzados [t] ++ C.alcanzados ts := by
  rw [alcanzados, visibles, ← List.singleton_append, List.filterMap_append, List.map_append]
  rfl

theorem difundir_casos (C : Central) (e : Cadena) (m : Mensaje) (t : Cadena) :
    (C.alcanzados [t] = [] ∧ C.difundir e m t = .ok ⟨⟩ C) ∨
    ∃ u, (C.usuarios u).isSome ∧ C.alcanzados [t] = [u] ∧ C.difundir e m t = C.entregar e u m := by
  unfold alcanzados visibles difundir
  rw [List.filterMap_cons, List.filterMap_nil]
  cases hu : (C.usuarios (md5 t)).filter (·.conectado) with
  | none => exact .inl ⟨rfl, rfl⟩
  | some u => exact .inr ⟨u.id, isSome_of_eq (Option.filter_eq_some_iff.mp hu).1, rfl, rfl⟩

theorem difundirTodos_cons {C C₁ : Central} {e : Cadena} {m : Mensaje} {t : Cadena}
    (h : C.difundir e m t = .ok ⟨⟩ C₁) (ts : List Cadena) :
    C.difundirTodos e m (t :: ts) = C₁.difundirTodos e m ts ∧ C₁.usuarios = C.usuarios := by
  have husuarios := C.usuarios_difundir e m t
  rw [h] at husuarios
  exact ⟨by rw [difundirTodos, recorrer, h]; rfl, husuarios⟩

omit [LibC] in
theorem alcanzados_congr {C C' : Central} (h : C'.usuarios = C.usuarios) (ts : List Cadena) :
    C'.alcanzados ts = C.alcanzados ts := by
  rw [alcanzados, visibles, h]
  rfl

/-- **The loop of a broadcast, seen from a conversation** of the sender, and from the other ones. -/
theorem recibe_difundirTodos {C C' : Central} {e : Cadena} (he : (C.usuarios e).isSome) {m : Mensaje} {ts : List Cadena}
    (h : C.difundirTodos e m ts = .ok ⟨⟩ C') :
    (∀ v, Recibe e v m ((C.alcanzados ts).count v) (C.entre e v) (C'.entre e v)) ∧
    ∀ a b, (∀ u ∈ C.alcanzados ts, ¬ Par e u a b) → C'.entre a b = C.entre a b := by
  induction ts generalizing C with
  | nil =>
    cases h
    exact ⟨fun v => .nada _, fun _ _ _ => rfl⟩
  | cons t ts ih =>
    rw [alcanzados_cons]
    rcases C.difundir_casos e m t with ⟨hnadie, hturno⟩ | ⟨u, hu, halcanza, hturno⟩
    · rw [(difundirTodos_cons hturno ts).1] at h
      rw [hnadie]
      exact ih he h
    · cases hentregar : C.entregar e u m with
      | error ex C₁ =>
        rw [difundirTodos, recorrer, hturno, hentregar] at h
        cases h
      | ok a C₁ =>
        obtain ⟨c, hc, hentre⟩ := entregar_eq_ok he hu hentregar
        obtain ⟨hresto, husuarios⟩ := difundirTodos_cons (hturno.trans hentregar) ts
        rw [hresto] at h
        obtain ⟨hrecibe, hdemas⟩ := ih (by rw [husuarios]; exact he) h
        rw [alcanzados_congr husuarios] at hrecibe hdemas
        rw [halcanza]
        constructor
        · intro v
          have hv := hrecibe v
          rw [hentre] at hv
          by_cases huv : u = v
          · subst huv
            rw [if_pos (.refl _ _)] at hv
            rw [List.singleton_append, List.count_cons_self]
            exact .otra hc hv
          · rw [if_neg (Par.right_iff.not.mpr huv)] at hv
            rwa [List.singleton_append, List.count_cons_of_ne huv]
        · intro a b hno
          rw [hdemas a b fun w hw => hno w (List.mem_append_right _ hw), hentre,
            if_neg (hno u (List.mem_append_left _ List.mem_cons_self))]

/-- A broadcast whose users have conversations that can be loaded, and are all different, does not raise. -/
theorem exists_difundirTodos {C : Central} {e : Cadena} (he : (C.usuarios e).isSome) {m : Mensaje} {ts : List Cadena}
    (hnodup : (C.alcanzados ts).Nodup)
    (hcarga : ∀ u ∈ C.alcanzados ts, ∃ c, recibido e u m (C.entre e u) = .ok c) :
    ∃ C', C.difundirTodos e m ts = .ok ⟨⟩ C' := by
  induction ts generalizing C with
  | nil => exact ⟨C, rfl⟩
  | cons t ts ih =>
    rw [alcanzados_cons] at hnodup hcarga
    rcases C.difundir_casos e m t with ⟨hnadie, hturno⟩ | ⟨u, hu, halcanza, hturno⟩
    · rw [hnadie, List.nil_append] at hnodup hcarga
      rw [(difundirTodos_cons hturno ts).1]
      exact ih he hnodup hcarga
    · rw [halcanza, List.singleton_append] at hnodup hcarga
      obtain ⟨hfresco, hresto⟩ := List.nodup_cons.mp hnodup
      obtain ⟨c, hc⟩ := hcarga u List.mem_cons_self
      rcases entregar_casos he hu m with ⟨_, C₁, -, hentregar, hentre⟩ | ⟨ex, herror, -⟩
      · obtain ⟨hlazo, husuarios⟩ := difundirTodos_cons (hturno.trans hentregar) ts
        rw [hlazo]
        refine ih (by rw [husuarios]; exact he) (by rwa [alcanzados_congr husuarios]) fun v hv => ?_
        rw [alcanzados_congr husuarios] at hv
        have huv : u ≠ v := fun huv => hfresco (huv ▸ hv)
        rw [hentre, if_neg (Par.right_iff.not.mpr huv)]
        exact hcarga v (List.mem_cons_of_mem _ hv)
      · rw [hc] at herror
        cases herror

omit [LibC] in
/-- A conversation is under its id when it is the one of its participants. -/
theorem buscar_eq_some_iff_entre {C : Central} {k : Cadena} {c : Chat} :
    C.buscar k = some c ↔ C.entre c.a c.b = some c ∧ c.id = k := by
  rw [buscar_eq_some_iff, entre_eq_some_iff]
  exact and_congr_left' (and_iff_left (.refl _ _)).symm

omit [LibC] in
/-- Conversations that are the same for a pair are the same under its ids. -/
theorem buscar_congr {C C' : Central} {k : Cadena}
    (h : ∀ a b, a ++ Conversacion.guion :: b = k → C'.entre a b = C.entre a b) : C'.buscar k = C.buscar k := by
  ext c
  rw [buscar_eq_some_iff_entre, buscar_eq_some_iff_entre]
  exact and_congr_left fun hid => by rw [h c.a c.b hid]

end Central

/-! ## The stores before and after -/

namespace Servidor
variable [LibC]

/-- A registered and connected user whose telephone is in the list. -/
def Destinatario (db : RocksDB) (telefonos : List Cadena) (u : Usuario) : Prop :=
  db.usuarioDe u.id = some u ∧ u.conectado = true ∧ u.telefono ∈ telefonos

/-- From `db` to `db'` the conversation of `x` and `y`, under one of its two ids, gets the message once. A conversation
that is not stored has no messages. -/
def AgregaUnaVez (db db' : RocksDB) (x y : Cadena) (m : Mensaje) : Prop :=
  ∃ a b, Par a b x y ∧ db.carga (a ++ Conversacion.guion :: b) = true ∧
    db'.datos (claveBaseConversacion ++ (a ++ Conversacion.guion :: b)) =
      some (Conversacion.texto (a ++ Conversacion.guion :: b) [a, b]
        (bitacora db.datos (a ++ Conversacion.guion :: b) ++ [m])) ∧
    (a ≠ b → db.tieneConversacion (b ++ Conversacion.guion :: a) = false ∧
      db'.tieneConversacion (b ++ Conversacion.guion :: a) = false)

end Servidor

/-- The broadcast is answered, its message gets once into the conversation of the sender with every recipient, and no
other conversation changes. -/
structure Servidor.DifundeUnaVez [Aritmetica] (lugares : Value) (db : RocksDB) (p : Peticion) (telefonos : List Cadena) :
    Prop where
  respuesta : (atender lugares db p).salidas = [respuesta (bytes "Lista de difusion enviada correctamente") true]
  destinatarios : ∀ u, Destinatario db telefonos u →
    AgregaUnaVez db (atender lugares db p).db p.emisor u.id p.mensaje
  demas : ∀ k, (∀ u, Destinatario db telefonos u →
      k ≠ p.emisor ++ Conversacion.guion :: u.id ∧ k ≠ u.id ++ Conversacion.guion :: p.emisor) →
    (atender lugares db p).db.datos (claveBaseConversacion ++ k) = db.datos (claveBaseConversacion ++ k)

section Almacenes
variable [LibC] {C C' : Central} {d d' : Cadena → Option Cadena} {x y : Cadena} {m : Mensaje}

omit [LibC] in
theorem Central.buscar_otro {c : Chat} (hc : C.entre x y = some c) (hne : c.a ≠ c.b) :
    C.buscar (c.b ++ Conversacion.guion :: c.a) = none := by
  obtain ⟨hmem, hentre⟩ := entre_eq_some_iff.mp hc
  rw [buscar_eq_none_iff]
  intro c' hc' hid
  obtain ⟨ha, hb⟩ := chat_id_inj hc' hid
  obtain rfl := chat_unico hmem hc' (.refl _ _) (.inr ⟨ha, hb⟩)
  exact hne ha

theorem Representa.carga_par_iff (h : Representa C d) :
    RocksDB.carga { datos := d } (x ++ Conversacion.guion :: y) = true ∧
      RocksDB.carga { datos := d } (y ++ Conversacion.guion :: x) = true ↔
    ∃ c, Central.recibido x y m (C.entre x y) = .ok c := by
  rw [h.carga_iff, h.carga_iff]
  cases hxy : C.entre x y with
  | none =>
    rw [Central.entre_eq_buscar, Option.or_eq_none_iff] at hxy
    rw [hxy.1, hxy.2]
    exact ⟨fun _ => ⟨_, rfl⟩, fun _ => ⟨fun _ h => (by cases h), fun _ h => (by cases h)⟩⟩
  | some c =>
    obtain ⟨hmem, hentre⟩ := Central.entre_eq_some_iff.mp hxy
    constructor
    · rintro ⟨h₁, h₂⟩
      obtain ⟨ms, hms⟩ : c.Legible := hentre.id.elim (fun hid => h₁ c (Central.buscar_eq_some_iff.mpr ⟨hmem, hid⟩))
        fun hid => h₂ c (Central.buscar_eq_some_iff.mpr ⟨hmem, hid⟩)
      exact ⟨c.conMensaje ms m, by rw [Central.recibido, hms]; rfl⟩
    · rintro ⟨c', hc'⟩
      obtain ⟨ms, hms, -⟩ := Central.recibido_some hc'
      constructor
      · intro c₁ hc₁
        rw [Central.entre_of_buscar hc₁ (.inl rfl)] at hxy
        cases hxy
        exact ⟨ms, hms⟩
      · intro c₁ hc₁
        rw [Central.entre_of_buscar hc₁ (.inr rfl)] at hxy
        cases hxy
        exact ⟨ms, hms⟩

theorem Representa.bitacora_recibido (h : Representa C d) {c : Chat}
    (hc : Central.recibido x y m (C.entre x y) = .ok c) : bitacora d c.id ++ [m] = c.mensajes := by
  cases hxy : C.entre x y with
  | none =>
    rw [hxy] at hc
    cases hc
    rw [Central.entre_eq_buscar, Option.or_eq_none_iff] at hxy
    have hobtener : (Conversacion.obtener (x ++ Conversacion.guion :: y)).run { db := { datos := d } } =
        .ok Conversacion.noEncontrada (.sano d []) := h.run_getConversacion_none [] hxy.1
    show bitacora d (x ++ Conversacion.guion :: y) ++ [m] = [m]
    rw [bitacora, hobtener]
    rfl
  | some c₀ =>
    have hmem := (Central.entre_eq_some_iff.mp hxy).1
    rw [hxy] at hc
    obtain ⟨ms, hms, rfl⟩ := Central.recibido_some hc
    show bitacora d c₀.id ++ [m] = ms ++ [m]
    rw [bitacora, h.run_obtener hmem hms []]
    dsimp only
    rw [if_pos (getId_cargado_ne hmem ms)]
    rfl

theorem Representa.agregaUnaVez (h : Representa C d) (h' : Representa C' d') {c : Chat}
    (hc : Central.recibido x y m (C.entre x y) = .ok c) (hentre' : C'.entre x y = some c) :
    Servidor.AgregaUnaVez { datos := d } { datos := d' } x y m := by
  obtain ⟨hmem', hpar⟩ := Central.entre_eq_some_iff.mp hentre'
  refine ⟨c.a, c.b, hpar, ?_, ?_, fun hne => ⟨?_, ?_⟩⟩
  · obtain ⟨h₁, h₂⟩ := h.carga_par_iff.mpr ⟨c, hc⟩
    show RocksDB.carga { datos := d } c.id = true
    rcases hpar.id with hid | hid
    · rwa [hid]
    · rwa [hid]
  · show d' (claveBaseConversacion ++ c.id) = some (Conversacion.texto c.id [c.a, c.b] (bitacora d c.id ++ [m]))
    rw [h'.chats, Central.buscar_eq_some_iff.mpr ⟨hmem', rfl⟩, h.bitacora_recibido hc]
    rfl
  · rw [h.tieneConversacion]
    cases hxy : C.entre x y with
    | none =>
      have hno := Central.entre_eq_none_iff.mp ((C.entre_par hpar).symm.trans hxy)
      rw [Central.buscar_eq_none_iff.mpr fun c' hc' hid => hno c' hc' (.inr (Central.chat_id_inj hc' hid))]
      rfl
    | some c₀ =>
      rw [hxy] at hc
      obtain ⟨ms, -, rfl⟩ := Central.recibido_some hc
      exact congrArg Option.isSome (Central.buscar_otro hxy hne)
  · rw [h'.tieneConversacion, Central.buscar_otro hentre' hne]
    rfl

/-- A conversation that got the message once had at most one delivery. -/
theorem Representa.le_one_of_agregaUnaVez (h : Representa C d) (h' : Representa C' d') {n : Nat}
    (hrecibe : Recibe x y m n (C.entre x y) (C'.entre x y))
    (hagrega : Servidor.AgregaUnaVez { datos := d } { datos := d' } x y m) : n ≤ 1 := by
  cases n with
  | zero => exact Nat.zero_le 1
  | succ n =>
    obtain ⟨c₁, hc₁, hresto⟩ := hrecibe.of_succ
    obtain ⟨c, hc, hid, hlargo⟩ := hresto.of_some
    obtain ⟨a, b, hpar, -, htexto, -⟩ := hagrega
    replace htexto : d' (claveBaseConversacion ++ (a ++ Conversacion.guion :: b)) = _ := htexto
    rw [h'.chats] at htexto
    obtain ⟨c', hc', htexto⟩ := Option.map_eq_some_iff.mp htexto
    have hentre := Central.entre_of_buscar hc' (.inl rfl)
    rw [← C'.entre_par hpar, hc] at hentre
    cases hentre
    -- the conversation after the first delivery has that text
    have hid' : c₁.id = a ++ Conversacion.guion :: b := hid.symm.trans (Central.buscar_eq_some_iff.mp hc').2
    rw [← hid', h.bitacora_recibido hc₁] at htexto
    have hlargo' : c.largo = c₁.largo := by rw [Chat.largo, Conversacion.texto_inj htexto, Chat.largo]
    omega

theorem Representa.eq_zero_of_datos (h : Representa C d) (h' : Representa C' d') {n : Nat}
    (hrecibe : Recibe x y m n (C.entre x y) (C'.entre x y))
    (hdatos : ∀ k, k = x ++ Conversacion.guion :: y ∨ k = y ++ Conversacion.guion :: x →
      d' (claveBaseConversacion ++ k) = d (claveBaseConversacion ++ k)) : n = 0 := by
  cases n with
  | zero => rfl
  | succ n =>
    obtain ⟨c₁, hc₁, hresto⟩ := hrecibe.of_succ
    obtain ⟨c, hc, hid, hlargo⟩ := hresto.of_some
    obtain ⟨hmem, hentre⟩ := Central.entre_eq_some_iff.mp hc
    have htexto := hdatos c.id hentre.id
    rw [h'.chats, h.chats, Central.buscar_eq_some_iff.mpr ⟨hmem, rfl⟩, Option.map_some] at htexto
    obtain ⟨c₀, hc₀, htexto⟩ := Option.map_eq_some_iff.mp htexto.symm
    rw [Central.entre_of_buscar hc₀ hentre.id] at hc₁
    have hlt := Chat.largo_lt_of_recibido hc₁
    have hlargo' : c₀.largo = c.largo := by rw [Chat.largo, Conversacion.texto_inj htexto, Chat.largo]
    omega

end Almacenes

/-! ## Broadcasts -/

section Difusion
variable [Aritmetica] {C C' : Central} {d d' : Cadena → Option Cadena}

omit [Aritmetica] in
theorem Representa.destinatario_iff [LibC] (h : Representa C d) {telefonos : List Cadena} {u : Usuario} :
    Servidor.Destinatario { datos := d } telefonos u ↔
      ∃ v ∈ C.visibles telefonos, v.toUsuario = u ∧ v.telefono ∈ telefonos := by
  rw [Servidor.Destinatario, h.usuarioDe]
  constructor
  · rintro ⟨hu, hconectado, htelefono⟩
    obtain ⟨v, hv, rfl⟩ := Option.map_eq_some_iff.mp hu
    refine ⟨v, List.mem_filterMap.mpr ⟨v.telefono, htelefono, ?_⟩, rfl, htelefono⟩
    rw [← v.id_eq, hv, Option.filter_some, if_pos hconectado]
  · rintro ⟨v, hv, rfl, htelefono⟩
    obtain ⟨t, -, ht⟩ := List.mem_filterMap.mp hv
    obtain ⟨hv, hconectado⟩ := Option.filter_eq_some_iff.mp ht
    exact ⟨by rw [C.claves _ _ hv, hv]; rfl, hconectado, htelefono⟩

omit [Aritmetica] in
theorem Central.visible_usuarios {telefonos : List Cadena} {v : Registrado} (hv : v ∈ C.visibles telefonos) :
    C.usuarios v.id = some v := by
  obtain ⟨t, -, ht⟩ := List.mem_filterMap.mp hv
  have hu := (Option.filter_eq_some_iff.mp ht).1
  rw [C.claves _ _ hu, hu]

omit [Aritmetica] in
theorem Central.id_par_inj {e u v : Cadena} (he : (C.usuarios e).isSome) (hv : (C.usuarios v).isSome) {k : Cadena}
    (hk : k = e ++ Conversacion.guion :: v ∨ k = v ++ Conversacion.guion :: e)
    (hk' : k = e ++ Conversacion.guion :: u ∨ k = u ++ Conversacion.guion :: e) : u = v := by
  have hinj : ∀ {x y a b : Cadena}, Conversacion.guion ∉ x → Conversacion.guion ∉ y →
      x ++ Conversacion.guion :: y = a ++ Conversacion.guion :: b → x = a ∧ y = b := by
    intro x y a b hx hy h
    obtain ⟨hxa, -, hyb⟩ := (List.append_cons_inj_of_notMem hx hy).mp h
    exact ⟨hxa, hyb⟩
  have hpar : Par e v e u := by
    rcases hk with rfl | rfl
    · exact hk'.imp (hinj (guion_not_mem he) (guion_not_mem hv)) (hinj (guion_not_mem he) (guion_not_mem hv))
    · rcases hk' with hk' | hk'
      · exact .inr (hinj (guion_not_mem hv) (guion_not_mem he) hk').symm
      · exact .inl (hinj (guion_not_mem hv) (guion_not_mem he) hk').symm
  exact (Par.right_iff.mp hpar).symm

omit [Aritmetica] in
/-- A user that a broadcast reaches by another telephone, with the same hash, is no recipient. -/
theorem Representa.telefono_mem [LibC] (h : Representa C d) (h' : Representa C' d') {e : Cadena}
    (he : (C.usuarios e).isSome) {m : Mensaje} {telefonos : List Cadena}
    (hrecibe : ∀ v, Recibe e v m ((C.alcanzados telefonos).count v) (C.entre e v) (C'.entre e v))
    (hdemas : ∀ k, (∀ u, Servidor.Destinatario { datos := d } telefonos u →
        k ≠ e ++ Conversacion.guion :: u.id ∧ k ≠ u.id ++ Conversacion.guion :: e) →
      d' (claveBaseConversacion ++ k) = d (claveBaseConversacion ++ k))
    {v : Registrado} (hv : v ∈ C.visibles telefonos) : v.telefono ∈ telefonos := by
  by_contra hno
  have hv' := Central.visible_usuarios hv
  have hsome : (C.usuarios v.id).isSome := by rw [hv']; rfl
  have hcero : (C.alcanzados telefonos).count v.id = 0 := by
    refine h.eq_zero_of_datos h' (hrecibe v.id) fun k hk => hdemas k fun u hu => ?_
    obtain ⟨u', hu', rfl, htelefono⟩ := h.destinatario_iff.mp hu
    rw [← not_or]
    intro hk'
    have hid := Central.id_par_inj he hsome hk hk'
    have hu' := Central.visible_usuarios hu'
    rw [hid, hv'] at hu'
    cases hu'
    exact hno htelefono
  exact List.count_eq_zero.mp hcero (List.mem_map_of_mem hv)

/-- A broadcast reaches each recipient once when every turn reaches another one. -/
theorem Representa.difundeUnaVez_iff (h : Representa C d) (lugares : Value) {p : Peticion}
    (hp : Servidor.parsearURI p = .almacenarListaDifusion) {e : Registrado} (he : C.usuarios p.emisor = some e)
    (htoken : e.token = getParametro p keyTokenSesion keyDefault) {telefonos : List Cadena}
    (hvec : getParametroVector p keyContantosTelefono = .ok telefonos) :
    Servidor.DifundeUnaVez lugares { datos := d } p telefonos ↔
      (C.alcanzados telefonos).Nodup ∧ ∀ v ∈ C.visibles telefonos, v.telefono ∈ telefonos ∧
        ∃ c, Central.recibido p.emisor v.id p.mensaje (C.entre p.emisor v.id) = .ok c := by
  have hemisor : (C.usuarios p.emisor).isSome := by rw [he]; rfl
  obtain ⟨d', hatender, h'⟩ := h.atender lugares p
  have hcentral := C.atender_difusion_token lugares hp he htoken hvec
  cases hdifundir : C.difundirTodos p.emisor p.mensaje telefonos with
  | error ex C₁ =>
    refine iff_of_false (fun hdifunde => ?_) fun ⟨hnodup, hcarga⟩ => ?_
    · have hrespuesta := hdifunde.respuesta
      rw [hatender, hcentral, hdifundir] at hrespuesta
      cases hrespuesta
    · obtain ⟨C', hok⟩ := Central.exists_difundirTodos hemisor (m := p.mensaje) hnodup
        (List.forall_mem_map.mpr fun v hv => (hcarga v hv).2)
      rw [hdifundir] at hok
      cases hok
  | ok a C' =>
    have hmundo : C.atender lugares p =
        ⟨C', [respuesta (bytes "Lista de difusion enviada correctamente") true]⟩ := by
      rw [hcentral, hdifundir]
      rfl
    rw [hmundo] at hatender h'
    obtain ⟨hrecibe, hdemas⟩ := Central.recibe_difundirTodos hemisor hdifundir
    constructor
    · rintro ⟨-, hdestinatarios, hotras⟩
      rw [hatender] at hdestinatarios hotras
      have htelefono : ∀ v ∈ C.visibles telefonos, v.telefono ∈ telefonos :=
        fun v hv => h.telefono_mem h' hemisor hrecibe hotras hv
      refine ⟨List.nodup_iff_count_le_one.mpr fun u => ?_, fun v hv => ⟨htelefono v hv, ?_⟩⟩
      · by_cases hu : u ∈ C.alcanzados telefonos
        · obtain ⟨v, hv, rfl⟩ := List.mem_map.mp hu
          exact h.le_one_of_agregaUnaVez h' (hrecibe v.id)
            (hdestinatarios v.toUsuario (h.destinatario_iff.mpr ⟨v, hv, rfl, htelefono v hv⟩))
        · rw [List.count_eq_zero.mpr hu]
          exact Nat.zero_le 1
      · -- it was loaded in its first turn
        have hpos : 0 < (C.alcanzados telefonos).count v.id := List.count_pos_iff.mpr (List.mem_map_of_mem hv)
        obtain ⟨n, hn⟩ := Nat.exists_eq_succ_of_ne_zero hpos.ne'
        have hv' := hrecibe v.id
        rw [hn] at hv'
        obtain ⟨c, hc, -⟩ := hv'.of_succ
        exact ⟨c, hc⟩
    · rintro ⟨hnodup, hcarga⟩
      refine ⟨by rw [hatender], fun u hu => ?_, fun k hk => ?_⟩
      · obtain ⟨v, hv, rfl, -⟩ := h.destinatario_iff.mp hu
        have hv' := hrecibe v.id
        rw [List.count_eq_one_of_mem hnodup (List.mem_map_of_mem hv)] at hv'
        obtain ⟨c, hc, hresto⟩ := hv'.of_succ
        rw [hatender]
        exact h.agregaUnaVez h' hc hresto.of_zero
      · rw [hatender]
        show d' _ = d _
        rw [h'.chats, h.chats, Central.buscar_congr]
        intro a b hab
        refine hdemas a b fun u hu hpar => ?_
        obtain ⟨v, hv, rfl⟩ := List.mem_map.mp hu
        obtain ⟨h₁, h₂⟩ := hk v.toUsuario (h.destinatario_iff.mpr ⟨v, hv, rfl, (hcarga v hv).1⟩)
        rcases hpar with ⟨ha, hb⟩ | ⟨ha, hb⟩
        · exact h₁ (by rw [← hab, ha, hb])
        · exact h₂ (by rw [← hab, ha, hb])

/-- **When a broadcast reaches each recipient once**: no user occurs twice in its list, the users it reaches are in the
list by their own telephones, and their conversations with the sender can be loaded. -/
theorem difunde_una_vez_iff (lugares : Value) (ps : List Peticion) {p : Peticion}
    (hp : Servidor.parsearURI p = .almacenarListaDifusion)
    (hemisor : (Servidor.ejecutar lugares .vacia ps).tieneUsuario p.emisor = true)
    (htoken : (Servidor.ejecutar lugares .vacia ps).tokenDe p.emisor = getParametro p keyTokenSesion keyDefault)
    {telefonos : List Cadena} (hvec : getParametroVector p keyContantosTelefono = .ok telefonos) :
    Servidor.DifundeUnaVez lugares (Servidor.ejecutar lugares .vacia ps) p telefonos ↔
      ((Servidor.visibles (Servidor.ejecutar lugares .vacia ps) telefonos).map Usuario.id).Nodup ∧
      ∀ u ∈ Servidor.visibles (Servidor.ejecutar lugares .vacia ps) telefonos, u.telefono ∈ telefonos ∧
        (Servidor.ejecutar lugares .vacia ps).carga (p.emisor ++ Conversacion.guion :: u.id) = true ∧
        (Servidor.ejecutar lugares .vacia ps).carga (u.id ++ Conversacion.guion :: p.emisor) = true := by
  obtain ⟨d, hdb, h⟩ := ejecutar_vacia lugares ps
  rw [hdb] at hemisor htoken ⊢
  rw [h.tieneUsuario] at hemisor
  obtain ⟨e, he⟩ := Option.isSome_iff_exists.mp hemisor
  rw [h.tokenDe he] at htoken
  rw [h.difundeUnaVez_iff lugares hp he htoken hvec, h.visibles, List.map_map, List.forall_mem_map]
  simp only [h.carga_par_iff (m := p.mensaje)]
  rfl

end Difusion

section Repetidos
attribute [local instance] Aritmetica.nula

def trio : List Peticion := [.registro (bytes "1"), .registro (bytes "2"), .registro (bytes "3")]

def saludo : Peticion := .difusion (bytes "1") (bytes "[\"3\", \"2\"]") [] (bytes "hola") (bytes "10:00")

theorem difunde_una_vez_saludo :
    Servidor.DifundeUnaVez .null (Servidor.ejecutar .null .vacia trio) saludo [bytes "3", bytes "2"] := by
  have hlista : getParametroVector saludo keyContantosTelefono = .ok [bytes "3", bytes "2"] := by decide +kernel
  have halmacen : (Servidor.ejecutar .null .vacia trio).tieneUsuario saludo.emisor = true ∧
      (Servidor.ejecutar .null .vacia trio).tokenDe saludo.emisor = getParametro saludo keyTokenSesion keyDefault := by
    decide +kernel
  exact (difunde_una_vez_iff .null trio rfl halmacen.1 halmacen.2 hlista).mpr (by decide +kernel)

/-- A telephone that occurs twice in the list gets the message twice. -/
theorem no_difunde_una_vez_repetido :
    (Servidor.ejecutar .null .vacia grupo).tieneUsuario difundida.emisor = true ∧
    (Servidor.ejecutar .null .vacia grupo).tokenDe difundida.emisor = getParametro difundida keyTokenSesion keyDefault ∧
    getParametroVector difundida keyContantosTelefono = .ok [bytes "3", bytes "9", bytes "2", bytes "3"] ∧
    ¬ Servidor.DifundeUnaVez .null (Servidor.ejecutar .null .vacia grupo) difundida
      [bytes "3", bytes "9", bytes "2", bytes "3"] := by
  obtain ⟨hemisor, htoken, hvisibles⟩ := almacen_grupo
  rw [← token_difundida] at htoken
  refine ⟨hemisor, htoken, lista_difundida, fun hdifunde => ?_⟩
  obtain ⟨d, hdb, h⟩ := ejecutar_vacia .null grupo
  rw [hdb] at hemisor htoken hvisibles hdifunde
  rw [h.tieneUsuario] at hemisor
  obtain ⟨e, he⟩ := Option.isSome_iff_exists.mp hemisor
  rw [h.tokenDe he] at htoken
  have hnodup := ((h.difundeUnaVez_iff .null rfl he htoken lista_difundida).mp hdifunde).1
  rw [h.visibles, List.map_map] at hvisibles
  have hvisibles : (Central.visibles _ _).map (fun u => u.telefono) = _ := hvisibles
  rw [Central.alcanzados_eq, hvisibles] at hnodup
  simp at hnodup

end Repetidos

end MensajeroX
