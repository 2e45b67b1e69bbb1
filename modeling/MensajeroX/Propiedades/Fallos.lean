import MensajeroX.Propiedades.Historial

/-!
# Failures of the store

Runs of the server on any store, some of whose accesses fail.

`setDato` only logs a write that fails, so no service can see it. A program hides a failure (`Oculta`) when with some
outcomes of its writes it reports success although one of them failed; what it reads before is the same whatever the
outcomes, so whether it does is said by the data before it.

* `oculta_bind`, `oculta_persistir`, `oculta_almacenarMensaje`, `oculta_difundir` : reads, and the ways to write;
* `exito_guardado_iff` : **a response reports success for what was stored** exactly when the request does not find in
  the store what it needs to get to a write and to its report (`Servidor.Cumple`);
* `difundible_iff`, `Representa.propias` : in a store whose conversations stand under their own ids, such as every run
  leaves, the messages of a broadcast can be stored when each conversation can be loaded from the store before.

`getDato` gives the empty text for a read that fails, so the turn of `setConversacion` for a user whose index cannot be
read starts the index again (`Reducido`).

* `indice_conservado_iff` : **a read that fails erases no entry** exactly when there was none to erase.
-/

namespace MensajeroX
open Bytes JsonCpp BaseDeDatos Efectos Servicio

/-! ## Writes that fail -/

/-- The start of a request on some data, with the outcomes of its writes. -/
abbrev Estado.inicio (d : Cadena → Option Cadena) (fallos : List Bool) : Estado where
  db := { datos := d, fallosPut := fallos }

def Estado.usados (fallos : List Bool) (s : Estado) : List Bool := fallos.take (fallos.length - s.db.fallosPut.length)

theorem Estado.usados_of_nil {s : Estado} (h : s.db.fallosPut = []) (fallos : List Bool) : usados fallos s = fallos := by
  rw [usados, h, List.length_nil, Nat.sub_zero, List.take_length]

theorem Estado.usados_self {fallos : List Bool} {s : Estado} (h : s.db.fallosPut = fallos) :
    Estado.usados fallos s = [] := by
  rw [usados, h, Nat.sub_self, List.take_zero]

section Escrituras
variable [LibC] {d : Cadena → Option Cadena}

def Estado.Exito (s : Estado) : Prop := ∃ mensaje, respuesta mensaje true ∈ s.salidas

/-- With some outcomes of its writes, one of which fails, the program reports success. -/
def Oculta (d : Cadena → Option Cadena) (x : Accion Unit) : Prop :=
  ∃ fallos, true ∈ Estado.usados fallos (final (x.run (.inicio d fallos))) ∧ (final (x.run (.inicio d fallos))).Exito

/-! ### Programs that read -/

/-- What a program that only reads gives on the data; `none` when it raises. -/
def leido {α : Type} (d : Cadena → Option Cadena) (x : Accion α) : Option α := valor (x.run (.inicio d []))

/-- The user that a request finds for a telephone; it is `noEncontrado` while the telephone is not registered. -/
def usuarioEn (d : Cadena → Option Cadena) (telefono : Cadena) : Option Usuario :=
  leido d (Usuario.obtenerPorTelefono telefono)

def conversacionEn (d : Cadena → Option Cadena) (clave : Cadena) : Option Conversacion :=
  leido d (Conversacion.obtener clave)

theorem not_oculta_of_lee {x : Accion Unit} (h : ∀ fallos, (final (x.run (.inicio d fallos))).db.fallosPut = fallos) :
    ¬ Oculta d x := by
  rintro ⟨fallos, hmem, -⟩
  rw [Estado.usados_self (h fallos)] at hmem
  cases hmem

theorem not_oculta_responder (mensaje : Cadena) (success : Bool) : ¬ Oculta d (responder mensaje success) :=
  not_oculta_of_lee fun _ => rfl

theorem oculta_ite {P : Prop} [Decidable P] (x y : Accion Unit) :
    Oculta d (if P then x else y) ↔ if P then Oculta d x else Oculta d y := by
  split <;> exact Iff.rfl

theorem oculta_bind {α : Type} {x : Accion α} (hx : Uniforme (Estado.Tiene d) x) (f : α → Accion Unit) :
    Oculta d (x >>= f) ↔ ∃ a, leido d x = some a ∧ Oculta d (f a) := by
  have hinicio : ∀ fallos, (Estado.inicio d fallos).Tiene d := fun _ => ⟨rfl, rfl⟩
  cases h : leido d x with
  | none =>
    have hno : ¬ Oculta d (x >>= f) := by
      apply not_oculta_of_lee
      intro fallos
      obtain ⟨e, he⟩ := hx.run_of_valor_none (hinicio []) (hinicio fallos) h
      rw [bind_error he]
      rfl
    simp only [hno, reduceCtorEq, false_and, exists_false]
  | some a =>
    have hrun : ∀ fallos, (x >>= f).run (.inicio d fallos) = (f a).run (.inicio d fallos) :=
      fun fallos => bind_ok (hx.run_of_valor (hinicio []) (hinicio fallos) h) f
    simp only [Oculta, hrun, Option.some.injEq, exists_eq_left']

theorem oculta_obtenerPorTelefono (telefono : Cadena) (f : Usuario → Accion Unit) :
    Oculta d (Usuario.obtenerPorTelefono telefono >>= f) ↔ ∃ u, usuarioEn d telefono = some u ∧ Oculta d (f u) :=
  oculta_bind (uniforme_getUsuario fun _ hs => ⟨congrFun hs.1 _, hs.2⟩) f

omit [LibC] in
theorem leido_ofJson {α : Type} (r : Except Exn α) (a : α) : leido d (ofJson r) = some a ↔ r = .ok a := by
  cases r with
  | ok b => simp only [leido, run_ofJson_ok, valor, Option.some.injEq, Except.ok.injEq]
  | error e => simp only [leido, run_ofJson_error, valor, reduceCtorEq]

theorem oculta_ofJson {α : Type} (r : Except Exn α) (f : α → Accion Unit) :
    Oculta d (ofJson r >>= f) ↔ ∃ a, r = .ok a ∧ Oculta d (f a) := by
  rw [oculta_bind (uniforme_ofJson r)]
  simp only [leido_ofJson]

/-! ### Programs that write -/

/-- A program that ends although a write fails, and then reports success. -/
theorem oculta_of_run {fallos : List Bool} (hmem : true ∈ fallos) {w : Accion Unit} {s : Estado}
    (hw : w.run (.inicio d fallos) = .ok ⟨⟩ s) (hput : s.db.fallosPut = []) (mensaje : Cadena) :
    Oculta d (w >>= fun _ => responder mensaje true) := by
  have hput' : (final ((responder mensaje true).run s)).db.fallosPut = [] := hput
  refine ⟨fallos, ?_⟩
  rw [bind_ok hw, Estado.usados_of_nil hput']
  exact ⟨hmem, mensaje, List.mem_append_right _ List.mem_cons_self⟩

theorem oculta_persistir (u : Usuario) (mensaje : Cadena) :
    Oculta d (u.persistir >>= fun _ => responder mensaje true) := by
  have hrun : u.persistir.run (.inicio d [true]) = .ok ⟨⟩ (.inicio d []) := rfl
  exact oculta_of_run List.mem_cons_self hrun rfl mensaje

/-- The users and the conversations of the state are those of the data, and no read is going to fail. -/
structure Estado.Ve (d : Cadena → Option Cadena) (s : Estado) : Prop where
  usuarios : ∀ k, s.db.datos (claveBaseUsuario ++ k) = d (claveBaseUsuario ++ k)
  conversaciones : ∀ k, s.db.datos (claveBaseConversacion ++ k) = d (claveBaseConversacion ++ k)
  fallosGet : s.db.fallosGet = []

omit [LibC] in
theorem Estado.ve_inicio (d : Cadena → Option Cadena) (fallos : List Bool) : (Estado.inicio d fallos).Ve d :=
  ⟨fun _ => rfl, fun _ => rfl, rfl⟩

/-- What the entries of a conversation in the indices keep. -/
structure Estado.Indexa (s s' : Estado) : Prop where
  salidas : s'.salidas = s.salidas
  datos : ∀ k, (∀ u, k ≠ claveBaseConversacionesPorUsuario ++ u) → s'.db.datos k = s.db.datos k
  fallosGet : s.db.fallosGet = [] → s'.db.fallosGet = []
  fallosPut : s'.db.fallosPut <:+ s.db.fallosPut

omit [LibC] in
theorem Estado.Indexa.refl (s : Estado) : s.Indexa s := ⟨rfl, fun _ _ => rfl, id, List.suffix_rfl⟩

omit [LibC] in
theorem Estado.Indexa.trans {s t u : Estado} (h : s.Indexa t) (h' : t.Indexa u) : s.Indexa u :=
  ⟨h'.salidas.trans h.salidas, fun k hk => (h'.datos k hk).trans (h.datos k hk), fun hs => h'.fallosGet (h.fallosGet hs),
    h'.fallosPut.trans h.fallosPut⟩

omit [LibC] in
theorem Estado.Indexa.ve {s s' : Estado} (h : s.Indexa s') (hs : s.Ve d) : s'.Ve d :=
  ⟨fun k => (h.datos _ (usuario_ne_indice k)).trans (hs.usuarios k),
    fun k => (h.datos _ (conversacion_ne_indice k)).trans (hs.conversaciones k), h.fallosGet hs.fallosGet⟩

omit [LibC] in
theorem fallosPut_put (db : RocksDB) (clave valor : Cadena) : (db.put clave valor).2.fallosPut = db.fallosPut.tail := by
  unfold RocksDB.put
  split <;> rfl

omit [LibC] in
theorem indexa_indexar (idConversacion : Cadena) (u : Usuario) (s : Estado) :
    ∃ s', (indexar idConversacion u).run s = .ok ⟨⟩ s' ∧ s.Indexa s' := by
  rw [indexar_eq, bind_ok (run_getDato_eq _ s)]
  refine ⟨_, rfl, rfl, fun k hk => ?_, fun h => ?_, ?_⟩
  · dsimp only
    unfold RocksDB.put
    split
    · rfl
    · exact Function.update_of_ne (hk u.id) _ _
  · have htail : s.db.fallosGet.tail = [] := by rw [h, List.tail_nil]
    dsimp only
    unfold RocksDB.put
    split <;> exact htail
  · dsimp only
    rw [fallosPut_put]
    exact List.tail_suffix _

def guardada (d : Cadena → Option Cadena) (c : Conversacion) : Cadena → Option Cadena :=
  Function.update d (claveBaseConversacion ++ c.getId) (some c.serializar)

/-- Storing a conversation always ends; its first operation is the write of the conversation, which may fail. -/
theorem run_setConversacion_ve (c : Conversacion) {s : Estado} (hs : s.Ve d) :
    ∃ s', (setConversacion c).run s = .ok ⟨⟩ s' ∧ s'.Ve (if s.db.fallosPut.headD false then d else guardada d c) ∧
      s'.salidas = s.salidas ∧ s'.db.fallosPut <:+ s.db.fallosPut.tail := by
  have hput : Estado.Ve (if s.db.fallosPut.headD false then d else guardada d c)
      { s with db := (s.db.put (claveBaseConversacion ++ c.getId) c.serializar).2 } := by
    unfold RocksDB.put
    split
    · exact ⟨hs.usuarios, hs.conversaciones, hs.fallosGet⟩
    · refine ⟨fun k => ?_, fun k => ?_, hs.fallosGet⟩
      · simp only [guardada, Function.update_of_ne (usuario_ne_conversacion _ _), hs.usuarios]
      · simp only [guardada, Function.update_apply, hs.conversaciones]
  obtain ⟨s', hs', hindexa⟩ := run_forM_total Estado.Indexa.refl Estado.Indexa.trans (indexa_indexar c.getId) c.usuarios
    { s with db := (s.db.put (claveBaseConversacion ++ c.getId) c.serializar).2 }
  refine ⟨s', hs', hindexa.ve hput, hindexa.salidas, ?_⟩
  have := hindexa.fallosPut
  rwa [fallosPut_put] at this

/-- The state with other outcomes of the writes to come. -/
def Estado.conPuts (s : Estado) (fallos : List Bool) : Estado := { s with db := { s.db with fallosPut := fallos } }

omit [LibC] in
theorem Estado.Ve.conPuts {s : Estado} (h : s.Ve d) (fallos : List Bool) : (s.conPuts fallos).Ve d :=
  ⟨h.usuarios, h.conversaciones, h.fallosGet⟩

/-- A run of the program can be repeated with any outcomes for the writes after it. -/
def Repetible {α : Type} (x : Accion α) : Prop :=
  ∀ s a s', x.run s = .ok a s' → ∀ resto, ∃ us, x.run (s.conPuts (us ++ resto)) = .ok a (s'.conPuts resto)

namespace Repetible
variable {α β : Type}

omit [LibC] in
theorem bind {x : Accion α} {f : α → Accion β} (hx : Repetible x) (hf : ∀ a, Repetible (f a)) : Repetible (x >>= f) := by
  intro s b s' hrun resto
  cases h : x.run s with
  | error e t =>
    rw [bind_error h] at hrun
    cases hrun
  | ok a t =>
    rw [bind_ok h] at hrun
    obtain ⟨us', hus'⟩ := hf a t b s' hrun resto
    obtain ⟨us, hus⟩ := hx s a t h (us' ++ resto)
    refine ⟨us ++ us', ?_⟩
    rw [List.append_assoc, bind_ok hus, hus']

omit [LibC] in
theorem forM {f : α → Accion PUnit} (hf : ∀ a, Repetible (f a)) (l : List α) : Repetible (forM l f) := by
  induction l with
  | nil =>
    intro s a s' hrun resto
    cases hrun
    exact ⟨[], rfl⟩
  | cons x l ih =>
    rw [List.forM_cons]
    exact (hf x).bind fun _ => ih

omit [LibC] in
theorem setDato (clave valor : Cadena) : Repetible (setDato clave valor) := by
  intro s a s' hrun resto
  cases hrun
  have hput : (RocksDB.put { s.db with fallosPut := s.db.fallosPut.headD false :: resto } clave valor).2 =
      { (s.db.put clave valor).2 with fallosPut := resto } := by
    unfold RocksDB.put
    cases h : s.db.fallosPut.headD false <;> rfl
  refine ⟨[s.db.fallosPut.headD false], ?_⟩
  show EStateM.Result.ok _ { s with db := _ } = _
  rw [Estado.conPuts, List.singleton_append, hput]
  rfl

omit [LibC] in
theorem getDato (clave : Cadena) : Repetible (getDato clave) := by
  intro s a s' hrun resto
  cases hrun
  exact ⟨[], rfl⟩

theorem setConversacion (c : Conversacion) : Repetible (setConversacion c) :=
  (setDato _ _).bind fun _ => forM (fun _ => (getDato _).bind fun _ => setDato _ _) _

end Repetible

/-! ### Messages -/

/-- The conversation that a message is going to be stored in, with the message; `none` when it cannot be loaded. -/
def destino (d : Cadena → Option Cadena) (emisor receptor : Usuario) (m : Mensaje) : Option Conversacion := do
  let c ← conversacionEn d (emisor.id ++ Conversacion.guion :: receptor.id)
  if c.getId ≠ keyIdConversacionNoEncontrada then return c.agregarMensaje m
  else
    let c ← conversacionEn d (receptor.id ++ Conversacion.guion :: emisor.id)
    return if c.getId ≠ keyIdConversacionNoEncontrada then c.agregarMensaje m
      else Conversacion.nueva [emisor, receptor] [m]

section Turnos
variable {s : Estado} (hs : s.Ve d)
include hs

theorem run_obtener_of_some {clave : Cadena} {c : Conversacion} (h : conversacionEn d clave = some c) :
    (Conversacion.obtener clave).run s = .ok c s :=
  (uniforme_getConversacion (P := Estado.Ve d) (fun _ hs => ⟨hs.conversaciones _, hs.fallosGet⟩)
    fun _ _ hs => ⟨hs.usuarios _, hs.fallosGet⟩).run_of_valor (Estado.ve_inicio d []) hs h

theorem run_obtener_of_none {clave : Cadena} (h : conversacionEn d clave = none) :
    ∃ e, (Conversacion.obtener clave).run s = .error e s :=
  (uniforme_getConversacion (P := Estado.Ve d) (fun _ hs => ⟨hs.conversaciones _, hs.fallosGet⟩)
    fun _ _ hs => ⟨hs.usuarios _, hs.fallosGet⟩).run_of_valor_none (Estado.ve_inicio d []) hs h

theorem run_obtenerPorTelefono_of_some {telefono : Cadena} {u : Usuario} (h : usuarioEn d telefono = some u) :
    (Usuario.obtenerPorTelefono telefono).run s = .ok u s :=
  (uniforme_getUsuario (P := Estado.Ve d) fun _ hs => ⟨hs.usuarios _, hs.fallosGet⟩).run_of_valor
    (Estado.ve_inicio d []) hs h

theorem run_obtenerPorTelefono_of_none {telefono : Cadena} (h : usuarioEn d telefono = none) :
    ∃ e, (Usuario.obtenerPorTelefono telefono).run s = .error e s :=
  (uniforme_getUsuario (P := Estado.Ve d) fun _ hs => ⟨hs.usuarios _, hs.fallosGet⟩).run_of_valor_none
    (Estado.ve_inicio d []) hs h

theorem run_almacenarMensaje (emisor receptor : Usuario) (m : Mensaje) :
    match destino d emisor receptor m with
    | none => ∃ e, (almacenarMensaje emisor receptor m).run s = .error e s
    | some c => (almacenarMensaje emisor receptor m).run s = (setConversacion c).run s := by
  unfold destino almacenarMensaje
  cases h : conversacionEn d (emisor.id ++ Conversacion.guion :: receptor.id) with
  | none =>
    obtain ⟨e, he⟩ := run_obtener_of_none hs h
    exact ⟨e, bind_error he _⟩
  | some c =>
    rw [bind_ok (run_obtener_of_some hs h), Option.bind_eq_bind, Option.bind_some]
    by_cases hc : c.getId ≠ keyIdConversacionNoEncontrada
    · rw [if_pos hc, if_pos hc]
      rfl
    · rw [if_neg hc, if_neg hc]
      cases h' : conversacionEn d (receptor.id ++ Conversacion.guion :: emisor.id) with
      | none =>
        obtain ⟨e, he⟩ := run_obtener_of_none hs h'
        exact ⟨e, bind_error he _⟩
      | some c' =>
        rw [bind_ok (run_obtener_of_some hs h'), Option.bind_some]
        by_cases hc' : c'.getId ≠ keyIdConversacionNoEncontrada
        · rw [if_pos hc', if_pos hc']
          rfl
        · rw [if_neg hc', if_neg hc']
          rfl

theorem run_almacenarMensaje_of_some {emisor receptor : Usuario} {m : Mensaje} {c : Conversacion}
    (h : destino d emisor receptor m = some c) :
    (almacenarMensaje emisor receptor m).run s = (setConversacion c).run s := by
  have := run_almacenarMensaje hs emisor receptor m
  rwa [h] at this

theorem run_almacenarMensaje_of_none {emisor receptor : Usuario} {m : Mensaje}
    (h : destino d emisor receptor m = none) : ∃ e, (almacenarMensaje emisor receptor m).run s = .error e s := by
  have := run_almacenarMensaje hs emisor receptor m
  rwa [h] at this

theorem run_difundir {u : Usuario} {telefono : Cadena} (hu : usuarioEn d telefono = some u) (emisor : Usuario)
    (m : Mensaje) :
    (difundir emisor m telefono).run s = if visible u then (almacenarMensaje emisor u m).run s else .ok ⟨⟩ s := by
  rw [difundir, bind_ok (run_obtenerPorTelefono_of_some hs hu)]
  split <;> rfl

end Turnos

theorem oculta_almacenarMensaje (emisor receptor : Usuario) (m : Mensaje) (mensaje : Cadena) :
    Oculta d (almacenarMensaje emisor receptor m >>= fun _ => responder mensaje true) ↔
      ∃ c, destino d emisor receptor m = some c := by
  cases h : destino d emisor receptor m with
  | none =>
    refine iff_of_false (not_oculta_of_lee fun fallos => ?_) (by simp)
    obtain ⟨e, he⟩ := run_almacenarMensaje_of_none (Estado.ve_inicio d fallos) h
    rw [bind_error he]
    rfl
  | some c =>
    refine iff_of_true ?_ ⟨c, rfl⟩
    obtain ⟨s, hs, -, -, hput⟩ := run_setConversacion_ve c (Estado.ve_inicio d [true])
    exact oculta_of_run List.mem_cons_self ((run_almacenarMensaje_of_some (Estado.ve_inicio d [true]) h).trans hs)
      (List.suffix_nil.mp hput) mensaje

/-! ### Broadcasts -/

def visiblesEn (d : Cadena → Option Cadena) (telefonos : List Cadena) : List Usuario :=
  telefonos.filterMap fun t => (usuarioEn d t).filter visible

/-- The conversations with these users can be loaded one after the other, each from the data as they were or with
messages of the same broadcast stored in them. -/
def Difundible (emisor : Usuario) (m : Mensaje) : List Usuario → (Cadena → Option Cadena) → Prop
  | [], _ => True
  | u :: us, d => ∃ c, destino d emisor u m = some c ∧ (Difundible emisor m us d ∨ Difundible emisor m us (guardada d c))

theorem usuarioEn_guardada (c : Conversacion) (telefono : Cadena) :
    usuarioEn (guardada d c) telefono = usuarioEn d telefono := by
  have hguardada : guardada d c (claveBaseUsuario ++ Usuario.obtenerId telefono) =
      d (claveBaseUsuario ++ Usuario.obtenerId telefono) := Function.update_of_ne (usuario_ne_conversacion _ _) _ _
  exact (uniforme_getUsuario (P := fun s => s.db.datos (claveBaseUsuario ++ Usuario.obtenerId telefono) = _ ∧
    s.db.fallosGet = []) fun _ hs => hs).valor_eq ⟨hguardada, rfl⟩ ⟨rfl, rfl⟩

theorem visiblesEn_guardada (c : Conversacion) (telefonos : List Cadena) :
    visiblesEn (guardada d c) telefonos = visiblesEn d telefonos := by
  simp only [visiblesEn, usuarioEn_guardada]

theorem visiblesEn_cons_of_visible {telefono : Cadena} {u : Usuario} (hu : usuarioEn d telefono = some u)
    (hv : visible u = true) (telefonos : List Cadena) :
    visiblesEn d (telefono :: telefonos) = u :: visiblesEn d telefonos :=
  List.filterMap_cons_some (by rw [hu, Option.filter_some, if_pos hv])

theorem visiblesEn_cons_of_not_visible {telefono : Cadena} {u : Usuario} (hu : usuarioEn d telefono = some u)
    (hv : ¬ visible u = true) (telefonos : List Cadena) : visiblesEn d (telefono :: telefonos) = visiblesEn d telefonos :=
  List.filterMap_cons_none (by rw [hu, Option.filter_some, if_neg hv])

/-- A turn of a broadcast raises at once, or it only reads, or it stores a message, which may fail. -/
theorem difundir_casos {s : Estado} (hs : s.Ve d) (emisor : Usuario) (m : Mensaje) (t : Cadena) :
    (∃ e, (difundir emisor m t).run s = .error e s) ∨
    (∃ u, usuarioEn d t = some u ∧ ¬ visible u = true ∧ (difundir emisor m t).run s = .ok ⟨⟩ s) ∨
    ∃ u c s', usuarioEn d t = some u ∧ visible u = true ∧ destino d emisor u m = some c ∧
      (difundir emisor m t).run s = .ok ⟨⟩ s' ∧ (s'.Ve d ∨ s'.Ve (guardada d c)) ∧ s'.salidas = s.salidas := by
  cases hu : usuarioEn d t with
  | none =>
    obtain ⟨e, he⟩ := run_obtenerPorTelefono_of_none hs hu
    exact .inl ⟨e, bind_error he _⟩
  | some u =>
    have hturno := run_difundir hs hu emisor m
    by_cases hv : visible u = true
    · rw [if_pos hv] at hturno
      cases hdestino : destino d emisor u m with
      | none =>
        obtain ⟨e, he⟩ := run_almacenarMensaje_of_none hs hdestino
        exact .inl ⟨e, hturno.trans he⟩
      | some c =>
        obtain ⟨s', hs', hve, hsal, -⟩ := run_setConversacion_ve c hs
        refine .inr (.inr ⟨u, c, s', rfl, hv, hdestino, ?_, ?_, hsal⟩)
        · exact hturno.trans ((run_almacenarMensaje_of_some hs hdestino).trans hs')
        · split at hve
          · exact .inl hve
          · exact .inr hve
    · rw [if_neg hv] at hturno
      exact .inr (.inl ⟨u, rfl, hv, hturno⟩)

theorem salidas_difundir (emisor : Usuario) (m : Mensaje) (telefonos : List Cadena) {s : Estado} (hs : s.Ve d) :
    (final ((forM telefonos (difundir emisor m)).run s)).salidas = s.salidas := by
  induction telefonos generalizing s d with
  | nil => rfl
  | cons t telefonos ih =>
    rw [List.forM_cons]
    rcases difundir_casos hs emisor m t with ⟨e, he⟩ | ⟨u, -, -, hturno⟩ | ⟨u, c, s', -, -, -, hturno, hve, hsal⟩
    · rw [bind_error he]
      rfl
    · rw [bind_ok hturno]
      exact ih hs
    · rw [bind_ok hturno]
      exact (hve.elim ih ih).trans hsal

/-- A broadcast that ends has loaded every contact and the conversation of every visible one; without visible ones it
only reads. -/
theorem difundible_of_run {emisor : Usuario} {m : Mensaje} {telefonos : List Cadena} {s s' : Estado} (hs : s.Ve d)
    (hrun : (forM telefonos (difundir emisor m)).run s = .ok ⟨⟩ s') :
    (∀ t ∈ telefonos, ∃ u, usuarioEn d t = some u) ∧ Difundible emisor m (visiblesEn d telefonos) d ∧
      (visiblesEn d telefonos = [] → s' = s) := by
  induction telefonos generalizing s d with
  | nil =>
    cases hrun
    exact ⟨fun _ h => absurd h List.not_mem_nil, trivial, fun _ => rfl⟩
  | cons t telefonos ih =>
    rw [List.forM_cons] at hrun
    rcases difundir_casos hs emisor m t with
      ⟨e, he⟩ | ⟨u, hu, hv, hturno⟩ | ⟨u, c, s₁, hu, hv, hdestino, hturno, hve, -⟩
    · rw [bind_error he] at hrun
      cases hrun
    · rw [bind_ok hturno] at hrun
      rw [visiblesEn_cons_of_not_visible hu hv]
      obtain ⟨husuarios, hresto⟩ := ih hs hrun
      exact ⟨List.forall_mem_cons.mpr ⟨⟨u, hu⟩, husuarios⟩, hresto⟩
    · rw [bind_ok hturno] at hrun
      rw [visiblesEn_cons_of_visible hu hv]
      rcases hve with hve | hve
      · obtain ⟨husuarios, hdifundible, -⟩ := ih hve hrun
        exact ⟨List.forall_mem_cons.mpr ⟨⟨u, hu⟩, husuarios⟩, ⟨c, hdestino, .inl hdifundible⟩, fun h => by cases h⟩
      · obtain ⟨husuarios, hdifundible, -⟩ := ih hve hrun
        rw [visiblesEn_guardada] at hdifundible
        simp only [usuarioEn_guardada] at husuarios
        exact ⟨List.forall_mem_cons.mpr ⟨⟨u, hu⟩, husuarios⟩, ⟨c, hdestino, .inr hdifundible⟩, fun h => by cases h⟩

theorem run_difundir_nada {emisor : Usuario} {m : Mensaje} {telefonos : List Cadena}
    (husuarios : ∀ t ∈ telefonos, ∃ u, usuarioEn d t = some u) (hno : visiblesEn d telefonos = []) {s : Estado}
    (hs : s.Ve d) : (forM telefonos (difundir emisor m)).run s = .ok ⟨⟩ s := by
  induction telefonos with
  | nil => rfl
  | cons t telefonos ih =>
    obtain ⟨⟨u, hu⟩, husuarios⟩ := List.forall_mem_cons.mp husuarios
    have hturno := run_difundir hs hu emisor m
    by_cases hv : visible u = true
    · rw [visiblesEn_cons_of_visible hu hv] at hno
      cases hno
    · rw [visiblesEn_cons_of_not_visible hu hv] at hno
      rw [if_neg hv] at hturno
      rw [List.forM_cons, bind_ok hturno]
      exact ih husuarios hno

/-- The users are the same whether or not a conversation has been stored. -/
theorem usuarioEn_ite (fallo : Bool) (c : Conversacion) (telefono : Cadena) :
    usuarioEn (if fallo then d else guardada d c) telefono = usuarioEn d telefono := by
  split
  · rfl
  · exact usuarioEn_guardada c telefono

theorem visiblesEn_ite (fallo : Bool) (c : Conversacion) (telefonos : List Cadena) :
    visiblesEn (if fallo then d else guardada d c) telefonos = visiblesEn d telefonos := by
  simp only [visiblesEn, usuarioEn_ite]

/-- **A broadcast to visible contacts also ends when a write fails**: the first write of the last message that it stores,
after which it only reads users. -/
theorem run_of_difundible {emisor : Usuario} {m : Mensaje} {telefonos : List Cadena}
    (husuarios : ∀ t ∈ telefonos, ∃ u, usuarioEn d t = some u) (hne : visiblesEn d telefonos ≠ [])
    (hdifundible : Difundible emisor m (visiblesEn d telefonos) d) {s : Estado} (hs : s.Ve d) :
    ∃ fallos s', true ∈ fallos ∧ (forM telefonos (difundir emisor m)).run (s.conPuts fallos) = .ok ⟨⟩ s' ∧
      s'.db.fallosPut = [] := by
  induction telefonos generalizing s d with
  | nil => exact absurd rfl hne
  | cons t telefonos ih =>
    obtain ⟨⟨u, hu⟩, husuarios⟩ := List.forall_mem_cons.mp husuarios
    have hturno : ∀ fallos, _ := fun fallos => run_difundir (hs.conPuts fallos) hu emisor m
    simp only [List.forM_cons]
    by_cases hv : visible u = true
    · simp only [if_pos hv] at hturno
      rw [visiblesEn_cons_of_visible hu hv] at hdifundible
      obtain ⟨c, hdestino, hresto⟩ := hdifundible
      have hrun : ∀ fallos, (difundir emisor m t).run (s.conPuts fallos) = (setConversacion c).run (s.conPuts fallos) :=
        fun fallos => (hturno fallos).trans (run_almacenarMensaje_of_some (hs.conPuts fallos) hdestino)
      by_cases hultimo : visiblesEn d telefonos = []
      · -- it is the last turn that stores a message
        obtain ⟨s₁, hs₁, hve, -, hput⟩ := run_setConversacion_ve c (hs.conPuts [true])
        refine ⟨[true], s₁, List.mem_cons_self, ?_, List.suffix_nil.mp hput⟩
        rw [bind_ok ((hrun [true]).trans hs₁)]
        exact run_difundir_nada husuarios hultimo hve
      · -- the message of this turn is lost or stored, as the loads after it need
        obtain ⟨fallo, hfallo⟩ : ∃ fallo : Bool,
            Difundible emisor m (visiblesEn d telefonos) (if fallo then d else guardada d c) :=
          hresto.elim (fun h => ⟨true, h⟩) fun h => ⟨false, h⟩
        obtain ⟨s₁, hs₁, hve : s₁.Ve (if fallo then d else guardada d c), -, -⟩ :=
          run_setConversacion_ve c (hs.conPuts [fallo])
        obtain ⟨fallos, s₂, hmem, hrun₂, hput⟩ := ih (by simpa only [usuarioEn_ite] using husuarios)
          (by rwa [visiblesEn_ite]) (by rwa [visiblesEn_ite]) hve
        obtain ⟨us, hus⟩ := Repetible.setConversacion c _ _ s₁ hs₁ fallos
        refine ⟨us ++ fallos, s₂, List.mem_append_right _ hmem, ?_, hput⟩
        rw [bind_ok ((hrun _).trans hus)]
        exact hrun₂
    · simp only [if_neg hv] at hturno
      rw [visiblesEn_cons_of_not_visible hu hv] at hne hdifundible
      obtain ⟨fallos, s', hmem, hrun, hput⟩ := ih husuarios hne hdifundible hs
      exact ⟨fallos, s', hmem, (bind_ok (hturno fallos) _).trans hrun, hput⟩

theorem oculta_difundir (emisor : Usuario) (m : Mensaje) (telefonos : List Cadena) (mensaje : Cadena) :
    Oculta d (forM telefonos (difundir emisor m) >>= fun _ => responder mensaje true) ↔
      (∀ t ∈ telefonos, ∃ u, usuarioEn d t = some u) ∧ visiblesEn d telefonos ≠ [] ∧
        Difundible emisor m (visiblesEn d telefonos) d := by
  constructor
  · rintro ⟨fallos, hmem, hexito⟩
    cases hrun : (forM telefonos (difundir emisor m)).run (.inicio d fallos) with
    | error e s =>
      have hsal := salidas_difundir emisor m telefonos (Estado.ve_inicio d fallos)
      rw [hrun, final_error] at hsal
      rw [bind_error hrun, final_error, Estado.Exito, hsal] at hexito
      obtain ⟨_, hmem⟩ := hexito
      cases hmem
    | ok a s =>
      obtain ⟨husuarios, hdifundible, hlee⟩ := difundible_of_run (Estado.ve_inicio d fallos) hrun
      refine ⟨husuarios, fun hno => ?_, hdifundible⟩
      rw [bind_ok hrun, hlee hno] at hmem
      have hput : (final ((responder mensaje true).run (.inicio d fallos))).db.fallosPut = fallos := rfl
      rw [Estado.usados_self hput] at hmem
      cases hmem
  · rintro ⟨husuarios, hne, hdifundible⟩
    obtain ⟨fallos, s, hmem, hrun, hput⟩ := run_of_difundible husuarios hne hdifundible (Estado.ve_inicio d [])
    exact oculta_of_run hmem hrun hput mensaje

/-! ### Stores whose conversations stand under their own ids -/

/-- Every conversation stands under its own id. -/
def Propias (d : Cadena → Option Cadena) : Prop :=
  ∀ k c, conversacionEn d k = some c → c.getId ≠ keyIdConversacionNoEncontrada → c.getId = k

theorem conversacionEn_guardada_of_ne {c : Conversacion} {k : Cadena} (h : k ≠ c.getId) :
    conversacionEn (guardada d c) k = conversacionEn d k := by
  have hclave : claveBaseConversacion ++ k ≠ claveBaseConversacion ++ c.getId := fun h' => h (List.append_cancel_left h')
  have husuarios : ∀ k, guardada d c (claveBaseUsuario ++ k) = d (claveBaseUsuario ++ k) :=
    fun k => Function.update_of_ne (usuario_ne_conversacion _ _) _ _
  exact (uniforme_getConversacion (P := fun s =>
    s.db.datos (claveBaseConversacion ++ k) = d (claveBaseConversacion ++ k) ∧
    (∀ k, s.db.datos (claveBaseUsuario ++ k) = d (claveBaseUsuario ++ k)) ∧ s.db.fallosGet = [])
    (fun _ hs => ⟨hs.1, hs.2.2⟩) fun k _ hs => ⟨hs.2.1 k, hs.2.2⟩).valor_eq
    ⟨Function.update_of_ne hclave _ _, husuarios, rfl⟩ ⟨rfl, fun _ => rfl, rfl⟩

theorem id_deserealizar {id : Cadena} {ids : List Cadena} {mensajes : List Mensaje} {s s' : Estado} {c : Conversacion}
    (h : (Conversacion.deserealizar (Conversacion.texto id ids mensajes)).run s = .ok c s') : c.id = id := by
  have hid : (Value.object (Conversacion.campos id ids mensajes)).getString keyIdConversacion keyDefault = .ok id := rfl
  rw [Conversacion.deserealizar, Conversacion.parse_texto, bind_ok (run_ofJson_ok _ _)] at h
  simp only [if_true] at h
  rw [hid, bind_ok (run_ofJson_ok _ _)] at h
  obtain ⟨_, _, -, h⟩ := run_bind_eq_ok h
  obtain ⟨_, _, -, h⟩ := run_bind_eq_ok h
  obtain ⟨_, _, -, h⟩ := run_bind_eq_ok h
  obtain ⟨_, _, -, h⟩ := run_bind_eq_ok h
  cases h
  rfl

theorem getId_of_conversacionEn_guardada {c c' : Conversacion} (hid : c.getId ≠ [])
    (h : conversacionEn (guardada d c) c.getId = some c') : c'.getId = c.getId := by
  have hdato : guardada d c (claveBaseConversacion ++ c.getId) =
      some (Conversacion.texto c.getId (c.usuarios.map (·.id)) c.mensajes) := Function.update_self _ _ _
  have hrun := run_obtener_of_some (Estado.ve_inicio (guardada d c) []) h
  rw [Conversacion.obtener, getConversacion, bind_ok (run_getDato _ _ _), hdato, Option.getD_some,
    if_neg (Conversacion.texto_ne_noEncontrado _ _ _)] at hrun
  have hid' := id_deserealizar hrun
  rw [Conversacion.getId, hid', if_pos hid]

section Destino
variable {emisor u v : Usuario} {m : Mensaje} {c : Conversacion}

/-- A message can be stored when the conversation of the pair can be loaded. -/
theorem destino_eq_some_iff : destino d emisor u m = some c ↔
    ∃ c₀, conversacionEn d (emisor.id ++ Conversacion.guion :: u.id) = some c₀ ∧
      if c₀.getId ≠ keyIdConversacionNoEncontrada then c = c₀.agregarMensaje m
      else ∃ c₁, conversacionEn d (u.id ++ Conversacion.guion :: emisor.id) = some c₁ ∧
        c = if c₁.getId ≠ keyIdConversacionNoEncontrada then c₁.agregarMensaje m
          else Conversacion.nueva [emisor, u] [m] := by
  unfold destino
  cases h₀ : conversacionEn d (emisor.id ++ Conversacion.guion :: u.id) with
  | none => simp
  | some c₀ =>
    simp only [Option.bind_eq_bind, Option.bind_some, Option.some.injEq, exists_eq_left']
    split
    · exact ⟨fun h => (Option.some.inj h).symm, fun h => congrArg some h.symm⟩
    · simp only [Option.bind_eq_some_iff, Option.pure_def, Option.some.injEq, eq_comm (a := c)]

theorem exists_destino_iff : (∃ c, destino d emisor u m = some c) ↔
    ∃ c₀, conversacionEn d (emisor.id ++ Conversacion.guion :: u.id) = some c₀ ∧
      (c₀.getId = keyIdConversacionNoEncontrada →
        ∃ c₁, conversacionEn d (u.id ++ Conversacion.guion :: emisor.id) = some c₁) := by
  simp only [destino_eq_some_iff]
  constructor
  · rintro ⟨c, c₀, h₀, hc⟩
    refine ⟨c₀, h₀, fun hid => ?_⟩
    rw [if_neg (not_not.mpr hid)] at hc
    exact hc.imp fun _ h => h.1
  · rintro ⟨c₀, h₀, h₁⟩
    by_cases hid : c₀.getId = keyIdConversacionNoEncontrada
    · obtain ⟨c₁, h₁⟩ := h₁ hid
      exact ⟨_, c₀, h₀, by rw [if_neg (not_not.mpr hid)]; exact ⟨c₁, h₁, rfl⟩⟩
    · exact ⟨_, c₀, h₀, by rw [if_pos hid]⟩

/-- A message is stored under one of the two ids of the pair, from which a conversation was loaded; under the first one
when there was none. -/
theorem destino_id (h : Propias d) (he : emisor.id ≠ []) (hc : destino d emisor u m = some c) :
    c.getId ≠ [] ∧ ∃ c₀, conversacionEn d c.getId = some c₀ ∧
      (c₀.getId = keyIdConversacionNoEncontrada → c.getId = emisor.id ++ Conversacion.guion :: u.id) := by
  obtain ⟨c₀, h₀, hc⟩ := destino_eq_some_iff.mp hc
  split at hc
  · rename_i hid
    have hk : c.getId = emisor.id ++ Conversacion.guion :: u.id := by
      rw [hc]
      exact h _ c₀ h₀ hid
    rw [hk]
    exact ⟨by simp, c₀, h₀, fun _ => rfl⟩
  · obtain ⟨c₁, h₁, hc⟩ := hc
    split at hc
    · rename_i hid
      have hk : c.getId = u.id ++ Conversacion.guion :: emisor.id := by
        rw [hc]
        exact h _ c₁ h₁ hid
      rw [hk]
      exact ⟨by simp, c₁, h₁, fun h => absurd h hid⟩
    · rw [hc, Conversacion.getId_nueva he]
      exact ⟨by simp, c₀, h₀, fun _ => rfl⟩

theorem Propias.guardada (h : Propias d) (he : emisor.id ≠ []) (hc : destino d emisor u m = some c) :
    Propias (guardada d c) := by
  intro k c' hc' hid
  by_cases hk : k = c.getId
  · subst hk
    exact getId_of_conversacionEn_guardada (destino_id h he hc).1 hc'
  · rw [conversacionEn_guardada_of_ne hk] at hc'
    exact h k c' hc' hid

/-- The write of a message makes no conversation loadable: it goes to one that was. -/
theorem destino_of_guardada (h : Propias d) (he : emisor.id ≠ []) (hc : destino d emisor u m = some c)
    (hv : ∃ c', destino (MensajeroX.guardada d c) emisor v m = some c') : ∃ c', destino d emisor v m = some c' := by
  obtain ⟨-, k₀, hk₀, hnueva⟩ := destino_id h he hc
  obtain ⟨c₀, h₀, h₁⟩ := exists_destino_iff.mp hv
  rw [exists_destino_iff]
  by_cases hk : emisor.id ++ Conversacion.guion :: v.id = c.getId
  · rw [hk]
    refine ⟨k₀, hk₀, fun hid => ?_⟩
    -- a new conversation, of the same user
    have hvu : v.id = u.id := (List.cons.inj (List.append_cancel_left (hk.trans (hnueva hid)))).2
    obtain ⟨c₂, h₂, h₃⟩ := exists_destino_iff.mp ⟨c, hc⟩
    rw [← hvu, hk, hk₀] at h₂
    rw [hvu]
    exact h₃ (Option.some.inj h₂ ▸ hid)
  · rw [conversacionEn_guardada_of_ne hk] at h₀
    refine ⟨c₀, h₀, fun hid => ?_⟩
    by_cases hk' : v.id ++ Conversacion.guion :: emisor.id = c.getId
    · exact ⟨k₀, hk' ▸ hk₀⟩
    · obtain ⟨c₁, h₁⟩ := h₁ hid
      exact ⟨c₁, (conversacionEn_guardada_of_ne hk').symm.trans h₁⟩

end Destino

/-- In such a store the conversations of a broadcast can be loaded exactly when each can be from the data as they
were. -/
theorem difundible_iff {emisor : Usuario} {m : Mensaje} {us : List Usuario} (h : Propias d) (he : emisor.id ≠ []) :
    Difundible emisor m us d ↔ ∀ u ∈ us, ∃ c, destino d emisor u m = some c := by
  constructor
  · intro hd
    induction us generalizing d with
    | nil => exact fun _ hu => absurd hu List.not_mem_nil
    | cons u us ih =>
      obtain ⟨c, hc, hd | hd⟩ := hd
      · exact List.forall_mem_cons.mpr ⟨⟨c, hc⟩, ih h hd⟩
      · refine List.forall_mem_cons.mpr ⟨⟨c, hc⟩, fun v hv => ?_⟩
        exact destino_of_guardada h he hc (ih (h.guardada he hc) hd v hv)
  · intro hus
    induction us with
    | nil => trivial
    | cons u us ih =>
      obtain ⟨⟨c, hc⟩, hus⟩ := List.forall_mem_cons.mp hus
      exact ⟨c, hc, .inl (ih hus)⟩

section Central
variable {C : Central} (h : Representa C d)
include h

theorem Representa.usuarioEn (t : Cadena) : usuarioEn d t = some (C.usuario (md5 t)) := by
  have hrun : (Usuario.obtenerPorTelefono t).run (.inicio d []) = _ := h.run_getUsuario [] (md5 t)
  rw [MensajeroX.usuarioEn, leido, hrun]
  rfl

theorem Representa.conversacionEn_of_none {k : Cadena} (hk : C.buscar k = none) :
    conversacionEn d k = some Conversacion.noEncontrada := by
  rw [conversacionEn, leido, Conversacion.obtener, h.run_getConversacion_none [] hk]
  rfl

theorem Representa.propias : Propias d := by
  intro k c hc hid
  cases hk : C.buscar k with
  | none =>
    rw [h.conversacionEn_of_none hk] at hc
    cases hc
    exact absurd rfl hid
  | some chat =>
    obtain ⟨-, rfl⟩ := Central.buscar_eq_some_iff.mp hk
    have hrun := h.run_getConversacion_some [] hk
    rw [conversacionEn, leido, Conversacion.obtener, hrun] at hc
    cases hms : Conversacion.recargar chat.mensajes with
    | error e =>
      rw [hms] at hc
      cases hc
    | ok ms =>
      rw [hms] at hc
      cases hc
      exact if_pos (by simp [Chat.id])

end Central

end Escrituras

section Exito
variable [Aritmetica] {d : Cadena → Option Cadena}

/-- The request stores something before it reports success. -/
def TipoDeServicio.Guarda : TipoDeServicio → Prop
  | .registrarUsuario | .administrarPerfil | .almacenarConversacion | .almacenarListaDifusion | .checkinUsuario => True
  | _ => False

instance : (t : TipoDeServicio) → Decidable t.Guarda
  | .registrarUsuario | .administrarPerfil | .almacenarConversacion | .almacenarListaDifusion | .checkinUsuario =>
    .isTrue trivial
  | .prueba | .consultarUsuarioOnline | .obtenerIdConversacion | .obtenerConversacion | .obtenerConversaciones
  | .obtenerContactos | .invalido => .isFalse id

/-- What a request needs of the data to get to a write and to the report of its success. -/
def Servidor.Cumple (lugares : Value) (d : Cadena → Option Cadena) (p : Peticion) : Prop :=
  match parsearURI p with
  | .registrarUsuario =>
    ∃ u, usuarioEn d (getParametro p keyTelefono keyDefault) = some u ∧ u.id = keyIdUsuarioNoEncontrado
  | .administrarPerfil =>
    ∃ u, usuarioEn d (getParametro p keyTelefono keyDefault) = some u ∧ u.id ≠ keyIdUsuarioNoEncontrado ∧
      u.token = getParametro p keyTokenSesion keyDefault
  | .checkinUsuario =>
    ∃ u, usuarioEn d (getParametro p keyTelefono keyDefault) = some u ∧ u.id ≠ keyIdUsuarioNoEncontrado ∧
      ∃ ubicacion, Localizacion.calcularUbicacion lugares (coordenadas p) = .ok ubicacion
  | .almacenarConversacion =>
    ∃ e r, usuarioEn d (getParametro p keyIdUsuarioEmisor keyDefault) = some e ∧
      usuarioEn d (getParametro p keyIdUsuarioReceptor keyDefault) = some r ∧ e.id ≠ keyIdUsuarioNoEncontrado ∧
      r.id ≠ keyIdUsuarioNoEncontrado ∧ e.token = getParametro p keyTokenSesion keyDefault ∧
      ∃ c, destino d e r (mensajeDe p e) = some c
  | .almacenarListaDifusion =>
    ∃ telefonos e, getParametroVector p keyContantosTelefono = .ok telefonos ∧
      usuarioEn d (getParametro p keyIdUsuarioEmisor keyDefault) = some e ∧ e.id ≠ keyIdUsuarioNoEncontrado ∧
      e.token = getParametro p keyTokenSesion keyDefault ∧ (∀ t ∈ telefonos, ∃ u, usuarioEn d t = some u) ∧
      visiblesEn d telefonos ≠ [] ∧ Difundible e (mensajeDe p e) (visiblesEn d telefonos) d
  | _ => False

theorem oculta_administrarServicio (lugares : Value) {p : Peticion} (hp : (Servidor.parsearURI p).Guarda) :
    Oculta d (Servidor.administrarServicio lugares p) ↔ Servidor.Cumple lugares d p := by
  unfold Servidor.administrarServicio Servidor.Cumple
  cases h : Servidor.parsearURI p <;> rw [h] at hp
  case registrarUsuario =>
    simp only [Servicio.registrarUsuario, obtenerUsuario, oculta_obtenerPorTelefono, oculta_ite, not_oculta_responder,
      oculta_persistir, if_false_left, not_not, and_true]
  case administrarPerfil =>
    simp only [Servicio.administrarPerfil, obtenerUsuario, oculta_obtenerPorTelefono, oculta_ite, not_oculta_responder,
      oculta_persistir, if_false_right, and_true]
  case checkinUsuario =>
    simp only [checkIn, obtenerUsuario, oculta_obtenerPorTelefono, oculta_ite, not_oculta_responder, oculta_ofJson,
      oculta_persistir, if_false_right, and_true]
  case almacenarConversacion =>
    simp only [Servicio.almacenarConversacion, oculta_obtenerPorTelefono, oculta_ite, not_oculta_responder,
      oculta_almacenarMensaje, if_false_left, if_false_right, not_or, exists_and_left, and_assoc]
  case almacenarListaDifusion =>
    simp only [Servicio.almacenarListaDifusion, oculta_ofJson, oculta_obtenerPorTelefono, oculta_ite,
      not_oculta_responder, oculta_difundir, if_false_left, not_not, exists_and_left]
  all_goals cases hp

/-- Whatever writes of the request fail, a success is not reported then. -/
def Servidor.ExitoGuardado (lugares : Value) (d : Cadena → Option Cadena) (p : Peticion) : Prop :=
  ∀ fallos, true ∈ Estado.usados fallos (atender lugares { datos := d, fallosPut := fallos } p) →
    ¬ (atender lugares { datos := d, fallosPut := fallos } p).Exito

/-- **Success is only reported for what was stored**, on any data, exactly when the request does not find in them what it
needs: it is refused, it raises, or its list has no visible contact. -/
theorem exito_guardado_iff (lugares : Value) (d : Cadena → Option Cadena) {p : Peticion}
    (hp : (Servidor.parsearURI p).Guarda) :
    Servidor.ExitoGuardado lugares d p ↔ ¬ Servidor.Cumple lugares d p := by
  rw [← oculta_administrarServicio lugares hp]
  exact ⟨fun h ⟨fallos, hmem, hexito⟩ => h fallos hmem hexito, fun h fallos hmem hexito => h ⟨fallos, hmem, hexito⟩⟩

end Exito

section Registro
attribute [local instance] Aritmetica.nula

theorem fallo_registro :
    (Servidor.atender .null { datos := RocksDB.vacia.datos, fallosPut := [true] } (.registro (bytes "1"))).salidas =
      [respuesta (bytes "Usuario registrado correctamente") true] ∧
    Estado.usados [true] (Servidor.atender .null { datos := RocksDB.vacia.datos, fallosPut := [true] }
      (.registro (bytes "1"))) = [true] ∧
    ¬ (Servidor.atender .null { datos := RocksDB.vacia.datos, fallosPut := [true] }
      (.registro (bytes "1"))).db.tieneUsuario (md5 (bytes "1")) := by
  decide +kernel

/-- A registration in an empty store reports success although its write fails and the user is not stored. -/
theorem no_exito_guardado_registro :
    (Servidor.atender .null { datos := RocksDB.vacia.datos, fallosPut := [true] } (.registro (bytes "1"))).salidas =
      [respuesta (bytes "Usuario registrado correctamente") true] ∧
    ¬ (Servidor.atender .null { datos := RocksDB.vacia.datos, fallosPut := [true] }
      (.registro (bytes "1"))).db.tieneUsuario (md5 (bytes "1")) ∧
    ¬ Servidor.ExitoGuardado .null RocksDB.vacia.datos (.registro (bytes "1")) := by
  obtain ⟨hsalidas, husados, husuario⟩ := fallo_registro
  refine ⟨hsalidas, husuario, fun h => h [true] ?_ ?_⟩
  · rw [husados]
    exact List.mem_cons_self
  · rw [Estado.Exito, hsalidas]
    exact ⟨_, List.mem_cons_self⟩

/-- After the registrations of `1` and `2`, another one of `1` is refused whatever its writes do, while a message to `2`
can be lost and reported as sent. -/
theorem exito_guardado_registro :
    let d := (Servidor.ejecutar .null .vacia [.registro (bytes "1"), .registro (bytes "2")]).datos
    Servidor.ExitoGuardado .null d (.registro (bytes "1")) ∧
      ¬ Servidor.ExitoGuardado .null d (.envio (bytes "1") (bytes "2") [] (bytes "hola") (bytes "10:00")) := by
  intro d
  rw [exito_guardado_iff .null d (by decide), exito_guardado_iff .null d (by decide), not_not]
  obtain ⟨d', hdb, h⟩ := ejecutar_vacia .null [.registro (bytes "1"), .registro (bytes "2")]
  obtain rfl : d = d' := congrArg RocksDB.datos hdb
  generalize hC : Central.vacia.ejecutar .null [.registro (bytes "1"), .registro (bytes "2")] = C at h
  have hcentral : (C.usuario (md5 (bytes "1"))).id ≠ keyIdUsuarioNoEncontrado ∧
      (C.usuario (md5 (bytes "2"))).id ≠ keyIdUsuarioNoEncontrado ∧ (C.usuario (md5 (bytes "1"))).token = [] ∧
      C.chats = [] := by
    rw [← hC]
    decide +kernel
  obtain ⟨hid₁, hid₂, htoken, hchats⟩ := hcentral
  have hbuscar : ∀ k, C.buscar k = none := by
    intro k
    rw [Central.buscar, hchats]
    rfl
  constructor
  · rintro ⟨u, hu, hno⟩
    rw [Option.some.inj (hu.symm.trans (h.usuarioEn (bytes "1")))] at hno
    exact hid₁ hno
  · refine ⟨_, _, h.usuarioEn (bytes "1"), h.usuarioEn (bytes "2"), hid₁, hid₂, htoken, ?_⟩
    rw [exists_destino_iff]
    exact ⟨_, h.conversacionEn_of_none (hbuscar _), fun _ => ⟨_, h.conversacionEn_of_none (hbuscar _)⟩⟩

end Registro

/-! ## Reads that fail -/

def Indexado (d : Cadena → Option Cadena) (u k : Cadena) : Prop :=
  ∃ v, d (claveBaseConversacionesPorUsuario ++ u) = some v ∧ k ∈ StringUtil.split v SeparadorListaBD

def textoReducido (idConversacion : Cadena) : Cadena := SeparadorListaBD :: idConversacion

/-- The store after the turn of `setConversacion` for a user, whose read may fail. -/
def indexadoCon (idConversacion : Cadena) (fallo : Bool) (d : Cadena → Option Cadena) (u : Cadena) :
    Cadena → Option Cadena :=
  if fallo then Function.update d (claveBaseConversacionesPorUsuario ++ u) (some (textoReducido idConversacion))
  else indexado idConversacion d u

/-- The store after the loop of `setConversacion`. -/
def indexadosCon (idConversacion : Cadena) : List Bool → List Cadena → (Cadena → Option Cadena) → Cadena → Option Cadena
  | _, [], d => d
  | fallos, u :: us, d =>
    indexadosCon idConversacion fallos.tail us (indexadoCon idConversacion (fallos.headD false) d u)

theorem entrada_nil (idConversacion : Cadena) : entrada idConversacion [] = textoReducido idConversacion := by
  have hvacio : StringUtil.split [] SeparadorListaBD = [] := Separated.split_nil _
  rw [entrada, hvacio, if_neg List.not_mem_nil]
  rfl

theorem run_indexar_con (idConversacion : Cadena) (u : Usuario) (d : Cadena → Option Cadena) (fallos : List Bool)
    (o : List Cadena) :
    (indexar idConversacion u).run ⟨{ datos := d, fallosGet := fallos }, o⟩ =
      .ok ⟨⟩ ⟨{ datos := indexadoCon idConversacion (fallos.headD false) d u.id, fallosGet := fallos.tail }, o⟩ := by
  rw [indexar_eq, bind_ok (run_getDato_eq _ _), indexadoCon]
  dsimp only
  cases fallos.headD false with
  | true =>
    rw [if_pos rfl, if_pos rfl, entrada_nil]
    rfl
  | false => rfl

theorem run_forM_indexar_con (idConversacion : Cadena) (us : List Usuario) (d : Cadena → Option Cadena)
    (fallos : List Bool) (o : List Cadena) :
    ∃ resto, (forM us (indexar idConversacion)).run ⟨{ datos := d, fallosGet := fallos }, o⟩ =
      .ok ⟨⟩ ⟨{ datos := indexadosCon idConversacion fallos (us.map (·.id)) d, fallosGet := resto }, o⟩ := by
  induction us generalizing d fallos with
  | nil => exact ⟨fallos, rfl⟩
  | cons u us ih =>
    obtain ⟨resto, hresto⟩ := ih (indexadoCon idConversacion (fallos.headD false) d u.id) fallos.tail
    refine ⟨resto, ?_⟩
    rw [List.forM_cons, bind_ok (run_indexar_con idConversacion u d fallos o), hresto]
    rfl

theorem mem_split_entrada {k idConversacion v : Cadena} :
    (k ∈ StringUtil.split v SeparadorListaBD → k ∈ StringUtil.split (entrada idConversacion v) SeparadorListaBD) ∧
    (k ∈ StringUtil.split (entrada idConversacion v) SeparadorListaBD →
      k ∈ StringUtil.split v SeparadorListaBD ∨
        k ∈ StringUtil.split (textoReducido idConversacion) SeparadorListaBD) := by
  unfold entrada
  split
  · exact ⟨id, .inl⟩
  · obtain ⟨us, hus, hsuffix⟩ := Separated.split_append_cons SeparadorListaBD v idConversacion
    rw [StringUtil.split, StringUtil.split, StringUtil.split, hus]
    refine ⟨List.mem_append_left _, fun hk => ?_⟩
    exact (List.mem_append.mp hk).imp_right fun hk => hsuffix.subset hk

/-- The index of the user has the entries of one that was started again. -/
def Reducido (idConversacion : Cadena) (d : Cadena → Option Cadena) (u : Cadena) : Prop :=
  ∃ v, d (claveBaseConversacionesPorUsuario ++ u) = some v ∧
    ∀ k, k ∈ StringUtil.split v SeparadorListaBD ↔
      k ∈ StringUtil.split (textoReducido idConversacion) SeparadorListaBD

section Turno
variable {idConversacion : Cadena} {d : Cadena → Option Cadena} {u v k : Cadena}

theorem indexadoCon_of_ne (h : u ≠ v) (fallo : Bool) :
    indexadoCon idConversacion fallo d v (claveBaseConversacionesPorUsuario ++ u) =
      d (claveBaseConversacionesPorUsuario ++ u) := by
  have hkey : claveBaseConversacionesPorUsuario ++ u ≠ claveBaseConversacionesPorUsuario ++ v :=
    fun h' => h (List.append_cancel_left h')
  unfold indexadoCon indexado
  split <;> exact Function.update_of_ne hkey _ _

theorem Indexado.indexadoCon (h : Indexado d u k) {fallo : Bool} (hfallo : ¬ (u = v ∧ fallo = true)) :
    Indexado (indexadoCon idConversacion fallo d v) u k := by
  obtain ⟨t, ht, hk⟩ := h
  by_cases huv : u = v
  · subst huv
    obtain rfl : fallo = false := by simpa using hfallo
    refine ⟨entrada idConversacion t, ?_, mem_split_entrada.1 hk⟩
    show indexado idConversacion d u _ = _
    rw [indexado, Function.update_self, ht, Option.getD_some]
  · exact ⟨t, (indexadoCon_of_ne huv fallo).trans ht, hk⟩

theorem reducido_of_fallo : Reducido idConversacion (indexadoCon idConversacion true d u) u :=
  ⟨_, Function.update_self _ _ _, fun _ => Iff.rfl⟩

theorem Reducido.indexadoCon (h : Reducido idConversacion d u) (fallo : Bool) (v : Cadena) :
    Reducido idConversacion (indexadoCon idConversacion fallo d v) u := by
  by_cases huv : u = v
  · subst huv
    cases fallo with
    | true => exact reducido_of_fallo
    | false =>
      obtain ⟨t, ht, hk⟩ := h
      refine ⟨entrada idConversacion t, ?_, fun k => ⟨fun hmem => ?_, fun hmem => ?_⟩⟩
      · show indexado idConversacion d u _ = _
        rw [indexado, Function.update_self, ht, Option.getD_some]
      · exact (mem_split_entrada.2 hmem).elim (hk k).mp id
      · exact mem_split_entrada.1 ((hk k).mpr hmem)
  · obtain ⟨t, ht, hk⟩ := h
    exact ⟨t, (indexadoCon_of_ne huv fallo).trans ht, hk⟩

end Turno

section Lazo
variable {idConversacion u : Cadena}

theorem Reducido.indexadosCon (fallos : List Bool) (us : List Cadena) {d : Cadena → Option Cadena}
    (h : Reducido idConversacion d u) : Reducido idConversacion (indexadosCon idConversacion fallos us d) u := by
  induction us generalizing fallos d with
  | nil => exact h
  | cons v us ih => exact ih fallos.tail (h.indexadoCon (fallos.headD false) v)

/-- **A failed read starts the index again**, whatever the other turns do. -/
theorem reducido_indexadosCon {fallos : List Bool} {us : List Cadena} (h : (u, true) ∈ us.zip fallos)
    (d : Cadena → Option Cadena) : Reducido idConversacion (indexadosCon idConversacion fallos us d) u := by
  induction us generalizing fallos d with
  | nil => cases h
  | cons v us ih =>
    cases fallos with
    | nil => cases h
    | cons fallo fallos =>
      rcases List.mem_cons.mp h with heq | h
      · obtain ⟨rfl, rfl⟩ := Prod.mk.inj heq
        exact reducido_of_fallo.indexadosCon fallos us
      · exact ih h _

theorem indexado_indexadosCon {fallos : List Bool} {us : List Cadena} (hno : (u, true) ∉ us.zip fallos)
    {d : Cadena → Option Cadena} {k : Cadena} (h : Indexado d u k) :
    Indexado (indexadosCon idConversacion fallos us d) u k := by
  induction us generalizing fallos d with
  | nil => exact h
  | cons v us ih =>
    cases fallos with
    | nil => exact ih (by simp) (h.indexadoCon (by simp))
    | cons fallo fallos =>
      rw [List.zip_cons_cons, List.mem_cons, not_or] at hno
      refine ih hno.2 (h.indexadoCon ?_)
      rintro ⟨rfl, rfl⟩
      exact hno.1 rfl

end Lazo

/-- The data after `setConversacion` on some data, with the outcomes of its reads. -/
def datosTras [LibC] (d : Cadena → Option Cadena) (fallos : List Bool) (c : Conversacion) :
    Cadena → Option Cadena :=
  (final ((setConversacion c).run { db := { datos := d, fallosGet := fallos } })).db.datos

theorem datosTras_eq [LibC] (d : Cadena → Option Cadena) (fallos : List Bool) (c : Conversacion) :
    datosTras d fallos c = indexadosCon c.getId fallos (c.usuarios.map (·.id))
      (Function.update d (claveBaseConversacion ++ c.getId) (some c.serializar)) := by
  obtain ⟨resto, hlazo⟩ := run_forM_indexar_con c.getId c.usuarios
    (Function.update d (claveBaseConversacion ++ c.getId) (some c.serializar)) fallos []
  have hrun : (setConversacion c).run { db := { datos := d, fallosGet := fallos } } = _ := hlazo
  rw [datosTras, hrun]
  rfl

/-- **A read that fails erases no id from an index**, on any data, exactly when the index of every user whose read fails
had no id besides the one that is entered. -/
theorem indice_conservado_iff [LibC] (d : Cadena → Option Cadena) (c : Conversacion) (fallos : List Bool) :
    (∀ u k, k ≠ keyDatoNoEncontrado → Indexado d u k → Indexado (datosTras d fallos c) u k) ↔
      ∀ u, (u, true) ∈ (c.usuarios.map (·.id)).zip fallos → ∀ k, k ≠ keyDatoNoEncontrado → Indexado d u k →
        k ∈ StringUtil.split (textoReducido c.getId) SeparadorListaBD := by
  -- the write of the conversation is not one of an index
  have hcomienzo : ∀ u k, Indexado d u k →
      Indexado (Function.update d (claveBaseConversacion ++ c.getId) (some c.serializar)) u k := by
    rintro u k ⟨v, hv, hk⟩
    exact ⟨v, (Function.update_of_ne (conversacion_ne_indice _ _).symm _ _).trans hv, hk⟩
  rw [datosTras_eq]
  constructor
  · intro h u hfallo k hne hk
    obtain ⟨v, hv, hentradas⟩ := reducido_indexadosCon hfallo _
    obtain ⟨v', hv', hk'⟩ := h u k hne hk
    obtain rfl := Option.some.inj (hv.symm.trans hv')
    exact (hentradas k).mp hk'
  · intro h u k hne hk
    by_cases hfallo : (u, true) ∈ (c.usuarios.map (·.id)).zip fallos
    · obtain ⟨v, hv, hentradas⟩ := reducido_indexadosCon hfallo _
      exact ⟨v, hv, (hentradas k).mpr (h u hfallo k hne hk)⟩
    · exact indexado_indexadosCon hfallo (hcomienzo u k hk)

/-- The ids in the index of a user of a central are entries of the store. -/
theorem Representa.indexado [LibC] {C : Central} {d : Cadena → Option Cadena} (h : Representa C d) {u k : Cadena}
    (hk : k ∈ C.indice u) : Indexado d u k := by
  have htexto := h.indices u
  have hentradas := split_textoIndice (indice_entrada (C := C) u)
  rw [← htexto] at hentradas
  cases hv : d (claveBaseConversacionesPorUsuario ++ u) with
  | none =>
    -- the marker of a missing index is its only entry
    have hmarca : StringUtil.split keyDatoNoEncontrado SeparadorListaBD = [keyDatoNoEncontrado] := by decide +kernel
    rw [hv, Option.getD_none, hmarca] at hentradas
    rw [← (List.cons.inj hentradas).2] at hk
    cases hk
  | some v =>
    rw [hv, Option.getD_some] at hentradas
    exact ⟨v, hv, hentradas ▸ List.mem_cons_of_mem _ hk⟩

section Charla
attribute [local instance] Aritmetica.nula

/-- After the conversation of `1` and `2`, one of `1` and `3` is stored, and the index of `1` cannot be read. -/
theorem indice_borrado :
    let d := (Servidor.ejecutar .null .vacia charla).datos
    let c := Conversacion.nueva [Usuario.nuevo [] (bytes "1") [] [], Usuario.nuevo [] (bytes "3") [] []]
      [Mensaje.nuevo (bytes "hola") (md5 (bytes "1")) (bytes "10:05")]
    let k := md5 (bytes "1") ++ Conversacion.guion :: md5 (bytes "2")
    k ≠ keyDatoNoEncontrado ∧ Indexado d (md5 (bytes "1")) k ∧ ¬ Indexado (datosTras d [true] c) (md5 (bytes "1")) k := by
  intro d c k
  have hdistinto : k ∉ StringUtil.split (textoReducido c.getId) SeparadorListaBD ∧ k ≠ keyDatoNoEncontrado := by
    decide +kernel
  refine ⟨hdistinto.2, ?_, ?_⟩
  · obtain ⟨d', hdb, h⟩ := ejecutar_vacia .null charla
    have hd : d = d' := congrArg RocksDB.datos hdb
    rw [hd]
    exact h.indexado (by decide +kernel)
  · rintro ⟨v, hv, hk⟩
    have hreducido : Reducido c.getId (datosTras d [true] c) (md5 (bytes "1")) := by
      rw [datosTras_eq]
      exact reducido_indexadosCon List.mem_cons_self _
    obtain ⟨v', hv', hentradas⟩ := hreducido
    obtain rfl := Option.some.inj (hv'.symm.trans hv)
    exact hdistinto.1 ((hentradas k).mp hk)

end Charla

end MensajeroX
