import MensajeroX.Central.Ejecucion

/-!
# The format of stored conversations

The messages of a conversation are kept as one text, joined by a separator that no layer escapes, and cut at every
separator when it is loaded. So a text of a client can contain cuts of its own.

* `deserealizar_serializar_iff` : **a conversation is read back as it was exactly when no message contains the
  separator**;
* `Mensaje.Estable` : a message whose pieces, and the pieces of what is read from them, are read without an exception;
* `obtener_sin_excepcion` : **no load raises** on the store of a run that sends stable messages.
-/

namespace MensajeroX
open Bytes JsonCpp BaseDeDatos Efectos Servicio

/-! ## Round trip -/

/-- A user with the id of `u` is stored. -/
def Usuario.Persistido [LibC] (d : Cadena → Option Cadena) (u : Usuario) : Prop :=
  ∃ v : Usuario, v.id = u.id ∧ d (claveBaseUsuario ++ u.id) = some v.serializar

theorem getId_cargada (c : Conversacion) {us : List Usuario} (ms : List Mensaje)
    (hus : us.map (·.id) = c.usuarios.map (·.id)) :
    ({ id := c.getId, mensajes := ms, usuarios := us } : Conversacion).getId = c.getId := by
  by_cases hid : c.getId = []
  · have hnil : c.id = [] := by
      by_contra hne
      rw [Conversacion.getId, if_pos hne] at hid
      exact hne hid
    rw [Conversacion.getId, hid, if_neg (not_not.mpr rfl), hus, ← hid, Conversacion.getId, hnil,
      if_neg (not_not.mpr rfl)]
  · rw [Conversacion.getId, if_pos hid]

section IdaYVuelta
variable [LibC] {d : Cadena → Option Cadena} {c : Conversacion}

theorem run_deserealizar_serializar (o : List Cadena) (hpersistidos : ∀ u ∈ c.usuarios, u.Persistido d)
    (hids : ∀ u ∈ c.usuarios, u.id ≠ [] ∧ SeparadorListaBD ∉ u.id) :
    ∃ us : List Usuario, us.map (·.id) = c.usuarios.map (·.id) ∧
      (Conversacion.deserealizar c.serializar).run (.sano d o) =
        match Conversacion.recargar c.mensajes with
        | .ok ms => .ok { id := c.getId, mensajes := ms, usuarios := us } (.sano d o)
        | .error e => .error (.json e) (.sano d o) := by
  have hleer : ∀ i ∈ c.usuarios.map (·.id), ∃ v, (getUsuario i).run (.sano d o) = .ok v (.sano d o) ∧ v.id = i := by
    intro i hi
    obtain ⟨u, hu, rfl⟩ := List.mem_map.mp hi
    obtain ⟨v, hid, hv⟩ := hpersistidos u hu
    exact ⟨v, run_getUsuario d o (x := some v) hv, hid⟩
  choose! f hf hfid using hleer
  refine ⟨(c.usuarios.map (·.id)).map f, ?_, ?_⟩
  · rw [List.map_map]
    exact (List.map_congr_left hfid).trans (List.map_id _)
  · rw [Conversacion.serializar_eq]
    refine run_deserealizar_texto d o ?_ ?_ hf c.getId c.mensajes
    · rw [List.forall_mem_map]
      exact fun u hu => (hids u hu).1
    · rw [List.forall_mem_map]
      exact fun u hu => (hids u hu).2

/-- **A conversation is read back as it was exactly when no message contains the separator**: the same id, the same
users in the same order and the same messages. -/
theorem deserealizar_serializar_iff (o : List Cadena) (hpersistidos : ∀ u ∈ c.usuarios, u.Persistido d)
    (hids : ∀ u ∈ c.usuarios, u.id ≠ [] ∧ SeparadorListaBD ∉ u.id) :
    (∃ c' : Conversacion, (Conversacion.deserealizar c.serializar).run (.sano d o) = .ok c' (.sano d o) ∧
      c'.getId = c.getId ∧ c'.usuarios.map (·.id) = c.usuarios.map (·.id) ∧ c'.mensajes = c.mensajes) ↔
    ∀ m ∈ c.mensajes, m.SinSeparador := by
  obtain ⟨us, hus, hrun⟩ := run_deserealizar_serializar o hpersistidos hids
  rw [hrun, ← Conversacion.recargar_eq_self_iff]
  constructor
  · rintro ⟨c', hc', -, -, hms⟩
    cases hrec : Conversacion.recargar c.mensajes with
    | error e =>
      rw [hrec] at hc'
      cases hc'
    | ok ms =>
      rw [hrec] at hc'
      cases hc'
      rw [← hms]
  · intro hrec
    rw [hrec]
    exact ⟨_, rfl, getId_cargada c _ hus, hus, rfl⟩

end IdaYVuelta

section Ana
attribute [local instance] Aritmetica.nula

def ana : Usuario := .nuevo (bytes "Ana") (bytes "1") [] []

def beto : Usuario := .nuevo (bytes "Beto") (bytes "2") [] []

def agenda : Cadena → Option Cadena :=
  Function.update (Function.update (fun _ => none) (claveBaseUsuario ++ ana.id) (some ana.serializar))
    (claveBaseUsuario ++ beto.id) (some beto.serializar)

def anaBeto (cuerpo : Cadena) : Conversacion := .nueva [ana, beto] [.nuevo cuerpo ana.id (bytes "10:00")]

theorem deserealizar_serializar_anaBeto :
    ∃ c' : Conversacion,
      (Conversacion.deserealizar (anaBeto (bytes "hola")).serializar).run (.sano agenda []) = .ok c' (.sano agenda []) ∧
      c'.getId = (anaBeto (bytes "hola")).getId ∧
      c'.usuarios.map (·.id) = (anaBeto (bytes "hola")).usuarios.map (·.id) ∧
      c'.mensajes = (anaBeto (bytes "hola")).mensajes := by
  have hana : ana.Persistido agenda := ⟨ana, rfl, by decide +kernel⟩
  have hbeto : beto.Persistido agenda := ⟨beto, rfl, by decide +kernel⟩
  refine (deserealizar_serializar_iff [] (c := anaBeto (bytes "hola")) ?_ (by decide +kernel)).mpr (by decide +kernel)
  simpa [anaBeto, Conversacion.nueva] using ⟨hana, hbeto⟩

/-- A `#` in a body is a cut: two messages are read where one was stored. -/
theorem deserealizar_serializar_cortado :
    ¬ ∃ c' : Conversacion,
      (Conversacion.deserealizar (anaBeto (bytes "a#b")).serializar).run (.sano agenda []) = .ok c' (.sano agenda []) ∧
      c'.getId = (anaBeto (bytes "a#b")).getId ∧
      c'.usuarios.map (·.id) = (anaBeto (bytes "a#b")).usuarios.map (·.id) ∧
      c'.mensajes = (anaBeto (bytes "a#b")).mensajes := by
  rintro ⟨c', hrun, -, -, hms⟩
  have hdos : ((Conversacion.deserealizar (anaBeto (bytes "a#b")).serializar).run' (.sano agenda [])).map
      (·.mensajes.length) = some 2 := by decide +kernel
  rw [EStateM.run', hrun] at hdos
  simp [hms, anaBeto, Conversacion.nueva] at hdos

end Ana

/-! ## Exceptions -/

/-- A message that can be stored and loaded any number of times: it is in a set of messages whose pieces are all
read, without an exception, as messages of the set. -/
def Mensaje.Estable [LibC] (m : Mensaje) : Prop :=
  ∃ S : Set Mensaje, m ∈ S ∧ ∀ x ∈ S, ∀ t ∈ Conversacion.piezas x, ∃ y ∈ S, Mensaje.deserealizar t = .ok y

section Excepciones
variable [LibC]

theorem Mensaje.Estable.pieza {m : Mensaje} (h : m.Estable) {t : Cadena} (ht : t ∈ Conversacion.piezas m) :
    ∃ y : Mensaje, y.Estable ∧ Mensaje.deserealizar t = .ok y := by
  obtain ⟨S, hm, hS⟩ := h
  obtain ⟨y, hy, hleer⟩ := hS m hm t ht
  exact ⟨y, ⟨S, hy, hS⟩, hleer⟩

theorem recargar_estable {ms : List Mensaje} (h : ∀ m ∈ ms, m.Estable) :
    ∃ ms', Conversacion.recargar ms = .ok ms' ∧ ∀ m ∈ ms', m.Estable := by
  have hpiezas : ∀ t ∈ ms.flatMap Conversacion.piezas, ∃ y : Mensaje, y.Estable ∧ Mensaje.deserealizar t = .ok y := by
    intro t ht
    obtain ⟨m, hm, ht⟩ := List.mem_flatMap.mp ht
    exact (h m hm).pieza ht
  obtain ⟨ms', hms'⟩ := exists_mapM_eq_ok_iff.mpr fun t ht => (hpiezas t ht).imp fun _ => And.right
  refine ⟨ms', by rw [Conversacion.recargar_eq, hms'], fun m hm => ?_⟩
  obtain ⟨t, ht, hleer⟩ := exists_of_mem_mapM hms' hm
  obtain ⟨y, hy, hleer'⟩ := hpiezas t ht
  rw [hleer] at hleer'
  cases hleer'
  exact hy

end Excepciones

section Corridas
variable [Aritmetica]

theorem estable_ejecutar (lugares : Value) {ps : List Peticion} (hps : ∀ p ∈ ps, p.Envia → p.mensaje.Estable) :
    (Central.vacia.ejecutar lugares ps).Todos Mensaje.Estable := by
  refine Central.todos_ejecutar ?_ hps (Central.todos_vacia _) lugares
  intro ms ms' hms hms'
  obtain ⟨ms'', hms'', hestable⟩ := recargar_estable hms
  rw [hms'] at hms''
  cases hms''
  exact hestable

/-- No load of the store raises. -/
def SinExcepciones (db : RocksDB) : Prop :=
  ∀ k, (∃ c s, (Conversacion.obtener k).run { db := db } = .ok c s) ∧
    ∃ u s, (Usuario.obtener k).run { db := db } = .ok u s

theorem Representa.sinExcepciones_cargadas {C : Central} {d : Cadena → Option Cadena} (h : Representa C d) :
    SinExcepciones { datos := d } ↔ ∀ c ∈ C.chats, ∃ ms, Conversacion.recargar c.mensajes = .ok ms := by
  have hcarga : ∀ k, (∃ c s, (Conversacion.obtener k).run { db := { datos := d } } = .ok c s) ↔
      ∀ c, C.buscar k = some c → c.Legible := fun k => acaba_iff.symm.trans (h.carga_iff k)
  constructor
  · intro hsin c hc
    exact (hcarga c.id).mp (hsin c.id).1 c (Central.buscar_eq_some_iff.mpr ⟨hc, rfl⟩)
  · intro hms k
    refine ⟨(hcarga k).mpr fun c hc => ?_, _, _, h.run_getUsuario [] k⟩
    exact hms c (Central.buscar_eq_some_iff.mp hc).1

/-! ### Repeated sends -/

/-- A user registers and writes the same message to themself, `n` times. -/
def repetido (telefono cuerpo fecha : CString) (n : Nat) : List Peticion :=
  .registro telefono.val :: List.replicate n (.envio telefono.val telefono.val [] cuerpo.val fecha.val)

section Repetido
variable (lugares : Value) (telefono cuerpo fecha : CString)

omit [Aritmetica] in
theorem repetido_envio {p : Peticion} (hp : p = .envio telefono.val telefono.val [] cuerpo.val fecha.val) :
    Servidor.parsearURI p = .almacenarConversacion ∧ p.emisor = md5 telefono.val ∧ p.receptor = md5 telefono.val ∧
      getParametro p keyTokenSesion keyDefault = [] ∧
      p.mensaje = .nuevo cuerpo.val (md5 telefono.val) fecha.val := by
  subst hp
  exact ⟨rfl, Peticion.envio_emisor telefono telefono .vacia cuerpo fecha,
    Peticion.envio_receptor telefono telefono .vacia cuerpo fecha,
    Peticion.envio_token telefono telefono .vacia cuerpo fecha,
    Peticion.envio_mensaje telefono telefono .vacia cuerpo fecha⟩

theorem repetido_zero :
    Central.vacia.ejecutar lugares (repetido telefono cuerpo fecha 0) =
      Central.vacia.conUsuario (.alta (.registro telefono.val)) := rfl

theorem repetido_succ {n : Nat} (hn : (Central.vacia.ejecutar lugares (repetido telefono cuerpo fecha n)).usuarios
      (md5 telefono.val) = some (.alta (.registro telefono.val))) :
    Central.vacia.ejecutar lugares (repetido telefono cuerpo fecha (n + 1)) =
      final ((Central.vacia.ejecutar lugares (repetido telefono cuerpo fecha n)).entregar (md5 telefono.val)
        (md5 telefono.val) (.nuevo cuerpo.val (md5 telefono.val) fecha.val)) := by
  obtain ⟨hruta, hemisor, hreceptor, htoken, hmensaje⟩ := repetido_envio telefono cuerpo fecha rfl
  have hrun : repetido telefono cuerpo fecha (n + 1) = repetido telefono cuerpo fecha n ++
      [.envio telefono.val telefono.val [] cuerpo.val fecha.val] := by
    rw [repetido, List.replicate_succ', ← List.cons_append]
    rfl
  rw [hrun, Central.ejecutar_append]
  show (Central.atender _ lugares _).central = _
  rw [Central.atender_envio lugares hruta (hemisor.symm ▸ hn) (hreceptor.symm ▸ hn) htoken.symm,
    Central.central_seguido, hemisor, hreceptor, hmensaje]

theorem repetido_usuario (n : Nat) :
    (Central.vacia.ejecutar lugares (repetido telefono cuerpo fecha n)).usuarios (md5 telefono.val) =
      some (.alta (.registro telefono.val)) := by
  induction n with
  | zero =>
    have hid : (Registrado.alta (.registro telefono.val)).id = md5 telefono.val :=
      congrArg md5 (Peticion.registro_telefono telefono)
    rw [repetido_zero, ← hid]
    exact Function.update_self ..
  | succ n ih => rw [repetido_succ lugares telefono cuerpo fecha ih, Central.usuarios_entregar, ih]

/-- If the store of no repetition raises, the message is stable: what the repetitions keep is the set. -/
theorem estable_of_repetido
    (h : ∀ n, SinExcepciones (Servidor.ejecutar lugares .vacia (repetido telefono cuerpo fecha n))) :
    (Mensaje.nuevo cuerpo.val (md5 telefono.val) fecha.val).Estable := by
  have husuario := repetido_usuario lugares telefono cuerpo fecha
  have hsome : ∀ n, ((Central.vacia.ejecutar lugares (repetido telefono cuerpo fecha n)).usuarios
      (md5 telefono.val)).isSome := fun n => by rw [husuario n]; rfl
  refine ⟨{x | ∃ n c, (Central.vacia.ejecutar lugares (repetido telefono cuerpo fecha n)).entre (md5 telefono.val)
    (md5 telefono.val) = some c ∧ x ∈ c.mensajes}, ⟨1, ?_⟩, ?_⟩
  · have hnone : (Central.vacia.ejecutar lugares (repetido telefono cuerpo fecha 0)).entre (md5 telefono.val)
        (md5 telefono.val) = none := rfl
    rw [repetido_succ lugares telefono cuerpo fecha (husuario 0), Central.entregar, hnone, final_ok,
      Central.entre_conChat (hsome 0) (hsome 0) hnone, if_pos (.refl _ _)]
    exact ⟨_, rfl, List.mem_singleton_self _⟩
  · rintro x ⟨n, c, hc, hx⟩ t ht
    obtain ⟨d, hdb, hrep⟩ := ejecutar_vacia lugares (repetido telefono cuerpo fecha n)
    have hcarga := h n
    rw [hdb, hrep.sinExcepciones_cargadas] at hcarga
    obtain ⟨ms, hms⟩ := hcarga c (Central.entre_eq_some_iff.mp hc).1
    have hpieza : t ∈ c.mensajes.flatMap Conversacion.piezas := List.mem_flatMap.mpr ⟨x, hx, ht⟩
    have hleer := hms
    rw [Conversacion.recargar_eq] at hleer
    obtain ⟨y, hy, hleido⟩ := exists_mem_of_mapM hleer hpieza
    refine ⟨y, ⟨n + 1, ?_⟩, hleido⟩
    rw [repetido_succ lugares telefono cuerpo fecha (husuario n), Central.entregar, hc]
    dsimp only
    rw [Central.agregar, hms, final_ok, Central.entre_conMensajes hc, if_pos (.refl _ _)]
    exact ⟨_, rfl, List.mem_append_left _ hy⟩

end Repetido

/-- **A set of messages never makes a load raise exactly when all of its messages are stable**: no load raises after
any run that sends messages of the set. -/
theorem sinExcepciones_iff (lugares : Value) (M : Set Mensaje) :
    (∀ ps : List Peticion, (∀ p ∈ ps, p.Envia → p.mensaje ∈ M) → SinExcepciones (Servidor.ejecutar lugares .vacia ps)) ↔
      ∀ p : Peticion, p.mensaje ∈ M → p.mensaje.Estable := by
  constructor
  · intro h p hp
    refine estable_of_repetido lugares (p.parametro keyIdUsuarioEmisor) (p.parametro keyCuerpo) (p.parametro keyFecha)
      fun n => h _ ?_
    intro q hq henvia
    rcases List.mem_cons.mp hq with rfl | hq
    · rcases henvia with henvia | henvia <;> cases henvia
    · obtain ⟨-, -, -, -, hmensaje⟩ := repetido_envio _ _ _ (List.eq_of_mem_replicate hq)
      rw [hmensaje]
      exact hp
  · intro h ps hps
    obtain ⟨d, hdb, hrep⟩ := ejecutar_vacia lugares ps
    rw [hdb, hrep.sinExcepciones_cargadas]
    intro c hc
    obtain ⟨ms, hms, -⟩ := recargar_estable (estable_ejecutar lugares (fun p hp he => h p (hps p hp he)) c hc)
    exact ⟨ms, hms⟩

end Corridas

section Lanza
attribute [local instance] Aritmetica.nula

/-- Ana writes `a#5#b` to Beto. -/
def cortada : List Peticion :=
  [.registro (bytes "1"), .registro (bytes "2"), .envio (bytes "1") (bytes "2") [] (bytes "a#5#b") (bytes "10:00")]

/-- The piece `5` is read as a number, and a number has no members: loading the conversation raises. -/
theorem obtener_lanza : ¬ SinExcepciones (Servidor.ejecutar .null .vacia cortada) := by
  obtain ⟨d, hdb, hrep⟩ := ejecutar_vacia .null cortada
  have hlanza : ∃ c ∈ (Central.vacia.ejecutar .null cortada).chats,
      (Conversacion.recargar c.mensajes).toBool = false := by decide +kernel
  obtain ⟨c, hc, hlanza⟩ := hlanza
  rw [hdb, hrep.sinExcepciones_cargadas]
  intro h
  obtain ⟨ms, hms⟩ := h c hc
  rw [hms] at hlanza
  cases hlanza

end Lanza

end MensajeroX
