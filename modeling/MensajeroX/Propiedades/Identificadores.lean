import MensajeroX.Propiedades.Historial

/-!
# The ids of messages

A message is known by the hash of its sender and its date, and a fetch returns what follows the first message with a
given id. So ids serve as positions exactly when no sender uses a date twice in a conversation.

* `mensajesDesde_eq_drop` : the loop of a fetch;
* `idsSirven_iff` : **ids are positions exactly when no sender and date occur twice**.
-/

namespace MensajeroX
open Bytes JsonCpp BaseDeDatos Efectos Servicio

/-! ## The loop of a fetch -/

/-- With distinct ids, what follows the id of a position is what follows the position. -/
theorem mensajesDesde_eq_drop {ms : List Mensaje} (h : (ms.map Mensaje.id).Nodup) {i : Nat} (hi : i < ms.length) :
    mensajesDesde ms[i].id false ms = ms.drop (i + 1) := by
  have hpartes : ms.take i ++ ms[i] :: ms.drop (i + 1) = ms := by
    rw [List.getElem_cons_drop, List.take_append_drop]
  have hno : ms[i].id ∉ (ms.take i).map Mensaje.id := by
    rw [← hpartes, List.map_append, List.nodup_append] at h
    intro hin
    exact h.2.2 _ hin _ (List.mem_cons_self ..) rfl
  have hdesde := mensajesDesde_append hno (ms.drop (i + 1))
  rwa [hpartes] at hdesde

/-! ## Senders and dates -/

/-- The hash does not collide on the strings from which the ids of the run are computed. -/
def SinColisiones (ps : List Peticion) : Prop :=
  ∀ p ∈ ps, ∀ q ∈ ps, md5 (p.mensaje.idUsuarioEmisor ++ p.mensaje.fecha) = md5 (q.mensaje.idUsuarioEmisor ++ q.mensaje.fecha) →
    p.mensaje.idUsuarioEmisor ++ p.mensaje.fecha = q.mensaje.idUsuarioEmisor ++ q.mensaje.fecha

instance (ps : List Peticion) : Decidable (SinColisiones ps) := by unfold SinColisiones; infer_instance

/-- Two messages of one sender and one date. -/
def MismaFecha (m m' : Mensaje) : Prop := m.idUsuarioEmisor = m'.idUsuarioEmisor ∧ m.fecha = m'.fecha

theorem Peticion.mensaje_id (p : Peticion) : p.mensaje.id = md5 (p.mensaje.idUsuarioEmisor ++ p.mensaje.fecha) := by
  rw [Peticion.mensaje, Mensaje.nuevo]

theorem SinColisiones.id_eq_iff {ps : List Peticion} (h : SinColisiones ps) {p q : Peticion} (hp : p ∈ ps) (hq : q ∈ ps) :
    p.mensaje.id = q.mensaje.id ↔ MismaFecha p.mensaje q.mensaje := by
  rw [p.mensaje_id, q.mensaje_id]
  constructor
  · intro hid
    have hlen : p.mensaje.idUsuarioEmisor.length = q.mensaje.idUsuarioEmisor.length :=
      (length_md5 _).trans (length_md5 _).symm
    exact List.append_inj (h p hp q hq hid) hlen
  · rintro ⟨hemisor, hfecha⟩
    rw [hemisor, hfecha]

section Corridas
variable [Aritmetica]

theorem mem_entregados {lugares : Value} {db : RocksDB} {p : Peticion} {a b : Cadena} {m : Mensaje}
    (h : m ∈ Servidor.entregados lugares db p a b) : m = p.mensaje := by
  unfold Servidor.entregados at h
  split at h
  · split at h
    · exact List.mem_singleton.mp h
    · cases h
  · split at h
    · split at h
      · obtain ⟨_, _, rfl⟩ := List.mem_map.mp h
        rfl
      · cases h
    · cases h
  · cases h

theorem mem_historial {lugares : Value} {db : RocksDB} {ps : List Peticion} {a b : Cadena} {m : Mensaje}
    (h : m ∈ Servidor.historial lugares db ps a b) : ∃ p ∈ ps, m = p.mensaje := by
  induction ps generalizing db with
  | nil => cases h
  | cons p ps ih =>
    rcases List.mem_append.mp h with h | h
    · exact ⟨p, List.mem_cons_self .., mem_entregados h⟩
    · obtain ⟨q, hq, hm⟩ := ih h
      exact ⟨q, List.mem_cons_of_mem _ hq, hm⟩

/-- The ids of a history are distinct when no sender and date occur twice. -/
theorem nodup_historial_iff {lugares : Value} {db : RocksDB} {ps : List Peticion} (hps : SinColisiones ps) (a b : Cadena) :
    ((Servidor.historial lugares db ps a b).map Mensaje.id).Nodup ↔
      (Servidor.historial lugares db ps a b).Pairwise fun m m' => ¬ MismaFecha m m' := by
  rw [List.Nodup, List.pairwise_map]
  refine List.Pairwise.iff_of_mem fun {m m'} hm hm' => not_congr ?_
  obtain ⟨p, hp, rfl⟩ := mem_historial hm
  obtain ⟨q, hq, rfl⟩ := mem_historial hm'
  exact hps.id_eq_iff hp hq

/-- Ids are positions: in every stored conversation they are distinct, and a fetch with the id of a position returns
the messages after it. -/
def IdsSirven (lugares : Value) (db : RocksDB) : Prop :=
  ∀ k, db.tieneConversacion k → ∃ c : Conversacion, (∃ s, (Conversacion.obtener k).run { db := db } = .ok c s) ∧
    (c.mensajes.map Mensaje.id).Nodup ∧
    ∀ i (hi : i < c.mensajes.length) (q : Peticion), q.Pide k →
      getParametro q keyIdUltimoMensaje keyDefault = c.mensajes[i].id →
      (Servidor.atender lugares db q).salidas =
        [respuesta (mensajesJson (c.mensajes.drop (i + 1))).toStyledString true]

/-- No two messages that a run delivers between two users have one sender and one date. -/
def FechasDistintas (lugares : Value) (ps : List Peticion) : Prop :=
  ∀ a b, (Servidor.historial lugares .vacia ps a b).Pairwise fun m m' => ¬ MismaFecha m m'

/-- Where ids are positions, no two messages of two users have one id. -/
theorem IdsSirven.nodup {lugares : Value} {ps : List Peticion} (hps : ∀ p ∈ ps, p.Limpia)
    (hids : IdsSirven lugares (Servidor.ejecutar lugares .vacia ps)) (a b : Cadena) :
    ((Servidor.historial lugares .vacia ps a b).map Mensaje.id).Nodup := by
  obtain ⟨d, hdb, h⟩ := ejecutar_vacia lugares ps
  have hlimpia := Central.limpia_ejecutar (Central.todos_vacia _) hps lugares
  rw [hdb] at hids
  rw [historial_eq lugares hps, Central.mensajes]
  cases hc : (Central.vacia.ejecutar lugares ps).entre a b with
  | none => exact List.nodup_nil
  | some c =>
    have hmem := (Central.entre_eq_some_iff.mp hc).1
    have hstored : RocksDB.tieneConversacion { datos := d } c.id := by
      rw [h.tieneConversacion, Central.buscar_eq_some_iff.mpr ⟨hmem, rfl⟩]
      rfl
    obtain ⟨cargada, ⟨s, hrun⟩, hnodup, -⟩ := hids c.id hstored
    rw [h.run_obtener_limpia hlimpia hmem] at hrun
    cases hrun
    exact hnodup

/-- **Ids are positions exactly when no sender and date occur twice** between two users. -/
theorem idsSirven_iff (lugares : Value) {ps : List Peticion} (hps : ∀ p ∈ ps, p.Limpia) (hmd5 : SinColisiones ps) :
    IdsSirven lugares (Servidor.ejecutar lugares .vacia ps) ↔ FechasDistintas lugares ps := by
  constructor
  · intro hids a b
    exact (nodup_historial_iff hmd5 a b).mp (hids.nodup hps a b)
  · intro hfechas k hstored
    obtain ⟨d, hdb, h⟩ := ejecutar_vacia lugares ps
    have hlimpia := Central.limpia_ejecutar (Central.todos_vacia _) hps lugares
    rw [hdb, h.tieneConversacion] at hstored
    rw [hdb]
    obtain ⟨c, hc⟩ := Option.isSome_iff_exists.mp hstored
    obtain ⟨hmem, rfl⟩ := Central.buscar_eq_some_iff.mp hc
    have hhist : Servidor.historial lugares .vacia ps c.a c.b = c.mensajes := by
      rw [historial_eq lugares hps, Central.mensajes_of_mem hmem]
    have hnodup : (c.mensajes.map Mensaje.id).Nodup := by
      rw [← hhist, nodup_historial_iff hmd5]
      exact hfechas c.a c.b
    refine ⟨c.cargado _ c.mensajes, ⟨_, h.run_obtener_limpia hlimpia hmem []⟩, hnodup, fun i hi q hq hultimo => ?_⟩
    change i < c.mensajes.length at hi
    change _ = c.mensajes[i].id at hultimo
    have hid : ∀ m ∈ c.mensajes, m.id ≠ [] := by
      rw [← hhist]
      intro m hm
      obtain ⟨p, -, rfl⟩ := mem_historial hm
      exact md5_ne_nil _
    obtain ⟨d', hatender, -⟩ := h.atender lugares q
    rw [hatender, Central.atender_obtenerConversacion hq hc (Conversacion.recargar_of_sinSeparador (hlimpia c hmem)),
      Central.pedidos, hultimo, if_pos (hid _ (List.getElem_mem hi)), mensajesDesde_eq_drop hnodup hi]
    rfl

end Corridas

section Repetida
attribute [local instance] Aritmetica.nula

/-- Two messages of one user to another, at the given dates. -/
def dosFechas (fecha fecha' : Cadena) : List Peticion :=
  [.registro (bytes "1"), .registro (bytes "2"), .envio (bytes "1") (bytes "2") [] (bytes "hola") fecha,
    .envio (bytes "1") (bytes "2") [] (bytes "chau") fecha']

theorem idsSirven_dosFechas :
    IdsSirven .null (Servidor.ejecutar .null .vacia (dosFechas (bytes "10:00") (bytes "10:01"))) ↔
      FechasDistintas .null (dosFechas (bytes "10:00") (bytes "10:01")) :=
  idsSirven_iff .null (by decide +kernel) (by decide +kernel)

/-- Two messages in one second get one id. -/
theorem ids_repetidos :
    (∀ p ∈ dosFechas (bytes "10:00") (bytes "10:00"), p.Limpia) ∧ SinColisiones (dosFechas (bytes "10:00") (bytes "10:00")) ∧
      ¬ IdsSirven .null (Servidor.ejecutar .null .vacia (dosFechas (bytes "10:00") (bytes "10:00"))) := by
  have hlimpia : ∀ p ∈ dosFechas (bytes "10:00") (bytes "10:00"), p.Limpia := by decide
  refine ⟨hlimpia, by decide +kernel, fun h => ?_⟩
  have hnodup := h.nodup hlimpia (md5 (bytes "1")) (md5 (bytes "2"))
  rw [historial_eq .null hlimpia] at hnodup
  revert hnodup
  decide +kernel

end Repetida

end MensajeroX
