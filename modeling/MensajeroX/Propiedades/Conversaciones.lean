import MensajeroX.Propiedades.Historial

/-!
# Stored conversations

What the store of a run holds under the keys of conversations, and what a user is told about them.

* `una_por_par` : **a pair has at most one conversation**;
* `forma_conversacion` : **the shape of every stored conversation**, and that the accesses of `obtenerConversaciones`
  to its messages and users are in range;
* `obtenerConversaciones_exacta` : **the list of a user is exact**.
-/

namespace MensajeroX
open Bytes JsonCpp BaseDeDatos Efectos Servicio Separated

/-! ## One conversation for a pair -/

section Corridas
variable [Aritmetica]

/-- **A pair has at most one conversation.** -/
theorem una_por_par (lugares : Value) (ps : List Peticion) {a b : Cadena} (hab : a ≠ b) :
    ¬ ((Servidor.ejecutar lugares .vacia ps).tieneConversacion (a ++ Conversacion.guion :: b) ∧
      (Servidor.ejecutar lugares .vacia ps).tieneConversacion (b ++ Conversacion.guion :: a)) := by
  obtain ⟨d, hdb, h⟩ := ejecutar_vacia lugares ps
  rw [hdb, h.tieneConversacion, h.tieneConversacion]
  rintro ⟨h₁, h₂⟩
  obtain ⟨c₁, hc₁⟩ := Option.isSome_iff_exists.mp h₁
  obtain ⟨c₂, hc₂⟩ := Option.isSome_iff_exists.mp h₂
  obtain ⟨hmem₁, hid₁⟩ := Central.buscar_eq_some_iff.mp hc₁
  obtain ⟨hmem₂, hid₂⟩ := Central.buscar_eq_some_iff.mp hc₂
  obtain ⟨ha₁, hb₁⟩ := Central.chat_id_inj hmem₁ hid₁
  obtain ⟨hb₂, ha₂⟩ := Central.chat_id_inj hmem₂ hid₂
  have hunico := Central.chat_unico hmem₁ hmem₂ (.inl ⟨ha₁, hb₁⟩) (.inr ⟨hb₂, ha₂⟩)
  rw [← hunico, ha₁] at hb₂
  exact hab hb₂

/-! ## Shape -/

/-- `v` is the text of the conversation `k` of two users of the store, with messages. -/
def Bien (db : RocksDB) (k v : Cadena) : Prop :=
  ∃ conversacion ids a b mensajes, parse v = .ok (true, conversacion) ∧
    conversacion.getString keyIdConversacion keyDefault = .ok k ∧
    conversacion.getString keyIdsUsuarios keyDefault = .ok ids ∧ StringUtil.split ids SeparadorListaBD = [a, b] ∧
    k = a ++ Conversacion.guion :: b ∧ db.tieneUsuario a ∧ db.tieneUsuario b ∧
    conversacion.getString keyMensajes keyDefault = .ok mensajes ∧
    1 ≤ (StringUtil.split mensajes SeparadorListaBD).length

theorem Representa.bien {C : Central} {d : Cadena → Option Cadena} (h : Representa C d) {c : Chat} (hc : c ∈ C.chats) :
    Bien { datos := d } c.id c.texto := by
  obtain ⟨ha, hb⟩ := C.participantes c hc
  have hids : StringUtil.split (joinLoop SeparadorListaBD [c.a, c.b]) SeparadorListaBD = [c.a, c.b] := by
    apply split_joinLoop
    · simpa using ⟨separador_not_mem ha, separador_not_mem hb⟩
    · simpa using ⟨ne_nil_of_isSome ha, ne_nil_of_isSome hb⟩
  have hpiezas : 1 ≤ (StringUtil.split (joinLoop SeparadorListaBD (c.mensajes.map Mensaje.serializar))
      SeparadorListaBD).length := by
    rw [Conversacion.split_mensajes, List.length_flatMap]
    exact (List.length_pos_of_ne_nil c.noVacio).trans_le (Conversacion.length_le_sum_piezas c.mensajes)
  exact ⟨_, _, c.a, c.b, _, Conversacion.parse_texto _ _ _, rfl, rfl, hids, rfl, by rw [h.tieneUsuario]; exact ha,
    by rw [h.tieneUsuario]; exact hb, rfl, hpiezas⟩

theorem Representa.cargada {C : Central} {d : Cadena → Option Cadena} (h : Representa C d) {k : Cadena}
    {c : Conversacion} {s : Estado} (hrun : (Conversacion.obtener k).run { db := { datos := d } } = .ok c s)
    (hid : c.getId ≠ keyIdConversacionNoEncontrada) : c.mensajes ≠ [] ∧ c.usuarios.length = 2 := by
  cases hk : C.buscar k with
  | none =>
    have hno : (Conversacion.obtener k).run (.sano d []) = _ := h.run_getConversacion_none [] hk
    rw [hno] at hrun
    cases hrun
    exact absurd noEncontrada_getId hid
  | some chat =>
    have hload : (Conversacion.obtener k).run (.sano d []) = _ := h.run_getConversacion_some [] hk
    rw [hload] at hrun
    cases hms : Conversacion.recargar chat.mensajes with
    | error e =>
      rw [hms] at hrun
      cases hrun
    | ok ms =>
      rw [hms] at hrun
      cases hrun
      refine ⟨fun hnil => chat.noVacio ?_, rfl⟩
      have hle := Conversacion.length_le_recargar hms
      rw [show ms = [] from hnil] at hle
      exact List.length_eq_zero_iff.mp (Nat.le_zero.mp hle)

/-- With an id that fits, `obtenerConversaciones` raises only what JsonCpp throws. -/
theorem Central.obtenerConversaciones_error {C : Central} {q : Peticion} {t : Cadena}
    (ht : idMetodoGET q urlBaseUsuarioConversaciones = .ok t) {e : Excepcion} {M : Mundo}
    (h : C.obtenerConversaciones q = .error e M) : ∃ j, e = .json j := by
  unfold obtenerConversaciones at h
  rw [ht] at h
  split at h
  · cases h
    exact ⟨_, rfl⟩
  · dsimp only at h
    split at h
    · cases h
    · split at h
      · cases h
        exact ⟨_, rfl⟩
      · cases h

/-- **The shape of every stored conversation.** It parses, its id is that of the key, its two users are registered and
it has messages. So a conversation that was loaded has messages and two users, and `obtenerConversaciones` raises
nothing but the exceptions of JsonCpp. -/
theorem forma_conversacion (lugares : Value) (ps : List Peticion) :
    (∀ k v, (Servidor.ejecutar lugares .vacia ps).datos (claveBaseConversacion ++ k) = some v →
      Bien (Servidor.ejecutar lugares .vacia ps) k v) ∧
    (∀ k c s, (Conversacion.obtener k).run { db := Servidor.ejecutar lugares .vacia ps } = .ok c s →
      c.getId ≠ keyIdConversacionNoEncontrada → c.mensajes ≠ [] ∧ c.usuarios.length = 2) ∧
    ∀ q t, Servidor.parsearURI q = .obtenerConversaciones → idMetodoGET q urlBaseUsuarioConversaciones = .ok t →
      ∀ e s, (Servidor.administrarServicio lugares q).run { db := Servidor.ejecutar lugares .vacia ps } = .error e s →
        ∃ j, e = .json j := by
  obtain ⟨d, hdb, h⟩ := ejecutar_vacia lugares ps
  rw [hdb]
  refine ⟨fun k v hv => ?_, fun k c s hrun hid => h.cargada hrun hid, fun q t hq ht e s hrun => ?_⟩
  · change d _ = _ at hv
    rw [h.chats k] at hv
    obtain ⟨c, hc, rfl⟩ := Option.map_eq_some_iff.mp hv
    obtain ⟨hmem, rfl⟩ := Central.buscar_eq_some_iff.mp hc
    exact h.bien hmem
  · obtain ⟨M, hM⟩ := (abstrae_administrarServicio lugares q).error_of_run ⟨d, rfl, h⟩ hrun
    rw [Central.servir, hq] at hM
    exact Central.obtenerConversaciones_error ht hM

/-! ## The list of a user -/

/-- The conversation `k` is stored and `u` is one of its users. -/
def Participa (db : RocksDB) (u k : Cadena) : Prop :=
  db.tieneConversacion k ∧ ∃ c s, (Conversacion.obtener k).run { db := db } = .ok c s ∧ u ∈ c.usuarios.map (·.id)

/-- `v` is what `u` is told about the conversation `k`: its last message, and the other user as stored now. -/
def Resume (db : RocksDB) (u k : Cadena) (v : Value) : Prop :=
  ∃ c s m otro contacto s', (Conversacion.obtener k).run { db := db } = .ok c s ∧ c.mensajes.getLast? = some m ∧
    (c.usuarios.map (·.id) = [u, otro] ∨ c.usuarios.map (·.id) = [otro, u]) ∧ db.tieneUsuario otro ∧
    (Usuario.obtener otro).run { db := db } = .ok contacto s' ∧ v = entradaJson k m contacto

omit [Aritmetica] in
theorem Central.nodup_ids (C : Central) : (C.chats.map Chat.id).Nodup := by
  rw [List.Nodup, List.pairwise_map]
  refine C.parejas.imp_of_mem ?_
  intro c c' _ hc' hno hid
  exact hno (.inl (chat_id_inj hc' hid.symm))

/-- In the store of a central, `u` takes part in the conversations that say so and can be loaded. -/
theorem Representa.participa_iff {C : Central} {d : Cadena → Option Cadena} (h : Representa C d) {u k : Cadena} :
    Participa { datos := d } u k ↔ ∃ c ∈ C.chats, c.id = k ∧ c.Participa u ∧ c.Legible := by
  constructor
  · rintro ⟨hstored, cargada, s, hrun, hu⟩
    rw [h.tieneConversacion] at hstored
    obtain ⟨c, hc⟩ := Option.isSome_iff_exists.mp hstored
    obtain ⟨hmem, rfl⟩ := Central.buscar_eq_some_iff.mp hc
    obtain ⟨ms, hms⟩ := (h.obtener_ok_iff [] hc).mp ⟨cargada, s, hrun⟩
    rw [h.run_obtener hmem hms] at hrun
    cases hrun
    rw [ids_cargado hmem] at hu
    refine ⟨c, hmem, rfl, ?_, ms, hms⟩
    simpa [Chat.Participa, eq_comm] using hu
  · rintro ⟨c, hmem, rfl, hu, ms, hms⟩
    refine ⟨?_, _, _, h.run_obtener hmem hms [], ?_⟩
    · rw [h.tieneConversacion, Central.buscar_eq_some_iff.mpr ⟨hmem, rfl⟩]
      rfl
    · rw [ids_cargado hmem]
      simpa [Chat.Participa, eq_comm] using hu

theorem Representa.resume {C : Central} {d : Cadena → Option Cadena} (h : Representa C d) {c : Chat} (hc : c ∈ C.chats)
    {u : Cadena} (hu : c.Participa u) {q : Chat × List Mensaje} (hq : c.leido = .ok q) :
    Resume { datos := d } u c.id (C.entrada u q) := by
  obtain ⟨ms, hms, rfl⟩ := Chat.leido_eq_ok_iff.mp hq
  obtain ⟨ha, hb⟩ := C.participantes c hc
  have hne : ms ≠ [] := by
    rintro rfl
    exact c.noVacio (List.length_eq_zero_iff.mp (Nat.le_zero.mp (Conversacion.length_le_recargar hms)))
  have hultimo : ms.getLast? = some (ms.getLastD {}) := by
    rw [List.getLastD_eq_getLast?, List.getLast?_eq_some_getLast hne]
    rfl
  have hotro : (C.usuarios (c.otro u)).isSome := by
    unfold Chat.otro
    split
    · exact hb
    · exact ha
  refine ⟨_, _, _, c.otro u, _, _, h.run_obtener hc hms [], hultimo, ?_, ?_, h.run_getUsuario [] (c.otro u), rfl⟩
  · rw [ids_cargado hc, Chat.otro]
    by_cases hau : c.a = u
    · rw [if_pos hau, hau]
      exact .inl rfl
    · rw [if_neg hau, hu.resolve_left hau]
      exact .inr rfl
  · rw [h.tieneUsuario]
    exact hotro

theorem Central.exists_leidos_iff {C : Central} {u : Cadena} {ids : List Cadena} :
    (∃ qs, C.leidos u ids = .ok qs) ↔ ∀ c ∈ C.chats, c.Participa u → c.id ∉ ids → c.Legible := by
  rw [leidos, exists_mapM_eq_ok_iff]
  simp only [List.mem_filter, decide_eq_true_eq, Chat.leido_eq_ok_iff, Chat.Legible]
  constructor
  · intro h c hc hu hno
    obtain ⟨_, ms, hms, -⟩ := h c ⟨hc, hu, hno⟩
    exact ⟨ms, hms⟩
  · rintro h c ⟨hc, hu, hno⟩
    obtain ⟨ms, hms⟩ := h c hc hu hno
    exact ⟨_, ms, hms, rfl⟩

/-- The answer lists the conversations of `u` that are not among `ids`: every one of them, once, and nothing else. -/
def Lista (db : RocksDB) (u : Cadena) (ids salidas : List Cadena) : Prop :=
  ∃ ks vs, ks.Nodup ∧ (∀ k, k ∈ ks ↔ Participa db u k ∧ k ∉ ids) ∧ List.Forall₂ (Resume db u) ks vs ∧
    salidas = [respuesta (arreglo (bytes "conversaciones") vs).toStyledString true]

theorem Representa.lista {C : Central} {d : Cadena → Option Cadena} (h : Representa C d) (lugares : Value) {q : Peticion}
    (hq : Servidor.parsearURI q = .obtenerConversaciones) {t : Cadena}
    (ht : idMetodoGET q urlBaseUsuarioConversaciones = .ok t) (hu : (C.usuarios (md5 t)).isSome) {ids : List Cadena}
    (hids : getParametroVector q keyIdConversaciones = .ok ids)
    (hlegible : ∀ c ∈ C.chats, c.Participa (md5 t) → c.id ∉ ids → c.Legible) :
    Lista { datos := d } (md5 t) ids (Servidor.atender lugares { datos := d } q).salidas := by
  obtain ⟨v, hv⟩ := Option.isSome_iff_exists.mp hu
  obtain ⟨qs, hqs⟩ := Central.exists_leidos_iff.mpr hlegible
  refine ⟨(C.chats.filter fun c => c.Participa (md5 t) ∧ c.id ∉ ids).map Chat.id, qs.map (C.entrada (md5 t)),
    C.nodup_ids.sublist (List.filter_sublist.map _), fun k => ?_, ?_, ?_⟩
  · rw [h.participa_iff]
    simp only [List.mem_map, List.mem_filter, decide_eq_true_eq]
    constructor
    · rintro ⟨c, ⟨hc, hp, hno⟩, rfl⟩
      exact ⟨⟨c, hc, rfl, hp, hlegible c hc hp hno⟩, hno⟩
    · rintro ⟨⟨c, hc, rfl, hp, -⟩, hno⟩
      exact ⟨c, ⟨hc, hp, hno⟩, rfl⟩
  · rw [Central.leidos, mapM_eq_ok_iff] at hqs
    rw [List.forall₂_map_left_iff, List.forall₂_map_right_iff]
    refine (List.forall₂_and_left _ _ |>.mpr ⟨fun c hc => hc, hqs⟩).imp ?_
    rintro c q ⟨hc, hleido⟩
    simp only [List.mem_filter, decide_eq_true_eq] at hc
    exact h.resume hc.1 hc.2.1 hleido
  · obtain ⟨d', hatender, -⟩ := h.atender lugares q
    rw [hatender]
    simp only [Central.atender, Central.servir, hq, Central.obtenerConversaciones, hids, ht, hv, C.claves _ _ hv, hqs,
      final_ok]

/-- **The list of a user is exact**: it has every stored conversation of the user that is not among the ids of the
request, once, and nothing else. -/
theorem obtenerConversaciones_exacta (lugares : Value) {ps : List Peticion} (hps : ∀ p ∈ ps, p.Limpia) {q : Peticion}
    (hq : Servidor.parsearURI q = .obtenerConversaciones) {t : Cadena}
    (ht : idMetodoGET q urlBaseUsuarioConversaciones = .ok t)
    (hu : (Servidor.ejecutar lugares .vacia ps).tieneUsuario (md5 t)) {ids : List Cadena}
    (hids : getParametroVector q keyIdConversaciones = .ok ids) :
    ∃ ks vs, ks.Nodup ∧
      (∀ k, k ∈ ks ↔ Participa (Servidor.ejecutar lugares .vacia ps) (md5 t) k ∧ k ∉ ids) ∧
      List.Forall₂ (Resume (Servidor.ejecutar lugares .vacia ps) (md5 t)) ks vs ∧
      (Servidor.atender lugares (Servidor.ejecutar lugares .vacia ps) q).salidas =
        [respuesta (arreglo (bytes "conversaciones") vs).toStyledString true] := by
  obtain ⟨d, hdb, h⟩ := ejecutar_vacia lugares ps
  have hlimpia := Central.limpia_ejecutar (Central.todos_vacia _) hps lugares
  rw [hdb, h.tieneUsuario] at hu
  rw [hdb]
  exact h.lista lugares hq ht hu hids fun c hc _ _ => ⟨_, Conversacion.recargar_of_sinSeparador (hlimpia c hc)⟩

end Corridas

section Charla
attribute [local instance] Aritmetica.nula

theorem una_por_par_charla :
    (Servidor.ejecutar .null .vacia charla).tieneConversacion (md5 (bytes "1") ++ Conversacion.guion :: md5 (bytes "2")) ∧
    ¬ (Servidor.ejecutar .null .vacia charla).tieneConversacion
      (md5 (bytes "2") ++ Conversacion.guion :: md5 (bytes "1")) := by
  have hno := una_por_par .null charla (a := md5 (bytes "1")) (b := md5 (bytes "2")) (by decide +kernel)
  exact ⟨almacen_charla.2, fun h => hno ⟨almacen_charla.2, h⟩⟩

/-- A request of user `1` for the conversations that are not in a list. -/
def listaCharla : Peticion :=
  .con Peticion.metodoGET Peticion.uriConversaciones [(keyIdConversaciones, bytes "[\"otra\"]")]

theorem vector_listaCharla : getParametroVector listaCharla keyIdConversaciones = .ok [bytes "otra"] := by
  decide +kernel

theorem obtenerConversaciones_charla :
    ∃ ks vs, ks.Nodup ∧
      (∀ k, k ∈ ks ↔ Participa (Servidor.ejecutar .null .vacia charla) (md5 (bytes "1")) k ∧ k ∉ [bytes "otra"]) ∧
      List.Forall₂ (Resume (Servidor.ejecutar .null .vacia charla) (md5 (bytes "1"))) ks vs ∧
      (Servidor.atender .null (Servidor.ejecutar .null .vacia charla) listaCharla).salidas =
        [respuesta (arreglo (bytes "conversaciones") vs).toStyledString true] :=
  obtenerConversaciones_exacta .null charla_limpia rfl rfl (almacen_charla.1 _ List.mem_cons_self) vector_listaCharla

end Charla

end MensajeroX
