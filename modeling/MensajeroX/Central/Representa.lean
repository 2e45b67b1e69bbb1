import MensajeroX.BaseDeDatos.Indices
import MensajeroX.Central.Central
import MensajeroX.Lib.Refinamiento

/-!
# The store of a central

`Representa C d` : the store `d` holds the texts of the central `C`. A user and a conversation are under their ids, and
the index of a user has the ids of their conversations.

* `Representa.run_getUsuario`, `Representa.run_getConversacion`, `Representa.run_getIds` : what is read from it;
* `Representa.conUsuario`, `Representa.conMensajes`, `Representa.conChat` : **each update of the central is the
  write that the server does**.
-/

namespace MensajeroX
open Bytes JsonCpp Separated BaseDeDatos Efectos

/-! ## The ids of a central -/

section Ids
variable {C : Central}

theorem separador_not_mem {k : Cadena} (h : (C.usuarios k).isSome) : SeparadorListaBD ∉ k := by
  obtain ⟨t, rfl⟩ := Central.exists_md5 h
  exact not_mem_md5 (by decide) t

theorem ne_nil_of_isSome {k : Cadena} (h : (C.usuarios k).isSome) : k ≠ [] := by
  obtain ⟨t, rfl⟩ := Central.exists_md5 h
  exact md5_ne_nil t

theorem length_id {c : Chat} (hc : c ∈ C.chats) : c.id.length = 65 := by
  obtain ⟨ha, hb⟩ := C.participantes c hc
  rw [Chat.id, List.length_append, List.length_cons, Central.length_of_isSome ha, Central.length_of_isSome hb]

theorem entrada_id {c : Chat} (hc : c ∈ C.chats) : Entrada c.id := by
  obtain ⟨ha, hb⟩ := C.participantes c hc
  refine ⟨by simp [Chat.id], ?_⟩
  rw [Chat.id, List.mem_append, List.mem_cons]
  rintro (h | h | h)
  · exact separador_not_mem ha h
  · exact absurd h (by decide)
  · exact separador_not_mem hb h

/-- An id is too long to be a marker. -/
theorem id_ne {c : Chat} (hc : c ∈ C.chats) {k : Cadena} (hk : k.length ≠ 65) : c.id ≠ k :=
  fun h => hk (h ▸ length_id hc)

theorem indice_entrada (u : Cadena) : ∀ k ∈ C.indice u, Entrada k := by
  intro k hk
  obtain ⟨c, hc, rfl⟩ := List.mem_map.mp hk
  exact entrada_id (List.mem_filter.mp hc).1

theorem mem_indice {c : Chat} (hc : c ∈ C.chats) {u : Cadena} (hu : c.Participa u) : c.id ∈ C.indice u :=
  List.mem_map_of_mem (List.mem_filter.mpr ⟨hc, decide_eq_true hu⟩)

end Ids

/-! ## The store -/

/-- The store holds the texts of the central. -/
structure Representa [LibC] (C : Central) (d : Cadena → Option Cadena) : Prop where
  usuarios : ∀ k, d (claveBaseUsuario ++ k) = ((C.usuarios k).map Registrado.toUsuario).map Usuario.serializar
  chats : ∀ k, d (claveBaseConversacion ++ k) = (C.buscar k).map Chat.texto
  indices : Indices d C.indice

namespace Representa
variable [LibC] {C : Central} {d : Cadena → Option Cadena}

theorem vacia : Representa .vacia fun _ => none where
  usuarios := fun _ => rfl
  chats := fun _ => rfl
  indices := fun _ => rfl

/-! ### Reading -/

theorem tieneUsuario (h : Representa C d) (k : Cadena) :
    RocksDB.tieneUsuario { datos := d } k = (C.usuarios k).isSome := by
  show (d _).isSome = _
  rw [h.usuarios k, Option.isSome_map, Option.isSome_map]

theorem tieneConversacion (h : Representa C d) (k : Cadena) :
    RocksDB.tieneConversacion { datos := d } k = (C.buscar k).isSome := by
  show (d _).isSome = _
  rw [h.chats k, Option.isSome_map]

theorem run_getUsuario (h : Representa C d) (o : List Cadena) (k : Cadena) :
    (getUsuario k).run (.sano d o) = .ok (C.usuario k) (.sano d o) :=
  MensajeroX.run_getUsuario d o (h.usuarios k)

theorem usuarioDe (h : Representa C d) (k : Cadena) :
    RocksDB.usuarioDe { datos := d } k = (C.usuarios k).map Registrado.toUsuario := by
  have hrun : (Usuario.obtener k).run { db := { datos := d } } = _ := h.run_getUsuario [] k
  rw [RocksDB.usuarioDe, h.tieneUsuario, hrun, Central.usuario]
  cases C.usuarios k <;> rfl

theorem tokenDe (h : Representa C d) {k : Cadena} {u : Registrado} (hu : C.usuarios k = some u) :
    RocksDB.tokenDe { datos := d } k = u.token := by
  rw [RocksDB.tokenDe, h.usuarioDe, hu]
  rfl

theorem run_getIds (h : Representa C d) (o : List Cadena) (u : Cadena) :
    (getIdsConversacionPorIdUsuario u).run (.sano d o) = .ok (keyDatoNoEncontrado :: C.indice u) (.sano d o) := by
  rw [getIdsConversacionPorIdUsuario, bind_ok (run_getDato d o _), h.indices u, split_textoIndice (indice_entrada u)]
  rfl

/-- A conversation that is stored is loaded with the messages that `recargar` gives. -/
theorem run_getConversacion_some (h : Representa C d) (o : List Cadena) {k : Cadena} {c : Chat}
    (hc : C.buscar k = some c) :
    (getConversacion k).run (.sano d o) =
      match Conversacion.recargar c.mensajes with
      | .ok ms => .ok { id := k, mensajes := ms, usuarios := [C.usuario c.a, C.usuario c.b] } (.sano d o)
      | .error e => .error (.json e) (.sano d o) := by
  obtain ⟨hmem, rfl⟩ := Central.buscar_eq_some_iff.mp hc
  obtain ⟨ha, hb⟩ := C.participantes c hmem
  have hne : ∀ i ∈ [c.a, c.b], i ≠ [] := by
    simp only [List.mem_cons, List.not_mem_nil, or_false, forall_eq_or_imp, forall_eq]
    exact ⟨ne_nil_of_isSome ha, ne_nil_of_isSome hb⟩
  have hsep : ∀ i ∈ [c.a, c.b], SeparadorListaBD ∉ i := by
    simp only [List.mem_cons, List.not_mem_nil, or_false, forall_eq_or_imp, forall_eq]
    exact ⟨separador_not_mem ha, separador_not_mem hb⟩
  rw [getConversacion, bind_ok (run_getDato d o _), h.chats, hc, Option.map_some, Option.getD_some, Chat.texto,
    if_neg (Conversacion.texto_ne_noEncontrado _ _ _)]
  exact run_deserealizar_texto d o hne hsep (fun i _ => h.run_getUsuario o i) c.id c.mensajes

theorem run_getConversacion_none (h : Representa C d) (o : List Cadena) {k : Cadena} (hk : C.buscar k = none) :
    (getConversacion k).run (.sano d o) = .ok Conversacion.noEncontrada (.sano d o) := by
  rw [getConversacion, bind_ok (run_getDato d o _), h.chats, hk]
  rfl

/-- A conversation that is stored can be loaded when its messages can. -/
theorem obtener_ok_iff (h : Representa C d) (o : List Cadena) {k : Cadena} {c : Chat} (hc : C.buscar k = some c) :
    (∃ cargada s, (Conversacion.obtener k).run (.sano d o) = .ok cargada s) ↔
      ∃ ms, Conversacion.recargar c.mensajes = .ok ms := by
  have hrun : (Conversacion.obtener k).run (.sano d o) = _ := h.run_getConversacion_some o hc
  rw [hrun]
  cases Conversacion.recargar c.mensajes with
  | ok ms => exact ⟨fun _ => ⟨ms, rfl⟩, fun _ => ⟨_, _, rfl⟩⟩
  | error e => exact ⟨fun ⟨_, _, hok⟩ => (by cases hok), fun ⟨_, hok⟩ => (by cases hok)⟩

theorem carga_iff (h : Representa C d) (k : Cadena) :
    RocksDB.carga { datos := d } k = true ↔ ∀ c, C.buscar k = some c → c.Legible := by
  rw [RocksDB.carga, acaba_iff]
  cases hk : C.buscar k with
  | none => exact ⟨fun _ _ h => (by cases h), fun _ => ⟨_, _, h.run_getConversacion_none [] hk⟩⟩
  | some c =>
    rw [h.obtener_ok_iff [] hk]
    exact ⟨fun hms c' hc' => by cases hc'; exact hms, fun hlegible => hlegible c rfl⟩

/-! ### Writing -/

theorem conUsuario (h : Representa C d) (u : Registrado) :
    Representa (C.conUsuario u) (Function.update d (claveBaseUsuario ++ u.id) (some u.serializar)) where
  usuarios := by
    intro k
    by_cases hk : k = u.id
    · subst hk
      simp [Central.conUsuario]
    · rw [Function.update_of_ne fun heq => hk (List.append_cancel_left heq), h.usuarios k]
      simp [Central.conUsuario, hk]
  chats := by
    intro k
    rw [Function.update_of_ne (usuario_ne_conversacion _ _).symm, h.chats k]
    rfl
  indices := by
    intro v
    rw [Function.update_of_ne (usuario_ne_indice _ _).symm]
    exact h.indices v

/-- Storing a conversation, and entering it in the indices of its participants. -/
theorem guardar (h : Representa C d) {C' : Central} {c : Chat} (hc : c ∈ C'.chats) (husuarios : C'.usuarios = C.usuarios)
    (hbuscar : ∀ k, C'.buscar k = if k = c.id then some c else C.buscar k)
    (hindice : ∀ u, C'.indice u = if c.Participa u then anotar c.id (C.indice u) else C.indice u) :
    Representa C' ([c.a, c.b].foldl (indexado c.id)
      (Function.update d (claveBaseConversacion ++ c.id) (some c.texto))) where
  usuarios := by
    intro k
    rw [foldl_indexado_of_ne _ _ _ (usuario_ne_indice k), Function.update_of_ne (usuario_ne_conversacion _ _),
      h.usuarios k, husuarios]
  chats := by
    intro k
    rw [foldl_indexado_of_ne _ _ _ (conversacion_ne_indice k), hbuscar k]
    by_cases hk : k = c.id
    · rw [if_pos hk, hk, Function.update_self, Option.map_some]
    · rw [if_neg hk, Function.update_of_ne fun heq => hk (List.append_cancel_left heq), h.chats k]
  indices := by
    have hind : Indices (Function.update d (claveBaseConversacion ++ c.id) (some c.texto)) C.indice := by
      intro u
      rw [Function.update_of_ne (conversacion_ne_indice _ _).symm, h.indices u]
    have := hind.foldl_indexado (entrada_id hc) [c.a, c.b] indice_entrada
    intro u
    rw [this u, hindice u]
    simp only [List.mem_cons, List.not_mem_nil, or_false, Chat.Participa, eq_comm]

theorem conMensajes (h : Representa C d) {c : Chat} (hc : c ∈ C.chats) (ms : List Mensaje) (m : Mensaje) :
    Representa (C.conMensajes c.id ms m) ([c.a, c.b].foldl (indexado c.id)
      (Function.update d (claveBaseConversacion ++ c.id)
        (some (Conversacion.texto c.id [c.a, c.b] (ms ++ [m]))))) := by
  have hesc : Central.escribir c.id ms m c = c.conMensaje ms m := by rw [Central.escribir, if_pos rfl]
  have hmem : c.conMensaje ms m ∈ (C.conMensajes c.id ms m).chats := by
    rw [← hesc]
    exact List.mem_map_of_mem hc
  refine h.guardar (c := c.conMensaje ms m) hmem rfl ?_ ?_
  · intro k
    rw [Central.buscar_conMensajes]
    by_cases hk : k = c.id
    · rw [hk, Central.buscar_eq_some_iff.mpr ⟨hc, rfl⟩, Option.map_some, hesc]
      exact (if_pos rfl).symm
    · cases hb : C.buscar k with
      | none => exact (if_neg hk).symm
      | some c' =>
        obtain ⟨-, hid⟩ := Central.buscar_eq_some_iff.mp hb
        rw [Option.map_some, Central.escribir, if_neg (fun h => hk (hid ▸ h))]
        exact (if_neg hk).symm
  · intro u
    rw [Central.indice_conMensajes]
    split
    · rename_i hp
      exact (if_pos (.inr (mem_indice hc hp))).symm
    · rfl

theorem conChat (h : Representa C d) {x y : Cadena} (hx : (C.usuarios x).isSome) (hy : (C.usuarios y).isSome)
    (hno : C.entre x y = none) (m : Mensaje) :
    Representa (C.conChat x y m) ([x, y].foldl (indexado (Chat.nuevo x y m).id)
      (Function.update d (claveBaseConversacion ++ (Chat.nuevo x y m).id) (some (Chat.nuevo x y m).texto))) := by
  have hmem : Chat.nuevo x y m ∈ (C.conChat x y m).chats := by
    rw [Central.chats_conChat hx hy hno]
    simp
  have hnuevo : C.buscar (Chat.nuevo x y m).id = none := by
    rw [Central.entre_eq_buscar, Option.or_eq_none_iff] at hno
    exact hno.1
  refine h.guardar hmem rfl (Central.buscar_conChat hx hy hno m) ?_
  intro u
  rw [Central.indice_conChat hx hy hno]
  by_cases hu : (Chat.nuevo x y m).Participa u
  · have hfresh : (Chat.nuevo x y m).id ∉ C.indice u := by
      intro hin
      obtain ⟨c, hc, hid⟩ := List.mem_map.mp hin
      exact Central.buscar_eq_none_iff.mp hnuevo c (List.mem_filter.mp hc).1 hid
    rw [if_pos hu, if_pos hu, anotar, if_neg]
    rintro (heq | hin)
    · exact id_ne hmem (by decide) heq
    · exact hfresh hin
  · rw [if_neg hu, if_neg hu, List.append_nil]

end Representa

end MensajeroX
