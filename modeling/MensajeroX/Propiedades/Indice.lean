import MensajeroX.BaseDeDatos.Indices
import MensajeroX.Utilidades.Localizacion

/-!
# The index of conversations

The operations of `BaseDeDatos` on users and conversations, in any order. An index is only ever extended, and it
starts with the marker of missing data; a deletion does not touch it.

* `Archivo` : what is stored and what was entered in the indices, with what always holds between the two;
* `Guarda.paso`, `guarda_aplicar` : **the store follows the archive**, for an operation and for a sequence;
* `indiceExacto_iff` : **when an index is exact**.
-/

namespace MensajeroX
open Bytes JsonCpp BaseDeDatos Efectos

/-! ## Operations -/

inductive Operacion where
  | setUsuario (usuario : Usuario)
  | setConversacion (conversacion : Conversacion)
  | eliminarConversacion (clave : Cadena)

def Operacion.accion [LibC] : Operacion → Accion Unit
  | .setUsuario usuario => BaseDeDatos.setUsuario usuario
  | .setConversacion conversacion => BaseDeDatos.setConversacion conversacion
  | .eliminarConversacion clave => BaseDeDatos.eliminarConversacion clave

def BaseDeDatos.aplicar [LibC] (db : RocksDB) (ops : List Operacion) : RocksDB :=
  ops.foldl (fun db op => (final (op.accion.run { db := db })).db) db

theorem BaseDeDatos.aplicar_concat [LibC] (db : RocksDB) (ops : List Operacion) (op : Operacion) :
    aplicar db (ops ++ [op]) = (final (op.accion.run { db := aplicar db ops })).db := by
  rw [aplicar, List.foldl_append]
  rfl

def Conversacion.idsUsuarios (c : Conversacion) : List Cadena := c.usuarios.map (·.id)

/-- The ids that an operation stores can stand in an index. -/
def Operacion.Valida : Operacion → Prop
  | .setConversacion c => Entrada c.getId
  | _ => True

instance : (op : Operacion) → Decidable op.Valida
  | .setUsuario _ => .isTrue trivial
  | .setConversacion c => inferInstanceAs (Decidable (Entrada c.getId))
  | .eliminarConversacion _ => .isTrue trivial

/-! ## The archive -/

/-- The conversations that are stored, and the ids that were entered for every user. -/
structure Archivo where
  guardadas : Cadena → Option Conversacion
  anotadas : Cadena → List Cadena
  sinMarca : ∀ u, keyDatoNoEncontrado ∉ anotadas u
  sinRepetir : ∀ u, (anotadas u).Nodup
  cubre : ∀ u k c, guardadas k = some c → u ∈ c.idsUsuarios → k = keyDatoNoEncontrado ∨ k ∈ anotadas u

namespace Archivo

def vacio : Archivo where
  guardadas := fun _ => none
  anotadas := fun _ => []
  sinMarca := fun _ => List.not_mem_nil
  sinRepetir := fun _ => List.nodup_nil
  cubre := fun _ _ _ h => by cases h

/-- A conversation is stored and entered for each of its users. -/
def guardar (A : Archivo) (c : Conversacion) : Archivo where
  guardadas := Function.update A.guardadas c.getId (some c)
  anotadas := fun u => if u ∈ c.idsUsuarios then anotar c.getId (A.anotadas u) else A.anotadas u
  sinMarca := by
    intro u
    split
    · rw [mem_anotar]
      rintro (h | ⟨h, hne⟩)
      · exact A.sinMarca u h
      · exact hne h.symm
    · exact A.sinMarca u
  sinRepetir := by
    intro u
    split
    · exact nodup_anotar (A.sinRepetir u)
    · exact A.sinRepetir u
  cubre := by
    intro u k c' hc' hu
    by_cases hk : k = c.getId
    · subst hk
      rw [Function.update_self] at hc'
      cases hc'
      by_cases hmarca : c.getId = keyDatoNoEncontrado
      · exact .inl hmarca
      · rw [if_pos hu, mem_anotar]
        exact .inr (.inr ⟨rfl, hmarca⟩)
    · rw [Function.update_of_ne hk] at hc'
      refine (A.cubre u k c' hc' hu).imp_right fun hin => ?_
      split
      · exact mem_anotar.mpr (.inl hin)
      · exact hin

def eliminar (A : Archivo) (clave : Cadena) : Archivo where
  guardadas := Function.update A.guardadas clave none
  anotadas := A.anotadas
  sinMarca := A.sinMarca
  sinRepetir := A.sinRepetir
  cubre := by
    intro u k c hc hu
    by_cases hk : k = clave
    · subst hk
      rw [Function.update_self] at hc
      cases hc
    · rw [Function.update_of_ne hk] at hc
      exact A.cubre u k c hc hu

def paso (A : Archivo) : Operacion → Archivo
  | .setUsuario _ => A
  | .setConversacion c => A.guardar c
  | .eliminarConversacion clave => A.eliminar clave

def de (ops : List Operacion) : Archivo := ops.foldl paso vacio

theorem de_concat (ops : List Operacion) (op : Operacion) : de (ops ++ [op]) = (de ops).paso op := by
  rw [de, List.foldl_append]
  rfl

/-- An id was entered for a user when a conversation of the user was stored under it. -/
theorem mem_anotadas_iff {ops : List Operacion} {u k : Cadena} :
    k ∈ (de ops).anotadas u ↔
      k ≠ keyDatoNoEncontrado ∧ ∃ c, .setConversacion c ∈ ops ∧ c.getId = k ∧ u ∈ c.idsUsuarios := by
  induction ops using List.reverseRecOn with
  | nil => simp [de, vacio]
  | append_singleton ops op ih =>
    rw [de_concat]
    cases op with
    | setUsuario v =>
      simp only [paso, ih, List.mem_append, List.mem_singleton, reduceCtorEq, or_false]
    | eliminarConversacion clave =>
      simp only [paso, eliminar, ih, List.mem_append, List.mem_singleton, reduceCtorEq, or_false]
    | setConversacion c =>
      simp only [paso, guardar, List.mem_append, List.mem_singleton, Operacion.setConversacion.injEq]
      by_cases hu : u ∈ c.idsUsuarios
      · rw [if_pos hu, mem_anotar, ih]
        constructor
        · rintro (⟨hne, c', hc', hid, hu'⟩ | ⟨rfl, hne⟩)
          · exact ⟨hne, c', .inl hc', hid, hu'⟩
          · exact ⟨hne, c, .inr rfl, rfl, hu⟩
        · rintro ⟨hne, c', hc' | rfl, hid, hu'⟩
          · exact .inl ⟨hne, c', hc', hid, hu'⟩
          · exact .inr ⟨hid.symm, hid ▸ hne⟩
      · rw [if_neg hu, ih]
        constructor
        · rintro ⟨hne, c', hc', hid, hu'⟩
          exact ⟨hne, c', .inl hc', hid, hu'⟩
        · rintro ⟨hne, c', hc' | rfl, hid, hu'⟩
          · exact ⟨hne, c', hc', hid, hu'⟩
          · exact absurd hu' hu

end Archivo

/-! ## The store of an archive -/

section Guarda
variable [LibC]

/-- The store holds the texts of the archive, and its indices the ids that were entered. -/
structure Guarda (A : Archivo) (d : Cadena → Option Cadena) : Prop where
  conversaciones : ∀ k, d (claveBaseConversacion ++ k) = (A.guardadas k).map Conversacion.serializar
  indices : Indices d A.anotadas
  entradas : ∀ u, ∀ k ∈ A.anotadas u, Entrada k

theorem Guarda.vacio : Guarda .vacio fun _ => none where
  conversaciones := fun _ => rfl
  indices := fun _ => rfl
  entradas := fun _ _ h => by cases h

/-- **The store follows the archive**: an operation. -/
theorem Guarda.paso {A : Archivo} {d : Cadena → Option Cadena} (h : Guarda A d) {op : Operacion} (hop : op.Valida) :
    ∃ d', op.accion.run (.sano d []) = .ok () (.sano d' []) ∧ Guarda (A.paso op) d' := by
  cases op with
  | setUsuario u =>
    refine ⟨_, run_setDato d [] _ _, fun k => ?_, fun v => ?_, h.entradas⟩
    · rw [Function.update_of_ne (usuario_ne_conversacion _ _).symm]
      exact h.conversaciones k
    · rw [Function.update_of_ne (usuario_ne_indice _ _).symm]
      exact h.indices v
  | eliminarConversacion clave =>
    refine ⟨_, run_eliminar d [] _, fun k => ?_, fun v => ?_, h.entradas⟩
    · by_cases hk : k = clave
      · subst hk
        simp [Archivo.paso, Archivo.eliminar]
      · rw [Function.update_of_ne fun heq => hk (List.append_cancel_left heq), h.conversaciones k]
        simp [Archivo.paso, Archivo.eliminar, hk]
    · rw [Function.update_of_ne (conversacion_ne_indice _ _).symm]
      exact h.indices v
  | setConversacion c =>
    refine ⟨_, run_setConversacion d [] c, fun k => ?_, ?_, fun u => ?_⟩
    · rw [foldl_indexado_of_ne _ _ _ (conversacion_ne_indice k)]
      by_cases hk : k = c.getId
      · subst hk
        simp [Archivo.paso, Archivo.guardar]
      · rw [Function.update_of_ne fun heq => hk (List.append_cancel_left heq), h.conversaciones k]
        simp [Archivo.paso, Archivo.guardar, hk]
    · have hind : Indices (Function.update d (claveBaseConversacion ++ c.getId) (some c.serializar)) A.anotadas := by
        intro u
        rw [Function.update_of_ne (conversacion_ne_indice _ _).symm]
        exact h.indices u
      exact hind.foldl_indexado hop c.idsUsuarios h.entradas
    · show ∀ k ∈ if u ∈ c.idsUsuarios then _ else _, Entrada k
      split
      · exact anotar_entrada hop (h.entradas u)
      · exact h.entradas u

/-- **The store follows the archive**: a sequence of operations from the empty store. -/
theorem guarda_aplicar {ops : List Operacion} (hops : ∀ op ∈ ops, op.Valida) :
    ∃ d, aplicar .vacia ops = { datos := d } ∧ Guarda (.de ops) d := by
  induction ops using List.reverseRecOn with
  | nil => exact ⟨_, rfl, Guarda.vacio⟩
  | append_singleton ops op ih =>
    obtain ⟨d, haplicar, h⟩ := ih fun op hop => hops op (by simp [hop])
    obtain ⟨d', hrun, h'⟩ := h.paso (hops op (by simp))
    refine ⟨d', ?_, ?_⟩
    · rw [aplicar_concat, haplicar, hrun]
      rfl
    · rw [Archivo.de_concat]
      exact h'

/-! ## Exact indices -/

def Tiene (ops : List Operacion) (u k : Cadena) : Prop :=
  ∃ c, (Archivo.de ops).guardadas k = some c ∧ u ∈ c.idsUsuarios

/-- The index of the user lists the stored conversations of the user, each of them once. -/
def IndiceExacto (ops : List Operacion) (u : Cadena) : Prop :=
  ∃ ids s, (getIdsConversacionPorIdUsuario u).run { db := aplicar .vacia ops } = .ok ids s ∧ ids.Nodup ∧
    ∀ k, k ∈ ids ↔ Tiene ops u k

theorem Guarda.run_getIds {A : Archivo} {d : Cadena → Option Cadena} (h : Guarda A d) (u : Cadena) :
    (getIdsConversacionPorIdUsuario u).run (.sano d []) = .ok (keyDatoNoEncontrado :: A.anotadas u) (.sano d []) := by
  rw [getIdsConversacionPorIdUsuario, bind_ok (run_getDato d [] _), h.indices u, split_textoIndice (h.entradas u)]
  rfl

/-- **When an index is exact**: a conversation of the user is stored under the marker of missing data, and every
conversation of the user that was ever stored still is. -/
theorem indiceExacto_iff {ops : List Operacion} (hops : ∀ op ∈ ops, op.Valida) (u : Cadena) :
    IndiceExacto ops u ↔
      Tiene ops u keyDatoNoEncontrado ∧ ∀ c, .setConversacion c ∈ ops → u ∈ c.idsUsuarios → Tiene ops u c.getId := by
  obtain ⟨d, haplicar, h⟩ := guarda_aplicar hops
  have hids : (getIdsConversacionPorIdUsuario u).run { db := aplicar .vacia ops } =
      .ok (keyDatoNoEncontrado :: (Archivo.de ops).anotadas u) (.sano d []) := by
    rw [haplicar]
    exact h.run_getIds u
  constructor
  · rintro ⟨ids, s, hrun, -, hexacto⟩
    rw [hids] at hrun
    cases hrun
    refine ⟨(hexacto _).mp List.mem_cons_self, fun c hc hu => (hexacto _).mp ?_⟩
    by_cases hmarca : c.getId = keyDatoNoEncontrado
    · rw [hmarca]
      exact List.mem_cons_self
    · exact List.mem_cons_of_mem _ (Archivo.mem_anotadas_iff.mpr ⟨hmarca, c, hc, rfl, hu⟩)
  · rintro ⟨hmarca, hsiguen⟩
    refine ⟨_, _, hids, List.nodup_cons.mpr ⟨(Archivo.de ops).sinMarca u, (Archivo.de ops).sinRepetir u⟩, fun k => ?_⟩
    constructor
    · intro hk
      rcases List.mem_cons.mp hk with rfl | hk
      · exact hmarca
      · obtain ⟨-, c, hc, rfl, hu⟩ := Archivo.mem_anotadas_iff.mp hk
        exact hsiguen c hc hu
    · rintro ⟨c, hc, hu⟩
      rw [List.mem_cons]
      exact (Archivo.de ops).cubre u k c hc hu

/-! ## The marker -/

/-- Every index is read as the marker, alone or followed by a separator. -/
def Marcado (d : Cadena → Option Cadena) : Prop :=
  ∀ u, ∃ resto, (d (claveBaseConversacionesPorUsuario ++ u)).getD keyDatoNoEncontrado = keyDatoNoEncontrado ++ resto ∧
    (resto = [] ∨ ∃ r, resto = SeparadorListaBD :: r)

omit [LibC] in
theorem Marcado.indexado {d : Cadena → Option Cadena} (h : Marcado d) (k v : Cadena) : Marcado (indexado k d v) := by
  intro u
  obtain ⟨resto, hresto, hforma⟩ := h u
  by_cases hu : u = v
  · subst hu
    rw [MensajeroX.indexado, Function.update_self, Option.getD_some, hresto, entrada]
    split
    · exact ⟨resto, rfl, hforma⟩
    · refine ⟨resto ++ SeparadorListaBD :: k, List.append_assoc .., .inr ?_⟩
      rcases hforma with rfl | ⟨r, rfl⟩
      · exact ⟨k, rfl⟩
      · exact ⟨r ++ SeparadorListaBD :: k, rfl⟩
  · have hkey : claveBaseConversacionesPorUsuario ++ u ≠ claveBaseConversacionesPorUsuario ++ v :=
      fun heq => hu (List.append_cancel_left heq)
    rw [MensajeroX.indexado, Function.update_of_ne hkey]
    exact ⟨resto, hresto, hforma⟩

omit [LibC] in
theorem Marcado.of_ne {d : Cadena → Option Cadena} (h : Marcado d) {clave : Cadena}
    (hne : ∀ u, claveBaseConversacionesPorUsuario ++ u ≠ clave) (valor : Option Cadena) :
    Marcado (Function.update d clave valor) := by
  intro u
  rw [Function.update_of_ne (hne u)]
  exact h u

theorem Marcado.paso {d : Cadena → Option Cadena} (h : Marcado d) (op : Operacion) :
    ∃ d', op.accion.run (.sano d []) = .ok () (.sano d' []) ∧ Marcado d' := by
  cases op with
  | setUsuario u => exact ⟨_, run_setDato d [] _ _, h.of_ne (fun v => (usuario_ne_indice _ v).symm) _⟩
  | eliminarConversacion clave => exact ⟨_, run_eliminar d [] _, h.of_ne (fun v => (conversacion_ne_indice _ v).symm) _⟩
  | setConversacion c =>
    refine ⟨_, run_setConversacion d [] c, ?_⟩
    have hbase := h.of_ne (fun v => (conversacion_ne_indice c.getId v).symm) (some c.serializar)
    generalize Function.update d _ _ = d₀ at hbase
    induction c.usuarios.map (·.id) generalizing d₀ with
    | nil => exact hbase
    | cons v vs ih => exact ih _ (hbase.indexado c.getId v)

/-- **Every index starts with the marker**, after any operations. -/
theorem marca_primera (ops : List Operacion) (u : Cadena) :
    ∃ ids s, (getIdsConversacionPorIdUsuario u).run { db := aplicar .vacia ops } =
      .ok (keyDatoNoEncontrado :: ids) s := by
  have hmarca : ∃ d, aplicar .vacia ops = { datos := d } ∧ Marcado d := by
    induction ops using List.reverseRecOn with
    | nil => exact ⟨_, rfl, fun _ => ⟨[], rfl, .inl rfl⟩⟩
    | append_singleton ops op ih =>
      obtain ⟨d, haplicar, h⟩ := ih
      obtain ⟨d', hrun, h'⟩ := h.paso op
      refine ⟨d', ?_, h'⟩
      rw [aplicar_concat, haplicar, hrun]
      rfl
  obtain ⟨d, haplicar, h⟩ := hmarca
  obtain ⟨resto, hresto, hforma⟩ := h u
  rw [haplicar, getIdsConversacionPorIdUsuario, bind_ok (run_getDato d [] _), hresto]
  rcases hforma with rfl | ⟨r, rfl⟩
  · rw [List.append_nil, StringUtil.split, Separated.split_of_not_mem (by decide) (by decide)]
    exact ⟨[], _, rfl⟩
  · rw [StringUtil.split, Separated.split_append_of_not_mem (by decide)]
    exact ⟨_, _, rfl⟩

end Guarda

section Ejemplo
attribute [local instance] Aritmetica.nula

/-- A conversation of `u` and `v` is stored under the marker, and another of theirs under its own id. -/
def marcada : List Operacion :=
  [.setConversacion { id := keyDatoNoEncontrado, usuarios := [{ id := bytes "u" }, { id := bytes "v" }] },
    .setConversacion (.nueva [{ id := bytes "u" }, { id := bytes "v" }] [])]

theorem indiceExacto_marcada : IndiceExacto marcada (bytes "u") := by
  refine (indiceExacto_iff (by decide +kernel) (bytes "u")).mpr ⟨⟨_, rfl, by decide +kernel⟩, fun c hc _ => ?_⟩
  rcases List.mem_pair.mp hc with hc | hc
  · cases hc
    exact ⟨_, rfl, by decide +kernel⟩
  · cases hc
    exact ⟨_, rfl, by decide +kernel⟩

/-- A conversation of `u` and `v` is stored and deleted. -/
def borrada : List Operacion :=
  [.setConversacion (.nueva [{ id := bytes "u" }, { id := bytes "v" }] []), .eliminarConversacion (bytes "u-v")]

/-- What is left in the index of `u`: the marker and an id under which nothing is stored. -/
theorem indice_inexacto : ¬ IndiceExacto borrada (bytes "u") := by
  rintro ⟨ids, s, hrun, -, hexacto⟩
  have hids : (match (getIdsConversacionPorIdUsuario (bytes "u")).run { db := aplicar .vacia borrada } with
      | .ok ids _ => ids
      | .error _ _ => []) = [keyDatoNoEncontrado, bytes "u-v"] := by decide +kernel
  rw [hrun] at hids
  obtain ⟨c, hc, -⟩ := (hexacto keyDatoNoEncontrado).mp (by rw [show ids = _ from hids]; exact List.mem_cons_self)
  have hnada : (Archivo.de borrada).guardadas keyDatoNoEncontrado = none := by decide +kernel
  rw [hnada] at hc
  cases hc

end Ejemplo

end MensajeroX
