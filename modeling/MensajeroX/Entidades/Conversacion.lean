import MensajeroX.Entidades.Mensaje
import MensajeroX.Entidades.Usuario
import MensajeroX.Lib.Efectos

/-!
# `Conversacion`

A conversation and its text. The messages are one member of the text: their own texts, joined by a separator that
no layer escapes. `recargar` is what a store and a load make of a list of messages.

* `recargar_eq` : the pieces that a load reads are the pieces of the single messages;
* `recargar_of_sinSeparador` : messages without separators are read back as they were;
* `recargar_eq_self_iff` : **and only those are**.
-/

namespace MensajeroX
open Bytes JsonCpp Separated Efectos

structure Conversacion where
  id : Cadena := []
  mensajes : List Mensaje := []
  usuarios : List Usuario := []
deriving DecidableEq, Repr

namespace Conversacion

/-- `Conversacion()`. -/
def noEncontrada : Conversacion where
  id := keyIdConversacionNoEncontrada

/-- The `'-'` between the ids of the participants. -/
def guion : UInt8 := 0x2d

/-- `getId()`: the member `id`, or the ids of the users joined by hyphens. -/
def getId (c : Conversacion) : Cadena :=
  if c.id ≠ [] then c.id else joinLoop guion (c.usuarios.map (·.id))

/-- `Conversacion(usuarios, mensajes)`. -/
def nueva (usuarios : List Usuario) (mensajes : List Mensaje) : Conversacion where
  usuarios := usuarios
  mensajes := mensajes
  id := getId { usuarios := usuarios, mensajes := mensajes }

def agregarMensaje (c : Conversacion) (mensaje : Mensaje) : Conversacion :=
  { c with mensajes := c.mensajes ++ [mensaje] }

def serializar [LibC] (c : Conversacion) : Cadena :=
  (Value.ofAssignments [(keyIdConversacion, .string c.getId),
    (keyIdsUsuarios, .string (joinLoop SeparadorListaBD (c.usuarios.map (·.id)))),
    (keyMensajes, .string (joinLoop SeparadorListaBD (c.mensajes.map Mensaje.serializar)))]).toStyledString

theorem getId_nueva {e r : Usuario} (he : e.id ≠ []) (ms : List Mensaje) :
    (nueva [e, r] ms).getId = e.id ++ guion :: r.id := by
  have hjoin : joinLoop guion [e.id, r.id] = e.id ++ guion :: r.id := by
    rw [joinLoop_cons guion he]
    simp
  have hid : (nueva [e, r] ms).id = e.id ++ guion :: r.id := hjoin
  rw [getId, hid, if_pos (by simp)]

/-! ## The text -/

/-- The members of the text of a conversation between `ids`. -/
def campos [LibC] (id : Cadena) (ids : List Cadena) (mensajes : List Mensaje) : List (Cadena × Value) :=
  [(keyIdConversacion, .string id), (keyIdsUsuarios, .string (joinLoop SeparadorListaBD ids)),
    (keyMensajes, .string (joinLoop SeparadorListaBD (mensajes.map Mensaje.serializar)))]

/-- The text of a conversation between `ids`. -/
def texto [LibC] (id : Cadena) (ids : List Cadena) (mensajes : List Mensaje) : Cadena :=
  (Value.object (campos id ids mensajes)).toStyledString

theorem serializar_eq [LibC] (c : Conversacion) :
    c.serializar = texto c.getId (c.usuarios.map (·.id)) c.mensajes := rfl

theorem campos_flat [LibC] (id : Cadena) (ids : List Cadena) (mensajes : List Mensaje) :
    Flat (campos id ids mensajes) :=
  .of_names [keyIdConversacion, keyIdsUsuarios, keyMensajes] rfl (by decide) (by decide +kernel) (by decide +kernel)
    (by simp [campos, IsLeaf])

theorem parse_texto [LibC] (id : Cadena) (ids : List Cadena) (mensajes : List Mensaje) :
    parse (texto id ids mensajes) = .ok (true, .object (campos id ids mensajes)) := by
  have := parse_toStyledString (campos_flat id ids mensajes) []
  rwa [List.append_nil] at this

theorem texto_ne_noEncontrado [LibC] (id : Cadena) (ids : List Cadena) (mensajes : List Mensaje) :
    texto id ids mensajes ≠ keyDatoNoEncontrado := by
  rw [texto, toStyledString_flat (campos_flat id ids mensajes).ne_nil (campos_flat id ids mensajes).leaves]
  intro h
  have := congrArg List.head? h
  revert this
  simp only [List.head?_cons]
  decide

theorem serializar_append_inj [LibC] {m m' : Mensaje} {r r' : Cadena} (h : m.serializar ++ r = m'.serializar ++ r') :
    m = m' ∧ r = r' := by
  have hm : m = m' := by
    have hleer := m.deserealizar_serializar r
    rw [h, m'.deserealizar_serializar r'] at hleer
    exact (Except.ok.inj hleer).symm
  subst hm
  exact ⟨rfl, List.append_cancel_left h⟩

theorem joinLoop_serializar_inj [LibC] {ms ms' : List Mensaje}
    (h : joinLoop SeparadorListaBD (ms.map Mensaje.serializar) = joinLoop SeparadorListaBD (ms'.map Mensaje.serializar)) :
    ms = ms' := by
  have hne : ∀ m : Mensaje, m.serializar ≠ [] := by
    intro m
    obtain ⟨u, hu⟩ := m.serializar_getLast
    rw [hu]
    exact List.append_ne_nil_of_right_ne_nil _ (List.cons_ne_nil _ _)
  have hresto : ∀ {ms ms' : List Mensaje}, ms.flatMap (fun m => SeparadorListaBD :: m.serializar) =
      ms'.flatMap (fun m => SeparadorListaBD :: m.serializar) → ms = ms' := by
    intro ms ms' h
    induction ms generalizing ms' with
    | nil =>
      cases ms' with
      | nil => rfl
      | cons m' ms' => cases h
    | cons m ms ih =>
      cases ms' with
      | nil => cases h
      | cons m' ms' =>
        obtain ⟨rfl, htail⟩ := serializar_append_inj (List.cons.inj h).2
        rw [ih htail]
  cases ms with
  | nil =>
    cases ms' with
    | nil => rfl
    | cons m' ms' =>
      rw [List.map_cons, joinLoop_cons SeparadorListaBD (hne m')] at h
      exact absurd (List.append_eq_nil_iff.mp h.symm).1 (hne m')
  | cons m ms =>
    cases ms' with
    | nil =>
      rw [List.map_cons, joinLoop_cons SeparadorListaBD (hne m)] at h
      exact absurd (List.append_eq_nil_iff.mp h).1 (hne m)
    | cons m' ms' =>
      rw [List.map_cons, joinLoop_cons SeparadorListaBD (hne m), List.map_cons, joinLoop_cons SeparadorListaBD (hne m'),
        List.flatMap_map, List.flatMap_map] at h
      obtain ⟨rfl, htail⟩ := serializar_append_inj h
      rw [hresto htail]

theorem texto_inj [LibC] {k k' : Cadena} {ids ids' : List Cadena} {ms ms' : List Mensaje}
    (h : texto k ids ms = texto k' ids' ms') : ms = ms' := by
  have hparse := parse_texto k ids ms
  rw [h, parse_texto] at hparse
  have hcampos : campos k' ids' ms' = campos k ids ms := Value.object.inj (Prod.mk.inj (Except.ok.inj hparse)).2
  simp only [campos, List.cons.injEq, Prod.mk.injEq, Value.string.injEq, true_and, and_true] at hcampos
  exact (joinLoop_serializar_inj hcampos.2.2).symm

/-! ## Storing and loading messages -/

/-- What a load makes of stored messages: the joined texts are cut at every separator and each piece is read. -/
def recargar [LibC] (mensajes : List Mensaje) : Except Exn (List Mensaje) :=
  (StringUtil.split (joinLoop SeparadorListaBD (mensajes.map Mensaje.serializar)) SeparadorListaBD).mapM
    Mensaje.deserealizar

def piezas [LibC] (m : Mensaje) : List Cadena := List.splitOn SeparadorListaBD m.serializar

theorem split_mensajes [LibC] (mensajes : List Mensaje) :
    StringUtil.split (joinLoop SeparadorListaBD (mensajes.map Mensaje.serializar)) SeparadorListaBD =
      mensajes.flatMap piezas := by
  have hlast : ∀ t ∈ mensajes.map Mensaje.serializar, ∃ u, t = u ++ [0x0a] := by
    intro t ht
    obtain ⟨m, -, rfl⟩ := List.mem_map.mp ht
    exact m.serializar_getLast
  rw [StringUtil.split, split_joinLoop_flatMap (by decide) hlast, List.flatMap_map]
  rfl

theorem recargar_eq [LibC] (mensajes : List Mensaje) :
    recargar mensajes = (mensajes.flatMap piezas).mapM Mensaje.deserealizar := by
  rw [recargar, split_mensajes]

theorem piezas_of_sinSeparador [LibC] {m : Mensaje} (hm : m.SinSeparador) : piezas m = [m.serializar] :=
  List.splitOn_eq_singleton fun h => (m.separador_mem_serializar.mp h) hm

theorem length_piezas [LibC] (m : Mensaje) :
    1 ≤ (piezas m).length ∧ ((piezas m).length = 1 ↔ m.SinSeparador) := by
  rw [piezas, length_splitOn]
  refine ⟨by omega, ?_⟩
  have hcount : m.serializar.count SeparadorListaBD = 0 ↔ m.SinSeparador := by
    rw [List.count_eq_zero, m.separador_mem_serializar, not_not]
  rw [← hcount]
  omega

theorem recargar_of_sinSeparador [LibC] {mensajes : List Mensaje} (h : ∀ m ∈ mensajes, m.SinSeparador) :
    recargar mensajes = .ok mensajes := by
  rw [recargar_eq, mapM_eq_ok_iff]
  induction mensajes with
  | nil => exact .nil
  | cons m ms ih =>
    have hleer := m.deserealizar_serializar []
    rw [List.append_nil] at hleer
    rw [List.flatMap_cons, piezas_of_sinSeparador (h m (by simp)), List.singleton_append]
    exact .cons hleer (ih fun m' hm' => h m' (by simp [hm']))

theorem length_recargar [LibC] {mensajes r : List Mensaje} (h : recargar mensajes = .ok r) :
    r.length = (mensajes.map fun m => (piezas m).length).sum := by
  rw [recargar_eq, mapM_eq_ok_iff] at h
  rw [← h.length_eq, List.length_flatMap]

theorem length_le_sum_piezas [LibC] (mensajes : List Mensaje) :
    mensajes.length ≤ (mensajes.map fun m => (piezas m).length).sum := by
  induction mensajes with
  | nil => simp
  | cons m ms ih =>
    have := (length_piezas m).1
    simp only [List.map_cons, List.sum_cons, List.length_cons]
    omega

theorem length_le_recargar [LibC] {mensajes r : List Mensaje} (h : recargar mensajes = .ok r) :
    mensajes.length ≤ r.length := by
  rw [length_recargar h]
  exact length_le_sum_piezas mensajes

/-- **A list of messages survives a store and a load exactly when no field contains the separator.** -/
theorem recargar_eq_self_iff [LibC] {mensajes : List Mensaje} :
    recargar mensajes = .ok mensajes ↔ ∀ m ∈ mensajes, m.SinSeparador := by
  refine ⟨fun h => ?_, recargar_of_sinSeparador⟩
  have hlen := length_recargar h
  clear h
  -- every message has at least one piece, so a sum equal to their number leaves none with two
  induction mensajes with
  | nil => simp
  | cons m ms ih =>
    obtain ⟨h₁, h₂⟩ := length_piezas m
    have hle := length_le_sum_piezas ms
    simp only [List.map_cons, List.sum_cons, List.length_cons] at hlen
    rw [List.forall_mem_cons]
    exact ⟨h₂.mp (by omega), ih (by omega)⟩

end Conversacion

end MensajeroX
