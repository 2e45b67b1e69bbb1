import MensajeroX.Constantes
import MensajeroX.Utilidades.Md5
import MensajeroX.Lib.JsonCpp.Grammar

/-!
# `Mensaje`

A message and its text. The text ends in a newline and contains the separator of lists exactly when a field does,
so cutting a list of texts at the separators cuts inside a message whose fields contain one.

* `deserealizar_serializar` : reading a message back, whatever follows its text;
* `separador_mem_serializar` : when the separator occurs in the text of a message.
-/

namespace MensajeroX
open Bytes JsonCpp

/-- `Mensaje`. The fields of a default constructed message are empty. -/
structure Mensaje where
  id : Cadena := []
  cuerpo : Cadena := []
  idUsuarioEmisor : Cadena := []
  fecha : Cadena := []
deriving DecidableEq, Repr

namespace Mensaje

/-- `Mensaje(cuerpo, idUsuarioEmisor, fecha)`. -/
def nuevo (cuerpo idUsuarioEmisor fecha : Cadena) : Mensaje where
  cuerpo := cuerpo
  idUsuarioEmisor := idUsuarioEmisor
  fecha := fecha
  id := md5 (idUsuarioEmisor ++ fecha)

def serializar [LibC] (m : Mensaje) : Cadena :=
  (Value.ofAssignments [(keyId, .string m.id), (keyCuerpo, .string m.cuerpo),
    (keyIdUsuarioEmisor, .string m.idUsuarioEmisor), (keyFecha, .string m.fecha)]).toStyledString

/-- `Mensaje(aDeserealizar)`: `deserealizar` on a default constructed message. -/
def deserealizar [LibC] (aDeserealizar : Cadena) : Except Exn Mensaje := do
  let (parseoExitoso, mensaje) ← parse aDeserealizar
  if parseoExitoso then
    let id ← mensaje.getString keyId keyDefault
    let cuerpo ← mensaje.getString keyCuerpo keyDefault
    let idUsuarioEmisor ← mensaje.getString keyIdUsuarioEmisor keyDefault
    let fecha ← mensaje.getString keyFecha keyDefault
    return { id, cuerpo, idUsuarioEmisor, fecha }
  else return {}

def campos (m : Mensaje) : List (Cadena × Value) :=
  [(keyCuerpo, .string m.cuerpo), (keyFecha, .string m.fecha), (keyId, .string m.id),
    (keyIdUsuarioEmisor, .string m.idUsuarioEmisor)]

theorem serializar_eq [LibC] (m : Mensaje) : m.serializar = (Value.object m.campos).toStyledString := rfl

theorem campos_flat (m : Mensaje) : Flat m.campos :=
  .of_names [keyCuerpo, keyFecha, keyId, keyIdUsuarioEmisor] rfl (by decide) (by decide +kernel) (by decide +kernel)
    (by simp [campos, IsLeaf])

theorem deserealizar_serializar [LibC] (m : Mensaje) (resto : Cadena) :
    deserealizar (m.serializar ++ resto) = .ok m := by
  rw [deserealizar, serializar_eq, parse_toStyledString m.campos_flat]
  rfl

theorem serializar_getLast [LibC] (m : Mensaje) : ∃ u, m.serializar = u ++ [0x0a] := ⟨_, rfl⟩

/-! ## The separator of lists -/

def SinSeparador (m : Mensaje) : Prop :=
  SeparadorListaBD ∉ m.id ∧ SeparadorListaBD ∉ m.cuerpo ∧ SeparadorListaBD ∉ m.idUsuarioEmisor ∧
    SeparadorListaBD ∉ m.fecha

instance (m : Mensaje) : Decidable m.SinSeparador := by unfold SinSeparador; infer_instance

/-- The separator is not escaped and not part of the layout. -/
theorem separador_transparent : Transparent SeparadorListaBD where
  escape := forall_byte (by decide)
  layout := by decide +kernel

/-- The text of a message contains the separator exactly when a field does. -/
theorem separador_mem_serializar [LibC] (m : Mensaje) : SeparadorListaBD ∈ m.serializar ↔ ¬ m.SinSeparador := by
  have hkeys : SeparadorListaBD ∉ keyCuerpo ∧ SeparadorListaBD ∉ keyFecha ∧ SeparadorListaBD ∉ keyId ∧
      SeparadorListaBD ∉ keyIdUsuarioEmisor := by decide
  rw [serializar_eq, separador_transparent.mem_toStyledString m.campos_flat]
  simp only [campos, List.mem_cons, List.not_mem_nil, or_false, exists_eq_or_imp, exists_eq_left, leafText, hkeys,
    false_or, SinSeparador]
  tauto

/-- A new message contains the separator only where the client put it. -/
theorem nuevo_sinSeparador {cuerpo emisor fecha : Cadena} (hc : SeparadorListaBD ∉ cuerpo)
    (he : SeparadorListaBD ∉ emisor) (hf : SeparadorListaBD ∉ fecha) : (nuevo cuerpo emisor fecha).SinSeparador :=
  ⟨not_mem_md5 (by decide) _, hc, he, hf⟩

end Mensaje

end MensajeroX
