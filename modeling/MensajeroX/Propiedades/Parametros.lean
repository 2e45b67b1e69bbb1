import MensajeroX.Lib.JsonCpp.Nesting
import MensajeroX.Lib.JsonCpp.Scalars
import MensajeroX.Servidor.Peticion

/-!
# Array parameters

`getParametroArray` keeps the root that the reader leaves, of whatever type, and `jsonValueToVector` reads it by index and
converts every element. Both raise.

* `exists_jsonValueToVector_iff` : the roots that `jsonValueToVector` converts;
* `Servicio.parametroSeguro_iff` : **the parameters that are read without an exception**; an array of strings and numbers
  always is, and gives their texts.
-/

namespace MensajeroX
open Bytes JsonCpp Servicio

/-! ## Values -/

/-- A value with a text: no array and no object. -/
def ConTexto : Value → Prop
  | .array _ => False
  | .object _ => False
  | _ => True

/-- A value that is read as a list of texts: an array of values with a text, or a value without children. -/
def Vectorizable : Value → Prop
  | .array vs => ∀ v ∈ vs, ConTexto v
  | .object ms => ms = []
  | _ => True

section Valores
variable [LibC]

theorem exists_asString_iff (v : Value) : (∃ s, v.asString = .ok s) ↔ ConTexto v := by
  cases v with
  | array vs => exact ⟨fun ⟨_, h⟩ => (by cases h), False.elim⟩
  | object ms => exact ⟨fun ⟨_, h⟩ => (by cases h), False.elim⟩
  | _ => exact ⟨fun _ => trivial, fun _ => ⟨_, rfl⟩⟩

/-- The roots that `jsonValueToVector` converts. The first read of an object with a member already raises. -/
theorem exists_jsonValueToVector_iff (v : Value) : (∃ r, StringUtil.jsonValueToVector v = .ok r) ↔ Vectorizable v := by
  cases v with
  | array vs =>
    rw [StringUtil.jsonValueToVector_array, Efectos.exists_mapM_eq_ok_iff]
    simp only [exists_asString_iff, Vectorizable]
  | object ms =>
    cases ms with
    | nil => exact ⟨fun _ => rfl, fun _ => ⟨[], rfl⟩⟩
    | cons m ms =>
      have hraises : ¬ ∃ r, StringUtil.jsonValueToVector (.object (m :: ms)) = .ok r := by
        rw [StringUtil.jsonValueToVector, Efectos.exists_mapM_eq_ok_iff]
        intro h
        obtain ⟨_, hfirst⟩ := h 0 (List.mem_range.mpr (Nat.succ_pos _))
        cases hfirst
      exact ⟨fun h => absurd h hraises, fun h => absurd h (List.cons_ne_nil _ _)⟩
  | _ => exact ⟨fun _ => trivial, fun _ => ⟨[], rfl⟩⟩

end Valores

/-! ## Parameters -/

namespace Servicio
variable [LibC]

theorem getParametroVector_of_parse {p : Peticion} {nombre : Cadena} {ok : Bool} {v : Value}
    (h : parse (getParametro p nombre keyDefault) = .ok (ok, v)) :
    getParametroVector p nombre = StringUtil.jsonValueToVector v := by
  rw [getParametroVector, getParametroArray, h]
  rfl

theorem getParametroVector_ausente {p : Peticion} {nombre : Cadena} (h : p.mg_get_var nombre = none) :
    getParametroVector p nombre = .ok [] := by
  have htoken : skipCommentTokens [] = ({ type := .endOfStream }, []) := by
    rw [skipCommentTokens_eq (by decide)]
    rfl
  have hparse : parse [] = .ok (false, .null) := by
    rw [parse, stackLimit, readValue, htoken]
    rfl
  have hparametro : getParametro p nombre keyDefault = [] := by
    rw [getParametro, h]
    rfl
  rw [getParametroVector_of_parse (by rw [hparametro]; exact hparse)]
  rfl

theorem getParametroVector_scalars {p : Peticion} {nombre : Cadena} {ss : List Cadena}
    (h : Scalars ss (getParametro p nombre keyDefault)) : getParametroVector p nombre = .ok ss := by
  obtain ⟨vs, hparse, htextos⟩ := parse_scalars h
  rw [getParametroVector_of_parse hparse, StringUtil.jsonValueToVector_array, Efectos.mapM_eq_ok_iff]
  exact htextos

/-- The list parameter `nombre` of a request is read without an exception; if it is an array of strings and numbers, as
the list of their texts. -/
structure ParametroSeguro (p : Peticion) (nombre : Cadena) : Prop where
  completa : ∃ r, getParametroVector p nombre = .ok r
  textos : ∀ ss, Scalars ss (getParametro p nombre keyDefault) → getParametroVector p nombre = .ok ss

/-- **A list parameter is read without an exception if and only if** its text is not nested down to the limit of the
reader, and the root that the reader leaves, complete or not, is no object with members and no array with an array or an
object. -/
theorem parametroSeguro_iff (p : Peticion) (nombre : Cadena) :
    ParametroSeguro p nombre ↔ ¬ Nests stackLimit (getParametro p nombre keyDefault) ∧
      ∀ ok raiz, parse (getParametro p nombre keyDefault) = .ok (ok, raiz) → Vectorizable raiz := by
  rw [← parse_error_iff]
  constructor
  · rintro ⟨⟨r, hr⟩, -⟩
    refine ⟨fun ⟨e, he⟩ => ?_, fun ok raiz hparse => ?_⟩
    · rw [getParametroVector, getParametroArray, he] at hr
      cases hr
    · rw [getParametroVector_of_parse hparse] at hr
      exact (exists_jsonValueToVector_iff raiz).mp ⟨r, hr⟩
  · rintro ⟨hno, hraiz⟩
    refine ⟨?_, fun ss hss => getParametroVector_scalars hss⟩
    cases hparse : parse (getParametro p nombre keyDefault) with
    | error e => exact absurd ⟨e, hparse⟩ hno
    | ok leido =>
      rw [getParametroVector_of_parse hparse]
      exact (exists_jsonValueToVector_iff _).mpr (hraiz _ _ hparse)

end Servicio

section Anidado
attribute [local instance] Aritmetica.nula

/-- An object as the ids of a request for conversations, and an array inside an array as the telephones of a broadcast. -/
theorem no_parametroSeguro_anidado :
    ¬ ParametroSeguro (.con { val := bytes "GET" } { val := bytes "/usuarioConversacion/1" }
      [(keyIdConversaciones, bytes "\x7b\"a\":1\x7d")]) keyIdConversaciones ∧
    ¬ ParametroSeguro (.difusion (bytes "1") (bytes "[[1]]") (bytes "t") (bytes "hola") (bytes "h1"))
      keyContantosTelefono := by
  constructor
  · rintro ⟨⟨r, hr⟩, -⟩
    have hraises : getParametroVector (.con { val := bytes "GET" } { val := bytes "/usuarioConversacion/1" }
        [(keyIdConversaciones, bytes "\x7b\"a\":1\x7d")]) keyIdConversaciones =
          .error (.logicError "in Json::Value::operator[](ArrayIndex)const: requires arrayValue") := by decide +kernel
    rw [hraises] at hr
    cases hr
  · rintro ⟨⟨r, hr⟩, -⟩
    have hraises : getParametroVector
        (.difusion (bytes "1") (bytes "[[1]]") (bytes "t") (bytes "hola") (bytes "h1")) keyContantosTelefono =
          .error (.logicError "Type is not convertible to string") := by decide +kernel
    rw [hraises] at hr
    cases hr

end Anidado

end MensajeroX
