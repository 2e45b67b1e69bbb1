import MensajeroX.Constantes
import MensajeroX.Lib.Efectos
import MensajeroX.Lib.Separated
import MensajeroX.Lib.JsonCpp.Value

/-!
# `StringUtil`

The string helpers that the server calls. `split` is the `std::getline` loop of the library at bytes.
-/

namespace MensajeroX.StringUtil
open Bytes JsonCpp

def split (s : Cadena) (delim : UInt8) : List Cadena := Separated.split delim s

def toBoolean (value : Cadena) : Bool := value == bytes "true"

def toString (value : Bool) : Cadena := if value then bytes "true" else bytes "false"

/-- `size()` reads of the vector by index, each converted with `asString`. -/
def jsonValueToVector [LibC] (vector : Value) : Except Exn (List Cadena) :=
  (List.range vector.size).mapM fun i => do
    let idActual ← vector.getIndex i (.string keyDefault)
    idActual.asString

def vectorContiene (vector : List Cadena) (valor : Cadena) : Bool := vector.contains valor

/-- **The separated list.** No piece contains the separator; the pieces joined are the text, without one separator at
its end if it has one; and separator-free texts of which the last is not empty are what is read from their join. -/
theorem split_separada (s : Cadena) (d : UInt8) :
    (∀ p ∈ split s d, d ∉ p) ∧
    [d].intercalate (split s d) = (if s.getLast? = some d then s.dropLast else s) ∧
    (∀ ts : List Cadena, (∀ t ∈ ts, d ∉ t) → (∀ t ∈ ts.getLast?, t ≠ []) → split ([d].intercalate ts) d = ts) ∧
    split [] d = [] := by
  refine ⟨fun p hp => ?_, ?_, fun ts hd hlast => ?_, ?_⟩
  · exact Separated.not_mem_of_mem_split hp
  · exact Separated.intercalate_split d s
  · exact Separated.split_intercalate hd hlast
  · exact Separated.split_nil d

theorem toBoolean_boolToString (b : Bool) : toBoolean (boolToString b) = b := by
  cases b <;> rfl

theorem jsonValueToVector_array [LibC] (vs : List Value) :
    jsonValueToVector (.array vs) = vs.mapM Value.asString := by
  refine Efectos.mapM_range vs fun i v hv => ?_
  have hget : (Value.array vs).getIndex i (.string keyDefault) = .ok v := by
    rw [Value.getIndex, Value.at?, hv]
    rfl
  rw [hget]
  rfl

theorem vectorContiene_eq_true {vector : List Cadena} {valor : Cadena} :
    vectorContiene vector valor = true ↔ valor ∈ vector := by
  rw [vectorContiene, List.contains_iff_mem]

end MensajeroX.StringUtil
