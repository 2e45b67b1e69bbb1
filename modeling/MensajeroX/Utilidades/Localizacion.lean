import MensajeroX.Constantes
import MensajeroX.Lib.JsonCpp.Reader

/-!
# `Localizacion`

The place of a check-in. The places are a JSON value loaded once, `lugares`; reading a member that is missing gives
null, whose value as a `double` is zero. The source also inserts that null into `lugares`, which changes no later read.
The arithmetic of `double` is a parameter of the model.
-/

namespace MensajeroX
open Bytes JsonCpp

/-- The arithmetic of `double` that the server uses. -/
class Aritmetica extends LibC where
  ofInt : Int → Double
  atof : Cadena → Double
  resta : Double → Double → Double
  /-- `sqrt(pow(x, 2) + pow(y, 2))`. -/
  norma : Double → Double → Double
  menorIgual : Double → Double → Bool

/-- An arithmetic for requests that do none: every number is zero. -/
@[reducible] def Aritmetica.nula : Aritmetica where
  ofText := fun _ => none
  toText := fun _ => []
  ofInt := fun _ => ⟨0⟩
  atof := fun _ => ⟨0⟩
  resta := fun _ _ => ⟨0⟩
  norma := fun _ _ => ⟨0⟩
  menorIgual := fun _ _ => true

namespace Localizacion
variable [Aritmetica]

/-- `asDouble()`. -/
def asDouble : Value → Except Exn Double
  | .null => .ok (Aritmetica.ofInt 0)
  | .int z => .ok (Aritmetica.ofInt z)
  | .uint n => .ok (Aritmetica.ofInt n)
  | .real d => .ok d
  | .boolean b => .ok (Aritmetica.ofInt (if b then 1 else 0))
  | _ => .error (.logicError "Value is not convertible to double.")

/-- `v[k]`; throws unless null or an object. -/
def miembro (v : Value) (k : Cadena) : Except Exn Value :=
  match v with
  | .null => .ok .null
  | .object ms => .ok ((lookup k ms).getD .null)
  | _ => .error (.logicError "in Json::Value::resolveReference(key, end): requires objectValue")

/-- `v[i]`; throws unless null or an array. -/
def elemento (v : Value) (i : Nat) : Except Exn Value :=
  match v with
  | .null => .ok .null
  | .array vs => .ok (vs[i]?.getD .null)
  | _ => .error (.logicError "in Json::Value::operator[](ArrayIndex): requires arrayValue")

/-- The document that `parse` reads from a stream: `getline` up to the character `(char)EOF`. -/
def documento (contenido : Cadena) : Cadena := contenido.takeWhile (· ≠ 0xff)

/-- How `cargarLugares` ends. -/
inductive Carga where
  /-- It returns, with the new places. -/
  | cargados (lugares : Value)
  /-- A `std::runtime_error`, which `main` catches, and the places that are left. -/
  | runtimeError (mensaje : Cadena) (lugares : Value)
  /-- A `Json::Exception`, which `main` does not catch: the process ends. -/
  | json (e : Exn)

/-- `cargarLugares`, from the places before and the content of the file, if it can be opened. The reader writes into the
places. -/
def cargarLugares (pathArchivoLugares : Cadena) (lugares : Value) (archivoLugares : Option Cadena) : Carga :=
  match archivoLugares with
  | none => .runtimeError (bytes "No se pudo abrir el archivo: " ++ pathArchivoLugares) lugares
  | some contenido =>
    match parseInto lugares (documento contenido) with
    | .error e => .json e
    | .ok (parseoExitoso, lugares) =>
      if !parseoExitoso then
        .runtimeError (bytes "Error al parsear el archivo de lugares: Formato incorrecto.") lugares
      else .cargados lugares

def distanciaMaxima : Double := Aritmetica.ofInt 999

def calcularDistancia (coordenadasA coordenadasB : Value) : Except Exn Double := do
  let latitudA ← asDouble (← miembro coordenadasA (bytes "latitud"))
  let latitudB ← asDouble (← miembro coordenadasB (bytes "latitud"))
  let longitudA ← asDouble (← miembro coordenadasA (bytes "longitud"))
  let longitudB ← asDouble (← miembro coordenadasB (bytes "longitud"))
  return Aritmetica.norma (Aritmetica.resta latitudA latitudB) (Aritmetica.resta longitudA longitudB)

/-- A turn of the loop of `calcularUbicacion`, on the place found so far and its distance. -/
def masCercano (lugares coordenadas : Value) (hallado : Cadena × Double) (i : Nat) :
    Except Exn (Cadena × Double) := do
  let distanciaActual ← calcularDistancia (← elemento lugares i) coordenadas
  let radio ← asDouble (← miembro (← elemento lugares i) (bytes "radio"))
  if Aritmetica.menorIgual distanciaActual hallado.2 && Aritmetica.menorIgual distanciaActual radio then
    let nombre ← (← miembro (← elemento lugares i) (bytes "nombre")).asString
    return (nombre, distanciaActual)
  else return hallado

def calcularUbicacion (lugares coordenadas : Value) : Except Exn Cadena := do
  let hallado ← (List.range lugares.size).foldlM (masCercano lugares coordenadas)
    (bytes "desconocida", distanciaMaxima)
  return hallado.1

end Localizacion

end MensajeroX
