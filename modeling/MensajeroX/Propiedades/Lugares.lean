import MensajeroX.Lib.Efectos
import MensajeroX.Lib.JsonCpp.Nesting
import MensajeroX.Lib.Minimo
import MensajeroX.Utilidades.Localizacion

/-!
# The places of the check-ins

`calcularUbicacion` scans the places for the nearest one that covers the coordinates. The numbers of every place are read,
the name only of those that are the nearest so far. `Lugar.leer` is that reading, and the scan is one of places that were
read (`calcularUbicacion_eq_ok_iff`).

* `calcularUbicacion_mas_cercano` : **the place that is found**, for distances in any linear order;
* `utilizable_iff` : the lists of places on which no check-in raises;
* `todoONada_iff` : **when loading the places is all or nothing**.
-/

namespace MensajeroX
open Bytes JsonCpp Efectos

namespace Localizacion
variable [Aritmetica]

/-- `v[k].asDouble()`. -/
def numero (v : Value) (k : Cadena) : Except Exn Double := miembro v k >>= asDouble

/-- A place as it is read; a name that cannot be read raises when it is needed. -/
structure Lugar where
  latitud : Double
  longitud : Double
  radio : Double
  nombre : Except Exn Cadena

namespace Lugar

def leer (v : Value) : Except Exn Lugar := do
  let latitud ← numero v (bytes "latitud")
  let longitud ← numero v (bytes "longitud")
  let radio ← numero v (bytes "radio")
  return { latitud, longitud, radio, nombre := miembro v (bytes "nombre") >>= Value.asString }

def distancia (l : Lugar) (x y : Double) : Double :=
  Aritmetica.norma (Aritmetica.resta l.latitud x) (Aritmetica.resta l.longitud y)

/-- The place is chosen when the nearest one so far is at the given distance. -/
def elige (l : Lugar) (x y cercano : Double) : Bool :=
  Aritmetica.menorIgual (l.distancia x y) cercano && Aritmetica.menorIgual (l.distancia x y) l.radio

def visita (x y : Double) (hallado : Cadena × Double) (l : Lugar) : Except Exn (Cadena × Double) :=
  if l.elige x y hallado.2 then l.nombre.map (·, l.distancia x y) else .ok hallado

end Lugar

/-- The value has the coordinates `x` and `y`. -/
structure EnPunto (coordenadas : Value) (x y : Double) : Prop where
  latitud : numero coordenadas (bytes "latitud") = .ok x
  longitud : numero coordenadas (bytes "longitud") = .ok y

/-! ## The scan -/

section Recorrido
variable {coordenadas : Value} {x y : Double}

theorem calcularDistancia_eq (h : EnPunto coordenadas x y) (v : Value) :
    calcularDistancia v coordenadas = do
      let latitud ← numero v (bytes "latitud")
      let longitud ← numero v (bytes "longitud")
      return Aritmetica.norma (Aritmetica.resta latitud x) (Aritmetica.resta longitud y) := by
  have hnumeros : calcularDistancia v coordenadas = (do
      let latitudA ← numero v (bytes "latitud")
      let latitudB ← numero coordenadas (bytes "latitud")
      let longitudA ← numero v (bytes "longitud")
      let longitudB ← numero coordenadas (bytes "longitud")
      return Aritmetica.norma (Aritmetica.resta latitudA latitudB) (Aritmetica.resta longitudA longitudB)) := by
    simp only [calcularDistancia, numero, bind_assoc]
  rw [hnumeros, h.latitud, h.longitud]
  rfl

theorem masCercano_eq (h : EnPunto coordenadas x y) {lugares v : Value} {i : Nat} (hv : elemento lugares i = .ok v)
    (hallado : Cadena × Double) :
    masCercano lugares coordenadas hallado i = Lugar.leer v >>= Lugar.visita x y hallado := by
  have hturno : masCercano lugares coordenadas hallado i = (do
      let distanciaActual ← calcularDistancia v coordenadas
      let radio ← numero v (bytes "radio")
      if Aritmetica.menorIgual distanciaActual hallado.2 && Aritmetica.menorIgual distanciaActual radio then
        let nombre ← miembro v (bytes "nombre") >>= Value.asString
        return (nombre, distanciaActual)
      else return hallado) := by
    rw [masCercano, hv]
    simp only [numero, bind_assoc]
    rfl
  rw [hturno, calcularDistancia_eq h, Lugar.leer]
  cases numero v (bytes "latitud") with
  | error e => rfl
  | ok latitud =>
    cases numero v (bytes "longitud") with
    | error e => rfl
    | ok longitud =>
      cases numero v (bytes "radio") with
      | error e => rfl
      | ok radio =>
        cases miembro v (bytes "nombre") >>= Value.asString <;> rfl

/-- **The scan succeeds when every place can be read, and the places that were read can be visited.** -/
theorem calcularUbicacion_eq_ok_iff (h : EnPunto coordenadas x y) {vs : List Value} {ubicacion : Cadena} :
    calcularUbicacion (.array vs) coordenadas = .ok ubicacion ↔
      ∃ ls d, vs.mapM Lugar.leer = .ok ls ∧
        ls.foldlM (Lugar.visita x y) (bytes "desconocida", distanciaMaxima) = .ok (ubicacion, d) := by
  have hturno : ∀ i v, vs[i]? = some v → ∀ hallado,
      masCercano (.array vs) coordenadas hallado i = Lugar.leer v >>= Lugar.visita x y hallado := by
    intro i v hv hallado
    exact masCercano_eq h (by rw [elemento, hv]; rfl) hallado
  rw [calcularUbicacion, Value.size, foldlM_range vs hturno, bind_eq_ok_iff]
  simp only [foldlM_bind_eq_ok_iff]
  constructor
  · rintro ⟨⟨nombre, d⟩, ⟨ls, hls, hvisita⟩, hnombre⟩
    cases hnombre
    exact ⟨ls, d, hls, hvisita⟩
  · rintro ⟨ls, d, hls, hvisita⟩
    exact ⟨(ubicacion, d), ⟨ls, hls, hvisita⟩, rfl⟩

end Recorrido

/-! ## The place that is found -/

section Cercano
variable {α : Type} [LinearOrder α] (valor : Double → α) (x y : Double)

/-- The coordinates are within the radius of the place and the greatest distance. -/
def Lugar.Cubre (l : Lugar) : Prop :=
  valor (l.distancia x y) ≤ valor l.radio ∧ valor (l.distancia x y) ≤ valor distanciaMaxima

def magnitudes (ls : List Lugar) : List Double := distanciaMaxima :: ls.flatMap fun l => [l.distancia x y, l.radio]

/-- The comparisons of these numbers are those of the linear order; none of them is a NaN. -/
def Ordena (numeros : List Double) : Prop :=
  ∀ a ∈ numeros, ∀ b ∈ numeros, Aritmetica.menorIgual a b = true ↔ valor a ≤ valor b

/-- The state of the scan, against that of the running minimum. -/
inductive Sigue : Cadena × Double → Option Lugar × α → Prop
  | ninguno : Sigue (bytes "desconocida", distanciaMaxima) (none, valor distanciaMaxima)
  | hallado {l : Lugar} {nombre : Cadena} (h : l.nombre = .ok nombre) :
    Sigue (nombre, l.distancia x y) (some l, valor (l.distancia x y))

abbrev clave (l : Lugar) : α := valor (l.distancia x y)

abbrev apto (l : Lugar) : Bool := decide (valor (l.distancia x y) ≤ valor l.radio)

variable {valor x y}

theorem Sigue.visita {numeros : List Double} (horden : Ordena valor numeros) {s : Cadena × Double} {t : Option Lugar × α}
    (h : Sigue valor x y s t) (hs : s.2 ∈ numeros) {l : Lugar} (hdistancia : l.distancia x y ∈ numeros)
    (hradio : l.radio ∈ numeros) {nombre : Cadena} (hnombre : l.nombre = .ok nombre) :
    ∃ s', l.visita x y s = .ok s' ∧ s'.2 ∈ numeros ∧
      Sigue valor x y s' (Minimo.paso (clave valor x y) (apto valor x y) t l) := by
  have hcota : t.2 = valor s.2 := by cases h <;> rfl
  have helige : l.elige x y s.2 = true ↔ clave valor x y l ≤ t.2 ∧ apto valor x y l = true := by
    rw [Lugar.elige, Bool.and_eq_true, horden _ hdistancia _ hs, horden _ hdistancia _ hradio, hcota, decide_eq_true_eq]
  rw [Lugar.visita, Minimo.paso]
  by_cases hl : l.elige x y s.2 = true
  · rw [if_pos hl, if_pos (helige.mp hl), hnombre]
    exact ⟨_, rfl, hdistancia, .hallado hnombre⟩
  · rw [if_neg hl, if_neg (helige.not.mp hl)]
    exact ⟨s, rfl, hs, h⟩

theorem Sigue.foldlM {numeros : List Double} (horden : Ordena valor numeros) {ls : List Lugar}
    (hls : ∀ l ∈ ls, l.distancia x y ∈ numeros ∧ l.radio ∈ numeros ∧ ∃ nombre, l.nombre = .ok nombre)
    {s : Cadena × Double} {t : Option Lugar × α} (h : Sigue valor x y s t) (hs : s.2 ∈ numeros) :
    ∃ s', ls.foldlM (Lugar.visita x y) s = .ok s' ∧
      Sigue valor x y s' (ls.foldl (Minimo.paso (clave valor x y) (apto valor x y)) t) := by
  induction ls generalizing s t with
  | nil => exact ⟨s, rfl, h⟩
  | cons l ls ih =>
    rw [List.forall_mem_cons] at hls
    obtain ⟨⟨hdistancia, hradio, nombre, hnombre⟩, hresto⟩ := hls
    obtain ⟨s₁, hs₁, hmem, hsigue⟩ := h.visita horden hs hdistancia hradio hnombre
    obtain ⟨s₂, hs₂, hsigue₂⟩ := ih hresto hsigue hmem
    exact ⟨s₂, by rw [List.foldlM_cons, hs₁]; exact hs₂, hsigue₂⟩

variable (valor) in
/-- **The place that is found**: of those that cover the coordinates a nearest one, the last in the list; "desconocida" when
no place covers them. -/
theorem calcularUbicacion_mas_cercano {vs : List Value} {ls : List Lugar} (hvs : vs.mapM Lugar.leer = .ok ls)
    (hnombres : ∀ l ∈ ls, ∃ nombre, l.nombre = .ok nombre) {coordenadas : Value} (hpunto : EnPunto coordenadas x y)
    (horden : Ordena valor (magnitudes x y ls)) :
    (∃ antes l despues nombre, ls = antes ++ l :: despues ∧ l.nombre = .ok nombre ∧
      calcularUbicacion (.array vs) coordenadas = .ok nombre ∧ l.Cubre valor x y ∧
      (∀ l' ∈ antes, l'.Cubre valor x y → valor (l.distancia x y) ≤ valor (l'.distancia x y)) ∧
      ∀ l' ∈ despues, l'.Cubre valor x y → valor (l.distancia x y) < valor (l'.distancia x y)) ∨
    (∀ l ∈ ls, ¬ l.Cubre valor x y) ∧ calcularUbicacion (.array vs) coordenadas = .ok (bytes "desconocida") := by
  have hmagnitudes : ∀ l ∈ ls, l.distancia x y ∈ magnitudes x y ls ∧ l.radio ∈ magnitudes x y ls ∧
      ∃ nombre, l.nombre = .ok nombre := by
    intro l hl
    refine ⟨List.mem_cons_of_mem _ (List.mem_flatMap.mpr ⟨l, hl, ?_⟩),
      List.mem_cons_of_mem _ (List.mem_flatMap.mpr ⟨l, hl, ?_⟩), hnombres l hl⟩
    · exact List.mem_cons_self
    · exact List.mem_cons_of_mem _ List.mem_cons_self
  obtain ⟨⟨ubicacion, d⟩, hscan, hsigue⟩ := Sigue.foldlM horden hmagnitudes .ninguno List.mem_cons_self
  have hubicacion := (calcularUbicacion_eq_ok_iff hpunto).mpr ⟨ls, d, hvs, hscan⟩
  have hcubre : ∀ l : Lugar, Minimo.Candidato (clave valor x y) (apto valor x y) (valor distanciaMaxima) l ↔
      l.Cubre valor x y := by
    intro l
    rw [Minimo.Candidato, decide_eq_true_eq, and_comm]
    rfl
  have hspec := Minimo.recorrido_spec (clave valor x y) (apto valor x y) (valor distanciaMaxima) ls
  simp only [Minimo.EsUltimoMinimo, hcubre] at hspec
  rcases hspec with ⟨l, hfin, hl, antes, despues, hls, hantes, hdespues⟩ | ⟨hfin, hninguno⟩
  · rw [Minimo.recorrido] at hfin
    rw [hfin] at hsigue
    cases hsigue with
    | hallado hnombre => exact .inl ⟨antes, l, despues, ubicacion, hls, hnombre, hubicacion, hl, hantes, hdespues⟩
  · rw [Minimo.recorrido] at hfin
    rw [hfin] at hsigue
    cases hsigue with
    | ninguno => exact .inr ⟨hninguno, hubicacion⟩

end Cercano

/-! ## Lists of places on which no check-in raises -/

section Utilizable

def punto (x y : Double) : Value := .ofAssignments [(bytes "latitud", .real x), (bytes "longitud", .real y)]

theorem enPunto_punto (x y : Double) : EnPunto (punto x y) x y := ⟨rfl, rfl⟩

/-- No check-in raises on these places. -/
def Utilizable (lugares : Value) : Prop := ∀ x y, ∃ ubicacion, calcularUbicacion lugares (punto x y) = .ok ubicacion

/-- The distance of the nearest place after these ones, from the one before them. -/
def cercano (x y d : Double) (ls : List Lugar) : Double :=
  ls.foldl (fun d l => if l.elige x y d then l.distancia x y else d) d

/-- A list of places whose numbers can be read, and also the names of those that may be chosen. A value that is no list
has no places, unless it is an object with members. -/
def Legible : Value → Prop
  | .array vs => ∃ ls, vs.mapM Lugar.leer = .ok ls ∧ ∀ x y antes l despues, ls = antes ++ l :: despues →
      l.elige x y (cercano x y distanciaMaxima antes) = true → ∃ nombre, l.nombre = .ok nombre
  | .object ms => ms = []
  | _ => True

theorem Lugar.exists_visita_iff {l : Lugar} {x y : Double} {s : Cadena × Double} :
    (∃ s', l.visita x y s = .ok s') ↔ (l.elige x y s.2 = true → ∃ nombre, l.nombre = .ok nombre) := by
  rw [visita]
  split
  · rename_i helige
    cases l.nombre with
    | error e => exact iff_of_false (fun ⟨_, h⟩ => by cases h) fun h => by obtain ⟨_, h⟩ := h helige; cases h
    | ok nombre => exact iff_of_true ⟨_, rfl⟩ fun _ => ⟨nombre, rfl⟩
  · rename_i helige
    exact iff_of_true ⟨s, rfl⟩ fun h => absurd h helige

theorem Lugar.visita_snd {l : Lugar} {x y : Double} {s s' : Cadena × Double} (h : l.visita x y s = .ok s') :
    s'.2 = if l.elige x y s.2 then l.distancia x y else s.2 := by
  rw [visita] at h
  by_cases helige : l.elige x y s.2 = true
  · rw [if_pos helige] at h ⊢
    cases hnombre : l.nombre with
    | error e =>
      rw [hnombre] at h
      cases h
    | ok nombre =>
      rw [hnombre] at h
      cases h
      rfl
  · rw [if_neg helige] at h ⊢
    cases h
    rfl

/-- The places can be visited when those that are chosen have a name. -/
theorem exists_foldlM_visita_iff {x y : Double} {ls : List Lugar} (s : Cadena × Double) :
    (∃ s', ls.foldlM (Lugar.visita x y) s = .ok s') ↔ ∀ antes l despues, ls = antes ++ l :: despues →
      l.elige x y (cercano x y s.2 antes) = true → ∃ nombre, l.nombre = .ok nombre := by
  induction ls generalizing s with
  | nil => exact iff_of_true ⟨s, rfl⟩ fun antes l despues h => by simp at h
  | cons l ls ih =>
    constructor
    · rintro ⟨s', hs'⟩ antes l' despues hls helige
      obtain ⟨s₁, hs₁, hresto⟩ := bind_eq_ok_iff.mp hs'
      cases antes with
      | nil =>
        cases hls
        exact Lugar.exists_visita_iff.mp ⟨s₁, hs₁⟩ helige
      | cons l₀ antes =>
        cases hls
        refine (ih s₁).mp ⟨s', hresto⟩ antes l' despues rfl ?_
        rw [Lugar.visita_snd hs₁]
        exact helige
    · intro h
      obtain ⟨s₁, hs₁⟩ := Lugar.exists_visita_iff.mpr (h [] l ls rfl)
      obtain ⟨s', hs'⟩ := (ih s₁).mpr fun antes l' despues hls helige => by
        rw [Lugar.visita_snd hs₁] at helige
        exact h (l :: antes) l' despues (by rw [hls]; rfl) helige
      exact ⟨s', bind_eq_ok_iff.mpr ⟨s₁, hs₁, hs'⟩⟩

theorem utilizable_iff (lugares : Value) : Utilizable lugares ↔ Legible lugares := by
  have hvacio : lugares.size = 0 → Utilizable lugares := by
    intro hsize x y
    exact ⟨bytes "desconocida", by rw [calcularUbicacion, hsize]; rfl⟩
  cases lugares with
  | array vs =>
    simp only [Utilizable, Legible, calcularUbicacion_eq_ok_iff (enPunto_punto _ _)]
    constructor
    · intro h
      obtain ⟨-, ls, -, hls, -⟩ := h ⟨0⟩ ⟨0⟩
      refine ⟨ls, hls, fun x y => (exists_foldlM_visita_iff (bytes "desconocida", distanciaMaxima)).mp ?_⟩
      obtain ⟨ubicacion, ls', d, hls', hvisita⟩ := h x y
      rw [hls] at hls'
      cases hls'
      exact ⟨_, hvisita⟩
    · rintro ⟨ls, hls, hnombres⟩ x y
      obtain ⟨⟨ubicacion, d⟩, hvisita⟩ :=
        (exists_foldlM_visita_iff (bytes "desconocida", distanciaMaxima)).mpr (hnombres x y)
      exact ⟨ubicacion, ls, d, hls, hvisita⟩
  | object ms =>
    refine ⟨fun h => ?_, fun h => hvacio (congrArg List.length h)⟩
    cases ms with
    | nil => rfl
    | cons m ms =>
      obtain ⟨ubicacion, hubicacion⟩ := h ⟨0⟩ ⟨0⟩
      rw [calcularUbicacion, Value.size, List.length_cons, List.range_succ_eq_map] at hubicacion
      cases hubicacion
  | _ => exact iff_of_true (hvacio rfl) trivial

end Utilizable

/-! ## Loading the places -/

section Cargar

/-- It is all or nothing: the places that were loaded can be used, or an exception that is caught left those before. -/
def Carga.TodoONada (anterior : Value) : Carga → Prop
  | .cargados lugares => Utilizable lugares
  | .runtimeError _ lugares => lugares = anterior
  | .json _ => False

/-- What the file has to be: one that cannot be opened, a text that does not open a list or an object, or a list of
places. -/
def ArchivoDeLugares : Option Cadena → Prop
  | none => True
  | some contenido =>
    ¬ Opens (documento contenido) ∨ ∃ lugares, parse (documento contenido) = .ok (true, lugares) ∧ Legible lugares

/-- The file has a list or an object that is not read to its end, and what is read of it is this value. -/
def LeidoEnParte (archivo : Option Cadena) (v : Value) : Prop :=
  ∃ contenido, archivo = some contenido ∧ Opens (documento contenido) ∧ parse (documento contenido) = .ok (false, v)

theorem legible_of_not_isContainer {v : Value} (h : ¬ IsContainer v) : Legible v := by
  cases v with
  | array vs => exact absurd trivial h
  | object ms => exact absurd trivial h
  | _ => trivial

/-- A text that opens neither a list nor an object is a value without places, or nothing is written. -/
theorem todoONada_of_not_opens (path : Cadena) (anterior : Value) {contenido : Cadena}
    (h : ¬ Opens (documento contenido)) : (cargarLugares path anterior (some contenido)).TodoONada anterior := by
  obtain ⟨⟨ok, leido, resto⟩, hr, hleido⟩ := readValue_of_not_opens h 999 anterior
  have hparse : parseInto anterior (documento contenido) = .ok (ok, leido) := by
    rw [parseInto, stackLimit, hr]
    rfl
  rw [cargarLugares, hparse]
  cases ok with
  | false => exact hleido
  | true => exact (utilizable_iff leido).mpr (legible_of_not_isContainer hleido)

theorem todoONada_of_opens (path : Cadena) (anterior : Value) {contenido : Cadena} (h : Opens (documento contenido)) :
    (cargarLugares path anterior (some contenido)).TodoONada anterior ↔
      (∃ lugares, parse (documento contenido) = .ok (true, lugares) ∧ Legible lugares) ∨
        parse (documento contenido) = .ok (false, anterior) := by
  have hparse : parseInto anterior (documento contenido) = parse (documento contenido) := by
    rw [parseInto, parse, readValue_of_opens h stackLimit anterior .null]
  rw [cargarLugares, hparse]
  cases parse (documento contenido) with
  | error e => exact iff_of_false id (by rintro (⟨_, h, -⟩ | h) <;> cases h)
  | ok r =>
    obtain ⟨ok, leido⟩ := r
    cases ok with
    | false =>
      simp only [Except.ok.injEq, Prod.mk.injEq, reduceCtorEq, false_and, exists_false, true_and, false_or]
      exact Iff.rfl
    | true =>
      simp only [Except.ok.injEq, Prod.mk.injEq, reduceCtorEq, false_and, true_and, or_false, exists_eq_left']
      exact utilizable_iff leido

/-- **When loading the places is all or nothing**: always, whatever the places before, for the files above; for others only
when the part that was read happens to be what was there. -/
theorem todoONada_iff (path : Cadena) (archivo : Option Cadena) :
    ((∀ anterior, (cargarLugares path anterior archivo).TodoONada anterior) ↔ ArchivoDeLugares archivo) ∧
    ∀ anterior, (cargarLugares path anterior archivo).TodoONada anterior ↔
      ArchivoDeLugares archivo ∨ LeidoEnParte archivo anterior := by
  have hiff : ∀ anterior, (cargarLugares path anterior archivo).TodoONada anterior ↔
      ArchivoDeLugares archivo ∨ LeidoEnParte archivo anterior := by
    intro anterior
    cases archivo with
    | none => exact iff_of_true rfl (.inl trivial)
    | some contenido =>
      by_cases h : Opens (documento contenido)
      · rw [todoONada_of_opens path anterior h]
        simp only [ArchivoDeLugares, LeidoEnParte, h, not_true_eq_false, false_or, Option.some.injEq, exists_eq_left',
          true_and]
      · exact iff_of_true (todoONada_of_not_opens path anterior h) (.inl (.inl h))
  refine ⟨⟨fun h => ?_, fun h anterior => (hiff anterior).mpr (.inl h)⟩, hiff⟩
  -- what is read of a list or an object is never null
  refine ((hiff .null).mp (h .null)).resolve_right ?_
  rintro ⟨contenido, -, hopens, hparse⟩
  obtain ⟨r, hr, heq⟩ := bind_eq_ok_iff.mp hparse
  have hcontainer := isContainer_of_opens hopens hr
  rw [(Prod.mk.inj (Except.ok.inj heq)).2] at hcontainer
  exact hcontainer

end Cargar

end Localizacion

section Plazas
open Localizacion

/-- An arithmetic of natural numbers, with the distance along the axes. -/
@[reducible] def Aritmetica.natural : Aritmetica where
  ofText := fun _ => none
  toText := fun _ => []
  ofInt := fun z => ⟨z.toNat.toUInt64⟩
  atof := fun _ => ⟨0⟩
  resta := fun a b => if a.bits ≤ b.bits then ⟨b.bits - a.bits⟩ else ⟨a.bits - b.bits⟩
  norma := fun a b => ⟨a.bits + b.bits⟩
  menorIgual := fun a b => decide (a.bits ≤ b.bits)

attribute [local instance] Aritmetica.natural

def plaza (nombre : Cadena) (latitud : Int) : Value :=
  .object [(bytes "latitud", .int latitud), (bytes "nombre", .string nombre), (bytes "radio", .int 10)]

/-- The nearer of two places. -/
theorem calcularUbicacion_plazas :
    calcularUbicacion (.array [plaza (bytes "a") 5, plaza (bytes "b") 1]) (punto ⟨0⟩ ⟨0⟩) = .ok (bytes "b") := by
  have hleer : [plaza (bytes "a") 5, plaza (bytes "b") 1].mapM Lugar.leer =
      .ok [⟨⟨5⟩, ⟨0⟩, ⟨10⟩, .ok (bytes "a")⟩, ⟨⟨1⟩, ⟨0⟩, ⟨10⟩, .ok (bytes "b")⟩] := rfl
  have horden : Ordena (fun d : Double => d.bits.toNat) (magnitudes ⟨0⟩ ⟨0⟩
      [⟨⟨5⟩, ⟨0⟩, ⟨10⟩, .ok (bytes "a")⟩, ⟨⟨1⟩, ⟨0⟩, ⟨10⟩, .ok (bytes "b")⟩]) :=
    fun a _ b _ => decide_eq_true_iff.trans UInt64.le_iff_toNat_le
  rcases calcularUbicacion_mas_cercano _ hleer (by simp) (enPunto_punto ⟨0⟩ ⟨0⟩) horden with
    ⟨antes, l, despues, nombre, hls, hnombre, hubicacion, -, -, hdespues⟩ | ⟨hninguno, -⟩
  · rcases antes with - | ⟨l₀, - | ⟨l₁, antes⟩⟩
    · cases hls
      exact absurd (hdespues _ List.mem_cons_self ⟨by decide, by decide⟩) (by decide)
    · cases hls
      cases hnombre
      exact hubicacion
    · simp at hls
  · exact absurd ⟨by decide, by decide⟩ (hninguno _ List.mem_cons_self)

end Plazas

section Archivos
attribute [local instance] Aritmetica.nula
open Localizacion

/-- A file that ends inside a place leaves the part that was read, and one with an object leaves places that no check-in
can use. -/
theorem no_todoONada_archivos :
    ¬ (cargarLugares (bytes "Lugares.txt") .null (some (bytes "[\x7b\"nombre\": \"x\""))).TodoONada .null ∧
    ¬ (cargarLugares (bytes "Lugares.txt") .null (some (bytes "\x7b\"nombre\": \"x\"\x7d"))).TodoONada .null := by
  have hparcial : (match cargarLugares (bytes "Lugares.txt") .null (some (bytes "[\x7b\"nombre\": \"x\"")) with
      | .runtimeError _ lugares => lugares.size
      | _ => 0) = 1 := by decide +kernel
  have hobjeto : (match cargarLugares (bytes "Lugares.txt") .null (some (bytes "\x7b\"nombre\": \"x\"\x7d")) with
      | .cargados lugares => (calcularUbicacion lugares (punto ⟨0⟩ ⟨0⟩)).isOk
      | _ => true) = false := by decide +kernel
  constructor
  · intro h
    cases hcarga : cargarLugares (bytes "Lugares.txt") .null (some (bytes "[\x7b\"nombre\": \"x\"")) with
    | cargados lugares =>
      rw [hcarga] at hparcial
      cases hparcial
    | runtimeError mensaje lugares =>
      rw [hcarga] at hparcial h
      rw [show lugares = .null from h] at hparcial
      cases hparcial
    | json e =>
      rw [hcarga] at h
      exact h
  · intro h
    cases hcarga : cargarLugares (bytes "Lugares.txt") .null (some (bytes "\x7b\"nombre\": \"x\"\x7d")) with
    | cargados lugares =>
      rw [hcarga] at hobjeto h
      obtain ⟨ubicacion, hubicacion⟩ := h ⟨0⟩ ⟨0⟩
      dsimp only at hobjeto
      rw [hubicacion] at hobjeto
      cases hobjeto
    | runtimeError mensaje lugares =>
      rw [hcarga] at hobjeto
      cases hobjeto
    | json e =>
      rw [hcarga] at h
      exact h

end Archivos

end MensajeroX
