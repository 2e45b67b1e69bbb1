import MensajeroX.BaseDeDatos

/-!
# The central: what the store is for

The server seen without its texts: registered users by their id, and the conversations between two of them in the
order in which they were created. What a well-formed central is stands in its fields, so the operations below
cannot leave it.

* `conUsuario`, `conMensajes`, `conChat` : the three updates;
* `entregar` : **the delivery of a message**, to the conversation of the pair or to a new one;
* `entre_eq_some_iff`, `buscar_eq_some_iff` : the conversation of a pair and the one under an id;
* `entregar_casos` : what a delivery changes.
-/

namespace MensajeroX
open Bytes JsonCpp Efectos

/-! ## Users and conversations -/

/-- A registered user: the id is the hash of the telephone, and both it and the token can be sent by a client. -/
structure Registrado extends Usuario where
  id_eq : id = md5 telefono
  telefono_cstr : (0 : UInt8) ∉ telefono
  token_cstr : (0 : UInt8) ∉ token

/-- `x` and `y` are `a` and `b`, in either order. -/
def Par (x y a b : Cadena) : Prop := (x = a ∧ y = b) ∨ (x = b ∧ y = a)

instance (x y a b : Cadena) : Decidable (Par x y a b) := by unfold Par; infer_instance

namespace Par
variable {x y a b v w : Cadena}

theorem refl (x y : Cadena) : Par x y x y := .inl ⟨rfl, rfl⟩

theorem right_iff : Par x y x b ↔ y = b := by
  constructor
  · rintro (⟨-, rfl⟩ | ⟨rfl, rfl⟩) <;> rfl
  · rintro rfl
    exact .refl _ _

theorem swap (h : Par x y a b) : Par x y b a := h.elim .inr .inl

theorem symm (h : Par x y a b) : Par a b x y := by
  rcases h with ⟨rfl, rfl⟩ | ⟨rfl, rfl⟩
  · exact .refl _ _
  · exact (Par.refl _ _).swap

theorem trans (h : Par x y a b) (h' : Par a b v w) : Par x y v w := by
  rcases h with ⟨rfl, rfl⟩ | ⟨rfl, rfl⟩
  · exact h'
  · exact h'.symm.swap.symm

end Par

/-- A conversation between `a` and `b`, where `a` sent the first message. -/
structure Chat where
  a : Cadena
  b : Cadena
  mensajes : List Mensaje
  noVacio : mensajes ≠ []

namespace Chat

def nuevo (x y : Cadena) (m : Mensaje) : Chat where
  a := x
  b := y
  mensajes := [m]
  noVacio := List.cons_ne_nil _ _

def id (c : Chat) : Cadena := c.a ++ Conversacion.guion :: c.b

def Entre (c : Chat) (x y : Cadena) : Prop := Par c.a c.b x y

instance (c : Chat) (x y : Cadena) : Decidable (c.Entre x y) := by unfold Entre; infer_instance

def Participa (c : Chat) (u : Cadena) : Prop := c.a = u ∨ c.b = u

instance (c : Chat) (u : Cadena) : Decidable (c.Participa u) := by unfold Participa; infer_instance

def texto [LibC] (c : Chat) : Cadena := Conversacion.texto c.id [c.a, c.b] c.mensajes

theorem Entre.id {c : Chat} {x y : Cadena} (h : c.Entre x y) :
    c.id = x ++ Conversacion.guion :: y ∨ c.id = y ++ Conversacion.guion :: x := by
  rcases h with ⟨rfl, rfl⟩ | ⟨rfl, rfl⟩
  · exact .inl rfl
  · exact .inr rfl

def conMensaje (c : Chat) (ms : List Mensaje) (m : Mensaje) : Chat :=
  { c with mensajes := ms ++ [m], noVacio := by simp }

/-- The messages can be loaded. -/
def Legible [LibC] (c : Chat) : Prop := ∃ ms, Conversacion.recargar c.mensajes = .ok ms

end Chat

@[ext]
structure Central where
  usuarios : Cadena → Option Registrado
  chats : List Chat
  claves : ∀ k u, usuarios k = some u → u.id = k
  participantes : ∀ c ∈ chats, (usuarios c.a).isSome ∧ (usuarios c.b).isSome
  parejas : chats.Pairwise fun c c' => ¬ c'.Entre c.a c.b

namespace Central

def vacia : Central where
  usuarios := fun _ => none
  chats := []
  claves := fun _ _ h => by cases h
  participantes := fun _ h => by cases h
  parejas := .nil

def usuario (C : Central) (k : Cadena) : Usuario :=
  ((C.usuarios k).map Registrado.toUsuario).getD Usuario.noEncontrado

def entre (C : Central) (x y : Cadena) : Option Chat := C.chats.find? fun c => c.Entre x y

def buscar (C : Central) (k : Cadena) : Option Chat := C.chats.find? fun c => c.id = k

def indice (C : Central) (u : Cadena) : List Cadena := (C.chats.filter fun c => c.Participa u).map Chat.id

/-! ## Updates -/

def conUsuario (C : Central) (u : Registrado) : Central where
  usuarios := Function.update C.usuarios u.id (some u)
  chats := C.chats
  claves := by
    intro k v h
    by_cases hk : k = u.id
    · subst hk
      rw [Function.update_self] at h
      cases h
      rfl
    · rw [Function.update_of_ne hk] at h
      exact C.claves k v h
  participantes := by
    have hsome : ∀ k, (C.usuarios k).isSome → (Function.update C.usuarios u.id (some u) k).isSome := by
      intro k hk
      by_cases hku : k = u.id
      · subst hku
        rw [Function.update_self]
        rfl
      · rwa [Function.update_of_ne hku]
    exact fun c hc => ⟨hsome _ (C.participantes c hc).1, hsome _ (C.participantes c hc).2⟩
  parejas := C.parejas

def escribir (k : Cadena) (ms : List Mensaje) (m : Mensaje) (c : Chat) : Chat :=
  if c.id = k then c.conMensaje ms m else c

theorem escribir_a (k : Cadena) (ms : List Mensaje) (m : Mensaje) (c : Chat) : (escribir k ms m c).a = c.a := by
  unfold escribir
  split <;> rfl

theorem escribir_b (k : Cadena) (ms : List Mensaje) (m : Mensaje) (c : Chat) : (escribir k ms m c).b = c.b := by
  unfold escribir
  split <;> rfl

theorem escribir_id (k : Cadena) (ms : List Mensaje) (m : Mensaje) (c : Chat) : (escribir k ms m c).id = c.id := by
  rw [Chat.id, escribir_a, escribir_b]
  rfl

theorem escribir_entre (k : Cadena) (ms : List Mensaje) (m : Mensaje) (c : Chat) (x y : Cadena) :
    (escribir k ms m c).Entre x y ↔ c.Entre x y := by
  rw [Chat.Entre, escribir_a, escribir_b]
  rfl

/-- The conversation `k` is stored with the messages `ms` and `m`. -/
def conMensajes (C : Central) (k : Cadena) (ms : List Mensaje) (m : Mensaje) : Central where
  usuarios := C.usuarios
  chats := C.chats.map (escribir k ms m)
  claves := C.claves
  participantes := by
    intro c hc
    obtain ⟨c', hc', rfl⟩ := List.mem_map.mp hc
    rw [escribir_a, escribir_b]
    exact C.participantes c' hc'
  parejas := by
    rw [List.pairwise_map]
    refine C.parejas.imp ?_
    intro c c' h
    rwa [escribir_entre, escribir_a, escribir_b]

/-- A conversation is created with the message of `x` to `y`, if both are registered and have none. -/
def conChat (C : Central) (x y : Cadena) (m : Mensaje) : Central where
  usuarios := C.usuarios
  chats :=
    if (C.usuarios x).isSome ∧ (C.usuarios y).isSome ∧ C.entre x y = none then
      C.chats ++ [Chat.nuevo x y m]
    else C.chats
  claves := C.claves
  participantes := by
    split
    · rename_i h
      intro c hc
      rcases List.mem_append.mp hc with hc | hc
      · exact C.participantes c hc
      · rw [List.mem_singleton.mp hc]
        exact ⟨h.1, h.2.1⟩
    · exact C.participantes
  parejas := by
    split
    · rename_i h
      refine List.pairwise_append.mpr ⟨C.parejas, List.pairwise_singleton _ _, ?_⟩
      intro c hc c' hc'
      rw [List.mem_singleton.mp hc']
      intro hentre
      exact List.find?_eq_none.mp h.2.2 c hc (decide_eq_true hentre.symm)
    · exact C.parejas

/-- A conversation is loaded and stored again with the message. A load that raises leaves everything as it was. -/
def agregar [LibC] (C : Central) (c : Chat) (m : Mensaje) : EStateM.Result Excepcion Central PUnit :=
  match Conversacion.recargar c.mensajes with
  | .ok ms => .ok ⟨⟩ (C.conMensajes c.id ms m)
  | .error e => .error (.json e) C

/-- **The delivery of a message** from `x` to `y`: to the conversation of the pair, or to a new one. -/
def entregar [LibC] (C : Central) (x y : Cadena) (m : Mensaje) : EStateM.Result Excepcion Central PUnit :=
  match C.entre x y with
  | none => .ok ⟨⟩ (C.conChat x y m)
  | some c => C.agregar c m

/-! ## Deliveries and users -/

@[simp] theorem usuarios_conMensajes (C : Central) (k : Cadena) (ms : List Mensaje) (m : Mensaje) :
    (C.conMensajes k ms m).usuarios = C.usuarios := rfl

@[simp] theorem usuarios_conChat (C : Central) (x y : Cadena) (m : Mensaje) :
    (C.conChat x y m).usuarios = C.usuarios := rfl

theorem usuarios_entregar [LibC] (C : Central) (x y : Cadena) (m : Mensaje) :
    (final (C.entregar x y m)).usuarios = C.usuarios := by
  unfold entregar
  split
  · rfl
  · unfold agregar
    split <;> rfl

/-! ## Looking a conversation up -/

/-- The id of a registered user is a hash. -/
theorem exists_md5 {C : Central} {k : Cadena} (h : (C.usuarios k).isSome) : ∃ t, k = md5 t := by
  obtain ⟨u, hu⟩ := Option.isSome_iff_exists.mp h
  exact ⟨u.telefono, by rw [← C.claves k u hu, u.id_eq]⟩

theorem length_of_isSome {C : Central} {k : Cadena} (h : (C.usuarios k).isSome) : k.length = 32 := by
  obtain ⟨t, rfl⟩ := exists_md5 h
  exact length_md5 t

theorem guion_not_mem {C : Central} {k : Cadena} (h : (C.usuarios k).isSome) : Conversacion.guion ∉ k := by
  obtain ⟨t, rfl⟩ := exists_md5 h
  exact not_mem_md5 (by decide) t

/-- The id of a conversation has one hyphen, so it determines the participants. -/
theorem chat_id_inj {C : Central} {c : Chat} (hc : c ∈ C.chats) {x y : Cadena}
    (h : c.id = x ++ Conversacion.guion :: y) : c.a = x ∧ c.b = y := by
  obtain ⟨ha, hb⟩ := C.participantes c hc
  obtain ⟨hx, -, hy⟩ := (List.append_cons_inj_of_notMem (guion_not_mem ha) (guion_not_mem hb)).mp h
  exact ⟨hx, hy⟩

/-- A pair has one conversation. -/
theorem chat_unico {C : Central} {c c' : Chat} (hc : c ∈ C.chats) (hc' : c' ∈ C.chats) {x y : Cadena}
    (h : c.Entre x y) (h' : c'.Entre x y) : c = c' := by
  have hsymm : Std.Symm fun c c' : Chat => ¬ c'.Entre c.a c.b := ⟨fun _ _ h h' => h h'.symm⟩
  by_contra hne
  exact C.parejas.forall hc hc' hne (h'.trans h.symm)

theorem entre_eq_some_iff {C : Central} {x y : Cadena} {c : Chat} :
    C.entre x y = some c ↔ c ∈ C.chats ∧ c.Entre x y := by
  constructor
  · intro h
    exact ⟨List.mem_of_find?_eq_some h, by simpa using List.find?_some h⟩
  · rintro ⟨hc, hentre⟩
    cases h : C.entre x y with
    | none => exact absurd (decide_eq_true hentre) (List.find?_eq_none.mp h c hc)
    | some c' =>
      have hc' : c'.Entre x y := by simpa using List.find?_some h
      rw [chat_unico (List.mem_of_find?_eq_some h) hc hc' hentre]

theorem entre_eq_none_iff {C : Central} {x y : Cadena} : C.entre x y = none ↔ ∀ c ∈ C.chats, ¬ c.Entre x y := by
  simp [entre]

theorem entre_comm (C : Central) (x y : Cadena) : C.entre x y = C.entre y x := by
  unfold entre
  congr
  funext c
  exact decide_eq_decide.mpr ⟨.swap, .swap⟩

theorem entre_par (C : Central) {x y a b : Cadena} (h : Par x y a b) : C.entre a b = C.entre x y := by
  rcases h with ⟨rfl, rfl⟩ | ⟨rfl, rfl⟩
  · rfl
  · exact entre_comm C _ _

theorem buscar_eq_some_iff {C : Central} {k : Cadena} {c : Chat} :
    C.buscar k = some c ↔ c ∈ C.chats ∧ c.id = k := by
  constructor
  · intro h
    exact ⟨List.mem_of_find?_eq_some h, by simpa using List.find?_some h⟩
  · rintro ⟨hc, rfl⟩
    cases h : C.buscar c.id with
    | none => exact absurd (decide_eq_true rfl) (List.find?_eq_none.mp h c hc)
    | some c' =>
      have hc' := List.mem_of_find?_eq_some h
      have hid : c'.id = c.id := by simpa using List.find?_some h
      obtain ⟨ha, hb⟩ := chat_id_inj hc' hid
      rw [chat_unico hc' hc (.inl ⟨ha, hb⟩) (.inl ⟨rfl, rfl⟩)]

/-- The conversation under one of the two ids of a pair is the one of the pair. -/
theorem entre_of_buscar {C : Central} {k x y : Cadena} {c : Chat} (hc : C.buscar k = some c)
    (hk : k = x ++ Conversacion.guion :: y ∨ k = y ++ Conversacion.guion :: x) : C.entre x y = some c := by
  obtain ⟨hmem, rfl⟩ := buscar_eq_some_iff.mp hc
  exact entre_eq_some_iff.mpr ⟨hmem, hk.imp (chat_id_inj hmem) (chat_id_inj hmem)⟩

theorem buscar_eq_none_iff {C : Central} {k : Cadena} : C.buscar k = none ↔ ∀ c ∈ C.chats, c.id ≠ k := by
  simp [buscar]

theorem entre_eq_buscar (C : Central) (x y : Cadena) :
    C.entre x y = (C.buscar (x ++ Conversacion.guion :: y)).or (C.buscar (y ++ Conversacion.guion :: x)) := by
  cases h₁ : C.buscar (x ++ Conversacion.guion :: y) with
  | some c =>
    rw [Option.some_or, entre_of_buscar h₁ (.inl rfl)]
  | none =>
    rw [Option.none_or]
    cases h₂ : C.buscar (y ++ Conversacion.guion :: x) with
    | some c =>
      rw [entre_of_buscar h₂ (.inr rfl)]
    | none =>
      rw [entre_eq_none_iff]
      rintro c hc (⟨rfl, rfl⟩ | ⟨rfl, rfl⟩)
      · exact buscar_eq_none_iff.mp h₁ c hc rfl
      · exact buscar_eq_none_iff.mp h₂ c hc rfl

/-! ## Looking up after an update -/

section ConMensajes
variable (C : Central) (k : Cadena) (ms : List Mensaje) (m : Mensaje)

theorem buscar_conMensajes (k' : Cadena) :
    (C.conMensajes k ms m).buscar k' = (C.buscar k').map (escribir k ms m) := by
  rw [buscar, conMensajes, List.find?_map]
  simp only [Function.comp_def, escribir_id]
  rfl

theorem indice_conMensajes (u : Cadena) : (C.conMensajes k ms m).indice u = C.indice u := by
  rw [indice, conMensajes, List.filter_map, List.map_map]
  simp only [Function.comp_def, escribir_id, Chat.Participa, escribir_a, escribir_b]
  rfl

end ConMensajes

/-- The conversation of the pair gets the messages; the other ones are left alone. -/
theorem entre_conMensajes {C : Central} {x y : Cadena} {c : Chat} (hc : C.entre x y = some c) (ms : List Mensaje)
    (m : Mensaje) (a b : Cadena) :
    (C.conMensajes c.id ms m).entre a b = if Par x y a b then some (c.conMensaje ms m) else C.entre a b := by
  have hmap : (C.conMensajes c.id ms m).entre a b = (C.entre a b).map (escribir c.id ms m) := by
    rw [entre, conMensajes, List.find?_map]
    simp only [Function.comp_def, escribir_entre]
    rfl
  obtain ⟨hmem, hentre⟩ := entre_eq_some_iff.mp hc
  rw [hmap]
  split
  · rename_i hpar
    rw [C.entre_par hpar, hc, Option.map_some, escribir, if_pos rfl]
  · rename_i hpar
    cases hab : C.entre a b with
    | none => rfl
    | some c' =>
      obtain ⟨hmem', hentre'⟩ := entre_eq_some_iff.mp hab
      have hne : c'.id ≠ c.id := by
        intro hid
        obtain ⟨ha, hb⟩ := chat_id_inj hmem' hid
        rw [Chat.Entre, ha, hb] at hentre'
        exact hpar (hentre.symm.trans hentre')
      rw [Option.map_some, escribir, if_neg hne]

section ConChat
variable {C : Central} {x y : Cadena} (hx : (C.usuarios x).isSome) (hy : (C.usuarios y).isSome)
  (hno : C.entre x y = none) (m : Mensaje)
include hx hy hno

theorem chats_conChat : (C.conChat x y m).chats = C.chats ++ [Chat.nuevo x y m] := by
  rw [conChat]
  exact if_pos ⟨hx, hy, hno⟩

theorem entre_conChat (a b : Cadena) :
    (C.conChat x y m).entre a b = if Par x y a b then some (Chat.nuevo x y m) else C.entre a b := by
  have hnuevo : (Chat.nuevo x y m).Entre a b ↔ Par x y a b := Iff.rfl
  rw [entre, chats_conChat hx hy hno, List.find?_append, List.find?_singleton, ← entre]
  simp only [decide_eq_true_eq, hnuevo]
  split
  · rename_i hpar
    rw [C.entre_par hpar, hno, Option.none_or]
  · rw [Option.or_none]

theorem buscar_conChat (k : Cadena) :
    (C.conChat x y m).buscar k =
      if k = (Chat.nuevo x y m).id then some (Chat.nuevo x y m) else C.buscar k := by
  have hnuevo : C.buscar (x ++ Conversacion.guion :: y) = none := by
    rw [entre_eq_buscar, Option.or_eq_none_iff] at hno
    exact hno.1
  rw [buscar, chats_conChat hx hy hno, List.find?_append, List.find?_singleton]
  simp only [decide_eq_true_eq, eq_comm (a := k)]
  split
  · rename_i hk
    have hnone : C.buscar k = none := hk ▸ hnuevo
    rw [buscar] at hnone
    rw [hnone]
    rfl
  · rw [Option.or_none]
    rfl

theorem indice_conChat (u : Cadena) :
    (C.conChat x y m).indice u =
      C.indice u ++ if (Chat.nuevo x y m).Participa u then [(Chat.nuevo x y m).id] else [] := by
  rw [indice, chats_conChat hx hy hno, List.filter_append, List.map_append, List.filter_singleton]
  congr 1
  by_cases hu : (Chat.nuevo x y m).Participa u
  · simp [hu]
  · simp [hu]

end ConChat

/-! ## What a delivery changes -/

section Entrega
variable [LibC]

/-- The conversation of `x` and `y` after one more message, from the one they had. -/
def recibido (x y : Cadena) (m : Mensaje) : Option Chat → Except Exn Chat
  | none => .ok (Chat.nuevo x y m)
  | some c => (Conversacion.recargar c.mensajes).map fun ms => c.conMensaje ms m

/-- A delivery changes the conversation of the pair, or it raises and changes nothing. -/
theorem entregar_casos {C : Central} {x y : Cadena} (hx : (C.usuarios x).isSome) (hy : (C.usuarios y).isSome)
    (m : Mensaje) :
    (∃ c C', recibido x y m (C.entre x y) = .ok c ∧ C.entregar x y m = .ok ⟨⟩ C' ∧
      ∀ a b, C'.entre a b = if Par x y a b then some c else C.entre a b) ∨
    ∃ e, recibido x y m (C.entre x y) = .error e ∧ C.entregar x y m = .error (.json e) C := by
  unfold entregar
  cases hxy : C.entre x y with
  | none => exact .inl ⟨_, _, rfl, rfl, entre_conChat hx hy hxy m⟩
  | some c =>
    dsimp only
    rw [agregar, recibido]
    cases Conversacion.recargar c.mensajes with
    | error e => exact .inr ⟨e, rfl, rfl⟩
    | ok ms => exact .inl ⟨_, _, rfl, rfl, entre_conMensajes hxy ms m⟩

theorem entregar_eq_ok {C C' : Central} {x y : Cadena} (hx : (C.usuarios x).isSome) (hy : (C.usuarios y).isSome)
    {m : Mensaje} (h : C.entregar x y m = .ok ⟨⟩ C') :
    ∃ c, recibido x y m (C.entre x y) = .ok c ∧
      ∀ a b, C'.entre a b = if Par x y a b then some c else C.entre a b := by
  obtain ⟨c, C'', hc, hentregar, hentre⟩ | ⟨e, -, hentregar⟩ := entregar_casos hx hy m
  · rw [h] at hentregar
    cases hentregar
    exact ⟨c, hc, hentre⟩
  · rw [h] at hentregar
    cases hentregar

theorem recibido_some {x y : Cadena} {m : Mensaje} {c c' : Chat} (h : recibido x y m (some c) = .ok c') :
    ∃ ms, Conversacion.recargar c.mensajes = .ok ms ∧ c' = c.conMensaje ms m := by
  rw [recibido] at h
  cases hms : Conversacion.recargar c.mensajes with
  | error e =>
    rw [hms] at h
    cases h
  | ok ms =>
    rw [hms] at h
    cases h
    exact ⟨ms, rfl, rfl⟩

end Entrega

end Central

end MensajeroX
