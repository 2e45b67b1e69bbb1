import MensajeroX.Cliente.DbHelper
import MensajeroX.Lib.Corridas

/-!
# Users and sessions of the client

The table of users next to the tables of messages and conversations. A login, a logout, a saved profile and a check-in
all go through `insertUser`, which empties the other two tables on some of its branches.

The abstract client knows who is logged, if anyone, and the rows of the session: a login of somebody else, or after a
logout, starts a session without rows.

* `Refina` : the tables hold the state of the abstract client; `refina_ejecutar` : so they do after all calls;
* `Sesion.llamar_entrada`, `Sesion.llamar_permanece` : what a call does to the rows when a user gets logged and while they
  stay so;
* `sesion_aislada` : **one session at a time**, and no row older than it.
-/

namespace MensajeroX.Cliente
open Bytes

/-! ## The table of users -/

/-- `Boolean.toString`. -/
def Boolean.toString (b : Bool) : Cadena := if b then bytes "true" else bytes "false"

/-- `Boolean.valueOf`, which does not look at the case. -/
def Boolean.valueOf (s : Cadena) : Bool := s.map (fun c => if 65 ≤ c ∧ c ≤ 90 then c + 32 else c) == bytes "true"

/-- `User`, with the values of a new object. -/
structure User where
  id : Nat := 0
  userId : Cadena := []
  phone : Cadena := []
  profilePicture : Cadena := bytes "default"
  name : Cadena := []
  location : Cadena := bytes "desconocida"
  password : Cadena := []
  tokenSesion : Cadena := []
  connected : Bool := true
  isLogged : Int := 0
deriving DecidableEq, Repr

structure UserEntry where
  id : Nat
  userId : Cadena
  phone : Cadena
  profilePicture : Cadena
  name : Cadena
  password : Cadena
  state : Cadena
  isLogged : Int
  location : Cadena
  token : Cadena
deriving DecidableEq, Repr

/-- The columns that `insertUser` and `updateUser` write, in the row `id`. -/
def User.values (user : User) (id : Nat) : UserEntry where
  id := id
  userId := user.userId
  phone := user.phone
  profilePicture := user.profilePicture
  name := user.name
  password := user.password
  state := Boolean.toString user.connected
  isLogged := user.isLogged
  location := user.location
  token := user.tokenSesion

def UserEntry.user (f : UserEntry) : User where
  id := f.id
  userId := f.userId
  phone := f.phone
  profilePicture := f.profilePicture
  name := f.name
  location := f.location
  password := f.password
  tokenSesion := f.token
  connected := Boolean.valueOf f.state
  isLogged := f.isLogged

structure Base extends DbHelper where
  users : List UserEntry := []

namespace Base

/-- `getUserByPhone`: a new object when there is no row. -/
def getUserByPhone (db : Base) (userPhone : Cadena) : User :=
  match db.users.find? (·.phone = userPhone) with
  | none => {}
  | some f => f.user

def clearSessionData (db : Base) : Base where
  users := db.users.map fun f => { f with isLogged := 0 }
  messages := []
  conversations := []

def updateUser (db : Base) (user : User) : Base :=
  { db with users := db.users.map fun f => if f.id = user.id then user.values f.id else f }

/-- The key that SQLite gives a new row: one more than the largest. -/
def newRowId (users : List UserEntry) : Nat := users.foldr (fun f n => max f.id n) 0 + 1

/-- `insertUser`: the key of the row, and the tables. -/
def insertUser (db : Base) (user : User) : Nat × Base :=
  let oldUser := db.getUserByPhone user.phone
  if oldUser.id ≠ 0 then
    let db := if oldUser.isLogged = 0 ∧ 0 < user.isLogged then db.clearSessionData else db
    (oldUser.id, db.updateUser { user with id := oldUser.id })
  else
    let db := if 0 < user.isLogged then db.clearSessionData else db
    (newRowId db.users, { db with users := db.users ++ [user.values (newRowId db.users)] })

theorem insertUser_nuevo {db : Base} {user : User} (h : db.users.find? (·.phone = user.phone) = none) :
    (db.insertUser user).2 =
      let db := if 0 < user.isLogged then db.clearSessionData else db
      { db with users := db.users ++ [user.values (newRowId db.users)] } := by
  have hold : db.getUserByPhone user.phone = {} := by rw [getUserByPhone, h]
  rw [insertUser, hold, if_neg (not_not_intro rfl)]

theorem insertUser_existente {db : Base} {user : User} {f : UserEntry}
    (h : db.users.find? (·.phone = user.phone) = some f) (hid : f.id ≠ 0) :
    (db.insertUser user).2 =
      (if f.isLogged = 0 ∧ 0 < user.isLogged then db.clearSessionData else db).updateUser { user with id := f.id } := by
  have hold : db.getUserByPhone user.phone = f.user := by rw [getUserByPhone, h]
  have hid' : f.user.id ≠ 0 := hid
  rw [insertUser, hold, if_pos hid']
  rfl

end Base

inductive Llamada where
  | insertUser (user : User)
  | insertConversation (conversation : Conversation)
  | insertMessage (message : Message)

def Llamada.message? : Llamada → Option Message
  | insertMessage message => some message
  | _ => none

def Llamada.conversation? : Llamada → Option Conversation
  | insertConversation conversation => some conversation
  | _ => none

def Base.llamar (db : Base) : Llamada → Base
  | .insertUser user => (db.insertUser user).2
  | .insertConversation conversation => { db with toDbHelper := db.toDbHelper.insertConversation conversation }
  | .insertMessage message => { db with toDbHelper := db.toDbHelper.insertMessage message }

/-- The tables after the calls, from an empty database. -/
def Base.ejecutar (llamadas : List Llamada) : Base := llamadas.foldl Base.llamar {}

def Base.Logueado (db : Base) (telefono : Cadena) : Prop := ∃ f ∈ db.users, f.phone = telefono ∧ f.isLogged = 1

/-! ## The abstract client -/

structure Sesion extends DbHelper where
  logueado : Option Cadena := none

namespace Sesion

def guardar (s : Sesion) (user : User) : Sesion :=
  { s with logueado := if 0 < user.isLogged then some user.phone
                       else if s.logueado = some user.phone then none else s.logueado }

/-- A user is saved. Unless they are logged already, a login leaves no row of before. -/
def insertUser (s : Sesion) (user : User) : Sesion :=
  (if s.logueado ≠ some user.phone ∧ 0 < user.isLogged then {} else s).guardar user

def llamar (s : Sesion) : Llamada → Sesion
  | .insertUser user => s.insertUser user
  | .insertConversation conversation => { s with toDbHelper := s.toDbHelper.insertConversation conversation }
  | .insertMessage message => { s with toDbHelper := s.toDbHelper.insertMessage message }

def ejecutar (llamadas : List Llamada) : Sesion := llamadas.foldl llamar {}

theorem ejecutar_concat (llamadas : List Llamada) (c : Llamada) :
    ejecutar (llamadas ++ [c]) = (ejecutar llamadas).llamar c := List.foldl_concat _ _ _ _

variable {s : Sesion} {c : Llamada} {t : Cadena}

theorem llamar_entrada (hantes : s.logueado ≠ some t) (hdespues : (s.llamar c).logueado = some t) :
    (∃ user, c = .insertUser user) ∧ (s.llamar c).messages = [] ∧ (s.llamar c).conversations = [] := by
  cases c with
  | insertConversation conversation => exact absurd hdespues hantes
  | insertMessage message => exact absurd hdespues hantes
  | insertUser user =>
    refine ⟨⟨user, rfl⟩, ?_⟩
    by_cases hlogin : s.logueado ≠ some user.phone ∧ 0 < user.isLogged
    · rw [llamar, insertUser, if_pos hlogin]
      exact ⟨rfl, rfl⟩
    · rw [llamar, insertUser, if_neg hlogin, guardar] at hdespues
      split_ifs at hdespues with hflag hmismo
      · have hmismo : s.logueado = some user.phone := by
          by_contra hno
          exact hlogin ⟨hno, hflag⟩
        exact absurd (hmismo.trans hdespues) hantes
      · exact absurd hdespues hantes

/-- While a user stays logged a call adds the row it inserts, and no other. -/
theorem llamar_permanece (hantes : s.logueado = some t) (hdespues : (s.llamar c).logueado = some t) :
    (s.llamar c).messages = s.messages ++ c.message?.toList ∧
    (s.llamar c).conversations = s.conversations ++ c.conversation?.toList := by
  cases c with
  | insertConversation conversation => exact ⟨(List.append_nil _).symm, rfl⟩
  | insertMessage message => exact ⟨rfl, (List.append_nil _).symm⟩
  | insertUser user =>
    have hno : ¬ (s.logueado ≠ some user.phone ∧ 0 < user.isLogged) := by
      rintro ⟨hotro, hflag⟩
      have hlogin : (s.llamar (.insertUser user)).logueado = some user.phone := if_pos hflag
      exact hotro (hantes.trans (hdespues.symm.trans hlogin))
    rw [llamar, insertUser, if_neg hno]
    exact ⟨(List.append_nil _).symm, (List.append_nil _).symm⟩

/-- **The rows of a session** are those that its calls insert: `c` starts it and the user stays logged after that. -/
theorem filas_ejecutar {antes despues : List Llamada} (hantes : (ejecutar antes).logueado ≠ some t)
    (hdespues : ∀ p, p <+: despues → (ejecutar (antes ++ c :: p)).logueado = some t) :
    (ejecutar (antes ++ c :: despues)).messages = despues.filterMap Llamada.message? ∧
    (ejecutar (antes ++ c :: despues)).conversations = despues.filterMap Llamada.conversation? := by
  induction despues using List.reverseRecOn with
  | nil =>
    have hentra := hdespues [] List.nil_prefix
    rw [ejecutar_concat] at hentra ⊢
    exact (llamar_entrada hantes hentra).2
  | append_singleton p d ih =>
    obtain ⟨hmessages, hconversations⟩ := ih fun q hq => hdespues q (hq.trans (List.prefix_append _ _))
    have hlogueado := hdespues p (List.prefix_append _ _)
    have hsigue := hdespues (p ++ [d]) List.prefix_rfl
    rw [← List.cons_append, ← List.append_assoc, ejecutar_concat] at hsigue ⊢
    obtain ⟨hmessages', hconversations'⟩ := llamar_permanece hlogueado hsigue
    rw [hmessages', hconversations', hmessages, hconversations, List.filterMap_append, List.filterMap_append]
    exact ⟨by cases d <;> rfl, by cases d <;> rfl⟩

end Sesion

/-! ## Refinement -/

structure Refina (s : Sesion) (db : Base) : Prop where
  ids : (db.users.map (·.id)).Nodup
  positivos : ∀ f ∈ db.users, f.id ≠ 0
  telefonos : (db.users.map (·.phone)).Nodup
  /-- The flags of the rows. -/
  flags : ∀ f ∈ db.users, f.isLogged = if s.logueado = some f.phone then 1 else 0
  registrado : ∀ t, s.logueado = some t → t ∈ db.users.map (·.phone)
  filas : db.toDbHelper = s.toDbHelper

theorem le_newRowId {users : List UserEntry} {f : UserEntry} (hf : f ∈ users) : f.id < Base.newRowId users := by
  unfold Base.newRowId
  induction users with
  | nil => cases hf
  | cons g users ih =>
    rw [List.foldr_cons]
    rcases List.mem_cons.mp hf with rfl | hf
    · omega
    · have := ih hf
      omega

namespace Refina
variable {s : Sesion} {db : Base} (h : Refina s db)
include h

theorem logueado_iff (t : Cadena) : db.Logueado t ↔ s.logueado = some t := by
  constructor
  · rintro ⟨f, hf, rfl, hflag⟩
    by_contra hno
    rw [h.flags f hf, if_neg hno] at hflag
    cases hflag
  · intro ht
    obtain ⟨f, hf, rfl⟩ := List.mem_map.mp (h.registrado t ht)
    exact ⟨f, hf, rfl, by rw [h.flags f hf, if_pos ht]⟩

theorem unico : (db.users.filter (·.isLogged = 1)).length ≤ 1 := by
  have hmismo : ∀ f ∈ db.users.filter (·.isLogged = 1), s.logueado = some f.phone := by
    intro f hf
    obtain ⟨hf, hflag⟩ := List.mem_filter.mp hf
    exact (h.logueado_iff f.phone).mp ⟨f, hf, rfl, by simpa using hflag⟩
  have hnodup : ((db.users.filter (·.isLogged = 1)).map (·.phone)).Nodup :=
    h.telefonos.sublist (List.filter_sublist.map _)
  generalize db.users.filter (·.isLogged = 1) = logueados at hmismo hnodup
  match logueados with
  | [] => exact Nat.zero_le _
  | [_] => exact le_rfl
  | f :: g :: l =>
    have hfg := (hmismo f (by simp)).symm.trans (hmismo g (by simp))
    simp only [List.map_cons, List.nodup_cons] at hnodup
    exact absurd (Option.some.inj hfg) (fun heq => hnodup.1 (by simp [heq]))

theorem clear : Refina {} db.clearSessionData where
  ids := by simpa [Base.clearSessionData, Function.comp_def] using h.ids
  positivos := by
    intro f hf
    obtain ⟨g, hg, rfl⟩ := List.mem_map.mp hf
    exact h.positivos g hg
  telefonos := by simpa [Base.clearSessionData, Function.comp_def] using h.telefonos
  flags := by
    intro f hf
    obtain ⟨g, hg, rfl⟩ := List.mem_map.mp hf
    rfl
  registrado := by
    intro t ht
    cases ht
  filas := rfl

end Refina

section Guardado
variable {s : Sesion} {db : Base} {user : User}

/-- The flag of a user after one is saved: as they say for that user, as before for the others. -/
theorem Sesion.flag_guardar (hflag : user.isLogged = 0 ∨ user.isLogged = 1)
    (hsolo : 0 < user.isLogged → s.logueado = none ∨ s.logueado = some user.phone) (t : Cadena) :
    (if (s.guardar user).logueado = some t then (1 : Int) else 0) =
      if t = user.phone then user.isLogged else if s.logueado = some t then 1 else 0 := by
  unfold Sesion.guardar
  rcases hflag with hflag | hflag
  · rw [hflag]
    by_cases ht : t = user.phone
    · subst ht
      by_cases hs : s.logueado = some user.phone <;> simp [hs]
    · by_cases hs : s.logueado = some user.phone
      · simp [hs, ht, Ne.symm ht]
      · simp [hs, ht]
  · have hs := hsolo (by omega)
    rw [hflag]
    by_cases ht : t = user.phone
    · simp [ht]
    · rcases hs with hs | hs <;> simp [hs, ht, Ne.symm ht]

theorem Sesion.logueado_guardar {t : Cadena} (h : (s.guardar user).logueado = some t) :
    t = user.phone ∨ s.logueado = some t := by
  unfold Sesion.guardar at h
  split_ifs at h
  · exact .inl (Option.some.inj h).symm
  · exact .inr h

variable (h : Refina s db) (hflag : user.isLogged = 0 ∨ user.isLogged = 1)
  (hsolo : 0 < user.isLogged → s.logueado = none ∨ s.logueado = some user.phone)
include h hflag hsolo

theorem Refina.update {f : UserEntry} (hf : f ∈ db.users) (htelefono : f.phone = user.phone) :
    Refina (s.guardar user) (db.updateUser { user with id := f.id }) := by
  -- the key and the telephone pick the same row
  have hmismo : ∀ g ∈ db.users, g.id = f.id ↔ g.phone = user.phone := by
    intro g hg
    constructor
    · intro hid
      rw [List.inj_on_of_nodup_map h.ids hg hf hid, htelefono]
    · intro hphone
      rw [List.inj_on_of_nodup_map h.telefonos hg hf (hphone.trans htelefono.symm)]
  have hids : (db.updateUser { user with id := f.id }).users.map (·.id) = db.users.map (·.id) := by
    rw [Base.updateUser, List.map_map]
    refine List.map_congr_left fun g hg => ?_
    show (if g.id = f.id then _ else g).id = g.id
    split <;> rfl
  have htelefonos : (db.updateUser { user with id := f.id }).users.map (·.phone) = db.users.map (·.phone) := by
    rw [Base.updateUser, List.map_map]
    refine List.map_congr_left fun g hg => ?_
    show (if g.id = f.id then _ else g).phone = g.phone
    split
    · rename_i hid
      exact ((hmismo g hg).mp hid).symm
    · rfl
  refine ⟨hids ▸ h.ids, ?_, htelefonos ▸ h.telefonos, ?_, ?_, h.filas⟩
  · intro g' hg'
    obtain ⟨g, hg, rfl⟩ := List.mem_map.mp hg'
    split
    · exact h.positivos g hg
    · exact h.positivos g hg
  · intro g' hg'
    obtain ⟨g, hg, rfl⟩ := List.mem_map.mp hg'
    rw [Sesion.flag_guardar hflag hsolo]
    by_cases hid : g.id = f.id
    · rw [if_pos hid]
      exact (if_pos rfl).symm
    · rw [if_neg hid, if_neg (mt (hmismo g hg).mpr hid)]
      exact h.flags g hg
  · intro t ht
    rw [htelefonos]
    rcases Sesion.logueado_guardar ht with rfl | ht
    · exact List.mem_map.mpr ⟨f, hf, htelefono⟩
    · exact h.registrado t ht

theorem Refina.insert (hnuevo : user.phone ∉ db.users.map (·.phone)) :
    Refina (s.guardar user) { db with users := db.users ++ [user.values (Base.newRowId db.users)] } := by
  have hid : Base.newRowId db.users ∉ db.users.map (·.id) := by
    intro hmem
    obtain ⟨f, hf, heq⟩ := List.mem_map.mp hmem
    have := le_newRowId hf
    omega
  refine ⟨?_, ?_, ?_, ?_, ?_, h.filas⟩
  · rw [List.map_append]
    exact List.nodup_middle.mpr (List.nodup_cons.mpr ⟨by simpa [User.values] using hid, by simpa using h.ids⟩)
  · intro f hf
    rcases List.mem_append.mp hf with hf | hf
    · exact h.positivos f hf
    · rw [List.mem_singleton.mp hf]
      exact Nat.succ_ne_zero _
  · rw [List.map_append]
    exact List.nodup_middle.mpr (List.nodup_cons.mpr ⟨by simpa [User.values] using hnuevo, by simpa using h.telefonos⟩)
  · intro f hf
    rw [Sesion.flag_guardar hflag hsolo]
    rcases List.mem_append.mp hf with hf | hf
    · rw [if_neg (fun heq => hnuevo (List.mem_map.mpr ⟨f, hf, heq⟩))]
      exact h.flags f hf
    · rw [List.mem_singleton.mp hf]
      exact (if_pos rfl).symm
  · intro t ht
    rw [List.map_append, List.mem_append]
    rcases Sesion.logueado_guardar ht with rfl | ht
    · exact .inr (List.mem_singleton.mpr rfl)
    · exact .inl (h.registrado t ht)

end Guardado

section Llamadas
variable {s : Sesion} {db : Base} (h : Refina s db)
include h

/-- **`insertUser` refines the abstract operation**: it empties the tables exactly when somebody gets logged. -/
theorem Refina.insertUser {user : User} (hflag : user.isLogged = 0 ∨ user.isLogged = 1) :
    Refina (s.insertUser user) (db.insertUser user).2 := by
  cases hfind : db.users.find? (·.phone = user.phone) with
  | none =>
    have hnuevo : user.phone ∉ db.users.map (·.phone) := by
      intro hmem
      obtain ⟨f, hf, heq⟩ := List.mem_map.mp hmem
      exact absurd (List.find?_eq_none.mp hfind f hf) (by simp [heq])
    have hfuera : s.logueado ≠ some user.phone := fun heq => hnuevo (h.registrado _ heq)
    rw [Base.insertUser_nuevo hfind, Sesion.insertUser]
    by_cases hlogin : 0 < user.isLogged
    · rw [if_pos ⟨hfuera, hlogin⟩, if_pos hlogin]
      refine h.clear.insert hflag (fun _ => .inl rfl) ?_
      simpa [Base.clearSessionData] using hnuevo
    · rw [if_neg (fun hno => hlogin hno.2), if_neg hlogin]
      exact h.insert hflag (fun hno => absurd hno hlogin) hnuevo
  | some f =>
    have hf := List.mem_of_find?_eq_some hfind
    have htelefono : f.phone = user.phone := by simpa using List.find?_some hfind
    have hdeslogueado : f.isLogged = 0 ↔ s.logueado ≠ some user.phone := by
      rw [h.flags f hf, htelefono]
      by_cases hs : s.logueado = some user.phone <;> simp [hs]
    rw [Base.insertUser_existente hfind (h.positivos f hf), Sesion.insertUser]
    by_cases hlogin : s.logueado ≠ some user.phone ∧ 0 < user.isLogged
    · rw [if_pos hlogin, if_pos ⟨hdeslogueado.mpr hlogin.1, hlogin.2⟩]
      exact h.clear.update hflag (fun _ => .inl rfl) (f := { f with isLogged := 0 }) (List.mem_map.mpr ⟨f, hf, rfl⟩) htelefono
    · rw [if_neg hlogin, if_neg (fun hno => hlogin ⟨hdeslogueado.mp hno.1, hno.2⟩)]
      refine h.update hflag (fun hpos => ?_) hf htelefono
      by_contra hno
      exact hlogin ⟨fun heq => hno (.inr heq), hpos⟩

theorem Refina.llamar {c : Llamada} (hc : ∀ user, c = .insertUser user → user.isLogged = 0 ∨ user.isLogged = 1) :
    Refina (s.llamar c) (db.llamar c) := by
  cases c with
  | insertUser user => exact h.insertUser (hc user rfl)
  | insertConversation conversation =>
    exact ⟨h.ids, h.positivos, h.telefonos, h.flags, h.registrado, congrArg (DbHelper.insertConversation · conversation) h.filas⟩
  | insertMessage message =>
    exact ⟨h.ids, h.positivos, h.telefonos, h.flags, h.registrado, congrArg (DbHelper.insertMessage · message) h.filas⟩

end Llamadas

def Validas (llamadas : List Llamada) : Prop :=
  ∀ user, .insertUser user ∈ llamadas → user.isLogged = 0 ∨ user.isLogged = 1

/-- **The tables follow the abstract client** along every sequence of calls. -/
theorem refina_ejecutar {llamadas : List Llamada} (h : Validas llamadas) :
    Refina (.ejecutar llamadas) (.ejecutar llamadas) := by
  have hinicio : Refina {} {} :=
    ⟨.nil, fun _ hf => absurd hf List.not_mem_nil, .nil, fun _ hf => absurd hf List.not_mem_nil,
      fun _ ht => (by cases ht), rfl⟩
  refine List.foldl_rel hinicio fun c hc s db hs => hs.llamar fun user heq => h user (heq ▸ hc)

/-! ## Sessions -/

/-- After the calls `antes`, the call `c` turns the user from not logged, or absent, to logged. -/
def Entra (telefono : Cadena) (antes : List Llamada) (c : Llamada) : Prop :=
  ¬ (Base.ejecutar antes).Logueado telefono ∧ (Base.ejecutar (antes ++ [c])).Logueado telefono

/-- The call `c` between `antes` and `despues` is the last that turns the user to logged. -/
structure UltimaEntrada (telefono : Cadena) (antes : List Llamada) (c : Llamada) (despues : List Llamada) : Prop where
  entra : Entra telefono antes c
  ultima : ∀ p d q, despues = p ++ d :: q → ¬ Entra telefono (antes ++ c :: p) d

/-- At most one user is logged, no telephone is twice in the table, and while somebody is logged every row was inserted
after they last got logged. -/
structure SesionAislada (llamadas : List Llamada) : Prop where
  unico : ((Base.ejecutar llamadas).users.filter (·.isLogged = 1)).length ≤ 1
  telefonos : ((Base.ejecutar llamadas).users.map (·.phone)).Nodup
  aislada : ∀ telefono, (Base.ejecutar llamadas).Logueado telefono →
    ∃ antes user despues, llamadas = antes ++ .insertUser user :: despues ∧
      UltimaEntrada telefono antes (.insertUser user) despues ∧
      (Base.ejecutar llamadas).messages = despues.filterMap Llamada.message? ∧
      (Base.ejecutar llamadas).conversations = despues.filterMap Llamada.conversation?

/-- **One session at a time**: whoever is logged, the tables hold what was inserted since they last got logged. -/
theorem sesion_aislada {llamadas : List Llamada} (h : Validas llamadas) : SesionAislada llamadas := by
  have hrefina := refina_ejecutar h
  refine ⟨hrefina.unico, hrefina.telefonos, fun t ht => ?_⟩
  obtain ⟨antes, c, despues, rfl, hantes, hdespues⟩ := Corridas.exists_ultimo_cambio (P := fun db => Base.Logueado db t)
    (fun ⟨f, hf, _⟩ => absurd hf List.not_mem_nil) ht
  -- seen in the abstract, for every sequence of calls on the way
  have hlogueado : ∀ p, p <+: antes ++ c :: despues → ((Base.ejecutar p).Logueado t ↔ (Sesion.ejecutar p).logueado = some t) :=
    fun p hp => (refina_ejecutar fun user hmem => h user (hp.subset hmem)).logueado_iff t
  have hfuera : (Sesion.ejecutar antes).logueado ≠ some t := mt (hlogueado antes (List.prefix_append _ _)).mpr hantes
  have hdentro : ∀ p, p <+: despues → (Sesion.ejecutar (antes ++ c :: p)).logueado = some t := by
    intro p hp
    refine (hlogueado _ ?_).mp (hdespues p hp)
    exact (List.prefix_append_right_inj antes).mpr (List.cons_prefix_cons.mpr ⟨rfl, hp⟩)
  have hentra := hdentro [] List.nil_prefix
  rw [Sesion.ejecutar_concat] at hentra
  obtain ⟨⟨user, rfl⟩, -⟩ := Sesion.llamar_entrada hfuera hentra
  have hfilas := Sesion.filas_ejecutar hfuera hdentro
  rw [← hrefina.filas] at hfilas
  refine ⟨antes, user, despues, rfl, ⟨⟨hantes, hdespues [] List.nil_prefix⟩, ?_⟩, hfilas⟩
  rintro p d q rfl ⟨hno, -⟩
  exact hno (hdespues p (List.prefix_append _ _))

/-- User `1` logs in and gets a message; user `2` is saved, logs in and gets another. -/
def relevo : List Llamada :=
  [.insertUser { phone := bytes "1", isLogged := 1 }, .insertMessage ⟨bytes "a", bytes "m1", bytes "hola", bytes "h1", bytes "2"⟩,
    .insertUser { phone := bytes "2" }, .insertUser { phone := bytes "2", isLogged := 1 },
    .insertMessage ⟨bytes "a", bytes "m2", bytes "chau", bytes "h2", bytes "1"⟩]

theorem sesion_aislada_relevo : (Base.ejecutar relevo).Logueado (bytes "2") ∧ SesionAislada relevo := by
  have hvalidas : Validas relevo := by
    intro user hmem
    simp only [relevo, List.mem_cons, List.not_mem_nil, or_false, Llamada.insertUser.injEq, reduceCtorEq, false_or] at hmem
    rcases hmem with rfl | rfl | rfl
    · exact .inr rfl
    · exact .inl rfl
    · exact .inr rfl
  exact ⟨⟨_, List.mem_cons_of_mem _ List.mem_cons_self, rfl, rfl⟩, sesion_aislada hvalidas⟩

end MensajeroX.Cliente
