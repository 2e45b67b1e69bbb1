import MensajeroX.Cliente.Tareas

/-!
# `AuthenticationActivity`

The login of the client: the user is fetched, with a new token, and saved as logged when the password is the one that was
typed. The tasks that need the token read it back from the table of users.

* `Base.getUser_insertUser` : **the logged user is read back** as it was saved;
* `onClick` : what a login does with the fields and with the user that was fetched.
-/

namespace MensajeroX.Cliente
open Bytes

/-- `getUser`: the user of the first logged row, a new object when there is none. -/
def Base.getUser (db : Base) : User :=
  match db.users.find? (·.isLogged = 1) with
  | none => {}
  | some f => f.user

theorem Boolean.valueOf_toString (b : Bool) : valueOf (toString b) = b := by
  cases b <;> rfl

theorem UserEntry.user_values (user : User) (id : Nat) : (user.values id).user = { user with id := id } := by
  rw [User.values, UserEntry.user, Boolean.valueOf_toString]

theorem Refina.exists_row {s : Sesion} {db : Base} (h : Refina s db) {user : User} :
    ∃ id, user.values id ∈ (db.insertUser user).2.users := by
  cases hfind : db.users.find? (·.phone = user.phone) with
  | none =>
    rw [Base.insertUser_nuevo hfind]
    exact ⟨_, List.mem_append_right _ List.mem_cons_self⟩
  | some f =>
    have hf := List.mem_of_find?_eq_some hfind
    rw [Base.insertUser_existente hfind (h.positivos f hf)]
    refine ⟨f.id, ?_⟩
    split
    · exact List.mem_map.mpr ⟨{ f with isLogged := 0 }, List.mem_map.mpr ⟨f, hf, rfl⟩, if_pos rfl⟩
    · exact List.mem_map.mpr ⟨f, hf, if_pos rfl⟩

/-- **The logged user is read back** as it was saved. -/
theorem Base.getUser_insertUser {s : Sesion} {db : Base} (h : Refina s db) {user : User} (hflag : user.isLogged = 1) :
    ∃ id, (db.insertUser user).2.getUser = { user with id := id } := by
  obtain ⟨id, hrow⟩ := @Refina.exists_row s db h user
  have h' := h.insertUser (.inr hflag)
  cases hfind : (db.insertUser user).2.users.find? (·.isLogged = 1) with
  | none => exact absurd (List.find?_eq_none.mp hfind _ hrow) (by simp [User.values, hflag])
  | some f =>
    have hf := List.mem_of_find?_eq_some hfind
    have hlogged : f.isLogged = 1 := by simpa using List.find?_some hfind
    -- one telephone is logged, and no two rows have it
    have hphone : f.phone = user.phone := Option.some.inj
      (((h'.logueado_iff _).mp ⟨f, hf, rfl, hlogged⟩).symm.trans ((h'.logueado_iff _).mp ⟨_, hrow, rfl, hflag⟩))
    have hmismo : f = user.values id := List.inj_on_of_nodup_map h'.telefonos hf hrow hphone
    refine ⟨id, ?_⟩
    rw [getUser, hfind, hmismo]
    exact UserEntry.user_values user id

inductive Aviso where
  | showEmptyFieldMessage
  | showFailConnectionServerMessage
  | showErrorMessage
  | showWrongPasswordMessage
deriving DecidableEq, Repr

def logUserIn (db : Base) (returnedUser : User) : Base := (db.insertUser { returnedUser with isLogged := 1 }).2

/-- `authenticate`, with what the task has brought. -/
def authenticate (db : Base) (insertedPassword : Cadena) (returnedUser : Option (User × Bool)) : Except Aviso Base :=
  match returnedUser with
  | none => .error .showFailConnectionServerMessage
  | some (user, findUser) =>
    if !findUser then .error .showErrorMessage
    else if insertedPassword = user.password then .ok (logUserIn db user)
    else .error .showWrongPasswordMessage

/-- `onClick` on the button of the login, with what the task has brought. -/
def onClick (db : Base) (phone password : Cadena) (returnedUser : Option (User × Bool)) : Except Aviso Base :=
  if phone = [] ∨ password = [] then .error .showEmptyFieldMessage else authenticate db password returnedUser

end MensajeroX.Cliente
