import MensajeroX.Cliente.Autenticacion
import MensajeroX.Propiedades.Consultas
import MensajeroX.Sistema.Mensajes

/-!
# Sessions over the network

A client that logs in keeps the token that the server has issued for it, and its requests carry that token. The server
renews a token for whoever asks, before anyone has compared a password.

* `Servidor.tokenTras` : the token of a user after renewals;
* `Representa.token_corrida` : **the last renewal of a user is their token**, after any requests;
* `Sistema.sesion_vigente` : **how long a session lasts**, and what becomes of a message after that;
* `Sistema.intento_cierra_sesion` : **a failed login ends the session** of the user.
-/

namespace MensajeroX
open Bytes JsonCpp BaseDeDatos Efectos Servicio Cliente
open Mongoose (Solicitud)

/-! ## The token of a user -/

/-- The token of the user `k` after renewals, when it was `token` before them. -/
def Servidor.tokenTras (k token : Cadena) (renovaciones : List (Cadena × Cadena)) : Cadena :=
  ((renovaciones.filter (·.1 = k)).getLast?.map fun x => md5 x.2).getD token

theorem Servidor.tokenTras_of_forall {k : Cadena} {xs : List (Cadena × Cadena)} (h : ∀ x ∈ xs, x.1 ≠ k) (token : Cadena) :
    tokenTras k token xs = token := by
  have hnone : xs.filter (·.1 = k) = [] := by simpa [List.filter_eq_nil_iff] using h
  rw [tokenTras, hnone]
  rfl

theorem Servidor.tokenTras_append (k token : Cadena) (xs ys : List (Cadena × Cadena)) :
    tokenTras k token (xs ++ ys) = tokenTras k (tokenTras k token xs) ys := by
  rw [tokenTras, tokenTras, List.filter_append, List.getLast?_append]
  cases (ys.filter (·.1 = k)).getLast? <;> rfl

section Tokens
variable [Aritmetica] {C : Central} {d : Cadena → Option Cadena} (h : Representa C d) (lugares : Value)
include h

theorem Representa.renueva_eq_some_iff {p : Peticion} {x : Cadena × Cadena} :
    Servidor.renueva { datos := d } p = some x ↔
      ∃ t u, Servidor.parsearURI p = .consultarUsuarioOnline ∧
        StringUtil.toBoolean (getParametro p keyRenovarToken keyDefault) = true ∧
        idMetodoGET p urlBaseUsuario = .ok t ∧ C.usuarios (md5 t) = some u ∧ x = (u.id, u.telefono ++ p.ctime.val) := by
  constructor
  · intro hx
    unfold Servidor.renueva at hx
    split_ifs at hx with hruta
    cases hid : idMetodoGET p urlBaseUsuario with
    | error e =>
      rw [hid] at hx
      cases hx
    | ok t =>
      have hrun : (Usuario.obtenerPorTelefono t).run { db := { datos := d } } = .ok (C.usuario (md5 t)) (.sano d []) :=
        h.run_getUsuario [] (md5 t)
      rw [hid] at hx
      dsimp only at hx
      rw [hrun] at hx
      cases hu : C.usuarios (md5 t) with
      | none =>
        rw [Central.usuario_eq_none hu] at hx
        exact absurd hx (by simp [Usuario.noEncontrado])
      | some u =>
        rw [Central.usuario_eq_some hu] at hx
        dsimp only at hx
        rw [if_pos u.id_ne_noEncontrado] at hx
        exact ⟨t, u, hruta.1, hruta.2, rfl, hu, (Option.some.inj hx).symm⟩
  · rintro ⟨t, u, hruta, hrenovar, hid, hu, rfl⟩
    exact h.renueva hruta hrenovar hid hu

/-- A request changes the token of a user exactly when it renews it. -/
theorem Representa.token_atender (p : Peticion) {k : Cadena} {u : Registrado} (hu : C.usuarios k = some u) :
    ∃ v, (C.atender lugares p).central.usuarios k = some v ∧
      v.token = Servidor.tokenTras k u.token (Servidor.renueva { datos := d } p).toList := by
  cases hx : Servidor.renueva { datos := d } p with
  | some x =>
    obtain ⟨t, w, hruta, hrenovar, hid, hw, rfl⟩ := h.renueva_eq_some_iff.mp hx
    rw [(Central.Escribe.conexion hruta hid hw).central]
    by_cases hk : w.id = k
    · subst hk
      refine ⟨w.conConexion p, Function.update_self .., ?_⟩
      simp [Servidor.tokenTras, Registrado.conConexion, hrenovar]
    · refine ⟨u, (Function.update_of_ne (Ne.symm hk) ..).trans hu, ?_⟩
      simp [Servidor.tokenTras, hk]
  | none =>
    obtain ⟨v, hv, rfl | ⟨hescribe, rfl⟩⟩ := Central.usuarios_atender_some (p := p) lugares hu
    · exact ⟨v, hv, rfl⟩
    · refine ⟨v, hv, ?_⟩
      have hmismo : ∀ {k' : Cadena} {w : Registrado}, C.usuarios k' = some w → C.usuarios w.id = some u → w = u := by
        intro k' w hw hwu
        rw [C.claves k' w hw, hw] at hwu
        exact Option.some.inj hwu
      cases hescribe with
      | alta hp hnuevo =>
        rw [show (Registrado.alta p).id = md5 (getParametro p keyTelefono keyDefault) from rfl, hnuevo] at hu
        cases hu
      | perfil hp hw htoken =>
        obtain rfl := hmismo hw hu
        rfl
      | localizacion hp hw hubicacion =>
        obtain rfl := hmismo hw hu
        rfl
      | conexion hp hid hw =>
        obtain rfl := hmismo hw hu
        by_cases hrenovar : StringUtil.toBoolean (getParametro p keyRenovarToken keyDefault) = true
        · rw [h.renueva hp hrenovar hid hw] at hx
          cases hx
        · exact if_neg hrenovar

end Tokens

/-- **The last renewal of a user is their token**, after any requests. -/
theorem Representa.token_corrida [Aritmetica] {C : Central} {d : Cadena → Option Cadena} (h : Representa C d)
    (lugares : Value) (ps : List Peticion) {k : Cadena} {u : Registrado} (hu : C.usuarios k = some u) :
    ∃ v, (C.ejecutar lugares ps).usuarios k = some v ∧
      v.token = Servidor.tokenTras k u.token (Servidor.renovaciones lugares { datos := d } ps) := by
  induction ps generalizing C d u with
  | nil => exact ⟨u, hu, rfl⟩
  | cons p ps ih =>
    obtain ⟨v, hv, htoken⟩ := h.token_atender lugares p hu
    obtain ⟨d', hatender, h'⟩ := h.atender lugares p
    obtain ⟨w, hw, htoken'⟩ := ih h' hv
    refine ⟨w, hw, ?_⟩
    rw [htoken', htoken, Servidor.renovaciones, Servidor.tokenTras_append, hatender]

/-! ## Logging in -/

/-- What a query shows of a user has no `%`. -/
structure Usuario.Llano (u : Usuario) : Prop where
  nombre : (0x25 : UInt8) ∉ u.nombre
  password : (0x25 : UInt8) ∉ u.password
  fotoDePerfil : (0x25 : UInt8) ∉ u.fotoDePerfil
  localizacion : (0x25 : UInt8) ∉ u.localizacion

theorem porcentaje_usuarioJson [LibC] {u : Usuario} (hu : u.Llano) (htoken : (0x25 : UInt8) ∉ u.token)
    (hid : (0x25 : UInt8) ∉ u.id) : (0x25 : UInt8) ∉ (usuarioJson u).toStyledString := by
  have hkeys : (0x25 : UInt8) ∉ keyEstadoDeConexion ∧ (0x25 : UInt8) ∉ keyFotoDePerfil ∧
      (0x25 : UInt8) ∉ keyLocalizacion ∧ (0x25 : UInt8) ∉ keyNombre ∧ (0x25 : UInt8) ∉ keyPassword ∧
      (0x25 : UInt8) ∉ keyTokenSesion ∧ (0x25 : UInt8) ∉ bytes "idUsuario" := by decide
  have hestado : (0x25 : UInt8) ∉ StringUtil.toString u.conectado := by
    cases u.conectado <;> decide
  rw [usuarioJson_eq, porcentaje_transparent.mem_toStyledString (camposUsuario_flat u)]
  simp only [camposUsuario, List.mem_cons, List.not_mem_nil, or_false, exists_eq_or_imp, exists_eq_left, leafText, hkeys,
    hestado, hu.nombre, hu.password, hu.fotoDePerfil, hu.localizacion, htoken, hid, or_self, not_false_eq_true]

/-- A message with a wrong token is refused, and the store is left as it is. -/
theorem Representa.atender_sin_token [Aritmetica] {C : Central} {d : Cadena → Option Cadena} (h : Representa C d)
    (lugares : Value) {p : Peticion} (hp : Servidor.parsearURI p = .almacenarConversacion) {e u : Registrado}
    (he : C.usuarios p.emisor = some e) (hu : C.usuarios p.receptor = some u)
    (htoken : e.token ≠ getParametro p keyTokenSesion keyDefault) :
    Servidor.atender lugares { datos := d } p = .sano d [respuesta (textoSinToken e.toUsuario) false] := by
  rw [Servidor.atender, Servidor.administrarServicio, hp]
  dsimp only
  rw [Servicio.almacenarConversacion, bind_ok (h.run_obtenerPorTelefono [] _ he), bind_ok (h.run_obtenerPorTelefono [] _ hu),
    if_neg (not_or.mpr ⟨e.id_ne_noEncontrado, u.id_ne_noEncontrado⟩), if_neg htoken]
  rfl

namespace Sistema
variable [Aritmetica] [OrgJson] [HttpClient]

section Login
variable {C : Central} {d : Cadena → Option Cadena} (h : Representa C d) (lugares : Value) {r : Solicitud} (reloj : Reloj)
  {phone : Segmento} (hphone : phone.val ≠ []) (hlargo : phone.val.length ≤ 254)
  (hr : (Service.fetchUserData phone true).Ejecuta .GET r) {u : Registrado} (hu : C.usuarios (md5 phone.val) = some u)
include h hphone hlargo hr hu

omit [OrgJson] in
theorem renueva_login :
    Servidor.renueva { datos := d } (peticionDe r.peticion reloj) =
      some (md5 phone.val, u.telefono ++ reloj.ctime.val) := by
  obtain ⟨hruta, hid, hrenovar⟩ := Service.fetchUserData_recibido reloj hr hphone hlargo
  rw [h.renueva hruta hrenovar hid hu, C.claves _ _ hu]
  rfl

theorem usuario_login (hllano : u.Llano) :
    FetchUserData.doInBackground phone.val (RestClient.getResponse lugares { datos := d } r reloj) =
      some ({ User.deUsuario phone.val u.toUsuario with tokenSesion := md5 (u.telefono ++ reloj.ctime.val) }, true) := by
  obtain ⟨hruta, hid, hrenovar⟩ := Service.fetchUserData_recibido reloj hr hphone hlargo
  have hconexion : conexion (peticionDe r.peticion reloj) u.toUsuario =
      { u.toUsuario with
        ultimaConexion := reloj.ctime.val
        token := md5 (u.telefono ++ reloj.ctime.val) } := if_pos hrenovar
  have hsalidas : (Servidor.atender lugares { datos := d } (peticionDe r.peticion reloj)).salidas =
      [respuesta (usuarioJson (conexion (peticionDe r.peticion reloj) u.toUsuario)).toStyledString true] := by
    rw [h.atender_consulta lugares hruta hid hu]
  have hporcentaje : (0x25 : UInt8) ∉
      (usuarioJson (conexion (peticionDe r.peticion reloj) u.toUsuario)).toStyledString := by
    rw [hconexion]
    refine porcentaje_usuarioJson ⟨hllano.nombre, hllano.password, hllano.fotoDePerfil, hllano.localizacion⟩
      (not_mem_md5 (by decide) _) ?_
    show (0x25 : UInt8) ∉ u.id
    rw [u.id_eq]
    exact not_mem_md5 (by decide) _
  rw [FetchUserData.doInBackground_usuario phone.val (RestClient.esRespuesta_getResponse hsalidas hporcentaje), hconexion]
  rfl

theorem cliente_login (hllano : u.Llano) (hpassword : u.password ≠ []) {llamadas : List Llamada}
    (hllamadas : Validas llamadas) :
    ∃ base, onClick (.ejecutar llamadas) phone.val u.password (FetchUserData.doInBackground phone.val
        (RestClient.getResponse lugares { datos := d } r reloj)) = .ok base ∧
      base.getUser.phone = phone.val ∧ base.getUser.tokenSesion = md5 (u.telefono ++ reloj.ctime.val) := by
  rw [usuario_login h lugares reloj hphone hlargo hr hu hllano]
  refine ⟨_, (if_neg (not_or.mpr ⟨hphone, hpassword⟩)).trans (if_pos rfl), ?_⟩
  obtain ⟨id, hget⟩ := @Base.getUser_insertUser _ _ (refina_ejecutar hllamadas) { User.deUsuario phone.val u.toUsuario with
    tokenSesion := md5 (u.telefono ++ reloj.ctime.val), isLogged := 1 } rfl
  exact ⟨congrArg User.phone hget, congrArg User.tokenSesion hget⟩

end Login

omit [OrgJson] in
theorem servidor_login (lugares : Value) (ps qs : List Peticion) {phone : Segmento} (hphone : phone.val ≠ [])
    (hlargo : phone.val.length ≤ 254) {u : Registrado}
    (hu : (Central.vacia.ejecutar lugares ps).usuarios (md5 phone.val) = some u) {r : Solicitud}
    (hr : (Service.fetchUserData phone true).Ejecuta .GET r) (reloj : Reloj) :
    let p := peticionDe r.peticion reloj
    ∃ v, (Central.vacia.ejecutar lugares (ps ++ p :: qs)).usuarios (md5 phone.val) = some v ∧
      v.token = Servidor.tokenTras (md5 phone.val) (md5 (u.telefono ++ reloj.ctime.val))
        (Servidor.renovaciones lugares (Servidor.ejecutar lugares .vacia (ps ++ [p])) qs) := by
  intro p
  obtain ⟨d₀, -, h₀⟩ := ejecutar_vacia lugares ps
  obtain ⟨d₁, hdb₁, h₁⟩ := ejecutar_vacia lugares (ps ++ [p])
  obtain ⟨v, hv, htoken⟩ := h₀.token_atender lugares p hu
  have hv : (Central.vacia.ejecutar lugares (ps ++ [p])).usuarios (md5 phone.val) = some v := by
    rw [Central.ejecutar_append]
    exact hv
  obtain ⟨w, hw, htoken'⟩ := h₁.token_corrida lugares qs hv
  rw [← Central.ejecutar_append, List.append_assoc, List.singleton_append] at hw
  refine ⟨w, hw, ?_⟩
  rw [htoken', htoken, renueva_login h₀ reloj hphone hlargo hr hu, hdb₁]
  simp [Servidor.tokenTras]

omit [OrgJson] in
/-- A login sends no message. -/
theorem limpia_login (lugares : Value) {ps qs : List Peticion} (hps : ∀ p ∈ ps ++ qs, p.Limpia) {phone : Segmento}
    (hphone : phone.val ≠ []) (hlargo : phone.val.length ≤ 254) {r : Solicitud}
    (hr : (Service.fetchUserData phone true).Ejecuta .GET r) (reloj : Reloj) :
    (Central.vacia.ejecutar lugares (ps ++ peticionDe r.peticion reloj :: qs)).Limpia := by
  obtain ⟨hruta, -, -⟩ := Service.fetchUserData_recibido reloj hr hphone hlargo
  refine Central.todos_ejecutar Central.recargar_limpia (fun q hq henvia => ?_) (Central.todos_vacia _) lugares
  rw [List.mem_append, List.mem_cons] at hq
  obtain hq | rfl | hq := hq
  · exact (hps q (List.mem_append_left _ hq)).mensaje
  · rw [Peticion.Envia, hruta] at henvia
    exact absurd henvia (by decide)
  · exact (hps q (List.mem_append_right _ hq)).mensaje

/-! ## Sending in a session -/

section Envio
variable {C : Central} {d : Cadena → Option Cadena} (h : Representa C d) (lugares : Value)
  {transmitter receiver body date tokenSesion : Cadena}
  (hcabe : ∀ v ∈ [transmitter, receiver, body, date, tokenSesion], Cabe v) {e u : Registrado}
  (he : C.usuarios (md5 transmitter) = some e) (hu : C.usuarios (md5 receiver) = some u) {r : Solicitud}
  (hr : (Service.sendNewMessage transmitter receiver body date tokenSesion).Ejecuta .POST r) (reloj : Reloj)
include h hcabe he hu hr

/-- With the token of the sender the message is delivered, and the client gets its id. -/
theorem envio_aceptado (hC : C.Limpia) (htoken : e.token = tokenSesion) :
    leerId (RestClient.getResponse lugares { datos := d } r reloj) = some (Mensaje.nuevo body (md5 transmitter) date).id ∧
    Servidor.entregados lugares { datos := d } (peticionDe r.peticion reloj) (md5 transmitter) (md5 receiver) =
      [Mensaje.nuevo body (md5 transmitter) date] := by
  simp only [List.mem_cons, List.not_mem_nil, or_false, forall_eq_or_imp, forall_eq] at hcabe
  obtain ⟨hruta, hemisor, hreceptor, hparametro, hmensaje⟩ := Service.sendNewMessage_recibido reloj hr hcabe.1 hcabe.2.1
    hcabe.2.2.1 hcabe.2.2.2.1 hcabe.2.2.2.2
  rw [← hemisor] at he
  rw [← hreceptor] at hu
  obtain ⟨hsalidas, hentregados⟩ := salidas_enviado h lugares hC hruta he hu (htoken.trans hparametro.symm)
  have hid : (0x25 : UInt8) ∉ (peticionDe r.peticion reloj).mensaje.id := not_mem_md5 (by decide) _
  rw [(RestClient.esRespuesta_getResponse hsalidas hid).leerId, ← hemisor, ← hreceptor, hentregados, hmensaje, hemisor]
  exact ⟨rfl, rfl⟩

/-- With another one nothing is stored, and the client takes the text of the refusal for the id. -/
theorem envio_rechazado (htoken : e.token ≠ tokenSesion) :
    (Servidor.atender lugares { datos := d } (peticionDe r.peticion reloj)).db = { datos := d } ∧
    ((0x25 : UInt8) ∉ e.nombre →
      leerId (RestClient.getResponse lugares { datos := d } r reloj) = some (textoSinToken e.toUsuario)) := by
  simp only [List.mem_cons, List.not_mem_nil, or_false, forall_eq_or_imp, forall_eq] at hcabe
  obtain ⟨hruta, hemisor, hreceptor, hparametro, -⟩ := Service.sendNewMessage_recibido reloj hr hcabe.1 hcabe.2.1
    hcabe.2.2.1 hcabe.2.2.2.1 hcabe.2.2.2.2
  rw [← hemisor] at he
  rw [← hreceptor] at hu
  have hatender := h.atender_sin_token lugares hruta he hu (hparametro ▸ htoken)
  refine ⟨by rw [hatender], fun hnombre => ?_⟩
  have htexto : (0x25 : UInt8) ∉ textoSinToken e.toUsuario := by
    simp only [textoSinToken, List.mem_append, not_or]
    exact ⟨⟨by decide, hnombre⟩, by decide⟩
  have hsalidas : (Servidor.atender lugares { datos := d } (peticionDe r.peticion reloj)).salidas =
      [respuesta (textoSinToken e.toUsuario) false] := by rw [hatender]
  exact (RestClient.esRespuesta_getResponse hsalidas htexto).leerId

end Envio

/-- **How long a session lasts.** The login of a registered user succeeds, and the client keeps the token that the server
has stored. After any further requests its messages are delivered as long as the last renewal of the user, if there was
one, has the same hash. After that nothing is stored, and the client takes the refusal for the id of its message. -/
theorem sesion_vigente (lugares : Value) {ps qs : List Peticion} (hps : ∀ p ∈ ps ++ qs, p.Limpia) {phone : Segmento}
    (hphone : phone.val ≠ []) (hlargo : phone.val.length ≤ 254) {u : Usuario}
    (hu : (Servidor.ejecutar lugares .vacia ps).usuarioDe (md5 phone.val) = some u) (hllano : u.Llano)
    (hpassword : u.password ≠ []) {llamadas : List Llamada} (hllamadas : Validas llamadas) {login : Solicitud}
    (hlogin : (Service.fetchUserData phone true).Ejecuta .GET login) (reloj : Reloj) :
    let p := peticionDe login.peticion reloj
    let db := Servidor.ejecutar lugares .vacia (ps ++ p :: qs)
    ∃ base, onClick (.ejecutar llamadas) phone.val u.password (FetchUserData.doInBackground phone.val
        (RestClient.getResponse lugares (Servidor.ejecutar lugares .vacia ps) login reloj)) = .ok base ∧
      base.getUser.phone = phone.val ∧
      ∀ receiver body date r reloj', db.tieneUsuario (md5 receiver) → (∀ v ∈ [receiver, body, date], Cabe v) →
        (Service.sendNewMessage base.getUser.phone receiver body date base.getUser.tokenSesion).Ejecuta .POST r →
        let m := Mensaje.nuevo body (md5 phone.val) date
        if Servidor.tokenTras (md5 phone.val) base.getUser.tokenSesion
            (Servidor.renovaciones lugares (Servidor.ejecutar lugares .vacia (ps ++ [p])) qs) = base.getUser.tokenSesion then
          leerId (RestClient.getResponse lugares db r reloj') = some m.id ∧
          Servidor.entregados lugares db (peticionDe r.peticion reloj') (md5 phone.val) (md5 receiver) = [m]
        else
          (Servidor.atender lugares db (peticionDe r.peticion reloj')).db = db ∧
          ∃ v, db.usuarioDe (md5 phone.val) = some v ∧ ((0x25 : UInt8) ∉ v.nombre →
            leerId (RestClient.getResponse lugares db r reloj') = some (textoSinToken v)) := by
  intro p db
  obtain ⟨d, hdb, h⟩ := ejecutar_vacia lugares ps
  rw [hdb, h.usuarioDe] at hu
  obtain ⟨e, he, rfl⟩ := Option.map_eq_some_iff.mp hu
  obtain ⟨base, hbase, hphone', htoken⟩ := cliente_login h lugares reloj hphone hlargo hlogin he hllano
    hpassword hllamadas
  obtain ⟨d', hdb', h'⟩ := ejecutar_vacia lugares (ps ++ p :: qs)
  obtain ⟨v, hv, htoken'⟩ := servidor_login lugares ps qs hphone hlargo he hlogin reloj
  refine ⟨base, by rw [hdb]; exact hbase, hphone', ?_⟩
  rw [hphone', show db = { datos := d' } from hdb']
  intro receiver body date r reloj' hreceiver hcabe hr
  rw [h'.tieneUsuario] at hreceiver
  obtain ⟨u, hu⟩ := Option.isSome_iff_exists.mp hreceiver
  have hcabe' : ∀ w ∈ [phone.val, receiver, body, date, base.getUser.tokenSesion], Cabe w := by
    have hhash : Cabe (md5 (e.telefono ++ reloj.ctime.val)) :=
      ⟨not_mem_md5 (by decide) _, by rw [length_md5]; decide⟩
    rw [htoken]
    simp only [List.mem_cons, List.not_mem_nil, or_false, forall_eq_or_imp, forall_eq] at hcabe ⊢
    exact ⟨phone.cabe hlargo, hcabe.1, hcabe.2.1, hcabe.2.2, hhash⟩
  rw [← htoken] at htoken'
  split
  · rename_i hmismo
    exact envio_aceptado h' lugares hcabe' hv hu hr reloj' (limpia_login lugares hps hphone hlargo hlogin reloj)
      (htoken'.trans hmismo)
  · rename_i hotro
    obtain ⟨hnada, hrespuesta⟩ := envio_rechazado h' lugares hcabe' hv hu hr reloj' fun heq =>
      hotro (htoken'.symm.trans heq)
    exact ⟨hnada, v.toUsuario, by rw [h'.usuarioDe, hv]; rfl, hrespuesta⟩

/-- **A failed login ends the session of the user.** Whoever asks for a user with the wrong password is turned away by
their own client, after the server has renewed the token. Until the user asks for another one, nothing that is sent with
the token from before is stored. -/
theorem intento_cierra_sesion (lugares : Value) {ps qs : List Peticion} {phone : Segmento} (hphone : phone.val ≠ [])
    (hlargo : phone.val.length ≤ 254) {u : Usuario}
    (hu : (Servidor.ejecutar lugares .vacia ps).usuarioDe (md5 phone.val) = some u) (hllano : u.Llano)
    {insertedPassword : Cadena} (hvacia : insertedPassword ≠ []) (hpassword : insertedPassword ≠ u.password)
    {intento : Solicitud}
    (hintento : (Service.fetchUserData phone true).Ejecuta .GET intento) {reloj : Reloj}
    (hreloj : md5 (u.telefono ++ reloj.ctime.val) ≠ u.token)
    (hqs : ∀ x ∈ Servidor.renovaciones lugares (Servidor.ejecutar lugares .vacia
      (ps ++ [peticionDe intento.peticion reloj])) qs, x.1 ≠ md5 phone.val) :
    let db := Servidor.ejecutar lugares .vacia (ps ++ peticionDe intento.peticion reloj :: qs)
    (∀ base, onClick base phone.val insertedPassword (FetchUserData.doInBackground phone.val
      (RestClient.getResponse lugares (Servidor.ejecutar lugares .vacia ps) intento reloj)) =
        .error .showWrongPasswordMessage) ∧
    ∀ receiver body date r reloj', db.tieneUsuario (md5 receiver) → (∀ v ∈ [receiver, body, date], Cabe v) →
      (Service.sendNewMessage phone.val receiver body date u.token).Ejecuta .POST r →
      (Servidor.atender lugares db (peticionDe r.peticion reloj')).db = db := by
  intro db
  obtain ⟨d, hdb, h⟩ := ejecutar_vacia lugares ps
  rw [hdb, h.usuarioDe] at hu
  obtain ⟨e, he, rfl⟩ := Option.map_eq_some_iff.mp hu
  obtain ⟨d', hdb', h'⟩ := ejecutar_vacia lugares (ps ++ peticionDe intento.peticion reloj :: qs)
  obtain ⟨v, hv, htoken⟩ := servidor_login lugares ps qs hphone hlargo he hintento reloj
  rw [Servidor.tokenTras_of_forall hqs] at htoken
  refine ⟨fun base => ?_, ?_⟩
  · rw [hdb, usuario_login h lugares reloj hphone hlargo hintento he hllano]
    exact (if_neg (not_or.mpr ⟨hphone, hvacia⟩)).trans (if_neg hpassword)
  · rw [show db = { datos := d' } from hdb']
    intro receiver body date r reloj' hreceiver hcabe hr
    rw [h'.tieneUsuario] at hreceiver
    obtain ⟨w, hw⟩ := Option.isSome_iff_exists.mp hreceiver
    have hcabe' : ∀ w ∈ [phone.val, receiver, body, date, e.token], Cabe w := by
      simp only [List.mem_cons, List.not_mem_nil, or_false, forall_eq_or_imp, forall_eq] at hcabe ⊢
      exact ⟨phone.cabe hlargo, hcabe.1, hcabe.2.1, hcabe.2.2, cabe_token lugares he⟩
    exact (envio_rechazado h' lugares hcabe' hv hw hr reloj' (htoken ▸ hreloj)).1

end Sistema

namespace Sistema
attribute [local instance] Aritmetica.nula OrgJson.deJsonCpp HttpClient.simple
open RestClient (ejecuta_solicitud)

/-- The registrations of the telephone `1`, with a password, and of the telephone `2`. -/
def inscritos : List Peticion :=
  let registro := Peticion.registro (bytes "2")
  [.con registro.metodo registro.uri [(keyTelefono, bytes "1"), (keyPassword, bytes "clave")], registro]

def telefonoUno : Segmento := ⟨bytes "1", by decide +kernel, by decide⟩

/-- The user with the telephone `1`, before they log in. -/
def usuarioUno : Usuario := .nuevo [] (bytes "1") (bytes "clave") (bytes "Thu Jan  1 00:00:00 1970")

def ingreso : Solicitud :=
  (Service.fetchUserData telefonoUno true).solicitud .GET (by decide +kernel) (by decide +kernel) (by decide +kernel)

theorem sesion_vigente_uno :
    let db := Servidor.ejecutar .null .vacia (inscritos ++ [peticionDe ingreso.peticion Red.relojParado])
    ∃ base, onClick (.ejecutar []) (bytes "1") (bytes "clave") (FetchUserData.doInBackground (bytes "1")
        (RestClient.getResponse .null (Servidor.ejecutar .null .vacia inscritos) ingreso Red.relojParado)) = .ok base ∧
      ∀ r, (Service.sendNewMessage base.getUser.phone (bytes "2") (bytes "hola") (bytes "10:00")
          base.getUser.tokenSesion).Ejecuta .POST r →
        leerId (RestClient.getResponse .null db r Red.relojParado) = some (md5 (md5 (bytes "1") ++ bytes "10:00")) := by
  have hlimpia : ∀ p ∈ inscritos ++ [], p.Limpia := by decide +kernel
  have hu : (Servidor.ejecutar .null .vacia inscritos).usuarioDe (md5 (bytes "1")) =
      some usuarioUno := by
    rw [usuarioDe_ejecutar]
    decide +kernel
  have hdos : (Servidor.ejecutar .null .vacia (inscritos ++ [peticionDe ingreso.peticion Red.relojParado])).tieneUsuario
      (md5 (bytes "2")) := by
    rw [tieneUsuario_ejecutar]
    decide +kernel
  have hcabe : ∀ v ∈ [bytes "2", bytes "hola", bytes "10:00"], Cabe v := by decide
  have hingreso : (Service.fetchUserData telefonoUno true).Ejecuta .GET ingreso := ejecuta_solicitud _ _ _ _ _
  obtain ⟨base, hbase, -, henvio⟩ := @sesion_vigente _ _ _ .null inscritos [] hlimpia telefonoUno (by decide) (by decide)
    _ hu ⟨by decide, by decide, by decide, by decide⟩ (by decide) [] (fun user huser => absurd huser List.not_mem_nil) _ hingreso
    Red.relojParado
  refine ⟨base, hbase, fun r hr => ?_⟩
  have hmensaje := henvio _ _ _ r Red.relojParado hdos hcabe hr
  exact ((if_pos (Servidor.tokenTras_of_forall (fun x hx => absurd hx List.not_mem_nil) _)).mp hmensaje).1

def relojSiguiente : Reloj := { Red.relojParado with ctime := { val := bytes "Fri Jan  2 00:00:01 1970" } }

theorem intento_cierra_sesion_uno :
    let db := Servidor.ejecutar .null .vacia (inscritos ++ [peticionDe ingreso.peticion Red.relojParado,
      peticionDe ingreso.peticion relojSiguiente])
    ∀ r, (Service.sendNewMessage (bytes "1") (bytes "2") (bytes "hola") (bytes "10:00")
        (md5 (bytes "1Fri Jan  2 00:00:00 1970"))).Ejecuta .POST r →
      (Servidor.atender .null db (peticionDe r.peticion Red.relojParado)).db = db := by
  have hcampos : ((Servidor.ejecutar .null .vacia (inscritos ++ [peticionDe ingreso.peticion Red.relojParado])).usuarioDe
      (md5 (bytes "1"))).map (fun u => [u.nombre, u.password, u.fotoDePerfil, u.localizacion, u.telefono, u.token]) =
        some [[], bytes "clave", bytes "default", bytes "desconocida", bytes "1", md5 (bytes "1Fri Jan  2 00:00:00 1970")] := by
    rw [usuarioDe_ejecutar]
    decide +kernel
  obtain ⟨u, hu, hcampos⟩ := Option.map_eq_some_iff.mp hcampos
  obtain ⟨hnombre, hpassword, hfoto, hlocalizacion, htelefono, htoken⟩ : u.nombre = [] ∧ u.password = bytes "clave" ∧
      u.fotoDePerfil = bytes "default" ∧ u.localizacion = bytes "desconocida" ∧ u.telefono = bytes "1" ∧
      u.token = md5 (bytes "1Fri Jan  2 00:00:00 1970") := by
    simpa only [List.cons.injEq, and_true] using hcampos
  have hdos : (Servidor.ejecutar .null .vacia (inscritos ++ [peticionDe ingreso.peticion Red.relojParado,
      peticionDe ingreso.peticion relojSiguiente])).tieneUsuario (md5 (bytes "2")) := by
    rw [tieneUsuario_ejecutar]
    decide +kernel
  have hcabe : ∀ v ∈ [bytes "2", bytes "hola", bytes "10:00"], Cabe v := by decide
  have hllano : u.Llano :=
    ⟨by rw [hnombre]; decide, by rw [hpassword]; decide, by rw [hfoto]; decide, by rw [hlocalizacion]; decide⟩
  have hreloj : md5 (u.telefono ++ relojSiguiente.ctime.val) ≠ u.token := by
    rw [htelefono, htoken]
    decide +kernel
  obtain ⟨-, henvio⟩ := @intento_cierra_sesion _ _ _ .null (inscritos ++ [peticionDe ingreso.peticion Red.relojParado]) []
    telefonoUno (by decide) (by decide) u hu hllano (bytes "x") (by decide) (by rw [hpassword]; decide) ingreso
    (ejecuta_solicitud _ _ _ _ _) relojSiguiente hreloj (fun x hx => absurd hx List.not_mem_nil)
  rw [htoken] at henvio
  exact fun r hr => henvio _ _ _ r Red.relojParado hdos hcabe hr

end Sistema

end MensajeroX
