import MensajeroX.WebServer.Aceptacion
import MensajeroX.Central.Ejecucion

/-!
# The server on the network

One process with many connections. The web server reads from its sockets in any order and a few bytes at a time; when a
request is complete the event handler runs it, in a thread that it waits for, on the one store. What the services print
goes back in chunks. An exception that leaves a service ends the process. A text that `printf` cannot print and a frame
whose length wraps around leave what is defined: from then on nothing is said (`Proceso.definido`).

* `peticionDe` : the request that the services see, `respuestaHTTP` : the bytes of an answer;
* `foldl_suceder` : a run of the network is a run of the process on the effects of its connections;
* `proceso_eq_correr`, `escrito_eq_tejer` : of the effects the process only sees the requests, in the order in which they
  became complete;
* `correr_turno_of_vivo` : on them it does what `Servidor.ejecutar` does;
* `red_segura` : **whatever happens on the sockets**, the store is one that the server reaches on accepted requests;
* `entrelazado_secuencial` : **any interleaving of well-formed requests is sequential**.
-/

namespace MensajeroX
open Bytes JsonCpp Chunked Servicio Mongoose Maquinas

structure Reloj where
  ctime : CString
  fechaYhora : CString

def tamanioBuffer : Nat := 1024 * 1024 * 2

/-- A request of the web server, as the services see it. -/
def peticionDe (conn : MgConnection) (reloj : Reloj) : Peticion where
  metodo := ⟨cstr conn.request_method, cstr_not_mem_zero _⟩
  uri := ⟨cstr conn.uri, cstr_not_mem_zero _⟩
  mg_get_var := fun nombre =>
    let r := Mongoose.mg_get_var conn nombre tamanioBuffer
    if r.1 < 0 then none else some r.2
  ctime := reloj.ctime
  fechaYhora := reloj.fechaYhora

/-! ## Answers -/

def IOBUF_SIZE : Nat := 8192

/-- What `ns_avprintf` leaves in the buffer, or in a larger one that it allocates. It takes a text that is exactly as long as
the buffer for one that fits, and the NUL stands in place of the last byte. -/
def ns_avprintf (size : Nat) (texto : Cadena) : Cadena := if texto.length = size then texto.dropLast ++ [0] else texto

def terminate_headers (status_code : Int) : Cadena :=
  (if status_code = 0 then bytes "HTTP/1.1 200 " ++ status_code_to_str 200 ++ crlf else []) ++
    bytes "Transfer-Encoding: chunked" ++ crlf ++ crlf

/-- The bytes of an answer: `mg_printf_data` for every text, and the terminating chunk. A request that prints nothing is
not answered. -/
def respuestaHTTP (status_code : Int) (textos : List Cadena) : Cadena :=
  if textos = [] then [] else terminate_headers status_code ++ encode (textos.map (ns_avprintf IOBUF_SIZE))

/-- What goes to a connection: bytes of the web server, or the texts that a service has printed. -/
inductive Escritura where
  | datos (datos : Cadena)
  | respuesta (conn : MgConnection) (textos : List Cadena)

/-- The bytes of what goes to a connection; the flag is `MG_HEADERS_SENT`. To a WebSocket the texts go in chunks that nothing
terminates, with one header before the first of them. -/
def escribir (headers_sent : Bool) : Escritura → Bool × Cadena
  | .datos datos => (headers_sent, datos)
  | .respuesta conn textos =>
    if conn.is_websocket then
      (headers_sent || !textos.isEmpty, (if headers_sent ∨ textos = [] then [] else terminate_headers conn.status_code) ++
        (textos.map (ns_avprintf IOBUF_SIZE)).flatMap chunk)
    else (false, respuestaHTTP conn.status_code textos)

/-! ## The process -/

/-- The process: its store, whether it still runs, and whether it has always done something that is defined. -/
structure Proceso where
  db : RocksDB
  vivo : Bool := true
  definido : Bool := true

section Proceso
variable [Aritmetica]

/-- `ev_handler` on `MG_REQUEST`: the process and what it prints. -/
def ev_handler (lugares : Value) (pr : Proceso) (conn : MgConnection) (reloj : Reloj) : Proceso × List Escritura :=
  if pr.vivo then
    match (Servidor.administrarServicio lugares (peticionDe conn reloj)).run { db := pr.db } with
    | .ok _ s =>
      match s.salidas.mapM enviado with
      | some textos => ({ pr with db := s.db }, [.respuesta conn textos])
      | none => ({ db := s.db, vivo := false, definido := false }, [])
    | .error _ s => ({ pr with db := s.db, vivo := false }, [])
  else (pr, [])

def emitir (lugares : Value) (pr : Proceso) (o : Efecto × Reloj) : Proceso × List Escritura :=
  if pr.vivo then
    match o.1 with
    | .ns_send datos => (pr, [.datos datos])
    | .MG_REQUEST conn => ev_handler lugares pr conn o.2
    | .desborde => ({ pr with vivo := false, definido := false }, [])
  else (pr, [])

end Proceso

structure Suceso where
  conexion : Nat
  evento : Evento
  reloj : Reloj

/-- The process, its connections and what has gone to each. A connection that is not closed has been accepted. -/
structure Red where
  proceso : Proceso
  conexiones : Nat → Option Connection := fun _ => some (libre false)
  escrito : Nat → List Escritura := fun _ => []

namespace Red
variable [Aritmetica] (lugares : Value)

def enviado (red : Red) (i : Nat) : Cadena := (correr escribir false (red.escrito i)).2

def aplicar (i : Nat) (red : Red) (o : Efecto × Reloj) : Red where
  proceso := (emitir lugares red.proceso o).1
  conexiones := red.conexiones
  escrito := Function.update red.escrito i (red.escrito i ++ (emitir lugares red.proceso o).2)

def conConexion (red : Red) (i : Nat) (conn : Option Connection) : Red :=
  { red with conexiones := Function.update red.conexiones i conn }

def suceder (red : Red) (l : Suceso) : Red :=
  if red.proceso.vivo then
    let r := pasar (red.conexiones l.conexion) l.evento
    r.2.foldl (fun red e => aplicar lugares l.conexion red (e, l.reloj)) (red.conConexion l.conexion r.1)
  else red

def ejecutar (db : RocksDB) (ls : List Suceso) : Red := ls.foldl (suceder lugares) { proceso := { db := db } }

/-! ## The effects of the connections -/

/-- An event of one connection; its effects remember the time. -/
def leer (conn : Option Connection) (e : Evento × Reloj) : Option Connection × List (Efecto × Reloj) :=
  ((pasar conn e.1).1, (pasar conn e.1).2.map fun o => (o, e.2))

def entrada (l : Suceso) : Nat × (Evento × Reloj) := (l.conexion, l.evento, l.reloj)

/-- The effects of all the connections, in their order. -/
def traza (conexiones : Nat → Option Connection) (ls : List Suceso) : List (Nat × (Efecto × Reloj)) :=
  (correr (entrelazar leer) conexiones (ls.map entrada)).2

/-- The effects of connections that have just been accepted. -/
def trazaDe (ls : List Suceso) : List (Nat × (Efecto × Reloj)) := traza (fun _ => some (libre false)) ls

def paso (pr : Proceso) (o : Nat × (Efecto × Reloj)) : Proceso × List (Nat × Escritura) :=
  ((emitir lugares pr o.2).1, (emitir lugares pr o.2).2.map fun w => (o.1, w))

variable {lugares}

theorem emitir_muerto {pr : Proceso} (h : pr.vivo = false) (o : Efecto × Reloj) : emitir lugares pr o = (pr, []) := by
  rw [emitir, if_neg (by simp [h])]

/-- A process that has ended does nothing more. -/
theorem correr_muerto {pr : Proceso} (h : pr.vivo = false) (t : List (Nat × (Efecto × Reloj))) :
    correr (paso lugares) pr t = (pr, []) := by
  induction t with
  | nil => rfl
  | cons o t ih =>
    rw [correr, paso, emitir_muerto h, ih]
    rfl

variable (lugares) in
theorem foldl_aplicar (i : Nat) (reloj : Reloj) (es : List Efecto) (red : Red) :
    let red' := es.foldl (fun red e => aplicar lugares i red (e, reloj)) red
    red'.proceso = (correr (paso lugares) red.proceso (es.map fun e => (i, e, reloj))).1 ∧
      red'.conexiones = red.conexiones ∧
      ∀ j, red'.escrito j =
        red.escrito j ++ propios j (correr (paso lugares) red.proceso (es.map fun e => (i, e, reloj))).2 := by
  induction es generalizing red with
  | nil => exact ⟨rfl, rfl, fun j => (List.append_nil _).symm⟩
  | cons e es ih =>
    obtain ⟨hproceso, hconexiones, hescrito⟩ := ih (aplicar lugares i red (e, reloj))
    refine ⟨hproceso, hconexiones, fun j => ?_⟩
    rw [List.foldl_cons, hescrito j, List.map_cons, correr, paso]
    dsimp only
    rw [propios_append, ← List.append_assoc]
    congr 1
    by_cases hj : i = j
    · subst hj
      rw [aplicar, propios_map_self]
      exact Function.update_self ..
    · rw [aplicar, propios_map_ne hj, List.append_nil]
      exact Function.update_of_ne (Ne.symm hj) ..

/-- **A run of the network** is a run of the process on the effects of its connections. -/
theorem foldl_suceder (ls : List Suceso) (red : Red) :
    (ls.foldl (suceder lugares) red).proceso = (correr (paso lugares) red.proceso (traza red.conexiones ls)).1 ∧
      ∀ i, (ls.foldl (suceder lugares) red).escrito i =
        red.escrito i ++ propios i (correr (paso lugares) red.proceso (traza red.conexiones ls)).2 := by
  induction ls generalizing red with
  | nil => exact ⟨rfl, fun i => (List.append_nil _).symm⟩
  | cons l ls ih =>
    rw [List.foldl_cons]
    obtain ⟨hproceso, hescrito⟩ := ih (suceder lugares red l)
    cases hvivo : red.proceso.vivo with
    | false =>
      have hred : suceder lugares red l = red := if_neg (by simp [hvivo])
      rw [hred, correr_muerto hvivo] at hproceso hescrito
      rw [hred, correr_muerto hvivo]
      exact ⟨hproceso, hescrito⟩
    | true =>
      have htraza : traza red.conexiones (l :: ls) =
          ((pasar (red.conexiones l.conexion) l.evento).2.map fun e => (l.conexion, e, l.reloj)) ++
            traza (Function.update red.conexiones l.conexion (pasar (red.conexiones l.conexion) l.evento).1) ls := by
        simp [traza, correr, entrelazar, entrada, leer]
      obtain ⟨hp, hc, he⟩ := foldl_aplicar lugares l.conexion l.reloj (pasar (red.conexiones l.conexion) l.evento).2
        (red.conConexion l.conexion (pasar (red.conexiones l.conexion) l.evento).1)
      have hred : suceder lugares red l =
          (pasar (red.conexiones l.conexion) l.evento).2.foldl
            (fun red e => aplicar lugares l.conexion red (e, l.reloj))
            (red.conConexion l.conexion (pasar (red.conexiones l.conexion) l.evento).1) := if_pos hvivo
      rw [← hred] at hp hc he
      rw [htraza, correr_append]
      refine ⟨by rw [hproceso, hc, hp]; rfl, fun i => ?_⟩
      dsimp only
      rw [hescrito, he, hc, hp, propios_append, List.append_assoc]
      rfl

/-! ## The requests among the effects -/

/-- The requests, each with its connection and its time. -/
def pedidos : List (Nat × (Efecto × Reloj)) → List (Nat × (MgConnection × Reloj))
  | [] => []
  | (_, .ns_send _, _) :: t => pedidos t
  | (i, .MG_REQUEST conn, reloj) :: t => (i, conn, reloj) :: pedidos t
  | (_, .desborde, _) :: t => pedidos t

def pedidosDe : List Efecto → List MgConnection
  | [] => []
  | .ns_send _ :: es => pedidosDe es
  | .MG_REQUEST conn :: es => conn :: pedidosDe es
  | .desborde :: es => pedidosDe es

/-- What goes to a connection for its effects, given the answers to its requests. -/
def tejer : List Efecto → List Escritura → List Escritura
  | [], _ => []
  | .ns_send datos :: es, ws => .datos datos :: tejer es ws
  | .MG_REQUEST _ :: es, ws => ws.take 1 ++ tejer es ws.tail
  | .desborde :: es, ws => tejer es ws

variable (lugares) in
def turno (pr : Proceso) (x : Nat × (MgConnection × Reloj)) : Proceso × List (Nat × Escritura) :=
  ((ev_handler lugares pr x.2.1 x.2.2).1, (ev_handler lugares pr x.2.1 x.2.2).2.map fun w => (x.1, w))

theorem emitir_request (pr : Proceso) (conn : MgConnection) (reloj : Reloj) :
    emitir lugares pr (.MG_REQUEST conn, reloj) = ev_handler lugares pr conn reloj := by
  cases hvivo : pr.vivo with
  | true => rw [emitir, if_pos hvivo]
  | false => rw [emitir_muerto hvivo, ev_handler, if_neg (by simp [hvivo])]

theorem vivo_of_correr {pr : Proceso} {t : List (Nat × (Efecto × Reloj))} (h : (correr (paso lugares) pr t).1.vivo = true) :
    pr.vivo = true := by
  by_contra hne
  rw [Bool.not_eq_true] at hne
  rw [correr_muerto hne, hne] at h
  exact absurd h (by decide)

theorem sin_desborde_of_vivo {pr : Proceso} {t : List (Nat × (Efecto × Reloj))}
    (h : (correr (paso lugares) pr t).1.vivo = true) : ∀ o ∈ t, o.2.1 ≠ .desborde := by
  induction t generalizing pr with
  | nil => exact fun o ho => absurd ho List.not_mem_nil
  | cons o t ih =>
    refine List.forall_mem_cons.mpr ⟨fun hdesborde => ?_, ih h⟩
    have hpaso : (emitir lugares pr o.2).1.vivo = false := by simp [emitir, vivo_of_correr h, hdesborde]
    rw [correr, paso] at h
    dsimp only at h
    rw [correr_muerto hpaso, hpaso] at h
    exact absurd h (by decide)

theorem proceso_eq_correr {t : List (Nat × (Efecto × Reloj))} (ht : ∀ o ∈ t, o.2.1 ≠ .desborde) (pr : Proceso) :
    (correr (paso lugares) pr t).1 = (correr (turno lugares) pr (pedidos t)).1 := by
  induction t generalizing pr with
  | nil => rfl
  | cons o t ih =>
    rw [List.forall_mem_cons] at ht
    obtain ⟨i, e, reloj⟩ := o
    cases e with
    | ns_send datos =>
      have hpaso : (paso lugares pr (i, .ns_send datos, reloj)).1 = pr := by
        rw [paso, emitir]
        split <;> rfl
      rw [correr, hpaso]
      exact ih ht.2 pr
    | MG_REQUEST conn =>
      rw [correr, paso, emitir_request]
      exact ih ht.2 (ev_handler lugares pr conn reloj).1
    | desborde => exact absurd rfl ht.1

theorem exists_ev_handler {pr : Proceso} {conn : MgConnection} {reloj : Reloj}
    (h : (ev_handler lugares pr conn reloj).1.vivo = true) : ∃ w, (ev_handler lugares pr conn reloj).2 = [w] := by
  rw [ev_handler] at h ⊢
  split at h
  · rename_i hvivo
    rw [if_pos hvivo]
    cases hrun : (Servidor.administrarServicio lugares (peticionDe conn reloj)).run { db := pr.db } with
    | error e s =>
      rw [hrun] at h
      exact absurd h (by simp)
    | ok u s =>
      rw [hrun] at h
      dsimp only at h ⊢
      cases hsalidas : s.salidas.mapM Servicio.enviado with
      | none =>
        rw [hsalidas] at h
        exact absurd h (by simp)
      | some textos => exact ⟨_, rfl⟩
  · rename_i hvivo
    exact absurd h hvivo

/-- **What goes to a connection**: what it sends itself, and the answers to its requests in their places. -/
theorem escrito_eq_tejer {pr : Proceso} {t : List (Nat × (Efecto × Reloj))}
    (h : (correr (paso lugares) pr t).1.vivo = true) (i : Nat) :
    propios i (correr (paso lugares) pr t).2 =
      tejer ((propios i t).map Prod.fst) (propios i (correr (turno lugares) pr (pedidos t)).2) := by
  induction t generalizing pr with
  | nil => rfl
  | cons o t ih =>
    obtain ⟨j, e, reloj⟩ := o
    have hvivo := vivo_of_correr h
    have hvivo' : (emitir lugares pr (e, reloj)).1.vivo = true :=
      vivo_of_correr (show (correr (paso lugares) (emitir lugares pr (e, reloj)).1 t).1.vivo = true from h)
    have hrest := @ih (emitir lugares pr (e, reloj)).1 h
    rw [correr, paso]
    dsimp only
    rw [propios_append, hrest]
    cases e with
    | ns_send datos =>
      have hemitir : emitir lugares pr (.ns_send datos, reloj) = (pr, [.datos datos]) := by simp [emitir, hvivo]
      rw [hemitir, pedidos]
      by_cases hj : j = i
      · subst hj
        rw [propios_map_self, propios_cons_self, List.map_cons, tejer, List.singleton_append]
      · rw [propios_map_ne hj, propios_cons_ne hj, List.nil_append]
    | MG_REQUEST conn =>
      rw [emitir_request] at hvivo' ⊢
      obtain ⟨w, hw⟩ := exists_ev_handler hvivo'
      rw [hw, pedidos, correr, turno, hw]
      dsimp only
      rw [propios_append]
      by_cases hj : j = i
      · subst hj
        rw [propios_map_self, propios_cons_self, List.map_cons, tejer]
        rfl
      · rw [propios_map_ne hj, propios_cons_ne hj, List.nil_append, List.nil_append]
    | desborde => exact absurd rfl (sin_desborde_of_vivo h _ List.mem_cons_self)

omit [Aritmetica] in
theorem mem_of_mem_pedidos {t : List (Nat × (Efecto × Reloj))} {x : Nat × (MgConnection × Reloj)} (h : x ∈ pedidos t) :
    (x.1, .MG_REQUEST x.2.1, x.2.2) ∈ t := by
  induction t with
  | nil => exact absurd h List.not_mem_nil
  | cons o t ih =>
    obtain ⟨i, e, reloj⟩ := o
    cases e with
    | ns_send datos => exact List.mem_cons_of_mem _ (ih h)
    | desborde => exact List.mem_cons_of_mem _ (ih h)
    | MG_REQUEST conn =>
      rw [pedidos, List.mem_cons] at h
      obtain rfl | h := h
      · exact List.mem_cons_self
      · exact List.mem_cons_of_mem _ (ih h)

omit [Aritmetica] in
theorem propios_pedidos (t : List (Nat × (Efecto × Reloj))) (i : Nat) :
    (propios i (pedidos t)).map Prod.fst = pedidosDe ((propios i t).map Prod.fst) := by
  induction t with
  | nil => rfl
  | cons o t ih =>
    obtain ⟨j, e, reloj⟩ := o
    by_cases hj : j = i
    · subst hj
      rw [propios_cons_self, List.map_cons]
      cases e with
      | ns_send datos => exact ih
      | desborde => exact ih
      | MG_REQUEST conn =>
        rw [pedidos, propios_cons_self, List.map_cons, ih]
        rfl
    · rw [propios_cons_ne hj]
      cases e with
      | ns_send datos => exact ih
      | desborde => exact ih
      | MG_REQUEST conn =>
        rw [pedidos, propios_cons_ne hj]
        exact ih

/-! ## The process and the server -/

variable (lugares) in
/-- The texts that are printed for a request on a store. -/
def responde (db : RocksDB) (conn : MgConnection) (reloj : Reloj) : List Cadena :=
  ((Servidor.atender lugares db (peticionDe conn reloj)).salidas.mapM Servicio.enviado).getD []

variable (lugares) in
/-- The answers to a list of requests, one after the other. -/
def respuestas : RocksDB → List (Nat × (MgConnection × Reloj)) → List (Nat × Escritura)
  | _, [] => []
  | db, x :: xs =>
    (x.1, .respuesta x.2.1 (responde lugares db x.2.1 x.2.2)) ::
      respuestas (Servidor.atender lugares db (peticionDe x.2.1 x.2.2)).db xs

theorem ev_handler_of_vivo {db : RocksDB} {conn : MgConnection} {reloj : Reloj}
    (h : (ev_handler lugares { db := db } conn reloj).1.vivo = true) :
    ev_handler lugares { db := db } conn reloj =
      ({ db := (Servidor.atender lugares db (peticionDe conn reloj)).db },
        [.respuesta conn (responde lugares db conn reloj)]) := by
  rw [ev_handler, if_pos rfl] at h ⊢
  rw [responde, Servidor.atender]
  dsimp only at h ⊢
  cases hrun : (Servidor.administrarServicio lugares (peticionDe conn reloj)).run { db := db } with
  | error e s =>
    rw [hrun] at h
    exact absurd h (by simp)
  | ok u s =>
    rw [hrun] at h
    rw [Efectos.final_ok]
    dsimp only at h ⊢
    cases hsalidas : s.salidas.mapM Servicio.enviado with
    | none =>
      rw [hsalidas] at h
      exact absurd h (by simp)
    | some textos => rfl

theorem correr_turno_muerto {pr : Proceso} (h : pr.vivo = false) (xs : List (Nat × (MgConnection × Reloj))) :
    (correr (turno lugares) pr xs).1 = pr := by
  induction xs with
  | nil => rfl
  | cons x xs ih =>
    rw [correr, turno, ev_handler, h]
    exact ih

/-- Whether or not the process survives a request, the store is the one that the server leaves. -/
theorem ev_handler_db (db : RocksDB) (conn : MgConnection) (reloj : Reloj) :
    (ev_handler lugares { db := db } conn reloj).1.db = (Servidor.atender lugares db (peticionDe conn reloj)).db := by
  rw [ev_handler, if_pos rfl, Servidor.atender]
  dsimp only
  cases (Servidor.administrarServicio lugares (peticionDe conn reloj)).run { db := db } with
  | error e s => rfl
  | ok u s =>
    rw [Efectos.final_ok]
    dsimp only
    cases s.salidas.mapM Servicio.enviado <;> rfl

/-- **A process that is still alive** has done what the server does with the same requests. -/
theorem correr_turno_of_vivo {db : RocksDB} {xs : List (Nat × (MgConnection × Reloj))}
    (h : (correr (turno lugares) { db := db } xs).1.vivo = true) :
    correr (turno lugares) { db := db } xs =
      ({ db := Servidor.ejecutar lugares db (xs.map fun x => peticionDe x.2.1 x.2.2) }, respuestas lugares db xs) := by
  induction xs generalizing db with
  | nil => rfl
  | cons x xs ih =>
    -- the process has survived the first request too
    have hvivo : (ev_handler lugares { db := db } x.2.1 x.2.2).1.vivo = true := by
      by_contra hne
      rw [Bool.not_eq_true] at hne
      rw [correr, turno] at h
      dsimp only at h
      rw [correr_turno_muerto hne, hne] at h
      exact absurd h (by decide)
    have hstep := ev_handler_of_vivo hvivo
    rw [correr, turno, hstep] at h ⊢
    rw [ih h]
    rfl

/-! ## The connections -/

omit [Aritmetica] in
theorem correr_leer (conn : Option Connection) (es : List (Evento × Reloj)) :
    (correr leer conn es).2.map Prod.fst = (correr pasar conn (es.map Prod.fst)).2 := by
  induction es generalizing conn with
  | nil => rfl
  | cons e es ih =>
    have hmap : ((pasar conn e.1).2.map fun o => (o, e.2)).map Prod.fst = (pasar conn e.1).2 := by
      rw [List.map_map]
      exact List.map_id _
    rw [correr, List.map_append, leer, hmap, ih, List.map_cons, correr]

def eventosDe (i : Nat) (ls : List Suceso) : List Evento := (propios i (ls.map entrada)).map Prod.fst

omit [Aritmetica] in
theorem propios_traza (ls : List Suceso) (i : Nat) :
    (propios i (trazaDe ls)).map Prod.fst = (correr pasar (some (libre false)) (eventosDe i ls)).2 := by
  rw [trazaDe, traza, (propios_entrelazar _ _ i).2, correr_leer]
  rfl

omit [Aritmetica] in
theorem pedidosDe_append (es es' : List Efecto) : pedidosDe (es ++ es') = pedidosDe es ++ pedidosDe es' := by
  induction es with
  | nil => rfl
  | cons e es ih =>
    cases e with
    | ns_send datos => exact ih
    | desborde => exact ih
    | MG_REQUEST conn => exact congrArg (conn :: ·) ih

omit [Aritmetica] in
/-- Before the body of a request a connection sends at most the text that was asked for. -/
theorem send_continue_casos (hs : List (Cadena × Cadena)) :
    send_continue_if_expected hs = [] ∨
      send_continue_if_expected hs = [.ns_send (bytes "HTTP/1.1 100 Continue\r\n\r\n")] := by
  rw [send_continue_if_expected]
  split
  · exact .inl rfl
  · split_ifs
    · exact .inr rfl
    · exact .inl rfl

omit [Aritmetica] in
theorem pedidosDe_efectos (rs : List Solicitud) : pedidosDe (rs.flatMap Solicitud.efectos) = rs.map Solicitud.peticion := by
  induction rs with
  | nil => rfl
  | cons r rs ih =>
    rw [List.flatMap_cons, pedidosDe_append, ih, List.map_cons, Solicitud.efectos]
    obtain h | h := send_continue_casos r.cabeceras <;> rw [h] <;> rfl

def datosDe : Efecto → Cadena
  | .ns_send datos => datos
  | _ => []

def continuar (r : Solicitud) : Cadena := (send_continue_if_expected r.cabeceras).flatMap datosDe

omit [Aritmetica] in
theorem continuar_casos (r : Solicitud) :
    continuar r = [] ∨ continuar r = bytes "HTTP/1.1 100 Continue\r\n\r\n" := by
  obtain h | h := send_continue_casos r.cabeceras
  · exact .inl (by rw [continuar, h]; rfl)
  · exact .inr (by rw [continuar, h]; rfl)

/-- The bytes of an answer on a connection that is no WebSocket. -/
def http (w : Escritura) : Cadena := (escribir false w).2

def Contesta (r : Solicitud) (w : Escritura) : Prop := ∃ textos, w = .respuesta r.peticion textos

omit [Aritmetica] in
/-- What is sent for the requests of a connection: before each answer the interim one, if it was asked for. -/
theorem correr_escribir_tejer {rs : List Solicitud} {ws : List Escritura} (h : List.Forall₂ Contesta rs ws) :
    (correr escribir false (tejer (rs.flatMap Solicitud.efectos) ws)).2 =
      (rs.zip ws).flatMap fun c => continuar c.1 ++ http c.2 := by
  induction h with
  | nil => rfl
  | @cons r w rs ws hw _ ih =>
    obtain ⟨textos, rfl⟩ := hw
    have hescribir : escribir false (.respuesta r.peticion textos) = (false, http (.respuesta r.peticion textos)) := rfl
    rw [List.flatMap_cons, List.zip_cons_cons, List.flatMap_cons, ← ih, continuar, Solicitud.efectos]
    obtain hc | hc := send_continue_casos r.cabeceras
    · rw [hc]
      simp [tejer, correr, hescribir]
    · have hdatos : ∀ d, escribir false (.datos d) = (false, d) := fun _ => rfl
      rw [hc]
      simp [tejer, correr, hescribir, hdatos, datosDe]

theorem contesta_respuestas {rs : List Solicitud} {db : RocksDB} {xs : List (Nat × (MgConnection × Reloj))} {i : Nat}
    (h : (propios i xs).map Prod.fst = rs.map Solicitud.peticion) :
    List.Forall₂ Contesta rs (propios i (respuestas lugares db xs)) := by
  induction xs generalizing rs db with
  | nil =>
    have hnil : rs = [] := List.map_eq_nil_iff.mp h.symm
    rw [hnil]
    exact .nil
  | cons x xs ih =>
    obtain ⟨j, conn, reloj⟩ := x
    rw [respuestas]
    by_cases hj : j = i
    · subst hj
      rw [propios_cons_self] at h ⊢
      cases rs with
      | nil => exact absurd h (by simp)
      | cons r rs =>
        rw [List.map_cons, List.map_cons, List.cons.injEq] at h
        exact .cons ⟨_, by rw [← h.1]⟩ (ih h.2)
    · rw [propios_cons_ne hj] at h ⊢
      exact ih h

/-! ## Runs of the network -/

/-- The requests that the process has taken: all of them, or those up to the one that ended it. -/
theorem exists_prefijo {db : RocksDB} {t : List (Nat × (Efecto × Reloj))}
    (h : (correr (paso lugares) { db := db } t).1.definido = true) :
    ∃ ys, ys <+: pedidos t ∧ (correr (paso lugares) { db := db } t).1.db =
      Servidor.ejecutar lugares db (ys.map fun x => peticionDe x.2.1 x.2.2) := by
  induction t generalizing db with
  | nil => exact ⟨[], List.prefix_rfl, rfl⟩
  | cons o t ih =>
    obtain ⟨i, e, reloj⟩ := o
    cases e with
    | ns_send datos => exact ih h
    | desborde =>
      rw [correr, paso, emitir, if_pos rfl] at h
      dsimp only at h
      rw [correr_muerto rfl] at h
      exact absurd h Bool.false_ne_true
    | MG_REQUEST conn =>
      rw [correr, paso, emitir_request] at h ⊢
      cases hvivo : (ev_handler lugares { db := db } conn reloj).1.vivo with
      | true =>
        rw [ev_handler_of_vivo hvivo] at h ⊢
        obtain ⟨ys, hys, hdb⟩ := ih h
        exact ⟨(i, conn, reloj) :: ys, (List.prefix_cons_inj _).mpr hys, hdb⟩
      | false =>
        refine ⟨[(i, conn, reloj)], ⟨pedidos t, rfl⟩, ?_⟩
        dsimp only
        rw [correr_muerto hvivo, ev_handler_db]
        rfl

/-- **Whatever happens on the sockets**, the store is one that the server reaches on requests that were accepted, those of
each connection in their order. -/
theorem red_segura (db : RocksDB) (ls : List Suceso) (hdefinido : (ejecutar lugares db ls).proceso.definido = true) :
    ∃ xs : List (Nat × (MgConnection × Reloj)), (∀ x ∈ xs, Atendible x.2.1) ∧
      (∀ i, (propios i xs).map Prod.fst <+: pedidosDe (correr pasar (some (libre false)) (eventosDe i ls)).2) ∧
      (ejecutar lugares db ls).proceso.db =
        Servidor.ejecutar lugares db (xs.map fun x => peticionDe x.2.1 x.2.2) := by
  obtain ⟨hproceso, -⟩ := foldl_suceder ls { proceso := { db := db } }
  rw [ejecutar, hproceso] at hdefinido ⊢
  obtain ⟨xs, hxs, hdb⟩ := exists_prefijo hdefinido
  refine ⟨xs, fun x hx => ?_, fun i => ?_, hdb⟩
  · have hmem := mem_of_mem_pedidos (hxs.subset hx)
    refine atendible_of_eventos (eventosDe x.1 ls) x.2.1 ?_
    rw [← propios_traza, List.mem_map]
    exact ⟨_, mem_propios hmem, rfl⟩
  · rw [← propios_traza, ← propios_pedidos]
    exact (propios_prefijo hxs i).map _

/-- **Any interleaving is sequential.** While the process lives, the requests of all the connections are handled one after
the other, those of each connection once each and in their order, and each connection is sent the answers to its own. All
requests of a connection but the last keep it alive, and after the last nothing more is read from it. -/
theorem entrelazado_secuencial {db : RocksDB} {ls : List Suceso} {clientes : Nat → List (Solicitud × List Evento)}
    (hllegan : ∀ i, ∀ p ∈ clientes i, p.1.Llega p.2)
    (hpersisten : ∀ i, ∀ p ∈ (clientes i).dropLast, p.1.persiste = true)
    (hred : ∀ i, ∃ resto, eventosDe i ls = (clientes i).flatMap Prod.snd ++ resto ∧ lecturas resto = [])
    (hvivo : (ejecutar lugares db ls).proceso.vivo = true) :
    ∃ xs : List (Nat × (MgConnection × Reloj)),
      (∀ i, (propios i xs).map Prod.fst = (clientes i).map fun p => p.1.peticion) ∧
      (ejecutar lugares db ls).proceso.db =
        Servidor.ejecutar lugares db (xs.map fun x => peticionDe x.2.1 x.2.2) ∧
      ∀ i, (ejecutar lugares db ls).enviado i =
        (((clientes i).map Prod.fst).zip (propios i (respuestas lugares db xs))).flatMap
          fun c => continuar c.1 ++ http c.2 := by
  obtain ⟨hproceso, hescrito⟩ := foldl_suceder ls { proceso := { db := db } }
  rw [← ejecutar] at hproceso hescrito
  -- the effects of a connection are those of its requests
  have hefectos : ∀ i, (propios i (trazaDe ls)).map Prod.fst =
      ((clientes i).map Prod.fst).flatMap Solicitud.efectos := by
    intro i
    obtain ⟨resto, heventos, hresto⟩ := hred i
    rw [propios_traza, heventos, correr_solicitudes (hllegan i) (hpersisten i) hresto, List.flatMap_map]
  have hpaso : (correr (paso lugares) { db := db } (trazaDe ls)).1.vivo = true := by
    rw [trazaDe, ← hproceso]
    exact hvivo
  have hturno : (correr (turno lugares) { db := db } (pedidos (trazaDe ls))).1.vivo = true := by
    rw [← proceso_eq_correr (sin_desborde_of_vivo hpaso)]
    exact hpaso
  have hpedidos : ∀ i, (propios i (pedidos (trazaDe ls))).map Prod.fst =
      ((clientes i).map Prod.fst).map Solicitud.peticion := by
    intro i
    rw [propios_pedidos, hefectos, pedidosDe_efectos]
  refine ⟨pedidos (trazaDe ls), fun i => by rw [hpedidos, List.map_map]; rfl, ?_, fun i => ?_⟩
  · rw [hproceso]
    show (correr (paso lugares) { db := db } (trazaDe ls)).1.db = _
    rw [proceso_eq_correr (sin_desborde_of_vivo hpaso), correr_turno_of_vivo hturno]
  · rw [enviado, hescrito]
    show (correr escribir false (propios i (correr (paso lugares) { db := db } (trazaDe ls)).2)).2 = _
    rw [escrito_eq_tejer hpaso, hefectos, correr_turno_of_vivo hturno]
    exact correr_escribir_tejer (contesta_respuestas (hpedidos i))

end Red

/-! ### A WebSocket and two connections -/

namespace Red
attribute [local instance] Aritmetica.nula
set_option maxRecDepth 2000

def relojParado : Reloj where
  ctime := { val := bytes "Fri Jan  2 00:00:00 1970" }
  fechaYhora := { val := bytes "1970-01-02 00:00" }

def handshake : Evento :=
  .NS_RECV ⟨bytes "POST /usuario/ HTTP/1.1\r\nSec-WebSocket-Version: 13\r\nSec-WebSocket-Key: x\r\n\r\n",
    by decide, by decide⟩

/-- A handshake, a frame that registers the telephone `1`, and the client goes away. -/
def porWebsocket : List Suceso :=
  [⟨0, handshake, relojParado⟩,
    ⟨0, .NS_RECV ⟨[0x81, 10] ++ bytes "Telefono=1", by decide, by decide⟩, relojParado⟩,
    ⟨0, .fin, relojParado⟩]

theorem red_segura_websocket :
    (ejecutar .null .vacia porWebsocket).proceso.definido = true ∧
    ∃ xs : List (Nat × (MgConnection × Reloj)), (∀ x ∈ xs, Atendible x.2.1) ∧
      (∀ i, (propios i xs).map Prod.fst <+: pedidosDe (correr pasar (some (libre false)) (eventosDe i porWebsocket)).2) ∧
      (ejecutar .null .vacia porWebsocket).proceso.db =
        Servidor.ejecutar .null .vacia (xs.map fun x => peticionDe x.2.1 x.2.2) := by
  have hdefinido : (ejecutar .null .vacia porWebsocket).proceso.definido = true := by decide
  exact ⟨hdefinido, red_segura .vacia porWebsocket hdefinido⟩

def alta : Solicitud where
  metodo := bytes "POST"
  objetivo := bytes "/usuario/"
  version := bytes "1.1"
  cabeceras := [(bytes "Content-Length", bytes "10")]
  cuerpo := bytes "Telefono=1"
  metodo_valido := by decide +kernel
  objetivo_head := by decide +kernel
  objetivo_visible := by decide +kernel
  version_valida := by decide +kernel
  cabeceras_validas := by
    intro h hh
    rw [List.mem_singleton] at hh
    subst hh
    exact ⟨by decide +kernel, by decide +kernel, by decide +kernel, by decide +kernel⟩
  cabeceras_length := by decide +kernel
  sin_websocket := by decide +kernel
  tamanio := by decide +kernel
  longitud := by decide +kernel
  longitud_cabe := by decide +kernel

def desconocida : Solicitud where
  metodo := bytes "GET"
  objetivo := bytes "/nada"
  version := bytes "1.1"
  cabeceras := []
  cuerpo := []
  metodo_valido := by decide +kernel
  objetivo_head := by decide +kernel
  objetivo_visible := by decide +kernel
  version_valida := by decide +kernel
  cabeceras_validas := fun _ h => absurd h List.not_mem_nil
  cabeceras_length := by decide +kernel
  sin_websocket := by decide +kernel
  tamanio := by decide +kernel
  longitud := by decide +kernel
  longitud_cabe := by decide +kernel

def eventosAlta : List Evento :=
  [.NS_RECV ⟨bytes "POST /usuario/ HTTP/1.1\r\nContent-Len", by decide, by decide⟩,
    .NS_RECV ⟨bytes "gth: 10\r\n\r\nTelefono=1", by decide, by decide⟩]

def eventosDesconocida : List Evento :=
  [.NS_RECV ⟨bytes "GET /", by decide, by decide⟩, .NS_RECV ⟨bytes "nada HTTP/1.1\r\n\r\n", by decide, by decide⟩,
    .NS_POLL 20 true]

/-- The first connection registers, the second asks twice for what does not exist. -/
def clientesDos : Nat → List (Solicitud × List Evento)
  | 0 => [(alta, eventosAlta)]
  | 1 => [(desconocida, eventosDesconocida), (desconocida, eventosDesconocida)]
  | _ => []

/-- The events of the two connections in turn; at the end the first client goes away. -/
def sucesosDos : List Suceso :=
  ((eventosAlta ++ [Evento.fin]).zip eventosDesconocida).flatMap
      (fun p => [⟨0, p.1, relojParado⟩, ⟨1, p.2, relojParado⟩]) ++
    eventosDesconocida.map fun e => ⟨1, e, relojParado⟩

theorem clientesDos_llegan : ∀ i, ∀ p ∈ clientesDos i, p.1.Llega p.2
  | 0, p, hp => by
    rw [List.mem_singleton.mp hp]
    exact ⟨by decide, by decide +kernel⟩
  | 1, p, hp => by
    have hp' : p = (desconocida, eventosDesconocida) := by simpa [clientesDos] using hp
    rw [hp']
    exact ⟨by decide, by decide +kernel⟩
  | _ + 2, _, hp => absurd hp List.not_mem_nil

theorem clientesDos_persisten : ∀ i, ∀ p ∈ (clientesDos i).dropLast, p.1.persiste = true
  | 0, _, hp => absurd hp List.not_mem_nil
  | 1, p, hp => by
    rw [List.mem_singleton.mp hp]
    decide +kernel
  | _ + 2, _, hp => absurd hp List.not_mem_nil

theorem eventosDe_dos :
    ∀ i, ∃ resto, eventosDe i sucesosDos = (clientesDos i).flatMap Prod.snd ++ resto ∧ lecturas resto = []
  | 0 => ⟨[.fin], rfl, rfl⟩
  | 1 => ⟨[], rfl, rfl⟩
  | i + 2 => ⟨[], by simp [eventosDe, sucesosDos, eventosAlta, eventosDesconocida, clientesDos, entrada, propios], rfl⟩

theorem entrelazado_dos :
    (ejecutar .null .vacia sucesosDos).proceso.vivo = true ∧
    ∃ xs : List (Nat × (MgConnection × Reloj)),
      (∀ i, (propios i xs).map Prod.fst = (clientesDos i).map fun p => p.1.peticion) ∧
      (ejecutar .null .vacia sucesosDos).proceso.db =
        Servidor.ejecutar .null .vacia (xs.map fun x => peticionDe x.2.1 x.2.2) ∧
      ∀ i, (ejecutar .null .vacia sucesosDos).enviado i =
        (((clientesDos i).map Prod.fst).zip (propios i (respuestas .null .vacia xs))).flatMap
          fun c => continuar c.1 ++ http c.2 := by
  have hvivo : (ejecutar .null .vacia sucesosDos).proceso.vivo = true := by decide
  exact ⟨hvivo, entrelazado_secuencial clientesDos_llegan clientesDos_persisten eventosDe_dos hvivo⟩

end Red

end MensajeroX
