import MensajeroX.Central.Aislamiento
import MensajeroX.WebServer.Red

/-!
# Groups of users on the network

Some connections speak for a group of users, and only for it; the others speak for others. Whatever arrives on them and
in whatever order, the group cannot tell whether the others exist: it is sent the same bytes without them.

* `Ve` : what the group sees of the process;
* `ev_handler_propia`, `ev_handler_ajena` : a request of the group, and one of the others;
* `Sistema.grupos_aislados` : **a group is sent what it would be sent alone**.
-/

namespace MensajeroX
open Bytes JsonCpp Chunked Efectos Servicio Mongoose Maquinas Red

section Proceso
variable [Aritmetica] {lugares : Value} {C : Central} {d : Cadena → Option Cadena} {conn : MgConnection} {reloj : Reloj}

/-- A request that is served and printed, on a store of the central. -/
theorem Representa.ev_handler_ok (h : Representa C d) {C' : Central} {o textos : List Cadena}
    (hservir : C.servir lugares (peticionDe conn reloj) = .ok () ⟨C', o⟩) (htextos : o.mapM enviado = some textos) :
    ∃ d', Representa C' d' ∧
      ev_handler lugares { db := { datos := d } } conn reloj = ({ db := { datos := d' } }, [.respuesta conn textos]) := by
  have habstrae := abstrae_administrarServicio lugares (peticionDe conn reloj) (.sano d []) ⟨d, rfl, h⟩
  rw [hservir] at habstrae
  obtain ⟨s, ⟨d', rfl, h'⟩, hrun⟩ := habstrae
  refine ⟨d', h', ?_⟩
  rw [ev_handler, if_pos rfl, show ({ db := { datos := d } } : Estado) = .sano d [] from rfl, hrun]
  dsimp only
  rw [htextos]

theorem Representa.servir_of_vivo (h : Representa C d)
    (hvivo : (ev_handler lugares { db := { datos := d } } conn reloj).1.vivo = true) :
    ∃ C' o textos, C.servir lugares (peticionDe conn reloj) = .ok () ⟨C', o⟩ ∧ o.mapM enviado = some textos := by
  have habstrae := abstrae_administrarServicio lugares (peticionDe conn reloj) (.sano d []) ⟨d, rfl, h⟩
  rw [ev_handler, if_pos rfl] at hvivo
  cases hservir : C.servir lugares (peticionDe conn reloj) with
  | error e t =>
    rw [hservir] at habstrae
    obtain ⟨s, -, hrun⟩ := habstrae
    rw [show ({ db := { datos := d } } : Estado) = .sano d [] from rfl, hrun] at hvivo
    exact absurd hvivo (by simp)
  | ok u t =>
    rw [hservir] at habstrae
    obtain ⟨s, ⟨d', rfl, -⟩, hrun⟩ := habstrae
    rw [show ({ db := { datos := d } } : Estado) = .sano d [] from rfl, hrun] at hvivo
    cases htextos : t.salidas.mapM enviado with
    | none =>
      dsimp only at hvivo
      rw [htextos] at hvivo
      exact absurd hvivo (by simp)
    | some textos => exact ⟨t.central, t.salidas, textos, rfl, htextos⟩

end Proceso

/-! ## What the group sees of the process -/

/-- The second process is what the group sees of the first one. -/
def Ve [LibC] (G : Set Cadena) [DecidablePred (· ∈ G)] (pr pr' : Proceso) : Prop :=
  ∃ C d d', pr = { db := { datos := d } } ∧ pr' = { db := { datos := d' } } ∧ Representa C d ∧ Representa (C.solo G) d' ∧
    C.Separada G

section Ve
variable [Aritmetica] {lugares : Value} {G : Set Cadena} [DecidablePred (· ∈ G)] {pr pr' : Proceso} {conn : MgConnection}
  {reloj : Reloj}

theorem ve_vacia (G : Set Cadena) [DecidablePred (· ∈ G)] : Ve G { db := .vacia } { db := .vacia } := by
  have hsolo : Central.vacia.solo G = Central.vacia := Central.ext (funext fun k => ite_self _) rfl
  refine ⟨.vacia, _, _, rfl, rfl, Representa.vacia, ?_, Central.separada_vacia G⟩
  rw [hsolo]
  exact Representa.vacia

/-- A request of the group does the same on both sides, and is answered in the same way. -/
theorem ev_handler_propia (h : Ve G pr pr') (hp : (peticionDe conn reloj).De G)
    (hvivo : (ev_handler lugares pr conn reloj).1.vivo = true) :
    Ve G (ev_handler lugares pr conn reloj).1 (ev_handler lugares pr' conn reloj).1 ∧
      (ev_handler lugares pr' conn reloj).2 = (ev_handler lugares pr conn reloj).2 := by
  obtain ⟨C, d, d', rfl, rfl, hC, hsolo, hseparada⟩ := h
  obtain ⟨C', o, textos, hservir, htextos⟩ := hC.servir_of_vivo hvivo
  have hservir' : (C.solo G).servir lugares (peticionDe conn reloj) = .ok () ⟨C'.solo G, o⟩ := by
    rw [Central.servir_solo hseparada lugares hp, hservir]
    rfl
  have hC' : (C.atender lugares (peticionDe conn reloj)).central = C' := by rw [Central.atender, hservir, final_ok]
  obtain ⟨e, he, heq⟩ := hC.ev_handler_ok hservir htextos
  obtain ⟨e', he', heq'⟩ := hsolo.ev_handler_ok hservir' htextos
  rw [heq, heq']
  exact ⟨⟨C', e, e', rfl, rfl, he, he', hC' ▸ Central.separada_atender hseparada lugares (.inl hp)⟩, rfl⟩

theorem ev_handler_ajena (h : Ve G pr pr') (hp : (peticionDe conn reloj).De Gᶜ)
    (hvivo : (ev_handler lugares pr conn reloj).1.vivo = true) : Ve G (ev_handler lugares pr conn reloj).1 pr' := by
  obtain ⟨C, d, d', rfl, rfl, hC, hsolo, hseparada⟩ := h
  obtain ⟨C', o, textos, hservir, htextos⟩ := hC.servir_of_vivo hvivo
  have hC' : (C.atender lugares (peticionDe conn reloj)).central = C' := by rw [Central.atender, hservir, final_ok]
  obtain ⟨e, he, heq⟩ := hC.ev_handler_ok hservir htextos
  rw [heq]
  refine ⟨C', e, d', rfl, rfl, he, ?_, hC' ▸ Central.separada_atender hseparada lugares (.inr hp)⟩
  rw [← hC', Central.solo_atender C lugares hp]
  exact hsolo

end Ve

/-! ## Runs of the network -/

namespace Red

section Ejecutar
variable [Aritmetica] {lugares : Value} {db : RocksDB} {ls : List Suceso}

theorem vivo_traza (hvivo : (ejecutar lugares db ls).proceso.vivo = true) :
    (correr (paso lugares) { db := db } (trazaDe ls)).1.vivo = true := by
  rw [ejecutar, (foldl_suceder ls { proceso := { db := db } }).1] at hvivo
  exact hvivo

theorem proceso_ejecutar (hdefinida : ∀ o ∈ trazaDe ls, o.2.1 ≠ .desborde) :
    (ejecutar lugares db ls).proceso = (correr (turno lugares) { db := db } (pedidos (trazaDe ls))).1 := by
  rw [← proceso_eq_correr hdefinida]
  exact (foldl_suceder ls { proceso := { db := db } }).1

/-- What goes to a connection, from its effects and the answers to its requests. -/
theorem escrito_ejecutar (hvivo : (ejecutar lugares db ls).proceso.vivo = true) (i : Nat) :
    (ejecutar lugares db ls).escrito i =
      tejer ((propios i (trazaDe ls)).map Prod.fst)
        (propios i (correr (turno lugares) { db := db } (pedidos (trazaDe ls))).2) := by
  rw [← escrito_eq_tejer (vivo_traza hvivo)]
  exact (foldl_suceder ls { proceso := { db := db } }).2 i

theorem vivo_of_turno {pr : Proceso} {x : Nat × (MgConnection × Reloj)} (h : (turno lugares pr x).1.vivo = true) :
    pr.vivo = true := by
  by_contra hne
  rw [turno, ev_handler, if_neg hne] at h
  exact hne h

end Ejecutar

variable (I : Set Nat) [DecidablePred (· ∈ I)]

/-- The events of a group of connections have the effects of the group. -/
theorem traza_filter (ls : List Suceso) :
    trazaDe (ls.filter fun l => l.conexion ∈ I) = (trazaDe ls).filter fun o => o.1 ∈ I := by
  have hmap : (ls.filter fun l => l.conexion ∈ I).map entrada = (ls.map entrada).filter fun e => e.1 ∈ I := by
    rw [List.filter_map]
    rfl
  rw [trazaDe, traza, hmap, filter_entrelazar I fun _ _ => rfl]
  rfl

theorem pedidos_filter (t : List (Nat × (Efecto × Reloj))) :
    pedidos (t.filter fun o => o.1 ∈ I) = (pedidos t).filter fun x => x.1 ∈ I := by
  induction t with
  | nil => rfl
  | cons o t ih =>
    obtain ⟨i, e, reloj⟩ := o
    by_cases hi : i ∈ I
    · rw [List.filter_cons_of_pos (by simpa using hi)]
      cases e with
      | ns_send datos => exact ih
      | MG_REQUEST conn => rw [pedidos, pedidos, ih, List.filter_cons_of_pos (by simpa using hi)]
      | desborde => exact ih
    · rw [List.filter_cons_of_neg (by simpa using hi), ih]
      cases e with
      | ns_send datos => rfl
      | MG_REQUEST conn => rw [pedidos, List.filter_cons_of_neg (by simpa using hi)]
      | desborde => rfl

end Red

namespace Sistema
variable [Aritmetica]

/-- **A group is sent what it would be sent alone.** The requests on the connections in `I` name users of `G` only, and
those on the other connections name none of them. Then without the other connections the process lives as well, and on
each connection in `I` it sends the same bytes. -/
theorem grupos_aislados (lugares : Value) {ls : List Suceso} {I : Set Nat} [DecidablePred (· ∈ I)] {G : Set Cadena}
    (hgrupo : ∀ i, ∀ conn ∈ pedidosDe (correr pasar (some (libre false)) (eventosDe i ls)).2, ∀ reloj,
      (peticionDe conn reloj).De (if i ∈ I then G else Gᶜ))
    (hvivo : (ejecutar lugares .vacia ls).proceso.vivo = true) :
    (ejecutar lugares .vacia (ls.filter fun l => l.conexion ∈ I)).proceso.vivo = true ∧
      ∀ i ∈ I, (ejecutar lugares .vacia (ls.filter fun l => l.conexion ∈ I)).enviado i =
        (ejecutar lugares .vacia ls).enviado i := by
  classical
  have hpedidos : ∀ x ∈ pedidos (trazaDe ls),
      (peticionDe x.2.1 x.2.2).De (if x.1 ∈ I then G else Gᶜ) := by
    intro x hx
    refine hgrupo x.1 x.2.1 ?_ x.2.2
    rw [← propios_traza, ← propios_pedidos]
    exact List.mem_map.mpr ⟨x.2, mem_propios hx, rfl⟩
  -- a request of the group does the same on both sides, one of the others is not seen
  have hpropia : ∀ x ∈ pedidos (trazaDe ls), x.1 ∈ I → ∀ pr pr', Ve G pr pr' →
      (turno lugares pr x).1.vivo = true →
      Ve G (turno lugares pr x).1 (turno lugares pr' x).1 ∧
        (turno lugares pr' x).2 = (turno lugares pr x).2.filter fun o => o.1 ∈ I := by
    intro x hx hi pr pr' hve hvivo
    have hde := hpedidos x hx
    rw [if_pos hi] at hde
    obtain ⟨hve', hsalida⟩ := ev_handler_propia hve hde hvivo
    refine ⟨hve', ?_⟩
    rw [turno, turno, hsalida, List.filter_eq_self.mpr]
    exact List.forall_mem_map.mpr fun w _ => by simpa using hi
  have hajena : ∀ x ∈ pedidos (trazaDe ls), x.1 ∉ I → ∀ pr pr', Ve G pr pr' →
      (turno lugares pr x).1.vivo = true →
      Ve G (turno lugares pr x).1 pr' ∧ ((turno lugares pr x).2.filter fun o => o.1 ∈ I) = [] := by
    intro x hx hi pr pr' hve hvivo
    have hde := hpedidos x hx
    rw [if_neg hi] at hde
    refine ⟨ev_handler_ajena hve hde hvivo, ?_⟩
    rw [turno, List.filter_eq_nil_iff]
    exact List.forall_mem_map.mpr fun w _ => by simpa using hi
  have hdefinida := sin_desborde_of_vivo (vivo_traza hvivo)
  have hturno := hvivo
  rw [proceso_ejecutar hdefinida] at hturno
  obtain ⟨⟨C, d, d', -, hfin, -⟩, hsalidas⟩ :=
    @correr_purga Proceso _ _ (turno lugares) (Ve G) (fun pr => pr.vivo = true) (fun x => x.1 ∈ I) (fun o => o.1 ∈ I) _ _
      (fun _ _ => vivo_of_turno) _ hpropia hajena _ _ (ve_vacia G) hturno
  rw [← pedidos_filter, ← traza_filter] at hfin hsalidas
  have hvivo' : (ejecutar lugares .vacia (ls.filter fun l => l.conexion ∈ I)).proceso.vivo = true := by
    rw [proceso_ejecutar fun o ho => hdefinida o (List.mem_of_mem_filter (traza_filter I ls ▸ ho)), hfin]
  refine ⟨hvivo', fun i hi => ?_⟩
  rw [Red.enviado, Red.enviado, escrito_ejecutar hvivo', escrito_ejecutar hvivo, hsalidas, propios_filter I hi,
    traza_filter, propios_filter I hi]

end Sistema

namespace Sistema
attribute [local instance] Aritmetica.nula

/-- The registration of the telephone `1` in two reads, and in turn with them the one of the telephone `2` on a
WebSocket. -/
def sucesosGrupos : List Suceso :=
  (eventosAlta.zip [handshake, .NS_RECV ⟨[0x81, 10] ++ bytes "Telefono=2", by decide, by decide⟩]).flatMap fun p =>
    [⟨0, p.1, relojParado⟩, ⟨1, p.2, relojParado⟩]

theorem grupos_aislados_dos :
    (ejecutar .null .vacia sucesosGrupos).enviado 0 =
      (ejecutar .null .vacia (sucesosGrupos.filter fun l => l.conexion ∈ ({0} : Set Nat))).enviado 0 := by
  have hgrupo : ∀ i, ∀ conn ∈ pedidosDe (correr pasar (some (libre false)) (eventosDe i sucesosGrupos)).2, ∀ reloj,
      (peticionDe conn reloj).De (if i ∈ ({0} : Set Nat) then {md5 (bytes "1")} else {md5 (bytes "1")}ᶜ) := by
    -- who is named does not depend on the time
    intro i conn hconn reloj
    show (peticionDe conn relojParado).De _
    revert conn
    obtain rfl | rfl | ⟨h₀, h₁⟩ : i = 0 ∨ i = 1 ∨ i ≠ 0 ∧ i ≠ 1 := by omega
    · have hnombra : ∀ conn ∈ pedidosDe (correr pasar (some (libre false)) (eventosDe 0 sucesosGrupos)).2,
          ∀ k ∈ (peticionDe conn relojParado).nombrados, k = md5 (bytes "1") := by decide +kernel
      rw [if_pos (Set.mem_singleton 0)]
      exact hnombra
    · have hnombra : ∀ conn ∈ pedidosDe (correr pasar (some (libre false)) (eventosDe 1 sucesosGrupos)).2,
          ∀ k ∈ (peticionDe conn relojParado).nombrados, k ≠ md5 (bytes "1") := by decide +kernel
      rw [if_neg (by decide)]
      exact hnombra
    · have hnada : eventosDe i sucesosGrupos = [] := by
        simp [eventosDe, sucesosGrupos, eventosAlta, Red.entrada, propios, h₀.symm, h₁.symm]
      rw [hnada]
      exact fun _ h => absurd h List.not_mem_nil
  exact ((grupos_aislados .null hgrupo (by decide +kernel)).2 0 rfl).symm

end Sistema

end MensajeroX
