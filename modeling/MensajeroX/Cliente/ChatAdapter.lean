import MensajeroX.Cliente.DbHelper
import MensajeroX.Lib.Corridas

/-!
# `ChatAdapter`

The list of messages that a chat displays. A message is shown before the server has it, without an id, and its entry goes
when one comes from the server. `add` removes from a copy by the indices of the list it goes over, and may return
halfway. The list of the superclass, which no overridden method reads, is left out.

* `recorrer_servidor` : the loop over entries of the server;
* `add_eq` : **what `add` displays**, from a list whose only pending entry is the last;
* `chat_consistente` : the list after any additions.
-/

namespace MensajeroX.Cliente
open Bytes

/-- `ConversationDataProvider`; `messageId` is empty for a pending message. -/
structure ConversationDataProvider where
  position : Bool
  message : Cadena
  messageId : Cadena
deriving DecidableEq, Repr

/-- `IndexOutOfBoundsException`. -/
structure IndexOutOfBounds where
  index : Nat
  size : Nat
deriving DecidableEq, Repr

/-- `ArrayList.remove(index)`. -/
def remove {α : Type} (list : List α) (index : Nat) : Except IndexOutOfBounds (List α) :=
  if index < list.length then .ok (list.eraseIdx index) else .error ⟨index, list.length⟩

namespace ChatAdapter

/-- The loop of `add` from index `i` on, over what is left of `chatList`; `none` when it returns. -/
def recorrer (object : ConversationDataProvider) :
    Nat → List ConversationDataProvider → List ConversationDataProvider →
      Except IndexOutOfBounds (Option (List ConversationDataProvider))
  | _, [], chatListCurrent => .ok (some chatListCurrent)
  | i, entry :: chatList, chatListCurrent => do
    let chatListCurrent ← if entry.messageId = [] then remove chatListCurrent i else .ok chatListCurrent
    if entry.messageId = object.messageId then .ok none else recorrer object (i + 1) chatList chatListCurrent

/-- `add`: the list displayed after it. -/
def add (chatList : List ConversationDataProvider) (object : ConversationDataProvider) :
    Except IndexOutOfBounds (List ConversationDataProvider) := do
  match ← recorrer object 0 chatList chatList with
  | none => return chatList
  | some chatListCurrent => return chatListCurrent ++ [object]

/-! ## One addition -/

theorem recorrer_servidor (object : ConversationDataProvider) {servidor : List ConversationDataProvider}
    (hservidor : ∀ e ∈ servidor, e.messageId ≠ []) (i : Nat) (resto actual : List ConversationDataProvider) :
    recorrer object i (servidor ++ resto) actual =
      if object.messageId ∈ servidor.map (·.messageId) then .ok none
      else recorrer object (i + servidor.length) resto actual := by
  induction servidor generalizing i with
  | nil => rfl
  | cons e servidor ih =>
    obtain ⟨he, hservidor⟩ := List.forall_mem_cons.mp hservidor
    rw [List.cons_append, recorrer, if_neg he]
    show (if e.messageId = object.messageId then _ else _) = _
    by_cases heq : e.messageId = object.messageId
    · rw [if_pos heq, if_pos (by simp [heq])]
    · have hmem : object.messageId ∈ (e :: servidor).map (·.messageId) ↔ object.messageId ∈ servidor.map (·.messageId) := by
        rw [List.map_cons, List.mem_cons]
        exact or_iff_right (Ne.symm heq)
      rw [if_neg heq, ih hservidor, List.length_cons, Nat.add_right_comm, Nat.add_assoc]
      simp only [hmem]

/-- At a pending entry that is the last, the index in the copy is the one in the list. -/
theorem recorrer_pendiente (object : ConversationDataProvider) (servidor : List ConversationDataProvider)
    {e : ConversationDataProvider} (he : e.messageId = []) :
    recorrer object servidor.length [e] (servidor ++ [e]) =
      .ok (if object.messageId = [] then none else some servidor) := by
  have hremove : remove (servidor ++ [e]) servidor.length = .ok servidor := by
    rw [remove, if_pos (by simp), List.eraseIdx_append_of_length_le le_rfl, Nat.sub_self]
    simp
  rw [recorrer, if_pos he, hremove, he]
  by_cases hobject : object.messageId = []
  · rw [if_pos hobject, hobject]
    rfl
  · rw [if_neg hobject]
    exact if_neg (Ne.symm hobject)

/-- **What `add` displays**, from a list whose only pending entry is the last. -/
theorem add_eq (object : ConversationDataProvider) {servidor : List ConversationDataProvider}
    (hservidor : ∀ e ∈ servidor, e.messageId ≠ []) {pendiente : Option ConversationDataProvider}
    (hpendiente : ∀ e ∈ pendiente, e.messageId = []) :
    add (servidor ++ pendiente.toList) object =
      .ok (if object.messageId ∈ servidor.map (·.messageId) ∨ object.messageId = [] ∧ pendiente.isSome
        then servidor ++ pendiente.toList else servidor ++ [object]) := by
  rw [add, recorrer_servidor object hservidor, Nat.zero_add]
  by_cases hmem : object.messageId ∈ servidor.map (·.messageId)
  · rw [if_pos hmem, if_pos (.inl hmem)]
    rfl
  · rw [if_neg hmem]
    cases pendiente with
    | none =>
      have hno : ¬ (object.messageId ∈ servidor.map (·.messageId) ∨
          object.messageId = [] ∧ (none : Option ConversationDataProvider).isSome) := by
        rintro (h | ⟨-, h⟩)
        · exact hmem h
        · cases h
      rw [if_neg hno, Option.toList_none, List.append_nil, recorrer]
      rfl
    | some e =>
      rw [Option.toList_some, recorrer_pendiente object servidor (hpendiente e rfl)]
      by_cases hobject : object.messageId = []
      · rw [if_pos hobject, if_pos (.inr ⟨hobject, rfl⟩)]
        rfl
      · have hno : ¬ (object.messageId ∈ servidor.map (·.messageId) ∨ object.messageId = [] ∧ (some e).isSome) := by
          rintro (h | ⟨h, -⟩)
          · exact hmem h
          · exact hobject h
        rw [if_neg hobject, if_neg hno]
        rfl

/-! ## All additions -/

/-- The ids of the server among the additions, each where it comes first. -/
def idsServidor (agregados : List ConversationDataProvider) : List Cadena :=
  ((agregados.map (·.messageId)).filter (· ≠ [])).eraseDups

theorem eraseDups_concat {α : Type} [BEq α] [LawfulBEq α] (l : List α) (a : α) [Decidable (a ∈ l)] :
    (l ++ [a]).eraseDups = if a ∈ l then l.eraseDups else l.eraseDups ++ [a] := by
  rw [List.eraseDups_append, List.removeAll]
  split
  · rename_i hmem
    rw [List.filter_cons_of_neg (by simpa using hmem), List.filter_nil, List.eraseDups_nil, List.append_nil]
  · rename_i hmem
    rw [List.filter_cons_of_pos (by simpa using hmem), List.filter_nil, List.eraseDups_cons, List.filter_nil,
      List.eraseDups_nil]

theorem idsServidor_concat (agregados : List ConversationDataProvider) (object : ConversationDataProvider) :
    idsServidor (agregados ++ [object]) =
      if object.messageId = [] ∨ object.messageId ∈ idsServidor agregados then idsServidor agregados
      else idsServidor agregados ++ [object.messageId] := by
  have hmem : object.messageId ∈ idsServidor agregados ↔
      object.messageId ∈ (agregados.map (·.messageId)).filter (· ≠ []) := List.mem_eraseDups
  rw [idsServidor, List.map_append, List.filter_append, List.map_singleton]
  by_cases hvacio : object.messageId = []
  · rw [if_pos (.inl hvacio), List.filter_cons_of_neg (by simpa using hvacio), List.filter_nil, List.append_nil]
    rfl
  · rw [List.filter_cons_of_pos (by simpa using hvacio), List.filter_nil, eraseDups_concat]
    by_cases hesta : object.messageId ∈ idsServidor agregados
    · rw [if_pos (hmem.mp hesta), if_pos (.inr hesta)]
      rfl
    · rw [if_neg (mt hmem.mpr hesta), if_neg (not_or.mpr ⟨hvacio, hesta⟩)]
      rfl

/-- The list after some additions: the entries of the server in the order of their ids, then the pending one if any. -/
def Muestra (agregados chatList : List ConversationDataProvider) : Prop :=
  ∃ servidor, ∃ pendiente : Option ConversationDataProvider, chatList = servidor ++ pendiente.toList ∧
    (∀ e ∈ servidor, e.messageId ≠ []) ∧ (∀ e ∈ pendiente, e.messageId = []) ∧
    servidor.map (·.messageId) = idsServidor agregados ∧ (servidor.map (·.messageId)).Nodup

theorem Muestra.add {agregados chatList : List ConversationDataProvider} (h : Muestra agregados chatList)
    (object : ConversationDataProvider) :
    ∃ chatList', ChatAdapter.add chatList object = .ok chatList' ∧ Muestra (agregados ++ [object]) chatList' := by
  obtain ⟨servidor, pendiente, rfl, hservidor, hpendiente, hids, hnodup⟩ := h
  refine ⟨_, add_eq object hservidor hpendiente, ?_⟩
  by_cases hvacio : object.messageId = []
  · -- a pending message: it is displayed unless there is one already
    have hids' : idsServidor (agregados ++ [object]) = idsServidor agregados := by
      rw [idsServidor_concat, if_pos (.inl hvacio)]
    cases pendiente with
    | some e =>
      rw [if_pos (.inr ⟨hvacio, rfl⟩)]
      exact ⟨servidor, some e, rfl, hservidor, hpendiente, hids.trans hids'.symm, hnodup⟩
    | none =>
      have hno : ¬ (object.messageId ∈ servidor.map (·.messageId) ∨
          object.messageId = [] ∧ (none : Option ConversationDataProvider).isSome) := by
        rintro (hmem | ⟨-, h⟩)
        · obtain ⟨e, he, heq⟩ := List.mem_map.mp hmem
          exact hservidor e he (heq.trans hvacio)
        · cases h
      rw [if_neg hno]
      refine ⟨servidor, some object, rfl, hservidor, ?_, hids.trans hids'.symm, hnodup⟩
      intro e he
      cases he
      exact hvacio
  · by_cases hmem : object.messageId ∈ servidor.map (·.messageId)
    · -- an id that is displayed: nothing changes
      have hids' : idsServidor (agregados ++ [object]) = idsServidor agregados := by
        rw [idsServidor_concat, if_pos (.inr (hids ▸ hmem))]
      rw [if_pos (.inl hmem)]
      exact ⟨servidor, pendiente, rfl, hservidor, hpendiente, hids.trans hids'.symm, hnodup⟩
    · -- a new id: it takes the place of the pending entry
      have hids' : idsServidor (agregados ++ [object]) = idsServidor agregados ++ [object.messageId] := by
        rw [idsServidor_concat, if_neg (not_or.mpr ⟨hvacio, hids ▸ hmem⟩)]
      rw [if_neg (fun hno => hno.elim hmem fun hno => hvacio hno.1)]
      refine ⟨servidor ++ [object], none, (List.append_nil _).symm, ?_, fun e he => (by cases he), ?_, ?_⟩
      · intro e he
        rcases List.mem_append.mp he with he | he
        · exact hservidor e he
        · rw [List.mem_singleton.mp he]
          exact hvacio
      · rw [List.map_append, hids, hids']
        rfl
      · rw [List.map_append]
        exact List.nodup_middle.mpr (List.nodup_cons.mpr ⟨by simpa using hmem, by simpa using hnodup⟩)

/-- **The list of a chat is consistent.** No addition removes outside the copy; no id is displayed twice; a pending entry is
the last, so there is at most one; the ids of the server are those added, each where it came first. -/
theorem chat_consistente (agregados : List ConversationDataProvider) :
    ∃ chatList, agregados.foldlM ChatAdapter.add [] = .ok chatList ∧ (chatList.map (·.messageId)).Nodup ∧
      (∀ i e, chatList[i]? = some e → e.messageId = [] → i + 1 = chatList.length) ∧
      (chatList.filter (·.messageId = [])).length ≤ 1 ∧
      (chatList.map (·.messageId)).filter (· ≠ []) = idsServidor agregados := by
  have hinicio : Muestra [] [] :=
    ⟨[], none, rfl, fun e he => absurd he List.not_mem_nil, fun e he => (by cases he), rfl, .nil⟩
  obtain ⟨chatList, hrun, servidor, pendiente, rfl, hservidor, hpendiente, hids, hnodup⟩ :=
    Corridas.foldlM_historia hinicio (fun agregados chatList object h => h.add object) agregados
  have hsinId : (servidor.filter (·.messageId = [])) = [] :=
    List.filter_eq_nil_iff.mpr fun e he => by simpa using hservidor e he
  have hconId : (servidor.map (·.messageId)).filter (· ≠ []) = servidor.map (·.messageId) := by
    refine List.filter_eq_self.mpr fun id hid => ?_
    obtain ⟨e, he, rfl⟩ := List.mem_map.mp hid
    simpa using hservidor e he
  refine ⟨_, hrun, ?_⟩
  cases pendiente with
  | none =>
    rw [Option.toList_none, List.append_nil, hsinId, hconId]
    refine ⟨hnodup, fun i e hi hvacio => ?_, Nat.zero_le _, hids⟩
    exact absurd hvacio (hservidor e (List.mem_of_getElem? hi))
  | some e =>
    have he : e.messageId = [] := hpendiente e rfl
    have hnuevo : e.messageId ∉ servidor.map (·.messageId) := by
      intro hmem
      obtain ⟨f, hf, heq⟩ := List.mem_map.mp hmem
      exact hservidor f hf (heq.trans he)
    rw [Option.toList_some, List.map_append, List.filter_append, List.filter_append, hsinId, hconId, List.map_singleton]
    refine ⟨?_, fun i f hi hvacio => ?_, ?_, ?_⟩
    · exact List.nodup_middle.mpr (List.nodup_cons.mpr ⟨by simpa using hnuevo, by simpa using hnodup⟩)
    · by_contra hlast
      have hlt : i < servidor.length := by
        have := (List.getElem?_eq_some_iff.mp hi).1
        simp only [List.length_append, List.length_singleton] at this hlast
        omega
      rw [List.getElem?_append_left hlt] at hi
      exact hservidor f (List.mem_of_getElem? hi) hvacio
    · rw [List.nil_append]
      exact List.length_filter_le _ [e]
    · rw [List.filter_cons_of_neg (by simpa using he), List.filter_nil, List.append_nil, hids]

example : [⟨false, bytes "hola", []⟩, ⟨false, bytes "otra", []⟩, ⟨false, bytes "hola", bytes "m1"⟩].foldlM add [] =
    .ok [⟨false, bytes "hola", bytes "m1"⟩] := by decide

end ChatAdapter

end MensajeroX.Cliente
