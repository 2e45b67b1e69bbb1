import MensajeroX.Constantes

/-!
# `DbHelper`

The tables of the client that the two polling loops read and write: messages and conversations, each the list of its
rows in the order of insertion. A query without an order gives the rows in that order. A Java string is taken as its
bytes.
-/

namespace MensajeroX.Cliente
open Bytes

/-- `Message`, with the columns of its table. -/
structure Message where
  conversationId : Cadena
  messageId : Cadena
  body : Cadena
  date : Cadena
  transmitterId : Cadena
deriving DecidableEq, Repr

/-- `Conversation`, with the columns of its table. -/
structure Conversation where
  conversationId : Cadena
  contactPhone : Cadena
  contactName : Cadena
  contactProfilePicture : Cadena
  lastMessage : Cadena
deriving DecidableEq, Repr

structure DbHelper where
  messages : List Message := []
  conversations : List Conversation := []

namespace DbHelper

def insertMessage (db : DbHelper) (message : Message) : DbHelper := { db with messages := db.messages ++ [message] }

def insertConversation (db : DbHelper) (conversation : Conversation) : DbHelper :=
  { db with conversations := db.conversations ++ [conversation] }

def getMessagesByConversationId (db : DbHelper) (conversationId : Cadena) : List Message :=
  db.messages.filter (·.conversationId = conversationId)

def getConversations (db : DbHelper) : List Conversation := db.conversations

/-- `Conversation.getConversationIds`. -/
def getConversationIds (db : DbHelper) : List Cadena := db.getConversations.map (·.conversationId)

/-- What `getLastMessageIdByConversationId` may return: the id of a row that is first in descending order of dates, any
of them when there are several, and the empty text when there is no row. -/
def EsUltimo (db : DbHelper) (conversationId id : Cadena) : Prop :=
  (db.getMessagesByConversationId conversationId = [] ∧ id = []) ∨
  ∃ f ∈ db.getMessagesByConversationId conversationId, f.messageId = id ∧
    ∀ g ∈ db.getMessagesByConversationId conversationId, ¬ f.date < g.date

instance (db : DbHelper) (conversationId id : Cadena) : Decidable (db.EsUltimo conversationId id) := by
  unfold EsUltimo
  infer_instance

theorem getMessages_insertMessage (db : DbHelper) (m : Message) (k : Cadena) :
    (db.insertMessage m).getMessagesByConversationId k =
      db.getMessagesByConversationId k ++ if m.conversationId = k then [m] else [] := by
  unfold getMessagesByConversationId insertMessage
  rw [List.filter_append]
  by_cases h : m.conversationId = k <;> simp [h]

end DbHelper

end MensajeroX.Cliente
