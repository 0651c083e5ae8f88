import RagStack.Chats.Repository
import RagStack.Core.ReadCommitted

/-!
# The tables that accounts share with chats

`schema.prisma` and the migrations, for the tables which sign-in, sign-up, refresh and the transfer
of an anonymous session touch: the rows, the foreign keys with their referential actions, and the
unique indexes.  Tables no modelled statement reads or writes (`admin`, `admin_session`, the
summaries of a chat) are left out, and `created_at` columns nothing here reads are too.

All tables share one space of keys.  The ids are UUIDs that PostgreSQL draws, so two rows have
different ones in whatever tables they are, and a foreign key says which table its row has to be in.
Keys are numbers that are counted up.  Of a drawn id nothing is used but that it is new, and that
the rows which exist have smaller ones.

The referential actions are what makes this schema interesting.  Deleting an anonymous session
deletes its chats, and with them their messages, but keeps its usage rows and clears their owner.
Deleting a chat keeps the usage rows as well.  So a DELETE is a statement about rows which it does
not name, and what is lost in it depends on what the rows refer to when it runs.

`refresh_jti` is another column that the database fills with `uuidv7()`.  Both values of a row are
generated together, so they get the same number.
-/

namespace RagStack

/-- A row of `user`. -/
structure User where
  email : String
  passwordHash : String
  displayName : Option String
  deriving Repr, DecidableEq

/-- A row of `anonymous_session`. -/
structure AnonymousSession where
  tokenHash : String
  expiresAt : Timestamp
  deriving Repr, DecidableEq

/-- A row of `auth_session`. -/
structure AuthSession where
  userId : Uuid
  refreshTokenHash : String
  refreshJti : Uuid
  userAgent : Option String
  ipHash : Option String
  expiresAt : Timestamp
  revokedAt : Option Timestamp
  replacedBySessionId : Option Uuid
  lastUsedAt : Timestamp
  deriving Repr, DecidableEq

/-- A row of some table.  One type for all of them, since the rows of all tables live under one
space of keys. -/
inductive Row where
  | User (user : User)
  | AnonymousSession (session : AnonymousSession)
  | AuthSession (session : AuthSession)
  | Model (model : Model)
  | Chat (chat : Chat)
  | Message (message : Message)
  | UsageLog (row : UsageLog)
  deriving Repr, DecidableEq

namespace Row

def isUser : Row → Bool
  | User _ => true
  | _ => false

def isAnonymousSession : Row → Bool
  | AnonymousSession _ => true
  | _ => false

def isAuthSession : Row → Bool
  | AuthSession _ => true
  | _ => false

def isModel : Row → Bool
  | Model _ => true
  | _ => false

def isChat : Row → Bool
  | Chat _ => true
  | _ => false

/-- The foreign keys of a row that are not NULL. -/
def references : Row → List (Key × (Row → Bool))
  | AuthSession session =>
      (session.userId, isUser)
        :: (session.replacedBySessionId.map fun id => (id, isAuthSession)).toList
  | Chat chat =>
      (chat.userId.map fun id => (id, isUser)).toList
        ++ (chat.anonymousSessionId.map fun id => (id, isAnonymousSession)).toList
        ++ [(chat.selectedModelId, isModel)]
  | Message message => [(message.chatId, isChat)]
  | UsageLog row =>
      (row.userId.map fun id => (id, isUser)).toList
        ++ (row.anonymousSessionId.map fun id => (id, isAnonymousSession)).toList
        ++ (row.chatId.map fun id => (id, isChat)).toList ++ [(row.modelId, isModel)]
  | User _ | AnonymousSession _ | Model _ => []

/-- The foreign keys with `onDelete: Cascade`: the row goes when the row it refers to goes. -/
def cascades : Row → List (Key × (Row → Bool))
  | AuthSession session => [(session.userId, isUser)]
  | Chat chat =>
      (chat.userId.map fun id => (id, isUser)).toList
        ++ (chat.anonymousSessionId.map fun id => (id, isAnonymousSession)).toList
  | Message message => [(message.chatId, isChat)]
  | _ => []

/-- The reference, unless the row it points to is deleted. -/
def keepReference (gone : Key → Option Row) (table : Row → Bool) (id : Option Uuid) : Option Uuid :=
  id.filter fun k => !(gone k).any table

/-- The foreign keys with `onDelete: SetNull` are cleared when the row they refer to is deleted, and
the row itself stays. -/
def setNull (gone : Key → Option Row) : Row → Row
  | AuthSession session =>
      AuthSession { session with
        replacedBySessionId := keepReference gone isAuthSession session.replacedBySessionId }
  | UsageLog row =>
      UsageLog { row with
        userId := keepReference gone isUser row.userId
        anonymousSessionId := keepReference gone isAnonymousSession row.anonymousSessionId
        chatId := keepReference gone isChat row.chatId }
  | r => r

/-- The unique indexes: the two rows cannot be in the database together.  As in SQL two NULLs are
different, which is why a row without a value is in nobody's way. -/
def clash : Row → Row → Bool
  | User a, User b => a.email == b.email
  | AnonymousSession a, AnonymousSession b => a.tokenHash == b.tokenHash
  | AuthSession a, AuthSession b =>
      a.refreshTokenHash == b.refreshTokenHash || a.refreshJti == b.refreshJti
        || a.replacedBySessionId.isSome && a.replacedBySessionId == b.replacedBySessionId
  | Model a, Model b => a.name == b.name
  | _, _ => false

end Row

/-- The schema of these tables: foreign keys with their referential actions, unique indexes, and how
far a DELETE can cascade.  A user has chats, and these have messages. -/
def accountSchema : Schema Row where
  references := Row.references
  cascades := Row.cascades
  setNull := Row.setNull
  depth := 2
  clash := Row.clash

end RagStack
