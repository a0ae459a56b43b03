import Promtuz.Lib.Bytes
import Promtuz.Lib.Table

namespace Promtuz

/-- `db::messages::MessageRow`, with the columns the edit, revise and delete paths read or
write. -/
structure MessageRow where
  conversationId : Bytes 16
  senderIpk : Option (Bytes 32)
  content : String
  outgoing : Bool
  dispatchId : Option (List UInt8)
  edited : Bool
  deleted : Bool
  deriving DecidableEq

def KIND_IMAGE : UInt8 := 1

def KIND_ATTACHMENT : UInt8 := 2

/-- `data::media::MediaRow`: the side-row a media message keeps beside its caption. -/
structure MediaRow where
  kind : UInt8
  groupId : Option (List UInt8)
  mime : String
  name : String
  size : UInt64
  width : UInt32
  height : UInt32
  blob : Option (List UInt8)
  thumb : Option (List UInt8)
  fileId : Option (List UInt8)
  deriving DecidableEq

/-- A `message_media` row under its primary key `(conversation_id, dispatch_id)`. -/
structure MediaEntry where
  conversationId : Bytes 16
  dispatchId : Bytes 16
  row : MediaRow
  deriving DecidableEq

def MediaEntry.key (e : MediaEntry) : Bytes 16 × Bytes 16 := (e.conversationId, e.dispatchId)

/-- The `messages` and `message_media` tables of the messages database. -/
structure MessagesDb where
  messages : List MessageRow
  media : List MediaEntry

namespace Message

/-- The rows an `UPDATE ... WHERE conversation_id = ? AND dispatch_id = ?` addresses. -/
def targets (conversationId : Bytes 16) (dispatchId : List UInt8) (r : MessageRow) : Bool :=
  decide (r.conversationId = conversationId) && decide (r.dispatchId = some dispatchId)

/-- `?5 IS NULL OR sender_ipk = ?5`; a NULL `sender_ipk` never equals a value. -/
def authorMatches (author : Option (Bytes 32)) (r : MessageRow) : Bool :=
  match author with
  | none => true
  | some a => decide (r.senderIpk = some a)

def editGuard (conversationId : Bytes 16) (dispatchId : List UInt8) (own : Bool)
    (author : Option (Bytes 32)) (r : MessageRow) : Bool :=
  targets conversationId dispatchId r && decide (r.outgoing = own) && !r.deleted && authorMatches author r

def deleteGuard (conversationId : Bytes 16) (dispatchId : List UInt8) (own : Bool)
    (author : Option (Bytes 32)) (r : MessageRow) : Bool :=
  targets conversationId dispatchId r && decide (r.outgoing = own) && authorMatches author r

/-- The `SELECT * ... WHERE conversation_id = ? AND dispatch_id = ?` after a write that
touched at least one row. -/
def reread (rows : List MessageRow) (n : Nat) (conversationId : Bytes 16) (dispatchId : List UInt8) :
    Option MessageRow :=
  if n = 0 then none else rows.find? (targets conversationId dispatchId)

/-- `Message::apply_edit`. -/
def applyEdit (db : MessagesDb) (conversationId : Bytes 16) (dispatchId : List UInt8) (content : String)
    (own : Bool) (author : Option (Bytes 32)) : Option MessageRow × MessagesDb :=
  let guard := editGuard conversationId dispatchId own author
  let rows := Table.update guard (fun r => { r with content := content, edited := true }) db.messages
  let n := db.messages.countP guard
  (reread rows n conversationId dispatchId, if n = 0 then db else { db with messages := rows })

/-- `Message::apply_delete`: no `deleted = 0` guard, so a tombstone may be tombstoned again. -/
def applyDelete (db : MessagesDb) (conversationId : Bytes 16) (dispatchId : List UInt8) (own : Bool)
    (author : Option (Bytes 32)) : Option MessageRow × MessagesDb :=
  let guard := deleteGuard conversationId dispatchId own author
  let rows := Table.update guard (fun r => { r with content := "", deleted := true, edited := false })
    db.messages
  let n := db.messages.countP guard
  (reread rows n conversationId dispatchId, if n = 0 then db else { db with messages := rows })

end Message

namespace Media

/-- `media::get`. -/
def get (db : MessagesDb) (conv dispatchId : Bytes 16) : Option MediaRow :=
  (db.media.find? fun e => decide (e.key = (conv, dispatchId))).map MediaEntry.row

/-- `media::save_tx`: `INSERT OR REPLACE INTO message_media`. -/
def saveTx (media : List MediaEntry) (conv dispatchId : Bytes 16) (r : MediaRow) : List MediaEntry :=
  Table.replace MediaEntry.key ⟨conv, dispatchId, r⟩ media

/-- The guard of `media::apply_revise`: unlike `apply_edit` it takes no author, only
`outgoing = own`. -/
def reviseGuard (conv dispatchId : Bytes 16) (own : Bool) (r : MessageRow) : Bool :=
  Message.targets conv dispatchId.1 r && decide (r.outgoing = own) && !r.deleted

/-- `media::apply_revise`: the new text, and the media side-row replaced or dropped, in one
transaction that commits only when a message row matched. -/
def applyRevise (db : MessagesDb) (conv dispatchId : Bytes 16) (content : String) (media : Option MediaRow)
    (own : Bool) : Option MessageRow × MessagesDb :=
  let guard := reviseGuard conv dispatchId own
  let n := db.messages.countP guard
  if n = 0 then (none, db)
  else
    let rows := Table.update guard (fun r => { r with content := content, edited := true }) db.messages
    let mediaRows := match media with
      | some r => saveTx db.media conv dispatchId r
      | none => Table.delete (fun e => decide (e.key = (conv, dispatchId))) db.media
    (rows.find? (Message.targets conv dispatchId.1), ⟨rows, mediaRows⟩)

end Media

/-- `mls_wire::Body`. -/
inductive Body where
  | text (content : String)
  | image (caption : String) (groupId : Option (Bytes 16)) (mime : String) (width height : UInt32)
      (data : List UInt8)
  | attachment (caption : String) (groupId : Option (Bytes 16)) (mime name : String) (size : UInt64)
      (thumb : List UInt8) (fileId : Bytes 32)
  | sticker (pack : Bytes 16) (id : UInt32)
  deriving DecidableEq

inductive BodyKind where
  | text
  | image
  | attachment
  | sticker
  deriving DecidableEq, Repr

def BodyKind.of : Body → BodyKind
  | .text .. => .text
  | .image .. => .image
  | .attachment .. => .attachment
  | .sticker .. => .sticker

def BodyKind.stored (mediaKind : Option UInt8) : BodyKind :=
  if mediaKind = some KIND_IMAGE then .image
  else if mediaKind = some KIND_ATTACHMENT then .attachment
  else .text

def BodyKind.revisableTo : BodyKind → BodyKind → Bool
  | .text, .text | .text, .image | .image, .text | .image, .image => true
  | .attachment, .attachment => true
  | .sticker, .sticker => true
  | _, _ => false

/-- `split_body`: the caption to store and the media side-row it needs; `none` for a sticker. -/
def splitBody : Body → Option (String × Option MediaRow)
  | .text content => some (content, none)
  | .image caption groupId mime width height data =>
      some (caption, some ⟨KIND_IMAGE, groupId.map Subtype.val, mime, "", UInt64.ofNat data.length, width,
        height, some data, none, none⟩)
  | .attachment caption groupId mime name size thumb fileId =>
      some (caption, some ⟨KIND_ATTACHMENT, groupId.map Subtype.val, mime, name, size, 0, 0, none,
        if thumb.isEmpty then none else some thumb, some fileId.1⟩)
  | .sticker .. => none

inductive ReviseError where
  | notPermitted (current incoming : BodyKind)
  | stickerUnsupported
  deriving DecidableEq, Repr

/-- `messaging::apply_revise_body`: the revision matrix, then `media::apply_revise`. -/
def applyReviseBody (db : MessagesDb) (conversation target : Bytes 16) (body : Body) (own : Bool) :
    Except ReviseError (Option (MessageRow × String)) × MessagesDb :=
  let current := BodyKind.stored ((Media.get db conversation target).map MediaRow.kind)
  let incoming := BodyKind.of body
  if !current.revisableTo incoming then (.error (.notPermitted current incoming), db)
  else
    match splitBody body with
    | none => (.error .stickerUnsupported, db)
    | some (content, media) =>
        let (row, db) := Media.applyRevise db conversation target content media own
        (.ok (row.map fun r => (r, content)), db)

/-- The inbound payloads of `process_deliver` that rewrite a stored message. -/
inductive EditPayload where
  | edit (target : Bytes 16) (content : String)
  | revise (target : Bytes 16) (body : Body)
  | delete (target : Bytes 16)

/-- The `Edit`, `Revise` and `Delete` arms of `process_deliver`, in the conversation the
envelope resolved to and with `author` read off the MLS leaf credential. Each arm passes
`own = false`; `Edit` and `Delete` also pass the author. -/
def processEditPayload (db : MessagesDb) (conv : Bytes 16) (author : Bytes 32) : EditPayload → MessagesDb
  | .edit target content => (Message.applyEdit db conv target.1 content false (some author)).2
  | .revise target body => (applyReviseBody db conv target body false).2
  | .delete target => (Message.applyDelete db conv target.1 false (some author)).2

def processEditPayloads (db : MessagesDb) (steps : List (Bytes 16 × Bytes 32 × EditPayload)) : MessagesDb :=
  steps.foldl (fun db s => processEditPayload db s.1 s.2.1 s.2.2) db

end Promtuz
