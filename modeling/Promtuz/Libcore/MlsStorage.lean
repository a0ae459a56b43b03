import Promtuz.Lib.Bytes
import Promtuz.Lib.Table

/-! `PromtuzStorageProvider` (libcore `mls::storage`): the openmls storage provider over the
`mls_storage(group_id, key_tag, sub_key, value)` table and the `mls_group_size(group_id,
total_bytes)` sidecar that keeps each group's stored bytes for the budget check. Keys and
entities reach the provider CBOR-encoded; the model takes the encoded bytes. -/

namespace Promtuz

/-- `mls::MLS_GROUP_STATE_BUDGET_BYTES`: what one group's rows may hold. -/
def MLS_GROUP_STATE_BUDGET_BYTES : Nat := 1024 * 1024

namespace MlsStorage

namespace tags

def JOIN_CONFIG : Int := 0x01
def OWN_LEAF_NODES : Int := 0x02
def QUEUED_PROPOSAL : Int := 0x03
def PROPOSAL_QUEUE_REFS : Int := 0x04
def TREE : Int := 0x05
def INTERIM_TRANSCRIPT_HASH : Int := 0x06
def GROUP_CONTEXT : Int := 0x07
def CONFIRMATION_TAG : Int := 0x08
def GROUP_STATE : Int := 0x09
def MESSAGE_SECRETS : Int := 0x0A
def RESUMPTION_PSK_STORE : Int := 0x0B
def OWN_LEAF_NODE_INDEX : Int := 0x0C
def GROUP_EPOCH_SECRETS : Int := 0x0D
def EPOCH_KEY_PAIRS : Int := 0x0E
def SIGNATURE_KEY_PAIR : Int := 0x20
def ENCRYPTION_KEY_PAIR : Int := 0x21
def KEY_PACKAGE : Int := 0x22
def PSK : Int := 0x23

end tags

/-- `PromtuzMlsStorageError`, with the variants the provider's writes raise: a failed statement
(the primary-key conflict of `list_append`'s plain `INSERT`) and the budget refusal. -/
inductive PromtuzMlsStorageError
  | sqlite
  | budgetExceeded (existing requested limit : Nat)
  deriving DecidableEq, Repr

/-- A row of `mls_storage`. -/
structure StorageRow where
  groupId : List UInt8
  keyTag : Int
  subKey : List UInt8
  value : List UInt8
  deriving DecidableEq, Repr

/-- The primary key `(group_id, key_tag, sub_key)`. -/
def StorageRow.key (r : StorageRow) : List UInt8 × Int × List UInt8 := (r.groupId, r.keyTag, r.subKey)

structure MlsTables where
  storage : List StorageRow
  groupSize : List (List UInt8 × Int)
  deriving DecidableEq, Repr

namespace MlsTables

def empty : MlsTables := ⟨[], []⟩

variable (db : MlsTables) (groupId : List UInt8) (keyTag : Int)

/-- `SELECT value FROM mls_storage WHERE group_id = ?1 AND key_tag = ?2 AND sub_key = ?3`. -/
def getRaw (subKey : List UInt8) : Option (List UInt8) :=
  (db.storage.find? fun r => decide (r.key = (groupId, keyTag, subKey))).map (·.value)

/-- `SELECT length(value) FROM mls_storage WHERE group_id = ?1 AND key_tag = ?2 AND sub_key = ?3`. -/
def lengthAt (subKey : List UInt8) : Option Nat :=
  (db.storage.find? fun r => decide (r.key = (groupId, keyTag, subKey))).map (·.value.length)

/-- `SELECT COALESCE(SUM(length(value)), 0) FROM mls_storage WHERE group_id = ?1`. -/
def groupBytes : Nat :=
  Table.sumWhere (fun r => decide (r.groupId = groupId)) (·.value.length) db.storage

/-- `SELECT COALESCE(SUM(length(value)), 0) FROM mls_storage WHERE group_id = ?1 AND key_tag = ?2`. -/
def tagBytes : Nat :=
  Table.sumWhere (fun r => decide (r.groupId = groupId ∧ r.keyTag = keyTag)) (·.value.length) db.storage

/-- `SELECT total_bytes FROM mls_group_size WHERE group_id = ?1`. -/
def totalBytes : Option Int :=
  (db.groupSize.find? fun e => decide (e.1 = groupId)).map (·.2)

/-- `SELECT MAX(sub_key) FROM mls_storage WHERE group_id = ?1 AND key_tag = ?2`: blobs compare
byte by byte, a proper prefix first. -/
def maxSubKey : Option (List UInt8) :=
  (db.storage.filter fun r => decide (r.groupId = groupId ∧ r.keyTag = keyTag)).foldl
    (fun m r => match m with
      | none => some r.subKey
      | some k => if k < r.subKey then some r.subKey else some k) none

/-- `SELECT sub_key, length(value) FROM mls_storage WHERE group_id = ?1 AND key_tag = ?2 AND
value = ?3 ORDER BY sub_key ASC LIMIT 1`. -/
def firstWithValue (value : List UInt8) : Option StorageRow :=
  (db.storage.filter fun r => decide (r.groupId = groupId ∧ r.keyTag = keyTag ∧ r.value = value)).foldl
    (fun m r => match m with
      | none => some r
      | some s => if r.subKey < s.subKey then some r else some s) none

/-- `INSERT INTO mls_storage ... ON CONFLICT(group_id, key_tag, sub_key) DO UPDATE SET value = excluded.value`. -/
def upsert (row : StorageRow) : MlsTables :=
  { db with storage := Table.replace StorageRow.key row db.storage }

/-- A plain `INSERT INTO mls_storage`, for a key no row holds. -/
def insert (row : StorageRow) : MlsTables :=
  { db with storage := db.storage ++ [row] }

/-- `DELETE FROM mls_storage WHERE group_id = ?1 AND key_tag = ?2 AND sub_key = ?3`. -/
def deleteKey (subKey : List UInt8) : MlsTables :=
  { db with storage := Table.delete (fun r => decide (r.key = (groupId, keyTag, subKey))) db.storage }

/-- `DELETE FROM mls_storage WHERE group_id = ?1 AND key_tag = ?2`. -/
def deleteTag : MlsTables :=
  { db with storage := Table.delete (fun r => decide (r.groupId = groupId ∧ r.keyTag = keyTag)) db.storage }

/-- The `mls_group_size` row of `group_id` written to `total`. -/
def setTotal (total : Int) : MlsTables :=
  { db with groupSize := Table.replace Prod.fst (groupId, total) db.groupSize }

end MlsTables

def asU64 (x : Int) : Nat := (x % 2 ^ 64).toNat

def overBudget (x : Int) : Bool := decide (x < 0) || decide ((MLS_GROUP_STATE_BUDGET_BYTES : Int) < x)

/-- `check_budget`: the group's size after a write of `delta` bytes, from the sidecar, refused
over the budget; a negative projection falls back to summing the group's rows. -/
def checkBudget (conn : MlsTables) (groupId : List UInt8) (delta : Int) :
    Except PromtuzMlsStorageError Unit :=
  let existing : Int := (conn.totalBytes groupId).getD 0
  let projected := existing + delta
  if projected < 0 then
    let actual : Int := conn.groupBytes groupId
    if overBudget (actual + delta) then
      .error (.budgetExceeded (asU64 actual) (asU64 (max delta 0)) MLS_GROUP_STATE_BUDGET_BYTES)
    else .ok ()
  else if overBudget projected then
    .error (.budgetExceeded (asU64 existing) (asU64 (max delta 0)) MLS_GROUP_STATE_BUDGET_BYTES)
  else .ok ()

/-- `add_to_group_size`: `INSERT ... VALUES (?1, MAX(?2, 0)) ON CONFLICT(group_id) DO UPDATE SET
total_bytes = MAX(total_bytes + ?2, 0)`, skipped for a zero delta. -/
def addToGroupSize (conn : MlsTables) (groupId : List UInt8) (delta : Int) : MlsTables :=
  if delta = 0 then conn
  else
    match conn.totalBytes groupId with
    | none => conn.setTotal groupId (max delta 0)
    | some total => conn.setTotal groupId (max (total + delta) 0)

/-- `put`: one `(group_id, key_tag, sub_key) → value` row, budgeted and counted for a
non-empty group id. -/
def put (db : MlsTables) (groupId : List UInt8) (keyTag : Int) (subKey value : List UInt8) :
    Except PromtuzMlsStorageError MlsTables := do
  let prevLen : Int := (db.lengthAt groupId keyTag subKey).getD 0
  if !groupId.isEmpty then checkBudget db groupId (value.length - prevLen)
  let newLen : Int := value.length
  let tx := db.upsert ⟨groupId, keyTag, subKey, value⟩
  pure (if !groupId.isEmpty then addToGroupSize tx groupId (newLen - prevLen) else tx)

/-- `delete_one`: the row at the key, if any, with its length taken off the sidecar. -/
def deleteOne (db : MlsTables) (groupId : List UInt8) (keyTag : Int) (subKey : List UInt8) : MlsTables :=
  let prevLen : Int := (db.lengthAt groupId keyTag subKey).getD 0
  let tx := db.deleteKey groupId keyTag subKey
  if !groupId.isEmpty && decide (0 < prevLen) then addToGroupSize tx groupId (-prevLen) else tx

/-- `delete_by_tag`: every row of `(group_id, key_tag)`, their summed length taken off at once. -/
def deleteByTag (db : MlsTables) (groupId : List UInt8) (keyTag : Int) : MlsTables :=
  let totalToRemove : Int := db.tagBytes groupId keyTag
  let tx := db.deleteTag groupId keyTag
  if !groupId.isEmpty && decide (0 < totalToRemove) then addToGroupSize tx groupId (-totalToRemove) else tx

/-- The index `list_append` writes next: one past the largest 8-byte sub key, wrapping as `u64`
arithmetic does in a release build, or 0 for an empty list. -/
def nextIdx (db : MlsTables) (groupId : List UInt8) (keyTag : Int) : Nat :=
  ((db.maxSubKey groupId keyTag).bind fun b =>
    if b.length = 8 then some ((Bytes.beValue b + 1) % 2 ^ 64) else none).getD 0

/-- `list_append`: the element as its own row under `sub_key = u64_be(next index)`. -/
def listAppend (db : MlsTables) (groupId : List UInt8) (keyTag : Int) (value : List UInt8) :
    Except PromtuzMlsStorageError MlsTables := do
  let subKey := Bytes.toBeBytes 8 (nextIdx db groupId keyTag)
  if !groupId.isEmpty then checkBudget db groupId value.length
  -- a plain INSERT: a row already under the key fails the statement
  if (db.lengthAt groupId keyTag subKey).isSome then throw .sqlite
  let tx := db.insert ⟨groupId, keyTag, subKey, value⟩
  pure (if !groupId.isEmpty then addToGroupSize tx groupId value.length else tx)

/-- `list_remove`: the lowest-indexed row holding `value`, if any. -/
def listRemove (db : MlsTables) (groupId : List UInt8) (keyTag : Int) (value : List UInt8) : MlsTables :=
  match db.firstWithValue groupId keyTag value with
  | none => db
  | some row =>
      let prevLen : Int := row.value.length
      let tx := db.deleteKey groupId keyTag row.subKey
      if !groupId.isEmpty then addToGroupSize tx groupId (-prevLen) else tx

inductive Tx
  | put (groupId : List UInt8) (keyTag : Int) (subKey value : List UInt8)
  | deleteOne (groupId : List UInt8) (keyTag : Int) (subKey : List UInt8)
  | deleteByTag (groupId : List UInt8) (keyTag : Int)
  | listAppend (groupId : List UInt8) (keyTag : Int) (value : List UInt8)
  | listRemove (groupId : List UInt8) (keyTag : Int) (value : List UInt8)

def Tx.run (db : MlsTables) : Tx → Except PromtuzMlsStorageError MlsTables
  | .put groupId keyTag subKey value => MlsStorage.put db groupId keyTag subKey value
  | .deleteOne groupId keyTag subKey => .ok (MlsStorage.deleteOne db groupId keyTag subKey)
  | .deleteByTag groupId keyTag => .ok (MlsStorage.deleteByTag db groupId keyTag)
  | .listAppend groupId keyTag value => MlsStorage.listAppend db groupId keyTag value
  | .listRemove groupId keyTag value => .ok (MlsStorage.listRemove db groupId keyTag value)

def runTxs (db : MlsTables) : List Tx → Except PromtuzMlsStorageError Unit × MlsTables
  | [] => (.ok (), db)
  | tx :: rest =>
      match tx.run db with
      | .ok db' => runTxs db' rest
      | .error e => (.error e, db)

/-- The `StorageProvider` methods that write, each with its encoded arguments. -/
inductive StorageCall
  | writeMlsJoinConfig (groupId config : List UInt8)
  | appendOwnLeafNode (groupId leafNode : List UInt8)
  | queueProposal (groupId proposalRef proposal : List UInt8)
  | writeTree (groupId tree : List UInt8)
  | writeInterimTranscriptHash (groupId interimTranscriptHash : List UInt8)
  | writeContext (groupId groupContext : List UInt8)
  | writeConfirmationTag (groupId confirmationTag : List UInt8)
  | writeGroupState (groupId groupState : List UInt8)
  | writeMessageSecrets (groupId messageSecrets : List UInt8)
  | writeResumptionPskStore (groupId resumptionPskStore : List UInt8)
  | writeOwnLeafIndex (groupId ownLeafIndex : List UInt8)
  | writeGroupEpochSecrets (groupId groupEpochSecrets : List UInt8)
  | writeSignatureKeyPair (publicKey signatureKeyPair : List UInt8)
  | writeEncryptionKeyPair (publicKey keyPair : List UInt8)
  | writeEncryptionEpochKeyPairs (groupId epochLeafSubkey keyPairs : List UInt8)
  | writeKeyPackage (hashRef keyPackage : List UInt8)
  | writePsk (pskId psk : List UInt8)
  | removeProposal (groupId proposalRef : List UInt8)
  | deleteOwnLeafNodes (groupId : List UInt8)
  | deleteGroupConfig (groupId : List UInt8)
  | deleteTree (groupId : List UInt8)
  | deleteConfirmationTag (groupId : List UInt8)
  | deleteGroupState (groupId : List UInt8)
  | deleteContext (groupId : List UInt8)
  | deleteInterimTranscriptHash (groupId : List UInt8)
  | deleteMessageSecrets (groupId : List UInt8)
  | deleteAllResumptionPskSecrets (groupId : List UInt8)
  | deleteOwnLeafIndex (groupId : List UInt8)
  | deleteGroupEpochSecrets (groupId : List UInt8)
  | clearProposalQueue (groupId : List UInt8)
  | deleteSignatureKeyPair (publicKey : List UInt8)
  | deleteEncryptionKeyPair (publicKey : List UInt8)
  | deleteEncryptionEpochKeyPairs (groupId epochLeafSubkey : List UInt8)
  | deleteKeyPackage (hashRef : List UInt8)
  | deletePsk (pskId : List UInt8)

open tags in
def StorageCall.txs : StorageCall → List Tx
  | .writeMlsJoinConfig gid config => [.put gid JOIN_CONFIG [] config]
  | .appendOwnLeafNode gid leafNode => [.listAppend gid OWN_LEAF_NODES leafNode]
  | .queueProposal gid prefBytes proposal =>
      [.put gid QUEUED_PROPOSAL prefBytes proposal, .listAppend gid PROPOSAL_QUEUE_REFS prefBytes]
  | .writeTree gid tree => [.put gid TREE [] tree]
  | .writeInterimTranscriptHash gid hash => [.put gid INTERIM_TRANSCRIPT_HASH [] hash]
  | .writeContext gid groupContext => [.put gid GROUP_CONTEXT [] groupContext]
  | .writeConfirmationTag gid confirmationTag => [.put gid CONFIRMATION_TAG [] confirmationTag]
  | .writeGroupState gid groupState => [.put gid GROUP_STATE [] groupState]
  | .writeMessageSecrets gid messageSecrets => [.put gid MESSAGE_SECRETS [] messageSecrets]
  | .writeResumptionPskStore gid store => [.put gid RESUMPTION_PSK_STORE [] store]
  | .writeOwnLeafIndex gid ownLeafIndex => [.put gid OWN_LEAF_NODE_INDEX [] ownLeafIndex]
  | .writeGroupEpochSecrets gid secrets => [.put gid GROUP_EPOCH_SECRETS [] secrets]
  | .writeSignatureKeyPair pk keyPair => [.put [] SIGNATURE_KEY_PAIR pk keyPair]
  | .writeEncryptionKeyPair pk keyPair => [.put [] ENCRYPTION_KEY_PAIR pk keyPair]
  | .writeEncryptionEpochKeyPairs gid subKey keyPairs => [.put gid EPOCH_KEY_PAIRS subKey keyPairs]
  | .writeKeyPackage href keyPackage => [.put [] KEY_PACKAGE href keyPackage]
  | .writePsk pskIdBytes psk => [.put [] PSK pskIdBytes psk]
  | .removeProposal gid prefBytes =>
      [.deleteOne gid QUEUED_PROPOSAL prefBytes, .listRemove gid PROPOSAL_QUEUE_REFS prefBytes]
  | .deleteOwnLeafNodes gid => [.deleteByTag gid OWN_LEAF_NODES]
  | .deleteGroupConfig gid => [.deleteOne gid JOIN_CONFIG []]
  | .deleteTree gid => [.deleteOne gid TREE []]
  | .deleteConfirmationTag gid => [.deleteOne gid CONFIRMATION_TAG []]
  | .deleteGroupState gid => [.deleteOne gid GROUP_STATE []]
  | .deleteContext gid => [.deleteOne gid GROUP_CONTEXT []]
  | .deleteInterimTranscriptHash gid => [.deleteOne gid INTERIM_TRANSCRIPT_HASH []]
  | .deleteMessageSecrets gid => [.deleteOne gid MESSAGE_SECRETS []]
  | .deleteAllResumptionPskSecrets gid => [.deleteOne gid RESUMPTION_PSK_STORE []]
  | .deleteOwnLeafIndex gid => [.deleteOne gid OWN_LEAF_NODE_INDEX []]
  | .deleteGroupEpochSecrets gid => [.deleteOne gid GROUP_EPOCH_SECRETS []]
  | .clearProposalQueue gid => [.deleteByTag gid QUEUED_PROPOSAL, .deleteByTag gid PROPOSAL_QUEUE_REFS]
  | .deleteSignatureKeyPair pk => [.deleteOne [] SIGNATURE_KEY_PAIR pk]
  | .deleteEncryptionKeyPair pk => [.deleteOne [] ENCRYPTION_KEY_PAIR pk]
  | .deleteEncryptionEpochKeyPairs gid subKey => [.deleteOne gid EPOCH_KEY_PAIRS subKey]
  | .deleteKeyPackage href => [.deleteOne [] KEY_PACKAGE href]
  | .deletePsk pskIdBytes => [.deleteOne [] PSK pskIdBytes]

/-- A method call: what it answers and the tables it leaves. -/
def StorageCall.apply (db : MlsTables) (c : StorageCall) : Except PromtuzMlsStorageError Unit × MlsTables :=
  runTxs db c.txs

def run (calls : List StorageCall) : MlsTables :=
  calls.foldl (fun db c => (c.apply db).2) MlsTables.empty

end MlsStorage

end Promtuz
