import Promtuz.Common.MlsWire
import Promtuz.Libcore.Conversation

namespace Promtuz

def MAX_EPOCH_AHEAD_BUFFER : Nat := 512

def MAX_EPOCH_AHEAD_BYTES : Nat := 8 * 1024 * 1024

def MAX_EPOCH_AHEAD : Nat := 64

def EPOCH_CATCHUP_LIMIT : Nat := 1024

/-- A row of the `mls_epoch_ahead` table. -/
structure EpochAheadRow where
  groupId : Bytes 32
  epoch : Nat
  dispatchId : List UInt8
  msgBlob : List UInt8
  receivedAtMs : Nat
  acceptedAtMs : Nat
  deriving DecidableEq

inductive PushOutcome where
  | inserted
  | discarded
  | replaced
  deriving DecidableEq, Repr

/-- `MlsGroupError::Storage`, the variant the buffer raises, with SQLite's message. -/
inductive MlsGroupError where
  | storage (sqlite : String)
  deriving DecidableEq, Repr

/-- `epoch_catchup::ProcessedApplicationMessage`. -/
structure ProcessedApplicationMessage where
  dispatchId : List UInt8
  plaintext : List UInt8
  epoch : Nat
  acceptedAtMs : Nat
  sender : Option (Bytes 32)
  deriving DecidableEq

/-- What openmls makes of a buffered blob: `mls_message_from_bytes` or
`try_into_protocol_message` failing, or the outcome of `process_incoming`. -/
inductive Processed where
  | malformed
  | notProtocol
  | application (plaintext : List UInt8) (sender : Option (Bytes 32))
  | stagedCommit
  | proposal
  | failed
  deriving DecidableEq

namespace EpochCatchupBuffer

/-- `WHERE group_id = ?1 AND dispatch_id = ?2`. -/
def sameKey (groupId : Bytes 32) (dispatchId : List UInt8) (r : EpochAheadRow) : Bool :=
  decide (r.groupId = groupId) && decide (r.dispatchId = dispatchId)

def ofGroup (groupId : Bytes 32) (r : EpochAheadRow) : Bool := decide (r.groupId = groupId)

/-- `SELECT COALESCE(SUM(length(msg_blob)), 0) ... WHERE group_id = ?1`. -/
def bufferedBytes (rows : List EpochAheadRow) (groupId : Bytes 32) : Nat :=
  ((rows.filter (ofGroup groupId)).map fun r => r.msgBlob.length).sum

/-- The cap test of `push`: the group already holds `MAX_EPOCH_AHEAD_BUFFER` rows, or the
incoming message would take it past `MAX_EPOCH_AHEAD_BYTES`. -/
def overCap (rows : List EpochAheadRow) (groupId : Bytes 32) (len : Nat) : Bool :=
  decide (MAX_EPOCH_AHEAD_BUFFER ≤ rows.countP (ofGroup groupId)) ||
    decide (MAX_EPOCH_AHEAD_BYTES < bufferedBytes rows groupId + len)

/-- `EpochCatchupBuffer::push`, inside its `BEGIN IMMEDIATE` transaction. `sql = some e`
stands for a statement or the commit failing with SQLite's message `e`: the transaction rolls
back and the error propagates. -/
def push (rows : List EpochAheadRow) (groupId : Bytes 32) (msgBytes : List UInt8) (msgEpoch : Nat)
    (dispatchId : List UInt8) (acceptedAtMs nowMs : Nat) (sql : Option String) :
    Except MlsGroupError PushOutcome × List EpochAheadRow :=
  match sql with
  | some e => (.error (.storage e), rows)
  | none =>
      if rows.any (sameKey groupId dispatchId) then (.ok .replaced, rows)
      -- drop newest: the incoming message is the one that goes
      else if overCap rows groupId msgBytes.length then (.ok .discarded, rows)
      else (.ok .inserted, rows ++ [⟨groupId, msgEpoch, dispatchId, msgBytes, nowMs, acceptedAtMs⟩])

/-- Openmls and SQLite at iteration `i` of a drain: what feeding the blob gives, whether
`merge_staged_commit` succeeds, and whether `delete_row` fails and with what message. -/
structure DrainOracle where
  process : Nat → List UInt8 → Processed
  merge : Nat → Bool
  deleteErr : Nat → Option String

/-- `WHERE group_id = ?1 AND epoch <= ?2`. -/
def ready (groupId : Bytes 32) (current : Nat) (r : EpochAheadRow) : Bool :=
  decide (r.groupId = groupId) && decide (r.epoch ≤ current)

/-- `ORDER BY epoch ASC, received_at_ms ASC`: `a` sorts strictly before `b`. -/
def before (a b : EpochAheadRow) : Bool :=
  decide (a.epoch < b.epoch) || (decide (a.epoch = b.epoch) && decide (a.receivedAtMs < b.receivedAtMs))

def pickOlder (best : Option EpochAheadRow) (r : EpochAheadRow) : Option EpochAheadRow :=
  match best with
  | none => some r
  | some b => if before r b then some r else some b

/-- The candidate query with its `LIMIT 1`; of rows that tie on both sort columns, the first
in table order. -/
def candidate (rows : List EpochAheadRow) (groupId : Bytes 32) (current : Nat) : Option EpochAheadRow :=
  (rows.filter (ready groupId current)).foldl pickOlder none

/-- `COALESCE(NULLIF(accepted_at_ms, 0), received_at_ms)`. -/
def acceptedAt (r : EpochAheadRow) : Nat :=
  if r.acceptedAtMs = 0 then r.receivedAtMs else r.acceptedAtMs

/-- The statement of the `delete_row` closure. -/
def deleteRow (rows : List EpochAheadRow) (groupId : Bytes 32) (dispatchId : List UInt8) :
    List EpochAheadRow :=
  Table.delete (sameKey groupId dispatchId) rows

structure DrainState where
  epoch : Nat
  rows : List EpochAheadRow
  output : List ProcessedApplicationMessage

/-- The arms of the loop body up to their `delete_row`: the state they leave, and whether they
then delete the row. Only a staged commit whose merge fails keeps it. -/
def feed (o : DrainOracle) (i : Nat) (s : DrainState) (r : EpochAheadRow) : DrainState × Bool :=
  match o.process i r.msgBlob with
  | .application plaintext sender =>
      (⟨s.epoch, s.rows, s.output ++ [⟨r.dispatchId, plaintext, r.epoch, acceptedAt r, sender⟩]⟩, true)
  | .stagedCommit => if o.merge i then (⟨s.epoch + 1, s.rows, s.output⟩, true) else (s, false)
  | _ => (s, true)

/-- The loop of `drain_when_ready`, `fuel` more iterations from iteration `i`. A failing
`delete_row(..)?` returns at once; the deletes and merges before it stand. -/
def drainLoop (o : DrainOracle) (groupId : Bytes 32) :
    Nat → Nat → DrainState → Except MlsGroupError Unit × DrainState
  | 0, _, s => (.ok (), s)
  | fuel + 1, i, s =>
      match candidate s.rows groupId s.epoch with
      | none => (.ok (), s)
      | some r =>
          let (s', del) := feed o i s r
          if del then
            match o.deleteErr i with
            | none => drainLoop o groupId fuel (i + 1) ⟨s'.epoch, deleteRow s'.rows groupId r.dispatchId, s'.output⟩
            | some e => (.error (.storage e), s')
          else drainLoop o groupId fuel (i + 1) s'

/-- `EpochCatchupBuffer::drain_when_ready`: the decrypted messages or the error, the table after
it, and the group's epoch after the commits it merged. -/
def drainWhenReady (o : DrainOracle) (groupId : Bytes 32) (epoch : Nat) (rows : List EpochAheadRow) :
    Except MlsGroupError (List ProcessedApplicationMessage) × List EpochAheadRow × Nat :=
  let (res, s) := drainLoop o groupId EPOCH_CATCHUP_LIMIT 0 ⟨epoch, rows, []⟩
  (res.map fun _ => s.output, s.rows, s.epoch)

section Lemmas

variable {rows : List EpochAheadRow} {groupId : Bytes 32} {current : Nat}

theorem push_of_overCap {msgBytes : List UInt8} {msgEpoch : Nat} {dispatchId : List UInt8}
    {acceptedAtMs nowMs : Nat} (hnew : rows.any (sameKey groupId dispatchId) = false)
    (hcap : overCap rows groupId msgBytes.length = true) :
    push rows groupId msgBytes msgEpoch dispatchId acceptedAtMs nowMs none = (.ok .discarded, rows) := by
  simp [push, hnew, hcap]

theorem push_rows (rows : List EpochAheadRow) (groupId : Bytes 32) (msgBytes : List UInt8) (msgEpoch : Nat) (dispatchId : List UInt8)
    (acceptedAtMs nowMs : Nat) (sql : Option String) :
    (push rows groupId msgBytes msgEpoch dispatchId acceptedAtMs nowMs sql).2 = rows ∨
      (overCap rows groupId msgBytes.length = false ∧
        (push rows groupId msgBytes msgEpoch dispatchId acceptedAtMs nowMs sql).2 =
          rows ++ [⟨groupId, msgEpoch, dispatchId, msgBytes, nowMs, acceptedAtMs⟩]) := by
  unfold push
  split
  · exact .inl rfl
  · split
    · exact .inl rfl
    · split
      · exact .inl rfl
      · rename_i hcap
        exact .inr ⟨by simpa using hcap, rfl⟩

theorem pickOlder_isSome (best : Option EpochAheadRow) (r : EpochAheadRow) : (pickOlder best r).isSome := by
  unfold pickOlder
  split
  · rfl
  · split <;> rfl

theorem pickOlder_cases {best : Option EpochAheadRow} {r x : EpochAheadRow} (h : pickOlder best r = some x) :
    best = some x ∨ x = r := by
  cases best with
  | none => exact .inr (Option.some.inj h).symm
  | some b =>
      simp only [pickOlder] at h
      split at h
      · exact .inr (Option.some.inj h).symm
      · exact .inl h

theorem foldl_pickOlder_mem (l : List EpochAheadRow) (best : Option EpochAheadRow) {x : EpochAheadRow}
    (h : l.foldl pickOlder best = some x) : best = some x ∨ x ∈ l := by
  induction l generalizing best with
  | nil => exact .inl h
  | cons r l ih =>
      rcases ih (pickOlder best r) h with hpick | hx
      · rcases pickOlder_cases hpick with hbest | rfl
        · exact .inl hbest
        · exact .inr List.mem_cons_self
      · exact .inr (List.mem_cons_of_mem r hx)

theorem foldl_pickOlder_isSome (l : List EpochAheadRow) (best : Option EpochAheadRow)
    (h : best.isSome ∨ l ≠ []) : (l.foldl pickOlder best).isSome := by
  induction l generalizing best with
  | nil => exact h.resolve_right (absurd rfl)
  | cons r l ih => exact ih (pickOlder best r) (.inl (pickOlder_isSome best r))

theorem candidate_mem {r : EpochAheadRow} (h : candidate rows groupId current = some r) :
    r ∈ rows ∧ ready groupId current r = true := by
  rcases foldl_pickOlder_mem _ none h with hnone | hr
  · cases hnone
  · exact List.mem_filter.mp hr

theorem candidate_isSome {r : EpochAheadRow} (hr : r ∈ rows) (hready : ready groupId current r = true) :
    (candidate rows groupId current).isSome :=
  foldl_pickOlder_isSome _ none (.inr (List.ne_nil_of_mem (List.mem_filter.mpr ⟨hr, hready⟩)))

theorem mem_deleteRow {dispatchId : List UInt8} {r : EpochAheadRow} :
    r ∈ deleteRow rows groupId dispatchId ↔ r ∈ rows ∧ sameKey groupId dispatchId r = false :=
  Table.mem_delete

variable {o : DrainOracle} {i : Nat} {s : DrainState} {r : EpochAheadRow}

@[simp] theorem feed_rows : (feed o i s r).1.rows = s.rows := by
  unfold feed
  split
  · rfl
  · split <;> rfl
  · rfl

theorem feed_deletes (hmerge : o.merge i = true) : (feed o i s r).2 = true := by
  unfold feed
  split
  · rfl
  · simp [hmerge]
  · rfl

theorem feed_application {plaintext : List UInt8} {sender : Option (Bytes 32)}
    (h : o.process i r.msgBlob = .application plaintext sender) :
    feed o i s r = (⟨s.epoch, s.rows, s.output ++ [⟨r.dispatchId, plaintext, r.epoch, acceptedAt r, sender⟩]⟩, true) := by
  simp [feed, h]

variable {fuel : Nat}

theorem drainLoop_none (h : candidate s.rows groupId s.epoch = none) :
    drainLoop o groupId (fuel + 1) i s = (.ok (), s) := by
  simp [drainLoop, h]

theorem drainLoop_keep (h : candidate s.rows groupId s.epoch = some r) (hdel : (feed o i s r).2 = false) :
    drainLoop o groupId (fuel + 1) i s = drainLoop o groupId fuel (i + 1) (feed o i s r).1 := by
  rcases hf : feed o i s r with ⟨s', del⟩
  rw [hf] at hdel
  subst hdel
  simp [drainLoop, h, hf]

theorem drainLoop_delete (h : candidate s.rows groupId s.epoch = some r) (hdel : (feed o i s r).2 = true)
    (hok : o.deleteErr i = none) :
    drainLoop o groupId (fuel + 1) i s = drainLoop o groupId fuel (i + 1)
      ⟨(feed o i s r).1.epoch, deleteRow s.rows groupId r.dispatchId, (feed o i s r).1.output⟩ := by
  rcases hf : feed o i s r with ⟨s', del⟩
  rw [hf] at hdel
  subst hdel
  have hrows : s'.rows = s.rows := by simpa [hf] using feed_rows (o := o) (i := i) (s := s) (r := r)
  simp [drainLoop, h, hf, hok, hrows]

theorem drainLoop_delete_fails {e : String} (h : candidate s.rows groupId s.epoch = some r)
    (hdel : (feed o i s r).2 = true) (herr : o.deleteErr i = some e) :
    drainLoop o groupId (fuel + 1) i s = (.error (.storage e), (feed o i s r).1) := by
  rcases hf : feed o i s r with ⟨s', del⟩
  rw [hf] at hdel
  subst hdel
  simp [drainLoop, h, hf, herr]

theorem deleteRow_sublist {dispatchId : List UInt8} : List.Sublist (deleteRow rows groupId dispatchId) rows :=
  List.filter_sublist

theorem drainLoop_rows_sublist (fuel i : Nat) (s : DrainState) :
    List.Sublist (drainLoop o groupId fuel i s).2.rows s.rows := by
  induction fuel generalizing i s with
  | zero => exact List.Sublist.refl _
  | succ fuel ih =>
      cases hc : candidate s.rows groupId s.epoch with
      | none => rw [drainLoop_none hc]
      | some r =>
          cases hdel : (feed o i s r).2
          · rw [drainLoop_keep hc hdel]
            simpa using ih (i + 1) (feed o i s r).1
          · cases herr : o.deleteErr i with
            | none =>
                rw [drainLoop_delete hc hdel herr]
                exact (ih (i + 1) _).trans deleteRow_sublist
            | some e =>
                rw [drainLoop_delete_fails hc hdel herr]
                simp

theorem drainWhenReady_rows_sublist (o : DrainOracle) (groupId : Bytes 32) (epoch : Nat)
    (rows : List EpochAheadRow) : List.Sublist (drainWhenReady o groupId epoch rows).2.1 rows := by
  simp only [drainWhenReady]
  exact drainLoop_rows_sublist _ _ _

end Lemmas

end EpochCatchupBuffer

/-- `.unwrap_or_default()` on a fallible list. -/
def unwrapOrDefault {ε α : Type} : Except ε (List α) → List α
  | .ok l => l
  | .error _ => []

/-- `messaging::InboundDecoded`, the variants `process_application_inbound_for` returns. -/
inductive InboundDecoded where
  | application (plaintext : List UInt8) (groupId author : Bytes 32)
  | applicationBuffered
  | applicationStale
  | applicationUndecryptable
  | applicationNoGroup (groupId : Bytes 32)
  deriving DecidableEq

/-- What openmls makes of the envelope's own message at the group's epoch: a decode failure
with its text, a spent ratchet secret, another `process_incoming` error, or the processed
content. A staged commit carries the group's member count, its add proposals, the outcome of
`merge_staged_commit` and the merged roster. -/
inductive LiveProcessed where
  | unparsable (error : String)
  | spentSecret
  | failed (error : String)
  | application (plaintext : List UInt8) (sender : Option (Bytes 32))
  | stagedCommit (memberCount addProposals : Nat) (merge : Option String) (roster : List (Bytes 32))
  | proposal

structure InboundEnv where
  live : LiveProcessed
  drain : EpochCatchupBuffer.DrainOracle
  pushSql : Option String
  nowMs : Nat

/-- The client state a call reads and writes: the group's epoch (`none` when no local group
state is stored), the epoch-ahead table, the conversations, and every message handed to
`persist_drained` so far. -/
structure MlsClient where
  epoch : Option Nat
  buffer : List EpochAheadRow
  conversations : ConversationsDb
  drained : List ProcessedApplicationMessage

/-- `blake3::hash(&env.mls_message.0).as_bytes()[..16]`. -/
def envelopeDispatchId (crypto : Crypto) (env : MlsApplicationEnvelopeP) : List UInt8 :=
  (crypto.blake3 env.mlsMessage).1.take 16

/-- The outer signature check; `verifyStrict` also stands for `VerifyingKey::from_bytes`. -/
def envelopeSigValid (crypto : Crypto) (senderIpk ourIpk : Bytes 32) (env : MlsApplicationEnvelopeP) :
    Bool :=
  crypto.verifyStrict senderIpk.1
    (envelopeSigningInput crypto PROTOCOL_VERSION ourIpk env.groupId env.epoch env.mlsMessage) env.senderSig.1

/-- `persist_drained(ctx.buffer.drain_when_ready(..).unwrap_or_default(), ..)` at `epoch`. -/
def drainAndPersist (o : EpochCatchupBuffer.DrainOracle) (groupId : Bytes 32) (epoch : Nat) (c : MlsClient) :
    MlsClient :=
  let (res, rows, epoch') := EpochCatchupBuffer.drainWhenReady o groupId epoch c.buffer
  ⟨some epoch', rows, c.conversations, c.drained ++ unwrapOrDefault res⟩

/-- The `env.epoch > current` branch: refuse an envelope more than `MAX_EPOCH_AHEAD` epochs
ahead, otherwise push it and answer `ApplicationBuffered`, whatever `push` reported. -/
def bufferAhead (crypto : Crypto) (io : InboundEnv) (c : MlsClient) (env : MlsApplicationEnvelopeP)
    (current acceptedAtMs : Nat) : Except String InboundDecoded × MlsClient :=
  let epoch := env.epoch.toNat
  let delta := epoch - current
  if MAX_EPOCH_AHEAD < delta then
    (.error s!"envelope epoch {epoch} too far ahead of current {current} (delta {delta} > MAX_EPOCH_AHEAD {MAX_EPOCH_AHEAD})", c)
  else
    match EpochCatchupBuffer.push c.buffer env.groupId env.mlsMessage epoch (envelopeDispatchId crypto env)
        acceptedAtMs io.nowMs io.pushSql with
    | (.error (.storage e), _) => (.error s!"epoch-ahead buffer push: storage: rusqlite error: {e}", c)
    | (.ok _, rows) => (.ok .applicationBuffered, ⟨c.epoch, rows, c.conversations, c.drained⟩)

/-- The `env.epoch == current` branch: openmls processes the message; a decrypted message or a
merged commit is followed by a drain of the buffer. -/
def processLive (io : InboundEnv) (c : MlsClient) (senderIpk : Bytes 32) (env : MlsApplicationEnvelopeP)
    (current : Nat) : Except String InboundDecoded × MlsClient :=
  match io.live with
  | .unparsable e => (.error e, c)
  | .spentSecret => (.ok .applicationUndecryptable, c)
  | .failed e => (.error s!"process_incoming: {e}", c)
  | .application plaintext sender =>
      (.ok (.application plaintext env.groupId (sender.getD senderIpk)),
        drainAndPersist io.drain env.groupId current c)
  | .stagedCommit memberCount addProposals merge roster =>
      -- the roster limit is checked before the merge, the roster synced after it
      match applyStagedCommit c.conversations env.groupId memberCount addProposals roster, merge with
      | .error e, _ => (.error e, c)
      | .ok _, some e => (.error s!"merge_staged_commit: {e}", c)
      | .ok db, none =>
          (.ok .applicationBuffered, drainAndPersist io.drain env.groupId (current + 1) ⟨c.epoch, c.buffer, db, c.drained⟩)
  | .proposal => (.ok .applicationBuffered, c)

/-- `messaging::process_application_inbound_for`. -/
def processApplicationInboundFor (crypto : Crypto) (io : InboundEnv) (c : MlsClient)
    (senderIpk ourIpk : Bytes 32) (env : MlsApplicationEnvelopeP) (acceptedAtMs : Nat) :
    Except String InboundDecoded × MlsClient :=
  if !envelopeSigValid crypto senderIpk ourIpk env then (.error "application envelope sig invalid", c)
  else
    match c.epoch with
    | none => (.ok (.applicationNoGroup env.groupId), c)
    | some current =>
        if current < env.epoch.toNat then bufferAhead crypto io c env current acceptedAtMs
        else if env.epoch.toNat < current then (.ok .applicationStale, c)
        else processLive io c senderIpk env current

section Inbound

variable {crypto : Crypto} {io : InboundEnv} {c : MlsClient} {senderIpk ourIpk : Bytes 32}
  {env : MlsApplicationEnvelopeP} {acceptedAtMs current : Nat}

theorem processApplicationInboundFor_ahead (hsig : envelopeSigValid crypto senderIpk ourIpk env = true)
    (hgroup : c.epoch = some current) (hahead : current < env.epoch.toNat) :
    processApplicationInboundFor crypto io c senderIpk ourIpk env acceptedAtMs =
      bufferAhead crypto io c env current acceptedAtMs := by
  simp [processApplicationInboundFor, hsig, hgroup, hahead]

theorem bufferAhead_of_push {out : PushOutcome} {rows : List EpochAheadRow}
    (hnear : env.epoch.toNat - current ≤ MAX_EPOCH_AHEAD)
    (hpush : EpochCatchupBuffer.push c.buffer env.groupId env.mlsMessage env.epoch.toNat
      (envelopeDispatchId crypto env) acceptedAtMs io.nowMs io.pushSql = (.ok out, rows)) :
    bufferAhead crypto io c env current acceptedAtMs =
      (.ok .applicationBuffered, ⟨c.epoch, rows, c.conversations, c.drained⟩) := by
  simp [bufferAhead, Nat.not_lt.mpr hnear, hpush]

theorem drainAndPersist_buffer (o : EpochCatchupBuffer.DrainOracle) (groupId : Bytes 32) (epoch : Nat)
    (c : MlsClient) : List.Sublist (drainAndPersist o groupId epoch c).buffer c.buffer :=
  EpochCatchupBuffer.drainWhenReady_rows_sublist o groupId epoch c.buffer

theorem bufferAhead_buffer :
    (bufferAhead crypto io c env current acceptedAtMs).2.buffer = c.buffer ∨
      (bufferAhead crypto io c env current acceptedAtMs).2.buffer =
        (EpochCatchupBuffer.push c.buffer env.groupId env.mlsMessage env.epoch.toNat
          (envelopeDispatchId crypto env) acceptedAtMs io.nowMs io.pushSql).2 := by
  unfold bufferAhead
  dsimp only
  split
  · exact .inl rfl
  · split
    · exact .inl rfl
    · rename_i hpush
      exact .inr (by rw [hpush])

theorem processLive_buffer : List.Sublist (processLive io c senderIpk env current).2.buffer c.buffer := by
  unfold processLive
  split
  · exact List.Sublist.refl _
  · exact List.Sublist.refl _
  · exact List.Sublist.refl _
  · exact drainAndPersist_buffer _ _ _ _
  · split
    · exact List.Sublist.refl _
    · exact List.Sublist.refl _
    · exact drainAndPersist_buffer _ _ _ _
  · exact List.Sublist.refl _

theorem processApplicationInboundFor_buffer (crypto : Crypto) (io : InboundEnv) (c : MlsClient)
    (senderIpk ourIpk : Bytes 32) (env : MlsApplicationEnvelopeP) (acceptedAtMs : Nat) :
    List.Sublist (processApplicationInboundFor crypto io c senderIpk ourIpk env acceptedAtMs).2.buffer c.buffer ∨
      (processApplicationInboundFor crypto io c senderIpk ourIpk env acceptedAtMs).2.buffer =
        (EpochCatchupBuffer.push c.buffer env.groupId env.mlsMessage env.epoch.toNat
          (envelopeDispatchId crypto env) acceptedAtMs io.nowMs io.pushSql).2 := by
  unfold processApplicationInboundFor
  split
  · exact .inl (List.Sublist.refl _)
  · split
    · exact .inl (List.Sublist.refl _)
    · split
      · refine bufferAhead_buffer.imp (fun h => ?_) id
        rw [h]
      · split
        · exact .inl (List.Sublist.refl _)
        · exact .inl processLive_buffer

end Inbound

end Promtuz
