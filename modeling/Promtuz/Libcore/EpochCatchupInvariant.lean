import Promtuz.Lib.Reach
import Promtuz.Libcore.EpochCatchup

namespace Promtuz

namespace EpochCatchupBuffer

/-- Each group's slice of the table within both caps `push` enforces. -/
structure Capped (rows : List EpochAheadRow) : Prop where
  rows_le : ∀ groupId, rows.countP (ofGroup groupId) ≤ MAX_EPOCH_AHEAD_BUFFER
  bytes_le : ∀ groupId, bufferedBytes rows groupId ≤ MAX_EPOCH_AHEAD_BYTES

theorem Capped.nil : Capped [] :=
  ⟨fun _ => Nat.zero_le _, fun _ => Nat.zero_le _⟩

theorem bufferedBytes_le_of_sublist {rows' rows : List EpochAheadRow} (h : List.Sublist rows' rows)
    (groupId : Bytes 32) : bufferedBytes rows' groupId ≤ bufferedBytes rows groupId :=
  ((h.filter _).map _).sum_le_sum fun _ _ => Nat.zero_le _

theorem Capped.of_sublist {rows' rows : List EpochAheadRow} (h : Capped rows) (hs : List.Sublist rows' rows) :
    Capped rows' where
  rows_le groupId := Nat.le_trans hs.countP_le (h.rows_le groupId)
  bytes_le groupId := Nat.le_trans (bufferedBytes_le_of_sublist hs groupId) (h.bytes_le groupId)

theorem overCap_of_rows_le {rows : List EpochAheadRow} {groupId : Bytes 32} {len : Nat}
    (h : MAX_EPOCH_AHEAD_BUFFER ≤ rows.countP (ofGroup groupId)) : overCap rows groupId len = true := by
  simp [overCap, h]

theorem countP_append_row (rows : List EpochAheadRow) (r : EpochAheadRow) (groupId : Bytes 32) :
    (rows ++ [r]).countP (ofGroup groupId) = rows.countP (ofGroup groupId) + if r.groupId = groupId then 1 else 0 := by
  by_cases hg : r.groupId = groupId <;> simp [ofGroup, hg]

theorem bufferedBytes_append_row (rows : List EpochAheadRow) (r : EpochAheadRow) (groupId : Bytes 32) :
    bufferedBytes (rows ++ [r]) groupId =
      bufferedBytes rows groupId + if r.groupId = groupId then r.msgBlob.length else 0 := by
  by_cases hg : r.groupId = groupId <;> simp [bufferedBytes, ofGroup, hg]

theorem Capped.push {rows : List EpochAheadRow} (h : Capped rows) (groupId : Bytes 32) (msgBytes : List UInt8)
    (msgEpoch : Nat) (dispatchId : List UInt8) (acceptedAtMs nowMs : Nat) (sql : Option String) :
    Capped (push rows groupId msgBytes msgEpoch dispatchId acceptedAtMs nowMs sql).2 := by
  rcases push_rows rows groupId msgBytes msgEpoch dispatchId acceptedAtMs nowMs sql with hrows | ⟨hcap, hrows⟩
  · rwa [hrows]
  · rw [hrows]
    -- the cap test that let the row in bounds its group's count and bytes
    simp only [overCap, Bool.or_eq_false_iff, decide_eq_false_iff_not, Nat.not_le, Nat.not_lt] at hcap
    obtain ⟨hcount, hbytes⟩ := hcap
    constructor
    · intro g
      rw [countP_append_row]
      by_cases hg : groupId = g
      · subst hg
        simp only [if_true]
        omega
      · simpa [hg] using h.rows_le g
    · intro g
      rw [bufferedBytes_append_row]
      by_cases hg : groupId = g
      · subst hg
        simpa using hbytes
      · simpa [hg] using h.bytes_le g

end EpochCatchupBuffer

/-- One application envelope handed to `process_application_inbound_for`, with what the world
does during the call. -/
structure InboundCall where
  io : InboundEnv
  senderIpk : Bytes 32
  env : MlsApplicationEnvelopeP
  acceptedAtMs : Nat

def inboundStep (crypto : Crypto) (ourIpk : Bytes 32) (c : MlsClient) (call : InboundCall) : MlsClient :=
  (processApplicationInboundFor crypto call.io c call.senderIpk ourIpk call.env call.acceptedAtMs).2

theorem EpochCatchupBuffer.Capped.inboundStep {crypto : Crypto} {ourIpk : Bytes 32} {c : MlsClient}
    (h : EpochCatchupBuffer.Capped c.buffer) (call : InboundCall) :
    EpochCatchupBuffer.Capped (inboundStep crypto ourIpk c call).buffer := by
  rcases processApplicationInboundFor_buffer crypto call.io c call.senderIpk ourIpk call.env call.acceptedAtMs
    with hs | hpush
  · exact h.of_sublist hs
  · rw [Promtuz.inboundStep, hpush]
    exact h.push _ _ _ _ _ _ _

/-- Over any run of inbound envelopes, whatever openmls and SQLite do, no group's epoch-ahead
buffer holds more than `MAX_EPOCH_AHEAD_BUFFER` rows or `MAX_EPOCH_AHEAD_BYTES` bytes. -/
theorem epoch_ahead_buffer_capped (crypto : Crypto) (ourIpk : Bytes 32) {c₀ c : MlsClient}
    (h₀ : EpochCatchupBuffer.Capped c₀.buffer) (hc : Reach.Reachable c₀ (inboundStep crypto ourIpk) c) :
    EpochCatchupBuffer.Capped c.buffer :=
  hc.invariant (P := fun c => EpochCatchupBuffer.Capped c.buffer) h₀ fun _ call h => h.inboundStep call

def freshGroupClient : MlsClient := ⟨some 5, [], ⟨[], []⟩, []⟩

def aheadCall : InboundCall :=
  ⟨⟨.proposal, ⟨fun _ _ => .failed, fun _ => false, fun _ => none⟩, none, 0⟩, Bytes.replicate 32 2,
    ⟨1, Bytes.replicate 32 5, 6, [1, 2, 3], Bytes.replicate 64 0⟩, 0⟩

theorem epoch_ahead_buffer_capped_ahead :
    EpochCatchupBuffer.Capped freshGroupClient.buffer ∧
      EpochCatchupBuffer.Capped ([aheadCall, aheadCall].foldl (inboundStep constCrypto ⟨List.replicate 32 7, by simp⟩)
        freshGroupClient).buffer :=
  ⟨EpochCatchupBuffer.Capped.nil,
    epoch_ahead_buffer_capped constCrypto _ EpochCatchupBuffer.Capped.nil (Reach.reachable_foldl _)⟩

section Loss

open EpochCatchupBuffer

/-- Two ways an application message is lost for good. An envelope ahead of the group's epoch
that finds its group's buffer full is answered `ApplicationBuffered`, which the caller acks, and
no row holds it. And in a drain whose first message decrypts and is deleted, a later failing
`delete_row` makes `drain_when_ready` return the error, which `.unwrap_or_default()` turns into
an empty list: the decrypted message is neither handed to `persist_drained` nor left in the
table. -/
theorem epoch_ahead_messages_lost (crypto : Crypto) :
    (∀ (io : InboundEnv) (c : MlsClient) (senderIpk ourIpk : Bytes 32) (env : MlsApplicationEnvelopeP)
        (acceptedAtMs current : Nat),
        envelopeSigValid crypto senderIpk ourIpk env = true → c.epoch = some current →
        current < env.epoch.toNat → env.epoch.toNat - current ≤ MAX_EPOCH_AHEAD → io.pushSql = none →
        (∀ r ∈ c.buffer, sameKey env.groupId (envelopeDispatchId crypto env) r = false ∧
          r.msgBlob ≠ env.mlsMessage) →
        overCap c.buffer env.groupId env.mlsMessage.length = true →
        (processApplicationInboundFor crypto io c senderIpk ourIpk env acceptedAtMs).1 = .ok .applicationBuffered ∧
          ∀ r ∈ (processApplicationInboundFor crypto io c senderIpk ourIpk env acceptedAtMs).2.buffer,
            r.msgBlob ≠ env.mlsMessage) ∧
    (∀ (o : DrainOracle) (groupId : Bytes 32) (epoch : Nat) (rows : List EpochAheadRow) (r r' : EpochAheadRow)
        (plaintext : List UInt8) (sender : Option (Bytes 32)),
        candidate rows groupId epoch = some r → o.process 0 r.msgBlob = .application plaintext sender →
        o.deleteErr 0 = none → r' ∈ rows → ready groupId epoch r' = true → r'.dispatchId ≠ r.dispatchId →
        (o.deleteErr 1).isSome → o.merge 1 = true →
        unwrapOrDefault (drainWhenReady o groupId epoch rows).1 = [] ∧
          ∀ x ∈ (drainWhenReady o groupId epoch rows).2.1, sameKey groupId r.dispatchId x = false) := by
  constructor
  · intro io c senderIpk ourIpk env acceptedAtMs current hsig hgroup hahead hnear hsql hnew hfull
    have hany : c.buffer.any (sameKey env.groupId (envelopeDispatchId crypto env)) = false :=
      List.any_eq_false.mpr fun r hr => by simp [(hnew r hr).1]
    -- `push` reports `Discarded` and leaves the table as it was
    have hpush : push c.buffer env.groupId env.mlsMessage env.epoch.toNat (envelopeDispatchId crypto env)
        acceptedAtMs io.nowMs io.pushSql = (.ok .discarded, c.buffer) := by
      rw [hsql]
      exact push_of_overCap hany hfull
    rw [processApplicationInboundFor_ahead hsig hgroup hahead, bufferAhead_of_push hnear hpush]
    exact ⟨rfl, fun r hr => (hnew r hr).2⟩
  · intro o groupId epoch rows r r' plaintext sender hfirst happ hok hr' hready hother hfail hmerge
    obtain ⟨e, he⟩ := Option.isSome_iff_exists.mp hfail
    -- iteration 0 decrypts `r` and deletes it
    have hloop₀ : drainLoop o groupId EPOCH_CATCHUP_LIMIT 0 ⟨epoch, rows, []⟩ =
        drainLoop o groupId (1022 + 1) 1 ⟨epoch, deleteRow rows groupId r.dispatchId,
          [⟨r.dispatchId, plaintext, r.epoch, acceptedAt r, sender⟩]⟩ := by
      rw [show EPOCH_CATCHUP_LIMIT = 1023 + 1 from rfl,
        drainLoop_delete hfirst (by rw [feed_application happ]) hok, feed_application happ]
      rfl
    -- `r'` is still there, so iteration 1 finds a row, and its delete fails
    have hr'₁ : r' ∈ deleteRow rows groupId r.dispatchId :=
      mem_deleteRow.mpr ⟨hr', by simp [sameKey, hother]⟩
    obtain ⟨r₁, hc₁⟩ := Option.isSome_iff_exists.mp (candidate_isSome hr'₁ hready)
    rw [drainWhenReady, hloop₀, drainLoop_delete_fails hc₁ (feed_deletes hmerge) he]
    refine ⟨rfl, fun x hx => ?_⟩
    simp only [feed_rows] at hx
    exact (mem_deleteRow.mp hx).2

end Loss

def fullGroupClient : MlsClient :=
  ⟨some 5, List.replicate 512 ⟨Bytes.replicate 32 5, 6, [1], [1], 0, 0⟩, ⟨[], []⟩, []⟩

def bufferedPair : List EpochAheadRow :=
  [⟨Bytes.replicate 32 5, 1, [1], [1], 0, 0⟩, ⟨Bytes.replicate 32 5, 1, [2], [2], 1, 0⟩]

def laterDeleteFails : EpochCatchupBuffer.DrainOracle :=
  ⟨fun _ _ => .application [7] none, fun _ => true, fun i => if i = 0 then none else some "disk I/O error"⟩

theorem epoch_ahead_messages_lost_full :
    (processApplicationInboundFor constCrypto aheadCall.io fullGroupClient aheadCall.senderIpk
        ⟨List.replicate 32 7, by simp⟩ aheadCall.env 0).1 = .ok .applicationBuffered ∧
      (∀ r ∈ (processApplicationInboundFor constCrypto aheadCall.io fullGroupClient aheadCall.senderIpk
          ⟨List.replicate 32 7, by simp⟩ aheadCall.env 0).2.buffer, r.msgBlob ≠ aheadCall.env.mlsMessage) ∧
      unwrapOrDefault (EpochCatchupBuffer.drainWhenReady laterDeleteFails ⟨List.replicate 32 5, by simp⟩ 1
        bufferedPair).1 = [] ∧
      ∀ x ∈ (EpochCatchupBuffer.drainWhenReady laterDeleteFails ⟨List.replicate 32 5, by simp⟩ 1 bufferedPair).2.1,
        EpochCatchupBuffer.sameKey ⟨List.replicate 32 5, by simp⟩ [1] x = false := by
  have hbuffered := (epoch_ahead_messages_lost constCrypto).1 aheadCall.io fullGroupClient aheadCall.senderIpk
    ⟨List.replicate 32 7, by simp⟩ aheadCall.env 0 5 rfl rfl (by decide) (by decide) rfl
    (fun r hr => by rw [List.eq_of_mem_replicate hr]; decide)
    (EpochCatchupBuffer.overCap_of_rows_le (by simp only [fullGroupClient, List.countP_replicate]; decide))
  have hdrain := (epoch_ahead_messages_lost constCrypto).2 laterDeleteFails ⟨List.replicate 32 5, by simp⟩ 1
    bufferedPair ⟨⟨List.replicate 32 5, by simp⟩, 1, [1], [1], 0, 0⟩
    ⟨⟨List.replicate 32 5, by simp⟩, 1, [2], [2], 1, 0⟩ [7] none (by decide) rfl rfl
    (by simp [bufferedPair, Bytes.replicate]) (by decide) (by decide) rfl rfl
  exact ⟨hbuffered.1, hbuffered.2, hdrain⟩

end Promtuz
