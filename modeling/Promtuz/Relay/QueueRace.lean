import Promtuz.Relay.Retransmit

namespace Promtuz

open MessageKey

structure EnqueueCall where
  userIpk : Bytes 32
  dispatch : DispatchP
  nowMs : UInt64

inductive CallPhase where
  | ready
  | scanned (admission : QueueAdmission)
  | returned (outcome : ForwardOutcome)

/-- The rest of `enqueue_for_home` once `admit_to_queue` has answered. -/
def enqueueAfterAdmission (codec : Codec DispatchP) (queue : Keyspace) (call : EnqueueCall) :
    QueueAdmission → ForwardOutcome × Keyspace
  | .insert =>
      match codec.ser call.dispatch with
      | none => (.badSig, queue)
      | some value =>
          (.stored, queue.insert (MessageKey.new call.userIpk call.nowMs call.dispatch.id).asBytes value)
  | .alreadyQueued => (.stored, queue)
  | .idTakenByOther | .scanFailed => (.badSig, queue)
  | .full => (.queueFull, queue)

/-- Concurrent `enqueue_for_home` calls on one `dht_queue`: each call's scan and
its write are separate atomic steps, with no lock between them. -/
structure Race where
  queue : Keyspace
  calls : List (EnqueueCall × CallPhase)

inductive RaceAction where
  | scan (i : Nat)
  | write (i : Nat)

def Race.step (codec : Codec DispatchP) (s : Race) : RaceAction → Race
  | .scan i =>
      match s.calls[i]? with
      | some (call, .ready) =>
          { s with calls := s.calls.set i (call, .scanned (admitToQueue s.queue call.userIpk
              call.dispatch.id call.dispatch.from (dispatchFrom codec))) }
      | _ => s
  | .write i =>
      match s.calls[i]? with
      | some (call, .scanned admission) =>
          let r := enqueueAfterAdmission codec s.queue call admission
          ⟨r.2, s.calls.set i (call, .returned r.1)⟩
      | _ => s

def Race.run (codec : Codec DispatchP) (s : Race) (actions : List RaceAction) : Race :=
  actions.foldl (Race.step codec) s

/-- Two calls carrying one dispatch, both scanning before either writes, both
write: the recipient's prefix then holds its dispatch id twice. -/
theorem racing_enqueues_duplicate_id (codec : Codec DispatchP) (queue : Keyspace)
    (userIpk : Bytes 32) (dispatch : DispatchP) (t₁ t₂ : UInt64) (ht : t₁ ≠ t₂)
    (value : List UInt8) (hser : codec.ser dispatch = some value)
    (hadm : admitToQueue queue userIpk dispatch.id dispatch.from (dispatchFrom codec) = .insert) :
    ¬ (((Race.run codec ⟨queue, [(⟨userIpk, dispatch, t₁⟩, .ready), (⟨userIpk, dispatch, t₂⟩, .ready)]⟩
        [.scan 0, .scan 1, .write 0, .write 1]).queue.prefixScan userIpk.1).map fun r => keyId r.1).Nodup := by
  have hq : (Race.run codec ⟨queue, [(⟨userIpk, dispatch, t₁⟩, .ready), (⟨userIpk, dispatch, t₂⟩, .ready)]⟩
      [.scan 0, .scan 1, .write 0, .write 1]).queue =
        (queue.insert (MessageKey.new userIpk t₁ dispatch.id).asBytes value).insert
          (MessageKey.new userIpk t₂ dispatch.id).asBytes value := by
    simp [Race.run, Race.step, enqueueAfterAdmission, hadm, hser]
  rw [hq]
  intro hn
  have hk : (MessageKey.new userIpk t₁ dispatch.id).asBytes ≠ (MessageKey.new userIpk t₂ dispatch.id).asBytes :=
    fun h => ht (MessageKey.new_inj.1 (MessageKey.asBytes_injective h)).2.1
  have h₁ : ((MessageKey.new userIpk t₁ dispatch.id).asBytes, value) ∈
      Keyspace.prefixScan ((queue.insert (MessageKey.new userIpk t₁ dispatch.id).asBytes value).insert
        (MessageKey.new userIpk t₂ dispatch.id).asBytes value) userIpk.1 :=
    List.mem_filter.mpr ⟨SortedMap.mem_insert.mpr (.inr ⟨SortedMap.mem_insert.mpr (.inl rfl), hk⟩),
      isPrefixOf_asBytes_iff.mpr rfl⟩
  have h₂ : ((MessageKey.new userIpk t₂ dispatch.id).asBytes, value) ∈
      Keyspace.prefixScan ((queue.insert (MessageKey.new userIpk t₁ dispatch.id).asBytes value).insert
        (MessageKey.new userIpk t₂ dispatch.id).asBytes value) userIpk.1 :=
    List.mem_filter.mpr ⟨SortedMap.mem_insert.mpr (.inl rfl), isPrefixOf_asBytes_iff.mpr rfl⟩
  have heq := List.inj_on_of_nodup_map hn h₁ h₂ (by simp only [keyId_asBytes]; rfl)
  exact hk (congrArg Prod.fst heq)

theorem racing_enqueues_duplicate_id_fresh :
    (1 : UInt64) ≠ 2 ∧ layoutCodec.ser smallDispatch = some (layoutBytes smallDispatch) ∧
      admitToQueue SortedMap.empty smallDispatch.to smallDispatch.id smallDispatch.from
        (dispatchFrom layoutCodec) = .insert ∧
      ¬ (((Race.run layoutCodec ⟨SortedMap.empty,
          [(⟨smallDispatch.to, smallDispatch, 1⟩, .ready), (⟨smallDispatch.to, smallDispatch, 2⟩, .ready)]⟩
          [.scan 0, .scan 1, .write 0, .write 1]).queue.prefixScan smallDispatch.to.1).map
            fun r => keyId r.1).Nodup :=
  ⟨by decide, rfl, rfl, racing_enqueues_duplicate_id layoutCodec SortedMap.empty smallDispatch.to
    smallDispatch 1 2 (by decide) (layoutBytes smallDispatch) rfl rfl⟩

end Promtuz
