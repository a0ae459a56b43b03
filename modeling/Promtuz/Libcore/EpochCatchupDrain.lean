import Promtuz.Libcore.EpochCatchup

/-! How many iterations one `drain_when_ready` takes. Every arm of the loop deletes its row
except a staged commit whose merge fails. When every merge succeeds, each iteration removes a
row of the group, so the loop is over within the group's row count. A row whose merge keeps
failing stays the lowest candidate: the loop feeds it again at every iteration up to
`EPOCH_CATCHUP_LIMIT`, and the rows ordered after it are not reached. -/

namespace Promtuz

namespace EpochCatchupBuffer

variable {o : DrainOracle} {groupId : Bytes 32} {i : Nat} {s : DrainState} {r : EpochAheadRow}

theorem candidate_eq_none {rows : List EpochAheadRow} {current : Nat}
    (h : (rows.filter (ofGroup groupId)).length = 0) : candidate rows groupId current = none := by
  cases hc : candidate rows groupId current with
  | none => rfl
  | some r =>
      obtain ⟨hr, hready⟩ := candidate_mem hc
      have hgroup : ofGroup groupId r = true := by
        simp only [ready, Bool.and_eq_true] at hready
        exact hready.1
      rw [List.length_eq_zero_iff, List.filter_eq_nil_iff] at h
      exact absurd hgroup (by simpa using h r hr)

theorem length_filter_deleteRow_lt {rows : List EpochAheadRow} (hr : r ∈ rows) (hg : ofGroup groupId r = true) :
    ((deleteRow rows groupId r.dispatchId).filter (ofGroup groupId)).length <
      (rows.filter (ofGroup groupId)).length := by
  have hcomm : (deleteRow rows groupId r.dispatchId).filter (ofGroup groupId) =
      (rows.filter (ofGroup groupId)).filter fun x => !sameKey groupId r.dispatchId x := by
    simp only [deleteRow, Table.delete, List.filter_filter, Bool.and_comm]
  rw [hcomm, List.length_filter_lt_length_iff_exists]
  refine ⟨r, List.mem_filter.2 ⟨hr, hg⟩, ?_⟩
  simp only [ofGroup, decide_eq_true_eq] at hg
  simp [sameKey, hg]

theorem drainLoop_fuel_congr (hmerge : ∀ j, i ≤ j → o.merge j = true) (n : Nat)
    (hn : (s.rows.filter (ofGroup groupId)).length ≤ n) {fuel : Nat} (hfuel : n ≤ fuel) :
    drainLoop o groupId fuel i s = drainLoop o groupId n i s := by
  induction n generalizing fuel i s with
  | zero =>
      -- no row of the group: the first candidate query ends the loop
      have hc : candidate s.rows groupId s.epoch = none := candidate_eq_none (Nat.le_zero.1 hn)
      cases fuel with
      | zero => rfl
      | succ f => rw [drainLoop_none hc]; rfl
  | succ n ih =>
      obtain ⟨f, rfl⟩ : ∃ f, fuel = f + 1 := ⟨fuel - 1, by omega⟩
      cases hc : candidate s.rows groupId s.epoch with
      | none => rw [drainLoop_none hc, drainLoop_none hc]
      | some r =>
          have hdel := feed_deletes (s := s) (r := r) (hmerge i (Nat.le_refl i))
          cases herr : o.deleteErr i with
          | none =>
              obtain ⟨hr, hready⟩ := candidate_mem hc
              have hg : ofGroup groupId r = true := by
                simp only [ready, Bool.and_eq_true] at hready
                exact hready.1
              have hlt := length_filter_deleteRow_lt hr hg
              rw [drainLoop_delete hc hdel herr, drainLoop_delete hc hdel herr]
              exact ih (fun j hj => hmerge j (by omega)) (by simp only; omega) (by omega)
          | some e => rw [drainLoop_delete_fails hc hdel herr, drainLoop_delete_fails hc hdel herr]

theorem feed_stuck (hproc : o.process i r.msgBlob = .stagedCommit) (hmerge : o.merge i = false) :
    feed o i s r = (s, false) := by
  simp [feed, hproc, hmerge]

theorem drainLoop_stuck (hc : candidate s.rows groupId s.epoch = some r)
    (hstuck : ∀ j, i ≤ j → o.process j r.msgBlob = .stagedCommit ∧ o.merge j = false) (fuel : Nat) :
    drainLoop o groupId fuel i s = (.ok (), s) := by
  induction fuel generalizing i with
  | zero => rfl
  | succ fuel ih =>
      obtain ⟨hproc, hmerge⟩ := hstuck i (Nat.le_refl i)
      have hfeed := feed_stuck (s := s) hproc hmerge
      rw [drainLoop_keep hc (by rw [hfeed]), hfeed]
      exact ih fun j hj => hstuck j (by omega)

/-- The drain loop: where every merge succeeds, it is over within the group's row count (each
iteration deletes a row, and nothing is added); where the lowest candidate is a commit whose
merge keeps failing, every iteration feeds that same row and changes nothing, so no later row
is processed. -/
theorem drain_progress_stuck_commit :
    (∀ (o : DrainOracle) (groupId : Bytes 32) (i : Nat) (s : DrainState),
      (∀ j, i ≤ j → o.merge j = true) → ∀ fuel, (s.rows.filter (ofGroup groupId)).length ≤ fuel →
        drainLoop o groupId fuel i s = drainLoop o groupId (s.rows.filter (ofGroup groupId)).length i s) ∧
    (∀ (o : DrainOracle) (groupId : Bytes 32) (i : Nat) (s : DrainState) (r : EpochAheadRow),
      candidate s.rows groupId s.epoch = some r →
      (∀ j, i ≤ j → o.process j r.msgBlob = .stagedCommit ∧ o.merge j = false) →
        ∀ fuel, drainLoop o groupId fuel i s = (.ok (), s)) :=
  ⟨fun _ _ _ _ hmerge _ hfuel => drainLoop_fuel_congr hmerge _ (Nat.le_refl _) hfuel,
    fun _ _ _ _ _ hc hstuck fuel => drainLoop_stuck hc hstuck fuel⟩

def stuckGroup : Bytes 32 := ⟨List.replicate 32 0, rfl⟩

def stuckCommit : EpochAheadRow := ⟨stuckGroup, 0, [1], [1], 1, 0⟩

def laterMessage : EpochAheadRow := ⟨stuckGroup, 0, [2], [2], 2, 0⟩

def stuckOracle : DrainOracle :=
  ⟨fun _ blob => if blob = [1] then .stagedCommit else .application [9] none, fun _ => false, fun _ => none⟩

/-- The drain over the two rows: the commit is the candidate, the message after it is ready and
would decrypt, and still the whole drain returns no message and keeps both rows. -/
theorem drain_progress_stuck_commit_pair :
    candidate [stuckCommit, laterMessage] stuckGroup 0 = some stuckCommit ∧
      ready stuckGroup 0 laterMessage = true ∧
      stuckOracle.process 0 laterMessage.msgBlob = .application [9] none ∧
      drainLoop stuckOracle stuckGroup EPOCH_CATCHUP_LIMIT 0 ⟨0, [stuckCommit, laterMessage], []⟩ =
        (.ok (), ⟨0, [stuckCommit, laterMessage], []⟩) ∧
      drainWhenReady stuckOracle stuckGroup 0 [stuckCommit, laterMessage] =
        (.ok [], [stuckCommit, laterMessage], 0) := by
  have hc : candidate [stuckCommit, laterMessage] stuckGroup 0 = some stuckCommit := by decide
  have hloop := drain_progress_stuck_commit.2 stuckOracle stuckGroup 0 ⟨0, [stuckCommit, laterMessage], []⟩
    stuckCommit hc (fun _ _ => ⟨rfl, rfl⟩) EPOCH_CATCHUP_LIMIT
  refine ⟨hc, by decide, rfl, hloop, ?_⟩
  simp only [drainWhenReady, hloop]
  rfl

end EpochCatchupBuffer

end Promtuz
