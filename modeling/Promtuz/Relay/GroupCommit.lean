import Promtuz.Lib.Reach

/-! The relay store's group commit (`storage/db.rs`). A write bumps `requested_gen` and wakes the
maintenance thread; the thread snapshots the generation under the lock, runs
`db.persist(SyncAll)` outside it, and publishes the snapshot as `persisted_gen`. A
`PersistBarrier` keeps the generation of its own request and waits on `done` until the
published generation reaches it or the store shuts down.

The threads are interleaved one critical section at a time: each event is one section of the
source that holds the maintenance lock, and the state between events is what the lock guards
plus where each thread is. A waiter may test its loop condition at any point (after a
`notify_all` or a spurious wakeup), and the maintenance thread may take its snapshot at any
point between commits (a `wake` notify, a timeout or the sweep deadline). -/

namespace Promtuz

namespace GroupCommit

/-- `MaintenanceState`, the fields behind the maintenance mutex. -/
structure MaintenanceState where
  persistRequested : Bool
  shutdown : Bool
  /-- Bumped per write; the commit that observes a value covers every write numbered at or
  below it. -/
  requestedGen : Nat
  persistedGen : Nat
  persistFailed : Bool
  deriving DecidableEq, Repr

/-- Where `run_maintenance` is: between commits (waiting on `wake`, or sweeping), inside
`db.persist(SyncAll)` with the generation it snapshotted and the `shutdown` it read, or
returned. -/
inductive Worker where
  | idle
  | persisting (covered : Nat) (shutdown : Bool)
  | exited
  deriving DecidableEq, Repr

/-- A thread holding a `PersistBarrier`: none taken yet, inside `wait_blocking` for its
`target`, or returned (`Ok`, or the poisoned-database error). -/
inductive Waiter where
  | none
  | waiting (target : Nat)
  | returned (target : Nat) (ok : Bool)
  deriving DecidableEq, Repr

def Waiter.target? : Waiter → Option Nat
  | .none => Option.none
  | .waiting target => some target
  | .returned target _ => some target

def Waiter.isWaiting : Waiter → Bool
  | .waiting _ => true
  | _ => false

/-- The lock-guarded state, the maintenance thread, the barrier holders by index, and the threads
that have taken a barrier: each caller of `persist_barrier().wait()` (`forward_to_homes`,
`handle_forward_rpc`, `store_in_rocks`) holds the store through its `dht` or relay context
across the await. `synced` is ghost state, not in the source: the generation snapshotted by the
last `SyncAll` that returned `Ok`. Since the snapshot precedes the fsync, `t ≤ synced` says that
an fsync which began after the request numbered `t` has succeeded. -/
structure System where
  state : MaintenanceState
  worker : Worker
  waiters : Nat → Waiter
  synced : Nat
  holders : List Nat

inductive Event where
  /-- `put_sync` (or `remove_pending_push`): the write, then `request_persist`. -/
  | putSync
  /-- `persist_barrier` by the thread `w`: `request_persist`, keeping the generation. -/
  | persistBarrier (w : Nat)
  /-- The thread `w`, in `wait_blocking`, holds the lock and tests its loop condition. -/
  | wake (w : Nat)
  /-- `run_maintenance` leaves its wait loop and takes its snapshot. -/
  | snapshot
  /-- `db.persist(SyncAll)` returns, `Ok` or not, and the thread publishes. -/
  | persistDone (ok : Bool)
  /-- `Store::drop` sets `shutdown`, once the last reference to the store is gone. -/
  | drop
  deriving DecidableEq, Repr

/-- `request_persist`: the state after it and the generation it returns. -/
def requestPersist (st : MaintenanceState) : MaintenanceState × Nat :=
  ({ st with persistRequested := true, requestedGen := st.requestedGen + 1 }, st.requestedGen + 1)

/-- One test of the `wait_blocking` loop: wait on while the published generation is short of
the target and the store is up; otherwise return, failing once an fsync has failed. -/
def waitBlocking (st : MaintenanceState) (target : Nat) : Waiter :=
  if st.persistedGen < target && !st.shutdown then .waiting target
  else .returned target !st.persistFailed

namespace System

def init : System := ⟨⟨false, false, 0, 0, false⟩, .idle, fun _ => .none, 0, []⟩

def setWaiter (g : System) (w : Nat) (p : Waiter) : System :=
  { g with waiters := fun v => if v = w then p else g.waiters v }

/-- The snapshot of `run_maintenance`: `shutdown`, `persist_requested` (taken) and
`requested_gen`, read under the lock; the fsync follows when there is a request or the store
is shutting down, and otherwise the thread sweeps and loops. -/
def snapshot (g : System) : System :=
  match g.worker with
  | .idle =>
      let shutdown := g.state.shutdown
      let persist := g.state.persistRequested
      let covered := g.state.requestedGen
      let state := { g.state with persistRequested := false }
      if persist || shutdown then { g with state, worker := .persisting covered shutdown }
      else { g with state }
  | _ => g

/-- `db.persist(SyncAll)` returns: a failure sets the sticky `persist_failed`, the snapshot is
published as `persisted_gen` either way, and a shutdown commit ends the thread. -/
def persistDone (g : System) (ok : Bool) : System :=
  match g.worker with
  | .persisting covered shutdown =>
      { g with
        state := { g.state with persistFailed := g.state.persistFailed || !ok, persistedGen := covered }
        worker := if shutdown then .exited else .idle
        synced := if ok then covered else g.synced }
  | _ => g

/-- One event. A write or a barrier needs the store, which `drop` has taken away; a barrier
index is used once. The store drops only while no barrier holder is inside `wait`, since each
holds the store across the await. -/
def step (g : System) : Event → System
  | .putSync => if g.state.shutdown then g else { g with state := (requestPersist g.state).1 }
  | .persistBarrier w =>
      match g.state.shutdown, g.waiters w with
      | false, .none =>
          let (state, target) := requestPersist g.state
          { g with state, holders := g.holders ++ [w] }.setWaiter w (.waiting target)
      | _, _ => g
  | .wake w =>
      match g.waiters w with
      | .waiting target => g.setWaiter w (waitBlocking g.state target)
      | _ => g
  | .snapshot => g.snapshot
  | .persistDone ok => g.persistDone ok
  | .drop =>
      if g.holders.all fun w => !(g.waiters w).isWaiting then { g with state := { g.state with shutdown := true } }
      else g

def Reachable : System → Prop := Reach.Reachable init step

variable {g : System} {w v t c : Nat} {p : Waiter} {sd ok : Bool}

@[simp] theorem setWaiter_state : (g.setWaiter w p).state = g.state := rfl
@[simp] theorem setWaiter_worker : (g.setWaiter w p).worker = g.worker := rfl
@[simp] theorem setWaiter_synced : (g.setWaiter w p).synced = g.synced := rfl
@[simp] theorem setWaiter_holders : (g.setWaiter w p).holders = g.holders := rfl

theorem setWaiter_waiters : (g.setWaiter w p).waiters v = if v = w then p else g.waiters v := rfl

theorem step_putSync_of_shutdown (hs : g.state.shutdown = true) : g.step .putSync = g := by
  simp [step, hs]

theorem step_putSync_of_up (hs : g.state.shutdown = false) :
    g.step .putSync = { g with state := (requestPersist g.state).1 } := by
  simp [step, hs]

theorem step_persistBarrier_of_fresh (hs : g.state.shutdown = false) (hw : g.waiters w = .none) :
    g.step (.persistBarrier w) =
      ({ g with state := (requestPersist g.state).1, holders := g.holders ++ [w] } : System).setWaiter w
        (.waiting (g.state.requestedGen + 1)) := by
  simp only [step, hs, hw]
  rfl

theorem step_persistBarrier_of_not_fresh (h : g.state.shutdown = true ∨ g.waiters w ≠ .none) :
    g.step (.persistBarrier w) = g := by
  rcases h with hs | hw
  · simp [step, hs]
  · cases hs : g.state.shutdown <;> cases hp : g.waiters w <;> simp_all [step]

theorem step_wake_of_waiting (hw : g.waiters w = .waiting t) :
    g.step (.wake w) = g.setWaiter w (waitBlocking g.state t) := by
  simp [step, hw]

theorem step_wake_of_not_waiting (hw : ∀ t, g.waiters w ≠ .waiting t) : g.step (.wake w) = g := by
  cases hp : g.waiters w with
  | waiting t => exact absurd hp (hw t)
  | none | returned => simp [step, hp]

theorem snapshot_of_not_idle (hw : g.worker ≠ .idle) : g.snapshot = g := by
  unfold snapshot
  split
  · rename_i hi
    exact absurd hi hw
  · rfl

theorem persistDone_of_not_persisting (hw : ∀ c sd, g.worker ≠ .persisting c sd) : g.persistDone ok = g := by
  unfold persistDone
  split
  · rename_i c sd hp
    exact absurd hp (hw c sd)
  · rfl

theorem snapshot_of_go (hw : g.worker = .idle)
    (hgo : (g.state.persistRequested || g.state.shutdown) = true) :
    g.snapshot = { g with state := { g.state with persistRequested := false },
                          worker := .persisting g.state.requestedGen g.state.shutdown } := by
  simp only [snapshot, hw, hgo, if_true]

theorem snapshot_of_sweep (hw : g.worker = .idle)
    (hgo : (g.state.persistRequested || g.state.shutdown) = false) :
    g.snapshot = { g with state := { g.state with persistRequested := false } } := by
  simp only [snapshot, hw, hgo, Bool.false_eq_true, if_false]

theorem persistDone_of_persisting (hw : g.worker = .persisting c sd) :
    g.persistDone ok =
      { g with state := { g.state with persistFailed := g.state.persistFailed || !ok, persistedGen := c },
               worker := if sd then .exited else .idle,
               synced := if ok then c else g.synced } := by
  simp only [persistDone, hw]

theorem requestedGen_le_step (e : Event) : g.state.requestedGen ≤ (g.step e).state.requestedGen := by
  cases e with
  | putSync =>
      cases hs : g.state.shutdown
      · simp [step_putSync_of_up hs, requestPersist]
      · simp [step_putSync_of_shutdown hs]
  | persistBarrier w =>
      cases hs : g.state.shutdown
      · by_cases hw : g.waiters w = .none
        · simp [step_persistBarrier_of_fresh hs hw, requestPersist]
        · simp only [step_persistBarrier_of_not_fresh (.inr hw), Nat.le_refl]
      · simp only [step_persistBarrier_of_not_fresh (.inl hs), Nat.le_refl]
  | wake w =>
      by_cases h : ∃ t, g.waiters w = .waiting t
      · obtain ⟨t, ht⟩ := h
        simp [step_wake_of_waiting ht]
      · simp only [step_wake_of_not_waiting (by simpa using h), Nat.le_refl]
  | snapshot =>
      simp only [step, snapshot]
      split <;> (try split) <;> simp
  | persistDone ok =>
      simp only [step, persistDone]
      split <;> simp
  | drop =>
      simp only [step]
      split <;> exact Nat.le_refl _

/-- What every interleaving keeps. A commit in flight covers at least what is published and at
most what is requested, and a shutdown commit covers every request, since none can follow the
drop. Every request is published, still flagged for the thread, or in the commit in flight.
While no fsync has failed, the last commit published is the last that succeeded. -/
structure Inv (g : System) : Prop where
  persisted_le : g.state.persistedGen ≤ g.state.requestedGen
  persisting_le : ∀ c sd, g.worker = .persisting c sd →
    g.state.persistedGen ≤ c ∧ c ≤ g.state.requestedGen
  final_commit : ∀ c, g.worker = .persisting c true →
    c = g.state.requestedGen ∧ g.state.shutdown = true
  exited : g.worker = .exited → g.state.persistedGen = g.state.requestedGen ∧ g.state.shutdown = true
  pending : g.state.requestedGen ≤ g.state.persistedGen ∨ g.state.persistRequested = true ∨
    ∃ sd, g.worker = .persisting g.state.requestedGen sd
  synced_eq : g.state.persistFailed = false → g.synced = g.state.persistedGen
  target_le : ∀ w t, g.waiters w = .waiting t → t ≤ g.state.requestedGen
  holds_store : ∀ w t, g.waiters w = .waiting t → w ∈ g.holders
  up_while_waiting : ∀ w t, g.waiters w = .waiting t → g.state.shutdown = false

theorem inv_init : Inv init where
  persisted_le := Nat.le_refl 0
  persisting_le := by simp [init]
  final_commit := by simp [init]
  exited := by simp [init]
  pending := .inl (Nat.le_refl 0)
  synced_eq := fun _ => rfl
  target_le := by simp [init]
  holds_store := by simp [init]
  up_while_waiting := by simp [init]

theorem Inv.requestPersist (hI : Inv g) (hs : g.state.shutdown = false) :
    Inv { g with state := (requestPersist g.state).1 } where
  persisted_le := Nat.le_succ_of_le hI.persisted_le
  persisting_le c sd hw := by
    obtain ⟨h₁, h₂⟩ := hI.persisting_le c sd hw
    exact ⟨h₁, Nat.le_succ_of_le h₂⟩
  final_commit c hw := absurd (hI.final_commit c hw).2 (by simp [hs])
  exited hw := absurd (hI.exited hw).2 (by simp [hs])
  pending := .inr (.inl rfl)
  synced_eq := hI.synced_eq
  target_le w t hw := Nat.le_succ_of_le (hI.target_le w t hw)
  holds_store := hI.holds_store
  up_while_waiting _ _ _ := hs

theorem Inv.addHolder (hI : Inv g) (w : Nat) : Inv { g with holders := g.holders ++ [w] } where
  persisted_le := hI.persisted_le
  persisting_le := hI.persisting_le
  final_commit := hI.final_commit
  exited := hI.exited
  pending := hI.pending
  synced_eq := hI.synced_eq
  target_le := hI.target_le
  holds_store v t hv := List.mem_append_left _ (hI.holds_store v t hv)
  up_while_waiting := hI.up_while_waiting

theorem Inv.setWaiter (hI : Inv g)
    (hp : ∀ t, p = .waiting t → t ≤ g.state.requestedGen ∧ w ∈ g.holders ∧ g.state.shutdown = false) :
    Inv (g.setWaiter w p) where
  persisted_le := hI.persisted_le
  persisting_le := hI.persisting_le
  final_commit := hI.final_commit
  exited := hI.exited
  pending := hI.pending
  synced_eq := hI.synced_eq
  target_le v t hv := by
    rw [setWaiter_waiters] at hv
    split at hv
    · exact (hp t hv).1
    · exact hI.target_le v t hv
  holds_store v t hv := by
    rw [setWaiter_waiters] at hv
    split at hv
    · subst v
      exact (hp t hv).2.1
    · exact hI.holds_store v t hv
  up_while_waiting v t hv := by
    rw [setWaiter_waiters] at hv
    split at hv
    · exact (hp t hv).2.2
    · exact hI.up_while_waiting v t hv

theorem Inv.snapshot (hI : Inv g) : Inv g.snapshot := by
  cases hw : g.worker with
  | persisting | exited => rwa [snapshot_of_not_idle (by simp [hw])]
  | idle =>
      -- an idle thread has no commit in flight, so every request is persisted or flagged
      have hreq := hI.pending
      simp only [hw, reduceCtorEq, exists_false, or_false] at hreq
      cases hgo : g.state.persistRequested || g.state.shutdown
      · rw [snapshot_of_sweep hw hgo]
        simp only [Bool.or_eq_false_iff] at hgo
        refine ⟨hI.persisted_le, by simp [hw], by simp [hw], by simp [hw], ?_, hI.synced_eq, hI.target_le,
          hI.holds_store, hI.up_while_waiting⟩
        simp_all
      · -- the commit covers the generation read here
        rw [snapshot_of_go hw hgo]
        refine ⟨hI.persisted_le, ?_, ?_, by simp, .inr (.inr ⟨_, rfl⟩), hI.synced_eq, hI.target_le,
          hI.holds_store, hI.up_while_waiting⟩
        · rintro c sd ⟨⟩
          exact ⟨hI.persisted_le, Nat.le_refl _⟩
        · intro c h
          simp only [Worker.persisting.injEq] at h
          exact ⟨h.1.symm, h.2⟩

theorem Inv.persistDone (hI : Inv g) : Inv (g.persistDone ok) := by
  cases hw : g.worker with
  | idle | exited => rwa [persistDone_of_not_persisting (by simp [hw])]
  | persisting c sd =>
      -- the snapshot is published: every request it covered is now persisted
      obtain ⟨hlo, hhi⟩ := hI.persisting_le c sd hw
      rw [persistDone_of_persisting hw]
      refine ⟨hhi, ?_, ?_, ?_, ?_, ?_, hI.target_le, hI.holds_store, hI.up_while_waiting⟩
      · intro c' sd' h
        cases sd <;> simp at h
      · intro c' h
        cases sd <;> simp at h
      · intro h
        cases sd
        · simp at h
        · exact hI.final_commit c hw
      · rcases hI.pending with h | h | ⟨sd', h⟩
        · exact .inl (Nat.le_trans h hlo)
        · exact .inr (.inl h)
        · rw [hw] at h
          cases h
          exact .inl (Nat.le_refl _)
      · intro hf
        simp only [Bool.or_eq_false_iff, Bool.not_eq_false'] at hf
        simp [hf.2]

theorem Inv.step (hI : Inv g) (e : Event) : Inv (g.step e) := by
  cases e with
  | putSync =>
      cases hs : g.state.shutdown
      · rw [step_putSync_of_up hs]
        exact hI.requestPersist hs
      · rwa [step_putSync_of_shutdown hs]
  | persistBarrier w =>
      cases hs : g.state.shutdown
      · by_cases hw : g.waiters w = .none
        · rw [step_persistBarrier_of_fresh hs hw]
          refine ((hI.addHolder w).requestPersist hs).setWaiter ?_
          rintro t ⟨⟩
          exact ⟨Nat.le_refl _, List.mem_append_right _ (List.mem_singleton_self w), hs⟩
        · rwa [step_persistBarrier_of_not_fresh (.inr hw)]
      · rwa [step_persistBarrier_of_not_fresh (.inl hs)]
  | wake w =>
      by_cases h : ∃ t, g.waiters w = .waiting t
      · obtain ⟨t, ht⟩ := h
        rw [step_wake_of_waiting ht]
        refine hI.setWaiter ?_
        intro t' ht'
        unfold waitBlocking at ht'
        split at ht'
        · cases ht'
          exact ⟨hI.target_le w t ht, hI.holds_store w t ht, hI.up_while_waiting w t ht⟩
        · cases ht'
      · rwa [step_wake_of_not_waiting (by simpa using h)]
  | snapshot => exact hI.snapshot
  | persistDone ok => exact hI.persistDone
  | drop =>
      simp only [System.step]
      split
      · rename_i hidle
        refine ⟨hI.persisted_le, hI.persisting_le, ?_, ?_, hI.pending, hI.synced_eq, hI.target_le,
          hI.holds_store, ?_⟩
        · intro c hw
          exact ⟨(hI.final_commit c hw).1, rfl⟩
        · intro hw
          exact ⟨(hI.exited hw).1, rfl⟩
        · -- the drop found every holder of the store out of `wait`
          intro w t hw
          change g.waiters w = .waiting t at hw
          have hout := List.all_eq_true.1 hidle w (hI.holds_store w t hw)
          simp [hw, Waiter.isWaiting] at hout
      · exact hI

theorem Reachable.inv (h : Reachable g) : Inv g :=
  Reach.Reachable.invariant inv_init (fun _ e hI => hI.step e) h

@[simp] theorem snapshot_waiters : g.snapshot.waiters = g.waiters := by
  cases hw : g.worker with
  | idle =>
      cases hgo : g.state.persistRequested || g.state.shutdown
      · rw [snapshot_of_sweep hw hgo]
      · rw [snapshot_of_go hw hgo]
  | persisting | exited => rw [snapshot_of_not_idle (by simp [hw])]

@[simp] theorem persistDone_waiters : (g.persistDone ok).waiters = g.waiters := by
  cases hw : g.worker with
  | persisting c sd => rw [persistDone_of_persisting hw]
  | idle | exited => rw [persistDone_of_not_persisting (by simp [hw])]

@[simp] theorem snapshot_persistedGen : g.snapshot.state.persistedGen = g.state.persistedGen := by
  cases hw : g.worker with
  | idle =>
      cases hgo : g.state.persistRequested || g.state.shutdown
      · rw [snapshot_of_sweep hw hgo]
      · rw [snapshot_of_go hw hgo]
  | persisting | exited => rw [snapshot_of_not_idle (by simp [hw])]

theorem waitBlocking_target? (st : MaintenanceState) (t : Nat) : (waitBlocking st t).target? = some t := by
  unfold waitBlocking
  split <;> rfl

theorem target?_step (h : (g.waiters w).target? = some t) (e : Event) :
    ((g.step e).waiters w).target? = some t := by
  cases e with
  | putSync => cases hs : g.state.shutdown <;> simpa [step, hs] using h
  | persistBarrier v =>
      cases hs : g.state.shutdown
      · by_cases hv : g.waiters v = .none
        · rw [step_persistBarrier_of_fresh hs hv, setWaiter_waiters]
          split
          · subst v
            simp [hv, Waiter.target?] at h
          · exact h
        · rwa [step_persistBarrier_of_not_fresh (.inr hv)]
      · rwa [step_persistBarrier_of_not_fresh (.inl hs)]
  | wake v =>
      by_cases hv : ∃ t', g.waiters v = .waiting t'
      · obtain ⟨t', ht'⟩ := hv
        rw [step_wake_of_waiting ht', setWaiter_waiters]
        split
        · subst v
          rw [ht'] at h
          rw [waitBlocking_target?]
          exact h
        · exact h
      · rwa [step_wake_of_not_waiting (by simpa using hv)]
  | snapshot => simpa [step] using h
  | persistDone ok => simpa [step] using h
  | drop =>
      simp only [step]
      split <;> exact h

theorem synced_of_wake_ok (hI : Inv g) (hw : g.waiters w = .waiting t) (hs : g.state.shutdown = false)
    (hok : (g.step (.wake w)).waiters w = .returned t true) : t ≤ g.synced := by
  rw [step_wake_of_waiting hw, setWaiter_waiters, if_pos rfl] at hok
  unfold waitBlocking at hok
  split at hok
  · cases hok
  · rename_i hloop
    simp only [hs, Bool.not_false, Bool.and_true, decide_eq_true_eq, Nat.not_lt] at hloop
    simp only [Waiter.returned.injEq, true_and, Bool.not_eq_true'] at hok
    rw [hI.synced_eq hok]
    exact hloop

theorem wake_of_persisted (hw : g.waiters w = .waiting t) (hp : t ≤ g.state.persistedGen) :
    (g.step (.wake w)).waiters w = .returned t !g.state.persistFailed := by
  rw [step_wake_of_waiting hw, setWaiter_waiters, if_pos rfl]
  simp [waitBlocking, Nat.not_lt.2 hp]

end System

def Worker.moves : Worker → Event → Bool
  | .idle, .snapshot => true
  | .persisting _ _, .persistDone _ => true
  | _, _ => false

namespace System

variable {g : System} {w t c : Nat} {sd ok : Bool}

def workerMoves : System → List Event → Nat
  | _, [] => 0
  | g, e :: es => (if g.worker.moves e then 1 else 0) + workerMoves (g.step e) es

def commitDistance (t : Nat) (g : System) : Nat :=
  if t ≤ g.state.persistedGen then 0
  else
    match g.worker with
    | .idle => 2
    | .persisting covered _ => if t ≤ covered then 1 else 3
    | .exited => 0

theorem commitDistance_le_three : commitDistance t g ≤ 3 := by
  unfold commitDistance
  split
  · omega
  · split
    · omega
    · split <;> omega
    · omega

theorem persisted_of_commitDistance_eq_zero (hI : Inv g) (ht : t ≤ g.state.requestedGen)
    (h : commitDistance t g = 0) : t ≤ g.state.persistedGen := by
  unfold commitDistance at h
  split at h
  · assumption
  · rename_i hlt
    cases hw : g.worker with
    | idle => simp [hw] at h
    | persisting c sd =>
        simp only [hw] at h
        split at h <;> omega
    | exited => rw [(hI.exited hw).1]; exact ht

theorem step_of_not_moves {e : Event} (h : g.worker.moves e = false) :
    (g.step e).worker = g.worker ∧ (g.step e).state.persistedGen = g.state.persistedGen := by
  cases e with
  | putSync =>
      cases hs : g.state.shutdown
      · simp [step_putSync_of_up hs, requestPersist]
      · simp [step_putSync_of_shutdown hs]
  | persistBarrier v =>
      cases hs : g.state.shutdown
      · by_cases hv : g.waiters v = .none
        · simp [step_persistBarrier_of_fresh hs hv, requestPersist]
        · simp [step_persistBarrier_of_not_fresh (.inr hv)]
      · simp [step_persistBarrier_of_not_fresh (.inl hs)]
  | wake v =>
      by_cases hv : ∃ t', g.waiters v = .waiting t'
      · obtain ⟨t', ht'⟩ := hv
        simp [step_wake_of_waiting ht']
      · simp [step_wake_of_not_waiting (by simpa using hv)]
  | snapshot =>
      have hw : g.worker ≠ .idle := by
        intro hw
        simp [hw, Worker.moves] at h
      simp [step, snapshot_of_not_idle hw]
  | persistDone ok =>
      have hw : ∀ c sd, g.worker ≠ .persisting c sd := by
        intro c sd hw
        simp [hw, Worker.moves] at h
      simp [step, persistDone_of_not_persisting hw]
  | drop =>
      simp only [step]
      split <;> exact ⟨rfl, rfl⟩

theorem persistedGen_le_step (hI : Inv g) (e : Event) :
    g.state.persistedGen ≤ (g.step e).state.persistedGen := by
  cases hm : g.worker.moves e
  · simp only [(step_of_not_moves hm).2, Nat.le_refl]
  · cases e with
    | snapshot => simp [step]
    | persistDone ok =>
        cases hw : g.worker with
        | persisting c sd =>
            rw [step, persistDone_of_persisting hw]
            exact (hI.persisting_le c sd hw).1
        | idle | exited => simp [hw, Worker.moves] at hm
    | _ => cases hw : g.worker <;> simp [hw, Worker.moves] at hm

theorem commitDistance_congr {g' : System} (hw : g'.worker = g.worker)
    (hp : g'.state.persistedGen = g.state.persistedGen) : commitDistance t g' = commitDistance t g := by
  simp only [commitDistance, hw, hp]

theorem commitDistance_snapshot (hI : Inv g) (ht : t ≤ g.state.requestedGen) (hw : g.worker = .idle)
    (hlt : g.state.persistedGen < t) : commitDistance t g.snapshot = 1 ∧ commitDistance t g = 2 := by
  have hreq : g.state.persistRequested = true := by
    rcases hI.pending with h | h | ⟨sd, h⟩
    · omega
    · exact h
    · simp [hw] at h
  rw [snapshot_of_go hw (by simp [hreq])]
  simp [commitDistance, hw, Nat.not_le.2 hlt, ht]

theorem commitDistance_persistDone (hI : Inv g) (ht : t ≤ g.state.requestedGen)
    (hw : g.worker = .persisting c sd) (hlt : g.state.persistedGen < t) :
    commitDistance t (g.persistDone ok) < commitDistance t g := by
  rw [persistDone_of_persisting hw]
  by_cases hc : t ≤ c
  · simp [commitDistance, hw, hc, Nat.not_le.2 hlt]
  · have hsd : sd = false := by
      cases sd
      · rfl
      · exact absurd ((hI.final_commit c hw).1 ▸ ht) hc
    subst hsd
    simp [commitDistance, hw, hc, Nat.not_le.2 hlt]

theorem commitDistance_step (hI : Inv g) (ht : t ≤ g.state.requestedGen) (e : Event) :
    commitDistance t (g.step e) ≤ commitDistance t g - (if g.worker.moves e then 1 else 0) := by
  cases hm : g.worker.moves e
  · obtain ⟨hw, hp⟩ := step_of_not_moves hm
    rw [commitDistance_congr hw hp]
    exact Nat.le_refl _
  · simp only [if_true]
    by_cases hlt : g.state.persistedGen < t
    · cases e with
      | snapshot =>
          have hw : g.worker = .idle := by cases hw : g.worker <;> simp_all [Worker.moves]
          have h := commitDistance_snapshot hI ht hw hlt
          simp only [step]
          omega
      | persistDone ok =>
          cases hw : g.worker with
          | persisting c sd =>
              have h : commitDistance t (g.persistDone ok) < commitDistance t g :=
                commitDistance_persistDone hI ht hw hlt
              simp only [step]
              omega
          | idle | exited => simp [hw, Worker.moves] at hm
      | _ => cases hw : g.worker <;> simp [hw, Worker.moves] at hm
    · -- already published: it stays so
      have hp := Nat.le_trans (Nat.not_lt.1 hlt) (persistedGen_le_step hI e)
      simp [commitDistance, hp]

theorem requestedGen_le_foldl (es : List Event) :
    g.state.requestedGen ≤ (es.foldl step g).state.requestedGen :=
  Reach.foldl_invariant (Q := fun _ => True) (P := fun g' : System => g.state.requestedGen ≤ g'.state.requestedGen)
    (fun _ e _ h => Nat.le_trans h (requestedGen_le_step e)) (Nat.le_refl _) (fun _ _ => trivial)

theorem target?_foldl (h : (g.waiters w).target? = some t) (es : List Event) :
    ((es.foldl step g).waiters w).target? = some t :=
  Reach.foldl_invariant (Q := fun _ => True) (P := fun g' : System => (g'.waiters w).target? = some t)
    (fun _ e _ h' => target?_step h' e) h (fun _ _ => trivial)

theorem commitDistance_run (hI : Inv g) (ht : t ≤ g.state.requestedGen) (es : List Event) :
    commitDistance t (es.foldl step g) ≤ commitDistance t g - workerMoves g es := by
  induction es generalizing g with
  | nil => simp [workerMoves]
  | cons e es ih =>
      have h₁ := commitDistance_step hI ht e
      have h₂ := ih (hI.step e) (Nat.le_trans ht (requestedGen_le_step e))
      simp only [List.foldl_cons, workerMoves]
      omega

theorem waiter_released (h : Reachable g) (hw : g.waiters w = .waiting t) (es : List Event)
    (hmoves : 3 ≤ workerMoves g es ∨ (es.foldl step g).worker = .exited) :
    ∃ ok, ((es ++ [Event.wake w]).foldl step g).waiters w = .returned t ok := by
  have hI : Inv g := Reachable.inv h
  have hI' : Inv (es.foldl step g) := Reachable.inv (Reach.reachable_foldl_of h es)
  have ht : t ≤ g.state.requestedGen := hI.target_le w t hw
  have ht' := Nat.le_trans ht (requestedGen_le_foldl es)
  have hzero : commitDistance t (es.foldl step g) = 0 := by
    rcases hmoves with hm | hex
    · have := commitDistance_run hI ht es
      have := commitDistance_le_three (t := t) (g := g)
      omega
    · simp [commitDistance, hex]
  have hp := persisted_of_commitDistance_eq_zero hI' ht' hzero
  have htarget := target?_foldl (show (g.waiters w).target? = some t by simp [hw, Waiter.target?]) es
  simp only [List.foldl_append, List.foldl_cons, List.foldl_nil]
  cases hw' : (es.foldl step g).waiters w with
  | none => simp [hw', Waiter.target?] at htarget
  | waiting t' =>
      simp only [hw', Waiter.target?, Option.some.injEq] at htarget
      subst htarget
      exact ⟨_, wake_of_persisted hw' hp⟩
  | returned t' ok =>
      simp only [hw', Waiter.target?, Option.some.injEq] at htarget
      subst htarget
      refine ⟨ok, ?_⟩
      rw [step_wake_of_not_waiting (g := es.foldl step g) (by simp [hw'])]
      exact hw'

/-- The group commit over every interleaving. `persisted_gen` never decreases; a barrier returns
`Ok` only once an fsync that began after its request has succeeded, since the store cannot shut
down under a holder still waiting; every holder is released once the maintenance thread has made
three moves. -/
theorem persist_barrier_group_commit :
    (∀ g : System, Reachable g → ∀ e, g.state.persistedGen ≤ (g.step e).state.persistedGen) ∧
    (∀ g : System, Reachable g → ∀ w t, g.waiters w = .waiting t →
      (g.step (.wake w)).waiters w = .returned t true → t ≤ g.synced) ∧
    (∀ g : System, Reachable g → ∀ w t, g.waiters w = .waiting t → ∀ es : List Event,
      3 ≤ workerMoves g es ∨ (es.foldl step g).worker = .exited →
      ∃ ok, ((es ++ [Event.wake w]).foldl step g).waiters w = .returned t ok) := by
  refine ⟨fun g h e => persistedGen_le_step (Reachable.inv h) e, fun g h w t hw hok => ?_,
    fun g h w t hw es hm => waiter_released h hw es hm⟩
  have hI : Inv g := Reachable.inv h
  exact synced_of_wake_ok hI hw (hI.up_while_waiting w t hw) hok

def coveredRun : List Event := [.putSync, .persistBarrier 0, .snapshot, .persistDone true]

theorem persist_barrier_group_commit_covered :
    Reachable (coveredRun.foldl step init) ∧
      (coveredRun.foldl step init).waiters 0 = .waiting 2 ∧
      ((coveredRun.foldl step init).step (.wake 0)).waiters 0 = .returned 2 true ∧
      2 ≤ (coveredRun.foldl step init).synced :=
  ⟨Reach.reachable_foldl coveredRun, rfl, rfl,
    persist_barrier_group_commit.2.1 _ (Reach.reachable_foldl coveredRun) 0 2 rfl rfl⟩

end System

end GroupCommit

end Promtuz
