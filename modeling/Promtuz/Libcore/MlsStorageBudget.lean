import Promtuz.Libcore.MlsStorage
import Promtuz.Lib.Lists
import Promtuz.Lib.Reach

/-! The `mls_group_size` sidecar over runs of the storage provider: it stays equal to each
group's stored bytes, and those stay within `MLS_GROUP_STATE_BUDGET_BYTES`. Every method made of
one transaction, and every method whose later transactions cannot fail, rolls back whole on an
error; `queue_proposal` commits its proposal row before `list_append` can refuse. -/

namespace Promtuz

namespace MlsStorage

open MlsTables

section Tables

variable {db : MlsTables} {g g' : List UInt8} {t : Int} {s : List UInt8}

@[simp] theorem storage_setTotal (total : Int) : (db.setTotal g total).storage = db.storage := rfl

@[simp] theorem groupSize_upsert (row : StorageRow) : (db.upsert row).groupSize = db.groupSize := rfl

@[simp] theorem groupSize_insert (row : StorageRow) : (db.insert row).groupSize = db.groupSize := rfl

@[simp] theorem groupSize_deleteKey : (db.deleteKey g t s).groupSize = db.groupSize := rfl

@[simp] theorem groupSize_deleteTag : (db.deleteTag g t).groupSize = db.groupSize := rfl

theorem totalBytes_setTotal (total : Int) (g' : List UInt8) :
    (db.setTotal g total).totalBytes g' = if g' = g then some total else db.totalBytes g' := by
  unfold totalBytes setTotal
  split
  · subst g'
    rw [Table.find?_replace_self Prod.fst (g, total) db.groupSize]
    rfl
  · rw [Table.find?_replace_of_ne (Ne.symm ‹_›)]

theorem totalBytes_of_groupSize {db' : MlsTables} (h : db'.groupSize = db.groupSize) (g : List UInt8) :
    db'.totalBytes g = db.totalBytes g := by
  rw [totalBytes, totalBytes, h]

theorem groupBytes_of_storage {db' : MlsTables} (h : db'.storage = db.storage) (g : List UInt8) :
    db'.groupBytes g = db.groupBytes g := by
  rw [groupBytes, groupBytes, h]

theorem lengthAt_eq_sumWhere (hk : (db.storage.map StorageRow.key).Nodup) :
    (db.lengthAt g t s).getD 0 =
      Table.sumWhere (fun r => decide (r.key = (g, t, s))) (·.value.length) db.storage :=
  (Table.sumWhere_key hk _).symm

theorem sumWhere_group_key (rows : List StorageRow) :
    Table.sumWhere (fun r => decide (r.groupId = g') && decide (r.key = (g, t, s))) (·.value.length) rows =
      if g' = g then Table.sumWhere (fun r => decide (r.key = (g, t, s))) (·.value.length) rows else 0 := by
  by_cases hg : g' = g
  · rw [if_pos hg]
    refine Table.sumWhere_congr fun r _ => ?_
    by_cases hr : r.key = (g, t, s)
    · have hrg : r.groupId = g := congrArg Prod.fst hr
      simp [hr, hrg, hg]
    · simp [hr]
  · rw [if_neg hg]
    refine Table.sumWhere_eq_zero fun r _ => ?_
    by_cases hr : r.key = (g, t, s)
    · have hrg : r.groupId = g := congrArg Prod.fst hr
      simp [hr, hrg, Ne.symm hg]
    · simp [hr]

theorem lengthAt_le_groupBytes (hk : (db.storage.map StorageRow.key).Nodup) :
    (db.lengthAt g t s).getD 0 ≤ db.groupBytes g := by
  rw [lengthAt_eq_sumWhere hk, groupBytes]
  exact Table.sumWhere_le_of_imp fun r _ hr => by
    simp only [decide_eq_true_eq] at hr ⊢
    exact congrArg Prod.fst hr

theorem groupBytes_deleteKey (hk : (db.storage.map StorageRow.key).Nodup) (g' : List UInt8) :
    (db.deleteKey g t s).groupBytes g' + (if g' = g then (db.lengthAt g t s).getD 0 else 0) =
      db.groupBytes g' := by
  have h := Table.sumWhere_delete_add (q := fun r : StorageRow => decide (r.groupId = g'))
    (w := (·.value.length)) (fun r => decide (r.key = (g, t, s))) db.storage
  rw [sumWhere_group_key] at h
  rw [lengthAt_eq_sumWhere hk]
  exact h

theorem groupBytes_upsert (hk : (db.storage.map StorageRow.key).Nodup) (v : List UInt8) (g' : List UInt8) :
    (db.upsert ⟨g, t, s, v⟩).groupBytes g' + (if g' = g then (db.lengthAt g t s).getD 0 else 0) =
      db.groupBytes g' + (if g' = g then v.length else 0) := by
  have hdel := groupBytes_deleteKey (t := t) (s := s) (g := g) hk g'
  have hrow : Table.sumWhere (fun r : StorageRow => decide (r.groupId = g')) (·.value.length)
      [⟨g, t, s, v⟩] = if g' = g then v.length else 0 := by
    by_cases h : g' = g
    · simp [Table.sumWhere, h]
    · simp [Table.sumWhere, Ne.symm h, h]
  have hsplit : (db.upsert ⟨g, t, s, v⟩).groupBytes g' =
      (db.deleteKey g t s).groupBytes g' + if g' = g then v.length else 0 := by
    rw [groupBytes, upsert, Table.replace, Table.sumWhere_append, hrow]
    rfl
  omega

theorem groupBytes_deleteTag (g' : List UInt8) :
    (db.deleteTag g t).groupBytes g' + (if g' = g then db.tagBytes g t else 0) = db.groupBytes g' := by
  have h := Table.sumWhere_delete_add (q := fun r : StorageRow => decide (r.groupId = g'))
    (w := (·.value.length)) (fun r => decide (r.groupId = g ∧ r.keyTag = t)) db.storage
  split
  · subst g'
    have hand : Table.sumWhere (fun r : StorageRow => decide (r.groupId = g) && decide (r.groupId = g ∧ r.keyTag = t))
        (·.value.length) db.storage = db.tagBytes g t :=
      Table.sumWhere_congr fun r _ => by by_cases hr : r.groupId = g <;> simp [hr]
    rw [hand] at h
    exact h
  · have hzero : Table.sumWhere (fun r : StorageRow => decide (r.groupId = g') && decide (r.groupId = g ∧ r.keyTag = t))
        (·.value.length) db.storage = 0 :=
      Table.sumWhere_eq_zero fun r _ => by by_cases hr : r.groupId = g <;> simp [hr, ‹g' ≠ g›.symm]
    rw [hzero, Nat.add_zero] at h
    rw [Nat.add_zero]
    exact h

theorem groupBytes_insert (row : StorageRow) (g' : List UInt8) :
    (db.insert row).groupBytes g' = db.groupBytes g' + if row.groupId = g' then row.value.length else 0 := by
  show Table.sumWhere _ _ (db.storage ++ [row]) = _
  rw [Table.sumWhere_append]
  show db.groupBytes g' + Table.sumWhere _ _ [row] = _
  by_cases h : row.groupId = g' <;> simp [Table.sumWhere, h]

theorem lengthAt_of_mem (hk : (db.storage.map StorageRow.key).Nodup) {r : StorageRow} (hr : r ∈ db.storage) :
    db.lengthAt r.groupId r.keyTag r.subKey = some r.value.length := by
  have hsome : (db.storage.find? fun x => decide (x.key = (r.groupId, r.keyTag, r.subKey))).isSome :=
    List.find?_isSome.2 ⟨r, hr, decide_eq_true rfl⟩
  obtain ⟨x, hx⟩ := Option.isSome_iff_exists.1 hsome
  have hfound := List.find?_some hx
  have hxr : x.key = r.key := of_decide_eq_true hfound
  rw [lengthAt, hx, List.inj_on_of_nodup_map hk (List.mem_of_find?_eq_some hx) hr hxr]
  rfl

end Tables

section Sidecar

variable {db : MlsTables} {g : List UInt8} {delta : Int}

@[simp] theorem storage_addToGroupSize : (addToGroupSize db g delta).storage = db.storage := by
  unfold addToGroupSize
  split
  · rfl
  · split <;> rfl

theorem totalBytes_addToGroupSize_of_ne {g' : List UInt8} (h : g' ≠ g) :
    (addToGroupSize db g delta).totalBytes g' = db.totalBytes g' := by
  unfold addToGroupSize
  split
  · rfl
  · split <;> rw [totalBytes_setTotal, if_neg h]

theorem totalBytes_addToGroupSize (hδ : 0 ≤ (db.totalBytes g).getD 0 + delta) :
    ((addToGroupSize db g delta).totalBytes g).getD 0 = (db.totalBytes g).getD 0 + delta := by
  unfold addToGroupSize
  split
  · omega
  · split
    · -- no sidecar row yet: the count was 0 and the row is inserted as the delta
      rename_i hnone
      simp only [hnone, Option.getD_none, Int.zero_add] at hδ ⊢
      rw [totalBytes_setTotal, if_pos rfl, Option.getD_some, Int.max_eq_left hδ]
    · rename_i total hsome
      simp only [hsome, Option.getD_some] at hδ ⊢
      rw [totalBytes_setTotal, if_pos rfl, Option.getD_some, Int.max_eq_left hδ]

end Sidecar

/-- What every state reached from empty tables keeps: `(group_id, key_tag, sub_key)` is a key,
and for every non-empty group id the sidecar holds the group's stored bytes, within the budget. -/
structure Tracked (db : MlsTables) : Prop where
  keys_nodup : (db.storage.map StorageRow.key).Nodup
  total_eq : ∀ g, g ≠ [] → (db.totalBytes g).getD 0 = db.groupBytes g
  within : ∀ g, g ≠ [] → db.groupBytes g ≤ MLS_GROUP_STATE_BUDGET_BYTES

theorem tracked_empty : Tracked MlsTables.empty :=
  ⟨List.nodup_nil, fun _ _ => rfl, fun _ _ => Nat.zero_le _⟩

section Keep

variable {db tx : MlsTables}

theorem Tracked.of_storage (hT : Tracked db) (hkeys : (tx.storage.map StorageRow.key).Nodup)
    (hsize : tx.groupSize = db.groupSize) (hbytes : ∀ g, g ≠ [] → tx.groupBytes g = db.groupBytes g) :
    Tracked tx :=
  ⟨hkeys, fun g hg => by rw [totalBytes_of_groupSize hsize, hT.total_eq g hg, hbytes g hg],
    fun g hg => hbytes g hg ▸ hT.within g hg⟩

theorem Tracked.addToGroupSize (hT : Tracked db) {g : List UInt8} {delta : Int} (hg : g ≠ [])
    (hkeys : (tx.storage.map StorageRow.key).Nodup) (hsize : tx.groupSize = db.groupSize)
    (hother : ∀ g', g' ≠ g → tx.groupBytes g' = db.groupBytes g')
    (hbytes : (tx.groupBytes g : Int) = db.groupBytes g + delta)
    (hwithin : tx.groupBytes g ≤ MLS_GROUP_STATE_BUDGET_BYTES) :
    Tracked (addToGroupSize tx g delta) := by
  have htotal : (tx.totalBytes g).getD 0 = db.groupBytes g := by
    rw [totalBytes_of_groupSize hsize, hT.total_eq g hg]
  refine ⟨by rwa [storage_addToGroupSize], fun g' hg' => ?_, fun g' hg' => ?_⟩
  · rw [groupBytes_of_storage storage_addToGroupSize]
    by_cases hgg : g' = g
    · subst hgg
      rw [totalBytes_addToGroupSize (by rw [htotal]; omega), htotal, hbytes]
    · rw [totalBytes_addToGroupSize_of_ne hgg, totalBytes_of_groupSize hsize, hT.total_eq g' hg',
        hother g' hgg]
  · rw [groupBytes_of_storage storage_addToGroupSize]
    by_cases hgg : g' = g
    · subst hgg
      exact hwithin
    · rw [hother g' hgg]
      exact hT.within g' hg'

end Keep

theorem checkBudget_of_total {db : MlsTables} {g : List UInt8} {n : Nat} {delta : Int}
    (hn : (db.totalBytes g).getD 0 = n) (hδ : 0 ≤ (n : Int) + delta) :
    checkBudget db g delta =
      if (MLS_GROUP_STATE_BUDGET_BYTES : Int) < n + delta then
        .error (.budgetExceeded (asU64 n) (asU64 (max delta 0)) MLS_GROUP_STATE_BUDGET_BYTES)
      else .ok () := by
  have hover : overBudget (n + delta) = decide ((MLS_GROUP_STATE_BUDGET_BYTES : Int) < n + delta) := by
    simp [overBudget, Int.not_lt.2 hδ]
  simp only [checkBudget, hn, if_neg (Int.not_lt.2 hδ), hover, decide_eq_true_eq]

section Transactions

variable {db db' : MlsTables} {g : List UInt8} {t : Int} {s v : List UInt8}

theorem put_nil : put db [] t s v = .ok (db.upsert ⟨[], t, s, v⟩) := rfl

theorem put_of_tracked (hT : Tracked db) (hg : g ≠ []) :
    put db g t s v =
      if (MLS_GROUP_STATE_BUDGET_BYTES : Int) < db.groupBytes g + (v.length - (db.lengthAt g t s).getD 0 : Int) then
        .error (.budgetExceeded (asU64 (db.groupBytes g))
          (asU64 (max (v.length - (db.lengthAt g t s).getD 0 : Int) 0)) MLS_GROUP_STATE_BUDGET_BYTES)
      else .ok (addToGroupSize (db.upsert ⟨g, t, s, v⟩) g (v.length - (db.lengthAt g t s).getD 0)) := by
  have hisEmpty : g.isEmpty = false := List.isEmpty_eq_false_iff.2 hg
  have hprev := lengthAt_le_groupBytes (g := g) (t := t) (s := s) hT.keys_nodup
  simp only [put, hisEmpty, Bool.not_false, ↓reduceIte]
  rw [checkBudget_of_total (hT.total_eq g hg) (by omega)]
  split <;> rfl

theorem listAppend_nil :
    listAppend db [] t v =
      if (db.lengthAt [] t (Bytes.toBeBytes 8 (nextIdx db [] t))).isSome then .error .sqlite
      else .ok (db.insert ⟨[], t, Bytes.toBeBytes 8 (nextIdx db [] t), v⟩) := by
  simp only [listAppend, List.isEmpty_nil, Bool.not_true, Bool.false_eq_true, ↓reduceIte]
  split <;> rfl

theorem listAppend_of_tracked (hT : Tracked db) (hg : g ≠ []) :
    listAppend db g t v =
      if (MLS_GROUP_STATE_BUDGET_BYTES : Int) < db.groupBytes g + v.length then
        .error (.budgetExceeded (asU64 (db.groupBytes g)) (asU64 v.length) MLS_GROUP_STATE_BUDGET_BYTES)
      else if (db.lengthAt g t (Bytes.toBeBytes 8 (nextIdx db g t))).isSome then .error .sqlite
      else .ok (addToGroupSize (db.insert ⟨g, t, Bytes.toBeBytes 8 (nextIdx db g t), v⟩) g v.length) := by
  have hisEmpty : g.isEmpty = false := List.isEmpty_eq_false_iff.2 hg
  simp only [listAppend, hisEmpty, Bool.not_false, ↓reduceIte]
  rw [checkBudget_of_total (hT.total_eq g hg) (by omega), Int.max_eq_left (Int.natCast_nonneg _)]
  split
  · rfl
  · split <;> rfl

end Transactions

section Steps

variable {db db' : MlsTables} {g : List UInt8} {t : Int} {s v : List UInt8}

theorem nodup_upsert (hk : (db.storage.map StorageRow.key).Nodup) (row : StorageRow) :
    ((db.upsert row).storage.map StorageRow.key).Nodup :=
  Table.nodup_map_replace hk row

theorem nodup_deleteKey (hk : (db.storage.map StorageRow.key).Nodup) :
    ((db.deleteKey g t s).storage.map StorageRow.key).Nodup :=
  Table.nodup_map_delete hk _

theorem nodup_deleteTag (hk : (db.storage.map StorageRow.key).Nodup) :
    ((db.deleteTag g t).storage.map StorageRow.key).Nodup :=
  Table.nodup_map_delete hk _

theorem nodup_insert (hk : (db.storage.map StorageRow.key).Nodup) (habsent : (db.lengthAt g t s).isSome = false) :
    ((db.insert ⟨g, t, s, v⟩).storage.map StorageRow.key).Nodup := by
  have hnone : ∀ r ∈ db.storage, r.key ≠ (g, t, s) := by
    intro r hr hkey
    have hsome : (db.lengthAt g t s).isSome := by
      rw [lengthAt, Option.isSome_map]
      exact List.find?_isSome.2 ⟨r, hr, decide_eq_true hkey⟩
    rw [hsome] at habsent
    cases habsent
  show ((db.storage ++ [(⟨g, t, s, v⟩ : StorageRow)]).map StorageRow.key).Nodup
  rw [List.map_append, List.nodup_append]
  refine ⟨hk, by simp, ?_⟩
  intro a ha b hb
  obtain ⟨r, hr, rfl⟩ := List.mem_map.1 ha
  rw [List.map_singleton, List.mem_singleton] at hb
  subst hb
  exact hnone r hr

theorem Tracked.put (hT : Tracked db) (h : put db g t s v = .ok db') : Tracked db' := by
  have hk := hT.keys_nodup
  by_cases hg : g = []
  · -- an unscoped entity: written with neither budget nor sidecar
    subst hg
    rw [put_nil] at h
    cases h
    refine hT.of_storage (nodup_upsert hk _) rfl fun g' hg' => ?_
    simpa [hg'] using groupBytes_upsert (g := []) (t := t) (s := s) hk v g'
  · rw [put_of_tracked hT hg] at h
    split at h
    · cases h
    · rename_i hfits
      cases h
      have hb := groupBytes_upsert (g := g) (t := t) (s := s) hk v g
      rw [if_pos rfl, if_pos rfl] at hb
      refine hT.addToGroupSize hg (nodup_upsert hk _) rfl (fun g' hgg => ?_) (by omega) (by omega)
      simpa [hgg] using groupBytes_upsert (g := g) (t := t) (s := s) hk v g'

theorem Tracked.deleteOne (hT : Tracked db) (g : List UInt8) (t : Int) (s : List UInt8) :
    Tracked (deleteOne db g t s) := by
  have hk := hT.keys_nodup
  have hb := groupBytes_deleteKey (g := g) (t := t) (s := s) hk
  unfold MlsStorage.deleteOne
  dsimp only
  split
  · rename_i hcond
    simp only [Bool.and_eq_true, Bool.not_eq_true', List.isEmpty_eq_false_iff, decide_eq_true_eq] at hcond
    have hbg := hb g
    have hw := hT.within g hcond.1
    rw [if_pos rfl] at hbg
    refine hT.addToGroupSize hcond.1 (nodup_deleteKey hk) rfl (fun g' hgg => ?_) (by omega) (by omega)
    simpa [hgg] using hb g'
  · rename_i hcond
    refine hT.of_storage (nodup_deleteKey hk) rfl fun g' hg' => ?_
    have hbg := hb g'
    by_cases hgg : g' = g
    · -- a non-empty group takes the sidecar branch unless the row held nothing
      subst hgg
      have hzero : (db.lengthAt g' t s).getD 0 = 0 := by
        simp only [Bool.and_eq_true, Bool.not_eq_true', List.isEmpty_eq_false_iff, decide_eq_true_eq,
          not_and, Int.not_lt] at hcond
        have := hcond hg'
        omega
      rw [if_pos rfl, hzero, Nat.add_zero] at hbg
      exact hbg
    · rw [if_neg hgg, Nat.add_zero] at hbg
      exact hbg

theorem Tracked.deleteByTag (hT : Tracked db) (g : List UInt8) (t : Int) : Tracked (deleteByTag db g t) := by
  have hk := hT.keys_nodup
  have hb : ∀ g', (db.deleteTag g t).groupBytes g' + (if g' = g then db.tagBytes g t else 0) = db.groupBytes g' :=
    groupBytes_deleteTag
  unfold MlsStorage.deleteByTag
  dsimp only
  split
  · rename_i hcond
    simp only [Bool.and_eq_true, Bool.not_eq_true', List.isEmpty_eq_false_iff, decide_eq_true_eq] at hcond
    have hbg := hb g
    have hw := hT.within g hcond.1
    rw [if_pos rfl] at hbg
    refine hT.addToGroupSize hcond.1 (nodup_deleteTag hk) rfl (fun g' hgg => ?_) (by omega) (by omega)
    simpa [hgg] using hb g'
  · rename_i hcond
    refine hT.of_storage (nodup_deleteTag hk) rfl fun g' hg' => ?_
    have hbg := hb g'
    by_cases hgg : g' = g
    · subst hgg
      have hzero : db.tagBytes g' t = 0 := by
        simp only [Bool.and_eq_true, Bool.not_eq_true', List.isEmpty_eq_false_iff, decide_eq_true_eq,
          not_and, Int.not_lt] at hcond
        have := hcond hg'
        omega
      rw [if_pos rfl, hzero, Nat.add_zero] at hbg
      exact hbg
    · rw [if_neg hgg, Nat.add_zero] at hbg
      exact hbg

theorem firstWithValue_mem {row : StorageRow} (h : db.firstWithValue g t v = some row) :
    row ∈ db.storage ∧ row.groupId = g ∧ row.keyTag = t := by
  unfold firstWithValue at h
  rcases Lists.foldl_mem_of_keep_or_take (fun m r => by
      cases m with
      | none => exact .inr rfl
      | some x => by_cases hlt : r.subKey < x.subKey <;> simp [hlt]) _ h with h0 | hmem
  · cases h0
  · simp only [List.mem_filter, decide_eq_true_eq] at hmem
    exact ⟨hmem.1, hmem.2.1, hmem.2.2.1⟩

theorem Tracked.listRemove (hT : Tracked db) (g : List UInt8) (t : Int) (v : List UInt8) :
    Tracked (listRemove db g t v) := by
  have hk := hT.keys_nodup
  unfold MlsStorage.listRemove
  split
  · exact hT
  · rename_i row hrow
    obtain ⟨hmem, rfl, rfl⟩ := firstWithValue_mem hrow
    have hb := groupBytes_deleteKey (g := row.groupId) (t := row.keyTag) (s := row.subKey) hk
    simp only [lengthAt_of_mem hk hmem, Option.getD_some] at hb
    dsimp only
    split
    · rename_i hg
      simp only [Bool.not_eq_true', List.isEmpty_eq_false_iff] at hg
      have hbg := hb row.groupId
      have hw := hT.within row.groupId hg
      rw [if_pos rfl] at hbg
      refine hT.addToGroupSize hg (nodup_deleteKey hk) rfl (fun g' hgg => ?_) (by omega) (by omega)
      simpa [hgg] using hb g'
    · rename_i hg
      have hnil : row.groupId = [] := by simpa using hg
      refine hT.of_storage (nodup_deleteKey hk) rfl fun g' hg' => ?_
      have hne : g' ≠ row.groupId := hnil ▸ hg'
      simpa [hne] using hb g'

theorem Tracked.listAppend (hT : Tracked db) (h : listAppend db g t v = .ok db') : Tracked db' := by
  have hk := hT.keys_nodup
  by_cases hg : g = []
  · subst hg
    rw [listAppend_nil] at h
    split at h
    · cases h
    · rename_i habsent
      cases h
      refine hT.of_storage (nodup_insert hk (by simpa using habsent)) rfl fun g' hg' => ?_
      rw [groupBytes_insert, if_neg (Ne.symm hg'), Nat.add_zero]
  · rw [listAppend_of_tracked hT hg] at h
    split at h
    · cases h
    · rename_i hfits
      split at h
      · cases h
      · rename_i habsent
        cases h
        have hb : (db.insert ⟨g, t, Bytes.toBeBytes 8 (nextIdx db g t), v⟩).groupBytes g = _ :=
          groupBytes_insert ⟨g, t, Bytes.toBeBytes 8 (nextIdx db g t), v⟩ g
        rw [if_pos rfl] at hb
        dsimp only at hb
        refine hT.addToGroupSize hg (nodup_insert hk (by simpa using habsent)) rfl (fun g' hgg => ?_)
          (by omega) (by omega)
        rw [groupBytes_insert, if_neg (Ne.symm hgg), Nat.add_zero]

end Steps

section Runs

variable {db db' : MlsTables}

theorem Tracked.run_tx (hT : Tracked db) {tx : Tx} (h : tx.run db = .ok db') : Tracked db' := by
  cases tx with
  | put g t s v => exact hT.put h
  | deleteOne g t s =>
      cases h
      exact hT.deleteOne g t s
  | deleteByTag g t =>
      cases h
      exact hT.deleteByTag g t
  | listAppend g t v => exact hT.listAppend h
  | listRemove g t v =>
      cases h
      exact hT.listRemove g t v

theorem Tracked.runTxs (hT : Tracked db) (txs : List Tx) : Tracked (runTxs db txs).2 := by
  induction txs generalizing db with
  | nil => exact hT
  | cons tx rest ih =>
      rw [runTxs]
      split
      · rename_i db' hrun
        exact ih (hT.run_tx hrun)
      · exact hT

theorem tracked_run (calls : List StorageCall) : Tracked (run calls) := by
  unfold run
  exact Reach.foldl_invariant (Q := fun _ => True) (fun db c _ hT => hT.runTxs c.txs) tracked_empty
    (fun _ _ => trivial)

def Tx.MayFail : Tx → Prop
  | .put .. => True
  | .listAppend .. => True
  | _ => False

theorem Tx.run_of_not_mayFail {tx : Tx} (h : ¬tx.MayFail) (db : MlsTables) : ∃ db', tx.run db = .ok db' := by
  cases tx with
  | put g t s v => exact absurd trivial h
  | listAppend g t v => exact absurd trivial h
  | deleteOne g t s => exact ⟨_, rfl⟩
  | deleteByTag g t => exact ⟨_, rfl⟩
  | listRemove g t v => exact ⟨_, rfl⟩

theorem runTxs_ok_of_not_mayFail {txs : List Tx} (h : ∀ tx ∈ txs, ¬tx.MayFail) (db : MlsTables) :
    (runTxs db txs).1 = .ok () := by
  induction txs generalizing db with
  | nil => rfl
  | cons tx rest ih =>
      obtain ⟨db', hrun⟩ := Tx.run_of_not_mayFail (h tx List.mem_cons_self) db
      rw [runTxs, hrun]
      exact ih (fun tx' htx' => h tx' (List.mem_cons_of_mem _ htx')) db'

theorem runTxs_error_rolls_back {txs : List Tx} (htail : ∀ tx ∈ txs.tail, ¬tx.MayFail)
    {e : PromtuzMlsStorageError} (h : (runTxs db txs).1 = .error e) : (runTxs db txs).2 = db := by
  cases txs with
  | nil => cases h
  | cons tx rest =>
      cases hrun : tx.run db with
      | ok db' =>
          -- the later transactions all commit, so the method cannot have failed
          have hrest : (runTxs db' rest).1 = .ok () := runTxs_ok_of_not_mayFail htail db'
          simp only [runTxs, hrun, hrest] at h
          cases h
      | error e' => rw [runTxs, hrun]

theorem StorageCall.tail_cannot_fail {c : StorageCall} (hc : ∀ g r p, c ≠ .queueProposal g r p) :
    ∀ tx ∈ c.txs.tail, ¬tx.MayFail := by
  cases c <;> simp_all [StorageCall.txs, Tx.MayFail]

theorem getRaw_upsert_self (g : List UInt8) (t : Int) (s v : List UInt8) :
    (db.upsert ⟨g, t, s, v⟩).getRaw g t s = some v := by
  show Option.map _ ((Table.replace StorageRow.key ⟨g, t, s, v⟩ db.storage).find?
    fun r => decide (r.key = StorageRow.key ⟨g, t, s, v⟩)) = _
  rw [Table.find?_replace_self StorageRow.key ⟨g, t, s, v⟩ db.storage]
  rfl

end Runs

section QueueProposal

open tags

variable {db : MlsTables} {g pref proposal : List UInt8}

theorem queueProposal_refused (hT : Tracked db) (hg : g ≠ [])
    (hfits : (db.groupBytes g : Int) + (proposal.length - (db.lengthAt g QUEUED_PROPOSAL pref).getD 0) ≤
      MLS_GROUP_STATE_BUDGET_BYTES)
    (hover : (MLS_GROUP_STATE_BUDGET_BYTES : Int) <
      db.groupBytes g + (proposal.length - (db.lengthAt g QUEUED_PROPOSAL pref).getD 0) + pref.length) :
    (StorageCall.queueProposal g pref proposal).apply db =
      (.error (.budgetExceeded
          (asU64 (db.groupBytes g + (proposal.length - (db.lengthAt g QUEUED_PROPOSAL pref).getD 0)))
          (asU64 pref.length) MLS_GROUP_STATE_BUDGET_BYTES),
        addToGroupSize (db.upsert ⟨g, QUEUED_PROPOSAL, pref, proposal⟩) g
          (proposal.length - (db.lengthAt g QUEUED_PROPOSAL pref).getD 0)) := by
  have hput := put_of_tracked (t := QUEUED_PROPOSAL) (s := pref) (v := proposal) hT hg
  rw [if_neg (Int.not_lt.2 hfits)] at hput
  have hT₁ := hT.put hput
  -- the proposal's row now counts toward the group
  have hb := groupBytes_upsert (g := g) (t := QUEUED_PROPOSAL) (s := pref) hT.keys_nodup proposal g
  rw [if_pos rfl, if_pos rfl] at hb
  have hbytes : ((addToGroupSize (db.upsert ⟨g, QUEUED_PROPOSAL, pref, proposal⟩) g
      (proposal.length - (db.lengthAt g QUEUED_PROPOSAL pref).getD 0)).groupBytes g : Int) =
      db.groupBytes g + (proposal.length - (db.lengthAt g QUEUED_PROPOSAL pref).getD 0) := by
    rw [groupBytes_of_storage storage_addToGroupSize]
    omega
  have happend := listAppend_of_tracked (t := PROPOSAL_QUEUE_REFS) (v := pref) hT₁ hg
  rw [hbytes, if_pos hover] at happend
  simp only [StorageCall.apply, StorageCall.txs, runTxs, Tx.run, hput, happend]

theorem queueProposal_refused_tables (hT : Tracked db) (hg : g ≠ []) :
    (addToGroupSize (db.upsert ⟨g, QUEUED_PROPOSAL, pref, proposal⟩) g
        (proposal.length - (db.lengthAt g QUEUED_PROPOSAL pref).getD 0)).getRaw g QUEUED_PROPOSAL pref =
        some proposal ∧
      ((addToGroupSize (db.upsert ⟨g, QUEUED_PROPOSAL, pref, proposal⟩) g
        (proposal.length - (db.lengthAt g QUEUED_PROPOSAL pref).getD 0)).totalBytes g).getD 0 =
        db.groupBytes g + (proposal.length - (db.lengthAt g QUEUED_PROPOSAL pref).getD 0) := by
  have hprev := lengthAt_le_groupBytes (g := g) (t := QUEUED_PROPOSAL) (s := pref) hT.keys_nodup
  have htotal : ((db.upsert ⟨g, QUEUED_PROPOSAL, pref, proposal⟩).totalBytes g).getD 0 = db.groupBytes g := by
    rw [totalBytes_of_groupSize (groupSize_upsert _), hT.total_eq g hg]
  constructor
  · rw [getRaw, storage_addToGroupSize]
    exact getRaw_upsert_self g QUEUED_PROPOSAL pref proposal
  · rw [totalBytes_addToGroupSize (by rw [htotal]; omega), htotal]

end QueueProposal

open tags in
/-- The storage provider over any sequence of calls from empty tables: each non-empty group's
sidecar holds its stored bytes, within the budget, and every method but `queue_proposal` rolls
back whole on an error. `queue_proposal` whose proposal fits and whose ref then does not
answers `BudgetExceeded` with the proposal's row written and counted. -/
theorem mls_group_budget_queue_proposal (calls : List StorageCall) :
    (∀ g, g ≠ [] → ((run calls).totalBytes g).getD 0 = (run calls).groupBytes g ∧
      (run calls).groupBytes g ≤ MLS_GROUP_STATE_BUDGET_BYTES) ∧
    (∀ (c : StorageCall) (e : PromtuzMlsStorageError), (∀ g r p, c ≠ .queueProposal g r p) →
      (c.apply (run calls)).1 = .error e → (c.apply (run calls)).2 = run calls) ∧
    (∀ g pref proposal, g ≠ [] →
      let grown : Int := (run calls).groupBytes g +
        (proposal.length - ((run calls).lengthAt g QUEUED_PROPOSAL pref).getD 0)
      grown ≤ MLS_GROUP_STATE_BUDGET_BYTES → (MLS_GROUP_STATE_BUDGET_BYTES : Int) < grown + pref.length →
        ((StorageCall.queueProposal g pref proposal).apply (run calls)).1 =
            .error (.budgetExceeded (asU64 grown) (asU64 pref.length) MLS_GROUP_STATE_BUDGET_BYTES) ∧
          ((StorageCall.queueProposal g pref proposal).apply (run calls)).2.getRaw g QUEUED_PROPOSAL pref =
            some proposal ∧
          (((StorageCall.queueProposal g pref proposal).apply (run calls)).2.totalBytes g).getD 0 = grown) := by
  have hT := tracked_run calls
  refine ⟨fun g hg => ⟨hT.total_eq g hg, hT.within g hg⟩, fun c e hc h => ?_, ?_⟩
  · exact runTxs_error_rolls_back (StorageCall.tail_cannot_fail hc) h
  · intro g pref proposal hg grown hfits hover
    rw [queueProposal_refused hT hg hfits hover]
    exact ⟨rfl, queueProposal_refused_tables hT hg⟩

def fullProposal : List UInt8 := List.replicate MLS_GROUP_STATE_BUDGET_BYTES 0

open tags in
/-- A fresh group whose first queued proposal fills the budget: the ref no longer fits, so
`queue_proposal` answers `BudgetExceeded`, and the proposal row that was absent is now stored. -/
theorem mls_group_budget_queue_proposal_full :
    (run []).getRaw [1] QUEUED_PROPOSAL [2] = none ∧
      ((StorageCall.queueProposal [1] [2] fullProposal).apply (run [])).1 =
        .error (.budgetExceeded MLS_GROUP_STATE_BUDGET_BYTES 1 MLS_GROUP_STATE_BUDGET_BYTES) ∧
      ((StorageCall.queueProposal [1] [2] fullProposal).apply (run [])).2.getRaw [1] QUEUED_PROPOSAL [2] =
        some fullProposal := by
  have hlen : fullProposal.length = MLS_GROUP_STATE_BUDGET_BYTES := List.length_replicate
  have hrun := (mls_group_budget_queue_proposal []).2.2 [1] [2] fullProposal (by decide)
  have hbytes : (run []).groupBytes [1] = 0 := rfl
  have hprev : ((run []).lengthAt [1] QUEUED_PROPOSAL [2]).getD 0 = 0 := rfl
  simp only [hbytes, hprev, hlen, Int.natCast_zero, Int.zero_add, Int.sub_zero] at hrun
  obtain ⟨herr, hraw, -⟩ := hrun (Int.le_refl _) (by simp only [List.length_singleton]; omega)
  refine ⟨rfl, ?_, hraw⟩
  rw [herr]
  rfl

end MlsStorage

end Promtuz
