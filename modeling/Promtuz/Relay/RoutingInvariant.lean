import Promtuz.Relay.Routing

namespace Promtuz.Routing

open Lists

def Bucket.ids (b : Bucket) : List NodeId := (b.entries ++ b.candidates).map RoutingEntry.id

/-- The representation invariant of one bucket: both vectors within
`BUCKET_SIZE`, every id placed in this bucket, no id twice across the two
vectors, and candidates only behind a full active set. -/
structure Bucket.WellFormed (selfId : NodeId) (i : Fin BUCKETS) (b : Bucket) : Prop where
  entries_le : b.entries.length ≤ BUCKET_SIZE
  candidates_le : b.candidates.length ≤ BUCKET_SIZE
  placed : ∀ x ∈ b.ids, bucketFor selfId x = some i
  ids_nodup : b.ids.Nodup
  full_of_candidates : b.candidates ≠ [] → b.entries.length = BUCKET_SIZE

def RoutingTable.WellFormed (t : RoutingTable) : Prop := ∀ i, (t.buckets i).WellFormed t.selfId i

@[simp] theorem fromDescriptor_id (d : NodeDescriptor) (now : Nat) :
    (RoutingEntry.fromDescriptor d now).id = d.id := rfl

@[simp] theorem RoutingEntry.promote_id (e : RoutingEntry) (now : Nat) : (e.promote now).id = e.id := rfl

@[simp] theorem RoutingEntry.recordPong_id (e : RoutingEntry) (rttMs : UInt32) (now : Nat) :
    (e.recordPong rttMs now).id = e.id := rfl

theorem Bucket.insert_cases (crypto : Crypto) (b : Bucket) (d : NodeDescriptor) (now : Nat) :
    (∃ pre e suf e', b.entries = pre ++ e :: suf ∧ e'.id = e.id ∧
        (b.insert crypto d now).2.entries = pre ++ suf ++ [e'] ∧
        (b.insert crypto d now).2.candidates = b.candidates) ∨
      ((∀ e ∈ b.entries, e.id ≠ d.id) ∧ b.entries.length < BUCKET_SIZE ∧
        (b.insert crypto d now).2.entries = b.entries ++ [RoutingEntry.fromDescriptor d now] ∧
        (b.insert crypto d now).2.candidates = b.candidates) ∨
      ((∀ e ∈ b.entries, e.id ≠ d.id) ∧ (∀ c ∈ b.candidates, c.id ≠ d.id) ∧
        BUCKET_SIZE ≤ b.entries.length ∧ b.candidates.length < BUCKET_SIZE ∧
        (b.insert crypto d now).2.entries = b.entries ∧
        (b.insert crypto d now).2.candidates = b.candidates ++ [RoutingEntry.fromDescriptor d now]) ∨
      ((b.insert crypto d now).2.entries = b.entries ∧
        (b.insert crypto d now).2.candidates = b.candidates) := by
  cases hs : splitFirst (fun e => e.id == d.id) b.entries with
  | some s =>
      obtain ⟨pre, e, suf⟩ := s
      obtain ⟨hb, -, -⟩ := splitFirst_eq_some hs
      refine .inl ⟨pre, e, suf, e.refresh crypto d now, hb, rfl, ?_, ?_⟩
      · simp only [Bucket.insert, hs]
      · simp only [Bucket.insert, hs]
  | none =>
      have hnot : ∀ e ∈ b.entries, e.id ≠ d.id := by
        intro e he hid
        have := (splitFirst_eq_none.1 hs) e he
        simp [hid] at this
      by_cases hlen : b.entries.length < BUCKET_SIZE
      · refine .inr (.inl ⟨hnot, hlen, ?_, ?_⟩)
        · simp only [Bucket.insert, hs, hlen, dite_true]
        · simp only [Bucket.insert, hs, hlen, dite_true]
      · by_cases hc : b.candidates.length < BUCKET_SIZE
        · by_cases hany : b.candidates.any (fun c => c.id == d.id)
          · refine .inr (.inr (.inr ⟨?_, ?_⟩))
            · simp only [Bucket.insert, hs, hlen, hc, hany, dite_false, if_true]
            · simp only [Bucket.insert, hs, hlen, hc, hany, dite_false, if_true]
          · refine .inr (.inr (.inl ⟨hnot, ?_, by omega, hc, ?_, ?_⟩))
            · intro c hc' hid
              exact hany (List.any_eq_true.2 ⟨c, hc', by simp [hid]⟩)
            · simp only [Bucket.insert, hs, hlen, hc, hany, dite_false, if_true, Bool.false_eq_true, if_false]
            · simp only [Bucket.insert, hs, hlen, hc, hany, dite_false, if_true, Bool.false_eq_true, if_false]
        · refine .inr (.inr (.inr ⟨?_, ?_⟩))
          · simp only [Bucket.insert, hs, hlen, hc, dite_false, if_false]
          · simp only [Bucket.insert, hs, hlen, hc, dite_false, if_false]

theorem Bucket.pingFailed_cases (b : Bucket) (peerId : NodeId) (now : Nat) :
    ((b.pingFailed peerId now).2.entries = b.entries ∧
        (b.pingFailed peerId now).2.candidates = b.candidates) ∨
      (∃ pre e suf e', b.entries = pre ++ e :: suf ∧ e'.id = e.id ∧
        (b.pingFailed peerId now).2.entries = pre ++ e' :: suf ∧
        (b.pingFailed peerId now).2.candidates = b.candidates) ∨
      (∃ pre e suf, b.entries = pre ++ e :: suf ∧ b.candidates = [] ∧
        (b.pingFailed peerId now).2.entries = pre ++ suf ∧
        (b.pingFailed peerId now).2.candidates = []) ∨
      (∃ pre e suf c cs, b.entries = pre ++ e :: suf ∧ b.candidates = c :: cs ∧
        (b.pingFailed peerId now).2.entries = pre ++ suf ++ [c.promote now] ∧
        (b.pingFailed peerId now).2.candidates = cs) := by
  cases hs : splitFirst (fun e => e.id == peerId) b.entries with
  | none => exact .inl ⟨by simp only [Bucket.pingFailed, hs], by simp only [Bucket.pingFailed, hs]⟩
  | some s =>
      obtain ⟨pre, e, suf⟩ := s
      obtain ⟨hb, -, -⟩ := splitFirst_eq_some hs
      by_cases hc : saturatingAdd e.failedPings 1 < PING_FAILURES_BEFORE_EVICTION
      · refine .inr (.inl ⟨pre, e, suf, { e with failedPings := saturatingAdd e.failedPings 1 }, hb, rfl,
          ?_, ?_⟩)
        · simp only [Bucket.pingFailed, hs, hc, if_true]
        · simp only [Bucket.pingFailed, hs, hc, if_true]
      · cases hcand : b.candidates with
        | nil =>
            refine .inr (.inr (.inl ⟨pre, e, suf, hb, rfl, ?_, ?_⟩))
            · simp only [Bucket.pingFailed, hs, hc, hcand, if_false]
            · simp only [Bucket.pingFailed, hs, hc, hcand, if_false]
        | cons c cs =>
            refine .inr (.inr (.inr ⟨pre, e, suf, c, cs, hb, rfl, ?_, ?_⟩))
            · simp only [Bucket.pingFailed, hs, hc, hcand, if_false]
            · simp only [Bucket.pingFailed, hs, hc, hcand, if_false]

theorem Bucket.pingSucceeded_cases (b : Bucket) (peerId : NodeId) (rttMs : UInt32) (now : Nat) :
    ((b.pingSucceeded peerId rttMs now).2.entries = b.entries ∧
        (b.pingSucceeded peerId rttMs now).2.candidates = b.candidates) ∨
      (∃ pre e suf, b.entries = pre ++ e :: suf ∧
        (b.pingSucceeded peerId rttMs now).2.entries = pre ++ suf ++ [e.recordPong rttMs now] ∧
        (b.pingSucceeded peerId rttMs now).2.candidates = b.candidates) := by
  cases hs : splitFirst (fun e => e.id == peerId) b.entries with
  | none =>
      exact .inl ⟨by simp only [Bucket.pingSucceeded, hs], by simp only [Bucket.pingSucceeded, hs]⟩
  | some s =>
      obtain ⟨pre, e, suf⟩ := s
      obtain ⟨hb, -, -⟩ := splitFirst_eq_some hs
      exact .inr ⟨pre, e, suf, hb, by simp only [Bucket.pingSucceeded, hs],
        by simp only [Bucket.pingSucceeded, hs]⟩

section WellFormed

variable {selfId : NodeId} {i : Fin BUCKETS} {b b' : Bucket}

theorem Bucket.WellFormed.of_sublist_perm (h : b.WellFormed selfId i) {l : List NodeId}
    (hl : l.Sublist b.ids) (hp : b'.ids.Perm l) (he : b'.entries.length ≤ BUCKET_SIZE)
    (hc : b'.candidates.length ≤ BUCKET_SIZE)
    (hf : b'.candidates ≠ [] → b'.entries.length = BUCKET_SIZE) : b'.WellFormed selfId i where
  entries_le := he
  candidates_le := hc
  placed x hx := h.placed x (hl.subset (hp.subset hx))
  ids_nodup := hp.nodup_iff.2 (h.ids_nodup.sublist hl)
  full_of_candidates := hf

theorem Bucket.WellFormed.of_cons (h : b.WellFormed selfId i) {x : NodeId}
    (hp : b'.ids.Perm (x :: b.ids)) (hx : x ∉ b.ids) (hi : bucketFor selfId x = some i)
    (he : b'.entries.length ≤ BUCKET_SIZE) (hc : b'.candidates.length ≤ BUCKET_SIZE)
    (hf : b'.candidates ≠ [] → b'.entries.length = BUCKET_SIZE) : b'.WellFormed selfId i where
  entries_le := he
  candidates_le := hc
  placed y hy := by
    rcases List.mem_cons.1 (hp.subset hy) with rfl | hy
    · exact hi
    · exact h.placed y hy
  ids_nodup := hp.nodup_iff.2 (List.nodup_cons.2 ⟨hx, h.ids_nodup⟩)
  full_of_candidates := hf

theorem ids_perm_of_moved {pre suf cands : List RoutingEntry} {e f : RoutingEntry}
    (hid : f.id = e.id) :
    ((pre ++ suf ++ [f]) ++ cands).map RoutingEntry.id |>.Perm
      (((pre ++ e :: suf) ++ cands).map RoutingEntry.id) := by
  simp only [List.map_append, List.map_cons, hid, List.append_assoc, List.singleton_append,
    List.perm_append_left_iff]
  exact List.perm_middle

theorem Bucket.insert_wf (crypto : Crypto) {d : NodeDescriptor} (now : Nat)
    (h : b.WellFormed selfId i) (hd : bucketFor selfId d.id = some i) :
    (b.insert crypto d now).2.WellFormed selfId i := by
  rcases b.insert_cases crypto d now with
    ⟨pre, e, suf, e', hb, hid, he, hc⟩ | ⟨hnot, hlen, he, hc⟩ |
      ⟨hnot, hnotc, hfull, hlen, he, hc⟩ | ⟨he, hc⟩
  · have hlen : (b.insert crypto d now).2.entries.length = b.entries.length := by
      simp [he, hb]
    refine h.of_sublist_perm (List.Sublist.refl _) ?_ (hlen ▸ h.entries_le) (hc ▸ h.candidates_le)
      (fun hne => hlen ▸ h.full_of_candidates (hc ▸ hne))
    simpa only [Bucket.ids, he, hc, hb] using ids_perm_of_moved hid
  · have hcand : b.candidates = [] := by
      by_contra hne
      have := h.full_of_candidates hne
      omega
    refine h.of_cons (x := d.id) ?_ ?_ hd ?_ (by simp [hc, hcand]) (by simp [hc, hcand])
    · simp [Bucket.ids, he, hc, hcand]
    · simp only [Bucket.ids, hcand, List.append_nil, List.mem_map, not_exists, not_and]
      exact fun e he' hid => hnot e he' hid
    · simp only [he, List.length_append, List.length_singleton]; omega
  · have hfull' : b.entries.length = BUCKET_SIZE := Nat.le_antisymm h.entries_le hfull
    refine h.of_cons (x := d.id) ?_ ?_ hd (by rw [he]; exact h.entries_le) ?_ (fun _ => he ▸ hfull')
    · simp only [Bucket.ids, he, hc, ← List.append_assoc, List.map_append, List.map_cons,
        List.map_nil, fromDescriptor_id]
      exact List.perm_append_singleton _ _
    · simp only [Bucket.ids, List.map_append, List.mem_append, List.mem_map, not_or, not_exists,
        not_and]
      exact ⟨fun e he' hid => hnot e he' hid, fun c hc' hid => hnotc c hc' hid⟩
    · simp only [hc, List.length_append, List.length_singleton]; omega
  · refine h.of_sublist_perm (List.Sublist.refl _) ?_ (he ▸ h.entries_le) (hc ▸ h.candidates_le)
      (fun hne => he ▸ h.full_of_candidates (hc ▸ hne))
    simp only [Bucket.ids, he, hc]
    exact List.Perm.refl _

theorem Bucket.WellFormed.of_same (h : b.WellFormed selfId i) (he : b'.entries = b.entries)
    (hc : b'.candidates = b.candidates) : b'.WellFormed selfId i :=
  h.of_sublist_perm (List.Sublist.refl _) (by rw [Bucket.ids, he, hc]; rfl) (he ▸ h.entries_le)
    (hc ▸ h.candidates_le) (fun hne => he ▸ h.full_of_candidates (hc ▸ hne))

theorem Bucket.pingFailed_wf (peerId : NodeId) (now : Nat) (h : b.WellFormed selfId i) :
    (b.pingFailed peerId now).2.WellFormed selfId i := by
  rcases b.pingFailed_cases peerId now with
    ⟨he, hc⟩ | ⟨pre, e, suf, e', hb, hid, he, hc⟩ | ⟨pre, e, suf, hb, hcand, he, hc⟩ |
      ⟨pre, e, suf, c, cs, hb, hcand, he, hc⟩
  · exact h.of_same he hc
  · have hlen : (b.pingFailed peerId now).2.entries.length = b.entries.length := by simp [he, hb]
    refine h.of_sublist_perm (List.Sublist.refl _) ?_ (hlen ▸ h.entries_le) (hc ▸ h.candidates_le)
      (fun hne => hlen ▸ h.full_of_candidates (hc ▸ hne))
    simp only [Bucket.ids, he, hc, hb, List.map_append, List.map_cons, hid]
    exact List.Perm.refl _
  · refine h.of_sublist_perm (l := (pre ++ suf).map RoutingEntry.id) ?_ ?_ ?_ (by simp [hc])
      (fun hne => absurd hc hne)
    · simp only [Bucket.ids, hb, hcand, List.append_nil, List.map_append, List.map_cons]
      exact List.Sublist.append_left (List.sublist_cons_self _ _) _
    · simp only [Bucket.ids, he, hc, List.append_nil]
      exact List.Perm.refl _
    · have := h.entries_le
      simp only [he, hb, List.length_append, List.length_cons] at this ⊢
      omega
  · have hfull := h.full_of_candidates (by simp [hcand])
    have hlen : (b.pingFailed peerId now).2.entries.length = BUCKET_SIZE := by
      rw [← hfull, he, hb]
      simp
    refine h.of_sublist_perm (l := (pre ++ suf ++ c :: cs).map RoutingEntry.id) ?_ ?_ (Nat.le_of_eq hlen) ?_
      (fun _ => hlen)
    · simp only [Bucket.ids, hb, hcand, List.map_append, List.map_cons, List.append_assoc]
      exact List.Sublist.append_left (List.sublist_cons_self _ _) _
    · simp only [Bucket.ids, he, hc, List.map_append, List.map_cons, RoutingEntry.promote_id,
        List.append_assoc, List.singleton_append]
      exact List.Perm.refl _
    · have := h.candidates_le
      simp only [hc, hcand, List.length_cons] at this ⊢
      omega

theorem Bucket.pingSucceeded_wf (peerId : NodeId) (rttMs : UInt32) (now : Nat)
    (h : b.WellFormed selfId i) : (b.pingSucceeded peerId rttMs now).2.WellFormed selfId i := by
  rcases b.pingSucceeded_cases peerId rttMs now with ⟨he, hc⟩ | ⟨pre, e, suf, hb, he, hc⟩
  · exact h.of_same he hc
  · have hlen : (b.pingSucceeded peerId rttMs now).2.entries.length = b.entries.length := by
      simp [he, hb]
    refine h.of_sublist_perm (List.Sublist.refl _) ?_ (hlen ▸ h.entries_le) (hc ▸ h.candidates_le)
      (fun hne => hlen ▸ h.full_of_candidates (hc ▸ hne))
    simpa only [Bucket.ids, he, hc, hb] using
      ids_perm_of_moved (e := e) (f := e.recordPong rttMs now) (RoutingEntry.recordPong_id e rttMs now)

end WellFormed

theorem RoutingTable.WellFormed.setBucket {t : RoutingTable} (h : t.WellFormed) {i : Fin BUCKETS}
    {b : Bucket} (hb : b.WellFormed t.selfId i) : (t.setBucket i b).WellFormed := by
  intro j
  by_cases hj : j = i
  · subst hj
    simpa [RoutingTable.setBucket] using hb
  · simpa [RoutingTable.setBucket, hj] using h j

theorem RoutingTable.empty_wf (selfId : NodeId) (now : Nat) : (RoutingTable.empty selfId now).WellFormed :=
  fun _ => ⟨by simp [RoutingTable.empty, Bucket.empty], by simp [RoutingTable.empty, Bucket.empty],
    by simp [RoutingTable.empty, Bucket.empty, Bucket.ids], by simp [RoutingTable.empty, Bucket.empty, Bucket.ids],
    by simp [RoutingTable.empty, Bucket.empty]⟩

@[simp] theorem RoutingTable.apply_selfId (crypto : Crypto) (t : RoutingTable) (op : Op) :
    (t.apply crypto op).selfId = t.selfId := by
  cases op with
  | insert d now =>
      simp only [RoutingTable.apply, RoutingTable.insert]
      split <;> rfl
  | pingFailed id now =>
      simp only [RoutingTable.apply, RoutingTable.pingFailed]
      split <;> rfl
  | pingSucceeded id rtt now =>
      simp only [RoutingTable.apply, RoutingTable.pingSucceeded]
      split <;> rfl
  | markRefreshed idx now =>
      simp only [RoutingTable.apply, RoutingTable.markRefreshed]
      split <;> rfl

theorem RoutingTable.apply_wf (crypto : Crypto) {t : RoutingTable} (h : t.WellFormed) (op : Op) :
    (t.apply crypto op).WellFormed := by
  cases op with
  | insert d now =>
      cases hb : bucketFor t.selfId d.id with
      | none => simpa [RoutingTable.apply, RoutingTable.insert, hb] using h
      | some i =>
          simpa [RoutingTable.apply, RoutingTable.insert, hb] using
            h.setBucket (Bucket.insert_wf crypto now (h i) hb)
  | pingFailed id now =>
      cases hb : bucketFor t.selfId id with
      | none => simpa [RoutingTable.apply, RoutingTable.pingFailed, hb] using h
      | some i =>
          simpa [RoutingTable.apply, RoutingTable.pingFailed, hb] using
            h.setBucket (Bucket.pingFailed_wf id now (h i))
  | pingSucceeded id rtt now =>
      cases hb : bucketFor t.selfId id with
      | none => simpa [RoutingTable.apply, RoutingTable.pingSucceeded, hb] using h
      | some i =>
          simpa [RoutingTable.apply, RoutingTable.pingSucceeded, hb] using
            h.setBucket (Bucket.pingSucceeded_wf id rtt now (h i))
  | markRefreshed idx now =>
      simp only [RoutingTable.apply, RoutingTable.markRefreshed]
      split
      · rename_i hi
        exact h.setBucket ((h ⟨idx, hi⟩).of_same rfl rfl)
      · exact h

theorem RoutingTable.Reachable.wellFormed {crypto : Crypto} {selfId : NodeId} {now : Nat} {t : RoutingTable}
    (h : RoutingTable.Reachable crypto selfId now t) : t.WellFormed :=
  Reach.Reachable.invariant (RoutingTable.empty_wf selfId now)
    (fun _ op hs => RoutingTable.apply_wf crypto hs op) h

theorem RoutingTable.Reachable.selfId_eq {crypto : Crypto} {selfId : NodeId} {now : Nat}
    {t : RoutingTable} (h : t.Reachable crypto selfId now) : t.selfId = selfId :=
  Reach.Reachable.invariant (P := fun t : RoutingTable => t.selfId = selfId) rfl
    (fun t op ht => by rw [RoutingTable.apply_selfId, ht]) h

theorem routing_table_wellFormed (crypto : Crypto) (selfId : NodeId) (now : Nat) (ops : List Op) :
    (ops.foldl (RoutingTable.apply crypto) (RoutingTable.empty selfId now)).WellFormed :=
  RoutingTable.Reachable.wellFormed (Reach.reachable_foldl ops)

theorem lzcLoop_replicate_zero (n : Nat) : lzcLoop (List.replicate n 0) = 8 * n := by
  induction n with
  | zero => rfl
  | succ n ih =>
      rw [List.replicate_succ, lzcLoop, if_pos rfl, ih]
      omega

theorem xorBytes_self (a : List UInt8) : Bytes.xorBytes a a = List.replicate a.length 0 := by
  induction a with
  | nil => rfl
  | cons x xs ih =>
      rw [List.length_cons, List.replicate_succ, ← ih]
      simp [Bytes.xorBytes]

@[simp] theorem bucketFor_self (x : NodeId) : bucketFor x x = none := by
  have h : lzcLoop (Bytes.xorBytes x.1 x.1) = 256 := by
    rw [xorBytes_self, x.2, lzcLoop_replicate_zero]
  simp only [bucketFor, h, if_true]

theorem Bucket.WellFormed.id_ne_selfId {selfId : NodeId} {i : Fin BUCKETS} {b : Bucket}
    (h : b.WellFormed selfId i) {x : NodeId} (hx : x ∈ b.ids) : x ≠ selfId := by
  rintro rfl
  simpa using h.placed x hx

theorem RoutingTable.mem_activeEntries {t : RoutingTable} {e : RoutingEntry} :
    e ∈ t.activeEntries ↔ ∃ i, e ∈ (t.buckets i).entries := by
  simp [RoutingTable.activeEntries]

theorem RoutingTable.length_activeEntries (t : RoutingTable) :
    t.activeEntries.length = t.totalKnown := by
  simp [RoutingTable.activeEntries, RoutingTable.totalKnown, List.length_flatMap]

section WellFormed

variable {t : RoutingTable}

theorem Bucket.WellFormed.entry_placed {selfId : NodeId} {i : Fin BUCKETS} {b : Bucket}
    (h : b.WellFormed selfId i) {e : RoutingEntry} (he : e ∈ b.entries) :
    bucketFor selfId e.id = some i :=
  h.placed e.id (List.mem_map_of_mem (List.mem_append_left _ he))

theorem RoutingTable.WellFormed.activeIds_nodup (h : t.WellFormed) :
    (t.activeEntries.map RoutingEntry.id).Nodup := by
  rw [RoutingTable.activeEntries, List.map_flatMap, List.nodup_flatMap]
  refine ⟨fun i _ => ?_, ?_⟩
  · have := (h i).ids_nodup
    rw [Bucket.ids, List.map_append] at this
    exact this.of_append_left
  · refine (List.nodup_finRange BUCKETS).imp fun {i j} hij => ?_
    intro x hi hj
    obtain ⟨e, he, rfl⟩ := List.mem_map.mp hi
    obtain ⟨e', he', hx⟩ := List.mem_map.mp hj
    have hpi := (h i).entry_placed he
    have hpj := (h j).entry_placed he'
    rw [hx, hpi] at hpj
    exact hij (Option.some.inj hpj)

theorem RoutingTable.WellFormed.activeId_ne_selfId (h : t.WellFormed) {e : RoutingEntry}
    (he : e ∈ t.activeEntries) : e.id ≠ t.selfId := by
  obtain ⟨i, hi⟩ := RoutingTable.mem_activeEntries.mp he
  exact (h i).id_ne_selfId (List.mem_map_of_mem (List.mem_append_left _ hi))

end WellFormed

end Promtuz.Routing
