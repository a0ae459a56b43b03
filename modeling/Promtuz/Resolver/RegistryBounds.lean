import Promtuz.Resolver.Registry

/-! What registration keeps of a registry, over every sequence of hellos, heartbeats, closes and
watchers: one entry per id, at most the capacity, at most `MAX_REGISTRATIONS_PER_SOURCE` per
source group; and an established entry heard from within `HEARTBEAT_TIMEOUT` is never the one
admission displaces. What a registration does not keep: when admission refuses it, the entry
the id had before is already gone and its connection closed. -/

namespace Promtuz

def groupCount (entries : List RelayEntry) (g : List UInt8) : Nat :=
  (entries.filter fun e => sourceGroup e.conn.ip = g).length

/-- What admission keeps of a registry: one entry per id, at most `capacity` entries, and at
most `MAX_REGISTRATIONS_PER_SOURCE` from one source group. -/
structure Bounded (capacity : Nat) (entries : List RelayEntry) : Prop where
  ids_nodup : (entries.map (·.id)).Nodup
  length_le : entries.length ≤ capacity
  group_le : ∀ g, groupCount entries g ≤ MAX_REGISTRATIONS_PER_SOURCE

section Lists

variable {entries : List RelayEntry} {g : List UInt8} {cap : Nat}

theorem groupCount_slots (entries : List RelayEntry) (g : List UInt8) :
    ((entries.map RelayEntry.slot).filter fun s => sourceGroup s.ip = g).length = groupCount entries g := by
  simp only [groupCount, List.filter_map, List.length_map]
  rfl

theorem groupCount_filter_le (p : RelayEntry → Bool) : groupCount (entries.filter p) g ≤ groupCount entries g :=
  (List.filter_sublist.filter _).length_le

theorem groupCount_append_single (e : RelayEntry) :
    groupCount (entries ++ [e]) g = groupCount entries g + if sourceGroup e.conn.ip = g then 1 else 0 := by
  by_cases h : sourceGroup e.conn.ip = g <;> simp [groupCount, List.filter_append, h]

theorem Bounded.filter (h : Bounded cap entries) (p : RelayEntry → Bool) : Bounded cap (entries.filter p) where
  ids_nodup := h.ids_nodup.sublist (List.filter_sublist.map _)
  length_le := Nat.le_trans List.filter_sublist.length_le h.length_le
  group_le g := Nat.le_trans (groupCount_filter_le p) (h.group_le g)

theorem Bounded.map (h : Bounded cap entries) (f : RelayEntry → RelayEntry) (hid : ∀ e, (f e).id = e.id)
    (hconn : ∀ e, (f e).conn = e.conn) : Bounded cap (entries.map f) where
  ids_nodup := by
    rw [List.map_map]
    have : ((·.id) ∘ f) = (·.id : RelayEntry → NodeId) := funext hid
    rw [this]
    exact h.ids_nodup
  length_le := by rw [List.length_map]; exact h.length_le
  group_le g := by
    have : ((entries.map f).filter fun e => sourceGroup e.conn.ip = g).length = groupCount entries g := by
      simp only [groupCount, List.filter_map, List.length_map, Function.comp_def, hconn]
    rw [groupCount, this]
    exact h.group_le g

theorem nodup_ids_append_new (h : (entries.map (·.id)).Nodup) {id : NodeId} (hid : ∀ e ∈ entries, e.id ≠ id)
    (conn : Conn) (now : Nat) : ((entries ++ [RelayEntry.new id conn now]).map (·.id)).Nodup := by
  rw [List.map_append, List.nodup_append]
  refine ⟨h, List.nodup_singleton _, ?_⟩
  intro a ha b hb
  simp only [List.map_cons, List.map_nil, List.mem_singleton] at hb
  obtain ⟨e, he, rfl⟩ := List.mem_map.1 ha
  rw [hb]
  exact hid e he

end Lists

section Admission

variable {slots : List Slot} {ip : IpAddr} {cap now : Nat} {v : NodeId}

theorem minByLastSeen_mem {l : List Slot} {s : Slot} (h : minByLastSeen l = some s) : s ∈ l := by
  cases l with
  | nil => cases h
  | cons x rest =>
      simp only [minByLastSeen, Option.some.injEq] at h
      exact h ▸ Adopt.foldl_adopt_mem x rest

theorem admitApplicant_eq_insert (h : admitApplicant slots ip cap now = .insert) :
    (slots.filter fun s => sourceGroup s.ip = sourceGroup ip).length < MAX_REGISTRATIONS_PER_SOURCE ∧
      slots.length < cap := by
  simp only [admitApplicant] at h
  by_cases hq : MAX_REGISTRATIONS_PER_SOURCE ≤ (slots.filter fun s => sourceGroup s.ip = sourceGroup ip).length
  · rw [if_pos hq] at h
    cases h
  · rw [if_neg hq] at h
    by_cases hc : slots.length < cap
    · exact ⟨Nat.lt_of_not_le hq, hc⟩
    · rw [if_neg hc] at h
      split at h <;> cases h

theorem admitApplicant_eq_evict (h : admitApplicant slots ip cap now = .evict v) :
    (slots.filter fun s => sourceGroup s.ip = sourceGroup ip).length < MAX_REGISTRATIONS_PER_SOURCE ∧
      ∃ s ∈ slots, s.id = v ∧ s.evictable now = true := by
  simp only [admitApplicant] at h
  by_cases hq : MAX_REGISTRATIONS_PER_SOURCE ≤ (slots.filter fun s => sourceGroup s.ip = sourceGroup ip).length
  · rw [if_pos hq] at h
    cases h
  · rw [if_neg hq] at h
    by_cases hc : slots.length < cap
    · rw [if_pos hc] at h
      cases h
    · rw [if_neg hc] at h
      split at h
      · rename_i s hmin
        cases h
        obtain ⟨hs, hev⟩ := List.mem_filter.1 (minByLastSeen_mem hmin)
        exact ⟨Nat.lt_of_not_le hq, s, hs, rfl, hev⟩
      · cases h

end Admission

section Register

variable {cap : Nat} {entries : List RelayEntry} {closed : List Nat} {conn : Conn} {id : NodeId}
  {verified : Except CloseReason Unit} {now : Nat}

theorem registerIn_of_error {reason : CloseReason} (hv : verified = .error reason) :
    registerIn cap entries closed conn id verified now = (.error reason, entries, closed) := by
  subst hv
  rfl

theorem registerIn_entries (hv : verified = .ok ()) :
    (registerIn cap entries closed conn id verified now).2.1 =
      match admitApplicant ((entries.filter (·.id != id)).map RelayEntry.slot) conn.ip cap now with
      | .insert => entries.filter (·.id != id) ++ [RelayEntry.new id conn now]
      | .evict victim => (entries.filter (·.id != id)).filter (·.id != victim) ++ [RelayEntry.new id conn now]
      | .reject => entries.filter (·.id != id) := by
  subst hv
  cases hadm : admitApplicant ((entries.filter (·.id != id)).map RelayEntry.slot) conn.ip cap now <;>
    simp only [registerIn, hadm]

theorem registerIn_result (hv : verified = .ok ()) :
    (registerIn cap entries closed conn id verified now).1 =
      if admitApplicant ((entries.filter (·.id != id)).map RelayEntry.slot) conn.ip cap now = .reject then
        .error .registryFull
      else .ok () := by
  subst hv
  cases hadm : admitApplicant ((entries.filter (·.id != id)).map RelayEntry.slot) conn.ip cap now <;>
    simp only [registerIn, hadm, reduceCtorEq, if_true, if_false]

theorem registerIn_closed_of_reject (hv : verified = .ok ())
    (hrej : admitApplicant ((entries.filter (·.id != id)).map RelayEntry.slot) conn.ip cap now = .reject) :
    (registerIn cap entries closed conn id verified now).2.2 = supersede entries closed conn id := by
  subst hv
  simp only [registerIn, hrej]

theorem Bounded.registerIn (h : Bounded cap entries) :
    Bounded cap (registerIn cap entries closed conn id verified now).2.1 := by
  cases verified with
  | error reason => rw [registerIn_of_error rfl]; exact h
  | ok u =>
      cases u
      have hrest := h.filter (·.id != id)
      have hfresh : ∀ e ∈ entries.filter (·.id != id), e.id ≠ id := by
        intro e he
        simpa using (List.mem_filter.1 he).2
      rw [registerIn_entries rfl]
      split
      · rename_i hadm
        obtain ⟨hq, hcap⟩ := admitApplicant_eq_insert hadm
        rw [List.length_map, groupCount_slots] at *
        refine ⟨nodup_ids_append_new hrest.ids_nodup hfresh conn now, by simp; omega, fun g => ?_⟩
        rw [groupCount_append_single]
        by_cases hg : sourceGroup conn.ip = g
        · subst hg
          simp only [RelayEntry.new, if_true]
          omega
        · simp only [RelayEntry.new, hg, if_false, Nat.add_zero]
          exact hrest.group_le g
      · rename_i victim hadm
        obtain ⟨hq, s, hs, rfl, -⟩ := admitApplicant_eq_evict hadm
        rw [groupCount_slots] at hq
        obtain ⟨e, he, rfl⟩ := List.mem_map.1 hs
        have hless := h.filter (·.id != id) |>.filter (·.id != e.slot.id)
        have hlen : ((entries.filter (·.id != id)).filter (·.id != e.slot.id)).length <
            (entries.filter (·.id != id)).length :=
          List.length_filter_lt_length_iff_exists.2 ⟨e, he, by simp [RelayEntry.slot]⟩
        refine ⟨nodup_ids_append_new hless.ids_nodup (fun x hx => hfresh x (List.mem_of_mem_filter hx)) conn now,
          by simp only [List.length_append, List.length_singleton]; have := hrest.length_le; omega, fun g => ?_⟩
        rw [groupCount_append_single]
        have hle : groupCount ((entries.filter (·.id != id)).filter (·.id != e.slot.id)) g ≤
            groupCount (entries.filter (·.id != id)) g := groupCount_filter_le _
        by_cases hg : sourceGroup conn.ip = g
        · subst hg
          simp only [RelayEntry.new, if_true]
          omega
        · simp only [RelayEntry.new, hg, if_false, Nat.add_zero]
          exact hless.group_le g
      · exact hrest

theorem mem_registerIn_of_live (h : Bounded cap entries) {e : RelayEntry} (he : e ∈ entries)
    (hest : e.established = true) (hlive : now - e.lastHeartbeatAt < HEARTBEAT_TIMEOUT) (hid : e.id ≠ id) :
    e ∈ (registerIn cap entries closed conn id verified now).2.1 := by
  have hrest : e ∈ entries.filter (·.id != id) := List.mem_filter.2 ⟨he, by simpa using hid⟩
  cases verified with
  | error reason => rw [registerIn_of_error rfl]; exact he
  | ok u =>
      cases u
      rw [registerIn_entries rfl]
      split
      · exact List.mem_append_left _ hrest
      · rename_i victim hadm
        obtain ⟨-, s, hs, rfl, hev⟩ := admitApplicant_eq_evict hadm
        obtain ⟨e', he', rfl⟩ := List.mem_map.1 hs
        -- the victim is evictable, `e` is not, and ids name one entry each
        have hne : e'.id ≠ e.id := by
          intro heq
          have hsame : e' = e := List.inj_on_of_nodup_map (h.filter (·.id != id)).ids_nodup he' hrest heq
          subst hsame
          simp [RelayEntry.slot, Slot.evictable, hest, Nat.not_le.2 hlive] at hev
        exact List.mem_append_left _ (List.mem_filter.2 ⟨hrest, by simpa [RelayEntry.slot] using Ne.symm hne⟩)
      · exact hrest

theorem mem_registerIn {e : RelayEntry} (he : e ∈ (registerIn cap entries closed conn id verified now).2.1) :
    e ∈ entries ∨ e = RelayEntry.new id conn now := by
  cases verified with
  | error reason => rw [registerIn_of_error rfl] at he; exact .inl he
  | ok u =>
      cases u
      rw [registerIn_entries rfl] at he
      split at he
      · rcases List.mem_append.1 he with he | he
        · exact .inl (List.mem_of_mem_filter he)
        · exact .inr (List.mem_singleton.1 he)
      · rcases List.mem_append.1 he with he | he
        · exact .inl (List.mem_of_mem_filter (List.mem_of_mem_filter he))
        · exact .inr (List.mem_singleton.1 he)
      · exact .inl (List.mem_of_mem_filter he)

theorem registerIn_eq_of_error {reason : CloseReason}
    (h : (registerIn cap entries closed conn id verified now).1 = .error reason) :
    registerIn cap entries closed conn id verified now = (.error reason, entries, closed) ∨
      reason = .registryFull ∧ registerIn cap entries closed conn id verified now =
        (.error .registryFull, entries.filter (·.id != id), supersede entries closed conn id) := by
  cases verified with
  | error reason' =>
      rw [registerIn_of_error rfl] at h ⊢
      cases h
      exact .inl rfl
  | ok u =>
      cases u
      by_cases hrej : admitApplicant ((entries.filter (·.id != id)).map RelayEntry.slot) conn.ip cap now = .reject
      · rw [registerIn_result rfl, if_pos hrej] at h
        cases h
        refine .inr ⟨rfl, ?_⟩
        have hentries : (registerIn cap entries closed conn id (.ok ()) now).2.1 = entries.filter (·.id != id) := by
          rw [registerIn_entries rfl, hrej]
        ext1
        · rw [registerIn_result rfl, if_pos hrej]
        · ext1
          · exact hentries
          · exact registerIn_closed_of_reject rfl hrej
      · rw [registerIn_result rfl, if_neg hrej] at h
        cases h

end Register

section Watchers

variable {entries : List RelayEntry} {cap : Nat} {id : NodeId} {conn : Nat}

theorem verifyHeartbeat_entries (entries : List RelayEntry) (conn : Conn) (id : NodeId)
    (verified : Except CloseReason Unit) (now : Nat) :
    (verifyHeartbeat entries conn id verified now).2 = entries ∨
      (verifyHeartbeat entries conn id verified now).2 = entries.map fun e' =>
        if e'.id = id then { e' with lastHeartbeatAt := now, established := true } else e' := by
  unfold verifyHeartbeat
  split
  · exact .inl rfl
  · split
    · split
      · exact .inr rfl
      · exact .inl rfl
    · exact .inl rfl

theorem Bounded.verifyHeartbeat (h : Bounded cap entries) (conn : Conn) (id : NodeId)
    (verified : Except CloseReason Unit) (now : Nat) : Bounded cap (verifyHeartbeat entries conn id verified now).2 := by
  rcases verifyHeartbeat_entries entries conn id verified now with he | he <;> rw [he]
  · exact h
  · exact h.map _ (fun e => by split <;> rfl) (fun e => by split <;> rfl)

theorem exists_verifyHeartbeat_of_mem {e : RelayEntry} (he : e ∈ entries) (conn : Conn) (id : NodeId)
    (verified : Except CloseReason Unit) (now : Nat) :
    ∃ e' ∈ (verifyHeartbeat entries conn id verified now).2, e'.id = e.id ∧ e'.conn = e.conn := by
  rcases verifyHeartbeat_entries entries conn id verified now with h | h <;> rw [h]
  · exact ⟨e, he, rfl, rfl⟩
  · refine ⟨_, List.mem_map_of_mem he, ?_⟩
    split <;> exact ⟨rfl, rfl⟩

theorem removeIfSame_cases (entries : List RelayEntry) (id : NodeId) (conn : Nat) :
    removeIfSame entries id conn = (false, entries) ∨
      removeIfSame entries id conn = (true, entries.filter (·.id != id)) := by
  unfold removeIfSame
  split
  · split
    · exact .inr rfl
    · exact .inl rfl
  · exact .inl rfl

theorem Bounded.removeIfSame (h : Bounded cap entries) (id : NodeId) (conn : Nat) :
    Bounded cap (removeIfSame entries id conn).2 := by
  rcases removeIfSame_cases entries id conn with he | he <;> rw [he]
  · exact h
  · exact h.filter _

theorem mem_removeIfSame (h : (entries.map (·.id)).Nodup) {e : RelayEntry} (he : e ∈ entries)
    (hne : ¬(id = e.id ∧ conn = e.conn.id)) : e ∈ (removeIfSame entries id conn).2 := by
  unfold removeIfSame
  split
  · rename_i e' hfind
    split
    · rename_i hconn
      have hid' : e'.id = id := by
        have hp := List.find?_some hfind
        exact beq_iff_eq.1 hp
      refine List.mem_filter.2 ⟨he, ?_⟩
      simp only [bne_iff_ne, ne_eq]
      intro heq
      have hsame : e' = e := List.inj_on_of_nodup_map h (List.mem_of_find?_eq_some hfind) he (hid'.trans heq.symm)
      subst hsame
      exact hne ⟨hid'.symm, hconn.symm⟩
    · exact he
  · exact he

theorem find?_id_of_mem (h : (entries.map (·.id)).Nodup) {e : RelayEntry} (he : e ∈ entries) :
    entries.find? (·.id == e.id) = some e := by
  cases hfind : entries.find? (·.id == e.id) with
  | none =>
      have hne := List.find?_eq_none.1 hfind e he
      simp at hne
  | some e' =>
      have hp := List.find?_some hfind
      rw [List.inj_on_of_nodup_map h (List.mem_of_find?_eq_some hfind) he (beq_iff_eq.1 hp)]

theorem supersede_of_live (h : (entries.map (·.id)).Nodup) {e : RelayEntry} (he : e ∈ entries)
    {closed : List Nat} {conn : Conn} (hconn : e.conn.id ≠ conn.id) (hopen : e.conn.id ∉ closed) :
    supersede entries closed conn e.id = closed ++ [e.conn.id] := by
  rw [supersede, find?_id_of_mem h he]
  exact if_pos ⟨hconn, hopen⟩

end Watchers

namespace Resolver

variable {r : Resolver} {conn : Conn} {id : NodeId} {verified : Except CloseReason Unit}

theorem registerRelay_of_registerIn {result : Except CloseReason Unit} {relays : List RelayEntry}
    {closed : List Nat} (h : registerIn MAX_RELAYS r.relays r.closed conn id verified r.now = (result, relays, closed)) :
    r.registerRelay conn id verified =
      (result, { r with relays, closed, relaysGeneration := if result.isOk then r.relaysGeneration + 1 else r.relaysGeneration }) := by
  rw [registerRelay, h]
  cases result with
  | ok u => rfl
  | error reason => rfl

theorem registerGateway_of_registerIn {result : Except CloseReason Unit} {gateways : List RelayEntry}
    {closed : List Nat} (h : registerIn MAX_GATEWAYS r.gateways r.closed conn id verified r.now = (result, gateways, closed)) :
    r.registerGateway conn id verified = (result, { r with gateways, closed }) := by
  rw [registerGateway, h]

theorem removeRelayIfSame_cases (id : NodeId) (conn : Nat) :
    r.removeRelayIfSame id conn = r ∨
      r.removeRelayIfSame id conn =
        { r with relays := r.relays.filter (·.id != id), relaysGeneration := r.relaysGeneration + 1 } := by
  rw [removeRelayIfSame]
  rcases removeIfSame_cases r.relays id conn with h | h <;> rw [h]
  · exact .inl rfl
  · exact .inr rfl

theorem removeRelayIfSame_relays (id : NodeId) (conn : Nat) :
    (r.removeRelayIfSame id conn).relays = (removeIfSame r.relays id conn).2 := by
  rw [removeRelayIfSame]
  rcases removeIfSame_cases r.relays id conn with h | h <;> rw [h] <;> rfl

theorem removeRelayIfSame_gateways (id : NodeId) (conn : Nat) : (r.removeRelayIfSame id conn).gateways = r.gateways := by
  rcases removeRelayIfSame_cases (r := r) id conn with h | h <;> rw [h]

/-- What every reachable resolver keeps: both registries bounded, and no gateway entry
established (gateways never heartbeat). -/
structure Wf (r : Resolver) : Prop where
  relays : Bounded MAX_RELAYS r.relays
  gateways : Bounded MAX_GATEWAYS r.gateways
  gateways_unestablished : ∀ e ∈ r.gateways, e.established = false

theorem bounded_nil (cap : Nat) : Bounded cap [] := ⟨List.nodup_nil, Nat.zero_le _, fun _ => Nat.zero_le _⟩

theorem wf_init : init.Wf := ⟨bounded_nil _, bounded_nil _, fun _ h => nomatch h⟩

theorem Wf.step (h : r.Wf) : ∀ ev, (r.step ev).Wf
  | .relayHello conn id verified => by
      rcases hreg : registerIn MAX_RELAYS r.relays r.closed conn id verified r.now with ⟨result, relays, closed⟩
      have hb : Bounded MAX_RELAYS (registerIn MAX_RELAYS r.relays r.closed conn id verified r.now).2.1 :=
        h.relays.registerIn
      rw [hreg] at hb
      rw [Resolver.step, registerRelay_of_registerIn hreg]
      exact ⟨hb, h.gateways, h.gateways_unestablished⟩
  | .gatewayHello conn id verified => by
      rcases hreg : registerIn MAX_GATEWAYS r.gateways r.closed conn id verified r.now with ⟨result, gateways, closed⟩
      have hb : Bounded MAX_GATEWAYS (registerIn MAX_GATEWAYS r.gateways r.closed conn id verified r.now).2.1 :=
        h.gateways.registerIn
      have hmem : ∀ e ∈ (registerIn MAX_GATEWAYS r.gateways r.closed conn id verified r.now).2.1,
          e ∈ r.gateways ∨ e = RelayEntry.new id conn r.now := fun e he => mem_registerIn he
      rw [hreg] at hb hmem
      rw [Resolver.step, registerGateway_of_registerIn hreg]
      refine ⟨h.relays, hb, fun e he => ?_⟩
      rcases hmem e he with he | rfl
      · exact h.gateways_unestablished e he
      · rfl
  | .relayHeartbeat conn id verified => ⟨h.relays.verifyHeartbeat conn id verified r.now, h.gateways,
      h.gateways_unestablished⟩
  | .connClosed _ => ⟨h.relays, h.gateways, h.gateways_unestablished⟩
  | .relayWatcher id conn => by
      rw [Resolver.step]
      split
      · constructor
        · rw [removeRelayIfSame_relays]
          exact h.relays.removeIfSame id conn
        · rw [removeRelayIfSame_gateways]
          exact h.gateways
        · rw [removeRelayIfSame_gateways]
          exact h.gateways_unestablished
      · exact h
  | .gatewayWatcher id conn => by
      rw [Resolver.step]
      split
      · have hb := h.gateways.removeIfSame id conn
        refine ⟨h.relays, hb, fun e he => h.gateways_unestablished e ?_⟩
        rcases removeIfSame_cases r.gateways id conn with hr | hr <;>
          simp only [removeGatewayIfSame, hr] at he
        · exact he
        · exact List.mem_of_mem_filter he
      · exact h
  | .tick _ => ⟨h.relays, h.gateways, h.gateways_unestablished⟩

theorem Reachable.wf (h : r.Reachable) : r.Wf := Reach.Reachable.invariant wf_init (fun _ ev hs => hs.step ev) h

theorem exists_step_of_live (h : r.Wf) {e : RelayEntry} (he : e ∈ r.relays) (hest : e.established = true)
    (hlive : r.now - e.lastHeartbeatAt < HEARTBEAT_TIMEOUT) (ev : Event)
    (hhello : ∀ conn verified, ev ≠ .relayHello conn e.id verified) (hwatch : ev ≠ .relayWatcher e.id e.conn.id) :
    ∃ e' ∈ (r.step ev).relays, e'.id = e.id ∧ e'.conn = e.conn := by
  cases ev with
  | relayHello conn id verified =>
      have hid : e.id ≠ id := by
        rintro rfl
        exact hhello conn verified rfl
      rcases hreg : registerIn MAX_RELAYS r.relays r.closed conn id verified r.now with ⟨result, relays, closed⟩
      have hmem : e ∈ (registerIn MAX_RELAYS r.relays r.closed conn id verified r.now).2.1 :=
        mem_registerIn_of_live h.relays he hest hlive hid
      rw [hreg] at hmem
      rw [step, registerRelay_of_registerIn hreg]
      exact ⟨e, hmem, rfl, rfl⟩
  | gatewayHello conn id verified =>
      rcases hreg : registerIn MAX_GATEWAYS r.gateways r.closed conn id verified r.now with ⟨result, gateways, closed⟩
      rw [step, registerGateway_of_registerIn hreg]
      exact ⟨e, he, rfl, rfl⟩
  | relayHeartbeat conn id verified => exact exists_verifyHeartbeat_of_mem he conn id verified r.now
  | connClosed _ => exact ⟨e, he, rfl, rfl⟩
  | relayWatcher id conn =>
      rw [step]
      split
      · refine ⟨e, ?_, rfl, rfl⟩
        rw [removeRelayIfSame_relays]
        refine mem_removeIfSame h.relays.ids_nodup he ?_
        rintro ⟨rfl, rfl⟩
        exact hwatch rfl
      · exact ⟨e, he, rfl, rfl⟩
  | gatewayWatcher id conn =>
      rw [step]
      split
      · exact ⟨e, he, rfl, rfl⟩
      · exact ⟨e, he, rfl, rfl⟩
  | tick _ => exact ⟨e, he, rfl, rfl⟩

theorem registerRelay_of_error {reason : CloseReason} (h : (r.registerRelay conn id verified).1 = .error reason) :
    (r.registerRelay conn id verified).2 = r ∨
      reason = .registryFull ∧ (r.registerRelay conn id verified).2 =
        { r with relays := r.relays.filter (·.id != id), closed := supersede r.relays r.closed conn id } := by
  rcases hreg : registerIn MAX_RELAYS r.relays r.closed conn id verified r.now with ⟨result, relays, closed⟩
  rw [registerRelay_of_registerIn hreg] at h ⊢
  simp only at h
  subst h
  rcases registerIn_eq_of_error (by rw [hreg] :
      (registerIn MAX_RELAYS r.relays r.closed conn id verified r.now).1 = .error reason) with h' | ⟨rfl, h'⟩
  · rw [hreg, Prod.mk.injEq, Prod.mk.injEq] at h'
    obtain ⟨-, rfl, rfl⟩ := h'
    exact .inl rfl
  · rw [hreg, Prod.mk.injEq, Prod.mk.injEq] at h'
    obtain ⟨-, rfl, rfl⟩ := h'
    exact .inr ⟨rfl, rfl⟩

theorem registerGateway_of_error {reason : CloseReason} (h : (r.registerGateway conn id verified).1 = .error reason) :
    (r.registerGateway conn id verified).2 = r ∨
      reason = .registryFull ∧ (r.registerGateway conn id verified).2 =
        { r with gateways := r.gateways.filter (·.id != id), closed := supersede r.gateways r.closed conn id } := by
  rcases hreg : registerIn MAX_GATEWAYS r.gateways r.closed conn id verified r.now with ⟨result, gateways, closed⟩
  rw [registerGateway_of_registerIn hreg] at h ⊢
  simp only at h
  subst h
  rcases registerIn_eq_of_error (by rw [hreg] :
      (registerIn MAX_GATEWAYS r.gateways r.closed conn id verified r.now).1 = .error reason) with h' | ⟨rfl, h'⟩
  · rw [hreg, Prod.mk.injEq, Prod.mk.injEq] at h'
    obtain ⟨-, rfl, rfl⟩ := h'
    exact .inl rfl
  · rw [hreg, Prod.mk.injEq, Prod.mk.injEq] at h'
    obtain ⟨-, rfl, rfl⟩ := h'
    exact .inr ⟨rfl, rfl⟩

theorem registerRelay_of_admit_reject
    (hrej : admitApplicant ((r.relays.filter (·.id != id)).map RelayEntry.slot) conn.ip MAX_RELAYS r.now = .reject) :
    r.registerRelay conn id (.ok ()) = (.error .registryFull,
      { r with relays := r.relays.filter (·.id != id), closed := supersede r.relays r.closed conn id }) := by
  have hres : (registerIn MAX_RELAYS r.relays r.closed conn id (.ok ()) r.now).1 = .error .registryFull := by
    rw [registerIn_result rfl, if_pos hrej]
  have hentries : (registerIn MAX_RELAYS r.relays r.closed conn id (.ok ()) r.now).2.1 =
      r.relays.filter (·.id != id) := by
    rw [registerIn_entries rfl, hrej]
  rw [registerRelay_of_registerIn (Prod.ext hres (Prod.ext hentries (registerIn_closed_of_reject rfl hrej)))]
  rfl

theorem registerRelay_of_reject (h : r.Wf) {e : RelayEntry} (he : e ∈ r.relays) (hconn : e.conn.id ≠ conn.id)
    (hopen : e.conn.id ∉ r.closed)
    (hrej : admitApplicant ((r.relays.filter (·.id != e.id)).map RelayEntry.slot) conn.ip MAX_RELAYS r.now = .reject) :
    (r.registerRelay conn e.id (.ok ())).1 = .error .registryFull ∧
      e.id ∉ (r.registerRelay conn e.id (.ok ())).2.relays.map (·.id) ∧
      e.conn.id ∈ (r.registerRelay conn e.id (.ok ())).2.closed := by
  rw [registerRelay_of_admit_reject hrej]
  refine ⟨rfl, by simp, ?_⟩
  show e.conn.id ∈ supersede r.relays r.closed conn e.id
  rw [supersede_of_live h.relays.ids_nodup he hconn hopen]
  exact List.mem_append_right _ (List.mem_singleton_self _)

/-- The registries over every run of hellos, heartbeats, closes, watchers and ticks. -/
theorem registry_refusal_drops_live :
    -- every reachable resolver keeps both registries within their bounds, and no gateway established
    (∀ r : Resolver, r.Reachable →
      Bounded MAX_RELAYS r.relays ∧ Bounded MAX_GATEWAYS r.gateways ∧ ∀ e ∈ r.gateways, e.established = false) ∧
    -- a failed registration changed nothing, or was refused after taking out the id's entry
    (∀ (r : Resolver) conn id verified reason, (r.registerRelay conn id verified).1 = .error reason →
      (r.registerRelay conn id verified).2 = r ∨ reason = .registryFull ∧ (r.registerRelay conn id verified).2 =
        { r with relays := r.relays.filter (·.id != id), closed := supersede r.relays r.closed conn id }) ∧
    (∀ (r : Resolver) conn id verified reason, (r.registerGateway conn id verified).1 = .error reason →
      (r.registerGateway conn id verified).2 = r ∨ reason = .registryFull ∧ (r.registerGateway conn id verified).2 =
        { r with gateways := r.gateways.filter (·.id != id), closed := supersede r.gateways r.closed conn id }) ∧
    -- a live established relay leaves only on a hello for its id or its own connection's watcher
    (∀ r : Resolver, r.Reachable → ∀ e ∈ r.relays, e.established = true →
      r.now - e.lastHeartbeatAt < HEARTBEAT_TIMEOUT → ∀ ev : Event,
      (∀ conn verified, ev ≠ .relayHello conn e.id verified) → ev ≠ .relayWatcher e.id e.conn.id →
        ∃ e' ∈ (r.step ev).relays, e'.id = e.id ∧ e'.conn = e.conn) ∧
    -- and a refused hello for its id takes it out and closes its connection all the same
    (∀ r : Resolver, r.Reachable → ∀ e ∈ r.relays, ∀ conn : Conn, e.conn.id ≠ conn.id → e.conn.id ∉ r.closed →
      admitApplicant ((r.relays.filter (·.id != e.id)).map RelayEntry.slot) conn.ip MAX_RELAYS r.now = .reject →
      (r.registerRelay conn e.id (.ok ())).1 = .error .registryFull ∧
        e.id ∉ (r.registerRelay conn e.id (.ok ())).2.relays.map (·.id) ∧
        e.conn.id ∈ (r.registerRelay conn e.id (.ok ())).2.closed) := by
  refine ⟨fun r hr => ?_, fun r conn id verified reason h => registerRelay_of_error h,
    fun r conn id verified reason h => registerGateway_of_error h,
    fun r hr e he hest hlive ev hh hw => exists_step_of_live hr.wf he hest hlive ev hh hw,
    fun r hr e he conn hconn hopen hrej => registerRelay_of_reject hr.wf he hconn hopen hrej⟩
  have hw := hr.wf
  exact ⟨hw.relays, hw.gateways, hw.gateways_unestablished⟩

def relayId (k : UInt8) : NodeId := ⟨List.replicate 31 0 ++ [k], by simp⟩

def saturatedRun : List Event :=
  [.relayHello ⟨1, .v4 10 0 0 1⟩ (relayId 1) (.ok ()), .relayHeartbeat ⟨1, .v4 10 0 0 1⟩ (relayId 1) (.ok ())] ++
    (List.range 8).map fun k => .relayHello ⟨k + 2, .v4 10 0 0 9⟩ (relayId (k + 2).toUInt8) (.ok ())

/-- After `saturatedRun` relay 1 is established and fresh on its open connection 1; relay 1's
own hello, replayed from 10.0.0.9 on connection 10, is refused, and yet relay 1 is no longer
registered and connection 1 is closed. -/
theorem registry_refusal_drops_live_run :
    let r := saturatedRun.foldl step init
    let e : RelayEntry := ⟨relayId 1, ⟨1, .v4 10 0 0 1⟩, true, 0⟩
    e ∈ r.relays ∧ r.now - e.lastHeartbeatAt < HEARTBEAT_TIMEOUT ∧ e.conn.id ∉ r.closed ∧
      (r.registerRelay ⟨10, .v4 10 0 0 9⟩ e.id (.ok ())).1 = .error .registryFull ∧
      e.id ∉ (r.registerRelay ⟨10, .v4 10 0 0 9⟩ e.id (.ok ())).2.relays.map (·.id) ∧
      e.conn.id ∈ (r.registerRelay ⟨10, .v4 10 0 0 9⟩ e.id (.ok ())).2.closed := by
  intro r e
  have he : e ∈ r.relays := by decide
  have hopen : e.conn.id ∉ r.closed := by decide
  exact ⟨he, by decide, hopen,
    registry_refusal_drops_live.2.2.2.2 r (Reach.reachable_foldl _) e he _ (by decide) hopen (by decide)⟩

end Resolver

end Promtuz
