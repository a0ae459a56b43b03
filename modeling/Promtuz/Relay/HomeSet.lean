import Promtuz.Relay.Dht
import Promtuz.Relay.RoutingInvariant

namespace Promtuz

open Routing

/-- XOR distance read as a 256-bit big-endian integer. -/
def distance (a target : NodeId) : Nat := Bytes.beValue (xor32 a target).1

theorem distance_left_inj {a b target : NodeId} (h : distance a target = distance b target) :
    a = b :=
  xor32_left_inj (Subtype.ext (Bytes.beValue_injective (by simp [(xor32 a target).2,
    (xor32 b target).2]) h))

theorem le_iff_distance_le (a b target : NodeId) :
    (xor32 a target).1 ≤ (xor32 b target).1 ↔ distance a target ≤ distance b target :=
  Bytes.le_iff_beValue_le ((xor32 a target).2.trans (xor32 b target).2.symm)

theorem lt_iff_distance_lt (a b target : NodeId) :
    (xor32 a target).1 < (xor32 b target).1 ↔ distance a target < distance b target :=
  Bytes.lt_iff_beValue_lt ((xor32 a target).2.trans (xor32 b target).2.symm)

namespace Routing

/-- The rows `closest` sorts: each active entry keyed by its distance to `target`. -/
def RoutingTable.keyed (t : RoutingTable) (target : NodeId) : List (Bytes 32 × RoutingEntry) :=
  t.activeEntries.map fun e => (xor32 e.id target, e)

def RoutingTable.sorted (t : RoutingTable) (target : NodeId) : List (Bytes 32 × RoutingEntry) :=
  (t.keyed target).mergeSort fun a b => decide (a.1.1 ≤ b.1.1)

def RoutingTable.closerThan (t : RoutingTable) (x target : NodeId) : Nat :=
  t.activeEntries.countP fun e => distance e.id target < distance x target

variable {t : RoutingTable} {target : NodeId}

theorem RoutingTable.closest_eq_take (t : RoutingTable) (target : NodeId) (count : Nat) :
    t.closest target count = ((t.sorted target).take count).map Prod.snd := by
  unfold RoutingTable.closest RoutingTable.sorted RoutingTable.keyed
  split <;> simp_all

theorem RoutingTable.length_sorted (t : RoutingTable) (target : NodeId) :
    (t.sorted target).length = t.totalKnown := by
  simp [RoutingTable.sorted, RoutingTable.keyed, RoutingTable.length_activeEntries]

theorem RoutingTable.length_findClosest (t : RoutingTable) (target : NodeId) (count : Nat) :
    (t.findClosest target count).length = min count t.totalKnown := by
  simp [RoutingTable.findClosest, RoutingTable.closest_eq_take, RoutingTable.length_sorted]

theorem RoutingTable.fst_of_mem_sorted {p : Bytes 32 × RoutingEntry} (hp : p ∈ t.sorted target) :
    p.1 = xor32 p.2.id target := by
  rw [RoutingTable.sorted, List.mem_mergeSort, RoutingTable.keyed, List.mem_map] at hp
  obtain ⟨e, -, rfl⟩ := hp
  rfl

theorem RoutingTable.sorted_eq_by_distance (t : RoutingTable) (target : NodeId) :
    t.sorted target =
      (t.keyed target).mergeSort fun a b => decide (Bytes.beValue a.1.1 ≤ Bytes.beValue b.1.1) := by
  unfold RoutingTable.sorted
  congr
  funext a b
  exact decide_eq_decide.mpr (Bytes.le_iff_beValue_le (a.1.2.trans b.1.2.symm))

theorem RoutingTable.keyed_distances (t : RoutingTable) (target : NodeId) :
    (t.keyed target).map (fun p => Bytes.beValue p.1.1) =
      (t.activeEntries.map RoutingEntry.id).map (distance · target) := by
  simp [RoutingTable.keyed, distance, Function.comp_def]

theorem RoutingTable.WellFormed.sorted_strict (h : t.WellFormed) :
    ((t.sorted target).map fun p => Bytes.beValue p.1.1).Pairwise (· < ·) := by
  rw [RoutingTable.sorted_eq_by_distance]
  apply Lists.pairwise_lt_mergeSort_key
  rw [RoutingTable.keyed_distances]
  exact h.activeIds_nodup.map fun _ _ => distance_left_inj

theorem RoutingTable.countP_sorted (t : RoutingTable) (x target : NodeId) :
    ((t.sorted target).map fun p => Bytes.beValue p.1.1).countP (· < distance x target) =
      t.closerThan x target := by
  rw [List.countP_map, RoutingTable.sorted, (List.mergeSort_perm _ _).countP_eq,
    RoutingTable.keyed, List.countP_map]
  rfl

theorem RoutingTable.distance_findClosest_getElem {count k : Nat}
    (hk : k < (t.findClosest target count).length)
    (hs : k < ((t.sorted target).map fun p => Bytes.beValue p.1.1).length) :
    distance (t.findClosest target count)[k].id target =
      ((t.sorted target).map fun p => Bytes.beValue p.1.1)[k] := by
  have hk' : k < (t.sorted target).length := by simpa using hs
  have hp := RoutingTable.fst_of_mem_sorted (List.getElem_mem hk')
  simp [RoutingTable.findClosest, RoutingTable.closest_eq_take, distance, hp,
    RoutingEntry.descriptor]

theorem RoutingTable.mem_findClosest {count : Nat} {d : NodeDescriptor}
    (hd : d ∈ t.findClosest target count) : ∃ e ∈ t.activeEntries, d = e.descriptor := by
  simp only [RoutingTable.findClosest, RoutingTable.closest_eq_take, List.map_map,
    List.mem_map] at hd
  obtain ⟨p, hp, rfl⟩ := hd
  have hp' : p ∈ t.keyed target := (List.mem_mergeSort).mp (List.mem_of_mem_take hp)
  obtain ⟨e, he, rfl⟩ := List.mem_map.mp hp'
  exact ⟨e, he, rfl⟩

theorem RoutingTable.closerThan_le_totalKnown (t : RoutingTable) (x target : NodeId) :
    t.closerThan x target ≤ t.totalKnown :=
  (List.countP_le_length).trans_eq t.length_activeEntries

section WellFormed

variable (h : t.WellFormed)
include h

theorem RoutingTable.WellFormed.le_kth_iff (x : NodeId) {count k : Nat}
    (hk : k < (t.findClosest target count).length) :
    distance x target ≤ distance (t.findClosest target count)[k].id target ↔
      t.closerThan x target ≤ k := by
  have hs : k < ((t.sorted target).map fun p => Bytes.beValue p.1.1).length := by
    simp only [RoutingTable.length_findClosest] at hk
    simp only [List.length_map, RoutingTable.length_sorted]
    omega
  rw [RoutingTable.distance_findClosest_getElem hk hs, ← RoutingTable.countP_sorted]
  exact (Lists.countP_lt_le_iff_le_getElem h.sorted_strict hs _).symm

theorem RoutingTable.WellFormed.lt_kth_iff {count k : Nat}
    (hk : k < (t.findClosest target count).length) :
    distance t.selfId target < distance (t.findClosest target count)[k].id target ↔
      t.closerThan t.selfId target ≤ k := by
  obtain ⟨e, he, hd⟩ := RoutingTable.mem_findClosest (List.getElem_mem hk)
  have hne : distance t.selfId target ≠ distance (t.findClosest target count)[k].id target := by
    intro heq
    have hid := distance_left_inj heq
    rw [hd] at hid
    exact h.activeId_ne_selfId he hid.symm
  rw [Nat.lt_iff_le_and_ne, h.le_kth_iff _ hk]
  exact and_iff_left hne

end WellFormed

end Routing

def closer (dht : Dht) (target : NodeId) : Nat := dht.routing.closerThan dht.nodeId target

variable {dht : Dht} {target : NodeId}

theorem kthCheck_of_sparse {sparse : Bool} {cmp : Bytes 32 → Bytes 32 → Bool}
    (hK : dht.routing.totalKnown < K) : kthCheck sparse cmp dht target = sparse := by
  unfold kthCheck
  rw [dif_pos (by rw [RoutingTable.length_findClosest]; omega)]

theorem kthCheck_of_dense {sparse : Bool} {cmp : Bytes 32 → Bytes 32 → Bool}
    (hk : K - 1 < (dht.routing.findClosest target K).length) :
    kthCheck sparse cmp dht target =
      cmp (xor32 dht.nodeId target) (xor32 (dht.routing.findClosest target K)[K - 1].id target) := by
  unfold kthCheck
  rw [dif_neg (by unfold K at hk ⊢; omega)]
  rfl

theorem closer_lt_of_sparse (hK : dht.routing.totalKnown < K) : closer dht target < K :=
  Nat.lt_of_le_of_lt (RoutingTable.closerThan_le_totalKnown _ _ _) hK

theorem kth_lt_findClosest (target : NodeId) {count : Nat} (hc : K ≤ count) (hK : ¬ dht.routing.totalKnown < K) :
    K - 1 < (dht.routing.findClosest target count).length := by
  rw [RoutingTable.length_findClosest]
  unfold K at *
  omega

section WellFormed

variable (hwf : dht.routing.WellFormed)
include hwf

theorem kthCheck_le_eq :
    kthCheck true (fun selfDist kthDist => decide (selfDist.1 ≤ kthDist.1)) dht target =
      decide (closer dht target < K) := by
  by_cases hK : dht.routing.totalKnown < K
  · rw [kthCheck_of_sparse hK, (decide_eq_true_iff).mpr (closer_lt_of_sparse hK)]
  · have hk := kth_lt_findClosest target (Nat.le_refl K) hK
    rw [kthCheck_of_dense hk, decide_eq_decide, le_iff_distance_le, hwf.le_kth_iff _ hk, closer]
    unfold K
    omega

theorem kthCheck_gt_eq :
    kthCheck false (fun selfDist kthDist => decide (kthDist.1 < selfDist.1)) dht target =
      decide (K ≤ closer dht target) := by
  by_cases hK : dht.routing.totalKnown < K
  · rw [kthCheck_of_sparse hK, eq_comm, decide_eq_false_iff_not, Nat.not_le]
    exact closer_lt_of_sparse hK
  · have hk := kth_lt_findClosest target (Nat.le_refl K) hK
    rw [kthCheck_of_dense hk, decide_eq_decide, lt_iff_distance_lt, ← Nat.not_le,
      hwf.le_kth_iff _ hk, closer]
    unfold K
    omega

theorem kthCheck_lt_eq (hself : dht.routing.selfId = dht.nodeId) :
    kthCheck true (fun selfDist kthDist => decide (selfDist.1 < kthDist.1)) dht target =
      decide (closer dht target < K) := by
  by_cases hK : dht.routing.totalKnown < K
  · rw [kthCheck_of_sparse hK, (decide_eq_true_iff).mpr (closer_lt_of_sparse hK)]
  · have hk := kth_lt_findClosest target (Nat.le_refl K) hK
    rw [kthCheck_of_dense hk, decide_eq_decide, lt_iff_distance_lt, ← hself, hwf.lt_kth_iff hk,
      closer, hself]
    unfold K
    omega

theorem selfInTopK_fst :
    (selfInTopK dht target).1 =
      if dht.routing.totalKnown < K then !dht.routingDense else decide (closer dht target < K) := by
  by_cases hK : dht.routing.totalKnown < K
  · unfold selfInTopK
    rw [dif_pos (by rw [RoutingTable.length_findClosest]; omega), if_pos hK]
  · have hk := kth_lt_findClosest target (Nat.le_add_right K 1) hK
    unfold selfInTopK
    rw [dif_neg (by unfold K at hk ⊢; omega), if_neg hK]
    simp only [List.get_eq_getElem]
    rw [decide_eq_decide, le_iff_distance_le, hwf.le_kth_iff _ hk, closer]
    unfold K
    omega

end WellFormed

/-- What each home predicate says in terms of the reference count `closer`. -/
structure HomeChecksAgree (dht : Dht) (target : NodeId) : Prop where
  forwardToHomes : forwardToHomesSelfIsInK dht target = decide (closer dht target < K)
  forward : forwardSelfIsInKClosest dht target = decide (closer dht target < K)
  queueDrain : selfIsInKClosestQd dht target = decide (closer dht target < K)
  drain : drainSelfIsInKClosest dht target = decide (closer dht target < K)
  drift : (!driftedNow dht target) = decide (closer dht target < K)
  topK : (selfInTopK dht target).1 =
    if dht.routingDense = true ∧ dht.routing.totalKnown < K then false
    else decide (closer dht target < K)
  topK_differs : dht.routingDense = true ∧ dht.routing.totalKnown < K → closer dht target < K

theorem home_predicates_agree (crypto : Crypto) (now : Nat) (dht : Dht)
    (hreach : dht.routing.Reachable crypto dht.nodeId now) (target : NodeId) :
    HomeChecksAgree dht target := by
  have hwf := hreach.wellFormed
  have hself := hreach.selfId_eq
  refine ⟨kthCheck_lt_eq hwf hself, kthCheck_le_eq hwf, kthCheck_le_eq hwf,
    kthCheck_lt_eq hwf hself, ?_, ?_, fun h => closer_lt_of_sparse h.2⟩
  · rw [driftedNow, kthCheck_gt_eq hwf, ← decide_not]
    exact decide_eq_decide.mpr Nat.not_le
  · rw [selfInTopK_fst hwf]
    by_cases hK : dht.routing.totalKnown < K
    · have hc : closer dht target < K := closer_lt_of_sparse hK
      cases dht.routingDense <;> simp [hK, hc]
    · simp [hK]

theorem home_predicates_agree_fresh :
    (Dht.new ⟨List.replicate 32 0, by simp⟩ 0 ⟨.empty, .empty, .empty, .empty⟩).routing.Reachable
        ⟨fun _ => ⟨List.replicate 32 0, by simp⟩, fun _ _ _ => true⟩
        (Dht.new ⟨List.replicate 32 0, by simp⟩ 0 ⟨.empty, .empty, .empty, .empty⟩).nodeId 0 ∧
      HomeChecksAgree (Dht.new ⟨List.replicate 32 0, by simp⟩ 0 ⟨.empty, .empty, .empty, .empty⟩)
        ⟨List.replicate 32 255, by simp⟩ :=
  ⟨.init, home_predicates_agree ⟨fun _ => ⟨List.replicate 32 0, by simp⟩, fun _ _ _ => true⟩ 0
    (Dht.new ⟨List.replicate 32 0, by simp⟩ 0 ⟨.empty, .empty, .empty, .empty⟩) .init
    ⟨List.replicate 32 255, by simp⟩⟩

end Promtuz
