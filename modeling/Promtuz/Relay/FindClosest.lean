import Promtuz.Relay.HomeSet

namespace Promtuz.Routing

variable {t : RoutingTable} {target : NodeId} {count : Nat}

/-- The sort key of a row of `closest`'s scratch list, as an integer. -/
def RoutingTable.sortKey (p : Bytes 32 × RoutingEntry) : Nat := Bytes.beValue p.1.1

theorem RoutingTable.sortKey_of_mem_sorted {p : Bytes 32 × RoutingEntry} (hp : p ∈ t.sorted target) :
    RoutingTable.sortKey p = distance p.2.id target := by
  rw [RoutingTable.sortKey, RoutingTable.fst_of_mem_sorted hp]
  rfl

theorem RoutingTable.mem_sorted_of_mem_activeEntries {e : RoutingEntry} (he : e ∈ t.activeEntries) :
    (xor32 e.id target, e) ∈ t.sorted target :=
  List.mem_mergeSort.mpr (List.mem_map_of_mem he)

theorem RoutingTable.length_closest (t : RoutingTable) (target : NodeId) (count : Nat) :
    (t.closest target count).length = min count t.totalKnown := by
  simpa [RoutingTable.findClosest] using t.length_findClosest target count

theorem RoutingTable.mem_closest {e : RoutingEntry} (he : e ∈ t.closest target count) :
    e ∈ t.activeEntries := by
  rw [RoutingTable.closest_eq_take, List.mem_map] at he
  obtain ⟨p, hp, rfl⟩ := he
  obtain ⟨e, he, rfl⟩ := List.mem_map.mp ((List.mem_mergeSort).mp (List.mem_of_mem_take hp))
  exact he

theorem RoutingTable.distances_closest (t : RoutingTable) (target : NodeId) (count : Nat) :
    (t.closest target count).map (distance ·.id target) =
      ((t.sorted target).map RoutingTable.sortKey).take count := by
  rw [RoutingTable.closest_eq_take, List.map_map, ← List.map_take]
  refine List.map_congr_left fun p hp => ?_
  exact (RoutingTable.sortKey_of_mem_sorted (List.mem_of_mem_take hp)).symm

section WellFormed

variable (h : t.WellFormed)
include h

theorem RoutingTable.WellFormed.sortKeys_strict :
    ((t.sorted target).map RoutingTable.sortKey).Pairwise (· < ·) :=
  h.sorted_strict

theorem RoutingTable.WellFormed.closest_distances_strict :
    ((t.closest target count).map (distance ·.id target)).Pairwise (· < ·) := by
  rw [RoutingTable.distances_closest]
  exact h.sortKeys_strict.sublist (List.take_sublist _ _)

theorem RoutingTable.WellFormed.farther_of_not_mem_closest {e : RoutingEntry} (he : e ∈ t.activeEntries)
    (hout : e ∉ t.closest target count) {e' : RoutingEntry} (he' : e' ∈ t.closest target count) :
    distance e'.id target < distance e.id target := by
  set s := t.sorted target
  have hstrict : ((s.take count).map RoutingTable.sortKey ++ (s.drop count).map RoutingTable.sortKey).Pairwise
      (· < ·) := by
    rw [← List.map_append, List.take_append_drop]
    exact h.sortKeys_strict
  -- the left-out entry's row is past the cut, the returned one's before it
  have hdrop : (xor32 e.id target, e) ∈ s.drop count := by
    have hmem : (xor32 e.id target, e) ∈ s := RoutingTable.mem_sorted_of_mem_activeEntries he
    rw [← List.take_append_drop count s, List.mem_append] at hmem
    refine hmem.resolve_left fun htake => hout ?_
    rw [RoutingTable.closest_eq_take]
    exact List.mem_map_of_mem htake
  rw [RoutingTable.closest_eq_take, List.mem_map] at he'
  obtain ⟨p, hp, rfl⟩ := he'
  have hlt := (List.pairwise_append.mp hstrict).2.2 _ (List.mem_map_of_mem hp) _ (List.mem_map_of_mem hdrop)
  rw [RoutingTable.sortKey_of_mem_sorted (List.mem_of_mem_take hp),
    RoutingTable.sortKey_of_mem_sorted (List.mem_of_mem_drop hdrop)] at hlt
  exact hlt

end WellFormed

/-- A K-nearest-neighbour answer over the active entries: the right size, drawn from the
table, without repeats, strictly sorted by XOR distance (as bytes and as 256-bit integers), and
no farther than any entry it leaves out. -/
structure RoutingTable.NearestAnswer (t : RoutingTable) (target : NodeId) (count : Nat)
    (answer : List RoutingEntry) : Prop where
  length_eq : answer.length = min count t.totalKnown
  subset : ∀ e ∈ answer, e ∈ t.activeEntries
  ids_nodup : (answer.map RoutingEntry.id).Nodup
  sorted : (answer.map fun e => (xor32 e.id target).1).Pairwise (· < ·)
  sorted_distance : (answer.map (distance ·.id target)).Pairwise (· < ·)
  farther : ∀ e ∈ t.activeEntries, e ∉ answer →
    ∀ e' ∈ answer, (xor32 e'.id target).1 < (xor32 e.id target).1

theorem closest_is_k_nearest (crypto : Crypto) (selfId : NodeId) (now : Nat) {t : RoutingTable}
    (ht : t.Reachable crypto selfId now) (target : NodeId) (count : Nat) :
    t.NearestAnswer target count (t.closest target count) := by
  have h := ht.wellFormed
  have hstrict : ((t.closest target count).map (distance ·.id target)).Pairwise (· < ·) :=
    h.closest_distances_strict
  have hpair := List.pairwise_map.mp hstrict
  refine ⟨t.length_closest target count, fun _ he => RoutingTable.mem_closest he, ?_, ?_, hstrict, ?_⟩
  · -- distinct distances, so distinct ids
    refine List.pairwise_map.mpr (hpair.imp fun hlt hid => ?_)
    rw [hid] at hlt
    exact lt_irrefl _ hlt
  · exact List.pairwise_map.mpr (hpair.imp fun hlt => (lt_iff_distance_lt _ _ _).mpr hlt)
  · intro e he hout e' he'
    exact (lt_iff_distance_lt _ _ _).mpr (h.farther_of_not_mem_closest he hout he')

def pairTable : RoutingTable :=
  [Op.insert ⟨Bytes.replicate 32 1, ⟨[127, 0, 0, 1], 1⟩, Bytes.replicate 32 1⟩ 0,
    Op.insert ⟨Bytes.replicate 32 2, ⟨[127, 0, 0, 1], 2⟩, Bytes.replicate 32 2⟩ 0].foldl
    (RoutingTable.apply ⟨fun _ => (Bytes.replicate 32 0), fun _ _ _ => true⟩)
    (RoutingTable.empty (Bytes.replicate 32 0) 0)

theorem closest_is_k_nearest_pair :
    pairTable.Reachable ⟨fun _ => ⟨List.replicate 32 0, by simp⟩, fun _ _ _ => true⟩
        ⟨List.replicate 32 0, by simp⟩ 0 ∧
      pairTable.NearestAnswer ⟨List.replicate 32 3, by simp⟩ 1
        (pairTable.closest ⟨List.replicate 32 3, by simp⟩ 1) :=
  ⟨Reach.reachable_foldl _, closest_is_k_nearest _ _ _ (Reach.reachable_foldl _) _ 1⟩

end Promtuz.Routing
