import Promtuz.Relay.FindClosest
import Promtuz.Lib.Bits

/-! The iterative `FindNode` walk of the relay DHT (`dht::lookup`). `lookup_node` seeds a shortlist
from the routing table; `run_iterative_loop` queries the closest unqueried candidates `ALPHA` at a
time, merges their replies, and stops when no unqueried candidate is closer than the `K`-th
closest, when the hop budget is spent, or at the deadline.

The network is a parameter, one `HopEnv` per hop: whether the deadline has passed when the hop
starts, the replies merged during the hop in their arrival order, and whether the deadline passes
while waiting after them. `sent` is ghost state, not in the source: the ids of each hop's
`FindNode`s. -/

namespace Promtuz

namespace Lookup

open Routing

def ALPHA : Nat := 3

def LOOKUP_MAX_HOPS : Nat := 8

def MAX_LOOKUP_CANDIDATES : Nat := 64

/-- `dht_p2p::MAX_FIND_NODE_RESULTS`, which is `DHT_K`. -/
def MAX_FIND_NODE_RESULTS : Nat := 3

/-- `LookupError`, without `PeerConnect`, which the walk never returns. -/
inductive LookupError where
  | noCandidates
  | timeout
  | maxHopsExceeded
  deriving DecidableEq

/-- `Candidate`: a descriptor and its distance to the target, `distance(target, id)`, computed
once when it joins the shortlist. -/
structure Candidate where
  desc : NodeDescriptor
  distance : Bytes 32
  deriving DecidableEq

def Candidate.ofDesc (target : NodeId) (desc : NodeDescriptor) : Candidate := ⟨desc, xor32 target desc.id⟩

/-- The IPv4 half of `is_dialable_peer_addr`, on the four octets. -/
def dialableV4 (a b c d : UInt8) (allowLocal : Bool) : Bool :=
  let unspecified := a == 0 && b == 0 && c == 0 && d == 0
  let multicast := a &&& 0xf0 == 224
  let broadcast := a == 255 && b == 255 && c == 255 && d == 255
  let linkLocal := a == 169 && b == 254
  let documentation := (a == 192 && b == 0 && c == 2) || (a == 198 && b == 51 && c == 100) ||
    (a == 203 && b == 0 && c == 113)
  let loopback := a == 127
  let isPrivate := a == 10 || (a == 172 && b &&& 0xf0 == 16) || (a == 192 && b == 168)
  if unspecified || multicast || broadcast || linkLocal || documentation then false
  else allowLocal || !(loopback || isPrivate)

/-- The IPv6 half of `is_dialable_peer_addr`, on the sixteen octets; `head` is `segments()[0]`. -/
def dialableV6 (ip : List UInt8) (allowLocal : Bool) : Bool :=
  let head : UInt16 := (ip.getD 0 0).toUInt16 * 256 + (ip.getD 1 0).toUInt16
  let unspecified := ip.all (· == 0)
  let multicast := ip.getD 0 0 == 0xff
  let loopback := ip == List.replicate 15 0 ++ [1]
  if unspecified || multicast then false
  -- fe80::/10 link-local
  else if head &&& 0xffc0 == 0xfe80 then false
  -- fc00::/7 unique-local, the IPv6 analogue of the private ranges
  else allowLocal || !(loopback || head &&& 0xfe00 == 0xfc00)

/-- `is_dialable_peer_addr`: `addr.ip` holds four octets for IPv4 and sixteen for IPv6. -/
def isDialablePeerAddr (addr : SocketAddr) (allowLocal : Bool) : Bool :=
  if addr.port == 0 then false
  else
    match addr.ip with
    | [a, b, c, d] => dialableV4 a b c d allowLocal
    | ip => ip.length == 16 && dialableV6 ip allowLocal

/-- `sort_by_key(|a| a.distance)`: a stable sort by the distance's bytes. -/
def sortByDistance (cs : List Candidate) : List Candidate :=
  cs.mergeSort fun a b => decide (a.distance.1 ≤ b.distance.1)

/-- `integrate_descriptors`. `known` is taken once, before the loop over the reply, so a reply is
not checked against its own earlier entries. -/
def integrateDescriptors (target : NodeId) (candidates : List Candidate) (new : List NodeDescriptor)
    (allowLocal : Bool) : List Candidate :=
  let known := candidates.map (·.desc.id)
  candidates ++ ((new.take MAX_FIND_NODE_RESULTS).filter fun desc =>
    !known.contains desc.id && isDialablePeerAddr desc.addr allowLocal).map (Candidate.ofDesc target)

/-- Step 1 of a hop: the first `ALPHA` candidates not yet queried, in shortlist order. `queried` is
not updated while the batch is built. -/
def nextBatch (candidates : List Candidate) (queried : List NodeId) : List NodeDescriptor :=
  ((candidates.filter fun c => !queried.contains c.desc.id).take ALPHA).map (·.desc)

/-- The walk's state: the shortlist, the `queried` set, `closest_so_far` and `hops`. -/
structure Walk where
  candidates : List Candidate
  queried : List NodeId
  closestSoFar : List Candidate
  hops : Nat
  /-- The ids sent a `FindNode`, one list per hop. -/
  sent : List (List NodeId)

structure HopEnv where
  /-- `Instant::now() >= deadline` when the hop starts. -/
  expired : Bool
  /-- The `FindNodeReply`s joined within the hop, in arrival order; failed, aborted and late
  requests add none. -/
  replies : List (List NodeDescriptor)
  /-- Whether the deadline passes while waiting, after those replies. -/
  timedOut : Bool

/-- Step 2 of a hop: each batch id joins `queried` and is sent a `FindNode`, and the replies are
merged as they arrive. -/
def sendBatch (target : NodeId) (allowLocal : Bool) (w : Walk) (batch : List NodeDescriptor)
    (replies : List (List NodeDescriptor)) : Walk :=
  { w with
    candidates := replies.foldl (fun cs reply => integrateDescriptors target cs reply allowLocal) w.candidates
    queried := w.queried ++ batch.map (·.id)
    sent := w.sent ++ [batch.map (·.id)] }

/-- Step 3 of a hop: count it, sort the shortlist, truncate it, and take the `K` closest. -/
def finishHop (w : Walk) : Walk :=
  let candidates := (sortByDistance w.candidates).take MAX_LOOKUP_CANDIDATES
  { w with candidates, closestSoFar := candidates.take K, hops := w.hops + 1 }

/-- Whether some unqueried candidate is closer than the farthest of `closest_so_far`; any
unqueried one counts when that is empty. -/
def anyCloserUnqueried (w : Walk) : Bool :=
  let farthest := w.closestSoFar.getLast?.map (·.distance)
  w.candidates.any fun c => !w.queried.contains c.desc.id && (farthest.map fun f => decide (c.distance < f)).getD true

/-- `run_iterative_loop`. Every call that does not return counts a hop, and the loop returns once
`LOOKUP_MAX_HOPS` are counted, which is why it terminates. -/
def runIterativeLoop (target : NodeId) (allowLocal : Bool) (env : Nat → HopEnv) (w : Walk) :
    Except LookupError Unit × Walk :=
  if (env w.hops).expired then (.error .timeout, w)
  else if LOOKUP_MAX_HOPS ≤ w.hops then (.error .maxHopsExceeded, w)
  else
    let batch := nextBatch w.candidates w.queried
    if batch.isEmpty then (.ok (), w)
    else
      let sent := sendBatch target allowLocal w batch (env w.hops).replies
      if (env w.hops).timedOut then (.error .timeout, sent)
      else
        let next := finishHop sent
        if !anyCloserUnqueried next then (.ok (), next)
        else runIterativeLoop target allowLocal env next
termination_by LOOKUP_MAX_HOPS - w.hops
decreasing_by
  simp only [finishHop, sendBatch]
  omega

/-- The walk `lookup_node` starts: the seeds sorted by distance, and only the local id queried. -/
def seedWalk (target nodeId : NodeId) (initial : List NodeDescriptor) : Walk :=
  ⟨sortByDistance (initial.map (Candidate.ofDesc target)), [nodeId], [], 0, []⟩

/-- `lookup_node`, with the walk it leaves. The seeds are the `K * 2` closest peers the routing
table knows. -/
def lookupWalk (dht : Dht) (allowLocal : Bool) (env : Nat → HopEnv) (target : NodeId) :
    Except LookupError Unit × Walk :=
  let initial := dht.routing.findClosest target (K * 2)
  if initial.isEmpty then (.error .noCandidates, seedWalk target dht.nodeId [])
  else runIterativeLoop target allowLocal env (seedWalk target dht.nodeId initial)

/-- `lookup_node`: on success, the first `K` of `closest_so_far`. -/
def lookupNode (dht : Dht) (allowLocal : Bool) (env : Nat → HopEnv) (target : NodeId) :
    Except LookupError (List NodeDescriptor) :=
  let walk := lookupWalk dht allowLocal env target
  walk.1.map fun _ => (walk.2.closestSoFar.take K).map (·.desc)

/-- A candidate's distance read as a number: the order `sort_by_key` compares. -/
def Candidate.key (c : Candidate) : Nat := Bytes.beValue c.distance.1

theorem Candidate.key_of_distance {target : NodeId} {c : Candidate} (h : c.distance = xor32 target c.desc.id) :
    c.key = Promtuz.distance c.desc.id target := by
  simp only [Candidate.key, h, Promtuz.distance, xor32, Bytes.xorBytes_comm]

theorem Candidate.key_ofDesc (target : NodeId) (desc : NodeDescriptor) :
    (Candidate.ofDesc target desc).key = Promtuz.distance desc.id target :=
  Candidate.key_of_distance rfl

theorem Candidate.distance_lt_iff (a b : Candidate) : a.distance < b.distance ↔ a.key < b.key :=
  Bytes.lt_iff_beValue_lt (a.distance.2.trans b.distance.2.symm)

variable {cs l : List Candidate} {a c : Candidate}

theorem sortByDistance_eq_key (cs : List Candidate) :
    sortByDistance cs = cs.mergeSort fun a b => decide (a.key ≤ b.key) := by
  unfold sortByDistance
  congr
  funext a b
  exact decide_eq_decide.mpr (Bytes.le_iff_beValue_le (a.distance.2.trans b.distance.2.symm))

theorem pairwise_sortByDistance (cs : List Candidate) : (sortByDistance cs).Pairwise (·.key ≤ ·.key) := by
  rw [sortByDistance_eq_key]
  exact Lists.pairwise_mergeSort_key _ cs

theorem sortByDistance_of_pairwise (h : cs.Pairwise (·.key ≤ ·.key)) : sortByDistance cs = cs := by
  rw [sortByDistance_eq_key]
  exact List.mergeSort_of_pairwise (h.imp fun h => by simpa using h)

theorem sortByDistance_cons_of_lt (hl : l.Pairwise (·.key ≤ ·.key)) (h : ∀ b ∈ l, b.key < a.key) :
    sortByDistance (a :: l) = l ++ [a] := by
  rw [sortByDistance_eq_key]
  exact Lists.mergeSort_cons_of_lt_key _ hl h

@[simp] theorem mem_sortByDistance : c ∈ sortByDistance cs ↔ c ∈ cs := List.mem_mergeSort

@[simp] theorem length_sortByDistance : (sortByDistance cs).length = cs.length := List.length_mergeSort _

def hop (target : NodeId) (allowLocal : Bool) (env : Nat → HopEnv) (w : Walk) : Walk :=
  finishHop (sendBatch target allowLocal w (nextBatch w.candidates w.queried) (env w.hops).replies)

section Loop

variable {target : NodeId} {allowLocal : Bool} {env : Nat → HopEnv} {w : Walk}

theorem runIterativeLoop_of_hop (hexp : (env w.hops).expired = false) (hhops : w.hops < LOOKUP_MAX_HOPS)
    (hbatch : nextBatch w.candidates w.queried ≠ []) (hto : (env w.hops).timedOut = false) :
    runIterativeLoop target allowLocal env w =
      if anyCloserUnqueried (hop target allowLocal env w) then runIterativeLoop target allowLocal env (hop target allowLocal env w)
      else (.ok (), hop target allowLocal env w) := by
  rw [runIterativeLoop, if_neg (by simp [hexp]), if_neg (Nat.not_le.2 hhops),
    if_neg (by simpa using hbatch)]
  simp only [hto, Bool.false_eq_true, if_false, Bool.not_eq_true']
  change (if anyCloserUnqueried (hop target allowLocal env w) = false then _ else _) = _
  cases anyCloserUnqueried (hop target allowLocal env w) <;> simp [hop]

end Loop

/-- The `FindNode`s sent so far: at most `ALPHA` per hop, never to the local id, every id sent is
in `queried`, and no id is sent in two hops. -/
structure Walk.SentOk (nodeId : NodeId) (w : Walk) : Prop where
  self_queried : nodeId ∈ w.queried
  sent_queried : ∀ b ∈ w.sent, ∀ id ∈ b, id ∈ w.queried
  not_self : ∀ b ∈ w.sent, nodeId ∉ b
  batch_le : ∀ b ∈ w.sent, b.length ≤ ALPHA
  disjoint : w.sent.Pairwise fun b₁ b₂ => ∀ id ∈ b₁, id ∉ b₂

/-- The walk at the top of a hop. -/
structure Walk.AtTop (target nodeId : NodeId) (w : Walk) : Prop where
  sent_ok : w.SentOk nodeId
  sent_length : w.sent.length = w.hops
  hops_le : w.hops ≤ LOOKUP_MAX_HOPS
  length_le : w.candidates.length ≤ MAX_LOOKUP_CANDIDATES
  closest_le : w.closestSoFar.length ≤ K
  closest_sorted : w.closestSoFar.Pairwise (·.key ≤ ·.key)
  closest_dist : ∀ c ∈ w.closestSoFar, c.distance = xor32 target c.desc.id
  cand_dist : ∀ c ∈ w.candidates, c.distance = xor32 target c.desc.id

theorem Walk.SentOk.congr {nodeId : NodeId} {w w' : Walk} (h : w.SentOk nodeId) (hq : w'.queried = w.queried)
    (hs : w'.sent = w.sent) : w'.SentOk nodeId := by
  obtain ⟨h₁, h₂, h₃, h₄, h₅⟩ := h
  rw [← hq] at h₁ h₂
  rw [← hs] at h₂ h₃ h₄ h₅
  exact ⟨h₁, h₂, h₃, h₄, h₅⟩

theorem length_nextBatch_le (cs : List Candidate) (queried : List NodeId) : (nextBatch cs queried).length ≤ ALPHA := by
  simp [nextBatch]

theorem not_mem_of_mem_nextBatch {cs : List Candidate} {queried : List NodeId} {d : NodeDescriptor}
    (hd : d ∈ nextBatch cs queried) : d.id ∉ queried := by
  simp only [nextBatch, List.mem_map] at hd
  obtain ⟨c, hc, rfl⟩ := hd
  simpa using (List.mem_filter.1 (List.mem_of_mem_take hc)).2

theorem Walk.SentOk.sendBatch {nodeId target : NodeId} {allowLocal : Bool} {w : Walk} (h : w.SentOk nodeId)
    (replies : List (List NodeDescriptor)) :
    (sendBatch target allowLocal w (nextBatch w.candidates w.queried) replies).SentOk nodeId := by
  have hfresh : ∀ id ∈ (nextBatch w.candidates w.queried).map (·.id), id ∉ w.queried := by
    intro id hid
    obtain ⟨d, hd, rfl⟩ := List.mem_map.1 hid
    exact not_mem_of_mem_nextBatch hd
  refine ⟨List.mem_append_left _ h.self_queried, fun b hb id hid => ?_, fun b hb => ?_, fun b hb => ?_, ?_⟩
  · rcases List.mem_append.1 hb with hb | hb
    · exact List.mem_append_left _ (h.sent_queried b hb id hid)
    · exact List.mem_append_right _ ((List.mem_singleton.1 hb) ▸ hid)
  · rcases List.mem_append.1 hb with hb | hb
    · exact h.not_self b hb
    · rw [List.mem_singleton.1 hb]
      exact fun hself => hfresh _ hself h.self_queried
  · rcases List.mem_append.1 hb with hb | hb
    · exact h.batch_le b hb
    · rw [List.mem_singleton.1 hb, List.length_map]
      exact length_nextBatch_le _ _
  · -- the new batch holds only ids not yet queried, and every earlier batch only queried ones
    refine List.pairwise_append.2 ⟨h.disjoint, by simp, fun b₁ hb₁ b₂ hb₂ id hid hid₂ => ?_⟩
    rw [List.mem_singleton.1 hb₂] at hid₂
    exact hfresh id hid₂ (h.sent_queried b₁ hb₁ id hid)

theorem distance_of_mem_integrate {target : NodeId} {allowLocal : Bool} {cs : List Candidate}
    (hcs : ∀ c ∈ cs, c.distance = xor32 target c.desc.id) (replies : List (List NodeDescriptor)) :
    ∀ c ∈ replies.foldl (fun cs reply => integrateDescriptors target cs reply allowLocal) cs,
      c.distance = xor32 target c.desc.id := by
  induction replies generalizing cs with
  | nil => exact hcs
  | cons reply replies ih =>
      refine ih fun c hc => ?_
      rcases List.mem_append.1 hc with hc | hc
      · exact hcs c hc
      · obtain ⟨d, -, rfl⟩ := List.mem_map.1 hc
        rfl

theorem Walk.AtTop.hop {target nodeId : NodeId} {allowLocal : Bool} {env : Nat → HopEnv} {w : Walk}
    (h : w.AtTop target nodeId) (hhops : w.hops < LOOKUP_MAX_HOPS) :
    (hop target allowLocal env w).AtTop target nodeId := by
  have hsent : (sendBatch target allowLocal w (nextBatch w.candidates w.queried) (env w.hops).replies).SentOk nodeId :=
    h.sent_ok.sendBatch _
  have hdist : ∀ c ∈ (env w.hops).replies.foldl (fun cs reply => integrateDescriptors target cs reply allowLocal)
      w.candidates, c.distance = xor32 target c.desc.id :=
    distance_of_mem_integrate h.cand_dist _
  have hsorted := pairwise_sortByDistance ((env w.hops).replies.foldl
    (fun cs reply => integrateDescriptors target cs reply allowLocal) w.candidates)
  refine ⟨hsent.congr rfl rfl, ?_, by simp only [Lookup.hop, finishHop, sendBatch]; omega, ?_, ?_, ?_, ?_, ?_⟩
  · simp only [Lookup.hop, finishHop, sendBatch, List.length_append, List.length_singleton, h.sent_length]
  · simp [Lookup.hop, finishHop, sendBatch]
  · simp [Lookup.hop, finishHop, sendBatch]
  · exact (hsorted.sublist (List.take_sublist _ _)).sublist (List.take_sublist _ _)
  · intro c hc
    exact hdist c (mem_sortByDistance.1 (List.mem_of_mem_take (List.mem_of_mem_take hc)))
  · intro c hc
    exact hdist c (mem_sortByDistance.1 (List.mem_of_mem_take hc))

theorem runIterativeLoop_ends {target nodeId : NodeId} {allowLocal : Bool} {env : Nat → HopEnv} {w : Walk}
    (h : w.AtTop target nodeId) :
    (runIterativeLoop target allowLocal env w).2.SentOk nodeId ∧
      (runIterativeLoop target allowLocal env w).2.sent.length ≤ LOOKUP_MAX_HOPS ∧
      ((runIterativeLoop target allowLocal env w).1 = .ok () →
        (runIterativeLoop target allowLocal env w).2.AtTop target nodeId) := by
  fun_induction runIterativeLoop target allowLocal env w with
  | case1 w hexp => exact ⟨h.sent_ok, h.sent_length ▸ h.hops_le, fun hok => by cases hok⟩
  | case2 w hexp hmax => exact ⟨h.sent_ok, h.sent_length ▸ h.hops_le, fun hok => by cases hok⟩
  | case3 w hexp hmax batch hempty => exact ⟨h.sent_ok, h.sent_length ▸ h.hops_le, fun _ => h⟩
  | case4 w hexp hmax batch hempty sent hto =>
      -- the deadline passes inside the hop: this hop's batch is sent, the hop is not counted
      have hlen : sent.sent.length = w.hops + 1 := by
        simp only [sent, sendBatch, List.length_append, List.length_singleton, h.sent_length]
      refine ⟨h.sent_ok.sendBatch _, ?_, fun hok => by cases hok⟩
      change sent.sent.length ≤ LOOKUP_MAX_HOPS
      omega
  | case5 w hexp hmax batch hempty sent hto next hdone =>
      have hnext : next.AtTop target nodeId := h.hop (Nat.lt_of_not_le hmax)
      exact ⟨hnext.sent_ok, hnext.sent_length ▸ hnext.hops_le, fun _ => hnext⟩
  | case6 w hexp hmax batch hempty sent hto next hmore ih =>
      exact ih (h.hop (Nat.lt_of_not_le hmax))

theorem seedWalk_atTop (target nodeId : NodeId) {initial : List NodeDescriptor}
    (hlen : initial.length ≤ MAX_LOOKUP_CANDIDATES) : (seedWalk target nodeId initial).AtTop target nodeId where
  sent_ok := ⟨List.mem_singleton_self _, by simp [seedWalk], by simp [seedWalk], by simp [seedWalk], List.Pairwise.nil⟩
  sent_length := rfl
  hops_le := Nat.zero_le _
  length_le := by simpa [seedWalk] using hlen
  closest_le := Nat.zero_le _
  closest_sorted := List.Pairwise.nil
  closest_dist := by simp [seedWalk]
  cand_dist := by
    intro c hc
    obtain ⟨d, -, rfl⟩ := List.mem_map.1 (mem_sortByDistance.1 hc)
    rfl

theorem lookupWalk_ends (dht : Dht) (allowLocal : Bool) (env : Nat → HopEnv) (target : NodeId) :
    (lookupWalk dht allowLocal env target).2.SentOk dht.nodeId ∧
      (lookupWalk dht allowLocal env target).2.sent.length ≤ LOOKUP_MAX_HOPS ∧
      ((lookupWalk dht allowLocal env target).1 = .ok () →
        (lookupWalk dht allowLocal env target).2.AtTop target dht.nodeId) := by
  have hlen : (dht.routing.findClosest target (K * 2)).length ≤ MAX_LOOKUP_CANDIDATES := by
    rw [RoutingTable.length_findClosest]
    exact (Nat.min_le_left _ _).trans (by decide)
  rw [lookupWalk]
  split
  · have hseed := @seedWalk_atTop target dht.nodeId [] (Nat.zero_le _)
    exact ⟨hseed.sent_ok, Nat.zero_le _, fun hok => by cases hok⟩
  · exact runIterativeLoop_ends (seedWalk_atTop target dht.nodeId hlen)

theorem lookup_bookkeeping (dht : Dht) (allowLocal : Bool) (env : Nat → HopEnv) (target : NodeId) :
    (lookupWalk dht allowLocal env target).2.sent.length ≤ LOOKUP_MAX_HOPS ∧
      (∀ b ∈ (lookupWalk dht allowLocal env target).2.sent, b.length ≤ ALPHA ∧ dht.nodeId ∉ b) ∧
      (lookupWalk dht allowLocal env target).2.sent.Pairwise (fun b₁ b₂ => ∀ id ∈ b₁, id ∉ b₂) ∧
      ∀ descs, lookupNode dht allowLocal env target = .ok descs →
        descs.length ≤ K ∧ (descs.map (Promtuz.distance ·.id target)).Pairwise (· ≤ ·) := by
  obtain ⟨hsent, hhops, hok⟩ := lookupWalk_ends dht allowLocal env target
  refine ⟨hhops, fun b hb => ⟨hsent.batch_le b hb, hsent.not_self b hb⟩, hsent.disjoint, fun descs hdescs => ?_⟩
  rw [lookupNode] at hdescs
  cases hres : (lookupWalk dht allowLocal env target).1 with
  | error e => simp [hres, Except.map] at hdescs
  | ok u =>
      have htop := hok hres
      simp only [hres, Except.map, Except.ok.injEq] at hdescs
      subst hdescs
      refine ⟨by simp, ?_⟩
      -- the first `K` of `closest_so_far` keep its order, and its keys are the distances
      have hsorted := htop.closest_sorted.sublist (List.take_sublist K _)
      rw [List.map_map, List.pairwise_map]
      refine List.Pairwise.imp_of_mem ?_ hsorted
      intro a b ha hb hab
      rw [Function.comp_apply, Function.comp_apply,
        ← Candidate.key_of_distance (htop.closest_dist a (List.mem_of_mem_take ha)),
        ← Candidate.key_of_distance (htop.closest_dist b (List.mem_of_mem_take hb))]
      exact hab

/-- A shortlist `[p]` whose one peer answers with a closer `q` twice, then nothing. -/
theorem lookup_repeated_reply_queries_twice (dht : Dht) (allowLocal : Bool) (env : Nat → HopEnv)
    (target : NodeId) {p q : NodeDescriptor} (hseed : dht.routing.findClosest target (K * 2) = [p])
    (hp : p.id ≠ dht.nodeId) (hq : q.id ≠ dht.nodeId) (hqp : q.id ≠ p.id)
    (hdial : isDialablePeerAddr q.addr allowLocal = true) (hcloser : distance q.id target < distance p.id target)
    (h₀ : env 0 = ⟨false, [[q, q]], false⟩) (h₁ : env 1 = ⟨false, [], false⟩) :
    (lookupWalk dht allowLocal env target).2.sent = [[p.id], [q.id, q.id]] ∧
      lookupNode dht allowLocal env target = .ok [q, q, p] := by
  have hkey : (Candidate.ofDesc target q).key < (Candidate.ofDesc target p).key := by
    rw [Candidate.key_ofDesc, Candidate.key_ofDesc]
    exact hcloser
  have hw₀ : seedWalk target dht.nodeId [p] = ⟨[Candidate.ofDesc target p], [dht.nodeId], [], 0, []⟩ := by
    simp [seedWalk, sortByDistance]
  have hs₁ : sortByDistance [Candidate.ofDesc target p, Candidate.ofDesc target q, Candidate.ofDesc target q] =
      [Candidate.ofDesc target q, Candidate.ofDesc target q, Candidate.ofDesc target p] :=
    sortByDistance_cons_of_lt (by simp) (by simp [hkey])
  have hb₀ : nextBatch [Candidate.ofDesc target p] [dht.nodeId] = [p] := by
    simp [nextBatch, Candidate.ofDesc, hp, ALPHA]
  have hi₀ : integrateDescriptors target [Candidate.ofDesc target p] [q, q] allowLocal =
      [Candidate.ofDesc target p, Candidate.ofDesc target q, Candidate.ofDesc target q] := by
    simp [integrateDescriptors, MAX_FIND_NODE_RESULTS, Candidate.ofDesc, hqp, hdial]
  have hw₁ : hop target allowLocal env ⟨[Candidate.ofDesc target p], [dht.nodeId], [], 0, []⟩ =
      ⟨[Candidate.ofDesc target q, Candidate.ofDesc target q, Candidate.ofDesc target p], [dht.nodeId, p.id],
        [Candidate.ofDesc target q, Candidate.ofDesc target q, Candidate.ofDesc target p], 1, [[p.id]]⟩ := by
    simp only [hop, sendBatch, finishHop, hb₀, h₀, List.foldl_cons, List.foldl_nil, hi₀, hs₁]
    rfl
  have hc₁ : anyCloserUnqueried ⟨[Candidate.ofDesc target q, Candidate.ofDesc target q, Candidate.ofDesc target p],
      [dht.nodeId, p.id], [Candidate.ofDesc target q, Candidate.ofDesc target q, Candidate.ofDesc target p], 1,
      [[p.id]]⟩ = true := by
    have hlt : (Candidate.ofDesc target q).distance < (Candidate.ofDesc target p).distance :=
      (Candidate.distance_lt_iff _ _).2 hkey
    simp only [anyCloserUnqueried, List.getLast?_cons_cons, List.getLast?_singleton, Option.map_some,
      Option.getD_some, List.any_cons, List.any_nil, hlt]
    simp [Candidate.ofDesc, hq, hqp]
  have hb₁ : nextBatch [Candidate.ofDesc target q, Candidate.ofDesc target q, Candidate.ofDesc target p]
      [dht.nodeId, p.id] = [q, q] := by
    simp [nextBatch, Candidate.ofDesc, hq, hqp, ALPHA]
  have hw₂ : hop target allowLocal env ⟨[Candidate.ofDesc target q, Candidate.ofDesc target q, Candidate.ofDesc target p],
      [dht.nodeId, p.id], [Candidate.ofDesc target q, Candidate.ofDesc target q, Candidate.ofDesc target p], 1,
      [[p.id]]⟩ =
      ⟨[Candidate.ofDesc target q, Candidate.ofDesc target q, Candidate.ofDesc target p], [dht.nodeId, p.id, q.id, q.id],
        [Candidate.ofDesc target q, Candidate.ofDesc target q, Candidate.ofDesc target p], 2, [[p.id], [q.id, q.id]]⟩ := by
    have hsorted : sortByDistance [Candidate.ofDesc target q, Candidate.ofDesc target q, Candidate.ofDesc target p] =
        [Candidate.ofDesc target q, Candidate.ofDesc target q, Candidate.ofDesc target p] :=
      sortByDistance_of_pairwise (by simp [hkey.le])
    simp only [hop, sendBatch, finishHop, hb₁, h₁, List.foldl_nil, hsorted]
    rfl
  have hc₂ : anyCloserUnqueried ⟨[Candidate.ofDesc target q, Candidate.ofDesc target q, Candidate.ofDesc target p],
      [dht.nodeId, p.id, q.id, q.id], [Candidate.ofDesc target q, Candidate.ofDesc target q, Candidate.ofDesc target p],
      2, [[p.id], [q.id, q.id]]⟩ = false := by
    simp [anyCloserUnqueried, Candidate.ofDesc]
  have hrun : lookupWalk dht allowLocal env target = (.ok (), ⟨[Candidate.ofDesc target q, Candidate.ofDesc target q,
      Candidate.ofDesc target p], [dht.nodeId, p.id, q.id, q.id], [Candidate.ofDesc target q, Candidate.ofDesc target q,
      Candidate.ofDesc target p], 2, [[p.id], [q.id, q.id]]⟩) := by
    rw [lookupWalk, hseed, if_neg (by simp), hw₀, runIterativeLoop_of_hop (by rw [h₀]) (by simp [LOOKUP_MAX_HOPS]) (by rw [hb₀]; simp)
      (by rw [h₀]), hw₁, if_pos hc₁, runIterativeLoop_of_hop (by rw [h₁]) (by simp [LOOKUP_MAX_HOPS]) (by rw [hb₁]; simp) (by rw [h₁]),
      hw₂, if_neg (by rw [hc₂]; simp)]
  refine ⟨by rw [hrun], ?_⟩
  rw [lookupNode, hrun]
  rfl

def soloDht : Dht :=
  ⟨Bytes.replicate 32 0, [Routing.Op.insert ⟨Bytes.replicate 32 2, ⟨[93, 184, 216, 2], 4433⟩, Bytes.replicate 32 2⟩ 0].foldl
    (RoutingTable.apply ⟨fun _ => Bytes.replicate 32 0, fun _ _ _ => true⟩) (RoutingTable.empty (Bytes.replicate 32 0) 0),
    false, Store.empty⟩

def echoEnv : Nat → HopEnv := fun n =>
  if n = 0 then
    ⟨false, [[⟨Bytes.replicate 32 1, ⟨[93, 184, 216, 1], 4433⟩, Bytes.replicate 32 1⟩,
      ⟨Bytes.replicate 32 1, ⟨[93, 184, 216, 1], 4433⟩, Bytes.replicate 32 1⟩]], false⟩
  else ⟨false, [], false⟩

theorem lookup_repeated_reply_queries_twice_solo :
    soloDht.routing.findClosest (Bytes.replicate 32 0) (K * 2) = [⟨Bytes.replicate 32 2, ⟨[93, 184, 216, 2], 4433⟩, Bytes.replicate 32 2⟩] ∧
    (lookupWalk soloDht false echoEnv (Bytes.replicate 32 0)).2.sent =
        [[Bytes.replicate 32 2], [Bytes.replicate 32 1, Bytes.replicate 32 1]] ∧
      lookupNode soloDht false echoEnv (Bytes.replicate 32 0) =
        .ok [⟨Bytes.replicate 32 1, ⟨[93, 184, 216, 1], 4433⟩, Bytes.replicate 32 1⟩,
          ⟨Bytes.replicate 32 1, ⟨[93, 184, 216, 1], 4433⟩, Bytes.replicate 32 1⟩,
          ⟨Bytes.replicate 32 2, ⟨[93, 184, 216, 2], 4433⟩, Bytes.replicate 32 2⟩] := by
  have hseed : soloDht.routing.findClosest (Bytes.replicate 32 0) (K * 2) =
      [⟨Bytes.replicate 32 2, ⟨[93, 184, 216, 2], 4433⟩, Bytes.replicate 32 2⟩] := by
    decide +kernel
  exact ⟨hseed, lookup_repeated_reply_queries_twice soloDht false echoEnv (Bytes.replicate 32 0) hseed
    (by decide) (by decide) (by decide) (by decide) (by decide +kernel) rfl rfl⟩

end Lookup

end Promtuz
