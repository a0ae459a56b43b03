import Promtuz.Relay.Welcome
import Promtuz.Relay.KeyPackageInvariant

namespace Promtuz

namespace Welcome

section QueueFull

variable {senderIpk : Bytes 32} {key : Bytes STORAGE_KEY_LEN}
  {entries : List (Bytes STORAGE_KEY_LEN × WelcomeEnvelopeP × UInt64 × Nat)}

theorem queueFullLoop_of_mem (h : ∃ e ∈ entries, e.1 = key) (total fromSender : Nat) :
    queueFullLoop senderIpk key total fromSender entries = false := by
  induction entries generalizing total fromSender with
  | nil => simp at h
  | cons e rest ih =>
      obtain ⟨k, env, expiresAtMs, storedLen⟩ := e
      by_cases hk : k = key
      · simp [queueFullLoop, hk]
      · have hrest : ∃ e ∈ rest, e.1 = key := by
          obtain ⟨e, he, hek⟩ := h
          rcases List.mem_cons.mp he with rfl | he
          · exact absurd hek hk
          · exact ⟨e, he, hek⟩
        simp only [queueFullLoop, hk, if_false]
        exact ih hrest _ _

theorem queueFullLoop_of_not_mem (h : ∀ e ∈ entries, e.1 ≠ key) (total fromSender : Nat) :
    queueFullLoop senderIpk key total fromSender entries =
      (decide (MAX_WELCOMES_PER_RECIPIENT ≤ total + entries.length) ||
        decide (MAX_WELCOMES_PER_SENDER ≤
          fromSender + entries.countP fun e => decide (e.2.1.senderIpk = senderIpk))) := by
  induction entries generalizing total fromSender with
  | nil => rfl
  | cons e rest ih =>
      obtain ⟨k, env, expiresAtMs, storedLen⟩ := e
      have hk : k ≠ key := h _ List.mem_cons_self
      simp only [queueFullLoop, hk, if_false]
      rw [ih (fun e he => h e (List.mem_cons_of_mem _ he))]
      by_cases hs : env.senderIpk = senderIpk
      · simp [hs, Nat.add_assoc, Nat.add_comm 1]
      · simp [hs, Nat.add_assoc, Nat.add_comm 1]

end QueueFull

/-- A row as publish writes it: the expiry, then an envelope, filed under its recipient's
prefix and its own id. -/
def WelcomeRow (crypto : Crypto) (codec : Codec WelcomeEnvelopeP) (r : List UInt8 × List UInt8) : Prop :=
  ∃ env, r.1 = (storageKey crypto env.recipientIpk (welcomeId crypto env)).1 ∧ 8 ≤ r.2.length ∧
    codec.deser (r.2.drop 8) = some env

/-- What holds of `dht_welcome` over every run: each row is a stored envelope, and no
recipient holds more than `MAX_WELCOMES_PER_RECIPIENT` rows. -/
structure WelcomeWellFormed (crypto : Crypto) (codec : Codec WelcomeEnvelopeP) (ws : Keyspace) : Prop where
  rows : ∀ r ∈ ws.rows, WelcomeRow crypto codec r
  capped : ∀ ipk : Bytes 32, (ws.prefixScan (stashPrefix crypto ipk).1).length ≤ MAX_WELCOMES_PER_RECIPIENT

section Invariant

variable {crypto : Crypto} {codec : Codec WelcomeEnvelopeP} {ws ws' : Keyspace}

theorem WelcomeWellFormed.empty : WelcomeWellFormed crypto codec SortedMap.empty where
  rows := by simp
  capped _ := by simp [Keyspace.prefixScan, SortedMap.scan]

theorem WelcomeWellFormed.of_sub (h : WelcomeWellFormed crypto codec ws) (hs : ws'.Sub ws) :
    WelcomeWellFormed crypto codec ws' where
  rows r hr := h.rows r (hs.mem hr)
  capped ipk := Nat.le_trans (hs.scan _).length_le (h.capped ipk)

theorem isPrefixOf_storageKey_iff {ipk other : Bytes 32} {wid : Bytes WELCOME_ID_LEN} :
    (stashPrefix crypto other).1.isPrefixOf (storageKey crypto ipk wid).1 = true ↔
      stashPrefix crypto other = stashPrefix crypto ipk :=
  Bytes.isPrefixOf_append_iff

theorem mem_iterateWelcomes (h : WelcomeWellFormed crypto codec ws) {dht : Dht}
    (hws : dht.store.welcome = ws) {ipk : Bytes 32} {r : List UInt8 × List UInt8}
    (hr : r ∈ ws.prefixScan (stashPrefix crypto ipk).1) :
    ∃ e ∈ iterateWelcomes crypto codec dht ipk, e.1.1 = r.1 := by
  obtain ⟨env, hkey, hlen, hdec⟩ := h.rows r (Kp.mem_prefixScan.mp hr).1
  have hsize : r.1.length = STORAGE_KEY_LEN := by rw [hkey]; exact (storageKey _ _ _).2
  refine ⟨(⟨r.1, hsize⟩, env, UInt64.ofNat (Bytes.beValue (r.2.take 8)), r.2.length), ?_, rfl⟩
  rw [iterateWelcomes, List.mem_filterMap, hws]
  exact ⟨r, hr, by simp [hsize, Nat.not_lt.mpr hlen, hdec]⟩

theorem key_of_mem_iterateWelcomes {dht : Dht} {ipk : Bytes 32}
    {e : Bytes STORAGE_KEY_LEN × WelcomeEnvelopeP × UInt64 × Nat} (he : e ∈ iterateWelcomes crypto codec dht ipk) :
    ∃ r ∈ dht.store.welcome.prefixScan (stashPrefix crypto ipk).1, r.1 = e.1.1 := by
  rw [iterateWelcomes, List.mem_filterMap] at he
  obtain ⟨r, hr, hsome⟩ := he
  split at hsome
  · next hsize =>
    split at hsome
    · cases hsome
    · obtain ⟨env, -, rfl⟩ := Option.map_eq_some_iff.mp hsome
      exact ⟨r, hr, rfl⟩
  · cases hsome

theorem room_of_not_full (h : WelcomeWellFormed crypto codec ws) {dht : Dht} (hws : dht.store.welcome = ws)
    {ipk senderIpk : Bytes 32} {wid : Bytes WELCOME_ID_LEN}
    (hfull : welcomeQueueFull crypto codec dht ipk senderIpk (storageKey crypto ipk wid) = false)
    (habsent : ∀ r ∈ ws.rows, r.1 ≠ (storageKey crypto ipk wid).1) :
    (ws.prefixScan (stashPrefix crypto ipk).1).length < MAX_WELCOMES_PER_RECIPIENT := by
  have hnot : ∀ e ∈ iterateWelcomes crypto codec dht ipk, e.1 ≠ storageKey crypto ipk wid := by
    intro e he hek
    obtain ⟨r, hr, hre⟩ := key_of_mem_iterateWelcomes he
    rw [hws] at hr
    exact habsent r (Kp.mem_prefixScan.mp hr).1 (by rw [hre, hek])
  rw [welcomeQueueFull, queueFullLoop_of_not_mem hnot, Bool.or_eq_false_iff] at hfull
  have hlt : (iterateWelcomes crypto codec dht ipk).length < MAX_WELCOMES_PER_RECIPIENT := by
    simpa using hfull.1
  -- every row under the prefix has an entry, and distinct rows distinct keys
  refine Nat.lt_of_le_of_lt (SortedMap.length_scan_le (f := id)
    (S := (iterateWelcomes crypto codec dht ipk).map fun e => e.1.1) (fun _ _ _ _ hab => hab)
    fun r hr => ?_) (by simpa using hlt)
  obtain ⟨e, he, hek⟩ := mem_iterateWelcomes h hws hr
  exact List.mem_map.mpr ⟨e, he, hek⟩

theorem WelcomeWellFormed.insert (hrt : codec.RoundTrip) (h : WelcomeWellFormed crypto codec ws)
    {env : WelcomeEnvelopeP} {bytes : List UInt8} (hser : codec.ser env = some bytes) (n : Nat)
    (hroom : (∃ v, ((storageKey crypto env.recipientIpk (welcomeId crypto env)).1, v) ∈ ws.rows) ∨
      (ws.prefixScan (stashPrefix crypto env.recipientIpk).1).length < MAX_WELCOMES_PER_RECIPIENT) :
    WelcomeWellFormed crypto codec
      (ws.insert (storageKey crypto env.recipientIpk (welcomeId crypto env)).1 (Bytes.toBeBytes 8 n ++ bytes)) := by
  set key := storageKey crypto env.recipientIpk (welcomeId crypto env)
  refine ⟨fun r hr => ?_, fun other => ?_⟩
  · rcases SortedMap.mem_insert.mp hr with rfl | ⟨hr, -⟩
    · refine ⟨env, rfl, by simp, ?_⟩
      rw [List.drop_left' (Bytes.length_toBeBytes 8 n)]
      exact hrt _ _ hser
    · exact h.rows r hr
  · rw [Keyspace.prefixScan, SortedMap.length_scan_insert]
    by_cases hP : stashPrefix crypto other = stashPrefix crypto env.recipientIpk
    · have hpre : (stashPrefix crypto other).1.isPrefixOf key.1 = true := isPrefixOf_storageKey_iff.mpr hP
      rw [if_pos hpre]
      rw [hP] at hpre ⊢
      rcases hroom with ⟨v, hv⟩ | hlt
      -- the key was there: the erase takes one row of the prefix away
      · have := SortedMap.length_scan_erase_of_mem hv fun k => (stashPrefix crypto env.recipientIpk).1.isPrefixOf k
        rw [if_pos hpre] at this
        have hcap := h.capped env.recipientIpk
        simp only [Keyspace.prefixScan] at hcap
        omega
      · have hle := ((SortedMap.erase_sub ws key.1).scan
          fun k => (stashPrefix crypto env.recipientIpk).1.isPrefixOf k).length_le
        simp only [Keyspace.prefixScan] at hlt
        omega
    · have hpre : (stashPrefix crypto other).1.isPrefixOf key.1 = false := by
        rw [Bool.eq_false_iff]
        exact fun h => hP (isPrefixOf_storageKey_iff.mp h)
      rw [if_neg (by rw [hpre]; exact Bool.false_ne_true), SortedMap.scan_erase_of_false hpre]
      exact h.capped other

end Invariant

theorem selfIsOwnerForRecipient_store (crypto : Crypto) (dht : Dht) (ipk : Bytes 32) :
    (selfIsOwnerForRecipient crypto dht ipk).2.store = dht.store :=
  selfInTopK_store dht _

theorem iterateWelcomes_of_store {crypto : Crypto} {codec : Codec WelcomeEnvelopeP} {dht dht' : Dht}
    (h : dht'.store = dht.store) (ipk : Bytes 32) :
    iterateWelcomes crypto codec dht' ipk = iterateWelcomes crypto codec dht ipk := by
  unfold iterateWelcomes
  rw [h]

theorem welcomeId_congr {crypto : Crypto} {env env' : WelcomeEnvelopeP}
    (h : env.recipientIpk = env'.recipientIpk ∧ env.groupId = env'.groupId ∧
      env.kpRefUsed = env'.kpRefUsed ∧ env.welcomeBlob = env'.welcomeBlob) :
    welcomeId crypto env = welcomeId crypto env' := by
  obtain ⟨h₁, h₂, h₃, h₄⟩ := h
  simp only [welcomeId, h₁, h₂, h₃, h₄]

section Handlers

variable (crypto : Crypto) (codec : Codec WelcomeEnvelopeP) (limiterOk : Bool) (dht : Dht)

theorem handleWelcomePublish_cases (req : WelcomePublishReq) (nowMs : UInt64) :
    (handleWelcomePublish crypto codec limiterOk dht req nowMs).2.store.welcome = dht.store.welcome ∨
      ∃ bytes, codec.ser req.envelope = some bytes ∧
        welcomeQueueFull crypto codec dht req.envelope.recipientIpk req.envelope.senderIpk
          (storageKey crypto req.envelope.recipientIpk (welcomeId crypto req.envelope)) = false ∧
        (handleWelcomePublish crypto codec limiterOk dht req nowMs).2.store.welcome =
          dht.store.welcome.insert (storageKey crypto req.envelope.recipientIpk (welcomeId crypto req.envelope)).1
            (Bytes.toBeBytes 8 (nowMs.saturatingAdd WELCOME_LIFETIME_MS).toNat ++ bytes) := by
  rcases hown : selfIsOwnerForRecipient crypto dht req.envelope.recipientIpk with ⟨owner, dht'⟩
  have hstore : dht'.store = dht.store := by
    simpa [hown] using selfIsOwnerForRecipient_store crypto dht req.envelope.recipientIpk
  have hfull : welcomeQueueFull crypto codec dht' = welcomeQueueFull crypto codec dht := by
    funext ipk senderIpk key
    rw [welcomeQueueFull, welcomeQueueFull, iterateWelcomes_of_store hstore]
  unfold handleWelcomePublish
  simp only [hown, hfull]
  split_ifs with _ _ _ hqf
  · exact .inl rfl
  · exact .inl rfl
  · exact .inl (congrArg Store.welcome hstore)
  · split <;> exact .inl (congrArg Store.welcome hstore)
  · split
    · exact .inl (congrArg Store.welcome hstore)
    · cases hser : codec.ser req.envelope with
      | none => exact .inl (congrArg Store.welcome hstore)
      | some bytes =>
          refine .inr ⟨bytes, rfl, Bool.eq_false_iff.mpr hqf, ?_⟩
          simp only [Dht.setWelcome_welcome, hstore]

theorem handleWelcomeFetch_sub (req : WelcomeFetchReq) (peer : NodeId) (nowMs : UInt64) :
    (handleWelcomeFetch crypto codec limiterOk dht req peer nowMs).2.store.welcome.Sub dht.store.welcome := by
  rcases hown : selfIsOwnerForRecipient crypto dht req.userIpk with ⟨owner, dht'⟩
  have hstore : dht'.store = dht.store := by
    simpa [hown] using selfIsOwnerForRecipient_store crypto dht req.userIpk
  unfold handleWelcomeFetch
  simp only [hown]
  split_ifs
  · exact SortedMap.Sub.refl _
  · exact SortedMap.Sub.refl _
  · exact SortedMap.Sub.refl _
  · simpa only [hstore] using SortedMap.Sub.refl _
  · simpa only [hstore] using SortedMap.Sub.refl _
  · simpa only [Dht.setWelcome_welcome, hstore] using SortedMap.eraseAll_sub _ _

theorem handleWelcomeAck_sub (req : WelcomeAckReq) (peer : NodeId) (nowMs : UInt64) :
    (handleWelcomeAck crypto limiterOk dht req peer nowMs).2.store.welcome.Sub dht.store.welcome := by
  rcases hown : selfIsOwnerForRecipient crypto dht req.userIpk with ⟨owner, dht'⟩
  have hstore : dht'.store = dht.store := by
    simpa [hown] using selfIsOwnerForRecipient_store crypto dht req.userIpk
  unfold handleWelcomeAck
  simp only [hown]
  split_ifs
  · exact SortedMap.Sub.refl _
  · exact SortedMap.Sub.refl _
  · exact SortedMap.Sub.refl _
  · exact SortedMap.Sub.refl _
  · simpa only [hstore] using SortedMap.Sub.refl _
  · simpa only [hstore] using SortedMap.Sub.refl _
  · simpa only [Dht.setWelcome_welcome, hstore] using SortedMap.eraseAll_sub _ _

end Handlers

section Steps

variable {crypto : Crypto} {codec : Codec WelcomeEnvelopeP} {dht : Dht}

theorem WelcomeWellFormed.publish (hrt : codec.RoundTrip) (h : WelcomeWellFormed crypto codec dht.store.welcome)
    (req : WelcomePublishReq) (limiterOk : Bool) (nowMs : UInt64) :
    WelcomeWellFormed crypto codec (handleWelcomePublish crypto codec limiterOk dht req nowMs).2.store.welcome := by
  rcases handleWelcomePublish_cases crypto codec limiterOk dht req nowMs with heq | ⟨bytes, hser, hfull, heq⟩
  · rw [heq]
    exact h
  rw [heq]
  refine h.insert hrt hser _ ?_
  by_cases hkey : ∃ v, ((storageKey crypto req.envelope.recipientIpk (welcomeId crypto req.envelope)).1, v) ∈
      dht.store.welcome.rows
  · exact .inl hkey
  · refine .inr (room_of_not_full h rfl hfull fun r hr hrk => hkey ⟨r.2, ?_⟩)
    rw [← hrk]
    exact hr

theorem WelcomeWellFormed.applyWelcomeOp (hrt : codec.RoundTrip) (h : WelcomeWellFormed crypto codec dht.store.welcome)
    (op : WelcomeOp) : WelcomeWellFormed crypto codec (applyWelcomeOp crypto codec dht op).store.welcome := by
  cases op with
  | publish req limiterOk nowMs => exact h.publish hrt req limiterOk nowMs
  | fetch req peer limiterOk nowMs =>
      exact h.of_sub (handleWelcomeFetch_sub crypto codec limiterOk dht req peer nowMs)
  | ack req peer limiterOk nowMs =>
      exact h.of_sub (handleWelcomeAck_sub crypto limiterOk dht req peer nowMs)

end Steps

/-- Every run of publishes, fetches and acks from an empty `dht_welcome` keeps each row a
stored envelope under its recipient's prefix and each recipient within
`MAX_WELCOMES_PER_RECIPIENT` rows. -/
theorem welcome_recipient_cap (crypto : Crypto) (codec : Codec WelcomeEnvelopeP) (hrt : codec.RoundTrip)
    (dht : Dht) (hempty : dht.store.welcome = SortedMap.empty) (ops : List WelcomeOp) :
    WelcomeWellFormed crypto codec (ops.foldl (applyWelcomeOp crypto codec) dht).store.welcome :=
  Reach.Reachable.invariant (P := fun d : Dht => WelcomeWellFormed crypto codec d.store.welcome)
    (hempty ▸ WelcomeWellFormed.empty) (fun _ op hd => hd.applyWelcomeOp hrt op) (Reach.reachable_foldl ops)

def rowsFrom (codec : Codec WelcomeEnvelopeP) (ws : Keyspace) (stash sender : Bytes 32) : Nat :=
  (ws.prefixScan stash.1).countP fun r => (codec.deser (r.2.drop 8)).any fun env => decide (env.senderIpk = sender)

/-- A stored envelope gives way to any envelope with its recipient, group, KeyPackage and
blob, from whatever sender and whatever that sender already holds: the id leaves the sender
out, and the cap check stops with "not full" at the id's row. -/
theorem welcome_publish_replaces_other_sender (crypto : Crypto) (codec : Codec WelcomeEnvelopeP)
    (dht : Dht) (req : WelcomePublishReq) (nowMs : UInt64)
    (hskew : ¬MAX_KP_SKEW_MS < nowMs.absDiff req.timestamp)
    (howner : (selfIsOwnerForRecipient crypto dht req.envelope.recipientIpk).1 = true)
    (hvalid : verifyWelcomeEnvelope crypto req.envelope = .ok ())
    (bytes : List UInt8) (hser : codec.ser req.envelope = some bytes)
    (key : Bytes STORAGE_KEY_LEN) (env₀ : WelcomeEnvelopeP) (expiresAtMs : UInt64) (storedLen : Nat)
    (hrow : (key, env₀, expiresAtMs, storedLen) ∈ iterateWelcomes crypto codec dht req.envelope.recipientIpk)
    (hkey : key = storageKey crypto env₀.recipientIpk (welcomeId crypto env₀))
    (hsame : env₀.recipientIpk = req.envelope.recipientIpk ∧ env₀.groupId = req.envelope.groupId ∧
      env₀.kpRefUsed = req.envelope.kpRefUsed ∧ env₀.welcomeBlob = req.envelope.welcomeBlob) :
    handleWelcomePublish crypto codec true dht req nowMs =
      (.stored, (selfIsOwnerForRecipient crypto dht req.envelope.recipientIpk).2.setWelcome
        (dht.store.welcome.insert key.1 (Bytes.toBeBytes 8 (nowMs.saturatingAdd WELCOME_LIFETIME_MS).toNat ++ bytes))) := by
  rcases hown : selfIsOwnerForRecipient crypto dht req.envelope.recipientIpk with ⟨owner, dht'⟩
  rw [hown] at howner
  have hstore : dht'.store = dht.store := by
    simpa [hown] using selfIsOwnerForRecipient_store crypto dht req.envelope.recipientIpk
  have hkey' : key = storageKey crypto req.envelope.recipientIpk (welcomeId crypto req.envelope) := by
    rw [hkey, welcomeId_congr hsame, hsame.1]
  -- the scan meets the row's key, so it never looks at the counts
  have hnotFull : welcomeQueueFull crypto codec dht' req.envelope.recipientIpk req.envelope.senderIpk
      (storageKey crypto req.envelope.recipientIpk (welcomeId crypto req.envelope)) = false := by
    rw [welcomeQueueFull, iterateWelcomes_of_store hstore]
    exact queueFullLoop_of_mem ⟨_, hrow, hkey'⟩ 0 0
  unfold handleWelcomePublish
  simp only at howner
  simp only [hown, hskew, howner, hvalid, hnotFull, hser, hkey', if_false, Bool.not_true,
    Bool.false_eq_true, hstore]

def sumCrypto : Crypto :=
  ⟨fun l => ⟨List.replicate 32 (UInt8.ofNat (l.map UInt8.toNat).sum), by simp⟩, fun _ _ _ => true⟩

def inviteRecipient : Bytes 32 := Bytes.replicate 32 7

def inviterA : Bytes 32 := Bytes.replicate 32 1

def inviterB : Bytes 32 := Bytes.replicate 32 2

def invite (sender : Bytes 32) (blob : UInt8) : WelcomeEnvelopeP :=
  ⟨Bytes.replicate 32 0, sender, inviteRecipient, [blob], Bytes.replicate 32 0,
    Bytes.replicate 64 0⟩

def invites : List WelcomeEnvelopeP :=
  [invite inviterB 1, invite inviterB 2, invite inviterB 3, invite inviterB 4, invite inviterA 5,
    invite inviterB 5]

def inviteCodec : Codec WelcomeEnvelopeP :=
  ⟨fun env => (invites.findIdx? (· = env)).map fun i => [UInt8.ofNat i],
    fun bytes => match bytes with
      | [i] => invites[i.toNat]?
      | _ => none⟩

theorem inviteCodec_roundTrip : inviteCodec.RoundTrip := by
  intro env bytes h
  obtain ⟨i, hi, rfl⟩ := Option.map_eq_some_iff.mp h
  obtain ⟨hlt, heq, -⟩ := List.findIdx?_eq_some_iff_getElem.mp hi
  have hi6 : i < 6 := hlt
  have hnat : (UInt8.ofNat i).toNat = i := by
    rw [UInt8.toNat_ofNat']
    omega
  simp only [inviteCodec, hnat, List.getElem?_eq_getElem hlt]
  simpa using heq

def crowdedHome : Dht :=
  ((invites.take 5).map fun env => WelcomeOp.publish ⟨env, 0⟩ true 0).foldl
    (applyWelcomeOp sumCrypto inviteCodec) (Dht.new (Bytes.replicate 32 0) 0 Store.empty)

theorem welcome_recipient_cap_crowded :
    inviteCodec.RoundTrip ∧
      (Dht.new ⟨List.replicate 32 0, by simp⟩ 0 Store.empty).store.welcome = SortedMap.empty ∧
      WelcomeWellFormed sumCrypto inviteCodec crowdedHome.store.welcome :=
  ⟨inviteCodec_roundTrip, rfl, welcome_recipient_cap sumCrypto inviteCodec inviteCodec_roundTrip
    (Dht.new ⟨List.replicate 32 0, by simp⟩ 0 Store.empty) rfl _⟩

theorem welcome_publish_replaces_other_sender_crowded :
    rowsFrom inviteCodec crowdedHome.store.welcome (stashPrefix sumCrypto inviteRecipient) inviterB =
        MAX_WELCOMES_PER_SENDER ∧
      handleWelcomePublish sumCrypto inviteCodec true crowdedHome ⟨invite inviterB 5, 0⟩ 0 =
        (.stored, (selfIsOwnerForRecipient sumCrypto crowdedHome inviteRecipient).2.setWelcome
          (crowdedHome.store.welcome.insert
            (storageKey sumCrypto inviteRecipient (welcomeId sumCrypto (invite inviterA 5))).1
            (Bytes.toBeBytes 8 ((0 : UInt64).saturatingAdd WELCOME_LIFETIME_MS).toNat ++ [5]))) ∧
      MAX_WELCOMES_PER_SENDER < rowsFrom inviteCodec
        (handleWelcomePublish sumCrypto inviteCodec true crowdedHome ⟨invite inviterB 5, 0⟩ 0).2.store.welcome
        (stashPrefix sumCrypto inviteRecipient) inviterB ∧
      rowsFrom inviteCodec
        (handleWelcomePublish sumCrypto inviteCodec true crowdedHome ⟨invite inviterB 5, 0⟩ 0).2.store.welcome
        (stashPrefix sumCrypto inviteRecipient) inviterA = 0 :=
  ⟨by decide +kernel,
    welcome_publish_replaces_other_sender sumCrypto inviteCodec crowdedHome ⟨invite inviterB 5, 0⟩ 0
      (by decide) (by decide +kernel) rfl [5] (by decide +kernel)
      (storageKey sumCrypto inviteRecipient (welcomeId sumCrypto (invite inviterA 5))) (invite inviterA 5)
      WELCOME_LIFETIME_MS 9 (by decide +kernel) rfl ⟨rfl, rfl, rfl, rfl⟩,
    by decide +kernel, by decide +kernel⟩

end Welcome

end Promtuz
