import Promtuz.Relay.WelcomeInvariant

/-! What a welcome fetch hands out (`handle_welcome_fetch`, `dht/mls/welcome.rs`): the longest
run of live rows that fits the count and the byte budget, and what a live row over the byte
budget does to every later fetch. -/

namespace Promtuz

namespace Welcome

def entryOf (x : Bytes STORAGE_KEY_LEN × WelcomeEnvelopeP × UInt64 × Nat) : WelcomeEntry :=
  ⟨⟨x.1.1.drop STASH_PREFIX_LEN, length_drop_storageKey x.1⟩, x.2.1⟩

def liveEntries (nowMs : UInt64) (l : List (Bytes STORAGE_KEY_LEN × WelcomeEnvelopeP × UInt64 × Nat)) :
    List (Bytes STORAGE_KEY_LEN × WelcomeEnvelopeP × UInt64 × Nat) :=
  l.filter fun x => decide (nowMs < x.2.2.1)

def storedBytes (l : List (Bytes STORAGE_KEY_LEN × WelcomeEnvelopeP × UInt64 × Nat)) : Nat :=
  (l.map (·.2.2.2)).sum

section Collect

variable {nowMs : UInt64}

theorem collectLoop_cons_of_expired (s : CollectScan) {x : Bytes STORAGE_KEY_LEN × WelcomeEnvelopeP × UInt64 × Nat}
    (hexp : x.2.2.1 ≤ nowMs) (l : List (Bytes STORAGE_KEY_LEN × WelcomeEnvelopeP × UInt64 × Nat)) :
    collectLoop nowMs s (x :: l) = collectLoop nowMs { s with toEvict := s.toEvict ++ [x.1] } l := by
  obtain ⟨key, env, expiresAtMs, storedLen⟩ := x
  rw [collectLoop, if_pos hexp]

theorem collectLoop_append_expired (s : CollectScan)
    {pre : List (Bytes STORAGE_KEY_LEN × WelcomeEnvelopeP × UInt64 × Nat)} (hpre : ∀ x ∈ pre, x.2.2.1 ≤ nowMs)
    (l : List (Bytes STORAGE_KEY_LEN × WelcomeEnvelopeP × UInt64 × Nat)) :
    collectLoop nowMs s (pre ++ l) = collectLoop nowMs { s with toEvict := s.toEvict ++ pre.map (·.1) } l := by
  induction pre generalizing s with
  | nil => simp
  | cons x pre ih =>
      rw [List.cons_append, collectLoop_cons_of_expired s (hpre _ List.mem_cons_self),
        ih _ fun y hy => hpre y (List.mem_cons_of_mem _ hy)]
      simp [List.append_assoc]

theorem collectLoop_cons_of_overrun (s : CollectScan) {key : Bytes STORAGE_KEY_LEN} {env : WelcomeEnvelopeP}
    {expiresAtMs : UInt64} {storedLen : Nat} (hlive : nowMs < expiresAtMs)
    (hover : MAX_WELCOMES_PER_RECIPIENT ≤ s.welcomes.length ∨ WELCOME_FETCH_MAX_BYTES < s.used + storedLen)
    (l : List (Bytes STORAGE_KEY_LEN × WelcomeEnvelopeP × UInt64 × Nat)) :
    collectLoop nowMs s ((key, env, expiresAtMs, storedLen) :: l) = s := by
  rw [collectLoop, if_neg (UInt64.not_le.2 hlive), if_pos (by simpa using hover)]

theorem collectLoop_cons_of_fits (s : CollectScan) {x : Bytes STORAGE_KEY_LEN × WelcomeEnvelopeP × UInt64 × Nat}
    (hlive : nowMs < x.2.2.1)
    (hfits : s.welcomes.length < MAX_WELCOMES_PER_RECIPIENT ∧ s.used + x.2.2.2 ≤ WELCOME_FETCH_MAX_BYTES)
    (l : List (Bytes STORAGE_KEY_LEN × WelcomeEnvelopeP × UInt64 × Nat)) :
    collectLoop nowMs s (x :: l) = collectLoop nowMs ⟨s.toEvict, s.welcomes ++ [entryOf x], s.used + x.2.2.2⟩ l := by
  obtain ⟨key, env, expiresAtMs, storedLen⟩ := x
  have hnot : ¬(decide (MAX_WELCOMES_PER_RECIPIENT ≤ s.welcomes.length) ||
      decide (WELCOME_FETCH_MAX_BYTES < s.used + storedLen)) = true := by
    simp only [Bool.or_eq_true, decide_eq_true_eq, not_or, Nat.not_le, Nat.not_lt]
    exact hfits
  rw [collectLoop, if_neg (UInt64.not_le.2 hlive), if_neg hnot]
  rfl

variable (nowMs) in
theorem collectLoop_spec (s : CollectScan) (l : List (Bytes STORAGE_KEY_LEN × WelcomeEnvelopeP × UInt64 × Nat)) :
    ∃ pre post, l = pre ++ post ∧
      collectLoop nowMs s l = ⟨s.toEvict ++ (pre.filter fun x => decide (x.2.2.1 ≤ nowMs)).map (·.1),
        s.welcomes ++ (liveEntries nowMs pre).map entryOf, s.used + storedBytes (liveEntries nowMs pre)⟩ ∧
      (post = [] ∨ ∃ x rest, post = x :: rest ∧ nowMs < x.2.2.1 ∧
        (MAX_WELCOMES_PER_RECIPIENT ≤ s.welcomes.length + (liveEntries nowMs pre).length ∨
          WELCOME_FETCH_MAX_BYTES < s.used + storedBytes (liveEntries nowMs pre) + x.2.2.2)) := by
  induction l generalizing s with
  | nil => exact ⟨[], [], rfl, by simp [collectLoop, liveEntries, storedBytes], .inl rfl⟩
  | cons x rest ih =>
      by_cases hexp : x.2.2.1 ≤ nowMs
      · -- an expired row: marked, and the walk goes on
        obtain ⟨pre, post, rfl, hrun, hend⟩ := ih { s with toEvict := s.toEvict ++ [x.1] }
        refine ⟨x :: pre, post, rfl, ?_, ?_⟩
        · rw [collectLoop_cons_of_expired s hexp, hrun]
          simp [liveEntries, hexp]
        · simpa [liveEntries, hexp, List.filter_cons] using hend
      · have hlive : nowMs < x.2.2.1 := UInt64.not_le.1 hexp
        by_cases hfits : s.welcomes.length < MAX_WELCOMES_PER_RECIPIENT ∧ s.used + x.2.2.2 ≤ WELCOME_FETCH_MAX_BYTES
        · -- a live row that fits: taken, and the walk goes on
          obtain ⟨pre, post, rfl, hrun, hend⟩ := ih ⟨s.toEvict, s.welcomes ++ [entryOf x], s.used + x.2.2.2⟩
          refine ⟨x :: pre, post, rfl, ?_, ?_⟩
          · rw [collectLoop_cons_of_fits s hlive hfits, hrun]
            simp [liveEntries, storedBytes, hlive, Nat.add_assoc]
          · rcases hend with hend | ⟨y, ys, hpost, hy, hover⟩
            · exact .inl hend
            · refine .inr ⟨y, ys, hpost, hy, ?_⟩
              simp only [List.length_append, List.length_singleton] at hover
              simpa [liveEntries, storedBytes, hlive, List.filter_cons, Nat.add_assoc, Nat.add_comm 1] using hover
        · -- a live row that would overrun: the loop stops before it
          have hover : MAX_WELCOMES_PER_RECIPIENT ≤ s.welcomes.length ∨ WELCOME_FETCH_MAX_BYTES < s.used + x.2.2.2 := by
            omega
          obtain ⟨key, env, expiresAtMs, storedLen⟩ := x
          refine ⟨[], (key, env, expiresAtMs, storedLen) :: rest, rfl, ?_, .inr ⟨_, rest, rfl, hlive, ?_⟩⟩
          · rw [collectLoop_cons_of_overrun s hlive hover]
            simp [liveEntries, storedBytes]
          · simpa [liveEntries, storedBytes] using hover

theorem mem_toEvict_collectLoop {s : CollectScan} {l : List (Bytes STORAGE_KEY_LEN × WelcomeEnvelopeP × UInt64 × Nat)}
    {k : Bytes STORAGE_KEY_LEN} (hk : k ∈ (collectLoop nowMs s l).toEvict) :
    k ∈ s.toEvict ∨ ∃ x ∈ l, x.1 = k ∧ x.2.2.1 ≤ nowMs := by
  obtain ⟨pre, post, rfl, hrun, -⟩ := collectLoop_spec nowMs s l
  rw [hrun] at hk
  rcases List.mem_append.1 hk with hk | hk
  · exact .inl hk
  · obtain ⟨x, hx, rfl⟩ := List.mem_map.1 hk
    obtain ⟨hx, hexp⟩ := List.mem_filter.1 hx
    exact .inr ⟨x, List.mem_append_left _ hx, rfl, of_decide_eq_true hexp⟩

end Collect

section Rows

variable {crypto : Crypto} {codec : Codec WelcomeEnvelopeP}

theorem row_of_mem_iterateWelcomes {dht : Dht} {ipk : Bytes 32}
    {x : Bytes STORAGE_KEY_LEN × WelcomeEnvelopeP × UInt64 × Nat} (hx : x ∈ iterateWelcomes crypto codec dht ipk) :
    ∃ v, (x.1.1, v) ∈ dht.store.welcome.rows ∧ codec.deser (v.drop 8) = some x.2.1 ∧
      x.2.2.1 = UInt64.ofNat (Bytes.beValue (v.take 8)) ∧ x.2.2.2 = v.length := by
  rw [iterateWelcomes, List.mem_filterMap] at hx
  obtain ⟨r, hr, hsome⟩ := hx
  split at hsome
  · split at hsome
    · cases hsome
    · obtain ⟨env, hdec, rfl⟩ := Option.map_eq_some_iff.mp hsome
      exact ⟨r.2, (Kp.mem_prefixScan.mp hr).1, hdec, rfl, rfl⟩
  · cases hsome

theorem eq_of_mem_iterateWelcomes {dht : Dht} {ipk ipk' : Bytes 32}
    {x y : Bytes STORAGE_KEY_LEN × WelcomeEnvelopeP × UInt64 × Nat}
    (hx : x ∈ iterateWelcomes crypto codec dht ipk) (hy : y ∈ iterateWelcomes crypto codec dht ipk')
    (hkey : x.1 = y.1) : x = y := by
  obtain ⟨v, hv, hdec, hexp, hlen⟩ := row_of_mem_iterateWelcomes hx
  obtain ⟨w, hw, hdec', hexp', hlen'⟩ := row_of_mem_iterateWelcomes hy
  -- one key holds one value, and the entry is read off the value
  have hvw : v = w := congrArg Prod.snd (SortedMap.eq_of_mem_of_key_eq hv hw (by rw [hkey]))
  subst hvw
  obtain ⟨k, env, expiresAtMs, storedLen⟩ := x
  obtain ⟨k', env', expiresAtMs', storedLen'⟩ := y
  dsimp only at hkey hdec hdec' hexp hexp' hlen hlen'
  rw [hdec] at hdec'
  cases hdec'
  rw [hkey, hexp, hexp', hlen, hlen']

theorem iterateWelcomes_of_rows_filter {dht₁ dht₂ : Dht} {p : List UInt8 → Bool}
    (h : dht₂.store.welcome.rows = dht₁.store.welcome.rows.filter fun r => p r.1) (ipk : Bytes 32) :
    iterateWelcomes crypto codec dht₂ ipk = (iterateWelcomes crypto codec dht₁ ipk).filter fun x => p x.1.1 := by
  unfold iterateWelcomes Keyspace.prefixScan SortedMap.scan
  rw [h, List.filter_filterMap, List.filter_filter, List.filterMap_filter, List.filterMap_filter]
  refine List.filterMap_congr fun r _ => ?_
  -- the listing keeps a row's key, so filtering rows or entries by it agrees
  dsimp only
  by_cases hq : (stashPrefix crypto ipk).1.isPrefixOf r.1 = true
  · by_cases hlen : r.1.length = STORAGE_KEY_LEN
    · by_cases h8 : r.2.length < 8
      · by_cases hp : p r.1 = true <;> simp [hq, hp, hlen, h8]
      · cases codec.deser (r.2.drop 8) <;> by_cases hp : p r.1 = true <;> simp [hq, hp, hlen, h8, Option.filter]
    · simp [hlen]
  · simp [hq]

theorem iterateWelcomes_insert_empty {dht : Dht} {ipk : Bytes 32} {wid : Bytes WELCOME_ID_LEN}
    {expiresAtMs : UInt64} {bytes : List UInt8} {env : WelcomeEnvelopeP}
    (hws : dht.store.welcome =
      SortedMap.empty.insert (storageKey crypto ipk wid).1 (Bytes.toBeBytes 8 expiresAtMs.toNat ++ bytes))
    (hdec : codec.deser bytes = some env) :
    iterateWelcomes crypto codec dht ipk = [(storageKey crypto ipk wid, env, expiresAtMs, 8 + bytes.length)] := by
  have hrows : dht.store.welcome.rows =
      [((storageKey crypto ipk wid).1, Bytes.toBeBytes 8 expiresAtMs.toNat ++ bytes)] := by
    rw [hws]
    rfl
  have hexp : UInt64.ofNat (Bytes.beValue (Bytes.toBeBytes 8 expiresAtMs.toNat)) = expiresAtMs := by
    rw [Bytes.beValue_toBeBytes,
      Nat.mod_eq_of_lt (show expiresAtMs.toNat < 256 ^ 8 from UInt64.toNat_lt expiresAtMs), UInt64.ofNat_toNat]
  unfold iterateWelcomes Keyspace.prefixScan SortedMap.scan
  rw [hrows, List.filter_cons_of_pos (by exact isPrefixOf_storageKey_iff.2 rfl), List.filter_nil, List.filterMap_cons,
    dif_pos (storageKey crypto ipk wid).2, if_neg (by simp), List.drop_left' (Bytes.length_toBeBytes 8 _), hdec,
    List.take_left' (Bytes.length_toBeBytes 8 _), hexp]
  simp

end Rows

section Handlers

variable (crypto : Crypto) (codec : Codec WelcomeEnvelopeP) (limiterOk : Bool) (dht : Dht)

theorem handleWelcomeFetch_rows (req : WelcomeFetchReq) (peer : NodeId) (nowMs : UInt64) :
    ∃ evicted : List (List UInt8),
      (∀ k ∈ evicted, ∃ x ∈ iterateWelcomes crypto codec dht req.userIpk, x.1.1 = k ∧ x.2.2.1 ≤ nowMs) ∧
      (handleWelcomeFetch crypto codec limiterOk dht req peer nowMs).2.store.welcome.rows =
        dht.store.welcome.rows.filter fun r => decide (r.1 ∉ evicted) := by
  rcases hown : selfIsOwnerForRecipient crypto dht req.userIpk with ⟨owner, dht'⟩
  have hstore : dht'.store = dht.store := by
    simpa [hown] using selfIsOwnerForRecipient_store crypto dht req.userIpk
  have hkeep : dht.store.welcome.rows =
      dht.store.welcome.rows.filter fun r => decide (r.1 ∉ ([] : List (List UInt8))) := by
    simp
  unfold handleWelcomeFetch
  simp only [hown]
  split_ifs
  · exact ⟨[], by simp, hkeep⟩
  · exact ⟨[], by simp, hkeep⟩
  · exact ⟨[], by simp, hkeep⟩
  · exact ⟨[], by simp, by rw [hstore]; exact hkeep⟩
  · exact ⟨[], by simp, by rw [hstore]; exact hkeep⟩
  · refine ⟨(collectLoop nowMs ⟨[], [], 0⟩ (iterateWelcomes crypto codec dht' req.userIpk)).toEvict.map (·.1),
      fun k hk => ?_, ?_⟩
    · obtain ⟨key, hkey, rfl⟩ := List.mem_map.1 hk
      rcases mem_toEvict_collectLoop hkey with h | ⟨x, hx, hxk, hexp⟩
      · simp at h
      · rw [iterateWelcomes_of_store hstore] at hx
        exact ⟨x, hx, by rw [hxk], hexp⟩
    · rw [Dht.setWelcome_welcome, SortedMap.rows_eraseAll, hstore]
      exact List.filter_congr fun _ _ => decide_eq_decide.2 Iff.rfl

theorem handleWelcomeAck_rows (req : WelcomeAckReq) (peer : NodeId) (nowMs : UInt64) :
    ∃ erased : List (List UInt8), (∀ k ∈ erased, ∃ id ∈ req.welcomeIds, (storageKey crypto req.userIpk id).1 = k) ∧
      (handleWelcomeAck crypto limiterOk dht req peer nowMs).2.store.welcome.rows =
        dht.store.welcome.rows.filter fun r => decide (r.1 ∉ erased) := by
  rcases hown : selfIsOwnerForRecipient crypto dht req.userIpk with ⟨owner, dht'⟩
  have hstore : dht'.store = dht.store := by
    simpa [hown] using selfIsOwnerForRecipient_store crypto dht req.userIpk
  have hkeep : dht.store.welcome.rows =
      dht.store.welcome.rows.filter fun r => decide (r.1 ∉ ([] : List (List UInt8))) := by
    simp
  unfold handleWelcomeAck
  simp only [hown]
  split_ifs
  · exact ⟨[], by simp, hkeep⟩
  · exact ⟨[], by simp, hkeep⟩
  · exact ⟨[], by simp, hkeep⟩
  · exact ⟨[], by simp, hkeep⟩
  · exact ⟨[], by simp, by rw [hstore]; exact hkeep⟩
  · exact ⟨[], by simp, by rw [hstore]; exact hkeep⟩
  · refine ⟨req.welcomeIds.map fun id => (storageKey crypto req.userIpk id).1, fun k hk => ?_, ?_⟩
    · obtain ⟨id, hid, rfl⟩ := List.mem_map.1 hk
      exact ⟨id, hid, rfl⟩
    · rw [Dht.setWelcome_welcome, SortedMap.rows_eraseAll, hstore]
      exact List.filter_congr fun _ _ => decide_eq_decide.2 Iff.rfl

variable {crypto codec dht} {req : WelcomeFetchReq} {peer : NodeId} {nowMs : UInt64}

theorem handleWelcomeFetch_of_checks (hbind : req.requesterRelayId = peer)
    (hskew : nowMs.absDiff req.timestamp ≤ MAX_KP_SKEW_MS)
    (howner : (selfIsOwnerForRecipient crypto dht req.userIpk).1 = true)
    (hsig : crypto.verifyStrict req.userIpk.1
      (welcomeFetchSigningInput MLS_WIRE_VERSION req.userIpk req.requesterRelayId req.timestamp) req.userSig.1 = true) :
    handleWelcomeFetch crypto codec true dht req peer nowMs =
      (.found ⟨(collectLoop nowMs ⟨[], [], 0⟩ (iterateWelcomes crypto codec dht req.userIpk)).welcomes⟩,
        (selfIsOwnerForRecipient crypto dht req.userIpk).2.setWelcome (dht.store.welcome.eraseAll
          ((collectLoop nowMs ⟨[], [], 0⟩ (iterateWelcomes crypto codec dht req.userIpk)).toEvict.map (·.1)))) := by
  rcases hown : selfIsOwnerForRecipient crypto dht req.userIpk with ⟨owner, dht'⟩
  rw [hown] at howner
  dsimp only at howner
  subst howner
  have hstore : dht'.store = dht.store := by
    simpa [hown] using selfIsOwnerForRecipient_store crypto dht req.userIpk
  unfold handleWelcomeFetch
  rw [if_neg (not_not.2 hbind), if_neg (UInt64.not_lt.2 hskew), hown]
  simp only [Bool.not_true, Bool.false_eq_true, if_false, hsig]
  rw [iterateWelcomes_of_store hstore, hstore]

end Handlers

section Blocked

variable {crypto : Crypto} {codec : Codec WelcomeEnvelopeP} {ipk : Bytes 32} {t₀ : UInt64}
  {e : Bytes STORAGE_KEY_LEN × WelcomeEnvelopeP × UInt64 × Nat}

/-- The row `e` is listed for `ipk` behind rows that have all expired by `t₀`. -/
def HeadsLive (crypto : Crypto) (codec : Codec WelcomeEnvelopeP) (ipk : Bytes 32) (t₀ : UInt64)
    (e : Bytes STORAGE_KEY_LEN × WelcomeEnvelopeP × UInt64 × Nat) (dht : Dht) : Prop :=
  ∃ pre post, iterateWelcomes crypto codec dht ipk = pre ++ e :: post ∧ ∀ x ∈ pre, x.2.2.1 ≤ t₀

def WelcomeOp.Spares (crypto : Crypto) (key : List UInt8) (expiresAtMs : UInt64) : WelcomeOp → Prop
  | .publish .. => False
  | .fetch _ _ _ nowMs => nowMs < expiresAtMs
  | .ack req _ _ _ => ∀ id ∈ req.welcomeIds, (storageKey crypto req.userIpk id).1 ≠ key

theorem HeadsLive.mem {dht : Dht} (h : HeadsLive crypto codec ipk t₀ e dht) :
    e ∈ iterateWelcomes crypto codec dht ipk := by
  obtain ⟨pre, post, hsplit, -⟩ := h
  rw [hsplit]
  exact List.mem_append_right _ List.mem_cons_self

theorem HeadsLive.of_rows_filter {dht dht' : Dht} (h : HeadsLive crypto codec ipk t₀ e dht) {ks : List (List UInt8)}
    (hrows : dht'.store.welcome.rows = dht.store.welcome.rows.filter fun r => decide (r.1 ∉ ks)) (he : e.1.1 ∉ ks) :
    HeadsLive crypto codec ipk t₀ e dht' := by
  obtain ⟨pre, post, hsplit, hpre⟩ := h
  refine ⟨pre.filter fun x => decide (x.1.1 ∉ ks), post.filter fun x => decide (x.1.1 ∉ ks), ?_,
    fun x hx => hpre x (List.mem_filter.1 hx).1⟩
  rw [iterateWelcomes_of_rows_filter (p := fun k => decide (k ∉ ks)) hrows, hsplit, List.filter_append, List.filter_cons_of_pos (by simpa using he)]

theorem HeadsLive.applyWelcomeOp {dht : Dht} (h : HeadsLive crypto codec ipk t₀ e dht) {op : WelcomeOp}
    (hop : op.Spares crypto e.1.1 e.2.2.1) : HeadsLive crypto codec ipk t₀ e (applyWelcomeOp crypto codec dht op) := by
  cases op with
  | publish req limiterOk nowMs => exact hop.elim
  | fetch req peer limiterOk nowMs =>
      obtain ⟨evicted, hev, hrows⟩ := handleWelcomeFetch_rows crypto codec limiterOk dht req peer nowMs
      refine h.of_rows_filter hrows fun hmem => ?_
      -- an evicted key was listed as expired, and the only entry under `e`'s key is `e`, still live
      obtain ⟨x, hx, hkey, hexp⟩ := hev _ hmem
      have hxe : x = e := eq_of_mem_iterateWelcomes hx h.mem (Subtype.ext hkey)
      rw [hxe] at hexp
      exact absurd hop (UInt64.not_lt.2 hexp)
  | ack req peer limiterOk nowMs =>
      obtain ⟨erased, herased, hrows⟩ := handleWelcomeAck_rows crypto limiterOk dht req peer nowMs
      refine h.of_rows_filter hrows fun hmem => ?_
      obtain ⟨id, hid, hkey⟩ := herased _ hmem
      exact hop id hid hkey

theorem handleWelcomeFetch_of_headsLive {dht : Dht} {req : WelcomeFetchReq} {peer : NodeId} {nowMs : UInt64}
    (h : HeadsLive crypto codec req.userIpk t₀ e dht) (hbig : WELCOME_FETCH_MAX_BYTES < e.2.2.2)
    (ht₀ : t₀ ≤ nowMs) (hlive : nowMs < e.2.2.1) (hbind : req.requesterRelayId = peer)
    (hskew : nowMs.absDiff req.timestamp ≤ MAX_KP_SKEW_MS)
    (howner : (selfIsOwnerForRecipient crypto dht req.userIpk).1 = true)
    (hsig : crypto.verifyStrict req.userIpk.1
      (welcomeFetchSigningInput MLS_WIRE_VERSION req.userIpk req.requesterRelayId req.timestamp) req.userSig.1 = true) :
    (handleWelcomeFetch crypto codec true dht req peer nowMs).1 = .found ⟨[]⟩ := by
  obtain ⟨pre, post, hsplit, hpre⟩ := h
  obtain ⟨key, env, expiresAtMs, storedLen⟩ := e
  rw [handleWelcomeFetch_of_checks hbind hskew howner hsig, hsplit,
    collectLoop_append_expired _ (fun x hx => UInt64.le_trans (hpre x hx) ht₀),
    collectLoop_cons_of_overrun _ hlive (.inr (by simpa using hbig))]

end Blocked

/-- A welcome row over `WELCOME_FETCH_MAX_BYTES` at the head of a recipient's live rows stops
every fetch: through any run of fetches before it expires and acks that do not name it, it
stays listed, live, and each fetch past its checks answers `Found` with no welcome at all. -/
theorem welcome_fetch_blocked (crypto : Crypto) (codec : Codec WelcomeEnvelopeP) {dht : Dht} {ipk : Bytes 32}
    {t₀ : UInt64} {e : Bytes STORAGE_KEY_LEN × WelcomeEnvelopeP × UInt64 × Nat}
    {pre post : List (Bytes STORAGE_KEY_LEN × WelcomeEnvelopeP × UInt64 × Nat)}
    (hsplit : iterateWelcomes crypto codec dht ipk = pre ++ e :: post) (hpre : ∀ x ∈ pre, x.2.2.1 ≤ t₀)
    (hbig : WELCOME_FETCH_MAX_BYTES < e.2.2.2) (ops : List WelcomeOp)
    (hops : ∀ op ∈ ops, op.Spares crypto e.1.1 e.2.2.1) :
    e ∈ iterateWelcomes crypto codec (ops.foldl (applyWelcomeOp crypto codec) dht) ipk ∧
      ∀ (req : WelcomeFetchReq) (peer : NodeId) (nowMs : UInt64), req.userIpk = ipk → t₀ ≤ nowMs →
        nowMs < e.2.2.1 → req.requesterRelayId = peer → nowMs.absDiff req.timestamp ≤ MAX_KP_SKEW_MS →
        (selfIsOwnerForRecipient crypto (ops.foldl (applyWelcomeOp crypto codec) dht) ipk).1 = true →
        crypto.verifyStrict ipk.1
          (welcomeFetchSigningInput MLS_WIRE_VERSION ipk req.requesterRelayId req.timestamp) req.userSig.1 = true →
        (handleWelcomeFetch crypto codec true (ops.foldl (applyWelcomeOp crypto codec) dht) req peer nowMs).1 =
          .found ⟨[]⟩ := by
  -- the run keeps `e` at the head of the live rows
  have hrun : HeadsLive crypto codec ipk t₀ e (ops.foldl (applyWelcomeOp crypto codec) dht) :=
    Reach.foldl_invariant (fun _ _ hop h => h.applyWelcomeOp hop) ⟨pre, post, hsplit, hpre⟩ hops
  refine ⟨hrun.mem, fun req peer nowMs hipk ht₀ hlive hbind hskew howner hsig => ?_⟩
  subst hipk
  exact handleWelcomeFetch_of_headsLive hrun hbig ht₀ hlive hbind hskew howner hsig

/-- Encodes `env` alone, in `WELCOME_FETCH_MAX_BYTES` bytes, as a pairing Welcome whose
`sender_name` fills the frame does; every byte string decodes to `env`. -/
def paddedCodec (env : WelcomeEnvelopeP) : Codec WelcomeEnvelopeP :=
  ⟨fun env' => if env' = env then some (List.replicate WELCOME_FETCH_MAX_BYTES 0) else none, fun _ => some env⟩

theorem paddedCodec_roundTrip (env : WelcomeEnvelopeP) : (paddedCodec env).RoundTrip :=
  Codec.RoundTrip.of_single env _ (fun _ => rfl) rfl

def paddedHome : Dht :=
  (handleWelcomePublish sumCrypto (paddedCodec (invite inviterA 1)) true
    (Dht.new (Bytes.replicate 32 0) 0 Store.empty) ⟨invite inviterA 1, 0⟩ 0).2

def paddedEntry : Bytes STORAGE_KEY_LEN × WelcomeEnvelopeP × UInt64 × Nat :=
  (storageKey sumCrypto inviteRecipient (welcomeId sumCrypto (invite inviterA 1)), invite inviterA 1,
    (0 : UInt64).saturatingAdd WELCOME_LIFETIME_MS, 8 + WELCOME_FETCH_MAX_BYTES)

def inviteeFetch : WelcomeFetchReq :=
  ⟨inviteRecipient, Bytes.replicate 32 9, 1, Bytes.replicate 64 0⟩

def fetchAckRound : List WelcomeOp :=
  [.fetch inviteeFetch inviteeFetch.requesterRelayId true 1,
    .ack ⟨inviteRecipient, inviteeFetch.requesterRelayId, [], 1, Bytes.replicate 64 0⟩
      inviteeFetch.requesterRelayId true 1]

theorem welcome_fetch_blocked_padded :
    (paddedCodec (invite inviterA 1)).RoundTrip ∧
      iterateWelcomes sumCrypto (paddedCodec (invite inviterA 1)) paddedHome inviteRecipient = [] ++ paddedEntry :: [] ∧
      WELCOME_FETCH_MAX_BYTES < paddedEntry.2.2.2 ∧
      (∀ op ∈ fetchAckRound, op.Spares sumCrypto paddedEntry.1.1 paddedEntry.2.2.1) ∧
      paddedEntry ∈ iterateWelcomes sumCrypto (paddedCodec (invite inviterA 1))
        (fetchAckRound.foldl (applyWelcomeOp sumCrypto (paddedCodec (invite inviterA 1))) paddedHome) inviteRecipient ∧
      (handleWelcomeFetch sumCrypto (paddedCodec (invite inviterA 1)) true
        (fetchAckRound.foldl (applyWelcomeOp sumCrypto (paddedCodec (invite inviterA 1))) paddedHome)
        inviteeFetch inviteeFetch.requesterRelayId 1).1 = .found ⟨[]⟩ := by
  have hws : paddedHome.store.welcome =
      SortedMap.empty.insert (storageKey sumCrypto inviteRecipient (welcomeId sumCrypto (invite inviterA 1))).1
        (Bytes.toBeBytes 8 ((0 : UInt64).saturatingAdd WELCOME_LIFETIME_MS).toNat ++
          List.replicate WELCOME_FETCH_MAX_BYTES 0) := by
    rcases handleWelcomePublish_cases sumCrypto (paddedCodec (invite inviterA 1)) true
        (Dht.new (Bytes.replicate 32 0) 0 Store.empty) ⟨invite inviterA 1, 0⟩ 0 with hsame | ⟨bytes, hser, -, heq⟩
    · -- the publish was stored: there is a row where there was none
      have hone : paddedHome.store.welcome.rows.length = 1 := by decide +kernel
      rw [paddedHome, hsame] at hone
      cases hone
    · have hbytes : bytes = List.replicate WELCOME_FETCH_MAX_BYTES 0 := by
        simpa [paddedCodec] using hser.symm
      rw [paddedHome, heq, hbytes]
      rfl
  have hsplit : iterateWelcomes sumCrypto (paddedCodec (invite inviterA 1)) paddedHome inviteRecipient =
      [] ++ paddedEntry :: [] := by
    rw [iterateWelcomes_insert_empty hws rfl, List.length_replicate]
    rfl
  have hops : ∀ op ∈ fetchAckRound, op.Spares sumCrypto paddedEntry.1.1 paddedEntry.2.2.1 := by
    intro op hop
    simp only [fetchAckRound, List.mem_cons, List.not_mem_nil, or_false] at hop
    rcases hop with rfl | rfl
    · show (1 : UInt64) < (0 : UInt64).saturatingAdd WELCOME_LIFETIME_MS
      decide
    · intro id hid
      simp at hid
  have hbig : WELCOME_FETCH_MAX_BYTES < paddedEntry.2.2.2 := Nat.lt_add_of_pos_left (by decide)
  have hblocked := @welcome_fetch_blocked sumCrypto (paddedCodec (invite inviterA 1)) _ _ 1 _ _ _ hsplit
    (fun _ h => absurd h List.not_mem_nil) hbig fetchAckRound hops
  exact ⟨paddedCodec_roundTrip _, hsplit, hbig, hops, hblocked.1,
    hblocked.2 inviteeFetch _ 1 rfl (by decide) (by decide) rfl (by decide) (by decide +kernel) rfl⟩

end Welcome

end Promtuz
