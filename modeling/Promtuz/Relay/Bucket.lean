import Promtuz.Relay.HomeSet
import Promtuz.Lib.Bits

/-! Bucket geometry (`dht/routing.rs`): `bucket_for` is the position of the top set bit of the
XOR distance, and `random_id_in_bucket` lands in the bucket it is asked for. -/

namespace Promtuz

open Routing

section Lzc

theorem lzcLoop_eq (l : List UInt8) :
    lzcLoop l = if Bytes.beValue l = 0 then 8 * l.length else 8 * l.length - 1 - (Bytes.beValue l).log2 := by
  induction l with
  | nil => rfl
  | cons x xs ih =>
      rw [Bytes.beValue_cons, List.length_cons]
      by_cases hx : x = 0
      · -- a zero byte adds eight and leaves the value
        have hz : lzcLoop (x :: xs) = 8 + lzcLoop xs := by rw [lzcLoop, if_pos hx]
        rw [hz, ih, hx, UInt8.toNat_zero, Nat.mul_zero, Nat.zero_add]
        by_cases hv : Bytes.beValue xs = 0
        · rw [if_pos hv, if_pos hv]
          omega
        · have hlog := (Nat.log2_lt hv).2 (Bytes.beValue_lt_two_pow xs)
          rw [if_neg hv, if_neg hv]
          omega
      · -- the first non-zero byte holds the top set bit
        have hx0 : x.toNat ≠ 0 := fun h => hx (UInt8.toNat_inj.1 (h.trans UInt8.toNat_zero.symm))
        have hlog : x.toNat.log2 < 8 := (Nat.log2_lt hx0).2 (UInt8.toNat_lt x)
        have hr := Bytes.beValue_lt_two_pow xs
        have hv : 2 ^ (8 * xs.length) * x.toNat + Bytes.beValue xs ≠ 0 :=
          Nat.ne_of_gt (Nat.lt_of_lt_of_le (Nat.mul_pos (Nat.two_pow_pos _) (Nat.pos_of_ne_zero hx0))
            (Nat.le_add_right _ _))
        have hvlog : (2 ^ (8 * xs.length) * x.toNat + Bytes.beValue xs).log2 = 8 * xs.length + x.toNat.log2 := by
          rw [Nat.log2_eq_iff hv]
          constructor
          · calc 2 ^ (8 * xs.length + x.toNat.log2) = 2 ^ (8 * xs.length) * 2 ^ x.toNat.log2 := Nat.pow_add _ _ _
              _ ≤ 2 ^ (8 * xs.length) * x.toNat := Nat.mul_le_mul_left _ (Nat.log2_self_le hx0)
              _ ≤ _ := Nat.le_add_right _ _
          · calc 2 ^ (8 * xs.length) * x.toNat + Bytes.beValue xs < 2 ^ (8 * xs.length) * (x.toNat + 1) := by
                  rw [Nat.mul_add_one]
                  omega
              _ ≤ 2 ^ (8 * xs.length) * 2 ^ (x.toNat.log2 + 1) := Nat.mul_le_mul_left _ Nat.lt_log2_self
              _ = 2 ^ (8 * xs.length + x.toNat.log2 + 1) := by rw [← Nat.pow_add, Nat.add_assoc]
        rw [lzcLoop, if_neg hx, leadingZeros, if_neg hx, if_neg hv, hvlog]
        omega

end Lzc

section Geometry

variable (selfId peerId : NodeId)

theorem distance_comm : distance selfId peerId = distance peerId selfId := by
  show Bytes.beValue (Bytes.xorBytes selfId.1 peerId.1) = Bytes.beValue (Bytes.xorBytes peerId.1 selfId.1)
  rw [Bytes.xorBytes_comm]

theorem map_val_bucketFor :
    (bucketFor selfId peerId).map Fin.val =
      if distance selfId peerId = 0 then none else some (distance selfId peerId).log2 := by
  have hlen : (Bytes.xorBytes selfId.1 peerId.1).length = 32 := (xor32 selfId peerId).2
  have hdist : distance selfId peerId = Bytes.beValue (Bytes.xorBytes selfId.1 peerId.1) := rfl
  have hlzc := lzcLoop_eq (Bytes.xorBytes selfId.1 peerId.1)
  rw [hlen, ← hdist] at hlzc
  unfold bucketFor
  dsimp only
  by_cases hd : distance selfId peerId = 0
  · rw [if_pos hd] at hlzc ⊢
    simp only [hlzc]
    rfl
  · have hlt : distance selfId peerId < 2 ^ 256 := by
      have h := Bytes.beValue_lt_two_pow (Bytes.xorBytes selfId.1 peerId.1)
      rwa [hlen, ← hdist] at h
    have hlog := (Nat.log2_lt hd).2 hlt
    rw [if_neg hd] at hlzc ⊢
    simp only [hlzc]
    rw [if_neg (by omega), Option.map_some]
    congr 1
    show 256 - 1 - (8 * 32 - 1 - _) = _
    omega

theorem distance_self (x : NodeId) : distance x x = 0 := by
  have h := map_val_bucketFor x x
  rw [bucketFor_self, Option.map_none] at h
  by_contra hd
  rw [if_neg hd] at h
  exact Option.some_ne_none _ h.symm

theorem distance_eq_zero_iff : distance selfId peerId = 0 ↔ peerId = selfId := by
  constructor
  · intro h
    exact (distance_left_inj (h.trans (distance_self peerId).symm)).symm
  · rintro rfl
    exact distance_self _

theorem bucketFor_eq_none_iff : bucketFor selfId peerId = none ↔ peerId = selfId := by
  rw [← distance_eq_zero_iff, ← Option.map_eq_none_iff, map_val_bucketFor]
  by_cases hd : distance selfId peerId = 0
  · exact iff_of_true (if_pos hd) hd
  · rw [if_neg hd]
    exact iff_of_false (fun h => Option.some_ne_none _ h) hd

theorem map_val_bucketFor_eq_some_iff (i : Nat) :
    (bucketFor selfId peerId).map Fin.val = some i ↔
      2 ^ i ≤ distance selfId peerId ∧ distance selfId peerId < 2 ^ (i + 1) := by
  rw [map_val_bucketFor]
  by_cases hd : distance selfId peerId = 0
  · rw [if_pos hd, hd]
    exact iff_of_false (fun h => Option.some_ne_none _ h.symm) fun h => Nat.not_le.2 (Nat.two_pow_pos i) h.1
  · rw [if_neg hd, Option.some_inj, Nat.log2_eq_iff hd]

theorem bucketFor_comm : bucketFor selfId peerId = bucketFor peerId selfId := by
  apply Option.map_injective fun a b h => Fin.ext h
  rw [map_val_bucketFor, map_val_bucketFor, distance_comm]

theorem testBit_distance {p : Nat} (hp : p < 256) :
    (distance selfId peerId).testBit p = (Bytes.bitAt selfId.1 (255 - p) ^^ Bytes.bitAt peerId.1 (255 - p)) := by
  have hlen : (Bytes.xorBytes selfId.1 peerId.1).length = 32 := (xor32 selfId peerId).2
  have h := Bytes.testBit_beValue (Bytes.xorBytes selfId.1 peerId.1) (b := 255 - p) (by rw [hlen]; omega)
  rw [hlen, show 8 * 32 - 1 - (255 - p) = p by omega,
    Bytes.bitAt_xorBytes (selfId.2.trans peerId.2.symm)] at h
  exact h

theorem testBit_distance_of_le {p : Nat} (hp : 256 ≤ p) : (distance selfId peerId).testBit p = false := by
  have hlen : (Bytes.xorBytes selfId.1 peerId.1).length = 32 := (xor32 selfId peerId).2
  exact Bytes.testBit_beValue_of_le (l := Bytes.xorBytes selfId.1 peerId.1) (by rw [hlen]; omega)

end Geometry

section RandomId

variable (noise : Bytes 32)

theorem bitAt_copyNoiseBit (out : List UInt8) (bit c : Nat) :
    Bytes.bitAt (copyNoiseBit noise out bit) c =
      if c = bit ∧ bit / 8 < out.length then Bytes.bitAt noise.1 c else Bytes.bitAt out c := by
  rw [copyNoiseBit, Bytes.bitAt_modify]
  by_cases hc : c / 8 = bit / 8 ∧ bit / 8 < out.length
  · -- the bit lies in the byte the pass rewrites
    obtain ⟨h8, hlen⟩ := hc
    rw [if_pos ⟨h8, hlen⟩, bitMask, Bytes.testBit_blend_topMask _ _ (Nat.mod_lt _ (by decide)) (by omega)]
    by_cases hb : c = bit
    · rw [if_pos (by omega), if_pos ⟨hb, hlen⟩, Bytes.bitAt, h8]
    · rw [if_neg (by omega), if_neg (fun h => hb h.1), Bytes.bitAt, h8]
  · have hb : ¬(c = bit ∧ bit / 8 < out.length) := fun h => hc ⟨by rw [h.1], h.2⟩
    rw [if_neg hc, if_neg hb]

theorem bitAt_foldl_copyNoiseBit (bits : List Nat) (out : List UInt8) {c : Nat} (hc : c ∉ bits) :
    Bytes.bitAt (bits.foldl (copyNoiseBit noise) out) c = Bytes.bitAt out c := by
  induction bits generalizing out with
  | nil => rfl
  | cons bit bits ih =>
      have hne : ¬(c = bit ∧ bit / 8 < out.length) := fun h => hc (h.1 ▸ List.mem_cons_self)
      rw [List.foldl_cons, ih _ (fun h => hc (List.mem_cons_of_mem _ h)), bitAt_copyNoiseBit, if_neg hne]

theorem bitAt_flip (out : List UInt8) {firstDiff : Nat} (h : firstDiff / 8 < out.length) (c : Nat) :
    Bytes.bitAt (out.modify (firstDiff / 8) (· ^^^ bitMask firstDiff)) c =
      (Bytes.bitAt out c ^^ decide (c = firstDiff)) := by
  rw [Bytes.bitAt_modify]
  by_cases hc : c / 8 = firstDiff / 8
  · have hiff : firstDiff % 8 + (7 - c % 8) = 7 ↔ c = firstDiff := ⟨fun _ => by omega, fun _ => by omega⟩
    rw [if_pos ⟨hc, h⟩, bitMask, Bytes.testBit_xor_topMask _ (Nat.mod_lt _ (by decide)), Bytes.bitAt, hc,
      decide_eq_decide.2 hiff]
  · rw [if_neg fun h' => hc h'.1, decide_eq_false fun h' => hc (by rw [h']), Bool.xor_false]

theorem randomIdInBucket_of_le (selfId : NodeId) {bucketIdx : Nat} (h : BUCKETS ≤ bucketIdx)
    (fill : Option (Bytes 32)) : randomIdInBucket selfId bucketIdx fill = none := by
  rw [randomIdInBucket, if_pos h]

theorem bitAt_randomIdInBucket {selfId : NodeId} {bucketIdx : Nat} (h : bucketIdx < BUCKETS) {t : NodeId}
    (ht : randomIdInBucket selfId bucketIdx (some noise) = some t) {c : Nat} (hc : c ≤ BUCKETS - 1 - bucketIdx) :
    Bytes.bitAt t.1 c = (Bytes.bitAt selfId.1 c ^^ decide (c = BUCKETS - 1 - bucketIdx)) := by
  have hB : BUCKETS = 256 := rfl
  rw [randomIdInBucket, if_neg (Nat.not_le.2 h), Option.map_some] at ht
  have ht' := Option.some.inj ht
  subst ht'
  have hnot : c ∉ List.range' (BUCKETS - 1 - bucketIdx + 1) (BUCKETS - (BUCKETS - 1 - bucketIdx + 1)) := by
    rw [List.mem_range'_1]
    omega
  rw [bitAt_foldl_copyNoiseBit noise _ _ hnot, bitAt_flip _ (by rw [selfId.2]; omega)]

theorem bucketFor_randomIdInBucket (selfId : NodeId) {bucketIdx : Nat} (h : bucketIdx < BUCKETS) :
    ∃ t, randomIdInBucket selfId bucketIdx (some noise) = some t ∧
      (bucketFor selfId t).map Fin.val = some bucketIdx := by
  have hB : BUCKETS = 256 := rfl
  obtain ⟨t, ht⟩ : ∃ t, randomIdInBucket selfId bucketIdx (some noise) = some t := by
    rw [randomIdInBucket, if_neg (Nat.not_le.2 h), Option.map_some]
    exact ⟨_, rfl⟩
  refine ⟨t, ht, (map_val_bucketFor_eq_some_iff selfId t bucketIdx).2 ⟨?_, ?_⟩⟩
  · -- bit `bucketIdx` of the distance is set: `t` differs from `selfId` at `first_diff`
    apply Nat.ge_two_pow_of_testBit
    rw [testBit_distance selfId t (by omega), bitAt_randomIdInBucket noise h ht (by omega),
      decide_eq_true (by omega)]
    cases Bytes.bitAt selfId.1 (255 - bucketIdx) <;> rfl
  · -- every higher bit is clear: `t` agrees with `selfId` above `first_diff`
    apply Nat.lt_pow_two_of_testBit
    intro p hp
    by_cases hp256 : p < 256
    · rw [testBit_distance selfId t hp256, bitAt_randomIdInBucket noise h ht (by omega),
        decide_eq_false (by omega), Bool.xor_false, Bool.xor_self]
    · exact testBit_distance_of_le selfId t (by omega)

end RandomId

theorem bucket_geometry (selfId peerId : NodeId) :
    (bucketFor selfId peerId = none ↔ peerId = selfId) ∧
      (∀ i : Nat, (bucketFor selfId peerId).map Fin.val = some i ↔
        2 ^ i ≤ distance selfId peerId ∧ distance selfId peerId < 2 ^ (i + 1)) ∧
      (∀ i : Nat, 2 ^ i ≤ distance selfId peerId → distance selfId peerId < 2 ^ (i + 1) → i < BUCKETS) ∧
      bucketFor selfId peerId = bucketFor peerId selfId ∧
      (∀ (bucketIdx : Nat) (noise : Bytes 32), bucketIdx < BUCKETS →
        ∃ t, randomIdInBucket selfId bucketIdx (some noise) = some t ∧
          (bucketFor selfId t).map Fin.val = some bucketIdx) ∧
      ∀ (bucketIdx : Nat) (fill : Option (Bytes 32)), BUCKETS ≤ bucketIdx →
        randomIdInBucket selfId bucketIdx fill = none := by
  refine ⟨bucketFor_eq_none_iff selfId peerId, map_val_bucketFor_eq_some_iff selfId peerId, ?_,
    bucketFor_comm selfId peerId, fun _ noise h => bucketFor_randomIdInBucket noise selfId h,
    fun _ fill h => randomIdInBucket_of_le selfId h fill⟩
  -- a window of the distance is a bucket, and buckets are below `BUCKETS`
  intro i hlo hhi
  obtain ⟨j, -, rfl⟩ := Option.map_eq_some_iff.1 ((map_val_bucketFor_eq_some_iff selfId peerId i).2 ⟨hlo, hhi⟩)
  exact j.2

end Promtuz
