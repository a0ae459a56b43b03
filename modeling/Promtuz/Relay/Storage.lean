import Promtuz.Lib.Bytes
import Promtuz.Lib.SortedMap

namespace Promtuz

abbrev Keyspace := SortedMap (List UInt8) (List UInt8)

/-- Byte order's `<` agrees with its `≤`, named once for every keyspace operation. -/
instance instLawfulOrderLTKey : Std.LawfulOrderLT (List UInt8) := inferInstance

def Keyspace.prefixScan (ks : Keyspace) (p : List UInt8) : List (List UInt8 × List UInt8) :=
  ks.scan fun k => p.isPrefixOf k

/-- `be_u64`: the eight big-endian bytes at `offset`, when the value has them. -/
def beU64 (value : List UInt8) (offset : Nat) : Option Nat :=
  if offset + 8 ≤ value.length then some (Bytes.beValue ((value.drop offset).take 8)) else none

theorem beU64_of_toBeBytes (pre post : List UInt8) (x : UInt64) :
    beU64 (pre ++ Bytes.toBeBytes 8 x.toNat ++ post) pre.length = some x.toNat := by
  have hlen : (Bytes.toBeBytes 8 x.toNat).length = 8 := Bytes.length_toBeBytes 8 _
  have hfits : pre.length + 8 ≤ (pre ++ Bytes.toBeBytes 8 x.toNat ++ post).length := by
    simp only [List.length_append, hlen]
    omega
  rw [beU64, if_pos hfits, List.append_assoc, List.drop_left, List.take_left' hlen, Bytes.beValue_toBeBytes,
    Nat.mod_eq_of_lt (show x.toNat < 256 ^ 8 from x.toNat_lt)]

/-- The relay's `Store`: the four keyspaces the modelled handlers touch. -/
structure Store where
  messages : Keyspace
  queue : Keyspace
  keypackage : Keyspace
  welcome : Keyspace

/-- `Store::open` on a fresh directory. -/
def Store.empty : Store := ⟨.empty, .empty, .empty, .empty⟩

def MAX_QUEUED_PER_RECIPIENT : Nat := 1024

/-- `storage::MessageKey`: `recipient(32) || ts_be(8) || id(16)`. -/
structure MessageKey where
  recipient : Bytes 32
  tsBe : Bytes 8
  id : Bytes 16
  deriving DecidableEq

namespace MessageKey

def SIZE : Nat := 56

def new (recipient : Bytes 32) (tsMs : UInt64) (id : Bytes 16) : MessageKey :=
  ⟨recipient, ⟨Bytes.toBeBytes 8 tsMs.toNat, Bytes.length_toBeBytes 8 _⟩, id⟩

def asBytes (k : MessageKey) : List UInt8 := k.recipient.1 ++ k.tsBe.1 ++ k.id.1

def parse (bytes : List UInt8) : Option MessageKey :=
  if h : bytes.length = SIZE then
    some ⟨⟨bytes.take 32, by simp [h, SIZE]⟩, ⟨(bytes.drop 32).take 8, by simp [h, SIZE]⟩,
      ⟨bytes.drop 40, by simp [h, SIZE]⟩⟩
  else none

theorem length_take_recipient {bytes : List UInt8} (h : bytes.length = SIZE) : (bytes.take 32).length = 32 := by
  simp [h, SIZE]

@[simp] theorem length_asBytes (k : MessageKey) : k.asBytes.length = SIZE := by
  simp [asBytes, k.recipient.2, k.tsBe.2, k.id.2, SIZE]

theorem parse_asBytes (k : MessageKey) : parse k.asBytes = some k := by
  obtain ⟨⟨r, hr⟩, ⟨t, ht⟩, ⟨i, hi⟩⟩ := k
  simp [parse, asBytes, SIZE, hr, ht, hi, List.drop_append]

theorem parse_eq_none {bytes : List UInt8} (h : bytes.length ≠ SIZE) : parse bytes = none := by
  simp [parse, h]

theorem asBytes_injective {k₁ k₂ : MessageKey} (h : k₁.asBytes = k₂.asBytes) : k₁ = k₂ := by
  have := parse_asBytes k₁
  rw [h, parse_asBytes] at this
  exact (Option.some.inj this).symm

@[simp] theorem recipient_new (recipient : Bytes 32) (tsMs : UInt64) (id : Bytes 16) :
    (new recipient tsMs id).recipient = recipient := rfl

@[simp] theorem id_new (recipient : Bytes 32) (tsMs : UInt64) (id : Bytes 16) :
    (new recipient tsMs id).id = id := rfl

@[simp] theorem beValue_tsBe_new (recipient : Bytes 32) (tsMs : UInt64) (id : Bytes 16) :
    Bytes.beValue (new recipient tsMs id).tsBe.1 = tsMs.toNat := by
  simp only [new, Bytes.beValue_toBeBytes]
  exact Nat.mod_eq_of_lt (by simpa using tsMs.toNat_lt)

theorem tsBe_lt_tsBe_new_iff {r r' : Bytes 32} {t t' : UInt64} {i i' : Bytes 16} :
    (new r t i).tsBe.1 < (new r' t' i').tsBe.1 ↔ t < t' := by
  rw [Bytes.lt_iff_beValue_lt ((new r t i).tsBe.2.trans (new r' t' i').tsBe.2.symm),
    beValue_tsBe_new, beValue_tsBe_new, UInt64.lt_iff_toNat_lt]

theorem tsBe_new_inj {r r' : Bytes 32} {t t' : UInt64} {i i' : Bytes 16} :
    (new r t i).tsBe = (new r' t' i').tsBe ↔ t = t' := by
  constructor
  · intro h
    have hv := congrArg (fun b : Bytes 8 => Bytes.beValue b.1) h
    simp only [beValue_tsBe_new] at hv
    exact UInt64.toNat_inj.mp hv
  · rintro rfl
    rfl

theorem new_inj {r r' : Bytes 32} {t t' : UInt64} {i i' : Bytes 16} :
    new r t i = new r' t' i' ↔ r = r' ∧ t = t' ∧ i = i' := by
  constructor
  · intro h
    have hts : (new r t i).tsBe = (new r' t' i').tsBe := by rw [h]
    exact ⟨congrArg recipient h, tsBe_new_inj.1 hts, congrArg MessageKey.id h⟩
  · rintro ⟨rfl, rfl, rfl⟩
    rfl

theorem asBytes_lt_asBytes_iff (k k' : MessageKey) :
    k.asBytes < k'.asBytes ↔ k.recipient.1 < k'.recipient.1 ∨
      k.recipient = k'.recipient ∧ (k.tsBe.1 < k'.tsBe.1 ∨ k.tsBe = k'.tsBe ∧ k.id.1 < k'.id.1) := by
  rw [asBytes, asBytes, List.append_assoc, List.append_assoc,
    Bytes.append_lt_append_iff (k.recipient.2.trans k'.recipient.2.symm),
    Bytes.append_lt_append_iff (k.tsBe.2.trans k'.tsBe.2.symm), Subtype.ext_iff, Subtype.ext_iff]

def keyId (keyBytes : List UInt8) : List UInt8 := (keyBytes.drop 40).take 16

end MessageKey

end Promtuz
