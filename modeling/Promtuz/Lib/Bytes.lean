import Mathlib

abbrev Bytes (n : Nat) := {l : List UInt8 // l.length = n}

namespace Bytes

instance (n : Nat) : LT (Bytes n) := ⟨fun a b => a.1 < b.1⟩

instance (n : Nat) : DecidableLT (Bytes n) := fun a b => inferInstanceAs (Decidable (a.1 < b.1))

def replicate (n : Nat) (b : UInt8) : Bytes n := ⟨List.replicate n b, List.length_replicate⟩

/- Byte strings compare by their bytes. The instances are named once here, so that every
`contains` and `∈` on them refers to the same ones. -/
instance instLawfulBEqList : LawfulBEq (List UInt8) := inferInstance

instance instLawfulBEq16 : LawfulBEq (Bytes 16) := inferInstance

instance instLawfulBEq32 : LawfulBEq (Bytes 32) := inferInstance

theorem eq_append_drop_of_isPrefixOf {n : Nat} {u : Bytes n} {k : List UInt8}
    (h : u.1.isPrefixOf k = true) : k = u.1 ++ k.drop n := by
  have hp := List.prefix_iff_eq_append.mp (List.isPrefixOf_iff_prefix.mp h)
  rw [u.2] at hp
  exact hp.symm

theorem isPrefixOf_append_iff {n : Nat} {u r : Bytes n} {rest : List UInt8} :
    u.1.isPrefixOf (r.1 ++ rest) = true ↔ u = r := by
  rw [List.isPrefixOf_iff_prefix]
  constructor
  · intro h
    have hp := List.prefix_of_prefix_length_le h (List.prefix_append r.1 rest)
      (Nat.le_of_eq (u.2.trans r.2.symm))
    exact Subtype.ext (hp.eq_of_length (by rw [u.2, r.2]))
  · rintro rfl
    exact List.prefix_append _ _

def beValue : List UInt8 → Nat
  | [] => 0
  | b :: bs => b.toNat * 256 ^ bs.length + beValue bs

theorem beValue_lt (l : List UInt8) : beValue l < 256 ^ l.length := by
  induction l with
  | nil => simp [beValue]
  | cons b bs ih =>
      have hb : b.toNat + 1 ≤ 256 := b.toNat_lt
      calc beValue (b :: bs) = b.toNat * 256 ^ bs.length + beValue bs := rfl
        _ < b.toNat * 256 ^ bs.length + 256 ^ bs.length := by omega
        _ = (b.toNat + 1) * 256 ^ bs.length := by rw [Nat.add_mul, Nat.one_mul]
        _ ≤ 256 * 256 ^ bs.length := Nat.mul_le_mul_right _ hb
        _ = 256 ^ (b :: bs).length := by rw [List.length_cons, Nat.pow_succ, Nat.mul_comm]

theorem beValue_lt_of_head_lt {x y : UInt8} {xs ys : List UInt8} (hl : xs.length = ys.length)
    (h : x < y) : beValue (x :: xs) < beValue (y :: ys) := by
  have hxy : x.toNat + 1 ≤ y.toNat := UInt8.lt_iff_toNat_lt.1 h
  have hx := beValue_lt xs
  rw [hl] at hx
  calc beValue (x :: xs) = x.toNat * 256 ^ ys.length + beValue xs := by rw [beValue, hl]
    _ < (x.toNat + 1) * 256 ^ ys.length := by rw [Nat.add_mul, Nat.one_mul]; omega
    _ ≤ y.toNat * 256 ^ ys.length := Nat.mul_le_mul_right _ hxy
    _ ≤ beValue (y :: ys) := Nat.le_add_right _ _

theorem lt_iff_beValue_lt {a b : List UInt8} (h : a.length = b.length) :
    a < b ↔ beValue a < beValue b := by
  induction a generalizing b with
  | nil =>
      cases b with
      | nil => simp [beValue]
      | cons y ys => simp at h
  | cons x xs ih =>
      cases b with
      | nil => simp at h
      | cons y ys =>
          have hl : xs.length = ys.length := by simpa using h
          rw [List.cons_lt_cons_iff]
          rcases Std.lt_trichotomy x y with hxy | rfl | hxy
          · exact iff_of_true (.inl hxy) (beValue_lt_of_head_lt hl hxy)
          · have hne : ¬ x < x := Std.lt_irrefl
            simp only [hne, true_and, false_or, beValue, hl, Nat.add_lt_add_iff_left]
            exact ih hl
          · have hyx := beValue_lt_of_head_lt hl.symm hxy
            have hn : ¬ x < y := fun h' => Std.lt_irrefl (Std.lt_trans h' hxy)
            have hne : x ≠ y := fun he => Std.lt_irrefl (he ▸ hxy)
            exact iff_of_false (by simp [hn, hne]) (by omega)

theorem append_lt_append_iff {a b x y : List UInt8} (h : a.length = b.length) :
    a ++ x < b ++ y ↔ a < b ∨ a = b ∧ x < y := by
  induction a generalizing b with
  | nil =>
      cases b with
      | nil => simp
      | cons d ds => simp at h
  | cons c cs ih =>
      cases b with
      | nil => simp at h
      | cons d ds =>
          have hl : cs.length = ds.length := by simpa using h
          simp only [List.cons_append, List.cons_lt_cons_iff, ih hl, List.cons.injEq]
          constructor
          · rintro (hcd | ⟨rfl, hcs | ⟨rfl, hxy⟩⟩)
            · exact .inl (.inl hcd)
            · exact .inl (.inr ⟨rfl, hcs⟩)
            · exact .inr ⟨⟨rfl, rfl⟩, hxy⟩
          · rintro ((hcd | ⟨rfl, hcs⟩) | ⟨⟨rfl, rfl⟩, hxy⟩)
            · exact .inl hcd
            · exact .inr ⟨rfl, .inl hcs⟩
            · exact .inr ⟨rfl, .inr ⟨rfl, hxy⟩⟩

theorem le_iff_beValue_le {a b : List UInt8} (h : a.length = b.length) :
    a ≤ b ↔ beValue a ≤ beValue b := by
  rw [← List.not_lt, lt_iff_beValue_lt h.symm, Nat.not_lt]

theorem beValue_injective {a b : List UInt8} (h : a.length = b.length)
    (hv : beValue a = beValue b) : a = b := by
  rcases Std.lt_trichotomy a b with hab | hab | hab
  · exact absurd hv (Nat.ne_of_lt ((lt_iff_beValue_lt h).1 hab))
  · exact hab
  · exact absurd hv.symm (Nat.ne_of_lt ((lt_iff_beValue_lt h.symm).1 hab))

def xorBytes (a b : List UInt8) : List UInt8 := List.zipWith (· ^^^ ·) a b

@[simp] theorem length_xorBytes (a b : List UInt8) :
    (xorBytes a b).length = min a.length b.length := by
  simp [xorBytes]

theorem xorBytes_left_inj {a b t : List UInt8} (ha : a.length = t.length) (hb : b.length = t.length)
    (h : xorBytes a t = xorBytes b t) : a = b := by
  induction t generalizing a b with
  | nil => rw [List.length_eq_zero_iff.1 ha, List.length_eq_zero_iff.1 hb]
  | cons z zs ih =>
      cases a with
      | nil => simp at ha
      | cons x xs =>
          cases b with
          | nil => simp at hb
          | cons y ys =>
              simp only [xorBytes, List.zipWith_cons_cons, List.cons.injEq, UInt8.xor_left_inj] at h
              obtain ⟨rfl, h⟩ := h
              rw [ih (by simpa using ha) (by simpa using hb) h]

/-- The `n` low bytes of `x`, most significant first: `to_be_bytes`. -/
def toBeBytes : Nat → Nat → List UInt8
  | 0, _ => []
  | n + 1, x => UInt8.ofNat (x / 256 ^ n) :: toBeBytes n x

@[simp] theorem length_toBeBytes (n x : Nat) : (toBeBytes n x).length = n := by
  induction n with
  | zero => rfl
  | succ n ih => simp [toBeBytes, ih]

theorem beValue_toBeBytes (n x : Nat) : beValue (toBeBytes n x) = x % 256 ^ n := by
  induction n with
  | zero => simp [toBeBytes, beValue, Nat.mod_one]
  | succ n ih =>
      rw [toBeBytes, beValue, ih, length_toBeBytes, UInt8.toNat_ofNat',
        Nat.mod_pow_succ (b := 256), Nat.add_comm, Nat.mul_comm]

end Bytes

structure Codec (α : Type) where
  ser : α → Option (List UInt8)
  deser : List UInt8 → Option α

/-- Decoding an encoding gives the value back. -/
def Codec.RoundTrip {α : Type} (c : Codec α) : Prop := ∀ a b, c.ser a = some b → c.deser b = some a

theorem Codec.RoundTrip.of_single {α : Type} [DecidableEq α] {c : Codec α} (a : α) (b : List UInt8)
    (hser : ∀ x, c.ser x = if x = a then some b else none) (hdeser : c.deser b = some a) : c.RoundTrip := by
  intro x bytes h
  rw [hser] at h
  split_ifs at h with hx
  cases h
  rw [hx, hdeser]

def UInt64.saturatingAdd (a b : UInt64) : UInt64 :=
  if a.toNat + b.toNat < 2 ^ 64 then a + b else UInt64.ofNat (2 ^ 64 - 1)

def UInt64.absDiff (a b : UInt64) : UInt64 := if b ≤ a then a - b else b - a

def UInt64.saturatingSub (a b : UInt64) : UInt64 := if b ≤ a then a - b else 0
