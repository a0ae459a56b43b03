import Promtuz.Lib.Bytes

/-! Bits of big-endian byte strings, counted from the most significant bit of the
first byte, and the single-bit masks `0x80 >> s` that address them inside a byte. -/

namespace Bytes

def bitAt (l : List UInt8) (b : Nat) : Bool := (l.getD (b / 8) 0).toNat.testBit (7 - b % 8)

theorem beValue_lt_two_pow (l : List UInt8) : beValue l < 2 ^ (8 * l.length) := by
  rw [Nat.pow_mul]
  exact beValue_lt l

theorem testBit_beValue_of_le {l : List UInt8} {p : Nat} (hp : 8 * l.length ≤ p) :
    (beValue l).testBit p = false :=
  Nat.testBit_lt_two_pow (Nat.lt_of_lt_of_le (beValue_lt_two_pow l) (Nat.pow_le_pow_right (by decide) hp))

theorem beValue_cons (x : UInt8) (xs : List UInt8) :
    beValue (x :: xs) = 2 ^ (8 * xs.length) * x.toNat + beValue xs := by
  rw [beValue, Nat.pow_mul, Nat.mul_comm]

theorem testBit_beValue (l : List UInt8) {b : Nat} (hb : b < 8 * l.length) :
    (beValue l).testBit (8 * l.length - 1 - b) = bitAt l b := by
  induction l generalizing b with
  | nil => simp at hb
  | cons x xs ih =>
      rw [beValue_cons, Nat.testBit_two_pow_mul_add _ (beValue_lt_two_pow xs), List.length_cons]
      by_cases hb8 : b < 8
      · -- the first byte
        rw [if_neg (by omega), bitAt, Nat.div_eq_of_lt hb8, Nat.mod_eq_of_lt hb8, List.getD_cons_zero]
        congr 1
        omega
      · -- a later byte: the bit is bit `b - 8` of the rest
        have hrest : b - 8 < 8 * xs.length := by simp only [List.length_cons] at hb; omega
        rw [if_pos (by omega), show 8 * (xs.length + 1) - 1 - b = 8 * xs.length - 1 - (b - 8) by omega,
          ih hrest, bitAt, bitAt, show b / 8 = (b - 8) / 8 + 1 by omega, List.getD_cons_succ,
          show b % 8 = (b - 8) % 8 by omega]

theorem xorBytes_comm (a c : List UInt8) : xorBytes a c = xorBytes c a :=
  List.zipWith_comm_of_comm UInt8.xor_comm

theorem bitAt_xorBytes {a c : List UInt8} (h : a.length = c.length) (b : Nat) :
    bitAt (xorBytes a c) b = (bitAt a b ^^ bitAt c b) := by
  simp only [bitAt, xorBytes, List.getD_eq_getElem?_getD, List.getElem?_zipWith]
  by_cases hi : b / 8 < a.length
  · rw [List.getElem?_eq_getElem hi, List.getElem?_eq_getElem (h ▸ hi)]
    simp
  · rw [List.getElem?_eq_none (by omega), List.getElem?_eq_none (by omega)]
    simp

theorem bitAt_modify (l : List UInt8) (k : Nat) (f : UInt8 → UInt8) (b : Nat) :
    bitAt (l.modify k f) b =
      if b / 8 = k ∧ k < l.length then (f (l.getD k 0)).toNat.testBit (7 - b % 8) else bitAt l b := by
  simp only [bitAt, List.getD_eq_getElem?_getD, List.getElem?_modify]
  by_cases hk : b / 8 = k
  · subst hk
    by_cases hi : b / 8 < l.length
    · simp [hi]
    · simp [hi]
  · simp [hk, Ne.symm hk]

theorem testBit_topMask {s q : Nat} (hs : s < 8) :
    ((0x80 : UInt8) >>> UInt8.ofNat s).toNat.testBit q = decide (s + q = 7) := by
  have hof : (UInt8.ofNat s).toNat % 8 = s := by
    rw [UInt8.toNat_ofNat', Nat.mod_eq_of_lt (show s < 2 ^ 8 by omega), Nat.mod_eq_of_lt hs]
  rw [UInt8.toNat_shiftRight, hof, Nat.testBit_shiftRight, show (0x80 : UInt8).toNat = 2 ^ 7 from rfl,
    Nat.testBit_two_pow]
  exact decide_eq_decide.2 eq_comm

theorem testBit_xor_topMask (x : UInt8) {s q : Nat} (hs : s < 8) :
    (x ^^^ ((0x80 : UInt8) >>> UInt8.ofNat s)).toNat.testBit q = (x.toNat.testBit q ^^ decide (s + q = 7)) := by
  rw [UInt8.toNat_xor, Nat.testBit_xor, testBit_topMask hs]

theorem testBit_blend_topMask (x y : UInt8) {s q : Nat} (hs : s < 8) (hq : q < 8) :
    ((x &&& ~~~((0x80 : UInt8) >>> UInt8.ofNat s)) ||| (y &&& ((0x80 : UInt8) >>> UInt8.ofNat s))).toNat.testBit q =
      if s + q = 7 then y.toNat.testBit q else x.toNat.testBit q := by
  have hm : ((0x80 : UInt8) >>> UInt8.ofNat s).toNat < 2 ^ 8 := UInt8.toNat_lt _
  have hnot : (~~~((0x80 : UInt8) >>> UInt8.ofNat s)).toNat =
      2 ^ 8 - (((0x80 : UInt8) >>> UInt8.ofNat s).toNat + 1) := by
    rw [UInt8.toNat_not, UInt8.size]
    omega
  rw [UInt8.toNat_or, UInt8.toNat_and, UInt8.toNat_and, Nat.testBit_or, Nat.testBit_and, Nat.testBit_and,
    hnot, Nat.testBit_two_pow_sub_succ hm, testBit_topMask hs]
  by_cases h : s + q = 7 <;> simp [h, hq]

end Bytes
