import Mathlib

/-! A file as its list of bytes, written at a cursor. A write past the end first fills the gap
with zeros, as a `seek` past EOF followed by a `write` does on a POSIX file. -/

namespace FileBytes

/-- `write_all` of `bytes` with the cursor at `pos`. -/
def writeAt (file : List UInt8) (pos : Nat) (bytes : List UInt8) : List UInt8 :=
  let padded := file ++ List.replicate (pos - file.length) 0
  padded.take pos ++ bytes ++ padded.drop (pos + bytes.length)

variable {file bytes : List UInt8} {pos : Nat}

theorem writeAt_of_length_eq (h : file.length = pos) : writeAt file pos bytes = file ++ bytes := by
  subst h
  simp [writeAt]

theorem writeAt_nil : writeAt [] pos bytes = List.replicate pos 0 ++ bytes := by
  simp [writeAt]

theorem writeAt_take (b : List UInt8) {k n : Nat} (hpos : pos ≤ k) (hk : k ≤ b.length) :
    writeAt (b.take k) pos ((b.drop pos).take n) = b.take (max k (min (pos + n) b.length)) := by
  have hlen : (b.take k).length = k := List.length_take_of_le hk
  have hn : ((b.drop pos).take n).length = min n (b.length - pos) := by simp
  simp only [writeAt, hlen, Nat.sub_eq_zero_of_le hpos, List.replicate_zero, List.append_nil, hn,
    List.take_take, Nat.min_eq_left hpos, List.drop_take]
  -- the written bytes continue the prefix kept before them
  rw [← List.take_add]
  by_cases hend : pos + n ≤ b.length
  · have hmin : min n (b.length - pos) = n := by omega
    rw [hmin, ← List.take_add]
    congr 1
    omega
  · -- the write runs to the end of the file
    have hmin : min n (b.length - pos) = b.length - pos := by omega
    have hall : pos + (b.length - pos) = b.length := by omega
    rw [hmin, hall, List.drop_length, List.take_nil, List.append_nil,
      List.take_of_length_le (by omega : b.length ≤ pos + n),
      List.take_of_length_le (by omega : b.length ≤ max k (min (pos + n) b.length))]

theorem length_writeAt : (writeAt file pos bytes).length = max file.length (pos + bytes.length) := by
  simp only [writeAt, List.length_append, List.length_take, List.length_drop, List.length_replicate]
  omega

theorem writeAt_of_le_length (h : pos ≤ file.length) :
    writeAt file pos bytes = file.take pos ++ bytes ++ file.drop (pos + bytes.length) := by
  simp [writeAt, Nat.sub_eq_zero_of_le h]

theorem writeAt_append (b₁ b₂ : List UInt8) :
    writeAt (writeAt file pos b₁) (pos + b₁.length) b₂ = writeAt file pos (b₁ ++ b₂) := by
  -- the first write leaves the file long enough that the second needs no padding
  rw [writeAt_of_le_length (by rw [length_writeAt]; omega)]
  set padded := file ++ List.replicate (pos - file.length) 0
  have hkeep : (padded.take pos ++ b₁).length = pos + b₁.length := by
    simp only [padded, List.length_append, List.length_take, List.length_replicate]
    omega
  have hfirst : writeAt file pos b₁ = (padded.take pos ++ b₁) ++ padded.drop (pos + b₁.length) := rfl
  rw [hfirst, List.take_left' hkeep, List.drop_append,
    List.drop_eq_nil_of_le (by rw [hkeep]; omega), hkeep, List.nil_append,
    show pos + b₁.length + b₂.length - (pos + b₁.length) = b₂.length by omega, List.drop_drop]
  simp [writeAt, padded, List.append_assoc, Nat.add_assoc]

theorem writeAt_drop_of_prefix {b : List UInt8} (hpre : file <+: b) (hpos : pos ≤ file.length) :
    writeAt file pos (b.drop pos) = b := by
  have hle := hpre.length_le
  have htake := List.prefix_iff_eq_take.mp hpre
  rw [htake, ← List.take_of_length_le (l := b.drop pos) (Nat.le_refl _), List.length_drop,
    writeAt_take b hpos hle]
  apply List.take_of_length_le
  omega

end FileBytes
