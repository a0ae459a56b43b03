import Mathlib

set_option linter.unusedSectionVars false

structure SortedMap (κ ν : Type) [LT κ] where
  rows : List (κ × ν)
  sorted : rows.Pairwise (fun a b => a.1 < b.1)

namespace SortedMap

variable {κ ν : Type} [LT κ] [LE κ] [Std.IsLinearOrder κ] [Std.LawfulOrderLT κ]
  [DecidableLT κ] [DecidableEq κ]

def insertRows (k : κ) (v : ν) : List (κ × ν) → List (κ × ν)
  | [] => [(k, v)]
  | e :: rest =>
      if k < e.1 then (k, v) :: e :: rest
      else if e.1 < k then e :: insertRows k v rest
      else (k, v) :: rest

theorem ne_of_lt {a b : κ} (h : a < b) : a ≠ b := fun he => Std.lt_irrefl (he ▸ h)

theorem filter_lt_of_lt_head {k : κ} {e : κ × ν} {rest : List (κ × ν)}
    (hs : (e :: rest).Pairwise (fun a b => a.1 < b.1)) (hk : k < e.1) :
    (e :: rest).filter (fun r => decide (r.1 < k)) = [] := by
  rw [List.filter_eq_nil_iff]
  intro r hr hlt
  rcases List.mem_cons.1 hr with rfl | hr
  · exact Std.lt_irrefl (Std.lt_trans (of_decide_eq_true hlt) hk)
  · exact Std.lt_irrefl (Std.lt_trans (Std.lt_trans (of_decide_eq_true hlt) hk)
      ((List.pairwise_cons.1 hs).1 r hr))

theorem filter_gt_of_lt_head {k : κ} {e : κ × ν} {rest : List (κ × ν)}
    (hs : (e :: rest).Pairwise (fun a b => a.1 < b.1)) (hk : k < e.1) :
    (e :: rest).filter (fun r => decide (k < r.1)) = e :: rest := by
  rw [List.filter_eq_self]
  intro r hr
  rcases List.mem_cons.1 hr with rfl | hr
  · exact decide_eq_true hk
  · exact decide_eq_true (Std.lt_trans hk ((List.pairwise_cons.1 hs).1 r hr))

theorem insertRows_eq (k : κ) (v : ν) {rows : List (κ × ν)}
    (hs : rows.Pairwise (fun a b => a.1 < b.1)) :
    insertRows k v rows =
      rows.filter (fun r => decide (r.1 < k)) ++ (k, v) :: rows.filter (fun r => decide (k < r.1)) := by
  induction rows with
  | nil => rfl
  | cons e rest ih =>
      have hrest := (List.pairwise_cons.1 hs).2
      by_cases h₁ : k < e.1
      · rw [filter_lt_of_lt_head hs h₁, filter_gt_of_lt_head hs h₁]
        simp [insertRows, h₁]
      · by_cases h₂ : e.1 < k
        · have hn : ¬ k < e.1 := fun h => Std.lt_irrefl (Std.lt_trans h h₂)
          simp [insertRows, h₂, hn, ih hrest]
        · have he : e.1 = k := by
            rcases Std.lt_trichotomy e.1 k with h | h | h
            · exact absurd h h₂
            · exact h
            · exact absurd h h₁
          subst he
          have hlt : rest.filter (fun r => decide (r.1 < e.1)) = [] := by
            rw [List.filter_eq_nil_iff]
            intro r hr hlt
            exact Std.lt_irrefl (Std.lt_trans (of_decide_eq_true hlt) ((List.pairwise_cons.1 hs).1 r hr))
          have hgt : rest.filter (fun r => decide (e.1 < r.1)) = rest := by
            rw [List.filter_eq_self]
            exact fun r hr => decide_eq_true ((List.pairwise_cons.1 hs).1 r hr)
          simp [insertRows, Std.lt_irrefl, hlt, hgt]

theorem sorted_insertRows (k : κ) (v : ν) {rows : List (κ × ν)}
    (hs : rows.Pairwise (fun a b => a.1 < b.1)) :
    (insertRows k v rows).Pairwise (fun a b => a.1 < b.1) := by
  rw [insertRows_eq k v hs, List.pairwise_append, List.pairwise_cons]
  refine ⟨hs.filter _, ⟨fun r hr => ?_, hs.filter _⟩, fun a ha b hb => ?_⟩
  · exact of_decide_eq_true (List.mem_filter.1 hr).2
  · have ha' := of_decide_eq_true (List.mem_filter.1 ha).2
    rcases List.mem_cons.1 hb with rfl | hb
    · exact ha'
    · exact Std.lt_trans ha' (of_decide_eq_true (List.mem_filter.1 hb).2)

def empty : SortedMap κ ν := ⟨[], List.Pairwise.nil⟩

def insert (m : SortedMap κ ν) (k : κ) (v : ν) : SortedMap κ ν :=
  ⟨insertRows k v m.rows, sorted_insertRows k v m.sorted⟩

def erase (m : SortedMap κ ν) (k : κ) : SortedMap κ ν :=
  ⟨m.rows.filter (fun r => decide (r.1 ≠ k)), m.sorted.filter _⟩

def get? (m : SortedMap κ ν) (k : κ) : Option ν :=
  (m.rows.find? (fun r => decide (r.1 = k))).map Prod.snd

def scan (m : SortedMap κ ν) (p : κ → Bool) : List (κ × ν) := m.rows.filter (fun r => p r.1)

@[simp] theorem rows_empty : (empty : SortedMap κ ν).rows = [] := rfl

@[simp] theorem rows_erase (m : SortedMap κ ν) (k : κ) :
    (m.erase k).rows = m.rows.filter (fun r => decide (r.1 ≠ k)) := rfl

theorem keys_nodup (m : SortedMap κ ν) : (m.rows.map Prod.fst).Nodup := by
  rw [List.Nodup, List.pairwise_map]
  exact m.sorted.imp ne_of_lt

theorem rows_nodup (m : SortedMap κ ν) : m.rows.Nodup :=
  m.sorted.imp (fun h he => ne_of_lt h (congrArg Prod.fst he))

theorem eq_of_mem_of_key_eq {m : SortedMap κ ν} {a b : κ × ν} (ha : a ∈ m.rows) (hb : b ∈ m.rows)
    (hk : a.1 = b.1) : a = b :=
  List.inj_on_of_nodup_map m.keys_nodup ha hb hk

theorem length_scan_le {β : Type} {m : SortedMap κ ν} {p : κ → Bool} {f : κ → β} {S : List β}
    (hinj : ∀ a ∈ m.scan p, ∀ b ∈ m.scan p, f a.1 = f b.1 → a.1 = b.1)
    (hS : ∀ a ∈ m.scan p, f a.1 ∈ S) : (m.scan p).length ≤ S.length := by
  have hsub : (m.scan p).Sublist m.rows := List.filter_sublist
  have hnd : ((m.scan p).map fun a => f a.1).Nodup :=
    (m.rows_nodup.sublist hsub).map_on fun a ha b hb hab =>
      eq_of_mem_of_key_eq (hsub.subset ha) (hsub.subset hb) (hinj a ha b hb hab)
  have hsubset : ((m.scan p).map fun a => f a.1) ⊆ S := by
    intro x hx
    obtain ⟨a, ha, rfl⟩ := List.mem_map.mp hx
    exact hS a ha
  calc (m.scan p).length = ((m.scan p).map fun a => f a.1).length := (List.length_map _).symm
    _ ≤ S.length := (hnd.subperm hsubset).length_le

theorem mem_insert {m : SortedMap κ ν} {k : κ} {v : ν} {r : κ × ν} :
    r ∈ (m.insert k v).rows ↔ r = (k, v) ∨ (r ∈ m.rows ∧ r.1 ≠ k) := by
  simp only [insert, insertRows_eq k v m.sorted, List.mem_append, List.mem_cons, List.mem_filter,
    decide_eq_true_eq]
  constructor
  · rintro (⟨hr, hlt⟩ | rfl | ⟨hr, hgt⟩)
    · exact .inr ⟨hr, ne_of_lt hlt⟩
    · exact .inl rfl
    · exact .inr ⟨hr, (ne_of_lt hgt).symm⟩
  · rintro (rfl | ⟨hr, hne⟩)
    · exact .inr (.inl rfl)
    · rcases Std.lt_trichotomy r.1 k with h | h | h
      · exact .inl ⟨hr, h⟩
      · exact absurd h hne
      · exact .inr (.inr ⟨hr, h⟩)

theorem mem_erase {m : SortedMap κ ν} {k : κ} {r : κ × ν} :
    r ∈ (m.erase k).rows ↔ r ∈ m.rows ∧ r.1 ≠ k := by
  simp [erase]

theorem insert_perm (m : SortedMap κ ν) (k : κ) (v : ν) :
    (m.insert k v).rows.Perm ((k, v) :: (m.erase k).rows) := by
  have hnd₁ := (m.insert k v).rows_nodup
  have hnd₂ : ((k, v) :: (m.erase k).rows).Nodup := by
    refine List.nodup_cons.2 ⟨fun h => ?_, (m.erase k).rows_nodup⟩
    exact (mem_erase.1 h).2 rfl
  rw [List.perm_ext_iff_of_nodup hnd₁ hnd₂]
  intro r
  rw [mem_insert, List.mem_cons, mem_erase]

theorem erase_of_absent {m : SortedMap κ ν} {k : κ} (h : ∀ r ∈ m.rows, r.1 ≠ k) :
    (m.erase k).rows = m.rows := by
  rw [rows_erase, List.filter_eq_self]
  exact fun r hr => decide_eq_true (h r hr)

theorem get?_eq_some_iff {m : SortedMap κ ν} {k : κ} {v : ν} :
    m.get? k = some v ↔ (k, v) ∈ m.rows := by
  constructor
  · intro h
    obtain ⟨r, hr, rfl⟩ := Option.map_eq_some_iff.1 h
    have hk : r.1 = k := by simpa using List.find?_some hr
    rw [← hk]
    exact List.mem_of_find?_eq_some hr
  · intro h
    have hs : (m.rows.find? (fun r => decide (r.1 = k))).isSome := by
      rw [List.find?_isSome]
      exact ⟨(k, v), h, by simp⟩
    obtain ⟨r, hr⟩ := Option.isSome_iff_exists.1 hs
    have hk : r.1 = k := by simpa using List.find?_some hr
    have := eq_of_mem_of_key_eq (List.mem_of_find?_eq_some hr) h hk
    simp [get?, hr, this]

theorem get?_eq_none_iff {m : SortedMap κ ν} {k : κ} :
    m.get? k = none ↔ ∀ r ∈ m.rows, r.1 ≠ k := by
  simp [get?, List.find?_eq_none]

theorem ext_of_mem {m m' : SortedMap κ ν} (h : ∀ r, r ∈ m.rows ↔ r ∈ m'.rows) : m = m' := by
  have hp : m.rows.Perm m'.rows := (List.perm_ext_iff_of_nodup m.rows_nodup m'.rows_nodup).2 h
  cases m with
  | mk rows hs =>
    cases m' with
    | mk rows' hs' =>
        simp only [mk.injEq]
        refine List.Perm.eq_of_pairwise (fun a b _ _ hab hba => ?_) hs hs' hp
        exact absurd (Std.lt_trans hab hba) Std.lt_irrefl

theorem insert_of_get? {m : SortedMap κ ν} {k : κ} {v : ν} (h : m.get? k = some v) :
    m.insert k v = m := by
  have hmem := get?_eq_some_iff.1 h
  refine ext_of_mem fun r => ?_
  rw [mem_insert]
  constructor
  · rintro (rfl | ⟨hr, -⟩)
    · exact hmem
    · exact hr
  · intro hr
    by_cases hk : r.1 = k
    · exact .inl (eq_of_mem_of_key_eq hr hmem hk)
    · exact .inr ⟨hr, hk⟩

theorem length_scan_insert (m : SortedMap κ ν) (k : κ) (v : ν) (p : κ → Bool) :
    ((m.insert k v).scan p).length = ((m.erase k).scan p).length + (if p k then 1 else 0) := by
  have h := ((m.insert_perm k v).filter fun r => p r.1).length_eq
  simp only [scan] at h ⊢
  rw [h, List.filter_cons]
  split <;> simp_all

theorem scan_erase_of_false {m : SortedMap κ ν} {k : κ} {p : κ → Bool} (hp : p k = false) :
    (m.erase k).scan p = m.scan p := by
  simp only [scan, rows_erase, List.filter_filter]
  congr 1
  funext r
  by_cases hr : r.1 = k
  · simp [hr, hp]
  · simp [hr]

theorem length_scan_erase_of_mem {m : SortedMap κ ν} {k : κ} {v : ν} (hk : (k, v) ∈ m.rows)
    (p : κ → Bool) : ((m.erase k).scan p).length + (if p k then 1 else 0) = (m.scan p).length := by
  rw [← length_scan_insert, insert_of_get? (get?_eq_some_iff.2 hk)]

/-- `m'` is `m` with some rows deleted. -/
def Sub (m' m : SortedMap κ ν) : Prop := m'.rows.Sublist m.rows

theorem Sub.refl (m : SortedMap κ ν) : Sub m m := List.Sublist.refl _

theorem Sub.trans {m₁ m₂ m₃ : SortedMap κ ν} (h₁ : Sub m₁ m₂) (h₂ : Sub m₂ m₃) : Sub m₁ m₃ :=
  List.Sublist.trans h₁ h₂

theorem erase_sub (m : SortedMap κ ν) (k : κ) : Sub (m.erase k) m := List.filter_sublist

theorem Sub.scan {m' m : SortedMap κ ν} (h : Sub m' m) (p : κ → Bool) :
    (m'.scan p).Sublist (m.scan p) :=
  h.filter _

theorem Sub.mem {m' m : SortedMap κ ν} (h : Sub m' m) {r : κ × ν} (hr : r ∈ m'.rows) : r ∈ m.rows :=
  h.subset hr

def eraseAll (m : SortedMap κ ν) (ks : List κ) : SortedMap κ ν := ks.foldl erase m

@[simp] theorem rows_eraseAll (m : SortedMap κ ν) (ks : List κ) :
    (m.eraseAll ks).rows = m.rows.filter (fun r => decide (r.1 ∉ ks)) := by
  induction ks generalizing m with
  | nil => simp [eraseAll]
  | cons k ks ih =>
      rw [eraseAll, List.foldl_cons, ← eraseAll, ih, rows_erase, List.filter_filter]
      congr 1
      funext r
      simp [Bool.and_comm]

theorem eraseAll_sub (m : SortedMap κ ν) (ks : List κ) : Sub (m.eraseAll ks) m := by
  simp only [Sub, rows_eraseAll]
  exact List.filter_sublist

theorem get?_insert_self (m : SortedMap κ ν) (k : κ) (v : ν) : (m.insert k v).get? k = some v :=
  get?_eq_some_iff.2 (mem_insert.2 (.inl rfl))

theorem mem_of_get?_eraseAll {m : SortedMap κ ν} {ks : List κ} {k : κ} {v : ν} (h : m.get? k = some v)
    (hgone : (m.eraseAll ks).get? k = none) : k ∈ ks := by
  by_contra hk
  have hrow : (k, v) ∈ (m.eraseAll ks).rows := by
    rw [rows_eraseAll, List.mem_filter]
    exact ⟨get?_eq_some_iff.1 h, by simpa using hk⟩
  exact get?_eq_none_iff.1 hgone _ hrow rfl

theorem eq_of_get?_erase {m : SortedMap κ ν} {k k' : κ} {v : ν} (h : m.get? k = some v)
    (hgone : (m.erase k').get? k = none) : k = k' := by
  by_contra hk
  exact get?_eq_none_iff.1 hgone _ (mem_erase.2 ⟨get?_eq_some_iff.1 h, hk⟩) rfl

/-- Every key of `m` is still a key of `m'`: `m'` may have more keys or other values. -/
def KeepsKeys (m m' : SortedMap κ ν) : Prop := ∀ k v, m.get? k = some v → (m'.get? k).isSome

theorem KeepsKeys.refl (m : SortedMap κ ν) : KeepsKeys m m := fun _ _ h => by simp [h]

theorem KeepsKeys.trans {m₁ m₂ m₃ : SortedMap κ ν} (h₁ : KeepsKeys m₁ m₂) (h₂ : KeepsKeys m₂ m₃) :
    KeepsKeys m₁ m₃ := by
  intro k v hk
  obtain ⟨v', hv'⟩ := Option.isSome_iff_exists.1 (h₁ k v hk)
  exact h₂ k v' hv'

theorem keepsKeys_insert (m : SortedMap κ ν) (k' : κ) (v' : ν) : KeepsKeys m (m.insert k' v') := by
  intro k v hk
  by_cases hkey : k = k'
  · rw [hkey, get?_insert_self]
    rfl
  · rw [Option.isSome_iff_exists]
    exact ⟨v, get?_eq_some_iff.2 (mem_insert.2 (.inr ⟨get?_eq_some_iff.1 hk, hkey⟩))⟩

end SortedMap
