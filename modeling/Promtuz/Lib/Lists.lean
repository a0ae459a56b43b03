import Mathlib

namespace Lists

variable {α β : Type}

/-- The first element satisfying `p`, with the elements before and after it:
`iter().position(p)` followed by indexing or `Vec::remove` at that position. -/
def splitFirst (p : α → Bool) : List α → Option (List α × α × List α)
  | [] => none
  | a :: l => if p a then some ([], a, l) else (splitFirst p l).map (fun s => (a :: s.1, s.2.1, s.2.2))

theorem splitFirst_eq_none {p : α → Bool} {l : List α} :
    splitFirst p l = none ↔ ∀ a ∈ l, p a = false := by
  induction l with
  | nil => simp [splitFirst]
  | cons a l ih =>
      by_cases ha : p a
      · simp [splitFirst, ha]
      · simp [splitFirst, ha, ih]

theorem splitFirst_eq_some {p : α → Bool} {l pre suf : List α} {x : α}
    (h : splitFirst p l = some (pre, x, suf)) :
    l = pre ++ x :: suf ∧ p x = true ∧ ∀ a ∈ pre, p a = false := by
  induction l generalizing pre with
  | nil => simp [splitFirst] at h
  | cons a l ih =>
      by_cases ha : p a
      · simp only [splitFirst, ha, if_true, Option.some.injEq, Prod.mk.injEq] at h
        obtain ⟨rfl, rfl, rfl⟩ := h
        simp [ha]
      · simp only [splitFirst, ha, Bool.false_eq_true, if_false, Option.map_eq_some_iff,
          Prod.mk.injEq] at h
        obtain ⟨⟨pre', x', suf'⟩, hs, rfl, rfl, rfl⟩ := h
        obtain ⟨rfl, hx, hpre⟩ := ih hs
        refine ⟨rfl, hx, ?_⟩
        simp only [List.mem_cons, forall_eq_or_imp]
        exact ⟨by simpa using ha, hpre⟩

theorem countP_lt_le_iff_le_getElem [LinearOrder α] {D : List α} (hD : D.Pairwise (· < ·))
    {k : Nat} (hk : k < D.length) (s : α) : D.countP (fun d => d < s) ≤ k ↔ s ≤ D[k] := by
  induction D generalizing k with
  | nil => simp at hk
  | cons d D ih =>
      obtain ⟨hd, hD⟩ := List.pairwise_cons.mp hD
      by_cases hds : d < s
      · cases k with
        | zero => simp [hds, not_le.mpr hds]
        | succ k =>
            simp only [List.countP_cons, hds, decide_true, if_true, List.getElem_cons_succ,
              Nat.add_le_add_iff_right]
            exact ih hD (by simpa using hk)
      · have hsd : s ≤ d := not_lt.mp hds
        have hnone : D.countP (fun d => d < s) = 0 :=
          List.countP_eq_zero.mpr fun e he hes => by
            simp only [decide_eq_true_eq] at hes
            exact lt_irrefl _ (lt_trans (lt_of_le_of_lt hsd (hd e he)) hes)
        cases k with
        | zero => simp [hds, hnone, hsd]
        | succ k =>
            simp only [List.countP_cons, hds, decide_false, hnone, List.getElem_cons_succ]
            exact ⟨fun _ => le_of_lt (lt_of_le_of_lt hsd (hd _ (List.getElem_mem _))),
              fun _ => by simp⟩

theorem pairwise_mergeSort_key (f : α → Nat) (l : List α) :
    (l.mergeSort fun a b => decide (f a ≤ f b)).Pairwise (f · ≤ f ·) := by
  have hsorted : (l.mergeSort fun a b => decide (f a ≤ f b)).Pairwise (fun a b => decide (f a ≤ f b)) :=
    List.pairwise_mergeSort (fun a b c hab hbc => by simp only [decide_eq_true_eq] at *; omega)
    (fun a b => by simp only [Bool.or_eq_true, decide_eq_true_eq]; omega) l
  exact hsorted.imp fun h => by simpa using h

theorem pairwise_lt_mergeSort_key (f : α → Nat) {l : List α} (h : (l.map f).Nodup) :
    ((l.mergeSort (fun a b => decide (f a ≤ f b))).map f).Pairwise (· < ·) := by
  have hsorted := pairwise_mergeSort_key f l
  have hnodup : ((l.mergeSort (fun a b => decide (f a ≤ f b))).map f).Nodup :=
    ((List.mergeSort_perm l _).map f).nodup_iff.mpr h
  rw [List.Nodup, List.pairwise_map] at hnodup
  rw [List.pairwise_map]
  exact (hsorted.and hnodup).imp fun h => Nat.lt_of_le_of_ne h.1 h.2

theorem mergeSort_cons_of_lt_key (f : α → Nat) {a : α} {l : List α} (hl : l.Pairwise (f · ≤ f ·))
    (h : ∀ b ∈ l, f b < f a) : (a :: l).mergeSort (fun x y => decide (f x ≤ f y)) = l ++ [a] := by
  obtain ⟨l₁, l₂, hcons, htail, -⟩ : ∃ l₁ l₂, (a :: l).mergeSort (fun x y => decide (f x ≤ f y)) = l₁ ++ a :: l₂ ∧
      l.mergeSort (fun x y => decide (f x ≤ f y)) = l₁ ++ l₂ ∧ ∀ b ∈ l₁, (!decide (f a ≤ f b)) = true :=
    List.mergeSort_cons (fun x y z hxy hyz => by simp only [decide_eq_true_eq] at *; omega)
    (fun x y => by simp only [Bool.or_eq_true, decide_eq_true_eq]; omega) a l
  rw [List.mergeSort_of_pairwise (hl.imp fun h => by simpa using h)] at htail
  -- whatever the sort puts after the head is at least as far as it, and nothing in `l` is
  have hl₂ : l₂ = [] := by
    rcases l₂ with _ | ⟨b, l₂⟩
    · rfl
    · have hsorted := pairwise_mergeSort_key f (a :: l)
      rw [hcons, List.pairwise_append] at hsorted
      have hab : f a ≤ f b := List.rel_of_pairwise_cons hsorted.2.1 List.mem_cons_self
      have hb := h b (by rw [htail]; simp)
      omega
  rw [hcons, htail, hl₂, List.append_nil]

theorem nodup_map_filter_append {f : α → β} {l : List α} {p q : α → Bool} (h : (l.map f).Nodup)
    (hpq : ∀ a, p a = true → q a = false) : ((l.filter p).map f ++ (l.filter q).map f).Nodup := by
  have hperm : (l.filter p ++ l.filter fun a => !p a).Perm l := List.filter_append_perm p l
  have hsub : (l.filter q).Sublist (l.filter fun a => !p a) := by
    refine List.monotone_filter_right l fun a hq => ?_
    cases hp : p a
    · rfl
    · rw [hpq a hp] at hq
      cases hq
  rw [← List.map_append]
  exact ((hperm.map f).nodup_iff.mpr h).sublist ((hsub.append_left _).map f)

theorem foldl_mem_of_keep_or_take {f : Option α → α → Option α}
    (hf : ∀ m a, f m a = m ∨ f m a = some a) (l : List α) {init : Option α} {r : α}
    (h : l.foldl f init = some r) : init = some r ∨ r ∈ l := by
  induction l generalizing init with
  | nil => exact .inl h
  | cons a l ih =>
      rcases ih h with h' | h'
      · rcases hf init a with hkeep | htake
        · exact .inl (hkeep ▸ h')
        · obtain rfl := Option.some.inj (htake.symm.trans h')
          exact .inr List.mem_cons_self
      · exact .inr (List.mem_cons_of_mem a h')

end Lists
