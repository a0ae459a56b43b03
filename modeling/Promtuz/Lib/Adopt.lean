import Mathlib

/-! A register that keeps its value unless a newcomer beats it, for a strict order `r` that
need not be total. Over values any two of which are comparable (a chain) the register ends on
the greatest of them whatever the order of arrival, so two replicas that saw the same values
agree; over incomparable values the first to arrive stays. -/

namespace Adopt

variable {α : Type} (r : α → α → Prop)

/-- Any two of the values are equal or one beats the other. -/
def Chain (s : List α) : Prop := ∀ a ∈ s, ∀ b ∈ s, a = b ∨ r a b ∨ r b a

variable {r}

theorem Chain.sub {s t : List α} (h : Chain r t) (hst : ∀ a ∈ s, a ∈ t) : Chain r s :=
  fun a ha b hb => h a (hst a ha) b (hst b hb)

theorem top_unique (htrans : ∀ a b c : α, r a b → r b c → r a c) (hirr : ∀ a, ¬r a a)
    {s : List α} {a b : α} (ha : a ∈ s) (hb : b ∈ s)
    (hta : ∀ y ∈ s, y = a ∨ r y a) (htb : ∀ y ∈ s, y = b ∨ r y b) : a = b := by
  rcases hta b hb with h | hba
  · exact h.symm
  · rcases htb a ha with h | hab
    · exact h
    · exact absurd (htrans _ _ _ hab hba) (hirr a)

variable (r) [DecidableRel r]

def adopt (m x : α) : α := if r m x then x else m

variable {r}

theorem adopt_of_lt {m x : α} (h : r m x) : adopt r m x = x := if_pos h

theorem adopt_of_not_lt {m x : α} (h : ¬r m x) : adopt r m x = m := if_neg h

theorem adopt_mem (m x : α) : adopt r m x ∈ [m, x] := by
  by_cases h : r m x
  · rw [adopt_of_lt h]
    exact List.mem_pair.2 (.inr rfl)
  · rw [adopt_of_not_lt h]
    exact List.mem_pair.2 (.inl rfl)

theorem foldl_adopt_mem (m : α) (l : List α) : l.foldl (adopt r) m ∈ m :: l := by
  induction l generalizing m with
  | nil => exact List.mem_singleton.2 rfl
  | cons x l ih =>
      rw [List.foldl_cons]
      rcases List.mem_cons.1 (ih (adopt r m x)) with h | h
      · rw [h]
        rcases List.mem_pair.1 (adopt_mem (r := r) m x) with hm | hx
        · rw [hm]
          exact List.mem_cons_self
        · rw [hx]
          exact List.mem_cons_of_mem m List.mem_cons_self
      · exact List.mem_cons_of_mem m (List.mem_cons_of_mem x h)

theorem foldl_adopt_top (htrans : ∀ a b c : α, r a b → r b c → r a c) {m : α} {l : List α}
    (hc : Chain r (m :: l)) : ∀ y ∈ m :: l, y = l.foldl (adopt r) m ∨ r y (l.foldl (adopt r) m) := by
  induction l generalizing m with
  | nil =>
      intro y hy
      exact .inl (List.mem_singleton.1 hy)
  | cons x l ih =>
      -- the incumbent after `x` beats or is both `m` and `x`, and the tail's top beats it
      have hstep : ∀ y ∈ [m, x], y = adopt r m x ∨ r y (adopt r m x) := by
        intro y hy
        by_cases hmx : r m x
        · rw [adopt_of_lt hmx]
          rcases List.mem_pair.1 hy with rfl | rfl
          · exact .inr hmx
          · exact .inl rfl
        · rw [adopt_of_not_lt hmx]
          rcases List.mem_pair.1 hy with rfl | rfl
          · exact .inl rfl
          · rcases hc y (List.mem_cons_of_mem _ List.mem_cons_self) m List.mem_cons_self with h | h | h
            · exact .inl h
            · exact .inr h
            · exact absurd h hmx
      have hc' : Chain r (adopt r m x :: l) := hc.sub fun a ha => by
        rcases List.mem_cons.1 ha with rfl | ha
        · rcases List.mem_pair.1 (adopt_mem (r := r) m x) with h | h
          · rw [h]
            exact List.mem_cons_self
          · rw [h]
            exact List.mem_cons_of_mem _ List.mem_cons_self
        · exact List.mem_cons_of_mem _ (List.mem_cons_of_mem _ ha)
      have htop := ih hc'
      intro y hy
      rw [List.foldl_cons]
      rcases List.mem_cons.1 hy with rfl | hy
      · rcases hstep y (List.mem_cons_self) with h | h
        · exact h ▸ htop _ List.mem_cons_self
        · rcases htop _ List.mem_cons_self with h' | h'
          · exact .inr (h' ▸ h)
          · exact .inr (htrans _ _ _ h h')
      · rcases List.mem_cons.1 hy with rfl | hy
        · rcases hstep y (List.mem_cons_of_mem _ List.mem_cons_self) with h | h
          · exact h ▸ htop _ List.mem_cons_self
          · rcases htop _ List.mem_cons_self with h' | h'
            · exact .inr (h' ▸ h)
            · exact .inr (htrans _ _ _ h h')
        · exact htop y (List.mem_cons_of_mem _ hy)

theorem foldl_adopt_perm (htrans : ∀ a b c : α, r a b → r b c → r a c) (hirr : ∀ a, ¬r a a)
    {m m' : α} {l l' : List α} (hc : Chain r (m :: l)) (hp : (m :: l).Perm (m' :: l')) :
    l.foldl (adopt r) m = l'.foldl (adopt r) m' := by
  have hc' : Chain r (m' :: l') := hc.sub fun a ha => hp.mem_iff.2 ha
  refine top_unique htrans hirr (foldl_adopt_mem m l) (hp.mem_iff.2 (foldl_adopt_mem m' l'))
    (foldl_adopt_top htrans hc) fun y hy => foldl_adopt_top htrans hc' y (hp.mem_iff.1 hy)

end Adopt
