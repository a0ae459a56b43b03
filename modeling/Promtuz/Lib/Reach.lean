import Mathlib
namespace Reach

variable {σ α : Type}

inductive Reachable (init : σ) (step : σ → α → σ) : σ → Prop
  | init : Reachable init step init
  | step {s : σ} (a : α) : Reachable init step s → Reachable init step (step s a)

variable {init : σ} {step : σ → α → σ}

theorem Reachable.invariant {P : σ → Prop} (h₀ : P init) (hs : ∀ s a, P s → P (step s a))
    {s : σ} (h : Reachable init step s) : P s := by
  induction h with
  | init => exact h₀
  | step a _ ih => exact hs _ a ih

theorem reachable_foldl_of {s : σ} (h : Reachable init step s) (as : List α) :
    Reachable init step (as.foldl step s) := by
  induction as generalizing s with
  | nil => exact h
  | cons a as ih => exact ih (h.step a)

theorem reachable_foldl (as : List α) : Reachable init step (as.foldl step init) :=
  reachable_foldl_of .init as

theorem Reachable.exists_foldl {s : σ} (h : Reachable init step s) :
    ∃ as : List α, as.foldl step init = s := by
  induction h with
  | init => exact ⟨[], rfl⟩
  | step a _ ih =>
      obtain ⟨as, rfl⟩ := ih
      exact ⟨as ++ [a], by simp⟩

theorem reachable_iff_exists_foldl {s : σ} :
    Reachable init step s ↔ ∃ as : List α, as.foldl step init = s :=
  ⟨Reachable.exists_foldl, fun ⟨as, h⟩ => h ▸ reachable_foldl as⟩

theorem foldl_invariant {P : σ → Prop} {Q : α → Prop} (hs : ∀ s a, Q a → P s → P (step s a))
    {s : σ} (h₀ : P s) {as : List α} (has : ∀ a ∈ as, Q a) : P (as.foldl step s) := by
  induction as generalizing s with
  | nil => exact h₀
  | cons a as ih => exact ih (hs s a (has a List.mem_cons_self) h₀) fun b hb => has b (List.mem_cons_of_mem a hb)

theorem exists_step_of_foldl (P : σ → Prop) (as : List α) {s : σ} (h₀ : P s)
    (hend : ¬P (as.foldl step s)) :
    ∃ pre a post, as = pre ++ a :: post ∧ P (pre.foldl step s) ∧ ¬P (step (pre.foldl step s) a) := by
  induction as generalizing s with
  | nil => exact absurd h₀ hend
  | cons a as ih =>
      by_cases h₁ : P (step s a)
      · obtain ⟨pre, b, post, rfl, hpre, hlost⟩ := ih h₁ hend
        exact ⟨a :: pre, b, post, rfl, hpre, hlost⟩
      · exact ⟨[], a, as, rfl, h₀, h₁⟩

end Reach
