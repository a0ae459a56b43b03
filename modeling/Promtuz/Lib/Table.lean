import Mathlib

/-! SQL statements over a table kept as the list of its rows. -/

namespace Table

variable {α κ : Type}

def update (p : α → Bool) (f : α → α) (rows : List α) : List α :=
  rows.map fun r => if p r then f r else r

def delete (p : α → Bool) (rows : List α) : List α :=
  rows.filter fun r => !p r

def replace [DecidableEq κ] (key : α → κ) (row : α) (rows : List α) : List α :=
  delete (fun r => decide (key r = key row)) rows ++ [row]

def hasKey [DecidableEq κ] (key : α → κ) (k : κ) (rows : List α) : Bool :=
  rows.any fun r => decide (key r = k)

def insertOrIgnore [DecidableEq κ] (key : α → κ) (row : α) (rows : List α) : List α :=
  if hasKey key (key row) rows then rows else rows ++ [row]

inductive BindError
  | invalidParameterCount (given expected : Nat)

/-- The contract of a binding layer that binds positional parameters up to a statement's highest
`?N` (`expected`): a call that hands more or fewer (`given`) is refused before the statement
runs. -/
def InvalidParameterCount (bind : Nat → Nat → Except BindError Unit) : Prop :=
  ∀ expected given, given ≠ expected → ∃ e, bind expected given = .error e

variable {p : α → Bool} {f : α → α} {rows : List α}

@[simp] theorem length_update : (update p f rows).length = rows.length := by
  simp [update]

theorem getElem?_update (i : Nat) :
    (update p f rows)[i]? = rows[i]?.map fun r => if p r then f r else r := by
  simp [update]

theorem update_eq_self (h : ∀ r ∈ rows, p r = false) : update p f rows = rows := by
  unfold update
  conv_rhs => rw [← List.map_id rows]
  refine List.map_congr_left fun r hr => ?_
  simp [h r hr]

theorem update_update {f g : α → α} (hp : ∀ r, p r = true → p (f r) = true) (rows : List α) :
    update p g (update p f rows) = update p (g ∘ f) rows := by
  simp only [update, List.map_map]
  refine List.map_congr_left fun r _ => ?_
  by_cases hr : p r <;> simp [hr, hp r]

theorem update_ne_of_selected {f g : α → α} {r : α} (hr : r ∈ rows) (hp : p r = true) (hfg : f r ≠ g r) :
    update p f rows ≠ update p g rows := by
  intro h
  have hrow := (List.map_inj_left.1 h) r hr
  simp only [hp, if_true] at hrow
  exact hfg hrow

theorem mem_update_of_mem {r : α} (hr : r ∈ rows) : (if p r then f r else r) ∈ update p f rows :=
  List.mem_map_of_mem hr

theorem mem_update {r : α} : r ∈ update p f rows ↔ ∃ r₀ ∈ rows, (if p r₀ then f r₀ else r₀) = r := by
  simp [update]

theorem selected_of_update_ne {i : Nat} (h : (update p f rows)[i]? ≠ rows[i]?) :
    ∃ r, rows[i]? = some r ∧ p r = true := by
  rw [getElem?_update] at h
  cases hr : rows[i]? with
  | none => simp [hr] at h
  | some r =>
      refine ⟨r, rfl, ?_⟩
      by_contra hp
      simp [hr, hp] at h

theorem forall_mem_update {P : α → Prop} (h : ∀ r ∈ rows, P r) (hrow : ∀ r, p r = true → P r → P (f r)) :
    ∀ r ∈ update p f rows, P r := by
  intro r' hr'
  obtain ⟨r, hr, rfl⟩ := mem_update.1 hr'
  split
  next hp => exact hrow r hp (h r hr)
  next => exact h r hr

theorem map_update {key : α → κ} (hf : ∀ r, key (f r) = key r) : (update p f rows).map key = rows.map key := by
  simp only [update, List.map_map]
  refine List.map_congr_left fun r _ => ?_
  by_cases hr : p r <;> simp [hr, hf]

theorem update_congr {g : α → α} (h : ∀ r ∈ rows, p r = true → f r = g r) : update p f rows = update p g rows := by
  refine List.map_congr_left fun r hr => ?_
  by_cases hp : p r <;> simp [hp, h r hr]

theorem mem_delete {r : α} : r ∈ delete p rows ↔ r ∈ rows ∧ p r = false := by
  simp [delete]

theorem mem_replace [DecidableEq κ] {key : α → κ} {row r : α} :
    r ∈ replace key row rows ↔ (r ∈ rows ∧ key r ≠ key row) ∨ r = row := by
  simp [replace, mem_delete]

theorem mem_insertOrIgnore [DecidableEq κ] {key : α → κ} {row r : α} :
    r ∈ insertOrIgnore key row rows ↔ r ∈ rows ∨ (r = row ∧ hasKey key (key row) rows = false) := by
  unfold insertOrIgnore
  split <;> simp_all

theorem hasKey_insertOrIgnore [DecidableEq κ] {key : α → κ} (row : α) (k : κ) :
    hasKey key k (insertOrIgnore key row rows) = (hasKey key k rows || decide (key row = k)) := by
  unfold insertOrIgnore
  split
  · next hrow =>
      -- the row's key is already there, so asking for it is asking the old table
      by_cases hk : key row = k
      · subst hk
        simp [hrow]
      · simp [hk]
  · simp [hasKey]

theorem replace_cons [DecidableEq κ] (key : α → κ) (row r : α) (rows : List α) :
    replace key row (r :: rows) = if key r = key row then replace key row rows else r :: replace key row rows := by
  by_cases hr : key r = key row <;> simp [replace, delete, hr]

theorem find?_replace_self [DecidableEq κ] (key : α → κ) (row : α) (rows : List α) :
    (replace key row rows).find? (fun r => decide (key r = key row)) = some row := by
  induction rows with
  | nil => simp [replace, delete]
  | cons r rows ih =>
    rw [replace_cons]
    by_cases hr : key r = key row
    · rw [if_pos hr, ih]
    · rw [if_neg hr, List.find?_cons_of_neg (by simpa using hr), ih]

theorem find?_replace_of_ne [DecidableEq κ] {key : α → κ} {row : α} {k : κ} (h : key row ≠ k)
    (rows : List α) :
    (replace key row rows).find? (fun r => decide (key r = k)) = rows.find? (fun r => decide (key r = k)) := by
  induction rows with
  | nil => simp [replace, delete, h]
  | cons r rows ih =>
    rw [replace_cons]
    by_cases hr : key r = key row
    · rw [if_pos hr, ih, List.find?_cons_of_neg (l := rows) (by simpa [hr] using h)]
    · rw [if_neg hr, List.find?_cons, List.find?_cons, ih]

theorem replace_replace [DecidableEq κ] {key : α → κ} {row row' : α} (h : key row = key row')
    (rows : List α) : replace key row' (replace key row rows) = replace key row' rows := by
  simp [replace, delete, List.filter_append, List.filter_filter, h]

def sumWhere (q : α → Bool) (w : α → Nat) (rows : List α) : Nat :=
  ((rows.filter q).map w).sum

variable {q q' : α → Bool} {w : α → Nat}

@[simp] theorem sumWhere_nil : sumWhere q w [] = 0 := rfl

theorem sumWhere_cons (r : α) (rows : List α) :
    sumWhere q w (r :: rows) = (if q r then w r else 0) + sumWhere q w rows := by
  by_cases h : q r <;> simp [sumWhere, h]

theorem sumWhere_append (rows rows' : List α) :
    sumWhere q w (rows ++ rows') = sumWhere q w rows + sumWhere q w rows' := by
  simp [sumWhere, List.filter_append]

theorem sumWhere_congr (h : ∀ r ∈ rows, q r = q' r) : sumWhere q w rows = sumWhere q' w rows := by
  rw [sumWhere, sumWhere, List.filter_congr h]

theorem sumWhere_eq_zero (h : ∀ r ∈ rows, q r = false) : sumWhere q w rows = 0 := by
  have hnil : rows.filter q = [] := List.filter_eq_nil_iff.2 fun r hr => by simp [h r hr]
  rw [sumWhere, hnil]
  rfl

theorem sumWhere_le_of_imp (h : ∀ r ∈ rows, q r = true → q' r = true) :
    sumWhere q w rows ≤ sumWhere q' w rows := by
  induction rows with
  | nil => exact Nat.le_refl 0
  | cons r rows ih =>
      rw [sumWhere_cons, sumWhere_cons]
      have hrest := ih fun x hx => h x (List.mem_cons_of_mem r hx)
      by_cases hq : q r
      · rw [if_pos hq, if_pos (h r List.mem_cons_self hq)]
        omega
      · rw [if_neg hq]
        split <;> omega

theorem sumWhere_delete_add (p : α → Bool) (rows : List α) :
    sumWhere q w (delete p rows) + sumWhere (fun r => q r && p r) w rows = sumWhere q w rows := by
  induction rows with
  | nil => rfl
  | cons r rows ih =>
      by_cases hp : p r
      · simp only [delete, List.filter_cons, hp, Bool.not_true, Bool.false_eq_true, if_false] at ih ⊢
        rw [sumWhere_cons, sumWhere_cons, ← ih]
        by_cases hq : q r
        · simp only [hq, hp, Bool.and_self, if_true]
          omega
        · simp [hq]
      · simp only [delete, List.filter_cons, hp, Bool.not_false, if_true] at ih ⊢
        rw [sumWhere_cons, sumWhere_cons, sumWhere_cons, ← ih]
        simp [hp]
        omega

theorem sumWhere_key [DecidableEq κ] {key : α → κ} (hkeys : (rows.map key).Nodup) (k : κ) :
    sumWhere (fun r => decide (key r = k)) w rows = ((rows.find? fun r => decide (key r = k)).map w).getD 0 := by
  induction rows with
  | nil => rfl
  | cons r rows ih =>
      rw [List.map_cons, List.nodup_cons] at hkeys
      rw [sumWhere_cons, List.find?_cons]
      by_cases hr : key r = k
      · -- the head holds the key, so no later row does
        have hnone : sumWhere (fun r => decide (key r = k)) w rows = 0 :=
          sumWhere_eq_zero fun x hx => decide_eq_false fun hx' =>
            hkeys.1 (hr ▸ hx' ▸ List.mem_map_of_mem hx)
        simp [hr, hnone]
      · simp [hr, ih hkeys.2]

theorem eq_of_find?_key [DecidableEq κ] {key : α → κ} (hkeys : (rows.map key).Nodup) {k : κ} {r x : α}
    (hfind : rows.find? (fun r => decide (key r = k)) = some r) (hx : x ∈ rows) (hxk : key x = k) : x = r := by
  have hr := List.mem_of_find?_eq_some hfind
  have hrk : key r = k := by simpa using List.find?_some hfind
  exact List.inj_on_of_nodup_map hkeys hx hr (hxk.trans hrk.symm)

theorem nodup_map_delete {key : α → κ} (hkeys : (rows.map key).Nodup) (p : α → Bool) :
    ((delete p rows).map key).Nodup :=
  hkeys.sublist ((List.filter_sublist).map key)

theorem nodup_map_replace [DecidableEq κ] {key : α → κ} (hkeys : (rows.map key).Nodup) (row : α) :
    ((replace key row rows).map key).Nodup := by
  rw [replace, List.map_append, List.nodup_append]
  refine ⟨nodup_map_delete hkeys _, by simp, ?_⟩
  intro a ha b hb
  obtain ⟨r, hr, rfl⟩ := List.mem_map.1 ha
  rw [List.map_singleton, List.mem_singleton] at hb
  subst hb
  simpa using (mem_delete.1 hr).2

end Table
