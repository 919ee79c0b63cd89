import Mathlib.Algebra.Order.Group.Basic
import Yunbay.Data.Run

/-!
# Counters that are written through copies

Writers raise a counter. Each one reads it, and later writes its copy back with an amount added. A
write through a copy that is out of date undoes what was written in between.

`kept_iff_fresh`: no amount is lost exactly when every write of the run goes through an up-to-date
copy. After a lost one the counter, and every copy of it, stay below the sum. -/

namespace Copies

/-- The counter, the copies that may still be written back, and the sum of what has been added. -/
structure View (M : Type) where
  value : M
  copies : List M
  total : M

variable {M : Type}

/-- The counter is left alone. New copies are copies of it. -/
structure Reads (v v' : View M) : Prop where
  value : v'.value = v.value
  total : v'.total = v.total
  copies : ∀ copy ∈ v'.copies, copy ∈ v.copies ∨ copy = v.value

variable [AddCommGroup M] [LinearOrder M]

/-- The counter is overwritten with a copy and a positive amount. -/
structure Writes (copy amount : M) (v v' : View M) : Prop where
  mem : copy ∈ v.copies
  pos : 0 < amount
  value : v'.value = copy + amount
  total : v'.total = v.total + amount
  copies : ∀ copy ∈ v'.copies, copy ∈ v.copies

/-- Nothing has been lost. -/
structure Kept (base : M) (v : View M) : Prop where
  value : v.value = base + v.total
  copies : ∀ copy ∈ v.copies, copy ≤ v.value

/-- Something has been lost, and no copy has it all. -/
structure Lost (base : M) (v : View M) : Prop where
  value : v.value < base + v.total
  copies : ∀ copy ∈ v.copies, copy < base + v.total

variable {base copy amount : M} {v v' : View M}

lemma Kept.reads (h : Kept base v) (hreads : Reads v v') : Kept base v' where
  value := by rw [hreads.value, hreads.total, h.value]
  copies := by
    intro c hc
    rw [hreads.value]
    rcases hreads.copies c hc with hold | rfl
    · exact h.copies c hold
    · exact le_refl _

lemma Lost.reads (h : Lost base v) (hreads : Reads v v') : Lost base v' where
  value := by
    rw [hreads.value, hreads.total]
    exact h.value
  copies := by
    intro c hc
    rw [hreads.total]
    rcases hreads.copies c hc with hold | rfl
    · exact h.copies c hold
    · exact h.value

variable [IsOrderedAddMonoid M]

lemma Kept.writes (h : Kept base v) (hwrites : Writes copy amount v v') (hcopy : copy = v.value) :
    Kept base v' where
  value := by rw [hwrites.value, hwrites.total, hcopy, h.value, add_assoc]
  copies := by
    intro c hc
    rw [hwrites.value, hcopy]
    exact (h.copies c (hwrites.copies c hc)).trans (le_add_of_nonneg_right hwrites.pos.le)

/-- A write through an old copy loses something, and what it writes itself is in no other copy. -/
lemma Kept.lost (h : Kept base v) (hwrites : Writes copy amount v v') (hcopy : copy ≠ v.value) :
    Lost base v' where
  value := by
    have hlt : copy < base + v.total := h.value ▸ lt_of_le_of_ne (h.copies copy hwrites.mem) hcopy
    rw [hwrites.value, hwrites.total, ← add_assoc]
    exact add_lt_add_left hlt amount
  copies := by
    intro c hc
    have hle : c ≤ base + v.total := h.value ▸ h.copies c (hwrites.copies c hc)
    rw [hwrites.total, ← add_assoc]
    exact lt_of_le_of_lt hle (lt_add_of_pos_right _ hwrites.pos)

lemma Lost.writes (h : Lost base v) (hwrites : Writes copy amount v v') : Lost base v' where
  value := by
    rw [hwrites.value, hwrites.total, ← add_assoc]
    exact add_lt_add_left (h.copies copy hwrites.mem) amount
  copies := by
    intro c hc
    rw [hwrites.total, ← add_assoc]
    exact (h.copies c (hwrites.copies c hc)).trans (lt_add_of_pos_right _ hwrites.pos)

section Runs

variable {σ ι : Type} {step : σ → ι → σ} {P fresh : σ → ι → Prop} {Inv : σ → Prop}
  (view : σ → View M)
  (hinv : ∀ s i, Inv s → P s i → Inv (step s i))
  (hmove : ∀ s i, Inv s → P s i → Reads (view s) (view (step s i)) ∧ fresh s i ∨
    ∃ copy amount, Writes copy amount (view s) (view (step s i)) ∧
      (fresh s i ↔ copy = (view s).value))

include hinv hmove in
lemma Lost.exec {s : σ} {is : List ι} (hs : Inv s) (hP : Run.Along step P s is)
    (h : Lost base (view s)) : Lost base (view (Run.exec step s is)) := by
  induction is generalizing s with
  | nil => exact h
  | cons i is ih =>
    refine ih (hinv s i hs hP.1) hP.2 ?_
    rcases hmove s i hs hP.1 with ⟨hreads, -⟩ | ⟨copy, amount, hwrites, -⟩
    · exact h.reads hreads
    · exact h.writes hwrites

include hinv hmove in
/-- The counter has grown by what was added exactly when every write went through an up-to-date
copy. -/
theorem kept_iff_fresh {s : σ} {is : List ι} (hs : Inv s) (hP : Run.Along step P s is)
    (h : Kept base (view s)) :
    (view (Run.exec step s is)).value = base + (view (Run.exec step s is)).total ↔
      Run.Along step fresh s is := by
  induction is generalizing s with
  | nil => exact iff_of_true h.value trivial
  | cons i is ih =>
    have hs' := hinv s i hs hP.1
    rw [Run.exec_cons, Run.along_cons]
    rcases hmove s i hs hP.1 with ⟨hreads, hfresh⟩ | ⟨copy, amount, hwrites, hfresh⟩
    · rw [ih hs' hP.2 (h.reads hreads), and_iff_right hfresh]
    by_cases hcopy : copy = (view s).value
    · rw [ih hs' hP.2 (h.writes hwrites hcopy), and_iff_right (hfresh.mpr hcopy)]
    · have hlost := Lost.exec view hinv hmove hs' hP.2 (h.lost hwrites hcopy)
      exact iff_of_false hlost.value.ne fun hall => hcopy (hfresh.mp hall.1)

end Runs

end Copies
