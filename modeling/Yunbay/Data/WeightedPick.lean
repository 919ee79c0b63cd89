import Mathlib.Algebra.Order.BigOperators.Group.List
import Mathlib.Algebra.Order.Group.Nat
import Mathlib.Algebra.Order.Ring.Int
import Mathlib.Data.List.Count
import Mathlib.Data.List.Nodup
import Mathlib.Data.List.Range

/-!
# Picking an element by weight

A number is drawn below the sum of all weights. `walk` goes through the elements, takes their
weights off the number, and picks the element at which it stops. There are two ways to stop.

* Below zero: every element is picked by as many numbers as it weighs (`draws_below`).
* At zero: the first element is picked by one number more, and the last by one number less
  (`draws_at`).
-/

namespace WeightedPick

variable {α : Type}

/-- The sum of all weights. -/
def total (weight : α → Nat) (elements : List α) : Nat := (elements.map weight).sum

/-- Take the weights off the number, and pick the element at which it stops. -/
def walk (stop : Int → Bool) (weight : α → Nat) : List α → Int → Option α
  | [], _ => none
  | a :: rest, number =>
    if stop (number - weight a) then some a else walk stop weight rest (number - weight a)

/-- Stop below zero. -/
def below (number : Int) : Bool := number < 0

/-- Stop at zero or below. -/
def atZero (number : Int) : Bool := number ≤ 0

section Draws

variable [DecidableEq α]

/-- How many of the first `range` numbers pick `a`. -/
def draws (stop : Int → Bool) (weight : α → Nat) (elements : List α) (range : Nat) (a : α) : Nat :=
  (List.range range).countP fun number : Nat => walk stop weight elements number = some a

end Draws

variable {stop : Int → Bool} {weight : α → Nat} {elements : List α} {a : α}

lemma mem_of_walk {number : Int} (h : walk stop weight elements number = some a) :
    a ∈ elements := by
  induction elements generalizing number with
  | nil => cases h
  | cons b rest ih =>
    rw [walk] at h
    split_ifs at h
    · rw [Option.some.inj h]
      exact List.mem_cons_self
    · exact List.mem_cons_of_mem b (ih h)

/-- Stopping at zero is stopping below zero at the number before. -/
lemma walk_atZero_succ (number : Int) :
    walk atZero weight elements (number + 1) = walk below weight elements number := by
  induction elements generalizing number with
  | nil => rfl
  | cons b rest ih =>
    have hstop : atZero (number + 1 - weight b) = below (number - weight b) := by
      simp only [atZero, below, decide_eq_decide]
      omega
    rw [walk, walk, hstop, show number + 1 - (weight b : Int) = number - weight b + 1 by omega, ih]

lemma walk_below_of_lt {b : α} {rest : List α} {number : Nat} (h : number < weight b) :
    walk below weight (b :: rest) number = some b := by
  refine if_pos ?_
  simp only [below, decide_eq_true_eq]
  omega

lemma walk_below_add (b : α) (rest : List α) (number : Nat) :
    walk below weight (b :: rest) ((weight b + number : Nat) : Int) =
      walk below weight rest number := by
  have hrest : ((weight b + number : Nat) : Int) - weight b = number := by omega
  rw [walk, hrest]
  refine if_neg ?_
  simp [below]

lemma walk_below_of_lt_total {number : Nat} (h : number < total weight elements) :
    ∃ a ∈ elements, walk below weight elements number = some a := by
  induction elements generalizing number with
  | nil => simp [total] at h
  | cons b rest ih =>
    by_cases hb : number < weight b
    · exact ⟨b, List.mem_cons_self, walk_below_of_lt hb⟩
    · obtain ⟨rest', rfl⟩ := Nat.exists_eq_add_of_le (not_lt.mp hb)
      rw [total, List.map_cons, List.sum_cons] at h
      obtain ⟨a, ha, hwalk⟩ := ih (Nat.lt_of_add_lt_add_left h)
      exact ⟨a, List.mem_cons_of_mem b ha, (walk_below_add b rest rest').trans hwalk⟩

/-- How it stops matters only for the numbers that come up. -/
lemma walk_congr {bound : Nat} (hstop : ∀ n : Int, -bound ≤ n → n ≤ bound → stop n = below n)
    (hle : total weight elements ≤ bound) {number : Nat} (hnumber : number ≤ bound) :
    walk stop weight elements number = walk below weight elements number := by
  induction elements generalizing number with
  | nil => rfl
  | cons b rest ih =>
    rw [total, List.map_cons, List.sum_cons] at hle
    rw [walk, walk, hstop _ (by omega) (by omega)]
    by_cases hb : number < weight b
    · simp [below, hb]
    · obtain ⟨left, rfl⟩ := Nat.exists_eq_add_of_le (not_lt.mp hb)
      rw [show ((weight b + left : Nat) : Int) - weight b = left by omega,
        ih (show (rest.map weight).sum ≤ bound by omega) (by omega)]

/-- With positive weights, the greatest number picks the last element. -/
lemma walk_below_last (hpos : ∀ b ∈ elements, 0 < weight b) (hne : elements ≠ []) :
    walk below weight elements ((total weight elements - 1 : Nat) : Int) =
      some (elements.getLast hne) := by
  induction elements with
  | nil => exact absurd rfl hne
  | cons b rest ih =>
    have hb : 0 < weight b := hpos b List.mem_cons_self
    by_cases hrest : rest = []
    · subst hrest
      refine walk_below_of_lt ?_
      simp only [total, List.map_cons, List.map_nil, List.sum_cons, List.sum_nil]
      omega
    · have hpos' : ∀ c ∈ rest, 0 < weight c := fun c hc => hpos c (List.mem_cons_of_mem b hc)
      have htotal : 0 < total weight rest := by
        obtain ⟨c, hc⟩ := List.exists_mem_of_ne_nil rest hrest
        exact (hpos' c hc).trans_le (List.single_le_sum (by simp) _ (List.mem_map_of_mem hc))
      have hstep : total weight (b :: rest) - 1 = weight b + (total weight rest - 1) := by
        simp only [total, List.map_cons, List.sum_cons] at htotal ⊢
        omega
      rw [hstep, walk_below_add, ih hpos' hrest, List.getLast_cons hrest]

variable [DecidableEq α]

lemma draws_pos_iff {range : Nat} : 0 < draws stop weight elements range a ↔
    ∃ number : Nat, number < range ∧ walk stop weight elements number = some a := by
  simp [draws, List.countP_pos_iff]

lemma draws_of_notMem (ha : a ∉ elements) (range : Nat) :
    draws stop weight elements range a = 0 := by
  rw [← Nat.le_zero, ← not_lt, draws_pos_iff]
  rintro ⟨number, -, hwalk⟩
  exact ha (mem_of_walk hwalk)

lemma draws_below_cons (b : α) (rest : List α) :
    draws below weight (b :: rest) (total weight (b :: rest)) a =
      (if b = a then weight b else 0) + draws below weight rest (total weight rest) a := by
  have htotal : total weight (b :: rest) = weight b + total weight rest := by simp [total]
  rw [draws, draws, htotal, List.range_add, List.countP_append, List.countP_map]
  congr 1
  · -- the first `weight b` numbers pick `b`
    have hfirst : ∀ number ∈ List.range (weight b),
        decide (walk below weight (b :: rest) number = some a) = true ↔ decide (b = a) = true := by
      intro number hnumber
      simp only [walk_below_of_lt (List.mem_range.mp hnumber), Option.some.injEq]
    rw [List.countP_congr hfirst]
    by_cases hb : b = a <;> simp [hb]
  · refine List.countP_congr fun number _ => ?_
    rw [Function.comp_apply, walk_below_add]

/-- Stopping below zero, every element is picked by as many numbers as it weighs. -/
theorem draws_below (hnodup : elements.Nodup) (ha : a ∈ elements) :
    draws below weight elements (total weight elements) a = weight a := by
  induction elements with
  | nil => cases ha
  | cons b rest ih =>
    obtain ⟨hb, hrest⟩ := List.nodup_cons.mp hnodup
    rw [draws_below_cons]
    by_cases heq : b = a
    · rw [if_pos heq, draws_of_notMem (heq ▸ hb), heq, Nat.add_zero]
    · rw [if_neg heq, Nat.zero_add]
      exact ih hrest ((List.mem_cons.mp ha).resolve_left fun h => heq h.symm)

/-- A number picks one element only. -/
lemma sum_countP_le (hnodup : elements.Nodup) (pick : Nat → Option α) (numbers : List Nat) :
    (elements.map fun a => numbers.countP fun number => pick number = some a).sum ≤
      numbers.length := by
  induction numbers with
  | nil => simp
  | cons number rest ih =>
    have hone : (elements.map fun a => if pick number = some a then 1 else 0).sum ≤ 1 := by
      cases hpick : pick number with
      | none => simp
      | some b =>
        have hcount := List.nodup_iff_count_le_one.mp hnodup b
        simpa [List.sum_map_ite, List.count_eq_length_filter, beq_eq_decide, eq_comm] using hcount
    simp only [List.countP_cons, decide_eq_true_eq, List.sum_map_add, List.length_cons]
    omega

lemma exists_draw_iff (hnodup : elements.Nodup) (ha : a ∈ elements) :
    (∃ number : Nat, number < total weight elements ∧
      walk below weight elements number = some a) ↔ 0 < weight a := by
  rw [← draws_pos_iff, draws_below hnodup ha]

/-- Stopping at zero, the first element is picked by one number more than it weighs, and the last
by one number less. -/
theorem draws_at (hnodup : elements.Nodup) (hpos : ∀ b ∈ elements, 0 < weight b)
    (hne : elements ≠ []) (ha : a ∈ elements) :
    draws atZero weight elements (total weight elements) a +
        (if elements.getLast hne = a then 1 else 0) =
      weight a + (if elements.head hne = a then 1 else 0) := by
  have hbelow : draws below weight elements (total weight elements) a = weight a :=
    draws_below hnodup ha
  obtain ⟨b, rest, rfl⟩ := List.exists_cons_of_ne_nil hne
  have htotal : total weight (b :: rest) = total weight (b :: rest) - 1 + 1 := by
    have hb := hpos b List.mem_cons_self
    simp only [total, List.map_cons, List.sum_cons]
    omega
  have hlast := walk_below_last hpos hne
  have hfirst : walk atZero weight (b :: rest) ((0 : Nat) : Int) = some b := by
    refine if_pos ?_
    simp [atZero]
  -- below zero, the last number picks the last element
  rw [draws, htotal, List.range_succ, List.countP_append, List.countP_singleton, hlast] at hbelow
  -- at zero, the first number picks the first element, and the others are those below zero
  rw [draws, htotal, List.range_succ_eq_map, List.countP_cons, List.countP_map, hfirst]
  have hshift : ((fun number : Nat => decide (walk atZero weight (b :: rest) number = some a)) ∘
      Nat.succ) = fun number : Nat => decide (walk below weight (b :: rest) number = some a) := by
    funext number
    rw [Function.comp_apply, Nat.cast_succ, walk_atZero_succ]
  rw [hshift]
  simp only [Option.some.injEq, decide_eq_true_eq] at hbelow ⊢
  rw [List.head_cons, ← hbelow]
  omega

end WeightedPick
