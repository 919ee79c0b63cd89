import Mathlib.Data.List.Sort
import Mathlib.Tactic

/-!
# Ordered queries

The rows a query selects come back in an order that is only a preorder on them: rows that compare
equal keep the order of the table. `List.insertionSort` is stable, so it is that order.

Selecting and ordering commute (`filter_insertionSort`), and the order matters only on the rows that
are selected (`insertionSort_congr`), so that two queries over one table can be compared by their
conditions alone.
-/

namespace OrderBy

variable {α : Type} (r s : α → α → Prop) [DecidableRel r] [DecidableRel s] {a : α} {rows : List α}
  {p : α → Bool} {f : α → α}

variable {r} in
/-- A row that goes before all others is put in front. -/
lemma orderedInsert_of_forall_rel (h : ∀ b ∈ rows, r a b) : rows.orderedInsert r a = a :: rows := by
  cases rows with
  | nil => rfl
  | cons b rows => exact List.orderedInsert_cons_of_le r rows (h b List.mem_cons_self)

/-- Selecting commutes with putting a row in its place. -/
lemma filter_orderedInsert [IsTrans α r] (p : α → Bool) (a : α) (hrows : rows.Pairwise r) :
    (rows.orderedInsert r a).filter p =
      if p a then (rows.filter p).orderedInsert r a else rows.filter p := by
  induction rows with
  | nil => cases hp : p a <;> simp [hp]
  | cons b rows ih =>
    obtain ⟨hb, hrest⟩ := List.pairwise_cons.mp hrows
    by_cases hab : r a b
    · -- the row goes in front of all rows, and so in front of the selected ones
      have hall : ∀ x ∈ (b :: rows).filter p, r a x := by
        intro x hx
        rcases List.mem_cons.mp (List.mem_of_mem_filter hx) with rfl | hx
        · exact hab
        · exact trans_of r hab (hb x hx)
      rw [List.orderedInsert_cons_of_le r rows hab, orderedInsert_of_forall_rel hall,
        List.filter_cons]
    · rw [List.orderedInsert_of_not_le r rows hab, List.filter_cons, List.filter_cons, ih hrest]
      by_cases hpa : p a = true <;> by_cases hpb : p b = true <;>
        simp [hpa, hpb, hab]

/-- Selecting commutes with ordering. -/
theorem filter_insertionSort [Std.Total r] [IsTrans α r] (p : α → Bool) (rows : List α) :
    (rows.insertionSort r).filter p = (rows.filter p).insertionSort r := by
  induction rows with
  | nil => rfl
  | cons a rows ih =>
    rw [List.insertionSort_cons, filter_orderedInsert r p a (List.pairwise_insertionSort r rows),
      ih, List.filter_cons]
    split_ifs
    · rw [List.insertionSort_cons]
    · rfl

variable {r s} in
/-- Two orders that agree on the rows order them alike. -/
theorem insertionSort_congr (h : ∀ a ∈ rows, ∀ b ∈ rows, r a b ↔ s a b) :
    rows.insertionSort r = rows.insertionSort s := by
  simpa using List.map_insertionSort r s id rows h

/-- An update that does not touch what a selection looks at commutes with it. -/
lemma filter_map_update (hp : ∀ a, p (f a) = p a) (rows : List α) :
    (rows.map f).filter p = (rows.filter p).map f := by
  have hsame : p ∘ f = p := funext hp
  rw [List.filter_map, hsame]

/-- An update that leaves every selected row as it is leaves the selection as it is. -/
lemma filter_map_of_fixed (hp : ∀ a, p (f a) = p a) (hfixed : ∀ a, p a = true → f a = a)
    (rows : List α) : (rows.map f).filter p = rows.filter p := by
  rw [filter_map_update hp, List.map_congr_left fun a ha => hfixed a (List.mem_filter.mp ha).2,
    List.map_id']

/-- The rows from the first one on that passes a test are all that pass it, when passing it goes on
along the order. -/
lemma dropWhile_eq_filter (h : rows.Pairwise fun a b => p a = true → p b = true) :
    rows.dropWhile (fun a => !p a) = rows.filter p := by
  induction rows with
  | nil => rfl
  | cons a rows ih =>
    obtain ⟨ha, hrest⟩ := List.pairwise_cons.mp h
    by_cases hp : p a = true
    · have hall : rows.filter p = rows := List.filter_eq_self.mpr fun b hb => ha b hb hp
      simp [hp, hall]
    · simp [hp, ih hrest]

/-- The rows after a given one are those that pass a test which fails up to it. -/
lemma filter_append_cons {before after : List α}
    (hbefore : ∀ b ∈ before, p b = false) (ha : p a = false) (hafter : ∀ b ∈ after, p b = true) :
    (before ++ a :: after).filter p = after := by
  have hnone : before.filter p = [] := List.filter_eq_nil_iff.mpr fun b hb => by simp [hbefore b hb]
  have hall : after.filter p = after := List.filter_eq_self.mpr hafter
  simp [List.filter_append, hnone, hall, ha]

end OrderBy
