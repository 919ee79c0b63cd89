import Mathlib.Algebra.Order.BigOperators.Group.List
import Mathlib.Tactic

/-!
# Keyed tables

A table is a list of rows, in insertion order, whose keys are pairwise different. The
uniqueness of keys is a field of `Table`, so no operation can build a table with two rows of
one key.
-/

/-- Rows of type `α` in insertion order, with pairwise different keys. -/
structure Table (κ α : Type) (key : α → κ) where
  /-- The rows, oldest first. -/
  rows : List α
  /-- No two rows share a key. -/
  nodup : (rows.map key).Nodup

namespace Table

variable {κ α : Type} {key : α → κ}

variable {t : Table κ α key} {M : Type} {k : κ} {row old : α}

/-- A table is its list of rows. -/
@[ext]
lemma ext_rows {t' : Table κ α key} (h : t.rows = t'.rows) : t = t' := by
  cases t
  cases t'
  cases h
  rfl

/-- The table without rows. -/
def empty : Table κ α key := ⟨[], List.nodup_nil⟩

/-- Keep the rows that pass `p`. -/
def filter (t : Table κ α key) (p : α → Bool) : Table κ α key :=
  ⟨t.rows.filter p, t.nodup.sublist (List.filter_sublist.map key)⟩

/-- The sum of the weight `f` over all rows. -/
def sumBy {M : Type} [AddMonoid M] (t : Table κ α key) (f : α → M) : M := (t.rows.map f).sum

/-- Weights that agree on all rows have the same sum. -/
lemma sumBy_congr [AddMonoid M] {f g : α → M}
    (h : ∀ row ∈ t.rows, f row = g row) : t.sumBy f = t.sumBy g := by
  rw [sumBy, sumBy, List.map_congr_left h]

/-- The sum over a part of a list is a sum over the list. -/
lemma sum_filter [AddCommMonoid M] (p : α → Prop) [DecidablePred p] (f : α → M) (rows : List α) :
    ((rows.filter p).map f).sum = (rows.map fun row => if p row then f row else 0).sum := by
  rw [List.sum_map_ite, List.map_const', List.sum_replicate, smul_zero, add_zero]

section First

variable {before : α → α → Bool} {t : Table κ α key} {p : α → Bool}

/-- The row of a list that comes first in the order `before`. -/
def firstBy (before : α → α → Bool) : List α → Option α
  | [] => none
  | row :: rows =>
    match firstBy before rows with
    | none => some row
    | some other => some (if before other row then other else row)

/-- `SELECT … WHERE p ORDER BY before LIMIT 1`. -/
def first? (t : Table κ α key) (p : α → Bool) (before : α → α → Bool) : Option α :=
  firstBy before (t.rows.filter p)

lemma mem_of_firstBy {rows : List α} {row : α} (h : firstBy before rows = some row) :
    row ∈ rows := by
  induction rows generalizing row with
  | nil => cases h
  | cons head rows ih =>
    rw [firstBy] at h
    cases hrest : firstBy before rows with
    | none => simp_all
    | some other =>
      rw [hrest] at h
      cases h
      split_ifs
      · exact List.mem_cons_of_mem head (ih hrest)
      · exact List.mem_cons_self

lemma firstBy_eq_none_iff {rows : List α} : firstBy before rows = none ↔ rows = [] := by
  cases rows with
  | nil => simp [firstBy]
  | cons head rows =>
    rw [firstBy]
    cases firstBy before rows <;> simp

lemma first?_eq_some {row : α} (h : t.first? p before = some row) : row ∈ t.rows ∧ p row = true :=
  List.mem_filter.mp (mem_of_firstBy h)

lemma first?_eq_none_iff : t.first? p before = none ↔ ∀ row ∈ t.rows, p row = false := by
  simp [first?, firstBy_eq_none_iff]

end First

variable [DecidableEq κ]

/-- The row with key `k`. -/
def get? (t : Table κ α key) (k : κ) : Option α := t.rows.find? fun row => key row = k

/-- The rows after writing `row`: in place if its key is present, at the end otherwise. -/
def putRows (t : Table κ α key) (row : α) : List α :=
  match t.get? (key row) with
  | some _ => t.rows.map fun old => if key old = key row then row else old
  | none => t.rows ++ [row]

@[simp]
lemma get?_empty (k : κ) : (empty : Table κ α key).get? k = none := rfl

/-- A key is read as `row` exactly when `row` is in the table under that key. -/
lemma get?_eq_some_iff : t.get? k = some row ↔ row ∈ t.rows ∧ key row = k := by
  constructor
  · intro h
    exact ⟨List.mem_of_find?_eq_some h, by simpa using List.find?_some h⟩
  · rintro ⟨hmem, rfl⟩
    cases hfind : t.get? (key row) with
    | none =>
      have := List.find?_eq_none.mp hfind row hmem
      simp at this
    | some other =>
      have hother : other ∈ t.rows := List.mem_of_find?_eq_some hfind
      have hkey : key other = key row := by simpa using List.find?_some hfind
      rw [List.inj_on_of_nodup_map t.nodup hother hmem hkey]

/-- A key is absent exactly when no row carries it. -/
lemma get?_eq_none_iff : t.get? k = none ↔ ∀ row ∈ t.rows, key row ≠ k := by
  simp [get?, List.find?_eq_none]

lemma mem_of_get? (h : t.get? k = some row) : row ∈ t.rows :=
  (get?_eq_some_iff.mp h).1

lemma key_of_get? (h : t.get? k = some row) : key row = k :=
  (get?_eq_some_iff.mp h).2

lemma get?_of_mem (h : row ∈ t.rows) : t.get? (key row) = some row :=
  get?_eq_some_iff.mpr ⟨h, rfl⟩

lemma putRows_of_none (h : t.get? (key row) = none) : t.putRows row = t.rows ++ [row] := by
  simp [putRows, h]

lemma putRows_of_some (h : t.get? (key row) = some old) :
    t.putRows row = t.rows.map fun x => if key x = key row then row else x := by
  simp [putRows, h]

/-- Overwriting a row in place leaves the list of keys as it is. -/
private lemma map_key_overwrite (rows : List α) (row : α) :
    (rows.map fun x => if key x = key row then row else x).map key = rows.map key := by
  rw [List.map_map]
  refine List.map_congr_left fun x _ => ?_
  by_cases h : key x = key row <;> simp [h]

/-- Write `row` under its own key. -/
def put (t : Table κ α key) (row : α) : Table κ α key where
  rows := t.putRows row
  nodup := by
    cases h : t.get? (key row) with
    | some old =>
      rw [putRows_of_some h, map_key_overwrite]
      exact t.nodup
    | none =>
      rw [putRows_of_none h, List.map_append, List.nodup_append]
      refine ⟨t.nodup, List.nodup_singleton _, ?_⟩
      intro k hk k' hk' heq
      obtain ⟨x, hx, rfl⟩ := List.mem_map.mp hk
      rw [List.map_singleton, List.mem_singleton] at hk'
      exact get?_eq_none_iff.mp h x hx (heq.trans hk')

lemma put_rows_of_none (h : t.get? (key row) = none) : (t.put row).rows = t.rows ++ [row] :=
  putRows_of_none h

lemma put_rows_of_some (h : t.get? (key row) = some old) :
    (t.put row).rows = t.rows.map fun x => if key x = key row then row else x :=
  putRows_of_some h

/-- A write over an existing row leaves the list of keys as it is. -/
lemma map_key_put (h : t.get? (key row) = some old) :
    (t.put row).rows.map key = t.rows.map key := by
  rw [put_rows_of_some h, map_key_overwrite]

/-- After a write the table holds the new row and every old row of another key. -/
lemma mem_put {x : α} : x ∈ (t.put row).rows ↔ x = row ∨ (x ∈ t.rows ∧ key x ≠ key row) := by
  cases h : t.get? (key row) with
  | none =>
    have habsent := get?_eq_none_iff.mp h
    rw [put_rows_of_none h, List.mem_append, List.mem_singleton]
    constructor
    · rintro (hx | rfl)
      · exact .inr ⟨hx, habsent x hx⟩
      · exact .inl rfl
    · rintro (rfl | ⟨hx, -⟩)
      · exact .inr rfl
      · exact .inl hx
  | some old =>
    rw [put_rows_of_some h, List.mem_map]
    constructor
    · rintro ⟨y, hy, rfl⟩
      by_cases hkey : key y = key row
      · simp [hkey]
      · simp [hkey, hy]
    · rintro (rfl | ⟨hx, hkey⟩)
      · exact ⟨old, mem_of_get? h, by simp [key_of_get? h]⟩
      · exact ⟨x, hx, by simp [hkey]⟩

/-- What holds of the new row and of all old ones holds of the rows after a write. -/
lemma forall_mem_put {P : α → Prop} (hrow : P row) (h : ∀ x ∈ t.rows, P x) :
    ∀ x ∈ (t.put row).rows, P x := by
  intro x hx
  rcases mem_put.mp hx with rfl | ⟨hold, -⟩
  · exact hrow
  · exact h x hold

/-- A write is read back under its own key and is invisible under every other key. -/
lemma get?_put (t : Table κ α key) (row : α) (k : κ) :
    (t.put row).get? k = if key row = k then some row else t.get? k := by
  by_cases hk : key row = k
  · rw [if_pos hk, get?_eq_some_iff, mem_put]
    exact ⟨.inl rfl, hk⟩
  · rw [if_neg hk]
    cases h : t.get? k with
    | none =>
      rw [get?_eq_none_iff] at h ⊢
      exact forall_mem_put hk h
    | some old =>
      have hkey := key_of_get? h
      rw [get?_eq_some_iff, mem_put]
      exact ⟨.inr ⟨mem_of_get? h, fun heq => hk (heq.symm.trans hkey)⟩, hkey⟩

@[simp]
lemma get?_put_self (t : Table κ α key) (row : α) : (t.put row).get? (key row) = some row := by
  simp [get?_put]

lemma get?_put_of_ne (t : Table κ α key) (h : key row ≠ k) : (t.put row).get? k = t.get? k := by
  simp [get?_put, h]

/-- A write over the row of a key changes what is found under that key. -/
lemma get?_put_update (f : α → α)
    (hget : t.get? k = some row) (hkey : key (f row) = k) (other : κ) :
    (t.put (f row)).get? other = (t.get? other).map fun r => if other = k then f r else r := by
  rw [get?_put, hkey]
  by_cases hother : other = k
  · subst hother
    rw [if_pos rfl, hget, Option.map_some, if_pos rfl]
  · rw [if_neg (Ne.symm hother)]
    simp [hother]

/-- A change that leaves the row of a key alone changes nothing. -/
lemma map_get?_of_fixed {f : α → α} (hf : ∀ row, t.get? k = some row → f row = row) (other : κ) :
    ((t.get? other).map fun r => if other = k then f r else r) = t.get? other := by
  by_cases hother : other = k
  · subst hother
    cases hget : t.get? other with
    | none => rfl
    | some row => simp [hf row hget]
  · simp [hother]

/-- Of two writes under one key the second counts. -/
lemma put_put (t : Table κ α key) {row' : α} (hkey : key row' = key row) :
    (t.put row).put row' = t.put row' := by
  have hself : (t.put row).get? (key row') = some row := hkey ▸ get?_put_self t row
  apply ext_rows
  rw [put_rows_of_some hself]
  cases h : t.get? (key row) with
  | none =>
    rw [put_rows_of_none h, put_rows_of_none (hkey ▸ h), List.map_append]
    congr 1
    · conv_rhs => rw [← List.map_id t.rows]
      refine List.map_congr_left fun x hx => ?_
      rw [if_neg, id]
      exact fun hx' => get?_eq_none_iff.mp h x hx (hx'.trans hkey)
    · simp [hkey]
  | some old =>
    rw [put_rows_of_some h, put_rows_of_some (hkey ▸ h), List.map_map]
    refine List.map_congr_left fun x _ => ?_
    by_cases hx : key x = key row
    · simp [hx, hkey]
    · simp [hx, hkey]

/-- Deleting rows only removes keys. -/
lemma get?_filter_eq_some {p : α → Bool} :
    (t.filter p).get? k = some row ↔ t.get? k = some row ∧ p row = true := by
  simp only [get?_eq_some_iff, filter, List.mem_filter]
  tauto

/-- Change every row in place, by a function that leaves the keys alone. -/
def mapRows (t : Table κ α key) (f : α → α) (hkey : ∀ row, key (f row) = key row) :
    Table κ α key where
  rows := t.rows.map f
  nodup := by
    have hkeys : key ∘ f = key := funext hkey
    rw [List.map_map, hkeys]
    exact t.nodup

lemma get?_mapRows (t : Table κ α key) (f : α → α) (hkey : ∀ row, key (f row) = key row)
    (k : κ) : (t.mapRows f hkey).get? k = (t.get? k).map f := by
  unfold get? mapRows
  rw [List.find?_map]
  congr 2
  exact funext fun row => by simp [hkey]

section NextId

variable {key : α → Int} (t : Table Int α key) (last : Int)

/-- The next value of an auto-increment key that has last been set to `last`. -/
def nextId : Int := (t.rows.map key).foldl max last + 1

lemma foldl_max_ge (ids : List Int) (n : Int) :
    n ≤ ids.foldl max n ∧ ∀ id ∈ ids, id ≤ ids.foldl max n := by
  induction ids generalizing n with
  | nil => exact ⟨le_refl n, nofun⟩
  | cons head ids ih =>
    obtain ⟨hstart, hids⟩ := ih (max n head)
    refine ⟨(le_max_left n head).trans hstart, ?_⟩
    intro id hid
    rcases List.mem_cons.mp hid with rfl | htail
    · exact (le_max_right n id).trans hstart
    · exact hids id htail

lemma lt_nextId : last < t.nextId last := by
  have := (foldl_max_ge (t.rows.map key) last).1
  unfold nextId
  omega

/-- The next id is new. -/
lemma get?_nextId : t.get? (t.nextId last) = none := by
  rw [get?_eq_none_iff]
  intro row hrow heq
  have := (foldl_max_ge (t.rows.map key) last).2 _ (List.mem_map_of_mem hrow)
  unfold nextId at heq
  omega

end NextId

section Filter

variable {t : Table κ α key} {row : α} {p : α → Bool}

/-- A new row comes last among the rows that pass a test. -/
lemma filter_put_of_none (h : t.get? (key row) = none) :
    (t.put row).rows.filter p = t.rows.filter p ++ if p row then [row] else [] := by
  rw [put_rows_of_none h, List.filter_append]
  cases hp : p row <;> simp [hp]

/-- A row written over one with the same outcome of a test takes its place among the rows that
pass. -/
lemma filter_put_of_some {old : α} (h : t.get? (key row) = some old) (hp : p row = p old) :
    (t.put row).rows.filter p =
      (t.rows.filter p).map fun x => if key x = key row then row else x := by
  rw [put_rows_of_some h, List.filter_map]
  congr 1
  refine List.filter_congr fun x hx => ?_
  by_cases hkey : key x = key row
  · -- the only row of this key is the old one
    have hxold : x = old := by
      have hget := get?_of_mem hx
      rw [hkey, h] at hget
      exact (Option.some.inj hget).symm
    rw [Function.comp_apply, if_pos hkey, hp, hxold]
  · simp only [Function.comp_apply, if_neg hkey]

/-- A write between rows that fail a test is invisible to it. -/
lemma filter_put_of_not (hrow : p row = false)
    (hold : ∀ old, t.get? (key row) = some old → p old = false) :
    (t.put row).rows.filter p = t.rows.filter p := by
  cases h : t.get? (key row) with
  | none => simp [filter_put_of_none h, hrow]
  | some old =>
    rw [filter_put_of_some h (hrow.trans (hold old h).symm)]
    conv_rhs => rw [← List.map_id (t.rows.filter p)]
    refine List.map_congr_left fun x hx => ?_
    rw [List.mem_filter] at hx
    rw [if_neg, id]
    intro hkey
    have hget := get?_of_mem hx.1
    rw [hkey] at hget
    rw [hold x hget] at hx
    exact absurd hx.2 Bool.false_ne_true

end Filter

section Sum

variable {M : Type} [AddCommGroup M] {f : α → M}

/-- Weights after an in-place overwrite: the only change is at the overwritten row. -/
private lemma sum_overwrite (rows : List α) (hnodup : (rows.map key).Nodup) {row old : α}
    (hold : old ∈ rows) (hkey : key old = key row) :
    ((rows.map fun x => if key x = key row then row else x).map f).sum
      = (rows.map f).sum - f old + f row := by
  induction rows with
  | nil => cases hold
  | cons y ys ih =>
    rw [List.map_cons, List.nodup_cons] at hnodup
    by_cases hy : key y = key row
    · -- the head is the row of this key, so no later row changes
      have hyold : y = old := by
        rcases List.mem_cons.mp hold with rfl | htail
        · rfl
        · exact absurd (List.mem_map.mpr ⟨old, htail, hkey.trans hy.symm⟩) hnodup.1
      have htail : (ys.map fun x => if key x = key row then row else x) = ys := by
        conv_rhs => rw [← List.map_id ys]
        refine List.map_congr_left fun x hx => ?_
        rw [if_neg, id]
        intro hx'
        exact hnodup.1 (List.mem_map.mpr ⟨x, hx, hx'.trans hy.symm⟩)
      simp only [List.map_cons, if_pos hy, List.sum_cons, htail, ← hyold]
      abel
    · have hmem : old ∈ ys := by
        rcases List.mem_cons.mp hold with rfl | htail
        · exact absurd hkey hy
        · exact htail
      simp only [List.map_cons, if_neg hy, List.sum_cons, ih hnodup.2 hmem]
      abel

/-- One write moves a weighted sum by the new row's weight minus the overwritten row's. -/
lemma sumBy_put (t : Table κ α key) (row : α) :
    (t.put row).sumBy f = t.sumBy f - (t.get? (key row)).elim 0 f + f row := by
  cases h : t.get? (key row) with
  | none => simp [sumBy, put_rows_of_none h]
  | some old =>
    rw [sumBy, put_rows_of_some h, sum_overwrite _ t.nodup (mem_of_get? h) (key_of_get? h)]
    simp [sumBy]

end Sum

end Table
