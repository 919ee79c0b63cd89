import Mathlib.Algebra.BigOperators.Group.List.Basic
import Mathlib.Data.List.Chain
import Mathlib.Tactic

/-!
# Journals of a counter

A journal has one entry for every change of a counter, with the change and the value before and
after it. `Journal.Faithful` says that the journal accounts for the counter, and `Faithful.append`
that it still does after a further change. -/

namespace Journal

/-- One change of a counter. -/
structure Entry (M : Type) where
  delta : M
  before : M
  after : M

variable {M : Type} [AddCommGroup M]

/-- The entries account for the value of a counter that has started at zero. -/
structure Faithful (entries : List (Entry M)) (value : M) : Prop where
  sum : value = (entries.map Entry.delta).sum
  /-- The value is the one after the last change. -/
  last : value = entries.getLast?.elim 0 Entry.after
  /-- Every change starts where the one before it has ended. -/
  chain : entries.IsChain fun entry next => next.before = entry.after
  change : ∀ entry ∈ entries, entry.after = entry.before + entry.delta

lemma faithful_nil : Faithful ([] : List (Entry M)) 0 where
  sum := rfl
  last := rfl
  chain := List.isChain_nil
  change := nofun

/-- A change that starts at the value of the counter, and is entered, keeps the journal faithful. -/
theorem Faithful.append {entries : List (Entry M)} {value : M} (h : Faithful entries value)
    {entry : Entry M} (hbefore : entry.before = value)
    (hchange : entry.after = entry.before + entry.delta) :
    Faithful (entries ++ [entry]) entry.after where
  sum := by rw [hchange, hbefore, h.sum, List.map_append, List.sum_append, List.map_singleton,
    List.sum_singleton]
  last := by simp
  chain := by
    refine List.isChain_append.mpr ⟨h.chain, List.isChain_singleton _, ?_⟩
    intro last hlast first hfirst
    simp only [List.head?_cons, Option.mem_def, Option.some.injEq] at hfirst
    rw [← hfirst, hbefore, h.last, Option.mem_def.mp hlast]
    rfl
  change := List.forall_mem_append.mpr ⟨h.change, List.forall_mem_singleton.mpr hchange⟩

end Journal
