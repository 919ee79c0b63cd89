import Mathlib.Data.List.Sort
import Yunbay.Data.Table
import Yunbay.Data.WeightedPick

/-!
# Choosing a channel from the database

A channel serves some models for some groups of users. The table `abilities` has a row for each of
these. For a request, `GetChannel` takes the enabled rows of the group and the model that have the
priority of the retry, and picks one of them by weight.

`db_choice_weighted_iff`: the walk stops at zero and not below it, so the weights are exact only
when there is nothing to choose.
-/

namespace Yunbay

open WeightedPick

/-- A channel that serves a model in a group. -/
structure Ability where
  group : String
  model : String
  channelId : Int
  enabled : Bool
  priority : Int
  weight : Nat
  deriving DecidableEq

/-- The primary key of the table. -/
def Ability.key (ability : Ability) : String × String × Int :=
  (ability.group, ability.model, ability.channelId)

/-- The table `abilities`. -/
abbrev AbilityTable := Table (String × String × Int) Ability Ability.key

/-- The enabled rows of a group and a model. -/
def AbilityTable.enabled (abilities : AbilityTable) (group model : String) : List Ability :=
  abilities.rows.filter fun ability =>
    ability.group = group ∧ ability.model = model ∧ ability.enabled

/-- Different priorities, the highest first. -/
def sortedUniquePriorities (priorities : List Int) : List Int :=
  priorities.dedup.insertionSort (· ≥ ·)

/-- The priority of a retry. After the last one it stays. -/
def priorityAt (priorities : List Int) (retry : Nat) : Option Int :=
  (sortedUniquePriorities priorities)[min retry ((sortedUniquePriorities priorities).length - 1)]?

/-- In a list that falls, the position of an element is the number of greater ones. -/
lemma getElem?_eq_some_iff_countP {l : List Int} (h : l.Pairwise (· > ·)) {i : Nat} {p : Int} :
    l[i]? = some p ↔ p ∈ l ∧ l.countP (p < ·) = i := by
  induction l generalizing i with
  | nil => simp
  | cons a l ih =>
    obtain ⟨hhead, htail⟩ := List.pairwise_cons.mp h
    have hnone : l.countP (a < ·) = 0 :=
      List.countP_eq_zero.mpr fun b hb => by simpa using (hhead b hb).le
    rw [List.countP_cons, List.mem_cons]
    by_cases hp : p = a
    · subst hp
      have hnot : p ∉ l := fun hmem => lt_irrefl p (hhead p hmem)
      cases i <;> simp [hnone, ih htail, hnot]
    · by_cases hmem : p ∈ l
      · cases i <;> simp [ih htail, hmem, hhead p hmem, Ne.symm hp]
      · cases i <;> simp [ih htail, hmem, hp, Ne.symm hp]

/-- The retry chooses the priority by the number of greater ones. -/
lemma priorityAt_eq_some_iff {priorities : List Int} {retry : Nat} {p : Int} :
    priorityAt priorities retry = some p ↔ p ∈ priorities ∧
      priorities.dedup.countP (p < ·) = min retry (priorities.dedup.length - 1) := by
  have hperm : (sortedUniquePriorities priorities).Perm priorities.dedup :=
    List.perm_insertionSort _ _
  have hfalls : (sortedUniquePriorities priorities).Pairwise (· > ·) :=
    ((List.pairwise_insertionSort (· ≥ ·) _).and (hperm.nodup_iff.mpr (List.nodup_dedup _))).imp
      fun h => lt_of_le_of_ne h.1 h.2.symm
  rw [priorityAt, getElem?_eq_some_iff_countP hfalls, hperm.countP_eq, hperm.length_eq,
    hperm.mem_iff, List.mem_dedup]

def getPriority (abilities : AbilityTable) (group model : String) (retry : Nat) : Option Int :=
  priorityAt ((abilities.enabled group model).map (·.priority)) retry

/-- The rows that the query selects. The first try asks for `MAX(priority)`. -/
def getChannelQuery (abilities : AbilityTable) (group model : String) (retry : Nat) :
    List Ability :=
  let priority :=
    if retry = 0 then ((abilities.enabled group model).map (·.priority)).max?
    else getPriority abilities group model retry
  (abilities.enabled group model).filter fun ability => some ability.priority = priority

/-- What a row counts for: its weight, and 10 more. -/
def Ability.share (ability : Ability) : Nat := ability.weight + 10

/-- The row that `GetChannel` picks from the rows of the query with the random integer `draw`. -/
def pickAbility (rows : List Ability) (draw : Int) : Option Ability :=
  walk atZero Ability.share rows draw

/-- `GetChannel`, which answers with the channel of the picked row. The rows come from the query,
in the order of the database. -/
def getChannel (rows : List Ability) (draw : Int) : Option Int :=
  (pickAbility rows draw).map (·.channelId)

section Query

variable {abilities : AbilityTable} {group model : String} {retry : Nat}

lemma mem_enabled {ability : Ability} : ability ∈ abilities.enabled group model ↔
    ability ∈ abilities.rows ∧ ability.group = group ∧ ability.model = model ∧
      ability.enabled = true := by
  simp [AbilityTable.enabled]

lemma nodup_query (abilities : AbilityTable) (group model : String) (retry : Nat) :
    (getChannelQuery abilities group model retry).Nodup :=
  (abilities.nodup.of_map.filter _).filter _

end Query

/-- A row is picked by as many integers as it counts for exactly when there is no other. -/
theorem db_choice_weighted_iff {abilities : AbilityTable} {group model : String} {retry : Nat}
    {rows : List Ability} (hrows : rows.Perm (getChannelQuery abilities group model retry))
    (hne : rows ≠ []) :
    (∀ ability ∈ rows, draws atZero Ability.share rows (total Ability.share rows) ability =
      ability.weight + 10) ↔ rows.length = 1 := by
  have hnodup : rows.Nodup := hrows.nodup_iff.mpr (nodup_query abilities group model retry)
  have hpos : ∀ ability ∈ rows, 0 < ability.share := fun ability _ => Nat.succ_pos _
  have hdraws := fun ability => draws_at (a := ability) hnodup hpos hne
  constructor
  · intro hexact
    -- the first row is picked once too often, unless it is the last one as well
    have hhead := hdraws _ (List.head_mem hne)
    rw [hexact _ (List.head_mem hne), if_pos rfl, Ability.share] at hhead
    have hsame : rows.getLast hne = rows.head hne := by
      by_contra hother
      rw [if_neg hother] at hhead
      omega
    obtain ⟨first, rest, rfl⟩ := List.exists_cons_of_ne_nil hne
    by_contra hlength
    have hrest : rest ≠ [] := by
      rintro rfl
      exact hlength rfl
    rw [List.getLast_cons hrest, List.head_cons] at hsame
    exact (List.nodup_cons.mp hnodup).1 (hsame ▸ List.getLast_mem hrest)
  · intro hlength
    obtain ⟨only, rfl⟩ := List.length_eq_one_iff.mp hlength
    intro ability hability
    have hone := hdraws ability hability
    rw [List.getLast_singleton, List.head_cons] at hone
    exact Nat.add_right_cancel hone

/-- Two channels of one model, without weights. -/
def twoAbilities : AbilityTable where
  rows := [⟨"vip", "m", 1, true, 0, 0⟩, ⟨"vip", "m", 2, true, 0, 0⟩]
  nodup := by decide

/-- A single row is picked by all 10 integers. -/
theorem only_ability_weighted :
    draws atZero Ability.share [⟨"vip", "m", 1, true, 0, 0⟩] 10 ⟨"vip", "m", 1, true, 0, 0⟩ = 10 :=
  (@db_choice_weighted_iff (twoAbilities.filter (·.channelId = 1)) "vip" "m" 0 _ (List.Perm.refl _)
    (by decide)).mpr rfl _ List.mem_cons_self

/-- Of two rows that count for 10 each, the first is picked by 11 integers. -/
theorem first_ability_favoured :
    getChannelQuery twoAbilities "vip" "m" 0 = twoAbilities.rows ∧
      draws atZero Ability.share twoAbilities.rows (total Ability.share twoAbilities.rows)
        ⟨"vip", "m", 1, true, 0, 0⟩ = 11 := by
  decide

end Yunbay
