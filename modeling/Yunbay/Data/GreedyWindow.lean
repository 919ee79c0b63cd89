import Mathlib.Data.List.Sort
import Mathlib.Data.List.TakeWhile
import Mathlib.Algebra.BigOperators.Group.List.Basic
import Mathlib.Tactic

/-!
# Greedy fixed-length windows

Events carry a time and a weight. Read from the left, the first event opens a window of length
`w`; every event before the end of the open window joins it, and the first event at or after
its end opens the next one.

The lemmas say how the weight of the open window moves when an event is appended, replaced or
dropped, when weights are raised, and when time passes. The events need not be sorted.
-/

namespace GreedyWindow

variable {α : Type} (time weight : α → ℤ) (w : ℤ)

/-- Feed one event to the last window, given as its start and its weight so far. -/
def push (acc : Option (ℤ × ℤ)) (a : α) : Option (ℤ × ℤ) :=
  match acc with
  | none => some (time a, weight a)
  | some (start, used) =>
    if start + w ≤ time a then some (time a, weight a) else some (start, used + weight a)

/-- Start and weight of the last greedy window of `events`. -/
def last (events : List α) : Option (ℤ × ℤ) := events.foldl (push time weight w) none

/-- The weight of a window while it is open at `now`, and `0` once it has closed. -/
def openWeight (window : Option (ℤ × ℤ)) (now : ℤ) : ℤ :=
  match window with
  | none => 0
  | some (start, used) => if now < start + w then used else 0

/-- The weight of the last window of `events` while it is open at `now`. -/
def usedAt (events : List α) (now : ℤ) : ℤ := openWeight w (last time weight w events) now

/-- The windows themselves: the first event opens one, the events before its end join it, and the
rest is cut in the same way. -/
def windows : List α → List (List α)
  | [] => []
  | a :: events =>
    (a :: events.takeWhile fun b => time b < time a + w) ::
      windows (events.dropWhile fun b => time b < time a + w)
termination_by events => events.length
decreasing_by exact Nat.lt_succ_of_le (List.dropWhile_sublist _).length_le

variable {time weight w}

@[simp]
lemma last_nil : last time weight w [] = none := rfl

@[simp]
lemma usedAt_nil (now : ℤ) : usedAt time weight w [] now = 0 := rfl

lemma last_append (events : List α) (a : α) :
    last time weight w (events ++ [a]) = push time weight w (last time weight w events) a := by
  simp [last]

/-- Events before the end of the open window join it. -/
lemma foldl_push_of_lt {start used : ℤ} {events : List α} (h : ∀ b ∈ events, time b < start + w) :
    events.foldl (push time weight w) (some (start, used)) =
      some (start, used + (events.map weight).sum) := by
  induction events generalizing used with
  | nil => simp
  | cons b events ih =>
    obtain ⟨hb, hevents⟩ := List.forall_mem_cons.mp h
    simp [push, not_le.mpr hb, ih hevents, add_assoc]

/-- The last window is the last one of the windows. -/
lemma last_eq_windows (events : List α) :
    last time weight w events = (windows time w events).getLast?.bind fun window =>
      window.head?.map fun first => (time first, (window.map weight).sum) := by
  induction events using windows.induct time w with
  | case1 => simp [windows]
  | case2 a events ih =>
    have hjoin : ∀ b ∈ events.takeWhile fun b => time b < time a + w, time b < time a + w :=
      fun b hb => by simpa using List.mem_takeWhile_imp hb
    rw [windows, last, List.foldl_cons]
    nth_rewrite 1 [← List.takeWhile_append_dropWhile (p := fun b => time b < time a + w)
      (l := events)]
    rw [List.foldl_append, push, foldl_push_of_lt hjoin]
    cases hrest : events.dropWhile fun b => time b < time a + w with
    | nil => simp [windows]
    | cons b rest =>
      have hb : ¬time b < time a + w := by
        have hhead := List.head_dropWhile_not (fun b => decide (time b < time a + w))
          (l := events) (by simp [hrest])
        simpa [hrest] using hhead
      -- the next event opens a window, whatever was there before
      rw [hrest, last, List.foldl_cons, push] at ih
      rw [List.foldl_cons, push, if_pos (not_lt.mp hb), ih, windows, List.getLast?_cons_cons]

variable {now later bound extra : ℤ} {events : List α} {a b : α} {x y : Option (ℤ × ℤ)} {f : α → α}

/-- A bound on the open window survives the passing of time. -/
lemma openWeight_le_of_le {window : Option (ℤ × ℤ)} (hle : now ≤ later) (hbound : 0 ≤ bound)
    (h : openWeight w window now ≤ bound) : openWeight w window later ≤ bound := by
  rcases window with _ | ⟨start, used⟩
  · simpa [openWeight] using hbound
  · simp only [openWeight] at h ⊢
    by_cases hlater : later < start + w
    · rw [if_pos (by omega)] at h
      rwa [if_pos hlater]
    · rwa [if_neg hlater]

theorem usedAt_le_of_le (hle : now ≤ later) (hbound : 0 ≤ bound)
    (h : usedAt time weight w events now ≤ bound) : usedAt time weight w events later ≤ bound :=
  openWeight_le_of_le hle hbound h

/-- At the time of the newest event, the open window holds that event and what it held before. -/
theorem usedAt_append_self (hw : 0 < w) (events : List α) (a : α) :
    usedAt time weight w (events ++ [a]) (time a) =
      usedAt time weight w events (time a) + weight a := by
  unfold usedAt
  rw [last_append]
  generalize last time weight w events = window
  rcases window with _ | ⟨start, used⟩
  · simp [openWeight, push, hw]
  · simp only [openWeight, push]
    by_cases hnew : start + w ≤ time a
    · -- the old window has closed and counts for nothing
      rw [if_neg (not_lt.mpr hnew), if_pos hnew]
      simp [hw]
    · rw [if_pos (not_le.mp hnew), if_neg hnew]
      simp [not_le.mp hnew]

/-- An event at time `now` adds at most its own weight to the open window. -/
theorem usedAt_append_le (hle : time a ≤ later)
    (h : usedAt time weight w events (time a) + weight a ≤ bound) (hbound : 0 ≤ bound) :
    usedAt time weight w (events ++ [a]) later ≤ bound := by
  refine openWeight_le_of_le hle hbound ?_
  rw [last_append]
  unfold usedAt at h
  generalize last time weight w events = window at h
  rcases window with _ | ⟨start, used⟩
  · simp only [openWeight, push] at h ⊢
    split_ifs <;> omega
  · simp only [openWeight, push] at h ⊢
    by_cases hnew : start + w ≤ time a
    · -- the old window has closed, so the event opens a new one
      rw [if_neg (by omega)] at h
      simp only [if_pos hnew]
      split_ifs <;> omega
    · rw [if_pos (by omega)] at h
      simp only [if_neg hnew]
      split_ifs <;> omega

/-- Two last windows with the same start, the first weighing at most `extra` more. -/
def Within (extra : ℤ) : Option (ℤ × ℤ) → Option (ℤ × ℤ) → Prop
  | none, none => True
  | some (start, used), some (start', used') => start = start' ∧ used ≤ used' + extra
  | _, _ => False

section

variable (hextra : 0 ≤ extra) (h : Within extra x y)

include hextra h

lemma Within.openWeight_le (now : ℤ) : openWeight w x now ≤ openWeight w y now + extra := by
  rcases x with _ | ⟨start, used⟩ <;> rcases y with _ | ⟨start', used'⟩ <;>
    simp only [Within] at h
  · simpa [openWeight] using hextra
  · obtain ⟨rfl, hused⟩ := h
    simp only [openWeight]
    split_ifs <;> omega

/-- One more event keeps two last windows together, up to the difference of its weights. -/
lemma Within.push {d : ℤ} (htime : time a = time b) (hweight : weight a ≤ weight b + d) :
    Within (extra + d) (push time weight w x a) (push time weight w y b) := by
  rcases x with _ | ⟨start, used⟩ <;> rcases y with _ | ⟨start', used'⟩ <;>
    simp only [Within] at h
  · simp only [GreedyWindow.push, Within]
    omega
  · obtain ⟨rfl, hused⟩ := h
    simp only [GreedyWindow.push, htime]
    split_ifs
    · exact ⟨rfl, by omega⟩
    · exact ⟨rfl, by omega⟩

/-- The same events keep two last windows together. -/
lemma Within.foldl (events : List α) :
    Within extra (events.foldl (GreedyWindow.push time weight w) x)
      (events.foldl (GreedyWindow.push time weight w) y) := by
  induction events generalizing x y with
  | nil => exact h
  | cons a events ih =>
    have hstep : Within (extra + 0) (GreedyWindow.push time weight w x a)
        (GreedyWindow.push time weight w y a) := h.push hextra rfl (by simp)
    rw [add_zero] at hstep
    exact ih hstep

end

/-- Two last windows that differ only by a smaller weight stay so, whatever events follow. -/
lemma Within.openWeight_foldl_le (h : Within 0 x y) (events : List α) (now : ℤ) :
    openWeight w (events.foldl (GreedyWindow.push time weight w) x) now ≤
      openWeight w (events.foldl (GreedyWindow.push time weight w) y) now := by
  have hfold : Within 0 (events.foldl (GreedyWindow.push time weight w) x)
      (events.foldl (GreedyWindow.push time weight w) y) := h.foldl le_rfl events
  simpa using hfold.openWeight_le (w := w) le_rfl now

section

variable {extra : α → ℤ} (htime : ∀ a, time (f a) = time a) (hextra : ∀ a ∈ events, 0 ≤ extra a)
  (hweight : ∀ a ∈ events, weight (f a) ≤ weight a + extra a)

include htime hextra hweight

/-- Raising the weights of events, each by at most `extra`, raises the weight of the last
window by at most the total of `extra`, and moves no window boundary. -/
lemma within_map :
    Within (events.map extra).sum (last time weight w (events.map f))
      (last time weight w events) := by
  induction events using List.reverseRecOn with
  | nil => simp [last, Within]
  | append_singleton events a ih =>
    rw [List.forall_mem_append] at hextra
    have hpre := ih hextra.1 (fun b hb => hweight b (by simp [hb]))
    have hsum : 0 ≤ (events.map extra).sum :=
      List.sum_nonneg (List.forall_mem_map.mpr hextra.1)
    simp only [List.map_append, List.map_singleton, last_append, List.sum_append,
      List.sum_singleton]
    exact hpre.push hsum (htime a) (hweight a (by simp))

/-- Raising weights by a total of `extra` raises the open weight by at most `extra`. -/
theorem usedAt_map_le_add (now : ℤ) :
    usedAt time weight w (events.map f) now
      ≤ usedAt time weight w events now + (events.map extra).sum := by
  refine (within_map htime hextra hweight).openWeight_le ?_ now
  exact List.sum_nonneg (List.forall_mem_map.mpr hextra)

end

/-- Lowering the weight of one event does not raise the open weight. -/
theorem usedAt_replace_le (before after : List α) (htime : time b = time a)
    (hweight : weight b ≤ weight a) (now : ℤ) :
    usedAt time weight w (before ++ b :: after) now ≤
      usedAt time weight w (before ++ a :: after) now := by
  have hself : Within 0 (last time weight w before) (last time weight w before) := by
    rcases last time weight w before with _ | ⟨start, used⟩
    · trivial
    · exact ⟨rfl, by omega⟩
  have hstep : Within (0 + 0) (push time weight w (last time weight w before) b)
      (push time weight w (last time weight w before) a) := hself.push le_rfl htime (by omega)
  rw [add_zero] at hstep
  simp only [usedAt, last, List.foldl_append, List.foldl_cons]
  exact hstep.openWeight_foldl_le after now

/-- The event opens a new window after the last one. -/
def Opens (time : α → ℤ) (w : ℤ) (window : Option (ℤ × ℤ)) (a : α) : Prop :=
  ∀ start used, window = some (start, used) → start + w ≤ time a

/-- Dropping an event that joins an open window moves no window boundary, so it does not raise the
open weight. Dropping one that opens a window may. -/
theorem usedAt_erase_le (before after : List α)
    (hjoins : ¬Opens time w (last time weight w before) a) (hweight : 0 ≤ weight a) (now : ℤ) :
    usedAt time weight w (before ++ after) now ≤
      usedAt time weight w (before ++ a :: after) now := by
  simp only [Opens, not_forall, not_le] at hjoins
  obtain ⟨start, used, hlast, hopen⟩ := hjoins
  have hstep : Within 0 (last time weight w before)
      (push time weight w (last time weight w before) a) := by
    rw [hlast]
    simp only [push, if_neg (not_le.mpr hopen), Within]
    exact ⟨trivial, by omega⟩
  simp only [usedAt, last, List.foldl_append, List.foldl_cons]
  exact hstep.openWeight_foldl_le after now

end GreedyWindow
