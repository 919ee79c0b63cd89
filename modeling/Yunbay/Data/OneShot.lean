import Yunbay.Data.Run

/-!
# One-shot protocols

Some calls of a system are about one object that is to take effect once. `Run.calls` collects the
states before and after these calls along a run. `Run.OneShot` says what one step can do: a fresh
object may stay fresh, be closed without an effect, or be done with its effect, and then stays so.
`Run.OneShot.exec` draws the conclusion for whole runs.

`Run.Latch` is the simpler form for an effect that a single step shows: it falls only while a latch
is open and shuts it for good.
-/

namespace Run

variable {σ ι : Type} {step : σ → ι → σ} {p : ι → Bool}

/-- The states before and after each step of a run whose input passes `p`. -/
def calls (step : σ → ι → σ) (p : ι → Bool) : σ → List ι → List (σ × σ)
  | _, [] => []
  | s, i :: is => (if p i then [(s, step s i)] else []) ++ calls step p (step s i) is

/-- What a step can do to an object that is to take effect once. -/
structure OneShot (step : σ → ι → σ) (p : ι → Bool) (Fresh Closed Done : σ → Prop)
    (Idle Effect : σ → σ → Prop) : Prop where
  other : ∀ s i, Fresh s → p i = false → Fresh (step s i)
  call : ∀ s i, Fresh s → p i = true →
    (Fresh (step s i) ∨ Closed (step s i)) ∧ Idle s (step s i) ∨
      Done (step s i) ∧ Effect s (step s i)
  closed : ∀ s i, Closed s → Closed (step s i) ∧ (p i = true → Idle s (step s i))
  done : ∀ s i, Done s → Done (step s i) ∧ (p i = true → Idle s (step s i))

/-- If an invariant is kept with idle calls, all calls of a run are idle. -/
lemma calls_idle {Inv : σ → Prop} {Idle : σ → σ → Prop}
    (hstep : ∀ s i, Inv s → Inv (step s i) ∧ (p i = true → Idle s (step s i))) {s : σ} (hs : Inv s)
    (is : List ι) : Inv (exec step s is) ∧ ∀ call ∈ calls step p s is, Idle call.1 call.2 := by
  induction is generalizing s with
  | nil => exact ⟨hs, nofun⟩
  | cons i is ih =>
    obtain ⟨hnext, hidle⟩ := hstep s i hs
    obtain ⟨hend, hcalls⟩ := ih hnext
    refine ⟨hend, fun call hcall => ?_⟩
    rcases List.mem_append.mp hcall with hhead | htail
    · split_ifs at hhead with hp
      · rw [List.mem_singleton.mp hhead]
        exact hidle hp
      · cases hhead
    · exact hcalls call htail

/-- Along a run from a fresh object either all calls are idle, or the object is done, one call has
had the effect and the others are idle. -/
lemma OneShot.exec {Fresh Closed Done : σ → Prop} {Idle Effect : σ → σ → Prop}
    (h : OneShot step p Fresh Closed Done Idle Effect) {s : σ} (hs : Fresh s) (is : List ι) :
    (Fresh (exec step s is) ∨ Closed (exec step s is)) ∧
        (∀ call ∈ calls step p s is, Idle call.1 call.2) ∨
      Done (exec step s is) ∧ ∃ earlier later before after,
        calls step p s is = earlier ++ (before, after) :: later ∧ Effect before after ∧
          ∀ call ∈ earlier ++ later, Idle call.1 call.2 := by
  induction is generalizing s with
  | nil => exact .inl ⟨.inl hs, nofun⟩
  | cons i is ih =>
    -- a call in front of the run that stays fresh does not matter
    have hprepend {front : List (σ × σ)} (hfront : ∀ call ∈ front, Idle call.1 call.2)
        (hfresh : Fresh (step s i)) :
        (Fresh (Run.exec step s (i :: is)) ∨ Closed (Run.exec step s (i :: is))) ∧
            (∀ call ∈ front ++ calls step p (step s i) is, Idle call.1 call.2) ∨
          Done (Run.exec step s (i :: is)) ∧ ∃ earlier later before after,
            front ++ calls step p (step s i) is = earlier ++ (before, after) :: later ∧
              Effect before after ∧ ∀ call ∈ earlier ++ later, Idle call.1 call.2 := by
      rcases ih hfresh with
        ⟨hend, hidle⟩ | ⟨hend, earlier, later, before, after, heq, heffect, hidle⟩
      · refine .inl ⟨hend, fun call hcall => ?_⟩
        exact (List.mem_append.mp hcall).elim (hfront call) (hidle call)
      · refine .inr ⟨hend, front ++ earlier, later, before, after, ?_, heffect, ?_⟩
        · rw [heq, List.append_assoc]
        · intro call hcall
          rw [List.append_assoc] at hcall
          exact (List.mem_append.mp hcall).elim (hfront call) (hidle call)
    cases hp : p i with
    | false =>
      have hnone : ∀ call ∈ ([] : List (σ × σ)), Idle call.1 call.2 := nofun
      simpa only [calls, hp, Bool.false_eq_true, if_false] using
        hprepend hnone (h.other s i hs hp)
    | true =>
      simp only [calls, hp, if_true]
      rcases h.call s i hs hp with ⟨hfresh | hclosed, hidle⟩ | ⟨hdone, heffect⟩
      · exact hprepend (fun call hcall => by rwa [List.mem_singleton.mp hcall]) hfresh
      · obtain ⟨hend, hcalls⟩ := calls_idle h.closed hclosed is
        refine .inl ⟨.inr hend, fun call hcall => ?_⟩
        rcases List.mem_append.mp hcall with hhead | htail
        · rwa [List.mem_singleton.mp hhead]
        · exact hcalls call htail
      · obtain ⟨hend, hcalls⟩ := calls_idle h.done hdone is
        exact .inr ⟨hend, [], calls step p (step s i) is, s, step s i, rfl, heffect, hcalls⟩

/-! ## Latches -/

/-- The number of steps of a run at which `fires` holds. -/
def countFires (step : σ → ι → σ) (fires : σ → ι → Bool) : σ → List ι → Nat
  | _, [] => 0
  | s, i :: is => (if fires s i then 1 else 0) + countFires step fires (step s i) is

/-- A step that fires finds the latch open and shuts it, and nothing opens it again. The steps start
from states with the invariant `Inv`. -/
structure Latch (step : σ → ι → σ) (fires : σ → ι → Bool) (Inv Shut : σ → Prop) : Prop where
  inv : ∀ s i, Inv s → Inv (step s i)
  fire : ∀ s i, Inv s → fires s i = true → ¬ Shut s ∧ Shut (step s i)
  keep : ∀ s i, Inv s → Shut s → Shut (step s i)

namespace Latch

variable {fires : σ → ι → Bool} {Inv Shut : σ → Prop} {s : σ}

lemma count_eq_zero (h : Latch step fires Inv Shut) (hinv : Inv s) (hshut : Shut s)
    (is : List ι) : countFires step fires s is = 0 := by
  induction is generalizing s with
  | nil => rfl
  | cons i is ih =>
    have hfires : ¬ fires s i = true := fun hfires => (h.fire s i hinv hfires).1 hshut
    rw [countFires, if_neg hfires, ih (h.inv s i hinv) (h.keep s i hinv hshut)]

/-- No run fires twice. -/
lemma count_le_one (h : Latch step fires Inv Shut) (hinv : Inv s) (is : List ι) :
    countFires step fires s is ≤ 1 := by
  induction is generalizing s with
  | nil => exact Nat.zero_le 1
  | cons i is ih =>
    rw [countFires]
    split_ifs with hfires
    · -- The latch is shut from here on.
      rw [h.count_eq_zero (h.inv s i hinv) (h.fire s i hinv hfires).2]
    · rw [Nat.zero_add]
      exact ih (h.inv s i hinv)

end Latch

end Run
