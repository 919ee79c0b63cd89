import Mathlib.Tactic

/-!
# Walking along instants

`next t` is the instant after the time `t`, and it is not positive if there is none. A walk goes
from instant to instant until the next one is missing or in the future.

On a schedule that advances every walk ends (`Walks.exists_of_forward`), and a walk that was cut at
an earlier time can be taken up again (`Walks.resume`).
-/

namespace Instants

variable {next : Int → Int} {now later base last last' t : Int}

/-- The instants after `base`. -/
inductive After (next : Int → Int) (base : Int) : Int → Prop
  | first : 0 < next base → After next base (next base)
  | next {t : Int} : After next base t → 0 < next t → After next base (next t)

/-- The walk from `base` at the time `now` ends at `last`. -/
inductive Walks (next : Int → Int) (now : Int) : Int → Int → Prop
  | done {base : Int} : ¬(0 < next base ∧ next base ≤ now) → Walks next now base base
  | step {base last : Int} : 0 < next base ∧ next base ≤ now → Walks next now (next base) last →
      Walks next now base last

/-- A schedule that advances at one time always does, and one that does not never does. -/
def Steady (next : Int → Int) : Prop :=
  ∀ base, 0 < next base → ∀ t,
    (base < next base → next t = 0 ∨ t < next t) ∧ (next base ≤ base → next t ≤ max 0 t)

namespace After

variable (h : After next base t)

include h

lemma pos : 0 < next base ∧ 0 < t := by
  induction h with
  | first hpos => exact ⟨hpos, hpos⟩
  | next _ hpos ih => exact ⟨ih.1, hpos⟩

lemma first_le (hsteady : Steady next) (hlt : base < next base) : next base ≤ t := by
  induction h with
  | first _ => exact le_rfl
  | @next t hafter hpos ih =>
    obtain hzero | hahead := (hsteady base hafter.pos.1 t).1 hlt
    · exact absurd hzero hpos.ne'
    · exact ih.trans hahead.le

/-- If the schedule does not advance, all instants lie in the past of `base`. -/
lemma le_base (hsteady : Steady next) (hle : next base ≤ base) : t ≤ base := by
  induction h with
  | first _ => exact hle
  | @next t hafter hpos ih =>
    have hback := (hsteady base hafter.pos.1 t).2 hle
    have htpos := hafter.pos.2
    omega

end After

namespace Walks

lemma exists_of_forward (hforward : ∀ t, next t = 0 ∨ t < next t) (base : Int) :
    ∃ last, Walks next now base last := by
  -- every round brings the next instant closer to the present
  induction hn : (now + 1 - next base).toNat using Nat.strong_induction_on generalizing base with
  | _ n ih =>
    by_cases hdue : 0 < next base ∧ next base ≤ now
    · obtain ⟨last, hrest⟩ : ∃ last, Walks next now (next base) last := by
        obtain hzero | hahead := hforward (next base)
        · exact ⟨next base, .done (by omega)⟩
        · exact ih _ (by omega) (next base) rfl
      exact ⟨last, .step hdue hrest⟩
    · exact ⟨base, .done hdue⟩

variable (h : Walks next now base last)

include h

/-- A walk may be cut at an earlier time and taken up again. -/
lemma resume (hle : now ≤ later) (hdirect : Walks next later base last') :
    Walks next later last last' := by
  induction h with
  | done _ => exact hdirect
  | step hdue _ ih =>
    cases hdirect with
    | done hdone => exact absurd ⟨hdue.1, hdue.2.trans hle⟩ hdone
    | step _ hrest => exact ih hrest

/-- A walk that has ended stays where it is. -/
lemma eq_of_done (hdone : ¬(0 < next base ∧ next base ≤ now)) : last = base := by
  cases h with
  | done _ => rfl
  | step hdue _ => exact absurd hdue hdone

lemma unique (h' : Walks next now base last') : last' = last := by
  induction h with
  | done hdone => exact h'.eq_of_done hdone
  | step hdue _ ih =>
    cases h' with
    | done hdone => exact absurd hdue hdone
    | step _ hrest => exact ih hrest

/-- The walk stops before an instant that is missing or in the future. -/
lemma stops : ¬(0 < next last ∧ next last ≤ now) := by
  induction h with
  | done hdone => exact hdone
  | step _ _ ih => exact ih

/-- A walk that has begun ends at an instant. -/
lemma pos (hdue : 0 < next base ∧ next base ≤ now) : 0 < last := by
  induction h with
  | done hdone => exact absurd hdue hdone
  | @step base last _ hrest ih =>
    by_cases hmore : 0 < next (next base) ∧ next (next base) ≤ now
    · exact ih hmore
    · rw [hrest.eq_of_done hmore]
      exact hdue.1

end Walks

end Instants
