import Mathlib.Algebra.BigOperators.Group.List.Basic
import Yunbay.Data.Run

/-!
# Workers on a shared state

Any number of workers act on a shared state, one atomic action at a time, in any order. A worker
keeps what it knows in a state of its own, so that what it has read may be out of date when it acts.

`Workers.RelyGuarantee` is the proof rule for such systems. Each action keeps the invariant and what
the acting worker relies on, and it changes the shared state only in ways that the others tolerate.
`RelyGuarantee.exec` and `RelyGuarantee.step` are what then holds of every run and every step.
-/

namespace Workers

/-- The actions of a system: what a new worker takes from the shared state, and what a worker does
next on a given input. -/
structure System (σ ω ι ν : Type) where
  spawn : ι → σ → ω
  act : ν → σ → ω → σ × ω

/-- The shared state and the workers, oldest first. -/
structure State (σ ω : Type) where
  shared : σ
  workers : List ω

/-- A worker starts, or takes a step. -/
inductive Move (ι ν : Type) where
  | spawn (input : ι)
  | act (ref : Nat) (input : ν)

variable {σ ω ι ν : Type}

namespace System

/-- One step of one worker. A worker that does not exist does nothing. -/
def step (system : System σ ω ι ν) (state : State σ ω) : Move ι ν → State σ ω
  | .spawn input => { state with workers := state.workers ++ [system.spawn input state.shared] }
  | .act ref input =>
    match state.workers[ref]? with
    | none => state
    | some worker =>
      let (shared, worker) := system.act input state.shared worker
      ⟨shared, state.workers.set ref worker⟩

lemma step_act (system : System σ ω ι ν) {state : State σ ω} {ref : Nat} {worker : ω}
    (hget : state.workers[ref]? = some worker) (input : ν) :
    system.step state (.act ref input) =
      ⟨(system.act input state.shared worker).1,
        state.workers.set ref (system.act input state.shared worker).2⟩ := by
  simp only [step, hget]

lemma step_act_of_none (system : System σ ω ι ν) {state : State σ ω} {ref : Nat}
    (hget : state.workers[ref]? = none) (input : ν) :
    system.step state (.act ref input) = state := by
  simp only [step, hget]

end System

/-- The rule. `Inv` holds of the shared state, a worker relies on `Own`, and every action of a
worker is in `Guar`. -/
structure RelyGuarantee (system : System σ ω ι ν) (Inv : σ → Prop) (Own : σ → ω → Prop)
    (Guar : σ → σ → Prop) : Prop where
  refl : ∀ s, Guar s s
  stable : ∀ s s' worker, Guar s s' → Own s worker → Own s' worker
  spawn : ∀ input s, Inv s → Own s (system.spawn input s)
  inv : ∀ input s worker, Inv s → Own s worker → Inv (system.act input s worker).1
  own : ∀ input s worker, Inv s → Own s worker →
    Own (system.act input s worker).1 (system.act input s worker).2
  guar : ∀ input s worker, Inv s → Own s worker → Guar s (system.act input s worker).1

/-- The invariant of the shared state, and what every worker relies on. -/
structure Holds (Inv : σ → Prop) (Own : σ → ω → Prop) (state : State σ ω) : Prop where
  inv : Inv state.shared
  own : ∀ worker ∈ state.workers, Own state.shared worker

namespace RelyGuarantee

variable {system : System σ ω ι ν} {Inv : σ → Prop} {Own : σ → ω → Prop} {Guar : σ → σ → Prop}
  {state : State σ ω}

/-- A step keeps what holds, and is one that every worker tolerates. -/
lemma step (rule : RelyGuarantee system Inv Own Guar) (h : Holds Inv Own state) (move : Move ι ν) :
    Holds Inv Own (system.step state move) ∧ Guar state.shared (system.step state move).shared := by
  cases move with
  | spawn input =>
    refine ⟨⟨h.inv, List.forall_mem_append.mpr ⟨h.own, ?_⟩⟩, rule.refl _⟩
    exact List.forall_mem_singleton.mpr (rule.spawn input _ h.inv)
  | act ref input =>
    cases hget : state.workers[ref]? with
    | none =>
      rw [system.step_act_of_none hget]
      exact ⟨h, rule.refl _⟩
    | some worker =>
      rw [system.step_act hget]
      have hown := h.own worker (List.mem_of_getElem? hget)
      have hguar := rule.guar input _ worker h.inv hown
      refine ⟨⟨rule.inv input _ worker h.inv hown, fun other hmem => ?_⟩, hguar⟩
      rcases List.mem_or_eq_of_mem_set hmem with hold | rfl
      · exact rule.stable _ _ other hguar (h.own other hold)
      · exact rule.own input _ worker h.inv hown

/-- What holds at the start holds after every run. -/
lemma exec (rule : RelyGuarantee system Inv Own Guar) (h : Holds Inv Own state)
    (moves : List (Move ι ν)) : Holds Inv Own (Run.exec system.step state moves) :=
  Run.exec_invariant (Holds Inv Own) (fun _ move h => (rule.step h move).1) h moves

end RelyGuarantee

/-- A system without workers relies on nothing. -/
lemma holds_nil {Inv : σ → Prop} {Own : σ → ω → Prop} {s : σ} (h : Inv s) : Holds Inv Own ⟨s, []⟩ :=
  ⟨h, List.forall_mem_nil _⟩

/-- A sum over the workers changes by what the acting worker changes. -/
lemma sum_map_set {M : Type} [AddCommGroup M] (f : ω → M) {workers : List ω} {ref : Nat}
    {worker : ω} (hget : workers[ref]? = some worker) (worker' : ω) :
    ((workers.set ref worker').map f).sum = (workers.map f).sum - f worker + f worker' := by
  obtain ⟨hlt, rfl⟩ := List.getElem?_eq_some_iff.mp hget
  have hlength : ref < (workers.map f).length := by simpa using hlt
  rw [List.map_set, List.sum_set', dif_pos hlength, List.getElem_map]
  abel

end Workers
