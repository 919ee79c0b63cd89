import Mathlib.Data.List.Basic
import Mathlib.Tactic

/-!
# Runs of a step function, and transactions

A system is a step function `step : σ → ι → σ` from a state and an input to the next state.
`Run.exec` feeds it a list of inputs. `Run.Along P s is` says that every input of the run meets
the condition `P` in the state it is applied to. `Run.exec_induction` turns a step lemma into a
statement about every run.

Transactions are `Except`-valued: `Except.check` aborts unless a condition holds, and
`Except.bind_eq_ok` peels a committed transaction apart. `Except.commit` rolls an aborted one
back.
-/

namespace Run

variable {σ ι : Type} (step : σ → ι → σ)

/-- The state after feeding the inputs `is` to `step`, starting from `s`. -/
def exec (s : σ) (is : List ι) : σ := is.foldl step s

/-- Every input of the run meets `P` in the state it is applied to. -/
def Along (P : σ → ι → Prop) : σ → List ι → Prop
  | _, [] => True
  | s, i :: is => P s i ∧ Along P (step s i) is

variable {step}

@[simp]
lemma exec_nil (s : σ) : exec step s [] = s := rfl

@[simp]
lemma exec_cons (s : σ) (i : ι) (is : List ι) :
    exec step s (i :: is) = exec step (step s i) is := rfl

@[simp]
lemma along_nil (P : σ → ι → Prop) (s : σ) : Along step P s [] := trivial

@[simp]
lemma along_cons (P : σ → ι → Prop) (s : σ) (i : ι) (is : List ι) :
    Along step P s (i :: is) ↔ P s i ∧ Along step P (step s i) is := Iff.rfl

/-- Whether a decidable condition holds along a run is decidable. -/
instance decidableAlong (P : σ → ι → Prop) [∀ s i, Decidable (P s i)] :
    (s : σ) → (is : List ι) → Decidable (Along step P s is)
  | _, [] => isTrue trivial
  | s, i :: is =>
    letI := decidableAlong P (step s i) is
    inferInstanceAs (Decidable (P s i ∧ Along step P (step s i) is))

lemma exec_append (s : σ) (is js : List ι) :
    exec step s (is ++ js) = exec step (exec step s is) js := by
  simp [exec]

variable {P Q : σ → ι → Prop} {s : σ} {is : List ι}

/-- A condition holds along a run in two parts when it holds along both. -/
lemma along_append {js : List ι} :
    Along step P s (is ++ js) ↔ Along step P s is ∧ Along step P (exec step s is) js := by
  induction is generalizing s with
  | nil => simp
  | cons i is ih => simp [ih, and_assoc]

lemma Along.imp (h : ∀ s i, P s i → Q s i) (hP : Along step P s is) : Along step Q s is := by
  induction is generalizing s with
  | nil => trivial
  | cons i is ih => exact ⟨h s i hP.1, ih hP.2⟩

lemma Along.and (hP : Along step P s is)
    (hQ : Along step Q s is) : Along step (fun s i => P s i ∧ Q s i) s is := by
  induction is generalizing s with
  | nil => trivial
  | cons i is ih => exact ⟨⟨hP.1, hQ.1⟩, ih hP.2 hQ.2⟩

/-- A condition on the inputs alone can be added to what holds along a run. -/
lemma Along.and_of_forall_mem {Q : ι → Prop} (hP : Along step P s is) (hQ : ∀ i ∈ is, Q i) :
    Along step (fun s i => P s i ∧ Q i) s is := by
  induction is generalizing s with
  | nil => trivial
  | cons i is ih =>
    refine ⟨⟨hP.1, hQ i List.mem_cons_self⟩, ih hP.2 fun j hj => ?_⟩
    exact hQ j (List.mem_cons_of_mem i hj)

/-- What every conditioned step preserves holds after every conditioned run. -/
lemma exec_induction (Inv : σ → Prop) (hstep : ∀ s i, Inv s → P s i → Inv (step s i))
    (hinit : Inv s) (hP : Along step P s is) : Inv (exec step s is) := by
  induction is generalizing s with
  | nil => exact hinit
  | cons i is ih => exact ih (hstep s i hinit hP.1) hP.2

/-- A condition under which a step keeps an invariant, and without which it leads to a bad state,
holds along a run exactly when every state of the run is good. -/
lemma forall_prefix_iff_along (Inv Good : σ → Prop)
    (hgood : ∀ s, Inv s → Good s) (hkeep : ∀ s i, Inv s → P s i → Inv (step s i))
    (hbreak : ∀ s i, Inv s → Good (step s i) → P s i) (hinit : Inv s) :
    (∀ js, js <+: is → Good (exec step s js)) ↔ Along step P s is := by
  induction is generalizing s with
  | nil =>
    refine iff_of_true (fun js hjs => ?_) trivial
    rw [List.prefix_nil.mp hjs]
    exact hgood s hinit
  | cons i is ih =>
    constructor
    · intro hall
      have hP : P s i := hbreak s i hinit (hall [i] (by simp))
      refine ⟨hP, (ih (hkeep s i hinit hP)).mp fun js hjs => ?_⟩
      exact hall (i :: js) (List.cons_prefix_cons.mpr ⟨rfl, hjs⟩)
    · rintro ⟨hP, halong⟩ js hjs
      cases js with
      | nil => exact hgood s hinit
      | cons j js =>
        obtain ⟨rfl, htail⟩ := List.cons_prefix_cons.mp hjs
        exact (ih (hkeep s j hinit hP)).mpr halong js htail

/-- What every step preserves holds after every run. -/
lemma exec_invariant (Inv : σ → Prop) (hstep : ∀ s i, Inv s → Inv (step s i))
    (hinit : Inv s) (is : List ι) : Inv (exec step s is) := by
  induction is generalizing s with
  | nil => exact hinit
  | cons i is ih => exact ih (hstep s i hinit)

/-- What fails at the start of a run and holds at its end has come about at some step of the run. -/
lemma exists_turn {P : σ → Prop} (hstart : ¬P s) (hend : P (exec step s is)) :
    ∃ before i after, is = before ++ i :: after ∧ ¬P (exec step s before) ∧
      P (step (exec step s before) i) := by
  induction is generalizing s with
  | nil => exact absurd hend hstart
  | cons i is ih =>
    by_cases hfirst : P (step s i)
    · exact ⟨[], i, is, rfl, hstart, hfirst⟩
    · obtain ⟨before, j, after, rfl, hnot, hturn⟩ := ih hfirst hend
      exact ⟨i :: before, j, after, rfl, hnot, hturn⟩

end Run

namespace Except

variable {ε α β : Type}

/-- Abort with `e` unless `c` holds. -/
def check (c : Prop) [Decidable c] (e : ε) : Except ε Unit := if c then .ok () else .error e

variable {c : Prop} {e err : ε} {first x : Except ε α} {next : α → Except ε β} {value : α}
  {σ : Type}

@[simp]
lemma check_eq_ok [Decidable c] {u : Unit} : check c e = .ok u ↔ c := by
  by_cases h : c <;> simp [check, h]

@[simp]
lemma check_eq_error [Decidable c] {e' : ε} : check c e = .error e' ↔ ¬c ∧ e = e' := by
  by_cases h : c <;> simp [check, h]

/-- A sequence of two transactions commits exactly when both do. -/
lemma bind_eq_ok {result : β} :
    first >>= next = .ok result ↔ ∃ mid, first = .ok mid ∧ next mid = .ok result := by
  rcases first with err | mid <;> simp [bind, Except.bind]

/-- The second of two transactions commits if the sequence does. -/
lemma of_bind {result : β} (h : first >>= next = .ok result) : ∃ mid, next mid = .ok result := by
  obtain ⟨mid, -, h⟩ := bind_eq_ok.mp h
  exact ⟨mid, h⟩

/-- The condition of a check holds if what comes after it commits. -/
lemma of_check [Decidable c] {next : Unit → Except ε β} {result : β}
    (h : check c e >>= next = .ok result) : c ∧ next () = .ok result := by
  obtain ⟨_, hcheck, h⟩ := bind_eq_ok.mp h
  exact ⟨check_eq_ok.mp hcheck, h⟩

/-- A sequence of two transactions aborts with the first error it meets. -/
lemma bind_eq_error :
    first >>= next = .error err ↔
      first = .error err ∨ ∃ mid, first = .ok mid ∧ next mid = .error err := by
  rcases first with err' | mid <;> simp [bind, Except.bind]

/-- A sequence does not abort with `err` if neither part does. -/
lemma bind_ne_error (hfirst : first ≠ .error err)
    (hnext : ∀ mid, first = .ok mid → next mid ≠ .error err) : first >>= next ≠ .error err := by
  intro h
  rcases bind_eq_error.mp h with h | ⟨mid, hmid, h⟩
  · exact hfirst h
  · exact hnext mid hmid h

lemma check_ne_error [Decidable c] (h : e ≠ err) : check c e ≠ .error err := by
  intro hc
  exact h (check_eq_error.mp hc).2

@[simp]
lemma pure_eq_ok {result : α} : (pure value : Except ε α) = .ok result ↔ value = result :=
  Except.ok.injEq value result ▸ Iff.rfl

@[simp]
lemma pure_ne_error : (pure value : Except ε α) ≠ .error err :=
  nofun

@[simp]
lemma mapError_eq_ok {ε' : Type} {f : ε → ε'} {a : α} : x.mapError f = .ok a ↔ x = .ok a := by
  cases x <;> simp [Except.mapError]

/-- A transaction that may abort at its start aborts there or later. -/
lemma exists_ite_error [Decidable c] :
    (∃ err, (if c then .error e else x) = .error err) ↔ c ∨ ∃ err, x = .error err := by
  by_cases h : c <;> simp [h]

/-- A loop of transactions commits exactly when all of them do. -/
lemma forM_eq_ok {xs : List α} {f : α → Except ε Unit} :
    xs.forM f = .ok () ↔ ∀ x ∈ xs, f x = .ok () := by
  induction xs with
  | nil => exact iff_of_true rfl nofun
  | cons x xs ih =>
    change (f x >>= fun _ => xs.forM f) = .ok () ↔ _
    rw [bind_eq_ok, List.forall_mem_cons, ← ih]
    exact ⟨fun ⟨_, hx, hxs⟩ => ⟨hx, hxs⟩, fun ⟨hx, hxs⟩ => ⟨(), hx, hxs⟩⟩

/-- The error a transaction aborted with. -/
def error? : Except ε α → Option ε
  | .ok _ => none
  | .error e => some e

@[simp]
lemma error?_eq_some : x.error? = some e ↔ x = .error e := by
  cases x <;> simp [error?]

/-- The state after a transaction: the one it committed, or the old one if it aborted. -/
def commit {σ : Type} (s : σ) : Except ε (α × σ) → σ
  | .ok (_, s') => s'
  | .error _ => s

@[simp]
lemma commit_ok (s s' : σ) (a : α) :
    commit s (.ok (a, s') : Except ε (α × σ)) = s' := rfl

@[simp]
lemma commit_error (s : σ) (e : ε) :
    commit s (.error e : Except ε (α × σ)) = s := rfl

/-- What holds of the old state, and of every state the transaction can commit, holds after it. -/
lemma commit_induction (Inv : σ → Prop) {s : σ} {x : Except ε (α × σ)}
    (hold : Inv s) (hnew : ∀ a s', x = .ok (a, s') → Inv s') : Inv (commit s x) := by
  cases hx : x with
  | error e => simpa [commit] using hold
  | ok r => exact hnew r.1 r.2 hx

end Except
