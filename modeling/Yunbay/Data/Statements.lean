import Yunbay.Data.Run

/-!
# Statements in an open transaction

A transaction runs a list of statements, each of which may fail. `Statements.run` ends at the first
failure and keeps what was done before it, as an open transaction does when its caller goes on after
an error. `Statements.withSavepoint` goes back to the state at its start instead.
-/

namespace Statements

variable {σ ς ε : Type} (exec : ς → σ → Except ε σ)

/-- The statements one after another, up to the first that fails, and its error. -/
def run : List ς → σ → Option ε × σ
  | [], s => (none, s)
  | statement :: rest, s =>
    match exec statement s with
    | .error err => (some err, s)
    | .ok s' => run rest s'

/-- The statements behind a savepoint. -/
def withSavepoint (statements : List ς) (s : σ) : Option ε × σ :=
  match run exec statements s with
  | (some err, _) => (some err, s)
  | (none, s') => (none, s')

variable {exec} {statement : ς} {rest statements : List ς} {s s' : σ} {err : ε}

@[simp]
lemma run_nil (s : σ) : run exec [] s = (none, s) := rfl

lemma run_cons_of_ok (h : exec statement s = .ok s') :
    run exec (statement :: rest) s = run exec rest s' := by
  simp only [run, h]

lemma run_cons_of_error (h : exec statement s = .error err) :
    run exec (statement :: rest) s = (some err, s) := by
  simp only [run, h]

/-- A run without an error has made its first statement and goes on without an error. -/
lemma run_cons_eq_none (h : run exec (statement :: rest) s = (none, s')) :
    ∃ mid, exec statement s = .ok mid ∧ run exec rest mid = (none, s') := by
  cases hexec : exec statement s with
  | error err =>
    rw [run_cons_of_error hexec] at h
    cases h
  | ok mid =>
    rw [run_cons_of_ok hexec] at h
    exact ⟨mid, rfl, h⟩

/-- What the statements that are made preserve holds at the end, whether one has failed or not. -/
lemma run_induction {P : σ → Prop}
    (hstep : ∀ statement ∈ statements, ∀ s s', exec statement s = .ok s' → P s → P s') (hs : P s) :
    P (run exec statements s).2 := by
  induction statements generalizing s with
  | nil => exact hs
  | cons statement rest ih =>
    rw [List.forall_mem_cons] at hstep
    cases hexec : exec statement s with
    | error err =>
      rw [run_cons_of_error hexec]
      exact hs
    | ok s' =>
      rw [run_cons_of_ok hexec]
      exact ih hstep.2 (hstep.1 s s' hexec hs)

/-- If an invariant tells which statements fail, a run fails exactly when one of its statements
does. -/
lemma isSome_run_iff {P : σ → Prop} {Fails : ς → Prop}
    (hkeep : ∀ statement ∈ statements, ∀ s s', P s → exec statement s = .ok s' → P s')
    (hfails : ∀ statement ∈ statements, ∀ s, P s →
      ((∃ err, exec statement s = .error err) ↔ Fails statement)) (hs : P s) :
    (run exec statements s).1.isSome ↔ ∃ statement ∈ statements, Fails statement := by
  induction statements generalizing s with
  | nil => simp
  | cons statement rest ih =>
    rw [List.forall_mem_cons] at hkeep hfails
    have hfirst := hfails.1 s hs
    cases hexec : exec statement s with
    | error err =>
      have hfail : Fails statement := hfirst.mp ⟨err, hexec⟩
      rw [run_cons_of_error hexec]
      exact iff_of_true rfl ⟨statement, List.mem_cons_self, hfail⟩
    | ok s' =>
      have hnot : ¬Fails statement := by
        intro hfail
        obtain ⟨err, herr⟩ := hfirst.mpr hfail
        rw [hexec] at herr
        cases herr
      rw [run_cons_of_ok hexec, ih hkeep.2 hfails.2 (hkeep.1 s s' hs hexec)]
      simp [hnot]

/-- A savepoint undoes what was done before the failure. -/
lemma withSavepoint_error (h : (withSavepoint exec statements s).1 = some err) :
    (withSavepoint exec statements s).2 = s := by
  unfold withSavepoint at h ⊢
  split at h
  · rfl
  · cases h

end Statements
