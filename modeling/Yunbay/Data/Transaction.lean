import Yunbay.Data.Workers

/-!
# Transactions that share a row

Any number of transactions work on one row of a store, at the isolation level READ COMMITTED. Each
one reads the row, with or without a lock, and then changes the store by a list of statements, the
first of which takes the lock. Others see the changes when it commits, and a failure undoes them.

What a transaction has read without a lock may be out of date, but its statements run on the latest
committed store: `Own` says so, and `Rule.exec` turns a lemma about a transaction that commits as a
whole into one about every interleaving. -/

namespace Transaction

/-- Transactions on stores `σ`: a call `γ` reads a value `α` and issues statements `ς`. -/
structure Program (σ γ α ς ε : Type) where
  /-- The read locks the row. -/
  locks : γ → Bool
  /-- The read, with the checks of what it finds. -/
  read : γ → σ → Except ε α
  /-- The statements that follow. -/
  writes : γ → α → List ς
  /-- The effect of one statement. -/
  run : ς → σ → Except ε σ

/-- How far a transaction has come. -/
inductive Stage (σ α ς : Type) where
  | ready
  /-- The row has been read without a lock. -/
  | read (value : α)
  /-- The transaction has the lock, has changed the store to `work` and goes on with `rest`. -/
  | writing (value : α) (work : σ) (rest : List ς)
  | committed (value : α)
  | rolledBack

/-- A transaction that runs. -/
structure Task (σ γ α ς : Type) where
  call : γ
  stage : Stage σ α ς

/-- The store as committed, and whether the row is locked. -/
structure Shared (σ γ α : Type) where
  store : σ
  locked : Bool
  /-- The transactions that have committed, with what they had read. -/
  history : List (γ × α)

variable {σ γ α ς ε : Type}

namespace Program

/-- The statements one after another. -/
def runAll (program : Program σ γ α ς ε) : List ς → σ → Except ε σ
  | [], store => .ok store
  | statement :: rest, store => program.run statement store >>= program.runAll rest

lemma runAll_append (program : Program σ γ α ς ε) (front rest : List ς) (store : σ) :
    program.runAll (front ++ rest) store = program.runAll front store >>= program.runAll rest := by
  induction front generalizing store with
  | nil => rfl
  | cons statement front ih =>
    simp only [List.cons_append, runAll]
    cases program.run statement store with
    | error error => rfl
    | ok store' => exact ih store'

/-- The next step of a transaction. With `fails` the database rejects it. -/
def act (program : Program σ γ α ς ε) (fails : Bool) (shared : Shared σ γ α)
    (task : Task σ γ α ς) : Shared σ γ α × Task σ γ α ς :=
  match task.stage with
  | .ready =>
    -- A locking read waits for the lock.
    if program.locks task.call && shared.locked then (shared, task)
    else
      match fails, program.read task.call shared.store with
      | false, .ok value =>
        if program.locks task.call then
          ({ shared with locked := true },
            { task with
              stage := .writing value shared.store (program.writes task.call value) })
        else (shared, { task with stage := .read value })
      | _, _ => (shared, { task with stage := .rolledBack })
  | .read value =>
    -- So does the first statement after a read without a lock.
    if shared.locked then (shared, task)
    else
      ({ shared with locked := true },
        { task with stage := .writing value shared.store (program.writes task.call value) })
  | .writing value work (statement :: rest) =>
    match fails, program.run statement work with
    | false, .ok work' => (shared, { task with stage := .writing value work' rest })
    | _, _ => ({ shared with locked := false }, { task with stage := .rolledBack })
  | .writing value work [] =>
    if fails then ({ shared with locked := false }, { task with stage := .rolledBack })
    else (⟨work, false, shared.history ++ [(task.call, value)]⟩,
      { task with stage := .committed value })
  | _ => (shared, task)

/-- The transactions as workers on the store. -/
def system (program : Program σ γ α ς ε) :
    Workers.System (Shared σ γ α) (Task σ γ α ς) γ Bool :=
  ⟨fun call _ => ⟨call, .ready⟩, program.act⟩

/-- What a step can do. -/
inductive Acts (program : Program σ γ α ς ε) (shared : Shared σ γ α) :
    Task σ γ α ς → Shared σ γ α → Task σ γ α ς → Prop where
  | wait (task : Task σ γ α ς) : Acts program shared task shared task
  | read (call : γ) (value : α) (hlocks : program.locks call = false)
      (hread : program.read call shared.store = .ok value) :
      Acts program shared ⟨call, .ready⟩ shared ⟨call, .read value⟩
  | lockingRead (call : γ) (value : α) (hread : program.read call shared.store = .ok value)
      (hfree : shared.locked = false) :
      Acts program shared ⟨call, .ready⟩ { shared with locked := true }
        ⟨call, .writing value shared.store (program.writes call value)⟩
  | lock (call : γ) (value : α) (hfree : shared.locked = false) :
      Acts program shared ⟨call, .read value⟩ { shared with locked := true }
        ⟨call, .writing value shared.store (program.writes call value)⟩
  | statement (call : γ) (value : α) (work work' : σ) (statement : ς) (rest : List ς)
      (hrun : program.run statement work = .ok work') :
      Acts program shared ⟨call, .writing value work (statement :: rest)⟩ shared
        ⟨call, .writing value work' rest⟩
  | commit (call : γ) (value : α) (work : σ) :
      Acts program shared ⟨call, .writing value work []⟩
        ⟨work, false, shared.history ++ [(call, value)]⟩ ⟨call, .committed value⟩
  | giveUp (call : γ) :
      Acts program shared ⟨call, .ready⟩ shared ⟨call, .rolledBack⟩
  | rollBack (call : γ) (value : α) (work : σ) (rest : List ς) :
      Acts program shared ⟨call, .writing value work rest⟩ { shared with locked := false }
        ⟨call, .rolledBack⟩

lemma act_acts (program : Program σ γ α ς ε) (fails : Bool) (shared : Shared σ γ α)
    (task : Task σ γ α ς) :
    Acts program shared task (program.act fails shared task).1
      (program.act fails shared task).2 := by
  obtain ⟨call, stage⟩ := task
  cases stage with
  | ready =>
    unfold act
    dsimp only
    cases hlocks : program.locks call with
    | false =>
      rw [if_neg (by simp)]
      split
      · next value hread => exact .read call value hlocks hread
      · exact .giveUp call
    | true =>
      cases hfree : shared.locked with
      | true => exact .wait _
      | false =>
        rw [if_neg (by simp)]
        split
        · next value hread => exact .lockingRead call value hread hfree
        · exact .giveUp call
  | read value =>
    unfold act
    dsimp only
    cases hfree : shared.locked with
    | true => exact .wait _
    | false => exact .lock call value hfree
  | writing value work rest =>
    cases rest with
    | nil =>
      cases fails with
      | true => exact .rollBack call value work []
      | false => exact .commit call value work
    | cons statement rest =>
      unfold act
      dsimp only
      split
      · next work' hrun => exact .statement call value work work' statement rest hrun
      · exact .rollBack call value work (statement :: rest)
  | committed | rolledBack => exact .wait _

end Program

/-! ## The rule -/

/-- Whether the transaction has the lock, as a number. -/
def Task.held (task : Task σ γ α ς) : Int :=
  match task.stage with
  | .writing _ _ _ => 1
  | _ => 0

/-- What a transaction can rely on while the committed store is `store`. `Known` is what stays true
of a value that was read earlier. -/
def Own (program : Program σ γ α ς ε) (Known : σ → γ → α → Prop) (store : σ)
    (task : Task σ γ α ς) : Prop :=
  match task.stage with
  | .read value => program.locks task.call = false ∧ Known store task.call value
  | .writing value work rest =>
    Known store task.call value ∧
      (program.locks task.call = true → program.read task.call store = .ok value) ∧
      ∃ front, program.writes task.call value = front ++ rest ∧
        program.runAll front store = .ok work
  | _ => True

/-- A proof that all interleavings of the transactions keep `Inv`, from what a transaction does as a
whole. The history lists those that have committed, `Allowed` is a condition under which they do. -/
structure Rule (program : Program σ γ α ς ε) (Inv : σ → List (γ × α) → Prop)
    (Known : σ → γ → α → Prop) (Allowed : σ → γ → α → Prop) : Prop where
  read : ∀ store history call value, Inv store history → program.read call store = .ok value →
    Known store call value
  commit : ∀ store history call value store', Inv store history → Known store call value →
    (program.locks call = true → program.read call store = .ok value) →
    Allowed store call value → program.runAll (program.writes call value) store = .ok store' →
    Inv store' (history ++ [(call, value)])
  stable : ∀ store history call value store', Inv store history → Known store call value →
    program.runAll (program.writes call value) store = .ok store' →
    ∀ other seen, Known store other seen → Known store' other seen

/-- The store and its transactions. -/
abbrev State (σ γ α ς : Type) := Workers.State (Shared σ γ α) (Task σ γ α ς)

/-- A step of a transaction, which may fail. -/
abbrev Move (γ : Type) := Workers.Move γ Bool

/-- If the transaction is about to commit, it is allowed to. -/
def Task.MayCommit (Allowed : γ → α → Prop) (task : Task σ γ α ς) : Prop :=
  match task.stage with
  | .writing value _ [] => Allowed task.call value
  | _ => True

instance (Allowed : γ → α → Prop) [∀ call value, Decidable (Allowed call value)] :
    (task : Task σ γ α ς) → Decidable (task.MayCommit Allowed)
  | ⟨call, .writing value _ []⟩ => inferInstanceAs (Decidable (Allowed call value))
  | ⟨_, .writing _ _ (_ :: _)⟩ => isTrue trivial
  | ⟨_, .ready⟩ => isTrue trivial
  | ⟨_, .read _⟩ => isTrue trivial
  | ⟨_, .committed _⟩ => isTrue trivial
  | ⟨_, .rolledBack⟩ => isTrue trivial

/-- The move is not the commit of a transaction that is not allowed to commit. -/
def CommitAllowed (Allowed : σ → γ → α → Prop) (state : State σ γ α ς) : Move γ → Prop
  | .act ref false => ∀ task ∈ state.workers[ref]?, task.MayCommit (Allowed state.shared.store)
  | _ => True

instance (Allowed : σ → γ → α → Prop) [∀ store call value, Decidable (Allowed store call value)]
    (state : State σ γ α ς) : (move : Move γ) → Decidable (CommitAllowed Allowed state move)
  | .act ref false => inferInstanceAs (Decidable (∀ task ∈ state.workers[ref]?,
      task.MayCommit (Allowed state.shared.store)))
  | .act _ true => isTrue trivial
  | .spawn _ => isTrue trivial

/-- The invariant of the system: one transaction at most has the lock. -/
structure Holds (program : Program σ γ α ς ε) (Inv : σ → List (γ × α) → Prop)
    (Known : σ → γ → α → Prop) (state : State σ γ α ς) : Prop where
  inv : Inv state.shared.store state.shared.history
  own : ∀ task ∈ state.workers, Own program Known state.shared.store task
  lock : (state.workers.map Task.held).sum = if state.shared.locked then 1 else 0

lemma Task.held_nonneg (task : Task σ γ α ς) : 0 ≤ task.held := by
  unfold held
  split <;> decide

/-- While the lock is free, no transaction is writing. -/
lemma held_eq_zero {tasks : List (Task σ γ α ς)} (h : (tasks.map Task.held).sum = 0)
    {task : Task σ γ α ς} (hmem : task ∈ tasks) : task.held = 0 := by
  have hnonneg : ∀ x ∈ tasks.map Task.held, 0 ≤ x := by
    intro x hx
    obtain ⟨other, -, rfl⟩ := List.mem_map.mp hx
    exact other.held_nonneg
  have hle : task.held ≤ (tasks.map Task.held).sum :=
    List.single_le_sum hnonneg _ (List.mem_map_of_mem hmem)
  exact le_antisymm (h ▸ hle) task.held_nonneg

namespace Rule

variable {program : Program σ γ α ς ε} {Inv : σ → List (γ × α) → Prop}
  {Known : σ → γ → α → Prop} {Allowed : σ → γ → α → Prop} {state : State σ γ α ς}

/-- A step that leaves the committed store alone only has to account for its own transaction. -/
lemma holds_of_store_eq (h : Holds program Inv Known state) {ref : Nat} {task : Task σ γ α ς}
    (hget : state.workers[ref]? = some task) {locked : Bool} {task' : Task σ γ α ς}
    (hown : Own program Known state.shared.store task')
    (hlock : (if state.shared.locked then (1 : Int) else 0) - task.held + task'.held =
      if locked then 1 else 0) :
    Holds program Inv Known
      ⟨{ state.shared with locked }, state.workers.set ref task'⟩ where
  inv := h.inv
  own := by
    intro other hmem
    rcases List.mem_or_eq_of_mem_set hmem with hold | rfl
    · exact h.own other hold
    · exact hown
  lock := by rw [Workers.sum_map_set Task.held hget, h.lock, hlock]

section

variable (rule : Rule program Inv Known Allowed) (h : Holds program Inv Known state)

include rule h

/-- A transaction that commits has run all its statements on the committed store. -/
lemma holds_of_commit {ref : Nat} {call : γ} {value : α} {work : σ}
    (hget : state.workers[ref]? = some ⟨call, .writing value work []⟩)
    (hallowed : Allowed state.shared.store call value) :
    Holds program Inv Known
      ⟨⟨work, false, state.shared.history ++ [(call, value)]⟩,
        state.workers.set ref ⟨call, .committed value⟩⟩ := by
  obtain ⟨hknown, hfresh, front, hwrites, hrun⟩ := h.own _ (List.mem_of_getElem? hget)
  rw [List.append_nil] at hwrites
  rw [← hwrites] at hrun
  have hsum := Workers.sum_map_set Task.held hget ⟨call, .committed value⟩
  rw [h.lock] at hsum
  -- The lock was held by this transaction, so now no transaction has it.
  have hfree : ((state.workers.set ref ⟨call, .committed value⟩).map Task.held).sum = 0 := by
    have hle : (if state.shared.locked = true then (1 : Int) else 0) ≤ 1 := by
      split_ifs <;> decide
    have hnonneg : 0 ≤ ((state.workers.set ref ⟨call, .committed value⟩).map Task.held).sum := by
      apply List.sum_nonneg
      intro x hx
      obtain ⟨other, -, rfl⟩ := List.mem_map.mp hx
      exact other.held_nonneg
    have hthis : Task.held (⟨call, .writing value work []⟩ : Task σ γ α ς) = 1 := rfl
    have hdone : Task.held (⟨call, .committed value⟩ : Task σ γ α ς) = 0 := rfl
    omega
  refine ⟨rule.commit _ _ call value work h.inv hknown hfresh hallowed hrun, ?_, hfree⟩
  intro other hmem
  have hidle := held_eq_zero hfree hmem
  rcases List.mem_or_eq_of_mem_set hmem with hold | rfl
  · -- The others have at most read the row, and what they know is stable.
    have hother := h.own other hold
    obtain ⟨call', stage⟩ := other
    cases stage with
    | ready | committed | rolledBack => trivial
    | read seen => exact ⟨hother.1, rule.stable _ _ call value work h.inv hknown hrun _ _ hother.2⟩
    | writing => exact absurd hidle one_ne_zero
  · trivial

lemma step (move : Move γ) (hallowed : CommitAllowed Allowed state move) :
    Holds program Inv Known (program.system.step state move) := by
  cases move with
  | spawn call =>
    refine ⟨h.inv, List.forall_mem_append.mpr ⟨h.own, ?_⟩, ?_⟩
    · exact List.forall_mem_singleton.mpr trivial
    · simp only [Workers.System.step, Program.system, List.map_append, List.sum_append]
      exact (add_zero _).trans h.lock
  | act ref fails =>
    cases hget : state.workers[ref]? with
    | none => rwa [program.system.step_act_of_none hget]
    | some task =>
      have hown := h.own task (List.mem_of_getElem? hget)
      have hacts := program.act_acts fails state.shared task
      have hcommit : ∀ call value work, task = ⟨call, .writing value work []⟩ →
          (program.act fails state.shared task).2.stage = .committed value →
          Allowed state.shared.store call value := by
        rintro call value work rfl hstage
        cases fails with
        | true => cases hstage
        | false => exact hallowed _ hget
      rw [program.system.step_act hget]
      change Holds program Inv Known
        ⟨(program.act fails state.shared task).1,
          state.workers.set ref (program.act fails state.shared task).2⟩
      generalize (program.act fails state.shared task).1 = shared' at *
      generalize (program.act fails state.shared task).2 = task' at *
      cases hacts with
      | wait => exact holds_of_store_eq h hget hown (sub_add_cancel _ _)
      | read call value hlocks hread =>
        exact holds_of_store_eq h hget ⟨hlocks, rule.read _ _ call value h.inv hread⟩
          (by simp [Task.held])
      | lockingRead call value hread hfree =>
        refine holds_of_store_eq h hget
          ⟨rule.read _ _ call value h.inv hread, fun _ => hread, [], rfl, rfl⟩ ?_
        simp [hfree, Task.held]
      | lock call value hfree =>
        refine holds_of_store_eq h hget
          ⟨hown.2, fun hlocks => ?_, [], rfl, rfl⟩ ?_
        · rw [hown.1] at hlocks
          cases hlocks
        · simp [hfree, Task.held]
      | statement call value work work' statement rest hrun =>
        obtain ⟨hknown, hfresh, front, hwrites, hfront⟩ := hown
        refine holds_of_store_eq h hget
          ⟨hknown, hfresh, front ++ [statement], ?_, ?_⟩ (by simp [Task.held])
        · rw [hwrites, List.append_assoc, List.singleton_append]
        · rw [program.runAll_append, hfront]
          simp only [bind, Except.bind, Program.runAll, hrun]
      | commit call value work =>
        exact rule.holds_of_commit h hget (hcommit call value work rfl rfl)
      | giveUp call => exact holds_of_store_eq h hget trivial (by simp [Task.held])
      | rollBack call value work rest =>
        refine holds_of_store_eq h hget trivial ?_
        -- Whoever is writing has the lock.
        cases hlocked : state.shared.locked with
        | true => simp [Task.held]
        | false =>
          have hzero := held_eq_zero (by simpa [hlocked] using h.lock)
            (List.mem_of_getElem? hget)
          exact absurd hzero one_ne_zero

/-- What the rule promises holds after every run whose commits are allowed. -/
lemma exec {moves : List (Move γ)}
    (hallowed : Run.Along program.system.step (CommitAllowed Allowed) state moves) :
    Holds program Inv Known (Run.exec program.system.step state moves) :=
  Run.exec_induction (Holds program Inv Known)
    (fun _ move h hallowed => rule.step h move hallowed) h hallowed

end

/-- Without a condition on the commits the rule speaks about every run. -/
lemma exec_all (rule : Rule program Inv Known fun _ _ _ => True)
    (h : Holds program Inv Known state) (moves : List (Move γ)) :
    Holds program Inv Known (Run.exec program.system.step state moves) := by
  refine Run.exec_invariant (Holds program Inv Known) (fun state move h => ?_) h moves
  apply rule.step h move
  cases move with
  | spawn call => trivial
  | act ref fails =>
    cases fails with
    | true => trivial
    | false =>
      intro task _
      unfold Task.MayCommit
      split <;> trivial

end Rule

/-- A store that no transaction has read yet. -/
def start (store : σ) : State σ γ α ς := ⟨⟨store, false, []⟩, []⟩

lemma holds_start {program : Program σ γ α ς ε} {Inv : σ → List (γ × α) → Prop}
    {Known : σ → γ → α → Prop} {store : σ} (h : Inv store []) :
    Holds program Inv Known (start store) :=
  ⟨h, List.forall_mem_nil _, rfl⟩

/-! ## The history -/

/-- Whether the transaction has committed, as a number. -/
def Task.done (task : Task σ γ α ς) : Int :=
  match task.stage with
  | .committed _ => 1
  | _ => 0

/-- The history has one entry for every transaction that has committed. -/
structure Recorded (state : State σ γ α ς) : Prop where
  mem : ∀ task ∈ state.workers, ∀ value, task.stage = .committed value →
    (task.call, value) ∈ state.shared.history
  count : (state.workers.map Task.done).sum = state.shared.history.length

lemma recorded_start (store : σ) : Recorded (start store : State σ γ α ς) :=
  ⟨List.forall_mem_nil _, rfl⟩

section

variable (program : Program σ γ α ς ε)

lemma Recorded.step {state : State σ γ α ς} (h : Recorded state)
    (move : Move γ) : Recorded (program.system.step state move) := by
  cases move with
  | spawn call =>
    refine ⟨List.forall_mem_append.mpr ⟨h.mem, List.forall_mem_singleton.mpr ?_⟩, ?_⟩
    · rintro value ⟨⟩
    · simp only [Workers.System.step, Program.system, List.map_append, List.sum_append]
      exact (add_zero _).trans h.count
  | act ref fails =>
    cases hget : state.workers[ref]? with
    | none => rwa [program.system.step_act_of_none hget]
    | some task =>
      have hacts := program.act_acts fails state.shared task
      have hold := h.mem task (List.mem_of_getElem? hget)
      rw [program.system.step_act hget]
      change Recorded
        ⟨(program.act fails state.shared task).1,
          state.workers.set ref (program.act fails state.shared task).2⟩
      generalize (program.act fails state.shared task).1 = shared' at *
      generalize (program.act fails state.shared task).2 = task' at *
      -- The new entry, if there is one, is the one of this transaction.
      suffices hthis : (∃ front, shared'.history = state.shared.history ++ front ∧
          task'.done - task.done = front.length) ∧
          ∀ value, task'.stage = .committed value → (task'.call, value) ∈ shared'.history by
        obtain ⟨⟨front, hhistory, hdone⟩, hmem'⟩ := hthis
        refine ⟨fun other hmem value hstage => ?_, ?_⟩
        · rcases List.mem_or_eq_of_mem_set hmem with hother | rfl
          · rw [hhistory]
            exact List.mem_append_left _ (h.mem other hother value hstage)
          · exact hmem' value hstage
        · rw [Workers.sum_map_set Task.done hget, h.count, hhistory, List.length_append]
          push_cast
          omega
      cases hacts with
      | commit call value work =>
        refine ⟨⟨[(call, value)], rfl, rfl⟩, ?_⟩
        rintro value' ⟨⟩
        exact List.mem_append_right _ List.mem_cons_self
      | wait => exact ⟨⟨[], (List.append_nil _).symm, sub_self _⟩, hold⟩
      | read | lockingRead | lock | statement | giveUp | rollBack =>
        refine ⟨⟨[], (List.append_nil _).symm, rfl⟩, ?_⟩
        rintro value ⟨⟩

lemma recorded_exec (store : σ) (moves : List (Move γ)) :
    Recorded (Run.exec program.system.step (start store) moves) :=
  Run.exec_invariant Recorded (fun _ move h => h.step program move) (recorded_start store) moves

/-- The committed store only changes when a transaction commits. -/
lemma store_eq_or_committed (state : State σ γ α ς) (ref : Nat) (fails : Bool) :
    (program.system.step state (.act ref fails)).shared.store = state.shared.store ∨
      ∃ call value, (program.system.step state (.act ref fails)).workers[ref]? =
        some ⟨call, .committed value⟩ := by
  cases hget : state.workers[ref]? with
  | none => exact .inl (by rw [program.system.step_act_of_none hget])
  | some task =>
    have hlength : ref < state.workers.length := (List.getElem?_eq_some_iff.mp hget).1
    have hacts := program.act_acts fails state.shared task
    rw [program.system.step_act hget]
    change (program.act fails state.shared task).1.store = state.shared.store ∨
      ∃ call value, (state.workers.set ref (program.act fails state.shared task).2)[ref]? =
        some ⟨call, .committed value⟩
    rw [List.getElem?_set_self hlength]
    generalize (program.act fails state.shared task).1 = shared' at *
    generalize (program.act fails state.shared task).2 = task' at *
    cases hacts with
    | commit call value work => exact .inr ⟨call, value, rfl⟩
    | wait | read | lockingRead | lock | statement | giveUp | rollBack => exact .inl rfl

end

end Transaction
