import Mathlib.Data.Fintype.Defs
import Yunbay.Data.Workers

/-!
# Performance samples

`Record` adds a sample to the hot bucket of its time one counter after the other. Once the time is
over, the passes of `flushCompletedBuckets` swap the counters out one after the other, add them to
the row of the bucket, and add them back if that fails. Every operation on a counter and every
upsert is a step. The bucket is younger than 24 hours, so it stays in the map.

A pass throws away what it has swapped out if there is no request in it, so a sample whose request
an earlier pass has taken loses its other counters.
-/

namespace Yunbay

open Run Workers

/-- The fields of `counters`. -/
inductive PerfCounter where
  | requestCount
  | successCount
  | totalLatencyMs
  | ttftSumMs
  | ttftCount
  | outputTokens
  | generationMs
  deriving DecidableEq

/-- The counters in the order of `drain`. -/
def PerfCounter.fields : List PerfCounter :=
  [.requestCount, .successCount, .totalLatencyMs, .ttftSumMs, .ttftCount, .outputTokens,
    .generationMs]

instance : Fintype PerfCounter :=
  ⟨⟨PerfCounter.fields, by decide⟩, fun counter => by cases counter <;> decide⟩

/-- `counters` and `atomicBucket`. No counter is ever negative. -/
abbrev PerfCounters := PerfCounter → Nat

/-- What is recorded of a request. -/
structure Sample where
  latencyMs : Int
  ttftMs : Int
  hasTtft : Bool
  success : Bool
  outputTokens : Int
  generationMs : Int

/-- The additions of `atomicBucket.add`. -/
def Sample.add (sample : Sample) : List (PerfCounter × Nat) :=
  [(.requestCount, 1)] ++
    (if sample.success then [(.successCount, 1)] else []) ++
    (if 0 < sample.latencyMs then [(.totalLatencyMs, sample.latencyMs.toNat)] else []) ++
    (if sample.hasTtft ∧ 0 ≤ sample.ttftMs then
      [(.ttftSumMs, sample.ttftMs.toNat), (.ttftCount, 1)] else []) ++
    if 0 < sample.outputTokens ∧ 0 < sample.generationMs then
      [(.outputTokens, sample.outputTokens.toNat), (.generationMs, sample.generationMs.toNat)]
    else []

/-- The hot bucket and its row in the database. -/
structure PerfBucket where
  hot : PerfCounters
  row : PerfCounters

inductive PerfCall where
  | record (sample : Sample)
  | flush

/-- What a thread still has to do. -/
inductive PerfWork where
  | adding (adds : List (PerfCounter × Nat))
  /-- The counters in `rest` are not swapped yet. -/
  | draining (rest : List PerfCounter) (drained : PerfCounters)
  deriving DecidableEq

/-- `addCounters`. An addition of zero, which it skips, changes nothing. -/
def addCounters (drained : PerfCounters) : List (PerfCounter × Nat) :=
  PerfCounter.fields.map fun counter => (counter, drained counter)

/-- The next step of a thread. The input says whether an upsert succeeds. -/
def perfAct (upserts : Bool) (bucket : PerfBucket) : PerfWork → PerfBucket × PerfWork
  | .adding [] => (bucket, .adding [])
  | .adding ((counter, value) :: adds) =>
    ({ bucket with hot := bucket.hot + Pi.single counter value }, .adding adds)
  | .draining (counter :: rest) drained =>
    ({ bucket with hot := Function.update bucket.hot counter 0 },
      .draining rest (drained + Pi.single counter (bucket.hot counter)))
  | .draining [] drained =>
    if drained .requestCount = 0 then (bucket, .adding [])
    else if upserts then ({ bucket with row := bucket.row + drained }, .adding [])
    else (bucket, .adding (addCounters drained))

/-- Any number of threads in `Record` and in `flushCompletedBuckets`. -/
def perfSystem : System PerfBucket PerfWork PerfCall Bool where
  spawn
    | .record sample, _ => .adding { sample with latencyMs := max sample.latencyMs 0 }.add
    | .flush, _ => .draining PerfCounter.fields 0
  act := perfAct

/-! ## What is on its way -/

variable (counter : PerfCounter) (state : State PerfBucket PerfWork)
  (moves : List (Move PerfCall Bool))

/-- What a thread still has to add to a counter. -/
def PerfWork.pending : PerfWork → Nat
  | .adding adds => ((adds.filter (·.1 = counter)).map (·.2)).sum
  | .draining _ drained => drained counter

/-- What the next step of a thread throws away. -/
def PerfWork.dropped : PerfWork → PerfCounters
  | .draining [] drained => if drained .requestCount = 0 then drained else 0
  | _ => 0

/-- The contribution of the sample that a step begins to record. -/
def recorded (counter : PerfCounter) : Move PerfCall Bool → Nat
  | .spawn call => (perfSystem.spawn call ⟨0, 0⟩).pending counter
  | .act .. => 0

/-- What a step throws away. -/
def dropped (state : State PerfBucket PerfWork) : Move PerfCall Bool → PerfCounters
  | .spawn _ => 0
  | .act ref _ => (state.workers[ref]?).elim 0 PerfWork.dropped

lemma pending_cons (add : PerfCounter × Nat) (adds : List (PerfCounter × Nat)) :
    (PerfWork.adding (add :: adds)).pending counter =
      (Pi.single add.1 add.2 : PerfCounters) counter + (PerfWork.adding adds).pending counter := by
  by_cases h : add.1 = counter
  · simp [PerfWork.pending, h]
  · simp [PerfWork.pending, h, Ne.symm h]

lemma pending_addCounters (drained : PerfCounters) :
    (PerfWork.adding (addCounters drained)).pending counter = drained counter := by
  cases counter <;> simp [PerfWork.pending, addCounters, PerfCounter.fields]

/-- A step moves counts between the bucket, the row and the thread, or throws them away. -/
lemma perfAct_conserves (upserts : Bool) (bucket : PerfBucket) (work : PerfWork) :
    (perfAct upserts bucket work).1.hot counter + (perfAct upserts bucket work).1.row counter +
        (perfAct upserts bucket work).2.pending counter + work.dropped counter =
      bucket.hot counter + bucket.row counter + work.pending counter := by
  cases work with
  | adding adds =>
    cases adds with
    | nil => rfl
    | cons add adds =>
      rw [pending_cons]
      simp only [perfAct, PerfWork.dropped, Pi.add_apply, Pi.zero_apply]
      omega
  | draining rest drained =>
    cases rest with
    | nil =>
      simp only [perfAct, PerfWork.dropped]
      split_ifs
      · simp [PerfWork.pending]
      · simp [PerfWork.pending, add_assoc]
      · rw [pending_addCounters]
        rfl
    | cons swapped rest =>
      simp only [perfAct, PerfWork.pending, PerfWork.dropped, Pi.add_apply, Pi.zero_apply,
        Function.update_apply, Pi.single_apply]
      split_ifs with h
      · subst h
        omega
      · omega

/-! ## Runs -/

/-- The counts in the bucket, in the row and on their way. -/
def perfTotal : ℤ :=
  state.shared.hot counter + state.shared.row counter +
    (state.workers.map fun work => (work.pending counter : ℤ)).sum

/-- What a run throws away. -/
def lost (counter : PerfCounter) (state : State PerfBucket PerfWork) :
    List (Move PerfCall Bool) → Nat
  | [] => 0
  | move :: moves => dropped state move counter + lost counter (perfSystem.step state move) moves

lemma perfTotal_step (move : Move PerfCall Bool) :
    perfTotal counter (perfSystem.step state move) + dropped state move counter =
      perfTotal counter state + recorded counter move := by
  cases move with
  | spawn call =>
    cases call <;> simp [perfTotal, System.step, dropped, recorded, perfSystem, add_assoc]
  | act ref upserts =>
    cases hget : state.workers[ref]? with
    | none => simp [perfSystem.step_act_of_none hget, dropped, recorded, hget]
    | some work =>
      have hact := perfAct_conserves counter upserts state.shared work
      have hsum := sum_map_set (fun work : PerfWork => (work.pending counter : ℤ)) hget
        (perfAct upserts state.shared work).2
      rw [perfSystem.step_act hget]
      simp only [perfTotal, dropped, recorded, hget, Option.elim_some, perfSystem, hsum]
      omega

lemma perfTotal_exec :
    perfTotal counter (exec perfSystem.step state moves) + lost counter state moves =
      perfTotal counter state + (moves.map (recorded counter)).sum := by
  induction moves generalizing state with
  | nil => simp [lost]
  | cons move moves ih =>
    have hstep := perfTotal_step counter state move
    have hrun := ih (perfSystem.step state move)
    simp only [exec_cons, lost, List.map_cons, List.sum_cons]
    omega

lemma along_iff_lost :
    Along perfSystem.step (fun state move => ∀ counter, dropped state move counter = 0) state
        moves ↔ ∀ counter, lost counter state moves = 0 := by
  induction moves generalizing state with
  | nil => simp [lost]
  | cons move moves ih => simp [lost, ih, forall_and]

/-- Once all calls have returned, every counter of the row and the hot bucket shows all recorded
samples if and only if no pass has thrown a count away. -/
theorem samples_kept_iff (bucket : PerfBucket) (moves : List (Move PerfCall Bool))
    (hreturned : ∀ work ∈ (exec perfSystem.step ⟨bucket, []⟩ moves).workers, work = .adding []) :
    (∀ counter, (exec perfSystem.step ⟨bucket, []⟩ moves).shared.hot counter +
          (exec perfSystem.step ⟨bucket, []⟩ moves).shared.row counter =
        bucket.hot counter + bucket.row counter + (moves.map (recorded counter)).sum) ↔
      Along perfSystem.step (fun state move => ∀ counter, dropped state move counter = 0)
        ⟨bucket, []⟩ moves := by
  rw [along_iff_lost]
  refine forall_congr' fun counter => ?_
  have hrun := perfTotal_exec counter ⟨bucket, []⟩ moves
  have hpending : ((exec perfSystem.step ⟨bucket, []⟩ moves).workers.map
      fun work => (work.pending counter : ℤ)).sum = 0 := by
    refine List.sum_eq_zero fun pending hmem => ?_
    obtain ⟨work, hwork, rfl⟩ := List.mem_map.mp hmem
    rw [hreturned work hwork]
    rfl
  simp only [perfTotal, hpending, List.map_nil, List.sum_nil] at hrun
  omega

/-- A successful request of which nothing else is known. -/
def successSample : Sample := ⟨0, 0, false, true, 0, 0⟩

/-- The sample is recorded before the first pass begins. -/
def passAfterRecord : List (Move PerfCall Bool) :=
  [.spawn (.record successSample), .act 0 true, .act 0 true, .spawn .flush] ++
    List.replicate 8 (.act 1 true)

/-- The first pass runs between the two additions of the sample, the second one after them. -/
def passWithinRecord : List (Move PerfCall Bool) :=
  [.spawn (.record successSample), .act 0 true, .spawn .flush] ++ List.replicate 8 (.act 1 true) ++
    [.act 0 true, .spawn .flush] ++ List.replicate 8 (.act 2 true)

theorem passAfterRecord_keeps :
    (exec perfSystem.step ⟨⟨0, 0⟩, []⟩ passAfterRecord).shared.hot .successCount +
      (exec perfSystem.step ⟨⟨0, 0⟩, []⟩ passAfterRecord).shared.row .successCount = 1 :=
  (samples_kept_iff ⟨0, 0⟩ passAfterRecord (by decide +kernel)).mpr (by decide +kernel)
    .successCount

/-- The first pass takes the request. The second one finds the success without a request, and throws
it away. -/
theorem passWithinRecord_loses :
    (exec perfSystem.step ⟨⟨0, 0⟩, []⟩ passWithinRecord).workers =
        [.adding [], .adding [], .adding []] ∧
      (passWithinRecord.map (recorded .successCount)).sum = 1 ∧
      (exec perfSystem.step ⟨⟨0, 0⟩, []⟩ passWithinRecord).shared.hot .successCount = 0 ∧
      (exec perfSystem.step ⟨⟨0, 0⟩, []⟩ passWithinRecord).shared.row .successCount = 0 := by
  decide +kernel

end Yunbay
