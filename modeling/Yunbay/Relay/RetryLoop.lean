import Mathlib.Data.List.Count
import Mathlib.Tactic.Linarith
import Mathlib.Tactic.Ring

/-!
# Retrying over the auto groups

A request of the group `auto` is tried with the channels of several groups, one after the other. The
loop in `Relay` counts the tries of a group, and `CacheGetRandomSatisfiedChannel` sets the counter
back when it goes to the next group. The first channel is chosen before the loop. If the client has
used it before, the context has no index of a group.

`retries_in_order_iff`: no group is tried too often or again after a later one, unless the first
channel was such a channel of a later group.
-/

namespace Yunbay

/-- The counter and the flag of `RetryParam`, and the index of the group in the context. -/
structure RetryState where
  retry : Nat := 0
  resetNextTry : Bool := false
  autoGroupIndex : Option Nat := none

def RetryState.increaseRetry (s : RetryState) : RetryState :=
  if s.resetNextTry then { s with resetNextTry := false } else { s with retry := s.retry + 1 }

/-- The tries that were made in group `i`. -/
def RetryState.priorityRetry (s : RetryState) (startGroupIndex i : Nat) : Nat :=
  if startGroupIndex < i then 0 else s.retry

/-- The loop over the groups, from group `i` on. `found` says for which groups there is a channel at
the time of the call. -/
def selectAutoGroup (retryTimes : Nat) (crossGroupRetry : Bool) (found : Nat → Bool)
    (startGroupIndex : Nat) : Nat → Nat → RetryState → Option Nat × RetryState
  | 0, _, s => (none, s)
  | left + 1, i, s =>
    if found i then
      if crossGroupRetry ∧ retryTimes ≤ s.priorityRetry startGroupIndex i then
        (some i, { retry := 0, resetNextTry := true, autoGroupIndex := some (i + 1) })
      else (some i, { s with autoGroupIndex := some i })
    else
      selectAutoGroup retryTimes crossGroupRetry found startGroupIndex left (i + 1)
        { s with retry := 0, autoGroupIndex := some (i + 1) }

/-- `CacheGetRandomSatisfiedChannel` for `n` auto groups. -/
def cacheGetRandomSatisfiedChannel (retryTimes : Nat) (crossGroupRetry : Bool) (n : Nat)
    (found : Nat → Bool) (s : RetryState) : Option Nat × RetryState :=
  let startGroupIndex := s.autoGroupIndex.getD 0
  selectAutoGroup retryTimes crossGroupRetry found startGroupIndex (n - startGroupIndex)
    startGroupIndex s

/-- `getChannel` of the loop. Only the first try has a channel that was chosen before. -/
def relayGetChannel (retryTimes : Nat) (crossGroupRetry : Bool) (n : Nat) (found : Nat → Bool)
    (chosen : Option Nat) (s : RetryState) : Option Nat × RetryState :=
  match chosen with
  | some i => (some i, s)
  | none => cacheGetRandomSatisfiedChannel retryTimes crossGroupRetry n found s

/-- What `shouldRetry` looks at. -/
structure AttemptError where
  skipAfterAffinity : Bool := false
  isChannelError : Bool := false
  isSkipRetryError : Bool := false
  specificChannel : Bool := false
  /-- The decision by the status code and the error code. -/
  retryByStatusCode : Bool := false

def shouldRetry (e : AttemptError) (retryTimes : Nat) : Bool :=
  if e.skipAfterAffinity then false
  else if e.isChannelError then true
  else if e.isSkipRetryError then false
  else if retryTimes = 0 then false
  else if e.specificChannel then false
  else e.retryByStatusCode

/-- What happens in one round of the loop. -/
structure RelayRound where
  found : Nat → Bool
  /-- The channel can be set up, and the body of the request can be read. -/
  prepared : Bool
  /-- `none` for a successful attempt. -/
  error : Option AttemptError

/-- The retry loop: the groups of the upstream attempts, in order. `chosen` is the group of the
channel that was chosen before the loop. Without enough fuel there is no answer. -/
def retryLoop (retryTimes : Nat) (crossGroupRetry : Bool) (n : Nat) (rounds : Nat → RelayRound) :
    Nat → Nat → Option Nat → RetryState → Option (List Nat)
  | 0, _, _, _ => none
  | fuel + 1, round, chosen, s =>
    if retryTimes < s.retry then some []
    else
      match relayGetChannel retryTimes crossGroupRetry n (rounds round).found chosen s with
      | (none, _) => some []
      | (some i, s') =>
        if (rounds round).prepared then
          match (rounds round).error with
          | none => some [i]
          | some e =>
            if shouldRetry e (retryTimes - s'.retry) then
              (retryLoop retryTimes crossGroupRetry n rounds fuel (round + 1) none
                s'.increaseRetry).map (i :: ·)
            else some [i]
        else some []

/-- How the channel of the first try was chosen. -/
inductive FirstChannel where
  | lookup (found : Nat → Bool)
  /-- The client has used a channel of this group before. -/
  | affinity (group : Nat)

/-- The groups of all upstream attempts of a request. -/
def relayAttempts (retryTimes : Nat) (crossGroupRetry : Bool) (n : Nat) (first : FirstChannel)
    (rounds : Nat → RelayRound) (fuel : Nat) : Option (List Nat) :=
  match first with
  | .lookup found =>
    match cacheGetRandomSatisfiedChannel retryTimes crossGroupRetry n found {} with
    | (none, _) => some []
    | (some i, s) => retryLoop retryTimes crossGroupRetry n rounds fuel 0 (some i)
        { autoGroupIndex := s.autoGroupIndex }
  | .affinity i => retryLoop retryTimes crossGroupRetry n rounds fuel 0 (some i) {}

variable {R n : Nat} {cross : Bool} {rounds : Nat → RelayRound}

/-! ### One lookup -/

variable {start k : Nat} {s s' : RetryState}

variable {found : Nat → Bool} {left i tries done : Nat}

/-- A lookup that finds a channel stays in the group, with the counter at the tries made in it, or
prepares the next group if the tries are used up. -/
lemma selectAutoGroup_eq_some (hi : i = start ∨ start < i ∧ s.retry = 0)
    (h : selectAutoGroup R cross found start left i s = (some k, s')) :
    i ≤ k ∧ k < i + left ∧ ∃ tries, (k = start ∧ tries = s.retry ∨ start < k ∧ tries = 0) ∧
      (R ≤ tries ∧ s' = ⟨0, true, some (k + 1)⟩ ∨ s' = ⟨tries, s.resetNextTry, some k⟩) := by
  induction left generalizing i s with
  | zero => cases h
  | succ left ih =>
    rw [selectAutoGroup] at h
    split_ifs at h with hfound hmove
    · cases h
      refine ⟨le_rfl, by omega, _, ?_, .inl ⟨hmove.2, rfl⟩⟩
      unfold RetryState.priorityRetry
      split_ifs <;> omega
    · cases h
      refine ⟨le_rfl, by omega, s.retry, by omega, .inr rfl⟩
    · obtain ⟨hle, hlt, tries, htries, hs'⟩ := ih (.inr ⟨by omega, rfl⟩) h
      refine ⟨by omega, by omega, tries, .inr ?_, hs'⟩
      simp only at htries
      omega

lemma cacheGet_eq_some (h : cacheGetRandomSatisfiedChannel R cross n found s = (some k, s')) :
    s.autoGroupIndex.getD 0 ≤ k ∧ k < n ∧ ∃ tries,
      (k = s.autoGroupIndex.getD 0 ∧ tries = s.retry ∨
        s.autoGroupIndex.getD 0 < k ∧ tries = 0) ∧
      (R ≤ tries ∧ s' = ⟨0, true, some (k + 1)⟩ ∨ s' = ⟨tries, s.resetNextTry, some k⟩) := by
  obtain ⟨hle, hlt, hrest⟩ := selectAutoGroup_eq_some (.inl rfl) h
  exact ⟨hle, by omega, hrest⟩

/-! ### The loop -/

/-- Attempts from group `start` on, of which the first `tries` in this group are over. -/
structure GroupOrder (R n start tries : Nat) (attempts : List Nat) : Prop where
  sorted : attempts.Pairwise (· ≤ ·)
  start_le : ∀ i ∈ attempts, start ≤ i
  count_start : attempts.count start ≤ R + 1 - tries
  count_le : ∀ i, attempts.count i ≤ R + 1
  length_le : attempts.length ≤ (n - start) * (R + 1) - tries

lemma GroupOrder.nil (R n start tries : Nat) : GroupOrder R n start tries [] where
  sorted := List.Pairwise.nil
  start_le := by simp
  count_start := by simp
  count_le := by simp
  length_le := by simp

variable {attempts : List Nat}

lemma GroupOrder.cons (h : GroupOrder R n k (done + 1) attempts) (hk : start ≤ k) (hn : k < n)
    (hdone : done ≤ R) (htries : k = start ∧ done = tries ∨ start < k ∧ tries ≤ R) :
    GroupOrder R n start tries (k :: attempts) where
  sorted := List.pairwise_cons.mpr ⟨h.start_le, h.sorted⟩
  start_le := List.forall_mem_cons.mpr ⟨hk, fun i hi => hk.trans (h.start_le i hi)⟩
  count_start := by
    rw [List.count_cons]
    rcases htries with ⟨rfl, rfl⟩ | ⟨hlt, -⟩
    · have := h.count_start
      simp only [beq_self_eq_true, if_true]
      omega
    · have hnone : attempts.count start = 0 :=
        List.count_eq_zero.mpr fun hmem => absurd (h.start_le start hmem) (by omega)
      simp only [hnone, beq_iff_eq]
      split_ifs <;> omega
  count_le i := by
    rw [List.count_cons]
    have hcount := h.count_le i
    by_cases hki : k = i
    · have := hki ▸ h.count_start
      simp only [hki, beq_self_eq_true, if_true]
      omega
    · simp [hki, hcount]
  length_le := by
    have hlength := h.length_le
    rw [List.length_cons]
    rcases htries with ⟨rfl, rfl⟩ | ⟨hlt, htries⟩
    · have : R + 1 ≤ (n - k) * (R + 1) := Nat.le_mul_of_pos_left _ (by omega)
      omega
    · have hgroups : (n - k) * (R + 1) + (R + 1) ≤ (n - start) * (R + 1) := by
        rw [← Nat.succ_mul]
        exact Nat.mul_le_mul_right _ (by omega)
      have : R + 1 ≤ (n - k) * (R + 1) := Nat.le_mul_of_pos_left _ (by omega)
      omega

lemma GroupOrder.of_next (h : GroupOrder R n (k + 1) 0 attempts) (hdone : R ≤ done)
    (hdoneLe : done ≤ R) (hn : k < n) :
    GroupOrder R n k (done + 1) attempts where
  sorted := h.sorted
  start_le i hi := Nat.le_of_succ_le (h.start_le i hi)
  count_start := by
    rw [List.count_eq_zero.mpr fun hmem => absurd (h.start_le k hmem) (by omega)]
    exact Nat.zero_le _
  count_le := h.count_le
  length_le := by
    have hgroups : (n - k) * (R + 1) = (n - (k + 1)) * (R + 1) + (R + 1) := by
      rw [← Nat.succ_mul]
      congr 1
      omega
    have := h.length_le
    omega

variable {fuel : Nat}

lemma retryLoop_chosen {round : Nat} {chosen : Option Nat} (hretry : s.retry ≤ R)
    (hselect : relayGetChannel R cross n (rounds round).found chosen s = (some k, s'))
    {P : List Nat → Prop} (hnil : P []) (hone : P [k])
    (hmore : ∃ attempts, retryLoop R cross n rounds fuel (round + 1) none s'.increaseRetry =
      some attempts ∧ P (k :: attempts)) :
    ∃ attempts, retryLoop R cross n rounds (fuel + 1) round chosen s = some attempts ∧
      P attempts := by
  rw [retryLoop, if_neg (not_lt.mpr hretry), hselect]
  simp only
  split_ifs with hprepared
  · cases (rounds round).error with
    | none => exact ⟨[k], rfl, hone⟩
    | some e =>
      simp only
      split_ifs
      · obtain ⟨attempts, hloop, hattempts⟩ := hmore
        exact ⟨k :: attempts, by rw [hloop]; rfl, hattempts⟩
      · exact ⟨[k], rfl, hone⟩
  · exact ⟨[], rfl, hnil⟩

lemma retryLoop_inOrder (fuel round : Nat) (s : RetryState) (hreset : s.resetNextTry = false)
    (hfuel : (n - s.autoGroupIndex.getD 0) * (R + 1) - s.retry < fuel) :
    ∃ attempts, retryLoop R cross n rounds fuel round none s = some attempts ∧
      GroupOrder R n (s.autoGroupIndex.getD 0) s.retry attempts := by
  induction fuel generalizing round s with
  | zero => omega
  | succ fuel ih =>
    by_cases hretry : s.retry ≤ R
    · cases hselect : relayGetChannel R cross n (rounds round).found none s with
      | mk group s' =>
        cases group with
        | none =>
          refine ⟨[], ?_, GroupOrder.nil ..⟩
          rw [retryLoop, if_neg (not_lt.mpr hretry), hselect]
        | some k =>
          obtain ⟨hle, hlt, tries, htries, hs'⟩ := cacheGet_eq_some hselect
          have hdone : tries ≤ R := by omega
          have hcons : ∀ {attempts}, GroupOrder R n k (tries + 1) attempts →
              GroupOrder R n (s.autoGroupIndex.getD 0) s.retry (k :: attempts) := fun h =>
            h.cons hle hlt hdone (htries.imp_right fun h => ⟨h.1, hretry⟩)
          have hgroups : (n - k) * (R + 1) - tries ≤
              (n - s.autoGroupIndex.getD 0) * (R + 1) - s.retry := by
            rcases htries with ⟨rfl, rfl⟩ | ⟨hnext, rfl⟩
            · exact le_rfl
            · have := Nat.mul_le_mul_right (R + 1) (show n - k + 1 ≤
                n - s.autoGroupIndex.getD 0 by omega)
              rw [Nat.succ_mul] at this
              omega
          have hpos : R + 1 ≤ (n - k) * (R + 1) := Nat.le_mul_of_pos_left _ (by omega)
          refine retryLoop_chosen hretry hselect (GroupOrder.nil ..) (hcons (GroupOrder.nil ..)) ?_
          rcases hs' with ⟨hused, rfl⟩ | rfl
          · -- the next group is prepared, and the next try is its first one
            have hsplit : (n - k) * (R + 1) = (n - (k + 1)) * (R + 1) + (R + 1) := by
              rw [← Nat.succ_mul]
              congr 1
              omega
            obtain ⟨attempts, hloop, hattempts⟩ := ih (round + 1) ⟨0, false, some (k + 1)⟩ rfl
              (by simp only [Option.getD_some]; omega)
            exact ⟨attempts, hloop, hcons (hattempts.of_next hused hdone hlt)⟩
          · obtain ⟨attempts, hloop, hattempts⟩ := ih (round + 1) ⟨tries + 1, false, some k⟩ rfl
              (by simp only [Option.getD_some]; omega)
            rw [hreset]
            exact ⟨attempts, hloop, hcons hattempts⟩
    · refine ⟨[], ?_, GroupOrder.nil ..⟩
      rw [retryLoop, if_pos (not_le.mp hretry)]

/-! ### The whole request -/

/-- The number of attempts, the order of their groups, and the attempts of one group. -/
structure Bounded (R n : Nat) (attempts : List Nat) : Prop where
  length_le : attempts.length ≤ n * (R + 1)
  sorted : attempts.Pairwise (· ≤ ·)
  count_le : ∀ i, attempts.count i ≤ R + 1

lemma GroupOrder.bounded (h : GroupOrder R n start tries attempts) :
    Bounded R n attempts where
  length_le := h.length_le.trans
    ((Nat.sub_le _ _).trans (Nat.mul_le_mul_right _ (Nat.sub_le n start)))
  sorted := h.sorted
  count_le := h.count_le

lemma firstTry_bounded {index : Option Nat} (hi : i < n)
    (hindex : index.getD 0 = i ∨ R = 0) (hfuel : n * (R + 1) < fuel) :
    ∃ attempts, retryLoop R cross n rounds fuel 0 (some i) { autoGroupIndex := index } =
      some attempts ∧ Bounded R n attempts := by
  obtain ⟨fuel, rfl⟩ : ∃ f, fuel = f + 1 := ⟨fuel - 1, by omega⟩
  have hone : GroupOrder R n i 0 [i] :=
    (GroupOrder.nil R n i 1).cons le_rfl hi (Nat.zero_le R) (.inl ⟨rfl, rfl⟩)
  refine retryLoop_chosen (Nat.zero_le R) rfl (GroupOrder.nil R n i 0).bounded hone.bounded ?_
  change ∃ attempts, retryLoop R cross n rounds fuel 1 none ⟨1, false, index⟩ = some attempts ∧ _
  have hpos : R + 1 ≤ n * (R + 1) := Nat.le_mul_of_pos_left _ (by omega)
  rcases hindex with hindex | rfl
  · have hgroups : (n - i) * (R + 1) ≤ n * (R + 1) :=
      Nat.mul_le_mul_right _ (Nat.sub_le n i)
    have hrest : ∃ attempts, retryLoop R cross n rounds fuel 1 none ⟨1, false, index⟩ =
        some attempts ∧ GroupOrder R n (index.getD 0) 1 attempts := by
      refine retryLoop_inOrder fuel 1 ⟨1, false, index⟩ rfl ?_
      simp only [hindex]
      omega
    obtain ⟨attempts, hloop, hattempts⟩ := hrest
    rw [hindex] at hattempts
    exact ⟨attempts, hloop,
      (hattempts.cons le_rfl hi (Nat.zero_le R) (.inl ⟨rfl, rfl⟩)).bounded⟩
  · obtain ⟨fuel, rfl⟩ : ∃ f, fuel = f + 1 := ⟨fuel - 1, by omega⟩
    exact ⟨[], by rw [retryLoop]; rfl, hone.bounded⟩

/-- The first channel is not one of a later group that the client has used before, or there are no
retries. -/
def FirstChannel.InTurn (R : Nat) : FirstChannel → Prop
  | .lookup _ => True
  | .affinity i => i = 0 ∨ R = 0

/-- The group of a channel that the client has used before is one of the auto groups. -/
def FirstChannel.Valid (n : Nat) : FirstChannel → Prop
  | .lookup _ => True
  | .affinity i => i < n

/-- Every channel is found, and every attempt fails. -/
def failingRound : RelayRound := ⟨fun _ => true, true, some { isChannelError := true }⟩

/-- After a channel of another group that has failed, the first group is tried. -/
lemma affinity_second_attempt (hR : ¬R < 1)
    (h : relayAttempts R cross (left + 1) (.affinity i) (fun _ => failingRound) (fuel + 2) =
      some attempts) : ∃ rest, attempts = i :: 0 :: rest := by
  have hsecond : ∃ s', cacheGetRandomSatisfiedChannel R cross (left + 1) (fun _ => true)
      ⟨1, false, none⟩ = (some 0, s') := by
    simp only [cacheGetRandomSatisfiedChannel, Option.getD_none, Nat.sub_zero, selectAutoGroup,
      if_true]
    split_ifs <;> exact ⟨_, rfl⟩
  obtain ⟨s', hs'⟩ := hsecond
  simp only [relayAttempts, retryLoop, failingRound, relayGetChannel, Nat.not_lt_zero, if_false,
    if_true, shouldRetry, Bool.false_eq_true, RetryState.increaseRetry, Nat.zero_add, hR, hs',
    Option.map_map, Option.map_eq_some_iff] at h
  obtain ⟨rest, -, rfl⟩ := h
  exact ⟨rest, rfl⟩

/-- Whatever is found and fails, the attempts are bounded exactly when the first channel is in
turn. -/
theorem retries_in_order_iff {first : FirstChannel} (hvalid : first.Valid n) {fuel : Nat}
    (hfuel : n * (R + 1) < fuel) :
    (∀ rounds : Nat → RelayRound, ∃ attempts, relayAttempts R cross n first rounds fuel =
      some attempts ∧ Bounded R n attempts) ↔ first.InTurn R := by
  constructor
  · intro hall
    cases first with
    | lookup found => trivial
    | affinity i =>
      have hi : i < n := hvalid
      by_contra hturn
      obtain ⟨hpos, hR⟩ := not_or.mp hturn
      obtain ⟨attempts, hloop, hattempts⟩ := hall fun _ => failingRound
      obtain ⟨fuel, rfl⟩ : ∃ f, fuel = f + 2 := by
        have : n * 2 ≤ n * (R + 1) := Nat.mul_le_mul_left n (by omega)
        exact ⟨fuel - 2, by omega⟩
      obtain ⟨left, rfl⟩ : ∃ left, n = left + 1 := ⟨n - 1, by omega⟩
      obtain ⟨rest, rfl⟩ := affinity_second_attempt (by omega) hloop
      have := (List.pairwise_cons.mp hattempts.sorted).1 0 List.mem_cons_self
      omega
  · intro hturn rounds
    cases first with
    | lookup found =>
      rw [relayAttempts]
      cases hselect : cacheGetRandomSatisfiedChannel R cross n found {} with
      | mk group s =>
        cases group with
        | none => exact ⟨[], rfl, (GroupOrder.nil R n 0 0).bounded⟩
        | some i =>
          obtain ⟨-, hlt, tries, htries, hs⟩ := cacheGet_eq_some hselect
          refine firstTry_bounded hlt ?_ hfuel
          rcases hs with ⟨hused, rfl⟩ | rfl
          · refine .inr ?_
            rcases htries with ⟨-, rfl⟩ | ⟨-, rfl⟩ <;> exact Nat.le_zero.mp hused
          · exact .inl rfl
    | affinity i =>
      rcases hturn with rfl | rfl
      · exact firstTry_bounded hvalid (.inl rfl) hfuel
      · exact firstTry_bounded hvalid (.inr rfl) hfuel

/-- Two groups with one retry each, in turn. -/
theorem lookup_retries_bounded : ∃ attempts,
    relayAttempts 1 true 2 (.lookup fun _ => true) (fun _ => failingRound) 5 = some attempts ∧
      Bounded 1 2 attempts :=
  (@retries_in_order_iff 1 2 true (.lookup fun _ => true) trivial 5 (by decide)).mpr trivial
    fun _ => failingRound

/-- The first channel is one of the second group that the client has used before. The loop goes back
to the first group, and tries the second one three times in all. -/
theorem affinity_retries_go_back :
    relayAttempts 1 true 2 (.affinity 1) (fun _ => failingRound) 5 = some [1, 0, 1, 1] ∧
      ¬Bounded 1 2 [1, 0, 1, 1] := by
  refine ⟨rfl, fun h => ?_⟩
  exact absurd (h.count_le 1) (by decide)

end Yunbay
