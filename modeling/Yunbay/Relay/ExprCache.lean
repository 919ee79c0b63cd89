import Yunbay.Data.Workers

/-!
# The cache of compiled expressions

`UsedVars` compiles an expression if the cache does not have it, and then reads its identifiers from
the cache in a section of its own. Between the two the cache may be emptied, by `InvalidateCache` or
by the insertion of another expression into a full cache, and the answer is then nil.
-/

namespace Yunbay

open Run

def maxCacheSize : Nat := 256

/-- What the cache takes from its surroundings. -/
structure ExprEnv where
  /-- `ExprHashString`. -/
  hash : String → String
  hash_injective : Function.Injective hash
  /-- The identifiers of an expression; none if it does not compile. -/
  compile : String → Option (List String)

/-- The identifiers of the cached expressions, by their hashes. -/
abbrev ExprCache := List (String × List String)

/-- The write of an entry, into an empty cache if it is full. -/
def ExprCache.insert (cache : ExprCache) (hash : String) (usedVars : List String) : ExprCache :=
  let cache := if maxCacheSize ≤ cache.length then [] else cache
  (hash, usedVars) :: cache.filter (·.1 ≠ hash)

/-- A call before its next section. -/
inductive ExprCall where
  /-- `UsedVars` at its first read. -/
  | usedVars (exprStr : String)
  /-- `compileFromCacheByHash` at its read, in `UsedVars` or on its own. -/
  | compile (exprStr : String) (inUsedVars : Bool)
  /-- `compileFromCacheByHash` at its write. -/
  | write (exprStr : String) (vars : List String) (inUsedVars : Bool)
  /-- `UsedVars` at its second read. -/
  | reread (exprStr : String)
  | invalidateCache
  /-- `UsedVars` has returned. -/
  | returned (exprStr : String) (usedVars : Option (List String))
  | done
  deriving DecidableEq

namespace ExprCall

/-- What follows `compileFromCacheByHash`. -/
def compiled (exprStr : String) (inUsedVars : Bool) : ExprCall :=
  if inUsedVars then .reread exprStr else .done

/-- The next section of a call that holds the lock, up to the section after it. -/
def act (env : ExprEnv) (cache : ExprCache) : ExprCall → ExprCache × ExprCall
  | .usedVars exprStr =>
    if exprStr = "" then (cache, .returned exprStr none)
    else
      match cache.lookup (env.hash exprStr) with
      | some vars => (cache, .returned exprStr (some vars))
      | none => (cache, .compile exprStr true)
  | .compile exprStr inUsedVars =>
    match cache.lookup (env.hash exprStr), env.compile exprStr with
    | some _, _ => (cache, compiled exprStr inUsedVars)
    | none, some vars => (cache, .write exprStr vars inUsedVars)
    | none, none => (cache, if inUsedVars then .returned exprStr none else .done)
  | .write exprStr vars inUsedVars =>
    (cache.insert (env.hash exprStr) vars, compiled exprStr inUsedVars)
  | .reread exprStr => (cache, .returned exprStr (cache.lookup (env.hash exprStr)))
  | .invalidateCache => ([], .done)
  | call => (cache, call)

/-- A call of `UsedVars` on an expression that compiles has not returned anything but its
identifiers. -/
def Right (env : ExprEnv) : ExprCall → Prop
  | .returned exprStr answer =>
    exprStr ≠ "" → (env.compile exprStr).isSome = true → answer = env.compile exprStr
  | _ => True

/-- A call writes the identifiers of its expression. -/
def Known (env : ExprEnv) : ExprCall → Prop
  | .write exprStr vars _ => env.compile exprStr = some vars
  | _ => True

/-- The second read of a call finds its entry. -/
def Finds (env : ExprEnv) (cache : ExprCache) : ExprCall → Prop
  | .reread exprStr =>
    exprStr ≠ "" → (env.compile exprStr).isSome = true →
      (cache.lookup (env.hash exprStr)).isSome = true
  | _ => True

end ExprCall

/-- A call on an arbitrary expression starts. -/
inductive ExprStart where
  | usedVars (exprStr : String)
  | compileFromCache (exprStr : String)
  | invalidateCache

def ExprStart.call : ExprStart → ExprCall
  | .usedVars exprStr => .usedVars exprStr
  | .compileFromCache exprStr => .compile exprStr false
  | .invalidateCache => .invalidateCache

/-- Any number of calls on the cache. -/
def exprSystem (env : ExprEnv) : Workers.System ExprCache ExprCall ExprStart Unit :=
  ⟨fun start _ => start.call, fun _ => ExprCall.act env⟩

abbrev ExprState := Workers.State ExprCache ExprCall

/-- The move is not a second read of `UsedVars` that misses its entry. -/
def ExprState.Finds (env : ExprEnv) (state : ExprState) : Workers.Move ExprStart Unit → Prop
  | .spawn _ => True
  | .act ref _ => ∀ call ∈ state.workers[ref]?, call.Finds env state.shared

/-! ## What the cache has -/

/-- The entries are right, and there are not too many. -/
structure ExprCache.Sound (env : ExprEnv) (cache : ExprCache) : Prop where
  entry : ∀ exprStr vars, cache.lookup (env.hash exprStr) = some vars →
    env.compile exprStr = some vars
  size : cache.length ≤ maxCacheSize

variable {env : ExprEnv} {cache : ExprCache} {call : ExprCall}

lemma ExprCache.lookup_filter_ne (cache : ExprCache) {hash other : String} (hne : other ≠ hash) :
    (cache.filter (·.1 ≠ hash)).lookup other = cache.lookup other := by
  induction cache with
  | nil => rfl
  | cons entry cache ih =>
    by_cases hentry : entry.1 = hash
    · rw [List.filter_cons_of_neg (by simpa using hentry), ih, List.lookup_cons,
        beq_false_of_ne (hentry ▸ hne)]
    · rw [List.filter_cons_of_pos (by simpa using hentry), List.lookup_cons, List.lookup_cons, ih]

lemma ExprCache.Sound.insert (h : cache.Sound env) {exprStr : String} {vars : List String}
    (hvars : env.compile exprStr = some vars) :
    (cache.insert (env.hash exprStr) vars).Sound env := by
  unfold ExprCache.insert
  dsimp only
  set kept := if maxCacheSize ≤ cache.length then [] else cache with hkept
  have hsmall : kept.length < maxCacheSize := by
    rw [hkept]
    split_ifs with hfull
    · decide
    · exact Nat.lt_of_not_le hfull
  constructor
  · intro other vars' hget
    by_cases hsame : other = exprStr
    · subst hsame
      rw [List.lookup_cons_self] at hget
      rw [hvars, hget]
    · have hhash : env.hash other ≠ env.hash exprStr := env.hash_injective.ne hsame
      rw [List.lookup_cons, beq_false_of_ne hhash] at hget
      replace hget := (ExprCache.lookup_filter_ne kept hhash).symm.trans hget
      rw [hkept] at hget
      split_ifs at hget
      · cases hget
      · exact h.entry other vars' hget
  · exact Nat.succ_le_of_lt (lt_of_le_of_lt (List.length_filter_le _ _) hsmall)

lemma ExprCall.act_sound (hcache : cache.Sound env) (hcall : call.Known env) :
    (act env cache call).1.Sound env ∧ (act env cache call).2.Known env := by
  cases call with
  | usedVars exprStr =>
    dsimp only [act]
    split_ifs
    · exact ⟨hcache, trivial⟩
    · split <;> exact ⟨hcache, trivial⟩
  | compile exprStr inUsedVars =>
    dsimp only [act]
    split
    · cases inUsedVars <;> exact ⟨hcache, trivial⟩
    · next vars _ hvars => exact ⟨hcache, hvars⟩
    · cases inUsedVars <;> exact ⟨hcache, trivial⟩
  | write exprStr vars inUsedVars =>
    refine ⟨hcache.insert hcall, ?_⟩
    cases inUsedVars <;> trivial
  | invalidateCache => exact ⟨⟨nofun, Nat.zero_le _⟩, trivial⟩
  | _ => exact ⟨hcache, trivial⟩

/-- A section ends with a right answer exactly if it is not a second read that misses. -/
lemma ExprCall.act_right_iff (hcache : cache.Sound env) (hright : call.Right env) :
    (act env cache call).2.Right env ↔ call.Finds env cache := by
  cases call with
  | usedVars exprStr =>
    refine iff_of_true ?_ trivial
    dsimp only [act]
    split_ifs with hempty
    · exact fun hne => absurd hempty hne
    · split
      · next vars hget => exact fun _ _ => (hcache.entry _ _ hget).symm
      · trivial
  | compile exprStr inUsedVars =>
    refine iff_of_true ?_ trivial
    dsimp only [act]
    split
    · cases inUsedVars <;> trivial
    · trivial
    · next _ hnone =>
      cases inUsedVars
      · trivial
      · exact fun _ _ => hnone.symm
  | write exprStr vars inUsedVars =>
    refine iff_of_true ?_ trivial
    cases inUsedVars <;> trivial
  | reread exprStr =>
    refine forall_congr' fun _ => forall_congr' fun hsome => ?_
    cases hget : cache.lookup (env.hash exprStr) with
    | none => simpa using fun hnone => by simp [← hnone] at hsome
    | some vars => simp [hcache.entry _ _ hget]
  | invalidateCache | done => exact iff_of_true trivial trivial
  | returned exprStr answer => exact iff_of_true hright trivial

lemma expr_rule (env : ExprEnv) :
    Workers.RelyGuarantee (exprSystem env) (ExprCache.Sound env) (fun _ => ExprCall.Known env)
      (fun _ _ => True) where
  refl _ := trivial
  stable _ _ _ _ h := h
  spawn input _ _ := by cases input <;> trivial
  inv _ _ _ hinv hown := (ExprCall.act_sound hinv hown).1
  own _ _ _ hinv hown := (ExprCall.act_sound hinv hown).2
  guar _ _ _ _ _ := trivial

/-! ## Runs -/

lemma ExprState.step_right_iff {state : ExprState} (hcache : state.shared.Sound env)
    (hright : ∀ call ∈ state.workers, call.Right env) (move : Workers.Move ExprStart Unit) :
    (∀ call ∈ ((exprSystem env).step state move).workers, call.Right env) ↔
      state.Finds env move := by
  cases move with
  | spawn start =>
    refine iff_of_true (List.forall_mem_append.mpr ⟨hright, ?_⟩) trivial
    rw [List.forall_mem_singleton]
    cases start <;> trivial
  | act ref input =>
    unfold ExprState.Finds
    cases hget : state.workers[ref]? with
    | none =>
      rw [Workers.System.step_act_of_none _ hget]
      exact iff_of_true hright fun call hcall => by simp [hget] at hcall
    | some call =>
      have hact := ExprCall.act_right_iff hcache (hright call (List.mem_of_getElem? hget))
      rw [Workers.System.step_act _ hget]
      simp only [hget, Option.mem_def, Option.some.injEq, forall_eq', ← hact]
      constructor
      · intro h
        exact h _ (List.mem_set (List.getElem?_eq_some_iff.mp hget).1 _)
      · intro h other hother
        rcases List.mem_or_eq_of_mem_set hother with hold | rfl
        · exact hright other hold
        · exact h

/-- The cache stays within its size, and every call of `UsedVars` on an expression that compiles
returns its identifiers, exactly if no second read comes after the entry has been flushed. -/
theorem used_vars_iff (env : ExprEnv) (moves : List (Workers.Move ExprStart Unit)) :
    (∀ front, front <+: moves →
      (exec (exprSystem env).step ⟨[], []⟩ front).shared.length ≤ maxCacheSize) ∧
    ((∀ front, front <+: moves →
      ∀ call ∈ (exec (exprSystem env).step ⟨[], []⟩ front).workers, call.Right env) ↔
      Along (exprSystem env).step (ExprState.Finds env) ⟨[], []⟩ moves) := by
  have hstart : Workers.Holds (ExprCache.Sound env) (fun _ => ExprCall.Known env) ⟨[], []⟩ :=
    Workers.holds_nil ⟨nofun, Nat.zero_le _⟩
  refine ⟨fun front _ => ((expr_rule env).exec hstart front).inv.size, ?_⟩
  apply forall_prefix_iff_along
    (fun state => Workers.Holds (ExprCache.Sound env) (fun _ => ExprCall.Known env) state ∧
      ∀ call ∈ state.workers, call.Right env)
    (fun state => ∀ call ∈ state.workers, call.Right env)
  · exact fun state h => h.2
  · intro state move h hfinds
    exact ⟨((expr_rule env).step h.1 move).1,
      (ExprState.step_right_iff h.1.inv h.2 move).mpr hfinds⟩
  · exact fun state move h hgood => (ExprState.step_right_iff h.1.inv h.2 move).mp hgood
  · exact ⟨hstart, nofun⟩

/-- The cache is emptied between the insertion by `UsedVars` and its second read. -/
theorem flushed_before_read :
    (exec (exprSystem ⟨id, fun _ _ h => h, fun _ => some ["p"]⟩).step ⟨[], []⟩
      [.spawn (.usedVars "p"), .act 0 (), .act 0 (), .act 0 (), .spawn .invalidateCache,
        .act 1 (), .act 0 ()]).workers = [.returned "p" none, .done] := by
  decide

end Yunbay
