import Yunbay.Relay.Ability
import Yunbay.Subscription.Schema

/-!
# Choosing a channel from the cache

The cache has the ids of the channels for each group and model, made from the abilities and from
what the channels declare themselves. `GetRandomSatisfiedChannel` takes the channels of the priority
of the retry, and picks one of them by weight, smoothed if the weights are small.

`cached_choice_weighted`: the weights are exact if and only if their sum is an `int`. Otherwise it
wraps, and `rand.Intn` may panic. No list has an id twice, which is a field of `ChannelCache`, since
disabling a channel deletes one copy of its id only.
-/

namespace Yunbay

open Run Table

open WeightedPick

/-- A row of `channels`. -/
structure Channel where
  id : Int
  /-- `Status == ChannelStatusEnabled` -/
  enabled : Bool
  /-- The parts of the column `group` between commas. -/
  groups : List String
  /-- The parts of the column `models` between commas. -/
  models : List String
  priority : Int
  weight : Nat
  deriving DecidableEq

/-- The table `channels`. -/
abbrev ChannelTable := Table Int Channel Channel.id

/-- The channels in memory. -/
structure ChannelCache where
  group2model2channels : String → String → List Int
  channelsIDM : Int → Option Channel
  nodup : ∀ group model, (group2model2channels group model).Nodup
  id_eq : ∀ id channel, channelsIDM id = some channel → channel.id = id

/-! ### Building the cache -/

/-- The channel declares the model for the group. -/
def Channel.Declares (channel : Channel) (group model : String) : Prop :=
  group ≠ "" ∧ model ≠ "" ∧ group ∈ channel.groups.map trimSpace ∧
    model ∈ channel.models.map trimSpace

instance (channel : Channel) (group model : String) : Decidable (channel.Declares group model) :=
  inferInstanceAs (Decidable (_ ∧ _))

/-- The enabled abilities of a group and a model, without those of missing or disabled channels. -/
def abilityIds (channels : ChannelTable) (abilities : AbilityTable) (group model : String) :
    List Int :=
  ((abilities.enabled group model).filter fun ability =>
    group ≠ "" ∧ model ≠ "" ∧ (channels.get? ability.channelId).any (·.enabled)).map (·.channelId)

/-- A channel that has not been repaired into the abilities yet. -/
def addDeclared (group model : String) (ids : List Int) (channel : Channel) : List Int :=
  if channel.enabled ∧ channel.Declares group model ∧ channel.id ∉ ids then ids ++ [channel.id]
  else ids

def cachedPriority (channels : ChannelTable) (id : Int) : Int :=
  ((channels.get? id).map (·.priority)).getD 0

def cachedIds (channels : ChannelTable) (abilities : AbilityTable) (group model : String) :
    List Int :=
  (channels.rows.foldl (addDeclared group model)
    (abilityIds channels abilities group model)).insertionSort
      fun a b => cachedPriority channels a ≥ cachedPriority channels b

lemma nodup_abilityIds (channels : ChannelTable) (abilities : AbilityTable)
    (group model : String) : (abilityIds channels abilities group model).Nodup := by
  refine List.Nodup.map_on ?_ ((abilities.nodup.of_map.filter _).filter _)
  intro a ha b hb hid
  obtain ⟨ha, hagroup, hamodel, -⟩ := mem_enabled.mp (List.mem_of_mem_filter ha)
  obtain ⟨hb, hbgroup, hbmodel, -⟩ := mem_enabled.mp (List.mem_of_mem_filter hb)
  refine List.inj_on_of_nodup_map abilities.nodup ha hb ?_
  rw [Ability.key, Ability.key, hagroup, hamodel, hbgroup, hbmodel, hid]

variable {ids : List Int}

lemma nodup_addDeclared {group model : String} (h : ids.Nodup) (channel : Channel) :
    (addDeclared group model ids channel).Nodup := by
  unfold addDeclared
  split_ifs with hadd
  · exact List.nodup_append.mpr ⟨h, List.nodup_singleton _, by
      rintro id hid _ hmem rfl
      exact hadd.2.2 (List.mem_singleton.mp hmem ▸ hid)⟩
  · exact h

def initChannelCache (channels : ChannelTable) (abilities : AbilityTable) : ChannelCache where
  group2model2channels := cachedIds channels abilities
  channelsIDM := channels.get?
  nodup group model := by
    refine (List.perm_insertionSort _ _).nodup_iff.mpr ?_
    exact List.foldlRecOn channels.rows _ (nodup_abilityIds channels abilities group model)
      fun _ h channel _ => nodup_addDeclared h channel
  id_eq _ _ h := key_of_get? h

/-! ### Choosing -/

/-- Why no channel is chosen. -/
inductive ChannelError where
  /-- `数据库一致性错误，渠道# %d 不存在，请联系管理员修复` -/
  | unknown (id : Int)
  /-- `no channel found, group: %s, model: %s, priority: %d` -/
  | noChannel
  /-- `channel not found` -/
  | notFound
  /-- `rand.Intn` panics: its argument is not positive. -/
  | invalidArgument
  deriving DecidableEq

/-- The channels of a list of ids, as long as all of them are known. -/
def lookupChannels (channelsIDM : Int → Option Channel) : List Int →
    Except ChannelError (List Channel)
  | [] => .ok []
  | id :: rest =>
    match channelsIDM id with
    | none => .error (.unknown id)
    | some channel => (lookupChannels channelsIDM rest).map (channel :: ·)

/-- The sum of the weights, which are added up in an `int`. -/
def sumWeight (targetChannels : List Channel) : Int :=
  wrapInt ((targetChannels.map (·.weight)).sum : Nat)

/-- The smoothing factor and the smoothing adjustment. -/
def smoothing (targetChannels : List Channel) : Nat × Nat :=
  if sumWeight targetChannels = 0 then (1, 100)
  else if (sumWeight targetChannels).tdiv targetChannels.length < 10 then (100, 0)
  else (1, 0)

/-- What the walk takes off for a channel. -/
def effectiveWeight (targetChannels : List Channel) (channel : Channel) : Nat :=
  channel.weight * (smoothing targetChannels).1 + (smoothing targetChannels).2

/-- The random number is below this, which is an `int` as well. -/
def totalWeight (targetChannels : List Channel) : Int :=
  wrapInt ((if sumWeight targetChannels = 0 then (targetChannels.length : Int) * 100
    else sumWeight targetChannels) * (smoothing targetChannels).1)

/-- The random number of the walk is an `int`. Since wrapping goes with subtraction, the model keeps
the exact number and wraps it where the code looks at it. -/
def belowInt (number : Int) : Bool := below (wrapInt number)

/-- The channels of the priority of the retry. -/
def targetChannels (channels : List Channel) (retry : Nat) : List Channel :=
  channels.filter fun channel =>
    priorityAt (channels.map (·.priority)) retry = some channel.priority

namespace ChannelCache

/-- The ids for the exact name of the model, or else for its normalized name. -/
def candidates (cache : ChannelCache) (formatMatchingModelName : String → String)
    (group model : String) : List Int :=
  if cache.group2model2channels group model = [] then
    cache.group2model2channels group (formatMatchingModelName model)
  else cache.group2model2channels group model

def getRandomSatisfiedChannel (cache : ChannelCache) (formatMatchingModelName : String → String)
    (group model : String) (retry : Nat) (draw : Int) : Except ChannelError (Option Channel) :=
  match cache.candidates formatMatchingModelName group model with
  | [] => .ok none
  | [id] =>
    match cache.channelsIDM id with
    | some channel => .ok (some channel)
    | none => .error (.unknown id)
  | ids =>
    match lookupChannels cache.channelsIDM ids with
    | .error e => .error e
    | .ok channels =>
      if targetChannels channels retry = [] then .error .noChannel
      else if totalWeight (targetChannels channels retry) ≤ 0 then .error .invalidArgument
      else
        match walk belowInt (effectiveWeight (targetChannels channels retry))
          (targetChannels channels retry) draw with
        | some channel => .ok (some channel)
        | none => .error .notFound

def cacheUpdateChannelStatus (cache : ChannelCache) (id : Int) (enabled : Bool) :
    ChannelCache where
  group2model2channels group model :=
    if enabled then cache.group2model2channels group model
    else (cache.group2model2channels group model).erase id
  channelsIDM other :=
    if other = id then (cache.channelsIDM id).map ({ · with enabled := enabled })
    else cache.channelsIDM other
  nodup group model := by
    split_ifs
    · exact cache.nodup group model
    · exact (cache.nodup group model).erase id
  id_eq other channel h := by
    split_ifs at h with hother
    · obtain ⟨old, hold, rfl⟩ := Option.map_eq_some_iff.mp h
      exact (cache.id_eq id old hold).trans hother.symm
    · exact cache.id_eq other channel h

def cacheUpdateChannel (cache : ChannelCache) (channel : Channel) : ChannelCache where
  group2model2channels := cache.group2model2channels
  channelsIDM id := if id = channel.id then some channel else cache.channelsIDM id
  nodup := cache.nodup
  id_eq id other h := by
    split_ifs at h with hid
    · exact Option.some.inj h ▸ hid.symm
    · exact cache.id_eq id other h

/-- All listed ids are known. -/
def Consistent (cache : ChannelCache) : Prop :=
  ∀ group model, ∀ id ∈ cache.group2model2channels group model, (cache.channelsIDM id).isSome

/-- The candidates of a request that are known. -/
def known (cache : ChannelCache) (formatMatchingModelName : String → String)
    (group model : String) : List Channel :=
  (cache.candidates formatMatchingModelName group model).filterMap cache.channelsIDM

/-- The channels that are considered for a request. -/
def targets (cache : ChannelCache) (formatMatchingModelName : String → String)
    (group model : String) (retry : Nat) : List Channel :=
  targetChannels (cache.known formatMatchingModelName group model) retry

/-- What can happen to a cache before it is built again. -/
inductive Call where
  | updateStatus (id : Int) (enabled : Bool)
  | updateChannel (channel : Channel)

def step (cache : ChannelCache) : Call → ChannelCache
  | .updateStatus id enabled => cache.cacheUpdateChannelStatus id enabled
  | .updateChannel channel => cache.cacheUpdateChannel channel

end ChannelCache

/-! ### The lists -/

section Lists

variable {channels : ChannelTable} {abilities : AbilityTable} {group model : String} {id : Int}

lemma mem_foldl_addDeclared {rows : List Channel} :
    id ∈ rows.foldl (addDeclared group model) ids ↔
      id ∈ ids ∨ ∃ channel ∈ rows, channel.enabled = true ∧ channel.Declares group model ∧
        channel.id = id := by
  induction rows generalizing ids with
  | nil => simp
  | cons channel rest ih =>
    have hadd : id ∈ addDeclared group model ids channel ↔
        id ∈ ids ∨ channel.enabled = true ∧ channel.Declares group model ∧ channel.id = id := by
      unfold addDeclared
      split_ifs with h
      · rw [List.mem_append, List.mem_singleton]
        refine or_congr_right ⟨fun heq => ⟨h.1, h.2.1, heq.symm⟩, fun heq => heq.2.2.symm⟩
      · refine ⟨.inl, fun hid => hid.elim (fun h => h) ?_⟩
        rintro ⟨henabled, hdeclares, rfl⟩
        exact not_not.mp fun hnot => h ⟨henabled, hdeclares, hnot⟩
    rw [List.foldl_cons, ih, hadd, or_assoc]
    simp

lemma mem_abilityIds : id ∈ abilityIds channels abilities group model ↔
    group ≠ "" ∧ model ≠ "" ∧ (∃ ability ∈ abilities.enabled group model, ability.channelId = id) ∧
      ∃ channel, channels.get? id = some channel ∧ channel.enabled = true := by
  simp only [abilityIds, List.mem_map, List.mem_filter, decide_eq_true_eq, Option.any_eq_true]
  constructor
  · rintro ⟨ability, ⟨hability, hgroup, hmodel, hchannel⟩, rfl⟩
    exact ⟨hgroup, hmodel, ⟨ability, hability, rfl⟩, hchannel⟩
  · rintro ⟨hgroup, hmodel, ⟨ability, hability, rfl⟩, hchannel⟩
    exact ⟨ability, ⟨hability, hgroup, hmodel, hchannel⟩, rfl⟩

lemma mem_cachedIds : id ∈ cachedIds channels abilities group model ↔
    ∃ channel, channels.get? id = some channel ∧ channel.enabled = true ∧
      (channel.Declares group model ∨ group ≠ "" ∧ model ≠ "" ∧
        ∃ ability ∈ abilities.enabled group model, ability.channelId = id) := by
  rw [cachedIds, List.mem_insertionSort, mem_foldl_addDeclared, mem_abilityIds]
  constructor
  · rintro (⟨hgroup, hmodel, hability, channel, hget, henabled⟩ |
      ⟨channel, hmem, henabled, hdeclares, rfl⟩)
    · exact ⟨channel, hget, henabled, .inr ⟨hgroup, hmodel, hability⟩⟩
    · exact ⟨channel, get?_of_mem hmem, henabled, .inl hdeclares⟩
  · rintro ⟨channel, hget, henabled, hdeclares | ⟨hgroup, hmodel, hability⟩⟩
    · exact .inr ⟨channel, mem_of_get? hget, henabled, hdeclares, key_of_get? hget⟩
    · exact .inl ⟨hgroup, hmodel, hability, channel, hget, henabled⟩

lemma initChannelCache_consistent (channels : ChannelTable) (abilities : AbilityTable) :
    (initChannelCache channels abilities).Consistent := by
  intro group model id hid
  obtain ⟨channel, hget, -⟩ := mem_cachedIds.mp hid
  exact Option.isSome_iff_exists.mpr ⟨channel, hget⟩

end Lists

/-! ### The weights -/

lemma sum_effectiveWeight (factor adjustment : Nat) (channels : List Channel) :
    (channels.map fun channel => channel.weight * factor + adjustment).sum =
      (channels.map (·.weight)).sum * factor + channels.length * adjustment := by
  induction channels with
  | nil => simp
  | cons channel rest ih =>
    simp only [List.map_cons, List.sum_cons, List.length_cons, ih]
    ring

lemma smoothing_factor_pos (channels : List Channel) : 0 < (smoothing channels).1 := by
  unfold smoothing
  split_ifs <;> decide

section Fits

variable {channels : List Channel}
  (hfits : total (effectiveWeight channels) channels ≤ maxInt64)

include hfits

/-- If the weights of the walk fit in an `int`, nothing wraps. -/
lemma sumWeight_eq : sumWeight channels = (channels.map (·.weight)).sum := by
  have hsum : total (effectiveWeight channels) channels = _ :=
    sum_effectiveWeight (smoothing channels).1 (smoothing channels).2 channels
  have hle := Nat.le_mul_of_pos_right (channels.map (·.weight)).sum (smoothing_factor_pos channels)
  exact wrapInt_eq (by unfold maxInt64; omega) (by omega)

lemma totalWeight_eq : totalWeight channels = total (effectiveWeight channels) channels := by
  have hsum : total (effectiveWeight channels) channels = _ :=
    sum_effectiveWeight (smoothing channels).1 (smoothing channels).2 channels
  have htotal : (if sumWeight channels = 0 then (channels.length : Int) * 100
      else sumWeight channels) * (smoothing channels).1 =
      total (effectiveWeight channels) channels := by
    rw [hsum]
    unfold smoothing
    rw [sumWeight_eq hfits]
    split_ifs with hzero
    · simp [Int.natCast_eq_zero.mp hzero]
    · simp
    · simp
  rw [totalWeight, htotal]
  exact wrapInt_eq (by unfold maxInt64; omega) (by omega)

lemma walk_belowInt {draw : Nat} (hdraw : draw < total (effectiveWeight channels) channels) :
    walk belowInt (effectiveWeight channels) channels draw =
      walk below (effectiveWeight channels) channels draw := by
  refine walk_congr ?_ le_rfl hdraw.le
  intro n hlow hhigh
  rw [belowInt, wrapInt_eq] <;> unfold maxInt64 at * <;> omega

end Fits

variable {priorities : List Int} {retry : Nat}

lemma exists_priorityAt (hne : priorities ≠ []) (retry : Nat) :
    ∃ p, priorityAt priorities retry = some p := by
  have hlength : 0 < (sortedUniquePriorities priorities).length := by
    obtain ⟨p, hp⟩ := List.exists_mem_of_ne_nil priorities hne
    refine List.length_pos_of_mem (a := p) ?_
    rwa [sortedUniquePriorities, List.mem_insertionSort, List.mem_dedup]
  exact ⟨_, List.getElem?_eq_getElem (by omega)⟩

variable {channels : List Channel}

lemma targetChannels_ne_nil (hne : channels ≠ []) (retry : Nat) :
    targetChannels channels retry ≠ [] := by
  obtain ⟨p, hp⟩ := exists_priorityAt (fun h => hne (List.map_eq_nil_iff.mp h)) retry
  obtain ⟨channel, hchannel, rfl⟩ := List.mem_map.mp (priorityAt_eq_some_iff.mp hp).1
  exact List.ne_nil_of_mem (List.mem_filter.mpr ⟨hchannel, decide_eq_true hp⟩)

variable {channelsIDM : Int → Option Channel}

lemma lookupChannels_eq_ok (h : ∀ id ∈ ids, (channelsIDM id).isSome) :
    lookupChannels channelsIDM ids = .ok (ids.filterMap channelsIDM) := by
  induction ids with
  | nil => rfl
  | cons id rest ih =>
    obtain ⟨hid, hrest⟩ := List.forall_mem_cons.mp h
    obtain ⟨channel, hchannel⟩ := Option.isSome_iff_exists.mp hid
    rw [lookupChannels, hchannel, ih hrest, List.filterMap_cons_some hchannel]
    rfl

variable {channel : Channel}

lemma mem_of_lookupChannels (h : lookupChannels channelsIDM ids = .ok channels)
    (hmem : channel ∈ channels) : ∃ id ∈ ids, channelsIDM id = some channel := by
  induction ids generalizing channels with
  | nil =>
    cases h
    cases hmem
  | cons id rest ih =>
    rw [lookupChannels] at h
    cases hid : channelsIDM id with
    | none => simp [hid] at h
    | some first =>
      cases hrest : lookupChannels channelsIDM rest with
      | error e => simp [hid, hrest, Except.map] at h
      | ok found =>
        simp only [hid, hrest, Except.map, Except.ok.injEq] at h
        rcases List.mem_cons.mp (h ▸ hmem) with rfl | hfound
        · exact ⟨id, List.mem_cons_self, hid⟩
        · obtain ⟨other, hother, hget⟩ := ih hrest hfound
          exact ⟨other, List.mem_cons_of_mem id hother, hget⟩

namespace ChannelCache

variable {cache : ChannelCache} {format : String → String} {group model : String}

variable {id draw : Int}

lemma mem_candidates (h : id ∈ cache.candidates format group model) :
    ∃ name, id ∈ cache.group2model2channels group name := by
  unfold candidates at h
  split_ifs at h
  · exact ⟨_, h⟩
  · exact ⟨_, h⟩

lemma isSome_of_mem_candidates (hcons : cache.Consistent) :
    ∀ id ∈ cache.candidates format group model, (cache.channelsIDM id).isSome := by
  intro id hid
  obtain ⟨name, hname⟩ := mem_candidates hid
  exact hcons group name id hname

lemma nodup_known (cache : ChannelCache) (format : String → String) (group model : String) :
    (cache.known format group model).Nodup := by
  refine List.Nodup.filterMap ?_ ?_
  · intro a b channel ha hb
    rw [← cache.id_eq a channel ha, cache.id_eq b channel hb]
  · unfold candidates
    split_ifs
    · exact cache.nodup _ _
    · exact cache.nodup _ _

/-- The channel of the walk is chosen. -/
lemma getRandomChannel_of_lt (hcons : cache.Consistent) {targets : List Channel}
    (htargets : cache.targets format group model retry = targets)
    (hfits : total (effectiveWeight targets) targets ≤ maxInt64) {draw : Nat}
    (hdraw : draw < total (effectiveWeight targets) targets) :
    ∃ channel ∈ targets, walk below (effectiveWeight targets) targets draw = some channel ∧
      cache.getRandomSatisfiedChannel format group model retry draw = .ok (some channel) := by
  obtain ⟨channel, hmem, hwalk⟩ := walk_below_of_lt_total hdraw
  refine ⟨channel, hmem, hwalk, ?_⟩
  rw [← walk_belowInt hfits hdraw] at hwalk
  have hpos : 0 < totalWeight targets := by
    rw [totalWeight_eq hfits]
    omega
  have hsome : ∀ id ∈ cache.candidates format group model, (cache.channelsIDM id).isSome :=
    isSome_of_mem_candidates hcons
  have hlookup := lookupChannels_eq_ok hsome
  subst htargets
  unfold targets known at hmem hwalk hpos
  unfold getRandomSatisfiedChannel
  match hids : cache.candidates format group model with
  | [] =>
    rw [hids] at hmem
    cases hmem
  | [id] =>
    -- the only channel is chosen whatever its priority is
    obtain ⟨only, honly⟩ := Option.isSome_iff_exists.mp (hsome id (hids ▸ List.mem_cons_self))
    rw [hids, List.filterMap_cons_some honly, List.filterMap_nil] at hmem
    rw [List.mem_singleton.mp (List.mem_of_mem_filter hmem)]
    simp only [honly]
  | id :: next :: rest =>
    rw [hids] at hlookup hwalk hmem hpos
    simp only [hlookup, if_neg (List.ne_nil_of_mem hmem), if_neg (not_le.mpr hpos), hwalk]

lemma mem_known_of_get
    (h : cache.getRandomSatisfiedChannel format group model retry draw = .ok (some channel)) :
    ∃ id ∈ cache.candidates format group model, cache.channelsIDM id = some channel := by
  unfold getRandomSatisfiedChannel at h
  match hids : cache.candidates format group model with
  | [] =>
    rw [hids] at h
    cases h
  | [id] =>
    rw [hids] at h
    cases hid : cache.channelsIDM id with
    | none => simp [hid] at h
    | some only =>
      simp only [hid, Except.ok.injEq, Option.some.injEq] at h
      exact ⟨id, List.mem_cons_self, h ▸ hid⟩
  | id :: next :: rest =>
    rw [hids] at h
    simp only at h
    split at h
    · cases h
    · rename_i channels hlookup
      split_ifs at h
      split at h
      · rename_i picked hwalk
        obtain rfl := Option.some.inj (Except.ok.inj h)
        have hmem := List.mem_of_mem_filter (mem_of_walk hwalk)
        exact mem_of_lookupChannels hlookup hmem
      · cases h

/-! ### Disabled channels -/

/-- The id is in no list. -/
def Unlisted (cache : ChannelCache) (id : Int) : Prop :=
  ∀ group model, id ∉ cache.group2model2channels group model

lemma unlisted_of_disable (cache : ChannelCache) (id : Int) :
    (cache.cacheUpdateChannelStatus id false).Unlisted id :=
  fun group model => (cache.nodup group model).not_mem_erase

lemma Unlisted.step (h : cache.Unlisted id) (call : Call) : (cache.step call).Unlisted id := by
  intro group model hmem
  cases call with
  | updateStatus other enabled =>
    cases enabled with
    | false => exact h group model (List.mem_of_mem_erase hmem)
    | true => exact h group model hmem
  | updateChannel channel => exact h group model hmem

lemma Unlisted.not_chosen (h : cache.Unlisted id)
    (hget : cache.getRandomSatisfiedChannel format group model retry draw = .ok (some channel)) :
    channel.id ≠ id := by
  obtain ⟨other, hother, hchannel⟩ := mem_known_of_get hget
  obtain ⟨name, hname⟩ := mem_candidates hother
  rintro rfl
  exact h group name (cache.id_eq other channel hchannel ▸ hname)

end ChannelCache

lemma exists_effectiveWeight_pos (hne : channels ≠ []) :
    ∃ channel ∈ channels, 0 < effectiveWeight channels channel := by
  by_contra! hnone
  obtain ⟨channel, hchannel⟩ := List.exists_mem_of_ne_nil _ hne
  have hweight : ∀ channel ∈ channels, channel.weight = 0 := fun channel hchannel => by
    have hzero := Nat.le_zero.mp (hnone channel hchannel)
    exact (Nat.mul_eq_zero.mp (Nat.add_eq_zero_iff.mp hzero).1).resolve_right
      (smoothing_factor_pos channels).ne'
  have hsum : (channels.map (·.weight)).sum = 0 := List.sum_eq_zero (by simpa using hweight)
  -- without any weight the adjustment is 100
  have hle := hnone channel hchannel
  simp [effectiveWeight, smoothing, sumWeight, hsum, wrapInt] at hle

namespace ChannelCache

/-- Every number that can be drawn picks one of the considered channels, and each of them is picked
by as many numbers as it weighs after smoothing. -/
def WeightedChoice (cache : ChannelCache) (format : String → String) (group model : String)
    (retry : Nat) : Prop :=
  let targets := cache.targets format group model retry
  0 < totalWeight targets ∧
  (∀ draw : Nat, draw < totalWeight targets → ∃ channel ∈ targets,
    cache.getRandomSatisfiedChannel format group model retry draw = .ok (some channel)) ∧
  ∀ channel ∈ targets, ((List.range (totalWeight targets).toNat).countP fun draw : Nat =>
      cache.getRandomSatisfiedChannel format group model retry draw = .ok (some channel)) =
    channel.weight * (smoothing targets).1 + (smoothing targets).2

variable {cache : ChannelCache} {format : String → String} {group model : String}

/-- The choice is exactly weighted if and only if the weights fit in an `int`. -/
lemma weightedChoice_iff (hcons : cache.Consistent)
    (hne : cache.candidates format group model ≠ []) {targets : List Channel}
    (htargets : cache.targets format group model retry = targets) :
    cache.WeightedChoice format group model retry ↔
      total (effectiveWeight targets) targets ≤ maxInt64 := by
  have hnodup : targets.Nodup := htargets ▸ (nodup_known cache format group model).filter _
  simp only [WeightedChoice, htargets]
  constructor
  · rintro ⟨hpos, -, hexact⟩
    -- no number picks two channels
    have hcount := sum_countP_le hnodup (fun draw : Nat =>
      (cache.getRandomSatisfiedChannel format group model retry draw).toOption.join)
      (List.range (totalWeight targets).toNat)
    rw [List.length_range, List.map_congr_left fun channel hchannel =>
      (List.countP_congr fun draw _ => ?_).trans (hexact channel hchannel)] at hcount
    · have hle : totalWeight targets ≤ maxInt64 := wrapInt_le _
      change total (effectiveWeight targets) targets ≤ _ at hcount
      omega
    · rw [decide_eq_true_eq, decide_eq_true_eq]
      cases cache.getRandomSatisfiedChannel format group model retry draw <;>
        simp [Except.toOption]
  · intro hfits
    have htotal := totalWeight_eq hfits
    have hknown : cache.known format group model ≠ [] := by
      obtain ⟨id, hid⟩ := List.exists_mem_of_ne_nil _ hne
      obtain ⟨channel, hchannel⟩ :=
        Option.isSome_iff_exists.mp (isSome_of_mem_candidates hcons id hid)
      exact List.ne_nil_of_mem (List.mem_filterMap.mpr ⟨id, hid, hchannel⟩)
    have hpos : 0 < total (effectiveWeight targets) targets := by
      obtain ⟨channel, hchannel, hweighs⟩ :=
        exists_effectiveWeight_pos (targetChannels_ne_nil hknown retry)
      rw [← htargets]
      exact hweighs.trans_le
        (List.single_le_sum (fun _ _ => Nat.zero_le _) _ (List.mem_map_of_mem hchannel))
    rw [htotal]
    refine ⟨Int.natCast_pos.mpr hpos, fun draw hdraw => ?_, fun channel hchannel => ?_⟩
    · obtain ⟨channel, hmem, -, hget⟩ :=
        getRandomChannel_of_lt hcons htargets hfits (Int.ofNat_lt.mp hdraw)
      exact ⟨channel, hmem, hget⟩
    · rw [Int.toNat_natCast]
      refine Eq.trans (List.countP_congr fun draw hdraw => ?_) (draws_below hnodup hchannel)
      obtain ⟨picked, -, hwalk, hget⟩ :=
        getRandomChannel_of_lt hcons htargets hfits (List.mem_range.mp hdraw)
      simp only [hwalk, hget, Except.ok.injEq]

end ChannelCache

open ChannelCache in
/-- The considered channels are those whose priority has as many greater ones as the retry asks for.
With more than one candidate the choice is exactly weighted if and only if the weights fit in an
`int`, a single candidate is always chosen, and a disabled channel is not chosen again. -/
theorem cached_choice_weighted {cache : ChannelCache} (hcons : cache.Consistent)
    (format : String → String) (group model : String) (retry : Nat) :
    let known := cache.known format group model
    let targets := cache.targets format group model retry
    let priorities := (known.map (·.priority)).dedup
    (∀ channel, channel ∈ targets ↔ channel ∈ known ∧
      priorities.countP (channel.priority < ·) = min retry (priorities.length - 1)) ∧
    (1 < (cache.candidates format group model).length →
      (cache.WeightedChoice format group model retry ↔
        total (effectiveWeight targets) targets ≤ maxInt64)) ∧
    (∀ id, cache.candidates format group model = [id] → ∃ channel, cache.channelsIDM id =
      some channel ∧ ∀ draw, cache.getRandomSatisfiedChannel format group model retry draw =
        .ok (some channel)) ∧
    ∀ id calls draw channel, (exec step (cache.cacheUpdateChannelStatus id false)
        calls).getRandomSatisfiedChannel format group model retry draw = .ok (some channel) →
      channel.id ≠ id := by
  refine ⟨fun channel => ?_, fun hmany => ?_, fun id hids => ?_, ?_⟩
  · rw [ChannelCache.targets, targetChannels, List.mem_filter, decide_eq_true_eq,
      priorityAt_eq_some_iff]
    exact and_congr_right fun hknown => and_iff_right (List.mem_map_of_mem hknown)
  · exact weightedChoice_iff hcons (fun hnil => by simp [hnil] at hmany) rfl
  · obtain ⟨channel, hchannel⟩ := Option.isSome_iff_exists.mp
      (isSome_of_mem_candidates hcons id (hids ▸ List.mem_cons_self))
    refine ⟨channel, hchannel, fun draw => ?_⟩
    simp only [getRandomSatisfiedChannel, hids, hchannel]
  · intro id calls draw channel hget
    have hunlisted : (exec step (cache.cacheUpdateChannelStatus id false) calls).Unlisted id :=
      exec_invariant (Unlisted · id) (fun _ call h => h.step call)
        (unlisted_of_disable cache id) calls
    exact hunlisted.not_chosen hget

/-- Two channels of priority 10 and one of priority 0. -/
def twoPriorities : ChannelTable where
  rows := [⟨1, true, ["vip"], ["m"], 10, 3⟩, ⟨2, true, ["vip"], ["m"], 10, 7⟩,
    ⟨3, true, ["vip"], ["m"], 0, 1⟩]
  nodup := by decide

/-- At the first try the channels of priority 10 are considered, and of 1000 numbers 300 pick the
one of weight 3. At the second try the other channel is considered. -/
theorem twoPriorities_weighted :
    let cache := initChannelCache twoPriorities Table.empty
    (cache.targets id "vip" "m" 0).map (·.id) = [1, 2] ∧
      ((List.range 1000).countP fun draw : Nat =>
        cache.getRandomSatisfiedChannel id "vip" "m" 0 draw =
          .ok (some ⟨1, true, ["vip"], ["m"], 10, 3⟩)) = 300 ∧
      (cache.targets id "vip" "m" 1).map (·.id) = [3] := by
  have hchoice := ((cached_choice_weighted (initChannelCache_consistent twoPriorities Table.empty)
    id "vip" "m" 0).2.1 (by decide +kernel)).mpr (by decide +kernel)
  have hcount := hchoice.2.2 ⟨1, true, ["vip"], ["m"], 10, 3⟩ (by decide +kernel)
  have htotal : totalWeight ((initChannelCache twoPriorities Table.empty).targets id "vip" "m" 0) =
      1000 := by decide +kernel
  rw [htotal] at hcount
  exact ⟨by decide +kernel, hcount.trans (by decide +kernel), by decide +kernel⟩

/-- Two channels of weight `2 ^ 62`. -/
def hugeChannels : ChannelTable where
  rows := [⟨1, true, ["vip"], ["m"], 0, 2 ^ 62⟩, ⟨2, true, ["vip"], ["m"], 0, 2 ^ 62⟩]
  nodup := by decide

/-- The sum wraps to a negative `int`, it is smoothed to `0`, and `rand.Intn` panics. -/
theorem huge_weights_panic :
    let cache := initChannelCache hugeChannels Table.empty
    totalWeight (cache.targets id "vip" "m" 0) = 0 ∧
      ∀ draw, cache.getRandomSatisfiedChannel id "vip" "m" 0 draw = .error .invalidArgument :=
  ⟨by decide +kernel, fun draw => rfl⟩

/-- Two channels of one priority, of which one has no weight. -/
def sampleChannels : ChannelTable where
  rows := [⟨1, true, ["vip"], ["m"], 0, 3⟩, ⟨2, true, ["vip"], ["m"], 0, 0⟩]
  nodup := by decide

end Yunbay
