import Yunbay.Relay.ChannelCache

/-!
# Routing from the cache and from the database

With the cache switched off, channels are chosen by `GetChannel` from the table of abilities. With
the cache, they are chosen by `GetRandomSatisfiedChannel` from the lists that `InitChannelCache`
makes of the same tables.

`routing_agrees_iff` says when both can choose the same channels. The cache looks at the state of
the channels, too, it lists what a channel declares even if its abilities are disabled, and a
channel without weight is never chosen next to one that has some.
-/

namespace Yunbay

open Table ChannelCache

open WeightedPick

/-! ### Writing the abilities -/

/-- The rows of a channel, for pairs of a model and a group. A pair is skipped if the text of its
key has been seen. -/
def newAbilities (channel : Channel) : List (String × String) → List String → List Ability
  | [], _ => []
  | (model, group) :: rest, seen =>
    if group ++ "|" ++ model ∈ seen then newAbilities channel rest seen
    else ⟨group, model, channel.id, channel.enabled, channel.priority, channel.weight⟩ ::
      newAbilities channel rest ((group ++ "|" ++ model) :: seen)

/-- An insert that does nothing on a conflict. -/
def createAbility (abilities : AbilityTable) (ability : Ability) : AbilityTable :=
  match abilities.get? ability.key with
  | some _ => abilities
  | none => abilities.put ability

def updateAbilities (abilities : AbilityTable) (channel : Channel) : AbilityTable :=
  (newAbilities channel
    (channel.models.flatMap fun model => channel.groups.map fun group => (model, group)) []).foldl
      createAbility (abilities.filter fun ability => ability.channelId ≠ channel.id)

def updateAbilityStatus (abilities : AbilityTable) (call : Int × Bool) : AbilityTable :=
  abilities.mapRows (fun ability =>
    if ability.channelId = call.1 then { ability with enabled := call.2 } else ability)
    fun ability => by
      split_ifs <;> rfl

/-- The abilities that are written for the channels, after some changes of their status. -/
def writtenAbilities (channels : ChannelTable) (calls : List (Int × Bool)) : AbilityTable :=
  calls.foldl updateAbilityStatus (channels.rows.foldl updateAbilities Table.empty)

/-- An ability has the priority and the weight of its channel. -/
def Mirrors (channels : ChannelTable) (ability : Ability) : Prop :=
  ∃ channel ∈ channels.rows, channel.id = ability.channelId ∧
    channel.priority = ability.priority ∧ channel.weight = ability.weight

section Written

variable {channels : ChannelTable} {abilities : AbilityTable}

lemma mirrors_newAbilities {channel : Channel} (hchannel : channel ∈ channels.rows)
    {pairs : List (String × String)} {seen : List String} {ability : Ability}
    (h : ability ∈ newAbilities channel pairs seen) : Mirrors channels ability := by
  induction pairs generalizing seen with
  | nil => cases h
  | cons pair rest ih =>
    rw [newAbilities] at h
    split_ifs at h
    · exact ih h
    · rcases List.mem_cons.mp h with rfl | h
      · exact ⟨channel, hchannel, rfl, rfl, rfl⟩
      · exact ih h

lemma mem_createAbility {ability row : Ability}
    (h : row ∈ (createAbility abilities ability).rows) : row = ability ∨ row ∈ abilities.rows := by
  unfold createAbility at h
  split at h
  · exact .inr h
  · exact (mem_put.mp h).imp_right And.left

lemma mirrors_updateAbilities (h : ∀ row ∈ abilities.rows, Mirrors channels row)
    {channel : Channel} (hchannel : channel ∈ channels.rows) :
    ∀ row ∈ (updateAbilities abilities channel).rows, Mirrors channels row := by
  refine List.foldlRecOn (motive := fun table : AbilityTable => ∀ row ∈ table.rows,
    Mirrors channels row) _ createAbility (fun row hrow => h row (List.mem_of_mem_filter hrow)) ?_
  intro table htable ability hability row hrow
  rcases mem_createAbility hrow with rfl | hrow
  · exact mirrors_newAbilities hchannel hability
  · exact htable row hrow

lemma mirrors_writtenAbilities (channels : ChannelTable) (calls : List (Int × Bool)) :
    ∀ ability ∈ (writtenAbilities channels calls).rows, Mirrors channels ability := by
  refine List.foldlRecOn (motive := fun table : AbilityTable => ∀ row ∈ table.rows,
    Mirrors channels row) calls updateAbilityStatus ?_ ?_
  · refine List.foldlRecOn (motive := fun table : AbilityTable => ∀ row ∈ table.rows,
      Mirrors channels row) channels.rows updateAbilities (fun row hrow => by cases hrow) ?_
    exact fun table htable channel hchannel => mirrors_updateAbilities htable hchannel
  · intro table htable call _ row hrow
    obtain ⟨old, hold, rfl⟩ := List.mem_map.mp hrow
    obtain ⟨channel, hmem, hid, hpriority, hweight⟩ := htable old hold
    refine ⟨channel, hmem, ?_⟩
    split_ifs <;> exact ⟨hid, hpriority, hweight⟩

end Written

/-! ### Priorities -/

section Priorities

variable {ps qs : List Int}

/-- Only which priorities there are matters. -/
lemma priorityAt_congr (h : ∀ p, p ∈ ps ↔ p ∈ qs) (retry : Nat) :
    priorityAt ps retry = priorityAt qs retry := by
  have hperm : ps.dedup.Perm qs.dedup :=
    (List.perm_ext_iff_of_nodup (List.nodup_dedup ps) (List.nodup_dedup qs)).mpr fun p => by
      rw [List.mem_dedup, List.mem_dedup, h]
  refine Option.ext fun p => ?_
  rw [priorityAt_eq_some_iff, priorityAt_eq_some_iff, h, hperm.countP_eq, hperm.length_eq]

/-- Every priority has its turn. -/
lemma exists_retry {p : Int} (h : p ∈ ps) : ∃ retry, priorityAt ps retry = some p := by
  have hlt : ps.dedup.countP (p < ·) < ps.dedup.length :=
    List.countP_lt_length_iff.mpr ⟨p, List.mem_dedup.mpr h, by simp⟩
  exact ⟨ps.dedup.countP (p < ·), priorityAt_eq_some_iff.mpr ⟨h, by omega⟩⟩

/-- The first turn is that of the highest priority. -/
lemma priorityAt_zero (ps : List Int) : priorityAt ps 0 = ps.max? := by
  refine Option.ext fun p => ?_
  rw [priorityAt_eq_some_iff, Nat.zero_min, List.countP_eq_zero, List.max?_eq_some_iff]
  simp

end Priorities

/-! ### What each side can choose -/

/-- The tables, and what is asked for. -/
structure Route where
  channels : ChannelTable
  /-- The changes of ability flags after the abilities were written. -/
  calls : List (Int × Bool)
  /-- `FormatMatchingModelName` -/
  format : String → String
  group : String
  model : String

namespace Route

variable (route : Route)

def abilities : AbilityTable := writtenAbilities route.channels route.calls

/-- The enabled abilities of the group and the model. -/
def enabled : List Ability := route.abilities.enabled route.group route.model

/-- The cache that is built from the tables. -/
def cache : ChannelCache := initChannelCache route.channels route.abilities

/-- The channels that the cache knows for the model. -/
def known : List Channel := route.cache.known route.format route.group route.model

/-- The channels that are considered at a retry. -/
def targets (retry : Nat) : List Channel :=
  route.cache.targets route.format route.group route.model retry

/-- `GetRandomSatisfiedChannel` can choose the channel from a cache that was just built. -/
def CacheCanReturn (retry : Nat) (id : Int) : Prop :=
  ∃ draw : Nat, draw < totalWeight (route.targets retry) ∧
    ∃ channel, route.cache.getRandomSatisfiedChannel route.format route.group route.model retry
      draw = .ok (some channel) ∧ channel.id = id

/-- The rows of the query, `ORDER BY weight DESC`. -/
def orderedRows (retry : Nat) : List Ability :=
  (getChannelQuery route.abilities route.group route.model retry).insertionSort
    fun a b => a.weight ≥ b.weight

/-- `GetChannel` can choose the channel. The sum of the shares is converted to an `int`. -/
def DatabaseCanReturn (retry : Nat) (id : Int) : Prop :=
  ∃ draw : Nat, draw < wrapInt (total Ability.share (route.orderedRows retry)) ∧
    getChannel (route.orderedRows retry) draw = some id

/-- The weights of both tables fit in an `int`, even if they are smoothed. -/
structure Fits : Prop where
  cache : total (fun channel => channel.weight * 100 + 100) route.channels.rows ≤ maxInt64
  database : total Ability.share route.enabled ≤ maxInt64

/-- The channel has an enabled ability for the group and the model. -/
def HasAbility (id : Int) : Prop := ∃ ability ∈ route.enabled, ability.channelId = id

/-- The channel is enabled, and it declares the model or has an enabled ability. -/
def Serves (channel : Channel) : Prop :=
  channel ∈ route.channels.rows ∧ channel.enabled = true ∧
    (channel.Declares route.group route.model ∨ route.HasAbility channel.id)

/-- The channel has no weight, and another one of its priority has some. -/
def Outweighed (channel : Channel) : Prop :=
  channel.weight = 0 ∧
    ∃ other, route.Serves other ∧ other.priority = channel.priority ∧ 0 < other.weight

variable {route} {retry : Nat} {id : Int} {channel c : Channel} {ability : Ability}

/-! ### The database -/

lemma mem_getChannelQuery :
    ability ∈ getChannelQuery route.abilities route.group route.model retry ↔
      ability ∈ route.enabled ∧
        priorityAt (route.enabled.map (·.priority)) retry = some ability.priority := by
  have hpriority : (if retry = 0 then (route.enabled.map (·.priority)).max?
      else getPriority route.abilities route.group route.model retry) =
      priorityAt (route.enabled.map (·.priority)) retry := by
    split_ifs with hretry
    · rw [hretry, priorityAt_zero]
    · rfl
  change ability ∈ route.enabled.filter (fun ability => some ability.priority = if retry = 0 then
    (route.enabled.map (·.priority)).max? else _) ↔ _
  rw [hpriority, List.mem_filter, decide_eq_true_eq]
  exact and_congr_right fun _ => eq_comm

/-- Every row of the query can be chosen, since it counts for at least 10 numbers. -/
lemma databaseCanReturn_iff (hfits : route.Fits) : route.DatabaseCanReturn retry id ↔
    ∃ ability ∈ route.enabled, ability.channelId = id ∧
      priorityAt (route.enabled.map (·.priority)) retry = some ability.priority := by
  have hperm : (route.orderedRows retry).Perm
      (getChannelQuery route.abilities route.group route.model retry) :=
    List.perm_insertionSort _ _
  have htotal : total Ability.share (route.orderedRows retry) ≤
      total Ability.share route.enabled := by
    refine le_of_eq_of_le (hperm.map _).sum_eq ?_
    exact (List.filter_sublist.map _).sum_le_sum fun _ _ => Nat.zero_le _
  rw [DatabaseCanReturn, wrapInt_eq (by unfold maxInt64; omega)
    ((Int.ofNat_le.mpr htotal).trans hfits.database)]
  constructor
  · rintro ⟨draw, -, hget⟩
    obtain ⟨ability, hpick, hid⟩ := Option.map_eq_some_iff.mp hget
    obtain ⟨hmem, hretry⟩ := mem_getChannelQuery.mp (hperm.mem_iff.mp (mem_of_walk hpick))
    exact ⟨ability, hmem, hid, hretry⟩
  · rintro ⟨ability, hability, hid, hretry⟩
    have hmem := hperm.mem_iff.mpr (mem_getChannelQuery.mpr ⟨hability, hretry⟩)
    have hdraws := draws_at (hperm.nodup_iff.mpr (nodup_query _ _ _ retry))
      (fun b _ => Nat.succ_pos (b.weight + 9)) (List.ne_nil_of_mem hmem) hmem
    have hpos : 0 < draws atZero Ability.share (route.orderedRows retry)
        (total Ability.share (route.orderedRows retry)) ability := by
      have hshare : 10 ≤ ability.share := Nat.le_add_left 10 ability.weight
      change draws atZero Ability.share _ (total Ability.share _) ability + _ =
        ability.share + _ at hdraws
      split_ifs at hdraws <;> omega
    obtain ⟨draw, hlt, hwalk⟩ := draws_pos_iff.mp hpos
    exact ⟨draw, Int.ofNat_lt.mpr hlt, by rw [getChannel, pickAbility, hwalk, Option.map_some, hid]⟩

/-- Every enabled ability has its turn. -/
lemma exists_databaseCanReturn (hfits : route.Fits) (hability : ability ∈ route.enabled) :
    ∃ retry, route.DatabaseCanReturn retry ability.channelId := by
  obtain ⟨retry, hretry⟩ := exists_retry
    (List.mem_map_of_mem (f := fun a : Ability => a.priority) hability)
  exact ⟨retry, (databaseCanReturn_iff hfits).mpr ⟨ability, hability, rfl, hretry⟩⟩

/-! ### The cache -/

lemma mem_targets : channel ∈ route.targets retry ↔ channel ∈ route.known ∧
    priorityAt (route.known.map (·.priority)) retry = some channel.priority := by
  rw [targets, ChannelCache.targets, targetChannels, List.mem_filter, decide_eq_true_eq]
  rfl

lemma mem_of_known (h : channel ∈ route.known) :
    channel ∈ route.channels.rows ∧ channel.enabled = true := by
  obtain ⟨id, hid, hget⟩ := List.mem_filterMap.mp h
  obtain ⟨name, hname⟩ := mem_candidates hid
  obtain ⟨found, hfound, henabled, -⟩ := mem_cachedIds.mp hname
  obtain rfl : found = channel := Option.some.inj (hfound.symm.trans hget)
  exact ⟨mem_of_get? hfound, henabled⟩

section Named

variable (hnamed : route.group ≠ "" ∧ route.model ≠ "")

include hnamed

lemma mem_cachedIds_iff :
    id ∈ cachedIds route.channels route.abilities route.group route.model ↔
      ∃ channel, route.Serves channel ∧ channel.id = id := by
  rw [mem_cachedIds]
  constructor
  · rintro ⟨channel, hget, henabled, hserves⟩
    obtain rfl : channel.id = id := key_of_get? hget
    exact ⟨channel, ⟨mem_of_get? hget, henabled, hserves.imp_right fun h => h.2.2⟩, rfl⟩
  · rintro ⟨channel, ⟨hmem, henabled, hserves⟩, rfl⟩
    exact ⟨channel, get?_of_mem hmem, henabled, hserves.imp_right fun h => ⟨hnamed.1, hnamed.2, h⟩⟩

/-- If any channel serves the model, the cache does not look for another name. -/
lemma mem_known_iff (hserved : ∃ c, route.Serves c) :
    channel ∈ route.known ↔ route.Serves channel := by
  obtain ⟨c, hc⟩ := hserved
  have hlisted := (mem_cachedIds_iff hnamed).mpr ⟨c, hc, rfl⟩
  have hids : route.cache.candidates route.format route.group route.model =
      cachedIds route.channels route.abilities route.group route.model :=
    if_neg (List.ne_nil_of_mem hlisted)
  rw [known, ChannelCache.known, List.mem_filterMap, hids]
  constructor
  · rintro ⟨id, hid, hget⟩
    obtain ⟨found, hserves, rfl⟩ := (mem_cachedIds_iff hnamed).mp hid
    exact Option.some.inj ((get?_of_mem hserves.1).symm.trans hget) ▸ hserves
  · intro hserves
    exact ⟨channel.id, (mem_cachedIds_iff hnamed).mpr ⟨channel, hserves, rfl⟩,
      get?_of_mem hserves.1⟩

end Named

lemma targets_fit (hfits : route.Fits) (retry : Nat) :
    total (effectiveWeight (route.targets retry)) (route.targets retry) ≤ maxInt64 := by
  have hnodup : (route.targets retry).Nodup := (nodup_known _ _ _ _).filter _
  have hstored : route.targets retry ⊆ route.channels.rows :=
    fun channel h => (mem_of_known (mem_targets.mp h).1).1
  obtain ⟨rows, hperm, hsub⟩ := hnodup.subperm hstored
  refine le_trans (Int.ofNat_le.mpr ?_) hfits.cache
  calc total (effectiveWeight (route.targets retry)) (route.targets retry)
      ≤ total (fun channel => channel.weight * 100 + 100) (route.targets retry) := by
        refine List.sum_le_sum fun channel _ => ?_
        unfold effectiveWeight smoothing
        split_ifs <;> omega
    _ = total (fun channel => channel.weight * 100 + 100) rows := (hperm.map _).sum_eq.symm
    _ ≤ total (fun channel => channel.weight * 100 + 100) route.channels.rows :=
        (hsub.map _).sum_le_sum fun _ _ => Nat.zero_le _

/-- Smoothing gives a channel a weight unless it has none next to one that has some. -/
lemma effectiveWeight_pos_iff {targets : List Channel}
    (hfits : total (effectiveWeight targets) targets ≤ maxInt64) :
    0 < effectiveWeight targets channel ↔
      ¬(channel.weight = 0 ∧ ∃ other ∈ targets, 0 < other.weight) := by
  have hsum : sumWeight targets = 0 ↔ ¬∃ other ∈ targets, 0 < other.weight := by
    rw [sumWeight_eq hfits, Int.natCast_eq_zero, List.sum_eq_zero_iff]
    simp
  unfold effectiveWeight smoothing
  by_cases hzero : sumWeight targets = 0
  · simp [hzero, hsum.mp hzero]
  · simp only [if_neg hzero, not_not.mp (mt hsum.mpr hzero), and_true]
    split_ifs <;> omega

/-- A channel of the priority can be chosen if it weighs something after smoothing. -/
lemma cacheCanReturn_iff (hfits : route.Fits) : route.CacheCanReturn retry id ↔
    ∃ channel ∈ route.targets retry, channel.id = id ∧
      ¬(channel.weight = 0 ∧ ∃ other ∈ route.targets retry, 0 < other.weight) := by
  have hcons := initChannelCache_consistent route.channels route.abilities
  have hnodup : (route.targets retry).Nodup := (nodup_known _ _ _ _).filter _
  have hle := targets_fit hfits retry
  simp only [← effectiveWeight_pos_iff hle]
  rw [CacheCanReturn, totalWeight_eq hle]
  constructor
  · rintro ⟨draw, hdraw, channel, hget, hid⟩
    obtain ⟨picked, hpicked, hwalk, hpick⟩ :=
      getRandomChannel_of_lt hcons rfl hle (Int.ofNat_lt.mp hdraw)
    obtain rfl : picked = channel := Option.some.inj (Except.ok.inj (hpick.symm.trans hget))
    exact ⟨picked, hpicked, hid,
      (exists_draw_iff hnodup hpicked).mp ⟨draw, Int.ofNat_lt.mp hdraw, hwalk⟩⟩
  · rintro ⟨channel, hmem, hid, hpos⟩
    obtain ⟨draw, hdraw, hwalk⟩ := (exists_draw_iff hnodup hmem).mpr hpos
    obtain ⟨picked, -, hpick, hget⟩ := getRandomChannel_of_lt hcons rfl hle hdraw
    rw [Option.some.inj (hwalk.symm.trans hpick)] at hid
    exact ⟨draw, Int.ofNat_lt.mpr hdraw, picked, hget, hid⟩

/-! ### When they agree -/

lemma cacheCanReturn_iff_serves (hfits : route.Fits)
    (hknown : ∀ {channel}, channel ∈ route.known ↔ route.Serves channel) :
    route.CacheCanReturn retry id ↔
      ∃ channel, route.Serves channel ∧ ¬route.Outweighed channel ∧ channel.id = id ∧
        priorityAt (route.known.map (·.priority)) retry = some channel.priority := by
  have htargets : ∀ channel, channel ∈ route.targets retry ↔ route.Serves channel ∧
      priorityAt (route.known.map (·.priority)) retry = some channel.priority := fun channel => by
    rw [mem_targets, hknown]
  rw [cacheCanReturn_iff hfits]
  refine exists_congr fun channel => ?_
  rw [htargets]
  constructor
  · rintro ⟨⟨hserves, hpriority⟩, hid, hweighs⟩
    refine ⟨hserves, ?_, hid, hpriority⟩
    rintro ⟨hzero, other, hother, hsame, hpos⟩
    exact hweighs ⟨hzero, other, (htargets other).mpr ⟨hother, hsame ▸ hpriority⟩, hpos⟩
  · rintro ⟨hserves, hweighs, hid, hpriority⟩
    refine ⟨⟨hserves, hpriority⟩, hid, ?_⟩
    rintro ⟨hzero, other, hother, hpos⟩
    obtain ⟨hother, hsame⟩ := (htargets other).mp hother
    exact hweighs ⟨hzero, other, hother, Option.some.inj (hsame.symm.trans hpriority), hpos⟩

lemma channel_unique {d : Channel} (hc : c ∈ route.channels.rows) (hd : d ∈ route.channels.rows)
    (hid : c.id = d.id) : c = d :=
  List.inj_on_of_nodup_map route.channels.nodup hc hd hid

/-- An ability has the priority of its channel. -/
lemma channel_of_enabled (hability : ability ∈ route.enabled) : ∃ channel ∈ route.channels.rows,
    channel.id = ability.channelId ∧ channel.priority = ability.priority := by
  obtain ⟨channel, hmem, hid, hpriority, -⟩ :=
    mirrors_writtenAbilities _ _ ability (mem_enabled.mp hability).1
  exact ⟨channel, hmem, hid, hpriority⟩

lemma priority_eq (hability : ability ∈ route.enabled) (hmem : channel ∈ route.channels.rows)
    (hid : ability.channelId = channel.id) : ability.priority = channel.priority := by
  obtain ⟨found, hfound, hfoundid, hpriority⟩ := channel_of_enabled hability
  rw [← channel_unique hfound hmem (hfoundid.trans hid), hpriority]

/-- Every channel with an enabled ability is enabled and not outweighed, and every channel that is
enabled, declares the model and is not outweighed has an enabled ability. -/
def Aligned (route : Route) : Prop :=
  ∀ channel ∈ route.channels.rows,
    (route.HasAbility channel.id → channel.enabled = true ∧ ¬route.Outweighed channel) ∧
    (channel.enabled = true → channel.Declares route.group route.model →
      ¬route.Outweighed channel → route.HasAbility channel.id)

namespace Aligned

variable (haligned : route.Aligned)

include haligned

lemma hasAbility_iff (hmem : channel ∈ route.channels.rows) :
    route.HasAbility channel.id ↔ route.Serves channel ∧ ¬route.Outweighed channel := by
  constructor
  · intro hability
    obtain ⟨henabled, hweighs⟩ := (haligned channel hmem).1 hability
    exact ⟨⟨hmem, henabled, .inr hability⟩, hweighs⟩
  · rintro ⟨⟨-, henabled, hdeclares | hability⟩, hweighs⟩
    · exact (haligned channel hmem).2 henabled hdeclares hweighs
    · exact hability

/-- A channel that serves the model shares its priority with one that has an ability. -/
lemma exists_ability_of_serves (hserves : route.Serves channel) :
    ∃ ability ∈ route.enabled, ability.priority = channel.priority := by
  have hfound : ∃ other, route.Serves other ∧ ¬route.Outweighed other ∧
      other.priority = channel.priority := by
    by_cases houtweighed : route.Outweighed channel
    · obtain ⟨-, other, hother, hpriority, hpos⟩ := houtweighed
      exact ⟨other, hother, fun h => hpos.ne' h.1, hpriority⟩
    · exact ⟨channel, hserves, houtweighed, rfl⟩
  obtain ⟨other, hother, hweighs, hpriority⟩ := hfound
  obtain ⟨ability, hability, hid⟩ := (haligned.hasAbility_iff hother.1).mpr ⟨hother, hweighs⟩
  exact ⟨ability, hability, (priority_eq hability hother.1 hid).trans hpriority⟩

/-- Both sides go through the same priorities. -/
lemma mem_priorities_iff (hknown : ∀ {channel}, channel ∈ route.known ↔ route.Serves channel)
    (p : Int) : p ∈ route.known.map (·.priority) ↔ p ∈ route.enabled.map (·.priority) := by
  simp only [List.mem_map, hknown]
  constructor
  · rintro ⟨channel, hchannel, rfl⟩
    exact haligned.exists_ability_of_serves hchannel
  · rintro ⟨ability, hability, rfl⟩
    obtain ⟨channel, hmem, hid, hpriority⟩ := channel_of_enabled hability
    exact ⟨channel, ((haligned.hasAbility_iff hmem).mp ⟨ability, hability, hid.symm⟩).1, hpriority⟩

end Aligned

/-- What the cache can choose has an enabled channel, so a model that the database can route is
served if both agree. -/
lemma exists_serves (hfits : route.Fits) (henabled : route.enabled ≠ [])
    (h : (∀ retry id, route.CacheCanReturn retry id ↔ route.DatabaseCanReturn retry id) ∨
      route.Aligned) : ∃ channel, route.Serves channel := by
  obtain ⟨ability, hability⟩ := List.exists_mem_of_ne_nil _ henabled
  obtain ⟨channel, hmem, hid, -⟩ := channel_of_enabled hability
  refine ⟨channel, hmem, ?_, .inr ⟨ability, hability, hid.symm⟩⟩
  rcases h with hagree | haligned
  · obtain ⟨retry, hreturn⟩ := exists_databaseCanReturn hfits hability
    obtain ⟨found, hfound, hfoundid, -⟩ :=
      (cacheCanReturn_iff hfits).mp ((hagree retry _).mpr hreturn)
    obtain ⟨hrow, hon⟩ := mem_of_known (mem_targets.mp hfound).1
    exact channel_unique hrow hmem (hfoundid.trans hid.symm) ▸ hon
  · exact ((haligned channel hmem).1 ⟨ability, hability, hid.symm⟩).1

lemma aligned_of_agree (hfits : route.Fits)
    (hknown : ∀ {channel}, channel ∈ route.known ↔ route.Serves channel)
    (hagree : ∀ retry id, route.CacheCanReturn retry id ↔ route.DatabaseCanReturn retry id) :
    route.Aligned := by
  refine fun channel hmem => ⟨?_, fun henabled hdeclares hweighs => ?_⟩
  · -- the ability has its turn, and then the cache can choose its channel
    rintro ⟨ability, hability, hid⟩
    obtain ⟨retry, hreturn⟩ := exists_databaseCanReturn hfits hability
    obtain ⟨found, hserves, hweighs, hfound, -⟩ :=
      (cacheCanReturn_iff_serves hfits hknown).mp ((hagree retry _).mpr hreturn)
    obtain rfl := channel_unique hserves.1 hmem (hfound.trans hid)
    exact ⟨hserves.2.1, hweighs⟩
  · have hserves : route.Serves channel := ⟨hmem, henabled, .inl hdeclares⟩
    obtain ⟨retry, hretry⟩ := exists_retry
      (List.mem_map_of_mem (f := fun c : Channel => c.priority) (hknown.mpr hserves))
    obtain ⟨ability, hability, hid, -⟩ := (databaseCanReturn_iff hfits).mp ((hagree retry _).mp
      ((cacheCanReturn_iff_serves hfits hknown).mpr ⟨channel, hserves, hweighs, rfl, hretry⟩))
    exact ⟨ability, hability, hid⟩

lemma Aligned.agree (haligned : route.Aligned) (hfits : route.Fits)
    (hknown : ∀ {channel}, channel ∈ route.known ↔ route.Serves channel) (retry : Nat) (id : Int) :
    route.CacheCanReturn retry id ↔ route.DatabaseCanReturn retry id := by
  rw [cacheCanReturn_iff_serves hfits hknown, databaseCanReturn_iff hfits,
    priorityAt_congr (haligned.mem_priorities_iff hknown) retry]
  constructor
  · rintro ⟨channel, hserves, hweighs, rfl, hretry⟩
    obtain ⟨ability, hability, hid⟩ :=
      (haligned.hasAbility_iff hserves.1).mpr ⟨hserves, hweighs⟩
    exact ⟨ability, hability, hid, (priority_eq hability hserves.1 hid).symm ▸ hretry⟩
  · rintro ⟨ability, hability, rfl, hretry⟩
    obtain ⟨channel, hmem, hid, hpriority⟩ := channel_of_enabled hability
    obtain ⟨hserves, hweighs⟩ := (haligned.hasAbility_iff hmem).mp ⟨ability, hability, hid.symm⟩
    exact ⟨channel, hserves, hweighs, hid, hpriority ▸ hretry⟩

end Route

/-- For a model that has an enabled ability, and weights that fit in an `int`, the cache and the
database can choose the same channels at every retry if and only if the tables are aligned. -/
theorem routing_agrees_iff {route : Route} (hnamed : route.group ≠ "" ∧ route.model ≠ "")
    (henabled : route.enabled ≠ []) (hfits : route.Fits) :
    (∀ retry id, route.CacheCanReturn retry id ↔ route.DatabaseCanReturn retry id) ↔
      route.Aligned := by
  constructor
  · intro hagree
    have hserved := Route.exists_serves hfits henabled (.inl hagree)
    exact Route.aligned_of_agree hfits (Route.mem_known_iff hnamed hserved) hagree
  · intro haligned
    have hserved := Route.exists_serves hfits henabled (.inr haligned)
    exact haligned.agree hfits (Route.mem_known_iff hnamed hserved)

/-- Channels of two priorities, all enabled and of some weight: both sides go to the second priority
at the first retry. -/
theorem twoPriorities_agree :
    let route : Route := ⟨twoPriorities, [], id, "vip", "m"⟩
    (∀ retry id, route.CacheCanReturn retry id ↔ route.DatabaseCanReturn retry id) ∧
      route.CacheCanReturn 1 3 ∧ ¬route.CacheCanReturn 1 1 := by
  have hfits : Route.Fits ⟨twoPriorities, [], id, "vip", "m"⟩ :=
    ⟨by decide +kernel, by decide +kernel⟩
  refine ⟨(routing_agrees_iff (by decide) (by decide +kernel) hfits).mpr ?_, ?_⟩
  · have hweights : ∀ channel ∈ twoPriorities.rows, channel.weight ≠ 0 ∧ channel.enabled = true ∧
        ∃ ability ∈ (writtenAbilities twoPriorities []).enabled "vip" "m",
          ability.channelId = channel.id := by decide +kernel
    exact fun channel hmem => ⟨fun _ => ⟨(hweights channel hmem).2.1,
      fun h => (hweights channel hmem).1 h.1⟩, fun _ _ _ => (hweights channel hmem).2.2⟩
  · rw [Route.cacheCanReturn_iff hfits, Route.cacheCanReturn_iff hfits]
    decide +kernel

/-- Of two channels of one priority, the database can choose the one without weight, and the cache
cannot. -/
theorem weightless_channel_only_from_database :
    let route : Route := ⟨sampleChannels, [], id, "vip", "m"⟩
    route.DatabaseCanReturn 0 2 ∧ ¬route.CacheCanReturn 0 2 := by
  have hfits : Route.Fits ⟨sampleChannels, [], id, "vip", "m"⟩ :=
    ⟨by decide +kernel, by decide +kernel⟩
  refine ⟨(Route.databaseCanReturn_iff hfits).mpr ?_, mt (Route.cacheCanReturn_iff hfits).mp ?_⟩
  all_goals decide +kernel

end Yunbay
