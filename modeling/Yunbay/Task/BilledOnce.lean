import Yunbay.Task.Polling

/-!
# Tasks are billed once

A row is taken once an adjustment has taken effect for it, or a worker that has won the conditional
write is about to make one. `Polling.Inv` says that a row is taken at most once, and that a taken
row can not be taken again: it has ended, or the poller that has refunded it is about to save so.
-/

namespace Yunbay

open Run Table Copy

variable {todo : List Action} {other : Copy} {id now : Int} {row task : Task} {fails : Bool}
  {fromStatus : TaskStatus} {ids : List Int} {config : PollingConfig} {info : TaskInfo}

/-! ## Steps in order -/

/-- The poller has ended the task in memory, and is about to save it. -/
def Copy.unsaved (copy : Copy) : Bool := decide (copy.todo = [.save]) && copy.task.ended

namespace Polling

def rowOpen (state : Polling) (id : Int) : Bool := (state.rows.get? id).all fun row => !row.ended

/-- The row has not ended, and no poller is about to save that it has. -/
def stillOpen (state : Polling) (id : Int) : Bool :=
  state.rowOpen id && !state.copies.any fun copy => copy.task.id = id && copy.unsaved

/-- The order of steps in which a task is billed once.

* A video task that has ended in memory is not visited again. It is if another task of the poller
  has its upstream id.
* A Suno row is still open when a sweeper ends it, and when a poller refunds it.
* A Suno task that has ended in memory is saved without failure, and one that has not is not saved
  over a row that has ended. -/
def inOrder (state : Polling) : PollingStep → Bool
  | .videoAnswer ref _ _ => state.copies[ref]?.all fun copy => !copy.task.status.terminal
  | .perform ref fails => state.copies[ref]?.all fun copy =>
    if copy.task.platform = .suno then
      match copy.todo with
      | .saveIf _ _ :: _ => state.stillOpen copy.task.id
      | .bill _ :: .save :: _ => state.stillOpen copy.task.id
      | .save :: _ => if copy.task.ended then !fails else state.rowOpen copy.task.id
      | _ => true
    else true
  | _ => true

end Polling

/-! ## The phases of a copy -/

/-- Where a worker is with a copy, in a run in order. -/
inductive Copy.Phase (copy : Copy) : List Action → Prop
  | idle : Phase copy []
  /-- Before a conditional write that ends the task. -/
  | claiming {fromStatus : TaskStatus} {bills : List TaskAdjustment}
      (hfrom : fromStatus.terminal = false) (hstatus : copy.task.status.terminal = true)
      (hbills : bills.length ≤ 1) : Phase copy [.saveIf fromStatus bills]
  | writing {fromStatus : TaskStatus} (hfrom : fromStatus.terminal = false)
      (hplatform : copy.task.platform ≠ .suno) : Phase copy [.writeIf fromStatus]
  /-- After the conditional write was won. -/
  | won {adjustment : TaskAdjustment} : Phase copy [.bill adjustment]
  /-- Before a poller refunds a Suno task that it has not saved. -/
  | refunding (hplatform : copy.task.platform = .suno) (hended : copy.task.ended = true) :
      Phase copy [.bill .refund, .save]
  | saving (hplatform : copy.task.platform = .suno) : Phase copy [.save]

structure Copy.Tidy (copy : Copy) : Prop where
  phase : copy.Phase copy.todo
  /-- A sweeper comes to an unfinished task, once. -/
  visited : copy.holder = .sweeper →
    copy.visits = 0 ∨ copy.visits = 1 ∧ copy.task.status.terminal = false

/-- The worker has won the conditional write, and is about to adjust the price. -/
def Copy.Won (copy : Copy) : Prop := ∃ adjustment, copy.todo = [.bill adjustment]

lemma Copy.not_won_of_todo {copy : Copy} (h : copy.todo = todo)
    (hne : ∀ adjustment, todo ≠ [.bill adjustment]) : ¬copy.Won := by
  rintro ⟨adjustment, hwon⟩
  exact hne adjustment (h.symm.trans hwon)

/-! ## The invariant -/

namespace Polling

/-- An adjustment has taken effect for the row, or is about to. -/
def Taken (state : Polling) (id : Int) : Prop :=
  id ∈ state.effects ∨ ∃ copy ∈ state.copies, copy.Won ∧ copy.task.id = id

/-- The row can not be taken, given its content. -/
def Secures (state : Polling) (row : Task) : Prop :=
  row.status.terminal = true ∨ row.platform = .suno ∧
    (row.ended = true ∨ ∃ copy ∈ state.copies, copy.unsaved = true ∧ copy.task.id = row.id)

structure Inv (state : Polling) : Prop where
  tidy : ∀ copy ∈ state.copies, copy.Tidy
  stored : ∀ copy ∈ state.copies, ∃ row, state.rows.get? copy.task.id = some row ∧
    row.platform = copy.task.platform
  once : ∀ id, state.effects.count id ≤ 1
  fresh : ∀ copy ∈ state.copies, copy.Won → copy.task.id ∉ state.effects
  /-- Only one worker wins the conditional write of a row. -/
  unique : ∀ (i j : Nat) (copy other : Copy), state.copies[i]? = some copy →
    state.copies[j]? = some other → copy.Won → other.Won → copy.task.id = other.task.id → i = j
  secured : ∀ id, state.Taken id → ∃ row, state.rows.get? id = some row ∧ state.Secures row

variable {state : Polling} {ref : Nat} {copy copy' : Copy}

lemma mem_setCopy (h : other ∈ (state.setCopy ref copy').copies) :
    other = copy' ∨ other ∈ state.copies :=
  (List.mem_or_eq_of_mem_set h).symm

section

variable (hget : state.copies[ref]? = some copy)

include hget

lemma getElem?_setCopy (i : Nat) :
    (state.setCopy ref copy').copies[i]? = if ref = i then some copy' else state.copies[i]? := by
  obtain ⟨hlt, -⟩ := List.getElem?_eq_some_iff.mp hget
  show (state.copies.set ref copy')[i]? = _
  rw [List.getElem?_set]
  split_ifs <;> rfl

lemma mem_setCopy_of_ne (hmem : other ∈ state.copies)
    (hne : other ≠ copy) : other ∈ (state.setCopy ref copy').copies := by
  obtain ⟨i, hi⟩ := List.mem_iff_getElem?.mp hmem
  refine List.mem_iff_getElem?.mpr ⟨i, ?_⟩
  rw [getElem?_setCopy hget, if_neg]
  · exact hi
  · rintro rfl
    rw [hget] at hi
    exact hne (Option.some.inj hi).symm

lemma mem_setCopy_self : copy' ∈ (state.setCopy ref copy').copies := by
  refine List.mem_iff_getElem?.mpr ⟨ref, ?_⟩
  rw [getElem?_setCopy hget, if_pos rfl]

end

lemma Taken.of_setCopy (h : (state.setCopy ref copy').Taken id)
    (hwon : copy'.Won → copy'.task.id ≠ id) : state.Taken id := by
  rcases h with heffect | ⟨other, hmem, hother, hid⟩
  · exact .inl heffect
  · obtain rfl | hmem := mem_setCopy hmem
    · exact absurd hid (hwon hother)
    · exact .inr ⟨other, hmem, hother, hid⟩

lemma Secures.setCopy (h : state.Secures row) (hget : state.copies[ref]? = some copy)
    (hsaved : copy.unsaved = true → copy.task.id = row.id → row.ended = true) :
    (state.setCopy ref copy').Secures row := by
  rcases h with hterminal | ⟨hsuno, hended | ⟨other, hmem, hunsaved, hid⟩⟩
  · exact .inl hterminal
  · exact .inr ⟨hsuno, .inl hended⟩
  · by_cases hsame : other = copy
    · subst hsame
      exact .inr ⟨hsuno, .inl (hsaved hunsaved hid)⟩
    · exact .inr ⟨hsuno, .inr ⟨other, mem_setCopy_of_ne hget hmem hsame, hunsaved, hid⟩⟩

/-- The new copy is of the row that the old one was of. -/
structure SameRow (copy copy' : Copy) : Prop where
  id : copy'.task.id = copy.task.id
  platform : copy'.task.platform = copy.task.platform

namespace Inv

section

variable (h : Inv state)

include h

lemma tidy_of_get? (hget : state.copies[ref]? = some copy) : copy.Tidy :=
  h.tidy copy (List.mem_of_getElem? hget)

lemma tidy_setCopy (htidy : copy'.Tidy) :
    ∀ other ∈ (state.setCopy ref copy').copies, other.Tidy := by
  intro other hmem
  obtain rfl | hmem := mem_setCopy hmem
  · exact htidy
  · exact h.tidy other hmem

section

variable (hget : state.copies[ref]? = some copy)

include hget

lemma stored_setCopy (hsame : SameRow copy copy') :
    ∀ other ∈ (state.setCopy ref copy').copies, ∃ row, state.rows.get? other.task.id = some row ∧
      row.platform = other.task.platform := by
  intro other hmem
  obtain rfl | hmem := mem_setCopy hmem
  · rw [hsame.id, hsame.platform]
    exact h.stored copy (List.mem_of_getElem? hget)
  · exact h.stored other hmem

lemma unique_setCopy (hwon : ¬copy'.Won) (i j : Nat)
    (first second : Copy) (hfirst : (state.setCopy ref copy').copies[i]? = some first)
    (hsecond : (state.setCopy ref copy').copies[j]? = some second) (hwon₁ : first.Won)
    (hwon₂ : second.Won) (hid : first.task.id = second.task.id) : i = j := by
  rw [getElem?_setCopy hget] at hfirst hsecond
  split_ifs at hfirst with hi
  · cases hfirst
    exact absurd hwon₁ hwon
  split_ifs at hsecond with hj
  · cases hsecond
    exact absurd hwon₂ hwon
  exact h.unique i j first second hfirst hsecond hwon₁ hwon₂ hid

section

variable (htidy : copy'.Tidy) (hsame : SameRow copy copy')

include htidy hsame

lemma setCopy (hwon : ¬copy'.Won)
    (hsaved : copy.unsaved = true → state.rowOpen copy.task.id = false) :
    Inv (state.setCopy ref copy') where
  tidy := h.tidy_setCopy htidy
  stored := h.stored_setCopy hget hsame
  once := h.once
  fresh := by
    intro other hmem hother
    obtain rfl | hmem := mem_setCopy hmem
    · exact absurd hother hwon
    · exact h.fresh other hmem hother
  unique := h.unique_setCopy hget hwon
  secured := by
    intro id htaken
    obtain ⟨row, hrow, hsecures⟩ :=
      h.secured id (htaken.of_setCopy fun hnew => absurd hnew hwon)
    refine ⟨row, hrow, hsecures.setCopy hget fun hunsaved hid => ?_⟩
    have hclosed := hsaved hunsaved
    have hrowId : row.id = id := key_of_get? hrow
    rw [hid, hrowId, rowOpen, hrow] at hclosed
    simpa using hclosed

/-- A conditional write that is won takes a row that was not taken. -/
lemma claim (hfree : ¬state.Taken copy.task.id)
    (hterminal : ∃ row, state.rows.get? copy.task.id = some row ∧ row.status.terminal = true) :
    Inv (state.setCopy ref copy') where
  tidy := h.tidy_setCopy htidy
  stored := h.stored_setCopy hget hsame
  once := h.once
  fresh := by
    intro other hmem hother heffect
    obtain rfl | hmem := mem_setCopy hmem
    · rw [hsame.id] at heffect
      exact hfree (.inl heffect)
    · exact h.fresh other hmem hother heffect
  unique := by
    intro i j first second hfirst hsecond hwon₁ hwon₂ hid
    rw [getElem?_setCopy hget] at hfirst hsecond
    split_ifs at hfirst hsecond with hi hj hj
    · exact hi.symm.trans hj
    · cases hfirst
      exact absurd (.inr ⟨second, List.mem_of_getElem? hsecond, hwon₂,
        hid.symm.trans hsame.id⟩) hfree
    · cases hsecond
      exact absurd (.inr ⟨first, List.mem_of_getElem? hfirst, hwon₁,
        hid.trans hsame.id⟩) hfree
    · exact h.unique i j first second hfirst hsecond hwon₁ hwon₂ hid
  secured := by
    intro id htaken
    by_cases hid : id = copy.task.id
    · obtain ⟨row, hrow, hend⟩ := hterminal
      exact ⟨row, hid ▸ hrow, .inl hend⟩
    · obtain ⟨row, hrow, hsecures⟩ :=
        h.secured id (htaken.of_setCopy fun _ hnew => hid (hnew.symm.trans hsame.id))
      refine ⟨row, hrow, hsecures.setCopy hget fun _ hcopy => ?_⟩
      exact absurd ((key_of_get? hrow).symm.trans hcopy.symm) hid

/-- An adjustment takes effect for a row that no other worker has taken. -/
lemma bill
    (hwon : ¬copy'.Won) (hunsaved : copy.unsaved = false)
    (hnone : copy.task.id ∉ state.effects)
    (hothers : ∀ (i : Nat) (other : Copy), state.copies[i]? = some other → other.Won →
      other.task.id = copy.task.id → i = ref)
    (hsecured : ∃ row, state.rows.get? copy.task.id = some row ∧
      (state.setCopy ref copy').Secures row) :
    Inv ({ state with effects := copy.task.id :: state.effects }.setCopy ref copy') where
  tidy := h.tidy_setCopy htidy
  stored := h.stored_setCopy hget hsame
  once := by
    intro id
    show (copy.task.id :: state.effects).count id ≤ 1
    rw [List.count_cons]
    split_ifs with hid
    · rw [beq_iff_eq] at hid
      rw [← hid, List.count_eq_zero_of_not_mem hnone]
    · exact h.once id
  fresh := by
    intro other hmem hother heffect
    obtain ⟨i, hi⟩ := List.mem_iff_getElem?.mp hmem
    have hi' : (state.setCopy ref copy').copies[i]? = some other := hi
    rw [getElem?_setCopy hget] at hi'
    split_ifs at hi' with href
    · cases hi'
      exact hwon hother
    · rcases List.mem_cons.mp heffect with hid | heffect
      · exact href (hothers i other hi' hother hid).symm
      · exact h.fresh other (List.mem_of_getElem? hi') hother heffect
  unique := h.unique_setCopy hget hwon
  secured := by
    intro id htaken
    by_cases hid : id = copy.task.id
    · obtain ⟨row, hrow, hsecures⟩ := hsecured
      exact ⟨row, hid ▸ hrow, hsecures⟩
    · have hbefore : (state.setCopy ref copy').Taken id :=
        htaken.imp_left fun heffect => List.mem_of_ne_of_mem hid heffect
      obtain ⟨row, hrow, hsecures⟩ :=
        h.secured id (hbefore.of_setCopy fun hnew => absurd hnew hwon)
      refine ⟨row, hrow, hsecures.setCopy hget fun htrue _ => ?_⟩
      rw [hunsaved] at htrue
      cases htrue

end

end

lemma writeRow {old : Task} (hold : state.rows.get? task.id = some old)
    (hplatform : task.platform = old.platform) (hsecures : state.Taken task.id → state.Secures task)
    : Inv (state.writeRow task) where
  tidy := h.tidy
  stored := by
    intro copy hmem
    by_cases hid : copy.task.id = task.id
    · obtain ⟨row, hrow, hcopy⟩ := h.stored copy hmem
      rw [hid, hold] at hrow
      obtain rfl := Option.some.inj hrow
      exact ⟨task, hid ▸ get?_put_self _ task, hplatform.trans hcopy⟩
    · obtain ⟨row, hrow, hcopy⟩ := h.stored copy hmem
      exact ⟨row, (get?_put_of_ne _ (Ne.symm hid)).trans hrow, hcopy⟩
  once := h.once
  fresh := h.fresh
  unique := h.unique
  secured := by
    intro id htaken
    by_cases hid : id = task.id
    · subst hid
      exact ⟨task, get?_put_self _ task, hsecures htaken⟩
    · obtain ⟨row, hrow, hrowSecures⟩ := h.secured id htaken
      exact ⟨row, (get?_put_of_ne _ (Ne.symm hid)).trans hrow, hrowSecures⟩

/-- Copies that have just been read change nothing. -/
lemma append {copies : List Copy}
    (hnew : ∀ copy ∈ copies, copy.todo = [] ∧ copy.Tidy ∧
      ∃ row, state.rows.get? copy.task.id = some row ∧ row.platform = copy.task.platform) :
    Inv { state with copies := state.copies ++ copies } := by
  have hold : ∀ (i : Nat) (copy : Copy), (state.copies ++ copies)[i]? = some copy → copy.Won →
      state.copies[i]? = some copy := by
    intro i copy hget hwon
    rw [List.getElem?_append] at hget
    split_ifs at hget with hlt
    · exact hget
    · have htodo := (hnew copy (List.mem_of_getElem? hget)).1
      exact absurd hwon (not_won_of_todo htodo nofun)
  have hmem : ∀ copy ∈ state.copies ++ copies, copy.Won → copy ∈ state.copies := by
    intro copy hmem hwon
    obtain ⟨i, hi⟩ := List.mem_iff_getElem?.mp hmem
    exact List.mem_of_getElem? (hold i copy hi hwon)
  constructor
  case tidy =>
    intro copy hmem
    exact (List.mem_append.mp hmem).elim (h.tidy copy) fun hmem => (hnew copy hmem).2.1
  case stored =>
    intro copy hmem
    exact (List.mem_append.mp hmem).elim (h.stored copy) fun hmem => (hnew copy hmem).2.2
  case once => exact h.once
  case fresh => exact fun copy hcopy hwon => h.fresh copy (hmem copy hcopy hwon) hwon
  case unique =>
    intro i j first second hfirst hsecond hwon₁ hwon₂ hid
    exact h.unique i j first second (hold i first hfirst hwon₁) (hold j second hsecond hwon₂)
      hwon₁ hwon₂ hid
  case secured =>
    intro id htaken
    have hbefore : state.Taken id := htaken.imp_right fun ⟨copy, hcopy, hwon, hid⟩ =>
      ⟨copy, hmem copy hcopy hwon, hwon, hid⟩
    obtain ⟨row, hrow, hsecures⟩ := h.secured id hbefore
    refine ⟨row, hrow, hsecures.imp_right fun ⟨hsuno, hrest⟩ => ⟨hsuno, hrest.imp_right ?_⟩⟩
    rintro ⟨copy, hcopy, hunsaved⟩
    exact ⟨copy, List.mem_append_left _ hcopy, hunsaved⟩

lemma not_taken_of_stillOpen (hopen : state.stillOpen id = true) : ¬state.Taken id := by
  intro htaken
  obtain ⟨row, hrow, hsecures⟩ := h.secured id htaken
  rw [stillOpen, rowOpen, hrow, Bool.and_eq_true] at hopen
  obtain ⟨hrowOpen, hsaved⟩ := hopen
  have hended : row.ended = false := by simpa using hrowOpen
  rcases hsecures with hterminal | ⟨-, htrue | ⟨copy, hmem, hunsaved, hid⟩⟩
  · rw [Task.ended, hterminal] at hended
    cases hended
  · exact absurd (htrue.symm.trans hended) (by decide)
  · have hrowId : row.id = id := key_of_get? hrow
    have hany : (state.copies.any fun copy => copy.task.id = id && copy.unsaved) = true :=
      List.any_eq_true.mpr ⟨copy, hmem, by simp [hid, hrowId, hunsaved]⟩
    rw [hany] at hsaved
    cases hsaved

lemma not_taken_of_status (hrow : state.rows.get? row.id = some row)
    (hstatus : row.status.terminal = false) (hplatform : row.platform ≠ .suno) :
    ¬state.Taken row.id := by
  intro htaken
  obtain ⟨row', hrow', hsecures⟩ := h.secured row.id htaken
  obtain rfl : row = row' := Option.some.inj (hrow.symm.trans hrow')
  rcases hsecures with hterminal | ⟨hsuno, -⟩
  · exact absurd (hterminal.symm.trans hstatus) (by decide)
  · exact hplatform hsuno

section

variable (hget : state.copies[ref]? = some copy)

include hget

/-- No one has taken the task before a conditional write from an open status that is won. -/
lemma winningWrite
    (hwins : state.hasStatus copy.task.id fromStatus = true) (hfrom : fromStatus.terminal = false)
    (horder : copy.task.platform = .suno → state.stillOpen copy.task.id = true) :
    ¬state.Taken copy.task.id ∧ Inv (state.writeRow copy.task) := by
  obtain ⟨row, hrow, hplatform⟩ := h.stored copy (List.mem_of_getElem? hget)
  have hrowId : row.id = copy.task.id := key_of_get? hrow
  have hrowStatus : row.status = fromStatus := by
    rw [hasStatus, hrow] at hwins
    simpa using hwins
  have hfree : ¬state.Taken copy.task.id := by
    by_cases hsuno : copy.task.platform = .suno
    · exact h.not_taken_of_stillOpen (horder hsuno)
    · rw [← hrowId]
      exact h.not_taken_of_status (hrowId.symm ▸ hrow) (hrowStatus ▸ hfrom) (hplatform ▸ hsuno)
  exact ⟨hfree, h.writeRow hrow hplatform.symm fun htaken => absurd htaken hfree⟩

lemma done (hunsaved : copy.unsaved = false) :
    Inv (state.setCopy ref { copy with todo := [] }) := by
  refine h.setCopy hget ⟨.idle, (h.tidy_of_get? hget).visited⟩ ⟨rfl, rfl⟩
    (not_won_of_todo rfl nofun) fun htrue => ?_
  rw [hunsaved] at htrue
  cases htrue

lemma perform_claiming {bills : List TaskAdjustment}
    (htodo : copy.todo = [.saveIf fromStatus bills]) (hfrom : fromStatus.terminal = false)
    (hstatus : copy.task.status.terminal = true) (hbills : bills.length ≤ 1)
    (horder : copy.task.platform = .suno → state.stillOpen copy.task.id = true) :
    Inv (state.perform ref fails copy) := by
  unfold Polling.perform
  rw [htodo]
  dsimp only
  split_ifs with hwins
  · rw [Bool.and_eq_true] at hwins
    obtain ⟨hfree, hwritten⟩ := h.winningWrite hget hwins.2 hfrom horder
    have hterminal : ∃ row, (state.writeRow copy.task).rows.get? copy.task.id = some row ∧
        row.status.terminal = true := ⟨copy.task, get?_put_self _ copy.task, hstatus⟩
    refine hwritten.claim hget ⟨?_, (h.tidy_of_get? hget).visited⟩ ⟨rfl, rfl⟩ hfree hterminal
    -- there is nothing more to do than at most one adjustment
    match bills, hbills with
    | [], _ => exact .idle
    | [adjustment], _ => exact .won
  · refine h.done hget ?_
    simp [unsaved, htodo]

lemma perform_writing
    (htodo : copy.todo = [.writeIf fromStatus]) (hfrom : fromStatus.terminal = false)
    (hplatform : copy.task.platform ≠ .suno) : Inv (state.perform ref fails copy) := by
  have hunsaved : copy.unsaved = false := by simp [unsaved, htodo]
  unfold Polling.perform
  rw [htodo]
  dsimp only
  split_ifs with hwins
  · rw [Bool.and_eq_true] at hwins
    obtain ⟨-, hwritten⟩ := h.winningWrite hget hwins.2 hfrom fun hsuno => absurd hsuno hplatform
    exact hwritten.done hget hunsaved
  · exact h.done hget hunsaved

/-- The winner of the conditional write makes its adjustment. -/
lemma perform_won {adjustment : TaskAdjustment}
    (htodo : copy.todo = [.bill adjustment]) : Inv (state.perform ref fails copy) := by
  have hunsaved : copy.unsaved = false := by simp [unsaved, htodo]
  have hmem : copy ∈ state.copies := List.mem_of_getElem? hget
  have hwon : copy.Won := ⟨adjustment, htodo⟩
  unfold Polling.perform
  rw [htodo]
  dsimp only
  split_ifs with heffect
  · have hsame : SameRow copy { copy with todo := [], task := adjustment.adjusted copy.task } := by
      cases adjustment <;> exact ⟨rfl, rfl⟩
    refine h.bill hget ⟨.idle, ?_⟩ hsame (not_won_of_todo rfl nofun) hunsaved
      (h.fresh copy hmem hwon) ?_ ?_
    · intro hsweeper
      refine ((h.tidy_of_get? hget).visited hsweeper).imp_right fun hvisits => ?_
      cases adjustment <;> exact hvisits
    · intro i other hi hother hid
      exact h.unique i ref other copy hi hget hother hwon hid
    · obtain ⟨row, hrow, hsecures⟩ := h.secured copy.task.id (.inr ⟨copy, hmem, hwon, rfl⟩)
      refine ⟨row, hrow, hsecures.setCopy hget fun htrue _ => ?_⟩
      rw [hunsaved] at htrue
      cases htrue
  · exact h.done hget hunsaved

lemma perform_refunding (htodo : copy.todo = [.bill .refund, .save])
    (hplatform : copy.task.platform = .suno) (hended : copy.task.ended = true)
    (hopen : state.stillOpen copy.task.id = true) : Inv (state.perform ref fails copy) := by
  have hunsaved : copy.unsaved = false := by simp [unsaved, htodo]
  have hmem : copy ∈ state.copies := List.mem_of_getElem? hget
  have hfree := h.not_taken_of_stillOpen hopen
  have htidy : ({ copy with todo := [.save] } : Copy).Tidy :=
    ⟨.saving hplatform, (h.tidy_of_get? hget).visited⟩
  unfold Polling.perform
  rw [htodo]
  dsimp only
  split_ifs with heffect
  · refine h.bill hget htidy ⟨rfl, rfl⟩ (not_won_of_todo rfl nofun) hunsaved
      (fun heffects => hfree (.inl heffects)) ?_ ?_
    · intro i other hi hother hid
      exact absurd (.inr ⟨other, List.mem_of_getElem? hi, hother, hid⟩) hfree
    · -- from here on the copy itself secures the row
      obtain ⟨row, hrow, hrowPlatform⟩ := h.stored copy hmem
      have hrowId : row.id = copy.task.id := key_of_get? hrow
      have hnew : ({ copy with todo := [.save] } : Copy).unsaved = true := by
        simp [unsaved, hended]
      exact ⟨row, hrow, .inr ⟨hrowPlatform.trans hplatform,
        .inr ⟨_, mem_setCopy_self hget, hnew, hrowId.symm⟩⟩⟩
  · refine h.setCopy hget htidy ⟨rfl, rfl⟩ (not_won_of_todo rfl nofun) fun htrue => ?_
    rw [hunsaved] at htrue
    cases htrue

lemma perform_saving (htodo : copy.todo = [.save]) (hplatform : copy.task.platform = .suno)
    (horder : if copy.task.ended then fails = false else state.rowOpen copy.task.id = true) :
    Inv (state.perform ref fails copy) := by
  obtain ⟨row, hrow, hrowPlatform⟩ := h.stored copy (List.mem_of_getElem? hget)
  have hrowId : row.id = copy.task.id := key_of_get? hrow
  unfold Polling.perform
  rw [htodo]
  dsimp only
  cases hended : copy.task.ended with
  | true =>
    rw [if_pos hended] at horder
    rw [horder, if_neg Bool.false_ne_true]
    have hwritten : Inv (state.writeRow copy.task) :=
      h.writeRow hrow hrowPlatform.symm fun _ => .inr ⟨hplatform, .inl hended⟩
    refine hwritten.setCopy hget ⟨.idle, (h.tidy_of_get? hget).visited⟩ ⟨rfl, rfl⟩
      (not_won_of_todo rfl nofun) fun _ => ?_
    rw [rowOpen, Polling.writeRow, get?_put_self]
    simp [hended]
  | false =>
    have hunsaved : copy.unsaved = false := by simp [unsaved, hended]
    rw [if_neg (by simp [hended]), rowOpen, hrow] at horder
    have hrowEnded : row.ended = false := by simpa using horder
    split_ifs with hfails
    · exact h.done hget hunsaved
    · refine (h.writeRow hrow hrowPlatform.symm fun htaken => ?_).done hget hunsaved
      -- the row has not ended, so it is the copy of another poller that secures it
      obtain ⟨row', hrow', hsecures⟩ := h.secured copy.task.id htaken
      obtain rfl : row = row' := Option.some.inj (hrow.symm.trans hrow')
      rcases hsecures with hterminal | ⟨-, htrue | ⟨other, hother, hunsaved', hid⟩⟩
      · rw [Task.ended, hterminal] at hrowEnded
        cases hrowEnded
      · exact absurd (htrue.symm.trans hrowEnded) (by decide)
      · exact .inr ⟨hplatform, .inr ⟨other, hother, hunsaved', hid.trans hrowId⟩⟩

lemma perform
    (horder : state.inOrder (.perform ref fails) = true) : Inv (state.perform ref fails copy) := by
  have hphase := (h.tidy_of_get? hget).phase
  simp only [inOrder, hget, Option.all_some] at horder
  generalize htodo : copy.todo = todo at hphase
  cases hphase with
  | idle =>
    unfold Polling.perform
    rw [htodo]
    exact h
  | claiming hfrom hstatus hbills =>
    refine h.perform_claiming hget htodo hfrom hstatus hbills fun hsuno => ?_
    simpa [htodo, hsuno] using horder
  | writing hfrom hplatform => exact h.perform_writing hget htodo hfrom hplatform
  | won => exact h.perform_won hget htodo
  | refunding hplatform hended =>
    refine h.perform_refunding hget htodo hplatform hended ?_
    simpa [htodo, hplatform] using horder
  | saving hplatform =>
    refine h.perform_saving hget htodo hplatform ?_
    simpa [htodo, hplatform] using horder

/-- The worker comes to an idle copy, which says what to do. -/
lemma visit {visits : Nat} (hidle : copy.todo = [])
    (hid : task.id = copy.task.id) (hplatform : task.platform = copy.task.platform)
    (htidy : (⟨copy.holder, task, visits, todo⟩ : Copy).Tidy)
    (hwon : ∀ adjustment, todo ≠ [.bill adjustment]) :
    Inv (state.setCopy ref ⟨copy.holder, task, visits, todo⟩) := by
  refine h.setCopy hget htidy ⟨hid, hplatform⟩ (not_won_of_todo rfl hwon) fun hunsaved => ?_
  simp [unsaved, hidle] at hunsaved

end

end

end Inv

lemma idleCopy_eq_some (h : state.idleCopy ref = some copy) :
    state.copies[ref]? = some copy ∧ copy.todo = [] := by
  obtain ⟨hget, hidle⟩ := Option.filter_eq_some_iff.mp h
  exact ⟨hget, by simpa using hidle⟩

lemma mem_unfinished (h : task ∈ state.unfinished ids) :
    state.rows.get? task.id = some task ∧ task.ended = false := by
  obtain ⟨hmem, hended⟩ := List.mem_filter.mp h
  obtain ⟨id, -, hget⟩ := List.mem_filterMap.mp hmem
  have hid : task.id = id := key_of_get? hget
  exact ⟨hid ▸ hget, by simpa using hended⟩

lemma terminal_of_not_ended (h : task.ended = false) : task.status.terminal = false := by
  rw [Task.ended, Bool.or_eq_false_iff] at h
  exact h.1

lemma mem_taskM {tasks : List Task} (h : task ∈ (taskM tasks).rows) : task ∈ tasks := by
  have hfold : ∀ (tasks : List Task) (table : Table String Task Task.getUpstreamTaskID),
      task ∈ (tasks.foldl Table.put table).rows → task ∈ table.rows ∨ task ∈ tasks := by
    intro tasks
    induction tasks with
    | nil => exact fun table hmem => .inl hmem
    | cons first rest ih =>
      intro table hmem
      rcases ih _ hmem with hput | hrest
      · rcases mem_put.mp hput with rfl | ⟨hold, -⟩
        · exact .inr List.mem_cons_self
        · exact .inl hold
      · exact .inr (List.mem_cons_of_mem _ hrest)
  exact (hfold tasks .empty h).resolve_left (List.not_mem_nil)

/-! ## The loop bodies -/

lemma updateSuno_cases (item : SunoItem) (task : Task) :
    (updateSuno item task).1.id = task.id ∧ (updateSuno item task).1.platform = task.platform ∧
      ((updateSuno item task).2 = [] ∨ (updateSuno item task).2 = [.save] ∨
        (updateSuno item task).2 = [.bill .refund, .save] ∧
          (updateSuno item task).1.ended = true) := by
  unfold updateSuno
  split_ifs with hneeds
  · refine ⟨rfl, rfl, .inr ?_⟩
    dsimp only
    split_ifs with hfailed
    · refine .inr ⟨rfl, ?_⟩
      have hprogress : (sunoTask task item).progress = "100%" :=
        if_pos (hfailed.imp_right .inl)
      rw [Task.ended, hprogress, decide_eq_true rfl, Bool.or_true]
    · exact .inl rfl
  · exact ⟨rfl, rfl, .inl rfl⟩

lemma videoTask_eq_some {updated : Task} (h : videoTask config now info task = some updated) :
    updated.id = task.id ∧ updated.platform = task.platform ∧ updated.status = info.status ∧
      updated.quota = task.quota := by
  unfold videoTask at h
  dsimp only at h
  split at h
  all_goals first
    | (obtain rfl := Option.some.inj h
       exact ⟨rfl, rfl, rfl, rfl⟩)
    | cases h

lemma videoBills_length_le (answer : VideoAnswer) (info : TaskInfo) (task : Task) :
    (videoBills answer info task).length ≤ 1 := by
  unfold videoBills
  split <;> (try split_ifs) <;> simp

lemma videoBills_eq_nil (answer : VideoAnswer) (task : Task) (h : info.status.terminal = false) :
    videoBills answer info task = [] := by
  unfold videoBills
  split
  · next hsuccess => simp [TaskStatus.terminal, hsuccess] at h
  · next hfailure => simp [TaskStatus.terminal, hfailure] at h
  · rfl

lemma updateVideo_cases (config : PollingConfig) (now : Int) (answer : VideoAnswer)
    (htask : task.status.terminal = false) :
    (updateVideo config now answer task).1.id = task.id ∧
      (updateVideo config now answer task).1.platform = task.platform ∧
      ((updateVideo config now answer task).2 = [] ∨
        (updateVideo config now answer task).2 = [.writeIf task.status] ∨
        ∃ bills, (updateVideo config now answer task).2 = [.saveIf task.status bills] ∧
          bills.length ≤ 1 ∧ (updateVideo config now answer task).1.status.terminal = true) := by
  unfold updateVideo
  cases hresult : answer.taskResult with
  | none => exact ⟨rfl, rfl, .inl rfl⟩
  | some info =>
    dsimp only
    cases hvideo : videoTask config now info { task with data := answer.data } with
    | none => exact ⟨rfl, rfl, .inl rfl⟩
    | some updated =>
      obtain ⟨hid, hplatform, hstatus, -⟩ := videoTask_eq_some hvideo
      dsimp only
      by_cases hterminal : updated.status.terminal = true
      · have hchanged : task.status ≠ updated.status := by
          intro heq
          rw [heq, hterminal] at htask
          cases htask
        rw [if_pos ⟨hterminal, hchanged⟩]
        exact ⟨hid, hplatform, .inr (.inr ⟨_, rfl, videoBills_length_le _ _ _, hterminal⟩)⟩
      · have hnone : videoBills answer info task = [] := by
          apply videoBills_eq_nil
          rw [← hstatus]
          simpa using hterminal
        rw [if_neg fun hdone => hterminal hdone.1, hnone]
        split_ifs
        · exact ⟨hid, hplatform, .inr (.inl rfl)⟩
        · exact ⟨hid, hplatform, .inl rfl⟩

/-! ## Runs -/

section

variable (h : Inv state)

include h

lemma Inv.timeOut : Inv (state.step config (.timeOut ref now)) := by
  unfold step
  dsimp only
  split
  · next task visits todo hidle =>
      obtain ⟨hget, htodo⟩ := idleCopy_eq_some hidle
      obtain hzero | ⟨hone, hstatus⟩ := (h.tidy_of_get? hget).visited rfl
      · cases hzero
      · obtain rfl : visits = 0 := by simpa using hone
        refine h.visit hget htodo rfl rfl ⟨.claiming hstatus rfl ?_, fun _ => .inl rfl⟩ nofun
        split_ifs <;> simp
  · exact h

lemma Inv.sunoItem {item : SunoItem} : Inv (state.step config (.sunoItem ref item)) := by
  unfold step
  dsimp only
  split
  · next task visits todo hidle =>
      obtain ⟨hget, htodo⟩ := idleCopy_eq_some hidle
      split_ifs with hsuno
      · obtain ⟨hid, hplatform, hcases⟩ := updateSuno_cases item task
        have hsuno' := hplatform.trans hsuno
        rcases hcases with hnone | hsave | ⟨hrefund, hended⟩
        · rw [hnone]
          exact h.visit hget htodo hid hplatform ⟨.idle, nofun⟩ nofun
        · rw [hsave]
          exact h.visit hget htodo hid hplatform ⟨.saving hsuno', nofun⟩ nofun
        · rw [hrefund]
          exact h.visit hget htodo hid hplatform ⟨.refunding hsuno' hended, nofun⟩ nofun
      · exact h
  · exact h

lemma Inv.videoAnswer {answer : VideoAnswer}
    (horder : state.inOrder (.videoAnswer ref answer now) = true) :
    Inv (state.step config (.videoAnswer ref answer now)) := by
  unfold step
  dsimp only
  split
  · next task visits todo hidle =>
      obtain ⟨hget, htodo⟩ := idleCopy_eq_some hidle
      split
      · next name hvideo =>
          have hstatus : task.status.terminal = false := by
            simpa [inOrder, hget] using horder
          obtain ⟨hid, hplatform, hcases⟩ := updateVideo_cases config now answer hstatus
          have hother : (updateVideo config now answer task).1.platform ≠ .suno := by
            rw [hplatform, hvideo]
            exact nofun
          rcases hcases with hnone | hwrite | ⟨bills, hsave, hbills, hterminal⟩
          · rw [hnone]
            exact h.visit hget htodo hid hplatform ⟨.idle, nofun⟩ nofun
          · rw [hwrite]
            exact h.visit hget htodo hid hplatform ⟨.writing hstatus hother, nofun⟩ nofun
          · rw [hsave]
            exact h.visit hget htodo hid hplatform ⟨.claiming hstatus hterminal hbills, nofun⟩ nofun
      · exact h
  · exact h

lemma Inv.bulkFail {failReason : Option String} :
    Inv (state.step config (.bulkFail ids failReason)) := by
  have hfold : ∀ (rows : List Task) (state : Polling), Inv state →
      (∀ row ∈ rows, ∃ old, state.rows.get? row.id = some old ∧ old.platform = row.platform) →
      Inv (rows.foldl (fun state row => state.writeRow (bulkFailed failReason row)) state) := by
    intro rows
    induction rows with
    | nil => exact fun state h _ => h
    | cons row rest ih =>
      intro state h hrows
      obtain ⟨old, hold, hplatform⟩ := hrows row List.mem_cons_self
      refine ih _ (h.writeRow hold hplatform.symm fun _ => .inl rfl) ?_
      -- the rows that are still to be written keep their platform
      intro other hmem
      obtain ⟨old', hold', hplatform'⟩ := hrows other (List.mem_cons_of_mem _ hmem)
      by_cases hid : row.id = other.id
      · rw [← hid, hold] at hold'
        obtain rfl := Option.some.inj hold'
        refine ⟨bulkFailed failReason row, ?_, hplatform.symm.trans hplatform'⟩
        rw [← hid]
        exact get?_put_self state.rows (bulkFailed failReason row)
      · refine ⟨old', ?_, hplatform'⟩
        rw [← hold']
        show (state.rows.put (bulkFailed failReason row)).get? other.id = _
        exact get?_put_of_ne state.rows hid
  refine hfold _ state h fun row hmem => ?_
  obtain ⟨id, -, hget⟩ := List.mem_filterMap.mp hmem
  have hid : row.id = id := key_of_get? hget
  exact ⟨row, hid ▸ hget, rfl⟩

lemma Inv.step {move : PollingStep} (horder : state.inOrder move = true) :
    Inv (state.step config move) := by
  cases move with
  | sweep now ids =>
    unfold Polling.step
    split_ifs
    · exact h
    · refine h.append fun copy hmem => ?_
      obtain ⟨task, htask, rfl⟩ := List.mem_map.mp hmem
      obtain ⟨hrow, hended⟩ := mem_unfinished (List.mem_filter.mp htask).1
      exact ⟨rfl, ⟨.idle, fun _ => .inr ⟨rfl, terminal_of_not_ended hended⟩⟩, task, hrow, rfl⟩
  | poll platform ids =>
    refine h.append fun copy hmem => ?_
    obtain ⟨task, htask, rfl⟩ := List.mem_map.mp hmem
    have hfound := (List.mem_filter.mp (mem_taskM htask)).1
    obtain ⟨hrow, -⟩ := mem_unfinished (List.mem_filter.mp hfound).1
    exact ⟨rfl, ⟨.idle, by simp⟩, task, hrow, rfl⟩
  | timeOut ref now => exact h.timeOut
  | sunoItem ref item => exact h.sunoItem
  | videoAnswer ref answer now => exact h.videoAnswer horder
  | perform ref fails =>
    unfold Polling.step
    dsimp only
    split
    · next copy hget => exact h.perform hget horder
    · exact h
  | bulkFail ids failReason => exact h.bulkFail

end

end Polling

open Polling in
/-- Refunds and settlements take effect at most once for each task row, for any number of workers
and any answers, in every run whose steps are in order. -/
theorem task_billed_at_most_once (config : PollingConfig) (rows : Table Int Task Task.id)
    (moves : List PollingStep)
    (hmoves : Along (step config) (fun state move => state.inOrder move = true)
      ⟨rows, [], []⟩ moves) (id : Int) :
    (exec (step config) ⟨rows, [], []⟩ moves).effects.count id ≤ 1 := by
  have hstart : Inv ⟨rows, [], []⟩ := by
    constructor
    case tidy => exact List.forall_mem_nil _
    case stored => exact List.forall_mem_nil _
    case once => exact fun _ => Nat.zero_le _
    case fresh => exact List.forall_mem_nil _
    case unique =>
      intro i j copy other hcopy
      cases hcopy
    case secured =>
      rintro id (heffect | ⟨copy, hcopy, -⟩)
      · cases heffect
      · cases hcopy
  exact (exec_induction Inv (fun state move h horder => h.step horder) hstart hmoves).once id

/-- A Suno task that is in progress. -/
def sunoSampleTask : Task :=
  { packageTask with platform := .suno, status := .inProgress, submitTime := 1750000000 }

/-- The sample video task, and another one with the same upstream id on another channel. -/
def videoSampleTasks : List Task := [packageTask, { packageTask with id := 2, channelId := 2 }]

def samplePolling : PollingConfig := ⟨60, "https://localhost"⟩

def failedItem : SunoItem := ⟨.failure, "failed", 1750000000, 0, 0, []⟩

def failedAnswer : VideoAnswer := ⟨⟨.failure, "failed", "", "", 0⟩, .unrecognized, [], 0, 0⟩

/-- A poller and two sweepers have read one Suno task, and one of the sweepers is first. The other
finds that the status has changed, and the poller does not get an answer. -/
def sweptTwice : List PollingStep :=
  [.poll .suno [1], .sweep 1750010000 [1], .sweep 1750010001 [1], .timeOut 1 1750010000,
    .timeOut 2 1750010001, .perform 1 false, .perform 1 false]

theorem sweptTwice_billed_at_most_once :
    (exec (Polling.step samplePolling)
      ⟨Table.empty.put sunoSampleTask, [], []⟩ sweptTwice).effects.count 1 ≤ 1 :=
  task_billed_at_most_once samplePolling (Table.empty.put sunoSampleTask) sweptTwice (by decide) 1

/-- Two tasks that are refunded twice. A poller of Suno tasks refunds on an old copy, after a
sweeper has ended and refunded the task. And one video task is visited for two channels on which its
upstream id is in use, so that the second answer is not guarded. -/
theorem suno_task_refunded_twice :
    (exec (Polling.step samplePolling) ⟨Table.empty.put sunoSampleTask, [], []⟩
      (sweptTwice ++ [.sunoItem 0 failedItem, .perform 0 false, .perform 0 false])).effects =
        [1, 1] ∧
    (exec (Polling.step samplePolling) ⟨videoSampleTasks.foldl Table.put Table.empty, [], []⟩
      [.poll (.video "kling") [1, 2], .videoAnswer 0 failedAnswer 2002, .perform 0 false,
        .perform 0 false, .videoAnswer 0 failedAnswer 2003, .perform 0 false]).effects =
        [2, 2] := by
  decide

end Yunbay
