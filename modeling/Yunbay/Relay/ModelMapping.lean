import Mathlib.Tactic

/-!
# Model redirection

`ModelMappedHelper` follows the model mapping of a channel from the requested model to the end of
the chain. The mode of responses compaction, which rewrites the names, is left out.
-/

namespace Yunbay

open Relation

variable (modelMap : List (String × String)) (originModel : String)

/-- The loop of `ModelMappedHelper`: the last `currentModel`, and whether the model is mapped. The
return from a model that is mapped to itself leaves both as they were. -/
def redirect (isModelMapped : Bool) (currentModel : String) (visitedModels : Finset String) :
    Except String (String × Bool) :=
  match _hmapped : modelMap.lookup currentModel with
  | none => .ok (currentModel, isModelMapped)
  | some mappedModel =>
    if mappedModel = "" then .ok (currentModel, isModelMapped)
    else if _hvisited : mappedModel ∈ visitedModels then
      if mappedModel = currentModel then
        if currentModel = originModel then .ok (currentModel, false) else .ok (currentModel, true)
      else .error "model_mapping_contains_cycle"
    else redirect true mappedModel (insert mappedModel visitedModels)
termination_by ((modelMap.map (·.2)).toFinset \ visitedModels).card
decreasing_by
  obtain ⟨_, _, hmap, -⟩ := List.lookup_eq_some_iff.mp _hmapped
  refine Finset.card_lt_card (Finset.ssubset_iff_of_subset ?_ |>.mpr ⟨mappedModel, ?_, by simp⟩)
  · exact Finset.sdiff_subset_sdiff subset_rfl (Finset.subset_insert _ _)
  · simp [hmap, _hvisited]

/-- `ModelMappedHelper` after `InitChannelMeta`: the upstream model, and whether it is mapped. -/
def modelMappedHelper : Except String (String × Bool) :=
  (redirect modelMap originModel false originModel {originModel}).map
    fun (currentModel, isModelMapped) =>
      (if isModelMapped then currentModel else originModel, isModelMapped)

/-! ## The walk -/

/-- The walk goes on from a name that is mapped, not to the empty string and not to itself. -/
def Redirects (name target : String) : Prop :=
  modelMap.lookup name = some target ∧ target ≠ "" ∧ target ≠ name

/-- The walk from the requested model stops at `name`. -/
def StopsAt (name : String) : Prop :=
  ReflTransGen (Redirects modelMap) originModel name ∧ ∀ target, ¬Redirects modelMap name target

/-- The walk from the requested model comes back to an earlier name. -/
def ComesBack : Prop :=
  ∃ name, ReflTransGen (Redirects modelMap) originModel name ∧
    TransGen (Redirects modelMap) name name

variable {modelMap originModel} {name : String}

/-- A walk that stops does not come back. -/
lemma StopsAt.not_comesBack (h : StopsAt modelMap originModel name) :
    ¬ComesBack modelMap originModel := by
  have hunique {name a b : String} (ha : Redirects modelMap name a)
      (hb : Redirects modelMap name b) : a = b := Option.some.inj (ha.1.symm.trans hb.1)
  obtain ⟨hreaches, hstops⟩ := h
  -- from the end of the walk backwards
  induction hreaches using ReflTransGen.head_induction_on with
  | refl =>
    rintro ⟨earlier, hto, hback⟩
    rcases hto.cases_head with rfl | ⟨next, hnext, -⟩
    · obtain ⟨next, hnext, -⟩ := TransGen.head'_iff.mp hback
      exact hstops next hnext
    · exact hstops next hnext
  | head hstep _ ih =>
    rintro ⟨earlier, hto, hback⟩
    rcases hto.cases_head with rfl | ⟨next, hnext, hto⟩
    · obtain ⟨next, hnext, hto⟩ := TransGen.head'_iff.mp hback
      exact ih ⟨_, .refl, .tail' (hunique hnext hstep ▸ hto) hstep⟩
    · exact ih ⟨earlier, hunique hnext hstep ▸ hto, hback⟩

/-- The loop has visited the requested model, the current one and names on the way to it. -/
lemma redirect_spec {isModelMapped : Bool} {current : String} {visited : Finset String}
    (hmapped : isModelMapped = decide (current ≠ originModel))
    (horigin : originModel ∈ visited) (hcurrent : current ∈ visited)
    (hvisited : ∀ earlier ∈ visited, ReflTransGen (Redirects modelMap) originModel earlier ∧
      ReflTransGen (Redirects modelMap) earlier current) :
    (ComesBack modelMap originModel ∧ redirect modelMap originModel isModelMapped current visited =
      .error "model_mapping_contains_cycle") ∨
    ∃ name, StopsAt modelMap originModel name ∧
      redirect modelMap originModel isModelMapped current visited =
        .ok (name, decide (name ≠ originModel)) := by
  fun_induction redirect modelMap originModel isModelMapped current visited with
  | case1 | case2 | case3 | case4 =>
    exact .inr ⟨_, ⟨(hvisited _ hcurrent).1, by simp [Redirects, *]⟩, by simp [*]⟩
  | case5 isModelMapped current visited mapped hlookup hempty hmem hne =>
    obtain ⟨hfrom, hto⟩ := hvisited _ hmem
    exact .inl ⟨⟨mapped, hfrom, .tail' hto ⟨hlookup, hempty, hne⟩⟩, rfl⟩
  | case6 isModelMapped current visited mapped hlookup hempty hmem ih =>
    have hstep : Redirects modelMap current mapped :=
      ⟨hlookup, hempty, fun h => hmem (h ▸ hcurrent)⟩
    refine ih ?_ (Finset.mem_insert_of_mem horigin) (Finset.mem_insert_self _ _) ?_
    · simp [show mapped ≠ originModel from fun h => hmem (h ▸ horigin)]
    · simp only [Finset.forall_mem_insert]
      refine ⟨⟨(hvisited _ hcurrent).1.tail hstep, .refl⟩, fun earlier h => ?_⟩
      exact ⟨(hvisited _ h).1, (hvisited _ h).2.tail hstep⟩

/-- The loop returns the error exactly if the walk comes back; otherwise the upstream model is the
name where the walk stops. -/
theorem redirection_follows_chain (modelMap : List (String × String)) (originModel : String) :
    (modelMappedHelper modelMap originModel = .error "model_mapping_contains_cycle" ↔
      ComesBack modelMap originModel) ∧
    (¬ComesBack modelMap originModel → ∃ name, StopsAt modelMap originModel name ∧
      modelMappedHelper modelMap originModel = .ok (name, decide (name ≠ originModel))) := by
  rw [modelMappedHelper]
  rcases @redirect_spec modelMap originModel false originModel {originModel} (by simp) (by simp)
    (by simp) (by simp [ReflTransGen.refl]) with ⟨hback, hresult⟩ | ⟨name, hstops, hresult⟩
  · rw [hresult]
    exact ⟨iff_of_true rfl hback, absurd hback⟩
  · rw [hresult]
    refine ⟨iff_of_false nofun hstops.not_comesBack, fun _ => ⟨name, hstops, ?_⟩⟩
    by_cases h : name = originModel <;> simp [h, Except.map]

end Yunbay
