import ApiCatalog.Import.Plans
import ApiCatalog.Proofs.Ordered
import ApiCatalog.Proofs.Task
import ApiCatalog.Proofs.Upsert

/-! # What importing plans leaves

The import of plans does not fail, and is an upsert of the open plans by the entries of the
definition. An entry that creates a closed plan does not find it again, so that a second import of
the same entries creates the closed plans once more.
-/

namespace ApiCatalog

def planUpsert (apiId : String) : Upsert Plan PlanEntry PlanKey where
  id := Plan.id
  mark := "plan~"
  key := PlanEntry.key
  isAbout entry plan := plan.apiId == apiId && (plan.isOpen && plan.key == entry.key)
  revise entry plan := plan.revise entry.name entry.terms
  create id entry := .ofEntry id apiId entry
  id_revise _ _ := rfl
  id_create _ _ := rfl
  isAbout_revise {entry plan} entry' h := by
    simp only [Bool.and_eq_true, beq_iff_eq] at h
    have hname : plan.name = entry.name := congrArg PlanKey.name h.2.2
    simp [Plan.revise, Plan.isOpen, Plan.key, hname]
  key_eq {entry entry' plan} h h' := by
    simp only [Bool.and_eq_true, beq_iff_eq] at h h'
    exact h.2.2.symm.trans h'.2.2
  key_eq_create {entry entry' id} h := by
    simp only [Bool.and_eq_true, beq_iff_eq] at h
    exact h.2.2.symm
  revise_revise _ _ := rfl
  revise_create _ _ := rfl

/-- What tells open plans apart: the API and the key. -/
def Plan.address (plan : Plan) : String × PlanKey := (plan.apiId, plan.key)

theorem keyed_planUpsert (apiId : String) :
    (planUpsert apiId).Keyed Plan.isOpen Plan.address fun entry => (apiId, entry.key) where
  isAbout_iff entry plan := by
    simp only [planUpsert, Plan.address, Bool.and_eq_true, beq_iff_eq, Prod.mk.injEq]
    exact and_left_comm
  keyOf_create _ _ := rfl
  key_eq_iff := by simp [planUpsert]

/-- An entry is about the plan that it creates unless that is closed. -/
theorem isAbout_create_plan (apiId id : String) (entry : PlanEntry) :
    (planUpsert apiId).isAbout entry ((planUpsert apiId).create id entry) =
      (entry.status != .closed) := by
  simp [planUpsert, Plan.ofEntry, Plan.isOpen, Plan.key, PlanEntry.key]

namespace PlanStep

variable {apiId : String} {store : Store} {old : List Plan}

def after (apiId : String) (store : Store) : PlanStep → Store
  | update id entry => store.withPlan id entry.name entry.terms
  | create entry => store.withNewPlan apiId entry

def Ready (store : Store) : PlanStep → Prop
  | update id _ => id ∈ store.plans.map (·.id)
  | create _ => True

theorem ready_after {step : PlanStep} (h : step.Ready store) (step' : PlanStep) :
    step.Ready (step'.after apiId store) := by
  cases step with
  | create _ => exact trivial
  | update id entry =>
    cases step' with
    | create entry' =>
      rw [Ready, after, Store.withNewPlan, Store.countWrite, List.map_append]
      exact List.mem_append_left _ h
    | update id' entry' =>
      rw [Ready, after, Store.planIds_withPlan]
      exact h

theorem gives_run {step : PlanStep} (h : step.Ready store) :
    (step.run apiId).Gives store () (step.after apiId store) := by
  cases step with
  | create entry =>
    exact (CatalogM.Gives.onStore (Store.createPlan_eq apiId entry store)).bind
      (CatalogM.Gives.count _ _ _)
  | update id entry =>
    obtain ⟨plan, hplan, rfl⟩ := List.mem_map.mp h
    obtain ⟨found, hfound⟩ : ∃ found, store.plan? plan.id = some found :=
      Option.isSome_iff_exists.mp (List.find?_isSome.mpr ⟨plan, hplan, by simp⟩)
    have hupdate := Store.updatePlan_eq plan.id entry.name entry.terms store
    rw [hfound] at hupdate
    exact (CatalogM.Gives.onStore hupdate).bind (CatalogM.Gives.count _ _ _)

theorem find?_plans_of_api (entry : PlanEntry) :
    ((old.filter (·.apiId == apiId)).find? fun plan => plan.isOpen && plan.key == entry.key) =
      old.find? ((planUpsert apiId).isAbout entry) := by
  rw [List.find?_filter]
  congr 1
  funext plan
  simp [planUpsert, Bool.beq_eq_decide_eq]

theorem foldl_after_plan (old : List Plan) (entries : List PlanEntry) (store : Store) :
    (entries.map (plan (old.filter (·.apiId == apiId)))).foldl (after apiId) store =
      { store with
        plans := entries.foldl ((planUpsert apiId).step old) store.plans }.countWrite fun n =>
        { n with
          planCreates := n.planCreates + entries.countP ((planUpsert apiId).isNew old)
          planUpdates := n.planUpdates + entries.countP (!(planUpsert apiId).isNew old ·) } := by
  induction entries generalizing store with
  | nil => rfl
  | cons entry entries ih =>
    rw [List.map_cons, List.foldl_cons, ih, List.foldl_cons, List.countP_cons, List.countP_cons,
      plan, find?_plans_of_api, Upsert.step, Upsert.isNew]
    cases old.find? ((planUpsert apiId).isAbout entry) with
    | none =>
      simp [after, Store.withNewPlan, Store.countWrite, Nat.add_assoc, Nat.add_comm 1]
      rfl
    | some plan =>
      simp [after, Store.withPlan, Store.countWrite, Nat.add_assoc, Nat.add_comm 1]
      rfl

theorem ready_plan (entry : PlanEntry) : (plan (store.plansOf apiId) entry).Ready store := by
  unfold plan
  split
  · rename_i plan hplan
    exact List.mem_map_of_mem (List.mem_of_mem_filter (List.mem_of_find?_eq_some hplan))
  · exact trivial

end PlanStep

namespace Store

def withPlans (store : Store) (apiId : String) (entries : List PlanEntry) : Store :=
  { store with
    plans := (planUpsert apiId).run store.plans (firsts PlanEntry.key entries) }.countWrite fun n =>
    { n with
      planCreates :=
        n.planCreates +
          (firsts PlanEntry.key entries).countP ((planUpsert apiId).isNew store.plans)
      planUpdates :=
        n.planUpdates +
          (firsts PlanEntry.key entries).countP (!(planUpsert apiId).isNew store.plans ·) }

/-- The plans that entries create where they find no open plan of their key. -/
def newPlans (store : Store) (apiId : String) (entries : List PlanEntry) : List Plan :=
  (planUpsert apiId).created (store.plans.map (·.id))
    ((firsts PlanEntry.key entries).filter ((planUpsert apiId).isNew store.plans))

theorem length_newPlans (store : Store) (apiId : String) (entries : List PlanEntry) :
    (store.newPlans apiId entries).length =
      (firsts PlanEntry.key entries).countP ((planUpsert apiId).isNew store.plans) := by
  rw [newPlans, Upsert.length_created, List.countP_eq_length_filter]

theorem isNew_plan_iff {store : Store} {apiId : String} {entry : PlanEntry} :
    (planUpsert apiId).isNew store.plans entry = true ↔
      ∀ plan ∈ store.plansOf apiId, plan.isOpen = true → plan.key ≠ entry.key := by
  rw [Upsert.isNew, Option.isNone_iff_eq_none, List.find?_eq_none]
  simp [planUpsert, plansOf]

theorem keys_newPlans (store : Store) (apiId : String) (entries : List PlanEntry) :
    (store.newPlans apiId entries).map Plan.key =
      ((firsts PlanEntry.key entries).filter ((planUpsert apiId).isNew store.plans)).map
        PlanEntry.key :=
  (planUpsert apiId).map_created (fun _ _ => rfl) _ _

theorem nodup_keys_newPlans (store : Store) (apiId : String) (entries : List PlanEntry) :
    ((store.newPlans apiId entries).map Plan.key).Nodup := by
  rw [keys_newPlans]
  exact (nodup_map_firsts PlanEntry.key entries).sublist (List.filter_sublist.map _)

theorem mem_keys_newPlans_iff {store : Store} {apiId : String} {entries : List PlanEntry}
    {key : PlanKey} :
    key ∈ (store.newPlans apiId entries).map Plan.key ↔
      key ∈ entries.map PlanEntry.key ∧
        ∀ plan ∈ store.plansOf apiId, plan.isOpen = true → plan.key ≠ key := by
  rw [keys_newPlans, ← mem_map_firsts PlanEntry.key entries]
  constructor
  · intro h
    obtain ⟨entry, hentry, rfl⟩ := List.mem_map.mp h
    obtain ⟨hfirst, hnew⟩ := List.mem_filter.mp hentry
    exact ⟨List.mem_map_of_mem hfirst, isNew_plan_iff.mp hnew⟩
  · rintro ⟨h, hnew⟩
    obtain ⟨entry, hentry, rfl⟩ := List.mem_map.mp h
    exact List.mem_map_of_mem (List.mem_filter.mpr ⟨hentry, isNew_plan_iff.mpr hnew⟩)

theorem mem_newPlans {store : Store} {apiId : String} {entries : List PlanEntry} {plan : Plan}
    (h : plan ∈ store.newPlans apiId entries) :
    ∃ entry ∈ firsts PlanEntry.key entries, ∃ id,
      (planUpsert apiId).isNew store.plans entry = true ∧ plan = .ofEntry id apiId entry := by
  obtain ⟨entry, hentry, id, rfl⟩ := (planUpsert apiId).mem_created h
  obtain ⟨hfirst, hnew⟩ := List.mem_filter.mp hentry
  exact ⟨entry, hfirst, id, hnew, rfl⟩

theorem status_of_isNew_again {store old : Store} {apiId : String} {entries : List PlanEntry}
    (hrun : store.plans = (planUpsert apiId).run old.plans (firsts PlanEntry.key entries))
    (hold : (old.plans.map (·.id)).Nodup) {entry : PlanEntry}
    (hentry : entry ∈ firsts PlanEntry.key entries)
    (hnew : (planUpsert apiId).isNew store.plans entry = true) : entry.status = .closed := by
  have hid : ((planUpsert apiId).ids old.plans).Nodup := hold
  obtain ⟨id, hcreate⟩ := Upsert.not_isAbout_create_of_isNew_run hid
    (nodup_map_firsts PlanEntry.key entries) hentry (hrun ▸ hnew)
  rw [isAbout_create_plan] at hcreate
  simpa using hcreate

/-- Of the plans that were imported once, those that are not found again are created again. -/
theorem withPlans_again {store old : Store} {apiId : String} {entries : List PlanEntry}
    (hrun : store.plans = (planUpsert apiId).run old.plans (firsts PlanEntry.key entries))
    (hold : (old.plans.map (·.id)).Nodup) :
    store.withPlans apiId entries =
      { store with plans := store.plans ++ store.newPlans apiId entries }.countWrite fun n =>
        { n with
          planCreates := n.planCreates + (store.newPlans apiId entries).length
          planUpdates :=
            n.planUpdates + ((entries.map PlanEntry.key).toFinset.card -
              (store.newPlans apiId entries).length) } := by
  have hid : ((planUpsert apiId).ids old.plans).Nodup := hold
  have hagain := Upsert.run_run hid (nodup_map_firsts PlanEntry.key entries)
  rw [← hrun] at hagain
  have hfound : (firsts PlanEntry.key entries).countP (!(planUpsert apiId).isNew store.plans ·) =
      (entries.map PlanEntry.key).toFinset.card - (store.newPlans apiId entries).length := by
    rw [length_newPlans, ← length_firsts,
      (firsts PlanEntry.key entries).length_eq_countP_add_countP
        ((planUpsert apiId).isNew store.plans), Nat.add_sub_cancel_left]
    simp
  have hcreated : (firsts PlanEntry.key entries).countP ((planUpsert apiId).isNew store.plans) =
      (store.newPlans apiId entries).length := (length_newPlans store apiId entries).symm
  simp only [withPlans, hfound, hcreated, hagain]
  rfl

end Store

theorem gives_importPlans (apiId : String) (entries : List PlanEntry) (store : Store) :
    (importPlans apiId entries).Gives store () (store.withPlans apiId entries) := by
  refine (CatalogM.Gives.fromStore _ store).bind ?_
  have hsteps := CatalogM.Gives.forM (PlanStep.after apiId) (fun step store => step.Ready store)
    (fun _ _ h => PlanStep.gives_run h) (fun step _ _ h => PlanStep.ready_after h step)
    (planSteps store apiId entries) fun step hstep => by
      obtain ⟨entry, _, rfl⟩ := List.mem_map.mp hstep
      exact PlanStep.ready_plan entry
  rwa [planSteps, Store.plansOf, PlanStep.foldl_after_plan] at hsteps

end ApiCatalog
