import TgsRl.Validation
import TgsRl.Versions

/-!
The names of allocations. Rebinds, recreations and preemptions look for the name of their new
allocation in the snapshot; an admission compares the names of its bindings only with each other,
and one that reuses a binding leaves a snapshot that every later evaluation refuses.
-/
namespace TgsRl.Naming
open Resources Messages State Loops Intents Reservations Drafts Settlements Frames Versions Validation

variable {F : Type} [Platform F] [DecidableEq F]

def Distinct (snapshot : ClusterSnapshot F) : Prop := (snapshot.allocations.map Allocation.allocationId).Nodup

instance (snapshot : ClusterSnapshot F) : Decidable (Distinct snapshot) :=
  inferInstanceAs (Decidable (snapshot.allocations.map Allocation.allocationId).Nodup)

def Renames (s : Store F) (op : Op F × Int) : Prop :=
  match op with
  | (.reserve plan,now) => (reservePlan s plan now).err = none → Unbound s.snapshot plan
  | _ => True

variable {before : ClusterSnapshot F} {plan : PlacementPlan F} {devices : List (Device F)} {allocations : List (Allocation F)}
  {ids : List String} {s : Store F}

theorem drafted_admission_names (drafted : Drafted before plan devices allocations ids)
    (admission : isMutationPurpose (effectivePlanPurpose plan) = false) :
    allocations.map Allocation.allocationId = before.allocations.map Allocation.allocationId ++
      plan.bindings.map (fun binding => allocationID F binding.bindingId) := by
  have single : ¬ ActionPurpose plan := by
    intro purpose
    have mutates := purpose.1
    rw [admission] at mutates
    cases mutates
  cases drafted with
  | admission now admitted purpose loop =>
    obtain ⟨fresh,news,appended,_,_⟩ := admitBinding_loop loop
    rw [appended,List.map_append,fresh_names news]
  | preemption parts victims fresh purpose => rw [purpose] at admission; cases admission
  | lifecycle ids purpose => exact absurd purpose single
  | release action a purpose => exact absurd purpose single
  | keepSize action a size purpose => exact absurd purpose single
  | resize action a size current purpose => exact absurd purpose single
  | rebind action a fresh binding size purpose => exact absurd purpose single
  | recreate action a fresh binding size purpose => exact absurd purpose single

theorem drafted_distinct_iff (drafted : Drafted before plan devices allocations ids)
    (distinct : (before.allocations.map Allocation.allocationId).Nodup) :
    (allocations.map Allocation.allocationId).Nodup ↔ Unbound before plan := by
  constructor
  · intro names admission binding member shared
    rw [drafted_admission_names drafted admission,List.nodup_append] at names
    exact names.2.2 _ shared _ (List.mem_map_of_mem member) rfl
  · intro unbound
    exact drafted_distinct drafted unbound distinct

theorem reserve_distinct_iff {now : Int} (distinct : Distinct s.snapshot) :
    Distinct (perform s (.reserve plan,now)).snapshot ↔ Renames s (.reserve plan,now) := by
  simp only [perform,Renames]
  cases outcome : (reservePlan s plan now).err with
  | some err =>
    rw [reservePlan_refused outcome]
    simp [distinct]
  | none =>
    obtain ⟨_,ids,reservation,accepted⟩ := reservePlan_accepted outcome
    rw [Distinct,drafted_distinct_iff accepted.drafted distinct]
    simp

theorem publish_distinct (intent : SchedulingIntent F) (now : Int) (distinct : Distinct s.snapshot) :
    Distinct (perform s (.publish intent,now)).snapshot := by
  simp only [perform,Distinct]
  obtain ⟨_,same⟩ | ⟨_,published,_⟩ := publishIntent_outcome s intent now
  · rw [same]
    exact distinct
  · rw [published,publishedSnapshot_names]
    exact distinct

theorem finalize_distinct (plan : PlacementPlan F) (succeeded : Bool) (results : List (Option ActionResult)) (now : Int)
    (distinct : Distinct s.snapshot) : Distinct (perform s (.finalize plan succeeded results,now)).snapshot := by
  simp only [perform]
  cases outcome : finalizePlanResults s plan succeeded results now with
  | error err => exact distinct
  | ok next =>
    obtain ⟨reservation,_,same,⟨_,rfl | rfl⟩ | ⟨_,working,settled,done⟩⟩ := finalizePlanResults_cases outcome
    · exact distinct
    · exact distinct
    · rw [Distinct,done.allocations]
      exact distinct.sublist (settlement_descends same settled).names

theorem perform_distinct_iff (r : Readings F) (s : Store F) (op : Op F × Int) (distinct : Distinct s.snapshot) :
    (Distinct (perform s op).snapshot ∧ ∀ i, validateSnapshot r (perform s op).snapshot ≠ .error (repeated i)) ↔
      Renames s op := by
  have names : Distinct (perform s op).snapshot ↔ Renames s op := by
    obtain ⟨op,now⟩ := op
    cases op with
    | publish intent => simp only [publish_distinct intent now distinct,Renames]
    | reserve plan => exact reserve_distinct_iff distinct
    | finalize plan succeeded results => simp only [finalize_distinct plan succeeded results now distinct,Renames]
  rw [← names,and_iff_left_iff_imp]
  exact validateSnapshot_distinct r

/-- Along a run from distinct names every snapshot has distinct names, and none is refused for a repeated one, exactly if
    every accepted admission brings new names. -/
theorem distinct_along_iff (r : Readings F) {s : Store F} (ops : List (Op F × Int)) (distinct : Distinct s.snapshot) :
    (∀ before op after, ops = before ++ op :: after →
        Distinct (perform (run perform s before) op).snapshot ∧
          ∀ i, validateSnapshot r (perform (run perform s before) op).snapshot ≠ .error (repeated i)) ↔
      Guarded perform Renames s ops :=
  along_iff_guarded (perform_distinct_iff r)
    (fun s op distinct renames => ((perform_distinct_iff r s op distinct).mpr renames).1) distinct ops

/-- Whole accelerator units, no annotations, and capability sets without faults. -/
def plainReadings : Readings Int := ⟨fun a b => decide (a ≤ b),fun _ => [],fun _ => "",fun _ => none⟩

/-- The admissions of two units, each with its binding. -/
def admissions (first second : String) : List (Op Int × Int) :=
  [(.publish Intents.twoUnits,0),
    (.reserve (Intents.admissionOf "p" 2 (Intents.bindingOf first (pendingUnitID Intents.twoUnits 0) "y")),0),
    (.finalize (Intents.admissionOf "p" 2 (Intents.bindingOf first (pendingUnitID Intents.twoUnits 0) "y")) true [],0),
    (.reserve (Intents.admissionOf "q" 4 (Intents.bindingOf second (pendingUnitID Intents.twoUnits 1) "w")),0)]

/-- Two bindings with two names: both are admitted, and the names are distinct. -/
theorem distinct_along_iff_two_names :
    ((run perform Intents.oneDevice (admissions "b" "c")).snapshot.allocations.map Allocation.allocationId).length = 2 ∧
      ∀ before op after, admissions "b" "c" = before ++ op :: after →
        Distinct (perform (run perform Intents.oneDevice before) op).snapshot ∧ ∀ i,
          validateSnapshot plainReadings (perform (run perform Intents.oneDevice before) op).snapshot ≠
            .error (repeated i) := by
  have new : Unbound (run perform Intents.oneDevice ((admissions "b" "c").take 1)).snapshot
        (Intents.admissionOf "p" 2 (Intents.bindingOf "b" (pendingUnitID Intents.twoUnits 0) "y")) ∧
      Unbound (run perform Intents.oneDevice ((admissions "b" "c").take 3)).snapshot
        (Intents.admissionOf "q" 4 (Intents.bindingOf "c" (pendingUnitID Intents.twoUnits 1) "w")) := by decide
  exact ⟨by decide,(distinct_along_iff plainReadings (admissions "b" "c") (by decide)).mpr
    ⟨trivial,fun _ => new.1,trivial,fun _ => new.2,trivial⟩⟩

/-- The second admission reuses the binding of the first: it is accepted, and the planner refuses the snapshot. -/
theorem admission_repeats_name :
    Distinct Intents.oneDevice.snapshot ∧ ¬ Distinct (run perform Intents.oneDevice (admissions "b" "b")).snapshot ∧
      validateSnapshot plainReadings (run perform Intents.oneDevice ((admissions "b" "b").take 3)).snapshot = .ok () ∧
      validateSnapshot plainReadings (run perform Intents.oneDevice (admissions "b" "b")).snapshot =
        .error (repeated 1) := by
  refine ⟨by decide,by decide,?_,?_⟩
  · decide
  · decide

end TgsRl.Naming
