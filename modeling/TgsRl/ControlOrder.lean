import TgsRl.Controls

/-!
What the ledger of the control requests keeps over every run of the backend: each of its
records stems from a preparation, an accepted one is in the file as well, and a committed
annotation is that of an accepted record (`Ledgered`). So what is reported of a bundle is
the accepted request with the highest revision (`reported_cases`).
-/
namespace TgsRl.Controls
open State Loops Durable Outcomes

abbrev ControlRecord.mutations (record : ControlRecord) : List JobControlMutation :=
  record.targetProgress.map ControlTargetProgress.mutation

/-- A prepared request targets the Jobs of distinct bundles, at the generation each of its targets there expects. -/
structure Located (prepared : Preparation) : Prop where
  positive : 0 < prepared.revision
  keys : prepared.record.bundleKeys = prepared.found.map BundleControlMatch.key
  distinct : (prepared.found.map BundleControlMatch.key).Nodup
  objects : prepared.record.targetProgress.map (fun progress => progress.mutation.object) =
    prepared.found.map BundleControlMatch.job
  targets : ∀ found ∈ prepared.found, found.targets ≠ [] ∧ ∀ target ∈ found.targets,
    target ∈ prepared.record.request.targets ∧ target.name ∈ found.bundle.runtimeTargets.map RuntimeTarget.name ∧
      target.expectedGeneration = found.bundle.generation
  covered : ∀ target ∈ prepared.record.request.targets, ∃ found ∈ prepared.found, target ∈ found.targets

theorem Located.objects_nodup {prepared : Preparation} (located : Located prepared) :
    (prepared.record.mutations.map JobControlMutation.object).Nodup := by
  have jobs : (prepared.found.map BundleControlMatch.job).Nodup := by
    refine List.pairwise_map.mpr ((List.pairwise_map.mp located.distinct).imp ?_)
    exact fun apart same => apart (congrArg JobName.bundleKey same)
  rw [List.map_map]
  exact located.objects ▸ jobs

/-- The record is that of the preparation, with its targets and its result brought on. -/
structure Traces (prepared : Preparation) (record : ControlRecord) : Prop where
  request : record.request = prepared.record.request
  bundleKeys : record.bundleKeys = prepared.record.bundleKeys
  revision : record.result.backendRevision = prepared.revision
  targets : record.mutations = prepared.record.mutations
  closed : record.pending = false → record.result.accepted = true ∧
    ∀ progress ∈ record.targetProgress, progress.state = .completed

variable {targets : List ControlTarget} {entry : String × Marker} {markers : Map String Marker} {start : Server}
  {other : String}

theorem BundleControlMatch.of_some {found : BundleControlMatch} (made : BundleControlMatch.of targets entry = some found) :
    found.key = entry.1 ∧ found.bundle = entry.2.bundle ∧
      found.targets ≠ [] ∧ ∀ target ∈ found.targets, target ∈ targets ∧
        target.name ∈ entry.2.bundle.runtimeTargets.map RuntimeTarget.name := by
  unfold BundleControlMatch.of at made
  dsimp only at made
  split at made
  · cases made
  next some =>
    cases made
    refine ⟨rfl,rfl,some,?_⟩
    intro target member
    exact ⟨List.mem_of_mem_filter member,by simpa using (List.mem_filter.mp member).2⟩

theorem BundleControlMatch.of_mem {target : ControlTarget} (requested : target ∈ targets)
    (name : target.name ∈ entry.2.bundle.runtimeTargets.map RuntimeTarget.name) :
    ∃ found, BundleControlMatch.of targets entry = some found ∧ target ∈ found.targets := by
  have kept : target ∈ targets.filter fun target =>
      decide (target.name ∈ entry.2.bundle.runtimeTargets.map RuntimeTarget.name) :=
    List.mem_filter.mpr ⟨requested,decide_eq_true name⟩
  refine ⟨_,if_neg ?_,kept⟩
  exact List.ne_nil_of_mem kept

theorem matches_sublist (targets : List ControlTarget) (entries : List (String × Marker)) :
    ((entries.filterMap (BundleControlMatch.of targets)).map BundleControlMatch.key).Sublist (entries.map Prod.fst) := by
  induction entries with
  | nil => exact .refl _
  | cons entry rest ih =>
    cases made : BundleControlMatch.of targets entry with
    | none =>
      rw [List.filterMap_cons_none made,List.map_cons]
      exact ih.cons _
    | some found =>
      rw [List.filterMap_cons_some made,List.map_cons,List.map_cons,(BundleControlMatch.of_some made).1]
      exact ih.cons_cons _

variable {request : ControlRequest} {found : List BundleControlMatch} {b b' : Backend} {key : String}
  {record held : ControlRecord} {c : Calling}

theorem find_bundles (located : findBundlesForControl markers request = .ok found) :
    (found.map BundleControlMatch.key).Nodup ∧ (∀ match₀ ∈ found,
      (markers.lookup match₀.key).map Marker.bundle = some match₀.bundle ∧ match₀.targets ≠ [] ∧
      ∀ target ∈ match₀.targets, target ∈ request.targets ∧
        target.name ∈ match₀.bundle.runtimeTargets.map RuntimeTarget.name ∧
        target.expectedGeneration = match₀.bundle.generation) ∧
      ∀ target ∈ request.targets, ∃ match₀ ∈ found, target ∈ match₀.targets := by
  unfold findBundlesForControl at located
  dsimp only at located
  set bundles := (sortedPairs (· ≤ ·) markers).filter _
  split at located
  · cases located
  split at located
  · cases located
  next unique =>
    rw [not_not] at unique
    cases checked : checkEach (locate (bundles.flatMap fun entry => entry.2.bundle.runtimeTargets)) request.targets with
    | error _ => rw [checked] at located; cases located
    | ok _ =>
      rw [checked] at located
      cases located
      refine ⟨?_,?_,?_⟩
      · have sorted : ((sortedPairs (· ≤ ·) markers).map Prod.fst).Nodup := sortedPairs_nodup
        have kept : (bundles.map Prod.fst).Nodup := sorted.sublist (List.filter_sublist.map _)
        exact kept.sublist (matches_sublist request.targets bundles)
      · intro match₀ member
        obtain ⟨entry,listed,made⟩ := List.mem_filterMap.mp member
        obtain ⟨key,bundle,some,targets⟩ := BundleControlMatch.of_some made
        rw [key,bundle]
        have held : markers.lookup entry.1 = .some entry.2 := mem_sortedPairs.mp (List.mem_of_mem_filter listed)
        refine ⟨by rw [held]; rfl,some,?_⟩
        intro target member
        obtain ⟨requested,name⟩ := targets target member
        refine ⟨requested,name,?_⟩
        have here := checkEach_ok_iff.mp checked target requested
        obtain ⟨target₀,there,same⟩ := List.mem_map.mp name
        unfold locate at here
        split at here
        · cases here
        next target₁ hit =>
          have equal : target₁ = target₀ := List.inj_on_of_nodup_map unique (List.mem_of_find?_eq_some hit)
            (List.mem_flatMap.mpr ⟨entry,listed,there⟩) (by simpa [same] using List.find?_some hit)
          split at here
          · cases here
          next generation =>
            rw [not_not] at generation
            rw [← generation,equal]
            exact entry.2.bundle.fenced target₀ there
      · intro target requested
        have here := checkEach_ok_iff.mp checked target requested
        unfold locate at here
        split at here
        · cases here
        next target₀ hit =>
          obtain ⟨entry,listed,there⟩ := List.mem_flatMap.mp (List.mem_of_find?_eq_some hit)
          have name : target₀.name = target.name := by simpa using List.find?_some hit
          obtain ⟨match₀,made,member⟩ := BundleControlMatch.of_mem requested (List.mem_map.mpr ⟨target₀,there,name⟩)
          exact ⟨match₀,List.mem_filterMap.mpr ⟨entry,listed,made⟩,member⟩

theorem located_new {server : Server} {targets : List ControlTargetProgress}
    (located : findBundlesForControl markers request = .ok found)
    (fits : List.Forall₂ (Fits start server request.action) found targets) (revision : Nat) :
    Located ⟨newRecord request found targets (revision + 1),found⟩ := by
  obtain ⟨distinct,facts,covered⟩ := find_bundles located
  refine ⟨Nat.succ_pos _,rfl,distinct,?_,fun match₀ member => (facts match₀ member).2,covered⟩
  show targets.map (fun progress => progress.mutation.object) = found.map BundleControlMatch.job
  clear located facts distinct covered
  induction fits with
  | nil => rfl
  | cons head _ ih => rw [List.map_cons,List.map_cons,ih,head.object]

theorem traces_new (request : ControlRequest) (found : List BundleControlMatch) (targets : List ControlTargetProgress)
    (revision : Nat) : Traces ⟨newRecord request found targets revision,found⟩ (newRecord request found targets revision) :=
  ⟨rfl,rfl,rfl,rfl,fun closed => nomatch closed⟩

section Traces
variable {prepared : Preparation}

theorem mark_mutations (record : ControlRecord) (index : Nat) (state : ControlProgressState) :
    (record.mark index state).mutations = record.mutations := by
  refine List.ext_getElem? fun other => ?_
  rw [List.getElem?_map,List.getElem?_map,mark_getElem?,Option.map_map]
  congr 1
  funext progress
  show (if index = other then { progress with state := state } else progress).mutation = progress.mutation
  split
  · rfl
  · rfl

theorem Traces.mark (traces : Traces prepared record) (pending : record.pending = true) (index : Nat)
    (state : ControlProgressState) : Traces prepared (record.mark index state) := by
  refine ⟨traces.request,traces.bundleKeys,traces.revision,?_,fun closed => ?_⟩
  · rw [← traces.targets,mark_mutations]
  · rw [show (record.mark index state).pending = true from pending] at closed
    cases closed

theorem accept_mutations (record : ControlRecord) : record.accept.mutations = record.mutations := rfl

theorem Traces.accept (traces : Traces prepared record)
    (completed : ∀ progress ∈ record.targetProgress, progress.state = .completed) : Traces prepared record.accept :=
  ⟨traces.request,traces.bundleKeys,traces.revision,traces.targets,fun _ => ⟨rfl,completed⟩⟩

end Traces

theorem apply_changes (b : Backend) (key : String) (bundle : Bundle) (changes : List Touch) (written : Bool) :
    ∃ server markers, b.step (.apply key bundle changes written) = { b with server := server, markers := markers } ∧
      Later b.server server ∧ ∀ other marker, markers.lookup other = some marker →
        b.markers.lookup other = some marker ∨
          other = key ∧ marker = ⟨bundle,none⟩ ∧ written = true ∧ b.replaces key bundle = true := by
  have later := Later.touches b.server changes
  cases written with
  | false => exact ⟨_,b.markers,rfl,later,fun _ _ => .inl⟩
  | true =>
    show ∃ server markers, (b.touches changes).applyBundle key bundle = _ ∧ _
    unfold Backend.applyBundle
    split
    next newer =>
      refine ⟨_,_,rfl,later,?_⟩
      intro other marker there
      by_cases same : other = key
      · rw [same,AList.lookup_insert] at there
        cases there
        exact .inr ⟨same,rfl,rfl,newer⟩
      · exact .inl (AList.lookup_insert_ne same ▸ there)
    · exact ⟨_,b.markers,rfl,later,fun _ _ => .inl⟩

theorem merged_lookup :
    b.merged.records.lookup key = some record ↔ b.controls.lookup key = some record ∨
      b.controls.lookup key = none ∧ b.file.records.lookup key = some record := by
  show (b.controls ∪ b.file.records).lookup key = some record ↔ _
  by_cases here : key ∈ b.controls
  · rw [AList.lookup_union_left here]
    have some := AList.lookup_isSome.mpr here
    refine (or_iff_left ?_).symm
    rintro ⟨none,_⟩
    rw [none] at some
    cases some
  · rw [AList.lookup_union_right here,AList.lookup_eq_none.mpr here]
    simp

theorem store_lookup :
    (b.store key record).controls.lookup other = some held ↔
      other = key ∧ held = record ∨ other ≠ key ∧ b.controls.lookup other = some held := by
  by_cases same : other = key
  · subst same
    rw [Backend.store,AList.lookup_insert]
    simp [eq_comm]
  · rw [Backend.store,AList.lookup_insert_ne same]
    simp [same]

theorem prepare_lookup (fresh : b.controls.lookup record.request.idempotencyKey = none)
    (here : b.controls.lookup key = some held) : (b.prepare record found).controls.lookup key = some held := by
  refine store_lookup (b := b).mpr (.inr ⟨?_,here⟩)
  rintro rfl
  cases fresh.symm.trans here

def Backend.Holds (b : Backend) (key : String) (record : ControlRecord) : Prop :=
  b.controls.lookup key = some record ∨ b.file.records.lookup key = some record

theorem holds_persisted (holds : b.persisted.Holds key record) : b.Holds key record := by
  rcases holds with held | held
  · exact .inl held
  · rcases merged_lookup.mp held with held | ⟨_,held⟩
    · exact .inl held
    · exact .inr held

theorem holds_store (holds : (b.store key record).Holds other held) : other = key ∧ held = record ∨ b.Holds other held := by
  rcases holds with held | held
  · exact (store_lookup.mp held).imp id fun known => .inl known.2
  · exact .inr (.inr held)

structure Sound (b : Backend) : Prop where
  traced : ∀ key record, b.Holds key record → ∃ prepared ∈ b.prepared, prepared.key = key ∧ Traces prepared record
  located : ∀ prepared ∈ b.prepared, Located prepared
  annotated : ∀ key marker metadata, b.markers.lookup key = some marker → marker.metadata = some metadata →
    metadata.committed = true → ∃ id record, b.controls.lookup id = some record ∧ record.committed = true ∧
      key ∈ record.bundleKeys ∧ metadata.backendRevision = record.result.backendRevision

/-- And what is accepted has been written to the file. -/
structure Ledgered (b : Backend) : Prop extends Sound b where
  filed : ∀ key record, b.controls.lookup key = some record → record.committed = true →
    b.file.records.lookup key = some record

theorem pending_open (pending : record.pending = true) : record.committed = false := by
  simp [ControlRecord.committed,pending]

section Ledgered
variable {next : ControlRecord}

theorem store_committed (held : b.controls.lookup key = some record) (pending : record.pending = true) {found : ControlRecord}
    (here : b.controls.lookup other = some found) (committed : found.committed = true) :
    (b.store key next).controls.lookup other = some found := by
  refine store_lookup.mpr (.inr ⟨?_,here⟩)
  rintro rfl
  cases held.symm.trans here
  cases (pending_open pending).symm.trans committed

theorem Sound.store (inv : Sound b) (held : b.controls.lookup key = some record) (pending : record.pending = true)
    (traces : ∀ prepared, Traces prepared record → Traces prepared next) : Sound (b.store key next) := by
  refine ⟨?_,inv.located,?_⟩
  · intro other found holds
    rcases holds_store holds with ⟨rfl,rfl⟩ | holds
    · obtain ⟨prepared,member,named,traced⟩ := inv.traced other record (.inl held)
      exact ⟨prepared,member,named,traces prepared traced⟩
    · exact inv.traced other found holds
  · intro other marker metadata there carried committed
    obtain ⟨id,found,here,accepted,facts⟩ := inv.annotated other marker metadata there carried committed
    exact ⟨id,found,store_committed held pending here accepted,accepted,facts⟩

theorem Ledgered.store (inv : Ledgered b) (held : b.controls.lookup key = some record) (pending : record.pending = true)
    (traces : ∀ prepared, Traces prepared record → Traces prepared next) (pending' : next.pending = true) :
    Ledgered (b.store key next) := by
  refine ⟨inv.toSound.store held pending traces,?_⟩
  intro other found here committed
  rcases store_lookup.mp here with ⟨rfl,rfl⟩ | ⟨_,here⟩
  · cases (pending_open pending').symm.trans committed
  · exact inv.filed other found here committed

theorem Sound.persisted (inv : Sound b) : Ledgered b.persisted :=
  ⟨⟨fun key record holds => inv.traced key record (holds_persisted holds),inv.located,inv.annotated⟩,
    fun _ _ held _ => merged_lookup.mpr (.inl held)⟩

theorem Ledgered.late {later : Backend} (inv : Ledgered b) (sound : Sound later) (grown : b.prepared ⊆ later.prepared)
    (kept : ∀ key record, b.controls.lookup key = some record → record.committed = true →
      later.controls.lookup key = some record) : Ledgered { b with file := later.merged, prepared := later.prepared } := by
  refine ⟨⟨?_,sound.located,inv.annotated⟩,fun key record held committed => merged_lookup.mpr (.inl (kept key record held committed))⟩
  rintro key record (held | held)
  · obtain ⟨prepared,member,facts⟩ := inv.traced key record (.inl held)
    exact ⟨prepared,grown member,facts⟩
  · exact sound.traced key record (holds_persisted (b := later) (.inr held))

theorem Sound.prepare (inv : Sound b) {targets : List ControlTargetProgress} {revision : Nat}
    (fresh : b.controls.lookup request.idempotencyKey = none)
    (located : Located ⟨newRecord request found targets revision,found⟩) :
    Sound (b.prepare (newRecord request found targets revision) found) := by
  refine ⟨?_,?_,?_⟩
  · intro other record holds
    have stored : (b.store request.idempotencyKey (newRecord request found targets revision)).Holds other record := holds
    rcases holds_store stored with ⟨rfl,rfl⟩ | holds
    · exact ⟨_,List.mem_append_right _ (List.mem_singleton_self _),rfl,traces_new request found targets revision⟩
    · obtain ⟨prepared,member,facts⟩ := inv.traced other record holds
      exact ⟨prepared,List.mem_append_left _ member,facts⟩
  · intro prepared member
    rcases List.mem_append.mp member with member | member
    · exact inv.located prepared member
    · rw [List.mem_singleton.mp member]
      exact located
  · intro other marker metadata there carried committed
    obtain ⟨id,record,held,facts⟩ := inv.annotated other marker metadata there carried committed
    exact ⟨id,record,prepare_lookup fresh held,facts⟩

theorem Ledgered.move (inv : Ledgered b) (move : Move c b b') : Ledgered b' := by
  cases move with
  | server later => exact ⟨⟨inv.traced,inv.located,inv.annotated⟩,inv.filed⟩
  | effect changed held member there current => exact ⟨⟨inv.traced,inv.located,inv.annotated⟩,inv.filed⟩
  | stored => exact inv.toSound.persisted
  | kept held pending => exact inv.store held pending (fun _ => id) pending
  | prepared named fresh located first fits => exact (inv.toSound.prepare fresh (located_new located fits _)).persisted
  | leaked allowed named fresh located first fits =>
    exact inv.late (inv.toSound.prepare fresh (located_new located fits _)) (List.subset_append_left _ _)
      (fun _ _ held _ => prepare_lookup fresh held)
  | marked held pending there reason => exact inv.store held pending (fun _ traces => traces.mark pending _ _) pending
  | accepted held pending completed =>
    exact (inv.toSound.store held pending fun _ traces => traces.accept completed).persisted
  | unreported held pending completed =>
    exact inv.late (inv.toSound.store held pending fun _ traces => traces.accept completed) (List.Subset.refl _)
      (fun _ _ => store_committed held pending)
  | annotated annotates =>
    refine ⟨⟨inv.traced,inv.located,?_⟩,inv.filed⟩
    intro key marker metadata there carried committed
    rcases annotates.metadata key marker there with unchanged | ⟨new,held,backed⟩
    · exact inv.annotated key marker metadata unchanged carried committed
    · cases held.symm.trans carried
      exact backed committed

theorem Ledgered.moves (inv : Ledgered b) (moves : Moves c b b') : Ledgered b' := by
  induction moves with
  | refl => exact inv
  | tail _ move ih => exact ih.move move

theorem Ledgered.step (inv : Ledgered b) (step : Step) : Ledgered (b.step step) := by
  cases step with
  | control request a => exact inv.moves (control_moves request a b)
  | restore a =>
    obtain ⟨markers,restored,annotates⟩ := restoreControlMetadata_annotates a b
    rw [Backend.step,restored]
    exact inv.move (c := ⟨"",b,False⟩) (.annotated annotates)
  | touch change => exact ⟨⟨inv.traced,inv.located,inv.annotated⟩,inv.filed⟩
  | restart =>
    refine ⟨⟨fun key record holds => inv.traced key record (.inr (holds.elim id id)),inv.located,?_⟩,fun _ _ held _ => held⟩
    intro key marker metadata there carried committed
    obtain ⟨id,record,held,accepted,facts⟩ := inv.annotated key marker metadata there carried committed
    exact ⟨id,record,inv.filed id record held accepted,accepted,facts⟩
  | cleanup key =>
    refine ⟨⟨inv.traced,inv.located,?_⟩,inv.filed⟩
    intro other marker metadata there
    by_cases same : other = key
    · rw [same,Backend.step,AList.lookup_erase] at there
      cases there
    · exact inv.annotated other marker metadata (AList.lookup_erase_ne same ▸ there)
  | apply key bundle changes written =>
    obtain ⟨server,markers,stepped,_,replaced⟩ := apply_changes b key bundle changes written
    rw [stepped]
    refine ⟨⟨inv.traced,inv.located,?_⟩,inv.filed⟩
    intro other marker metadata there carried
    rcases replaced other marker there with unchanged | ⟨_,rfl,_⟩
    · exact inv.annotated other marker metadata unchanged carried
    · cases carried

end Ledgered

theorem selectControl_le (key : String) (records : List ControlRecord) (selected : Option ControlMetadata) :
    (selected.map ControlMetadata.backendRevision).getD 0 ≤
      ((records.foldl (selectControl key) selected).map ControlMetadata.backendRevision).getD 0 ∧
    ∀ record ∈ records, record.committed = true → key ∈ record.bundleKeys → record.result.backendRevision ≤
      ((records.foldl (selectControl key) selected).map ControlMetadata.backendRevision).getD 0 := by
  induction records generalizing selected with
  | nil => exact ⟨le_rfl,fun _ member => nomatch member⟩
  | cons head rest ih =>
    obtain ⟨grown,bounds⟩ := ih (selectControl key selected head)
    have stepped : (selected.map ControlMetadata.backendRevision).getD 0 ≤
        ((selectControl key selected head).map ControlMetadata.backendRevision).getD 0 ∧
        (head.committed = true → key ∈ head.bundleKeys → head.result.backendRevision ≤
          ((selectControl key selected head).map ControlMetadata.backendRevision).getD 0) := by
      unfold selectControl
      split
      next passed =>
        refine ⟨le_rfl,fun committed touched => ?_⟩
        rcases passed with open₀ | other | low
        · rw [open₀] at committed; cases committed
        · exact absurd touched other
        · exact low
      next better =>
        push Not at better
        exact ⟨better.2.2.le,fun _ _ => le_rfl⟩
    refine ⟨stepped.1.trans grown,?_⟩
    intro record member committed touched
    rcases List.mem_cons.mp member with rfl | member
    · exact (stepped.2 committed touched).trans grown
    · exact bounds record member committed touched

/-- The request has been accepted for the bundle, and none with a higher revision has. -/
structure Latest (b : Backend) (key id : String) (record : ControlRecord) : Prop where
  held : b.controls.lookup id = some record
  committed : record.committed = true
  touched : key ∈ record.bundleKeys
  highest : ∀ other found, b.controls.lookup other = some found → found.committed = true → key ∈ found.bundleKeys →
    found.result.backendRevision ≤ record.result.backendRevision

/-- What is reported of a bundle is the request with the highest revision accepted for it; where none has been accepted, it
    is nothing that was committed. -/
theorem reported_cases (inv : Ledgered b) {marker : Marker} (there : b.markers.lookup key = some marker) :
    (∃ id record, Latest b key id record ∧ controlMetadataForBundle b key = some record.metadata) ∨
      (∀ id record, b.controls.lookup id = some record → record.committed = true → key ∉ record.bundleKeys) ∧
        ∀ metadata, controlMetadataForBundle b key = some metadata → metadata.committed = false := by
  have positive : ∀ id record, b.controls.lookup id = some record → 0 < record.result.backendRevision := by
    intro id record held
    obtain ⟨prepared,member,_,traces⟩ := inv.traced id record (.inl held)
    exact traces.revision ▸ (inv.located prepared member).positive
  have bounds : ∀ id record, b.controls.lookup id = some record → record.committed = true → key ∈ record.bundleKeys →
      record.result.backendRevision ≤ ((controlMetadataFromLedger b.controls key).map ControlMetadata.backendRevision).getD 0 :=
    fun id record held => (selectControl_le key _ none).2 record (List.mem_map.mpr ⟨(id,record),Map.mem_pairs_iff.mpr held,rfl⟩)
  unfold controlMetadataForBundle
  rw [there]
  dsimp only
  cases selected : controlMetadataFromLedger b.controls key with
  | none =>
    rw [selected] at bounds
    have untouched : ∀ id record, b.controls.lookup id = some record → record.committed = true → key ∉ record.bundleKeys :=
      fun id record held committed touched => absurd (bounds id record held committed touched) (not_le.mpr (positive id record held))
    refine .inr ⟨untouched,fun metadata carried => Bool.eq_false_iff.mpr fun committed => ?_⟩
    obtain ⟨id,record,held,accepted,touched,_⟩ := inv.annotated key marker metadata there carried committed
    exact untouched id record held accepted touched
  | some ledger =>
    rw [selected] at bounds
    obtain ⟨id,record,held,committed,touched,same⟩ := controlMetadataFromLedger_mem selected
    have highest : ∀ other found, b.controls.lookup other = some found → found.committed = true → key ∈ found.bundleKeys →
        found.result.backendRevision ≤ record.result.backendRevision := by
      intro other found here accepted listed
      simpa [same,ControlRecord.metadata,metadataForControl] using bounds other found here accepted listed
    have preferred : shouldPreferLedgerControlMetadata marker.metadata ledger = true := by
      unfold shouldPreferLedgerControlMetadata
      cases carried : marker.metadata with
      | none => rfl
      | some object =>
        dsimp only
        split
        · rfl
        next committed =>
          obtain ⟨other,found,here,accepted,listed,revision⟩ := inv.annotated key marker object there carried (by simpa using committed)
          have low := bounds other found here accepted listed
          rw [← revision,Option.map_some,Option.getD_some] at low
          split
          next apart => exact decide_eq_true (lt_of_le_of_ne low apart)
          next => rw [same]; exact Bool.or_true _
    dsimp only
    rw [if_pos preferred,same]
    exact .inl ⟨id,record,⟨held,committed,touched,highest⟩,rfl⟩

/-- The first persist of a request does not fail after it has replaced the file. -/
def Prompt (_ : Backend) : Step → Prop
  | .control _ a => a.prepared ≠ .late
  | _ => True

structure Ordered (b : Backend) : Prop where
  increasing : b.prepared.Pairwise fun earlier later => earlier.revision < later.revision ∧ earlier.key ≠ later.key
  known : ∀ prepared ∈ b.prepared, prepared.revision ≤ b.revision ∧ prepared.revision ≤ b.file.revision ∧
    prepared.key ∈ b.controls ∧ prepared.key ∈ b.file.records

theorem mem_merged (held : key ∈ b.controls) : key ∈ b.merged.records :=
  AList.mem_union.mpr (.inl held)

theorem Ordered.store (inv : Ordered b) (key : String) (record : ControlRecord) : Ordered (b.store key record) :=
  ⟨inv.increasing,fun prepared member => (inv.known prepared member).imp id fun rest =>
    ⟨rest.1,(AList.mem_insert _).mpr (.inr rest.2.1),rest.2.2⟩⟩

theorem Ordered.persisted (inv : Ordered b) : Ordered b.persisted := by
  refine ⟨inv.increasing,fun prepared member => ?_⟩
  obtain ⟨memory,file,held,_⟩ := inv.known prepared member
  exact ⟨memory,le_max_of_le_left memory,held,mem_merged held⟩

theorem Ordered.move (prompt : ¬ c.late) (inv : Ordered b) (move : Move c b b') : Ordered b' := by
  cases move with
  | server later => exact ⟨inv.increasing,inv.known⟩
  | effect changed held member there current => exact ⟨inv.increasing,inv.known⟩
  | stored => exact inv.persisted
  | kept held pending => exact inv.store _ _
  | prepared named fresh located first fits =>
    refine ⟨List.pairwise_append.mpr ⟨inv.increasing,List.pairwise_singleton _ _,?_⟩,?_⟩
    · intro earlier member later new
      rw [List.mem_singleton.mp new]
      obtain ⟨memory,_,held,_⟩ := inv.known earlier member
      refine ⟨Nat.lt_succ_of_le memory,?_⟩
      rintro (same : earlier.key = _)
      rw [same] at held
      exact AList.lookup_eq_none.mp fresh held
    · intro prepared member
      rcases List.mem_append.mp member with member | new
      · obtain ⟨memory,file,held,_⟩ := inv.known prepared member
        refine ⟨Nat.le_succ_of_le memory,le_max_of_le_left (Nat.le_succ_of_le memory),?_,mem_merged ?_⟩
        · exact (AList.mem_insert _).mpr (.inr held)
        · exact (AList.mem_insert _).mpr (.inr held)
      · rw [List.mem_singleton.mp new]
        refine ⟨le_rfl,le_max_left _ _,?_,mem_merged ?_⟩
        · exact (AList.mem_insert _).mpr (.inl rfl)
        · exact (AList.mem_insert _).mpr (.inl rfl)
  | leaked allowed named fresh located first fits => exact absurd allowed prompt
  | marked held pending there reason => exact inv.store _ _
  | accepted held pending completed => exact (inv.store _ _).persisted
  | unreported held pending completed =>
    refine ⟨inv.increasing,fun prepared member => ?_⟩
    obtain ⟨memory,file,held,_⟩ := inv.known prepared member
    exact ⟨memory,le_max_of_le_left memory,held,mem_merged ((AList.mem_insert _).mpr (.inr held))⟩
  | annotated annotates => exact ⟨inv.increasing,inv.known⟩

theorem Ordered.moves (prompt : ¬ c.late) (inv : Ordered b) (moves : Moves c b b') : Ordered b' := by
  induction moves with
  | refl => exact inv
  | tail _ move ih => exact ih.move prompt move

theorem Ordered.step {step : Step} (inv : Ordered b) (prompt : Prompt b step) : Ordered (b.step step) := by
  cases step with
  | control request a => exact inv.moves (c := ⟨_,_,a.prepared = .late⟩) prompt (control_moves request a b)
  | restore a =>
    obtain ⟨markers,restored,_⟩ := restoreControlMetadata_annotates a b
    rw [Backend.step,restored]
    exact ⟨inv.increasing,inv.known⟩
  | touch change => exact ⟨inv.increasing,inv.known⟩
  | cleanup key => exact ⟨inv.increasing,inv.known⟩
  | restart =>
    refine ⟨inv.increasing,fun prepared member => ?_⟩
    obtain ⟨_,file,_,held⟩ := inv.known prepared member
    exact ⟨file,file,held,held⟩
  | apply key bundle changes written =>
    obtain ⟨server,markers,stepped,_⟩ := apply_changes b key bundle changes written
    rw [stepped]
    exact ⟨inv.increasing,inv.known⟩

theorem ledgered_run (server : Server) (steps : List Step) : Ledgered (run Backend.step (.begin server) steps) := by
  have init : Ledgered (.begin server) := by
    refine ⟨⟨?_,fun _ member => (nomatch member),fun _ _ _ there => (nomatch there)⟩,fun _ _ held => (nomatch held)⟩
    rintro _ _ (held | held)
    · cases held
    · cases held
  exact run_keeps (fun b step (inv : Ledgered b) => inv.step step) init steps

theorem ordered_run {server : Server} {steps : List Step} (prompt : Guarded Backend.step Prompt (.begin server) steps) :
    Ordered (run Backend.step (.begin server) steps) := by
  have init : Ordered (.begin server) := ⟨.nil,fun _ member => nomatch member⟩
  exact guarded_keeps (fun b step (inv : Ordered b) => inv.step) init prompt

theorem Ordered.unique (inv : Ordered b) {first second : Preparation} (here : first ∈ b.prepared) (there : second ∈ b.prepared)
    (same : first.revision = second.revision ∨ first.key = second.key) : first = second := by
  rcases same with revision | key
  · exact List.inj_on_of_nodup_map (List.pairwise_map.mpr (inv.increasing.imp fun pair => pair.1.ne)) here there revision
  · exact List.inj_on_of_nodup_map (List.pairwise_map.mpr (inv.increasing.imp fun pair => pair.2)) here there key

theorem revisions_order_requests (server : Server) (steps : List Step)
    (prompt : Guarded Backend.step Prompt (.begin server) steps) :
    let b := run Backend.step (.begin server) steps
    (∀ id id' record record', b.controls.lookup id = some record → b.controls.lookup id' = some record' →
      record.committed = true → record'.committed = true → id ≠ id' →
      record.result.backendRevision ≠ record'.result.backendRevision) ∧
    (b.prepared.Pairwise fun earlier later => earlier.revision < later.revision ∧ earlier.key ≠ later.key) ∧
    (∀ id record, b.controls.lookup id = some record → ∃ prepared ∈ b.prepared, prepared.key = id ∧
      record.result.backendRevision = prepared.revision) ∧
    ∀ key marker, b.markers.lookup key = some marker →
      (∀ id record, Latest b key id record → controlMetadataForBundle b key = some record.metadata) ∧
      ((∀ id record, b.controls.lookup id = some record → record.committed = true → key ∉ record.bundleKeys) →
        ∀ metadata, controlMetadataForBundle b key = some metadata → metadata.committed = false) := by
  intro b
  have sound : Ledgered b := ledgered_run server steps
  have ordered : Ordered b := ordered_run prompt
  have apart : ∀ id id' record record', b.controls.lookup id = some record → b.controls.lookup id' = some record' →
      record.result.backendRevision = record'.result.backendRevision → id = id' := by
    intro id id' record record' held held' same
    obtain ⟨first,here,rfl,traces⟩ := sound.traced id record (.inl held)
    obtain ⟨second,there,rfl,traces'⟩ := sound.traced id' record' (.inl held')
    rw [traces.revision,traces'.revision] at same
    rw [ordered.unique here there (.inl same)]
  refine ⟨fun id id' record record' held held' _ _ differ same => differ (apart id id' record record' held held' same),
    ordered.increasing,?_,?_⟩
  · intro id record held
    obtain ⟨prepared,member,named,traces⟩ := sound.traced id record (.inl held)
    exact ⟨prepared,member,named,traces.revision⟩
  · intro key marker there
    rcases reported_cases sound there with ⟨id₀,record₀,latest₀,reported⟩ | ⟨untouched,uncommitted⟩
    · refine ⟨?_,fun untouched => absurd latest₀.touched (untouched id₀ record₀ latest₀.held latest₀.committed)⟩
      intro id record latest
      have equal := le_antisymm (latest₀.highest id record latest.held latest.committed latest.touched)
        (latest.highest id₀ record₀ latest₀.held latest₀.committed latest₀.touched)
      have same := apart id id₀ record record₀ latest.held latest₀.held equal
      rw [same] at latest
      cases latest.held.symm.trans latest₀.held
      exact reported
    · exact ⟨fun id record latest => absurd latest.touched (untouched id record latest.held latest.committed),fun _ => uncommitted⟩

section Demo

def demoBundle : Bundle where
  generation := 1
  sourceJobId := "job"
  sourceRunId := "run"
  runtimeTargets := [⟨"unit","sandbox",1⟩]
  fenced := by simp

def demoRequest (action : Jobs.JobCommandType) (key : String) : ControlRequest where
  action := action
  jobId := "job"
  runId := "run"
  traceId := "trace"
  targets := [⟨"unit","sandbox",1⟩]
  requestId := key
  idempotencyKey := key
  reason := "demo"
  globalTargetLookup := false

def demoJob : Job := ⟨0,false,false,false,false,0⟩

def demoServer : Server := ⟨∅,0,fun _ _ held => nomatch held⟩

def demoApply : Step := .apply "ns/a" demoBundle [.put ⟨"ns/a",1⟩ demoJob] true

/-- Two requests, of which the second is prepared after a persist of the first has failed. -/
def demoOrderly : List Step :=
  [demoApply,.control (demoRequest .pause "pause") { smooth with committed := .late },.control (demoRequest .resume "resume") smooth]

theorem revisions_order_requests_demo : Guarded Backend.step Prompt (.begin demoServer) demoOrderly ∧
    ((run Backend.step (.begin demoServer) demoOrderly).prepared.Pairwise fun earlier later =>
      earlier.revision < later.revision ∧ earlier.key ≠ later.key) := by
  have prompt : Guarded Backend.step Prompt (.begin demoServer) demoOrderly := ⟨trivial,(by decide : Write.done ≠ .late),(by decide : Write.done ≠ .late),trivial⟩
  exact ⟨prompt,(revisions_order_requests demoServer demoOrderly prompt).2.1⟩

/-- The first persist of `stop` fails after it has replaced the file; `pause` takes its revision, and after a restart both
    are accepted. -/
def demoLate : List Step :=
  [demoApply,.control (demoRequest .stop "stop") { smooth with prepared := .late },.control (demoRequest .pause "pause") smooth,
    .touch (.put ⟨"ns/a",1⟩ { demoJob with deleting := true }),.restart,
    .control (demoRequest .stop "stop") smooth,.control (demoRequest .stop "stop") smooth]

def revisionOf (b : Backend) (key : String) : Option (Bool × Nat) :=
  (b.controls.lookup key).map fun record => (record.committed,record.result.backendRevision)

theorem revision_reused : revisionOf (run Backend.step (.begin demoServer) demoLate) "pause" = some (true,1) ∧
    revisionOf (run Backend.step (.begin demoServer) demoLate) "stop" = some (true,1) := by decide +kernel

end Demo

/-- A bundle is given a new generation only while the ledger holds no request for another one of its generations. -/
def Unclaimed (b : Backend) : Step → Prop
  | .apply key bundle _ written => written = true → b.replaces key bundle = true → ∀ id record, b.Holds id record →
      ∀ mutation ∈ record.mutations, mutation.object.bundleKey = key →
        mutation.object.generation = bundle.generation
  | _ => True

/-- The requests of the ledger are for the generations the bundles have. -/
def Aligned (b : Backend) : Prop :=
  ∀ key bundle, (b.markers.lookup key).map Marker.bundle = some bundle → ∀ id record, b.Holds id record →
    ∀ mutation ∈ record.mutations, mutation.object.bundleKey = key →
      mutation.object.generation = bundle.generation

theorem Aligned.store (inv : Aligned b) {next : ControlRecord} (held : b.controls.lookup key = some record)
    (same : next.mutations = record.mutations) : Aligned (b.store key next) := by
  intro other bundle there id found holds
  rcases holds_store holds with ⟨rfl,rfl⟩ | holds
  · rw [same]
    exact inv other bundle there id record (.inl held)
  · exact inv other bundle there id found holds

theorem Aligned.persisted (inv : Aligned b) : Aligned b.persisted :=
  fun key bundle there id record holds => inv key bundle there id record (holds_persisted holds)

theorem Aligned.late {later : Backend} (inv : Aligned b) (aligned : Aligned later) (markers : later.markers = b.markers)
    (prepared : List Preparation) : Aligned { b with file := later.merged, prepared := prepared } := by
  rintro key bundle there id record (held | held)
  · exact inv key bundle there id record (.inl held)
  · exact aligned key bundle (markers ▸ there) id record (holds_persisted (b := later) (.inr held))

theorem Aligned.prepare (inv : Aligned b) {targets : List ControlTargetProgress} {revision : Nat}
    (located : findBundlesForControl b.markers request = .ok found)
    (fits : List.Forall₂ (Fits start b.server request.action) found targets) :
    Aligned (b.prepare (newRecord request found targets revision) found) := by
  intro key bundle there id record holds
  have stored : (b.store request.idempotencyKey (newRecord request found targets revision)).Holds id record := holds
  rcases holds_store stored with ⟨rfl,rfl⟩ | holds
  · intro mutation member named
    obtain ⟨progress,listed,rfl⟩ := List.mem_map.mp member
    obtain ⟨match₀,chosen,fit⟩ := exists_of_forall₂ fits listed
    have marker := ((find_bundles located).2.1 match₀ chosen).1
    rw [fit.object] at named ⊢
    cases named
    cases marker.symm.trans there
    rfl
  · exact inv key bundle there id record holds

theorem Aligned.move (inv : Aligned b) (move : Move c b b') : Aligned b' := by
  cases move with
  | server later => exact inv
  | effect changed held member there current => exact inv
  | stored => exact inv.persisted
  | kept held pending => exact inv.store held rfl
  | prepared named fresh located first fits => exact (inv.prepare located fits).persisted
  | leaked allowed named fresh located first fits => exact inv.late (inv.prepare located fits) rfl _
  | marked held pending there reason => exact inv.store held (mark_mutations _ _ _)
  | accepted held pending completed => exact (inv.store held (accept_mutations _)).persisted
  | unreported held pending completed => exact inv.late (inv.store held (accept_mutations _)) rfl b.prepared
  | annotated annotates => exact fun key bundle there => inv key bundle (annotates.marker key ▸ there)

theorem Aligned.step {step : Step} (inv : Aligned b) (unclaimed : Unclaimed b step) : Aligned (b.step step) := by
  have moves {c : Calling} {b' : Backend} (path : Moves c b b') : Aligned b' := by
    induction path with
    | refl => exact inv
    | tail _ move ih => exact ih.move move
  cases step with
  | control request a => exact moves (control_moves request a b)
  | restore a =>
    obtain ⟨markers,restored,annotates⟩ := restoreControlMetadata_annotates a b
    rw [Backend.step,restored]
    exact fun key bundle there => inv key bundle (annotates.marker key ▸ there)
  | touch change => exact inv
  | restart => exact fun key bundle there name record holds => inv key bundle there name record (.inr (holds.elim id id))
  | cleanup key =>
    intro other bundle there
    by_cases same : other = key
    · rw [same,Backend.step,AList.lookup_erase] at there
      cases there
    · exact inv other bundle (AList.lookup_erase_ne same ▸ there)
  | apply key bundle changes written =>
    obtain ⟨server,markers,stepped,_,replaced⟩ := apply_changes b key bundle changes written
    rw [stepped]
    intro other held there
    obtain ⟨marker,found,rfl⟩ := Option.map_eq_some_iff.mp there
    rcases replaced other marker found with unchanged | ⟨rfl,rfl,wrote,newer⟩
    · exact inv other marker.bundle (by rw [unchanged]; rfl)
    · exact unclaimed wrote newer

/-- What `Snapshot` adds to what it has observed of a bundle. -/
def Backend.snapshot (b : Backend) (key : String) (observed : ObservationManager.Snapshot) : ObservationManager.Snapshot :=
  match controlMetadataForBundle b key with
  | none => { observed with controlCommitted := false }
  | some metadata =>
    { observed with
      control := ⟨metadata.idempotencyKey,metadata.backendRevision,metadata.requestId⟩
      controlAction := metadata.action
      controlCommitted := metadata.committed
      controlRetireRun := metadata.retireRun }

/-- The snapshot names a request that was prepared for this bundle, with the generation `g` as the one its targets in the
    bundle expect. -/
def Caused (b : Backend) (key : String) (g : Nat) (snapshot : ObservationManager.Snapshot) : Prop :=
  ∃ prepared ∈ b.prepared, snapshot.control.key = prepared.key ∧ snapshot.control.revision = prepared.revision ∧
    snapshot.controlAction = prepared.record.request.action ∧ ∃ found ∈ prepared.found, found.key = key ∧
      found.targets ≠ [] ∧ ∀ target ∈ found.targets, target ∈ prepared.record.request.targets ∧
        target.name ∈ found.bundle.runtimeTargets.map RuntimeTarget.name ∧ target.expectedGeneration = g

theorem project_paused {snapshot : ObservationManager.Snapshot} {claimRequired : Bool}
    (paused : (ObservationManager.project snapshot claimRequired).eventType = .paused) :
    snapshot.controlCommitted = true ∧ snapshot.controlAction = .pause := by
  unfold ObservationManager.project at paused
  dsimp only at paused
  split at paused
  · cases paused
  split at paused
  · cases paused
  split at paused
  · cases paused
  split at paused
  next tied => exact tied.2
  split at paused
  · cases paused
  split at paused
  · cases paused
  · cases paused

theorem control_fenced_by_generation (server : Server) (steps : List Step)
    (unclaimed : Guarded Backend.step Unclaimed (.begin server) steps) :
    let b := run Backend.step (.begin server) steps
    ∀ key marker observed, b.markers.lookup key = some marker → observed.observedGeneration = marker.bundle.generation →
      ((b.snapshot key observed).controlCommitted = true →
        Caused b key observed.observedGeneration (b.snapshot key observed)) ∧
      (∀ claimRequired, (ObservationManager.project (b.snapshot key observed) claimRequired).eventType = .paused →
        (b.snapshot key observed).controlAction = .pause ∧
          Caused b key observed.observedGeneration (b.snapshot key observed)) ∧
      ∀ state, ObservationManager.observedRetirement (b.snapshot key observed) state = some true →
        Caused b key observed.observedGeneration (b.snapshot key observed) := by
  intro b key marker observed there generation
  have sound : Ledgered b := ledgered_run server steps
  have aligned : Aligned b := guarded_keeps (fun b step (inv : Aligned b) => inv.step) (fun _ _ there => nomatch there) unclaimed
  have caused : (b.snapshot key observed).controlCommitted = true →
      Caused b key observed.observedGeneration (b.snapshot key observed) := by
    intro committed
    unfold Backend.snapshot at committed ⊢
    rcases reported_cases sound there with ⟨id,record,latest,reported⟩ | ⟨_,uncommitted⟩
    · rw [reported]
      obtain ⟨prepared,member,named,traces⟩ := sound.traced id record (.inl latest.held)
      have located := sound.located prepared member
      have touched := latest.touched
      rw [traces.bundleKeys,located.keys] at touched
      obtain ⟨found,chosen,rfl⟩ := List.mem_map.mp touched
      obtain ⟨progress,target,job⟩ := List.mem_map.mp (located.objects ▸ List.mem_map_of_mem chosen)
      have mutation : progress.mutation ∈ record.mutations :=
        traces.targets ▸ List.mem_map_of_mem target
      have here := aligned found.key marker.bundle (by rw [there]; rfl) id record (.inl latest.held) progress.mutation mutation
        (by rw [job]; rfl)
      rw [job] at here
      refine ⟨prepared,member,?_,traces.revision,?_,found,chosen,rfl,(located.targets found chosen).1,?_⟩
      · exact congrArg ControlRequest.idempotencyKey traces.request
      · exact congrArg ControlRequest.action traces.request
      · intro requested listed
        obtain ⟨asked,name,expected⟩ := (located.targets found chosen).2 requested listed
        exact ⟨asked,name,expected.trans (here.trans generation.symm)⟩
    · cases reported : controlMetadataForBundle b key with
      | none => rw [reported] at committed; cases committed
      | some metadata =>
        rw [reported] at committed
        cases (uncommitted metadata reported).symm.trans committed
  refine ⟨caused,?_,?_⟩
  · intro claimRequired paused
    have tied := project_paused paused
    exact ⟨tied.2,caused tied.1⟩
  · intro state retired
    unfold ObservationManager.observedRetirement at retired
    split at retired
    next terminal => exact caused terminal.2
    · cases retired

section Demo

def demoObserved (generation : Nat) : ObservationManager.Snapshot where
  observedGeneration := generation
  workloadAdmitted := false
  resourceClaimsAllocated := false
  allocatedDeviceIDs := []
  jobActive := 0
  workerRegistrationRequired := false
  podReady := false
  jobSucceeded := 0
  jobFailed := 0
  jobPaused := true
  jobDeleted := false
  reason := ""
  observedAt := none
  control := ⟨"",0,""⟩
  controlAction := .unknown
  controlCommitted := false
  controlRetireRun := false

def demoNext : Bundle where
  generation := 2
  sourceJobId := "job"
  sourceRunId := "run"
  runtimeTargets := [⟨"unit","sandbox",2⟩]
  fenced := by simp

def demoReplace : Step := .apply "ns/a" demoNext [.put ⟨"ns/a",2⟩ demoJob] true

/-- The bundle is replaced, and its second generation is paused. -/
def demoReplaced : List Step :=
  [demoApply,demoReplace,.control { demoRequest .pause "pause" with targets := [⟨"unit","sandbox",2⟩] } smooth]

theorem control_fenced_by_generation_demo : Guarded Backend.step Unclaimed (.begin demoServer) demoReplaced ∧
    Caused (run Backend.step (.begin demoServer) demoReplaced) "ns/a" 2
      ((run Backend.step (.begin demoServer) demoReplaced).snapshot "ns/a" (demoObserved 2)) := by
  have unclaimed : Guarded Backend.step Unclaimed (.begin demoServer) demoReplaced := by
    refine ⟨?_,?_,trivial,trivial⟩ <;> rintro _ _ _ _ (held | held) <;> cases held
  have there : (run Backend.step (.begin demoServer) demoReplaced).markers.lookup "ns/a" =
      some ⟨demoNext,some ⟨"pause","pause",.pause,1,true,false⟩⟩ := by decide +kernel
  exact ⟨unclaimed,((control_fenced_by_generation demoServer demoReplaced unclaimed) "ns/a" _ (demoObserved 2) there rfl).1
    (by decide +kernel)⟩

def demoPaused : List Step := [demoApply,.control (demoRequest .pause "pause") smooth]

/-- The second generation, suspended until it is admitted, is projected as paused by the request given to the first. -/
theorem new_generation_paused :
    let b := run Backend.step (.begin demoServer) (demoPaused ++ [demoReplace])
    (b.markers.lookup "ns/a").map (fun marker => marker.bundle.generation) = some 2 ∧
    (b.prepared.flatMap fun prepared => prepared.record.request.targets.map ControlTarget.expectedGeneration) = [1] ∧
    (b.snapshot "ns/a" (demoObserved 2)).controlCommitted = true ∧
    (ObservationManager.project (b.snapshot "ns/a" (demoObserved 2)) false).eventType = .paused := by decide +kernel

end Demo

end TgsRl.Controls
