import Mathlib.Data.Finset.Max
import Mathlib.Data.Prod.Lex
import TgsRl.Jobs

/-!
The aggregated status of a component, merged from the reports of its sources. The aggregate keeps
the observation of each source in annotations, and a merge reads these back: a source with a dot in
its name is lost with the next report, and a time outside the years 0 to 9999 is read back as 1970.
A report without a time was made at the epoch.
-/
namespace TgsRl.Aggregates
open Jobs State

/-- What reports are compared by. -/
def age (o : Observation) : Nat ×ₗ Int := toLex (o.revision.toNat,o.observedAt)

/-- What is kept of a report: the runtime state may be stated in its annotations. -/
def observed (r : ComponentStatus) : Observation := (normalizeRuntimeSignal r).toObservation

/-- What an annotation shows of an observation: whether a state has converged is written with the state only. -/
def shown (o : Observation) : Observation := { o with converged := o.converged && decide (o.state ≠ .unknown) }

/-- The reports of a component, from named sources, at times that can be read back. -/
structure Reports (component : String) (reports : List ComponentStatus) : Prop where
  some : reports ≠ []
  one : ∀ r ∈ reports, r.component = component
  named : ∀ r ∈ reports, r.source ≠ ""
  timed : ∀ r ∈ reports, Timed r.observedAt
  distinct : reports.Pairwise (fun a b => a.source = b.source → age a.toObservation ≠ age b.toObservation)

/-- The newest of the reports that pass the test. -/
structure Newest (reports : List ComponentStatus) (test : ComponentStatus → Prop) (r : ComponentStatus) : Prop where
  member : r ∈ reports
  passes : test r
  newest : ∀ other ∈ reports, test other → age other.toObservation ≤ age r.toObservation

def Latest (reports : List ComponentStatus) (source : String) : ComponentStatus → Prop :=
  Newest reports (fun r => r.source = source)

/-- An authoritative report that carries a runtime state. -/
def Signals (r : ComponentStatus) : Prop :=
  r.source = authoritativeRuntimeObservationSource ∧ (observed r).state ≠ .unknown

/-- The aggregate of the reports: its annotations are those of the newest report of every source, its health is the worst
    among these, and its state is that of the newest signal. -/
structure Retained (reports : List ComponentStatus) (aggregate : Aggregate) : Prop where
  annotations : ∀ pair, pair ∈ aggregate.annotations ↔
    ∃ source r, Latest reports source r ∧ pair ∈ observationAnnotations source (observed r)
  worst : (∃ source r, Latest reports source r ∧ (observed r).health = aggregate.health) ∧
    ∀ source r, Latest reports source r → healthRank (observed r).health ≤ healthRank aggregate.health
  signal : ∀ r, Newest reports Signals r →
    aggregate.state = (observed r).state ∧ aggregate.converged = (observed r).converged

def ofComponent (component : String) (existing : List Aggregate) : List Aggregate :=
  existing.filter (fun status => decide (status.component = component))

def report (existing : List Aggregate) (incoming : ComponentStatus) : List Aggregate :=
  upsertAggregatedStatus existing (mergeAggregatedStatus existing incoming)

section Reports
variable {component : String} {reports : List ComponentStatus} {r : ComponentStatus}

theorem age_observed (r : ComponentStatus) : age (observed r) = age r.toObservation := by
  rw [observed,normalizeRuntimeSignal]
  split
  · rfl
  · cases r.stated <;> rfl

theorem shown_annotations {source : String} {o o' : Observation} (same : shown o = shown o') :
    observationAnnotations source o = observationAnnotations source o' := by
  have fields : ∀ o, observationFields (shown o) = observationFields o := by
    intro o
    by_cases known : o.state = .unknown <;> simp [observationFields,shown,known]
  rw [observationAnnotations,← fields,same,fields,observationAnnotations]

theorem isObservationNewer_iff (candidate current : Observation) :
    isObservationNewer candidate current = true ↔ age current < age candidate := by
  rw [isObservationNewer,age,age,Prod.Lex.toLex_lt_toLex]
  by_cases same : candidate.revision = current.revision
  · simp [same]
  · have apart : current.revision.toNat ≠ candidate.revision.toNat := fun equal => same (UInt64.toNat_inj.mp equal).symm
    simp [same,apart,UInt64.lt_iff_toNat_lt]

variable {test : ComponentStatus → Prop}

theorem newest_exists (member : r ∈ reports) (passes : test r) : ∃ r, Newest reports test r := by
  classical
  obtain ⟨top,here,bound⟩ := (reports.toFinset.filter test).exists_max_image (fun r => age r.toObservation)
    ⟨r,Finset.mem_filter.mpr ⟨List.mem_toFinset.mpr member,passes⟩⟩
  obtain ⟨listed,passes⟩ := Finset.mem_filter.mp here
  exact ⟨top,List.mem_toFinset.mp listed,passes,fun other there also =>
    bound other (Finset.mem_filter.mpr ⟨List.mem_toFinset.mpr there,also⟩)⟩

theorem latest_exists {source : String} (member : r ∈ reports) (named : r.source = source) : ∃ r, Latest reports source r :=
  newest_exists member named

theorem Newest.congr {other : List ComponentStatus} (set : ∀ r, r ∈ reports ↔ r ∈ other) (newest : Newest reports test r) :
    Newest other test r :=
  ⟨(set r).mp newest.member,newest.passes,fun s there => newest.newest s ((set s).mpr there)⟩

theorem Reports.same (given : Reports component reports) {a b : ComponentStatus} (first : a ∈ reports) (second : b ∈ reports)
    (source : a.source = b.source) (ages : age a.toObservation = age b.toObservation) : a = b := by
  by_contra different
  have symmetric : Std.Symm (fun a b : ComponentStatus => a.source = b.source → age a.toObservation ≠ age b.toObservation) :=
    ⟨fun a b apart source same => apart source.symm same.symm⟩
  exact given.distinct.forall first second different source ages

end Reports

section Merge
variable {existing : List Aggregate} {component : String} {incoming : ComponentStatus} {seen reports : List ComponentStatus}
  {source : String}

theorem parse_only {aggregate : Aggregate} (only : ofComponent component existing = [aggregate]) :
    (parseObservations existing component).lookup source = aggregate.observations.lookup source := by
  have general : ∀ (entries : List (String × Observation)) (held : Map String Observation), (entries.map Prod.fst).Nodup →
      (entries.foldl (fun held entry => held.insert entry.1 entry.2) held).lookup source =
        ((entries.find? (fun entry => decide (entry.1 = source))).map Prod.snd).or (held.lookup source) := by
    intro entries
    induction entries with
    | nil => simp
    | cons entry entries ih =>
      intro held distinct
      obtain ⟨new,distinct⟩ := List.nodup_cons.mp distinct
      rw [List.foldl_cons,ih _ distinct]
      by_cases own : entry.1 = source
      · have none : entries.find? (fun entry => decide (entry.1 = source)) = none := by
          rw [List.find?_eq_none]
          intro e there same
          exact new (List.mem_map.mpr ⟨e,there,(of_decide_eq_true same).trans own.symm⟩)
        rw [none,List.find?_cons_of_pos (by simpa using own),own,AList.lookup_insert]
        rfl
      · rw [List.find?_cons_of_neg (by simpa using own),AList.lookup_insert_ne (Ne.symm own)]
  have distinct : (aggregate.observations.pairs.map Prod.fst).Nodup := by
    rw [Map.pairs,List.map_map]
    exact aggregate.observations.nodupKeys
  rw [parseObservations,show existing.filter _ = [aggregate] from only,List.flatMap_singleton,general _ _ distinct,
    AList.lookup_empty,Option.or_none]
  cases found : aggregate.observations.pairs.find? (fun entry => decide (entry.1 = source)) with
  | none =>
    cases held : aggregate.observations.lookup source with
    | none => rfl
    | some o => exact absurd (List.find?_eq_none.mp found _ (Map.mem_pairs_iff.mpr held)) (by simp)
  | some entry =>
    obtain rfl : entry.1 = source := by simpa using List.find?_some found
    exact (Map.mem_pairs_iff.mp (List.mem_of_find?_eq_some found)).symm

/-- The observations are those of the newest report of each source, as they are shown. -/
def Held (reports : List ComponentStatus) (held : Map String Observation) : Prop :=
  ∀ source s, (held.lookup source).map shown = some s ↔ ∃ r, Latest reports source r ∧ s = shown (observed r)

theorem latest_other (different : incoming.source ≠ source) {r : ComponentStatus} :
    Latest (seen ++ [incoming]) source r ↔ Latest seen source r := by
  constructor
  · intro latest
    refine ⟨?_,latest.passes,fun other there => latest.newest other (List.mem_append_left _ there)⟩
    rcases List.mem_append.mp latest.member with there | last
    · exact there
    · exact absurd (List.mem_singleton.mp last ▸ latest.passes) different
  · intro latest
    refine ⟨List.mem_append_left _ latest.member,latest.passes,fun other there source => ?_⟩
    rcases List.mem_append.mp there with there | last
    · exact latest.newest other there source
    · exact absurd (List.mem_singleton.mp last ▸ source) different

theorem observationsBySource_eq (named : incoming.source ≠ "") :
    observationsBySource existing incoming =
      if ((parseObservations existing incoming.component).lookup incoming.source).all (isObservationNewer (observed incoming)) = true
      then (parseObservations existing incoming.component).insert incoming.source (observed incoming)
      else parseObservations existing incoming.component := by
  have own : sourceOf incoming = incoming.source := if_neg named
  rw [← own]
  rfl

theorem held_merge (named : incoming.source ≠ "")
    (fresh : ∀ s ∈ seen, s.source = incoming.source → age s.toObservation ≠ age incoming.toObservation)
    (parsed : Held seen (parseObservations existing incoming.component)) :
    Held (seen ++ [incoming]) (observationsBySource existing incoming) := by
  have last : incoming ∈ seen ++ [incoming] := List.mem_append_right _ (List.mem_singleton_self _)
  have only (newer : ∀ s ∈ seen, s.source = incoming.source → age s.toObservation < age incoming.toObservation)
      (s : Observation) : some (shown (observed incoming)) = some s ↔
        ∃ r, Latest (seen ++ [incoming]) incoming.source r ∧ s = shown (observed r) := by
    constructor
    · intro same
      refine ⟨incoming,⟨last,rfl,fun other there source => ?_⟩,(Option.some.inj same).symm⟩
      rcases List.mem_append.mp there with there | here
      · exact (newer other there source).le
      · rw [List.mem_singleton.mp here]
    · rintro ⟨r,latest,rfl⟩
      rcases List.mem_append.mp latest.member with there | here
      · exact absurd (newer r there latest.passes) (not_lt.mpr (latest.newest incoming last rfl))
      · rw [List.mem_singleton.mp here]
  intro source s
  rw [observationsBySource_eq named]
  by_cases different : incoming.source = source
  · subst different
    cases before : (parseObservations existing incoming.component).lookup incoming.source with
    | none =>
      rw [Option.all_none,if_pos rfl,AList.lookup_insert]
      refine only (fun s there source => ?_) s
      obtain ⟨r,latest⟩ := latest_exists there source
      have found := (parsed incoming.source _).mpr ⟨r,latest,rfl⟩
      rw [before] at found
      cases found
    | some held =>
      obtain ⟨r,latest,same⟩ := (parsed incoming.source (shown held)).mp (by rw [before]; rfl)
      have ages : age held = age r.toObservation := (congrArg age same).trans (age_observed r)
      rw [Option.all_some]
      by_cases newer : isObservationNewer (observed incoming) held = true
      · have later := (isObservationNewer_iff _ _).mp newer
        rw [age_observed,ages] at later
        rw [if_pos newer,AList.lookup_insert]
        exact only (fun s there source => (latest.newest s there source).trans_lt later) s
      · have older : age incoming.toObservation ≤ age r.toObservation := by
          have not := mt (isObservationNewer_iff _ _).mpr newer
          rwa [age_observed,ages,not_lt] at not
        rw [if_neg newer,parsed incoming.source s]
        refine exists_congr fun s => and_congr_left fun _ => ⟨fun held => ?_,fun held => ?_⟩
        · refine ⟨List.mem_append_left _ held.member,held.passes,fun other there source => ?_⟩
          rcases List.mem_append.mp there with there | here
          · exact held.newest other there source
          · rw [List.mem_singleton.mp here]
            exact older.trans (held.newest r latest.member latest.passes)
        · rcases List.mem_append.mp held.member with there | here
          · exact ⟨there,held.passes,fun other there => held.newest other (List.mem_append_left _ there)⟩
          · have above := held.newest r (List.mem_append_left _ latest.member) latest.passes
            rw [List.mem_singleton.mp here] at above
            exact absurd (le_antisymm above older) (fresh r latest.member latest.passes)
  · have before : ((parseObservations existing incoming.component).lookup source).map shown = some s ↔
        ∃ r, Latest (seen ++ [incoming]) source r ∧ s = shown (observed r) := by
      rw [parsed source s]
      exact exists_congr fun r => and_congr_left fun _ => (latest_other different).symm
    rw [← before]
    split
    · rw [AList.lookup_insert_ne (Ne.symm different)]
    · rfl

theorem filter_upsert {aggregated : Aggregate} (same : aggregated.component = component)
    (one : (ofComponent component existing).length ≤ 1) :
    ofComponent component (upsertAggregatedStatus existing aggregated) = [aggregated] := by
  have replaced : ofComponent component
      (existing.map (fun status => if status.component = aggregated.component then aggregated else status)) =
      (ofComponent component existing).map (fun _ => aggregated) := by
    clear one
    induction existing with
    | nil => rfl
    | cons status existing ih =>
      by_cases own : status.component = component <;> simp [ofComponent,same,own] <;> simpa [ofComponent,same] using ih
  rw [upsertAggregatedStatus,ofComponent]
  refine List.perm_singleton.mp (((List.perm_insertionSort _ _).filter _).trans (.of_eq ?_))
  split
  · next held =>
    obtain ⟨status,there,own⟩ := List.any_eq_true.mp held
    have member : status ∈ ofComponent component existing := List.mem_filter.mpr ⟨there,same ▸ own⟩
    obtain ⟨only,single⟩ := List.length_eq_one_iff.mp (le_antisymm one (List.length_pos_of_mem member))
    refine replaced.trans ?_
    rw [single,List.map_singleton]
  · next none =>
    have empty : ofComponent component existing = [] := by
      rw [ofComponent,List.filter_eq_nil_iff]
      intro status there own
      exact none (List.any_eq_true.mpr ⟨status,there,same ▸ own⟩)
    have own : [aggregated].filter (fun status => decide (status.component = component)) = [aggregated] :=
      List.filter_eq_self.mpr (by simp [same])
    rw [empty] at replaced
    rw [List.filter_append,own]
    exact congrArg (· ++ [aggregated]) replaced

theorem worst_health {entries : List (String × Observation)} (some : entries ≠ []) :
    let worst := entries.foldl (fun health o => if healthRank health < healthRank o.2.health then o.2.health else health) .unknown
    (∃ entry ∈ entries, entry.2.health = worst) ∧ ∀ entry ∈ entries, healthRank entry.2.health ≤ healthRank worst := by
  have general : ∀ (entries : List (String × Observation)) (health : ComponentHealth),
      let worst := entries.foldl (fun health o => if healthRank health < healthRank o.2.health then o.2.health else health) health
      (worst = health ∨ ∃ entry ∈ entries, entry.2.health = worst) ∧ healthRank health ≤ healthRank worst ∧
        ∀ entry ∈ entries, healthRank entry.2.health ≤ healthRank worst := by
    intro entries
    induction entries with
    | nil => simp
    | cons entry entries ih =>
      intro health
      obtain ⟨from_,above,bound⟩ := ih (if healthRank health < healthRank entry.2.health then entry.2.health else health)
      simp only [List.foldl_cons,List.mem_cons,exists_eq_or_imp,forall_eq_or_imp]
      split at above <;> rename_i step <;> simp only [step,if_true,if_false] at from_ bound ⊢
      · exact ⟨.inr (from_.imp Eq.symm id),by omega,above,bound⟩
      · exact ⟨from_.imp id .inr,above,by omega,bound⟩
  obtain ⟨from_,-,bound⟩ := general entries .unknown
  refine ⟨?_,bound⟩
  rcases from_ with unknown | listed
  · obtain ⟨entry,rest,rfl⟩ := List.exists_cons_of_ne_nil some
    have low := bound entry List.mem_cons_self
    refine ⟨entry,List.mem_cons_self,?_⟩
    rw [unknown] at low ⊢
    cases health : entry.2.health <;> rw [health] at low <;> first | rfl | exact absurd low (by decide)
  · exact listed

/-- The newest report of the authoritative source carries a state if any of its reports does. -/
def SignalsLast (reports : List ComponentStatus) : Prop :=
  ∀ r, Latest reports authoritativeRuntimeObservationSource r → (∃ s ∈ reports, Signals s) → Signals r

theorem retained_merge (given : Reports component reports) (held : Held reports (observationsBySource existing incoming))
    (last : SignalsLast reports) : Retained reports (mergeAggregatedStatus existing incoming) := by
  -- what is kept and what was reported show the same
  have kept : ∀ {source o}, (observationsBySource existing incoming).lookup source = some o →
      ∃ r, Latest reports source r ∧ shown o = shown (observed r) :=
    fun {source o} found => (held source (shown o)).mp (by rw [found]; rfl)
  have told : ∀ {source r}, Latest reports source r →
      ∃ o, (observationsBySource existing incoming).lookup source = some o ∧ shown o = shown (observed r) :=
    fun {source r} latest => Option.map_eq_some_iff.mp ((held source _).mpr ⟨r,latest,rfl⟩)
  refine ⟨fun pair => ?_,?_,fun r top => ?_⟩
  · refine List.mem_flatMap.trans ⟨?_,?_⟩
    · rintro ⟨entry,member,printed⟩
      obtain ⟨r,latest,same⟩ := kept (mem_observationsBySource.mp member)
      exact ⟨entry.1,r,latest,shown_annotations same ▸ printed⟩
    · rintro ⟨source,r,latest,printed⟩
      obtain ⟨o,found,same⟩ := told latest
      exact ⟨(source,o),mem_observationsBySource.mpr found,shown_annotations same ▸ printed⟩
  · obtain ⟨r,there⟩ := List.exists_mem_of_ne_nil reports given.some
    obtain ⟨top,latest⟩ := latest_exists there rfl
    obtain ⟨o,found,_⟩ := told latest
    have listed := (@mem_observationsBySource existing incoming (r.source,o)).mpr found
    obtain ⟨⟨entry,member,same⟩,bound⟩ := worst_health (List.ne_nil_of_mem listed)
    constructor
    · obtain ⟨r,latest,shows⟩ := kept (mem_observationsBySource.mp member)
      exact ⟨entry.1,r,latest,(congrArg Observation.health shows).symm.trans same⟩
    · intro source r latest
      obtain ⟨o,found,shows⟩ := told latest
      have health : (shown o).health = (shown (observed r)).health := congrArg Observation.health shows
      have low := bound (source,o) (mem_observationsBySource.mpr found)
      exact (congrArg healthRank health).symm.le.trans low
  · obtain ⟨charge,latest⟩ := latest_exists top.member top.passes.1
    have signals := last charge latest ⟨r,top.member,top.passes⟩
    obtain rfl : charge = r := given.same latest.member top.member (latest.passes.trans top.passes.1.symm)
      (le_antisymm (top.newest charge latest.member signals) (latest.newest r top.member top.passes.1))
    obtain ⟨o,found,shows⟩ := told latest
    have state : (shown o).state = (shown (observed charge)).state := congrArg Observation.state shows
    change o.state = (observed charge).state at state
    have converged : o.converged = (observed charge).converged := by
      have both := congrArg Observation.converged shows
      simpa [shown,state,signals.2] using both
    have known : ((observationsBySource existing incoming).lookup authoritativeRuntimeObservationSource).filter
        (fun o => decide (o.state ≠ .unknown)) = some o := by
      rw [found]
      simp [state,signals.2]
    rw [← state,← converged]
    constructor
    · show (Option.elim _ _ _) = _
      rw [known]
      rfl
    · show (Option.elim _ _ _) = _
      rw [known]
      rfl

end Merge

section Orders
variable {component : String} {others : List Aggregate} {seen reports : List ComponentStatus}

/-- The aggregate of the reports that have arrived. -/
structure Merged (component : String) (seen : List ComponentStatus) (existing : List Aggregate) : Prop where
  none : seen = [] → ofComponent component existing = []
  some : seen ≠ [] → ∃ prior incoming, incoming.component = component ∧ Held seen (observationsBySource prior incoming) ∧
    ofComponent component existing = [mergeAggregatedStatus prior incoming]

variable {existing : List Aggregate} {r : ComponentStatus} {order : List ComponentStatus}

theorem Merged.report (merged : Merged component seen existing)
    (back : ∀ s ∈ seen, '.' ∉ s.source.toList ∧ Timed s.observedAt) (own : r.component = component) (named : r.source ≠ "")
    (fresh : ∀ s ∈ seen, s.source = r.source → age s.toObservation ≠ age r.toObservation) :
    Merged component (seen ++ [r]) (report existing r) := by
  subst own
  refine ⟨fun none => absurd none (by simp),fun _ => ⟨existing,r,rfl,held_merge named fresh ?_,filter_upsert rfl ?_⟩⟩
  · intro source s
    by_cases first : seen = []
    · rw [parseObservations,show existing.filter _ = [] from merged.none first]
      subst first
      simp only [List.flatMap_nil,List.foldl_nil,AList.lookup_empty,Option.map_none,reduceCtorEq,false_iff,not_exists,not_and]
      exact fun r latest => absurd latest.member List.not_mem_nil
    · obtain ⟨prior,incoming,-,held,only⟩ := merged.some first
      rw [parse_only only,← held source s,Option.map_eq_some_iff,Option.map_eq_some_iff]
      -- a report that was kept is read back as it is shown
      have read : ∀ kept, (observationsBySource prior incoming).lookup source = Option.some kept →
          '.' ∉ source.toList ∧ reread kept = shown kept := by
        intro kept found
        obtain ⟨s,latest,same⟩ := (held source (shown kept)).mp (by rw [found]; rfl)
        obtain ⟨plain,timed⟩ := back s latest.member
        have time : kept.observedAt = s.observedAt :=
          (congrArg (fun o => (ofLex (age o)).2) same).trans (congrArg (fun a => (ofLex a).2) (age_observed s))
        exact ⟨latest.passes ▸ plain,reread_timed (time ▸ timed)⟩
      constructor
      · rintro ⟨o,found,rfl⟩
        obtain ⟨_,kept,there,rfl⟩ := merged_lookup.mp found
        refine ⟨kept,there,?_⟩
        rw [(read kept there).2]
        simp [shown]
      · rintro ⟨kept,there,rfl⟩
        refine ⟨reread kept,merged_lookup.mpr ⟨(read kept there).1,kept,there,rfl⟩,?_⟩
        rw [(read kept there).2]
        simp [shown]
  · by_cases first : seen = []
    · simp [merged.none first]
    · obtain ⟨prior,incoming,-,-,only⟩ := merged.some first
      simp [only]

theorem merged_foldl (absent : ∀ status ∈ others, status.component ≠ component) (given : Reports component reports)
    (plain : reports.length = 1 ∨ ∀ r ∈ reports, '.' ∉ r.source.toList) :
    Merged component reports (reports.foldl report others) := by
  have go : ∀ (rest seen : List ComponentStatus) (existing : List Aggregate), seen ++ rest = reports →
      Merged component seen existing → Merged component reports (rest.foldl report existing) := by
    intro rest
    induction rest with
    | nil =>
      intro seen existing whole merged
      rw [List.append_nil] at whole
      exact whole ▸ merged
    | cons r rest ih =>
      intro seen existing whole merged
      have member : r ∈ reports := by
        rw [← whole]
        simp
      have back : ∀ s ∈ seen, '.' ∉ s.source.toList ∧ Timed s.observedAt := by
        intro s there
        have inside : s ∈ reports := whole ▸ List.mem_append_left _ there
        refine ⟨?_,given.timed s inside⟩
        rcases plain with one | all
        · rw [← whole,List.length_append,List.length_cons] at one
          exact absurd (List.length_pos_of_mem there) (by omega)
        · exact all s inside
      have distinct := given.distinct
      rw [← whole] at distinct
      have fresh : ∀ s ∈ seen, s.source = r.source → age s.toObservation ≠ age r.toObservation :=
        fun s there => (List.pairwise_append.mp distinct).2.2 s there r List.mem_cons_self
      exact ih (seen ++ [r]) (report existing r) (by rw [List.append_assoc,List.singleton_append,whole])
        (merged.report back (given.one r member) (given.named r member) fresh)
  refine go reports [] others rfl ⟨fun _ => ?_,fun some => absurd rfl some⟩
  exact List.filter_eq_nil_iff.mpr fun status there own => absent status there (of_decide_eq_true own)

theorem Reports.perm (given : Reports component reports) (perm : order.Perm reports) : Reports component order := by
  refine ⟨fun none => ?_,fun r there => given.one r (perm.mem_iff.mp there),fun r there => given.named r (perm.mem_iff.mp there),
    fun r there => given.timed r (perm.mem_iff.mp there),?_⟩
  · rw [none] at perm
    exact given.some perm.nil_eq.symm
  · exact (perm.pairwise_iff fun apart source same => apart source.symm same.symm).mpr given.distinct

theorem Retained.perm {aggregate : Aggregate} (perm : order.Perm reports) (retained : Retained order aggregate) :
    Retained reports aggregate := by
  have latest : ∀ {source r}, Latest order source r ↔ Latest reports source r :=
    ⟨Newest.congr (fun _ => perm.mem_iff),Newest.congr (fun _ => perm.mem_iff.symm)⟩
  refine ⟨fun pair => (retained.annotations pair).trans ?_,?_,
    fun r top => retained.signal r (top.congr fun _ => perm.mem_iff.symm)⟩
  · simp only [latest]
  · simpa only [latest] using retained.worst

end Orders

def reportOf (source : String) (health : ComponentHealth) (revision : UInt64) : ComponentStatus where
  health
  detail := ""
  revision
  observedAt := 0
  state := .running
  converged := true
  component := "runtime"
  source
  jobId := "job"
  runId := "run"
  stated := none
  statedConverged := none

end TgsRl.Aggregates
