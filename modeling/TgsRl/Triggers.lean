import Mathlib.Data.List.DropRight
import Mathlib.Data.List.MinMax
import Mathlib.Data.Prod.Lex
import Mathlib.Data.String.Basic
import TgsRl.Ticks

/-!
Triggers of one key, merged in the order they arrive in. The revision and the causes that are left
do not depend on that order; the observation does, because a trigger of a newer revision brings its
own observation with it even where the merged trigger has a newer one.
-/
namespace TgsRl.Triggers
open State Validation Ticks

def causes (text : String) : List String :=
  ((text.splitOn "|").map trimSpace).filter (fun item => decide (item ≠ ""))

section Split
open String

/-- With `word` read since the last bar, at the start of `rest`. -/
theorem splitOnAux_bar (left word rest : List Char) (found : List String) :
    String.splitOnAux (ofList (left ++ word ++ rest)) "|" ⟨utf8Len left⟩ ⟨utf8Len left + utf8Len word⟩ 0 found =
      found.reverse ++ (List.splitOnPPrepend (· == '|') rest word.reverse).map ofList := by
  induction rest generalizing left word found with
  | nil =>
    have ended := atEnd_of_valid (left ++ word) []
    have piece := extract_of_valid left word []
    rw [utf8Len_append] at ended
    rw [String.splitOnAux,if_pos (ended.mpr rfl),piece]
    simp
  | cons c rest ih =>
    have ended := atEnd_of_valid (left ++ word) (c :: rest)
    have here := get_of_valid (left ++ word) (c :: rest)
    have next := next_of_valid (left ++ word) c rest
    have piece := extract_of_valid left word (c :: rest)
    rw [utf8Len_append] at ended here next
    rw [String.splitOnAux,if_neg (fun done => by cases ended.mp done),here]
    by_cases bar : c = '|'
    · subst bar
      have later := ih (left ++ word ++ ['|']) [] (ofList word :: found)
      rw [utf8Len_append,utf8Len_append] at later
      rw [if_pos (by rfl)]
      show (if Pos.Raw.atEnd "|" (Pos.Raw.next "|" 0) = true then _ else _) = _
      have back : Pos.Raw.unoffsetBy ⟨utf8Len left + utf8Len word + '|'.utf8Size⟩ (Pos.Raw.next "|" 0) =
          ⟨utf8Len left + utf8Len word⟩ := rfl
      rw [if_pos (by rfl),next,back,piece]
      simpa [List.splitOnPPrepend_cons_eq_if,-ofList_append] using later
    · have later := ih left (word ++ [c]) found
      rw [utf8Len_append] at later
      have other : ((c :: rest).headD default == Pos.Raw.get "|" 0) = false := by
        show (c == '|') = false
        simpa using bar
      rw [other,if_neg Bool.false_ne_true]
      show String.splitOnAux _ "|" _ (Pos.Raw.next _ ⟨utf8Len left + utf8Len word⟩) 0 found = _
      rw [next]
      simpa [List.splitOnPPrepend_cons_eq_if,bar,Nat.add_assoc,-ofList_append] using later

theorem splitOn_bar (text : String) : text.splitOn "|" = (text.toList.splitOn '|').map ofList := by
  simpa [String.splitOn,List.splitOn] using splitOnAux_bar [] [] text.toList []

end Split

theorem notMem_of_mem_splitOn {sep : Char} {text piece : List Char} (member : piece ∈ text.splitOn sep) : sep ∉ piece := by
  induction text generalizing piece with
  | nil => simp_all
  | cons c text ih =>
    rw [List.splitOn_cons_eq_if_modifyHead] at member
    by_cases same : c = sep
    · rcases List.mem_cons.mp (by simpa [same] using member) with rfl | later
      · simp
      · exact ih later
    · cases pieces : text.splitOn sep with
      | nil => exact absurd pieces (List.splitOn_ne_nil sep text)
      | cons first others =>
        rw [if_neg (by simpa using same),pieces,List.modifyHead_cons] at member
        rcases List.mem_cons.mp member with rfl | later
        · have free : sep ∉ first := ih (by simp [pieces])
          simp [free,Ne.symm same]
        · exact ih (by simp [pieces,later])

theorem toList_trimSpace (text : String) : (trimSpace text).toList = (text.toList.dropWhile isSpace).rdropWhile isSpace := by
  simp [trimSpace,List.rdropWhile]

theorem trimSpace_trimSpace (text : String) : trimSpace (trimSpace text) = trimSpace text := by
  have start : ((trimSpace text).toList).dropWhile isSpace = (trimSpace text).toList := by
    rw [toList_trimSpace,List.dropWhile_eq_self_iff]
    intro nonempty
    -- what is cut off at the end does not change the first character
    have kept := List.rdropWhile_prefix isSpace (text.toList.dropWhile isSpace)
    rw [kept.getElem nonempty]
    exact List.dropWhile_get_zero_not _ _ _
  rw [← String.toList_inj,toList_trimSpace,start,toList_trimSpace,List.rdropWhile_idempotent]

variable {item text : String}

theorem bar_notMem_of_mem_causes (member : item ∈ causes text) : '|' ∉ item.toList := by
  simp only [causes,splitOn_bar,List.map_map,List.mem_filter,List.mem_map] at member
  obtain ⟨⟨piece,among,rfl⟩,_⟩ := member
  intro bar
  refine notMem_of_mem_splitOn among ?_
  rw [Function.comp_apply,toList_trimSpace,String.toList_ofList] at bar
  exact (List.dropWhile_suffix isSpace).subset ((List.rdropWhile_prefix isSpace _).subset bar)

theorem trimSpace_of_mem_causes (member : item ∈ causes text) : trimSpace item = item ∧ item ≠ "" := by
  simp only [causes,List.mem_filter,List.mem_map,decide_eq_true_eq] at member
  obtain ⟨⟨piece,_,rfl⟩,nonempty⟩ := member
  exact ⟨trimSpace_trimSpace piece,nonempty⟩

theorem causes_intercalate {items : List String}
    (listed : ∀ item ∈ items, '|' ∉ item.toList ∧ trimSpace item = item ∧ item ≠ "") :
    causes ("|".intercalate items) = items := by
  by_cases empty : items = []
  · simp [empty,causes,splitOn_bar,trimSpace]
  have split : ("|".intercalate items).splitOn "|" = items := by
    rw [splitOn_bar,String.toList_intercalate]
    have back : (['|'].intercalate (items.map String.toList)).splitOn '|' = items.map String.toList :=
      List.splitOn_intercalate '|' (by simpa using fun item member => (listed item member).1) (by simpa using empty)
    simpa using congrArg (List.map String.ofList) back
  have trimmed : items.map trimSpace = items := by
    simpa using List.map_congr_left (fun item member => (listed item member).2.1)
  rw [causes,split,trimmed,List.filter_eq_self]
  simpa using fun item member => (listed item member).2.2

theorem mem_causes_mergeCauses {values : List String} :
    item ∈ causes (mergeCauses values) ↔ ∃ value ∈ values, item ∈ causes value := by
  have items : mergeCauses values = "|".intercalate (sortedSetValues (values.flatMap causes)) := by
    simp only [mergeCauses,List.filter_flatMap]
    rfl
  have among {item : String} : item ∈ sortedSetValues (values.flatMap causes) ↔ ∃ value ∈ values, item ∈ causes value := by
    simp [sortedSetValues,sortedStrings]
  rw [items,causes_intercalate,among]
  intro item member
  obtain ⟨value,_,listed⟩ := among.mp member
  exact ⟨bar_notMem_of_mem_causes listed,trimSpace_of_mem_causes listed⟩

/-- What observations are compared by: when they were made, then their event. -/
def rank (observation : ContractObservation) : Int ×ₗ Int ×ₗ String :=
  let observed := observation.observedAt.getD ⟨0,0⟩
  toLex (observed.seconds,toLex (observed.nanos,observation.eventId))

theorem observationLess_iff {left right : ContractObservation} : observationLess left right = true ↔ rank left < rank right := by
  simp only [observationLess,rank,Prod.Lex.toLex_lt_toLex]
  split_ifs <;> simp_all

def Carries (trigger : Trigger) (observation : ContractObservation) : Prop :=
  trigger.contractObservation = some observation

/-- The observation is the newest one that the triggers carry; there is none if they carry none. -/
def Newest (triggers : List Trigger) : Option ContractObservation → Prop
  | none => ∀ t ∈ triggers, t.contractObservation = none
  | some newest => (∃ t ∈ triggers, Carries t newest) ∧
    ∀ t ∈ triggers, ∀ observation, Carries t observation → rank observation ≤ rank newest

/-- What a trigger keeps of the triggers merged into it: their highest revision, every cause and the newest observation. -/
structure Coalesced (triggers : List Trigger) (trigger : Trigger) : Prop where
  revision : (∃ t ∈ triggers, t.observedRevision = trigger.observedRevision) ∧
    ∀ t ∈ triggers, t.observedRevision ≤ trigger.observedRevision
  causes : ∀ item, item ∈ causes trigger.cause ↔ ∃ t ∈ triggers, item ∈ Triggers.causes t.cause
  observation : Newest triggers trigger.contractObservation

section Merge
variable {current incoming : Trigger}

theorem mergeTrigger_revision : current.observedRevision ≤ (mergeTrigger current incoming).observedRevision ∧
    incoming.observedRevision ≤ (mergeTrigger current incoming).observedRevision ∧
    ((mergeTrigger current incoming).observedRevision = current.observedRevision ∨
      (mergeTrigger current incoming).observedRevision = incoming.observedRevision) := by
  by_cases newer : current.observedRevision < incoming.observedRevision
  · simp [mergeTrigger,newer,UInt64.le_of_lt newer]
  · simp [mergeTrigger,newer,UInt64.not_lt.mp newer]

variable {observation : ContractObservation}

theorem mergeTrigger_carries (carries : Carries (mergeTrigger current incoming) observation) :
    Carries current observation ∨ Carries incoming observation := by
  simp only [Carries,mergeTrigger] at carries ⊢
  cases brought : incoming.contractObservation <;> cases kept : current.contractObservation <;>
    simp only [brought,kept] at carries <;> grind

theorem mergeTrigger_none : (mergeTrigger current incoming).contractObservation = none ↔
    current.contractObservation = none ∧ incoming.contractObservation = none := by
  simp only [mergeTrigger]
  cases incoming.contractObservation <;> cases current.contractObservation <;> simp
  split_ifs <;> simp

theorem mergeTrigger_newer (newer : current.observedRevision < incoming.observedRevision)
    (carries : Carries incoming observation) : Carries (mergeTrigger current incoming) observation := by
  simp only [Carries,mergeTrigger] at carries ⊢
  cases current.contractObservation <;> simp [carries,newer]

theorem mergeTrigger_later (carries : Carries incoming observation)
    (later : ∀ kept, Carries current kept → rank kept ≤ rank observation ∧ (rank kept = rank observation → kept = observation)) :
    Carries (mergeTrigger current incoming) observation := by
  simp only [Carries,mergeTrigger] at carries later ⊢
  cases kept : current.contractObservation with
  | none => simp [carries]
  | some earlier =>
    obtain ⟨atMost,same⟩ := later earlier kept
    rcases atMost.lt_or_eq with less | equal
    · simp [carries,observationLess_iff.mpr less]
    · simp [carries,same equal]

theorem mergeTrigger_keeps (carries : Carries current observation) (older : ∀ brought, Carries incoming brought →
      rank brought ≤ rank observation ∧ incoming.observedRevision ≤ current.observedRevision) :
    Carries (mergeTrigger current incoming) observation := by
  simp only [Carries,mergeTrigger] at carries older ⊢
  cases brought : incoming.contractObservation with
  | none => simp [carries]
  | some other =>
    obtain ⟨atMost,revision⟩ := older other brought
    have kept : observationLess observation other = false := by
      rw [← Bool.not_eq_true,observationLess_iff]
      exact not_lt.mpr atMost
    simp [carries,UInt64.not_lt.mpr revision,kept]

end Merge

section Arrivals
variable {start : Trigger} {rest : List Trigger}

theorem foldl_revision (start : Trigger) (rest : List Trigger) : start.observedRevision ≤ (rest.foldl mergeTrigger start).observedRevision ∧
    (∀ t ∈ rest, t.observedRevision ≤ (rest.foldl mergeTrigger start).observedRevision) ∧
    ∃ t ∈ start :: rest, t.observedRevision = (rest.foldl mergeTrigger start).observedRevision := by
  induction rest generalizing start with
  | nil => simp
  | cons incoming rest ih =>
    obtain ⟨current,brought,one⟩ := @mergeTrigger_revision start incoming
    obtain ⟨first,others,t,among,equal⟩ := ih (mergeTrigger start incoming)
    refine ⟨UInt64.le_trans current first,?_,?_⟩
    · intro t member
      rcases List.mem_cons.mp member with rfl | later
      · exact UInt64.le_trans brought first
      · exact others t later
    · rcases List.mem_cons.mp among with rfl | later
      · rcases one with old | new
        · exact ⟨start,by simp,old ▸ equal⟩
        · exact ⟨incoming,by simp,new ▸ equal⟩
      · exact ⟨t,by simp [later],equal⟩

theorem foldl_causes {item : String} :
    item ∈ causes (rest.foldl mergeTrigger start).cause ↔ ∃ t ∈ start :: rest, item ∈ causes t.cause := by
  induction rest generalizing start with
  | nil => simp
  | cons incoming rest ih =>
    have both : item ∈ causes (mergeTrigger start incoming).cause ↔ item ∈ causes start.cause ∨ item ∈ causes incoming.cause := by
      simp [mergeTrigger,mem_causes_mergeCauses]
    rw [List.foldl_cons,ih]
    simp [both,or_assoc]

variable {observation : ContractObservation}

theorem foldl_carries (carries : Carries (rest.foldl mergeTrigger start) observation) :
    ∃ t ∈ start :: rest, Carries t observation := by
  induction rest generalizing start with
  | nil => exact ⟨start,by simp,carries⟩
  | cons incoming rest ih =>
    obtain ⟨t,member,here⟩ := ih carries
    rcases List.mem_cons.mp member with rfl | later
    · rcases mergeTrigger_carries here with old | new
      · exact ⟨start,by simp,old⟩
      · exact ⟨incoming,by simp,new⟩
    · exact ⟨t,by simp [later],here⟩

theorem foldl_none : (rest.foldl mergeTrigger start).contractObservation = none ↔
    ∀ t ∈ start :: rest, t.contractObservation = none := by
  induction rest generalizing start with
  | nil => simp
  | cons incoming rest ih =>
    rw [List.foldl_cons,ih]
    simp [mergeTrigger_none,and_assoc]

/-- The observation stays where nothing that arrives is newer, by its own time or by its trigger's revision. -/
theorem foldl_keeps (carries : Carries start observation) (older : ∀ t ∈ rest, ∀ brought, Carries t brought →
      rank brought ≤ rank observation ∧ t.observedRevision ≤ start.observedRevision) :
    Carries (rest.foldl mergeTrigger start) observation := by
  induction rest generalizing start with
  | nil => exact carries
  | cons incoming rest ih =>
    refine ih (mergeTrigger_keeps carries (older incoming (by simp))) ?_
    intro t member brought here
    obtain ⟨atMost,revision⟩ := older t (by simp [member]) brought here
    exact ⟨atMost,UInt64.le_trans revision mergeTrigger_revision.1⟩

end Arrivals

section Orders
variable {triggers arrived : List Trigger} {trigger : Trigger} {newest : ContractObservation}

theorem merged_coalesced (order : arrived.Perm triggers) (result : merged arrived = some trigger)
    (newest : Newest triggers trigger.contractObservation) : Coalesced triggers trigger := by
  cases arrived with
  | nil => cases result
  | cons first rest =>
    cases result
    have members (t : Trigger) : t ∈ first :: rest ↔ t ∈ triggers := order.mem_iff
    obtain ⟨least,others,t,among,equal⟩ := foldl_revision first rest
    refine ⟨⟨⟨t,(members t).mp among,equal⟩,?_⟩,?_,newest⟩
    · intro t member
      rcases List.mem_cons.mp ((members t).mpr member) with rfl | later
      · exact least
      · exact others t later
    · intro item
      simp only [foldl_causes,members]

/-- The newest observation survives every order if no trigger with an observation has a higher revision than its own. -/
theorem merged_newest {foremost : Trigger}
    (distinct : ∀ a ∈ triggers, ∀ b ∈ triggers, ∀ o p, Carries a o → Carries b p → rank o = rank p → o = p)
    (order : arrived.Perm triggers) (result : merged arrived = some trigger) (member : foremost ∈ triggers)
    (carries : Carries foremost newest)
    (highest : ∀ t ∈ triggers, ∀ o, Carries t o → rank o ≤ rank newest ∧ t.observedRevision ≤ foremost.observedRevision) :
    Carries trigger newest := by
  obtain ⟨before,after,rfl⟩ := List.append_of_mem (order.mem_iff.mpr member)
  have members {t : Trigger} (among : t ∈ before ++ foremost :: after) : t ∈ triggers := order.mem_iff.mp among
  have later (t : Trigger) (among : t ∈ after) := highest t (members (by simp [among]))
  cases before with
  | nil =>
    cases result
    exact foldl_keeps carries later
  | cons first before =>
    cases result
    show Carries ((before ++ foremost :: after).foldl mergeTrigger first) newest
    rw [List.foldl_append,List.foldl_cons]
    refine foldl_keeps (mergeTrigger_later carries ?_) ?_
    · intro kept held
      obtain ⟨t,among,here⟩ := foldl_carries held
      have known : t ∈ triggers := members (List.mem_append_left _ among)
      exact ⟨(highest t known kept here).1,distinct t known foremost member kept newest here carries⟩
    · intro t among brought here
      obtain ⟨atMost,revision⟩ := later t among brought here
      exact ⟨atMost,UInt64.le_trans revision mergeTrigger_revision.2.1⟩

/-- A trigger of a higher revision than all that carry the observation can push it out. -/
theorem exists_order_without {intruder : Trigger} (member : intruder ∈ triggers) (carried : ∃ t ∈ triggers, Carries t newest)
    (other : ∃ o, Carries intruder o ∧ o ≠ newest)
    (higher : ∀ t ∈ triggers, Carries t newest → t.observedRevision < intruder.observedRevision) :
    ∃ arrived trigger, arrived.Perm triggers ∧ merged arrived = some trigger ∧ ¬Carries trigger newest := by
  obtain ⟨brought,here,different⟩ := other
  let holds (t : Trigger) : Bool := decide (t.contractObservation = some newest)
  have away : intruder ∈ triggers.filter (fun t => !holds t) := by
    have : intruder.contractObservation ≠ some newest := by
      rw [here]
      simpa using different
    simp [member,holds,this]
  -- those that carry the newest observation arrive first, then the intruder
  have order : (triggers.filter holds ++ intruder :: (triggers.filter (fun t => !holds t)).erase intruder).Perm triggers :=
    ((List.perm_cons_erase away).symm.append_left _).trans (List.filter_append_perm holds triggers)
  cases holders : triggers.filter holds with
  | nil =>
    obtain ⟨t,among,carries⟩ := carried
    have : t ∈ triggers.filter holds := by simp [among,holds,show t.contractObservation = some newest from carries]
    simp [holders] at this
  | cons first others =>
    rw [holders] at order
    refine ⟨_,_,order,rfl,?_⟩
    have held (t : Trigger) (among : t ∈ first :: others) : t.observedRevision < intruder.observedRevision := by
      have : t ∈ triggers.filter holds := by rw [holders]; exact among
      simp only [List.mem_filter,holds,decide_eq_true_eq] at this
      exact higher t this.1 this.2
    obtain ⟨_,_,t,among,equal⟩ := foldl_revision first others
    have pushed := mergeTrigger_newer (equal ▸ held t among) here
    show ¬Carries ((others ++ intruder :: _).foldl mergeTrigger first) newest
    rw [List.foldl_append,List.foldl_cons]
    intro back
    obtain ⟨t,among,carries⟩ := foldl_carries back
    rcases List.mem_cons.mp among with rfl | later
    · exact different (Option.some.inj (pushed.symm.trans carries))
    · have := List.mem_of_mem_erase later
      simp [holds,show t.contractObservation = some newest from carries] at this

/-- Some trigger with the newest observation has the highest revision of those with it. -/
theorem exists_foremost {carrier : Trigger} {first : ContractObservation} (member : carrier ∈ triggers)
    (carries : Carries carrier first) :
    ∃ foremost ∈ triggers, ∃ newest, Carries foremost newest ∧
      (∀ t ∈ triggers, ∀ o, Carries t o → rank o ≤ rank newest) ∧
      ∀ t ∈ triggers, Carries t newest → t.observedRevision ≤ foremost.observedRevision := by
  have someObservation : first ∈ triggers.filterMap Trigger.contractObservation := List.mem_filterMap.mpr ⟨carrier,member,carries⟩
  obtain ⟨newest,latest⟩ := Option.ne_none_iff_exists'.mp
    (mt List.argmax_eq_none.mp (List.ne_nil_of_mem someObservation) : List.argmax rank _ ≠ none)
  obtain ⟨holder,among,holds⟩ := List.mem_filterMap.mp (List.argmax_mem latest)
  have held : holder ∈ triggers.filter (fun t => decide (t.contractObservation = some newest)) := by simp [among,holds]
  obtain ⟨foremost,highest⟩ := Option.ne_none_iff_exists'.mp
    (mt List.argmax_eq_none.mp (List.ne_nil_of_mem held) : List.argmax (fun t => t.observedRevision.toNat) _ ≠ none)
  have chosen := List.argmax_mem highest
  simp only [List.mem_filter,decide_eq_true_eq] at chosen
  refine ⟨foremost,chosen.1,newest,chosen.2,?_,?_⟩
  · intro t inside o here
    exact List.le_of_mem_argmax (List.mem_filterMap.mpr ⟨t,inside,here⟩) latest
  · intro t inside here
    have : t ∈ triggers.filter (fun t => decide (t.contractObservation = some newest)) := by
      simp [inside,show t.contractObservation = some newest from here]
    exact UInt64.le_iff_toNat_le.mpr (List.le_of_mem_argmax (f := fun t : Trigger => t.observedRevision.toNat) this highest)

/-- Every order of arrival gives the highest revision, all causes and the newest observation exactly if the newest
    observation comes with the highest revision of all triggers that carry one. -/
theorem merged_any_order_iff (triggers : List Trigger)
    (distinct : ∀ a ∈ triggers, ∀ b ∈ triggers, ∀ o p, Carries a o → Carries b p → rank o = rank p → o = p) :
    (∀ arrived trigger, arrived.Perm triggers → merged arrived = some trigger → Coalesced triggers trigger) ↔
      (∀ t ∈ triggers, t.contractObservation = none) ∨
      ∃ foremost ∈ triggers, ∃ newest, Carries foremost newest ∧ ∀ t ∈ triggers, ∀ o, Carries t o →
        rank o ≤ rank newest ∧ t.observedRevision ≤ foremost.observedRevision := by
  constructor
  · intro every
    by_cases none : ∀ t ∈ triggers, t.contractObservation = none
    · exact .inl none
    simp only [not_forall] at none
    obtain ⟨carrier,member,present⟩ := none
    obtain ⟨first,carries⟩ := Option.ne_none_iff_exists'.mp present
    obtain ⟨foremost,among,newest,holds,latest,highest⟩ := exists_foremost member carries
    refine .inr ⟨foremost,among,newest,holds,fun t inside o here => ⟨latest t inside o here,?_⟩⟩
    by_contra higher
    replace higher := UInt64.not_le.mp higher
    have different : o ≠ newest := by
      rintro rfl
      exact UInt64.not_le.mpr higher (highest t inside here)
    obtain ⟨arrived,trigger,order,result,lost⟩ := exists_order_without inside ⟨foremost,among,holds⟩ ⟨o,here,different⟩
      (fun u within carries => UInt64.lt_of_le_of_lt (highest u within carries) higher)
    have kept := (every arrived trigger order result).observation
    cases left : trigger.contractObservation with
    | none =>
      rw [left] at kept
      exact absurd (kept foremost among) (by simp [show foremost.contractObservation = some newest from holds])
    | some stays =>
      rw [left] at kept
      obtain ⟨⟨u,within,stands⟩,last⟩ := kept
      have equal : rank stays = rank newest := le_antisymm (latest u within stays stands) (last foremost among newest holds)
      exact lost (left.trans (congrArg some (distinct u within foremost among stays newest stands holds equal)))
  · rintro (none | ⟨foremost,member,newest,carries,highest⟩) arrived trigger order result
    · refine merged_coalesced order result ?_
      cases arrived with
      | nil => cases result
      | cons first rest =>
        cases result
        have empty : (rest.foldl mergeTrigger first).contractObservation = .none :=
          foldl_none.mpr fun t among => none t (order.mem_iff.mp among)
        rw [empty]
        exact none
    · have held := merged_newest distinct order result member carries highest
      refine merged_coalesced order result ?_
      rw [show trigger.contractObservation = some newest from held]
      exact ⟨⟨foremost,member,carries⟩,fun t among o here => (highest t among o here).1⟩

/-- A trigger of the given revision with an observation made at the given second. -/
def observing (revision : UInt64) (seconds : Int) : Trigger :=
  ⟨"execution","stage",.unknown,"observation",revision,some ⟨some ⟨seconds,0⟩,"event",""⟩,false⟩

/-- The newer observation came with the higher revision, and is kept though it arrived first. -/
theorem merged_any_order_two :
    ∃ trigger, merged [observing 2 10,observing 1 5] = some trigger ∧
      Coalesced [observing 1 5,observing 2 10] trigger := by
  refine ⟨_,rfl,(merged_any_order_iff [observing 1 5,observing 2 10] ?_).mpr (.inr ⟨observing 2 10,by simp,_,rfl,?_⟩) _ _
    (.swap _ _ _) rfl⟩
  · simp [Carries,observing,rank]
  · simp [Carries,observing,rank,Prod.Lex.toLex_le_toLex]

/-- An observation made at ten is given up for one made at five that came with a newer revision, or is kept if the
    triggers arrive the other way round. -/
theorem newest_observation_lost :
    (merged [observing 1 10,observing 2 5]).bind Trigger.contractObservation = some ⟨some ⟨5,0⟩,"event",""⟩ ∧
      (merged [observing 2 5,observing 1 10]).bind Trigger.contractObservation = some ⟨some ⟨10,0⟩,"event",""⟩ ∧
      ¬∀ arrived trigger, arrived.Perm [observing 1 10,observing 2 5] → merged arrived = some trigger →
        Coalesced [observing 1 10,observing 2 5] trigger := by
  refine ⟨by rfl,by rfl,fun every => ?_⟩
  have kept := (every _ _ (.refl _) rfl).observation
  have late := kept.2 (observing 1 10) (by simp) _ rfl
  simp [rank,Prod.Lex.toLex_le_toLex] at late

end Orders

end TgsRl.Triggers
