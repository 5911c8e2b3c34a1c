import Grc.Watch.Timelines

/-! The labels of a timeline over any run: they stay apart exactly where every call that commits writes new ones. -/
namespace Grc.Watch

open Grc.Shared Grc.Lib Grc.Library

variable {tables next : Tables} {desk after : TimelineDesk} {id : Id} {entries : List ChangeEventInput} {entry : ChangeEventInput}

def Registered (tables : Tables) (id : Id) : Prop := ∃ row ∈ tables.changes.rows, row.id = id

def Apart (tables : Tables) : Prop :=
  ∀ first ∈ tables.events.rows, ∀ second ∈ tables.events.rows,
    first.change = second.change → first.label = second.label → first.id = second.id

theorem apart_iff : Apart tables ↔ ∀ change, (labelsOf tables change).Nodup := by
  have rows : tables.events.rows.Nodup := List.Nodup.of_map _ tables.events.keyed
  constructor
  · intro apart change
    refine List.Nodup.map_on ?_ (rows.filter _)
    intro first there second also same
    obtain ⟨there, under⟩ := List.mem_filter.mp there
    obtain ⟨also, below⟩ := List.mem_filter.mp also
    exact tables.events.eq_of_key there also
      (apart first there second also ((beq_iff_eq.mp under).trans (beq_iff_eq.mp below).symm) same)
  · intro distinct first there second also under same
    have here : first ∈ tables.events.rows.filter (·.change == first.change) := List.mem_filter.mpr ⟨there, beq_self_eq_true _⟩
    have beside : second ∈ tables.events.rows.filter (·.change == first.change) := List.mem_filter.mpr ⟨also, beq_iff_eq.mpr under.symm⟩
    exact congrArg ChangeEvent.id (List.inj_on_of_nodup_map (distinct first.change) here beside same)

theorem labelsApart_iff : LabelsApart tables ↔ Apart tables := by
  constructor
  · exact fun kept => apart_iff.mpr kept.distinct
  · intro apart
    refine ⟨apart_iff.mp apart, fun change label => ?_⟩
    have rows : (tables.events.rows.filter fun event => event.change == change && event.label == label).Nodup :=
      (List.Nodup.of_map _ tables.events.keyed).filter _
    have alike : ∀ event ∈ tables.events.rows.filter (fun event => event.change == change && event.label == label),
        event ∈ tables.events.rows ∧ event.change = change ∧ event.label = label := by
      intro event listed
      simpa using List.mem_filter.mp listed
    generalize tables.events.rows.filter (fun event => event.change == change && event.label == label) = found at rows alike
    match found with
    | [] => exact Nat.zero_le _
    | [_] => exact le_rfl
    | first :: second :: _ =>
      obtain ⟨there, under, its⟩ := alike first List.mem_cons_self
      obtain ⟨also, below, same⟩ := alike second (List.mem_cons_of_mem _ List.mem_cons_self)
      have one := tables.events.eq_of_key there also (apart first there second also (under.trans below.symm) (its.trans same.symm))
      exact absurd (one ▸ List.mem_cons_self) (List.nodup_cons.mp rows).1

theorem labelsOf_addEvents_other {other : Id} (apart : other ≠ id) : labelsOf (tables.addEvents id entries) other = labelsOf tables other := by
  obtain ⟨new, rows, each⟩ := @Keyed.createAll_rows ChangeEvent ChangeEvent.id tables.events ChangeEventInput
    (ChangeEventInput.row id) (fun _ _ => rfl) entries
  have none_ : new.filter (·.change == other) = [] := by
    refine List.filter_eq_nil_iff.mpr fun event listed under => ?_
    obtain ⟨entry, paired⟩ := fellow_of_right each.length_eq listed
    have its : event.change = id := congrArg ChangeEvent.change (List.forall₂_zip each paired)
    exact apart ((beq_iff_eq.mp under).symm.trans its)
  unfold labelsOf Tables.addEvents
  rw [rows, List.filter_append, none_, List.append_nil]

theorem apart_addEvents (apart : Apart tables) :
    Apart (tables.addEvents id entries) ↔ (labelsOf tables id ++ entries.map (·.label)).Nodup := by
  rw [apart_iff, ← labelsOf_addEvents]
  constructor
  · exact fun distinct => distinct id
  · intro distinct change
    by_cases same : change = id
    · exact same ▸ distinct
    · rw [labelsOf_addEvents_other same]
      exact apart_iff.mp apart change

theorem apart_correct {change event : Id} {stored : ChangeEvent} (apart : Apart tables) (there : stored ∈ tables.events.rows)
    (named : stored.id = event) (under : stored.change = change) :
    Apart { tables with events := tables.events.update (·.id == event) (ChangeEvent.restated entry) fun _ => rfl } ↔
      ∀ other ∈ tables.events.rows, other.change = change → other.id ≠ event → other.label ≠ entry.label := by
  subst named under
  have mem (row : ChangeEvent) : row ∈ (tables.events.update (·.id == stored.id) (ChangeEvent.restated entry) fun _ => rfl).rows ↔
      row = stored.restated entry ∨ row ∈ tables.events.rows ∧ row.id ≠ stored.id := by
    rw [@Keyed.mem_update _ _ tables.events _ (ChangeEvent.restated entry) row (fun _ => rfl)]
    constructor
    · rintro ⟨old, before, rfl⟩
      split
      · next chosen =>
        rw [tables.events.eq_of_key before there (beq_iff_eq.mp chosen)]
        exact .inl rfl
      · next spared => exact .inr ⟨before, fun same => spared (beq_iff_eq.mpr same)⟩
    · rintro (rfl | ⟨before, spared⟩)
      · exact ⟨stored, there, (if_pos (beq_self_eq_true _)).symm⟩
      · exact ⟨row, before, (if_neg fun same => spared (beq_iff_eq.mp same)).symm⟩
  constructor
  · intro kept other also below spared same
    exact spared (kept other ((mem _).mpr (.inr ⟨also, spared⟩)) (stored.restated entry) ((mem _).mpr (.inl rfl)) below same)
  · intro new first here second also under same
    rcases (mem first).mp here with rfl | ⟨before, spared⟩
    · rcases (mem second).mp also with rfl | ⟨prior, spared⟩
      · rfl
      · exact absurd same.symm (new second prior under.symm spared)
    · rcases (mem second).mp also with rfl | ⟨prior, -⟩
      · exact absurd same (new first before under spared)
      · exact apart first before second prior under same

/-! ## What a first registration adds -/

/-- What keeps the milestones and the registered changes. -/
structure KeepsTimelines (before after : Tables) : Prop where
  events : after.events = before.events
  changes : ∀ id, Registered before id → Registered after id

instance : Std.Refl KeepsTimelines := ⟨fun _ => ⟨rfl, fun _ held => held⟩⟩

instance : IsTrans Tables KeepsTimelines :=
  ⟨fun _ _ _ first second => ⟨second.events.trans first.events, fun id held => second.changes id (first.changes id held)⟩⟩

theorem keepsTimelines_of_write {change : Tables → Tables} (events : ∀ tables, (change tables).events = tables.events)
    (changes : ∀ tables, (change tables).changes = tables.changes) : (Tx.write change : Writing PUnit).Keeps KeepsTimelines :=
  .write fun tables => ⟨events tables, fun _ held => by rw [Registered, changes]; exact held⟩

theorem audited_timelines (event : AuditEvent) : (audited event).Keeps KeepsTimelines :=
  keepsTimelines_of_write (fun _ => rfl) fun _ => rfl

theorem logGeneration_timelines (now : Now) (generation : AiGeneration) : (logGeneration now generation).Keeps KeepsTimelines :=
  .bind (.check _) fun _ => keepsTimelines_of_write (fun _ => rfl) fun _ => rfl

theorem addDocumentRow_timelines (now : Now) (change : Id) (page : ChangeDocumentInput) (flags : List String) (duplicate : Bool) :
    (addDocumentRow now change page flags duplicate).Keeps KeepsTimelines :=
  .bind (.check _) fun _ => keepsTimelines_of_write (fun _ => rfl) fun _ => rfl

theorem createTerm_timelines (change : Id) (column : TermColumn) (suggester : Suggester) (value : Id) :
    (createTerm change column suggester value).Keeps KeepsTimelines :=
  .bind (.check _) fun _ => keepsTimelines_of_write (fun _ => rfl) fun _ => rfl

theorem createLink_timelines (change : Id) (origin : OriginType) (suggester : Suggester) (link : ObligationLinkInput) :
    (createLink change origin suggester link).Keeps KeepsTimelines :=
  .bind (.check _) fun _ => keepsTimelines_of_write (fun _ => rfl) fun _ => rfl

theorem storeSoWhat_timelines (now : Now) (actor : Actor) (change : RegulatoryChange) (report : SoWhatInput) (run : Option Id) :
    (storeSoWhat now actor change report run).Keeps KeepsTimelines := by
  refine .bind (.write fun tables => ⟨rfl, ?_⟩) fun _ => .bind (logGeneration_timelines now _) fun _ => audited_timelines _
  rintro id ⟨row, there, its⟩
  refine ⟨_, List.mem_map_of_mem there, ?_⟩
  split
  · exact its
  · exact its

theorem addEventRows_ok {answer : PUnit} (done : (Tx.each entries (addEventRow id)).execute tables = (.ok answer, next)) :
    next = tables.addEvents id entries := by
  induction entries generalizing tables with
  | nil => exact (Tx.pure_ok.mp done).2
  | cons entry rest ih =>
    obtain ⟨_, middle, first, later⟩ := Tx.bind_ok.mp done
    obtain rfl : middle = tables.addEvents id [entry] := Tx.write_ok.mp first
    exact ih later

/-- `register_change` of a change the library does not hold: its timeline is the body's own list. -/
theorem registered_new {who : Principal} {actor : Actor} {now : Now} {body : ChangeInput} {answer : Unit}
    (unknown : changeWithStableKey tables body.stableKey = none)
    (done : (serve { who, actor, now, call := .register body }).execute tables = (.ok answer, next)) :
    next.events = (tables.addEvents tables.changes.fresh body.events).events ∧ (∀ id, Registered tables id → Registered next id) ∧
      Registered next tables.changes.fresh := by
  have routed := Tx.atomic_ok.mp done
  obtain ⟨_, -, registers⟩ := Tx.check_bind_ok.mp routed
  obtain ⟨run, -, registers⟩ := Tx.check_bind_ok.mp registers
  obtain ⟨resolved, -, registers⟩ := Tx.check_bind_ok.mp registers
  obtain ⟨existing, found, registers⟩ := Tx.check_bind_ok.mp registers
  obtain rfl := Except.ok.inj found
  rw [unknown] at registers
  obtain ⟨_, -, registers⟩ := Tx.check_bind_ok.mp registers
  obtain ⟨_, -, files⟩ := Tx.check_bind_ok.mp registers
  obtain ⟨_, first, spent, filed⟩ := Tx.bind_ok.mp files
  have unspent : first = tables := by
    cases run with
    | none => exact (Tx.pure_ok.mp spent).2
    | some run => exact (Tx.check_ok.mp spent).2
  subst unspent
  obtain ⟨id, drawn, rest⟩ := Tx.check_bind_ok.mp filed
  obtain rfl := Except.ok.inj drawn
  have rest := Tx.write_bind_ok.mp rest
  obtain ⟨_, second, events, rest⟩ := Tx.bind_ok.mp rest
  obtain rfl := addEventRows_ok events
  have kept := Tx.Keeps.ok (show Tx.Keeps KeepsTimelines _ from ?keeps) rest
  case keeps =>
    refine .bind (.each (fun page => addDocumentRow_timelines now _ page _ _) _) fun _ => ?_
    refine .bind (.each (fun value => createTerm_timelines _ _ _ value) _) fun _ => ?_
    refine .bind (.each (fun value => createTerm_timelines _ _ _ value) _) fun _ => ?_
    refine .bind (.each (fun link => createLink_timelines _ _ _ link) _) fun _ => ?_
    refine .bind (.given (fun report => storeSoWhat_timelines now actor _ report _) _) fun _ => ?_
    exact .bind (.given (fun run => logGeneration_timelines now _) _) fun _ => audited_timelines _
  refine ⟨kept.events, fun id held => kept.changes id ?_, kept.changes _ ⟨_, List.mem_append_right _ List.mem_cons_self, rfl⟩⟩
  obtain ⟨row, there, its⟩ := held
  exact ⟨row, List.mem_append_left _ there, its⟩

/-! ## What every step leaves -/

/-- What only grows: a milestone stays on its change, a change stays registered. -/
structure Onward (before after : Tables) : Prop where
  events : ∀ event ∈ before.events.rows, ∃ later ∈ after.events.rows, later.id = event.id ∧ later.change = event.change
  changes : ∀ id, Registered before id → Registered after id

def Filed (tables : Tables) : Prop := ∀ event ∈ tables.events.rows, Registered tables event.change

/-- What a call under way relies on: its change, the milestone it corrects, the labels it adds. -/
def TimelineWork.Sound (tables : Tables) : TimelineWork → Prop
  | sighting change _ added => Registered tables change ∧ (added.map (·.label)).Nodup
  | adding change _ => Registered tables change
  | correcting change event _ => ∃ stored ∈ tables.events.rows, stored.id = event ∧ stored.change = change
  | attaching _ _ _ _ => True

/-- What holds at every moment, whether or not labels are apart. -/
structure TimelineDesk.Steady (desk : TimelineDesk) : Prop where
  filed : Filed desk.tables
  works : ∀ each ∈ desk.underway, each.2.Sound desk.tables

/-- Nothing under way relies on what is not there, and the labels are apart. -/
structure TimelineDesk.Sound (desk : TimelineDesk) : Prop extends desk.Steady where
  apart : Apart desk.tables

theorem TimelineWork.Sound.onward {work : TimelineWork} (sound : work.Sound tables) (onward : Onward tables next) : work.Sound next := by
  cases work with
  | sighting change left added => exact ⟨onward.changes change sound.1, sound.2⟩
  | adding change entry => exact onward.changes change sound
  | correcting change event entry =>
    obtain ⟨stored, there, named, under⟩ := sound
    obtain ⟨later, kept, same, below⟩ := onward.events stored there
    exact ⟨later, kept, same.trans named, below.trans under⟩
  | attaching now change page flags => trivial

theorem registered_changeFor {given : Id} {change : RegulatoryChange} (found : changeFor tables given = .ok change) :
    Registered tables change.id :=
  ⟨change, (changeFor_ok found).1, rfl⟩

theorem of_mem_addEvents {event : ChangeEvent} (there : event ∈ (tables.addEvents id entries).events.rows) :
    event ∈ tables.events.rows ∨ event.change = id := by
  rcases Keyed.of_mem_createAll there with before | ⟨entry, -, key, rfl⟩
  · exact .inl before
  · exact .inr rfl

theorem filed_of_addEvents (filed : Filed tables) (events : next.events = (tables.addEvents id entries).events)
    (changes : ∀ id, Registered tables id → Registered next id) (registered : Registered next id) : Filed next ∧ Onward tables next := by
  refine ⟨fun event there => ?_, fun event there => ?_, changes⟩
  · rw [events] at there
    rcases of_mem_addEvents there with before | rfl
    · exact changes _ (filed event before)
    · exact registered
  · exact ⟨event, events ▸ Keyed.mem_createAll_old there, rfl, rfl⟩

theorem apart_of_events (events : next.events = tables.events) : Apart next ↔ Apart tables := by
  rw [Apart, events]
  rfl

theorem mem_labelsOf {label : String} : label ∈ labelsOf tables id ↔
    ∃ event ∈ tables.events.rows, event.change = id ∧ event.label = label := by
  simp [labelsOf, and_assoc]

theorem apart_add (apart : Apart tables) (distinct : (entries.map (·.label)).Nodup) :
    Apart (tables.addEvents id entries) ↔ ∀ entry ∈ entries, entry.label ∉ labelsOf tables id := by
  rw [apart_addEvents apart, List.nodup_append]
  constructor
  · rintro ⟨-, -, others⟩ entry listed held
    exact others _ held _ (List.mem_map_of_mem listed) rfl
  · intro new
    refine ⟨apart_iff.mp apart id, distinct, fun held before added listed same => ?_⟩
    obtain ⟨entry, filed, rfl⟩ := List.mem_map.mp listed
    exact new entry filed (same ▸ before)

/-- A call that commits: the labels stay apart exactly when what it writes is new. -/
theorem committed_ok {work : TimelineWork} (filed : Filed tables) (sound : work.Sound tables)
    (accepted : TimelineDesk.committed tables work = .ok next) :
    (Apart tables → (Apart next ↔ work.New tables)) ∧ Filed next ∧ Onward tables next := by
  cases work with
  | sighting change left added =>
    cases left with
    | cons entry rest => cases accepted
    | nil =>
      obtain rfl := Except.ok.inj accepted
      exact ⟨fun apart => apart_add apart sound.2, filed_of_addEvents filed rfl (fun _ held => held) sound.1⟩
  | adding change entry =>
    obtain rfl := Except.ok.inj accepted
    refine ⟨fun apart => ?_, filed_of_addEvents filed rfl (fun _ held => held) sound⟩
    have one : ([entry].map (·.label)).Nodup := List.nodup_singleton _
    rw [apart_add apart one]
    exact List.forall_mem_singleton
  | correcting change event entry =>
    obtain rfl := Except.ok.inj accepted
    obtain ⟨stored, there, named, under⟩ := sound
    refine ⟨fun apart => apart_correct apart there named under, fun row member => ?_, fun row member => ?_, fun _ held => held⟩
    · obtain ⟨old, before, rfl⟩ := (@Keyed.mem_update _ _ tables.events _ (ChangeEvent.restated entry) row (fun _ => rfl)).mp member
      split
      · exact filed old before
      · exact filed old before
    · refine ⟨_, (@Keyed.mem_update _ _ tables.events _ (ChangeEvent.restated entry) _ (fun _ => rfl)).mpr ⟨row, member, rfl⟩, ?_⟩
      split
      · exact ⟨rfl, rfl⟩
      · exact ⟨rfl, rfl⟩
  | attaching now change page flags =>
    unfold TimelineDesk.committed at accepted
    dsimp only at accepted
    split at accepted
    · next after done =>
      obtain rfl := Except.ok.inj accepted
      have kept := (addDocumentRow_timelines now change page flags page.isDuplicate).ok done
      refine ⟨fun apart => ?_, ?_, ?_, kept.changes⟩
      · rw [apart_of_events kept.events]
        exact iff_of_true apart trivial
      · intro event there
        rw [kept.events] at there
        exact kept.changes _ (filed event there)
      · exact fun event there => ⟨event, kept.events ▸ there, rfl, rfl⟩
    · cases accepted

theorem begins_ok {call : Id} {work : TimelineWork} (steady : desk.Steady) (accepted : desk.begins call work = .ok after)
    (sound : work.Sound desk.tables) : after.tables = desk.tables ∧ after.Steady := by
  obtain ⟨_, -, accepted⟩ := bind_ok.mp accepted
  obtain rfl := Except.ok.inj accepted
  refine ⟨rfl, steady.filed, fun each there => ?_⟩
  rcases List.mem_append.mp there with before | new
  · exact steady.works each before
  · rw [List.mem_singleton.mp new]
    exact sound

theorem eventFor_ok {change event : Id} {stored : ChangeEvent} (found : eventFor tables change event = .ok stored) :
    stored ∈ tables.events.rows ∧ stored.change = change := by
  have found := demand_ok.mp found
  have named := List.find?_some found
  exact ⟨List.mem_of_find?_eq_some found, beq_iff_eq.mp (Bool.and_eq_true_iff.mp named).1⟩

theorem look_nodup {added : List ChangeEventInput} {known : Prop} [Decidable known] (distinct : (added.map (·.label)).Nodup)
    (held : entry.label ∈ added.map (·.label) → known) : ((if known then added else added ++ [entry]).map (·.label)).Nodup := by
  split
  · exact distinct
  · next new =>
    rw [List.map_append, List.map_singleton]
    exact List.nodup_append.mpr ⟨distinct, List.nodup_singleton _, fun label before last its same =>
      new (held (List.mem_singleton.mp its ▸ same ▸ before))⟩

/-- An accepted step keeps what is under way sound, and leaves the labels apart exactly when it writes new ones. -/
theorem step_sound {step : TimelineStep} (sound : desk.Sound) (accepted : desk.step step = .ok after) :
    after.Steady ∧ (Apart after.tables ↔ desk.LabelsNew step) := by
  have same (kept : after.tables = desk.tables) : Apart after.tables ↔ True := by
    rw [kept]
    exact iff_of_true sound.apart trivial
  cases step with
  | register who actor now body =>
    obtain ⟨_, unknown, accepted⟩ := bind_ok.mp accepted
    have unknown := require_ok.mp unknown
    split at accepted
    · next answer tables done =>
      obtain rfl := Except.ok.inj accepted
      obtain ⟨events, changes, registered⟩ := registered_new unknown done
      obtain ⟨filed, onward⟩ := filed_of_addEvents sound.filed events changes registered
      refine ⟨⟨filed, fun each there => (sound.works each there).onward onward⟩, ?_⟩
      have none_ : labelsOf desk.tables desk.tables.changes.fresh = [] := by
        refine List.eq_nil_iff_forall_not_mem.mpr fun label listed => ?_
        obtain ⟨event, there, under, -⟩ := mem_labelsOf.mp listed
        obtain ⟨row, held, its⟩ := sound.filed event there
        exact absurd (its.trans under) (Nat.ne_of_lt (Keyed.key_lt_fresh held))
      rw [apart_of_events events, apart_addEvents sound.apart, none_, List.nil_append]
      rfl
    · cases accepted
  | sight call change entries =>
    obtain ⟨change, found, accepted⟩ := bind_ok.mp accepted
    obtain ⟨kept, steady⟩ := begins_ok sound.toSteady accepted ⟨registered_changeFor found, List.nodup_nil⟩
    exact ⟨steady, same kept⟩
  | look call =>
    unfold TimelineDesk.step at accepted
    dsimp only at accepted
    split at accepted
    · next change entry rest added held =>
      obtain rfl := Except.ok.inj accepted
      obtain ⟨registered, distinct⟩ := sound.works _ (mem_of_heldBy held)
      refine ⟨⟨sound.filed, fun each there => ?_⟩, same rfl⟩
      rcases of_mem_putBy there with rfl | ⟨before, -⟩
      · exact ⟨registered, look_nodup distinct .inr⟩
      · exact sound.works each before
    · cases accepted
  | add call change entry =>
    obtain ⟨change, found, accepted⟩ := bind_ok.mp accepted
    split at accepted
    · obtain ⟨_, -, accepted⟩ := bind_ok.mp accepted
      obtain rfl := Except.ok.inj accepted
      exact ⟨sound.toSteady, same rfl⟩
    · obtain ⟨kept, steady⟩ := begins_ok sound.toSteady accepted (registered_changeFor found)
      exact ⟨steady, same kept⟩
  | correct call change event entry =>
    obtain ⟨change, found, accepted⟩ := bind_ok.mp accepted
    obtain ⟨stored, held, accepted⟩ := bind_ok.mp accepted
    obtain ⟨there, under⟩ := eventFor_ok held
    obtain ⟨kept, steady⟩ := begins_ok sound.toSteady accepted ⟨stored, there, rfl, under⟩
    exact ⟨steady, same kept⟩
  | attach call change now page =>
    obtain ⟨change, found, accepted⟩ := bind_ok.mp accepted
    obtain ⟨_, -, accepted⟩ := bind_ok.mp accepted
    obtain ⟨_, -, accepted⟩ := bind_ok.mp accepted
    obtain ⟨kept, steady⟩ := begins_ok sound.toSteady accepted trivial
    exact ⟨steady, same kept⟩
  | commit call =>
    obtain ⟨work, held, accepted⟩ := bind_ok.mp accepted
    have held := demand_ok.mp held
    obtain ⟨tables, writes, accepted⟩ := bind_ok.mp accepted
    obtain rfl := Except.ok.inj accepted
    obtain ⟨exact_, filed, onward⟩ := committed_ok sound.filed (sound.works _ (mem_of_heldBy held)) writes
    refine ⟨⟨filed, fun each there => (sound.works each (mem_withoutBy.mp there).1).onward onward⟩, ?_⟩
    rw [exact_ sound.apart, TimelineDesk.LabelsNew, held]
    exact ⟨fun new work its => Option.some.inj its ▸ new, fun new => new work rfl⟩
  | abort call =>
    obtain rfl := Except.ok.inj accepted
    exact ⟨⟨sound.filed, fun each there => sound.works each (mem_withoutBy.mp there).1⟩, same rfl⟩

/-- In any run from a sound desk, the labels of every timeline are apart throughout exactly when every registration and
every commit of it writes new ones. -/
theorem labelsKept_iff (sound : desk.Sound) (steps : List TimelineStep) :
    LabelsKept desk steps ↔ Meets TimelineDesk.step TimelineDesk.LabelsNew desk steps := by
  refine holds_throughout_iff TimelineDesk.Sound sound (fun _ sound => labelsApart_iff.mpr sound.apart) ?_ ?_ steps
  · intro desk step after sound accepted
    exact labelsApart_iff.trans (step_sound sound accepted).2
  · intro desk step after sound new accepted
    obtain ⟨steady, exact_⟩ := step_sound sound accepted
    exact { toSteady := steady, apart := exact_.mpr new }

/-! ## A sighting nobody interrupts -/

theorem TimelineDesk.opened_sound : ({} : TimelineDesk).Sound where
  filed := List.forall_mem_nil _
  works := List.forall_mem_nil _
  apart := List.forall_mem_nil _

/-- A reform registered, with two milestones of other labels added and a sighting again at the same time, and one corrected. -/
def labelsApartRun : List TimelineStep :=
  [.register (reviewer 8) { kind := .user } twoFlags (sighting []), .add 1 0 { label := "Applies" }, .add 2 0 { label := "Reviewed" },
    .sight 3 0 [{ label := "Adopted" }, { label := "Repealed" }], .look 3, .look 3, .commit 2, .commit 1, .commit 3,
    .correct 4 0 0 { label := "Adopted", occurred := true }, .commit 4]

theorem labelsApartRun_kept : LabelsKept {} labelsApartRun := (labelsKept_iff TimelineDesk.opened_sound labelsApartRun).mpr (by decide +kernel)

/-- A registration whose list repeats a label, a correction to a label the change has, and two calls that add one label at a time. -/
def repeatedLabels : List (List TimelineStep) :=
  [[.register (reviewer 8) { kind := .user } twoFlags { sighting [] with events := [{ label := "Adopted" }, { label := "Adopted" }] }],
    [.register (reviewer 8) { kind := .user } twoFlags (sighting []), .correct 1 0 1 { label := "Adopted" }, .commit 1],
    [.register (reviewer 8) { kind := .user } twoFlags (sighting []), .add 1 0 { label := "Applies" }, .add 2 0 { label := "Applies" },
      .commit 1, .commit 2]]

/-- Each leaves two milestones of one label. -/
theorem repeatedLabels_meet : ¬∃ steps ∈ repeatedLabels, LabelsKept {} steps := by
  rintro ⟨steps, listed, kept⟩
  have distinct := (kept steps (List.prefix_refl steps)).distinct 0
  have twice : ∀ steps ∈ repeatedLabels, ¬(labelsOf (run TimelineDesk.step {} steps).tables 0).Nodup := by decide +kernel
  exact twice steps listed distinct

end Grc.Watch
