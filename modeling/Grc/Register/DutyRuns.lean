import Grc.Register.DutyTables

/-! The duties of a bank over any run: every chain goes forward with all but its last occurrence done, and
completing a done occurrence writes nothing. Its answer is the first one as long as neither row it shows has
changed since and the library has not retired the duty. -/
namespace Grc.Register

open Grc.Shared Grc.Lib Grc.Library

variable {Rule : Type} {dateutil : Dateutil Rule} {cap : Nat}

/-- A duty as it was read, and as it is: only its retirement may have come between. -/
structure SameDuty (loaded duty : DutyRule) : Prop where
  id : duty.id = loaded.id
  obligationId : duty.obligationId = loaded.obligationId
  rule : duty.rule = loaded.rule
  active : duty.active = true → loaded.active = true

theorem SameDuty.refl (duty : DutyRule) : SameDuty duty duty := ⟨rfl, rfl, rfl, fun active => active⟩

theorem SameDuty.trans {one other last : DutyRule} (first : SameDuty one other) (second : SameDuty other last) : SameDuty one last where
  id := second.id.trans first.id
  obligationId := second.obligationId.trans first.obligationId
  rule := second.rule.trans first.rule
  active := first.active ∘ second.active

def DutyDesk.placed (desk : DutyDesk) (duty entry : Id) : Prop :=
  ∃ row ∈ desk.duties, row.id = duty ∧ (entry, row.obligationId) ∈ desk.entries

/-- What a request under way has read is still so. -/
def DutyWork.Reads (desk : DutyDesk) : DutyWork → Prop
  | .scheduling _ _ targets duties had =>
    (∀ target ∈ targets, (target.tenantObligation, target.obligationId) ∈ desk.entries) ∧
      (∀ loaded ∈ duties, ∃ duty ∈ desk.duties, SameDuty loaded duty) ∧
      ∀ pair ∈ firstsDue targets duties had, desk.table.chain (pair.1.chain pair.2) = []
  | .completing row loaded =>
    row ∈ desk.table.occurrences ∧ loaded.id = row.recurringDuty ∧ ∃ duty ∈ desk.duties, SameDuty loaded duty

def DutyWork.Apart (one other : DutyWork) : Prop :=
  (∀ id, one.held = some id → other.held ≠ some id) ∧ ∀ locked ∈ one.answered, locked ∉ other.answered

structure DutyDesk.Sound (desk : DutyDesk) : Prop where
  dutyIds : ∀ one ∈ desk.duties, ∀ other ∈ desk.duties, one.id = other.id → one = other
  oneEntry : ∀ one ∈ desk.entries, ∀ other ∈ desk.entries, one.2 = other.2 → one = other
  table : TableSound desk.placed desk.table
  requests : (desk.underway.map (·.1)).Nodup
  reads : ∀ each ∈ desk.underway, each.2.Reads desk
  apart : ∀ one ∈ desk.underway, ∀ other ∈ desk.underway, one.1 ≠ other.1 → one.2.Apart other.2

def DutyDesk.opened (tenantId : Id) : DutyDesk where
  table := { tenantId }

theorem DutyDesk.opened_sound (tenantId : Id) : (DutyDesk.opened tenantId).Sound where
  dutyIds := fun _ there => absurd there List.not_mem_nil
  oneEntry := fun _ there => absurd there List.not_mem_nil
  table := ⟨List.nodup_nil, fun _ there => absurd there List.not_mem_nil, fun _ there => absurd there List.not_mem_nil,
    fun _ => List.Pairwise.nil⟩
  requests := List.nodup_nil
  reads := fun _ there => absurd there List.not_mem_nil
  apart := fun _ there => absurd there List.not_mem_nil

namespace DutyDesk
variable {desk next : DutyDesk} {request : Id} {work : DutyWork}

theorem Sound.placed_one (sound : desk.Sound) (duty entry other : Id) (its : desk.placed duty entry) (also : desk.placed duty other) :
    entry = other := by
  obtain ⟨row, there, named, entered⟩ := its
  obtain ⟨again, thereToo, namedToo, enteredToo⟩ := also
  obtain rfl := sound.dutyIds row there again thereToo (named.trans namedToo.symm)
  exact congrArg Prod.fst (sound.oneEntry _ entered _ enteredToo rfl)

theorem mem_without {each : Id × DutyWork} : each ∈ desk.without request ↔ each ∈ desk.underway ∧ each.1 ≠ request := by
  rw [without, List.mem_filter, decide_eq_true_eq]

theorem work_of_find {id : Id} (found : desk.underway.find? (·.1 == request) = some (id, work)) :
    id = request ∧ (id, work) ∈ desk.underway := by
  have named := List.find?_some found
  simp only [beq_iff_eq] at named
  exact ⟨named, List.mem_of_find?_eq_some found⟩

/-- The duties and entries of the desk go on to those of the next. -/
structure Keeps (desk next : DutyDesk) : Prop where
  duties : ∀ duty ∈ desk.duties, ∃ now ∈ next.duties, SameDuty duty now
  entries : ∀ entry ∈ desk.entries, entry ∈ next.entries

theorem Keeps.of_same (duties : next.duties = desk.duties) (entries : next.entries = desk.entries) : Keeps desk next where
  duties := fun duty there => ⟨duty, duties ▸ there, SameDuty.refl duty⟩
  entries := fun _ there => entries ▸ there

theorem Keeps.placed (keeps : Keeps desk next) (duty entry : Id) (its : desk.placed duty entry) : next.placed duty entry := by
  obtain ⟨row, there, named, entered⟩ := its
  obtain ⟨now, thereNow, same⟩ := keeps.duties row there
  exact ⟨now, thereNow, same.id.trans named, same.obligationId ▸ keeps.entries _ entered⟩

theorem Reads.onward (reads : work.Reads desk) (keeps : Keeps desk next)
    (missing : ∀ target ∈ work.answered, ∀ duty, desk.table.chain ⟨duty, target.1, target.2⟩ = [] → next.table.chain ⟨duty, target.1, target.2⟩ = [])
    (held : ∀ row ∈ desk.table.occurrences, work.held = some row.id → row ∈ next.table.occurrences) : work.Reads next := by
  cases work with
  | scheduling actor today targets duties had =>
    obtain ⟨entered, read, begins⟩ := reads
    refine ⟨fun target listed => keeps.entries _ (entered target listed), ?_, ?_⟩
    · intro loaded listed
      obtain ⟨duty, there, same⟩ := read loaded listed
      obtain ⟨now, thereNow, still⟩ := keeps.duties duty there
      exact ⟨now, thereNow, same.trans still⟩
    · intro pair listed
      obtain ⟨target, named, filtered⟩ := List.mem_flatMap.mp listed
      obtain ⟨duty, -, rfl⟩ := List.mem_map.mp filtered
      exact missing (target.tenantObligation, target.orgUnit) (List.mem_map.mpr ⟨target, named, rfl⟩) duty.id (begins _ listed)
  | completing row loaded =>
    obtain ⟨there, its, duty, known, same⟩ := reads
    obtain ⟨now, thereNow, still⟩ := keeps.duties duty known
    exact ⟨held row there rfl, its, now, thereNow, same.trans still⟩

theorem Sound.onward (sound : desk.Sound) (keeps : Keeps desk next)
    (dutyIds : ∀ one ∈ next.duties, ∀ other ∈ next.duties, one.id = other.id → one = other)
    (oneEntry : ∀ one ∈ next.entries, ∀ other ∈ next.entries, one.2 = other.2 → one = other)
    (table : TableSound next.placed next.table) (left : next.underway.Sublist desk.underway)
    (missing : ∀ each ∈ next.underway, ∀ target ∈ each.2.answered, ∀ duty,
      desk.table.chain ⟨duty, target.1, target.2⟩ = [] → next.table.chain ⟨duty, target.1, target.2⟩ = [])
    (held : ∀ each ∈ next.underway, ∀ row ∈ desk.table.occurrences, each.2.held = some row.id → row ∈ next.table.occurrences) :
    next.Sound where
  dutyIds := dutyIds
  oneEntry := oneEntry
  table := table
  requests := sound.requests.sublist (left.map _)
  reads := fun each there => Reads.onward (sound.reads each (left.subset there)) keeps (missing each there) (held each there)
  apart := fun one first other second => sound.apart one (left.subset first) other (left.subset second)

theorem Sound.begin_ (sound : desk.Sound) (fresh : ∀ each ∈ desk.underway, each.1 ≠ request) (reads : work.Reads desk)
    (free : ∀ each ∈ desk.underway, each.2.Apart work) : ({ desk with underway := desk.underway ++ [(request, work)] } : DutyDesk).Sound where
  dutyIds := sound.dutyIds
  oneEntry := sound.oneEntry
  table := sound.table
  requests := by
    rw [List.map_append]
    refine List.nodup_append.mpr ⟨sound.requests, List.nodup_singleton _, ?_⟩
    intro id listed last single same
    obtain ⟨each, there, rfl⟩ := List.mem_map.mp listed
    rw [List.map_singleton, List.mem_singleton] at single
    exact fresh each there (same.trans single)
  reads := by
    intro each there
    rcases mem_concat.mp there with old | rfl
    · exact Reads.onward (sound.reads each old) (Keeps.of_same rfl rfl) (fun _ _ _ none => none) (fun _ here _ => here)
    · exact Reads.onward reads (Keeps.of_same rfl rfl) (fun _ _ _ none => none) (fun _ here _ => here)
  apart := by
    intro one first other second differ
    rcases mem_concat.mp first with old | rfl
    · rcases mem_concat.mp second with older | rfl
      · exact sound.apart one old other older differ
      · exact free one old
    · rcases mem_concat.mp second with older | rfl
      · obtain ⟨held, answered⟩ := free other older
        exact ⟨fun id mine its => held id its mine, fun locked mine its => answered locked its mine⟩
      · exact absurd rfl differ

/-- What a step does to the occurrences and to the model's own account. -/
inductive Effect (dateutil : Dateutil Rule) (cap : Nat) (desk next : DutyDesk) : DutyStep → Prop where
  | aside {call : DutyStep} (quiet : ∀ request actor note now, call ≠ .commitComplete request actor note now) (table : next.table = desk.table) (answers : next.answers = desk.answers)
      (firstDays : next.firstDays = desk.firstDays) : Effect dateutil cap desk next call
  | reassigned (occurrence : Id) (owner ownerTeam : Option Id) (version : Nat)
      (rows : next.table.occurrences = desk.table.occurrences.map fun row =>
        if row.id = occurrence then row.reassigned owner ownerTeam version else row)
      (answers : next.answers = desk.answers) (firstDays : next.firstDays = desk.firstDays) :
      Effect dateutil cap desk next (.reassign occurrence owner ownerTeam version)
  | scheduled (request : Id) (today : Day) (pairs : List (DutyTarget × DutyRule))
      (read : ∀ pair ∈ pairs, ∃ duty ∈ desk.duties, SameDuty pair.2 duty)
      (rows : ∀ row ∈ desk.table.occurrences, row ∈ next.table.occurrences)
      (chains : ∀ key, next.table.chain key = desk.table.chain key ∨
        ∃ pair ∈ pairs, key = pair.1.chain pair.2 ∧ desk.table.chain key = [] ∧ ∃ row, next.table.chain key = [row] ∧
          row.status ≠ .done ∧ nextDue dateutil cap pair.2.rule today true = .ok (some row.dueDate))
      (answers : next.answers = desk.answers)
      (firstDays : next.firstDays = desk.firstDays ++ (desk.begun pairs next.table).map (·, today)) :
      Effect dateutil cap desk next (.commitSchedule request)
  | again (request : Id) (actor : Actor) (note : String) (now : Instant) (row : DutyOccurrence) (duty : DutyRule) (due : Option Day)
      (under : (request, .completing row duty) ∈ desk.underway) (done : row.status = .done) (table : next.table = desk.table)
      (following : followingDate dateutil cap duty row = .ok due)
      (answers : next.answers = desk.answers ++ [(row.id, { completed := row.out, next := (due.bind fun due =>
        desk.table.occurrences.find? (·.onKey duty.id row.orgUnit due)).map (·.out) })])
      (firstDays : next.firstDays = desk.firstDays) : Effect dateutil cap desk next (.commitComplete request actor note now)
  | completed (request : Id) (actor : Actor) (note : String) (now : Instant) (row : DutyOccurrence) (duty : DutyRule) (due : Option Day)
      (person : Id) (completion : DutyCompletion) (under : (request, .completing row duty) ∈ desk.underway) (is_open : row.status ≠ .done)
      (following : followingDate dateutil cap duty row = .ok due)
      (finished : Completed desk.table next.table row person note now due completion)
      (answers : next.answers = desk.answers ++ [(row.id, completion.out)])
      (firstDays : next.firstDays = desk.firstDays) : Effect dateutil cap desk next (.commitComplete request actor note now)

theorem Sound.held_other (sound : desk.Sound) (under : (request, work) ∈ desk.underway) {each : Id × DutyWork}
    (left : each ∈ desk.without request) {id : Id} (mine : work.held = some id) : each.2.held ≠ some id := by
  obtain ⟨there, other⟩ := mem_without.mp left
  exact (sound.apart _ under each there (Ne.symm other)).1 id mine

theorem followingDate_after {duty : DutyRule} {row : DutyOccurrence} {due : Option Day}
    (following : followingDate dateutil cap duty row = .ok due) : ∀ day, due = some day → row.dueDate < day := by
  rintro day rfl
  unfold followingDate at following
  split at following
  · exact nextDue_after following
  · cases following

variable {call : DutyStep}

theorem commitSchedule_spec (sound : desk.Sound) (done : step dateutil cap desk (.commitSchedule request) = .ok next) :
    next.Sound ∧ Keeps desk next ∧ Effect dateutil cap desk next (.commitSchedule request) := by
  simp only [step] at done
  split at done
  · rename_i id actor today targets duties had found
    obtain ⟨table, written, done⟩ := bind_ok.mp done
    obtain rfl := Except.ok.inj done
    obtain ⟨rfl, under⟩ := work_of_find found
    obtain ⟨entered, read, missing⟩ := sound.reads _ under
    have pairOf : ∀ pair ∈ firstsDue targets duties had, pair.1 ∈ targets ∧ pair.2 ∈ duties ∧ pair.2.obligationId = pair.1.obligationId := by
      intro pair listed
      obtain ⟨target, named, filtered⟩ := List.mem_flatMap.mp listed
      obtain ⟨duty, chosen, rfl⟩ := List.mem_map.mp filtered
      obtain ⟨inDuties, picked⟩ := List.mem_filter.mp chosen
      simp only [Bool.and_eq_true, beq_iff_eq] at picked
      exact ⟨named, inDuties, picked.1.2⟩
    have readPair : ∀ pair ∈ firstsDue targets duties had, ∃ duty ∈ desk.duties, SameDuty pair.2 duty :=
      fun pair listed => read _ (pairOf pair listed).2.1
    have its : ∀ pair ∈ firstsDue targets duties had, desk.placed pair.2.id pair.1.tenantObligation := by
      intro pair listed
      obtain ⟨named, inDuties, about⟩ := pairOf pair listed
      obtain ⟨duty, there, same⟩ := read _ inDuties
      refine ⟨duty, there, same.id, ?_⟩
      rw [same.obligationId, about]
      exact entered _ named
    have sameRule : ∀ pair ∈ firstsDue targets duties had, ∀ other ∈ firstsDue targets duties had,
        pair.1.chain pair.2 = other.1.chain other.2 → pair.2.rule = other.2.rule := by
      intro pair listed other listedToo same
      obtain ⟨duty, there, itsDuty⟩ := readPair pair listed
      obtain ⟨again, thereToo, otherDuty⟩ := readPair other listedToo
      have ids : pair.2.id = other.2.id := (ChainKey.mk.injEq _ _ _ _ _ _ ▸ same).1
      obtain rfl := sound.dutyIds duty there again thereToo (itsDuty.id.trans (ids.trans otherDuty.id.symm))
      exact itsDuty.rule.symm.trans otherDuty.rule
    obtain ⟨tableSound, kept, chains⟩ := writeFirsts_spec sound.placed_one sound.table its sameRule
      (fun pair listed => .inl (missing pair listed)) written
    have keeps : Keeps desk { desk with
        table, underway := desk.without id
        firstDays := desk.firstDays ++ (desk.begun (firstsDue targets duties had) table).map (·, today) } := Keeps.of_same rfl rfl
    refine ⟨sound.onward keeps sound.dutyIds sound.oneEntry (tableSound.mono (keeps.placed)) List.filter_sublist ?_ ?_, keeps,
      .scheduled id today _ readPair kept chains rfl rfl⟩
    · intro each left target locked duty empty
      obtain ⟨there, other⟩ := mem_without.mp left
      rcases chains ⟨duty, target.1, target.2⟩ with unchanged | ⟨pair, listed, named, -, -⟩
      · exact unchanged.trans empty
      · have mine : target ∈ DutyWork.answered (.scheduling actor today targets duties had) := by
          refine List.mem_map.mpr ⟨pair.1, (pairOf pair listed).1, ?_⟩
          simp only [DutyTarget.chain, ChainKey.mk.injEq] at named
          rw [← named.2.1, ← named.2.2]
        exact absurd locked ((sound.apart _ under each there (Ne.symm other)).2 target mine)
    · intro each left row there held
      exact kept row there
  · cases done

theorem commitComplete_spec (sound : desk.Sound) {actor : Actor} {note : String} {now : Instant}
    (done : step dateutil cap desk (.commitComplete request actor note now) = .ok next) :
    next.Sound ∧ Keeps desk next ∧ Effect dateutil cap desk next (.commitComplete request actor note now) := by
  simp only [step] at done
  split at done
  · rename_i id row duty found
    obtain ⟨written, completed, done⟩ := bind_ok.mp done
    obtain rfl := Except.ok.inj done
    obtain ⟨rfl, under⟩ := work_of_find found
    obtain ⟨there, its, -⟩ := sound.reads _ under
    obtain ⟨person, -, completed⟩ := bind_ok.mp completed
    obtain ⟨due, following, completed⟩ := bind_ok.mp completed
    split at completed
    · next finished =>
      obtain rfl := Except.ok.inj completed
      exact ⟨sound.onward (Keeps.of_same rfl rfl) sound.dutyIds sound.oneEntry sound.table List.filter_sublist
        (fun _ _ _ _ _ none => none) (fun _ _ _ here _ => here), Keeps.of_same rfl rfl,
        .again id actor note now row duty due under finished rfl following rfl rfl⟩
    · next is_open =>
      obtain rfl := Except.ok.inj completed
      obtain ⟨tableSound, finished⟩ := finishOccurrence_spec sound.table sound.placed_one there is_open its actor
        (followingDate_after following)
      refine ⟨sound.onward (Keeps.of_same rfl rfl) sound.dutyIds sound.oneEntry tableSound List.filter_sublist ?_ ?_,
        Keeps.of_same rfl rfl, .completed id actor note now row duty due person _ under is_open following finished rfl rfl⟩
      · intro each left target locked key empty
        rw [finished.chain, completing_chain sound.table there, empty, List.map_nil, List.nil_append]
        split
        · next same =>
          have present := mem_chain.mpr ⟨there, same⟩
          rw [empty] at present
          cases present
        · rfl
      · intro each left old here held
        have other : old.id ≠ row.id := by
          intro same
          exact sound.held_other under left rfl (same ▸ held)
        rw [finished.occurrences]
        refine List.mem_append_left _ (List.mem_map.mpr ⟨old, here, ?_⟩)
        rw [if_neg other]
  · cases done

theorem begin_spec (sound : desk.Sound) (fresh : ∀ each ∈ desk.underway, each.1 ≠ request) (reads : work.Reads desk)
    (free : ∀ each ∈ desk.underway, each.2.Apart work) (done : next = { desk with underway := desk.underway ++ [(request, work)] })
    (quiet : ∀ request actor note now, call ≠ .commitComplete request actor note now) :
    next.Sound ∧ Keeps desk next ∧ Effect dateutil cap desk next call := by
  subst done
  exact ⟨sound.begin_ fresh reads free, Keeps.of_same rfl rfl, .aside quiet rfl rfl rfl⟩

theorem step_spec (sound : desk.Sound) (done : step dateutil cap desk call = .ok next) :
    next.Sound ∧ Keeps desk next ∧ Effect dateutil cap desk next call := by
  cases call with
  | beginSchedule request actor today targets =>
    obtain ⟨_, fresh, done⟩ := bind_ok.mp done
    obtain ⟨_, entered, done⟩ := bind_ok.mp done
    obtain ⟨_, free, done⟩ := bind_ok.mp done
    refine begin_spec sound (require_ok.mp fresh) ?_ ?_ (Except.ok.inj done).symm nofun
    · refine ⟨require_ok.mp entered, fun loaded listed => ⟨loaded, listed, SameDuty.refl loaded⟩, ?_⟩
      intro pair listed
      obtain ⟨target, -, filtered⟩ := List.mem_flatMap.mp listed
      obtain ⟨duty, chosen, rfl⟩ := List.mem_map.mp filtered
      have picked := (List.mem_filter.mp chosen).2
      simp only [Bool.and_eq_true, Bool.not_eq_true', List.contains_eq_mem, decide_eq_false_iff_not] at picked
      rw [List.eq_nil_iff_forall_not_mem]
      intro row listed
      obtain ⟨there, its⟩ := mem_chain.mp listed
      exact picked.2 (its ▸ List.mem_map_of_mem there)
    · intro each there
      refine ⟨fun id _ => nofun, ?_⟩
      intro locked held mine
      obtain ⟨target, named, rfl⟩ := List.mem_map.mp mine
      exact require_ok.mp free target named each there held
  | commitSchedule request => exact commitSchedule_spec sound done
  | beginComplete request occurrence =>
    obtain ⟨_, fresh, done⟩ := bind_ok.mp done
    obtain ⟨_, free, done⟩ := bind_ok.mp done
    obtain ⟨row, stored, done⟩ := bind_ok.mp done
    obtain ⟨duty, known, done⟩ := bind_ok.mp done
    have stored := demand_ok.mp stored
    have known := demand_ok.mp known
    have named := List.find?_some stored
    have its := List.find?_some known
    simp only [beq_iff_eq] at named its
    refine begin_spec sound (require_ok.mp fresh) ?_ ?_ (Except.ok.inj done).symm nofun
    · exact ⟨List.mem_of_find?_eq_some stored, its, duty, List.mem_of_find?_eq_some known, SameDuty.refl duty⟩
    · intro each there
      refine ⟨?_, fun locked _ => List.not_mem_nil⟩
      intro id held mine
      have free := require_ok.mp free each there
      rw [held, ← mine] at free
      exact free (congrArg some named)
  | commitComplete request actor note now => exact commitComplete_spec sound done
  | abort request =>
    obtain rfl := Except.ok.inj done
    exact ⟨sound.onward (Keeps.of_same rfl rfl) sound.dutyIds sound.oneEntry sound.table List.filter_sublist
      (fun _ _ _ _ _ none => none) (fun _ _ _ here _ => here), Keeps.of_same rfl rfl, .aside nofun rfl rfl rfl⟩
  | enter entry obligation =>
    obtain ⟨_, fresh, done⟩ := bind_ok.mp done
    obtain rfl := Except.ok.inj done
    have keeps : Keeps desk { desk with entries := desk.entries ++ [(entry, obligation)] } :=
      ⟨fun duty there => ⟨duty, there, SameDuty.refl duty⟩, fun _ there => List.mem_append_left _ there⟩
    refine ⟨sound.onward keeps sound.dutyIds ?_ (sound.table.mono keeps.placed) (List.Sublist.refl _)
      (fun _ _ _ _ _ none => none) (fun _ _ _ here _ => here), keeps, .aside nofun rfl rfl rfl⟩
    intro one first other second same
    have fresh := require_ok.mp fresh
    rcases mem_concat.mp first with old | rfl
    · rcases mem_concat.mp second with older | rfl
      · exact sound.oneEntry one old other older same
      · exact absurd same (fresh one old).2
    · rcases List.mem_append.mp second with older | newer
      · exact absurd same.symm (fresh other older).2
      · exact (List.mem_singleton.mp newer).symm
  | publish duty =>
    obtain ⟨_, fresh, done⟩ := bind_ok.mp done
    obtain rfl := Except.ok.inj done
    have keeps : Keeps desk { desk with duties := desk.duties ++ [duty] } :=
      ⟨fun duty there => ⟨duty, List.mem_append_left _ there, SameDuty.refl duty⟩, fun _ there => there⟩
    refine ⟨sound.onward keeps ?_ sound.oneEntry (sound.table.mono keeps.placed) (List.Sublist.refl _)
      (fun _ _ _ _ _ none => none) (fun _ _ _ here _ => here), keeps, .aside nofun rfl rfl rfl⟩
    intro one first other second same
    have fresh := require_ok.mp fresh
    rcases mem_concat.mp first with old | rfl
    · rcases mem_concat.mp second with older | rfl
      · exact sound.dutyIds one old other older same
      · exact absurd same (fresh one old)
    · rcases List.mem_append.mp second with older | newer
      · exact absurd same.symm (fresh other older)
      · exact (List.mem_singleton.mp newer).symm
  | retire id =>
    obtain rfl := Except.ok.inj done
    have keeps : Keeps desk { desk with
        duties := desk.duties.map fun duty => if duty.id = id then { duty with active := false } else duty } := by
      refine ⟨fun duty there => ⟨_, List.mem_map_of_mem there, ?_⟩, fun _ there => there⟩
      split
      · exact ⟨rfl, rfl, rfl, nofun⟩
      · exact SameDuty.refl duty
    refine ⟨sound.onward keeps ?_ sound.oneEntry (sound.table.mono keeps.placed) (List.Sublist.refl _)
      (fun _ _ _ _ _ none => none) (fun _ _ _ here _ => here), keeps, .aside nofun rfl rfl rfl⟩
    intro one first other second same
    obtain ⟨before, there, rfl⟩ := List.mem_map.mp first
    obtain ⟨beforeToo, thereToo, rfl⟩ := List.mem_map.mp second
    have ids : ∀ duty : DutyRule, (if duty.id = id then { duty with active := false } else duty).id = duty.id := by
      intro duty
      split <;> rfl
    rw [ids, ids] at same
    rw [sound.dutyIds before there beforeToo thereToo same]
  | reassign occurrence owner ownerTeam version =>
    obtain ⟨_, free, done⟩ := bind_ok.mp done
    obtain rfl := Except.ok.inj done
    have free := require_ok.mp free
    let change (row : DutyOccurrence) := if row.id = occurrence then row.reassigned owner ownerTeam version else row
    have named : ∀ row, (change row).id = row.id := by
      intro row
      simp only [change]
      split <;> rfl
    have same : ∀ row, (change row).chain = row.chain := by
      intro row
      simp only [change]
      split <;> rfl
    have dated : ∀ row, (change row).dueDate = row.dueDate := by
      intro row
      simp only [change]
      split <;> rfl
    have finished : ∀ row, row.status = .done → (change row).status = .done := by
      intro row its
      simp only [change]
      split
      · exact its
      · exact its
    refine ⟨sound.onward (Keeps.of_same rfl rfl) sound.dutyIds sound.oneEntry (sound.table.map named same dated finished)
      (List.Sublist.refl _) ?_ ?_, Keeps.of_same rfl rfl, .reassigned occurrence owner ownerTeam version rfl rfl rfl⟩
    · intro each there target locked duty none
      rw [chain_map desk.table same, none, List.map_nil]
    · intro each there row here held
      refine List.mem_map.mpr ⟨row, here, ?_⟩
      rw [if_neg]
      rintro rfl
      exact free each there held

/-! ## Chains -/

theorem runs_sound (tenantId : Id) (calls : List DutyStep) : (run (step dateutil cap) (DutyDesk.opened tenantId) calls).Sound :=
  run_invariant (DutyDesk.opened_sound tenantId) (fun _ _ _ sound done => (step_spec sound done).1) calls

/-! ## Answers -/

def AnswersKept (desk : DutyDesk) : Prop := ∀ one ∈ desk.answers, ∀ other ∈ desk.answers, one.1 = other.1 → one.2 = other.2

instance (desk : DutyDesk) : Decidable (AnswersKept desk) := by
  unfold AnswersKept
  infer_instance

/-- A completion about to find its occurrence done: the rows it answered with before stand as they were shown, and where it named a
next one the duty is not retired. -/
def AsShown (desk : DutyDesk) : DutyStep → Prop
  | .commitComplete request _ _ _ =>
    ∀ each ∈ desk.underway, each.1 = request → match each.2 with
      | .completing row duty => row.status = .done → ∀ first ∈ desk.answers, first.1 = row.id →
        first.2.completed = row.out ∧ ∀ shown ∈ first.2.next, duty.active = true ∧ ∃ held ∈ desk.table.occurrences, held.out = shown
      | _ => True
  | _ => True

/-- What an answer says of the date after its occurrence. -/
structure Answer (dateutil : Dateutil Rule) (cap : Nat) (desk : DutyDesk) (row : DutyOccurrence) (duty : DutyRule) (answer : DutyAnswer) :
    Prop where
  /-- No next one: there is no date, or the duty was retired, and nobody has it otherwise. -/
  none_ : answer.next = none → nextDue dateutil cap duty.rule row.dueDate false = .ok none ∨
    duty.active = false ∧ ∀ each ∈ desk.underway, ∀ loaded read, each.2 = .completing loaded read → loaded.id = row.id → read.active = false
  next : ∀ shown, answer.next = some shown → nextDue dateutil cap duty.rule row.dueDate false = .ok (some shown.dueDate) ∧
    ∃ held ∈ desk.table.occurrences, held.id = shown.id ∧ held.chain = row.chain ∧ held.dueDate = shown.dueDate

/-- Every answer is about a done occurrence, and every done occurrence has been answered. -/
structure Answered (dateutil : Dateutil Rule) (cap : Nat) (desk : DutyDesk) : Prop where
  about : ∀ pair ∈ desk.answers, ∃ row ∈ desk.table.occurrences, row.id = pair.1 ∧ row.status = .done ∧
    ∃ duty ∈ desk.duties, duty.id = row.recurringDuty ∧ Answer dateutil cap desk row duty pair.2
  all : ∀ row ∈ desk.table.occurrences, row.status = .done → ∃ answer, (row.id, answer) ∈ desk.answers

theorem opened_answered (tenantId : Id) : Answered dateutil cap (DutyDesk.opened tenantId) :=
  ⟨fun _ there => absurd there List.not_mem_nil, fun _ there => absurd there List.not_mem_nil⟩

/-- An occurrence as it goes on: still the one of its date, and done where it was. -/
structure Lasts (old now : DutyOccurrence) : Prop where
  id : now.id = old.id
  chain : now.chain = old.chain
  dueDate : now.dueDate = old.dueDate
  done : old.status = .done → now.status = .done

theorem Lasts.refl (row : DutyOccurrence) : Lasts row row := ⟨rfl, rfl, rfl, fun done => done⟩

theorem Effect.lasts (sound : desk.Sound) (effect : Effect dateutil cap desk next call) :
    ∀ row ∈ desk.table.occurrences, ∃ now ∈ next.table.occurrences, Lasts row now := by
  intro row there
  cases effect with
  | aside quiet table => exact ⟨row, table ▸ there, Lasts.refl row⟩
  | reassigned occurrence owner ownerTeam version rows =>
    refine ⟨_, rows ▸ List.mem_map_of_mem there, ?_⟩
    split
    · exact ⟨rfl, rfl, rfl, fun done => done⟩
    · exact Lasts.refl row
  | scheduled request today pairs read rows => exact ⟨row, rows row there, Lasts.refl row⟩
  | again request actor note now loaded duty due under done table => exact ⟨row, table ▸ there, Lasts.refl row⟩
  | completed request actor note now loaded duty due person completion under is_open following finished =>
    rw [finished.occurrences]
    refine ⟨_, List.mem_append_left _ (List.mem_map_of_mem there), ?_⟩
    split
    · next same =>
      have here := (sound.reads _ under).1
      rw [List.inj_on_of_nodup_map sound.table.ids there here same]
      exact ⟨rfl, rfl, rfl, fun _ => rfl⟩
    · exact Lasts.refl row

/-- A completion under way was so before, or has read its occurrence and its duty just now. -/
theorem step_underway (done : step dateutil cap desk call = .ok next) : ∀ each ∈ next.underway, each ∈ desk.underway ∨
    ∀ row duty, each.2 = .completing row duty → row ∈ desk.table.occurrences ∧ duty ∈ desk.duties ∧ duty.id = row.recurringDuty := by
  intro each there
  cases call with
  | beginSchedule request actor today targets =>
    obtain ⟨_, _, done⟩ := bind_ok.mp done
    obtain ⟨_, _, done⟩ := bind_ok.mp done
    obtain ⟨_, _, done⟩ := bind_ok.mp done
    obtain rfl := Except.ok.inj done
    rcases mem_concat.mp there with old | rfl
    · exact .inl old
    · exact .inr fun row duty same => DutyWork.noConfusion same
  | commitSchedule request =>
    simp only [step] at done
    split at done
    · obtain ⟨table, -, done⟩ := bind_ok.mp done
      obtain rfl := Except.ok.inj done
      exact .inl (mem_without.mp there).1
    · cases done
  | beginComplete request occurrence =>
    obtain ⟨_, _, done⟩ := bind_ok.mp done
    obtain ⟨_, _, done⟩ := bind_ok.mp done
    obtain ⟨row, stored, done⟩ := bind_ok.mp done
    obtain ⟨duty, known, done⟩ := bind_ok.mp done
    obtain rfl := Except.ok.inj done
    have known := demand_ok.mp known
    rcases mem_concat.mp there with old | rfl
    · exact .inl old
    · refine .inr ?_
      rintro _ _ ⟨⟩
      have its := List.find?_some known
      simp only [beq_iff_eq] at its
      exact ⟨List.mem_of_find?_eq_some (demand_ok.mp stored), List.mem_of_find?_eq_some known, its⟩
  | commitComplete request actor note now =>
    simp only [step] at done
    split at done
    · obtain ⟨written, -, done⟩ := bind_ok.mp done
      obtain rfl := Except.ok.inj done
      exact .inl (mem_without.mp there).1
    · cases done
  | abort request =>
    obtain rfl := Except.ok.inj done
    exact .inl (mem_without.mp there).1
  | enter entry obligation | publish duty =>
    obtain ⟨_, _, done⟩ := bind_ok.mp done
    obtain rfl := Except.ok.inj done
    exact .inl there
  | retire id =>
    obtain rfl := Except.ok.inj done
    exact .inl there
  | reassign occurrence owner ownerTeam version =>
    obtain ⟨_, _, done⟩ := bind_ok.mp done
    obtain rfl := Except.ok.inj done
    exact .inl there

section Answers
variable {row now : DutyOccurrence} {duty dutyNow : DutyRule} {answer : DutyAnswer}

theorem Answer.onward (sound : desk.Sound) (done : step dateutil cap desk call = .ok next) (given : Answer dateutil cap desk row duty answer)
    (there : row ∈ desk.table.occurrences) (known : duty ∈ desk.duties) (about : duty.id = row.recurringDuty) (lasts : Lasts row now)
    (same : SameDuty duty dutyNow) : Answer dateutil cap next now dutyNow answer where
  none_ := by
    intro nothing
    rw [same.rule, lasts.dueDate]
    rcases given.none_ nothing with undated | ⟨retired, others⟩
    · exact .inl undated
    · refine .inr ⟨Bool.eq_false_iff.mpr fun active => ?_, ?_⟩
      · rw [same.active active] at retired
        cases retired
      · intro each under loaded read completing named
        rcases step_underway done each under with old | new
        · exact others each old loaded read completing (named.trans lasts.id)
        · obtain ⟨here, readIn, its⟩ := new loaded read completing
          obtain rfl := List.inj_on_of_nodup_map sound.table.ids here there (named.trans lasts.id)
          rw [sound.dutyIds read readIn duty known (its.trans about.symm)]
          exact retired
  next := by
    intro shown answered
    obtain ⟨dated, held, here, named, chain, due⟩ := given.next shown answered
    obtain ⟨heldNow, hereNow, still⟩ := (step_spec sound done).2.2.lasts sound held here
    rw [same.rule, lasts.dueDate]
    exact ⟨dated, heldNow, hereNow, still.id.trans named, still.chain.trans (chain.trans lasts.chain.symm), still.dueDate.trans due⟩

theorem Answer.given {due : Option Day} (following : followingDate dateutil cap duty row = .ok due) (same : SameDuty duty dutyNow)
    (lasts : Lasts row now) (locked : ∀ each ∈ next.underway, each.2.held ≠ some row.id)
    (none_ : due = none → answer.next = none)
    (some_ : ∀ day, due = some day → ∃ held ∈ next.table.occurrences, answer.next = some held.out ∧ held.chain = row.chain ∧ held.dueDate = day) :
    Answer dateutil cap next now dutyNow answer := by
  unfold followingDate at following
  cases due with
  | none =>
    refine ⟨fun _ => ?_, fun shown answered => nomatch (none_ rfl).symm.trans answered⟩
    split at following
    · rw [same.rule, lasts.dueDate]
      exact .inl following
    · next retired =>
      refine .inr ⟨Bool.eq_false_iff.mpr fun active => retired (same.active active), ?_⟩
      intro each under loaded read completing named
      have held : each.2.held = some row.id := by
        rw [completing]
        exact congrArg some (named.trans lasts.id)
      exact absurd held (locked each under)
  | some day =>
    obtain ⟨held, here, shown, chain, dated⟩ := some_ day rfl
    have named : answer.next ≠ none := by
      rw [shown]
      exact nofun
    refine ⟨fun nothing => absurd nothing named, ?_⟩
    intro other answered
    obtain rfl := Option.some.inj (shown.symm.trans answered)
    split at following
    · rw [same.rule, lasts.dueDate]
      exact ⟨by rw [following, ← dated]; rfl, held, here, rfl, chain.trans lasts.chain.symm, rfl⟩
    · cases following

theorem Answered.following (sound : desk.Sound) (answered : Answered dateutil cap desk) {request : Id}
    (under : (request, .completing row duty) ∈ desk.underway) (done : row.status = .done) {day : Day}
    (following : followingDate dateutil cap duty row = .ok (some day)) :
    ∃ held, desk.table.occurrences.find? (·.onKey duty.id row.orgUnit day) = some held ∧ held ∈ desk.table.occurrences ∧
      held.chain = row.chain ∧ held.dueDate = day := by
  obtain ⟨there, its, known, inDuties, same⟩ := sound.reads _ under
  obtain ⟨first, given⟩ := answered.all row there done
  obtain ⟨held, here, named, -, other, otherIn, about, told⟩ := answered.about _ given
  obtain rfl := List.inj_on_of_nodup_map sound.table.ids here there named
  obtain rfl := sound.dutyIds other otherIn known inDuties (about.trans (its.symm.trans same.id.symm))
  unfold followingDate at following
  split at following
  · next active =>
    rw [← same.rule] at following
    cases shown : first.next with
    | none =>
      rcases told.none_ shown with undated | ⟨-, others⟩
      · rw [undated] at following
        cases following
      · rw [others _ under held duty rfl rfl] at active
        cases active
    | some out =>
      obtain ⟨dated, later, laterIn, -, chain, due⟩ := told.next out shown
      obtain rfl := Option.some.inj (Except.ok.inj (dated.symm.trans following))
      have keys := chain
      simp only [DutyOccurrence.chain, ChainKey.mk.injEq] at keys
      have onKey : later.onKey duty.id held.orgUnit out.dueDate = true := by
        simp only [DutyOccurrence.onKey, keys.1, keys.2.2, its, due, BEq.rfl, Bool.and_self]
      have present : (desk.table.occurrences.find? (·.onKey duty.id held.orgUnit out.dueDate)).isSome = true :=
        List.find?_isSome.mpr ⟨later, laterIn, onKey⟩
      obtain ⟨found, located⟩ := Option.isSome_iff_exists.mp present
      have foundIn := List.mem_of_find?_eq_some located
      have itsKey : found.onKey duty.id (held.target duty).orgUnit out.dueDate = true := by
        have matches_ := List.find?_some located
        exact matches_
      have placedRow : desk.placed duty.id (held.target duty).tenantObligation := by
        rw [its]
        exact sound.table.known held there
      obtain ⟨inChain, dueFound⟩ := sound.table.chain_of_onKey sound.placed_one placedRow foundIn itsKey
      refine ⟨found, located, foundIn, ?_, dueFound⟩
      rw [(mem_chain.mp inChain).2]
      simp only [DutyTarget.chain, DutyOccurrence.target, DutyOccurrence.chain, its]
  · cases following

theorem commitComplete_underway {request : Id} {actor : Actor} {note : String} {at_ : Instant}
    (done : step dateutil cap desk (.commitComplete request actor note at_) = .ok next) : next.underway = desk.without request := by
  simp only [step] at done
  split at done
  · obtain ⟨written, -, done⟩ := bind_ok.mp done
    obtain rfl := Except.ok.inj done
    rfl
  · cases done

theorem Effect.done_before (effect : Effect dateutil cap desk next call) (there : now ∈ next.table.occurrences)
    (finished : now.status = .done) : (∃ old ∈ desk.table.occurrences, old.id = now.id ∧ old.status = .done) ∨
      ∃ answer, (now.id, answer) ∈ next.answers := by
  cases effect with
  | aside quiet table => exact .inl ⟨now, table ▸ there, rfl, finished⟩
  | reassigned occurrence owner ownerTeam version rows =>
    rw [rows] at there
    obtain ⟨old, here, rfl⟩ := List.mem_map.mp there
    refine .inl ⟨old, here, ?_, ?_⟩
    · split <;> rfl
    · split at finished
      · exact finished
      · exact finished
  | scheduled request today pairs read rows chains =>
    have listed := mem_chain.mpr ⟨there, rfl⟩
    rcases chains now.chain with unchanged | ⟨pair, -, -, -, first, begun, is_open, -⟩
    · rw [unchanged] at listed
      exact .inl ⟨now, (mem_chain.mp listed).1, rfl, finished⟩
    · rw [begun, List.mem_singleton] at listed
      exact absurd (listed ▸ finished) is_open
  | again request actor note at_ loaded duty due under done table => exact .inl ⟨now, table ▸ there, rfl, finished⟩
  | completed request actor note at_ loaded duty due person completion under is_open following written answers =>
    rw [written.occurrences] at there
    rcases List.mem_append.mp there with before | new
    · obtain ⟨old, here, rfl⟩ := List.mem_map.mp before
      by_cases same : old.id = loaded.id
      · rw [if_pos same, answers]
        exact .inr ⟨_, List.mem_append_right _ List.mem_cons_self⟩
      · rw [if_neg same] at finished ⊢
        exact .inl ⟨old, here, rfl, finished⟩
    · cases due with
      | none =>
        rw [(written.none_ rfl).1] at new
        cases new
      | some day =>
        obtain ⟨other, its, -, -, -, still, -⟩ := written.next day rfl
        rw [its, Option.toList_some, List.mem_singleton] at new
        exact absurd (new ▸ finished) still

theorem Effect.answers (effect : Effect dateutil cap desk next call) : ∀ pair ∈ desk.answers, pair ∈ next.answers := by
  intro pair there
  cases effect with
  | aside quiet table answers | reassigned occurrence owner ownerTeam version rows answers => exact answers ▸ there
  | scheduled request today pairs read rows chains answers => exact answers ▸ there
  | again request actor note at_ loaded duty due under done table following answers => exact answers ▸ List.mem_append_left _ there
  | completed request actor note at_ loaded duty due person completion under is_open following written answers =>
    exact answers ▸ List.mem_append_left _ there

theorem Effect.answered (sound : desk.Sound) (answered : Answered dateutil cap desk) (done : step dateutil cap desk call = .ok next)
    (effect : Effect dateutil cap desk next call) {pair : Id × DutyAnswer} (given : pair ∈ next.answers) (new : pair ∉ desk.answers) :
    ∃ row ∈ next.table.occurrences, row.id = pair.1 ∧ row.status = .done ∧
      ∃ duty ∈ next.duties, duty.id = row.recurringDuty ∧ Answer dateutil cap next row duty pair.2 := by
  have keeps := (step_spec sound done).2.1
  have free : ∀ {request : Id} {row : DutyOccurrence} {duty : DutyRule}, (request, .completing row duty) ∈ desk.underway →
      next.underway = desk.without request → ∀ each ∈ next.underway, each.2.held ≠ some row.id := by
    intro request row duty under left each there
    exact sound.held_other under (left ▸ there) rfl
  cases effect with
  | aside quiet table answers | reassigned occurrence owner ownerTeam version rows answers => exact absurd (answers ▸ given) new
  | scheduled request today pairs read rows chains answers => exact absurd (answers ▸ given) new
  | again request actor note at_ loaded duty due under finished table following answers =>
    rw [answers] at given
    rcases mem_concat.mp given with old | rfl
    · exact absurd old new
    · obtain ⟨there, its, known, inDuties, same⟩ := sound.reads _ under
      obtain ⟨dutyNow, nowIn, still⟩ := keeps.duties known inDuties
      have locked := free under (commitComplete_underway done)
      refine ⟨loaded, table ▸ there, rfl, finished, dutyNow, nowIn, (same.trans still).id.trans its, ?_⟩
      refine .given following (same.trans still) (Lasts.refl loaded) locked ?_ ?_
      · rintro rfl
        rfl
      · rintro day rfl
        obtain ⟨held, located, here, chain, dated⟩ := answered.following sound under finished following
        refine ⟨held, table ▸ here, ?_, chain, dated⟩
        simp only [Option.bind_some, located, Option.map_some]
  | completed request actor note at_ loaded duty due person completion under is_open following written answers =>
    rw [answers] at given
    rcases mem_concat.mp given with old | rfl
    · exact absurd old new
    · obtain ⟨there, its, known, inDuties, same⟩ := sound.reads _ under
      obtain ⟨dutyNow, nowIn, still⟩ := keeps.duties known inDuties
      have locked := free under (commitComplete_underway done)
      have row : loaded.completed person note at_ ∈ next.table.occurrences := by
        rw [written.occurrences]
        refine List.mem_append_left _ (List.mem_map.mpr ⟨loaded, there, ?_⟩)
        rw [if_pos rfl]
      refine ⟨loaded.completed person note at_, row, rfl, rfl, dutyNow, nowIn, (same.trans still).id.trans its, ?_⟩
      refine .given following (same.trans still) ⟨rfl, rfl, rfl, fun _ => rfl⟩ locked ?_ ?_
      · intro none_
        simp only [DutyCompletion.out, (written.none_ none_).1, Option.map_none]
      · intro day some_
        obtain ⟨held, shown, -, dated, chain, -, rows⟩ := written.next day some_
        refine ⟨held, ?_, ?_, chain, dated⟩
        · rw [rows]
          exact List.mem_append_right _ List.mem_cons_self
        · simp only [DutyCompletion.out, shown, Option.map_some]

theorem step_answered (sound : desk.Sound) (answered : Answered dateutil cap desk) (done : step dateutil cap desk call = .ok next) :
    Answered dateutil cap next := by
  obtain ⟨-, keeps, effect⟩ := step_spec sound done
  constructor
  · intro pair given
    by_cases old : pair ∈ desk.answers
    · obtain ⟨row, there, named, finished, duty, known, about, told⟩ := answered.about pair old
      obtain ⟨now, here, lasts⟩ := effect.lasts sound row there
      obtain ⟨dutyNow, nowIn, same⟩ := keeps.duties duty known
      refine ⟨now, here, lasts.id.trans named, lasts.done finished, dutyNow, nowIn, ?_, told.onward sound done there known about lasts same⟩
      have keys := lasts.chain
      simp only [DutyOccurrence.chain, ChainKey.mk.injEq] at keys
      rw [keys.1, same.id, about]
    · exact effect.answered sound answered done given old
  · intro now here finished
    rcases effect.done_before here finished with ⟨old, there, named, before⟩ | given
    · obtain ⟨answer, given⟩ := answered.all old there before
      exact ⟨answer, effect.answers _ (named ▸ given)⟩
    · exact given

/-- A completion that finds its occurrence done answers as before exactly when both rows stand as they were shown and the duty is
still there to say which comes next. -/
theorem again_iff (sound : desk.Sound) (answered : Answered dateutil cap desk) {request : Id} {due : Option Day}
    (under : (request, .completing row duty) ∈ desk.underway) (finished : row.status = .done)
    (following : followingDate dateutil cap duty row = .ok due) {first : DutyAnswer} (given : (row.id, first) ∈ desk.answers) :
    first = { completed := row.out, next := (due.bind fun due =>
        desk.table.occurrences.find? (·.onKey duty.id row.orgUnit due)).map (·.out) } ↔
      first.completed = row.out ∧ ∀ shown ∈ first.next, duty.active = true ∧ ∃ held ∈ desk.table.occurrences, held.out = shown := by
  constructor
  · rintro rfl
    refine ⟨rfl, ?_⟩
    intro shown its
    cases due with
    | none => cases its
    | some day =>
      obtain ⟨held, located, here, -⟩ := answered.following sound under finished following
      simp only [Option.bind_some, located, Option.map_some, Option.mem_def, Option.some.injEq] at its
      refine ⟨?_, held, here, its⟩
      by_contra retired
      rw [followingDate, if_neg retired] at following
      cases following
  · rintro ⟨completed, next⟩
    obtain ⟨there, its, known, inDuties, same⟩ := sound.reads _ under
    obtain ⟨other, otherIn, named, -, read, readIn, about, told⟩ := answered.about _ given
    obtain rfl := List.inj_on_of_nodup_map sound.table.ids otherIn there named
    obtain rfl := sound.dutyIds read readIn known inDuties (about.trans (its.symm.trans same.id.symm))
    have shownNext : first.next = (due.bind fun due =>
        desk.table.occurrences.find? (·.onKey duty.id other.orgUnit due)).map (·.out) := by
      cases shown : first.next with
      | none =>
        cases due with
        | none => rfl
        | some day =>
          unfold followingDate at following
          split at following
          · next active =>
            rcases told.none_ shown with undated | ⟨-, others⟩
            · rw [same.rule, following] at undated
              cases undated
            · rw [others _ under other duty rfl rfl] at active
              cases active
          · cases following
      | some out =>
        obtain ⟨active, held, here, same_⟩ := next out shown
        obtain ⟨dated, later, laterIn, laterId, chain, laterDue⟩ := told.next out shown
        rw [followingDate, if_pos active, ← same.rule, dated] at following
        obtain rfl := Except.ok.inj following
        have sameFollowing : followingDate dateutil cap duty other = .ok (some out.dueDate) := by
          rw [followingDate, if_pos active, ← same.rule, dated]
        obtain ⟨found, located, foundIn, foundChain, foundDue⟩ := answered.following sound under finished sameFollowing
        have heldId : held.id = out.id := same_ ▸ rfl
        obtain rfl := List.inj_on_of_nodup_map sound.table.ids here laterIn (heldId.trans laterId.symm)
        have one : found = held := by
          rcases (sound.table.chains other.chain).comparable (mem_chain.mpr ⟨foundIn, foundChain⟩) (mem_chain.mpr ⟨here, chain⟩) with
            same | before | after
          · exact same
          · exact absurd (foundDue.trans laterDue.symm) (ne_of_lt before.1)
          · exact absurd (laterDue.trans foundDue.symm) (ne_of_lt after.1)
        simp only [Option.bind_some, located, Option.map_some, one, same_]
    rw [← completed, ← shownNext]

theorem answersKept_append {id : Id} (kept : AnswersKept desk) (answers : next.answers = desk.answers ++ [(id, answer)]) :
    AnswersKept next ↔ ∀ first, (id, first) ∈ desk.answers → first = answer := by
  have new : (id, answer) ∈ next.answers := answers ▸ List.mem_append_right _ List.mem_cons_self
  constructor
  · intro still first given
    exact still (id, first) (answers ▸ List.mem_append_left _ given) (id, answer) new rfl
  · intro same one first other second named
    rw [answers] at first second
    rcases mem_concat.mp first with old | rfl
    · rcases mem_concat.mp second with older | rfl
      · exact kept one old other older named
      · obtain ⟨about, given⟩ := one
        obtain rfl : about = id := named
        exact same given old
    · rcases List.mem_append.mp second with older | singleToo
      · obtain ⟨about, given⟩ := other
        obtain rfl : id = about := named
        exact (same given older).symm
      · rw [List.mem_singleton.mp singleToo]

theorem asShown_iff (sound : desk.Sound) {request : Id} {actor : Actor} {note : String} {at_ : Instant}
    (under : (request, .completing row duty) ∈ desk.underway) : AsShown desk (.commitComplete request actor note at_) ↔
      (row.status = .done → ∀ first, (row.id, first) ∈ desk.answers →
        first.completed = row.out ∧ ∀ shown ∈ first.next, duty.active = true ∧ ∃ held ∈ desk.table.occurrences, held.out = shown) := by
  constructor
  · intro shown finished first given
    exact shown _ under rfl finished (row.id, first) given rfl
  · intro shown each there named
    obtain rfl := List.inj_on_of_nodup_map sound.requests there under named
    intro finished first given about
    obtain ⟨id, answered⟩ := first
    obtain rfl : id = row.id := about
    exact shown finished answered given

theorem answersKept_iff (sound : desk.Sound) (answered : Answered dateutil cap desk) (kept : AnswersKept desk)
    (done : step dateutil cap desk call = .ok next) : AnswersKept next ↔ AsShown desk call := by
  have effect := (step_spec sound done).2.2
  have same : next.answers = desk.answers → AnswersKept next := by
    intro answers one first other second
    exact kept one (answers ▸ first) other (answers ▸ second)
  cases effect with
  | aside quiet table answers =>
    refine ⟨fun _ => ?_, fun _ => same answers⟩
    cases call with
    | commitComplete request actor note at_ => exact absurd rfl (quiet request actor note at_)
    | _ => trivial
  | reassigned occurrence owner ownerTeam version rows answers => exact ⟨fun _ => trivial, fun _ => same answers⟩
  | scheduled request today pairs read rows chains answers => exact ⟨fun _ => trivial, fun _ => same answers⟩
  | again request actor note at_ loaded duty due under finished table following answers =>
    rw [answersKept_append kept answers, asShown_iff sound under]
    constructor
    · intro agrees _ first given
      exact (again_iff sound answered under finished following given).mp (agrees first given)
    · intro shown first given
      exact (again_iff sound answered under finished following given).mpr (shown finished first given)
  | completed request actor note at_ loaded duty due person completion under is_open following written answers =>
    rw [answersKept_append kept answers, asShown_iff sound under]
    refine ⟨fun _ finished => absurd finished is_open, fun _ first given => ?_⟩
    -- The occurrence is open, so nobody has been answered about it yet.
    obtain ⟨other, there, named, finished, -⟩ := answered.about _ given
    obtain rfl := List.inj_on_of_nodup_map sound.table.ids there (sound.reads _ under).1 named
    exact absurd finished is_open

end Answers

/-- Over every run the occurrences of each duty, entry and entity are a chain, completing a done occurrence writes none, and
all its completions are answered the same in every state exactly as long as each of them finds the rows as they were shown. -/
theorem duties_chain_answers (dateutil : Dateutil Rule) (cap : Nat) (tenantId : Id) (calls : List DutyStep) :
    (∀ key, IsChain ((run (step dateutil cap) (DutyDesk.opened tenantId) calls).table.chain key)) ∧
      (∀ request actor note now row duty next,
        (request, .completing row duty) ∈ (run (step dateutil cap) (DutyDesk.opened tenantId) calls).underway → row.status = .done →
          step dateutil cap (run (step dateutil cap) (DutyDesk.opened tenantId) calls) (.commitComplete request actor note now) = .ok next →
            next.table = (run (step dateutil cap) (DutyDesk.opened tenantId) calls).table) ∧
      ((∀ first, first <+: calls → AnswersKept (run (step dateutil cap) (DutyDesk.opened tenantId) first)) ↔
        Meets (step dateutil cap) AsShown (DutyDesk.opened tenantId) calls) := by
  have sound : (run (step dateutil cap) (DutyDesk.opened tenantId) calls).Sound := runs_sound tenantId calls
  refine ⟨sound.table.chains, ?_, ?_⟩
  · intro request actor note now row duty next under finished done
    have effect := (step_spec sound done).2.2
    cases effect with
    | aside quiet table | again request actor note at_ loaded duty due under finished table => exact table
    | completed request actor note at_ loaded other due person completion underToo is_open following written answers =>
      have same := List.inj_on_of_nodup_map sound.requests under underToo rfl
      obtain ⟨rfl, -⟩ := DutyWork.completing.inj (Prod.mk.inj same).2
      exact absurd finished is_open
  · exact holds_throughout_iff (fun desk => desk.Sound ∧ Answered dateutil cap desk ∧ AnswersKept desk)
      ⟨opened_sound tenantId, opened_answered tenantId, fun _ there => absurd there List.not_mem_nil⟩
      (fun _ held => held.2.2)
      (fun _ _ _ held done => answersKept_iff held.1 held.2.1 held.2.2 done)
      (fun _ _ _ held shown done => ⟨(step_spec held.1 done).1, step_answered held.1 held.2.1 done,
        (answersKept_iff held.1 held.2.1 held.2.2 done).mpr shown⟩) calls

/-- A duty due on the first of every month: scheduled in January 2026, its first two occurrences completed, and the first one again. -/
def completedTwice : List DutyStep :=
  let person : Actor := { kind := .user, id := some 7 }
  [.enter 1 2, .publish { id := 3, obligationId := 2, rule := "FREQ=MONTHLY;BYMONTHDAY=1" },
    .beginSchedule 10 person newYear2026 [{ tenantObligation := 1, obligationId := 2 }],
    .commitSchedule 10, .beginComplete 11 0, .commitComplete 11 person "" 100, .beginComplete 12 1, .commitComplete 12 person "" 200,
    .beginComplete 13 0, .commitComplete 13 person "" 300]

/-- The second completion of the first occurrence answers with the next one as it now is, done. -/
theorem completedTwice_answers : ¬ AnswersKept (run (step monthlyFirsts 200) (DutyDesk.opened 0) completedTwice) := by
  decide +kernel

end DutyDesk

end Grc.Register
