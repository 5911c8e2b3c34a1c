import Grc.Tenants.TeamWork

/-! A retired team and the open work it owns, over whole runs of the calls on a bank's teams and on what they own. -/
namespace Grc.Tenants

open Grc.Shared Grc.Lib
open Grc.Cases (CaseFacts)
open Grc.Library (ListRow)
open Grc.Taxonomy (ListTable ListCall ListWrite setActive)

def Work.Attended (teams : ListTable) (row : Work) : Prop := ∀ team ∈ teams.rows, row.ownerTeam = some team.id → team.active = true

def Attended (teams : ListTable) (work : WorkTable) : Prop := ∀ row ∈ work.rows, row.state.isOpen = true → row.Attended teams

/-- As a retirement commits its team owns no open gap, duty occurrence or case; as a merge commits it moves every open record of the team
merged away, and to an active team. -/
def ListHeeds (work : WorkTable) : ListWrite → Prop
  | .retire team => ∀ row ∈ work.rows, row.ownerTeam = some team.id → row.state.isOpen = true → row.state.loose = false
  | .merge source target =>
    ∀ row ∈ work.rows, row.ownerTeam = some source.id → row.state.isOpen = true → row.linked = true ∧ target.active = true
  | _ => True

/-- As a write commits, the team of each record it files, opens or gives to another team is active. -/
def WorkHeeds (teams : ListTable) (write : WorkWrite) : Prop :=
  (∀ row ∈ write.loaded, (write.change row).state.isOpen = true →
    row.state.isOpen = false ∨ (write.change row).ownerTeam ≠ row.ownerTeam → (write.change row).Attended teams) ∧
  ∀ row ∈ write.created, row.state.isOpen = true → row.Attended teams

def Heeds (state : TeamDesk) : TeamStep → Prop
  | .commitList transaction => ∀ each ∈ state.lists.find? (·.1 == transaction), ListHeeds state.work each.2
  | .commitWork transaction => ∀ each ∈ state.writes.find? (·.1 == transaction), WorkHeeds state.teams each.2
  | _ => True

instance (teams : ListTable) (row : Work) : Decidable (row.Attended teams) := inferInstanceAs (Decidable (∀ _ ∈ _, _))

instance (work : WorkTable) : ∀ write : ListWrite, Decidable (ListHeeds work write) := by
  intro write
  cases write <;> unfold ListHeeds <;> infer_instance

instance (teams : ListTable) (write : WorkWrite) : Decidable (WorkHeeds teams write) := inferInstanceAs (Decidable (_ ∧ _))

instance : ∀ (state : TeamDesk) (step : TeamStep), Decidable (Heeds state step) := by
  intro state step
  cases step <;> unfold Heeds <;> infer_instance

def Counted (work : WorkTable) (team : Id) : Prop :=
  ∀ row ∈ work.rows, row.ownerTeam = some team → row.state.isOpen = true → row.state.loose = true

/-- The writes under way have their rows loaded as they are, and each retirement has counted. -/
structure TeamDesk.Sound (state : TeamDesk) : Prop where
  lists : Holding ListWrite.loaded state.teams state.lists
  kept : ∀ each ∈ state.lists, each.2.Kept
  writes : Holding WorkWrite.loaded state.work state.writes
  counted : ∀ each ∈ state.lists, ∀ team, each.2 = .retire team → Counted state.work team.id
  differ : ∀ each ∈ state.lists, ∀ source target, each.2 = .merge source target → source.id ≠ target.id

variable {cap : Nat} {state next : TeamDesk} {teams after : ListTable} {work : WorkTable} {row : Work} {write : WorkWrite} {list : ListWrite}
  {people : People} {targets : List RemovalTarget}

theorem lockedWork_mem {of_ : WorkState → Bool} {detail : String} {id : Id} (found : lockedWork work of_ detail id = .ok row) :
    row ∈ work.rows :=
  List.mem_of_find?_eq_some (demand_ok.mp found)

theorem optionally_mem {of_ : WorkState → Bool} {detail : String} {wanted : Option Id} {held : Option Work}
    (found : optionally (lockedWork work of_ detail) wanted = .ok held) : ∀ row ∈ held.toList, row ∈ work.rows := by
  rcases optionally_ok.mp found with ⟨-, rfl⟩ | ⟨id, row, -, rfl, locked⟩
  · exact fun _ none_ => absurd none_ List.not_mem_nil
  · intro mine there
    obtain rfl := List.mem_singleton.mp there
    exact lockedWork_mem locked

theorem plannedWork_loaded {call : WorkCall} (done : plannedWork people teams work targets call = .ok write) :
    ∀ row ∈ write.loaded, row ∈ work.rows := by
  have nothing : ∀ row ∈ ([] : List Work), row ∈ work.rows := fun _ none_ => absurd none_ List.not_mem_nil
  have one : ∀ {row : Work}, row ∈ work.rows → ∀ mine ∈ [row], mine ∈ work.rows := by
    intro row there mine its
    obtain rfl := List.mem_singleton.mp its
    exact there
  cases call with
  | updateRegister entry firstLineOwner complianceContact ownerTeam =>
    simp only [plannedWork, bind_ok, Except.ok.injEq] at done
    obtain ⟨held, found, _, _, _, _, _, _, rfl⟩ := done
    exact optionally_mem found
  | updateEntityStatus entered scope ownerId ownerTeam =>
    simp only [plannedWork, bind_ok, Except.ok.injEq] at done
    obtain ⟨held, found, _, _, _, _, rfl⟩ := done
    exact optionally_mem found
  | setApplicability answered entries scopes occurrences =>
    cases done
    exact fun row mine => (List.mem_filter.mp mine).1
  | createGap | createLicence =>
    obtain ⟨_, -, done⟩ := bind_ok.mp done
    cases done
    exact nothing
  | createItem ownerId ownerTeamId =>
    simp only [plannedWork, bind_ok, Except.ok.injEq] at done
    obtain ⟨_, _, _, _, _, _, rfl⟩ := done
    exact nothing
  | updateGap gap ownerId ownerTeam status =>
    simp only [plannedWork, bind_ok, Except.ok.injEq] at done
    obtain ⟨row, found, _, _, _, _, rfl⟩ := done
    exact one (lockedWork_mem found)
  | approveRiskAcceptance | reopenGap =>
    simp only [plannedWork, bind_ok, Except.ok.injEq] at done
    obtain ⟨row, found, _, _, rfl⟩ := done
    exact one (lockedWork_mem found)
  | completeOccurrence occurrence following =>
    obtain ⟨row, found, done⟩ := bind_ok.mp done
    split at done
    · cases done
      exact one (lockedWork_mem found)
    · cases done
      exact one (lockedWork_mem found)
  | updateLicence licence ownerUser withdrawn =>
    simp only [plannedWork, bind_ok, Except.ok.injEq] at done
    obtain ⟨row, found, _, _, rfl⟩ := done
    exact one (lockedWork_mem found)
  | applyPrivateControl | openCase =>
    cases done
    exact nothing
  | triageChange caseId ownerId ownerTeam facts =>
    simp only [plannedWork, bind_ok, Except.ok.injEq] at done
    obtain ⟨row, found, _, _, _, _, _, _, rfl⟩ := done
    exact one (lockedWork_mem found)
  | moveCase caseId toStatus facts =>
    simp only [plannedWork, bind_ok, Except.ok.injEq] at done
    obtain ⟨row, found, _, _, _, _, rfl⟩ := done
    exact one (lockedWork_mem found)
  | removeMember user =>
    simp only [plannedWork, bind_ok, Except.ok.injEq] at done
    obtain ⟨_, _, rfl⟩ := done
    exact fun row mine => (List.mem_filter.mp mine).1

theorem counted_of_open (open_ : row.state.isOpen = true) (held : row.state.loose = false) :
    ∃ each ∈ teamOpenWorkTables, row.state.table = each.1 ∧ each.2 row.state = true := by
  cases state : row.state with
  | registerEntry | registerEntity => simp [teamOpenWorkTables, WorkState.table]
  | licence withdrawn =>
    cases withdrawn with
    | false => simp [teamOpenWorkTables, WorkState.table]
    | true =>
      rw [state] at open_
      cases open_
  | internalItem active =>
    cases active with
    | true => simp [teamOpenWorkTables, WorkState.table]
    | false =>
      rw [state] at open_
      cases open_
  | gap | dutyOccurrence | case_ =>
    rw [state] at held
    cases held

variable {team : Id}

theorem counted_of_none (none_ : teamOpenWork work team = []) : Counted work team := by
  intro row there owned open_
  by_contra held
  obtain ⟨each, listed, same, still⟩ := counted_of_open open_ (Bool.not_eq_true _ ▸ held)
  have mine : row ∈ work.rows.filter fun row => row.state.table == each.1 && each.2 row.state && row.ownerTeam == some team :=
    List.mem_filter.mpr ⟨there, by simp [same, still, owned]⟩
  have counted := List.filter_eq_nil_iff.mp none_ _ (List.mem_map.mpr ⟨each, listed, rfl⟩)
  have some_ := List.length_pos_of_mem mine
  simp only [bne_iff_ne, ne_eq, not_not] at counted
  omega

theorem planned_counted {usage : ListRow → Nat} {call : ListCall} {team : ListRow}
    (done : Taxonomy.planned teamList teams cap usage (fun row => teamOpenWork work row.id) call = .ok (.retire team)) :
    Counted work team.id := by
  cases call with
  | retire key confirm =>
    obtain ⟨row, retired, same⟩ := map_ok.mp done
    obtain rfl := ListWrite.retire.inj same
    simp only [Taxonomy.retireRow, bind_ok, Except.ok.injEq] at retired
    obtain ⟨_, _, _, _, _, _, _, none_, _, _, _, live, rfl⟩ := retired
    have active : _ = true := require_ok.mp live
    have counted := require_ok.mp none_
    rw [if_pos active] at counted
    exact counted_of_none counted
  | create | patch | restore | merge =>
    obtain ⟨_, _, other⟩ := map_ok.mp done
    cases other

theorem of_mem_apply (loaded : ∀ row ∈ write.loaded, row ∈ work.rows) (there : row ∈ (write.apply work).rows) :
    (∃ old ∈ write.loaded, row = (write.change old).under old.id) ∨ row ∈ work.rows ∨
      ∃ made ∈ write.created, ∃ id, row = made.under id := by
  rcases Keyed.of_mem_createAll there with kept | filed
  · obtain ⟨old, before, rfl⟩ := Keyed.mem_update.mp kept
    split
    · rename_i mine
      obtain ⟨held, its, same⟩ := List.any_eq_true.mp mine
      obtain rfl := work.eq_of_key (loaded held its) before (beq_iff_eq.mp same)
      exact .inl ⟨held, its, rfl⟩
    · exact .inr (.inl before)
  · exact .inr (.inr filed)

theorem mem_apply_changed (loaded : ∀ row ∈ write.loaded, row ∈ work.rows) (mine : row ∈ write.loaded) :
    (write.change row).under row.id ∈ (write.apply work).rows := by
  refine Keyed.mem_createAll_old (Keyed.mem_update.mpr ⟨row, loaded row mine, ?_⟩)
  have its : write.loaded.any (·.id == row.id) = true := List.any_eq_true.mpr ⟨row, mine, beq_self_eq_true _⟩
  rw [if_pos its]

theorem mem_apply_spared (there : row ∈ work.rows) (apart : ∀ mine ∈ write.loaded, row.id ≠ mine.id) : row ∈ (write.apply work).rows := by
  refine Keyed.mem_createAll_old (Keyed.mem_update.mpr ⟨row, there, ?_⟩)
  have spared : ¬write.loaded.any (·.id == row.id) = true := by
    rw [List.any_eq_true]
    rintro ⟨mine, held, same⟩
    exact apart mine held (beq_iff_eq.mp same).symm
  rw [if_neg spared]

theorem mem_apply_filed (work : WorkTable) (filed : row ∈ write.created) : ∃ id, row.under id ∈ (write.apply work).rows :=
  Keyed.mem_createAll_new filed

theorem Attended.apply_iff (attended : Attended teams work) (loaded : ∀ row ∈ write.loaded, row ∈ work.rows) :
    Attended teams (write.apply work) ↔ WorkHeeds teams write := by
  constructor
  · intro after
    constructor
    · intro row mine open_ _
      exact after ((write.change row).under row.id) (mem_apply_changed loaded mine) open_
    · intro made filed open_
      obtain ⟨id, there⟩ := mem_apply_filed work filed
      exact after (made.under id) there open_
  · rintro ⟨changes, files⟩ row there open_
    rcases of_mem_apply loaded there with ⟨old, mine, rfl⟩ | before | ⟨made, filed, id, rfl⟩
    · by_cases kept : old.state.isOpen = true ∧ (write.change old).ownerTeam = old.ownerTeam
      · intro team listed its
        exact attended old (loaded old mine) kept.1 team listed (kept.2.symm.trans its)
      · refine changes old mine open_ ?_
        rcases not_and_or.mp kept with closed | another
        · exact .inl (Bool.not_eq_true _ ▸ closed)
        · exact .inr another
    · exact attended row before open_
    · exact files made filed open_

theorem Attended.list_kept (attended : Attended teams work) (kept : list.Kept) (loaded : ∀ row ∈ list.loaded, row ∈ teams.rows)
    (none_ : list.retires = none) (done : list.apply teams = .ok after) : Attended after work := by
  intro row there open_ team listed its
  have before := attended row there open_
  cases list with
  | create made =>
    obtain ⟨-, -, done⟩ := bind_ok.mp done
    cases done
    rcases (Keyed.mem_create _).mp listed with old | rfl
    · exact before team old its
    · exact kept
  | save loaded_ changed =>
    cases done
    obtain ⟨old, here, rfl⟩ := Keyed.mem_update.mp listed
    by_cases mine : (old.id == loaded_.id) = true
    · rw [if_pos mine] at its ⊢
      obtain rfl := teams.eq_of_key here (loaded loaded_ (List.mem_singleton_self _)) (beq_iff_eq.mp mine)
      exact kept.2.1.trans (before old here its)
    · rw [if_neg mine] at its ⊢
      exact before old here its
  | restore loaded_ =>
    cases done
    obtain ⟨old, here, same, -, -, ⟨-, active⟩ | ⟨-, rfl⟩⟩ := Taxonomy.of_mem_setActive listed
    · exact active
    · exact before team here its
  | retire | merge => cases none_

theorem Attended.retired_iff {source : ListRow} (attended : Attended teams work) (there : source ∈ teams.rows)
    (counted : Counted work source.id) :
    Attended (setActive teams source false) work ↔ ListHeeds work (.retire source) := by
  constructor
  · intro after row mine owned open_
    by_contra
    have listed : ({ source with active := false, version := source.version + 1 } : ListRow) ∈ (setActive teams source false).rows :=
      Keyed.mem_update.mpr ⟨source, there, (if_pos (beq_self_eq_true _)).symm⟩
    have active := after row mine open_ _ listed owned
    cases active
  · intro heeds row mine open_ team listed its
    obtain ⟨old, here, same, -, -, ⟨this, -⟩ | ⟨-, rfl⟩⟩ := Taxonomy.of_mem_setActive listed
    · have owned : row.ownerTeam = some source.id := its.trans (congrArg some (same.trans this))
      have held := counted row mine owned open_
      rw [heeds row mine owned open_] at held
      cases held
    · exact attended row mine open_ team here its

variable {source target : ListRow}

theorem mem_movedWork : row ∈ (movedWork work (.merge source target)).rows ↔ ∃ old ∈ work.rows,
    row = if (old.linked && old.ownerTeam == some source.id) = true then { old with ownerTeam := some target.id } else old := by
  unfold movedWork
  exact Keyed.mem_update

theorem of_mem_movedWork (there : row ∈ (movedWork work (.merge source target)).rows) :
    ∃ old ∈ work.rows, row.state = old.state ∧
      (old.linked = true ∧ old.ownerTeam = some source.id ∧ row.ownerTeam = some target.id ∨
        ¬(old.linked = true ∧ old.ownerTeam = some source.id) ∧ row = old) := by
  obtain ⟨old, before, rfl⟩ := mem_movedWork.mp there
  refine ⟨old, before, ?_⟩
  by_cases moved : old.linked = true ∧ old.ownerTeam = some source.id
  · rw [if_pos (by simpa using moved)]
    exact ⟨rfl, .inl ⟨moved.1, moved.2, rfl⟩⟩
  · rw [if_neg (by simpa using moved)]
    exact ⟨rfl, .inr ⟨moved, rfl⟩⟩

theorem mem_movedWork_spared (there : row ∈ work.rows)
    (spared : ¬(row.linked = true ∧ row.ownerTeam = some source.id)) : row ∈ (movedWork work (.merge source target)).rows :=
  mem_movedWork.mpr ⟨row, there, (if_neg (by simpa using spared)).symm⟩

theorem Attended.merged_iff (attended : Attended teams work) (here : source ∈ teams.rows)
    (there : target ∈ teams.rows) (differ : source.id ≠ target.id) :
    Attended (setActive teams source false) (movedWork work (.merge source target)) ↔ ListHeeds work (.merge source target) := by
  have out : ({ source with active := false, version := source.version + 1 } : ListRow) ∈ (setActive teams source false).rows :=
    Keyed.mem_update.mpr ⟨source, here, (if_pos (beq_self_eq_true _)).symm⟩
  constructor
  · intro after row mine owned open_
    by_cases linked : row.linked = true
    · have moved : ({ row with ownerTeam := some target.id } : Work) ∈ (movedWork work (.merge source target)).rows :=
        mem_movedWork.mpr ⟨row, mine, (if_pos (by simp [linked, owned])).symm⟩
      exact ⟨linked, after _ moved open_ target (Taxonomy.mem_setActive_other there differ.symm) rfl⟩
    · have left := @mem_movedWork_spared work row source target mine fun both => linked both.1
      have active := after row left open_ _ out owned
      cases active
  · intro heeds row mine open_ team listed its
    obtain ⟨old, before, state, ⟨linked, owned, moved⟩ | ⟨spared, rfl⟩⟩ := of_mem_movedWork mine
    · have active := (heeds old before owned (state ▸ open_)).2
      have same : team.id = target.id := Option.some.inj (its.symm.trans moved)
      obtain ⟨held, was, kept, -, -, ⟨this, -⟩ | ⟨-, rfl⟩⟩ := Taxonomy.of_mem_setActive listed
      · exact absurd (this.symm.trans (kept.symm.trans same)) differ
      · obtain rfl := teams.eq_of_key was there same
        exact active
    · obtain ⟨held, was, kept, -, -, ⟨this, -⟩ | ⟨-, rfl⟩⟩ := Taxonomy.of_mem_setActive listed
      · have owned : row.ownerTeam = some source.id := its.trans (congrArg some (kept.trans this))
        exact absurd ⟨(heeds row before owned open_).1, owned⟩ spared
      · exact attended row before open_ team was its

theorem commitList_ok {transaction : Id} (done : state.step cap (.commitList transaction) = .ok next) :
    ∃ each, state.lists.find? (·.1 == transaction) = some each ∧ (transaction, each.2) ∈ state.lists ∧ state.mergeFree each.2 = true ∧
      each.2.apply state.teams = .ok next.teams ∧ next.work = movedWork state.work each.2 ∧
      next.lists = state.lists.filter (·.1 ≠ transaction) ∧ next.writes = state.writes := by
  obtain ⟨each, found, done⟩ := bind_ok.mp done
  obtain ⟨_, free, done⟩ := bind_ok.mp done
  obtain ⟨teams, written, done⟩ := bind_ok.mp done
  cases done
  rw [demand_ok] at found
  have named := List.find?_some found
  refine ⟨each, found, ?_, require_ok.mp free, written, rfl, rfl, rfl⟩
  rw [← beq_iff_eq.mp named]
  exact List.mem_of_find?_eq_some found

theorem commitWork_ok {transaction : Id} (done : state.step cap (.commitWork transaction) = .ok next) :
    ∃ each, state.writes.find? (·.1 == transaction) = some each ∧ (transaction, each.2) ∈ state.writes ∧
      (∀ team ∈ each.2.names, state.teamFree team = true) ∧ next.work = each.2.apply state.work ∧
      next.writes = state.writes.filter (·.1 ≠ transaction) ∧ next.teams = state.teams ∧ next.lists = state.lists := by
  obtain ⟨each, found, done⟩ := bind_ok.mp done
  obtain ⟨_, free, done⟩ := bind_ok.mp done
  cases done
  rw [demand_ok] at found
  have named := List.find?_some found
  refine ⟨each, found, ?_, require_ok.mp free, rfl, rfl, rfl, rfl⟩
  rw [← beq_iff_eq.mp named]
  exact List.mem_of_find?_eq_some found

theorem WorkWrite.names_changed (mine : row ∈ write.loaded) (changed : (write.change row).ownerTeam ≠ row.ownerTeam)
    (given : (write.change row).ownerTeam = some team) : team ∈ write.names := by
  refine List.mem_append_left _ (List.mem_filterMap.mpr ⟨row, List.mem_filter.mpr ⟨mine, ?_⟩, given⟩)
  exact bne_iff_ne.mpr changed

theorem WorkWrite.names_created (filed : row ∈ write.created) (given : row.ownerTeam = some team) : team ∈ write.names :=
  List.mem_append_right _ (List.mem_filterMap.mpr ⟨row, filed, given⟩)

theorem Counted.applied (counted : Counted work team) (loaded : ∀ row ∈ write.loaded, row ∈ work.rows)
    (unnamed : team ∉ write.names) : Counted (write.apply work) team := by
  intro row there owned open_
  rcases of_mem_apply loaded there with ⟨old, mine, rfl⟩ | before | ⟨made, filed, id, rfl⟩
  · have kept : (write.change old).ownerTeam = old.ownerTeam := by
      by_contra changed
      exact unnamed (WorkWrite.names_changed mine changed owned)
    rcases write.settles old with same | loose | ended
    · have before : old.state.isOpen = true := same ▸ open_
      exact (congrArg WorkState.loose same).trans (counted old (loaded old mine) (kept.symm.trans owned) before)
    · exact loose
    · exact absurd open_ (Bool.eq_false_iff.mp ended)
  · exact counted row before owned open_
  · exact absurd (WorkWrite.names_created filed owned) unnamed

theorem Counted.moved (counted : Counted work team) (other : target.id ≠ team) :
    Counted (movedWork work (.merge source target)) team := by
  intro row there owned open_
  obtain ⟨old, before, state, ⟨-, -, moved⟩ | ⟨-, rfl⟩⟩ := of_mem_movedWork there
  · exact absurd (Option.some.inj (moved.symm.trans owned)) other
  · exact counted row before owned open_

theorem planned_differ {usage : ListRow → Nat} {openWork : ListRow → List (String × Nat)} {call : ListCall}
    (done : Taxonomy.planned teamList teams cap usage openWork call = .ok (.merge source target)) : source.id ≠ target.id := by
  cases call with
  | merge key into =>
    obtain ⟨pair, paired, same⟩ := map_ok.mp done
    obtain ⟨rfl, rfl⟩ := ListWrite.merge.inj same
    exact (Taxonomy.mergeRows_ok paired).2.2.1
  | create | patch | retire | restore =>
    obtain ⟨_, _, other⟩ := map_ok.mp done
    cases other

theorem movedWork_spares (free : state.mergeFree list = true) {each : Id × WorkWrite} (underway : each ∈ state.writes)
    (held : row ∈ each.2.loaded) (there : row ∈ state.work.rows) : row ∈ (movedWork state.work list).rows := by
  cases list with
  | merge source target =>
    refine mem_movedWork_spared there fun moved => ?_
    have locked : lockedRow Work.id WorkWrite.loaded state.writes row = true :=
      List.any_eq_true.mpr ⟨each, underway, List.any_eq_true.mpr ⟨row, held, beq_self_eq_true _⟩⟩
    have apart := List.all_eq_true.mp free row there
    simp [moved.1, moved.2, locked] at apart
  | create | save | retire | restore => exact there

theorem TeamDesk.Sound.step {step : TeamStep} (sound : state.Sound) (done : state.step cap step = .ok next) : next.Sound := by
  cases step with
  | beginList transaction call named =>
    obtain ⟨_, -, done⟩ := bind_ok.mp done
    obtain ⟨write, plan, done⟩ := bind_ok.mp done
    obtain ⟨_, free, done⟩ := bind_ok.mp done
    cases done
    obtain ⟨loaded, kept⟩ := Taxonomy.planned_kept plan
    have either : ∀ each ∈ state.lists ++ [(transaction, write)], each ∈ state.lists ∨ each = (transaction, write) :=
      fun each there => (List.mem_append.mp there).imp_right List.mem_singleton.mp
    refine ⟨sound.lists.begin_ loaded (require_ok.mp free), ?_, sound.writes, ?_, ?_⟩
    · intro each there
      rcases either each there with old | rfl
      · exact sound.kept each old
      · exact kept
    · intro each there team retires
      rcases either each there with old | rfl
      · exact sound.counted each old team retires
      · exact planned_counted (plan.trans (congrArg Except.ok retires))
    · intro each there source target merges
      rcases either each there with old | rfl
      · exact sound.differ each old source target merges
      · exact planned_differ (plan.trans (congrArg Except.ok merges))
  | commitList transaction =>
    obtain ⟨each, -, there, free, written, work, ended, writes⟩ := commitList_ok done
    have left : ∀ other ∈ next.lists, other ∈ state.lists ∧ other.1 ≠ transaction := by
      intro other still
      rw [ended] at still
      exact ⟨(List.mem_filter.mp still).1, of_decide_eq_true (List.mem_filter.mp still).2⟩
    refine ⟨?_, fun other still => sound.kept other (left other still).1, ?_, ?_, fun other still => sound.differ other (left other still).1⟩
    · rw [ended]
      exact sound.lists.finish there fun row here apart => Taxonomy.apply_spares written here apart
    · rw [work, writes]
      exact sound.writes.mono fun other underway row held => movedWork_spares free underway held (sound.writes.there other underway row held)
    · intro other still team retires
      have before := sound.counted other (left other still).1 team retires
      rw [work]
      cases merges : each.2 with
      | merge source target =>
        refine before.moved ?_
        refine sound.lists.apart _ there other (left other still).1 (left other still).2.symm target ?_ team ?_
        · simp [merges, ListWrite.loaded]
        · simp [retires, ListWrite.loaded]
      | create | save | retire | restore => exact before
  | chooseOwners transaction user owners =>
    obtain ⟨targets, -, done⟩ := bind_ok.mp done
    cases done
    exact ⟨sound.lists, sound.kept, sound.writes, sound.counted, sound.differ⟩
  | beginWork transaction call =>
    obtain ⟨_, -, done⟩ := bind_ok.mp done
    obtain ⟨write, plan, done⟩ := bind_ok.mp done
    obtain ⟨_, free, done⟩ := bind_ok.mp done
    cases done
    exact ⟨sound.lists, sound.kept, sound.writes.begin_ (plannedWork_loaded plan) (require_ok.mp free), sound.counted, sound.differ⟩
  | commitWork transaction =>
    obtain ⟨each, -, there, free, work, ended, teams, lists⟩ := commitWork_ok done
    have loaded := sound.writes.there _ there
    refine ⟨?_, ?_, ?_, ?_, ?_⟩
    · rw [teams, lists]
      exact sound.lists
    · rw [lists]
      exact sound.kept
    · rw [work, ended]
      exact sound.writes.finish there fun row here apart => mem_apply_spared here apart
    · rw [lists, work]
      intro other underway team retires
      refine (sound.counted other underway team retires).applied loaded fun named => ?_
      have unlocked := free team.id named
      have locked : (state.lists.any fun each => each.2.loaded.any (·.id == team.id)) = true :=
        List.any_eq_true.mpr ⟨other, underway, List.any_eq_true.mpr ⟨team, by simp [retires, ListWrite.loaded], beq_self_eq_true _⟩⟩
      simp [TeamDesk.teamFree, locked] at unlocked
    · rw [lists]
      exact sound.differ
  | abort transaction =>
    cases done
    exact ⟨sound.lists.abort, fun each left => sound.kept each (List.mem_filter.mp left).1, sound.writes.abort,
      fun each left => sound.counted each (List.mem_filter.mp left).1, fun each left => sound.differ each (List.mem_filter.mp left).1⟩
  | elsewhere people =>
    cases done
    exact ⟨sound.lists, sound.kept, sound.writes, sound.counted, sound.differ⟩

/-- One step leaves no open work to a team that is not active exactly when it heeds what it finds. -/
theorem step_attended_iff {step : TeamStep} (sound : state.Sound) (attended : Attended state.teams state.work)
    (done : state.step cap step = .ok next) : Attended next.teams next.work ↔ Heeds state step := by
  cases step with
  | beginList transaction call named =>
    obtain ⟨_, -, done⟩ := bind_ok.mp done
    obtain ⟨write, -, done⟩ := bind_ok.mp done
    obtain ⟨_, -, done⟩ := bind_ok.mp done
    cases done
    exact iff_of_true attended trivial
  | commitList transaction =>
    obtain ⟨each, found, there, -, written, work, -, -⟩ := commitList_ok done
    have loaded := sound.lists.there _ there
    have asked : Heeds state (.commitList transaction) ↔ ListHeeds state.work each.2 := by
      rw [Heeds, found]
      exact ⟨fun heeds => heeds each rfl, fun heeds other its => Option.some.inj its ▸ heeds⟩
    rw [asked, work]
    cases list : each.2 with
    | retire source =>
      rw [list] at written loaded there
      rw [← Except.ok.inj written]
      exact attended.retired_iff (loaded source (List.mem_singleton_self _)) (sound.counted _ there source rfl)
    | merge source target =>
      rw [list] at written loaded there
      rw [← Except.ok.inj written]
      exact attended.merged_iff (loaded source List.mem_cons_self) (loaded target (List.mem_cons_of_mem _ (List.mem_singleton_self _)))
        (sound.differ _ there source target rfl)
    | create | save | restore =>
      have kept := sound.kept _ there
      rw [list] at written loaded kept
      exact iff_of_true (attended.list_kept kept loaded rfl written) trivial
  | chooseOwners transaction user owners =>
    obtain ⟨targets, -, done⟩ := bind_ok.mp done
    cases done
    exact iff_of_true attended trivial
  | beginWork transaction call =>
    obtain ⟨_, -, done⟩ := bind_ok.mp done
    obtain ⟨write, -, done⟩ := bind_ok.mp done
    obtain ⟨_, -, done⟩ := bind_ok.mp done
    cases done
    exact iff_of_true attended trivial
  | commitWork transaction =>
    obtain ⟨each, found, there, -, work, -, teams, -⟩ := commitWork_ok done
    have asked : Heeds state (.commitWork transaction) ↔ WorkHeeds state.teams each.2 := by
      rw [Heeds, found]
      exact ⟨fun heeds => heeds each rfl, fun heeds other its => Option.some.inj its ▸ heeds⟩
    have loaded := sound.writes.there _ there
    rw [asked, work, teams]
    exact attended.apply_iff loaded
  | abort | elsewhere =>
    cases done
    exact iff_of_true attended trivial

/-- From every state in which no team that is not active owns open work, a run of retirements, merges and restores of teams and of calls on
what they own, in any overlap, leaves it so exactly when each write finds so as it commits: a retirement no open gap, duty occurrence or case
of the team; a merge only open work it moves, and an active team to move it to; and a write on the records the team it gives work to, or
opens it under, still active. -/
theorem run_attended_iff (cap : Nat) (people : People) (teams : ListTable) (work : WorkTable) (attended : Attended teams work)
    (calls : List TeamStep) :
    (∀ first, first <+: calls → Attended (run (TeamDesk.step cap) { people, teams, work } first).teams
      (run (TeamDesk.step cap) { people, teams, work } first).work) ↔ Meets (TeamDesk.step cap) Heeds { people, teams, work } calls := by
  have initial : TeamDesk.Sound { people, teams, work } := {
    lists := Holding.nil
    kept := fun _ there => absurd there List.not_mem_nil
    writes := Holding.nil
    counted := fun _ there => absurd there List.not_mem_nil
    differ := fun _ there => absurd there List.not_mem_nil }
  refine @holds_throughout_iff _ _ _ (TeamDesk.step cap) { people, teams, work }
    (fun state : TeamDesk => Attended state.teams state.work) Heeds (fun state : TeamDesk => state.Sound ∧ Attended state.teams state.work)
    ⟨initial, attended⟩ (fun _ both => both.2) ?_ ?_ calls
  · rintro state step next ⟨sound, attended⟩ done
    exact step_attended_iff sound attended done
  · rintro state step next ⟨sound, attended⟩ heeds done
    exact ⟨sound.step done, (step_attended_iff sound attended done).mpr heeds⟩

def bankTeams : ListTable where
  rows := [{ id := 0, list := "team", key := "cards" }, { id := 1, list := "team", key := "retail" }]
  keyed := by decide

def officers : People := { members := [7], caseWorkers := [7] }

def noFacts : CaseFacts :=
  { ownerSet := false, reasonGiven := false, whySaved := false, openActionCount := 0, cleanEvidenceCount := 0, signoffRequester := none
    actor := none, closeReasonKind := none }

/-- A team passes its gap to another by a merge, and is retired then. -/
theorem mergesGap_attended : Attended bankTeams {} ∧ ∀ first, first <+: [.beginWork 0 (.createGap false none (some "cards")), .commitWork 0,
      .beginList 1 (.merge "cards" "retail") 0, .commitList 1, .beginList 2 (.restore "cards") 0, .commitList 2,
      .beginList 3 (.retire "cards" true) 0, .commitList 3] →
    Attended (run (TeamDesk.step 500) { people := officers, teams := bankTeams } first).teams
      (run (TeamDesk.step 500) { people := officers, teams := bankTeams } first).work :=
  have attended : Attended bankTeams {} := fun _ none_ => absurd none_ List.not_mem_nil
  ⟨attended, (run_attended_iff 500 officers bankTeams {} attended _).mpr (by decide +kernel)⟩

/-- A team beside the owner of an open case is retired. -/
theorem retiresCaseTeam_leaves : Attended bankTeams {} ∧
    ¬Attended
      (run (TeamDesk.step 500) { people := officers, teams := bankTeams } [.beginWork 0 .openCase, .commitWork 0,
        .beginWork 1 (.triageChange 0 7 (some "cards") noFacts), .commitWork 1, .beginList 2 (.retire "cards" false) 0, .commitList 2]).teams
      (run (TeamDesk.step 500) { people := officers, teams := bankTeams } [.beginWork 0 .openCase, .commitWork 0,
        .beginWork 1 (.triageChange 0 7 (some "cards") noFacts), .commitWork 1, .beginList 2 (.retire "cards" false) 0, .commitList 2]).work := by
  refine ⟨fun _ none_ => absurd none_ List.not_mem_nil, ?_⟩
  unfold Attended
  decide +kernel

end Grc.Tenants
