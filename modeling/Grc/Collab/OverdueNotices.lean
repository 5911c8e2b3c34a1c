import Grc.Collab.ReminderRuns

/-! The overdue notice of a case: where every triage looks and checks on one local date, it is that of the day whose window its limit is in. -/
namespace Grc.Collab.Reminders

open Grc.Shared Grc.Lib

def Due.ofCase : Due → Bool
  | (.overdue, .changeCase _) => true
  | _ => false

section OneDay
variable (zones : String → Zone) (hour : Fin 24) (timezone : String)

def Stage.ChecksSameDay (zone : String) (now : Moment) : Stage → Prop
  | .found .triage today _ => zone = timezone ∧ (zones timezone).date now = today
  | _ => True

/-- A step other than a triage's second reading of the date, or one that reads the date it looked with. -/
def OneDay (desk : Desk) : Step → Prop
  | .readDate id => ∀ run ∈ heldBy desk.reminding id, run.stage.ChecksSameDay zones timezone run.bank.timezone desk.now
  | _ => True

def LimitIn (zone : Zone) (cases_ : List ChangeCase) (today : Int) (due : Due) : Prop :=
  ∃ case_ ∈ cases_, due = (.overdue, .changeCase case_.id) ∧ ∃ limit ∈ case_.triageDueAt, InWindow zone hour today limit

/-- A notice of the day of the case's limit, told on that day or after it. -/
structure Notice.OfItsDay (cases_ : List ChangeCase) (notice : Notice) : Prop where
  told : notice.lookedOn ≤ (zones timezone).date notice.createdAt
  limit : LimitIn hour (zones timezone) cases_ notice.lookedOn notice.due

/-- The overdue reminders a stage holds are of the triage, and of its day. -/
def Stage.OfItsDay (cases_ : List ChangeCase) (zone : String) : Stage → Prop
  | .found branch today due => ∀ each ∈ due, each.ofCase = true → branch = .triage ∧ LimitIn hour (zones zone) cases_ today each
  | .checking _ today due checkedOn | .telling _ today checkedOn due =>
    ∀ each ∈ due, each.ofCase = true → (zone = timezone ∧ checkedOn = today) ∧ LimitIn hour (zones zone) cases_ today each
  | _ => True

def OverdueOnce (earlier later : Notice) : Prop := earlier.due.ofCase = true → earlier.due ≠ later.due

structure Desk.TellsOnce (desk : Desk) : Prop where
  itsDay : ∀ notice ∈ desk.notices, notice.due.ofCase = true → notice.OfItsDay zones hour timezone desk.cases_.rows
  once : desk.notices.Pairwise OverdueOnce
  written : ∀ each ∈ desk.reminding, ∀ notice ∈ each.2.written, notice.due.ofCase = true → notice.OfItsDay zones hour timezone desk.cases_.rows
  stages : ∀ each ∈ desk.reminding, each.2.stage.OfItsDay zones hour timezone desk.cases_.rows each.2.bank.timezone
  apart : ∀ each ∈ desk.reminding, each.2.stage ≠ .waiting → (desk.notices ++ each.2.written).Pairwise OverdueOnce

end OneDay

section Steps
variable {zones : String → Zone} {hour : Fin 24} {timezone : String} {desk next : Desk} {run onward : Reminding} {id : Nat}
  {branch : Branch} {today checkedOn : Int} {due : Due} {rest : List Due} {people : List Id} {cases_ : Keyed ChangeCase.id}

theorem limitIn_dueOf {bank : Bank} (found : due ∈ desk.dueOf zones hour bank today branch) (overdue : due.ofCase = true) :
    branch = .triage ∧ LimitIn hour (zones bank.timezone) desk.cases_.rows today due := by
  obtain ⟨template, record⟩ := due
  cases branch with
  | triage =>
    cases record with
    | changeCase id =>
      cases template with
      | overdue =>
        obtain ⟨case_, there, rfl, -, limit⟩ := overdue_mem.mp found
        exact ⟨rfl, case_, there, rfl, limit⟩
      | dueSoon | reviewDue => cases overdue
    | action id | tenantObligation id => cases template <;> cases overdue
  | actions =>
    obtain ⟨action, -, same⟩ := List.mem_map.mp found
    obtain ⟨-, rfl⟩ := Prod.mk.inj same
    cases template <;> cases overdue
  | reviews =>
    obtain ⟨entry, -, same⟩ := List.mem_map.mp found
    obtain ⟨rfl, rfl⟩ := Prod.mk.inj same
    cases overdue

theorem LimitIn.kept {zone : Zone} (limit : LimitIn hour zone desk.cases_.rows today due) (keeps : desk.KeepsLimits cases_) :
    LimitIn hour zone cases_.rows today due := by
  obtain ⟨case_, there, rfl, limit, its, window⟩ := limit
  obtain ⟨later, kept, same, still⟩ := keeps case_ there
  exact ⟨later, kept, by rw [same], limit, still ▸ its, window⟩

theorem LimitIn.unique {zone : Zone} {other : Int} (one : LimitIn hour zone cases_.rows today due)
    (two : LimitIn hour zone cases_.rows other due) : today = other := by
  obtain ⟨case_, there, rfl, limit, its, window⟩ := one
  obtain ⟨again, here, same, other, also_, second⟩ := two
  obtain rfl := cases_.eq_of_key here there (Record.changeCase.inj (Prod.mk.inj same).2).symm
  cases Option.mem_unique its also_
  exact window.unique second

theorem Branch.next_ofItsDay (branch : Branch) {rows : List ChangeCase} {zone : String} :
    branch.next.OfItsDay zones hour timezone rows zone := by
  cases branch <;> trivial

theorem toTell_ofItsDay {rows : List ChangeCase} {zone : String}
    (its : ∀ each ∈ rest, each.ofCase = true → (zone = timezone ∧ checkedOn = today) ∧ LimitIn hour (zones zone) rows today each) :
    (toTell branch today checkedOn rest).OfItsDay zones hour timezone rows zone := by
  cases rest with
  | nil => exact branch.next_ofItsDay
  | cons first rest => exact its

theorem toCheck_ofItsDay {rows : List ChangeCase} {zone : String}
    (its : ∀ each ∈ rest, each.ofCase = true → branch = .triage ∧ LimitIn hour (zones zone) rows today each) :
    (toCheck branch today rest).OfItsDay zones hour timezone rows zone := by
  cases rest with
  | nil => exact branch.next_ofItsDay
  | cons first rest => exact its

namespace Desk.TellsOnce

section
variable (tells : desk.TellsOnce zones hour timezone)
include tells

theorem put (held : heldBy desk.reminding id = some run) (same : onward.written = run.written)
    (bank : onward.bank = run.bank) (past : run.stage ≠ .waiting)
    (stage : onward.stage.OfItsDay zones hour timezone desk.cases_.rows run.bank.timezone) :
    (desk.putReminding id onward).TellsOnce zones hour timezone := by
  have there := mem_of_heldBy held
  constructor
  · exact tells.itsDay
  · exact tells.once
  · intro each went
    rcases of_mem_putBy went with rfl | ⟨was, -⟩
    · dsimp only
      rw [same]
      exact tells.written _ there
    · exact tells.written each was
  · intro each went
    rcases of_mem_putBy went with rfl | ⟨was, -⟩
    · dsimp only
      rw [bank]
      exact stage
    · exact tells.stages each was
  · intro each went
    rcases of_mem_putBy went with rfl | ⟨was, -⟩
    · dsimp only
      rw [same]
      exact fun _ => tells.apart _ there past
    · exact tells.apart each was

theorem new (there : (id, run) ∈ desk.reminding) (at_ : run.stage = .telling branch today checkedOn (due :: rest)) (overdue : due.ofCase = true)
    (unsaid : ∀ notice ∈ desk.notices ++ run.written, notice.due ∈ due :: rest →
      notice.createdAt < (zones run.bank.timezone).at_ checkedOn 0) {notice : Notice} (told : notice ∈ desk.notices ++ run.written) :
    notice.due ≠ due := by
  intro same
  have stage := tells.stages _ there
  rw [at_] at stage
  obtain ⟨⟨zone, checked⟩, limit⟩ := stage due List.mem_cons_self overdue
  have its : notice.OfItsDay zones hour timezone desk.cases_.rows := by
    rcases List.mem_append.mp told with committed | mine
    · exact tells.itsDay notice committed (same ▸ overdue)
    · exact tells.written _ there notice mine (same ▸ overdue)
  have before := Zone.date_lt.mp (unsaid notice told (same ▸ List.mem_cons_self))
  have day := (same ▸ its.limit).unique (zone ▸ limit)
  have after := its.told
  rw [day] at after
  rw [zone, checked] at before
  exact absurd after (not_le.mpr before)

theorem tell (reminds : desk.Reminds zones hour) (held : heldBy desk.reminding id = some run)
    (at_ : run.stage = .telling branch today checkedOn (due :: rest)) :
    (desk.putReminding id { run with
      stage := toTell branch today checkedOn rest
      written := if people = [] then run.written else run.written ++
        [{ due, people, createdAt := desk.now, timezone := run.bank.timezone, lookedOn := today, checkedOn }]
      unheard := if people = [] then run.unheard ++ [due] else run.unheard }).TellsOnce zones hour timezone := by
  have there := mem_of_heldBy held
  have past : run.stage ≠ .waiting := by
    rw [at_]
    exact Stage.noConfusion
  have unsaid := ((reminds.of_heldBy held).past past).unsaid
  rw [at_] at unsaid
  obtain ⟨read, unsaid⟩ := unsaid
  have stage := tells.stages _ there
  rw [at_] at stage
  have onward := @toTell_ofItsDay _ _ _ branch _ _ _ _ _ fun each later => stage each (List.mem_cons_of_mem _ later)
  by_cases nobody : people = []
  · simp only [if_pos nobody]
    exact tells.put held rfl rfl past onward
  · simp only [if_neg nobody]
    constructor
    · exact tells.itsDay
    · exact tells.once
    · intro each went
      rcases of_mem_putBy went with rfl | ⟨was, -⟩
      · refine List.forall_mem_append.mpr ⟨tells.written _ there, fun notice last overdue => ?_⟩
        obtain rfl := List.mem_singleton.mp last
        obtain ⟨⟨zone, checked⟩, limit⟩ := stage due List.mem_cons_self overdue
        rw [zone] at read limit
        exact ⟨checked ▸ read, limit⟩
      · exact tells.written each was
    · intro each went
      rcases of_mem_putBy went with rfl | ⟨was, -⟩
      · exact onward
      · exact tells.stages each was
    · intro each went
      rcases of_mem_putBy went with rfl | ⟨was, -⟩
      · intro _
        rw [← List.append_assoc]
        refine List.pairwise_append.mpr ⟨tells.apart _ there past, List.pairwise_singleton _ _, fun notice told last its overdue => ?_⟩
        obtain rfl := List.mem_singleton.mp its
        intro same
        change notice.due = due at same
        rw [same] at overdue
        exact tells.new there at_ overdue unsaid told same
      · exact tells.apart each was

theorem commit (reminds : desk.Reminds zones hour) (held : heldBy desk.reminding id = some run)
    (finished : run.stage = .finished) {rounds : List Round} :
    ({ desk with notices := desk.notices ++ run.written, reminding := withoutBy desk.reminding id, rounds } : Desk).TellsOnce zones hour timezone := by
  have there := mem_of_heldBy held
  have past : run.stage ≠ .waiting := by
    rw [finished]
    exact Stage.noConfusion
  constructor
  · exact List.forall_mem_append.mpr ⟨tells.itsDay, tells.written _ there⟩
  · exact tells.apart _ there past
  · exact fun each left => tells.written each (mem_withoutBy.mp left).1
  · exact fun each left => tells.stages each (mem_withoutBy.mp left).1
  · intro each left theirs
    obtain ⟨was, apart⟩ := mem_withoutBy.mp left
    exact absurd theirs (reminds.alone.waits held past was apart)

theorem editCases (keeps : desk.KeepsLimits cases_) : ({ desk with cases_ } : Desk).TellsOnce zones hour timezone := by
  have kept : ∀ notice : Notice, notice.OfItsDay zones hour timezone desk.cases_.rows → notice.OfItsDay zones hour timezone cases_.rows :=
    fun notice its => ⟨its.told, its.limit.kept keeps⟩
  constructor
  · exact fun notice there overdue => kept notice (tells.itsDay notice there overdue)
  · exact tells.once
  · exact fun each there notice mine overdue => kept notice (tells.written each there notice mine overdue)
  · intro each there
    have stage := tells.stages each there
    dsimp only
    generalize each.2.stage = at_ at stage ⊢
    cases at_ with
    | found branch today due | checking branch today due checkedOn => exact fun one its overdue => (stage one its overdue).imp_right (·.kept keeps)
    | telling branch today checkedOn rest => exact fun one its overdue => (stage one its overdue).imp_right (·.kept keeps)
    | _ => trivial
  · exact tells.apart

/-- What one step keeps, where it reads a triage's second date on the day of the first. -/
theorem step (reminds : desk.Reminds zones hour) {call : Step}
    (oneDay : OneDay zones timezone desk call) (accepted : desk.step zones hour call = .ok next) : next.TellsOnce zones hour timezone := by
  have same : ∀ {now actions reviews bank mails escalations}, ({ desk with
      now := now, actions := actions, reviews := reviews, bank := bank, mails := mails, escalations := escalations } : Desk).TellsOnce zones hour timezone :=
    ⟨tells.itsDay, tells.once, tells.written, tells.stages, tells.apart⟩
  cases call with
  | clock now =>
    obtain ⟨_, -, accepted⟩ := bind_ok.mp accepted
    cases accepted
    exact same
  | begin_ id =>
    obtain ⟨_, -, accepted⟩ := bind_ok.mp accepted
    cases accepted
    refine ⟨tells.itsDay, tells.once, ?_, ?_, ?_⟩
    · refine List.forall_mem_append.mpr ⟨tells.written, fun each there notice mine => ?_⟩
      obtain rfl := List.mem_singleton.mp there
      cases mine
    · refine List.forall_mem_append.mpr ⟨tells.stages, fun each there => ?_⟩
      obtain rfl := List.mem_singleton.mp there
      trivial
    · refine List.forall_mem_append.mpr ⟨tells.apart, fun each there past => ?_⟩
      obtain rfl := List.mem_singleton.mp there
      exact absurd rfl past
  | lock id =>
    obtain ⟨run, held, accepted⟩ := bind_ok.mp accepted
    obtain ⟨_, free, accepted⟩ := bind_ok.mp accepted
    cases accepted
    rw [demand_ok] at held
    rw [require_ok] at free
    have fresh := (reminds.of_heldBy held).waits (free _ (mem_of_heldBy held))
    have nothing : run.written = [] := by rw [fresh]
    have there := mem_of_heldBy held
    refine ⟨tells.itsDay, tells.once, ?_, ?_, ?_⟩
    · intro each went
      rcases of_mem_putBy went with rfl | ⟨was, -⟩
      · exact tells.written (id, run) there
      · exact tells.written each was
    · intro each went
      rcases of_mem_putBy went with rfl | ⟨was, -⟩
      · trivial
      · exact tells.stages each was
    · intro each went
      rcases of_mem_putBy went with rfl | ⟨was, -⟩
      · dsimp only
        rw [nothing]
        exact fun _ => (List.append_nil _).symm ▸ tells.once
      · exact tells.apart each was
  | readDate id =>
    obtain ⟨run, held, accepted⟩ := bind_ok.mp accepted
    rw [demand_ok] at held
    have stage := tells.stages _ (mem_of_heldBy held)
    have checks := oneDay run held
    dsimp only at accepted
    split at accepted
    · rename_i branch at_
      cases accepted
      exact tells.put held rfl rfl (fun waits => nomatch at_.symm.trans waits) trivial
    · rename_i branch lookedOn due at_
      cases accepted
      rw [at_] at stage checks
      refine tells.put held rfl rfl (fun waits => nomatch at_.symm.trans waits) fun each its overdue => ?_
      obtain ⟨rfl, limit⟩ := stage each its overdue
      obtain ⟨zone, checked⟩ := checks
      exact ⟨⟨zone, zone ▸ checked⟩, limit⟩
    · cases accepted
  | look id =>
    obtain ⟨run, held, accepted⟩ := bind_ok.mp accepted
    rw [demand_ok] at held
    split at accepted
    · rename_i branch today at_
      cases accepted
      exact tells.put held rfl rfl (fun waits => nomatch at_.symm.trans waits) (toCheck_ofItsDay fun each => limitIn_dueOf)
    · cases accepted
  | check id =>
    obtain ⟨run, held, accepted⟩ := bind_ok.mp accepted
    rw [demand_ok] at held
    have stage := tells.stages _ (mem_of_heldBy held)
    split at accepted
    · rename_i branch today due checkedOn at_
      cases accepted
      rw [at_] at stage
      exact tells.put held rfl rfl (fun waits => nomatch at_.symm.trans waits)
        (toTell_ofItsDay fun each its => stage each (List.mem_filter.mp its).1)
    · cases accepted
  | tell id people =>
    obtain ⟨run, held, accepted⟩ := bind_ok.mp accepted
    rw [demand_ok] at held
    split at accepted
    · rename_i branch today checkedOn due rest at_
      cases accepted
      exact tells.tell reminds held at_
    · cases accepted
  | commit id =>
    obtain ⟨run, held, accepted⟩ := bind_ok.mp accepted
    obtain ⟨_, finished, accepted⟩ := bind_ok.mp accepted
    cases accepted
    exact tells.commit reminds (demand_ok.mp held) (require_ok.mp finished)
  | abort id =>
    cases accepted
    exact ⟨tells.itsDay, tells.once, fun each left => tells.written each (mem_withoutBy.mp left).1,
      fun each left => tells.stages each (mem_withoutBy.mp left).1, fun each left => tells.apart each (mem_withoutBy.mp left).1⟩
  | deliver due | escalation call =>
    obtain ⟨_, -, accepted⟩ := bind_ok.mp accepted
    cases accepted
    exact same
  | editCases cases_ =>
    obtain ⟨_, keeps, accepted⟩ := bind_ok.mp accepted
    cases accepted
    exact tells.editCases (require_ok.mp keeps)
  | editActions actions | editReviews reviews | editBank bank =>
    cases accepted
    exact same

end

end Desk.TellsOnce
end Steps

/-! ## Every run of the desk -/

/-- A bank's records before its tasks first run. -/
structure Opening where
  now : Moment
  bank : Bank
  cases_ : Keyed ChangeCase.id := {}
  actions : Keyed Action.id := {}
  reviews : List Review := []

def Opening.desk (opening : Opening) : Desk :=
  { now := opening.now, bank := opening.bank, cases_ := opening.cases_, actions := opening.actions, reviews := opening.reviews }

def Opening.after (opening : Opening) (zones : String → Zone) (hour : Fin 24) (steps : List Step) : Desk :=
  run (Desk.step zones hour) opening.desk steps

section Whole
variable (zones : String → Zone) (hour : Fin 24) (opening : Opening) (steps : List Step)

theorem sound_run : (opening.after zones hour steps).Reminds zones hour ∧ (opening.after zones hour steps).escalations.Sound := by
  refine @run_invariant _ _ _ (Desk.step zones hour) _ (fun desk => desk.Reminds zones hour ∧ desk.escalations.Sound) ⟨?_, ?_⟩
    (fun desk call next sound accepted => ⟨sound.1.step accepted, escalations_step sound.2 accepted⟩) steps
  · exact ⟨.nil, .nil, fun _ there => absurd there List.not_mem_nil, fun _ there => absurd there List.not_mem_nil,
      fun _ there => absurd there List.not_mem_nil⟩
  · exact ⟨List.nodup_nil, .nil, fun _ there => absurd there List.not_mem_nil⟩

def overdueNotices (desk : Desk) (id : Id) : List Notice := desk.notices.filter fun notice => notice.due == (.overdue, .changeCase id)

theorem overdueNotices_le {desk : Desk} (once : desk.notices.Pairwise OverdueOnce) (id : Id) : (overdueNotices desk id).length ≤ 1 := by
  have apart := once.sublist (List.filter_sublist (p := fun notice => notice.due == (Template.overdue, Record.changeCase id)))
  have its : ∀ notice ∈ overdueNotices desk id, notice.due = (.overdue, .changeCase id) :=
    fun notice there => beq_iff_eq.mp (List.mem_filter.mp there).2
  cases found : overdueNotices desk id with
  | nil => exact Nat.zero_le 1
  | cons first rest =>
    cases rest with
    | nil => exact le_refl 1
    | cons second rest =>
      rw [found] at its
      rw [overdueNotices] at found
      rw [found] at apart
      have one := its first List.mem_cons_self
      have two := its second (List.mem_cons_of_mem _ List.mem_cons_self)
      have differ := List.rel_of_pairwise_cons apart List.mem_cons_self
      rw [OverdueOnce, one, two] at differ
      exact absurd rfl (differ rfl)

/-- Whatever the beats and edits, each action is escalated once and each record reminded once a local day, and the windows of consecutive days
cover the time between their send moments, each moment once. Where every triage checks on the local date it looked with, in one zone, a case has
at most one overdue notice, of the day whose window its limit is in, and just one where the run that saw it told anyone. -/
theorem reminded_once (timezone : String) (first last : Int) :
    (opening.after zones hour steps).escalations.escalated.Nodup ∧
      (opening.after zones hour steps).notices.Pairwise (OnceADay zones) ∧
      (∀ moment, (zones timezone).at_ first hour < moment → moment ≤ (zones timezone).at_ last hour →
        ∃! day, first < day ∧ day ≤ last ∧ InWindow (zones timezone) hour day moment) ∧
      (Meets (Desk.step zones hour) (OneDay zones timezone) opening.desk steps → ∀ id,
        (overdueNotices (opening.after zones hour steps) id).length ≤ 1 ∧
        (∀ notice ∈ overdueNotices (opening.after zones hour steps) id,
          ∃ case_ ∈ (opening.after zones hour steps).cases_.rows,
            case_.id = id ∧ ∃ limit ∈ case_.triageDueAt, InWindow (zones timezone) hour notice.lookedOn limit) ∧
        ∀ round ∈ (opening.after zones hour steps).rounds,
          PastLimit hour (zones round.timezone) round.untriaged (.overdue, .changeCase id) → (.overdue, .changeCase id) ∉ round.unheard →
            (overdueNotices (opening.after zones hour steps) id).length = 1) := by
  obtain ⟨reminds, escalations⟩ := sound_run zones hour opening steps
  refine ⟨escalations.once, reminds.apart, fun moment after until_ => windows_cover after until_, fun meets id => ?_⟩
  have start : opening.desk.TellsOnce zones hour timezone :=
    ⟨fun _ there => absurd there List.not_mem_nil, .nil, fun _ there => absurd there List.not_mem_nil,
      fun _ there => absurd there List.not_mem_nil, fun _ there => absurd there List.not_mem_nil⟩
  have tells := (@run_invariant_of_meets _ _ _ (Desk.step zones hour) _ (fun desk => desk.Reminds zones hour ∧ desk.TellsOnce zones hour timezone) _
    ⟨(sound_run zones hour opening []).1, start⟩
    (fun desk call next sound met accepted => ⟨sound.1.step accepted, sound.2.step sound.1 met accepted⟩) steps meets).2
  refine ⟨overdueNotices_le tells.once id, fun notice there => ?_, fun round committed past heard => ?_⟩
  · obtain ⟨told, its⟩ := List.mem_filter.mp there
    have same : notice.due = (.overdue, .changeCase id) := beq_iff_eq.mp its
    obtain ⟨case_, here, due, limit⟩ := (tells.itsDay notice told (by rw [same]; rfl)).limit
    exact ⟨case_, here, (Record.changeCase.inj (Prod.mk.inj (same.symm.trans due)).2).symm, limit⟩
  · obtain ⟨notice, told, its⟩ := (reminds.answered round committed _ past).resolve_left heard
    have there : notice ∈ overdueNotices _ id := List.mem_filter.mpr ⟨told, beq_iff_eq.mpr its⟩
    exact Nat.le_antisymm (overdueNotices_le tells.once id) (List.length_pos_of_mem there)

end Whole

/-! ## A case nobody hears of, and cases told twice -/

/-- A zone of one offset. -/
def fixedZone (offset : Int) : Zone where
  date moment := (moment + offset) / 86400
  at_ day hour := day * 86400 + hour * 3600 - offset
  opens := by
    intro day moment
    change (day * 86400 + 0 * 3600 - offset : Int) ≤ moment ↔ day ≤ (moment + offset) / 86400
    rw [Int.le_ediv_iff_mul_le (by decide), Int.zero_mul, Int.add_zero]
    exact sub_le_iff_le_add
  within := by
    intro day hour below
    omega

def someZones (name : String) : Zone := if name = "Pacific/Honolulu" then fixedZone (-36000) else fixedZone 0

def untriagedCase : Opening where
  now := 0
  bank := { timezone := "UTC" }
  cases_ := { rows := [{ id := 1, triageDueAt := some (20000 * 86400 + 21600) }], keyed := by decide }

def round (id : Nat) (told : List Step) : List Step :=
  [.begin_ id, .lock id, .readDate id, .look id] ++ told ++
    [.readDate id, .look id, .readDate id, .look id, .commit id]

/-- A daily run tells nobody of a case past its limit where nobody is to be told; a run that crosses midnight between its look and its check
tells a case again, and so does a run after the bank moved to a zone whose window of the day holds the limit again. -/
theorem overdue_notExactlyOne :
    ((overdueNotices (untriagedCase.after someZones 7 (.clock (20000 * 86400 + 25200) :: round 1 [.readDate 1, .check 1, .tell 1 []])) 1).length = 0 ∧
      ((untriagedCase.after someZones 7 (.clock (20000 * 86400 + 25200) :: round 1 [.readDate 1, .check 1, .tell 1 []])).rounds.map (·.untriaged)) =
        [some (20000, untriagedCase.cases_.rows)]) ∧
      (overdueNotices (untriagedCase.after someZones 7
        (.clock (20000 * 86400 + 25200) :: round 1 [.readDate 1, .check 1, .tell 1 [5]] ++
          .clock (20001 * 86400 - 1) :: round 2 [.clock (20001 * 86400), .readDate 2, .check 2, .tell 2 [5]])) 1).length = 2 ∧
      (overdueNotices (untriagedCase.after someZones 7
        (.clock (20000 * 86400 + 25200) :: round 1 [.readDate 1, .check 1, .tell 1 [5]] ++
          .editBank { timezone := "Pacific/Honolulu" } :: .clock (20000 * 86400 + 61200) ::
            round 2 [.readDate 2, .check 2, .tell 2 [5]])) 1).length = 2 := by
  decide +kernel

end Grc.Collab.Reminders
