import Grc.Collab.ReminderDesk
import Mathlib.Order.SuccPred.IntervalSucc
import Mathlib.Data.Int.SuccPred
import Mathlib.Data.Int.ConditionallyCompleteOrder

/-! Each action is escalated once, each record is reminded once a day, and the day a case's limit is seen to have passed is one. -/
namespace Grc.Collab.Reminders

open Grc.Shared Grc.Lib

/-! ## The bank's clock -/

section Zones
variable {zone : Zone} {hour : Fin 24} {bank : Bank} {today day other : Int} {moment later : Moment}

theorem Zone.date_mono (after : moment ≤ later) : zone.date moment ≤ zone.date later :=
  (zone.opens _ later).mp (le_trans ((zone.opens _ moment).mpr (le_refl _)) after)

theorem Zone.date_lt : moment < zone.at_ day 0 ↔ zone.date moment < day := by
  rw [← not_le, ← not_le, zone.opens]

theorem Zone.at_lt_midnight (below : day < other) : zone.at_ day hour < zone.at_ other 0 := by
  rw [Zone.date_lt, zone.within day hour hour.isLt]
  exact below

theorem Zone.at_mono (zone : Zone) (hour : Fin 24) : Monotone fun day => zone.at_ day hour := by
  intro day other below
  rcases lt_or_eq_of_le below with before | rfl
  · have opened : zone.at_ other 0 ≤ zone.at_ other hour := by
      rw [zone.opens, zone.within other hour hour.isLt]
    exact le_trans (le_of_lt (zone.at_lt_midnight before)) opened
  · exact le_refl _

theorem InWindow.unique (one : InWindow zone hour day moment) (two : InWindow zone hour other moment) : day = other := by
  by_contra differ
  rcases lt_or_gt_of_ne differ with before | after
  · have ended := zone.at_mono hour (Int.le_sub_one_of_lt before)
    exact absurd one.2 (not_le.mpr (lt_of_le_of_lt ended two.1))
  · have ended := zone.at_mono hour (Int.le_sub_one_of_lt after)
    exact absurd two.2 (not_le.mpr (lt_of_le_of_lt ended one.1))

theorem windows_cover {first last : Int} (after : zone.at_ first hour < moment) (until_ : moment ≤ zone.at_ last hour) :
    ∃! day, first < day ∧ day ≤ last ∧ InWindow zone hour day moment := by
  have covered := (zone.at_mono hour).biUnion_Ico_Ioc_map_succ first last
  have inside : moment ∈ Set.Ioc (zone.at_ first hour) (zone.at_ last hour) := ⟨after, until_⟩
  rw [← covered] at inside
  obtain ⟨before, between, within⟩ := Set.mem_iUnion₂.mp inside
  have window : InWindow zone hour (before + 1) moment := by
    rw [InWindow, Int.add_sub_cancel]
    exact within
  refine ⟨before + 1, ⟨Int.lt_add_one_of_le between.1, between.2, window⟩, fun other its => ?_⟩
  exact its.2.2.unique window

/-! ## What is due -/

variable {cases_ : List ChangeCase}

theorem after_moment (ahead : ∀ lead ∈ bank.reminderDaysBefore, 1 ≤ lead) {due : Moment}
    (lead : (bank.reminderDaysBefore.any fun lead => zone.at_ (today + lead) 0 ≤ due && due < zone.at_ (today + lead + 1) 0) = true) :
    zone.at_ today hour < due := by
  obtain ⟨days, listed, within⟩ := List.any_eq_true.mp lead
  obtain ⟨opened, -⟩ := Bool.and_eq_true_iff.mp within
  have later := ahead days listed
  exact lt_of_lt_of_le (zone.at_lt_midnight (by omega)) (of_decide_eq_true opened)

theorem overdue_mem {id : Id} : (Template.overdue, Record.changeCase id) ∈ casesDue zone hour bank today cases_ ↔
    ∃ case_ ∈ cases_, case_.id = id ∧ case_.isNew = true ∧ ∃ due ∈ case_.triageDueAt, InWindow zone hour today due := by
  rw [casesDue, List.mem_map]
  refine exists_congr fun case_ => ?_
  rw [List.mem_filter, and_assoc]
  refine and_congr_right fun _ => ?_
  rw [Prod.mk.injEq, Record.changeCase.injEq, isCaseDue, caseTemplate]
  cases limit : case_.triageDueAt with
  | none => simp
  | some due =>
    have split := @after_moment zone hour bank today bank.ahead due
    by_cases passed : due ≤ zone.at_ today hour
    · have early : (bank.reminderDaysBefore.any fun lead => zone.at_ (today + lead) 0 ≤ due && due < zone.at_ (today + lead + 1) 0) = false :=
        Bool.eq_false_iff.mpr fun lead => absurd (split lead) (not_lt.mpr passed)
      simp [passed, early, and_comm]
    · have outside : ¬InWindow zone hour today due := fun window => passed window.2
      simp [passed, outside]

theorem dues_nodup {Row : Type} {key : Row → Nat} {table : Keyed key} {picked : Row → Bool} {template : Row → Template} {record : Id → Record}
    (apart : record.Injective) : ((table.rows.filter picked).map fun row => (template row, record (key row))).Nodup := by
  have ids : ((table.rows.filter picked).map key).Nodup := table.keyed.sublist (List.filter_sublist.map key)
  refine List.Nodup.map_on ?_ (List.Nodup.of_map key ids)
  intro one first other second same
  exact List.inj_on_of_nodup_map ids first second (apart (Prod.mk.inj same).2)

theorem casesDue_nodup {table : Keyed ChangeCase.id} : (casesDue zone hour bank today table.rows).Nodup :=
  dues_nodup fun _ _ => Record.changeCase.inj

theorem actionsDue_nodup {table : Keyed Action.id} : (actionsDue bank today table.rows).Nodup :=
  dues_nodup fun _ _ => Record.action.inj

theorem reviewsDue_nodup {reviews : List Review} : (reviewsDue bank today reviews).Nodup := by
  rw [reviewsDue]
  refine List.Nodup.map ?_ ?_
  · intro one other same
    exact Record.tenantObligation.inj (Prod.mk.inj same).2
  · exact (List.perm_insertionSort _ _).nodup_iff.mpr (List.nodup_dedup _)

theorem actionsOverdue_nodup {table : Keyed Action.id} {escalated : List Id} : (actionsOverdue bank today escalated table.rows).Nodup :=
  table.keyed.sublist (List.filter_sublist.map Action.id)

theorem actionsOverdue_new {table : Keyed Action.id} {escalated : List Id} {id : Id} (listed : id ∈ actionsOverdue bank today escalated table.rows) :
    id ∉ escalated := by
  obtain ⟨action, there, rfl⟩ := List.mem_map.mp listed
  obtain ⟨-, new⟩ := Bool.and_eq_true_iff.mp (List.mem_filter.mp there).2
  intro before
  rw [List.contains_iff_mem.mpr before] at new
  cases new

end Zones

/-! ## Reminders -/

def Stage.due : Stage → List Due
  | .found _ _ due | .checking _ _ due _ => due
  | .telling _ _ _ rest => rest
  | _ => []

@[simp] theorem Branch.next_due (branch : Branch) : branch.next.due = [] := by
  cases branch <;> rfl

@[simp] theorem toCheck_due (branch : Branch) (today : Int) (due : List Due) : (toCheck branch today due).due = due := by
  cases due with
  | nil => exact branch.next_due
  | cons first rest => rfl

@[simp] theorem toTell_due (branch : Branch) (today checkedOn : Int) (rest : List Due) : (toTell branch today checkedOn rest).due = rest := by
  cases rest with
  | nil => exact branch.next_due
  | cons first rest => rfl

section Runs
variable (zones : String → Zone) (hour : Fin 24)

/-- Two notices of one record and template are of different dates, on the clock the later one's run read. -/
def OnceADay (earlier later : Notice) : Prop :=
  earlier.due = later.due → (zones later.timezone).date earlier.createdAt ≠ (zones later.timezone).date later.createdAt

/-- The dates a run read are past, and what it is to tell was not told since the midnight of the date it checked. -/
def Stage.Unsaid (zone : Zone) (now : Moment) (notices : List Notice) : Stage → Prop
  | .checking _ _ _ checkedOn => checkedOn ≤ zone.date now
  | .telling _ _ checkedOn rest => checkedOn ≤ zone.date now ∧ ∀ notice ∈ notices, notice.due ∈ rest → notice.createdAt < zone.at_ checkedOn 0
  | _ => True

def Answered (notices : List Notice) (unheard : List Due) (due : Due) : Prop := due ∈ unheard ∨ ∃ notice ∈ notices, notice.due = due

def PastLimit (zone : Zone) (untriaged : Option (Int × List ChangeCase)) (due : Due) : Prop :=
  ∃ today rows, untriaged = some (today, rows) ∧ ∃ row ∈ rows, due = (.overdue, .changeCase row.id) ∧
    ∃ limit ∈ row.triageDueAt, InWindow zone hour today limit

/-- What a run past its lock has done. -/
structure Reminding.Sound (now : Moment) (notices : List Notice) (run : Reminding) : Prop where
  apart : (notices ++ run.written).Pairwise (OnceADay zones)
  once : run.stage.due.Nodup
  unsaid : run.stage.Unsaid (zones run.bank.timezone) now (notices ++ run.written)
  answered : ∀ due, PastLimit hour (zones run.bank.timezone) run.untriaged due →
    due ∈ run.stage.due ∨ Answered (notices ++ run.written) run.unheard due

/-- A run at any stage: one that waits has done nothing. -/
structure Reminding.SoundOrWaits (now : Moment) (notices : List Notice) (run : Reminding) : Prop where
  waits : run.stage = .waiting → run = { bank := run.bank }
  past : run.stage ≠ .waiting → run.Sound zones hour now notices

/-- The notices are each the one of its day, the mails are theirs, and every case a committed run saw past its limit was answered. -/
structure Desk.Reminds (desk : Desk) : Prop where
  apart : desk.notices.Pairwise (OnceADay zones)
  alone : Alone (·.stage ≠ .waiting) desk.reminding
  runs : ∀ each ∈ desk.reminding, each.2.SoundOrWaits zones hour desk.now desk.notices
  mailed : ∀ mail ∈ desk.mails, ∃ notice ∈ desk.notices, notice.due = mail.due
  answered : ∀ round ∈ desk.rounds, ∀ due, PastLimit hour (zones round.timezone) round.untriaged due →
    Answered desk.notices round.unheard due

end Runs

section Steps
variable {zones : String → Zone} {hour : Fin 24} {desk next : Desk} {run onward : Reminding} {id : Nat} {now : Moment}
  {notices more : List Notice} {unheard : List Due} {due : Due}

theorem Answered.mono (answered : Answered notices unheard due) (kept : notices ⊆ more) : Answered more unheard due :=
  answered.imp_right fun ⟨notice, there, its⟩ => ⟨notice, kept there, its⟩

theorem Stage.Unsaid.later {zone : Zone} {stage : Stage} (unsaid : stage.Unsaid zone desk.now notices) (after : desk.now ≤ now) :
    stage.Unsaid zone now notices := by
  have dates := @Zone.date_mono zone _ _ after
  cases stage with
  | checking branch today due checkedOn =>
    have read : checkedOn ≤ zone.date desk.now := unsaid
    exact le_trans read dates
  | telling branch today checkedOn rest => exact ⟨le_trans unsaid.1 dates, unsaid.2⟩
  | _ => trivial

theorem Desk.Reminds.put (reminds : desk.Reminds zones hour) (held : heldBy desk.reminding id = some run) (mine : run.stage ≠ .waiting)
    (goesOn : onward.Sound zones hour desk.now desk.notices) (past : onward.stage ≠ .waiting) :
    (desk.putReminding id onward).Reminds zones hour where
  apart := reminds.apart
  alone := reminds.alone.put held fun _ => .inl mine
  runs := by
    intro each there
    rcases of_mem_putBy there with rfl | ⟨was, -⟩
    · exact ⟨fun waits => absurd waits past, fun _ => goesOn⟩
    · exact reminds.runs each was
  mailed := reminds.mailed
  answered := reminds.answered

theorem Branch.next_ne_waiting (branch : Branch) : branch.next ≠ .waiting := by
  cases branch <;> exact Stage.noConfusion

theorem toCheck_ne_waiting (branch : Branch) (today : Int) (due : List Due) : toCheck branch today due ≠ .waiting := by
  cases due with
  | nil => exact branch.next_ne_waiting
  | cons first rest => exact Stage.noConfusion

theorem toTell_ne_waiting (branch : Branch) (today checkedOn : Int) (rest : List Due) : toTell branch today checkedOn rest ≠ .waiting := by
  cases rest with
  | nil => exact branch.next_ne_waiting
  | cons first rest => exact Stage.noConfusion

theorem dueOf_nodup {bank : Bank} {today : Int} (branch : Branch) : (desk.dueOf zones hour bank today branch).Nodup := by
  cases branch with
  | triage => exact casesDue_nodup
  | actions => exact actionsDue_nodup
  | reviews => exact reviewsDue_nodup

theorem toCheck_unsaid {zone : Zone} (branch : Branch) (today : Int) (due : List Due) : (toCheck branch today due).Unsaid zone now notices := by
  cases due with
  | nil => cases branch <;> trivial
  | cons first rest => trivial

theorem toTell_unsaid {zone : Zone} {branch : Branch} {today checkedOn : Int} {rest : List Due} (read : checkedOn ≤ zone.date now)
    (unsaid : ∀ notice ∈ notices, notice.due ∈ rest → notice.createdAt < zone.at_ checkedOn 0) :
    (toTell branch today checkedOn rest).Unsaid zone now notices := by
  cases rest with
  | nil => cases branch <;> trivial
  | cons first rest => exact ⟨read, unsaid⟩

namespace Reminding.Sound
variable {branch : Branch} {today checkedOn : Int} {rest : List Due} {people : List Id}

theorem lock (apart : notices.Pairwise (OnceADay zones)) {bank : Bank} :
    ({ bank, stage := .entering .triage } : Reminding).Sound zones hour now notices where
  apart := (List.append_nil notices).symm ▸ apart
  once := List.nodup_nil
  unsaid := trivial
  answered := by
    intro due past
    obtain ⟨_, _, looked, -⟩ := past
    cases looked

section
variable (sound : run.Sound zones hour now notices)
include sound

theorem enter (at_ : run.stage = .entering branch) : ({ run with stage := .looking branch today } : Reminding).Sound zones hour now notices where
  apart := sound.apart
  once := List.nodup_nil
  unsaid := trivial
  answered := by
    have answered := sound.answered
    rw [at_] at answered
    exact answered

theorem found (at_ : run.stage = .found branch today rest) :
    ({ run with stage := .checking branch today rest ((zones run.bank.timezone).date now) } : Reminding).Sound zones hour now notices where
  apart := sound.apart
  once := by
    have once := sound.once
    rw [at_] at once
    exact once
  unsaid := le_refl ((zones run.bank.timezone).date now)
  answered := by
    have answered := sound.answered
    rw [at_] at answered
    exact answered

theorem look (at_ : run.stage = .looking branch today) (desk : Desk) : ({ run with
      stage := toCheck branch today (desk.dueOf zones hour run.bank today branch)
      untriaged := if branch = .triage then some (today, desk.cases_.rows.filter (·.isNew)) else run.untriaged } : Reminding).Sound
      zones hour now notices where
  apart := sound.apart
  once := by
    rw [toCheck_due]
    exact dueOf_nodup branch
  unsaid := toCheck_unsaid branch today _
  answered := by
    intro due past
    dsimp only at past ⊢
    by_cases triage : branch = .triage
    · subst triage
      obtain ⟨_, _, seen, case_, new, rfl, limit, its, window⟩ := past
      cases seen
      obtain ⟨there, isNew⟩ := List.mem_filter.mp new
      refine .inl ?_
      rw [toCheck_due]
      exact overdue_mem.mpr ⟨case_, there, rfl, isNew, limit, its, window⟩
    · rw [if_neg triage] at past
      have before := sound.answered due past
      rw [at_] at before
      exact .inr (before.resolve_left List.not_mem_nil)

theorem check (at_ : run.stage = .checking branch today rest checkedOn) {desk : Desk}
    (same : desk.notices = notices) (mailed : ∀ mail ∈ desk.mails, ∃ notice ∈ desk.notices, notice.due = mail.due) :
    ({ run with stage := toTell branch today checkedOn (rest.filter fun each => !desk.already zones run checkedOn each) } : Reminding).Sound
      zones hour now notices := by
  subst same
  have once := sound.once
  have unsaid := sound.unsaid
  have answered := sound.answered
  rw [at_] at once unsaid answered
  constructor
  · exact sound.apart
  · rw [toTell_due]
    exact once.filter _
  · refine toTell_unsaid unsaid fun notice there its => ?_
    obtain ⟨-, new⟩ := List.mem_filter.mp its
    rw [Bool.not_eq_true', Desk.already, Bool.or_eq_false_iff] at new
    have older := List.any_eq_false.mp new.2 notice there
    rw [Bool.and_eq_true, beq_self_eq_true, decide_eq_true_eq, not_and] at older
    exact not_le.mp (older rfl)
  · intro due past
    rcases answered due past with waiting | answered
    · by_cases before : desk.already zones run checkedOn due = true
      · refine .inr (.inr ?_)
        rcases Bool.or_eq_true_iff.mp before with mail | notice
        · obtain ⟨mail, sent, its⟩ := List.any_eq_true.mp mail
          obtain ⟨notice, there, same⟩ := mailed mail sent
          exact ⟨notice, List.mem_append_left _ there, same.trans (beq_iff_eq.mp (Bool.and_eq_true_iff.mp its).1)⟩
        · obtain ⟨notice, there, its⟩ := List.any_eq_true.mp notice
          exact ⟨notice, there, beq_iff_eq.mp (Bool.and_eq_true_iff.mp its).1⟩
      · refine .inl ?_
        rw [toTell_due]
        exact List.mem_filter.mpr ⟨waiting, by simpa using before⟩
    · exact .inr answered

end

theorem tell_apart (read : checkedOn ≤ (zones run.bank.timezone).date now)
    (unsaid : ∀ notice ∈ notices, notice.due ∈ due :: rest → notice.createdAt < (zones run.bank.timezone).at_ checkedOn 0)
    {notice : Notice} (there : notice ∈ notices) :
    OnceADay zones notice
      { due, people, createdAt := now, timezone := run.bank.timezone, lookedOn := today, checkedOn } := by
  intro same
  have before := unsaid notice there (same ▸ List.mem_cons_self)
  exact (lt_of_lt_of_le (Zone.date_lt.mp before) read).ne

theorem tell (sound : run.Sound zones hour now notices) (at_ : run.stage = .telling branch today checkedOn (due :: rest)) :
    ({ run with
      stage := toTell branch today checkedOn rest
      written := if people = [] then run.written else run.written ++
        [{ due, people, createdAt := now, timezone := run.bank.timezone, lookedOn := today, checkedOn }]
      unheard := if people = [] then run.unheard ++ [due] else run.unheard } : Reminding).Sound zones hour now notices := by
  have once := sound.once
  have unsaid := sound.unsaid
  have answered := sound.answered
  rw [at_] at once unsaid answered
  obtain ⟨new, once⟩ := List.nodup_cons.mp once
  obtain ⟨read, unsaid⟩ := unsaid
  by_cases nobody : people = []
  · simp only [if_pos nobody]
    constructor
    · exact sound.apart
    · rw [toTell_due]
      exact once
    · exact toTell_unsaid read fun notice there its => unsaid notice there (List.mem_cons_of_mem _ its)
    · intro other past
      rw [toTell_due]
      rcases answered other past with waiting | unheard | told
      · rcases List.mem_cons.mp waiting with rfl | later
        · exact .inr (.inl (List.mem_append_right _ List.mem_cons_self))
        · exact .inl later
      · exact .inr (.inl (List.mem_append_left _ unheard))
      · exact .inr (.inr told)
  · simp only [if_neg nobody]
    constructor
    · rw [← List.append_assoc]
      refine List.pairwise_append.mpr ⟨sound.apart, List.pairwise_singleton _ _, fun notice there last its => ?_⟩
      obtain rfl := List.mem_singleton.mp its
      exact tell_apart read unsaid there
    · rw [toTell_due]
      exact once
    · rw [← List.append_assoc]
      refine toTell_unsaid read fun notice there its => ?_
      rcases mem_concat.mp there with before | rfl
      · exact unsaid notice before (List.mem_cons_of_mem _ its)
      · exact absurd its new
    · intro other past
      rw [toTell_due, ← List.append_assoc]
      rcases answered other past with waiting | answered
      · rcases List.mem_cons.mp waiting with rfl | later
        · exact .inr (.inr ⟨_, List.mem_append_right _ List.mem_cons_self, rfl⟩)
        · exact .inl later
      · exact .inr (answered.mono (List.subset_append_left _ _))

end Reminding.Sound

namespace Desk.Reminds

section
variable (reminds : desk.Reminds zones hour)
include reminds

theorem of_heldBy (held : heldBy desk.reminding id = some run) : run.SoundOrWaits zones hour desk.now desk.notices :=
  reminds.runs _ (mem_of_heldBy held)

theorem clock (goes : desk.now ≤ now ∨ ∀ each ∈ desk.reminding, each.2.stage = .waiting) : ({ desk with now } : Desk).Reminds zones hour where
  apart := reminds.apart
  alone := reminds.alone
  runs := by
    intro each there
    obtain ⟨waits, past⟩ := reminds.runs each there
    refine ⟨waits, fun mine => ?_⟩
    have sound := past mine
    have after := goes.resolve_right fun every => mine (every each there)
    exact ⟨sound.apart, sound.once, sound.unsaid.later after, sound.answered⟩
  mailed := reminds.mailed
  answered := reminds.answered

theorem commit (held : heldBy desk.reminding id = some run) (finished : run.stage = .finished) : ({ desk with
      notices := desk.notices ++ run.written
      reminding := withoutBy desk.reminding id
      rounds := desk.rounds ++ [{ timezone := run.bank.timezone, untriaged := run.untriaged, unheard := run.unheard }] } : Desk).Reminds zones hour := by
  have mine : run.stage ≠ .waiting := by
    rw [finished]
    exact Stage.noConfusion
  have sound := (reminds.of_heldBy held).past mine
  constructor
  · exact sound.apart
  · exact reminds.alone.abort
  · intro each left
    obtain ⟨there, apart⟩ := mem_withoutBy.mp left
    have waits := reminds.alone.waits held mine there apart
    exact ⟨(reminds.runs each there).waits, fun past => absurd past waits⟩
  · intro mail sent
    obtain ⟨notice, there, its⟩ := reminds.mailed mail sent
    exact ⟨notice, List.mem_append_left _ there, its⟩
  · intro round there due past
    rcases mem_concat.mp there with before | rfl
    · exact (reminds.answered round before due past).mono (List.subset_append_left _ _)
    · have answered := sound.answered due past
      rw [finished] at answered
      exact answered.resolve_left List.not_mem_nil

theorem step {call : Step} (accepted : desk.step zones hour call = .ok next) : next.Reminds zones hour := by
  have same : ∀ {cases_ actions reviews bank escalations}, ({ desk with
      cases_ := cases_, actions := actions, reviews := reviews, bank := bank, escalations := escalations } : Desk).Reminds zones hour :=
    ⟨reminds.apart, reminds.alone, reminds.runs, reminds.mailed, reminds.answered⟩
  cases call with
  | clock now =>
    obtain ⟨_, goes, accepted⟩ := bind_ok.mp accepted
    cases accepted
    exact reminds.clock (require_ok.mp goes)
  | begin_ id =>
    obtain ⟨_, -, accepted⟩ := bind_ok.mp accepted
    cases accepted
    refine ⟨reminds.apart, reminds.alone.begin_ (not_not.mpr rfl), ?_, reminds.mailed, reminds.answered⟩
    refine List.forall_mem_append.mpr ⟨reminds.runs, fun each there => ?_⟩
    obtain rfl := List.mem_singleton.mp there
    exact ⟨fun _ => rfl, fun past => absurd rfl past⟩
  | lock id =>
    obtain ⟨run, held, accepted⟩ := bind_ok.mp accepted
    obtain ⟨_, free, accepted⟩ := bind_ok.mp accepted
    cases accepted
    rw [demand_ok] at held
    rw [require_ok] at free
    obtain ⟨waits, -⟩ := reminds.of_heldBy held
    have fresh := waits (free _ (mem_of_heldBy held))
    refine ⟨reminds.apart, reminds.alone.put held fun _ => .inr fun each there => not_not.mpr (free each there), ?_,
      reminds.mailed, reminds.answered⟩
    intro each there
    rcases of_mem_putBy there with rfl | ⟨was, -⟩
    · have locked : ({ run with stage := .entering .triage } : Reminding).Sound zones hour desk.now desk.notices := by
        rw [fresh]
        exact .lock reminds.apart
      exact ⟨fun waiting => absurd waiting Stage.noConfusion, fun _ => locked⟩
    · exact reminds.runs each was
  | readDate id =>
    obtain ⟨run, held, accepted⟩ := bind_ok.mp accepted
    rw [demand_ok] at held
    obtain ⟨-, past⟩ := reminds.of_heldBy held
    dsimp only at accepted
    split at accepted
    · rename_i branch at_
      cases accepted
      have mine : run.stage ≠ .waiting := fun waits => nomatch at_.symm.trans waits
      exact reminds.put held mine ((past mine).enter at_) Stage.noConfusion
    · rename_i branch lookedOn due at_
      cases accepted
      have mine : run.stage ≠ .waiting := fun waits => nomatch at_.symm.trans waits
      exact reminds.put held mine ((past mine).found at_) Stage.noConfusion
    · cases accepted
  | look id =>
    obtain ⟨run, held, accepted⟩ := bind_ok.mp accepted
    rw [demand_ok] at held
    obtain ⟨-, past⟩ := reminds.of_heldBy held
    split at accepted
    · rename_i branch today at_
      cases accepted
      have mine : run.stage ≠ .waiting := fun waits => nomatch at_.symm.trans waits
      exact reminds.put held mine ((past mine).look at_ desk) (toCheck_ne_waiting branch today _)
    · cases accepted
  | check id =>
    obtain ⟨run, held, accepted⟩ := bind_ok.mp accepted
    rw [demand_ok] at held
    obtain ⟨-, past⟩ := reminds.of_heldBy held
    split at accepted
    · rename_i branch today due checkedOn at_
      cases accepted
      have mine : run.stage ≠ .waiting := fun waits => nomatch at_.symm.trans waits
      exact reminds.put held mine ((past mine).check at_ rfl reminds.mailed) (toTell_ne_waiting branch today checkedOn _)
    · cases accepted
  | tell id people =>
    obtain ⟨run, held, accepted⟩ := bind_ok.mp accepted
    rw [demand_ok] at held
    obtain ⟨-, past⟩ := reminds.of_heldBy held
    split at accepted
    · rename_i branch today checkedOn due rest at_
      cases accepted
      have mine : run.stage ≠ .waiting := fun waits => nomatch at_.symm.trans waits
      exact reminds.put held mine ((past mine).tell at_) (toTell_ne_waiting branch today checkedOn rest)
    · cases accepted
  | commit id =>
    obtain ⟨run, held, accepted⟩ := bind_ok.mp accepted
    obtain ⟨_, finished, accepted⟩ := bind_ok.mp accepted
    cases accepted
    exact reminds.commit (demand_ok.mp held) (require_ok.mp finished)
  | abort id =>
    cases accepted
    exact ⟨reminds.apart, reminds.alone.abort, fun each left => reminds.runs each (mem_withoutBy.mp left).1, reminds.mailed, reminds.answered⟩
  | deliver due =>
    obtain ⟨_, committed, accepted⟩ := bind_ok.mp accepted
    cases accepted
    refine ⟨reminds.apart, reminds.alone, reminds.runs, ?_, reminds.answered⟩
    refine List.forall_mem_append.mpr ⟨reminds.mailed, fun mail there => ?_⟩
    obtain rfl := List.mem_singleton.mp there
    exact require_ok.mp committed
  | escalation call | editCases cases_ =>
    obtain ⟨_, -, accepted⟩ := bind_ok.mp accepted
    cases accepted
    exact same
  | editActions actions | editReviews reviews | editBank bank =>
    cases accepted
    exact same

end

end Desk.Reminds

end Steps

/-! ## Escalations -/

def EscalationStage.rest : EscalationStage → List Id
  | .telling rest => rest
  | _ => []

/-- What a run past its lock is to escalate was not escalated before, and what one that waits has escalated is nothing. -/
structure Escalating.Sound (escalated : List Id) (run : Escalating) : Prop where
  early : run.stage.rest = [] ∧ run.stage ≠ .telling [] → run.written = []
  once : run.stage ≠ .waiting → (escalated ++ (run.written ++ run.stage.rest)).Nodup

structure Escalations.Sound (escalations : Escalations) : Prop where
  once : escalations.escalated.Nodup
  alone : Alone (·.stage ≠ .waiting) escalations.underway
  runs : ∀ each ∈ escalations.underway, each.2.Sound escalations.escalated

namespace Escalations.Sound
variable {zones : String → Zone} {now : Moment} {bank : Bank} {table : Keyed Action.id} {escalations next : Escalations} {id : Nat}
  {run later : Escalating}

theorem put (sound : escalations.Sound) (held : heldBy escalations.underway id = some run)
    (goesOn : later.Sound escalations.escalated)
    (passes : run.stage ≠ .waiting ∨ ∀ each ∈ escalations.underway, each.2.stage = .waiting) :
    (escalations.put id later).Sound where
  once := sound.once
  alone := sound.alone.put held fun _ => passes.imp_right fun free each there => not_not.mpr (free each there)
  runs := by
    intro each there
    rcases of_mem_putBy there with rfl | ⟨was, -⟩
    · exact goesOn
    · exact sound.runs each was

theorem step (sound : escalations.Sound) {call : EscalationStep}
    (accepted : escalations.step zones now bank table.rows call = .ok next) : next.Sound := by
  cases call with
  | begin_ id =>
    obtain ⟨_, -, accepted⟩ := bind_ok.mp accepted
    cases accepted
    refine ⟨sound.once, sound.alone.begin_ (not_not.mpr rfl), List.forall_mem_append.mpr ⟨sound.runs, fun each there => ?_⟩⟩
    obtain rfl := List.mem_singleton.mp there
    exact ⟨fun _ => rfl, fun past => absurd rfl past⟩
  | lock id =>
    obtain ⟨run, held, accepted⟩ := bind_ok.mp accepted
    obtain ⟨_, free, accepted⟩ := bind_ok.mp accepted
    cases accepted
    rw [demand_ok] at held
    rw [require_ok] at free
    have there := mem_of_heldBy held
    have nothing : run.written = [] := (sound.runs _ there).early (by rw [free _ there]; exact ⟨rfl, EscalationStage.noConfusion⟩)
    refine sound.put held ⟨fun _ => nothing, fun _ => ?_⟩ (.inr free)
    rw [nothing]
    exact (List.append_nil _).symm ▸ sound.once
  | readDate id =>
    obtain ⟨run, held, accepted⟩ := bind_ok.mp accepted
    obtain ⟨_, at_, accepted⟩ := bind_ok.mp accepted
    cases accepted
    rw [demand_ok] at held
    rw [require_ok] at at_
    have mine := sound.runs _ (mem_of_heldBy held)
    have nothing : run.written = [] := mine.early (by rw [at_]; exact ⟨rfl, EscalationStage.noConfusion⟩)
    refine sound.put held ⟨fun _ => nothing, fun _ => ?_⟩ (.inl (by rw [at_]; exact EscalationStage.noConfusion))
    rw [nothing]
    exact (List.append_nil _).symm ▸ sound.once
  | look id =>
    obtain ⟨run, held, accepted⟩ := bind_ok.mp accepted
    rw [demand_ok] at held
    split at accepted
    · rename_i today at_
      cases accepted
      have mine := sound.runs _ (mem_of_heldBy held)
      have nothing : run.written = [] := mine.early (by rw [at_]; exact ⟨rfl, EscalationStage.noConfusion⟩)
      refine sound.put held ⟨fun _ => nothing, fun _ => ?_⟩ (.inl (by rw [at_]; exact EscalationStage.noConfusion))
      rw [nothing]
      refine List.nodup_append.mpr ⟨sound.once, actionsOverdue_nodup, ?_⟩
      intro action before other listed same
      exact actionsOverdue_new listed (same ▸ before)
    · cases accepted
  | escalate id =>
    obtain ⟨run, held, accepted⟩ := bind_ok.mp accepted
    rw [demand_ok] at held
    split at accepted
    · rename_i action rest at_
      cases accepted
      have past : run.stage ≠ .waiting := by
        rw [at_]
        exact EscalationStage.noConfusion
      have once := (sound.runs _ (mem_of_heldBy held)).once past
      rw [at_] at once
      refine sound.put held ⟨fun ended => absurd (congrArg EscalationStage.telling ended.1) ended.2, fun _ => ?_⟩ (.inl past)
      rw [List.append_assoc]
      exact once
    · cases accepted
  | commit id =>
    obtain ⟨run, held, accepted⟩ := bind_ok.mp accepted
    obtain ⟨_, at_, accepted⟩ := bind_ok.mp accepted
    cases accepted
    rw [demand_ok] at held
    rw [require_ok] at at_
    have past : run.stage ≠ .waiting := by
      rw [at_]
      exact EscalationStage.noConfusion
    have once := (sound.runs _ (mem_of_heldBy held)).once past
    rw [at_, EscalationStage.rest, List.append_nil] at once
    refine ⟨once, sound.alone.abort, fun each left => ?_⟩
    obtain ⟨there, apart⟩ := mem_withoutBy.mp left
    have waits := sound.alone.waits held past there apart
    exact ⟨(sound.runs each there).early, fun past => absurd past waits⟩
  | abort id =>
    cases accepted
    exact ⟨sound.once, sound.alone.abort, fun each left => sound.runs each (mem_withoutBy.mp left).1⟩

end Escalations.Sound

theorem escalations_step {zones : String → Zone} {hour : Fin 24} {desk next : Desk} (sound : desk.escalations.Sound) {call : Step}
    (accepted : desk.step zones hour call = .ok next) : next.escalations.Sound := by
  cases call with
  | escalation call =>
    obtain ⟨escalations, stepped, accepted⟩ := bind_ok.mp accepted
    cases accepted
    exact sound.step stepped
  | clock | begin_ | deliver | editCases =>
    obtain ⟨_, -, accepted⟩ := bind_ok.mp accepted
    cases accepted
    exact sound
  | lock | commit =>
    obtain ⟨_, -, accepted⟩ := bind_ok.mp accepted
    obtain ⟨_, -, accepted⟩ := bind_ok.mp accepted
    cases accepted
    exact sound
  | readDate | look | check | tell =>
    obtain ⟨_, -, accepted⟩ := bind_ok.mp accepted
    dsimp only at accepted
    split at accepted
    all_goals cases accepted
    all_goals exact sound
  | abort | editActions | editReviews | editBank =>
    cases accepted
    exact sound

end Grc.Collab.Reminders
