import Grc.Cases.Fanout

/-! What the deliveries of registered changes leave, in any order and however many run at once: one case for each bank and change the rule covered,
opened once and touched by no later delivery. -/
namespace Grc.Cases

open Grc.Shared Grc.Lib Grc.Taxonomy

variable {tables : CaseTables} {desk next after : CaseDesk} {worker other : Id} {delivery : Delivery} {fanout : Fanout} {subject : Option Id}
  {cases more : List CaseFile} {taken : CreationStep}

def Fanout.pending (fanout : Fanout) : List (Id × Id) :=
  match fanout.facts with
  | none => []
  | some facts => fanout.todo.map fun bank => (bank.id, facts.id)

theorem fanoutOf_reads (read : desk.fanoutOf subject = .ok fanout) :
    fanout.covers = desk.tables.covers subject ∧ fanout.covers = fanout.pending := by
  unfold CaseDesk.fanoutOf at read
  cases subject with
  | none =>
    cases read
    exact ⟨rfl, rfl⟩
  | some changeId =>
    obtain ⟨found, named, built⟩ := bind_ok.mp read
    cases there : desk.tables.changes changeId with
    | none =>
      simp only [CaseTables.changeFacts, there, Except.ok.injEq] at named
      subst named
      cases built
      exact ⟨by simp [CaseTables.covers, there], rfl⟩
    | some change =>
      simp only [CaseTables.changeFacts, there] at named
      obtain ⟨urgency, -, rfl⟩ := map_ok.mp named
      cases built
      exact ⟨rfl, by simp [CaseTables.covers, there, Fanout.pending]⟩

theorem createNext_ok {caseId : Id} {now : Instant} (done : desk.createNext worker delivery fanout caseId now = .ok next) :
    ∃ facts bank rest, fanout.facts = some facts ∧ fanout.todo = bank :: rest ∧
      ¬waitsFor CaseFile.key Delivery.inserted desk.deliveries worker (bank.id, facts.id) ∧
      ((bank.id, facts.id) ∈ (desk.cases ++ delivery.inserted).map CaseFile.key ∧
          next = desk.goOn worker { delivery with fanout := some { fanout with todo := rest } } ∨
        (bank.id, facts.id) ∉ (desk.cases ++ delivery.inserted).map CaseFile.key ∧
          next = desk.goOn worker { delivery with
            fanout := some { fanout with todo := rest }, making := delivery.making ++ [desk.caseFor fanout facts bank caseId now] }) := by
  obtain ⟨facts, its, done⟩ := bind_ok.mp done
  have its := demand_ok.mp its
  split at done
  · cases done
  · rename_i bank rest todo
    obtain ⟨_, free, done⟩ := bind_ok.mp done
    refine ⟨facts, bank, rest, its, todo, require_ok.mp free, ?_⟩
    split at done
    · rename_i there
      cases done
      exact .inl ⟨there, rfl⟩
    · rename_i absent
      cases done
      exact .inr ⟨absent, rfl⟩

/-- What a delivery has done of what it covers, over the cases committed. -/
structure Delivery.Fans (delivery : Delivery) (cases : List CaseFile) : Prop where
  made : ∀ file ∈ delivery.made, file.key ∈ delivery.covered
  done : ∀ pair ∈ delivery.covered, pair ∈ (cases ++ delivery.made).map CaseFile.key
  making : ∀ file ∈ delivery.making, ∃ fanout ∈ delivery.fanout, file.key ∈ fanout.covers
  todo : ∀ fanout ∈ delivery.fanout, ∀ pair ∈ fanout.covers, pair ∈ (cases ++ delivery.inserted).map CaseFile.key ∨ pair ∈ fanout.pending
  banks : ∀ fanout ∈ delivery.fanout, ∀ pair ∈ fanout.pending, pair ∈ fanout.covers

namespace Delivery.Fans

theorem mono (fans : delivery.Fans cases) (kept : ∀ pair ∈ cases.map CaseFile.key, pair ∈ more.map CaseFile.key) : delivery.Fans more := by
  have wider : ∀ {own : List CaseFile} {pair : Id × Id}, pair ∈ (cases ++ own).map CaseFile.key → pair ∈ (more ++ own).map CaseFile.key := by
    intro own pair there
    rw [List.map_append, List.mem_append] at there ⊢
    exact there.imp_left (kept pair)
  exact ⟨fans.made, fun pair there => wider (fans.done pair there), fans.making,
    fun fanout its pair there => (fans.todo fanout its pair there).imp_left wider, fans.banks⟩

theorem empty : ({} : Delivery).Fans cases :=
  ⟨fun _ there => absurd there List.not_mem_nil, fun _ there => absurd there List.not_mem_nil, fun _ there => absurd there List.not_mem_nil,
    fun _ none => (nomatch none), fun _ none => (nomatch none)⟩

theorem of_made (made : ∀ file ∈ delivery.made, file.key ∈ delivery.covered)
    (done : ∀ pair ∈ delivery.covered, pair ∈ (cases ++ delivery.made).map CaseFile.key) (making : delivery.making = [])
    (idle : delivery.fanout = none) : delivery.Fans cases where
  made := made
  done := done
  making := by
    rw [making]
    exact fun _ there => absurd there List.not_mem_nil
  todo := by
    rw [idle]
    exact fun _ none => nomatch none
  banks := by
    rw [idle]
    exact fun _ none => nomatch none

theorem making_nil (fans : delivery.Fans cases) (idle : delivery.fanout = none) : delivery.making = [] := by
  refine List.eq_nil_iff_forall_not_mem.mpr fun file there => ?_
  obtain ⟨fanout, its, -⟩ := fans.making file there
  rw [idle] at its
  cases its

theorem takes (fans : delivery.Fans cases) (idle : delivery.fanout = none) (all : fanout.covers = fanout.pending) :
    Delivery.Fans { delivery with fanout := some fanout } cases where
  made := fans.made
  done := fans.done
  making := by
    simp only [fans.making_nil idle]
    exact fun _ there => absurd there List.not_mem_nil
  todo := by
    rintro _ ⟨⟩ pair there
    exact .inr (all ▸ there)
  banks := by
    rintro _ ⟨⟩ pair there
    exact all ▸ there

theorem creates (fans : delivery.Fans cases) (its : delivery.fanout = some fanout) {facts : ChangeFacts} {bank : BankRow} {rest : List BankRow}
    (named : fanout.facts = some facts) (todo : fanout.todo = bank :: rest) (more : List CaseFile)
    (only : ∀ file ∈ more, file.key = (bank.id, facts.id))
    (there : (bank.id, facts.id) ∈ (cases ++ (delivery.inserted ++ more)).map CaseFile.key) :
    Delivery.Fans { delivery with fanout := some { fanout with todo := rest }, making := delivery.making ++ more } cases := by
  have pending : fanout.pending = (bank.id, facts.id) :: ({ fanout with todo := rest } : Fanout).pending := by
    simp only [Fanout.pending, named, todo, List.map_cons]
  have head : (bank.id, facts.id) ∈ fanout.covers := fans.banks fanout its _ (pending ▸ List.mem_cons_self)
  have wider : ∀ pair ∈ (cases ++ delivery.inserted).map CaseFile.key,
      pair ∈ (cases ++ (delivery.made ++ (delivery.making ++ more))).map CaseFile.key := by
    intro pair before
    rw [← List.append_assoc delivery.made, ← List.append_assoc cases, List.map_append]
    exact List.mem_append_left _ before
  refine ⟨fans.made, fans.done, ?_, ?_, ?_⟩
  · intro file member
    rcases List.mem_append.mp member with before | new
    · obtain ⟨old, same, covered⟩ := fans.making file before
      rw [its] at same
      cases same
      exact ⟨_, rfl, covered⟩
    · exact ⟨_, rfl, only file new ▸ head⟩
  · rintro _ ⟨⟩ pair covered
    rcases fans.todo fanout its pair covered with before | waiting
    · exact .inl (wider pair before)
    · rw [pending] at waiting
      rcases List.mem_cons.mp waiting with rfl | later
      · rw [Delivery.inserted, List.append_assoc] at there
        exact .inl there
      · exact .inr later
  · rintro _ ⟨⟩ pair waiting
    exact fans.banks fanout its pair (pending ▸ List.mem_cons_of_mem _ waiting)

theorem handled (fans : delivery.Fans cases) (its : delivery.fanout = some fanout) (nothing : fanout.todo = []) :
    Delivery.Fans { made := delivery.inserted, covered := delivery.covered ++ fanout.covers } cases := by
  refine of_made ?_ ?_ rfl rfl
  · intro file member
    rcases List.mem_append.mp member with before | new
    · exact List.mem_append_left _ (fans.made file before)
    · obtain ⟨old, same, covered⟩ := fans.making file new
      rw [its] at same
      cases same
      exact List.mem_append_right _ covered
  · intro pair covered
    rcases List.mem_append.mp covered with before | new
    · have there := fans.done pair before
      rw [Delivery.inserted, ← List.append_assoc, List.map_append]
      exact List.mem_append_left _ there
    · refine (fans.todo fanout its pair new).resolve_right fun waiting => ?_
      unfold Fanout.pending at waiting
      split at waiting
      · cases waiting
      · rw [nothing] at waiting
        cases waiting

end Delivery.Fans

/-- What holds of every desk: the key is unique, every delivery has done what it says, and there is a case for exactly what was covered. -/
structure CaseDesk.Sound (desk : CaseDesk) : Prop where
  unique : Inserting CaseFile.key Delivery.inserted desk.cases desk.deliveries
  fans : ∀ each ∈ desk.deliveries, each.2.Fans desk.cases
  covered : ∀ pair, pair ∈ desk.covered ↔ pair ∈ desk.cases.map CaseFile.key

namespace CaseDesk.Sound

theorem initial (tables : CaseTables) : CaseDesk.Sound { tables } :=
  ⟨.start List.nodup_nil, fun _ there => absurd there List.not_mem_nil, fun _ => Iff.rfl⟩

theorem held (_ : desk.Sound) (found : desk.delivery worker = .ok delivery) : (worker, delivery) ∈ desk.deliveries :=
  mem_of_heldBy (demand_ok.mp found)

theorem goOn (sound : desk.Sound) (unique : Inserting CaseFile.key Delivery.inserted desk.cases (putBy desk.deliveries worker delivery))
    (fans : delivery.Fans desk.cases) : (desk.goOn worker delivery).Sound := by
  refine ⟨unique, fun each there => ?_, sound.covered⟩
  rcases of_mem_putBy there with rfl | ⟨was, -⟩
  · exact fans
  · exact sound.fans each was

theorem step (sound : desk.Sound) (done : desk.step taken = .ok next) : next.Sound := by
  cases taken with
  | begins worker =>
    obtain ⟨_, -, done⟩ := bind_ok.mp done
    cases done
    refine ⟨sound.unique.begin_ rfl, List.forall_mem_append.mpr ⟨sound.fans, ?_⟩, sound.covered⟩
    intro each there
    rw [List.mem_singleton.mp there]
    exact .empty
  | takes worker subject =>
    obtain ⟨delivery, found, done⟩ := bind_ok.mp done
    obtain ⟨_, idle, done⟩ := bind_ok.mp done
    obtain ⟨fanout, read, done⟩ := bind_ok.mp done
    cases done
    have there := sound.held found
    have idle := Option.isNone_iff_eq_none.mp (require_ok.mp idle)
    exact sound.goOn (sound.unique.keep there (List.Sublist.refl _)) ((sound.fans _ there).takes idle (fanoutOf_reads read).2)
  | creates worker caseId now =>
    obtain ⟨delivery, found, done⟩ := bind_ok.mp done
    obtain ⟨fanout, its, done⟩ := bind_ok.mp done
    have there := sound.held found
    have its := demand_ok.mp its
    obtain ⟨facts, bank, rest, named, todo, free, ⟨present, rfl⟩ | ⟨absent, rfl⟩⟩ := createNext_ok done
    · have onward := (sound.fans _ there).creates its named todo [] (fun _ none => absurd none List.not_mem_nil) (by rwa [List.append_nil])
      rw [List.append_nil] at onward
      exact sound.goOn (sound.unique.keep there (List.Sublist.refl _)) onward
    · refine sound.goOn ?_ ?_
      · have one : ({ delivery with
            fanout := some { fanout with todo := rest }, making := delivery.making ++ [desk.caseFor fanout facts bank caseId now] } : Delivery).inserted =
              delivery.inserted ++ [desk.caseFor fanout facts bank caseId now] := (List.append_assoc _ _ _).symm
        exact sound.unique.insert there one absent free
      · refine (sound.fans _ there).creates its named todo _ (fun file only => List.mem_singleton.mp only ▸ rfl) ?_
        rw [← List.append_assoc, List.map_append]
        exact List.mem_append_right _ (List.mem_singleton_self _)
  | handled worker =>
    obtain ⟨delivery, found, done⟩ := bind_ok.mp done
    obtain ⟨fanout, its, done⟩ := bind_ok.mp done
    obtain ⟨_, nothing, done⟩ := bind_ok.mp done
    cases done
    have there := sound.held found
    refine sound.goOn (sound.unique.keep there ?_) ((sound.fans _ there).handled (demand_ok.mp its) (require_ok.mp nothing))
    rw [Delivery.inserted, List.append_nil]
  | raised worker =>
    obtain ⟨delivery, found, done⟩ := bind_ok.mp done
    cases done
    have there := sound.held found
    refine sound.goOn (sound.unique.keep there ?_) (.of_made (sound.fans _ there).made (sound.fans _ there).done rfl rfl)
    rw [Delivery.inserted, List.append_nil]
    exact List.sublist_append_left _ _
  | commits worker =>
    obtain ⟨delivery, found, done⟩ := bind_ok.mp done
    obtain ⟨_, idle, done⟩ := bind_ok.mp done
    cases done
    have there := sound.held found
    have idle := Option.isNone_iff_eq_none.mp (require_ok.mp idle)
    have fans := sound.fans _ there
    have all : delivery.inserted = delivery.made := by rw [Delivery.inserted, fans.making_nil idle, List.append_nil]
    refine ⟨all ▸ sound.unique.commit there, fun each left => ?_, fun pair => ?_⟩
    · refine (sound.fans each (mem_withoutBy.mp left).1).mono fun pair before => ?_
      rw [List.map_append]
      exact List.mem_append_left _ before
    · rw [List.mem_append, sound.covered pair]
      constructor
      · rintro (before | new)
        · rw [List.map_append]
          exact List.mem_append_left _ before
        · exact fans.done pair new
      · intro opened
        rw [List.map_append, List.mem_append] at opened
        refine opened.imp_right fun new => ?_
        obtain ⟨file, member, rfl⟩ := List.mem_map.mp new
        exact fans.made file member
  | fails worker =>
    obtain ⟨_, -, done⟩ := bind_ok.mp done
    cases done
    exact ⟨sound.unique.abort, fun each left => sound.fans each (mem_withoutBy.mp left).1, sound.covered⟩
  | elsewhere tables cases =>
    obtain ⟨_, same, done⟩ := bind_ok.mp done
    cases done
    have same := require_ok.mp same
    refine ⟨sound.unique.rekeyed same, fun each there => (sound.fans each there).mono fun pair before => same ▸ before, fun pair => ?_⟩
    rw [same]
    exact sound.covered pair

end CaseDesk.Sound

/-- A step of a delivery begins its transaction, goes on in it, or ends it: with the cases it has made, or with none. -/
theorem step_moves (its : taken.worker = some worker) (done : desk.step taken = .ok next) :
    next = { desk with deliveries := desk.deliveries ++ [(worker, {})] } ∨
      (∃ later, next = desk.goOn worker later) ∨
      ∃ delivery opened covered, heldBy desk.deliveries worker = some delivery ∧
        (opened = [] ∨ delivery.fanout = none ∧ opened = delivery.made) ∧
        next = { desk with cases := desk.cases ++ opened, covered, deliveries := withoutBy desk.deliveries worker } := by
  cases taken <;> cases its
  case begins =>
    obtain ⟨_, -, done⟩ := bind_ok.mp done
    cases done
    exact .inl rfl
  case takes =>
    obtain ⟨_, -, done⟩ := bind_ok.mp done
    obtain ⟨_, -, done⟩ := bind_ok.mp done
    obtain ⟨_, -, done⟩ := bind_ok.mp done
    cases done
    exact .inr (.inl ⟨_, rfl⟩)
  case creates =>
    obtain ⟨_, -, done⟩ := bind_ok.mp done
    obtain ⟨_, -, done⟩ := bind_ok.mp done
    obtain ⟨_, _, _, -, -, -, ⟨-, rfl⟩ | ⟨-, rfl⟩⟩ := createNext_ok done
    · exact .inr (.inl ⟨_, rfl⟩)
    · exact .inr (.inl ⟨_, rfl⟩)
  case handled =>
    obtain ⟨_, -, done⟩ := bind_ok.mp done
    obtain ⟨_, -, done⟩ := bind_ok.mp done
    obtain ⟨_, -, done⟩ := bind_ok.mp done
    cases done
    exact .inr (.inl ⟨_, rfl⟩)
  case raised =>
    obtain ⟨_, -, done⟩ := bind_ok.mp done
    cases done
    exact .inr (.inl ⟨_, rfl⟩)
  case commits =>
    obtain ⟨delivery, found, done⟩ := bind_ok.mp done
    obtain ⟨_, idle, done⟩ := bind_ok.mp done
    cases done
    have idle := Option.isNone_iff_eq_none.mp (require_ok.mp idle)
    exact .inr (.inr ⟨delivery, delivery.made, _, demand_ok.mp found, .inr ⟨idle, rfl⟩, rfl⟩)
  case fails =>
    obtain ⟨delivery, found, done⟩ := bind_ok.mp done
    cases done
    refine .inr (.inr ⟨delivery, [], desk.covered, demand_ok.mp found, .inl rfl, ?_⟩)
    rw [List.append_nil]

/-- What a step of a delivery leaves alone: what the fan-out reads, the other deliveries, and every case there is. -/
structure Frames (worker : Id) (desk next : CaseDesk) : Prop where
  tables : next.tables = desk.tables
  others : ∀ other, other ≠ worker → heldBy next.deliveries other = heldBy desk.deliveries other
  stay : ∀ each ∈ desk.deliveries, each.1 ≠ worker → each ∈ next.deliveries
  cases : ∃ opened, next.cases = desk.cases ++ opened

theorem step_frames (its : taken.worker = some worker) (done : desk.step taken = .ok next) : Frames worker desk next := by
  obtain rfl | ⟨later, rfl⟩ | ⟨_, opened, _, -, -, rfl⟩ := step_moves its done
  · exact ⟨rfl, fun _ apart => heldBy_append_other apart, fun _ there _ => List.mem_append_left _ there, [], (List.append_nil _).symm⟩
  · exact ⟨rfl, fun _ apart => heldBy_putBy_other apart, fun each there apart => List.mem_map.mpr ⟨each, there, if_neg apart⟩, [],
      (List.append_nil _).symm⟩
  · exact ⟨rfl, fun _ apart => heldBy_withoutBy_other apart, fun _ there apart => mem_withoutBy.mpr ⟨there, apart⟩, opened, rfl⟩

theorem step_opens (its : taken.worker = some worker) (done : desk.step taken = .ok next) :
    next.cases = desk.cases ∨ ∃ delivery, heldBy desk.deliveries worker = some delivery ∧ delivery.made ≠ [] ∧
      next.cases = desk.cases ++ delivery.made := by
  obtain rfl | ⟨later, rfl⟩ | ⟨delivery, opened, _, held, rfl | ⟨-, rfl⟩, rfl⟩ := step_moves its done
  · exact .inl rfl
  · exact .inl rfl
  · exact .inl (List.append_nil _)
  · by_cases none : delivery.made = []
    · left
      change desk.cases ++ delivery.made = desk.cases
      rw [none, List.append_nil]
    · exact .inr ⟨delivery, held, none, rfl⟩

def stepsOf (worker : Id) (steps : List CreationStep) : List CreationStep := steps.filter fun taken => taken.worker = some worker

theorem stepsOf_own {steps : List CreationStep} (its : taken.worker = some worker) :
    stepsOf worker (taken :: steps) = taken :: stepsOf worker steps := by
  simp [stepsOf, its]

theorem stepsOf_other {steps : List CreationStep} (its : taken.worker = some other) (apart : worker ≠ other) :
    stepsOf worker (taken :: steps) = stepsOf worker steps := by
  simp [stepsOf, its, Ne.symm apart]

section Concurrent
variable {outside : List (Id × Delivery)} {alone : CaseDesk} {one two : Id}

/-- A delivery that goes through its own steps alone, beside the deliveries that take none: it stands as it does among the others. -/
structure Mirrors (outside : List (Id × Delivery)) (worker : Id) (desk alone : CaseDesk) : Prop where
  tables : alone.tables = desk.tables
  cases : alone.cases = desk.cases
  own : heldBy alone.deliveries worker = heldBy desk.deliveries worker
  beside : ∀ each ∈ alone.deliveries, each.1 = worker ∨ each ∈ outside

namespace Mirrors

section
variable (mirrors : Mirrors outside worker desk alone)
include mirrors

theorem goOn (held : heldBy desk.deliveries worker = some delivery) (later : Delivery) :
    Mirrors outside worker (desk.goOn worker later) (alone.goOn worker later) where
  tables := mirrors.tables
  cases := mirrors.cases
  own := (heldBy_putBy (mirrors.own.trans held)).trans (heldBy_putBy held).symm
  beside := by
    intro each there
    rcases of_mem_putBy there with rfl | ⟨was, -⟩
    · exact .inl rfl
    · exact mirrors.beside each was

theorem ends (opened : List CaseFile) (covered others : List (Id × Id)) :
    Mirrors outside worker { desk with cases := desk.cases ++ opened, covered, deliveries := withoutBy desk.deliveries worker }
      { alone with cases := alone.cases ++ opened, covered := others, deliveries := withoutBy alone.deliveries worker } where
  tables := mirrors.tables
  cases := congrArg (· ++ opened) mirrors.cases
  own := heldBy_withoutBy.trans heldBy_withoutBy.symm
  beside := fun each there => mirrors.beside each (mem_withoutBy.mp there).1

theorem step (stays : ∀ each ∈ outside, each ∈ desk.deliveries) (its : taken.worker = some worker)
    (done : desk.step taken = .ok next) : ∃ later, alone.step taken = .ok later ∧ Mirrors outside worker next later := by
  have same : alone.delivery worker = desk.delivery worker := by rw [CaseDesk.delivery, CaseDesk.delivery, mirrors.own]
  cases taken <;> cases its
  case begins =>
    obtain ⟨_, free, done⟩ := bind_ok.mp done
    cases done
    have free := require_ok.mp free
    refine ⟨_, bind_ok.mpr ⟨(), require_ok.mpr (mirrors.own.trans free), rfl⟩, mirrors.tables, mirrors.cases, ?_, ?_⟩
    · exact (heldBy_append (mirrors.own.trans free)).trans (heldBy_append free).symm
    · intro each there
      rcases List.mem_append.mp there with was | new
      · exact mirrors.beside each was
      · exact .inl (List.mem_singleton.mp new ▸ rfl)
  case takes subject =>
    obtain ⟨delivery, found, done⟩ := bind_ok.mp done
    obtain ⟨_, idle, done⟩ := bind_ok.mp done
    obtain ⟨fanout, read, done⟩ := bind_ok.mp done
    cases done
    have reads : alone.fanoutOf subject = .ok fanout := by
      rw [← read]
      simp only [CaseDesk.fanoutOf, mirrors.tables]
    exact ⟨_, bind_ok.mpr ⟨_, same.trans found, bind_ok.mpr ⟨_, idle, bind_ok.mpr ⟨_, reads, rfl⟩⟩⟩, mirrors.goOn (demand_ok.mp found) _⟩
  case creates caseId now =>
    obtain ⟨delivery, found, done⟩ := bind_ok.mp done
    obtain ⟨fanout, its, done⟩ := bind_ok.mp done
    obtain ⟨facts, bank, rest, named, todo, free, ends⟩ := createNext_ok done
    have unblocked : ¬waitsFor CaseFile.key Delivery.inserted alone.deliveries worker (bank.id, facts.id) := by
      rintro ⟨each, there, apart, theirs⟩
      exact free ⟨each, stays each ((mirrors.beside each there).resolve_left apart), apart, theirs⟩
    have case : alone.caseFor fanout facts bank caseId now = desk.caseFor fanout facts bank caseId now := by
      rw [CaseDesk.caseFor, CaseDesk.caseFor, mirrors.tables]
    have turn : alone.createNext worker delivery fanout caseId now =
        if (bank.id, facts.id) ∈ (desk.cases ++ delivery.inserted).map CaseFile.key then
          .ok (alone.goOn worker { delivery with fanout := some { fanout with todo := rest } })
        else .ok (alone.goOn worker { delivery with
          fanout := some { fanout with todo := rest }, making := delivery.making ++ [desk.caseFor fanout facts bank caseId now] }) := by
      simp only [CaseDesk.createNext, named, todo, demand, bind, Except.bind, require, if_pos unblocked, mirrors.cases, case]
    have held := demand_ok.mp found
    rcases ends with ⟨present, rfl⟩ | ⟨absent, rfl⟩
    · rw [if_pos present] at turn
      exact ⟨_, bind_ok.mpr ⟨_, same.trans found, bind_ok.mpr ⟨_, its, turn⟩⟩, mirrors.goOn held _⟩
    · rw [if_neg absent] at turn
      exact ⟨_, bind_ok.mpr ⟨_, same.trans found, bind_ok.mpr ⟨_, its, turn⟩⟩, mirrors.goOn held _⟩
  case handled =>
    obtain ⟨delivery, found, done⟩ := bind_ok.mp done
    obtain ⟨fanout, its, done⟩ := bind_ok.mp done
    obtain ⟨_, nothing, done⟩ := bind_ok.mp done
    cases done
    exact ⟨_, bind_ok.mpr ⟨_, same.trans found, bind_ok.mpr ⟨_, its, bind_ok.mpr ⟨_, nothing, rfl⟩⟩⟩, mirrors.goOn (demand_ok.mp found) _⟩
  case raised =>
    obtain ⟨delivery, found, done⟩ := bind_ok.mp done
    cases done
    exact ⟨_, bind_ok.mpr ⟨_, same.trans found, rfl⟩, mirrors.goOn (demand_ok.mp found) _⟩
  case commits =>
    obtain ⟨delivery, found, done⟩ := bind_ok.mp done
    obtain ⟨_, idle, done⟩ := bind_ok.mp done
    cases done
    exact ⟨_, bind_ok.mpr ⟨_, same.trans found, bind_ok.mpr ⟨_, idle, rfl⟩⟩, mirrors.ends _ _ _⟩
  case fails =>
    obtain ⟨delivery, found, done⟩ := bind_ok.mp done
    cases done
    have ends := mirrors.ends [] desk.covered alone.covered
    rw [List.append_nil, List.append_nil] at ends
    exact ⟨_, bind_ok.mpr ⟨_, same.trans found, rfl⟩, ends⟩

theorem frame (frames : Frames other desk next) (apart : worker ≠ other) (still : next.cases = desk.cases) : Mirrors outside worker next alone where
  tables := mirrors.tables.trans frames.tables.symm
  cases := mirrors.cases.trans still.symm
  own := mirrors.own.trans (frames.others worker apart).symm
  beside := mirrors.beside

end

end Mirrors

/-- A delivery of one event, once or more: what it has covered is what the rule covers of that event. -/
structure Delivery.OfEvent (tables : CaseTables) (subject : Option Id) (delivery : Delivery) : Prop where
  covered : ∀ pair ∈ delivery.covered, pair ∈ tables.covers subject
  all : delivery.covered = [] ∨ ∀ pair ∈ tables.covers subject, pair ∈ delivery.covered
  fanout : ∀ fanout ∈ delivery.fanout, fanout.covers = tables.covers subject

namespace Delivery.OfEvent

theorem empty : ({} : Delivery).OfEvent tables subject :=
  ⟨fun _ there => absurd there List.not_mem_nil, .inl rfl, fun _ none => (nomatch none)⟩

theorem step (each : ∀ delivery, heldBy desk.deliveries worker = some delivery → delivery.OfEvent desk.tables subject)
    (its : taken.worker = some worker) (delivers : taken.Delivers subject) (done : desk.step taken = .ok next) :
    ∀ delivery, heldBy next.deliveries worker = some delivery → delivery.OfEvent desk.tables subject := by
  have onward : ∀ {before later : Delivery}, heldBy desk.deliveries worker = some before → later.OfEvent desk.tables subject →
      ∀ delivery, heldBy (desk.goOn worker later).deliveries worker = some delivery → delivery.OfEvent desk.tables subject := by
    intro before later held of delivery now
    rw [CaseDesk.goOn, heldBy_putBy held] at now
    cases now
    exact of
  have gone : ∀ delivery, heldBy (withoutBy desk.deliveries worker) worker = some delivery → delivery.OfEvent desk.tables subject := by
    intro delivery now
    rw [heldBy_withoutBy] at now
    cases now
  cases taken <;> cases its
  case begins =>
    obtain ⟨_, free, done⟩ := bind_ok.mp done
    cases done
    intro delivery now
    rw [heldBy_append (require_ok.mp free)] at now
    cases now
    exact .empty
  case takes =>
    cases delivers
    obtain ⟨delivery, found, done⟩ := bind_ok.mp done
    obtain ⟨_, -, done⟩ := bind_ok.mp done
    obtain ⟨fanout, read, done⟩ := bind_ok.mp done
    cases done
    have held := demand_ok.mp found
    refine onward held ⟨(each _ held).covered, (each _ held).all, ?_⟩
    rintro _ ⟨⟩
    exact (fanoutOf_reads read).1
  case creates =>
    obtain ⟨delivery, found, done⟩ := bind_ok.mp done
    obtain ⟨fanout, its, done⟩ := bind_ok.mp done
    have held := demand_ok.mp found
    have covers := (each _ held).fanout _ (demand_ok.mp its)
    obtain ⟨_, _, _, -, -, -, ⟨-, rfl⟩ | ⟨-, rfl⟩⟩ := createNext_ok done
    all_goals
      refine onward held ⟨(each _ held).covered, (each _ held).all, ?_⟩
      rintro _ ⟨⟩
      exact covers
  case handled =>
    obtain ⟨delivery, found, done⟩ := bind_ok.mp done
    obtain ⟨fanout, its, done⟩ := bind_ok.mp done
    obtain ⟨_, -, done⟩ := bind_ok.mp done
    cases done
    have held := demand_ok.mp found
    have covers := (each _ held).fanout _ (demand_ok.mp its)
    refine onward held ⟨?_, .inr ?_, fun _ none => (nomatch none)⟩
    · exact List.forall_mem_append.mpr ⟨(each _ held).covered, fun pair there => covers ▸ there⟩
    · exact fun pair there => List.mem_append_right _ (covers ▸ there)
  case raised =>
    obtain ⟨delivery, found, done⟩ := bind_ok.mp done
    cases done
    have held := demand_ok.mp found
    exact onward held ⟨(each _ held).covered, (each _ held).all, fun _ none => (nomatch none)⟩
  case commits =>
    obtain ⟨_, -, done⟩ := bind_ok.mp done
    obtain ⟨_, -, done⟩ := bind_ok.mp done
    cases done
    exact gone
  case fails =>
    obtain ⟨_, -, done⟩ := bind_ok.mp done
    cases done
    exact gone

end Delivery.OfEvent

/-- Two deliveries of one event under way, among others that take no step. -/
structure Twins (outside : List (Id × Delivery)) (subject : Option Id) (one two : Id) (desk : CaseDesk) : Prop where
  sound : desk.Sound
  stays : ∀ each ∈ outside, each ∈ desk.deliveries
  apart : ∀ each ∈ outside, each.1 ≠ one ∧ each.1 ≠ two
  event : ∀ worker, worker = one ∨ worker = two → ∀ delivery, heldBy desk.deliveries worker = some delivery →
    delivery.OfEvent desk.tables subject

namespace Twins

section
variable (twins : Twins outside subject one two desk) (which : worker = one ∨ worker = two)
include twins which

theorem step (its : taken.worker = some worker)
    (delivers : taken.Delivers subject) (done : desk.step taken = .ok next) : Twins outside subject one two next := by
  have frames := step_frames its done
  refine ⟨twins.sound.step done, fun each there => ?_, twins.apart, fun other each delivery held => ?_⟩
  · refine frames.stay each (twins.stays each there) ?_
    rcases which with rfl | rfl
    · exact (twins.apart each there).1
    · exact (twins.apart each there).2
  · rw [frames.tables]
    by_cases same : other = worker
    · subst same
      exact Delivery.OfEvent.step (twins.event other each) its delivers done delivery held
    · rw [frames.others other same] at held
      exact twins.event other each delivery held

theorem covers (held : heldBy desk.deliveries worker = some delivery) (made : delivery.made ≠ []) :
    ∀ pair ∈ desk.tables.covers subject, pair ∈ (desk.cases ++ delivery.made).map CaseFile.key := by
  have fans := twins.sound.fans _ (mem_of_heldBy held)
  obtain ⟨file, there⟩ := List.exists_mem_of_ne_nil _ made
  have event := twins.event worker which delivery held
  have all : ∀ pair ∈ desk.tables.covers subject, pair ∈ delivery.covered := by
    refine event.all.resolve_left fun none => ?_
    have covered := fans.made file there
    rw [none] at covered
    cases covered
  exact fun pair covered => fans.done pair (all pair covered)

theorem makes_none (held : heldBy desk.deliveries worker = some delivery)
    (full : ∀ pair ∈ desk.tables.covers subject, pair ∈ desk.cases.map CaseFile.key) : delivery.made = [] := by
  refine List.eq_nil_iff_forall_not_mem.mpr fun file there => ?_
  have held_ := mem_of_heldBy held
  have covered := (twins.event worker which delivery held).covered _ ((twins.sound.fans _ held_).made file there)
  have unique := twins.sound.unique.own _ held_
  rw [List.map_append, List.nodup_append] at unique
  have mine : file.key ∈ delivery.inserted.map CaseFile.key := List.mem_map_of_mem (List.mem_append_left _ there)
  exact unique.2.2 _ (full _ covered) _ mine rfl

end

end Twins

theorem take_cons (steps : List CreationStep) : desk.take (taken :: steps) = desk.step taken >>= fun next => next.take steps := List.foldlM_cons

/-- After the first of the two has committed its cases, the rest of the run is as if that one ran alone. -/
theorem alone_after (steps : List CreationStep) (twins : Twins outside subject one two desk)
    (full : ∀ pair ∈ desk.tables.covers subject, pair ∈ desk.cases.map CaseFile.key) (mirrors : Mirrors outside worker desk alone)
    (ours : ∀ taken ∈ steps, (taken.worker = some one ∨ taken.worker = some two) ∧ taken.Delivers subject) (done : desk.take steps = .ok after) :
    ∃ final, alone.take (stepsOf worker steps) = .ok final ∧ final.cases = after.cases := by
  induction steps generalizing desk alone with
  | nil =>
    cases done
    exact ⟨alone, rfl, mirrors.cases⟩
  | cons taken rest ih =>
    rw [take_cons] at done
    obtain ⟨next, stepped, done⟩ := bind_ok.mp done
    obtain ⟨⟨mover, its, which⟩, delivers⟩ : (∃ mover, taken.worker = some mover ∧ (mover = one ∨ mover = two)) ∧ taken.Delivers subject := by
      obtain ⟨its | its, delivers⟩ := ours taken List.mem_cons_self
      · exact ⟨⟨one, its, .inl rfl⟩, delivers⟩
      · exact ⟨⟨two, its, .inr rfl⟩, delivers⟩
    have frames := step_frames its stepped
    have still : next.cases = desk.cases := by
      rcases step_opens its stepped with same | ⟨delivery, held, made, -⟩
      · exact same
      · exact absurd (twins.makes_none which held full) made
    have later : ∀ taken ∈ rest, (taken.worker = some one ∨ taken.worker = some two) ∧ taken.Delivers subject :=
      fun taken there => ours taken (List.mem_cons_of_mem _ there)
    have filled : ∀ pair ∈ next.tables.covers subject, pair ∈ next.cases.map CaseFile.key := by
      rw [frames.tables, still]
      exact full
    by_cases mine : worker = mover
    · subst mine
      obtain ⟨afterwards, ran, mirrored⟩ := mirrors.step twins.stays its stepped
      obtain ⟨final, finished, same⟩ := ih (twins.step which its delivers stepped) filled mirrored later done
      refine ⟨final, ?_, same⟩
      rw [stepsOf_own its, take_cons, ran]
      exact finished
    · rw [stepsOf_other its mine]
      exact ih (twins.step which its delivers stepped) filled (mirrors.frame frames mine still) later done

/-- Two deliveries of one event at once leave the cases one of them leaves alone. -/
theorem as_one (steps : List CreationStep) (both : Id → CaseDesk) (twins : Twins outside subject one two desk)
    (mirrors : ∀ worker, worker = one ∨ worker = two → Mirrors outside worker desk (both worker))
    (ours : ∀ taken ∈ steps, (taken.worker = some one ∨ taken.worker = some two) ∧ taken.Delivers subject) (done : desk.take steps = .ok after) :
    ∃ worker final, (worker = one ∨ worker = two) ∧ (both worker).take (stepsOf worker steps) = .ok final ∧
      final.cases = after.cases := by
  induction steps generalizing desk both with
  | nil =>
    cases done
    exact ⟨one, both one, .inl rfl, rfl, (mirrors one (.inl rfl)).cases⟩
  | cons taken rest ih =>
    rw [take_cons] at done
    obtain ⟨next, stepped, done⟩ := bind_ok.mp done
    obtain ⟨⟨mover, its, which⟩, delivers⟩ : (∃ mover, taken.worker = some mover ∧ (mover = one ∨ mover = two)) ∧ taken.Delivers subject := by
      obtain ⟨its | its, delivers⟩ := ours taken List.mem_cons_self
      · exact ⟨⟨one, its, .inl rfl⟩, delivers⟩
      · exact ⟨⟨two, its, .inr rfl⟩, delivers⟩
    have frames := step_frames its stepped
    have later : ∀ taken ∈ rest, (taken.worker = some one ∨ taken.worker = some two) ∧ taken.Delivers subject :=
      fun taken there => ours taken (List.mem_cons_of_mem _ there)
    obtain ⟨afterwards, ran, mirrored⟩ := (mirrors mover which).step twins.stays its stepped
    have mine : ∀ {final : CaseDesk}, afterwards.take (stepsOf mover rest) = .ok final →
        (both mover).take (stepsOf mover (taken :: rest)) = .ok final := by
      intro final finished
      rw [stepsOf_own its, take_cons, ran]
      exact finished
    rcases step_opens its stepped with still | ⟨delivery, held, made, opened⟩
    · have onward : ∀ worker, worker = one ∨ worker = two →
          Mirrors outside worker next (if worker = mover then afterwards else both worker) := by
        intro worker each
        split
        · rename_i same
          subst same
          exact mirrored
        · rename_i apart
          exact (mirrors worker each).frame frames apart still
      obtain ⟨worker, final, each, finished, same⟩ :=
        ih (fun worker => if worker = mover then afterwards else both worker) (twins.step which its delivers stepped) onward later done
      refine ⟨worker, final, each, ?_, same⟩
      by_cases moved : worker = mover
      · subst moved
        rw [if_pos rfl] at finished
        exact mine finished
      · rw [if_neg moved] at finished
        rw [stepsOf_other its moved]
        exact finished
    · have full : ∀ pair ∈ next.tables.covers subject, pair ∈ next.cases.map CaseFile.key := by
        rw [frames.tables, opened]
        exact twins.covers which held made
      obtain ⟨final, finished, same⟩ := alone_after rest (twins.step which its delivers stepped) full mirrored later done
      exact ⟨mover, final, which, mine finished, same⟩

end Concurrent

/-- One case per bank and change: for exactly what the rule has covered, one each; no delivery touches a case that is there; and two deliveries of
one event at once leave what one of them leaves. -/
structure CaseDesk.OneCaseEach (desk : CaseDesk) : Prop where
  count : ∀ pair, (desk.cases.map CaseFile.key).count pair = if pair ∈ desk.covered then 1 else 0
  untouched : ∀ taken worker next, taken.worker = some worker → desk.step taken = .ok next → ∃ opened, next.cases = desk.cases ++ opened
  asOne : ∀ subject one two steps after, heldBy desk.deliveries one = none → heldBy desk.deliveries two = none →
    (∀ taken ∈ steps, (taken.worker = some one ∨ taken.worker = some two) ∧ taken.Delivers subject) → desk.take steps = .ok after →
      ∃ worker alone, (worker = one ∨ worker = two) ∧ desk.take (stepsOf worker steps) = .ok alone ∧ alone.cases = after.cases

theorem CaseDesk.Sound.oneCaseEach (sound : desk.Sound) : desk.OneCaseEach where
  count := by
    intro pair
    split
    · rename_i covered
      exact List.count_eq_one_of_mem sound.unique.committed ((sound.covered pair).mp covered)
    · rename_i uncovered
      exact List.count_eq_zero.mpr fun there => uncovered ((sound.covered pair).mpr there)
  untouched := fun _ _ _ its done => (step_frames its done).cases
  asOne := by
    intro subject one two steps after first second ours done
    have outside : ∀ each ∈ desk.deliveries, each.1 ≠ one ∧ each.1 ≠ two :=
      fun each there => ⟨heldBy_eq_none.mp first each there, heldBy_eq_none.mp second each there⟩
    have event : ∀ worker, worker = one ∨ worker = two → ∀ delivery, heldBy desk.deliveries worker = some delivery →
        delivery.OfEvent desk.tables subject := by
      rintro worker (rfl | rfl) delivery held
      · rw [first] at held
        cases held
      · rw [second] at held
        cases held
    have mirrors : ∀ worker, worker = one ∨ worker = two → Mirrors desk.deliveries worker desk desk :=
      fun _ _ => ⟨rfl, rfl, rfl, fun _ there => .inr there⟩
    exact as_one steps (fun _ => desk) ⟨sound, fun _ there => there, outside, event⟩ mirrors ours done

/-- In every run of deliveries, redeliveries, registrations and whatever else commits between them. -/
theorem run_oneCaseEach (tables : CaseTables) (steps : List CreationStep) : (run CaseDesk.step { tables } steps).OneCaseEach :=
  (run_invariant (CaseDesk.Sound.initial tables) (fun _ _ _ sound => sound.step) steps).oneCaseEach

end Grc.Cases
