import Grc.Proposals.VersionDesk

/-! The version numbers of the library's records over whole runs of approvals, in any overlap. -/
namespace Grc.Proposals

open Grc.Shared Grc.Lib Grc.Library

variable {Rule : Type} {platform : Platform Rule} {records before after : Records} {filed : Filed} {actor : Actor} {reviewer : Reviewer}
  {stepUp : Option Id} {now : Now} {answer : Unit} {record other : Versioned} {number : Nat}

/-- The versions of every record are numbered from 1, and every key on the shelf was drawn. -/
structure Shelved (records : Records) : Prop where
  numbered : ∀ record, Numbered Version.number (history records record)
  versions : ∀ row ∈ records.versions, row.id < records.nextId ∧ row.obligation < records.nextId
  provisionVersions : ∀ row ∈ records.provisionVersions, row.id < records.nextId ∧ row.provision < records.nextId
  obligations : ∀ id ∈ records.obligations.map (·.id), id < records.nextId
  provisions : ∀ id ∈ records.provisions.map (·.id), id < records.nextId

/-- One more version of one record: every other is as it was. -/
structure Files (before after : Records) (record : Versioned) (number : Nat) : Prop where
  filed : ∃ version : Version, version.number = number ∧ history after record = history before record ++ [version]
  others : ∀ other, other ≠ record → history after other = history before other

theorem history_sealed (kept : Sealed before after) (record : Versioned) : history after record = history before record := by
  have same := kept.shelf
  simp only [shelf, Shelf.mk.injEq] at same
  obtain ⟨versions, summaries, provisionVersions, provisionTexts, -, -⟩ := same
  cases record with
  | obligation id => rw [history, history, versions, summaries]
  | provision id => rw [history, history, provisionVersions, provisionTexts]

theorem Shelved.kept (shelved : Shelved before) (kept : Sealed before after) : Shelved after := by
  have same := kept.shelf
  simp only [shelf, Shelf.mk.injEq] at same
  obtain ⟨versions, -, provisionVersions, -, obligations, provisions⟩ := same
  have below : ∀ {id : Id}, id < before.nextId → id < after.nextId := fun drawn => Nat.lt_of_lt_of_le drawn kept.nextId
  constructor
  · intro record
    rw [history_sealed kept]
    exact shelved.numbered record
  · rw [versions]
    exact fun row there => ⟨below (shelved.versions row there).1, below (shelved.versions row there).2⟩
  · rw [provisionVersions]
    exact fun row there => ⟨below (shelved.provisionVersions row there).1, below (shelved.provisionVersions row there).2⟩
  · rw [obligations]
    exact fun id there => below (shelved.obligations id there)
  · rw [provisions]
    exact fun id there => below (shelved.provisions id there)

section Append
variable {Row : Type} {owner : Row → Id} {view : List Translation → Row → Version} {rows : List Row} {row : Row}
  {texts new : List Translation}

theorem listed_append (kept : ∀ old ∈ rows, view (texts ++ new) old = view texts old) (id : Id) :
    ((rows ++ [row]).filter (owner · == id)).map (view (texts ++ new)) =
      (rows.filter (owner · == id)).map (view texts) ++ if owner row = id then [view (texts ++ new) row] else [] := by
  have olds : (rows.filter (owner · == id)).map (view (texts ++ new)) = (rows.filter (owner · == id)).map (view texts) :=
    List.map_congr_left fun old there => kept old (List.mem_filter.mp there).1
  rw [List.filter_append, List.map_append, olds]
  congr 1
  by_cases mine : owner row = id
  · simp [mine]
  · simp [mine]

end Append

theorem texts_append {texts new : List Translation} {old id : Id} (new_ : ∀ text ∈ new, text.holder = id) (other : old ≠ id) :
    (texts ++ new).filter (·.holder == old) = texts.filter (·.holder == old) := by
  rw [List.filter_append, List.append_right_eq_self, List.filter_eq_nil_iff]
  intro text there held
  exact other ((beq_iff_eq.mp held).symm.trans (new_ text there))

/-- A version of an obligation, put on the shelf. -/
structure FilesObligation (before after : Records) (row : ObligationVersion) : Prop where
  versions : after.versions = before.versions ++ [row]
  summaries : ∃ texts, (∀ text ∈ texts, text.holder = row.id) ∧ after.summaries = before.summaries ++ texts
  provisionVersions : after.provisionVersions = before.provisionVersions
  provisionTexts : after.provisionTexts = before.provisionTexts
  provisions : after.provisions.map (·.id) = before.provisions.map (·.id)
  obligations : ∀ id ∈ after.obligations.map (·.id), id ∈ before.obligations.map (·.id) ∨ before.nextId ≤ id ∧ id < after.nextId
  fresh : before.nextId ≤ row.id ∧ row.id < after.nextId
  drawn : row.obligation < after.nextId

/-- A version of a provision, put on the shelf. -/
structure FilesProvision (before after : Records) (row : ProvisionVersion) : Prop where
  provisionVersions : after.provisionVersions = before.provisionVersions ++ [row]
  provisionTexts : ∃ texts, (∀ text ∈ texts, text.holder = row.id) ∧ after.provisionTexts = before.provisionTexts ++ texts
  versions : after.versions = before.versions
  summaries : after.summaries = before.summaries
  obligations : after.obligations.map (·.id) = before.obligations.map (·.id)
  provisions : ∀ id ∈ after.provisions.map (·.id), id ∈ before.provisions.map (·.id) ∨ before.nextId ≤ id ∧ id < after.nextId
  fresh : before.nextId ≤ row.id ∧ row.id < after.nextId
  drawn : row.provision < after.nextId

theorem FilesObligation.files {row : ObligationVersion} (files : FilesObligation before after row) (shelved : Shelved before) :
    Files before after (.obligation row.obligation) row.versionNumber := by
  obtain ⟨texts, held, summaries⟩ := files.summaries
  have kept : ∀ id, history after (.obligation id) = history before (.obligation id) ++
      if row.obligation = id then [obligationView after.summaries row] else [] := by
    intro id
    rw [history, history, files.versions, summaries]
    refine listed_append ?_ id
    intro old there
    have apart : old.id ≠ row.id := Nat.ne_of_lt (Nat.lt_of_lt_of_le (shelved.versions old there).1 files.fresh.1)
    simp only [obligationView, texts_append held apart]
  constructor
  · exact ⟨_, rfl, (kept row.obligation).trans (by rw [if_pos rfl])⟩
  · intro other apart
    cases other with
    | obligation id =>
      have another : row.obligation ≠ id := fun same => apart (congrArg _ same.symm)
      rw [kept, if_neg another, List.append_nil]
    | provision id => rw [history, history, files.provisionVersions, files.provisionTexts]

theorem FilesProvision.files {row : ProvisionVersion} (files : FilesProvision before after row) (shelved : Shelved before) :
    Files before after (.provision row.provision) row.versionNumber := by
  obtain ⟨texts, held, provisionTexts⟩ := files.provisionTexts
  have kept : ∀ id, history after (.provision id) = history before (.provision id) ++
      if row.provision = id then [provisionView after.provisionTexts row] else [] := by
    intro id
    rw [history, history, files.provisionVersions, provisionTexts]
    refine listed_append ?_ id
    intro old there
    have apart : old.id ≠ row.id := Nat.ne_of_lt (Nat.lt_of_lt_of_le (shelved.provisionVersions old there).1 files.fresh.1)
    simp only [provisionView, texts_append held apart]
  constructor
  · exact ⟨_, rfl, (kept row.provision).trans (by rw [if_pos rfl])⟩
  · intro other apart
    cases other with
    | provision id =>
      have another : row.provision ≠ id := fun same => apart (congrArg _ same.symm)
      rw [kept, if_neg another, List.append_nil]
    | obligation id => rw [history, history, files.versions, files.summaries]

theorem FilesObligation.sealed {middle : Records} {row : ObligationVersion} (files : FilesObligation before middle row)
    (kept : Sealed middle after) : FilesObligation before after row := by
  have same := kept.shelf
  simp only [shelf, Shelf.mk.injEq] at same
  obtain ⟨versions, summaries, provisionVersions, provisionTexts, obligations, provisions⟩ := same
  have below : ∀ {id : Id}, id < middle.nextId → id < after.nextId := fun drawn => Nat.lt_of_lt_of_le drawn kept.nextId
  constructor
  · exact versions.trans files.versions
  · obtain ⟨texts, held, its⟩ := files.summaries
    exact ⟨texts, held, summaries.trans its⟩
  · exact provisionVersions.trans files.provisionVersions
  · exact provisionTexts.trans files.provisionTexts
  · exact provisions.trans files.provisions
  · intro id there
    rw [obligations] at there
    exact (files.obligations id there).imp_right fun drawn => ⟨drawn.1, below drawn.2⟩
  · exact ⟨files.fresh.1, below files.fresh.2⟩
  · exact below files.drawn

theorem FilesProvision.sealed {middle : Records} {row : ProvisionVersion} (files : FilesProvision before middle row)
    (kept : Sealed middle after) : FilesProvision before after row := by
  have same := kept.shelf
  simp only [shelf, Shelf.mk.injEq] at same
  obtain ⟨versions, summaries, provisionVersions, provisionTexts, obligations, provisions⟩ := same
  have below : ∀ {id : Id}, id < middle.nextId → id < after.nextId := fun drawn => Nat.lt_of_lt_of_le drawn kept.nextId
  constructor
  · exact provisionVersions.trans files.provisionVersions
  · obtain ⟨texts, held, its⟩ := files.provisionTexts
    exact ⟨texts, held, provisionTexts.trans its⟩
  · exact versions.trans files.versions
  · exact summaries.trans files.summaries
  · exact obligations.trans files.obligations
  · intro id there
    rw [provisions] at there
    exact (files.provisions id there).imp_right fun drawn => ⟨drawn.1, below drawn.2⟩
  · exact ⟨files.fresh.1, below files.fresh.2⟩
  · exact below files.drawn

section Specs
variable {Answer : Type} {given : Answer}

theorem FilesObligation.rest {tx : Writing Answer} {middle : Records} {row : ObligationVersion}
    (done : tx.execute middle = (.ok given, after)) (tail : tx.Keeps Sealed) (files : FilesObligation before middle row) :
    FilesObligation before after row :=
  files.sealed (tail.ok done)

theorem FilesProvision.rest {tx : Writing Answer} {middle : Records} {row : ProvisionVersion}
    (done : tx.execute middle = (.ok given, after)) (tail : tx.Keeps Sealed) (files : FilesProvision before middle row) :
    FilesProvision before after row :=
  files.sealed (tail.ok done)

theorem translations_holder {holder : Id} {texts : Dict String} {original : String} {isMachine : Bool} {text : Translation}
    (there : text ∈ translations holder texts original isMachine reviewer) : text.holder = holder := by
  obtain ⟨_, -, rfl⟩ := List.mem_map.mp there
  rfl

theorem writeObligation_files {payload : ObligationPayload} {instrument : Instrument} {terms : List Term} {dutyType : ListRow}
    (done : (writeObligation now filed actor reviewer stepUp payload instrument terms dutyType).execute before = (.ok answer, after)) :
    ∃ row : ObligationVersion, FilesObligation before after row ∧ row.versionNumber = 1 ∧ row.obligation = before.nextId := by
  simp only [writeObligation, created_bind_ok, Tx.write_bind_ok] at done
  refine ⟨_, FilesObligation.rest done ?tail ⟨rfl, ⟨_, fun _ => translations_holder, rfl⟩, rfl, rfl, rfl, ?ids, ?fresh, ?drawn⟩,
    ?number, ?own⟩
  case number => rfl
  case own => rfl
  case ids =>
    intro id there
    rw [List.map_append, List.mem_append] at there
    refine there.imp_right fun its => ?_
    obtain rfl := List.mem_singleton.mp its
    exact ⟨Nat.le_refl _, Nat.lt_succ_of_lt (Nat.lt_succ_self _)⟩
  case fresh => exact ⟨Nat.le_succ _, Nat.lt_succ_self _⟩
  case drawn => exact Nat.lt_succ_of_lt (Nat.lt_succ_self _)
  case tail =>
    split
    · exact .bind (reindex_sealed _) fun _ => audited_sealed _
    · exact audited_sealed _

theorem writeObligationVersion_files {payload : ObligationVersionPayload} {obligation : Obligation} {terms : List Term}
    {last : Option Nat} (drawn : obligation.id < before.nextId)
    (done : (writeObligationVersion now filed actor reviewer stepUp payload obligation terms last).execute before = (.ok answer, after)) :
    ∃ row : ObligationVersion, FilesObligation before after row ∧ row.versionNumber = last.getD 0 + 1 ∧
      row.obligation = obligation.id := by
  simp only [writeObligationVersion, Tx.check_bind_ok, created_bind_ok, Tx.write_bind_ok] at done
  obtain ⟨_, -, done⟩ := done
  refine ⟨_, FilesObligation.rest done ?tail ⟨rfl, ⟨_, fun _ => translations_holder, rfl⟩, rfl, rfl, rfl, ?ids, ?fresh, ?drawn⟩,
    ?number, ?own⟩
  case number => rfl
  case own => rfl
  case ids => exact fun id there => .inl there
  case fresh => exact ⟨Nat.le_refl _, Nat.lt_succ_self _⟩
  case drawn => exact Nat.lt_succ_of_lt drawn
  case tail => exact .bind (reindex_sealed _) fun _ => .bind (.check _) fun _ => audited_sealed _

theorem fileProvisionVersion_files {provision : Id} {number : Nat} {payload : ProvisionVersionPayload} {version : Id}
    (drawn : provision < before.nextId)
    (done : (fileProvisionVersion now provision number payload filed reviewer).execute before = (.ok version, after)) :
    ∃ row : ProvisionVersion, FilesProvision before after row ∧ row.versionNumber = number ∧ row.provision = provision := by
  simp only [fileProvisionVersion, created_bind_ok, Tx.write_bind_ok] at done
  refine ⟨_, FilesProvision.rest done ?tail ⟨rfl, ⟨_, fun _ => translations_holder, rfl⟩, rfl, rfl, rfl, ?ids, ?fresh, ?drawn⟩,
    ?number, ?own⟩
  case number => rfl
  case own => rfl
  case ids => exact fun id there => .inl there
  case fresh => exact ⟨Nat.le_refl _, Nat.lt_succ_self _⟩
  case drawn => exact Nat.lt_succ_of_lt drawn
  case tail => exact .bind (reindex_sealed _) fun _ => .pure _

theorem writeProvision_files {payload : ProvisionPayload} {instrument : Instrument} {parent : Option Provision} {kind : ListRow}
    (done : (writeProvision now filed actor reviewer stepUp payload instrument parent kind).execute before = (.ok answer, after)) :
    ∃ row : ProvisionVersion, FilesProvision before after row ∧ row.versionNumber = 1 ∧ row.provision = before.nextId := by
  simp only [writeProvision, created_bind_ok] at done
  obtain ⟨version, middle, files, logs⟩ := Tx.bind_ok.mp done
  obtain ⟨row, files, number, own⟩ := fileProvisionVersion_files (Nat.lt_succ_self _) files
  refine ⟨row, FilesProvision.sealed ?_ ((audited_sealed _).ok logs), number, own⟩
  constructor
  · exact files.provisionVersions
  · exact files.provisionTexts
  · exact files.versions
  · exact files.summaries
  · exact files.obligations
  · intro id there
    rcases files.provisions id there with old | drawn
    · rw [List.map_append, List.mem_append] at old
      refine old.imp_right fun its => ?_
      obtain rfl := List.mem_singleton.mp its
      exact ⟨Nat.le_refl _, own ▸ files.drawn⟩
    · exact .inr ⟨Nat.le_of_succ_le drawn.1, drawn.2⟩
  · exact ⟨Nat.le_of_succ_le files.fresh.1, files.fresh.2⟩
  · exact files.drawn

theorem writeProvisionVersion_files {payload : ProvisionVersionPayload} {provision : Provision} {last : Option Nat}
    (drawn : provision.id < before.nextId)
    (done : (writeProvisionVersion now filed actor reviewer stepUp payload provision last).execute before = (.ok answer, after)) :
    ∃ row : ProvisionVersion, FilesProvision before after row ∧ row.versionNumber = last.getD 0 + 1 ∧ row.provision = provision.id := by
  rw [writeProvisionVersion] at done
  obtain ⟨version, middle, files, logs⟩ := Tx.bind_ok.mp done
  obtain ⟨row, files, number, own⟩ := fileProvisionVersion_files drawn files
  exact ⟨row, files.sealed ((audited_sealed _).ok logs), number, own⟩

end Specs

theorem highest_numbered {Row : Type} {number : Row → Nat} {rows : List Row} (numbered : Numbered number rows) :
    (highest (rows.map number)).getD 0 = rows.length := by
  rw [numbered]
  cases rows with
  | nil => rfl
  | cons row rest =>
    rw [List.length_cons, List.range'_succ, highest, foldl_max_range', Option.getD_some, Nat.add_comm]

theorem highest_obligation {id : Id} (numbered : Numbered Version.number (history records (.obligation id))) :
    (highest ((records.versions.filter (·.obligation == id)).map (·.versionNumber))).getD 0 =
      (history records (.obligation id)).length := by
  have same : (records.versions.filter (·.obligation == id)).map (·.versionNumber) =
      (history records (.obligation id)).map Version.number := by
    rw [history, List.map_map]
    rfl
  rw [same, highest_numbered numbered]

theorem highest_provision {id : Id} (numbered : Numbered Version.number (history records (.provision id))) :
    (highest ((records.provisionVersions.filter (·.provision == id)).map (·.versionNumber))).getD 0 =
      (history records (.provision id)).length := by
  have same : (records.provisionVersions.filter (·.provision == id)).map (·.versionNumber) =
      (history records (.provision id)).map Version.number := by
    rw [history, List.map_map]
    rfl
  rw [same, highest_numbered numbered]

theorem Shelved.undrawn (shelved : Shelved records) {record : Versioned} (fresh : record.id = records.nextId) :
    history records record = [] := by
  cases record with
  | obligation id =>
    refine List.map_eq_nil_iff.mpr (List.filter_eq_nil_iff.mpr fun row there its => ?_)
    exact Nat.ne_of_lt (shelved.versions row there).2 ((beq_iff_eq.mp its).trans fresh)
  | provision id =>
    refine List.map_eq_nil_iff.mpr (List.filter_eq_nil_iff.mpr fun row there its => ?_)
    exact Nat.ne_of_lt (shelved.provisionVersions row there).2 ((beq_iff_eq.mp its).trans fresh)

theorem Files.numbered (files : Files before after record number) (next : number = (history before record).length + 1)
    (numbered : ∀ record, Numbered Version.number (history before record)) (other : Versioned) :
    Numbered Version.number (history after other) := by
  by_cases same : other = record
  · subst same
    obtain ⟨version, given, filed⟩ := files.filed
    rw [filed]
    exact (numbered other).append (given.trans next)
  · rw [files.others other same]
    exact numbered other

theorem FilesObligation.shelved {row : ObligationVersion} (files : FilesObligation before after row) (shelved : Shelved before)
    (next : row.versionNumber = (history before (.obligation row.obligation)).length + 1) : Shelved after := by
  have onward : before.nextId ≤ after.nextId := Nat.le_trans files.fresh.1 files.fresh.2.le
  have below : ∀ {id : Id}, id < before.nextId → id < after.nextId := fun drawn => Nat.lt_of_lt_of_le drawn onward
  constructor
  · exact (files.files shelved).numbered next shelved.numbered
  · rw [files.versions]
    intro each there
    rcases mem_concat.mp there with old | rfl
    · exact ⟨below (shelved.versions each old).1, below (shelved.versions each old).2⟩
    · exact ⟨files.fresh.2, files.drawn⟩
  · rw [files.provisionVersions]
    exact fun each there => ⟨below (shelved.provisionVersions each there).1, below (shelved.provisionVersions each there).2⟩
  · exact fun id there => (files.obligations id there).elim (fun old => below (shelved.obligations id old)) fun drawn => drawn.2
  · rw [files.provisions]
    exact fun id there => below (shelved.provisions id there)

theorem FilesProvision.shelved {row : ProvisionVersion} (files : FilesProvision before after row) (shelved : Shelved before)
    (next : row.versionNumber = (history before (.provision row.provision)).length + 1) : Shelved after := by
  have onward : before.nextId ≤ after.nextId := Nat.le_trans files.fresh.1 files.fresh.2.le
  have below : ∀ {id : Id}, id < before.nextId → id < after.nextId := fun drawn => Nat.lt_of_lt_of_le drawn onward
  constructor
  · exact (files.files shelved).numbered next shelved.numbered
  · rw [files.versions]
    exact fun each there => ⟨below (shelved.versions each there).1, below (shelved.versions each there).2⟩
  · rw [files.provisionVersions]
    intro each there
    rcases mem_concat.mp there with old | rfl
    · exact ⟨below (shelved.provisionVersions each old).1, below (shelved.provisionVersions each old).2⟩
    · exact ⟨files.fresh.2, files.drawn⟩
  · rw [files.obligations]
    exact fun id there => below (shelved.obligations id there)
  · exact fun id there => (files.provisions id there).elim (fun old => below (shelved.provisions id old)) fun drawn => drawn.2

/-- What an approval adds to the versions: the next one of the record it locked, or the first of a new record. -/
structure Adds (approved : Approved) (before after : Records) : Prop where
  shelved : Shelved after
  onward : before.nextId ≤ after.nextId
  files : ∃ record, (approved.locks = some record ∨ approved.locks = none ∧ record.id = before.nextId) ∧
    Files before after record ((history before record).length + 1)

section Planned
variable {approved : Approved} {seen : Records} {writing : Writing Unit}

theorem activeObligation_ok {id : Id} {obligation : Obligation} (found : seen.activeObligation id = .ok obligation) :
    obligation.id = id ∧ id ∈ seen.obligations.map (·.id) := by
  simp only [Records.activeObligation, bind_ok, demand_ok, Except.ok.injEq] at found
  obtain ⟨row, found, _, -, rfl⟩ := found
  have its := List.find?_some found
  rw [Bool.and_eq_true, beq_iff_eq] at its
  exact ⟨its.1, its.1 ▸ List.mem_map_of_mem (List.mem_of_find?_eq_some found)⟩

theorem activeProvision_ok {id : Id} {provision : Provision} {instrument : Instrument}
    (found : seen.activeProvision id = .ok (provision, instrument)) : provision.id = id ∧ id ∈ seen.provisions.map (·.id) := by
  simp only [Records.activeProvision, bind_ok, demand_ok, Except.ok.injEq, Prod.mk.injEq] at found
  obtain ⟨row, found, _, -, _, -, rfl, -⟩ := found
  have its := List.find?_some found
  rw [beq_iff_eq] at its
  exact ⟨its, its ▸ List.mem_map_of_mem (List.mem_of_find?_eq_some found)⟩

/-- The writes a plan goes on to, with the record it locked and the highest number it read of it. -/
inductive PlannedWriting (approved : Approved) (seen : Records) : Writing Unit → Prop
  | obligation (payload : ObligationPayload) (instrument : Instrument) (terms : List Term) (dutyType : ListRow) (refused : Refusal)
      (unlocked : approved.locks = none) :
      PlannedWriting approved seen (keyFree (·.obligations.map (·.stableKey)) payload.key refused >>= fun _ =>
        writeObligation approved.now approved.filed approved.actor approved.reviewer approved.stepUp payload instrument terms dutyType)
  | obligationVersion (payload : ObligationVersionPayload) (obligation : Obligation) (terms : List Term)
      (locked : approved.locks = some (.obligation obligation.id)) (there : obligation.id ∈ seen.obligations.map (·.id)) :
      PlannedWriting approved seen (writeObligationVersion approved.now approved.filed approved.actor approved.reviewer approved.stepUp
        payload obligation terms (highest ((seen.versions.filter (·.obligation == obligation.id)).map (·.versionNumber))))
  | provision (payload : ProvisionPayload) (instrument : Instrument) (parent : Option Provision) (kind : ListRow) (refused : Refusal)
      (unlocked : approved.locks = none) :
      PlannedWriting approved seen (keyFree (·.provisions.map (·.stableKey)) payload.key refused >>= fun _ =>
        writeProvision approved.now approved.filed approved.actor approved.reviewer approved.stepUp payload instrument parent kind)
  | provisionVersion (payload : ProvisionVersionPayload) (provision : Provision)
      (locked : approved.locks = some (.provision provision.id)) (there : provision.id ∈ seen.provisions.map (·.id)) :
      PlannedWriting approved seen (writeProvisionVersion approved.now approved.filed approved.actor approved.reviewer approved.stepUp
        payload provision (highest ((seen.provisionVersions.filter (·.provision == provision.id)).map (·.versionNumber))))

theorem planned_writing (plan : planned platform approved seen = .ok writing) : PlannedWriting approved seen writing := by
  simp only [planned, bind_ok] at plan
  obtain ⟨payload, -, _, -, plan⟩ := plan
  have unlocked : ∀ kind, approved.filed.kind = kind → kind = .newObligation ∨ kind = .newProvision → approved.locks = none := by
    rintro _ rfl creates
    rw [Approved.locks]
    rcases creates with creates | creates <;> rw [creates]
  unfold plannedKind at plan
  split at plan
  case h_1 payload kind =>
    simp only [plannedObligation, bind_ok, Except.ok.injEq] at plan
    obtain ⟨⟨checked, instrument, terms⟩, -, _, -, dutyType, -, rfl⟩ := plan
    exact .obligation checked instrument terms dutyType _ (unlocked _ kind (.inl rfl))
  case h_2 payload kind =>
    simp only [plannedObligationVersion, bind_ok, demand_ok, Except.ok.injEq] at plan
    obtain ⟨target, named, obligation, active, terms, -, instrument, -, _, -, rfl⟩ := plan
    obtain ⟨rfl, there⟩ := activeObligation_ok active
    refine .obligationVersion payload obligation terms ?_ there
    rw [Approved.locks, kind, named]
    rfl
  case h_3 payload kind =>
    simp only [plannedProvision, bind_ok, Except.ok.injEq] at plan
    obtain ⟨⟨checked, instrument, parent, row⟩, -, _, -, rfl⟩ := plan
    exact .provision checked instrument parent row _ (unlocked _ kind (.inr rfl))
  case h_4 payload kind =>
    simp only [plannedProvisionVersion, bind_ok, demand_ok, Except.ok.injEq] at plan
    obtain ⟨target, named, ⟨provision, instrument⟩, active, _, -, rfl⟩ := plan
    obtain ⟨rfl, there⟩ := activeProvision_ok active
    refine .provisionVersion payload provision ?_ there
    rw [Approved.locks, kind, named]
    rfl
  case h_5 => cases plan

theorem planned_target (shelved : Shelved seen) (plan : planned platform approved seen = .ok writing)
    (locked : approved.locks = some record) : record.id < seen.nextId := by
  cases planned_writing plan with
  | obligation _ _ _ _ _ unlocked => rw [unlocked] at locked; cases locked
  | obligationVersion _ obligation _ its there =>
    obtain rfl := Option.some.inj (its.symm.trans locked)
    exact shelved.obligations _ there
  | provision _ _ _ _ _ unlocked => rw [unlocked] at locked; cases locked
  | provisionVersion _ provision its there =>
    obtain rfl := Option.some.inj (its.symm.trans locked)
    exact shelved.provisions _ there

/-- The writes of a plan, made while nothing was filed under the record it locked since it read the highest number. -/
theorem planned_adds (shelved : Shelved before) (plan : planned platform approved seen = .ok writing)
    (held : ∀ record, approved.locks = some record → history seen record = history before record ∧ record.id < before.nextId)
    (done : writing.execute before = (.ok answer, after)) : Adds approved before after := by
  cases planned_writing plan with
  | obligation payload instrument terms dutyType refused unlocked =>
    obtain ⟨_, -, done⟩ := Tx.check_bind_ok.mp done
    obtain ⟨row, files, first, own⟩ := writeObligation_files done
    have none : history before (.obligation row.obligation) = [] := shelved.undrawn own
    have next : row.versionNumber = (history before (.obligation row.obligation)).length + 1 := by rw [first, none]; rfl
    refine ⟨files.shelved shelved next, Nat.le_trans files.fresh.1 files.fresh.2.le, .obligation row.obligation, .inr ⟨unlocked, own⟩, ?_⟩
    exact next ▸ files.files shelved
  | obligationVersion payload obligation terms locked there =>
    obtain ⟨same, drawn⟩ := held _ locked
    obtain ⟨row, files, number, own⟩ := writeObligationVersion_files drawn done
    have next : row.versionNumber = (history before (.obligation row.obligation)).length + 1 := by
      rw [number, own, highest_obligation (same ▸ shelved.numbered _), same]
    refine ⟨files.shelved shelved next, Nat.le_trans files.fresh.1 files.fresh.2.le, .obligation row.obligation, .inl (own ▸ locked), ?_⟩
    exact next ▸ files.files shelved
  | provision payload instrument parent kind refused unlocked =>
    obtain ⟨_, -, done⟩ := Tx.check_bind_ok.mp done
    obtain ⟨row, files, first, own⟩ := writeProvision_files done
    have none : history before (.provision row.provision) = [] := shelved.undrawn own
    have next : row.versionNumber = (history before (.provision row.provision)).length + 1 := by rw [first, none]; rfl
    refine ⟨files.shelved shelved next, Nat.le_trans files.fresh.1 files.fresh.2.le, .provision row.provision, .inr ⟨unlocked, own⟩, ?_⟩
    exact next ▸ files.files shelved
  | provisionVersion payload provision locked there =>
    obtain ⟨same, drawn⟩ := held _ locked
    obtain ⟨row, files, number, own⟩ := writeProvisionVersion_files drawn done
    have next : row.versionNumber = (history before (.provision row.provision)).length + 1 := by
      rw [number, own, highest_provision (same ▸ shelved.numbered _), same]
    refine ⟨files.shelved shelved next, Nat.le_trans files.fresh.1 files.fresh.2.le, .provision row.provision, .inl (own ▸ locked), ?_⟩
    exact next ▸ files.files shelved

end Planned

end Grc.Proposals
