import Grc.Proposals.Apply

/-! What the approved rows of a batch leave of the library: each record's scope as its row recorded
it, and every other record's as it was. -/
namespace Grc.Proposals

open Grc.Shared Grc.Lib Grc.Library

variable {Rule : Type} {platform : Platform Rule} {now : Now} {zone : Option Id}
variable {records after : Records} {added : List Term} {row : BatchRow} {rows : List BatchRow}

def Ready (records : Records) (added : List Term) (row : BatchRow) : Prop :=
  ∀ ref ∈ row.after, ref ∈ records.scope row.subjectId ∨ ∃ term ∈ added, records.refOf term = ref

theorem mem_gone {id : Id} : id ∈ ((records.scopeTerms row.subjectId).filter fun entry =>
    !row.after.contains entry.1).map Prod.snd ↔
      ∃ ref, (ref, id) ∈ records.scopeTerms row.subjectId ∧ ref ∉ row.after := by
  constructor
  · intro member
    obtain ⟨⟨ref, other⟩, held, rfl⟩ := List.mem_map.mp member
    obtain ⟨there, off⟩ := List.mem_filter.mp held
    refine ⟨ref, there, ?_⟩
    simpa using off
  · intro held
    obtain ⟨ref, there, off⟩ := held
    exact List.mem_map.mpr ⟨(ref, id), List.mem_filter.mpr ⟨there, by simpa using off⟩, rfl⟩

theorem mem_fresh {term : Term} : term ∈ (row.after.filter fun ref =>
    !(records.scopeTerms row.subjectId).has ref).filterMap (fun ref => added.find? fun term => records.refOf term == ref) ↔
      ∃ ref ∈ row.after, ref ∉ records.scope row.subjectId ∧
        added.find? (fun term => records.refOf term == ref) = some term := by
  rw [List.mem_filterMap]
  constructor
  · intro found
    obtain ⟨ref, offered, named⟩ := found
    obtain ⟨wanted, new⟩ := List.mem_filter.mp offered
    refine ⟨ref, wanted, ?_, named⟩
    intro held
    rw [Dict.has_iff.mpr held] at new
    cases new
  · intro found
    obtain ⟨ref, wanted, new, named⟩ := found
    refine ⟨ref, List.mem_filter.mpr ⟨wanted, ?_⟩, named⟩
    rw [Bool.not_eq_true', ← Bool.not_eq_true, Dict.has_iff]
    exact new

theorem mem_relink {link : ObligationTerm} : link ∈ (relink added row records).obligationTerms ↔
    (link ∈ records.obligationTerms ∧
      ¬(link.obligation = row.subjectId ∧
        ∃ ref, (ref, link.term) ∈ records.scopeTerms row.subjectId ∧ ref ∉ row.after)) ∨
    ∃ term, link = { obligation := row.subjectId, term := term.id } ∧
      ∃ ref ∈ row.after, ref ∉ records.scope row.subjectId ∧
        added.find? (fun term => records.refOf term == ref) = some term := by
  simp only [relink, List.mem_append, List.mem_filter, List.mem_map, mem_fresh]
  apply or_congr
  · apply and_congr_right
    intro _
    rw [Bool.not_eq_true', ← Bool.not_eq_true, Bool.and_eq_true, beq_iff_eq, List.contains_iff_mem, mem_gone]
  · constructor
    · intro held
      obtain ⟨term, found, rfl⟩ := held
      exact ⟨term, rfl, found⟩
    · intro held
      obtain ⟨term, rfl, found⟩ := held
      exact ⟨term, found, rfl⟩

theorem relink_scope (coherent : records.Coherent) (known : ∀ term ∈ added, term ∈ records.terms)
    (ready : Ready records added row) (ordered : row.after.Pairwise (· < ·)) :
    (relink added row records).scope row.subjectId = row.after := by
  have kept : (relink added row records).Coherent := coherent.congr rfl rfl
  refine eq_of_ordered (Records.scope_ordered _ _) ordered fun ref => ?_
  rw [kept.mem_scope]
  constructor
  · intro linked
    obtain ⟨term, there, named, link⟩ := linked
    have written : records.refOf term = ref := named
    rcases mem_relink.mp link with ⟨old, stays⟩ | ⟨other, same, wanted, asked, -, found⟩
    · by_contra off
      have held : ref ∈ records.scope row.subjectId := coherent.mem_scope.mpr ⟨term, there, written, old⟩
      obtain ⟨id, entry⟩ := Dict.mem_keys.mp held
      rw [← written] at entry
      have one : id = term.id := coherent.get there entry
      rw [one, written] at entry
      exact stays ⟨rfl, ref, entry, off⟩
    · have one : other = term := by
        apply List.inj_on_of_nodup_map coherent.ids (known other (List.mem_of_find?_eq_some found)) there
        exact (congrArg ObligationTerm.term same).symm
      have spelled : records.refOf other = wanted := by
        have named := List.find?_some found
        exact beq_iff_eq.mp named
      rw [← written, ← one, spelled]
      exact asked
  · intro asked
    by_cases held : ref ∈ records.scope row.subjectId
    · obtain ⟨term, there, written, link⟩ := coherent.mem_scope.mp held
      refine ⟨term, there, written, mem_relink.mpr (.inl ⟨link, ?_⟩)⟩
      intro dropped
      obtain ⟨-, other, entry, off⟩ := dropped
      obtain ⟨second, present, same, -⟩ := Records.mem_scopeTerms entry
      obtain ⟨spelled, ids⟩ := Prod.mk.inj same
      have one : term = second := List.inj_on_of_nodup_map coherent.ids there present ids
      exact off (by rw [spelled, ← one, written]; exact asked)
    · obtain ⟨term, member, written⟩ := (ready ref asked).resolve_left held
      cases found : added.find? fun term => records.refOf term == ref with
      | none =>
        have absent := List.find?_eq_none.mp found term member
        exact absurd (beq_iff_eq.mpr written) absent
      | some other =>
        have spelled : records.refOf other = ref := by
          have named := List.find?_some found
          exact beq_iff_eq.mp named
        refine ⟨other, known other (List.mem_of_find?_eq_some found), spelled, ?_⟩
        exact mem_relink.mpr (.inr ⟨other, rfl, ref, asked, held, found⟩)

theorem relink_other {obligation : Id} (apart : obligation ≠ row.subjectId) :
    (relink added row records).scopeTerms obligation = records.scopeTerms obligation := by
  refine Records.scopeTerms_congr rfl rfl ?_
  have foreign (link : ObligationTerm) (own : link.obligation = obligation) : (link.obligation == row.subjectId) = false := by
    rw [beq_eq_false_iff_ne, own]
    exact apart
  simp only [relink, List.filter_append, List.filter_filter]
  have none (fresh : List Term) : (fresh.map fun term => ({ obligation := row.subjectId, term := term.id } :
      ObligationTerm)).filter (·.obligation == obligation) = [] := by
    rw [List.filter_eq_nil_iff]
    intro link member
    obtain ⟨term, -, rfl⟩ := List.mem_map.mp member
    rw [beq_iff_eq]
    exact fun same => apart same.symm
  rw [none, List.append_nil]
  apply List.filter_congr
  intro link _
  by_cases own : link.obligation = obligation
  · simp [foreign link own]
  · simp [own]

theorem relink_each {event : BatchRow → AuditEvent} (coherent : records.Coherent)
    (known : ∀ term ∈ added, term ∈ records.terms) (apart : (rows.map BatchRow.subjectId).Nodup)
    (ready : ∀ row ∈ rows, Ready records added row) (ordered : ∀ row ∈ rows, row.after.Pairwise (· < ·))
    {answer : PUnit} (done : (Tx.each rows fun row => do
      audited (event row)
      Tx.write (relink added row)).execute records = (.ok answer, after)) :
    after.rows = records.rows ∧ after.terms = records.terms ∧ after.obligations = records.obligations ∧
      (∀ row ∈ rows, after.scope row.subjectId = row.after) ∧
      ∀ id, id ∉ rows.map BatchRow.subjectId → after.scopeTerms id = records.scopeTerms id := by
  induction rows generalizing records with
  | nil =>
    rw [(Tx.pure_ok.mp done).2]
    exact ⟨rfl, rfl, rfl, by simp, fun _ _ => rfl⟩
  | cons first rest ih =>
    obtain ⟨new, later⟩ := List.nodup_cons.mp apart
    have chain : ((audited (event first) >>= fun _ => Tx.write (relink added first)) >>= fun _ =>
        Tx.each rest fun row => do
          audited (event row)
          Tx.write (relink added row)).execute records = (.ok answer, after) := done
    obtain ⟨_, middle, step, rest'⟩ := Tx.bind_ok.mp chain
    rw [audited, Tx.write_bind_ok, Tx.write_ok] at step
    have rowsSame : middle.rows = records.rows := by rw [step]; rfl
    have termsSame : middle.terms = records.terms := by rw [step]; rfl
    have obligationsSame : middle.obligations = records.obligations := by rw [step]; rfl
    have own : middle.scope first.subjectId = first.after := by
      rw [step]
      exact relink_scope (coherent.congr rfl rfl) known (ready first List.mem_cons_self)
        (ordered first List.mem_cons_self)
    have others {id : Id} (foreign : id ≠ first.subjectId) : middle.scopeTerms id = records.scopeTerms id := by
      rw [step]
      exact relink_other foreign
    have unlike {row : BatchRow} (member : row ∈ rest) : row.subjectId ≠ first.subjectId :=
      fun same => new (same ▸ List.mem_map_of_mem member)
    have readied : ∀ row ∈ rest, Ready middle added row := by
      intro row member ref asked
      rw [Records.scope, others (unlike member)]
      rcases ready row (List.mem_cons_of_mem first member) ref asked with held | ⟨term, among, named⟩
      · exact .inl held
      · exact .inr ⟨term, among, (Records.refOf_congr rowsSame term).trans named⟩
    obtain ⟨rows', terms', obligations', scopes, untouched⟩ := ih (coherent.congr rowsSame termsSame)
      (fun term member => termsSame ▸ known term member) later readied
      (fun row member => ordered row (List.mem_cons_of_mem first member)) rest'
    refine ⟨rows'.trans rowsSame, terms'.trans termsSame, obligations'.trans obligationsSame, ?_, ?_⟩
    · intro row member
      rcases List.mem_cons.mp member with rfl | further
      · rw [Records.scope, untouched row.subjectId new]
        exact own
      · exact scopes row further
    · intro id absent
      rw [List.map_cons, List.mem_cons, not_or] at absent
      rw [untouched id absent.2, others absent.1]

theorem reindex_each {answer : PUnit}
    (done : (Tx.each rows fun row => reindex now row.subjectId).execute records = (.ok answer, after)) :
    ∃ reindexed, after = { records with reindexed } := by
  induction rows generalizing records with
  | nil => exact ⟨records.reindexed, (Tx.pure_ok.mp done).2⟩
  | cons first rest ih =>
    have chain : (reindex now first.subjectId >>= fun _ =>
        Tx.each rest fun row => reindex now row.subjectId).execute records = (.ok answer, after) := done
    obtain ⟨_, middle, step, later⟩ := Tx.bind_ok.mp chain
    rw [reindex, Tx.check_bind_ok] at step
    obtain ⟨_, -, step⟩ := step
    rw [Tx.write_ok.mp step] at later
    obtain ⟨reindexed, rfl⟩ := ih later
    exact ⟨reindexed, rfl⟩

theorem check_each {State Refused Item : Type} {items : List Item} {checked : Item → State → Except Refused Unit}
    {state after : State} {answer : PUnit}
    (done : (Tx.each items fun item => Tx.check (checked item)).execute state = (.ok answer, after)) :
    after = state := by
  induction items with
  | nil => exact (Tx.pure_ok.mp done).2
  | cons first rest ih =>
    have chain : (Tx.check (checked first) >>= fun _ =>
        Tx.each rest fun item => Tx.check (checked item)).execute state = (.ok answer, after) := done
    obtain ⟨_, -, later⟩ := Tx.check_bind_ok.mp chain
    exact ih later

theorem rowScope_ok {scope : List Id} (resolved : rowScope records added row = .ok scope) :
    (∃ obligation, records.activeSharedObligation row.subjectId = some obligation) ∧
      records.scope row.subjectId = row.before ∧ Ready records added row := by
  simp only [rowScope, bind_ok, demand_ok, require_ok] at resolved
  obtain ⟨obligation, found, _, recorded, terms⟩ := resolved
  have same : obligation.id = row.subjectId := by
    have named := List.find?_some found
    simp only [Bool.and_eq_true, beq_iff_eq] at named
    exact named.1.1
  rw [same] at recorded terms
  refine ⟨⟨obligation, found⟩, ?_, ?_⟩
  · rw [← recorded]
    exact ((Dict.ordered_ofList _).sorted_keys).symm
  · intro ref asked
    obtain ⟨id, resolved⟩ := mapM_ok terms ref asked
    rw [demand_ok, Option.or_eq_some_iff] at resolved
    rcases resolved with held | ⟨-, found⟩
    · obtain ⟨entry, there, -⟩ := Option.map_eq_some_iff.mp held
      have named : entry.1 = ref := by
        have named := List.find?_some there
        exact beq_iff_eq.mp named
      exact .inl (named ▸ Dict.mem_keys.mpr ⟨entry.2, List.mem_of_find?_eq_some there⟩)
    · obtain ⟨term, there, -⟩ := Option.map_eq_some_iff.mp found
      have named := List.find?_some there
      exact .inr ⟨term, List.mem_of_find?_eq_some there, beq_iff_eq.mp named⟩

theorem addedTerms_ok (found : addedTerms records rows = .ok added) : ∀ term ∈ added, term ∈ records.terms := by
  unfold addedTerms at found
  dsimp only at found
  split at found
  · simp only [bind_ok, Except.ok.injEq] at found
    obtain ⟨_, rfl, -, -, rfl⟩ := found
    simp
  · simp only [bind_ok, Except.ok.injEq] at found
    obtain ⟨_, resolved, -, -, rfl⟩ := found
    exact Records.termsOf_ok resolved

theorem obligationScope_ok {payload : ObligationScopePayload} {filed : Filed} {actor : Actor} {stepUp : Option Id}
    {answer : Unit} (coherent : records.Coherent) (apart : (rows.map BatchRow.subjectId).Nodup)
    (ordered : ∀ row ∈ rows, row.after.Pairwise (· < ·))
    (done : (obligationScope platform now zone payload rows filed actor stepUp).execute records =
      (.ok answer, after)) :
    (∀ row ∈ rows, after.scope row.subjectId = row.after) ∧
      ∀ id, id ∉ rows.map BatchRow.subjectId → after.scopeTerms id = records.scopeTerms id := by
  simp only [obligationScope, Tx.check_bind_ok, Except.ok.injEq] at done
  obtain ⟨added, found, scopes, resolved, rest⟩ := done
  obtain ⟨_, checked, standards, rest⟩ := Tx.bind_ok.mp rest
  have unmoved : checked = records := check_each standards
  rw [unmoved, Tx.check_bind_ok] at rest
  obtain ⟨_, -, rest⟩ := rest
  obtain ⟨_, written, links, rest⟩ := Tx.bind_ok.mp rest
  obtain ⟨reindexed, rfl⟩ := reindex_each rest
  have ready : ∀ row ∈ rows, Ready records added row := by
    intro row member
    obtain ⟨scope, resolves⟩ := mapM_ok resolved row member
    exact (rowScope_ok resolves).2.2
  obtain ⟨-, -, -, scopes, untouched⟩ := relink_each coherent (addedTerms_ok found) apart ready ordered links
  exact ⟨scopes, untouched⟩

end Grc.Proposals
