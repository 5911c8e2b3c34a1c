import Grc.Proposals.Wording

/-! The approvals that reword a row or a term, each as the rewordings it makes. -/
namespace Grc.Proposals

open Grc.Shared Grc.Lib Grc.Library

variable {Rule : Type} {platform : Platform Rule}

def labelPieces (labels : Dict String) : List Piece := labels.keys.map .label

def notePieces (usageNote : Option String) : List Piece := usageNote.toList.map fun _ => .usageNote

/-- Whose wording is what, with the primary keys that tell it apart. -/
structure Authored (records : Records) (log : Log) : Prop where
  holders : ((wording records).map (·.holder)).Nodup
  below : ∀ worded ∈ wording records, worded.holder.id < records.nextId
  logged : ∀ writing ∈ log, writing.1.1.id < records.nextId
  sound : ∀ worded ∈ wording records, worded.Sound log

variable {records before after : Records} {log : Log} {reviewer : Reviewer} {pieces : List Piece} {was : Worded}
  {holder : Holder} {row other : ListRow} {term : Term} {labels : Dict String} {filed : Filed}

theorem mem_rewriting {writing : (Holder × Piece) × OriginType} (written : writing ∈ rewriting holder pieces reviewer) :
    writing.1.1 = holder := by
  obtain ⟨piece, -, same⟩ := List.mem_map.mp (Authors.mem_wrote written)
  rw [← same]

namespace Authored

theorem grows (authored : Authored before log) (grows : Grows before after) : Authored after log := by
  obtain ⟨same, further⟩ := grows
  obtain ⟨holders, below, logged, sound⟩ := authored
  constructor
  · rw [same]
    exact holders
  · intro worded member
    rw [same] at member
    exact Nat.lt_of_lt_of_le (below worded member) further
  · exact fun writing written => Nat.lt_of_lt_of_le (logged writing written) further
  · rw [same]
    exact sound

theorem reword (authored : Authored before log) (writes : pieces ≠ []) (there : was ∈ wording before)
    (completes : reviewer.agentId = none → was.Completes log pieces) (same : after.nextId = before.nextId)
    (holders : (wording after).map (·.holder) = (wording before).map (·.holder))
    (reworded : ∀ worded ∈ wording after, (worded ∈ wording before ∧ worded.holder ≠ was.holder) ∨
      Rewords reviewer pieces was worded) :
    Authored after (log ++ rewriting was.holder pieces reviewer) := by
  constructor
  · rw [holders]
    exact authored.holders
  · intro worded member
    rw [same]
    rcases reworded worded member with ⟨kept, -⟩ | rewords
    · exact authored.below worded kept
    · rw [rewords.holder]
      exact authored.below was there
  · intro writing written
    rw [same]
    rcases List.mem_append.mp written with earlier | now
    · exact authored.logged writing earlier
    · rw [mem_rewriting now]
      exact authored.below was there
  · intro worded member
    rcases reworded worded member with ⟨kept, apart⟩ | rewords
    · apply (authored.sound worded kept).frame
      intro writing written
      rw [mem_rewriting written]
      exact apart.symm
    · exact rewords.sound writes (authored.sound was there) completes

theorem unwritten (authored : Authored before log) (fresh : holder.id = before.nextId) (labels : List Translation) :
    Worded.Sound log { holder, labels } := by
  have none : ∀ piece, log.lastBy (holder, piece) = none := by
    intro piece
    apply Authors.lastBy_of_not_mem
    intro writing written same
    have below := authored.logged writing written
    rw [same, fresh] at below
    exact lt_irrefl _ below
  constructor
  · intro label _ last
    rw [none] at last
    cases last
  · intro _ piece _
    rw [none]
    nofun

theorem add (authored : Authored before log) (stale : List Translation) (writes : pieces ≠ [])
    (fresh : holder.id = before.nextId) (same : after.nextId = before.nextId + 1)
    (holders : ((wording after).map (·.holder)).Perm (holder :: (wording before).map (·.holder)))
    (reworded : ∀ worded ∈ wording after, worded ∈ wording before ∨
      Rewords reviewer pieces { holder, labels := stale } worded) :
    Authored after (log ++ rewriting holder pieces reviewer) := by
  have apart : ∀ worded ∈ wording before, worded.holder ≠ holder := by
    rintro worded member rfl
    have below := authored.below worded member
    rw [fresh] at below
    exact lt_irrefl _ below
  constructor
  · rw [holders.nodup_iff, List.nodup_cons, List.mem_map]
    refine ⟨?_, authored.holders⟩
    rintro ⟨worded, member, named⟩
    exact apart worded member named
  · intro worded member
    rw [same]
    rcases reworded worded member with kept | rewords
    · exact Nat.lt_succ_of_lt (authored.below worded kept)
    · rw [rewords.holder, fresh]
      exact Nat.lt_succ_self _
  · intro writing written
    rw [same]
    rcases List.mem_append.mp written with earlier | now
    · exact Nat.lt_succ_of_lt (authored.logged writing earlier)
    · rw [mem_rewriting now, fresh]
      exact Nat.lt_succ_self _
  · intro worded member
    rcases reworded worded member with kept | rewords
    · apply (authored.sound worded kept).frame
      intro writing written
      rw [mem_rewriting written]
      exact (apart worded kept).symm
    · exact rewords.sound writes (authored.unwritten fresh stale) fun _ _ => nofun

theorem row_unique (authored : Authored records log) (there : row ∈ records.rows) (here : other ∈ records.rows)
    (same : row.id = other.id) : row = other := by
  have holders := authored.holders
  rw [wording, List.map_append, List.map_map, List.map_map] at holders
  exact List.inj_on_of_nodup_map holders.of_append_left there here (congrArg Holder.row same)

theorem term_unique (authored : Authored records log) {other : Term} (there : term ∈ records.terms)
    (here : other ∈ records.terms) (same : term.id = other.id) : term = other := by
  have holders := authored.holders
  rw [wording, List.map_append, List.map_map, List.map_map] at holders
  exact List.inj_on_of_nodup_map holders.of_append_right there here (congrArg Holder.term same)

end Authored

section Labels

variable {held : List Translation} {id : Id} {label : Translation}

theorem get_none_iff {language : String} : labels.get language = none ↔ language ∉ labels.keys := by
  rw [Dict.get, Option.map_eq_none_iff, List.find?_eq_none]
  constructor
  · intro absent member
    obtain ⟨text, listed⟩ := Dict.mem_keys.mp member
    exact absent (language, text) listed (beq_self_eq_true _)
  · intro missing entry listed same
    apply missing
    rw [← beq_iff_eq.mp same]
    exact List.mem_map_of_mem listed

theorem mem_writeLabels (member : label ∈ (writeLabels held id labels reviewer).filter (·.holder == id)) :
    (label.language ∈ labels.keys ∧ label.isMachine = reviewer.agentId.isSome) ∨
      (label.language ∉ labels.keys ∧ label ∈ held.filter (·.holder == id)) := by
  obtain ⟨listed, own⟩ := List.mem_filter.mp member
  rcases List.mem_append.mp listed with rewritten | added
  · obtain ⟨old, there, same⟩ := List.mem_map.mp rewritten
    by_cases mine : old.holder = id
    · rw [if_pos mine] at same
      cases text : labels.get old.language with
      | none =>
        rw [text] at same
        rw [← same]
        exact .inr ⟨get_none_iff.mp text, List.mem_filter.mpr ⟨there, beq_iff_eq.mpr mine⟩⟩
      | some written =>
        rw [text] at same
        rw [← same]
        refine .inl ⟨?_, rfl⟩
        by_contra missing
        rw [get_none_iff.mpr missing] at text
        cases text
    · rw [if_neg mine] at same
      rw [← same] at own
      exact absurd (beq_iff_eq.mp own) mine
  · obtain ⟨entry, there, rfl⟩ := List.mem_map.mp added
    exact .inl ⟨List.mem_map_of_mem (List.mem_of_mem_filter there), rfl⟩

theorem writeLabels_keeps (there : label ∈ held.filter (·.holder == id)) :
    label.language ∈ labels.keys ∨ label ∈ (writeLabels held id labels reviewer).filter (·.holder == id) := by
  by_cases written : label.language ∈ labels.keys
  · exact .inl written
  · obtain ⟨listed, own⟩ := List.mem_filter.mp there
    refine .inr (List.mem_filter.mpr ⟨List.mem_append_left _ (List.mem_map.mpr ⟨label, listed, ?_⟩), own⟩)
    rw [if_pos (beq_iff_eq.mp own), get_none_iff.mpr written]

theorem writeLabels_other {other : Id} (apart : other ≠ id) :
    (writeLabels held id labels reviewer).filter (·.holder == other) = held.filter (·.holder == other) := by
  unfold writeLabels
  rw [List.filter_append]
  refine (congrArg₂ (· ++ ·) ?_ ?_).trans (List.append_nil _)
  · rw [List.filter_map]
    rw [List.filter_congr fun label _ => ?_, List.map_congr_left, List.map_id]
    · intro label member
      have foreign : label.holder ≠ id := fun mine => apart ((beq_iff_eq.mp (List.mem_filter.mp member).2).symm.trans mine)
      rw [if_neg foreign]
      rfl
    · by_cases mine : label.holder = id
      · rw [Function.comp_apply, if_pos mine]
        split
        · rfl
        · rfl
      · rw [Function.comp_apply, if_neg mine]
  · apply List.filter_eq_nil_iff.mpr
    intro label member same
    obtain ⟨entry, -, rfl⟩ := List.mem_map.mp member
    exact apart (beq_iff_eq.mp same).symm

end Labels

theorem mem_labelPieces {language : String} : Piece.label language ∈ labelPieces labels ↔ language ∈ labels.keys := by
  simp [labelPieces]

theorem restamp_origin (held : Confirmation) (usageNote : String) (labels : List Translation) (noted : Bool)
    (filed : Filed) (reviewer : Reviewer) :
    (restamp held usageNote labels noted filed reviewer).verifiedOrigin = some .agent ∨
      (reviewer.agentId = none ∧ ¬(held.verifiedOrigin = some .agent ∧
        (labels.any (·.isMachine) = true ∨ (usageNote ≠ "" ∧ noted = false)))) := by
  unfold restamp
  split
  · rename_i kept
    exact .inl kept.2.1
  · rename_i stamped
    cases agent : reviewer.agentId with
    | some id =>
      left
      rw [confirmation, verifiedOrigin, agent]
      rfl
    | none => exact .inr ⟨rfl, fun held => stamped ⟨agent, held⟩⟩

theorem restamp_person {held : Confirmation} {usageNote : String} {labels : List Translation} {noted : Bool}
    (person : reviewer.agentId = none)
    (cleared : ¬(labels.any (·.isMachine) = true ∨ (usageNote ≠ "" ∧ noted = false))) :
    (restamp held usageNote labels noted filed reviewer).verifiedOrigin = some .user := by
  have stamps : ¬(reviewer.agentId = none ∧ held.verifiedOrigin = some .agent ∧
      (labels.any (·.isMachine) = true ∨ (usageNote ≠ "" ∧ noted = false))) := fun held => cleared held.2.2
  rw [restamp, if_neg stamps, confirmation, verifiedOrigin, person]
  rfl

def writtenPieces (labels : Dict String) (note : Option String) (columns : List String) : List Piece :=
  labelPieces labels ++ notePieces note ++ columns.map .column

variable {note : Option String} {columns : List String}

theorem label_mem_written {language : String} :
    Piece.label language ∈ writtenPieces labels note columns ↔ language ∈ labels.keys := by
  rw [writtenPieces, List.mem_append, List.mem_append, mem_labelPieces, or_assoc]
  apply or_iff_left
  simp [notePieces]

theorem note_mem_written : Piece.usageNote ∈ writtenPieces labels note columns ↔ note.isSome = true := by
  cases note with
  | none => simp [writtenPieces, labelPieces, notePieces]
  | some text => simp [writtenPieces, notePieces]

theorem column_mem_written {column : String} : Piece.column column ∈ writtenPieces labels note columns ↔ column ∈ columns := by
  simp [writtenPieces, labelPieces, notePieces]

theorem writtenPieces_eq_nil : writtenPieces labels note columns = [] ↔ labels = [] ∧ note = none ∧ columns = [] := by
  simp [writtenPieces, labelPieces, notePieces, Dict.keys, and_assoc]

theorem rewords_of_written (filed : Filed) (held : Confirmation) {was now : Worded} {translations : List Translation} {id : Id}
    (holder : now.holder = was.holder) (before : was.labels = translations.filter (·.holder == id))
    (after : now.labels = (writeLabels translations id labels reviewer).filter (·.holder == id))
    (noted : now.usageNote = note.getD was.usageNote) (columned : ∀ column ∈ now.columns, column ∈ columns ∨ column ∈ was.columns)
    (stamp : was.stamp = held.verifiedOrigin)
    (stamped : now.stamp = (restamp held now.usageNote now.labels note.isSome filed reviewer).verifiedOrigin) :
    Rewords reviewer (writtenPieces labels note columns) was now := by
  constructor
  · exact holder
  · intro translation member
    rw [after] at member
    rw [label_mem_written, before]
    exact mem_writeLabels member
  · intro translation member
    rw [before] at member
    rw [after, label_mem_written]
    exact writeLabels_keeps member
  · rw [note_mem_written]
    cases note with
    | none => exact .inr noted
    | some text => exact .inl rfl
  · intro column member
    rw [column_mem_written]
    exact columned column member
  · rw [note_mem_written, Bool.not_eq_true, stamp, stamped]
    exact restamp_origin held now.usageNote now.labels note.isSome filed reviewer

end Grc.Proposals
