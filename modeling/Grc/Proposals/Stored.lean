import Grc.Lib.Lists
import Grc.Proposals.Filing

/-! What a body is stored as: the checks read the library and the day, and may refuse; what they
store they take from the body alone. -/
namespace Grc.Proposals

open Grc.Shared Grc.Lib Grc.Library

variable {Rule : Type} {platform : Platform Rule} {records other : Records} {zone : Option Id}

theorem validatedLabels_ok {labels stored : Dict String} {maxChars : Option Nat}
    (checked : validatedLabels records labels maxChars = .ok stored) : stored = cleanedLabels labels := by
  simp only [validatedLabels, bind_ok, Except.ok.injEq] at checked
  obtain ⟨-, -, -, -, -, -, rfl⟩ := checked
  rfl

theorem validatedScope_ok {refs : Option (List String)} {stored : Option (List String) × List Term}
    (checked : validatedScope records refs = .ok stored) : stored.1 = refs.map List.eraseDups := by
  match refs with
  | none =>
    rw [validatedScope, Except.ok.injEq] at checked
    rw [← checked]
    rfl
  | some [] =>
    rw [validatedScope, Except.ok.injEq] at checked
    rw [← checked]
    rfl
  | some (ref :: rest) =>
    simp only [validatedScope, bind_ok, Except.ok.injEq] at checked
    obtain ⟨-, -, -, -, rfl⟩ := checked
    rfl

theorem validatedVersion_ok {payload : ObligationVersionPayload} {stored : ObligationVersionPayload × List Term}
    (checked : validatedVersion platform records payload = .ok stored) :
    stored.1 = { payload with summaries := cleanedLabels payload.summaries
                              terms := payload.terms.map List.eraseDups } := by
  simp only [validatedVersion, bind_ok, Except.ok.injEq] at checked
  obtain ⟨summaries, labels, -, -, -, -, -, -, scope, terms, rfl⟩ := checked
  rw [validatedLabels_ok labels, validatedScope_ok terms]

theorem validatedInstrument_ok {payload : InstrumentPayload} {stored : InstrumentPayload × InstrumentRefs × Term}
    (checked : validatedInstrument platform records zone payload = .ok stored) :
    stored.1 = { payload with titles := cleanedLabels payload.titles } := by
  simp only [validatedInstrument, bind_ok, Except.ok.injEq] at checked
  obtain ⟨titles, labels, -, -, -, -, -, -, -, -, -, -, -, -, refs, -, regime, -, rfl⟩ := checked
  rw [validatedLabels_ok labels]

variable {owner : Option Id}

theorem validatedObligation_ok {payload : ObligationPayload}
    {stored : ObligationPayload × Instrument × List Term}
    (checked : validatedObligation platform records zone payload owner = .ok stored) :
    stored.1 = { payload with titles := cleanedLabels payload.titles, summaries := cleanedLabels payload.summaries
                              terms := payload.terms.map List.eraseDups } := by
  simp only [validatedObligation, bind_ok, Except.ok.injEq] at checked
  obtain ⟨titles, labels, -, -, version, summaries, -, -, instrument, -, -, -, rfl⟩ := checked
  rw [validatedLabels_ok labels, validatedVersion_ok summaries]
  rfl

theorem validatedTexts_ok {texts stored : Dict String} {language precision : String}
    (checked : validatedTexts platform records texts language precision = .ok stored) :
    stored = cleanedLabels texts := by
  simp only [validatedTexts, bind_ok, Except.ok.injEq] at checked
  obtain ⟨cleaned, labels, -, -, -, -, -, -, rfl⟩ := checked
  exact validatedLabels_ok labels

theorem validatedProvision_ok {payload : ProvisionPayload}
    {stored : ProvisionPayload × Instrument × Option Provision × ListRow}
    (checked : validatedProvision platform records zone payload = .ok stored) :
    stored.1 = { payload with texts := cleanedLabels payload.texts } := by
  simp only [validatedProvision, bind_ok, Except.ok.injEq] at checked
  obtain ⟨texts, labels, -, -, instrument, -, -, -, parent, -, kind, -, rfl⟩ := checked
  rw [validatedTexts_ok labels]

theorem validated_ok {dateutil : Dateutil Rule} {cap : Nat} {rule stored : String} {start : Day}
    (checked : validated dateutil cap rule start = .ok stored) : normalised rule = .ok stored := by
  simp only [validated, bind_ok] at checked
  obtain ⟨-, -, -, -, -, -, spelled⟩ := checked
  exact spelled

theorem validatedRecurringDuty_ok {today : Day} {payload : RecurringDutyPayload}
    {stored : RecurringDutyPayload × Option Authority}
    (checked : validatedRecurringDuty platform records today payload = .ok stored) :
    ∃ rule, normalised payload.recurrenceRule = .ok rule ∧
      stored.1 = { payload with title := strip payload.title, recurrenceRule := rule } := by
  simp only [validatedRecurringDuty, bind_ok, Except.ok.injEq] at checked
  obtain ⟨-, -, rule, spelled, authority, -, rfl⟩ := checked
  exact ⟨rule, validated_ok spelled, rfl⟩

theorem validatedControl_ok {payload stored : ControlPayload}
    (checked : validatedControl records payload owner = .ok stored) :
    stored = { payload with name := strip payload.name, reference := strip payload.reference } := by
  simp only [validatedControl, bind_ok, Except.ok.injEq] at checked
  obtain ⟨-, -, tenant, -, -, -, rfl⟩ := checked
  rfl

variable {entry : VocabularyList}

variable {kind : ProposalKind}

theorem checkedProvisionVersion_ok {payload stored : ProvisionVersionPayload}
    (checked : checkedProvisionVersion platform records payload = .ok stored) :
    stored = { payload with texts := cleanedLabels payload.texts } := by
  simp only [checkedProvisionVersion, bind_ok, Except.ok.injEq] at checked
  obtain ⟨texts, cleaned, rfl⟩ := checked
  rw [validatedTexts_ok cleaned]

end Grc.Proposals

/-! A payload is stored in its one spelling: the check that stored it, made again at any later library and day, leaves it as it is. -/
namespace Grc.Proposals

open Grc.Shared Grc.Lib Grc.Library

variable {Rule : Type} {platform : Platform Rule} {records other : Records} {zone otherZone : Option Id}

theorem strip_strip (text : String) : strip (strip text) = strip text := by
  simp only [strip, String.toList_ofList]
  congr 1
  have front : ((text.toList.dropWhile isSpace).rdropWhile isSpace).dropWhile isSpace =
      (text.toList.dropWhile isSpace).rdropWhile isSpace := by
    rw [List.dropWhile_eq_self_iff]
    intro filled
    have lead : (text.toList.dropWhile isSpace).rdropWhile isSpace <+: text.toList.dropWhile isSpace := List.rdropWhile_prefix _ _
    have longer : 0 < (text.toList.dropWhile isSpace).length := Nat.lt_of_lt_of_le filled lead.length_le
    rw [lead.getElem filled]
    exact List.dropWhile_get_zero_not _ _ longer
  rw [front, List.rdropWhile_idempotent]

theorem cleanedLabels_cleanedLabels (labels : Dict String) : cleanedLabels (cleanedLabels labels) = cleanedLabels labels := by
  have filled : ∀ label ∈ cleanedLabels labels, (strip label.2 != "") = true := by
    intro label there
    obtain ⟨first, kept, rfl⟩ := List.mem_map.mp there
    rw [strip_strip]
    exact (List.mem_filter.mp kept).2
  have same : ∀ label ∈ cleanedLabels labels, (label.1, strip label.2) = label := by
    intro label there
    obtain ⟨first, -, rfl⟩ := List.mem_map.mp there
    rw [strip_strip]
  rw [cleanedLabels, List.filter_eq_self.mpr filled]
  exact (List.map_congr_left same).trans (List.map_id _)

section Scopes
variable {Ref : Type} [BEq Ref] [LawfulBEq Ref]

theorem map_eraseDups_twice (refs : Option (List Ref)) :
    (refs.map List.eraseDups).map List.eraseDups = refs.map List.eraseDups := by
  cases refs with
  | none => rfl
  | some refs => exact congrArg some (eraseDups_of_nodup (nodup_eraseDups refs))

end Scopes

section Rules
variable {letter : Char} {rule text : String}

theorem allowed_plain (plain : allowed letter = true) : isSpace letter = false ∧ upper letter = [letter] ∧ letter ≠ ':' := by
  have low : letter.toNat < 128 := by
    unfold allowed at plain
    delta Char.isUpper at plain
    simp only [Char.isDigit, Bool.or_eq_true, Bool.and_eq_true, decide_eq_true_eq, List.mem_cons,
      List.not_mem_nil, or_false, ge_iff_le, UInt32.le_iff_toNat_le] at plain
    have code : letter.toNat = letter.val.toNat := rfl
    have last : 'Z'.val.toNat = 90 := rfl
    have nine : '9'.val.toNat = 57 := rfl
    rcases plain with (capital | digit) | rfl | rfl | rfl | rfl | rfl
    · omega
    · omega
    all_goals decide
  have each : ∀ code : Fin 128, allowed (Char.ofNat code) = true →
      isSpace (Char.ofNat code) = false ∧ upper (Char.ofNat code) = [Char.ofNat code] ∧ Char.ofNat code ≠ ':' := by
    decide
  have same : Char.ofNat letter.toNat = letter := Char.ofNat_toNat letter
  have its := each ⟨letter.toNat, low⟩
  rw [same] at its
  exact its plain

theorem spelled_plain {letters : List Char} (plain : letters.all allowed = true) : spelled (String.ofList letters) = letters := by
  have each : ∀ letter ∈ letters, allowed letter = true := List.all_eq_true.mp plain
  have front : letters.dropWhile isSpace = letters := by
    rw [List.dropWhile_eq_self_iff]
    intro filled
    rw [(allowed_plain (each _ (List.getElem_mem filled))).1]
    decide
  have back : letters.rdropWhile isSpace = letters := by
    rw [List.rdropWhile_eq_self_iff]
    intro filled
    rw [(allowed_plain (each _ (List.getLast_mem filled))).1]
    decide
  have uppers : letters.flatMap upper = letters := by
    have singles : letters.flatMap upper = letters.flatMap fun letter => [letter] :=
      List.flatMap_congr fun letter there => (allowed_plain (each letter there)).2.1
    rw [singles, List.flatMap_singleton']
  have whole : "RRULE:".toList.isPrefixOf letters = false := by
    by_contra led
    rw [Bool.not_eq_false, List.isPrefixOf_iff_prefix] at led
    have colon : ':' ∈ letters := led.subset (by decide)
    exact (allowed_plain (each _ colon)).2.2 rfl
  have inside : (String.ofList letters).toList = letters := String.toList_ofList
  rw [spelled, inside, front, back, uppers, withoutPrefix, whole]
  rfl

theorem normalised_normalised (stored : normalised rule = .ok text) : normalised text = .ok text := by
  simp only [normalised, bind_ok, require_ok, Except.ok.injEq] at stored ⊢
  obtain ⟨_, plain, _, listed, _, frequency, _, counts, _, ends, rfl⟩ := stored
  rw [spelled_plain plain.2.2]
  exact ⟨(), plain, (), listed, (), frequency, (), counts, (), ends, rfl⟩

end Rules

/-- What was checked once and is checked again is stored as it is, where its fields are sourced. -/
theorem validateTarget_again {today later : Day} {kind : ProposalKind} {owner otherOwner : Option Id}
    {payload stored again : Payload} (first : validateTarget platform records zone today kind owner payload = .ok stored) (sourced : sourcedFields stored ≠ [])
    (second : validateTarget platform other otherZone later kind otherOwner stored = .ok again) : again = stored := by
  cases payload with
  | obligationVersion payload =>
    obtain ⟨one, checked, rfl⟩ := map_ok.mp first
    obtain ⟨two, twice, rfl⟩ := map_ok.mp second
    rw [validatedVersion_ok twice, validatedVersion_ok checked, cleanedLabels_cleanedLabels, map_eraseDups_twice]
  | instrument payload =>
    obtain ⟨one, checked, rfl⟩ := map_ok.mp first
    obtain ⟨two, twice, rfl⟩ := map_ok.mp second
    rw [validatedInstrument_ok twice, validatedInstrument_ok checked, cleanedLabels_cleanedLabels]
  | obligation payload =>
    obtain ⟨one, checked, rfl⟩ := map_ok.mp first
    obtain ⟨two, twice, rfl⟩ := map_ok.mp second
    rw [validatedObligation_ok twice, validatedObligation_ok checked, cleanedLabels_cleanedLabels, cleanedLabels_cleanedLabels,
      map_eraseDups_twice]
  | provision payload =>
    obtain ⟨one, checked, rfl⟩ := map_ok.mp first
    obtain ⟨two, twice, rfl⟩ := map_ok.mp second
    rw [validatedProvision_ok twice, validatedProvision_ok checked, cleanedLabels_cleanedLabels]
  | provisionVersion payload =>
    obtain ⟨one, checked, rfl⟩ := map_ok.mp first
    obtain ⟨two, twice, rfl⟩ := map_ok.mp second
    rw [checkedProvisionVersion_ok twice, checkedProvisionVersion_ok checked, cleanedLabels_cleanedLabels]
  | recurringDuty payload =>
    obtain ⟨one, checked, rfl⟩ := map_ok.mp first
    obtain ⟨two, twice, rfl⟩ := map_ok.mp second
    obtain ⟨rule, spelled, stored⟩ := validatedRecurringDuty_ok checked
    obtain ⟨rule', spelled', stored'⟩ := validatedRecurringDuty_ok twice
    rw [stored] at spelled' stored'
    have same : rule' = rule := Except.ok.inj (spelled'.symm.trans (normalised_normalised spelled))
    rw [stored', stored, same, strip_strip]
  | control payload =>
    obtain ⟨one, checked, rfl⟩ := map_ok.mp first
    obtain ⟨two, twice, rfl⟩ := map_ok.mp second
    rw [validatedControl_ok twice, validatedControl_ok checked, strip_strip, strip_strip]
  | _ =>
    obtain ⟨one, -, rfl⟩ := map_ok.mp first
    exact absurd rfl sourced

end Grc.Proposals
