import Grc.Taxonomy.Footprint
import Grc.Lib.Numbering
import Mathlib.Algebra.Ring.Nat

/-! The keys `scope_item_drafts` gives, against every key the bank has or had. The keys in use are
looked up by the base's pattern, so a numbered key whose base was cut to make room for its number is
out of view. -/
namespace Grc.Taxonomy

open Grc.Shared Grc.Lib

variable {reads : FootprintReads} {state : FootprintState}

def FootprintState.itemKeys (state : FootprintState) : List (List Char) := state.scopeItems.map (·.key.toList)

/-- `key__regex`: the pattern over the bases of the names asked for. -/
def patternFinds (reads : FootprintReads) (inputs : List ScopeItemInput) (key : List Char) : Bool :=
  (inputs.map fun entry => keyBase reads entry.name).any (derivedFrom · key)

/-- The numbers that end in `_` and more digits than a key holds start here. -/
def numberLimit : Nat := 10 ^ (scopeItemKeyMaxChars - 1)

/-- What is promised of the keys of a request's items: each its own, within the column, and never one the
bank has or had. -/
structure KeysNew (state : FootprintState) (drafts : List ScopeItemDraft) : Prop where
  once : (drafts.map (·.key)).Nodup
  fits : ∀ draft ∈ drafts, draft.key.length ≤ scopeItemKeyMaxChars
  unused : ∀ draft ∈ drafts, draft.key ∉ state.scopeItems.map (·.key)

/-- No name, numbered past the keys the bank has and those of the names before it, passes a key of the bank
that the pattern does not find, and no number outgrows the column. -/
def KeysInSight (reads : FootprintReads) (state : FootprintState) (inputs : List ScopeItemInput) : Prop :=
  InSight (fun key => key ∈ state.itemKeys ∧ patternFinds reads inputs key = true) (· ∈ state.itemKeys) numberLimit []
    (inputs.map fun entry => candidateKey (keyBase reads entry.name))

/-! ## The numbered forms of a base -/

theorem after_underscore (start ending : List Char) (plain : '_' ∉ ending) :
    (start ++ '_' :: ending).rtakeWhile (· != '_') = ending := by
  rw [List.rtakeWhile, List.reverse_append, List.reverse_cons, List.append_assoc, List.takeWhile_append_of_pos]
  · simp
  · intro letter listed
    have within := List.mem_reverse.mp listed
    simp only [bne_iff_ne]
    rintro rfl
    exact plain within

theorem candidateKey_distinct (base : List Char) (number other : Nat) (second : 2 ≤ number) (alsoSecond : 2 ≤ other)
    (same : candidateKey base number = candidateKey base other) : number = other := by
  have ending : ∀ place, 2 ≤ place → (candidateKey base place).rtakeWhile (· != '_') = Nat.toDigits 10 place := by
    intro place later
    match place, later with
    | place + 2, _ => exact after_underscore _ _ Nat.underscore_not_in_toDigits
  have digits : Nat.toDigits 10 number = Nat.toDigits 10 other := by
    rw [← ending number second, ← ending other alsoSecond, same]
  have value := congrArg (Nat.ofDigitChars 10 · 0) digits
  simpa [Nat.ofDigitChars_toDigits] using value

theorem keyBase_length (reads : FootprintReads) (name : String) : (keyBase reads name).length ≤ scopeItemKeyMaxChars := by
  unfold keyBase
  dsimp only
  split
  · decide
  · next stripped =>
    have shorter := (List.rdropWhile_prefix (· == '_')
      (((reads.slugify name).toList.map fun letter => if letter = '-' then '_' else letter).take scopeItemKeyMaxChars)).length_le
    exact shorter.trans (List.length_take_le _ _)

theorem cutTo_length {most less : Nat} (room : less ≤ most) (letters : List Char) :
    (cutTo letters most less).length ≤ most - less := by
  rw [cutTo, if_pos room]
  exact List.length_take_le _ _

theorem candidateKey_fits {base : List Char} (short : base.length ≤ scopeItemKeyMaxChars) (number : Nat) (counted : 1 ≤ number) :
    (candidateKey base number).length ≤ scopeItemKeyMaxChars ↔ number < numberLimit := by
  match number, counted with
  | 1, _ =>
    have below : 1 < numberLimit := by decide
    exact ⟨fun _ => below, fun _ => short⟩
  | place + 2, _ =>
    have digits : (Nat.toDigits 10 (place + 2)).length ≤ 79 ↔ place + 2 < numberLimit :=
      Nat.length_toDigits_le_iff (by decide) (by decide)
    rw [← digits]
    have stripped := (List.rdropWhile_prefix (· == '_')
      (cutTo base scopeItemKeyMaxChars ((Nat.toDigits 10 (place + 2)).length + 1))).length_le
    simp only [candidateKey, List.length_append, List.length_cons]
    constructor
    · intro fits
      simp only [scopeItemKeyMaxChars] at fits
      omega
    · intro below
      have room : (Nat.toDigits 10 (place + 2)).length + 1 ≤ scopeItemKeyMaxChars := by
        simp only [scopeItemKeyMaxChars]
        omega
      have cut := cutTo_length room base
      omega

/-! ## The loop over the keys in use -/

theorem freeKey_stops (taken : List (List Char)) (base : List Char) (tries number : Nat) :
    ∃ place, number ≤ place ∧ freeKey taken base tries number = candidateKey base place ∧
      (∀ earlier, number ≤ earlier → earlier < place → candidateKey base earlier ∈ taken) ∧
      (place < number + tries → candidateKey base place ∉ taken) ∧ place ≤ number + tries := by
  induction tries generalizing number with
  | zero =>
    refine ⟨number, le_rfl, rfl, ?_, ?_, le_rfl⟩
    · intro earlier from_ before
      omega
    · intro short
      omega
  | succ tries ih =>
    rw [freeKey]
    split
    · next held =>
      obtain ⟨place, onward, found, passed, free, bound⟩ := ih (number + 1)
      refine ⟨place, by omega, found, ?_, ?_, by omega⟩
      · intro earlier atLeast before
        rcases Nat.eq_or_lt_of_le atLeast with rfl | after
        · exact held
        · exact passed earlier after before
      · intro within
        exact free (by omega)
    · next free =>
      exact ⟨number, le_rfl, rfl, fun earlier atLeast before => by omega, fun _ => free, by omega⟩

theorem freeKey_firstFree (taken : List (List Char)) (base : List Char) :
    ∃ number, FirstFree (candidateKey base) (· ∈ taken) number ∧
      freeKey taken base (taken.length + 2) 1 = candidateKey base number := by
  obtain ⟨place, counted, found, passed, free, bound⟩ := freeKey_stops taken base (taken.length + 2) 1
  obtain ⟨open_, second, within, unheld⟩ := exists_free (candidateKey base) taken 2 (candidateKey_distinct base)
  have early : place ≤ open_ := by
    by_contra later
    exact unheld (passed open_ (by omega) (by omega))
  exact ⟨place, ⟨counted, free (by omega), passed⟩, found⟩

theorem draftItems_draws {taken : List (List Char)} {inputs : List ScopeItemInput} {drafts : List ScopeItemDraft}
    (done : draftItems reads taken inputs = .ok drafts) :
    Draws taken (inputs.map fun entry => candidateKey (keyBase reads entry.name)) (drafts.map (·.key.toList)) := by
  induction inputs generalizing taken drafts with
  | nil =>
    obtain rfl := Except.ok.inj done
    exact .nil
  | cons entry rest ih =>
    obtain ⟨_, -, done⟩ := bind_ok.mp done
    obtain ⟨_, -, done⟩ := bind_ok.mp done
    obtain ⟨jurisdiction, -, done⟩ := bind_ok.mp done
    obtain ⟨regimeTerm, -, done⟩ := bind_ok.mp done
    obtain ⟨later, drafted, done⟩ := bind_ok.mp done
    obtain rfl := Except.ok.inj done
    obtain ⟨number, first, found⟩ := freeKey_firstFree taken (keyBase reads entry.name)
    simp only [List.map_cons, String.toList_ofList]
    rw [found]
    refine .cons first ?_
    rw [← found]
    exact ih drafted

/-- The keys given are new to the bank exactly when no numbering passes a key out of the pattern's view. -/
theorem scopeItemDrafts_keysNew_iff {inputs : List ScopeItemInput} {drafts : List ScopeItemDraft}
    (drafted : scopeItemDrafts reads state inputs = .ok drafts) : KeysNew state drafts ↔ KeysInSight reads state inputs := by
  have draws := draftItems_draws drafted
  have found : ∀ key, key ∈ (state.scopeItems.map (·.key.toList)).filter (patternFinds reads inputs) ↔
      key ∈ [] ∨ key ∈ state.itemKeys ∧ patternFinds reads inputs key = true := by
    intro key
    rw [List.mem_filter]
    simp [FootprintState.itemKeys]
  have fit : ∀ form ∈ inputs.map (fun entry => candidateKey (keyBase reads entry.name)), ∀ number, 1 ≤ number →
      ((form number).length ≤ scopeItemKeyMaxChars ↔ number < numberLimit) := by
    intro form listed number counted
    obtain ⟨entry, -, rfl⟩ := List.mem_map.mp listed
    exact candidateKey_fits (keyBase_length reads entry.name) number counted
  have counted : (∀ key ∈ drafts.map (·.key.toList), key.length ≤ scopeItemKeyMaxChars ∧ ¬ key ∈ state.itemKeys) ↔
      KeysInSight reads state inputs :=
    draws.new_iff_inSight [] found (fun _ => And.left) (fun _ listed => absurd listed List.not_mem_nil) fit
  rw [← counted]
  have used : ∀ draft : ScopeItemDraft, draft.key.toList ∈ state.itemKeys ↔ draft.key ∈ state.scopeItems.map (·.key) := by
    intro draft
    simp only [FootprintState.itemKeys, List.mem_map, String.toList_inj]
  constructor
  · intro good key listed
    obtain ⟨draft, member, rfl⟩ := List.mem_map.mp listed
    exact ⟨good.fits draft member, fun held => good.unused draft member ((used draft).mp held)⟩
  · intro good
    refine ⟨?_, ?_, ?_⟩
    · have once := draws.nodup
      have split : drafts.map (·.key.toList) = (drafts.map (·.key)).map String.toList := by
        rw [List.map_map]
        rfl
      rw [split] at once
      exact once.of_map
    · intro draft member
      exact (good _ (List.mem_map.mpr ⟨draft, member, rfl⟩)).1
    · intro draft member held
      exact (good _ (List.mem_map.mpr ⟨draft, member, rfl⟩)).2 ((used draft).mpr held)

def regime : TermDimension := { id := 1, key := "regime" }

/-- A library with one regime term and one jurisdiction. -/
def oneRegime : FootprintReads where
  table :=
    { terms := [{ id := 2, key := "dora", dimension := regime }]
      termIds := by simp
      termKeys := by simp
      dimensionIds := by simp
      dimensionKeys := by simp }
  dimensions := [regime]
  jurisdictions := [{ id := 3, key := "eu" }]
  now := 0

def askedFor (name : String) : ScopeItemInput :=
  { name, jurisdiction := "eu", regimeTerm := "dora", sourceUrl := "https://example.org" }

def longName : String := String.ofList (List.replicate 80 'a')

/-- A bank that has asked for the long name twice before: the second key was cut to make room for its number. -/
def askedTwice : FootprintState := { FootprintState.empty 1 with
  scopeItems :=
    [ { id := 10, key := longName, name := longName, jurisdiction := 3, regimeTerm := 2, sourceUrl := "https://example.org" },
      { id := 11, key := String.ofList (List.replicate 78 'a' ++ "_2".toList), name := longName,
        jurisdiction := 3, regimeTerm := 2, sourceUrl := "https://example.org" } ] }

/-- The third time the cut key is given again. -/
theorem cutKey_givenAgain :
    ∃ drafts, scopeItemDrafts oneRegime askedTwice [askedFor longName] = .ok drafts ∧ ¬ KeysNew askedTwice drafts := by
  refine ⟨[{ key := String.ofList (List.replicate 78 'a' ++ "_2".toList), name := longName, jurisdiction := 3,
             regimeTerm := 2, sourceUrl := "https://example.org" }], by decide +kernel, ?_⟩
  intro good
  exact good.unused _ List.mem_cons_self (by decide +kernel)

def askedOnce : FootprintState := { FootprintState.empty 1 with
  scopeItems :=
    [{ id := 10, key := "csrd", name := "csrd", jurisdiction := 3, regimeTerm := 2, sourceUrl := "https://example.org" }] }

/-- A second item of the short name is numbered past the first, which the pattern finds. -/
theorem shortName_keysNew : KeysInSight oneRegime askedOnce [askedFor "csrd"] := by
  have drafted : scopeItemDrafts oneRegime askedOnce [askedFor "csrd"] =
      .ok [{ key := "csrd_2", name := "csrd", jurisdiction := 3, regimeTerm := 2, sourceUrl := "https://example.org" }] := by
    decide +kernel
  exact (scopeItemDrafts_keysNew_iff drafted).mp { once := by decide, fits := by decide, unused := by decide }

end Grc.Taxonomy
