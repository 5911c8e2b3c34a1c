import Grc.Lib.Texts
import Mathlib.Data.List.Infix

/-! The text around what matched, cut out of a hit's body. The match is looked for in the folded text and the cut made in the body itself. -/
namespace Grc.Search.Snippets

open Grc.Lib

/-- `str.casefold` and `\w`, letter by letter. White space folds to itself and is in no word. -/
structure Folding where
  fold : CodePoint → Text
  isWord : CodePoint → Bool
  spaceFold : ∀ {point}, CodePoint.isSpace point = true → fold point = [point]
  spaceWord : ∀ {point}, CodePoint.isSpace point = true → isWord point = false

/-- The longest runs of the letters to keep, `run` being the one that is open. -/
def runsFrom (keep : CodePoint → Bool) (run : Text) : Text → List Text
  | [] => if run = [] then [] else [run]
  | point :: rest =>
    if keep point then runsFrom keep (run ++ [point]) rest
    else if run = [] then runsFrom keep [] rest
    else run :: runsFrom keep [] rest

theorem mem_runsFrom {keep : CodePoint → Bool} {run text word : Text} (kept : ∀ point ∈ run, keep point = true)
    (found : word ∈ runsFrom keep run text) : word ≠ [] ∧ ∀ point ∈ word, keep point = true := by
  induction text generalizing run with
  | nil =>
    by_cases empty : run = []
    · simp [runsFrom, empty] at found
    · simp only [runsFrom, empty, if_false, List.mem_singleton] at found
      exact found ▸ ⟨empty, kept⟩
  | cons point rest ih =>
    simp only [runsFrom] at found
    split at found
    · rename_i keeps
      refine ih (fun other inside => ?_) found
      rcases List.mem_append.mp inside with inside | inside
      · exact kept other inside
      · exact List.mem_singleton.mp inside ▸ keeps
    · split at found
      · exact ih (by simp) found
      · rename_i some_
        rcases List.mem_cons.mp found with rfl | found
        · exact ⟨some_, kept⟩
        · exact ih (by simp) found

/-- `str.find`: the first place where the word stands. -/
def find (text word : Text) : Option Nat := (List.range (text.length + 1)).find? fun place => word.isPrefixOf (text.drop place)

namespace Folding

variable (folding : Folding)

def casefold (text : Text) : Text := text.flatMap folding.fold

/-- `WORDS.findall(query.casefold())`. -/
def words (query : Text) : List Text := runsFrom folding.isWord [] (folding.casefold query)

/-- `_first_match`. -/
def firstMatch (body query : Text) : Nat := ((folding.words query).filterMap (find (folding.casefold body))).min?.getD 0

end Folding

/-- A snippet: whether an ellipsis stands before and after it, and the text between. -/
structure Snippet where
  before : Bool
  cut : Text
  after : Bool

def ellipsis : Text := letters "…"

def Snippet.text (snippet : Snippet) : Text :=
  (if snippet.before then ellipsis else []) ++ snippet.cut ++ (if snippet.after then ellipsis else [])

/-- What of the body is cut out when the match is taken to stand at `place`. -/
def window (cap : Nat) (body : Text) (place : Nat) : Text := (body.drop (place - cap / 4)).take cap

variable (folding : Folding) (cap : Nat) (body query : Text)

/-- `_snippet`. -/
def snippet : Snippet :=
  if body.length ≤ cap then ⟨false, body, false⟩
  else
    let start := folding.firstMatch body query - cap / 4
    ⟨start != 0, Text.strip ((body.drop start).take cap), decide (start + cap < body.length)⟩

/-- Where in the body the snippet's text was cut. -/
def cutAt : Nat :=
  if body.length ≤ cap then 0
  else
    (folding.firstMatch body query - cap / 4) +
      ((window cap body (folding.firstMatch body query)).takeWhile CodePoint.isSpace).length

/-- From `i` to `j` stands the first piece of the body that is a word of the query but for the case. -/
structure FirstOccurrence (i j : Nat) : Prop where
  inside : j ≤ body.length
  isWord : folding.casefold (slice body i j) ∈ folding.words query
  first : ∀ i' j', i' < i → j' ≤ body.length → folding.casefold (slice body i' j') ∉ folding.words query

/-- What a snippet is to be: a piece of the body, not empty and no longer than the cap, with the first word that matched where that is shorter
than half the cap. -/
structure Shows : Prop where
  filled : (snippet folding cap body query).cut ≠ []
  piece : slice body (cutAt folding cap body query) (cutAt folding cap body query + (snippet folding cap body query).cut.length) =
    (snippet folding cap body query).cut
  short : (snippet folding cap body query).cut.length ≤ cap
  covers : ∀ i j, FirstOccurrence folding body query i j → 2 * (j - i) < cap →
    cutAt folding cap body query ≤ i ∧ j ≤ cutAt folding cap body query + (snippet folding cap body query).cut.length

def Stands (place : Nat) : Prop := ∃ word ∈ folding.words query, word <+: (folding.casefold body).drop place

/-- The first place of the folded body where a word of the query stands, and the start where none does. -/
def FirstStanding (place : Nat) : Prop :=
  (Stands folding body query place ∧ ∀ earlier < place, ¬Stands folding body query earlier) ∨
    (place = 0 ∧ ∀ other, ¬Stands folding body query other)

/-- The window around a place of the body has a letter in it and reaches over the first word that matched. -/
structure Reaches (place : Nat) : Prop where
  letter : Text.isBlank (window cap body place) = false
  back : ∀ i j, FirstOccurrence folding body query i j → 2 * (j - i) < cap → place ≤ i + cap / 4
  on : ∀ i j, FirstOccurrence folding body query i j → 2 * (j - i) < cap → j ≤ (place - cap / 4) + cap

variable {folding cap body query}

theorem find_eq_some {text word : Text} {place : Nat} (some_ : word ≠ []) :
    find text word = some place ↔ word <+: text.drop place ∧ ∀ earlier < place, ¬word <+: text.drop earlier := by
  simp only [find, List.find?_range_eq_some, List.isPrefixOf_iff_prefix, List.mem_range, Bool.not_eq_true',
    Bool.eq_false_iff, Ne]
  constructor
  · exact fun found => ⟨found.1, found.2.2⟩
  · intro found
    refine ⟨found.1, ?_, found.2⟩
    by_contra beyond
    rw [List.drop_eq_nil_of_le (by omega), List.prefix_nil] at found
    exact some_ found.1

theorem find_eq_none {text word : Text} (some_ : word ≠ []) : find text word = none ↔ ∀ place, ¬word <+: text.drop place := by
  simp only [find, List.find?_eq_none, List.mem_range, List.isPrefixOf_iff_prefix]
  constructor
  · intro none_ place stands
    by_cases beyond : place < text.length + 1
    · exact none_ place beyond stands
    · rw [List.drop_eq_nil_of_le (by omega), List.prefix_nil] at stands
      exact some_ stands
  · exact fun none_ place _ => none_ place

theorem words_spec {word : Text} (found : word ∈ folding.words query) : word ≠ [] ∧ ∀ point ∈ word, folding.isWord point = true :=
  mem_runsFrom (by simp) found

theorem firstMatch_spec : FirstStanding folding body query (folding.firstMatch body query) := by
  unfold Folding.firstMatch
  cases least : ((folding.words query).filterMap (find (folding.casefold body))).min? with
  | none =>
    refine .inr ⟨rfl, fun place stands => ?_⟩
    obtain ⟨word, listed, stands⟩ := stands
    have nowhere := List.filterMap_eq_nil_iff.mp (List.min?_eq_none_iff.mp least) word listed
    exact (find_eq_none (words_spec listed).1).mp nowhere place stands
  | some place =>
    have least := List.min?_eq_some_iff.mp least
    obtain ⟨word, listed, found⟩ := List.mem_filterMap.mp least.1
    have spec := (find_eq_some (words_spec listed).1).mp found
    refine .inl ⟨⟨word, listed, spec.1⟩, fun earlier before stands => ?_⟩
    obtain ⟨other, othersListed, stands⟩ := stands
    cases at_ : find (folding.casefold body) other with
    | none => exact (find_eq_none (words_spec othersListed).1).mp at_ earlier stands
    | some place' =>
      have least' := least.2 place' (List.mem_filterMap.mpr ⟨other, othersListed, at_⟩)
      exact ((find_eq_some (words_spec othersListed).1).mp at_).2 earlier (by simp at before; omega) stands

theorem FirstStanding.eq {place place' : Nat} (one : FirstStanding folding body query place) (two : FirstStanding folding body query place') :
    place = place' := by
  rcases one with ⟨stands, least⟩ | ⟨rfl, none_⟩ <;> rcases two with ⟨stands', least'⟩ | ⟨rfl, none_'⟩
  · rcases Nat.lt_trichotomy place place' with before | same | after
    · exact absurd stands (least' place before)
    · exact same
    · exact absurd stands' (least place' after)
  · exact absurd stands (none_' place)
  · exact absurd stands' (none_ place')
  · rfl

theorem strip_parts (whole : Text) : ∃ trail, whole = whole.takeWhile CodePoint.isSpace ++ Text.strip whole ++ trail ∧
    ∀ point ∈ trail, CodePoint.isSpace point = true := by
  refine ⟨(whole.dropWhile CodePoint.isSpace).rtakeWhile CodePoint.isSpace, ?_, fun point inside => List.mem_rtakeWhile_imp inside⟩
  rw [List.append_assoc, Text.strip, List.rdropWhile_append_rtakeWhile, List.takeWhile_append_dropWhile]

theorem notSpace {i j place : Nat} {point : CodePoint} (isWord : folding.casefold (slice body i j) ∈ folding.words query) (from_ : i ≤ place)
    (before : place < j) (there : body[place]? = some point) : CodePoint.isSpace point = false := by
  by_contra space
  have space := Bool.not_eq_false _ ▸ space
  have inside : point ∈ slice body i j := by
    refine List.mem_iff_getElem?.mpr ⟨place - i, ?_⟩
    rw [slice, List.getElem?_take_of_lt (by omega), List.getElem?_drop, show i + (place - i) = place by omega, there]
  have folded : point ∈ folding.casefold (slice body i j) :=
    List.mem_flatMap.mpr ⟨point, inside, by rw [folding.spaceFold space]; exact List.mem_singleton_self _⟩
  have word := (words_spec isWord).2 point folded
  rw [folding.spaceWord space] at word
  cases word

theorem FirstOccurrence.lt {i j : Nat} (occurs : FirstOccurrence folding body query i j) : i < j := by
  by_contra empty
  refine (words_spec occurs.isWord).1 ?_
  simp [slice, show j - i = 0 by omega, Folding.casefold]

theorem window_getElem? (body : Text) {place offset : Nat} (within : offset < cap) :
    (window cap body place)[offset]? = body[place - cap / 4 + offset]? := by
  rw [window, List.getElem?_take_of_lt within, List.getElem?_drop]

theorem slice_of_parts {whole lead cut trail : Text} (parts : whole = lead ++ cut ++ trail) :
    slice whole lead.length (lead.length + cut.length) = cut := by
  subst parts
  simp [slice]

theorem slice_window (body : Text) {place i j : Nat} (within : j ≤ cap) :
    slice (window cap body place) i j = slice body (place - cap / 4 + i) (place - cap / 4 + j) := by
  simp only [slice, window, List.drop_take, List.take_take, List.drop_drop]
  congr 1
  omega

theorem covers_of_window {place i j : Nat} {lead cut trail : Text} (occurs : FirstOccurrence folding body query i j)
    (parts : window cap body place = lead ++ cut ++ trail) (leads : ∀ point ∈ lead, CodePoint.isSpace point = true)
    (trails : ∀ point ∈ trail, CodePoint.isSpace point = true) (back : place - cap / 4 ≤ i) (on : j ≤ place - cap / 4 + cap) :
    place - cap / 4 + lead.length ≤ i ∧ j ≤ place - cap / 4 + lead.length + cut.length := by
  have forward := occurs.lt
  have inside := occurs.inside
  have length := congrArg List.length parts
  simp only [window, List.length_append, List.length_take, List.length_drop] at length
  have noSpace : ∀ {offset point}, i ≤ place - cap / 4 + offset → place - cap / 4 + offset < j →
      (window cap body place)[offset]? = some point → CodePoint.isSpace point = false := by
    intro offset point from_ before there
    rw [window_getElem? body (by omega)] at there
    exact notSpace occurs.isWord from_ before there
  constructor
  · by_contra cut_
    have early : i - (place - cap / 4) < lead.length := by omega
    have there : (window cap body place)[i - (place - cap / 4)]? = some lead[i - (place - cap / 4)] := by
      rw [parts, List.append_assoc, List.getElem?_append_left early, List.getElem?_eq_getElem early]
    have space := leads _ (List.getElem_mem early)
    rw [noSpace (by omega) (by omega) there] at space
    cases space
  · by_contra cut_
    have late : (lead ++ cut).length ≤ j - 1 - (place - cap / 4) := by
      rw [List.length_append]
      omega
    have within : j - 1 - (place - cap / 4) - (lead ++ cut).length < trail.length := by
      rw [List.length_append] at late ⊢
      omega
    have there : (window cap body place)[j - 1 - (place - cap / 4)]? = some trail[j - 1 - (place - cap / 4) - (lead ++ cut).length] := by
      rw [parts, List.getElem?_append_right late, List.getElem?_eq_getElem within]
    have space := trails _ (List.getElem_mem within)
    rw [noSpace (by omega) (by omega) there] at space
    cases space

theorem shows_iff_of_long (long : cap < body.length) :
    Shows folding cap body query ↔ Reaches folding cap body query (folding.firstMatch body query) := by
  have cuts : (snippet folding cap body query).cut = Text.strip (window cap body (folding.firstMatch body query)) := by
    simp only [snippet, Nat.not_le.mpr long, if_false, window]
  have placed : cutAt folding cap body query = (folding.firstMatch body query - cap / 4) +
      ((window cap body (folding.firstMatch body query)).takeWhile CodePoint.isSpace).length := by
    simp only [cutAt, Nat.not_le.mpr long, if_false]
  obtain ⟨trail, parts, spaces⟩ := strip_parts (window cap body (folding.firstMatch body query))
  have length := congrArg List.length parts
  simp only [List.length_append] at length
  have most : (window cap body (folding.firstMatch body query)).length ≤ cap := List.length_take_le _ _
  constructor
  · intro shows
    have covers := shows.covers
    rw [placed, cuts] at covers
    refine ⟨Bool.eq_false_iff.mpr fun blank => shows.filled (cuts ▸ (Text.strip_eq_nil_iff _).mpr blank), fun i j occurs less => ?_,
      fun i j occurs less => ?_⟩
    · have := (covers i j occurs less).1
      omega
    · have := (covers i j occurs less).2
      omega
  · intro reaches
    refine ⟨?_, ?_, ?_, fun i j occurs less => ?_⟩
    · rw [cuts, Ne, Text.strip_eq_nil_iff, reaches.letter]
      decide
    · rw [cuts, placed, Nat.add_assoc, ← slice_window body (by omega)]
      exact slice_of_parts parts
    · rw [cuts]
      omega
    · rw [cuts, placed]
      have back := reaches.back i j occurs less
      exact covers_of_window occurs parts (fun _ => List.mem_takeWhile_imp) spaces (by omega) (reaches.on i j occurs less)

theorem shows_iff_of_short (short : body.length ≤ cap) : Shows folding cap body query ↔ body ≠ [] := by
  have cuts : (snippet folding cap body query).cut = body := by simp only [snippet, short, if_true]
  have placed : cutAt folding cap body query = 0 := by simp only [cutAt, short, if_true]
  constructor
  · exact fun shows => cuts ▸ shows.filled
  · intro some_
    refine ⟨cuts.symm ▸ some_, ?_, cuts.symm ▸ short, fun i j occurs _ => ?_⟩
    · rw [cuts, placed, slice, Nat.zero_add, Nat.sub_zero, List.drop_zero, List.take_length]
    · rw [cuts, placed, Nat.zero_add]
      exact ⟨Nat.zero_le _, occurs.inside⟩

section Plain

variable (plain : ∀ point ∈ body, (folding.fold point).length = 1)

include plain

theorem casefold_slice (i j : Nat) : folding.casefold (slice body i j) = slice (folding.casefold body) i j := by
  have mapped : ∀ text : Text, (∀ point ∈ text, (folding.fold point).length = 1) →
      folding.casefold text = text.map fun point => (folding.fold point).headD point := by
    intro text single
    rw [Folding.casefold, List.map_eq_flatMap]
    refine List.flatMap_congr fun point inside => ?_
    obtain ⟨only, folds⟩ := List.length_eq_one_iff.mp (single point inside)
    rw [folds]
    rfl
  rw [mapped _ plain, mapped (slice body i j) fun point inside => plain point (List.mem_of_mem_drop (List.mem_of_mem_take inside)), slice,
    slice, List.map_take, List.map_drop]

theorem length_casefold : (folding.casefold body).length = body.length := by
  rw [Folding.casefold, List.length_flatMap, List.map_congr_left plain]
  simp

theorem stands_iff {place : Nat} :
    Stands folding body query place ↔ ∃ j ≤ body.length, folding.casefold (slice body place j) ∈ folding.words query := by
  constructor
  · rintro ⟨word, listed, stands⟩
    have length := stands.length_le
    rw [List.length_drop, length_casefold plain] at length
    have some_ := List.length_pos_iff.mpr (words_spec listed).1
    refine ⟨place + word.length, by omega, ?_⟩
    rw [casefold_slice plain, slice, Nat.add_sub_cancel_left, ← List.prefix_iff_eq_take.mp stands]
    exact listed
  · rintro ⟨j, -, isWord⟩
    refine ⟨_, isWord, ?_⟩
    rw [casefold_slice plain]
    exact List.take_prefix _ _

theorem reaches_of_plain (some_ : 0 < cap) (filled : body ≠ []) (opens : ∀ point ∈ body.head?, CodePoint.isSpace point = false) {place : Nat}
    (first : FirstStanding folding body query place) : Reaches folding cap body query place := by
  have letter : ∀ point, body[place]? = some point → CodePoint.isSpace point = false → Text.isBlank (window cap body place) = false := by
    intro point there noSpace
    by_contra blank
    have blank := List.all_eq_true.mp (Bool.not_eq_false _ ▸ blank) point (List.mem_iff_getElem?.mpr ⟨place - (place - cap / 4), by
      rw [window_getElem? body (by omega), show place - cap / 4 + (place - (place - cap / 4)) = place by omega, there]⟩)
    rw [noSpace] at blank
    cases blank
  rcases first with ⟨stands, least⟩ | ⟨rfl, none_⟩
  · obtain ⟨j, inside, isWord⟩ := (stands_iff plain).mp stands
    have same : ∀ i j, FirstOccurrence folding body query i j → i = place := by
      intro i j' occurs
      rcases Nat.lt_trichotomy i place with before | same | after
      · exact absurd ((stands_iff plain).mpr ⟨j', occurs.inside, occurs.isWord⟩) (least i before)
      · exact same
      · exact absurd isWord (occurs.first place j after inside)
    have forward : place < j := by
      by_contra empty
      exact (words_spec isWord).1 (by simp [slice, show j - place = 0 by omega, Folding.casefold])
    refine ⟨letter _ (List.getElem?_eq_getElem (by omega)) (notSpace isWord (Nat.le_refl _) forward (List.getElem?_eq_getElem (by omega))),
      fun i j' occurs _ => ?_, fun i j' occurs short => ?_⟩
    · rw [same i j' occurs]
      omega
    · have := same i j' occurs
      omega
  · have nowhere : ∀ i j, ¬FirstOccurrence folding body query i j := fun i j occurs =>
      none_ i ((stands_iff plain).mpr ⟨j, occurs.inside, occurs.isWord⟩)
    cases body with
    | nil => exact absurd rfl filled
    | cons point rest =>
      exact ⟨letter point rfl (opens point rfl), fun i j occurs => absurd occurs (nowhere i j), fun i j occurs => absurd occurs (nowhere i j)⟩

end Plain

/-- A snippet shows what matched exactly when there is a body, and the window around the place that was found in the folded text reaches over the
match in the body itself. It does so where every letter of the body folds to one letter. -/
theorem shows_iff (folding : Folding) (cap : Nat) (body query : Text) :
    (Shows folding cap body query ↔
      body ≠ [] ∧ (body.length ≤ cap ∨ ∀ place, FirstStanding folding body query place → Reaches folding cap body query place)) ∧
    (8 ≤ cap → (∀ point ∈ body.head?, CodePoint.isSpace point = false) → (∀ point ∈ body, (folding.fold point).length = 1) →
      body ≠ [] → ∀ place, FirstStanding folding body query place → Reaches folding cap body query place) := by
  constructor
  · by_cases short : body.length ≤ cap
    · simp only [shows_iff_of_short short, short, true_or, and_true]
    · have some_ : body ≠ [] := fun empty => short (empty ▸ Nat.zero_le cap)
      rw [shows_iff_of_long (Nat.lt_of_not_le short)]
      constructor
      · exact fun reaches => ⟨some_, .inr fun place first => first.eq firstMatch_spec ▸ reaches⟩
      · exact fun meets => (meets.2.resolve_left short) _ firstMatch_spec
  · exact fun wide opens plain some_ place first => reaches_of_plain plain (by omega) some_ opens first

/-- The folding of the Latin letters and of `ß`, which folds to `ss`. -/
def latin : Folding where
  fold point := if point.val = 0xDF then letters "ss" else if 0x41 ≤ point.val ∧ point.val ≤ 0x5A then [point + 0x20] else [point]
  isWord point := decide (0x61 ≤ point.val ∧ point.val ≤ 0x7A ∨ 0xDF ≤ point.val ∧ point.val ≤ 0xFF)
  spaceFold := by
    intro point space
    simp only [CodePoint.isSpace, decide_eq_true_eq] at space
    rw [if_neg (by omega), if_neg (by omega)]
  spaceWord := by
    intro point space
    simp only [CodePoint.isSpace, decide_eq_true_eq] at space
    exact decide_eq_false (by omega)

/-- The window lies eight letters too far, past the match. -/
theorem shows_drifts : ¬∀ (folding : Folding) (cap : Nat) (body query : Text), 8 ≤ cap →
    (∀ point ∈ body.head?, CodePoint.isSpace point = false) → Shows folding cap body query := by
  intro shows
  have opens : ∀ point ∈ (letters "ßßßßßßßß cat sleeps").head?, CodePoint.isSpace point = false := by
    rw [show (letters "ßßßßßßßß cat sleeps").head? = some 0xDF by decide +kernel]
    exact fun point first => Option.some.inj first ▸ (by decide)
  have drifts := (shows latin 8 (letters "ßßßßßßßß cat sleeps") (letters "cat") (Nat.le_refl 8) opens).covers 9 12
    ⟨by decide +kernel, by decide +kernel, by
      have none_ : ∀ i' < 9, ∀ j' < 20, latin.casefold (slice (letters "ßßßßßßßß cat sleeps") i' j') ∉ latin.words (letters "cat") := by
        decide +kernel
      exact fun i' j' before inside => none_ i' before j' (Nat.lt_succ_of_le inside)⟩ (by decide)
  revert drifts
  decide +kernel

end Grc.Search.Snippets
