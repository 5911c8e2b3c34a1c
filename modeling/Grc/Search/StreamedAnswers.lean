import Grc.Search.Answers

/-! What an answer cut into pieces says against what it says whole: where a sentence ends cannot be seen too early, except past a
line break among its citations. -/
namespace Grc.Search.Ask

open Grc.Lib
open Grc.Lib.CodePoint (isSpace isDecimal)

variable {letters : Letters} {solid : Bool} {text body later sentence after : Text} {stop : CodePoint}

/-! ## What more text changes of a match -/

theorem isSpace_openBracket : isSpace openBracket = false := by decide

theorem isSpace_of_decimal {point : CodePoint} (decimal : isDecimal point = true) : isSpace point = false := by
  have each : ∀ first ∈ CodePoint.decimalZeros, ∀ digit < 10, isSpace (Fin.ofNat 0x110000 (first + digit)) = false := by decide +kernel
  obtain ⟨value, found⟩ := Option.isSome_iff_exists.mp decimal
  obtain ⟨start, its, -⟩ := Option.map_eq_some_iff.mp found
  have within := List.find?_some its
  simp only [Bool.and_eq_true, decide_eq_true_eq] at within
  have same : Fin.ofNat 0x110000 (start + (point.val - start)) = point := by
    rw [Nat.add_sub_cancel' within.1]
    exact Fin.ofNat_val_eq_self point
  exact same ▸ each start (List.mem_of_find?_eq_some its) (point.val - start) (by omega)

theorem marker_of_parts {blanks digits : Text} (spaces : ∀ point ∈ blanks, isSpace point = true) (some_ : digits ≠ [])
    (decimals : ∀ point ∈ digits, isDecimal point = true) :
    marker (blanks ++ openBracket :: digits ++ closeBracket :: after) = some after := by
  have bracket : bracketed (openBracket :: digits ++ closeBracket :: after) = some (digits, after) :=
    bracketed_eq_some.mpr ⟨rfl, some_, decimals⟩
  rw [marker, List.append_assoc, List.dropWhile_append_of_pos spaces, List.cons_append,
    List.dropWhile_cons_of_neg (Bool.eq_false_iff.mp isSpace_openBracket)]
  exact congrArg (Option.map Prod.snd) bracket

def MarkerBegins (text : Text) : Prop := text.dropWhile isSpace = [] ∨ isArriving (text.dropWhile isSpace) = true

theorem marker_append (found : marker (text ++ later) = some after) :
    (∃ left, marker text = some left ∧ after = left ++ later) ∨
    (Unstopped text ∧ MarkerBegins text ∧ ∃ more, later = more ++ after) := by
  obtain ⟨blanks, digits, same, spaces, some_, decimals⟩ := marker_eq_some found
  have plain : Unstopped (blanks ++ openBracket :: digits) := unstopped_append.mpr
    ⟨fun point there => isStop_of_space (spaces point there),
      List.forall_mem_cons.mpr ⟨rfl, fun point there => isStop_of_decimal (decimals point there)⟩⟩
  rcases List.append_eq_append_iff.mp same with ⟨rest, begun, more⟩ | ⟨rest, whole, more⟩
  · refine .inr ⟨fun point there => plain point (begun ▸ List.mem_append_left _ there), ?_, rest ++ [closeBracket], by
      rw [more, List.append_assoc]; rfl⟩
    rcases List.append_eq_append_iff.mp begun with ⟨digits_, rfl, opens⟩ | ⟨blanks_, rfl, -⟩
    · rw [MarkerBegins, List.dropWhile_append_of_pos spaces]
      cases digits_ with
      | nil => exact .inl rfl
      | cons first begin_ =>
        obtain ⟨rfl, rfl⟩ := List.cons.inj opens
        rw [List.dropWhile_cons_of_neg (Bool.eq_false_iff.mp isSpace_openBracket)]
        refine .inr ?_
        simp only [isArriving, beq_self_eq_true, Bool.true_and, List.all_eq_true]
        exact fun point there => decimals point (List.mem_append_left _ there)
    · exact .inl (List.dropWhile_eq_nil_iff.mpr fun point there => spaces point (List.mem_append_left _ there))
  · cases rest with
    | nil =>
      rw [List.append_nil] at whole
      subst whole
      refine .inr ⟨plain, .inr ?_, [closeBracket], by simpa using more.symm⟩
      rw [List.dropWhile_append_of_pos spaces, List.dropWhile_cons_of_neg (Bool.eq_false_iff.mp isSpace_openBracket)]
      simp only [isArriving, beq_self_eq_true, Bool.true_and, List.all_eq_true]
      exact decimals
    | cons close rest =>
      obtain ⟨rfl, rfl⟩ := List.cons.inj more
      exact .inl ⟨rest, by rw [whole]; exact marker_of_parts spaces some_ decimals, rfl⟩

theorem dropWhile_solid {blanks : Text} (spaces : ∀ point ∈ blanks, isSpace point = true) (solid : Solid after) :
    (blanks ++ after).dropWhile isSpace = after := by
  cases after with
  | nil => cases solid
  | cons first rest => rw [List.dropWhile_append_of_pos spaces, List.dropWhile_cons_of_neg (Bool.eq_false_iff.mp solid)]

theorem Solid.append (solid : Solid after) : Solid (after ++ later) := by
  cases after with
  | nil => cases solid
  | cons => exact solid

theorem Solid.ne_nil (solid : Solid after) : after ≠ [] := by
  rintro rfl
  cases solid

theorem gap_markers_append (text : Text) (found : gap (markers text) = some after) (apart : isArriving after = false) :
    gap (markers (text ++ later)) = some (after ++ later) := by
  rw [markers_eq] at found ⊢
  cases first : marker text with
  | some left =>
    have shorter := marker_shorter first
    obtain ⟨blanks, digits, rfl, spaces, some_, decimals⟩ := marker_eq_some first
    rw [first, Option.elim_some] at found
    have more : marker (blanks ++ openBracket :: digits ++ closeBracket :: left ++ later) = some (left ++ later) := by
      rw [List.append_assoc, List.cons_append]
      exact marker_of_parts spaces some_ decimals
    rw [more, Option.elim_some]
    exact gap_markers_append left found apart
  | none =>
    rw [first, Option.elim_none] at found
    obtain ⟨blanks, rfl, some_, spaces, solid⟩ := gap_eq_some.mp found
    have none_ : marker (blanks ++ after ++ later) = none := by
      refine Option.eq_none_iff_forall_ne_some.mpr fun left there => ?_
      rcases marker_append there with ⟨_, sooner, -⟩ | ⟨-, begins, -⟩
      · rw [first] at sooner
        cases sooner
      · rw [MarkerBegins, dropWhile_solid spaces solid] at begins
        rcases begins with nothing | arriving
        · exact solid.ne_nil nothing
        · rw [apart] at arriving
          cases arriving
    rw [none_, Option.elim_none]
    exact gap_eq_some.mpr ⟨blanks, List.append_assoc _ _ _, some_, spaces, solid.append⟩
termination_by text.length

/-- A gap that only more text shows ends in that text, and what was there before it holds no closing mark. -/
theorem gap_markers_later (text : Text) (none_ : gap (markers text) = none) (found : gap (markers (text ++ later)) = some after) :
    Unstopped text ∧ ∃ more, later = more ++ after := by
  rw [markers_eq] at none_ found
  cases first : marker text with
  | some left =>
    have shorter := marker_shorter first
    obtain ⟨blanks, digits, rfl, spaces, some_, decimals⟩ := marker_eq_some first
    rw [first, Option.elim_some] at none_
    have more : marker (blanks ++ openBracket :: digits ++ closeBracket :: left ++ later) = some (left ++ later) := by
      rw [List.append_assoc, List.cons_append]
      exact marker_of_parts spaces some_ decimals
    rw [more, Option.elim_some] at found
    obtain ⟨unstopped, ends⟩ := gap_markers_later left none_ found
    refine ⟨unstopped_append.mpr ⟨unstopped_append.mpr ⟨fun point there => isStop_of_space (spaces point there), ?_⟩, ?_⟩, ends⟩
    · exact List.forall_mem_cons.mpr ⟨rfl, fun point there => isStop_of_decimal (decimals point there)⟩
    · exact List.forall_mem_cons.mpr ⟨rfl, unstopped⟩
  | none =>
    rw [first, Option.elim_none] at none_
    cases second : marker (text ++ later) with
    | none =>
      rw [second, Option.elim_none] at found
      obtain ⟨blanks, same, some_, spaces, solid⟩ := gap_eq_some.mp found
      rcases List.append_eq_append_iff.mp same with ⟨rest, rfl, rfl⟩ | ⟨rest, rfl, rfl⟩
      · exact ⟨fun point there => isStop_of_space (spaces point (List.mem_append_left _ there)), rest, rfl⟩
      · cases rest with
        | nil =>
          rw [List.append_nil]
          exact ⟨fun point there => isStop_of_space (spaces point there), [], rfl⟩
        | cons next others =>
          have there := gap_eq_some.mpr ⟨blanks, rfl, some_, spaces, (show Solid (next :: others) from solid)⟩
          rw [none_] at there
          cases there
    | some left =>
      rw [second, Option.elim_some] at found
      rcases marker_append second with ⟨_, sooner, -⟩ | ⟨unstopped, -, more, rfl⟩
      · rw [first] at sooner
        cases sooner
      · obtain ⟨taken, same, -⟩ := markers_suffix left
        obtain ⟨blanks, ends, -⟩ := gap_eq_some.mp found
        exact ⟨unstopped, more ++ taken ++ blanks, by rw [List.append_assoc, List.append_assoc, ← ends, ← same]⟩
termination_by text.length

theorem stopEnd_append (found : stopEnd text = some after) (apart : isArriving after = false) :
    stopEnd (text ++ later) = some (after ++ later) := by
  cases text with
  | nil => cases found
  | cons first rest =>
    unfold stopEnd at found
    dsimp only at found
    split at found
    · next stop =>
      rw [List.cons_append, stopEnd, if_pos stop]
      exact gap_markers_append rest found apart
    · cases found

theorem stopEnd_later (none_ : stopEnd (stop :: body) = none) (found : stopEnd (stop :: body ++ later) = some after) :
    isStop stop = true ∧ Unstopped body ∧ ∃ more, later = more ++ after := by
  rw [List.cons_append, stopEnd] at found
  rw [stopEnd] at none_
  cases closes : isStop stop with
  | true =>
    rw [if_pos closes] at none_ found
    exact ⟨rfl, gap_markers_later body none_ found⟩
  | false =>
    rw [if_neg (Bool.eq_false_iff.mp closes)] at found
    cases found

theorem lineEnd_append (found : lineEnd text = some after) : lineEnd (text ++ later) = some (after ++ later) := by
  obtain ⟨blanks, spaces, rfl, blank, space, solid⟩ := lineEnd_iff.mp found
  exact lineEnd_iff.mpr ⟨blanks, spaces, List.append_assoc _ _ _, blank, space, solid.append⟩

theorem lineEnd_later (none_ : lineEnd text = none) (found : lineEnd (text ++ later) = some after) :
    ∀ point ∈ text, isSpace point = true := by
  obtain ⟨blanks, spaces, same, blank, space, solid⟩ := lineEnd_iff.mp found
  have white : ∀ point ∈ blanks ++ newline :: spaces, isSpace point = true :=
    List.forall_mem_append.mpr ⟨fun point there => isSpace_of_blank (blank point there), List.forall_mem_cons.mpr ⟨rfl, space⟩⟩
  rcases List.append_eq_append_iff.mp same with ⟨rest, begun, -⟩ | ⟨rest, rfl, rfl⟩
  · exact fun point there => white point (begun ▸ List.mem_append_left _ there)
  · cases rest with
    | nil =>
      rw [List.append_nil]
      exact white
    | cons next others =>
      have there := lineEnd_iff.mpr ⟨blanks, spaces, rfl, blank, space, (show Solid (next :: others) from solid)⟩
      rw [none_] at there
      cases there

theorem stopEnd_of_lineEnd (found : lineEnd text = some after) : stopEnd (text ++ later) = none := by
  obtain ⟨blanks, rfl, some_, spaces, -⟩ := lineEnd_eq_some found
  cases blanks with
  | nil => exact absurd rfl some_
  | cons first rest =>
    have open_ := isStop_of_space (spaces first List.mem_cons_self)
    exact if_neg (Bool.eq_false_iff.mp open_)

theorem isArriving_append (solid : Solid after) (apart : isArriving after = false) : isArriving (after ++ later) = false := by
  cases after with
  | nil => cases solid
  | cons first rest =>
    simp only [isArriving, List.cons_append, List.all_append] at apart ⊢
    rw [← Bool.and_assoc, apart, Bool.false_and]

theorem endsSentence_append {first : CodePoint} (solid : Solid after) :
    letters.endsSentence first (after ++ later) = letters.endsSentence first after := by
  cases after with
  | nil => cases solid
  | cons => rfl

/-! ## What more text changes of a sentence -/

/-- The text so far is torn from the text to come: a closing mark's match is complete only with the text to come, and a line break after
the mark is already followed by more than a marker's beginning. -/
structure TornAt (stop : CodePoint) (body later : Text) : Prop where
  unseen : stopEnd (stop :: body) = none
  seen : ∃ after, stopEnd (stop :: body ++ later) = some after
  breaks : ∃ words rest after, body = words ++ rest ∧ (∀ last ∈ words.getLast?, isSpace last = false) ∧ lineEnd rest = some after ∧
    isArriving after = false

def Torn (text later : Text) : Prop := ∃ front stop body, text = front ++ stop :: body ∧ TornAt stop body later

theorem Torn.behind (torn : Torn text later) (front : Text) : Torn (front ++ text) later := by
  obtain ⟨first, stop, body, rfl, at_⟩ := torn
  exact ⟨front ++ first, stop, body, (List.append_assoc _ _ _).symm, at_⟩

theorem nextSentence_breaks (text : Text) {solid : Bool} {sentence : Text} (found : letters.nextSentence solid text = some (sentence, after))
    (unstopped : Unstopped text) : ∃ words rest left, text = words ++ rest ∧ (words = [] → solid = true) ∧
      (∀ last ∈ words.getLast?, isSpace last = false) ∧ lineEnd rest = some left ∧ isArriving left = false := by
  cases text with
  | nil =>
    rw [Letters.nextSentence] at found
    cases found
  | cons first rest =>
    obtain ⟨open_, others⟩ := List.forall_mem_cons.mp unstopped
    rcases nextSentence_cons found with ⟨-, more, rfl, next⟩ | ⟨more, matched, there, -, apart, -⟩
    · obtain ⟨words, tail, left, rfl, starts, last, line, apart⟩ := nextSentence_breaks rest next others
      refine ⟨first :: words, tail, left, rfl, fun none_ => absurd none_ (List.cons_ne_nil _ _), ?_, line, apart⟩
      cases words with
      | nil =>
        rintro _ ⟨⟩
        simpa using starts rfl
      | cons => exact last
    · rcases sentenceEnd_eq_some.mp there with stop | ⟨-, solid_, line⟩
      · unfold stopEnd at stop
        dsimp only at stop
        rw [if_neg (Bool.eq_false_iff.mp open_)] at stop
        cases stop
      · exact ⟨[], first :: rest, matched, rfl, fun _ => solid_, fun _ none_ => absurd none_ (Option.not_mem_none _), line, apart⟩
termination_by text.length

/-- A sentence that the text so far finishes is the one the whole finishes, unless the two are torn apart. -/
theorem nextSentence_append (text : Text) {solid : Bool} {sentence : Text} (found : letters.nextSentence solid text = some (sentence, after))
    (whole : ¬Torn text later) : letters.nextSentence solid (text ++ later) = some (sentence, after ++ later) := by
  cases text with
  | nil =>
    rw [Letters.nextSentence] at found
    cases found
  | cons first rest =>
    rcases nextSentence_cons found with ⟨none_, more, rfl, next⟩ | ⟨more, matched, there, same, apart, -, solid_, ends⟩
    · have still : sentenceEnd solid (first :: rest ++ later) = none := by
        refine Option.eq_none_iff_forall_ne_some.mpr fun left there => ?_
        have unseen : stopEnd (first :: rest) = none := by
          refine Option.eq_none_iff_forall_ne_some.mpr fun left there => ?_
          have seen : sentenceEnd solid (first :: rest) = some left := sentenceEnd_eq_some.mpr (.inl there)
          rw [none_] at seen
          cases seen
        rcases sentenceEnd_eq_some.mp there with stop | ⟨-, rfl, line⟩
        · obtain ⟨closes, unstopped, -⟩ := stopEnd_later unseen stop
          obtain ⟨words, tail, left_, rfl, -, last, line, apart⟩ := nextSentence_breaks rest next unstopped
          exact whole ⟨[], first, words ++ tail, rfl, unseen, ⟨left, stop⟩, words, tail, left_, rfl, last, line, apart⟩
        · have unbroken : lineEnd (first :: rest) = none := by
            refine Option.eq_none_iff_forall_ne_some.mpr fun left there => ?_
            have seen := sentenceEnd_eq_some.mpr (.inr ⟨unseen, rfl, there⟩)
            rw [none_] at seen
            cases seen
          have white := lineEnd_later unbroken line
          obtain ⟨parts, -, solid_⟩ := nextSentence_parts rest next
          cases after with
          | nil => cases solid_
          | cons head tail =>
            have space := white head (by rw [parts]; simp)
            rw [show isSpace head = false from solid_] at space
            cases space
      rw [List.cons_append] at still ⊢
      rw [Letters.nextSentence]
      split
      · have onward := nextSentence_append rest next fun torn => whole (torn.behind [first])
        rw [onward]
        rfl
      · next left there =>
        rw [still] at there
        cases there
    · have onward : sentenceEnd solid (first :: rest ++ later) = some (matched ++ later) := by
        rcases sentenceEnd_eq_some.mp there with stop | ⟨-, rfl, line⟩
        · exact sentenceEnd_eq_some.mpr (.inl (stopEnd_append stop apart))
        · exact sentenceEnd_eq_some.mpr (.inr ⟨stopEnd_of_lineEnd line, rfl, lineEnd_append line⟩)
      have cut : first :: (rest ++ later) = first :: more ++ (matched ++ later) := by
        rw [← List.append_assoc, ← same]
        rfl
      rw [List.cons_append] at onward ⊢
      rw [Letters.nextSentence]
      split
      · next none_ =>
        rw [onward] at none_
        cases none_
      · next left found_ =>
        obtain rfl := Option.some.inj (onward.symm.trans found_)
        rw [take_matched cut, if_neg (Bool.eq_false_iff.mp (isArriving_append solid_ apart)), endsSentence_append solid_]
        rcases ends with ⟨closes, rfl, rfl⟩ | ⟨goesOn, later_, rfl, next⟩
        · rw [if_pos closes]
        · have shorter := sentenceEnd_shorter there
          have torn : Torn matched later → Torn (first :: rest) later := fun torn => by
            rw [same]
            exact torn.behind _
          rw [if_neg (Bool.eq_false_iff.mp goesOn), nextSentence_append matched next fun torn_ => whole (torn torn_)]
          rfl
termination_by text.length

/-! ## Where the whole text breaks, and where a torn one does -/

theorem matched_before {front more matched rest : Text} (closes : isStop stop = true) (unstopped : Unstopped more)
    (same : front ++ stop :: rest = more ++ matched) : ∃ left, front = more ++ left ∧ matched = left ++ stop :: rest := by
  rcases List.append_eq_append_iff.mp same with ⟨inside, rfl, ends⟩ | ⟨left, rfl, rfl⟩
  · cases inside with
    | nil => exact ⟨[], by simp, by simpa using ends.symm⟩
    | cons first others =>
      obtain ⟨rfl, -⟩ := List.cons.inj ends
      have open_ := unstopped stop (by simp)
      rw [closes] at open_
      cases open_
  · exact ⟨left, rfl, rfl⟩

theorem nextSentence_around (front : Text) {rest ends sentence after : Text} {solid : Bool} (at_ : stopEnd (stop :: rest) = some ends)
    (found : letters.nextSentence solid (front ++ stop :: rest) = some (sentence, after)) :
    (∃ left, front = sentence ++ left ∧ after = left ++ stop :: rest) ∨ ∃ more, ends = more ++ after := by
  have closes : isStop stop = true := by
    by_contra open_
    rw [stopEnd, if_neg open_] at at_
    cases at_
  cases front with
  | nil =>
    rcases nextSentence_cons found with ⟨none_, -⟩ | ⟨more, matched, there, -, -, -, -, goes⟩
    · rw [sentenceEnd_eq_some.mpr (.inl at_)] at none_
      cases none_
    · obtain rfl := Option.some.inj ((sentenceEnd_eq_some.mpr (.inl at_)).symm.trans there)
      rcases goes with ⟨-, -, rfl⟩ | ⟨-, later, -, next⟩
      · exact .inr ⟨[], rfl⟩
      · exact .inr ⟨later, (nextSentence_parts _ next).1⟩
  | cons first others =>
    rcases nextSentence_cons found with ⟨-, more, rfl, next⟩ | ⟨more, matched, there, same, -, unstopped, -, goes⟩
    · refine (nextSentence_around others at_ next).imp_left ?_
      rintro ⟨left, rfl, rfl⟩
      exact ⟨left, rfl, rfl⟩
    · obtain ⟨left, rfl, rfl⟩ := matched_before closes unstopped (List.cons.inj same).2
      have shorter : left.length < (first :: (more ++ left)).length := by simp only [List.length_cons, List.length_append]; omega
      rcases goes with ⟨-, rfl, rfl⟩ | ⟨-, later, rfl, next⟩
      · exact .inl ⟨left, rfl, rfl⟩
      · refine (nextSentence_around left at_ next).imp_left ?_
        rintro ⟨further, rfl, rfl⟩
        exact ⟨further, by simp, rfl⟩
termination_by front.length

theorem not_isArriving (closes : isStop stop = true) (front rest : Text) : isArriving (front ++ stop :: rest) = false := by
  have bracket : (stop == openBracket) = false := by
    refine Bool.eq_false_iff.mpr fun same => ?_
    rw [beq_iff_eq.mp same] at closes
    cases closes
  have decimal : isDecimal stop = false := by
    refine Bool.eq_false_iff.mpr fun same => ?_
    rw [isStop_of_decimal same] at closes
    cases closes
  cases front with
  | nil => simp [isArriving, bracket]
  | cons => simp [isArriving, decimal]

theorem apart_of_break {words rest left matched : Text} (some_ : words ≠ []) (last : ∀ last ∈ words.getLast?, isSpace last = false)
    (breaks : lineEnd (words ++ rest) = some matched) (line : lineEnd rest = some left) : isArriving matched = false := by
  obtain ⟨blanks, whole, -, spaces, -⟩ := lineEnd_eq_some breaks
  obtain ⟨white, rfl, begins, whites, -⟩ := lineEnd_eq_some line
  refine Bool.eq_false_iff.mpr fun arriving => ?_
  have spaceless : ∀ point ∈ matched, isSpace point = false := by
    cases matched with
    | nil => nofun
    | cons bracket digits =>
      simp only [isArriving, Bool.and_eq_true, beq_iff_eq, List.all_eq_true] at arriving
      obtain ⟨rfl, digits_⟩ := arriving
      exact List.forall_mem_cons.mpr ⟨isSpace_openBracket, fun point there => isSpace_of_decimal (digits_ point there)⟩
  rcases List.append_eq_append_iff.mp whole with ⟨inside, front, -⟩ | ⟨inside, front, ends⟩
  · have end_ := last _ (List.getLast?_eq_some_getLast some_)
    have white_ := spaces (words.getLast some_) (front ▸ List.mem_append_left _ (List.getLast_mem some_))
    exact Bool.false_ne_true (end_.symm.trans white_)
  · have head : white.head begins ∈ matched := ends ▸ List.mem_append_right _ (List.mem_append_left _ (List.head_mem begins))
    exact Bool.false_ne_true ((spaceless _ head).symm.trans (whites _ (List.head_mem begins)))

/-- Text without closing marks that breaks a line, not before a marker's beginning alone, ends a sentence. -/
theorem nextSentence_of_break (text : Text) {solid : Bool} {words rest left : Text} (unstopped : Unstopped text) (same : text = words ++ rest)
    (starts : words = [] → solid = true) (last : ∀ last ∈ words.getLast?, isSpace last = false) (line : lineEnd rest = some left)
    (apart : isArriving left = false) : (letters.nextSentence solid text).isSome = true := by
  cases text with
  | nil =>
    obtain ⟨rfl, rfl⟩ := List.append_eq_nil_iff.mp same.symm
    cases line
  | cons first others =>
    obtain ⟨open_, later⟩ := List.forall_mem_cons.mp unstopped
    rw [Letters.nextSentence]
    split
    · next none_ =>
      rw [Option.isSome_map]
      cases words with
      | nil =>
        obtain rfl : first :: others = rest := same
        have unseen : stopEnd (first :: others) = none := if_neg (Bool.eq_false_iff.mp open_)
        rw [sentenceEnd_eq_some.mpr (.inr ⟨unseen, starts rfl, line⟩)] at none_
        cases none_
      | cons _ words =>
        obtain ⟨rfl, rfl⟩ := List.cons.inj same
        refine nextSentence_of_break (words ++ rest) later rfl ?_ ?_ line apart
        · rintro rfl
          simpa using last first rfl
        · intro point there
          cases words with
          | nil => cases there
          | cons => exact last point there
    · next matched there =>
      obtain ⟨_, more, same_, -, solid_⟩ := sentenceEnd_takes there
      obtain rfl := (List.cons.inj same_).1
      rw [take_matched same_]
      have held : isArriving matched = false := by
        rcases sentenceEnd_eq_some.mp there with stop | ⟨-, -, breaks⟩
        · unfold stopEnd at stop
          dsimp only at stop
          rw [if_neg (Bool.eq_false_iff.mp open_)] at stop
          cases stop
        · cases words with
          | nil =>
            obtain rfl : first :: others = rest := same
            obtain rfl := Option.some.inj (line.symm.trans breaks)
            exact apart
          | cons head words => exact apart_of_break (List.cons_ne_nil head words) last (same ▸ breaks) line
      rw [if_neg (Bool.eq_false_iff.mp held)]
      have ends : letters.endsSentence first matched = true := by rw [Letters.endsSentence, open_]; rfl
      rw [if_pos ends]
      rfl

theorem nextSentence_torn (front : Text) {solid : Bool} (torn : TornAt stop body later) :
    ∃ sentence after, letters.nextSentence solid (front ++ stop :: body) = some (sentence, after) ∧
      ((∃ left, after = left ++ stop :: body) ∨ ∃ left, body = left ++ after) := by
  obtain ⟨ends, seen⟩ := torn.seen
  obtain ⟨closes, unstopped, -⟩ := stopEnd_later torn.unseen seen
  cases front with
  | nil =>
    have none_ : sentenceEnd solid (stop :: body) = none := by
      refine Option.eq_none_iff_forall_ne_some.mpr fun left there => ?_
      rcases sentenceEnd_eq_some.mp there with match_ | ⟨-, -, line⟩
      · rw [torn.unseen] at match_
        cases match_
      · obtain ⟨blanks, same, some_, spaces, -⟩ := lineEnd_eq_some line
        cases blanks with
        | nil => exact some_ rfl
        | cons first rest =>
          obtain ⟨rfl, -⟩ := List.cons.inj same
          rw [isStop_of_space (spaces stop List.mem_cons_self)] at closes
          cases closes
    obtain ⟨words, rest, left, same, last, line, apart⟩ := torn.breaks
    have space : isSpace stop = false := by
      refine Bool.eq_false_iff.mpr fun space => ?_
      rw [isStop_of_space space] at closes
      cases closes
    have some_ : (letters.nextSentence (!isSpace stop) body).isSome = true :=
      nextSentence_of_break body unstopped same (fun _ => by rw [space]; rfl) last line apart
    obtain ⟨⟨more, after⟩, next⟩ := Option.isSome_iff_exists.mp some_
    refine ⟨stop :: more, after, ?_, .inr ⟨more, (nextSentence_parts body next).1⟩⟩
    rw [List.nil_append, Letters.nextSentence]
    split
    · rw [next]
      rfl
    · next matched there =>
      rw [none_] at there
      cases there
  | cons first others =>
    rw [List.cons_append, Letters.nextSentence]
    split
    · obtain ⟨more, after, next, parts⟩ := nextSentence_torn others torn
      exact ⟨first :: more, after, by rw [next]; rfl, parts⟩
    · next matched there =>
      obtain ⟨first_, more, same, unstopped_, solid_⟩ := sentenceEnd_takes there
      obtain rfl := (List.cons.inj same).1
      obtain ⟨left, rfl, rfl⟩ := matched_before closes unstopped_ (List.cons.inj same).2
      have shorter : left.length < (first :: (more ++ left)).length := by simp only [List.length_cons, List.length_append]; omega
      rw [take_matched same, if_neg (Bool.eq_false_iff.mp (not_isArriving closes left body))]
      cases goes : letters.endsSentence first (left ++ stop :: body) with
      | true => exact ⟨first :: more, left ++ stop :: body, if_pos rfl, .inl ⟨left, rfl⟩⟩
      | false =>
        obtain ⟨further, after, next, parts⟩ := nextSentence_torn left torn
        exact ⟨first :: more ++ further, after, by rw [if_neg Bool.false_ne_true, next]; rfl, parts⟩
termination_by front.length

/-! ## Sentences of the whole -/

theorem split_eq : letters.split text = match letters.nextSentence false text with
    | none => ([], text)
    | some (sentence, after) => (sentence :: (letters.split after).1, (letters.split after).2) := by
  rw [Letters.split]
  split
  · next none_ => rw [none_]
  · next found => rw [found]

theorem split_none (none_ : letters.nextSentence false text = none) : letters.split text = ([], text) := by rw [split_eq, none_]

theorem split_some (found : letters.nextSentence false text = some (sentence, after)) :
    letters.split text = (sentence :: (letters.split after).1, (letters.split after).2) := by rw [split_eq, found]

theorem split_parts (letters : Letters) (text : Text) : text = (letters.split text).1.flatten ++ (letters.split text).2 ∧
    letters.nextSentence false (letters.split text).2 = none ∧ ((letters.split text).1 ≠ [] → (letters.split text).2 ≠ []) := by
  cases found : letters.nextSentence false text with
  | none =>
    rw [split_none found]
    exact ⟨rfl, found, fun some_ => absurd rfl some_⟩
  | some next =>
    obtain ⟨sentence, after⟩ := next
    have shorter := nextSentence_shorter found
    obtain ⟨parts, -, solid⟩ := nextSentence_parts text found
    obtain ⟨rest, last, some_⟩ := split_parts letters after
    rw [split_some found]
    refine ⟨?_, last, fun _ => ?_⟩
    · rw [List.flatten_cons, List.append_assoc, ← rest, parts]
    · intro none_
      cases sentences : (letters.split after).1 with
      | nil =>
        rw [sentences, none_] at rest
        exact solid.ne_nil rest
      | cons => exact some_ (by rw [sentences]; exact List.cons_ne_nil _ _) none_
termination_by text.length

theorem split_append (letters : Letters) (text : Text) (whole : ¬Torn text later) : letters.split (text ++ later) =
    ((letters.split text).1 ++ (letters.split ((letters.split text).2 ++ later)).1, (letters.split ((letters.split text).2 ++ later)).2) := by
  cases found : letters.nextSentence false text with
  | none =>
    rw [split_none found]
    rfl
  | some next =>
    obtain ⟨sentence, after⟩ := next
    have shorter := nextSentence_shorter found
    obtain ⟨parts, -⟩ := nextSentence_parts text found
    have rest : ¬Torn after later := fun torn => whole (parts ▸ torn.behind sentence)
    rw [split_some (nextSentence_append text found whole), split_append letters after rest, split_some found]
    rfl
termination_by text.length

theorem split_around {rest ends : Text} (at_ : stopEnd (stop :: rest) = some ends) (done : List Text) (front : Text) {more : List Text}
    (same : (letters.split (front ++ stop :: rest)).1 = done ++ more) :
    done.flatten.length ≤ front.length ∨ front.length + 1 + rest.length ≤ done.flatten.length + ends.length := by
  induction done generalizing front with
  | nil => exact .inl (Nat.zero_le _)
  | cons first done ih =>
    cases found : letters.nextSentence false (front ++ stop :: rest) with
    | none =>
      rw [split_none found] at same
      cases same
    | some next =>
      obtain ⟨sentence, after⟩ := next
      rw [split_some found] at same
      obtain ⟨rfl, later⟩ := List.cons.inj same
      rcases nextSentence_around front at_ found with ⟨left, rfl, rfl⟩ | ⟨ended, rfl⟩
      · refine (ih left later).imp (fun before => ?_) fun past => ?_
        · simp only [List.flatten_cons, List.length_append]
          omega
        · simp only [List.flatten_cons, List.length_append]
          omega
      · have length := congrArg List.length (nextSentence_parts _ found).1
        simp only [List.length_append, List.length_cons, List.flatten_cons] at length ⊢
        exact .inr (by omega)

theorem split_torn (letters : Letters) (front : Text) (torn : TornAt stop body later) : ∃ done more, (letters.split (front ++ stop :: body)).1 = done ++ more ∧
    front.length < done.flatten.length ∧ done.flatten.length < front.length + 1 + body.length := by
  obtain ⟨sentence, after, found, sides⟩ : ∃ sentence after, letters.nextSentence false (front ++ stop :: body) = some (sentence, after) ∧
      ((∃ left, after = left ++ stop :: body) ∨ ∃ left, body = left ++ after) := nextSentence_torn front torn
  obtain ⟨parts, some_, solid⟩ := nextSentence_parts _ found
  have length := congrArg List.length parts
  simp only [List.length_append, List.length_cons] at length
  have some__ := List.length_pos_iff.mpr some_
  rw [split_some found]
  rcases sides with ⟨left, rfl⟩ | ⟨left, rfl⟩
  · simp only [List.length_append, List.length_cons] at length
    have shorter : left.length < front.length := by omega
    obtain ⟨done, more, same, past, before⟩ := split_torn letters left torn
    refine ⟨sentence :: done, more, by rw [same]; rfl, ?_, ?_⟩
    · simp only [List.flatten_cons, List.length_append]
      omega
    · simp only [List.flatten_cons, List.length_append]
      omega
  · have later_ := List.length_pos_iff.mpr solid.ne_nil
    rw [List.length_append] at length
    refine ⟨[sentence], (letters.split after).1, rfl, ?_, ?_⟩
    · simp only [List.flatten_cons, List.flatten_nil, List.append_nil]
      omega
    · simp only [List.flatten_cons, List.flatten_nil, List.append_nil, List.length_append]
      omega
termination_by front.length

/-! ## A text in chunks -/

def Letters.pieces (letters : Letters) (text : Text) : List Text := (letters.split text).1 ++ [(letters.split text).2]

def Letters.streamed (letters : Letters) (written : Text) : List Text → List Text
  | [] => [written]
  | chunk :: rest => (letters.split (written ++ chunk)).1 ++ letters.streamed (letters.split (written ++ chunk)).2 rest

/-- What is torn past some sentences of a text that was not torn then is torn after them. -/
theorem torn_after {sofar next : Text} (whole : ¬Torn text (sofar ++ next)) (torn : Torn (text ++ sofar) next) :
    Torn ((letters.split text).2 ++ sofar) next := by
  obtain ⟨front, stop, body, same, at_⟩ := torn
  obtain ⟨ends, seen⟩ := at_.seen
  obtain ⟨-, -, more, rfl⟩ := stopEnd_later at_.unseen seen
  obtain ⟨parts, -, some_⟩ := split_parts letters text
  have cut := same
  rw [parts, List.append_assoc] at cut
  rcases List.append_eq_append_iff.mp cut with ⟨left, rfl, rest⟩ | ⟨inside, sentences, rest⟩
  · exact ⟨left, stop, body, rest, at_⟩
  · cases inside with
    | nil => exact ⟨[], stop, body, rest.symm, at_⟩
    | cons first inside =>
      obtain ⟨rfl, within⟩ := List.cons.inj rest
      -- The mark lies in a sentence already ended, which the whole text ends no other way.
      have split := split_append letters text whole
      have again : text ++ (sofar ++ (more ++ ends)) = front ++ stop :: (body ++ (more ++ ends)) := by
        rw [← List.append_assoc, same, List.append_assoc]
        rfl
      rw [again] at split
      have length := congrArg List.length sentences
      have body_ : body = inside ++ ((letters.split text).2 ++ sofar) := within
      have ended := congrArg List.length body_
      simp only [List.length_append, List.length_cons] at length ended
      have left : 0 < (letters.split text).2.length := by
        refine List.length_pos_iff.mpr (some_ fun none_ => ?_)
        rw [none_] at length
        have empty : ([] : List Text).flatten.length = 0 := rfl
        omega
      have seen_ : stopEnd (stop :: (body ++ (more ++ ends))) = some ends := seen
      rcases split_around seen_ _ front (congrArg Prod.fst split) with before | past
      · omega
      · simp only [List.length_append] at past
        omega

/-- A text in chunks is judged by the pieces of the whole exactly when no chunk ends where the text is torn. -/
theorem streamed_eq_iff (chunks : List Text) {written : Text} (settled : letters.nextSentence false written = none) :
    letters.streamed written chunks = letters.pieces (written ++ chunks.flatten) ↔
      ∀ before after, chunks = before ++ after → before ≠ [] → ¬Torn (written ++ before.flatten) after.flatten := by
  induction chunks generalizing written with
  | nil =>
    refine iff_of_true ?_ fun before after same some_ => absurd (List.append_eq_nil_iff.mp same.symm).1 some_
    rw [List.flatten_nil, List.append_nil, Letters.pieces, split_none settled]
    rfl
  | cons chunk rest ih =>
    rw [List.flatten_cons, ← List.append_assoc]
    by_cases torn : Torn (written ++ chunk) rest.flatten
    · refine iff_of_false (fun same => ?_) fun unbroken => unbroken [chunk] rest rfl (List.cons_ne_nil _ _) (by simpa using torn)
      obtain ⟨front, stop, body, cut, at_⟩ := torn
      obtain ⟨ends, seen⟩ := at_.seen
      obtain ⟨-, -, more, later⟩ := stopEnd_later at_.unseen seen
      have ended : stopEnd (stop :: (body ++ rest.flatten)) = some ends := seen
      obtain ⟨done, others, sentences, past, before⟩ := split_torn letters front at_
      have whole : written ++ chunk ++ rest.flatten = front ++ stop :: (body ++ rest.flatten) := by
        rw [cut, List.append_assoc]
        rfl
      rw [Letters.streamed, Letters.pieces, whole, cut, sentences, List.append_assoc] at same
      have length := congrArg List.length later
      rw [List.length_append] at length
      rcases List.append_eq_append_iff.mp same with ⟨left, whole_, -⟩ | ⟨left, all, ends_⟩
      · rcases split_around ended done front whole_ with sooner | later
        · omega
        · rw [List.length_append] at later
          omega
      · have total := congrArg List.length (split_parts letters (front ++ stop :: (body ++ rest.flatten))).1
        have counted := congrArg (List.length ∘ List.flatten) all
        cases left with
        | nil =>
          have whole_ : (letters.split (front ++ stop :: (body ++ rest.flatten))).1 = done ++ [] := by
            rw [all, List.append_nil, List.append_nil]
          rcases split_around ended done front whole_ with sooner | later
          · omega
          · rw [List.length_append] at later
            omega
        | cons last others_ =>
          obtain ⟨rfl, -⟩ := List.cons.inj ends_
          simp only [Function.comp_apply, List.flatten_append, List.flatten_cons, List.length_append, List.length_cons] at total counted
          omega
    · have rests : letters.nextSentence false (letters.split (written ++ chunk)).2 = none := (split_parts letters _).2.1
      rw [Letters.streamed, Letters.pieces, split_append letters _ torn, List.append_assoc, List.append_right_inj]
      refine (ih rests).trans ⟨fun unbroken before after same some_ => ?_, fun unbroken before after same some_ broken => ?_⟩
      · cases before with
        | nil => exact absurd rfl some_
        | cons first before =>
          obtain ⟨rfl, rfl⟩ := List.cons.inj same
          rw [List.flatten_cons, ← List.append_assoc]
          replace torn : ¬Torn (written ++ chunk) (before.flatten ++ after.flatten) := List.flatten_append ▸ torn
          cases before with
          | nil => simpa using torn
          | cons second before => exact fun broken => unbroken _ after rfl (List.cons_ne_nil _ _) (torn_after torn broken)
      · subst same
        refine unbroken (chunk :: before) after rfl (List.cons_ne_nil _ _) ?_
        have front := broken.behind (letters.split (written ++ chunk)).1.flatten
        rw [← List.append_assoc, ← (split_parts letters _).1] at front
        rw [List.flatten_cons, ← List.append_assoc]
        exact front

end Grc.Search.Ask
