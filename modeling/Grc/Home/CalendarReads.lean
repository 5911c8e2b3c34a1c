import Grc.Home.CalendarFile

/-! What a calendar program reads from the file: one event an item, with the item's texts and no property besides. -/
namespace Grc.Home

open Grc.Lib

/-! ## Lines as properties -/

variable {settings : Settings} {now : UtcClock} {entry : String × HomeRoadmapItem} {items : List (String × HomeRoadmapItem)}

def isInert (char : Char) : Bool := char != '\r' && char != '\\' && char != ',' && char != ';'

theorem isInert_digitChar {number : Nat} (digit : number < 10) : isInert (Nat.digitChar number) = true := by
  have all : ∀ number < 10, isInert (Nat.digitChar number) = true := by decide
  exact all number digit

theorem isInert_twoDigits {number : Nat} (small : number < 100) : ∀ char ∈ twoDigits number, isInert char = true :=
  List.forall_mem_cons.mpr ⟨isInert_digitChar (Nat.div_lt_of_lt_mul small),
    List.forall_mem_singleton.mpr (isInert_digitChar (Nat.mod_lt _ (by decide)))⟩

theorem isInert_toDigits (number : Nat) : ∀ char ∈ Nat.toDigits 10 number, isInert char = true := by
  intro char there
  have digit := Nat.isDigit_of_mem_toDigits (Nat.zero_lt_succ 9) (Nat.le_refl 10) there
  simp only [isInert, Bool.and_eq_true, bne_iff_ne]
  refine ⟨⟨⟨?_, ?_⟩, ?_⟩, ?_⟩ <;>
  · rintro rfl
    exact absurd digit (by decide)

theorem isInert_compactDate (day : Day) : ∀ char ∈ compactDate day, isInert char = true := by
  have month := day.monthIn
  have days := Day.daysInMonth_le day.year day.month
  have within := day.dayIn
  refine List.forall_mem_append.mpr ⟨List.forall_mem_append.mpr ⟨isInert_toDigits day.year, ?_⟩, ?_⟩
  · exact isInert_twoDigits (by omega)
  · exact isInert_twoDigits (by omega)

theorem isInert_compactTime (now : UtcClock) : ∀ char ∈ compactTime now, isInert char = true := by
  have time : ∀ char ∈ twoDigits now.hour ++ twoDigits now.minute ++ twoDigits now.second ++ ['Z'], isInert char = true := by
    refine List.forall_mem_append.mpr ⟨List.forall_mem_append.mpr ⟨List.forall_mem_append.mpr ⟨?_, ?_⟩, ?_⟩, List.forall_mem_singleton.mpr rfl⟩
    · exact isInert_twoDigits (by omega)
    · exact isInert_twoDigits (by omega)
    · exact isInert_twoDigits (by omega)
  exact List.forall_mem_append.mpr ⟨isInert_compactDate now.day, List.forall_mem_cons.mpr ⟨by decide, time⟩⟩

theorem texts_inert {value : List Char} (inert : ∀ char ∈ value, isInert char = true) : (values value).map unescape = [value] := by
  refine values_unmarked fun char there => ?_
  have plain := inert char there
  simp only [isInert, Bool.and_eq_true, bne_iff_ne] at plain
  exact ⟨plain.1.1.2, not_or.mpr ⟨plain.1.2, plain.2⟩⟩

theorem return_notin_inert {value : List Char} (inert : ∀ char ∈ value, isInert char = true) : '\r' ∉ value :=
  fun there => absurd (inert '\r' there) (by decide)

theorem return_notin_escape (text : List Char) : '\r' ∉ escape text := by
  rw [escape_eq]
  exact (escapeText_plain text).1

theorem return_notin_uidDomain (settings : Settings) : '\r' ∉ uidDomain settings := by
  have cleaned : '\r' ∉ cleanAddress settings.appBaseUrl.toList := by
    intro there
    have kept := (List.mem_filter.mp there).2
    exact absurd kept (by decide)
  unfold uidDomain
  simp only
  split
  · decide
  · exact notMem_hostname (by decide) cleaned

/-- An event's properties, as its lines have them. -/
def eventProperties (settings : Settings) (now : UtcClock) (entry : String × HomeRoadmapItem) : List Property :=
  [{ name := "UID".toList, parameters := [], value := escape entry.1.toList ++ '@' :: uidDomain settings },
    { name := "DTSTAMP".toList, parameters := [], value := compactTime now },
    { name := "DTSTART".toList, parameters := ";VALUE=DATE".toList, value := compactDate entry.2.date },
    { name := "SUMMARY".toList, parameters := [], value := escape (summary entry.2) },
    { name := "DESCRIPTION".toList, parameters := [], value := escape (entry.2.sourceLabel.getD "").toList },
    { name := "URL".toList, parameters := [], value := escape (link settings entry.2) }]

theorem saying_lead (lead name parameters : List Char)
    (plain : isLead lead = true ∧ (lead.takeWhile (· != ';')).map Char.toUpper = name ∧ lead.dropWhile (· != ';') = parameters ∧
      name ≠ "BEGIN".toList ∧ name ≠ "END".toList) (value : List Char) : Saying (lead ++ ':' :: value) { name, parameters, value } := by
  obtain ⟨isLead, rfl, rfl, notBegin, notEnd⟩ := plain
  exact ⟨readProperty_lead isLead value, notBegin, notEnd⟩

theorem saying_text (text : String) (lead name parameters : List Char) (opens : text.toList = lead ++ [':'])
    (plain : isLead lead = true ∧ (lead.takeWhile (· != ';')).map Char.toUpper = name ∧ lead.dropWhile (· != ';') = parameters ∧
      name ≠ "BEGIN".toList ∧ name ≠ "END".toList) (value : List Char) : Saying (text.toList ++ value) { name, parameters, value } := by
  rw [opens, List.append_assoc]
  exact saying_lead lead name parameters plain value

section
variable (settings : Settings) (now : UtcClock) (entry : String × HomeRoadmapItem)

def eventBody : List (List Char) :=
  (event settings now entry).tail.dropLast

theorem event_eq : event settings now entry = "BEGIN:VEVENT".toList :: (eventBody settings now entry ++ ["END:VEVENT".toList]) := rfl

theorem eventBody_saying : List.Forall₂ Saying (eventBody settings now entry) (eventProperties settings now entry) := by
  refine .cons ?_ (.cons ?_ (.cons ?_ (.cons ?_ (.cons ?_ (.cons ?_ .nil)))))
  · rw [List.append_assoc]
    exact saying_text "UID:" "UID".toList "UID".toList [] rfl (by decide) _
  · exact saying_text "DTSTAMP:" "DTSTAMP".toList "DTSTAMP".toList [] rfl (by decide) _
  · exact saying_text "DTSTART;VALUE=DATE:" "DTSTART;VALUE=DATE".toList "DTSTART".toList ";VALUE=DATE".toList rfl (by decide) _
  · exact saying_text "SUMMARY:" "SUMMARY".toList "SUMMARY".toList [] rfl (by decide) _
  · exact saying_text "DESCRIPTION:" "DESCRIPTION".toList "DESCRIPTION".toList [] rfl (by decide) _
  · exact saying_text "URL:" "URL".toList "URL".toList [] rfl (by decide) _

def eventOf : Component :=
  .mk "VEVENT".toList (eventProperties settings now entry) []

theorem readAll_event (reader : Reader) : reader.readAll (event settings now entry) = some (reader.withPart (eventOf settings now entry)) := by
  have begun : readProperty "BEGIN:VEVENT".toList = some ⟨"BEGIN".toList, [], "VEVENT".toList⟩ := by decide
  have ended : readProperty "END:VEVENT".toList = some ⟨"END".toList, [], "VEVENT".toList⟩ := by decide
  rw [event_eq, Reader.readAll_component begun ended (eventBody_saying settings now entry)]
  rfl

end

/-- What a calendar program takes from an event about an item: six properties, each with the texts of its values. -/
structure Tells (settings : Settings) (now : UtcClock) (entry : String × HomeRoadmapItem) (event : Component) : Prop where
  name : event.name = "VEVENT".toList
  parts : event.parts = []
  texts : event.properties.map (fun property => (property.name, property.parameters, property.texts)) =
    [("UID".toList, [], ((values ('@' :: uidDomain settings)).map unescape).modifyHead (lineEnds entry.1.toList ++ ·)),
      ("DTSTAMP".toList, [], [compactTime now]),
      ("DTSTART".toList, ";VALUE=DATE".toList, [compactDate entry.2.date]),
      ("SUMMARY".toList, [], [lineEnds (summary entry.2)]),
      ("DESCRIPTION".toList, [], [lineEnds (entry.2.sourceLabel.getD "").toList]),
      ("URL".toList, [], [lineEnds (link settings entry.2)])]

theorem tells_event (settings : Settings) (now : UtcClock) (entry : String × HomeRoadmapItem) :
    Tells settings now entry (eventOf settings now entry) := by
  refine ⟨rfl, rfl, ?_⟩
  simp only [Component.properties, eventOf, eventProperties, List.map_cons, List.map_nil, Property.texts, escape_eq, texts_escapeText, texts_escaped,
    texts_inert (isInert_compactTime now), texts_inert (isInert_compactDate entry.2.date)]

/-! ## The lines of the file -/

theorem event_plain (settings : Settings) (now : UtcClock) (entry : String × HomeRoadmapItem) :
    ∀ line ∈ event settings now entry, '\r' ∉ line ∧ line.head?.any isBlank = false := by
  have lead : ∀ (lead value : List Char), '\r' ∉ lead → '\r' ∉ value → '\r' ∉ lead ++ value := by
    intro lead value first second there
    exact (List.mem_append.mp there).elim first second
  have at_ : '\r' ∉ '@' :: uidDomain settings := List.not_mem_cons_of_ne_of_not_mem (by decide) (return_notin_uidDomain settings)
  refine List.forall_mem_cons.mpr ⟨by decide, List.forall_mem_cons.mpr ⟨⟨?_, rfl⟩, List.forall_mem_cons.mpr ⟨⟨?_, rfl⟩,
    List.forall_mem_cons.mpr ⟨⟨?_, rfl⟩, List.forall_mem_cons.mpr ⟨⟨?_, rfl⟩, List.forall_mem_cons.mpr ⟨⟨?_, rfl⟩,
    List.forall_mem_cons.mpr ⟨⟨?_, rfl⟩, by decide⟩⟩⟩⟩⟩⟩⟩
  · exact lead _ _ (lead _ _ (by decide) (return_notin_escape _)) at_
  · exact lead _ _ (by decide) (return_notin_inert (isInert_compactTime now))
  · exact lead _ _ (by decide) (return_notin_inert (isInert_compactDate entry.2.date))
  · exact lead _ _ (by decide) (return_notin_escape _)
  · exact lead _ _ (by decide) (return_notin_escape _)
  · exact lead _ _ (by decide) (return_notin_escape _)

def closing (settings : Settings) (items : List (String × HomeRoadmapItem)) (now : UtcClock) : List (List Char) :=
  items.flatMap (event settings now) ++ ["END:VCALENDAR".toList]

theorem closing_plain (settings : Settings) (items : List (String × HomeRoadmapItem)) (now : UtcClock) :
    ∀ line ∈ closing settings items now, '\r' ∉ line ∧ line.head?.any isBlank = false := by
  refine List.forall_mem_append.mpr ⟨fun line there => ?_, by decide⟩
  obtain ⟨entry, -, inside⟩ := List.mem_flatMap.mp there
  exact event_plain settings now entry line inside

theorem readAll_events (settings : Settings) (now : UtcClock) (items : List (String × HomeRoadmapItem)) (reader : Reader) :
    reader.readAll (items.flatMap (event settings now)) = some ((items.map (eventOf settings now)).foldl Reader.withPart reader) := by
  induction items generalizing reader with
  | nil => rfl
  | cons entry items ih => rw [List.flatMap_cons, Reader.readAll_append, readAll_event, Option.bind_some, ih, List.map_cons, List.foldl_cons]

theorem foldl_withPart (name : List Char) (properties : List Property) (outside : List Component) (events parts : List Component) :
    events.foldl Reader.withPart ⟨.mk name properties parts, outside⟩ = ⟨.mk name properties (parts ++ events), outside⟩ := by
  induction events generalizing parts with
  | nil => rw [List.append_nil]; rfl
  | cons event events ih =>
    rw [List.foldl_cons, ← List.singleton_append, ← List.append_assoc]
    exact ih (parts ++ [event])

theorem readAll_opening (settings : Settings) :
    Reader.start.readAll (opening settings) = some ⟨.mk "VCALENDAR".toList
      [⟨"VERSION".toList, [], "2.0".toList⟩, ⟨"PRODID".toList, [], "-//bleqq//".toList ++ settings.productName.toList ++ "//EN".toList⟩] [],
      [.mk [] [] []]⟩ := by
  have begun : Reader.start.readLine "BEGIN:VCALENDAR".toList = some ⟨.mk "VCALENDAR".toList [] [], [.mk [] [] []]⟩ := by
    have found : readProperty "BEGIN:VCALENDAR".toList = some ⟨"BEGIN".toList, [], "VCALENDAR".toList⟩ := by decide
    rw [Reader.readLine, found]
    rfl
  have product : Saying ("PRODID:-//bleqq//".toList ++ settings.productName.toList ++ "//EN".toList)
      ⟨"PRODID".toList, [], "-//bleqq//".toList ++ settings.productName.toList ++ "//EN".toList⟩ :=
    saying_lead "PRODID".toList "PRODID".toList [] (by decide) _
  have version : Saying "VERSION:2.0".toList ⟨"VERSION".toList, [], "2.0".toList⟩ :=
    saying_lead "VERSION".toList "VERSION".toList [] (by decide) _
  rw [opening, Reader.readAll_cons, begun, Option.bind_some]
  exact Reader.readAll_saying (.cons version (.cons product .nil)) _ _ _ _

/-- The calendar says each item's texts and nothing else: whatever the items' texts are, the file is written, its lines are short and text,
and it reads as its opening with one event an item and the calendar's end after it. -/
theorem icsDocument_encodes (settings : Settings) (items : List (String × HomeRoadmapItem)) (now : UtcClock) :
    ∃ head document events, written (opening settings) = some head ∧ icsDocument settings items now = some document ∧
      (∀ line ∈ physicalLines (Octets.encode document), line.length ≤ 75 ∧ ∃ text, Octets.decode line = some text) ∧
      readLines (Octets.encode document) =
        (readLines (Octets.encode head)).map (· ++ items.flatMap (event settings now) ++ ["END:VCALENDAR".toList]) ∧
      List.Forall₂ (Tells settings now) items events ∧
      readOctets (Octets.encode document) =
        (readOctets (Octets.encode head)).bind (fun reader => (events.foldl Reader.withPart reader).readLine "END:VCALENDAR".toList) ∧
      ('\r' ∉ settings.productName.toList → readOctets (Octets.encode document) = some (Reader.start.withPart (.mk "VCALENDAR".toList
        [⟨"VERSION".toList, [], "2.0".toList⟩, ⟨"PRODID".toList, [], "-//bleqq//".toList ++ settings.productName.toList ++ "//EN".toList⟩] events))) := by
  obtain ⟨front, openFolded, openFound⟩ := mapM_fold (opening settings)
  obtain ⟨back, closeFolded, closeFound⟩ := mapM_fold (closing settings items now)
  have whole : icsDocument settings items now = some (ended front.flatten ++ ended back.flatten) := by
    have lines : opening settings ++ items.flatMap (event settings now) ++ ["END:VCALENDAR".toList] =
        opening settings ++ closing settings items now := List.append_assoc ..
    rw [icsDocument, written, lines, List.mapM_append, openFound, closeFound]
    exact congrArg some ((congrArg ended List.flatten_append).trans (ended_append _ _))
  have plain := closing_plain settings items now
  have content := contentLines_folded closeFolded (fun line there => (plain line there).1) (fun line there => (plain line there).2) front.flatten
  have read : readLines (Octets.encode (ended front.flatten ++ ended back.flatten)) =
      (readLines (Octets.encode (ended front.flatten))).map (· ++ closing settings items now) := by
    rw [Octets.readLines_encode, Octets.readLines_encode, content, Option.map_some]
  have after : ∀ reader : Reader, reader.readAll (closing settings items now) =
      ((items.map (eventOf settings now)).foldl Reader.withPart reader).readLine "END:VCALENDAR".toList := by
    intro reader
    rw [closing, Reader.readAll_append, readAll_events, Option.bind_some, Reader.readAll_cons]
    cases Reader.readLine _ "END:VCALENDAR".toList <;> rfl
  have octets : readOctets (Octets.encode (ended front.flatten ++ ended back.flatten)) =
      (readOctets (Octets.encode (ended front.flatten))).bind
        (fun reader => ((items.map (eventOf settings now)).foldl Reader.withPart reader).readLine "END:VCALENDAR".toList) := by
    rw [readOctets, readOctets, read, Octets.readLines_encode, Option.map_some, Option.bind_some, Option.bind_some, Reader.readAll_append]
    simp only [after]
  refine ⟨ended front.flatten, _, items.map (eventOf settings now), ?_, whole, ?_, ?_, ?_, octets, ?_⟩
  · rw [written, openFound, Option.map_some]
  · rw [← ended_append, ← List.flatten_append]
    exact physicalLines_folded (List.rel_append openFolded closeFolded)
  · rw [read]
    congr 1
    funext lines
    exact (List.append_assoc ..).symm
  · exact List.forall₂_map_right_iff.mpr (List.forall₂_same.mpr fun entry _ => tells_event settings now entry)
  · intro oneLine
    have openPlain : ∀ line ∈ opening settings, '\r' ∉ line ∧ line.head?.any isBlank = false := by
      refine List.forall_mem_cons.mpr ⟨by decide, List.forall_mem_cons.mpr ⟨by decide, List.forall_mem_singleton.mpr ⟨?_, rfl⟩⟩⟩
      intro there
      rcases List.mem_append.mp there with there | there
      · rcases List.mem_append.mp there with there | there
        · exact absurd there (by decide)
        · exact oneLine there
      · exact absurd there (by decide)
    have headLines : readLines (Octets.encode (ended front.flatten)) = some (opening settings) := by
      have read := contentLines_folded openFolded (fun line there => (openPlain line there).1) (fun line there => (openPlain line there).2) []
      rw [Octets.readLines_encode]
      exact congrArg some read
    have leave := foldl_withPart "VCALENDAR".toList
      [⟨"VERSION".toList, [], "2.0".toList⟩, ⟨"PRODID".toList, [], "-//bleqq//".toList ++ settings.productName.toList ++ "//EN".toList⟩]
      [.mk [] [] []] (items.map (eventOf settings now)) []
    rw [octets, readOctets, headLines, Option.bind_some, readAll_opening, Option.bind_some, leave]
    rfl

end Grc.Home
