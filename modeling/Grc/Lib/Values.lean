import Mathlib.Data.List.Sort

/-! Dictionaries and JSON values as a jsonb column gives them back: a dictionary lists its keys
once each and in order, so that two are equal exactly when they hold the same. -/
namespace Grc.Lib

/-- A dictionary keyed by text, its keys in order. -/
abbrev Dict (α : Type) := List (String × α)

namespace Dict

variable {α : Type}

def get (dict : Dict α) (key : String) : Option α := (dict.find? (·.1 == key)).map Prod.snd

def keys (dict : Dict α) : List String := dict.map Prod.fst

def has (dict : Dict α) (key : String) : Bool := dict.any (·.1 == key)

def set (key : String) (value : α) : Dict α → Dict α
  | [] => [(key, value)]
  | (other, held) :: rest =>
    if key = other then (key, value) :: rest
    else if key < other then (key, value) :: (other, held) :: rest
    else (other, held) :: set key value rest

/-- `{**dict, **more}`. -/
def update (dict more : Dict α) : Dict α := more.foldl (fun dict entry => dict.set entry.1 entry.2) dict

def ofList (entries : List (String × α)) : Dict α := update [] entries

@[simp] theorem update_nil (dict : Dict α) : dict.update [] = dict := rfl

@[simp] theorem update_cons (dict : Dict α) (entry : String × α) (more : Dict α) :
    dict.update (entry :: more) = (dict.set entry.1 entry.2).update more := rfl

def Ordered (dict : Dict α) : Prop := dict.keys.Pairwise (· < ·)

variable {dict more : Dict α} {key : String} {value : α} {entry : String × α}

theorem mem_keys : key ∈ dict.keys ↔ ∃ value, (key, value) ∈ dict := by
  rw [keys, List.mem_map]
  constructor
  · intro held
    obtain ⟨⟨other, value⟩, member, rfl⟩ := held
    exact ⟨value, member⟩
  · intro held
    obtain ⟨value, member⟩ := held
    exact ⟨(key, value), member, rfl⟩

theorem has_iff : dict.has key = true ↔ key ∈ dict.keys := by
  rw [has, List.any_eq_true, keys, List.mem_map]
  simp only [beq_iff_eq]

theorem set_nil : set key value [] = [(key, value)] := rfl

theorem set_same (same : key = entry.1) : set key value (entry :: dict) = (key, value) :: dict := if_pos same

theorem set_before (other : key ≠ entry.1) (before : key < entry.1) : set key value (entry :: dict) = (key, value) :: entry :: dict :=
  (if_neg other).trans (if_pos before)

theorem set_after (other : key ≠ entry.1) (after : ¬key < entry.1) : set key value (entry :: dict) = entry :: set key value dict :=
  (if_neg other).trans (if_neg after)

theorem mem_keys_set {other : String} : other ∈ (dict.set key value).keys ↔ other = key ∨ other ∈ dict.keys := by
  induction dict with
  | nil => simp [set_nil, keys]
  | cons first rest ih =>
    rw [keys] at ih
    by_cases same : key = first.1
    · rw [set_same same]
      simp [keys, same]
    · by_cases before : key < first.1
      · rw [set_before same before]
        simp [keys]
      · simp only [set_after same before, keys, List.map_cons, List.mem_cons, ih]
        exact or_left_comm

theorem mem_set (member : entry ∈ dict.set key value) : entry = (key, value) ∨ entry ∈ dict := by
  induction dict with
  | nil => exact .inl (List.mem_singleton.mp member)
  | cons first rest ih =>
    by_cases same : key = first.1
    · rw [set_same same] at member
      exact (List.mem_cons.mp member).imp id (List.mem_cons_of_mem first)
    · by_cases before : key < first.1
      · rw [set_before same before] at member
        exact List.mem_cons.mp member
      · rw [set_after same before] at member
        rcases List.mem_cons.mp member with here | later
        · exact .inr (here ▸ List.mem_cons_self)
        · exact (ih later).imp id (List.mem_cons_of_mem first)

theorem get_set_self : (dict.set key value).get key = some value := by
  induction dict with
  | nil => simp [set_nil, get]
  | cons first rest ih =>
    by_cases same : key = first.1
    · rw [set_same same]
      simp [get]
    · by_cases before : key < first.1
      · rw [set_before same before]
        simp [get]
      · rw [get] at ih
        rw [set_after same before]
        simpa [get, Ne.symm same] using ih

theorem get_set_other {other : String} (apart : other ≠ key) : (dict.set key value).get other = dict.get other := by
  induction dict with
  | nil => simp [set_nil, get, apart.symm]
  | cons first rest ih =>
    by_cases same : key = first.1
    · have away : first.1 ≠ other := same ▸ apart.symm
      rw [set_same same]
      simp [get, same, away]
    · by_cases before : key < first.1
      · rw [set_before same before]
        simp [get, apart.symm]
      · rw [get, get] at ih
        rw [set_after same before]
        by_cases here : first.1 = other
        · rw [get, get, List.find?_cons_of_pos (by simp [here]), List.find?_cons_of_pos (by simp [here])]
        · simpa [get, here] using ih

theorem Ordered.set (ordered : dict.Ordered) : (dict.set key value).Ordered := by
  induction dict with
  | nil => exact List.pairwise_singleton _ _
  | cons first rest ih =>
    obtain ⟨below, later⟩ := List.pairwise_cons.mp ordered
    by_cases same : key = first.1
    · rw [set_same same, Ordered, keys, List.map_cons]
      exact List.pairwise_cons.mpr ⟨same ▸ below, later⟩
    · by_cases before : key < first.1
      · rw [set_before same before, Ordered, keys, List.map_cons]
        refine List.pairwise_cons.mpr ⟨?_, ordered⟩
        intro other member
        rcases List.mem_cons.mp member with rfl | further
        · exact before
        · exact String.lt_trans before (below other further)
      · rw [set_after same before, Ordered, keys, List.map_cons]
        refine List.pairwise_cons.mpr ⟨?_, ih later⟩
        intro other member
        rcases mem_keys_set.mp member with rfl | further
        · have above : first.1 ≤ other := String.not_lt.mp before
          by_contra apart
          exact same (String.le_antisymm (String.not_lt.mp apart) above)
        · exact below other further

theorem Ordered.update (ordered : dict.Ordered) : (dict.update more).Ordered := by
  induction more generalizing dict with
  | nil => exact ordered
  | cons entry rest ih => exact ih ordered.set

theorem ordered_ofList (entries : List (String × α)) : (ofList entries).Ordered := by
  have empty : Ordered ([] : Dict α) := .nil
  exact empty.update

theorem Ordered.filter (ordered : dict.Ordered) (keep : String × α → Bool) : Ordered (List.filter keep dict) :=
  List.Pairwise.sublist (List.filter_sublist.map Prod.fst) ordered

theorem mem_keys_update {other : String} : other ∈ (dict.update more).keys ↔ other ∈ dict.keys ∨ other ∈ more.keys := by
  induction more generalizing dict with
  | nil => simp [keys]
  | cons entry rest ih =>
    rw [update_cons, ih, mem_keys_set, keys, keys, keys, List.map_cons, List.mem_cons, or_comm (a := other = entry.1),
      or_assoc]

theorem mem_update (member : entry ∈ dict.update more) : entry ∈ dict ∨ entry ∈ more := by
  induction more generalizing dict with
  | nil => exact .inl member
  | cons first rest ih =>
    rcases ih member with earlier | later
    · rcases mem_set earlier with rfl | held
      · exact .inr List.mem_cons_self
      · exact .inl held
    · exact .inr (List.mem_cons_of_mem first later)

theorem get_update_other {other : String} (apart : other ∉ more.keys) : (dict.update more).get other = dict.get other := by
  induction more generalizing dict with
  | nil => rfl
  | cons entry rest ih =>
    rw [keys, List.map_cons, List.mem_cons, not_or] at apart
    rw [update_cons, ih apart.2, get_set_other apart.1]

theorem get_update_of_mem (given : key ∈ more.keys) : ∃ value, (key, value) ∈ more ∧ (dict.update more).get key = some value := by
  induction more generalizing dict with
  | nil => exact absurd given List.not_mem_nil
  | cons entry rest ih =>
    by_cases later : key ∈ Dict.keys rest
    · obtain ⟨value, there, found⟩ := @ih (dict.set entry.1 entry.2) later
      exact ⟨value, List.mem_cons_of_mem entry there, found⟩
    · obtain rfl := (List.mem_cons.mp given).resolve_right later
      exact ⟨entry.2, List.mem_cons_self, (get_update_other later).trans get_set_self⟩

theorem mem_of_get (found : dict.get key = some value) : (key, value) ∈ dict := by
  obtain ⟨entry, first, rfl⟩ := Option.map_eq_some_iff.mp found
  have named := List.find?_some first
  rw [beq_iff_eq] at named
  subst named
  exact List.mem_of_find?_eq_some first

theorem mem_keys_ofList {entries : List (String × α)} : key ∈ (ofList entries).keys ↔ key ∈ entries.map Prod.fst := by
  rw [ofList, mem_keys_update]
  simp [keys]

theorem mem_ofList {entries : List (String × α)} (member : entry ∈ ofList entries) : entry ∈ entries :=
  (mem_update member).resolve_left List.not_mem_nil

end Dict

def sorted (texts : List String) : List String := texts.insertionSort (· ≤ ·)

theorem Dict.Ordered.sorted_keys {α : Type} {dict : Dict α} (ordered : dict.Ordered) : sorted dict.keys = dict.keys :=
  List.Pairwise.insertionSort_eq (ordered.imp fun below => String.not_lt.mp (String.lt_asymm below))

theorem eq_of_ordered {first second : List String} (left : first.Pairwise (· < ·)) (right : second.Pairwise (· < ·))
    (same : ∀ text, text ∈ first ↔ text ∈ second) : first = second := by
  have apart {texts : List String} (ordered : texts.Pairwise (· < ·)) : texts.Nodup :=
    ordered.imp fun below => fun equal => absurd (equal ▸ below) (String.lt_irrefl _)
  have perm : first.Perm second := (List.perm_ext_iff_of_nodup (apart left) (apart right)).mpr same
  exact perm.eq_of_pairwise (fun _ _ _ _ below above => absurd above (String.lt_asymm below)) left right

/-- `", ".join`. -/
def joined (texts : List String) : String := ", ".intercalate texts

inductive Json where
  | null
  | bool (value : Bool)
  | number (value : Int)
  | text (value : String)
  | list (items : List Json)
  | dict (entries : List (String × Json))
  deriving Repr

namespace Json

mutual
def decEq : (first second : Json) → Decidable (first = second)
  | .null, .null => isTrue rfl
  | .bool first, .bool second => decidable_of_iff (first = second) (by simp)
  | .number first, .number second => decidable_of_iff (first = second) (by simp)
  | .text first, .text second => decidable_of_iff (first = second) (by simp)
  | .list first, .list second =>
    have := decEqItems first second
    decidable_of_iff (first = second) (by simp)
  | .dict first, .dict second =>
    have := decEqEntries first second
    decidable_of_iff (first = second) (by simp)
  | .null, .bool _ | .null, .number _ | .null, .text _ | .null, .list _ | .null, .dict _
  | .bool _, .null | .bool _, .number _ | .bool _, .text _ | .bool _, .list _ | .bool _, .dict _
  | .number _, .null | .number _, .bool _ | .number _, .text _ | .number _, .list _ | .number _, .dict _
  | .text _, .null | .text _, .bool _ | .text _, .number _ | .text _, .list _ | .text _, .dict _
  | .list _, .null | .list _, .bool _ | .list _, .number _ | .list _, .text _ | .list _, .dict _
  | .dict _, .null | .dict _, .bool _ | .dict _, .number _ | .dict _, .text _ | .dict _, .list _ =>
    isFalse (by simp)

def decEqItems : (first second : List Json) → Decidable (first = second)
  | [], [] => isTrue rfl
  | [], _ :: _ | _ :: _, [] => isFalse (by simp)
  | head :: rest, other :: others =>
    have := decEq head other
    have := decEqItems rest others
    decidable_of_iff (head = other ∧ rest = others) (by simp)

def decEqEntries : (first second : List (String × Json)) → Decidable (first = second)
  | [], [] => isTrue rfl
  | [], _ :: _ | _ :: _, [] => isFalse (by simp)
  | (key, value) :: rest, (otherKey, other) :: others =>
    have := decEq value other
    have := decEqEntries rest others
    decidable_of_iff ((key = otherKey ∧ value = other) ∧ rest = others) (by simp)
end

instance : DecidableEq Json := decEq

mutual
/-- Every text in a value, however deep. -/
def texts : Json → List String
  | .null | .bool _ | .number _ => []
  | .text value => [value]
  | .list items => textsOfItems items
  | .dict entries => textsOfEntries entries

def textsOfItems : List Json → List String
  | [] => []
  | item :: rest => item.texts ++ textsOfItems rest

def textsOfEntries : List (String × Json) → List String
  | [] => []
  | (_, value) :: rest => value.texts ++ textsOfEntries rest
end

def ofTexts (texts : Dict String) : Json := .dict (texts.map fun entry => (entry.1, .text entry.2))

end Json
end Grc.Lib
