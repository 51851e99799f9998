/-
This file defines dictionaries: maps from names to values whose order carries no meaning. They are
kept in ascending order of names, so two dictionaries with the same look-ups are equal, and their
texts are too.
-/

namespace Gateway

/-- A map from names to values, by its entries in ascending order of names. -/
structure Dictionary (α : Type) where
  entries : List (String × α)
  ascending : (entries.map Prod.fst).Pairwise (· < ·)

namespace Dictionary

variable {α β : Type}

/-- The entries with the name set to the value, in the place where its order puts it. -/
def insertEntry (name : String) (value : α) : List (String × α) → List (String × α)
  | [] => [(name, value)]
  | (key, old) :: rest =>
    if name < key then (name, value) :: (key, old) :: rest
    else if name = key then (name, value) :: rest
    else (key, old) :: insertEntry name value rest

/-- The value of the first entry with the name. -/
def valueAt? (name : String) : List (String × α) → Option α
  | [] => none
  | (key, value) :: rest => if key = name then some value else valueAt? name rest

/-- The entries without the name. -/
def eraseEntry (name : String) (entries : List (String × α)) : List (String × α) :=
  entries.filter fun entry => entry.1 != name

theorem mem_insertEntry {name key : String} {value : α} {entries : List (String × α)}
    (member : key ∈ (insertEntry name value entries).map Prod.fst) :
    key = name ∨ key ∈ entries.map Prod.fst := by
  induction entries with
  | nil => simpa [insertEntry] using member
  | cons entry rest inductionHypothesis =>
    obtain ⟨head, old⟩ := entry
    simp only [insertEntry] at member
    split at member
    · simpa using member
    · split at member
      · rename_i same
        subst same
        simpa using member
      · simp only [List.map_cons, List.mem_cons] at member ⊢
        rcases member with rfl | inRest
        · exact Or.inr (Or.inl rfl)
        · rcases inductionHypothesis inRest with rfl | old
          · exact Or.inl rfl
          · exact Or.inr (Or.inr old)

theorem ascending_insertEntry (name : String) (value : α) {entries : List (String × α)}
    (ascending : (entries.map Prod.fst).Pairwise (· < ·)) :
    ((insertEntry name value entries).map Prod.fst).Pairwise (· < ·) := by
  induction entries with
  | nil => simp [insertEntry]
  | cons entry rest inductionHypothesis =>
    obtain ⟨head, old⟩ := entry
    simp only [List.map_cons, List.pairwise_cons] at ascending
    simp only [insertEntry]
    split
    · rename_i before
      simp only [List.map_cons, List.pairwise_cons, List.mem_cons]
      refine ⟨?_, ascending⟩
      rintro key (rfl | inRest)
      · exact before
      · exact String.lt_trans before (ascending.1 key inRest)
    · rename_i notBefore
      split
      · rename_i same
        subst same
        simpa [List.map_cons, List.pairwise_cons] using ascending
      · rename_i different
        simp only [List.map_cons, List.pairwise_cons]
        refine ⟨?_, inductionHypothesis ascending.2⟩
        intro key member
        rcases mem_insertEntry member with rfl | inRest
        · exact String.not_le.mp fun below =>
            different (String.le_antisymm below (String.not_lt.mp notBefore))
        · exact ascending.1 key inRest

/-- The dictionary without entries. -/
def empty : Dictionary α := ⟨[], List.Pairwise.nil⟩

/-- The dictionary with the name set to the value. -/
def insert (dictionary : Dictionary α) (name : String) (value : α) : Dictionary α :=
  ⟨insertEntry name value dictionary.entries, ascending_insertEntry name value dictionary.ascending⟩

/-- The value of the name. -/
def find? (dictionary : Dictionary α) (name : String) : Option α :=
  valueAt? name dictionary.entries

/-- The dictionary without the name. -/
def erase (dictionary : Dictionary α) (name : String) : Dictionary α :=
  ⟨eraseEntry name dictionary.entries, by
    have sublist : (eraseEntry name dictionary.entries).Sublist dictionary.entries :=
      List.filter_sublist
    exact dictionary.ascending.sublist (sublist.map Prod.fst)⟩

/-- The dictionary of a list of entries; of entries with one name the last one counts. -/
def ofList (entries : List (String × α)) : Dictionary α :=
  entries.foldl (fun dictionary entry => dictionary.insert entry.1 entry.2) empty

/-! ### What a look-up finds -/

theorem valueAt?_insertEntry (name key : String) (value : α) (entries : List (String × α)) :
    valueAt? key (insertEntry name value entries) =
      if name = key then some value else valueAt? key entries := by
  induction entries with
  | nil => simp [insertEntry, valueAt?]
  | cons entry rest inductionHypothesis =>
    obtain ⟨head, old⟩ := entry
    simp only [insertEntry]
    split
    · simp [valueAt?]
    · split
      · rename_i same
        subst same
        simp only [valueAt?]
        split <;> rfl
      · rename_i different
        simp only [valueAt?, inductionHypothesis]
        split
        · rename_i same
          rw [if_neg]
          exact fun equal => different (equal.trans same.symm)
        · rfl

/-- A name that was set is found with its new value, and every other as before. -/
theorem find?_insert (dictionary : Dictionary α) (name key : String) (value : α) :
    (dictionary.insert name value).find? key =
      if name = key then some value else dictionary.find? key :=
  valueAt?_insertEntry name key value dictionary.entries

@[simp] theorem find?_empty (key : String) : (empty : Dictionary α).find? key = none := rfl

/-- Among the entries whose names are kept, a kept name is found as before, and no other one is. -/
theorem valueAt?_filter (keeps : String → Bool) (key : String) (entries : List (String × α)) :
    valueAt? key (entries.filter fun entry => keeps entry.1) =
      if keeps key then valueAt? key entries else none := by
  induction entries with
  | nil => exact (ite_self none).symm
  | cons entry rest inductionHypothesis =>
    obtain ⟨head, old⟩ := entry
    by_cases same : head = key
    · subst same
      by_cases kept : keeps head = true
      · simp [kept, valueAt?]
      · simp [kept, inductionHypothesis]
    · by_cases kept : keeps head = true
      · simp [kept, valueAt?, same, inductionHypothesis]
      · simp [kept, valueAt?, same, inductionHypothesis]

theorem valueAt?_eraseEntry (name key : String) (entries : List (String × α)) :
    valueAt? key (eraseEntry name entries) = if name = key then none else valueAt? key entries := by
  rw [eraseEntry, valueAt?_filter (fun head => head != name)]
  by_cases same : name = key
  · simp [same]
  · simp [same, Ne.symm same]

/-- An erased name is found no more, and every other as before. -/
theorem find?_erase (dictionary : Dictionary α) (name key : String) :
    (dictionary.erase name).find? key = if name = key then none else dictionary.find? key :=
  valueAt?_eraseEntry name key dictionary.entries

/-! ### Equal look-ups -/

theorem valueAt?_eq_none {name : String} {entries : List (String × α)}
    (absent : name ∉ entries.map Prod.fst) : valueAt? name entries = none := by
  induction entries with
  | nil => rfl
  | cons entry rest inductionHypothesis =>
    simp only [List.map_cons, List.mem_cons, not_or] at absent
    simp only [valueAt?]
    rw [if_neg fun equal => absent.1 equal.symm, inductionHypothesis absent.2]

theorem entries_eq_of_valueAt? {first second : List (String × α)}
    (firstAscending : (first.map Prod.fst).Pairwise (· < ·))
    (secondAscending : (second.map Prod.fst).Pairwise (· < ·))
    (same : ∀ name, valueAt? name first = valueAt? name second) : first = second := by
  induction first generalizing second with
  | nil =>
    cases second with
    | nil => rfl
    | cons entry rest =>
      have := same entry.1
      simp [valueAt?] at this
  | cons entry rest inductionHypothesis =>
    obtain ⟨name, value⟩ := entry
    simp only [List.map_cons, List.pairwise_cons] at firstAscending
    cases second with
    | nil =>
      have := same name
      simp [valueAt?] at this
    | cons other others =>
      obtain ⟨otherName, otherValue⟩ := other
      simp only [List.map_cons, List.pairwise_cons] at secondAscending
      have absentBelow {key : String} {list : List (String × α)} {low : String}
          (above : ∀ inside ∈ list.map Prod.fst, low < inside) (below : key = low ∨ key < low) :
          valueAt? key list = none :=
        valueAt?_eq_none fun inside => by
          rcases below with rfl | below
          · exact String.lt_irrefl _ (above _ inside)
          · exact String.lt_irrefl _ (String.lt_trans below (above _ inside))
      have names : name = otherName := by
        by_cases before : name < otherName
        · have found := same name
          simp only [valueAt?, if_true] at found
          rw [if_neg (fun equal => String.lt_irrefl _ (equal ▸ before)),
            absentBelow secondAscending.1 (Or.inr before)] at found
          cases found
        · by_cases behind : otherName < name
          · have found := same otherName
            simp only [valueAt?, if_true] at found
            rw [if_neg (fun equal => String.lt_irrefl _ (equal ▸ behind)),
              absentBelow firstAscending.1 (Or.inr behind)] at found
            cases found
          · exact String.le_antisymm (String.not_lt.mp behind) (String.not_lt.mp before)
      subst names
      have values : value = otherValue := by simpa [valueAt?] using same name
      subst values
      congr 1
      apply inductionHypothesis firstAscending.2 secondAscending.2
      intro key
      by_cases here : name = key
      · rw [absentBelow firstAscending.1 (Or.inl here.symm),
          absentBelow secondAscending.1 (Or.inl here.symm)]
      · simpa [valueAt?, here] using same key

/-- Dictionaries with the same look-ups are equal. -/
theorem ext_find? {first second : Dictionary α}
    (same : ∀ name, first.find? name = second.find? name) : first = second := by
  obtain ⟨firstEntries, firstAscending⟩ := first
  obtain ⟨secondEntries, secondAscending⟩ := second
  have entries : firstEntries = secondEntries :=
    entries_eq_of_valueAt? firstAscending secondAscending same
  subst entries
  rfl

theorem find?_foldl_insert {entries : List (String × α)} (distinct : (entries.map Prod.fst).Nodup)
    (dictionary : Dictionary α) (name : String) :
    (entries.foldl (fun dictionary entry => dictionary.insert entry.1 entry.2) dictionary).find?
        name =
      (valueAt? name entries).or (dictionary.find? name) := by
  induction entries generalizing dictionary with
  | nil => rfl
  | cons entry rest inductionHypothesis =>
    obtain ⟨key, value⟩ := entry
    obtain ⟨absent, restDistinct⟩ := List.nodup_cons.mp distinct
    rw [List.foldl_cons, inductionHypothesis restDistinct, find?_insert, valueAt?]
    by_cases same : key = name
    · subst same
      rw [valueAt?_eq_none absent, if_pos rfl, if_pos rfl, Option.none_or, Option.some_or]
    · rw [if_neg same, if_neg same]

/-- What is found after entries were set is one of them, or was found before. -/
theorem find?_foldl_insert_eq_some {entries : List (String × α)} {dictionary : Dictionary α}
    {name : String} {value : α}
    (found : (entries.foldl (fun dictionary entry => dictionary.insert entry.1 entry.2)
      dictionary).find? name = some value) :
    (name, value) ∈ entries ∨ dictionary.find? name = some value := by
  induction entries generalizing dictionary with
  | nil => exact Or.inr found
  | cons entry rest inductionHypothesis =>
    rw [List.foldl_cons] at found
    rcases inductionHypothesis found with inRest | before
    · exact Or.inl (List.mem_cons_of_mem entry inRest)
    · rw [find?_insert] at before
      split at before
      · next same =>
        obtain rfl := Option.some.inj before
        exact Or.inl (same ▸ List.mem_cons_self)
      · exact Or.inr before

/-- What the dictionary of a list finds is in the list. -/
theorem mem_of_find?_ofList {entries : List (String × α)} {name : String} {value : α}
    (found : (ofList entries).find? name = some value) : (name, value) ∈ entries := by
  rcases find?_foldl_insert_eq_some found with inside | before
  · exact inside
  · cases before

/-- The dictionary of its own entries is the dictionary. -/
theorem ofList_entries (dictionary : Dictionary α) : ofList dictionary.entries = dictionary := by
  refine ext_find? fun name => ?_
  have distinct : (dictionary.entries.map Prod.fst).Nodup :=
    dictionary.ascending.imp fun below => String.ne_of_lt below
  rw [ofList, find?_foldl_insert distinct, find?_empty, Option.or_none]
  rfl

end Dictionary

end Gateway
