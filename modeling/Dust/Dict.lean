/-!
# Dictionaries

A dictionary is the list of its entries in the order of their keys, where no key occurs twice. Keys
are ordered by the code points of their characters.
-/

namespace Dust

/-- Entries in the order of their keys. -/
abbrev Dict (α : Type) := List (String × α)

namespace Dict

variable {α : Type}

/-- The value of a key. -/
def get? : Dict α → String → Option α
  | [], _ => none
  | (name, value) :: rest, key => if name = key then some value else get? rest key

/-- Whether a key has a value. -/
def has (entries : Dict α) (key : String) : Bool :=
  (entries.get? key).isSome

/-- Gives a key a value in place of the one it may have. -/
def insert : Dict α → String → α → Dict α
  | [], key, value => [(key, value)]
  | (name, old) :: rest, key, value =>
    if key < name then (key, value) :: (name, old) :: rest
    else if key = name then (key, value) :: rest
    else (name, old) :: insert rest key value

/-- Removes a key with its value. -/
def erase : Dict α → String → Dict α
  | [], _ => []
  | (name, old) :: rest, key => if name = key then rest else (name, old) :: erase rest key

/-- Inserts entries one after the other, so that the last value of a key stays. -/
def insertAll (entries : Dict α) (added : List (String × α)) : Dict α :=
  added.foldl (fun entries entry => entries.insert entry.1 entry.2) entries

/-- The dictionary of a list of entries. The last value of a key stays. -/
def ofList (entries : List (String × α)) : Dict α :=
  insertAll [] entries

/-- The keys in their order. -/
def keys (entries : Dict α) : List String :=
  entries.map Prod.fst

/-- The values in the order of their keys. -/
def values (entries : Dict α) : List α :=
  entries.map Prod.snd

/-- The keys are in strictly increasing order. -/
def Sorted (entries : Dict α) : Prop :=
  entries.keys.Pairwise (· < ·)

instance (entries : Dict α) : Decidable entries.Sorted :=
  inferInstanceAs (Decidable (entries.keys.Pairwise (· < ·)))

/-- A key that has just been given a value has that value. -/
theorem get?_insert_self (entries : Dict α) (key : String) (value : α) :
    (entries.insert key value).get? key = some value := by
  induction entries with
  | nil => simp [insert, get?]
  | cons entry rest induction =>
    obtain ⟨name, old⟩ := entry
    unfold insert
    split
    · simp [get?]
    · split
      · simp [get?]
      · rename_i _ differ
        simp [get?, Ne.symm differ, induction]

/-- Giving a key a value does not change the values of the others. -/
theorem get?_insert_of_ne (entries : Dict α) {key other : String} (value : α)
    (differ : other ≠ key) : (entries.insert key value).get? other = entries.get? other := by
  induction entries with
  | nil => simp [insert, get?, differ.symm]
  | cons entry rest induction =>
    obtain ⟨name, old⟩ := entry
    unfold insert
    split
    · simp [get?, differ.symm]
    · split
      · rename_i same
        subst same
        simp [get?, differ.symm]
      · simp [get?, induction]

/-- Removing a key does not change the values of the others. -/
theorem get?_erase_of_ne (entries : Dict α) {key other : String} (differ : other ≠ key) :
    (entries.erase key).get? other = entries.get? other := by
  induction entries with
  | nil => rfl
  | cons entry rest induction =>
    obtain ⟨name, old⟩ := entry
    unfold erase
    split
    · rename_i same
      subst same
      simp [get?, differ.symm]
    · simp [get?, induction]

/-- An entry is there after a key has been given a value only if it is the new one or was there
before. -/
theorem mem_insert {entries : Dict α} {key : String} {value : α} {entry : String × α}
    (mem : entry ∈ entries.insert key value) : entry = (key, value) ∨ entry ∈ entries := by
  induction entries with
  | nil => simpa [insert] using mem
  | cons first rest induction =>
    obtain ⟨name, old⟩ := first
    unfold insert at mem
    split at mem
    · exact List.mem_cons.mp mem
    · split at mem
      · exact (List.mem_cons.mp mem).imp_right (List.mem_cons_of_mem _)
      · rcases List.mem_cons.mp mem with rfl | mem
        · exact .inr List.mem_cons_self
        · exact (induction mem).imp_right (List.mem_cons_of_mem _)

/-- An entry is there after others have been inserted only if it is one of them or was there
before. -/
theorem mem_insertAll {entries : Dict α} {added : List (String × α)} {entry : String × α}
    (mem : entry ∈ entries.insertAll added) : entry ∈ added ∨ entry ∈ entries := by
  induction added generalizing entries with
  | nil => exact .inr mem
  | cons first rest induction =>
    rcases induction mem with mem | mem
    · exact .inl (List.mem_cons_of_mem _ mem)
    · rcases mem_insert mem with rfl | mem
      · exact .inl List.mem_cons_self
      · exact .inr mem

/-- The entries of the dictionary of a list are in the list. -/
theorem mem_ofList {entries : List (String × α)} {entry : String × α}
    (mem : entry ∈ ofList entries) : entry ∈ entries :=
  (mem_insertAll mem).resolve_right List.not_mem_nil

/-- The value of a key stands in an entry. -/
theorem mem_of_get? {entries : Dict α} {key : String} {value : α}
    (found : entries.get? key = some value) : (key, value) ∈ entries := by
  induction entries with
  | nil => simp [get?] at found
  | cons first rest induction =>
    obtain ⟨name, old⟩ := first
    unfold get? at found
    split at found
    · rename_i same
      cases found
      exact same ▸ List.mem_cons_self
    · exact List.mem_cons_of_mem _ (induction found)

/-- The first entries are in order where all of them are. -/
theorem Sorted.left {front back : Dict α} (sorted : Sorted (front ++ back)) : Sorted front := by
  unfold Sorted keys at sorted ⊢
  rw [List.map_append] at sorted
  exact (List.pairwise_append.mp sorted).1

/-- A key that comes after all others stands at the end. -/
theorem insert_last {entries : Dict α} {key : String} {value : α}
    (sorted : Sorted (entries ++ [(key, value)])) :
    entries.insert key value = entries ++ [(key, value)] := by
  induction entries with
  | nil => rfl
  | cons entry rest induction =>
    obtain ⟨name, old⟩ := entry
    simp only [Sorted, keys, List.cons_append, List.map_cons, List.pairwise_cons] at sorted
    have less : name < key := sorted.1 key (by simp)
    have more := induction sorted.2
    rw [insert, if_neg (String.lt_asymm less), if_neg, more]
    · rfl
    · rintro rfl
      exact String.lt_irrefl _ less

/-- Entries in order that come after all others are put behind them. -/
theorem insertAll_of_sorted {front back : Dict α} (sorted : Sorted (front ++ back)) :
    front.insertAll back = front ++ back := by
  induction back generalizing front with
  | nil => simp [insertAll]
  | cons entry rest induction =>
    have split : front ++ entry :: rest = front ++ [entry] ++ rest := by simp
    rw [split] at sorted
    have last : front.insert entry.1 entry.2 = front ++ [entry] := insert_last sorted.left
    rw [split, ← induction sorted, ← last]
    rfl

/-- The dictionary of entries in order is these entries. -/
theorem ofList_of_sorted {entries : Dict α} (sorted : Sorted entries) : ofList entries = entries :=
  @insertAll_of_sorted α [] entries sorted

/-- The keys stay in order when a key is given a value. -/
theorem Sorted.insert {entries : Dict α} (sorted : Sorted entries) (key : String) (value : α) :
    Sorted (entries.insert key value) := by
  induction entries with
  | nil => exact List.pairwise_singleton ..
  | cons entry rest induction =>
    obtain ⟨name, old⟩ := entry
    obtain ⟨above, ordered⟩ := List.pairwise_cons.mp sorted
    unfold Dict.insert
    split
    · rename_i less
      refine List.pairwise_cons.mpr ⟨List.forall_mem_cons.mpr ⟨less, ?_⟩, sorted⟩
      exact fun other mem => String.lt_trans less (above other mem)
    · split
      · rename_i same
        subst same
        exact List.pairwise_cons.mpr ⟨above, ordered⟩
      · rename_i notLess differ
        have greater : name < key := Std.lt_of_le_of_ne notLess (Ne.symm differ)
        refine List.pairwise_cons.mpr ⟨fun other mem => ?_, induction ordered⟩
        obtain ⟨inserted, found, rfl⟩ := List.mem_map.mp mem
        rcases mem_insert found with rfl | old
        · exact greater
        · exact above _ (List.mem_map_of_mem old)

/-- The value of a key among values that have been made from others by their keys. -/
theorem get?_map {β : Type} (entries : Dict α) (make : String → α → β) (key : String) :
    Dict.get? (entries.map fun entry => (entry.1, make entry.1 entry.2)) key =
      (entries.get? key).map (make key) := by
  induction entries with
  | nil => rfl
  | cons entry rest induction =>
    obtain ⟨name, value⟩ := entry
    rw [List.map_cons, get?, get?]
    by_cases same : name = key
    · subst same
      rw [if_pos rfl, if_pos rfl, Option.map_some]
    · rw [if_neg same, if_neg same, induction]

/-- A key below all others has no value. -/
theorem get?_of_below {entries : Dict α} {key : String}
    (below : ∀ other ∈ entries.keys, key < other) : entries.get? key = none := by
  induction entries with
  | nil => rfl
  | cons entry rest induction =>
    obtain ⟨name, old⟩ := entry
    have less : key < name := below name List.mem_cons_self
    rw [get?, if_neg]
    · exact induction fun other mem => below other (List.mem_cons_of_mem _ mem)
    · rintro rfl
      exact String.lt_irrefl _ less

/-- Giving a key the value it has changes nothing. -/
theorem Sorted.insert_same {entries : Dict α} (sorted : Sorted entries) {key : String} {value : α}
    (found : entries.get? key = some value) : entries.insert key value = entries := by
  induction entries with
  | nil => cases found
  | cons entry rest induction =>
    obtain ⟨name, old⟩ := entry
    obtain ⟨above, ordered⟩ := List.pairwise_cons.mp sorted
    rw [get?] at found
    by_cases same : name = key
    · subst same
      rw [if_pos rfl] at found
      cases found
      rw [Dict.insert, if_neg (String.lt_irrefl _), if_pos rfl]
    · rw [if_neg same] at found
      have less : name < key := above key (List.mem_map_of_mem (mem_of_get? found))
      rw [Dict.insert, if_neg (String.lt_asymm less), if_neg (Ne.symm same),
        induction ordered found]

/-- The keys stay in order when one is removed. -/
theorem Sorted.erase {entries : Dict α} (sorted : Sorted entries) (key : String) :
    Sorted (entries.erase key) := by
  have fewer : (entries.erase key).Sublist entries := by
    clear sorted
    induction entries with
    | nil => exact .slnil
    | cons entry rest induction =>
      obtain ⟨name, old⟩ := entry
      unfold Dict.erase
      split
      · exact List.sublist_cons_self _ _
      · exact induction.cons_cons _
  exact List.Pairwise.sublist (fewer.map Prod.fst) sorted

/-- A key that has been removed has no value. -/
theorem Sorted.get?_erase_self {entries : Dict α} (sorted : Sorted entries) (key : String) :
    (entries.erase key).get? key = none := by
  induction entries with
  | nil => rfl
  | cons entry rest induction =>
    obtain ⟨name, old⟩ := entry
    obtain ⟨above, ordered⟩ := List.pairwise_cons.mp sorted
    by_cases same : name = key
    · subst same
      rw [Dict.erase, if_pos rfl]
      exact get?_of_below above
    · rw [Dict.erase, if_neg same, get?, if_neg same]
      exact induction ordered

end Dict

end Dust
