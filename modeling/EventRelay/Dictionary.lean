/-!
# Ordered dictionaries

A dictionary maps texts to values and lists its entries in strictly increasing
key order. Two dictionaries with the same look-ups are therefore the same
dictionary, and every listing of one is deterministic.
-/

namespace EventRelay

universe u

/-- Put `value` under `key` in a list kept in increasing key order; an entry
already under that key is replaced. -/
def insertEntry {α : Type u} (key : String) (value : α) :
    List (String × α) → List (String × α)
  | [] => [(key, value)]
  | (other, held) :: rest =>
      if key < other then (key, value) :: (other, held) :: rest
      else if key = other then (key, value) :: rest
      else (other, held) :: insertEntry key value rest

/-- The first value under `key` in a list of entries. -/
def lookupEntry {α : Type u} (key : String) : List (String × α) → Option α
  | [] => none
  | (other, held) :: rest => if key = other then some held else lookupEntry key rest

section Entries

variable {α : Type u} {key other : String} {value : α} {entries : List (String × α)}

theorem mem_insertEntry {entry : String × α} (mem : entry ∈ insertEntry key value entries) :
    entry = (key, value) ∨ entry ∈ entries := by
  induction entries with
  | nil => simpa [insertEntry] using mem
  | cons first rest ih =>
      obtain ⟨firstKey, held⟩ := first
      simp only [insertEntry] at mem
      split at mem
      · simpa using mem
      · split at mem
        · simp only [List.mem_cons] at mem ⊢
          exact mem.imp_right Or.inr
        · simp only [List.mem_cons] at mem ⊢
          rcases mem with mem | mem
          · exact Or.inr (Or.inl mem)
          · exact (ih mem).imp_right Or.inr

theorem pairwise_insertEntry (ordered : entries.Pairwise fun a b => a.1 < b.1) :
    (insertEntry key value entries).Pairwise fun a b => a.1 < b.1 := by
  induction entries with
  | nil => simp [insertEntry]
  | cons first rest ih =>
      obtain ⟨firstKey, held⟩ := first
      obtain ⟨below, restOrdered⟩ := List.pairwise_cons.mp ordered
      simp only [insertEntry]
      split
      · rename_i less
        refine List.pairwise_cons.mpr ⟨?_, ordered⟩
        intro entry mem
        rcases List.mem_cons.mp mem with rfl | mem
        · exact less
        · exact String.lt_trans less (below entry mem)
      · split
        · rename_i key_eq
          subst key_eq
          exact List.pairwise_cons.mpr ⟨below, restOrdered⟩
        · rename_i notLess key_ne
          refine List.pairwise_cons.mpr ⟨?_, ih restOrdered⟩
          intro entry mem
          rcases mem_insertEntry mem with rfl | mem
          · refine Decidable.byContradiction fun notGreater => key_ne ?_
            exact String.le_antisymm (String.not_lt.mp notGreater) (String.not_lt.mp notLess)
          · exact below entry mem

theorem lookupEntry_insertEntry :
    lookupEntry other (insertEntry key value entries) =
      if other = key then some value else lookupEntry other entries := by
  induction entries with
  | nil => simp [insertEntry, lookupEntry]
  | cons first rest ih =>
      obtain ⟨firstKey, held⟩ := first
      by_cases less : key < firstKey
      · simp [insertEntry, lookupEntry, less]
      · by_cases key_eq : key = firstKey
        · subst key_eq
          by_cases other_eq : other = key <;> simp [insertEntry, lookupEntry, other_eq]
        · by_cases other_eq : other = firstKey
          · have : other ≠ key := fun eq => key_eq (eq.symm.trans other_eq)
            simp [insertEntry, lookupEntry, less, key_eq, other_eq, Ne.symm key_eq]
          · simp [insertEntry, lookupEntry, less, key_eq, other_eq, ih]

theorem lookupEntry_eq_none_of_lt (above : ∀ entry ∈ entries, key < entry.1) :
    lookupEntry key entries = none := by
  induction entries with
  | nil => rfl
  | cons first rest ih =>
      have key_ne : key ≠ first.1 := by
        intro key_eq
        have less := above first List.mem_cons_self
        rw [key_eq] at less
        exact String.lt_irrefl _ less
      simp only [lookupEntry, key_ne, if_false]
      exact ih fun entry mem => above entry (List.mem_cons_of_mem _ mem)

theorem lookupEntry_isSome_iff :
    (lookupEntry key entries).isSome = true ↔ key ∈ entries.map Prod.fst := by
  induction entries with
  | nil => simp [lookupEntry]
  | cons first rest ih =>
      obtain ⟨firstKey, held⟩ := first
      by_cases at_first : key = firstKey <;> simp [lookupEntry, at_first, ih]

theorem length_insertEntry_of_fresh (fresh : lookupEntry key entries = none) :
    (insertEntry key value entries).length = entries.length + 1 := by
  induction entries with
  | nil => rfl
  | cons first rest ih =>
      obtain ⟨firstKey, held⟩ := first
      have key_ne : key ≠ firstKey := by
        rintro rfl
        simp [lookupEntry] at fresh
      have restFresh : lookupEntry key rest = none := by simpa [lookupEntry, key_ne] using fresh
      by_cases less : key < firstKey
      · simp [insertEntry, less]
      · simp [insertEntry, less, key_ne, ih restFresh]

end Entries

/-- A finite map from texts, listed in increasing key order. -/
structure Dictionary (α : Type u) where
  /-- The entries, each key once. -/
  entries : List (String × α)
  /-- Keys increase along the list. -/
  ordered : entries.Pairwise fun a b => a.1 < b.1

namespace Dictionary

variable {α : Type u}

/-- The dictionary without entries. -/
def empty : Dictionary α := ⟨[], List.Pairwise.nil⟩

instance : EmptyCollection (Dictionary α) := ⟨empty⟩

instance : Inhabited (Dictionary α) := ⟨empty⟩

instance [DecidableEq α] : DecidableEq (Dictionary α) := fun left right =>
  decidable_of_iff (left.entries = right.entries)
    ⟨fun eq => by cases left; cases right; cases eq; rfl, fun eq => by rw [eq]⟩

/-- The value under `key`. -/
def get? (dictionary : Dictionary α) (key : String) : Option α :=
  lookupEntry key dictionary.entries

/-- Whether `key` has a value. -/
def contains (dictionary : Dictionary α) (key : String) : Bool :=
  (dictionary.get? key).isSome

/-- The dictionary with `value` under `key`, in place of what was there. -/
def insert (dictionary : Dictionary α) (key : String) (value : α) : Dictionary α :=
  ⟨insertEntry key value dictionary.entries, pairwise_insertEntry dictionary.ordered⟩

/-- The dictionary without the entry under `key`. -/
def erase (dictionary : Dictionary α) (key : String) : Dictionary α :=
  ⟨dictionary.entries.filter fun entry => entry.1 != key,
    dictionary.ordered.filter _⟩

/-- Read entries in order; of two under one key the later stays. -/
def ofList (entries : List (String × α)) : Dictionary α :=
  entries.foldl (fun dictionary entry => dictionary.insert entry.1 entry.2) empty

/-- `base` with every entry of `upper` put on top. -/
def merge (base upper : Dictionary α) : Dictionary α :=
  upper.entries.foldl (fun dictionary entry => dictionary.insert entry.1 entry.2) base

/-- The keys, increasing. -/
def keys (dictionary : Dictionary α) : List String :=
  dictionary.entries.map Prod.fst

/-- How many entries there are. -/
def size (dictionary : Dictionary α) : Nat :=
  dictionary.entries.length

@[simp]
theorem get?_empty (key : String) : (empty : Dictionary α).get? key = none := rfl

@[simp]
theorem get?_insert (dictionary : Dictionary α) (key other : String) (value : α) :
    (dictionary.insert key value).get? other =
      if other = key then some value else dictionary.get? other :=
  lookupEntry_insertEntry

theorem mem_keys_iff {dictionary : Dictionary α} {key : String} :
    key ∈ dictionary.keys ↔ (dictionary.get? key).isSome = true :=
  lookupEntry_isSome_iff.symm

theorem pairwise_keys (dictionary : Dictionary α) : dictionary.keys.Pairwise (· < ·) :=
  List.pairwise_map.mpr dictionary.ordered

/-- A value under a new key is one entry more. -/
theorem size_insert_of_fresh {dictionary : Dictionary α} {key : String}
    (fresh : dictionary.get? key = none) (value : α) :
    (dictionary.insert key value).size = dictionary.size + 1 :=
  length_insertEntry_of_fresh fresh

/-- Dictionaries that look up alike are equal. -/
theorem ext_get? {left right : Dictionary α}
    (alike : ∀ key, left.get? key = right.get? key) : left = right := by
  obtain ⟨leftEntries, leftOrdered⟩ := left
  obtain ⟨rightEntries, rightOrdered⟩ := right
  suffices leftEntries = rightEntries by subst this; rfl
  simp only [get?] at alike
  induction leftEntries generalizing rightEntries with
  | nil =>
      cases rightEntries with
      | nil => rfl
      | cons first rest => simpa [lookupEntry] using alike first.1
  | cons first rest ih =>
      obtain ⟨firstKey, firstHeld⟩ := first
      obtain ⟨firstBelow, restOrdered⟩ := List.pairwise_cons.mp leftOrdered
      cases rightEntries with
      | nil => simpa [lookupEntry] using alike firstKey
      | cons second others =>
          obtain ⟨secondKey, secondHeld⟩ := second
          obtain ⟨secondBelow, othersOrdered⟩ := List.pairwise_cons.mp rightOrdered
          have key_eq : firstKey = secondKey := by
            refine String.le_antisymm (String.not_lt.mp fun less => ?_)
              (String.not_lt.mp fun less => ?_)
            · have absent : lookupEntry secondKey ((firstKey, firstHeld) :: rest) = none :=
                lookupEntry_eq_none_of_lt (by
                  intro entry mem
                  rcases List.mem_cons.mp mem with rfl | mem
                  · exact less
                  · exact String.lt_trans less (firstBelow entry mem))
              rw [alike secondKey] at absent
              simp [lookupEntry] at absent
            · have absent : lookupEntry firstKey ((secondKey, secondHeld) :: others) = none :=
                lookupEntry_eq_none_of_lt (by
                  intro entry mem
                  rcases List.mem_cons.mp mem with rfl | mem
                  · exact less
                  · exact String.lt_trans less (secondBelow entry mem))
              rw [← alike firstKey] at absent
              simp [lookupEntry] at absent
          subst key_eq
          have held_eq : firstHeld = secondHeld := by simpa [lookupEntry] using alike firstKey
          subst held_eq
          rw [ih restOrdered others othersOrdered]
          intro key
          by_cases at_first : key = firstKey
          · subst at_first
            rw [lookupEntry_eq_none_of_lt firstBelow, lookupEntry_eq_none_of_lt secondBelow]
          · simpa [lookupEntry, at_first] using alike key

private theorem get?_foldl_insert (entries : List (String × α))
    (ordered : entries.Pairwise fun a b => a.1 < b.1) (base : Dictionary α) (key : String) :
    (entries.foldl (fun dictionary entry => dictionary.insert entry.1 entry.2) base).get? key =
      (lookupEntry key entries).or (base.get? key) := by
  induction entries generalizing base with
  | nil => rfl
  | cons first rest ih =>
      obtain ⟨below, restOrdered⟩ := List.pairwise_cons.mp ordered
      rw [List.foldl_cons, ih restOrdered]
      by_cases at_first : key = first.1
      · rw [lookupEntry_eq_none_of_lt (by rw [at_first]; exact below)]
        simp [lookupEntry, at_first]
      · simp [lookupEntry, at_first]

/-- A merge looks into `upper` first. -/
@[simp]
theorem get?_merge (base upper : Dictionary α) (key : String) :
    (base.merge upper).get? key = (upper.get? key).or (base.get? key) :=
  get?_foldl_insert upper.entries upper.ordered base key

end Dictionary

end EventRelay
