import EventRelay.Outbox.Row
import EventRelay.Proofs.Denotation
import Mathlib.Data.List.GetD

/-!
# The columns of a row

A row is read column by column, and of a document only what it has for each column counts:
neither the order of an object's members nor members that no column goes by, and not whether
columns are named in an object or listed one after another.
-/

namespace EventRelay

/-! ## Members in another order -/

section Members

variable {α : Type} {name : String} {value : α} {entries left right : List (String × α)}

/-- A member under a new name is one member more. -/
theorem perm_insertEntry (new : ∀ entry ∈ entries, entry.1 ≠ name) :
    (insertEntry name value entries).Perm ((name, value) :: entries) := by
  induction entries with
  | nil => exact .refl _
  | cons first rest ih =>
      obtain ⟨other, held⟩ := first
      have different := new (other, held) List.mem_cons_self
      unfold insertEntry
      split
      · exact .refl _
      · rw [if_neg different.symm]
        have later := ih fun entry mem => new entry (List.mem_cons_of_mem _ mem)
        exact (later.cons _).trans (.swap _ _ _)

namespace Json

/-- Members with different names are put in order, and none is lost. -/
theorem perm_orderMembers (distinct : (entries.map Prod.fst).Nodup) :
    (orderMembers entries).Perm entries := by
  induction entries using List.reverseRecOn with
  | nil => exact .refl _
  | append_singleton before entry ih =>
      rw [List.map_append, List.nodup_append] at distinct
      obtain ⟨earlier, _, apart⟩ := distinct
      have ordered := ih earlier
      have new : ∀ other ∈ orderMembers before, other.1 ≠ entry.1 := by
        intro other mem
        exact apart _ (List.mem_map_of_mem (ordered.mem_iff.mp mem)) _ (by simp)
      have last : orderMembers (before ++ [entry]) =
          insertEntry entry.1 entry.2 (orderMembers before) := by
        simp [orderMembers]
      rw [last]
      exact (perm_insertEntry new).trans
        ((ordered.cons _).trans (List.perm_append_singleton _ _).symm)

/-- What a field takes does not depend on the order of members. -/
theorem Record.slot?_perm (perm : left.Perm right) (position : Nat) (names : List String) :
    (Record.members left).slot? position names =
      (Record.members right).slot? position names := by
  have kept := perm.filter fun entry => names.contains entry.1
  unfold Record.slot?
  dsimp only
  generalize left.filter _ = one at kept ⊢
  generalize right.filter _ = other at kept ⊢
  match one, other, kept with
  | [], _, kept => rw [List.nil_perm.mp kept]
  | [_], _, kept => rw [List.singleton_perm.mp kept]
  | _ :: _ :: _, [], kept => exact absurd kept.length_eq (by simp)
  | _ :: _ :: _, [_], kept => exact absurd kept.length_eq (by simp)
  | _ :: _ :: _, _ :: _ :: _, _ => rfl

/-- A member that no field goes by is passed over. -/
theorem Record.slot?_cons_of_notMem {names : List String} (unknown : name ∉ names)
    (position : Nat) :
    (Record.members ((name, value) :: entries)).slot? position names =
      (Record.members entries).slot? position names := by
  unfold Record.slot?
  dsimp only
  rw [List.filter_cons_of_neg (by simpa using unknown)]

end Json

end Members

namespace Outbox

open Json

/-! ## Rows with the same columns -/

variable {left right : Value} {one other : Record Value}

/-- Values that have the same for each column are the same row. -/
theorem Row.ofValue?_congr (opened : left.record? columnNames.length = some one)
    (reopened : right.record? columnNames.length = some other)
    (alike : ∀ position < columnNames.length, ∀ (β : Type) (read : Value → Option (Option β)),
      one.defaulted position (columnNames.getD position []) read =
        other.defaulted position (columnNames.getD position []) read) :
    Row.ofValue? left = Row.ofValue? right := by
  unfold Row.ofValue?
  rw [opened, reopened]
  simp only [Option.bind_eq_bind, Option.bind_some]
  rw [alike 0 (by decide), alike 1 (by decide), alike 2 (by decide), alike 3 (by decide),
    alike 4 (by decide), alike 5 (by decide), alike 6 (by decide), alike 7 (by decide),
    alike 8 (by decide), alike 9 (by decide)]

variable {name : String} {added : Value} {entries members : List (String × Value)}

/-- The order of an object's members is of no account. -/
theorem Row.ofValue?_perm (perm : entries.Perm members) :
    Row.ofValue? (.object entries) = Row.ofValue? (.object members) := by
  apply Row.ofValue?_congr rfl rfl
  intro position _ β read
  rw [Record.defaulted, Record.slot?_perm perm, Record.defaulted]

/-- A member that no column goes by is passed over. -/
theorem Row.ofValue?_insertEntry (new : ∀ entry ∈ entries, entry.1 ≠ name)
    (unknown : name ∉ columnNames.flatten) :
    Row.ofValue? (.object (insertEntry name added entries)) =
      Row.ofValue? (.object entries) := by
  rw [Row.ofValue?_perm (perm_insertEntry new)]
  apply Row.ofValue?_congr rfl rfl
  intro position inside β read
  have passed : name ∉ columnNames.getD position [] := by
    intro mem
    rw [List.getD_eq_getElem _ _ inside] at mem
    exact unknown (List.mem_flatten_of_mem (List.getElem_mem inside) mem)
  rw [Record.defaulted, Record.slot?_cons_of_notMem passed, Record.defaulted]

end Outbox

end EventRelay
