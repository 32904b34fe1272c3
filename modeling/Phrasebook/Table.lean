/-!
Tables from text to values. A table is a list of entries in strictly ascending order of their keys,
code point by code point, so it has one entry a key and one form. `insert` replaces; a table made
from a list keeps the last of several entries with one key.
-/
namespace Phrasebook

namespace Entries

variable {α : Type}

def Ascending (es : List (String × α)) : Prop := es.Pairwise fun a b => a.1 < b.1

def insert (key : String) (value : α) : List (String × α) → List (String × α)
  | [] => [(key, value)]
  | (k, v) :: rest =>
    if key < k then (key, value) :: (k, v) :: rest
    else if k < key then (k, v) :: insert key value rest
    else (key, value) :: rest

def find? (key : String) : List (String × α) → Option α
  | [] => none
  | (k, v) :: rest => if k = key then some v else find? key rest

def ofList (pairs : List (String × α)) : List (String × α) :=
  pairs.foldl (fun es p => insert p.1 p.2 es) []

theorem mem_insert {key : String} {value : α} {es : List (String × α)} {p : String × α}
    (h : p ∈ insert key value es) : p = (key, value) ∨ p ∈ es := by
  induction es with
  | nil => simpa [insert] using h
  | cons e rest ih =>
    obtain ⟨k, v⟩ := e
    simp only [insert] at h
    split at h
    · simpa using h
    · split at h
      · rcases List.mem_cons.1 h with rfl | h
        · simp
        · rcases ih h with h | h <;> simp [h]
      · rcases List.mem_cons.1 h with rfl | h <;> simp_all

theorem eq_of_not_lt {a b : String} (h : ¬a < b) (h' : ¬b < a) : a = b :=
  String.le_antisymm h' h

theorem ascending_insert {key : String} {value : α} {es : List (String × α)}
    (h : Ascending es) : Ascending (insert key value es) := by
  induction es with
  | nil => simp [insert, Ascending]
  | cons e rest ih =>
    obtain ⟨k, v⟩ := e
    have hk := List.pairwise_cons.1 h
    simp only [insert]
    split
    · rename_i lt
      refine List.pairwise_cons.2 ⟨fun p hp => ?_, h⟩
      rcases List.mem_cons.1 hp with rfl | hp
      · exact lt
      · exact String.lt_trans lt (hk.1 p hp)
    · split
      · rename_i gt
        refine List.pairwise_cons.2 ⟨fun p hp => ?_, ih hk.2⟩
        rcases mem_insert hp with rfl | hp
        · exact gt
        · exact hk.1 p hp
      · rename_i nlt ngt
        obtain rfl := eq_of_not_lt nlt ngt
        exact List.pairwise_cons.2 ⟨hk.1, hk.2⟩

theorem ascending_foldl {pairs es : List (String × α)} (h : Ascending es) :
    Ascending (pairs.foldl (fun es p => insert p.1 p.2 es) es) := by
  induction pairs generalizing es with
  | nil => exact h
  | cons p rest ih => exact ih (ascending_insert h)

theorem ascending_ofList (pairs : List (String × α)) : Ascending (ofList pairs) :=
  ascending_foldl List.Pairwise.nil

theorem mem_foldl {pairs es : List (String × α)} {p : String × α}
    (h : p ∈ pairs.foldl (fun es p => insert p.1 p.2 es) es) : p ∈ pairs ∨ p ∈ es := by
  induction pairs generalizing es with
  | nil => exact .inr h
  | cons q rest ih =>
    rcases ih h with h | h
    · exact .inl (List.mem_cons_of_mem q h)
    · rcases mem_insert h with rfl | h
      · exact .inl List.mem_cons_self
      · exact .inr h

theorem mem_ofList {pairs : List (String × α)} {p : String × α} (h : p ∈ ofList pairs) :
    p ∈ pairs := by
  rcases mem_foldl h with h | h
  · exact h
  · exact absurd h List.not_mem_nil

theorem find?_insert (key other : String) (value : α) (es : List (String × α)) :
    find? other (insert key value es) = if key = other then some value else find? other es := by
  induction es with
  | nil => simp [insert, find?]
  | cons e rest ih =>
    obtain ⟨k, v⟩ := e
    simp only [insert]
    split
    · simp [find?]
    · split
      · rename_i nlt gt
        have ne : ¬k = key := fun h => String.lt_irrefl key (h ▸ gt)
        by_cases hk : k = other
        · subst hk; simp [find?, Ne.symm ne]
        · simp [find?, hk, ih]
      · rename_i nlt ngt
        obtain rfl := eq_of_not_lt nlt ngt
        by_cases hk : key = other <;> simp [find?, hk]

end Entries

structure Table (α : Type) where
  entries : List (String × α)
  ascending : Entries.Ascending entries

namespace Table

variable {α : Type}

def empty : Table α := ⟨[], List.Pairwise.nil⟩

def insert (key : String) (value : α) (t : Table α) : Table α :=
  ⟨Entries.insert key value t.entries, Entries.ascending_insert t.ascending⟩

def ofList (pairs : List (String × α)) : Table α :=
  ⟨Entries.ofList pairs, Entries.ascending_ofList pairs⟩

def get? (t : Table α) (key : String) : Option α := Entries.find? key t.entries

def contains (t : Table α) (key : String) : Bool := (t.get? key).isSome

def keys (t : Table α) : List String := t.entries.map (·.1)

def values (t : Table α) : List α := t.entries.map (·.2)

def size (t : Table α) : Nat := t.entries.length

def isEmpty (t : Table α) : Bool := t.entries.isEmpty

@[simp] theorem get?_empty (key : String) : (empty : Table α).get? key = none := rfl

@[simp] theorem get?_insert (t : Table α) (key other : String) (value : α) :
    (t.insert key value).get? other = if key = other then some value else t.get? other :=
  Entries.find?_insert key other value t.entries

end Table
end Phrasebook
