import Phrasebook.Folder

/-!
Trees as a file system keeps them, and what a listing shows of one. In a folder every entry has a
name of its own, not empty and without a slash; a listing keeps those names and looks at what they
stand for.
-/
namespace Phrasebook

open Utf8 (Bytes)

/-- The names in each folder differ, and none is empty or holds a slash. -/
inductive Tree.Proper : Tree → Prop where
  | file (content : Bytes) : Proper (.file content)
  | link (target : Bytes) : Proper (.link target)
  | folder {entries : List (Name × Tree)} (distinct : (entries.map Prod.fst).Nodup)
      (plain : ∀ e ∈ entries, e.1 ≠ [] ∧ Tree.slash ∉ e.1) (each : ∀ e ∈ entries, Proper e.2) :
      Proper (.folder entries)

structure Listing.Proper (listing : Listing) : Prop where
  distinct : (listing.map Prod.fst).Nodup
  plain : ∀ e ∈ listing, e.1 ≠ [] ∧ Tree.slash ∉ e.1
  files : ∀ name files, (name, Branch.folder files) ∈ listing → (files.map Prod.fst).Nodup

theorem mem_of_lookup {α β : Type} [BEq α] [LawfulBEq α] {key : α} {value : β}
    {entries : List (α × β)} (h : entries.lookup key = some value) : (key, value) ∈ entries := by
  obtain ⟨before, after, rfl, -⟩ := List.lookup_eq_some_iff.1 h
  exact List.mem_append_right _ List.mem_cons_self

theorem lookup_of_mem {α β : Type} [BEq α] [LawfulBEq α] {key : α} {value : β}
    {entries : List (α × β)} (distinct : (entries.map Prod.fst).Nodup)
    (h : (key, value) ∈ entries) : entries.lookup key = some value := by
  induction entries with
  | nil => cases h
  | cons first rest ih =>
    obtain ⟨k, v⟩ := first
    obtain ⟨fresh, others⟩ := List.nodup_cons.1 distinct
    rw [List.lookup_cons]
    rcases List.mem_cons.1 h with same | h
    · obtain ⟨rfl, rfl⟩ := Prod.mk.inj same
      simp
    · have inside : key ∈ rest.map Prod.fst := List.mem_map_of_mem h
      have ne : key ≠ k := fun same => fresh (same ▸ inside)
      have differs : (key == k) = false := by simpa using ne
      rw [differs]
      exact ih others h

theorem lookup_map_self {α β γ : Type} [BEq α] [LawfulBEq α] (f : α → γ) (key : α)
    (entries : List (α × β)) :
    (entries.map fun e => (e.1, f e.1)).lookup key =
      if key ∈ entries.map Prod.fst then some (f key) else none := by
  induction entries with
  | nil => rfl
  | cons first rest ih =>
    rw [List.map_cons, List.lookup_cons, ih]
    by_cases same : key = first.1
    · subst same
      simp
    · have differs : (key == first.1) = false := by simpa using same
      rw [differs, List.map_cons]
      simp only [List.mem_cons, same, false_or]

namespace Tree

theorem proper_at? {t sub : Tree} {place : List Name} (proper : t.Proper)
    (h : t.at? place = some sub) : sub.Proper := by
  induction place generalizing t with
  | nil =>
    obtain rfl : t = sub := by simpa [at?] using h
    exact proper
  | cons name rest ih =>
    cases proper with
    | file | link => simp [at?] at h
    | folder distinct plain each =>
      simp only [at?, Option.bind_eq_some_iff] at h
      obtain ⟨inner, here, h⟩ := h
      exact ih (each _ (mem_of_lookup here)) h

theorem proper_entry? {top t : Tree} {links left : Nat} {place found : List Name} {path : Bytes}
    {name : Name} (proper : top.Proper)
    (h : top.entry? links place path name = some (left, found, t)) : t.Proper := by
  unfold entry? at h
  split at h
  · cases h
  · split at h
    · cases h
    · simp only [Option.map_eq_some_iff] at h
      obtain ⟨sub, here, same⟩ := h
      cases same
      exact proper_at? proper here

theorem listing_eq_ok {top : Tree} {home : List Name} {path : Bytes} {listing : Listing}
    (seen : top.listing home path = .ok listing) :
    ∃ left place entries, top.locate home path = .ok (left, place) ∧
      top.at? place = some (.folder entries) ∧
      listing = entries.map fun e => (e.1, top.branch left place path e.1) := by
  unfold Tree.listing at seen
  split at seen
  · cases seen
  · rename_i left place located
    split at seen
    · rename_i entries here
      cases seen
      exact ⟨left, place, entries, located, here, rfl⟩
    · cases seen
    · cases seen

theorem branch_eq_folder {top : Tree} {links : Nat} {place : List Name} {path : Bytes} {name : Name}
    {files : List (Name × Leaf)} (h : top.branch links place path name = .folder files) :
    ∃ left found entries, top.entry? links place path name = some (left, found, .folder entries) ∧
      files = entries.map fun e => (e.1, top.leaf left found (joined path name) e.1) := by
  unfold branch at h
  split at h
  · rename_i left found entries here
    cases h
    exact ⟨left, found, entries, here, rfl⟩
  · cases h

theorem proper_listing {top : Tree} {home : List Name} {path : Bytes} {listing : Listing}
    (proper : top.Proper) (seen : top.listing home path = .ok listing) : listing.Proper := by
  obtain ⟨left, place, entries, -, here, rfl⟩ := listing_eq_ok seen
  cases proper_at? proper here with
  | folder distinct plain each =>
    refine ⟨?_, ?_, fun name files member => ?_⟩
    · rw [List.map_map]
      exact distinct
    · intro e member
      obtain ⟨entry, inside, rfl⟩ := List.mem_map.1 member
      exact plain entry inside
    · obtain ⟨entry, -, same⟩ := List.mem_map.1 member
      obtain ⟨-, folder⟩ := Prod.mk.inj same
      obtain ⟨_, _, within, there, rfl⟩ := branch_eq_folder folder
      cases proper_entry? proper there with
      | folder distinct _ _ =>
        rw [List.map_map]
        exact distinct

def namesAt (top : Tree) (place : List Name) : List Name :=
  match top.at? place with
  | some (.folder entries) => entries.map Prod.fst
  | _ => []

/-- The content of a file in a folder directly below the folder at a path. The folder and the file
may be links to what they stand for. -/
def content? (top : Tree) (home : List Name) (path : Bytes) (folder file : Name) : Option Bytes :=
  match top.locate home path with
  | .error _ => none
  | .ok (links, place) =>
    if folder ∈ top.namesAt place then
      match top.entry? links place path folder with
      | some (left, found, .folder entries) =>
        if file ∈ entries.map Prod.fst then
          match top.entry? left found (joined path folder) file with
          | some (_, _, .file content) => some content
          | _ => none
        else none
      | _ => none
    else none

end Tree

def Listing.content? (listing : Listing) (folder file : Name) : Option Bytes :=
  match listing.lookup folder with
  | some (.folder files) =>
    match files.lookup file with
    | some (.file content) => some content
    | _ => none
  | _ => none

/-- A listing shows the files that there are. -/
theorem Tree.content?_eq_listing {top : Tree} {home : List Name} {path : Bytes} {listing : Listing}
    (seen : top.listing home path = .ok listing) (folder file : Name) :
    top.content? home path folder file = listing.content? folder file := by
  obtain ⟨left, place, entries, located, here, rfl⟩ := listing_eq_ok seen
  unfold Tree.content? Listing.content?
  simp only [located, namesAt, here, lookup_map_self]
  by_cases inside : folder ∈ entries.map Prod.fst
  · rw [if_pos inside, if_pos inside]
    unfold branch
    match top.entry? left place path folder with
    | none | some (_, _, .file _) | some (_, _, .link _) => rfl
    | some (left, found, .folder inner) =>
      simp only [lookup_map_self]
      by_cases within : file ∈ inner.map Prod.fst
      · rw [if_pos within, if_pos within]
        unfold leaf
        match top.entry? left found (joined path folder) file with
        | none | some (_, _, .folder _) | some (_, _, .link _) => rfl
        | some (_, _, .file content) => rfl
      · rw [if_neg within, if_neg within]
  · rw [if_neg inside, if_neg inside]

end Phrasebook
