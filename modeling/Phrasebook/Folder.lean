import Phrasebook.Text.Parts
import Phrasebook.Text.Utf8

/-!
Trees of files, as a program sees them that works in one of the folders. A path that starts with a
slash is followed from the top and any other from that folder, part by part and through links, of
which a whole path may need at most forty; the folder above the top is the top. `Tree.listing` is
what one sees two levels below a path once all links are followed: folders of files and other
things. Each path that is looked at on the way, of a folder or a file, must be short enough.
-/
namespace Phrasebook

open Utf8 (Bytes)

abbrev Name := Bytes

inductive Tree where
  | file (content : Bytes)
  | folder (entries : List (Name × Tree))
  | link (target : Bytes)
  deriving Repr, Inhabited

inductive ReadFault where
  | absent
  | notFolder
  | tooManyLinks
  | nameTooLong
  | zeroInName
  | notAllowed
  deriving DecidableEq, Repr

def ReadFault.message : ReadFault → String
  | .absent => "No such file or directory (os error 2)"
  | .notFolder => "Not a directory (os error 20)"
  | .tooManyLinks => "Too many levels of symbolic links (os error 40)"
  | .nameTooLong => "File name too long (os error 36)"
  | .zeroInName => "file name contained an unexpected NUL byte"
  | .notAllowed => "Permission denied (os error 13)"

namespace Tree

def slash : UInt8 := 47

def here : Name := [46]
def above : Name := [46, 46]

def pathParts (path : Bytes) : List Name := Text.parts slash path

/-- The tree at a place, given by names from the top; links are not followed. -/
def at? (t : Tree) : List Name → Option Tree
  | [] => some t
  | name :: rest =>
    match t with
    | .folder entries => (entries.lookup name).bind fun sub => sub.at? rest
    | _ => none

def linkLimit : Nat := 40

def nameLimit : Nat := 255

def pathLimit : Nat := 4095

/-- The place from which a path is followed that is given in the folder at `home`. -/
def start (home : List Name) (path : Bytes) : List Name :=
  if path.head? = some slash then [] else home

/-- Follows the parts `todo` from the folder at `place` up to a link, and from there by `onLink`. -/
def followWith (top : Tree) (links : Nat)
    (onLink : (place todo : List Name) → Except ReadFault (Nat × List Name))
    (place todo : List Name) : Except ReadFault (Nat × List Name) :=
  match todo with
  | [] => .ok (links, place)
  | name :: rest =>
    match top.at? place with
    | some (.folder entries) =>
      if name = [] ∨ name = here then followWith top links onLink place rest
      else if name = above then followWith top links onLink place.dropLast rest
      else
        match entries.lookup name with
        | none => .error (if nameLimit < name.length then .nameTooLong else .absent)
        | some (.link target) => onLink (start place target) (pathParts target ++ rest)
        | some _ => followWith top links onLink (place ++ [name]) rest
    | some _ => .error .notFolder
    | none => .error .absent

/-- The place that the parts lead to, and how many of the `links` are left. -/
def follow (top : Tree) : (links : Nat) → (place todo : List Name) →
    Except ReadFault (Nat × List Name)
  | 0 => top.followWith 0 fun _ _ => .error .tooManyLinks
  | links + 1 => top.followWith (links + 1) (top.follow links)

/-- The place of a path, and the links left, for a program that works in the folder at `home`. An
empty path leads nowhere. -/
def locate (top : Tree) (home : List Name) (path : Bytes) : Except ReadFault (Nat × List Name) :=
  if 0 ∈ path then .error .zeroInName
  else if pathLimit < path.length then .error .nameTooLong
  else if path = [] then .error .absent
  else top.follow linkLimit (start home path) (pathParts path)

def joined (path : Bytes) (name : Name) : Bytes :=
  if path = [] ∨ path.getLast? = some slash then path ++ name else path ++ slash :: name

/-- The entry `name` of the folder at `place`, with links followed, unless its path is too long. The
links are those that the way to `place` along `path` has left. -/
def entry? (top : Tree) (links : Nat) (place : List Name) (path : Bytes) (name : Name) :
    Option (Nat × List Name × Tree) :=
  if pathLimit < (joined path name).length then none
  else
    match top.follow links place [name] with
    | .error _ => none
    | .ok (left, found) => (top.at? found).map fun t => (left, found, t)

def entries (t : Tree) : List (Name × Tree) :=
  match t with
  | .folder entries => entries
  | _ => []

end Tree

inductive Leaf where
  | file (content : Bytes)
  | other
  deriving DecidableEq, Repr

inductive Branch where
  | folder (files : List (Name × Leaf))
  | other
  deriving DecidableEq, Repr

abbrev Listing := List (Name × Branch)

namespace Tree

def leaf (top : Tree) (links : Nat) (place : List Name) (path : Bytes) (name : Name) : Leaf :=
  match top.entry? links place path name with
  | some (_, _, .file content) => .file content
  | _ => .other

def branch (top : Tree) (links : Nat) (place : List Name) (path : Bytes) (name : Name) : Branch :=
  match top.entry? links place path name with
  | some (left, found, .folder entries) =>
    .folder (entries.map fun e => (e.1, top.leaf left found (joined path name) e.1))
  | _ => .other

def listing (top : Tree) (home : List Name) (path : Bytes) : Except ReadFault Listing :=
  match top.locate home path with
  | .error e => .error e
  | .ok (left, place) =>
    match top.at? place with
    | some (.folder entries) => .ok (entries.map fun e => (e.1, top.branch left place path e.1))
    | some _ => .error .notFolder
    | none => .error .absent

def putEntry (name : Name) (new : Tree) : List (Name × Tree) → List (Name × Tree)
  | [] => [(name, new)]
  | (n, t) :: rest => if n = name then (n, new) :: rest else (n, t) :: putEntry name new rest

def put (t : Tree) (place : List Name) (new : Tree) : Tree :=
  match place with
  | [] => new
  | name :: rest =>
    let sub := (t.entries.lookup name).getD (.folder [])
    .folder (putEntry name (sub.put rest new) t.entries)

def makeFolders (t : Tree) (place : List Name) : List Name → Tree × List Name
  | [] => (t, place)
  | name :: rest =>
    if name = [] ∨ name = here then t.makeFolders place rest
    else
      match t.follow linkLimit place [name] with
      | .ok (_, found) => t.makeFolders found rest
      | .error _ => (t.put (place ++ [name]) (.folder [])).makeFolders (place ++ [name]) rest

def addFolder (t : Tree) (path : Bytes) : Tree := (t.makeFolders [] (pathParts path)).1

/-- The place where a file is written that is put under a name: where the links lead that stand
there, though it may be that nothing is there yet. -/
def writtenAt (t : Tree) : (links : Nat) → (place : List Name) → Name → List Name
  | 0, place, name => place ++ [name]
  | links + 1, place, name =>
    match t.at? (place ++ [name]) with
    | some (.link target) =>
      let names := pathParts target
      match t.follow links (start place target) names.dropLast with
      | .ok (_, place) => t.writtenAt links place (names.getLast?.getD [])
      | .error _ => place ++ [name]
    | _ => place ++ [name]

def add (t : Tree) (path : Bytes) (new : Tree) : Tree :=
  let names := pathParts path
  let (t, place) := t.makeFolders [] names.dropLast
  let name := names.getLast?.getD []
  match new with
  | .file _ => t.put (t.writtenAt linkLimit place name) new
  | _ => t.put (place ++ [name]) new

end Tree
end Phrasebook
