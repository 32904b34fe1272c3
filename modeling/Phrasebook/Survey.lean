import Phrasebook.Event
import Phrasebook.Folder
import Phrasebook.Glossary
import Phrasebook.Yaml.Value

/-!
Finding the sources below a folder. Each folder directly in it whose name is text may hold files
with the stem `translations`; those with an extension that is text are read, and those of a known
format become sources under the path `./FOLDER/translations.EXTENSION`. The first file that cannot
be read or that is malformed ends the survey; the sources are answered in the order of their paths.
How a text of each format is read is left to the caller; `Format.read` is how the program does it.
-/
namespace Phrasebook

open Utf8 (Bytes)

inductive Format where
  | json
  | yaml
  deriving DecidableEq, Repr

inductive FormatFault where
  | json (text : String) (fault : Json.Fault)
  | yaml
  deriving DecidableEq, Repr

namespace Format

def ofExtension? (extension : String) : Option Format :=
  if extension = "json" then some .json
  else if extension = "yaml" ∨ extension = "yml" then some .yaml
  else none

def read (format : Format) (text : String) : Except FormatFault Source :=
  match format with
  | .json =>
    match Source.ofJson text with
    | .ok s => .ok s
    | .error fault => .error (.json text fault)
  | .yaml =>
    match Yaml.members? text with
    | some members => .ok (.ofMembers members)
    | none => .error .yaml

end Format

/-- How the texts of each format are read. -/
abbrev Readers := Format → String → Except FormatFault Source

inductive SurveyFault where
  | unreadable (root : String) (fault : ReadFault)
  | notText (file : String)
  | malformed (file : String) (fault : FormatFault)
  deriving DecidableEq, Repr

namespace FormatFault

def title : FormatFault → String
  | .json .. => "Invalid JSON translation module"
  | .yaml => "Invalid YAML translation module"

def detail : FormatFault → String
  | .json text fault => fault.describe text
  | .yaml => "invalid YAML"

def kind : FormatFault → String
  | .json _ fault => "json:" ++ fault.category.name
  | .yaml => "yaml"

end FormatFault

/-- What went wrong, then what caused it, and so on. The last cause of a malformed file is worded by
`word`. -/
def SurveyFault.chain (word : FormatFault → String) : SurveyFault → List String
  | .unreadable root fault => ["Failed to read translations directory " ++ root, fault.message]
  | .notText file => ["Failed to read " ++ file, "stream did not contain valid UTF-8"]
  | .malformed file fault => ["Failed to parse " ++ file, fault.title, word fault]

structure Survey where
  events : List Event
  result : Except SurveyFault (List (String × Source))

namespace Survey

def stem : Name := Utf8.encode "translations"

def dot : UInt8 := 46

/-- The part of a name before its last dot and the part after it. A name without a dot, or with
none but at its start, has no second part. -/
def splitName (name : Name) : Name × Option Name :=
  let after := (name.reverse.takeWhile (· ≠ dot)).reverse
  let before := name.take (name.length - after.length - 1)
  if before.isEmpty then (name, none) else (before, some after)

def shown (folder : String) (name : Name) : String :=
  if folder = "" ∨ folder.toList.getLast? = some '/' then folder ++ Utf8.decodeLossy name
  else folder ++ "/" ++ Utf8.decodeLossy name

def nothing : Survey := ⟨[], .ok []⟩

def warning (e : Event) : Survey := ⟨[e], .ok []⟩

def failure (fault : SurveyFault) : Survey := ⟨[], .error fault⟩

def modulePath (folder extension : String) : String :=
  "./" ++ folder ++ "/translations." ++ extension

def ofModule (read : Readers) (folder file : String) (extension : Option Name) (content : Bytes) :
    Survey :=
  match extension.bind Utf8.decode? with
  | none => warning (.unsupportedFile file)
  | some extension =>
    match Utf8.decode? content with
    | none => failure (.notText file)
    | some text =>
      match Format.ofExtension? extension with
      | none => warning (.unsupportedFile file)
      | some format =>
        match read format text with
        | .error fault => failure (.malformed file fault)
        | .ok source => ⟨[], .ok [(modulePath folder extension, source)]⟩

def ofLeaf (read : Readers) (folder shownFolder : String) (entry : Name × Leaf) : Survey :=
  match entry.2 with
  | .other => nothing
  | .file content =>
    let (before, extension) := splitName entry.1
    if before = stem then ofModule read folder (shown shownFolder entry.1) extension content
    else nothing

def append (first second : Survey) : Survey :=
  match first.result with
  | .error _ => first
  | .ok found => ⟨first.events ++ second.events, second.result.map (found ++ ·)⟩

def concat : List Survey → Survey
  | [] => nothing
  | s :: rest => s.append (concat rest)

def ofBranch (read : Readers) (root : String) (entry : Name × Branch) : Survey :=
  match entry.2 with
  | .other => nothing
  | .folder files =>
    let shownFolder := shown root entry.1
    match Utf8.decode? entry.1 with
    | none => warning (.unnamedFolder shownFolder)
    | some folder => concat (files.map (ofLeaf read folder shownFolder))

def inOrder (found : List (String × Source)) : List (String × Source) :=
  found.mergeSort fun a b => decide (a.1 ≤ b.1)

def ofListing (read : Readers) (root : String) (listing : Listing) : Survey :=
  let all := concat (listing.map (ofBranch read root))
  match all.result with
  | .error _ => all
  | .ok found => ⟨all.events ++ [.surveyed root found.length], .ok (inOrder found)⟩

def ofSeen (read : Readers) (root : String) (seen : Except ReadFault Listing) : Survey :=
  match seen with
  | .error fault => failure (.unreadable root fault)
  | .ok listing => ofListing read root listing

def ofTree (read : Readers) (top : Tree) (home : List Name) (path : Bytes) (root : String) :
    Survey :=
  ofSeen read root (top.listing home path)

end Survey
end Phrasebook
