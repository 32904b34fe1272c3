import Phrasebook.Http.Service
import Phrasebook.Settings
import Phrasebook.Startup.EnvFile
import Phrasebook.Startup.LogFilter
import Phrasebook.Survey

/-!
Starting the program: settings from the environment and from a file in the working folder, sources
from the folder that the settings name, and a service over them. What is missing is warned about.
-/
namespace Phrasebook

open Utf8 (Bytes)

structure Startup where
  events : List Event
  result : Except (List String) Http.Service

namespace Startup

def lookupOf (settings : Settings) (catalog : Catalog Source) : Lookup :=
  { Lookup.new catalog settings.strategy with
    defaultLocale := settings.defaultLocale, policy := settings.policy }

def remarks (settings : Settings) (catalog : Catalog Source) : List Event :=
  [.indexed catalog.locales] ++
    (if catalog.isEmpty then [.nothingFound settings.folder] else []) ++
    (if catalog.contains settings.defaultLocale then []
      else [.defaultAbsent settings.defaultLocale]) ++
    [.ready settings.strategy settings.policy]

def withFile (env : Environment) (file : Option Bytes) : Environment :=
  match file with
  | none => env
  | some content => EnvFile.load env content

def settings (env : Environment) (file : Option Bytes) : Except SettingsFault Settings :=
  Settings.ofEnvironment (withFile env file)

def refused (fault : SettingsFault) : Startup := ⟨[.starting], .error fault.chain⟩

def withListing (settings : Settings) (seen : Except ReadFault Listing) : Startup :=
  let survey := Survey.ofSeen Format.read settings.folder seen
  match survey.result with
  | .error fault => ⟨.starting :: survey.events, .error (fault.chain FormatFault.detail)⟩
  | .ok found =>
    let catalog := Catalog.ofFound found
    ⟨.starting :: survey.events ++ Catalog.warnings found ++ remarks settings catalog,
      .ok ⟨lookupOf settings catalog, settings.key⟩⟩

/-- Starts where `look` tells what is seen from a folder. -/
def seeing (env : Environment) (file : Option Bytes)
    (look : String → Except ReadFault Listing) : Startup :=
  match settings env file with
  | .error fault => refused fault
  | .ok chosen => withListing chosen (look chosen.folder)

def fileName : Name := Utf8.encode ".env"

/-- The content of the file of settings in the folder at `home` or in the nearest one above it that
has such a file. The search ends where something stands under the name that cannot be followed. -/
def fileIn (top : Tree) (home : List Name) : Option Bytes :=
  let above : Option Bytes := if home = [] then none else fileIn top home.dropLast
  let path := Tree.slash :: [Tree.slash].intercalate home
  match top.locate [] (Tree.joined path fileName) with
  | .error .absent => above
  | .error _ => none
  | .ok (_, place) =>
    match top.at? place with
    | some (.file content) => some content
    | _ => above
  termination_by home.length
  decreasing_by
    rename_i below_top
    have := List.length_pos_iff.2 below_top
    rw [List.length_dropLast]
    omega

def inTree (env : Environment) (top : Tree) (home : List Name) : Startup :=
  seeing env (fileIn top home) fun folder => top.listing home (Utf8.encode folder)

def line (e : Event) : String :=
  e.level.name ++ " " ++ e.origin ++ ": " ++ e.message ++
    String.join (e.fields.map fun (name, value) => " " ++ name ++ "=" ++ value)

def written (env : Environment) (file : Option Bytes) (startup : Startup) : List String :=
  let filter := LogFilter.ofText (((withFile env file).text? "RUST_LOG").getD "")
  (startup.events.filter filter.shows).map line

def indented (indent text : String) : String :=
  String.ofList (text.toList.flatMap fun c => if c = '\n' then '\n' :: indent.toList else [c])

def numbered (n : Nat) : List String → List String
  | [] => []
  | cause :: rest =>
    ("    " ++ toString n ++ ": " ++ indented "       " cause ++ "\n") :: numbered (n + 1) rest

def errorText : List String → String
  | [] => ""
  | [top] => "Error: " ++ top ++ "\n"
  | [top, cause] => "Error: " ++ top ++ "\n\nCaused by:\n    " ++ indented "    " cause ++ "\n"
  | top :: causes => "Error: " ++ top ++ "\n\nCaused by:\n" ++ String.join (numbered 0 causes)

def notBound (address cause : String) : List String := ["Failed to bind to " ++ address, cause]

def addressInUse : String := "Address already in use (os error 98)"

end Startup
end Phrasebook
