import Phrasebook.Startup

/-!
The program. It starts in the working folder, writes its log to standard output, and ends with the
text of the error on standard error when it cannot start. It ends where it would begin to listen.
-/
namespace Phrasebook.Main

open Utf8 (Bytes)

def variableNames : List String :=
  ["TRANSLATIONS_DIR", "DEFAULT_LANGUAGE", "MISSING_LANGUAGE_POLICY", "ASSEMBLY_STRATEGY", "PORT",
    "API_KEY", "RUST_LOG"]

def environment : IO Environment :=
  variableNames.filterMapM fun name => do
    return (← IO.getEnv name).map fun value => (name, Utf8.encode value)

def isFile (path : String) : IO Bool := do
  try return (← (System.mkFilePath [path]).metadata).type matches .file
  catch _ => return false

def content (path : String) : IO Bytes := do return (← IO.FS.readBinFile path).toList

def settingsFile : IO (Option Bytes) := do
  let parts := (← IO.currentDir).components
  for count in (List.range (parts.length + 1)).reverse do
    let path := "/".intercalate (parts.take count ++ [".env"])
    if ← isFile path then return some (← content path)
  return none

def leaf (entry : IO.FS.DirEntry) : IO (Name × Leaf) := do
  let path := entry.path.toString
  let leaf ← if ← isFile path then .file <$> content path else pure .other
  return (Utf8.encode entry.fileName, leaf)

def branch (entry : IO.FS.DirEntry) : IO (Name × Branch) := do
  let branch ←
    if ← entry.path.isDir then
      .folder <$> (← entry.path.readDir).toList.mapM leaf
    else pure .other
  return (Utf8.encode entry.fileName, branch)

def listing (folder : String) : IO (Except ReadFault Listing) := do
  if folder.toList.contains '\x00' then return .error .zeroInName
  try return .ok (← (← (System.mkFilePath [folder]).readDir).toList.mapM branch)
  catch
    | .noFileOrDirectory .. => return .error .absent
    | .inappropriateType .. => return .error .notFolder
    | .permissionDenied .. => return .error .notAllowed
    | .invalidArgument _ 36 _ => return .error .nameTooLong
    | e => throw e

def start (env : Environment) (file : Option Bytes) : IO Startup := do
  match Startup.settings env file with
  | .error fault => return .refused fault
  | .ok settings => return .withListing settings (← listing settings.folder)

end Phrasebook.Main

def main : IO UInt32 := do
  let env ← Phrasebook.Main.environment
  let file ← Phrasebook.Main.settingsFile
  let startup ← Phrasebook.Main.start env file
  for text in startup.written env file do IO.println text
  match startup.result with
  | .ok _ => return 0
  | .error chain =>
    IO.eprint (Phrasebook.Startup.errorText chain)
    return 1
