import Phrasebook.Yaml.Token

/-!
The tree of a YAML text, which holds one document at most. Nodes are built from the tokens from
left to right; where a node is missing, an empty plain text stands. Functions recur on a bound on
the number of tokens left, twice over.
-/
namespace Phrasebook.Yaml

open Utf8 (Bytes)

structure Label (α : Type) where
  anchor : Option α
  tag : Option Bytes
  deriving Repr

inductive Node (α : Type) where
  | alias (name : α)
  | scalar (label : Label α) (text : String) (plain : Bool)
  | sequence (label : Label α) (items : List (Node α))
  | mapping (label : Label α) (pairs : List (Node α × Node α))
  deriving Repr

abbrev Handles := List (Bytes × Bytes)

def coreTag (name : List Char) : Bytes := bytesOf "tag:yaml.org,2002:".toList ++ bytesOf name

def defaultHandles : Handles := [(bytesOf ['!'], bytesOf ['!']), (bytesOf ['!', '!'], coreTag [])]

namespace Node

abbrev Named := Node String

def noLabel {α : Type} : Label α := ⟨none, none⟩

def emptyPlain {α : Type} (label : Label α) : Node α := .scalar label "" true

def resolveTag (handles : Handles) (handle suffix : Bytes) : Option Bytes :=
  if handle.isEmpty then some suffix else (handles.lookup handle).map (· ++ suffix)

def label (handles : Handles) : List Token → Option (Label String × List Token)
  | .anchor name :: .tag handle suffix :: rest =>
    (resolveTag handles handle suffix).map fun tag => (⟨some (String.ofList name), some tag⟩, rest)
  | .anchor name :: rest => some (⟨some (String.ofList name), none⟩, rest)
  | .tag handle suffix :: .anchor name :: rest =>
    (resolveTag handles handle suffix).map fun tag => (⟨some (String.ofList name), some tag⟩, rest)
  | .tag handle suffix :: rest =>
    (resolveTag handles handle suffix).map fun tag => (⟨none, some tag⟩, rest)
  | rest => some (noLabel, rest)

def comes (next : List Token) (tokens : List Token) : Bool := tokens.head?.any next.contains

def blockStops : List Token := [.key, .value, .blockEnd]

mutual

/-- A node. Block collections can only stand where `block` is true, and a sequence whose entries
are not indented only where `indentless` is. -/
def read (handles : Handles) (block indentless : Bool) :
    (bound : Nat) → List Token → Option (Named × List Token)
  | 0, _ => none
  | _, .alias name :: rest => some (.alias (String.ofList name), rest)
  | bound + 1, tokens => do
    let (label, rest) ← label handles tokens
    match rest with
    | .scalar text plain :: rest => return (.scalar label (String.ofList text) plain, rest)
    | .flowSequence :: rest =>
      let (items, rest) ← readFlowItems handles true bound rest
      return (.sequence label items, rest)
    | .flowMapping :: rest =>
      let (pairs, rest) ← readFlowPairs handles true bound rest
      return (.mapping label pairs, rest)
    | .blockSequence :: rest' =>
      if block then
        let (items, rest) ← readItems handles bound rest'
        return (.sequence label items, rest)
      else orEmpty label rest
    | .blockMapping :: rest' =>
      if block then
        let (pairs, rest) ← readPairs handles bound rest'
        return (.mapping label pairs, rest)
      else orEmpty label rest
    | .blockEntry :: _ =>
      if indentless then
        let (items, rest) ← readIndentless handles bound rest
        return (.sequence label items, rest)
      else orEmpty label rest
    | _ => orEmpty label rest

def orEmpty (label : Label String) (rest : List Token) : Option (Named × List Token) :=
  if label.anchor.isSome || label.tag.isSome then some (emptyPlain label, rest) else none

def readItems (handles : Handles) :
    (bound : Nat) → List Token → Option (List Named × List Token)
  | 0, _ => none
  | bound + 1, .blockEntry :: rest => do
    let (item, rest) ←
      if comes [.blockEntry, .blockEnd] rest then some (emptyPlain noLabel, rest)
      else read handles true false bound rest
    let (more, rest) ← readItems handles bound rest
    return (item :: more, rest)
  | _, .blockEnd :: rest => some ([], rest)
  | _, _ => none

def readIndentless (handles : Handles) :
    (bound : Nat) → List Token → Option (List Named × List Token)
  | 0, _ => none
  | bound + 1, .blockEntry :: rest => do
    let (item, rest) ←
      if comes (.blockEntry :: blockStops) rest then some (emptyPlain noLabel, rest)
      else read handles true false bound rest
    let (more, rest) ← readIndentless handles bound rest
    return (item :: more, rest)
  | _, rest => some ([], rest)

def readPairs (handles : Handles) :
    (bound : Nat) → List Token → Option (List (Named × Named) × List Token)
  | 0, _ => none
  | bound + 1, .key :: rest => do
    let (k, rest) ←
      if comes blockStops rest then some (emptyPlain noLabel, rest)
      else read handles true true bound rest
    let (v, rest) ←
      match rest with
      | .value :: rest =>
        if comes blockStops rest then some (emptyPlain noLabel, rest)
        else read handles true true bound rest
      | rest => some (emptyPlain noLabel, rest)
    let (more, rest) ← readPairs handles bound rest
    return ((k, v) :: more, rest)
  | _, .blockEnd :: rest => some ([], rest)
  | _, _ => none

/-- The items of a flow sequence. An item may be a single pair, which is a mapping. Where the key of
such a pair is missing the token in its place goes too. -/
def readFlowItems (handles : Handles) (first : Bool) :
    (bound : Nat) → List Token → Option (List Named × List Token)
  | 0, _ => none
  | bound + 1, tokens =>
    match tokens with
    | .flowSequenceEnd :: rest => some ([], rest)
    | _ => do
      let tokens ←
        match first, tokens with
        | true, tokens => some tokens
        | false, .flowEntry :: rest => some rest
        | false, _ => none
      match tokens with
      | .flowSequenceEnd :: rest => return ([], rest)
      | .key :: rest =>
        let (k, rest) ←
          if comes [.value, .flowEntry, .flowSequenceEnd] rest then
            some (emptyPlain noLabel, rest.tail)
          else read handles false false bound rest
        let (v, rest) ←
          match rest with
          | .value :: rest =>
            if comes [.flowEntry, .flowSequenceEnd] rest then some (emptyPlain noLabel, rest)
            else read handles false false bound rest
          | rest => some (emptyPlain noLabel, rest)
        let (more, rest) ← readFlowItems handles false bound rest
        return (.mapping noLabel [(k, v)] :: more, rest)
      | tokens =>
        let (item, rest) ← read handles false false bound tokens
        let (more, rest) ← readFlowItems handles false bound rest
        return (item :: more, rest)

def readFlowPairs (handles : Handles) (first : Bool) :
    (bound : Nat) → List Token → Option (List (Named × Named) × List Token)
  | 0, _ => none
  | bound + 1, tokens =>
    match tokens with
    | .flowMappingEnd :: rest => some ([], rest)
    | _ => do
      let tokens ←
        match first, tokens with
        | true, tokens => some tokens
        | false, .flowEntry :: rest => some rest
        | false, _ => none
      match tokens with
      | .flowMappingEnd :: rest => return ([], rest)
      | .key :: rest =>
        let (k, rest) ←
          if comes [.value, .flowEntry, .flowMappingEnd] rest then some (emptyPlain noLabel, rest)
          else read handles false false bound rest
        let (v, rest) ←
          match rest with
          | .value :: rest =>
            if comes [.flowEntry, .flowMappingEnd] rest then some (emptyPlain noLabel, rest)
            else read handles false false bound rest
          | rest => some (emptyPlain noLabel, rest)
        let (more, rest) ← readFlowPairs handles false bound rest
        return ((k, v) :: more, rest)
      | tokens =>
        let (k, rest) ← read handles false false bound tokens
        let (more, rest) ← readFlowPairs handles false bound rest
        return ((k, emptyPlain noLabel) :: more, rest)

end

def directives : (version : Bool) → Handles → List Token → Option (Handles × List Token)
  | version, handles, .versionDirective major minor :: rest =>
    if version || major ≠ 1 || (minor ≠ 1 && minor ≠ 2) then none
    else directives true handles rest
  | version, handles, .tagDirective handle expansion :: rest =>
    if (handles.lookup handle).isSome then none
    else directives version (handles ++ [(handle, expansion)]) rest
  | _, handles, rest => some (handles ++ defaultHandles, rest)

def isDirective : Token → Bool
  | .versionDirective .. | .tagDirective .. => true
  | _ => false

def firstDocument (tokens : List Token) : Option (Option Named × List Token) :=
  let bound := 2 * tokens.length + 2
  match tokens with
  | [] => some (none, [])
  | t :: _ =>
    if isDirective t || t = .documentStart then do
      let (handles, rest) ← directives false [] tokens
      match rest with
      | .documentStart :: rest =>
        if rest.head?.all fun t => isDirective t || t = .documentStart || t = .documentEnd then
          return (some (emptyPlain noLabel), rest)
        else
          let (node, rest) ← read handles true false bound rest
          return (some node, rest)
      | _ => none
    else do
      let (node, rest) ← read defaultHandles true false bound tokens
      return (some node, rest)

def ofTokens? (tokens : List Token) : Option (Option Named) := do
  let (node, rest) ← firstDocument tokens
  if rest.all (· = .documentEnd) then some node else none

end Node
end Phrasebook.Yaml
