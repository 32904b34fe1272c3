import Phrasebook.Yaml.Node

/-!
Aliases in a tree. Anchors are numbered in the order of the text by the count of different names
before them, so an anchor whose name is used again may share its number with a later one; an alias
stands for the last node with the number that its name had where the alias is.
-/
namespace Phrasebook.Yaml

namespace Node

abbrev Numbered := Node Nat

abbrev Names := List (String × Nat)

def Names.size (names : Names) : Nat := (names.map (·.1)).eraseDups.length

def numberLabel (label : Label String) (names : Names) : Label Nat × Names :=
  match label.anchor with
  | none => (⟨none, label.tag⟩, names)
  | some name => (⟨some names.size, label.tag⟩, (name, names.size) :: names)

mutual

def number (names : Names) : Named → Option (Numbered × Names)
  | .alias name => (names.lookup name).map fun n => (.alias n, names)
  | .scalar label text plain =>
    let (label, names) := numberLabel label names
    some (.scalar label text plain, names)
  | .sequence label items => do
    let (label, names) := numberLabel label names
    let (items, names) ← numberItems names items
    return (.sequence label items, names)
  | .mapping label pairs => do
    let (label, names) := numberLabel label names
    let (pairs, names) ← numberPairs names pairs
    return (.mapping label pairs, names)

def numberItems (names : Names) : List Named → Option (List Numbered × Names)
  | [] => some ([], names)
  | item :: rest => do
    let (item, names) ← number names item
    let (rest, names) ← numberItems names rest
    return (item :: rest, names)

def numberPairs (names : Names) : List (Named × Named) → Option (List (Numbered × Numbered) × Names)
  | [] => some ([], names)
  | (k, v) :: rest => do
    let (k, names) ← number names k
    let (v, names) ← number names v
    let (rest, names) ← numberPairs names rest
    return ((k, v) :: rest, names)

end

def target (label : Label Nat) (node : Numbered) : List (Nat × Numbered) :=
  match label.anchor with
  | none => []
  | some n => [(n, node)]

mutual

def targets : Numbered → List (Nat × Numbered)
  | .alias _ => []
  | .scalar label text plain => target label (.scalar label text plain)
  | .sequence label items => itemTargets items ++ target label (.sequence label items)
  | .mapping label pairs => pairTargets pairs ++ target label (.mapping label pairs)

def itemTargets : List Numbered → List (Nat × Numbered)
  | [] => []
  | item :: rest => itemTargets rest ++ targets item

def pairTargets : List (Numbered × Numbered) → List (Nat × Numbered)
  | [] => []
  | (k, v) :: rest => pairTargets rest ++ (targets v ++ targets k)

end

mutual

/-- The number of steps in which a tree is read: one for each text and alias, and one for each
beginning and each end of a collection. -/
def steps : Numbered → Nat
  | .alias _ | .scalar .. => 1
  | .sequence _ items => itemSteps items + 2
  | .mapping _ pairs => pairSteps pairs + 2

def itemSteps : List Numbered → Nat
  | [] => 0
  | item :: rest => steps item + itemSteps rest

def pairSteps : List (Numbered × Numbered) → Nat
  | [] => 0
  | (k, v) :: rest => steps k + steps v + pairSteps rest

end

end Node
end Phrasebook.Yaml
