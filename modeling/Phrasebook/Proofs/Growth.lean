import Phrasebook.Proofs.Folder

/-!
Trees before and after a file is added. Every path that led somewhere leads there still, and one
that leads somewhere only now leads to the new file. So if nothing but its own name leads to the new
file, all that changes in what is seen from a path is that the folder of the file shows it, under
each name that leads to this folder.
-/
namespace Phrasebook

open Utf8 (Bytes)

namespace Tree

/-- The second tree is the first one with a new file in the folder at a place. -/
inductive Gains (name : Name) (content : Bytes) : List Name → Tree → Tree → Prop where
  | here {front back : List (Name × Tree)} (fresh : name ∉ (front ++ back).map Prod.fst) :
      Gains name content [] (.folder (front ++ back))
        (.folder (front ++ (name, .file content) :: back))
  | inside {front back : List (Name × Tree)} {sub : Name} {place : List Name} {t t' : Tree}
      (first : sub ∉ front.map Prod.fst) (gains : Gains name content place t t') :
      Gains name content (sub :: place) (.folder (front ++ (sub, t) :: back))
        (.folder (front ++ (sub, t') :: back))

/-- What stands somewhere in a tree, and in the tree with a new file. -/
inductive Change (name : Name) (content : Bytes) (place spot : List Name) :
    Option Tree → Option Tree → Prop where
  | absent : Change name content place spot none none
  | new (here : spot = place ++ [name]) : Change name content place spot none (some (.file content))
  | same (t : Tree) : Change name content place spot (some t) (some t)
  | grown {rest : List Name} {t t' : Tree} (way : place = spot ++ rest)
      (gains : Gains name content rest t t') : Change name content place spot (some t) (some t')

variable {name : Name} {content : Bytes} {place spot : List Name} {top top' : Tree}

theorem Gains.folders (gains : Gains name content place top top') :
    ∃ entries entries', top = .folder entries ∧ top' = .folder entries' := by
  cases gains with
  | here | inside => exact ⟨_, _, rfl, rfl⟩

theorem Change.refl (seen : Option Tree) : Change name content place spot seen seen := by
  cases seen with
  | none => exact .absent
  | some t => exact .same t

theorem Change.below (sub : Name) {seen seen' : Option Tree}
    (change : Change name content place spot seen seen') :
    Change name content (sub :: place) (sub :: spot) seen seen' := by
  cases change with
  | absent => exact .absent
  | new here => exact .new (congrArg (sub :: ·) here)
  | same t => exact .same t
  | grown way gains => exact .grown (congrArg (sub :: ·) way) gains

theorem Change.names_eq {entries entries' : List (Name × Tree)}
    (change : Change name content place spot (some (.folder entries)) (some (.folder entries')))
    (elsewhere : spot ≠ place) : entries'.map Prod.fst = entries.map Prod.fst := by
  cases change with
  | same => rfl
  | grown way gains =>
    cases gains with
    | here => exact absurd (way.trans (List.append_nil spot)).symm elsewhere
    | inside => simp

section Lookup

variable {α β : Type} {front back : List (α × β)} {key : α}

theorem not_mem_front (fresh : key ∉ (front ++ back).map Prod.fst) : key ∉ front.map Prod.fst := by
  intro member
  rw [List.map_append] at fresh
  exact fresh (List.mem_append_left _ member)

variable [BEq α] [LawfulBEq α]

theorem lookup_of_not_mem {entries : List (α × β)} (fresh : key ∉ entries.map Prod.fst) :
    entries.lookup key = none := by
  rw [List.lookup_eq_none_iff]
  intro entry member
  have ne : key ≠ entry.1 := fun same => fresh (same ▸ List.mem_map_of_mem member)
  simpa using ne

theorem lookup_middle (first : key ∉ front.map Prod.fst) (value : β) :
    (front ++ (key, value) :: back).lookup key = some value := by
  rw [List.lookup_append, lookup_of_not_mem first, List.lookup_cons_self, Option.none_or]

theorem lookup_middle_of_ne {other : α} (ne : other ≠ key) (value : β) :
    (front ++ (key, value) :: back).lookup other = (front ++ back).lookup other := by
  have differs : (other == key) = false := by simpa using ne
  rw [List.lookup_append, List.lookup_append, List.lookup_cons, differs]

end Lookup

theorem at?_append (t : Tree) (spot more : List Name) :
    t.at? (spot ++ more) = (t.at? spot).bind fun sub => sub.at? more := by
  induction spot generalizing t with
  | nil => rfl
  | cons sub rest ih =>
    cases t with
    | file | link => rfl
    | folder entries =>
      simp only [List.cons_append, at?, Option.bind_assoc]
      congr 1
      funext inner
      exact ih inner

theorem change_at? (gains : Gains name content place top top') (spot : List Name) :
    Change name content place spot (top.at? spot) (top'.at? spot) := by
  induction gains generalizing spot with
  | @here front back fresh =>
    cases spot with
    | nil => exact .grown rfl (.here fresh)
    | cons sub rest =>
      rw [at?, at?]
      by_cases named : sub = name
      · subst named
        rw [lookup_of_not_mem fresh, lookup_middle (not_mem_front fresh)]
        cases rest with
        | nil => exact .new rfl
        | cons => exact .absent
      · rw [lookup_middle_of_ne named]
        exact .refl _
  | @inside front back sub place t t' first gains ih =>
    cases spot with
    | nil => exact .grown rfl (.inside first gains)
    | cons other rest =>
      rw [at?, at?]
      by_cases named : other = sub
      · subst named
        rw [lookup_middle first, lookup_middle first]
        exact (ih rest).below other
      · rw [lookup_middle_of_ne named, lookup_middle_of_ne named]
        exact .refl _

theorem at?_of_folder {t : Tree} {entries : List (Name × Tree)}
    (here : t.at? spot = some (.folder entries)) (sub : Name) :
    t.at? (spot ++ [sub]) = entries.lookup sub := by
  rw [at?_append, here, Option.bind_some, at?]
  exact Option.bind_fun_some _

section Folders

variable {entries entries' : List (Name × Tree)} (gains : Gains name content place top top')
include gains

theorem exists_folder (here : top.at? spot = some (.folder entries)) :
    ∃ entries', top'.at? spot = some (.folder entries') := by
  have change := change_at? gains spot
  rw [here] at change
  generalize top'.at? spot = seen at change
  cases change with
  | same => exact ⟨entries, rfl⟩
  | grown way more =>
    obtain ⟨_, inner, -, rfl⟩ := more.folders
    exact ⟨inner, rfl⟩

theorem change_lookup (here : top.at? spot = some (.folder entries))
    (here' : top'.at? spot = some (.folder entries')) (sub : Name) :
    Change name content place (spot ++ [sub]) (entries.lookup sub) (entries'.lookup sub) := by
  have change := change_at? gains (spot ++ [sub])
  rwa [at?_of_folder here, at?_of_folder here'] at change

theorem lookup_of_none (here : top.at? spot = some (.folder entries))
    (here' : top'.at? spot = some (.folder entries')) {sub : Name}
    (missing : entries.lookup sub = none) :
    entries'.lookup sub = none ∨
      spot ++ [sub] = place ++ [name] ∧ entries'.lookup sub = some (.file content) := by
  have change := change_lookup gains here here' sub
  rw [missing] at change
  generalize entries'.lookup sub = seen at change
  cases change with
  | absent => exact .inl rfl
  | new is_new => exact .inr ⟨is_new, rfl⟩

theorem lookup_of_some (here : top.at? spot = some (.folder entries))
    (here' : top'.at? spot = some (.folder entries')) {sub : Name} {t : Tree}
    (found : entries.lookup sub = some t) :
    entries'.lookup sub = some t ∨ ∃ inner inner', t = .folder inner ∧
      entries'.lookup sub = some (.folder inner') := by
  have change := change_lookup gains here here' sub
  rw [found] at change
  generalize entries'.lookup sub = seen at change
  cases change with
  | same => exact .inl rfl
  | grown way more =>
    obtain ⟨inner, inner', rfl, rfl⟩ := more.folders
    exact .inr ⟨inner, inner', rfl, rfl⟩

theorem lookup_of_link (here : top.at? spot = some (.folder entries))
    (here' : top'.at? spot = some (.folder entries')) {sub : Name} {target : Bytes}
    (linked : entries.lookup sub = some (.link target)) :
    entries'.lookup sub = some (.link target) := by
  obtain linked' | ⟨_, _, other, -⟩ := lookup_of_some gains here here' linked
  · exact linked'
  · cases other

end Folders

/-- What was found is found again, and what is found now was found before or is the new file. -/
def Kept (name : Name) (place : List Name) (before after : Except ReadFault (Nat × List Name)) :
    Prop :=
  (∀ found, before = .ok found → after = .ok found) ∧
    ∀ left spot, after = .ok (left, spot) → before = .ok (left, spot) ∨ spot = place ++ [name]

theorem kept_refl (result : Except ReadFault (Nat × List Name)) : Kept name place result result :=
  ⟨fun _ => id, fun _ _ => .inl⟩

theorem kept_of_faults (fault fault' : ReadFault) :
    Kept name place (.error fault) (.error fault') := ⟨nofun, nofun⟩

section Steps

variable {onLink onLink' : (place todo : List Name) → Except ReadFault (Nat × List Name)}
  (links : Nat)

theorem followWith_new (there : top'.at? spot = some (.file content)) (todo : List Name)
    (is_new : spot = place ++ [name]) (fault : ReadFault) :
    Kept name place (.error fault) (top'.followWith links onLink' spot todo) := by
  cases todo with
  | nil =>
    rw [followWith]
    constructor
    · rintro found ⟨⟩
    · rintro left found ⟨⟩
      exact .inr is_new
  | cons sub rest =>
    rw [followWith, there]
    exact kept_of_faults _ _

variable {entries : List (Name × Tree)} (gains : Gains name content place top top') {sub : Name}
  (rest : List Name)
include gains

theorem at?_of_not_folder {t : Tree} (here : top.at? spot = some t)
    (notFolder : ∀ entries, t ≠ .folder entries) : top'.at? spot = some t := by
  have change := change_at? gains spot
  rw [here] at change
  generalize top'.at? spot = seen at change
  cases change with
  | same => rfl
  | grown way more =>
    obtain ⟨entries, _, rfl, -⟩ := more.folders
    exact absurd rfl (notFolder entries)

theorem followWith_absent (missing : top.at? spot = none) (fault : ReadFault) :
    Kept name place (.error fault) (top'.followWith links onLink' spot (sub :: rest)) := by
  have change := change_at? gains spot
  rw [missing] at change
  rw [followWith]
  generalize top'.at? spot = seen at change
  cases change with
  | absent | new => exact kept_of_faults _ _

variable (here : top.at? spot = some (.folder entries))
  (same : ¬(sub = [] ∨ sub = Tree.here)) (up : sub ≠ above)
include here same up

theorem followWith_missing (missing : entries.lookup sub = none) (fault : ReadFault) :
    Kept name place (.error fault) (top'.followWith links onLink' spot (sub :: rest)) := by
  obtain ⟨entries', here'⟩ := exists_folder gains here
  rw [followWith, here']
  simp only [same, up, if_false]
  rcases lookup_of_none gains here here' missing with missing' | ⟨is_new, found⟩
  · rw [missing']
    exact kept_of_faults _ _
  · rw [found]
    exact followWith_new links ((at?_of_folder here' sub).trans found) rest is_new _

theorem followWith_found {t : Tree} (notLink : ∀ target, t ≠ .link target)
    (found : entries.lookup sub = some t) :
    top'.followWith links onLink' spot (sub :: rest) =
      top'.followWith links onLink' (spot ++ [sub]) rest := by
  obtain ⟨entries', here'⟩ := exists_folder gains here
  rw [followWith, here']
  simp only [same, up, if_false]
  obtain found' | ⟨_, _, -, found'⟩ := lookup_of_some gains here here' found
  · rw [found']
    cases t with
    | link target => exact absurd rfl (notLink target)
    | file | folder => rfl
  · rw [found']

end Steps

/-- A step goes the same way in both trees; they part only where the new name was missing. -/
theorem followWith_gains (gains : Gains name content place top top') (links : Nat)
    {onLink onLink' : (place todo : List Name) → Except ReadFault (Nat × List Name)}
    (beyond : ∀ spot todo, Kept name place (onLink spot todo) (onLink' spot todo))
    (spot todo : List Name) :
    Kept name place (top.followWith links onLink spot todo)
      (top'.followWith links onLink' spot todo) := by
  fun_induction Tree.followWith top links onLink spot todo with
  | case1 spot =>
    rw [followWith]
    exact kept_refl _
  | case2 spot sub rest entries here same ih =>
    obtain ⟨entries', here'⟩ := exists_folder gains here
    rw [followWith, here']
    simpa only [same, if_true] using ih
  | case3 spot rest entries here same ih =>
    obtain ⟨entries', here'⟩ := exists_folder gains here
    rw [followWith, here']
    simpa only [same, if_false, if_true] using ih
  | case4 spot sub rest entries here same up missing =>
    exact followWith_missing links gains rest here same up missing _
  | case5 spot sub rest entries here same up target linked =>
    obtain ⟨entries', here'⟩ := exists_folder gains here
    rw [followWith, here']
    simp only [same, up, lookup_of_link gains here here' linked, if_false]
    exact beyond _ _
  | case6 spot sub rest entries here same up t notLink found ih =>
    rw [followWith_found links gains rest here same up notLink found]
    exact ih
  | case7 spot sub rest t notFolder here =>
    rw [followWith, at?_of_not_folder gains here notFolder]
    cases t with
    | folder entries => exact absurd rfl (notFolder entries)
    | file | link => exact kept_refl _
  | case8 spot sub rest missing => exact followWith_absent links gains rest missing _

theorem follow_gains (gains : Gains name content place top top') (links : Nat)
    (spot todo : List Name) :
    Kept name place (top.follow links spot todo) (top'.follow links spot todo) := by
  induction links generalizing spot todo with
  | zero => exact followWith_gains gains 0 (fun _ _ => kept_refl _) spot todo
  | succ links ih => exact followWith_gains gains (links + 1) ih spot todo

theorem exists_follow_eq (t : Tree) (links : Nat) :
    ∃ onLink, t.follow links = t.followWith links onLink := by
  cases links with
  | zero | succ => exact ⟨_, rfl⟩

/-- Only its own name in its own folder leads to what stands under a name in the folder at a
place. -/
def Alone (t : Tree) (place : List Name) (name : Name) : Prop :=
  ∀ links spot sub left, t.follow links spot [sub] = .ok (left, place ++ [name]) →
    spot = place ∧ sub = name

inductive Linkless : Tree → Prop where
  | file (content : Bytes) : Linkless (.file content)
  | folder {entries : List (Name × Tree)} (each : ∀ e ∈ entries, Linkless e.2) :
      Linkless (.folder entries)

theorem linkless_at? {t sub : Tree} (linkless : t.Linkless) (here : t.at? spot = some sub) :
    sub.Linkless := by
  induction spot generalizing t with
  | nil =>
    obtain rfl : t = sub := by simpa [at?] using here
    exact linkless
  | cons first rest ih =>
    cases linkless with
    | file => simp [at?] at here
    | folder each =>
      simp only [at?, Option.bind_eq_some_iff] at here
      obtain ⟨inner, found, here⟩ := here
      exact ih (each _ (mem_of_lookup found)) here

theorem at?_below_file {t : Tree} (here : t.at? spot = some (.file content)) (sub : Name) :
    t.at? (spot ++ [sub]) = none := by
  rw [at?_append, here]
  rfl

theorem alone_of_linkless {t : Tree} (linkless : t.Linkless)
    (there : t.at? (place ++ [name]) = some (.file content)) : t.Alone place name := by
  intro links spot sub left followed
  obtain ⟨onLink, same⟩ := t.exists_follow_eq links
  rw [same, followWith] at followed
  split at followed
  · rename_i entries here
    split at followed
    · -- The folder itself is no file.
      rw [followWith] at followed
      cases followed
      rw [there] at here
      cases here
    · split at followed
      -- Nor is the folder above it, which is itself at the top.
      · rw [followWith] at followed
        obtain ⟨-, up⟩ := Prod.mk.inj (Except.ok.inj followed)
        rcases List.eq_nil_or_concat spot with rfl | ⟨_, last, rfl⟩
        · simp at up
        · rw [List.concat_eq_append, List.dropLast_concat] at up
          have missing := at?_below_file (up ▸ there) last
          rw [← List.concat_eq_append, here] at missing
          cases missing
      · split at followed
        · cases followed
        · rename_i target found
          cases linkless_at? linkless ((at?_of_folder here sub).trans found)
        · rw [followWith] at followed
          obtain ⟨-, same⟩ := Prod.mk.inj (Except.ok.inj followed)
          obtain ⟨rfl, last⟩ := List.append_inj' same rfl
          exact ⟨rfl, List.singleton_inj.1 last⟩
  · cases followed
  · cases followed

/-- Whether a name in the folder at a spot, which has a path, leads to a place. -/
def leadsTo (t : Tree) (links : Nat) (spot : List Name) (path : Bytes) (place : List Name)
    (sub : Name) : Bool :=
  (t.entry? links spot path sub).any fun found => found.2.1 = place

theorem at?_place (gains : Gains name content place top top') :
    ∃ front back, name ∉ (front ++ back).map Prod.fst ∧
      top.at? place = some (.folder (front ++ back)) ∧
      top'.at? place = some (.folder (front ++ (name, .file content) :: back)) := by
  induction gains with
  | @here front back fresh => exact ⟨front, back, fresh, rfl, rfl⟩
  | inside first gains ih =>
    obtain ⟨front, back, fresh, here, here'⟩ := ih
    refine ⟨front, back, fresh, ?_, ?_⟩
    · rw [at?, lookup_middle first]
      exact here
    · rw [at?, lookup_middle first]
      exact here'

theorem at?_new (gains : Gains name content place top top') :
    top'.at? (place ++ [name]) = some (.file content) := by
  obtain ⟨front, back, fresh, -, here'⟩ := at?_place gains
  rw [at?_of_folder here', lookup_middle (not_mem_front fresh)]

section Names

variable {entries entries' : List (Name × Tree)} (gains : Gains name content place top top')
  (here : top.at? spot = some (.folder entries))
include gains here

theorem not_new_of_mem {n : Name} (member : n ∈ entries.map Prod.fst) :
    ¬(spot = place ∧ n = name) := by
  rintro ⟨rfl, rfl⟩
  obtain ⟨front, back, fresh, place_here, -⟩ := at?_place gains
  rw [here] at place_here
  cases place_here
  exact fresh member

theorem names_subset (here' : top'.at? spot = some (.folder entries')) :
    entries.map Prod.fst ⊆ entries'.map Prod.fst := by
  have change := change_at? gains spot
  rw [here, here'] at change
  intro n member
  cases change with
  | same => exact member
  | grown way more =>
    cases more with
    | here fresh =>
      rw [List.map_append, List.mem_append] at member
      rw [List.map_append, List.map_cons, List.mem_append, List.mem_cons]
      exact member.imp_right .inr
    | inside => simpa using member

end Names

theorem entry?_eq_some {t sub : Tree} {links left : Nat} {spot found : List Name} {path : Bytes}
    {n : Name} (seen : t.entry? links spot path n = some (left, found, sub)) :
    t.at? found = some sub := by
  unfold entry? at seen
  split at seen
  · cases seen
  · split at seen
    · cases seen
    · obtain ⟨_, here, same⟩ := Option.map_eq_some_iff.1 seen
      cases same
      exact here

def shownAt (path content : Bytes) : Leaf :=
  if pathLimit < path.length then .other else .file content

section New

variable (gains : Gains name content place top top')
  (plain : name ≠ [] ∧ name ≠ Tree.here ∧ name ≠ above) (links : Nat) (path : Bytes)
include gains plain

theorem entry?_new : top'.entry? links place path name =
    if pathLimit < (joined path name).length then none
    else some (links, place ++ [name], .file content) := by
  obtain ⟨front, back, fresh, -, here'⟩ := at?_place gains
  have first := not_mem_front fresh
  have followed : top'.follow links place [name] = .ok (links, place ++ [name]) := by
    obtain ⟨onLink, same⟩ := top'.exists_follow_eq links
    rw [same, followWith, here']
    simp only [plain, or_self, if_false, lookup_middle first]
    rw [followWith]
  unfold entry?
  simp only [followed, at?_new gains, Option.map_some]

theorem leaf_new : top'.leaf links place path name = shownAt (joined path name) content := by
  rw [leaf, entry?_new gains plain, shownAt]
  by_cases long : pathLimit < (joined path name).length <;> simp only [long, if_true, if_false]

theorem branch_new : top'.branch links place path name = .other := by
  rw [branch, entry?_new gains plain]
  by_cases long : pathLimit < (joined path name).length <;> simp only [long, if_true, if_false]

end New

section Seen

variable (gains : Gains name content place top top') (alone : top'.Alone place name)
include gains alone

/-- Every name but the new one stands for what it stood for, with the new file in it or not. -/
theorem entry?_gains (links : Nat) {spot : List Name} (path : Bytes) {sub : Name}
    (other : ¬(spot = place ∧ sub = name)) :
    top.entry? links spot path sub = none ∧ top'.entry? links spot path sub = none ∨
      ∃ left found t t', top.entry? links spot path sub = some (left, found, t) ∧
        top'.entry? links spot path sub = some (left, found, t') ∧
        Change name content place found (some t) (some t') := by
  obtain ⟨again, before⟩ := follow_gains gains links spot [sub]
  unfold entry?
  by_cases long : pathLimit < (joined path sub).length
  · rw [if_pos long, if_pos long]
    exact .inl ⟨rfl, rfl⟩
  · rw [if_neg long, if_neg long]
    cases followed : top.follow links spot [sub] with
    | error fault =>
      cases followed' : top'.follow links spot [sub] with
      | error fault' => exact .inl ⟨rfl, rfl⟩
      | ok result =>
        obtain ⟨left, found⟩ := result
        rcases before left found followed' with same | rfl
        · rw [followed] at same
          cases same
        · exact absurd (alone _ _ _ _ followed') other
    | ok result =>
      obtain ⟨left, found⟩ := result
      have followed' := again _ followed
      rw [followed']
      have change := change_at? gains found
      dsimp only
      generalize top.at? found = seen at change
      generalize top'.at? found = seen' at change
      cases change with
      | absent => exact .inl ⟨rfl, rfl⟩
      | new is_new =>
        subst is_new
        exact absurd (alone _ _ _ _ followed') other
      | same t => exact .inr ⟨left, found, t, t, rfl, rfl, .same t⟩
      | grown way more => exact .inr ⟨left, found, _, _, rfl, rfl, .grown way more⟩

theorem leaf_gains (links : Nat) {spot : List Name} (path : Bytes) {sub : Name}
    (other : ¬(spot = place ∧ sub = name)) :
    top'.leaf links spot path sub = top.leaf links spot path sub := by
  unfold leaf
  obtain ⟨missing, missing'⟩ | ⟨left, found, t, t', seen, seen', change⟩ :=
    entry?_gains gains alone links path other
  · rw [missing, missing']
  · rw [seen, seen']
    cases change with
    | same => rfl
    | grown way more =>
      obtain ⟨_, _, rfl, rfl⟩ := more.folders
      rfl

theorem files_gains {found : List Name} {entries entries' : List (Name × Tree)}
    (elsewhere : found ≠ place)
    (change : Change name content place found (some (.folder entries)) (some (.folder entries')))
    (left : Nat) (path : Bytes) :
    (entries'.map fun e => (e.1, top'.leaf left found path e.1)) =
      entries.map fun e => (e.1, top.leaf left found path e.1) := by
  have each (n : Name) : top'.leaf left found path n = top.leaf left found path n :=
    leaf_gains gains alone left path fun both => elsewhere both.1
  have files := congrArg (List.map fun n => (n, top.leaf left found path n))
    (change.names_eq elsewhere)
  rw [List.map_map, List.map_map] at files
  simp only [each]
  exact files

theorem files_place {front back : List (Name × Tree)}
    (fresh : name ∉ (front ++ back).map Prod.fst) (left : Nat) (path : Bytes) :
    ((front ++ (name, .file content) :: back).map fun e => (e.1, top'.leaf left place path e.1)) =
      (front.map fun e => (e.1, top.leaf left place path e.1)) ++
        (name, top'.leaf left place path name) ::
          back.map fun e => (e.1, top.leaf left place path e.1) := by
  have each : ∀ e ∈ front ++ back, (e.1, top'.leaf left place path e.1) =
      (e.1, top.leaf left place path e.1) := by
    intro e member
    have ne : e.1 ≠ name := fun same => fresh (same ▸ List.mem_map_of_mem member)
    rw [leaf_gains gains alone left path fun both => ne both.2]
  rw [List.map_append, List.map_cons,
    List.map_congr_left fun e member => each e (List.mem_append_left _ member),
    List.map_congr_left fun e member => each e (List.mem_append_right _ member)]

theorem branch_of_leadsTo (plain : name ≠ [] ∧ name ≠ Tree.here ∧ name ≠ above) {links : Nat}
    {spot : List Name} {path : Bytes} {sub : Name} (other : ¬(spot = place ∧ sub = name))
    (leads : top.leadsTo links spot path place sub = true) :
    ∃ front back, top.branch links spot path sub = .folder (front ++ back) ∧
      top'.branch links spot path sub = .folder (front ++
        (name, shownAt (joined (joined path sub) name) content) :: back) := by
  unfold leadsTo at leads
  unfold branch
  obtain ⟨missing, -⟩ | ⟨left, found, t, t', seen, seen', -⟩ :=
    entry?_gains gains alone links path other
  · rw [missing] at leads
    cases leads
  · rw [seen] at leads
    obtain rfl : found = place := of_decide_eq_true leads
    obtain ⟨front, back, fresh, here, here'⟩ := at?_place gains
    rw [entry?_eq_some seen] at here
    rw [entry?_eq_some seen'] at here'
    cases here
    cases here'
    rw [seen, seen', ← leaf_new gains plain left]
    refine ⟨_, _, congrArg Branch.folder List.map_append, ?_⟩
    exact congrArg Branch.folder (files_place gains alone fresh left (joined path sub))

theorem branch_of_not_leadsTo {links : Nat} {spot : List Name} {path : Bytes} {sub : Name}
    (other : ¬(spot = place ∧ sub = name))
    (leads : ¬top.leadsTo links spot path place sub = true) :
    top'.branch links spot path sub = top.branch links spot path sub := by
  unfold leadsTo at leads
  unfold branch
  obtain ⟨missing, missing'⟩ | ⟨left, found, t, t', seen, seen', change⟩ :=
    entry?_gains gains alone links path other
  · rw [missing, missing']
  · rw [seen] at leads
    have elsewhere : found ≠ place := fun same => leads (decide_eq_true same)
    rw [seen, seen']
    cases change with
    | same =>
      cases t with
      | folder entries =>
        exact congrArg Branch.folder (files_gains gains alone elsewhere (.same _) left _)
      | file | link => rfl
    | grown way more =>
      have change : Change name content place found (some t) (some t') := .grown way more
      obtain ⟨entries, entries', rfl, rfl⟩ := more.folders
      exact congrArg Branch.folder (files_gains gains alone elsewhere change left _)

end Seen

theorem locate_gains (gains : Gains name content place top top') {home : List Name} {path : Bytes}
    {found : Nat × List Name} (located : top.locate home path = .ok found) :
    top'.locate home path = .ok found := by
  unfold locate at located ⊢
  split at located
  · cases located
  · rename_i noZero
    rw [if_neg noZero]
    split at located
    · cases located
    · rename_i short
      rw [if_neg short]
      split at located
      · cases located
      · rename_i inside
        rw [if_neg inside]
        exact (follow_gains gains linkLimit (start home path) (pathParts path)).1 found located

/-- The names in the folder at a path that lead to a place. -/
def foldersTo (t : Tree) (home : List Name) (path : Bytes) (place : List Name) : List Name :=
  match t.locate home path with
  | .error _ => []
  | .ok (links, root) => (t.namesAt root).filter (t.leadsTo links root path place)

theorem exists_listing_of_foldersTo {t : Tree} {home : List Name} {path : Bytes}
    (some_folder : t.foldersTo home path place ≠ []) :
    ∃ links root entries, t.locate home path = .ok (links, root) ∧
      t.at? root = some (.folder entries) ∧
      t.foldersTo home path place =
        (entries.map Prod.fst).filter (t.leadsTo links root path place) := by
  unfold foldersTo at some_folder ⊢
  cases located : t.locate home path with
  | error fault =>
    rw [located] at some_folder
    exact absurd rfl some_folder
  | ok found =>
    obtain ⟨links, root⟩ := found
    rw [located] at some_folder
    unfold namesAt at some_folder ⊢
    match here : t.at? root with
    | some (.folder entries) => exact ⟨links, root, entries, rfl, here, by simp only [here]⟩
    | none | some (.file _) | some (.link _) =>
      simp only [here] at some_folder
      exact absurd rfl some_folder

def branches (t : Tree) (links : Nat) (spot : List Name) (path : Bytes) (names : List Name) :
    Listing :=
  names.map fun n => (n, t.branch links spot path n)

theorem branches_append (t : Tree) (links : Nat) (spot : List Name) (path : Bytes)
    (front back : List Name) :
    t.branches links spot path (front ++ back) =
      t.branches links spot path front ++ t.branches links spot path back := List.map_append

theorem listing_of_located {t : Tree} {home : List Name} {path : Bytes} {links : Nat}
    {root : List Name} {entries : List (Name × Tree)}
    (located : t.locate home path = .ok (links, root))
    (here : t.at? root = some (.folder entries)) :
    t.listing home path = .ok (t.branches links root path (entries.map Prod.fst)) := by
  unfold listing branches
  rw [located, List.map_map]
  simp only [here]
  rfl

end Tree
end Phrasebook
