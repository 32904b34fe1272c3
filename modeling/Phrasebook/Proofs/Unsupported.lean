import Phrasebook.Proofs.Growth
import Phrasebook.Proofs.Survey

/-!
Files of a format that is not supported. A new file named `translations` with an extension that is
none of the three is passed over, with a warning at most, as long as its content is text; whatever
else a survey finds or fails for stays as it was. The content is decoded before the extension is
looked at, so one that is not text ends the survey.
-/
namespace Phrasebook

open Utf8 (Bytes)

namespace Survey

/-- The second survey comes to the same as the first, and logs the same in the same order, with some
of the warnings in between. -/
structure WarnsMore (warnings : List Event) (s s' : Survey) : Prop where
  result_eq : s'.result = s.result
  some_given : ∃ given, given.Sublist warnings ∧ s.events.Sublist s'.events ∧
    s'.events.Perm (s.events ++ given)

theorem perm_append_swap {A : Type} (a b c d : List A) :
    ((a ++ b) ++ (c ++ d)).Perm ((a ++ c) ++ (b ++ d)) := by
  rw [List.append_assoc, List.append_assoc, ← List.append_assoc b, ← List.append_assoc c]
  exact (List.perm_append_comm.append_right d).append_left a

namespace WarnsMore

theorem refl (s : Survey) : WarnsMore [] s s :=
  ⟨rfl, [], .slnil, .refl _, by rw [List.append_nil]⟩

theorem mono {few many : List Event} {s s' : Survey} (more : WarnsMore few s s')
    (sub : few.Sublist many) : WarnsMore many s s' := by
  obtain ⟨same, given, among, kept, perm⟩ := more
  exact ⟨same, given, among.trans sub, kept, perm⟩

theorem trans {one two : List Event} {s s' s'' : Survey} (first : WarnsMore one s s')
    (second : WarnsMore two s' s'') : WarnsMore (one ++ two) s s'' := by
  obtain ⟨same, given, among, kept, perm⟩ := first
  obtain ⟨same', given', among', kept', perm'⟩ := second
  refine ⟨same'.trans same, given ++ given', among.append among', kept.trans kept', ?_⟩
  rw [← List.append_assoc]
  exact perm'.trans (perm.append_right given')

theorem append {one two : List Event} {first first' second second' : Survey}
    (before : WarnsMore one first first') (after : WarnsMore two second second') :
    WarnsMore (one ++ two) (first.append second) (first'.append second') := by
  obtain ⟨same, given, among, kept, perm⟩ := before
  obtain ⟨same', given', among', kept', perm'⟩ := after
  -- The first surveys come to the same, so either both go on to the second ones or neither does.
  unfold Survey.append
  rw [same]
  cases first.result with
  | error fault =>
    exact ⟨same, given, among.trans (List.sublist_append_left one two), kept, perm⟩
  | ok found =>
    refine ⟨congrArg (Except.map (found ++ ·)) same', given ++ given', among.append among',
      kept.append kept', ?_⟩
    exact (perm.append perm').trans (perm_append_swap _ _ _ _)

theorem spare {s : Survey} (empty : s.result = .ok []) (front back : List Survey) :
    WarnsMore s.events (Survey.concat (front ++ back)) (Survey.concat (front ++ s :: back)) := by
  induction front with
  | nil =>
    show WarnsMore _ (Survey.concat back) (s.append (Survey.concat back))
    unfold Survey.append
    rw [empty]
    refine ⟨?_, s.events, .refl _, List.sublist_append_right _ _, List.perm_append_comm⟩
    cases (Survey.concat back).result <;> rfl
  | cons first rest ih => exact (refl first).append ih

end WarnsMore

theorem splitName_eq_none {name before : Name} (h : splitName name = (before, none)) :
    before = name := by
  unfold splitName at h
  dsimp only at h
  split at h
  · exact (Prod.mk.inj h).1.symm
  · cases (Prod.mk.inj h).2

theorem extension_of_split {extension : Name} {after : Option Name}
    (h : splitName (stem ++ dot :: extension) = (stem, after)) : after = some extension := by
  cases after with
  | none =>
    have whole := congrArg List.length (splitName_eq_none h)
    simp at whole
  | some other =>
    have whole := List.append_cancel_left (splitName_eq_some h)
    exact congrArg some (List.cons.inj whole).2.symm

theorem splitName_of_dot_not_mem {extension : Name} (undotted : dot ∉ extension) :
    splitName (stem ++ dot :: extension) = (stem, some extension) := by
  have stays : ∀ b ∈ extension.reverse, decide (b ≠ dot) = true := by
    intro b member
    rw [List.mem_reverse] at member
    exact decide_eq_true fun same => undotted (same ▸ member)
  have last : ((stem ++ dot :: extension).reverse.takeWhile (· ≠ dot)).reverse = extension := by
    rw [List.reverse_append, List.reverse_cons, List.append_assoc,
      List.takeWhile_append_of_pos stays]
    simp
  have front : (stem ++ dot :: extension).take
      ((stem ++ dot :: extension).length - extension.length - 1) = stem := by
    have length : (stem ++ dot :: extension).length - extension.length - 1 = stem.length := by
      rw [List.length_append, List.length_cons]
      omega
    rw [length, List.take_left]
  unfold splitName
  dsimp only
  rw [last, front, if_neg (by decide +kernel)]

theorem ofLeaf_not_text (read : Readers) (folder shownFolder : String) {extension : String}
    {content : Bytes}
    (undotted : dot ∉ Utf8.encode extension) (not_text : Utf8.decode? content = none) :
    (ofLeaf read folder shownFolder (stem ++ dot :: Utf8.encode extension, .file content)).result =
      .error (.notText (shown shownFolder (stem ++ dot :: Utf8.encode extension))) := by
  unfold ofLeaf
  simp only [splitName_of_dot_not_mem undotted, if_true, ofModule, Option.bind_some,
    Utf8.decode?_encode, not_text]
  rfl

section Unsupported

variable {extension : Name} {content : Bytes}
  (unsupported : ∀ e ∈ extensions, extension ≠ Utf8.encode e)
  (readable : (Utf8.decode? extension).isSome = true → (Utf8.decode? content).isSome = true)
include unsupported readable

theorem ofLeaf_unsupported (read : Readers) (folder shownFolder : String) (path : Bytes) :
    (ofLeaf read folder shownFolder
      (stem ++ dot :: extension, Tree.shownAt path content)).result = .ok [] ∧
    (ofLeaf read folder shownFolder
      (stem ++ dot :: extension, Tree.shownAt path content)).events.Sublist
        [.unsupportedFile (shown shownFolder (stem ++ dot :: extension))] := by
  unfold Tree.shownAt
  by_cases long : Tree.pathLimit < path.length
  · rw [if_pos long]
    exact ⟨rfl, List.nil_sublist _⟩
  rw [if_neg long]
  unfold ofLeaf
  cases split : splitName (stem ++ dot :: extension) with
  | mk before after =>
    dsimp only
    by_cases isStem : before = stem
    · subst isStem
      obtain rfl := extension_of_split split
      rw [if_pos rfl, ofModule, Option.bind_some]
      cases named : Utf8.decode? extension with
      | none => exact ⟨rfl, .refl _⟩
      | some text =>
        obtain ⟨written, isText⟩ := Option.isSome_iff_exists.1 (readable (named ▸ rfl))
        have unknown : Format.ofExtension? text = none :=
          Classical.byContradiction fun known => unsupported text
            ((mem_extensions_iff text).2 known) (Utf8.decode?_eq_some_iff.1 named)
        simp only [isText, unknown]
        exact ⟨rfl, .refl _⟩
    · rw [if_neg isStem]
      exact ⟨rfl, List.nil_sublist _⟩

theorem ofBranch_unsupported (read : Readers) (root : String) (folder : Name) (path : Bytes)
    (front back : List (Name × Leaf)) :
    WarnsMore [.unsupportedFile (shown (shown root folder) (stem ++ dot :: extension))]
      (ofBranch read root (folder, .folder (front ++ back)))
      (ofBranch read root (folder, .folder
        (front ++ (stem ++ dot :: extension, Tree.shownAt path content) :: back))) := by
  unfold ofBranch
  dsimp only
  cases Utf8.decode? folder with
  | none => exact (WarnsMore.refl _).mono (List.nil_sublist _)
  | some text =>
    obtain ⟨empty, given⟩ :=
      ofLeaf_unsupported unsupported readable read text (shown root folder) path
    dsimp only
    rw [List.map_append, List.map_append, List.map_cons]
    exact (WarnsMore.spare empty _ _).mono given

end Unsupported

theorem ofListing_warnsMore {read : Readers} {root : String} {listing listing' : Listing}
    {warnings : List Event}
    (more : WarnsMore warnings (concat (listing.map (ofBranch read root)))
      (concat (listing'.map (ofBranch read root)))) :
    WarnsMore warnings (ofListing read root listing) (ofListing read root listing') := by
  obtain ⟨same, given, among, kept, perm⟩ := more
  unfold ofListing
  dsimp only
  rw [same]
  cases (concat (listing.map (ofBranch read root))).result with
  | error fault => exact ⟨same, given, among, kept, perm⟩
  | ok found =>
    refine ⟨rfl, given, among, kept.append (.refl _), ?_⟩
    have swapped := perm_append_swap (concat (listing.map (ofBranch read root))).events given
      [.surveyed root found.length] []
    rw [List.append_nil, List.append_nil] at swapped
    exact (perm.append_right _).trans swapped

theorem stem_plain (extension : Name) :
    stem ++ dot :: extension ≠ [] ∧ stem ++ dot :: extension ≠ Tree.here ∧
      stem ++ dot :: extension ≠ Tree.above := by
  have long (short : Name) (most : short.length ≤ 2) : stem ++ dot :: extension ≠ short := by
    intro same
    have lengths := congrArg List.length same
    rw [List.length_append] at lengths
    have stem_length : stem.length = 12 := by decide +kernel
    omega
  exact ⟨long _ (by decide), long _ (by decide), long _ (by decide)⟩

section Names

variable {top top' : Tree} {place spot : List Name} {extension : Name} {content : Bytes}
  (gains : Tree.Gains (stem ++ dot :: extension) content place top top')
  (alone : top'.Alone place (stem ++ dot :: extension))
  (unsupported : ∀ e ∈ extensions, extension ≠ Utf8.encode e)
  (readable : (Utf8.decode? extension).isSome = true → (Utf8.decode? content).isSome = true)
include gains alone unsupported readable

theorem branches_warnsMore (read : Readers) (root : String) (links : Nat) (path : Bytes)
    (names : List Name)
    (others : ∀ n ∈ names, ¬(spot = place ∧ n = stem ++ dot :: extension)) :
    WarnsMore ((names.filter (top.leadsTo links spot path place)).map fun folder =>
        .unsupportedFile (shown (shown root folder) (stem ++ dot :: extension)))
      (concat ((top.branches links spot path names).map (ofBranch read root)))
      (concat ((top'.branches links spot path names).map (ofBranch read root))) := by
  induction names with
  | nil => exact .refl _
  | cons n rest ih =>
    have other := others n List.mem_cons_self
    have later := ih fun m member => others m (List.mem_cons_of_mem n member)
    by_cases leads : top.leadsTo links spot path place n = true
    · obtain ⟨front, back, seen, seen'⟩ :=
        Tree.branch_of_leadsTo gains alone (stem_plain extension) other leads
      have first := ofBranch_unsupported unsupported readable read root n
        (Tree.joined (Tree.joined path n) (stem ++ dot :: extension)) front back
      rw [← seen, ← seen'] at first
      rw [List.filter_cons_of_pos leads]
      exact first.append later
    · have first : WarnsMore [] (ofBranch read root (n, top.branch links spot path n))
          (ofBranch read root (n, top'.branch links spot path n)) := by
        rw [Tree.branch_of_not_leadsTo gains alone other leads]
        exact .refl _
      rw [List.filter_cons_of_neg leads]
      exact first.append later

/-- The new name is listed too in the folder that gets the file, but as no folder. -/
theorem folder_warnsMore (read : Readers) (root : String) (links : Nat) (path : Bytes)
    {entries entries' : List (Name × Tree)}
    (here : top.at? spot = some (.folder entries))
    (here' : top'.at? spot = some (.folder entries')) :
    WarnsMore (((entries.map Prod.fst).filter (top.leadsTo links spot path place)).map fun folder =>
        .unsupportedFile (shown (shown root folder) (stem ++ dot :: extension)))
      (concat ((top.branches links spot path (entries.map Prod.fst)).map (ofBranch read root)))
      (concat
        ((top'.branches links spot path (entries'.map Prod.fst)).map (ofBranch read root))) := by
  have others := fun n => Tree.not_new_of_mem gains here (n := n)
  by_cases at_place : spot = place
  · subst at_place
    obtain ⟨front, back, -, place_here, place_here'⟩ := Tree.at?_place gains
    obtain rfl := Tree.folder.inj (Option.some.inj (here.symm.trans place_here))
    obtain rfl := Tree.folder.inj (Option.some.inj (here'.symm.trans place_here'))
    have more := branches_warnsMore gains alone unsupported readable read root links path
      ((front ++ back).map Prod.fst) others
    have unseen : ofBranch read root (stem ++ dot :: extension,
        top'.branch links spot path (stem ++ dot :: extension)) = nothing := by
      rw [Tree.branch_new gains (stem_plain extension)]
      rfl
    have listed : (top'.branches links spot path
        ((front ++ (stem ++ dot :: extension, Tree.file content) :: back).map Prod.fst)).map
          (ofBranch read root) =
        (top'.branches links spot path (front.map Prod.fst)).map (ofBranch read root) ++
          nothing ::
            (top'.branches links spot path (back.map Prod.fst)).map (ofBranch read root) := by
      rw [List.map_append, List.map_cons, Tree.branches_append, List.map_append, ← unseen]
      rfl
    have none_more : WarnsMore [] _ _ := .spare (s := nothing) rfl
      ((top'.branches links spot path (front.map Prod.fst)).map (ofBranch read root))
      ((top'.branches links spot path (back.map Prod.fst)).map (ofBranch read root))
    rw [← listed, ← List.map_append, ← Tree.branches_append, ← List.map_append] at none_more
    have both := more.trans none_more
    rwa [List.append_nil] at both
  · have change := Tree.change_at? gains spot
    rw [here, here'] at change
    rw [change.names_eq at_place]
    exact branches_warnsMore gains alone unsupported readable read root links path _ others

end Names

theorem ofTree_ne_ok_of_not_text {top top' : Tree} {home place : List Name} {path : Bytes}
    {extension folder : String} {content : Bytes}
    (gains : Tree.Gains (stem ++ dot :: Utf8.encode extension) content place top top')
    (alone : top'.Alone place (stem ++ dot :: Utf8.encode extension))
    (undotted : dot ∉ Utf8.encode extension) (not_text : Utf8.decode? content = none)
    (reached : Utf8.encode folder ∈ top.foldersTo home path place)
    (short : (Tree.joined (Tree.joined path (Utf8.encode folder))
      (stem ++ dot :: Utf8.encode extension)).length ≤ Tree.pathLimit)
    (read : Readers) (root : String) (found : List (String × Source)) :
    (ofTree read top' home path root).result ≠ .ok found := by
  intro ok
  obtain ⟨links, spot, entries, located, here, folders⟩ :=
    Tree.exists_listing_of_foldersTo (List.ne_nil_of_mem reached)
  obtain ⟨entries', here'⟩ := Tree.exists_folder gains here
  rw [folders, List.mem_filter] at reached
  obtain ⟨member, leads⟩ := reached
  obtain ⟨front, back, -, seen⟩ := Tree.branch_of_leadsTo gains alone (stem_plain _)
    (Tree.not_new_of_mem gains here member) leads
  have listed : (Utf8.encode folder, top'.branch links spot path (Utf8.encode folder)) ∈
      top'.branches links spot path (entries'.map Prod.fst) :=
    List.mem_map_of_mem (Tree.names_subset gains here here' member)
  rw [ofTree, Tree.listing_of_located (Tree.locate_gains gains located) here'] at ok
  obtain ⟨each, -⟩ := ofListing_eq_ok ok
  have succeeds := each _ listed
  rw [seen, Tree.shownAt, if_neg (Nat.not_lt.2 short)] at succeeds
  obtain ⟨-, never⟩ | ⟨text, files, same, leaves, -⟩ := ofBranch_eq_ok succeeds
  · exact never folder _ rfl
  · obtain ⟨-, whole⟩ := Prod.mk.inj same
    cases whole
    have fails := leaves _ (List.mem_append_right _ List.mem_cons_self)
    rw [ofLeaf_not_text _ _ _ undotted not_text] at fails
    cases fails

/-- A new file named `translations` with an extension that is not supported, in a folder that the
survey looks into, does not change what is found or what goes wrong if its content is text or its
extension is not; there is at most one more warning for each name under which its folder is seen.
If the extension is text and the content is not, the survey fails. No link may have waited for the
file: one that did would bring a second new file under its own name. -/
theorem ofTree_gains_unsupported (read : Readers) (top top' : Tree) (home : List Name)
    (path : Bytes) (root : String) (place : List Name) (extension : Name) (content : Bytes)
    (some_folder : top.foldersTo home path place ≠ [])
    (gains : Tree.Gains (stem ++ dot :: extension) content place top top')
    (alone : top'.Alone place (stem ++ dot :: extension))
    (unsupported : ∀ e ∈ extensions, extension ≠ Utf8.encode e) :
    (((Utf8.decode? extension).isSome = true → (Utf8.decode? content).isSome = true) →
      (ofTree read top' home path root).result = (ofTree read top home path root).result ∧
      ∃ given : List Event,
        given.Sublist ((top.foldersTo home path place).map fun folder =>
          .unsupportedFile (shown (shown root folder) (stem ++ dot :: extension))) ∧
        (ofTree read top home path root).events.Sublist (ofTree read top' home path root).events ∧
        (ofTree read top' home path root).events.Perm
          ((ofTree read top home path root).events ++ given)) ∧
    ∀ text folder : String, extension = Utf8.encode text → dot ∉ extension →
      Utf8.decode? content = none → Utf8.encode folder ∈ top.foldersTo home path place →
      (Tree.joined (Tree.joined path (Utf8.encode folder))
        (stem ++ dot :: extension)).length ≤ Tree.pathLimit →
      ∀ found, (ofTree read top' home path root).result ≠ .ok found := by
  constructor
  · intro readable
    obtain ⟨links, spot, entries, located, here, folders⟩ :=
      Tree.exists_listing_of_foldersTo some_folder
    obtain ⟨entries', here'⟩ := Tree.exists_folder gains here
    have inside := folder_warnsMore gains alone unsupported readable read root links path here here'
    have more := ofListing_warnsMore inside
    rw [folders, ofTree, ofTree, Tree.listing_of_located located here,
      Tree.listing_of_located (Tree.locate_gains gains located) here']
    exact ⟨more.result_eq, more.some_given⟩
  · rintro text folder rfl undotted not_text reached short
    exact ofTree_ne_ok_of_not_text gains alone undotted not_text reached short read root

def besideEnglish (content : Bytes) : Tree :=
  .folder [(Utf8.encode "en", .folder [
    (Utf8.encode "translations.json", .file (Utf8.encode "\x7b\"a\":\"b\"\x7d")),
    (stem ++ dot :: Utf8.encode "bin", .file content)])]

theorem gains_besideEnglish (content : Bytes) :
    Tree.Gains (stem ++ dot :: Utf8.encode "bin") content [Utf8.encode "en"] inEnglish
      (besideEnglish content) := by
  refine @Tree.Gains.inside _ _ [] [] _ _ _ _ List.not_mem_nil ?_
  refine @Tree.Gains.here _ _ [(Utf8.encode "translations.json",
    .file (Utf8.encode "\x7b\"a\":\"b\"\x7d"))] [] ?_
  decide +kernel

theorem alone_besideEnglish (content : Bytes) :
    (besideEnglish content).Alone [Utf8.encode "en"] (stem ++ dot :: Utf8.encode "bin") := by
  refine Tree.alone_of_linkless (.folder ?_) (Tree.at?_new (gains_besideEnglish content))
  simp only [List.mem_singleton, forall_eq]
  refine .folder ?_
  simp only [List.mem_cons, List.not_mem_nil, or_false, forall_eq_or_imp, forall_eq]
  exact ⟨.file _, .file _⟩

theorem foldersTo_inEnglish :
    inEnglish.foldersTo [] (Utf8.encode ".") [Utf8.encode "en"] = [Utf8.encode "en"] := by
  decide +kernel

theorem bin_unsupported : ∀ e ∈ extensions, Utf8.encode "bin" ≠ Utf8.encode e := by
  decide +kernel

theorem ofTree_gains_unsupported_bin :
    inEnglish.foldersTo [] (Utf8.encode ".") [Utf8.encode "en"] ≠ [] ∧
    (∀ content, Tree.Gains (stem ++ dot :: Utf8.encode "bin") content [Utf8.encode "en"] inEnglish
        (besideEnglish content) ∧
      (besideEnglish content).Alone [Utf8.encode "en"] (stem ++ dot :: Utf8.encode "bin")) ∧
    (∀ e ∈ extensions, Utf8.encode "bin" ≠ Utf8.encode e) ∧
    (∃ found, (ofTree Format.read inEnglish [] (Utf8.encode ".") "").result = .ok found ∧
      (ofTree Format.read (besideEnglish (Utf8.encode "x")) [] (Utf8.encode ".") "").result =
        .ok found) ∧
    ∀ found,
      (ofTree Format.read (besideEnglish [255]) [] (Utf8.encode ".") "").result ≠ .ok found := by
  have some_folder : inEnglish.foldersTo [] (Utf8.encode ".") [Utf8.encode "en"] ≠ [] := by
    rw [foldersTo_inEnglish]
    nofun
  have gains := fun content => ofTree_gains_unsupported Format.read inEnglish
    (besideEnglish content) [] (Utf8.encode ".") "" [Utf8.encode "en"] (Utf8.encode "bin") content
    some_folder (gains_besideEnglish content) (alone_besideEnglish content) bin_unsupported
  refine ⟨some_folder, fun content => ⟨gains_besideEnglish content, alone_besideEnglish content⟩,
    bin_unsupported, ?_, ?_⟩
  · obtain ⟨found, ok⟩ := ofTree_inEnglish
    obtain ⟨same, -⟩ := (gains (Utf8.encode "x")).1 fun _ => by rw [Utf8.decode?_encode]; rfl
    exact ⟨found, ok, same.trans ok⟩
  · have reached : Utf8.encode "en" ∈
        inEnglish.foldersTo [] (Utf8.encode ".") [Utf8.encode "en"] := by
      rw [foldersTo_inEnglish]
      exact List.mem_singleton_self _
    exact (gains [255]).2 "bin" "en" rfl (by decide +kernel) (by decide +kernel) reached
      (by decide +kernel)

def failsWith {ε α : Type} [DecidableEq ε] (result : Except ε α) (fault : ε) : Bool :=
  match result with
  | .ok _ => false
  | .error other => other = fault

theorem eq_error_of_failsWith {ε α : Type} [DecidableEq ε] {result : Except ε α} {fault : ε}
    (fails : failsWith result fault = true) : result = .error fault := by
  cases result with
  | ok found => cases fails
  | error other => rw [of_decide_eq_true fails]

/-- A file of no known format, that holds one byte and no text, ends a survey that succeeds
without it. -/
theorem ofTree_not_text_bin :
    (∃ found, (ofTree Format.read inEnglish [] (Utf8.encode ".") "").result = .ok found) ∧
    Tree.Gains (stem ++ dot :: Utf8.encode "bin") [255] [Utf8.encode "en"] inEnglish
      (besideEnglish [255]) ∧
    (∀ e ∈ extensions, Utf8.encode "bin" ≠ Utf8.encode e) ∧
    (ofTree Format.read (besideEnglish [255]) [] (Utf8.encode ".") "").result =
      .error (.notText "en/translations.bin") :=
  ⟨ofTree_inEnglish, gains_besideEnglish [255], bin_unsupported,
    eq_error_of_failsWith (by decide +kernel)⟩

end Survey
end Phrasebook
