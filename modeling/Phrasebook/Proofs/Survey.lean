import Phrasebook.Proofs.Catalog
import Phrasebook.Proofs.Folder
import Phrasebook.Proofs.Utf8
import Phrasebook.Survey

/-!
What a survey finds: the files named `translations` with one of three extensions, in the folders
whose names are text, each once and in the order of their paths, and nothing else. The catalog made
of them has the locales that the folders are named for, each with the source whose extension comes
last.
-/
namespace Phrasebook

open Utf8 (Bytes)

namespace Survey

def extensions : List String := ["json", "yaml", "yml"]

def fileName (extension : String) : Name := Utf8.encode ("translations." ++ extension)

/-- The source that a file with an extension holds. -/
def parsed? (read : Readers) (extension : String) (content : Bytes) : Option Source :=
  match Utf8.decode? content, Format.ofExtension? extension with
  | some text, some format => (read format text).toOption
  | _, _ => none

def sources (s : Survey) : List (String × Source) :=
  match s.result with
  | .ok found => found
  | .error _ => []

variable {read : Readers}

theorem append_eq_ok {first second : Survey} {found : List (String × Source)}
    (ok : (first.append second).result = .ok found) :
    ∃ before after, first.result = .ok before ∧ second.result = .ok after ∧
      found = before ++ after := by
  unfold append at ok
  split at ok
  · rename_i fault failed
    rw [failed] at ok
    cases ok
  · rename_i before succeeded
    dsimp only at ok
    cases later : second.result with
    | error fault =>
      rw [later] at ok
      cases ok
    | ok after =>
      rw [later] at ok
      cases ok
      exact ⟨before, after, succeeded, rfl, rfl⟩

theorem concat_eq_ok {surveys : List Survey} {found : List (String × Source)}
    (ok : (concat surveys).result = .ok found) :
    (∀ s ∈ surveys, s.result = .ok s.sources) ∧ found = surveys.flatMap sources := by
  induction surveys generalizing found with
  | nil =>
    cases ok
    exact ⟨fun _ member => absurd member List.not_mem_nil, rfl⟩
  | cons first rest ih =>
    obtain ⟨before, after, here, there, rfl⟩ := append_eq_ok ok
    obtain ⟨each, rfl⟩ := ih there
    have same : first.sources = before := by rw [sources, here]
    refine ⟨fun s member => ?_, by rw [List.flatMap_cons, same]⟩
    rcases List.mem_cons.1 member with rfl | member
    · rw [same, here]
    · exact each s member

theorem splitName_eq_some {name before after : Name} (h : splitName name = (before, some after)) :
    name = before ++ dot :: after := by
  have whole : name = (name.reverse.dropWhile (· ≠ dot)).reverse ++
      (name.reverse.takeWhile (· ≠ dot)).reverse := by
    rw [← List.reverse_append, List.takeWhile_append_dropWhile, List.reverse_reverse]
  unfold splitName at h
  dsimp only at h
  generalize (name.reverse.takeWhile (· ≠ dot)).reverse = last at h whole
  -- Either there is no dot, and then nothing stands before it, or one stands between the parts.
  cases rest : name.reverse.dropWhile (· ≠ dot) with
  | nil =>
    rw [rest, List.reverse_nil, List.nil_append] at whole
    subst whole
    simp at h
  | cons mark more =>
    have isDot : mark = dot := by
      have stops := List.head?_dropWhile_not (· ≠ dot) name.reverse
      rw [rest] at stops
      simpa using stops
    rw [rest, List.reverse_cons, List.append_assoc, List.singleton_append, isDot] at whole
    have first : name.take (name.length - last.length - 1) = more.reverse := by
      rw [whole]
      have length :
          (more.reverse ++ dot :: last).length - last.length - 1 = more.reverse.length := by
        simp only [List.length_append, List.length_cons]
        omega
      rw [length, List.take_left]
    rw [first] at h
    split at h
    · cases Prod.mk.inj h |>.2
    · obtain ⟨rfl, same⟩ := Prod.mk.inj h
      cases same
      exact whole

theorem splitName_fileName : ∀ extension ∈ extensions,
    splitName (fileName extension) = (stem, some (Utf8.encode extension)) := by
  decide +kernel

theorem fileName_of_split {name after : Name} {extension : String}
    (h : splitName name = (stem, some after)) (isText : Utf8.decode? after = some extension) :
    name = fileName extension := by
  have front : Utf8.encode "translations." = stem ++ [dot] := by decide +kernel
  rw [splitName_eq_some h, Utf8.decode?_eq_some_iff.1 isText, fileName, Utf8.encode_append, front,
    List.append_assoc]
  rfl

theorem mem_extensions_iff (extension : String) :
    extension ∈ extensions ↔ Format.ofExtension? extension ≠ none := by
  unfold extensions Format.ofExtension?
  simp only [List.mem_cons, List.not_mem_nil, or_false]
  split
  · simp_all
  · split <;> simp_all

theorem ofModule_eq_ok {folder file : String} {after : Option Name} {content : Bytes}
    {found : List (String × Source)}
    (ok : (ofModule read folder file after content).result = .ok found) :
    (found = [] ∧ ∀ extension ∈ extensions, after ≠ some (Utf8.encode extension)) ∨
    ∃ extension ∈ extensions, ∃ source, after = some (Utf8.encode extension) ∧
      parsed? read extension content = some source ∧
      found = [(modulePath folder extension, source)] := by
  unfold ofModule at ok
  split at ok
  · rename_i noText
    cases ok
    refine .inl ⟨rfl, ?_⟩
    rintro extension - rfl
    simp [Utf8.decode?_encode] at noText
  · rename_i extension named
    obtain ⟨bytes, rfl, spelled⟩ := Option.bind_eq_some_iff.1 named
    obtain rfl := Utf8.decode?_eq_some_iff.1 spelled
    split at ok
    · cases ok
    · rename_i text isText
      split at ok
      · rename_i unknown
        cases ok
        refine .inl ⟨rfl, fun other known same => ?_⟩
        obtain rfl := Utf8.encode_inj.1 (Option.some.inj same)
        exact (mem_extensions_iff extension).1 known unknown
      · rename_i format known
        split at ok
        · cases ok
        · rename_i source isSource
          cases ok
          refine .inr ⟨extension, ?_, source, rfl, ?_, rfl⟩
          · rw [mem_extensions_iff, known]
            nofun
          · simp only [parsed?, isText, known, isSource]
            rfl

theorem ofLeaf_eq_ok {folder shownFolder : String} {entry : Name × Leaf}
    {found : List (String × Source)}
    (ok : (ofLeaf read folder shownFolder entry).result = .ok found) :
    found = [] ∨ ∃ extension ∈ extensions, ∃ content source,
      entry = (fileName extension, .file content) ∧ parsed? read extension content = some source ∧
      found = [(modulePath folder extension, source)] := by
  obtain ⟨name, leaf⟩ := entry
  unfold ofLeaf at ok
  cases leaf with
  | other => cases ok; exact .inl rfl
  | file content =>
    cases split : splitName name with
    | mk before after =>
      simp only [split] at ok
      by_cases isStem : before = stem
      · rw [if_pos isStem] at ok
        subst isStem
        obtain ⟨rfl, -⟩ | ⟨extension, known, source, rfl, parsed, rfl⟩ := ofModule_eq_ok ok
        · exact .inl rfl
        · rw [fileName_of_split split (Utf8.decode?_encode extension)]
          exact .inr ⟨extension, known, content, source, rfl, parsed, rfl⟩
      · rw [if_neg isStem] at ok
        cases ok
        exact .inl rfl

theorem ofLeaf_fileName {folder shownFolder extension : String} {content : Bytes}
    {found : List (String × Source)} (known : extension ∈ extensions)
    (ok : (ofLeaf read folder shownFolder (fileName extension, .file content)).result = .ok found) :
    ∃ source, parsed? read extension content = some source ∧
      found = [(modulePath folder extension, source)] := by
  unfold ofLeaf at ok
  simp only [splitName_fileName extension known, if_true] at ok
  obtain ⟨-, never⟩ | ⟨other, -, source, same, parsed, rfl⟩ := ofModule_eq_ok ok
  · exact absurd rfl (never extension known)
  · obtain rfl := Utf8.encode_inj.1 (Option.some.inj same)
    exact ⟨source, parsed, rfl⟩

theorem ofBranch_eq_ok {root : String} {entry : Name × Branch} {found : List (String × Source)}
    (ok : (ofBranch read root entry).result = .ok found) :
    (found = [] ∧ ∀ folder files, entry ≠ (Utf8.encode folder, .folder files)) ∨
    ∃ folder files, entry = (Utf8.encode folder, .folder files) ∧
      (∀ e ∈ files, (ofLeaf read folder (shown root entry.1) e).result =
        .ok (ofLeaf read folder (shown root entry.1) e).sources) ∧
      found = files.flatMap fun e => (ofLeaf read folder (shown root entry.1) e).sources := by
  obtain ⟨name, branch⟩ := entry
  unfold ofBranch at ok
  cases branch with
  | other => cases ok; exact .inl ⟨rfl, nofun⟩
  | folder files =>
    cases named : Utf8.decode? name with
    | none =>
      simp only [named] at ok
      cases ok
      refine .inl ⟨rfl, ?_⟩
      rintro folder _ same
      rw [(Prod.mk.inj same).1, Utf8.decode?_encode] at named
      cases named
    | some folder =>
      simp only [named] at ok
      obtain rfl := Utf8.decode?_eq_some_iff.1 named
      obtain ⟨each, rfl⟩ := concat_eq_ok ok
      refine .inr ⟨folder, files, rfl, fun e member => each _ (List.mem_map_of_mem member), ?_⟩
      rw [List.flatMap_map]

/-- Whether a listing shows a file that is read, in a folder with text as its name. -/
def Shows (listing : Listing) (folder extension : String) (content : Bytes) : Prop :=
  extension ∈ extensions ∧ ∃ files, (Utf8.encode folder, Branch.folder files) ∈ listing ∧
    (fileName extension, Leaf.file content) ∈ files

def gathered (read : Readers) (root : String) (listing : Listing) : List (String × Source) :=
  listing.flatMap fun e => (ofBranch read root e).sources

theorem ofListing_eq_ok {root : String} {listing : Listing} {found : List (String × Source)}
    (ok : (ofListing read root listing).result = .ok found) :
    (∀ e ∈ listing, (ofBranch read root e).result = .ok (ofBranch read root e).sources) ∧
      found = inOrder (gathered read root listing) := by
  unfold ofListing at ok
  dsimp only at ok
  split at ok
  · rename_i fault failed
    rw [failed] at ok
    cases ok
  · rename_i all succeeded
    cases ok
    obtain ⟨each, rfl⟩ := concat_eq_ok succeeded
    refine ⟨fun e member => each _ (List.mem_map_of_mem member), ?_⟩
    rw [gathered, List.flatMap_map]

theorem mem_sources {root : String} {entry : Name × Branch} {pair : String × Source}
    (ok : (ofBranch read root entry).result = .ok (ofBranch read root entry).sources)
    (member : pair ∈ (ofBranch read root entry).sources) :
    ∃ folder files extension content, entry = (Utf8.encode folder, .folder files) ∧
      extension ∈ extensions ∧ (fileName extension, Leaf.file content) ∈ files ∧
      pair.1 = modulePath folder extension ∧ parsed? read extension content = some pair.2 := by
  obtain ⟨nothing, -⟩ | ⟨folder, files, rfl, succeeds, sources⟩ := ofBranch_eq_ok ok
  · rw [nothing] at member
    cases member
  · rw [sources] at member
    obtain ⟨leaf, within, member⟩ := List.mem_flatMap.1 member
    obtain nothing | ⟨extension, known, content, source, rfl, parsed, one⟩ :=
      ofLeaf_eq_ok (succeeds leaf within)
    · rw [nothing] at member
      cases member
    · rw [one] at member
      obtain rfl := List.mem_singleton.1 member
      exact ⟨folder, files, extension, content, rfl, known, within, rfl, parsed⟩

section Gathered

variable {root : String} {listing : Listing}
  (each : ∀ e ∈ listing, (ofBranch read root e).result = .ok (ofBranch read root e).sources)
include each

theorem mem_gathered {pair : String × Source} (member : pair ∈ gathered read root listing) :
    ∃ folder extension content, Shows listing folder extension content ∧
      pair.1 = modulePath folder extension ∧ parsed? read extension content = some pair.2 := by
  obtain ⟨entry, inside, member⟩ := List.mem_flatMap.1 member
  obtain ⟨folder, files, extension, content, rfl, known, within, named, parsed⟩ :=
    mem_sources (each entry inside) member
  exact ⟨folder, extension, content, ⟨known, files, inside, within⟩, named, parsed⟩

theorem gathered_of_shows {folder extension : String} {content : Bytes}
    (shows : Shows listing folder extension content) :
    ∃ source, parsed? read extension content = some source ∧
      (modulePath folder extension, source) ∈ gathered read root listing := by
  obtain ⟨known, files, inside, within⟩ := shows
  obtain ⟨-, never⟩ | ⟨other, files', same, succeeds, sources⟩ := ofBranch_eq_ok (each _ inside)
  · exact absurd rfl (never folder files)
  · obtain ⟨named, rfl⟩ : folder = other ∧ files = files' := by
      obtain ⟨named, branch⟩ := Prod.mk.inj same
      cases branch
      exact ⟨Utf8.encode_inj.1 named, rfl⟩
    subst named
    obtain ⟨source, parsed, one⟩ := ofLeaf_fileName known (succeeds _ within)
    refine ⟨source, parsed, List.mem_flatMap.2 ⟨_, inside, ?_⟩⟩
    rw [sources]
    exact List.mem_flatMap.2 ⟨_, within, one ▸ List.mem_singleton_self _⟩

end Gathered

def Plain (folder : String) : Prop := folder ≠ "" ∧ '/' ∉ folder.toList

theorem plain_of_mem {listing : Listing} {folder : String} {branch : Branch}
    (proper : listing.Proper) (inside : (Utf8.encode folder, branch) ∈ listing) : Plain folder := by
  obtain ⟨filled, noSlash⟩ := proper.plain _ inside
  refine ⟨?_, fun member => noSlash ?_⟩
  · rintro rfl
    exact filled rfl
  · have slash : Utf8.encodeChar '/' = [Tree.slash] := by decide
    exact Utf8.encodeChar_subset_encode member (slash ▸ List.mem_singleton_self _)

theorem localeOf?_modulePath {folder : String} (plain : Plain folder) (extension : String) :
    Catalog.localeOf? (modulePath folder extension) = some ⟨folder⟩ := by
  obtain ⟨filled, noSlash⟩ := plain
  have chars : (modulePath folder extension).toList =
      ['.'] ++ '/' :: (folder.toList ++ '/' :: ("translations." ++ extension).toList) := by
    simp [modulePath]
  unfold Catalog.localeOf?
  rw [chars, Text.parts_append (by decide), Text.parts_append noSlash]
  simp [filled]

theorem modulePath_inj {folder other extension extension' : String} (plain : Plain folder)
    (plain' : Plain other) (h : modulePath folder extension = modulePath other extension') :
    folder = other ∧ extension = extension' := by
  have locale := congrArg Catalog.localeOf? h
  rw [localeOf?_modulePath plain, localeOf?_modulePath plain'] at locale
  obtain rfl : folder = other := by simpa using locale
  exact ⟨rfl, (String.append_right_inj _).1 h⟩

theorem modulePath_le (folder : String) {e f : String} (h : e ≤ f) :
    modulePath folder e ≤ modulePath folder f := by
  by_cases lt : e < f
  · have front : ∀ x, (modulePath folder x).toList =
        ("./" ++ folder ++ "/translations.").toList ++ x.toList := fun _ => String.toList_append
    refine String.not_lt.1 (String.lt_asymm ?_)
    rw [String.lt_iff, front, front]
    exact List.append_left_lt (String.lt_iff.1 lt)
  · obtain rfl := String.le_antisymm h (String.not_lt.1 lt)
    exact String.le_refl _

theorem distinct_ofBranch {root : String} {entry : Name × Branch}
    (ok : (ofBranch read root entry).result = .ok (ofBranch read root entry).sources)
    (distinct : ∀ files, entry.2 = .folder files → (files.map Prod.fst).Nodup) :
    (ofBranch read root entry).sources.Pairwise fun a b => a.1 ≠ b.1 := by
  obtain ⟨nothing, -⟩ | ⟨folder, files, rfl, succeeds, sources⟩ := ofBranch_eq_ok ok
  · rw [nothing]
    exact .nil
  · rw [sources, List.pairwise_flatMap]
    constructor
    · intro leaf within
      obtain nothing | ⟨_, _, _, _, _, _, one⟩ := ofLeaf_eq_ok (succeeds leaf within)
      · rw [nothing]
        exact .nil
      · rw [one]
        exact List.pairwise_singleton ..
    -- A path tells the extension, and the extension tells the name of the file.
    · refine (List.pairwise_map.1 (distinct files rfl)).imp_of_mem ?_
      intro a b inA inB differ x fromA y fromB same
      obtain nothing | ⟨e, -, _, _, rfl, -, one⟩ := ofLeaf_eq_ok (succeeds a inA)
      · rw [nothing] at fromA
        cases fromA
      · obtain nothing | ⟨f, -, _, _, rfl, -, other⟩ := ofLeaf_eq_ok (succeeds b inB)
        · rw [nothing] at fromB
          cases fromB
        · rw [one] at fromA
          rw [other] at fromB
          obtain rfl := List.mem_singleton.1 fromA
          obtain rfl := List.mem_singleton.1 fromB
          obtain rfl : e = f := (String.append_right_inj _).1 same
          exact differ rfl

theorem distinct_gathered {root : String} {listing : Listing} (proper : listing.Proper)
    (each : ∀ e ∈ listing, (ofBranch read root e).result = .ok (ofBranch read root e).sources) :
    (gathered read root listing).Pairwise fun a b => a.1 ≠ b.1 := by
  rw [gathered, List.pairwise_flatMap]
  constructor
  · rintro ⟨name, branch⟩ member
    refine distinct_ofBranch (each _ member) fun files same => proper.files name files ?_
    rw [← same]
    exact member
  · refine (List.pairwise_map.1 proper.distinct).imp_of_mem ?_
    intro a b inA inB differ x fromA y fromB same
    obtain ⟨folder, _, _, _, rfl, -, -, path, -⟩ := mem_sources (each a inA) fromA
    obtain ⟨other, _, _, _, rfl, -, -, path', -⟩ := mem_sources (each b inB) fromB
    rw [path, path'] at same
    obtain ⟨rfl, -⟩ := modulePath_inj (plain_of_mem proper inA) (plain_of_mem proper inB) same
    exact differ rfl

theorem mem_inOrder {found : List (String × Source)} {pair : String × Source} :
    pair ∈ inOrder found ↔ pair ∈ found :=
  (List.mergeSort_perm found _).mem_iff

theorem ascending_inOrder {found : List (String × Source)}
    (distinct : found.Pairwise fun a b => a.1 ≠ b.1) : Entries.Ascending (inOrder found) := by
  have sorted : (inOrder found).Pairwise fun a b => a.1 ≤ b.1 := by
    have merged : (inOrder found).Pairwise fun a b => decide (a.1 ≤ b.1) = true := by
      refine List.pairwise_mergeSort (fun a b c ab bc => ?_) (fun a b => ?_) found
      · simp only [decide_eq_true_eq] at ab bc ⊢
        exact String.le_trans ab bc
      · simpa using String.le_total a.1 b.1
    exact merged.imp fun h => by simpa using h
  -- The order is strict because no two paths are equal.
  have apart : (inOrder found).Pairwise fun a b => a.1 ≠ b.1 :=
    ((List.mergeSort_perm found _).pairwise_iff fun h => Ne.symm h).2 distinct
  refine (sorted.and apart).imp ?_
  rintro a b ⟨le, ne⟩
  by_cases lt : a.1 < b.1
  · exact lt
  · exact absurd (String.le_antisymm le (String.not_lt.1 lt)) ne

/-- A survey that succeeds finds each file that a listing shows, once, and nothing else. -/
theorem found_spec {root : String} {listing : Listing} {found : List (String × Source)}
    (proper : listing.Proper) (ok : (ofListing read root listing).result = .ok found) :
    Entries.Ascending found ∧
    (∀ pair ∈ found, ∃ folder extension content, Shows listing folder extension content ∧
      pair.1 = modulePath folder extension ∧ parsed? read extension content = some pair.2) ∧
    ∀ folder extension content, Shows listing folder extension content →
      ∃ source, parsed? read extension content = some source ∧
        (modulePath folder extension, source) ∈ found := by
  obtain ⟨each, rfl⟩ := ofListing_eq_ok ok
  refine ⟨ascending_inOrder (distinct_gathered proper each), fun pair member => ?_, ?_⟩
  · exact mem_gathered each (mem_inOrder.1 member)
  · intro folder extension content shows
    obtain ⟨source, parsed, member⟩ := gathered_of_shows each shows
    exact ⟨source, parsed, mem_inOrder.2 member⟩

theorem shows_iff {listing : Listing} (proper : listing.Proper) (folder extension : String)
    (content : Bytes) :
    Shows listing folder extension content ↔ extension ∈ extensions ∧
      listing.content? (Utf8.encode folder) (fileName extension) = some content := by
  refine and_congr_right fun _ => ?_
  unfold Listing.content?
  constructor
  · rintro ⟨files, inside, within⟩
    simp only [lookup_of_mem proper.distinct inside,
      lookup_of_mem (proper.files _ _ inside) within]
  · intro there
    split at there
    · rename_i files inside
      split at there
      · rename_i within
        cases there
        exact ⟨files, mem_of_lookup inside, mem_of_lookup within⟩
      · cases there
    · cases there

def preference : List String := ["yml", "yaml", "json"]

/-- The source of the file whose extension is preferred, of those that there are. -/
def winner? (read : Readers) (content? : String → Option Bytes) : Option Source :=
  (preference.findSome? fun extension => (content? extension).map (extension, ·)).bind
    fun file => parsed? read file.1 file.2

theorem forall_mem_extensions {p : String → Prop} :
    (∀ e ∈ extensions, p e) ↔ p "json" ∧ p "yaml" ∧ p "yml" := by
  simp [extensions]

theorem winner?_cases (content? : String → Option Bytes) :
    (∃ extension ∈ extensions, ∃ content, content? extension = some content ∧
      (∀ e ∈ extensions, (content? e).isSome = true → e ≤ extension) ∧
      winner? read content? = parsed? read extension content) ∨
    (∀ extension ∈ extensions, content? extension = none) ∧ winner? read content? = none := by
  have le_yml : ∀ e ∈ extensions, e ≤ "yml" := by decide
  unfold winner? preference
  cases yml : content? "yml" with
  | some content =>
    exact .inl ⟨"yml", by decide, content, yml, fun e known _ => le_yml e known, by simp [yml]⟩
  | none =>
    cases yaml : content? "yaml" with
    | some content =>
      refine .inl ⟨"yaml", by decide, content, yaml, ?_, by simp [yml, yaml]⟩
      exact forall_mem_extensions.2
        ⟨fun _ => by decide, fun _ => by decide, fun there => by simp [yml] at there⟩
    | none =>
      cases json : content? "json" with
      | some content =>
        refine .inl ⟨"json", by decide, content, json, ?_, by simp [yml, yaml, json]⟩
        exact forall_mem_extensions.2 ⟨fun _ => by decide, fun there => by simp [yaml] at there,
          fun there => by simp [yml] at there⟩
      | none =>
        exact .inr ⟨forall_mem_extensions.2 ⟨json, yaml, yml⟩, by simp [yml, yaml, json]⟩

theorem winner?_isSome {content? : String → Option Bytes}
    (parses : ∀ extension ∈ extensions, ∀ content, content? extension = some content →
      (parsed? read extension content).isSome = true) :
    (winner? read content?).isSome = true ↔
      ∃ extension ∈ extensions, (content? extension).isSome = true := by
  obtain ⟨extension, known, content, there, -, wins⟩ | ⟨nothing, none⟩ := winner?_cases content?
  · rw [wins]
    exact ⟨fun _ => ⟨extension, known, there ▸ rfl⟩,
      fun _ => parses extension known content there⟩
  · rw [none]
    refine ⟨nofun, ?_⟩
    rintro ⟨extension, known, there⟩
    rw [nothing extension known] at there
    cases there

section Found

variable {root : String} {listing : Listing} {found : List (String × Source)}
  (proper : listing.Proper) (ok : (ofListing read root listing).result = .ok found)
include proper ok

theorem localeOf?_found {pair : String × Source} (member : pair ∈ found) :
    ∃ folder extension content, Shows listing folder extension content ∧
      pair.1 = modulePath folder extension ∧ Catalog.localeOf? pair.1 = some ⟨folder⟩ := by
  obtain ⟨folder, extension, content, shows, path, -⟩ := (found_spec proper ok).2.1 pair member
  obtain ⟨known, files, inside, within⟩ := shows
  refine ⟨folder, extension, content, ⟨known, files, inside, within⟩, path, ?_⟩
  rw [path]
  exact localeOf?_modulePath (plain_of_mem proper inside) extension

theorem get?_of_greatest {folder extension : String} {content : Bytes}
    (shows : Shows listing folder extension content)
    (greatest : ∀ e c, Shows listing folder e c → e ≤ extension) :
    (Catalog.ofFound found).get? ⟨folder⟩ = parsed? read extension content := by
  obtain ⟨ascending, -, complete⟩ := found_spec proper ok
  obtain ⟨source, parsed, member⟩ := complete folder extension content shows
  obtain ⟨-, files, inside, -⟩ := shows
  rw [parsed]
  refine Catalog.get?_ofFound_of_greatest ascending member
    (localeOf?_modulePath (plain_of_mem proper inside) extension) fun other within named => ?_
  obtain ⟨folder', e, c, shows', path, locale⟩ := localeOf?_found proper ok within
  rw [named] at locale
  obtain rfl : folder = folder' := by simpa using locale
  rw [path]
  exact modulePath_le folder (greatest e c shows')

theorem get?_of_none {folder : String}
    (nothing : ∀ e c, ¬Shows listing folder e c) :
    (Catalog.ofFound found).get? ⟨folder⟩ = none := by
  have others : found.filter (Catalog.names ⟨folder⟩) = [] := by
    refine List.filter_eq_nil_iff.2 fun pair member named => ?_
    obtain ⟨folder', e, c, shows, -, locale⟩ := localeOf?_found proper ok member
    rw [Catalog.names, decide_eq_true_eq, locale] at named
    obtain rfl : folder' = folder := by simpa using named
    exact nothing e c shows
  rw [Catalog.get?_ofFound, others]
  rfl

theorem get?_eq_winner? (folder : String) :
    (Catalog.ofFound found).get? ⟨folder⟩ =
      winner? read fun extension => listing.content? (Utf8.encode folder) (fileName extension) := by
  have shows := shows_iff proper folder
  obtain ⟨extension, known, content, there, last, wins⟩ | ⟨nothing, none⟩ :=
    winner?_cases fun extension => listing.content? (Utf8.encode folder) (fileName extension)
  · rw [wins]
    refine get?_of_greatest proper ok ((shows extension content).2 ⟨known, there⟩) ?_
    intro e c shown
    obtain ⟨known, there⟩ := (shows e c).1 shown
    exact last e known (there ▸ rfl)
  · rw [none]
    refine get?_of_none proper ok fun e c shown => ?_
    obtain ⟨known, there⟩ := (shows e c).1 shown
    have gone := nothing e known
    rw [there] at gone
    cases gone

end Found

/-- The content of the file with an extension that a tree has in a folder below a path. -/
def moduleFile? (top : Tree) (home : List Name) (path : Bytes) (folder extension : String) :
    Option Bytes :=
  top.content? home path (Utf8.encode folder) (fileName extension)

theorem ofTree_eq_ok {top : Tree} {home : List Name} {path : Bytes} {root : String}
    {found : List (String × Source)} (ok : (ofTree read top home path root).result = .ok found) :
    ∃ listing, top.listing home path = .ok listing ∧
      (ofListing read root listing).result = .ok found := by
  unfold ofTree ofSeen at ok
  split at ok
  · cases ok
  · rename_i listing seen
    exact ⟨listing, seen, ok⟩

theorem shows_iff_moduleFile? {top : Tree} {home : List Name} {path : Bytes} {listing : Listing}
    (proper : top.Proper) (seen : top.listing home path = .ok listing)
    (folder extension : String) (content : Bytes) :
    Shows listing folder extension content ↔
      extension ∈ extensions ∧ moduleFile? top home path folder extension = some content := by
  rw [shows_iff (Tree.proper_listing proper seen), moduleFile?, Tree.content?_eq_listing seen]

section Surveyed

variable {top : Tree} {home : List Name} {path : Bytes} {root : String}
  {found : List (String × Source)}
  (proper : top.Proper) (ok : (ofTree read top home path root).result = .ok found)
include proper ok

theorem parsed?_isSome_of_ofTree {folder extension : String} {content : Bytes}
    (known : extension ∈ extensions)
    (there : moduleFile? top home path folder extension = some content) :
    (parsed? read extension content).isSome = true := by
  obtain ⟨listing, seen, ok⟩ := ofTree_eq_ok ok
  obtain ⟨-, -, complete⟩ := found_spec (Tree.proper_listing proper seen) ok
  obtain ⟨source, parsed, -⟩ := complete folder extension content
    ((shows_iff_moduleFile? proper seen folder extension content).2 ⟨known, there⟩)
  rw [parsed]
  rfl

theorem get?_of_ofTree (locale : Locale) :
    (Catalog.ofFound found).get? locale = winner? read (moduleFile? top home path locale.code) := by
  obtain ⟨listing, seen, ok⟩ := ofTree_eq_ok ok
  refine (get?_eq_winner? (Tree.proper_listing proper seen) ok locale.code).trans ?_
  exact congrArg (winner? read) (funext fun e => (Tree.content?_eq_listing seen _ _).symm)

theorem get?_isSome_of_ofTree (locale : Locale) :
    ((Catalog.ofFound found).get? locale).isSome = true ↔
      ∃ extension ∈ extensions,
        (moduleFile? top home path locale.code extension).isSome = true := by
  rw [get?_of_ofTree proper ok]
  exact winner?_isSome fun _ known _ there => parsed?_isSome_of_ofTree proper ok known there

end Surveyed

/-- What a survey of a tree finds if it succeeds, and the catalog of it. -/
theorem ofTree_exact (read : Readers) (top : Tree) (proper : top.Proper) (home : List Name)
    (path : Bytes) (root : String) (found : List (String × Source))
    (ok : (ofTree read top home path root).result = .ok found) :
    Entries.Ascending found ∧
    (∀ p source, (p, source) ∈ found ↔ ∃ folder extension content, extension ∈ extensions ∧
      moduleFile? top home path folder extension = some content ∧
      parsed? read extension content = some source ∧ p = modulePath folder extension) ∧
    (∀ folder extension content, extension ∈ extensions →
      moduleFile? top home path folder extension = some content →
      (parsed? read extension content).isSome = true ∧ ∀ folder' extension' content',
        extension' ∈ extensions → moduleFile? top home path folder' extension' = some content' →
        modulePath folder extension = modulePath folder' extension' →
        folder = folder' ∧ extension = extension') ∧
    (∀ pair ∈ found, Catalog.localeOf? pair.1 ≠ none) ∧
    (∀ p, .noLocale p ∉ Catalog.warnings found) ∧
    (∀ locale, locale ∈ (Catalog.ofFound found).locales ↔
      ∃ extension ∈ extensions, (moduleFile? top home path locale.code extension).isSome = true) ∧
    ∀ locale, (Catalog.ofFound found).get? locale =
      winner? read (moduleFile? top home path locale.code) := by
  obtain ⟨listing, seen, listed⟩ := ofTree_eq_ok ok
  have properListing := Tree.proper_listing proper seen
  have shows := shows_iff_moduleFile? proper seen
  obtain ⟨ascending, sound, complete⟩ := found_spec properListing listed
  have plain : ∀ folder extension content, extension ∈ extensions →
      moduleFile? top home path folder extension = some content → Plain folder := by
    intro folder extension content known there
    obtain ⟨-, files, inside, -⟩ := (shows folder extension content).2 ⟨known, there⟩
    exact plain_of_mem properListing inside
  have named : ∀ pair ∈ found, Catalog.localeOf? pair.1 ≠ none := by
    intro pair member
    obtain ⟨_, _, _, _, _, locale⟩ := localeOf?_found properListing listed member
    rw [locale]
    nofun
  refine ⟨ascending, fun p source => ⟨fun member => ?_, ?_⟩,
    fun folder extension content known there =>
    ⟨parsed?_isSome_of_ofTree proper ok known there, ?_⟩, named, fun p warned => ?_,
    fun locale => ?_, get?_of_ofTree proper ok⟩
  · obtain ⟨folder, extension, content, shown, rfl, parsed⟩ := sound _ member
    obtain ⟨known, there⟩ := (shows folder extension content).1 shown
    exact ⟨folder, extension, content, known, there, parsed, rfl⟩
  · rintro ⟨folder, extension, content, known, there, parsed, rfl⟩
    obtain ⟨source', parsed', member⟩ :=
      complete folder extension content ((shows _ _ _).2 ⟨known, there⟩)
    rw [parsed] at parsed'
    cases parsed'
    exact member
  · intro folder' extension' content' known' there' same
    exact modulePath_inj (plain _ _ _ known there) (plain _ _ _ known' there') same
  · obtain ⟨pair, member, -, unnamed⟩ | ⟨_, _, _, other⟩ := Catalog.mem_warnings warned
    · exact named pair member unnamed
    · cases other
  · rw [Catalog.mem_locales_iff]
    exact get?_isSome_of_ofTree proper ok locale

def phrases : Tree :=
  .folder [
    (Utf8.encode "en", .folder [
      (Utf8.encode "translations.json", .file (Utf8.encode "\x7b\"a\":\"b\"\x7d"))]),
    (Utf8.encode "fr", .folder [
      (Utf8.encode "translations.json", .file (Utf8.encode "\x7b\"a\":\"c\"\x7d")),
      (Utf8.encode "translations.yaml", .file (Utf8.encode "a: d")),
      (Utf8.encode "translations.yml", .file (Utf8.encode "a: e"))]),
    (Utf8.encode "de", .folder [])]

theorem proper_phrases : phrases.Proper := by
  refine .folder (by decide +kernel) (by decide +kernel) ?_
  simp only [List.mem_cons, List.not_mem_nil, or_false, forall_eq_or_imp, forall_eq]
  refine ⟨.folder (by decide +kernel) (by decide +kernel) ?_,
    .folder (by decide +kernel) (by decide +kernel) ?_,
    .folder .nil (List.forall_mem_nil _) (List.forall_mem_nil _)⟩
  · simp only [List.mem_singleton, forall_eq]
    exact .file _
  · simp only [List.mem_cons, List.not_mem_nil, or_false, forall_eq_or_imp, forall_eq]
    exact ⟨.file _, .file _, .file _⟩

theorem exists_of_isOk {ε α : Type} {result : Except ε α} (ok : result.isOk = true) :
    ∃ found, result = .ok found := by
  cases result with
  | ok found => exact ⟨found, rfl⟩
  | error fault => cases ok

theorem ofTree_phrases :
    ∃ found, (ofTree Format.read phrases [] (Utf8.encode ".") "").result = .ok found := by
  apply exists_of_isOk
  decide +kernel

theorem ofTree_exact_phrases :
    phrases.Proper ∧ ∃ found,
      (ofTree Format.read phrases [] (Utf8.encode ".") "").result = .ok found ∧
      ⟨"en"⟩ ∈ (Catalog.ofFound found).locales ∧ ⟨"de"⟩ ∉ (Catalog.ofFound found).locales ∧
      ((Catalog.ofFound found).get? ⟨"fr"⟩).map Source.text = some "\x7b\"a\":\"e\"\x7d" := by
  obtain ⟨found, ok⟩ := ofTree_phrases
  obtain ⟨-, -, -, -, -, locales, sources⟩ := ofTree_exact _ _ proper_phrases _ _ _ found ok
  refine ⟨proper_phrases, found, ok, (locales _).2 ⟨"json", by decide, by decide +kernel⟩,
    fun member => ?_, ?_⟩
  · obtain ⟨extension, known, there⟩ := (locales _).1 member
    have none : ∀ e ∈ extensions,
        (moduleFile? phrases [] (Utf8.encode ".") "de" e).isSome = false := by
      decide +kernel
    rw [none extension known] at there
    cases there
  · have preferred : moduleFile? phrases [] (Utf8.encode ".") "fr" "yml" =
        some (Utf8.encode "a: e") := by decide +kernel
    have wins : winner? Format.read (moduleFile? phrases [] (Utf8.encode ".") "fr") =
        parsed? Format.read "yml" (Utf8.encode "a: e") := by
      simp [winner?, preference, preferred]
    rw [sources, wins]
    decide +kernel

def inEnglish : Tree :=
  .folder [(Utf8.encode "en", .folder [
    (Utf8.encode "translations.json", .file (Utf8.encode "\x7b\"a\":\"b\"\x7d"))])]

theorem ofTree_inEnglish :
    ∃ found, (ofTree Format.read inEnglish [] (Utf8.encode ".") "").result = .ok found :=
  exists_of_isOk (by decide +kernel)

end Survey
end Phrasebook
