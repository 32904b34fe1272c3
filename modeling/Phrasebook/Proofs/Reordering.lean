import Mathlib.Data.List.Forall2
import Phrasebook.Proofs.Survey

/-!
Listings in other orders. Whatever order a folder gives its entries in, a survey finds the same
sources in the same order, or fails: no two sources have one path, so there is one way only to put
them in the order of their paths.
-/
namespace Phrasebook

open Utf8 (Bytes)

inductive Branch.Reordered : Branch → Branch → Prop where
  | folder {files files' : List (Name × Leaf)} (perm : files.Perm files') :
      Reordered (.folder files) (.folder files')
  | other : Reordered .other .other

/-- The same names in another order, each standing for the same thing, maybe in another order. -/
def Listing.Reordered (listing listing' : Listing) : Prop :=
  ∃ between : Listing, listing.Perm between ∧
    List.Forall₂ (fun e e' => e.1 = e'.1 ∧ e.2.Reordered e'.2) between listing'

/-- What may be seen from a path: its folder and the folders in it are listed in any order. -/
def Tree.MayShow (top : Tree) (home : List Name) (path : Bytes)
    (seen : Except ReadFault Listing) : Prop :=
  match top.listing home path with
  | .error fault => seen = .error fault
  | .ok listing => ∃ listing', seen = .ok listing' ∧ listing.Reordered listing'

theorem Branch.Reordered.refl (branch : Branch) : branch.Reordered branch := by
  cases branch with
  | folder files => exact .folder (.refl _)
  | other => exact .other

theorem Listing.Reordered.refl (listing : Listing) : listing.Reordered listing :=
  ⟨listing, .refl _, List.forall₂_same.2 fun e _ => ⟨rfl, .refl e.2⟩⟩

theorem Tree.mayShow_listing (top : Tree) (home : List Name) (path : Bytes) :
    top.MayShow home path (top.listing home path) := by
  unfold Tree.MayShow
  cases top.listing home path with
  | error fault => rfl
  | ok listing => exact ⟨listing, rfl, .refl listing⟩

namespace Survey

/-- Both fail, or the sources that they find are as `same` says and they log the same events in some
order. -/
inductive Matches (same : List (String × Source) → List (String × Source) → Prop) :
    Survey → Survey → Prop where
  | failed {events events' : List Event} {fault fault' : SurveyFault} :
      Matches same ⟨events, .error fault⟩ ⟨events', .error fault'⟩
  | found {events events' : List Event} {sources sources' : List (String × Source)}
      (logged : events.Perm events') (alike : same sources sources') :
      Matches same ⟨events, .ok sources⟩ ⟨events', .ok sources'⟩

namespace Matches

theorem equivalence {same : List (String × Source) → List (String × Source) → Prop}
    (laws : Equivalence same) : Equivalence (Matches same) where
  refl s := by
    obtain ⟨events, error | sources⟩ := s
    · exact .failed
    · exact .found (.refl _) (laws.refl sources)
  symm first := by
    cases first with
    | failed => exact .failed
    | found logged alike => exact .found logged.symm (laws.symm alike)
  trans first second := by
    cases first with
    | failed =>
      cases second
      exact .failed
    | found logged alike =>
      cases second with
      | found logged' alike' => exact .found (logged.trans logged') (laws.trans alike alike')

theorem anyOrder : Equivalence (Matches List.Perm) := equivalence (List.Perm.eqv _)

theorem append {s s' t t' : Survey} (first : Matches List.Perm s s')
    (second : Matches List.Perm t t') :
    Matches List.Perm (s.append t) (s'.append t') := by
  cases first with
  | failed => exact .failed
  | found logged alike =>
    cases second with
    | failed => exact .failed
    | found logged' alike' => exact .found (logged.append logged') (alike.append alike')

theorem swap (s t rest : Survey) :
    Matches List.Perm (s.append (t.append rest)) (t.append (s.append rest)) := by
  obtain ⟨events, error | sources⟩ := s
  · obtain ⟨events', error' | sources'⟩ := t
    · exact .failed
    · exact .failed
  · obtain ⟨events', error' | sources'⟩ := t
    · exact .failed
    · obtain ⟨events'', error'' | sources''⟩ := rest
      · exact .failed
      · exact .found (List.perm_append_comm_assoc ..) (List.perm_append_comm_assoc ..)

theorem concat_of_perm {surveys surveys' : List Survey} (perm : surveys.Perm surveys') :
    Matches List.Perm (Survey.concat surveys) (Survey.concat surveys') := by
  induction perm with
  | nil => exact anyOrder.refl _
  | cons s _ ih => exact (anyOrder.refl s).append ih
  | swap s t rest => exact swap t s (Survey.concat rest)
  | trans _ _ ih ih' => exact anyOrder.trans ih ih'

theorem concat_of_each {surveys surveys' : List Survey}
    (each : List.Forall₂ (Matches List.Perm) surveys surveys') :
    Matches List.Perm (Survey.concat surveys) (Survey.concat surveys') := by
  induction each with
  | nil => exact anyOrder.refl _
  | cons first _ ih => exact first.append ih

end Matches

theorem matches_ofBranch (read : Readers) (root : String) (name : Name) {branch branch' : Branch}
    (reordered : branch.Reordered branch') :
    Matches List.Perm (ofBranch read root (name, branch)) (ofBranch read root (name, branch')) := by
  cases reordered with
  | other => exact Matches.anyOrder.refl _
  | folder perm =>
    unfold ofBranch
    dsimp only
    cases Utf8.decode? name with
    | none => exact Matches.anyOrder.refl _
    | some folder => exact .concat_of_perm (perm.map _)

theorem matches_branches (read : Readers) (root : String) {listing listing' : Listing}
    (reordered : listing.Reordered listing') :
    Matches List.Perm (concat (listing.map (ofBranch read root)))
      (concat (listing'.map (ofBranch read root))) := by
  obtain ⟨between, perm, each⟩ := reordered
  have moved := Matches.concat_of_perm (perm.map (ofBranch read root))
  refine Matches.anyOrder.trans moved (Matches.concat_of_each ?_)
  rw [List.forall₂_map_left_iff, List.forall₂_map_right_iff]
  refine each.imp ?_
  rintro ⟨name, branch⟩ ⟨_, branch'⟩ ⟨rfl, reordered⟩
  exact matches_ofBranch read root name reordered

theorem inOrder_eq_of_perm {sources sources' : List (String × Source)}
    (distinct : sources.Pairwise fun a b => a.1 ≠ b.1) (perm : sources.Perm sources') :
    inOrder sources = inOrder sources' := by
  have distinct' : sources'.Pairwise fun a b => a.1 ≠ b.1 :=
    (perm.pairwise_iff fun differ => Ne.symm differ).1 distinct
  have sorted : (inOrder sources).Perm (inOrder sources') :=
    ((List.mergeSort_perm _ _).trans perm).trans (List.mergeSort_perm _ _).symm
  refine sorted.eq_of_pairwise ?_ (ascending_inOrder distinct) (ascending_inOrder distinct')
  intro a b _ _ less greater
  exact absurd greater (String.lt_asymm less)

theorem matches_ofListing (read : Readers) (root : String) {listing listing' : Listing}
    (proper : listing.Proper) (reordered : listing.Reordered listing') :
    Matches Eq (ofListing read root listing) (ofListing read root listing') := by
  have same := matches_branches read root reordered
  have distinct : ∀ sources, (concat (listing.map (ofBranch read root))).result = .ok sources →
      sources.Pairwise fun a b => a.1 ≠ b.1 := by
    intro sources ok
    obtain ⟨each, rfl⟩ := concat_eq_ok ok
    rw [List.flatMap_map]
    exact distinct_gathered proper fun e member => each _ (List.mem_map_of_mem member)
  unfold ofListing
  dsimp only
  generalize concat (listing.map (ofBranch read root)) = all at same distinct
  generalize concat (listing'.map (ofBranch read root)) = all' at same
  cases same with
  | failed => exact .failed
  | found logged same =>
    dsimp only
    rw [inOrder_eq_of_perm (distinct _ rfl) same, same.length_eq]
    exact .found (logged.append_right _) rfl

theorem isOk_ofListing (read : Readers) (root : String) (listing : Listing) :
    (ofListing read root listing).result.isOk =
      (concat (listing.map (ofBranch read root))).result.isOk := by
  unfold ofListing
  dsimp only
  split
  · rfl
  · rename_i found succeeded
    rw [succeeded]
    rfl

theorem matches_ofSeen (read : Readers) {top : Tree} (proper : top.Proper) {home : List Name}
    {path : Bytes} (root : String) {seen : Except ReadFault Listing}
    (shown : top.MayShow home path seen) :
    Matches Eq (ofTree read top home path root) (ofSeen read root seen) := by
  unfold ofTree
  unfold Tree.MayShow at shown
  cases listed : top.listing home path with
  | error fault =>
    rw [listed] at shown
    subst shown
    exact .failed
  | ok listing =>
    rw [listed] at shown
    obtain ⟨listing', rfl, reordered⟩ := shown
    exact matches_ofListing read root (Tree.proper_listing proper listed) reordered

/-- Two surveys of one tree whose folders are listed in any two orders, the one that the tree holds
among them: both fail, or both find the same list and log the same events in some order. The
catalogs of what they find are the same, and so are the warnings given while they are made, one by
one. -/
theorem ofSeen_reordered (read : Readers) (top : Tree) (proper : top.Proper) (home : List Name)
    (path : Bytes) (root : String) (seen seen' : Except ReadFault Listing)
    (shown : top.MayShow home path seen) (shown' : top.MayShow home path seen') :
    (ofTree read top home path root = ofSeen read root (top.listing home path) ∧
      top.MayShow home path (top.listing home path)) ∧
    ((∃ fault fault', (ofSeen read root seen).result = .error fault ∧
        (ofSeen read root seen').result = .error fault') ∨
      ∃ found, (ofSeen read root seen).result = .ok found ∧
        (ofSeen read root seen').result = .ok found ∧
        (ofSeen read root seen).events.Perm (ofSeen read root seen').events) ∧
    ∀ found found', (ofSeen read root seen).result = .ok found →
      (ofSeen read root seen').result = .ok found' →
      Catalog.ofFound found = Catalog.ofFound found' ∧
        Catalog.warnings found = Catalog.warnings found' := by
  have agree : Matches Eq (ofSeen read root seen) (ofSeen read root seen') :=
    (Matches.equivalence eq_equivalence).trans
      ((Matches.equivalence eq_equivalence).symm (matches_ofSeen read proper root shown))
      (matches_ofSeen read proper root shown')
  refine ⟨⟨rfl, top.mayShow_listing home path⟩, ?_⟩
  generalize ofSeen read root seen = survey at agree ⊢
  generalize ofSeen read root seen' = survey' at agree ⊢
  cases agree with
  | failed => exact ⟨.inl ⟨_, _, rfl, rfl⟩, nofun⟩
  | found logged same =>
    subst same
    refine ⟨.inr ⟨_, rfl, rfl, logged⟩, ?_⟩
    rintro _ _ ⟨⟩ ⟨⟩
    exact ⟨rfl, rfl⟩

def shelf : Tree :=
  .folder [
    (Utf8.encode "en", .folder [
      (Utf8.encode "translations.json", .file (Utf8.encode "\x7b\"a\":\"b\"\x7d")),
      (Utf8.encode "translations.yml", .file [])]),
    (Utf8.encode "de", .folder [
      (Utf8.encode "translations.json", .file (Utf8.encode "\x7b\x7d"))])]

def shelfTurned : Listing := [
  (Utf8.encode "de", .folder [
    (Utf8.encode "translations.json", .file (Utf8.encode "\x7b\x7d"))]),
  (Utf8.encode "en", .folder [
    (Utf8.encode "translations.yml", .file []),
    (Utf8.encode "translations.json", .file (Utf8.encode "\x7b\"a\":\"b\"\x7d"))])]

theorem proper_shelf : shelf.Proper := by
  refine .folder (by decide +kernel) (by decide +kernel) ?_
  simp only [List.mem_cons, List.not_mem_nil, or_false, forall_eq_or_imp, forall_eq]
  constructor
  · refine .folder (by decide +kernel) (by decide +kernel) ?_
    simp only [List.mem_cons, List.not_mem_nil, or_false, forall_eq_or_imp, forall_eq]
    exact ⟨.file _, .file _⟩
  · refine .folder (by decide +kernel) (by decide +kernel) ?_
    simp only [List.mem_singleton, forall_eq]
    exact .file _

theorem listing_shelf : shelf.listing [] (Utf8.encode ".") = .ok [
    (Utf8.encode "en", .folder [
      (Utf8.encode "translations.json", .file (Utf8.encode "\x7b\"a\":\"b\"\x7d")),
      (Utf8.encode "translations.yml", .file [])]),
    (Utf8.encode "de", .folder [
      (Utf8.encode "translations.json", .file (Utf8.encode "\x7b\x7d"))])] := by
  decide +kernel

theorem mayShow_shelfTurned : shelf.MayShow [] (Utf8.encode ".") (.ok shelfTurned) := by
  unfold Tree.MayShow
  rw [listing_shelf]
  refine ⟨_, rfl, _, .swap _ _ _, ?_⟩
  exact .cons ⟨rfl, .refl _⟩ (.cons ⟨rfl, .folder (.swap _ _ _)⟩ .nil)

theorem ofSeen_reordered_shelf :
    shelf.Proper ∧ shelf.MayShow [] (Utf8.encode ".") (shelf.listing [] (Utf8.encode ".")) ∧
      shelf.MayShow [] (Utf8.encode ".") (.ok shelfTurned) ∧
      shelf.listing [] (Utf8.encode ".") ≠ .ok shelfTurned ∧
      ∃ found, (ofTree Format.read shelf [] (Utf8.encode ".") "").result = .ok found ∧
        (ofSeen Format.read "" (.ok shelfTurned)).result = .ok found := by
  have first := Tree.mayShow_listing shelf [] (Utf8.encode ".")
  have other : shelf.listing [] (Utf8.encode ".") ≠ .ok shelfTurned := by
    rw [listing_shelf]
    decide +kernel
  obtain ⟨⟨own, -⟩, ⟨fault, fault', -, failed⟩ | ⟨found, ok, ok', -⟩, -⟩ :=
    ofSeen_reordered Format.read shelf proper_shelf _ _ "" _ _ first mayShow_shelfTurned
  · have succeeds : (ofSeen Format.read "" (.ok shelfTurned)).result.isOk = true := by
      rw [ofSeen, isOk_ofListing]
      decide +kernel
    rw [failed] at succeeds
    cases succeeds
  · rw [← own] at ok
    exact ⟨proper_shelf, first, mayShow_shelfTurned, other, found, ok, ok'⟩

end Survey
end Phrasebook
