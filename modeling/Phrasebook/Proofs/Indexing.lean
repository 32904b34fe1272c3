import Phrasebook.Proofs.ByteOrder
import Phrasebook.Proofs.Catalog

/-!
The catalog of any list of paths with their contents. For each code it has the content of the last
path whose second part is this code, and no other codes; the codes stand in the order of their
bytes.
-/
namespace Phrasebook.Catalog

/-- A path is made of parts without slashes and of slashes between them. Its second part is the
code, and the code is not empty. -/
def HasCode (path code : String) : Prop :=
  code ≠ "" ∧ ∃ first more, path.toList = ['/'].intercalate (first :: code.toList :: more) ∧
    ∀ part ∈ first :: code.toList :: more, '/' ∉ part

theorem parts_eq_iff {path : List Char} {ps : List (List Char)} (some_part : ps ≠ []) :
    Text.parts '/' path = ps ↔ path = ['/'].intercalate ps ∧ ∀ part ∈ ps, '/' ∉ part := by
  constructor
  · rintro rfl
    exact ⟨(Text.intercalate_parts '/' _).symm, fun part member => Text.mark_not_mem_part member⟩
  · rintro ⟨whole, plain⟩
    rw [whole, Text.parts_intercalate some_part plain]

theorem localeOf?_eq_some_iff (path : String) (locale : Locale) :
    localeOf? path = some locale ↔ HasCode path locale.code := by
  constructor
  · intro named
    unfold localeOf? at named
    split at named
    · cases named
    · rename_i part second
      split at named
      · cases named
      · rename_i filled
        cases named
        -- There is a second part, so there are at least two.
        match split : Text.parts '/' path.toList with
        | [] | [_] => simp [split] at second
        | first :: _ :: more =>
          rw [split] at second
          cases second
          rw [HasCode, String.toList_ofList]
          refine ⟨fun empty => filled ?_, first, more, (parts_eq_iff (by simp)).1 split⟩
          simpa using congrArg String.toList empty
  · rintro ⟨filled, first, more, made⟩
    have split := (parts_eq_iff (by simp)).2 made
    have part : ¬locale.code.toList.isEmpty = true := by simpa using filled
    unfold localeOf?
    rw [split]
    dsimp only [List.getElem?_cons_succ, List.getElem?_cons_zero]
    rw [if_neg part, String.ofList_toList]

theorem names_eq_true_iff {α : Type} (code : String) (found : String × α) :
    names ⟨code⟩ found = true ↔ HasCode found.1 code :=
  decide_eq_true_iff.trans (localeOf?_eq_some_iff found.1 ⟨code⟩)

section Found

variable {α : Type} (found : List (String × α))

theorem get?_ofFound_eq_some_iff (code : String) (content : α) :
    (ofFound found).get? ⟨code⟩ = some content ↔
      ∃ before path after, found = before ++ (path, content) :: after ∧ HasCode path code ∧
        ∀ later ∈ after, ¬HasCode later.1 code := by
  rw [get?_ofFound, Option.map_eq_some_iff]
  simp only [getLast?_filter_eq_some_iff, names_eq_true_iff, ← Bool.not_eq_true]
  constructor
  · rintro ⟨⟨path, content⟩, ⟨before, after, whole, here, others⟩, rfl⟩
    exact ⟨before, path, after, whole, here, others⟩
  · rintro ⟨before, path, after, whole, here, others⟩
    exact ⟨(path, content), ⟨before, after, whole, here, others⟩, rfl⟩

theorem get?_ofFound_eq_none_iff (code : String) :
    (ofFound found).get? ⟨code⟩ = none ↔ ∀ pair ∈ found, ¬HasCode pair.1 code := by
  rw [get?_ofFound, Option.map_eq_none_iff, List.getLast?_eq_none_iff, List.filter_eq_nil_iff]
  simp only [names_eq_true_iff]

theorem ascending_codes (c : Catalog α) :
    (c.locales.map fun locale => Utf8.encode locale.code).Pairwise (· < ·) := by
  rw [locales, List.map_map, List.pairwise_map]
  exact c.byCode.ascending_keys.imp Utf8.encode_lt_encode

theorem length_locales (c : Catalog α) : c.locales.length = c.size := by
  rw [locales, List.length_map, Table.keys, List.length_map]
  rfl

theorem isEmpty_iff (c : Catalog α) : c.isEmpty = true ↔ ∀ code, c.get? ⟨code⟩ = none := by
  have keys : c.isEmpty = true ↔ c.byCode.keys = [] := by
    rw [Table.keys, List.map_eq_nil_iff]
    exact List.isEmpty_iff
  rw [keys, List.eq_nil_iff_forall_not_mem]
  refine forall_congr' fun code => ?_
  rw [Table.mem_keys_iff, Bool.not_eq_true, Option.isSome_eq_false_iff, Option.isNone_iff_eq_none]
  rfl

end Found

/-- What a catalog holds for each code, and which codes it lists in which order. -/
theorem ofFound_content {α : Type} (found : List (String × α)) :
    (∀ (code : String) (content : α), (ofFound found).get? ⟨code⟩ = some content ↔
      ∃ before path after, found = before ++ (path, content) :: after ∧ HasCode path code ∧
        ∀ later ∈ after, ¬HasCode later.1 code) ∧
    (∀ code : String,
      (ofFound found).get? ⟨code⟩ = none ↔ ∀ pair ∈ found, ¬HasCode pair.1 code) ∧
    (∀ code : String, (ofFound found).contains ⟨code⟩ = true ↔
      ∃ content, (ofFound found).get? ⟨code⟩ = some content) ∧
    ((ofFound found).locales.map fun locale => Utf8.encode locale.code).Pairwise (· < ·) ∧
    (∀ code : String, ⟨code⟩ ∈ (ofFound found).locales ↔
      ∃ content, (ofFound found).get? ⟨code⟩ = some content) ∧
    (ofFound found).size = (ofFound found).locales.length ∧
    ((ofFound found).isEmpty = true ↔ ∀ pair ∈ found, ∀ code, ¬HasCode pair.1 code) := by
  refine ⟨get?_ofFound_eq_some_iff found, get?_ofFound_eq_none_iff found, fun code => ?_,
    ascending_codes _, fun code => ?_, (length_locales _).symm, ?_⟩
  · exact Option.isSome_iff_exists
  · rw [mem_locales_iff, Option.isSome_iff_exists]
  · simp only [isEmpty_iff, get?_ofFound_eq_none_iff]
    constructor
    · intro nothing pair member code
      exact nothing code pair member
    · intro nothing code pair member
      exact nothing pair member code

example :
    (ofFound [("./en/a", 1), ("/en", 2), ("fr/", 3), ("a//de", 4), ("en", 5)]).byCode.entries =
      [("en", 2)] := by
  decide +kernel

end Phrasebook.Catalog
