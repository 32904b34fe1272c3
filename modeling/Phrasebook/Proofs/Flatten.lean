import Phrasebook.Flatten

/-!
What can be flattened. Flattening goes from a source through objects only, and a list that it meets
there is all that it fails for. So a source is made into a glossary exactly when no names lead from
it to a list.
-/
namespace Phrasebook

open Json

namespace Json.Value

/-- Names of members lead from a value, through objects, to another. -/
inductive Leads : Value → List String → Value → Prop where
  | here (v : Value) : Leads v [] v
  | inside {members : List (String × Value)} {name : String} {v w : Value} {names : List String}
      (member : (name, v) ∈ members) (onward : Leads v names w) :
      Leads (.object members) (name :: names) w

/-- No names lead to a list. -/
def Listless (v : Value) : Prop := ∀ names items, ¬v.Leads names (.array items)

theorem not_listless_array (items : List Value) : ¬(array items).Listless :=
  fun listless => listless [] items (.here _)

theorem listless_object_iff (members : List (String × Value)) :
    (object members).Listless ↔ ∀ m ∈ members, m.2.Listless := by
  constructor
  · intro listless m member names items onward
    exact listless (m.1 :: names) items (.inside member onward)
  · intro each names items leads
    cases leads with
    | inside member onward => exact each _ member _ items onward

end Json.Value

namespace Flatten

mutual

/-- A value is flattened, whatever its key, exactly when no names lead from it to a list. -/
theorem isOk_phrases_iff (key : String) :
    (v : Value) → ((phrases key v).isOk = true ↔ v.Listless)
  | .null | .bool _ | .number _ | .string _ => by
    refine iff_of_true ?_ fun names items leads => nomatch leads
    rw [phrases]
    rfl
  | .array items => by
    refine iff_of_false ?_ (Value.not_listless_array items)
    rw [phrases]
    nofun
  | .object members => by
    rw [phrases, isOk_memberPhrases_iff key members, Value.listless_object_iff]

theorem isOk_memberPhrases_iff (key : String) :
    (members : List (String × Value)) →
      ((memberPhrases key members).isOk = true ↔ ∀ m ∈ members, m.2.Listless)
  | [] => iff_of_true rfl (fun _ member => nomatch member)
  | (name, v) :: rest => by
    have first := isOk_phrases_iff (join key name) v
    have others := isOk_memberPhrases_iff key rest
    rw [List.forall_mem_cons, ← first, ← others, memberPhrases]
    cases phrases (join key name) v with
    | error _ => simp [Except.isOk, Except.toBool]
    | ok _ => cases memberPhrases key rest <;> simp [Except.isOk, Except.toBool]

end

mutual

theorem phrases_eq_error (key : String) (fault : AssemblyFault) :
    (v : Value) → phrases key v = .error fault → ∃ at_, fault = .unsupported at_ "array"
  | .string _, h | .number _, h | .bool _, h | .null, h => by
    simp only [phrases] at h
    cases h
  | .array _, h => by
    simp only [phrases, Except.error.injEq] at h
    exact ⟨key, h.symm⟩
  | .object members, h => by
    rw [phrases] at h
    exact memberPhrases_eq_error key fault members h

theorem memberPhrases_eq_error (key : String) (fault : AssemblyFault) :
    (members : List (String × Value)) → memberPhrases key members = .error fault →
      ∃ at_, fault = .unsupported at_ "array"
  | [], h => by
    simp only [memberPhrases] at h
    cases h
  | (name, v) :: rest, h => by
    rw [memberPhrases] at h
    split at h
    · rename_i failed
      cases h
      exact phrases_eq_error (join key name) fault v failed
    · split at h
      · rename_i failed
        cases h
        exact memberPhrases_eq_error key fault rest failed
      · cases h

end

theorem glossary_eq_map (locale : Locale) (source : Source) :
    glossary locale source =
      (phrases "" source.toValue).map fun all => ⟨locale, Table.ofList all⟩ := by
  rw [Source.toValue, phrases, glossary]
  cases memberPhrases "" source.members <;> rfl

theorem locale_of_glossary {locale : Locale} {source : Source} {g : Glossary}
    (made : glossary locale source = .ok g) : g.locale = locale := by
  unfold glossary at made
  split at made <;> cases made
  rfl

theorem exists_glossary_iff (locale : Locale) (source : Source) :
    (∃ g, glossary locale source = .ok g) ↔ source.toValue.Listless := by
  rw [Source.toValue, Value.listless_object_iff, ← isOk_memberPhrases_iff "", glossary]
  cases memberPhrases "" source.members <;> simp [Except.isOk, Except.toBool]

end Flatten
end Phrasebook
