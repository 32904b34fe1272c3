import Phrasebook.Proofs.Flatten
import Phrasebook.Proofs.Source

/-!
Glossaries as sources. The phrases of a glossary, written as one object of strings, are the text of a
source again, and that source is flattened to the glossary it was written from: its keys stand at the
top, where a name is a key as it is, whatever points, quotes or letters it is made of.
-/
namespace Phrasebook

open Json

namespace Json.Value

theorem membersDepth_strings (entries : List (String × String)) :
    membersDepth (entries.map fun phrase => (phrase.1, .string phrase.2)) = 0 := by
  induction entries with
  | nil => rfl
  | cons phrase rest ih => simp [membersDepth, depth, ih]

end Json.Value

def Source.ofPhrases (phrases : Table String) : Source where
  members := phrases.entries.map fun phrase => (phrase.1, .string phrase.2)
  ordered := by
    refine .object (List.pairwise_map.2 phrases.ascending) ?_
    intro m member
    obtain ⟨phrase, -, rfl⟩ := List.mem_map.1 member
    exact .string phrase.2

namespace Source

variable (phrases : Table String)

theorem toValue_ofPhrases : (ofPhrases phrases).toValue = Glossary.phrasesValue phrases := rfl

theorem whole_ofPhrases : (ofPhrases phrases).toValue.Whole := by
  apply Value.Whole.object
  intro m member
  obtain ⟨phrase, -, rfl⟩ := List.mem_map.1 member
  exact .string phrase.2

theorem depth_ofPhrases : (ofPhrases phrases).toValue.depth = 1 := by
  rw [toValue, Value.depth, ofPhrases, Value.membersDepth_strings]

theorem ofJson_phrases : ofJson (Glossary.phrasesValue phrases).text = .ok (ofPhrases phrases) := by
  have shallow : (ofPhrases phrases).toValue.depth ≤ depthLimit := by
    rw [depth_ofPhrases]
    decide
  have read := reads_text (whole_ofPhrases phrases) shallow
  rw [text, toValue_ofPhrases] at read
  exact read

end Source

namespace Flatten

theorem memberPhrases_strings (entries : List (String × String)) :
    memberPhrases "" (entries.map fun phrase => (phrase.1, .string phrase.2)) = .ok entries := by
  induction entries with
  | nil => rfl
  | cons phrase rest ih =>
    have key : join "" phrase.1 = phrase.1 := if_pos rfl
    rw [List.map_cons, memberPhrases, key, ih]
    simp [phrases]

theorem glossary_ofPhrases (locale : Locale) (phrases : Table String) :
    glossary locale (.ofPhrases phrases) = .ok ⟨locale, phrases⟩ := by
  unfold glossary
  rw [Source.ofPhrases, memberPhrases_strings]
  simp only [Table.ofList_entries]

/-- What a source is flattened to is flattened to itself: its phrases, written as an object of
strings, are the text of a source that gives the same glossary, and so the same text of it. -/
theorem glossary_reassembles (locale : Locale) (source : Source) (g : Glossary)
    (made : glossary locale source = .ok g) :
    ∃ again after,
      (Format.ofExtension? "json").map (·.read (Glossary.phrasesValue g.phrases).text) =
        some (.ok again) ∧
      glossary locale again = .ok after ∧ after = g ∧ after.toValue.text = g.toValue.text := by
  have format : Format.ofExtension? "json" = some .json := by decide
  have own : (⟨locale, g.phrases⟩ : Glossary) = g := by
    rw [← locale_of_glossary made]
  refine ⟨.ofPhrases g.phrases, g, ?_, ?_, rfl, rfl⟩
  · rw [format, Option.map_some, Format.read, Source.ofJson_phrases]
  · rw [glossary_ofPhrases, own]

theorem glossary_reassembles_marks :
    let source := Source.ofMembers [("é", .object [("\"", .bool true), ("a.b", .object [
      ("\n", .number (.integer 5))])]), ("", .string "\\")]
    ∃ g again after, glossary ⟨"fr"⟩ source = .ok g ∧
      g.phrases.entries = [("", "\\"), ("é.\"", "true"), ("é.a.b.\n", "5")] ∧
      (Format.ofExtension? "json").map (·.read (Glossary.phrasesValue g.phrases).text) =
        some (.ok again) ∧
      glossary ⟨"fr"⟩ again = .ok after ∧ after = g ∧ after.toValue.text = g.toValue.text := by
  intro source
  obtain ⟨g, made⟩ : ∃ g, glossary ⟨"fr"⟩ source = .ok g := ⟨_, rfl⟩
  obtain ⟨again, after, read, remade, same, text⟩ := glossary_reassembles ⟨"fr"⟩ source g made
  refine ⟨g, again, after, made, ?_, read, remade, same, text⟩
  cases made
  rfl

end Flatten
end Phrasebook
