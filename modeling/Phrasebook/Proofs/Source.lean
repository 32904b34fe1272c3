import Phrasebook.Proofs.Json.Record
import Phrasebook.Proofs.Table
import Phrasebook.Survey

/-!
Sources, glossaries and their texts. A source with whole numbers is read back from its own text if
its brackets are nested as deep as a text may be, and refused as too deep if they are nested deeper.
A glossary is read back from its own text, whatever its locale is called and whatever its keys and
phrases are.
-/
namespace Phrasebook

open Json

namespace Json.Value

/-- A value within so many lists, each of which holds only the next. -/
def enclosed (v : Value) : Nat → Value
  | 0 => v
  | lists + 1 => .array [enclosed v lists]

theorem ordered_enclosed {v : Value} (ordered : v.Ordered) (lists : Nat) :
    (v.enclosed lists).Ordered := by
  induction lists with
  | zero => exact ordered
  | succ lists ih => exact .array fun w member => List.mem_singleton.1 member ▸ ih

theorem whole_enclosed {v : Value} (whole : v.Whole) (lists : Nat) : (v.enclosed lists).Whole := by
  induction lists with
  | zero => exact whole
  | succ lists ih => exact .array fun w member => List.mem_singleton.1 member ▸ ih

theorem depth_enclosed (v : Value) (lists : Nat) : (v.enclosed lists).depth = v.depth + lists := by
  induction lists with
  | zero => rfl
  | succ lists ih =>
    simp only [enclosed, depth, itemsDepth]
    omega

end Json.Value

namespace Source

theorem ofMembers_members (s : Source) : ofMembers s.members = s := by
  have same := s.ordered.ordered_eq
  rw [Value.ordered, Value.object.injEq] at same
  cases s with
  | mk members ordered => simp only [ofMembers, Source.mk.injEq]; exact same

theorem toList_text (s : Source) : s.text.toList = (Value.object s.members).chars := by
  rw [text, Value.text, String.toList_ofList, toValue]

section Text

variable {s : Source} (whole : s.toValue.Whole)
include whole

theorem whole_of_mem {m : String × Value} (member : m ∈ s.members) : m.2.Whole := by
  cases whole with
  | object each => exact each m member

theorem reads_text (within : s.toValue.depth ≤ depthLimit) : ofJson s.text = .ok s := by
  have limit : depthLimit = 127 := rfl
  rw [toValue, Value.depth, Value.membersDepth_eq] at within
  have each : ∀ m ∈ s.members, anything.Reads m.2.chars m.2 := by
    intro m member
    have inside := Value.depth_le_itemsDepth (List.mem_map_of_mem (f := Prod.snd) member)
    exact reads_value (whole_of_mem whole member) (by omega)
  have made : ofValue? (.object s.members) = some s := congrArg some s.ofMembers_members
  exact readAll_of_reads (s.toList_text ▸ reads_into "a map" (reads_tableOf each) made)

theorem refuses_text (beyond : depthLimit < s.toValue.depth) :
    ∃ fault, ofJson s.text = .error fault ∧ fault.cause = .tooDeep := by
  have limit : depthLimit = 127 := rfl
  rw [toValue, Value.depth, Value.membersDepth_eq] at beyond
  obtain ⟨v, inside, deep⟩ := Value.exists_of_lt_itemsDepth
    (show depthLimit - 1 < Value.itemsDepth (s.members.map Prod.snd) by omega)
  obtain ⟨m, member, rfl⟩ := List.mem_map.1 inside
  have refused : (objectElements anything).Refused .tooDeep s.members :=
    Elements.refused_of_mem _ (fun m => m.2.depth)
      (fun n other within => reads_member (reads_value (whole_of_mem whole other) within))
      (fun n other beyond => refuses_member (refuses_value (whole_of_mem whole other) beyond))
      member deep
  exact readAll_of_refuses (s.toList_text ▸ refuses_into "a map" (refuses_tableOf refused))

end Text

/-- The text of a source is that source again, as a file of the format and for what it is made
into, and 127 is the greatest depth for which it is. -/
theorem ofJson_own_text (s : Source) (whole : s.toValue.Whole) :
    (s.toValue.depth ≤ 127 →
      ofJson s.text = .ok s ∧
      (Format.ofExtension? "json").map (·.read s.text) = some (.ok s) ∧
      ∀ locale, (ofJson s.text).map (Strategy.flatten.assemble locale) =
        .ok (Strategy.flatten.assemble locale s)) ∧
    (127 < s.toValue.depth →
      ∃ fault, ofJson s.text = .error fault ∧ fault.cause = .tooDeep) := by
  constructor
  · intro within
    have read := reads_text whole within
    have format : Format.ofExtension? "json" = some .json := by decide
    refine ⟨read, ?_, fun locale => ?_⟩
    · rw [format, Option.map_some, Format.read, read]
    · rw [read]
      rfl
  · exact refuses_text whole

def corners (lists : Nat) : Source where
  members := [("\"\n", .enclosed (.number (.integer (-9223372036854775808))) lists),
    ("ü", .number (.integer 18446744073709551615))]
  ordered := by
    have ascending : ("\"\n" : String) < "ü" := by decide
    refine .object (List.pairwise_pair.2 ascending) fun m member => ?_
    simp only [List.mem_cons, List.not_mem_nil, or_false] at member
    rcases member with rfl | rfl
    · exact Value.ordered_enclosed (.number _) lists
    · exact .number _

theorem whole_corners (lists : Nat) : (corners lists).toValue.Whole := by
  refine .object fun m member => ?_
  simp only [corners, List.mem_cons, List.not_mem_nil, or_false] at member
  rcases member with rfl | rfl
  · exact Value.whole_enclosed (.number ⟨by decide, by decide⟩) lists
  · exact .number ⟨by decide, by decide⟩

theorem depth_corners (lists : Nat) : (corners lists).toValue.depth = lists + 1 := by
  simp [corners, toValue, Value.depth, Value.membersDepth, Value.depth_enclosed]

theorem ofJson_own_text_corners :
    ofJson (corners 126).text = .ok (corners 126) ∧
      ∃ fault, ofJson (corners 127).text = .error fault ∧ fault.cause = .tooDeep := by
  obtain ⟨read, -⟩ := ofJson_own_text (corners 126) (whole_corners 126)
  obtain ⟨-, refused⟩ := ofJson_own_text (corners 127) (whole_corners 127)
  have deepest : (corners 126).toValue.depth ≤ 127 := Nat.le_of_eq (depth_corners 126)
  have deeper : 127 < (corners 127).toValue.depth := Nat.le_of_eq (depth_corners 127).symm
  exact ⟨(read deepest).1, refused deeper⟩

end Source

namespace Glossary

theorem texts?_phrasesValue (phrases : Table String) :
    texts? (phrasesValue phrases) = some phrases.entries := by
  unfold texts? phrasesValue
  generalize phrases.entries = es
  induction es with
  | nil => rfl
  | cons e rest ih =>
    dsimp only at ih ⊢
    rw [List.map_cons, List.mapM_cons, ih]
    rfl

theorem ofValue?_toValue (g : Glossary) : ofValue? g.toValue = some g := by
  show (texts? (phrasesValue g.phrases)).map _ = _
  rw [texts?_phrasesValue, Option.map_some, Table.ofList_entries]

theorem reads_reader (g : Glossary) : reader.Reads g.toValue.chars g.toValue := by
  apply reads_record
  · apply Taken.cons rfl rfl (reads_text _)
    apply Taken.cons rfl
    · simp [Entries.find?]
    · apply reads_tableOf
      intro m member
      obtain ⟨⟨key, phrase⟩, -, rfl⟩ := List.mem_map.1 member
      exact reads_text phrase
    · exact .nil _
  · intro rest
    simp [collect, Entries.find?, bind, Except.bind, pure, Except.pure]

theorem ofJson_toValue_text (g : Glossary) : ofJson g.toValue.text = .ok g := by
  have chars : g.toValue.text.toList = g.toValue.chars := String.toList_ofList
  exact readAll_of_reads (chars ▸ reads_into "a glossary" g.reads_reader g.ofValue?_toValue)

end Glossary
end Phrasebook
