import Phrasebook.Json.Record
import Phrasebook.Proofs.Json.Value

/-!
Values of a wanted shape that are written are read back: texts, small numbers, tables, and records
whose members are written in any order, each a field of its own.
-/
namespace Phrasebook.Json

theorem reads_text (s : String) : text.Reads (stringChars s) (.string s) := by
  intro rest stops
  obtain ⟨body, chars, taken⟩ := stringTail_stringChars s rest
  have quote : isSpace '"' = false := by decide
  rw [chars, text, skipSpace_cons quote]
  simp [Reader.map, taken]

theorem reads_word16 {n : Nat} (small : n < 65536) :
    word16.Reads (integerChars n) (.number (.integer n)) := by
  intro rest stops
  have within : InWords n := ⟨by omega, by omega⟩
  obtain ⟨fits, whole⟩ := wholeNumber_natAbs within
  have plus : ¬(n : Int) < 0 := by omega
  rw [decide_eq_false plus, Int.natAbs_natCast] at whole
  obtain ⟨c, more, digits, digit⟩ := exists_toDigits n
  have read := reads_number fits whole rest stops
  have blank : isSpace c = false := by simp [isSpace, ne_of_isDigit digit]
  have sign : c ≠ '-' := ne_of_isDigit digit (by decide)
  have inside : 0 ≤ (n : Int) ∧ (n : Int) < 65536 := by omega
  rw [Int.natAbs_natCast, digits, List.cons_append] at read
  rw [integerChars, if_neg plus, Int.natAbs_natCast, digits, List.cons_append, word16,
    skipSpace_cons blank]
  dsimp only
  rw [if_pos (by simp [digit]), if_neg sign, read]
  dsimp only
  rw [if_pos inside]

theorem reads_tableOf {item : Reader Value} {ms : List (String × Value)}
    (reads : ∀ m ∈ ms, item.Reads m.2.chars m.2) :
    (tableOf item).Reads (Value.object ms).chars (.object ms) := by
  obtain ⟨body, chars, taken⟩ := members_of_reads reads
  have brace : isSpace '{' = false := by decide
  intro rest stops
  rw [chars, List.cons_append, tableOf, skipSpace_cons brace]
  simp [Reader.map, taken]

theorem refuses_tableOf {item : Reader Value} {ms : List (String × Value)} {cause : Cause}
    (refused : (objectElements item).Refused cause ms) :
    (tableOf item).Refuses (Value.object ms).chars cause := by
  obtain ⟨body, chars, taken⟩ := members_of_refused refused
  have brace : isSpace '{' = false := by decide
  intro rest stops
  obtain ⟨fault, failed, caused⟩ := taken rest
  rw [chars, List.cons_append, tableOf, skipSpace_cons brace]
  exact ⟨fault, by simp [Reader.map, failed], caused⟩

theorem reads_nullable {read : Reader Value} {v : Value} (reads : read.Reads v.chars v)
    (other : v.chars.head? ≠ some 'n') : (nullable read).Reads v.chars v := by
  intro rest stops
  obtain ⟨c, more, chars, blank, -⟩ := v.opens_chars
  have taken := reads rest stops
  have first : c ≠ 'n' := by
    rintro rfl
    exact other (by rw [chars]; rfl)
  rw [chars, List.cons_append] at taken ⊢
  rw [nullable, skipSpace_cons blank]
  simp [first, taken]

/-- Members that a record takes, after some that were seen: each has the name of a field that was
not seen yet, and a value that the field reads. -/
inductive Taken (fields : List Field) : (seen members : List (String × Value)) → Prop where
  | nil (seen : List (String × Value)) : Taken fields seen []
  | cons {seen ms : List (String × Value)} {m : String × Value} {f : Field}
      (known : fields.find? (·.name = m.1) = some f) (fresh : Entries.find? m.1 seen = none)
      (reads : f.read.Reads m.2.chars m.2) (others : Taken fields (m :: seen) ms) :
      Taken fields seen (m :: ms)

theorem fieldMember_memberTail {fields : List Field} {seen : List (String × Value)}
    {m : String × Value} {f : Field} (known : fields.find? (·.name = m.1) = some f)
    (fresh : Entries.find? m.1 seen = none) (reads : f.read.Reads m.2.chars m.2)
    {rest : List Char} (stops : Stops rest) :
    fieldMember fields seen (memberTail m ++ rest) = .ok (m :: seen, rest) := by
  obtain ⟨body, chars, taken⟩ := stringTail_stringChars m.1 (':' :: (m.2.chars ++ rest))
  rw [cons_memberTail, List.cons.injEq] at chars
  have mark : colon (':' :: (m.2.chars ++ rest)) = .ok (m.2.chars ++ rest) := rfl
  rw [chars.2, fieldMember, taken]
  simp only [bind, Except.bind, pure, Except.pure, known, fresh, mark, reads rest stops]
  rfl

theorem moreFields_of_taken {fields : List Field} {seen ms all : List (String × Value)}
    (taken : Taken fields seen ms)
    (complete : ∀ rest, collect (ms.reverse ++ seen) rest fields = .ok all) {bound : Nat}
    (enough : ms.length < bound) (rest : List Char) :
    moreFields fields bound seen (Value.moreMembers ms ++ rest) = .ok (all, rest) := by
  induction taken generalizing bound with
  | nil seen =>
    obtain ⟨bound, rfl⟩ : ∃ n, bound = n + 1 := Nat.exists_eq_succ_of_ne_zero (by omega)
    have brace : isSpace '}' = false := by decide
    have whole : collect seen ('}' :: rest) fields = .ok all := complete _
    rw [Value.moreMembers, List.singleton_append, moreFields, skipSpace_cons brace]
    dsimp only
    rw [if_pos rfl, whole]
    rfl
  | @cons seen ms m f known fresh reads others ih =>
    obtain ⟨bound, rfl⟩ : ∃ n, bound = n + 1 := Nat.exists_eq_succ_of_ne_zero (by omega)
    have comma : isSpace ',' = false := by decide
    have quote : isSpace '"' = false := by decide
    have first := fieldMember_memberTail known fresh reads (stops_moreMembers ms rest)
    have later := ih (by simpa using complete) (Nat.lt_of_succ_lt_succ enough)
    rw [Value.moreMembers, cons_memberTail, List.cons_append, List.cons_append, List.append_assoc,
      moreFields, skipSpace_cons comma]
    dsimp only
    rw [if_neg (by decide), if_pos rfl, afterMemberComma, skipSpace_cons quote]
    show (fieldMember fields seen (memberTail m ++ (Value.moreMembers ms ++ rest)) >>= _) = _
    rw [first]
    exact later

theorem fieldMembers_of_taken {fields : List Field} {ms all : List (String × Value)}
    (taken : Taken fields [] ms) (complete : ∀ rest, collect ms.reverse rest fields = .ok all) :
    ∃ body, (Value.object ms).chars = '{' :: body ∧
      ∀ rest, fieldMembers fields (body ++ rest) = .ok (all, rest) := by
  cases taken with
  | nil =>
    refine ⟨['}'], rfl, fun rest => ?_⟩
    have brace : isSpace '}' = false := by decide
    have whole : collect [] ('}' :: rest) fields = .ok all := complete _
    rw [List.singleton_append, fieldMembers, skipSpace_cons brace]
    dsimp only
    rw [if_pos rfl, whole]
    rfl
  | @cons _ ms m f known fresh reads others =>
    refine ⟨_, rfl, fun rest => ?_⟩
    have quote : isSpace '"' = false := by decide
    have first := fieldMember_memberTail known fresh reads (stops_moreMembers ms rest)
    have later := moreFields_of_taken others (by simpa using complete)
      ((objectElements text).length_lt ms rest) rest
    rw [cons_memberTail, List.cons_append, List.append_assoc, fieldMembers, skipSpace_cons quote]
    dsimp only
    rw [if_neg (by decide), if_pos rfl, first]
    exact later

/-- A record is read as all its fields, whichever of them its members are. -/
theorem reads_record (wanted : String) {fields : List Field} {ms all : List (String × Value)}
    (taken : Taken fields [] ms) (complete : ∀ rest, collect ms.reverse rest fields = .ok all) :
    (record wanted fields).Reads (Value.object ms).chars (.object all) := by
  obtain ⟨body, chars, read⟩ := fieldMembers_of_taken taken complete
  have brace : isSpace '{' = false := by decide
  intro rest stops
  rw [chars, List.cons_append, record, skipSpace_cons brace]
  simp [Reader.map, read]

section Whole

variable {α : Type} {read : Reader α} {text : String}

theorem readAll_of_reads {a : α} (reads : read.Reads text.toList a) : readAll read text = .ok a := by
  have whole := reads [] stops_nil
  rw [List.append_nil] at whole
  rw [readAll, whole]
  rfl

theorem readAll_of_refuses {cause : Cause} (refuses : read.Refuses text.toList cause) :
    ∃ fault, readAll read text = .error fault ∧ fault.cause = cause := by
  obtain ⟨fault, failed, caused⟩ := refuses [] stops_nil
  rw [List.append_nil] at failed
  rw [readAll, failed]
  exact ⟨fault, rfl, caused⟩

end Whole

section Into

variable {α : Type} {read : Reader Value} {chars : List Char} {f : Value → Option α}

theorem reads_into (wanted : String) {v : Value} {a : α} (reads : read.Reads chars v)
    (made : f v = some a) : (read.into wanted f).Reads chars a := by
  intro rest stops
  rw [Reader.into, reads rest stops]
  simp [made]

theorem refuses_into (wanted : String) {cause : Cause} (refuses : read.Refuses chars cause) :
    (read.into wanted f).Refuses chars cause := by
  intro rest stops
  obtain ⟨fault, failed, caused⟩ := refuses rest stops
  rw [Reader.into, failed]
  exact ⟨fault, rfl, caused⟩

end Into
end Phrasebook.Json
