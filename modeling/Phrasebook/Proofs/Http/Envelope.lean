import Phrasebook.Proofs.Http.Endpoint
import Phrasebook.Proofs.Source

/-!
Envelopes and their texts. An envelope is read back from its own text, with or without data and with
or without an error, if its data is; so who asks for a glossary can read the answer as an envelope,
whose code is the status, and which has either a glossary or an error.
-/
namespace Phrasebook.Http

open Json

namespace Envelope

section Data

variable {α : Type} {data : α → Value} {read : Reader Value} {make : Value → Option α}

def members (data : α → Value) (e : Envelope α) : List (String × Value) :=
  [("code", .number (.integer e.code.toNat)), ("message", .string e.message)] ++
    optional "data" (e.data.map data) ++ optional "error" (e.error.map .string)

def allMembers (data : α → Value) (e : Envelope α) : List (String × Value) :=
  [("code", .number (.integer e.code.toNat)), ("message", .string e.message),
    ("data", (e.data.map data).getD .null), ("error", (e.error.map .string).getD .null)]

theorem taken_members (e : Envelope α) (reads : ∀ a, read.Reads (data a).chars (data a))
    (other : ∀ a, (data a).chars.head? ≠ some 'n') :
    Taken (fields read) [] (e.members data) := by
  obtain ⟨code, message, d, error⟩ := e
  have last : ∀ seen, Entries.find? "error" seen = none →
      Taken (fields read) seen (optional "error" (error.map .string)) := by
    intro seen fresh
    cases error with
    | none => exact .nil seen
    | some s =>
      exact .cons rfl fresh (reads_nullable (reads_text s) (by simp [Value.chars, stringChars]))
        (.nil _)
  refine .cons rfl rfl (reads_word16 code.toNat_lt) ?_
  refine .cons rfl (by simp [Entries.find?]) (reads_text message) ?_
  cases d with
  | none => exact last _ (by simp [Entries.find?])
  | some a =>
    exact .cons rfl (by simp [Entries.find?]) (reads_nullable (reads a) (other a))
      (last _ (by simp [Entries.find?]))

theorem collect_members (e : Envelope α) (rest : List Char) :
    collect (e.members data).reverse rest (fields read) = .ok (e.allMembers data) := by
  obtain ⟨code, message, d, error⟩ := e
  cases d <;> cases error <;>
    simp [members, allMembers, optional, fields, collect, Entries.find?, bind, Except.bind, pure,
      Except.pure]

theorem notNull?_getD (made : ∀ a, make (data a) = some a) (other : ∀ a, data a ≠ .null)
    (o : Option α) : notNull? make ((o.map data).getD .null) = some o := by
  cases o with
  | none => rfl
  | some a =>
    show notNull? make (data a) = _
    unfold notNull?
    split
    · rename_i null
      exact absurd null (other a)
    · rw [made]
      rfl

theorem ofValue?_allMembers (made : ∀ a, make (data a) = some a) (other : ∀ a, data a ≠ .null)
    (e : Envelope α) : ofValue? make (.object (e.allMembers data)) = some e := by
  obtain ⟨code, message, d, error⟩ := e
  have given := notNull?_getD made other d
  have word : (code.toNat : Int).toNat.toUInt16 = code := by simp
  -- Which of the fields is null is known only for the error, so it is opened by cases.
  have opened : ofValue? make (.object (allMembers data ⟨code, message, d, error⟩)) =
      (notNull? make ((d.map data).getD .null)).bind fun given =>
        some ⟨(code.toNat : Int).toNat.toUInt16, message, given, error⟩ := by
    cases error <;> rfl
  rw [opened, given, word]
  rfl

/-- An envelope is read back if its data is, which must not begin as a null does. -/
theorem reads_reader (reads : ∀ a, read.Reads (data a).chars (data a))
    (made : ∀ a, make (data a) = some a) (other : ∀ a, (data a).chars.head? ≠ some 'n')
    (e : Envelope α) : (reader read make).Reads (e.toValue data).chars e := by
  have filled : ∀ a, data a ≠ .null := by
    intro a null
    exact other a (by rw [null]; rfl)
  exact reads_into _ (reads_record _ (e.taken_members reads other) e.collect_members)
    (ofValue?_allMembers made filled e)

end Data

def text (e : Envelope Glossary) : String := (e.toValue Glossary.toValue).text

def ofJson (text : String) : Except Fault (Envelope Glossary) :=
  readAll (reader Glossary.reader Glossary.ofValue?) text

theorem ofJson_text (e : Envelope Glossary) : ofJson e.text = .ok e := by
  have chars : e.text.toList = (e.toValue Glossary.toValue).chars := String.toList_ofList
  have other : ∀ g : Glossary, g.toValue.chars.head? ≠ some 'n' := by
    intro g
    simp [Glossary.toValue, Value.chars]
  exact readAll_of_reads
    (chars ▸ reads_reader Glossary.reads_reader Glossary.ofValue?_toValue other e)

end Envelope

/-- Whether the body of a response is an envelope with the code of its status, and with data or an
error, data just when all is well. -/
def Response.Carries (response : Response) : Prop :=
  ∃ e, Envelope.ofJson response.body = .ok e ∧ e.code.toNat = response.status.code ∧
    (e.data.isSome = true ↔ response.status.code = 200) ∧ e.error.isSome = !e.data.isSome

namespace Response

theorem body_success (g : Glossary) : (success g.toValue).body = (Envelope.success g).text :=
  congrArg Value.text rfl

theorem body_failure (status : Status) (error : String) :
    (failure status error).body = (Envelope.failure status error : Envelope Glossary).text :=
  congrArg Value.text rfl

theorem carries_success (g : Glossary) : (success g.toValue).Carries := by
  refine ⟨.success g, ?_, ?_, ?_, ?_⟩
  · rw [body_success, Envelope.ofJson_text]
  · show Status.ok.code.toUInt16.toNat = Status.ok.code
    decide
  · simp [Envelope.success, success, json, Status.ok]
  · simp [Envelope.success]

theorem carries_failure {status : Status} (bad : status.code ≠ 200) (error : String) :
    (failure status error).Carries := by
  refine ⟨.failure status error, ?_, ?_, ?_, ?_⟩
  · rw [body_failure, Envelope.ofJson_text]
  · have digits := status.three_digits
    exact UInt16.toNat_ofNat_of_lt' (by simp only [UInt16.size]; omega)
  · simp [Envelope.failure, failure, json, bad]
  · simp [Envelope.failure]

theorem carries_ofResult (result : Except LookupFault Glossary) : (ofResult result).Carries := by
  match result with
  | .ok g => exact carries_success g
  | .error fault =>
    have bad : (statusOf fault).code ≠ 200 := by
      match fault with
      | .noData _ => simp [statusOf, Status.notFound]
      | .assembly .unimplemented => simp [statusOf, Status.notImplemented]
      | .assembly (.unsupported ..) => simp [statusOf, Status.internalError]
    exact carries_failure bad _

end Response

theorem carries_glossaryBy (run : String → Outcome Glossary) (request : Request) :
    (glossaryBy run request).response.Carries := by
  unfold glossaryBy
  cases queryPath request.queryBytes with
  | ok path => exact Response.carries_ofResult _
  | error fault => exact Response.carries_failure (by decide) _

/-- Envelopes and glossaries are read back from their texts, and each answer on the route for
glossaries, however they are looked up, is such an envelope. -/
theorem ofJson_envelopes :
    (∀ e : Envelope Glossary, Envelope.ofJson e.text = .ok e) ∧
    (∀ g : Glossary, Glossary.ofJson g.toValue.text = .ok g) ∧
    (∀ (run : String → Outcome Glossary) request, (glossaryBy run request).response.Carries) ∧
    ∀ (s : Service) t time (request : Request), request.method = "GET" →
      request.uri.path = "/api/v1/translations" →
      s.answer t time request = glossaryBy s.lookup.run request ∧
        (s.answer t time request).response.Carries := by
  refine ⟨Envelope.ofJson_text, Glossary.ofJson_toValue_text, carries_glossaryBy, ?_⟩
  intro s t time request get page
  have same := answer_eq_glossaryBy s t time get page
  exact ⟨same, same ▸ carries_glossaryBy _ _⟩

theorem ofJson_envelopes_greeting :
    let ask := fun query =>
      (⟨"GET", ⟨none, none, "/api/v1/translations", some query⟩, []⟩ : Request)
    let answer := fun query => Service.answer ⟨Lookup.greeting, none⟩ .zero "" (ask query)
    (answer "path=/en").response.status.code = 200 ∧ (answer "path=/en").response.Carries ∧
      (answer "page=/en").response.status.code = 400 ∧ (answer "page=/en").response.Carries := by
  intro ask answer
  obtain ⟨-, -, -, carries⟩ := ofJson_envelopes
  have found : (answer "path=/en").response.status.code = 200 := by decide +kernel
  have refused : (answer "page=/en").response.status.code = 400 := by decide +kernel
  exact ⟨found, (carries _ _ _ _ rfl rfl).2, refused, (carries _ _ _ _ rfl rfl).2⟩

end Phrasebook.Http
