import Mathlib.Data.List.Forall2
import Phrasebook.Proofs.Http.Service

/-!
The key to the counters. A report is given to those who show the key in the first field for it, byte
for byte, and to all when there is no key. Everyone else gets one and the same answer, which tells
nothing of the service, and leaves the counters as they are.
-/
namespace Phrasebook.Http

open Utf8 (Bytes)

def Request.Shows (request : Request) (name : String) (value : Bytes) : Prop :=
  ∃ before after, request.fields = before ++ (name, value) :: after ∧
    ∀ field ∈ before, field.1 ≠ name

theorem Request.field?_eq_some_iff (request : Request) (name : String) (value : Bytes) :
    request.field? name = some value ↔ request.Shows name value := by
  unfold Request.field? Request.Shows
  rw [List.lookup_eq_some_iff]
  simp only [bne_iff_ne, ne_comm, ne_eq]

namespace Service

theorem foldl_same_iff (pairs : List (UInt8 × UInt8)) (same : Bool) :
    pairs.foldl (fun same pair => same && pair.1 == pair.2) same = true ↔
      same = true ∧ ∀ pair ∈ pairs, pair.1 = pair.2 := by
  induction pairs generalizing same with
  | nil => simp
  | cons pair rest ih =>
    rw [List.foldl_cons, ih]
    simp [and_assoc]

/-- Looking at every byte tells whether keys of any lengths are the same. -/
theorem sameKey_iff (shown key : Bytes) : sameKey shown key = true ↔ shown = key := by
  have pairwise : shown = key ↔ shown.length = key.length ∧
      ∀ {a b}, (a, b) ∈ shown.zip key → a = b := by
    rw [← List.forall₂_iff_zip, List.forall₂_eq_eq_eq]
  rw [pairwise]
  unfold sameKey
  by_cases length : shown.length = key.length
  · rw [if_neg (by simpa using length), foldl_same_iff]
    simp [length]
  · rw [if_pos length]
    simp [length]

theorem mayReport_iff (key : Option String) (request : Request) :
    mayReport key request = true ↔ key = none ∨ ∃ k, key = some k ∧
      request.Shows keyField (Utf8.encode k) ∧ isVisible (Utf8.encode k) = true := by
  cases key with
  | none => simp [mayReport]
  | some key =>
    simp only [← Request.field?_eq_some_iff, mayReport, reduceCtorEq, false_or, Option.some.injEq]
    cases shown : request.field? keyField with
    | none => simp
    | some value =>
      simp only [Bool.and_eq_true, sameKey_iff, Option.some.injEq]
      constructor
      · rintro ⟨visible, rfl⟩
        exact ⟨key, rfl, rfl, visible⟩
      · rintro ⟨_, rfl, rfl, visible⟩
        exact ⟨visible, rfl⟩

section Report

variable (s : Service) (t : Tally) (time : String) {request : Request}
  (get : request.method = "GET") (page : request.uri.path = "/metrics")
include get page

theorem answer_report : s.answer t time request = s.report t time request := by
  have found : Route.ofPath? request.uri.path = some .report := by
    rw [page]
    decide
  exact s.answer_get t time get found

theorem answer_report_of_rejected (rejected : mayReport s.key request = false) :
    s.answer t time request =
      ⟨.failure .unauthorized "invalid or missing API key", [], [.keyRejected]⟩ := by
  rw [s.answer_report t time get page, report, rejected]
  rfl

theorem answer_report_code_iff :
    (s.answer t time request).response.status.code = 200 ↔ mayReport s.key request = true := by
  constructor
  · intro accepted
    by_contra rejected
    rw [s.answer_report_of_rejected t time get page (by simpa using rejected)] at accepted
    exact absurd accepted (by decide)
  · intro may
    rw [s.answer_report t time get page, report, if_pos may]
    rfl

end Report

/-- Two services with one key, whatever else they hold, and any request for the counters. -/
theorem answer_report_guarded (request : Request) (get : request.method = "GET")
    (page : request.uri.path = "/metrics") :
    (∀ (key : String) (s s' : Service) (t t' : Tally) (time time' : String),
      s.key = some key → s'.key = some key → ¬request.Shows "x-api-key" (Utf8.encode key) →
      let answer := s.answer t time request
      let answer' := s'.answer t' time' request
      answer.response = answer'.response ∧ answer.response.status.code = 401 ∧
        answer.response.body = errorBody 401 "unauthorized" "invalid or missing API key" ∧
        answer.events = answer'.events ∧
        t.bumpAll answer.bumps = t ∧ t'.bumpAll answer'.bumps = t') ∧
    ∀ (s : Service) (t : Tally) (time : String),
      (s.answer t time request).response.status.code = 200 →
      s.key = none ∨ ∃ (key : String) (shown : Bytes), s.key = some key ∧
        request.Shows "x-api-key" shown ∧ shown.length = (Utf8.encode key).length ∧
        ∀ i : Nat, shown[i]? = (Utf8.encode key)[i]? := by
  constructor
  · intro key s s' t t' time time' locked locked' wrong answer answer'
    have rejected : ∀ any : Service, any.key = some key → mayReport any.key request = false := by
      intro any locked
      by_contra may
      rw [Bool.not_eq_false, mayReport_iff, locked] at may
      obtain open_ | ⟨k, same, shows, -⟩ := may
      · cases open_
      · cases same
        exact wrong shows
    have first : answer = _ := s.answer_report_of_rejected t time get page (rejected s locked)
    have second : answer' = _ :=
      s'.answer_report_of_rejected t' time' get page (rejected s' locked')
    rw [first, second]
    exact ⟨rfl, rfl, rfl, rfl, rfl, rfl⟩
  · intro s t time accepted
    rw [s.answer_report_code_iff t time get page, mayReport_iff] at accepted
    obtain free | ⟨key, locked, shows, -⟩ := accepted
    · exact .inl free
    · exact .inr ⟨key, _, locked, shows, rfl, fun _ => rfl⟩

theorem answer_report_guarded_secret :
    let busy : Service := ⟨Lookup.greeting, some "secret"⟩
    let idle : Service := ⟨Lookup.new Catalog.empty .unimplemented, some "secret"⟩
    let counted := Tally.zero.bumpAll [.requests, .successes]
    let ask := fun keys : List String => (⟨"GET", ⟨none, none, "/metrics", none⟩,
      keys.map fun key => ("x-api-key", Utf8.encode key)⟩ : Request)
    let twice := ask ["secrets", "secret"]
    let once := ask ["secret"]
    ¬twice.Shows "x-api-key" (Utf8.encode "secret") ∧
      (busy.answer counted "now" twice).response = (idle.answer .zero "then" twice).response ∧
      (busy.answer counted "now" twice).response.status.code = 401 ∧
      counted.bumpAll (busy.answer counted "now" twice).bumps = counted ∧
      (busy.answer counted "now" once).response.status.code = 200 ∧
      ∃ shown, once.Shows "x-api-key" shown ∧ shown.length = (Utf8.encode "secret").length := by
  intro busy idle counted ask twice once
  have wrong : ¬twice.Shows "x-api-key" (Utf8.encode "secret") := by
    rw [← Request.field?_eq_some_iff]
    decide
  have accepted : (busy.answer counted "now" once).response.status.code = 200 := by decide +kernel
  obtain ⟨closed, -⟩ := answer_report_guarded twice rfl rfl
  obtain ⟨same, code, -, -, kept, -⟩ :=
    closed "secret" busy idle counted .zero "now" "then" rfl rfl wrong
  obtain ⟨-, opened⟩ := answer_report_guarded once rfl rfl
  obtain free | ⟨key, shown, locked, shows, length, -⟩ := opened busy counted "now" accepted
  · cases free
  · cases locked
    exact ⟨wrong, same, code, kept, accepted, shown, shows, length⟩

end Service
end Phrasebook.Http
