import Phrasebook.Proofs.Http.Service
import Phrasebook.Proofs.Session

/-!
Long use of the service. Counters are bumped by lookups and statuses are given to their results in
another place; after any requests the two agree, and a report of the counters shows how many
requests were answered with which status.
-/
namespace Phrasebook.Http

open Json

/-- A request at a time, with the detection of locales as it is then. -/
structure Visit where
  detect : String → Option Locale
  time : String
  request : Request

/-- Whether a request that reads a glossary was answered with one of some codes. -/
def answered (codes : List Nat) (t : Turn Visit Answer) : Bool :=
  t.question.request.readsGlossary && codes.contains t.reply.response.status.code

namespace Service

def detecting (s : Service) (detect : String → Option Locale) : Service :=
  { s with lookup := s.lookup.detecting detect }

def receive (s : Service) (t : Tally) (visit : Visit) : Answer :=
  (s.detecting visit.detect).answer t visit.time visit.request

def desk (s : Service) : Desk Visit Answer := ⟨s.receive, Answer.bumps⟩

/-- The codes of the answers that a counter of outcomes stands for. -/
def codesOf : Counter → List Nat
  | .successes => [200]
  | .missing => [404]
  | .failures => [500, 501]
  | .requests => [200, 404, 500, 501]
  | _ => []

theorem codesOf_ofResult (result : Except LookupFault Glossary) :
    (codesOf .requests).contains (Response.ofResult result).status.code = true ∧
      ∀ c, c = .successes ∨ c = .missing ∨ c = .failures →
        (codesOf c).contains (Response.ofResult result).status.code =
          decide (Counter.ofResult result = c) := by
  rw [Response.ofResult_code]
  match result with
  | .ok _ => exact ⟨rfl, by rintro _ (rfl | rfl | rfl) <;> rfl⟩
  | .error (.noData _) => exact ⟨rfl, by rintro _ (rfl | rfl | rfl) <;> rfl⟩
  | .error (.assembly .unimplemented) => exact ⟨rfl, by rintro _ (rfl | rfl | rfl) <;> rfl⟩
  | .error (.assembly (.unsupported ..)) => exact ⟨rfl, by rintro _ (rfl | rfl | rfl) <;> rfl⟩

theorem answer_cases (s : Service) (t : Tally) (time : String) (request : Request) :
    (request.readsGlossary = true ∧ ∃ path,
      (s.answer t time request).bumps = (s.lookup.run path).bumps ∧
      (s.answer t time request).response.status =
        (Response.ofResult (s.lookup.run path).result).status) ∨
    (s.answer t time request).bumps = [] ∧
      (request.readsGlossary = false ∨ (s.answer t time request).response.status.code = 400) := by
  cases reads : request.readsGlossary with
  | false => exact .inr ⟨s.bumps_of_not_readsGlossary t time reads, .inl rfl⟩
  | true =>
    obtain ⟨bumps, -, status⟩ := s.answer_of_readsGlossary t time reads
    cases asked : queryPath request.queryBytes with
    | ok path =>
      rw [s.glossary_of_path asked] at bumps status
      exact .inl ⟨rfl, path, bumps, status⟩
    | error fault =>
      rw [s.glossary_of_fault asked] at bumps status
      exact .inr ⟨bumps, .inr (congrArg Status.code status)⟩

section Answers

variable (s : Service) (t : Tally) (visit : Visit)

theorem count_requests_receive :
    (s.receive t visit).bumps.count .requests =
      if answered (codesOf .requests) ⟨visit, s.receive t visit⟩ then 1 else 0 := by
  unfold answered receive
  obtain ⟨reads, path, bumps, status⟩ | ⟨bumps, other⟩ :=
    (s.detecting visit.detect).answer_cases t visit.time visit.request
  · rw [bumps, status, Lookup.count_requests_run, reads, (codesOf_ofResult _).1]
    rfl
  · rw [bumps]
    rcases other with other | bad
    · simp [other]
    · simp [bad, codesOf]

theorem count_outcome_receive {c : Counter}
    (outcome : c = .successes ∨ c = .missing ∨ c = .failures) :
    (s.receive t visit).bumps.count c =
      if answered (codesOf c) ⟨visit, s.receive t visit⟩ then 1 else 0 := by
  unfold answered receive
  obtain ⟨reads, path, bumps, status⟩ | ⟨bumps, other⟩ :=
    (s.detecting visit.detect).answer_cases t visit.time visit.request
  · rw [bumps, status, Lookup.count_outcome_run _ _ outcome, reads,
      (codesOf_ofResult _).2 c outcome]
    simp only [Bool.true_and, decide_eq_true_eq]
  · rw [bumps]
    rcases other with other | bad
    · simp [other]
    · obtain rfl | rfl | rfl := outcome <;> simp [bad, codesOf]

theorem balanced_receive : Tally.Balanced (s.receive t visit).bumps := by
  unfold receive
  obtain ⟨-, path, bumps, -⟩ | ⟨bumps, -⟩ :=
    (s.detecting visit.detect).answer_cases t visit.time visit.request
  · rw [bumps]
    exact Lookup.balanced_run _ path
  · rw [bumps]
    exact .nil

theorem bumps_receive_quiet
    (quiet : (s.receive t visit).response.status.code = 400 ∨
      visit.request.readsGlossary = false) :
    (s.receive t visit).bumps = [] := by
  unfold receive at quiet ⊢
  obtain ⟨reads, path, -, status⟩ | ⟨bumps, -⟩ :=
    (s.detecting visit.detect).answer_cases t visit.time visit.request
  · rcases quiet with bad | other
    · have looked := (codesOf_ofResult ((s.detecting visit.detect).lookup.run path).result).1
      rw [← status, bad] at looked
      exact absurd looked (by decide)
    · rw [reads] at other
      cases other
  · exact bumps

theorem receive_report (get : visit.request.method = "GET")
    (page : visit.request.uri.path = "/metrics")
    (accepted : (s.receive t visit).response.status.code = 200) :
    (s.receive t visit).response.body = dataBody (t.report.toValue visit.time) := by
  have found : Route.ofPath? visit.request.uri.path = some .report := by rw [page]; decide
  have answer := (s.detecting visit.detect).answer_get t visit.time get found
  unfold receive at accepted ⊢
  rw [answer, Service.visit, report] at accepted ⊢
  split
  · rfl
  · rename_i rejected
    rw [if_neg rejected] at accepted
    exact absurd accepted (by decide)

end Answers

theorem report_toValue (t : Tally) (time : String) :
    ∃ rate, t.report.toValue time = .object [
      ("requests", .number (.integer (t.shown .requests))),
      ("default_language_used", .number (.integer (t.shown .defaultUsed))),
      ("missing_language", .number (.integer (t.shown .missing))),
      ("policy_fallbacks", .number (.integer (t.shown .fallbacks))),
      ("assembly_failures", .number (.integer (t.shown .failures))),
      ("successes", .number (.integer (t.shown .successes))),
      ("success_rate", rate), ("generated_at", .string time)] :=
  ⟨_, rfl⟩

/-- The counters after any requests, fewer than a word can count, and the report of them. -/
theorem serve_desk_statuses (s : Service) (visits : List Visit)
    (few : visits.length < UInt64.size) :
    let after := s.desk.serve .zero visits
    let shown := after.tally.shown
    let count := fun codes => after.turns.countP (answered codes)
    after.turns.map Turn.question = visits ∧
    shown .successes = count [200] ∧ shown .missing = count [404] ∧
    shown .failures = count [500, 501] ∧
    shown .requests = count [200] + count [404] + count [500, 501] ∧
    ∀ visit,
      ((s.receive after.tally visit).response.status.code = 400 ∨
          visit.request.readsGlossary = false →
        (s.desk.serve .zero (visits ++ [visit])).tally = after.tally) ∧
      (visit.request.method = "GET" → visit.request.uri.path = "/metrics" →
        (s.receive after.tally visit).response.status.code = 200 →
        ∃ rate, (s.receive after.tally visit).response.body =
          dataBody (.object [
            ("requests", .number (.integer ↑(count [200] + count [404] + count [500, 501]))),
            ("default_language_used", .number (.integer ↑(shown .defaultUsed))),
            ("missing_language", .number (.integer ↑(count [404]))),
            ("policy_fallbacks", .number (.integer ↑(shown .fallbacks))),
            ("assembly_failures", .number (.integer ↑(count [500, 501]))),
            ("successes", .number (.integer ↑(count [200]))),
            ("success_rate", rate), ("generated_at", .string visit.time)])) := by
  intro after shown count
  have successes : shown .successes = count [200] :=
    Desk.shown_serve few fun t v => s.count_outcome_receive t v (.inl rfl)
  have missing : shown .missing = count [404] :=
    Desk.shown_serve few fun t v => s.count_outcome_receive t v (.inr (.inl rfl))
  have failures : shown .failures = count [500, 501] :=
    Desk.shown_serve few fun t v => s.count_outcome_receive t v (.inr (.inr rfl))
  have requests : shown .requests = count [200] + count [404] + count [500, 501] := by
    rw [← successes, ← missing, ← failures]
    exact (Desk.balance_serve (d := s.desk) few s.count_requests_receive s.balanced_receive).1
  refine ⟨s.desk.serve_questions .zero visits, successes, missing, failures, requests,
    fun visit => ⟨fun quiet => ?_, fun get page accepted => ?_⟩⟩
  · rw [Desk.serve_append]
    show after.tally.bumpAll (s.receive after.tally visit).bumps = after.tally
    rw [s.bumps_receive_quiet after.tally visit quiet]
    rfl
  · obtain ⟨rate, report⟩ := report_toValue after.tally visit.time
    refine ⟨rate, ?_⟩
    rw [s.receive_report after.tally visit get page accepted, report, ← requests, ← missing,
      ← failures, ← successes]

theorem serve_desk_statuses_greeting :
    let s : Service := ⟨Lookup.greeting, none⟩
    let visit := fun path query =>
      (⟨Locale.ofPath?, "", ⟨"GET", ⟨none, none, path, query⟩, []⟩⟩ : Visit)
    let visits := [visit "/api/v1/translations" (some "path=/de/start"),
      visit "/api/v1/translations" none]
    let after := s.desk.serve .zero visits
    let last := visit "/metrics" none
    visits.length < UInt64.size ∧ after.tally.shown .requests = 1 ∧ after.tally.shown .missing = 0 ∧
      (s.receive after.tally last).response.status.code = 200 ∧
      (s.desk.serve .zero (visits ++ [last])).tally = after.tally ∧
      ∃ members, (s.receive after.tally last).response.body = dataBody (.object members) ∧
        members.take 1 = [("requests", .number (.integer 1))] := by
  intro s visit visits after last
  obtain ⟨-, -, missing, -, requests, next⟩ := s.serve_desk_statuses visits (by decide)
  obtain ⟨quiet, report⟩ := next last
  obtain ⟨rate, body⟩ := report rfl rfl rfl
  have one := requests.trans (show _ = 1 by decide +kernel)
  refine ⟨by decide, one, missing.trans (by decide +kernel), rfl, quiet (.inr (by decide)), _, body,
    ?_⟩
  exact congrArg (fun n : Nat => [("requests", Value.number (.integer n))]) (requests.symm.trans one)

end Service
end Phrasebook.Http
