import Phrasebook.Http.Service
import Phrasebook.Proofs.Lookup

/-!
What requests are answered with. A request that reads a glossary is one lookup, whose result decides
the answer alone; all other requests count nothing.
-/
namespace Phrasebook.Http

open Json

def dataBody (data : Value) : String :=
  (Value.object [("code", .number (.integer 200)), ("message", .string "ok"), ("data", data)]).text

def errorBody (code : Nat) (reason error : String) : String :=
  (Value.object [("code", .number (.integer code)), ("message", .string reason),
    ("error", .string error)]).text

namespace Response

def ofResult : Except LookupFault Glossary → Response
  | .ok g => success g.toValue
  | .error fault => failure (statusOf fault) fault.message

theorem ofResult_code (result : Except LookupFault Glossary) :
    (ofResult result).status.code =
      match result with
      | .ok _ => 200
      | .error (.noData _) => 404
      | .error (.assembly .unimplemented) => 501
      | .error (.assembly (.unsupported ..)) => 500 := by
  match result with
  | .ok _ => rfl
  | .error (.noData _) => rfl
  | .error (.assembly .unimplemented) => rfl
  | .error (.assembly (.unsupported ..)) => rfl

theorem ofResult_body (result : Except LookupFault Glossary) :
    (ofResult result).body =
      match result with
      | .ok g => dataBody g.toValue
      | .error (.noData locale) => errorBody 404 "not found" (LookupFault.noData locale).message
      | .error (.assembly .unimplemented) => errorBody 501 "not implemented" "todo"
      | .error (.assembly (.unsupported key kind)) =>
        errorBody 500 "internal server error" (AssemblyFault.unsupported key kind).message := by
  match result with
  | .ok _ => rfl
  | .error (.noData _) => rfl
  | .error (.assembly .unimplemented) => rfl
  | .error (.assembly (.unsupported ..)) => rfl

theorem ofResult_code_eq_404_iff (result : Except LookupFault Glossary) :
    (ofResult result).status.code = 404 ↔ ∃ locale, result = .error (.noData locale) := by
  rw [ofResult_code]
  match result with
  | .ok _ => simp
  | .error (.noData _) => simp
  | .error (.assembly .unimplemented) => simp
  | .error (.assembly (.unsupported ..)) => simp

end Response

namespace Request

/-- Whether a request reads a glossary. -/
def readsGlossary (r : Request) : Bool :=
  (r.method = "GET" || r.method = "HEAD") && r.uri.path = "/api/v1/translations"

def queryBytes (r : Request) : Utf8.Bytes := Utf8.encode (r.uri.query.getD "")

end Request

namespace Service

variable (s : Service) (tally : Tally) (time : String) {request : Request}

theorem glossary_of_path {path : String} (asked : queryPath request.queryBytes = .ok path) :
    s.glossary request =
      ⟨Response.ofResult (s.lookup.run path).result, (s.lookup.run path).bumps,
        (s.lookup.run path).events⟩ := by
  unfold glossary
  rw [show Utf8.encode (request.uri.query.getD "") = request.queryBytes from rfl, asked]
  dsimp only
  cases (s.lookup.run path).result <;> rfl

theorem glossary_of_fault {fault : QueryFault} (bad : queryPath request.queryBytes = .error fault) :
    s.glossary request = ⟨.failure .badRequest fault.message, [], []⟩ := by
  unfold glossary
  rw [show Utf8.encode (request.uri.query.getD "") = request.queryBytes from rfl, bad]

theorem answer_get {route : Route} (get : request.method = "GET")
    (found : Route.ofPath? request.uri.path = some route) :
    s.answer tally time request = s.visit tally time request route := by
  unfold answer
  rw [found]
  simp [get]

theorem answer_head {route : Route} (head : request.method = "HEAD")
    (found : Route.ofPath? request.uri.path = some route) :
    s.answer tally time request =
      { s.visit tally time request route with
        response := (s.visit tally time request route).response.withoutBody } := by
  unfold answer
  rw [found]
  simp [head]

theorem ofPath?_eq_glossary_iff (path : String) :
    Route.ofPath? path = some .glossary ↔ path = "/api/v1/translations" := by
  refine ⟨fun h => ?_, fun h => h ▸ by decide⟩
  have := List.find?_some h
  simpa [Route.path, eq_comm] using this

/-- The counters and the status of an answer to a request that reads a glossary. -/
theorem answer_of_readsGlossary (reads : request.readsGlossary = true) :
    (s.answer tally time request).bumps = (s.glossary request).bumps ∧
      (s.answer tally time request).events = (s.glossary request).events ∧
      (s.answer tally time request).response.status = (s.glossary request).response.status := by
  simp only [Request.readsGlossary, Bool.and_eq_true, Bool.or_eq_true, decide_eq_true_eq] at reads
  obtain ⟨method, page⟩ := reads
  have found := (ofPath?_eq_glossary_iff _).2 page
  rcases method with get | head
  · rw [s.answer_get tally time get found, visit]
    exact ⟨rfl, rfl, rfl⟩
  · rw [s.answer_head tally time head found]
    simp only [visit, Response.withoutBody, and_self]

theorem answer_code_eq_404_iff {path : String} (reads : request.readsGlossary = true)
    (asked : queryPath request.queryBytes = .ok path) :
    (s.answer tally time request).response.status.code = 404 ↔
      s.lookup.catalog.get? (s.lookup.localeOf path) = none ∧
        (s.lookup.policy = .fallback → s.lookup.catalog.get? s.lookup.defaultLocale = none) := by
  rw [(s.answer_of_readsGlossary tally time reads).2.2, s.glossary_of_path asked,
    Response.ofResult_code_eq_404_iff, Lookup.comesToNothing_iff]

theorem bumps_of_not_readsGlossary (other : request.readsGlossary = false) :
    (s.answer tally time request).bumps = [] := by
  have visits : ∀ route, route ≠ .glossary → (s.visit tally time request route).bumps = [] := by
    intro route ne
    match route with
    | .health => rfl
    | .locales => rfl
    | .report =>
      simp only [visit, report]
      split <;> rfl
    | .glossary => exact absurd rfl ne
  unfold answer
  split
  · rfl
  · rename_i route found
    by_cases page : route = .glossary
    · rw [page, ofPath?_eq_glossary_iff] at found
      simp only [Request.readsGlossary, found, decide_true, Bool.and_true, Bool.or_eq_false_iff,
        decide_eq_false_iff_not] at other
      simp [other]
    · split
      · exact visits route page
      · split
        · exact visits route page
        · rfl

end Service
end Phrasebook.Http
