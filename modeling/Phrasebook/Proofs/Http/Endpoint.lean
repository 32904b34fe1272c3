import Phrasebook.Proofs.Http.Form
import Phrasebook.Proofs.Http.Service

/-!
What the route for glossaries adds to a lookup: nothing. A query that names one path is answered
with what the lookup for it comes to; any other query is refused before there is a lookup.
-/
namespace Phrasebook.Http

open Json
open Utf8 (Bytes)

def namesPath (pair : String × String) : Bool := pair.1 = "path"

theorem queryPath_of_single {query : Bytes} {before after : List (String × String)} {value : String}
    (pairs : Form.pairs query = before ++ ("path", value) :: after)
    (only : ∀ other ∈ before ++ after, other.1 ≠ "path") : queryPath query = .ok value := by
  have others : ∀ part : List (String × String), (∀ other ∈ part, other ∈ before ++ after) →
      part.filter (fun p => p.1 = "path") = [] := fun part sub =>
    List.filter_eq_nil_iff.2 fun other member => by simpa using only other (sub other member)
  have named : (Form.pairs query).filter (fun p => p.1 = "path") = [("path", value)] := by
    rw [pairs, List.filter_append, List.filter_cons_of_pos (by simp),
      others _ fun _ => List.mem_append_left _, others _ fun _ => List.mem_append_right _]
    rfl
  unfold queryPath
  rw [named]

theorem queryPath_of_count {query : Bytes} (notOne : (Form.pairs query).countP namesPath ≠ 1) :
    queryPath query = .error
      (if (Form.pairs query).countP namesPath = 0 then .missingPath else .repeatedPath) := by
  have length : (Form.pairs query).countP namesPath =
      ((Form.pairs query).filter fun p => p.1 = "path").length := List.countP_eq_length_filter
  unfold queryPath
  rw [length] at notOne ⊢
  generalize (Form.pairs query).filter (fun p => p.1 = "path") = named at notOne ⊢
  match named with
  | [] => rfl
  | [_] => exact absurd rfl notOne
  | _ :: _ :: _ => rfl

/-- Whether a response tells the result of a lookup: the glossary itself, or its fault with the
status that the fault has. -/
def Response.Tells (response : Response) (result : Except LookupFault Glossary) : Prop :=
  match result with
  | .ok glossary => response.status.code = 200 ∧ response.body = dataBody glossary.toValue
  | .error (.noData locale) =>
    response.status.code = 404 ∧
      response.body = errorBody 404 "not found" (LookupFault.noData locale).message
  | .error (.assembly .unimplemented) =>
    response.status.code = 501 ∧
      response.body = errorBody 501 "not implemented" (LookupFault.assembly .unimplemented).message
  | .error (.assembly (.unsupported key kind)) =>
    response.status.code = 500 ∧ response.body =
      errorBody 500 "internal server error" (LookupFault.assembly (.unsupported key kind)).message

theorem Response.tells_ofResult (result : Except LookupFault Glossary) :
    (Response.ofResult result).Tells result := by
  have code := Response.ofResult_code result
  have body := Response.ofResult_body result
  match result with
  | .ok _ => exact ⟨code, body⟩
  | .error (.noData _) => exact ⟨code, body⟩
  | .error (.assembly .unimplemented) => exact ⟨code, body⟩
  | .error (.assembly (.unsupported ..)) => exact ⟨code, body⟩

/-- The answer to a request for a glossary of one who looks glossaries up by `run`. -/
def glossaryBy (run : String → Outcome Glossary) (request : Request) : Answer :=
  match queryPath request.queryBytes with
  | .error fault => ⟨.failure .badRequest fault.message, [], []⟩
  | .ok path => ⟨Response.ofResult (run path).result, (run path).bumps, (run path).events⟩

/-- Whether an answer is what a lookup comes to, and counts and logs what it does. -/
def Answer.Reports (answer : Answer) (outcome : Outcome Glossary) : Prop :=
  answer.response.Tells outcome.result ∧ answer.bumps = outcome.bumps ∧
    answer.events = outcome.events

section Glossary

variable (run : String → Outcome Glossary) {request : Request}

theorem glossaryBy_of_path {path : String} (asked : queryPath request.queryBytes = .ok path) :
    (glossaryBy run request).Reports (run path) := by
  unfold glossaryBy
  rw [asked]
  exact ⟨Response.tells_ofResult _, rfl, rfl⟩

theorem glossaryBy_of_count (notOne : (Form.pairs request.queryBytes).countP namesPath ≠ 1) :
    glossaryBy run request =
      let fault : QueryFault :=
        if (Form.pairs request.queryBytes).countP namesPath = 0 then .missingPath
        else .repeatedPath
      ⟨.failure .badRequest fault.message, [], []⟩ := by
  unfold glossaryBy
  rw [queryPath_of_count notOne]

theorem answer_eq_glossaryBy (s : Service) (t : Tally) (time : String)
    (get : request.method = "GET") (page : request.uri.path = "/api/v1/translations") :
    s.answer t time request = glossaryBy s.lookup.run request := by
  have found := (Service.ofPath?_eq_glossary_iff _).2 page
  rw [s.answer_get t time get found, Service.visit]
  unfold glossaryBy
  cases asked : queryPath request.queryBytes with
  | ok path => rw [s.glossary_of_path asked]
  | error fault => rw [s.glossary_of_fault asked]

end Glossary

end Phrasebook.Http
