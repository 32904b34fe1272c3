import Phrasebook.Http.Envelope
import Phrasebook.Http.Request
import Phrasebook.Http.Uri
import Phrasebook.Lookup

/-!
The service: which requests are answered, and how. There are four routes, matched as they are
written; `GET` and `HEAD` are answered on them, the latter without a body. A request for a
glossary is one lookup, and only that changes the counters; the counters themselves are shown to
those who have the key, if there is one.
-/
namespace Phrasebook.Http

open Json
open Utf8 (Bytes)

inductive Route where
  | health
  | locales
  | glossary
  | report
  deriving DecidableEq, Repr

namespace Route

def path : Route → String
  | health => "/health"
  | locales => "/api/v1/languages"
  | glossary => "/api/v1/translations"
  | report => "/metrics"

def all : List Route := [health, locales, glossary, report]

def ofPath? (path : String) : Option Route := all.find? fun route => route.path = path

end Route

structure Response where
  status : Status
  contentType : Option String
  allow : Option String
  body : String
  deriving DecidableEq, Repr

namespace Response

def json (status : Status) (v : Value) : Response := ⟨status, some "application/json", none, v.text⟩

def success (data : Value) : Response := json .ok ((Envelope.success data).toValue id)

def failure (status : Status) (error : String) : Response :=
  json status ((Envelope.failure status error : Envelope Value).toValue id)

def notFound : Response := ⟨.notFound, none, none, ""⟩

def methodNotAllowed : Response := ⟨.methodNotAllowed, none, some "GET,HEAD", ""⟩

def withoutBody (r : Response) : Response := { r with body := "" }

end Response

inductive QueryFault where
  | missingPath
  | repeatedPath
  deriving DecidableEq, Repr

def QueryFault.message : QueryFault → String
  | .missingPath => "Failed to deserialize query string: missing field `path`"
  | .repeatedPath => "Failed to deserialize query string: duplicate field `path`"

def queryPath (query : Bytes) : Except QueryFault String :=
  match (Form.pairs query).filter fun p => p.1 = "path" with
  | [] => .error .missingPath
  | [(_, path)] => .ok path
  | _ => .error .repeatedPath

def statusOf : LookupFault → Status
  | .noData _ => .notFound
  | .assembly .unimplemented => .notImplemented
  | .assembly (.unsupported ..) => .internalError

structure Service where
  lookup : Lookup
  /-- Who wants to see the counters has to show this. -/
  key : Option String

structure Answer where
  response : Response
  bumps : List Counter
  events : List Event

namespace Service

def keyField : String := "x-api-key"

/-- Whether the value of a field is text of the visible sort: ASCII without controls but the
tabulator. -/
def isVisible (value : Bytes) : Bool :=
  value.all fun b => b.toNat = 9 || (32 ≤ b.toNat && b.toNat < 127)

/-- Whether two keys are the same. Keys of different lengths are told apart at once; of keys of one
length every byte is looked at, whatever came out for those before it. -/
def sameKey (shown key : Bytes) : Bool :=
  if shown.length ≠ key.length then false
  else (shown.zip key).foldl (fun same pair => same && pair.1 == pair.2) true

def mayReport (key : Option String) (request : Request) : Bool :=
  match key with
  | none => true
  | some key =>
    match request.field? keyField with
    | none => false
    | some shown => isVisible shown && sameKey shown (Utf8.encode key)

def codes (s : Service) : List String := s.lookup.catalog.locales.map (·.code)

def glossary (s : Service) (request : Request) : Answer :=
  match queryPath (Utf8.encode (request.uri.query.getD "")) with
  | .error fault => ⟨.failure .badRequest fault.message, [], []⟩
  | .ok path =>
    let outcome := s.lookup.run path
    let response :=
      match outcome.result with
      | .ok g => .success g.toValue
      | .error fault => .failure (statusOf fault) fault.message
    ⟨response, outcome.bumps, outcome.events⟩

def report (s : Service) (tally : Tally) (time : String) (request : Request) : Answer :=
  if mayReport s.key request then ⟨.success (tally.report.toValue time), [], []⟩
  else ⟨.failure .unauthorized "invalid or missing API key", [], [.keyRejected]⟩

def visit (s : Service) (tally : Tally) (time : String) (request : Request) : Route → Answer
  | .health => ⟨.success (Health.toValue ⟨"ok", s.codes⟩), [], []⟩
  | .locales => ⟨.success (.array (s.codes.map .string)), [], []⟩
  | .glossary => s.glossary request
  | .report => s.report tally time request

def answer (s : Service) (tally : Tally) (time : String) (request : Request) : Answer :=
  match Route.ofPath? request.uri.path with
  | none => ⟨.notFound, [], []⟩
  | some route =>
    if request.method = "GET" then s.visit tally time request route
    else if request.method = "HEAD" then
      let a := s.visit tally time request route
      { a with response := a.response.withoutBody }
    else ⟨.methodNotAllowed, [], []⟩

end Service
end Phrasebook.Http
