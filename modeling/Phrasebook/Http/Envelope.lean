import Phrasebook.Json.Record

/-!
The envelope of every answer: a status code of HTTP, its reason, and either data or the text of an
error.
-/
namespace Phrasebook.Http

open Json

def reasons : List (Nat × String) :=
  [(100, "continue"), (101, "switching protocols"), (102, "processing"), (103, "early hints"),
    (200, "ok"), (201, "created"), (202, "accepted"), (203, "non authoritative information"),
    (204, "no content"), (205, "reset content"), (206, "partial content"), (207, "multi-status"),
    (208, "already reported"), (226, "im used"),
    (300, "multiple choices"), (301, "moved permanently"), (302, "found"), (303, "see other"),
    (304, "not modified"), (305, "use proxy"), (307, "temporary redirect"),
    (308, "permanent redirect"),
    (400, "bad request"), (401, "unauthorized"), (402, "payment required"), (403, "forbidden"),
    (404, "not found"), (405, "method not allowed"), (406, "not acceptable"),
    (407, "proxy authentication required"), (408, "request timeout"), (409, "conflict"),
    (410, "gone"), (411, "length required"), (412, "precondition failed"),
    (413, "payload too large"), (414, "uri too long"), (415, "unsupported media type"),
    (416, "range not satisfiable"), (417, "expectation failed"), (418, "i'm a teapot"),
    (421, "misdirected request"), (422, "unprocessable entity"), (423, "locked"),
    (424, "failed dependency"), (425, "too early"), (426, "upgrade required"),
    (428, "precondition required"), (429, "too many requests"),
    (431, "request header fields too large"), (451, "unavailable for legal reasons"),
    (500, "internal server error"), (501, "not implemented"), (502, "bad gateway"),
    (503, "service unavailable"), (504, "gateway timeout"), (505, "http version not supported"),
    (506, "variant also negotiates"), (507, "insufficient storage"), (508, "loop detected"),
    (510, "not extended"), (511, "network authentication required")]

structure Status where
  code : Nat
  three_digits : 100 ≤ code ∧ code ≤ 999 := by decide
  deriving DecidableEq, Repr

namespace Status

def ofNat? (n : Nat) : Option Status := if h : 100 ≤ n ∧ n ≤ 999 then some ⟨n, h⟩ else none

def reason (s : Status) : String := (reasons.lookup s.code).getD "unknown"

def ok : Status := ⟨200, by decide⟩
def badRequest : Status := ⟨400, by decide⟩
def unauthorized : Status := ⟨401, by decide⟩
def notFound : Status := ⟨404, by decide⟩
def methodNotAllowed : Status := ⟨405, by decide⟩
def internalError : Status := ⟨500, by decide⟩
def notImplemented : Status := ⟨501, by decide⟩

end Status

structure Envelope (α : Type) where
  code : UInt16
  message : String
  data : Option α
  error : Option String
  deriving DecidableEq, Repr

namespace Envelope

variable {α : Type}

def success (data : α) : Envelope α :=
  ⟨Status.ok.code.toUInt16, Status.ok.reason, some data, none⟩

def failure (status : Status) (error : String) : Envelope α :=
  ⟨status.code.toUInt16, status.reason, none, some error⟩

def optional (name : String) (v : Option Value) : List (String × Value) :=
  match v with
  | none => []
  | some v => [(name, v)]

def toValue (data : α → Value) (e : Envelope α) : Value :=
  .object ([("code", .number (.integer e.code.toNat)), ("message", .string e.message)] ++
    optional "data" (e.data.map data) ++ optional "error" (e.error.map .string))

def fields (data : Reader Value) : List Field :=
  [⟨"code", word16, none⟩, ⟨"message", text, none⟩, ⟨"data", nullable data, some .null⟩,
    ⟨"error", nullable text, some .null⟩]

def notNull? (f : Value → Option α) : Value → Option (Option α)
  | .null => some none
  | v => (f v).map some

def ofValue? (data : Value → Option α) : Value → Option (Envelope α)
  | .object [(_, .number (.integer code)), (_, .string message), (_, d), (_, e)] => do
    let error ← notNull? (fun v => match v with | .string s => some s | _ => none) e
    return ⟨code.toNat.toUInt16, message, ← notNull? data d, error⟩
  | _ => none

def reader (read : Reader Value) (data : Value → Option α) : Reader (Envelope α) :=
  (record "an envelope" (fields read)).into "an envelope" (ofValue? data)

end Envelope

structure Health where
  status : String
  locales : List String
  deriving DecidableEq, Repr

namespace Health

def toValue (h : Health) : Value :=
  .object [("status", .string h.status), ("languages", .array (h.locales.map .string))]

def ofValue? : Value → Option Health
  | .object [(_, .string status), (_, locales)] => (strings? locales).map (⟨status, ·⟩)
  | _ => none

def reader : Reader Health :=
  (record "a health status" [⟨"status", text, none⟩, ⟨"languages", listOf text, none⟩]).into
    "a health status" ofValue?

end Health
end Phrasebook.Http
