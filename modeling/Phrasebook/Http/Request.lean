import Phrasebook.Http.Uri
import Phrasebook.Text.Utf8

/-!
Requests. A method and the names of header fields are tokens, and a value of a header field holds
no controls but the tabulator; names of fields are compared without regard to case.
-/
namespace Phrasebook.Http

open Utf8 (Bytes)

inductive RequestFault where
  | method
  | uri
  | fieldName
  | fieldValue
  deriving DecidableEq, Repr

def RequestFault.message : RequestFault → String
  | .method => "method"
  | .uri => "uri"
  | .fieldName => "header name"
  | .fieldValue => "header value"

structure Request where
  method : String
  uri : Uri
  /-- Header fields in the order given, with names in small letters. -/
  fields : List (String × Bytes)
  deriving DecidableEq, Repr

namespace Request

def isTokenChar (c : Char) : Bool :=
  c.isAlphanum || "!#$%&*+-.^_|~\x27\x60".toList.contains c

def isToken (s : String) : Bool := s ≠ "" && s.toList.all isTokenChar

def isFieldByte (b : UInt8) : Bool := b.toNat = 9 || (32 ≤ b.toNat && b.toNat ≠ 127)

def fieldNameLimit : Nat := 65535

def fieldName? (name : Bytes) : Option String :=
  match Utf8.decode? name with
  | none => none
  | some s =>
    if isToken s && s.length ≤ fieldNameLimit then
      some (String.ofList (s.toList.map Char.toLower))
    else none

def fields? : List (Bytes × Bytes) → Except RequestFault (List (String × Bytes))
  | [] => .ok []
  | (name, value) :: rest =>
    match fieldName? name with
    | none => .error .fieldName
    | some name =>
      if !value.all isFieldByte then .error .fieldValue
      else
        match fields? rest with
        | .error fault => .error fault
        | .ok more => .ok ((name, value) :: more)

def make (method uri : String) (fields : List (Bytes × Bytes)) : Except RequestFault Request :=
  if !isToken method then .error .method
  else
    match Uri.parse? uri with
    | none => .error .uri
    | some uri =>
      match fields? fields with
      | .error fault => .error fault
      | .ok fields => .ok ⟨method, uri, fields⟩

def field? (r : Request) (name : String) : Option Bytes := r.fields.lookup name

end Request
end Phrasebook.Http
