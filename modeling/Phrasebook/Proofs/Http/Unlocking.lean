import Phrasebook.Proofs.Http.Access
import Phrasebook.Proofs.Settings

/-!
Which keys open the report. What a request shows is compared with the key only if it is visible
ASCII, so a key of visible ASCII opens the report to everyone who shows it, and a key with any other
character opens it to no one, though settings take it and a header field can carry it.
-/
namespace Phrasebook

open Utf8 (Bytes)

theorem Settings.key_of_environment {env : Environment} {settings : Settings}
    (read : Settings.ofEnvironment env = .ok settings) :
    settings.key = (env.text? "API_KEY").filter (· ≠ "") :=
  (Settings.ofEnvironment_eq_ok read).2.2

namespace Http

theorem Request.shows_of_only {request : Request} {name : String} {value : Bytes}
    (only : request.fields.filter (fun field => field.1 = name) = [(name, value)]) :
    request.Shows name value := by
  obtain ⟨before, after, whole, others, -, -⟩ := List.filter_eq_cons_iff.1 only
  exact ⟨before, after, whole, fun field member => by simpa using others field member⟩

namespace Service

theorem isVisible_iff_of_legal {value : Bytes} (legal : value.all Request.isFieldByte = true) :
    isVisible value = true ↔ ∀ b ∈ value, b.toNat < 128 := by
  unfold isVisible
  rw [List.all_eq_true] at legal ⊢
  refine forall₂_congr fun b member => ?_
  have allowed := legal b member
  simp only [Request.isFieldByte, Bool.or_eq_true, Bool.and_eq_true, decide_eq_true_eq] at allowed ⊢
  omega

theorem mayReport_of_high {key : String} (high : ∃ c ∈ key.toList, 128 ≤ c.toNat)
    (request : Request) : mayReport (some key) request = false := by
  by_contra may
  rw [Bool.not_eq_false, mayReport_iff] at may
  obtain free | ⟨_, same, -, visible⟩ := may
  · cases free
  · cases same
    obtain ⟨c, member, above⟩ := high
    have low : ∀ b ∈ Utf8.encode key, b.toNat < 128 := by
      intro b inside
      have allowed := List.all_eq_true.1 visible b inside
      simp only [Bool.or_eq_true, Bool.and_eq_true, decide_eq_true_eq] at allowed
      omega
    have below := (Utf8.forall_encode_lt_iff key).1 low c member
    omega

/-- A key from the environment that a header field can carry opens the report to those who show it
if it is ASCII, and to nobody if it is not. -/
theorem answer_report_of_key (env : Environment) (settings : Settings)
    (read : Settings.ofEnvironment env = .ok settings) (key : String)
    (given : env.text? "API_KEY" = some key) (filled : key ≠ "")
    (legal : (Utf8.encode key).all Request.isFieldByte = true)
    (lookup : Lookup) (t : Tally) (time : String) :
    let s : Service := ⟨lookup, settings.key⟩
    ((∀ c ∈ key.toList, c.toNat < 128) →
      ∀ request : Request, request.method = "GET" → request.uri.path = "/metrics" →
        request.fields.filter (fun field => field.1 = "x-api-key") =
          [("x-api-key", Utf8.encode key)] →
        (s.answer t time request).response.status.code = 200) ∧
    ((∃ c ∈ key.toList, 128 ≤ c.toNat) →
      ∀ request : Request, request.method = "GET" → request.uri.path = "/metrics" →
        (s.answer t time request).response.status.code = 401) := by
  intro s
  have locked : s.key = some key := by
    show settings.key = some key
    rw [Settings.key_of_environment read, given, Option.filter_some_pos (by simpa using filled)]
  constructor
  · intro ascii request get page only
    rw [s.answer_report_code_iff t time get page, mayReport_iff, locked]
    have visible := (isVisible_iff_of_legal legal).2 ((Utf8.forall_encode_lt_iff key).2 ascii)
    exact .inr ⟨key, rfl, Request.shows_of_only only, visible⟩
  · intro high request get page
    have rejected : mayReport s.key request = false := by
      rw [locked]
      exact mayReport_of_high high request
    rw [s.answer_report_of_rejected t time get page rejected]
    rfl

def keyedSettings (key : String) : Settings :=
  ⟨"translations", .english, .reject, .flatten, Settings.standardSocket, some key⟩

def keyedRequest (key : String) : Request :=
  ⟨"GET", ⟨none, none, "/metrics", none⟩, [("x-api-key", Utf8.encode key)]⟩

theorem text?_keyed (key : String) :
    Environment.text? [("API_KEY", Utf8.encode key)] "API_KEY" = some key :=
  Utf8.decode?_encode key

theorem ofEnvironment_keyed {key : String} (filled : key ≠ "") :
    Settings.ofEnvironment [("API_KEY", Utf8.encode key)] = .ok (keyedSettings key) := by
  unfold Settings.ofEnvironment
  rw [text?_keyed, Option.filter_some_pos (by simpa using filled)]
  rfl

theorem make_keyedRequest {key : String}
    (legal : (Utf8.encode key).all Request.isFieldByte = true) :
    Request.make "GET" "/metrics" [(Utf8.encode "X-API-Key", Utf8.encode key)] =
      .ok (keyedRequest key) := by
  have method : Request.isToken "GET" = true := by decide +kernel
  have uri : Uri.parse? "/metrics" = some ⟨none, none, "/metrics", none⟩ := by decide +kernel
  have name : Request.fieldName? (Utf8.encode "X-API-Key") = some "x-api-key" := by decide +kernel
  have fields : Request.fields? [(Utf8.encode "X-API-Key", Utf8.encode key)] =
      .ok [("x-api-key", Utf8.encode key)] := by
    simp only [Request.fields?, name, legal, Bool.not_true, Bool.false_eq_true, if_false]
  simp only [Request.make, method, uri, fields, Bool.not_true, Bool.false_eq_true, if_false]
  rfl

theorem answer_report_of_key_tabbed :
    (Utf8.encode "a\tb").all Request.isFieldByte = true ∧
      Request.make "GET" "/metrics" [(Utf8.encode "X-API-Key", Utf8.encode "a\tb")] =
        .ok (keyedRequest "a\tb") ∧
      (Service.answer ⟨Lookup.greeting, (keyedSettings "a\tb").key⟩ .zero "now"
        (keyedRequest "a\tb")).response.status.code = 200 := by
  have legal : (Utf8.encode "a\tb").all Request.isFieldByte = true := by decide +kernel
  have filled : "a\tb" ≠ "" := by decide
  have ascii : ∀ c ∈ "a\tb".toList, c.toNat < 128 := by simp
  obtain ⟨opened, -⟩ := answer_report_of_key _ _ (ofEnvironment_keyed filled) "a\tb"
    (text?_keyed "a\tb") filled legal Lookup.greeting .zero "now"
  exact ⟨legal, make_keyedRequest legal, opened ascii (keyedRequest "a\tb") rfl rfl rfl⟩

/-- The settings take the key and a request can show it, but is turned away. -/
theorem answer_report_locked_out :
    Settings.ofEnvironment [("API_KEY", Utf8.encode "é")] = .ok (keyedSettings "é") ∧
      (keyedSettings "é").key = some "é" ∧
      (Utf8.encode "é").all Request.isFieldByte = true ∧
      Request.make "GET" "/metrics" [(Utf8.encode "X-API-Key", Utf8.encode "é")] =
        .ok (keyedRequest "é") ∧
      (keyedRequest "é").fields.filter (fun field => field.1 = "x-api-key") =
        [("x-api-key", Utf8.encode "é")] ∧
      (Service.answer ⟨Lookup.greeting, (keyedSettings "é").key⟩ .zero "now"
        (keyedRequest "é")).response.status.code = 401 := by
  have legal : (Utf8.encode "é").all Request.isFieldByte = true := by decide +kernel
  exact ⟨ofEnvironment_keyed (by decide), rfl, legal, make_keyedRequest legal, rfl,
    by decide +kernel⟩

end Service
end Http
end Phrasebook
