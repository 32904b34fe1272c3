import Phrasebook.Proofs.Catalog
import Phrasebook.Proofs.Http.Endpoint
import Phrasebook.Proofs.Settings
import Phrasebook.Proofs.Survey
import Phrasebook.Startup

/-!
What the log of a start tells of the requests to come. That the default locale has no source is
warned about exactly when a page that names no locale gets no glossary; when nothing was found no
page gets one.
-/
namespace Phrasebook

namespace Event

theorem eq_defaultAbsent {e : Event} (warning : e.level = .warn)
    (words : e.message = "Default language has no translation module") :
    ∃ locale, e = .defaultAbsent locale := by
  unfold message at words
  cases e with
  | defaultAbsent locale => exact ⟨locale, rfl⟩
  -- The words of these depend on their data, but they are no warnings.
  | indexed | ready => cases warning
  | _ =>
    dsimp only at words
    exact absurd words (by decide)

theorem eq_nothingFound {e : Event} (warning : e.level = .warn)
    (words : e.message = "No translation modules found") : ∃ root, e = .nothingFound root := by
  unfold message at words
  cases e with
  | nothingFound root => exact ⟨root, rfl⟩
  | indexed | ready => cases warning
  | _ =>
    dsimp only at words
    exact absurd words (by decide)

end Event

namespace Survey

def LogsDiscovery (s : Survey) : Prop :=
  ∀ e ∈ s.events, e.origin = "translation_resolver::i18n::discovery"

theorem logs_of_silent {s : Survey} (silent : s.events = []) : s.LogsDiscovery := by
  intro e member
  rw [silent] at member
  exact absurd member List.not_mem_nil

theorem logs_append {first second : Survey} (one : first.LogsDiscovery)
    (two : second.LogsDiscovery) : (first.append second).LogsDiscovery := by
  unfold append
  split
  · exact one
  · intro e member
    exact (List.mem_append.1 member).elim (one e) (two e)

theorem logs_concat {surveys : List Survey} (each : ∀ s ∈ surveys, s.LogsDiscovery) :
    (concat surveys).LogsDiscovery := by
  induction surveys with
  | nil => exact logs_of_silent rfl
  | cons first rest ih =>
    exact logs_append (each first List.mem_cons_self)
      (ih fun s member => each s (List.mem_cons_of_mem _ member))

theorem logs_warning {e : Event} (own : e.origin = "translation_resolver::i18n::discovery") :
    (warning e).LogsDiscovery := by
  intro other member
  rw [List.mem_singleton.1 member]
  exact own

theorem logs_ofModule (read : Readers) (folder file : String) (extension : Option Name)
    (content : Utf8.Bytes) : (ofModule read folder file extension content).LogsDiscovery := by
  unfold ofModule
  split
  · exact logs_warning rfl
  · split
    · exact logs_of_silent rfl
    · split
      · exact logs_warning rfl
      · split <;> exact logs_of_silent rfl

theorem logs_ofLeaf (read : Readers) (folder shownFolder : String) (entry : Name × Leaf) :
    (ofLeaf read folder shownFolder entry).LogsDiscovery := by
  unfold ofLeaf
  split
  · exact logs_of_silent rfl
  · dsimp only
    split
    · exact logs_ofModule _ _ _ _ _
    · exact logs_of_silent rfl

theorem logs_ofBranch (read : Readers) (root : String) (entry : Name × Branch) :
    (ofBranch read root entry).LogsDiscovery := by
  unfold ofBranch
  split
  · exact logs_of_silent rfl
  · dsimp only
    split
    · exact logs_warning rfl
    · refine logs_concat fun s member => ?_
      obtain ⟨leaf, -, rfl⟩ := List.mem_map.1 member
      exact logs_ofLeaf _ _ _ _

theorem logs_ofListing (read : Readers) (root : String) (listing : Listing) :
    (ofListing read root listing).LogsDiscovery := by
  have branches : (concat (listing.map (ofBranch read root))).LogsDiscovery := by
    refine logs_concat fun s member => ?_
    obtain ⟨branch, -, rfl⟩ := List.mem_map.1 member
    exact logs_ofBranch _ _ _
  unfold ofListing
  dsimp only
  split
  · exact branches
  · intro e member
    rcases List.mem_append.1 member with before | last
    · exact branches e before
    · rw [List.mem_singleton.1 last]
      rfl

theorem logs_ofSeen (read : Readers) (root : String) (seen : Except ReadFault Listing) :
    (ofSeen read root seen).LogsDiscovery := by
  unfold ofSeen
  split
  · exact logs_of_silent rfl
  · exact logs_ofListing _ _ _

end Survey

namespace Startup

def warns (startup : Startup) (words : String) : Bool :=
  startup.events.any fun e => e.level = .warn && e.message = words

/-- Whether a start warns, for itself and not for its parts, of what there is to remark on a
catalog, and of nothing else. -/
def Remarks (startup : Startup) (chosen : Settings) (catalog : Catalog Source) : Prop :=
  ∀ e : Event, e.level = .warn → e.origin = "translation_resolver" →
    (e ∈ startup.events ↔ e ∈ remarks chosen catalog)

theorem remarks_of_parts {startup : Startup} {chosen : Settings} {catalog : Catalog Source}
    {parts : List Event} (logged : startup.events = .starting :: parts ++ remarks chosen catalog)
    (others : ∀ e ∈ parts, e.origin ≠ "translation_resolver") :
    startup.Remarks chosen catalog := by
  intro e warning own
  rw [logged, List.mem_append]
  refine ⟨fun member => member.resolve_left fun early => ?_, .inr⟩
  rcases List.mem_cons.1 early with rfl | early
  · cases warning
  · exact others e early own

theorem withListing_eq_ok {chosen : Settings} {seen : Except ReadFault Listing}
    {service : Http.Service} (served : (withListing chosen seen).result = .ok service) :
    ∃ catalog, service = ⟨lookupOf chosen catalog, chosen.key⟩ ∧
      (withListing chosen seen).Remarks chosen catalog := by
  unfold withListing at served ⊢
  dsimp only at served ⊢
  have logs := Survey.logs_ofSeen Format.read chosen.folder seen
  generalize Survey.ofSeen Format.read chosen.folder seen = survey at served logs ⊢
  cases result : survey.result with
  | error fault =>
    rw [result] at served
    cases served
  | ok found =>
    rw [result] at served
    cases served
    -- The survey and the catalog warn in their own names.
    have parts : ∀ e ∈ survey.events ++ Catalog.warnings found,
        e.origin ≠ "translation_resolver" := by
      intro e member
      rcases List.mem_append.1 member with surveyed | warned
      · rw [logs e surveyed]
        decide
      · obtain ⟨_, _, rfl, _⟩ | ⟨_, _, _, rfl⟩ := Catalog.mem_warnings warned <;>
          simp [Event.origin]
    exact ⟨Catalog.ofFound found, rfl, remarks_of_parts rfl parts⟩

theorem warns_iff {startup : Startup} {words : String} :
    startup.warns words = true ↔ ∃ e ∈ startup.events, e.level = .warn ∧ e.message = words := by
  simp [warns]

theorem defaultAbsent_mem_remarks {chosen : Settings} {catalog : Catalog Source} {locale : Locale} :
    .defaultAbsent locale ∈ remarks chosen catalog ↔
      catalog.get? chosen.defaultLocale = none ∧ locale = chosen.defaultLocale := by
  have held : catalog.contains chosen.defaultLocale =
      (catalog.get? chosen.defaultLocale).isSome := rfl
  cases get : catalog.get? chosen.defaultLocale <;> simp [remarks, held, get]

theorem nothingFound_mem_remarks {chosen : Settings} {catalog : Catalog Source} {root : String} :
    .nothingFound root ∈ remarks chosen catalog ↔
      catalog.isEmpty = true ∧ root = chosen.folder := by
  cases empty : catalog.isEmpty <;> simp [remarks, empty]

section Remarks

variable {startup : Startup} {chosen : Settings} {catalog : Catalog Source}
  (remarked : startup.Remarks chosen catalog)
include remarked

theorem warns_defaultAbsent_iff :
    startup.warns "Default language has no translation module" = true ↔
      catalog.get? chosen.defaultLocale = none := by
  rw [warns_iff]
  constructor
  · rintro ⟨e, member, warning, words⟩
    obtain ⟨locale, rfl⟩ := Event.eq_defaultAbsent warning words
    rw [remarked _ rfl rfl, defaultAbsent_mem_remarks] at member
    exact member.1
  · intro absent
    refine ⟨.defaultAbsent chosen.defaultLocale, ?_, rfl, rfl⟩
    rw [remarked _ rfl rfl, defaultAbsent_mem_remarks]
    exact ⟨absent, rfl⟩

theorem get?_of_warns_nothingFound
    (warned : startup.warns "No translation modules found" = true) (locale : Locale) :
    catalog.get? locale = none := by
  obtain ⟨e, member, warning, words⟩ := warns_iff.1 warned
  obtain ⟨root, rfl⟩ := Event.eq_nothingFound warning words
  rw [remarked _ rfl rfl, nothingFound_mem_remarks] at member
  have none : catalog.byCode.entries = [] := List.isEmpty_iff.1 member.1
  rw [Catalog.get?, Table.get?, none]
  rfl

end Remarks

end Startup

namespace Http

namespace Service

variable (s : Service) (t : Tally) (time : String) {request : Request}

theorem answer_code_of_not_readsGlossary (page : request.uri.path = "/api/v1/translations")
    (other : request.readsGlossary = false) :
    (s.answer t time request).response.status.code = 405 := by
  simp only [Request.readsGlossary, page, decide_true, Bool.and_true, Bool.or_eq_false_iff,
    decide_eq_false_iff_not] at other
  unfold answer
  rw [(ofPath?_eq_glossary_iff _).2 page]
  dsimp only
  rw [if_neg other.1, if_neg other.2]
  rfl

end Service

def Request.ofRoot (fields : List (String × Utf8.Bytes)) : Request :=
  ⟨"GET", ⟨none, none, "/api/v1/translations", some "path=/"⟩, fields⟩

namespace Request

variable (fields : List (String × Utf8.Bytes))

theorem parse?_ofRoot : Uri.parse? "/api/v1/translations?path=/" = some (ofRoot fields).uri := by
  show _ = some (⟨none, none, "/api/v1/translations", some "path=/"⟩ : Uri)
  decide +kernel

theorem readsGlossary_ofRoot : (ofRoot fields).readsGlossary = true := by
  simp [readsGlossary, ofRoot]

theorem queryPath_ofRoot : queryPath (ofRoot fields).queryBytes = .ok "/" := by
  have pairs : Form.pairs (Utf8.encode "path=/") = [] ++ ("path", "/") :: [] := by decide +kernel
  exact queryPath_of_single pairs (by simp)

end Request
end Http

namespace Startup

theorem localeOf_root (chosen : Settings) (catalog : Catalog Source) :
    (lookupOf chosen catalog).localeOf "/" = chosen.defaultLocale := by
  rw [Lookup.localeOf_of_detect rfl, Locale.ofPath?_root]
  rfl

open Http in
/-- The warnings of a start that succeeds tell which requests for glossaries find nothing, whatever
the environment, the file of settings and the folder of sources. -/
theorem warnings_exact (env : Environment) (file : Option Utf8.Bytes)
    (look : String → Except ReadFault Listing) (chosen : Settings) (service : Service)
    (accepted : settings env file = .ok chosen)
    (served : (seeing env file look).result = .ok service) :
    let defaultAbsent :=
      (seeing env file look).warns "Default language has no translation module" = true
    (∃ uri, Uri.parse? "/api/v1/translations?path=/" = some uri ∧ ∀ t time fields,
      defaultAbsent ↔ (service.answer t time ⟨"GET", uri, fields⟩).response.status.code = 404) ∧
    (¬defaultAbsent → chosen.policy = .fallback → ∀ t time request path,
      request.uri.path = "/api/v1/translations" → queryPath request.queryBytes = .ok path →
      (service.answer t time request).response.status.code ≠ 404) ∧
    ((seeing env file look).warns "No translation modules found" = true →
      ∀ t time request path, request.readsGlossary = true →
      queryPath request.queryBytes = .ok path →
      (service.answer t time request).response.status.code = 404) := by
  have starts : seeing env file look = withListing chosen (look chosen.folder) := by
    unfold seeing
    rw [accepted]
  rw [starts] at served ⊢
  obtain ⟨catalog, rfl, remarked⟩ := withListing_eq_ok served
  have absent := warns_defaultAbsent_iff remarked
  refine ⟨⟨_, Request.parse?_ofRoot [], fun t time fields => ?_⟩, ?_, ?_⟩
  · rw [absent, show (⟨"GET", (Request.ofRoot []).uri, fields⟩ : Request) = .ofRoot fields from rfl,
      Service.answer_code_eq_404_iff _ _ _ (Request.readsGlossary_ofRoot fields)
        (Request.queryPath_ofRoot fields), localeOf_root]
    -- The page names no locale, so what it asks for is what it would fall back on.
    exact ⟨fun none => ⟨none, fun _ => none⟩, And.left⟩
  · intro notAbsent fallback t time request path page asked
    cases reads : request.readsGlossary with
    | false =>
      rw [Service.answer_code_of_not_readsGlossary _ _ _ page reads]
      decide
    | true =>
      rw [Ne, Service.answer_code_eq_404_iff _ _ _ reads asked]
      exact fun ⟨_, nowhere⟩ => notAbsent (absent.2 (nowhere fallback))
  · intro warned t time request path reads asked
    have none := get?_of_warns_nothingFound remarked warned
    exact (Service.answer_code_eq_404_iff _ _ _ reads asked).2 ⟨none _, fun _ => none _⟩

def here : Environment :=
  [("TRANSLATIONS_DIR", Utf8.encode "."), ("MISSING_LANGUAGE_POLICY", Utf8.encode "fallback")]

theorem settings_here :
    settings here none = .ok ⟨".", .english, .fallback, .flatten, 8080, none⟩ := by
  apply Settings.eq_ok_of_toOption
  decide +kernel

theorem events_inEnglish :
    (withListing ⟨".", .english, .fallback, .flatten, 8080, none⟩
      (Survey.inEnglish.listing [] (Utf8.encode "."))).events =
        [.starting, .surveyed "." 1, .indexed [.english], .ready .flatten .fallback] := by decide +kernel

theorem result_inEnglish :
    ∃ service, (withListing ⟨".", .english, .fallback, .flatten, 8080, none⟩
      (Survey.inEnglish.listing [] (Utf8.encode "."))).result = .ok service :=
  Survey.exists_of_isOk (by decide +kernel)

theorem warnings_exact_inEnglish :
    let look := fun folder => Survey.inEnglish.listing [] (Utf8.encode folder)
    let nothing := fun _ => .ok []
    ∃ chosen service idle, settings here none = .ok chosen ∧
      (seeing here none look).result = .ok service ∧
      (seeing here none nothing).result = .ok idle ∧
      ∀ t time fields,
        (service.answer t time (.ofRoot fields)).response.status.code ≠ 404 ∧
        (idle.answer t time (.ofRoot fields)).response.status.code = 404 := by
  intro look nothing
  have starts : ∀ seen, seeing here none seen =
      withListing ⟨".", .english, .fallback, .flatten, 8080, none⟩ (seen ".") := by
    intro seen
    unfold seeing
    rw [settings_here]
  obtain ⟨service, served⟩ := result_inEnglish
  rw [← starts look] at served
  obtain ⟨idle, resting⟩ : ∃ idle, (seeing here none nothing).result = .ok idle := by
    rw [starts]
    exact ⟨_, rfl⟩
  refine ⟨_, service, idle, settings_here, served, resting, fun t time fields => ⟨?_, ?_⟩⟩
  · obtain ⟨-, found, -⟩ := warnings_exact here none look _ service settings_here served
    have silent : ¬(seeing here none look).warns "Default language has no translation module" =
        true := by
      rw [starts look, warns, events_inEnglish]
      decide +kernel
    exact found silent rfl t time _ _ rfl (Http.Request.queryPath_ofRoot fields)
  · obtain ⟨-, -, never⟩ := warnings_exact here none nothing _ idle settings_here resting
    have warned : (seeing here none nothing).warns "No translation modules found" = true := by
      rw [starts]
      decide +kernel
    exact never warned t time _ _ (Http.Request.readsGlossary_ofRoot fields)
      (Http.Request.queryPath_ofRoot fields)

end Startup
end Phrasebook
