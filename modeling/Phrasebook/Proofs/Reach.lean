import Phrasebook.Proofs.Catalog
import Phrasebook.Proofs.Http.Endpoint
import Phrasebook.Proofs.Locale
import Phrasebook.Proofs.Pipeline

/-!
Which locales can be reached. Of the locales in a catalog, pages get glossaries for the default one
and for those whose codes a path can name, as far as their sources can be flattened; the list of
locales has all that are in the catalog.
-/
namespace Phrasebook

namespace Pipeline

variable (catalog : Catalog Source) (defaultLocale : Locale) (policy : Policy)

theorem localeOf_flattening_root :
    (flattening catalog defaultLocale policy).localeOf "/" = defaultLocale := by
  rw [localeOf_flattening, Locale.ofPath?_root, Option.getD_none]

theorem localeOf_flattening_slash {locale : Locale} (shaped : Locale.Shaped locale.code.toList) :
    (flattening catalog defaultLocale policy).localeOf ("/" ++ locale.code) = locale := by
  rw [localeOf_flattening, Locale.ofPath?_slash shaped, Option.getD_some]

theorem localeOf_flattening_cases (pathname : String) :
    let requested := (flattening catalog defaultLocale policy).localeOf pathname
    requested = defaultLocale ∨ Locale.Shaped requested.code.toList := by
  dsimp only
  rw [localeOf_flattening]
  cases named : Locale.ofPath? pathname with
  | none => exact .inl rfl
  | some locale => exact .inr (Locale.shaped_of_ofPath? named)

theorem exists_run_iff (locale : Locale) :
    (∃ pathname g, ((flattening catalog defaultLocale policy).run pathname).result = .ok g ∧
      g.locale = locale) ↔
    (∃ source, catalog.get? locale = some source ∧ source.toValue.Listless) ∧
      (locale = defaultLocale ∨ Locale.Shaped locale.code.toList) := by
  constructor
  · rintro ⟨pathname, g, served, rfl⟩
    obtain ⟨locale, source, asked, get, made⟩ := Lookup.exists_of_run_ok served
    obtain rfl : g.locale = locale := Flatten.locale_of_glossary made
    refine ⟨⟨source, get, (Flatten.exists_glossary_iff _ source).1 ⟨g, made⟩⟩, ?_⟩
    rcases asked with requested | byDefault
    · exact requested ▸ localeOf_flattening_cases catalog defaultLocale policy pathname
    · exact .inl byDefault
  · rintro ⟨⟨source, get, listless⟩, named⟩
    obtain ⟨g, made⟩ := (Flatten.exists_glossary_iff locale source).2 listless
    obtain ⟨pathname, asked⟩ :
        ∃ pathname, (flattening catalog defaultLocale policy).localeOf pathname = locale := by
      rcases named with rfl | shaped
      · exact ⟨"/", localeOf_flattening_root _ _ _⟩
      · exact ⟨_, localeOf_flattening_slash _ _ _ shaped⟩
    refine ⟨pathname, g, ?_, Flatten.locale_of_glossary made⟩
    rw [Lookup.run_of_some (asked ▸ get), asked, Lookup.assemble_result,
      show (flattening catalog defaultLocale policy).strategy.assemble locale source = .ok g from made]
    rfl

end Pipeline

namespace Http

/-- The address of the glossary for the page of a locale. -/
def localeTarget (locale : Locale) : String := "/api/v1/translations?path=/" ++ locale.code

def localeUri (locale : Locale) : Uri :=
  ⟨none, none, "/api/v1/translations", some ("path=" ++ ("/" ++ locale.code))⟩

theorem ofList_slash (code : String) : String.ofList ('/' :: code.toList) = "/" ++ code := by
  rw [String.ofList_cons, String.ofList_toList]
  rfl

theorem localeTarget_eq (locale : Locale) :
    localeTarget locale = Uri.glossaryTarget ('/' :: locale.code.toList) := by
  have front : "/api/v1/translations?path=/" = "/api/v1/translations?path=" ++ "/" := by
    decide +kernel
  calc localeTarget locale
    _ = ("/api/v1/translations?path=" ++ "/") ++ locale.code := congrArg (· ++ locale.code) front
    _ = "/api/v1/translations?path=" ++ ("/" ++ locale.code) := String.append_assoc ..
    _ = Uri.glossaryTarget ('/' :: locale.code.toList) := congrArg _ (ofList_slash _).symm

section Shaped

variable {locale : Locale} (shaped : Locale.Shaped locale.code.toList)
include shaped

theorem toNat_of_mem_path {c : Char} (member : c ∈ '/' :: locale.code.toList) :
    c.toNat = 45 ∨ c.toNat = 47 ∨ 65 ≤ c.toNat ∧ c.toNat ≤ 90 ∨ 97 ≤ c.toNat ∧ c.toNat ≤ 122 := by
  rcases List.mem_cons.1 member with rfl | letter
  · decide
  · have := shaped.toNat_of_mem letter
    omega

theorem parse?_localeTarget : Uri.parse? (localeTarget locale) = some (localeUri locale) := by
  have query : ∀ c ∈ '/' :: locale.code.toList, Uri.isQueryChar c = true := by
    intro c member
    have := toNat_of_mem_path shaped member
    simp [Uri.isQueryChar, Uri.isIn]
    omega
  have short : 26 + 4 * ('/' :: locale.code.toList).length ≤ Uri.lengthLimit := by
    have := shaped.length_le
    rw [List.length_cons, Uri.lengthLimit]
    omega
  rw [localeTarget_eq, Uri.parse?_glossaryTarget_of_query query (Uri.glossaryTarget_fits short),
    ofList_slash, localeUri]

theorem queryPath_localeUri (fields : List (String × Utf8.Bytes)) :
    queryPath (Request.queryBytes ⟨"GET", localeUri locale, fields⟩) = .ok ("/" ++ locale.code) := by
  have pairs : Form.pairs (Utf8.encode ("path=" ++ ("/" ++ locale.code))) =
      [] ++ ("path", "/" ++ locale.code) :: [] := by
    rw [← ofList_slash]
    apply Form.pairs_path_plain
    · intro c member
      have := toNat_of_mem_path shaped member
      omega
    · intro c member
      have codes := toNat_of_mem_path shaped member
      refine ⟨?_, ?_, ?_⟩ <;> rintro rfl <;> exact absurd codes (by decide)
  exact queryPath_of_single pairs (by simp)

end Shaped

namespace Service

variable (s : Service) (t : Tally) (time : String)

theorem answer_locales {request : Request} (get : request.method = "GET")
    (page : request.uri.path = "/api/v1/languages") :
    (s.answer t time request).response.status.code = 200 ∧
      (s.answer t time request).response.body =
        dataBody (.array (s.lookup.catalog.locales.map fun locale => .string locale.code)) := by
  have found : Route.ofPath? request.uri.path = some .locales := by
    rw [page]
    decide
  rw [s.answer_get t time get found, visit, codes, List.map_map]
  exact ⟨rfl, rfl⟩

end Service
end Http

namespace Pipeline

open Http

/-- What can be reached of a catalog, for every default locale: the locales of the glossaries that
pages get, and, when what is missing is rejected, the locales of the list. -/
theorem locales_reached (catalog : Catalog Source) (defaultLocale : Locale) :
    (∀ policy locale,
      (∃ pathname g, ((flattening catalog defaultLocale policy).run pathname).result = .ok g ∧
        g.locale = locale) ↔
      (∃ source, catalog.get? locale = some source ∧ source.toValue.Listless) ∧
        (locale = defaultLocale ∨ Locale.Shaped locale.code.toList)) ∧
    ∀ key, let s : Service := ⟨flattening catalog defaultLocale .reject, key⟩
      (∀ t time request, request.method = "GET" → request.uri.path = "/api/v1/languages" →
        (s.answer t time request).response.status.code = 200 ∧
        (s.answer t time request).response.body =
          dataBody (.array (catalog.locales.map fun locale => .string locale.code))) ∧
      ∀ locale, Locale.Shaped locale.code.toList →
        ∃ uri, Uri.parse? (localeTarget locale) = some uri ∧ ∀ t time fields,
          locale ∈ catalog.locales ↔
            (s.answer t time ⟨"GET", uri, fields⟩).response.status.code ≠ 404 := by
  refine ⟨fun policy => exists_run_iff catalog defaultLocale policy, fun key => ⟨?_, ?_⟩⟩
  · exact fun t time request get page => Service.answer_locales _ t time get page
  · intro locale shaped
    refine ⟨_, parse?_localeTarget shaped, fun t time fields => ?_⟩
    have missing := Service.answer_code_eq_404_iff
      ⟨flattening catalog defaultLocale .reject, key⟩ t time rfl (queryPath_localeUri shaped fields)
    rw [localeOf_flattening_slash _ _ _ shaped] at missing
    rw [Ne, missing, Catalog.mem_locales_iff, Option.isSome_iff_ne_none]
    exact ⟨fun held absent => held absent.1, fun held absent => held ⟨absent, nofun⟩⟩

theorem locales_reached_greeting :
    let l := flattening Lookup.greeting.catalog ⟨"de"⟩ .reject
    let list : Request := ⟨"GET", ⟨none, none, "/api/v1/languages", none⟩, []⟩
    (∃ pathname g, (l.run pathname).result = .ok g ∧ g.locale = ⟨"en"⟩) ∧
    (Service.answer ⟨l, none⟩ .zero "" list).response.body = dataBody (.array [.string "en"]) ∧
    ∃ here there, Uri.parse? "/api/v1/translations?path=/en" = some here ∧
      Uri.parse? "/api/v1/translations?path=/de" = some there ∧ ∀ t time fields,
      (Service.answer ⟨l, none⟩ t time ⟨"GET", here, fields⟩).response.status.code ≠ 404 ∧
      (Service.answer ⟨l, none⟩ t time ⟨"GET", there, fields⟩).response.status.code = 404 := by
  intro l list
  obtain ⟨reached, service⟩ := locales_reached Lookup.greeting.catalog ⟨"de"⟩
  obtain ⟨listed, asked⟩ := service none
  have english : Locale.Shaped (Locale.code ⟨"en"⟩).toList := .short (a := 'e') (b := 'n') rfl rfl
  have german : Locale.Shaped (Locale.code ⟨"de"⟩).toList := .short (a := 'd') (b := 'e') rfl rfl
  obtain ⟨here, parsedHere, found⟩ := asked ⟨"en"⟩ english
  obtain ⟨there, parsedThere, missing⟩ := asked ⟨"de"⟩ german
  refine ⟨(reached .reject ⟨"en"⟩).2 ⟨?_, .inr english⟩, (listed .zero "" list rfl rfl).2,
    here, there, parsedHere, parsedThere,
    fun t time fields => ⟨(found t time fields).1 (by decide), ?_⟩⟩
  · obtain ⟨g, made⟩ : ∃ g, Flatten.glossary ⟨"en"⟩
        (Source.ofMembers [("title", .string "Hello")]) = .ok g := ⟨_, rfl⟩
    exact ⟨_, rfl, (Flatten.exists_glossary_iff _ _).1 ⟨g, made⟩⟩
  · exact Classical.byContradiction fun other =>
      absurd ((missing t time fields).2 other) (by decide)

end Pipeline
end Phrasebook
