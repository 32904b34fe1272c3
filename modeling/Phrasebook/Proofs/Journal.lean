import Phrasebook.Proofs.Conservation

/-!
The log next to the counters. A lookup that finds no source, or whose source cannot be assembled,
logs that and counts it, each in a place of its own. Over any use of a lookup the two agree, and the
log of one lookup tells first what was missing and then what became of the source that was taken.
-/
namespace Phrasebook

namespace Event

def lacksSource : Event → Bool
  | noData _ | fellBack .. | noFallback .. => true
  | _ => false

def failsAssembly : Event → Bool
  | notAssembled .. => true
  | _ => false

def tellsEmpty : Event → Bool
  | emptyGlossary _ => true
  | _ => false

def Names (e : Event) (locale : Locale) : Prop := e.fields.lookup "language" = some locale.code

end Event

/-- Some bumps and the events that are logged with them tell the same. -/
structure Told (bumps : List Counter) (events : List Event) : Prop where
  lacking : events.countP Event.lacksSource = bumps.count .missing + bumps.count .fallbacks
  failing : events.countP Event.failsAssembly = bumps.count .failures
  kinds : ∀ e ∈ events,
    e.level = .warn ∧ (e.lacksSource || e.failsAssembly || e.tellsEmpty) = true

namespace Told

theorem nil : Told [] [] := ⟨rfl, rfl, by simp⟩

theorem append {bumps bumps' : List Counter} {events events' : List Event}
    (first : Told bumps events) (second : Told bumps' events') :
    Told (bumps ++ bumps') (events ++ events') := by
  obtain ⟨lacking, failing, kinds⟩ := first
  obtain ⟨lacking', failing', kinds'⟩ := second
  constructor
  · simp only [List.countP_append, List.count_append]
    omega
  · simp only [List.countP_append, List.count_append]
    omega
  · intro e member
    rcases List.mem_append.1 member with member | member
    · exact kinds e member
    · exact kinds' e member

theorem flatMap {E : Type} {turns : List E} {bumps : E → List Counter} {events : E → List Event}
    (each : ∀ turn ∈ turns, Told (bumps turn) (events turn)) :
    Told (turns.flatMap bumps) (turns.flatMap events) := by
  induction turns with
  | nil => exact .nil
  | cons turn rest ih =>
    rw [List.flatMap_cons, List.flatMap_cons]
    apply append
    · exact each turn List.mem_cons_self
    · exact ih fun other member => each other (List.mem_cons_of_mem turn member)

end Told

namespace Lookup

def comesEmpty : Except LookupFault Glossary → Bool
  | .ok g => g.size = 0
  | .error _ => false

/-- The source that is taken for a page, and the locale that it is of. -/
inductive Serves (l : Lookup) (path : String) : Locale → Source → Prop where
  | own {source : Source} (here : l.catalog.get? (l.localeOf path) = some source) :
      Serves l path (l.localeOf path) source
  | standIn {source : Source} (absent : l.catalog.get? (l.localeOf path) = none)
      (policy : l.policy = .fallback) (there : l.catalog.get? l.defaultLocale = some source) :
      Serves l path l.defaultLocale source

/-- Events in the order of a lookup: at most one about the locale that was asked for, then at most
one about the source that was taken. -/
def Tells (l : Lookup) (path : String) (events : List Event) : Prop :=
  ∃ missing made, events = missing ++ made ∧ missing.length ≤ 1 ∧ made.length ≤ 1 ∧
    (∀ e ∈ missing, e.lacksSource = true ∧ e.Names (l.localeOf path)) ∧
    ∀ e ∈ made, (e.failsAssembly || e.tellsEmpty) = true ∧
      ∃ locale source, l.Serves path locale source ∧ e.Names locale

section Run

variable {l : Lookup} {path : String}

theorem run_events_of_found {locale : Locale} {source : Source} {bumps : List Counter}
    {events : List Event}
    (found : l.find (l.localeOf path) = ⟨.ok (locale, source), bumps, events⟩) :
    (l.run path).events = events ++ (l.assemble locale source).events := by
  unfold run
  rw [found]

theorem run_events_of_not_found {fault : LookupFault} {bumps : List Counter} {events : List Event}
    (absent : l.find (l.localeOf path) = ⟨.error fault, bumps, events⟩) :
    (l.run path).events = events := by
  unfold run
  rw [absent]

end Run

section Logs

variable (l : Lookup)

theorem assemble_events (locale : Locale) (source : Source) :
    (∃ g, (l.assemble locale source).result = .ok g ∧
      (l.assemble locale source).events = if g.size = 0 then [.emptyGlossary locale] else []) ∨
    ∃ fault, (l.assemble locale source).result = .error (.assembly fault) ∧
      (l.assemble locale source).events = [.notAssembled locale fault] := by
  unfold assemble
  cases l.strategy.assemble locale source with
  | error fault => exact .inr ⟨fault, rfl, rfl⟩
  | ok g =>
    refine .inl ⟨g, rfl, ?_⟩
    simp only [Glossary.isEmpty, Glossary.size, Table.isEmpty, Table.size, List.isEmpty_iff,
      List.length_eq_zero_iff]

theorem told_opening (path : String) : Told (l.opening path) [] := by
  unfold opening
  split <;> exact ⟨rfl, rfl, by simp⟩

theorem find_lacks (locale : Locale) : (l.find locale).events.length ≤ 1 ∧
    ∀ e ∈ (l.find locale).events, e.lacksSource = true ∧ e.Names locale := by
  obtain ⟨source, -, found⟩ | ⟨-, -, absent⟩ | ⟨source, -, -, -, found⟩ | ⟨-, -, -, absent⟩ :=
    l.find_cases locale
  · rw [found]
    simp
  · rw [absent]
    simp [Event.lacksSource, Event.Names, Event.fields]
  · rw [found]
    simp [Event.lacksSource, Event.Names, Event.fields]
  · rw [absent]
    simp [Event.lacksSource, Event.Names, Event.fields]

theorem serves_of_found {path : String} {locale : Locale} {source : Source}
    (taken : (l.find (l.localeOf path)).result = .ok (locale, source)) :
    l.Serves path locale source := by
  obtain ⟨own, here, found⟩ | ⟨-, -, absent⟩ | ⟨standIn, here, policy, there, found⟩ |
    ⟨-, -, -, absent⟩ := l.find_cases (l.localeOf path)
  · rw [found] at taken
    cases taken
    exact .own here
  · rw [absent] at taken
    cases taken
  · rw [found] at taken
    cases taken
    exact .standIn here policy there
  · rw [absent] at taken
    cases taken

theorem told_find (locale : Locale) : Told (l.find locale).bumps (l.find locale).events := by
  obtain ⟨source, -, found⟩ | ⟨-, -, absent⟩ | ⟨source, -, -, -, found⟩ | ⟨-, -, -, absent⟩ :=
    l.find_cases locale
  · rw [found]
    exact .nil
  · rw [absent]
    exact ⟨rfl, rfl, by simp [Event.level, Event.lacksSource]⟩
  · rw [found]
    exact ⟨rfl, rfl, by simp [Event.level, Event.lacksSource]⟩
  · rw [absent]
    exact ⟨rfl, rfl, by simp [Event.level, Event.lacksSource]⟩

theorem told_assemble (locale : Locale) (source : Source) :
    Told [Counter.ofResult (l.assemble locale source).result]
      (l.assemble locale source).events := by
  obtain ⟨g, result, events⟩ | ⟨fault, result, events⟩ := l.assemble_events locale source
  · rw [result, events]
    split
    · exact ⟨rfl, rfl, by simp [Event.level, Event.tellsEmpty]⟩
    · exact ⟨rfl, rfl, by simp⟩
  · rw [result, events]
    exact ⟨rfl, rfl, by simp [Event.level, Event.failsAssembly]⟩

theorem told_run (path : String) : Told (l.run path).bumps (l.run path).events := by
  have opening := l.told_opening path
  have found := l.told_find (l.localeOf path)
  match outcome : l.find (l.localeOf path) with
  | ⟨.ok (locale, source), bumps, events⟩ =>
    rw [outcome] at found
    rw [(run_of_found outcome).2, run_events_of_found outcome]
    exact (opening.append found).append (l.told_assemble locale source)
  | ⟨.error fault, bumps, events⟩ =>
    rw [outcome] at found
    rw [(run_of_not_found outcome).2, run_events_of_not_found outcome]
    exact opening.append found

theorem assemble_names (locale : Locale) (source : Source) :
    (l.assemble locale source).events.length ≤ 1 ∧
      ∀ e ∈ (l.assemble locale source).events,
        (e.failsAssembly || e.tellsEmpty) = true ∧ e.Names locale := by
  obtain ⟨g, -, events⟩ | ⟨fault, -, events⟩ := l.assemble_events locale source
  · rw [events]
    split
    · simp [Event.tellsEmpty, Event.Names, Event.fields]
    · simp
  · rw [events]
    simp [Event.failsAssembly, Event.Names, Event.fields]

theorem tells_run (path : String) : l.Tells path (l.run path).events := by
  obtain ⟨few, about⟩ := l.find_lacks (l.localeOf path)
  match outcome : l.find (l.localeOf path) with
  | ⟨.ok (locale, source), bumps, missing⟩ =>
    rw [outcome] at few about
    have serves : l.Serves path locale source := l.serves_of_found (by rw [outcome])
    obtain ⟨length, names⟩ := l.assemble_names locale source
    rw [run_events_of_found outcome]
    refine ⟨missing, _, rfl, few, length, about, ?_⟩
    intro e member
    obtain ⟨kind, named⟩ := names e member
    exact ⟨kind, locale, source, serves, named⟩
  | ⟨.error fault, bumps, missing⟩ =>
    rw [outcome] at few about
    rw [run_events_of_not_found outcome]
    exact ⟨missing, [], (List.append_nil _).symm, few, Nat.zero_le 1, about, by simp⟩

theorem countP_tellsEmpty_find (locale : Locale) :
    (l.find locale).events.countP Event.tellsEmpty = 0 := by
  rw [List.countP_eq_zero]
  intro e member
  obtain ⟨lacks, -⟩ := (l.find_lacks locale).2 e member
  cases e with
  | emptyGlossary _ => cases lacks
  | _ => exact Bool.false_ne_true

theorem countP_tellsEmpty_run (path : String) :
    (l.run path).events.countP Event.tellsEmpty =
      if comesEmpty (l.run path).result then 1 else 0 := by
  have found := l.countP_tellsEmpty_find (l.localeOf path)
  match outcome : l.find (l.localeOf path) with
  | ⟨.ok (locale, source), bumps, missing⟩ =>
    rw [outcome] at found
    rw [(run_of_found outcome).1, run_events_of_found outcome, List.countP_append, found,
      Nat.zero_add]
    obtain ⟨g, result, events⟩ | ⟨fault, result, events⟩ := l.assemble_events locale source
    · rw [result, events, comesEmpty]
      by_cases empty : g.size = 0
      · simp [empty, Event.tellsEmpty]
      · simp [empty]
    · rw [result, events]
      rfl
  | ⟨.error fault, bumps, missing⟩ =>
    rw [outcome] at found
    rw [(run_of_not_found outcome).1, run_events_of_not_found outcome, found]
    rfl

end Logs

end Lookup

def Reply.events : Reply → List Event
  | .glossary outcome => outcome.events
  | .locale _ | .report _ => []

def Turn.cameEmpty (t : Turn Question Reply) : Bool :=
  match t.reply with
  | .glossary outcome => Lookup.comesEmpty outcome.result
  | _ => false

namespace Lookup

theorem told_reply (l : Lookup) (t : Tally) (q : Question) :
    Told (l.reply t q).bumps (l.reply t q).events := by
  cases q with
  | glossary detect path => exact (l.detecting detect).told_run path
  | locale | report => exact .nil

theorem count_reply_le_one (l : Lookup) (t : Tally) (q : Question) (c : Counter) :
    (l.reply t q).bumps.count c ≤ 1 := by
  cases q with
  | glossary detect path => exact (l.detecting detect).count_run_le_one path c
  | locale | report => exact Nat.zero_le 1

theorem countP_tellsEmpty_reply (l : Lookup) (t : Tally) (q : Question) :
    (l.reply t q).events.countP Event.tellsEmpty =
      if Turn.cameEmpty ⟨q, l.reply t q⟩ then 1 else 0 := by
  cases q with
  | glossary detect path => exact (l.detecting detect).countP_tellsEmpty_run path
  | locale | report => rfl

/-- The log and the counters after any questions, fewer than a word can count. -/
theorem serve_desk_log (l : Lookup) (questions : List Question)
    (few : questions.length < UInt64.size) :
    let after := l.desk.serve .zero questions
    let shown := after.tally.shown
    let log := after.turns.flatMap fun turn => turn.reply.events
    after.turns.map Turn.question = questions ∧
    log.countP Event.lacksSource = shown .missing + shown .fallbacks ∧
    log.countP Event.failsAssembly = shown .failures ∧
    log.countP Event.tellsEmpty = after.turns.countP Turn.cameEmpty ∧
    (∀ e ∈ log, e.level = .warn ∧ (e.lacksSource || e.failsAssembly || e.tellsEmpty) = true) ∧
    ∀ turn ∈ after.turns, ∀ detect path, turn.question = .glossary detect path →
      (l.detecting detect).Tells path turn.reply.events := by
  intro after shown log
  have told : Told (after.turns.flatMap fun turn => turn.reply.bumps) log := by
    apply Told.flatMap
    intro turn member
    obtain ⟨t, q, rfl⟩ := l.desk.reply_of_mem_serve member
    exact l.told_reply t q
  have counted : ∀ c, shown c = (after.turns.flatMap fun turn => turn.reply.bumps).count c :=
    fun c => Desk.shown_serve_of_once few fun t q => l.count_reply_le_one t q c
  refine ⟨l.desk.serve_questions .zero questions, ?_, ?_, ?_, told.kinds, ?_⟩
  · rw [told.lacking, counted, counted]
  · rw [told.failing, counted]
  · apply Tally.countP_flatMap_of_each
    intro turn member
    obtain ⟨t, q, rfl⟩ := l.desk.reply_of_mem_serve member
    exact l.countP_tellsEmpty_reply t q
  · intro turn member detect path asked
    obtain ⟨t, q, rfl⟩ := l.desk.reply_of_mem_serve member
    obtain rfl : q = .glossary detect path := asked
    exact (l.detecting detect).tells_run path

theorem serve_desk_log_empty :
    let l : Lookup :=
      { greeting with catalog := Catalog.ofFound [("./en/translations.json", Source.ofMembers [])] }
    let questions : List Question := [.glossary Locale.ofPath? "/de/start", .report]
    let after := l.desk.serve .zero questions
    let log := after.turns.flatMap fun turn => turn.reply.events
    questions.length < UInt64.size ∧
      log = [.fellBack ⟨"de"⟩ ⟨"en"⟩, .emptyGlossary ⟨"en"⟩] ∧
      after.tally.shown .missing + after.tally.shown .fallbacks = 1 ∧
      after.turns.countP Turn.cameEmpty = 1 ∧
      ∀ turn ∈ after.turns, turn.question = .glossary Locale.ofPath? "/de/start" →
        (l.detecting Locale.ofPath?).Tells "/de/start" turn.reply.events := by
  intro l questions after log
  have few : questions.length < UInt64.size := by decide
  have whole : log = [.fellBack ⟨"de"⟩ ⟨"en"⟩, .emptyGlossary ⟨"en"⟩] := by decide +kernel
  obtain ⟨-, lacking, -, empty, -, tells⟩ := l.serve_desk_log questions few
  refine ⟨few, whole, lacking.symm.trans ?_, empty.symm.trans ?_, fun turn member => ?_⟩
  · decide +kernel
  · decide +kernel
  · exact tells turn member _ _

end Lookup
end Phrasebook
