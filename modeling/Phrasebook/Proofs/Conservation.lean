import Phrasebook.Proofs.Session

/-!
Long use of one lookup. Whoever holds a lookup asks it for glossaries, for the locale of a path and
for a report of the counters, in any order. Only questions for a glossary change the counters, and
after any number of questions each counter is the number of replies of its kind.
-/
namespace Phrasebook

/-- What a lookup is asked. How a locale is detected may go by more than the path, so a question
comes with the detection as it is at its time. -/
inductive Question where
  | glossary (detect : String → Option Locale) (path : String)
  | locale (detect : String → Option Locale) (path : String)
  | report

inductive Reply where
  | glossary (outcome : Outcome Glossary)
  | locale (locale : Locale)
  | report (report : Report)

def Reply.bumps : Reply → List Counter
  | .glossary outcome => outcome.bumps
  | .locale _ | .report _ => []

namespace Lookup

def reply (l : Lookup) (t : Tally) : Question → Reply
  | .glossary detect path => .glossary ((l.detecting detect).run path)
  | .locale detect path => .locale ((l.detecting detect).localeOf path)
  | .report => .report t.report

def desk (l : Lookup) : Desk Question Reply := ⟨l.reply, Reply.bumps⟩

end Lookup

namespace Turn

def forGlossary (t : Turn Question Reply) : Bool :=
  match t.question with
  | .glossary .. => true
  | _ => false

def succeeded (t : Turn Question Reply) : Bool :=
  match t.reply with
  | .glossary ⟨.ok _, _, _⟩ => true
  | _ => false

def lackedData (t : Turn Question Reply) : Bool :=
  match t.reply with
  | .glossary ⟨.error (.noData _), _, _⟩ => true
  | _ => false

def failedAssembly (t : Turn Question Reply) : Bool :=
  match t.reply with
  | .glossary ⟨.error (.assembly _), _, _⟩ => true
  | _ => false

theorem glossary_kinds (q : Question) (outcome : Outcome Glossary) :
    succeeded ⟨q, .glossary outcome⟩ = decide (Counter.ofResult outcome.result = .successes) ∧
    lackedData ⟨q, .glossary outcome⟩ = decide (Counter.ofResult outcome.result = .missing) ∧
    failedAssembly ⟨q, .glossary outcome⟩ =
      decide (Counter.ofResult outcome.result = .failures) := by
  match outcome with
  | ⟨.ok _, _, _⟩ => exact ⟨rfl, rfl, rfl⟩
  | ⟨.error (.noData _), _, _⟩ => exact ⟨rfl, rfl, rfl⟩
  | ⟨.error (.assembly _), _, _⟩ => exact ⟨rfl, rfl, rfl⟩

/-- Whether a glossary was asked for and no locale detected, or one with an empty code. -/
def undetected (t : Turn Question Reply) : Bool :=
  match t.question with
  | .glossary detect path =>
    match detect path with
    | none => true
    | some locale => locale.code = ""
  | _ => false

/-- Whether a glossary was asked for and the default source is the one to give. -/
def redirected (l : Lookup) (t : Turn Question Reply) : Bool :=
  match t.question with
  | .glossary detect path =>
    l.policy = .fallback &&
      !l.catalog.contains ((l.detecting detect).localeOf path) &&
      l.catalog.contains l.defaultLocale
  | _ => false

end Turn

namespace Lookup

theorem isNone_detected? (l : Lookup) (path : String) :
    (l.detected? path).isNone =
      match l.detect path with
      | none => true
      | some locale => decide (locale.code = "") := by
  unfold detected?
  cases l.detect path with
  | none => rfl
  | some locale => by_cases empty : locale.code = "" <;> simp [Option.filter, empty]

section Replies

variable (l : Lookup) (t : Tally) (q : Question)

theorem count_requests_reply :
    (l.reply t q).bumps.count .requests =
      if Turn.forGlossary ⟨q, l.reply t q⟩ then 1 else 0 := by
  cases q with
  | glossary detect path => exact (l.detecting detect).count_requests_run path
  | locale | report => rfl

theorem count_outcome_reply {c : Counter}
    (outcome : c = .successes ∨ c = .missing ∨ c = .failures)
    {kind : Turn Question Reply → Bool}
    (glossary : ∀ q outcome, kind ⟨q, .glossary outcome⟩ =
      decide (Counter.ofResult outcome.result = c))
    (locale : ∀ q locale, kind ⟨q, .locale locale⟩ = false)
    (report : ∀ q report, kind ⟨q, .report report⟩ = false) :
    (l.reply t q).bumps.count c = if kind ⟨q, l.reply t q⟩ then 1 else 0 := by
  cases q with
  | glossary detect path =>
    have counted := (l.detecting detect).count_outcome_run path outcome
    simp only [reply, glossary, decide_eq_true_eq]
    exact counted
  | locale detect path =>
    rw [reply, locale]
    rfl
  | report =>
    rw [reply, report]
    rfl

theorem count_successes_reply :
    (l.reply t q).bumps.count .successes = if Turn.succeeded ⟨q, l.reply t q⟩ then 1 else 0 :=
  count_outcome_reply l t q (.inl rfl) (fun q o => (Turn.glossary_kinds q o).1)
    (fun _ _ => rfl) fun _ _ => rfl

theorem count_missing_reply :
    (l.reply t q).bumps.count .missing = if Turn.lackedData ⟨q, l.reply t q⟩ then 1 else 0 :=
  count_outcome_reply l t q (.inr (.inl rfl)) (fun q o => (Turn.glossary_kinds q o).2.1)
    (fun _ _ => rfl) fun _ _ => rfl

theorem count_failures_reply :
    (l.reply t q).bumps.count .failures =
      if Turn.failedAssembly ⟨q, l.reply t q⟩ then 1 else 0 :=
  count_outcome_reply l t q (.inr (.inr rfl)) (fun q o => (Turn.glossary_kinds q o).2.2)
    (fun _ _ => rfl) fun _ _ => rfl

theorem count_defaultUsed_reply :
    (l.reply t q).bumps.count .defaultUsed =
      if Turn.undetected ⟨q, l.reply t q⟩ then 1 else 0 := by
  cases q with
  | locale | report => rfl
  | glossary detect path =>
    have counted := (l.detecting detect).count_defaultUsed_run path
    rw [isNone_detected?] at counted
    exact counted

theorem count_fallbacks_reply :
    (l.reply t q).bumps.count .fallbacks =
      if Turn.redirected l ⟨q, l.reply t q⟩ then 1 else 0 := by
  cases q with
  | locale | report => rfl
  | glossary detect path =>
    have counted := (l.detecting detect).count_fallbacks_run path
    simp only [fallsBack, detecting, Catalog.get?, ← Option.not_isSome] at counted
    exact counted

theorem balanced_reply : Tally.Balanced (l.reply t q).bumps := by
  cases q with
  | glossary detect path => exact (l.detecting detect).balanced_run path
  | locale | report => exact .nil

end Replies

/-- The counters after any questions, fewer than a word can count. -/
theorem serve_desk_counts (l : Lookup) (questions : List Question)
    (few : questions.length < UInt64.size) :
    let after := l.desk.serve .zero questions
    let shown := after.tally.shown
    after.turns.map Turn.question = questions ∧
    shown .requests = after.turns.countP Turn.forGlossary ∧
    shown .successes = after.turns.countP Turn.succeeded ∧
    shown .missing = after.turns.countP Turn.lackedData ∧
    shown .failures = after.turns.countP Turn.failedAssembly ∧
    shown .requests = shown .successes + shown .missing + shown .failures ∧
    shown .defaultUsed = after.turns.countP Turn.undetected ∧
    shown .fallbacks = after.turns.countP (Turn.redirected l) ∧
    shown .fallbacks ≤ shown .successes + shown .failures ∧
    ∀ q, (∀ detect path, q ≠ .glossary detect path) →
      (l.desk.serve .zero (questions ++ [q])).tally = after.tally := by
  intro after shown
  obtain ⟨conserved, fallbacks, -⟩ :=
    Desk.balance_serve (d := l.desk) few l.count_requests_reply l.balanced_reply
  refine ⟨l.desk.serve_questions .zero questions, Desk.shown_serve few l.count_requests_reply,
    Desk.shown_serve few l.count_successes_reply, Desk.shown_serve few l.count_missing_reply,
    Desk.shown_serve few l.count_failures_reply, conserved,
    Desk.shown_serve few l.count_defaultUsed_reply, Desk.shown_serve few l.count_fallbacks_reply,
    fallbacks, ?_⟩
  intro q other
  have nothing : (l.reply after.tally q).bumps = [] := by
    cases q with
    | glossary detect path => exact absurd rfl (other detect path)
    | locale | report => rfl
  rw [Desk.serve_append]
  show after.tally.bumpAll (l.reply after.tally q).bumps = after.tally
  rw [nothing]
  rfl

theorem serve_desk_counts_greeting :
    let questions : List Question :=
      [.glossary Locale.ofPath? "/de/start", .glossary Locale.ofPath? "/",
        .locale Locale.ofPath? "/fr", .report]
    let shown := (greeting.desk.serve .zero questions).tally.shown
    questions.length < UInt64.size ∧ shown .requests = 2 ∧ shown .successes = 2 ∧
      shown .defaultUsed = 1 ∧ shown .fallbacks = 1 := by
  obtain ⟨-, requests, successes, -, -, -, defaultUsed, fallbacks, -, -⟩ :=
    greeting.serve_desk_counts
      [.glossary Locale.ofPath? "/de/start", .glossary Locale.ofPath? "/",
        .locale Locale.ofPath? "/fr", .report] (by decide)
  exact ⟨by decide, requests.trans (by decide +kernel), successes.trans (by decide +kernel),
    defaultUsed.trans (by decide +kernel), fallbacks.trans (by decide +kernel)⟩

end Lookup
end Phrasebook
