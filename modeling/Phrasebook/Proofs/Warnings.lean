import Phrasebook.Proofs.Indexing

/-!
What is warned about while a catalog is made. Every pair of a path and a content comes to one thing:
it is passed over with a warning, it takes the place of the nearest pair before it that has its code,
with a warning that names both paths, or it is the first of its code and adds to the catalog. So
nothing is lost without a word, and warnings and entries together are as many as the pairs.
-/
namespace Phrasebook.Catalog

variable {α : Type}

theorem draft_concat (before : List (String × α)) (pair : String × α) :
    draft (before ++ [pair]) = (draft before).step pair := by
  simp [draft, List.foldl_append]

theorem get?_paths_draft (before : List (String × α)) (code : String) :
    (draft before).paths.get? code =
      ((before.filter (names ⟨code⟩)).getLast?).map Prod.fst := by
  have each (d : Draft α) (pair : String × α) : (d.step pair).paths.get? code =
      if names ⟨code⟩ pair then some pair.1 else d.paths.get? code := by
    unfold Draft.step names
    cases named : localeOf? pair.1 with
    | none => simp
    | some other =>
      cases other with
      | mk given => simp
  have kept := foldl_eq_last (fun d : Draft α => d.paths.get? code) (names ⟨code⟩) Prod.fst each
    ⟨empty, Table.empty, []⟩ before
  exact kept.trans Option.or_none

theorem get?_paths_eq_none_iff (before : List (String × α)) (code : String) :
    (draft before).paths.get? code = none ↔ ∀ earlier ∈ before, ¬HasCode earlier.1 code := by
  rw [get?_paths_draft, Option.map_eq_none_iff, List.getLast?_eq_none_iff, List.filter_eq_nil_iff]
  simp only [names_eq_true_iff]

theorem get?_paths_of_nearest {before front between : List (String × α)} {previous : String × α}
    {code : String} (taken : before = front ++ previous :: between)
    (same : HasCode previous.1 code) (nearest : ∀ other ∈ between, ¬HasCode other.1 code) :
    (draft before).paths.get? code = some previous.1 := by
  have last : (before.filter (names ⟨code⟩)).getLast? = some previous := by
    rw [getLast?_filter_eq_some_iff]
    refine ⟨front, between, taken, (names_eq_true_iff code previous).2 same, ?_⟩
    intro other member
    rw [← Bool.not_eq_true, names_eq_true_iff]
    exact nearest other member
  rw [get?_paths_draft, last]
  rfl

theorem step_of_named {pair : String × α} {code : String} (named : HasCode pair.1 code)
    (d : Draft α) : d.step pair = {
      catalog := ⟨d.catalog.byCode.insert code pair.2⟩
      paths := d.paths.insert code pair.1
      events := d.events ++
        ((d.paths.get? code).map fun previous => .replaced ⟨code⟩ previous pair.1).toList } := by
  have found : localeOf? pair.1 = some ⟨code⟩ := (localeOf?_eq_some_iff pair.1 ⟨code⟩).2 named
  unfold Draft.step
  cases held : d.paths.get? code with
  | none => simp [found, held]
  | some previous => simp [found, held]

theorem step_of_unnamed {pair : String × α} (absent : ∀ code, ¬HasCode pair.1 code)
    (d : Draft α) : d.step pair = { d with events := d.events ++ [.noLocale pair.1] } := by
  cases found : localeOf? pair.1 with
  | none => rw [Draft.step, found]
  | some locale => exact absurd ((localeOf?_eq_some_iff pair.1 locale).1 found) (absent locale.code)

/-- The warnings about a pair, given the pairs before it. -/
inductive Warns (before : List (String × α)) (pair : String × α) : List Event → Prop where
  | unnamed (absent : ∀ code, ¬HasCode pair.1 code) : Warns before pair [.noLocale pair.1]
  | first {code : String} (named : HasCode pair.1 code)
      (fresh : ∀ earlier ∈ before, ¬HasCode earlier.1 code) : Warns before pair []
  | again {code : String} {front between : List (String × α)} {previous : String × α}
      (named : HasCode pair.1 code) (taken : before = front ++ previous :: between)
      (same : HasCode previous.1 code) (nearest : ∀ other ∈ between, ¬HasCode other.1 code) :
      Warns before pair [.replaced ⟨code⟩ previous.1 pair.1]

theorem exists_warns (before : List (String × α)) (pair : String × α) :
    ∃ events, Warns before pair events := by
  by_cases coded : ∃ code, HasCode pair.1 code
  · obtain ⟨code, named⟩ := coded
    -- The nearest pair with the code is the last of all before that have it.
    cases last : (before.filter (names ⟨code⟩)).getLast? with
    | none =>
      have fresh : ∀ earlier ∈ before, ¬HasCode earlier.1 code := by
        rw [← get?_paths_eq_none_iff, get?_paths_draft, last]
        rfl
      exact ⟨_, .first named fresh⟩
    | some previous =>
      obtain ⟨front, between, taken, same, others⟩ := getLast?_filter_eq_some_iff.1 last
      have nearest : ∀ other ∈ between, ¬HasCode other.1 code := by
        intro other member
        rw [← names_eq_true_iff, others other member]
        exact Bool.false_ne_true
      exact ⟨_, .again named taken ((names_eq_true_iff code previous).1 same) nearest⟩
  · exact ⟨_, .unnamed (not_exists.1 coded)⟩

theorem Warns.events_step {before : List (String × α)} {pair : String × α} {events : List Event}
    (warns : Warns before pair events) :
    ((draft before).step pair).events = (draft before).events ++ events := by
  cases warns with
  | unnamed absent => rw [step_of_unnamed absent]
  | first named fresh =>
    rw [step_of_named named, (get?_paths_eq_none_iff before _).2 fresh]
    simp
  | again named taken same nearest =>
    rw [step_of_named named, get?_paths_of_nearest taken same nearest]
    simp

theorem Warns.level_eq {before : List (String × α)} {pair : String × α} {events : List Event}
    (warns : Warns before pair events) {e : Event} (member : e ∈ events) : e.level = .warn := by
  cases warns with
  | unnamed absent =>
    rw [List.mem_singleton.1 member]
    rfl
  | first named fresh => cases member
  | again named taken same nearest =>
    rw [List.mem_singleton.1 member]
    rfl

theorem Warns.length_add_size {before : List (String × α)} {pair : String × α}
    {events : List Event} (warns : Warns before pair events) :
    events.length + (ofFound (before ++ [pair])).size = (ofFound before).size + 1 := by
  have contains (code : String) : (draft before).catalog.byCode.contains code =
      ((ofFound before).get? ⟨code⟩).isSome := rfl
  have size (code : String) (named : HasCode pair.1 code) : (ofFound (before ++ [pair])).size =
      if ((ofFound before).get? ⟨code⟩).isSome then (ofFound before).size
      else (ofFound before).size + 1 := by
    rw [ofFound, draft_concat, step_of_named named, ← contains]
    exact Table.size_insert _ code pair.2
  cases warns with
  | unnamed absent =>
    rw [ofFound, draft_concat, step_of_unnamed absent]
    exact Nat.add_comm 1 _
  | first named fresh =>
    rw [size _ named, (get?_ofFound_eq_none_iff before _).2 fresh]
    simp
  | @again code front between previous named taken same nearest =>
    have held : ((ofFound before).get? ⟨code⟩).isSome = true := by
      rw [(get?_ofFound_eq_some_iff before code previous.2).2
        ⟨front, previous.1, between, taken, same, nearest⟩]
      rfl
    rw [size _ named, if_pos held, List.length_singleton]
    exact Nat.add_comm 1 _

/-- The warnings about pairs that come after others, in the order of the pairs. -/
inductive Warned : List (String × α) → List (String × α) → List Event → Prop where
  | nil (before : List (String × α)) : Warned before [] []
  | cons {before rest : List (String × α)} {pair : String × α} {events more : List Event}
      (here : Warns before pair events) (onward : Warned (before ++ [pair]) rest more) :
      Warned before (pair :: rest) (events ++ more)

theorem exists_warned (before rest : List (String × α)) :
    ∃ events, Warned before rest events := by
  induction rest generalizing before with
  | nil => exact ⟨[], .nil before⟩
  | cons pair rest ih =>
    obtain ⟨events, here⟩ := exists_warns before pair
    obtain ⟨more, onward⟩ := ih (before ++ [pair])
    exact ⟨events ++ more, .cons here onward⟩

theorem Warned.events_draft {before rest : List (String × α)} {events : List Event}
    (warned : Warned before rest events) :
    (draft (before ++ rest)).events = (draft before).events ++ events := by
  induction warned with
  | nil => simp
  | cons here onward ih =>
    rw [List.append_cons, ih, draft_concat, here.events_step, List.append_assoc]

theorem Warned.level_eq {before rest : List (String × α)} {events : List Event}
    (warned : Warned before rest events) {e : Event} (member : e ∈ events) : e.level = .warn := by
  induction warned with
  | nil => cases member
  | cons here onward ih =>
    rcases List.mem_append.1 member with now | later
    · exact here.level_eq now
    · exact ih later

theorem Warned.length_add_size {before rest : List (String × α)} {events : List Event}
    (warned : Warned before rest events) :
    events.length + (ofFound (before ++ rest)).size = (ofFound before).size + rest.length := by
  induction warned with
  | nil => simp
  | cons here onward ih =>
    have now := here.length_add_size
    rw [List.append_cons, List.length_append, List.length_cons]
    omega

theorem warnings_eq_of_warned {found : List (String × α)} {events : List Event}
    (warned : Warned [] found events) : warnings found = events :=
  warned.events_draft

/-- The warnings while a catalog is made, what each of them says, and that the pairs that are not
warned about are the entries. -/
theorem ofFound_accounts (found : List (String × α)) :
    (∀ events, warnings found = events ↔ Warned [] found events) ∧
    (∀ e ∈ warnings found, e.level = .warn) ∧
    (warnings found).length + (ofFound found).size = found.length := by
  obtain ⟨said, warned⟩ := exists_warned [] found
  have whole := warnings_eq_of_warned warned
  refine ⟨?_, ?_, ?_⟩
  · intro events
    constructor
    · intro same
      rw [← same, whole]
      exact warned
    · exact warnings_eq_of_warned
  · intro e member
    rw [whole] at member
    exact warned.level_eq member
  · have account := warned.length_add_size
    rw [List.nil_append] at account
    have none : (ofFound ([] : List (String × α))).size = 0 := rfl
    rw [whole]
    omega

example :
    warnings [("a/en", 1), ("b/fr", 2), ("c/en", 3), ("d//en", 4), ("e/en/x", 5)] =
      [.replaced ⟨"en"⟩ "a/en" "c/en", .noLocale "d//en", .replaced ⟨"en"⟩ "c/en" "e/en/x"] := by
  decide +kernel

end Phrasebook.Catalog
