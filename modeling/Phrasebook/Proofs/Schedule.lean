import Phrasebook.Proofs.Conservation

/-!
Lookups at the same time. A lookup goes in steps, of which each bumps one counter at most; a report
reads the counters one by one. The steps of any lookups and reports come in any order. The counters
then show what the finished and the unfinished lookups have counted, and when all are done nothing
tells that they were not made one after the other.
-/
namespace Phrasebook

inductive Stage where
  | called (path : String)
  | counted (path : String)
  | located (locale : Locale)
  | sourced (locale : Locale) (source : Source)
  | returned (result : Except LookupFault Glossary)

namespace Stage

def inFlight : Stage → Bool
  | .counted _ | .located _ | .sourced .. => true
  | .called _ | .returned _ => false

def isCalled : Stage → Bool
  | .called _ => true
  | _ => false

def isReturned : Stage → Bool
  | .returned _ => true
  | _ => false

end Stage

namespace Lookup

/-- The next step of a lookup: the counter that it bumps, if any, and the stage it leads to. -/
def advance (l : Lookup) : Stage → Option (Option Counter × Stage)
  | .called path => some (some .requests, .counted path)
  | .counted path =>
    match l.detected? path with
    | some locale => some (none, .located locale)
    | none => some (some .defaultUsed, .located l.defaultLocale)
  | .located locale =>
    match l.catalog.get? locale with
    | some source => some (none, .sourced locale source)
    | none =>
      match l.policy with
      | .reject => some (some .missing, .returned (.error (.noData locale)))
      | .fallback =>
        match l.catalog.get? l.defaultLocale with
        | some source => some (some .fallbacks, .sourced l.defaultLocale source)
        | none => some (some .missing, .returned (.error (.noData l.defaultLocale)))
  | .sourced locale source =>
    match l.strategy.assemble locale source with
    | .ok g => some (some .successes, .returned (.ok g))
    | .error fault => some (some .failures, .returned (.error (.assembly fault)))
  | .returned _ => none

def supply (l : Lookup) (locale : Locale) : Except LookupFault Glossary × List Counter :=
  let found := l.find locale
  match found.result with
  | .error fault => (.error fault, found.bumps)
  | .ok (locale, source) =>
    let made := l.assemble locale source
    (made.result, found.bumps ++ made.bumps)

def rest (l : Lookup) : Stage → Except LookupFault Glossary × List Counter
  | .called path =>
    ((l.supply (l.localeOf path)).1, l.opening path ++ (l.supply (l.localeOf path)).2)
  | .counted path =>
    ((l.supply (l.localeOf path)).1, (l.opening path).tail ++ (l.supply (l.localeOf path)).2)
  | .located locale => l.supply locale
  | .sourced locale source => ((l.assemble locale source).result, (l.assemble locale source).bumps)
  | .returned result => (result, [])

theorem rest_called (l : Lookup) (path : String) :
    l.rest (.called path) = ((l.run path).result, (l.run path).bumps) := by
  unfold rest supply
  match outcome : l.find (l.localeOf path) with
  | ⟨.ok (locale, source), missing, events⟩ =>
    obtain ⟨result, bumps⟩ := run_of_found outcome
    simp [outcome, result, bumps, assemble_bumps]
  | ⟨.error fault, missing, events⟩ =>
    obtain ⟨result, bumps⟩ := run_of_not_found outcome
    simp [outcome, result, bumps]

theorem opening_eq (l : Lookup) (path : String) :
    l.opening path = .requests :: (l.opening path).tail := by
  unfold opening
  split <;> rfl

section Step

variable {l : Lookup} {next : Stage} {counter : Option Counter}

theorem rest_counted {path : String} (step : l.advance (.counted path) = some (counter, next)) :
    l.rest (.counted path) = ((l.rest next).1, counter.toList ++ (l.rest next).2) := by
  unfold advance at step
  simp only [rest, opening, localeOf]
  cases named : l.detected? path with
  | some locale =>
    simp only [named] at step
    cases step
    simp
  | none =>
    simp only [named] at step
    cases step
    simp

theorem rest_located {locale : Locale} (step : l.advance (.located locale) = some (counter, next)) :
    l.rest (.located locale) = ((l.rest next).1, counter.toList ++ (l.rest next).2) := by
  unfold advance at step
  simp only [rest, supply]
  obtain ⟨source, here, found⟩ | ⟨here, policy, absent⟩ | ⟨source, here, policy, there, found⟩ |
    ⟨here, policy, there, absent⟩ := l.find_cases locale
  · simp only [here] at step
    cases step
    simp [found]
  · simp only [here, policy] at step
    cases step
    simp [absent]
  · simp only [here, policy, there] at step
    cases step
    simp [found]
  · simp only [here, policy, there] at step
    cases step
    simp [absent]

theorem rest_sourced {locale : Locale} {source : Source}
    (step : l.advance (.sourced locale source) = some (counter, next)) :
    l.rest (.sourced locale source) = ((l.rest next).1, counter.toList ++ (l.rest next).2) := by
  unfold advance at step
  simp only [rest, assemble]
  cases made : l.strategy.assemble locale source with
  | ok g =>
    simp only [made] at step
    cases step
    rfl
  | error fault =>
    simp only [made] at step
    cases step
    rfl

theorem rest_advance {stage : Stage} (step : l.advance stage = some (counter, next)) :
    l.rest stage = ((l.rest next).1, counter.toList ++ (l.rest next).2) := by
  cases stage with
  | called path =>
    simp only [advance] at step
    cases step
    simp only [rest]
    rw [l.opening_eq path]
    rfl
  | counted path => exact rest_counted step
  | located locale => exact rest_located step
  | sourced locale source => exact rest_sourced step
  | returned result => cases step

end Step

def outcomes (cs : List Counter) : Nat :=
  cs.count .successes + cs.count .missing + cs.count .failures

theorem outcomes_append (cs ds : List Counter) : outcomes (cs ++ ds) = outcomes cs + outcomes ds := by
  simp only [outcomes, List.count_append]
  omega

theorem supply_bumps (l : Lookup) (locale : Locale) :
    (l.supply locale).2 = (if l.fallsBack locale then [.fallbacks] else []) ++
      [Counter.ofResult (l.supply locale).1] := by
  unfold supply
  obtain ⟨source, here, found⟩ | ⟨here, policy, absent⟩ | ⟨source, here, policy, there, found⟩ |
    ⟨here, policy, there, absent⟩ := l.find_cases locale
  · simp [found, fallsBack, here, assemble_bumps]
  · simp [absent, fallsBack, policy, Counter.ofResult]
  · simp [found, fallsBack, here, policy, there, assemble_bumps]
  · simp [absent, fallsBack, there, Counter.ofResult]

theorem count_supply (l : Lookup) (locale : Locale) :
    (l.supply locale).2.count .requests = 0 ∧ outcomes (l.supply locale).2 = 1 := by
  rw [supply_bumps]
  obtain h | h | h := outcome_of_result (l.supply locale).1 <;> rw [h] <;> split <;> exact ⟨rfl, rfl⟩

theorem count_rest (l : Lookup) (stage : Stage) :
    (l.rest stage).2.count .requests = (if stage.isCalled then 1 else 0) ∧
      outcomes (l.rest stage).2 = if stage.isReturned then 0 else 1 := by
  cases stage with
  | called path =>
    obtain ⟨requests, outcome⟩ := l.count_supply (l.localeOf path)
    rw [rest, List.count_append, outcomes_append, requests, outcome, opening]
    split <;> exact ⟨rfl, rfl⟩
  | counted path =>
    obtain ⟨requests, outcome⟩ := l.count_supply (l.localeOf path)
    rw [rest, List.count_append, outcomes_append, requests, outcome, opening]
    split <;> exact ⟨rfl, rfl⟩
  | located locale => exact l.count_supply locale
  | sourced locale source =>
    rw [rest, assemble_bumps]
    obtain h | h | h := outcome_of_result (l.assemble locale source).result <;> rw [h] <;>
      exact ⟨rfl, rfl⟩
  | returned result => exact ⟨rfl, rfl⟩

/-- A lookup on its way, with the counters that it has bumped so far. -/
structure Progress (l : Lookup) where
  path : String
  made : List Counter
  stage : Stage
  whole : ((l.run path).result, (l.run path).bumps) =
    ((l.rest stage).1, made ++ (l.rest stage).2)

namespace Progress

variable {l : Lookup}

def start (path : String) : Progress l := ⟨path, [], .called path, (l.rest_called path).symm⟩

def next (call : Progress l) {counter : Option Counter} {next : Stage}
    (step : l.advance call.stage = some (counter, next)) : Progress l where
  path := call.path
  made := call.made ++ counter.toList
  stage := next
  whole := by rw [call.whole, rest_advance step, List.append_assoc]

variable (call : Progress l)

theorem bumps_eq : (l.run call.path).bumps = call.made ++ (l.rest call.stage).2 :=
  congrArg Prod.snd call.whole

theorem count_requests :
    call.made.count .requests = if call.stage.isCalled then 0 else 1 := by
  have total := l.count_requests_run call.path
  rw [bumps_eq, List.count_append, (l.count_rest call.stage).1] at total
  split at total <;> simp_all

theorem outcomes_made : outcomes call.made = if call.stage.isReturned then 1 else 0 := by
  have balanced := (l.balanced_run call.path).outcomes
  have total : outcomes (l.run call.path).bumps = 1 := by
    rw [outcomes, ← balanced, count_requests_run]
  rw [bumps_eq, outcomes_append, (l.count_rest call.stage).2] at total
  split at total <;> simp_all

theorem made_of_not_counted (none : call.made.count .requests = 0) : call.made = [] := by
  -- All bumps of a lookup begin with the one for the request.
  have total := call.bumps_eq
  rw [run_bumps, opening_eq] at total
  cases made : call.made with
  | nil => rfl
  | cons first more =>
    rw [made] at total none
    obtain rfl : Counter.requests = first := by
      simpa using congrArg List.head? total
    simp at none

theorem count_le_requests (c : Counter) :
    call.made.count c ≤ call.made.count .requests := by
  have once := l.count_run_le_one call.path c
  have counted := call.count_requests
  rw [bumps_eq, List.count_append] at once
  split at counted
  · rw [call.made_of_not_counted counted]
    exact Nat.le_refl 0
  -- Nothing is bumped twice, so nothing gets ahead of a request that is counted.
  · omega

end Progress

end Lookup

/-- A report on its way: what it has seen of the counters, and those that it has yet to read. -/
structure Reading where
  seen : List (Counter × UInt64)
  todo : List Counter
  deriving DecidableEq, Repr

namespace Reading

def start : Reading := ⟨[], Report.order⟩

def report? (r : Reading) : Option Report :=
  if r.todo = [] then some ⟨fun c => (r.seen.lookup c).getD 0⟩ else none

end Reading

structure Pool where
  tally : Tally
  lookups : List Stage
  readings : List Reading

def Pool.start (paths : List String) (reports : Nat) : Pool :=
  ⟨.zero, paths.map .called, List.replicate reports .start⟩

inductive Move where
  | look (i : Nat)
  | read (i : Nat)
  deriving DecidableEq, Repr

namespace Lookup

def move (l : Lookup) (pool : Pool) : Move → Option Pool
  | .look i => do
    let stage ← pool.lookups[i]?
    let (counter, next) ← l.advance stage
    return { pool with
      tally := pool.tally.bumpAll counter.toList, lookups := pool.lookups.set i next }
  | .read i => do
    let reading ← pool.readings[i]?
    match reading.todo with
    | [] => none
    | c :: todo =>
      let seen := reading.seen ++ [(c, pool.tally.count c)]
      return { pool with readings := pool.readings.set i ⟨seen, todo⟩ }

def play (l : Lookup) (pool : Pool) : List Move → Option Pool
  | [] => some pool
  | first :: more => (l.move pool first).bind fun next => l.play next more

theorem split_of_getElem? {α : Type} {as : List α} {i : Nat} {a : α} (h : as[i]? = some a) :
    ∃ before after, as = before ++ a :: after ∧ ∀ b, as.set i b = before ++ b :: after := by
  induction as generalizing i with
  | nil => simp at h
  | cons first rest ih =>
    cases i with
    | zero =>
      obtain rfl : first = a := by simpa using h
      exact ⟨[], rest, rfl, fun _ => rfl⟩
    | succ i =>
      obtain ⟨before, after, whole, set⟩ := ih (by simpa using h)
      exact ⟨first :: before, after, congrArg _ whole, fun b => congrArg _ (set b)⟩

theorem move_cases {l : Lookup} {pool next : Pool} {m : Move} (moved : l.move pool m = some next) :
    (∃ before stage after counter later, pool.lookups = before ++ stage :: after ∧
      l.advance stage = some (counter, later) ∧
      next = ⟨pool.tally.bumpAll counter.toList, before ++ later :: after, pool.readings⟩) ∨
    ∃ before seen c todo after, pool.readings = before ++ ⟨seen, c :: todo⟩ :: after ∧
      next = ⟨pool.tally, pool.lookups,
        before ++ ⟨seen ++ [(c, pool.tally.count c)], todo⟩ :: after⟩ := by
  cases m with
  | look i =>
    simp only [move, Option.bind_eq_bind, Option.bind_eq_some_iff] at moved
    obtain ⟨stage, here, ⟨counter, later⟩, step, same⟩ := moved
    obtain ⟨before, after, whole, set⟩ := split_of_getElem? here
    simp only [Option.pure_def, Option.some.injEq, set] at same
    exact .inl ⟨before, stage, after, counter, later, whole, step, same.symm⟩
  | read i =>
    simp only [move, Option.bind_eq_bind, Option.bind_eq_some_iff] at moved
    obtain ⟨⟨seen, todo⟩, here, same⟩ := moved
    obtain ⟨before, after, whole, set⟩ := split_of_getElem? here
    cases todo with
    | nil => simp at same
    | cons c todo =>
      simp only [Option.pure_def, Option.some.injEq, set] at same
      exact .inr ⟨before, seen, c, todo, after, whole, same.symm⟩

theorem play_invariant {l : Lookup} {P : Pool → Prop} {schedule : List Move} {first pool : Pool}
    (played : l.play first schedule = some pool) (start : P first)
    (keep : ∀ pool m next, P pool → l.move pool m = some next → P next) : P pool := by
  induction schedule generalizing first with
  | nil =>
    obtain rfl : first = pool := by simpa [play] using played
    exact start
  | cons m more ih =>
    simp only [play, Option.bind_eq_some_iff] at played
    obtain ⟨next, moved, rest⟩ := played
    exact ih rest (keep first m next start moved)

/-- The counters are what lookups for some paths, each as far as it has come, have left. -/
structure Accounts {l : Lookup} (calls : List (Progress l)) (paths : List String) (pool : Pool) :
    Prop where
  paths : calls.map Progress.path = paths
  stages : calls.map Progress.stage = pool.lookups
  tally : pool.tally = Tally.zero.bumpAll (calls.flatMap Progress.made)

theorem accounts_start (l : Lookup) (paths : List String) (reports : Nat) :
    Accounts (paths.map (Progress.start (l := l))) paths (.start paths reports) where
  paths := by rw [List.map_map]; exact List.map_id paths
  stages := by rw [List.map_map]; rfl
  tally := by
    have nothing : (paths.map (Progress.start (l := l))).flatMap Progress.made = [] := by
      rw [List.flatMap_map]
      exact List.flatMap_eq_nil_iff.2 fun _ _ => rfl
    rw [nothing]
    rfl

theorem accounts_move {l : Lookup} {paths : List String} {pool next : Pool} {m : Move}
    {calls : List (Progress l)} (accounts : Accounts calls paths pool)
    (moved : l.move pool m = some next) :
    ∃ after : List (Progress l), Accounts after paths next ∧
      ∀ c, (calls.flatMap Progress.made).count c ≤ (after.flatMap Progress.made).count c := by
  obtain ⟨named, staged, tally⟩ := accounts
  obtain ⟨before, stage, after, counter, later, lookups, step, rfl⟩ | ⟨_, _, _, _, _, _, rfl⟩ :=
    move_cases moved
  · rw [lookups] at staged
    obtain ⟨left, middle, rfl, here, there⟩ := List.map_eq_append_iff.1 staged
    obtain ⟨call, right, rfl, rfl, rest⟩ := List.map_eq_cons_iff.1 there
    -- The tally takes the counter last, the lookup after what it has made itself.
    have last : ((left ++ call :: right).flatMap Progress.made ++ counter.toList).Perm
        ((left ++ call.next step :: right).flatMap Progress.made) := by
      rw [List.flatMap_append, List.flatMap_cons, List.flatMap_append, List.flatMap_cons,
        show (call.next step).made = call.made ++ counter.toList from rfl, List.append_assoc,
        List.append_assoc, List.append_assoc]
      exact (List.perm_append_comm.append_left _).append_left _
    refine ⟨left ++ call.next step :: right, ⟨?_, ?_, ?_⟩, fun c => ?_⟩
    · rw [← named, List.map_append, List.map_append]
      rfl
    · rw [List.map_append, List.map_cons, here, rest]
      rfl
    · rw [tally, ← Tally.bumpAll_append]
      exact Tally.bumpAll_perm _ last
    · rw [← last.count_eq, List.count_append]
      exact Nat.le_add_right ..
  · exact ⟨calls, ⟨named, staged, tally⟩, fun _ => Nat.le_refl _⟩

theorem accounts_play {l : Lookup} {paths : List String} {reports : Nat} {schedule : List Move}
    {pool : Pool} (played : l.play (.start paths reports) schedule = some pool) :
    ∃ calls : List (Progress l), Accounts calls paths pool := by
  refine play_invariant (P := fun pool => ∃ calls : List (Progress l), Accounts calls paths pool)
    played ⟨_, l.accounts_start paths reports⟩ ?_
  rintro pool m next ⟨calls, accounts⟩ moved
  obtain ⟨after, accounted, -⟩ := accounts_move accounts moved
  exact ⟨after, accounted⟩

section Calls

variable {l : Lookup} (calls : List (Progress l))

theorem Progress.requests_made (call : Progress l) :
    call.made.count .requests = outcomes call.made + if call.stage.inFlight then 1 else 0 := by
  rw [call.count_requests, call.outcomes_made]
  cases call.stage <;> rfl

theorem count_made :
    (calls.flatMap Progress.made).count .requests =
      outcomes (calls.flatMap Progress.made) +
        (calls.map Progress.stage).countP Stage.inFlight := by
  induction calls with
  | nil => rfl
  | cons call more ih =>
    have first := call.requests_made
    simp only [List.flatMap_cons, List.count_append, outcomes_append, List.map_cons,
      List.countP_cons]
    omega

theorem count_made_le (c : Counter) :
    (calls.flatMap Progress.made).count c ≤ (calls.flatMap Progress.made).count .requests := by
  induction calls with
  | nil => exact Nat.le_refl 0
  | cons call more ih =>
    have first := call.count_le_requests c
    simp only [List.flatMap_cons, List.count_append]
    omega

theorem requests_le_length : (calls.flatMap Progress.made).count .requests ≤ calls.length := by
  rw [Tally.count_events (p := fun call => !call.stage.isCalled)]
  · exact List.countP_le_length
  · intro call _
    rw [call.count_requests]
    cases call.stage.isCalled <;> rfl

theorem made_of_returned (done : ∀ call ∈ calls, call.stage.isReturned = true) :
    calls.map Progress.stage =
        (calls.map Progress.path).map (fun path => Stage.returned (l.run path).result) ∧
      calls.flatMap Progress.made =
        (calls.map Progress.path).flatMap fun path => (l.run path).bumps := by
  induction calls with
  | nil => exact ⟨rfl, rfl⟩
  | cons call more ih =>
    obtain ⟨stages, bumps⟩ := ih fun other member => done other (List.mem_cons_of_mem _ member)
    have returned := done call List.mem_cons_self
    have whole := call.whole
    cases at_ : call.stage with
    | returned result =>
      rw [at_] at whole
      obtain ⟨same, all⟩ := Prod.mk.inj whole
      rw [rest, List.append_nil] at all
      constructor
      · rw [List.map_cons, List.map_cons, List.map_cons, stages, at_, same]
        rfl
      · rw [List.flatMap_cons, List.map_cons, List.flatMap_cons, bumps, all]
    | called | counted | located | sourced => simp [at_, Stage.isReturned] at returned

theorem Accounts.shown {calls : List (Progress l)} {paths : List String} {pool : Pool}
    (accounts : Accounts calls paths pool) (few : paths.length < UInt64.size) (c : Counter) :
    pool.tally.shown c = (calls.flatMap Progress.made).count c := by
  have length : calls.length = paths.length := by rw [← accounts.paths, List.length_map]
  have requests := requests_le_length calls
  have behind := count_made_le calls c
  rw [accounts.tally, Tally.shown_bumpAll (by omega)]

end Calls

theorem serve_glossaries (l : Lookup) (t : Tally) (paths : List String) :
    (l.desk.serve t (paths.map (.glossary l.detect))).tally =
      t.bumpAll (paths.flatMap fun path => (l.run path).bumps) := by
  induction paths generalizing t with
  | nil => rfl
  | cons path more ih =>
    rw [List.flatMap_cons, Tally.bumpAll_append]
    exact ih _

theorem advance_isSome (l : Lookup) {stage : Stage} (going : stage.isReturned = false) :
    (l.advance stage).isSome = true := by
  cases stage with
  | called path => rfl
  | counted path =>
    simp only [advance]
    split <;> rfl
  | located locale =>
    simp only [advance]
    split
    · rfl
    · split
      · rfl
      · split <;> rfl
  | sourced locale source =>
    simp only [advance]
    split <;> rfl
  | returned result => cases going

/-- Lookups at the same time, after any schedule, and when all have returned: the counters are then
those of the same lookups one after the other. -/
theorem play_conserves (l : Lookup) (paths : List String) (reports : Nat)
    (few : paths.length < UInt64.size) (schedule : List Move) (pool : Pool)
    (played : l.play (.start paths reports) schedule = some pool) :
    let shown := pool.tally.shown
    shown .requests =
      shown .successes + shown .missing + shown .failures + pool.lookups.countP Stage.inFlight ∧
    shown .fallbacks ≤ shown .requests ∧ shown .defaultUsed ≤ shown .requests ∧
    (∀ stage ∈ pool.lookups, stage.isReturned = false → (l.advance stage).isSome = true) ∧
    ((∀ stage ∈ pool.lookups, stage.isReturned = true) →
      pool.lookups = paths.map (fun path => .returned (l.run path).result) ∧
      ∀ order : List String, order.Perm paths →
        pool.tally = (l.desk.serve .zero (order.map (.glossary l.detect))).tally) := by
  obtain ⟨calls, accounts⟩ := accounts_play played
  have balance := count_made calls
  rw [accounts.stages, outcomes] at balance
  simp only [accounts.shown few]
  refine ⟨balance, count_made_le calls _, count_made_le calls _, fun _ _ => l.advance_isSome,
    fun done => ?_⟩
  have returned : ∀ call ∈ calls, call.stage.isReturned = true := fun call member =>
    done _ (accounts.stages ▸ List.mem_map_of_mem member)
  obtain ⟨stages, bumps⟩ := made_of_returned calls returned
  rw [accounts.paths] at stages bumps
  refine ⟨accounts.stages.symm.trans stages, fun order same => ?_⟩
  -- Nothing of the schedule is left in the bumps but which lookups there were.
  rw [serve_glossaries, accounts.tally, bumps]
  exact Tally.bumpAll_perm _ (same.symm.flatMap_right _)

def inTurns : List Move :=
  [.look 0, .look 1, .look 1, .look 0, .look 0, .look 1, .look 0, .look 1]

theorem inTurns_plays :
    (greeting.play (.start ["/de/start", "/"] 0) inTurns).isSome = true := by decide +kernel

theorem play_conserves_greeting :
    let pool := (greeting.play (.start ["/de/start", "/"] 0) inTurns).get inTurns_plays
    ["/de/start", "/"].length < UInt64.size ∧
      greeting.play (.start ["/de/start", "/"] 0) inTurns = some pool ∧
      (∀ stage ∈ pool.lookups, stage.isReturned = true) ∧
      pool.tally.shown .requests = 2 ∧
      pool.tally =
        (greeting.desk.serve .zero (["/", "/de/start"].map (.glossary greeting.detect))).tally := by
  have few : ["/de/start", "/"].length < UInt64.size := by decide
  have played := (Option.some_get inTurns_plays).symm
  have done : ∀ stage ∈
      ((greeting.play (.start ["/de/start", "/"] 0) inTurns).get inTurns_plays).lookups,
      stage.isReturned = true := by decide +kernel
  obtain ⟨requests, -, -, -, whole⟩ := greeting.play_conserves _ 0 few inTurns _ played
  exact ⟨few, played, done, requests.trans (by decide +kernel),
    (whole done).2 ["/", "/de/start"] (by decide)⟩

end Lookup
end Phrasebook
