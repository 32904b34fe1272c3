import Phrasebook.Proofs.Schedule

/-!
What a report shows that is read while lookups go on. It reads the requests first and the successes
next, and a lookup can begin and end between the two; then it shows more successes than requests.
What it shows was counted by the time it was read.
-/
namespace Phrasebook.Lookup

/-- One lookup is done when the requests are read, and another before the successes are. -/
def overtaking : List Move :=
  List.replicate 4 (.look 0) ++ [.read 0] ++ List.replicate 4 (.look 1) ++
    List.replicate 5 (.read 0)

theorem overtaking_plays :
    (greeting.play (.start ["/", "/"] 1) overtaking).isSome = true := by decide +kernel

def overtaken : Reading :=
  ⟨[(.requests, 1), (.successes, 2), (.defaultUsed, 2), (.missing, 0), (.fallbacks, 0),
    (.failures, 0)], []⟩

theorem overtaken_mem :
    overtaken ∈ ((greeting.play (.start ["/", "/"] 1) overtaking).get overtaking_plays).readings := by
  decide +kernel

/-- A report can show twice as many successes as requests. -/
theorem successes_exceed_requests :
    ∃ schedule pool reading report, greeting.play (.start ["/", "/"] 1) schedule = some pool ∧
      reading ∈ pool.readings ∧ reading.report? = some report ∧
      report.seen .requests = 1 ∧ report.seen .successes = 2 ∧
      report.successRate = Binary64.ofNat? 200 :=
  ⟨overtaking, _, overtaken, _, (Option.some_get overtaking_plays).symm, overtaken_mem, rfl, rfl,
    rfl, by decide +kernel⟩

/-- The numbers that readings have seen are no higher than what lookups have counted. -/
def Behind {l : Lookup} (calls : List (Progress l)) (pool : Pool) : Prop :=
  ∀ reading ∈ pool.readings, ∀ c v, (c, v) ∈ reading.seen →
    v.toNat ≤ (calls.flatMap Progress.made).count c

theorem behind_move {l : Lookup} {paths : List String} {pool next : Pool} {m : Move}
    {calls : List (Progress l)} (few : paths.length < UInt64.size)
    (accounts : Accounts calls paths pool) (behind : Behind calls pool)
    (moved : l.move pool m = some next) :
    ∃ after : List (Progress l), Accounts after paths next ∧ Behind after next := by
  obtain ⟨after, accounted, grown⟩ := accounts_move accounts moved
  refine ⟨after, accounted, fun reading member c v seen => ?_⟩
  refine Nat.le_trans ?_ (grown c)
  obtain ⟨_, _, _, _, _, _, _, rfl⟩ | ⟨left, before, d, todo, right, readings, rfl⟩ :=
    move_cases moved
  · exact behind reading member c v seen
  · rcases List.mem_append.1 member with here | there
    · exact behind reading (readings ▸ List.mem_append_left _ here) c v seen
    · rcases List.mem_cons.1 there with rfl | there
      · rcases List.mem_append.1 seen with seen | now
        · exact behind ⟨before, d :: todo⟩
            (readings ▸ List.mem_append_right _ List.mem_cons_self) c v seen
        · obtain ⟨rfl, rfl⟩ : c = d ∧ v = pool.tally.count d := by simpa using now
          exact Nat.le_of_eq (accounts.shown few c)
      · exact behind reading
          (readings ▸ List.mem_append_right _ (List.mem_cons_of_mem _ there)) c v seen

theorem behind_play {l : Lookup} {paths : List String} {reports : Nat} {schedule : List Move}
    {pool : Pool} (few : paths.length < UInt64.size)
    (played : l.play (.start paths reports) schedule = some pool) :
    ∃ calls : List (Progress l), Accounts calls paths pool ∧ Behind calls pool := by
  refine play_invariant
    (P := fun pool => ∃ calls : List (Progress l), Accounts calls paths pool ∧ Behind calls pool)
    played ⟨_, l.accounts_start paths reports, fun reading member c v seen => ?_⟩ ?_
  · obtain rfl := List.eq_of_mem_replicate member
    cases seen
  · rintro pool m next ⟨calls, accounts, behind⟩ moved
    exact behind_move few accounts behind moved

/-- The numbers of a report do not exceed what is counted by the end of it, and its successes do not
exceed the requests; so they do not exceed those that it shows when no lookup has begun since. -/
theorem report_within_requests (l : Lookup) (paths : List String) (reports : Nat)
    (few : paths.length < UInt64.size) (schedule : List Move) (pool : Pool)
    (played : l.play (.start paths reports) schedule = some pool) (reading : Reading)
    (member : reading ∈ pool.readings) (report : Report) (read : reading.report? = some report) :
    (∀ c, (report.seen c).toNat ≤ pool.tally.shown c) ∧
    (report.seen .successes).toNat ≤ pool.tally.shown .requests ∧
    (report.seen .requests = pool.tally.count .requests →
      (report.seen .successes).toNat ≤ (report.seen .requests).toNat) := by
  obtain ⟨calls, accounts, behind⟩ := behind_play few played
  have within : ∀ c, (report.seen c).toNat ≤ (calls.flatMap Progress.made).count c := by
    intro c
    obtain ⟨-, rfl⟩ : reading.todo = [] ∧ _ = report := by
      simpa [Reading.report?] using read
    dsimp only
    cases looked : reading.seen.lookup c with
    | none => exact Nat.zero_le _
    | some v =>
      obtain ⟨before, after, whole, -⟩ := List.lookup_eq_some_iff.1 looked
      exact behind reading member c v (whole ▸ List.mem_append_right _ List.mem_cons_self)
  have successes : (report.seen .successes).toNat ≤ pool.tally.shown .requests := by
    rw [accounts.shown few]
    exact Nat.le_trans (within _) (count_made_le calls _)
  refine ⟨fun c => ?_, successes, fun same => ?_⟩
  · rw [accounts.shown few]
    exact within c
  · rw [same]
    exact successes

theorem report_within_requests_overtaking :
    let pool := (greeting.play (.start ["/", "/"] 1) overtaking).get overtaking_plays
    ["/", "/"].length < UInt64.size ∧
      greeting.play (.start ["/", "/"] 1) overtaking = some pool ∧ overtaken ∈ pool.readings ∧
      ∃ report, overtaken.report? = some report ∧
        (report.seen .successes).toNat ≤ pool.tally.shown .requests := by
  have few : ["/", "/"].length < UInt64.size := by decide
  have played := (Option.some_get overtaking_plays).symm
  have within :=
    greeting.report_within_requests _ 1 few overtaking _ played overtaken overtaken_mem _ rfl
  exact ⟨few, played, overtaken_mem, _, rfl, within.2.1⟩

end Phrasebook.Lookup
