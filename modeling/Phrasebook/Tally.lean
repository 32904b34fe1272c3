import Phrasebook.Json.Value

/-!
Counts of what became of lookups. The counters are words of 64 bits and wrap around. A report is
taken counter by counter, requests first and then successes, whose share it states as a percentage.
-/
namespace Phrasebook

open Json

inductive Counter where
  | requests
  | defaultUsed
  | missing
  | fallbacks
  | failures
  | successes
  deriving DecidableEq, Repr

namespace Counter

def all : List Counter := [requests, defaultUsed, missing, fallbacks, failures, successes]

def name : Counter → String
  | requests => "requests"
  | defaultUsed => "default_language_used"
  | missing => "missing_language"
  | fallbacks => "policy_fallbacks"
  | failures => "assembly_failures"
  | successes => "successes"

end Counter

structure Tally where
  requests : UInt64
  defaultUsed : UInt64
  missing : UInt64
  fallbacks : UInt64
  failures : UInt64
  successes : UInt64
  deriving DecidableEq, Repr

namespace Tally

def zero : Tally := ⟨0, 0, 0, 0, 0, 0⟩

def count (t : Tally) : Counter → UInt64
  | .requests => t.requests
  | .defaultUsed => t.defaultUsed
  | .missing => t.missing
  | .fallbacks => t.fallbacks
  | .failures => t.failures
  | .successes => t.successes

def add (t : Tally) (c : Counter) (n : UInt64) : Tally :=
  match c with
  | .requests => { t with requests := t.requests + n }
  | .defaultUsed => { t with defaultUsed := t.defaultUsed + n }
  | .missing => { t with missing := t.missing + n }
  | .fallbacks => { t with fallbacks := t.fallbacks + n }
  | .failures => { t with failures := t.failures + n }
  | .successes => { t with successes := t.successes + n }

def bump (t : Tally) (c : Counter) : Tally := t.add c 1

def bumpAll (t : Tally) (cs : List Counter) : Tally := cs.foldl bump t

def counts (t : Tally) : List UInt64 := Counter.all.map t.count

theorem count_add (t : Tally) (c d : Counter) (n : UInt64) :
    (t.add c n).count d = if d = c then t.count d + n else t.count d := by
  cases c <;> cases d <;> rfl

theorem ext_count {t u : Tally} (h : ∀ c, t.count c = u.count c) : t = u := by
  cases t; cases u
  have r := h .requests; have d := h .defaultUsed; have m := h .missing
  have f := h .fallbacks; have a := h .failures; have s := h .successes
  simp_all [count]

end Tally

/-- What is seen when the counters are read one after another. -/
structure Report where
  seen : Counter → UInt64

namespace Report

def order : List Counter := [.requests, .successes, .defaultUsed, .missing, .fallbacks, .failures]

/-- The percentage of requests that were successes, zero when there were none: the quotient of the
two counts as reals, times one hundred, rounded after each step. -/
def successRate (r : Report) : Option Binary64 :=
  if r.seen .requests = 0 then some (.zero false)
  else do
    let successes ← Binary64.ofNat? (r.seen .successes).toNat
    let requests ← Binary64.ofNat? (r.seen .requests).toNat
    let share ← successes.div? requests
    share.mul? (← Binary64.ofNat? 100)

def toValue (r : Report) (time : String) : Value :=
  let rate :=
    match r.successRate with
    | some x => Value.number (.real x)
    | none => .null
  .object (Counter.all.map (fun c => (c.name, .number (.integer (r.seen c).toNat))) ++
    [("success_rate", rate), ("generated_at", .string time)])

end Report

def Tally.report (t : Tally) : Report := ⟨t.count⟩

end Phrasebook
