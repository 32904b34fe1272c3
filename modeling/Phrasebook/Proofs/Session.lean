import Phrasebook.Proofs.Lookup

/-!
Long use of a program that counts. It is asked one question after the other, and each reply, given
at the counters as the questions before left them, tells which counters it bumps.
-/
namespace Phrasebook

structure Turn (Q R : Type) where
  question : Q
  reply : R

structure Session (Q R : Type) where
  tally : Tally
  turns : List (Turn Q R)

/-- What replies, and what its replies count. -/
structure Desk (Q R : Type) where
  reply : Tally → Q → R
  bumps : R → List Counter

namespace Desk

variable {Q R : Type} (d : Desk Q R)

def serve (t : Tally) : List Q → Session Q R
  | [] => ⟨t, []⟩
  | q :: rest =>
    let reply := d.reply t q
    let later := serve (t.bumpAll (d.bumps reply)) rest
    ⟨later.tally, ⟨q, reply⟩ :: later.turns⟩

theorem serve_tally (t : Tally) (questions : List Q) :
    (d.serve t questions).tally =
      t.bumpAll ((d.serve t questions).turns.flatMap fun turn => d.bumps turn.reply) := by
  induction questions generalizing t with
  | nil => rfl
  | cons q rest ih => rw [serve, List.flatMap_cons, Tally.bumpAll_append, ← ih]

theorem serve_questions (t : Tally) (questions : List Q) :
    (d.serve t questions).turns.map Turn.question = questions := by
  induction questions generalizing t with
  | nil => rfl
  | cons q rest ih => rw [serve, List.map_cons, ih]

theorem length_turns (t : Tally) (questions : List Q) :
    (d.serve t questions).turns.length = questions.length := by
  rw [← List.length_map (f := Turn.question), serve_questions]

theorem serve_append (t : Tally) (first second : List Q) :
    (d.serve t (first ++ second)).tally = (d.serve (d.serve t first).tally second).tally := by
  induction first generalizing t with
  | nil => rfl
  | cons q rest ih => exact ih _

theorem reply_of_mem_serve {t : Tally} {questions : List Q} {turn : Turn Q R}
    (h : turn ∈ (d.serve t questions).turns) : ∃ at_ q, turn = ⟨q, d.reply at_ q⟩ := by
  induction questions generalizing t with
  | nil => cases h
  | cons q rest ih =>
    rcases List.mem_cons.1 h with rfl | h
    · exact ⟨t, q, rfl⟩
    · exact ih h

section Fresh

variable {d} {questions : List Q} (few : questions.length < UInt64.size)
include few

/-- A counter that each turn bumps once or not at all shows the number of turns that do. -/
theorem shown_serve {c : Counter} {p : Turn Q R → Bool}
    (each : ∀ at_ q, (d.bumps (d.reply at_ q)).count c = if p ⟨q, d.reply at_ q⟩ then 1 else 0) :
    (d.serve .zero questions).tally.shown c = (d.serve .zero questions).turns.countP p := by
  rw [serve_tally]
  apply Tally.shown_events
  · rw [length_turns]
    exact few
  · intro turn member
    obtain ⟨at_, q, rfl⟩ := d.reply_of_mem_serve member
    exact each at_ q

theorem shown_serve_of_once {c : Counter} (once : ∀ at_ q, (d.bumps (d.reply at_ q)).count c ≤ 1) :
    (d.serve .zero questions).tally.shown c =
      ((d.serve .zero questions).turns.flatMap fun turn => d.bumps turn.reply).count c := by
  rw [serve_tally]
  apply Tally.shown_bumpAll
  have bound : ((d.serve .zero questions).turns.flatMap fun turn => d.bumps turn.reply).count c ≤
      (d.serve .zero questions).turns.length := by
    apply Tally.count_flatMap_le
    intro turn member
    obtain ⟨at_, q, rfl⟩ := d.reply_of_mem_serve member
    exact once at_ q
  rw [length_turns] at bound
  omega

theorem balance_serve {p : Turn Q R → Bool}
    (single : ∀ at_ q,
      (d.bumps (d.reply at_ q)).count .requests = if p ⟨q, d.reply at_ q⟩ then 1 else 0)
    (balanced : ∀ at_ q, Tally.Balanced (d.bumps (d.reply at_ q))) :
    let t := (d.serve .zero questions).tally
    t.shown .requests = t.shown .successes + t.shown .missing + t.shown .failures ∧
      t.shown .fallbacks ≤ t.shown .successes + t.shown .failures ∧
      t.shown .defaultUsed ≤ t.shown .requests := by
  have together : Tally.Balanced
      ((d.serve .zero questions).turns.flatMap fun turn => d.bumps turn.reply) := by
    refine .flatMap fun turn member => ?_
    obtain ⟨at_, q, rfl⟩ := d.reply_of_mem_serve member
    exact balanced at_ q
  refine together.shown ?_ (d.serve_tally .zero questions)
  rw [Tally.count_events (p := p)]
  · have bound := List.countP_le_length (p := p) (l := (d.serve .zero questions).turns)
    rw [length_turns] at bound
    omega
  · intro turn member
    obtain ⟨at_, q, rfl⟩ := d.reply_of_mem_serve member
    exact single at_ q

end Fresh

end Desk
end Phrasebook
