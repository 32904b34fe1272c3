import Phrasebook.Proofs.Json.Scalar

/-!
What stands in brackets. Lists, objects and their parts are written and read element by element, so
both are a case of one argument: elements that are read one by one are read together, and when one
of them is refused so are all.
-/
namespace Phrasebook.Json

def Reader.before {β : Type} (one : Reader β) (more : Reader (List β)) : Reader (List β) :=
  fun cs => do
    let (b, rest) ← one cs
    let (bs, rest) ← more rest
    return (b :: bs, rest)

/-- How the elements in brackets are written and read: one by `text` and `one`, and those after the
first one, with the closing bracket, by `written` and, for at most so many of them, by `more`. -/
structure Elements (β : Type) where
  text : β → List Char
  one : Reader β
  written : List β → List Char
  more : Nat → Reader (List β)
  more_nil : ∀ bound rest, more (bound + 1) (written [] ++ rest) = .ok ([], rest)
  more_cons : ∀ b bs bound rest, more (bound + 1) (written (b :: bs) ++ rest) =
    one.before (more bound) (text b ++ (written bs ++ rest))
  stops : ∀ bs rest, Stops (written bs ++ rest)
  longer : ∀ b bs, (written bs).length < (written (b :: bs)).length

namespace Elements

variable {β : Type} (e : Elements β)

/-- Some element is refused, and those before it are read. -/
inductive Refused (cause : Cause) : List β → Prop where
  | here {b : β} {bs : List β} (refuses : e.one.Refuses (e.text b) cause) : Refused cause (b :: bs)
  | later {b : β} {bs : List β} (reads : e.one.Reads (e.text b) b) (others : Refused cause bs) :
      Refused cause (b :: bs)

theorem refused_of_mem {bs : List β} {cause : Cause} (size : β → Nat) {limit : Nat}
    (reads : ∀ b ∈ bs, size b ≤ limit → e.one.Reads (e.text b) b)
    (refuses : ∀ b ∈ bs, limit < size b → e.one.Refuses (e.text b) cause)
    {b : β} (member : b ∈ bs) (beyond : limit < size b) : e.Refused cause bs := by
  induction bs with
  | nil => cases member
  | cons c bs ih =>
    by_cases first : limit < size c
    · exact .here (refuses c List.mem_cons_self first)
    · have other : b ∈ bs := (List.mem_cons.1 member).resolve_left fun same => first (same ▸ beyond)
      exact .later (reads c List.mem_cons_self (Nat.le_of_not_lt first))
        (ih (fun d inside => reads d (List.mem_cons_of_mem c inside))
          (fun d inside => refuses d (List.mem_cons_of_mem c inside)) other)

/-- The bound that the length of a text gives is enough for the elements in it. -/
theorem length_lt (bs : List β) (rest : List Char) :
    bs.length < (e.written bs ++ rest).length + 1 := by
  have short : bs.length ≤ (e.written bs).length := by
    induction bs with
    | nil => exact Nat.zero_le _
    | cons b bs ih =>
      have := e.longer b bs
      rw [List.length_cons]
      omega
  rw [List.length_append]
  omega

section Before

variable {b : β} {bs : List β} {rest : List Char} {more : Reader (List β)}

theorem before_of_reads (reads : e.one.Reads (e.text b) b)
    (others : more (e.written bs ++ rest) = .ok (bs, rest)) :
    e.one.before more (e.text b ++ (e.written bs ++ rest)) = .ok (b :: bs, rest) := by
  rw [Reader.before, reads _ (e.stops bs rest)]
  show (more (e.written bs ++ rest) >>= _) = _
  rw [others]
  rfl

theorem before_of_refuses {cause : Cause} (refuses : e.one.Refuses (e.text b) cause) :
    ∃ fault, e.one.before more (e.text b ++ (e.written bs ++ rest)) = .error fault ∧
      fault.cause = cause := by
  obtain ⟨fault, failed, caused⟩ := refuses _ (e.stops bs rest)
  rw [Reader.before, failed]
  exact ⟨fault, rfl, caused⟩

theorem before_of_fails {cause : Cause} (reads : e.one.Reads (e.text b) b)
    (others : ∃ fault, more (e.written bs ++ rest) = .error fault ∧ fault.cause = cause) :
    ∃ fault, e.one.before more (e.text b ++ (e.written bs ++ rest)) = .error fault ∧
      fault.cause = cause := by
  obtain ⟨fault, failed, caused⟩ := others
  rw [Reader.before, reads _ (e.stops bs rest)]
  show ∃ fault, (more (e.written bs ++ rest) >>= _) = _ ∧ _
  rw [failed]
  exact ⟨fault, rfl, caused⟩

end Before

theorem more_of_reads {bs : List β} (reads : ∀ b ∈ bs, e.one.Reads (e.text b) b) {bound : Nat}
    (enough : bs.length < bound) (rest : List Char) :
    e.more bound (e.written bs ++ rest) = .ok (bs, rest) := by
  induction bs generalizing bound with
  | nil =>
    obtain ⟨bound, rfl⟩ := Nat.exists_eq_add_of_lt enough
    exact e.more_nil _ rest
  | cons b bs ih =>
    obtain ⟨bound, rfl⟩ : ∃ n, bound = n + 1 := Nat.exists_eq_succ_of_ne_zero (by omega)
    rw [e.more_cons]
    exact e.before_of_reads (reads b List.mem_cons_self)
      (ih (fun c member => reads c (List.mem_cons_of_mem b member)) (Nat.lt_of_succ_lt_succ enough))

theorem more_of_refused {bs : List β} {cause : Cause} (refused : e.Refused cause bs) {bound : Nat}
    (enough : bs.length < bound) (rest : List Char) :
    ∃ fault, e.more bound (e.written bs ++ rest) = .error fault ∧ fault.cause = cause := by
  induction refused generalizing bound with
  | here refuses =>
    obtain ⟨bound, rfl⟩ : ∃ n, bound = n + 1 := Nat.exists_eq_succ_of_ne_zero (by omega)
    rw [e.more_cons]
    exact e.before_of_refuses refuses
  | later reads others ih =>
    obtain ⟨bound, rfl⟩ : ∃ n, bound = n + 1 := Nat.exists_eq_succ_of_ne_zero (by omega)
    rw [e.more_cons]
    exact e.before_of_fails reads (ih (Nat.lt_of_succ_lt_succ enough))

def all : Reader (List β) := e.one.before fun rest => e.more (rest.length + 1) rest

theorem all_of_reads {b : β} {bs : List β} (reads : ∀ c ∈ b :: bs, e.one.Reads (e.text c) c)
    (rest : List Char) : e.all (e.text b ++ (e.written bs ++ rest)) = .ok (b :: bs, rest) :=
  e.before_of_reads (reads b List.mem_cons_self)
    (e.more_of_reads (fun c member => reads c (List.mem_cons_of_mem b member))
      (e.length_lt bs rest) rest)

theorem all_of_refused {b : β} {bs : List β} {cause : Cause} (refused : e.Refused cause (b :: bs))
    (rest : List Char) :
    ∃ fault, e.all (e.text b ++ (e.written bs ++ rest)) = .error fault ∧ fault.cause = cause := by
  cases refused with
  | here refuses => exact e.before_of_refuses refuses
  | later reads others =>
    exact e.before_of_fails reads (e.more_of_refused others (e.length_lt bs rest) rest)

end Elements
end Phrasebook.Json
