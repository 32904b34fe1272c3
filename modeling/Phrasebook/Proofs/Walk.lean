import Phrasebook.Proofs.Flatten

/-!
The way through a value. Flattening meets the values that are not objects one after the other, each
under the names that lead to it, and these names stand in ascending order, whole paths compared name
by name. What flattening does with an object is what it does with these values in that order.
-/
namespace Phrasebook

open Json

namespace Json.Value

def isObject : Value → Bool
  | .object _ => true
  | _ => false

mutual

/-- The values in a value that are not objects, in the order of the members, each with the names
that lead to it. -/
def ends : Value → List (List String × Value)
  | .object members => memberEnds members
  | v => [([], v)]

def memberEnds : List (String × Value) → List (List String × Value)
  | [] => []
  | (name, v) :: rest => v.ends.map (fun e => (name :: e.1, e.2)) ++ memberEnds rest

end

theorem memberEnds_eq_flatMap (members : List (String × Value)) :
    memberEnds members = members.flatMap fun m => m.2.ends.map fun e => (m.1 :: e.1, e.2) := by
  induction members with
  | nil => rfl
  | cons m rest ih => rw [memberEnds, List.flatMap_cons, ih]

theorem ends_of_not_object {v : Value} (flat : v.isObject = false) : v.ends = [([], v)] := by
  cases v with
  | object members => cases flat
  | null | bool | number | string | array => rfl

theorem nil_mem_ends {v w : Value} (member : ([], w) ∈ v.ends) : w = v ∧ v.isObject = false := by
  cases v with
  | object members =>
    rw [ends, memberEnds_eq_flatMap] at member
    simp at member
  | null | bool | number | string | array =>
    simp only [ends, List.mem_singleton, Prod.mk.injEq, true_and] at member
    exact ⟨member, rfl⟩

theorem cons_mem_ends {v w : Value} {name : String} {names : List String}
    (member : (name :: names, w) ∈ v.ends) :
    ∃ members u, v = .object members ∧ (name, u) ∈ members ∧ (names, w) ∈ u.ends := by
  cases v with
  | object members =>
    rw [ends, memberEnds_eq_flatMap] at member
    obtain ⟨⟨name', u⟩, here, inside⟩ := List.mem_flatMap.1 member
    obtain ⟨⟨names', w'⟩, onward, same⟩ := List.mem_map.1 inside
    simp only [Prod.mk.injEq, List.cons.injEq] at same
    obtain ⟨⟨rfl, rfl⟩, rfl⟩ := same
    exact ⟨members, u, rfl, here, onward⟩
  | null | bool | number | string | array => simp [ends] at member

theorem leads_of_mem_ends {v w : Value} {names : List String} (member : (names, w) ∈ v.ends) :
    v.Leads names w ∧ w.isObject = false := by
  induction names generalizing v with
  | nil =>
    obtain ⟨rfl, flat⟩ := nil_mem_ends member
    exact ⟨.here w, flat⟩
  | cons name names ih =>
    obtain ⟨members, u, rfl, here, onward⟩ := cons_mem_ends member
    obtain ⟨leads, flat⟩ := ih onward
    exact ⟨.inside here leads, flat⟩

theorem mem_ends_of_leads {v w : Value} {names : List String} (leads : v.Leads names w)
    (flat : w.isObject = false) : (names, w) ∈ v.ends := by
  induction leads with
  | here v =>
    rw [ends_of_not_object flat]
    exact List.mem_singleton_self _
  | @inside members name v w names member onward ih =>
    rw [ends, memberEnds_eq_flatMap]
    apply List.mem_flatMap_of_mem member
    exact List.mem_map_of_mem (ih flat)

theorem mem_ends_iff {v w : Value} {names : List String} :
    (names, w) ∈ v.ends ↔ v.Leads names w ∧ w.isObject = false := by
  constructor
  · exact leads_of_mem_ends
  · rintro ⟨leads, flat⟩
    exact mem_ends_of_leads leads flat

theorem Ordered.ascending_ends {v : Value} (ordered : v.Ordered) :
    v.ends.Pairwise fun a b => a.1 < b.1 := by
  induction ordered with
  | null | bool | number | string | array => exact List.pairwise_singleton _ _
  | @object members ascending each ih =>
    rw [ends, memberEnds_eq_flatMap, List.pairwise_flatMap]
    constructor
    · intro m member
      rw [List.pairwise_map]
      exact (ih m member).imp fun less => List.cons_lt_cons_iff.2 (.inr ⟨rfl, less⟩)
    · refine ascending.imp ?_
      intro m m' less e inside e' inside'
      obtain ⟨_, -, rfl⟩ := List.mem_map.1 inside
      obtain ⟨_, -, rfl⟩ := List.mem_map.1 inside'
      exact List.cons_lt_cons_iff.2 (.inl less)

end Json.Value

namespace Flatten

def keyUnder (key : String) (names : List String) : String := names.foldl join key

def gather : List (Except AssemblyFault (List (String × String))) →
    Except AssemblyFault (List (String × String))
  | [] => .ok []
  | .error fault :: _ => .error fault
  | .ok first :: rest => (gather rest).map (first ++ ·)

theorem gather_singleton (met : Except AssemblyFault (List (String × String))) :
    gather [met] = met := by
  cases met with
  | error fault => rfl
  | ok phrases =>
    show Except.ok (phrases ++ []) = _
    rw [List.append_nil]

theorem gather_append (met more : List (Except AssemblyFault (List (String × String)))) :
    gather (met ++ more) = gather [gather met, gather more] := by
  induction met with
  | nil =>
    show gather more = (gather [gather more]).map ([] ++ ·)
    rw [gather_singleton]
    cases gather more <;> rfl
  | cons first rest ih =>
    cases first with
    | error fault => rfl
    | ok phrases =>
      show (gather (rest ++ more)).map (phrases ++ ·) = _
      rw [ih]
      show _ = gather [(gather rest).map (phrases ++ ·), gather more]
      cases gather rest with
      | error fault => rfl
      | ok others =>
        cases gather more with
        | error fault => rfl
        | ok last => simp [gather, Except.map]

theorem gather_cons (first : Except AssemblyFault (List (String × String)))
    (rest : List (Except AssemblyFault (List (String × String)))) :
    gather (first :: rest) = gather [first, gather rest] := by
  have parts := gather_append [first] rest
  rwa [gather_singleton, List.singleton_append] at parts

theorem gather_cons_nothing (rest : List (Except AssemblyFault (List (String × String)))) :
    gather (.ok [] :: rest) = gather rest := by
  show (gather rest).map ([] ++ ·) = gather rest
  cases gather rest <;> rfl

theorem gather_ok {A : Type} {met : List A} {f : A → Except AssemblyFault (List (String × String))}
    {g : A → List (String × String)} (each : ∀ a ∈ met, f a = .ok (g a)) :
    gather (met.map f) = .ok (met.flatMap g) := by
  induction met with
  | nil => rfl
  | cons a rest ih =>
    have first := each a List.mem_cons_self
    have others := ih fun b member => each b (List.mem_cons_of_mem a member)
    rw [List.map_cons, first, List.flatMap_cons]
    show (gather (rest.map f)).map (g a ++ ·) = _
    rw [others]
    rfl

theorem memberPhrases_cons (key name : String) (v : Value) (rest : List (String × Value)) :
    memberPhrases key ((name, v) :: rest) =
      gather [phrases (join key name) v, memberPhrases key rest] := by
  rw [memberPhrases]
  cases phrases (join key name) v with
  | error fault => rfl
  | ok first =>
    cases memberPhrases key rest with
    | error fault => rfl
    | ok more => simp [gather, Except.map]

mutual

/-- Flattening is flattening what is met on the way, in its order. -/
theorem phrases_eq_gather (key : String) :
    (v : Value) → phrases key v = gather (v.ends.map fun e => phrases (keyUnder key e.1) e.2)
  | .null | .bool _ | .number _ | .string _ | .array _ => (gather_singleton _).symm
  | .object members => by rw [phrases, memberPhrases_eq_gather key members, Value.ends]

theorem memberPhrases_eq_gather (key : String) :
    (members : List (String × Value)) → memberPhrases key members =
      gather ((Value.memberEnds members).map fun e => phrases (keyUnder key e.1) e.2)
  | [] => rfl
  | (name, v) :: rest => by
    rw [memberPhrases_cons, phrases_eq_gather (join key name) v, memberPhrases_eq_gather key rest,
      Value.memberEnds, List.map_append, gather_append, List.map_map]
    rfl

end

end Flatten
end Phrasebook
