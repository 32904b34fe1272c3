/-!
Taking a list apart at marks: the parts of a path between its slashes, of a form between its
ampersands. There is always one part more than there are marks, and putting the marks back between
the parts gives the list again.
-/
namespace Phrasebook.Text

variable {α : Type} [DecidableEq α]

def parts (mark : α) : List α → List (List α)
  | [] => [[]]
  | a :: rest =>
    if a = mark then [] :: parts mark rest
    else
      match parts mark rest with
      | [] => [[a]]
      | first :: more => (a :: first) :: more

theorem parts_ne_nil (mark : α) (as : List α) : parts mark as ≠ [] := by
  cases as with
  | nil => simp [parts]
  | cons a rest =>
    simp only [parts]
    split
    · simp
    · split <;> simp

theorem parts_cons_of_ne {mark a : α} (h : a ≠ mark) (rest : List α) :
    ∃ first more, parts mark rest = first :: more ∧
      parts mark (a :: rest) = (a :: first) :: more := by
  cases e : parts mark rest with
  | nil => exact absurd e (parts_ne_nil mark rest)
  | cons first more => exact ⟨first, more, rfl, by simp [parts, h, e]⟩

theorem mark_not_mem_part {mark : α} {as part : List α} (h : part ∈ parts mark as) :
    mark ∉ part := by
  induction as generalizing part with
  | nil => simp_all [parts]
  | cons a rest ih =>
    by_cases ha : a = mark
    · rcases List.mem_cons.1 (by simpa [parts, ha] using h) with rfl | h
      · exact List.not_mem_nil
      · exact ih h
    · obtain ⟨first, more, e, e'⟩ := parts_cons_of_ne ha rest
      rw [e'] at h
      rcases List.mem_cons.1 h with rfl | h
      · have hf := ih (e ▸ List.mem_cons_self : first ∈ parts mark rest)
        simp [hf, Ne.symm ha]
      · exact ih (e ▸ List.mem_cons_of_mem first h)

theorem intercalate_parts (mark : α) (as : List α) : [mark].intercalate (parts mark as) = as := by
  induction as with
  | nil => simp [parts, List.intercalate]
  | cons a rest ih =>
    by_cases ha : a = mark
    · subst ha
      cases e : parts a rest with
      | nil => exact absurd e (parts_ne_nil a rest)
      | cons first more =>
        rw [e] at ih
        simpa [parts, e, List.intercalate] using ih
    · obtain ⟨first, more, e, e'⟩ := parts_cons_of_ne ha rest
      rw [e']
      rw [e] at ih
      cases more with
      | nil => simpa [List.intercalate] using ih
      | cons second more => simpa [List.intercalate] using ih

theorem parts_of_not_mem {mark : α} {as : List α} (h : mark ∉ as) : parts mark as = [as] := by
  induction as with
  | nil => rfl
  | cons a rest ih =>
    simp only [List.mem_cons, not_or] at h
    simp [parts, Ne.symm h.1, ih h.2]

theorem parts_append {mark : α} {first : List α} (h : mark ∉ first) (rest : List α) :
    parts mark (first ++ mark :: rest) = first :: parts mark rest := by
  induction first with
  | nil => simp [parts]
  | cons a more ih =>
    simp only [List.mem_cons, not_or] at h
    simp [parts, Ne.symm h.1, ih h.2]

/-- Parts without marks are found again when marks are put between them. -/
theorem parts_intercalate {mark : α} {ps : List (List α)} (some_part : ps ≠ [])
    (plain : ∀ p ∈ ps, mark ∉ p) : parts mark ([mark].intercalate ps) = ps := by
  induction ps with
  | nil => exact absurd rfl some_part
  | cons p rest ih =>
    have first := plain p List.mem_cons_self
    cases rest with
    | nil =>
      rw [List.intercalate_singleton]
      exact parts_of_not_mem first
    | cons q more =>
      have onward := ih (List.cons_ne_nil q more) fun r member =>
        plain r (List.mem_cons_of_mem p member)
      rw [List.intercalate_cons_cons, List.append_assoc, List.singleton_append,
        parts_append first, onward]

end Phrasebook.Text
