import Phrasebook.Json.Value

/-!
What a table keeps of the entries that it is made from: the last of each key, and all of them when
they stand in order already. A value whose objects are in order is left as it is when they are put
in order.
-/
namespace Phrasebook

/-- Where each step writes a value or leaves the one that is there, the last one written is seen. -/
theorem foldl_eq_last {σ α β : Type} {step : σ → α → σ} (seen : σ → Option β) (writes : α → Bool)
    (value : α → β)
    (each : ∀ s a, seen (step s a) = if writes a then some (value a) else seen s)
    (s : σ) (xs : List α) :
    seen (xs.foldl step s) = ((xs.filter writes).getLast?.map value).or (seen s) := by
  induction xs generalizing s with
  | nil => rfl
  | cons first rest ih =>
    rw [List.foldl_cons, ih, each]
    by_cases written : writes first = true
    · rw [List.filter_cons_of_pos written, List.getLast?_cons, if_pos written]
      cases (rest.filter writes).getLast? <;> rfl
    · rw [List.filter_cons_of_neg written, if_neg written]

theorem getLast?_eq_some_iff_of_pairwise {α : Type} {before : α → α → Prop}
    (asymm : ∀ {a b}, before a b → ¬before b a) {xs : List α} (ordered : xs.Pairwise before)
    {x : α} : xs.getLast? = some x ↔ x ∈ xs ∧ ∀ y ∈ xs, ¬before x y := by
  constructor
  · intro last
    obtain ⟨front, rfl⟩ := List.getLast?_eq_some_iff.1 last
    constructor
    · simp
    · intro y member
      rcases List.mem_append.1 member with earlier | here
      · exact asymm ((List.pairwise_append.1 ordered).2.2 y earlier x (List.mem_singleton_self x))
      · obtain rfl := List.mem_singleton.1 here
        exact fun self => asymm self self
  · rintro ⟨member, greatest⟩
    obtain ⟨last, ends⟩ := Option.isSome_iff_exists.1
      (List.getLast?_isSome.2 (List.ne_nil_of_mem member))
    obtain ⟨front, rfl⟩ := List.getLast?_eq_some_iff.1 ends
    rcases List.mem_append.1 member with earlier | here
    · have later := (List.pairwise_append.1 ordered).2.2 x earlier last (List.mem_singleton_self _)
      exact absurd later (greatest last (by simp))
    · rw [ends, List.mem_singleton.1 here]

theorem getLast?_filter_eq_some_iff {α : Type} {wanted : α → Bool} {xs : List α} {x : α} :
    (xs.filter wanted).getLast? = some x ↔ ∃ before after, xs = before ++ x :: after ∧
      wanted x = true ∧ ∀ later ∈ after, wanted later = false := by
  rw [List.getLast?_eq_head?_reverse, ← List.filter_reverse, List.head?_filter,
    List.find?_eq_some_iff_append]
  constructor
  · rintro ⟨here, after, before, whole, others⟩
    refine ⟨before.reverse, after.reverse, ?_, here, ?_⟩
    · rw [← List.reverse_reverse xs, whole]
      simp
    · intro later member
      simpa using others later (List.mem_reverse.1 member)
  · rintro ⟨before, after, rfl, here, others⟩
    refine ⟨here, after.reverse, before.reverse, by simp, ?_⟩
    intro later member
    simpa using others later (List.mem_reverse.1 member)

namespace Entries

variable {α : Type}

theorem insert_of_greater {key : String} {value : α} {es : List (String × α)}
    (greater : ∀ e ∈ es, e.1 < key) : insert key value es = es ++ [(key, value)] := by
  induction es with
  | nil => rfl
  | cons e rest ih =>
    have here := greater e List.mem_cons_self
    have below : ¬key < e.1 := fun above => String.lt_irrefl key (String.lt_trans above here)
    rw [insert, if_neg below, if_pos here,
      ih fun other member => greater other (List.mem_cons_of_mem e member)]
    rfl

theorem foldl_insert_of_ascending {pairs es : List (String × α)} (h : Ascending (es ++ pairs)) :
    pairs.foldl (fun es p => insert p.1 p.2 es) es = es ++ pairs := by
  induction pairs generalizing es with
  | nil => exact (List.append_nil es).symm
  | cons p rest ih =>
    have greater : ∀ e ∈ es, e.1 < p.1 := fun e member =>
      (List.pairwise_append.1 h).2.2 e member p List.mem_cons_self
    rw [List.foldl_cons, insert_of_greater greater, ih (by simpa using h), List.append_assoc]
    rfl

theorem ofList_of_ascending {pairs : List (String × α)} (h : Ascending pairs) :
    ofList pairs = pairs :=
  foldl_insert_of_ascending h

theorem find?_of_less {key : String} {es : List (String × α)} (less : ∀ e ∈ es, key < e.1) :
    find? key es = none := by
  induction es with
  | nil => rfl
  | cons e rest ih =>
    have here := less e List.mem_cons_self
    have differs : e.1 ≠ key := by
      intro same
      rw [same] at here
      exact String.lt_irrefl key here
    rw [find?, if_neg differs]
    apply ih
    intro other member
    exact less other (List.mem_cons_of_mem e member)

theorem length_insert (key : String) (value : α) {es : List (String × α)}
    (ascending : Ascending es) : (insert key value es).length =
      if (find? key es).isSome then es.length else es.length + 1 := by
  induction es with
  | nil => simp [insert, find?]
  | cons e rest ih =>
    obtain ⟨k, v⟩ := e
    obtain ⟨later, onward⟩ := List.pairwise_cons.1 ascending
    simp only [insert]
    split
    · rename_i less
      have absent : find? key ((k, v) :: rest) = none := by
        apply find?_of_less
        intro other member
        rcases List.mem_cons.1 member with rfl | member
        · exact less
        · exact String.lt_trans less (later other member)
      simp [absent]
    · split
      · rename_i greater
        have differs : k ≠ key := by
          intro same
          rw [same] at greater
          exact String.lt_irrefl key greater
        rw [List.length_cons, ih onward, find?, if_neg differs]
        split <;> simp
      · rename_i notLess notGreater
        have same := eq_of_not_lt notGreater notLess
        simp [find?, same]

end Entries

theorem Table.size_insert {α : Type} (t : Table α) (key : String) (value : α) :
    (t.insert key value).size = if t.contains key then t.size else t.size + 1 :=
  Entries.length_insert key value t.ascending

theorem Table.ofList_entries {α : Type} (t : Table α) : Table.ofList t.entries = t := by
  cases t with
  | mk entries ascending =>
    simp only [Table.ofList, Entries.ofList_of_ascending ascending]

theorem Table.ascending_keys {α : Type} (t : Table α) : t.keys.Pairwise (· < ·) :=
  List.pairwise_map.2 t.ascending

theorem Table.get?_ofList {α : Type} (pairs : List (String × α)) (key : String) :
    (Table.ofList pairs).get? key =
      ((pairs.filter fun p => p.1 = key).getLast?).map Prod.snd := by
  have each (es : List (String × α)) (p : String × α) :
      Entries.find? key (Entries.insert p.1 p.2 es) =
        if decide (p.1 = key) = true then some p.2 else Entries.find? key es := by
    rw [Entries.find?_insert]
    simp only [decide_eq_true_eq]
  have kept := foldl_eq_last (Entries.find? key) (fun p => p.1 = key) Prod.snd each [] pairs
  exact kept.trans Option.or_none

namespace Json.Value

theorem orderedItems_eq (items : List Value) : orderedItems items = items.map ordered := by
  induction items with
  | nil => rfl
  | cons v rest ih => rw [orderedItems, ih, List.map_cons]

theorem orderedMembers_eq (members : List (String × Value)) :
    orderedMembers members = members.map fun m => (m.1, m.2.ordered) := by
  induction members with
  | nil => rfl
  | cons m rest ih => rw [orderedMembers, ih, List.map_cons]

theorem Ordered.ordered_eq {v : Value} (h : v.Ordered) : v.ordered = v := by
  induction h with
  | null | bool | number | string => rfl
  | array each ih =>
    rw [ordered, orderedItems_eq, List.map_congr_left ih, List.map_id']
  | @object members ascending each ih =>
    have same : members.map (fun m => (m.1, m.2.ordered)) = members := by
      rw [List.map_congr_left (g := id) fun m member => by rw [ih m member]; rfl, List.map_id]
    rw [ordered, orderedMembers_eq, same, Entries.ofList_of_ascending ascending]

end Json.Value
end Phrasebook
