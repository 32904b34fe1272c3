import Phrasebook.Proofs.Json.Elements

/-!
Values that are written are read back when their numbers are whole and their brackets are nested no
deeper than a reader goes; a value whose brackets go deeper is refused for that and nothing else.
-/
namespace Phrasebook.Json

namespace Value

/-- All numbers in a value are whole numbers of 64 bits. -/
inductive Whole : Value → Prop where
  | null : Whole .null
  | bool (b : Bool) : Whole (.bool b)
  | number {n : Int} (within : InWords n) : Whole (.number (.integer n))
  | string (s : String) : Whole (.string s)
  | array {items : List Value} (each : ∀ v ∈ items, Whole v) : Whole (.array items)
  | object {members : List (String × Value)} (each : ∀ m ∈ members, Whole m.2) :
      Whole (.object members)

mutual

def depth : Value → Nat
  | .array items => itemsDepth items + 1
  | .object members => membersDepth members + 1
  | _ => 0

def itemsDepth : List Value → Nat
  | [] => 0
  | v :: rest => max v.depth (itemsDepth rest)

def membersDepth : List (String × Value) → Nat
  | [] => 0
  | (_, v) :: rest => max v.depth (membersDepth rest)

end

end Value

theorem scalar_integerChars {n : Int} (within : InWords n) :
    ∃ c more, integerChars n = c :: more ∧ (c = '-' ∨ c.isDigit = true) ∧
      (scalar c).Reads more (.number (.integer n)) := by
  obtain ⟨fits, whole⟩ := wholeNumber_natAbs within
  unfold integerChars
  split
  · rename_i minus
    refine ⟨'-', _, rfl, .inl rfl, fun rest stops => ?_⟩
    rw [decide_eq_true minus] at whole
    simp [scalar, Reader.map, reads_number fits whole rest stops]
  · rename_i plus
    obtain ⟨c, more, digits, digit⟩ := exists_toDigits n.natAbs
    refine ⟨c, more, digits, .inr digit, fun rest stops => ?_⟩
    rw [decide_eq_false plus] at whole
    have read := reads_number fits whole rest stops
    rw [digits, List.cons_append] at read
    have n : c ≠ 'n' := ne_of_isDigit digit (by decide)
    have t : c ≠ 't' := ne_of_isDigit digit (by decide)
    have f : c ≠ 'f' := ne_of_isDigit digit (by decide)
    have sign : c ≠ '-' := ne_of_isDigit digit (by decide)
    simp [scalar, Reader.map, n, t, f, sign, digit, read]

theorem scalar_chars {v : Value} (whole : v.Whole) (flat : v.depth = 0) :
    ∃ c more, v.chars = c :: more ∧ isSpace c = false ∧ c ≠ '[' ∧ c ≠ '{' ∧
      (scalar c).Reads more v := by
  cases whole with
  | null => exact ⟨'n', _, rfl, by decide, by decide, by decide, fun rest _ => rfl⟩
  | bool b =>
    cases b with
    | true => exact ⟨'t', _, rfl, by decide, by decide, by decide, fun rest _ => rfl⟩
    | false => exact ⟨'f', _, rfl, by decide, by decide, by decide, fun rest _ => rfl⟩
  | @number n within =>
    obtain ⟨c, more, chars, first, reads⟩ := scalar_integerChars within
    have starts : isSpace c = false ∧ c ≠ '[' ∧ c ≠ '{' := by
      rcases first with rfl | digit
      · decide
      · simp [isSpace, ne_of_isDigit digit]
    exact ⟨c, more, chars, starts.1, starts.2.1, starts.2.2, reads⟩
  | string s =>
    refine ⟨'"', _, rfl, by decide, by decide, by decide, fun rest _ => ?_⟩
    obtain ⟨body, chars, reads⟩ := stringTail_stringChars s rest
    rw [stringChars, List.cons_append, List.cons.injEq] at chars
    simp [scalar, Reader.map, chars.2, reads]
  | array => cases flat
  | object => cases flat

theorem afterListComma_of_opens {text : List Char} (opens : Opens text) (rest : List Char) :
    afterListComma (text ++ rest) = .ok (text ++ rest) := by
  obtain ⟨c, more, rfl, blank, bracket⟩ := opens
  rw [List.cons_append, afterListComma, skipSpace_cons blank]
  simp [bracket]

def listElements (item : Reader Value) : Elements Value where
  text := Value.chars
  one := item
  written := Value.moreItems
  more := moreItems item
  more_nil _ _ := rfl
  more_cons v vs bound rest := by
    have comma : isSpace ',' = false := by decide
    rw [Value.moreItems, List.cons_append, List.append_assoc, moreItems, skipSpace_cons comma]
    dsimp only
    rw [if_neg (by decide), if_pos rfl, afterListComma_of_opens v.opens_chars]
    rfl
  stops vs rest := by
    cases vs with
    | nil => exact stops_cons (.inr (.inl rfl)) rest
    | cons v vs => exact stops_cons (.inl rfl) _
  longer v vs := by
    simp only [Value.moreItems, List.length_cons, List.length_append]
    omega

theorem items_cons (item : Reader Value) (v : Value) (vs : List Value) :
    ∃ body, (Value.array (v :: vs)).chars = '[' :: body ∧ ∀ rest, items item (body ++ rest) =
      (listElements item).all (v.chars ++ (Value.moreItems vs ++ rest)) := by
  refine ⟨_, rfl, fun rest => ?_⟩
  obtain ⟨c, more, chars, blank, bracket⟩ := v.opens_chars
  rw [List.append_assoc, chars, List.cons_append, items, skipSpace_cons blank]
  dsimp only
  rw [if_neg bracket]
  rfl

theorem items_of_reads {item : Reader Value} {vs : List Value}
    (reads : ∀ v ∈ vs, item.Reads v.chars v) :
    ∃ body, (Value.array vs).chars = '[' :: body ∧
      ∀ rest, items item (body ++ rest) = .ok (vs, rest) := by
  cases vs with
  | nil => exact ⟨[']'], rfl, fun rest => rfl⟩
  | cons v vs =>
    obtain ⟨body, chars, taken⟩ := items_cons item v vs
    exact ⟨body, chars, fun rest => (taken rest).trans ((listElements item).all_of_reads reads rest)⟩

theorem items_of_refused {item : Reader Value} {vs : List Value} {cause : Cause}
    (refused : (listElements item).Refused cause vs) :
    ∃ body, (Value.array vs).chars = '[' :: body ∧
      ∀ rest, ∃ fault, items item (body ++ rest) = .error fault ∧ fault.cause = cause := by
  cases vs with
  | nil => cases refused
  | cons v vs =>
    obtain ⟨body, chars, taken⟩ := items_cons item v vs
    exact ⟨body, chars, fun rest => taken rest ▸ (listElements item).all_of_refused refused rest⟩

def memberTail (m : String × Value) : List Char := (stringChars m.1).tail ++ ':' :: m.2.chars

theorem cons_memberTail (name : String) (v : Value) (rest : List Char) :
    stringChars name ++ ':' :: (v.chars ++ rest) = '"' :: (memberTail (name, v) ++ rest) := by
  simp [memberTail, stringChars]

theorem member_memberTail (item : Reader Value) (m : String × Value) (rest : List Char) :
    member stringTail item (memberTail m ++ rest) =
      (item.map (Prod.mk m.1)) (m.2.chars ++ rest) := by
  obtain ⟨body, chars, taken⟩ := stringTail_stringChars m.1 (':' :: (m.2.chars ++ rest))
  rw [cons_memberTail, List.cons.injEq] at chars
  have mark : colon (':' :: (m.2.chars ++ rest)) = .ok (m.2.chars ++ rest) := rfl
  rw [chars.2, member, taken]
  simp only [bind, Except.bind, mark, Reader.map]
  cases item (m.2.chars ++ rest) <;> rfl

section Member

variable {item : Reader Value} {m : String × Value}

theorem reads_member (reads : item.Reads m.2.chars m.2) :
    (member stringTail item).Reads (memberTail m) m := by
  intro rest stops
  rw [member_memberTail, Reader.map, reads rest stops]

theorem refuses_member {cause : Cause} (refuses : item.Refuses m.2.chars cause) :
    (member stringTail item).Refuses (memberTail m) cause := by
  intro rest stops
  obtain ⟨fault, failed, caused⟩ := refuses rest stops
  rw [member_memberTail, Reader.map, failed]
  exact ⟨fault, rfl, caused⟩

end Member

theorem stops_moreMembers (ms : List (String × Value)) (rest : List Char) :
    Stops (Value.moreMembers ms ++ rest) := by
  cases ms with
  | nil => exact stops_cons (.inr (.inr rfl)) rest
  | cons m ms => exact stops_cons (.inl rfl) _

def objectElements (item : Reader Value) : Elements (String × Value) where
  text := memberTail
  one := member stringTail item
  written := Value.moreMembers
  more := moreMembers stringTail item
  more_nil _ _ := rfl
  more_cons m ms bound rest := by
    have comma : isSpace ',' = false := by decide
    have quote : isSpace '"' = false := by decide
    rw [Value.moreMembers, cons_memberTail, List.cons_append, List.cons_append, List.append_assoc,
      moreMembers, skipSpace_cons comma]
    dsimp only
    rw [if_neg (by decide), if_pos rfl, afterMemberComma, skipSpace_cons quote]
    rfl
  stops := stops_moreMembers
  longer m ms := by
    simp only [Value.moreMembers, List.length_cons, List.length_append]
    omega

theorem members_cons (item : Reader Value) (m : String × Value) (ms : List (String × Value)) :
    ∃ body, (Value.object (m :: ms)).chars = '{' :: body ∧
      ∀ rest, members stringTail item (body ++ rest) =
        (objectElements item).all (memberTail m ++ (Value.moreMembers ms ++ rest)) := by
  refine ⟨_, rfl, fun rest => ?_⟩
  have quote : isSpace '"' = false := by decide
  rw [cons_memberTail, List.cons_append, List.append_assoc, members, skipSpace_cons quote]
  dsimp only
  rw [if_neg (by decide), if_pos rfl]
  rfl

theorem members_of_reads {item : Reader Value} {ms : List (String × Value)}
    (reads : ∀ m ∈ ms, item.Reads m.2.chars m.2) :
    ∃ body, (Value.object ms).chars = '{' :: body ∧
      ∀ rest, members stringTail item (body ++ rest) = .ok (ms, rest) := by
  cases ms with
  | nil => exact ⟨['}'], rfl, fun rest => rfl⟩
  | cons m ms =>
    obtain ⟨body, chars, taken⟩ := members_cons item m ms
    refine ⟨body, chars, fun rest => (taken rest).trans ?_⟩
    exact (objectElements item).all_of_reads (fun n member => reads_member (reads n member)) rest

theorem members_of_refused {item : Reader Value} {ms : List (String × Value)} {cause : Cause}
    (refused : (objectElements item).Refused cause ms) :
    ∃ body, (Value.object ms).chars = '{' :: body ∧
      ∀ rest, ∃ fault, members stringTail item (body ++ rest) = .error fault ∧
        fault.cause = cause := by
  cases ms with
  | nil => cases refused
  | cons m ms =>
    obtain ⟨body, chars, taken⟩ := members_cons item m ms
    exact ⟨body, chars, fun rest => taken rest ▸ (objectElements item).all_of_refused refused rest⟩

namespace Value

theorem depth_le_itemsDepth {v : Value} {items : List Value} (member : v ∈ items) :
    v.depth ≤ itemsDepth items := by
  induction items with
  | nil => cases member
  | cons w rest ih =>
    rw [itemsDepth]
    rcases List.mem_cons.1 member with rfl | member
    · exact Nat.le_max_left _ _
    · exact Nat.le_trans (ih member) (Nat.le_max_right _ _)

theorem exists_of_lt_itemsDepth {d : Nat} {items : List Value} (beyond : d < itemsDepth items) :
    ∃ v ∈ items, d < v.depth := by
  induction items with
  | nil => cases beyond
  | cons w rest ih =>
    rw [itemsDepth] at beyond
    by_cases here : d < w.depth
    · exact ⟨w, List.mem_cons_self, here⟩
    · obtain ⟨v, member, deep⟩ := ih (by omega)
      exact ⟨v, List.mem_cons_of_mem w member, deep⟩

theorem membersDepth_eq (members : List (String × Value)) :
    membersDepth members = itemsDepth (members.map Prod.snd) := by
  induction members with
  | nil => rfl
  | cons m rest ih => rw [membersDepth, ih, List.map_cons, itemsDepth]

end Value

theorem value_of_scalar (d : Nat) {c : Char} (blank : isSpace c = false) (list : c ≠ '[')
    (object : c ≠ '{') (rest : List Char) : value d (c :: rest) = scalar c rest := by
  rw [value, skipSpace_cons blank]
  simp [list, object]

theorem value_of_list (d : Nat) (rest : List Char) :
    value (d + 1) ('[' :: rest) = (items (value d)).map .array rest := by
  have bracket : isSpace '[' = false := by decide
  rw [value, skipSpace_cons bracket]
  rfl

theorem value_of_object (d : Nat) (rest : List Char) :
    value (d + 1) ('{' :: rest) = (members stringTail (value d)).map .object rest := by
  have brace : isSpace '{' = false := by decide
  rw [value, skipSpace_cons brace]
  rfl

theorem reads_value_of_flat {v : Value} (whole : v.Whole) (flat : v.depth = 0) (d : Nat) :
    (value d).Reads v.chars v := by
  obtain ⟨c, more, chars, blank, list, object, reads⟩ := scalar_chars whole flat
  intro rest stops
  rw [chars, List.cons_append, value_of_scalar d blank list object]
  exact reads rest stops

theorem reads_value {v : Value} (whole : v.Whole) {d : Nat} (within : v.depth ≤ d) :
    (value d).Reads v.chars v := by
  induction whole generalizing d with
  | null => exact reads_value_of_flat .null rfl d
  | bool b => exact reads_value_of_flat (.bool b) rfl d
  | number range => exact reads_value_of_flat (.number range) rfl d
  | string s => exact reads_value_of_flat (.string s) rfl d
  | @array vs each ih =>
    rw [Value.depth] at within
    obtain ⟨d, rfl⟩ : ∃ n, d = n + 1 := Nat.exists_eq_succ_of_ne_zero (by omega)
    obtain ⟨body, chars, taken⟩ := items_of_reads fun v member =>
      ih v member (d := d) (by have := Value.depth_le_itemsDepth member; omega)
    intro rest stops
    rw [chars, List.cons_append, value_of_list, Reader.map, taken]
  | @object ms each ih =>
    rw [Value.depth, Value.membersDepth_eq] at within
    obtain ⟨d, rfl⟩ : ∃ n, d = n + 1 := Nat.exists_eq_succ_of_ne_zero (by omega)
    obtain ⟨body, chars, taken⟩ := members_of_reads fun m member =>
      ih m member (d := d) (by
        have := Value.depth_le_itemsDepth (List.mem_map_of_mem (f := Prod.snd) member)
        omega)
    intro rest stops
    rw [chars, List.cons_append, value_of_object, Reader.map, taken]

theorem refuses_bracket {bracket : Char} (opening : bracket = '[' ∨ bracket = '{') (more : List Char) :
    (value 0).Refuses (bracket :: more) .tooDeep := by
  intro rest stops
  refine ⟨⟨.tooDeep, bracket :: (more ++ rest), true⟩, ?_, rfl⟩
  have blank : isSpace bracket = false := by rcases opening with rfl | rfl <;> decide
  rw [List.cons_append, value, skipSpace_cons blank]
  rcases opening with rfl | rfl <;> rfl

/-- Brackets nested deeper than a reader goes are refused for that, wherever they stand. -/
theorem refuses_value {v : Value} (whole : v.Whole) {d : Nat} (beyond : d < v.depth) :
    (value d).Refuses v.chars .tooDeep := by
  induction whole generalizing d with
  | null | bool | number | string => cases beyond
  | @array vs each ih =>
    cases d with
    | zero => cases vs <;> exact refuses_bracket (.inl rfl) _
    | succ d =>
      rw [Value.depth] at beyond
      obtain ⟨deep, member, below⟩ := Value.exists_of_lt_itemsDepth (Nat.lt_of_succ_lt_succ beyond)
      have refused : (listElements (value d)).Refused .tooDeep vs :=
        Elements.refused_of_mem _ Value.depth
          (fun v inside within => reads_value (each v inside) within)
          (fun v inside beyond => ih v inside beyond) member below
      obtain ⟨body, chars, taken⟩ := items_of_refused refused
      intro rest stops
      obtain ⟨fault, failed, caused⟩ := taken rest
      rw [chars, List.cons_append, value_of_list, Reader.map, failed]
      exact ⟨fault, rfl, caused⟩
  | @object ms each ih =>
    cases d with
    | zero => cases ms <;> exact refuses_bracket (.inr rfl) _
    | succ d =>
      rw [Value.depth, Value.membersDepth_eq] at beyond
      obtain ⟨v, inside, below⟩ := Value.exists_of_lt_itemsDepth (Nat.lt_of_succ_lt_succ beyond)
      obtain ⟨deep, member, rfl⟩ := List.mem_map.1 inside
      have refused : (objectElements (value d)).Refused .tooDeep ms :=
        Elements.refused_of_mem _ (fun m => m.2.depth)
          (fun m inside within => reads_member (reads_value (each m inside) within))
          (fun m inside beyond => refuses_member (ih m inside beyond)) member below
      obtain ⟨body, chars, taken⟩ := members_of_refused refused
      intro rest stops
      obtain ⟨fault, failed, caused⟩ := taken rest
      rw [chars, List.cons_append, value_of_object, Reader.map, failed]
      exact ⟨fault, rfl, caused⟩

end Phrasebook.Json
