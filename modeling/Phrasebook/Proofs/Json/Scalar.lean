import Phrasebook.Json.Reader
import Phrasebook.Json.Value

/-!
Strings and whole numbers that are written are read back, whatever stands after them. A string ends
at its own quote; a number goes on as long as there are digits, a point or an exponent, so it needs
something else after it, as it has everywhere in a text that is written.
-/
namespace Phrasebook.Json

/-- What stands after a value: nothing, a comma or a closing bracket. -/
def Stops (rest : List Char) : Prop := ∀ c ∈ rest.head?, c = ',' ∨ c = ']' ∨ c = '}'

theorem stops_nil : Stops [] := by simp [Stops]

theorem stops_cons {c : Char} (h : c = ',' ∨ c = ']' ∨ c = '}') (rest : List Char) :
    Stops (c :: rest) := by
  intro d member
  obtain rfl := Option.mem_some.1 member
  exact h

theorem Stops.cases {rest : List Char} (stops : Stops rest) :
    rest = [] ∨ ∃ c more, rest = c :: more ∧ (c = ',' ∨ c = ']' ∨ c = '}') := by
  cases rest with
  | nil => exact .inl rfl
  | cons c more => exact .inr ⟨c, more, rfl, stops c rfl⟩

def Opens (text : List Char) : Prop :=
  ∃ c more, text = c :: more ∧ isSpace c = false ∧ c ≠ ']'

/-- Whether a reader takes `a` off the front of what begins with `text`. -/
def Reader.Reads {α : Type} (read : Reader α) (text : List Char) (a : α) : Prop :=
  ∀ rest, Stops rest → read (text ++ rest) = .ok (a, rest)

/-- Whether a reader fails on what begins with `text`, for a cause that lies in `text`. -/
def Reader.Refuses {α : Type} (read : Reader α) (text : List Char) (cause : Cause) : Prop :=
  ∀ rest, Stops rest → ∃ fault, read (text ++ rest) = .error fault ∧ fault.cause = cause

theorem skipSpace_cons {c : Char} (h : isSpace c = false) (rest : List Char) :
    skipSpace (c :: rest) = c :: rest := by
  rw [skipSpace, List.dropWhile_cons, h]
  rfl

theorem hexWord?_control {n : Nat} (control : n < 32) :
    hexWord? '0' '0' (Text.hexDigit (n / 16)) (Text.hexDigit (n % 16)) = some n := by
  have zero : Text.hexValue? '0' = some 0 := by decide
  have high := Text.hexValue?_hexDigit (n / 16) (by omega)
  have low := Text.hexValue?_hexDigit (n % 16) (by omega)
  have whole : 16 * (n / 16) + n % 16 = n := by omega
  simp [hexWord?, Text.hexNumber?, zero, high, low, whole]

theorem escaped_cases (c : Char) :
    (∃ e, escaped c = ['\\', e] ∧ e ≠ 'u' ∧ shortEscape? e = some c) ∨
    (c.toNat < 32 ∧ escaped c =
      ['\\', 'u', '0', '0', Text.hexDigit (c.toNat / 16), Text.hexDigit (c.toNat % 16)]) ∨
    (escaped c = [c] ∧ c ≠ '"' ∧ c ≠ '\\' ∧ ¬c.toNat < 32) := by
  by_cases short : c = '"' ∨ c = '\\' ∨ c = '\x08' ∨ c = '\x0c' ∨ c = '\n' ∨ c = '\r' ∨ c = '\t'
  · left
    rcases short with rfl | rfl | rfl | rfl | rfl | rfl | rfl <;>
      exact ⟨_, rfl, by decide, by decide⟩
  · right
    simp only [not_or] at short
    obtain ⟨quote, backslash, b, f, n, r, t⟩ := short
    simp only [escaped, quote, backslash, b, f, n, r, t, if_false]
    by_cases control : c.toNat < 32
    · simp [control]
    · simp [control, quote, backslash]

theorem stringBody_escaped (c : Char) (rest : List Char) :
    stringBody (escaped c ++ rest) = putChar c (stringBody rest) := by
  obtain ⟨e, written, letter, short⟩ | ⟨control, written⟩ | ⟨written, quote, backslash, plain⟩ :=
    escaped_cases c
  · rw [written, List.cons_append, List.singleton_append, stringBody.eq_def]
    simp [letter, short]
  · have number := hexWord?_control control
    have first : isFirstHalf c.toNat = false := by simp [isFirstHalf]; omega
    have second : isSecondHalf c.toNat = false := by simp [isSecondHalf]; omega
    rw [written, List.cons_append, stringBody.eq_def]
    simp [number, first, second]
  · rw [written, List.singleton_append, stringBody.eq_def]
    simp [quote, backslash, plain]

theorem stringBody_flatMap_escaped (cs rest : List Char) :
    stringBody (cs.flatMap escaped ++ '"' :: rest) = .ok (cs, rest) := by
  induction cs with
  | nil =>
    rw [stringBody.eq_def]
    rfl
  | cons c more ih =>
    rw [List.flatMap_cons, List.append_assoc, stringBody_escaped, ih]
    rfl

theorem stringTail_stringChars (s : String) (rest : List Char) :
    ∃ body, stringChars s ++ rest = '"' :: body ∧ stringTail body = .ok (s, rest) := by
  refine ⟨s.toList.flatMap escaped ++ '"' :: rest, by simp [stringChars], ?_⟩
  rw [stringTail, Reader.map, stringBody_flatMap_escaped]
  simp

theorem le_ofDigitChars (digits : List Char) (n : Nat) : n ≤ Nat.ofDigitChars 10 digits n := by
  rw [Nat.ofDigitChars_eq_ofDigitChars_zero]
  have scaled : 1 * n ≤ 10 ^ digits.length * n :=
    Nat.mul_le_mul_right n (Nat.one_le_pow _ _ (by decide))
  omega

theorem absorb_of_le {limit : Nat} {digits : List Char} {n : Nat}
    (fits : Nat.ofDigitChars 10 digits n ≤ limit) :
    absorb limit n digits = (Nat.ofDigitChars 10 digits n, []) := by
  induction digits generalizing n with
  | nil => rfl
  | cons c rest ih =>
    rw [Nat.ofDigitChars_cons] at fits ⊢
    have longer := le_ofDigitChars rest (10 * n + (c.toNat - '0'.toNat))
    rw [absorb, if_pos (by omega), ih fits]

theorem eq_zero_of_toDigits {n : Nat} {more : List Char} (digits : Nat.toDigits 10 n = '0' :: more) :
    n = 0 := by
  induction n using Nat.strongRecOn generalizing more with
  | _ n ih =>
    by_cases single : n < 10
    · rw [Nat.toDigits_of_lt_base single] at digits
      simpa using (List.cons.inj digits).1
    · rw [Nat.toDigits_of_base_le (by decide) (by omega)] at digits
      obtain ⟨first, before, front⟩ := List.exists_cons_of_ne_nil
        (Nat.toDigits_ne_nil (n := n / 10) (b := 10))
      rw [front, List.cons_append] at digits
      have zero := ih (n / 10) (by omega) ((List.cons.inj digits).1 ▸ front)
      omega

theorem isDigit_of_mem_toDigits {n : Nat} : ∀ c ∈ Nat.toDigits 10 n, c.isDigit = true :=
  fun _ member => Nat.isDigit_of_mem_toDigits (by decide) (by decide) member

theorem exists_toDigits (n : Nat) : ∃ c more, Nat.toDigits 10 n = c :: more ∧ c.isDigit = true := by
  obtain ⟨c, more, digits⟩ := List.exists_cons_of_ne_nil (Nat.toDigits_ne_nil (n := n) (b := 10))
  exact ⟨c, more, digits, isDigit_of_mem_toDigits c (digits ▸ List.mem_cons_self)⟩

theorem reads_number {negative : Bool} {n : Nat} {m : Number} (fits : n ≤ greatestWord)
    (whole : wholeNumber negative n = some m) : (number negative).Reads (Nat.toDigits 10 n) m := by
  intro rest stops
  have value : absorb greatestWord 0 (Nat.toDigits 10 n) = (n, []) := by
    have spelled : Nat.ofDigitChars 10 (Nat.toDigits 10 n) 0 = n := Nat.ofDigitChars_ten_toDigits
    rw [absorb_of_le (spelled.symm ▸ fits), spelled]
  obtain ⟨c, more, digits, digit⟩ := exists_toDigits n
  have taken : (if c = '0' then ['0'] else (Nat.toDigits 10 n ++ rest).takeWhile Char.isDigit) =
      Nat.toDigits 10 n := by
    split
    · rename_i zero
      have none : n = 0 := eq_zero_of_toDigits (zero ▸ digits)
      rw [none, Nat.toDigits_zero]
    · rw [List.takeWhile_append_of_pos isDigit_of_mem_toDigits]
      obtain rfl | ⟨c, more, rfl, rfl | rfl | rfl⟩ := stops.cases <;> simp [List.takeWhile]
  rw [digits] at taken value ⊢
  unfold number
  rw [List.cons_append] at taken ⊢
  dsimp only
  rw [taken, value]
  obtain rfl | ⟨c, more, rfl, rfl | rfl | rfl⟩ := stops.cases <;> simp [digit, whole]

/-- The whole numbers that are read as such: those of a word of 64 bits, with or without a sign. -/
def InWords (n : Int) : Prop := -9223372036854775808 ≤ n ∧ n ≤ 18446744073709551615

theorem wholeNumber_natAbs {n : Int} (within : InWords n) :
    n.natAbs ≤ greatestWord ∧ wholeNumber (decide (n < 0)) n.natAbs = some (.integer n) := by
  have greatest : greatestWord = 18446744073709551615 := rfl
  have least : Nat.pow 2 63 = 9223372036854775808 := rfl
  obtain ⟨above, below⟩ := within
  refine ⟨by omega, ?_⟩
  unfold wholeNumber
  by_cases minus : n < 0
  · have size : -(n.natAbs : Int) = n := by omega
    have small : ¬(n.natAbs = 0 || Nat.pow 2 63 < n.natAbs) = true := by
      simp only [Bool.or_eq_true, decide_eq_true_eq]
      omega
    rw [decide_eq_true minus, if_neg (by decide), if_neg small, size]
  · have size : (n.natAbs : Int) = n := by omega
    rw [decide_eq_false minus, if_pos (by decide), size]

theorem ne_of_isDigit {c d : Char} (digit : c.isDigit = true) (other : d.isDigit = false) :
    c ≠ d := by
  rintro rfl
  rw [digit] at other
  cases other

theorem opens_of_isDigit {c : Char} (digit : c.isDigit = true) (more : List Char) :
    Opens (c :: more) := by
  refine ⟨c, more, rfl, ?_, ne_of_isDigit digit (by decide)⟩
  simp [isSpace, ne_of_isDigit digit]

theorem opens_sign {digits : List Char} (opens : Opens digits) (negative : Bool) :
    Opens ((if negative then ['-'] else []) ++ digits) := by
  cases negative with
  | true => exact ⟨'-', digits, rfl, by decide, by decide⟩
  | false => exact opens

theorem opens_positional {c : Char} (digit : c.isDigit = true) (more : List Char) (order : Int) :
    Opens (positional (c :: more) order) := by
  unfold positional
  split
  · exact opens_of_isDigit (by decide) _
  · simp only [List.cons_append, List.take_succ_cons]
    exact opens_of_isDigit digit _

theorem opens_realChars (x : Binary64) : Opens (realChars x) := by
  obtain ⟨c, more, digits, digit⟩ := exists_toDigits x.shortest.digits
  unfold realChars
  dsimp only
  split
  · exact opens_sign (opens_of_isDigit (by decide) _) _
  · rw [digits]
    split
    · exact opens_sign (opens_positional digit more _) _
    · exact opens_sign (opens_of_isDigit digit _) _

theorem opens_integerChars (n : Int) : Opens (integerChars n) := by
  obtain ⟨c, more, digits, digit⟩ := exists_toDigits n.natAbs
  unfold integerChars
  rw [digits]
  split
  · exact ⟨'-', _, rfl, by decide, by decide⟩
  · exact opens_of_isDigit digit more

theorem Value.opens_chars (v : Value) : Opens v.chars := by
  cases v with
  | null => exact ⟨'n', _, rfl, by decide, by decide⟩
  | bool b => cases b <;> exact ⟨_, _, rfl, by decide, by decide⟩
  | number n =>
    cases n with
    | integer n => exact opens_integerChars n
    | real x => exact opens_realChars x
  | string s => exact ⟨'"', _, rfl, by decide, by decide⟩
  | array items => cases items <;> exact ⟨'[', _, rfl, by decide, by decide⟩
  | object members => cases members <;> exact ⟨'{', _, rfl, by decide, by decide⟩

end Phrasebook.Json
