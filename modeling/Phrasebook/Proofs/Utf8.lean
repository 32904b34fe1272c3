import Phrasebook.Text.Utf8

/-!
Text and its bytes. Encoding and decoding are inverse to each other, both ways: a byte string is
text in at most one way, and it is the encoding of that text.
-/
namespace Phrasebook.Utf8

theorem toNat_toUInt8 {n : Nat} (h : n < 256) : n.toUInt8.toNat = n :=
  UInt8.toNat_ofNat_of_lt' h

theorem toUInt8_toNat (b : UInt8) : b.toNat.toUInt8 = b := UInt8.ofNat_toNat

theorem toNat_bounds (c : Char) : c.toNat < 0xD800 ∨ 0xDFFF < c.toNat ∧ c.toNat < 0x110000 :=
  c.valid

theorem toNat_ofNat {n : Nat} (h : n < 0xD800 ∨ 0xDFFF < n ∧ n < 0x110000) :
    (Char.ofNat n).toNat = n := by
  have valid : n.isValidChar := h
  rw [Char.ofNat, dif_pos valid]
  rfl

theorem isTail_iff (b : UInt8) : isTail b = true ↔ 0x80 ≤ b.toNat ∧ b.toNat < 0xC0 := by
  simp [isTail]

theorem fits_iff (lead : Nat) (b : UInt8) :
    fits lead b = true ↔ (0x80 ≤ b.toNat ∧ b.toNat < 0xC0) ∧
      (lead = 0xE0 → 0xA0 ≤ b.toNat) ∧ (lead = 0xED → b.toNat < 0xA0) ∧
      (lead = 0xF0 → 0x90 ≤ b.toNat) ∧ (lead = 0xF4 → b.toNat < 0x90) := by
  simp only [fits, Bool.and_eq_true, isTail_iff]
  refine and_congr_right fun _ => ?_
  split
  · subst lead; simp
  · split
    · subst lead; simp
    · split
      · subst lead; simp
      · split
        · subst lead; simp
        · simp_all

theorem low_of_toNat {b : UInt8} {n : Nat} (h : b.toNat = 128 + n) : low b = n := by
  have : low b = b.toNat - 128 := rfl
  omega

theorem toNat_tail (n : Nat) : (0x80 + n % 64).toUInt8.toNat = 0x80 + n % 64 :=
  toNat_toUInt8 (by omega)

theorem low_tail (n : Nat) : low (0x80 + n % 64).toUInt8 = n % 64 := low_of_toNat (toNat_tail n)

theorem isTail_tail (n : Nat) : isTail (0x80 + n % 64).toUInt8 = true := by
  rw [isTail_iff, toNat_tail]
  omega

variable {a b c d : UInt8} {rest : Bytes}

theorem pieces_one (lead : a.toNat < 0x80) :
    pieces (a :: rest) = some (Char.ofNat a.toNat) :: pieces rest := by
  rw [pieces.eq_def]
  simp [lead]

theorem pieces_two (least : 0xC2 ≤ a.toNat) (lead : a.toNat < 0xE0) (second : fits a.toNat b = true) :
    pieces (a :: b :: rest) =
      some (Char.ofNat ((a.toNat - 0xC0) * 64 + low b)) :: pieces rest := by
  have notOne : ¬a.toNat < 0x80 := by omega
  have isLead : ¬(a.toNat < 0xC2 ∨ 0xF5 ≤ a.toNat) := by omega
  rw [pieces.eq_def]
  simp [notOne, isLead, second, lead]

theorem pieces_three (least : 0xE0 ≤ a.toNat) (lead : a.toNat < 0xF0)
    (second : fits a.toNat b = true) (third : isTail c = true) :
    pieces (a :: b :: c :: rest) =
      some (Char.ofNat ((a.toNat - 0xE0) * 4096 + low b * 64 + low c)) :: pieces rest := by
  have notOne : ¬a.toNat < 0x80 := by omega
  have isLead : ¬(a.toNat < 0xC2 ∨ 0xF5 ≤ a.toNat) := by omega
  have notTwo : ¬a.toNat < 0xE0 := by omega
  rw [pieces.eq_def]
  simp [notOne, isLead, second, notTwo, third, lead]

theorem pieces_four (least : 0xF0 ≤ a.toNat) (lead : a.toNat < 0xF5)
    (second : fits a.toNat b = true) (third : isTail c = true) (fourth : isTail d = true) :
    pieces (a :: b :: c :: d :: rest) =
      some (Char.ofNat ((a.toNat - 0xF0) * 262144 + low b * 4096 + low c * 64 + low d)) ::
        pieces rest := by
  have notOne : ¬a.toNat < 0x80 := by omega
  have isLead : ¬(a.toNat < 0xC2 ∨ 0xF5 ≤ a.toNat) := by omega
  have notTwo : ¬a.toNat < 0xE0 := by omega
  have notThree : ¬a.toNat < 0xF0 := by omega
  rw [pieces.eq_def]
  simp [notOne, isLead, second, notTwo, third, notThree, fourth]

theorem pieces_encodeChar_append (c : Char) (rest : Bytes) :
    pieces (encodeChar c ++ rest) = some c :: pieces rest := by
  have bounds := toNat_bounds c
  have same : Char.ofNat c.toNat = c := Char.ofNat_toNat c
  simp only [encodeChar]
  generalize c.toNat = n at bounds same ⊢
  split
  · have lead : n.toUInt8.toNat = n := toNat_toUInt8 (by omega)
    rw [List.singleton_append, pieces_one (by omega), lead, same]
  · split
    · have lead : (0xC0 + n / 64).toUInt8.toNat = 0xC0 + n / 64 := toNat_toUInt8 (by omega)
      generalize (0xC0 + n / 64).toUInt8 = a at lead ⊢
      have follows : fits a.toNat (0x80 + n % 64).toUInt8 = true := by
        rw [fits_iff, toNat_tail]; omega
      have value : (a.toNat - 0xC0) * 64 + n % 64 = n := by omega
      rw [List.cons_append, List.singleton_append, pieces_two (by omega) (by omega) follows,
        low_tail, value, same]
    · split
      · have lead : (0xE0 + n / 4096).toUInt8.toNat = 0xE0 + n / 4096 := toNat_toUInt8 (by omega)
        generalize (0xE0 + n / 4096).toUInt8 = a at lead ⊢
        have follows : fits a.toNat (0x80 + n / 64 % 64).toUInt8 = true := by
          rw [fits_iff, toNat_tail]; omega
        have value : (a.toNat - 0xE0) * 4096 + n / 64 % 64 * 64 + n % 64 = n := by omega
        rw [List.cons_append, List.cons_append, List.singleton_append,
          pieces_three (by omega) (by omega) follows (isTail_tail n), low_tail, low_tail, value,
          same]
      · have lead : (0xF0 + n / 262144).toUInt8.toNat = 0xF0 + n / 262144 :=
          toNat_toUInt8 (by omega)
        generalize (0xF0 + n / 262144).toUInt8 = a at lead ⊢
        have follows : fits a.toNat (0x80 + n / 4096 % 64).toUInt8 = true := by
          rw [fits_iff, toNat_tail]; omega
        have value : (a.toNat - 0xF0) * 262144 + n / 4096 % 64 * 4096 + n / 64 % 64 * 64 +
            n % 64 = n := by omega
        rw [List.cons_append, List.cons_append, List.cons_append, List.singleton_append,
          pieces_four (by omega) (by omega) follows (isTail_tail _) (isTail_tail n), low_tail,
          low_tail, low_tail, value, same]

theorem pieces_flatMap_encodeChar (cs : List Char) :
    pieces (cs.flatMap encodeChar) = cs.map some := by
  induction cs with
  | nil => rfl
  | cons c cs ih => rw [List.flatMap_cons, pieces_encodeChar_append, ih, List.map_cons]

theorem mapM_id_map_some (cs : List Char) : (cs.map some).mapM id = some cs := by
  induction cs with
  | nil => rfl
  | cons c cs ih => rw [List.map_cons, List.mapM_cons, ih]; rfl

theorem decode?_encode (s : String) : decode? (encode s) = some s := by
  rw [decode?, encode, pieces_flatMap_encodeChar, mapM_id_map_some, Option.map_some,
    String.ofList_toList]

theorem decodeLossy_encode (s : String) : decodeLossy (encode s) = s := by
  rw [decodeLossy, encode, pieces_flatMap_encodeChar, List.map_map]
  exact (congrArg String.ofList (List.map_id s.toList)).trans String.ofList_toList

theorem encodeChar_one (lead : a.toNat < 0x80) : encodeChar (Char.ofNat a.toNat) = [a] := by
  have value : (Char.ofNat a.toNat).toNat = a.toNat := toNat_ofNat (by omega)
  simp only [encodeChar, value]
  rw [if_pos lead, toUInt8_toNat]

theorem encodeChar_two (least : 0xC2 ≤ a.toNat) (lead : a.toNat < 0xE0)
    (second : fits a.toNat b = true) :
    encodeChar (Char.ofNat ((a.toNat - 0xC0) * 64 + low b)) = [a, b] := by
  rw [fits_iff] at second
  obtain ⟨y, hy⟩ : ∃ y, b.toNat = 128 + y := ⟨b.toNat - 128, by omega⟩
  rw [low_of_toNat hy]
  generalize hn : (a.toNat - 0xC0) * 64 + y = n
  have value : (Char.ofNat n).toNat = n := toNat_ofNat (by omega)
  simp only [encodeChar, value]
  rw [if_neg (by omega), if_pos (by omega), show 0xC0 + n / 64 = a.toNat by omega,
    show 0x80 + n % 64 = b.toNat by omega, toUInt8_toNat, toUInt8_toNat]

theorem encodeChar_three (least : 0xE0 ≤ a.toNat) (lead : a.toNat < 0xF0)
    (second : fits a.toNat b = true) (third : isTail c = true) :
    encodeChar (Char.ofNat ((a.toNat - 0xE0) * 4096 + low b * 64 + low c)) = [a, b, c] := by
  rw [fits_iff] at second
  rw [isTail_iff] at third
  obtain ⟨y, hy⟩ : ∃ y, b.toNat = 128 + y := ⟨b.toNat - 128, by omega⟩
  obtain ⟨z, hz⟩ : ∃ z, c.toNat = 128 + z := ⟨c.toNat - 128, by omega⟩
  rw [low_of_toNat hy, low_of_toNat hz]
  generalize hn : (a.toNat - 0xE0) * 4096 + y * 64 + z = n
  have value : (Char.ofNat n).toNat = n := toNat_ofNat (by omega)
  simp only [encodeChar, value]
  rw [if_neg (by omega), if_neg (by omega), if_pos (by omega),
    show 0xE0 + n / 4096 = a.toNat by omega, show 0x80 + n / 64 % 64 = b.toNat by omega,
    show 0x80 + n % 64 = c.toNat by omega, toUInt8_toNat, toUInt8_toNat, toUInt8_toNat]

theorem encodeChar_four (least : 0xF0 ≤ a.toNat) (lead : a.toNat < 0xF5)
    (second : fits a.toNat b = true) (third : isTail c = true) (fourth : isTail d = true) :
    encodeChar (Char.ofNat ((a.toNat - 0xF0) * 262144 + low b * 4096 + low c * 64 + low d)) =
      [a, b, c, d] := by
  rw [fits_iff] at second
  rw [isTail_iff] at third fourth
  obtain ⟨y, hy⟩ : ∃ y, b.toNat = 128 + y := ⟨b.toNat - 128, by omega⟩
  obtain ⟨z, hz⟩ : ∃ z, c.toNat = 128 + z := ⟨c.toNat - 128, by omega⟩
  obtain ⟨w, hw⟩ : ∃ w, d.toNat = 128 + w := ⟨d.toNat - 128, by omega⟩
  rw [low_of_toNat hy, low_of_toNat hz, low_of_toNat hw]
  generalize hn : (a.toNat - 0xF0) * 262144 + y * 4096 + z * 64 + w = n
  have value : (Char.ofNat n).toNat = n := toNat_ofNat (by omega)
  simp only [encodeChar, value]
  rw [if_neg (by omega), if_neg (by omega), if_neg (by omega),
    show 0xF0 + n / 262144 = a.toNat by omega, show 0x80 + n / 4096 % 64 = b.toNat by omega,
    show 0x80 + n / 64 % 64 = c.toNat by omega, show 0x80 + n % 64 = d.toNat by omega,
    toUInt8_toNat, toUInt8_toNat, toUInt8_toNat, toUInt8_toNat]

theorem none_cons_ne_map_some (ps : List (Option Char)) (cs : List Char) :
    none :: ps ≠ cs.map some := by
  cases cs <;> simp

theorem of_some_cons_eq_map {c : Char} {ps : List (Option Char)} {cs : List Char}
    (h : some c :: ps = cs.map some) : ∃ more, cs = c :: more ∧ ps = more.map some := by
  cases cs with
  | nil => simp at h
  | cons first more =>
    rw [List.map_cons, List.cons.injEq, Option.some.injEq] at h
    exact ⟨more, by rw [h.1], h.2⟩

/-- Bytes of which no piece is missing are the encoding of their pieces. -/
theorem flatMap_encodeChar_of_pieces {bs : Bytes} {cs : List Char}
    (h : pieces bs = cs.map some) : cs.flatMap encodeChar = bs := by
  fun_induction pieces bs generalizing cs
  case case1 =>
    have : cs = [] := by simpa using h.symm
    rw [this, List.flatMap_nil]
  case case2 a rest n lead ih =>
    obtain ⟨more, rfl, tail⟩ := of_some_cons_eq_map h
    rw [List.flatMap_cons, encodeChar_one lead, ih tail, List.singleton_append]
  case case6 a n notOne isLead b rest second lead ih =>
    obtain ⟨more, rfl, tail⟩ := of_some_cons_eq_map h
    simp only [Bool.or_eq_true, decide_eq_true_eq] at isLead
    rw [List.flatMap_cons, encodeChar_two (by omega) lead (by simpa using second), ih tail,
      List.cons_append, List.singleton_append]
  case case9 a n notOne isLead b second notTwo c rest third lead ih =>
    obtain ⟨more, rfl, tail⟩ := of_some_cons_eq_map h
    rw [List.flatMap_cons, encodeChar_three (by omega) lead (by simpa using second)
      (by simpa using third), ih tail]
    rfl
  case case12 a n notOne isLead b second notTwo c third notThree d rest fourth ih =>
    obtain ⟨more, rfl, tail⟩ := of_some_cons_eq_map h
    simp only [Bool.or_eq_true, decide_eq_true_eq] at isLead
    rw [List.flatMap_cons, encodeChar_four (by omega) (by omega) (by simpa using second)
      (by simpa using third) (by simpa using fourth), ih tail]
    rfl
  all_goals exact absurd h (none_cons_ne_map_some _ cs)

theorem eq_map_some_of_mapM_id {ps : List (Option Char)} {cs : List Char}
    (h : ps.mapM id = some cs) : ps = cs.map some := by
  induction ps generalizing cs with
  | nil =>
    cases h
    rfl
  | cons p ps ih =>
    cases p with
    | none => simp at h
    | some c =>
      obtain ⟨more, tail, rfl⟩ : ∃ more, ps.mapM id = some more ∧ c :: more = cs := by
        simpa [List.mapM_cons, Option.bind_eq_some_iff] using h
      rw [ih tail, List.map_cons]

theorem encode_of_decode? {bs : Bytes} {s : String} (h : decode? bs = some s) : encode s = bs := by
  obtain ⟨cs, read, rfl⟩ := Option.map_eq_some_iff.1 h
  rw [encode, String.toList_ofList]
  exact flatMap_encodeChar_of_pieces (eq_map_some_of_mapM_id read)

theorem decode?_eq_some_iff {bs : Bytes} {s : String} : decode? bs = some s ↔ bs = encode s :=
  ⟨fun h => (encode_of_decode? h).symm, fun h => h ▸ decode?_encode s⟩

theorem encode_inj {s t : String} : encode s = encode t ↔ s = t := by
  refine ⟨fun h => ?_, fun h => h ▸ rfl⟩
  have same := congrArg decode? h
  rwa [decode?_encode, decode?_encode, Option.some.injEq] at same

theorem encodeChar_ascii {c : Char} (h : c.toNat < 128) : encodeChar c = [c.toNat.toUInt8] := by
  simp only [encodeChar]
  rw [if_pos h]

theorem flatMap_encodeChar_ascii {cs : List Char} (ascii : ∀ c ∈ cs, c.toNat < 128) :
    cs.flatMap encodeChar = cs.map fun c => c.toNat.toUInt8 := by
  induction cs with
  | nil => rfl
  | cons c rest ih =>
    rw [List.flatMap_cons, encodeChar_ascii (ascii c List.mem_cons_self),
      ih fun d member => ascii d (List.mem_cons_of_mem _ member)]
    rfl

theorem toUInt8_toNat_inj {c d : Char} (left : c.toNat < 128) (right : d.toNat < 128)
    (same : c.toNat.toUInt8 = d.toNat.toUInt8) : c = d := by
  have codes := congrArg UInt8.toNat same
  rw [toNat_toUInt8 (by omega), toNat_toUInt8 (by omega)] at codes
  rw [← Char.ofNat_toNat c, codes, Char.ofNat_toNat]

theorem encode_append (s t : String) : encode (s ++ t) = encode s ++ encode t := by
  rw [encode, String.toList_append, List.flatMap_append, encode, encode]

theorem encodeChar_subset_encode {c : Char} {s : String} (h : c ∈ s.toList) :
    encodeChar c ⊆ encode s := fun _ hb => List.mem_flatMap.2 ⟨c, h, hb⟩

theorem exists_high_of_encodeChar {c : Char} (high : 128 ≤ c.toNat) :
    ∃ b ∈ encodeChar c, 128 ≤ b.toNat := by
  have bounds := toNat_bounds c
  unfold encodeChar
  generalize c.toNat = n at high bounds
  dsimp only
  rw [if_neg (by omega)]
  -- The first byte of each longer sequence is high.
  split
  · exact ⟨_, List.mem_cons_self, by rw [toNat_toUInt8] <;> omega⟩
  · split
    · exact ⟨_, List.mem_cons_self, by rw [toNat_toUInt8] <;> omega⟩
    · exact ⟨_, List.mem_cons_self, by rw [toNat_toUInt8] <;> omega⟩

theorem forall_encode_lt_iff (s : String) :
    (∀ b ∈ encode s, b.toNat < 128) ↔ ∀ c ∈ s.toList, c.toNat < 128 := by
  constructor
  · intro low c member
    rcases Nat.lt_or_ge c.toNat 128 with ascii | high
    · exact ascii
    · obtain ⟨b, inside, above⟩ := exists_high_of_encodeChar high
      have below := low b (encodeChar_subset_encode member inside)
      omega
  · intro ascii b member
    rw [encode, flatMap_encodeChar_ascii ascii] at member
    obtain ⟨c, inside, rfl⟩ := List.mem_map.1 member
    have low := ascii c inside
    rw [toNat_toUInt8 (by omega)]
    exact low

end Phrasebook.Utf8
