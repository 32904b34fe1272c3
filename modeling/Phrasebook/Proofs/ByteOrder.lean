import Mathlib.Tactic.SplitIfs
import Phrasebook.Proofs.Utf8

/-!
The order of text and that of its bytes. Texts compare code point by code point as their encodings
compare byte by byte, and so do lists of texts, such as the names on the way to a value.
-/
namespace Phrasebook.Utf8

theorem toUInt8_cons_lt_iff {a b : Nat} (left : a < 256) (right : b < 256) {as bs : Bytes} :
    a.toUInt8 :: as < b.toUInt8 :: bs ↔ a < b ∨ a = b ∧ as < bs := by
  rw [List.cons_lt_cons_iff, UInt8.lt_iff_toNat_lt, ← UInt8.toNat_inj, toNat_toUInt8 left,
    toNat_toUInt8 right]

theorem encodeChar_append_lt {c d : Char} (lt : c < d) (as bs : Bytes) :
    encodeChar c ++ as < encodeChar d ++ bs := by
  have bound : d.toNat < 0x110000 := by
    have := toNat_bounds d
    omega
  have codes : c.toNat < d.toNat := lt
  simp only [encodeChar]
  generalize c.toNat = n at codes ⊢
  generalize d.toNat = m at codes bound ⊢
  -- A longer sequence has a greater first byte; in sequences of one length the first group of bits
  -- in which the codes differ decides.
  split_ifs <;>
    simp (disch := omega) only [List.cons_append, List.nil_append, toUInt8_cons_lt_iff] <;> omega

theorem encodeChar_ne_nil (c : Char) : encodeChar c ≠ [] := by
  unfold encodeChar
  dsimp only
  split_ifs <;> simp

theorem flatMap_encodeChar_lt {cs ds : List Char} (lt : cs < ds) :
    cs.flatMap encodeChar < ds.flatMap encodeChar := by
  induction cs generalizing ds with
  | nil =>
    cases ds with
    | nil => simp at lt
    | cons d ds =>
      obtain ⟨b, bytes, whole⟩ := List.exists_cons_of_ne_nil (encodeChar_ne_nil d)
      rw [List.flatMap_cons, whole]
      exact List.nil_lt_cons b _
  | cons c cs ih =>
    cases ds with
    | nil => simp at lt
    | cons d ds =>
      rw [List.flatMap_cons, List.flatMap_cons]
      rcases List.cons_lt_cons_iff.1 lt with first | ⟨rfl, others⟩
      · exact encodeChar_append_lt first _ _
      · exact List.append_left_lt (ih others)

theorem encode_lt_encode {s t : String} (lt : s < t) : encode s < encode t :=
  flatMap_encodeChar_lt lt

theorem encode_lt_encode_iff {s t : String} : encode s < encode t ↔ s < t := by
  constructor
  · intro lt
    by_cases less : s < t
    · exact less
    · by_cases greater : t < s
      · exact absurd (encode_lt_encode greater) (List.lt_asymm lt)
      · have same : s = t := String.le_antisymm greater less
        exact absurd (same ▸ lt) (List.lt_irrefl _)
  · exact encode_lt_encode

theorem map_encode_lt_iff {ss ts : List String} : ss.map encode < ts.map encode ↔ ss < ts := by
  induction ss generalizing ts with
  | nil => cases ts <;> simp
  | cons s ss ih =>
    cases ts with
    | nil => simp
    | cons t ts =>
      rw [List.map_cons, List.map_cons, List.cons_lt_cons_iff, List.cons_lt_cons_iff,
        encode_lt_encode_iff, encode_inj, ih]

end Phrasebook.Utf8
