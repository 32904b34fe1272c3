import Phrasebook.Http.Uri
import Phrasebook.Proofs.Utf8

/-!
Escaping every byte. Text in which each byte is a per cent sign and two digits means the same in an
address and in a form, so it brings any bytes through both.
-/
namespace Phrasebook.Http

open Utf8 (Bytes)

namespace Form

/-- Each byte as a per cent sign and two hexadecimal digits, of either case. -/
inductive Escaped : Bytes → List Char → Prop where
  | nil : Escaped [] []
  | cons {b : UInt8} {bytes : Bytes} {x y : Char} {rest : List Char}
      (high : Text.hexValue? x = some (b.toNat / 16)) (low : Text.hexValue? y = some (b.toNat % 16))
      (more : Escaped bytes rest) : Escaped (b :: bytes) ('%' :: x :: y :: rest)

def escape : Bytes → List Char
  | [] => []
  | b :: rest => '%' :: Text.hexDigit (b.toNat / 16) :: Text.hexDigit (b.toNat % 16) :: escape rest

theorem escaped_escape (bytes : Bytes) : Escaped bytes (escape bytes) := by
  induction bytes with
  | nil => exact .nil
  | cons b rest ih =>
    have small := b.toNat_lt
    exact .cons (Text.hexValue?_hexDigit _ (by omega)) (Text.hexValue?_hexDigit _ (by omega)) ih

theorem hexValue?_eq_some {c : Char} {n : Nat} (h : Text.hexValue? c = some n) :
    48 ≤ c.toNat ∧ c.toNat ≤ 57 ∨ 65 ≤ c.toNat ∧ c.toNat ≤ 70 ∨ 97 ≤ c.toNat ∧ c.toNat ≤ 102 := by
  unfold Text.hexValue? at h
  dsimp only at h
  split at h
  · omega
  · split at h
    · omega
    · split at h
      · omega
      · cases h

theorem hexByte?_of_digits {x y : Char} {b : UInt8}
    (high : Text.hexValue? x = some (b.toNat / 16)) (low : Text.hexValue? y = some (b.toNat % 16)) :
    hexByte? x.toNat.toUInt8 y.toNat.toUInt8 = some b := by
  have ascii := hexValue?_eq_some high
  have ascii' := hexValue?_eq_some low
  have whole : 16 * (b.toNat / 16) + b.toNat % 16 = b.toNat := by omega
  unfold hexByte? Text.hexNumber?
  rw [Utf8.toNat_toUInt8 (by omega), Utf8.toNat_toUInt8 (by omega), Char.ofNat_toNat,
    Char.ofNat_toNat]
  simp [high, low, whole]

section Escaped

variable {bytes : Bytes} {cs : List Char} (escaped : Escaped bytes cs)
include escaped

theorem Escaped.plain {c : Char} (h : c ∈ cs) :
    c.toNat = 37 ∨ 48 ≤ c.toNat ∧ c.toNat ≤ 57 ∨ 65 ≤ c.toNat ∧ c.toNat ≤ 70 ∨
      97 ≤ c.toNat ∧ c.toNat ≤ 102 := by
  induction escaped with
  | nil => cases h
  | cons high low more ih =>
    simp only [List.mem_cons] at h
    rcases h with rfl | rfl | rfl | h
    · exact .inl rfl
    · exact .inr (hexValue?_eq_some high)
    · exact .inr (hexValue?_eq_some low)
    · exact ih h

theorem Escaped.unescape : Form.unescape (cs.map fun c => c.toNat.toUInt8) = bytes := by
  induction escaped with
  | nil => rfl
  | cons high low more ih =>
    simp only [List.map_cons]
    rw [Form.unescape, if_neg (by decide), if_pos (by decide), hexByte?_of_digits high low]
    exact congrArg _ ih

end Escaped

theorem pairs_of_not_mem {piece : Bytes} (single : ampersand ∉ piece) (filled : piece ≠ []) :
    pairs piece = [pair piece] := by
  unfold pairs
  rw [Text.parts_of_not_mem single]
  simp [filled]

theorem pair_of_value {name value : Bytes} (plain : equals ∉ name) :
    pair (name ++ equals :: value) = (decode name, decode value) := by
  have first : (name ++ equals :: value).takeWhile (· ≠ equals) = name := by
    have before : ∀ b ∈ name, b ≠ equals := fun b member => ne_of_mem_of_not_mem member plain
    rw [List.takeWhile_append_of_pos (by simpa using before)]
    simp
  unfold pair
  rw [first]
  simp

theorem pairs_path {cs : List Char} (ascii : ∀ c ∈ cs, c.toNat < 128) (noMark : '&' ∉ cs) :
    pairs (Utf8.encode ("path=" ++ String.ofList cs)) =
      [("path", decode (cs.map fun c => c.toNat.toUInt8))] := by
  have name : Utf8.encode "path=" = Utf8.encode "path" ++ [equals] := by decide
  have value : Utf8.encode (String.ofList cs) = cs.map fun c => c.toNat.toUInt8 := by
    rw [← Utf8.flatMap_encodeChar_ascii ascii, Utf8.encode, String.toList_ofList]
  have single : ampersand ∉ cs.map fun c => c.toNat.toUInt8 := by
    intro member
    obtain ⟨c, here, mark⟩ := List.mem_map.1 member
    rw [Utf8.toUInt8_toNat_inj (ascii c here) (d := '&') (by decide) mark] at here
    exact noMark here
  rw [Utf8.encode_append, name, value, List.append_assoc, List.singleton_append,
    pairs_of_not_mem _ (by simp), pair_of_value (by decide)]
  · rfl
  · simp only [List.mem_append, List.mem_cons, not_or]
    exact ⟨by decide, by decide, single⟩

/-- An escaped value after the name `path` is read as it is meant. -/
theorem pairs_path_escaped {s : String} {cs : List Char} (escaped : Escaped (Utf8.encode s) cs) :
    pairs (Utf8.encode ("path=" ++ String.ofList cs)) = [("path", s)] := by
  rw [pairs_path, decode, escaped.unescape, Utf8.decodeLossy_encode]
  · intro c member
    have := escaped.plain member
    omega
  · intro mark
    exact absurd (escaped.plain mark) (by decide)

theorem unescape_of_plain {bytes : Bytes} (plain : ∀ b ∈ bytes, b ≠ plus ∧ b ≠ percent) :
    unescape bytes = bytes := by
  induction bytes with
  | nil => rfl
  | cons b rest ih =>
    obtain ⟨noPlus, noPercent⟩ := plain b List.mem_cons_self
    unfold unescape
    rw [if_neg noPlus, if_neg noPercent,
      ih fun c member => plain c (List.mem_cons_of_mem _ member)]

theorem pairs_path_plain {cs : List Char} (ascii : ∀ c ∈ cs, c.toNat < 128)
    (plain : ∀ c ∈ cs, c ≠ '&' ∧ c ≠ '+' ∧ c ≠ '%') :
    pairs (Utf8.encode ("path=" ++ String.ofList cs)) = [("path", String.ofList cs)] := by
  have bytes : ∀ b ∈ cs.map fun c => c.toNat.toUInt8, b ≠ plus ∧ b ≠ percent := by
    intro b member
    obtain ⟨c, here, rfl⟩ := List.mem_map.1 member
    exact ⟨fun mark => (plain c here).2.1
        (Utf8.toUInt8_toNat_inj (ascii c here) (d := '+') (by decide) mark),
      fun mark => (plain c here).2.2
        (Utf8.toUInt8_toNat_inj (ascii c here) (d := '%') (by decide) mark)⟩
  rw [pairs_path ascii fun mark => (plain _ mark).1 rfl, decode, unescape_of_plain bytes,
    ← Utf8.flatMap_encodeChar_ascii ascii]
  have whole := Utf8.decodeLossy_encode (String.ofList cs)
  rw [Utf8.encode, String.toList_ofList] at whole
  rw [whole]

end Form

namespace Uri

theorem isPathChar_ends {c : Char} (h : isPathChar c = true) : c ≠ '?' ∧ c ≠ '#' := by
  constructor <;> rintro rfl <;> exact absurd h (by decide)

theorem isQueryChar_ends {c : Char} (h : isQueryChar c = true) : c ≠ '#' := by
  rintro rfl
  exact absurd h (by decide)

theorem pathAndQuery?_append {path query : List Char} (left : ∀ c ∈ path, isPathChar c = true)
    (right : ∀ c ∈ query, isQueryChar c = true) :
    pathAndQuery? (path ++ '?' :: query) = some (path, some query) := by
  have first : (path ++ '?' :: query).takeWhile (fun c => c ≠ '?' && c ≠ '#') = path := by
    rw [List.takeWhile_append_of_pos fun c member => by simpa using isPathChar_ends (left c member)]
    simp
  have second : query.takeWhile (· ≠ '#') = query := by
    have whole : (query ++ []).takeWhile (· ≠ '#') = query ++ [].takeWhile (· ≠ '#') :=
      List.takeWhile_append_of_pos fun c member => by simpa using isQueryChar_ends (right c member)
    simpa using whole
  unfold pathAndQuery?
  simp only [first, List.drop_left, second, List.all_eq_true.2 left, List.all_eq_true.2 right]
  rfl

theorem ofChars?_of_slash {path query : List Char}
    (left : ∀ c ∈ '/' :: path, isPathChar c = true) (right : ∀ c ∈ query, isQueryChar c = true) :
    ofChars? ('/' :: path ++ '?' :: query) =
      some ⟨none, none, String.ofList ('/' :: path), some (String.ofList query)⟩ := by
  have taken := pathAndQuery?_append left right
  rw [List.cons_append] at taken ⊢
  rw [ofChars?, taken]
  rfl

def glossaryTarget (escaped : List Char) : String :=
  "/api/v1/translations?path=" ++ String.ofList escaped

theorem utf8ByteSize_ofList_le (cs : List Char) :
    (String.ofList cs).utf8ByteSize ≤ 4 * cs.length := by
  induction cs with
  | nil => exact Nat.le_refl 0
  | cons c rest ih =>
    have one := c.utf8Size_le_four
    rw [String.ofList_cons, String.utf8ByteSize_append, String.utf8ByteSize_singleton,
      List.length_cons]
    omega

theorem glossaryTarget_fits {cs : List Char} (short : 26 + 4 * cs.length ≤ lengthLimit) :
    (glossaryTarget cs).utf8ByteSize ≤ lengthLimit := by
  have front : "/api/v1/translations?path=".utf8ByteSize = 26 := by decide +kernel
  have back := utf8ByteSize_ofList_le cs
  have whole : (glossaryTarget cs).utf8ByteSize = _ + _ := String.utf8ByteSize_append
  rw [whole, front]
  omega

theorem parse?_glossaryTarget_of_query {cs : List Char} (value : ∀ c ∈ cs, isQueryChar c = true)
    (fits : (glossaryTarget cs).utf8ByteSize ≤ lengthLimit) :
    parse? (glossaryTarget cs) =
      some ⟨none, none, "/api/v1/translations", some ("path=" ++ String.ofList cs)⟩ := by
  have query : ∀ c ∈ "path=".toList ++ cs, isQueryChar c = true := by
    intro c member
    rcases List.mem_append.1 member with name | here
    · exact List.all_eq_true.1 (by decide : "path=".toList.all isQueryChar = true) c name
    · exact value c here
  have path : ∀ c ∈ '/' :: "api/v1/translations".toList, isPathChar c = true :=
    List.all_eq_true.1 (by decide)
  have front : "/api/v1/translations?path=".toList =
      '/' :: "api/v1/translations".toList ++ '?' :: "path=".toList := by decide
  -- Rewriting inside the literals would unfold them; the steps are given as equations instead.
  have chars : (glossaryTarget cs).toList =
      '/' :: "api/v1/translations".toList ++ '?' :: ("path=".toList ++ cs) :=
    calc (glossaryTarget cs).toList
      _ = "/api/v1/translations?path=".toList ++ (String.ofList cs).toList := String.toList_append
      _ = ('/' :: "api/v1/translations".toList ++ '?' :: "path=".toList) ++ cs :=
        congr (congrArg _ front) String.toList_ofList
      _ = '/' :: "api/v1/translations".toList ++ '?' :: ("path=".toList ++ cs) :=
        List.append_assoc ..
  have whole : String.ofList ('/' :: "api/v1/translations".toList) = "/api/v1/translations" := by
    decide
  have named : String.ofList ("path=".toList ++ cs) = "path=" ++ String.ofList cs := by
    rw [String.ofList_append, String.ofList_toList]
  unfold parse?
  rw [if_neg (by omega), chars, ofChars?_of_slash path query, whole, named]

theorem parse?_glossaryTarget {bytes : Bytes} {cs : List Char} (escaped : Form.Escaped bytes cs)
    (fits : (glossaryTarget cs).utf8ByteSize ≤ lengthLimit) :
    parse? (glossaryTarget cs) =
      some ⟨none, none, "/api/v1/translations", some ("path=" ++ String.ofList cs)⟩ := by
  refine parse?_glossaryTarget_of_query (fun c member => ?_) fits
  have := escaped.plain member
  simp [isQueryChar, isIn]
  omega

end Uri
end Phrasebook.Http
