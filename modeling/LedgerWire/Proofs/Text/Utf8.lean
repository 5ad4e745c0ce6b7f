import LedgerWire.Proofs.Except
import LedgerWire.Text.Utf8
import Mathlib.Tactic.SplitIfs

/-!
# UTF-8 is read strictly

A buffer reads as a text exactly when it is what that text is written as, so overlong forms,
surrogates and stray bytes never pass. What is written is what the standard library gives.
Reading takes one character at a time; the lemmas come in fours, one for each length that the
bytes of a character can have.
-/

namespace LedgerWire.Utf8

/-- Code points end at 0x10FFFF. -/
theorem toNat_lt (c : Char) : c.toNat < 0x110000 := by
  rcases c.valid with h | h
  · exact Nat.lt_trans h (by decide)
  · exact h.2

/-- No code point is a surrogate. -/
theorem toNat_not_surrogate (c : Char) : c.toNat < 0xD800 ∨ 0xDFFF < c.toNat := by
  rcases c.valid with h | h
  · exact Or.inl h
  · exact Or.inr h.1

/-- A number in range that is no surrogate is the code point of its character. -/
theorem toNat_ofNat {n : Nat} (hvalid : n.isValidChar) : (Char.ofNat n).toNat = n := by
  unfold Char.ofNat
  rw [dif_pos hvalid]
  rfl

/-- A number below 256 is that of its byte. -/
theorem byte_toNat {n : Nat} (h : n < 256) : (UInt8.ofNat n).toNat = n :=
  UInt8.toNat_ofNat_of_lt' h

/-- A bound on a number is one on its byte. -/
theorem le_ofNat {low : UInt8} {n : Nat} (h : n < 256) (hlow : low.toNat ≤ n) :
    low ≤ UInt8.ofNat n := by
  rw [UInt8.le_iff_toNat_le, byte_toNat h]
  exact hlow

/-- A strict bound on a number is one on its byte. -/
theorem ofNat_lt {high : UInt8} {n : Nat} (h : n < 256) (hhigh : n < high.toNat) :
    UInt8.ofNat n < high := by
  rw [UInt8.lt_iff_toNat_lt, byte_toNat h]
  exact hhigh

/-- The byte of the number of a byte is the byte. -/
theorem ofNat_eq_of_toNat {a : UInt8} {n : Nat} (h : n = a.toNat) : UInt8.ofNat n = a := by
  rw [h, UInt8.ofNat_toNat]

/-- A character is written as the standard library writes it. -/
theorem encodeChar_eq_utf8EncodeChar (c : Char) : encodeChar c = String.utf8EncodeChar c := by
  have hbound := toNat_lt c
  unfold encodeChar String.utf8EncodeChar
  change _ = ite (c.toNat ≤ 0x7F) _ (ite (c.toNat ≤ 0x7FF) _ (ite (c.toNat ≤ 0xFFFF) _ _))
  by_cases h1 : c.toNat < 0x80
  · rw [if_pos h1, if_pos (show c.toNat ≤ 0x7F by omega)]
    rfl
  rw [if_neg h1, if_neg (show ¬c.toNat ≤ 0x7F by omega)]
  by_cases h2 : c.toNat < 0x800
  · have hlead : c.toNat / 64 % 32 + 0xC0 = 0xC0 + c.toNat / 64 := by omega
    rw [if_pos h2, if_pos (show c.toNat ≤ 0x7FF by omega), ← hlead, Nat.add_comm 0x80]
    rfl
  rw [if_neg h2, if_neg (show ¬c.toNat ≤ 0x7FF by omega)]
  by_cases h3 : c.toNat < 0x10000
  · have hlead : c.toNat / 4096 % 16 + 0xE0 = 0xE0 + c.toNat / 4096 := by omega
    rw [if_pos h3, if_pos (show c.toNat ≤ 0xFFFF by omega), ← hlead, Nat.add_comm 0x80,
      Nat.add_comm 0x80]
    rfl
  · have hlead : c.toNat / 262144 % 8 + 0xF0 = 0xF0 + c.toNat / 262144 := by omega
    rw [if_neg h3, if_neg (show ¬c.toNat ≤ 0xFFFF by omega), ← hlead, Nat.add_comm 0x80,
      Nat.add_comm 0x80, Nat.add_comm 0x80]
    rfl

/-- A text is written as the bytes that the standard library holds for it. -/
theorem encode_eq_toByteArray (text : String) : encode text = text.toByteArray.data.toList := by
  rw [← String.utf8Encode_toList, encode, encodeChars, List.utf8Encode,
    funext encodeChar_eq_utf8EncodeChar]
  simp

/-! ### One character read -/

/-- The test for continuation bytes is a range. -/
theorem isContinuation_iff {b : UInt8} :
    isContinuation b = true ↔ 0x80 ≤ b.toNat ∧ b.toNat ≤ 0xBF := by
  simp [isContinuation]

/-- A second byte continues its character, and the first bytes at the edges of the ranges narrow
it further. -/
theorem isSecond_iff {a b : UInt8} :
    isSecond a b = true ↔ 0x80 ≤ b.toNat ∧ b.toNat ≤ 0xBF ∧ (a.toNat = 0xE0 → 0xA0 ≤ b.toNat) ∧
      (a.toNat = 0xED → b.toNat ≤ 0x9F) ∧ (a.toNat = 0xF0 → 0x90 ≤ b.toNat) ∧
      (a.toNat = 0xF4 → b.toNat ≤ 0x8F) := by
  simp only [isSecond, secondRange]
  split_ifs <;> simp only [Bool.and_eq_true, decide_eq_true_eq] <;> omega

/-- A byte below 0x80 is read as a character of its own. -/
theorem decodeFrom_one {index : Nat} {a : UInt8} {rest : Bytes} (ha : a < 0x80) :
    decodeFrom index (a :: rest) =
      (decodeFrom (index + 1) rest).map (Char.ofNat a.toNat :: ·) := by
  rw [decodeFrom.eq_def]
  exact if_pos ha

/-- A lead byte below 0xE0 and its continuation are read as one character. -/
theorem decodeFrom_two {index : Nat} {a b : UInt8} {rest : Bytes} (ha : 0xC2 ≤ a) (ha' : a < 0xE0)
    (hb : isContinuation b = true) :
    decodeFrom index (a :: b :: rest) =
      (decodeFrom (index + 2) rest).map (Char.ofNat (a.toNat % 32 * 64 + payload b) :: ·) := by
  have h1 : ¬a < 0x80 := by grind
  have h2 : ¬a < 0xC2 := by grind
  rw [decodeFrom.eq_def]
  simp only [if_neg h1, if_neg h2, if_pos ha', if_pos hb]

/-- A lead byte below 0xF0 and its two continuations are read as one character. -/
theorem decodeFrom_three {index : Nat} {a b c : UInt8} {rest : Bytes} (ha : 0xE0 ≤ a)
    (ha' : a < 0xF0) (hb : isSecond a b = true) (hc : isContinuation c = true) :
    decodeFrom index (a :: b :: c :: rest) =
      (decodeFrom (index + 3) rest).map
        (Char.ofNat (a.toNat % 16 * 4096 + payload b * 64 + payload c) :: ·) := by
  have h1 : ¬a < 0x80 := by grind
  have h2 : ¬a < 0xC2 := by grind
  have h3 : ¬a < 0xE0 := by grind
  rw [decodeFrom.eq_def]
  simp only [if_neg h1, if_neg h2, if_neg h3, if_pos ha', if_pos hb, if_pos hc]

/-- A lead byte below 0xF5 and its three continuations are read as one character. -/
theorem decodeFrom_four {index : Nat} {a b c d : UInt8} {rest : Bytes} (ha : 0xF0 ≤ a)
    (ha' : a < 0xF5) (hb : isSecond a b = true) (hc : isContinuation c = true)
    (hd : isContinuation d = true) :
    decodeFrom index (a :: b :: c :: d :: rest) =
      (decodeFrom (index + 4) rest).map
        (Char.ofNat (a.toNat % 8 * 262144 + payload b * 4096 + payload c * 64 + payload d) ::
          ·) := by
  have h1 : ¬a < 0x80 := by grind
  have h2 : ¬a < 0xC2 := by grind
  have h3 : ¬a < 0xE0 := by grind
  have h4 : ¬a < 0xF0 := by grind
  rw [decodeFrom.eq_def]
  simp only [if_neg h1, if_neg h2, if_neg h3, if_neg h4, if_pos ha', if_pos hb, if_pos hc,
    if_pos hd]

/-! ### Reading what was written -/

/-- The continuation bytes that are written are in their range. -/
theorem isContinuation_ofNat (n : Nat) : isContinuation (UInt8.ofNat (0x80 + n % 64)) = true := by
  rw [isContinuation_iff, byte_toNat (by omega)]
  omega

/-- A continuation byte that is written holds the six bits that it is written for. -/
theorem payload_ofNat (n : Nat) : payload (UInt8.ofNat (0x80 + n % 64)) = n % 64 := by
  rw [payload, byte_toNat (by omega)]
  omega

/-- The second byte of a character that is neither overlong, nor a surrogate, nor out of range. -/
theorem isSecond_ofNat (lead n : Nat) (hlead : lead < 256)
    (hE0 : lead = 0xE0 → 0x20 ≤ n % 64) (hED : lead = 0xED → n % 64 < 0x20)
    (hF0 : lead = 0xF0 → 0x10 ≤ n % 64) (hF4 : lead = 0xF4 → n % 64 < 0x10) :
    isSecond (UInt8.ofNat lead) (UInt8.ofNat (0x80 + n % 64)) = true := by
  rw [isSecond_iff, byte_toNat hlead, byte_toNat (by omega)]
  omega

/-- A written character is read back, and reading goes on after it. There is one case for each
length of the character: the tests that the reader makes on the first two bytes are bounds on the
code point. -/
theorem decodeFrom_encodeChar_append (index : Nat) (c : Char) (rest : Bytes) :
    decodeFrom index (encodeChar c ++ rest) =
      (decodeFrom (index + (encodeChar c).length) rest).map (c :: ·) := by
  have hbound := toNat_lt c
  have hsurrogate := toNat_not_surrogate c
  have hself := Char.ofNat_toNat c
  by_cases h1 : c.toNat < 0x80
  · have ha : (UInt8.ofNat c.toNat).toNat = c.toNat := byte_toNat (by omega)
    have hlead : UInt8.ofNat c.toNat < 0x80 := ofNat_lt (by omega) h1
    simp only [encodeChar, if_pos h1, List.cons_append, List.nil_append]
    rw [decodeFrom_one hlead, ha, hself]
    rfl
  by_cases h2 : c.toNat < 0x800
  · have ha : (UInt8.ofNat (0xC0 + c.toNat / 64)).toNat = 0xC0 + c.toNat / 64 :=
      byte_toNat (by omega)
    have hlow : 0xC2 ≤ UInt8.ofNat (0xC0 + c.toNat / 64) :=
      le_ofNat (by omega) (show 0xC2 ≤ _ by omega)
    have hhigh : UInt8.ofNat (0xC0 + c.toNat / 64) < 0xE0 :=
      ofNat_lt (by omega) (show _ < 0xE0 by omega)
    have hnumber : (0xC0 + c.toNat / 64) % 32 * 64 + c.toNat % 64 = c.toNat := by omega
    simp only [encodeChar, if_neg h1, if_pos h2, List.cons_append, List.nil_append]
    rw [decodeFrom_two hlow hhigh (isContinuation_ofNat _), ha, payload_ofNat, hnumber, hself]
    rfl
  by_cases h3 : c.toNat < 0x10000
  · have ha : (UInt8.ofNat (0xE0 + c.toNat / 4096)).toNat = 0xE0 + c.toNat / 4096 :=
      byte_toNat (by omega)
    have hlow : 0xE0 ≤ UInt8.ofNat (0xE0 + c.toNat / 4096) :=
      le_ofNat (by omega) (show 0xE0 ≤ _ by omega)
    have hhigh : UInt8.ofNat (0xE0 + c.toNat / 4096) < 0xF0 :=
      ofNat_lt (by omega) (show _ < 0xF0 by omega)
    have hsecond := isSecond_ofNat (0xE0 + c.toNat / 4096) (c.toNat / 64)
      (by omega) (by omega) (by omega) (by omega) (by omega)
    have hnumber : (0xE0 + c.toNat / 4096) % 16 * 4096 + c.toNat / 64 % 64 * 64 + c.toNat % 64 =
        c.toNat := by omega
    simp only [encodeChar, if_neg h1, if_neg h2, if_pos h3, List.cons_append, List.nil_append]
    rw [decodeFrom_three hlow hhigh hsecond (isContinuation_ofNat _), ha, payload_ofNat,
      payload_ofNat, hnumber, hself]
    rfl
  · have ha : (UInt8.ofNat (0xF0 + c.toNat / 262144)).toNat = 0xF0 + c.toNat / 262144 :=
      byte_toNat (by omega)
    have hlow : 0xF0 ≤ UInt8.ofNat (0xF0 + c.toNat / 262144) :=
      le_ofNat (by omega) (show 0xF0 ≤ _ by omega)
    have hhigh : UInt8.ofNat (0xF0 + c.toNat / 262144) < 0xF5 :=
      ofNat_lt (by omega) (show _ < 0xF5 by omega)
    have hsecond := isSecond_ofNat (0xF0 + c.toNat / 262144) (c.toNat / 4096)
      (by omega) (by omega) (by omega) (by omega) (by omega)
    have hnumber : (0xF0 + c.toNat / 262144) % 8 * 262144 + c.toNat / 4096 % 64 * 4096 +
        c.toNat / 64 % 64 * 64 + c.toNat % 64 = c.toNat := by omega
    simp only [encodeChar, if_neg h1, if_neg h2, if_neg h3, List.cons_append, List.nil_append]
    rw [decodeFrom_four hlow hhigh hsecond (isContinuation_ofNat _) (isContinuation_ofNat _), ha,
      payload_ofNat, payload_ofNat, payload_ofNat, hnumber, hself]
    rfl

/-- The bytes of characters are those of the first and those of the rest. -/
theorem encodeChars_cons (c : Char) (chars : List Char) :
    encodeChars (c :: chars) = encodeChar c ++ encodeChars chars := by
  simp [encodeChars]

/-- The bytes of characters read back as the characters. -/
theorem decodeFrom_encodeChars (index : Nat) (chars : List Char) :
    decodeFrom index (encodeChars chars) = .ok chars := by
  induction chars generalizing index with
  | nil => rfl
  | cons c chars ih =>
    rw [encodeChars_cons, decodeFrom_encodeChar_append, ih]
    rfl

/-! ### Writing what was read -/

/-- The character of a single byte is written as this byte. -/
theorem encodeChar_ofNat_one {a : UInt8} (ha : a < 0x80) :
    encodeChar (Char.ofNat a.toNat) = [a] := by
  have ha' : a.toNat < 0x80 := UInt8.lt_iff_toNat_lt.mp ha
  have hnumber := toNat_ofNat (n := a.toNat) (Or.inl (by omega))
  rw [encodeChar, hnumber, if_pos ha', UInt8.ofNat_toNat]

/-- The character of two bytes that are read together is written as these two. -/
theorem encodeChar_ofNat_two {a b : UInt8} (ha : ¬a < 0xC2) (ha' : a < 0xE0)
    (hb : isContinuation b = true) :
    encodeChar (Char.ofNat (a.toNat % 32 * 64 + payload b)) = [a, b] := by
  have hlow : ¬a.toNat < 0xC2 := fun h => ha (UInt8.lt_iff_toNat_lt.mpr h)
  have hhigh : a.toNat < 0xE0 := UInt8.lt_iff_toNat_lt.mp ha'
  rw [isContinuation_iff] at hb
  have hvalid : (a.toNat % 32 * 64 + b.toNat % 64).isValidChar := Or.inl (by omega)
  rw [payload, encodeChar, toNat_ofNat hvalid, if_neg (by omega), if_pos (by omega)]
  rw [ofNat_eq_of_toNat (a := a) (by omega), ofNat_eq_of_toNat (a := b) (by omega)]

/-- The character of three bytes that are read together is written as these three. -/
theorem encodeChar_ofNat_three {a b c : UInt8} (ha : ¬a < 0xE0) (ha' : a < 0xF0)
    (hb : isSecond a b = true) (hc : isContinuation c = true) :
    encodeChar (Char.ofNat (a.toNat % 16 * 4096 + payload b * 64 + payload c)) = [a, b, c] := by
  have hlow : ¬a.toNat < 0xE0 := fun h => ha (UInt8.lt_iff_toNat_lt.mpr h)
  have hhigh : a.toNat < 0xF0 := UInt8.lt_iff_toNat_lt.mp ha'
  rw [isSecond_iff] at hb
  rw [isContinuation_iff] at hc
  have hvalid : (a.toNat % 16 * 4096 + b.toNat % 64 * 64 + c.toNat % 64).isValidChar := by
    unfold Nat.isValidChar
    omega
  rw [payload, payload, encodeChar, toNat_ofNat hvalid, if_neg (by omega), if_neg (by omega),
    if_pos (by omega)]
  rw [ofNat_eq_of_toNat (a := a) (by omega), ofNat_eq_of_toNat (a := b) (by omega),
    ofNat_eq_of_toNat (a := c) (by omega)]

/-- The character of four bytes that are read together is written as these four. -/
theorem encodeChar_ofNat_four {a b c d : UInt8} (ha : ¬a < 0xF0) (ha' : a < 0xF5)
    (hb : isSecond a b = true) (hc : isContinuation c = true) (hd : isContinuation d = true) :
    encodeChar
      (Char.ofNat (a.toNat % 8 * 262144 + payload b * 4096 + payload c * 64 + payload d)) =
        [a, b, c, d] := by
  have hlow : ¬a.toNat < 0xF0 := fun h => ha (UInt8.lt_iff_toNat_lt.mpr h)
  have hhigh : a.toNat < 0xF5 := UInt8.lt_iff_toNat_lt.mp ha'
  rw [isSecond_iff] at hb
  rw [isContinuation_iff] at hc hd
  have hvalid : (a.toNat % 8 * 262144 + b.toNat % 64 * 4096 + c.toNat % 64 * 64 +
      d.toNat % 64).isValidChar := by
    unfold Nat.isValidChar
    omega
  rw [payload, payload, payload, encodeChar, toNat_ofNat hvalid, if_neg (by omega),
    if_neg (by omega), if_neg (by omega)]
  rw [ofNat_eq_of_toNat (a := a) (by omega), ofNat_eq_of_toNat (a := b) (by omega),
    ofNat_eq_of_toNat (a := c) (by omega), ofNat_eq_of_toNat (a := d) (by omega)]

/-- Strictness: what reads as characters is what those characters are written as. Every other way
through the reader ends in a fault. -/
theorem eq_encodeChars_of_decodeFrom {index : Nat} {bytes : Bytes} {chars : List Char}
    (h : decodeFrom index bytes = .ok chars) : bytes = encodeChars chars := by
  fun_induction decodeFrom index bytes generalizing chars
  case case1 index =>
    cases h
    rfl
  case case2 index a rest ha ih =>
    obtain ⟨tail, htail, rfl⟩ := Except.map_eq_ok_iff.mp h
    rw [encodeChars_cons, encodeChar_ofNat_one ha, ← ih htail]
    rfl
  case case5 index a _ ha ha' b rest hb ih =>
    obtain ⟨tail, htail, rfl⟩ := Except.map_eq_ok_iff.mp h
    rw [encodeChars_cons, encodeChar_ofNat_two ha ha' hb, ← ih htail]
    rfl
  case case9 index a _ _ ha ha' b hb c rest hc ih =>
    obtain ⟨tail, htail, rfl⟩ := Except.map_eq_ok_iff.mp h
    rw [encodeChars_cons, encodeChar_ofNat_three ha ha' hb hc, ← ih htail]
    rfl
  case case15 index a _ _ _ ha ha' b hb c hc d rest hd ih =>
    obtain ⟨tail, htail, rfl⟩ := Except.map_eq_ok_iff.mp h
    rw [encodeChars_cons, encodeChar_ofNat_four ha ha' hb hc hd, ← ih htail]
    rfl
  all_goals cases h

/-- A buffer reads as a text exactly when it is what that text is written as. -/
theorem decode_eq_ok_iff {bytes : Bytes} {text : String} :
    decode bytes = .ok text ↔ bytes = encode text := by
  constructor
  · intro h
    obtain ⟨chars, hchars, rfl⟩ := Except.map_eq_ok_iff.mp h
    rw [eq_encodeChars_of_decodeFrom hchars, encode, String.toList_ofList]
  · rintro rfl
    rw [decode, encode, decodeFrom_encodeChars]
    simp

end LedgerWire.Utf8
