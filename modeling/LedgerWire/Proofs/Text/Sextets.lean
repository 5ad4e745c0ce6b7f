import LedgerWire.Proofs.Text.Base64
import LedgerWire.Proofs.Text.Numerals
import Mathlib.Data.List.TakeWhile

/-!
# Base64 texts and buffers correspond up to padding

A buffer and its standard text are one number, cut into bytes and into values of six bits, with
zero bits in place of the bytes that the last group lacks and as much padding as there are bytes
lacking. The reader accepts that text and what is left of it when padding is taken off its end, and
gives back the buffer. It refuses every other text, for a foreign character, a padding character
in a wrong place, a lone last character or a last character with bits that stand for no byte.
-/

namespace LedgerWire.Base64

/-! ### The standard text -/

/-- The characters in the order of their values. -/
def alphabet : List Char :=
  "ABCDEFGHIJKLMNOPQRSTUVWXYZabcdefghijklmnopqrstuvwxyz0123456789+/".toList

/-- The character of a value below 64. -/
def letter (value : Nat) : Char := alphabet.getD value '='

/-- A buffer cut into values of six bits. Three bytes make a group of four values, the last group
lacking as many values as bytes, and the number is the same up to two zero bits for each. -/
structure Cut (bytes : Bytes) (values : List Nat) (lacking : Nat) : Prop where
  values_lt : ∀ value ∈ values, value < 64
  lacking_lt : lacking < 3
  length : ∃ groups, bytes.length + lacking = 3 * groups ∧ values.length + lacking = 4 * groups
  number : Radix.value 64 values = Bytes.ofBigEndian bytes * 4 ^ lacking

/-- The text of a buffer with the padding that completes its last group. -/
def Standard (text : String) (bytes : Bytes) : Prop :=
  ∃ values lacking, Cut bytes values lacking ∧
    text.toList = values.map letter ++ List.replicate lacking '='

/-- A text that is the standard text of a buffer once padding is put back at its end. -/
def Spells (text : String) (bytes : Bytes) : Prop :=
  ∃ removed, Standard (text ++ String.ofList (List.replicate removed '=')) bytes

/-- What keeps a text from spelling a buffer: a foreign character, a padding character among the
first two of a group or in front of something else, a single character in the last group, or bits
of the last character before the padding that belong to no byte. -/
inductive Malformed (text : String) : Prop where
  | foreign {c : Char} (hmem : c ∈ text.toList) (hletter : c ∉ alphabet) (hpad : c ≠ '=')
  | misplaced {before after : List Char} (htext : text.toList = before ++ '=' :: after)
      (hplace : before.length % 4 < 2 ∨ ∃ c ∈ after, c ≠ '=')
  | lone (hlength : text.toList.length % 4 = 1)
  | leftover {before after : List Char} {value : Nat} (hvalue : value < 64)
      (htext : text.toList = before ++ letter value :: after) (hafter : ∀ c ∈ after, c = '=')
      (hbits : before.length % 4 = 1 ∧ value % 16 ≠ 0 ∨ before.length % 4 = 2 ∧ value % 4 ≠ 0)

/-! ### Characters -/

/-- The letters of the 64 values are the alphabet. -/
theorem map_letter : (List.range 64).map letter = alphabet := by decide

/-- The letters of values are in the alphabet. -/
theorem letter_mem {value : Nat} (hvalue : value < 64) : letter value ∈ alphabet := by
  rw [← map_letter]
  exact List.mem_map_of_mem (List.mem_range.mpr hvalue)

/-- Each character of the alphabet is the letter of a value. -/
theorem exists_letter {c : Char} (hc : c ∈ alphabet) : ∃ value < 64, letter value = c := by
  rw [← map_letter] at hc
  obtain ⟨value, hvalue, rfl⟩ := List.mem_map.mp hc
  exact ⟨value, List.mem_range.mp hvalue, rfl⟩

/-- The padding is no letter. -/
theorem pad_notMem_alphabet : '=' ∉ alphabet := by decide

/-- Different values have different letters. -/
theorem letter_injective {value other : Nat} (hvalue : value < 64) (hother : other < 64)
    (h : letter value = letter other) : value = other := by
  have hnodup : ((List.range 64).map letter).Nodup := by
    rw [map_letter]
    decide
  exact List.inj_on_of_nodup_map hnodup (List.mem_range.mpr hvalue) (List.mem_range.mpr hother) h

/-- Symbols are the characters of the alphabet as bytes. -/
theorem ofNat_symbol {value : Nat} (hvalue : value < 64) :
    Char.ofNat (symbol value).toNat = letter value := by
  have htable : (List.range 64).map (fun value => Char.ofNat (symbol value).toNat) =
      (List.range 64).map letter := by decide
  exact List.map_inj_left.mp htable value (List.mem_range.mpr hvalue)

/-! ### Cutting a buffer -/

/-- The values are the number of the buffer in base 64, shifted over what the last group lacks. -/
theorem value_sextets (bytes : Bytes) :
    Radix.value 64 (sextets bytes) = Bytes.ofBigEndian bytes * 4 ^ (padding bytes).length := by
  induction bytes using encodeBytes.induct with
  | case1 => rfl
  | case2 a =>
    show (0 * 64 + a.toNat / 4) * 64 + a.toNat % 4 * 16 = (0 * 256 + a.toNat) * 4 ^ 2
    omega
  | case3 a b =>
    show ((0 * 64 + a.toNat / 4) * 64 + (a.toNat % 4 * 16 + b.toNat / 16)) * 64 +
      b.toNat % 16 * 4 = ((0 * 256 + a.toNat) * 256 + b.toNat) * 4 ^ 1
    omega
  | case4 a b c rest ih =>
    obtain ⟨-, groups, hbytes, hvalues⟩ := length_padding rest
    have hfront : Radix.value 64 [a.toNat / 4, a.toNat % 4 * 16 + b.toNat / 16,
        b.toNat % 16 * 4 + c.toNat / 64, c.toNat % 64] =
          Radix.value 256 [a.toNat, b.toNat, c.toNat] := by
      simp only [Radix.value, List.foldl_cons, List.foldl_nil]
      omega
    have hwidth : (64 : Nat) ^ (sextets rest).length =
        256 ^ rest.length * 4 ^ (padding rest).length := by
      have h64 : (64 : Nat) = 2 ^ 6 := rfl
      have h256 : (256 : Nat) = 2 ^ 8 := rfl
      have h4 : (4 : Nat) = 2 ^ 2 := rfl
      rw [h64, h256, h4, ← Nat.pow_mul, ← Nat.pow_mul, ← Nat.pow_mul, ← Nat.pow_add]
      congr 1
      omega
    calc Radix.value 64 (sextets (a :: b :: c :: rest))
        = Radix.value 64 ([a.toNat / 4, a.toNat % 4 * 16 + b.toNat / 16,
            b.toNat % 16 * 4 + c.toNat / 64, c.toNat % 64] ++ sextets rest) := rfl
      _ = Radix.value 256 [a.toNat, b.toNat, c.toNat] * 64 ^ (sextets rest).length +
            Radix.value 64 (sextets rest) := by rw [Radix.value_append, hfront]
      _ = (Radix.value 256 [a.toNat, b.toNat, c.toNat] * 256 ^ rest.length +
            Bytes.ofBigEndian rest) * 4 ^ (padding rest).length := by
        rw [hwidth, ih, Nat.add_mul, Nat.mul_assoc]
      _ = Bytes.ofBigEndian (a :: b :: c :: rest) *
            4 ^ (padding (a :: b :: c :: rest)).length := by
        rw [padding_cons_cons_cons, Bytes.ofBigEndian_eq_value rest,
          Bytes.ofBigEndian_eq_value (a :: b :: c :: rest), ← List.length_map UInt8.toNat,
          ← Radix.value_append]
        rfl

/-- A buffer is cut in one way. -/
theorem cut_iff {bytes : Bytes} {values : List Nat} {lacking : Nat} :
    Cut bytes values lacking ↔ values = sextets bytes ∧ lacking = (padding bytes).length := by
  obtain ⟨hlt, groups, hbytes, hvalues⟩ := length_padding bytes
  constructor
  · rintro ⟨hvalueslt, hlacking, ⟨groups', hbytes', hvalues'⟩, hnumber⟩
    have hsame : lacking = (padding bytes).length := by omega
    subst hsame
    rw [← value_sextets, Radix.value_eq, Radix.value_eq] at hnumber
    have hreverse : values.reverse = (sextets bytes).reverse := by
      refine Nat.ofDigits_inj_of_len_eq (by omega) ?_ ?_ ?_ hnumber
      · simp only [List.length_reverse]
        omega
      · simpa using hvalueslt
      · simpa using sextets_lt bytes
    exact ⟨List.reverse_inj.mp hreverse, rfl⟩
  · rintro ⟨rfl, rfl⟩
    exact ⟨sextets_lt bytes, hlt, ⟨groups, hbytes, hvalues⟩, value_sextets bytes⟩

/-! ### Writing -/

/-- Bytes that stand for values and padding are the characters of those values and padding. -/
theorem map_ofNat_raw {values : List Nat} (hlt : ∀ value ∈ values, value < 64) (count : Nat) :
    (values.map symbol ++ List.replicate count pad).map (fun byte => Char.ofNat byte.toNat) =
      values.map letter ++ List.replicate count '=' := by
  rw [List.map_append, List.map_map, List.map_replicate]
  congr 1
  exact List.map_congr_left fun value hvalue => ofNat_symbol (hlt value hvalue)

/-- The text of bytes is the letters of their parts and the padding. -/
theorem toList_encode (bytes : Bytes) :
    (encode bytes).toList =
      (sextets bytes).map letter ++ List.replicate (padding bytes).length '=' := by
  rw [encode, String.toList_ofList, encodeBytes_eq, padding_eq_replicate,
    map_ofNat_raw (sextets_lt bytes), List.length_replicate]

/-- A buffer is written as its standard text. -/
theorem encode_eq_iff {text : String} {bytes : Bytes} :
    encode bytes = text ↔ Standard text bytes := by
  simp only [Standard, cut_iff]
  rw [← String.toList_inj, toList_encode]
  constructor
  · exact fun h => ⟨_, _, ⟨rfl, rfl⟩, h.symm⟩
  · rintro ⟨_, _, ⟨rfl, rfl⟩, h⟩
    exact h.symm

/-! ### Reading -/

/-- A text is read as a buffer when it is what the buffer is written as, with some padding taken
off its end at most. Different texts have different bytes, so the characters are those of the
ASCII bytes. -/
theorem decode_eq_ok_iff_kept {text : String} {bytes : Bytes} :
    decode text = .ok bytes ↔ ∃ kept ≤ (padding bytes).length,
      text.toList = (sextets bytes).map letter ++ List.replicate kept '=' := by
  rw [decode, decodeBytes_eq_ok_iff]
  refine exists_congr fun kept => and_congr_right fun _ => ?_
  have hlt := sextets_lt bytes
  have hascii := raw_lt hlt kept
  rw [← map_ofNat_raw hlt]
  constructor
  · intro h
    have htext := Utf8.decode_eq_ok_iff.mpr h.symm
    rw [Utf8.decode_eq_ok_iff.mpr (Utf8.encode_ascii hascii).symm, Except.ok.injEq] at htext
    rw [← htext, String.toList_ofList]
  · intro h
    rw [← Utf8.encode_ascii hascii, ← h, String.ofList_toList]

/-! ### Texts with less padding -/

/-- No letter of a value is the padding. -/
theorem pad_notMem_letters {values : List Nat} (hlt : ∀ value ∈ values, value < 64) :
    '=' ∉ values.map letter := by
  intro hmem
  obtain ⟨value, hvalue, hletter⟩ := List.mem_map.mp hmem
  exact pad_notMem_alphabet (hletter ▸ letter_mem (hlt value hvalue))

/-- A text spells a buffer when it keeps the characters of its values and some of the padding.
Nothing is cut off the characters of the values, since only padding is put back. -/
theorem spells_iff {text : String} {bytes : Bytes} :
    Spells text bytes ↔ ∃ kept ≤ (padding bytes).length,
      text.toList = (sextets bytes).map letter ++ List.replicate kept '=' := by
  have hletters := pad_notMem_letters (sextets_lt bytes)
  simp only [Spells, ← encode_eq_iff, ← String.toList_inj, toList_encode, String.toList_append,
    String.toList_ofList]
  constructor
  · rintro ⟨removed, h⟩
    rcases List.append_eq_append_iff.mp h with ⟨between, htext, hpads⟩ | ⟨cut, hvalues, hpads⟩
    · obtain ⟨hlength, hbetween, -⟩ := List.replicate_eq_append_iff.mp hpads
      rw [hbetween] at htext
      exact ⟨between.length, by omega, htext⟩
    · obtain ⟨-, hcut, -⟩ := List.replicate_eq_append_iff.mp hpads
      have hnil : cut = [] := by
        refine List.eq_nil_iff_forall_not_mem.mpr fun c hc => hletters ?_
        have heq : c = '=' := List.eq_of_mem_replicate (hcut ▸ hc)
        rw [hvalues, ← heq]
        exact List.mem_append_right _ hc
      rw [hnil, List.append_nil] at hvalues
      exact ⟨0, Nat.zero_le _, by rw [← hvalues, List.replicate_zero, List.append_nil]⟩
  · rintro ⟨kept, hkept, htext⟩
    refine ⟨(padding bytes).length - kept, ?_⟩
    rw [htext, List.append_assoc, List.replicate_append_replicate, Nat.add_sub_cancel' hkept]

/-- A text is read as the buffer that it spells. -/
theorem decode_eq_ok_iff {text : String} {bytes : Bytes} :
    decode text = .ok bytes ↔ Spells text bytes := by
  rw [decode_eq_ok_iff_kept, spells_iff]

/-- A text spells one buffer at most. -/
theorem Spells.unique {text : String} {bytes other : Bytes} (h : Spells text bytes)
    (h' : Spells text other) : bytes = other := by
  have hdecode := decode_eq_ok_iff.mpr h
  rw [decode_eq_ok_iff.mpr h', Except.ok.injEq] at hdecode
  exact hdecode.symm

/-! ### Malformed texts -/

/-- In front of a padding character behind letters stand the letters and padding. -/
theorem eq_of_append_pad {letters before after : List Char} {kept : Nat} (hletters : '=' ∉ letters)
    (h : letters ++ List.replicate kept '=' = before ++ '=' :: after) :
    before.length < letters.length + kept ∧ letters.length ≤ before.length ∧
      ∀ c ∈ after, c = '=' := by
  rcases List.append_eq_append_iff.mp h with ⟨between, rfl, hpads⟩ | ⟨cut, rfl, hpads⟩
  · obtain ⟨hlength, -, hafter⟩ := List.replicate_eq_append_iff.mp hpads
    simp only [List.length_cons, List.replicate_succ, List.cons.injEq, true_and] at hlength hafter
    refine ⟨?_, by simp, fun c hc => List.eq_of_mem_replicate (hafter ▸ hc)⟩
    rw [List.length_append]
    omega
  · cases cut with
    | nil =>
      have hafter : ∀ c ∈ '=' :: after, c = '=' := fun c hc =>
        List.eq_of_mem_replicate (hpads ▸ hc)
      have hlength := congrArg List.length hpads
      simp only [List.nil_append, List.length_cons, List.length_replicate] at hlength
      refine ⟨?_, by simp, fun c hc => hafter c (List.mem_cons_of_mem _ hc)⟩
      rw [List.append_nil]
      omega
    | cons c cut =>
      obtain ⟨rfl, -⟩ := List.cons.inj hpads
      exact absurd (List.mem_append_right before List.mem_cons_self) hletters

/-- The last character in front of the padding is that of the last value. Nothing but padding
comes after it. -/
theorem eq_append_of_letters {values : List Nat} {before after : List Char} {value kept : Nat}
    (hlt : ∀ value ∈ values, value < 64) (hvalue : value < 64) (hafter : ∀ c ∈ after, c = '=')
    (h : values.map letter ++ List.replicate kept '=' = before ++ letter value :: after) :
    ∃ front, values = front ++ [value] ∧ front.length = before.length := by
  have hne : letter value ≠ '=' := fun heq => pad_notMem_alphabet (heq ▸ letter_mem hvalue)
  have hletters := pad_notMem_letters hlt
  rcases List.append_eq_append_iff.mp h with ⟨between, -, hpads⟩ | ⟨cut, hvalues, hpads⟩
  · obtain ⟨-, -, hletter⟩ := List.replicate_eq_append_iff.mp hpads
    exact absurd (List.eq_of_mem_replicate (hletter ▸ List.mem_cons_self)) hne
  · cases cut with
    | nil =>
      have hmem : letter value ∈ List.replicate kept '=' := by
        rw [← List.nil_append (List.replicate kept '='), ← hpads]
        exact List.mem_cons_self
      exact absurd (List.eq_of_mem_replicate hmem) hne
    | cons c rest =>
      obtain ⟨rfl, rfl⟩ := List.cons.inj hpads
      have hrest : rest = [] := by
        refine List.eq_nil_iff_forall_not_mem.mpr fun c hc => hletters ?_
        rw [hvalues, ← hafter c (List.mem_append_left _ hc)]
        exact List.mem_append_right _ (List.mem_cons_of_mem _ hc)
      subst hrest
      obtain ⟨front, back, rfl, rfl, hback⟩ := List.map_eq_append_iff.mp hvalues
      obtain ⟨last, rfl, hlast⟩ := List.map_eq_singleton_iff.mp hback
      have hlastlt : last < 64 := hlt last (List.mem_append_right _ List.mem_cons_self)
      rw [letter_injective hlastlt hvalue hlast]
      exact ⟨front, rfl, (List.length_map letter).symm⟩

/-- A malformed text spells no buffer. The bits that belong to no byte are the zeros that the number
of the bytes is shifted over. -/
theorem Malformed.not_spells {text : String} (h : Malformed text) (bytes : Bytes) :
    ¬Spells text bytes := by
  intro hspells
  obtain ⟨kept, hkept, htext⟩ := spells_iff.mp hspells
  obtain ⟨hlacking, groups, -, hgroups⟩ := length_padding bytes
  have hlt := sextets_lt bytes
  cases h with
  | foreign hmem hletter hpad =>
    rw [htext, List.mem_append] at hmem
    rcases hmem with hmem | hmem
    · obtain ⟨value, hvalue, rfl⟩ := List.mem_map.mp hmem
      exact hletter (letter_mem (hlt value hvalue))
    · exact hpad (List.eq_of_mem_replicate hmem)
  | misplaced htext' hplace =>
    obtain ⟨hbefore, hletters, hafter⟩ :=
      eq_of_append_pad (pad_notMem_letters hlt) (htext.symm.trans htext')
    rw [List.length_map] at hbefore hletters
    rcases hplace with hplace | ⟨c, hc, hne⟩
    · omega
    · exact hne (hafter c hc)
  | lone hlength =>
    rw [htext, List.length_append, List.length_map, List.length_replicate] at hlength
    omega
  | @leftover before after value hvalue htext' hafter hbits =>
    obtain ⟨front, hfront, hlength⟩ :=
      eq_append_of_letters hlt hvalue hafter (htext.symm.trans htext')
    have hnumber := value_sextets bytes
    have hwhole : (sextets bytes).length = before.length + 1 := by
      rw [hfront, List.length_append, hlength]
      rfl
    rw [hfront, Radix.value_concat] at hnumber
    rcases hbits with ⟨hplace, hbits⟩ | ⟨hplace, hbits⟩
    · have htwo : (padding bytes).length = 2 := by omega
      rw [htwo] at hnumber
      omega
    · have hone : (padding bytes).length = 1 := by omega
      rw [hone] at hnumber
      omega

/-! ### Every other text -/

/-- Characters of the alphabet are those of some values. -/
theorem exists_values {chars : List Char} (h : ∀ c ∈ chars, c ∈ alphabet) :
    ∃ values : List Nat, (∀ value ∈ values, value < 64) ∧ values.map letter = chars := by
  induction chars with
  | nil => exact ⟨[], nofun, rfl⟩
  | cons c chars ih =>
    obtain ⟨hc, hchars⟩ := List.forall_mem_cons.mp h
    obtain ⟨value, hvalue, rfl⟩ := exists_letter hc
    obtain ⟨values, hvalues, rfl⟩ := ih hchars
    exact ⟨value :: values, List.forall_mem_cons.mpr ⟨hvalue, hvalues⟩, rfl⟩

/-- Values are unpacked unless one is left alone or the last one has bits that belong to no byte. -/
theorem exists_unpack {values : List Nat} (hlone : values.length % 4 ≠ 1)
    (hbits : ∀ front value, values = front ++ [value] →
      (front.length % 4 = 1 → value % 16 = 0) ∧ (front.length % 4 = 2 → value % 4 = 0)) :
    ∃ bytes, unpack values = some bytes := by
  induction values using unpack.induct with
  | case1 => exact ⟨_, rfl⟩
  | case2 a => exact absurd rfl hlone
  | case3 a b hzero => exact ⟨_, if_pos hzero⟩
  | case4 a b hzero => exact absurd ((hbits [a] b rfl).1 rfl) hzero
  | case5 a b c hzero => exact ⟨_, if_pos hzero⟩
  | case6 a b c hzero => exact absurd ((hbits [a, b] c rfl).2 rfl) hzero
  | case7 a b c d rest ih =>
    have hgroup (list : List Nat) : (a :: b :: c :: d :: list).length % 4 = list.length % 4 := by
      simp only [List.length_cons]
      omega
    rw [hgroup] at hlone
    obtain ⟨bytes, hrest⟩ := ih hlone fun front value hfront => by
      have h := hbits (a :: b :: c :: d :: front) value (by rw [hfront]; rfl)
      rwa [hgroup] at h
    rw [unpack, hrest]
    exact ⟨_, rfl⟩

/-- A text that is not malformed is letters and then padding that stays inside their last group.
Each padding character stands third or fourth in its group. -/
theorem eq_letters_append {text : String} (h : ¬Malformed text) :
    ∃ (values : List Nat) (kept : Nat), (∀ value ∈ values, value < 64) ∧
      text.toList = values.map letter ++ List.replicate kept '=' ∧
      (kept = 0 ∨ 2 ≤ values.length % 4 ∧ values.length % 4 + kept ≤ 4) := by
  have hsplit := @List.takeWhile_append_dropWhile _ (· != '=') text.toList
  have hstop := List.head?_dropWhile_not (· != '=') text.toList
  obtain ⟨values, hlt, hvalues⟩ := @exists_values (text.toList.takeWhile (· != '=')) fun c hc => by
    by_contra hletter
    have hpad : c ≠ '=' := by simpa using List.mem_takeWhile_imp hc
    exact h (.foreign ((List.takeWhile_sublist _).subset hc) hletter hpad)
  rw [← hvalues] at hsplit
  have htail : ∀ c ∈ text.toList.dropWhile (· != '='), c = '=' := by
    cases hrest : text.toList.dropWhile (· != '=') with
    | nil => exact nofun
    | cons c rest =>
      have hc : c = '=' := by
        rw [hrest] at hstop
        simpa using hstop
      subst hc
      rw [hrest] at hsplit
      intro other hother
      rcases List.mem_cons.mp hother with rfl | hother
      · rfl
      · by_contra hne
        exact h (.misplaced hsplit.symm (.inr ⟨other, hother, hne⟩))
  rw [List.eq_replicate_of_mem htail] at hsplit
  generalize (text.toList.dropWhile (· != '=')).length = kept at hsplit
  refine ⟨values, kept, hlt, hsplit.symm, ?_⟩
  have hplace : ∀ before < kept, 2 ≤ (values.length + before) % 4 := by
    intro before hbefore
    by_contra hlow
    have htext : text.toList = (values.map letter ++ List.replicate before '=') ++
        '=' :: List.replicate (kept - before - 1) '=' := by
      rw [← hsplit, List.append_assoc, ← List.replicate_succ, List.replicate_append_replicate]
      congr 2
      omega
    refine h (.misplaced htext (.inl ?_))
    rw [List.length_append, List.length_map, List.length_replicate]
    omega
  rcases Nat.eq_zero_or_pos kept with hzero | hpos
  · exact .inl hzero
  · have hfirst := hplace 0 hpos
    refine .inr ⟨hfirst, ?_⟩
    by_contra hlong
    have hnext := hplace (4 - values.length % 4) (by omega)
    omega

/-- A text that is not malformed spells a buffer. -/
theorem exists_spells {text : String} (h : ¬Malformed text) : ∃ bytes, Spells text bytes := by
  obtain ⟨values, kept, hlt, htext, hfits⟩ := eq_letters_append h
  have hlone : (values.length + kept) % 4 ≠ 1 := by
    intro hlone
    refine h (.lone ?_)
    rwa [htext, List.length_append, List.length_map, List.length_replicate]
  have hunpack : ∃ bytes, unpack values = some bytes := by
    refine exists_unpack (by omega) fun front value hfront => ?_
    have hvalue : value < 64 := hlt value (hfront ▸ List.mem_append_right _ List.mem_cons_self)
    rw [hfront, List.map_append, List.append_assoc] at htext
    have hleftover := @Malformed.leftover text (front.map letter) (List.replicate kept '=') value
      hvalue htext fun c hc => List.eq_of_mem_replicate hc
    rw [List.length_map] at hleftover
    refine ⟨fun hplace => ?_, fun hplace => ?_⟩
    · by_contra hbits
      exact h (hleftover (.inl ⟨hplace, hbits⟩))
    · by_contra hbits
      exact h (hleftover (.inr ⟨hplace, hbits⟩))
  obtain ⟨bytes, hbytes⟩ := hunpack
  obtain rfl := (unpack_eq_some_iff hlt).mp hbytes
  obtain ⟨hlacking, groups, -, hgroups⟩ := length_padding bytes
  exact ⟨bytes, spells_iff.mpr ⟨kept, by omega, htext⟩⟩

/-- A text is malformed exactly when it spells no buffer. -/
theorem malformed_iff {text : String} : Malformed text ↔ ∀ bytes, ¬Spells text bytes := by
  constructor
  · exact Malformed.not_spells
  · intro h
    by_contra hsound
    obtain ⟨bytes, hspells⟩ := exists_spells hsound
    exact h bytes hspells

/-- A malformed text is refused, and no other. -/
theorem exists_decode_eq_error_iff {text : String} :
    (∃ fault, decode text = .error fault) ↔ Malformed text := by
  rw [malformed_iff]
  simp only [← decode_eq_ok_iff]
  cases decode text <;> simp

end LedgerWire.Base64
