import LedgerWire.Amount
import LedgerWire.Proofs.Except
import LedgerWire.Proofs.Text.Numerals

/-!
# Decimal text is read exactly

Digits are read from the left, and reading ends as soon as the number reaches the limit. Since a
number only grows as digits are added, a text is read exactly when it consists of digits, behind one
plus sign or none, whose value stays below the limit, and what is read is that value. A number is
written without a leading zero, which determines its text.
-/

namespace LedgerWire

namespace Decimal

/-! ### Digits -/

/-- A character has a value exactly when it is the character of that value. -/
theorem digit?_eq_some_iff {c : Char} {digit : Nat} :
    digit? c = some digit ↔ digit < 10 ∧ digitChar digit = c := by
  constructor
  · intro h
    rw [digit?] at h
    split at h
    · rename_i hrange
      have hlow : 48 ≤ c.toNat := hrange.1
      have hhigh : c.toNat ≤ 57 := hrange.2
      have hdigit : c.toNat - 48 = digit := Option.some.inj h
      have hcode : 48 + digit = c.toNat := by omega
      refine ⟨by omega, ?_⟩
      rw [digitChar, hcode, Char.ofNat_toNat]
    · cases h
  · rintro ⟨hlt, rfl⟩
    have htable : ∀ digit < 10, digit? (digitChar digit) = some digit := by decide
    exact htable digit hlt

/-- No digit is a plus sign. -/
theorem digitChar_ne_plus {digit : Nat} (hdigit : digit < 10) : digitChar digit ≠ '+' := by
  have htable : ∀ digit < 10, digitChar digit ≠ '+' := by decide
  exact htable digit hdigit

/-- The number so far with one more digit behind it. -/
def append (number digit : Nat) : Nat := number * 10 + digit

/-- A number only grows as digits are added. -/
theorem le_foldl (digits : List Nat) (number : Nat) : number ≤ digits.foldl append number := by
  induction digits generalizing number with
  | nil => exact Nat.le_refl number
  | cons digit digits ih =>
    rw [List.foldl_cons]
    have hstep := ih (append number digit)
    unfold append at hstep ⊢
    omega

/-- Reading digits one by one makes the number that they are in base ten. -/
theorem foldl_append_eq_ofDigits (digits : List Nat) :
    digits.foldl append 0 = Nat.ofDigits 10 digits.reverse :=
  Radix.value_eq 10 digits

/-- Digits behind a first one are read from the number that the first one makes. -/
theorem readDigits_cons {limit start digit : Nat} {c : Char} (hc : digit? c = some digit)
    (rest : List Char) :
    readDigits limit start (c :: rest) =
      if append start digit < limit then readDigits limit (append start digit) rest
      else .error .tooLarge := by
  have hextend : extend limit start c =
      if append start digit < limit then .ok (append start digit) else .error .tooLarge := by
    rw [extend, hc]
    rfl
  rw [readDigits, hextend]
  by_cases hlimit : append start digit < limit
  · rw [if_pos hlimit, if_pos hlimit]
  · rw [if_neg hlimit, if_neg hlimit]

/-- Digits are read as the number that they stand for behind what was read before, if it stays below
the limit. No further digit brings the number back below the limit. -/
theorem readDigits_eq_ok_iff {limit start number : Nat} {chars : List Char}
    (hstart : start < limit) :
    readDigits limit start chars = .ok number ↔
      ∃ digits : List Nat, (∀ digit ∈ digits, digit < 10) ∧ digits.map digitChar = chars ∧
        digits.foldl append start = number ∧ number < limit := by
  induction chars generalizing start with
  | nil =>
    rw [readDigits, Except.ok.injEq]
    constructor
    · rintro rfl
      exact ⟨[], by simp, rfl, rfl, hstart⟩
    · rintro ⟨digits, -, hmap, hfold, -⟩
      rw [List.map_eq_nil_iff.mp hmap] at hfold
      exact hfold
  | cons c rest ih =>
    simp only [List.map_eq_cons_iff]
    cases hc : digit? c with
    | none =>
      have hread : readDigits limit start (c :: rest) = .error .invalidDigit := by
        rw [readDigits, extend, hc]
      rw [hread]
      refine iff_of_false (fun h => by cases h) ?_
      rintro ⟨_, hdigits, ⟨first, others, rfl, hfirst, -⟩, -⟩
      have hsome := digit?_eq_some_iff.mpr ⟨hdigits first List.mem_cons_self, hfirst⟩
      cases hc.symm.trans hsome
    | some digit =>
      have hfirst {first : Nat} (hlt : first < 10) (heq : digitChar first = c) : first = digit :=
        Option.some.inj ((digit?_eq_some_iff.mpr ⟨hlt, heq⟩).symm.trans hc)
      rw [readDigits_cons hc]
      by_cases hlimit : append start digit < limit
      · rw [if_pos hlimit, ih hlimit]
        constructor
        · rintro ⟨others, hothers, hmap, hfold, hnumber⟩
          obtain ⟨hlt, heq⟩ := digit?_eq_some_iff.mp hc
          exact ⟨digit :: others, List.forall_mem_cons.mpr ⟨hlt, hothers⟩,
            ⟨digit, others, rfl, heq, hmap⟩, hfold, hnumber⟩
        · rintro ⟨_, hdigits, ⟨first, others, rfl, heq, hmap⟩, hfold, hnumber⟩
          obtain ⟨hlt, hothers⟩ := List.forall_mem_cons.mp hdigits
          rw [List.foldl_cons, hfirst hlt heq] at hfold
          exact ⟨others, hothers, hmap, hfold, hnumber⟩
      · rw [if_neg hlimit]
        refine iff_of_false (fun h => by cases h) ?_
        rintro ⟨_, hdigits, ⟨first, others, rfl, heq, -⟩, hfold, hnumber⟩
        rw [List.foldl_cons, hfirst (hdigits first List.mem_cons_self) heq] at hfold
        have hle := le_foldl others (append start digit)
        omega

/-! ### Texts -/

/-- A text of one or more digits, behind one plus sign or none, stands for the value of the
digits. -/
def Denotes (text : String) (number : Nat) : Prop :=
  ∃ (sign : String) (digits : List Nat), (sign = "" ∨ sign = "+") ∧ digits ≠ [] ∧
    (∀ digit ∈ digits, digit < 10) ∧ text = sign ++ String.ofList (digits.map digitChar) ∧
    number = Nat.ofDigits 10 digits.reverse

/-- A plus sign in front of other characters is passed over. -/
theorem readChars_plus (limit : Nat) {chars : List Char} (hne : chars ≠ []) :
    readChars limit ('+' :: chars) = readDigits limit 0 chars := by
  cases chars with
  | nil => exact absurd rfl hne
  | cons c rest => rfl

/-- Without a plus sign all characters are digits. -/
theorem readChars_other (limit : Nat) {chars : List Char} (hne : chars ≠ [])
    (hplus : chars.head? ≠ some '+') : readChars limit chars = readDigits limit 0 chars := by
  unfold readChars
  split
  · exact absurd rfl hne
  · exact absurd rfl hplus
  · exact absurd rfl hplus
  · rfl

/-- What is read of a text is read of the digits behind its sign. -/
theorem exists_digits_of_readChars {limit number : Nat} {chars : List Char}
    (h : readChars limit chars = .ok number) :
    ∃ sign rest : List Char, (sign = [] ∨ sign = ['+']) ∧ rest ≠ [] ∧ chars = sign ++ rest ∧
      readDigits limit 0 rest = .ok number := by
  cases chars with
  | nil => cases h
  | cons c rest =>
    by_cases hplus : c = '+'
    · subst hplus
      cases rest with
      | nil => cases h
      | cons c rest => exact ⟨['+'], c :: rest, .inr rfl, List.cons_ne_nil c rest, rfl, h⟩
    · have hhead : (c :: rest).head? ≠ some '+' := by simpa using hplus
      rw [readChars_other limit (List.cons_ne_nil c rest) hhead] at h
      exact ⟨[], c :: rest, .inl rfl, List.cons_ne_nil c rest, rfl, h⟩

/-- A text is read exactly when it stands for a number below the limit, and as that number. -/
theorem read_eq_ok_iff {limit number : Nat} (hlimit : 0 < limit) {text : String} :
    read limit text = .ok number ↔ Denotes text number ∧ number < limit := by
  rw [read]
  constructor
  · intro h
    obtain ⟨sign, rest, hsign, hne, htext, hread⟩ := exists_digits_of_readChars h
    obtain ⟨digits, hdigits, rfl, hfold, hlt⟩ := (readDigits_eq_ok_iff hlimit).mp hread
    refine ⟨⟨String.ofList sign, digits, ?_, by simpa using hne, hdigits, ?_, ?_⟩, hlt⟩
    · rcases hsign with rfl | rfl
      · exact .inl rfl
      · exact .inr rfl
    · rw [← String.toList_inj, htext]
      simp
    · rw [← hfold, foldl_append_eq_ofDigits]
  · rintro ⟨⟨sign, digits, hsign, hne, hdigits, rfl, rfl⟩, hlt⟩
    have hread : readDigits limit 0 (digits.map digitChar) = .ok (Nat.ofDigits 10 digits.reverse) :=
      (readDigits_eq_ok_iff hlimit).mpr
        ⟨digits, hdigits, rfl, foldl_append_eq_ofDigits digits, hlt⟩
    have hmap : digits.map digitChar ≠ [] := by simpa using hne
    rcases hsign with rfl | rfl
    · have hhead : (digits.map digitChar).head? ≠ some '+' := by
        obtain ⟨digit, digits, rfl⟩ := List.exists_cons_of_ne_nil hne
        simpa using digitChar_ne_plus (hdigits digit List.mem_cons_self)
      simpa [readChars_other limit hmap hhead] using hread
    · simpa [readChars_plus limit hmap] using hread

/-- A text stands for one number at most. A reader with a limit above both numbers would
read either. -/
theorem Denotes.unique {text : String} {number other : Nat} (h : Denotes text number)
    (h' : Denotes text other) : number = other := by
  have hlimit : 0 < max number other + 1 := Nat.succ_pos _
  have hread : read (max number other + 1) text = .ok number :=
    (read_eq_ok_iff hlimit).mpr ⟨h, by omega⟩
  have hread' : read (max number other + 1) text = .ok other :=
    (read_eq_ok_iff hlimit).mpr ⟨h', by omega⟩
  exact Except.ok.inj (hread.symm.trans hread')

/-! ### Texts that stand for no number -/

/-- Why a text stands for no number: it has no digit, or a character out of place. -/
inductive NoNumber (text : String) : Prop where
  | empty (htext : text = "")
  | sign (htext : text = "+")
  | character {c : Char} (hc : c ∈ text.toList) (hplus : c ≠ '+') (hdigit : ¬('0' ≤ c ∧ c ≤ '9'))
  | plus {before after : List Char} (hbefore : before ≠ [])
      (htext : text.toList = before ++ '+' :: after)

/-- A character has no digit just when it is none. -/
theorem digit?_eq_none_iff {c : Char} : digit? c = none ↔ ¬('0' ≤ c ∧ c ≤ '9') := by
  simp [digit?]

/-- Characters are those of digits unless one of them has no value. -/
theorem exists_digits {chars : List Char} (h : ∀ c ∈ chars, digit? c ≠ none) :
    ∃ digits : List Nat, (∀ digit ∈ digits, digit < 10) ∧ digits.map digitChar = chars := by
  induction chars with
  | nil => exact ⟨[], by simp, rfl⟩
  | cons c rest ih =>
    obtain ⟨hc, hrest⟩ := List.forall_mem_cons.mp h
    obtain ⟨digit, hdigit⟩ := Option.ne_none_iff_exists'.mp hc
    obtain ⟨hlt, heq⟩ := digit?_eq_some_iff.mp hdigit
    obtain ⟨digits, hdigits, hmap⟩ := ih hrest
    refine ⟨digit :: digits, List.forall_mem_cons.mpr ⟨hlt, hdigits⟩, ?_⟩
    rw [List.map_cons, heq, hmap]

/-- Characters behind a sign stand for a number unless one of them has no value. -/
theorem denotes_or_noNumber_of_sign {text sign : String} {rest : List Char}
    (hsign : sign = "" ∨ sign = "+") (htext : text.toList = sign.toList ++ rest) (hne : rest ≠ [])
    (hfront : sign = "" → rest.head? ≠ some '+') :
    (∃ number, Denotes text number) ∨ NoNumber text := by
  by_cases hrest : ∀ c ∈ rest, digit? c ≠ none
  · obtain ⟨digits, hdigits, rfl⟩ := exists_digits hrest
    refine .inl ⟨_, sign, digits, hsign, by simpa using hne, hdigits, ?_, rfl⟩
    rw [← String.toList_inj, htext, String.toList_append, String.toList_ofList]
  · push Not at hrest
    obtain ⟨c, hc, hdigit⟩ := hrest
    refine .inr ?_
    by_cases hplus : c = '+'
    · obtain ⟨before, after, rfl⟩ := List.append_of_mem hc
      subst hplus
      refine .plus (fun hnil => ?_) (htext.trans (List.append_assoc _ before _).symm)
      obtain ⟨hempty, rfl⟩ := List.append_eq_nil_iff.mp hnil
      exact hfront (String.toList_eq_nil_iff.mp hempty) rfl
    · exact .character (htext ▸ List.mem_append_right _ hc) hplus (digit?_eq_none_iff.mp hdigit)

/-- A text stands for a number or has one of these faults. -/
theorem exists_denotes_or_noNumber (text : String) :
    (∃ number, Denotes text number) ∨ NoNumber text := by
  cases hchars : text.toList with
  | nil => exact .inr (.empty (String.toList_eq_nil_iff.mp hchars))
  | cons c rest =>
    by_cases hplus : c = '+'
    · subst hplus
      by_cases hrest : rest = []
      · subst hrest
        exact .inr (.sign (String.toList_inj.mp hchars))
      · exact denotes_or_noNumber_of_sign (.inr rfl) hchars hrest fun hempty =>
          absurd hempty (by decide)
    · have htext : text.toList = "".toList ++ c :: rest := hchars
      exact denotes_or_noNumber_of_sign (.inl rfl) htext (List.cons_ne_nil c rest)
        fun _ => by simpa using hplus

/-- The characters of a text that stands for a number: digits, one at least, behind one plus sign or
none. -/
theorem Denotes.exists_chars {text : String} {number : Nat} (h : Denotes text number) :
    ∃ sign chars : List Char, (sign = [] ∨ sign = ['+']) ∧ chars ≠ [] ∧
      (∀ c ∈ chars, digit? c ≠ none) ∧ text.toList = sign ++ chars := by
  obtain ⟨sign, digits, hsign, hne, hdigits, rfl, -⟩ := h
  refine ⟨sign.toList, digits.map digitChar, ?_, by simpa using hne, ?_, by simp⟩
  · rcases hsign with rfl | rfl
    · exact .inl rfl
    · exact .inr rfl
  · intro c hc hnone
    obtain ⟨digit, hdigit, rfl⟩ := List.mem_map.mp hc
    cases hnone.symm.trans (digit?_eq_some_iff.mpr ⟨hdigits digit hdigit, rfl⟩)

/-- A text with one of these faults stands for no number. -/
theorem NoNumber.not_denotes {text : String} {number : Nat} (h : NoNumber text) :
    ¬Denotes text number := by
  intro hdenotes
  obtain ⟨sign, chars, hsign, hne, hvalue, htext⟩ := hdenotes.exists_chars
  have hplus : '+' ∉ chars := fun hmem => hvalue '+' hmem (by decide)
  cases h with
  | empty hempty =>
    rw [hempty] at htext
    exact hne (List.append_eq_nil_iff.mp htext.symm).2
  | sign hone =>
    rw [hone] at htext
    rcases hsign with rfl | rfl
    · rw [List.nil_append] at htext
      exact hplus (htext ▸ List.mem_singleton_self '+')
    · exact hne (List.cons.inj htext).2.symm
  | character hc hother hdigit =>
    rw [htext] at hc
    rcases List.mem_append.mp hc with hc | hc
    · rcases hsign with rfl | rfl
      · cases hc
      · exact hother (List.mem_singleton.mp hc)
    · exact hvalue _ hc (digit?_eq_none_iff.mpr hdigit)
  | @plus before after hbefore hsplit =>
    rw [htext] at hsplit
    rcases hsign with rfl | rfl
    · rw [List.nil_append] at hsplit
      exact hplus (hsplit ▸ List.mem_append_right before List.mem_cons_self)
    · obtain ⟨first, before, rfl⟩ := List.exists_cons_of_ne_nil hbefore
      have hrest : chars = before ++ '+' :: after := (List.cons.inj hsplit).2
      exact hplus (hrest ▸ List.mem_append_right before List.mem_cons_self)

/-! ### Written numbers -/

/-- A text of digits that stands for a number without a sign or a leading zero. -/
def Plain (text : String) (number : Nat) : Prop :=
  ∃ digits : List Nat, (digits = [0] ∨ (digits ≠ [] ∧ digits.head? ≠ some 0)) ∧
    (∀ digit ∈ digits, digit < 10) ∧ text = String.ofList (digits.map digitChar) ∧
    number = Nat.ofDigits 10 digits.reverse

/-- A plain numeral denotes its number. -/
theorem Plain.denotes {text : String} {number : Nat} (h : Plain text number) :
    Denotes text number := by
  obtain ⟨digits, hlead, hdigits, htext, hnumber⟩ := h
  refine ⟨"", digits, .inl rfl, ?_, hdigits, ?_, hnumber⟩
  · rintro rfl
    rcases hlead with hnil | hlead
    · cases hnil
    · exact hlead.1 rfl
  · rw [htext, String.empty_append]

/-- A number is written as the one text without a sign or a leading zero. -/
theorem write_eq_iff {number : Nat} {text : String} : write number = text ↔ Plain text number := by
  constructor
  · rintro rfl
    by_cases hzero : number = 0
    · subst hzero
      exact ⟨[0], .inl rfl, by simp, rfl, rfl⟩
    · have hvalue : Radix.value 10 (Radix.digits 10 number) = number :=
        Radix.value_digits (by omega) number
      refine ⟨Radix.digits 10 number, .inr ⟨?_, Radix.head?_digits_ne_zero (by omega) number⟩,
        fun digit => Radix.lt_of_mem_digits (by omega), ?_, ?_⟩
      · intro hnil
        rw [hnil] at hvalue
        exact hzero hvalue.symm
      · rw [write, chars, if_neg hzero]
      · rw [← Radix.value_eq, hvalue]
  · rintro ⟨digits, hlead, hdigits, rfl, rfl⟩
    rw [← Radix.value_eq]
    rcases hlead with rfl | ⟨hne, hhead⟩
    · rfl
    · have hcanonical : Radix.digits 10 (Radix.value 10 digits) = digits :=
        Radix.digits_value (by omega) hdigits hhead
      have hpos : Radix.value 10 digits ≠ 0 := by
        intro hzero
        rw [hzero] at hcanonical
        exact hne hcanonical.symm
      rw [write, chars, if_neg hpos, hcanonical]

/-- A number is written with far fewer characters than it counts. -/
theorem length_write_le (number : Nat) : (write number).length ≤ number / 10 + 2 := by
  rw [write, String.length_ofList, chars]
  by_cases hzero : number = 0
  · rw [if_pos hzero, List.length_singleton]
    omega
  · rw [if_neg hzero, List.length_map, Radix.length_digits (by omega) hzero]
    by_cases hsmall : number < 10
    · rw [Nat.log_of_lt hsmall]
      omega
    · have hself : Nat.log 10 (number / 10) ≤ number / 10 := Nat.log_le_self 10 _
      rw [Nat.log_of_one_lt_of_le (by omega) (Nat.le_of_not_lt hsmall)]
      omega

/-- Decimal text is read back as the number it was written for. -/
theorem read_write {limit number : Nat} (hlimit : number < limit) :
    read limit (write number) = .ok number :=
  (read_eq_ok_iff (by omega)).mpr ⟨(write_eq_iff.mp rfl).denotes, hlimit⟩

end Decimal

namespace Amount

/-- A text is read as an amount exactly when it stands for the number of its units. -/
theorem ofText_eq_ok_iff {text : String} {amount : Amount} :
    ofText text = .ok amount ↔ Decimal.Denotes text amount.units := by
  have hlimit : (0 : Nat) < 2 ^ 128 := by decide
  unfold ofText
  cases hread : Decimal.read (2 ^ 128) text with
  | error fault =>
    refine iff_of_false (fun h => by cases h) fun h => ?_
    cases hread.symm.trans ((Decimal.read_eq_ok_iff hlimit).mpr ⟨h, amount.units_lt⟩)
  | ok units =>
    obtain ⟨hdenotes, hlt⟩ := (Decimal.read_eq_ok_iff hlimit).mp hread
    dsimp only
    rw [dif_pos hlt, Except.ok.injEq]
    constructor
    · rintro rfl
      exact hdenotes
    · intro h
      obtain rfl := hdenotes.unique h
      rfl

/-- The text of an amount is read back. -/
theorem ofText_text (amount : Amount) : ofText amount.text = .ok amount :=
  ofText_eq_ok_iff.mpr (Decimal.write_eq_iff.mp rfl).denotes

end Amount

end LedgerWire
