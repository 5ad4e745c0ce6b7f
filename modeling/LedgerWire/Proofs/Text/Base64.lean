import LedgerWire.Proofs.Except
import LedgerWire.Proofs.Text.Utf8
import LedgerWire.Text.Base64

/-!
# Base64 text is read back

What is written for a buffer is a list of values of six bits each, as characters of the alphabet,
and the padding that fills up the last group. The reader finds the values where the padding
begins, and unpacks them to the one buffer that is cut into them. Padding it takes as long as it
stays inside the last group, so it reads what is written for a buffer, and the same with less
padding, and nothing else.
-/

namespace LedgerWire

/-- A text of ASCII bytes is written as those bytes. -/
theorem Utf8.encode_ascii {bytes : Bytes} (hascii : ∀ byte ∈ bytes, byte < 0x80) :
    encode (String.ofList (bytes.map fun byte => Char.ofNat byte.toNat)) = bytes := by
  rw [encode, String.toList_ofList]
  induction bytes with
  | nil => rfl
  | cons byte bytes ih =>
    rw [List.map_cons, encodeChars_cons, encodeChar_ofNat_one (hascii byte (by simp)),
      ih fun other hother => hascii other (by simp [hother])]
    rfl

namespace Base64

/-! ### Symbols -/

/-- The symbol of a value has this value. -/
theorem value?_symbol {value : Nat} (hvalue : value < 64) : value? (symbol value) = some value := by
  have htable : ∀ value < 64, value? (symbol value) = some value := by decide
  exact htable value hvalue

/-- No symbol is the padding. -/
theorem symbol_ne_pad {value : Nat} (hvalue : value < 64) : symbol value ≠ pad := by
  have htable : ∀ value < 64, symbol value ≠ pad := by decide
  exact htable value hvalue

/-- The symbols are ASCII. -/
theorem symbol_lt {value : Nat} (hvalue : value < 64) : symbol value < 0x80 := by
  have htable : ∀ value < 64, symbol value < 0x80 := by decide
  exact htable value hvalue

/-- A byte has a value exactly when it is the symbol of that value. -/
theorem value?_eq_some_iff {byte : UInt8} {value : Nat} :
    value? byte = some value ↔ value < 64 ∧ symbol value = byte := by
  constructor
  · intro h
    have htable : ∀ n < 256, ∀ value ∈ value? (UInt8.ofNat n),
        value < 64 ∧ symbol value = UInt8.ofNat n := by decide +kernel
    have hbyte := htable byte.toNat byte.toNat_lt value
    rw [UInt8.ofNat_toNat] at hbyte
    exact hbyte h
  · rintro ⟨hvalue, rfl⟩
    exact value?_symbol hvalue

/-- The symbols of values have these values. -/
theorem valuesFrom_symbol (offset : Nat) {values : List Nat} (hvalues : ∀ v ∈ values, v < 64) :
    valuesFrom offset (values.map symbol) = .ok values := by
  induction values generalizing offset with
  | nil => rfl
  | cons value values ih =>
    rw [List.map_cons, valuesFrom, value?_symbol (hvalues value (by simp))]
    simp only [ih (offset + 1) fun other hother => hvalues other (by simp [hother])]
    rfl

/-- Bytes have values just when they are the symbols of these. -/
theorem valuesFrom_eq_ok_iff {offset : Nat} {raw : Bytes} {values : List Nat} :
    valuesFrom offset raw = .ok values ↔
      (∀ value ∈ values, value < 64) ∧ values.map symbol = raw := by
  constructor
  · intro h
    induction raw generalizing offset values with
    | nil =>
      cases h
      exact ⟨nofun, rfl⟩
    | cons byte raw ih =>
      rw [valuesFrom] at h
      cases hbyte : value? byte with
      | none => simp [hbyte] at h
      | some value =>
        rw [hbyte] at h
        obtain ⟨rest, hrest, rfl⟩ := Except.map_eq_ok_iff.mp h
        obtain ⟨hlt, rfl⟩ := ih hrest
        obtain ⟨hvalue, rfl⟩ := value?_eq_some_iff.mp hbyte
        exact ⟨List.forall_mem_cons.mpr ⟨hvalue, hlt⟩, rfl⟩
  · rintro ⟨hlt, rfl⟩
    exact valuesFrom_symbol offset hlt

/-! ### Groups -/

/-- The values of six bits that a buffer is written as. -/
def sextets : Bytes → List Nat
  | [] => []
  | [a] => [a.toNat / 4, a.toNat % 4 * 16]
  | [a, b] => [a.toNat / 4, a.toNat % 4 * 16 + b.toNat / 16, b.toNat % 16 * 4]
  | a :: b :: c :: rest =>
    a.toNat / 4 :: (a.toNat % 4 * 16 + b.toNat / 16) :: (b.toNat % 16 * 4 + c.toNat / 64) ::
      (c.toNat % 64) :: sextets rest

/-- The padding after a buffer, by the number of bytes in its last group. -/
def padding (bytes : Bytes) : Bytes :=
  if bytes.length % 3 = 0 then [] else if bytes.length % 3 = 1 then [pad, pad] else [pad]

/-- A whole group in front leaves the padding as it is. -/
theorem padding_cons_cons_cons (a b c : UInt8) (rest : Bytes) :
    padding (a :: b :: c :: rest) = padding rest := by
  have hlength : (a :: b :: c :: rest).length % 3 = rest.length % 3 := by
    simp only [List.length_cons]
    omega
  rw [padding, padding, hlength]

/-- What is written for bytes is their symbols and the padding. -/
theorem encodeBytes_eq (bytes : Bytes) :
    encodeBytes bytes = (sextets bytes).map symbol ++ padding bytes := by
  induction bytes using encodeBytes.induct with
  | case1 => rfl
  | case2 a => rfl
  | case3 a b => rfl
  | case4 a b c rest ih =>
    rw [encodeBytes, sextets, padding_cons_cons_cons, ih]
    rfl

/-- The parts of bytes have six bits. -/
theorem sextets_lt (bytes : Bytes) : ∀ value ∈ sextets bytes, value < 64 := by
  induction bytes using encodeBytes.induct with
  | case1 => simp [sextets]
  | case2 a =>
    have ha := a.toNat_lt
    simp only [sextets, List.forall_mem_cons]
    exact ⟨by omega, by omega, nofun⟩
  | case3 a b =>
    have ha := a.toNat_lt
    have hb := b.toNat_lt
    simp only [sextets, List.forall_mem_cons]
    exact ⟨by omega, by omega, by omega, nofun⟩
  | case4 a b c rest ih =>
    have ha := a.toNat_lt
    have hb := b.toNat_lt
    have hc := c.toNat_lt
    simp only [sextets, List.forall_mem_cons]
    exact ⟨by omega, by omega, by omega, by omega, ih⟩

/-- The padding lacks as many characters as the last group lacks bytes. -/
theorem length_padding (bytes : Bytes) :
    (padding bytes).length < 3 ∧
      ∃ groups, bytes.length + (padding bytes).length = 3 * groups ∧
        (sextets bytes).length + (padding bytes).length = 4 * groups := by
  induction bytes using encodeBytes.induct with
  | case1 => exact ⟨by decide, 0, rfl, rfl⟩
  | case2 a => exact ⟨by simp [padding], 1, rfl, rfl⟩
  | case3 a b => exact ⟨by simp [padding], 1, rfl, rfl⟩
  | case4 a b c rest ih =>
    obtain ⟨hlt, groups, hbytes, hvalues⟩ := ih
    rw [padding_cons_cons_cons]
    refine ⟨hlt, groups + 1, ?_, ?_⟩
    · simp only [List.length_cons]
      omega
    · simp only [sextets, List.length_cons]
      omega

/-- The padding is a run of one character. -/
theorem padding_eq_replicate (bytes : Bytes) :
    padding bytes = List.replicate (padding bytes).length pad := by
  unfold padding
  split
  · rfl
  · split <;> rfl

/-- The parts of bytes make up the bytes again. -/
theorem unpack_sextets (bytes : Bytes) : unpack (sextets bytes) = some bytes := by
  induction bytes using encodeBytes.induct with
  | case1 => rfl
  | case2 a =>
    have ha := a.toNat_lt
    have hfirst : a.toNat / 4 * 4 + a.toNat % 4 * 16 / 16 = a.toNat := by omega
    rw [sextets, unpack, if_pos (by omega), hfirst, UInt8.ofNat_toNat]
  | case3 a b =>
    have ha := a.toNat_lt
    have hb := b.toNat_lt
    have hfirst : a.toNat / 4 * 4 + (a.toNat % 4 * 16 + b.toNat / 16) / 16 = a.toNat := by omega
    have hsecond : (a.toNat % 4 * 16 + b.toNat / 16) % 16 * 16 + b.toNat % 16 * 4 / 4 =
        b.toNat := by omega
    rw [sextets, unpack, if_pos (by omega), hfirst, hsecond, UInt8.ofNat_toNat, UInt8.ofNat_toNat]
  | case4 a b c rest ih =>
    have ha := a.toNat_lt
    have hb := b.toNat_lt
    have hc := c.toNat_lt
    have hfirst : a.toNat / 4 * 4 + (a.toNat % 4 * 16 + b.toNat / 16) / 16 = a.toNat := by omega
    have hsecond : (a.toNat % 4 * 16 + b.toNat / 16) % 16 * 16 +
        (b.toNat % 16 * 4 + c.toNat / 64) / 4 = b.toNat := by omega
    have hthird : (b.toNat % 16 * 4 + c.toNat / 64) % 4 * 64 + c.toNat % 64 = c.toNat := by omega
    rw [sextets, unpack, ih, Option.map_some, hfirst, hsecond, hthird, UInt8.ofNat_toNat,
      UInt8.ofNat_toNat, UInt8.ofNat_toNat]

/-- Values that are unpacked are those that the buffer is cut into. -/
theorem sextets_of_unpack {values : List Nat} {bytes : Bytes}
    (hlt : ∀ value ∈ values, value < 64) (h : unpack values = some bytes) :
    sextets bytes = values := by
  induction values using unpack.induct generalizing bytes with
  | case1 =>
    cases h
    rfl
  | case2 a => cases h
  | case3 a b hbits =>
    rw [unpack, if_pos hbits, Option.some.injEq] at h
    subst h
    simp only [List.forall_mem_cons] at hlt
    have hfirst : (UInt8.ofNat (a * 4 + b / 16)).toNat = a * 4 + b / 16 :=
      Utf8.byte_toNat (by omega)
    simp only [sextets, hfirst, List.cons.injEq, and_true]
    omega
  | case4 a b hbits =>
    rw [unpack, if_neg hbits] at h
    cases h
  | case5 a b c hbits =>
    rw [unpack, if_pos hbits, Option.some.injEq] at h
    subst h
    simp only [List.forall_mem_cons] at hlt
    have hfirst : (UInt8.ofNat (a * 4 + b / 16)).toNat = a * 4 + b / 16 :=
      Utf8.byte_toNat (by omega)
    have hsecond : (UInt8.ofNat (b % 16 * 16 + c / 4)).toNat = b % 16 * 16 + c / 4 :=
      Utf8.byte_toNat (by omega)
    simp only [sextets, hfirst, hsecond, List.cons.injEq, and_true]
    omega
  | case6 a b c hbits =>
    rw [unpack, if_neg hbits] at h
    cases h
  | case7 a b c d rest ih =>
    rw [unpack] at h
    obtain ⟨bytes, hrest, rfl⟩ := Option.map_eq_some_iff.mp h
    simp only [List.forall_mem_cons] at hlt
    have hfirst : (UInt8.ofNat (a * 4 + b / 16)).toNat = a * 4 + b / 16 :=
      Utf8.byte_toNat (by omega)
    have hsecond : (UInt8.ofNat (b % 16 * 16 + c / 4)).toNat = b % 16 * 16 + c / 4 :=
      Utf8.byte_toNat (by omega)
    have hthird : (UInt8.ofNat (c % 4 * 64 + d)).toNat = c % 4 * 64 + d :=
      Utf8.byte_toNat (by omega)
    simp only [sextets, hfirst, hsecond, hthird, ih hlt.2.2.2.2 hrest, List.cons.injEq, and_true]
    omega

/-- Values make up bytes just when they are the parts of these. -/
theorem unpack_eq_some_iff {values : List Nat} {bytes : Bytes}
    (hlt : ∀ value ∈ values, value < 64) :
    unpack values = some bytes ↔ sextets bytes = values :=
  ⟨sextets_of_unpack hlt, fun h => h ▸ unpack_sextets bytes⟩

/-! ### Texts -/

/-- What may follow the symbols is a run of padding that stays inside the last group of four. -/
theorem isPadding_iff {count : Nat} {tail : Bytes} :
    isPadding count tail = true ↔ tail = List.replicate tail.length pad ∧
      (tail = [] ∨ 2 ≤ count % 4 ∧ count % 4 + tail.length ≤ 4) := by
  cases tail with
  | nil => simp [isPadding]
  | cons byte tail =>
    simp only [isPadding, List.isEmpty_cons, Bool.false_or, Bool.and_eq_true, decide_eq_true_eq,
      List.all_eq_true, beq_iff_eq, List.eq_replicate_iff, true_and, reduceCtorEq, false_or,
      and_assoc]

/-- The reader finds the symbols and the padding apart. -/
theorem split_raw {values : List Nat} (hlt : ∀ value ∈ values, value < 64) (count : Nat) :
    (values.map symbol ++ List.replicate count pad).takeWhile (· != pad) = values.map symbol ∧
      (values.map symbol ++ List.replicate count pad).dropWhile (· != pad) =
        List.replicate count pad := by
  have hsymbols : ∀ byte ∈ values.map symbol, (byte != pad) = true := by
    intro byte hbyte
    obtain ⟨value, hvalue, rfl⟩ := List.mem_map.mp hbyte
    simpa using symbol_ne_pad (hlt value hvalue)
  rw [List.takeWhile_append_of_pos hsymbols, List.dropWhile_append_of_pos hsymbols]
  cases count <;> simp [List.replicate_succ]

/-- Bytes are read as a buffer when they are its symbols and no more padding than it has. -/
theorem decodeBytes_eq_ok_iff {raw bytes : Bytes} :
    decodeBytes raw = .ok bytes ↔ ∃ kept ≤ (padding bytes).length,
      raw = (sextets bytes).map symbol ++ List.replicate kept pad := by
  obtain ⟨hlacking, groups, -, hgroups⟩ := length_padding bytes
  constructor
  · intro h
    have hsplit := @List.takeWhile_append_dropWhile _ (· != pad) raw
    unfold decodeBytes at h
    by_cases hlone : raw.length % 4 = 1
    · rw [if_pos hlone] at h
      cases h
    · rw [if_neg hlone] at h
      dsimp only at h
      cases hvalues : valuesFrom 0 (raw.takeWhile (· != pad)) with
      | error fault => simp [hvalues] at h
      | ok values =>
        obtain ⟨hlt, hsymbols⟩ := valuesFrom_eq_ok_iff.mp hvalues
        simp only [hvalues] at h
        split at h
        · rename_i hpadding
          obtain ⟨htail, hfits⟩ := isPadding_iff.mp hpadding
          cases hunpack : unpack values with
          | none => simp [hunpack] at h
          | some found =>
            simp only [hunpack, Except.ok.injEq] at h
            subst h
            obtain rfl := (unpack_eq_some_iff hlt).mp hunpack
            rw [← hsymbols, htail] at hsplit
            refine ⟨_, ?_, hsplit.symm⟩
            rw [← hsymbols, List.length_map] at hfits
            rcases hfits with hnil | hfits
            · rw [hnil]
              exact Nat.zero_le _
            · omega
        · cases h
  · rintro ⟨kept, hkept, rfl⟩
    have hlt := sextets_lt bytes
    obtain ⟨hsymbols, htail⟩ := split_raw hlt kept
    have hlone : ¬((sextets bytes).map symbol ++ List.replicate kept pad).length % 4 = 1 := by
      rw [List.length_append, List.length_map, List.length_replicate]
      omega
    have hpadding : isPadding (sextets bytes).length (List.replicate kept pad) = true := by
      rw [isPadding_iff, List.length_replicate, List.replicate_eq_nil_iff]
      refine ⟨rfl, ?_⟩
      omega
    unfold decodeBytes
    rw [if_neg hlone]
    simp only [hsymbols, htail, valuesFrom_symbol 0 hlt, List.length_map, hpadding, unpack_sextets,
      if_true]

/-- Symbols and padding are ASCII. -/
theorem raw_lt {values : List Nat} (hlt : ∀ value ∈ values, value < 64) (count : Nat) :
    ∀ byte ∈ values.map symbol ++ List.replicate count pad, byte < 0x80 := by
  intro byte hbyte
  rcases List.mem_append.mp hbyte with hsymbol | hpad
  · obtain ⟨value, hvalue, rfl⟩ := List.mem_map.mp hsymbol
    exact symbol_lt (hlt value hvalue)
  · rw [List.eq_of_mem_replicate hpad]
    decide

/-- Base64 text is read back as the buffer it was written for. -/
theorem decode_encode (bytes : Bytes) : decode (encode bytes) = .ok bytes := by
  have hbytes : encodeBytes bytes =
      (sextets bytes).map symbol ++ List.replicate (padding bytes).length pad := by
    rw [encodeBytes_eq, ← padding_eq_replicate]
  rw [decode, encode, hbytes, Utf8.encode_ascii (raw_lt (sextets_lt bytes) _)]
  exact decodeBytes_eq_ok_iff.mpr ⟨_, Nat.le_refl _, rfl⟩

end Base64

end LedgerWire
