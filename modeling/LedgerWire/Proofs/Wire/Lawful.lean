import LedgerWire.Proofs.Text.Utf8
import LedgerWire.Wire.Layout

/-!
# Layouts that are canonical

A layout is lawful when reading takes off exactly what writing puts down: the reader gives a value
and a rest if and only if the buffer is the written value followed by that rest, and the value is
one that can be written. Words, texts, lists, optional values, blocks and records have lawful
layouts; each proof unfolds one reader and cites the laws of its parts.
-/

namespace LedgerWire

/-- A layout whose reader accepts exactly what its writer writes, whatever follows. -/
class Wire.Lawful (α : Type) [Wire α] : Prop where
  read_eq_ok_iff {bytes rest : Bytes} {value : α} :
    Wire.read bytes = .ok (value, rest) ↔
      Wire.fits value = true ∧ bytes = Wire.write value ++ rest

namespace Wire

export Lawful (read_eq_ok_iff)

/-! ### Blocks and numbers -/

/-- A block is taken just when the bytes begin with it. -/
theorem take_eq_ok_iff {size : Nat} {bytes rest : Bytes} {block : Block size} :
    take size bytes = .ok (block, rest) ↔ bytes = block.bytes ++ rest := by
  unfold take
  constructor
  · intro h
    split at h
    · cases h
      exact (List.take_append_drop size bytes).symm
    · cases h
  · rintro rfl
    have htake : (block.bytes ++ rest).take size = block.bytes :=
      List.take_left' block.length_bytes
    have hdrop : (block.bytes ++ rest).drop size = rest := List.drop_left' block.length_bytes
    rw [dif_pos (by rw [htake, block.length_bytes])]
    simp only [htake, hdrop]

/-- Bytes are those of a number just when they are read as it. -/
theorem littleEndian_eq_iff {width number : Nat} {bytes : Bytes} (hwidth : bytes.length = width)
    (hnumber : number < 256 ^ width) :
    Bytes.ofLittleEndian bytes = number ↔ bytes = Bytes.littleEndian width number := by
  constructor
  · rintro rfl
    rw [← hwidth, Bytes.littleEndian_ofLittleEndian]
  · rintro rfl
    rw [Bytes.ofLittleEndian_littleEndian, Nat.mod_eq_of_lt hnumber]

/-- A number is taken just when it fits the width and the bytes begin with it. -/
theorem takeNat_eq_ok_iff {width number : Nat} {bytes rest : Bytes} :
    takeNat width bytes = .ok (number, rest) ↔
      number < 256 ^ width ∧ bytes = Bytes.littleEndian width number ++ rest := by
  unfold takeNat
  rw [Except.map_eq_ok_iff]
  constructor
  · rintro ⟨⟨block, rest'⟩, htake, heq⟩
    obtain ⟨hnumber, rfl⟩ := Prod.mk.inj heq
    have hlt := Bytes.ofLittleEndian_lt block.bytes
    rw [block.length_bytes, hnumber] at hlt
    rw [take_eq_ok_iff] at htake
    exact ⟨hlt, by rw [htake, (littleEndian_eq_iff block.length_bytes hlt).mp hnumber]⟩
  · rintro ⟨hlt, rfl⟩
    have hlength := Bytes.length_littleEndian width number
    refine ⟨(⟨Bytes.littleEndian width number, hlength⟩, rest), take_eq_ok_iff.mpr rfl, ?_⟩
    simp only [(littleEndian_eq_iff hlength hlt).mpr rfl]

end Wire

open Wire (Lawful)

instance : Lawful Unit where
  read_eq_ok_iff := by simp [Wire.read, Wire.fits, Wire.write, eq_comm]

instance : Lawful UInt8 where
  read_eq_ok_iff {bytes rest value} := by
    cases bytes <;> simp [Wire.read, Wire.fits, Wire.write]

instance : Lawful UInt32 where
  read_eq_ok_iff {bytes rest value} := by
    simp only [Wire.read, Wire.fits, Wire.write, Except.map_eq_ok_iff, Prod.exists,
      Wire.takeNat_eq_ok_iff, Prod.mk.injEq, true_and]
    constructor
    · rintro ⟨number, rest', ⟨hlt, rfl⟩, rfl, rfl⟩
      rw [UInt32.toNat_ofNat_of_lt' hlt]
    · rintro rfl
      exact ⟨value.toNat, rest, ⟨value.toNat_lt, rfl⟩, UInt32.ofNat_toNat, rfl⟩

instance : Lawful UInt64 where
  read_eq_ok_iff {bytes rest value} := by
    simp only [Wire.read, Wire.fits, Wire.write, Except.map_eq_ok_iff, Prod.exists,
      Wire.takeNat_eq_ok_iff, Prod.mk.injEq, true_and]
    constructor
    · rintro ⟨number, rest', ⟨hlt, rfl⟩, rfl, rfl⟩
      rw [UInt64.toNat_ofNat_of_lt' hlt]
    · rintro rfl
      exact ⟨value.toNat, rest, ⟨value.toNat_lt, rfl⟩, UInt64.ofNat_toNat, rfl⟩

instance : Lawful Amount where
  read_eq_ok_iff {bytes rest amount} := by
    simp only [Wire.read, Wire.fits, Wire.write, Except.map_eq_ok_iff, Prod.exists,
      Wire.take_eq_ok_iff, Prod.mk.injEq, true_and]
    have hlt : amount.units < 256 ^ 16 := amount.units_lt
    constructor
    · rintro ⟨block, rest', rfl, rfl, rfl⟩
      rw [(Wire.littleEndian_eq_iff block.length_bytes hlt).mp rfl]
    · rintro rfl
      have hlength := Bytes.length_littleEndian 16 amount.units
      refine ⟨⟨_, hlength⟩, rest, rfl, ?_, rfl⟩
      simp only [Amount.ofBlock, (Wire.littleEndian_eq_iff hlength hlt).mpr rfl]

instance : Lawful Bool where
  read_eq_ok_iff {bytes rest value} := by
    simp only [Wire.fits, Wire.write, List.cons_append, List.nil_append, true_and]
    cases bytes with
    | nil => simp [Wire.read]
    | cons byte bytes =>
      by_cases hzero : byte = 0
      · cases value <;> simp [Wire.read, hzero]
      · by_cases hone : byte = 1
        · cases value <;> simp [Wire.read, hone]
        · cases value <;> simp [Wire.read, hzero, hone]

instance {size : Nat} : Lawful (Block size) where
  read_eq_ok_iff := by
    simp only [Wire.read, Wire.fits, Wire.write, true_and]
    exact Wire.take_eq_ok_iff

instance {α β : Type} [Wire α] [Wire β] [Lawful α] [Lawful β] : Lawful (α × β) where
  read_eq_ok_iff {bytes rest pair} := by
    obtain ⟨first, second⟩ := pair
    simp only [Wire.read, Wire.fits, Wire.write, Except.bind_eq_ok_iff, Prod.exists,
      Wire.read_eq_ok_iff, Bool.and_eq_true]
    constructor
    · rintro ⟨first', rest₁, ⟨hfirst, rfl⟩, second', rest₂, ⟨hsecond, rfl⟩, heq⟩
      cases heq
      exact ⟨⟨hfirst, hsecond⟩, by rw [List.append_assoc]⟩
    · rintro ⟨⟨hfirst, hsecond⟩, rfl⟩
      exact ⟨first, _, ⟨hfirst, List.append_assoc ..⟩, second, rest, ⟨hsecond, rfl⟩, rfl⟩

/-- Reading a value a given number of times takes off the written values, one after another. -/
theorem Wire.readMany_eq_ok_iff {α : Type} [Wire α] [Lawful α] {count : Nat} {bytes rest : Bytes}
    {values : List α} :
    Wire.readMany Wire.read count bytes = .ok (values, rest) ↔
      values.length = count ∧ values.all Wire.fits = true ∧
        bytes = values.flatMap Wire.write ++ rest := by
  induction count generalizing bytes rest values with
  | zero =>
    simp only [Wire.readMany, Except.ok.injEq, Prod.mk.injEq, List.length_eq_zero_iff]
    constructor
    · rintro ⟨rfl, rfl⟩
      simp
    · rintro ⟨rfl, -, rfl⟩
      simp
  | succ count ih =>
    simp only [Wire.readMany, Except.bind_eq_ok_iff, Prod.exists, Wire.read_eq_ok_iff, ih]
    constructor
    · rintro ⟨value, rest₁, ⟨hvalue, rfl⟩, values', rest₂, ⟨rfl, hvalues, rfl⟩, heq⟩
      cases heq
      simp [hvalue, hvalues]
    · rintro ⟨hlength, hfits, rfl⟩
      obtain ⟨value, values, rfl⟩ := List.exists_cons_of_length_eq_add_one hlength
      simp only [List.all_cons, Bool.and_eq_true] at hfits
      exact ⟨value, _, ⟨hfits.1, by simp⟩, values, rest, ⟨by simpa using hlength, hfits.2, rfl⟩,
        rfl⟩

/-- A count fits just when it fits 32 bits. -/
theorem Wire.countFits_iff {count : Nat} : Wire.countFits count = true ↔ count < 2 ^ 32 := by
  simp [Wire.countFits]

instance {α : Type} [Wire α] [Wire.Sized α] [Lawful α] : Lawful (List α) where
  read_eq_ok_iff {bytes rest values} := by
    simp only [Wire.read, Wire.fits, Wire.write, Except.bind_eq_ok_iff, Prod.exists,
      Wire.takeNat_eq_ok_iff, Wire.readMany_eq_ok_iff, Bool.and_eq_true, Wire.countFits_iff]
    constructor
    · rintro ⟨count, rest₁, ⟨hcount, rfl⟩, rfl, hvalues, rfl⟩
      exact ⟨⟨hcount, hvalues⟩, by rw [Wire.writeCount, List.append_assoc]⟩
    · rintro ⟨⟨hcount, hvalues⟩, rfl⟩
      exact ⟨values.length, _, ⟨hcount, List.append_assoc ..⟩, rfl, hvalues, rfl⟩

instance : Lawful String where
  read_eq_ok_iff {bytes rest text} := by
    simp only [Wire.read, Wire.fits, Wire.write, Except.bind_eq_ok_iff, Prod.exists,
      Wire.takeNat_eq_ok_iff, Wire.take_eq_ok_iff, Wire.countFits_iff]
    constructor
    · rintro ⟨count, rest₁, ⟨hcount, rfl⟩, front, rest₂, rfl, h⟩
      cases hdecode : Utf8.decode front.bytes with
      | error fault => simp [hdecode] at h
      | ok decoded =>
        rw [hdecode] at h
        cases h
        have hfront := Utf8.decode_eq_ok_iff.mp hdecode
        rw [← hfront, front.length_bytes, Wire.writeCount, List.append_assoc]
        exact ⟨hcount, rfl⟩
    · rintro ⟨hcount, rfl⟩
      refine ⟨_, _, ⟨hcount, List.append_assoc ..⟩, ⟨Utf8.encode text, rfl⟩, rest, rfl, ?_⟩
      rw [Utf8.decode_eq_ok_iff.mpr rfl]
      rfl

instance {α : Type} [Wire α] [Lawful α] : Lawful (Option α) where
  read_eq_ok_iff {bytes rest value} := by
    cases bytes with
    | nil => cases value <;> simp [Wire.read, Wire.write]
    | cons byte bytes =>
      by_cases hzero : byte = 0
      · cases value <;> simp [Wire.read, Wire.write, Wire.fits, hzero]
      · by_cases hone : byte = 1
        · cases value <;>
            simp [Wire.read, Wire.write, Wire.fits, hone, Except.map_eq_ok_iff,
              Wire.read_eq_ok_iff]
        · cases value <;> simp [Wire.read, Wire.write, hzero, hone]

/-- The layout of a record is lawful when that of its row is. -/
theorem Wire.Lawful.ofRow {ρ τ : Type} [Wire τ] [Lawful τ] (row : Row ρ τ) :
    letI := Wire.ofRow row
    Lawful ρ :=
  letI := Wire.ofRow row
  { read_eq_ok_iff := by
      intro bytes rest record
      simp only [Wire.read, Wire.fits, Wire.write, Except.map_eq_ok_iff, Prod.exists,
        Wire.read_eq_ok_iff, Prod.mk.injEq]
      constructor
      · rintro ⟨filled, rest', ⟨hfits, rfl⟩, rfl, rfl⟩
        rw [row.toRow_ofRow]
        exact ⟨hfits, rfl⟩
      · rintro ⟨hfits, rfl⟩
        exact ⟨row.toRow record, rest, ⟨hfits, rfl⟩, row.ofRow_toRow record, rfl⟩ }

end LedgerWire
