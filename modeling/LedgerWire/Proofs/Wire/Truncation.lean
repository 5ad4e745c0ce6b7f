import LedgerWire.Proofs.Wire.Sequential

/-!
# Truncated and extended buffers

A reader judges only the bytes it takes. Bytes that follow are left over, and a fault other than
the lack of bytes is found again when bytes follow. So the bytes of a value cannot be cut anywhere
without the lack being reported: had the cut buffer been read or refused for another cause, then
the whole one would have been, too.
-/

namespace LedgerWire

namespace Wire

/-- A reader whose outcome is settled by the bytes it has taken. Only the lack of bytes may turn
into something else when more bytes follow. -/
structure Steady {α : Type} (reader : Reader α) : Prop where
  ok {bytes rest : Bytes} {value : α} (more : Bytes) (hread : reader bytes = .ok (value, rest)) :
    reader (bytes ++ more) = .ok (value, rest ++ more)
  error {bytes : Bytes} {error : CodecError} (more : Bytes) (hread : reader bytes = .error error)
    (hlack : error ≠ .format .unexpectedEnd) : reader (bytes ++ more) = .error error

/-- A block is refused only for the lack of bytes. -/
theorem take_eq_error {size : Nat} {bytes : Bytes} {error : CodecError}
    (hread : take size bytes = .error error) : error = .format .unexpectedEnd := by
  unfold take at hread
  split at hread
  · cases hread
  · exact (Except.error.inj hread).symm

/-- A reader that takes nothing is steady. -/
theorem steady_done {α : Type} (value : α) : Steady fun bytes => .ok (value, bytes) where
  ok more hread := by
    cases hread
    rfl
  error more hread hlack := by cases hread

/-- A reader that refuses everything is steady. -/
theorem steady_refuse {α : Type} (error : CodecError) :
    Steady fun _ => (.error error : Except CodecError (α × Bytes)) where
  ok more hread := by cases hread
  error more hread hlack := hread

/-- The reader of a byte is steady. -/
theorem steady_byte : Steady (read : Reader UInt8) where
  ok {bytes rest value} more hread := by
    obtain ⟨-, rfl⟩ := read_eq_ok_iff.mp hread
    rfl
  error {bytes error} more hread hlack := by
    cases bytes with
    | nil => exact absurd (Except.error.inj hread).symm hlack
    | cons byte rest => cases hread

/-- The reader of a block is steady. -/
theorem steady_take (size : Nat) : Steady (take size) where
  ok {bytes rest block} more hread := by
    rw [take_eq_ok_iff.mp hread, List.append_assoc]
    exact take_eq_ok_iff.mpr rfl
  error more hread hlack := absurd (take_eq_error hread) hlack

/-- Reading one part and then the next is steady when both parts are. -/
theorem Steady.next {α β : Type} {first : Reader α} {second : α → Reader β}
    (hfirst : Steady first) (hsecond : ∀ value, Steady (second value)) :
    Steady fun bytes => first bytes >>= fun front => second front.1 front.2 where
  ok {bytes rest value} more hread := by
    obtain ⟨⟨part, between⟩, hpart, hrest⟩ := Except.bind_eq_ok_iff.mp hread
    rw [hfirst.ok more hpart]
    exact (hsecond part).ok more hrest
  error {bytes error} more hread hlack := by
    rcases Except.bind_eq_error_iff.mp hread with hpart | ⟨⟨part, between⟩, hpart, hrest⟩
    · rw [hfirst.error more hpart hlack]
      rfl
    · rw [hfirst.ok more hpart]
      exact (hsecond part).error more hrest hlack

/-- Looking up an ordinal depends on its byte alone. -/
theorem steady_ordinal {α : Type} (meaning : UInt8 → Except CodecError α) :
    Steady fun bytes => (read bytes : Except CodecError (UInt8 × Bytes)) >>= fun front =>
      (meaning front.1).map fun value => (value, front.2) := by
  have hmeaning : ∀ byte, Steady fun rest => (meaning byte).map fun value => (value, rest) := by
    intro byte
    cases meaning byte with
    | ok value => exact steady_done value
    | error error => exact steady_refuse error
  exact steady_byte.next hmeaning

/-- Every sequential reader is steady. -/
theorem Sequential.steady {α : Type} {reader : Reader α} (h : Sequential reader) :
    Steady reader := by
  induction h with
  | done value => exact steady_done value
  | refuse fault => exact steady_refuse _
  | byte => exact steady_byte
  | block size => exact steady_take size
  | ordinal => exact steady_ordinal _
  | next _ _ hfirst hsecond => exact hfirst.next hsecond

variable {α : Type} [Wire α] [Lawful α]

/-- The bytes of a value, cut anywhere, are reported as too few, by whatever reads the value from
the front of a buffer. The whole buffer would be read as well, with the missing bytes left over, and
a fault of any other kind would stay when they follow. -/
theorem read_strict_prefix [InSequence α] {value : α} {front bytes : Bytes}
    (hencode : encode value = .ok bytes) (hfront : front <+: bytes) (hcut : front ≠ bytes) :
    (read front : Except CodecError (α × Bytes)) = .error (.format .unexpectedEnd) := by
  obtain ⟨more, rfl⟩ := hfront
  have hwhole : read (front ++ more) = .ok (value, []) :=
    read_eq_ok_iff_encode.mpr ⟨_, hencode, (List.append_nil _).symm⟩
  have hsteady : Steady (read : Reader α) := Wire.sequential.steady
  cases hread : (read front : Except CodecError (α × Bytes)) with
  | ok result =>
    have hnone : result.2 ++ more = [] := by
      have heq := (hsteady.ok more hread).symm.trans hwhole
      exact congrArg Prod.snd (Except.ok.inj heq)
    exact absurd (by rw [(List.append_eq_nil_iff.mp hnone).2, List.append_nil]) hcut
  | error error =>
    by_contra hlack
    have hstays := hsteady.error more hread fun heq => hlack (congrArg _ heq)
    rw [hwhole] at hstays
    cases hstays

/-- The bytes of a value with anything behind them are reported as too many. -/
theorem decode_extended {value : α} {bytes more : Bytes} (hencode : encode value = .ok bytes)
    (hmore : more ≠ []) :
    (decode (bytes ++ more) : Except CodecError α) = .error (.format .trailingBytes) := by
  have hread : read (bytes ++ more) = .ok (value, more) :=
    read_eq_ok_iff_encode.mpr ⟨bytes, hencode, rfl⟩
  unfold decode
  rw [hread]
  cases more with
  | nil => exact absurd rfl hmore
  | cons byte rest => rfl

end Wire

namespace BinaryType

/-- A short value has bytes that can be neither cut nor extended. Every strict prefix is reported
as too few bytes, wherever the cut falls, and every extension as too many; so the bytes of one
value are never a strict prefix of those of another. -/
theorem decode_cut_or_extended {sized : Bool} (type : BinaryType sized) (value : type.Value)
    (hshort : type.Short value) :
    ∃ bytes, Wire.encode value = .ok bytes ∧
      (∀ front, front <+: bytes → front ≠ bytes →
        (Wire.decode front : Except CodecError type.Value) = .error (.format .unexpectedEnd)) ∧
      (∀ more, more ≠ [] →
        (Wire.decode (bytes ++ more) : Except CodecError type.Value) =
          .error (.format .trailingBytes)) ∧
      (∀ (other : type.Value) (otherBytes : Bytes), Wire.encode other = .ok otherBytes →
        bytes <+: otherBytes → bytes = otherBytes) ∧
      FormatFault.unexpectedEnd.message = "Unexpected length of input" ∧
      FormatFault.trailingBytes.message = "Not all bytes read" := by
  have hencode : Wire.encode value = .ok (Wire.write value) :=
    Wire.encode_eq_ok_iff.mpr ⟨(type.fits_iff value).mpr hshort, rfl⟩
  refine ⟨Wire.write value, hencode, ?_, ?_, ?_, rfl, rfl⟩
  · intro front hfront hcut
    unfold Wire.decode
    rw [Wire.read_strict_prefix hencode hfront hcut]
    rfl
  · exact fun more hmore => Wire.decode_extended hencode hmore
  · intro other otherBytes hother hprefix
    by_contra hcut
    have hlack := Wire.read_strict_prefix hother hprefix hcut
    have hread : Wire.read (Wire.write value) = .ok (value, []) :=
      Wire.read_eq_ok_iff_encode.mpr ⟨_, hencode, (List.append_nil _).symm⟩
    rw [hread] at hlack
    cases hlack

/-- A list of texts cut inside a character of two bytes, and extended by one byte. -/
theorem decode_cut_or_extended_text :
    (Wire.decode [1, 0, 0, 0, 2, 0, 0, 0, 195] : Except CodecError (List String)) =
        .error (.format .unexpectedEnd) ∧
      (Wire.decode [1, 0, 0, 0, 2, 0, 0, 0, 195, 169, 0] : Except CodecError (List String)) =
        .error (.format .trailingBytes) := by
  obtain ⟨bytes, hencode, hcut, hextended, -⟩ := decode_cut_or_extended (.list .text) ["é"]
    (show ShortList ShortText ["é"] by decide)
  have hbytes : Wire.encode ["é"] = .ok [1, 0, 0, 0, 2, 0, 0, 0, 195, 169] := by decide
  obtain rfl := Except.ok.inj (hencode.symm.trans hbytes)
  exact ⟨hcut _ (by decide) (by decide), hextended [0] (by decide)⟩

end BinaryType

end LedgerWire
