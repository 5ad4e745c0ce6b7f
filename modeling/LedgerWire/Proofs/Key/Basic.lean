import LedgerWire.Digest.Basic
import LedgerWire.Key.Basic
import LedgerWire.Proofs.Text.Base58

/-!
# Texts of keys and digests are read back

The name of a curve has no separator in it, so the first separator of a written key stands after
that name, and what follows is the base58 text of the bytes.
-/

namespace LedgerWire

/-- The name of a curve reads back as the curve. -/
theorem Curve.ofName_name (curve : Curve) : ofName curve.name = .ok curve := by
  cases curve
  rfl

namespace Key

/-- A text is split behind a name without a separator in it. -/
theorem split_append {name : String} (hname : separator ∉ name.toList) (data : String) :
    split (name ++ separator.toString ++ data) = (some name, data) := by
  have hother : ∀ c ∈ name.toList, (c != separator) = true := by
    intro c hc
    exact bne_iff_ne.mpr fun heq => hname (heq ▸ hc)
  have hchars : (name ++ separator.toString ++ data).toList =
      name.toList ++ separator :: data.toList := by
    simp [String.toList_append]
  rw [split]
  simp only [hchars, List.dropWhile_append_of_pos hother, List.takeWhile_append_of_pos hother,
    List.dropWhile_cons, List.takeWhile_cons, bne_self_eq_false, Bool.false_eq_true, if_false,
    List.append_nil, String.ofList_toList]

/-- No name of a curve has the separator in it. -/
theorem separator_notMem_name (curve : Curve) : separator ∉ curve.name.toList := by
  cases curve
  decide

/-- A written key is split after the name of its curve. -/
theorem split_write {size : Nat} (curve : Curve) (data : Block size) :
    split (write curve data) = (some curve.name, Base58.encode data.bytes) :=
  split_append (separator_notMem_name curve) _

/-- The text of a block of a curve is read back. -/
theorem read_write {size : Nat} (subject : String) (curve : Curve) (data : Block size) :
    read size subject (write curve data) = .ok (curve, data) := by
  unfold read
  simp only [split_write, Curve.ofName_name, Base58.decode_encode, Block.ofBytes?_bytes,
    Except.ok_bind]
  rfl

end Key

/-- A public key comes back from its text. -/
theorem PublicKey.ofText_text (key : PublicKey) : ofText key.text = .ok key := by
  rw [ofText, text, Key.read_write]
  rfl

/-- A signature comes back from its text. -/
theorem Signature.ofText_text (signature : Signature) : ofText signature.text = .ok signature := by
  rw [ofText, text, Key.read_write]
  rfl

/-- The text of a secret key is read back if its public half is a point of the curve. -/
theorem SecretKey.ofText_text {key : SecretKey} (husable : key.isUsable = true) :
    ofText key.text = .ok key := by
  obtain ⟨curve, data⟩ := key
  unfold ofText
  rw [text, Key.read_write, Except.ok_bind]
  dsimp only
  rw [if_pos husable]
  rfl

/-- A hash comes back from its text. -/
theorem Digest.ofText_text (digest : Digest) : ofText digest.text = .ok digest := by
  unfold ofText
  rw [text, Base58.decode_encode]
  show ofBytes digest.data.bytes = .ok digest
  unfold ofBytes
  rw [Block.ofBytes?_bytes]

end LedgerWire
