import LedgerWire.Proofs.Curve.Point
import LedgerWire.Proofs.Json.Schema
import LedgerWire.Proofs.Key.Basic
import Mathlib.Data.List.Forall2

/-!
# Texts are canonical behind the name of the curve

A text is split at its first separator. The name in front may be spelled in any case or left out;
behind it, only the base58 text of the bytes is accepted. A key, a signature and a digest therefore
have one text each, and what is accepted for a key or a signature is that text with its front
spelled in some other way. Every other text is refused for its first fault: the name, a character,
the number of bytes, and for a secret key its public half.
-/

namespace LedgerWire

/-! ### The name of the curve -/

namespace Curve

/-- A name of the curve with each letter in either case. -/
def Spelled (name : String) : Prop :=
  List.Forall₂ (fun letter c => c = letter ∨ c = letter.toUpper) "ed25519".toList name.toList

/-- The characters whose small letter is given are that letter and its capital. Both conversions
test a range of code points and then shift by 32. -/
theorem toLower_eq_iff {c letter : Char} (hletter : letter.toLower = letter) :
    c.toLower = letter ↔ c = letter ∨ c = letter.toUpper := by
  have hA : 'A'.val.toNat = 65 := rfl
  have hZ : 'Z'.val.toNat = 90 := rfl
  have ha : 'a'.val.toNat = 97 := rfl
  have hz : 'z'.val.toNat = 122 := rfl
  have hc := c.val.toNat_lt
  delta Char.toLower Char.toUpper at *
  simp only [ge_iff_le, Char.ext_iff, UInt32.le_iff_toNat_le, ← UInt32.toNat_inj] at *
  split at hletter <;> split <;> split <;>
    simp only [UInt32.toNat_add, UInt32.toNat_sub] at * <;> omega

/-- Characters are some small letters in lower case just when each is the letter or its capital. -/
theorem map_toLower_eq_iff {letters chars : List Char}
    (hletters : ∀ letter ∈ letters, letter.toLower = letter) :
    chars.map Char.toLower = letters ↔
      List.Forall₂ (fun letter c => c = letter ∨ c = letter.toUpper) letters chars := by
  induction letters generalizing chars with
  | nil => simp
  | cons letter letters ih =>
    obtain ⟨hletter, hletters⟩ := List.forall_mem_cons.mp hletters
    cases chars with
    | nil => simp
    | cons c chars =>
      rw [List.map_cons, List.cons.injEq, List.forall₂_cons, toLower_eq_iff hletter, ih hletters]

/-- There is one curve. -/
theorem eq_ed25519 (curve : Curve) : curve = .ed25519 := by
  cases curve
  rfl

/-- A name is that of the curve just when it spells it, in either case of its letters. -/
theorem ofName_eq_ok_iff {name : String} {curve : Curve} :
    ofName name = .ok curve ↔ Spelled name := by
  have htable : ("ed25519".toList.all fun letter => letter.toLower = letter) = true := by decide
  have hletters : ∀ letter ∈ "ed25519".toList, letter.toLower = letter :=
    fun letter hletter => of_decide_eq_true (List.all_eq_true.mp htable letter hletter)
  rw [Spelled, ← map_toLower_eq_iff hletters, curve.eq_ed25519, ofName]
  split
  · rename_i heq
    exact iff_of_true rfl heq
  · rename_i hne
    exact iff_of_false (fun h => by cases h) hne

/-- Every other name is refused, with the name itself. -/
theorem ofName_eq_error_iff {name : String} {fault : ArgumentFault} :
    ofName name = .error fault ↔ ¬Spelled name ∧ fault = .unsupportedCurve name := by
  have hok : ofName name = .ok .ed25519 ↔ Spelled name := ofName_eq_ok_iff
  rw [← hok, ofName]
  split
  · simp
  · simp [eq_comm]

end Curve

/-! ### The bytes -/

namespace Base58

/-- Why data is not the base58 text of a block: a character, or the number of bytes. -/
inductive Unfit (size : Nat) (subject text data : String) : ArgumentFault → Prop where
  | character {before after : List Char} {c : Char} (hdata : data.toList = before ++ c :: after)
      (hbefore : ∀ c ∈ before, c ∈ alphabet) (hc : c ∉ alphabet) :
      Unfit size subject text data (.base58 subject text (foreign c before.length))
  | length {bytes : Bytes} (hdata : Spells data bytes) (hlength : bytes.length ≠ size) :
      Unfit size subject text data (.length subject size bytes.length)

/-- Reads data as a block. -/
def readBlock (size : Nat) (subject text data : String) : Except ArgumentFault (Block size) :=
  match decode data with
  | .error fault => .error (.base58 subject text fault)
  | .ok bytes =>
    match Block.ofBytes? size bytes with
    | some block => .ok block
    | none => .error (.length subject size bytes.length)

/-- Data that spells a buffer is read as a block if the buffer has its length. -/
theorem readBlock_of_spells {size : Nat} {subject text data : String} {bytes : Bytes}
    (hdata : Spells data bytes) :
    readBlock size subject text data =
      (Block.ofBytes? size bytes).elim (.error (.length subject size bytes.length)) .ok := by
  rw [readBlock, decode_eq_ok_iff.mpr hdata]
  dsimp only
  cases Block.ofBytes? size bytes <;> rfl

/-- Data is read as a block just when it is the base58 text of its bytes. -/
theorem readBlock_eq_ok_iff {size : Nat} {subject text data : String} {block : Block size} :
    readBlock size subject text data = .ok block ↔ Spells data block.bytes := by
  constructor
  · intro h
    cases hdecode : decode data with
    | error fault =>
      rw [readBlock, hdecode] at h
      cases h
    | ok bytes =>
      have hspells := decode_eq_ok_iff.mp hdecode
      rw [readBlock_of_spells hspells] at h
      cases hblock : Block.ofBytes? size bytes with
      | none =>
        rw [hblock] at h
        cases h
      | some found =>
        rw [hblock] at h
        cases h
        rwa [Block.bytes_of_ofBytes? hblock]
  · intro hspells
    rw [readBlock_of_spells hspells, Block.ofBytes?_bytes]
    rfl

/-- Data is refused just when it is unfit for a block, and for the reason that makes it so. -/
theorem readBlock_eq_error_iff {size : Nat} {subject text data : String}
    {fault : ArgumentFault} :
    readBlock size subject text data = .error fault ↔ Unfit size subject text data fault := by
  constructor
  · intro h
    cases hdecode : decode data with
    | error foreign =>
      rw [readBlock, hdecode] at h
      cases h
      obtain ⟨before, c, after, hdata, hbefore, hc, rfl⟩ := decode_eq_error_iff.mp hdecode
      exact .character hdata hbefore hc
    | ok bytes =>
      have hspells := decode_eq_ok_iff.mp hdecode
      rw [readBlock_of_spells hspells] at h
      by_cases hlength : bytes.length = size
      · rw [Block.ofBytes?, dif_pos hlength] at h
        cases h
      · rw [Block.ofBytes?, dif_neg hlength] at h
        cases h
        exact .length hspells hlength
  · intro h
    cases h with
    | character hdata hbefore hc =>
      rw [readBlock, decode_eq_error_iff.mpr ⟨_, _, _, hdata, hbefore, hc, rfl⟩]
    | length hdata hlength =>
      rw [readBlock_of_spells hdata, Block.ofBytes?, dif_neg hlength]
      rfl

end Base58

/-! ### The parts of a text -/

namespace Key

open Base58 (Unfit readBlock readBlock_eq_ok_iff readBlock_eq_error_iff)

/-- The name of the curve in a text and the data. Without a separator all of the text is data;
otherwise the name stands before the first separator and the data behind it. -/
inductive Parts (text : String) : Option String → String → Prop where
  | bare (htext : separator ∉ text.toList) : Parts text none text
  | named {name data : String} (hname : separator ∉ name.toList)
      (htext : text = name ++ separator.toString ++ data) : Parts text (some name) data

/-- A text is split into a name and data just when these are its parts. -/
theorem split_eq_iff {text data : String} {name : Option String} :
    split text = (name, data) ↔ Parts text name data := by
  constructor
  · intro h
    have hparts := @List.takeWhile_append_dropWhile _ (· != separator) text.toList
    have hfront : ∀ c ∈ text.toList.takeWhile (· != separator), c ≠ separator := by
      intro c hc
      simpa using List.mem_takeWhile_imp hc
    have hstop := List.head?_dropWhile_not (· != separator) text.toList
    unfold split at h
    cases hrest : text.toList.dropWhile (· != separator) with
    | nil =>
      simp only [hrest] at h
      cases h
      rw [hrest, List.append_nil] at hparts
      rw [hparts] at hfront
      exact .bare fun hmem => hfront separator hmem rfl
    | cons c rest =>
      simp only [hrest] at h
      cases h
      have hc : c = separator := by
        rw [hrest] at hstop
        simpa using hstop
      refine .named ?_ ?_
      · rw [String.toList_ofList]
        exact fun hmem => hfront separator hmem rfl
      · rw [← String.toList_inj]
        rw [hrest, hc] at hparts
        simp [hparts]
  · intro h
    cases h with
    | bare htext =>
      have hrest : text.toList.dropWhile (· != separator) = [] := by
        rw [List.dropWhile_eq_nil_iff]
        intro c hc
        exact bne_iff_ne.mpr fun heq => htext (heq ▸ hc)
      simp only [split, hrest]
    | named hname htext => rw [htext, split_append hname]

/-- A text has its parts in one way. -/
theorem Parts.unique {text first second : String} {front back : Option String}
    (h : Parts text front first) (h' : Parts text back second) : front = back ∧ first = second := by
  have heq := (split_eq_iff.mpr h).symm.trans (split_eq_iff.mpr h')
  exact Prod.mk.inj heq

/-- Every text has a name, or none, and data. -/
theorem exists_parts (text : String) : ∃ name data, Parts text name data :=
  ⟨_, _, split_eq_iff.mp rfl⟩

/-! ### Reading -/

/-- The curve that the name in a text stands for, none being a name of the one curve. -/
def curveOf : Option String → Except ArgumentFault Curve
  | some name => Curve.ofName name
  | none => .ok .ed25519

/-- A name that may be left out, in any case otherwise. -/
def NameSpelled (name : Option String) : Prop := ∀ spelling ∈ name, Curve.Spelled spelling

/-- The name in a text gives the curve just when it is spelled right, or left out. -/
theorem curveOf_eq_ok_iff {name : Option String} {curve : Curve} :
    curveOf name = .ok curve ↔ NameSpelled name := by
  cases name with
  | none =>
    rw [curve.eq_ed25519]
    exact iff_of_true rfl fun _ h => by cases h
  | some name => simp [curveOf, NameSpelled, Curve.ofName_eq_ok_iff]

/-- A text is read by its parts: the name first, then the data. -/
theorem read_of_parts {text data : String} {name : Option String} (hparts : Parts text name data)
    (size : Nat) (subject : String) :
    read size subject text = (curveOf name >>= fun curve =>
      (readBlock size subject text data).map fun block => (curve, block)) := by
  unfold read readBlock
  simp only [split_eq_iff.mpr hparts]
  cases Base58.decode data with
  | error fault => cases name <;> rfl
  | ok bytes =>
    dsimp only
    cases Block.ofBytes? size bytes <;> cases name <;> rfl

/-- Why a text is not that of a block of a curve: its name, or else its data. -/
inductive Refused (size : Nat) (subject text : String) : ArgumentFault → Prop where
  | name {name data : String} (hparts : Parts text (some name) data)
      (hname : ¬Curve.Spelled name) : Refused size subject text (.unsupportedCurve name)
  | data {name : Option String} {data : String} {fault : ArgumentFault}
      (hparts : Parts text name data) (hname : NameSpelled name)
      (hdata : Unfit size subject text data fault) : Refused size subject text fault

/-- A text is read just when its name is spelled right and its data is the base58 text of
the block. -/
theorem read_eq_ok_iff {size : Nat} {subject text : String} {curve : Curve} {block : Block size} :
    read size subject text = .ok (curve, block) ↔
      ∃ name data, Parts text name data ∧ NameSpelled name ∧ Base58.Spells data block.bytes := by
  obtain ⟨name, data, hparts⟩ := exists_parts text
  rw [read_of_parts hparts]
  simp only [Except.bind_eq_ok_iff, Except.map_eq_ok_iff, curveOf_eq_ok_iff, readBlock_eq_ok_iff]
  constructor
  · rintro ⟨found, hname, block, hdata, heq⟩
    obtain ⟨-, rfl⟩ := Prod.mk.inj heq
    exact ⟨name, data, hparts, hname, hdata⟩
  · rintro ⟨name', data', hparts', hname, hdata⟩
    obtain ⟨rfl, rfl⟩ := hparts.unique hparts'
    exact ⟨curve, hname, block, hdata, rfl⟩

/-- A text is refused just for what is wrong with its name, or else with its data. A name that is
left out is not refused. -/
theorem read_eq_error_iff {size : Nat} {subject text : String} {fault : ArgumentFault} :
    read size subject text = .error fault ↔ Refused size subject text fault := by
  obtain ⟨name, data, hparts⟩ := exists_parts text
  rw [read_of_parts hparts]
  simp only [Except.bind_eq_error_iff, Except.map_eq_error_iff, curveOf_eq_ok_iff,
    readBlock_eq_error_iff]
  constructor
  · rintro (hname | ⟨curve, hname, hdata⟩)
    · cases name with
      | none => cases hname
      | some name =>
        obtain ⟨hother, rfl⟩ := Curve.ofName_eq_error_iff.mp hname
        exact .name hparts hother
    · exact .data hparts hname hdata
  · intro h
    cases h with
    | name hparts' hname =>
      obtain ⟨rfl, rfl⟩ := hparts.unique hparts'
      exact .inl (Curve.ofName_eq_error_iff.mpr ⟨hname, rfl⟩)
    | data hparts' hname hdata =>
      obtain ⟨rfl, rfl⟩ := hparts.unique hparts'
      exact .inr ⟨.ed25519, hname, hdata⟩

/-! ### Canonical texts -/

/-- The texts of a block with a curve are the prefix and the base58 text of its bytes. -/
theorem write_eq_append_iff {size : Nat} {curve : Curve} {block : Block size} {data : String} :
    write curve block = "ed25519:" ++ data ↔ Base58.Spells data block.bytes := by
  have hwrite : write curve block = "ed25519:" ++ Base58.encode block.bytes := by
    rw [curve.eq_ed25519]
    rfl
  rw [hwrite, String.append_right_inj, Base58.encode_eq_iff]

/-- A text that differs from a canonical one at most in front: its data is what the canonical text
has behind the name of the curve. -/
def Denotes (text canonical : String) : Prop :=
  ∃ name data, Parts text name data ∧ NameSpelled name ∧ canonical = "ed25519:" ++ data

/-- A text is read as a block just when it denotes the text that is written for the block. -/
theorem read_eq_ok_iff_denotes {size : Nat} {subject text : String} {curve : Curve}
    {block : Block size} :
    read size subject text = .ok (curve, block) ↔ Denotes text (write curve block) := by
  simp only [read_eq_ok_iff, Denotes, write_eq_append_iff]

/-- The law of a type of blocks with a curve: each value has one text, and what is accepted for it
differs from that text at most in front. A value that is not usable is written and not read. -/
structure Canonical {α : Type} {size : Nat} (subject : String) (block : α → Block size)
    (Usable : α → Prop) (ofText : String → Except ArgumentFault α) (text : α → String)
    (schema : Schema α) : Prop where
  text_eq_iff (value : α) (other : String) :
    text value = other ↔
      ∃ data, other = "ed25519:" ++ data ∧ Base58.Spells data (block value).bytes
  ofText_text_iff (value : α) : ofText (text value) = .ok value ↔ Usable value
  ofText_eq_ok_iff (other : String) (value : α) :
    ofText other = .ok value ↔ Denotes other (text value) ∧ Usable value
  /-- Two texts are accepted for one value when they have the same data. -/
  eq_iff {first second firstData secondData : String} {firstName secondName : Option String}
    {x y : α} (hx : ofText first = .ok x) (hy : ofText second = .ok y)
    (hfirst : Parts first firstName firstData) (hsecond : Parts second secondName secondData) :
    x = y ↔ firstData = secondData
  ofText_eq_error_iff (other : String) (fault : ArgumentFault) :
    ofText other = .error fault ↔ Refused size subject other fault ∨
      (fault = .keypair ∧ ∃ value, Denotes other (text value) ∧ ¬Usable value)
  schema_write (value : α) : schema.write value = .string (text value)
  schema_restores_iff (value : α) : schema.Restores value ↔ Usable value
  schema_read_string (other : String) :
    schema.read (.string other) =
      (ofText other).mapError fun fault => .refused (CodecError.argument fault).message
  schema_read_text {json : Json} {value : α} (h : schema.read json = .ok value) :
    ∃ other, json = .string other

/-- The law holds of a type whose values are read as blocks and then looked at for use. -/
theorem Canonical.of_read {α : Type} {size : Nat} {subject : String} {curve : α → Curve}
    {block : α → Block size} {Usable : α → Prop} {ofText : String → Except ArgumentFault α}
    {shown : α → Shown}
    (hok : ∀ other value, ofText other = .ok value ↔
      read size subject other = .ok (curve value, block value) ∧ Usable value)
    (herror : ∀ other fault, ofText other = .error fault ↔ read size subject other = .error fault ∨
      (fault = .keypair ∧
        ∃ value, read size subject other = .ok (curve value, block value) ∧ ¬Usable value)) :
    Canonical subject block Usable ofText (fun value => write (curve value) (block value))
      (.ofText ofText ArgumentFault.failure (fun value => write (curve value) (block value))
        shown) := by
  have htext (value : α) :
      ofText (write (curve value) (block value)) = .ok value ↔ Usable value := by
    rw [hok, read_write]
    exact and_iff_right rfl
  have hread (other : String) : (Schema.ofText ofText ArgumentFault.failure
      (fun value => write (curve value) (block value)) shown).read (.string other) =
        (ofText other).mapError fun fault => .refused (CodecError.argument fault).message :=
    Schema.ofText_read_string other
  refine ⟨?_, htext, ?_, ?_, ?_, fun _ => rfl, ?_, hread, ?_⟩
  · intro value other
    constructor
    · rintro rfl
      have hspells : Base58.Spells (Base58.encode (block value).bytes) (block value).bytes :=
        Base58.encode_eq_iff.mp rfl
      exact ⟨_, write_eq_append_iff.mpr hspells, hspells⟩
    · rintro ⟨data, rfl, hdata⟩
      exact write_eq_append_iff.mpr hdata
  · intro other value
    rw [hok, read_eq_ok_iff_denotes]
  · intro first second firstData secondData firstName secondName x y hx hy hfirst hsecond
    have hdata {other data : String} {name : Option String} {value : α}
        (h : ofText other = .ok value) (hparts : Parts other name data) :
        write (curve value) (block value) = "ed25519:" ++ data := by
      obtain ⟨name', data', hparts', -, hwrite⟩ :=
        read_eq_ok_iff_denotes.mp ((hok other value).mp h).1
      obtain ⟨rfl, rfl⟩ := hparts.unique hparts'
      exact hwrite
    have hfirst := hdata hx hfirst
    have hsecond := hdata hy hsecond
    constructor
    · rintro rfl
      exact String.append_right_inj _ |>.mp (hfirst.symm.trans hsecond)
    · rintro rfl
      have hxback := (htext x).mpr ((hok first x).mp hx).2
      have hyback := (htext y).mpr ((hok second y).mp hy).2
      rw [hfirst] at hxback
      rw [hsecond, hxback] at hyback
      exact Except.ok.inj hyback
  · intro other fault
    rw [herror, read_eq_error_iff]
    simp only [read_eq_ok_iff_denotes]
  · intro value
    rw [← htext, Schema.Restores]
    show Schema.read _ (.string _) = _ ↔ _
    rw [hread, Except.mapError_eq_ok_iff]
  · intro json value h
    cases json with
    | string other => exact ⟨other, rfl⟩
    | _ => cases h

/-- The law holds of a type of which every block that is read will do. -/
theorem Canonical.of_row {α : Type} {size : Nat} {subject : String} {shown : α → Shown}
    (row : Row α (Curve × Block size)) :
    Canonical subject (fun value => (row.toRow value).2) (fun _ => True)
      (fun other => (read size subject other).map row.ofRow)
      (fun value => write (row.toRow value).1 (row.toRow value).2)
      (.ofText (fun other => (read size subject other).map row.ofRow) ArgumentFault.failure
        (fun value => write (row.toRow value).1 (row.toRow value).2) shown) := by
  refine of_read (fun other value => ?_) fun other fault => ?_
  · rw [Except.map_eq_ok_iff, and_true]
    constructor
    · rintro ⟨pair, hread, rfl⟩
      rw [row.toRow_ofRow]
      exact hread
    · exact fun hread => ⟨_, hread, row.ofRow_toRow value⟩
  · simp [Except.map_eq_error_iff]

end Key

/-! ### Keys, signatures and digests -/

/-- The curve has a point with the y coordinate of the public half. -/
def SecretKey.HasPoint (key : SecretKey) : Prop :=
  ∃ A : AffinePoint Point.dElement,
    A.y = ((Bytes.ofLittleEndian key.publicHalf.bytes % 2 ^ 255 : Nat) : Field.Element)

/-- A key is usable just when it has a point. -/
theorem SecretKey.isUsable_iff {key : SecretKey} : key.isUsable = true ↔ key.HasPoint := by
  rw [isUsable, Ed25519.isPublicKey, Point.isSome_decompress_iff, HasPoint]

/-- Public keys have canonical texts. -/
theorem PublicKey.canonical :
    Key.Canonical "public key" data (fun _ => True) ofText text schema :=
  Key.Canonical.of_row row

/-- Signatures have canonical texts. -/
theorem Signature.canonical :
    Key.Canonical "signature" data (fun _ => True) ofText text schema :=
  Key.Canonical.of_row row

/-- A secret key that is read is kept if it is usable. -/
theorem SecretKey.ofText_eq (other : String) :
    ofText other = (Key.read 64 "secret key" other >>= fun pair =>
      if isUsable ⟨pair.1, pair.2⟩ then .ok ⟨pair.1, pair.2⟩ else .error .keypair) := rfl

/-- Secret keys have canonical texts, those with a point being read. -/
theorem SecretKey.canonical :
    Key.Canonical "secret key" data HasPoint ofText text schema := by
  refine Key.Canonical.of_read (fun other key => ?_) fun other fault => ?_
  · rw [ofText_eq, Except.bind_eq_ok_iff, ← isUsable_iff]
    constructor
    · rintro ⟨⟨curve, data⟩, hread, hkey⟩
      by_cases husable : isUsable ⟨curve, data⟩ = true
      · rw [if_pos husable] at hkey
        cases hkey
        exact ⟨hread, husable⟩
      · rw [if_neg husable] at hkey
        cases hkey
    · rintro ⟨hread, husable⟩
      exact ⟨_, hread, if_pos husable⟩
  · rw [ofText_eq, Except.bind_eq_error_iff]
    refine or_congr_right ?_
    constructor
    · rintro ⟨⟨curve, data⟩, hread, hkey⟩
      by_cases husable : isUsable ⟨curve, data⟩ = true
      · rw [if_pos husable] at hkey
        cases hkey
      · rw [if_neg husable] at hkey
        cases hkey
        exact ⟨rfl, ⟨curve, data⟩, hread, fun h => husable (isUsable_iff.mpr h)⟩
    · rintro ⟨rfl, key, hread, hpoint⟩
      exact ⟨_, hread, if_neg fun husable => hpoint (isUsable_iff.mp husable)⟩

/-- A hash is read from all of a text as from data. -/
theorem Digest.ofText_eq (other : String) :
    ofText other = (Base58.readBlock 32 "hash" other other).map Digest.mk := by
  unfold ofText Base58.readBlock
  cases Base58.decode other with
  | error fault => rfl
  | ok bytes =>
    dsimp only [ofBytes]
    cases Block.ofBytes? 32 bytes <;> rfl

/-- A digest is read from the one text that it has. -/
theorem Digest.ofText_eq_ok_iff {other : String} {digest : Digest} :
    ofText other = .ok digest ↔ digest.text = other := by
  have hblock : Base58.readBlock 32 "hash" other other = .ok digest.data ↔
      Base58.Spells other digest.data.bytes := Base58.readBlock_eq_ok_iff
  rw [text, Base58.encode_eq_iff, ← hblock, ofText_eq, Except.map_eq_ok_iff]
  constructor
  · rintro ⟨block, hread, rfl⟩
    exact hread
  · exact fun hread => ⟨_, hread, rfl⟩

/-- A text is refused as a hash just when it is unfit for a block of 32 bytes. -/
theorem Digest.ofText_eq_error_iff {other : String} {fault : ArgumentFault} :
    ofText other = .error fault ↔ Base58.Unfit 32 "hash" other other fault := by
  rw [ofText_eq, Except.map_eq_error_iff, Base58.readBlock_eq_error_iff]

/-- Every key, signature and digest has one text and is read from it, in JSON as well, a secret key
if its public half is a point of the curve. A text that is accepted for a key or a signature is the
one text up to a name of the curve in front; a text that is accepted for a digest is the one text.
Every other text is refused for its first fault. -/
theorem texts_canonical :
    Key.Canonical "public key" PublicKey.data (fun _ => True) PublicKey.ofText PublicKey.text
      PublicKey.schema ∧
    Key.Canonical "signature" Signature.data (fun _ => True) Signature.ofText Signature.text
      Signature.schema ∧
    Key.Canonical "secret key" SecretKey.data SecretKey.HasPoint SecretKey.ofText SecretKey.text
      SecretKey.schema ∧
    (∀ digest : Digest, Digest.ofText digest.text = .ok digest ∧
      Digest.schema.write digest = .string digest.text ∧ Digest.schema.Restores digest) ∧
    (∀ (digest : Digest) (other : String),
      (digest.text = other ↔ Base58.Spells other digest.data.bytes) ∧
      (Digest.ofText other = .ok digest ↔ digest.text = other)) ∧
    (∀ (other : String) (fault : ArgumentFault),
      Digest.ofText other = .error fault ↔ Base58.Unfit 32 "hash" other other fault) ∧
    ∀ other : String, Digest.schema.read (.string other) =
      (Digest.ofText other).mapError fun fault => .refused (CodecError.argument fault).message := by
  refine ⟨PublicKey.canonical, Signature.canonical, SecretKey.canonical, fun digest => ?_,
    fun digest other => ⟨Base58.encode_eq_iff, Digest.ofText_eq_ok_iff⟩,
    fun other fault => Digest.ofText_eq_error_iff, fun other => Schema.ofText_read_string other⟩
  exact ⟨digest.ofText_text, rfl, Schema.ofText_restores digest.ofText_text⟩

example : PublicKey.ofText ("ED25519:" ++ String.ofList (List.replicate 32 '1')) =
    .ok ⟨.ed25519, .zero 32⟩ := by decide

end LedgerWire
