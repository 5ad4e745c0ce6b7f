import LedgerWire.Proofs.Wire.Sequential

/-!
# Refused buffers

A buffer is refused because it is malformed, or because one of its bytes stands where an ordinal is
expected and is none of its family. The fault of a part is the fault of the whole, however deep the
part is: what was read before it has been accepted, and what would follow is not looked at.
-/

namespace LedgerWire

/-- The failures that reading a buffer can end in. -/
inductive Reported (bytes : Bytes) : CodecError → Prop where
  | malformed (fault : FormatFault) : Reported bytes (.format fault)
  | ordinal {family : String} {byte : UInt8} (hbyte : byte ∈ bytes)
      (hfree : Unassigned family byte) :
      Reported bytes (.unknownVariant family (Decimal.write byte.toNat))

/-- What is reported of a part of a buffer is reported of the buffer. -/
theorem Reported.mono {part bytes : Bytes} {error : CodecError} (h : Reported part error)
    (hpart : part ⊆ bytes) : Reported bytes error := by
  cases h with
  | malformed fault => exact .malformed fault
  | ordinal hbyte hfree => exact .ordinal (hpart hbyte) hfree

namespace Wire

/-! ### The kinds of failure -/

/-- What a reader leaves is an end of the buffer, and what it refuses is reported of the buffer. -/
structure Reports {α : Type} (reader : Reader α) : Prop where
  suffix {bytes rest : Bytes} {value : α} (hread : reader bytes = .ok (value, rest)) :
    rest <:+ bytes
  error {bytes : Bytes} {error : CodecError} (hread : reader bytes = .error error) :
    Reported bytes error

/-- A reader that takes nothing reports nothing. -/
theorem reports_done {α : Type} (value : α) : Reports fun bytes => .ok (value, bytes) where
  suffix hread := by
    cases hread
    exact List.suffix_rfl
  error hread := by cases hread

/-- A reader that refuses everything with a fault reports the fault. -/
theorem reports_refuse {α : Type} (fault : FormatFault) :
    Reports fun _ => (.error (.format fault) : Except CodecError (α × Bytes)) where
  suffix hread := by cases hread
  error hread := by
    cases hread
    exact .malformed fault

/-- The reader of a byte reports the end of the buffer. -/
theorem reports_byte : Reports (read : Reader UInt8) where
  suffix hread := ⟨_, (read_eq_ok_iff.mp hread).2.symm⟩
  error {bytes error} hread := by
    cases bytes with
    | nil =>
      cases hread
      exact .malformed .unexpectedEnd
    | cons byte rest => cases hread

/-- The reader of a block reports the end of the buffer. -/
theorem reports_take (size : Nat) : Reports (take size) where
  suffix hread := ⟨_, (take_eq_ok_iff.mp hread).symm⟩
  error hread := by
    unfold take at hread
    split at hread
    · cases hread
    · cases hread
      exact .malformed .unexpectedEnd

/-- A reader of ordinals reports the end of the buffer and the bytes that are unassigned. -/
theorem reports_ordinal {α : Type} {family : String} {meaning : UInt8 → Except CodecError α}
    (tells : TellsUnassigned family meaning) :
    Reports fun bytes => (read bytes : Except CodecError (UInt8 × Bytes)) >>= fun front =>
      (meaning front.1).map fun value => (value, front.2) where
  suffix hread := by
    obtain ⟨front, hfront, hmeaning⟩ := Except.bind_eq_ok_iff.mp hread
    obtain ⟨value, -, heq⟩ := Except.map_eq_ok_iff.mp hmeaning
    cases heq
    exact reports_byte.suffix hfront
  error {bytes error} hread := by
    rcases Except.bind_eq_error_iff.mp hread with hfront | ⟨⟨byte, rest⟩, hfront, hmeaning⟩
    · exact reports_byte.error hfront
    · obtain ⟨hfree, rfl⟩ := tells (Except.map_eq_error_iff.mp hmeaning)
      obtain ⟨-, rfl⟩ := read_eq_ok_iff.mp hfront
      exact .ordinal List.mem_cons_self hfree

/-- Two parts, one after the other, report what either of them does. -/
theorem Reports.next {α β : Type} {first : Reader α} {second : α → Reader β}
    (hfirst : Reports first) (hsecond : ∀ value, Reports (second value)) :
    Reports fun bytes => first bytes >>= fun front => second front.1 front.2 where
  suffix hread := by
    obtain ⟨front, hfront, hrest⟩ := Except.bind_eq_ok_iff.mp hread
    exact ((hsecond front.1).suffix hrest).trans (hfirst.suffix hfront)
  error hread := by
    rcases Except.bind_eq_error_iff.mp hread with hfront | ⟨front, hfront, hrest⟩
    · exact hfirst.error hfront
    · exact ((hsecond front.1).error hrest).mono (hfirst.suffix hfront).subset

/-- Every sequential reader reports. -/
theorem Sequential.reports {α : Type} {reader : Reader α} (h : Sequential reader) :
    Reports reader := by
  induction h with
  | done value => exact reports_done value
  | refuse fault => exact reports_refuse fault
  | byte => exact reports_byte
  | block size => exact reports_take size
  | ordinal tells => exact reports_ordinal tells
  | next _ _ hfirst hsecond => exact hfirst.next hsecond

/-- A buffer that is not decoded is reported as malformed or for one of its bytes. -/
theorem decode_reported {α : Type} [Wire α] [InSequence α] {bytes : Bytes} {error : CodecError}
    (hdecode : (decode bytes : Except CodecError α) = .error error) : Reported bytes error := by
  have hreports : Reports (read : Reader α) := Wire.sequential.reports
  rcases Except.bind_eq_error_iff.mp hdecode with hread | ⟨⟨value, rest⟩, hread, hrest⟩
  · exact hreports.error hread
  · dsimp only at hrest
    split at hrest
    · cases hrest
    · cases hrest
      exact .malformed .trailingBytes

/-! ### The failure of a part -/

/-- Whatever the inner reader refuses, the outer one refuses for the same cause behind the bytes
in front. -/
def PassesOn {α β : Type} (front : Bytes) (inner : Reader α) (outer : Reader β) : Prop :=
  ∀ ⦃bytes error⦄, inner bytes = .error error → outer (front ++ bytes) = .error error

namespace PassesOn

variable {α β υ : Type} {front : Bytes} {inner : Reader υ}

/-- A reader passes on its own refusals. -/
theorem refl : PassesOn [] inner inner := fun _ _ h => h

/-- The fault of the first part of a pair. -/
theorem ahead [Wire α] [Wire β] (h : PassesOn front inner (read : Reader α)) :
    PassesOn front inner (read : Reader (α × β)) :=
  fun _ _ hinner => Except.bind_eq_error_iff.mpr (.inl (h hinner))

/-- The fault of the second part of a pair, behind a first part that is read. -/
theorem behind [Wire α] [Wire β] [Lawful α] (value : α) (hfits : fits value = true)
    (h : PassesOn front inner (read : Reader β)) :
    PassesOn (write value ++ front) inner (read : Reader (α × β)) := by
  intro bytes error hinner
  have hvalue : read (write value ++ front ++ bytes) = .ok (value, front ++ bytes) :=
    read_eq_ok_iff.mpr ⟨hfits, List.append_assoc ..⟩
  refine Except.bind_eq_error_iff.mpr (.inr ⟨_, hvalue, ?_⟩)
  exact Except.bind_eq_error_iff.mpr (.inl (h hinner))

/-- The fault of a value that is turned into something else. -/
theorem map {outer : Reader α} (h : PassesOn front inner outer) (f : α → β) :
    PassesOn front inner fun bytes => (outer bytes).map fun result => (f result.1, result.2) :=
  fun _ _ hinner => Except.map_eq_error_iff.mpr (h hinner)

/-- The fault of an item of a list, behind items that are read and are fewer than announced. It lies
in the item after the last of these. -/
theorem item [Wire α] [Sized α] [Lawful α] {items : List α} {count : Nat}
    (hfits : items.all fits = true) (hlength : items.length < count) (hcount : count < 2 ^ 32)
    (h : PassesOn front inner (read : Reader α)) :
    PassesOn (writeCount count ++ items.flatMap write ++ front) inner (read : Reader (List α)) := by
  have hmany : ∀ {items : List α} {count : Nat}, items.all fits = true → items.length < count →
      PassesOn (items.flatMap write ++ front) inner (readMany (read : Reader α) count) := by
    intro items count hfits hlength
    induction items generalizing count with
    | nil =>
      obtain ⟨count, rfl⟩ := Nat.exists_eq_add_one.mpr hlength
      exact fun _ _ hinner => Except.bind_eq_error_iff.mpr (.inl (h hinner))
    | cons item items ih =>
      obtain ⟨count, rfl⟩ := Nat.exists_eq_add_one.mpr (Nat.zero_lt_of_lt hlength)
      simp only [List.all_cons, Bool.and_eq_true] at hfits
      intro bytes error hinner
      have hitem : read (List.flatMap write (item :: items) ++ front ++ bytes) =
          .ok (item, items.flatMap write ++ front ++ bytes) :=
        read_eq_ok_iff.mpr ⟨hfits.1, by simp⟩
      refine Except.bind_eq_error_iff.mpr (.inr ⟨_, hitem, ?_⟩)
      exact Except.bind_eq_error_iff.mpr
        (.inl (ih hfits.2 (Nat.lt_of_succ_lt_succ hlength) hinner))
  intro bytes error hinner
  have hannounced : takeNat 4 (writeCount count ++ items.flatMap write ++ front ++ bytes) =
      .ok (count, items.flatMap write ++ front ++ bytes) :=
    takeNat_eq_ok_iff.mpr ⟨hcount, by simp [writeCount]⟩
  exact Except.bind_eq_error_iff.mpr (.inr ⟨_, hannounced, hmany hfits hlength hinner⟩)

/-- The fault of a body, behind the ordinal of its tag. -/
theorem tagged {τ : Type} [DecidableEq τ] [VariantTag τ] {registry : Registry τ α}
    (numbered : registry.hasOrdinals = true) (readBody : τ → Reader α) (tag : τ)
    (h : PassesOn front inner (readBody tag)) :
    PassesOn (registry.ordinalOf numbered tag :: front) inner fun bytes =>
      (read bytes : Except CodecError (UInt8 × Bytes)) >>= fun result =>
        registry.tagOf result.1 >>= fun tag => readBody tag result.2 := by
  intro bytes error hinner
  show (registry.tagOf (registry.ordinalOf numbered tag) >>= fun tag =>
    readBody tag (front ++ bytes)) = .error error
  rw [Registry.tagOf_ordinalOf numbered]
  exact h hinner

/-- A fault in a whole buffer. -/
theorem decode_eq_error [Wire α] (h : PassesOn front inner (read : Reader α)) {bytes : Bytes}
    {error : CodecError} (hinner : inner bytes = .error error) :
    (decode (front ++ bytes) : Except CodecError α) = .error error :=
  Except.bind_eq_error_iff.mpr (.inl (h hinner))

end PassesOn

end Wire

open Wire (PassesOn)

/-! ### The parts of a transaction -/

namespace Transaction

/-- The bytes of a transaction that announces the given number of actions, up to and with the
actions it has. -/
def opening (t : Transaction) (count : Nat) : Bytes :=
  Wire.write (t.signerId, t.publicKey, t.nonce, t.receiverId, t.blockHash) ++
    (Wire.writeCount count ++ t.actions.flatMap Wire.write)

/-- The bytes of a whole transaction announce the actions that it has. -/
theorem write_eq_opening (t : Transaction) : Wire.write t = t.opening t.actions.length := by
  show Wire.write t.signerId ++ (Wire.write t.publicKey ++ (Wire.write t.nonce ++
    (Wire.write t.receiverId ++ (Wire.write t.blockHash ++ (Wire.write t.actions ++ []))))) = _
  rw [List.append_nil]
  show _ = Wire.write t.signerId ++ (Wire.write t.publicKey ++ (Wire.write t.nonce ++
    (Wire.write t.receiverId ++ Wire.write t.blockHash))) ++ Wire.write t.actions
  simp only [List.append_assoc]

/-- A number of actions that can be announced when the actions of a transaction are the first
of them, and not all. -/
structure Announces (t : Transaction) (count : Nat) : Prop where
  short : ∀ action ∈ t.actions, action.Short
  fewer : t.actions.length < count
  fits : count < 2 ^ 32

variable {υ : Type} {front : Bytes} {inner : Reader υ}

/-- The fault of an action in a list of which the first actions are read. -/
theorem passesOn_actions {t : Transaction} {count : Nat} (hcount : t.Announces count)
    (h : PassesOn front inner (Wire.read : Reader Action)) :
    PassesOn (Wire.writeCount count ++ t.actions.flatMap Wire.write ++ front) inner
      (Wire.read : Reader (List Action)) :=
  h.item (List.all_eq_true.mpr fun action ha => Action.fits_iff.mpr (hcount.short action ha))
    hcount.fewer hcount.fits

/-- The fault of an action in a transaction of which the first actions are read. -/
theorem passesOn_action {t : Transaction} {count : Nat} (hcount : t.Announces count)
    (h : PassesOn front inner (Wire.read : Reader Action)) :
    PassesOn (t.opening count ++ front) inner (Wire.read : Reader Transaction) := by
  have hactions := (passesOn_actions hcount h).ahead (β := Unit)
  have hrow := ((((hactions.behind t.blockHash rfl).behind t.receiverId
    t.receiverId.fits_eq_true).behind t.nonce rfl).behind t.publicKey rfl).behind t.signerId
    t.signerId.fits_eq_true
  have hfront : t.opening count ++ front = Wire.write t.signerId ++ (Wire.write t.publicKey ++
      (Wire.write t.nonce ++ (Wire.write t.receiverId ++ (Wire.write t.blockHash ++
        (Wire.writeCount count ++ t.actions.flatMap Wire.write ++ front))))) := by
    show Wire.write t.signerId ++ (Wire.write t.publicKey ++ (Wire.write t.nonce ++
      (Wire.write t.receiverId ++ Wire.write t.blockHash))) ++ _ ++ front = _
    simp only [List.append_assoc]
  rw [hfront]
  exact hrow.map row.ofRow

end Transaction

/-- The fault of a transaction that is signed. -/
theorem SignedTransaction.passesOn_transaction {υ : Type} {front : Bytes} {inner : Reader υ}
    (h : PassesOn front inner (Wire.read : Reader Transaction)) :
    PassesOn front inner (Wire.read : Reader SignedTransaction) :=
  h.ahead.map row.ofRow

/-- The fault of the permission of an access key. -/
theorem AccessKey.passesOn_permission (nonce : UInt64) :
    PassesOn (Wire.write nonce) (Wire.read : Reader AccessKeyPermission)
      (Wire.read : Reader AccessKey) := by
  have hpermission : PassesOn [] (Wire.read : Reader AccessKeyPermission) Wire.read := .refl
  have hrow := (hpermission.ahead (β := Unit)).behind nonce rfl
  rw [List.append_nil] at hrow
  exact hrow.map row.ofRow

/-- The fault of the permission of a key that is added. -/
theorem AddKeyAction.passesOn_permission (key : PublicKey) (nonce : UInt64) :
    PassesOn (Wire.write key ++ Wire.write nonce) (Wire.read : Reader AccessKeyPermission)
      (Wire.read : Reader AddKeyAction) :=
  (((AccessKey.passesOn_permission nonce).ahead (β := Unit)).behind key rfl).map row.ofRow

/-- The fault of the permission of a key that an action adds. -/
theorem Action.passesOn_permission (key : PublicKey) (nonce : UInt64) :
    PassesOn (registry.ordinalOf rfl .addKey :: (Wire.write key ++ Wire.write nonce))
      (Wire.read : Reader AccessKeyPermission) (Wire.read : Reader Action) :=
  .tagged rfl readBody .addKey ((AddKeyAction.passesOn_permission key nonce).map Action.addKey)

/-- What a buffer is refused for. Every failure of decoding is a malformed buffer or a byte of the
buffer that its family has no ordinal for; a faulty account name, too, is a malformed buffer. And
the failure of a part is that of the whole: of an action in a transaction that announces more
actions than were read, and of the permission of a key that such an action adds. -/
theorem decode_refused :
    (∀ {sized : Bool} (type : BinaryType sized) (bytes : Bytes) (error : CodecError),
      (Wire.decode bytes : Except CodecError type.Value) = .error error →
        Reported bytes error) ∧
    (∀ (name : String) (fault : AccountId.Fault), ShortText name →
      AccountId.ofText name = .error fault →
        (Wire.decode (Wire.write name) : Except CodecError AccountId) =
          .error (.format (.argument (.account fault)))) ∧
    (∀ t : Transaction, Wire.write t = t.opening t.actions.length) ∧
    (∀ (t : Transaction) (count : Nat), t.Announces count →
      ∀ (bytes : Bytes) (error : CodecError),
        (Wire.read bytes : Except CodecError (Action × Bytes)) = .error error →
          (Wire.decode (t.opening count ++ bytes) : Except CodecError Transaction) =
            .error error ∧
          (Wire.decode (t.opening count ++ bytes) : Except CodecError SignedTransaction) =
            .error error) ∧
    (∀ (key : PublicKey) (nonce : UInt64) (bytes : Bytes) (error : CodecError),
      (Wire.read bytes : Except CodecError (AccessKeyPermission × Bytes)) = .error error →
        (Wire.decode (Wire.write nonce ++ bytes) : Except CodecError AccessKey) = .error error ∧
        (Wire.decode (Wire.write key ++ Wire.write nonce ++ bytes) :
          Except CodecError AddKeyAction) = .error error ∧
        (Wire.decode (5 :: (Wire.write key ++ Wire.write nonce) ++ bytes) :
          Except CodecError Action) = .error error ∧
        ∀ (t : Transaction) (count : Nat), t.Announces count →
          (Wire.decode (Wire.writeCount count ++ t.actions.flatMap Wire.write ++
            5 :: (Wire.write key ++ Wire.write nonce) ++ bytes) :
            Except CodecError (List Action)) = .error error ∧
          (Wire.decode (t.opening count ++ 5 :: (Wire.write key ++ Wire.write nonce) ++ bytes) :
            Except CodecError Transaction) = .error error ∧
          (Wire.decode (t.opening count ++ 5 :: (Wire.write key ++ Wire.write nonce) ++ bytes) :
            Except CodecError SignedTransaction) = .error error) := by
  refine ⟨?_, ?_, Transaction.write_eq_opening, ?_, ?_⟩
  · exact fun type bytes error hdecode => Wire.decode_reported hdecode
  · intro name fault hshort hname
    have hread : Wire.read (Wire.write name) = .ok (name, []) :=
      Wire.read_eq_ok_iff.mpr ⟨Wire.fits_text_iff.mpr hshort, (List.append_nil _).symm⟩
    refine Except.bind_eq_error_iff.mpr (.inl (Except.bind_eq_error_iff.mpr (.inr ⟨_, hread, ?_⟩)))
    simp only [hname]
    rfl
  · intro t count hcount bytes error hread
    have haction := Transaction.passesOn_action hcount PassesOn.refl
    rw [List.append_nil] at haction
    exact ⟨haction.decode_eq_error hread,
      (SignedTransaction.passesOn_transaction haction).decode_eq_error hread⟩
  · intro key nonce bytes error hread
    have haction := Action.passesOn_permission key nonce
    refine ⟨(AccessKey.passesOn_permission nonce).decode_eq_error hread,
      (AddKeyAction.passesOn_permission key nonce).decode_eq_error hread,
      haction.decode_eq_error hread, fun t count hcount => ⟨?_, ?_, ?_⟩⟩
    · exact (Transaction.passesOn_actions hcount haction).decode_eq_error hread
    · exact (Transaction.passesOn_action hcount haction).decode_eq_error hread
    · exact (SignedTransaction.passesOn_transaction
        (Transaction.passesOn_action hcount haction)).decode_eq_error hread

/-- A transaction that announces two actions and has a transfer, followed by what is no action,
and by a key whose permission is none; and a name with an upper case letter. -/
theorem decode_refused_transfer :
    let t : Transaction := ⟨⟨"alice.near", by decide⟩, ⟨.ed25519, .zero 32⟩, 7,
      ⟨"bob.near", by decide⟩, .zero, [.transfer ⟨⟨5, by decide⟩⟩]⟩
    let front : Bytes := 5 :: (Wire.write (⟨.ed25519, .zero 32⟩ : PublicKey) ++
      Wire.write (7 : UInt64))
    Reported [9] (.unknownVariant "Action" "9") ∧
    (Wire.decode (Wire.write "Alice") : Except CodecError AccountId) =
      .error (.format (.argument (.account (.character "Alice" 'A')))) ∧
    (Wire.decode (t.opening 2 ++ [9]) : Except CodecError SignedTransaction) =
      .error (.unknownVariant "Action" "9") ∧
    (Wire.decode (t.opening 2 ++ front ++ [7]) : Except CodecError SignedTransaction) =
      .error (.unknownVariant "AccessKeyPermission" "7") := by
  intro t front
  have hcount : t.Announces 2 := ⟨by simp [t, Action.Short], by decide, by decide⟩
  obtain ⟨hreported, hname, -, haction, hpermission⟩ := decode_refused
  refine ⟨hreported .action [9] _ rfl, hname "Alice" _ (by decide) (by decide), ?_, ?_⟩
  · exact (haction t 2 hcount [9] _ rfl).2
  · exact ((hpermission ⟨.ed25519, .zero 32⟩ 7 [7] _ rfl).2.2.2 t 2 hcount).2.2

end LedgerWire
