import LedgerWire.Proofs.Json.Unordered
import LedgerWire.Proofs.Key.Canonical

/-!
# What diagnostics tell of a secret key

Shown in a diagnostic, every secret key looks the same. A text that is no secret key is refused
with a message, and what the message tells depends on the fault. The number of bytes and the public
half are reported without the data; the name of the curve is reported alone; but for a character
outside the alphabet the whole text is repeated, the data with it.
-/

namespace LedgerWire

/-! ### Texts within messages -/

/-- The text stands in the message as a whole. -/
def Discloses (message text : String) : Prop := text.toList <:+: message.toList

instance (message text : String) : Decidable (Discloses message text) :=
  inferInstanceAs (Decidable (_ <:+: _))

namespace Discloses

variable {message text : String}

/-- A text discloses itself. -/
theorem refl (text : String) : Discloses text text := List.infix_refl _

/-- What a message discloses it discloses behind any words. -/
theorem prepend (front : String) (h : Discloses message text) :
    Discloses (front ++ message) text := by
  rw [Discloses, String.toList_append]
  exact h.trans (List.suffix_append _ _).isInfix

/-- What a message discloses it discloses before any words. -/
theorem append (h : Discloses message text) (back : String) :
    Discloses (message ++ back) text := by
  rw [Discloses, String.toList_append]
  exact h.trans (List.prefix_append _ _).isInfix

/-- What is disclosed is no longer than the message. -/
theorem length_le (h : Discloses message text) : text.length ≤ message.length := by
  have hle := List.IsInfix.length_le h
  rwa [String.length_toList, String.length_toList] at hle

end Discloses

section

variable {α : Type} {part : List α} {c : α}

/-- A part without a character stands before that character or behind it. Otherwise the character
would end up in the part. -/
theorem infix_of_infix_append_cons {front back : List α} (hc : c ∉ part)
    (h : part <:+: front ++ c :: back) : part <:+: front ∨ part <:+: back := by
  obtain ⟨before, after, heq⟩ := h
  rcases List.append_eq_append_iff.mp heq with ⟨rest, hfront, -⟩ | ⟨rest, hfront, hback⟩
  · exact .inl ⟨before, rest, hfront.symm⟩
  · cases rest with
    | nil => exact .inl ⟨before, [], by simpa using hfront⟩
    | cons other rest =>
      obtain ⟨rfl, rfl⟩ := List.cons.inj hback
      rcases List.append_eq_append_iff.mp hfront with ⟨_, -, hpart⟩ | ⟨gap, -, hpart⟩
      · exact absurd (hpart ▸ List.mem_append_right _ List.mem_cons_self) hc
      · cases gap with
        | nil =>
          rw [List.nil_append] at hpart
          exact absurd (hpart ▸ List.mem_cons_self) hc
        | cons first gap =>
          obtain ⟨-, rfl⟩ := List.cons.inj hpart
          exact .inr ⟨gap, after, rfl⟩

/-- A part without a separator stands in one of the pieces between the separators. -/
theorem exists_infix_of_infix_intercalate {pieces : List (List α)} (hc : c ∉ part)
    (hne : part ≠ []) (h : part <:+: [c].intercalate pieces) :
    ∃ piece ∈ pieces, part <:+: piece := by
  induction pieces with
  | nil => exact absurd (List.infix_nil.mp h) hne
  | cons piece pieces ih =>
    cases pieces with
    | nil =>
      rw [List.intercalate_singleton] at h
      exact ⟨piece, List.mem_cons_self, h⟩
    | cons second pieces =>
      rw [List.intercalate_cons_cons, List.append_assoc, List.singleton_append] at h
      rcases infix_of_infix_append_cons hc h with hpiece | hrest
      · exact ⟨piece, List.mem_cons_self, hpiece⟩
      · obtain ⟨found, hmem, hfound⟩ := ih hrest
        exact ⟨found, List.mem_cons_of_mem piece hmem, hfound⟩

end

/-- A text without a mark stands before the mark or behind it. -/
theorem Discloses.split {front mark back text : String} {c : Char} (hmark : mark.toList = [c])
    (hc : c ∉ text.toList) (h : Discloses (front ++ mark ++ back) text) :
    Discloses front text ∨ Discloses back text := by
  rw [Discloses, String.toList_append, String.toList_append, hmark, List.append_assoc] at h
  exact infix_of_infix_append_cons hc h

/-- A message of words that are no longer than a limit does not disclose a longer text without a
space. -/
theorem not_discloses_of_words {message text : String} (words : List String) (limit : Nat)
    (hmessage : message.toList = [' '].intercalate (words.map String.toList))
    (hwords : ∀ word ∈ words, word.length ≤ limit) (hspace : ' ' ∉ text.toList)
    (hlong : limit < text.length) : ¬Discloses message text := by
  intro h
  have hnil : text.toList ≠ [] := by
    rw [← String.length_toList] at hlong
    exact List.ne_nil_of_length_pos (Nat.zero_lt_of_lt hlong)
  rw [Discloses, hmessage] at h
  obtain ⟨piece, hpiece, hinfix⟩ := exists_infix_of_infix_intercalate hspace hnil h
  obtain ⟨word, hword, rfl⟩ := List.mem_map.mp hpiece
  have hle : text.length ≤ word.length := Discloses.length_le hinfix
  have hshort := hwords word hword
  omega

/-! ### What each fault tells -/

/-- Data of characters of the alphabet only, nearly as many as a secret key has or more. -/
structure Base58.IsLong (data : String) : Prop where
  mem_alphabet : ∀ c ∈ data.toList, c ∈ alphabet
  le_length : 80 ≤ data.length

/-- Long data has no character outside the alphabet. -/
theorem Base58.IsLong.notMem {data : String} {c : Char} (h : IsLong data) (hc : c ∉ alphabet) :
    c ∉ data.toList := fun hmem => hc (h.mem_alphabet c hmem)

namespace ArgumentFault

open Base58 (IsLong)

variable {data : String}

/-- The fault of a character repeats the text. -/
theorem discloses_base58 (subject text : String) (fault : Base58.Fault) :
    Discloses (base58 subject text fault).failure text := by
  show Discloses ("invalid argument: " ++
    ("invalid base58 " ++ subject ++ " " ++ ("`" ++ text ++ "`") ++ ": " ++ fault.message)) text
  have hmarked : Discloses ("`" ++ text ++ "`") text :=
    ((Discloses.refl text).prepend "`").append "`"
  exact (((hmarked.prepend _).append ": ").append _).prepend _

/-- The fault of a public half is always told in the same words. -/
theorem not_discloses_keypair (h : IsLong data) : ¬Discloses keypair.failure data := by
  have hlong := h.le_length
  exact not_discloses_of_words ["invalid", "argument:", "invalid", "ed25519", "keypair:",
    "signature", "error:", "Cannot", "decompress", "Edwards", "point"] 10 (by decide +kernel)
    (by decide) (h.notMem (by decide)) (by omega)

/-- The fault of the number of bytes tells the number, which has far fewer digits than the data has
characters. -/
theorem not_discloses_length (h : IsLong data) {found : Nat} (hfound : found ≤ data.length) :
    ¬Discloses (length "secret key" 64 found).failure data := by
  have hlong := h.le_length
  have hspace : ' ' ∉ data.toList := h.notMem (by decide)
  have hmessage : (length "secret key" 64 found).failure =
      "invalid argument: secret key must be 64 bytes, got" ++ " " ++ Decimal.write found := by
    show "invalid argument: " ++ ("secret key" ++ " must be " ++ Decimal.write 64 ++
      " bytes, got " ++ Decimal.write found) = _
    rw [← String.append_assoc]
    rfl
  rw [hmessage]
  intro hdiscloses
  rcases hdiscloses.split (by decide) hspace with hfront | hnumber
  · exact not_discloses_of_words ["invalid", "argument:", "secret", "key", "must", "be", "64",
      "bytes,", "got"] 9 (by decide) (by decide) hspace (by omega) hfront
  · have hle := hnumber.length_le
    have hdigits := Decimal.length_write_le found
    omega

/-- The fault of a name tells the name, and the data only if it stands in the name. -/
theorem discloses_unsupportedCurve_iff (h : IsLong data) (name : String) :
    Discloses (unsupportedCurve name).failure data ↔ Discloses name data := by
  have hlong := h.le_length
  have hmark : '`' ∉ data.toList := h.notMem (by decide)
  have hmessage : (unsupportedCurve name).failure =
      "invalid argument: unsupported key type " ++ "`" ++ (name ++ "`" ++ "") := by
    show "invalid argument: " ++ ("unsupported key type " ++ ("`" ++ name ++ "`")) = _
    simp only [String.append_empty, ← String.append_assoc]
    rfl
  rw [hmessage]
  constructor
  · intro hdiscloses
    rcases hdiscloses.split (by decide) hmark with hfront | hrest
    · refine absurd hfront (not_discloses_of_words ["invalid", "argument:", "unsupported", "key",
        "type", ""] 11 (by decide) (by decide) (h.notMem (by decide)) (by omega))
    · rcases hrest.split (by decide) hmark with hname | hempty
      · exact hname
      · have hle := hempty.length_le
        rw [String.length_empty] at hle
        omega
  · exact fun hname => ((hname.append _).append _).prepend _

end ArgumentFault

/-! ### What a refused key tells -/

namespace SecretKey

open Base58 (IsLong)
open Key (NameSpelled)

variable {text data : String} {name : Option String} {fault : ArgumentFault}

/-- A character outside the alphabet is reported with the whole text. -/
theorem exists_fault_of_foreign (hparts : Key.Parts text name data) (hname : NameSpelled name)
    (hforeign : ∃ c ∈ data.toList, c ∉ Base58.alphabet) :
    ∃ fault, ofText text = .error (.base58 "secret key" text fault) := by
  obtain ⟨c, hc, hother⟩ := hforeign
  cases hdecode : Base58.decode data with
  | ok bytes => exact absurd ((Base58.decode_eq_ok_iff.mp hdecode).mem_alphabet c hc) hother
  | error fault =>
    obtain ⟨before, first, after, hdata, hbefore, hfirst, rfl⟩ :=
      Base58.decode_eq_error_iff.mp hdecode
    refine ⟨Base58.foreign first before.length, ?_⟩
    refine (canonical.ofText_eq_error_iff text _).mpr (.inl ?_)
    exact .data hparts hname (.character hdata hbefore hfirst)

/-- The text of the part behind the name of the curve is disclosed with the whole text. -/
theorem discloses_data (hparts : Key.Parts text name data) {message : String}
    (h : Discloses message text) : Discloses message data := by
  have hdata : Discloses text data := by
    cases hparts with
    | bare => exact .refl text
    | named _ htext =>
      rw [htext]
      exact (Discloses.refl data).prepend _
  exact List.IsInfix.trans hdata h

/-- Data of the alphabet is refused for its number of bytes or for its public half. -/
theorem fault_of_mem_alphabet (hparts : Key.Parts text name data) (hname : NameSpelled name)
    (hdata : ∀ c ∈ data.toList, c ∈ Base58.alphabet) (h : ofText text = .error fault) :
    fault = .keypair ∨
      ∃ bytes, Base58.Spells data bytes ∧ fault = .length "secret key" 64 bytes.length := by
  rcases (canonical.ofText_eq_error_iff text fault).mp h with hrefused | ⟨hkeypair, -⟩
  · cases hrefused with
    | name hparts' hother =>
      obtain ⟨rfl, -⟩ := hparts.unique hparts'
      exact absurd (hname _ rfl) hother
    | data hparts' _ hunfit =>
      obtain ⟨-, rfl⟩ := hparts.unique hparts'
      cases hunfit with
      | character heq _ hc => exact absurd (hdata _ (heq ▸ by simp)) hc
      | length hspells _ => exact .inr ⟨_, hspells, rfl⟩
  · exact .inl hkeypair

/-- A fault of a text whose name is fine and whose data is long does not disclose the data. -/
theorem not_discloses_of_isLong (hparts : Key.Parts text name data) (hname : NameSpelled name)
    (hdata : IsLong data) (h : ofText text = .error fault) : ¬Discloses fault.failure data := by
  rcases fault_of_mem_alphabet hparts hname hdata.mem_alphabet h with rfl | ⟨bytes, hspells, rfl⟩
  · exact ArgumentFault.not_discloses_keypair hdata
  · exact ArgumentFault.not_discloses_length hdata hspells.length_le

/-- Long data is disclosed just when a character outside the alphabet stands in it. -/
theorem discloses_iff (hparts : Key.Parts text name data) (hname : NameSpelled name)
    (hlong : 80 ≤ data.length) (h : ofText text = .error fault) :
    Discloses fault.failure data ↔ ∃ c ∈ data.toList, c ∉ Base58.alphabet := by
  constructor
  · intro hdiscloses
    by_contra hnone
    have hdata : IsLong data := ⟨fun c hc => not_not.mp fun hother => hnone ⟨c, hc, hother⟩, hlong⟩
    exact not_discloses_of_isLong hparts hname hdata h hdiscloses
  · intro hforeign
    obtain ⟨other, hother⟩ := exists_fault_of_foreign hparts hname hforeign
    cases h.symm.trans hother
    exact discloses_data hparts (ArgumentFault.discloses_base58 ..)

/-- A name that is not that of the curve is refused whatever the data is. -/
theorem ofText_of_unsupported {name : String} (hparts : Key.Parts text (some name) data)
    (hname : ¬Curve.Spelled name) : ofText text = .error (.unsupportedCurve name) :=
  (canonical.ofText_eq_error_iff text _).mpr (.inl (.name hparts hname))

/-- What a text is refused with, the schema refuses it with. -/
theorem schema_read_refused (h : ofText text = .error fault) :
    schema.read (.string text) = .error (.refused fault.failure) := by
  rw [canonical.schema_read_string, h]
  rfl

/-- Every secret key is shown alike. -/
theorem shown_eq (key : SecretKey) : schema.shown key = .atom "SecretKey(ed25519:<redacted>)" := by
  obtain ⟨curve, data⟩ := key
  rw [curve.eq_ed25519]
  rfl

end SecretKey

/-! ### What a refused signer tells -/

namespace SignerConfig

variable {text : String} {fault : ArgumentFault}

/-- A signer whose other members are fine is refused in the words of its key. -/
theorem schema_read_badKey {members : List (String × Json)} (hdistinct : Json.Distinct members)
    (hadmits : fields.Admits true members)
    (haccount : ∀ value, members.lookup "account_id" = some value →
      ∃ id, AccountId.schema.read value = .ok id)
    (hkey : members.lookup "secret_key" = some (.string text))
    (h : SecretKey.ofText text = .error fault) :
    schema.read (.object members) = .error (.refused fault.failure) := by
  have hcheck : fields.checkMembers true members = .error (.refused fault.failure) := by
    refine Fields.checkMembers_eq_error_of_one hkey ?_ fun ⟨name, value⟩ hmember hname => ?_
    · rw [fields, Fields.checkMember, if_neg (by decide), Fields.checkMember, if_pos rfl,
        SecretKey.schema_read_refused h, Except.map_error]
    · have hdeclared : name ∈ fields.names := hadmits rfl name (List.mem_map_of_mem hmember)
      have hown : name = "account_id" := by
        simpa [fields, Fields.names, hname] using hdeclared
      subst hown
      obtain ⟨id, hread⟩ := haccount value (hdistinct.lookup_eq_some_iff.mpr hmember)
      rw [fields, Fields.checkMember, if_pos rfl, hread, Except.map_ok]
  show (fields.checkMembers true members >>= _) = _
  rw [hcheck, Except.error_bind]

/-- So is a signer that is read by position. -/
theorem schema_read_badKey_item {first : Json} {rest : List Json} {id : AccountId}
    (haccount : AccountId.schema.read first = .ok id) (h : SecretKey.ofText text = .error fault) :
    schema.read (.array (first :: .string text :: rest)) = .error (.refused fault.failure) := by
  show (fields.fillFrom _ 0 _ >>= _) = _
  rw [fields, Fields.fillFrom_field, Fields.readItem, haccount, Except.map_ok, Except.ok_bind,
    Fields.fillFrom_field, Fields.readItem, SecretKey.schema_read_refused h]
  rfl

/-- Two signers that differ in the key are shown alike. -/
theorem shown_eq (id : AccountId) (key other : SecretKey) :
    schema.shown ⟨id, key⟩ = schema.shown ⟨id, other⟩ := by
  show Shown.record "SignerConfig" [("account_id", AccountId.schema.shown id),
    ("secret_key", SecretKey.schema.shown key)] = .record "SignerConfig"
      [("account_id", AccountId.schema.shown id), ("secret_key", SecretKey.schema.shown other)]
  rw [SecretKey.shown_eq, SecretKey.shown_eq]

end SignerConfig

/-- Two configurations that differ in the key of the signer are shown alike. -/
theorem ClientConfig.shown_eq (rpc : RpcConfig) (id : AccountId) (key other : SecretKey) :
    schema.shown ⟨rpc, some ⟨id, key⟩⟩ = schema.shown ⟨rpc, some ⟨id, other⟩⟩ := by
  show Shown.record "ClientConfig" [("rpc", RpcConfig.schema.shown rpc),
    ("signer", .option (some (SignerConfig.schema.shown ⟨id, key⟩)))] = .record "ClientConfig"
      [("rpc", RpcConfig.schema.shown rpc),
        ("signer", .option (some (SignerConfig.schema.shown ⟨id, other⟩)))]
  rw [SignerConfig.shown_eq id key other]

/-! ### Diagnostics of secret keys -/

namespace SecretKey

open Base58 (IsLong)
open Key (NameSpelled)

/-- What the message of a refused text tells of its data goes by the fault. A character outside the
alphabet is reported with the whole text, and nothing else discloses long data that stands alone or
behind the name of the curve. Another name is reported by itself, so it discloses long data of the
alphabet only if that stands in the name. In JSON a key is refused in the same words, and a signer
in those of its key. Accepted keys are shown alike, also within configurations. -/
theorem diagnostics_disclose (text : String) :
    (∀ name data, Key.Parts text name data → NameSpelled name →
      (∃ c ∈ data.toList, c ∉ Base58.alphabet) →
        ∃ fault, ofText text = .error fault ∧ Discloses fault.failure text) ∧
    (∀ name data fault, Key.Parts text name data → NameSpelled name → 80 ≤ data.length →
      ofText text = .error fault →
        (Discloses fault.failure data ↔ ∃ c ∈ data.toList, c ∉ Base58.alphabet)) ∧
    (∀ name data, Key.Parts text (some name) data → ¬Curve.Spelled name →
      ofText text = .error (.unsupportedCurve name) ∧ (IsLong data →
        (Discloses (ArgumentFault.unsupportedCurve name).failure data ↔ Discloses name data))) ∧
    (∀ fault, ofText text = .error fault →
      schema.read (.string text) = .error (.refused fault.failure) ∧
      (∀ members, Json.Distinct members → SignerConfig.fields.Admits true members →
        (∀ value, members.lookup "account_id" = some value →
          ∃ id, AccountId.schema.read value = .ok id) →
        members.lookup "secret_key" = some (.string text) →
          SignerConfig.schema.read (.object members) = .error (.refused fault.failure)) ∧
      ∀ first rest id, AccountId.schema.read first = .ok id →
        SignerConfig.schema.read (.array (first :: .string text :: rest)) =
          .error (.refused fault.failure)) ∧
    (∀ key, schema.shown key = .atom "SecretKey(ed25519:<redacted>)") ∧
    (∀ id key other, SignerConfig.schema.shown ⟨id, key⟩ = SignerConfig.schema.shown ⟨id, other⟩) ∧
    ∀ rpc id key other, ClientConfig.schema.shown ⟨rpc, some ⟨id, key⟩⟩ =
      ClientConfig.schema.shown ⟨rpc, some ⟨id, other⟩⟩ := by
  refine ⟨?_, fun name data fault hparts hname hlong h => discloses_iff hparts hname hlong h,
    fun name data hparts hname => ⟨ofText_of_unsupported hparts hname, fun hdata =>
      ArgumentFault.discloses_unsupportedCurve_iff hdata name⟩,
    fun fault h => ⟨schema_read_refused h, ?_, ?_⟩, shown_eq, SignerConfig.shown_eq,
    ClientConfig.shown_eq⟩
  · intro name data hparts hname hforeign
    obtain ⟨fault, h⟩ := exists_fault_of_foreign hparts hname hforeign
    exact ⟨_, h, ArgumentFault.discloses_base58 ..⟩
  · exact fun members hdistinct hadmits haccount hkey =>
      SignerConfig.schema_read_badKey hdistinct hadmits haccount hkey h
  · exact fun first rest id haccount => SignerConfig.schema_read_badKey_item haccount h

/-- The data of a secret key whose last character was mistyped. -/
def mistyped : String :=
  "49W385L4rePHy6PAaQUovbD2aacgN4HsKXSMeUzRg4fmwXszN91JuMFrQRj3vMDpZuRF3ZknQBuRBoWQJEfXstM0"

/-- The mistyped text has a name and the mistyped data. -/
theorem mistyped_parts : Key.Parts ("ed25519:" ++ mistyped) (some "ed25519") mistyped :=
  .named (by decide) rfl

/-- The name in the mistyped text is spelled right. -/
theorem mistyped_name : NameSpelled (some "ed25519") := by
  intro name hname
  cases hname
  exact Curve.ofName_eq_ok_iff.mp (show Curve.ofName "ed25519" = .ok .ed25519 by decide)

/-- The mistyped data has a character outside the alphabet. -/
theorem mistyped_foreign : ∃ c ∈ mistyped.toList, c ∉ Base58.alphabet :=
  ⟨'0', by decide +kernel, by decide⟩

/-- A key with a mistyped character, by itself and in a signer, one that is too long, and one under
the name of another curve. -/
theorem diagnostics_disclose_mistyped :
    let ones : String := String.ofList (List.replicate 80 '1')
    let members : List (String × Json) :=
      [("secret_key", .string ("ed25519:" ++ mistyped)), ("account_id", .string "bob.near")]
    (∃ fault, ofText ("ed25519:" ++ mistyped) = .error fault ∧ Discloses fault.failure mistyped ∧
      SignerConfig.schema.read (.object members) = .error (.refused fault.failure) ∧
      SignerConfig.schema.read (.array [.string "bob.near", .string ("ed25519:" ++ mistyped)]) =
        .error (.refused fault.failure)) ∧
      ¬Discloses (ArgumentFault.length "secret key" 64 80).failure ones ∧
      ofText ("secp256k1:" ++ ones) = .error (.unsupportedCurve "secp256k1") ∧
      ¬Discloses (ArgumentFault.unsupportedCurve "secp256k1").failure ones := by
  intro ones members
  have hchars : ones.toList = List.replicate 80 '1' := String.toList_ofList
  have hmem : ∀ c ∈ ones.toList, c = '1' := fun c hc => List.eq_of_mem_replicate (hchars ▸ hc)
  have hin : ∀ c ∈ ones.toList, c ∈ Base58.alphabet := fun c hc => hmem c hc ▸ by decide
  have hlength : ones.length = 80 := by
    rw [← String.length_toList, hchars, List.length_replicate]
  have hadmits : SignerConfig.fields.Admits true members := fun _ => by decide
  have haccount : AccountId.schema.read (.string "bob.near") = .ok ⟨"bob.near", by decide⟩ := rfl
  refine ⟨?_, ?_, ?_⟩
  · obtain ⟨hforeign, hlong, -, hread, -⟩ := diagnostics_disclose ("ed25519:" ++ mistyped)
    obtain ⟨fault, hfault, -⟩ := hforeign _ _ mistyped_parts mistyped_name mistyped_foreign
    obtain ⟨-, hsigner, hitem⟩ := hread _ hfault
    refine ⟨fault, hfault, ?_, ?_, hitem _ _ _ haccount⟩
    · exact (hlong _ _ _ mistyped_parts mistyped_name (by decide +kernel) hfault).mpr
        mistyped_foreign
    · refine hsigner members (by decide) hadmits (fun value hvalue => ?_) rfl
      cases hvalue
      exact ⟨_, haccount⟩
  · obtain ⟨-, hlong, -⟩ := diagnostics_disclose ones
    have hbare : Key.Parts ones none ones := .bare fun hc => absurd (hmem _ hc) (by decide)
    have hnone : NameSpelled none := fun _ h => by cases h
    rw [hlong _ _ _ hbare hnone (by omega) (by decide +kernel)]
    exact fun ⟨c, hc, hother⟩ => hother (hin c hc)
  · obtain ⟨-, -, hname, -⟩ := diagnostics_disclose ("secp256k1:" ++ ones)
    have hparts : Key.Parts ("secp256k1:" ++ ones) (some "secp256k1") ones :=
      .named (by decide) rfl
    have hcurve : ¬Curve.Spelled "secp256k1" := by
      rw [← @Curve.ofName_eq_ok_iff _ .ed25519]
      decide
    obtain ⟨hrefused, htells⟩ := hname _ _ hparts hcurve
    refine ⟨hrefused, ?_⟩
    rw [htells ⟨hin, by omega⟩]
    exact fun h => absurd h.length_le (by rw [hlength]; decide)

/-- The message about a key with a mistyped last character repeats the key. -/
theorem mistyped_disclosed :
    80 ≤ mistyped.length ∧ ∃ fault, ofText ("ed25519:" ++ mistyped) = .error fault ∧
      Discloses fault.failure mistyped := by
  refine ⟨by decide +kernel, ?_⟩
  obtain ⟨fault, hfault⟩ := exists_fault_of_foreign mistyped_parts mistyped_name mistyped_foreign
  exact ⟨_, hfault, discloses_data mistyped_parts (ArgumentFault.discloses_base58 ..)⟩

end SecretKey

end LedgerWire
