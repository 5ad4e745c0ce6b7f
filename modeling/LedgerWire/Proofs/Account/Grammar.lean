import LedgerWire.CommandLine.Invocation
import LedgerWire.Config.Yaml
import LedgerWire.Proofs.Json.Inside
import LedgerWire.Proofs.Wire.Canonical

/-!
# The grammar of account names

An account name consists of runs of lower-case letters and digits that are joined by single
separators, and has two to 64 bytes. The scan for a fault remembers only whether a separator may
come next: what it passes at the start and after a separator is a name, and what it passes within a
run is what may stand there. Every way in which a text becomes an account name lets the same texts
pass, and the name is the text as it was.
-/

namespace LedgerWire

namespace AccountId

/-! ### The grammar -/

/-- A lower-case letter or a digit. -/
def IsAlphanumeric (c : Char) : Prop := ('a' ≤ c ∧ c ≤ 'z') ∨ ('0' ≤ c ∧ c ≤ '9')

instance : DecidablePred IsAlphanumeric := fun _ => inferInstanceAs (Decidable (_ ∨ _))

/-- The characters between two runs. -/
def separators : List Char := ['.', '-', '_']

/-- One or more letters and digits. -/
structure IsRun (run : List Char) : Prop where
  ne_nil : run ≠ []
  alphanumeric : ∀ c ∈ run, IsAlphanumeric c

/-- One or more runs, joined by single separators. -/
inductive Joined : List Char → Prop where
  | run {run : List Char} (hrun : IsRun run) : Joined run
  | join {run rest : List Char} {separator : Char} (hrun : IsRun run)
      (hseparator : separator ∈ separators) (hrest : Joined rest) :
      Joined (run ++ separator :: rest)

/-- The grammar of account names. Their length counts bytes. -/
structure Grammatical (name : String) : Prop where
  two_le : 2 ≤ name.utf8ByteSize
  le_sixtyFour : name.utf8ByteSize ≤ 64
  joined : Joined name.toList

/-! ### The scan -/

/-- What may stand behind a character of a run. -/
inductive Continues : List Char → Prop where
  | nil : Continues []
  | within {c : Char} {rest : List Char} (hc : IsAlphanumeric c) (hrest : Continues rest) :
      Continues (c :: rest)
  | next {separator : Char} {rest : List Char} (hseparator : separator ∈ separators)
      (hrest : Joined rest) : Continues (separator :: rest)

/-- The test for letters and digits accepts just these. -/
theorem isPlain_iff {c : Char} : isPlain c = true ↔ IsAlphanumeric c := by
  simp [isPlain, IsAlphanumeric]

/-- The test for separators accepts just these. -/
theorem isSeparator_iff {c : Char} : isSeparator c = true ↔ c ∈ separators := by
  simp [isSeparator, separators, or_assoc]

/-- No character is of both kinds, so the order of the two tests does not matter. -/
theorem not_alphanumeric_of_separator {c : Char} (h : c ∈ separators) : ¬IsAlphanumeric c := by
  have hcases : c = '.' ∨ c = '-' ∨ c = '_' := by simpa [separators] using h
  rcases hcases with rfl | rfl | rfl <;> decide

/-- What may follow letters and digits may follow more of them. -/
theorem Continues.append {run tail : List Char} (hrun : ∀ c ∈ run, IsAlphanumeric c)
    (htail : Continues tail) : Continues (run ++ tail) := by
  induction run with
  | nil => exact htail
  | cons c run ih =>
    exact .within (hrun c List.mem_cons_self) (ih fun d hd => hrun d (List.mem_cons_of_mem c hd))

/-- A letter or digit in front of a name makes its first run longer. -/
theorem Joined.cons {c : Char} {chars : List Char} (hc : IsAlphanumeric c) (h : Joined chars) :
    Joined (c :: chars) := by
  have hlonger {run : List Char} (hrun : IsRun run) : IsRun (c :: run) :=
    ⟨List.cons_ne_nil c run, List.forall_mem_cons.mpr ⟨hc, hrun.alphanumeric⟩⟩
  cases h with
  | run hrun => exact .run (hlonger hrun)
  | join hrun hseparator hrest => exact .join (hlonger hrun) hseparator hrest

/-- A name opens with a run, behind which it ends or goes on. -/
theorem Joined.exists_run {chars : List Char} (h : Joined chars) :
    ∃ run tail, IsRun run ∧ Continues tail ∧ chars = run ++ tail := by
  cases h with
  | run hrun => exact ⟨_, [], hrun, .nil, (List.append_nil _).symm⟩
  | join hrun hseparator hrest => exact ⟨_, _, hrun, .next hseparator hrest, rfl⟩

/-- No name is empty. -/
theorem not_joined_nil : ¬Joined [] := by
  intro h
  obtain ⟨run, tail, hrun, -, heq⟩ := h.exists_run
  exact hrun.ne_nil (List.append_eq_nil_iff.mp heq.symm).1

/-- A name begins with a letter or a digit, and the rest may follow it. -/
theorem joined_cons_iff {c : Char} {rest : List Char} :
    Joined (c :: rest) ↔ IsAlphanumeric c ∧ Continues rest := by
  constructor
  · intro h
    obtain ⟨run, tail, hrun, htail, heq⟩ := h.exists_run
    obtain ⟨first, run, rfl⟩ := List.exists_cons_of_ne_nil hrun.ne_nil
    obtain ⟨rfl, rfl⟩ := List.cons.inj heq
    obtain ⟨hc, hrest⟩ := List.forall_mem_cons.mp hrun.alphanumeric
    exact ⟨hc, htail.append hrest⟩
  · rintro ⟨hc, hrest⟩
    have hone : IsRun [c] := ⟨List.cons_ne_nil c [], List.forall_mem_singleton.mpr hc⟩
    induction hrest generalizing c with
    | nil => exact .run hone
    | within hd _ ih =>
      exact (ih hd ⟨List.cons_ne_nil _ [], List.forall_mem_singleton.mpr hd⟩).cons hc
    | next hseparator hrest => exact .join hone hseparator hrest

/-- What follows is more of the run, or a separator and another name. -/
theorem continues_cons_iff {c : Char} {rest : List Char} :
    Continues (c :: rest) ↔
      (IsAlphanumeric c ∧ Continues rest) ∨ (c ∈ separators ∧ Joined rest) := by
  constructor
  · intro h
    cases h with
    | within hc hrest => exact .inl ⟨hc, hrest⟩
    | next hseparator hrest => exact .inr ⟨hseparator, hrest⟩
  · rintro (⟨hc, hrest⟩ | ⟨hseparator, hrest⟩)
    · exact .within hc hrest
    · exact .next hseparator hrest

/-- From each of its two states the scan passes what may stand there. No character is of both kinds,
so the order of the two tests does not matter. -/
theorem faultAfter_eq_none_iff (name : String) (chars : List Char) :
    (faultAfter name true chars = none ↔ Joined chars) ∧
      (faultAfter name false chars = none ↔ Continues chars) := by
  induction chars with
  | nil => exact ⟨iff_of_false (fun h => by cases h) not_joined_nil, iff_of_true rfl .nil⟩
  | cons c rest ih =>
    rw [joined_cons_iff, continues_cons_iff, ← isPlain_iff, ← isSeparator_iff]
    by_cases hplain : isPlain c = true
    · have hother : isSeparator c = false := by
        rw [← Bool.not_eq_true, isSeparator_iff]
        exact fun hseparator => not_alphanumeric_of_separator hseparator (isPlain_iff.mp hplain)
      simp only [faultAfter, hplain, hother, if_true, ih, true_and, Bool.false_eq_true, false_and,
        or_false, and_self]
    · cases hseparator : isSeparator c with
      | true => simp [faultAfter, hplain, hseparator, ih]
      | false => simp [faultAfter, hplain, hseparator]

/-- Nothing is wrong with a name exactly when it has the grammar. -/
theorem fault?_eq_none_iff {name : String} : fault? name = none ↔ Grammatical name := by
  simp only [fault?, Utf8.length_encode, minLength, maxLength]
  constructor
  · intro h
    split at h
    · cases h
    · rename_i hlength
      exact ⟨by omega, by omega, (faultAfter_eq_none_iff name name.toList).1.mp h⟩
  · rintro ⟨htwo, hmost, hjoined⟩
    rw [if_neg (by omega)]
    exact (faultAfter_eq_none_iff name name.toList).1.mpr hjoined

instance : DecidablePred Grammatical := fun _ => decidable_of_iff _ fault?_eq_none_iff

/-! ### The entries -/

/-- Every account name has the grammar. -/
theorem grammatical (id : AccountId) : Grammatical id.text :=
  fault?_eq_none_iff.mp id.fault?_text

/-- A text enters as the name with that text exactly when it has the grammar, and is otherwise
refused for its first fault. -/
structure Enters {ε : Type} (name : String) (refusal : Fault → ε) (result : Except ε AccountId) :
    Prop where
  ok_iff (id : AccountId) : result = .ok id ↔ Grammatical name ∧ id.text = name
  error_iff (error : ε) :
    result = .error error ↔ ∃ fault, fault? name = some fault ∧ error = refusal fault

/-- The names that are read are the grammatical ones, and they are kept as they are. -/
theorem ofText_eq_ok_iff_grammatical {name : String} {id : AccountId} :
    ofText name = .ok id ↔ Grammatical name ∧ id.text = name := by
  rw [ofText_eq_ok_iff]
  constructor
  · rintro rfl
    exact ⟨id.grammatical, rfl⟩
  · rintro ⟨-, rfl⟩
    rfl

/-- A name is refused with its fault. -/
theorem ofText_eq_error_iff {name : String} {fault : Fault} :
    ofText name = .error fault ↔ fault? name = some fault := by
  unfold ofText
  split
  · rename_i hnone
    simp [hnone]
  · rename_i found hfound
    simp [hfound]

/-- A text is refused for its first fault, in the words of the entry. -/
theorem mapError_ofText_eq_error_iff {ε : Type} {name : String} {wording : Fault → ε} {error : ε} :
    (ofText name).mapError wording = .error error ↔
      ∃ fault, fault? name = some fault ∧ error = wording fault := by
  simp only [Except.mapError_eq_error_iff, ofText_eq_error_iff]
  exact exists_congr fun fault => and_congr_right fun _ => eq_comm

/-- An entry that reads a text as a name and words the fault in its own way. -/
theorem enters_mapError {ε : Type} (name : String) (wording : Fault → ε) :
    Enters name wording ((ofText name).mapError wording) where
  ok_iff id := by rw [Except.mapError_eq_ok_iff, ofText_eq_ok_iff_grammatical]
  error_iff error := mapError_ofText_eq_error_iff

/-- A name in a buffer is read as a text, which then enters. -/
theorem read_write_text {name : String} (hshort : ShortText name) (rest : Bytes) :
    (Wire.read (Wire.write name ++ rest) : Except CodecError (AccountId × Bytes)) =
      ((ofText name).mapError fun fault => .format (.argument (.account fault))).map
        fun id => (id, rest) := by
  have hread : Wire.read (Wire.write name ++ rest) = .ok (name, rest) :=
    Wire.read_eq_ok_iff.mpr ⟨Wire.fits_text_iff.mpr hshort, rfl⟩
  show (Wire.read (Wire.write name ++ rest) >>= fun front : String × Bytes => _) = _
  rw [hread, Except.ok_bind]
  dsimp only
  cases ofText name <;> rfl

/-- A text that is encoded and decoded as a name enters. -/
theorem decode_encode_text {name : String} {bytes : Bytes} (hbytes : Wire.encode name = .ok bytes) :
    Wire.decode bytes =
      (ofText name).mapError fun fault => CodecError.format (.argument (.account fault)) := by
  obtain ⟨hfits, rfl⟩ := Wire.encode_eq_ok_iff.mp hbytes
  have hread := read_write_text (Wire.fits_text_iff.mp hfits) []
  rw [List.append_nil] at hread
  rw [Wire.decode, hread]
  cases ofText name <;> rfl

/-- In JSON, only a text with the grammar is read as a name. -/
theorem eq_string_of_schema_read {value : Json} {id : AccountId}
    (h : schema.read value = .ok id) : ∃ name, value = .string name ∧ Grammatical name := by
  cases value with
  | string name =>
    have hread : schema.read (.string name) = _ := Schema.ofText_read_string name
    rw [hread, Except.mapError_eq_ok_iff, ofText_eq_ok_iff_grammatical] at h
    exact ⟨name, rfl, h.1⟩
  | _ => cases h

/-- The command line accepts the grammatical names and no others. -/
theorem checkAccount_eq_none_iff {name : String} :
    CommandLine.checkAccount name = none ↔ Grammatical name := by
  rw [CommandLine.checkAccount, ← fault?_eq_none_iff]
  cases hname : ofText name with
  | ok id =>
    exact iff_of_true rfl (fault?_eq_none_iff.mpr (ofText_eq_ok_iff_grammatical.mp hname).1)
  | error fault =>
    rw [ofText_eq_error_iff.mp hname]
    exact iff_of_false (fun h => by cases h) fun h => by cases h

end AccountId

/-- A node of a configuration file that gives a signer by these texts. -/
structure SignerConfig.GivenBy (name key : String) (node : Yaml.Node) : Prop where
  exists_fields : ∃ fields, node.fields? SignerConfig.fields.names = some fields ∧
    Yaml.Node.field? Yaml.Node.text? none "account_id" fields = some name ∧
    Yaml.Node.field? Yaml.Node.text? none "secret_key" fields = some key

/-- A signer in YAML is read just when its name and its key are. -/
theorem SignerConfig.ofNode?_eq_some_iff {name key : String} {node : Yaml.Node}
    (h : GivenBy name key node) {config : SignerConfig} :
    ofNode? node = some config ↔
      AccountId.ofText name = .ok config.accountId ∧
        SecretKey.ofText key = .ok config.secretKey := by
  obtain ⟨fields, hfields, hname, hkey⟩ := h.exists_fields
  obtain ⟨accountId, secretKey⟩ := config
  simp only [ofNode?, hfields, hname, hkey, Option.bind_eq_bind, Option.bind_some]
  cases AccountId.ofText name <;> cases SecretKey.ofText key <;>
    simp [Except.toOption]

namespace AccountId

open Json (ReadError ReadsInside ReadsPart)

/-- The texts of the grammar are the account names, whichever way they come in: as a text, in JSON,
in a buffer, on the command line or in a configuration file. Each entry refuses every other text for
its first fault, in the same words. So wherever a value holds a name, what is read there is a text
of the grammar, and a value that has been encoded is decoded as it was. -/
theorem enters_grammatical :
    (∀ name : String,
      (fault? name = none ↔ Grammatical name) ∧
      Enters name (fun fault => CodecError.argument (.account fault))
        ((ofText name).mapError fun fault => .argument (.account fault)) ∧
      Enters name (fun fault => ReadError.refused (CodecError.argument (.account fault)).message)
        (schema.read (.string name)) ∧
      (CommandLine.checkAccount name = none ↔ Grammatical name) ∧
      (∀ bytes, Wire.encode name = .ok bytes →
        Enters name (fun fault => CodecError.format (.argument (.account fault)))
          (Wire.decode bytes)) ∧
      (∀ key node, SignerConfig.GivenBy name key node → ∀ config : SignerConfig,
        SignerConfig.ofNode? node = some config ↔
          (Grammatical name ∧ config.accountId.text = name) ∧
            SecretKey.ofText key = .ok config.secretKey)) ∧
    (∀ fault : Fault, (FormatFault.argument (.account fault)).message =
      (CodecError.argument (.account fault)).message) ∧
    (∀ (ε α : Type) (root : Json → Except ε α) (put : Json → Json),
      ReadsInside root schema.read put → ∀ (part : Json) (value : α), part ≠ .null →
        root (put part) = .ok value → ∃ name, part = .string name ∧ Grammatical name) ∧
    (∀ id : AccountId, Grammatical id.text) ∧
    (∀ {sized : Bool} (type : BinaryType sized) (value : type.Value) (bytes : Bytes),
      Wire.encode value = .ok bytes → Wire.decode bytes = .ok value) := by
  refine ⟨fun name => ⟨fault?_eq_none_iff, ?_, ?_, checkAccount_eq_none_iff, ?_, ?_⟩, fun _ => rfl,
    ?_, grammatical, ?_⟩
  · exact enters_mapError name _
  · have hread : schema.read (.string name) = _ := Schema.ofText_read_string name
    rw [hread]
    exact enters_mapError name _
  · intro bytes hbytes
    rw [decode_encode_text hbytes]
    exact enters_mapError name _
  · intro key node hgiven config
    rw [SignerConfig.ofNode?_eq_some_iff hgiven, AccountId.ofText_eq_ok_iff_grammatical]
  · intro ε α root put hinside part value hpart hroot
    cases hread : schema.read part with
    | ok id => exact eq_string_of_schema_read hread
    | error error =>
      obtain ⟨failure, hfailure⟩ := hinside.depends.refused hpart ⟨error, hread⟩
      rw [hroot] at hfailure
      cases hfailure
  · exact fun type value bytes hencode => Wire.decode_eq_ok_iff_encode.mpr hencode

/-- A name at each entry: a buffer, a configuration file, and the report of a missing account, in
which the name lies three objects deep. -/
theorem enters_grammatical_bob :
    let key : SecretKey :=
      ⟨.ed25519, ⟨List.replicate 32 0 ++ 0x58 :: List.replicate 31 0x66, rfl⟩⟩
    let scalar (text : String) : Yaml.Node := .scalar text true none
    let node : Yaml.Node := .mapping [(scalar "account_id", scalar "bob.near"),
      (scalar "secret_key", scalar key.text)]
    let report (part : Json) : Json := .object [("ActionError", .object [("index", .null),
      ("kind", .object [("AccountDoesNotExist", .object [("account_id", part)])])])]
    let error : TxExecutionError :=
      .actionError ⟨none, .accountDoesNotExist ⟨⟨"bob.near", by decide⟩⟩⟩
    (Wire.encode "bob.near" = .ok (8 :: 0 :: 0 :: 0 :: Utf8.encode "bob.near") ∧
      Wire.decode (8 :: 0 :: 0 :: 0 :: Utf8.encode "bob.near") =
        .ok (⟨"bob.near", by decide⟩ : AccountId)) ∧
    (SignerConfig.GivenBy "bob.near" key.text node ∧
      SignerConfig.ofNode? node = some ⟨⟨"bob.near", by decide⟩, key⟩) ∧
    (TxExecutionError.union.decode (report (.string "bob.near")) = .ok error ∧
      Grammatical "bob.near") ∧
    Wire.decode [8, 0, 0, 0, 98, 111, 98, 46, 110, 101, 97, 114] =
      .ok (⟨"bob.near", by decide⟩ : AccountId) := by
  intro key scalar node report error
  obtain ⟨hentry, -, hinside, -, hencoded⟩ := enters_grammatical
  obtain ⟨-, -, -, -, hbuffer, hfile⟩ := hentry "bob.near"
  have hbytes : Wire.encode "bob.near" = .ok (8 :: 0 :: 0 :: 0 :: Utf8.encode "bob.near") := rfl
  have hgiven : SignerConfig.GivenBy "bob.near" key.text node := ⟨⟨_, rfl, rfl, rfl⟩⟩
  have hkey : SecretKey.ofText key.text = .ok key := SecretKey.ofText_text (by decide +kernel)
  have hdistinct : Json.Distinct ([] ++ ("account_id", .null) :: []) := by decide
  have hplace : ReadsInside TxExecutionError.union.decode schema.read report :=
    .deeper (.payload TxExecutionError.union TxExecutionError.Tag.actionError) <|
      .deeper (.nested TxExecutionError.Tag.actionError ActionError.decode
        TxExecutionError.actionError) <|
      .deeper (@ReadsPart.kind [("index", .null)] [] (by decide)) <|
      .deeper (.payload ActionErrorKind.union ActionErrorKind.Tag.accountDoesNotExist) <|
      .deeper (.structured ActionErrorKind.Tag.accountDoesNotExist AccountContext.schema
        ActionErrorKind.accountDoesNotExist) <|
      .deeper (.member (by decide) (.first ..) hdistinct) (.here _)
  have hreport : TxExecutionError.union.decode (report (.string "bob.near")) = .ok error := rfl
  refine ⟨⟨hbytes, ?_⟩, ⟨hgiven, ?_⟩, ⟨hreport, ?_⟩, ?_⟩
  · exact ((hbuffer _ hbytes).ok_iff _).mpr ⟨by decide, rfl⟩
  · exact (hfile key.text node hgiven _).mpr ⟨⟨by decide, rfl⟩, hkey⟩
  · obtain ⟨name, hname, hgrammar⟩ := hinside _ _ _ report hplace (.string "bob.near") error
      Json.noConfusion hreport
    cases hname
    exact hgrammar
  · exact hencoded .accountId ⟨"bob.near", by decide⟩ _ rfl

end AccountId

end LedgerWire
