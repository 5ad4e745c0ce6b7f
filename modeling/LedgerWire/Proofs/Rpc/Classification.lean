import LedgerWire.Proofs.Except
import LedgerWire.Proofs.Json.Schema
import LedgerWire.Rpc.Envelope

/-!
# Which envelope gives which failure

The documented category and cause of each failure are listed here once more, failure by failure,
and what it takes for its details to be there is said by their names on the wire. Reading an
envelope gives a typed failure exactly when the envelope names the documented pair and the place
where details are looked for holds the details of the failure.
-/

namespace LedgerWire

namespace Json

/-- A value is a text just when it is the string of it. -/
theorem string?_eq_some_iff {value : Json} {text : String} :
    value.string? = some text ↔ value = .string text := by
  cases value <;> simp [string?]

/-- Only objects have members. -/
theorem get?_eq_some_iff {value member : Json} {name : String} :
    value.get? name = some member ↔
      ∃ members, value = .object members ∧ members.lookup name = some member := by
  cases value <;> simp [get?]

end Json

namespace RpcFailure

/-! ### What is documented -/

/-- The category and the cause of a failure. A bare text has none, and neither has a report that
was not understood. -/
def documented : RpcFailure → Option (String × String)
  | .unknownBlock => some ("HANDLER_ERROR", "UNKNOWN_BLOCK")
  | .unknownChunk _ => some ("HANDLER_ERROR", "UNKNOWN_CHUNK")
  | .unknownEpoch => some ("HANDLER_ERROR", "UNKNOWN_EPOCH")
  | .invalidShardId _ => some ("HANDLER_ERROR", "INVALID_SHARD_ID")
  | .unavailableShard _ => some ("HANDLER_ERROR", "UNAVAILABLE_SHARD")
  | .noSyncedBlocks => some ("HANDLER_ERROR", "NO_SYNCED_BLOCKS")
  | .notSyncedYet => some ("HANDLER_ERROR", "NOT_SYNCED_YET")
  | .garbageCollectedBlock _ _ => some ("HANDLER_ERROR", "GARBAGE_COLLECTED_BLOCK")
  | .invalidAccount _ _ _ => some ("HANDLER_ERROR", "INVALID_ACCOUNT")
  | .unknownAccount _ _ _ => some ("HANDLER_ERROR", "UNKNOWN_ACCOUNT")
  | .noContractCode _ _ _ => some ("HANDLER_ERROR", "NO_CONTRACT_CODE")
  | .tooLargeContractState _ _ _ => some ("HANDLER_ERROR", "TOO_LARGE_CONTRACT_STATE")
  | .unknownAccessKey _ _ _ => some ("HANDLER_ERROR", "UNKNOWN_ACCESS_KEY")
  | .contractExecutionError _ _ _ => some ("HANDLER_ERROR", "CONTRACT_EXECUTION_ERROR")
  | .unknownTransaction _ => some ("HANDLER_ERROR", "UNKNOWN_TRANSACTION")
  | .unknownReceipt _ => some ("HANDLER_ERROR", "UNKNOWN_RECEIPT")
  | .invalidTransaction _ => some ("HANDLER_ERROR", "INVALID_TRANSACTION")
  | .requestRouted _ => some ("HANDLER_ERROR", "REQUEST_ROUTED")
  | .doesNotTrackShard => some ("HANDLER_ERROR", "DOES_NOT_TRACK_SHARD")
  | .timeoutError => some ("HANDLER_ERROR", "TIMEOUT_ERROR")
  | .parseError _ => some ("REQUEST_VALIDATION_ERROR", "PARSE_ERROR")
  | .methodNotFound _ => some ("REQUEST_VALIDATION_ERROR", "METHOD_NOT_FOUND")
  | .internalError _ => some ("INTERNAL_ERROR", "INTERNAL_ERROR")
  | .message _ => none
  | .unclassified _ _ _ _ => none

/-- A failure other than a bare text and a report that was not understood. -/
def IsTyped (failure : RpcFailure) : Prop :=
  (∀ text, failure ≠ .message text) ∧
    ∀ name cause detail reason, failure ≠ .unclassified name cause detail reason

/-- Every detail stands among the members of the source, under its own name. -/
def Present (source : Json) (attributes : List (String × Attribute)) : Prop :=
  ∀ detail ∈ attributes, source.get? detail.1 = some detail.2.json

/-- The source holds the details of a failure. The execution error of a rejected transaction is
the source itself, or a member of it under the name of the family if there is one. -/
def Holds (source : Json) : RpcFailure → Prop
  | .invalidTransaction error =>
    TxExecutionError.union.decode ((source.get? "TxExecutionError").getD source) = .ok error
  | failure => Present source failure.attributes

/-- The envelope is an object that names a category, and under its cause a cause. -/
def Names (envelope : Json) (category cause : String) : Prop :=
  ∃ members causeMembers, envelope = .object members ∧
    members.lookup "name" = some (.string category) ∧
    members.lookup "cause" = some (.object causeMembers) ∧
    causeMembers.lookup "name" = some (.string cause)

/-- The member of the cause with the given name. -/
def causeMember? (envelope : Json) (name : String) : Option Json :=
  (envelope.get? "cause").bind (·.get? name)

/-- A value that tells nothing: null, or an object without members. -/
def Empty (value : Json) : Prop := value = .null ∨ value = .object []

/-- Where the details are looked for: in the information on the cause if it tells anything, and
otherwise in the data beside the cause, a missing value there being null. -/
def IsSource (envelope source : Json) : Prop :=
  (causeMember? envelope "info" = some source ∧ ¬Empty source) ∨
    ((∀ info ∈ causeMember? envelope "info", Empty info) ∧
      source = (envelope.get? "data").getD .null)

/-! ### Names and details of an envelope -/

/-- An envelope names a category and a cause just when both are found. -/
theorem names_iff {envelope : Json} {category cause : String} :
    Names envelope category cause ↔
      category? envelope = some category ∧ cause? envelope = some cause := by
  simp only [Names, category?, cause?, Option.bind_eq_some_iff, Json.string?_eq_some_iff,
    Json.get?_eq_some_iff, exists_eq_right]
  constructor
  · rintro ⟨members, causeMembers, rfl, hcategory, hcause, hname⟩
    exact ⟨⟨members, rfl, hcategory⟩, _, ⟨members, rfl, hcause⟩, causeMembers, rfl, hname⟩
  · rintro ⟨⟨members, rfl, hcategory⟩, _, ⟨_, heq, hcause⟩, causeMembers, rfl, hname⟩
    cases heq
    exact ⟨members, causeMembers, rfl, hcategory, hcause, hname⟩

/-- The test for values that tell nothing accepts just these. -/
theorem isEmpty_iff {value : Json} : isEmpty value = true ↔ Empty value := by
  cases value with
  | object members => cases members <;> simp [isEmpty, Empty]
  | _ => simp [isEmpty, Empty]

/-- An envelope has one source, which is where its details are read from. -/
theorem isSource_iff {envelope source : Json} :
    IsSource envelope source ↔ source = details envelope := by
  have hmember : (envelope.get? "cause").bind (·.get? "info") = causeMember? envelope "info" := rfl
  simp only [details, hmember, IsSource]
  cases causeMember? envelope "info" with
  | none => simp
  | some info =>
    show _ ↔ source = if isEmpty info then (envelope.get? "data").getD .null else info
    by_cases hempty : Empty info
    · rw [if_pos (isEmpty_iff.mpr hempty)]
      constructor
      · rintro (⟨heq, hsource⟩ | ⟨-, hsource⟩)
        · cases heq
          exact absurd hempty hsource
        · exact hsource
      · intro hsource
        refine Or.inr ⟨?_, hsource⟩
        rintro _ ⟨⟩
        exact hempty
    · rw [if_neg (mt isEmpty_iff.mp hempty)]
      constructor
      · rintro (⟨heq, -⟩ | ⟨hall, -⟩)
        · exact (Option.some.inj heq).symm
        · exact absurd (hall info rfl) hempty
      · rintro rfl
        exact Or.inl ⟨rfl, hempty⟩

/-- A detail that is a text is read just from a member that is the text. -/
theorem textDetail_eq_ok_iff {source : Json} {name text : String} :
    textDetail source name = .ok text ↔ source.get? name = some (.string text) := by
  unfold textDetail
  split <;> simp_all

/-- A detail that is a word is read just from a member that is the word. -/
theorem wordDetail_eq_ok_iff {source : Json} {name : String} {word : UInt64} :
    wordDetail source name = .ok word ↔ source.get? name = some (.ofUInt64 word) := by
  unfold wordDetail
  cases hmember : source.get? name with
  | none => simp
  | some value =>
    rw [Option.some.injEq, ← Json.uint64?_eq_some_iff]
    cases hword : value.uint64? <;> simp [hword]

/-- A detail that is a text is read just where it is present. -/
theorem textDetail_eq_ok_iff_present {source : Json} {name text : String} :
    textDetail source name = .ok text ↔ Present source [(name, .text text)] := by
  rw [textDetail_eq_ok_iff, Present, List.forall_mem_singleton, Attribute.json]

/-- A detail that is a word is read just where it is present. -/
theorem wordDetail_eq_ok_iff_present {source : Json} {name : String} {word : UInt64} :
    wordDetail source name = .ok word ↔ Present source [(name, .word word)] := by
  rw [wordDetail_eq_ok_iff, Present, List.forall_mem_singleton, Attribute.json]

/-! ### The table of known failures -/

namespace Known

/-- Whatever the entry reads is a failure that its category and cause are documented for. -/
def Sound (entry : Known) : Prop :=
  ∀ {source failure}, entry.read source = .ok failure →
    failure.documented = some (entry.category, entry.cause)

/-- The entry reads the failure from the sources that hold its details, and from no other. -/
def Reads (entry : Known) (failure : RpcFailure) : Prop :=
  ∀ {source}, entry.read source = .ok failure ↔ Holds source failure

variable {category cause name : String}

/-- An entry without details is sound if its failure is documented for its names. -/
theorem bare_sound {failure : RpcFailure} (hpair : failure.documented = some (category, cause)) :
    (bare category cause failure).Sound := by
  rintro source _ ⟨⟩
  exact hpair

/-- An entry without details reads its failure if nothing has to be present for it. -/
theorem bare_reads {failure : RpcFailure}
    (hholds : ∀ {source}, Holds source failure ↔ Present source []) :
    (bare category cause failure).Reads failure := by
  intro source
  exact iff_of_true rfl (hholds.mpr nofun)

variable {α : Type} {readDetail : Json → Except CodecError α} {make : α → RpcFailure}

/-- An entry is sound if all that it makes of details is documented for its names. -/
theorem map_sound (hpair : ∀ a, (make a).documented = some (category, cause)) :
    Sound ⟨category, cause, fun source => (readDetail source).map make⟩ := by
  intro source failure hread
  obtain ⟨a, -, rfl⟩ := Except.map_eq_ok_iff.mp hread
  exact hpair a

/-- A failure that is made of one detail is read exactly from the sources of that detail. -/
theorem map_reads {a : α} (hmake : ∀ {b}, make b = make a → b = a)
    (hdetail : ∀ {source}, readDetail source = .ok a ↔ Holds source (make a)) :
    Reads ⟨category, cause, fun source => (readDetail source).map make⟩ (make a) := by
  intro source
  rw [← hdetail]
  show (readDetail source).map make = .ok (make a) ↔ readDetail source = .ok a
  rw [Except.map_eq_ok_iff]
  constructor
  · rintro ⟨b, hread, heq⟩
    rw [hread, hmake heq]
  · exact fun hread => ⟨a, hread, rfl⟩

/-- An entry for what is not found at a block is sound if all that it makes is documented for
its names. -/
theorem ofBlock_sound {make : String → UInt64 → String → RpcFailure}
    (hpair : ∀ subject height hash,
      (make subject height hash).documented = some (category, cause)) :
    (ofBlock category cause name make).Sound := by
  intro source failure hread
  simp only [ofBlock, Except.bind_eq_ok_iff] at hread
  obtain ⟨subject, -, height, -, hash, -, heq⟩ := hread
  cases heq
  exact hpair subject height hash

/-- An entry for what is not found at a block reads the failure that it makes of the
three details. -/
theorem ofBlock_reads {make : String → UInt64 → String → RpcFailure} {subject hash : String}
    {height : UInt64}
    (hmake : ∀ {other height' hash'}, make other height' hash' = make subject height hash →
      other = subject ∧ height' = height ∧ hash' = hash)
    (hholds : ∀ {source}, Holds source (make subject height hash) ↔
      Present source (atBlock name subject height hash)) :
    (ofBlock category cause name make).Reads (make subject height hash) := by
  intro source
  rw [hholds]
  simp only [ofBlock, Except.bind_eq_ok_iff, textDetail_eq_ok_iff, wordDetail_eq_ok_iff, Present,
    atBlock, List.forall_mem_cons, List.not_mem_nil, false_implies, implies_true, and_true,
    Attribute.json]
  constructor
  · rintro ⟨other, hsubject, height', hheight, hash', hhash, heq⟩
    obtain ⟨rfl, rfl, rfl⟩ := hmake (Except.ok.inj heq)
    exact ⟨hsubject, hheight, hhash⟩
  · rintro ⟨hsubject, hheight, hhash⟩
    exact ⟨subject, hsubject, height, hheight, hash, hhash, rfl⟩

/-- The entry for collected blocks is sound. -/
theorem garbageCollected_sound :
    Sound ⟨"HANDLER_ERROR", "GARBAGE_COLLECTED_BLOCK", readGarbageCollected⟩ := by
  intro source failure hread
  simp only [readGarbageCollected, Except.bind_eq_ok_iff] at hread
  obtain ⟨height, -, hash, -, heq⟩ := hread
  cases heq
  rfl

/-- The entry for collected blocks reads its failure. -/
theorem garbageCollected_reads {height : UInt64} {hash : String} :
    Reads ⟨category, cause, readGarbageCollected⟩ (.garbageCollectedBlock height hash) := by
  intro source
  show readGarbageCollected source = _ ↔
    Present source [("block_height", .word height), ("block_hash", .text hash)]
  simp only [readGarbageCollected, Except.bind_eq_ok_iff, textDetail_eq_ok_iff,
    wordDetail_eq_ok_iff, Present, List.forall_mem_cons, List.not_mem_nil, false_implies,
    implies_true, and_true, Attribute.json]
  constructor
  · rintro ⟨height', hheight, hash', hhash, heq⟩
    cases heq
    exact ⟨hheight, hhash⟩
  · rintro ⟨hheight, hhash⟩
    exact ⟨height, hheight, hash, hhash, rfl⟩

end Known

/-- No entry of the table reads a failure that is documented for another pair. -/
theorem known_sound : ∀ entry ∈ known, entry.Sound := by
  simp only [known, handlerErrors, requestErrors, internalErrors, List.cons_append,
    List.nil_append, List.forall_mem_cons]
  exact ⟨Known.bare_sound rfl, Known.map_sound fun _ => rfl, Known.bare_sound rfl,
    Known.map_sound fun _ => rfl, Known.map_sound fun _ => rfl, Known.bare_sound rfl,
    Known.bare_sound rfl, Known.garbageCollected_sound, Known.ofBlock_sound fun _ _ _ => rfl,
    Known.ofBlock_sound fun _ _ _ => rfl, Known.ofBlock_sound fun _ _ _ => rfl,
    Known.ofBlock_sound fun _ _ _ => rfl, Known.ofBlock_sound fun _ _ _ => rfl,
    Known.ofBlock_sound fun _ _ _ => rfl, Known.map_sound fun _ => rfl,
    Known.map_sound fun _ => rfl, Known.map_sound fun _ => rfl, Known.map_sound fun _ => rfl,
    Known.bare_sound rfl, Known.bare_sound rfl, Known.map_sound fun _ => rfl,
    Known.map_sound fun _ => rfl, Known.map_sound fun _ => rfl, nofun⟩

/-- The entry for the documented pair of a failure reads that failure. -/
theorem exists_known {failure : RpcFailure} {category cause : String}
    (hpair : failure.documented = some (category, cause)) :
    ∃ entry, known? category cause = some entry ∧ entry.Reads failure := by
  cases failure with
  | unknownBlock | unknownEpoch | noSyncedBlocks | notSyncedYet | doesNotTrackShard
  | timeoutError =>
    cases hpair
    exact ⟨_, rfl, Known.bare_reads Iff.rfl⟩
  | unknownChunk text | unknownTransaction text | unknownReceipt text | requestRouted text
  | parseError text | methodNotFound text | internalError text =>
    cases hpair
    refine ⟨_, rfl, Known.map_reads (fun heq => ?_) textDetail_eq_ok_iff_present⟩
    cases heq
    rfl
  | invalidShardId word | unavailableShard word =>
    cases hpair
    refine ⟨_, rfl, Known.map_reads (fun heq => ?_) wordDetail_eq_ok_iff_present⟩
    cases heq
    rfl
  | garbageCollectedBlock height hash =>
    cases hpair
    exact ⟨_, rfl, Known.garbageCollected_reads⟩
  | invalidAccount subject height hash | unknownAccount subject height hash
  | noContractCode subject height hash | tooLargeContractState subject height hash
  | unknownAccessKey subject height hash | contractExecutionError subject height hash =>
    cases hpair
    refine ⟨_, rfl, Known.ofBlock_reads (fun heq => ?_) Iff.rfl⟩
    cases heq
    exact ⟨rfl, rfl, rfl⟩
  | invalidTransaction error =>
    cases hpair
    refine ⟨_, rfl, Known.map_reads (fun heq => ?_) Iff.rfl⟩
    cases heq
    rfl
  | message text => cases hpair
  | unclassified name cause detail reason => cases hpair

/-- An entry that is found under two names is in the table and has these names. -/
theorem known?_eq_some {category cause : String} {entry : Known}
    (hfound : known? category cause = some entry) :
    entry ∈ known ∧ entry.category = category ∧ entry.cause = cause := by
  have hkey := List.find?_some hfound
  simp only [Bool.and_eq_true, beq_iff_eq] at hkey
  exact ⟨List.mem_of_find?_eq_some hfound, hkey.1, hkey.2⟩

/-! ### Exact classification -/

variable {envelope : Json} {failure : RpcFailure}

/-- Either an envelope is kept unclassified, or its failure is what the entry for its names reads
from its details. -/
theorem ofNames_cases (envelope : Json) :
    (∃ name cause reason, ofNames envelope = .unclassified name cause envelope reason) ∨
      ∃ category cause entry, category? envelope = some category ∧ cause? envelope = some cause ∧
        known? category cause = some entry ∧
        entry.read (details envelope) = .ok (ofNames envelope) := by
  unfold ofNames
  cases hcategory : category? envelope with
  | none => exact Or.inl ⟨_, _, _, rfl⟩
  | some category =>
    cases hcause : cause? envelope with
    | none => exact Or.inl ⟨_, _, _, rfl⟩
    | some cause =>
      cases hknown : known? category cause with
      | none => exact Or.inl ⟨some category, some cause, .unknownPair, by simp only [hknown]⟩
      | some entry =>
        cases hread : entry.read (details envelope) with
        | error fault =>
          exact Or.inl ⟨some category, some cause, .detail fault, by simp only [hknown, hread]⟩
        | ok failure =>
          exact Or.inr ⟨category, cause, entry, rfl, rfl, hknown, by simp only [hknown, hread]⟩

/-- A typed failure is read by the entry for the names of the envelope from its details. -/
theorem ofNames_eq_iff (htyped : failure.IsTyped) :
    ofNames envelope = failure ↔
      ∃ category cause entry, category? envelope = some category ∧ cause? envelope = some cause ∧
        known? category cause = some entry ∧ entry.read (details envelope) = .ok failure := by
  constructor
  · rintro rfl
    rcases ofNames_cases envelope with ⟨name, cause, reason, hkept⟩ | hread
    · exact absurd hkept (htyped.2 _ _ _ _)
    · exact hread
  · rintro ⟨category, cause, entry, hcategory, hcause, hknown, hread⟩
    simp only [ofNames, hcategory, hcause, hknown, hread]

/-- Naming a category and a cause never gives a bare text. -/
theorem ofNames_ne_message {text : String} : ofNames envelope ≠ .message text := by
  intro heq
  rcases ofNames_cases envelope with ⟨name, cause, reason, hkept⟩ |
    ⟨category, cause, entry, -, -, hknown, hread⟩
  · rw [hkept] at heq
    cases heq
  · have hpair := known_sound entry (known?_eq_some hknown).1 hread
    rw [heq] at hpair
    cases hpair

/-- Every envelope but a bare text is read by its names. -/
theorem ofEnvelope_eq_ofNames (hbare : ∀ text, envelope ≠ .string text) :
    ofEnvelope envelope = ofNames envelope := by
  cases envelope with
  | string text => exact absurd rfl (hbare text)
  | _ => rfl

/-- A typed failure never comes from a bare text. -/
theorem ofEnvelope_eq_iff_ofNames (htyped : failure.IsTyped) :
    ofEnvelope envelope = failure ↔ ofNames envelope = failure := by
  by_cases hbare : ∃ text, envelope = .string text
  · obtain ⟨text, rfl⟩ := hbare
    exact iff_of_false (fun heq => htyped.1 _ heq.symm) fun heq => htyped.2 _ _ _ _ heq.symm
  · rw [ofEnvelope_eq_ofNames (not_exists.mp hbare)]

/-- The envelope gives the failure exactly when it names the documented pair and its source holds
the details. -/
theorem ofEnvelope_eq_typed_iff (htyped : failure.IsTyped) :
    ofEnvelope envelope = failure ↔
      ∃ category cause source, failure.documented = some (category, cause) ∧
        Names envelope category cause ∧ IsSource envelope source ∧ Holds source failure := by
  rw [ofEnvelope_eq_iff_ofNames htyped, ofNames_eq_iff htyped]
  simp only [names_iff, isSource_iff]
  constructor
  · rintro ⟨category, cause, entry, hcategory, hcause, hknown, hread⟩
    obtain ⟨hmem, rfl, rfl⟩ := known?_eq_some hknown
    have hpair := known_sound entry hmem hread
    obtain ⟨other, hother, hreads⟩ := exists_known hpair
    rw [hknown] at hother
    cases hother
    exact ⟨_, _, _, hpair, ⟨hcategory, hcause⟩, rfl, hreads.mp hread⟩
  · rintro ⟨category, cause, source, hpair, ⟨hcategory, hcause⟩, rfl, hholds⟩
    obtain ⟨entry, hknown, hreads⟩ := exists_known hpair
    exact ⟨category, cause, entry, hcategory, hcause, hknown, hreads.mpr hholds⟩

/-- A bare text, and nothing else, is kept as it is. -/
theorem ofEnvelope_eq_message_iff {text : String} :
    ofEnvelope envelope = .message text ↔ envelope = .string text := by
  cases envelope with
  | string other => simp [ofEnvelope]
  | _ =>
    rw [ofEnvelope_eq_ofNames]
    · refine iff_of_false ofNames_ne_message ?_
      intro heq
      cases heq
    · intro text heq
      cases heq

/-- Two envelopes give the same typed failure, if either gives one. -/
def SameTyped (envelope other : Json) : Prop :=
  ∀ failure : RpcFailure, failure.IsTyped →
    (ofEnvelope envelope = failure ↔ ofEnvelope other = failure)

/-- Two envelopes have the same members for the category and the cause. -/
def SameNames (envelope other : Json) : Prop :=
  envelope.get? "name" = other.get? "name" ∧
    causeMember? envelope "name" = causeMember? other "name"

/-- Nothing but the names and the details of an envelope tells which typed failure it gives. -/
theorem sameTyped_of_details {other : Json} (hnames : SameNames envelope other)
    (hdetails : details envelope = details other) : SameTyped envelope other := by
  intro failure htyped
  have hcategory : category? envelope = category? other := by
    rw [category?, category?, hnames.1]
  have hcause : cause? envelope = cause? other := by
    have hmember : ∀ e : Json, cause? e = (causeMember? e "name").bind Json.string? :=
      fun e => (Option.bind_assoc (e.get? "cause") (·.get? "name") Json.string?).symm
    rw [hmember, hmember, hnames.2]
  rw [ofEnvelope_eq_iff_ofNames htyped, ofEnvelope_eq_iff_ofNames htyped, ofNames_eq_iff htyped,
    ofNames_eq_iff htyped, hcategory, hcause, hdetails]

/-- A typed failure is given exactly by the envelopes that name its documented pair and hold its
details at their source, and a bare text exactly by that text. So the other members of an
envelope are ignored, the data is ignored when the information on the cause tells anything, and
details may move from the information to the data without a change of the failure. -/
theorem ofEnvelope_exact :
    (∀ (envelope : Json) (failure : RpcFailure), failure.IsTyped →
      (ofEnvelope envelope = failure ↔
        ∃ category cause source, failure.documented = some (category, cause) ∧
          Names envelope category cause ∧ IsSource envelope source ∧ Holds source failure)) ∧
    (∀ (envelope : Json) (text : String),
      ofEnvelope envelope = .message text ↔ envelope = .string text) ∧
    (∀ envelope other : Json, SameNames envelope other →
      causeMember? envelope "info" = causeMember? other "info" →
      envelope.get? "data" = other.get? "data" → SameTyped envelope other) ∧
    (∀ envelope other info : Json, SameNames envelope other → ¬Empty info →
      causeMember? envelope "info" = some info → causeMember? other "info" = some info →
      SameTyped envelope other) ∧
    (∀ envelope other detail : Json, SameNames envelope other → ¬Empty detail →
      causeMember? envelope "info" = some detail →
      (∀ info ∈ causeMember? other "info", Empty info) → other.get? "data" = some detail →
      SameTyped envelope other) := by
  refine ⟨fun _ _ => ofEnvelope_eq_typed_iff, fun _ _ => ofEnvelope_eq_message_iff, ?_, ?_, ?_⟩
  · intro envelope other hnames hinfo hdata
    have hsame : IsSource other (details envelope) := by
      have hsource := isSource_iff.mpr (rfl : details envelope = details envelope)
      rwa [IsSource, hinfo, hdata] at hsource
    exact sameTyped_of_details hnames (isSource_iff.mp hsame)
  · intro envelope other info hnames hfull hinfo hother
    have hsource : info = details envelope := isSource_iff.mp (Or.inl ⟨hinfo, hfull⟩)
    have hsame : info = details other := isSource_iff.mp (Or.inl ⟨hother, hfull⟩)
    exact sameTyped_of_details hnames (hsource.symm.trans hsame)
  · intro envelope other detail hnames hfull hinfo hempty hdata
    have hsource : detail = details envelope := isSource_iff.mp (Or.inl ⟨hinfo, hfull⟩)
    have hsame : detail = details other :=
      isSource_iff.mp (Or.inr ⟨hempty, by rw [hdata, Option.getD_some]⟩)
    exact sameTyped_of_details hnames (hsource.symm.trans hsame)

/-- A report of an unknown chunk. -/
def chunkReport (info beside : List (String × Json)) : Json :=
  .object ([("name", .string "HANDLER_ERROR"),
    ("cause", .object (("name", .string "UNKNOWN_CHUNK") :: info))] ++ beside)

/-- A chunk is reported as unknown by its details under the cause, whatever else the report
holds, and by the same details beside the cause if nothing is told under it. -/
theorem ofEnvelope_exact_unknownChunk :
    let detail : Json := .object [("chunk_hash", .string "9bMF")]
    let report : Json := chunkReport [("info", detail)] []
    ofEnvelope report = .unknownChunk "9bMF" ∧
      ofEnvelope (.string "9bMF") = .message "9bMF" ∧
      SameTyped report (chunkReport [("info", detail)] [("code", .null)]) ∧
      SameTyped report (chunkReport [("info", detail)] [("data", .object [])]) ∧
      SameTyped report (chunkReport [("info", .object [])] [("data", detail)]) ∧
      SameTyped report (chunkReport [("info", .null)] [("data", detail)]) ∧
      SameTyped report (chunkReport [] [("data", detail)]) := by
  intro detail report
  have hfull : ¬Empty detail := by simp [Empty, detail]
  have hpresent : Present detail [("chunk_hash", .text "9bMF")] := by
    rintro _ (_ | ⟨_, ⟨⟩⟩)
    rfl
  have hnames : Names report "HANDLER_ERROR" "UNKNOWN_CHUNK" := names_iff.mpr ⟨rfl, rfl⟩
  have htyped : IsTyped (.unknownChunk "9bMF") := ⟨by simp, by simp⟩
  refine ⟨?_, ?_, ?_, ?_, ?_, ?_, ?_⟩
  · exact (ofEnvelope_exact.1 report (.unknownChunk "9bMF") htyped).mpr
      ⟨_, _, detail, rfl, hnames, Or.inl ⟨rfl, hfull⟩, hpresent⟩
  · exact (ofEnvelope_exact.2.1 _ _).mpr rfl
  · exact ofEnvelope_exact.2.2.1 report _ ⟨rfl, rfl⟩ rfl rfl
  · exact ofEnvelope_exact.2.2.2.1 report _ detail ⟨rfl, rfl⟩ hfull rfl rfl
  · refine ofEnvelope_exact.2.2.2.2 report _ detail ⟨rfl, rfl⟩ hfull rfl ?_ rfl
    rintro _ ⟨⟩
    exact Or.inr rfl
  · refine ofEnvelope_exact.2.2.2.2 report _ detail ⟨rfl, rfl⟩ hfull rfl ?_ rfl
    rintro _ ⟨⟩
    exact Or.inl rfl
  · exact ofEnvelope_exact.2.2.2.2 report _ detail ⟨rfl, rfl⟩ hfull rfl nofun rfl

end RpcFailure

end LedgerWire
