import LedgerWire.Proofs.Execution.Nesting
import LedgerWire.Proofs.Rpc.Classification

/-!
# Why an envelope is left unclassified

An envelope that is not understood is kept whole, with the names that it has and a reason. There
are three reasons: a name is missing, no failure is documented for the two names, or the details
are not those of the failure. The last is told by the first detail at fault, in the order in which
the details of the failure are looked at, and for an execution error by the innermost place of the
error that is refused.
-/

namespace LedgerWire

open Relation (ReflTransGen)

/-- Related lists have related members. -/
theorem exists_related {β γ : Type} {related : β → γ → Prop} {list : List β}
    {other : List γ} (h : List.Forall₂ related list other) {item : β} (hmem : item ∈ list) :
    ∃ image ∈ other, related item image := by
  induction h with
  | nil => cases hmem
  | @cons head image rest images hhead _ ih =>
    rcases List.mem_cons.mp hmem with rfl | hrest
    · exact ⟨image, .head images, hhead⟩
    · obtain ⟨found, hfound, hrelated⟩ := ih hrest
      exact ⟨found, .tail image hfound, hrelated⟩

namespace CodecError

/-- The words that a failure may open with. -/
def openings : List String :=
  ["format error: ", "type mismatch: expected ", "unknown variant ", "invalid argument: "]

/-- A text opens with its first part. -/
theorem opening_append (opening rest : String) : opening.toList <+: (opening ++ rest).toList := by
  rw [String.toList_append]
  exact List.prefix_append _ _

/-- The wording of a failure opens with its kind. -/
theorem exists_opening (error : CodecError) :
    ∃ opening ∈ openings, opening.toList <+: error.message.toList := by
  cases error with
  | format fault =>
    have hopens := opening_append "format error: " fault.message
    exact ⟨_, by decide, hopens⟩
  | typeMismatch expected found =>
    have hopens := opening_append "type mismatch: expected " expected.describe
    have hmiddle := hopens.trans (opening_append _ ", found ")
    exact ⟨_, by decide, hmiddle.trans (opening_append _ found.describe)⟩
  | unknownVariant family tag =>
    have hopens := opening_append "unknown variant " (Json.marked tag)
    have hmiddle := hopens.trans (opening_append _ " for ")
    exact ⟨_, by decide, hmiddle.trans (opening_append _ family)⟩
  | argument fault =>
    have hopens := opening_append "invalid argument: " fault.message
    exact ⟨_, by decide, hopens⟩

end CodecError

namespace RpcFailure

/-- A fixed reason is not worded like a failure of the codecs. -/
theorem Reason.message_ne (error : CodecError) :
    error.message ≠ unnamed.message ∧ error.message ≠ unknownPair.message := by
  obtain ⟨opening, hmem, hopens⟩ := error.exists_opening
  constructor
  · intro hsame
    have hnone : ∀ opening ∈ CodecError.openings,
        ¬opening.toList <+: unnamed.message.toList := by decide
    exact hnone opening hmem (hsame ▸ hopens)
  · intro hsame
    have hnone : ∀ opening ∈ CodecError.openings,
        ¬opening.toList <+: unknownPair.message.toList := by decide
    exact hnone opening hmem (hsame ▸ hopens)

/-! ### What is asked of the details -/

/-- What a detail has to be. -/
inductive DetailKind where
  | text
  | word

/-- A value is of the kind. -/
def DetailKind.Admits : DetailKind → Json → Prop
  | text, value => ∃ content, value = .string content
  | word, value => ∃ content, value = .ofUInt64 content

/-- What is expected of a detail, by its name. -/
def DetailKind.expected : DetailKind → String → Expectation
  | text => .stringMember
  | word => .unsignedMember

/-- What is asked of the details of a failure: members under their names, in the order in which
they are looked at, or an execution error. -/
inductive Asked where
  | members (list : List (String × DetailKind))
  | executionError

/-- What is asked when something is not found at a block. -/
def Asked.atBlock (name : String) : Asked :=
  .members [(name, .text), ("block_height", .word), ("block_hash", .text)]

/-- A documented failure. -/
structure Document where
  category : String
  cause : String
  asked : Asked

/-- The documented failures. -/
def documents : List Document := [
  ⟨"HANDLER_ERROR", "UNKNOWN_BLOCK", .members []⟩,
  ⟨"HANDLER_ERROR", "UNKNOWN_CHUNK", .members [("chunk_hash", .text)]⟩,
  ⟨"HANDLER_ERROR", "UNKNOWN_EPOCH", .members []⟩,
  ⟨"HANDLER_ERROR", "INVALID_SHARD_ID", .members [("shard_id", .word)]⟩,
  ⟨"HANDLER_ERROR", "UNAVAILABLE_SHARD", .members [("requested_shard_id", .word)]⟩,
  ⟨"HANDLER_ERROR", "NO_SYNCED_BLOCKS", .members []⟩,
  ⟨"HANDLER_ERROR", "NOT_SYNCED_YET", .members []⟩,
  ⟨"HANDLER_ERROR", "GARBAGE_COLLECTED_BLOCK",
    .members [("block_height", .word), ("block_hash", .text)]⟩,
  ⟨"HANDLER_ERROR", "INVALID_ACCOUNT", .atBlock "requested_account_id"⟩,
  ⟨"HANDLER_ERROR", "UNKNOWN_ACCOUNT", .atBlock "requested_account_id"⟩,
  ⟨"HANDLER_ERROR", "NO_CONTRACT_CODE", .atBlock "contract_account_id"⟩,
  ⟨"HANDLER_ERROR", "TOO_LARGE_CONTRACT_STATE", .atBlock "contract_account_id"⟩,
  ⟨"HANDLER_ERROR", "UNKNOWN_ACCESS_KEY", .atBlock "public_key"⟩,
  ⟨"HANDLER_ERROR", "CONTRACT_EXECUTION_ERROR", .atBlock "vm_error"⟩,
  ⟨"HANDLER_ERROR", "UNKNOWN_TRANSACTION", .members [("requested_transaction_hash", .text)]⟩,
  ⟨"HANDLER_ERROR", "UNKNOWN_RECEIPT", .members [("receipt_id", .text)]⟩,
  ⟨"HANDLER_ERROR", "INVALID_TRANSACTION", .executionError⟩,
  ⟨"HANDLER_ERROR", "REQUEST_ROUTED", .members [("transaction_hash", .text)]⟩,
  ⟨"HANDLER_ERROR", "DOES_NOT_TRACK_SHARD", .members []⟩,
  ⟨"HANDLER_ERROR", "TIMEOUT_ERROR", .members []⟩,
  ⟨"REQUEST_VALIDATION_ERROR", "PARSE_ERROR", .members [("error_message", .text)]⟩,
  ⟨"REQUEST_VALIDATION_ERROR", "METHOD_NOT_FOUND", .members [("method_name", .text)]⟩,
  ⟨"INTERNAL_ERROR", "INTERNAL_ERROR", .members [("error_message", .text)]⟩]

/-- No two documented failures have the same category and cause. -/
theorem nodup_documents : (documents.map fun d => (d.category, d.cause)).Nodup := by
  decide

/-! ### What is at fault in the details -/

/-- What is at fault with a detail: it is missing, or it is not of its kind. -/
inductive Faulty (source : Json) (name : String) (kind : DetailKind) : CodecError → Prop
  | missing (absent : source.get? name = none) :
      Faulty source name kind (.format (.missingMember name))
  | mistyped {value : Json} (found : source.get? name = some value) (other : ¬kind.Admits value) :
      Faulty source name kind (.typeMismatch (kind.expected name) (.kind value.kind))

/-- The first detail of a list that is at fault. Those before it are there and of their kind. -/
inductive FirstFault (source : Json) : List (String × DetailKind) → CodecError → Prop
  | here {name : String} {kind : DetailKind} {rest : List (String × DetailKind)}
      {error : CodecError} (fault : Faulty source name kind error) :
      FirstFault source ((name, kind) :: rest) error
  | later {name : String} {kind : DetailKind} {rest : List (String × DetailKind)}
      {error : CodecError} {value : Json} (found : source.get? name = some value)
      (admitted : kind.Admits value) (fault : FirstFault source rest error) :
      FirstFault source ((name, kind) :: rest) error

/-- What is at fault in the details. An execution error stands in them under the name of its
family, or is what they are. -/
def Asked.Fault (source : Json) (error : CodecError) : Asked → Prop
  | members list => FirstFault source list error
  | executionError =>
    ∃ inner, ReflTransGen Step
        (.union .txExecutionError, (source.get? "TxExecutionError").getD source) inner ∧
      (∀ next, ¬Step inner next) ∧ Raises inner error

variable {source : Json} {name : String} {kind : DetailKind} {rest : List (String × DetailKind)}
  {error : CodecError}

/-- A detail that is a text is refused for what is at fault with it. -/
theorem textDetail_eq_error_iff :
    textDetail source name = .error error ↔ Faulty source name .text error := by
  constructor
  · intro hread
    cases hfound : source.get? name with
    | none =>
      simp only [textDetail, hfound] at hread
      cases hread
      exact .missing hfound
    | some value =>
      simp only [textDetail, hfound] at hread
      cases value with
      | string content => cases hread
      | _ =>
        cases hread
        refine .mistyped hfound ?_
        rintro ⟨content, ⟨⟩⟩
  · rintro (hnone | @⟨value, hfound, hother⟩)
    · simp only [textDetail, hnone]
    · cases value with
      | string content => exact absurd ⟨content, rfl⟩ hother
      | _ =>
        simp only [textDetail, hfound]
        rfl

/-- A detail that is a word is refused for what is at fault with it. -/
theorem wordDetail_eq_error_iff :
    wordDetail source name = .error error ↔ Faulty source name .word error := by
  constructor
  · intro hread
    cases hfound : source.get? name with
    | none =>
      simp only [wordDetail, hfound] at hread
      cases hread
      exact .missing hfound
    | some value =>
      simp only [wordDetail, hfound] at hread
      cases hword : value.uint64? with
      | some word =>
        rw [hword] at hread
        cases hread
      | none =>
        rw [hword] at hread
        cases hread
        refine .mistyped hfound ?_
        rintro ⟨content, rfl⟩
        rw [Json.uint64?_ofUInt64] at hword
        cases hword
  · rintro (hnone | @⟨value, hfound, hother⟩)
    · simp only [wordDetail, hnone]
    · have hword : value.uint64? = none := by
        refine Option.eq_none_iff_forall_ne_some.mpr ?_
        intro word hsome
        exact hother ⟨word, Json.uint64?_eq_some_iff.mp hsome⟩
      simp only [wordDetail, hfound, hword]
      rfl

/-- Where no detail is asked for, none is at fault. -/
theorem not_firstFault_nil : ¬FirstFault source [] error := by
  rintro ⟨⟩

/-- The first fault of a list lies in its first detail, or in the others when the first is fine. -/
theorem firstFault_cons_iff :
    FirstFault source ((name, kind) :: rest) error ↔
      Faulty source name kind error ∨
        (∃ value, source.get? name = some value ∧ kind.Admits value) ∧
          FirstFault source rest error := by
  constructor
  · rintro (hfault | ⟨hfound, hadmitted, hrest⟩)
    · exact Or.inl hfault
    · exact Or.inr ⟨⟨_, hfound, hadmitted⟩, hrest⟩
  · rintro (hfault | ⟨⟨value, hfound, hadmitted⟩, hrest⟩)
    · exact .here hfault
    · exact .later hfound hadmitted hrest

/-- A reader of details fails with what is at fault with the one that it reads, and succeeds where
one of the kind is there. -/
structure ReadsDetail {α : Type} (read : Json → String → Except CodecError α)
    (kind : DetailKind) : Prop where
  fails_iff : ∀ {source name error}, read source name = .error error ↔
    Faulty source name kind error
  succeeds_iff : ∀ {source name}, (∃ content, read source name = .ok content) ↔
    ∃ value, source.get? name = some value ∧ kind.Admits value

/-- The reader of texts fails with what is at fault with a text. -/
theorem textDetail_reads : ReadsDetail textDetail .text where
  fails_iff := textDetail_eq_error_iff
  succeeds_iff := by
    intro source name
    simp only [textDetail_eq_ok_iff, DetailKind.Admits]
    constructor
    · rintro ⟨content, hfound⟩
      exact ⟨_, hfound, content, rfl⟩
    · rintro ⟨_, hfound, content, rfl⟩
      exact ⟨content, hfound⟩

/-- The reader of words fails with what is at fault with a word. -/
theorem wordDetail_reads : ReadsDetail wordDetail .word where
  fails_iff := wordDetail_eq_error_iff
  succeeds_iff := by
    intro source name
    simp only [wordDetail_eq_ok_iff, DetailKind.Admits]
    constructor
    · rintro ⟨content, hfound⟩
      exact ⟨_, hfound, content, rfl⟩
    · rintro ⟨_, hfound, content, rfl⟩
      exact ⟨content, hfound⟩

namespace ReadsDetail

variable {α β : Type} {read : Json → String → Except CodecError α}

/-- Behind a detail that is there, reading fails with the first fault among the rest. -/
theorem bind_iff (h : ReadsDetail read kind) {next : α → Except CodecError β}
    (hnext : ∀ content, next content = .error error ↔ FirstFault source rest error) :
    (read source name >>= next) = .error error ↔
      FirstFault source ((name, kind) :: rest) error := by
  rw [Except.bind_eq_error_iff, h.fails_iff, firstFault_cons_iff, ← h.succeeds_iff]
  simp only [hnext, exists_and_right]

/-- A failure that is made of one detail is at fault as the detail is. -/
theorem map_iff (h : ReadsDetail read kind) {make : α → β} :
    (read source name).map make = .error error ↔ FirstFault source [(name, kind)] error := by
  rw [Except.map_eq_error_iff, h.fails_iff, firstFault_cons_iff]
  simp only [not_firstFault_nil, and_false, or_false]

end ReadsDetail

/-! ### The table reads what is asked -/

/-- An entry of the table has the names of a documented failure, and fails on a source exactly
with what is at fault there. -/
structure Known.Asks (entry : Known) (document : Document) : Prop where
  category_eq : entry.category = document.category
  cause_eq : entry.cause = document.cause
  fails_iff : ∀ {source error}, entry.read source = .error error ↔
    document.asked.Fault source error

namespace Known

variable {category cause : String}

/-- Nothing is at fault behind the last detail. -/
theorem made_iff {failure : RpcFailure} :
    (.ok failure : Except CodecError RpcFailure) = .error error ↔ FirstFault source [] error := by
  refine iff_of_false ?_ not_firstFault_nil
  rintro ⟨⟩

/-- An entry without details asks for none. -/
theorem bare_asks {failure : RpcFailure} :
    (bare category cause failure).Asks ⟨category, cause, .members []⟩ where
  category_eq := rfl
  cause_eq := rfl
  fails_iff := made_iff

/-- An entry with one detail asks for it. -/
theorem ofDetail_asks {α : Type} {read : Json → String → Except CodecError α} {kind : DetailKind}
    {make : α → RpcFailure} (hreads : ReadsDetail read kind) :
    Asks ⟨category, cause, fun source => (read source name).map make⟩
      ⟨category, cause, .members [(name, kind)]⟩ where
  category_eq := rfl
  cause_eq := rfl
  fails_iff := hreads.map_iff

/-- An entry for what is not found at a block asks for the three details. -/
theorem ofBlock_asks {make : String → UInt64 → String → RpcFailure} :
    (ofBlock category cause name make).Asks ⟨category, cause, .atBlock name⟩ where
  category_eq := rfl
  cause_eq := rfl
  fails_iff := by
    intro source error
    refine textDetail_reads.bind_iff fun subject => ?_
    refine wordDetail_reads.bind_iff fun height => ?_
    exact textDetail_reads.bind_iff fun hash => made_iff

/-- The entry for collected blocks asks for a height and a hash. -/
theorem garbageCollected_asks :
    Asks ⟨category, cause, readGarbageCollected⟩
      ⟨category, cause, .members [("block_height", .word), ("block_hash", .text)]⟩ where
  category_eq := rfl
  cause_eq := rfl
  fails_iff := by
    intro source error
    refine wordDetail_reads.bind_iff fun height => ?_
    exact textDetail_reads.bind_iff fun hash => made_iff

/-- An execution error fails with what its innermost place refuses. -/
theorem invalidTransaction_asks :
    Asks ⟨category, cause, readInvalidTransaction⟩ ⟨category, cause, .executionError⟩ where
  category_eq := rfl
  cause_eq := rfl
  fails_iff := by
    intro source error
    show (TxExecutionError.union.decode _).map RpcFailure.invalidTransaction = .error error ↔ _
    rw [Except.map_eq_error_iff]
    exact Place.decode_eq_error_iff_innermost (.union .txExecutionError, _)

end Known

/-- The table lists the documented failures in their order. -/
theorem known_asks : List.Forall₂ Known.Asks known documents := by
  simp only [known, handlerErrors, requestErrors, internalErrors, documents, List.cons_append,
    List.nil_append, List.forall₂_cons]
  have htext {category cause name : String} {make : String → RpcFailure} :
      (Known.ofText category cause name make).Asks ⟨category, cause, .members [(name, .text)]⟩ :=
    Known.ofDetail_asks textDetail_reads
  have hword {category cause name : String} {make : UInt64 → RpcFailure} :
      (Known.ofWord category cause name make).Asks ⟨category, cause, .members [(name, .word)]⟩ :=
    Known.ofDetail_asks wordDetail_reads
  exact ⟨Known.bare_asks, htext, Known.bare_asks, hword, hword, Known.bare_asks, Known.bare_asks,
    Known.garbageCollected_asks, Known.ofBlock_asks, Known.ofBlock_asks, Known.ofBlock_asks,
    Known.ofBlock_asks, Known.ofBlock_asks, Known.ofBlock_asks, htext, htext,
    Known.invalidTransaction_asks, htext, Known.bare_asks, Known.bare_asks, htext, htext, htext,
    .nil⟩

/-- An entry that is found for two names has them from a documented failure. -/
theorem exists_document {category cause : String} {entry : Known}
    (hfound : known? category cause = some entry) :
    ∃ document ∈ documents, document.category = category ∧ document.cause = cause ∧
      entry.Asks document := by
  obtain ⟨hmem, rfl, rfl⟩ := known?_eq_some hfound
  obtain ⟨document, hdocument, hasks⟩ := exists_related known_asks hmem
  exact ⟨document, hdocument, hasks.category_eq.symm, hasks.cause_eq.symm, hasks⟩

/-- The documented failures differ in their names. -/
theorem eq_of_names {document other : Document} (hdocument : document ∈ documents)
    (hother : other ∈ documents) (hcategory : document.category = other.category)
    (hcause : document.cause = other.cause) : document = other := by
  have hpair : (document.category, document.cause) = (other.category, other.cause) := by
    rw [hcategory, hcause]
  exact List.inj_on_of_nodup_map nodup_documents hdocument hother hpair

/-- A documented failure is found by its names. -/
theorem exists_known_of_document {document : Document} (hdocument : document ∈ documents) :
    ∃ entry, known? document.category document.cause = some entry ∧ entry.Asks document := by
  obtain ⟨entry, hmem, hasks⟩ := exists_related known_asks.flip hdocument
  have hkey : (entry.category == document.category && entry.cause == document.cause) = true := by
    rw [hasks.category_eq, hasks.cause_eq]
    simp
  have hsome : (known? document.category document.cause).isSome = true :=
    List.find?_isSome.mpr ⟨entry, hmem, hkey⟩
  obtain ⟨found, hfound⟩ := Option.isSome_iff_exists.mp hsome
  obtain ⟨other, hother, hcategory, hcause, hfoundAsks⟩ := exists_document hfound
  obtain rfl := eq_of_names hother hdocument hcategory hcause
  exact ⟨found, hfound, hfoundAsks⟩

/-! ### Why an envelope is kept -/

/-- Why an envelope with some of the two names is left unclassified. -/
inductive Why (envelope : Json) (name cause : Option String) : Reason → Prop
  | unnamed (missing : name = none ∨ cause = none) : Why envelope name cause .unnamed
  | unknownPair (named : name ≠ none) (caused : cause ≠ none)
      (undocumented : ∀ document ∈ documents,
        ¬(name = some document.category ∧ cause = some document.cause)) :
      Why envelope name cause .unknownPair
  | detail {document : Document} {source : Json} {error : CodecError}
      (documented : document ∈ documents) (named : name = some document.category)
      (caused : cause = some document.cause) (isSource : IsSource envelope source)
      (fault : document.asked.Fault source error) : Why envelope name cause (.detail error)

variable {envelope : Json}

/-- An entry of the table never reads a failure as unclassified. -/
theorem read_ne_unclassified {category cause : String} {entry : Known}
    (hfound : known? category cause = some entry) {details detail : Json}
    {name named : Option String} {reason : Reason} :
    entry.read details ≠ .ok (.unclassified name named detail reason) := by
  intro hread
  have hpair := known_sound entry (known?_eq_some hfound).1 hread
  cases hpair

/-- A cause is found just when the cause has a name that is a text. -/
theorem cause?_eq_some_iff {cause : String} :
    cause? envelope = some cause ↔ causeMember? envelope "name" = some (.string cause) := by
  have hmember : cause? envelope = (causeMember? envelope "name").bind Json.string? :=
    (Option.bind_assoc (envelope.get? "cause") (·.get? "name") Json.string?).symm
  rw [hmember]
  simp only [Option.bind_eq_some_iff, Json.string?_eq_some_iff, exists_eq_right]

/-- A category is found just when the name of the envelope is a text. -/
theorem category?_eq_some_iff {category : String} :
    category? envelope = some category ↔ envelope.get? "name" = some (.string category) := by
  simp only [category?, Option.bind_eq_some_iff, Json.string?_eq_some_iff, exists_eq_right]

namespace Why

variable {name cause : Option String} {reason : Reason}

/-- The first reason is worded as it is for a missing name only. -/
theorem message_unnamed_iff (h : Why envelope name cause reason) :
    reason.message = "envelope has no name/cause" ↔ name = none ∨ cause = none := by
  cases h with
  | unnamed missing => exact iff_of_true rfl missing
  | unknownPair named caused => exact iff_of_false (by decide) (not_or.mpr ⟨named, caused⟩)
  | detail documented named caused =>
    refine iff_of_false (Reason.message_ne _).1 ?_
    rw [named, caused]
    simp

/-- The reason is an unknown kind just when both names are there and no documented
failure has them. -/
theorem message_unknownPair_iff (h : Why envelope name cause reason) :
    reason.message = "unknown error kind" ↔ name ≠ none ∧ cause ≠ none ∧
      ∀ document ∈ documents, ¬(name = some document.category ∧ cause = some document.cause) := by
  cases h with
  | unnamed missing =>
    refine iff_of_false (by decide) ?_
    rintro ⟨hname, hcause, -⟩
    exact missing.elim hname hcause
  | unknownPair named caused undocumented => exact iff_of_true rfl ⟨named, caused, undocumented⟩
  | detail documented named caused =>
    refine iff_of_false (Reason.message_ne _).2 ?_
    rintro ⟨-, -, hundocumented⟩
    exact hundocumented _ documented ⟨named, caused⟩

/-- For the names of a documented failure the reason is what is at fault in the details. -/
theorem exists_fault (h : Why envelope name cause reason) {document : Document}
    (hdocument : document ∈ documents) (hname : name = some document.category)
    (hcause : cause = some document.cause) :
    ∃ source error, IsSource envelope source ∧ document.asked.Fault source error ∧
      reason = .detail error := by
  cases h with
  | unnamed missing =>
    rw [hname, hcause] at missing
    simp at missing
  | unknownPair _ _ undocumented => exact absurd ⟨hname, hcause⟩ (undocumented document hdocument)
  | @detail other source error documented named caused isSource fault =>
    have hcategories : other.category = document.category :=
      Option.some.inj (named.symm.trans hname)
    have hcauses : other.cause = document.cause := Option.some.inj (caused.symm.trans hcause)
    obtain rfl := eq_of_names documented hdocument hcategories hcauses
    exact ⟨source, error, isSource, fault, rfl⟩

end Why

/-- An envelope with a reason to be left unclassified is. -/
theorem Why.ofNames_eq {reason : Reason}
    (h : Why envelope (category? envelope) (cause? envelope) reason) :
    ofNames envelope =
      .unclassified (category? envelope) (cause? envelope) envelope reason := by
  unfold ofNames
  cases h with
  | unnamed missing =>
    rcases missing with hname | hcause
    · simp only [hname]
    · rw [hcause]
      cases category? envelope <;> rfl
  | unknownPair named caused undocumented =>
    obtain ⟨category, hcategory⟩ := Option.ne_none_iff_exists'.mp named
    obtain ⟨cause, hcause⟩ := Option.ne_none_iff_exists'.mp caused
    have hfound : known? category cause = none := by
      refine Option.eq_none_iff_forall_ne_some.mpr ?_
      intro entry hentry
      obtain ⟨document, hdocument, rfl, rfl, -⟩ := exists_document hentry
      exact undocumented document hdocument ⟨hcategory, hcause⟩
    simp only [hcategory, hcause, hfound]
  | @detail document source error documented named caused isSource fault =>
    obtain ⟨entry, hentry, hasks⟩ := exists_known_of_document documented
    have hread : entry.read (details envelope) = .error error := by
      rw [← isSource_iff.mp isSource]
      exact hasks.fails_iff.mpr fault
    simp only [named, caused, hentry, hread]

/-- There is a reason, or the entry for the names of an envelope reads its details. -/
theorem exists_why_or_read (envelope : Json) :
    (∃ reason, Why envelope (category? envelope) (cause? envelope) reason) ∨
      ∃ category cause entry failure, category? envelope = some category ∧
        cause? envelope = some cause ∧ known? category cause = some entry ∧
        entry.read (details envelope) = .ok failure := by
  by_cases hmissing : category? envelope = none ∨ cause? envelope = none
  · exact Or.inl ⟨_, .unnamed hmissing⟩
  · obtain ⟨hnamed, hcaused⟩ := not_or.mp hmissing
    by_cases hdocumented : ∃ document ∈ documents,
        category? envelope = some document.category ∧ cause? envelope = some document.cause
    · obtain ⟨document, hdocument, hcategory, hcause⟩ := hdocumented
      obtain ⟨entry, hentry, hasks⟩ := exists_known_of_document hdocument
      cases hread : entry.read (details envelope) with
      | ok failure => exact Or.inr ⟨_, _, entry, failure, hcategory, hcause, hentry, hread⟩
      | error error =>
        have hfault := hasks.fails_iff.mp hread
        exact Or.inl ⟨_, .detail hdocument hcategory hcause (isSource_iff.mpr rfl) hfault⟩
    · refine Or.inl ⟨_, .unknownPair hnamed hcaused ?_⟩
      intro document hdocument hnames
      exact hdocumented ⟨document, hdocument, hnames⟩

/-- An envelope is left unclassified exactly when it is no bare text and there is a reason to. It is
kept whole, with its names. -/
theorem ofEnvelope_eq_unclassified_iff {name cause : Option String} {detail : Json}
    {reason : Reason} :
    ofEnvelope envelope = .unclassified name cause detail reason ↔
      (∀ text, envelope ≠ .string text) ∧ detail = envelope ∧ name = category? envelope ∧
        cause = cause? envelope ∧ Why envelope name cause reason := by
  constructor
  · intro hkept
    have hbare : ∀ text, envelope ≠ .string text := by
      rintro text rfl
      cases hkept
    rw [ofEnvelope_eq_ofNames hbare] at hkept
    rcases exists_why_or_read envelope with
      ⟨other, hwhy⟩ | ⟨category, named, entry, failure, hcategory, hnamed, hentry, hread⟩
    · rw [hwhy.ofNames_eq] at hkept
      cases hkept
      exact ⟨hbare, rfl, rfl, rfl, hwhy⟩
    · have hfailure : ofNames envelope = failure := by
        simp only [ofNames, hcategory, hnamed, hentry, hread]
      rw [← hfailure, hkept] at hread
      exact absurd hread (read_ne_unclassified hentry)
  · rintro ⟨hbare, rfl, rfl, rfl, hwhy⟩
    rw [ofEnvelope_eq_ofNames hbare]
    exact hwhy.ofNames_eq

/-- What is left unclassified is the envelope itself, with the category and the cause that it
names. The reason tells that one of the two is missing exactly if it is, and that the failure is
unknown exactly if both are there and not documented together. For the names of a documented
failure it is in the words of the failure to read the details: of the first detail that is missing
or not of its kind, in the order in which they are looked at, or of the innermost place of an
execution error. A failure without details is never left unclassified. -/
theorem unclassified_tells_why :
    (∀ (envelope : Json) (name cause : Option String) (detail : Json) (reason : Reason),
      ofEnvelope envelope = .unclassified name cause detail reason →
      detail = envelope ∧
      (∀ text, name = some text ↔ envelope.get? "name" = some (.string text)) ∧
      (∀ text, cause = some text ↔ causeMember? envelope "name" = some (.string text)) ∧
      (reason.message = "envelope has no name/cause" ↔ name = none ∨ cause = none) ∧
      (reason.message = "unknown error kind" ↔ name ≠ none ∧ cause ≠ none ∧
        ∀ document ∈ documents,
          ¬(name = some document.category ∧ cause = some document.cause)) ∧
      (∀ document ∈ documents, name = some document.category → cause = some document.cause →
        ∃ source error, IsSource envelope source ∧ document.asked.Fault source error ∧
          reason.message = error.message)) ∧
    (∀ (envelope : Json) (document : Document), document ∈ documents →
      document.asked = .members [] → Names envelope document.category document.cause →
      ∀ name cause detail reason,
        ofEnvelope envelope ≠ .unclassified name cause detail reason) := by
  constructor
  · intro envelope name cause detail reason hkept
    obtain ⟨-, hdetail, hname, hcause, hwhy⟩ := ofEnvelope_eq_unclassified_iff.mp hkept
    refine ⟨hdetail, ?_, ?_, hwhy.message_unnamed_iff, hwhy.message_unknownPair_iff, ?_⟩
    · intro text
      rw [hname]
      exact category?_eq_some_iff
    · intro text
      rw [hcause]
      exact cause?_eq_some_iff
    · intro document hdocument hcategory hnamed
      obtain ⟨source, error, hsource, hfault, rfl⟩ := hwhy.exists_fault hdocument hcategory hnamed
      exact ⟨source, error, hsource, hfault, rfl⟩
  · intro envelope document hdocument hnothing hnames name cause detail reason hkept
    obtain ⟨hcategory, hnamed⟩ := names_iff.mp hnames
    obtain ⟨-, -, hname, hcause, hwhy⟩ := ofEnvelope_eq_unclassified_iff.mp hkept
    obtain ⟨source, error, -, hfault, -⟩ :=
      hwhy.exists_fault hdocument (hname.trans hcategory) (hcause.trans hnamed)
    rw [hnothing] at hfault
    exact not_firstFault_nil hfault

/-- An account that is reported as unknown at a height that is no number, and reports that name
nothing, half of what they should, or something new. -/
theorem unclassified_tells_why_height :
    let info : Json := .object [("requested_account_id", .string "a.testnet"),
      ("block_height", .string "100"), ("block_hash", .null)]
    let report (cause : String) : Json := .object [("name", .string "HANDLER_ERROR"),
      ("cause", .object [("name", .string cause), ("info", info)])]
    (∃ (detail : Json) (reason : Reason) (source : Json) (error : CodecError),
      ofEnvelope (report "UNKNOWN_ACCOUNT") =
        .unclassified (some "HANDLER_ERROR") (some "UNKNOWN_ACCOUNT") detail reason ∧
      detail = report "UNKNOWN_ACCOUNT" ∧ IsSource (report "UNKNOWN_ACCOUNT") source ∧
      (Asked.atBlock "requested_account_id").Fault source error ∧ reason.message = error.message ∧
      reason.message = "type mismatch: expected unsigned field `block_height`, found string") ∧
    (∃ reason, ofEnvelope (report "NEW") =
        .unclassified (some "HANDLER_ERROR") (some "NEW") (report "NEW") reason ∧
      reason.message = "unknown error kind") ∧
    (∃ reason, ofEnvelope info = .unclassified none none info reason ∧
      reason.message = "envelope has no name/cause") ∧
    ∀ name cause detail reason,
      ofEnvelope (report "NO_SYNCED_BLOCKS") ≠ .unclassified name cause detail reason := by
  intro info report
  obtain ⟨htells, hbare⟩ := unclassified_tells_why
  have hkept : ofEnvelope (report "UNKNOWN_ACCOUNT") = .unclassified (some "HANDLER_ERROR")
      (some "UNKNOWN_ACCOUNT") _
      (.detail (.typeMismatch (.unsignedMember "block_height") (.kind "string"))) := rfl
  have hnew : ofEnvelope (report "NEW") = .unclassified (some "HANDLER_ERROR") (some "NEW") _
      .unknownPair := rfl
  have hnothing : ofEnvelope info = .unclassified none none _ .unnamed := rfl
  have haccount : ⟨"HANDLER_ERROR", "UNKNOWN_ACCOUNT", .atBlock "requested_account_id"⟩ ∈
      documents := List.mem_of_getElem? (show documents[9]? = some _ from rfl)
  have hsynced : ⟨"HANDLER_ERROR", "NO_SYNCED_BLOCKS", .members []⟩ ∈ documents :=
    List.mem_of_getElem? (show documents[5]? = some _ from rfl)
  obtain ⟨hdetail, -, -, -, -, hfault⟩ := htells _ _ _ _ _ hkept
  obtain ⟨source, error, hsource, hfirst, hmessage⟩ := hfault _ haccount rfl rfl
  refine ⟨⟨_, _, source, error, hkept, hdetail, hsource, hfirst, hmessage, by decide⟩,
    ⟨_, hnew, rfl⟩, ⟨_, hnothing, ?_⟩, ?_⟩
  · exact (htells _ _ _ _ _ hnothing).2.2.2.1.mpr (.inl rfl)
  · exact hbare _ _ hsynced rfl (names_iff.mpr ⟨rfl, rfl⟩)

end RpcFailure

end LedgerWire
