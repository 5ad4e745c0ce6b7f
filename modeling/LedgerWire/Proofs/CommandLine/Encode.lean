import LedgerWire.CommandLine.Run
import LedgerWire.Proofs.Text.Numerals
import LedgerWire.Proofs.Transaction.Signing

/-!
# What is printed of a transaction

A file that holds no transaction gets nothing printed. Of a transaction with canonical bytes the
first three lines show the bytes, their digest and their number. A signed transaction follows only
where a signature was asked for and one was made that the transaction admits, so what is printed
as signed can be taken at its word.
-/

namespace LedgerWire

namespace Command

/-- The file is a text that decodes as the transaction. -/
def Holds (files : Files) (path : String) (t : Transaction) : Prop :=
  ∃ text value, files path = .ok text ∧ Json.ofText? text = some value ∧
    Transaction.schema.read value = .ok t

/-- The configured signer is that of the transaction, its key makes the signature over the message,
and the key that the transaction names admits it. -/
def Signs (config : ClientConfig) (t : Transaction) (message : Bytes) (signature : Signature) :
    Prop :=
  ∃ signer, config.signer = some signer ∧ signer.accountId = t.signerId ∧
    signer.secretKey.sign message = .ok signature ∧ t.publicKey.verify message signature = true

/-- A line that begins as one with a signed transaction does. -/
def IsSignedLine (line : String) : Prop := "signed:".toList <+: line.toList

variable {config : ClientConfig} {files : Files} {path : String} {sign : Bool} {t : Transaction}
  {bytes : Bytes}

/-! ### The signed transaction -/

/-- A signed transaction is handed out exactly when the signer signs. -/
theorem signedPayload_eq_ok_iff (hencode : Wire.encode t = .ok bytes) {payload : String} :
    signedPayload config t = .ok payload ↔
      ∃ signature, Signs config t (sha256.digest bytes) signature ∧
        (⟨t, signature⟩ : SignedTransaction).base64 = .ok payload := by
  unfold signedPayload
  cases hsigner : config.signer with
  | none =>
    refine iff_of_false nofun ?_
    rintro ⟨signature, ⟨signer, hconfig, -⟩, -⟩
    rw [hsigner] at hconfig
    cases hconfig
  | some signer =>
    have honly : ∀ signature, Signs config t (sha256.digest bytes) signature ↔
        signer.accountId = t.signerId ∧ t.sign signer.secretKey = .ok ⟨t, signature⟩ ∧
          (⟨t, signature⟩ : SignedTransaction).verify = true := by
      intro signature
      rw [Signs, hsigner, Transaction.sign_eq_ok_iff hencode,
        SignedTransaction.verify_eq ⟨t, signature⟩ hencode]
      simp
    simp only [honly]
    by_cases haccount : signer.accountId = t.signerId
    · rw [if_neg (not_not.mpr haccount)]
      cases hsign : t.sign signer.secretKey with
      | error fault =>
        refine iff_of_false nofun ?_
        rintro ⟨signature, ⟨-, h, -⟩, -⟩
        cases h
      | ok signed =>
        obtain ⟨signature, -, rfl⟩ := (Transaction.sign_eq_ok_iff hencode).mp hsign
        by_cases hverify : (⟨t, signature⟩ : SignedTransaction).verify = true
        · rw [Except.mapError_ok, Except.ok_bind, if_pos hverify, Except.mapError_eq_ok_iff]
          constructor
          · intro hbase64
            exact ⟨signature, ⟨haccount, rfl, hverify⟩, hbase64⟩
          · rintro ⟨other, ⟨-, hsame, -⟩, hbase64⟩
            cases hsame
            exact hbase64
        · rw [Except.mapError_ok, Except.ok_bind, if_neg hverify]
          refine iff_of_false nofun ?_
          rintro ⟨other, ⟨-, hsame, hother⟩, -⟩
          cases hsame
          exact hverify hother
    · rw [if_pos haccount]
      refine iff_of_false nofun ?_
      rintro ⟨signature, ⟨h, -⟩, -⟩
      exact haccount h

/-- Where the signer signs, there is something to hand out. -/
theorem exists_signedPayload_iff (hencode : Wire.encode t = .ok bytes) :
    (∃ payload, signedPayload config t = .ok payload) ↔
      ∃ signature, Signs config t (sha256.digest bytes) signature := by
  constructor
  · rintro ⟨payload, hpayload⟩
    obtain ⟨signature, hsigns, -⟩ := (signedPayload_eq_ok_iff hencode).mp hpayload
    exact ⟨signature, hsigns⟩
  · rintro ⟨signature, hsigns⟩
    have hwhole := SignedTransaction.encode_eq ⟨t, signature⟩ hencode
    obtain ⟨payload, hbase64, -⟩ := SignedTransaction.base64_decode ⟨t, signature⟩ hwhole
    exact ⟨payload, (signedPayload_eq_ok_iff hencode).mpr ⟨signature, hsigns, hbase64⟩⟩

/-- What is handed out is the transaction with a valid signature, after the bytes of the
transaction. -/
theorem signed_of_signedPayload (hencode : Wire.encode t = .ok bytes) {payload : String}
    (hpayload : signedPayload config t = .ok payload) :
    ∃ (signedBytes : Bytes) (signed : SignedTransaction),
      Base64.decode payload = .ok signedBytes ∧ Wire.decode signedBytes = .ok signed ∧
      signed.transaction = t ∧ signed.verify = true ∧ bytes <+: signedBytes := by
  obtain ⟨signature, hsigns, hbase64⟩ := (signedPayload_eq_ok_iff hencode).mp hpayload
  obtain ⟨signer, -, -, -, hverify⟩ := hsigns
  have hwhole := SignedTransaction.encode_eq ⟨t, signature⟩ hencode
  obtain ⟨text, htext, hread, hdecode⟩ := SignedTransaction.base64_decode ⟨t, signature⟩ hwhole
  obtain rfl : text = payload := Except.ok.inj (htext.symm.trans hbase64)
  refine ⟨_, ⟨t, signature⟩, hread, hdecode, rfl, ?_, List.prefix_append _ _⟩
  rw [SignedTransaction.verify_eq ⟨t, signature⟩ hencode]
  exact hverify

/-! ### The printed lines -/

/-- The lines on the bytes of a transaction. -/
def factLines (bytes : Bytes) : List String :=
  ["bytes: " ++ Hex.encode bytes, "hash:  " ++ Base58.encode (sha256.digest bytes),
    "size:  " ++ Decimal.write bytes.length]

/-- A line about the digest or the size is no signed line. -/
theorem not_isSignedLine_of_mem_factLines {line : String} (hline : line ∈ factLines bytes) :
    ¬IsSignedLine line := by
  simp only [factLines, List.mem_cons, List.not_mem_nil, or_false] at hline
  rcases hline with rfl | rfl | rfl <;>
    simp [IsSignedLine, String.toList_append]

/-- What is printed of a transaction that has bytes: the lines about it, and what comes
of signing. -/
theorem printTransaction_eq (hencode : Wire.encode t = .ok bytes) :
    printTransaction config t sign =
      if sign then
        match signedPayload config t with
        | .ok payload => { printed := factLines bytes ++ ["signed: " ++ payload] }
        | .error failure => { printed := factLines bytes, failure := some failure }
      else { printed := factLines bytes } := by
  rw [printTransaction, hencode]
  rfl

/-- A file is read as the value that its text is. -/
theorem readJson_eq_ok_iff {value : Json} :
    readJson files path = .ok value ↔
      ∃ text, files path = .ok text ∧ Json.ofText? text = some value := by
  unfold readJson
  cases hfile : files path with
  | error fault => simp
  | ok text => cases hjson : Json.ofText? text <;> simp [hjson]

/-- Encoding a file that holds a transaction prints the transaction. -/
theorem runEncode_of_holds (hholds : Holds files path t) :
    runEncode config files path sign = printTransaction config t sign := by
  obtain ⟨text, value, hfile, hjson, hread⟩ := hholds
  rw [runEncode, readJson_eq_ok_iff.mpr ⟨text, hfile, hjson⟩]
  simp only [hread]

/-- A file that holds no transaction gets nothing printed. -/
theorem runEncode_of_not_holds (hnone : ∀ t, ¬Holds files path t) :
    (runEncode config files path sign).printed = [] ∧
      (runEncode config files path sign).failure.isSome = true := by
  unfold runEncode
  cases hvalue : readJson files path with
  | error failure => exact ⟨rfl, rfl⟩
  | ok value =>
    cases hread : Transaction.schema.read value with
    | error error => simp only [hread, Report.failed, Option.isSome_some, and_self]
    | ok t =>
      obtain ⟨text, hfile, hjson⟩ := readJson_eq_ok_iff.mp hvalue
      exact absurd ⟨text, value, hfile, hjson, hread⟩ (hnone t)

/-- A signed transaction is printed exactly where one is handed out, and last. Otherwise the run
fails if it was to be signed, and no line looks like one. -/
theorem printTransaction_cases (config : ClientConfig) (sign : Bool)
    (hencode : Wire.encode t = .ok bytes) :
    (∃ payload, sign = true ∧ signedPayload config t = .ok payload ∧
      printTransaction config t sign =
        { printed := factLines bytes ++ ["signed: " ++ payload] }) ∨
    (∃ failure, sign = true ∧ signedPayload config t = .error failure ∧
      printTransaction config t sign = { printed := factLines bytes, failure := some failure }) ∨
    (sign = false ∧ printTransaction config t sign = { printed := factLines bytes }) := by
  rw [printTransaction_eq hencode]
  cases sign with
  | false => exact Or.inr (Or.inr ⟨rfl, rfl⟩)
  | true =>
    cases hpayload : signedPayload config t with
    | ok payload => exact Or.inl ⟨payload, rfl, rfl, rfl⟩
    | error failure => exact Or.inr (Or.inl ⟨failure, rfl, rfl, rfl⟩)

/-- The fourth line is what was handed out. -/
theorem printed_signed_iff (hencode : Wire.encode t = .ok bytes) {payload : String} :
    (printTransaction config t sign).printed[3]? = some ("signed: " ++ payload) ↔
      sign = true ∧ signedPayload config t = .ok payload := by
  have hthree : (factLines bytes)[3]? = none := rfl
  rcases printTransaction_cases config sign hencode with
    ⟨other, hsign, hother, hprint⟩ | ⟨failure, -, hfailure, hprint⟩ | ⟨hsign, hprint⟩
  · have hfour : (factLines bytes ++ ["signed: " ++ other])[3]? = some ("signed: " ++ other) := rfl
    rw [hprint, hfour, hother]
    constructor
    · intro hsame
      rw [Option.some.injEq, String.append_right_inj] at hsame
      exact ⟨hsign, congrArg Except.ok hsame⟩
    · rintro ⟨-, hsame⟩
      rw [Except.ok.inj hsame]
  · rw [hprint, hthree, hfailure]
    exact iff_of_false nofun (fun hboth => nomatch hboth.2)
  · rw [hprint, hthree, hsign]
    exact iff_of_false nofun (fun hboth => nomatch hboth.1)

/-- A transaction that has no canonical bytes gets nothing printed either. -/
theorem runEncode_of_long (hholds : Holds files path t) (hlong : ¬t.Short) :
    (runEncode config files path sign).printed = [] ∧
      (runEncode config files path sign).failure.isSome = true := by
  rw [runEncode_of_holds hholds, printTransaction]
  cases hencode : Wire.encode t with
  | error error => exact ⟨rfl, rfl⟩
  | ok bytes => exact absurd (Transaction.short_of_encode hencode) hlong

/-- Where the signer does not sign, a run that was to sign fails, and no line that was printed
before looks like a signed one. -/
theorem printTransaction_of_not_signs (hencode : Wire.encode t = .ok bytes)
    (hnone : ∀ signature, ¬Signs config t (sha256.digest bytes) signature) :
    (printTransaction config t true).failure.isSome = true ∧
      ∀ line ∈ (printTransaction config t true).printed, ¬IsSignedLine line := by
  rcases printTransaction_cases config true hencode with
    ⟨payload, -, hpayload, -⟩ | ⟨failure, -, -, hprint⟩ | ⟨hunsigned, -⟩
  · obtain ⟨signature, hsigns⟩ := (exists_signedPayload_iff hencode).mp ⟨payload, hpayload⟩
    exact absurd hsigns (hnone signature)
  · rw [hprint]
    exact ⟨rfl, fun line hline => not_isSignedLine_of_mem_factLines hline⟩
  · cases hunsigned

/-- A run that was to sign where the signer does not sign fails, whether or not there is a
transaction in the file, and prints no line that looks like a signed one. -/
theorem runEncode_of_not_signs
    (hnone : ¬∃ t bytes signature, Holds files path t ∧ Wire.encode t = .ok bytes ∧
      Signs config t (sha256.digest bytes) signature) :
    (runEncode config files path true).failure.isSome = true ∧
      ∀ line ∈ (runEncode config files path true).printed, ¬IsSignedLine line := by
  have hnothing : (runEncode config files path true).printed = [] →
      ∀ line ∈ (runEncode config files path true).printed, ¬IsSignedLine line := by
    intro hempty line hline
    rw [hempty] at hline
    cases hline
  by_cases hsome : ∃ t, Holds files path t
  · obtain ⟨t, hholds⟩ := hsome
    by_cases hshort : t.Short
    · obtain ⟨bytes, hencode⟩ := hshort.exists_encode
      rw [runEncode_of_holds hholds]
      refine printTransaction_of_not_signs hencode fun signature hsigns => ?_
      exact hnone ⟨t, bytes, signature, hholds, hencode, hsigns⟩
    · obtain ⟨hempty, hfails⟩ := runEncode_of_long hholds hshort
      exact ⟨hfails, hnothing hempty⟩
  · obtain ⟨hempty, hfails⟩ := runEncode_of_not_holds (not_exists.mp hsome)
    exact ⟨hfails, hnothing hempty⟩

/-- What is printed of a file. Without a transaction in it, and with one that has no canonical
bytes, nothing is printed and the run fails. Otherwise the first three lines show the bytes, from
which the transaction comes back, their digest and their number. A fourth line follows exactly
where a signature was asked for and the signer signs, and it holds the transaction with a valid
signature. In every other run that was to sign, the run fails and no line looks like a signed
one. An invocation whose configuration is not read prints nothing and fails, and any other does
what is said here of its configuration. -/
theorem runEncode_exact (config : ClientConfig) (files : Files) (path : String) (sign : Bool) :
    let report := runEncode config files path sign
    ((∀ t, ¬Holds files path t) → report.printed = [] ∧ report.failure.isSome = true) ∧
    (∀ t, Holds files path t → ¬t.Short → report.printed = [] ∧ report.failure.isSome = true) ∧
    (∀ t, Holds files path t → t.Short → ∃ bytes, Wire.encode t = .ok bytes ∧
      report.printed.take 3 = ["bytes: " ++ Hex.encode bytes,
        "hash:  " ++ Base58.encode (sha256.digest bytes),
        "size:  " ++ Decimal.write bytes.length] ∧
      Hex.decode? (Hex.encode bytes) = some bytes ∧ Wire.decode bytes = .ok t ∧
      ((∃ payload, report.printed[3]? = some ("signed: " ++ payload)) ↔
        sign = true ∧ ∃ signature, Signs config t (sha256.digest bytes) signature) ∧
      (∀ payload, report.printed[3]? = some ("signed: " ++ payload) →
        report.failure = none ∧ report.printed.length = 4 ∧
        ∃ (signedBytes : Bytes) (signed : SignedTransaction),
          Base64.decode payload = .ok signedBytes ∧ Wire.decode signedBytes = .ok signed ∧
          signed.transaction = t ∧ signed.verify = true ∧ bytes <+: signedBytes) ∧
      (sign = false → report.failure = none ∧ report.printed.length = 3)) ∧
    (sign = true → (¬∃ t bytes signature, Holds files path t ∧ Wire.encode t = .ok bytes ∧
        Signs config t (sha256.digest bytes) signature) →
      report.failure.isSome = true ∧ ∀ line ∈ report.printed, ¬IsSignedLine line) ∧
    ∀ (invocation : Invocation) (network : Post → Reply),
      invocation.command = .encode path sign →
      (∀ failure, invocation.readConfig files = .error failure →
        (invocation.run files network).printed = [] ∧
          (invocation.run files network).failure = some failure) ∧
      (invocation.readConfig files = .ok config → invocation.run files network = report) := by
  intro report
  refine ⟨runEncode_of_not_holds, fun t => runEncode_of_long, ?_, ?_, ?_⟩
  · intro t hholds hshort
    obtain ⟨bytes, hencode⟩ := hshort.exists_encode
    have hrun : report = printTransaction config t sign := runEncode_of_holds hholds
    rw [hrun]
    refine ⟨bytes, hencode, ?_, Hex.decode?_encode bytes,
      Wire.decode_eq_ok_iff_encode.mpr hencode, ?_, ?_, ?_⟩
    · rcases printTransaction_cases config sign hencode with
        ⟨_, -, -, hprint⟩ | ⟨_, -, -, hprint⟩ | ⟨-, hprint⟩ <;> rw [hprint] <;> rfl
    · simp only [printed_signed_iff hencode, exists_and_left]
      rw [exists_signedPayload_iff hencode]
    · intro payload hline
      obtain ⟨hsign, hpayload⟩ := (printed_signed_iff hencode).mp hline
      rw [printTransaction_eq hencode, if_pos hsign, hpayload]
      exact ⟨rfl, rfl, signed_of_signedPayload hencode hpayload⟩
    · intro hsign
      rw [printTransaction_eq hencode, hsign, if_neg Bool.false_ne_true]
      exact ⟨rfl, rfl⟩
  · intro hsign hnone
    subst hsign
    exact runEncode_of_not_signs hnone
  · intro invocation network hcommand
    constructor
    · intro failure hfailure
      rw [Invocation.run, hfailure]
      exact ⟨rfl, rfl⟩
    · intro hconfig
      rw [Invocation.run, hconfig]
      simp only [hcommand, report]

/-- The transfer `Transaction.sample` as a file holds it. -/
def sampleText : String :=
  "\x7b\"signer_id\":\"alice.near\",\"public_key\":" ++
  "\"ed25519:FVen3X669xLzsi6N2V91DoiyzHzg1uAgqiT8jZ9nS96Z\",\"nonce\":7," ++
  "\"receiver_id\":\"bob.near\",\"block_hash\":\"11111111111111111111111111111111\"," ++
  "\"actions\":[\x7b\"Transfer\":\x7b\"deposit\":\"1\"\x7d\x7d]\x7d"

/-- The sample text is the sample transaction in JSON. -/
theorem ofText?_sampleText :
    Json.ofText? sampleText = some (Transaction.schema.write Transaction.sample) := by
  decide +kernel

/-- A transfer is signed by the signer whose key it names. Without a signer no signature is made,
and without a file nothing is printed. -/
theorem runEncode_exact_transfer :
    let signer : SignerConfig := ⟨Transaction.sample.signerId, SecretKey.sample⟩
    let files : Files := fun path => if path = "t.json" then .ok sampleText else .error .notFound
    Holds files "t.json" Transaction.sample ∧ (∀ t, ¬Holds files "u.json" t) ∧
    (∃ (payload : String) (signedBytes : Bytes) (signed : SignedTransaction),
      (runEncode { signer := some signer } files "t.json" true).printed[3]? =
        some ("signed: " ++ payload) ∧
      Base64.decode payload = .ok signedBytes ∧ Wire.decode signedBytes = .ok signed ∧
      signed.transaction = Transaction.sample ∧ signed.verify = true) ∧
    (runEncode { signer := some signer } files "t.json" false).printed.length = 3 ∧
    (runEncode .standard files "t.json" true).failure.isSome = true ∧
    (runEncode { signer := some signer } files "u.json" true).printed = [] ∧
    ∀ network, ((⟨none, .encode "t.json" true⟩ : Invocation).run files network).failure.isSome =
      true := by
  intro signer files
  have hholds : Holds files "t.json" Transaction.sample :=
    ⟨sampleText, _, if_pos rfl, ofText?_sampleText, Schema.restores Transaction.sample⟩
  have hmissing : ∀ t, ¬Holds files "u.json" t := by
    rintro t ⟨text, value, hfile, -, -⟩
    rw [show files "u.json" = .error .notFound from if_neg (by decide)] at hfile
    cases hfile
  obtain ⟨-, -, hsigned, -, -⟩ := runEncode_exact { signer := some signer } files "t.json" true
  obtain ⟨bytes, -, -, -, -, hline, hpayload, -⟩ :=
    hsigned Transaction.sample hholds Transaction.sample_short
  have hsigns : ∃ signature, Signs { signer := some signer } Transaction.sample
      (sha256.digest bytes) signature := by
    obtain ⟨signature, hsign, hadmits⟩ :=
      SecretKey.sample_matching.exists_sign (sha256.digest bytes)
    exact ⟨signature, signer, rfl, rfl, hsign, hadmits _ SecretKey.sample_matching.publicKey_eq⟩
  obtain ⟨payload, hfourth⟩ := hline.mpr ⟨rfl, hsigns⟩
  obtain ⟨-, -, signedBytes, signed, hread, hdecode, htransaction, hverify, -⟩ :=
    hpayload payload hfourth
  obtain ⟨-, -, hunsigned, -, -⟩ := runEncode_exact { signer := some signer } files "t.json" false
  obtain ⟨-, -, -, -, -, -, -, hthree⟩ :=
    hunsigned Transaction.sample hholds Transaction.sample_short
  obtain ⟨-, -, -, hrefused, hrun⟩ := runEncode_exact .standard files "t.json" true
  have hfails : (runEncode .standard files "t.json" true).failure.isSome = true := by
    refine (hrefused rfl ?_).1
    rintro ⟨t, bytes, signature, -, -, signer, hnone, -⟩
    cases hnone
  obtain ⟨hnothing, -⟩ := runEncode_exact { signer := some signer } files "u.json" true
  refine ⟨hholds, hmissing, ⟨payload, signedBytes, signed, hfourth, hread, hdecode, htransaction,
    hverify⟩, (hthree rfl).2, hfails, (hnothing hmissing).1, fun network => ?_⟩
  rw [(hrun ⟨none, .encode "t.json" true⟩ network rfl).2 rfl]
  exact hfails

end Command

end LedgerWire
