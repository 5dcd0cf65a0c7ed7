import PosvGateway.Proofs.Construction.Workflow
import PosvGateway.Proofs.Keccak

/-!
# What is signed

Between `payloads` and `hash` a transfer takes two forms on the wire, and its sender is first
written down and later recovered from a signature. The two forms describe one transfer, and the
signatures that join them are the sender's.

* `parse_combine` : **what was described before signing is what was signed**;
* `combine_payloads` : **the signatures that are accepted are the sender's, of the payload that was
  advertised**.
-/

namespace PosvGateway.Construction

/-! ### Descriptions -/

/-- A transaction is described alike before and after a signature is attached, but for who has
signed. -/
theorem describeSigned_attach {e : UnsignedTransaction} {signature : Bytes}
    {tx : SignedTransaction} (hchain : 2 * e.chainId.toNat + 36 < 2 ^ 64)
    (h : SignedTransaction.attach e signature = .ok tx) :
    describeSigned tx e.sender = { describeUnsigned e with signers := [.ofAddress e.sender] } := by
  obtain ⟨-, odd, -, rfl⟩ := SignedTransaction.attach_eq_ok.mp h
  rw [describeSigned, SignedTransaction.chainId_of_v hchain rfl]
  rfl

theorem parse_unsigned {text : String} {e : UnsignedTransaction}
    (h : readUnsigned "transaction" text = .ok e) :
    parse text false e.chainId = .ok (describeUnsigned e) := by
  rw [parse, if_neg Bool.false_ne_true]
  exact Except.bind_eq_ok.mpr ⟨e, h, Except.bind_eq_ok.mpr ⟨(), requireChain_eq_ok.mpr rfl, rfl⟩⟩

theorem parse_signed {text : String} {tx : SignedTransaction} {chain : UInt64} {sender : Address}
    (h : readSigned "transaction" text = .ok tx) (hchain : tx.chainId = some chain)
    (hsender : tx.sender = .ok sender) :
    parse text true chain = .ok (describeSigned tx sender) := by
  have hrequire : requireChain chain chain = .ok () := requireChain_eq_ok.mpr rfl
  have hmap : Except.mapError ConstructionError.recovery tx.sender = .ok sender :=
    Except.mapError_eq_ok.mpr hsender
  rw [parse, if_pos rfl, h]
  simp only [bind, Except.bind, hchain, hrequire, hmap]
  rfl

/-- The numbers of a description, in key order. -/
theorem describeNumbers_some (nonce : UInt64) (price : Uint256) (limit chain : UInt64) :
    describeNumbers nonce price limit (some chain) =
      [("chain_id", .string (Numeral.hex chain.toNat)),
        ("gas_limit", .string (Numeral.hex limit.toNat)),
        ("gas_price", .string (Numeral.hex price.toNat)),
        ("nonce", .string (Numeral.hex nonce.toNat))] := by
  have hchain : compare "chain_id" "gas_limit" = .lt := by decide
  have hlimit : compare "gas_limit" "gas_price" = .lt := by decide
  have hprice : compare "gas_price" "nonce" = .lt := by decide
  simp only [describeNumbers, OrderedMap.ofList, OrderedMap.insert, Option.map_some,
    Option.toList_some, List.cons_append, List.nil_append, List.foldl_cons, List.foldl_nil, hprice,
    hlimit, hchain]
  rfl

theorem hash_encode {tx : SignedTransaction}
    (h : readSigned "signed_transaction" (Hex.encode tx.encode) = .ok tx) :
    hash (Hex.encode tx.encode) = .ok (keccak256 tx.encode) :=
  hash_eq_ok.mpr ⟨tx, h, rfl⟩

/-- The input of a transaction is shorter than the text it was read from. -/
theorem length_input_lt {what text : String} {e : UnsignedTransaction}
    (hread : readUnsigned what text = .ok e) (htext : text.utf8ByteSize < 2 ^ 63) :
    e.input.length < 2 ^ 63 := by
  obtain ⟨bytes, hbytes, hdecode⟩ := readUnsigned_eq_ok.mp hread
  obtain ⟨-, rfl⟩ := UnsignedTransaction.decode_eq_ok.mp hdecode
  have hinput := e.length_input_le
  have hhalf := Hex.two_mul_length_le hbytes
  omega

/-- **What was described before signing is what was signed.** When a signature is attached to the
text of an unsigned transaction, both texts are described, with the same operations and the same
numbers, the chain among them; the sender, who was only named before, is the one account that has
signed; and the hash of the signed text is the digest of its bytes. -/
theorem parse_combine {text signed : String} {signatures : List SignedPayload} {chain : UInt64}
    (htext : text.utf8ByteSize < 2 ^ 63) (hchain : 2 * chain.toNat + 36 < 2 ^ 64)
    (h : combine text signatures chain = .ok signed) :
    ∃ e before after bytes, readUnsigned "unsigned_transaction" text = .ok e ∧
      parse text false chain = .ok before ∧ parse signed true chain = .ok after ∧
      after.operations = before.operations ∧ after.metadata = before.metadata ∧
      before.metadata = [("chain_id", .string (Numeral.hex chain.toNat)),
        ("gas_limit", .string (Numeral.hex e.gasLimit.toNat)),
        ("gas_price", .string (Numeral.hex e.gasPrice.toNat)),
        ("nonce", .string (Numeral.hex e.nonce.toNat))] ∧
      before.signers = [] ∧ after.signers = [.ofAddress e.sender] ∧
      Hex.decodeRepeated signed = .ok bytes ∧ hash signed = .ok (keccak256 bytes) := by
  obtain ⟨e, signature, tx, hread, -, rfl, hattach, rfl⟩ := combine_eq_ok.mp h
  obtain ⟨hattached, hsender⟩ := attach_eq_ok.mp hattach
  have hinput := length_input_lt hread htext
  have hbefore : parse text false e.chainId = .ok (describeUnsigned e) :=
    parse_unsigned (readUnsigned_eq_ok.mpr (readUnsigned_eq_ok.mp hread))
  have hafter : parse (Hex.encode tx.encode) true e.chainId
      = .ok { describeUnsigned e with signers := [.ofAddress e.sender] } := by
    obtain ⟨-, odd, -, htx⟩ := SignedTransaction.attach_eq_ok.mp hattached
    -- `parse` looks for the chain in the recovery value.
    have hbound : tx.chainId = some e.chainId :=
      SignedTransaction.chainId_of_v hchain (congrArg SignedTransaction.v htx)
    rw [← describeSigned_attach hchain hattached]
    exact parse_signed (readSigned_encode hchain hinput hattached) hbound hsender
  exact ⟨e, _, _, tx.encode, hread, hbefore, hafter, rfl, rfl,
    describeNumbers_some e.nonce e.gasPrice e.gasLimit e.chainId, rfl, rfl,
    Hex.decodeRepeated_encode _, hash_encode (readSigned_encode hchain hinput hattached)⟩

/-- The account of the private key one, whose public key is the generator of the curve. -/
def firstAccount : Address :=
  PublicKey.address
    { x := 0x79be667ef9dcbbac55a06295ce870b07029bfcdb2dce28d959f2815b16f81798
      y := 0x483ada7726a3c4655da4fbfc0e1108a8fd17b448a68554199c47d08ffb10d4b8 }

/-- A transfer of 100 units by that account. -/
def firstTransfer : UnsignedTransaction where
  sender := firstAccount
  recipient := .ofNat 20 0x2222222222222222222222222222222222222222
  value := 100
  input := []
  nonce := 9
  gasPrice := 250000000
  gasLimit := 21000
  chainId := 88

/-- The signature of that transfer. -/
def firstSignature : Bytes :=
  Bytes.ofNatSized 32 0x451642c4a16d36ee1f961d4d121cf28899c712e76b4a7f4a96e95bfde9ccef8e
    ++ Bytes.ofNatSized 32 0x4320e919c0a60bebea95b46c0aaf33e62c2991403c37bb774a6afb82f62786fa
    ++ [0]

/-- That signature as the client sends it. -/
def firstSigned : SignedPayload where
  payload := payload firstTransfer
  key := { hexBytes := "", curveType := curveName }
  signatureType := signatureName
  hexBytes := Hex.encode firstSignature

theorem signerKey_firstSignature :
    Signature.signerKey firstTransfer.signingDigest firstSignature
      = .ok { x := 0x79be667ef9dcbbac55a06295ce870b07029bfcdb2dce28d959f2815b16f81798
              y := 0x483ada7726a3c4655da4fbfc0e1108a8fd17b448a68554199c47d08ffb10d4b8 } := by
  rw [UnsignedTransaction.signingDigest, LegacyTransaction.signingDigest, Keccak.keccak256_eq]
  decide +kernel

theorem exists_combine_firstTransfer :
    ∃ signed, combine (Hex.encode firstTransfer.encode) [firstSigned] 88 = .ok signed := by
  have hsigner : Signature.signer firstTransfer.signingDigest firstSignature = .ok firstAccount :=
    Except.map_eq_ok.mpr ⟨_, signerKey_firstSignature, rfl⟩
  obtain ⟨tx, hattach⟩ := (exists_attach (by decide)).mpr hsigner
  have hsignature : readSignature [firstSigned] = .ok firstSignature :=
    readSignature_singleton.mpr ⟨Hex.decodeRepeated_encode _, by decide⟩
  exact ⟨_, combine_eq_ok.mpr ⟨firstTransfer, firstSignature, tx, readUnsigned_encode (by decide),
    hsignature, rfl, hattach, rfl⟩⟩

theorem parse_combine_firstTransfer :
    (Hex.encode firstTransfer.encode).utf8ByteSize < 2 ^ 63 ∧
      2 * (88 : UInt64).toNat + 36 < 2 ^ 64 ∧
      ∃ signed, combine (Hex.encode firstTransfer.encode) [firstSigned] 88 = .ok signed ∧
        ∃ before after bytes,
          readUnsigned "unsigned_transaction" (Hex.encode firstTransfer.encode)
            = .ok firstTransfer ∧
          parse (Hex.encode firstTransfer.encode) false 88 = .ok before ∧
          parse signed true 88 = .ok after ∧
          after.operations = before.operations ∧ after.metadata = before.metadata ∧
          before.metadata = [("chain_id", .string "0x58"), ("gas_limit", .string "0x5208"),
            ("gas_price", .string "0xee6b280"), ("nonce", .string "0x9")] ∧
          before.signers = [] ∧ after.signers = [.ofAddress firstAccount] ∧
          Hex.decodeRepeated signed = .ok bytes ∧ hash signed = .ok (keccak256 bytes) := by
  obtain ⟨signed, hcombine⟩ := exists_combine_firstTransfer
  have htext : (Hex.encode firstTransfer.encode).utf8ByteSize < 2 ^ 63 := by
    rw [Hex.utf8ByteSize_encode]
    decide +kernel
  obtain ⟨e, before, after, bytes, hread, hbefore, hafter, hoperations, hmetadata, hnumbers,
    hnobody, hsigners, hbytes, hhash⟩ := parse_combine htext (by decide) hcombine
  have hfirst : readUnsigned "unsigned_transaction" (Hex.encode firstTransfer.encode)
      = .ok firstTransfer := readUnsigned_encode (by decide)
  obtain rfl : firstTransfer = e := Except.ok.inj (hfirst.symm.trans hread)
  exact ⟨htext, by decide, signed, hcombine, before, after, bytes, hfirst, hbefore, hafter,
    hoperations, hmetadata, hnumbers, hnobody, hsigners, hbytes, hhash⟩

/-! ### Signatures -/

/-- The text of an unsigned transaction takes the signatures of one account, of one digest. -/
structure Accepts (text : String) (chain : UInt64) (sender : Address) (digest : Digest) : Prop where
  /-- A signature is taken exactly when its 65 bytes are the account's signature of the digest. -/
  iff_signer : ∀ signed, (∃ s, combine text [signed] chain = .ok s) ↔
    ∃ bytes, Hex.decodeRepeated signed.hexBytes = .ok bytes ∧ bytes.length = Signature.size ∧
      Signature.signer digest bytes = .ok sender
  /-- Both conventions of the recovery byte are taken alike. -/
  conventions : ∀ new old front byte, byte = 0 ∨ byte = 1 →
    Hex.decodeRepeated new.hexBytes = .ok (front ++ [byte]) →
    Hex.decodeRepeated old.hexBytes = .ok (front ++ [byte + 27]) →
    combine text [new] chain = combine text [old] chain
  /-- Other recovery bytes are refused. -/
  refused : ∀ signed front byte, byte ∉ ([0, 1, 27, 28] : List UInt8) →
    Hex.decodeRepeated signed.hexBytes = .ok (front ++ [byte]) →
    ∃ e, combine text [signed] chain = .error e
  /-- The digest is the one that the sender of the signed transaction is recovered from. -/
  digest_eq : ∀ signed s, combine text [signed] chain = .ok s →
    ∃ tx, readSigned "transaction" s = .ok tx ∧ tx.signingDigest = digest ∧
      tx.sender = .ok sender

theorem combine_encode {e : UnsignedTransaction} (hinput : e.input.length < 2 ^ 63)
    (signatures : List SignedPayload) :
    combine (Hex.encode e.encode) signatures e.chainId = (do
      let signature ← readSignature signatures
      let tx ← attach e signature
      return Hex.encode tx.encode) := by
  have hchain : requireChain e.chainId e.chainId = .ok () := requireChain_eq_ok.mpr rfl
  rw [combine, readUnsigned_encode hinput]
  simp only [bind, Except.bind, hchain]

/-- A signature is attached by its first 64 bytes and the parity its recovery byte tells. -/
theorem attach_congr {e : UnsignedTransaction} {a b : Bytes} {odd : Bool}
    (ha : a.length = Signature.size) (hb : b.length = Signature.size)
    (hfront : a.take 64 = b.take 64) (hodda : Signature.parity? (a.getLastD 0) = some odd)
    (hoddb : Signature.parity? (b.getLastD 0) = some odd) : attach e a = attach e b := by
  obtain ⟨hr, hs⟩ := Signature.words_congr hfront
  have hattach : SignedTransaction.attach e a = SignedTransaction.attach e b := by
    simp only [SignedTransaction.attach, ha, hb, hodda, hoddb, hr, hs]
  rw [attach, attach, hattach]

theorem attach_conventions {e : UnsignedTransaction} {front : Bytes} {byte : UInt8}
    (hfront : front.length = 64) (hbyte : byte = 0 ∨ byte = 1) :
    attach e (front ++ [byte]) = attach e (front ++ [byte + 27]) := by
  have hlen : ∀ b : UInt8, (front ++ [b]).length = Signature.size := by
    intro b
    rw [List.length_append, hfront]
    rfl
  have htake : (front ++ [byte]).take 64 = (front ++ [byte + 27]).take 64 := by
    rw [List.take_left' hfront, List.take_left' hfront]
  obtain ⟨odd, hodd, hodd'⟩ : ∃ odd, Signature.parity? byte = some odd ∧
      Signature.parity? (byte + 27) = some odd := by
    rcases hbyte with rfl | rfl
    · exact ⟨false, rfl, rfl⟩
    · exact ⟨true, rfl, rfl⟩
  exact attach_congr (hlen _) (hlen _) htake (by rwa [List.getLastD_concat])
    (by rwa [List.getLastD_concat])

theorem readSignature_of_decode {signed : SignedPayload} {bytes : Bytes}
    (h : Hex.decodeRepeated signed.hexBytes = .ok bytes) :
    readSignature [signed] =
      if bytes.length = Signature.size then .ok bytes
      else .error (.signatureLength bytes.length) := by
  rw [readSignature, readBytes, h]
  rfl

theorem accepts_encode {e : UnsignedTransaction} (hinput : e.input.length < 2 ^ 63)
    (hchain : 2 * e.chainId.toNat + 36 < 2 ^ 64) :
    Accepts (Hex.encode e.encode) e.chainId e.sender e.signingDigest where
  iff_signer signed := by
    simp only [combine_encode hinput, Except.bind_eq_ok, readSignature_singleton]
    constructor
    · rintro ⟨s, bytes, ⟨hbytes, hlen⟩, tx, hattach, -⟩
      exact ⟨bytes, hbytes, hlen, (exists_attach hchain).mp ⟨tx, hattach⟩⟩
    · rintro ⟨bytes, hbytes, hlen, hsigner⟩
      obtain ⟨tx, hattach⟩ := (exists_attach hchain).mpr hsigner
      exact ⟨_, bytes, ⟨hbytes, hlen⟩, tx, hattach, rfl⟩
  conventions new old front byte hbyte hnew hold := by
    rw [combine_encode hinput, combine_encode hinput, readSignature_of_decode hnew,
      readSignature_of_decode hold]
    simp only [List.length_append, List.length_singleton]
    by_cases hfront : front.length = 64
    · rw [if_pos (by rw [hfront, Signature.size]), if_pos (by rw [hfront, Signature.size])]
      simp only [bind, Except.bind, attach_conventions hfront hbyte]
    · rw [if_neg (by rw [Signature.size]; omega), if_neg (by rw [Signature.size]; omega)]
  refused signed front byte hbyte hsigned := by
    cases hcombine : combine (Hex.encode e.encode) [signed] e.chainId with
    | error f => exact ⟨f, rfl⟩
    | ok s =>
      simp only [combine_encode hinput, Except.bind_eq_ok, readSignature_singleton, hsigned,
        Except.ok.injEq] at hcombine
      obtain ⟨-, ⟨rfl, -⟩, tx, hattach, -⟩ := hcombine
      obtain ⟨-, odd, hparity, -⟩ := SignedTransaction.attach_eq_ok.mp (attach_eq_ok.mp hattach).1
      rw [List.getLastD_concat] at hparity
      exact absurd (Signature.mem_of_parity? hparity) hbyte
  digest_eq signed s hcombine := by
    simp only [combine_encode hinput, Except.bind_eq_ok] at hcombine
    obtain ⟨signature, -, tx, hattach, hs⟩ := hcombine
    cases hs
    obtain ⟨hattached, hsender⟩ := attach_eq_ok.mp hattach
    exact ⟨tx, readSigned_encode hchain hinput hattached,
      SignedTransaction.signingDigest_attach hchain hattached, hsender⟩

/-- **The signatures that are accepted are the sender's, of the payload that was advertised.** The
operations are a debit and a credit; the text of their transaction takes exactly the signatures of
the account of the debit, of the digest that the payload asks to sign. -/
theorem combine_payloads {operations : List Operation} {metadata : Metadata} {chain : UInt64}
    {text : String} {advertised : SigningPayload} (hchain : 2 * chain.toNat + 36 < 2 ^ 64)
    (h : payloads operations metadata chain = .ok (text, advertised)) :
    ∃ debit credit sender digest, operations = [debit, credit] ∧
      Transfer.account debit = .ok sender ∧
      Hex.decodeOctets 32 advertised.hexBytes = .ok digest ∧ Accepts text chain sender digest := by
  obtain ⟨e, hunsigned, h⟩ := Except.bind_eq_ok.mp h
  cases h
  obtain ⟨rfl, hinput, debit, credit, rfl, hdebit, -⟩ := unsigned_eq_ok hunsigned
  exact ⟨debit, credit, e.sender, e.signingDigest, rfl, hdebit, Hex.decodeOctets_toHex _,
    accepts_encode (by rw [hinput]; decide) hchain⟩

/-- A transfer of 100 units as a client describes it. -/
def hundredUnits : List Operation :=
  [{ index := 0, kind := OperationType.call, amount := some ⟨"-100", .native⟩,
     account := some ⟨"0x7e5f4552091a69125d5dfcb7b8c2659029395bdf", none⟩ },
    { index := 1, kind := OperationType.call, amount := some ⟨"100", .native⟩,
      account := some ⟨"0x2222222222222222222222222222222222222222", none⟩ }]

/-- Its numbers. -/
def hundredUnitsMetadata : Metadata :=
  { nonce := "0x9", gasPrice := "0xee6b280", gasLimit := "0x5208" }

theorem exists_payloads_hundredUnits :
    ∃ text advertised, payloads hundredUnits hundredUnitsMetadata 88 = .ok (text, advertised) := by
  have hunsigned : unsigned hundredUnits hundredUnitsMetadata 88 = .ok
      { sender := .ofNat 20 0x7e5f4552091a69125d5dfcb7b8c2659029395bdf
        recipient := .ofNat 20 0x2222222222222222222222222222222222222222
        value := 100, input := [], nonce := 9, gasPrice := 250000000, gasLimit := 21000
        chainId := 88 } := by
    rfl
  exact ⟨_, _, Except.bind_eq_ok.mpr ⟨_, hunsigned, rfl⟩⟩

theorem combine_payloads_hundredUnits :
    2 * (88 : UInt64).toNat + 36 < 2 ^ 64 ∧ ∃ text advertised,
      payloads hundredUnits hundredUnitsMetadata 88 = .ok (text, advertised) ∧
        ∃ debit credit sender digest, hundredUnits = [debit, credit] ∧
          Transfer.account debit = .ok sender ∧
          Hex.decodeOctets 32 advertised.hexBytes = .ok digest ∧
          Accepts text 88 sender digest := by
  obtain ⟨text, advertised, h⟩ := exists_payloads_hundredUnits
  exact ⟨by decide, text, advertised, h, combine_payloads (by decide) h⟩

end PosvGateway.Construction
