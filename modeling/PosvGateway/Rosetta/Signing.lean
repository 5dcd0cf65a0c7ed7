import PosvGateway.Rosetta.Operation

/-!
# Keys, payloads and signatures

What a client and the gateway exchange about signing: the client's key, the payload it is asked to
sign, and the signature it answers with.
-/

namespace PosvGateway

/-- A key as a client writes it. -/
structure EncodedKey where
  hexBytes : String
  curveType : String
  deriving DecidableEq, Repr

/-- Reads a key. -/
def EncodedKey.reader : Reader EncodedKey :=
  (EncodedKey.mk <$> .required "hex_bytes" Reader.text <*> .required "curve_type" Reader.text :
    Fields EncodedKey).record

/-- What an account is asked to sign. -/
structure SigningPayload where
  account : AccountIdentifier
  hexBytes : String
  signatureType : String

namespace SigningPayload

/-- Reads a payload. -/
def reader : Reader SigningPayload :=
  (SigningPayload.mk <$> .required "account_identifier" AccountIdentifier.reader
    <*> .required "hex_bytes" Reader.text <*> .required "signature_type" Reader.text :
    Fields SigningPayload).record

/-- A payload in JSON. -/
def toJson (p : SigningPayload) : Json :=
  .mkObject
    [("account_identifier", p.account.toJson), ("hex_bytes", .string p.hexBytes),
      ("signature_type", .string p.signatureType)]

end SigningPayload

/-- A payload with its signature. -/
structure SignedPayload where
  payload : SigningPayload
  key : EncodedKey
  signatureType : String
  /-- The signature. -/
  hexBytes : String

/-- Reads a payload with its signature. -/
def SignedPayload.reader : Reader SignedPayload :=
  (SignedPayload.mk <$> .required "signing_payload" SigningPayload.reader
    <*> .required "public_key" EncodedKey.reader
    <*> .required "signature_type" Reader.text <*> .required "hex_bytes" Reader.text :
    Fields SignedPayload).record

end PosvGateway
