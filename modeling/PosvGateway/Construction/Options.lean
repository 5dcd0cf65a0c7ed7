import PosvGateway.Construction.Error
import PosvGateway.Text.Literal

/-!
# Options and metadata

Between its steps the construction hands the client two objects: the `Options` for the query of the
metadata, and the `Metadata` for the payload. Both are plain JSON objects outside.

A `MemberReader` reads such an object. Of several faults a member of the wrong type counts first,
the one with the least key, and then the first member in the declared order that is missing.
-/

namespace PosvGateway

/-! ### Members of an object -/

/-- Why an object could not be read. -/
inductive MemberFault where
  /-- A member has the wrong type. -/
  | wrongType (name detail : String)
  /-- A member is missing. -/
  | missing (name : String)
  deriving DecidableEq, Repr

namespace MemberFault

/-- The wording of a fault. -/
def message : MemberFault → String
  | .wrongType _ detail => detail
  | .missing name => "missing field `" ++ name ++ "`"

/-- The one of two faults, in their declared order, that counts. -/
def first : MemberFault → MemberFault → MemberFault
  | .wrongType a t, .wrongType b u => if b < a then .wrongType b u else .wrongType a t
  | .missing _, .wrongType b u => .wrongType b u
  | fault, .missing _ => fault

end MemberFault

/-- Reads the members of an object. -/
structure MemberReader (α : Type) where
  /-- What the members spell. -/
  read : Json.Members → Except MemberFault α

namespace MemberReader

variable {α β : Type}

instance : Applicative MemberReader where
  pure a := ⟨fun _ => .ok a⟩
  seq f a := ⟨fun members =>
    match f.read members, (a ()).read members with
    | .ok f, .ok a => .ok (f a)
    | .error e, .error e' => .error (e.first e')
    | .error e, .ok _ | .ok _, .error e => .error e⟩

/-- What a value is, in messages. -/
def describe : Json → String
  | .null => "null"
  | .bool true => "boolean `true`"
  | .bool false => "boolean `false`"
  | .number (.integer n) => "integer `" ++ Numeral.signedDecimal n ++ "`"
  | .number (.real x) => "floating point `" ++ x.text ++ "`"
  | .string s => "string " ++ Text.stringLiteral s
  | .array _ => "sequence"
  | .object _ => "map"

/-- A text. -/
def asText : Json → Except String String
  | .string s => .ok s
  | value => .error ("invalid type: " ++ describe value ++ ", expected a string")

/-- A text or null. -/
def asOptionalText : Json → Except String (Option String)
  | .null => .ok none
  | value => (asText value).map some

/-- A natural number of 32 bits. -/
def asUint32 : Json → Except String Nat
  | .number (.integer n) =>
    if 0 ≤ n ∧ n < UInt32.size then .ok n.toNat
    else .error ("invalid value: " ++ describe (.int n) ++ ", expected u32")
  | value => .error ("invalid type: " ++ describe value ++ ", expected u32")

/-- A member; `absent` is what it stands for where it is missing, if it may be. -/
def member (name : String) (absent : Option α) (interpret : Json → Except String α) :
    MemberReader α :=
  ⟨fun members =>
    match members.find? name with
    | some value =>
      match interpret value with
      | .ok a => .ok a
      | .error detail => .error (.wrongType name detail)
    | none => absent.elim (.error (.missing name)) .ok⟩

/-- A text that must be there. -/
def text (name : String) : MemberReader String := member name none asText

/-- A text that may be missing. -/
def optionalText (name : String) : MemberReader (Option String) :=
  member name (some none) asOptionalText

/-- A natural number of 32 bits that must be there. -/
def uint32 (name : String) : MemberReader Nat := member name none asUint32

/-- Reads a whole object. -/
def run (reader : MemberReader α) (members : Json.Members) : Except ConstructionError α :=
  match reader.read members with
  | .ok a => .ok a
  | .error fault => .error (.invalidMetadata fault.message)

end MemberReader

/-- The members of a value that must be an object. -/
def Json.asMembers : Json → Except ConstructionError Json.Members
  | .object members => .ok members
  | value => .error (.invalidMetadata ("expected an object, got " ++ value.render))

/-! ### Options -/

/-- What the query of the metadata needs to know. -/
structure Options where
  sender : String
  recipient : String
  /-- The decimal amount in the smallest unit. -/
  amount : String
  symbol : String
  decimals : Nat
  /-- The client's own price of gas. -/
  gasPrice : Option String
  /-- The client's own limit of gas. -/
  gasLimit : Option String
  deriving DecidableEq, Repr

namespace Options

/-- The members of options. -/
def reader : MemberReader Options :=
  Options.mk <$> .text "sender" <*> .text "recipient" <*> .text "amount" <*> .text "symbol"
    <*> .uint32 "decimals" <*> .optionalText "gas_price" <*> .optionalText "gas_limit"

/-- Reads options. -/
def ofMembers (members : Json.Members) : Except ConstructionError Options := reader.run members

/-- Options as an object. -/
def toMembers (o : Options) : Json.Members :=
  OrderedMap.ofList
    ([("sender", .string o.sender), ("recipient", .string o.recipient),
        ("amount", .string o.amount), ("symbol", .string o.symbol), ("decimals", .nat o.decimals)]
      ++ (o.gasPrice.map fun price => ("gas_price", .string price)).toList
      ++ (o.gasLimit.map fun limit => ("gas_limit", .string limit)).toList)

end Options

/-! ### Metadata -/

/-- What the payload needs to know beside the operations; the numbers are hexadecimal texts. -/
structure Metadata where
  nonce : String
  gasPrice : String
  gasLimit : String
  deriving DecidableEq, Repr

namespace Metadata

/-- The members of metadata. -/
def reader : MemberReader Metadata :=
  Metadata.mk <$> .text "nonce" <*> .text "gas_price" <*> .text "gas_limit"

/-- Reads metadata. -/
def ofMembers (members : Json.Members) : Except ConstructionError Metadata := reader.run members

/-- Metadata as an object. -/
def toMembers (m : Metadata) : Json.Members :=
  OrderedMap.ofList
    [("nonce", .string m.nonce), ("gas_price", .string m.gasPrice),
      ("gas_limit", .string m.gasLimit)]

end Metadata

end PosvGateway
