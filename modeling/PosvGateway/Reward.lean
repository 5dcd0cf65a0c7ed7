import PosvGateway.Json.Scalars
import PosvGateway.Rosetta.Leg

/-!
# Checkpoint rewards

Every 900 blocks the sealers and those who stand behind them are rewarded. The node reports the
split as an object of signers, each with an object of holders and amounts.

* `Rewards.read` reads such a report: both levels are put in the order of addresses;
* `Rewards.transaction` credits every holder, in a transaction named by the hash of the block.
-/

namespace PosvGateway

/-- The number of blocks between two checkpoints. -/
def epoch : Nat := 900

/-- The block with that number distributes rewards. -/
def isCheckpoint (number : UInt64) : Bool := 0 < number.toNat && number.toNat % epoch = 0

/-- The amount of each holder under each signer. -/
abbrev Rewards := OrderedMap Address (OrderedMap Address Uint256)

namespace Rewards

/-- A report: the raw amount of each holder under each signer, in the order of their spelling. -/
abbrev Report := OrderedMap String (OrderedMap String String)

/-- Reads a report, in which there may be no split. Its text is opened down to the amounts. -/
def readReport (text : String) : Except NodeError (Option Report) :=
  let reader : Reader (Option Report) :=
    (Fields.optional "rewards" (Reader.table (Reader.table Reader.unopened))).record
  match reader.runTo 3 text with
  | .ok report => .ok report
  | .error misfit => .error (.decode ("rewards: " ++ misfit.message))

/-- Reads an address of a report. -/
def readAddress (text : String) : Except NodeError Address :=
  match Address.read text with
  | .ok address => .ok address
  | .error e => .error (.decode ("reward address " ++ text ++ ": " ++ e.message))

/-- Reads an amount: a text spells it in any base, any other value in base ten by its own text. -/
def readAmount (raw : String) : Except NodeError Uint256 :=
  let word : Except NodeError (Except Numeral.WordFault Uint256) :=
    if raw.startsWith "\"" then
      match Reader.text.run raw with
      | .ok s => .ok (Numeral.readUint256 s)
      | .error misfit => .error (.decode ("reward amount: " ++ misfit.message))
    else .ok (Numeral.readDecimal raw.toList)
  match word with
  | .error e => .error e
  | .ok (.ok amount) => .ok amount
  | .ok (.error fault) => .error (.decode ("reward amount " ++ raw ++ ": " ++ fault.message))

/-- Adds the holders of one signer; of two spellings of a holder the later counts. -/
def addHolders : List (String × String) → OrderedMap Address Uint256 →
    Except NodeError (OrderedMap Address Uint256)
  | [], holders => .ok holders
  | (holder, amount) :: rest, holders => do
    let holder ← readAddress holder
    let amount ← readAmount amount
    addHolders rest (holders.insert holder amount)

/-- Adds the signers of a report; the holders of two spellings of a signer are put together. -/
def addSigners : List (String × OrderedMap String String) → Rewards → Except NodeError Rewards
  | [], rewards => .ok rewards
  | (signer, holders) :: rest, rewards => do
    let signer ← readAddress signer
    let merged ← addHolders holders ((rewards.find? signer).getD [])
    addSigners rest (rewards.insert signer merged)

/-- Reads the node's report, in which there may be no split. -/
def read (text : String) : Except NodeError (Option Rewards) := do
  match ← readReport text with
  | none => return none
  | some report => return some (← addSigners report [])

/-- The leg of one reward. -/
def leg (holder : Address) (amount : Uint256) : Leg where
  kind := OperationType.reward
  status := some OperationStatus.success
  account := holder
  amount := some (.credit amount)

/-- The legs of all rewards, by signer and then by holder. -/
def legs (rewards : Rewards) : List Leg :=
  rewards.flatMap fun (_, holders) => holders.map fun (holder, amount) => leg holder amount

/-- The transaction that credits every holder. -/
def transaction (blockHash : Digest) (rewards : Rewards) : Transaction where
  hash := blockHash.toHex
  operations := Leg.number 0 rewards.legs

end Rewards

end PosvGateway
