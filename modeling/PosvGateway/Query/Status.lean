import PosvGateway.Query.Assembly

/-!
# Status of the node

The latest and the first block that the node knows, how far it has come with its synchronisation,
and its peers.
-/

namespace PosvGateway

/-- How far the node has come. -/
structure SyncStatus where
  /-- The block it has reached, while it is synchronising. -/
  current : Option Int := none
  /-- The block it is going to reach. -/
  target : Option Int := none
  synced : Bool
  deriving DecidableEq

namespace SyncStatus

/-- The node's report while it is synchronising: the block reached and the highest one known. -/
def progressReader : Reader SyncStatus :=
  let report (current highest : UInt64) : SyncStatus :=
    { current := some (signed64 current), target := some (signed64 highest),
      synced := highest ≤ current }
  (report <$> .required "currentBlock" Reader.quantity
    <*> .required "highestBlock" Reader.quantity : Fields SyncStatus).record

/-- The node's report: `false` once it is synchronised. -/
def ofReport (text : String) : Except NodeError SyncStatus :=
  match Reader.bool.run text with
  | .ok false => .ok { synced := true }
  | _ => progressReader.decode Method.syncing.name text

/-- A synchronisation in JSON. -/
def toJson (s : SyncStatus) : Json :=
  .ofFields
    [("current_index", s.current.map .int), ("target_index", s.target.map .int),
      ("synced", some (.bool s.synced))]

end SyncStatus

/-- A peer of the node. -/
structure Peer where
  id : String
  /-- What else the node tells about it. -/
  metadata : Json.Members

namespace Peer

/-- The peer of an entry of the node's list; an entry without an identifier of text is none. -/
def ofEntry? (entry : Json.Members) : Option Peer :=
  match entry.find? "id" with
  | some (.string id) => some ⟨id, entry.erase "id"⟩
  | _ => none

/-- The peers of the node's list; a list that cannot be read has none. -/
def ofReply (reply : Reply) : List Peer :=
  match reply with
  | .error _ => []
  | .ok text =>
    match (Reader.list Reader.object).run text with
    | .ok entries => entries.filterMap ofEntry?
    | .error _ => []

/-- A peer in JSON. -/
def toJson (p : Peer) : Json :=
  .mkObject [("peer_id", .string p.id), ("metadata", .object p.metadata)]

end Peer

/-- The status of the node. -/
structure StatusReport where
  current : BlockIdentifier
  /-- The time of the latest block, in milliseconds since the Unix epoch. -/
  timestamp : Int
  genesis : BlockIdentifier
  sync : SyncStatus
  peers : List Peer

/-- The earliest time of a latest block that counts as recent: the start of the year 2000, eight
hours behind UTC. -/
def earliestTimestamp : Int := 946713600000

namespace Query

/-- Asks how far the node has come. -/
def syncProgress : Query SyncStatus := do
  let text ← call .syncing []
  ofExcept (Except.mapError .node (SyncStatus.ofReport text))

/-- Asks for the peers of the node, as far as it tells. -/
def peers : Query (List Peer) := do
  let reply ← Dialogue.call .peers []
  return Peer.ofReply reply

/-- Asks for the status of the node, which must have a recent block. -/
def status : Query StatusReport := do
  let latest ← header .latest
  let timestamp := timestampMillis latest.timestamp
  if timestamp < earliestTimestamp then
    throw (.nodeNotReady ("latest block timestamp " ++ Numeral.signedDecimal timestamp
      ++ " is before " ++ Numeral.signedDecimal earliestTimestamp))
  let genesis ← header (.number 0)
  let sync ← syncProgress
  let peers ← peers
  return { current := latest.identifier, timestamp, genesis := ⟨0, genesis.hash.toHex⟩, sync,
           peers }

end Query

end PosvGateway
