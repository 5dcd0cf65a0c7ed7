import PosvGateway.Gateway.Endpoint
import PosvGateway.Settings

/-!
# The gateway

A `Gateway` serves the clients of one network, with a node or without. Between requests it remembers
the chain id that the node told first, and nothing else.

* `Gateway.checkNetwork` is the gate: the network that a request names must be the one that is
  served, which is the node's or, without a node, the configured one;
* `Gateway.serve` answers a request. What needs a node is refused without one, before the gate.
-/

namespace PosvGateway

/-- How a gateway serves. -/
structure Gateway where
  mode : Mode
  network : Network
  trace : TraceSettings

/-- What a gateway remembers. -/
structure Memory where
  /-- The chain id of the node, once it was told. -/
  chainId : Option UInt64 := none
  deriving DecidableEq

/-- The chain id of the node, which is asked for until it is told once. -/
def Memory.askChainId (memory : Memory) : Dialogue (Except QueryError UInt64 × Memory) :=
  match memory.chainId with
  | some id => .done (.ok id, memory)
  | none => Dialogue.bind Query.chainId.run fun answer =>
    match answer with
    | .ok id => .done (.ok id, { chainId := some id })
    | .error e => .done (.error e, memory)

namespace Gateway

/-- The gateway of some settings. -/
def ofSettings (s : Settings) : Gateway := ⟨s.mode, s.network, s.trace⟩

/-- An error about a network. -/
def invalidNetwork (detail : String) : RosettaError := .because .invalidNetwork detail

/-- The chain id that a client names. -/
def requestedChain (id : NetworkIdentifier) : Except RosettaError UInt64 :=
  if id.blockchain ≠ NetworkIdentifier.ledgerName then
    .error (invalidNetwork ("unsupported blockchain " ++ id.blockchain))
  else if id.subNetwork.isSome then .error (invalidNetwork "sub networks are not supported")
  else match Numeral.readUnsigned 10 (UInt64.size - 1) id.network.toList with
  | .ok chain => .ok (UInt64.ofNat chain)
  | .error _ => .error (invalidNetwork ("network " ++ id.network ++ " is not a chain id"))

/-- The chain id that is served: the node's or, without a node, that of the configured network. -/
def servedChain (g : Gateway) (memory : Memory) :
    Dialogue (Except RosettaError UInt64 × Memory) :=
  match g.mode with
  | .offline => .done (.ok g.network.chainId, memory)
  | .online => Dialogue.bind memory.askChainId fun (answer, memory) =>
    .done (Except.mapError QueryError.toRosetta answer, memory)

/-- The requested chain must be the one that is served. -/
def matchChains (requested served : UInt64) : Except RosettaError UInt64 :=
  if requested = served then .ok served
  else .error (invalidNetwork ("network " ++ Numeral.decimal requested.toNat
    ++ " is not served, expected " ++ Numeral.decimal served.toNat))

/-- Finds the chain of the network that a client names, if it is served. -/
def checkNetwork (g : Gateway) (memory : Memory) (id : NetworkIdentifier) :
    Dialogue (Except RosettaError UInt64 × Memory) :=
  match requestedChain id with
  | .error e => .done (.error e, memory)
  | .ok requested => Dialogue.bind (g.servedChain memory) fun (served, memory) =>
    .done (served.bind (matchChains requested), memory)

/-- The networks that are served: the configured one. -/
def networkList (g : Gateway) : Json :=
  .mkObject
    [("network_identifiers", .array [(NetworkIdentifier.ofChain g.network.chainId).toJson])]

/-- Answers a request. -/
def serve (g : Gateway) (memory : Memory) (request : Request) :
    Dialogue (Except RosettaError Json × Memory) :=
  match request with
  | .networkList => .done (.ok g.networkList, memory)
  | .task network task =>
    if task.needsNode ∧ g.mode = .offline then
      .done (.error { code := .unavailableOffline }, memory)
    else Dialogue.bind (g.checkNetwork memory network) fun (chain, memory) =>
      match chain with
      | .error e => .done (.error e, memory)
      | .ok chain => Dialogue.bind (task.perform g.trace chain).run fun answer =>
        .done (answer, memory)

end Gateway

end PosvGateway
