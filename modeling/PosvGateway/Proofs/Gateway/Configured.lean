import PosvGateway.Proofs.Gateway.Gate

/-!
# The configured network

A gateway is set up for one of the networks of the ledger. That network is the one it lists, and the
one it serves without a node; with a node it serves the node's.

* `Http.respond_offline` : **a gateway without a node agrees with one whose node is of the
  configured network**, on every endpoint that needs no node, and refuses every other endpoint;
* `Http.listed_accepted_iff` : **when the network that is listed is accepted**;
* `Http.not_listed_accepted` : with a node of another network it is not.
-/

namespace PosvGateway

/-- The endpoints that need a node. -/
def Endpoint.nodeBound : List Endpoint :=
  [.networkStatus, .accountBalance, .block, .blockTransaction, .mempool, .mempoolTransaction,
    .metadata, .submit, .call]

theorem Task.needsNode_iff {task : Task} :
    task.needsNode = true ↔ task.endpoint ∈ Endpoint.nodeBound := by
  cases task <;> simp [needsNode, endpoint, Endpoint.nodeBound]

namespace Gateway

variable {g : Gateway} {memory memory' : Memory} {node node' : Node} {id : NetworkIdentifier}

/-- Whether the configured chain is served. -/
theorem serves_configured :
    g.Serves memory node g.network.chainId ↔
      g.mode = .offline ∨ memory.resolved node = .ok g.network.chainId := by
  cases hmode : g.mode <;> simp [Serves, hmode]

/-- The gates of two gateways agree, one without a node and one whose node is of the configured
network. -/
theorem checkNetwork_offline_eq (hresolved : memory'.resolved node' = .ok g.network.chainId) :
    (({ g with mode := .offline }.checkNetwork memory id).run node).1.1 =
      (({ g with mode := .online }.checkNetwork memory' id).run node').1.1 := by
  cases hrequested : requestedChain id with
  | error e => rw [run_checkNetwork_nameless hrequested, run_checkNetwork_nameless hrequested]
  | ok requested =>
    have hid := requestedChain_eq_ok.mp hrequested
    rw [run_checkNetwork_offline rfl hid, run_checkNetwork_online rfl hid, hresolved]
    rfl

/-- So do the gateways, on a task that needs no node. -/
theorem serve_offline_eq {task : Task} (htask : task.needsNode = false)
    (hresolved : memory'.resolved node' = .ok g.network.chainId) :
    (({ g with mode := .offline }.serve memory (.task id task)).run node).1.1 =
      (({ g with mode := .online }.serve memory' (.task id task)).run node').1.1 := by
  have hreach (mode : Mode) : ¬ (task.needsNode ∧ mode = .offline) := by simp [htask]
  have hgate : (({ g with mode := .offline }.checkNetwork memory id).run node).1.1 =
      (({ g with mode := .online }.checkNetwork memory' id).run node').1.1 :=
    checkNetwork_offline_eq hresolved
  cases hcheck : (({ g with mode := .offline }.checkNetwork memory id).run node).1.1 with
  | error e =>
    rw [run_serve_of_refused (hreach _) hcheck, run_serve_of_refused (hreach _) (hgate ▸ hcheck)]
  | ok chain =>
    -- What is done behind the gates is done without the node.
    obtain ⟨answer, hanswer⟩ := task.perform_eq_done htask g.trace chain
    rw [run_serve_of_accepted (hreach _) hcheck, run_serve_of_accepted (hreach _) (hgate ▸ hcheck),
      hanswer]
    rfl

/-- Without a node nothing is asked. -/
theorem asked_serve_offline (hmode : g.mode = .offline) (request : Request) :
    ((g.serve memory request).run node).2 = [] := by
  cases request with
  | networkList => rfl
  | task id task =>
    cases htask : task.needsNode with
    | true => rw [serve, if_pos ⟨htask, hmode⟩, Dialogue.run]
    | false =>
      have hreach : ¬ (task.needsNode ∧ g.mode = .offline) := by simp [htask]
      have hgate : ((g.checkNetwork memory id).run node).2 = [] := by
        cases hrequested : requestedChain id with
        | error e => rw [run_checkNetwork_nameless hrequested]
        | ok requested =>
          rw [run_checkNetwork_offline hmode (requestedChain_eq_ok.mp hrequested)]
      cases hcheck : ((g.checkNetwork memory id).run node).1.1 with
      | error e => rw [run_serve_of_refused hreach hcheck, hgate]
      | ok chain =>
        obtain ⟨answer, hanswer⟩ := task.perform_eq_done htask g.trace chain
        rw [run_serve_of_accepted hreach hcheck, hgate, hanswer]
        rfl

end Gateway

namespace Http

/-! ### Without a node -/

/-- **Gateways with a node and without agree.** Without a node, an endpoint that needs one is
unavailable, whatever is asked of it. Every other endpoint is answered as it is with a node of the
configured network, whatever else that node would answer, and nothing is asked. -/
theorem respond_offline (g : Gateway) {r : Request} {endpoint : Endpoint}
    {request : PosvGateway.Request} (harrives : Arrives r endpoint request) :
    (endpoint ∈ Endpoint.nodeBound → ∀ memory node,
      (respond { g with mode := .offline } memory r).run node =
        ((.ofAnswer (.error { code := .unavailableOffline }), memory), [])) ∧
    (endpoint ∉ Endpoint.nodeBound → ∀ memory node,
      ((respond { g with mode := .offline } memory r).run node).2 = [] ∧
      ∀ memory' node', (∀ chain, memory'.chainId = some chain → chain = g.network.chainId) →
        Query.result node' Query.chainId = .ok g.network.chainId →
        ((respond { g with mode := .offline } memory r).run node).1.1 =
          ((respond { g with mode := .online } memory' r).run node').1.1) := by
  obtain rfl := harrives.endpoint_eq
  constructor
  · intro hbound memory node
    rw [harrives.run_respond]
    cases request with
    | networkList => exact absurd hbound (by decide)
    | task network task =>
      have htask : task.needsNode = true := Task.needsNode_iff.mpr hbound
      simp only [Gateway.serve, htask, and_self, if_true, Dialogue.run]
  · intro hfree memory node
    simp only [harrives.run_respond]
    refine ⟨Gateway.asked_serve_offline rfl request, fun memory' node' hmemory hnode => ?_⟩
    have hresolved : memory'.resolved node' = .ok g.network.chainId := by
      unfold Memory.resolved
      split
      · rename_i chain hchain
        rw [hmemory chain hchain]
      · exact hnode
    cases request with
    | networkList => rfl
    | task network task =>
      have htask : task.needsNode = false := by
        rw [← Bool.not_eq_true, Task.needsNode_iff]
        exact hfree
      rw [Gateway.serve_offline_eq htask hresolved]

/-- A request for what the gateway offers on a configured network. -/
def optionsRequest (network : Network) : Request :=
  post .networkOptions (.object (taskMembers network.chainId []))

theorem arrives_optionsRequest (network : Network) :
    Arrives (optionsRequest network) .networkOptions
      (.task (.ofChain network.chainId) .networkOptions) := by
  refine arrives_task (by decide) (by simp [taskMembers]) (by trivial) ?_ rfl
  cases network with
  | mainnet => cbv
  | testnet => cbv
  | devnet => cbv

/-- Without a node a transaction for another network is not even looked at; what the gateway offers
is told as it is with a node. -/
theorem respond_offline_testSubmission :
    (respond { mainGateway with mode := .offline } {} testSubmission).run .unreachable =
        ((.ofAnswer (.error { code := .unavailableOffline }), {}), []) ∧
      ((respond { mainGateway with mode := .offline } {} (optionsRequest .mainnet)).run
          .unreachable).1.1 =
        ((respond mainGateway {} (optionsRequest .mainnet)).run
          (Node.unreachable.reporting 88)).1.1 :=
  ⟨(respond_offline mainGateway arrives_testSubmission).1 (by decide) _ _,
    ((respond_offline mainGateway (arrives_optionsRequest .mainnet)).2 (by decide)
      _ _).2 {} _ nofun (Query.result_reporting _ 88)⟩

/-! ### The network that is listed -/

/-- A request for the networks that are served. -/
def listRequest : Request := post .networkList (.object [])

theorem arrives_listRequest : Arrives listRequest .networkList .networkList := by
  refine arrives_post (by trivial) (by cbv) ?_
  unfold Endpoint.reader
  exact Fields.record_of_reads (by trivial) (Fields.reads_map _ (Fields.reads_absent rfl))

/-- Whether a gateway tells what it offers on the network that it is set up for. -/
theorem status_optionsRequest {g : Gateway} {memory : Memory} {node : Node} :
    ((respond g memory (optionsRequest g.network)).run node).1.1.status = 200 ↔
      g.Serves memory node g.network.chainId := by
  have hreach : ¬ (Task.networkOptions.needsNode ∧ g.mode = .offline) := by simp [Task.needsNode]
  rw [(arrives_optionsRequest g.network).run_respond, ← Gateway.exists_checkNetwork_ofChain]
  cases hcheck : ((g.checkNetwork memory (.ofChain g.network.chainId)).run node).1.1 with
  | error e => simp [Gateway.run_serve_of_refused hreach hcheck, Response.ofAnswer]
  | ok chain =>
    rw [Gateway.run_serve_of_accepted hreach hcheck]
    exact iff_of_true rfl ⟨chain, rfl⟩

/-- **When the network that is listed is accepted**: without a node always, and with a node if its
chain is that of the configured network. What the gateway offers is told under the same
condition. -/
theorem listed_accepted_iff (s : Settings) :
    ∃ listed : Json, ∀ memory node,
      (∀ r request, Arrives r .networkList request →
        (respond (.ofSettings s) memory r).run node =
          ((⟨200, some (.mkObject [("network_identifiers", .array [listed])])⟩, memory), [])) ∧
      ((∃ network chain, NetworkIdentifier.reader maxDepth listed.document = .ok network ∧
          (((Gateway.ofSettings s).checkNetwork memory network).run node).1.1 = .ok chain) ↔
        s.mode = .offline ∨ memory.resolved node = .ok s.network.chainId) ∧
      (((respond (.ofSettings s) memory (post .networkOptions
          (.object [("network_identifier", listed)]))).run node).1.1.status = 200 ↔
        s.mode = .offline ∨ memory.resolved node = .ok s.network.chainId) := by
  refine ⟨(NetworkIdentifier.ofChain s.network.chainId).toJson, fun memory node => ?_⟩
  have hserves : (Gateway.ofSettings s).Serves memory node s.network.chainId ↔
      s.mode = .offline ∨ memory.resolved node = .ok s.network.chainId := Gateway.serves_configured
  refine ⟨fun r request harrives => ?_, ?_, ?_⟩
  · obtain rfl := harrives.eq_networkList
    rw [harrives.run_respond]
    rfl
  · have hread : NetworkIdentifier.reader maxDepth
        (NetworkIdentifier.ofChain s.network.chainId).toJson.document
          = .ok (.ofChain s.network.chainId) := NetworkIdentifier.reader_toJson _ (maxDepth - 1)
    rw [← hserves, ← Gateway.exists_checkNetwork_ofChain, hread]
    simp
  · rw [← hserves, NetworkIdentifier.toJson_ofChain]
    exact status_optionsRequest

/-- Settings of a gateway for the main network. -/
def mainSettings : Settings where
  mode := .online
  network := .mainnet
  host := .v4 ⟨[127, 0, 0, 1], rfl⟩
  portNumber := 8080
  nodeUrl :=
    { scheme := "http", authority := none, path := .opaqueText "", query := none, fragment := none }
  trace := {}
  logFormat := .pretty

/-- With a node of the main network it is. -/
theorem listed_accepted_iff_mainSettings :
    ∃ listed, (respond (.ofSettings mainSettings) {} listRequest).run
        (Node.unreachable.reporting 88) =
          ((⟨200, some (.mkObject [("network_identifiers", .array [listed])])⟩, {}), []) ∧
      ((respond (.ofSettings mainSettings) {} (post .networkOptions
        (.object [("network_identifier", listed)]))).run
          (Node.unreachable.reporting 88)).1.1.status = 200 := by
  obtain ⟨listed, hlisted⟩ := listed_accepted_iff mainSettings
  obtain ⟨hlist, -, hoptions⟩ := hlisted {} (Node.unreachable.reporting 88)
  exact ⟨listed, hlist _ _ arrives_listRequest, hoptions.mpr (.inr (Query.result_reporting _ 88))⟩

/-- **With a node of another network it is not.** -/
theorem not_listed_accepted :
    ¬ ∀ (s : Settings) (node : Node),
      (s.mode = .online → ∃ chain, Query.result node Query.chainId = .ok chain) →
        ∃ chain, (((Gateway.ofSettings s).checkNetwork {}
          (.ofChain s.network.chainId)).run node).1.1 = .ok chain := by
  intro h
  have haccepted := h mainSettings (Node.unreachable.reporting 89)
    fun _ => ⟨89, Query.result_reporting _ 89⟩
  rw [Gateway.exists_checkNetwork_ofChain] at haccepted
  have hresolved := (Query.result_reporting Node.unreachable 89).symm.trans haccepted
  exact absurd (Except.ok.inj hresolved) (by decide)

end Http

end PosvGateway
