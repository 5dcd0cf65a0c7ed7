import PosvGateway.Proofs.Gateway.Request
import PosvGateway.Proofs.Gateway.Task
import PosvGateway.Proofs.Numeral.Value

/-!
# The gate

A request for a task names a network, and gets past the gate if that is the network of the chain
that is served. The chain id of the node is asked for until it is told once.

* `NetworkIdentifier.Names` : the chain that an identifier names, if it names one;
* `Memory.run_askChainId` : what is known about the chain of the node, by memory or by its answer;
* `Gateway.checkNetwork_eq_ok` : **which identifiers are accepted**;
* `Gateway.refusal_of_checkNetwork` : how any other is refused;
* `Http.respond_of_not_accepted` : **a request that is not accepted does nothing**, and what is
  answered depends on the chain id alone.
-/

namespace PosvGateway

/-! ### The chain that an identifier names -/

namespace NetworkIdentifier

/-- A text spells a chain id in decimal digits, after a plus sign or not. -/
def Spells (text : String) (chain : UInt64) : Prop :=
  ∃ digits : List Char, (text.toList = digits ∨ text.toList = '+' :: digits) ∧ digits ≠ [] ∧
    (∀ c ∈ digits, c.isDigit) ∧ Nat.ofDigitChars 10 digits 0 = chain.toNat

/-- An identifier names a chain: it is of this ledger, of no part of a network, and its text spells
the chain id. -/
structure Names (id : NetworkIdentifier) (chain : UInt64) : Prop where
  ledger : id.blockchain = ledgerName
  whole : id.subNetwork = none
  spelled : Spells id.network chain

theorem spells_iff {text : String} {chain : UInt64} :
    Spells text chain ↔
      Numeral.readUnsigned 10 (UInt64.size - 1) text.toList = .ok chain.toNat := by
  have hfits : chain.toNat ≤ UInt64.size - 1 := Nat.le_sub_one_of_lt chain.toNat_lt
  simp only [Numeral.readUnsigned_eq_ok, hfits, and_true]
  rfl

theorem names_ofChain (chain : UInt64) : (ofChain chain).Names chain where
  ledger := rfl
  whole := rfl
  spelled := by
    refine ⟨Nat.toDigits 10 chain.toNat, .inl String.toList_ofList, Nat.toDigits_ne_nil, ?_,
      Nat.ofDigitChars_ten_toDigits⟩
    intro c hc
    exact Nat.isDigit_of_mem_toDigits (by decide) (by decide) hc

end NetworkIdentifier

/-! ### The chain of the node -/

namespace Query

theorem run_chainId (node : Node) :
    chainId.run.run node = (result node chainId, [.call ⟨.chainId, []⟩]) := by
  refine Prod.ext rfl ?_
  unfold chainId read
  rw [Dialogue.run_bindCont]
  cases hreply : ((call .chainId []).run.run node).1 <;> rfl

/-- Two nodes that answer the call alike have one chain id. -/
theorem result_chainId_congr {node node' : Node}
    (h : node'.reply ⟨.chainId, []⟩ = node.reply ⟨.chainId, []⟩) :
    result node' chainId = result node chainId := by
  have hcall : result node' (call .chainId []) = result node (call .chainId []) :=
    congrArg (Except.mapError QueryError.node) h
  unfold chainId read
  rw [result_bind, result_bind, hcall]
  rfl

end Query

/-- A node that reports a chain id, and answers any other call as another node does. -/
def Node.reporting (node : Node) (chain : UInt64) : Node where
  reply call :=
    if call.method = .chainId then .ok (Json.quantity chain).render else node.reply call
  batchReply := node.batchReply

/-- A node that cannot be reached. -/
def Node.unreachable : Node where
  reply _ := .error (.transport "connection refused")
  batchReply _ := .error (.transport "connection refused")

theorem Query.result_reporting (node : Node) (chain : UInt64) :
    result (node.reporting chain) chainId = .ok chain := by
  have hexact : (Json.quantity chain).IsExact := trivial
  have hparsed : Reader.quantity maxDepth (Json.quantity chain).document
      = (Quantity.read (Quantity.write chain)).toOption.elim (.error .shape) .ok := rfl
  have hread : Reader.quantity.run (Json.quantity chain).render = .ok chain := by
    rw [Reader.run_render _ hexact, hparsed, Quantity.read_write]
    rfl
  refine result_eq_ok.mpr ⟨_, answers_read.mpr ⟨_, rfl, ?_, rfl⟩⟩
  rw [Reader.decode, hread]

namespace Memory

variable (memory : Memory) (node : Node)

/-- What is known about the chain of a node: the chain id remembered, or what the node answers. -/
def resolved : Except QueryError UInt64 :=
  match memory.chainId with
  | some id => .ok id
  | none => Query.result node Query.chainId

/-- What is remembered after the chain id was looked up. -/
def after : Memory :=
  match memory.resolved node with
  | .ok id => { chainId := some id }
  | .error _ => memory

/-- What is asked to look the chain id up. -/
def asks : List Asked :=
  match memory.chainId with
  | some _ => []
  | none => [.call ⟨.chainId, []⟩]

/-- **The chain id is asked for if it is not remembered, and remembered if it is told.** -/
theorem run_askChainId :
    memory.askChainId.run node = ((memory.resolved node, memory.after node), memory.asks) := by
  obtain ⟨remembered⟩ := memory
  cases remembered with
  | some id => rfl
  | none =>
    have hrun := Query.run_chainId node
    simp only [askChainId, after, resolved, asks, Dialogue.run_bind, hrun]
    cases Query.result node Query.chainId <;> rfl

theorem resolved_congr {node node' : Node}
    (h : node'.reply ⟨.chainId, []⟩ = node.reply ⟨.chainId, []⟩) :
    memory.resolved node' = memory.resolved node := by
  unfold resolved
  rw [Query.result_chainId_congr h]

theorem after_congr {node node' : Node}
    (h : node'.reply ⟨.chainId, []⟩ = node.reply ⟨.chainId, []⟩) :
    memory.after node' = memory.after node := by
  unfold after
  rw [memory.resolved_congr h]

theorem eq_call_of_mem_asks {memory : Memory} {asked : Asked} (h : asked ∈ memory.asks) :
    asked = .call ⟨.chainId, []⟩ := by
  unfold asks at h
  split at h
  · cases h
  · exact List.mem_singleton.mp h

end Memory

/-! ### The gate -/

namespace Gateway

open NetworkIdentifier

theorem requestedChain_eq_ok {id : NetworkIdentifier} {chain : UInt64} :
    requestedChain id = .ok chain ↔ id.Names chain := by
  unfold requestedChain
  constructor
  · intro h
    split_ifs at h with hledger hwhole
    rw [Option.not_isSome_iff_eq_none] at hwhole
    split at h
    · rename_i n hread
      cases h
      obtain ⟨-, -, -, -, -, hn⟩ := Numeral.readUnsigned_eq_ok.mp hread
      refine ⟨not_not.mp hledger, hwhole, spells_iff.mpr ?_⟩
      rw [hread, UInt64.toNat_ofNat_of_lt' (Nat.lt_of_le_of_lt hn (by decide))]
    · cases h
  · intro h
    rw [if_neg (not_not.mpr h.ledger), if_neg (by simp [h.whole]), spells_iff.mp h.spelled]
    simp

/-- An identifier names one chain at most. -/
theorem eq_of_names {id : NetworkIdentifier} {chain chain' : UInt64} (h : id.Names chain)
    (h' : id.Names chain') : chain = chain' := by
  have hrequested := (requestedChain_eq_ok.mpr h).symm.trans (requestedChain_eq_ok.mpr h')
  exact Except.ok.inj hrequested

theorem code_of_requestedChain {id : NetworkIdentifier} {e : RosettaError}
    (h : requestedChain id = .error e) : e.code = .invalidNetwork := by
  unfold requestedChain at h
  split_ifs at h
  · cases h
    rfl
  · cases h
    rfl
  · split at h
    · cases h
    · cases h
      rfl

theorem matchChains_eq_ok {requested served chain : UInt64} :
    matchChains requested served = .ok chain ↔ requested = chain ∧ served = chain := by
  unfold matchChains
  by_cases h : requested = served
  · simp [h]
  · simp only [if_neg h, reduceCtorEq, false_iff]
    rintro ⟨rfl, rfl⟩
    exact h rfl

theorem code_of_matchChains {requested served : UInt64} {e : RosettaError}
    (h : matchChains requested served = .error e) : e.code = .invalidNetwork := by
  unfold matchChains at h
  split_ifs at h
  cases h
  rfl

/-- The chain that a gateway serves: the node's or, without a node, the configured one. -/
def Serves (g : Gateway) (memory : Memory) (node : Node) (chain : UInt64) : Prop :=
  match g.mode with
  | .offline => g.network.chainId = chain
  | .online => memory.resolved node = .ok chain

/-- Why an identifier is refused, and with which error. -/
inductive Refusal (g : Gateway) (memory : Memory) (node : Node) (id : NetworkIdentifier) :
    RosettaError → Prop where
  /-- The identifier names no chain. -/
  | nameless {e : RosettaError} (hid : ∀ chain, ¬ id.Names chain)
    (hcode : e.code = .invalidNetwork) : Refusal g memory node id e
  /-- The chain id of the node could not be looked up. -/
  | unresolved {requested : UInt64} {failure : QueryError} (hid : id.Names requested)
    (hmode : g.mode = .online) (hfailure : memory.resolved node = .error failure) :
    Refusal g memory node id failure.toRosetta
  /-- Another chain is served. -/
  | other {requested served : UInt64} {e : RosettaError} (hid : id.Names requested)
    (hserved : g.Serves memory node served) (hne : requested ≠ served)
    (hcode : e.code = .invalidNetwork) : Refusal g memory node id e

section Gate

variable {g : Gateway} {memory : Memory} {node : Node} {id : NetworkIdentifier}

theorem run_checkNetwork_nameless {e : RosettaError} (h : requestedChain id = .error e) :
    (g.checkNetwork memory id).run node = ((.error e, memory), []) := by
  rw [checkNetwork, h]
  rfl

theorem run_checkNetwork_offline (hmode : g.mode = .offline) {requested : UInt64}
    (h : id.Names requested) :
    (g.checkNetwork memory id).run node =
      ((matchChains requested g.network.chainId, memory), []) := by
  rw [checkNetwork, requestedChain_eq_ok.mpr h, servedChain, hmode]
  rfl

theorem run_checkNetwork_online (hmode : g.mode = .online) {requested : UInt64}
    (h : id.Names requested) :
    (g.checkNetwork memory id).run node =
      (((Except.mapError QueryError.toRosetta (memory.resolved node)).bind (matchChains requested),
        memory.after node), memory.asks) := by
  rw [checkNetwork, requestedChain_eq_ok.mpr h, servedChain, hmode]
  simp only [Dialogue.run_bind, Dialogue.run, Memory.run_askChainId, List.append_nil]

theorem refusal_of_checkNetwork {e : RosettaError}
    (h : ((g.checkNetwork memory id).run node).1.1 = .error e) : g.Refusal memory node id e := by
  cases hrequested : requestedChain id with
  | error e' =>
    rw [run_checkNetwork_nameless hrequested] at h
    cases h
    refine .nameless (fun chain hid => ?_) (code_of_requestedChain hrequested)
    rw [requestedChain_eq_ok.mpr hid] at hrequested
    cases hrequested
  | ok requested =>
    have hid := requestedChain_eq_ok.mp hrequested
    have hother (served : UInt64) (hserved : g.Serves memory node served)
        (hmatch : matchChains requested served = .error e) : g.Refusal memory node id e := by
      refine .other hid hserved ?_ (code_of_matchChains hmatch)
      rintro rfl
      rw [matchChains_eq_ok.mpr ⟨rfl, rfl⟩] at hmatch
      cases hmatch
    cases hmode : g.mode with
    | offline =>
      rw [run_checkNetwork_offline hmode hid] at h
      exact hother g.network.chainId (by simp [Serves, hmode]) h
    | online =>
      rw [run_checkNetwork_online hmode hid] at h
      cases hresolved : memory.resolved node with
      | error failure =>
        rw [hresolved] at h
        cases h
        exact .unresolved hid hmode hresolved
      | ok served =>
        rw [hresolved] at h
        exact hother served (by simp [Serves, hmode, hresolved]) h

/-- **An identifier is accepted if it names the chain that is served.** -/
theorem checkNetwork_eq_ok {chain : UInt64} :
    ((g.checkNetwork memory id).run node).1.1 = .ok chain ↔
      id.Names chain ∧ g.Serves memory node chain := by
  cases hrequested : requestedChain id with
  | error e =>
    rw [run_checkNetwork_nameless hrequested]
    have hnames : ¬ id.Names chain := by simp [← requestedChain_eq_ok, hrequested]
    simp [hnames]
  | ok requested =>
    have hid := requestedChain_eq_ok.mp hrequested
    have hnames : id.Names chain ↔ requested = chain := by
      simp [← requestedChain_eq_ok, hrequested]
    rw [hnames]
    cases hmode : g.mode with
    | offline =>
      rw [run_checkNetwork_offline hmode hid]
      simp only [matchChains_eq_ok, Serves, hmode]
    | online =>
      rw [run_checkNetwork_online hmode hid]
      simp only [Serves, hmode]
      cases hresolved : memory.resolved node with
      | error failure => simp [Except.mapError, Except.bind]
      | ok served =>
        simp only [Except.mapError, Except.bind, matchChains_eq_ok, Except.ok.injEq]

/-- The identifier of a chain is accepted if the chain is served. -/
theorem exists_checkNetwork_ofChain {chain : UInt64} :
    (∃ found, ((g.checkNetwork memory (ofChain chain)).run node).1.1 = .ok found) ↔
      g.Serves memory node chain := by
  simp only [checkNetwork_eq_ok]
  constructor
  · rintro ⟨found, hnames, hserves⟩
    rwa [eq_of_names (names_ofChain chain) hnames]
  · intro hserves
    exact ⟨chain, names_ofChain chain, hserves⟩

/-! ### Behind the gate -/

theorem run_serve_of_refused {task : Task} (hreach : ¬ (task.needsNode ∧ g.mode = .offline))
    {e : RosettaError} (h : ((g.checkNetwork memory id).run node).1.1 = .error e) :
    (g.serve memory (.task id task)).run node =
      ((.error e, ((g.checkNetwork memory id).run node).1.2),
        ((g.checkNetwork memory id).run node).2) := by
  rw [serve, if_neg hreach, Dialogue.run_bind]
  simp only [h, Dialogue.run, List.append_nil]

theorem run_serve_of_accepted {task : Task} (hreach : ¬ (task.needsNode ∧ g.mode = .offline))
    {chain : UInt64} (h : ((g.checkNetwork memory id).run node).1.1 = .ok chain) :
    (g.serve memory (.task id task)).run node =
      ((((task.perform g.trace chain).run.run node).1, ((g.checkNetwork memory id).run node).1.2),
        ((g.checkNetwork memory id).run node).2 ++
          ((task.perform g.trace chain).run.run node).2) := by
  rw [serve, if_neg hreach, Dialogue.run_bind]
  simp only [h, Dialogue.run_bind_done]

/-- What the gate of a gateway with a node asks for is the chain id. -/
theorem eq_call_of_mem_checkNetwork (hmode : g.mode = .online) {asked : Asked}
    (h : asked ∈ ((g.checkNetwork memory id).run node).2) : asked = .call ⟨.chainId, []⟩ := by
  cases hrequested : requestedChain id with
  | error e =>
    rw [run_checkNetwork_nameless hrequested] at h
    cases h
  | ok requested =>
    rw [run_checkNetwork_online hmode (requestedChain_eq_ok.mp hrequested)] at h
    exact Memory.eq_call_of_mem_asks h

/-- The gate does the same with any two nodes that answer the call for the chain id alike. -/
theorem run_checkNetwork_congr {node' : Node}
    (h : node'.reply ⟨.chainId, []⟩ = node.reply ⟨.chainId, []⟩) :
    (g.checkNetwork memory id).run node' = (g.checkNetwork memory id).run node := by
  cases hrequested : requestedChain id with
  | error e => rw [run_checkNetwork_nameless hrequested, run_checkNetwork_nameless hrequested]
  | ok requested =>
    have hid := requestedChain_eq_ok.mp hrequested
    cases hmode : g.mode with
    | offline => rw [run_checkNetwork_offline hmode hid, run_checkNetwork_offline hmode hid]
    | online =>
      rw [run_checkNetwork_online hmode hid, run_checkNetwork_online hmode hid,
        memory.resolved_congr h, memory.after_congr h]

end Gate

end Gateway

/-! ### Requests that are not accepted -/

namespace Http

/-- **A request that is not accepted does nothing.** With a node, whatever the endpoint and whatever
is asked of it, the response is the refusal of the gate; nothing but the chain id is asked for, and
two nodes with one answer to that cannot be told apart. -/
theorem respond_of_not_accepted {g : Gateway} (hmode : g.mode = .online) {r : Request}
    {endpoint : Endpoint} {request : PosvGateway.Request} (harrives : Arrives r endpoint request)
    (hendpoint : endpoint ≠ .networkList) :
    ∃ network task, request = .task network task ∧ task.endpoint = endpoint ∧
      ∀ memory node, (¬∃ chain, network.Names chain ∧ memory.resolved node = .ok chain) →
        (∃ e, g.Refusal memory node network e ∧
          ((respond g memory r).run node).1.1 = .ofAnswer (.error e)) ∧
        (∀ asked ∈ ((respond g memory r).run node).2, asked = .call ⟨.chainId, []⟩) ∧
        ∀ node' : Node, node'.reply ⟨.chainId, []⟩ = node.reply ⟨.chainId, []⟩ →
          (respond g memory r).run node' = (respond g memory r).run node := by
  obtain ⟨network, task, rfl, htask⟩ := harrives.exists_task hendpoint
  refine ⟨network, task, rfl, htask, fun memory node hrefused => ?_⟩
  have hreach : ¬ (task.needsNode ∧ g.mode = .offline) := by simp [hmode]
  obtain ⟨e, he⟩ : ∃ e, ((g.checkNetwork memory network).run node).1.1 = .error e := by
    cases hcheck : ((g.checkNetwork memory network).run node).1.1 with
    | error e => exact ⟨e, rfl⟩
    | ok chain =>
      obtain ⟨hnames, hserves⟩ := Gateway.checkNetwork_eq_ok.mp hcheck
      rw [Gateway.Serves, hmode] at hserves
      exact absurd ⟨chain, hnames, hserves⟩ hrefused
  have hrun := Gateway.run_serve_of_refused hreach he
  simp only [harrives.run_respond, hrun]
  refine ⟨⟨e, Gateway.refusal_of_checkNetwork he, rfl⟩, ?_, fun node' hnode => ?_⟩
  · intro asked hasked
    exact Gateway.eq_call_of_mem_checkNetwork hmode hasked
  · have hsame : (g.checkNetwork memory network).run node' =
        (g.checkNetwork memory network).run node := Gateway.run_checkNetwork_congr hnode
    rw [← hsame] at he
    rw [Gateway.run_serve_of_refused hreach he, hsame]

/-- A gateway for the main network. -/
def mainGateway : Gateway := ⟨.online, .mainnet, {}⟩

/-- A request to relay a transaction on the test network. -/
def testSubmission : Request :=
  post .submit (.object (taskMembers 89 [("signed_transaction", .string "0xf86c")]))

theorem arrives_testSubmission :
    Arrives testSubmission .submit (.task (.ofChain 89) (.submit "0xf86c")) := by
  have hkeys : ((taskMembers 89 [("signed_transaction", .string "0xf86c")]).map
      Prod.fst).Nodup := by decide
  exact arrives_task (by decide) hkeys ⟨trivial, trivial⟩ (by cbv)
    (Fields.reads_map _ (Fields.reads_member hkeys rfl rfl))

/-- With a node of the main network it is refused, and nothing is relayed. -/
theorem respond_of_not_accepted_testSubmission :
    (∃ e : RosettaError, e.code = .invalidNetwork ∧
      ((respond mainGateway {} testSubmission).run (Node.unreachable.reporting 88)).1.1
        = .ofAnswer (.error e)) ∧
    Asked.ofMethod .sendRawTransaction
      ((respond mainGateway {} testSubmission).run (Node.unreachable.reporting 88)).2 = [] := by
  obtain ⟨network, task, hrequest, -, hrefused⟩ :=
    respond_of_not_accepted (g := mainGateway) rfl arrives_testSubmission (by decide)
  obtain ⟨rfl, rfl⟩ := Request.task.inj hrequest
  have hresolved : Memory.resolved {} (Node.unreachable.reporting 88) = .ok 88 :=
    Query.result_reporting _ 88
  have hnot : ¬∃ chain, (NetworkIdentifier.ofChain 89).Names chain ∧
      Memory.resolved {} (Node.unreachable.reporting 88) = .ok chain := by
    rintro ⟨chain, hnames, hchain⟩
    obtain rfl := Gateway.eq_of_names (NetworkIdentifier.names_ofChain 89) hnames
    rw [hresolved] at hchain
    cases hchain
  obtain ⟨⟨e, hrefusal, hresponse⟩, hasked, -⟩ := hrefused _ _ hnot
  refine ⟨⟨e, ?_, hresponse⟩, ?_⟩
  · cases hrefusal with
    | nameless hid hcode => exact hcode
    | other hid hserved hne hcode => exact hcode
    | unresolved hid hmode hfailure =>
      rw [hresolved] at hfailure
      cases hfailure
  · simp only [Asked.ofMethod, List.filter_eq_nil_iff, List.mem_flatMap, decide_eq_true_eq]
    rintro call ⟨asked, hmem, hcall⟩ hmethod
    rw [hasked asked hmem, Asked.calls, List.mem_singleton] at hcall
    rw [hcall] at hmethod
    cases hmethod

end Http

end PosvGateway
