import PosvGateway.Proofs.Gateway.Configured

/-!
# The course of a conversation

A gateway with a node answers one request after another, and the node may answer each of them in its
own way. The chain id of the node is looked up by every request that names a chain, once, before
anything else is done.

* `Http.looksUp`, `Http.respond_of_looksUp` : a request that looks the chain id up does so first,
  and does not ask for it again;
* `Http.respond_of_not_looksUp` : any other request asks nothing;
* `Moment.chainId_later` : what one request makes of what is remembered;
* `Gateway.chainId_of_course` : **what is remembered at any moment is the first chain id that was
  found**;
* `Gateway.steady_of_course` : so the chain never changes.
-/

namespace PosvGateway

namespace Dialogue

variable {α β γ : Type}

theorem bind_assoc (d : Dialogue α) (f : α → Dialogue β) (h : β → Dialogue γ) :
    (d.bind f).bind h = d.bind fun a => (f a).bind h := by
  induction d with
  | done a => rfl
  | ask call next ih => simp only [bind, ih]
  | askAll calls next ih => simp only [bind, ih]

end Dialogue

/-! ### One request -/

namespace Method

/-- The methods but the one of the chain id. -/
def others : List Method := all.filter (· ≠ .chainId)

theorem chainId_not_mem_others : .chainId ∉ others := by decide

theorem mem_others {method : Method} (h : method ≠ .chainId) : method ∈ others := by
  cases method <;> first | decide | exact absurd rfl h

end Method

theorem Task.asksOnly_others (trace : TraceSettings) (chain : UInt64) (task : Task) :
    (task.perform trace chain).run.AsksOnly Method.others := by
  refine (task.asksOnly_perform trace chain).mono fun method hmethod => Method.mem_others ?_
  rintro rfl
  exact task.chainId_not_mem_methods hmethod

namespace Http

variable {g : Gateway} {r : Request}

/-- A request makes the gateway look the chain id of its node up: it is for a task, and names a
chain. -/
def looksUp (g : Gateway) (r : Request) : Bool :=
  match g.mode, readRequest r with
  | .online, .ok (.task network _) => (Gateway.requestedChain network).isOk
  | _, _ => false

theorem looksUp_iff :
    looksUp g r = true ↔ g.mode = .online ∧
      ∃ network task chain, readRequest r = .ok (.task network task) ∧ network.Names chain := by
  unfold looksUp
  cases hmode : g.mode with
  | offline => simp
  | online =>
    cases hread : readRequest r with
    | error status => simp
    | ok request =>
      cases request with
      | networkList => simp
      | task network task =>
        simp only [← Gateway.requestedChain_eq_ok]
        cases hrequested : Gateway.requestedChain network <;>
          simp [hrequested, Except.isOk, Except.toBool]

/-- What is left of the response once the chain id was looked up. -/
def afterLookUp (g : Gateway) (chain : UInt64) (task : Task) (found : Except QueryError UInt64) :
    Dialogue Response :=
  Dialogue.bind
    (ExceptT.bindCont (task.perform g.trace)
      ((Except.mapError QueryError.toRosetta found).bind (Gateway.matchChains chain)))
    fun answer => .done (.ofAnswer answer)

theorem asksOnly_afterLookUp (chain : UInt64) (task : Task) (found : Except QueryError UInt64) :
    (afterLookUp g chain task found).AsksOnly Method.others := by
  refine Dialogue.AsksOnly.bind ?_ fun _ => trivial
  cases (Except.mapError QueryError.toRosetta found).bind (Gateway.matchChains chain) with
  | error e => trivial
  | ok served => exact task.asksOnly_others g.trace served

/-- **A request that looks the chain id up does so first**, and does not ask for it again: what
follows depends on what was found, and leaves what is remembered as it is. -/
theorem respond_of_looksUp (h : looksUp g r = true) :
    ∃ rest : Except QueryError UInt64 → Dialogue Response,
      (∀ found, (rest found).AsksOnly Method.others) ∧
      ∀ memory, respond g memory r = Dialogue.bind (Memory.askChainId memory) fun looked =>
        Dialogue.bind (rest looked.1) fun response => .done (response, looked.2) := by
  obtain ⟨hmode, network, task, chain, hread, hnames⟩ := looksUp_iff.mp h
  refine ⟨afterLookUp g chain task, asksOnly_afterLookUp chain task, fun memory => ?_⟩
  have hreach : ¬ (task.needsNode ∧ g.mode = .offline) := by simp [hmode]
  simp only [respond, hread, Gateway.serve]
  rw [if_neg hreach, Gateway.checkNetwork, Gateway.requestedChain_eq_ok.mpr hnames]
  simp only [Gateway.servedChain, hmode, Dialogue.bind_assoc, Dialogue.bind]
  congr 1
  funext looked
  simp only [afterLookUp]
  cases (Except.mapError QueryError.toRosetta looked.1).bind (Gateway.matchChains chain) with
  | error e => rfl
  | ok served =>
    simp only [ExceptT.bindCont, Dialogue.bind_assoc, Dialogue.bind]
    rfl

/-- A request that does not look the chain id up asks nothing at all, and leaves what is remembered
as it is. -/
theorem respond_of_not_looksUp (hmode : g.mode = .online) (h : looksUp g r = false) :
    ∃ response, ∀ memory, respond g memory r = .done (response, memory) := by
  cases hread : readRequest r with
  | error status => exact ⟨{ status }, fun memory => by simp only [respond, hread]⟩
  | ok request =>
    cases request with
    | networkList =>
      exact ⟨.ofAnswer (.ok g.networkList), fun memory => by
        simp only [respond, hread, Gateway.serve, Dialogue.bind]⟩
    | task network task =>
      have hreach : ¬ (task.needsNode ∧ g.mode = .offline) := by simp [hmode]
      cases hrequested : Gateway.requestedChain network with
      | error e =>
        exact ⟨.ofAnswer (.error e), fun memory => by
          simp only [respond, hread, Gateway.serve, if_neg hreach, Gateway.checkNetwork, hrequested,
            Dialogue.bind]⟩
      | ok chain =>
        have hlooksUp : looksUp g r = true := looksUp_iff.mpr
          ⟨hmode, network, task, chain, hread, Gateway.requestedChain_eq_ok.mp hrequested⟩
        rw [h] at hlooksUp
        cases hlooksUp

end Http

/-- A request in a conversation, and the node as it answers then. -/
structure Turn where
  request : Http.Request
  node : Node

/-- A turn of a conversation, and what is remembered at its start. -/
structure Moment extends Turn where
  memory : Memory

namespace Moment

variable (g : Gateway) (m : Moment)

/-- The response and what is remembered then, and what was asked. -/
def run : (Http.Response × Memory) × List Asked :=
  (Http.respond g m.memory m.request).run m.node

/-- What is remembered at the end. -/
def later : Memory := (m.run g).1.2

/-- What the look-up of the chain id ended in, if there was one: the response starts with it
(`Http.respond_of_looksUp`). -/
def lookUp? : Option (Except QueryError UInt64) :=
  if Http.looksUp g m.request then some (m.memory.askChainId.run m.node).1.1 else none

/-- The chain id that was found. -/
def found? : Option UInt64 := (m.lookUp? g).bind Except.toOption

/-- The network that the request names is accepted. -/
def Accepts (network : NetworkIdentifier) (chain : UInt64) : Prop :=
  ∃ task, Http.readRequest m.request = .ok (.task network task) ∧
    ((g.checkNetwork m.memory network).run m.node).1.1 = .ok chain

variable {g m}

theorem found?_eq_some {chain : UInt64} :
    m.found? g = some chain ↔ m.lookUp? g = some (.ok chain) := by
  unfold found?
  simp only [Option.bind_eq_some_iff, Except.toOption_eq_some, exists_eq_right]

theorem lookUp?_eq_some {found : Except QueryError UInt64} :
    m.lookUp? g = some found ↔
      Http.looksUp g m.request = true ∧ m.memory.resolved m.node = found := by
  unfold lookUp?
  rw [Memory.run_askChainId]
  split_ifs with h <;> simp [h]

theorem run_of_looksUp (h : Http.looksUp g m.request = true) :
    m.later g = m.memory.after m.node ∧
      Asked.ofMethod .chainId (m.run g).2 = Asked.ofMethod .chainId m.memory.asks := by
  obtain ⟨rest, hrest, hrespond⟩ := Http.respond_of_looksUp h
  have hnone (found : Except QueryError UInt64) :
      Asked.ofMethod .chainId ((rest found).run m.node).2 = [] :=
    (hrest found).ofMethod_eq_nil Method.chainId_not_mem_others m.node
  unfold later run
  simp only [hrespond, Dialogue.run_bind, Dialogue.run, Memory.run_askChainId,
    Asked.ofMethod_append, hnone, List.append_nil, and_self]

theorem run_of_not_looksUp (hmode : g.mode = .online) (h : Http.looksUp g m.request = false) :
    m.later g = m.memory ∧ (m.run g).2 = [] := by
  obtain ⟨response, hrespond⟩ := Http.respond_of_not_looksUp hmode h
  unfold later run
  simp only [hrespond, Dialogue.run, and_self]

theorem lookUp?_of_accepts (hmode : g.mode = .online) {network : NetworkIdentifier} {chain : UInt64}
    (h : m.Accepts g network chain) : network.Names chain ∧ m.lookUp? g = some (.ok chain) := by
  obtain ⟨task, hread, hcheck⟩ := h
  obtain ⟨hnames, hserves⟩ := Gateway.checkNetwork_eq_ok.mp hcheck
  rw [Gateway.Serves, hmode] at hserves
  exact ⟨hnames, lookUp?_eq_some.mpr
    ⟨Http.looksUp_iff.mpr ⟨hmode, network, task, chain, hread, hnames⟩, hserves⟩⟩

/-- **What is remembered stays as it is, or becomes what was found.** -/
theorem chainId_later (hmode : g.mode = .online) :
    (m.later g).chainId = m.memory.chainId.or (m.found? g) := by
  cases hlooksUp : Http.looksUp g m.request with
  | false =>
    have hnone : m.found? g = none := by simp [found?, lookUp?, hlooksUp]
    rw [(run_of_not_looksUp hmode hlooksUp).1, hnone, Option.or_none]
  | true =>
    have hlookUp : m.lookUp? g = some (m.memory.resolved m.node) :=
      lookUp?_eq_some.mpr ⟨hlooksUp, rfl⟩
    rw [(run_of_looksUp hlooksUp).1, found?, hlookUp, Memory.after, Option.bind_some]
    cases hremembered : m.memory.chainId with
    | some id => simp [Memory.resolved, hremembered]
    | none => cases m.memory.resolved m.node <;> simp [Except.toOption, hremembered]

end Moment

/-! ### Many requests -/

namespace Gateway

/-- The course of a conversation. -/
def course (g : Gateway) : Memory → List Turn → List Moment
  | _, [] => []
  | memory, turn :: turns =>
    let m : Moment := { turn with memory }
    m :: g.course (m.later g) turns

variable {g : Gateway} {memory : Memory} {turns : List Turn} {front back : List Moment} {m : Moment}

/-- A conversation goes on after a moment with what is remembered then. -/
theorem exists_course_later (h : g.course memory turns = front ++ m :: back) :
    ∃ turns', back = g.course (m.later g) turns' := by
  induction turns generalizing memory front with
  | nil => simp [course] at h
  | cons turn turns ih =>
    cases front with
    | nil =>
      obtain ⟨rfl, rfl⟩ := List.cons.inj h
      exact ⟨turns, rfl⟩
    | cons m₀ front => exact ih (List.cons.inj h).2

/-- **What is remembered at any moment is the first chain id that was found.** -/
theorem chainId_of_course (hmode : g.mode = .online)
    (h : g.course memory turns = front ++ m :: back) :
    m.memory.chainId = memory.chainId.or (front.findSome? (Moment.found? g)) := by
  induction turns generalizing memory front with
  | nil => simp [course] at h
  | cons turn turns ih =>
    cases front with
    | nil =>
      obtain ⟨rfl, rfl⟩ := List.cons.inj h
      simp
    | cons m₀ front =>
      obtain ⟨rfl, hrest⟩ := List.cons.inj h
      rw [ih hrest, Moment.chainId_later hmode, List.findSome?_cons, Option.or_assoc]
      cases Moment.found? g _ <;> rfl

/-- What was found once is remembered ever after. -/
theorem chainId_of_found (hmode : g.mode = .online)
    (h : g.course memory turns = front ++ m :: back) {m' : Moment} (hm' : m' ∈ front)
    {chain : UInt64} (hfound : m'.lookUp? g = some (.ok chain)) :
    m.memory.chainId = some chain := by
  obtain ⟨first, last, rfl⟩ := List.append_of_mem hm'
  rw [List.append_assoc, List.cons_append] at h
  obtain ⟨turns', hlast⟩ := exists_course_later h
  obtain ⟨-, hresolved⟩ := Moment.lookUp?_eq_some.mp hfound
  have hlater : (m'.later g).chainId = some chain := by
    rw [Moment.chainId_later hmode, Moment.found?_eq_some.mpr hfound]
    cases hremembered : m'.memory.chainId with
    | none => rfl
    | some id =>
      rw [Memory.resolved, hremembered] at hresolved
      cases hresolved
      rfl
  rw [chainId_of_course hmode hlast.symm, hlater, Option.some_or]

/-- So no other is found. -/
theorem eq_of_found (hmode : g.mode = .online) (h : g.course memory turns = front ++ m :: back)
    {m' : Moment} (hm' : m' ∈ front) {chain chain' : UInt64}
    (hfound' : m'.lookUp? g = some (.ok chain')) (hfound : m.lookUp? g = some (.ok chain)) :
    chain' = chain := by
  have hremembered := chainId_of_found hmode h hm' hfound'
  obtain ⟨-, hresolved⟩ := Moment.lookUp?_eq_some.mp hfound
  rw [Memory.resolved, hremembered] at hresolved
  exact Except.ok.inj hresolved

end Gateway

/-- A moment at which the chain id is what it was before. -/
structure Moment.Steady (g : Gateway) (earlier : List Moment) (m : Moment) : Prop where
  /-- A request that names a chain makes the gateway look the chain id up, and no other does. -/
  looks : (∃ found, m.lookUp? g = some found) ↔
    ∃ network task chain, Http.readRequest m.request = .ok (.task network task) ∧
      network.Names chain
  /-- A chain id that is found is the one that was found before. -/
  agrees : ∀ chain, m.lookUp? g = some (.ok chain) →
    ∀ m' ∈ earlier, ∀ chain', m'.lookUp? g = some (.ok chain') → chain' = chain
  /-- Once it was found, it is not asked for again. -/
  spared : ∀ m' ∈ earlier, ∀ chain, m'.lookUp? g = some (.ok chain) →
    Asked.ofMethod .chainId (m.run g).2 = []
  /-- A look-up that fails leaves nothing behind, -/
  fails : ∀ failure, m.lookUp? g = some (.error failure) → m.later g = {}
  /-- and as long as all have failed, the node is asked and its answer counts. -/
  retries : (∀ m' ∈ earlier, ∀ chain, m'.lookUp? g ≠ some (.ok chain)) →
    ∀ found, m.lookUp? g = some found →
      found = Query.result m.node Query.chainId ∧
        Asked.ofMethod .chainId (m.run g).2 = [⟨.chainId, []⟩]
  /-- Networks that are accepted are one. -/
  accepts : ∀ network chain, m.Accepts g network chain →
    ∀ m' ∈ earlier, ∀ network' chain', m'.Accepts g network' chain' →
      chain' = chain ∧ network'.Names chain ∧ network.Names chain

/-- **The chain never changes**: in every conversation with a gateway that has a node, from its
start on and whatever the node answers to each request, every moment is steady. -/
theorem Gateway.steady_of_course {g : Gateway} (hmode : g.mode = .online) (turns : List Turn)
    {earlier later : List Moment} {m : Moment} (h : g.course {} turns = earlier ++ m :: later) :
    m.Steady g earlier where
  looks := by
    simp only [Moment.lookUp?_eq_some, exists_and_left, exists_eq', and_true, Http.looksUp_iff,
      hmode, true_and]
  agrees chain hfound m' hm' chain' hfound' := eq_of_found hmode h hm' hfound' hfound
  spared m' hm' chain hfound := by
    have hremembered := chainId_of_found hmode h hm' hfound
    cases hlooksUp : Http.looksUp g m.request with
    | false =>
      rw [(Moment.run_of_not_looksUp hmode hlooksUp).2]
      rfl
    | true =>
      rw [(Moment.run_of_looksUp hlooksUp).2, Memory.asks, hremembered]
      rfl
  fails failure hfailure := by
    obtain ⟨hlooksUp, hresolved⟩ := Moment.lookUp?_eq_some.mp hfailure
    rw [(Moment.run_of_looksUp hlooksUp).1, Memory.after, hresolved]
    obtain ⟨turn, ⟨remembered⟩⟩ := m
    cases remembered with
    | none => rfl
    | some id => cases hresolved
  retries hnone found hfound := by
    have hforgotten : m.memory.chainId = none := by
      rw [chainId_of_course hmode h, Option.none_or, List.findSome?_eq_none_iff]
      intro m' hm'
      by_contra hne
      obtain ⟨chain, hchain⟩ := Option.ne_none_iff_exists'.mp hne
      exact hnone m' hm' chain (Moment.found?_eq_some.mp hchain)
    obtain ⟨hlooksUp, hresolved⟩ := Moment.lookUp?_eq_some.mp hfound
    rw [Memory.resolved, hforgotten] at hresolved
    refine ⟨hresolved.symm, ?_⟩
    rw [(Moment.run_of_looksUp hlooksUp).2, Memory.asks, hforgotten]
    rfl
  accepts network chain haccepts m' hm' network' chain' haccepts' := by
    obtain ⟨hnames, hfound⟩ := Moment.lookUp?_of_accepts hmode haccepts
    obtain ⟨hnames', hfound'⟩ := Moment.lookUp?_of_accepts hmode haccepts'
    obtain rfl := eq_of_found hmode h hm' hfound' hfound
    exact ⟨rfl, hnames', hnames⟩

/-! A node that cannot be reached at first, then is of the main network, and then of another one. -/

section Wavering

open Http

/-- Requests to it. -/
def waveringTurns : List Turn :=
  [⟨optionsRequest .mainnet, .unreachable⟩,
    ⟨optionsRequest .mainnet, Node.unreachable.reporting 88⟩,
    ⟨optionsRequest .testnet, Node.unreachable.reporting 89⟩]

theorem looksUp_optionsRequest (network : Network) :
    looksUp mainGateway (optionsRequest network) = true :=
  looksUp_iff.mpr ⟨rfl, _, _, _, readRequest_eq_ok.mpr ⟨_, arrives_optionsRequest network⟩,
    NetworkIdentifier.names_ofChain network.chainId⟩

/-- The first look-up fails, the second one finds the main network, and so it is not asked for
again. -/
theorem steady_of_course_wavering :
    ∃ m₁ m₂ m₃, mainGateway.course {} waveringTurns = [m₁, m₂, m₃] ∧
      m₁.later mainGateway = {} ∧ m₂.lookUp? mainGateway = some (.ok 88) ∧
      Asked.ofMethod .chainId (m₃.run mainGateway).2 = [] := by
  let m₁ : Moment := ⟨⟨optionsRequest .mainnet, .unreachable⟩, {}⟩
  let m₂ : Moment :=
    ⟨⟨optionsRequest .mainnet, Node.unreachable.reporting 88⟩, m₁.later mainGateway⟩
  let m₃ : Moment :=
    ⟨⟨optionsRequest .testnet, Node.unreachable.reporting 89⟩, m₂.later mainGateway⟩
  have hcourse : mainGateway.course {} waveringTurns = [m₁, m₂, m₃] := rfl
  have hfirst : m₁.Steady mainGateway [] := Gateway.steady_of_course rfl waveringTurns hcourse
  have hthird : m₃.Steady mainGateway [m₁, m₂] :=
    Gateway.steady_of_course rfl waveringTurns hcourse
  have hlater : m₁.later mainGateway = {} :=
    hfirst.fails (.node (.transport "connection refused"))
      (Moment.lookUp?_eq_some.mpr ⟨looksUp_optionsRequest .mainnet, rfl⟩)
  have hresolved : (m₁.later mainGateway).resolved (Node.unreachable.reporting 88) = .ok 88 := by
    rw [hlater]
    exact Query.result_reporting _ 88
  have hfound : m₂.lookUp? mainGateway = some (.ok 88) :=
    Moment.lookUp?_eq_some.mpr ⟨looksUp_optionsRequest .mainnet, hresolved⟩
  exact ⟨m₁, m₂, m₃, hcourse, hlater, hfound, hthird.spared m₂ (by simp) 88 hfound⟩

end Wavering

end PosvGateway
