import PosvGateway.Proofs.Outcome
import PosvGateway.Query.Error

/-!
# What a node answers to a query

`Query.Answers node query a asked` : with this node the query ends in the answer `a`, after `asked`
was asked in this order. For each way of building a query there is one equivalence that takes such a
statement apart.

* `Dialogue.run_bind`, `Dialogue.run_bind_done`, `Dialogue.run_bind_eq_ok` : a dialogue in two
  parts is carried out one part after the other;
* `Query.answers_bind`, `Query.answers_call`, `Query.answers_batch`, … : the same for queries;
* `Query.result`, `Query.result_bind_congr` : what a query ends in, answer or error, whatever was
  asked;
* `Asked.ofMethod` : the calls of one method among what was asked.
-/

namespace PosvGateway

variable {α β : Type}

/-! ### Dialogues -/

namespace Dialogue

theorem run_bind (node : Node) (d : Dialogue α) (f : α → Dialogue β) :
    run node (bind d f) =
      ((run node (f (run node d).1)).1, (run node d).2 ++ (run node (f (run node d).1)).2) := by
  induction d with
  | done a => rfl
  | ask call next ih => simp only [bind, run, ih, List.cons_append]
  | askAll calls next ih => simp only [bind, run, ih, List.cons_append]

/-- A dialogue whose answer is put into another form. -/
theorem run_bind_done (node : Node) (d : Dialogue α) (f : α → β) :
    run node (bind d fun a => .done (f a)) = (f (run node d).1, (run node d).2) := by
  rw [run_bind, run, List.append_nil]

/-- A dialogue in two parts, of which the first may fail, is carried out one part after the
other. -/
theorem run_bindCont {ε : Type} (node : Node) (d : ExceptT ε Dialogue α)
    (f : α → ExceptT ε Dialogue β) :
    (d >>= f).run.run node =
      ((((ExceptT.bindCont f (d.run.run node).1).run node).1,
        (d.run.run node).2 ++ ((ExceptT.bindCont f (d.run.run node).1).run node).2)) :=
  run_bind node d.run (ExceptT.bindCont f)

/-- A dialogue in two parts that may fail ends in an answer if both parts do. -/
theorem run_bind_eq_ok {ε : Type} {node : Node} {d : ExceptT ε Dialogue α}
    {f : α → ExceptT ε Dialogue β} {b : β} {asked : List Asked} :
    (d >>= f).run.run node = (.ok b, asked) ↔
      ∃ a first rest, d.run.run node = (.ok a, first) ∧ (f a).run.run node = (.ok b, rest) ∧
        asked = first ++ rest := by
  rw [run_bindCont]
  constructor
  · intro h
    cases hfirst : (d.run.run node).1 with
    | error e =>
      rw [hfirst] at h
      cases (Prod.mk.inj h).1
    | ok a =>
      rw [hfirst] at h
      obtain ⟨hanswer, hasked⟩ := Prod.mk.inj h
      exact ⟨a, _, _, Prod.ext hfirst rfl, Prod.ext hanswer rfl, hasked.symm⟩
  · rintro ⟨a, first, rest, hfirst, hrest, rfl⟩
    rw [hfirst]
    exact Prod.ext (congrArg Prod.fst hrest :) (congrArg (first ++ ·.2) hrest :)

end Dialogue

/-! ### What was asked -/

namespace Asked

/-- The calls in one thing that was asked. -/
def calls : Asked → List Call
  | .call c => [c]
  | .batch cs => cs

/-- The calls of one method among what was asked, in order. -/
def ofMethod (method : Method) (asked : List Asked) : List Call :=
  (asked.flatMap calls).filter (·.method = method)

@[simp] theorem ofMethod_append (method : Method) (asked asked' : List Asked) :
    ofMethod method (asked ++ asked') = ofMethod method asked ++ ofMethod method asked' := by
  simp [ofMethod]

end Asked

/-! ### Answers -/

namespace Query

/-- With this node, the query ends in an answer after something was asked. -/
def Answers (node : Node) (query : Query α) (a : α) (asked : List Asked) : Prop :=
  query.run.run node = (.ok a, asked)

variable {node : Node} {a : α} {b : β} {asked : List Asked}

theorem answers_bind {query : Query α} {f : α → Query β} :
    Answers node (query >>= f) b asked ↔
      ∃ a first rest, Answers node query a first ∧ Answers node (f a) b rest ∧
        asked = first ++ rest := Dialogue.run_bind_eq_ok

theorem answers_pure {a' : α} : Answers node (pure a' : Query α) a asked ↔ a = a' ∧ asked = [] := by
  constructor
  · intro h
    cases h
    exact ⟨rfl, rfl⟩
  · rintro ⟨rfl, rfl⟩
    rfl

theorem answers_ofExcept {answer : Except QueryError α} :
    Answers node (ofExcept answer) a asked ↔ answer = .ok a ∧ asked = [] := by
  constructor
  · intro h
    exact ⟨(Prod.mk.inj h).1, (Prod.mk.inj h).2.symm⟩
  · rintro ⟨rfl, rfl⟩
    rfl

/-- A query whose answer is looked at, and nothing more is asked. -/
theorem answers_bind_ofExcept {query : Query α} {f : α → Except QueryError β} :
    Answers node (query >>= fun a => ofExcept (f a)) b asked ↔
      ∃ a, Answers node query a asked ∧ f a = .ok b := by
  simp only [answers_bind, answers_ofExcept]
  constructor
  · rintro ⟨a, first, -, hquery, ⟨hf, rfl⟩, rfl⟩
    exact ⟨a, by rwa [List.append_nil], hf⟩
  · rintro ⟨a, hquery, hf⟩
    exact ⟨a, asked, [], hquery, ⟨hf, rfl⟩, (List.append_nil _).symm⟩

/-- A query whose answer is put into another form. -/
theorem answers_bind_pure {query : Query α} {f : α → β} :
    Answers node (query >>= fun a => pure (f a)) b asked ↔
      ∃ a, Answers node query a asked ∧ b = f a := by
  simp only [answers_bind, answers_pure]
  constructor
  · rintro ⟨a, first, -, hquery, ⟨rfl, rfl⟩, rfl⟩
    exact ⟨a, by rwa [List.append_nil], rfl⟩
  · rintro ⟨a, hquery, rfl⟩
    exact ⟨a, asked, [], hquery, ⟨rfl, rfl⟩, (List.append_nil _).symm⟩

/-- A query that starts with what is known already. -/
theorem answers_ofExcept_bind {answer : Except QueryError α} {f : α → Query β} :
    Answers node (ofExcept answer >>= f) b asked ↔
      ∃ a, answer = .ok a ∧ Answers node (f a) b asked := by
  simp only [answers_bind, answers_ofExcept]
  constructor
  · rintro ⟨a, -, rest, ⟨hanswer, rfl⟩, hf, rfl⟩
    exact ⟨a, hanswer, hf⟩
  · rintro ⟨a, hanswer, hf⟩
    exact ⟨a, [], asked, ⟨hanswer, rfl⟩, hf, rfl⟩

theorem not_answers_throw {e : QueryError} : ¬ Answers node (throw e : Query α) a asked := by
  intro h
  cases (Prod.mk.inj h).1

/-- A dialogue that cannot fail is a query. -/
theorem answers_lift {d : Dialogue α} :
    Answers node (ExceptT.lift d : Query α) a asked ↔ d.run node = (a, asked) := by
  have hrun : (ExceptT.lift d : Query α).run.run node
      = (Except.ok (d.run node).1, (d.run node).2 ++ []) :=
    Dialogue.run_bind node d fun a => .done (.ok a : Except QueryError α)
  rw [Answers, hrun, List.append_nil]
  constructor
  · intro h
    exact Prod.ext (Except.ok.inj (Prod.mk.inj h).1) (Prod.mk.inj h).2
  · rintro h
    rw [h]

theorem answers_call {method : Method} {params : List Json} {text : String} :
    Answers node (call method params) text asked ↔
      node.reply ⟨method, params⟩ = .ok text ∧ asked = [.call ⟨method, params⟩] := by
  constructor
  · intro h
    exact ⟨Except.mapError_eq_ok.mp (Prod.mk.inj h).1, (Prod.mk.inj h).2.symm⟩
  · rintro ⟨h, rfl⟩
    exact Prod.ext (Except.mapError_eq_ok.mpr h) rfl

theorem answers_read {reader : Reader α} {method : Method} {params : List Json} :
    Answers node (read reader method params) a asked ↔
      ∃ text, node.reply ⟨method, params⟩ = .ok text ∧ reader.decode method.name text = .ok a ∧
        asked = [.call ⟨method, params⟩] := by
  simp only [read, answers_bind_ofExcept, answers_call, Except.mapError_eq_ok]
  constructor
  · rintro ⟨text, ⟨hreply, rfl⟩, hread⟩
    exact ⟨text, hreply, hread, rfl⟩
  · rintro ⟨text, hreply, hread, rfl⟩
    exact ⟨text, ⟨hreply, rfl⟩, hread⟩

/-- Of no calls nothing is asked. -/
theorem answers_batch {calls : List Call} {replies : List Reply} :
    Answers node (batch calls) replies asked ↔
      (calls = [] ∧ replies = [] ∧ asked = []) ∨
        (calls ≠ [] ∧ node.batchReply calls = .ok replies ∧ asked = [.batch calls]) := by
  cases calls with
  | nil =>
    constructor
    · intro h
      cases h
      exact .inl ⟨rfl, rfl, rfl⟩
    · rintro (⟨-, rfl, rfl⟩ | ⟨h, -⟩)
      · rfl
      · exact absurd rfl h
  | cons c calls =>
    constructor
    · intro h
      exact .inr ⟨List.cons_ne_nil c calls, Except.mapError_eq_ok.mp (Prod.mk.inj h).1,
        (Prod.mk.inj h).2.symm⟩
    · rintro (⟨h, -⟩ | ⟨-, h, rfl⟩)
      · cases h
      · exact Prod.ext (Except.mapError_eq_ok.mpr h) rfl

theorem answers_readAll {reader : Reader α} {method : Method} {params : List (List Json)}
    {as : List α} :
    Answers node (readAll reader method params) as asked ↔
      ∃ replies, Answers node (batch (params.map (⟨method, ·⟩))) replies asked ∧
        replies.mapM (fun reply => do
          let text ← Except.mapError QueryError.node reply
          Except.mapError QueryError.node (reader.decode method.name text)) = .ok as := by
  rw [readAll, answers_bind_ofExcept]

/-! ### Results -/

/-- What a query ends in with this node. -/
def result (node : Node) (query : Query α) : Except QueryError α := (query.run.run node).1

theorem result_eq_ok {query : Query α} :
    result node query = .ok a ↔ ∃ asked, Answers node query a asked :=
  ⟨fun h => ⟨(query.run.run node).2, Prod.ext h rfl⟩, fun ⟨_, h⟩ => congrArg Prod.fst h⟩

theorem exists_error_of_not_answers {query : Query α}
    (h : ∀ a asked, ¬ Answers node query a asked) : ∃ e, result node query = .error e := by
  cases hresult : result node query with
  | error e => exact ⟨e, rfl⟩
  | ok a =>
    obtain ⟨asked, hasked⟩ := result_eq_ok.mp hresult
    exact absurd hasked (h a asked)

theorem result_bind {query : Query α} {f : α → Query β} :
    result node (query >>= f) = result node query >>= fun a => result node (f a) := by
  unfold result
  rw [Dialogue.run_bindCont]
  cases (query.run.run node).1 <;> rfl

/-- Two queries that start alike end alike, if they go on alike from every answer to the start. -/
theorem result_bind_congr {query : Query α} {f g : α → Query β}
    (h : ∀ a, result node query = .ok a → result node (f a) = result node (g a)) :
    result node (query >>= f) = result node (query >>= g) := by
  rw [result_bind, result_bind]
  cases hresult : result node query with
  | error e => rfl
  | ok a => exact h a hresult

/-! ### What is not asked -/

end Query

end PosvGateway
