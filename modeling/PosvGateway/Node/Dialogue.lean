import PosvGateway.Node.Call

/-!
# Dialogues with the node

Work that needs the node is described as a dialogue: a tree that asks one call or one batch after
another, each depending on the replies before, and ends in an answer. The description does nothing
by itself; whoever holds the node carries it out.

* `Dialogue` is a monad;
* `Dialogue.run node` carries a dialogue out with a `Node` and lists what was asked.
-/

namespace PosvGateway

/-- Work that may ask the node and ends in an answer. -/
inductive Dialogue (α : Type) where
  /-- The answer. -/
  | done (a : α)
  /-- Asks one call and goes on with its reply. -/
  | ask (call : Call) (next : Reply → Dialogue α)
  /-- Asks several calls in one batch and goes on with its reply. -/
  | askAll (calls : List Call) (next : BatchReply → Dialogue α)

/-- A node, by its replies. -/
structure Node where
  /-- The reply to a call. -/
  reply : Call → Reply
  /-- The reply to a batch. -/
  batchReply : List Call → BatchReply

/-- One thing that was asked of a node. -/
inductive Asked where
  | call (call : Call)
  | batch (calls : List Call)

namespace Dialogue

variable {α β : Type}

/-- Goes on with the answer of a dialogue. -/
def bind (d : Dialogue α) (f : α → Dialogue β) : Dialogue β :=
  match d with
  | .done a => f a
  | .ask call next => .ask call fun reply => bind (next reply) f
  | .askAll calls next => .askAll calls fun reply => bind (next reply) f

instance : Monad Dialogue where
  pure := .done
  bind := bind

/-- Carries a dialogue out with a node: the answer, and what was asked in order. -/
def run (node : Node) : Dialogue α → α × List Asked
  | .done a => (a, [])
  | .ask call next =>
    let (a, asked) := run node (next (node.reply call))
    (a, .call call :: asked)
  | .askAll calls next =>
    let (a, asked) := run node (next (node.batchReply calls))
    (a, .batch calls :: asked)

/-- Asks one call. -/
def call (method : Method) (params : List Json) : Dialogue Reply :=
  .ask ⟨method, params⟩ .done

/-- Asks several calls in one batch; of no calls nothing is asked. -/
def batch (calls : List Call) : Dialogue BatchReply :=
  match calls with
  | [] => .done (.ok [])
  | calls => .askAll calls .done

end Dialogue

end PosvGateway
