import Mathlib
import PosvGateway.Http.Server
import PosvGateway.Proofs.Json.Record
import PosvGateway.Proofs.Json.Rendering
import PosvGateway.Proofs.Query.Answers

/-!
# Requests and the endpoints they are sent to

A request over HTTP is served if it is posted to the path of an endpoint as JSON of the shape that
the endpoint reads. What an endpoint reads is a request of its own.

* `Task.endpoint`, `Request.endpoint` : the endpoint a request belongs to;
* `Http.Arrives` : a request over HTTP arrives at an endpoint;
* `Http.readRequest_eq_ok` : those are the requests that are served;
* `Http.Arrives.endpoint_eq` : **what arrives at an endpoint belongs to it**;
* `Http.Arrives.run_respond` : its response is the gateway's answer;
* `Http.post`, `Http.arrives_task` : requests as clients write them.
-/

namespace PosvGateway

/-! ### What fields yield -/

namespace Fields

variable {α β : Type}

/-- Whatever the fields read has a property. -/
def Yields (P : α → Prop) (fields : Fields α) : Prop :=
  ∀ depth source a, (fields.read depth source).1 = .ok a → P a

variable {P : α → Prop} {Q : β → Prop}

theorem yields_true (fields : Fields α) : fields.Yields fun _ => True := by
  intro depth source a h
  trivial

theorem yields_pure {a : α} (h : P a) : (pure a : Fields α).Yields P := by
  intro depth source a' ha
  cases ha
  exact h

theorem Yields.seq {f : Fields (α → β)} {fields : Fields α}
    (hf : f.Yields fun g => ∀ a, P a → Q (g a)) (hfields : fields.Yields P) :
    (f <*> fields).Yields Q := by
  intro depth source b h
  simp only [Seq.seq] at h
  cases hg : (f.read depth source).1 with
  | error e => cases ha : (fields.read depth (f.read depth source).2).1 <;> simp [hg, ha, both] at h
  | ok g =>
    cases ha : (fields.read depth (f.read depth source).2).1 with
    | error e => simp [hg, ha, both] at h
    | ok a =>
      obtain rfl : g a = b := by simpa [hg, ha, both] using h
      exact hf _ _ g hg a (hfields _ _ a ha)

theorem yields_map {f : α → β} {fields : Fields α} (h : ∀ a, Q (f a)) :
    (f <$> fields).Yields Q :=
  Yields.seq (yields_pure fun a _ => h a) (yields_true fields)

theorem eq_ok_of_settle {source : RecordSource} {answer : Except RecordMisfit α} {a : α}
    (h : settle source answer = .ok a) : answer = .ok a := by
  cases answer <;> cases hrest : restMisfit? source <;> simp [settle, hrest] at h ⊢
  exact h

theorem Yields.of_record {fields : Fields α} (hfields : fields.Yields P) {depth : Nat}
    {doc : Document} {a : α} (h : fields.record depth doc = .ok a) : P a := by
  unfold record at h
  split at h
  · exact hfields _ _ a (eq_ok_of_settle h)
  · exact hfields _ _ a (eq_ok_of_settle h)
  · cases h
  · cases h
  · cases h

end Fields

/-! ### Networks -/

namespace NetworkIdentifier

/-- The members of the identifier of a chain. -/
def members (chain : UInt64) : List (String × Json) :=
  [("blockchain", .string ledgerName), ("network", .string (Numeral.decimal chain.toNat))]

theorem toJson_ofChain (chain : UInt64) : (ofChain chain).toJson = .object (members chain) := by
  have horder : compare "network" "blockchain" = .gt := by decide
  simp [toJson, Json.ofFields, Json.mkObject, OrderedMap.ofList, OrderedMap.insert, ofChain,
    members, horder]

/-- The identifier of a chain is read back from its JSON. -/
theorem reader_toJson (chain : UInt64) (depth : Nat) :
    reader (depth + 1) (ofChain chain).toJson.document = .ok (ofChain chain) := by
  have hkeys : ((members chain).map Prod.fst).Nodup := by simp [members]
  rw [toJson_ofChain]
  refine Fields.record_of_reads ⟨trivial, trivial, trivial⟩ (Fields.reads_seq (Fields.reads_seq
    (Fields.reads_map _ (Fields.reads_member hkeys rfl rfl)) (Fields.reads_member hkeys rfl rfl))
    (Fields.reads_absent ?_))
  rfl

end NetworkIdentifier

/-! ### Endpoints -/

/-- The endpoint that a task is asked for at. -/
def Task.endpoint : Task → Endpoint
  | .networkOptions => .networkOptions
  | .networkStatus => .networkStatus
  | .accountBalance .. => .accountBalance
  | .block _ => .block
  | .blockTransaction .. => .blockTransaction
  | .mempool => .mempool
  | .mempoolTransaction _ => .mempoolTransaction
  | .derive _ => .derive
  | .preprocess .. => .preprocess
  | .metadata _ => .metadata
  | .payloads .. => .payloads
  | .combine .. => .combine
  | .parse .. => .parse
  | .hash _ => .hash
  | .submit _ => .submit
  | .call .. => .call

/-- The endpoint that a request is sent to. -/
def Request.endpoint : Request → Endpoint
  | .networkList => .networkList
  | .task _ what => what.endpoint

namespace Endpoint

open Fields

theorem yields_taskFields {endpoint : Endpoint} (h : endpoint ≠ .networkList) :
    endpoint.taskFields.Yields fun task => task.endpoint = endpoint := by
  cases endpoint with
  | networkList => exact absurd rfl h
  | networkOptions | networkStatus | mempool => exact yields_pure rfl
  | block | mempoolTransaction | derive | metadata | hash | submit => exact yields_map fun _ => rfl
  | accountBalance | blockTransaction | preprocess | payloads | combine | parse | call =>
    exact Yields.seq (yields_map fun _ _ _ => rfl) (yields_true _)

theorem endpoint_eq_of_reader {endpoint : Endpoint} {depth : Nat} {doc : Document}
    {request : Request} (h : endpoint.reader depth doc = .ok request) :
    request.endpoint = endpoint := by
  unfold reader at h
  split at h
  · exact (yields_map fun _ => rfl : Fields.Yields (fun r : Request => r.endpoint = .networkList)
      _).of_record h
  · rename_i hne
    refine Yields.of_record (P := fun r : Request => r.endpoint = endpoint) ?_ h
    exact Yields.seq (yields_map fun id task htask => htask) (yields_taskFields hne)

/-- What an endpoint reads from an object that names a network. -/
theorem reader_document {endpoint : Endpoint} (h : endpoint ≠ .networkList)
    {members : List (String × Json)} (hkeys : (members.map Prod.fst).Nodup)
    (hexact : Json.MembersExact members) {chain : UInt64}
    (hnetwork : members.lookup "network_identifier"
      = some (NetworkIdentifier.ofChain chain).toJson) {depth : Nat} {task : Task}
    (htask : endpoint.taskFields.Reads (depth + 1) members task) :
    endpoint.reader (depth + 2) (Json.object members).document
      = .ok (.task (.ofChain chain) task) := by
  have hreader : endpoint.reader = (Request.task
      <$> .required "network_identifier" NetworkIdentifier.reader <*> endpoint.taskFields :
        Fields Request).record := by
    cases endpoint with
    | networkList => exact absurd rfl h
    | _ => rfl
  have hread := NetworkIdentifier.reader_toJson chain depth
  rw [hreader]
  exact record_of_reads hexact (reads_seq (reads_map _ (reads_member hkeys hnetwork hread)) htask)

end Endpoint

/-! ### Requests over HTTP -/

namespace Http

/-- A request over HTTP arrives at an endpoint: it is posted to its path as JSON, and its body is
read there. -/
structure Arrives (r : Request) (endpoint : Endpoint) (request : PosvGateway.Request) : Prop where
  posted : r.method = "POST"
  routed : path r.target = endpoint.path
  json : sendsJson r = true
  fits : r.body.utf8ByteSize ≤ bodyLimit
  reads : Reader.run endpoint.reader r.body = .ok request

theorem ofPath?_eq_some {path : String} {endpoint : Endpoint} :
    Endpoint.ofPath? path = some endpoint ↔ path = endpoint.path := by
  constructor
  · intro h
    have hpath := List.find?_some h
    exact (of_decide_eq_true hpath).symm
  · rintro rfl
    cases endpoint <;> decide

theorem readBody_eq_ok {endpoint : Endpoint} {r : Request} {request : PosvGateway.Request} :
    readBody endpoint r = .ok request ↔
      r.method = "POST" ∧ sendsJson r = true ∧ r.body.utf8ByteSize ≤ bodyLimit ∧
        Reader.run endpoint.reader r.body = .ok request := by
  unfold readBody
  split_ifs with hmethod hjson hsize
  · simp [hmethod]
  · simp_all
  · simp; omega
  · have hmethod := not_not.mp hmethod
    rw [Bool.not_eq_true', Bool.not_eq_false] at hjson
    have hsize := Nat.le_of_not_lt hsize
    cases hread : Reader.run endpoint.reader r.body with
    | ok request' => simp [hmethod, hjson, hsize]
    | error misfit => cases misfit <;> simp

/-- **A request is served if it arrives at an endpoint.** -/
theorem readRequest_eq_ok {r : Request} {request : PosvGateway.Request} :
    readRequest r = .ok request ↔ ∃ endpoint, Arrives r endpoint request := by
  unfold readRequest
  constructor
  · intro h
    split_ifs at h with hoptions
    cases hpath : Endpoint.ofPath? (path r.target) with
    | none => simp [hpath] at h
    | some endpoint =>
      simp only [hpath] at h
      obtain ⟨hmethod, hjson, hsize, hread⟩ := readBody_eq_ok.mp h
      exact ⟨endpoint, hmethod, ofPath?_eq_some.mp hpath, hjson, hsize, hread⟩
  · rintro ⟨endpoint, h⟩
    have hoptions : r.method ≠ "OPTIONS" := by simp [h.posted]
    rw [if_neg hoptions, ofPath?_eq_some.mpr h.routed]
    exact readBody_eq_ok.mpr ⟨h.posted, h.json, h.fits, h.reads⟩

namespace Arrives

variable {r : Request} {endpoint : Endpoint} {request : PosvGateway.Request}

/-- **What arrives at an endpoint belongs to it.** -/
theorem endpoint_eq (h : Arrives r endpoint request) : request.endpoint = endpoint := by
  have hread := h.reads
  unfold Reader.run Reader.finish at hread
  cases hdoc : endpoint.reader maxDepth (Document.parse r.body).1 with
  | error e => simp [hdoc] at hread
  | ok request' =>
    simp only [hdoc] at hread
    split_ifs at hread
    cases hread
    exact Endpoint.endpoint_eq_of_reader hdoc

theorem exists_task (h : Arrives r endpoint request) (hne : endpoint ≠ .networkList) :
    ∃ network task, request = .task network task ∧ task.endpoint = endpoint := by
  have hendpoint := h.endpoint_eq
  cases request with
  | networkList => exact absurd hendpoint.symm hne
  | task network task => exact ⟨network, task, rfl, hendpoint⟩

theorem eq_networkList (h : Arrives r .networkList request) : request = .networkList := by
  have hendpoint := h.endpoint_eq
  cases request with
  | networkList => rfl
  | task network task => cases task <;> cases hendpoint

/-- The response to a request that arrives is the answer of the gateway. -/
theorem run_respond (h : Arrives r endpoint request) (g : Gateway) (memory : Memory)
    (node : Node) :
    (respond g memory r).run node =
      ((.ofAnswer ((g.serve memory request).run node).1.1, ((g.serve memory request).run node).1.2),
        ((g.serve memory request).run node).2) := by
  rw [respond, readRequest_eq_ok.mpr ⟨endpoint, h⟩]
  exact Dialogue.run_bind_done node _ _

end Arrives

/-! ### Requests as clients write them -/

/-- A request that is posted to an endpoint. -/
def post (endpoint : Endpoint) (body : Json) : Request where
  method := "POST"
  target := endpoint.path
  contentType := some "application/json"
  body := body.render

theorem path_path (endpoint : Endpoint) : path endpoint.path = endpoint.path := by
  cases endpoint <;> decide +kernel

theorem arrives_post {endpoint : Endpoint} {body : Json} {request : PosvGateway.Request}
    (hexact : body.IsExact) (hsize : body.render.utf8ByteSize ≤ bodyLimit)
    (hread : endpoint.reader maxDepth body.document = .ok request) :
    Arrives (post endpoint body) endpoint request where
  posted := rfl
  routed := path_path endpoint
  json := by
    rw [sendsJson, post]
    cbv
  fits := hsize
  reads := (Reader.run_render _ hexact).trans hread

/-- The members of a request for a task on a chain. -/
def taskMembers (chain : UInt64) (members : List (String × Json)) : List (String × Json) :=
  ("network_identifier", .object (NetworkIdentifier.members chain)) :: members

theorem arrives_task {endpoint : Endpoint} (h : endpoint ≠ .networkList) {chain : UInt64}
    {members : List (String × Json)} (hkeys : ((taskMembers chain members).map Prod.fst).Nodup)
    (hexact : Json.MembersExact members)
    (hsize : (Json.object (taskMembers chain members)).render.utf8ByteSize ≤ bodyLimit)
    {task : Task}
    (htask : endpoint.taskFields.Reads (maxDepth - 1) (taskMembers chain members) task) :
    Arrives (post endpoint (.object (taskMembers chain members))) endpoint
      (.task (.ofChain chain) task) := by
  have hbody : Json.MembersExact (taskMembers chain members) :=
    ⟨⟨trivial, trivial, trivial⟩, hexact⟩
  exact arrives_post hbody hsize (Endpoint.reader_document h hkeys hbody
    (congrArg some (NetworkIdentifier.toJson_ofChain chain).symm) htask)

end Http

end PosvGateway
