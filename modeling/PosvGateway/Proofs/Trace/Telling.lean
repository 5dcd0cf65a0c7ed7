import PosvGateway.Proofs.Hex
import PosvGateway.Proofs.Json.Record
import PosvGateway.Proofs.Numeral
import PosvGateway.Trace.Frame

/-!
# Traces as JSON

The node tells a tree of frames as an object for each frame, whose members may stand in any order
and among others that are of no interest. What a frame lacks may be left out, or told by null.

* `CallFrame.Tells` : a value tells a tree of frames;
* `CallFrame.tells_toJson` : every tree is told by some value, `CallFrame.toJson`;
* `CallFrame.depth_of_tells` : a level of the tree takes two levels of containers, the object of a
  frame and the array of its calls, but for the array of the last one;
* `CallFrame.readerTo_tells` : **a tree is read from any value that tells it**, if the reader goes
  that deep.
-/

namespace PosvGateway

/-- A value that is no container and no double. -/
def Json.IsPlain (value : Json) : Prop := value.IsExact ∧ value.depth = 0

namespace CallFrame

/-! ### Telling -/

/-- How a recipient is told: an empty text and a bare `0x` name nobody, as a missing member and a
null do. -/
def TellsRecipient : Option Address → Option Json → Prop
  | some a, member => member = some (.octets a)
  | none, member =>
    member = none ∨ member = some .null ∨ member = some (.string "") ∨ member = some (.string "0x")

/-- How it is told that a frame was reverted; where it was not, the member may be missing. -/
def TellsRevert : Bool → Option Json → Prop
  | true, member => member = some (.bool true)
  | false, member => member = none ∨ member = some (.bool false)

/-- The members of an object tell what a frame is itself; those that tell nothing are plain. -/
structure TellsItself (frame : CallFrame) (members : List (String × Json)) : Prop where
  keys : (members.map Prod.fst).Nodup
  kind : members.lookup "type" = some (.string frame.kind)
  sender : members.lookup "from" = some (.octets frame.sender)
  recipient : TellsRecipient frame.recipient (members.lookup "to")
  value : Json.TellsOptional .uint256 frame.value (members.lookup "value")
  gasUsed : Json.TellsOptional .uint256 frame.gasUsed (members.lookup "gasUsed")
  revert : TellsRevert frame.revert (members.lookup "revert")
  error : Json.TellsOptional .string frame.error (members.lookup "error")
  plain : ∀ member ∈ members, member.1 ≠ "calls" → member.2.IsPlain

mutual

/-- A value tells a tree of frames: a frame without calls has no member for them. -/
def Tells : CallFrame → Json → Prop
  | ⟨kind, sender, recipient, value, gasUsed, revert, error, calls⟩, json =>
    ∃ members, json = .object members ∧
      TellsItself ⟨kind, sender, recipient, value, gasUsed, revert, error, calls⟩ members ∧
      (calls = [] ∧ members.lookup "calls" = none ∨
        calls ≠ [] ∧ ∃ items, members.lookup "calls" = some (.array items) ∧ TellsAll calls items)

/-- Values tell several trees. -/
def TellsAll : List CallFrame → List Json → Prop
  | [], items => items = []
  | frame :: frames, items =>
    ∃ item rest, items = item :: rest ∧ Tells frame item ∧ TellsAll frames rest

end

mutual

/-- The number of frames on the longest way down a tree. -/
def depth : CallFrame → Nat
  | ⟨_, _, _, _, _, _, _, calls⟩ => deepest calls + 1

/-- The number of frames on the longest way down one of several trees. -/
def deepest : List CallFrame → Nat
  | [] => 0
  | frame :: frames => max (depth frame) (deepest frames)

end

/-! ### Writing -/

/-- The members that are set. -/
def present (fields : List (String × Option Json)) : List (String × Json) :=
  fields.filterMap fun field => field.2.map (field.1, ·)

/-- The members that tell what a frame is itself. -/
def ownFields (frame : CallFrame) : List (String × Option Json) :=
  [("type", some (.string frame.kind)), ("from", some (.octets frame.sender)),
    ("to", frame.recipient.map .octets), ("value", frame.value.map .uint256),
    ("gasUsed", frame.gasUsed.map .uint256),
    ("revert", if frame.revert then some (.bool true) else none),
    ("error", frame.error.map .string)]

mutual

/-- A tree of frames as the node writes it, without what is of no interest. -/
def toJson : CallFrame → Json
  | ⟨kind, sender, recipient, value, gasUsed, revert, error, calls⟩ =>
    .object (present
      (ownFields ⟨kind, sender, recipient, value, gasUsed, revert, error, []⟩ ++
        [("calls", if calls.isEmpty then none else some (.array (allToJson calls)))]))

/-- Several trees as the node writes them. -/
def allToJson : List CallFrame → List Json
  | [] => []
  | frame :: frames => toJson frame :: allToJson frames

end

theorem keys_present (fields : List (String × Option Json)) :
    ((present fields).map Prod.fst).Sublist (fields.map Prod.fst) := by
  induction fields with
  | nil => exact .slnil
  | cons field fields ih =>
    obtain ⟨key, value⟩ := field
    cases value with
    | none => exact ih.cons key
    | some value => exact ih.cons_cons key

theorem mem_present {fields : List (String × Option Json)} {member : String × Json}
    (h : member ∈ present fields) : (member.1, some member.2) ∈ fields := by
  obtain ⟨⟨key, value⟩, hfield, heq⟩ := List.mem_filterMap.mp h
  obtain ⟨value, rfl, rfl⟩ := Option.map_eq_some_iff.mp heq
  exact hfield

/-- What is found under a key is what was set. -/
theorem lookup_present {fields : List (String × Option Json)} (h : (fields.map Prod.fst).Nodup)
    (name : String) : (present fields).lookup name = (fields.lookup name).join := by
  induction fields with
  | nil => rfl
  | cons field fields ih =>
    obtain ⟨key, value⟩ := field
    obtain ⟨hhead, htail⟩ := List.nodup_cons.mp h
    by_cases hname : name = key
    · subst hname
      rw [List.lookup_cons_self, Option.join_some]
      cases value with
      | some value => exact List.lookup_cons_self
      | none =>
        have hnone : present ((name, none) :: fields) = present fields := rfl
        rw [hnone]
        refine List.lookup_eq_none_iff.mpr fun member hmember => bne_iff_ne.mpr fun heq => hhead ?_
        exact List.mem_map.mpr ⟨_, mem_present hmember, heq.symm⟩
    · rw [List.lookup_cons, beq_false_of_ne hname, ← ih htail]
      cases value with
      | none => rfl
      | some value =>
        have hsome : present ((key, some value) :: fields) = (key, value) :: present fields := rfl
        rw [hsome, List.lookup_cons, beq_false_of_ne hname]

theorem isPlain_string (s : String) : (Json.string s).IsPlain := ⟨trivial, rfl⟩

theorem isPlain_ownFields (frame : CallFrame) :
    ∀ field ∈ frame.ownFields, ∀ value, field.2 = some value → value.IsPlain := by
  have hmap : ∀ {α : Type} (o : Option α) (f : α → String) (value : Json),
      o.map (fun a => Json.string (f a)) = some value → value.IsPlain := by
    intro α o f value h
    obtain ⟨a, -, rfl⟩ := Option.map_eq_some_iff.mp h
    exact isPlain_string _
  simp only [ownFields, List.forall_mem_cons, List.not_mem_nil, false_imp_iff, implies_true,
    and_true]
  refine ⟨?_, ?_, hmap _ _, hmap _ _, hmap _ _, ?_, hmap _ id⟩
  · rintro value ⟨⟩
    exact isPlain_string _
  · rintro value ⟨⟩
    exact isPlain_string _
  · intro value h
    split at h <;> cases h
    exact ⟨trivial, rfl⟩

mutual

/-- **Every tree of frames is told by some value.** -/
theorem tells_toJson (frame : CallFrame) : frame.Tells frame.toJson := by
  obtain ⟨kind, sender, recipient, value, gasUsed, revert, error, calls⟩ := frame
  let fields := ownFields ⟨kind, sender, recipient, value, gasUsed, revert, error, []⟩ ++
    [("calls", if calls.isEmpty then none else some (.array (allToJson calls)))]
  have hnames : (fields.map Prod.fst).Nodup := by
    rw [show fields.map Prod.fst =
      ["type", "from", "to", "value", "gasUsed", "revert", "error", "calls"] from rfl]
    decide
  have hlookup := lookup_present hnames
  have hoptional : ∀ {α : Type} {write : α → Json} {a : Option α} {name : String},
      (fields.lookup name).join = a.map write →
        Json.TellsOptional write a ((present fields).lookup name) :=
    fun h => (hlookup _).trans h ▸ Json.tellsOptional_map _ _
  have hrecipient : TellsRecipient recipient ((present fields).lookup "to") := by
    rw [hlookup "to"]
    cases recipient with
    | none => exact .inl rfl
    | some a => exact rfl
  have hrevert : TellsRevert revert ((present fields).lookup "revert") := by
    rw [hlookup "revert"]
    cases revert with
    | false => exact .inl rfl
    | true => exact rfl
  refine ⟨present fields, rfl, ⟨(keys_present fields).nodup hnames, hlookup "type",
    hlookup "from", hrecipient, hoptional rfl, hoptional rfl, hrevert, hoptional rfl,
    fun member hmember hne => ?_⟩, ?_⟩
  · rcases List.mem_append.mp (mem_present hmember) with hown | hcalls
    · exact isPlain_ownFields _ _ hown _ rfl
    · exact absurd (congrArg Prod.fst (List.mem_singleton.mp hcalls)) hne
  · have hcalls : (present fields).lookup "calls" =
        if calls.isEmpty then none else some (.array (allToJson calls)) := hlookup "calls"
    cases calls with
    | nil => exact .inl ⟨rfl, hcalls⟩
    | cons frame frames =>
      exact .inr ⟨List.cons_ne_nil _ _, _, hcalls, tellsAll_allToJson (frame :: frames)⟩

theorem tellsAll_allToJson (frames : List CallFrame) : TellsAll frames (allToJson frames) := by
  cases frames with
  | nil => exact rfl
  | cons frame frames => exact ⟨_, _, rfl, tells_toJson frame, tellsAll_allToJson frames⟩

end

/-! ### Shapes -/

/-- How deep an object that tells a frame nests depends on the calls alone. -/
theorem TellsItself.membersDepth {frame : CallFrame} {members : List (String × Json)}
    (h : frame.TellsItself members) :
    Json.membersDepth members = ((members.lookup "calls").map Json.depth).getD 0 := by
  refine Nat.le_antisymm (Json.membersDepth_le_iff.mpr fun member hmember => ?_) ?_
  · by_cases hcalls : member.1 = "calls"
    · rw [← hcalls, Json.lookup_of_mem h.keys hmember]
      exact Nat.le_refl _
    · rw [(h.plain member hmember hcalls).2]
      exact Nat.zero_le _
  · cases hcalls : members.lookup "calls" with
    | none => exact Nat.zero_le _
    | some calls =>
      exact Json.membersDepth_le_iff.mp (Nat.le_refl _) _ (Json.mem_of_lookup hcalls)

/-- The members that tell a frame are exact if its calls are. -/
theorem TellsItself.membersExact {frame : CallFrame} {members : List (String × Json)}
    (h : frame.TellsItself members)
    (hcalls : ∀ calls, members.lookup "calls" = some calls → calls.IsExact) :
    Json.MembersExact members := by
  refine Json.membersExact_iff.mpr fun member hmember => ?_
  by_cases hname : member.1 = "calls"
  · exact hcalls member.2 (hname ▸ Json.lookup_of_mem h.keys hmember)
  · exact (h.plain member hmember hname).1

mutual

/-- There are no doubles in a value that tells a tree. -/
theorem isExact_of_tells (frame : CallFrame) {json : Json} (h : frame.Tells json) :
    json.IsExact := by
  obtain ⟨kind, sender, recipient, value, gasUsed, revert, error, calls⟩ := frame
  obtain ⟨members, rfl, hframe, ⟨-, hnone⟩ | ⟨-, items, hitems, htells⟩⟩ := h
  · refine hframe.membersExact fun value hvalue => ?_
    rw [hnone] at hvalue
    cases hvalue
  · refine hframe.membersExact fun value hvalue => ?_
    rw [hitems] at hvalue
    cases hvalue
    exact areExact_of_tellsAll calls htells

theorem areExact_of_tellsAll (frames : List CallFrame) {items : List Json}
    (h : TellsAll frames items) : Json.AreExact items := by
  cases frames with
  | nil =>
    obtain rfl : items = [] := h
    trivial
  | cons frame frames =>
    obtain ⟨item, rest, rfl, hitem, hrest⟩ := h
    exact ⟨isExact_of_tells frame hitem, areExact_of_tellsAll frames hrest⟩

end

mutual

/-- **A level of frames takes two levels of containers**, but for the last one, which takes one. -/
theorem depth_of_tells (frame : CallFrame) {json : Json} (h : frame.Tells json) :
    json.depth + 1 = 2 * frame.depth := by
  obtain ⟨kind, sender, recipient, value, gasUsed, revert, error, calls⟩ := frame
  obtain ⟨members, rfl, hframe, ⟨rfl, hnone⟩ | ⟨hne, items, hitems, htells⟩⟩ := h
  · rw [Json.depth, hframe.membersDepth, hnone]
    rfl
  · have hcalls := itemsDepth_of_tellsAll calls hne htells
    rw [Json.depth, hframe.membersDepth, hitems, Option.map_some, Option.getD_some, Json.depth,
      depth]
    omega

theorem itemsDepth_of_tellsAll (frames : List CallFrame) (hne : frames ≠ []) {items : List Json}
    (h : TellsAll frames items) : Json.itemsDepth items + 1 = 2 * deepest frames := by
  obtain _ | ⟨frame, _ | ⟨next, frames⟩⟩ := frames
  · exact absurd rfl hne
  · obtain ⟨item, rest, rfl, hitem, hrest⟩ := h
    obtain rfl : rest = [] := hrest
    have hframe := depth_of_tells frame hitem
    rw [Json.itemsDepth, Json.itemsDepth, deepest, deepest]
    omega
  · obtain ⟨item, rest, rfl, hitem, hrest⟩ := h
    have hframe := depth_of_tells frame hitem
    have hframes := itemsDepth_of_tellsAll (next :: frames) (List.cons_ne_nil _ _) hrest
    rw [Json.itemsDepth, deepest]
    omega

end

/-! ### Reading -/

theorem read_octets {n : Nat} (depth : Nat) (o : Octets n) :
    Reader.octets n depth (Json.octets o).document = .ok o := by
  simp only [Json.octets, Json.document, Reader.octets, Reader.parsed, Reader.text,
    Hex.decodeOctets_toHex]
  rfl

theorem read_uint256 (depth : Nat) (v : Uint256) :
    Reader.option Reader.uint256 depth (Json.uint256 v).document = .ok (some v) := by
  simp only [Json.uint256, Json.document, Reader.option, Reader.uint256, Reader.parsed, Reader.text,
    Numeral.readUint256_hex]
  rfl

theorem read_string (depth : Nat) (s : String) :
    Reader.option Reader.text depth (Json.string s).document = .ok (some s) := rfl

theorem read_recipient (depth : Nat) (a : Address) :
    recipientReader depth (Json.octets a).document = .ok (some a) := by
  have hread : Address.read a.toHex = .ok a := Hex.decodeOctets_toHex a
  -- The texts that name nobody spell no account.
  have hmarks : ∀ text : String, (Address.read text).toOption = none → a.toHex ≠ text := by
    rintro text hnone rfl
    rw [hread] at hnone
    cases hnone
  have htext : Reader.option Reader.text depth (Json.octets a).document = .ok (some a.toHex) := rfl
  rw [recipientReader, htext]
  split
  · rename_i heq
    cases heq
  · rename_i heq
    cases heq
  · rename_i heq
    exact absurd (Option.some.inj (Except.ok.inj heq)) (hmarks "" (by decide))
  · rename_i heq
    exact absurd (Option.some.inj (Except.ok.inj heq)) (hmarks "0x" (by decide))
  · rename_i heq
    cases heq
    rw [hread]
    rfl

theorem reads_recipient {members : List (String × Json)} (hkeys : (members.map Prod.fst).Nodup)
    (depth : Nat) {recipient : Option Address}
    (h : TellsRecipient recipient (members.lookup "to")) :
    (Fields.defaulted "to" none recipientReader).Reads depth members recipient := by
  cases recipient with
  | none =>
    obtain habsent | hnull | hempty | hbare := h
    · exact Fields.reads_absent habsent
    · exact Fields.reads_member hkeys hnull rfl
    · exact Fields.reads_member hkeys hempty rfl
    · exact Fields.reads_member hkeys hbare rfl
  | some a => exact Fields.reads_member hkeys h (read_recipient depth a)

theorem reads_revert {members : List (String × Json)} (hkeys : (members.map Prod.fst).Nodup)
    (depth : Nat) {revert : Bool} (h : TellsRevert revert (members.lookup "revert")) :
    (Fields.defaulted "revert" false Reader.bool).Reads depth members revert := by
  cases revert with
  | false =>
    obtain habsent | hfalse := h
    · exact Fields.reads_absent habsent
    · exact Fields.reads_member hkeys hfalse rfl
  | true => exact Fields.reads_member hkeys h rfl

/-- What a frame is itself is read from the members that tell it. -/
theorem reads_fieldsWith {frame : CallFrame} {members : List (String × Json)}
    (h : frame.TellsItself members) {inner : Reader CallFrame} {depth : Nat}
    (hcalls : (Fields.defaulted "calls" [] (Reader.list inner)).Reads depth members frame.calls) :
    (fieldsWith inner).Reads depth members frame := by
  have hkind : (Fields.required "type" Reader.text).Reads depth members frame.kind :=
    Fields.reads_member h.keys h.kind rfl
  have hsender : (Fields.required "from" (Reader.octets 20)).Reads depth members frame.sender :=
    Fields.reads_member h.keys h.sender (read_octets depth frame.sender)
  have hrecipient : (Fields.defaulted "to" none recipientReader).Reads depth members
      frame.recipient := reads_recipient h.keys depth h.recipient
  have hvalue : (Fields.optional "value" Reader.uint256).Reads depth members frame.value :=
    Fields.reads_optional h.keys (read_uint256 depth) h.value
  have hgas : (Fields.optional "gasUsed" Reader.uint256).Reads depth members frame.gasUsed :=
    Fields.reads_optional h.keys (read_uint256 depth) h.gasUsed
  have hrevert : (Fields.defaulted "revert" false Reader.bool).Reads depth members
      frame.revert := reads_revert h.keys depth h.revert
  have herror : (Fields.optional "error" Reader.text).Reads depth members frame.error :=
    Fields.reads_optional h.keys (read_string depth) h.error
  have hframe := Fields.reads_seq (Fields.reads_seq (Fields.reads_seq (Fields.reads_seq
    (Fields.reads_seq (Fields.reads_seq (Fields.reads_seq (Fields.reads_map CallFrame.mk hkind)
    hsender) hrecipient) hvalue) hgas) hrevert) herror) hcalls
  cases frame
  exact hframe

mutual

/-- **A tree of frames is read from any value that tells it.** -/
theorem readerTo_tells (frame : CallFrame) {json : Json} (h : frame.Tells json)
    {levels depth : Nat} (hlevels : frame.depth ≤ levels) (hdepth : json.depth ≤ depth) :
    readerTo levels depth json.document = .ok frame := by
  have hexact := isExact_of_tells frame h
  obtain ⟨kind, sender, recipient, value, gasUsed, revert, error, calls⟩ := frame
  rw [CallFrame.depth] at hlevels
  obtain ⟨levels, rfl⟩ : ∃ l, levels = l + 1 := ⟨levels - 1, by omega⟩
  obtain ⟨members, rfl, hframe, hcalls⟩ := h
  rw [Json.depth, hframe.membersDepth] at hdepth
  obtain ⟨depth, rfl⟩ : ∃ d, depth = d + 1 := ⟨depth - 1, by omega⟩
  rw [readerTo]
  -- The object has taken one level of containers; the array of the calls takes the next.
  refine Fields.record_of_reads hexact (reads_fieldsWith hframe ?_)
  obtain ⟨rfl, hnone⟩ | ⟨-, items, hitems, htells⟩ := hcalls
  · exact Fields.reads_absent hnone
  · rw [hitems, Option.map_some, Option.getD_some, Json.depth] at hdepth
    obtain ⟨depth, rfl⟩ : ∃ d, depth = d + 1 := ⟨depth - 1, by omega⟩
    exact Fields.reads_member hframe.keys hitems
      (items_readerTo_tells calls htells (by omega) (by omega))

theorem items_readerTo_tells (frames : List CallFrame) {items : List Json}
    (h : TellsAll frames items) {levels depth : Nat} (hlevels : deepest frames ≤ levels)
    (hdepth : Json.itemsDepth items ≤ depth) :
    Reader.items (readerTo levels) depth (Json.documents items) = .ok frames := by
  cases frames with
  | nil =>
    obtain rfl : items = [] := h
    rfl
  | cons frame frames =>
    obtain ⟨item, rest, rfl, hitem, hrest⟩ := h
    rw [deepest] at hlevels
    rw [Json.itemsDepth] at hdepth
    have hframe : readerTo levels depth item.document = .ok frame :=
      readerTo_tells frame hitem (by omega) (by omega)
    have hframes : Reader.items (readerTo levels) depth (Json.documents rest) = .ok frames :=
      items_readerTo_tells frames hrest (by omega) (by omega)
    rw [Json.documents, Reader.items, hframe, hframes]
    rfl

end

end CallFrame

end PosvGateway
