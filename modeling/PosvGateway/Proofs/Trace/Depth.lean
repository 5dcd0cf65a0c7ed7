import PosvGateway.Proofs.Json.Rendering
import PosvGateway.Proofs.Trace.Executed
import PosvGateway.Proofs.Trace.Telling

/-!
# How deep a trace may nest

Containers nest 127 deep in a text that is read, and a level of frames takes two of them. So a
transaction whose frames nest 64 deep is shown, and one whose frames nest deeper is not, although
the machine lets calls nest 1024 deep.

* `CallFrame.run_reader_tells`, `CallFrame.exists_json_iff_of_tells` : when a text that spells a
  trace is read as frames, and when it is read as JSON;
* `Executed.toRosetta_of_tells` : **a transaction is shown as its frames tell where they nest 64
  deep at most, and its trace cannot be read where they nest deeper**.
-/

namespace PosvGateway

/-! ### Errors -/

theorem Destroyed.remains_ne_decode (destroyed : Destroyed) (detail : String) :
    destroyed.remains ≠ .error (.decode detail) := by
  induction destroyed with
  | nil => exact nofun
  | cons entry destroyed ih =>
    obtain ⟨account, balance⟩ := entry
    rw [remains]
    split
    · exact ih
    split
    · exact nofun
    · exact mt Except.map_eq_error.mp ih

/-- No text is read where the operations of frames are derived. -/
theorem operationsOfFrames_ne_decode (start : Int) (calls : List FlatFrame) (detail : String) :
    operationsOfFrames start calls ≠ .error (.decode detail) := by
  rw [operationsOfFrames]
  intro h
  split at h
  · cases h
  split at h
  · rename_i hremains
    cases h
    exact Destroyed.remains_ne_decode _ _ hremains
  · cases h

/-! ### Texts -/

/-- A text that spells an object of plain members is read as JSON. -/
theorem Json.exists_run_json_of_isPlain {members : List (String × Json)} {text : String}
    (h : ∀ member ∈ members, member.2.IsPlain) (htext : (Json.object members).SpelledBy text) :
    ∃ value, Reader.run Reader.json text = .ok value := by
  have hexact : (Json.object members).IsExact :=
    Json.membersExact_iff.mpr fun member hmember => (h member hmember).1
  have hdepth : Json.membersDepth members ≤ 0 :=
    Json.membersDepth_le_iff.mpr fun member hmember => (h member hmember).2.le
  rw [Reader.run_of_spelledBy _ htext]
  refine (Reader.exists_json_iff _ hexact _).mpr ?_
  rw [Json.depth, maxDepth]
  omega

namespace CallFrame

variable {frame : CallFrame} {json : Json} {text : String}

/-- The text of a trace is read as the frames it tells, if they nest 64 deep at most. -/
theorem run_reader_tells (h : frame.Tells json) (htext : json.SpelledBy text)
    (hdepth : frame.depth ≤ 64) : reader.run text = .ok frame := by
  have hjson := depth_of_tells frame h
  rw [Reader.run_of_spelledBy _ htext]
  exact readerTo_tells frame h (by rw [maxDepth]; omega) (by rw [maxDepth]; omega)

/-- The text of a trace is read as JSON if the frames nest 64 deep at most, and only then. -/
theorem exists_json_iff_of_tells (h : frame.Tells json) (htext : json.SpelledBy text) :
    (∃ trace, Reader.run Reader.json text = .ok trace) ↔ frame.depth ≤ 64 := by
  have hjson := depth_of_tells frame h
  rw [Reader.run_of_spelledBy _ htext, Reader.exists_json_iff _ (isExact_of_tells frame h),
    maxDepth]
  omega

end CallFrame

/-! ### Transactions -/

namespace Executed

variable {tx : Executed}

theorem exists_decode_of_read {α : Type} {what text : String} {reader : Reader α}
    {e : DerivationError} (h : tx.read what reader text = .error e) :
    ∃ detail, e = .decode detail := by
  unfold read at h
  split at h
  · cases h
  · cases h
    exact ⟨_, rfl⟩

/-- The operations of a transaction whose texts are read. -/
theorem map_operations_toRosetta {root : CallFrame} {receipt trace : Json}
    (hroot : CallFrame.reader.run tx.trace = .ok root)
    (hreceipt : Reader.run Reader.json tx.receipt = .ok receipt)
    (htrace : Reader.run Reader.json tx.trace = .ok trace) :
    tx.toRosetta.map (·.operations) =
      (operationsOfFrames 2 root.flatten).map (tx.feePair ++ ·) := by
  have hfee : tx.feePair.length = 2 := Leg.length_number 0 tx.feeLegs
  rw [toRosetta, read_eq_ok.mpr hroot, read_eq_ok.mpr hreceipt, read_eq_ok.mpr htrace, hfee]
  change Except.map _ (operationsOfFrames 2 root.flatten >>= _) = _
  cases operationsOfFrames 2 root.flatten <;> rfl

/-- A transaction whose trace cannot be read as JSON is not shown. -/
theorem toRosetta_eq_decode (h : ¬ ∃ trace, Reader.run Reader.json tx.trace = .ok trace) :
    ∃ detail, tx.toRosetta = .error (.decode detail) := by
  rw [toRosetta]
  -- Either text may fail before the trace is read as JSON, with an error of the same kind.
  cases hroot : tx.read "trace" CallFrame.reader tx.trace with
  | error e =>
    obtain ⟨detail, rfl⟩ := exists_decode_of_read hroot
    exact ⟨detail, rfl⟩
  | ok root =>
    cases hreceipt : tx.read "receipt" Reader.json tx.receipt with
    | error e =>
      obtain ⟨detail, rfl⟩ := exists_decode_of_read hreceipt
      exact ⟨detail, rfl⟩
    | ok receipt =>
      cases htrace : tx.read "trace" Reader.json tx.trace with
      | error e =>
        obtain ⟨detail, rfl⟩ := exists_decode_of_read htrace
        exact ⟨detail, rfl⟩
      | ok trace => exact absurd ⟨trace, read_eq_ok.mp htrace⟩ h

/-- The receipt is a text that is read as JSON, as that of an object of plain members is. -/
def HasReceipt (tx : Executed) : Prop :=
  ∃ receipt, Reader.run Reader.json tx.receipt = .ok receipt

/-- **A transaction is shown as its frames tell where they nest 64 deep at most**: it has the
operations of its fee and of the frames, or the error of their derivation, and no text is at fault.
**Where they nest deeper, its trace cannot be read.** Every tree of frames is told by some value
(`CallFrame.tells_toJson`), and every value that tells one is spelled by some text
(`Json.spelledBy_render`). -/
theorem toRosetta_of_tells {frame : CallFrame} {json : Json} (h : frame.Tells json)
    (htext : json.SpelledBy tx.trace) :
    (∀ members, (∀ member ∈ members, member.2.IsPlain) →
        (Json.object members).SpelledBy tx.receipt → tx.HasReceipt) ∧
      (tx.HasReceipt → frame.depth ≤ 64 →
        tx.toRosetta.map (·.operations) =
            (operationsOfFrames 2 frame.flatten).map (tx.feePair ++ ·) ∧
          ∀ detail, tx.toRosetta ≠ .error (.decode detail)) ∧
      (64 < frame.depth → ∃ detail, tx.toRosetta = .error (.decode detail)) := by
  refine ⟨fun members hplain hreceipt => ?_, fun hreceipt hdepth => ?_, fun hdepth => ?_⟩
  · exact Json.exists_run_json_of_isPlain hplain hreceipt
  · obtain ⟨receipt, hreceipt⟩ := hreceipt
    have hroot := CallFrame.run_reader_tells h htext hdepth
    obtain ⟨trace, htrace⟩ := (CallFrame.exists_json_iff_of_tells h htext).mpr hdepth
    have hshown := map_operations_toRosetta hroot hreceipt htrace
    refine ⟨hshown, fun detail hdecode => ?_⟩
    have herror := hshown.symm.trans (Except.map_eq_error.mpr hdecode)
    exact operationsOfFrames_ne_decode _ _ _ (Except.map_eq_error.mp herror)
  · refine toRosetta_eq_decode ?_
    rw [CallFrame.exists_json_iff_of_tells h htext]
    omega

end Executed

/-! ### Spellings -/

namespace Json

open Chars (quoted)

/-- A member with a blank behind its colon. -/
def spaced (key : String) (text : List Char) : List Char := quoted key ++ ':' :: ' ' :: text

theorem quotes_quoted {s : String} (h : AreUnescaped s.toList) : Quotes s (quoted s) :=
  ⟨_, rfl, spellsString_self h⟩

theorem spellsMember_spaced {key : String} {text : List Char} {value : Json}
    (hkey : AreUnescaped key.toList) (h : value.Spells text) :
    SpellsMember key value.Spells (spaced key text) :=
  ⟨_, _, rfl, .of_spells (quotes_quoted hkey),
    ⟨[' '], text, [], by rw [List.append_nil]; rfl, by decide, h, by decide⟩⟩

end Json

namespace CallFrame

open Chars (quoted)
open Json (SpellsChar SpellsString SpellsUnit spaced quotes_quoted spellsMember_spaced)

/-- A creation that failed. -/
def failedCreation : CallFrame :=
  ⟨"CREATE", .ofNat 20 1, none, none, none, false, some "<none>", []⟩

/-- The same told by an object that names nobody by an empty text, and no value by null. -/
def failedCreationJson : Json :=
  .object [("type", .string "CREATE"), ("from", .octets (.ofNat 20 1)), ("to", .string ""),
    ("value", .null), ("revert", .bool false), ("error", .string "<none>")]

/-- And as a text, with a blank behind every colon and a line break at the end, and the angle
brackets by their numbers. -/
def failedCreationText : String :=
  "\x7b\"type\": \"CREATE\",\"from\": \"0x0000000000000000000000000000000000000001\"," ++
    "\"to\": \"\",\"value\": null,\"revert\": false,\"error\": \"\\u003cnone\\u003e\"\x7d\n"

theorem tells_failedCreation : failedCreation.Tells failedCreationJson := by
  refine ⟨_, rfl, ⟨by decide, rfl, rfl, .inr (.inr (.inl rfl)), .inr rfl, .inl rfl, .inr rfl, rfl,
    ?_⟩, .inl ⟨rfl, rfl⟩⟩
  simp only [List.forall_mem_cons, List.not_mem_nil, false_imp_iff, implies_true, and_true]
  exact ⟨fun _ => ⟨trivial, rfl⟩, fun _ => ⟨trivial, rfl⟩, fun _ => ⟨trivial, rfl⟩,
    fun _ => ⟨trivial, rfl⟩, fun _ => ⟨trivial, rfl⟩, fun _ => ⟨trivial, rfl⟩⟩

theorem spellsString_none : SpellsString "<none>".toList "\\u003cnone\\u003e".toList := by
  have hitself : ∀ {c : Char}, c ≠ '"' ∧ c ≠ '\\' ∧ 0x20 ≤ c.toNat → SpellsChar c [c] :=
    fun h => .itself h.1 h.2.1 h.2.2
  have hopen : SpellsUnit '<'.toNat ['0', '0', '3', 'c'] :=
    ⟨by decide, .cons (.inl rfl) (.cons (.inl rfl) (.cons (.inl rfl) (.cons (.inl rfl) .nil)))⟩
  have hclose : SpellsUnit '>'.toNat ['0', '0', '3', 'e'] :=
    ⟨by decide, .cons (.inl rfl) (.cons (.inl rfl) (.cons (.inl rfl) (.cons (.inl rfl) .nil)))⟩
  exact ⟨_, _, rfl, .unit hopen, ['n'], _, rfl, hitself (by decide), ['o'], _, rfl,
    hitself (by decide), ['n'], _, rfl, hitself (by decide), ['e'], _, rfl, hitself (by decide),
    _, [], rfl, .unit hclose, rfl⟩

theorem spelledBy_failedCreation : failedCreationJson.SpelledBy failedCreationText := by
  have hkind : (Json.string "CREATE").Spells (quoted "CREATE") := by
    rw [Json.Spells]
    exact quotes_quoted (by decide)
  have hsender : (Json.octets (.ofNat 20 1)).Spells
      (quoted "0x0000000000000000000000000000000000000001") := by
    have hhex : (Octets.ofNat 20 1).toHex = "0x0000000000000000000000000000000000000001" := by
      decide +kernel
    rw [Json.octets, Json.Spells, hhex]
    exact quotes_quoted (by decide)
  have hrecipient : (Json.string "").Spells (quoted "") := by
    rw [Json.Spells]
    exact quotes_quoted (by decide)
  have herror : (Json.string "<none>").Spells (quoted "\\u003cnone\\u003e") := by
    rw [Json.Spells]
    exact ⟨_, rfl, spellsString_none⟩
  refine ⟨[], '\x7b' :: (spaced "type" (quoted "CREATE") ++ ',' ::
    (spaced "from" (quoted "0x0000000000000000000000000000000000000001") ++ ',' ::
      (spaced "to" (quoted "") ++ ',' :: (spaced "value" "null".toList ++ ',' ::
        (spaced "revert" "false".toList ++ ',' ::
          spaced "error" (quoted "\\u003cnone\\u003e"))))) ++ ['\x7d']), ['\n'], by decide +kernel,
    by decide, ?_, by decide⟩
  rw [failedCreationJson, Json.Spells]
  refine ⟨_, rfl, ?_⟩
  simp only [Json.SpellsMembers]
  exact ⟨_, _, rfl, spellsMember_spaced (by decide) hkind, _, _, rfl,
    spellsMember_spaced (by decide) hsender, _, _, rfl,
    spellsMember_spaced (by decide) hrecipient, _, _, rfl,
    spellsMember_spaced (by decide) (by rw [Json.Spells]; rfl), _, _, rfl,
    spellsMember_spaced (by decide) (by rw [Json.Spells]; rfl),
    spellsMember_spaced (by decide) herror⟩

end CallFrame

/-! ### Chains -/

namespace CallFrame

/-- An account calls itself, and that call calls the account again, `n` calls below the first one;
nothing moves. -/
def chain (a : Address) : Nat → CallFrame
  | 0 => ⟨"CALL", a, some a, some 0, none, false, none, []⟩
  | n + 1 => ⟨"CALL", a, some a, some 0, none, false, none, [chain a n]⟩

theorem depth_chain (a : Address) (n : Nat) : (chain a n).depth = n + 1 := by
  induction n with
  | zero => rw [chain, depth, deepest]
  | succ n ih => rw [chain, depth, deepest, deepest, ih, Nat.max_zero]

/-- A call that moves nothing. -/
def idle (a : Address) : FlatFrame := ⟨"CALL", a, some a, 0, 0, false, none⟩

theorem flatten_chain (a : Address) (n : Nat) :
    (chain a n).flatten = List.replicate (n + 1) (idle a) := by
  have hflat (calls : List CallFrame) :
      flat ⟨"CALL", a, some a, some 0, none, false, none, calls⟩ none = idle a := by
    have hkind : "CALL".map Char.toUpper = "CALL" := by decide +kernel
    rw [flat, hkind]
    rfl
  induction n with
  | zero => rw [flatten, chain, flattenUnder, hflat, flattenAll, List.replicate_one]
  | succ n ih =>
    rw [flatten, chain, flattenUnder, hflat, flattenAll, flattenAll, List.append_nil]
    exact congrArg (idle a :: ·) ih

theorem foldl_apply_replicate_idle (a : Address) (n : Nat) :
    (List.replicate n (idle a)).foldl Destroyed.apply [] = [] := by
  induction n with
  | zero => rfl
  | succ n ih => exact ih

/-- Calls that move nothing have no operations. -/
theorem operationsOfFrames_replicate_idle (start : Int) (a : Address) (n : Nat) :
    operationsOfFrames start (List.replicate n (idle a)) = .ok [] := by
  have hfits : (0 : Uint256).toNat < Int256.bound := by decide
  have hsize : oversized? (List.replicate n (idle a)) = none := by
    refine oversized?_eq_none_iff.mpr fun call hcall => ?_
    rw [List.eq_of_mem_replicate hcall]
    exact hfits
  have hlegs : (List.replicate n (idle a)).flatMap FlatFrame.legs = [] := by
    refine List.flatMap_eq_nil_iff.mpr fun call hcall => ?_
    rw [List.eq_of_mem_replicate hcall]
    rfl
  rw [operationsOfFrames, hsize, foldl_apply_replicate_idle, hlegs]
  rfl

end CallFrame

namespace Executed

/-- A transaction that starts a chain of calls which move nothing. -/
def ofChain (n : Nat) : Executed where
  transaction :=
    { hash := .ofNat 32 1, sender := .ofNat 20 1, recipient := some (.ofNat 20 1), value := 0,
      gas := 21000, gasPrice := 1, input := [], nonce := 0 }
  sender := .ofNat 20 1
  miner := .ofNat 20 2
  fee := 21000
  receipt := (Json.object [("status", .string "0x1")]).render
  trace := (CallFrame.chain (.ofNat 20 1) n).toJson.render

theorem spelledBy_chain (n : Nat) :
    (CallFrame.chain (.ofNat 20 1) n).toJson.SpelledBy (ofChain n).trace :=
  Json.spelledBy_render (CallFrame.isExact_of_tells _ (CallFrame.tells_toJson _))

/-- A transaction whose trace is spelled with blanks and escapes. -/
def ofFailedCreation : Executed := { ofChain 0 with trace := CallFrame.failedCreationText }

/-- A chain of 64 calls is shown: the transaction has the operations of its fee. So is a creation
that failed, whose trace is spelled with blanks and escapes: it has an operation that moves
nothing. -/
theorem toRosetta_of_tells_chain :
    (CallFrame.chain (.ofNat 20 1) 63).depth = 64 ∧
      (ofChain 63).toRosetta.map (·.operations) = .ok (ofChain 63).feePair ∧
      ofFailedCreation.toRosetta.map (·.operations) = .ok (ofFailedCreation.feePair ++
        [{ index := 2, kind := "CREATE", status := some "FAIL",
           account := some (.ofAddress (.ofNat 20 1)),
           metadata := some [("error", .string "<none>")] }]) := by
  have hdepth := CallFrame.depth_chain (.ofNat 20 1) 63
  have hplain : ∀ member ∈ [("status", Json.string "0x1")], member.2.IsPlain :=
    List.forall_mem_singleton.mpr (CallFrame.isPlain_string _)
  have hstatus : ∀ n, (Json.object [("status", .string "0x1")]).SpelledBy (ofChain n).receipt :=
    fun _ => Json.spelledBy_render ⟨trivial, trivial⟩
  obtain ⟨hreceipt, hshown, -⟩ := @toRosetta_of_tells (ofChain 63) _ _
    (CallFrame.tells_toJson (CallFrame.chain (.ofNat 20 1) 63)) (spelledBy_chain 63)
  obtain ⟨hreceipt', hshown', -⟩ := @toRosetta_of_tells ofFailedCreation _ _
    CallFrame.tells_failedCreation CallFrame.spelledBy_failedCreation
  have hkind : "CREATE".map Char.toUpper = "CREATE" := by decide +kernel
  refine ⟨hdepth, (hshown (hreceipt _ hplain (hstatus 63)) hdepth.le).1.trans ?_,
    (hshown' (hreceipt' _ hplain (hstatus 0)) (by decide)).1.trans ?_⟩
  · rw [CallFrame.flatten_chain, CallFrame.operationsOfFrames_replicate_idle]
    exact congrArg Except.ok (List.append_nil _)
  · rw [CallFrame.flatten, CallFrame.failedCreation, CallFrame.flattenUnder, CallFrame.flat, hkind]
    rfl

/-- The trace of a chain of 65 calls cannot be read, although the calls have operations, none: the
transaction should be shown with the operations of its fee. -/
theorem toRosetta_chain_fails :
    (CallFrame.chain (.ofNat 20 1) 64).depth = 65 ∧
      (CallFrame.chain (.ofNat 20 1) 64).Tells (CallFrame.chain (.ofNat 20 1) 64).toJson ∧
      (ofChain 64).trace = (CallFrame.chain (.ofNat 20 1) 64).toJson.render ∧
      (ofChain 64).receipt = (Json.object [("status", .string "0x1")]).render ∧
      operationsOfFrames 2 (CallFrame.chain (.ofNat 20 1) 64).flatten = .ok [] ∧
      ∃ detail, (ofChain 64).toRosetta = .error (.decode detail) := by
  have hdepth := CallFrame.depth_chain (.ofNat 20 1) 64
  have htells := CallFrame.tells_toJson (CallFrame.chain (.ofNat 20 1) 64)
  refine ⟨hdepth, htells, rfl, rfl, ?_, toRosetta_eq_decode ?_⟩
  · rw [CallFrame.flatten_chain, CallFrame.operationsOfFrames_replicate_idle]
  · exact mt (CallFrame.exists_json_iff_of_tells htells (spelledBy_chain 64)).mp
      (by rw [hdepth]; decide)

end Executed

end PosvGateway
