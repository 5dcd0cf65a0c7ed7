import PosvGateway.Proofs.Outcome
import PosvGateway.Proofs.OrderedMap
import PosvGateway.Construction.Options

/-!
# Options and metadata are read back

Both pass through the client's hands as JSON objects.

* `MemberReader.read_seq`, `MemberReader.read_text_eq_ok`, … : what the parts of a reader give, and
  what the members of an object are read as;
* `Options.ofMembers_toMembers`, `Metadata.ofMembers_toMembers` : **what was written is read back**.
-/

namespace PosvGateway

namespace MemberReader

variable {α β : Type} {members : Json.Members}

theorem run_eq_ok {reader : MemberReader α} {a : α} :
    reader.run members = .ok a ↔ reader.read members = .ok a := by
  rw [run]
  cases reader.read members <;> simp

/-! ### Objects -/

theorem read_seq {f : MemberReader (α → β)} {reader : MemberReader α} {g : α → β} {a : α}
    (hf : f.read members = .ok g) (ha : reader.read members = .ok a) :
    (f <*> reader).read members = .ok (g a) := by
  simp only [Seq.seq, hf, ha]

theorem read_map (f : α → β) {reader : MemberReader α} {a : α}
    (ha : reader.read members = .ok a) : (f <$> reader).read members = .ok (f a) := by
  have hmap : f <$> reader = pure f <*> reader := rfl
  have hf : (pure f : MemberReader (α → β)).read members = .ok f := rfl
  rw [hmap, read_seq hf ha]

/-! ### Members -/

theorem read_member_eq_ok {name : String} {absent : Option α} {interpret : Json → Except String α}
    {a : α} :
    (member name absent interpret).read members = .ok a ↔
      (∃ value, members.find? name = some value ∧ interpret value = .ok a) ∨
        (members.find? name = none ∧ absent = some a) := by
  cases hfind : members.find? name with
  | none => cases absent <;> simp [member, hfind]
  | some value => cases hvalue : interpret value <;> simp [member, hfind, hvalue]

theorem read_text_eq_ok {name s : String} :
    (text name).read members = .ok s ↔ members.find? name = some (.string s) := by
  rw [text, read_member_eq_ok]
  constructor
  · rintro (⟨value, hfind, hvalue⟩ | ⟨-, hnone⟩)
    · cases value <;> cases hvalue
      exact hfind
    · cases hnone
  · exact fun hfind => .inl ⟨_, hfind, rfl⟩

/-- A text that may be missing is read as it was written: as nothing where it is missing. -/
theorem read_optionalText {name : String} {s : Option String}
    (h : members.find? name = s.map .string) : (optionalText name).read members = .ok s := by
  rw [optionalText, read_member_eq_ok]
  cases s with
  | none => exact .inr ⟨h, rfl⟩
  | some s => exact .inl ⟨_, h, rfl⟩

theorem read_uint32 {name : String} {n : Nat} (h : members.find? name = some (.nat n))
    (hn : n < UInt32.size) : (uint32 name).read members = .ok n := by
  have hrange : (0 : Int) ≤ n ∧ (n : Int) < UInt32.size :=
    ⟨Int.natCast_nonneg n, Int.ofNat_lt.mpr hn⟩
  have hvalue : asUint32 (.nat n) = .ok n := by
    rw [Json.nat, Json.int, asUint32, if_pos hrange, Int.toNat_natCast]
  rw [uint32, read_member_eq_ok]
  exact .inl ⟨_, h, hvalue⟩

end MemberReader

/-! ### Reading back -/

/-- **Options are read back from their object.** -/
theorem Options.ofMembers_toMembers {o : Options} (h : o.decimals < UInt32.size) :
    Options.ofMembers o.toMembers = .ok o := by
  have hfind : o.toMembers.find? "sender" = some (.string o.sender) ∧
      o.toMembers.find? "recipient" = some (.string o.recipient) ∧
      o.toMembers.find? "amount" = some (.string o.amount) ∧
      o.toMembers.find? "symbol" = some (.string o.symbol) ∧
      o.toMembers.find? "decimals" = some (.nat o.decimals) ∧
      o.toMembers.find? "gas_price" = o.gasPrice.map .string ∧
      o.toMembers.find? "gas_limit" = o.gasLimit.map .string := by
    simp only [toMembers, OrderedMap.find?_ofList]
    cases o.gasPrice <;> cases o.gasLimit <;> simp
  obtain ⟨hsender, hrecipient, hamount, hsymbol, hdecimals, hprice, hlimit⟩ := hfind
  have hread := MemberReader.read_map Options.mk (MemberReader.read_text_eq_ok.mpr hsender)
  have hread := MemberReader.read_seq hread (MemberReader.read_text_eq_ok.mpr hrecipient)
  have hread := MemberReader.read_seq hread (MemberReader.read_text_eq_ok.mpr hamount)
  have hread := MemberReader.read_seq hread (MemberReader.read_text_eq_ok.mpr hsymbol)
  have hread := MemberReader.read_seq hread (MemberReader.read_uint32 hdecimals h)
  have hread := MemberReader.read_seq hread (MemberReader.read_optionalText hprice)
  have hread := MemberReader.read_seq hread (MemberReader.read_optionalText hlimit)
  rw [ofMembers, MemberReader.run_eq_ok]
  exact hread

/-- **Metadata are read back from their object.** -/
theorem Metadata.ofMembers_toMembers (m : Metadata) : Metadata.ofMembers m.toMembers = .ok m := by
  have hfind : m.toMembers.find? "nonce" = some (.string m.nonce) ∧
      m.toMembers.find? "gas_price" = some (.string m.gasPrice) ∧
      m.toMembers.find? "gas_limit" = some (.string m.gasLimit) := by
    simp [toMembers, OrderedMap.find?_ofList]
  obtain ⟨hnonce, hprice, hlimit⟩ := hfind
  have hread := MemberReader.read_map Metadata.mk (MemberReader.read_text_eq_ok.mpr hnonce)
  have hread := MemberReader.read_seq hread (MemberReader.read_text_eq_ok.mpr hprice)
  have hread := MemberReader.read_seq hread (MemberReader.read_text_eq_ok.mpr hlimit)
  rw [ofMembers, MemberReader.run_eq_ok]
  exact hread

end PosvGateway
