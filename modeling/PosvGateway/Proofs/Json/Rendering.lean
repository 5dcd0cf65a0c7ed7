import PosvGateway.Json.Printer
import PosvGateway.Proofs.Json.Spelling

/-!
# Rendered values are read back

What the printer writes for a value is one of its spellings, the one without blanks in which only
quotes, backslashes and control characters are escaped.

* `Json.spellsChar_renderChar`, `Json.quotes_renderString` : what is written for a text spells it;
* `Json.spelledBy_render` : **what is written for a value spells it**;
* `Reader.run_render` : a rendered value is read as its document is.
-/

namespace PosvGateway

namespace Json

/-! ### Texts -/

theorem spellsUnit_control {n : Nat} (h : n < 0x20) :
    SpellsUnit n ['0', '0', Nat.digitChar (n / 0x10), Nat.digitChar (n % 0x10)] := by
  have hdigits : ∀ n < 0x20, n / 0x1000 = 0 ∧ n / 0x100 % 0x10 = 0 ∧
      n / 0x10 % 0x10 = n / 0x10 := by decide
  obtain ⟨hfirst, hsecond, hthird⟩ := hdigits n h
  refine ⟨by omega, ?_⟩
  rw [hfirst, hsecond, hthird]
  exact .cons (.inl rfl) (.cons (.inl rfl) (.cons (.inl rfl) (.cons (.inl rfl) .nil)))

/-- A character is written as it may be spelled. -/
theorem spellsChar_renderChar (c : Char) : SpellsChar c (renderChar c).toList := by
  unfold renderChar
  split
  · exact .escape (by decide : ('"', '"') ∈ escapes)
  · exact .escape (by decide : ('\\', '\\') ∈ escapes)
  · exact .escape (by decide : ('b', '\x08') ∈ escapes)
  · exact .escape (by decide : ('f', '\x0c') ∈ escapes)
  · exact .escape (by decide : ('n', '\n') ∈ escapes)
  · exact .escape (by decide : ('r', '\r') ∈ escapes)
  · exact .escape (by decide : ('t', '\t') ∈ escapes)
  · rename_i hquote hslash _ _ _ _ _
    split
    · rename_i hsmall
      have hunit := spellsUnit_control (Nat.lt_trans hsmall (by decide))
      rw [Nat.div_eq_of_lt hsmall, Nat.mod_eq_of_lt hsmall] at hunit
      have htext : ("\\u000" ++ String.ofList (Nat.toDigits 16 c.toNat)).toList =
          '\\' :: 'u' :: ['0', '0', Nat.digitChar 0, Nat.digitChar c.toNat] := by
        rw [Nat.toDigits_of_lt_base hsmall, String.toList_append, String.toList_ofList,
          String.toList_ofList]
        rfl
      exact htext ▸ .unit hunit
    split
    · rename_i hlarge hcontrol
      have hone : c.toNat / 16 = 1 := by omega
      have hunit := spellsUnit_control hcontrol
      rw [hone] at hunit
      have htext : ("\\u00" ++ String.ofList (Nat.toDigits 16 c.toNat)).toList =
          '\\' :: 'u' :: ['0', '0', Nat.digitChar 1, Nat.digitChar (c.toNat % 16)] := by
        rw [Numeral.toDigits_sixteen (Nat.le_of_not_lt hlarge), hone,
          Nat.toDigits_of_lt_base (by decide), String.toList_append, String.toList_ofList,
          String.toList_ofList]
        rfl
      exact htext ▸ .unit hunit
    · rename_i hprintable
      rw [String.toList_singleton]
      exact .itself hquote hslash (Nat.le_of_not_lt hprintable)

/-- A text is written as it may be spelled. -/
theorem quotes_renderString (s : String) : Quotes s (renderString s).toList := by
  have hfold : ∀ (chars : List Char) (text : String), ∃ spelled,
      (chars.foldl (fun text c => text ++ renderChar c) text).toList = text.toList ++ spelled ∧
        SpellsString chars spelled := by
    intro chars
    induction chars with
    | nil => exact fun text => ⟨[], (List.append_nil _).symm, rfl⟩
    | cons c chars ih =>
      intro text
      obtain ⟨spelled, heq, hspelled⟩ := ih (text ++ renderChar c)
      refine ⟨(renderChar c).toList ++ spelled, ?_, _, _, rfl, spellsChar_renderChar c, hspelled⟩
      rw [List.foldl_cons, heq, String.toList_append, List.append_assoc]
  obtain ⟨spelled, heq, hspelled⟩ := hfold s.toList ""
  refine ⟨spelled, ?_, hspelled⟩
  rw [renderString, String.toList_append, String.toList_append, String.foldl_eq_foldl_toList, heq]
  rfl

/-! ### Values -/

/-- What is spelled without blanks around it is spelled with none. -/
theorem Padded.of_spells {spelling : List Char → Prop} {text : List Char} (h : spelling text) :
    Padded spelling text :=
  ⟨[], text, [], (List.append_nil text).symm, nofun, h, nofun⟩

theorem spellsMember_render {key : String} {value : Json}
    (h : value.Spells value.render.toList) :
    SpellsMember key value.Spells (renderString key ++ ":" ++ value.render).toList := by
  refine ⟨(renderString key).toList, value.render.toList, ?_, .of_spells (quotes_renderString key),
    .of_spells h⟩
  rw [String.toList_append, String.toList_append, List.append_assoc]
  rfl

mutual

/-- What is written for a value without doubles spells it. -/
theorem spells_render (value : Json) (h : value.IsExact) : value.Spells value.render.toList := by
  cases value with
  | null => rw [Spells, render]; rfl
  | bool b => cases b <;> rw [Spells, render] <;> rfl
  | number number =>
    cases number with
    | integer n => rw [Spells, render, JsonNumber.render]
    | real x => exact h.elim
  | string s =>
    rw [Spells, render]
    exact quotes_renderString s
  | array items =>
    rw [Spells, render, String.toList_append, String.toList_append, List.append_assoc]
    exact ⟨_, rfl, spellsItems_render items h⟩
  | object members =>
    rw [Spells, render, String.toList_append, String.toList_append, List.append_assoc]
    exact ⟨_, rfl, spellsMembers_render members h⟩

theorem spellsItems_render (items : List Json) (h : AreExact items) :
    SpellsItems items (renderItems items).toList := by
  obtain _ | ⟨item, _ | ⟨next, items⟩⟩ := items
  · rw [SpellsItems]
    exact nofun
  · rw [SpellsItems, renderItems]
    exact .of_spells (spells_render item h.1)
  · rw [SpellsItems, renderItems, String.toList_append, String.toList_append, List.append_assoc]
    · exact ⟨_, _, rfl, .of_spells (spells_render item h.1), spellsItems_render (next :: items) h.2⟩
    · exact nofun
    · exact nofun

theorem spellsMembers_render (members : List (String × Json)) (h : MembersExact members) :
    SpellsMembers members (renderMembers members).toList := by
  obtain _ | ⟨⟨key, value⟩, _ | ⟨next, members⟩⟩ := members
  · rw [SpellsMembers]
    exact nofun
  · rw [SpellsMembers, renderMembers]
    exact spellsMember_render (spells_render value h.1)
  · rw [SpellsMembers, renderMembers, String.toList_append, String.toList_append, List.append_assoc]
    · exact ⟨_, _, rfl, spellsMember_render (spells_render value h.1),
        spellsMembers_render (next :: members) h.2⟩
    · exact nofun
    · exact nofun

end

/-- **What is written for a value spells it.** -/
theorem spelledBy_render {value : Json} (h : value.IsExact) : value.SpelledBy value.render :=
  .of_spells (spells_render value h)

end Json

/-- A rendered value is read as its document is. -/
theorem Reader.run_render {α : Type} (reader : Reader α) {value : Json} (h : value.IsExact) :
    reader.run value.render = reader maxDepth value.document :=
  run_of_spelledBy reader (Json.spelledBy_render h)

end PosvGateway
