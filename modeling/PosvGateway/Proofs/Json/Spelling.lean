import PosvGateway.Proofs.Json.Literal
import PosvGateway.Proofs.Outcome

/-!
# Spelled values are taken apart

A value may be spelled in many ways: blanks may stand around each of its tokens, and its texts may
be escaped. Every spelling of it is taken apart into one document, and that document is read as JSON
where its containers do not nest too deep.

* `Json.document`, `Json.depth` : the document of a value, and how deep its containers nest;
* `Json.IsExact` : a value without doubles;
* `Json.Spells`, `Json.SpelledBy` : the grammar of JSON, told for each value;
* `Document.parse_of_spelledBy` : **a text is taken apart into the document of what it spells**;
* `Reader.exists_json_iff` : **a document is read where its containers do not nest too deep, and
  only there**.
-/

namespace PosvGateway

namespace Json

/-! ### Shapes -/

mutual

/-- The document of a value; one of a double is not given. -/
def document : Json → Document
  | .null => .null
  | .bool b => .bool b
  | .number (.integer n) => .number (.ofInt n)
  | .number (.real _) => .broken
  | .string s => .string (.text s)
  | .array items => .array (documents items)
  | .object members => .object (memberDocuments members)

/-- The documents of the items of an array. -/
def documents : List Json → List Document
  | [] => []
  | item :: items => document item :: documents items

/-- The documents of the members of an object. -/
def memberDocuments : List (String × Json) → List (Option String × Document)
  | [] => []
  | (key, value) :: members => (some key, document value) :: memberDocuments members

end

mutual

/-- How deep the containers of a value nest. -/
def depth : Json → Nat
  | .array items => itemsDepth items + 1
  | .object members => membersDepth members + 1
  | _ => 0

/-- How deep the containers of the items of an array nest. -/
def itemsDepth : List Json → Nat
  | [] => 0
  | item :: items => max (depth item) (itemsDepth items)

/-- How deep the containers of the members of an object nest. -/
def membersDepth : List (String × Json) → Nat
  | [] => 0
  | (_, value) :: members => max (depth value) (membersDepth members)

end

mutual

/-- The numbers of a value are integers of 64 bits. -/
def IsExact : Json → Prop
  | .number (.integer n) => -0x8000000000000000 ≤ n ∧ n < UInt64.size
  | .number (.real _) => False
  | .array items => AreExact items
  | .object members => MembersExact members
  | _ => True

/-- The numbers of the items of an array are integers of 64 bits. -/
def AreExact : List Json → Prop
  | [] => True
  | item :: items => IsExact item ∧ AreExact items

/-- The numbers of the members of an object are integers of 64 bits. -/
def MembersExact : List (String × Json) → Prop
  | [] => True
  | (_, value) :: members => IsExact value ∧ MembersExact members

end

/-! ### Spellings -/

/-- Blanks may stand around what is spelled. -/
def Padded (spelling : List Char → Prop) (text : List Char) : Prop :=
  ∃ before inner after, text = before ++ (inner ++ after) ∧ AreBlanks before ∧ spelling inner ∧
    AreBlanks after

/-- A text is spelled between quotes. -/
def Quotes (s : String) (text : List Char) : Prop :=
  ∃ inner, text = '"' :: (inner ++ ['"']) ∧ SpellsString s.toList inner

/-- A member is spelled by its key, a colon and its value. -/
def SpellsMember (key : String) (spelling : List Char → Prop) (text : List Char) : Prop :=
  ∃ name content, text = name ++ ':' :: content ∧ Padded (Quotes key) name ∧
    Padded spelling content

mutual

/-- How a value may be spelled; the spellings of a double are not given. -/
def Spells : Json → List Char → Prop
  | .null, text => text = ['n', 'u', 'l', 'l']
  | .bool true, text => text = ['t', 'r', 'u', 'e']
  | .bool false, text => text = ['f', 'a', 'l', 's', 'e']
  | .number (.integer n), text => text = (Numeral.signedDecimal n).toList
  | .number (.real _), _ => False
  | .string s, text => Quotes s text
  | .array items, text => ∃ inner, text = '[' :: (inner ++ [']']) ∧ SpellsItems items inner
  | .object members, text =>
    ∃ inner, text = '\x7b' :: (inner ++ ['\x7d']) ∧ SpellsMembers members inner

/-- How items may be spelled between the brackets of an array. -/
def SpellsItems : List Json → List Char → Prop
  | [], text => AreBlanks text
  | [item], text => Padded (Spells item) text
  | item :: items, text =>
    ∃ first rest, text = first ++ ',' :: rest ∧ Padded (Spells item) first ∧ SpellsItems items rest

/-- How members may be spelled between the brackets of an object. -/
def SpellsMembers : List (String × Json) → List Char → Prop
  | [], text => AreBlanks text
  | [(key, value)], text => SpellsMember key (Spells value) text
  | (key, value) :: members, text =>
    ∃ first rest, text = first ++ ',' :: rest ∧ SpellsMember key (Spells value) first ∧
      SpellsMembers members rest

end

/-- A text spells a value, with blanks around it or without. -/
def SpelledBy (value : Json) (text : String) : Prop := Padded value.Spells text.toList

/-- A text without quotes, backslashes and control characters spells itself. -/
theorem spellsString_self {chars : List Char} (h : AreUnescaped chars) :
    SpellsString chars chars := by
  induction chars with
  | nil => exact rfl
  | cons c chars ih =>
    obtain ⟨hquote, hslash, hcontrol⟩ := h c List.mem_cons_self
    exact ⟨[c], chars, rfl, .itself hquote hslash hcontrol,
      ih fun c hc => h c (List.mem_cons_of_mem _ hc)⟩

theorem toList_signedDecimal (n : Int) :
    (Numeral.signedDecimal n).toList =
      if n < 0 then '-' :: Nat.toDigits 10 n.natAbs else Nat.toDigits 10 n.natAbs := by
  rw [Numeral.signedDecimal, Numeral.decimal]
  split
  · rw [String.toList_append, String.toList_ofList, String.toList_ofList, List.singleton_append]
  · rw [String.toList_ofList]

/-- What spells a value starts with neither a blank nor a closing bracket. -/
theorem exists_head_of_spells {value : Json} {text : List Char} (h : value.Spells text) :
    ∃ c tail, text = c :: tail ∧ Document.isBlank c = false ∧ c ≠ ']' := by
  cases value with
  | null =>
    rw [Spells] at h
    exact ⟨'n', _, h, by decide, by decide⟩
  | bool b => cases b <;> rw [Spells] at h <;> exact ⟨_, _, h, by decide, by decide⟩
  | number number =>
    cases number with
    | real x => rw [Spells] at h; exact h.elim
    | integer n =>
      rw [Spells, toList_signedDecimal] at h
      split at h
      · exact ⟨'-', _, h, by decide, by decide⟩
      · obtain ⟨d, digits, hcons⟩ :=
          List.exists_cons_of_ne_nil (Nat.toDigits_ne_nil : Nat.toDigits 10 n.natAbs ≠ [])
        have hd : d.isDigit := Nat.isDigit_of_mem_toDigits (by decide) (by decide)
          (hcons ▸ List.mem_cons_self : d ∈ Nat.toDigits 10 n.natAbs)
        have hne : ∀ other : Char, other.isDigit = false → d ≠ other := fun other =>
          Numeral.ne_of_isDigit hd
        refine ⟨d, digits, h.trans hcons, ?_, hne ']' rfl⟩
        simp [Document.isBlank, hne ' ' rfl, hne '\n' rfl, hne '\t' rfl, hne '\r' rfl]
  | string s =>
    rw [Spells] at h
    obtain ⟨inner, h, -⟩ := h
    exact ⟨'"', _, h, by decide, by decide⟩
  | array items =>
    rw [Spells] at h
    obtain ⟨inner, h, -⟩ := h
    exact ⟨'[', _, h, by decide, by decide⟩
  | object members =>
    rw [Spells] at h
    obtain ⟨inner, h, -⟩ := h
    exact ⟨'\x7b', _, h, by decide, by decide⟩

end Json

namespace Document

open Json (AreBlanks Padded Quotes Spells SpellsItems SpellsMembers SpellsMember)

/-! ### Taking apart -/

/-- Blanks in front of a value are skipped, and those behind it end it. -/
theorem skipBlanks_of_padded {value : Json} {text : List Char} (h : Padded value.Spells text) :
    ∃ inner after, value.Spells inner ∧ AreBlanks after ∧ inner.length ≤ text.length ∧
      ∀ rest, skipBlanks (text ++ rest) = inner ++ (after ++ rest) := by
  obtain ⟨before, inner, after, rfl, hbefore, hinner, hafter⟩ := h
  obtain ⟨c, tail, rfl, hblank, -⟩ := Json.exists_head_of_spells hinner
  refine ⟨c :: tail, after, hinner, hafter, ?_, fun rest => ?_⟩
  · simp only [List.length_append]
    omega
  · rw [List.append_assoc, skipBlanks_append hbefore, List.append_assoc, List.cons_append,
      skipBlanks_cons hblank]

/-- What starts with no opening bracket is a scalar. -/
theorem scanOpened_cons {c : Char} (harray : c ≠ '[') (hobject : c ≠ '\x7b') (steps levels : Nat)
    (text : List Char) : scanOpened (steps + 1) levels (c :: text) = scanScalar (c :: text) := by
  rw [scanOpened]
  · exact fun _ heq => harray (List.cons.inj heq).1
  · exact fun _ heq => hobject (List.cons.inj heq).1

/-- An integer is taken apart. -/
theorem scanOpened_integer (n : Int) (steps levels : Nat) {rest : List Char} (hrest : Ends rest) :
    scanOpened (steps + 1) levels ((Numeral.signedDecimal n).toList ++ rest) =
      (.number (.ofInt n), some rest) := by
  rw [Json.toList_signedDecimal, NumberLiteral.ofInt]
  by_cases hneg : n < 0
  · rw [if_pos hneg, decide_eq_true hneg, List.cons_append,
      scanOpened_cons (by decide) (by decide), scanScalar, scanNumber?_digits true _ hrest]
  · rw [if_neg hneg, decide_eq_false hneg]
    obtain ⟨d, digits, hcons⟩ :=
      List.exists_cons_of_ne_nil (Nat.toDigits_ne_nil : Nat.toDigits 10 n.natAbs ≠ [])
    have hd : d.isDigit := Nat.isDigit_of_mem_toDigits (by decide) (by decide)
      (hcons ▸ List.mem_cons_self : d ∈ Nat.toDigits 10 n.natAbs)
    have hne : ∀ other : Char, other.isDigit = false → d ≠ other := fun _ =>
      Numeral.ne_of_isDigit hd
    have hscan : scanNumber? false (d :: (digits ++ rest)) =
        some (⟨false, Nat.toDigits 10 n.natAbs, none, none⟩, rest) := by
      rw [← List.cons_append, ← hcons, scanNumber?_digits false _ hrest]
    have hhead : ∀ other : Char, other.isDigit = false →
        ∀ text, d :: (digits ++ rest) = other :: text → False :=
      fun other hother _ heq => hne other hother (List.cons.inj heq).1
    rw [hcons, List.cons_append, scanOpened_cons (hne '[' rfl) (hne '\x7b' rfl), scanScalar, hscan,
      hcons]
    · exact hhead '"' rfl
    · exact hhead '-' rfl
    · exact hhead 'n' rfl
    · exact hhead 't' rfl
    · exact hhead 'f' rfl

/-- A text is taken apart. -/
theorem scanScalar_of_quotes {s : String} {text : List Char} (h : Quotes s text)
    (rest : List Char) : ∃ inner, text = '"' :: inner ∧
      scanString? (some []) (inner ++ rest) = some (.text s, rest) := by
  obtain ⟨inner, rfl, hinner⟩ := h
  refine ⟨_, rfl, ?_⟩
  rw [List.append_assoc, List.singleton_append, scanString?_of_spells hinner, List.reverse_nil,
    List.nil_append, String.ofList_toList]

/-- A key and its colon are taken apart. -/
theorem scanKey_of_member {key : String} {value : Json} {text : List Char}
    (h : SpellsMember key value.Spells text) :
    ∃ inner after, value.Spells inner ∧ AreBlanks after ∧ inner.length ≤ text.length ∧
      ∀ rest, (∃ tail, skipBlanks (text ++ rest) = '"' :: tail) ∧
        scanKey (skipBlanks (text ++ rest)) =
          (some (some key), some (inner ++ (after ++ rest))) := by
  obtain ⟨_, content, rfl, ⟨before, name, after', rfl, hbefore, hname, hafter'⟩, hcontent⟩ := h
  obtain ⟨inner, after, hinner, hafter, hlength, hskip⟩ := skipBlanks_of_padded hcontent
  refine ⟨inner, after, hinner, hafter, ?_, fun rest => ?_⟩
  · simp only [List.length_append, List.length_cons]
    omega
  obtain ⟨tail, rfl, hscan⟩ := scanScalar_of_quotes hname (after' ++ ':' :: (content ++ rest))
  have htext : skipBlanks (before ++ ('"' :: tail ++ after') ++ ':' :: content ++ rest) =
      '"' :: (tail ++ (after' ++ ':' :: (content ++ rest))) := by
    simp only [List.append_assoc, List.cons_append, skipBlanks_append hbefore,
      skipBlanks_cons (show isBlank '"' = false from rfl)]
  rw [htext]
  refine ⟨⟨_, rfl⟩, ?_⟩
  rw [scanKey, hscan]
  simp only [skipBlanks_append hafter', skipBlanks_cons (show isBlank ':' = false from rfl), hskip]
  rfl

/-- An array is opened; if it is not empty, its items are taken apart. -/
theorem scanOpened_array (steps levels : Nat) {text : List Char} {c : Char} {tail : List Char}
    (h : skipBlanks text = c :: tail) (hne : c ≠ ']') :
    scanOpened (steps + 1) levels ('[' :: text) =
      (.array (scanItems steps (levels - 1) (c :: tail)).1,
        (scanItems steps (levels - 1) (c :: tail)).2) := by
  rw [scanOpened, h]
  split
  · rename_i heq
    exact absurd (List.cons.inj heq).1 hne
  · rfl

/-- An object is opened; if it is not empty, its members are taken apart. -/
theorem scanOpened_object (steps levels : Nat) {text tail : List Char}
    (h : skipBlanks text = '"' :: tail) :
    scanOpened (steps + 1) levels ('\x7b' :: text) =
      (.object (scanMembers steps (levels - 1) ('"' :: tail)).1,
        (scanMembers steps (levels - 1) ('"' :: tail)).2) := by
  rw [scanOpened, h]
  rfl

/-- The first item is what the text of items starts with. -/
theorem exists_head_of_spellsItems {item : Json} {items : List Json} {text : List Char}
    (h : SpellsItems (item :: items) text) (rest : List Char) :
    ∃ c tail, skipBlanks (text ++ rest) = c :: tail ∧ c ≠ ']' := by
  obtain ⟨first, back, rfl, hfirst⟩ : ∃ first back, text = first ++ back ∧
      Padded item.Spells first := by
    cases items with
    | nil =>
      rw [SpellsItems] at h
      exact ⟨text, [], (List.append_nil _).symm, h⟩
    | cons next items =>
      rw [SpellsItems] at h
      · obtain ⟨first, back, rfl, hfirst, -⟩ := h
        exact ⟨first, _, rfl, hfirst⟩
      · exact nofun
  obtain ⟨inner, after, hinner, -, -, hskip⟩ := skipBlanks_of_padded hfirst
  obtain ⟨c, tail, rfl, -, hne⟩ := Json.exists_head_of_spells hinner
  exact ⟨c, _, by rw [List.append_assoc, hskip]; rfl, hne⟩

/-- A quote is what the text of members starts with. -/
theorem exists_head_of_spellsMembers {member : String × Json} {members : List (String × Json)}
    {text : List Char} (h : SpellsMembers (member :: members) text) (rest : List Char) :
    ∃ tail, skipBlanks (text ++ rest) = '"' :: tail := by
  obtain ⟨key, value⟩ := member
  obtain ⟨first, back, rfl, hfirst⟩ : ∃ first back, text = first ++ back ∧
      SpellsMember key value.Spells first := by
    cases members with
    | nil =>
      rw [SpellsMembers] at h
      exact ⟨text, [], (List.append_nil _).symm, h⟩
    | cons next members =>
      rw [SpellsMembers] at h
      · obtain ⟨first, back, rfl, hfirst, -⟩ := h
        exact ⟨first, _, rfl, hfirst⟩
      · exact nofun
  obtain ⟨inner, after, -, -, -, hkey⟩ := scanKey_of_member hfirst
  rw [List.append_assoc]
  exact (hkey (back ++ rest)).1

mutual

/-- **A value is taken apart into its document**, given steps and levels enough. -/
theorem scanValue_of_spells (value : Json) {text : List Char} (h : value.Spells text)
    (steps levels : Nat) (hsteps : 3 * text.length ≤ steps) (hlevels : value.depth < levels)
    {rest : List Char} (hrest : Ends rest) :
    scanValue steps levels (text ++ rest) = (value.document, some rest) := by
  -- A value takes one step, and what is in it another; its text has a character, worth three.
  obtain ⟨steps, rfl⟩ : ∃ s, steps = s + 2 := by
    obtain ⟨c, tail, rfl, -⟩ := Json.exists_head_of_spells h
    rw [List.length_cons] at hsteps
    exact ⟨steps - 2, by omega⟩
  obtain ⟨levels, rfl⟩ : ∃ l, levels = l + 1 := ⟨levels - 1, by omega⟩
  rw [scanValue]
  cases value with
  | null =>
    obtain rfl : text = ['n', 'u', 'l', 'l'] := by rwa [Spells] at h
    exact scanOpened_cons (by decide) (by decide) _ _ _
  | bool b =>
    cases b with
    | true =>
      obtain rfl : text = ['t', 'r', 'u', 'e'] := by rwa [Spells] at h
      exact scanOpened_cons (by decide) (by decide) _ _ _
    | false =>
      obtain rfl : text = ['f', 'a', 'l', 's', 'e'] := by rwa [Spells] at h
      exact scanOpened_cons (by decide) (by decide) _ _ _
  | number number =>
    cases number with
    | integer n =>
      obtain rfl : text = (Numeral.signedDecimal n).toList := by rwa [Spells] at h
      exact scanOpened_integer n _ _ hrest
    | real x =>
      rw [Spells] at h
      exact h.elim
  | string s =>
    rw [Spells] at h
    obtain ⟨inner, rfl, hscan⟩ := scanScalar_of_quotes h rest
    rw [List.cons_append, scanOpened_cons (by decide) (by decide), scanScalar, hscan]
    rfl
  | array items =>
    rw [Spells] at h
    obtain ⟨inner, rfl, hinner⟩ := h
    rw [List.length_cons, List.length_append, List.length_singleton] at hsteps
    rw [List.cons_append, List.append_assoc, List.singleton_append]
    cases items with
    | nil =>
      rw [SpellsItems] at hinner
      rw [scanOpened, skipBlanks_append hinner]
      rfl
    | cons item items =>
      have hitems := scanItems_of_spells (item :: items) (List.cons_ne_nil _ _) hinner steps levels
        (by omega) (by rw [Json.depth] at hlevels; omega) rest
      -- The first item starts with no bracket, so the array is not taken for an empty one.
      obtain ⟨c, tail, hhead, hne⟩ := exists_head_of_spellsItems hinner (']' :: rest)
      rw [hhead] at hitems
      rw [scanOpened_array steps _ hhead hne, Nat.add_sub_cancel, hitems]
      rfl
  | object members =>
    rw [Spells] at h
    obtain ⟨inner, rfl, hinner⟩ := h
    rw [List.length_cons, List.length_append, List.length_singleton] at hsteps
    rw [List.cons_append, List.append_assoc, List.singleton_append]
    cases members with
    | nil =>
      rw [SpellsMembers] at hinner
      rw [scanOpened, skipBlanks_append hinner]
      rfl
    | cons member members =>
      have hmembers := scanMembers_of_spells (member :: members) (List.cons_ne_nil _ _) hinner
        steps levels (by omega) (by rw [Json.depth] at hlevels; omega) rest
      obtain ⟨tail, hhead⟩ := exists_head_of_spellsMembers hinner ('\x7d' :: rest)
      rw [hhead] at hmembers
      rw [scanOpened_object steps _ hhead, Nat.add_sub_cancel, hmembers]
      rfl

theorem scanItems_of_spells (items : List Json) (hne : items ≠ []) {text : List Char}
    (h : SpellsItems items text) (steps levels : Nat) (hsteps : 3 * text.length + 1 ≤ steps)
    (hlevels : Json.itemsDepth items < levels) (rest : List Char) :
    scanItems steps levels (skipBlanks (text ++ ']' :: rest)) =
      (Json.documents items, some rest) := by
  obtain ⟨steps, rfl⟩ : ∃ s, steps = s + 1 := ⟨steps - 1, by omega⟩
  obtain _ | ⟨item, _ | ⟨next, items⟩⟩ := items
  · exact absurd rfl hne
  · rw [Json.itemsDepth] at hlevels
    rw [SpellsItems] at h
    obtain ⟨inner, after, hinner, hafter, hlength, hskip⟩ := skipBlanks_of_padded h
    have hclose : Closes (']' :: rest) := .cons rest (.inr (.inl rfl))
    have hitem := scanValue_of_spells item hinner steps levels (by omega) (by omega)
      ⟨after, _, rfl, hafter, hclose⟩
    rw [hskip, scanItems, hitem]
    simp only [skipBlanks_append hafter, hclose.skipBlanks_eq]
    rfl
  · rw [Json.itemsDepth] at hlevels
    rw [SpellsItems] at h
    · obtain ⟨first, back, rfl, hfirst, hback⟩ := h
      rw [List.length_append, List.length_cons] at hsteps
      obtain ⟨inner, after, hinner, hafter, hlength, hskip⟩ := skipBlanks_of_padded hfirst
      have hclose : Closes (',' :: (back ++ ']' :: rest)) := .cons _ (.inl rfl)
      have hitem := scanValue_of_spells item hinner steps levels (by omega) (by omega)
        ⟨after, _, rfl, hafter, hclose⟩
      have hitems := scanItems_of_spells (next :: items) (List.cons_ne_nil _ _) hback steps levels
        (by omega) (by omega) rest
      rw [List.append_assoc, List.cons_append, hskip, scanItems, hitem]
      simp only [skipBlanks_append hafter, hclose.skipBlanks_eq, hitems]
      rfl
    · exact nofun

theorem scanMembers_of_spells (members : List (String × Json)) (hne : members ≠ [])
    {text : List Char} (h : SpellsMembers members text) (steps levels : Nat)
    (hsteps : 3 * text.length + 1 ≤ steps) (hlevels : Json.membersDepth members < levels)
    (rest : List Char) :
    scanMembers steps levels (skipBlanks (text ++ '\x7d' :: rest)) =
      (Json.memberDocuments members, some rest) := by
  obtain ⟨steps, rfl⟩ : ∃ s, steps = s + 1 := ⟨steps - 1, by omega⟩
  obtain _ | ⟨⟨key, value⟩, _ | ⟨next, members⟩⟩ := members
  · exact absurd rfl hne
  · rw [Json.membersDepth] at hlevels
    rw [SpellsMembers] at h
    obtain ⟨inner, after, hinner, hafter, hlength, hkey⟩ := scanKey_of_member h
    have hclose : Closes ('\x7d' :: rest) := .cons rest (.inr (.inr rfl))
    have hvalue := scanValue_of_spells value hinner steps levels (by omega) (by omega)
      ⟨after, _, rfl, hafter, hclose⟩
    rw [scanMembers, (hkey _).2]
    simp only [hvalue, skipBlanks_append hafter, hclose.skipBlanks_eq]
    rfl
  · rw [Json.membersDepth] at hlevels
    rw [SpellsMembers] at h
    · obtain ⟨first, back, rfl, hfirst, hback⟩ := h
      rw [List.length_append, List.length_cons] at hsteps
      obtain ⟨inner, after, hinner, hafter, hlength, hkey⟩ := scanKey_of_member hfirst
      have hclose : Closes (',' :: (back ++ '\x7d' :: rest)) := .cons _ (.inl rfl)
      have hvalue := scanValue_of_spells value hinner steps levels (by omega) (by omega)
        ⟨after, _, rfl, hafter, hclose⟩
      have hmembers := scanMembers_of_spells (next :: members) (List.cons_ne_nil _ _) hback steps
        levels (by omega) (by omega) rest
      rw [List.append_assoc, List.cons_append, scanMembers, (hkey _).2]
      simp only [hvalue, skipBlanks_append hafter, hclose.skipBlanks_eq, hmembers]
      rfl
    · exact nofun

end

mutual

/-- Every container is spelled with its brackets. -/
theorem depth_le_length (value : Json) {text : List Char} (h : value.Spells text) :
    value.depth ≤ text.length := by
  cases value with
  | array items =>
    rw [Spells] at h
    obtain ⟨inner, rfl, hinner⟩ := h
    have hitems := itemsDepth_le_length items hinner
    rw [Json.depth, List.length_cons, List.length_append]
    omega
  | object members =>
    rw [Spells] at h
    obtain ⟨inner, rfl, hinner⟩ := h
    have hmembers := membersDepth_le_length members hinner
    rw [Json.depth, List.length_cons, List.length_append]
    omega
  | _ => exact Nat.zero_le _

theorem itemsDepth_le_length (items : List Json) {text : List Char}
    (h : SpellsItems items text) : Json.itemsDepth items ≤ text.length := by
  obtain _ | ⟨item, _ | ⟨next, items⟩⟩ := items
  · exact Nat.zero_le _
  · rw [SpellsItems] at h
    obtain ⟨inner, after, hinner, -, hlength, -⟩ := skipBlanks_of_padded h
    have hitem := depth_le_length item hinner
    rw [Json.itemsDepth, Json.itemsDepth]
    omega
  · rw [SpellsItems] at h
    · obtain ⟨first, back, rfl, hfirst, hback⟩ := h
      obtain ⟨inner, after, hinner, -, hlength, -⟩ := skipBlanks_of_padded hfirst
      have hitem := depth_le_length item hinner
      have hitems := itemsDepth_le_length (next :: items) hback
      rw [Json.itemsDepth, List.length_append, List.length_cons]
      omega
    · exact nofun

theorem membersDepth_le_length (members : List (String × Json)) {text : List Char}
    (h : SpellsMembers members text) : Json.membersDepth members ≤ text.length := by
  obtain _ | ⟨⟨key, value⟩, _ | ⟨next, members⟩⟩ := members
  · exact Nat.zero_le _
  · rw [SpellsMembers] at h
    obtain ⟨inner, after, hinner, -, hlength, -⟩ := scanKey_of_member h
    have hvalue := depth_le_length value hinner
    rw [Json.membersDepth, Json.membersDepth]
    omega
  · rw [SpellsMembers] at h
    · obtain ⟨first, back, rfl, hfirst, hback⟩ := h
      obtain ⟨inner, after, hinner, -, hlength, -⟩ := scanKey_of_member hfirst
      have hvalue := depth_le_length value hinner
      have hmembers := membersDepth_le_length (next :: members) hback
      rw [Json.membersDepth, List.length_append, List.length_cons]
      omega
    · exact nofun

end

/-- **A text is taken apart into the document of what it spells.** -/
theorem parse_of_spelledBy {value : Json} {text : String} (h : value.SpelledBy text) :
    parse text = (value.document, true) := by
  obtain ⟨inner, after, hinner, hafter, hlength, hskip⟩ := skipBlanks_of_padded h
  have hchars : skipBlanks text.toList = inner ++ after := by
    have hall := hskip []
    rwa [List.append_nil, List.append_nil] at hall
  have hdepth : value.depth < text.length + 1 := by
    rw [← String.length_toList]
    exact Nat.lt_succ_of_le (Nat.le_trans (depth_le_length value hinner) hlength)
  have hend : skipBlanks after = [] := by
    rw [← List.append_nil after, skipBlanks_append hafter]
    rfl
  have hscan := scanValue_of_spells value hinner (3 * (inner ++ after).length + 4)
    (text.length + 1) (by rw [List.length_append]; omega) hdepth
    ⟨after, [], (List.append_nil _).symm, hafter, .inl rfl⟩
  rw [parse, parseTo, hchars]
  simp only [hscan, hend]
  rfl

mutual

/-- The document of a value does not break. -/
theorem isBroken_document (value : Json) (h : value.IsExact) : isBroken value.document = false := by
  cases value with
  | number number =>
    cases number with
    | integer n => rfl
    | real x => exact h.elim
  | array items => exact anyBroken_documents items h
  | object members => exact anyBrokenMember_documents members h
  | _ => rfl

theorem anyBroken_documents (items : List Json) (h : Json.AreExact items) :
    anyBroken (Json.documents items) = false := by
  cases items with
  | nil => rfl
  | cons item items =>
    rw [Json.documents, anyBroken, isBroken_document item h.1, anyBroken_documents items h.2]
    rfl

theorem anyBrokenMember_documents (members : List (String × Json)) (h : Json.MembersExact members) :
    anyBrokenMember (Json.memberDocuments members) = false := by
  obtain _ | ⟨⟨key, value⟩, members⟩ := members
  · rfl
  · rw [Json.memberDocuments, anyBrokenMember, isBroken_document value h.1,
      anyBrokenMember_documents members h.2]
    rfl

end

end Document

namespace Reader

/-! ### Reading -/

/-- A text is read as the document of what it spells. -/
theorem run_of_spelledBy {α : Type} (reader : Reader α) {value : Json} {text : String}
    (h : value.SpelledBy text) : reader.run text = reader maxDepth value.document := by
  rw [run, Document.parse_of_spelledBy h, finish]
  cases reader maxDepth value.document <;> rfl

mutual

/-- **A value is read as JSON where its containers do not nest too deep, and only there.** -/
theorem exists_json_iff (value : Json) (h : value.IsExact) (depth : Nat) :
    (∃ v, json depth value.document = .ok v) ↔ value.depth ≤ depth := by
  cases value with
  | number number =>
    cases number with
    | integer n =>
      have hvalue := NumberLiteral.value?_ofInt h.1 h.2
      exact iff_of_true ⟨.number (.integer n), by rw [Json.document, json, hvalue]; rfl⟩
        (Nat.zero_le _)
    | real x => exact h.elim
  | array items =>
    rw [Json.document, Json.depth]
    cases depth with
    | zero => exact iff_of_false (fun ⟨_, hread⟩ => by cases hread) (Nat.not_succ_le_zero _)
    | succ depth =>
      rw [Nat.add_le_add_iff_right, ← exists_jsonItems_iff items h depth]
      simp only [json, Except.exists_map_eq_ok]
  | object members =>
    rw [Json.document, Json.depth]
    cases depth with
    | zero => exact iff_of_false (fun ⟨_, hread⟩ => by cases hread) (Nat.not_succ_le_zero _)
    | succ depth =>
      rw [Nat.add_le_add_iff_right, ← exists_jsonMembers_iff members h depth]
      simp only [json, Except.exists_map_eq_ok]
  | null => exact iff_of_true ⟨_, rfl⟩ (Nat.zero_le _)
  | bool b => exact iff_of_true ⟨_, rfl⟩ (Nat.zero_le _)
  | string s => exact iff_of_true ⟨_, rfl⟩ (Nat.zero_le _)

theorem exists_jsonItems_iff (items : List Json) (h : Json.AreExact items) (depth : Nat) :
    (∃ vs, jsonItems depth (Json.documents items) = .ok vs) ↔ Json.itemsDepth items ≤ depth := by
  cases items with
  | nil => exact iff_of_true ⟨_, rfl⟩ (Nat.zero_le _)
  | cons item items =>
    rw [Json.itemsDepth, Nat.max_le, ← exists_json_iff item h.1, ← exists_jsonItems_iff items h.2,
      Json.documents, jsonItems]
    cases json depth item.document with
    | error e => exact iff_of_false (fun ⟨_, h⟩ => nomatch h) (fun ⟨⟨_, h⟩, _⟩ => nomatch h)
    | ok v => exact Except.exists_map_eq_ok.trans (and_iff_right ⟨v, rfl⟩).symm

theorem exists_jsonMembers_iff (members : List (String × Json)) (h : Json.MembersExact members)
    (depth : Nat) : (∃ vs, jsonMembers depth (Json.memberDocuments members) = .ok vs) ↔
      Json.membersDepth members ≤ depth := by
  obtain _ | ⟨⟨key, value⟩, members⟩ := members
  · exact iff_of_true ⟨_, rfl⟩ (Nat.zero_le _)
  · rw [Json.membersDepth, Nat.max_le, ← exists_json_iff value h.1,
      ← exists_jsonMembers_iff members h.2, Json.memberDocuments, jsonMembers]
    cases json depth value.document with
    | error e => exact iff_of_false (fun ⟨_, h⟩ => nomatch h) (fun ⟨⟨_, h⟩, _⟩ => nomatch h)
    | ok v => exact Except.exists_map_eq_ok.trans (and_iff_right ⟨v, rfl⟩).symm

end

end Reader

end PosvGateway
