/-!
# Punycode

A label of a domain name that is not ASCII is written with the letters, digits and hyphens that a
name may hold: its ASCII characters, a hyphen, and then the places and numbers of the others as
differences in a variable-length notation of base 36. `encode` writes a label, `decode?` reads one.
-/

namespace PosvGateway.Idna.Punycode

/-- The base of the notation. -/
def base : Nat := 36

/-- The least threshold of a digit. -/
def tMin : Nat := 1

/-- The greatest threshold of a digit. -/
def tMax : Nat := 26

/-- The digit of a value below the base: letters, then figures. -/
def digit (d : Nat) : Char :=
  if d < 26 then Char.ofNat ('a'.toNat + d) else Char.ofNat ('0'.toNat + (d - 26))

/-- Shrinks a difference until it fits two digits, counting the steps. -/
def shrink : Nat → Nat → Nat → Nat × Nat
  | 0, delta, k => (delta, k)
  | fuel + 1, delta, k =>
    if (base - tMin) * tMax / 2 < delta then shrink fuel (delta / (base - tMin)) (k + base)
    else (delta, k)

/-- The bias after a difference that was written when `count` characters were there. -/
def adapt (delta count : Nat) (first : Bool) : Nat :=
  let delta := if first then delta / 700 else delta / 2
  let (delta, k) := shrink delta (delta + delta / count) 0
  k + (base - tMin + 1) * delta / (delta + 38)

/-- Below the threshold of its place a digit is the last one of a difference. -/
def threshold (bias k : Nat) : Nat :=
  if k ≤ bias + tMin then tMin else if bias + tMax ≤ k then tMax else k - bias

/-! ### Writing -/

/-- The digits of a difference. -/
def digits (bias : Nat) : Nat → Nat → Nat → List Char
  | 0, _, _ => []
  | fuel + 1, k, q =>
    let t := threshold bias k
    if q < t then [digit q]
    else digit (t + (q - t) % (base - t)) :: digits bias fuel (k + base) ((q - t) / (base - t))

/-- What is known while the characters are written. -/
structure State where
  /-- The difference since the last character written. -/
  delta : Nat
  bias : Nat
  /-- The number of characters written. -/
  written : Nat
  /-- The digits, last first. -/
  out : List Char

/-- Passes over the text once and writes the places of the character `n`; `basic` is the number of
ASCII characters. -/
def pass (n basic : Nat) (text : List Char) (state : State) : State :=
  text.foldl (fun s c =>
    if c.toNat < n then { s with delta := s.delta + 1 }
    else if c.toNat = n then
      { delta := 0, bias := adapt s.delta (s.written + 1) (s.written == basic),
        written := s.written + 1,
        out := (digits s.bias (s.delta + 1) base s.delta).reverse ++ s.out }
    else s) state

/-- Writes the characters from `n` on, least first. -/
def passes (basic : Nat) (text : List Char) : Nat → Nat → State → State
  | 0, _, state => state
  | fuel + 1, n, state =>
    match (text.map Char.toNat).filter (n ≤ ·) with
    | [] => state
    | m :: more =>
      let next := more.foldl Nat.min m
      let state := { state with delta := state.delta + (next - n) * (state.written + 1) }
      let state := pass next basic text state
      passes basic text fuel (next + 1) { state with delta := state.delta + 1 }

/-- The ASCII form of a label, without its mark. -/
def encode (text : List Char) : List Char :=
  let ascii := text.filter fun c => decide (c.toNat < 0x80)
  let state := passes ascii.length text text.length 0x80
    { delta := 0, bias := 72, written := ascii.length, out := [] }
  (if ascii = [] then [] else ascii ++ ['-']) ++ state.out.reverse

/-! ### Reading -/

/-- The value of a digit. -/
def digitValue? (c : Char) : Option Nat :=
  if 'a' ≤ c ∧ c ≤ 'z' then some (c.toNat - 'a'.toNat)
  else if 'A' ≤ c ∧ c ≤ 'Z' then some (c.toNat - 'A'.toNat)
  else if '0' ≤ c ∧ c ≤ '9' then some (c.toNat - '0'.toNat + 26)
  else none

/-- Reads a difference: `weight` is that of the next digit and `acc` the number so far. -/
def readDifference? (bias : Nat) (k weight acc : Nat) : List Char → Option (Nat × List Char)
  | [] => none
  | c :: text =>
    match digitValue? c with
    | none => none
    | some d =>
      let t := threshold bias k
      if d < t then some (acc + d * weight, text)
      else readDifference? bias (k + base) (weight * (base - t)) (acc + d * weight) text

/-- Puts the characters that are left to read into the text `content`, whose last one has the number
`n` and was put in front of the place `i`. The fuel bounds their number. -/
def insertions? : (fuel : Nat) → (n i bias : Nat) → (content text : List Char) →
    Option (List Char)
  | _, _, _, _, content, [] => some content
  | 0, _, _, _, _, _ => none
  | fuel + 1, n, i, bias, content, text =>
    match readDifference? bias base 1 0 text with
    | none => none
    | some (difference, text) =>
      let count := content.length + 1
      let n := n + (i + difference) / count
      let place := (i + difference) % count
      if n < 0xd800 ∨ (0xdfff < n ∧ n < 0x110000) then
        insertions? fuel n (place + 1) (adapt difference count (i = 0))
          (content.take place ++ Char.ofNat n :: content.drop place) text
      else none

/-- Reads a label without its mark. -/
def decode? (text : List Char) : Option (List Char) :=
  match text.reverse.span (· ≠ '-') with
  | (rest, '-' :: front) =>
    if front = [] then none
    else insertions? text.length 0x80 0 72 front.reverse rest.reverse
  | (rest, _) => insertions? text.length 0x80 0 72 [] rest.reverse

end PosvGateway.Idna.Punycode
