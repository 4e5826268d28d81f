import LiveBuild.Json.Basic

/-!
# Reading JSON

The reader works on characters and returns what it did not read. Its fuel bounds the nesting and the
number of items; the length of the text is always enough.
-/

namespace LiveBuild.Json

def isBlank (c : Char) : Bool := c = ' ' || c = '\n' || c = '\t' || c = '\r'

def skipBlanks (cs : List Char) : List Char := cs.dropWhile isBlank

def hexValue? (c : Char) : Option Nat :=
  if '0' ≤ c ∧ c ≤ '9' then some (c.toNat - 48)
  else if 'a' ≤ c ∧ c ≤ 'f' then some (c.toNat - 87)
  else if 'A' ≤ c ∧ c ≤ 'F' then some (c.toNat - 55)
  else none

def unit? (a b c d : Char) : Option Nat := do
  return 4096 * (← hexValue? a) + 256 * (← hexValue? b) + 16 * (← hexValue? c) + (← hexValue? d)

def unescape? : Char → Option Char
  | '"' => some '"'
  | '\\' => some '\\'
  | '/' => some '/'
  | 'b' => some '\x08'
  | 'f' => some '\x0c'
  | 'n' => some '\n'
  | 'r' => some '\r'
  | 't' => some '\t'
  | _ => none

inductive Piece where
  | char (c : Char)
  | unit (n : Nat)
deriving DecidableEq, Repr

/-- The pieces of quoted text up to its closing quote, with what follows it. -/
def readPieces : List Char → Option (List Piece × List Char)
  | [] => none
  | '"' :: rest => some ([], rest)
  | '\\' :: 'u' :: a :: b :: c :: d :: rest => do
      let n ← unit? a b c d
      let (pieces, rest) ← readPieces rest
      return (.unit n :: pieces, rest)
  | '\\' :: e :: rest => do
      let c ← unescape? e
      let (pieces, rest) ← readPieces rest
      return (.char c :: pieces, rest)
  | c :: rest =>
      if c = '\\' ∨ c.toNat < 32 then
        none
      else do
        let (pieces, rest) ← readPieces rest
        return (.char c :: pieces, rest)

/-- The characters that pieces spell. A high unit must be followed by a low one. -/
def spell? : List Piece → Option (List Char)
  | [] => some []
  | .char c :: rest => (spell? rest).map (c :: ·)
  | .unit n :: rest =>
      if 0xD800 ≤ n ∧ n < 0xDC00 then
        match rest with
        | .unit m :: rest =>
            if 0xDC00 ≤ m ∧ m < 0xE000 then
              (spell? rest).map (Char.ofNat (0x10000 + (n - 0xD800) * 0x400 + (m - 0xDC00)) :: ·)
            else
              none
        | _ => none
      else if 0xDC00 ≤ n ∧ n < 0xE000 then
        none
      else
        (spell? rest).map (Char.ofNat n :: ·)

def isDigit (c : Char) : Bool := '0' ≤ c && c ≤ '9'

def natOfDigits (digits : List Char) : Nat :=
  digits.foldl (fun n c => 10 * n + (c.toNat - 48)) 0

/-- An unsigned number: digits without a leading zero, a fraction, an exponent. -/
def readMagnitude (isNegative : Bool) (cs : List Char) : Option (Number × List Char) := do
  let (whole, rest) := cs.span isDigit
  if whole.isEmpty ∨ (whole.head? = some '0' ∧ 1 < whole.length) then
    none
  let (fraction, rest) ← match rest with
    | '.' :: more =>
        let (digits, rest) := more.span isDigit
        if digits.isEmpty then none else some (some digits, rest)
    | _ => some (none, rest)
  let (exponent, rest) ← match rest with
    | e :: more =>
        if e = 'e' ∨ e = 'E' then
          let (sign, more) : Int × List Char := match more with
            | '-' :: more => (-1, more)
            | '+' :: more => (1, more)
            | _ => (1, more)
          let (digits, rest) := more.span isDigit
          if digits.isEmpty then none else some (some (sign * Int.ofNat (natOfDigits digits)), rest)
        else
          some (none, rest)
    | [] => some (none, rest)
  match fraction, exponent with
  | none, none =>
      let n := natOfDigits whole
      return (if isNegative then .negative n else .natural n, rest)
  | _, _ =>
      let fraction := fraction.getD []
      return (.decimal isNegative (natOfDigits (whole ++ fraction))
        (exponent.getD 0 - Int.ofNat fraction.length), rest)

def readNumber : List Char → Option (Number × List Char)
  | '-' :: rest => readMagnitude true rest
  | cs => readMagnitude false cs

mutual

def readValue : Nat → List Char → Option (Json × List Char)
  | 0, _ => none
  | fuel + 1, cs =>
      match cs with
      | 'n' :: 'u' :: 'l' :: 'l' :: rest => some (.null, rest)
      | 't' :: 'r' :: 'u' :: 'e' :: rest => some (.bool true, rest)
      | 'f' :: 'a' :: 'l' :: 's' :: 'e' :: rest => some (.bool false, rest)
      | '"' :: rest => do
          let (pieces, rest) ← readPieces rest
          match spell? pieces with
          | some spelled => return (.text (String.ofList spelled), rest)
          | none => return (.unpaired, rest)
      | '[' :: rest =>
          match skipBlanks rest with
          | ']' :: rest => some (.array [], rest)
          | rest => do
              let (items, rest) ← readItems fuel rest
              return (.array items, rest)
      | '\x7b' :: rest =>
          match skipBlanks rest with
          | '\x7d' :: rest => some (.object [], rest)
          | rest => do
              let (fields?, rest) ← readFields fuel rest
              match fields? with
              | some fields => return (.object fields, rest)
              | none => return (.unpaired, rest)
      | _ => do
          let (n, rest) ← readNumber cs
          return (.number n, rest)

def readItems : Nat → List Char → Option (List Json × List Char)
  | 0, _ => none
  | fuel + 1, cs => do
      let (item, rest) ← readValue fuel cs
      match skipBlanks rest with
      | ']' :: rest => return ([item], rest)
      | ',' :: rest =>
          let (items, rest) ← readItems fuel (skipBlanks rest)
          return (item :: items, rest)
      | _ => none

/-- The fields of an object, at least one, up to its closing brace. They are none when a name has an
unpaired surrogate. -/
def readFields : Nat → List Char → Option (Option (List (String × Json)) × List Char)
  | 0, _ => none
  | fuel + 1, cs =>
      match cs with
      | '"' :: rest => do
          let (pieces, rest) ← readPieces rest
          match skipBlanks rest with
          | ':' :: rest =>
              let (item, rest) ← readValue fuel (skipBlanks rest)
              let first? := (spell? pieces).map fun name => (String.ofList name, item)
              match skipBlanks rest with
              | '\x7d' :: rest => return (first?.map ([·]), rest)
              | ',' :: rest =>
                  let (fields?, rest) ← readFields fuel (skipBlanks rest)
                  return (do return (← first?) :: (← fields?), rest)
              | _ => none
          | _ => none
      | _ => none

end

def parse? (text : String) : Option Json :=
  let cs := text.toList
  match readValue (2 * cs.length + 2) (skipBlanks cs) with
  | some (value, rest) => if (skipBlanks rest).isEmpty then some value else none
  | none => none

end LiveBuild.Json
