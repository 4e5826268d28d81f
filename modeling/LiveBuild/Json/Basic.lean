/-!
# JSON values

A value keeps the order of its fields and repeated fields. Integers are kept apart from numbers
written with a fraction or an exponent, since only the former stand for counts and identifiers.
-/

namespace LiveBuild

inductive Json.Number where
  | natural (n : Nat)
  /-- An integer written with a minus sign, zero included. -/
  | negative (n : Nat)
  /-- A number written with a fraction or an exponent: its digits times a power of ten. -/
  | decimal (isNegative : Bool) (digits : Nat) (exponent : Int)
deriving DecidableEq, Repr, Inhabited

inductive Json where
  | null
  | bool (b : Bool)
  | number (n : Json.Number)
  | text (s : String)
  /-- A quoted text with half of a surrogate pair, or an object with such a key: it can be skipped
  but stands for no text. -/
  | unpaired
  | array (items : List Json)
  | object (fields : List (String × Json))
deriving Repr, Inhabited

namespace Json

def nat (n : Nat) : Json := .number (.natural n)

def strings (items : List String) : Json := .array (items.map .text)

def field? (j : Json) (name : String) : Option Json :=
  match j with
  | .object fields => (fields.reverse.find? fun field => field.1 == name).map (·.2)
  | _ => none

/-- The least number that a double cannot round to any more. -/
def doubleBound : Nat := Nat.pow 2 1024 - Nat.pow 2 970

/-- The absolute value of a number is one that a double can round to. -/
def Number.inRange : Number → Bool
  | .natural n => decide (n < doubleBound)
  | .negative n => decide (n < doubleBound)
  | .decimal _ digits exponent =>
      if digits = 0 then true
      else if exponent < 0 then
        decide (digits < doubleBound * Nat.pow 10 (min exponent.natAbs 100000))
      else if 400 < exponent then false
      else decide (digits * Nat.pow 10 exponent.toNat < doubleBound)

mutual

def depth : Json → Nat
  | .array items => 1 + depthItems items
  | .object fields => 1 + depthFields fields
  | _ => 0

def depthItems : List Json → Nat
  | [] => 0
  | item :: rest => max (depth item) (depthItems rest)

def depthFields : List (String × Json) → Nat
  | [] => 0
  | (_, item) :: rest => max (depth item) (depthFields rest)

end

mutual

/-- Every text of the value is a text and every number of it is in range. -/
def isSound : Json → Bool
  | .unpaired => false
  | .number n => n.inRange
  | .array items => soundItems items
  | .object fields => soundFields fields
  | _ => true

def soundItems : List Json → Bool
  | [] => true
  | item :: rest => isSound item && soundItems rest

def soundFields : List (String × Json) → Bool
  | [] => true
  | (_, item) :: rest => isSound item && soundFields rest

end

end Json

end LiveBuild
