import LiveBuild.Pattern.CodeSet
import LiveBuild.Text.Unicode.Word

/-!
# Patterns

A pattern describes sequences of codes. Matching computes, from a set of positions in a text, the
set of positions where a match that began there can end; a repetition is iterated no more often than
there are positions, since by then the set no longer changes.
-/

namespace LiveBuild

/-- Conditions on a position, which take up no code. -/
inductive Pattern.Condition where
  | start
  | stop
  | lineStart (crlf : Bool)
  | lineStop (crlf : Bool)
  | wordBoundary (unicode : Bool)
  | noWordBoundary (unicode : Bool)
  | wordStart (unicode : Bool)
  | wordStop (unicode : Bool)
  | wordStartHalf (unicode : Bool)
  | wordStopHalf (unicode : Bool)
deriving DecidableEq, Repr

inductive Pattern where
  | empty
  | oneOf (codes : CodeSet)
  | condition (c : Pattern.Condition)
  | sequence (first second : Pattern)
  | choice (first second : Pattern)
  | repetition (body : Pattern) (least : Nat) (most? : Option Nat)
deriving Repr, Inhabited

namespace Pattern

def isWordCode (unicode : Bool) (code : Nat) : Bool :=
  if unicode then Unicode.isWord (Char.ofNat code)
  else (48 ≤ code && code ≤ 57) || (65 ≤ code && code ≤ 90) || (97 ≤ code && code ≤ 122) ||
    code == 95

def before? (text : Array Nat) (i : Nat) : Option Nat := if i = 0 then none else text[i - 1]?

namespace Condition

/-- Whether a condition holds between the codes before and behind a position. -/
def holdsBetween (before? after? : Option Nat) : Condition → Bool
  | start => before?.isNone
  | stop => after?.isNone
  | lineStart false => before?.all (· == 10)
  | lineStart true =>
      before?.all fun code => code == 10 || (code == 13 && after? != some 10)
  | lineStop false => after?.all (· == 10)
  | lineStop true =>
      after?.all fun code => code == 13 || (code == 10 && before? != some 13)
  | wordBoundary unicode => word before? unicode != word after? unicode
  | noWordBoundary unicode => word before? unicode == word after? unicode
  | wordStart unicode => !word before? unicode && word after? unicode
  | wordStop unicode => word before? unicode && !word after? unicode
  | wordStartHalf unicode => !word before? unicode
  | wordStopHalf unicode => !word after? unicode
where
  word (code? : Option Nat) (unicode : Bool) : Bool := code?.any (isWordCode unicode)

end Condition

def all (patterns : List Pattern) : Pattern :=
  match patterns with
  | [] => empty
  | first :: rest => rest.foldl sequence first

def any (patterns : List Pattern) : Pattern :=
  match patterns with
  | [] => oneOf CodeSet.empty
  | first :: rest => rest.foldl choice first

def mergePositions (a b : List Nat) : List Nat := (a ++ b).mergeSort.eraseDups

def iterate (step : List Nat → List Nat) : Nat → List Nat → List Nat
  | 0, positions => positions
  | n + 1, positions => iterate step n (step positions)

/-- Apply a function again and again, collecting every result, as long as something new appears. -/
def closure (step : List Nat → List Nat) : Nat → List Nat → List Nat
  | 0, seen => seen
  | fuel + 1, seen =>
      let next := mergePositions seen (step seen)
      if next.length = seen.length then seen else closure step fuel next

/-- The positions where a match that begins at one of some positions can end. -/
def ends (text : Array Nat) : Pattern → List Nat → List Nat
  | empty, starts => starts
  | oneOf codes, starts =>
      starts.filterMap fun i =>
        match text[i]? with
        | some code => if codes.contains code then some (i + 1) else none
        | none => none
  | condition c, starts => starts.filter fun i => c.holdsBetween (before? text i) text[i]?
  | sequence first second, starts => second.ends text (first.ends text starts)
  | choice first second, starts => mergePositions (first.ends text starts) (second.ends text starts)
  | repetition body least most?, starts =>
      let bound := text.size + 2
      let begun := iterate (body.ends text) (min least bound) starts
      match most? with
      | none => closure (body.ends text) bound begun
      | some most => closure (body.ends text) (min (most - least) bound) begun

def occursIn (p : Pattern) (text : Array Nat) : Bool :=
  !(p.ends text (List.range (text.size + 1))).isEmpty

def matchesAll (p : Pattern) (text : Array Nat) : Bool :=
  (p.ends text [0]).contains text.size

end Pattern

end LiveBuild
