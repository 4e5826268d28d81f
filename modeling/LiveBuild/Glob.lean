import LiveBuild.Path.Basic
import LiveBuild.Pattern.Basic

/-!
# Globs

A glob describes paths by their spelling. A star stands for any text, slashes included; two stars
between slashes stand for any number of directories, also none. Braces hold alternatives, brackets
classes of characters, and a backslash makes the next character stand for itself. Matching is on
bytes.
-/

namespace LiveBuild

inductive Glob.Token where
  | literal (c : Char)
  | anyOne
  | anyText
  | leading
  | trailing
  | between
  | oneOf (negated : Bool) (ranges : List (Char × Char))
  | alternatives (branches : List (List Glob.Token))
deriving Inhabited, Repr

inductive Glob.Error where
  | unclosedClass
  | invalidRange (low high : Char)
  | unopenedAlternatives
  | unclosedAlternatives
  | danglingEscape
deriving DecidableEq, Repr

structure Glob where
  text : String
  tokens : List Glob.Token
deriving Inhabited

namespace Glob

def Error.message : Error → String
  | unclosedClass => "unclosed character class; missing ']'"
  | invalidRange low high =>
      "invalid range; '" ++ String.singleton low ++ "' > '" ++ String.singleton high ++ "'"
  | unopenedAlternatives =>
      "unopened alternate group; missing '\x7b' (maybe escape '\x7d' with '[\x7d]'?)"
  | unclosedAlternatives =>
      "unclosed alternate group; missing '\x7d' (maybe escape '\x7b' with '[\x7b]'?)"
  | danglingEscape => "dangling '\\'"

def Error.messageFor (e : Error) (text : String) : String :=
  "error parsing glob '" ++ text ++ "': " ++ e.message

/-- The members of a class up to its closing bracket. A bracket or hyphen that comes first stands
for itself, and so does a hyphen that comes last. -/
def readClass : List Char → Bool → Bool → List (Char × Char) →
    Except Error (List (Char × Char) × List Char)
  | [], _, _, _ => .error .unclosedClass
  | ']' :: rest, isFirst, inRange, ranges =>
      if isFirst then
        readClass rest false inRange ((']', ']') :: ranges)
      else
        .ok ((if inRange then ('-', '-') :: ranges else ranges).reverse, rest)
  | '-' :: rest, true, inRange, ranges => readClass rest false inRange (('-', '-') :: ranges)
  | '-' :: rest, false, false, ranges => readClass rest false true ranges
  | c :: rest, _, inRange, ranges =>
      if inRange then
        match ranges with
        | (low, _) :: others =>
            if c < low then .error (.invalidRange low c)
            else readClass rest false false ((low, c) :: others)
        | [] => readClass rest false false [(c, c)]
      else
        readClass rest false false ((c, c) :: ranges)

abbrev Branch := List Token

/-- The reader's state: the branch being read, the finished branches of the innermost group, and the
groups around it, each with the branch that it stands in. -/
structure Reader where
  current : Branch := []
  finished : List Branch := []
  outer : List (Branch × List Branch) := []

namespace Reader

def inGroup (r : Reader) : Bool := !r.outer.isEmpty

def push (r : Reader) (token : Token) : Reader := { r with current := token :: r.current }

/-- Begin a group: what was being read waits for its end. -/
def openGroup (r : Reader) : Reader :=
  { current := [], finished := [], outer := (r.current, r.finished) :: r.outer }

def closeGroup (r : Reader) : Except Error Reader :=
  match r.outer with
  | [] => .error .unopenedAlternatives
  | (enclosing, finished) :: outer =>
      let branches := (r.current :: r.finished).reverse.map List.reverse
      .ok { current := .alternatives branches :: enclosing, finished, outer }

def nextBranch (r : Reader) : Reader :=
  { r with current := [], finished := r.current :: r.finished }

/-- What two stars stand for, given the character before them and the text behind them. -/
def pushStars (r : Reader) (previous? : Option Char) (rest : List Char) : Reader × List Char :=
  let plain := (r.push .anyText).push .anyText
  if r.current.isEmpty then
    match rest with
    | [] => (r.push .leading, [])
    | '/' :: rest => (r.push .leading, rest)
    | _ => (plain, rest)
  else if previous? ≠ some '/' then
    (plain, rest)
  else
    let swap (token : Token) : Reader :=
      match r.current with
      | .leading :: _ => r
      | .trailing :: _ => r
      | _ :: before => { r with current := token :: before }
      | [] => r
    match rest with
    | [] => (swap .trailing, [])
    | '/' :: more => (swap .between, more)
    | c :: _ =>
        if r.inGroup && (c = ',' || c = '\x7d') then (swap .trailing, rest) else (plain, rest)

end Reader

/-- Read a glob; `fuel` bounds the number of characters. -/
def read : Nat → Reader → Option Char → List Char → Except Error Reader
  | 0, r, _, _ => .ok r
  | _, r, _, [] => .ok r
  | fuel + 1, r, previous?, c :: rest =>
      match c with
      | '?' => read fuel (r.push .anyOne) (some c) rest
      | '*' =>
          match rest with
          | '*' :: rest =>
              let (r, after) := r.pushStars previous? rest
              let previous := if after.length < rest.length then '/' else '*'
              read fuel r (some previous) after
          | _ => read fuel (r.push .anyText) (some c) rest
      | '[' => do
          let (negated, body) := match rest with
            | '!' :: body => (true, body)
            | '^' :: body => (true, body)
            | _ => (false, rest)
          let (ranges, rest) ← readClass body true false []
          read fuel (r.push (.oneOf negated ranges)) (some ']') rest
      | '\x7b' => read fuel r.openGroup (some c) rest
      | '\x7d' => do read fuel (← r.closeGroup) (some c) rest
      | ',' => read fuel (if r.inGroup then r.nextBranch else r.push (.literal c)) (some c) rest
      | '\\' =>
          match rest with
          | [] => .error .danglingEscape
          | c :: rest => read fuel (r.push (.literal c)) (some c) rest
      | c => read fuel (r.push (.literal c)) (some c) rest

def parse (text : String) : Except Error Glob := do
  let cs := text.toList
  let r ← read (cs.length + 1) {} none cs
  if r.inGroup then
    throw .unclosedAlternatives
  return ⟨text, r.current.reverse⟩

def bytesOf (c : Char) : List Nat := (String.singleton c).toUTF8.toList.map UInt8.toNat

def anyByte : Pattern := .oneOf CodeSet.full

def anyBytes : Pattern := .repetition anyByte 0 none

def slash : Pattern := .oneOf (CodeSet.single 47)

def literalPattern (c : Char) : Pattern :=
  Pattern.all ((bytesOf c).map fun byte => .oneOf (CodeSet.single byte))

/-- The byte ranges of a range of characters: of longer characters every byte stands for itself, and
the range runs from the last byte of the first to the first byte of the last. -/
def rangeBytes (range : Char × Char) : List (Nat × Nat) :=
  if range.1 = range.2 then
    (bytesOf range.1).map fun byte => (byte, byte)
  else
    let low := bytesOf range.1
    let high := bytesOf range.2
    (low.dropLast ++ high.drop 1).map (fun byte => (byte, byte)) ++
      [(low.getLast?.getD 0, high.head?.getD 0)]

def classSet (negated : Bool) (ranges : List (Char × Char)) : CodeSet :=
  let codes := CodeSet.ofRanges (ranges.flatMap rangeBytes)
  if negated then codes.complement else codes

mutual

/-- Whether a token stands for no text whatever: alternatives that hold nothing. -/
def Token.isBlank : Token → Bool
  | .alternatives branches => branchesBlank branches
  | _ => false

def tokensBlank : List Token → Bool
  | [] => true
  | token :: rest => token.isBlank && tokensBlank rest

def branchesBlank : List (List Token) → Bool
  | [] => true
  | branch :: rest => tokensBlank branch && branchesBlank rest

end

mutual

def Token.pattern : Token → Pattern
  | .literal c => literalPattern c
  | .anyOne => anyByte
  | .anyText => anyBytes
  | .leading => .choice (.repetition slash 0 (some 1)) (.sequence anyBytes slash)
  | .trailing => .sequence slash anyBytes
  | .between => .choice slash (.sequence slash (.sequence anyBytes slash))
  | .oneOf negated ranges => .oneOf (classSet negated ranges)
  | .alternatives branches =>
      match branchPatterns branches with
      | [] => .empty
      | patterns => Pattern.any patterns

def tokensPattern : List Token → Pattern
  | [] => .empty
  | token :: rest => .sequence token.pattern (tokensPattern rest)

/-- The patterns of the branches that hold anything. -/
def branchPatterns : List (List Token) → List Pattern
  | [] => []
  | branch :: rest =>
      if tokensBlank branch then branchPatterns rest
      else tokensPattern branch :: branchPatterns rest

end

/-- A glob of two stars alone matches everything. -/
def pattern (g : Glob) : Pattern :=
  match g.tokens with
  | [.leading] => anyBytes
  | tokens => tokensPattern tokens

/-- Whether a path has a spelling that the glob describes. -/
def matchesPath (g : Glob) (p : Path) : Bool :=
  g.pattern.matchesAll (p.text.toUTF8.toList.map UInt8.toNat).toArray

end Glob

end LiveBuild
