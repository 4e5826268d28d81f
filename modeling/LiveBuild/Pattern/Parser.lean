import LiveBuild.Pattern.Basic
import LiveBuild.Pattern.Property

/-!
# Reading patterns

The notation: literals, escapes, classes in brackets with nesting and set operations, groups with
names and flags, alternatives, repetitions. There are no look-arounds and no references back to
groups. Nesting and expanded size are limited.
-/

namespace LiveBuild.Pattern

open Unicode (isSpace isWord)

structure Flags where
  ignoreCase : Bool := false
  multiLine : Bool := false
  dotAll : Bool := false
  unicode : Bool := true
  crlf : Bool := false
  extended : Bool := false
deriving Inhabited

structure Reader where
  rest : List Char
  flags : Flags := {}
  /-- The group names used so far. -/
  names : List (List Char) := []
deriving Inhabited

abbrev Read := StateT Reader Option

/-- A pattern with the nesting of its notation. -/
structure Parsed where
  pattern : Pattern
  depth : Nat
deriving Inhabited

namespace Read

def fail {α : Type} : Read α := fun _ => none

def rest : Read (List Char) := return (← get).rest

def setRest (rest : List Char) : Read Unit := modify fun r => { r with rest }

def flags : Read Flags := return (← get).flags

/-- Blanks and comments, which an extended pattern may hold anywhere. -/
def dropBlanks : Bool → List Char → List Char
  | _, [] => []
  | true, c :: rest => dropBlanks (c ≠ '\n') rest
  | false, c :: rest =>
      if isSpace c then dropBlanks false rest
      else if c = '#' then dropBlanks true rest
      else c :: rest

def skipBlanks : Read Unit := do
  if (← flags).extended then
    modify fun r => { r with rest := dropBlanks false r.rest }

/-- Drop the next character and the blanks behind it. -/
def advance : Read Unit := do
  setRest ((← rest).drop 1)
  skipBlanks

def peek? : Read (Option Char) := return (← rest).head?

def peek : Read Char := do
  match ← peek? with
  | some c => return c
  | none => fail

def take (text : String) : Read Bool := do
  let rest ← rest
  if text.toList.isPrefixOf rest then
    setRest (rest.drop text.toList.length)
    return true
  else
    return false

end Read

open Read

def digitValue? (c : Char) : Option Nat :=
  if '0' ≤ c ∧ c ≤ '9' then some (c.toNat - 48) else none

def takeDigits : Nat → Read (List Char)
  | 0 => return []
  | fuel + 1 => do
      match ← peek? with
      | some c =>
          if (digitValue? c).isSome then
            advance
            return c :: (← takeDigits fuel)
          else
            return []
      | none => return []

def dropSpaces : Read Unit := modify fun r => { r with rest := r.rest.dropWhile isSpace }

/-- A number of 32 bits, with blanks around it; none if there is no digit. -/
def decimal? : Read (Option Nat) := do
  dropSpaces
  let digits ← takeDigits (← rest).length
  dropSpaces
  skipBlanks
  if digits.isEmpty then
    return none
  let n := digits.foldl (fun n c => 10 * n + (c.toNat - 48)) 0
  if n < UInt32.size then return some n else fail

def codeChar (n : Nat) : Read Char :=
  if n < 0xD800 ∨ (0xDFFF < n ∧ n < 0x110000) then return Char.ofNat n else fail

def hexValueOf (digits : List Char) : Option Nat :=
  digits.foldlM (fun n c => (Unicode.hexDigit? c).map (16 * n + ·)) 0

def takeHex : Nat → Read (List Char)
  | 0 => return []
  | n + 1 => do
      let c ← peek
      if (Unicode.hexDigit? c).isNone then
        fail
      advance
      return c :: (← takeHex n)

def takeUntil (close : Char) : Nat → Read (List Char)
  | 0 => fail
  | fuel + 1 => do
      let c ← peek
      if c = close then
        return []
      advance
      return c :: (← takeUntil close fuel)

/-- A character given by its code, in a fixed number of digits or in braces. Two digits stand for a
byte where the flags ask for no Unicode, and a byte beyond ASCII is no text. -/
def hexChar (digits : Nat) : Read Char := do
  advance
  if (← peek) = '\x7b' then
    advance
    let text ← takeUntil '\x7d' ((← rest).length + 1)
    advance
    match hexValueOf text with
    | some n => if text.isEmpty then fail else codeChar n
    | none => fail
  else
    let isByte := digits = 2 ∧ !(← flags).unicode
    match hexValueOf (← takeHex digits) with
    | some n => if isByte ∧ 127 < n then fail else codeChar n
    | none => fail

inductive Escape where
  | literal (c : Char)
  | class (codes : CodeSet)
  | condition (c : Condition)

/-- The cases of a set under the flags, and its complement if asked for. -/
def closeSet (negated : Bool) (codes : CodeSet) : Read CodeSet := do
  let flags ← flags
  let codes :=
    if flags.ignoreCase then
      if flags.unicode then codes.foldCase else codes.foldAsciiCase
    else codes
  if negated then
    if flags.unicode then return codes.complement else fail
  else
    return codes

def splitAt? (mark : List Char) : List Char → Option (List Char × List Char)
  | [] => none
  | c :: rest =>
      if mark.isPrefixOf (c :: rest) then some ([], (c :: rest).drop mark.length)
      else (splitAt? mark rest).map fun parts => (c :: parts.1, parts.2)

/-- A property in braces, or of one letter. -/
def propertyClass (negated : Bool) : Read CodeSet := do
  unless (← flags).unicode do
    fail
  advance
  let (negated, codes?) ← (do
    if (← peek) = '\x7b' then
      advance
      let text ← takeUntil '\x7d' ((← rest).length + 1)
      setRest ((← rest).drop 1)
      match splitAt? ['!', '='] text with
      | some (property, value) => return (!negated, valued? property value)
      | none =>
          match splitAt? [':'] text <|> splitAt? ['='] text with
          | some (property, value) => return (negated, valued? property value)
          | none => return (negated, named? text)
    else
      let c ← peek
      if c = '\\' then
        fail
      advance
      return (negated, named? [c]) : Read (Bool × Option CodeSet))
  match codes? with
  | some codes => closeSet negated codes
  | none => fail

/-- Letters for digits, blanks and word characters; a capital stands for all others. -/
def letterClass (letter : Char) : Read CodeSet := do
  let unicode := (← flags).unicode
  let codes :=
    match letter.toLower with
    | 'd' => if unicode then digits else asciiDigits
    | 's' => if unicode then spaces else asciiSpaces
    | _ => if unicode then wordCodes else asciiWord
  if letter.isUpper then
    if unicode then return codes.complement else fail
  else
    return codes

def boundaryName? (name : String) (unicode : Bool) : Option Condition :=
  match name with
  | "start" => some (.wordStart unicode)
  | "end" => some (.wordStop unicode)
  | "start-half" => some (.wordStartHalf unicode)
  | "end-half" => some (.wordStopHalf unicode)
  | _ => none

def isBoundaryChar (c : Char) : Bool := c.isAlpha || c = '-'

/-- A boundary, or one of its named kinds in braces. Braces that begin with anything but a letter or
hyphen are left as a repetition. -/
def boundary : Read Condition := do
  let unicode := (← flags).unicode
  let before ← get
  if (← peek?) = some '\x7b' then
    advance
    let c ← peek
    if isBoundaryChar c then
      let name ← takeUntil '\x7d' ((← rest).length + 1)
      setRest ((← rest).drop 1)
      match boundaryName? (String.ofList name) unicode with
      | some c => return c
      | none => fail
    else
      set before
      return .wordBoundary unicode
  else
    return .wordBoundary unicode

def isPlainEscape (c : Char) : Bool :=
  c.toNat < 128 && !c.isAlphanum && c ≠ '<' && c ≠ '>'

def escape : Read Escape := do
  let c ← peek
  match c with
  | 'x' => return .literal (← hexChar 2)
  | 'u' => return .literal (← hexChar 4)
  | 'U' => return .literal (← hexChar 8)
  | 'p' => return .class (← propertyClass false)
  | 'P' => return .class (← propertyClass true)
  | _ =>
      setRest ((← rest).drop 1)
      let unicode := (← flags).unicode
      if ['d', 's', 'w', 'D', 'S', 'W'].contains c then
        return .class (← letterClass c)
      else if isPlainEscape c then
        return .literal c
      else
        match c with
        | 'a' => return .literal '\x07'
        | 'f' => return .literal '\x0c'
        | 't' => return .literal '\t'
        | 'n' => return .literal '\n'
        | 'r' => return .literal '\r'
        | 'v' => return .literal '\x0b'
        | 'A' => return .condition .start
        | 'z' => return .condition .stop
        | 'b' => return .condition (← boundary)
        | 'B' => return .condition (.noWordBoundary unicode)
        | '<' => return .condition (.wordStart unicode)
        | '>' => return .condition (.wordStop unicode)
        | _ => fail

/-- A character as a member of a class, where no Unicode means ASCII only. -/
def classChar (c : Char) : Read (Char ⊕ CodeSet) := do
  if 127 < c.toNat ∧ !(← flags).unicode then fail else return .inl c

/-- A member of a class: a character, or a whole set. -/
def classItem : Read (Char ⊕ CodeSet) := do
  let c ← peek
  setRest ((← rest).drop 1)
  if c = '\\' then
    match ← escape with
    | .literal c => classChar c
    | .class codes => return .inr codes
    | .condition _ => fail
  else
    classChar c

def nextButBlanks? : Read (Option Char) := do
  let flags ← flags
  let rest := (← rest).drop 1
  return (if flags.extended then dropBlanks false rest else rest).head?

/-- A member of a class or a range between two characters. -/
def classRange : Read CodeSet := do
  let first ← classItem
  skipBlanks
  let c ← peek
  let next? ← nextButBlanks?
  if c ≠ '-' ∨ next? = some ']' ∨ next? = some '-' then
    match first with
    | .inl c => return CodeSet.single c.toNat
    | .inr codes => return codes
  else
    advance
    discard peek
    match first, ← classItem with
    | .inl low, .inl high => if low ≤ high then return ⟨[(low.toNat, high.toNat)]⟩ else fail
    | _, _ => fail

/-- A class named between colons, if that is what comes next. -/
def namedClass? : Read (Option CodeSet) := do
  match ← rest with
  | '[' :: ':' :: more =>
      let (negated, more) := match more with
        | '^' :: more => (true, more)
        | _ => (false, more)
      match more.span (· ≠ ':') with
      | (name, ':' :: ']' :: after) =>
          match asciiClass? (String.ofList name) with
          | some codes =>
              setRest after
              return some (← closeSet negated codes)
          | none => return none
      | _ => return none
  | _ => return none

inductive SetOperation where
  | intersection
  | difference
  | symmetricDifference

def SetOperation.apply : SetOperation → CodeSet → CodeSet → CodeSet
  | intersection => CodeSet.intersection
  | difference => CodeSet.difference
  | symmetricDifference => CodeSet.symmetricDifference

/-- The operation between the set so far and the set that is being read. -/
structure OpenClass where
  negated : Bool
  pending? : Option (CodeSet × SetOperation) := none
  codes : CodeSet := {}

def OpenClass.add (c : OpenClass) (codes : CodeSet) : OpenClass :=
  { c with codes := c.codes.union codes }

def OpenClass.value (c : OpenClass) : Read CodeSet := do
  match c.pending? with
  | none => return c.codes
  | some (left, operation) =>
      let fold (codes : CodeSet) : Read CodeSet := closeSet false codes
      return operation.apply (← fold left) (← fold c.codes)

def OpenClass.operate (c : OpenClass) (operation : SetOperation) : Read OpenClass := do
  return { c with pending? := some (← c.value, operation), codes := {} }

def takeHyphens : Nat → CodeSet → Read CodeSet
  | 0, codes => return codes
  | fuel + 1, codes => do
      if (← peek) = '-' then
        advance
        discard peek
        takeHyphens fuel (codes.union (CodeSet.single '-'.toNat))
      else
        return codes

/-- The beginning of a class: its bracket, a caret, and what counts as literal there. -/
def openClass : Read OpenClass := do
  advance
  let negated := (← peek) = '^'
  if negated then
    advance
    discard peek
  let codes ← takeHyphens (← rest).length {}
  if codes.ranges.isEmpty ∧ (← peek) = ']' then
    advance
    discard peek
    return { negated, codes := CodeSet.single ']'.toNat }
  else
    return { negated, codes }

/-- A class in brackets; the classes that enclose the one being read are on a stack. -/
def bracketed : Nat → OpenClass → List OpenClass → Nat → Read (CodeSet × Nat)
  | 0, _, _, _ => fail
  | fuel + 1, current, outer, depth => do
      skipBlanks
      match ← rest with
      | [] => fail
      | '[' :: _ =>
          match ← namedClass? with
          | some codes => bracketed fuel (current.add codes) outer depth
          | none =>
              let inner ← openClass
              bracketed fuel inner (current :: outer) (max depth (outer.length + 2))
      | ']' :: _ =>
          setRest ((← rest).drop 1)
          let codes ← closeSet current.negated (← current.value)
          match outer with
          | [] => return (codes, depth)
          | enclosing :: outer => bracketed fuel (enclosing.add codes) outer depth
      | '&' :: '&' :: _ =>
          setRest ((← rest).drop 2)
          bracketed fuel (← current.operate .intersection) outer depth
      | '-' :: '-' :: _ =>
          setRest ((← rest).drop 2)
          bracketed fuel (← current.operate .difference) outer depth
      | '~' :: '~' :: _ =>
          setRest ((← rest).drop 2)
          bracketed fuel (← current.operate .symmetricDifference) outer depth
      | _ =>
          let codes ← classRange
          bracketed fuel (current.add codes) outer depth

def classPattern : Read Parsed := do
  let current ← openClass
  let (codes, depth) ← bracketed ((← rest).length + 1) current [] 1
  return ⟨.oneOf codes, depth⟩

/-- A set flag, or the sign that the following flags are cleared. -/
def applyFlag (flags : Flags) (value : Bool) : Char → Option Flags
  | 'i' => some { flags with ignoreCase := value }
  | 'm' => some { flags with multiLine := value }
  | 's' => some { flags with dotAll := value }
  | 'u' => some { flags with unicode := value }
  | 'R' => some { flags with crlf := value }
  | 'x' => some { flags with extended := value }
  | 'U' => some flags
  | _ => none

/-- The flags up to a colon or a closing parenthesis; none may occur twice. -/
def readFlags : Nat → List Char → Flags → Read (Flags × List Char)
  | 0, _, _ => fail
  | fuel + 1, seen, flags => do
      let c ← peek
      if c = ':' ∨ c = ')' then
        if seen.head? = some '-' then fail else return (flags, seen)
      else if seen.contains c then
        fail
      else
        advance
        if c = '-' then
          readFlags fuel (c :: seen) flags
        else
          match applyFlag flags (!seen.contains '-') c with
          | some flags => readFlags fuel (c :: seen) flags
          | none => fail

def isNameChar (isFirst : Bool) (c : Char) : Bool :=
  if isFirst then
    c = '_' || Unicode.alphabeticRanges.contains c.toNat
  else
    c = '_' || c = '.' || c = '[' || c = ']' || Unicode.alphabeticRanges.contains c.toNat ||
      ["Nd", "Nl", "No"].contains (Unicode.category c.toNat)

def groupName : Read Unit := do
  let (name, rest) := (← rest).span (· ≠ '>')
  match name, rest with
  | first :: others, _ :: rest =>
      if isNameChar true first && others.all (isNameChar false) && !(← get).names.contains name then
        modify fun r => { r with rest, names := name :: r.names }
      else
        fail
  | _, _ => fail

def literalPattern (c : Char) : Read Pattern := do
  let flags ← flags
  if !flags.unicode && 127 < c.toNat then
    return Pattern.oneOf (CodeSet.single c.toNat)
  else
    return .oneOf (← closeSet false (CodeSet.single c.toNat))

def dotPattern : Read Pattern := do
  let flags ← flags
  unless flags.unicode do
    fail
  if flags.dotAll then return .oneOf CodeSet.full
  else if flags.crlf then return .oneOf (CodeSet.complement ⟨[(10, 10), (13, 13)]⟩)
  else return .oneOf (CodeSet.single 10).complement

/-- A pattern that takes up one place: a character, a class, a condition. -/
def primitive : Read Parsed := do
  let c ← peek
  setRest ((← rest).drop 1)
  let flags ← flags
  match c with
  | '\\' =>
      match ← escape with
      | .literal c => return ⟨← literalPattern c, 0⟩
      | .class codes => return ⟨.oneOf codes, 0⟩
      | .condition c => return ⟨.condition c, 0⟩
  | '.' => return ⟨← dotPattern, 0⟩
  | '^' => return ⟨.condition (if flags.multiLine then .lineStart flags.crlf else .start), 0⟩
  | '$' => return ⟨.condition (if flags.multiLine then .lineStop flags.crlf else .stop), 0⟩
  | c => return ⟨← literalPattern c, 0⟩

/-- Drop the mark of a repetition that prefers fewer rounds; it decides nothing here. -/
def dropPreference : Read Unit := do
  if (← peek?) = some '?' then
    setRest ((← rest).drop 1)

/-- The bounds of a counted repetition in braces. -/
def counts : Read (Nat × Option Nat) := do
  advance
  discard peek
  let least? ← decimal?
  let c ← peek
  let bounds ← (do
    if c = ',' then
      advance
      match least? with
      | none => fail
      | some least =>
          if (← peek) = '\x7d' then
            return (least, none)
          else
            match ← decimal? with
            | some most => if least ≤ most then return (least, some most) else fail
            | none => fail
    else
      match least? with
      | some n => return (n, some n)
      | none => fail : Read (Nat × Option Nat))
  if (← peek) ≠ '\x7d' then
    fail
  advance
  dropPreference
  return bounds

/-- A part of a sequence; a change of flags takes part in it but cannot be repeated. -/
inductive Part where
  | flags
  | parsed (p : Parsed)

def Part.depth : Part → Nat
  | flags => 0
  | parsed p => p.depth

def Part.pattern : Part → Pattern
  | flags => .empty
  | parsed p => p.pattern

def sequenceOf (parts : List Part) : Parsed :=
  match parts with
  | [] => ⟨.empty, 0⟩
  | [part] => ⟨part.pattern, part.depth⟩
  | _ => ⟨Pattern.all (parts.map Part.pattern), 1 + (parts.map Part.depth).foldl max 0⟩

def choiceOf (branches : List Parsed) : Parsed :=
  match branches with
  | [branch] => branch
  | _ => ⟨any (branches.map Parsed.pattern), 1 + (branches.map Parsed.depth).foldl max 0⟩

/-- Put a repetition around the last part read. -/
def repeatLast (parts : List Part) (least : Nat) (most? : Option Nat) : Read (List Part) :=
  match parts with
  | .parsed p :: before => return .parsed ⟨.repetition p.pattern least most?, p.depth + 1⟩ :: before
  | _ => fail

def canRepeat : List Part → Bool
  | .parsed _ :: _ => true
  | _ => false

/-- Read up to the end of a group or of the text. `parts` is the current sequence, the last part
first, and `branches` are the finished alternatives, the last one first. -/
def group : Nat → List Part → List Parsed → Read Parsed
  | 0, _, _ => fail
  | fuel + 1, parts, branches => do
      skipBlanks
      let close : Parsed := choiceOf (sequenceOf parts.reverse :: branches).reverse
      match ← rest with
      | [] => return close
      | ')' :: _ => return close
      | '|' :: rest =>
          setRest rest
          group fuel [] (sequenceOf parts.reverse :: branches)
      | '(' :: _ =>
          let outer ← flags
          advance
          let rest ← rest
          if ['?', '='].isPrefixOf rest || ['?', '!'].isPrefixOf rest ||
              ['?', '<', '='].isPrefixOf rest || ['?', '<', '!'].isPrefixOf rest then
            fail
          let isInner ← (do
            if (← take "?P<") || (← take "?<") then
              groupName
              return true
            else if ← take "?" then
              let (flags, seen) ← readFlags ((← Read.rest).length + 1) [] outer
              let isInner := (← peek) = ':'
              setRest ((← Read.rest).drop 1)
              if !isInner && seen.isEmpty then
                fail
              modify fun r => { r with flags }
              return isInner
            else
              return true : Read Bool)
          if isInner then
            let inner ← group fuel [] []
            match ← Read.rest with
            | ')' :: rest =>
                modify fun r => { r with rest, flags := outer }
                group fuel (.parsed ⟨inner.pattern, inner.depth + 1⟩ :: parts) branches
            | _ => fail
          else
            group fuel (.flags :: parts) branches
      | '[' :: _ =>
          let p ← classPattern
          group fuel (.parsed p :: parts) branches
      | '*' :: rest =>
          setRest rest
          dropPreference
          group fuel (← repeatLast parts 0 none) branches
      | '+' :: rest =>
          setRest rest
          dropPreference
          group fuel (← repeatLast parts 1 none) branches
      | '?' :: rest =>
          setRest rest
          dropPreference
          group fuel (← repeatLast parts 0 (some 1)) branches
      | '\x7b' :: _ =>
          unless canRepeat parts do
            fail
          let (least, most?) ← counts
          group fuel (← repeatLast parts least most?) branches
      | _ =>
          let p ← primitive
          group fuel (.parsed p :: parts) branches

def maxDepth : Nat := 250

/-- How many states the pattern has when its repetitions are written out. -/
def states : Pattern → Nat
  | .empty => 1
  | .oneOf codes =>
      max 1 (codes.ranges.foldl (fun n range => n + (if range.2 < 128 then 1 else 3)) 0)
  | .condition _ => 1
  | .sequence first second => first.states + second.states
  | .choice first second => first.states + second.states + 1
  | .repetition body least most? =>
      match most? with
      | none => body.states * max 1 least + 1
      | some most => (body.states + 1) * most + 1

def maxStates : Nat := 320000

def parse? (text : String) : Option Pattern :=
  let cs := text.toList
  match (group (2 * cs.length + 2) [] []).run { rest := cs } with
  | some (parsed, reader) =>
      if reader.rest.isEmpty && parsed.depth ≤ maxDepth && parsed.pattern.states ≤ maxStates then
        some parsed.pattern
      else
        none
  | none => none

def occursInText (p : Pattern) (text : String) : Bool :=
  p.occursIn (text.toList.map Char.toNat).toArray

end LiveBuild.Pattern
