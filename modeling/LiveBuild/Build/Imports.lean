import LiveBuild.Text.Unicode.Ranges
import LiveBuild.Text.Unicode.Word

/-!
# Imports of a source text

A source names what it imports in statements of a few forms. A statement begins with its keyword
where no word is running; the text between keyword and specifier is checked only for the characters
it may hold. Reading goes on behind a statement that was found, else behind the next character.
-/

namespace LiveBuild.Imports

open Unicode (isWord isSpace)

def isQuote (c : Char) : Bool := c = '"' || c = '\''

/-- Characters of the names between a keyword and its specifier. -/
def isClause (c : Char) : Bool :=
  isWord c || isSpace c || c = '*' || c = '$' || c = '\x7b' || c = '\x7d' || c = ','

def isIdent (c : Char) : Bool := isWord c || c = '$'

def isInner (c : Char) : Bool := !isQuote c && c ≠ '\n'

def keyword? (word : String) (cs : List Char) : Option (List Char) :=
  if word.toList.isPrefixOf cs then some (cs.drop word.toList.length) else none

def skipSpaces (cs : List Char) : List Char := cs.dropWhile isSpace

def spaces? : List Char → Option (List Char)
  | c :: rest => if isSpace c then some (skipSpaces rest) else none
  | [] => none

def char? (c : Char) : List Char → Option (List Char)
  | d :: rest => if d = c then some rest else none
  | [] => none

/-- A specifier in quotes, which need not be of one kind, with what follows it. -/
def quoted? : List Char → Option (List Char × List Char)
  | q :: rest =>
      if isQuote q then
        match rest.span isInner with
        | (spec, close :: after) =>
            if isQuote close && !spec.isEmpty then some (spec, after) else none
        | _ => none
      else
        none
  | [] => none

/-- The text between the keyword and the specifier: blank, or names followed by `from`, where names
and `from` stand apart. -/
def isBinding (clause : List Char) : Bool :=
  let trailing := clause.reverse.takeWhile isSpace
  let words := clause.reverse.dropWhile isSpace
  if trailing.isEmpty then
    false
  else
    match words with
    | [] => true
    | 'm' :: 'o' :: 'r' :: 'f' :: names =>
        2 < names.length && names.head?.any isSpace && names.getLast?.any isSpace
    | _ => false

def importStatement? (cs : List Char) : Option (List Char × List Char) := do
  let rest ← keyword? "import" cs
  let (clause, rest) := rest.span isClause
  if isBinding clause then quoted? rest else none

/-- The closing part of an export that names its source. -/
def fromSource? (cs : List Char) : Option (List Char × List Char) := do
  quoted? (← spaces? (← keyword? "from" (skipSpaces cs)))

/-- The rest of a star export that gives the whole a name. A name that ends in `from` may lend it to
the source. -/
def named? (cs : List Char) : Option (List Char × List Char) := do
  let rest ← spaces? (← keyword? "as" (← spaces? cs))
  let (name, rest) := rest.span isIdent
  if name.isEmpty then
    none
  match fromSource? rest with
  | some found => some found
  | none =>
      if 4 < name.length && ['m', 'o', 'r', 'f'].isPrefixOf name.reverse then
        quoted? (← spaces? rest)
      else
        none

def exportStatement? (cs : List Char) : Option (List Char × List Char) := do
  let rest ← spaces? (← keyword? "export" cs)
  match rest with
  | '*' :: rest =>
      match named? rest with
      | some found => some found
      | none => fromSource? rest
  | '\x7b' :: rest =>
      match rest.dropWhile (· ≠ '\x7d') with
      | _ :: rest => fromSource? rest
      | [] => none
  | _ => none

def callStatement? (name : String) (cs : List Char) : Option (List Char × List Char) := do
  let rest ← char? '(' (skipSpaces (← keyword? name cs))
  let (spec, rest) ← quoted? (skipSpaces rest)
  return (spec, ← char? ')' (skipSpaces rest))

/-- A statement at the beginning of a text: its specifier, and the text behind it. -/
def statement? (cs : List Char) : Option (List Char × List Char) :=
  importStatement? cs <|> exportStatement? cs <|> callStatement? "import" cs <|>
    callStatement? "require" cs

/-- The specifiers of a text in order. `afterWord` says whether a word character stands before it;
the first `skip` characters belong to a statement that was found already. -/
def specifiers (afterWord : Bool) : Nat → List Char → List (List Char)
  | _, [] => []
  | skip + 1, c :: rest => specifiers (isWord c) skip rest
  | 0, c :: rest =>
      match if afterWord then none else statement? (c :: rest) with
      | some (spec, after) =>
          spec :: specifiers (isWord c) (rest.length - after.length) rest
      | none => specifiers (isWord c) 0 rest

def distinct : List (List Char) → List (List Char)
  | [] => []
  | item :: rest => item :: (distinct rest).filter (· ≠ item)

/-- The specifiers of a source in order of first appearance. -/
def scan (source : String) : List String :=
  (distinct (specifiers false 0 source.toList)).map String.ofList

/-- Specifiers that begin with a dot name files near the importer. -/
def isLocal (specifier : String) : Bool := specifier.toList.head? == some '.'

end LiveBuild.Imports
