import LiveBuild.Toml.Document

/-!
# Reading TOML

The reader takes a text line by line: headers, and keys with values. Line ends are a line feed, with
or without a carriage return before it; other control characters are refused everywhere.
-/

namespace LiveBuild.Toml

abbrev Read := StateT (List Char) Option

def fail {α : Type} : Read α := fun _ => none

def isBlank (c : Char) : Bool := c = ' ' || c = '\t'

/-- Characters that may stand in comments and in text between single quotes. -/
def isPlain (c : Char) : Bool := c = '\t' || (32 ≤ c.toNat && c.toNat ≠ 127)

def isBare (c : Char) : Bool := (c.isAlphanum && c.toNat < 128) || c = '_' || c = '-'

def skipBlanks : Read Unit := modify fun cs => cs.dropWhile isBlank

def peek? : Read (Option Char) := return (← get).head?

def take (text : String) : Read Bool := do
  let cs ← get
  if text.toList.isPrefixOf cs then
    set (cs.drop text.toList.length)
    return true
  else
    return false

def expect (text : String) : Read Unit := do
  unless ← take text do
    fail

def takeWhile (keep : Char → Bool) : Read (List Char) := do
  let (taken, rest) := (← get).span keep
  set rest
  return taken

def newline : Read Bool := do
  if ← take "\r\n" then return true else take "\n"

def comment : Read Unit := do
  if ← take "#" then
    discard (takeWhile isPlain)

/-- What may follow a header or a value on its line. -/
def lineEnd : Read Unit := do
  skipBlanks
  comment
  unless (← get).isEmpty do
    unless ← newline do
      fail

/-- Blanks, comments and line ends between the parts of an array. -/
def skipLines : Nat → Read Unit
  | 0 => return ()
  | fuel + 1 => do
      skipBlanks
      comment
      if ← newline then
        skipLines fuel

def hexValue? (c : Char) : Option Nat :=
  if '0' ≤ c ∧ c ≤ '9' then some (c.toNat - 48)
  else if 'a' ≤ c ∧ c ≤ 'f' then some (c.toNat - 87)
  else if 'A' ≤ c ∧ c ≤ 'F' then some (c.toNat - 55)
  else none

def digitsValue? (base : Nat) (digits : List Char) : Option Nat :=
  digits.foldlM (fun n c => do
    let d ← hexValue? c
    if d < base then some (base * n + d) else none) 0

/-- A character given by its code in a fixed number of digits. -/
def codeEscape (count : Nat) : Read Char := do
  let cs ← get
  let digits := cs.take count
  set (cs.drop count)
  if digits.length < count then
    fail
  match digitsValue? 16 digits with
  | some n => if n < 0xD800 ∨ (0xDFFF < n ∧ n < 0x110000) then return Char.ofNat n else fail
  | none => fail

def escape : Read Char := do
  match ← get with
  | c :: rest =>
      set rest
      match c with
      | 'b' => return '\x08'
      | 't' => return '\t'
      | 'n' => return '\n'
      | 'f' => return '\x0c'
      | 'r' => return '\r'
      | '"' => return '"'
      | '\\' => return '\\'
      | 'u' => codeEscape 4
      | 'U' => codeEscape 8
      | _ => fail
  | [] => fail

def basicText : Nat → Read (List Char)
  | 0 => fail
  | fuel + 1 => do
      match ← get with
      | '"' :: rest =>
          set rest
          return []
      | '\\' :: rest =>
          set rest
          let c ← escape
          return c :: (← basicText fuel)
      | c :: rest =>
          unless isPlain c do
            fail
          set rest
          return c :: (← basicText fuel)
      | [] => fail

def literalText : Read (List Char) := do
  let text ← takeWhile fun c => isPlain c && c ≠ '\''
  expect "'"
  return text

/-- The end of a text between triple quotes, which up to two quotes of the text may precede. -/
def tripleEnd? (quote : Char) (cs : List Char) : Option (List Char × List Char) :=
  let quotes := cs.takeWhile (· = quote)
  if 3 ≤ quotes.length ∧ quotes.length ≤ 5 then
    some (quotes.drop 3, cs.drop quotes.length)
  else
    none

/-- Blanks and line ends behind a backslash at the end of a line. -/
def skipContinuation : Nat → Bool → Read Bool
  | 0, found => return found
  | fuel + 1, found => do
      skipBlanks
      if ← newline then skipContinuation fuel true else return found

def basicLines : Nat → Read (List Char)
  | 0 => fail
  | fuel + 1 => do
      let cs ← get
      match tripleEnd? '"' cs with
      | some (last, rest) =>
          set rest
          return last
      | none =>
          match cs with
          | '\\' :: rest =>
              set rest
              if rest.head?.any fun c => isBlank c || c = '\n' || c = '\r' then
                if ← skipContinuation rest.length false then basicLines fuel else fail
              else
                let c ← escape
                return c :: (← basicLines fuel)
          | '\r' :: '\n' :: rest =>
              set rest
              return '\r' :: '\n' :: (← basicLines fuel)
          | c :: rest =>
              unless isPlain c || c = '\n' do
                fail
              if c = '"' ∧ 5 < (cs.takeWhile (· = '"')).length then
                fail
              set rest
              return c :: (← basicLines fuel)
          | [] => fail

def literalLines : Nat → Read (List Char)
  | 0 => fail
  | fuel + 1 => do
      let cs ← get
      match tripleEnd? '\'' cs with
      | some (last, rest) =>
          set rest
          return last
      | none =>
          match cs with
          | '\r' :: '\n' :: rest =>
              set rest
              return '\r' :: '\n' :: (← literalLines fuel)
          | c :: rest =>
              unless isPlain c || c = '\n' do
                fail
              if c = '\'' ∧ 5 < (cs.takeWhile (· = '\'')).length then
                fail
              set rest
              return c :: (← literalLines fuel)
          | [] => fail

def keyPart : Read String := do
  let length := (← get).length
  if ← take "\"" then
    return String.ofList (← basicText (length + 1))
  else if ← take "'" then
    return String.ofList (← literalText)
  else
    let name ← takeWhile isBare
    if name.isEmpty then
      fail
    return String.ofList name

def dottedKey : Nat → Read (List String)
  | 0 => fail
  | fuel + 1 => do
      skipBlanks
      let part ← keyPart
      skipBlanks
      if ← take "." then
        return part :: (← dottedKey fuel)
      else
        return [part]

def ungroup? : List Char → Option (List Char)
  | [] => none
  | [c] => if c = '_' then none else some [c]
  | c :: '_' :: d :: rest =>
      if c = '_' ∨ d = '_' then none else (ungroup? (d :: rest)).map (c :: ·)
  | c :: d :: rest => if c = '_' then none else (ungroup? (d :: rest)).map (c :: ·)
termination_by cs => cs.length

def magnitude? (word : List Char) : Option Nat :=
  match word with
  | '0' :: 'x' :: digits => ungroup? digits >>= digitsValue? 16
  | '0' :: 'o' :: digits => ungroup? digits >>= digitsValue? 8
  | '0' :: 'b' :: digits => ungroup? digits >>= digitsValue? 2
  | _ => do
      let digits ← ungroup? word
      if digits.head? = some '0' ∧ 1 < digits.length then
        none
      digitsValue? 10 digits

/-- An integer; only decimal ones may have a sign. -/
def integer? : List Char → Option Int
  | '+' :: word =>
      if word.all fun c => c.isDigit || c = '_' then (magnitude? word).map Int.ofNat else none
  | '-' :: word =>
      if word.all fun c => c.isDigit || c = '_' then (magnitude? word).map fun n => -Int.ofNat n
      else none
  | word => (magnitude? word).map Int.ofNat

def digitsOnly? (word : List Char) : Option (List Char) := do
  let digits ← ungroup? word
  if digits.all Char.isDigit then some digits else none

def isFloat (word : List Char) : Bool :=
  let unsigned := match word with
    | '+' :: rest => rest
    | '-' :: rest => rest
    | rest => rest
  if unsigned = ['i', 'n', 'f'] ∨ unsigned = ['n', 'a', 'n'] then true
  else
    let (mantissa, exponent) := unsigned.span fun c => c ≠ 'e' && c ≠ 'E'
    let (whole, fraction) := mantissa.span (· ≠ '.')
    let wholeOk := (digitsOnly? whole).any fun digits =>
      !(digits.head? = some '0' && 1 < digits.length)
    let fractionOk := fraction.isEmpty || (digitsOnly? (fraction.drop 1)).isSome
    let exponentDigits := match exponent.drop 1 with
      | '+' :: rest => rest
      | '-' :: rest => rest
      | rest => rest
    let exponentOk := exponent.isEmpty || (digitsOnly? exponentDigits).isSome
    wholeOk && fractionOk && exponentOk && !(fraction.isEmpty && exponent.isEmpty)

def isWordChar (c : Char) : Bool := isBare c || c = '+' || c = '.'

def word : Read Toml := do
  let word ← takeWhile isWordChar
  match integer? word with
  | some n => return .integer n
  | none =>
      if word = "true".toList ∨ word = "false".toList ∨ isFloat word then return .other else fail

mutual

def value : Nat → Read Toml
  | 0 => fail
  | fuel + 1 => do
      let length := (← get).length
      if ← take "\"\"\"" then
        discard newline
        return .text (String.ofList (← basicLines (length + 1)))
      else if ← take "\"" then
        return .text (String.ofList (← basicText (length + 1)))
      else if ← take "'''" then
        discard newline
        return .text (String.ofList (← literalLines (length + 1)))
      else if ← take "'" then
        return .text (String.ofList (← literalText))
      else if ← take "[" then
        return .array (← items fuel)
      else if ← take "\x7b" then
        skipBlanks
        if ← take "\x7d" then
          return .table []
        else
          return .table (entryValues (← inlineEntries fuel []))
      else
        word

def items : Nat → Read (List Toml)
  | 0 => fail
  | fuel + 1 => do
      skipLines ((← get).length + 1)
      if ← take "]" then
        return []
      let item ← value fuel
      skipLines ((← get).length + 1)
      if ← take "," then
        return item :: (← items fuel)
      else
        expect "]"
        return [item]

/-- The rest of a table within braces, which has to hold something. -/
def inlineEntries : Nat → Entries → Read Entries
  | 0, _ => fail
  | fuel + 1, entries => do
      let key ← dottedKey ((← get).length + 1)
      expect "="
      skipBlanks
      let item ← value fuel
      skipBlanks
      match assign false .header item key entries with
      | none => fail
      | some entries =>
          if ← take "," then
            inlineEntries fuel entries
          else
            expect "\x7d"
            return entries

end

/-- The lines of a document. `current` leads to the table that the last header opened. -/
def lines : Nat → List String → Entries → Read Entries
  | 0, _, _ => fail
  | fuel + 1, current, entries => do
      skipBlanks
      match ← get with
      | [] => return entries
      | '#' :: _ =>
          lineEnd
          lines fuel current entries
      | '\n' :: _ =>
          lineEnd
          lines fuel current entries
      | '\r' :: _ =>
          lineEnd
          lines fuel current entries
      | '[' :: '[' :: rest =>
          set rest
          let key ← dottedKey (rest.length + 1)
          expect "]]"
          lineEnd
          match openItem key entries with
          | some entries => lines fuel key entries
          | none => fail
      | '[' :: rest =>
          set rest
          let key ← dottedKey (rest.length + 1)
          expect "]"
          lineEnd
          match openTable key entries with
          | some entries => lines fuel key entries
          | none => fail
      | cs =>
          let key ← dottedKey (cs.length + 1)
          expect "="
          skipBlanks
          let item ← value (cs.length + 1)
          lineEnd
          match within (assign false .header item key) current entries with
          | some entries => lines fuel current entries
          | none => fail

/-- The table that a whole text is; a byte order mark at its beginning does not count. -/
def parse? (text : String) : Option Toml :=
  let cs := match text.toList with
    | '\ufeff' :: rest => rest
    | cs => cs
  match (lines (cs.length + 2) [] []).run cs with
  | some (entries, []) => some (.table (entryValues entries))
  | _ => none

end LiveBuild.Toml
