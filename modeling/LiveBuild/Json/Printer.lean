import LiveBuild.Json.Basic

/-!
# Writing JSON

Compact text has no blanks. In quoted text only quotes, backslashes and control characters are
escaped; everything else stands for itself.
-/

namespace LiveBuild.Json

def hex4 (n : Nat) : List Char :=
  [n / 4096, n / 256, n / 16, n].map fun d => Nat.digitChar (d % 16)

def escape (c : Char) : List Char :=
  if c = '"' then ['\\', '"']
  else if c = '\\' then ['\\', '\\']
  else if c = '\n' then ['\\', 'n']
  else if c = '\r' then ['\\', 'r']
  else if c = '\t' then ['\\', 't']
  else if c = '\x08' then ['\\', 'b']
  else if c = '\x0c' then ['\\', 'f']
  else if c.toNat < 32 then '\\' :: 'u' :: hex4 c.toNat
  else [c]

def renderText (s : List Char) : List Char := '"' :: s.flatMap escape ++ ['"']

def renderNat (n : Nat) : List Char := Nat.toDigits 10 n

def Number.render : Number → List Char
  | .natural n => renderNat n
  | .negative n => '-' :: renderNat n
  | .decimal isNegative digits exponent =>
      (if isNegative then ['-'] else []) ++ renderNat digits ++
        'e' :: (if exponent < 0 then ['-'] else []) ++ renderNat exponent.natAbs

mutual

def render : Json → List Char
  | .null => ['n', 'u', 'l', 'l']
  | .bool true => ['t', 'r', 'u', 'e']
  | .bool false => ['f', 'a', 'l', 's', 'e']
  | .number n => n.render
  | .text s => renderText s.toList
  | .unpaired => ['n', 'u', 'l', 'l']
  | .array items => '[' :: renderItems items
  | .object fields => '\x7b' :: renderFields fields

def renderItems : List Json → List Char
  | [] => [']']
  | [item] => render item ++ [']']
  | item :: rest => render item ++ ',' :: renderItems rest

def renderFields : List (String × Json) → List Char
  | [] => ['\x7d']
  | [(name, item)] => renderText name.toList ++ ':' :: render item ++ ['\x7d']
  | (name, item) :: rest =>
      renderText name.toList ++ ':' :: render item ++ ',' :: renderFields rest

end

def compact (j : Json) : String := String.ofList j.render

def newline (indent : Nat) : List Char := '\n' :: List.replicate indent ' '

mutual

/-- The text of a value over several lines, each level two blanks further in. -/
def renderPretty (indent : Nat) : Json → List Char
  | .array [] => ['[', ']']
  | .object [] => ['\x7b', '\x7d']
  | .array items => '[' :: prettyItems indent items
  | .object fields => '\x7b' :: prettyFields indent fields
  | other => render other

def prettyItems (indent : Nat) : List Json → List Char
  | [] => [']']
  | [item] => newline (indent + 2) ++ renderPretty (indent + 2) item ++ newline indent ++ [']']
  | item :: rest =>
      newline (indent + 2) ++ renderPretty (indent + 2) item ++ ',' :: prettyItems indent rest

def prettyFields (indent : Nat) : List (String × Json) → List Char
  | [] => ['\x7d']
  | [(name, item)] =>
      newline (indent + 2) ++ renderText name.toList ++ ':' :: ' ' ::
        renderPretty (indent + 2) item ++ newline indent ++ ['\x7d']
  | (name, item) :: rest =>
      newline (indent + 2) ++ renderText name.toList ++ ':' :: ' ' ::
        renderPretty (indent + 2) item ++ ',' :: prettyFields indent rest

end

def pretty (j : Json) : String := String.ofList (renderPretty 0 j)

end LiveBuild.Json
