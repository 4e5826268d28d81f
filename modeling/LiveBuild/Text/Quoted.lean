import LiveBuild.Text.Unicode.Category
import LiveBuild.Text.Unicode.Extender

/-!
Quoted text as messages show it: between double quotes, with a backslash escape for quotes,
backslashes, line ends and tabs, and a braced code point for every character that would not show.
-/

namespace LiveBuild.Text

def hexDigits (n : Nat) : List Char := Nat.toDigits 16 n

def escapeChar (c : Char) : List Char :=
  if c = '"' then ['\\', '"']
  else if c = '\\' then ['\\', '\\']
  else if c = '\n' then ['\\', 'n']
  else if c = '\r' then ['\\', 'r']
  else if c = '\t' then ['\\', 't']
  else if c.toNat = 0 then ['\\', '0']
  else if Unicode.isExtender c || !Unicode.isPrintable c then
    ['\\', 'u', '\x7b'] ++ hexDigits c.toNat ++ ['\x7d']
  else [c]

def quoted (text : String) : String :=
  String.ofList ('"' :: text.toList.flatMap escapeChar ++ ['"'])

end LiveBuild.Text
