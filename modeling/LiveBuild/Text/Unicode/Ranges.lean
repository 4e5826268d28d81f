/-!
Tables of code points. A table is written as text, as the Unicode data files write it: code points
in hexadecimal, ranges with a hyphen, entries between blanks.
-/

namespace LiveBuild.Unicode

/-- The non-empty pieces of a text between blanks and line breaks. -/
def words (text : String) : List String :=
  let step (c : Char) (acc : List Char × List String) : List Char × List String :=
    if c = ' ' ∨ c = '\n' then
      if acc.1.isEmpty then acc else ([], String.ofList acc.1 :: acc.2)
    else
      (c :: acc.1, acc.2)
  let (first, rest) := text.toList.foldr step ([], [])
  if first.isEmpty then rest else String.ofList first :: rest

def hexDigit? (c : Char) : Option Nat :=
  if '0' ≤ c ∧ c ≤ '9' then some (c.toNat - 48)
  else if 'a' ≤ c ∧ c ≤ 'f' then some (c.toNat - 87)
  else if 'A' ≤ c ∧ c ≤ 'F' then some (c.toNat - 55)
  else none

def hexValue (text : String) : Nat :=
  text.toList.foldl (fun n c => 16 * n + (hexDigit? c).getD 0) 0

structure Ranges where
  pairs : Array (Nat × Nat)
deriving Inhabited

namespace Ranges

def ofWord (word : String) : Nat × Nat :=
  match word.toList.span (· ≠ '-') with
  | (low, _ :: high) => (hexValue (String.ofList low), hexValue (String.ofList high))
  | (only, []) => (hexValue (String.ofList only), hexValue (String.ofList only))

def ofText (text : String) : Ranges := ⟨((words text).map ofWord).toArray⟩

def contains (r : Ranges) (code : Nat) : Bool :=
  r.pairs.any fun pair => pair.1 ≤ code && code ≤ pair.2

end Ranges

/-- A partition of the code points into labelled runs, given by where each run begins. -/
structure Runs where
  starts : Array (Nat × String)
deriving Inhabited

namespace Runs

def ofText (text : String) : Runs :=
  let rec group : List String → List (Nat × String)
    | start :: label :: rest => (hexValue start, label) :: group rest
    | _ => []
  ⟨(group (words text)).toArray⟩

/-- The label of the last run that begins at or before a code point. -/
def find? (r : Runs) (code : Nat) : Option String :=
  r.starts.foldl (fun found entry => if entry.1 ≤ code then some entry.2 else found) none

/-- The ranges of all runs whose label passes a test. -/
def select (r : Runs) (test : String → Bool) : List (Nat × Nat) :=
  let stops := (r.starts.toList.drop 1).map (·.1) ++ [0x110000]
  (r.starts.toList.zip stops).filterMap fun (entry, stop) =>
    if test entry.2 then some (entry.1, stop - 1) else none

end Runs

/-- White space: the blanks, tabs and line ends of all scripts. -/
def isSpace (c : Char) : Bool :=
  let code := c.toNat
  (9 ≤ code && code ≤ 13) || code == 32 || code == 0x85 || code == 0xA0 || code == 0x1680 ||
    (0x2000 ≤ code && code ≤ 0x200A) || code == 0x2028 || code == 0x2029 || code == 0x202F ||
    code == 0x205F || code == 0x3000

theorem isSpace_of_isWhitespace {c : Char} (h : c.isWhitespace = true) : isSpace c = true := by
  simp only [Char.isWhitespace, Bool.or_eq_true, decide_eq_true_eq] at h
  rcases h with ((h | h) | h) | h <;> subst h <;> decide

end LiveBuild.Unicode
