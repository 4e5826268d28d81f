import LiveBuild.Text.Unicode.CaseFold

/-!
# Sets of codes

A set of character codes or bytes as a list of closed ranges, in order and apart from each other.
-/

namespace LiveBuild

structure CodeSet where
  ranges : List (Nat × Nat) := []
deriving DecidableEq, Repr, Inhabited

namespace CodeSet

def maxCode : Nat := 0x10FFFF

/-- Join neighbouring ranges of an ordered list. -/
def join : List (Nat × Nat) → List (Nat × Nat)
  | [] => []
  | range :: rest =>
      match join rest with
      | [] => [range]
      | next :: others =>
          if next.1 ≤ range.2 + 1 then (range.1, max range.2 next.2) :: others
          else range :: next :: others

def ofRanges (ranges : List (Nat × Nat)) : CodeSet :=
  ⟨join ((ranges.filter fun range => decide (range.1 ≤ range.2)).mergeSort
    fun a b => decide (a.1 < b.1) || (a.1 == b.1 && decide (a.2 ≤ b.2)))⟩

def empty : CodeSet := {}

def full : CodeSet := ⟨[(0, maxCode)]⟩

def single (code : Nat) : CodeSet := ⟨[(code, code)]⟩

def contains (s : CodeSet) (code : Nat) : Bool :=
  s.ranges.any fun range => decide (range.1 ≤ code) && decide (code ≤ range.2)

def union (s t : CodeSet) : CodeSet := ofRanges (s.ranges ++ t.ranges)

/-- The gaps of an ordered list of ranges from a code on. -/
def gaps : Nat → List (Nat × Nat) → List (Nat × Nat)
  | start, [] => if start ≤ maxCode then [(start, maxCode)] else []
  | start, range :: rest =>
      let others := gaps (range.2 + 1) rest
      if start < range.1 then (start, range.1 - 1) :: others else others

def complement (s : CodeSet) : CodeSet := ⟨gaps 0 s.ranges⟩

def intersection (s t : CodeSet) : CodeSet := (s.complement.union t.complement).complement

def difference (s t : CodeSet) : CodeSet := s.intersection t.complement

def symmetricDifference (s t : CodeSet) : CodeSet := (s.union t).difference (s.intersection t)

/-- All code points that have another case. -/
def casedCodes : List Nat :=
  Unicode.foldRuns.flatMap fun run =>
    (List.range ((run.last - run.first) / run.step + 1)).flatMap fun i =>
      [run.first + i * run.step, run.target + i * run.step]

/-- The set together with the other cases of its members. -/
def foldCase (s : CodeSet) : CodeSet :=
  s.union (ofRanges ((casedCodes.filter s.contains).flatMap fun code =>
    (Unicode.caseVariants code).map fun variant => (variant, variant)))

/-- The set together with the other cases of its ASCII members. -/
def foldAsciiCase (s : CodeSet) : CodeSet :=
  let upper := (List.range 26).map (65 + ·)
  s.union (ofRanges (upper.flatMap fun code =>
    if s.contains code || s.contains (code + 32) then [(code, code), (code + 32, code + 32)]
    else []))

end CodeSet

end LiveBuild
