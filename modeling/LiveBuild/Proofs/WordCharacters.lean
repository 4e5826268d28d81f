import LiveBuild.Text.Unicode.Word
import Mathlib.Tactic.Common

/-!
# Word characters are no white space

The table of word characters is read from its text. So that none of the codes of white space is
found in it, each piece of that text is compared with each code.
-/

namespace LiveBuild.Unicode

variable {cs : List Char} {code : Nat} {codes : List Nat}

namespace Ranges

/-- Pieces so far, the one that is being read apart, with one character more before them. -/
def takePiece {α : Type} (spell : List Char → α) (c : Char) (acc : List Char × List α) :
    List Char × List α :=
  if c = ' ' ∨ c = '\n' then
    if acc.1.isEmpty then acc else ([], spell acc.1 :: acc.2)
  else
    (c :: acc.1, acc.2)

/-- The pieces of some characters between blanks and line breaks. -/
def piecesOf {α : Type} (spell : List Char → α) (cs : List Char) : List α :=
  let (first, rest) := cs.foldr (takePiece spell) ([], [])
  if first.isEmpty then rest else spell first :: rest

theorem words_ofList (cs : List Char) :
    words (String.ofList cs) = (piecesOf id cs).map String.ofList := by
  let spelled (acc : List Char × List (List Char)) : List Char × List String :=
    (acc.1, acc.2.map String.ofList)
  have hstep : ∀ c acc, takePiece String.ofList c (spelled acc) = spelled (takePiece id c acc) := by
    intro c acc
    rw [takePiece, takePiece]
    split
    · change (if acc.1.isEmpty then _ else _) = _
      split <;> rfl
    · rfl
  have hfold : cs.foldr (takePiece String.ofList) (spelled ([], [])) =
      spelled (cs.foldr (takePiece id) ([], [])) := List.foldr_hom spelled hstep
  have hnil : spelled ([], []) = ([], []) := rfl
  have hwords : words (String.ofList cs) = piecesOf String.ofList (String.ofList cs).toList := rfl
  rw [hwords, String.toList_ofList, piecesOf, piecesOf, ← hnil, hfold]
  dsimp only [spelled]
  split <;> rfl

def valueOf (cs : List Char) : Nat := cs.foldl (fun n c => 16 * n + (hexDigit? c).getD 0) 0

theorem hexValue_ofList (cs : List Char) : hexValue (String.ofList cs) = valueOf cs := by
  rw [hexValue, valueOf, String.toList_ofList]

/-- The bounds of the range that a piece writes. -/
def boundsOf (piece : List Char) : Nat × Nat :=
  match piece.span (· ≠ '-') with
  | (low, _ :: high) => (valueOf low, valueOf high)
  | (only, []) => (valueOf only, valueOf only)

theorem ofWord_ofList (piece : List Char) : ofWord (String.ofList piece) = boundsOf piece := by
  rw [ofWord, boundsOf, String.toList_ofList]
  rcases piece.span (· ≠ '-') with ⟨low, _ | ⟨_, high⟩⟩ <;> simp only [hexValue_ofList]

/-- No piece of the characters writes a range with one of the codes in it. -/
def avoids (codes : List Nat) (cs : List Char) : Bool :=
  (piecesOf id cs).all fun piece =>
    codes.all fun code => !((boundsOf piece).1 ≤ code && code ≤ (boundsOf piece).2)

theorem contains_eq_false_of_avoids {text : String} (htext : text = String.ofList cs)
    (h : avoids codes cs = true) (hcode : code ∈ codes) : (ofText text).contains code = false := by
  rw [contains, ofText, htext, words_ofList, List.any_toArray, List.any_eq_false, List.map_map]
  intro pair hpair
  obtain ⟨piece, hpiece, rfl⟩ := List.mem_map.1 hpair
  have hpiece := List.all_eq_true.1 (List.all_eq_true.1 h piece hpiece) code hcode
  rw [Bool.not_eq_true'] at hpiece
  rwa [Function.comp_apply, ofWord_ofList, Bool.not_eq_true]

end Ranges

/-- The codes of white space beyond ASCII. -/
def blankCodes : List Nat :=
  [0x85, 0xA0, 0x1680, 0x2000, 0x2001, 0x2002, 0x2003, 0x2004, 0x2005, 0x2006, 0x2007, 0x2008,
    0x2009, 0x200A, 0x2028, 0x2029, 0x202F, 0x205F, 0x3000]

theorem mem_blankCodes {c : Char} (h : isSpace c = true) (hc : ¬ c.toNat < 128) :
    c.toNat ∈ blankCodes := by
  simp only [isSpace, Bool.or_eq_true, Bool.and_eq_true, decide_eq_true_eq, beq_iff_eq] at h
  simp only [blankCodes, List.mem_cons, List.not_mem_nil, or_false]
  omega

set_option maxRecDepth 100000 in
theorem contains_wordRanges_of_mem (h : code ∈ blankCodes) : wordRanges.contains code = false := by
  unfold wordRanges
  refine Ranges.contains_eq_false_of_avoids rfl ?_ h
  decide +kernel

theorem isSpace_eq_false_of_isWord {c : Char} (h : isWord c = true) : isSpace c = false := by
  rw [Bool.eq_false_iff]
  intro hspace
  rw [isWord] at h
  split at h
  · rename_i hc
    have hcode : c.toNat = 9 ∨ c.toNat = 10 ∨ c.toNat = 11 ∨ c.toNat = 12 ∨ c.toNat = 13 ∨
        c.toNat = 32 := by
      simp only [isSpace, Bool.or_eq_true, Bool.and_eq_true, decide_eq_true_eq,
        beq_iff_eq] at hspace
      omega
    have hofNat := Char.ofNat_toNat c
    rcases hcode with hcode | hcode | hcode | hcode | hcode | hcode <;>
    · rw [hcode] at hofNat
      subst hofNat
      revert h
      decide
  · rename_i hc
    rw [contains_wordRanges_of_mem (mem_blankCodes hspace hc)] at h
    cases h

end LiveBuild.Unicode
