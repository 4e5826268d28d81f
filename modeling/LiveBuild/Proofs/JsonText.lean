import LiveBuild.Json.Parser
import LiveBuild.Json.Printer
import Mathlib.Data.List.TakeDrop
import Mathlib.Tactic.Common

/-!
# JSON text is read as it was written

Quoted text is read back character by character, a number as long as nothing follows that it could
go on with. Both ways of writing a value, in one line and over several, put blanks only where the
reader passes over them, and a value that is written in one line has no control character in it.
-/

namespace LiveBuild.Json

/-! ## Numbers -/

/-- Nothing comes next that a number could go on with. -/
def Ends (rest : List Char) : Prop :=
  ∀ c ∈ rest.head?, isDigit c = false ∧ c ≠ '.' ∧ c ≠ 'e' ∧ c ≠ 'E'

theorem isDigit_of_mem_renderNat {n : Nat} {c : Char} (h : c ∈ renderNat n) : isDigit c = true :=
  Nat.isDigit_of_mem_toDigits (by decide) (by decide) h

theorem natOfDigits_renderNat (n : Nat) : natOfDigits (renderNat n) = n := by
  rw [natOfDigits]
  exact Nat.ofDigitChars_eq_foldl.symm.trans Nat.ofDigitChars_ten_toDigits

theorem renderNat_of_lt {n : Nat} (h : n < 10) : renderNat n = [n.digitChar] :=
  Nat.toDigits_of_lt_base h

theorem renderNat_of_le {n : Nat} (h : 10 ≤ n) :
    renderNat n = renderNat (n / 10) ++ [(n % 10).digitChar] :=
  Nat.toDigits_of_base_le (by decide) h

theorem head?_renderNat_ne {n : Nat} (h : 0 < n) : (renderNat n).head? ≠ some '0' := by
  induction n using Nat.strongRecOn with
  | ind n ih =>
      by_cases hlt : n < 10
      · have hdigit : ∀ n < 10, 0 < n → [n.digitChar].head? ≠ some '0' := by decide
        rw [renderNat_of_lt hlt]
        exact hdigit n hlt h
      · have hdiv : 0 < n / 10 := by omega
        rw [renderNat_of_le (by omega), List.head?_append]
        obtain ⟨c, hc⟩ : ∃ c, (renderNat (n / 10)).head? = some c :=
          Option.isSome_iff_exists.1 (List.isSome_head?.2 Nat.toDigits_ne_nil)
        have hne := ih _ (by omega) hdiv
        rw [hc] at hne ⊢
        exact hne

/-- The digits of a number are some, and do not begin with a zero that could be left out. -/
theorem renderNat_plain (n : Nat) : ¬ ((renderNat n).isEmpty = true ∨
    (renderNat n).head? = some '0' ∧ 1 < (renderNat n).length) := by
  rintro (hempty | ⟨hhead, hlength⟩)
  · exact Nat.toDigits_ne_nil (List.isEmpty_iff.1 hempty)
  · obtain rfl : n = 0 := Nat.eq_zero_of_not_pos fun hpos => head?_renderNat_ne hpos hhead
    exact absurd hlength (by decide)

theorem exists_renderNat_eq_cons (n : Nat) :
    ∃ c cs, renderNat n = c :: cs ∧ isDigit c = true := by
  cases h : renderNat n with
  | nil => exact absurd h Nat.toDigits_ne_nil
  | cons c cs => exact ⟨c, cs, rfl, isDigit_of_mem_renderNat (h ▸ List.mem_cons_self)⟩

section Numbers

variable {rest : List Char}

theorem takeWhile_renderNat (n : Nat) (h : ∀ c ∈ rest.head?, isDigit c = false) :
    (renderNat n ++ rest).takeWhile isDigit = renderNat n := by
  rw [List.takeWhile_append_of_pos fun _ => isDigit_of_mem_renderNat]
  cases rest with
  | nil => simp
  | cons c rest => simp [h c rfl]

theorem dropWhile_renderNat (n : Nat) (h : ∀ c ∈ rest.head?, isDigit c = false) :
    (renderNat n ++ rest).dropWhile isDigit = rest := by
  rw [List.dropWhile_append_of_pos fun _ => isDigit_of_mem_renderNat]
  cases rest with
  | nil => rfl
  | cons c rest => simp [h c rfl]

theorem span_renderNat (n : Nat) (h : ∀ c ∈ rest.head?, isDigit c = false) :
    (renderNat n ++ rest).span isDigit = (renderNat n, rest) := by
  rw [List.span_eq_takeWhile_dropWhile, takeWhile_renderNat n h, dropWhile_renderNat n h]

theorem ne_of_isDigit {c d : Char} (hc : isDigit c = true) (hd : isDigit d = false) : c ≠ d := by
  rintro rfl
  simp [hc] at hd

theorem readMagnitude_natural (isNegative : Bool) (n : Nat) (h : Ends rest) :
    readMagnitude isNegative (renderNat n ++ rest) =
      some (if isNegative then .negative n else .natural n, rest) := by
  rw [readMagnitude, span_renderNat n fun c hc => (h c hc).1]
  dsimp only
  rw [if_neg (renderNat_plain n)]
  cases rest with
  | nil => simp [natOfDigits_renderNat]
  | cons c rest =>
      obtain ⟨-, hdot, he, hE⟩ := h c rfl
      simp [natOfDigits_renderNat, hdot, he, hE]

theorem readMagnitude_decimal (isNegative : Bool) (digits : Nat) (exponent : Int) (h : Ends rest) :
    readMagnitude isNegative (renderNat digits ++
        'e' :: ((if exponent < 0 then ['-'] else []) ++ renderNat exponent.natAbs ++ rest)) =
      some (.decimal isNegative digits exponent, rest) := by
  generalize hpower : exponent.natAbs = power
  have hspan : (renderNat power ++ rest).span isDigit = (renderNat power, rest) :=
    span_renderNat power fun c hc => (h c hc).1
  obtain ⟨c, cs, hcons, hc⟩ := exists_renderNat_eq_cons power
  have hvalue : natOfDigits (c :: cs) = power := hcons ▸ natOfDigits_renderNat power
  rw [hcons, List.cons_append] at hspan
  rw [readMagnitude, span_renderNat digits (by simp [isDigit])]
  dsimp only
  rw [if_neg (renderNat_plain digits)]
  by_cases hneg : exponent < 0
  · have habs : -(power : Int) = exponent := by omega
    simp [-List.span_eq_takeWhile_dropWhile, hneg, hcons, hspan, hvalue, habs,
      natOfDigits_renderNat]
  · have habs : (power : Int) = exponent := by omega
    have hminus : c ≠ '-' := ne_of_isDigit hc (by decide)
    have hplus : c ≠ '+' := ne_of_isDigit hc (by decide)
    simp [-List.span_eq_takeWhile_dropWhile, hneg, hcons, hminus, hplus, hspan, hvalue, habs,
      natOfDigits_renderNat]

theorem readNumber_render (n : Number) (h : Ends rest) :
    readNumber (n.render ++ rest) = some (n, rest) := by
  have hunsigned : ∀ n : Nat, ∀ cs, readNumber (renderNat n ++ cs) =
      readMagnitude false (renderNat n ++ cs) := by
    intro n cs
    obtain ⟨c, ds, hcons, hc⟩ := exists_renderNat_eq_cons n
    have hminus : c ≠ '-' := ne_of_isDigit hc (by decide)
    rw [hcons, List.cons_append, readNumber]
    intro rest hrest
    exact hminus (List.cons.inj hrest).1
  cases n with
  | natural n =>
      rw [Number.render, hunsigned]
      exact readMagnitude_natural false n h
  | negative n => exact readMagnitude_natural true n h
  | decimal isNegative digits exponent =>
      have hread := readMagnitude_decimal isNegative digits exponent h
      cases isNegative with
      | true => simpa [Number.render, readNumber] using hread
      | false => simpa [Number.render, hunsigned] using hread

end Numbers

/-! ## Quoted text -/

/-- What stands for a character in quoted text, and the piece that it is read as. -/
inductive Quotes : Char → List Char → Piece → Prop
  | short {c e : Char} (h : unescape? e = some c) : Quotes c ['\\', e] (.char c)
  | control {c : Char} (h : c.toNat < 32) :
      Quotes c ('\\' :: 'u' :: hex4 c.toNat) (.unit c.toNat)
  | plain {c : Char} (hquote : c ≠ '"') (hslash : c ≠ '\\') (h : 32 ≤ c.toNat) :
      Quotes c [c] (.char c)

theorem exists_quotes (c : Char) : ∃ piece, Quotes c (escape c) piece := by
  rw [escape]
  split_ifs with hquote hslash _ _ _ _ _ hcontrol
  iterate 7
    · subst c
      exact ⟨_, .short rfl⟩
  · exact ⟨_, .control hcontrol⟩
  · exact ⟨_, .plain hquote hslash (Nat.not_lt.1 hcontrol)⟩

theorem unit?_hex4 : ∀ n < 32, ∃ a b c d, hex4 n = [a, b, c, d] ∧ unit? a b c d = some n := by
  intro n hn
  have hunit : ∀ n < 32, unit? (Nat.digitChar (n / 4096 % 16)) (Nat.digitChar (n / 256 % 16))
      (Nat.digitChar (n / 16 % 16)) (Nat.digitChar (n % 16)) = some n := by decide
  exact ⟨_, _, _, _, rfl, hunit n hn⟩

theorem Quotes.readPieces {c : Char} {cs : List Char} {piece : Piece} (h : Quotes c cs piece)
    (rest : List Char) : Json.readPieces (cs ++ rest) =
      (Json.readPieces rest).bind fun found => some (piece :: found.1, found.2) := by
  cases h with
  | @short e h =>
      have hu : e ≠ 'u' := by
        rintro rfl
        cases h
      rw [List.cons_append, List.cons_append, List.nil_append, Json.readPieces]
      · simp [h]
      · simp [hu]
  | control h =>
      obtain ⟨a, b, c, d, hhex, hunit⟩ := unit?_hex4 _ h
      simp only [hhex, List.cons_append, List.nil_append, Json.readPieces, hunit]
      rfl
  | plain hquote hslash h =>
      rw [List.cons_append, List.nil_append, Json.readPieces]
      · simp [hslash, Nat.not_lt.2 h]
      · exact hquote
      · exact fun _ _ _ _ _ heq => absurd heq hslash
      · exact fun _ _ heq => absurd heq hslash

theorem Quotes.spell? {c : Char} {cs : List Char} {piece : Piece} (h : Quotes c cs piece)
    (pieces : List Piece) : Json.spell? (piece :: pieces) = (Json.spell? pieces).map (c :: ·) := by
  cases h with
  | short | plain => rfl
  | control h =>
      rw [Json.spell?.eq_def]
      dsimp only
      rw [if_neg (by omega), if_neg (by omega), Char.ofNat_toNat]

theorem readPieces_flatMap (s rest : List Char) : ∃ pieces,
    readPieces (s.flatMap escape ++ '"' :: rest) = some (pieces, rest) ∧
      spell? pieces = some s := by
  induction s with
  | nil => exact ⟨[], rfl, rfl⟩
  | cons c s ih =>
      obtain ⟨pieces, hread, hspell⟩ := ih
      obtain ⟨piece, hquotes⟩ := exists_quotes c
      refine ⟨piece :: pieces, ?_, ?_⟩
      · rw [List.flatMap_cons, List.append_assoc, hquotes.readPieces, hread]
        rfl
      · rw [hquotes.spell?, hspell]
        rfl

/-! ## Values -/

def Blanks (cs : List Char) : Prop := ∀ c ∈ cs, isBlank c = true

theorem blanks_nil : Blanks [] := by simp [Blanks]

theorem eq_of_isBlank {c : Char} (h : isBlank c = true) :
    c = ' ' ∨ c = '\n' ∨ c = '\t' ∨ c = '\r' := by
  simpa [isBlank, or_assoc] using h

mutual

/-- The texts of a value: blanks may stand behind an opening bracket, a colon or a comma, and in
front of a comma or a closing bracket. -/
inductive Written : Json → List Char → Prop
  | null : Written .null (render .null)
  | bool (b : Bool) : Written (.bool b) (render (.bool b))
  | number (n : Number) : Written (.number n) n.render
  | text (s : String) : Written (.text s) (renderText s.toList)
  | emptyArray {bs : List Char} (h : Blanks bs) : Written (.array []) ('[' :: (bs ++ [']']))
  | array {items : List Json} {bs cs : List Char} (h : Blanks bs) (hitems : WrittenItems items cs) :
      Written (.array items) ('[' :: (bs ++ cs))
  | emptyObject {bs : List Char} (h : Blanks bs) :
      Written (.object []) ('\x7b' :: (bs ++ ['\x7d']))
  | object {fields : List (String × Json)} {bs cs : List Char} (h : Blanks bs)
      (hfields : WrittenFields fields cs) : Written (.object fields) ('\x7b' :: (bs ++ cs))

inductive WrittenItems : List Json → List Char → Prop
  | last {item : Json} {cs bs : List Char} (hitem : Written item cs) (hbs : Blanks bs) :
      WrittenItems [item] (cs ++ (bs ++ [']']))
  | cons {item : Json} {items : List Json} {cs bs bs' ds : List Char} (hitem : Written item cs)
      (hbs : Blanks bs) (hbs' : Blanks bs') (hitems : WrittenItems items ds) :
      WrittenItems (item :: items) (cs ++ (bs ++ ',' :: (bs' ++ ds)))

inductive WrittenFields : List (String × Json) → List Char → Prop
  | last {name : String} {item : Json} {as cs bs : List Char} (has : Blanks as)
      (hitem : Written item cs) (hbs : Blanks bs) : WrittenFields [(name, item)]
        (renderText name.toList ++ ':' :: (as ++ (cs ++ (bs ++ ['\x7d']))))
  | cons {name : String} {item : Json} {fields : List (String × Json)} {as cs bs bs' ds : List Char}
      (has : Blanks as) (hitem : Written item cs) (hbs : Blanks bs) (hbs' : Blanks bs')
      (hfields : WrittenFields fields ds) : WrittenFields ((name, item) :: fields)
        (renderText name.toList ++ ':' :: (as ++ (cs ++ (bs ++ ',' :: (bs' ++ ds)))))

end

theorem exists_render_eq_cons (n : Number) :
    ∃ c cs, n.render = c :: cs ∧ (c = '-' ∨ isDigit c = true) := by
  cases n with
  | natural n =>
      obtain ⟨c, cs, hcons, hc⟩ := exists_renderNat_eq_cons n
      exact ⟨c, cs, hcons, .inr hc⟩
  | negative n => exact ⟨_, _, rfl, .inl rfl⟩
  | decimal isNegative digits exponent =>
      cases isNegative with
      | true => exact ⟨_, _, rfl, .inl rfl⟩
      | false =>
          obtain ⟨c, cs, hcons, hc⟩ := exists_renderNat_eq_cons digits
          exact ⟨c, _, by rw [Number.render, hcons]; rfl, .inr hc⟩

/-- A value begins with neither a blank nor a closing bracket. -/
theorem Written.head {j : Json} {cs : List Char} (h : Written j cs) :
    ∃ c ds, cs = c :: ds ∧ isBlank c = false ∧ c ≠ ']' := by
  cases h with
  | number n =>
      obtain ⟨c, cs, hcons, hc⟩ := exists_render_eq_cons n
      refine ⟨c, cs, hcons, Bool.eq_false_iff.2 fun hblank => ?_, ?_⟩
      · rcases eq_of_isBlank hblank with rfl | rfl | rfl | rfl
        all_goals exact absurd hc (by decide)
      · rintro rfl
        exact absurd hc (by decide)
  | bool b => cases b <;> exact ⟨_, _, rfl, by decide, by decide⟩
  | _ => exact ⟨_, _, rfl, by decide, by decide⟩

theorem WrittenItems.head {items : List Json} {cs : List Char} (h : WrittenItems items cs) :
    ∃ c ds, cs = c :: ds ∧ isBlank c = false ∧ c ≠ ']' := by
  cases h with
  | last hitem | cons hitem =>
      obtain ⟨c, ds, rfl, hc⟩ := hitem.head
      exact ⟨c, _, rfl, hc⟩

theorem WrittenFields.head {fields : List (String × Json)} {cs : List Char}
    (h : WrittenFields fields cs) : ∃ ds, cs = '"' :: ds := by
  cases h <;> exact ⟨_, rfl⟩

theorem skipBlanks_append {bs rest : List Char} (h : Blanks bs)
    (hrest : ∀ c ∈ rest.head?, isBlank c = false) : skipBlanks (bs ++ rest) = rest := by
  rw [skipBlanks, List.dropWhile_append_of_pos h]
  cases rest with
  | nil => rfl
  | cons c rest => simp [hrest c rfl]

theorem ends_append {bs rest : List Char} {c : Char} (h : Blanks bs)
    (hc : isDigit c = false ∧ c ≠ '.' ∧ c ≠ 'e' ∧ c ≠ 'E') : Ends (bs ++ c :: rest) := by
  cases bs with
  | nil => simpa [Ends] using hc
  | cons b bs =>
      rintro d hd
      obtain rfl : b = d := Option.some.inj hd
      rcases eq_of_isBlank (h b List.mem_cons_self) with rfl | rfl | rfl | rfl
      all_goals decide

section Steps

variable {as bs bs' cs ds rest : List Char} {fuel : Nat} {name : String} {item : Json}
  {items : List Json} {fields : List (String × Json)}

-- One round of the reader.
attribute [local simp] readValue readItems readFields

theorem readValue_number (n : Number) (h : Ends rest) :
    readValue (fuel + 1) (n.render ++ rest) = some (.number n, rest) := by
  have hread := readNumber_render n h
  obtain ⟨c, cs, hcons, hc⟩ := exists_render_eq_cons n
  rw [hcons, List.cons_append] at hread ⊢
  rw [readValue]
  · rw [hread]
    rfl
  all_goals
    intro tail heq
    obtain ⟨rfl, -⟩ := List.cons.inj heq
    exact absurd hc (by decide)

theorem readValue_text (s : String) :
    readValue (fuel + 1) (renderText s.toList ++ rest) = some (.text s, rest) := by
  obtain ⟨pieces, hread, hspell⟩ := readPieces_flatMap s.toList rest
  simp [renderText, hread, hspell]

theorem readValue_emptyArray (hbs : Blanks bs) :
    readValue (fuel + 1) ('[' :: (bs ++ [']']) ++ rest) = some (.array [], rest) := by
  have hskip : skipBlanks (bs ++ ']' :: rest) = ']' :: rest :=
    skipBlanks_append hbs (by simp [isBlank])
  simp [hskip]

theorem readValue_array (hbs : Blanks bs) (hitems : WrittenItems items cs)
    (hread : readItems fuel (cs ++ rest) = some (items, rest)) :
    readValue (fuel + 1) ('[' :: (bs ++ cs) ++ rest) = some (.array items, rest) := by
  obtain ⟨c, ds, rfl, hblank, hclose⟩ := hitems.head
  have hskip : skipBlanks (bs ++ c :: (ds ++ rest)) = c :: (ds ++ rest) :=
    skipBlanks_append hbs (by simp [hblank])
  rw [List.cons_append] at hread
  simp [hskip, hclose, hread]

theorem readValue_emptyObject (hbs : Blanks bs) :
    readValue (fuel + 1) ('\x7b' :: (bs ++ ['\x7d']) ++ rest) = some (.object [], rest) := by
  have hskip : skipBlanks (bs ++ '\x7d' :: rest) = '\x7d' :: rest :=
    skipBlanks_append hbs (by simp [isBlank])
  simp [hskip]

theorem readValue_object (hbs : Blanks bs) (hfields : WrittenFields fields cs)
    (hread : readFields fuel (cs ++ rest) = some (some fields, rest)) :
    readValue (fuel + 1) ('\x7b' :: (bs ++ cs) ++ rest) = some (.object fields, rest) := by
  obtain ⟨ds, rfl⟩ := hfields.head
  have hskip : skipBlanks (bs ++ '"' :: (ds ++ rest)) = '"' :: (ds ++ rest) :=
    skipBlanks_append hbs (by simp [isBlank])
  rw [List.cons_append] at hread
  simp [hskip, hread]

theorem readItems_last (hbs : Blanks bs)
    (hread : readValue fuel (cs ++ (bs ++ ']' :: rest)) = some (item, bs ++ ']' :: rest)) :
    readItems (fuel + 1) (cs ++ (bs ++ [']']) ++ rest) = some ([item], rest) := by
  have hskip : skipBlanks (bs ++ ']' :: rest) = ']' :: rest :=
    skipBlanks_append hbs (by simp [isBlank])
  simp [hread, hskip]

theorem readItems_cons (hbs : Blanks bs) (hbs' : Blanks bs') (hitems : WrittenItems items ds)
    (hread : readValue fuel (cs ++ (bs ++ ',' :: (bs' ++ (ds ++ rest)))) =
      some (item, bs ++ ',' :: (bs' ++ (ds ++ rest))))
    (hmore : readItems fuel (ds ++ rest) = some (items, rest)) :
    readItems (fuel + 1) (cs ++ (bs ++ ',' :: (bs' ++ ds)) ++ rest) =
      some (item :: items, rest) := by
  obtain ⟨c, ds, rfl, hblank, -⟩ := hitems.head
  have hskip : skipBlanks (bs ++ ',' :: (bs' ++ (c :: ds ++ rest))) =
      ',' :: (bs' ++ (c :: ds ++ rest)) := skipBlanks_append hbs (by simp [isBlank])
  have hskip' : skipBlanks (bs' ++ (c :: ds ++ rest)) = c :: ds ++ rest :=
    skipBlanks_append hbs' (by simp [hblank])
  simp only [List.append_assoc, List.cons_append] at *
  simp [hread, hskip, hskip', hmore]

theorem readFields_last (has : Blanks as) (hitem : Written item cs) (hbs : Blanks bs)
    (hread : readValue fuel (cs ++ (bs ++ '\x7d' :: rest)) = some (item, bs ++ '\x7d' :: rest)) :
    readFields (fuel + 1)
        (renderText name.toList ++ ':' :: (as ++ (cs ++ (bs ++ ['\x7d']))) ++ rest) =
      some (some [(name, item)], rest) := by
  obtain ⟨c, ds, rfl, hblank, -⟩ := hitem.head
  obtain ⟨pieces, hname, hspell⟩ :=
    readPieces_flatMap name.toList (':' :: (as ++ (c :: ds ++ (bs ++ '\x7d' :: rest))))
  have hcolon : ∀ tail, skipBlanks (':' :: tail) = ':' :: tail := fun _ => rfl
  have hskip : skipBlanks (as ++ (c :: ds ++ (bs ++ '\x7d' :: rest))) =
      c :: ds ++ (bs ++ '\x7d' :: rest) := skipBlanks_append has (by simp [hblank])
  have hskip' : skipBlanks (bs ++ '\x7d' :: rest) = '\x7d' :: rest :=
    skipBlanks_append hbs (by simp [isBlank])
  simp only [List.append_assoc, List.cons_append] at *
  simp [renderText, hname, hspell, hcolon, hskip, hread, hskip']

theorem readFields_cons (has : Blanks as) (hitem : Written item cs) (hbs : Blanks bs)
    (hbs' : Blanks bs') (hfields : WrittenFields fields ds)
    (hread : readValue fuel (cs ++ (bs ++ ',' :: (bs' ++ (ds ++ rest)))) =
      some (item, bs ++ ',' :: (bs' ++ (ds ++ rest))))
    (hmore : readFields fuel (ds ++ rest) = some (some fields, rest)) :
    readFields (fuel + 1)
        (renderText name.toList ++ ':' :: (as ++ (cs ++ (bs ++ ',' :: (bs' ++ ds)))) ++ rest) =
      some (some ((name, item) :: fields), rest) := by
  obtain ⟨c, es, rfl, hblank, -⟩ := hitem.head
  obtain ⟨ds, rfl⟩ := hfields.head
  obtain ⟨pieces, hname, hspell⟩ := readPieces_flatMap name.toList
    (':' :: (as ++ (c :: es ++ (bs ++ ',' :: (bs' ++ ('"' :: ds ++ rest))))))
  have hcolon : ∀ tail, skipBlanks (':' :: tail) = ':' :: tail := fun _ => rfl
  have hskip : skipBlanks (as ++ (c :: es ++ (bs ++ ',' :: (bs' ++ ('"' :: ds ++ rest))))) =
      c :: es ++ (bs ++ ',' :: (bs' ++ ('"' :: ds ++ rest))) :=
    skipBlanks_append has (by simp [hblank])
  have hskip' : skipBlanks (bs ++ ',' :: (bs' ++ ('"' :: ds ++ rest))) =
      ',' :: (bs' ++ ('"' :: ds ++ rest)) := skipBlanks_append hbs (by simp [isBlank])
  have hskip'' : skipBlanks (bs' ++ ('"' :: ds ++ rest)) = '"' :: ds ++ rest :=
    skipBlanks_append hbs' (by simp [isBlank])
  simp only [List.append_assoc, List.cons_append] at *
  simp [renderText, hname, hspell, hcolon, hskip, hread, hskip', hskip'', hmore]

end Steps

/-- The reader gives back what was written, and what stands behind it. -/
theorem read_written (fuel : Nat) :
    (∀ {j : Json} {cs rest : List Char}, Written j cs → cs.length < fuel → Ends rest →
      readValue fuel (cs ++ rest) = some (j, rest)) ∧
    (∀ {items : List Json} {cs rest : List Char}, WrittenItems items cs → cs.length < fuel →
      readItems fuel (cs ++ rest) = some (items, rest)) ∧
    (∀ {fields : List (String × Json)} {cs rest : List Char}, WrittenFields fields cs →
      cs.length < fuel → readFields fuel (cs ++ rest) = some (some fields, rest)) := by
  induction fuel with
  | zero => simp
  | succ fuel ih =>
      obtain ⟨ihvalue, ihitems, ihfields⟩ := ih
      refine ⟨fun {j cs rest} h hlength hends => ?_, fun {items cs rest} h hlength => ?_,
        fun {fields cs rest} h hlength => ?_⟩
      · cases h with
        | null => rfl
        | bool b => cases b <;> rfl
        | number n => exact readValue_number n hends
        | text s => exact readValue_text s
        | emptyArray hbs => exact readValue_emptyArray hbs
        | emptyObject hbs => exact readValue_emptyObject hbs
        | array hbs hitems =>
            simp at hlength
            exact readValue_array hbs hitems (ihitems hitems (by omega))
        | object hbs hfields =>
            simp at hlength
            exact readValue_object hbs hfields (ihfields hfields (by omega))
      · cases h with
        | last hitem hbs =>
            simp at hlength
            exact readItems_last hbs
              (ihvalue hitem (by omega) (ends_append hbs (by decide)))
        | cons hitem hbs hbs' hitems =>
            simp at hlength
            exact readItems_cons hbs hbs' hitems
              (ihvalue hitem (by omega) (ends_append hbs (by decide)))
              (ihitems hitems (by omega))
      · cases h with
        | last has hitem hbs =>
            simp at hlength
            exact readFields_last has hitem hbs
              (ihvalue hitem (by omega) (ends_append hbs (by decide)))
        | cons has hitem hbs hbs' hfields =>
            simp at hlength
            exact readFields_cons has hitem hbs hbs' hfields
              (ihvalue hitem (by omega) (ends_append hbs (by decide)))
              (ihfields hfields (by omega))

theorem parse?_written {j : Json} {cs : List Char} (h : Written j cs) :
    parse? (String.ofList cs) = some j := by
  obtain ⟨c, ds, rfl, hblank, -⟩ := h.head
  have hskip : skipBlanks (c :: ds) = c :: ds :=
    skipBlanks_append blanks_nil (by simp [hblank])
  have hends : Ends [] := by simp [Ends]
  have hread := (read_written (2 * (c :: ds).length + 2)).1 h (by omega) hends
  rw [List.append_nil] at hread
  rw [parse?, String.toList_ofList, hskip]
  simp only [hread]
  rfl

/-! ## What is written -/

mutual

theorem written_render : ∀ j : Json, j.isSound = true → Written j j.render
  | .null, _ => .null
  | .bool b, _ => .bool b
  | .number n, _ => .number n
  | .text s, _ => .text s
  | .array [], _ => .emptyArray blanks_nil
  | .array (item :: items), h =>
      .array blanks_nil (writtenItems_render (item :: items) h (List.cons_ne_nil _ _))
  | .object [], _ => .emptyObject blanks_nil
  | .object (field :: fields), h =>
      .object blanks_nil (writtenFields_render (field :: fields) h (List.cons_ne_nil _ _))

theorem writtenItems_render : ∀ items : List Json, soundItems items = true → items ≠ [] →
    WrittenItems items (renderItems items)
  | [], _, hne => absurd rfl hne
  | [item], h, _ => .last (written_render item (Bool.and_eq_true_iff.1 h).1) blanks_nil
  | item :: next :: items, h, _ => by
      obtain ⟨hitem, hmore⟩ := Bool.and_eq_true_iff.1 h
      exact .cons (written_render item hitem) blanks_nil blanks_nil
        (writtenItems_render (next :: items) hmore (List.cons_ne_nil _ _))

theorem writtenFields_render : ∀ fields : List (String × Json), soundFields fields = true →
    fields ≠ [] → WrittenFields fields (renderFields fields)
  | [], _, hne => absurd rfl hne
  | [(name, item)], h, _ => by
      have hitem := written_render item (Bool.and_eq_true_iff.1 h).1
      have hlast : WrittenFields [(name, item)] _ := .last blanks_nil hitem blanks_nil
      simpa [renderFields] using hlast
  | (name, item) :: next :: fields, h, _ => by
      obtain ⟨hitem, hmore⟩ := Bool.and_eq_true_iff.1 h
      have hcons : WrittenFields ((name, item) :: next :: fields) _ :=
        .cons blanks_nil (written_render item hitem) blanks_nil blanks_nil
          (writtenFields_render (next :: fields) hmore (List.cons_ne_nil _ _))
      simpa [renderFields] using hcons

end

theorem blanks_space : Blanks [' '] := by simp [Blanks, isBlank]

theorem blanks_newline (indent : Nat) : Blanks (newline indent) := by
  intro c hc
  rcases List.mem_cons.1 hc with rfl | hc
  · rfl
  · rw [List.eq_of_mem_replicate hc]
    rfl

mutual

theorem written_renderPretty : ∀ (j : Json) (indent : Nat), j.isSound = true →
    Written j (renderPretty indent j)
  | .null, _, _ => .null
  | .bool b, _, _ => .bool b
  | .number n, _, _ => .number n
  | .text s, _, _ => .text s
  | .array [], _, _ => .emptyArray blanks_nil
  | .object [], _, _ => .emptyObject blanks_nil
  | .array (item :: items), indent, h => by
      obtain ⟨cs, hcs, hitems⟩ :=
        written_prettyItems (item :: items) indent h (List.cons_ne_nil _ _)
      rw [renderPretty, hcs]
      · exact .array (blanks_newline _) hitems
      · exact List.cons_ne_nil _ _
  | .object (field :: fields), indent, h => by
      obtain ⟨cs, hcs, hfields⟩ :=
        written_prettyFields (field :: fields) indent h (List.cons_ne_nil _ _)
      rw [renderPretty, hcs]
      · exact .object (blanks_newline _) hfields
      · exact List.cons_ne_nil _ _

/-- The line break that items over several lines begin with belongs to the bracket or comma in front
of them. -/
theorem written_prettyItems : ∀ (items : List Json) (indent : Nat), soundItems items = true →
    items ≠ [] → ∃ cs, prettyItems indent items = newline (indent + 2) ++ cs ∧
      WrittenItems items cs
  | [], _, _, hne => absurd rfl hne
  | [item], indent, h, _ => by
      have hitem := written_renderPretty item (indent + 2) (Bool.and_eq_true_iff.1 h).1
      refine ⟨_, ?_, .last hitem (blanks_newline indent)⟩
      simp [prettyItems]
  | item :: next :: items, indent, h, _ => by
      obtain ⟨hitem, hmore⟩ := Bool.and_eq_true_iff.1 h
      obtain ⟨cs, hcs, hitems⟩ :=
        written_prettyItems (next :: items) indent hmore (List.cons_ne_nil _ _)
      refine ⟨_, ?_, .cons (written_renderPretty item (indent + 2) hitem) blanks_nil
        (blanks_newline (indent + 2)) hitems⟩
      simp [prettyItems, hcs]

theorem written_prettyFields : ∀ (fields : List (String × Json)) (indent : Nat),
    soundFields fields = true → fields ≠ [] →
      ∃ cs, prettyFields indent fields = newline (indent + 2) ++ cs ∧ WrittenFields fields cs
  | [], _, _, hne => absurd rfl hne
  | [(name, item)], indent, h, _ => by
      have hitem := written_renderPretty item (indent + 2) (Bool.and_eq_true_iff.1 h).1
      refine ⟨_, ?_, .last blanks_space hitem (blanks_newline indent)⟩
      simp [prettyFields]
  | (name, item) :: next :: fields, indent, h, _ => by
      obtain ⟨hitem, hmore⟩ := Bool.and_eq_true_iff.1 h
      obtain ⟨cs, hcs, hfields⟩ :=
        written_prettyFields (next :: fields) indent hmore (List.cons_ne_nil _ _)
      refine ⟨_, ?_, .cons blanks_space (written_renderPretty item (indent + 2) hitem)
        blanks_nil (blanks_newline (indent + 2)) hfields⟩
      simp [prettyFields, hcs]

end

/-- A value written in one line is read back. -/
theorem parse?_compact {j : Json} (h : j.isSound = true) : parse? j.compact = some j :=
  parse?_written (written_render j h)

/-- A value written over several lines is read back. -/
theorem parse?_pretty {j : Json} (h : j.isSound = true) : parse? j.pretty = some j :=
  parse?_written (written_renderPretty j 0 h)

/-! ## No control characters -/

/-- No character of a text is a control character. -/
def Printable (cs : List Char) : Prop := ∀ c ∈ cs, 32 ≤ c.toNat

instance : DecidablePred Printable := List.decidableBAll fun c : Char => 32 ≤ c.toNat

theorem printable_cons {c : Char} {cs : List Char} :
    Printable (c :: cs) ↔ 32 ≤ c.toNat ∧ Printable cs := List.forall_mem_cons

theorem printable_append {cs ds : List Char} :
    Printable (cs ++ ds) ↔ Printable cs ∧ Printable ds := List.forall_mem_append

theorem Printable.not_mem {cs : List Char} (h : Printable cs) {c : Char} (hc : c.toNat < 32) :
    c ∉ cs := by
  intro hmem
  exact absurd (h c hmem) (Nat.not_le.2 hc)

theorem printable_hex4 (n : Nat) : Printable (hex4 n) := by
  have hdigit : ∀ d < 16, 32 ≤ (Nat.digitChar d).toNat := by decide
  intro c hc
  obtain ⟨d, -, rfl⟩ := List.mem_map.1 hc
  exact hdigit _ (Nat.mod_lt d (by decide))

/-- Control characters are written with others, and all else stands for itself. -/
theorem printable_escape (c : Char) : Printable (escape c) := by
  rw [escape]
  split_ifs with _ _ _ _ _ _ _ hcontrol
  iterate 7
    · decide
  · exact printable_cons.2 ⟨by decide, printable_cons.2 ⟨by decide, printable_hex4 _⟩⟩
  · exact printable_cons.2 ⟨Nat.not_lt.1 hcontrol, by decide⟩

theorem printable_renderText (s : List Char) : Printable (renderText s) := by
  rw [renderText, List.cons_append, printable_cons, printable_append]
  refine ⟨by decide, fun c hc => ?_, by decide⟩
  obtain ⟨d, -, hd⟩ := List.mem_flatMap.1 hc
  exact printable_escape d c hd

theorem printable_renderNat (n : Nat) : Printable (renderNat n) := by
  intro c hc
  have hdigit := isDigit_of_mem_renderNat hc
  rw [isDigit, Bool.and_eq_true, decide_eq_true_iff, decide_eq_true_iff] at hdigit
  exact Nat.le_trans (by decide) (UInt32.le_iff_toNat_le.1 hdigit.1)

theorem printable_renderNumber (n : Number) : Printable n.render := by
  cases n with
  | natural n => exact printable_renderNat n
  | negative n => exact printable_cons.2 ⟨by decide, printable_renderNat n⟩
  | decimal isNegative digits exponent =>
      have hsign : ∀ (p : Prop) [Decidable p], Printable (if p then ['-'] else []) := by
        intro p _
        split <;> decide
      simp only [Number.render, printable_append, printable_cons]
      exact ⟨⟨⟨hsign _, printable_renderNat _⟩, by decide, hsign _⟩, printable_renderNat _⟩

mutual

/-- However a value is nested, and whatever its texts hold, it is written without any control
character. -/
theorem printable_render : ∀ j : Json, Printable j.render
  | .null | .unpaired | .bool true | .bool false => by decide
  | .number n => printable_renderNumber n
  | .text s => printable_renderText s.toList
  | .array items => printable_cons.2 ⟨by decide, printable_renderItems items⟩
  | .object fields => printable_cons.2 ⟨by decide, printable_renderFields fields⟩

theorem printable_renderItems : ∀ items : List Json, Printable (renderItems items)
  | [] => by decide
  | [item] => printable_append.2 ⟨printable_render item, by decide⟩
  | item :: next :: items => printable_append.2 ⟨printable_render item,
      printable_cons.2 ⟨by decide, printable_renderItems (next :: items)⟩⟩

theorem printable_renderFields : ∀ fields : List (String × Json), Printable (renderFields fields)
  | [] => by decide
  | [(name, item)] => by
      simp only [renderFields, printable_append, printable_cons]
      exact ⟨⟨printable_renderText name.toList, by decide, printable_render item⟩, by decide⟩
  | (name, item) :: next :: fields => by
      simp only [renderFields, printable_append, printable_cons]
      exact ⟨⟨printable_renderText name.toList, by decide, printable_render item⟩, by decide,
        printable_renderFields (next :: fields)⟩

end

end LiveBuild.Json
