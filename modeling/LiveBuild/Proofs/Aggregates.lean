import LiveBuild.Digest
import LiveBuild.Proofs.TextTables
import Mathlib.Data.Prod.Lex
import Mathlib.Data.String.Basic

/-!
# What an aggregate digest identifies

The bytes of an entry can be told from what follows them: no label holds the byte that closes a
label, and no digest the one that closes a digest. So the bytes of a sorted list can be taken apart
again, and two lists have the same bytes exactly if each is a rearrangement of the other. What the
digest adds to that is its own collisions.
-/

namespace LiveBuild

namespace Utf8

variable {text a b : String} {c : Char} {byte : UInt8}

theorem toList_loop (bytes : ByteArray) (position : Nat) (before : List UInt8) :
    ByteArray.toList.loop bytes position before =
      before.reverse ++ bytes.data.toList.drop position := by
  induction position, before using ByteArray.toList.loop.induct bytes with
  | case1 position before hlt ih =>
      have hposition : position < bytes.data.toList.length := by simpa using hlt
      have hbyte : bytes.get! position = bytes.data.toList[position] :=
        getElem!_pos bytes.data position hposition
      rw [ByteArray.toList.loop, if_pos hlt, ih, List.drop_eq_getElem_cons hposition, hbyte]
      simp
  | case2 position before hge =>
      have hend : bytes.data.toList.length ≤ position := by simpa using hge
      rw [ByteArray.toList.loop, if_neg hge, List.drop_eq_nil_of_le hend, List.append_nil]

theorem toList_eq_data (bytes : ByteArray) : bytes.toList = bytes.data.toList := by
  rw [ByteArray.toList, toList_loop]
  rfl

theorem toList_toUTF8 (text : String) :
    text.toUTF8.toList = text.toList.flatMap String.utf8EncodeChar := by
  conv_lhs => rw [← String.ofList_toList (s := text)]
  rw [String.toUTF8_eq_toByteArray, toList_eq_data]
  exact List.toList_data_toByteArray

theorem toList_toUTF8_inj : a.toUTF8.toList = b.toUTF8.toList ↔ a = b := by
  refine ⟨fun h => ?_, fun h => by rw [h]⟩
  rw [toList_eq_data, toList_eq_data, Array.toList_inj] at h
  exact String.toByteArray_inj.1 (ByteArray.ext h)

theorem utf8EncodeChar_of_lt (h : c.toNat < 128) :
    String.utf8EncodeChar c = [UInt8.ofNat c.toNat] := by
  have hle : c.val.toNat ≤ 127 := Nat.le_of_lt_succ h
  unfold String.utf8EncodeChar
  exact if_pos hle

/-- A character beyond the first 128 is spelled without the bytes of those. -/
theorem le_of_mem_utf8EncodeChar (hc : 128 ≤ c.toNat) (h : byte ∈ String.utf8EncodeChar c) :
    128 ≤ byte.toNat := by
  have hbyte : ∀ n, byte = UInt8.ofNat n → byte.toNat = n % 256 := by
    rintro n rfl
    exact UInt8.toNat_ofNat'
  have hnot : ¬ c.val.toNat ≤ 127 := Nat.not_le.2 hc
  unfold String.utf8EncodeChar at h
  dsimp only at h
  rw [if_neg hnot] at h
  split at h
  · simp only [List.mem_cons, List.not_mem_nil, or_false] at h
    rcases h with h | h <;> have heq := hbyte _ h <;> omega
  · split at h
    · simp only [List.mem_cons, List.not_mem_nil, or_false] at h
      rcases h with h | h | h <;> have heq := hbyte _ h <;> omega
    · simp only [List.mem_cons, List.not_mem_nil, or_false] at h
      rcases h with h | h | h | h <;> have heq := hbyte _ h <;> omega

/-- The byte of one of the first 128 characters stands for nothing else. -/
theorem mem_toUTF8 (hc : c.toNat < 128) :
    UInt8.ofNat c.toNat ∈ text.toUTF8.toList ↔ c ∈ text.toList := by
  have hself : (UInt8.ofNat c.toNat).toNat = c.toNat := by
    rw [UInt8.toNat_ofNat', Nat.mod_eq_of_lt (Nat.lt_trans hc (by decide))]
  rw [toList_toUTF8, List.mem_flatMap]
  constructor
  · rintro ⟨other, hother, hmem⟩
    by_cases hlt : other.toNat < 128
    · rw [utf8EncodeChar_of_lt hlt, List.mem_singleton] at hmem
      have heq : other.toNat = c.toNat := by
        rw [← hself, hmem, UInt8.toNat_ofNat', Nat.mod_eq_of_lt (Nat.lt_trans hlt (by decide))]
      have hchar : other = c := Char.toNat_inj.1 heq
      exact hchar ▸ hother
    · have hle := le_of_mem_utf8EncodeChar (Nat.not_lt.1 hlt) hmem
      rw [hself] at hle
      exact absurd hc (Nat.not_lt.2 hle)
  · intro hmem
    exact ⟨c, hmem, by rw [utf8EncodeChar_of_lt hc]; exact List.mem_singleton_self _⟩

end Utf8

namespace Digest

variable {entry other : String × String} {entries others : List (String × String)}
  {t u : TextTable String}

section Order

theorem entryLe_iff : entryLe entry other = true ↔ toLex entry ≤ toLex other := by
  rw [Prod.Lex.toLex_le_toLex, entryLe]
  simp only [Bool.or_eq_true, Bool.and_eq_true, decide_eq_true_eq, beq_iff_eq, Bool.not_eq_true',
    decide_eq_false_iff_not, not_lt]

/-- Entries with one label are told apart by their digests, so there is one sorted order only. -/
theorem mergeSort_eq_iff :
    entries.mergeSort entryLe = others.mergeSort entryLe ↔ entries.Perm others := by
  have hsorted : ∀ entries : List (String × String),
      (entries.mergeSort entryLe).Pairwise fun a b => entryLe a b = true := by
    refine List.pairwise_mergeSort (fun a b c hab hbc => ?_) fun a b => ?_
    · rw [entryLe_iff] at *
      exact hab.trans hbc
    · rw [Bool.or_eq_true, entryLe_iff, entryLe_iff]
      exact le_total _ _
  have hperm := fun entries : List (String × String) => List.mergeSort_perm entries entryLe
  constructor
  · intro h
    exact (hperm entries).symm.trans (h ▸ hperm others)
  · intro h
    refine List.Perm.eq_of_pairwise (fun a b _ _ hab hba => ?_) (hsorted _) (hsorted _)
      ((hperm entries).trans (h.trans (hperm others).symm))
    rw [entryLe_iff] at hab hba
    exact toLex_inj.1 (hab.antisymm hba)

end Order

section Bytes

/-- The byte that closes the label does not occur in it, nor the one that closes the digest. -/
structure IsClosed (entry : String × String) : Prop where
  label : '\x00' ∉ entry.1.toList
  digest : '\n' ∉ entry.2.toList

instance : DecidablePred IsClosed := fun entry =>
  decidable_of_iff ('\x00' ∉ entry.1.toList ∧ '\n' ∉ entry.2.toList)
    ⟨fun h => ⟨h.1, h.2⟩, fun h => ⟨h.label, h.digest⟩⟩

def AllClosed (entries : List (String × String)) : Prop := ∀ entry ∈ entries, IsClosed entry

instance : DecidablePred AllClosed := fun entries =>
  inferInstanceAs (Decidable (∀ entry ∈ entries, IsClosed entry))

theorem append_cons_inj {a b x y : List UInt8} {c : UInt8} (ha : c ∉ a) (hb : c ∉ b)
    (h : a ++ c :: x = b ++ c :: y) : a = b ∧ x = y := by
  induction a generalizing b with
  | nil =>
      cases b with
      | nil => exact ⟨rfl, (List.cons.inj h).2⟩
      | cons d b => exact absurd (List.cons.inj h).1 (List.ne_of_not_mem_cons hb)
  | cons d a ih =>
      obtain ⟨hd, ha⟩ := List.ne_and_not_mem_of_not_mem_cons ha
      cases b with
      | nil => exact absurd (List.cons.inj h).1.symm hd
      | cons e b =>
          obtain ⟨rfl, hrest⟩ := List.cons.inj h
          obtain ⟨rfl, rfl⟩ := ih ha (List.not_mem_of_not_mem_cons hb) hrest
          exact ⟨rfl, rfl⟩

theorem entryBytes_append (entry : String × String) (rest : List UInt8) :
    entryBytes entry ++ rest =
      entry.1.toUTF8.toList ++ 0 :: (entry.2.toUTF8.toList ++ 10 :: rest) := by
  simp [entryBytes]

/-- The bytes of an entry tell where it ends. -/
theorem entryBytes_append_inj (h : IsClosed entry) (h' : IsClosed other) {x y : List UInt8}
    (heq : entryBytes entry ++ x = entryBytes other ++ y) : entry = other ∧ x = y := by
  have hlabel : ∀ {entry}, IsClosed entry → (0 : UInt8) ∉ entry.1.toUTF8.toList := fun h hmem =>
    h.label ((Utf8.mem_toUTF8 (c := '\x00') (by decide)).1 hmem)
  have hdigest : ∀ {entry}, IsClosed entry → (10 : UInt8) ∉ entry.2.toUTF8.toList := fun h hmem =>
    h.digest ((Utf8.mem_toUTF8 (c := '\n') (by decide)).1 hmem)
  rw [entryBytes_append, entryBytes_append] at heq
  obtain ⟨hfirst, heq⟩ := append_cons_inj (hlabel h) (hlabel h') heq
  obtain ⟨hsecond, hrest⟩ := append_cons_inj (hdigest h) (hdigest h') heq
  exact ⟨Prod.ext (Utf8.toList_toUTF8_inj.1 hfirst) (Utf8.toList_toUTF8_inj.1 hsecond), hrest⟩

theorem flatMap_entryBytes_inj (h : AllClosed entries) (h' : AllClosed others)
    (heq : entries.flatMap entryBytes = others.flatMap entryBytes) : entries = others := by
  have hne : ∀ (entry : String × String) (rest : List UInt8), entryBytes entry ++ rest ≠ [] := by
    intro entry rest
    rw [entryBytes_append]
    simp
  induction entries generalizing others with
  | nil =>
      cases others with
      | nil => rfl
      | cons other others => exact absurd heq.symm (hne other _)
  | cons entry entries ih =>
      cases others with
      | nil => exact absurd heq (hne entry _)
      | cons other others =>
          obtain ⟨hentry, hentries⟩ := List.forall_mem_cons.1 h
          obtain ⟨hother, hothers⟩ := List.forall_mem_cons.1 h'
          rw [List.flatMap_cons, List.flatMap_cons] at heq
          obtain ⟨rfl, hrest⟩ := entryBytes_append_inj hentry hother heq
          rw [ih hentries hothers hrest]

/-- The bytes of a list of entries tell it up to its order. -/
theorem stream_eq_iff (h : AllClosed entries) (h' : AllClosed others) :
    stream entries = stream others ↔ entries.Perm others := by
  rw [← mergeSort_eq_iff, stream, stream]
  refine ⟨flatMap_entryBytes_inj (fun entry hentry => ?_) fun entry hentry => ?_,
    fun heq => by rw [heq]⟩
  · exact h entry (List.mem_mergeSort.1 hentry)
  · exact h' entry (List.mem_mergeSort.1 hentry)

end Bytes

section Outputs

/-- Tables with the same bytes are the same table. -/
theorem stream_entries_eq_iff (ht : t.Ordered) (hu : u.Ordered) (htclosed : AllClosed t.entries)
    (huclosed : AllClosed u.entries) :
    stream t.entries = stream u.entries ↔ ∀ name, t.get? name = u.get? name := by
  rw [stream_eq_iff htclosed huclosed]
  constructor
  · intro hperm name
    refine Option.ext fun value => ?_
    rw [TextTable.get?_eq_some_iff ht, TextTable.get?_eq_some_iff hu, hperm.mem_iff]
  · intro hget
    rw [TextTable.eq_of_get? ht hu hget]

/-- Two lists of entries have the same bytes if and only if each is a rearrangement of the other.
So the identifier of a table of outputs depends on the table alone, and two tables share their
aggregate digest only if they are the same or the digest has the same value for two different
streams of bytes. -/
theorem aggregate_identifies (h : AllClosed entries) (h' : AllClosed others) (ht : t.Ordered)
    (hu : u.Ordered) (htclosed : AllClosed t.entries) (huclosed : AllClosed u.entries) :
    (stream entries = stream others ↔ entries.Perm others) ∧
      (entries.Perm t.entries → short (aggregate entries) = ofOutputs t) ∧
      ((∀ name, t.get? name = u.get? name) → ofOutputs t = ofOutputs u) ∧
      (aggregate t.entries = aggregate u.entries ↔
        (∀ name, t.get? name = u.get? name) ∨
          (stream t.entries ≠ stream u.entries ∧
            Blake3.hex (stream t.entries) = Blake3.hex (stream u.entries))) := by
  refine ⟨stream_eq_iff h h', fun hperm => ?_, fun hget => ?_, ?_⟩
  · rw [ofOutputs, aggregate, aggregate, (stream_eq_iff h htclosed).2 hperm]
  · rw [TextTable.eq_of_get? ht hu hget]
  · rw [← stream_entries_eq_iff ht hu htclosed huclosed, aggregate, aggregate]
    by_cases heq : stream t.entries = stream u.entries
    · simp [heq]
    · simp [heq]

/-- The entries are listed backwards. A label has a line end and a digest a zero character. -/
theorem aggregate_identifies_backwards :
    AllClosed [("c", "2"), ("a\nb", "1\x00")] ∧
      stream [("c", "2"), ("a\nb", "1\x00")] ≠ stream [("c", "2"), ("a\n", "b1\x00")] ∧
      short (aggregate [("c", "2"), ("a\nb", "1\x00")]) =
        ofOutputs (.ofList [("a\nb", "1\x00"), ("c", "2")]) ∧
      ofOutputs (.ofList [("a\nb", "1\x00"), ("c", "2")]) =
        ofOutputs (.ofList [("c", "2"), ("a\nb", "0"), ("a\nb", "1\x00")]) := by
  have hclosed : AllClosed [("c", "2"), ("a\nb", "1\x00")] := by decide
  have hothers : AllClosed [("c", "2"), ("a\n", "b1\x00")] := by decide
  have hall := aggregate_identifies hclosed hothers
    (TextTable.ordered_ofList [("a\nb", "1\x00"), ("c", "2")])
    (TextTable.ordered_ofList [("c", "2"), ("a\nb", "0"), ("a\nb", "1\x00")])
    (by decide) (by decide)
  have hsame : TextTable.ofList [("a\nb", "1\x00"), ("c", "2")] =
      .ofList [("c", "2"), ("a\nb", "0"), ("a\nb", "1\x00")] := by decide
  refine ⟨hclosed, fun heq => absurd (hall.1.1 heq) (by decide), hall.2.1 (by decide),
    hall.2.2.1 fun name => by rw [hsame]⟩

end Outputs

end Digest

end LiveBuild
