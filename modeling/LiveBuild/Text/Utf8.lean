/-!
Reading text from bytes. Bytes that are not UTF-8 are reported by the length of the part before
them and, unless the bytes only end too early, by how many of them form no character.
-/

namespace LiveBuild.Utf8

structure Malformed where
  validUpTo : Nat
  /-- The number of offending bytes; none when the last character is cut short. -/
  length? : Option Nat
deriving DecidableEq, Repr, Inhabited

def Malformed.message (e : Malformed) : String :=
  match e.length? with
  | some n => "invalid utf-8 sequence of " ++ toString n ++ " bytes from index " ++
      toString e.validUpTo
  | none => "incomplete utf-8 byte sequence from index " ++ toString e.validUpTo

def isContinuation (b : UInt8) : Bool := 0x80 ≤ b && b ≤ 0xBF

/-- The range of the second byte behind a leading byte, with the number of bytes after that. -/
def follow? (lead : UInt8) : Option (UInt8 × UInt8 × Nat) :=
  if 0xC2 ≤ lead && lead ≤ 0xDF then some (0x80, 0xBF, 0)
  else if lead == 0xE0 then some (0xA0, 0xBF, 1)
  else if lead == 0xED then some (0x80, 0x9F, 1)
  else if 0xE1 ≤ lead && lead ≤ 0xEF then some (0x80, 0xBF, 1)
  else if lead == 0xF0 then some (0x90, 0xBF, 2)
  else if 0xF1 ≤ lead && lead ≤ 0xF3 then some (0x80, 0xBF, 2)
  else if lead == 0xF4 then some (0x80, 0x8F, 2)
  else none

/-- The length of the first character of some bytes, or what is wrong with it. -/
def step (bytes : List UInt8) : Except (Option Nat) Nat :=
  match bytes with
  | [] => .error none
  | lead :: rest =>
      if lead < 0x80 then .ok 1
      else
        match follow? lead with
        | none => .error (some 1)
        | some (low, high, more) =>
            match rest with
            | [] => .error none
            | second :: rest =>
                if !(low ≤ second && second ≤ high) then .error (some 1)
                else
                  let tail := (rest.take more).takeWhile isContinuation
                  if tail.length = more then .ok (2 + more)
                  else if rest.length ≤ tail.length then .error none
                  else .error (some (2 + tail.length))

/-- The first place where some bytes stop being UTF-8, looking at no more than `fuel` characters. -/
def firstMalformed : Nat → Nat → List UInt8 → Option Malformed
  | 0, _, _ => none
  | _, _, [] => none
  | fuel + 1, position, bytes =>
      match step bytes with
      | .error length? => some ⟨position, length?⟩
      | .ok n => firstMalformed fuel (position + n) (bytes.drop n)

def decode (bytes : ByteArray) : Except Malformed String :=
  match String.fromUTF8? bytes with
  | some text => .ok text
  | none => .error ((firstMalformed bytes.size 0 bytes.toList).getD ⟨0, none⟩)

end LiveBuild.Utf8
