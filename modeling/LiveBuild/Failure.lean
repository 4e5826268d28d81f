/-!
# Failures

What went wrong, told from the outside in: what was attempted, and below it why that did not
succeed.
-/

namespace LiveBuild

structure Failure where
  message : String
  causes : List String := []
deriving DecidableEq, Repr, Inhabited

namespace Failure

/-- The failure as part of something larger that was attempted. -/
def within (f : Failure) (message : String) : Failure :=
  { message, causes := f.message :: f.causes }

def chain (f : Failure) : List String := f.message :: f.causes

/-- The whole story in one line. -/
def oneLine (f : Failure) : String := ": ".intercalate f.chain

def indented (first later : String) (text : String) : String :=
  let rec go : List Char → List Char
    | [] => []
    | '\n' :: rest => '\n' :: later.toList ++ go rest
    | c :: rest => c :: go rest
  first ++ String.ofList (go text.toList)

def numbered (i : Nat) (text : String) : String :=
  let digits := toString i
  let pad := String.ofList (List.replicate (5 - digits.length) ' ')
  indented (pad ++ digits ++ ": ") "       " text

def report (f : Failure) : String :=
  match f.causes with
  | [] => f.message
  | [cause] => f.message ++ "\n\nCaused by:\n" ++ indented "    " "    " cause
  | causes =>
      f.message ++ "\n\nCaused by:\n" ++
        "\n".intercalate (causes.mapIdx fun i cause => numbered i cause)

end Failure

end LiveBuild
