import LiveBuild.Json.Basic

/-!
# Reading records and variants

A record may be written as an object, with its fields in any order and unknown fields passed over,
or as an array of its fields in order. A variant without fields is a text, or an object with its
name as the only key and null as the value.
-/

namespace LiveBuild.Json

def text? : Json → Option String
  | .text s => some s
  | _ => none

def nat64? : Json → Option Nat
  | .number (.natural n) => if n < UInt64.size then some n else none
  | _ => none

def arrayOf? {α : Type} (read : Json → Option α) : Json → Option (List α)
  | .array items => items.mapM read
  | _ => none

def texts? : Json → Option (List String) := arrayOf? text?

/-- A table from texts to texts; a later entry of a name stands for the earlier ones. -/
def textTable? : Json → Option (List (String × String))
  | .object fields => fields.mapM fun field => do return (field.1, ← text? field.2)
  | _ => none

/-- The values of named fields of an object; a field that occurs twice makes the object no
record. -/
def namedFields? (names : List String) (fields : List (String × Json)) :
    Option (List (Option Json)) :=
  names.mapM fun name =>
    match fields.filter (fun field => field.1 == name) with
    | [] => some none
    | [field] => some (some field.2)
    | _ => none

/-- The values of the fields of a record, absent ones as `none`. -/
def record? (names : List String) : Json → Option (List (Option Json))
  | .object fields => namedFields? names fields
  | .array items =>
      if items.length ≤ names.length then
        some (items.map some ++ List.replicate (names.length - items.length) none)
      else
        none
  | _ => none

def variantName? : Json → Option String
  | .text s => some s
  | .object [(name, .null)] => some name
  | _ => none

end LiveBuild.Json
