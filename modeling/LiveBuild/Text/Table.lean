/-!
# Tables and sets of texts

Both are held in the order of their texts, without repetition, so that equal contents are equal
values and are written alike.
-/

namespace LiveBuild

structure TextTable (α : Type) where
  entries : List (String × α) := []
deriving Inhabited, DecidableEq, Repr

namespace TextTable

variable {α : Type}

def empty : TextTable α := {}

def insertOrdered (name : String) (value : α) : List (String × α) → List (String × α)
  | [] => [(name, value)]
  | (other, old) :: rest =>
      if name < other then (name, value) :: (other, old) :: rest
      else if name = other then (name, value) :: rest
      else (other, old) :: insertOrdered name value rest

def insert (t : TextTable α) (name : String) (value : α) : TextTable α :=
  ⟨insertOrdered name value t.entries⟩

/-- The last value given for a name is the one that counts. -/
def ofList (entries : List (String × α)) : TextTable α :=
  entries.foldl (fun t entry => t.insert entry.1 entry.2) empty

def get? (t : TextTable α) (name : String) : Option α :=
  (t.entries.find? fun entry => entry.1 == name).map (·.2)

def contains (t : TextTable α) (name : String) : Bool := (t.get? name).isSome

def keys (t : TextTable α) : List String := t.entries.map (·.1)

def filter (t : TextTable α) (keep : String → Bool) : TextTable α :=
  ⟨t.entries.filter fun entry => keep entry.1⟩

def isEmpty (t : TextTable α) : Bool := t.entries.isEmpty

end TextTable

structure TextSet where
  items : List String := []
deriving Inhabited, DecidableEq, Repr

namespace TextSet

def empty : TextSet := {}

def insertOrdered (name : String) : List String → List String
  | [] => [name]
  | other :: rest =>
      if name < other then name :: other :: rest
      else if name = other then other :: rest
      else other :: insertOrdered name rest

def insert (s : TextSet) (name : String) : TextSet := ⟨insertOrdered name s.items⟩

def ofList (names : List String) : TextSet := names.foldl insert empty

def contains (s : TextSet) (name : String) : Bool := s.items.contains name

def filter (s : TextSet) (keep : String → Bool) : TextSet := ⟨s.items.filter keep⟩

def union (s t : TextSet) : TextSet := t.items.foldl insert s

def difference (s t : TextSet) : TextSet := s.filter fun name => !t.contains name

def map (s : TextSet) (f : String → String) : TextSet := ofList (s.items.map f)

def isEmpty (s : TextSet) : Bool := s.items.isEmpty

end TextSet

end LiveBuild
