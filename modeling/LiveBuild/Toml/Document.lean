import LiveBuild.Toml.Basic

/-!
# Documents under construction

A document grows by headers and by keys with values. Each table remembers how it came to be, since
that decides whether it may be opened again: a table that a header only passed through may still get
a header of its own, and a table made by a dotted key may only be extended by dotted keys.
-/

namespace LiveBuild.Toml

inductive Origin where
  | passed
  | header
  | dotted
deriving DecidableEq, Repr

inductive Node where
  | leaf (value : Toml)
  | table (origin : Origin) (entries : List (String × Node))
  /-- The tables of one repeated header, the last one first. -/
  | tables (items : List (List (String × Node)))
deriving Inhabited

abbrev Entries := List (String × Node)

namespace Entries

def find? (entries : Entries) (key : String) : Option Node :=
  (List.find? (fun entry => entry.1 == key) entries).map (·.2)

def put (entries : Entries) (key : String) (node : Node) : Entries :=
  if List.any entries fun entry => entry.1 == key then
    entries.map fun entry => if entry.1 == key then (key, node) else entry
  else
    entries ++ [(key, node)]

end Entries

/-- Open the table of a header. The last key must be new, or have been passed through only. -/
def openTable : List String → Entries → Option Entries
  | [], _ => none
  | [key], entries =>
      match Entries.find? entries key with
      | none => some (Entries.put entries key (.table .header []))
      | some (.table .passed inner) => some (Entries.put entries key (.table .header inner))
      | some _ => none
  | key :: rest, entries =>
      match Entries.find? entries key with
      | none => do return Entries.put entries key (.table .passed (← openTable rest []))
      | some (.table origin inner) => do
          return Entries.put entries key (.table origin (← openTable rest inner))
      | some (.tables (last :: before)) => do
          return Entries.put entries key (.tables ((← openTable rest last) :: before))
      | some _ => none

/-- Open one more table of a repeated header. -/
def openItem : List String → Entries → Option Entries
  | [], _ => none
  | [key], entries =>
      match Entries.find? entries key with
      | none => some (Entries.put entries key (.tables [[]]))
      | some (.tables items) => some (Entries.put entries key (.tables ([] :: items)))
      | some _ => none
  | key :: rest, entries =>
      match Entries.find? entries key with
      | none => do return Entries.put entries key (.table .passed (← openItem rest []))
      | some (.table origin inner) => do
          return Entries.put entries key (.table origin (← openItem rest inner))
      | some (.tables (last :: before)) => do
          return Entries.put entries key (.tables ((← openItem rest last) :: before))
      | some _ => none

/-- Give a value to a dotted key below a table. `isNested` says that the table was reached by a
dotted key, and `origin` how it came to be. -/
def assign (isNested : Bool) (origin : Origin) (value : Toml) :
    List String → Entries → Option Entries
  | [], _ => none
  | [key], entries =>
      if isNested && origin ≠ .dotted then none
      else
        match Entries.find? entries key with
        | none => some (Entries.put entries key (.leaf value))
        | some _ => none
  | key :: rest, entries =>
      match Entries.find? entries key with
      | none => do
          return Entries.put entries key (.table .dotted (← assign true .dotted value rest []))
      | some (.table .header _) => none
      | some (.table origin inner) => do
          return Entries.put entries key (.table origin (← assign true origin value rest inner))
      | some _ => none

/-- Change the table that a header has opened. -/
def within (change : Entries → Option Entries) : List String → Entries → Option Entries
  | [], entries => change entries
  | key :: rest, entries =>
      match Entries.find? entries key with
      | some (.table origin inner) => do
          return Entries.put entries key (.table origin (← within change rest inner))
      | some (.tables (last :: before)) => do
          return Entries.put entries key (.tables ((← within change rest last) :: before))
      | _ => none

mutual

def Node.value : Node → Toml
  | .leaf value => value
  | .table _ entries => .table (entryValues entries)
  | .tables items => .array (tableValues items)

def entryValues : List (String × Node) → List (String × Toml)
  | [] => []
  | (key, node) :: rest => (key, node.value) :: entryValues rest

/-- The values of repeated tables, in the order in which they were opened. -/
def tableValues : List (List (String × Node)) → List Toml
  | [] => []
  | entries :: rest => tableValues rest ++ [.table (entryValues entries)]

end

end LiveBuild.Toml
