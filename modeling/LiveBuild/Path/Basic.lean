/-!
Paths of a slash-separated file tree. A path keeps the spelling it was given. What it names is the
list of its components: empty pieces and inner single dots add nothing, so `a//b`, `a/./b` and
`a/b/` name one place, while `./a` and `a` do not.
-/

namespace LiveBuild

inductive Component where
  | root
  | here
  | up
  | name (text : String)
deriving DecidableEq, Repr, Inhabited

namespace Component

def text : Component → String
  | root => "/"
  | here => "."
  | up => ".."
  | name text => text

def isName : Component → Bool
  | name _ => true
  | _ => false

/-- Components sort by kind, ordinary names last and among themselves by their characters. -/
def key : Component → Nat × String
  | root => (0, "")
  | here => (1, "")
  | up => (2, "")
  | name text => (3, text)

theorem key_inj {a b : Component} : a.key = b.key ↔ a = b := by
  cases a <;> cases b <;> simp [key]

instance : Ord Component :=
  ⟨compareLex (compareOn fun c => c.key.1) (compareOn fun c => c.key.2)⟩

/-- The component that a piece strictly inside a path stands for. -/
def ofPiece? : List Char → Option Component
  | [] => none
  | ['.'] => none
  | ['.', '.'] => some up
  | piece => some (name (String.ofList piece))

end Component

/-- A component together with the range of characters that spell it. -/
structure Component.Span where
  component : Component
  start : Nat
  stop : Nat
deriving DecidableEq, Repr, Inhabited

namespace Path

/-- The pieces of a text between its slashes; a text without a slash is one piece. -/
def pieces : List Char → List (List Char)
  | [] => [[]]
  | c :: rest =>
      if c = '/' then
        [] :: pieces rest
      else
        match pieces rest with
        | [] => [[c]]
        | piece :: others => (c :: piece) :: others

/-- The components of consecutive pieces, the first of which begins at character `start`. -/
def spansOfPieces : Nat → List (List Char) → List Component.Span
  | _, [] => []
  | start, piece :: rest =>
      let others := spansOfPieces (start + piece.length + 1) rest
      match Component.ofPiece? piece with
      | none => others
      | some component => ⟨component, start, start + piece.length⟩ :: others

/-- The components of a text in order. A leading slash is the root, and a leading single dot is
kept. -/
def spansOf : List Char → List Component.Span
  | [] => []
  | '/' :: rest => ⟨.root, 0, 1⟩ :: spansOfPieces 1 (pieces rest)
  | text =>
      match pieces text with
      | ['.'] :: rest => ⟨.here, 0, 1⟩ :: spansOfPieces 2 rest
      | all => spansOfPieces 0 all

def componentsOf (text : List Char) : List Component :=
  (spansOf text).map (·.component)

end Path

/-- A path: its spelling, with the components that the spelling denotes. -/
structure Path where
  text : String
  components : List Component := Path.componentsOf text.toList
  components_eq : components = Path.componentsOf text.toList := by rfl

namespace Path

def ofString (text : String) : Path := { text }

@[ext]
theorem ext {p q : Path} (h : p.text = q.text) : p = q := by
  obtain ⟨text, components, hp⟩ := p
  obtain ⟨text', components', hq⟩ := q
  simp only at h
  subst h hp hq
  rfl

@[simp] theorem text_ofString (text : String) : (ofString text).text = text := rfl

@[simp] theorem ofString_text (p : Path) : ofString p.text = p := ext rfl

instance : DecidableEq Path := fun p q =>
  if h : p.text = q.text then isTrue (ext h) else isFalse fun heq => h (by rw [heq])

instance : Inhabited Path := ⟨ofString ""⟩

instance : Repr Path := ⟨fun p n => reprPrec p.text n⟩

instance : ToString Path := ⟨text⟩

instance : Coe String Path := ⟨ofString⟩

/-- Two paths name the same place when their components agree, whatever their spelling. -/
def same (p q : Path) : Bool := p.components == q.components

theorem same_iff {p q : Path} : p.same q = true ↔ p.components = q.components := by
  simp [same]

def spans (p : Path) : List Component.Span := spansOf p.text.toList

theorem components_eq_spans (p : Path) : p.components = p.spans.map (·.component) :=
  p.components_eq

/-- The part of the spelling from one character position up to another. -/
def slice (p : Path) (start stop : Nat) : Path :=
  ofString (String.ofList ((p.text.toList.take stop).drop start))

def isAbsolute (p : Path) : Bool := p.text.toList.head? == some '/'

def isEmpty (p : Path) : Bool := p.text.toList.isEmpty

/-- The right path seen from the left one. An absolute right path stands for itself, and an empty
one leaves a trailing slash. -/
def join (p q : Path) : Path :=
  if q.isAbsolute then
    q
  else if p.isEmpty || p.text.toList.getLast? == some '/' then
    ofString (p.text ++ q.text)
  else
    ofString (p.text ++ "/" ++ q.text)

/-- Everything before the last component; the root and the empty path have no parent. -/
def parent? (p : Path) : Option Path :=
  match p.spans.reverse with
  | [] => none
  | last :: before =>
      if last.component = .root then
        none
      else
        match before with
        | [] => some (ofString "")
        | previous :: _ => some (p.slice 0 previous.stop)

def fileName? (p : Path) : Option String :=
  match p.components.getLast? with
  | some (.name text) => some text
  | _ => none

/-- A file name cut at its last dot. A name whose only dot is its first character has no
extension. -/
def splitName (name : List Char) : List Char × Option (List Char) :=
  match name.reverse.span (· ≠ '.') with
  | (_, []) => (name, none)
  | (_, [_]) => (name, none)
  | (suffix, _ :: stem) => (stem.reverse, some suffix.reverse)

def extension? (p : Path) : Option String :=
  p.fileName?.bind fun name => (splitName name.toList).2.map String.ofList

/-- The extension with its dot in front. -/
def suffix? (p : Path) : Option String :=
  p.extension?.map ("." ++ ·)

/-- The path with the extension of its last component replaced or added. -/
def withExtension (p : Path) (extension : String) : Path :=
  match p.spans.getLast?, p.fileName? with
  | some last, some name =>
      let stem := p.slice 0 (last.start + (splitName name.toList).1.length)
      if extension.isEmpty then stem else ofString (stem.text ++ "." ++ extension)
  | _, _ => p

def startsWith (p base : Path) : Bool := base.components.isPrefixOf p.components

/-- What is left of a path behind the components of a base. -/
def relativeTo? (p base : Path) : Option Path :=
  if p.startsWith base then
    let rest := p.spans.drop base.components.length
    match rest.head?, rest.getLast? with
    | some first, some last => some (p.slice first.start last.stop)
    | _, _ => some (ofString "")
  else
    none

/-- The spelling with a suffix directly behind its last character. -/
def append (p : Path) (suffix : String) : Path := ofString (p.text ++ suffix)

/-- The spelling with a forward slash for every backslash. -/
def slashed (p : Path) : String :=
  p.text.map fun c => if c = '\\' then '/' else c

def ofComponents : List Component → Path
  | .root :: rest => ofString ("/" ++ "/".intercalate (rest.map (·.text)))
  | all => ofString ("/".intercalate (all.map (·.text)))

/-- One step of normalisation on a stack with the last component on top. -/
def pushNormal (stack : List Component) : Component → List Component
  | .here => stack
  | .up =>
      match stack with
      | .name _ :: below => below
      | .root :: _ => stack
      | _ => .up :: stack
  | component => component :: stack

def normalComponents (components : List Component) : List Component :=
  (components.foldl pushNormal []).reverse

/-- The path without single dots, and without a double dot wherever a name or the root precedes
it. -/
def normalize (p : Path) : Path := ofComponents (normalComponents p.components)

def le (p q : Path) : Bool := (compare p.components q.components).isLE

def sort (paths : List Path) : List Path := paths.mergeSort le

end Path

end LiveBuild
