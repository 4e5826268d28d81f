/-!
# Routes of chunks
-/

namespace LiveBuild.Route

def slashed (text : List Char) : List Char := text.map fun c => if c = '\\' then '/' else c

def dropTrailing (c : Char) (text : List Char) : List Char :=
  (text.reverse.dropWhile (· = c)).reverse

def withoutSuffix? (suffix text : List Char) : Option (List Char) :=
  if suffix.isSuffixOf text then some (text.take (text.length - suffix.length)) else none

/-- A name below a root, which has to end where the name has a slash; other names stay whole. -/
def below (root name : List Char) : List Char :=
  if root.isPrefixOf name then
    let rest := name.drop root.length
    if root.isEmpty then rest
    else
      match rest with
      | '/' :: rest => rest
      | _ => name
  else
    name

/-- The route of a chunk: its name below the root, without the ending that says what kind of file it
is or that it is the index of its directory. -/
def ofChunk (name root : String) : String :=
  let root := dropTrailing '/' (slashed root.toList)
  let path := '/' :: (below root (slashed name.toList)).dropWhile (· = '/')
  let route :=
    match withoutSuffix? "/index.js".toList path with
    | some rest => rest
    | none => (withoutSuffix? ".js".toList path).getD path
  if route.isEmpty then "/" else String.ofList route

end LiveBuild.Route
