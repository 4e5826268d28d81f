import LiveBuild.Digest
import LiveBuild.Path.Map

/-!
# Loaded modules

A built module is read when it is first asked for, and again only after it was dropped.
-/

namespace LiveBuild

structure LoadedModule where
  code : String
  digest : String
deriving DecidableEq, Repr, Inhabited

structure LoadedModules where
  modules : PathMap LoadedModule := {}
deriving Inhabited

namespace LoadedModules

def load {σ : Type} [FileStore σ] (m : LoadedModules) (store : σ) (dest : Path) :
    LoadedModules × Except Failure LoadedModule :=
  match m.modules.get? dest with
  | some found => (m, .ok found)
  | none =>
      match FileStore.readText store dest with
      | .error e => (m, .error e)
      | .ok code =>
          let fresh : LoadedModule := ⟨code, Digest.ofText code⟩
          (⟨m.modules.insert dest fresh⟩, .ok fresh)

def drop (m : LoadedModules) (dest : Path) : LoadedModules := ⟨m.modules.erase dest⟩

def contains (m : LoadedModules) (dest : Path) : Bool := m.modules.contains dest

def size (m : LoadedModules) : Nat := m.modules.size

def isEmpty (m : LoadedModules) : Bool := m.modules.isEmpty

end LoadedModules

end LiveBuild
