import LiveBuild.Build.SourceTransform
import LiveBuild.Json.Printer
import LiveBuild.Path.Map

/-!
# Scripted transforms

A transform whose answers are fixed in advance for some sources, for rehearsing what a session does
when transformations fail, break down or take their time.
-/

namespace LiveBuild

structure ScriptedTransform where
  crashes : PathMap Unit := {}
  failures : PathMap (String × Option String) := {}
  outputs : PathMap SourceOutput := {}
  /-- For all other sources: answer with the options that came along. -/
  echoes : Bool := false
deriving Inhabited

namespace ScriptedTransform

def optionsJson (o : SourceContext) : Json :=
  .object [("extra", .object (o.extra.entries.map fun entry => (entry.1, .text entry.2))),
    ("sourceFileName", .text o.sourceFileName), ("sourceRoot", .text o.sourceRoot)]

def sourceTransform (script : ScriptedTransform) : SourceTransform := fun source text options =>
  if script.crashes.contains source then .crash
  else
    match script.failures.get? source with
    | some (message, stack?) => .failure message stack?
    | none =>
        match script.outputs.get? source with
        | some output => .output output
        | none =>
            let imports := Imports.scan text
            .output ⟨if script.echoes then (optionsJson options).compact else text, imports⟩

/-- Let a source be transformed again, whatever was to go wrong with it. -/
def mend (script : ScriptedTransform) (source : Path) : ScriptedTransform :=
  { script with crashes := script.crashes.erase source, failures := script.failures.erase source }

end ScriptedTransform

end LiveBuild
