import LiveBuild.Glob
import LiveBuild.Pattern.Parser

/-!
# How globs and patterns are read

Settings hold globs and patterns as texts. Whoever checks settings, and whoever starts from them
later, reads these texts by the same grammars.
-/

namespace LiveBuild

structure Grammars where
  glob : String → Except Glob.Error Glob := Glob.parse
  /-- Why globs that can be read one by one cannot be matched together, if they cannot. -/
  conflict? : List Glob → Option String := fun _ => none
  pattern? : String → Option Pattern := Pattern.parse?

end LiveBuild
