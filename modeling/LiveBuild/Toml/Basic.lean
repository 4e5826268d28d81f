/-!
# TOML values

Numbers with a fraction, truth values and times are kept only as values of another kind, since no
setting takes one.
-/

namespace LiveBuild

inductive Toml where
  | text (s : String)
  | integer (n : Int)
  | other
  | array (items : List Toml)
  | table (entries : List (String × Toml))
deriving Repr, Inhabited

end LiveBuild
