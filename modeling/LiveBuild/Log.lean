import LiveBuild.Text.Unicode.Ranges

/-!
# Levels of log lines

The levels from the most severe one on. A threshold lets through the lines of its own level and of
every more severe one.
-/

namespace LiveBuild

inductive LogLevel where
  | error
  | warn
  | info
  | debug
  | trace
deriving DecidableEq, Repr, Inhabited

namespace LogLevel

def all : List LogLevel := [error, warn, info, debug, trace]

def name : LogLevel → String
  | error => "error"
  | warn => "warn"
  | info => "info"
  | debug => "debug"
  | trace => "trace"

def label (level : LogLevel) : String := level.name.toUpper

/-- The level of a name that is spelled exactly so. -/
def ofName? (name : String) : Option LogLevel := all.find? fun level => level.name == name

def rank : LogLevel → Nat
  | error => 0
  | warn => 1
  | info => 2
  | debug => 3
  | trace => 4

def allows (threshold level : LogLevel) : Bool := decide (level.rank ≤ threshold.rank)

def trimmed (text : List Char) : List Char :=
  ((text.dropWhile Unicode.isSpace).reverse.dropWhile Unicode.isSpace).reverse

/-- The level that the environment asks for, in any case and with blanks around it. No letter
outside of ASCII has one of the letters of these names as its lower case. -/
def ofSetting? (text : String) : Option LogLevel :=
  let name := String.ofList ((trimmed text.toList).map Char.toLower)
  if name = "warning" then some warn else ofName? name

/-- The threshold of a run: what the command line says comes before what the environment says. -/
def threshold (given? : Option LogLevel) (setting? : Option String) : LogLevel :=
  (given? <|> setting?.bind ofSetting?).getD info

end LogLevel

end LiveBuild
