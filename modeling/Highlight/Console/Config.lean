import Highlight.Analyzer.Command
import Highlight.Toml.Reader

/-!
# User settings

The user's defaults for the command line, as a TOML file. Settings that it does not know make the
file invalid. On the command line an unreadable or invalid file counts as no settings.
-/

namespace Highlight

/-- The semantic analyzer to run. -/
structure AnalyzerConfig where
  program : Option String := none
  /-- Arguments that come before the flags. -/
  arguments : List String := []
  /-- Flags that come before the file. -/
  flags : List String := Command.defaultFlags
deriving Repr, DecidableEq

/-- The settings. -/
structure Config where
  /-- Theme file, if not the built-in theme. -/
  theme : Option String := none
  semantic : Bool := false
  explain : Bool := false
  background : Option String := none
  analyzer : AnalyzerConfig := {}
deriving Repr, DecidableEq

namespace AnalyzerConfig

/-- The command to run, if a program is set. -/
def command? (c : AnalyzerConfig) : Option Command :=
  c.program.map fun program => ⟨program, c.arguments⟩

/-- The settings of the analyzer from their data. -/
def ofDatum? (d : Datum) : Option AnalyzerConfig := do
  let [program, arguments, flags] ←
    d.record? { fields := [["program"], ["args"], ["flags"]], closed := true, surplus := true }
    | none
  return { program := ← Datum.field? program none Datum.optionalText?
           arguments := ← Datum.field? arguments [] (·.listOf? Datum.text?)
           flags := ← Datum.field? flags Command.defaultFlags (·.listOf? Datum.text?) }

end AnalyzerConfig

namespace Config

/-- Settings from their data. -/
def ofDatum? (d : Datum) : Option Config := do
  let [theme, semantic, explain, background, analyzer] ←
    d.record? { fields := [["theme"], ["semantic"], ["explain"], ["background"], ["analyzer"]],
                closed := true, surplus := true } | none
  return { theme := ← Datum.field? theme none Datum.optionalText?
           semantic := ← Datum.field? semantic false Datum.bool?
           explain := ← Datum.field? explain false Datum.bool?
           background := ← Datum.field? background none Datum.optionalText?
           analyzer := ← Datum.field? analyzer {} AnalyzerConfig.ofDatum? }

/-- Reads settings. -/
def parse (text : String) : Except Failure Config :=
  match (Toml.parse? text).bind ofDatum? with
  | some config => .ok config
  | none => .error .invalidToml

/-- The settings of a file; the defaults where it is missing or invalid. -/
def ofFile (contents : Option (List UInt8)) : Config :=
  match (contents.bind Utf8.text?).map parse with
  | some (.ok config) => config
  | _ => {}

end Config

end Highlight
