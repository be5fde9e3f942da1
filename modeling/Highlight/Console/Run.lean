import Highlight.Analyzer.Command
import Highlight.Console.Arguments
import Highlight.Console.Config
import Highlight.Highlighter
import Highlight.Theme.Reader
import Highlight.Token.Json

/-!
# The command line

Reads the settings, the theme and the source in this order, and stops at the first failure. The
language is the one asked for, or that of the file's extension. In semantic mode the configured
program is run on the source; how programs are run is left to a launcher.
-/

namespace Highlight.Console

/-- What a run leaves behind: its exit code, its output, and the failure that it reports. -/
structure Outcome where
  code : Nat := 0
  output : String := ""
  failure : Option Failure := none

/-- Name and version. -/
def version : String := "scopetint 0.1.0"

/-- The help text. -/
def help : String := "\n".intercalate
  [version ++ " - syntax highlighting with TextMate theme scopes",
   "",
   "Usage: scopetint [OPTIONS] [FILE]",
   "",
   "Reads standard input when FILE is missing or '-'.",
   "",
   "Options:",
   "  -l, --lang ID      Language id or alias (default: from file extension)",
   "  -t, --theme FILE   Theme file, VS Code JSON or TOML",
   "      --html         Write an HTML <pre> block",
   "      --json         Write tokens as JSON",
   "      --semantic     Recolor with the configured semantic analyzer",
   "      --explain      Include scope explanations (JSON output)",
   "  -h, --help         Show this help message",
   "  -V, --version      Show version information",
   "",
   "Configuration is read from ~/.scopetint.toml",
   "Set RUST_LOG=debug to see skipped semantic spans.",
   ""]

/-- The text of some contents. -/
def textOf (contents : Option (List UInt8)) : Except Failure String :=
  match contents.bind Utf8.text? with
  | some text => .ok text
  | none => .error .io

/-- The theme of a file, or the built-in one. -/
def theme (path : Option String) : Dialogue (Except Failure Theme) :=
  match path with
  | none => return .ok Theme.dark
  | some path => do
    let contents ← Dialogue.file path
    return do Theme.ofFile path (← textOf contents)

/-- The source of a file, or of the input. -/
def source (file : String) : Dialogue (Except Failure String) := do
  if file = "-" then
    let contents ← Dialogue.input
    return textOf (some contents)
  else
    let contents ← Dialogue.file file
    return textOf contents

/-- The language asked for, or that of the file. -/
def language (h : Highlighter) (asked : Option String) (file : String) : Except Failure String :=
  match asked <|> h.registry.detect? file with
  | some l => .ok l
  | none => .error (.unknownLanguage file)

/-- The analyzer that gives what the command finds in a source. -/
def analyzer (launch : Launcher) (command : Command) (flags : List String)
    (text language : String) : Dialogue Analyzer :=
  match SourceFile.ofDocument text language with
  | .error e => return fun _ => .error e
  | .ok file => do
    let found ← command.analyze launch flags file
    return fun _ => found

/-- The result in the form asked for. -/
def present (h : Highlighter) (format : Format) (text language : String)
    (analyzer : Option Analyzer) : Except Failure String :=
  match format with
  | .terminal => h.terminal text language analyzer
  | .html => (h.html text language analyzer).map (· ++ "\n")
  | .json => (h.tokens text language analyzer).map fun lines => (Json.ofLines lines).pretty ++ "\n"

/-- Highlights what the arguments ask for. -/
def highlight (launch : Launcher) (a : Arguments) : ExceptT Failure Dialogue String := do
  let config := Config.ofFile (← Dialogue.settings)
  let theme ← ExceptT.mk (theme (a.theme <|> config.theme))
  let h : Highlighter :=
    { theme, explain := a.explain || config.explain, background := config.background }
  let file := a.file.getD "-"
  let text ← ExceptT.mk (source file)
  let name ← language h a.language file
  if a.semantic || config.semantic then
    match config.analyzer.command? with
    | none => throw (.analyzer .notConfigured)
    | some command =>
      let analyzer ← analyzer launch command config.analyzer.flags text name
      present h a.format text name (some analyzer)
  else present h a.format text name none

/-- A run that ends with a failure. -/
def failed (e : Failure) : Outcome := { code := 1, failure := some e }

/-- Runs a command line. -/
def run (launch : Launcher) (arguments : List String) : Dialogue Outcome :=
  match Arguments.parse {} arguments with
  | .error e => return failed e
  | .ok .help => return { output := help }
  | .ok .version => return { output := version ++ "\n" }
  | .ok (.highlight a) => do
    match ← (highlight launch a).run with
    | .ok output => return { output }
    | .error e => return failed e

end Highlight.Console
