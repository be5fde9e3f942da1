/-!
# Failures

Everything that can go wrong for the caller, by cause. The wording is in one place,
`Failure.message`. What the surrounding system or a file format's reader would add to a text is not
part of it.
-/

namespace Highlight

/-- How a program ended. -/
inductive ExitStatus where
  | code (n : Nat)
  | signal (n : Nat)
deriving Repr, DecidableEq

namespace ExitStatus

/-- Names of the signals that end a program. -/
def signalName? (n : Nat) : Option String :=
  [(1, "SIGHUP"), (2, "SIGINT"), (3, "SIGQUIT"), (4, "SIGILL"), (6, "SIGABRT"), (8, "SIGFPE"),
   (9, "SIGKILL"), (10, "SIGUSR1"), (11, "SIGSEGV"), (12, "SIGUSR2"), (13, "SIGPIPE"),
   (14, "SIGALRM"), (15, "SIGTERM")].lookup n

/-- The status in words. -/
def text : ExitStatus → String
  | .code n => "exit status: " ++ toString n
  | .signal n =>
    "signal: " ++ toString n ++ ((signalName? n).map fun name => " (" ++ name ++ ")").getD ""

end ExitStatus

/-- What went wrong with a semantic analyzer. -/
inductive AnalyzerFailure where
  /-- Semantic mode was asked for and no program is configured. -/
  | notConfigured
  /-- There is no such program. -/
  | notFound (program : String)
  /-- The program ended without success and left a message. -/
  | exited (program : String) (status : ExitStatus) (report : String)
  /-- The program's output is no report. -/
  | undecodable
deriving Repr, DecidableEq

/-- What went wrong with the command line. -/
inductive UsageFailure where
  | missingValue (option : String)
  | unknownOption (option : String)
deriving Repr, DecidableEq

/-- Why an operation has no result. -/
inductive Failure where
  /-- A file could not be read or written, or is no text. -/
  | io
  | unknownLanguage (name : String)
  | analyzer (cause : AnalyzerFailure)
  | invalidJson
  | invalidToml
  | invalidColor (value : String)
  | usage (cause : UsageFailure)
deriving Repr, DecidableEq

namespace AnalyzerFailure

/-- The cause in words. -/
def message : AnalyzerFailure → String
  | .notConfigured => "semantic mode needs [analyzer] program in the config file"
  | .notFound program => program ++ ": No such file or directory (os error 2)"
  | .exited program status report => program ++ " exited with " ++ status.text ++ ": " ++ report
  | .undecodable => "undecodable output"

end AnalyzerFailure

namespace UsageFailure

/-- The cause in words. -/
def message : UsageFailure → String
  | .missingValue option => option ++ " needs a value"
  | .unknownOption option => "unknown option: " ++ option

end UsageFailure

namespace Failure

/-- The failure in words. -/
def message : Failure → String
  | .io => "I/O error"
  | .unknownLanguage name => "No grammar for language: " ++ name
  | .analyzer cause => "Semantic analyzer failed: " ++ cause.message
  | .invalidJson => "Invalid theme JSON"
  | .invalidToml => "Invalid TOML"
  | .invalidColor value => "Invalid color: " ++ value
  | .usage cause => "Usage: " ++ cause.message

end Failure

end Highlight
