import CoopSched.Config
import CoopSched.Error
/-!
# Loading a configuration

A configuration is the content of a file. The text is read by a `Reader`, whatever its notation is, and what
could be read must not have a configuration fault.
-/

namespace CoopSched.Config

/-- What reads a text: it gives what the text says, or the reason why it says nothing. -/
abbrev Reader := String → Except String SchedulerConf

/-- The words that begin the message about a text that is no configuration document. -/
def syntaxReason : String := "Failed to parse YAML"

/-- Load the configuration in a text. -/
def load (read : Reader) (text : String) : Except Error SchedulerConf :=
  match read text with
  | .error reason => .error (.invalidConfig (syntaxReason ++ ": " ++ reason))
  | .ok conf =>
    match conf.fault? with
    | some fault => .error (.invalidConfig fault.message)
    | none => .ok conf

/-- What a path can lead to. -/
inductive File where
  | missing
  | directory
  | bytes (content : ByteArray)

/-- Load the configuration at a path. The content has to be UTF-8. -/
def loadFile (read : Reader) (path : String) : File → Except Error SchedulerConf
  | .missing => .error (.configFileNotFound path)
  | .directory => .error (.ioError "Is a directory (os error 21)")
  | .bytes content =>
    match String.fromUTF8? content with
    | none => .error (.ioError "stream did not contain valid UTF-8")
    | some text => load read text

end CoopSched.Config
