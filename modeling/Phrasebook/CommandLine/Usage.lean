import Phrasebook.CommandLine.Reader

/-!
# Reports about the command line
-/

namespace Phrasebook.CommandLine

def versionLine : Text := "letterpress 0.1.0"

def usage : Text := Text.join "\n" [
  "Locale-aware message template rendering",
  "",
  "Usage: letterpress <COMMAND> [OPTIONS] <NAME>",
  "",
  "Commands:",
  "  render  Render a named template and print the message",
  "  locate  Print the path of the resource a template name resolves to",
  "  help    Print this message",
  "",
  "Options:",
  "      --config-dir <DIR>       Directory holding the configuration file [default: .]",
  "  -r, --resources <DIR>        Directory holding template resources",
  "  -l, --locale <TAG>           Locale tag such as de-DE",
  "  -v, --verbose                Increase logging verbosity",
  "  -h, --help                   Print help",
  "",
  "Options of render:",
  "  -e, --engine <ENGINE>        Render engine: placeholder or minijinja",
  "      --default-value <TEXT>   Text used for placeholders that cannot be resolved",
  "  -m, --model <MODEL>          Model as a JSON object, or - to read from stdin",
  "      --model-file <PATH>      Path of a JSON file holding the model"]

namespace Fault

def reason : Fault → Text
  | help => "help was asked for"
  | version => "the version was asked for"
  | noCommand => "a command is required"
  | unknownCommand => "unrecognized subcommand"
  | noName => "the name of a template is required"
  | unknownArgument => "unexpected argument found"
  | unusableValue => "an option has no value that it takes"
  | surplusValue => "an option that takes no value has one"
  | conflict => "options cannot be used together"

/-- What a command line without a command is answered by. -/
structure Report where
  text : Text
  isError : Bool
  exitCode : UInt32

/-- Help and version are answers, a missing command or name is answered by the usage, and all else
is an error. -/
def report : Fault → Report
  | help => ⟨usage, false, 0⟩
  | version => ⟨versionLine, false, 0⟩
  | noCommand | noName => ⟨usage, false, 1⟩
  | fault => ⟨"error: " ++ fault.reason, true, 2⟩

end Fault

end Phrasebook.CommandLine
