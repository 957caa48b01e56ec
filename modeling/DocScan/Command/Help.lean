import DocScan.Command.Report
import DocScan.Explain.Plain

/-!
# What outputs look like

An output as plain text for a terminal, among them what the program says about its use when it is
asked.
-/

namespace DocScan.Command

def Name.summary : Name → Text
  | .classify =>
    "classify [--array|--no-array] [--enum] [--primitive-only] NAME".toList ++
      "\n    Print the JSON schema kind of a type.".toList
  | .describe =>
    "describe [--strict] PATH FIELD".toList ++
      "\n    Print the description of a property in a component document.".toList
  | .options =>
    "options [--format table|json] PATH".toList ++
      "\n    List the options of an explain document.".toList

def help (name : Option Name) : Text :=
  let names := match name with
    | some name => [name]
    | none => Name.all
  "Usage: schemascan [--log-level LEVEL] COMMAND\n\n".toList ++
    Text.join ['\n'] (names.map fun name => ' ' :: ' ' :: name.summary)

def Output.shown : Output → Text
  | .verbatim text _ => text ++ ['\n']
  | .marked markup => Markup.plain markup ++ ['\n']
  | .table content => content.plain ++ ['\n']
  | .raw text => text
  | .help name => Command.help name ++ ['\n']

end DocScan.Command
