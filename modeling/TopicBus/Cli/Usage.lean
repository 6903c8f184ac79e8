import TopicBus.Cli.Arguments

namespace TopicBus.Cli

structure Entry where
  form : String
  effect : String

namespace Entry

def lines (entries : List Entry) : List String :=
  let width := entries.foldl (fun width entry => max width entry.form.length) 0
  entries.map fun entry =>
    "    " ++ String.ofList (entry.form.toList.rightpad width ' ') ++ "    " ++ entry.effect

def table (title : String) (entries : List Entry) : List String :=
  if entries.isEmpty then [] else "" :: title :: lines entries

def ofCommand (command : Command) : Entry := ⟨command.word, command.summary⟩

def ofParameter (parameter : Parameter) : Entry where
  form := parameter.short.elim "    " (fun letter => "-" ++ letter.toString ++ ", ") ++
    "--" ++ parameter.long ++ " <" ++ parameter.placeholder ++ ">"
  effect := parameter.summary ++ " [default: " ++ parameter.default ++ "]"

end Entry

namespace Subject

def heading : Subject → String
  | program => "epochbus-cli " ++ version.text
  | command c => "epochbus-cli-" ++ c.word ++ " "
  | help => "epochbus-cli-help "

def summary : Subject → String
  | program => "epochbus topic latency and stress driver"
  | command c => c.summary
  | help => "Prints this message or the help of the given subcommand(s)"

def form : Subject → String
  | program => "epochbus-cli [SUBCOMMAND]"
  | command c =>
    "epochbus-cli " ++ c.word ++ if c.parameters.isEmpty then "" else " [OPTIONS]"
  | help => "epochbus-cli help [subcommand]..."

def arguments : Subject → List Entry
  | help => [⟨"<subcommand>...", "The subcommand whose help message to display"⟩]
  | _ => []

def flags : Subject → List Entry
  | help => []
  | _ =>
    [⟨"-h, --help", "Prints help information"⟩, ⟨"-V, --version", "Prints version information"⟩]

def options : Subject → List Entry
  | command c => c.parameters.map .ofParameter
  | _ => []

def commands : Subject → List Entry
  | program => ⟨"help", help.summary⟩ :: [Command.info, .latency, .stress].map .ofCommand
  | _ => []

def usage (subject : Subject) : List String :=
  [subject.heading, subject.summary, "", "USAGE:", "    " ++ subject.form] ++
    Entry.table "ARGS:" subject.arguments ++ Entry.table "FLAGS:" subject.flags ++
    Entry.table "OPTIONS:" subject.options ++ Entry.table "SUBCOMMANDS:" subject.commands

end Subject

end TopicBus.Cli
