import TopicBus.Limits

/-!
The grammar of the command line: a command, then its options, each with one value. A value follows
its option as the next word, unless that looks like an option, or in the same word. Every option may
be given once, and has a default, which it takes also where it is given without a value.
-/

namespace TopicBus.Cli

structure Parameter where
  name : String
  short : Option Char
  long : String
  placeholder : String
  summary : String
  default : String
  deriving DecidableEq, Repr

inductive Command
  | latency
  | stress
  | info
  deriving DecidableEq, Repr

namespace Command

def word : Command → String
  | latency => "latency"
  | stress => "stress"
  | info => "info"

def summary : Command → String
  | latency => "Measure publish-to-observe latency through peek_latest"
  | stress => "Hammer one topic with concurrent publishers and consumers"
  | info => "Show version and layout constants"

def parameters : Command → List Parameter
  | latency =>
    [⟨"capacity", some 'c', "capacity", "CAPACITY", "Topic capacity in slots", "8"⟩,
      ⟨"count", some 'n', "count", "COUNT", "Number of messages to publish", "1000"⟩,
      ⟨"interval", some 'i', "interval-us", "MICROS", "Delay between publishes in microseconds",
        "100"⟩]
  | stress =>
    [⟨"capacity", none, "capacity", "CAPACITY", "Topic capacity in slots", "64"⟩,
      ⟨"consumers", some 'c', "consumers", "N", "Consumer threads", "2"⟩,
      ⟨"messages", some 'm', "messages", "COUNT", "Messages per publisher", "100000"⟩,
      ⟨"publishers", some 'p', "publishers", "N", "Publisher threads", "4"⟩]
  | info => []

def ofWord? (word : String) : Option Command :=
  [latency, stress, info].find? fun command => command.word == word

end Command

inductive Subject
  | program
  | command (command : Command)
  | help
  deriving DecidableEq, Repr

inductive Request
  | nothing
  | usage (subject : Subject)
  | version (command : Option Command)
  | run (command : Command) (values : List (String × String))
  deriving DecidableEq, Repr

inductive Flag
  | stop
  | long (name : String) (value : Option String)
  | short (letter : Char) (rest : List Char)
  deriving DecidableEq, Repr

def trimEquals (cs : List Char) : String := String.ofList (cs.dropWhile (· = '='))

/-- Reads a word as a flag; a lone dash is an ordinary word. -/
def Flag.ofWord? (word : String) : Option Flag :=
  match word.toList with
  | ['-', '-'] => some .stop
  | '-' :: '-' :: cs =>
    let body := cs.dropWhile (· = '-')
    let name := String.ofList (body.takeWhile (· ≠ '='))
    match body.dropWhile (· ≠ '=') with
    | [] => some (.long name none)
    | _ :: value => some (.long name (some (trimEquals value)))
  | '-' :: c :: cs => some (.short c cs)
  | _ => none

abbrev Found := List (Parameter × Option String)

def complete (parameters : List Parameter) (found : Found) : Option (List (String × String)) :=
  if (found.map (·.1.name)).Nodup then
    some <| parameters.map fun parameter =>
      let given := found.find? (·.1 = parameter)
      (parameter.name, (given.bind (·.2)).getD parameter.default)
  else
    none

/-- Reads the words after a command. `open?` says whether the latest option may still take a word as
its value. -/
def parseOptions (command : Command) (found : Found) (open? : Bool) :
    List String → Option Request
  | [] => (complete command.parameters found).map (.run command)
  | word :: words =>
    match Flag.ofWord? word with
    | some .stop =>
      if words.isEmpty then (complete command.parameters found).map (.run command) else none
    | some (.long name value) =>
      match command.parameters.find? (·.long = name) with
      | some parameter => parseOptions command ((parameter, value) :: found) value.isNone words
      | none =>
        if name = "help" then some (.usage (.command command))
        else if name = "version" then some (.version (some command))
        else none
    | some (.short letter rest) =>
      match command.parameters.find? (·.short = some letter) with
      | some parameter =>
        let value := if rest.isEmpty then none else some (trimEquals rest)
        parseOptions command ((parameter, value) :: found) value.isNone words
      | none =>
        if letter = 'h' then some (.usage (.command command))
        else if letter = 'V' then some (.version (some command))
        else none
    | none =>
      match open?, found with
      | true, (parameter, _) :: found =>
        parseOptions command ((parameter, some word) :: found) false words
      | _, _ => none

def Subject.ofWords? : List String → Option Subject
  | [] => some .program
  | [word] => if word = "help" then some .help else (Command.ofWord? word).map .command
  | _ => none

def parse : List String → Option Request
  | [] => some .nothing
  | word :: words =>
    match Flag.ofWord? word with
    | some .stop => if words.isEmpty then some .nothing else none
    | some (.long name _) =>
      if name = "help" then some (.usage .program)
      else if name = "version" then some (.version none)
      else none
    | some (.short letter _) =>
      if letter = 'h' then some (.usage .program)
      else if letter = 'V' then some (.version none)
      else none
    | none =>
      match Command.ofWord? word with
      | some command => parseOptions command [] false words
      | none => if word = "help" then (Subject.ofWords? words).map .usage else none

end TopicBus.Cli
