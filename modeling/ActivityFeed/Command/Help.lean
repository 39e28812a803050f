import ActivityFeed.Command.Arguments

/-!
# Help

The help for a place lists the options that may be given there, each with what it means and what it
is if it is not given. In full, every option has a paragraph; in short, it has a line. A line feed
in the value of a variable goes on below the meaning of the option.
-/

namespace ActivityFeed.Command

/-- What the program prints about its version. -/
def versionText : String := "livefeed 0.3.0"

/-- One option of the help. -/
structure HelpEntry where
  letter : Option Char
  name : String
  /-- What stands for the value, if the option has one. -/
  value : Option String
  meaning : String
  /-- The variable that gives the option, and the value if none is given. -/
  notes : List String
  /-- The values that there are, with their meanings. -/
  choices : List (String × String)

namespace HelpEntry

/-- The options that may be given everywhere; the environment may give an address. -/
def common (baseUrl : Option String) : List HelpEntry :=
  [⟨none, "base-url", some "BASE_URL", "Server base URL",
      ["[env: LIVEFEED_BASE_URL=" ++ baseUrl.getD "" ++ "]",
        "[default: " ++ Config.defaultBaseUrl ++ "]"], []⟩,
    ⟨none, "token", some "TOKEN", "Bearer token", ["[env: LIVEFEED_TOKEN]"], []⟩,
    ⟨none, "resource", some "RESOURCE", "Feed resource path",
      ["[default: " ++ Config.defaultResource ++ "]"], []⟩,
    ⟨none, "board-id", some "BOARD_ID", "Only show records from this board", [], []⟩,
    ⟨none, "capacity", some "CAPACITY", "Number of records kept and requested by the snapshot",
      ["[default: " ++ toString Config.defaultCapacity ++ "]"], []⟩,
    ⟨some 'f', "format", some "FORMAT", "Output format", ["[default: text]"],
      [("text", "One human-readable line per item"), ("json", "One JSON document per item")]⟩,
    ⟨some 'v', "verbose", none, "Enable verbose output", [], []⟩]

/-- The record from which frames are asked for. -/
def since : HelpEntry :=
  ⟨some 's', "since", some "SINCE",
    "Catch-up cursor (RFC 3339, or ISO-8601 without offset for UTC)", [], []⟩

/-- The number of frames that are asked for. -/
def limit : HelpEntry :=
  ⟨some 'l', "limit", some "LIMIT", "Stop after this many frames", [], []⟩

/-- The help itself. -/
def help (isFull : Bool) : HelpEntry :=
  ⟨some 'h', "help", none,
    if isFull then "Print help (see a summary with '-h')"
    else "Print help (see more with '--help')", [], []⟩

/-- The version. -/
def version : HelpEntry := ⟨some 'V', "version", none, "Print version", [], []⟩

/-- The options of a place. -/
def all (p : Place) (baseUrl : Option String) (isFull : Bool) : List HelpEntry :=
  let common := common baseUrl
  match p with
  | .before => common ++ [help isFull, version]
  | .after (.frames _ _) =>
    common.take 1 ++ [since, limit] ++ common.drop 1 ++ [help isFull]
  | .after _ => common ++ [help isFull]

/-- How an option is given. -/
def usage (e : HelpEntry) : String :=
  (match e.letter with
    | some c => "  -" ++ String.singleton c ++ ", "
    | none => "      ")
    ++ "--" ++ e.name ++ (e.value.map fun v => " <" ++ v ++ ">").getD ""

/-- The width of so many blanks. -/
def blanks (width : Nat) : String :=
  String.ofList (List.replicate width ' ')

/-- A text whose further lines start after `width` blanks. -/
def hanging (width : Nat) (s : String) : String :=
  String.ofList (s.toList.flatMap fun c =>
    if c = '\n' then '\n' :: (blanks width).toList else [c])

/-- The values that there are, in full. -/
def choiceLines (e : HelpEntry) : List String :=
  "Possible values:" :: e.choices.map fun (name, meaning) => "- " ++ name ++ ": " ++ meaning

/-- How far the lines of a paragraph are indented. -/
def indent : Nat := 10

/-- An option as a paragraph. -/
def paragraph (e : HelpEntry) : String :=
  let choices :=
    if e.choices.isEmpty then ""
    else "\n" ++ String.join (e.choiceLines.map fun line => "\n" ++ blanks indent ++ line)
  let notes := if e.notes.isEmpty then "" else "\n\n" ++ String.intercalate "\n" e.notes
  e.usage ++ hanging indent ("\n" ++ e.meaning) ++ choices ++ hanging indent notes

/-- An option as a line, its meaning after `width` places. -/
def line (width : Nat) (e : HelpEntry) : String :=
  let choices :=
    if e.choices.isEmpty then []
    else ["[possible values: " ++ String.intercalate ", " (e.choices.map (·.1)) ++ "]"]
  e.usage ++ blanks (width - e.usage.length)
    ++ hanging width (String.intercalate " " (e.meaning :: e.notes ++ choices))

end HelpEntry

/-- The name of a job and what it does. -/
def Job.summary : Job → String × String
  | .tail => ("tail", "Load the snapshot, then follow the live stream until Ctrl-C")
  | .snapshot => ("snapshot", "Print the most recent records once")
  | .frames _ _ => ("frames", "Dump decoded stream frames for debugging")

/-- What the help does, for the list of jobs. -/
def helpSummary : String := "Print this message or the help of the given subcommand(s)"

/-- What the help for a place says before the options. -/
def helpHead : Place → String
  | .before =>
    "Command-line tools for tailing and debugging live activity feeds\n\n"
      ++ "Usage: livefeed [OPTIONS] <COMMAND>\n\nCommands:\n"
      ++ "  tail      " ++ (Job.summary .tail).2 ++ "\n"
      ++ "  snapshot  " ++ (Job.summary .snapshot).2 ++ "\n"
      ++ "  frames    " ++ (Job.summary (.frames none none)).2 ++ "\n"
      ++ "  help      " ++ helpSummary ++ "\n\n"
  | .after job =>
    job.summary.2 ++ "\n\nUsage: livefeed " ++ job.summary.1 ++ " [OPTIONS]\n\n"

/-- The help for the help. -/
def helpOnHelp : String :=
  helpSummary ++ "\n\nUsage: livefeed help [COMMAND]...\n\nArguments:\n"
    ++ "  [COMMAND]...  Print help for the subcommand(s)"

/-- The text of the help that was asked for. -/
def HelpRequest.text (r : HelpRequest) : String :=
  match r.topic with
  | .help => helpOnHelp
  | .place p =>
    let entries := HelpEntry.all p r.baseUrl r.isFull
    let width := (entries.map fun e => e.usage.length).foldl max 0 + 2
    helpHead p ++ "Options:\n"
      ++ (if r.isFull then String.intercalate "\n\n" (entries.map HelpEntry.paragraph)
          else String.intercalate "\n" (entries.map (HelpEntry.line width)))

end ActivityFeed.Command
