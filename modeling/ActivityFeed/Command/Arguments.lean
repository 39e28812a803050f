import ActivityFeed.Command.Invocation

/-!
# Arguments

Arguments are options and the name of a job, in this order, and more options after the name. An
option has a long name after two hyphens, and some have a letter after one hyphen; letters may share
a hyphen. The value of an option follows as the next argument, after an equals sign, or right after
its letter. A value that is an argument of its own starts with no hyphen, unless it is nothing else.

No option may be given twice before the name, nor twice after it.
-/

namespace ActivityFeed.Command

/-- The options of the program. -/
inductive Opt where
  | baseUrl
  | token
  | resource
  | board
  | capacity
  | format
  | verbose
  | since
  | limit
  | help
  | version
deriving DecidableEq, Repr, Inhabited

namespace Opt

/-- The options with their long names. -/
def names : List (String × Opt) :=
  [("base-url", baseUrl), ("token", token), ("resource", resource), ("board-id", board),
    ("capacity", capacity), ("format", format), ("verbose", verbose), ("since", since),
    ("limit", limit), ("help", help), ("version", version)]

/-- The options with their letters. -/
def letters : List (Char × Opt) :=
  [('f', format), ('v', verbose), ('s', since), ('l', limit), ('h', help), ('V', version)]

/-- Whether an option has a value. -/
def hasValue : Opt → Bool
  | verbose | help | version => false
  | _ => true

end Opt

/-- Where arguments stand: before the name of a job, or after it. -/
inductive Place where
  | before
  | after (job : Job)
deriving DecidableEq, Repr, Inhabited

/-- Whether an option may be given at a place. -/
def Place.admits : Place → Opt → Bool
  | .before, .since | .before, .limit => false
  | .before, _ => true
  | .after _, .version => false
  | .after (.frames _ _), _ => true
  | .after _, .since | .after _, .limit => false
  | .after _, _ => true

/-- The job of a name. -/
def Job.ofName? (s : String) : Option Job :=
  if s = "tail" then some .tail
  else if s = "snapshot" then some .snapshot
  else if s = "frames" then some (.frames none none)
  else none

/-- What help can be about. -/
inductive Topic where
  /-- The options of a place. -/
  | place (p : Place)
  /-- The help itself. -/
  | help
deriving DecidableEq, Repr, Inhabited

/-- A request for help. -/
structure HelpRequest where
  topic : Topic
  /-- Whether the help is in full or in short. -/
  isFull : Bool
  /-- The address that the environment gives. -/
  baseUrl : Option String
deriving DecidableEq, Repr, Inhabited

/-- What the arguments ask for. -/
inductive Wish where
  | run (invocation : Invocation)
  | help (request : HelpRequest)
  | version
  /-- Arguments that mean nothing. -/
  | misuse
deriving DecidableEq, Repr, Inhabited

/-- A setting that was not given before. -/
def once {α : Type} (old new : Option α) : Option (Option α) :=
  if old.isSome then none else new.map some

/-- The settings with the value of one more option; none if the option was given before or does not
have such values. -/
def Settings.put (s : Settings) (o : Opt) (value : String) : Option Settings :=
  match o with
  | .baseUrl => (once s.baseUrl (some value)).map fun v => { s with baseUrl := v }
  | .token => (once s.token (some value)).map fun v => { s with token := v }
  | .resource => (once s.resource (some value)).map fun v => { s with resource := v }
  | .board => (once s.board (BoardId.ofText? value)).map fun v => { s with board := v }
  | .capacity => (once s.capacity (Text.word? value.toList)).map fun v => { s with capacity := v }
  | .format => (once s.format (Format.ofText? value)).map fun v => { s with format := v }
  | .verbose => (once s.isVerbose (some ())).map fun v => { s with isVerbose := v }
  | .since => (once s.since (Instant.ofText? value)).map fun v => { s with since := v }
  | .limit => (once s.limit (Text.word? value.toList)).map fun v => { s with limit := v }
  | .help | .version => some s

/-- What one argument says. -/
inductive Word where
  /-- These settings and nothing that is missing. -/
  | settings (s : Settings)
  /-- These settings, and the value of an option is the next argument. -/
  | awaits (s : Settings) (o : Opt)
  | help (isFull : Bool)
  | version
  /-- Two hyphens, after which there are no options. -/
  | lastOption
  /-- No option. -/
  | plain
  | misuse
deriving DecidableEq, Repr, Inhabited

/-- An option without a value. -/
def readFlag (s : Settings) (o : Opt) (isFull : Bool) : Word :=
  match o with
  | .help => .help isFull
  | .version => .version
  | o =>
    match s.put o "" with
    | some s => .settings s
    | none => .misuse

/-- An option with its value. -/
def readValue (s : Settings) (o : Opt) (value : String) : Word :=
  match s.put o value with
  | some s => .settings s
  | none => .misuse

/-- An option by its long name, and perhaps a value after an equals sign. -/
def readLong (p : Place) (s : Settings) (cs : List Char) : Word :=
  let (name, rest) := cs.span (· ≠ '=')
  match Opt.names.lookup (String.ofList name), rest with
  | none, _ => .misuse
  | some o, rest =>
    if !p.admits o then .misuse
    else
      match o.hasValue, rest with
      | true, _ :: value => readValue s o (String.ofList value)
      | true, [] => .awaits s o
      | false, [] => readFlag s o true
      | false, _ :: _ => .misuse

/-- Options by their letters; the first one with a value takes what is left. -/
def readLetters (p : Place) (s : Settings) : List Char → Word
  | [] => .settings s
  | c :: cs =>
    match Opt.letters.lookup c with
    | none => .misuse
    | some o =>
      if !p.admits o then .misuse
      else if o.hasValue then
        match cs with
        | [] => .awaits s o
        | '=' :: value => readValue s o (String.ofList value)
        | value => readValue s o (String.ofList value)
      else
        match readFlag s o false with
        | .settings s => readLetters p s cs
        | word => word

/-- Reads one argument. -/
def readWord (p : Place) (s : Settings) (argument : String) : Word :=
  match argument.toList with
  | ['-', '-'] => .lastOption
  | '-' :: '-' :: cs => readLong p s cs
  | ['-'] => .plain
  | '-' :: cs => readLetters p s cs
  | _ => .plain

/-- Whether an argument may be the value of the option before it. -/
def isValue (argument : String) : Bool :=
  match argument.toList with
  | ['-'] => true
  | '-' :: _ => false
  | _ => true

/-- Reads the arguments after the name of a job; `earlier` are the settings before it, and
`environment` those that it gives. -/
def readAfter (environment : Settings) (job : Job) (earlier s : Settings) :
    List String → Wish
  | [] => .run ((s.orElse (earlier.orElse environment)).invocation job)
  | argument :: rest =>
    match readWord (.after job) s argument with
    | .settings s => readAfter environment job earlier s rest
    | .awaits s o =>
      match rest with
      | value :: rest =>
        if isValue value then
          match s.put o value with
          | some s => readAfter environment job earlier s rest
          | none => .misuse
        else .misuse
      | [] => .misuse
    | .help isFull => .help ⟨.place (.after job), isFull, environment.baseUrl⟩
    | .lastOption =>
      if rest.isEmpty then .run ((s.orElse (earlier.orElse environment)).invocation job)
      else .misuse
    | _ => .misuse

/-- What the word `help` with the arguments after it is about. -/
def Topic.ofNames? : List String → Option Topic
  | [] => some (.place .before)
  | [name] =>
    if name = "help" then some .help else (Job.ofName? name).map fun job => .place (.after job)
  | _ => none

/-- What the word `help` with the arguments after it asks for. -/
def readHelp (environment : Settings) (names : List String) : Wish :=
  match Topic.ofNames? names with
  | some topic => .help ⟨topic, true, environment.baseUrl⟩
  | none => .misuse

/-- Reads all arguments; `environment` are the settings that it gives. -/
def readBefore (environment s : Settings) : List String → Wish
  | [] => .misuse
  | argument :: rest =>
    match readWord .before s argument with
    | .settings s => readBefore environment s rest
    | .awaits s o =>
      match rest with
      | value :: rest =>
        if isValue value then
          match s.put o value with
          | some s => readBefore environment s rest
          | none => .misuse
        else .misuse
      | [] => .misuse
    | .help isFull => .help ⟨.place .before, isFull, environment.baseUrl⟩
    | .version => .version
    | .plain =>
      if argument = "help" then readHelp environment rest
      else
        match Job.ofName? argument with
        | some job => readAfter environment job s .empty rest
        | none => .misuse
    | _ => .misuse

/-- What arguments ask for, in an environment that gives an address and a token, or not. -/
def Wish.ofArguments (arguments : List String) (baseUrl token : Option String) : Wish :=
  readBefore { Settings.empty with baseUrl, token } .empty arguments

end ActivityFeed.Command
