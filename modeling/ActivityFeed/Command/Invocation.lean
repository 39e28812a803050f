import ActivityFeed.Config
import ActivityFeed.Instant.Text

/-!
# Invocations

An invocation of the program asks for one job, in one output format, on one configured feed. The
arguments and the environment together make the settings: an argument after the name of the job
wins over the same one before it, arguments win over the environment, and that over the defaults.
-/

namespace ActivityFeed.Command

/-- How records and frames are printed. -/
inductive Format where
  /-- One line for people per item. -/
  | text
  /-- JSON. -/
  | json
deriving DecidableEq, Repr, Inhabited

/-- The format of a name. -/
def Format.ofText? (s : String) : Option Format :=
  if s = "text" then some .text else if s = "json" then some .json else none

/-- What the program is to do. -/
inductive Job where
  /-- Follow the stream after the snapshot. -/
  | tail
  /-- Print the snapshot. -/
  | snapshot
  /-- Print the frames of the stream from a record on, or only a number of them. -/
  | frames (since : Option Instant) (limit : Option Nat)
deriving DecidableEq, Repr, Inhabited

/-- What the program was asked to do. -/
structure Invocation where
  config : Config
  format : Format
  job : Job
deriving DecidableEq, Repr, Inhabited

/-- The settings that arguments or the environment have given. -/
structure Settings where
  baseUrl : Option String
  token : Option String
  resource : Option String
  board : Option BoardId
  capacity : Option Nat
  format : Option Format
  isVerbose : Option Unit
  since : Option Instant
  limit : Option Nat
deriving DecidableEq, Repr, Inhabited

namespace Settings

/-- No settings. -/
def empty : Settings := ⟨none, none, none, none, none, none, none, none, none⟩

/-- The settings of one place and, where it gives none, those of another one. -/
def orElse (a b : Settings) : Settings :=
  { baseUrl := a.baseUrl <|> b.baseUrl
    token := a.token <|> b.token
    resource := a.resource <|> b.resource
    board := a.board <|> b.board
    capacity := a.capacity <|> b.capacity
    format := a.format <|> b.format
    isVerbose := a.isVerbose <|> b.isVerbose
    since := a.since <|> b.since
    limit := a.limit <|> b.limit }

/-- The configuration that the settings make. -/
def config (s : Settings) : Config :=
  { (Config.new (s.baseUrl.getD Config.defaultBaseUrl)).withCapacity
      (s.capacity.getD Config.defaultCapacity) with
    resource := s.resource.getD Config.defaultResource
    token := s.token
    board := s.board }

/-- The invocation that the settings and the kind of a job make. -/
def invocation (s : Settings) (job : Job) : Invocation :=
  { config := s.config
    format := s.format.getD .text
    job := match job with
      | .frames _ _ => .frames s.since s.limit
      | job => job }

end Settings

end ActivityFeed.Command
