import ActivityFeed.Http.Host

/-!
# Addresses

An address is read leniently, as browsers do, and kept in the one form in which it is shown and
sent: scheme and host in small letters, the scheme's own socket number left out, dot segments of the
path resolved, and whatever may not stand in a part escaped there. For the schemes of the web a
backslash is a slash and a host is required; an address of another scheme may have no host, and its
path may be any text.

A path may begin with the letter of a drive, such as `c:` or `c|`. No dot segment leads out of a
drive, and in the address of a file the drive is written `c:` and has no host.
-/

namespace ActivityFeed.Http

/-- The user and the password before a host, as they are shown. -/
structure Credentials where
  user : String
  /-- Not empty if it is there. -/
  password : Option String
deriving DecidableEq, Repr, Inhabited

namespace Credentials

/-- The credentials that the text before a host gives, if it gives any; the first colon ends the
user. -/
def ofText? (cs : List Char) : Option Credentials :=
  let (user, rest) := cs.span (· ≠ ':')
  let shown (cs : List Char) : String := String.ofList (escape credentialsReserved cs)
  let password := rest.drop 1
  if password.isEmpty then if user.isEmpty then none else some ⟨shown user, none⟩
  else some ⟨shown user, some (shown password)⟩

/-- Credentials as they are shown. -/
def text (c : Credentials) : String :=
  c.user ++ (c.password.map fun p => ":" ++ p).getD "" ++ "@"

/-- Whether a shown text is one if its escapes are taken for what they stand for. -/
def isReadable (shown : String) : Bool :=
  (Text.Utf8.malformedAt (unescape (Text.Utf8.ofString shown))).isNone

/-- Whether credentials can be told to a server: the user can be read, and there is a user or a
password that can be read. -/
def isUsable (c : Credentials) : Bool :=
  isReadable c.user && (!c.user.isEmpty || c.password.any isReadable)

end Credentials

/-- An address. -/
structure Url where
  scheme : String
  credentials : Option Credentials
  /-- The host as it is shown; empty where the form requires one and there is none. -/
  host : Option String
  /-- The number of the server's socket, unless it is the scheme's own. -/
  socket : Option Nat
  /-- The path as it is shown, its first slash included. -/
  path : String
  query : Option String
  fragment : Option String
deriving DecidableEq, Repr, Inhabited

namespace Url

/-- Whether there is a host to talk to. -/
def hasHost (u : Url) : Bool :=
  match u.host with
  | some host => !host.isEmpty
  | none => false

/-- The path and the query: what a request names. -/
def target (u : Url) : String :=
  u.path ++ (u.query.map fun q => "?" ++ q).getD ""

/-- An address as it is shown. -/
def text (u : Url) : String :=
  let authority := match u.host with
    | some host =>
      "//" ++ (u.credentials.map Credentials.text).getD "" ++ host
        ++ (u.socket.map fun n => ":" ++ toString n).getD ""
    | none => if u.path.toList.take 2 == ['/', '/'] then "/." else ""
  u.scheme ++ ":" ++ authority ++ u.target ++ (u.fragment.map fun f => "#" ++ f).getD ""

/-- An address with names and values appended to its query. An empty query is the same as none. -/
def withPairs (u : Url) (pairs : List (String × String)) : Url :=
  let given := (u.query.getD "").toList
  let added := pairs.map fun (name, value) => formText name ++ '=' :: formText value
  let all := if given.isEmpty then added else given :: added
  { u with
    query :=
      if all.isEmpty then none else some (String.ofList (List.intercalate ['&'] all)) }

/-- An address without its credentials, if they can be told to the server in another way. -/
def withoutCredentials (u : Url) : Url :=
  { u with credentials := u.credentials.filter fun c => !c.isUsable }

/-! ## Schemes -/

/-- How the rest of an address is read. -/
inductive Kind where
  /-- A scheme of the web, with the number of its own socket. -/
  | web (socket : Nat)
  /-- A file, which needs no host. -/
  | file
  | other
deriving DecidableEq, Repr, Inhabited

/-- How the rest of an address of a scheme is read. -/
def kind (scheme : String) : Kind :=
  if scheme = "http" || scheme = "ws" then .web 80
  else if scheme = "https" || scheme = "wss" then .web 443
  else if scheme = "ftp" then .web 21
  else if scheme = "file" then .file
  else .other

/-- The scheme of an address, in small letters, and what follows its colon. -/
def scheme? (cs : List Char) : Option (String × List Char) :=
  let (name, rest) := cs.span fun c => c.isAlphanum || c = '+' || c = '-' || c = '.'
  match name, rest with
  | first :: _, ':' :: rest =>
    if first.isAlpha then some (String.ofList (name.map Char.toLower), rest) else none
  | _, _ => none

/-! ## Paths -/

/-- Whether a character separates the segments of a path. -/
def isSlash (k : Kind) (c : Char) : Bool :=
  c = '/' || (c = '\\' && k != .other)

/-- The segments of a path after its first slash. -/
def segments (k : Kind) : List Char → List (List Char) :=
  Text.split (isSlash k)

/-- A segment in small letters with its escaped points unescaped. -/
def plainPoints : List Char → List Char
  | '%' :: '2' :: 'e' :: cs => '.' :: plainPoints cs
  | '%' :: '2' :: 'E' :: cs => '.' :: plainPoints cs
  | c :: cs => c :: plainPoints cs
  | [] => []

/-- Whether a segment stands for the directory itself. -/
def isHere (segment : List Char) : Bool := plainPoints segment == ['.']

/-- Whether a segment stands for the directory above. -/
def isAbove (segment : List Char) : Bool := plainPoints segment == ['.', '.']

/-- Whether a segment is the letter of a drive. -/
def isDrive : List Char → Bool
  | [c, d] => c.isAlpha && (d = ':' || d = '|')
  | _ => false

/-- The segments of the directory above. Nothing is above a drive. -/
def climb (done : List (List Char)) : List (List Char) :=
  if done.getLast?.any isDrive then done else done.dropLast

/-- The segments with one more. The drive at the front of the path of a file gets its colon. -/
def enter (k : Kind) (done : List (List Char)) (segment : List Char) : List (List Char) :=
  if k == .file && done.isEmpty && isDrive segment then [segment.take 1 ++ [':']]
  else done ++ [segment]

/-- The segments `done` and further ones, dot segments resolved; a last one that is a dot segment
leaves an empty segment behind. -/
def resolve (k : Kind) (done : List (List Char)) : List (List Char) → List (List Char)
  | [] => done
  | [last] =>
    if isAbove last then climb done ++ [[]]
    else if isHere last then done ++ [[]]
    else enter k done last
  | s :: ss =>
    if isAbove s then resolve k (climb done) ss
    else if isHere s then resolve k done ss
    else resolve k (enter k done s) ss

/-- The resolved segments of the text that follows the authority. The first slash is in front of all
segments. -/
def readSegments (k : Kind) (cs : List Char) : List (List Char) :=
  match cs with
  | c :: rest => resolve k [] (segments k (if isSlash k c then rest else cs))
  | [] => if k == .other then [] else [[]]

/-- A path as it is shown. The path of a file begins with one slash only. -/
def pathText (k : Kind) (ss : List (List Char)) : String :=
  let ss := if k == .file then
      match ss.dropWhile List.isEmpty with
      | [] => [[]]
      | ss => ss
    else ss
  String.ofList ((ss.map (escape pathReserved)).flatMap ('/' :: ·))

/-! ## Authorities -/

/-- What stands before and what stands from the first question or number sign on. -/
def splitPath (cs : List Char) : List Char × List Char :=
  cs.span fun c => c ≠ '?' && c ≠ '#'

/-- Whether a character ends an authority. -/
def endsAuthority (k : Kind) (c : Char) : Bool :=
  isSlash k c || c = '?' || c = '#'

/-- The text before the last `@` of an authority and the text after it, up to the end of the
address; if there is no `@`, all of it comes after. -/
def splitCredentials (k : Kind) (cs : List Char) : Option (List Char) × List Char :=
  let authority := cs.takeWhile fun c => !endsAuthority k c
  if authority.contains '@' then
    let named := (authority.reverse.takeWhile (· ≠ '@')).reverse
    let count := authority.length - named.length
    (some (cs.take (count - 1)), cs.drop count)
  else (none, cs)

/-- The host at the front of a text and what follows it: a colon ends a host outside of
brackets. -/
def splitHost (k : Kind) (inBrackets : Bool) : List Char → List Char × List Char
  | [] => ([], [])
  | c :: cs =>
    if endsAuthority k c || (c = ':' && !inBrackets) then ([], c :: cs)
    else
      let inBrackets := if c = '[' then true else if c = ']' then false else inBrackets
      let (host, rest) := splitHost k inBrackets cs
      (c :: host, rest)

/-- The largest number of a socket. -/
def maxSocket : Nat := 65535

/-- The number of the socket after a host, if there is one, and what follows it. The number ends
where an authority ends, and with a backslash in any case. -/
def readSocket? (k : Kind) (cs : List Char) : Option (Option Nat × List Char) :=
  match cs with
  | ':' :: rest =>
    let (digits, rest) := rest.span Char.isDigit
    if rest.head?.any fun c => !endsAuthority k c && c ≠ '\\' then none
    else if digits.isEmpty then some (none, rest)
    else
      ((Text.number? 0 digits).filter (· ≤ maxSocket)).map fun n =>
        (if k == .web n then none else some n, rest)
  | _ => some (none, cs)

/-- Who is to be asked for something. -/
structure Authority where
  credentials : Option Credentials
  host : String
  socket : Option Nat
deriving DecidableEq, Repr, Inhabited

/-- The authority at the front of a text, and what follows it. A host that is empty, where that is
possible, has neither credentials nor a socket. -/
def readAuthority? (k : Kind) (cs : List Char) : Option (Authority × List Char) := do
  let (before, named) := splitCredentials k cs
  let credentials := before.bind Credentials.ofText?
  let (name, rest) := splitHost k false named
  let isBare := before == some [] && named.head?.any (endsAuthority k)
  if name.isEmpty && (k != .other || isBare || credentials.isSome || rest.head? == some ':') then
    none
  else
    let host ← if k == .other then Host.opaqueOfText? name else Host.ofText? name
    let (socket, rest) ← readSocket? k rest
    some (⟨credentials, String.ofList host, socket⟩, rest)

/-! ## Whole addresses -/

/-- The query and the fragment at the end of an address. -/
def ending (k : Kind) (cs : List Char) : Option String × Option String :=
  let (before, rest) := cs.span (· ≠ '#')
  let reserved := if k == .other then queryReserved else queryReserved ++ ['\'']
  let query := match before with
    | _ :: q => some (String.ofList (escape reserved q))
    | [] => none
  let fragment := match rest with
    | _ :: f => some (String.ofList (escape fragmentReserved f))
    | [] => none
  (query, fragment)

/-- The address of an authority, if there is one, and of the text that follows it. -/
def complete (scheme : String) (authority : Option Authority) (cs : List Char) : Url :=
  let k := kind scheme
  let (before, rest) := splitPath cs
  let (query, fragment) := ending k rest
  let ss := readSegments k before
  let isLocal := k == .file && ss.head?.any isDrive
  { scheme
    credentials := authority.bind (·.credentials)
    host := authority.map fun a => if isLocal then "" else a.host
    socket := authority.bind (·.socket)
    path := pathText k ss
    query
    fragment }

/-- An address whose path is any text. -/
def completeOpaque (scheme : String) (cs : List Char) : Url :=
  let (before, rest) := splitPath cs
  let (query, fragment) := ending .other rest
  { scheme, credentials := none, host := none, socket := none,
    path := String.ofList (escape [] before), query, fragment }

/-- The authority of a file on a host. -/
def fileAuthority (host : List Char) : Authority := ⟨none, String.ofList host, none⟩

/-- The name of this machine, which is no host of a file. -/
def thisMachine : List Char := "localhost".toList

/-- The address of a file. A drive may stand in the place of the host. -/
def ofFile? (cs : List Char) : Option Url :=
  let onThisMachine (cs : List Char) : Url := complete "file" (some (fileAuthority [])) cs
  match cs with
  | a :: b :: rest =>
    if isSlash .file a && isSlash .file b then
      let (name, path) := rest.span fun c => !endsAuthority .file c
      if name.isEmpty || isDrive name then some (onThisMachine ('/' :: rest))
      else (Host.ofText? name).map fun host =>
        if host == thisMachine then onThisMachine ('/' :: path)
        else complete "file" (some (fileAuthority host)) path
    else some (onThisMachine cs)
  | _ => some (onThisMachine cs)

/-- The address after a scheme and its colon. -/
def ofRest? (scheme : String) (cs : List Char) : Option Url :=
  let withAuthority (k : Kind) (cs : List Char) : Option Url :=
    (readAuthority? k cs).map fun (authority, rest) => complete scheme (some authority) rest
  match kind scheme, cs with
  | .file, cs => ofFile? cs
  | .web n, cs => withAuthority (.web n) (cs.dropWhile (isSlash (.web n)))
  | .other, '/' :: '/' :: rest => withAuthority .other rest
  | .other, '/' :: rest => some (complete scheme none ('/' :: rest))
  | .other, cs => some (completeOpaque scheme cs)

/-- A text as it is read: without control characters and blanks at its ends, and without
tabulators and line ends anywhere. -/
def cleaned (cs : List Char) : List Char :=
  let isControl (c : Char) : Bool := c.toNat ≤ 0x20
  let inner := ((cs.dropWhile isControl).reverse.dropWhile isControl).reverse
  inner.filter fun c => c ≠ '\t' && c ≠ '\n' && c ≠ '\r'

/-- The address that a text denotes. -/
def ofText? (s : String) : Option Url :=
  (scheme? (cleaned s.toList)).bind fun (scheme, rest) => ofRest? scheme rest

end Url

end ActivityFeed.Http
