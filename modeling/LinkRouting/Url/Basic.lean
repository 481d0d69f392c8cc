/-!
# URLs

A `Url` is a scheme, an authority if there is one, a path, and a query and a fragment if there are
any.  All parts are kept as they are written in the URL's text, that is, percent-encoded; `Url.text`
puts them together again.  A URL without an authority whose path starts with `//` is written with
`/.` before the path, since `//` would start an authority.

The six schemes of the web (`isSpecial`) have rules of their own: they need an authority, they take
a backslash for a slash, and all but `file` have a port that is not written.
-/

namespace LinkRouting

/-- Who is reached: nobody, a name, or an address. -/
inductive Host where
  | empty
  | name (text : String)
  | ipv4 (address : Nat)
  | ipv6 (pieces : List Nat)
  deriving DecidableEq, Repr

/-- The part of a URL between `//` and its path. -/
structure Authority where
  username : String := ""
  password : Option String := none
  host : Host := .empty
  port : Option Nat := none
  deriving DecidableEq, Repr

/-- A parsed URL. -/
structure Url where
  scheme : String
  authority : Option Authority := none
  path : String := ""
  query : Option String := none
  fragment : Option String := none
  deriving DecidableEq, Repr

/-- Why a text is no URL. -/
inductive UrlError where
  | emptyHost
  | invalidName
  | invalidPort
  | invalidIpv4
  | invalidIpv6
  | invalidHostCharacter
  | relative
  deriving DecidableEq, Repr

/-- The sentence that tells a user what is wrong. -/
def UrlError.message : UrlError → String
  | emptyHost => "empty host"
  | invalidName => "invalid international domain name"
  | invalidPort => "invalid port number"
  | invalidIpv4 => "invalid IPv4 address"
  | invalidIpv6 => "invalid IPv6 address"
  | invalidHostCharacter => "invalid domain character"
  | relative => "relative URL without a base"

/-- Whether a scheme is one of those of the web. -/
def isSpecial (scheme : String) : Bool :=
  ["http", "https", "ws", "wss", "ftp", "file"].contains scheme

/-- The port that a scheme has when none is written. -/
def defaultPort? (scheme : String) : Option Nat :=
  if scheme == "http" || scheme == "ws" then some 80
  else if scheme == "https" || scheme == "wss" then some 443
  else if scheme == "ftp" then some 21
  else none

namespace Host

/-- A number as four decimal numbers, for its bytes. -/
def ipv4Text (address : Nat) : String :=
  String.intercalate "." ([0x1000000, 0x10000, 0x100, 1].map fun place =>
    toString (address / place % 256))

/-- The length of the run of zeros at the start. -/
def zeroRun (pieces : List Nat) : Nat :=
  (pieces.takeWhile (· == 0)).length

/-- The start and length of the longest run of at least two zeros, the first of several. -/
def longestZeros (pieces : List Nat) : Option (Nat × Nat) :=
  let runs := (List.range pieces.length).map fun i => (i, zeroRun (pieces.drop i))
  runs.foldl (fun best run =>
    if run.2 < 2 then best
    else
      match best with
      | none => some run
      | some b => if b.2 < run.2 then some run else some b) none

/-- Pieces in hexadecimal, separated by colons. -/
def piecesText (pieces : List Nat) : String :=
  String.intercalate ":" (pieces.map fun p => String.ofList (Nat.toDigits 16 p))

/-- Eight pieces, the longest run of zeros left out. -/
def ipv6Text (pieces : List Nat) : String :=
  match longestZeros pieces with
  | none => piecesText pieces
  | some (start, length) =>
    piecesText (pieces.take start) ++ "::" ++ piecesText (pieces.drop (start + length))

/-- The text of a host within a URL. -/
def text : Host → String
  | empty => ""
  | name text => text
  | ipv4 address => ipv4Text address
  | ipv6 pieces => "[" ++ ipv6Text pieces ++ "]"

end Host

/-- The text of an authority within a URL. -/
def Authority.text (a : Authority) : String :=
  let credentials :=
    match a.password with
    | some password => a.username ++ ":" ++ password ++ "@"
    | none => if a.username.isEmpty then "" else a.username ++ "@"
  let port :=
    match a.port with
    | some port => ":" ++ toString port
    | none => ""
  credentials ++ a.host.text ++ port

/-- The text of a URL. -/
def Url.text (u : Url) : String :=
  let start :=
    match u.authority with
    | some a => "//" ++ a.text
    | none => if u.path.startsWith "//" then "/." else ""
  let query :=
    match u.query with
    | some query => "?" ++ query
    | none => ""
  let fragment :=
    match u.fragment with
    | some fragment => "#" ++ fragment
    | none => ""
  u.scheme ++ ":" ++ start ++ u.path ++ query ++ fragment

end LinkRouting
