import LinkRouting.Url.Host

/-!
# Parsing URLs

`Url.parse` reads an absolute URL, one that starts with a scheme, and `Url.resolve` reads a text
that has none, in the place of a base.  From both, controls and blanks around the text and tabs and
line breaks in it are dropped first (`clean`).

A scheme that is not special is followed by an authority after `//`, by a path after a single `/`,
or by a path that nothing can be resolved against.  The special schemes always have an authority,
whatever slashes there are, except that `file` may leave it out.
-/

namespace LinkRouting
namespace Url

open Text (cutAt)

/-- The text without the controls and blanks around it, and without tabs and line breaks. -/
def clean (cs : List Char) : List Char :=
  let outer := fun c : Char => c.toNat ≤ 0x20
  let trimmed := (((cs.dropWhile outer).reverse).dropWhile outer).reverse
  trimmed.filter fun c => c != '\t' && c != '\n' && c != '\r'

/-- Whether a character may stand in a scheme after its first letter. -/
def isSchemeChar (c : Char) : Bool :=
  c.isAlphanum || c == '+' || c == '-' || c == '.'

/-- The scheme at the start of a text, in lower case, and the text after its colon. -/
def scheme? (cs : List Char) : Option (String × List Char) :=
  match cs with
  | [] => none
  | c :: _ =>
    if c.isAlpha then
      match cs.dropWhile isSchemeChar with
      | ':' :: r => some (String.ofList ((cs.takeWhile isSchemeChar).map Char.toLower), r)
      | _ => none
    else none

/-- The query and the fragment that follow a path. -/
def withTail (u : Url) (cs : List Char) : Url :=
  let fragment := fun r : List Char =>
    match r with
    | '#' :: f => some (escaped escapedInFragment f)
    | _ => none
  match cs with
  | '?' :: r =>
    { u with
      query := some (escaped (escapedInQuery (isSpecial u.scheme)) (r.takeWhile (· != '#')))
      fragment := fragment (r.dropWhile (· != '#')) }
  | r => { u with query := none, fragment := fragment r }

/-- Reads a path from its first slash on, with the segments before it, and what follows it. -/
def withPath (u : Url) (done : List (List Char)) (cs : List Char) : Url :=
  let segments := pathSegments u.scheme done (cs.takeWhile (!endsPath ·))
  withTail { u with path := pathOf u.scheme segments } (cs.dropWhile (!endsPath ·))

/-- Whether a character is a slash of either kind. -/
def isSlash (c : Char) : Bool :=
  c == '/' || c == '\\'

/-- Reads the path after an authority, and what follows it. -/
def withPathStart (u : Url) (cs : List Char) : Url :=
  match cs with
  | [] => if isSpecial u.scheme then withPath u [] [] else u
  | c :: r =>
    if isSpecial u.scheme then withPath u [] (if isSlash c then r else cs)
    else if endsPath c then withTail u cs
    else withPath u [] (if c = '/' then r else cs)

/-- The texts before and after the last `@`. -/
def splitCredentials (cs : List Char) : Option (List Char × List Char) :=
  if cs.contains '@' then
    let reversed := cs.reverse
    some (((reversed.dropWhile (· != '@')).drop 1).reverse, (reversed.takeWhile (· != '@')).reverse)
  else none

/-- The port after a host, and the text after it: the default port of the scheme is none. -/
def readPort (scheme : String) (cs : List Char) : Except UrlError (Option Nat × List Char) :=
  match cs with
  | ':' :: r =>
    let digits := r.takeWhile Char.isDigit
    let rest := r.dropWhile Char.isDigit
    let port := digits.foldl (fun n c => n * 10 + (c.toNat - 0x30)) 0
    if port > 65535 then .error .invalidPort
    else if rest.head?.all (fun c => isSlash c || endsPath c) then
      .ok (if digits.isEmpty || defaultPort? scheme == some port then none else some port, rest)
    else .error .invalidPort
  | _ => .ok (none, cs)

/-- Reads the credentials before a host. -/
def readCredentials (cs : List Char) : Authority :=
  let password := (cs.dropWhile (· != ':')).drop 1
  { username := escaped escapedInCredentials (cs.takeWhile (· != ':'))
    password := if password.isEmpty then none else some (escaped escapedInCredentials password) }

/-- Reads an authority after its `//`, and the text after it. -/
def readAuthority (scheme : String) (cs : List Char) : Except UrlError (Authority × List Char) := do
  let special := isSpecial scheme
  let ends := fun c : Char => c == '/' || endsPath c || (special && c == '\\')
  let text := cs.takeWhile (!ends ·)
  let after := cs.dropWhile (!ends ·)
  let (credentials, place) := (splitCredentials text).getD ([], text)
  if text.head? = some '@' ∧ credentials.isEmpty ∧ place.isEmpty ∧ !after.isEmpty then
    throw .emptyHost
  let hostText := takeHost false place
  let rest := place.drop hostText.length ++ after
  let host ←
    if special then (if hostText.isEmpty then throw .emptyHost else domainHost hostText)
    else opaqueHost hostText
  if host = .empty ∧ rest.head? = some ':' then throw .emptyHost
  let (port, rest) ← readPort scheme rest
  let authority := { readCredentials credentials with host, port }
  if host = .empty ∧ (!authority.username.isEmpty ∨ authority.password.isSome) then
    throw .emptyHost
  return (authority, rest)

/-- Reads the authority of a URL, its path and what follows. -/
def readFromAuthority (scheme : String) (cs : List Char) : Except UrlError Url := do
  let (authority, rest) ← readAuthority scheme cs
  return withPathStart { scheme, authority := some authority } rest

/-- Reads a `file` URL after its colon. -/
def readFile (cs : List Char) : Except UrlError Url := do
  let u : Url := { scheme := "file", authority := some {} }
  match cs with
  | [] => return withPath u [] []
  | c :: r =>
    if !isSlash c then return withPath u [] cs
    else
      match r with
      | [] => return withPath u [] []
      | d :: r' =>
        if !isSlash d then return withPath u [] r
        else
          let ends := fun c : Char => isSlash c || endsPath c
          let hostText := r'.takeWhile (!ends ·)
          if isDrive hostText then return withPath u [] r'
          else
            let host ← fileHost hostText
            let rest := r'.dropWhile (!ends ·)
            if host = .empty then return withPath u [] rest
            else
              let path := if rest.head?.all isSlash then rest.drop 1 else rest
              let first := (pathSegments "file" [] (path.takeWhile (!endsPath ·))).head?
              let host := if (first.map isDrive).getD false then .empty else host
              return withPath { u with authority := some { host } } [] path

/-- Parses an absolute URL. -/
def parse (text : String) : Except UrlError Url :=
  match scheme? (clean text.toList) with
  | none => .error .relative
  | some (scheme, r) =>
    if scheme = "file" then readFile r
    else if isSpecial scheme then readFromAuthority scheme (r.dropWhile isSlash)
    else
      match r with
      | '/' :: '/' :: r' => readFromAuthority scheme r'
      | '/' :: r' => .ok (withPath { scheme } [] r')
      | _ =>
        .ok (withTail { scheme, path := escaped isControl (r.takeWhile (!endsPath ·)) }
          (r.dropWhile (!endsPath ·)))

/-- Reads a text without a scheme in the place of a base, which is not a `file` URL and has a path
that starts with a slash. -/
def resolve (base : Url) (text : String) : Except UrlError Url :=
  let cs := clean text.toList
  match cs with
  | [] => .ok { base with fragment := none }
  | c :: r =>
    if c = '#' then .ok { base with fragment := some (escaped escapedInFragment r) }
    else if c = '?' then .ok (withTail base cs)
    else if isSlash c then
      match r with
      | d :: r' =>
        if isSlash d then
          readFromAuthority base.scheme (if c = '/' ∧ d = '/' then r' else cs.dropWhile isSlash)
        else .ok (withPath base [] r)
      | [] => .ok (withPath base [] [])
    else
      let before := (cutAt (· == '/') (base.path.toList.drop 1)).dropLast
      .ok (withPath base before.reverse cs)

end Url
end LinkRouting
