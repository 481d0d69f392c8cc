import LinkRouting.Text.Cut
import LinkRouting.Url.Basic
import LinkRouting.Url.Escapes

/-!
# The path of a URL

A path is read segment by segment.  The segments that are complete are kept, latest first; a segment
`.` adds nothing to them and a segment `..` takes the latest one away, where either dot may be
written as `%2e`.  A path that ends with such a segment ends with `/`.  Other segments are escaped
and kept.

A segment that looks like the name of a Windows drive, such as `C:`, is not taken away by `..`.  In
a `file` URL such a name at the very start of the path has its `|` written as `:` and leaves no room
for a host, and empty segments at the start are dropped.
-/

namespace LinkRouting
namespace Url

open Text (cutAt)

/-- Whether a segment is a dot, which may be escaped. -/
def isDot (segment : List Char) : Bool :=
  segment == ['.'] || segment == ['%', '2', 'e'] || segment == ['%', '2', 'E']

/-- Whether a segment is two dots, either of which may be escaped. -/
def isDotDot (segment : List Char) : Bool :=
  match segment with
  | '.' :: r => isDot r
  | '%' :: '2' :: e :: r => (e == 'e' || e == 'E') && isDot r
  | _ => false

/-- Whether a segment is the name of a Windows drive. -/
def isDrive (segment : List Char) : Bool :=
  match segment with
  | [letter, mark] => letter.isAlpha && (mark == ':' || mark == '|')
  | _ => false

/-- The segments without the latest, unless that is a drive. -/
def dropLatest : List (List Char) → List (List Char)
  | [] => []
  | s :: done => if isDrive s then s :: done else done

/-- The segment as it is kept: escaped, with the drive at the start of a `file` URL normalised. -/
def keptSegment (file : Bool) (done : List (List Char)) (segment : List Char) : List Char :=
  if file && done.isEmpty && isDrive segment then segment.take 1 ++ [':']
  else Percent.encodeWith escapedInPath segment

/-- The segments of a path, given the complete ones, latest first, and the pieces to come. -/
def readSegments (file : Bool) (done : List (List Char)) : List (List Char) → List (List Char)
  | [] => done.reverse
  | [last] =>
    if isDotDot last then ([] :: dropLatest done).reverse
    else if isDot last then ([] :: done).reverse
    else (keptSegment file done last :: done).reverse
  | piece :: pieces =>
    if isDotDot piece then readSegments file (dropLatest done) pieces
    else if isDot piece then readSegments file done pieces
    else readSegments file (keptSegment file done piece :: done) pieces

/-- The text of a path: each segment after a slash. -/
def segmentsText (segments : List (List Char)) : List Char :=
  segments.flatMap fun s => '/' :: s

/-- Whether a character ends the path in a URL. -/
def endsPath (c : Char) : Bool :=
  c == '?' || c == '#'

/-- Whether a character separates segments. -/
def separatesSegments (special : Bool) (c : Char) : Bool :=
  c == '/' || (special && c == '\\')

/-- The segments of a path, from those before it, latest first, and the text after its slash. -/
def pathSegments (scheme : String) (done : List (List Char)) (cs : List Char) : List (List Char) :=
  readSegments (scheme == "file") done (cutAt (separatesSegments (isSpecial scheme)) cs)

/-- The path of these segments. -/
def pathOf (scheme : String) (segments : List (List Char)) : String :=
  let text := segmentsText segments
  String.ofList (if scheme == "file" then '/' :: text.dropWhile (· == '/') else text)

end Url
end LinkRouting
