import LinkRouting.Text.Percent

/-!
# What is escaped where in a URL

Each part of a URL has a set of ASCII characters that are written as percent-escapes in it;
characters past ASCII always are.  The sets grow: what is escaped in a fragment is escaped in a
path, and what is escaped in a path is escaped in a user name.  The percent sign is in none of them,
so that escapes that were there already stay as they are.
-/

namespace LinkRouting
namespace Url

/-- Control characters, which are escaped everywhere. -/
def isControl (c : Char) : Bool :=
  c.toNat < 0x20 || c.toNat == 0x7F

/-- Characters escaped in a fragment. -/
def escapedInFragment (c : Char) : Bool :=
  isControl c || [' ', '"', '<', '>', '`'].contains c

/-- Characters escaped in a path. -/
def escapedInPath (c : Char) : Bool :=
  escapedInFragment c || ['#', '?', '\x7b', '\x7d'].contains c

/-- Characters escaped in a user name or a password. -/
def escapedInCredentials (c : Char) : Bool :=
  escapedInPath c || ['/', ':', ';', '=', '@', '[', '\\', ']', '^', '|'].contains c

/-- Characters escaped in a query; in that of a special scheme the apostrophe is one of them. -/
def escapedInQuery (special : Bool) (c : Char) : Bool :=
  isControl c || [' ', '"', '#', '<', '>'].contains c || (special && c == '\'')

/-- The text of some characters of a URL, escaped as its part needs. -/
def escaped (set : Char → Bool) (cs : List Char) : String :=
  String.ofList (Percent.encodeWith set cs)

end Url
end LinkRouting
