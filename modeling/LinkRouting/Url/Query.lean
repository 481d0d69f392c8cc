import LinkRouting.Bindings
import LinkRouting.Text.Cut
import LinkRouting.Text.Percent
import LinkRouting.Url.Basic

/-!
# The pairs of a query

A query is read as form data: pairs stand between `&`, empty ones are passed over, and in each the
first `=` separates the name from the value, which is empty if there is none.  In both, `+` stands
for a blank and escapes for their bytes; bytes that are not UTF-8 are replaced.
-/

namespace LinkRouting
namespace Url

/-- A name or value of form data, decoded. -/
def formText (cs : List Char) : String :=
  Percent.decodeLossy (String.ofList (cs.map fun c => if c = '+' then ' ' else c))

/-- The pairs of form data, in order. -/
def formPairs (cs : List Char) : List (String × String) :=
  ((Text.cutAt (· == '&') cs).filter (!·.isEmpty)).map fun pair =>
    (formText (pair.takeWhile (· != '=')), formText ((pair.dropWhile (· != '=')).drop 1))

/-- The pairs of a URL's query, in order. -/
def queryPairs (u : Url) : List (String × String) :=
  formPairs (u.query.getD "").toList

/-- The values that a URL's query binds to names; of repeated names the last value stays. -/
def queryParameters (u : Url) : Bindings :=
  Bindings.ofList u.queryPairs

end Url
end LinkRouting
