/-!
# TOML values

The data that a TOML document holds.  A document is a table: names and their values, each name once.
Numbers with a fraction or an exponent and points in time are kept as the text that was written.
-/

namespace LinkRouting
namespace Toml

/-- A value of a TOML document. -/
inductive Value where
  | string (text : String)
  | integer (value : Int)
  | float (text : String)
  | boolean (value : Bool)
  | datetime (text : String)
  | array (items : List Value)
  | table (entries : List (String × Value))
  deriving Repr, Inhabited

namespace Value

/-- The value of a name in a table. -/
def get? (name : String) : List (String × Value) → Option Value
  | [] => none
  | (n, v) :: entries => if n = name then some v else get? name entries

end Value
end Toml
end LinkRouting
