import LinkRouting.RouteTable
import LinkRouting.Text.Blank
import LinkRouting.Text.Quoted
import LinkRouting.Text.Utf8
import LinkRouting.Toml.Document

/-!
# Route manifests

A manifest is a TOML document that lists routes, each a pattern with an optional name, and sets the
options of matching and dispatch:

    [router]
    decode_parameters = true
    merge_query = true
    query_overrides_path = false

    [[routes]]
    pattern = "/articles(/page/:page)(.:format)"
    name = "articles"

Whatever is left out has its default, names that are not known are passed over, and text that is
blank is the manifest of defaults.  Where a table is expected an array will do, which gives the
fields in the order above, and so will a point in time, which gives none of them.

`Manifest.load` reads a manifest from a file; a file that is not there is the manifest of defaults.
`RouteTable.ofManifest` registers the routes in order, and the first that is refused ends it.
-/

namespace LinkRouting

open Toml (Value)

/-- Options of matching and dispatch. -/
structure Settings where
  /-- Whether captured text is percent-decoded. -/
  decodeParameters : Bool := true
  /-- Whether the query's pairs are added to the captured parameters on dispatch. -/
  mergeQuery : Bool := true
  /-- Whether a pair of the query replaces a captured parameter of the same name. -/
  queryOverridesPath : Bool := false
  deriving DecidableEq, Repr

/-- A route of a manifest. -/
structure RouteEntry where
  pattern : String
  name : Option String := none
  deriving DecidableEq, Repr

/-- What a match of the route reports: its name, or else its pattern. -/
def RouteEntry.identifier (e : RouteEntry) : String :=
  e.name.getD e.pattern

/-- A manifest: options, and routes in order. -/
structure Manifest where
  settings : Settings := {}
  routes : List RouteEntry := []
  deriving DecidableEq, Repr

namespace Manifest

/-- The values of named fields: by name from a table, in order from an array. -/
def fields? (names : List String) : Value → Option (List (Option Value))
  | .table entries => some (names.map fun n => Value.get? n entries)
  | .array items => some ((List.range names.length).map fun i => items[i]?)
  | .datetime _ => some (names.map fun _ => none)
  | _ => none

/-- A switch that may be left out. -/
def switch? (default : Bool) : Option Value → Option Bool
  | none => some default
  | some (.boolean b) => some b
  | some _ => none

/-- Reads the options. -/
def settings? (v : Value) : Option Settings := do
  match ← fields? ["decode_parameters", "merge_query", "query_overrides_path"] v with
  | [decode, merge, override] =>
    return {
      decodeParameters := ← switch? true decode
      mergeQuery := ← switch? true merge
      queryOverridesPath := ← switch? false override }
  | _ => none

/-- Reads a route. -/
def route? (v : Value) : Option RouteEntry := do
  match ← fields? ["pattern", "name"] v with
  | [some (.string pattern), none] => return ⟨pattern, none⟩
  | [some (.string pattern), some (.string name)] => return ⟨pattern, some name⟩
  | _ => none

/-- Reads the list of routes. -/
def routes? : Value → Option (List RouteEntry)
  | .array items => items.mapM route?
  | _ => none

/-- Reads a manifest from the table of a document. -/
def ofTable? (entries : List (String × Value)) : Option Manifest := do
  let settings ← ((Value.get? "router" entries).map settings?).getD (some {})
  let routes ← ((Value.get? "routes" entries).map routes?).getD (some [])
  return ⟨settings, routes⟩

/-- Reads a manifest from its text. -/
def ofText? (text : String) : Option Manifest :=
  if Text.isBlankText text then some {}
  else (Toml.Document.read? text).bind ofTable?

/-- What a name stands for in a directory. -/
inductive FileContent where
  | absent
  | directory
  | file (bytes : List UInt8)
  deriving DecidableEq, Repr

/-- Why there is no manifest. -/
inductive LoadError where
  /-- A text is no manifest. -/
  | invalid
  /-- A file cannot be read as text. -/
  | unreadable (path : String)
  /-- The text of a file is no manifest. -/
  | unparsable (path : String)
  deriving DecidableEq, Repr

/-- The sentence that tells a user what is wrong. -/
def LoadError.message : LoadError → String
  | invalid => "Invalid route manifest"
  | unreadable path => "Failed to read route manifest: " ++ Text.quote path
  | unparsable path => "Failed to parse route manifest: " ++ Text.quote path

/-- Reads a manifest from its text, or says that it is none. -/
def parse (text : String) : Except LoadError Manifest :=
  match ofText? text with
  | some m => .ok m
  | none => .error .invalid

/-- The file that is read when none is named. -/
def defaultPath : String := "routes.toml"

/-- Reads a manifest from what a path stands for. -/
def load (path : String) : FileContent → Except LoadError Manifest
  | .absent => .ok {}
  | .directory => .error (.unreadable path)
  | .file bytes =>
    match Utf8.decode? bytes with
    | none => .error (.unreadable path)
    | some cs =>
      match ofText? (String.ofList cs) with
      | some m => .ok m
      | none => .error (.unparsable path)

end Manifest

/-- A manifest's route that was refused. -/
structure RouteRejection where
  pattern : String
  refusal : Refusal
  deriving DecidableEq, Repr

/-- The sentence that tells a user which route was refused. -/
def RouteRejection.message (r : RouteRejection) : String :=
  "Failed to register route pattern: " ++ r.pattern

namespace RouteTable

/-- Registers a manifest's routes in order, each under its identifier. -/
def registerAll (r : RouteTable String) :
    List RouteEntry → Except RouteRejection (RouteTable String)
  | [] => .ok r
  | e :: es =>
    match r.register e.pattern e.identifier with
    | .ok r => r.registerAll es
    | .error refusal => .error ⟨e.pattern, refusal⟩

/-- The route table that a manifest describes. -/
def ofManifest (m : Manifest) : Except RouteRejection (RouteTable String) :=
  ((empty : RouteTable String).withDecoding m.settings.decodeParameters).registerAll m.routes

end RouteTable
end LinkRouting
