import LinkRouting.Manifest
import LinkRouting.Trie.Record
import LinkRouting.Url.Parse
import LinkRouting.Url.Query

/-!
# The dispatcher

A `Dispatcher` sends URLs to handlers.  It holds a route table in which each pattern is its own
identifier, the handler that is bound to each pattern, the options, and maybe a handler for URLs
that go nowhere else.  Handlers are values of any type: the dispatcher only says which is to be
called with what.

Registering a pattern a second time binds it to another handler and leaves the routes as they are.
A pattern that is refused is bound to nothing.

A URL is routed by its path (`route`).  A text that starts with no scheme is read as a path under a
fixed base, so that bare paths can be dispatched as well.  The parameters of the route are merged
with the pairs of the URL's query as the options say (`merge`).  `dispatchWith` turns the outcome
into calls: either the one handler of the route, or the one for URLs that are not matched.
-/

namespace LinkRouting

/-- Where URLs are sent, and with which options. -/
structure Dispatcher (η υ : Type) where
  table : RouteTable String := .empty
  handlers : List (String × η) := []
  settings : Settings := {}
  fallback : Option υ := none

/-- What becomes of a URL. -/
inductive Outcome (η : Type) where
  /-- The text is no URL. -/
  | notUrl
  /-- No route matches its path. -/
  | noRoute (url : Url) (miss : Miss)
  /-- The pattern of the route that matches is bound to no handler. -/
  | noHandler (url : Url) (pattern : String)
  /-- A handler is to be called with the parameters. -/
  | handled (handler : η) (url : Url) (parameters : Bindings)

/-- A call that is to be made. -/
inductive Call (η υ γ : Type) where
  /-- The handler of a route. -/
  | matched (handler : η) (url : Url) (parameters : Bindings) (context : Option γ)
  /-- The handler for what is not matched, with the text as it was given. -/
  | unmatched (handler : υ) (input : String) (context : Option γ)

namespace Dispatcher
variable {η υ γ : Type}

/-- The dispatcher of no routes. -/
def empty : Dispatcher η υ := {}

/-- The handler that is bound to a pattern. -/
def handler? (d : Dispatcher η υ) (pattern : String) : Option η :=
  d.handlers.lookup pattern

/-- The same routes and handlers under other options. -/
def configure (d : Dispatcher η υ) (settings : Settings) : Dispatcher η υ :=
  { d with settings, table := d.table.withDecoding settings.decodeParameters }

/-- A dispatcher with the options of a manifest, whose routes have no handlers and are left out. -/
def ofManifest (m : Manifest) : Dispatcher η υ :=
  empty.configure m.settings

/-- The same routes, with a handler for what is not matched. -/
def withFallback (d : Dispatcher η υ) (handler : υ) : Dispatcher η υ :=
  { d with fallback := some handler }

/-- The bindings with a pattern bound to another handler in its place. -/
def rebind (pattern : String) (handler : η) : List (String × η) → List (String × η)
  | [] => []
  | (p, h) :: rest =>
    if p = pattern then (p, handler) :: rest else (p, h) :: rebind pattern handler rest

/-- Registers a pattern and binds it to a handler. -/
def register (d : Dispatcher η υ) (pattern : String) (handler : η) :
    Except Refusal (Dispatcher η υ) :=
  if (d.handler? pattern).isSome then
    .ok { d with handlers := rebind pattern handler d.handlers }
  else
    match d.table.register pattern pattern with
    | .error refusal => .error refusal
    | .ok table => .ok { d with table, handlers := (pattern, handler) :: d.handlers }

/-- What registering a pattern reports. -/
def registerEvents (d : Dispatcher η υ) (pattern : String) : List Event :=
  if (d.handler? pattern).isSome then [.handlerReplaced pattern]
  else RouteTable.registerEvents pattern (d.table.register pattern pattern)

/-- The base under which texts without a scheme are read. -/
def base : Url :=
  { scheme := "route", authority := some { host := .name "localhost" }, path := "/" }

/-- The URL that a text stands for. -/
def readUrl? (input : String) : Option Url :=
  if input.isEmpty then none
  else
    match Url.parse input with
    | .ok url => some url
    | .error .relative => (base.resolve input).toOption
    | .error _ => none

/-- The parameters of a route with the pairs of the query, as the options say. -/
def merge (settings : Settings) (captured query : Bindings) : Bindings :=
  if settings.mergeQuery then
    if settings.queryOverridesPath then captured.override query else captured.fill query
  else captured

/-- Finds the handler of a URL and its parameters. -/
def route (d : Dispatcher η υ) (input : String) : Outcome η :=
  match readUrl? input with
  | none => .notUrl
  | some url =>
    match d.table.matchPath url.path with
    | .error miss => .noRoute url miss
    | .ok m =>
      match d.handler? m.identifier with
      | none => .noHandler url m.identifier
      | some handler => .handled handler url (merge d.settings m.parameters url.queryParameters)

/-- What routing a text reports. -/
def routeEvents (input : String) : Outcome η → List Event
  | .notUrl => [.urlNotParsed input]
  | .noRoute url miss =>
    RouteTable.matchEvents url.path (.error miss : Except Miss (Match String)) ++
      [.urlNotMatched input]
  | .noHandler _ pattern => [.handlerMissing input pattern]
  | .handled .. => []

/-- The calls that an outcome asks for: whether the route's handler is called, and all calls. -/
def calls (unmatched : Option υ) (input : String) (context : Option γ) :
    Outcome η → Bool × List (Call η υ γ)
  | .handled handler url parameters => (true, [.matched handler url parameters context])
  | _ => (false, (unmatched.map fun u => .unmatched u input context).toList)

/-- Dispatches a text, with a handler of the caller's for what is not matched. -/
def dispatchWith (d : Dispatcher η υ) (unmatched : υ) (input : String) (context : Option γ) :
    Bool × List (Call η υ γ) :=
  calls (some unmatched) input context (d.route input)

/-- Dispatches a text, with the dispatcher's own handler for what is not matched, if it has one. -/
def dispatch (d : Dispatcher η υ) (input : String) (context : Option γ) :
    Bool × List (Call η υ γ) :=
  calls d.fallback input context (d.route input)

/-- A truth value as a word. -/
def truthText (b : Bool) : String :=
  if b then "true" else "false"

/-- The dispatcher written out as a record, if there is one fixed order to write all edges in: where
a vertex has several exact edges, the record is none. -/
def record? (d : Dispatcher η υ) : Option String :=
  if d.table.trie.isChainOfExact then
    let options := Trie.recordText "RouterConfig" [
      ("decode_parameters", truthText d.settings.decodeParameters),
      ("merge_query", truthText d.settings.mergeQuery),
      ("query_overrides_path", truthText d.settings.queryOverridesPath)]
    let core := Trie.recordText "RouterCore" [
      ("graph", d.table.trie.record Text.quote),
      ("decode_parameters", truthText d.table.decodeParameters)]
    some ("Router \x7b core: " ++ core ++ ", handlers: " ++ toString d.handlers.length ++
      ", options: " ++ options ++ ", .. \x7d")
  else none

end Dispatcher
end LinkRouting
