import LinkRouting.Pattern.Choice
import LinkRouting.Trie.Match

/-!
# Routes without a trie

The routes of all registered patterns can be kept in one flat list, each as its labels with its
identifier, in the order of registration.  Such a list can be searched without a trie.  The walk
over a path keeps the labels taken so far; at a literal it takes the literal's own label if some
route goes on with it, and a parameter otherwise; and it ends as soon as no route starts with the
labels taken.  The route found is the first one with exactly these labels.
-/

namespace LinkRouting

/-- Routes by their labels, the earliest first. -/
abbrev FlatRoutes (ι : Type) := List (List Label × ι)

namespace FlatRoutes
variable {ι : Type}

/-- The routes of registered patterns. -/
def ofPatterns (registered : List (String × ι)) : FlatRoutes ι :=
  registered.flatMap fun (pattern, i) =>
    (Pattern.routes (Pattern.scan pattern)).map fun ls => (ls, i)

/-- Whether some route starts with these labels. -/
def hasStart (routes : FlatRoutes ι) (ls : List Label) : Bool :=
  routes.any fun route => ls.isPrefixOf route.1

/-- The label under which a token is taken after others. -/
def labelOf (routes : FlatRoutes ι) (taken : List Label) : Path.Token → Label
  | .literal text =>
    let own := Label.exact (.literal (Trie.literalKey text))
    if routes.hasStart (taken ++ [own]) then own else .parameter
  | separator => .exact separator

/-- The labels of a path, as far as some route starts with them. -/
def walk? (routes : FlatRoutes ι) (taken : List Label) : List Path.Token → Option (List Label)
  | [] => some taken
  | token :: tokens =>
    let taken := taken ++ [routes.labelOf taken token]
    if routes.hasStart taken then routes.walk? taken tokens else none

/-- The identifier of the first route that a path takes. -/
def find? (routes : FlatRoutes ι) (path : String) : Option ι :=
  let tokens := Path.scan path
  if tokens.isEmpty then none else (routes.walk? [] tokens).bind fun ls => List.lookup ls routes

end FlatRoutes
end LinkRouting
