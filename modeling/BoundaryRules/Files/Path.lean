/-!
Paths as texts with slashes. Their order and their equality are those of their components: double
slashes, and dots after the front, make no difference.
-/
namespace BoundaryRules.Path

/-- The pieces between slashes, empty ones included; `piece` is held with its last character
first. -/
def splitFrom (piece : List Char) : List Char → List String
  | [] => [String.ofList piece.reverse]
  | c :: text =>
    if c = '/' then String.ofList piece.reverse :: splitFrom [] text
    else splitFrom (c :: piece) text

def split (path : String) : List String := splitFrom [] path.toList

def isAbsolute (path : String) : Bool := path.toList.head? == some '/'

/-- A step of a path. -/
inductive Component where
  | root
  | here
  | up
  | name (name : String)
deriving DecidableEq, Repr

/-- A step at any place but the front, where dots do nothing. -/
def component? (piece : String) : Option Component :=
  if piece = "" ∨ piece = "." then none
  else if piece = ".." then some .up
  else some (.name piece)

def components (path : String) : List Component :=
  match split path with
  | [] => []
  | first :: more =>
    (if isAbsolute path then [Component.root]
    else if first = "." then [Component.here]
    else (component? first).toList) ++ more.filterMap component?

/-- Steps are ordered by kind and names among each other by code points. -/
def Component.le : Component → Component → Bool
  | root, _ => true
  | here, root => false
  | here, _ => true
  | up, root => false
  | up, here => false
  | up, _ => true
  | name a, name b => a ≤ b
  | name _, _ => false

/-- The lexicographic order of component lists. -/
def componentsLe : List Component → List Component → Bool
  | [], _ => true
  | _ :: _, [] => false
  | a :: p, b :: q => if a = b then componentsLe p q else a.le b

def le (p q : String) : Bool := componentsLe (components p) (components q)

/-- Whether two paths have the same components. -/
def same (p q : String) : Bool := components p == components q

/-- `path` seen from `base`; an absolute path is not changed. -/
def join (base path : String) : String :=
  if isAbsolute path || base = "" then path
  else if base.toList.getLast? == some '/' then base ++ path
  else base ++ "/" ++ path

/-- What of a path, held with its last character first, is left without slashes and dots that do
nothing at its end. The first character stays. -/
def dropIdle : List Char → List Char
  | '/' :: c :: path => dropIdle (c :: path)
  | '.' :: '/' :: c :: path => dropIdle ('/' :: c :: path)
  | path => path

/-- What of a path, held with its last character first, is left without its last name. -/
def dropName (path : List Char) : List Char :=
  match path.dropWhile (· != '/') with
  | ['/'] => ['/']
  | '/' :: path => dropIdle path
  | path => path

/-- The directory that a path is in: the path without its last component. The root and the empty
path are in none. -/
def parent? (path : String) : Option String :=
  match (components path).getLast? with
  | none => none
  | some .root => none
  | some _ => some (String.ofList (dropName (dropIdle path.toList.reverse)).reverse)

end BoundaryRules.Path
