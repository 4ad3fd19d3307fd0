import WalletNotify.Config.Literal

/-!
# Settings in the environment

A variable whose name starts with `OCEAN_` is a setting. Two underscores, or a dot, lead into a
table; case does not matter.
-/

namespace WalletNotify.Config

open Text (Keyed)

/-- What the names of settings start with. -/
def variableStart : String := "OCEAN_"

/-- A letter of the Latin alphabet in lower case. -/
def lower (cs : List Char) : List Char := cs.map Char.toLower

/-- Dots in place of double underscores. -/
def dotted : List Char → List Char
  | '_' :: '_' :: rest => '.' :: dotted rest
  | c :: rest => c :: dotted rest
  | [] => []

/-- The keys that lead to the setting of a variable, if it is one. -/
def variablePath? (name : String) : Option (List String) :=
  let cs := Literal.trim name.toList
  let start := variableStart.toList
  if lower (cs.take start.length) = lower start then
    let keys := (lower (dotted (cs.drop start.length))).splitOn '.'
    if keys.any List.isEmpty then none else some (keys.map String.ofList)
  else none

/-- A setting inside the tables of a path. -/
def nested (path : List String) (s : Setting) : Setting :=
  path.foldr (fun key inner => .table .environment [(key, inner)]) s

/-- The settings of a path of keys. -/
def nestedSettings (path : List String) (s : Setting) : Settings :=
  match path with
  | [] => []
  | key :: path => [(key, nested path s)]

/-- The settings of variables; a later one is laid over the earlier ones. -/
def environmentLayer (environment : List (String × String)) : Settings :=
  environment.foldl (fun below (name, text) =>
    match variablePath? name with
    | some path => Setting.overlayAll (nestedSettings path (Literal.read text)) below
    | none => below) []

end WalletNotify.Config
