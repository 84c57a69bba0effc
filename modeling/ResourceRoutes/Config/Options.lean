import ResourceRoutes.Error
import ResourceRoutes.Text.Blank

/-!
# Router options

A router is configured by a base path, under which every route lives, and a base URL that
generated links start with. Both are optional.

* `Options.rootPath`: where traversal starts, `/` for an absent or empty base path.
* `Options.validate`: a non-empty base path starts with `/` and, unless it is `/`, does not end
  with one; a base URL starts with `http://` or `https://`. The base path is checked first.
* `Options.ofEnvironment`: options from two variables, trimmed, an empty value counting as unset.
-/

namespace ResourceRoutes

/-- Options fixed for a whole router. -/
structure Options where
  basePath : Option String
  baseUrl : Option String
  deriving Repr, DecidableEq

namespace Options

/-- No base path and no base URL. -/
def empty : Options := ⟨none, none⟩

/-- The path traversal starts from: the base path, or `/` when it is absent or empty. -/
def rootPath (o : Options) : String :=
  match o.basePath with
  | some p => if p.isEmpty then "/" else p
  | none => "/"

/-- Check the options against the rules for base paths and base URLs. -/
def validate (o : Options) : Except ConfigError Unit := do
  match o.basePath with
  | some p =>
    if !p.isEmpty then
      if !p.startsWith "/" then
        throw (.validation ("base path must start with '/': " ++ p))
      if p.length > 1 && p.endsWith "/" then
        throw (.validation ("base path must not end with '/': " ++ p))
  | none => pure ()
  match o.baseUrl with
  | some u =>
    if !(u.startsWith "http://" || u.startsWith "https://") then
      throw (.validation ("base url must be http(s): " ++ u))
  | none => pure ()

/-- The variable holding the base path. -/
def basePathVariable : String := "RESOURCE_ROUTER_BASE_PATH"

/-- The variable holding the base URL. -/
def baseUrlVariable : String := "RESOURCE_ROUTER_BASE_URL"

/-- Options read from variables: each value trimmed of blanks, an empty one unset. -/
def ofEnvironment (lookup : String → Option String) : Options :=
  let read (key : String) : Option String :=
    match lookup key with
    | some v => let t := Text.trimBlank v; if t.isEmpty then none else some t
    | none => none
  ⟨read basePathVariable, read baseUrlVariable⟩

end Options

end ResourceRoutes
