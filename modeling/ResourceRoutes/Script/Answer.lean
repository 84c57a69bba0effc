import ResourceRoutes.Script.Steps
import ResourceRoutes.Tree.Inherited

/-!
# Answering a script

A script is one JSON object whose `op` says what to do: run steps on a fresh router, check or
read options, describe a controller map, or compose inherited lists. `answer` gives the whole
answer as a document; malformed input is answered with a complaint.
-/

namespace ResourceRoutes.Script

/-- Options given as an object of optional strings; other members are ignored. -/
def readOptions (v : Json) : Except String Options := do
  let field (k : String) : Except String (Option String) :=
    match v.get? k with
    | none | some .null => .ok none
    | some (.str s) => .ok (some s)
    | some _ => .error "options fields must be strings or null"
  if (v.getObj?).isNone then throw "options must be an object"
  return ⟨← field "basePath", ← field "baseUrl"⟩

/-- Options of a script, empty when it gives none. -/
def scriptOptions (o : Json) : Except String Options :=
  match o.get? "options" with
  | none | some .null => .ok Options.empty
  | some v => readOptions v

/-- Options with the root path they give. -/
def optionsAnswer (opts : Options) : Json :=
  Json.object [("options", Report.options opts), ("root_path", .str opts.rootPath)]

/-- A fresh router (checked or not) running the script's steps. A checked router whose options
fail the check answers the failure before the steps are read. -/
def routerAnswer (o : Json) : Except String Json := do
  let opts ← scriptOptions o
  let start := if flag o "checked" then Router.fromOptions opts else .ok (Router.withOptions opts)
  match start with
  | .error e => return Report.routerError e
  | .ok r => return Json.object [("steps", .arr (runSteps r (← listOf o "steps")))]

/-- What the description of a controller map says of one entry: the record the script gives
it (also for a plain controller, which does not use it), and for instances and classes with
tables their debug notation; an instance also answers the probes. -/
def entryReport (e : ControllerEntry) (given : Option ValidatorRecord) (probes : List String) :
    Json :=
  let shown := ("validate", Report.recordDebug given)
  match e with
  | .instance c =>
    if c.isObject then
      Json.object [shown, ("debug", .str c.debug),
        ("has_action", Json.object (probes.map fun p => (p, .bool (c.hasAction p))))]
    else Json.object [shown]
  | .class k =>
    if k.plain then Json.object [shown]
    else Json.object [shown, ("debug", .str k.debug)]

/-- A name to resolve, with its arguments. -/
def readResolve (e : Json) : Except String (String × List Json) :=
  match e.get? "name" with
  | some (.str n) => return (n, ← listOf e "args")
  | _ => .error "resolve entries need a name"

/-- Whether a record given in a script has a `by_action` table of two or more entries, whose
debug notation lists them in no fixed order. -/
def listsUnordered (record : Option Json) : Bool :=
  match record with
  | some r => Slot.all.any fun s =>
    match (r.get? s.name).bind (·.get? "by_action") with
    | some (.obj (_ :: _ :: _)) => true
    | _ => false
  | none => false

/-- Whether the controller a script gives under a name has a record with an unordered
`by_action` table, its own or the one it gives the instances it builds; the record of what
resolves from it is then not shown. -/
def resolvesUnordered (o : Json) (name : String) : Bool :=
  let entry := (o.get? "controllers").bind (·.get? name)
  listsUnordered (entry.bind (·.get? "validate")) ||
    listsUnordered (entry.bind (·.get? "instance_validate"))

/-- Describe a controller map: its notation, size, source, loading, entries and resolutions.
Probes are the strings of the `probe` list, which must be a list once there is an entry. -/
def controllersAnswer (o : Json) : Except String Json := do
  let map ← readControllers (o.get? "controllers")
  let source ← readSource o map
  let entries ← map.entries.mapM fun (k, e) => do
    let given ← optRecord (((o.get? "controllers").bind (·.get? k)).getD .null) "validate"
    return (k, entryReport e given (← someStrings o "probe"))
  let resolves ← (← listOf o "resolve").mapM readResolve
  return Json.object
    [("map", .str map.debug), ("len", Json.nat map.size), ("is_empty", .bool (map.size == 0)),
     ("resolver", .str map.resolverDebug), ("source", .str source.debug),
     ("loaded", match source.load with
        | .ok m => Json.nat m.size
        | .error e => Report.routerError e),
     ("entries", Json.object entries),
     ("resolved", .arr (resolves.map fun (n, args) =>
        match map.resolve n args with
        | .ok r =>
          Json.object [("debug", .str r.debug),
            ("validate", if resolvesUnordered o n then .null else Report.recordDebug r.record)]
        | .error e => Report.routerError e))]

/-- Compose a chain of lists given nearest first; a missing chain is empty. -/
def inheritedAnswer (o : Json) : Except String Json := do
  let chain ← (← listOf o "chain").mapM fun
    | .arr xs => pure (InheritedList.mk xs)
    | _ => throw "chain must be a list of lists"
  return Json.object [("composed", .arr (InheritedList.compose chain)),
    ("own", .arr (chain.map fun l => .arr l.own))]

/-- Options read from the variables of an environment given as an object; a variable whose
value is no string is unset. A value with the NUL character cannot be set in an environment, so
such a script is answered as a panic. -/
def environmentAnswer (o : Json) : Json :=
  let value (k : String) : Option String := ((o.get? "env").bind (·.get? k)).bind Json.getStr?
  let vars := [Options.basePathVariable, Options.baseUrlVariable]
  if vars.any fun k => (value k).any (·.toList.contains '\x00') then
    Json.object [("error", .str "Panic")]
  else optionsAnswer (Options.ofEnvironment value)

/-- The answer to a script. -/
def answer (o : Json) : Json :=
  let result : Except String Json :=
    match o.get? "op" with
    | some (.str "router") => routerAnswer o
    | some (.str "validate_options") => do
      let opts ← scriptOptions o
      let valid := match opts.validate with
        | .ok () => Json.bool true
        | .error e => Report.configError e
      return Json.object [("valid", valid), ("root_path", .str opts.rootPath)]
    | some (.str "options_from_json") => do
      let text ← needStr o "text"
      return match Options.ofJsonText text with
        | .ok opts => optionsAnswer opts
        | .error e => Report.configError e
    | some (.str "controllers") => controllersAnswer o
    | some (.str "inherited_list") => inheritedAnswer o
    | some (.str "options_from_env") => .ok (environmentAnswer o)
    | some (.str other) => .error ("unknown op '" ++ other ++ "'")
    | _ => .error (fieldMust "op" "a string")
  match result with
  | .ok j => j
  | .error m => Report.badInput m

end ResourceRoutes.Script
