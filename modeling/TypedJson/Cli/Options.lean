/-!
# The command line

The options of the command, how the argument list is read, and the texts of help, version and
usage errors.

Arguments are read left to right. `--name` and `--name=value` name options by their long name;
`-xyz` is a cluster of short names, where an option that takes a value takes the rest of the
cluster (after one optional `=`) or the next argument. An option's value is settled when the
next option is read or the arguments end; only then does the option count as given. After
`--` every argument is a stray one. Each option may be given once, except the counted
`--verbose`; path values may not be empty.

Help and version end the reading where they stand. Errors carry the usage line: the general
one, one made of the required options followed by the options given so far, or, for a switch
given a value after some setting, all settings as one alternative.
-/
namespace TypedJson.Cli

inductive Opt where
  | schema
  | declarations
  | typeNamespace
  | useType
  | config
  | dryRun
  | json
  | verbose
  | help
  | version
deriving DecidableEq, Repr, Inhabited

inductive Takes where
  | path (valueName : String)
  | text (valueName : String)
  | flag
  | count
  | help
  | version
deriving DecidableEq, Repr, Inhabited

structure Spec where
  opt : Opt
  long : String
  short : Option Char := none
  takes : Takes
  about : String
deriving Repr, Inhabited

def commandName : String := "prisma-json-types"

def versionText : String := "0.2.0"

def aboutText : String := "Typed Json fields for generated Prisma client declarations"

def specs : List Spec := [
  { opt := .schema, long := "schema", takes := .path "FILE",
    about := "DMMF document (or its `datamodel` section) as JSON" },
  { opt := .declarations, long := "declarations", takes := .path "PATH",
    about := "Declaration file or client directory to rewrite" },
  { opt := .typeNamespace, long := "namespace", takes := .text "NS",
    about := "Namespace for `[Name]` annotations" },
  { opt := .useType, long := "use-type", takes := .text "TYPE",
    about := "Type for Json fields without an annotation" },
  { opt := .config, long := "config", short := some 'c', takes := .path "FILE",
    about := "Config file (default: ./prisma-json-types.toml)" },
  { opt := .dryRun, long := "dry-run", takes := .flag,
    about := "Compute the rewrite without writing the file" },
  { opt := .json, long := "json", takes := .flag, about := "Print the full report as JSON" },
  { opt := .verbose, long := "verbose", short := some 'v', takes := .count,
    about := "Increase log verbosity (-v info, -vv debug)" },
  { opt := .help, long := "help", short := some 'h', takes := .help, about := "Print help" },
  { opt := .version, long := "version", short := some 'V', takes := .version,
    about := "Print version" }]

def requiredOpts : List Opt := [.schema]

def Opt.spec (o : Opt) : Spec := (specs.find? (·.opt == o)).getD default

def Spec.takesValue (s : Spec) : Bool :=
  match s.takes with
  | .path _ | .text _ => true
  | _ => false

def Spec.display (s : Spec) : String :=
  "--" ++ s.long ++
    match s.takes with
    | .path v | .text v => " <" ++ v ++ ">"
    | .count => "..."
    | _ => ""

def spaces (n : Nat) : String := String.ofList (List.replicate n ' ')

def generalUsage : String := commandName ++ " [OPTIONS] " ++ " ".intercalate
  (requiredOpts.map fun o => o.spec.display)

def usageOf (named : List Opt) : String :=
  if named.isEmpty then generalUsage
  else
    let shown := (requiredOpts ++ named).foldl
      (fun acc o => if acc.contains o then acc else acc ++ [o]) []
    commandName ++ " " ++ " ".intercalate (shown.map fun o => o.spec.display)

def settingOpts : List Opt := (specs.map (·.opt)).filter fun o => o != .help && o != .version

def settingsGroup : String := "<" ++ "|".intercalate (settingOpts.map fun o => o.spec.display) ++ ">"

def unneededValueUsage (given : List Opt) (o : Opt) : String :=
  if given.isEmpty then usageOf [o]
  else commandName ++ " " ++ (if settingOpts.contains o then "" else o.spec.display ++ " ") ++
    settingsGroup

def helpText : String :=
  let width := (specs.map fun s => s.display.length).foldl max 0
  let line (s : Spec) : String :=
    let flag := match s.short with
      | some c => "-" ++ String.singleton c ++ ", "
      | none => "    "
    "  " ++ flag ++ s.display ++ spaces (width - s.display.length) ++ "  " ++ s.about ++ "\n"
  aboutText ++ "\n\nUsage: " ++ generalUsage ++ "\n\nOptions:\n" ++ String.join (specs.map line)

def versionLine : String := commandName ++ " " ++ versionText ++ "\n"

def usageError (head : String) (tip : Option String) (usage : Option String) : String :=
  "error: " ++ head ++
    (match tip with | some t => "\n\n  tip: " ++ t | none => "") ++
    (match usage with | some u => "\n\nUsage: " ++ u | none => "") ++
    "\n\nFor more information, try '--help'.\n"

/-! ## Similar names -/

def jaro (a b : String) : Float :=
  let xs := a.toList.toArray
  let ys := b.toList.toArray
  let la := xs.size
  let lb := ys.size
  if la == 0 && lb == 0 then 1.0
  else if la == 0 || lb == 0 then 0.0
  else
    let range := max la lb / 2 - 1
    -- each character of `a` takes the first free equal character of `b` in its window
    let (aFlags, bFlags, found) := (List.range la).foldl
      (fun (acc : Array Bool × Array Bool × Nat) i =>
        let (aFlags, bFlags, found) := acc
        let lo := i - range
        let hi := min lb (i + range + 1)
        match (List.range hi).find? fun j =>
            lo ≤ j && xs[i]? == ys[j]? && !(bFlags[j]?.getD false) with
        | some j => (aFlags.set! i true, bFlags.set! j true, found + 1)
        | none => (aFlags, bFlags, found))
      (Array.replicate la false, Array.replicate lb false, 0)
    if found == 0 then 0.0
    else
      let aMatched := (List.range la).filterMap fun i => if aFlags[i]?.getD false then xs[i]? else none
      let bMatched := (List.range lb).filterMap fun j => if bFlags[j]?.getD false then ys[j]? else none
      let transpositions := ((aMatched.zip bMatched).filter fun (x, y) => x != y).length / 2
      let m := found.toFloat
      (m / la.toFloat + m / lb.toFloat + (found - transpositions).toFloat / m) / 3.0

def suggestionThreshold : Float := Float.ofBits 0x3FE6666666666666

def suggestion (name : String) : Option String :=
  let scored := specs.filterMap fun s =>
    let c := jaro name s.long
    if c > suggestionThreshold then some (c, s.long) else none
  (scored.foldl (fun best (c, n) => match best with
      | some (b, _) => if c ≥ b then some (c, n) else best
      | none => some (c, n)) none).map (·.2)

/-! ## Reading the arguments -/

structure Options where
  schema : String
  declarations : Option String := none
  typeNamespace : Option String := none
  useType : Option String := none
  config : Option String := none
  dryRun : Bool := false
  json : Bool := false
  verbosity : Nat := 0
deriving Repr, Inhabited

inductive Stop where
  | help
  | version
  | usage (text : String)
deriving Repr, Inhabited

structure State where
  given : List Opt := []
  values : List (Opt × String) := []
  verbosity : Nat := 0
  pending : Option (Opt × List String) := none
  waiting : Bool := false
  escaped : Bool := false
deriving Repr, Inhabited

def repeated (o : Opt) : Stop :=
  .usage (usageError ("the argument '" ++ o.spec.display ++ "' cannot be used multiple times")
    none (some generalUsage))

def missingValue (o : Opt) : Stop :=
  .usage (usageError ("a value is required for '" ++ o.spec.display ++ "' but none was supplied")
    none none)

def unexpected (arg : String) (tip : Option String) (usage : String) : Stop :=
  .usage (usageError ("unexpected argument '" ++ arg ++ "' found") tip (some usage))

namespace State

def settle (st : State) (o : Opt) (vals : List String) : Except Stop State :=
  match vals with
  | [] => .error (missingValue o)
  | v :: _ =>
    if st.given.contains o then .error (repeated o)
    else
      let st := { st with given := st.given ++ [o] }
      match o.spec.takes with
      | .path _ => if v.isEmpty then .error (missingValue o) else .ok { st with values := st.values ++ [(o, v)] }
      | _ => .ok { st with values := st.values ++ [(o, v)] }

def resolve (st : State) : Except Stop State :=
  match st.pending with
  | none => .ok st
  | some (o, vals) => { st with pending := none, waiting := false }.settle o vals

def resolveQuietly (st : State) : State :=
  match st.pending with
  | none => st
  | some (o, vals) =>
    let st' := { st with pending := none, waiting := false }
    match st'.settle o vals with
    | .ok s => s
    | .error _ =>
      if vals.isEmpty then st'
      else if st'.given.contains o then { st' with given := st'.given.filter (· != o) }
      else { st' with given := st'.given ++ [o] }

def give (st : State) (o : Opt) : Except Stop State := do
  let st ← st.resolve
  match o.spec.takes with
  | .help => .error .help
  | .version => .error .version
  | .count =>
    .ok { st with given := st.given.filter (· != o) ++ [o], verbosity := st.verbosity + 1 }
  | _ => if st.given.contains o then .error (repeated o) else .ok { st with given := st.given ++ [o] }

def giveValued (st : State) (o : Opt) (attached : Option String) : Except Stop State := do
  let st ← st.resolve
  match attached with
  | some v => st.settle o [v]
  | none => .ok { st with pending := some (o, []), waiting := true }

end State

def specOfLong (name : String) : Option Spec := specs.find? (·.long == name)

def specOfShort (c : Char) : Option Spec := specs.find? (·.short == some c)

def readLong (st : State) (body : String) : Except Stop State :=
  let name := String.ofList (body.toList.takeWhile (· != '='))
  let attached := if body.toList.contains '=' then
      some (String.ofList ((body.toList.dropWhile (· != '=')).drop 1))
    else none
  match specOfLong name with
  | none =>
    let st := st.resolveQuietly
    let tip := suggestion name
    let named := match tip.bind specOfLong with
      | some s => if st.given.contains s.opt then st.given else st.given ++ [s.opt]
      | none => st.given
    .error (unexpected ("--" ++ name)
      (tip.map fun t => "a similar argument exists: '--" ++ t ++ "'") (usageOf named))
  | some s =>
    if s.takesValue then st.giveValued s.opt attached
    else
      match attached with
      | some v =>
        .error (.usage (usageError ("unexpected value '" ++ v ++ "' for '" ++ s.display ++
          "' found; no more were expected") none (some (unneededValueUsage st.given s.opt))))
      | none => st.give s.opt

def readShorts (st : State) : List Char → Except Stop State
  | [] => .ok st
  | c :: rest =>
    match specOfShort c with
    | none => .error (unexpected ("-" ++ String.singleton c) none generalUsage)
    | some s =>
      if s.takesValue then
        let attached := match rest with
          | [] => none
          | '=' :: v => some (String.ofList v)
          | v => some (String.ofList v)
        st.giveValued s.opt attached
      else do
        let st ← st.give s.opt
        readShorts st rest

def readArg (st : State) (arg : String) : Except Stop State :=
  if st.escaped then .error (unexpected arg none generalUsage)
  else if arg == "--" then .ok { st with escaped := true }
  else if arg.startsWith "--" then readLong st (arg.drop 2).toString
  else if arg.startsWith "-" && arg.length > 1 then readShorts st (arg.toList.drop 1)
  else if st.waiting then
    match st.pending with
    | some (o, vals) => .ok { st with pending := some (o, vals ++ [arg]), waiting := false }
    | none => .error (unexpected arg none generalUsage)
  else .error (unexpected arg none generalUsage)

def State.value? (st : State) (o : Opt) : Option String := lookup o st.values
where
  lookup (o : Opt) : List (Opt × String) → Option String
    | [] => none
    | (o', v) :: rest => if o' == o then some v else lookup o rest

def parse (args : List String) : Except Stop Options := do
  let st ← args.foldlM readArg {}
  let st ← st.resolve
  match st.value? .schema with
  | none =>
    let missing := requiredOpts.filter fun o => !st.given.contains o
    .error (.usage (usageError ("the following required arguments were not provided:" ++
        String.join (missing.map fun o => "\n  " ++ o.spec.display))
      none (some (usageOf (st.given ++ missing)))))
  | some schema =>
    pure { schema, declarations := st.value? .declarations,
           typeNamespace := st.value? .typeNamespace, useType := st.value? .useType,
           config := st.value? .config, dryRun := st.given.contains .dryRun,
           json := st.given.contains .json, verbosity := st.verbosity }

end TypedJson.Cli
