import CallRegistry.Form
import CallRegistry.Settings.Basic
import CallRegistry.Settings.Checked
import CallRegistry.Settings.File
import CallRegistry.Text.Case

/-!
# Where settings come from

A setting is looked up among the values handed in by name, then in the
environment, then in the settings file; what is found nowhere has its default.
Names are matched without regard to the case of their letters.  Of two equal names
the earlier one counts among the values handed in, and the later one in the
environment and in the file.

The environment may hold other things.  An unknown name in the settings file
that is bound to a value, or an unknown name handed in, is a fault.
-/

namespace CallRegistry.Settings

structure Sources where
  /-- Values handed in by name. -/
  given : Form := []
  environment : List (String × String) := []
  /-- The bindings of the settings file. -/
  file : List File.Binding := []

/-- What a name is bound to, whatever the case of its letters; the first binding
counts. -/
def lookupFirst {α : Type} (name : String) (bound : List (String × α)) :
    Option α :=
  (bound.find? fun b => Text.lower b.1 == name).map (·.2)

/-- What a name is bound to, whatever the case of its letters; the last binding
counts. -/
def lookupLast {α : Type} (name : String) (bound : List (String × α)) :
    Option α :=
  lookupFirst name bound.reverse

def distinctNames (names : List String) : List String :=
  names.foldl (fun seen name => if seen.contains name then seen
    else seen ++ [name]) []

namespace Sources

def value? (s : Sources) (name : String) : Option Datum :=
  match lookupFirst name s.given with
  | some d => some d
  | none =>
    match lookupLast name s.environment with
    | some t => some (.text t)
    | none => ((lookupLast name s.file).join).map .text

def checked {α : Type} (s : Sources) (name : String)
    (reader : Datum → Except ValueFault α) (default : α) : Checked α :=
  match s.value? name with
  | some d => .ofReading name (reader d)
  | none => .value default

/-- The unknown names of the settings file that are bound to a value. -/
def unknownInFile (s : Sources) : List String :=
  let found := distinctNames (s.file.map fun b => Text.lower b.1)
  found.filter fun name =>
    isGiven (lookupLast name s.file).join && !Settings.names.contains name

def unknownGiven (s : Sources) : List String :=
  (s.given.map (·.1)).filter fun name =>
    !Settings.names.contains (Text.lower name)

/-- The faults of the unknown names: those of the file, then those handed in. -/
def unknown (s : Sources) : List Fault :=
  (distinctNames (s.unknownInFile ++ s.unknownGiven)).map fun name =>
    { name, reason := .unknownName }

/-- The settings that the sources give, or all their faults. -/
def settings (s : Sources) : Checked Settings :=
  let d := standard
  let read : Checked Settings := Settings.mk
    <$> s.checked "api_title" readText d.apiTitle
    <*> s.checked "api_version" readText d.apiVersion
    <*> s.checked "storage_table" readText d.storageTable
    <*> s.checked "storage_region_index" readText d.storageRegionIndex
    <*> s.checked "storage_region" readText d.storageRegion
    <*> s.checked "storage_endpoint" readOptionalText d.storageEndpoint
    <*> s.checked "storage_max_attempts" readInteger d.storageMaxAttempts
    <*> s.checked "storage_mock_mode" readTruth d.storageMockMode
    <*> s.checked "identity_fetcher_interval_ms" readPositive d.intervalMs
    <*> s.checked "identity_token_url" readOptionalText d.identityTokenUrl
    <*> s.checked "aws_web_identity_token_file" readOptionalText d.tokenFile
    <*> s.checked "log_level" readText d.logLevel
  read.withFaults s.unknown

end Sources

/-- Why there are no settings. -/
inductive LoadFault where
  /-- The settings file is no text. -/
  | undecodable (fault : Text.Utf8Fault)
  | refused (first : Fault) (rest : List Fault)
  deriving DecidableEq, Repr

def load (given : Form) (environment : List (String × String))
    (file : Option (List UInt8)) : Except LoadFault Settings :=
  let bindings :=
    match file with
    | some bytes => File.read environment bytes
    | none => .ok []
  match bindings with
  | .error fault => .error (.undecodable fault)
  | .ok file =>
    match Sources.settings { given, environment, file } with
    | .value s => .ok s
    | .faulty first rest => .error (.refused first rest)

end CallRegistry.Settings
