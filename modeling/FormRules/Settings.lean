import FormRules.Text.Case
import FormRules.Value.Lenient

/-!
Settings of validations.

A setting is given directly, or by an environment variable whose name begins with a prefix, or has
its default. Settings given directly win. Case does not count in names, and of several names for
one setting the first that is given directly counts. A setting that is given directly and is not
known is an error; an environment variable that is not known is ignored.

Some names that are given directly are no settings but say how the environment is read.
-/

namespace FormRules

open FormRules.Text

/-- The settings: whether runs stop at the first failure, the prefix of default messages, and how
much is logged and in which format. -/
structure Settings where
  bail : Bool
  messagePrefix : String
  verbose : Bool
  logJson : Bool
  deriving DecidableEq, Repr

/-- The names of the settings, in the order in which they are read. -/
def settingNames :
    List String :=
  ["bail", "message_prefix", "verbose", "log_json"]

def lowered
    (name : String) :
    String :=
  String.ofList (lowerText name.toList)

/-- How environment variables are read: what their names begin with, whether case counts in their
names, whether empty ones are left out, and which text stands for null. -/
structure EnvironmentReading where
  beginning : String
  caseCounts : Bool
  leavesOutEmpty : Bool
  nullText : Option Value

namespace EnvironmentReading

/-- The names under which it is said how settings are read. Those of files, secret directories,
nested settings and command lines are known, and nothing is read from there. -/
def argumentNames :
    List String :=
  ["_case_sensitive", "_nested_model_default_partial_update", "_env_prefix",
    "_env_prefix_target", "_env_file", "_env_file_encoding", "_env_ignore_empty",
    "_env_nested_delimiter", "_env_nested_max_split", "_env_parse_none_str", "_env_parse_enums",
    "_cli_prog_name", "_cli_parse_args", "_cli_settings_source", "_cli_parse_none_str",
    "_cli_hide_none_type", "_cli_avoid_json", "_cli_enforce_required",
    "_cli_use_class_docs_for_groups", "_cli_exit_on_error", "_cli_prefix",
    "_cli_flag_prefix_char", "_cli_implicit_flags", "_cli_ignore_unknown_args",
    "_cli_kebab_case", "_cli_shortcuts", "_secrets_dir", "_build_sources"]

def initialBeginning :
    String :=
  "FIELDCHECK_"

def ofArguments
    (arguments : List (String × Value)) :
    EnvironmentReading :=
  let wished (name : String) : Bool := ((arguments.lookup name).map Value.isTrue).getD false
  ⟨match arguments.lookup "_env_prefix" with
    | some (.text beginning) => beginning
    | _ => initialBeginning,
    wished "_case_sensitive", wished "_env_ignore_empty",
    arguments.lookup "_env_parse_none_str"⟩

def comparedName
    (reading : EnvironmentReading) (name : String) :
    String :=
  if reading.caseCounts then name else lowered name

def valueOf
    (reading : EnvironmentReading) (text : String) :
    Value :=
  match reading.nullText with
  | some (.text nullText) => if text == nullText then .null else .text text
  | _ => .text text

/-- The value of a setting in the environment, the last one if several names are compared as the
same. -/
def value?
    (reading : EnvironmentReading) (environment : List (String × String)) (name : String) :
    Option Value :=
  let wanted := reading.comparedName (reading.beginning ++ name)
  (environment.reverse.find? fun entry =>
    reading.comparedName entry.1 == wanted &&
      !(reading.leavesOutEmpty && entry.2.isEmpty)).map fun entry => reading.valueOf entry.2

end EnvironmentReading

namespace Settings

def initial :
    Settings :=
  ⟨false, "validation", false, false⟩

def directValue?
    (direct : List (String × Value)) (name : String) :
    Option Value :=
  (direct.find? fun entry => lowered entry.1 == name).map Prod.snd

def given?
    (direct : List (String × Value)) (environment : List (String × String)) (name : String) :
    Option Value :=
  (directValue? direct name).or
    ((EnvironmentReading.ofArguments direct).value? environment name)

def readSwitch
    (name : String) (initial : Bool) :
    Option Value → Lenient Bool
  | none => .ok initial
  | some value => value.readTruth [.name name]

/-- Reads the prefix of default messages, which must not be empty. -/
def readPrefix
    (name initial : String) :
    Option Value → Lenient String
  | none => .ok initial
  | some value =>
      match value.readText [.name name] with
      | .error issues => .error issues
      | .ok text => if text.isEmpty then .fail .textTooShort [.name name] else .ok text

def isKnown
    (name : String) :
    Bool :=
  settingNames.contains (lowered name) || EnvironmentReading.argumentNames.contains name

def unknownSettings
    (direct : List (String × Value)) :
    Lenient (List Unit) :=
  Lenient.collect ((direct.filter fun entry => !isKnown entry.1).map fun entry =>
    .fail .extraForbidden [.name entry.1])

/-- The settings that are given directly and by the environment, or everything wrong with them. -/
def read
    (direct : List (String × Value)) (environment : List (String × String)) :
    Lenient Settings :=
  let given := given? direct environment
  let bail := readSwitch "bail" initial.bail (given "bail")
  let messagePrefix := readPrefix "message_prefix" initial.messagePrefix (given "message_prefix")
  let verbose := readSwitch "verbose" initial.verbose (given "verbose")
  let logJson := readSwitch "log_json" initial.logJson (given "log_json")
  (Lenient.both (Lenient.both bail messagePrefix)
    (Lenient.both (Lenient.both verbose logJson) (unknownSettings direct))).map
      fun ((bail, messagePrefix), ((verbose, logJson), _)) =>
        ⟨bail, messagePrefix, verbose, logJson⟩

end Settings

end FormRules
