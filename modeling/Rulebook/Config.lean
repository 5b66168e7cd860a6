import Rulebook.Json.Decode
import Rulebook.Json.Reader
import Rulebook.Validation.Error

/-!
# Rulebook.Config

Settings of the administration.

A document may leave out any setting, which then has its default.  `Config.read` takes a document's
text and refuses settings that do not fit together: there must be an application type, the default
one must be among them, and a feature rule must be allowed at least one feature.
-/

namespace Rulebook

/-- The settings. -/
structure Config where
  /-- The application types that records may belong to. -/
  applicationTypes : List String := ["stb", "rdkcloud"]
  /-- The application type where neither the record nor the request names one. -/
  defaultApplicationType : String := "stb"
  /-- The most features that one feature rule may name. -/
  maxFeatures : Nat := 100
  /-- The seconds after which a held lock may be taken over. -/
  lockSeconds : Nat := 10
  deriving DecidableEq

/-- Why settings are refused. -/
inductive ConfigError where
  | noFile
  | notReadable
  | noApplicationTypes
  | unknownDefault (applicationType : String)
  | zeroFeatureLimit
  deriving DecidableEq

/-- The error in words, where it has any of its own. -/
def ConfigError.message : ConfigError → String
  | .noFile => ""
  | .notReadable => ""
  | .noApplicationTypes => "no application types configured"
  | .unknownDefault applicationType =>
    "default application type '" ++ applicationType ++ "' is not one of the configured types"
  | .zeroFeatureLimit => "max_features_per_rule must be greater than zero"

namespace Config

/-! ## Checks -/

/-- The application type is one of those configured. -/
def knows (c : Config) (applicationType : String) : Bool :=
  c.applicationTypes.contains applicationType

/-- A record may have this application type. -/
def checkApplicationType (c : Config) (applicationType : String) : Except ValidationError Unit :=
  if Text.isBlank applicationType then .error .blankApplicationType
  else if !c.knows applicationType then .error (.unknownApplicationType applicationType)
  else .ok ()

/-- The first thing that does not fit together, if anything does not. -/
def validate (c : Config) : Except ConfigError Unit :=
  if c.applicationTypes.isEmpty then .error .noApplicationTypes
  else if !c.knows c.defaultApplicationType then .error (.unknownDefault c.defaultApplicationType)
  else if c.maxFeatures = 0 then .error .zeroFeatureLimit
  else .ok ()

/-! ## Documents -/

def toJson (c : Config) : Json :=
  .object [("application_types", .ofStrings c.applicationTypes),
    ("default_application_type", .string c.defaultApplicationType),
    ("max_features_per_rule", .integer c.maxFeatures), ("lock_ttl_secs", .integer c.lockSeconds)]

/-- The settings of a document, whether they fit together or not. -/
def ofJson? (j : Json) : Option Config := do
  let default : Config := {}
  let fields ← j.record? ["application_types", "default_application_type",
    "max_features_per_rule", "lock_ttl_secs"]
  let applicationTypes ←
    Json.withDefault fields "application_types" default.applicationTypes Json.strings?
  let defaultApplicationType ←
    Json.withDefault fields "default_application_type" default.defaultApplicationType Json.string?
  let maxFeatures ←
    Json.withDefault fields "max_features_per_rule" default.maxFeatures Json.nat64?
  let lockSeconds ← Json.withDefault fields "lock_ttl_secs" default.lockSeconds Json.nat64?
  pure { applicationTypes, defaultApplicationType, maxFeatures, lockSeconds }

/-- The settings of a text, if it reads and they fit together. -/
def read (text : String) : Except ConfigError Config :=
  match (Json.parse? text).bind ofJson? with
  | none => .error .notReadable
  | some c =>
    match c.validate with
    | .ok _ => .ok c
    | .error e => .error e

/-- The settings of a file, given its text if there is such a file. -/
def ofSource (text : Option String) : Except ConfigError Config :=
  match text with
  | some text => read text
  | none => .error .noFile

end Config

end Rulebook
