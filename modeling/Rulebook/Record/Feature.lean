import Rulebook.Json.Decode

/-!
# Rulebook.Record.Feature

Features, which feature rules switch on.  A whitelisted feature is restricted to the members of a
named list.
-/

namespace Rulebook

/-- A feature. -/
structure Feature where
  id : String
  name : String := ""
  applicationType : String := ""
  whitelisted : Bool := false
  whitelist : Option String := none
  deriving DecidableEq

namespace Feature

/-- The feature restricted to the members of a list. -/
def whitelistedBy (f : Feature) (list : String) : Feature :=
  { f with whitelisted := true, whitelist := some list }

/-- The feature is restricted to the members of this list. -/
def usesList (f : Feature) (list : String) : Bool :=
  f.whitelisted && f.whitelist == some list

def toJson (f : Feature) : Json :=
  .object
    ([("id", .string f.id), ("featureName", .string f.name),
        ("applicationType", .string f.applicationType), ("whitelisted", .bool f.whitelisted)] ++
      Json.optionalMember "whitelistProperty" .string f.whitelist)

def ofJson? (j : Json) : Option Feature := do
  let fields ←
    j.record? ["id", "featureName", "applicationType", "whitelisted", "whitelistProperty"]
  let id ← Json.required fields "id" Json.string?
  let name ← Json.withDefault fields "featureName" "" Json.string?
  let applicationType ← Json.withDefault fields "applicationType" "" Json.string?
  let whitelisted ← Json.withDefault fields "whitelisted" false Json.bool?
  let whitelist ← Json.optional fields "whitelistProperty" Json.string?
  pure { id, name, applicationType, whitelisted, whitelist }

end Feature

end Rulebook
