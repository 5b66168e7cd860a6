import Rulebook.Json.Decode

/-!
# Rulebook.Record.NamedList

Named lists of MAC addresses, IP addresses or plain strings, which `IN_LIST` conditions and
whitelisted features refer to by identifier.
-/

namespace Rulebook

/-- What a list holds. -/
inductive ListType where
  | string
  | macList
  | ipList
  deriving DecidableEq

namespace ListType

def toName : ListType → String
  | .string => "STRING"
  | .macList => "MAC_LIST"
  | .ipList => "IP_LIST"

def names : List (String × ListType) :=
  [("STRING", .string), ("MAC_LIST", .macList), ("IP_LIST", .ipList)]

def toJson (t : ListType) : Json := .string t.toName

def ofJson? : Json → Option ListType := Json.oneOf? names

end ListType

/-- A named list. -/
structure NamedList where
  id : String
  type : ListType := .string
  data : List String := []
  deriving DecidableEq

namespace NamedList

def toJson (l : NamedList) : Json :=
  .object [("id", .string l.id), ("typeName", l.type.toJson), ("data", .ofStrings l.data)]

def ofJson? (j : Json) : Option NamedList := do
  let fields ← j.record? ["id", "typeName", "data"]
  let id ← Json.required fields "id" Json.string?
  let type ← Json.withDefault fields "typeName" .string ListType.ofJson?
  let data ← Json.withDefault fields "data" [] Json.strings?
  pure { id, type, data }

end NamedList

end Rulebook
