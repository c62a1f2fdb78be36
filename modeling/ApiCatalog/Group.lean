import ApiCatalog.Json.Basic

/-! # Groups of users -/

namespace ApiCatalog

structure Group where
  id : String
  name : String
  deriving DecidableEq, Repr

def Group.toJson (group : Group) : Json :=
  .ofFields [("id", .str group.id), ("name", .str group.name)]

end ApiCatalog
