import ApiCatalog.Document.Record
import ApiCatalog.Role

/-! # Reading roles -/

namespace ApiCatalog

namespace Role

def fields : List FieldSpec :=
  ["scope", "name", "description", "default_role", "system"].map .needed

def ofTree? (t : Tree) : Option Role := do
  let record ← t.record? fields
  return {
    scope := ← record.needed? "scope" Tree.wire?
    name := ← record.needed? "name" Tree.string?
    description := ← record.optional? "description" Tree.string?
    isDefault := ← record.needed? "default_role" Tree.bool?
    isSystem := ← record.needed? "system" Tree.bool? }

end Role

end ApiCatalog
