import ApiCatalog.Membership
import ApiCatalog.Text.Blank
import ApiCatalog.Text.Case

/-! # Users

A user as an identity provider knows it.
-/

namespace ApiCatalog

structure User where
  id : String
  /-- The name of the user at the provider. -/
  reference : String
  /-- The provider the user comes from. -/
  source : String
  email : Option String := none
  firstname : Option String := none
  lastname : Option String := none
  displayName : String
  picture : Option String := none
  deriving DecidableEq, Repr

/-- First and last name without the blank parts, if one of them is left. -/
def fullName? (firstname lastname : Option String) : Option String :=
  let parts := ((firstname.toList ++ lastname.toList).map Text.trim).filter fun p => !p.isEmpty
  if parts.isEmpty then none else some (" ".intercalate parts)

namespace Text

/-- Whether some characters occur within others, without a gap. -/
def occursIn (needle : List Char) : List Char → Bool
  | [] => needle.isEmpty
  | c :: cs => needle.isPrefixOf (c :: cs) || occursIn needle cs

/-- What a search looks for: the query in lower case, without white space around it. -/
def needle (query : String) : List Char := (toLower (trim query)).toList

end Text

namespace User

/-- What users are known by as members. -/
def member (user : User) : Member := ⟨user.id, some user.reference, some user.source⟩

def searchTexts (user : User) : List String :=
  user.id :: (user.firstname.toList ++ user.lastname.toList ++ user.email.toList)

/-- Whether one of the user's texts contains what is looked for, in any case. -/
def isFoundBy (user : User) (needle : List Char) : Bool :=
  user.searchTexts.any fun text => Text.occursIn needle (Text.toLower text).toList

/-- Whether a reference is exactly the user's id or name at the provider. -/
def isExactly (user : User) (reference : String) : Bool :=
  user.id == reference || user.reference == reference

def toSummaryJson (user : User) : Json :=
  .ofFields
    [("id", .str user.id), ("reference", .str user.reference), ("source", .str user.source),
      ("display_name", .str user.displayName), ("firstname", .ofString? user.firstname),
      ("lastname", .ofString? user.lastname)]

def toJson (user : User) : Json :=
  .ofFields
    [("id", .str user.id), ("reference", .str user.reference), ("source", .str user.source),
      ("email", .ofString? user.email), ("firstname", .ofString? user.firstname),
      ("lastname", .ofString? user.lastname), ("display_name", .str user.displayName),
      ("picture", .ofString? user.picture)]

end User

end ApiCatalog
