import ApiCatalog.Definition.Basic
import ApiCatalog.Error
import ApiCatalog.Text.Blank
import ApiCatalog.Text.Case

/-! # Drafts of definitions

What a document says before it is checked for completeness. A required field may be absent or
blank in a draft, and completing the draft reports the first one that is.
-/

namespace ApiCatalog

structure MemberDraft where
  reference : Option String
  source : Option String
  role : Option String
  deriving Repr

structure PageDraft where
  name : Option String
  type : Option PageType
  body : PageBody
  deriving Repr

structure PlanDraft where
  name : Option String
  security : Option PlanSecurity
  status : Option PlanStatus
  validation : Option PlanValidation
  terms : PlanTerms
  deriving Repr

structure DefinitionDraft where
  name : Option String
  version : Option String
  visibility : Option Visibility
  /-- All other fields of the API. -/
  details : ApiDetails
  members : List MemberDraft
  pages : List PageDraft
  plans : List PlanDraft
  groups : List String
  deriving Repr

/-- A field that has to hold more than white space. -/
def RequiredField.check (field : RequiredField) : Option String → Except DefinitionFault String
  | some text => if Text.isBlankText text then .error (.missing field) else .ok text
  | none => .error (.missing field)

namespace MemberDraft

/-- The role is written in upper case, and a blank source counts as absent. -/
def complete (draft : MemberDraft) (index : Nat) : Except DefinitionFault MemberEntry := do
  let reference ← (RequiredField.memberReference index).check draft.reference
  let role ← (RequiredField.memberRole index).check draft.role
  return {
    reference
    source := draft.source.filter fun source => !Text.isBlankText source
    role := Text.toUpper (Text.trim role) }

end MemberDraft

def PageDraft.complete (draft : PageDraft) (index : Nat) : Except DefinitionFault PageEntry := do
  let name ← (RequiredField.pageName index).check draft.name
  return { name, type := draft.type.getD .markdown, body := draft.body }

def PlanDraft.complete (draft : PlanDraft) (index : Nat) : Except DefinitionFault PlanEntry := do
  let name ← (RequiredField.planName index).check draft.name
  return {
    name
    security := draft.security.getD .keyLess
    status := draft.status.getD .staging
    terms := { draft.terms with validation := draft.validation.getD .auto } }

/-- Complete the entries of a list in order, each with its index counted from `start`. -/
def completeAll {α β : Type} (complete : α → Nat → Except DefinitionFault β) (start : Nat) :
    List α → Except DefinitionFault (List β)
  | [] => .ok []
  | draft :: drafts => do
    let entry ← complete draft start
    let entries ← completeAll complete (start + 1) drafts
    return entry :: entries

/-- The definition that a complete draft describes. Blank names of groups are dropped. -/
def DefinitionDraft.complete (draft : DefinitionDraft) : Except DefinitionFault Definition := do
  let name ← RequiredField.name.check draft.name
  let version ← RequiredField.version.check draft.version
  let members ← completeAll MemberDraft.complete 0 draft.members
  let pages ← completeAll PageDraft.complete 0 draft.pages
  let plans ← completeAll PlanDraft.complete 0 draft.plans
  return {
    details := { draft.details with
      name, version, visibility := draft.visibility.getD .membersOnly }
    members, pages, plans
    groups := draft.groups.filter fun name => !Text.isBlankText name }

namespace DefinitionFault

def message : DefinitionFault → String
  | notUtf8 fault => s!"definition is not valid UTF-8: {fault.message}"
  | empty => "definition is empty"
  | unreadable => Error.parserAccount
  | missing field => s!"missing required field '{field.path}'"

def toError (fault : DefinitionFault) : Error := .malformedDefinition fault.message

end DefinitionFault

end ApiCatalog
