import ApiCatalog.Error
import ApiCatalog.Text.Blank
import ApiCatalog.Text.Case

/-! # Export versions and sections

The versions of the exported document, and the sections that a caller may leave out of it.
-/

namespace ApiCatalog

inductive ExportVersion where
  | default
  | v1_15
  deriving DecidableEq, Repr

namespace ExportVersion

def name : ExportVersion → String
  | default => "default"
  | v1_15 => "1.15"

def ofName? (s : String) : Option ExportVersion :=
  if s == "default" then some default else if s == "1.15" then some v1_15 else none

/-- The version that a text names, white space around it aside. -/
def parse (text : String) : Except Error ExportVersion :=
  match ofName? (Text.trim text) with
  | some version => .ok version
  | none => .error (.noSerializer (Text.trim text))

theorem ofName?_name (v : ExportVersion) : ofName? v.name = some v := by cases v <;> rfl

end ExportVersion

/-- A part of the exported document that can be left out. -/
inductive ExportSection where
  | groups
  | members
  | pages
  | plans
  deriving DecidableEq, Repr

namespace ExportSection

def all : List ExportSection := [groups, members, pages, plans]

def name : ExportSection → String
  | groups => "groups"
  | members => "members"
  | pages => "pages"
  | plans => "plans"

/-- The section that a text names, in any case. -/
def parse? (text : String) : Option ExportSection :=
  all.find? (·.name == Text.toLower (Text.trim text))

/-- The sections that a text lists between commas. Other names are passed over. -/
def parseList (text : String) : List ExportSection :=
  let named := ((text.toList.splitOn ',').map String.ofList).filterMap parse?
  all.filter named.contains

end ExportSection

end ApiCatalog
