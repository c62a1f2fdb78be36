import ApiCatalog.Export.Version

/-! # Metrics

The counters that are kept of what the server does.
-/

namespace ApiCatalog

inductive Entity where
  | api
  | member
  | page
  | plan
  | group
  deriving DecidableEq, Repr

def Entity.name : Entity → String
  | api => "api"
  | member => "member"
  | page => "page"
  | plan => "plan"
  | group => "group"

inductive ChangeKind where
  | create
  | update
  deriving DecidableEq, Repr

def ChangeKind.name : ChangeKind → String
  | create => "create"
  | update => "update"

/-- A counter, with the values of its labels. -/
inductive Metric where
  | changes (entity : Entity) (kind : ChangeKind)
  /-- Entities that an import found as they should be. -/
  | skips (entity : Entity)
  | imports (outcome : String)
  | exports (version : ExportVersion)
  | mappedGroups
  | mappedRoles
  | logins (outcome : String)
  deriving DecidableEq, Repr

namespace Metric

def success : String := "success"

def outcome {α : Type} : Except Error α → String
  | .ok _ => success
  | .error e => e.kind

def write (name : String) (labels : List (String × String)) : String :=
  name ++ "\x7b" ++ ",".intercalate (labels.map fun (label, value) => s!"{label}=\"{value}\"") ++
    "\x7d"

def text : Metric → String
  | changes entity kind =>
    write "reconcile_mutations_total" [("entity", entity.name), ("action", kind.name)]
  | skips entity => write "reconcile_skips_total" [("entity", entity.name)]
  | imports outcome => write "imports_total" [("outcome", outcome)]
  | exports version => write "exports_total" [("version", version.name)]
  | mappedGroups => write "mapping_applications_total" [("kind", "group")]
  | mappedRoles => write "mapping_applications_total" [("kind", "role")]
  | logins outcome => write "external_logins_total" [("outcome", outcome)]

end Metric

/-- The counters that have been touched, each with its count. -/
structure Metrics where
  counts : List (Metric × Nat) := []
  deriving Repr

namespace Metrics

def count (metrics : Metrics) (metric : Metric) : Nat := (metrics.counts.lookup metric).getD 0

/-- Add to a counter, which is touched even by adding nothing. -/
def addTo (metric : Metric) (n : Nat) : List (Metric × Nat) → List (Metric × Nat)
  | [] => [(metric, n)]
  | (m, k) :: counts => if m = metric then (m, k + n) :: counts else (m, k) :: addTo metric n counts

def add (metrics : Metrics) (metric : Metric) (n : Nat) : Metrics :=
  ⟨addTo metric n metrics.counts⟩

def lines (metrics : Metrics) : List String :=
  Names.ofList (metrics.counts.map fun (metric, n) => s!"{metric.text} {n}")

theorem count_add (metrics : Metrics) (metric other : Metric) (n : Nat) :
    (metrics.add metric n).count other =
      metrics.count other + if other = metric then n else 0 := by
  rcases metrics with ⟨counts⟩
  simp only [count, add]
  induction counts with
  | nil =>
    by_cases h : other = metric
    · simp [addTo, h]
    · simp [addTo, List.lookup_cons, beq_false_of_ne h, h]
  | cons entry counts ih =>
    rcases entry with ⟨m, k⟩
    by_cases hm : m = metric
    · subst hm
      by_cases h : other = m
      · simp [addTo, h]
      · simp [addTo, List.lookup_cons, beq_false_of_ne h, h]
    · by_cases h : other = m
      · subst h
        simp [addTo, hm]
      · simpa [addTo, hm, List.lookup_cons, beq_false_of_ne h] using ih

end Metrics

end ApiCatalog
