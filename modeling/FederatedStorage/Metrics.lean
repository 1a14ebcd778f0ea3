import FederatedStorage.Decimal.Shortest
import FederatedStorage.Failure
import FederatedStorage.Keyed

/-!
# Metrics

What the gateway counts: requests by operation and outcome, passes and failed inventories, and the
sizes of its registries. All counts are 64-bit words, which come round. The page of all metrics is
text: a family of samples has a line of help, a line with its type, and one line per sample; families
and samples are in ascending order.

## Main definitions

* `Metrics.recordRequest`, `Metrics.recordPass`, `Metrics.setSizes`: what is counted.
* `Metrics.lines`: the page.
-/

namespace FederatedStorage

open Decimal

/-- **Everything counted.** -/
structure Metrics where
  /-- Requests, by operation and then by outcome. -/
  requests : Keyed (Keyed UInt64)
  passes : UInt64
  inventoryFailures : UInt64
  managedClusters : Int64
  /-- Owned volumes and snapshots, once they have been counted. -/
  mappedResources : Option (Int64 × Int64)
deriving DecidableEq

namespace Metrics

/-- Nothing counted yet. -/
def empty : Metrics := ⟨.empty, 0, 0, 0, none⟩

instance : Inhabited Metrics := ⟨empty⟩

/-- How often an operation had an outcome. -/
def requestCount (m : Metrics) (operation outcome : String) : UInt64 :=
  (((m.requests.get? operation).getD .empty).get? outcome).getD 0

/-- Counts an outcome of an operation. -/
def countRequest (m : Metrics) (operation outcome : String) : Metrics :=
  let outcomes := (m.requests.get? operation).getD .empty
  { m with
    requests :=
      m.requests.insert operation (outcomes.insert outcome (m.requestCount operation outcome + 1)) }

/-- The outcome of a request, as it is counted. -/
def outcomeName {α : Type} : Except Failure α → String
  | .ok _ => "ok"
  | .error failure => failure.kind

/-- **Counts a request** by its result. -/
def recordRequest {α : Type} (m : Metrics) (operation : String) (result : Except Failure α) :
    Metrics := m.countRequest operation (outcomeName result)

/-- **Counts a pass** and its failed inventories. -/
def recordPass (m : Metrics) (failures : Nat) : Metrics :=
  { m with
    passes := m.passes + 1
    inventoryFailures := m.inventoryFailures + UInt64.ofNat failures }

/-- **Sets the sizes** of the registries, as 64-bit words read with a sign. -/
def setSizes (m : Metrics) (clusters volumes snapshots : UInt64) : Metrics :=
  { m with
    managedClusters := clusters.toInt64
    mappedResources := some (volumes.toInt64, snapshots.toInt64) }

/-- Counting an outcome raises its number by one, and no other. -/
theorem requestCount_countRequest (m : Metrics) (operation outcome op out : String) :
    (m.countRequest operation outcome).requestCount op out
      = m.requestCount op out + if op = operation ∧ out = outcome then 1 else 0 := by
  by_cases ho : op = operation
  · subst ho
    by_cases hu : out = outcome
    · subst hu
      simp [countRequest, requestCount]
    · simp [countRequest, requestCount, hu]
  · simp [countRequest, requestCount, ho]

/-! ## The page -/

/-- The type of the page. -/
def contentType : String := "text/plain; version=0.0.4"

/-- All samples are written with every digit of their nearest binary magnitude and no exponent. -/
def sampleLayout : Layout := ⟨-400, 400, ""⟩

/-- The text of a natural number as a sample. -/
def magnitudeText (n : Nat) : String :=
  match Binary64.ofNat? n with
  | some b => sampleLayout.write (digitsOf b)
  | none => "+Inf"

/-- The text of a sample. -/
def sampleText (n : Int) : String :=
  if n < 0 then "-" ++ magnitudeText n.natAbs else magnitudeText n.toNat

/-- One character of a label's value. -/
def escapeLabelChar (c : Char) : List Char :=
  if c == '\\' then ['\\', '\\']
  else if c == '\n' then ['\\', 'n']
  else if c == '"' then ['\\', '"']
  else [c]

/-- A label with its value. -/
def labelText (l : String × String) : String :=
  l.1 ++ "=\"" ++ String.ofList (l.2.toList.flatMap escapeLabelChar) ++ "\""

/-- A sample: its labels and its value. -/
structure Sample where
  labels : List (String × String)
  value : Int

/-- A family of samples. Its samples' names may have an ending of their own. -/
structure Family where
  name : String
  help : String
  type : String
  ending : String
  samples : List Sample

/-- What all names begin with. -/
def namespaceName : String := "federation_gateway_"

/-- The line of a sample. -/
def Family.sampleLine (f : Family) (s : Sample) : String :=
  let labels :=
    if s.labels.isEmpty then ""
    else "\x7b" ++ ",".intercalate (s.labels.map labelText) ++ "\x7d"
  namespaceName ++ f.name ++ f.ending ++ labels ++ " " ++ sampleText s.value

/-- The lines of a family; a family without samples has none. -/
def Family.lines (f : Family) : List String :=
  if f.samples.isEmpty then []
  else
    ("# HELP " ++ namespaceName ++ f.name ++ " " ++ f.help)
      :: ("# TYPE " ++ namespaceName ++ f.name ++ " " ++ f.type)
      :: f.samples.map f.sampleLine

/-- A sample without labels. -/
def plain (n : Int) : List Sample := [⟨[], n⟩]

/-- The samples of the registry's sizes, once they are known. -/
def resourceSamples (m : Metrics) : List Sample :=
  match m.mappedResources with
  | none => []
  | some (volumes, snapshots) =>
    [⟨[("type", "snapshot")], snapshots.toInt⟩, ⟨[("type", "volume")], volumes.toInt⟩]

/-- The samples of the requests. -/
def requestSamples (m : Metrics) : List Sample :=
  m.requests.entries.flatMap fun op =>
    op.2.entries.map fun out => ⟨[("operation", op.1), ("outcome", out.1)], out.2.toNat⟩

/-- All families, in ascending order of their names. -/
def families (m : Metrics) : List Family :=
  [⟨"inventory_fetch_failures_total",
      "Cluster inventory fetches that failed during reconciliation", "counter", "",
      plain m.inventoryFailures.toNat⟩,
    ⟨"managed_clusters", "Clusters currently managed", "gauge", "",
      plain m.managedClusters.toInt⟩,
    ⟨"mapped_resources", "Resources in the ownership registry", "gauge", "", m.resourceSamples⟩,
    ⟨"reconcile_duration_seconds", "Duration of reconciliation passes", "histogram", "_count",
      plain m.passes.toNat⟩,
    ⟨"reconcile_passes_total", "Completed reconciliation passes", "counter", "",
      plain m.passes.toNat⟩,
    ⟨"requests_total", "Federation requests by operation and outcome", "counter", "",
      m.requestSamples⟩]

/-- **The lines of the page.** -/
def lines (m : Metrics) : List String := m.families.flatMap Family.lines

end Metrics

end FederatedStorage
