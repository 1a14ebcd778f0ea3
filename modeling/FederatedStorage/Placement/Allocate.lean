import FederatedStorage.Failure
import FederatedStorage.Placement.Draw
import FederatedStorage.Placement.Tags

/-!
# Placing new volumes

A new volume goes to a cluster that carries the required labels. If more than one does, a draw
decides among them in ascending order of their IDs; a choice that is forced draws nothing.
-/

namespace FederatedStorage.Placement

/-- **The clusters that carry the required labels**, in ascending order of their IDs. -/
def qualified (labels : Keyed Tags) (required : Tags) : List String :=
  (labels.filter fun _ tags => required.satisfiedBy tags).keys

/-- Chooses one of the qualified clusters. -/
def choose (draws : Draws) : List String → Option String × Draws
  | [] => (none, draws)
  | [id] => (some id, draws)
  | ids =>
    let (i, draws) := draws.pick ids.length
    (ids[i]?, draws)

/-- **Places a volume.** -/
def allocate (draws : Draws) (labels : Keyed Tags) (required : Tags) :
    Except Failure String × Draws :=
  match choose draws (qualified labels required) with
  | (some id, draws) => (.ok id, draws)
  | (none, draws) => (.error (.noQualifiedClusters required.describe), draws)

end FederatedStorage.Placement
