/-!
# Failures

Everything that can go wrong in a call, as a cause. A failure has a text for people, a kind for
machines, and some say more: whether it may pass by itself, and whether a backend does not have what
was asked for. Where a library says what is wrong with a text or a connection, its words are the
failure's detail.
-/

namespace FederatedStorage

/-- Why a call failed. -/
inductive Failure
  | internal (text : String)
  | configuration (text : String)
  | clusterNotFound (clusterId : String)
  | resourceUnmapped (resourceId : String)
  | clientUnavailable (clusterId : String)
  | noQualifiedClusters (labels : String)
  | resourceNotFound (kind name : String)
  | unauthorized (vendor : String)
  | operationFailed (vendor operation reason : String)
  | unknownVendor (vendor : String)
  | backendUnavailable (backend : String)
  | allEndpointsFailed (endpoints : Nat) (lastError : String)
  | cancelled (operation : String)
  | timeout (operation : String)
  | invalidRequest (text : String)
  | jsonText (detail : String)
  | yamlText (detail : String)
  | exchange (detail : String)
  | io (text : String)
deriving DecidableEq, Repr

namespace Failure

/-- The text of a failure. -/
def message : Failure → String
  | internal text => s!"Internal error: {text}"
  | configuration text => s!"Configuration error: {text}"
  | clusterNotFound clusterId => s!"Cluster not found: {clusterId}"
  | resourceUnmapped resourceId => s!"Resource is not mapped to any cluster: {resourceId}"
  | clientUnavailable clusterId => s!"Cluster {clusterId} has no usable vendor client"
  | noQualifiedClusters labels => s!"No clusters qualify for affinity tags: {labels}"
  | resourceNotFound kind name => s!"Resource not found: {kind}/{name}"
  | unauthorized vendor => s!"Backend rejected credentials: {vendor}"
  | operationFailed vendor operation reason =>
    s!"Vendor operation failed: {vendor} - {operation}: {reason}"
  | unknownVendor vendor => s!"Unknown vendor: {vendor}"
  | backendUnavailable backend => s!"Backend unavailable: {backend}"
  | allEndpointsFailed endpoints lastError =>
    s!"All {endpoints} endpoints failed to dial, last error: {lastError}"
  | cancelled operation => s!"Operation cancelled: {operation}"
  | timeout operation => s!"Operation timed out: {operation}"
  | invalidRequest text => s!"API request validation failed: {text}"
  | jsonText detail => s!"JSON parse error: {detail}"
  | yamlText detail => s!"YAML parse error: {detail}"
  | exchange detail => s!"HTTP error: {detail}"
  | io text => s!"IO error: {text}"

/-- The kind of a failure, as one word. -/
def kind : Failure → String
  | internal _ => "internal"
  | configuration _ => "configuration"
  | clusterNotFound _ => "cluster_not_found"
  | resourceUnmapped _ => "resource_unmapped"
  | clientUnavailable _ => "cluster_client_unavailable"
  | noQualifiedClusters _ => "no_qualified_clusters"
  | resourceNotFound _ _ => "resource_not_found"
  | unauthorized _ => "unauthorized"
  | operationFailed _ _ _ => "vendor_error"
  | unknownVendor _ => "unknown_vendor"
  | backendUnavailable _ => "backend_unavailable"
  | allEndpointsFailed _ _ => "all_endpoints_failed"
  | cancelled _ => "cancelled"
  | timeout _ => "timeout"
  | invalidRequest _ => "invalid_request"
  | jsonText _ => "parse_error"
  | yamlText _ => "parse_error"
  | exchange _ => "http_error"
  | io _ => "io_error"

/-- **Whether a failure may pass by itself**: nobody answered, or not in time. -/
def isTransient : Failure → Bool
  | allEndpointsFailed _ _ => true
  | backendUnavailable _ => true
  | timeout _ => true
  | exchange _ => true
  | io _ => true
  | _ => false

/-- Whether the call may be made again: only what may pass by itself is worth another try. -/
def isRetryable (f : Failure) : Bool := f.isTransient

/-- Whether a backend does not have what was asked for. -/
def isNotFound : Failure → Bool
  | resourceNotFound _ _ => true
  | _ => false

/-- The status of the answer that reports a failure to a caller. -/
def status : Failure → Nat
  | clusterNotFound _ => 404
  | resourceUnmapped _ => 404
  | resourceNotFound _ _ => 404
  | unauthorized _ => 401
  | noQualifiedClusters _ => 409
  | invalidRequest _ => 400
  | configuration _ => 400
  | allEndpointsFailed _ _ => 503
  | backendUnavailable _ => 503
  | clientUnavailable _ => 503
  | cancelled _ => 503
  | timeout _ => 504
  | operationFailed _ _ _ => 502
  | _ => 500

end Failure

end FederatedStorage
