import FederatedStorage.Service.Lines
import FederatedStorage.Service.Options
import Std.Time.DateTime.Timestamp

/-!
# The program

Starts a gateway and answers the requests on its standard input, one on every line. The first pass
may fail; then the gateway is not ready until a pass succeeds. Arrays are reached over no network
here, so that only loopback arrays answer.
-/

namespace FederatedStorage.Service

/-- The configuration as it is now. -/
def currentSource (place : String) : IO ClusterSource := do
  let complaint := "not a document of clusters"
  try
    return .document place (.ok (← IO.FS.readFile place)) complaint
  catch e =>
    return .document place (.error (toString e)) complaint

/-- The time of day. -/
def currentTime : IO Time.Timestamp := do
  return .ofEpoch (← Std.Time.Timestamp.now).toNanosecondsSinceUnixEpoch.val.toNat

/-- A seed that nobody chose. -/
def chanceSeed : IO Nat := do
  return (← IO.getRandomBytes 8).foldl (fun n b => n * 256 + b.toNat) 0

/-- Answers lines until the input ends. -/
partial def serve (place : String) (input output : IO.FS.Stream) (x : Exchange) : IO Unit := do
  let line ← input.getLine
  if line.isEmpty then return
  let x := x.observe (← currentSource place) (← currentTime)
  let (x, response) := x.answer line
  output.putStrLn response
  output.flush
  serve place input output x

/-- Runs a gateway with options. -/
def runWith (o : Options) : IO Unit := do
  let seed ← match o.seed with
    | some n => pure n
    | none => chanceSeed
  let d := Deployment.new (.ofNat seed) .standard .empty (← currentSource o.configuration)
    ⟨o.preserve, o.inventoryTimeoutMs⟩ (← currentTime)
  let (x, report) := (Exchange.mk (.start d) o.requestTimeoutMs).reload
  match report with
  | some (.error f) => IO.eprintln s!"first pass failed: {f.message}"
  | _ => pure ()
  serve o.configuration (← IO.getStdin) (← IO.getStdout) x

end FederatedStorage.Service

/-- Starts a gateway. -/
def main (arguments : List String) : IO UInt32 := do
  match FederatedStorage.Service.Options.ofArguments arguments with
  | .ok o =>
    FederatedStorage.Service.runWith o
    return 0
  | .error fault =>
    IO.eprintln fault.message
    return 2
