/-!
# Options

What a gateway is told when it is started: where its configuration lies, how long requests and
inventories may take, how passes treat clusters that do not answer, and a seed for placement.

## Main definitions

* `Options.ofArguments`: the options of a list of arguments.
-/

namespace FederatedStorage.Service

/-- **Options.** Without a seed, placement is left to chance. -/
structure Options where
  configuration : String
  requestSeconds : Nat
  /-- Zero sets no limit. -/
  inventorySeconds : Nat
  preserve : Bool
  seed : Option Nat
deriving DecidableEq, Repr

/-- Why arguments are refused. -/
inductive OptionFault
  | unknown (argument : String)
  | noValue (name : String)
  | noNumber (name value : String)
deriving DecidableEq, Repr

namespace OptionFault

/-- The text of a fault. -/
def message : OptionFault → String
  | .unknown argument => "unexpected argument: " ++ argument
  | .noValue name => "a value is required for " ++ name
  | .noNumber name value => "invalid value for " ++ name ++ ": " ++ value

end OptionFault

namespace Options

/-- The options of a gateway that is told nothing. -/
def standard : Options := ⟨"/etc/federation-gateway/clusters.yaml", 30, 60, false, none⟩

/-- Sets a number by its name. -/
def setNumber (o : Options) (name : String) (n : Nat) : Option Options :=
  match name with
  | "--request-timeout-secs" => some { o with requestSeconds := n }
  | "--fetch-timeout-secs" => some { o with inventorySeconds := n }
  | "--allocator-seed" => some { o with seed := some n }
  | _ => none

/-- Reads arguments over options. -/
def update (o : Options) : List String → Except OptionFault Options
  | [] => .ok o
  | "--preserve-on-fetch-failure" :: rest => { o with preserve := true }.update rest
  | "--config" :: value :: rest => { o with configuration := value }.update rest
  | name :: rest =>
    if (o.setNumber name 0).isNone then
      .error (if name == "--config" then .noValue name else .unknown name)
    else
      match rest with
      | [] => .error (.noValue name)
      | value :: rest =>
        match value.toNat?.bind (o.setNumber name) with
        | some o => o.update rest
        | none => .error (.noNumber name value)

/-- **The options of arguments.** -/
def ofArguments (arguments : List String) : Except OptionFault Options :=
  standard.update arguments

/-- How long requests may take, in milliseconds. -/
def requestTimeoutMs (o : Options) : Nat := o.requestSeconds * 1000

/-- How long inventories may take, in milliseconds, if there is a limit. -/
def inventoryTimeoutMs (o : Options) : Option Nat :=
  if o.inventorySeconds = 0 then none else some (o.inventorySeconds * 1000)

end Options

end FederatedStorage.Service
