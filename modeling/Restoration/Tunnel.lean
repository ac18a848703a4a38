/-
A tunnel: a public address that leads to a local port, on a static domain
or wherever the provider likes. Publishing asks for the static domain
first, if there is one, and once more for any address if that fails.
-/
import Restoration.Event

namespace Restoration

/-- A tunnel. The domain is the static one that it was asked for. -/
structure Tunnel where
  publicUrl : String
  domain : Option String
  deriving DecidableEq, Repr

/-- Where texts are sent through the tunnel. -/
def Tunnel.restoreUrl (t : Tunnel) : String :=
  String.ofList (t.publicUrl.toList.reverse.dropWhile (· = '/')).reverse ++
    "/restore"

/-- A provider of tunnels: a machine that is asked for a tunnel to a port,
on a domain or anywhere. -/
abbrev Provider (σ : Type) :=
  σ → UInt16 → Option String → Except Failure Tunnel × σ

namespace Tunnel

variable {σ : Type}

/-- A tunnel or the last failure, what was worth telling, and the state of
the provider. -/
structure Published (σ : Type) where
  result : Except Failure Tunnel
  events : List Event
  state : σ

/-- Publishes a port at any address, after what has been told. -/
def publishAnywhere (connect : Provider σ) (events : List Event) (state : σ)
    (port : UInt16) :
    Published σ :=
  match connect state port none with
  | (.ok tunnel, state) =>
    ⟨.ok tunnel, events ++ [.onlineElsewhere tunnel.restoreUrl], state⟩
  | (.error f, state) => ⟨.error f, events, state⟩

/-- Publishes a port. -/
def publish (connect : Provider σ) (state : σ) (port : UInt16)
    (domain : Option String) : Published σ :=
  match domain with
  | none => publishAnywhere connect [] state port
  | some d =>
    match connect state port (some d) with
    | (.ok tunnel, state) => ⟨.ok tunnel, [.online tunnel.restoreUrl], state⟩
    | (.error f, state) =>
      publishAnywhere connect [.domainFailed d f] state port

end Tunnel

end Restoration
