import AccessNetwork.Value.Coercion

/-!
The nodes of a network, named by handles: plain nodes, aggregation points (AP) and remote terminals
(RT). A handle names a node for good; its identifier is any value that can be written out, may
change and need not be unique, and only the label shows it.
-/

namespace AccessNetwork

set_option autoImplicit false

structure Point where
  handle : String
  deriving DecidableEq, Repr

structure Terminal where
  handle : String
  deriving DecidableEq, Repr

inductive Entity where
  | plain (handle : String)
  | point (station : Point)
  | terminal (device : Terminal)
  deriving DecidableEq, Repr

def labelText (kind : String) (identifier : Written) : String :=
  kind ++ "(" ++ identifier.spelling ++ ")"

namespace Entity

def handle : Entity → String
  | .plain handle => handle
  | .point station => station.handle
  | .terminal device => device.handle

def kind : Entity → String
  | .plain _ => "node"
  | .point _ => "ap"
  | .terminal _ => "rt"

/-- The kind of a node as labels show it. -/
def kindLabel : Entity → String
  | .plain _ => "Node"
  | .point _ => "AP"
  | .terminal _ => "RT"

def point? : Entity → Option Point
  | .point station => some station
  | _ => none

def terminal? : Entity → Option Terminal
  | .terminal device => some device
  | _ => none

end Entity

end AccessNetwork
