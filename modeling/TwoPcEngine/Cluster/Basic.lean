import TwoPcEngine.Protocol

/-! `pkg/cluster`: the membership table of `*node.Node` records, the election, and the
handlers and startup code that fill it. Records are shared: the `nodes` map and the `master`
pointer hold pointers into one heap, so a write through one is seen through the other. -/

namespace TwoPc.Membership

/-- A `*node.Node`, as an index into the heap of records ever created. -/
abbrev Ptr := Nat

/-- The fields of a `*node.Node` the membership table reads and writes. -/
structure Record where
  addr : String
  role : NodeRole
  alive : Bool
  name : String
  database : String
  deriving DecidableEq, Repr

structure Cluster where
  heap : List Record
  nodes : AList (fun _ : String => Ptr)
  master : Option Ptr

structure StoredNode where
  address : String
  name : String
  database : String

def newCluster : Cluster := ⟨[], ∅, none⟩

namespace Cluster

def get (c : Cluster) (p : Ptr) : Option Record := c.heap[p]?

def update (c : Cluster) (p : Ptr) (f : Record → Record) : Cluster :=
  { c with heap := c.heap.modify f p }

def setRole (c : Cluster) (p : Ptr) (role : NodeRole) : Cluster :=
  c.update p fun r => { r with role := role }

def newNode (c : Cluster) (addr : String) (role : NodeRole) : Ptr × Cluster :=
  (c.heap.length, { c with heap := c.heap ++ [⟨addr, role, true, "", ""⟩] })

def addNode (c : Cluster) (n : Ptr) : Cluster :=
  match c.get n with
  | some r => { c with nodes := c.nodes.insert r.addr n }
  | none => c

def removeNode (c : Cluster) (addr : String) : Cluster :=
  match c.nodes.lookup addr with
  | some n =>
    { c with
      master := if c.master = some n then none else c.master,
      nodes := c.nodes.erase addr }
  | none => c

def getNode (c : Cluster) (addr : String) : Option Ptr := c.nodes.lookup addr

def setNodeName (c : Cluster) (addr name : String) : Bool × Cluster :=
  match c.nodes.lookup addr with
  | some n => (true, c.update n fun r => { r with name := name })
  | none => (false, c)

def setMaster (c : Cluster) (n : Option Ptr) : Cluster :=
  let c := match c.master with
    | some m => c.setRole m .slave
    | none => c
  let c := { c with master := n }
  match n with
  | some n => c.setRole n .master
  | none => c

def evictMaster (c : Cluster) : Cluster :=
  match c.master with
  | some m => { c.setRole m .slave with master := none }
  | none => c

def aliveAddrs (c : Cluster) : List String :=
  c.nodes.entries.filterMap fun e => if (c.get e.2).any (·.alive) then some e.1 else none

def lowestAliveAddrLocked (c : Cluster) : String :=
  match sortStrings c.aliveAddrs with
  | [] => ""
  | a :: _ => a

def resetRoles (c : Cluster) : List (Σ _ : String, Ptr) → Cluster
  | [] => c
  | e :: es => resetRoles (c.setRole e.2 .slave) es

/-- `electMasterLocked`: `true` when it elected a master. `lowestAlive` is a member, so the
lookup finds it. -/
def electMasterLocked (c : Cluster) : Bool × Cluster :=
  let lowestAlive := c.lowestAliveAddrLocked
  if lowestAlive = "" then (false, { c with master := none })
  else
    let c := c.resetRoles c.nodes.entries
    match c.nodes.lookup lowestAlive with
    | some newMaster => (true, { c.setRole newMaster .master with master := some newMaster })
    | none => (true, c)

def electMaster (c : Cluster) : Cluster := c.electMasterLocked.2

def checkAndElect (c : Cluster) : Bool × Cluster :=
  let lowestAlive := c.lowestAliveAddrLocked
  let (currentMaster, c) : String × Cluster :=
    match c.master with
    | some m =>
      match c.get m with
      | some r => if !r.alive then ("", { c.setRole m .slave with master := none }) else (r.addr, c)
      | none => ("", c)
    | none => ("", c)
  if lowestAlive = "" then
    (false, match c.master with
      | some m => { c.setRole m .slave with master := none }
      | none => c)
  else if c.master.isNone || currentMaster != lowestAlive then c.electMasterLocked
  else (false, c)

def getSlaveNodes (c : Cluster) : List Ptr :=
  c.nodes.entries.filterMap fun e =>
    if (c.get e.2).any fun r => r.alive && r.role == .slave then some e.2 else none

def applyStored (localNode : Option Ptr) (c : Cluster) (sn : StoredNode) : Cluster :=
  if sn.address = "" then c
  else
    let isLocal : Bool := match localNode with
      | some l => (c.get l).any (·.addr == sn.address)
      | none => false
    let c := match localNode with
      | some l =>
        if isLocal then
          let c := if sn.name ≠ "" then c.update l fun r => { r with name := sn.name } else c
          if sn.database ≠ "" then c.update l fun r => { r with database := sn.database } else c
        else c
      | none => c
    let (n, c) : Ptr × Cluster :=
      match c.getNode sn.address with
      | some n => (n, c)
      | none =>
        let role := if isLocal then ((localNode.bind c.get).map (·.role)).getD .slave else .slave
        let (n, c) := c.newNode sn.address role
        (n, c.addNode n)
    let c := if sn.name ≠ "" then c.update n fun r => { r with name := sn.name } else c
    let c := if sn.database ≠ "" then c.update n fun r => { r with database := sn.database } else c
    c.update n fun r => { r with alive := true }

def applyState (c : Cluster) (nodes : List StoredNode) (localNode : Option Ptr) : Cluster :=
  nodes.foldl (applyStored localNode) c

/-- The add-node handler, also the join handler (no name, no label) and the startup code: a
fresh `SLAVE` record, alive, added under its address. -/
def handleAddNode (c : Cluster) (addr name database : String) : Cluster :=
  let (n, c) := c.newNode addr .slave
  let c := c.update n fun r => { r with alive := true }
  let c := if name ≠ "" then c.update n fun r => { r with name := name } else c
  let c := if database ≠ "" then c.update n fun r => { r with database := database } else c
  c.addNode n

end Cluster

inductive Op
  | addNode (addr name database : String)
  | removeNode (addr : String)
  | setNodeName (addr name : String)
  | setAlive (addr : String) (alive : Bool)
  | setMaster (addr : String)
  | evictMaster
  | electMaster
  | checkAndElect
  | applyState (nodes : List StoredNode) (localNode : Option Ptr)

open Cluster in
def step (c : Cluster) : Op → Cluster
  | .addNode addr name database => c.handleAddNode addr name database
  | .removeNode addr => c.removeNode addr
  | .setNodeName addr name => (c.setNodeName addr name).2
  | .setAlive addr alive =>
    match c.getNode addr with
    | some n => c.update n fun r => { r with alive := alive }
    | none => c
  | .setMaster addr => c.setMaster (c.getNode addr)
  | .evictMaster => c.evictMaster
  | .electMaster => c.electMaster
  | .checkAndElect => c.checkAndElect.2
  | .applyState nodes localNode => c.applyState nodes localNode

def run : Cluster → List Op → Cluster
  | c, [] => c
  | c, o :: os => run (step c o) os

end TwoPc.Membership
