import DTLab.Library.System
import DTLab.Sensor.Episode

/-!
# The state file shared by sensor and sender

`spool.StateStore` as file operations of two processes that start, load, allocate and crash in
any order. A load is the check whether the file exists, the read and, for another boot, the
write of a reset counter; every write is one rename. The sensor also allocates sequence
numbers; the sender never does. `clobbered` and `returned` record what happened and are read by
no operation.
-/

namespace DTLab

/-- The contents of the state file. -/
structure StateFile where
  bootId : String
  nextEpisodeSequence : Nat
  deriving DecidableEq

/-- The two processes that build a `StateStore` on the file. -/
inductive StoreOwner where
  | sensor
  | sender
  deriving DecidableEq

/-- Where a process is in the code of `StateStore`, with its boot id and counter. -/
inductive StoreProcess where
  | down
  /-- `__init__` read the boot id. -/
  | started (bootId : String)
  /-- `_load` found that the file exists. -/
  | loading (bootId : String)
  /-- `_load` is about to save a counter of zero. -/
  | resetting (bootId : String)
  /-- The store is built. -/
  | ready (bootId : String) (next : Nat)
  /-- `allocate_episode_sequence` saved the next counter and is about to return a value. -/
  | allocated (bootId : String) (next value : Nat)
  deriving DecidableEq

/-- The machine: kernel boot id, earlier boot ids, the file, the two processes, and the record
of what `allocate_episode_sequence` returned. -/
structure StoreWorld where
  bootId : String
  earlierBoots : List String
  file : Option StateFile
  sensor : StoreProcess
  sender : StoreProcess
  returned : List (String × Nat)
  /-- The last write of the file was a reset by the sender that replaced a counter above zero
  of the same boot. -/
  clobbered : Bool
  deriving DecidableEq

/-- One step of a process or of the machine. -/
inductive StoreAction where
  | reboot (bootId : String)
  | crash (owner : StoreOwner)
  | start (owner : StoreOwner)
  | checkExists (owner : StoreOwner)
  | read (owner : StoreOwner)
  | reset (owner : StoreOwner)
  | allocate
  | returnValue
  deriving DecidableEq

namespace StoreWorld

/-- A machine before any process ran. -/
def start (bootId : String) : StoreWorld :=
  ⟨bootId, [], none, .down, .down, [], false⟩

/-- The state of a process. -/
def process (world : StoreWorld) : StoreOwner → StoreProcess
  | .sensor => world.sensor
  | .sender => world.sender

/-- Change the state of a process. -/
def setProcess (world : StoreWorld) (process : StoreProcess) : StoreOwner → StoreWorld
  | .sensor => { world with sensor := process }
  | .sender => { world with sender := process }

/-- Whether the file holds a counter above zero of a boot. -/
def holdsCounter (world : StoreWorld) (bootId : String) : Bool :=
  match world.file with
  | some file => decide (file.bootId = bootId ∧ 0 < file.nextEpisodeSequence)
  | none => false

/-- `_save` of a reset counter by a process. -/
def reset (world : StoreWorld) (bootId : String) : StoreOwner → StoreWorld
  | .sensor => { world with
      file := some ⟨bootId, 0⟩, sensor := .ready bootId 0, clobbered := false }
  | .sender => { world with
      file := some ⟨bootId, 0⟩, sender := .ready bootId 0
      clobbered := world.clobbered || world.holdsCounter bootId }

/-- One step, where it is enabled. -/
def step (world : StoreWorld) : StoreAction → Option StoreWorld
  | .reboot bootId =>
    if bootId = world.bootId ∨ bootId ∈ world.earlierBoots then none
    else some { world with
      bootId, earlierBoots := world.bootId :: world.earlierBoots
      sensor := .down, sender := .down, clobbered := false }
  | .crash owner => some (world.setProcess .down owner)
  | .start owner =>
    if world.process owner = .down then
      some (world.setProcess (.started world.bootId) owner)
    else none
  | .checkExists owner =>
    match world.process owner with
    | .started bootId =>
      some (world.setProcess
        (if world.file.isSome then .loading bootId else .resetting bootId) owner)
    | _ => none
  | .read owner =>
    match world.process owner, world.file with
    | .loading bootId, some file =>
      some (world.setProcess
        (if file.bootId = bootId then .ready bootId file.nextEpisodeSequence
        else .resetting bootId) owner)
    | _, _ => none
  | .reset owner =>
    match world.process owner with
    | .resetting bootId => some (world.reset bootId owner)
    | _ => none
  | .allocate =>
    match world.sensor with
    | .ready bootId next =>
      some { world with
        file := some ⟨bootId, next + 1⟩
        sensor := .allocated bootId (next + 1) next
        clobbered := false }
    | _ => none
  | .returnValue =>
    match world.sensor with
    | .allocated bootId next value =>
      some { world with
        sensor := .ready bootId next, returned := (bootId, value) :: world.returned }
    | _ => none

end StoreWorld

end DTLab
