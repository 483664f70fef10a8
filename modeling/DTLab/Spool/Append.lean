import DTLab.Library.System
import DTLab.Spool.Reader

/-!
# Appending to the spool

`SignedSpool` as steps of its process: opening the file, the start of an append up to its size
check, chunks of the line that reach the file, the return of the append, a failure, and a
crash. `appended` and `returned` record which whole lines reached the file and which appends
returned; no step reads them.
-/

namespace DTLab

open Library (Text Json)

variable (settings : SpoolSettings)

/-- Where the process that owns the spool is, with `previous_hash`. -/
inductive SpoolProcess where
  | down
  | idle (previousHash : String)
  /-- `append` is writing a line: the size of the file before it, and what of the line has not
  reached the file yet. -/
  | appending (previousHash : String) (event : EventDocument settings.rounding)
    (currentSize : Nat) (unwritten : Text)

/-- The spool file, the process that appends to it, and the record of what happened. -/
structure SpoolWorld where
  file : Text
  process : SpoolProcess settings
  /-- The events whose whole line reached the file, in order. -/
  appended : List (EventDocument settings.rounding)
  /-- The events whose append returned, in order. -/
  returned : List (EventDocument settings.rounding)

/-- One step of the process. -/
inductive SpoolAction where
  /-- `__init__`, which leaves no process where it raises. -/
  | openSpool
  /-- `append` through its size check, which leaves everything as it is where it raises. -/
  | beginAppend (event : EventDocument settings.rounding)
  /-- Some more characters of the line reach the file. -/
  | write (count : Nat)
  | returnAppend
  /-- `write`, `flush` or `fsync` raises out of `append`. -/
  | raiseAppend
  | crash

/-- An empty spool file that no process has opened. -/
def SpoolWorld.start : SpoolWorld settings := ⟨[], .down, [], []⟩

namespace SpoolWorld

variable {settings}

/-- The step of an action, where it is possible. -/
def step (world : SpoolWorld settings) : SpoolAction settings → Option (SpoolWorld settings)
  | .openSpool =>
    match world.process with
    | .down =>
      match lastRecordHash settings world.file with
      | .ok previousHash => some { world with process := .idle previousHash }
      | .error _ => some world
    | _ => none
  | .beginAppend event =>
    match world.process with
    | .idle previousHash =>
      (buildEnvelope settings previousHash event).map fun envelope =>
        let line := canonicalJson envelope ++ ['\n']
        let currentSize := world.file.length
        if settings.maxBytes < currentSize + line.length then world
        else { world with process := .appending previousHash event currentSize line }
    | _ => none
  | .write count =>
    match world.process with
    | .appending previousHash event currentSize (c :: unwritten) =>
      some { world with
        file := world.file ++ (c :: unwritten).take count
        process := .appending previousHash event currentSize ((c :: unwritten).drop count)
        appended := if (c :: unwritten).length ≤ count then world.appended ++ [event]
          else world.appended }
    | _ => none
  | .returnAppend =>
    match world.process with
    | .appending previousHash event _ [] =>
      ((buildEnvelope settings previousHash event).bind (recordHashField settings)).map
        fun recordHash => { world with
          process := .idle recordHash, returned := world.returned ++ [event] }
    | _ => none
  | .raiseAppend =>
    match world.process with
    | .appending previousHash _ _ _ => some { world with process := .idle previousHash }
    | _ => none
  | .crash => some { world with process := .down }

variable {world next : SpoolWorld settings}

/-- Opening finds the hash of the last record, or refuses and changes nothing. -/
theorem step_openSpool (taken : world.step .openSpool = some next) :
    world.process = .down ∧
      ((∃ previousHash, lastRecordHash settings world.file = .ok previousHash ∧
      next = { world with process := .idle previousHash }) ∨ next = world) := by
  simp only [step] at taken
  split at taken
  case h_2 => contradiction
  case h_1 down =>
    split at taken
    · rename_i previousHash found
      exact ⟨down, Or.inl ⟨previousHash, found, (Option.some.inj taken).symm⟩⟩
    · exact ⟨down, Or.inr (Option.some.inj taken).symm⟩

/-- An append that begins is refused for its size or is about to write its whole line. -/
theorem step_beginAppend {event : EventDocument settings.rounding}
    (taken : world.step (.beginAppend event) = some next) :
    ∃ previousHash, world.process = .idle previousHash ∧
      (next = world ∨ next = { world with
        process := .appending previousHash event world.file.length
          (recordText settings previousHash event ++ ['\n']) }) := by
  simp only [step] at taken
  split at taken
  case h_2 => contradiction
  case h_1 previousHash idle =>
    simp only [buildEnvelope_eq, Option.map_some, Option.some.injEq] at taken
    split_ifs at taken
    · exact ⟨previousHash, idle, Or.inl taken.symm⟩
    · exact ⟨previousHash, idle, Or.inr taken.symm⟩

/-- A chunk is the front of what was left of the line; with the last one the line is whole. -/
theorem step_write {count : Nat} (taken : world.step (.write count) = some next) :
    ∃ previousHash event currentSize unwritten,
      world.process = .appending previousHash event currentSize unwritten ∧ unwritten ≠ [] ∧
      next.file = world.file ++ unwritten.take count ∧
      next.process = .appending previousHash event currentSize (unwritten.drop count) ∧
      next.returned = world.returned ∧
      next.appended = if unwritten.length ≤ count then world.appended ++ [event]
        else world.appended := by
  simp only [step] at taken
  split at taken
  case h_2 => contradiction
  case h_1 previousHash event currentSize c unwritten appending =>
    obtain rfl := Option.some.inj taken
    exact ⟨previousHash, event, currentSize, c :: unwritten, appending, by simp, rfl, rfl, rfl, rfl⟩

/-- An append returns behind its whole line, with the hash of its record. -/
theorem step_returnAppend (taken : world.step .returnAppend = some next) :
    ∃ previousHash event currentSize,
      world.process = .appending previousHash event currentSize [] ∧
      next = { world with
        process := .idle (recordHash settings previousHash event)
        returned := world.returned ++ [event] } := by
  simp only [step] at taken
  split at taken
  case h_2 => contradiction
  case h_1 previousHash event currentSize appending =>
    rw [buildEnvelope_eq] at taken
    exact ⟨previousHash, event, currentSize, appending, (Option.some.inj taken).symm⟩

/-- A failure leaves the hash of the record before. -/
theorem step_raiseAppend (taken : world.step .raiseAppend = some next) :
    ∃ previousHash event currentSize unwritten,
      world.process = .appending previousHash event currentSize unwritten ∧
      next = { world with process := .idle previousHash } := by
  simp only [step] at taken
  split at taken
  case h_2 => contradiction
  case h_1 previousHash event currentSize unwritten appending =>
    exact ⟨previousHash, event, currentSize, unwritten, appending, (Option.some.inj taken).symm⟩

end SpoolWorld

end DTLab
