import DTLab.Spool.Torn

/-!
# Sending the spool

`EventSender` as steps beside the process that appends: loading the cursor file, `send_pending`
with one step for each line that `pending_envelopes` reads, for each delivery and for each save
of the cursor, failures of each of them, and crashes. `deliveries` records what the receiver
accepted; no step reads it.
-/

namespace DTLab

open Library (Text Json universalNewlines universalNewlines_eq isAscii System.run)
open Library.Json (WellFormed FixedBy loads loads_line printable_dumps)

/-- `CURSOR_SCHEMA_VERSION`. -/
def cursorSchemaVersion : String := "dtlab-plc-endpoint-sender-cursor-v1"

/-- The value that `SenderCursor.save` writes. -/
def cursorDocument (cursor : SenderCursor) (updatedAt : String) : Json :=
  .obj [("offset", .int cursor.offset),
    ("previous_record_sha256", .str cursor.previousRecordSha256),
    ("schema_version", .str cursorSchemaVersion), ("updated_at", .str updatedAt)]

/-- The file that `SenderCursor.save` writes. -/
def cursorText (cursor : SenderCursor) (updatedAt : String) : Text :=
  canonicalJson (cursorDocument cursor updatedAt) ++ ['\n']

variable (settings : SpoolSettings)

/-- `SenderCursor.__init__` on a cursor file or none; nothing where it raises. The file has no
escape of a lone surrogate. -/
def loadCursor : Option Text → Option SenderCursor
  | none => some .start
  | some text =>
    match if isAscii text then loads settings.rounding (universalNewlines text) else none with
    | some (.obj fields) =>
      if !isText cursorSchemaVersion (getField "schema_version" fields) then none
      else
        (pyInt settings ((fields.lookup "offset").getD (.int 0))).map fun offset =>
          let hash := getField "previous_record_sha256" fields
          ⟨offset, if isFalsy hash then zeroHash else pyStr settings hash⟩
    | _ => none

/-- The file of a cursor reads as its value, in text mode too. -/
theorem loads_cursorText (cursor : SenderCursor) (updatedAt : String) :
    isAscii (cursorText cursor updatedAt) = true ∧
      loads settings.rounding (universalNewlines (cursorText cursor updatedAt)) =
        some (cursorDocument cursor updatedAt) := by
  have order : ["offset", "previous_record_sha256", "schema_version", "updated_at"].Pairwise
      (· < ·) := by decide
  have formed : WellFormed (cursorDocument cursor updatedAt) :=
    ⟨order, trivial, trivial, trivial, trivial, trivial⟩
  have fixed : FixedBy settings.rounding (cursorDocument cursor updatedAt) :=
    ⟨trivial, trivial, trivial, trivial, trivial⟩
  have lines : ∀ c ∈ cursorText cursor updatedAt, c = '\n' ∨ Library.isPrintable c = true := by
    intro c member
    rw [cursorText, List.mem_append, List.mem_singleton] at member
    exact member.symm.imp_right (printable_dumps (cursorDocument cursor updatedAt) c)
  obtain ⟨ascii, noReturn⟩ := plain_of_printable lines
  rw [universalNewlines_eq noReturn]
  exact ⟨ascii, loads_line true formed fixed⟩

/-- A saved cursor is loaded as it was. -/
theorem loadCursor_cursorText {cursor : SenderCursor} (digits : cursor.previousRecordSha256 ≠ "")
    (updatedAt : String) :
    loadCursor settings (some (cursorText cursor updatedAt)) = some cursor := by
  obtain ⟨ascii, loaded⟩ := loads_cursorText settings cursor updatedAt
  have shown : isFalsy (.str cursor.previousRecordSha256) = false := by simpa [isFalsy] using digits
  simp [loadCursor, ascii, loaded, cursorDocument, isText, pyInt, pyStr, shown]

/-- What `send_pending` is doing, with the cursor in memory. -/
inductive SenderProcess where
  | down
  | idle (cursor : SenderCursor)
  /-- `pending_envelopes` has read some records up to a position. -/
  | reading (cursor : SenderCursor) (limit : Int) (position : SenderCursor)
    (records : List PendingRecord)
  /-- The first of the records left is about to be delivered. -/
  | sending (cursor : SenderCursor) (record : PendingRecord) (records : List PendingRecord)
  /-- The record was delivered and its cursor is about to be saved. -/
  | saving (cursor : SenderCursor) (record : PendingRecord) (records : List PendingRecord)

/-- The loop of `send_pending` at its head. -/
def SenderProcess.resume (cursor : SenderCursor) : List PendingRecord → SenderProcess
  | [] => .idle cursor
  | record :: records => .sending cursor record records

/-- What becomes of a delivery. -/
inductive DeliveryOutcome where
  | accepted
  /-- The receiver accepts and the sender raises, as on a lost response. -/
  | acceptedThenRaised
  | refused

/-- What becomes of a save of the cursor. -/
inductive SaveOutcome where
  | saved
  | raised
  /-- A crash behind the rename. -/
  | savedThenCrashed
  /-- A crash where the destination was removed and not replaced yet. -/
  | removedThenCrashed

/-- A delivery that the receiver accepted: the position behind the record, its event, and the
cursor file at that time. -/
structure Delivery where
  offset : Nat
  event : Json
  cursorFile : Option Text

/-- The spool with its process, the cursor file, the sender, and what was delivered. -/
structure DeliveryWorld where
  spool : SpoolWorld settings
  cursorFile : Option Text
  sender : SenderProcess
  deliveries : List Delivery

/-- One step of either process. -/
inductive DeliveryAction where
  | spool (action : SpoolAction settings)
  /-- `__init__`, which leaves no sender where it raises. -/
  | startSender
  /-- `send_pending` up to its `seek`, which raises on a negative position. -/
  | sendPending (limit : Int)
  /-- One round of the loop of `pending_envelopes`. -/
  | readRecord
  /-- The spool file cannot be read. -/
  | raiseRead
  | deliver (outcome : DeliveryOutcome)
  | save (updatedAt : String) (outcome : SaveOutcome)
  | crashSender

/-- An empty spool, no cursor file and no process. -/
def DeliveryWorld.start : DeliveryWorld settings := ⟨SpoolWorld.start settings, none, .down, []⟩

variable {settings}

/-- The step of an action, where it is possible. -/
def DeliveryWorld.step (world : DeliveryWorld settings) :
    DeliveryAction settings → Option (DeliveryWorld settings)
  | .spool action => (world.spool.step action).map fun spool => { world with spool := spool }
  | .startSender =>
    match world.sender with
    | .down =>
      match loadCursor settings world.cursorFile with
      | some cursor => some { world with sender := .idle cursor }
      | none => some world
    | _ => none
  | .sendPending limit =>
    match world.sender with
    | .idle cursor =>
      if cursor.offset < 0 then some world
      else some { world with sender := .reading cursor limit cursor [] }
    | _ => none
  | .readRecord =>
    match world.sender with
    | .reading cursor limit position records =>
      if (records.length : Int) < limit then
        match pendingEnvelopes settings world.spool.file position 1 with
        | .error _ => some { world with sender := .idle cursor }
        | .ok [] => some { world with sender := .resume cursor records }
        | .ok (record :: _) => some { world with
            sender := .reading cursor limit ⟨record.offset, record.recordHash⟩
              (records ++ [record]) }
      else some { world with sender := .resume cursor records }
    | _ => none
  | .raiseRead =>
    match world.sender with
    | .reading cursor _ _ _ => some { world with sender := .idle cursor }
    | _ => none
  | .deliver outcome =>
    match world.sender with
    | .sending cursor record records =>
      let delivery : Delivery :=
        ⟨record.offset, envelopeEvent record.envelope, world.cursorFile⟩
      match outcome with
      | .accepted => some { world with
          sender := .saving cursor record records, deliveries := world.deliveries ++ [delivery] }
      | .acceptedThenRaised => some { world with
          sender := .idle cursor, deliveries := world.deliveries ++ [delivery] }
      | .refused => some { world with sender := .idle cursor }
    | _ => none
  | .save updatedAt outcome =>
    match world.sender with
    | .saving cursor record records =>
      let saved : SenderCursor := ⟨record.offset, record.recordHash⟩
      match outcome with
      | .saved => some { world with
          cursorFile := some (cursorText saved updatedAt), sender := .resume saved records }
      | .raised => some { world with sender := .idle cursor }
      | .savedThenCrashed => some { world with
          cursorFile := some (cursorText saved updatedAt), sender := .down }
      | .removedThenCrashed => some { world with cursorFile := none, sender := .down }
    | _ => none
  | .crashSender => some { world with sender := .down }

namespace DeliveryWorld

variable {world next : DeliveryWorld settings}

/-- A step of the spool leaves the sender alone. -/
theorem step_spool {action : SpoolAction settings}
    (taken : world.step (.spool action) = some next) :
    ∃ spool, world.spool.step action = some spool ∧ next = { world with spool := spool } := by
  obtain ⟨spool, stepped, rfl⟩ := Option.map_eq_some_iff.mp taken
  exact ⟨spool, stepped, rfl⟩

/-- A sender starts with the cursor of the file, or not at all. -/
theorem step_startSender (taken : world.step .startSender = some next) :
    (∃ cursor, loadCursor settings world.cursorFile = some cursor ∧
      next = { world with sender := .idle cursor }) ∨ next = world := by
  simp only [step] at taken
  split at taken
  case h_2 => contradiction
  case h_1 down =>
    split at taken
    · rename_i cursor loaded
      exact Or.inl ⟨cursor, loaded, (Option.some.inj taken).symm⟩
    · exact Or.inr (Option.some.inj taken).symm

/-- `send_pending` reads behind its cursor, or raises. -/
theorem step_sendPending {limit : Int} (taken : world.step (.sendPending limit) = some next) :
    ∃ cursor, world.sender = .idle cursor ∧
      (next = world ∨ next = { world with sender := .reading cursor limit cursor [] }) := by
  simp only [step] at taken
  split at taken
  case h_2 => contradiction
  case h_1 cursor idle =>
    refine ⟨cursor, idle, ?_⟩
    split_ifs at taken
    · exact Or.inl (Option.some.inj taken).symm
    · exact Or.inr (Option.some.inj taken).symm

/-- A round of the reader raises, ends the batch, or reads one record. -/
theorem step_readRecord (taken : world.step .readRecord = some next) :
    ∃ cursor limit position records, world.sender = .reading cursor limit position records ∧
      (next = { world with sender := .idle cursor } ∨
        next = { world with sender := .resume cursor records } ∨
        ∃ record later,
          pendingEnvelopes settings world.spool.file position 1 = .ok (record :: later) ∧
          next = { world with
            sender := .reading cursor limit ⟨record.offset, record.recordHash⟩
              (records ++ [record]) }) := by
  simp only [step] at taken
  split at taken
  case h_2 => contradiction
  case h_1 cursor limit position records reading =>
    refine ⟨cursor, limit, position, records, reading, ?_⟩
    split_ifs at taken
    · split at taken
      · exact Or.inl (Option.some.inj taken).symm
      · exact Or.inr (Or.inl (Option.some.inj taken).symm)
      · rename_i record later found
        exact Or.inr (Or.inr ⟨record, later, found, (Option.some.inj taken).symm⟩)
    · exact Or.inr (Or.inl (Option.some.inj taken).symm)

/-- A read that raises leaves the cursor. -/
theorem step_raiseRead (taken : world.step .raiseRead = some next) :
    ∃ cursor limit position records, world.sender = .reading cursor limit position records ∧
      next = { world with sender := .idle cursor } := by
  simp only [step] at taken
  split at taken
  case h_2 => contradiction
  case h_1 cursor limit position records reading =>
    exact ⟨cursor, limit, position, records, reading, (Option.some.inj taken).symm⟩

/-- A delivery is refused, or it is one more and its cursor is about to be saved unless it
raised. -/
theorem step_deliver {outcome : DeliveryOutcome}
    (taken : world.step (.deliver outcome) = some next) :
    ∃ cursor record records, world.sender = .sending cursor record records ∧
      (next = { world with sender := .idle cursor } ∨
        ∃ sender, (sender = .saving cursor record records ∨ sender = .idle cursor) ∧
          next = { world with
            sender := sender
            deliveries := world.deliveries ++
              [⟨record.offset, envelopeEvent record.envelope, world.cursorFile⟩] }) := by
  simp only [step] at taken
  split at taken
  case h_2 => contradiction
  case h_1 cursor record records sending =>
    refine ⟨cursor, record, records, sending, ?_⟩
    cases outcome with
    | accepted => exact Or.inr ⟨_, Or.inl rfl, (Option.some.inj taken).symm⟩
    | acceptedThenRaised => exact Or.inr ⟨_, Or.inr rfl, (Option.some.inj taken).symm⟩
    | refused => exact Or.inl (Option.some.inj taken).symm

/-- A save leaves the cursor file, replaces it, or removes it in a crash. -/
theorem step_save {updatedAt : String} {outcome : SaveOutcome}
    (taken : world.step (.save updatedAt outcome) = some next) :
    ∃ cursor record records, world.sender = .saving cursor record records ∧
      (next = { world with sender := .idle cursor } ∨
        (∃ sender, (sender = .resume ⟨record.offset, record.recordHash⟩ records ∨ sender = .down) ∧
          next = { world with
            cursorFile := some (cursorText ⟨record.offset, record.recordHash⟩ updatedAt)
            sender := sender }) ∨
        next = { world with cursorFile := none, sender := .down }) := by
  simp only [step] at taken
  split at taken
  case h_2 => contradiction
  case h_1 cursor record records saving =>
    refine ⟨cursor, record, records, saving, ?_⟩
    cases outcome with
    | saved => exact Or.inr (Or.inl ⟨_, Or.inl rfl, (Option.some.inj taken).symm⟩)
    | raised => exact Or.inl (Option.some.inj taken).symm
    | savedThenCrashed => exact Or.inr (Or.inl ⟨_, Or.inr rfl, (Option.some.inj taken).symm⟩)
    | removedThenCrashed => exact Or.inr (Or.inr (Option.some.inj taken).symm)

/-! ## `pending_envelopes` in rounds -/

/-- Where the loop of `send_pending` begins for what the reader returned, behind what it had. -/
def afterRead (cursor : SenderCursor) (records : List PendingRecord) :
    Except SpoolFault (List PendingRecord) → SenderProcess
  | .error _ => .idle cursor
  | .ok more => .resume cursor (records ++ more)

/-- Rounds over a file that does not change return what `pending_envelopes` returns. -/
theorem run_readRecord {cursor position : SenderCursor} {limit : Int}
    {records : List PendingRecord} (inside : 0 ≤ position.offset)
    (reading : world.sender = .reading cursor limit position records) (left : Nat)
    (rounds : (limit - records.length).toNat = left) :
    ∃ count, System.run step world (List.replicate count .readRecord) = some { world with
      sender := afterRead cursor records
        (pendingEnvelopes settings world.spool.file position left) } := by
  induction left generalizing world position records with
  | zero =>
    have full : ¬(records.length : Int) < limit := by omega
    have place : ¬position.offset < 0 := Int.not_lt.mpr inside
    refine ⟨1, ?_⟩
    simp [System.run, step, reading, full, pendingEnvelopes, place, pendingRecords, afterRead]
  | succ left ih =>
    have room : (records.length : Int) < limit := by omega
    have succ := pendingEnvelopes_succ settings world.spool.file position left
    cases first : pendingEnvelopes settings world.spool.file position 1 with
    | error fault =>
      refine ⟨1, ?_⟩
      simp [System.run, step, reading, room, first, succ, afterRead]
    | ok found =>
      cases found with
      | nil =>
        refine ⟨1, ?_⟩
        simp [System.run, step, reading, room, first, succ, afterRead]
      | cons record more =>
        have fewer : (limit - ((records ++ [record]).length : Nat)).toNat = left := by
          rw [List.length_append]
          simp only [List.length_singleton]
          omega
        let after : DeliveryWorld settings := { world with
          sender := .reading cursor limit ⟨record.offset, record.recordHash⟩
            (records ++ [record]) }
        have held : after.sender = .reading cursor limit ⟨record.offset, record.recordHash⟩
          (records ++ [record]) := rfl
        obtain ⟨count, run⟩ := ih (Int.natCast_nonneg record.offset) held fewer
        refine ⟨count + 1, ?_⟩
        have taken : world.step .readRecord = some after := by
          simp [step, reading, room, first, after]
        rw [List.replicate_succ, System.run, taken, Option.bind_some, run, Nat.cast_succ, succ,
          first]
        dsimp only
        cases pendingEnvelopes settings world.spool.file ⟨record.offset, record.recordHash⟩ left
          <;> simp [afterRead, Except.map, after]

end DeliveryWorld

end DTLab
