import DTLab.Library.Latest
import DTLab.Spool.Sender
import DTLab.Verif.SpoolReading

/-!
# At-least-once delivery

In every interleaving of the appending process and the sender, with failures and crashes of
both, the deliveries without repetitions are the first appended events in order, every delivery
is of the record right behind the persisted cursor, and the persisted cursor is behind delivered
records only. The invariant follows three beginnings of the chain of the file: the events
behind which the cursor stands, the events that were delivered, and the chain itself.
-/

namespace DTLab

open Library (Text Json earliest earliest_concat System.run System.run_invariant
  System.keeps_trivial)
open Library.HashChain (tip_concat)

variable {settings : SpoolSettings}

/-- The events delivered, in order, without the re-deliveries of a record. -/
def DeliveryWorld.delivered (world : DeliveryWorld settings) : List Json :=
  (earliest Delivery.offset world.deliveries).map Delivery.event

/-- A delivery is of the event of a list that the persisted cursor was right in front of. -/
def InPlace (events : List (EventDocument settings.rounding)) (delivery : Delivery) : Prop :=
  ∃ before event, before ++ [event] <+: events ∧
    loadCursor settings delivery.cursorFile = some (cursorAt settings before) ∧
    delivery.offset = (spoolText settings zeroHash (before ++ [event])).length ∧
    delivery.event = event.toJson

/-- In-order at-least-once delivery, up to a state. -/
structure DeliveredInOrder (world : DeliveryWorld settings) : Prop where
  /-- Without re-deliveries the events delivered are the first ones appended. -/
  inOrder : world.delivered <+: world.spool.appended.map EventDocument.toJson
  /-- Every delivery, and so every re-delivery, is of the record behind the persisted cursor. -/
  resumed : ∀ delivery ∈ world.deliveries, InPlace world.spool.appended delivery
  /-- The events in front of the persisted cursor were delivered. -/
  notBeyond : ∃ before, before <+: world.spool.appended ∧
    loadCursor settings world.cursorFile = some (cursorAt settings before) ∧
    before.map EventDocument.toJson <+: world.delivered

/-! ## Positions in the chain -/

variable (settings) in
/-- What the sender reads for a run of events behind a list of events. -/
def pendingBehind (before run : List (EventDocument settings.rounding)) : List PendingRecord :=
  pendingOf settings (spoolText settings zeroHash before).length (chainHash settings before) run

variable (settings) in
/-- The record of an event behind a list of events. -/
theorem pendingBehind_cons (before : List (EventDocument settings.rounding))
    (event : EventDocument settings.rounding) (run : List (EventDocument settings.rounding)) :
    pendingBehind settings before (event :: run) =
      ⟨(spoolText settings zeroHash (before ++ [event])).length,
        chainHash settings (before ++ [event]),
        signedEnvelope settings (chainHash settings before) event⟩ ::
          pendingBehind settings (before ++ [event]) run := by
  have length : (spoolText settings zeroHash (before ++ [event])).length =
      (spoolText settings zeroHash before).length +
        (recordText settings (chainHash settings before) event).length + 1 := by
    rw [spoolText_append, List.length_append, Nat.add_assoc]
    exact congrArg _ (List.length_append ..)
  have hash : chainHash settings (before ++ [event]) =
      recordHash settings (chainHash settings before) event := tip_concat ..
  rw [pendingBehind, pendingBehind, length, hash]
  rfl

/-- The records of a run and of one more event. -/
theorem pendingBehind_concat (before run : List (EventDocument settings.rounding))
    (event : EventDocument settings.rounding) :
    pendingBehind settings before (run ++ [event]) =
      pendingBehind settings before run ++ pendingBehind settings (before ++ run) [event] := by
  have length : (spoolText settings zeroHash (before ++ run)).length =
      (spoolText settings zeroHash before).length +
        (spoolText settings (chainHash settings before) run).length := by
    rw [spoolText_append, List.length_append]
    rfl
  rw [pendingBehind, pendingOf_append, pendingBehind, pendingBehind, length, chainHash, chainHash,
    Library.HashChain.tip_append]

/-- A record of a list stands at a position where the list has one. -/
theorem mem_offsets {before events : List (EventDocument settings.rounding)}
    {event : EventDocument settings.rounding} (inside : before ++ [event] <+: events) :
    (spoolText settings zeroHash (before ++ [event])).length ∈
      (pendingBehind settings [] events).map PendingRecord.offset := by
  obtain ⟨rest, rfl⟩ := inside
  have split : pendingBehind settings [] (before ++ ([event] ++ rest)) =
      pendingBehind settings [] before ++ pendingBehind settings before (event :: rest) := by
    rw [pendingBehind, pendingOf_append, pendingBehind, pendingBehind]
    simp [chainHash]
  rw [List.append_assoc, split, pendingBehind_cons]
  simp

/-- No record stands behind the last position. -/
theorem offset_le (offset : Nat) (hash : String) (events : List (EventDocument settings.rounding)) :
    ∀ record ∈ pendingOf settings offset hash events,
      record.offset ≤ offset + (spoolText settings hash events).length := by
  induction events generalizing offset hash with
  | nil => simp [pendingOf]
  | cons event events ih =>
    intro record member
    simp only [pendingOf, List.mem_cons, spoolText, List.length_append, List.length_cons]
      at member ⊢
    rcases member with rfl | later
    · dsimp only
      omega
    · have bound := ih _ _ record later
      omega

/-! ## The invariant -/

/-- What the sender holds is about the events behind its cursor. -/
def SenderAt (chain done sent : List (EventDocument settings.rounding)) : SenderProcess → Prop
  | .down => True
  | .idle cursor => cursor = cursorAt settings done
  | .reading cursor _ position records => cursor = cursorAt settings done ∧
      ∃ run, done ++ run <+: chain ∧ position = cursorAt settings (done ++ run) ∧
        records = pendingBehind settings done run
  | .sending cursor record records => cursor = cursorAt settings done ∧
      ∃ event run, done ++ event :: run <+: chain ∧
        record :: records = pendingBehind settings done (event :: run)
  | .saving cursor record records => cursor = cursorAt settings done ∧
      ∃ event run, done ++ event :: run <+: chain ∧ done ++ [event] <+: sent ∧
        record :: records = pendingBehind settings done (event :: run)

/-- The persisted cursor is behind `done`, the events of `sent` were delivered, and the file
begins with the lines of `chain`. -/
structure Delivering (world : DeliveryWorld settings)
    (chain sent done : List (EventDocument settings.rounding)) (tail : Text) : Prop where
  chained : Chained settings world.spool chain tail
  sentIn : sent <+: chain
  doneIn : done <+: sent
  persisted : loadCursor settings world.cursorFile = some (cursorAt settings done)
  sender : SenderAt chain done sent world.sender
  /-- What was delivered first for each position are the records of `sent`. -/
  kept : (earliest Delivery.offset world.deliveries).map
      (fun delivery => (delivery.offset, delivery.event)) =
    (pendingBehind settings [] sent).map
      (fun record => (record.offset, envelopeEvent record.envelope))
  inPlace : ∀ delivery ∈ world.deliveries, InPlace sent delivery

/-- A longer chain and more deliveries leave the sender where it is. -/
theorem SenderAt.mono {chain chain' done sent sent' : List (EventDocument settings.rounding)}
    {sender : SenderProcess} (position : SenderAt chain done sent sender)
    (chainIn : chain <+: chain') (sentIn : sent <+: sent') :
    SenderAt chain' done sent' sender := by
  cases sender with
  | down => trivial
  | idle cursor => exact position
  | reading cursor limit place records =>
    obtain ⟨same, run, inside, rest⟩ := position
    exact ⟨same, run, inside.trans chainIn, rest⟩
  | sending cursor record records =>
    obtain ⟨same, event, run, inside, read⟩ := position
    exact ⟨same, event, run, inside.trans chainIn, read⟩
  | saving cursor record records =>
    obtain ⟨same, event, run, inside, delivered, read⟩ := position
    exact ⟨same, event, run, inside.trans chainIn, delivered.trans sentIn, read⟩

/-- A delivery in place stays in place as the list grows. -/
theorem InPlace.mono {events events' : List (EventDocument settings.rounding)}
    {delivery : Delivery} (place : InPlace events delivery) (inside : events <+: events') :
    InPlace events' delivery := by
  obtain ⟨before, event, extended, rest⟩ := place
  exact ⟨before, event, extended.trans inside, rest⟩

/-- The loop of `send_pending` goes on with the records of a run. -/
theorem senderAt_resume {chain done sent run : List (EventDocument settings.rounding)}
    (inside : done ++ run <+: chain) :
    SenderAt chain done sent
      (.resume (cursorAt settings done) (pendingBehind settings done run)) := by
  cases run with
  | nil => exact rfl
  | cons event run =>
    have records := pendingBehind_cons settings done event run
    rw [records]
    exact ⟨rfl, event, run, inside, records.symm⟩

namespace Delivering

variable {world next : DeliveryWorld settings}
  {chain sent done : List (EventDocument settings.rounding)} {tail : Text}

theorem start : Delivering (DeliveryWorld.start settings) [] [] [] [] where
  chained := Chained.start
  sentIn := List.prefix_refl _
  doneIn := List.prefix_refl _
  persisted := rfl
  sender := trivial
  kept := rfl
  inPlace := by simp [DeliveryWorld.start]

/-- A step that only moves the sender keeps the rest. -/
theorem moved (delivering : Delivering world chain sent done tail) {sender : SenderProcess}
    (position : SenderAt chain done sent sender) :
    Delivering { world with sender := sender } chain sent done tail :=
  { delivering with sender := position }

/-- What is delivered under a known position is a re-delivery, else the next event. -/
theorem delivered_or_next (delivering : Delivering world chain sent done tail)
    {event : EventDocument settings.rounding} {run : List (EventDocument settings.rounding)}
    (inside : done ++ event :: run <+: chain) : done ++ [event] <+: sent ∨ sent = done := by
  have first : done ++ [event] <+: chain := by
    refine List.IsPrefix.trans ?_ inside
    simp
  rcases List.prefix_or_prefix_of_prefix first delivering.sentIn with known | longer
  · exact Or.inl known
  · rcases List.prefix_concat_iff.mp longer with same | shorter
    · exact Or.inl (same ▸ List.prefix_refl _)
    · exact Or.inr (shorter.eq_of_length_le delivering.doneIn.length_le)

/-- One more delivery is dropped as a re-delivery or is the next event. -/
theorem deliver (delivering : Delivering world chain sent done tail)
    {cursor : SenderCursor} {record : PendingRecord} {records : List PendingRecord}
    (sending : world.sender = .sending cursor record records) {sender : SenderProcess}
    (after : sender = .saving cursor record records ∨ sender = .idle cursor) :
    ∃ sent', Delivering { world with
      sender := sender
      deliveries := world.deliveries ++
        [⟨record.offset, envelopeEvent record.envelope, world.cursorFile⟩] } chain sent' done
      tail := by
  have position := delivering.sender
  rw [sending] at position
  obtain ⟨same, event, run, inside, read⟩ := position
  obtain ⟨rfl, rest⟩ := List.cons.inj (read.trans (pendingBehind_cons settings done event run))
  have known : ∃ sent', sent <+: sent' ∧ sent' <+: chain ∧ done ++ [event] <+: sent' ∧
      (earliest Delivery.offset (world.deliveries ++
          [⟨(spoolText settings zeroHash (done ++ [event])).length,
            envelopeEvent (signedEnvelope settings (chainHash settings done) event),
            world.cursorFile⟩])).map (fun delivery => (delivery.offset, delivery.event)) =
        (pendingBehind settings [] sent').map
          (fun record => (record.offset, envelopeEvent record.envelope)) := by
    have offsets : (earliest Delivery.offset world.deliveries).map Delivery.offset =
        (pendingBehind settings [] sent).map PendingRecord.offset := by
      have firsts := congrArg (List.map Prod.fst) delivering.kept
      simpa [List.map_map, Function.comp_def] using firsts
    rcases delivering.delivered_or_next inside with old | new
    · refine ⟨sent, List.prefix_refl _, delivering.sentIn, old, ?_⟩
      have present := mem_offsets old
      rw [← offsets] at present
      rw [earliest_concat, if_pos present]
      exact delivering.kept
    · subst new
      refine ⟨sent ++ [event], List.prefix_append _ _, ?_, List.prefix_refl _, ?_⟩
      · refine List.IsPrefix.trans ?_ inside
        simp
      · have absent : (spoolText settings zeroHash (sent ++ [event])).length ∉
            (earliest Delivery.offset world.deliveries).map Delivery.offset := by
          rw [offsets]
          intro member
          obtain ⟨other, found, equal⟩ := List.mem_map.mp member
          have bound := offset_le _ _ sent other found
          have longer : (spoolText settings zeroHash sent).length <
              (spoolText settings zeroHash (sent ++ [event])).length := by
            rw [spoolText_append, List.length_append]
            simp [spoolText]
          simp only [List.length_nil, spoolText_nil, Nat.zero_add] at bound
          exact absurd longer (by rw [← equal]; exact Nat.not_lt.mpr bound)
        rw [earliest_concat, if_neg absent, List.map_append, delivering.kept,
          pendingBehind_concat, List.map_append, List.nil_append, pendingBehind_cons]
        rfl
  obtain ⟨sent', grown, sentIn, delivered, kept⟩ := known
  refine ⟨sent', delivering.chained, sentIn, delivering.doneIn.trans grown, delivering.persisted,
    ?_, kept, ?_⟩
  · rcases after with rfl | rfl
    · exact ⟨same, event, run, inside, delivered, read⟩
    · exact same
  · intro delivery member
    rcases List.mem_append.mp member with old | new
    · exact (delivering.inPlace delivery old).mono grown
    · obtain rfl := List.mem_singleton.mp new
      exact ⟨done, event, delivered, delivering.persisted, rfl, rfl⟩

/-- A round of the reader reads the next event of the chain, or ends the batch. -/
theorem readRecord (delivering : Delivering world chain sent done tail)
    (taken : world.step .readRecord = some next) : Delivering next chain sent done tail := by
  obtain ⟨cursor, limit, position, records, reading, rest⟩ := DeliveryWorld.step_readRecord taken
  have held := delivering.sender
  rw [reading] at held
  obtain ⟨rfl, run, inside, rfl, rfl⟩ := held
  rcases rest with rfl | rfl | ⟨record, later, found, rfl⟩
  · exact delivering.moved rfl
  · exact delivering.moved (senderAt_resume inside)
  · rcases delivering.chained.read inside found with none' | ⟨event, extended, single⟩
    · cases none'
    · have records : record :: later = pendingBehind settings (done ++ run) [event] := single
      obtain ⟨rfl, -⟩ := List.cons.inj (records.trans (pendingBehind_cons settings _ event []))
      apply delivering.moved
      refine ⟨rfl, run ++ [event], by rwa [← List.append_assoc], ?_, ?_⟩
      · rw [← List.append_assoc]
        rfl
      · rw [pendingBehind_concat, pendingBehind_cons]
        rfl

/-- A save moves the cursor behind the delivered record, leaves it, or removes it. -/
theorem save (delivering : Delivering world chain sent done tail) {updatedAt : String}
    {outcome : SaveOutcome} (taken : world.step (.save updatedAt outcome) = some next) :
    ∃ done', Delivering next chain sent done' tail := by
  obtain ⟨cursor, record, records, saving, rest⟩ := DeliveryWorld.step_save taken
  have held := delivering.sender
  rw [saving] at held
  obtain ⟨same, event, run, inside, delivered, read⟩ := held
  obtain ⟨rfl, rfl⟩ := List.cons.inj (read.trans (pendingBehind_cons settings done event run))
  have digits := chainHash_ne settings (done ++ [event])
  have loaded : loadCursor settings
      (some (cursorText (cursorAt settings (done ++ [event])) updatedAt)) =
        some (cursorAt settings (done ++ [event])) :=
    loadCursor_cursorText settings digits updatedAt
  have behind : done ++ [event] ++ run <+: chain := by simpa using inside
  rcases rest with rfl | ⟨sender, after, rfl⟩ | rfl
  · exact ⟨done, delivering.moved same⟩
  · refine ⟨done ++ [event], { delivering with
      doneIn := delivered, persisted := loaded, sender := ?_ }⟩
    rcases after with rfl | rfl
    · exact senderAt_resume behind
    · trivial
  · exact ⟨[], { delivering with doneIn := List.nil_prefix, persisted := rfl, sender := trivial }⟩

/-- Every step keeps the invariant. -/
theorem step (delivering : Delivering world chain sent done tail)
    (action : DeliveryAction settings) (taken : world.step action = some next) :
    ∃ chain' sent' done' tail', Delivering next chain' sent' done' tail' := by
  cases action with
  | spool action =>
    obtain ⟨spool, stepped, rfl⟩ := DeliveryWorld.step_spool taken
    obtain ⟨chain', tail', grown, chained⟩ := delivering.chained.step action stepped
    exact ⟨chain', sent, done, tail', { delivering with
      chained := chained
      sentIn := delivering.sentIn.trans grown
      sender := delivering.sender.mono grown (List.prefix_refl _) }⟩
  | startSender =>
    rcases DeliveryWorld.step_startSender taken with ⟨cursor, loaded, rfl⟩ | rfl
    · have same := Option.some.inj (loaded.symm.trans delivering.persisted)
      exact ⟨chain, sent, done, tail, delivering.moved same⟩
    · exact ⟨chain, sent, done, tail, delivering⟩
  | sendPending limit =>
    obtain ⟨cursor, idle, rfl | rfl⟩ := DeliveryWorld.step_sendPending taken
    · exact ⟨chain, sent, done, tail, delivering⟩
    · have held := delivering.sender
      rw [idle] at held
      obtain rfl : cursor = cursorAt settings done := held
      have inside : done ++ [] <+: chain := by
        rw [List.append_nil]
        exact delivering.doneIn.trans delivering.sentIn
      refine ⟨chain, sent, done, tail, delivering.moved ⟨rfl, [], inside, ?_, rfl⟩⟩
      rw [List.append_nil]
  | readRecord => exact ⟨chain, sent, done, tail, delivering.readRecord taken⟩
  | raiseRead =>
    obtain ⟨cursor, limit, position, records, reading, rfl⟩ := DeliveryWorld.step_raiseRead taken
    have held := delivering.sender
    rw [reading] at held
    exact ⟨chain, sent, done, tail, delivering.moved held.1⟩
  | deliver outcome =>
    obtain ⟨cursor, record, records, sending, rfl | ⟨sender, after, rfl⟩⟩ :=
      DeliveryWorld.step_deliver taken
    · have held := delivering.sender
      rw [sending] at held
      exact ⟨chain, sent, done, tail, delivering.moved held.1⟩
    · obtain ⟨sent', delivered⟩ := delivering.deliver sending after
      exact ⟨chain, sent', done, tail, delivered⟩
  | save updatedAt outcome =>
    obtain ⟨done', saved⟩ := delivering.save taken
    exact ⟨chain, sent, done', tail, saved⟩
  | crashSender =>
    obtain rfl := Option.some.inj taken
    exact ⟨chain, sent, done, tail, delivering.moved trivial⟩

/-- The invariant says that delivery is in order and at least once. -/
theorem deliveredInOrder (delivering : Delivering world chain sent done tail) :
    DeliveredInOrder world := by
  have appended := delivering.sentIn.trans delivering.chained.appended
  have events : world.delivered = sent.map EventDocument.toJson := by
    have documents := congrArg (List.map Prod.snd) delivering.kept
    rw [List.map_map, List.map_map] at documents
    exact documents.trans (map_event_pendingOf settings _ _ sent)
  refine ⟨?_, fun delivery member => (delivering.inPlace delivery member).mono appended, ?_⟩
  · rw [events]
    exact appended.map EventDocument.toJson
  · refine ⟨done, delivering.doneIn.trans appended, delivering.persisted, ?_⟩
    rw [events]
    exact delivering.doneIn.map EventDocument.toJson

end Delivering

variable (settings)

/-- In every run of the spool and its sender, delivery is in order and at least once. -/
theorem delivered_in_order (actions : List (DeliveryAction settings))
    (world : DeliveryWorld settings)
    (reached : System.run DeliveryWorld.step (DeliveryWorld.start settings) actions = some world) :
    DeliveredInOrder world := by
  have keeps (state : DeliveryWorld settings) (action : DeliveryAction settings)
      (next : DeliveryWorld settings)
      (invariant : ∃ chain sent done tail, Delivering state chain sent done tail) (_ : True)
      (taken : state.step action = some next) :
      ∃ chain sent done tail, Delivering next chain sent done tail := by
    obtain ⟨chain, sent, done, tail, delivering⟩ := invariant
    exact delivering.step action taken
  have free := System.keeps_trivial DeliveryWorld.step (DeliveryWorld.start settings) actions
  have invariant := System.run_invariant keeps ⟨[], [], [], [], Delivering.start⟩ free reached
  obtain ⟨chain, sent, done, tail, delivering⟩ := invariant
  exact delivering.deliveredInOrder

/-! ## A crash between a delivery and the save of its cursor -/

variable {settings}

/-- Steps of the spool in front of others. -/
theorem run_spool (world : DeliveryWorld settings) (spoolActions : List (SpoolAction settings))
    (actions : List (DeliveryAction settings)) :
    System.run DeliveryWorld.step world (spoolActions.map .spool ++ actions) =
      (System.run SpoolWorld.step world.spool spoolActions).bind fun spool =>
        System.run DeliveryWorld.step { world with spool := spool } actions := by
  induction spoolActions generalizing world with
  | nil => rfl
  | cons action spoolActions ih =>
    rw [List.map_cons, List.cons_append, System.run, System.run]
    cases stepped : world.spool.step action with
    | none => simp [DeliveryWorld.step, stepped]
    | some spool => simp [DeliveryWorld.step, stepped, ih]

/-- A delivery that a crash follows, and one whose cursor is saved. -/
def deliveredTwice : List (DeliveryAction settings) :=
  [.startSender, .sendPending 100, .readRecord, .readRecord, .deliver .accepted, .crashSender,
    .startSender, .sendPending 1, .readRecord, .readRecord, .deliver .accepted, .save "" .saved]

/-- The run of these steps where the file holds one event. -/
theorem deliveredTwice_run (event : EventDocument settings.rounding)
    (spool : SpoolWorld settings) (file : spool.file = spoolText settings zeroHash [event]) :
    ∃ world, System.run DeliveryWorld.step ⟨spool, none, .down, []⟩ deliveredTwice = some world ∧
      world.deliveries.length = 2 ∧ world.sender = .idle (cursorAt settings [event]) := by
  have first : pendingEnvelopes settings spool.file .start 1 =
      .ok [⟨(spoolText settings zeroHash [event]).length, chainHash settings [event],
        signedEnvelope settings zeroHash event⟩] := by
    have read := pendingEnvelopes_start settings 1 [event] (by simp : '\n' ∉ ([] : Text))
    rw [List.append_nil] at read
    have record := pendingBehind_cons settings [] event []
    rw [file, read]
    exact congrArg Except.ok record
  have second : pendingEnvelopes settings spool.file (cursorAt settings [event]) 1 = .ok [] := by
    have read := pendingEnvelopes_cursorAt settings [event] [] 1
    rw [List.append_nil] at read
    rw [file, read]
    exact pendingRecords_tail settings _ _ _ (by simp)
  have seek : ¬SenderCursor.start.offset < 0 := by decide
  rw [cursorAt] at second
  simp [deliveredTwice, System.run, DeliveryWorld.step, loadCursor, seek, first, second,
    SenderProcess.resume, cursorAt]

/-- An append of a record that fits and its two deliveries. -/
theorem appended_deliveredTwice_run (event : EventDocument settings.rounding)
    (short : (recordText settings zeroHash event).length ≤ 100000)
    (fits : ((recordText settings zeroHash event).length + 1 : Nat) ≤ settings.maxBytes) :
    ∃ world, System.run DeliveryWorld.step (DeliveryWorld.start settings)
        ((chunkedAppend event).map .spool ++ deliveredTwice) = some world ∧
      world.deliveries.length = 2 := by
  obtain ⟨-, appended⟩ := chunkedAppend_run event short fits
  obtain ⟨world, delivered, two, -⟩ := deliveredTwice_run event
    ⟨recordText settings zeroHash event ++ ['\n'], .down, [event], [event]⟩ rfl
  refine ⟨world, ?_, two⟩
  rw [run_spool, DeliveryWorld.start, appended]
  exact delivered

/-- One heartbeat that the receiver got twice. -/
theorem heartbeat_delivered_in_order :
    ∃ world, System.run DeliveryWorld.step (DeliveryWorld.start sampleSpool)
        ((chunkedAppend sampleEvent).map .spool ++ deliveredTwice) = some world ∧
      world.deliveries.length = 2 ∧ DeliveredInOrder world := by
  have fits := sampleSpool_room sampleEvent_fits (by decide : 1 ≤ 100)
  obtain ⟨world, reached, two⟩ :=
    appended_deliveredTwice_run sampleEvent sampleEvent_fits fits
  exact ⟨world, reached, two, delivered_in_order sampleSpool _ world reached⟩

end DTLab
