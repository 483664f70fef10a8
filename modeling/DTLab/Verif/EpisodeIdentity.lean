import DTLab.Sensor.StateStore
import DTLab.Verif.Agreement

/-!
# Episode identities

The sensor never returns a pair of boot id and sequence twice in any interleaving with the
sender, as long as no load of the sensor reads a counter that the sender's reset put in place
of a later one. The reset of the sender can do that: it is decided before the sensor allocates
and written afterwards.
-/

namespace DTLab

open Library (Text)

/-! ## The invariant -/

/-- What holds of the sensor where it is, given the boot id, the file and what was returned. -/
def SensorSound (world : StoreWorld) : StoreProcess → Prop
  | .down => True
  | .started bootId => bootId = world.bootId
  | .loading bootId => bootId = world.bootId
  | .resetting bootId => bootId = world.bootId ∧ ∀ n, (world.bootId, n) ∉ world.returned
  | .ready bootId next =>
    bootId = world.bootId ∧ ∀ n, (world.bootId, n) ∈ world.returned → n < next
  | .allocated bootId next value => bootId = world.bootId ∧ value < next ∧
    (∀ n, (world.bootId, n) ∈ world.returned → n < value) ∧
    (world.clobbered = false →
      ∃ file, world.file = some file ∧ file.bootId = world.bootId ∧
        value < file.nextEpisodeSequence)

/-- The boot id of the sender, if it runs, is that of the machine. -/
def SenderSound (bootId : String) : StoreProcess → Prop
  | .down => True
  | .started own | .loading own | .resetting own | .ready own _ | .allocated own _ _ =>
    own = bootId

/-- The invariant of the state file: unless it was clobbered, its counter is above every
sequence returned in this boot. -/
structure StoreSound (world : StoreWorld) : Prop where
  nodup : world.returned.Nodup
  boots : ∀ pair ∈ world.returned, pair.1 = world.bootId ∨ pair.1 ∈ world.earlierBoots
  recorded : world.clobbered = false → ∀ n, (world.bootId, n) ∈ world.returned →
    ∃ file, world.file = some file ∧ file.bootId = world.bootId ∧ n < file.nextEpisodeSequence
  exists_of_clobbered : world.clobbered = true → world.file.isSome
  sensor : SensorSound world world.sensor
  sender : SenderSound world.bootId world.sender

/-- The sensor does not read a clobbered file. -/
def FreshRead (world : StoreWorld) (action : StoreAction) : Prop :=
  action = .read .sensor → world.clobbered = false

instance (world : StoreWorld) (action : StoreAction) : Decidable (FreshRead world action) :=
  inferInstanceAs (Decidable (_ → _))

/-- Before any process ran, nothing was returned. -/
theorem storeSound_start (bootId : String) : StoreSound (.start bootId) where
  nodup := List.nodup_nil
  boots _ member := by cases member
  recorded _ _ member := by cases member
  exists_of_clobbered clobbered := by cases clobbered
  sensor := trivial
  sender := trivial

namespace StoreSound

variable {world next : StoreWorld}

/-- A reboot keeps the invariant: nothing was returned in the new boot. -/
theorem reboot (sound : StoreSound world) (bootId : String)
    (taken : world.step (.reboot bootId) = some next) : StoreSound next := by
  simp only [StoreWorld.step] at taken
  split_ifs at taken with used
  push Not at used
  obtain rfl := Option.some.inj taken
  have unused : ∀ n, (bootId, n) ∉ world.returned := by
    intro n member
    rcases sound.boots _ member with same | earlier
    · exact used.1 same
    · exact used.2 earlier
  exact
    { nodup := sound.nodup
      boots := fun pair member => Or.inr (List.mem_cons.mpr (sound.boots pair member))
      recorded := fun _ n member => absurd member (unused n)
      exists_of_clobbered := fun clobbered => by cases clobbered
      sensor := trivial
      sender := trivial }

/-- A change of the sensor alone keeps the invariant when it leaves the sensor sound. -/
theorem withSensor (sound : StoreSound world) {process : StoreProcess}
    (sensor : SensorSound world process) : StoreSound (world.setProcess process .sensor) where
  nodup := sound.nodup
  boots := sound.boots
  recorded := sound.recorded
  exists_of_clobbered := sound.exists_of_clobbered
  sensor := by cases process <;> exact sensor
  sender := sound.sender

/-- A change of the sender alone keeps the invariant when it leaves the sender sound. -/
theorem withSender (sound : StoreSound world) {process : StoreProcess}
    (sender : SenderSound world.bootId process) :
    StoreSound (world.setProcess process .sender) where
  nodup := sound.nodup
  boots := sound.boots
  recorded := sound.recorded
  exists_of_clobbered := sound.exists_of_clobbered
  sensor := by
    have before := sound.sensor
    simp only [StoreWorld.setProcess]
    cases held : world.sensor <;> exact held ▸ before
  sender := sender

/-- Nothing was returned in this boot while the file is missing or holds another boot. -/
theorem none_returned (sound : StoreSound world) (intact : world.clobbered = false)
    (other : ∀ file, world.file = some file → file.bootId ≠ world.bootId) (n : Nat) :
    (world.bootId, n) ∉ world.returned := by
  intro member
  obtain ⟨file, held, same, -⟩ := sound.recorded intact n member
  exact other file held same

/-- A reset by the sensor keeps the invariant: nothing was returned in this boot. -/
theorem resetSensor (sound : StoreSound world) {bootId : String}
    (here : world.sensor = .resetting bootId) : StoreSound (world.reset bootId .sensor) := by
  have sensor := sound.sensor
  rw [here] at sensor
  obtain ⟨rfl, unused⟩ := sensor
  exact
    { nodup := sound.nodup
      boots := sound.boots
      recorded := fun _ n member => absurd member (unused n)
      exists_of_clobbered := fun clobbered => by cases clobbered
      sensor := ⟨rfl, fun n member => absurd member (unused n)⟩
      sender := sound.sender }

/-- A reset by the sender keeps the invariant: it replaces no counter above zero of this boot,
or the file counts as clobbered. -/
theorem resetSender (sound : StoreSound world) {bootId : String}
    (here : world.sender = .resetting bootId) : StoreSound (world.reset bootId .sender) := by
  have sender := sound.sender
  rw [here] at sender
  obtain rfl : bootId = world.bootId := sender
  have unused : (world.reset world.bootId .sender).clobbered = false →
      ∀ n, (world.bootId, n) ∉ world.returned := by
    intro intact n member
    simp only [StoreWorld.reset, Bool.or_eq_false_iff] at intact
    obtain ⟨file, held, same, above⟩ := sound.recorded intact.1 n member
    have holds := intact.2
    simp only [StoreWorld.holdsCounter, held, decide_eq_false_iff_not] at holds
    exact holds ⟨same, Nat.zero_lt_of_lt above⟩
  have sensor := sound.sensor
  refine
    { nodup := sound.nodup
      boots := sound.boots
      recorded := fun intact n member => absurd member (unused intact n)
      exists_of_clobbered := fun _ => rfl
      sensor := ?_
      sender := rfl }
  simp only [StoreWorld.reset]
  -- Only a sensor that is about to return a value depends on the file.
  cases held : world.sensor with
  | allocated own next value =>
    rw [held] at sensor
    obtain ⟨same, below, above, saved⟩ := sensor
    refine ⟨same, below, above, fun intact => ?_⟩
    simp only [Bool.or_eq_false_iff] at intact
    obtain ⟨file, filed, boot, later⟩ := saved intact.1
    have holds := intact.2
    simp only [StoreWorld.holdsCounter, filed, decide_eq_false_iff_not] at holds
    exact absurd ⟨boot, Nat.zero_lt_of_lt later⟩ holds
  | _ =>
    rw [held] at sensor
    exact sensor

/-- An allocation keeps the invariant: the new counter is above everything returned. -/
theorem allocate (sound : StoreSound world) (taken : world.step .allocate = some next) :
    StoreSound next := by
  have sensor := sound.sensor
  simp only [StoreWorld.step] at taken
  split at taken
  case h_2 => cases taken
  case h_1 bootId counter here =>
    obtain rfl := Option.some.inj taken
    rw [here] at sensor
    obtain ⟨rfl, above⟩ := sensor
    exact
      { nodup := sound.nodup
        boots := sound.boots
        recorded := fun _ n member => ⟨_, rfl, rfl, Nat.lt_succ_of_lt (above n member)⟩
        exists_of_clobbered := fun _ => rfl
        sensor := ⟨rfl, Nat.lt_succ_self _, above, fun _ => ⟨_, rfl, rfl, Nat.lt_succ_self _⟩⟩
        sender := sound.sender }

/-- A return keeps the invariant: the value is above everything returned before. -/
theorem returnValue (sound : StoreSound world) (taken : world.step .returnValue = some next) :
    StoreSound next := by
  have sensor := sound.sensor
  simp only [StoreWorld.step] at taken
  split at taken
  case h_2 => cases taken
  case h_1 bootId counter value here =>
    obtain rfl := Option.some.inj taken
    rw [here] at sensor
    obtain ⟨rfl, below, above, saved⟩ := sensor
    refine
      { nodup := List.nodup_cons.mpr ⟨fun member => ?_, sound.nodup⟩
        boots := fun pair member => ?_
        recorded := fun intact n member => ?_
        exists_of_clobbered := sound.exists_of_clobbered
        sensor := ⟨rfl, fun n member => ?_⟩
        sender := sound.sender }
    · exact absurd (above value member) (lt_irrefl _)
    · rcases List.mem_cons.mp member with rfl | before
      · exact Or.inl rfl
      · exact sound.boots pair before
    · rcases List.mem_cons.mp member with same | before
      · obtain rfl : n = value := (Prod.mk.inj same).2
        exact saved intact
      · exact sound.recorded intact n before
    · rcases List.mem_cons.mp member with same | before
      · obtain rfl : n = value := (Prod.mk.inj same).2
        exact below
      · exact (above n before).trans below

/-- Every step that does not let the sensor read a clobbered file keeps the invariant. -/
theorem step (sound : StoreSound world) {action : StoreAction} (fresh : FreshRead world action)
    (taken : world.step action = some next) : StoreSound next := by
  cases action with
  | reboot bootId => exact sound.reboot bootId taken
  | crash owner =>
    obtain rfl := Option.some.inj taken
    cases owner with
    | sensor => exact sound.withSensor trivial
    | sender => exact sound.withSender trivial
  | start owner =>
    simp only [StoreWorld.step] at taken
    split_ifs at taken
    obtain rfl := Option.some.inj taken
    cases owner with
    | sensor => exact sound.withSensor rfl
    | sender => exact sound.withSender rfl
  | checkExists owner =>
    simp only [StoreWorld.step] at taken
    split at taken
    case h_2 => cases taken
    case h_1 bootId here =>
      obtain rfl := Option.some.inj taken
      cases owner with
      | sensor =>
        have sensor : SensorSound world (.started bootId) := here ▸ sound.sensor
        obtain rfl : bootId = world.bootId := sensor
        refine sound.withSensor ?_
        split_ifs with present
        · exact rfl
        · have intact : world.clobbered = false :=
            eq_false_of_ne_true fun clobbered => present (sound.exists_of_clobbered clobbered)
          refine ⟨rfl, sound.none_returned intact fun file held => ?_⟩
          rw [held] at present
          exact absurd rfl present
      | sender =>
        have sender : SenderSound world.bootId (.started bootId) := here ▸ sound.sender
        refine sound.withSender ?_
        split_ifs <;> exact sender
  | read owner =>
    simp only [StoreWorld.step] at taken
    split at taken
    case h_2 => cases taken
    case h_1 bootId file here held =>
      obtain rfl := Option.some.inj taken
      cases owner with
      | sensor =>
        have intact := fresh rfl
        have sensor : SensorSound world (.loading bootId) := here ▸ sound.sensor
        obtain rfl : bootId = world.bootId := sensor
        refine sound.withSensor ?_
        split_ifs with same
        · refine ⟨rfl, fun n member => ?_⟩
          obtain ⟨other, filed, -, above⟩ := sound.recorded intact n member
          obtain rfl := Option.some.inj (held.symm.trans filed)
          exact above
        · refine ⟨rfl, sound.none_returned intact fun other filed => ?_⟩
          obtain rfl := Option.some.inj (held.symm.trans filed)
          exact same
      | sender =>
        have sender : SenderSound world.bootId (.loading bootId) := here ▸ sound.sender
        refine sound.withSender ?_
        split_ifs <;> exact sender
  | reset owner =>
    simp only [StoreWorld.step] at taken
    split at taken
    case h_2 => cases taken
    case h_1 bootId here =>
      obtain rfl := Option.some.inj taken
      cases owner with
      | sensor => exact sound.resetSensor here
      | sender => exact sound.resetSender here
  | allocate => exact sound.allocate taken
  | returnValue => exact sound.returnValue taken

end StoreSound

/-! ## Identities -/

/-- The text of a sequence is its decimal digits. -/
theorem toList_toString (n : Nat) : (toString n).toList = Nat.toDigits 10 n := by
  simp [toString, Nat.repr]

/-- Decimal digits contain no bar. -/
theorem bar_notMem_toDigits (n : Nat) : '|' ∉ Nat.toDigits 10 n := fun member =>
  absurd (Nat.isDigit_of_mem_toDigits (b := 10) (by decide) (by decide) member) (by decide)

/-- Where the last separator stands determines what is before and behind it. -/
theorem split_at_last {separator : Char} {before other behind rest : List Char}
    (clean : separator ∉ behind) (cleanRest : separator ∉ rest)
    (same : before ++ separator :: behind = other ++ separator :: rest) :
    before = other ∧ behind = rest := by
  rcases List.append_eq_append_iff.mp same with ⟨more, rfl, tail⟩ | ⟨more, rfl, tail⟩
  · cases more with
    | nil => exact ⟨(List.append_nil _).symm, (List.cons.inj tail).2⟩
    | cons first more =>
      have inside : separator ∈ behind := by
        rw [(List.cons.inj tail).2]
        exact List.mem_append_right _ List.mem_cons_self
      exact absurd inside clean
  · cases more with
    | nil => exact ⟨List.append_nil _, (List.cons.inj tail).2.symm⟩
    | cons first more =>
      have inside : separator ∈ rest := by
        rw [(List.cons.inj tail).2]
        exact List.mem_append_right _ List.mem_cons_self
      exact absurd inside cleanRest

/-- The hashed text of an identity determines boot and sequence. -/
theorem identity_injective (sensorId : String) {bootId otherBoot : String} {sequence other : Nat}
    (same : (sensorId ++ "|" ++ bootId ++ "|" ++ toString sequence).toList =
      (sensorId ++ "|" ++ otherBoot ++ "|" ++ toString other).toList) :
    bootId = otherBoot ∧ sequence = other := by
  have bar : "|".toList = ['|'] := rfl
  simp only [String.toList_append, toList_toString, bar, List.append_assoc,
    List.append_cancel_left_eq, List.singleton_append] at same
  obtain ⟨boots, digits⟩ := split_at_last (bar_notMem_toDigits _) (bar_notMem_toDigits _) same
  have values := congrArg (fun text => Nat.ofDigitChars 10 text 0) digits
  simp only [Nat.ofDigitChars_ten_toDigits] at values
  exact ⟨String.toList_injective (List.cons.inj boots).2, values⟩

/-- In every run in which the sensor reads no clobbered file, no pair is returned twice and no
two returned pairs have the same episode id. -/
theorem returned_pairs_nodup (sha256Text : Text → String)
    (injective : Function.Injective sha256Text) (sensorId bootId : String)
    (actions : List StoreAction) (world : StoreWorld)
    (reached : Library.System.run StoreWorld.step (.start bootId) actions = some world)
    (fresh : Library.System.Keeps StoreWorld.step FreshRead (.start bootId) actions) :
    world.returned.Nodup ∧
      (world.returned.map fun pair => episodeId sha256Text sensorId pair.1 pair.2).Nodup := by
  have sound := Library.System.run_invariant
    (fun _ _ _ sound fresh taken => StoreSound.step sound fresh taken)
    (storeSound_start bootId) fresh reached
  refine ⟨sound.nodup, sound.nodup.map fun left right same => ?_⟩
  have texts := injective (String.append_right_inj _ |>.mp same)
  obtain ⟨boots, sequences⟩ := identity_injective sensorId texts
  exact Prod.ext boots sequences

/-- The stand-in hash is injective. -/
theorem sampleHash_injective : Function.Injective sampleHash := fun _ _ same =>
  String.ofList_injective same

/-- A sensor and a sender that start together in a new boot, with the reset of the sender before
the first allocation. -/
def orderlyStart : List StoreAction :=
  [.start .sensor, .start .sender, .checkExists .sensor, .checkExists .sender, .reset .sender,
    .reset .sensor, .allocate, .returnValue, .crash .sensor, .start .sensor,
    .checkExists .sensor, .read .sensor, .allocate, .returnValue]

/-- The orderly start returns two different sequences across a restart of the sensor. -/
theorem returned_pairs_nodup_orderly :
    ∃ world, Library.System.run StoreWorld.step (.start "boot-a") orderlyStart = some world ∧
      world.returned = [("boot-a", 1), ("boot-a", 0)] ∧ world.returned.Nodup := by
  refine ⟨_, rfl, rfl, ?_⟩
  refine (returned_pairs_nodup sampleHash sampleHash_injective "sensor:plc" "boot-a" orderlyStart
    _ rfl ?_).1
  decide

/-- The reset of the sender lands after the first allocation, and a restarted sensor returns the
same pair again. -/
theorem pair_returned_twice :
    ∃ world, Library.System.run StoreWorld.step (.start "boot-a")
        [.start .sensor, .start .sender, .checkExists .sensor, .checkExists .sender,
          .reset .sensor, .allocate, .returnValue, .reset .sender, .crash .sensor,
          .start .sensor, .checkExists .sensor, .read .sensor, .allocate, .returnValue] =
        some world ∧
      ¬world.returned.Nodup := by
  exact ⟨_, rfl, by decide⟩

end DTLab
