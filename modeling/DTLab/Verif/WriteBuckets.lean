import DTLab.Library.JsonRoundTrip
import DTLab.Verif.Accounting
import DTLab.Sensor.Pymodbus

/-!
# The buckets of writes

The key under which a write is counted has the function code, the address, the quantity and a hash
of the values that the extractor finds. It tells writes apart except for what the extractor does
not look at: the masks of a request to mask a register, and a declared count of zero.
-/

namespace DTLab

open Library (Json Text)
open Library.Json (WellFormed WellFormedItems dumps_injective)

/-! ## Writes -/

/-- What a request of Pymodbus writes: the function code, the address, the quantity and the data. -/
inductive ModbusWrite where
  | singleCoil (address : Word) (value : Bool)
  | singleRegister (address value : Word)
  | coils (address : Word) (values : List Bool)
  | registers (address : Word) (values : List Word)
  | mask (address andMask orMask : Word)
  | readWrite (address count : Word) (values : List Word)
  deriving DecidableEq

namespace ModbusWrite

/-- The function code of a write. -/
def code : ModbusWrite → FunctionCode
  | singleCoil _ _ => .writeSingleCoil
  | singleRegister _ _ => .writeSingleRegister
  | coils _ _ => .writeMultipleCoils
  | registers _ _ => .writeMultipleRegisters
  | mask _ _ _ => .maskWriteRegister
  | readWrite _ _ _ => .readWriteMultipleRegisters

/-- The address of a write. -/
def address : ModbusWrite → Word
  | singleCoil address _ => address
  | singleRegister address _ => address
  | coils address _ => address
  | registers address _ => address
  | mask address _ _ => address
  | readWrite address _ _ => address

/-- The values that the extractor finds. -/
def scalars : ModbusWrite → List Scalar
  | singleCoil _ value => [.bool value]
  | singleRegister _ value => [Word.scalar value]
  | coils _ values => values.map .bool
  | registers _ values => values.map Word.scalar
  | mask _ _ _ => []
  | readWrite _ _ values => values.map Word.scalar

/-- The quantity that the extractor finds, if any. -/
def count : ModbusWrite → Option Int
  | registers _ values => some values.length
  | readWrite _ count _ => some count.val
  | _ => none

/-- The attributes that the class of a request gives it. -/
def attributes (unitId : Fin 256) (write : ModbusWrite) : Request :=
  let common : Request :=
    { functionCode := .int write.code.number, unitId := .int unitId.val }
  match write with
  | singleCoil address value =>
    { common with address := Word.scalar address, value := some (.bool value) }
  | singleRegister address value =>
    { common with address := Word.scalar address, value := some (Word.scalar value) }
  | coils address values =>
    { common with address := Word.scalar address, values := .list (values.map .bool) }
  | registers address values =>
    { common with
      address := Word.scalar address, values := .list (values.map Word.scalar)
      count := .int values.length }
  | mask address _ _ => { common with address := Word.scalar address }
  | readWrite address count values =>
    { common with
      writeAddress := Word.scalar address, writeRegisters := .list (values.map Word.scalar)
      writeCount := Word.scalar count }

end ModbusWrite

/-- What a decoded request writes. -/
def WriteRequest.write : WriteRequest → ModbusWrite
  | .writeSingleCoil address value => .singleCoil address value
  | .writeSingleRegister address value => .singleRegister address value
  | .writeMultipleCoils address values _ => .coils address values
  | .writeMultipleRegisters address values _ => .registers address values
  | .maskWriteRegister address andMask orMask => .mask address andMask orMask
  | .readWriteMultipleRegisters _ _ address count values _ => .readWrite address count values

/-- The attributes of a decoded request are those of what it writes. -/
theorem WriteRequest.attributes_write (unitId : Fin 256) (request : WriteRequest) :
    request.attributes unitId = request.write.attributes unitId := by
  cases request <;> rfl

/-! ## Keys -/

namespace ModbusWrite

variable {sha256Text : Text → String}

/-- The values of a write as JSON. -/
def document (write : ModbusWrite) : Json := .arr (write.scalars.map Scalar.toJson)

/-- The values of a write as an attribute. -/
theorem rawValues_asList (unitId : Fin 256) (write : ModbusWrite) :
    ((write.attributes unitId).rawValues write.code).asList = write.scalars := by
  cases write <;> rfl

/-- A write is extracted, with its code, its address and the hash of its values. -/
theorem extract_attributes (sha256Text : Text → String) (unitId : Fin 256) (write : ModbusWrite)
    (maxValues : Int) :
    ∃ operation, extractModbusWrite sha256Text (write.attributes unitId) maxValues =
        some operation ∧
      operation.functionCode = write.code ∧ operation.address = write.address.val ∧
      operation.valuesSha256 = sha256Text (canonicalJson write.document) ∧
      operation.quantity = max 1 (write.count.getD (max 1
        (boundedValues ((write.attributes unitId).rawValues write.code) maxValues).1.length)) := by
  have document : canonicalJson (.arr (((write.attributes unitId).rawValues
      write.code).asList.map Scalar.toJson)) = canonicalJson write.document := by
    rw [rawValues_asList]
    rfl
  cases write <;> refine ⟨_, rfl, rfl, rfl, congrArg sha256Text document, rfl⟩

/-- A list of scalars is well formed as JSON. -/
theorem wellFormed_document (write : ModbusWrite) : WellFormed write.document := by
  have items : ∀ scalars : List Scalar, WellFormedItems (scalars.map Scalar.toJson) := by
    intro scalars
    induction scalars with
    | nil => exact trivial
    | cons scalar scalars ih =>
      refine ⟨?_, ih⟩
      cases scalar <;> exact trivial
  exact items write.scalars

/-- Scalars are told apart by their JSON. -/
theorem toJson_injective : Function.Injective Scalar.toJson := by
  intro left right same
  cases left <;> cases right <;> cases same <;> rfl

/-- Registers are told apart as scalars. -/
theorem scalar_injective : Function.Injective Word.scalar := by
  intro left right same
  have values := Scalar.int.inj same
  exact Fin.ext (Int.ofNat.inj values)

/-- Two writes with one hash have the same values. -/
theorem scalars_eq (injective : Function.Injective sha256Text) {write other : ModbusWrite}
    (same : sha256Text (canonicalJson write.document) =
      sha256Text (canonicalJson other.document)) : write.scalars = other.scalars := by
  have documents : write.document = other.document :=
    dumps_injective true write.wellFormed_document other.wellFormed_document (injective same)
  exact toJson_injective.list_map (Json.arr.inj documents)

/-- Two writes that the key does not tell apart: masks of one register, or registers that are
written with a declared count of zero and of one. -/
def Clashes : ModbusWrite → ModbusWrite → Prop
  | mask address andMask orMask, mask other andMask' orMask' =>
    address = other ∧ (andMask, orMask) ≠ (andMask', orMask')
  | readWrite address count values, readWrite other count' values' =>
    address = other ∧ values = values' ∧ count ≠ count' ∧ count.val ≤ 1 ∧ count'.val ≤ 1
  | _, _ => False

/-- The operations that are extracted of two writes have one key only if the writes are the same. -/
def Separated (sha256Text : Text → String) (maxValues : Int) (unitId otherUnit : Fin 256)
    (write other : ModbusWrite) : Prop :=
  ∀ operation operation',
    extractModbusWrite sha256Text (write.attributes unitId) maxValues = some operation →
    extractModbusWrite sha256Text (other.attributes otherUnit) maxValues = some operation' →
    operation.writeKey = operation'.writeKey → write = other

/-- Writes of one code, address and list of values, and of one quantity where it is declared, are
the same or clash. -/
theorem eq_or_clashes {write other : ModbusWrite} (codes : write.code = other.code)
    (addresses : write.address = other.address) (scalars : write.scalars = other.scalars)
    {otherwise otherwise' : Int}
    (quantities : max 1 (write.count.getD otherwise) = max 1 (other.count.getD otherwise')) :
    write = other ∨ write.Clashes other := by
  cases write with
  | singleCoil first value =>
    cases other with
    | singleCoil second value' =>
      obtain rfl : first = second := addresses
      cases scalars
      exact Or.inl rfl
    | _ => cases codes
  | singleRegister first value =>
    cases other with
    | singleRegister second value' =>
      obtain rfl : first = second := addresses
      obtain rfl := scalar_injective (List.cons.inj scalars).1
      exact Or.inl rfl
    | _ => cases codes
  | coils first values =>
    cases other with
    | coils second values' =>
      obtain rfl : first = second := addresses
      have boolean : Function.Injective Scalar.bool := fun _ _ same => Scalar.bool.inj same
      obtain rfl := boolean.list_map scalars
      exact Or.inl rfl
    | _ => cases codes
  | registers first values =>
    cases other with
    | registers second values' =>
      obtain rfl : first = second := addresses
      obtain rfl := scalar_injective.list_map scalars
      exact Or.inl rfl
    | _ => cases codes
  | mask first andMask orMask =>
    cases other with
    | mask second andMask' orMask' =>
      obtain rfl : first = second := addresses
      by_cases masks : (andMask, orMask) = (andMask', orMask')
      · obtain ⟨rfl, rfl⟩ := Prod.mk.inj masks
        exact Or.inl rfl
      · exact Or.inr ⟨rfl, masks⟩
    | _ => cases codes
  | readWrite first count values =>
    cases other with
    | readWrite second count' values' =>
      obtain rfl : first = second := addresses
      obtain rfl := scalar_injective.list_map scalars
      have greatest : max 1 (count.val : Int) = max 1 (count'.val : Int) := quantities
      by_cases counts : count = count'
      · rw [counts]
        exact Or.inl rfl
      · have differ : count.val ≠ count'.val := fun equal => counts (Fin.ext equal)
        exact Or.inr ⟨rfl, rfl, counts, by omega, by omega⟩
    | _ => cases codes

/-- When the operations of two writes have one key. -/
theorem writeKey_eq_iff (injective : Function.Injective sha256Text) (maxValues : Int)
    (unitId otherUnit : Fin 256) {write other : ModbusWrite} {operation operation' : Operation}
    (extracted : extractModbusWrite sha256Text (write.attributes unitId) maxValues =
      some operation)
    (extracted' : extractModbusWrite sha256Text (other.attributes otherUnit) maxValues =
      some operation') :
    operation.writeKey = operation'.writeKey ↔ write = other ∨ write.Clashes other := by
  obtain ⟨_, found, code, address, hash, quantity⟩ :=
    extract_attributes sha256Text unitId write maxValues
  obtain ⟨_, found', code', address', hash', quantity'⟩ :=
    extract_attributes sha256Text otherUnit other maxValues
  obtain rfl := Option.some.inj (extracted.symm.trans found)
  obtain rfl := Option.some.inj (extracted'.symm.trans found')
  constructor
  · intro same
    have codes : write.code = other.code := by
      rw [← code, ← code']
      exact congrArg WriteKey.functionCode same
    have addresses : write.address = other.address := by
      have values := congrArg WriteKey.address same
      rw [Operation.writeKey, Operation.writeKey, address, address'] at values
      exact Fin.ext (Int.ofNat.inj values)
    have scalars : write.scalars = other.scalars := by
      have hashes := congrArg WriteKey.valuesSha256 same
      rw [Operation.writeKey, Operation.writeKey, hash, hash'] at hashes
      exact scalars_eq injective hashes
    have quantities := congrArg WriteKey.quantity same
    rw [Operation.writeKey, Operation.writeKey, quantity, quantity'] at quantities
    exact eq_or_clashes codes addresses scalars quantities
  · intro either
    rw [Operation.writeKey, Operation.writeKey, code, code', address, address', hash, hash',
      quantity, quantity']
    rcases either with rfl | clash
    · cases write <;> rfl
    · cases write with
      | mask first andMask orMask =>
        cases other with
        | mask second andMask' orMask' =>
          obtain ⟨rfl, _⟩ := clash
          rfl
        | _ => exact absurd clash not_false
      | readWrite first count values =>
        cases other with
        | readWrite second count' values' =>
          obtain ⟨rfl, rfl, _, low, low'⟩ := clash
          have same : max 1 (count.val : Int) = max 1 (count'.val : Int) := by omega
          exact congrArg (fun quantity => WriteKey.mk _ _ quantity _) same
        | _ => exact absurd clash not_false
      | _ => exact absurd clash not_false

/-- A write does not clash with itself. -/
theorem not_clashes_self (write : ModbusWrite) : ¬write.Clashes write := by
  intro clash
  cases write with
  | mask => exact clash.2 rfl
  | readWrite => exact clash.2.2.1 rfl
  | _ => exact clash

/-- The key tells two writes apart exactly where they do not clash. -/
theorem separated_iff (injective : Function.Injective sha256Text) (maxValues : Int)
    (unitId otherUnit : Fin 256) (write other : ModbusWrite) :
    Separated sha256Text maxValues unitId otherUnit write other ↔ ¬write.Clashes other := by
  constructor
  · intro separated clash
    obtain ⟨operation, found, _⟩ := extract_attributes sha256Text unitId write maxValues
    obtain ⟨operation', found', _⟩ := extract_attributes sha256Text otherUnit other maxValues
    have same := (writeKey_eq_iff injective maxValues unitId otherUnit found found').mpr
      (Or.inr clash)
    rw [separated operation operation' found found' same] at clash
    exact not_clashes_self other clash
  · intro apart operation operation' found found' same
    have either := (writeKey_eq_iff injective maxValues unitId otherUnit found found').mp same
    exact either.resolve_right apart

end ModbusWrite

/-! ## Events -/

section Events

variable {τ : Type} [LinearOrder τ] [Sub τ]

/-- A bucket of an event counts the operations of its episode that have the key of the bucket. -/
theorem bucket_counts (sha256Text : Text → String) (config : AggregatorConfig τ)
    (report : Report τ) {bucket : WriteBucket}
    (member : bucket ∈ (report.document sha256Text config).writes) :
    bucket.count = keyCount report.history.all bucket.writeKey := by
  rw [HostOtEvent.writes, Report.document_modbus] at member
  obtain ⟨operation, _, rfl⟩ := (report.mem_writes sha256Text config bucket).mp member
  rfl

/-- The key under which writes are counted tells two writes apart exactly where they are not masks
of one register or registers that are written with declared counts of zero and one, and each bucket
of each event of a run counts the operations of the episode with the key of the bucket. -/
theorem write_buckets_separate_iff {sha256Text : Text → String}
    (injective : Function.Injective sha256Text) :
    (∀ (maxValues : Int) (unitId otherUnit : Fin 256) (write other : ModbusWrite),
      ModbusWrite.Separated sha256Text maxValues unitId otherUnit write other ↔
        ¬write.Clashes other) ∧
    ∀ (config : AggregatorConfig τ) (nextSequence : Nat) (calls : List (AggregatorCall τ)),
      List.Forall₂ (fun report event => ∀ bucket ∈ HostOtEvent.writes event,
          bucket.count = keyCount report.history.all bucket.writeKey)
        (Ledger.reports config nextSequence calls)
        (Aggregator.events sha256Text config nextSequence calls) := by
  refine ⟨ModbusWrite.separated_iff injective, fun config nextSequence calls => ?_⟩
  rw [events_eq, List.forall₂_map_right_iff, List.forall₂_same]
  exact fun report _ bucket member => bucket_counts sha256Text config report member

end Events

/-- The text itself stands in for its hash. -/
theorem injective_sampleHash : Function.Injective sampleHash := by
  intro left right same
  exact String.ofList_injective same

/-- Two different writes of coils are told apart. -/
theorem write_buckets_separate_coils :
    ModbusWrite.Separated sampleHash 1 0 0 (.coils 7 [true, false]) (.coils 7 [true, true]) := by
  have apart : ¬(ModbusWrite.coils 7 [true, false]).Clashes (.coils 7 [true, true]) := not_false
  have both := @write_buckets_separate_iff Int _ _ sampleHash injective_sampleHash
  exact (both.1 1 0 0 _ _).mpr apart

/-- Two masks of one register are counted in one bucket. -/
theorem masks_not_separated :
    ¬ModbusWrite.Separated sampleHash defaultMaxValues 1 1 (.mask 4 0 1) (.mask 4 65535 0) := by
  intro separated
  have merged := separated _ _ rfl rfl rfl
  cases merged

end DTLab
