import DTLab.Sensor.Observation

/-!
# Write requests as Pymodbus 2.5.3 decodes them

One constructor for each request class, with the attributes that `decode` sets from the frame.
Addresses, registers and counts are 16-bit fields, and coils are truth values. The number of
coils or registers follows the byte count of the frame; the quantity that a request to read and
write registers declares is a field of its own.
-/

namespace DTLab

/-- A 16-bit field of a frame. -/
abbrev Word := Fin 65536

/-- A decoded write request. -/
inductive WriteRequest where
  | writeSingleCoil (address : Word) (value : Bool)
  | writeSingleRegister (address value : Word)
  | writeMultipleCoils (address : Word) (values : List Bool) (fits : values.length ≤ 1968)
  | writeMultipleRegisters (address : Word) (values : List Word) (fits : values.length ≤ 123)
  | maskWriteRegister (address andMask orMask : Word)
  | readWriteMultipleRegisters (readAddress readCount writeAddress writeCount : Word)
    (writeRegisters : List Word) (fits : writeRegisters.length ≤ 123)

/-- A register in a request attribute. -/
def Word.scalar (word : Word) : Scalar := .int word.val

/-- The attributes of a decoded request for a unit that the extractor reads. -/
def WriteRequest.attributes (unitId : Fin 256) : WriteRequest → Request
  | .writeSingleCoil address value =>
    { functionCode := .int 5, unitId := .int unitId.val, address := Word.scalar address
      value := some (.bool value) }
  | .writeSingleRegister address value =>
    { functionCode := .int 6, unitId := .int unitId.val, address := Word.scalar address
      value := some (Word.scalar value) }
  | .writeMultipleCoils address values _ =>
    { functionCode := .int 15, unitId := .int unitId.val, address := Word.scalar address
      values := .list (values.map .bool) }
  | .writeMultipleRegisters address values _ =>
    { functionCode := .int 16, unitId := .int unitId.val, address := Word.scalar address
      values := .list (values.map Word.scalar), count := .int values.length }
  | .maskWriteRegister address _ _ =>
    { functionCode := .int 22, unitId := .int unitId.val, address := Word.scalar address }
  | .readWriteMultipleRegisters _ _ writeAddress writeCount writeRegisters _ =>
    { functionCode := .int 23, unitId := .int unitId.val
      writeAddress := Word.scalar writeAddress
      writeRegisters := .list (writeRegisters.map Word.scalar)
      writeCount := Word.scalar writeCount }

/-- The quantity that a request declares beyond what its values show. -/
def WriteRequest.declaredCount : WriteRequest → Option Word
  | .readWriteMultipleRegisters _ _ _ writeCount _ _ => some writeCount
  | _ => none

/-! ## What the extractor makes of them -/

/-- The ranges of a write extracted under the default bound of values. -/
structure Operation.InRange (operation : Operation) : Prop where
  unitId : 0 ≤ operation.unitId ∧ operation.unitId ≤ 255
  address : 0 ≤ operation.address ∧ operation.address ≤ 65535
  few : operation.values.length ≤ 32
  values : ∀ value ∈ operation.values, 0 ≤ value ∧ value ≤ 65535

/-- A value of a decoded request is a 16-bit number. -/
def Attribute.InRange (values : Attribute) : Prop :=
  ∀ scalar ∈ values.asList, ∀ value ∈ scalar.integer, 0 ≤ value ∧ value ≤ 65535

/-- Bounded values are few, and numbers of the attribute. -/
theorem boundedValues_inRange {values : Attribute} (inRange : values.InRange) :
    (boundedValues values defaultMaxValues).1.length ≤ 32 ∧
      ∀ value ∈ (boundedValues values defaultMaxValues).1, 0 ≤ value ∧ value ≤ 65535 := by
  unfold boundedValues
  split_ifs
  · simp
  · have first : sliceTo defaultMaxValues (values.asList.filterMap Scalar.integer) =
        (values.asList.filterMap Scalar.integer).take 32 := rfl
    dsimp only
    rw [first]
    refine ⟨List.length_take_le _ _, fun value member => ?_⟩
    obtain ⟨scalar, inside, integer⟩ := List.mem_filterMap.mp (List.mem_of_mem_take member)
    exact inRange scalar inside value integer

/-- A register is a 16-bit number. -/
theorem word_inRange (word : Word) : 0 ≤ (word.val : Int) ∧ (word.val : Int) ≤ 65535 := by
  have below := word.isLt
  omega

/-- The registers of a list are 16-bit numbers. -/
theorem inRange_words (words : List Word) : (Attribute.list (words.map Word.scalar)).InRange := by
  intro scalar member value integer
  obtain ⟨word, -, rfl⟩ := List.mem_map.mp member
  obtain rfl := Option.some.inj integer
  exact word_inRange word

/-- Coils are 16-bit numbers. -/
theorem inRange_bools (bools : List Bool) : (Attribute.list (bools.map .bool)).InRange := by
  intro scalar member value integer
  obtain ⟨bool, -, rfl⟩ := List.mem_map.mp member
  obtain rfl := Option.some.inj integer
  cases bool <;> decide

/-- The parts of an extracted write. -/
theorem extractModbusWrite_parts {sha256Text : Library.Text → String} {request : Request}
    {maxValues : Int} {operation : Operation}
    (extracted : extractModbusWrite sha256Text request maxValues = some operation) :
    ∃ code, request.functionCode.integer.bind FunctionCode.ofNumber = some code ∧
      operation.functionCode = code ∧ operation.unitId = request.unitId.integer.getD 0 ∧
      operation.address = (request.rawAddress code).integer.getD 0 ∧
      operation.values = (boundedValues (request.rawValues code) maxValues).1 ∧
      operation.quantity = max 1 ((request.rawQuantity code).getD
        (max 1 (boundedValues (request.rawValues code) maxValues).1.length)) ∧
      ∃ text, operation.valuesSha256 = sha256Text text := by
  obtain ⟨code, found, built⟩ := Option.bind_eq_some_iff.mp extracted
  obtain rfl := Option.some.inj built
  exact ⟨code, found, rfl, rfl, rfl, rfl, rfl, _, rfl⟩

/-- What the extractor finds in a decoded request: a write code, 16-bit values, and a quantity
that is absent, the number of registers, or declared. -/
theorem attributes_parts (unitId : Fin 256) (request : WriteRequest) :
    ∃ code, (request.attributes unitId).functionCode.integer.bind FunctionCode.ofNumber =
        some code ∧
      (request.attributes unitId).unitId.integer = some (unitId.val : Int) ∧
      (∃ address : Word, ((request.attributes unitId).rawAddress code).integer =
        some (address.val : Int)) ∧
      ((request.attributes unitId).rawValues code).InRange ∧
      ((request.attributes unitId).rawQuantity code = none ∨
        (∃ count : Nat, count ≤ 123 ∧
          (request.attributes unitId).rawQuantity code = some (count : Int)) ∨
        ∃ count ∈ request.declaredCount,
          (request.attributes unitId).rawQuantity code = some (count.val : Int)) := by
  cases request with
  | writeSingleCoil address value =>
    exact ⟨.writeSingleCoil, rfl, rfl, ⟨address, rfl⟩, inRange_bools [value], Or.inl rfl⟩
  | writeSingleRegister address value =>
    exact ⟨.writeSingleRegister, rfl, rfl, ⟨address, rfl⟩, inRange_words [value], Or.inl rfl⟩
  | writeMultipleCoils address values fits =>
    exact ⟨.writeMultipleCoils, rfl, rfl, ⟨address, rfl⟩, inRange_bools values, Or.inl rfl⟩
  | writeMultipleRegisters address values fits =>
    exact ⟨.writeMultipleRegisters, rfl, rfl, ⟨address, rfl⟩, inRange_words values,
      Or.inr (Or.inl ⟨values.length, fits, rfl⟩)⟩
  | maskWriteRegister address andMask orMask =>
    exact ⟨.maskWriteRegister, rfl, rfl, ⟨address, rfl⟩,
      by simp [Request.rawValues, WriteRequest.attributes, Attribute.InRange, Attribute.asList],
      Or.inl rfl⟩
  | readWriteMultipleRegisters readAddress readCount writeAddress writeCount registers fits =>
    exact ⟨.readWriteMultipleRegisters, rfl, rfl, ⟨writeAddress, rfl⟩, inRange_words registers,
      Or.inr (Or.inr ⟨writeCount, rfl, rfl⟩)⟩

/-- A decoded write request is extracted with all its parts in range, except for a quantity that
the request declares. -/
theorem extract_inRange {sha256Text : Library.Text → String} {unitId : Fin 256}
    {request : WriteRequest} {operation : Operation}
    (extracted : extractModbusWrite sha256Text (request.attributes unitId) defaultMaxValues =
      some operation) :
    operation.InRange ∧
      (operation.quantity ≤ 1968 ∨ ∃ count ∈ request.declaredCount,
        operation.quantity = max 1 (count.val : Int)) := by
  obtain ⟨code, found, -, unit, address, values, quantity, -⟩ :=
    extractModbusWrite_parts extracted
  obtain ⟨code', found', unit', ⟨word, address'⟩, inRange, quantity'⟩ :=
    attributes_parts unitId request
  obtain rfl : code = code' := Option.some.inj (found.symm.trans found')
  obtain ⟨few, each⟩ := boundedValues_inRange inRange
  have unitBelow := unitId.isLt
  rw [unit', Option.getD_some] at unit
  rw [address', Option.getD_some] at address
  rw [← values] at few each
  refine ⟨⟨by omega, by rw [address]; exact word_inRange word, few, each⟩, ?_⟩
  rw [quantity, ← values]
  rcases quantity' with absent | ⟨count, small, declared⟩ | ⟨count, member, declared⟩
  · rw [absent, Option.getD_none]
    exact Or.inl (by omega)
  · rw [declared, Option.getD_some]
    exact Or.inl (by omega)
  · rw [declared, Option.getD_some]
    exact Or.inr ⟨count, member, rfl⟩

end DTLab
