import DTLab.Library.Json
import Mathlib.Algebra.Order.Ring.Cast
import Mathlib.Algebra.Order.Ring.Rat

/-!
# JSON Schema

Schemas as data, with the keywords of draft 2020-12 that validate one value or its parts: a
keyword that is about another kind of value accepts. The checks of formats and the numbers that
float literals stand for are parameters. A reference is the schema it names; an object schema
with several keywords is the conjunction of them.
-/

namespace DTLab.Library

/-- What a validator takes from its surroundings. -/
structure SchemaDialect where
  /-- Whether a text has a format. -/
  format : String → String → Bool
  /-- The number of a float literal; nothing for those that are no number. -/
  floatValue : FloatLiteral → Option ℚ

/-- The types of JSON values. -/
inductive JsonKind where
  | null
  | boolean
  | integer
  | string
  | array
  | object
  deriving DecidableEq

/-- A constant of a schema. -/
inductive SchemaConstant where
  | null
  | boolean (value : Bool)
  | integer (value : Int)
  | string (value : String)
  deriving DecidableEq

/-- A schema. -/
inductive Schema where
  /-- `type`, one of some kinds. -/
  | type (kinds : List JsonKind)
  /-- `enum`, or `const` with one constant. -/
  | enum (constants : List SchemaConstant)
  | minimum (bound : Int)
  | maximum (bound : Int)
  | minLength (bound : Nat)
  | maxLength (bound : Nat)
  /-- `pattern`, as the search for it. -/
  | pattern (search : String → Bool)
  | format (name : String)
  | minItems (bound : Nat)
  | maxItems (bound : Nat)
  | uniqueItems
  | items (schema : Schema)
  | required (keys : List String)
  | properties (members : List (String × Schema))
  /-- `additionalProperties: false` beside properties of some names. -/
  | closed (keys : List String)
  | allOf (schemas : List Schema)
  | oneOf (schemas : List Schema)
  | ifThenElse (condition yes no : Schema)

/-- The number of a value, if it is one. -/
def Json.number (dialect : SchemaDialect) : Json → Option ℚ
  | .int n => some n
  | .float literal => dialect.floatValue literal
  | _ => none

/-- A value of a kind; a float without a fraction is an integer. -/
def JsonKind.accepts (dialect : SchemaDialect) : JsonKind → Json → Bool
  | .null, .null => true
  | .boolean, .bool _ => true
  | .integer, .int _ => true
  | .integer, .float literal => (dialect.floatValue literal).any fun value => value.isInt
  | .string, .str _ => true
  | .array, .arr _ => true
  | .object, .obj _ => true
  | _, _ => false

/-- A value that equals a constant; numbers are compared by value. -/
def SchemaConstant.accepts (dialect : SchemaDialect) : SchemaConstant → Json → Bool
  | .null, .null => true
  | .boolean value, .bool actual => value == actual
  | .integer value, actual => decide (actual.number dialect = some (value : ℚ))
  | .string value, .str actual => value == actual
  | _, _ => false

/-- Two items that `uniqueItems` takes for one: numbers are compared by value. -/
def Json.same (dialect : SchemaDialect) (left right : Json) : Bool :=
  match left.number dialect, right.number dialect with
  | some first, some second => decide (first = second)
  | _, _ => decide (left.dumps false = right.dumps false)

mutual

/-- Whether a value is valid under a schema. -/
def Schema.accepts (dialect : SchemaDialect) : Schema → Json → Bool
  | .type kinds, value => kinds.any fun kind => kind.accepts dialect value
  | .enum constants, value => constants.any fun constant => constant.accepts dialect value
  | .minimum bound, value => (value.number dialect).all fun n => decide ((bound : ℚ) ≤ n)
  | .maximum bound, value => (value.number dialect).all fun n => decide (n ≤ (bound : ℚ))
  | .minLength bound, .str text => decide (bound ≤ text.length)
  | .maxLength bound, .str text => decide (text.length ≤ bound)
  | .pattern search, .str text => search text
  | .format name, .str text => dialect.format name text
  | .minItems bound, .arr values => decide (bound ≤ values.length)
  | .maxItems bound, .arr values => decide (values.length ≤ bound)
  | .uniqueItems, .arr values =>
    decide (values.Pairwise fun left right => Json.same dialect left right = false)
  | .items schema, .arr values => values.all fun value => schema.accepts dialect value
  | .required keys, .obj fields => keys.all fun key => (fields.lookup key).isSome
  | .properties members, .obj fields => Schema.acceptsMembers dialect members fields
  | .closed keys, .obj fields => fields.all fun field => decide (field.1 ∈ keys)
  | .allOf schemas, value => Schema.acceptsAll dialect schemas value
  | .oneOf schemas, value => Schema.acceptsCount dialect schemas value == 1
  | .ifThenElse condition yes no, value =>
    if condition.accepts dialect value then yes.accepts dialect value
    else no.accepts dialect value
  | _, _ => true

/-- Whether every schema accepts a value. -/
def Schema.acceptsAll (dialect : SchemaDialect) : List Schema → Json → Bool
  | [], _ => true
  | schema :: schemas, value =>
    schema.accepts dialect value && Schema.acceptsAll dialect schemas value

/-- How many schemas accept a value. -/
def Schema.acceptsCount (dialect : SchemaDialect) : List Schema → Json → Nat
  | [], _ => 0
  | schema :: schemas, value =>
    (if schema.accepts dialect value then 1 else 0) + Schema.acceptsCount dialect schemas value

/-- Whether the members that are present are valid under their schemas. -/
def Schema.acceptsMembers (dialect : SchemaDialect) :
    List (String × Schema) → List (String × Json) → Bool
  | [], _ => true
  | (key, schema) :: members, fields =>
    (fields.lookup key).all (fun value => schema.accepts dialect value) &&
      Schema.acceptsMembers dialect members fields

end

/-! ## Object schemas -/

/-- An object with some required members and no others than those described. -/
def Schema.object (required : List String) (members : List (String × Schema)) : Schema :=
  .allOf [.type [.object], .closed (members.map Prod.fst), .required required,
    .properties members]

/-- An integer within bounds. -/
def Schema.integerIn (low high : Int) : Schema :=
  .allOf [.type [.integer], .minimum low, .maximum high]

namespace Schema

variable (dialect : SchemaDialect)

/-- A value has one of the kinds. -/
@[simp] theorem accepts_type (kinds : List JsonKind) (value : Json) :
    (Schema.type kinds).accepts dialect value =
      kinds.any fun kind => kind.accepts dialect value := rfl

/-- A value is one of the constants. -/
@[simp] theorem accepts_enum (constants : List SchemaConstant) (value : Json) :
    (enum constants).accepts dialect value =
      constants.any fun constant => constant.accepts dialect value := rfl

/-- An integer is a constant by equality. -/
@[simp] theorem accepts_constant_int (value n : Int) :
    (SchemaConstant.integer value).accepts dialect (.int n) = decide (n = value) := by
  simp [SchemaConstant.accepts, Json.number]

/-- A number is at least its bound. -/
theorem accepts_minimum (bound : Int) (value : Json) :
    (minimum bound).accepts dialect value =
      (value.number dialect).all fun n => decide ((bound : ℚ) ≤ n) := rfl

/-- A number is at most its bound. -/
theorem accepts_maximum (bound : Int) (value : Json) :
    (maximum bound).accepts dialect value =
      (value.number dialect).all fun n => decide (n ≤ (bound : ℚ)) := rfl

/-- An integer is at least its bound. -/
@[simp] theorem accepts_minimum_int (bound n : Int) :
    (minimum bound).accepts dialect (.int n) = decide (bound ≤ n) := by
  simp [accepts_minimum, Json.number]

/-- An integer is at most its bound. -/
@[simp] theorem accepts_maximum_int (bound n : Int) :
    (maximum bound).accepts dialect (.int n) = decide (n ≤ bound) := by
  simp [accepts_maximum, Json.number]

/-- A bound below says nothing about `null`. -/
@[simp] theorem accepts_minimum_null (bound : Int) :
    (minimum bound).accepts dialect .null = true := rfl

/-- A bound above says nothing about `null`. -/
@[simp] theorem accepts_maximum_null (bound : Int) :
    (maximum bound).accepts dialect .null = true := rfl

/-- A text has at least a length. -/
@[simp] theorem accepts_minLength_str (bound : Nat) (text : String) :
    (minLength bound).accepts dialect (.str text) = decide (bound ≤ text.length) := rfl

/-- A text has at most a length. -/
@[simp] theorem accepts_maxLength_str (bound : Nat) (text : String) :
    (maxLength bound).accepts dialect (.str text) = decide (text.length ≤ bound) := rfl

/-- A least length says nothing about `null`. -/
@[simp] theorem accepts_minLength_null (bound : Nat) :
    (minLength bound).accepts dialect .null = true := rfl

/-- A greatest length says nothing about `null`. -/
@[simp] theorem accepts_maxLength_null (bound : Nat) :
    (maxLength bound).accepts dialect .null = true := rfl

/-- A text has a match. -/
@[simp] theorem accepts_pattern_str (search : String → Bool) (text : String) :
    (pattern search).accepts dialect (.str text) = search text := rfl

/-- A text passes the checker of its format. -/
@[simp] theorem accepts_format_str (name text : String) :
    (format name).accepts dialect (.str text) = dialect.format name text := rfl

/-- An array has at least a number of items. -/
@[simp] theorem accepts_minItems_arr (bound : Nat) (values : List Json) :
    (minItems bound).accepts dialect (.arr values) = decide (bound ≤ values.length) := rfl

/-- An array has at most a number of items. -/
@[simp] theorem accepts_maxItems_arr (bound : Nat) (values : List Json) :
    (maxItems bound).accepts dialect (.arr values) = decide (values.length ≤ bound) := rfl

/-- Every item of an array is accepted. -/
@[simp] theorem accepts_items_arr (schema : Schema) (values : List Json) :
    (items schema).accepts dialect (.arr values) =
      values.all fun value => schema.accepts dialect value := rfl

/-- Every schema of a list accepts. -/
@[simp] theorem accepts_allOf (schemas : List Schema) (value : Json) :
    (allOf schemas).accepts dialect value = acceptsAll dialect schemas value := rfl

/-- No schema refuses. -/
@[simp] theorem acceptsAll_nil (value : Json) : acceptsAll dialect [] value = true := rfl

/-- The first schema accepts, and so do the others. -/
@[simp] theorem acceptsAll_cons (schema : Schema) (schemas : List Schema) (value : Json) :
    acceptsAll dialect (schema :: schemas) value =
      (schema.accepts dialect value && acceptsAll dialect schemas value) := rfl

/-- No member is refused. -/
@[simp] theorem acceptsMembers_nil (fields : List (String × Json)) :
    acceptsMembers dialect [] fields = true := rfl

/-- The first member is absent or accepted, and so are the others. -/
@[simp] theorem acceptsMembers_cons (key : String) (schema : Schema)
    (members : List (String × Schema)) (fields : List (String × Json)) :
    acceptsMembers dialect ((key, schema) :: members) fields =
      ((fields.lookup key).all (fun value => schema.accepts dialect value) &&
        acceptsMembers dialect members fields) := rfl

/-- The members of an object are accepted by their schemas. -/
@[simp] theorem accepts_properties_obj (members : List (String × Schema))
    (fields : List (String × Json)) :
    (properties members).accepts dialect (.obj fields) = acceptsMembers dialect members fields :=
  rfl

/-- Every required member is there. -/
@[simp] theorem accepts_required_obj (keys : List String) (fields : List (String × Json)) :
    (required keys).accepts dialect (.obj fields) =
      keys.all fun key => (fields.lookup key).isSome := rfl

/-- No member has another name. -/
theorem accepts_closed_obj (keys : List String) (fields : List (String × Json)) :
    (closed keys).accepts dialect (.obj fields) =
      fields.all fun field => decide (field.1 ∈ keys) := rfl

/-- One schema of a list accepts. -/
theorem accepts_oneOf (schemas : List Schema) (value : Json) :
    (oneOf schemas).accepts dialect value = (acceptsCount dialect schemas value == 1) := rfl

/-- A conditional is the branch that its condition takes. -/
theorem accepts_ifThenElse (condition yes no : Schema) (value : Json) :
    (ifThenElse condition yes no).accepts dialect value =
      if condition.accepts dialect value then yes.accepts dialect value
      else no.accepts dialect value := rfl

/-- The items of an array are unique. -/
theorem accepts_uniqueItems_arr (values : List Json) :
    uniqueItems.accepts dialect (.arr values) =
      decide (values.Pairwise fun left right => Json.same dialect left right = false) := rfl

/-- Distinct integers are unique items. -/
theorem accepts_uniqueItems_ints (values : List Int) :
    uniqueItems.accepts dialect (.arr (values.map .int)) = decide values.Nodup := by
  have same (left right : Int) :
      Json.same dialect (.int left) (.int right) = decide (left = right) := by
    simp [Json.same, Json.number]
  simp only [accepts_uniqueItems_arr, List.pairwise_map, same, decide_eq_false_iff_not, List.Nodup]

/-- An object schema on an object. -/
theorem accepts_object (keys : List String) (members : List (String × Schema))
    (fields : List (String × Json)) :
    (object keys members).accepts dialect (.obj fields) = true ↔
      (∀ field ∈ fields, field.1 ∈ members.map Prod.fst) ∧
        (∀ key ∈ keys, (fields.lookup key).isSome = true) ∧
        acceptsMembers dialect members fields = true := by
  simp only [object, accepts_allOf, acceptsAll_cons, acceptsAll_nil, accepts_type,
    accepts_closed_obj, accepts_required_obj, accepts_properties_obj, List.any_cons,
    List.any_nil, JsonKind.accepts, Bool.or_false, Bool.and_true, Bool.true_and,
    Bool.and_eq_true, List.all_eq_true, decide_eq_true_eq]

/-- An integer under a bounded schema. -/
theorem accepts_integerIn (low high n : Int) :
    (integerIn low high).accepts dialect (.int n) = true ↔ low ≤ n ∧ n ≤ high := by
  simp [integerIn, JsonKind.accepts]

/-- Two alternatives, exactly one of which accepts. -/
theorem accepts_oneOf_two (left right : Schema) (value : Json) :
    (oneOf [left, right]).accepts dialect value =
      (left.accepts dialect value != right.accepts dialect value) := by
  have both : acceptsCount dialect [left, right] value =
      (if left.accepts dialect value then 1 else 0) +
        ((if right.accepts dialect value then 1 else 0) + 0) := rfl
  rw [accepts_oneOf, both]
  cases left.accepts dialect value <;> cases right.accepts dialect value <;> rfl

end Schema

end DTLab.Library
