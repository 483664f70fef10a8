import DTLab.Library.Json

/-!
# Members and items of JSON documents

What a program reads of a document without knowing its shape: a member that is absent, and the
members and items of a document of another kind, are nothing.
-/

namespace DTLab.Library.Json

/-- The member of a key. -/
def get (key : String) : Json → Option Json
  | .obj fields => fields.lookup key
  | _ => none

/-- The items of a list. -/
def items : Option Json → List Json
  | some (.arr values) => values
  | _ => []

/-- A text. -/
def text? : Option Json → Option String
  | some (.str text) => some text
  | _ => none

/-- Is a document a dictionary? -/
def isObject : Json → Bool
  | .obj _ => true
  | _ => false

/-- Is a document nothing? -/
def isNull : Option Json → Bool
  | none => true
  | some .null => true
  | _ => false

@[simp] theorem items_arr (values : List Json) : items (some (.arr values)) = values := rfl

@[simp] theorem text?_str (text : String) : text? (some (.str text)) = some text := rfl

/-- A text is a member of that kind. -/
theorem text?_eq_some {value : Option Json} {text : String} :
    text? value = some text ↔ value = some (.str text) := by
  constructor
  · intro found
    unfold text? at found
    split at found
    · rw [Option.some.inj found]
    · cases found
  · intro found
    rw [found]
    rfl

/-- The members of a dictionary that is given. -/
theorem get_obj (key : String) (fields : List (String × Json)) :
    get key (.obj fields) = fields.lookup key := rfl

end DTLab.Library.Json
