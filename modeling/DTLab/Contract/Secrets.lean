import DTLab.Contract.Snapshot
import DTLab.Library.Regex
import DTLab.Tickets.Text

/-!
# Credential material in documents

`find_secret_leaks` with its three patterns. A document has no leak exactly when none of its keys
has a forbidden name and none of its texts a credential, whatever the path it is reported under.
-/

namespace DTLab

open Library (Text Json Regex)

/-! ## Patterns -/

/-- A character against a lower-case one of a pattern with `re.IGNORECASE`. -/
def foldsTo (c x : Char) : Bool :=
  x == c || x == c.toUpper || (c == 'i' && (x.toNat == 0x130 || x.toNat == 0x131)) ||
    (c == 's' && x.toNat == 0x17F) || (c == 'k' && x.toNat == 0x212A)

/-- A word of a pattern with `re.IGNORECASE`. -/
def foldedWord (word : String) : Regex Char :=
  Regex.concat (word.toList.map fun c => .one (foldsTo c))

/-- Words with `[_-]?` between them. -/
def joinedWords : List String → Regex Char
  | [] => .empty
  | [word] => foldedWord word
  | word :: words =>
    Regex.concat [foldedWord word, Regex.optional (.one fun c => c == '_' || c == '-'),
      joinedWords words]

/-- `[^…\s]+`. -/
def someOutside (excluded : List Char) : Regex Char :=
  Regex.some (.one fun c => !isSpace c && !excluded.contains c)

/-- `_FORBIDDEN_KEY`. -/
def forbiddenKey : Regex Char :=
  Regex.anyOf [joinedWords ["password"], joinedWords ["passwd"], joinedWords ["authorization"],
    joinedWords ["credential"], joinedWords ["api", "key"], joinedWords ["x", "token", "id"],
    joinedWords ["access", "token"], joinedWords ["refresh", "token"],
    joinedWords ["client", "secret"], joinedWords ["private", "key"]]

/-- `_URL_WITH_USERINFO`. -/
def urlWithUserinfo : Regex Char :=
  Regex.concat [foldedWord "http", Regex.optional (foldedWord "s"), foldedWord "://",
    someOutside ['/', ':', '@'], foldedWord ":", someOutside ['/', '@'], foldedWord "@"]

/-- `_SECRET_QUERY`. -/
def secretQuery : Regex Char :=
  Regex.concat [.one fun c => c == '?' || c == '&',
    Regex.anyOf [joinedWords ["token"], joinedWords ["api", "key"], joinedWords ["password"],
      joinedWords ["secret"], joinedWords ["authorization"]],
    foldedWord "=", someOutside ['&', '#']]

/-! ## Leaks -/

/-- The leaks of a text. -/
def textLeaks (path text : String) : List String :=
  (if urlWithUserinfo.search text.toList then [path ++ ": URL con credenziali incorporate"]
    else []) ++
  if secretQuery.search text.toList then [path ++ ": parametro segreto in URL"] else []

/-- The leak of a key. -/
def keyLeaks (path key : String) : List String :=
  if forbiddenKey.search key.toList then [path ++ ": nome campo sensibile"] else []

mutual

/-- `find_secret_leaks`. -/
def findSecretLeaks (path : String) : Json → List String
  | .str text => textLeaks path text
  | .arr items => itemLeaks path 0 items
  | .obj fields => memberLeaks path fields
  | _ => []

/-- The leaks of the items of a list from some index on. -/
def itemLeaks (path : String) (index : Nat) : List Json → List String
  | [] => []
  | item :: items =>
    findSecretLeaks (itemPath path index) item ++ itemLeaks path (index + 1) items

/-- The leaks of the members of an object. -/
def memberLeaks (path : String) : List (String × Json) → List String
  | [] => []
  | (key, value) :: fields =>
    keyLeaks (path ++ "." ++ key) key ++
      (findSecretLeaks (path ++ "." ++ key) value ++ memberLeaks path fields)

end

/-- A text without credentials. -/
def ClearText (text : String) : Prop :=
  urlWithUserinfo.search text.toList = false ∧ secretQuery.search text.toList = false

mutual

/-- A document without credential material. -/
def Clear : Json → Prop
  | .str text => ClearText text
  | .arr items => ClearItems items
  | .obj fields => ClearMembers fields
  | _ => True

/-- `Clear` of the items of a list. -/
def ClearItems : List Json → Prop
  | [] => True
  | item :: items => Clear item ∧ ClearItems items

/-- `Clear` of the members of an object. -/
def ClearMembers : List (String × Json) → Prop
  | [] => True
  | (key, value) :: fields =>
    forbiddenKey.search key.toList = false ∧ Clear value ∧ ClearMembers fields

end

/-- A text has no leaks exactly when it is clear. -/
theorem textLeaks_eq_nil (path text : String) : textLeaks path text = [] ↔ ClearText text := by
  cases url : urlWithUserinfo.search text.toList <;>
    cases query : secretQuery.search text.toList <;>
    simp [textLeaks, ClearText, url, query]

/-- A key has no leaks exactly when its name is allowed. -/
theorem keyLeaks_eq_nil (path key : String) :
    keyLeaks path key = [] ↔ forbiddenKey.search key.toList = false := by
  cases found : forbiddenKey.search key.toList <;> simp [keyLeaks, found]

mutual

/-- A document has no leak exactly when it has no credential material. -/
theorem findSecretLeaks_eq_nil (path : String) :
    ∀ document, findSecretLeaks path document = [] ↔ Clear document
  | .null => by simp [findSecretLeaks, Clear]
  | .bool _ => by simp [findSecretLeaks, Clear]
  | .int _ => by simp [findSecretLeaks, Clear]
  | .float _ => by simp [findSecretLeaks, Clear]
  | .str text => by rw [findSecretLeaks, Clear, textLeaks_eq_nil]
  | .arr items => by rw [findSecretLeaks, Clear, itemLeaks_eq_nil path 0 items]
  | .obj fields => by rw [findSecretLeaks, Clear, memberLeaks_eq_nil path fields]

/-- Items have no leaks exactly when they are clear. -/
theorem itemLeaks_eq_nil (path : String) (index : Nat) :
    ∀ items, itemLeaks path index items = [] ↔ ClearItems items
  | [] => by simp [itemLeaks, ClearItems]
  | item :: items => by
    rw [itemLeaks, ClearItems, List.append_eq_nil_iff, findSecretLeaks_eq_nil _ item,
      itemLeaks_eq_nil path (index + 1) items]

/-- Members have no leaks exactly when they are clear. -/
theorem memberLeaks_eq_nil (path : String) :
    ∀ fields, memberLeaks path fields = [] ↔ ClearMembers fields
  | [] => by simp [memberLeaks, ClearMembers]
  | (key, value) :: fields => by
    rw [memberLeaks, ClearMembers, List.append_eq_nil_iff, List.append_eq_nil_iff,
      keyLeaks_eq_nil, findSecretLeaks_eq_nil _ value, memberLeaks_eq_nil path fields]

end

/-- Clear items, one by one. -/
theorem clearItems_iff (items : List Json) : ClearItems items ↔ ∀ item ∈ items, Clear item := by
  induction items with
  | nil => simp [ClearItems]
  | cons item items ih => simp [ClearItems, ih]

/-- Clear members, one by one. -/
theorem clearMembers_iff (fields : List (String × Json)) : ClearMembers fields ↔
    ∀ field ∈ fields, forbiddenKey.search field.1.toList = false ∧ Clear field.2 := by
  induction fields with
  | nil => simp [ClearMembers]
  | cons field fields ih => simp [ClearMembers, ih, and_assoc]

end DTLab
