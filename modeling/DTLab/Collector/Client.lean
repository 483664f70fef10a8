import DTLab.Library.JsonFields
import DTLab.Tickets.Text
import Mathlib.Data.List.Basic
import Mathlib.Data.List.Infix

/-!
# Pages of the Cyber Vision client

`classic_pages` counts its pages and `new_ui_pages` follows the cursors that the server announces.
A request is answered with a document and the `Link` header beside it, or it raises. The readers of
links and of addresses, and the texts that Python gives a value, are parameters.
-/

namespace DTLab.Collector

open Library (Json Text)

/-- What the client raises. -/
inductive Raised where
  /-- `CyberVisionError` with its code. -/
  | refused (code : String) (message : String)
  /-- `ValueError` of an address that cannot be split. -/
  | badAddress
  /-- Any other exception of a request. -/
  | other (kind : String)
  deriving DecidableEq

/-- A link of a `Link` header. -/
structure HeaderLink where
  /-- `rel`. -/
  rel : Option String
  /-- `url`. -/
  url : Option String
  deriving DecidableEq

/-- The parts of an address. -/
structure SplitUrl where
  /-- The scheme. -/
  scheme : String
  /-- The host. -/
  hostname : Option String
  /-- The port, which is read last: nothing where reading it raises. -/
  port : Option (Option Nat)
  /-- The user. -/
  username : Option String
  /-- The password. -/
  password : Option String
  /-- The path. -/
  path : String
  /-- The query. -/
  query : String
  /-- The fragment. -/
  fragment : String

/-- What the client takes from Python and `requests`. -/
structure ClientPlatform where
  /-- `str` of a value. -/
  str : Json → String
  /-- `repr` of a value. -/
  repr : Json → String
  /-- `str.lower`. -/
  lower : String → String
  /-- `parse_header_links`, if it does not raise. -/
  parseHeaderLinks : Text → Option (List HeaderLink)
  /-- `urlsplit`, if it does not raise. -/
  urlsplit : String → Option SplitUrl
  /-- `urljoin`, if it does not raise. -/
  urljoin : String → String → Option String
  /-- `parse_qs` with the blank values kept. -/
  parseQs : String → List (String × List String)

/-- The part of `CyberVisionConfig` that the pages need. -/
structure ClientConfig where
  /-- `base_url`. -/
  baseUrl : String
  /-- `page_size`. -/
  pageSize : Nat
  /-- `max_pages`. -/
  maxPages : Nat
  /-- A page holds from 1 to 1000 records. -/
  pageSize_range : 1 ≤ pageSize ∧ pageSize ≤ 1000
  /-- There is a page. -/
  maxPages_positive : 1 ≤ maxPages

/-- `pagination_limit`. -/
def paginationLimit (config : ClientConfig) (path : String) : Raised :=
  .refused "pagination_limit" s!"Limite di {config.maxPages} pagine raggiunto per {path}."

/-! ## Pages by number -/

/-- A list that a key holds. -/
def heldList (fields : List (String × Json)) (key : String) : Option (List Json) :=
  match fields.lookup key with
  | some (.arr values) => some values
  | _ => none

/-- The list that a key holds, or that a dictionary held by it does. -/
def wrappedList (fields : List (String × Json)) (key : String) : Option (List Json) :=
  match fields.lookup key with
  | some (.arr values) => some values
  | some (.obj nested) => ["items", "content", "results"].findSome? (heldList nested)
  | _ => none

/-- `_extract_items`. -/
def extractItems : Json → Except Raised (List Json)
  | .arr values => .ok values
  | .obj fields =>
    match ["items", "content", "results", "data"].findSome? (wrappedList fields) with
    | some values => .ok values
    | none => .error
        (.refused "invalid_payload" "La risposta paginata non contiene una lista documentata.")
  | _ => .error (.refused "invalid_payload" "La risposta paginata non è un oggetto.")

variable (platform : ClientPlatform)

/-- `_record_key`. -/
def recordKey (record : Json) : String :=
  let identified := ["id", "deviceId", "componentId", "uuid"].findSome? fun key =>
    match record.get key with
    | none | some .null => none
    | some value => some (key ++ ":" ++ platform.str value)
  identified.getD (platform.repr record)

/-- The records whose key is not seen yet, and the keys seen after them. -/
def freshRecords (seen : List String) : List Json → List Json × List String
  | [] => ([], seen)
  | item :: rest =>
    if recordKey platform item ∈ seen then freshRecords seen rest
    else
      let after := freshRecords (recordKey platform item :: seen) rest
      (item :: after.1, after.2)

variable (config : ClientConfig)

/-- The loop of `classic_pages` over the pages that are left. The server answers the number and the
size of a page. -/
def classicLoop (server : Nat → Nat → Except Raised Json) (path : String) :
    Nat → Nat → List Json → List String → Except Raised (List Json)
  | 0, _, _, _ => .error (paginationLimit config path)
  | left + 1, page, results, seen =>
    match (server page config.pageSize).bind extractItems with
    | .error raised => .error raised
    | .ok items =>
      if items.isEmpty then .ok results
      else
        let fresh := freshRecords platform seen items
        if items.length < config.pageSize ∨ fresh.1.isEmpty then .ok (results ++ fresh.1)
        else classicLoop server path left (page + 1) (results ++ fresh.1) fresh.2

/-- `classic_pages`. -/
def classicPages (server : Nat → Nat → Except Raised Json) (path : String) :
    Except Raised (List Json) :=
  classicLoop platform config server path config.maxPages 1 [] []

/-! ## Pages by cursor -/

/-- `NEW_UI_PREFIX`. -/
def newUiPrefix : String := "/cvapi/v1"

/-- `text.rstrip("/")`. -/
def trimSlashes (text : String) : String :=
  String.ofList ((text.toList.reverse.dropWhile (· = '/')).reverse)

/-- `_url` of the New UI. -/
def newUiUrl (path : String) : Except Raised String :=
  if ¬ ['/'] <+: path.toList ∨ "..".toList <:+: path.toList ∨ "://".toList <:+: path.toList then
    .error (.refused "invalid_path" "Percorso API non valido.")
  else .ok (trimSlashes config.baseUrl ++ newUiPrefix ++ path)

/-- `.replace(">,<", ">, <")`. -/
def spaceLinks : Text → Text
  | '>' :: ',' :: '<' :: rest => '>' :: ',' :: ' ' :: '<' :: spaceLinks rest
  | c :: rest => c :: spaceLinks rest
  | [] => []

/-- The header as `parse_header_links` gets it. -/
def linkText (header : String) : Text :=
  spaceLinks (header.toList.reverse.dropWhile (· = '>')).reverse

/-- Is `next` among the words of a link's relation? -/
def isNext (link : HeaderLink) : Bool :=
  ((platform.lower (link.rel.getD "")).toList.splitOnP isSpace).contains "next".toList

/-- A port, or the usual one. -/
def portOr443 (port : Option Nat) : Nat := if port.getD 0 = 0 then 443 else port.getD 0

/-- `invalid_pagination_link`. -/
def invalidLink (message : String) : Raised := .refused "invalid_pagination_link" message

/-- `unsafe_pagination_link`. -/
def unsafeLink : Raised :=
  .refused "unsafe_pagination_link" "Destinazione di paginazione New UI non autorizzata."

/-- Does the address of the next page name the page that was asked for? -/
def sameTarget (expected candidate : SplitUrl) (expectedPort candidatePort : Option Nat) : Bool :=
  decide (platform.lower candidate.scheme = platform.lower expected.scheme) &&
    decide (platform.lower (candidate.hostname.getD "") =
      platform.lower (expected.hostname.getD "")) &&
    decide (portOr443 candidatePort = portOr443 expectedPort) && candidate.username.isNone &&
    candidate.password.isNone && decide (candidate.fragment = "") &&
    decide ((newUiPrefix ++ "/").toList <+: candidate.path.toList) &&
    decide (candidate.path = expected.path)

/-- The address that the only link to a next page names. -/
def nextAddress (links : List HeaderLink) : Except Raised String :=
  match links.map HeaderLink.url with
  | [some url] =>
    if url = "" then .error (invalidLink "Header di paginazione New UI ambiguo.") else .ok url
  | _ => .error (invalidLink "Header di paginazione New UI ambiguo.")

/-- The cursor of an address, after the checks of its other parts. -/
def addressCursor (expectedUrl url : String) : Except Raised String :=
  match platform.urlsplit expectedUrl,
    (platform.urljoin expectedUrl url).bind platform.urlsplit with
  | some expected, some candidate =>
    match expected.port, candidate.port with
    | some expectedPort, some candidatePort =>
      if sameTarget platform expected candidate expectedPort candidatePort then
        match ((platform.parseQs candidate.query).lookup "cursor").getD [] with
        | [cursor] =>
          if cursor = "" then
            .error (invalidLink "Cursor di paginazione New UI assente o ambiguo.")
          else .ok cursor
        | _ => .error (invalidLink "Cursor di paginazione New UI assente o ambiguo.")
      else .error unsafeLink
    | _, _ => .error unsafeLink
  | _, _ => .error .badAddress

/-- `_new_ui_next_cursor` of a `Link` header. -/
def newUiNextCursor (header : Option String) (expectedUrl : String) :
    Except Raised (Option String) :=
  match header with
  | none => .ok none
  | some "" => .ok none
  | some text =>
    match platform.parseHeaderLinks (linkText text) with
    | none => .error (invalidLink "Header di paginazione New UI non valido.")
    | some links =>
      let nextLinks := links.filter (isNext platform)
      if nextLinks.isEmpty then .ok none
      else
        match nextAddress nextLinks with
        | .error raised => .error raised
        | .ok url => (addressCursor platform expectedUrl url).map some

/-- An answer of the server. -/
structure Response where
  /-- The document. -/
  payload : Json
  /-- The `Link` header. -/
  link : Option String

/-- The members and the items of a page. -/
def newUiPage : Json → Option (List (String × Json) × List Json)
  | .obj fields => (heldList fields "items").map fun items => (fields, items)
  | _ => none

/-- The members of the first page whose key names no cursor. -/
def withoutCursors (fields : List (String × Json)) : List (String × Json) :=
  fields.filter fun field => !decide ("cursor".toList <:+: (platform.lower field.1).toList)

/-- `fields[key] = value`. -/
def setMember (fields : List (String × Json)) (key : String) (value : Json) :
    List (String × Json) :=
  if (fields.lookup key).isSome then
    fields.map fun field => if field.1 = key then (key, value) else field
  else fields ++ [(key, value)]

/-- Where the loop of `new_ui_pages` stands. -/
structure Progress where
  /-- The cursor of the next request. -/
  cursor : Option String
  /-- `seen_cursors`. -/
  seen : List String
  /-- `first_envelope`. -/
  envelope : Option (List (String × Json))
  /-- `all_items`. -/
  items : List Json
  /-- The cursors of the requests so far. -/
  requested : List (Option String)
  /-- The answers to them. -/
  served : List Response

/-- What a call of `new_ui_pages` has asked for and been given, and what it returned or raised. -/
structure Visit where
  /-- The cursors of the requests. -/
  requested : List (Option String)
  /-- The answers. -/
  served : List Response
  /-- What the call returned or raised. -/
  outcome : Except Raised Json

/-- The loop of `new_ui_pages` over the pages that are left. The server answers the cursor asked for
last, and may use all those before it. -/
def newUiLoop (server : List (Option String) → Except Raised Response) (path expectedUrl : String) :
    Nat → Progress → Visit
  | 0, progress => ⟨progress.requested, progress.served, .error (paginationLimit config path)⟩
  | left + 1, progress =>
    let requested := progress.requested ++ [progress.cursor]
    match server requested with
    | .error raised => ⟨requested, progress.served, .error raised⟩
    | .ok response =>
      let served := progress.served ++ [response]
      match newUiPage response.payload with
      | none =>
        ⟨requested, served, .error (.refused "invalid_payload"
          "La risposta New UI paginata non contiene items.")⟩
      | some (fields, page) =>
        let envelope := progress.envelope.getD (withoutCursors platform fields)
        let items := progress.items ++ page
        match newUiNextCursor platform response.link expectedUrl with
        | .error raised => ⟨requested, served, .error raised⟩
        | .ok none => ⟨requested, served, .ok (.obj (setMember envelope "items" (.arr items)))⟩
        | .ok (some cursor) =>
          if cursor ∈ progress.seen then
            ⟨requested, served, .error (.refused "pagination_cursor_repeated"
              "Cyber Vision ha ripetuto un cursor di paginazione New UI.")⟩
          else
            newUiLoop server path expectedUrl left
              ⟨some cursor, cursor :: progress.seen, some envelope, items, requested, served⟩

/-- `new_ui_pages`, whose callers give no cursor or a text. -/
def newUiPages (server : List (Option String) → Except Raised Response) (path : String)
    (initial : Option String) : Visit :=
  match newUiUrl config path with
  | .error raised => ⟨[], [], .error raised⟩
  | .ok expectedUrl =>
    newUiLoop platform config server path expectedUrl config.maxPages
      ⟨initial, initial.toList, none, [], [], []⟩

end DTLab.Collector
