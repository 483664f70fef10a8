import DTLab.Library.Escape
import DTLab.Library.Lines

/-!
# Events in the Common Event Format

`_cef_escape` and `_cef_bytes` of the SIEM exports, on characters in place of their UTF-8 bytes.
Reading a timestamp as milliseconds of the epoch is a parameter.
-/

namespace DTLab.Siem

open Library (Json Text)
open Library.Escape

/-- An event of the export. -/
structure SiemEvent where
  eventId : String
  timestamp : String
  dataset : String
  /-- `type`. -/
  kind : String
  severity : String
  title : String
  description : String
  assetIds : List String
  sourceId : Option String
  sourceRecordId : Option String
  snapshotId : String
  snapshotSha256 : String

/-- `text.replace(c, by)`. -/
def replaceChar (c : Char) (replacement text : Text) : Text :=
  text.flatMap fun d => if d = c then replacement else [d]

/-- `_cef_escape` of a text. -/
def cefEscape (text : Text) : Text :=
  replaceChar '=' ['\\', '='] (replaceChar '|' ['\\', '|'] (replaceChar '\n' ['\\', 'n']
    (replaceChar '\r' ['\\', 'r'] (replaceChar '\\' ['\\', '\\'] text))))

/-- `_CEF_SEVERITY`. -/
def cefSeverity : String → Option Nat
  | "critical" => some 10
  | "high" => some 8
  | "medium" => some 5
  | "low" => some 3
  | "info" => some 1
  | "unknown" => some 0
  | _ => none

/-- `event["source_id"] or ""`. -/
def orEmpty (text : Option String) : Text := (text.getD "").toList

/-- The keys and values of the extension of an event, its timestamp in milliseconds. -/
def extensionOf (event : SiemEvent) (rt : Int) : List (Text × Text) :=
  [("rt".toList, Library.integerText rt), ("externalId".toList, event.eventId.toList),
    ("cs1Label".toList, "dataset".toList), ("cs1".toList, event.dataset.toList),
    ("cs2Label".toList, "asset_ids".toList),
    ("cs2".toList, (Json.arr (event.assetIds.map .str)).dumps false),
    ("cs3Label".toList, "source_id".toList), ("cs3".toList, orEmpty event.sourceId),
    ("cs4Label".toList, "source_record_id".toList), ("cs4".toList, orEmpty event.sourceRecordId),
    ("cs5Label".toList, "snapshot_id".toList), ("cs5".toList, event.snapshotId.toList),
    ("cs6Label".toList, "snapshot_sha256".toList), ("cs6".toList, event.snapshotSha256.toList),
    ("msg".toList, event.description.toList)]

/-- `f"{event['dataset']}:{event['type']}"`. -/
def signatureOf (event : SiemEvent) : Text := event.dataset.toList ++ ':' :: event.kind.toList

/-- `f"{key}={_cef_escape(value)}"`. -/
def writePair (pair : Text × Text) : Text := pair.1 ++ '=' :: cefEscape pair.2

/-- `" ".join(...)`. -/
def joinSpaces : List Text → Text
  | [] => []
  | [text] => text
  | text :: rest => text ++ ' ' :: joinSpaces rest

/-- The line of an event. -/
def cefLine (event : SiemEvent) (rt : Int) (severity : Nat) : Text :=
  "CEF:0|DTLab|Control Center|2.0|".toList ++ (cefEscape (signatureOf event) ++ '|' ::
    (cefEscape event.title.toList ++ '|' :: (Nat.toDigits 10 severity ++ '|' ::
      joinSpaces ((extensionOf event rt).map writePair))))

/-- The line of an event, if its timestamp can be read and its severity is known. -/
def lineOf (millis : String → Option Int) (event : SiemEvent) : Option Text := do
  let rt ← millis event.timestamp
  let severity ← cefSeverity event.severity
  some (cefLine event rt severity)

/-- `"\\n".join(lines) + "\\n"`, or nothing. -/
def joinLines (lines : List Text) : Text :=
  if lines = [] then [] else List.intercalate ['\n'] lines ++ ['\n']

/-- `_cef_bytes`. -/
def cefText (millis : String → Option Int) (events : List SiemEvent) : Option Text :=
  (events.mapM (lineOf millis)).map joinLines

/-! ## Escapes -/

/-- The characters that are escaped, and their codes. -/
def cefCodes : Codes where
  code
    | '\\' => some '\\'
    | '\r' => some 'r'
    | '\n' => some 'n'
    | '|' => some '|'
    | '=' => some '='
    | _ => none
  char
    | 'r' => '\r'
    | 'n' => '\n'
    | d => d
  char_code c d special := by
    split at special <;> first | cases special; rfl | cases special
  backslash := by decide

/-- The replacements one after the other put a code in place of each special character. -/
theorem cefEscape_eq (text : Text) : cefEscape text = cefCodes.escape text := by
  simp only [cefEscape, replaceChar, List.flatMap_assoc, Codes.escape]
  congr 1
  funext c
  by_cases backslash : c = '\\'
  · rw [backslash]
    rfl
  by_cases carriage : c = '\r'
  · rw [carriage]
    rfl
  by_cases newline : c = '\n'
  · rw [newline]
    rfl
  by_cases pipe : c = '|'
  · rw [pipe]
    rfl
  by_cases equals : c = '='
  · rw [equals]
    rfl
  have plain : cefCodes.code c = none := by
    simp only [cefCodes]
  rw [Codes.escapeChar, plain]
  simp [backslash, carriage, newline, pipe, equals]

end DTLab.Siem
