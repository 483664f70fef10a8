import DTLab.Library.Lines
import DTLab.Library.Program
import DTLab.Receiver.Semantics
import DTLab.Snapshots.Store

/-!
# Commands to the dashboard host

The files of the remote store and the commands that the publisher issues over `ssh` and `scp`:
what each does and answers when it takes effect, and the ways in which it may go wrong. The
files of the local machine that a publication writes are commands as well.
-/

namespace DTLab

open Library (Json Text Dict Program universalNewlines)

/-! ## Files -/

/-- The directories of the remote store. -/
inductive RemoteDirectory where
  | root
  | objects
  | manifests
  | pointer (which : SnapshotPointer)
  deriving DecidableEq

/-- A path in the remote store. -/
structure RemotePath where
  directory : RemoteDirectory
  name : String
  deriving DecidableEq

/-- A regular file, or a link to one. -/
structure RemoteEntry where
  isLink : Bool
  content : Text
  deriving DecidableEq

/-- The remote store: its directories, where they exist, and the lock of the publication. -/
structure RemoteFiles where
  directory : RemoteDirectory → Option (Dict String RemoteEntry)
  locked : Bool

/-- `PublishConfig`, as far as the publisher reads it. -/
structure PublishConfig where
  enabled : Bool
  /-- The parts of `remote_store`. -/
  remoteStore : List String
  manageOwnership : Bool
  remoteRetention : Nat
  retention_bounds : 3 ≤ remoteRetention ∧ remoteRetention ≤ 10000

/-- The name of a directory below the store. -/
def RemoteDirectory.name : RemoteDirectory → List String
  | root => []
  | objects => ["objects"]
  | manifests => ["manifests"]
  | pointer which => [which.text]

namespace RemoteFiles

variable (files : RemoteFiles)

/-- The entry at a path. -/
def entry (path : RemotePath) : Option RemoteEntry :=
  (files.directory path.directory).bind fun entries => entries.get? path.name

/-- The content at a path. -/
def content (path : RemotePath) : Option Text := (files.entry path).map RemoteEntry.content

/-- The entries of a directory replaced. -/
def withDirectory (directory : RemoteDirectory) (entries : Dict String RemoteEntry) :
    RemoteFiles :=
  { files with directory := Function.update files.directory directory (some entries) }

/-- An entry put at a path, where the directory exists. -/
def put (path : RemotePath) (new : RemoteEntry) : Option RemoteFiles :=
  (files.directory path.directory).map fun entries =>
    files.withDirectory path.directory (entries.set path.name new)

/-- A path without an entry. -/
def erase (path : RemotePath) : RemoteFiles :=
  match files.directory path.directory with
  | none => files
  | some entries => files.withDirectory path.directory (entries.erase path.name)

/-- Directories made where they are missing. -/
def withDirectories (directories : List RemoteDirectory) : RemoteFiles :=
  { files with directory := fun directory =>
      match files.directory directory with
      | some entries => some entries
      | none => if directory ∈ directories then some .empty else none }

end RemoteFiles

/-! ## Commands -/

/-- The commands of a publication. -/
inductive RemoteCommand where
  /-- `install -d`. -/
  | makeDirectories (directories : List RemoteDirectory)
  /-- `chown` of directories. -/
  | chownDirectories (directories : List RemoteDirectory)
  /-- `test -d`. -/
  | testDirectory (directory : RemoteDirectory)
  /-- `mkdir` of the lock. -/
  | makeLock
  /-- `rmdir` of the lock. -/
  | removeLock
  /-- `find`: the names in a directory, and whether each is a link. -/
  | list (directory : RemoteDirectory)
  /-- `sha256sum`. -/
  | hashes (paths : List RemotePath)
  /-- `grep`: the contents of files. -/
  | contents (paths : List RemotePath)
  /-- `test -f`. -/
  | testFile (path : RemotePath)
  /-- `test -L`. -/
  | testLink (path : RemotePath)
  /-- `scp` of a local file, if it exists. -/
  | upload (source : Option Text) (path : RemotePath)
  | chown (path : RemotePath)
  | chmod (path : RemotePath)
  /-- `cp`. -/
  | copy (source path : RemotePath)
  /-- `mv`. -/
  | move (source path : RemotePath)
  /-- `rm`. -/
  | remove (path : RemotePath)
  /-- `rm -f`. -/
  | removeForce (path : RemotePath)
  /-- A temporary file on the local machine is made. -/
  | createTemporary
  /-- It is written. -/
  | writeTemporary
  /-- It is removed. -/
  | unlinkTemporary
  deriving DecidableEq

/-- What a command answers that takes effect. -/
abbrev RemoteCommand.Answer : RemoteCommand → Type
  | testDirectory _ | testFile _ | testLink _ => Bool
  | list _ => List (String × Bool)
  | hashes _ => List (RemotePath × String)
  | contents _ => List (RemotePath × Text)
  | _ => Unit

/-- What comes back of a command. -/
inductive RemoteReply (α : Type) where
  | answered (answer : α)
  /-- An exit code that says that the command failed. -/
  | failed (code : Nat)
  | timedOut
  /-- `OSError` or `UnicodeError`. -/
  | unstarted

/-- Every path has a content, and what is read of each. -/
def readAll {α : Type} (files : RemoteFiles) (read : Text → α) (paths : List RemotePath) :
    Option (List (RemotePath × α)) :=
  paths.mapM fun path => (files.content path).map fun content => (path, read content)

/-- What a command answers and does, unless it fails in this state. -/
def RemoteCommand.exec (sha256Text : Text → String) (files : RemoteFiles) :
    (command : RemoteCommand) → Option (command.Answer × RemoteFiles)
  | makeDirectories directories => some ((), files.withDirectories directories)
  | chownDirectories directories =>
    if ∀ directory ∈ directories, (files.directory directory).isSome then some ((), files) else none
  | testDirectory directory => some ((files.directory directory).isSome, files)
  | makeLock =>
    if files.locked = false ∧ (files.directory .root).isSome then
      some ((), { files with locked := true })
    else none
  | removeLock => if files.locked then some ((), { files with locked := false }) else none
  | list directory => (files.directory directory).map fun entries =>
      (entries.entries.map fun entry => (entry.1, entry.2.isLink), files)
  | hashes paths => (readAll files sha256Text paths).map fun lines => (lines, files)
  -- `_run` reads with `text=True`, which turns every line ending into a newline.
  | contents paths => (readAll files universalNewlines paths).map fun records => (records, files)
  | testFile path => some ((files.entry path).isSome, files)
  | testLink path => some ((files.entry path).any RemoteEntry.isLink, files)
  | upload source path => do
    let content ← source
    let later ← files.put path ⟨false, content⟩
    return ((), later)
  | chown path | chmod path => (files.entry path).map fun _ => ((), files)
  | copy source path => do
    let content ← files.content source
    let later ← files.put path ⟨false, content⟩
    return ((), later)
  | move source path => do
    let entry ← files.entry source
    let later ← (files.erase source).put path entry
    return ((), later)
  | remove path => (files.entry path).map fun _ => ((), files.erase path)
  | removeForce path => some ((), files.erase path)
  | createTemporary => some ((), files)
  | writeTemporary => some ((), files)
  | unlinkTemporary => some ((), files)

/-- What happens to a command. -/
inductive RemoteOutcome where
  /-- It is carried out and answers. -/
  | success
  /-- It fails with a code that no command answers with, before or after it was carried out. -/
  | failure (code : Nat) (isFailure : 1 < code) (carriedOut : Bool)
  /-- It times out, before or after it was carried out. -/
  | timeout (carriedOut : Bool)
  /-- It does not start. -/
  | unstarted

/-- The store behind a command that was carried out as far as it can. -/
def RemoteCommand.effect (sha256Text : Text → String) (command : RemoteCommand)
    (files : RemoteFiles) : RemoteFiles :=
  match command.exec sha256Text files with
  | some (_, later) => later
  | none => files

/-- The reply to a command and the store behind it. -/
def RemoteFiles.respond (sha256Text : Text → String) (outcome : RemoteOutcome)
    (command : RemoteCommand) (files : RemoteFiles) : RemoteReply command.Answer × RemoteFiles :=
  match outcome with
  | .success =>
    match command.exec sha256Text files with
    | some (answer, later) => (.answered answer, later)
    | none => (.failed 1, files)
  | .failure code _ carriedOut =>
    (.failed code, if carriedOut then command.effect sha256Text files else files)
  | .timeout carriedOut =>
    (.timedOut, if carriedOut then command.effect sha256Text files else files)
  | .unstarted => (.unstarted, files)

/-! ## Programs -/

/-- What a publication raises. -/
inductive RemoteFault where
  /-- `RemotePublishError`. -/
  | publish (message : String) (committed : Option Bool)
  /-- `OSError` of the local machine. -/
  | storage
  /-- `KeyError` or `TypeError`. -/
  | lookup
  /-- What a text beyond the limits of the interpreter raises: `RecursionError`, `OverflowError`, or
  a `ValueError` that is no `JSONDecodeError`. -/
  | limits
  deriving DecidableEq

/-- A program of the publisher. -/
abbrev RemoteProgram (α : Type) :=
  Program RemoteCommand (fun command => RemoteReply command.Answer) RemoteFault α

/-- `RemotePublishError(message)`. -/
def refused (message : String) : RemoteFault := .publish message (some false)

namespace RemoteCommand

/-- The program that runs a command. -/
def executable : RemoteCommand → String
  | upload _ _ => "scp"
  | _ => "ssh"

/-- The last two parts of a path, for the text of an error. -/
def pathTail (parts : List String) : String :=
  "/".intercalate (parts.drop (parts.length - 2))

/-- The operation that the text of an error names. -/
def operation (config : PublishConfig) : RemoteCommand → String
  | makeDirectories _ => "install"
  | chownDirectories _ | chown _ => "chown"
  | testDirectory directory => "test_d_" ++ pathTail (config.remoteStore ++ directory.name)
  | makeLock => "mkdir"
  | removeLock => "rmdir"
  | list _ => "find"
  | hashes _ => "sha256sum"
  | contents _ => "grep"
  | testFile path =>
    "test_f_" ++ pathTail (config.remoteStore ++ path.directory.name ++ [path.name])
  | testLink path =>
    "test_L_" ++ pathTail (config.remoteStore ++ path.directory.name ++ [path.name])
  | upload _ _ => "upload"
  | chmod _ => "chmod"
  | copy _ _ => "cp"
  | move _ _ => "mv"
  | remove _ | removeForce _ => "rm"
  | createTemporary | writeTemporary | unlinkTemporary => "none"

/-- The error of a command that has no answer. -/
def fault (config : PublishConfig) (command : RemoteCommand) (problem : String) : RemoteFault :=
  refused (problem ++ " Operazione remota " ++ command.operation config ++ ".")

/-- `_ssh` and `_scp` of a command that must succeed. -/
def ask (config : PublishConfig) (command : RemoteCommand) : RemoteProgram command.Answer := do
  match ← Program.issue command with
  | .answered answer => .returned answer
  | .failed code => .raised (command.fault config
      ("Comando " ++ command.executable ++ " terminato con codice " ++ toString code ++ "."))
  | .timedOut => .raised (command.fault config ("Timeout comando " ++ command.executable ++ "."))
  | .unstarted => .raised (command.fault config
      ("Avvio comando " ++ command.executable ++ " non riuscito."))

/-- `_ssh` with `check=False`: a command that may fail. -/
def probe (config : PublishConfig) (command : RemoteCommand) :
    RemoteProgram (Option command.Answer) := do
  match ← Program.issue command with
  | .answered answer => .returned (some answer)
  | .failed _ => .returned none
  | .timedOut => .raised (command.fault config ("Timeout comando " ++ command.executable ++ "."))
  | .unstarted => .raised (command.fault config
      ("Avvio comando " ++ command.executable ++ " non riuscito."))

/-- A step on the local machine. -/
def perform (command : RemoteCommand) : RemoteProgram Unit := do
  match ← Program.issue command with
  | .answered _ => .returned ()
  | _ => .raised .storage

end RemoteCommand

end DTLab
