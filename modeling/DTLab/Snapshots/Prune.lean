import DTLab.Snapshots.Store
import Mathlib.Data.List.Sort

/-!
# Pruning the snapshot store

`prune_objects` as a run that unlinks at most one file a step: it reads the pointers and lists the
files, deletes the archives, then the objects. A run that is not continued is an interrupted
cleanup. The times of modification are of any linear order.
-/

namespace DTLab

open Library (Text Dict)

variable {μ : Type} [LinearOrder μ]

/-- The names in a directory that have the form of an object or an archived manifest. -/
def listedNames (directory : Dict String Text) : List String := directory.keys.filter isObjectName

/-- The objects from the newest to the oldest; those of one time stay in the order of the
directory. -/
def objectsByAge (modified : String → μ) (objects : Dict String Text) : List String :=
  (listedNames objects).insertionSort fun first second => modified second ≤ modified first

/-- The object that a manifest names. -/
def objectIn (platform : SnapshotPlatform) (manifest : ManifestFields) : String :=
  platform.str (getField "object_name" manifest)

/-- A file that was removed. -/
inductive PrunedFile where
  | manifest (name : String)
  | object (name : String)
  deriving DecidableEq

/-- A cleanup between two file operations. -/
inductive PruneRun where
  /-- Nothing is read yet. -/
  | surveying
  /-- The archives of these names are next; behind them the objects, by their age. -/
  | archives (keep aged names : List String) (removed : List PrunedFile)
  /-- The objects of these names are next. -/
  | objects (keep names : List String) (removed : List PrunedFile)
  | returned (removed : List PrunedFile)
  | raised (fault : SnapshotFault)

/-- The objects that the pointers name, where a pointer that cannot be read names none. -/
def SnapshotFiles.protectedObjects (platform : SnapshotPlatform) (files : SnapshotFiles) :
    Except SnapshotFault (List String) := do
  let read ← [.current, .lastKnownGood, .previous].mapM fun pointer =>
    suppressStore (files.readManifest platform pointer)
  .ok (read.filterMap fun manifest => manifest.map (objectIn platform))

namespace PruneRun

/-- What `prune_objects` reads before it deletes a file. -/
def survey (platform : SnapshotPlatform) (modified : String → μ) (retain : Int)
    (files : SnapshotFiles) : PruneRun :=
  if retain < 3 then .raised (.store "retain deve essere almeno 3")
  else
    match files.protectedObjects platform with
    | .error fault => .raised fault
    | .ok pointed =>
      let aged := objectsByAge modified files.objects
      let archives := (listedNames files.manifests).insertionSort (· ≤ ·)
      .archives (pointed ++ aged.take retain.toNat) aged archives []

/-- The next file operation of a cleanup. -/
def step (platform : SnapshotPlatform) (modified : String → μ) (retain : Int)
    (files : SnapshotFiles) : PruneRun → PruneRun × SnapshotFiles
  | .surveying => (survey platform modified retain files, files)
  | .archives keep aged [] removed => (.objects keep aged removed, files)
  | .archives keep aged (name :: names) removed =>
    match files.readArchivedManifest platform name with
    | .error fault => (.raised fault, files)
    | .ok manifest =>
      let object := objectIn platform manifest
      if object ∉ keep ∨ files.objects.get? object = none then
        (.archives keep aged names (removed ++ [.manifest name]),
          { files with manifests := files.manifests.erase name })
      else (.archives keep aged names removed, files)
  | .objects _ [] removed => (.returned removed, files)
  | .objects keep (name :: names) removed =>
    if name ∉ keep then
      (.objects keep names (removed ++ [.object name]),
        { files with objects := files.objects.erase name })
    else (.objects keep names removed, files)
  | .returned removed => (.returned removed, files)
  | .raised fault => (.raised fault, files)

end PruneRun

/-- A cleanup and the store behind a number of its steps. -/
def SnapshotFiles.pruned (platform : SnapshotPlatform) (modified : String → μ) (retain : Int)
    (files : SnapshotFiles) (count : Nat) : PruneRun × SnapshotFiles :=
  (fun state : PruneRun × SnapshotFiles => state.1.step platform modified retain state.2)^[count]
    (.surveying, files)

end DTLab
