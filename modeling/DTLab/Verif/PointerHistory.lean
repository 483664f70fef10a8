import DTLab.Verif.Publication

/-!
# What the pointers are

The three pointers of a store are maintained from each other, one publication at a time. They are
a function of the whole history of publications: the last one, the last one of another snapshot
than the last one, and the last fresh one.
-/

namespace DTLab

open Library (Json Text Dict)
open Library.Json (dumps)
open Library.Attempt (bind_eq_ok)

variable {platform : SnapshotPlatform} {allowDemo : Bool}

/-! ## Histories -/

/-- A publication that was completed: its manifest, and whether its snapshot was fresh. -/
structure Publication where
  manifest : SnapshotManifest
  fresh : Bool

/-- The content of the pointers that name a publication. -/
def Publication.text (publication : Publication) : Text := manifestText publication.manifest.fields

/-- The last publication of another snapshot than that of the last one. -/
def lastOther (history : List Publication) : Option Publication :=
  history.getLast?.bind fun last =>
    history.reverse.find? fun publication => publication.manifest.sha256 ≠ last.manifest.sha256

/-- The last fresh publication, or the first one of all. -/
def lastGood (history : List Publication) : Option Publication :=
  (history.reverse.find? Publication.fresh).or history.head?

/-- Another publication behind a history: the one of before where its snapshot is another one. -/
theorem lastOther_concat (history : List Publication) (publication : Publication) :
    lastOther (history ++ [publication]) =
      match history.getLast? with
      | none => none
      | some last =>
        if last.manifest.sha256 = publication.manifest.sha256 then lastOther history
        else some last := by
  rw [lastOther, List.getLast?_append, List.reverse_append]
  simp only [List.getLast?_singleton, Option.some_or, Option.bind_some, List.reverse_singleton,
    List.singleton_append, ne_eq, List.find?_cons, not_true_eq_false, decide_false]
  cases history using List.reverseRecOn with
  | nil => rfl
  | append_singleton earlier last =>
    rw [List.getLast?_append, List.reverse_append]
    simp only [List.getLast?_singleton, Option.some_or, List.reverse_singleton,
      List.singleton_append, List.find?_cons]
    by_cases same : last.manifest.sha256 = publication.manifest.sha256
    · simp [lastOther, same]
    · simp [same]

/-- Another publication behind a history: it is the last fresh one, or the first one, or neither. -/
theorem lastGood_concat (history : List Publication) (publication : Publication) :
    lastGood (history ++ [publication]) =
      if publication.fresh || (lastGood history).isNone then some publication
      else lastGood history := by
  rw [lastGood, lastGood, List.reverse_append]
  simp only [List.reverse_singleton, List.singleton_append, List.find?_cons]
  cases fresh : publication.fresh with
  | true => simp
  | false =>
    cases history with
    | nil => simp
    | cons first rest =>
      cases found : (first :: rest).reverse.find? Publication.fresh with
      | none => simp
      | some good => simp

/-- There is a last publication of another snapshot exactly when two snapshots were published. -/
theorem lastOther_isSome (history : List Publication) :
    (lastOther history).isSome ↔ ∃ first ∈ history, ∃ second ∈ history,
      first.manifest.sha256 ≠ second.manifest.sha256 := by
  cases last : history.getLast? with
  | none =>
    rw [List.getLast?_eq_none_iff.mp last]
    simp [lastOther]
  | some final =>
    have inside : final ∈ history := List.mem_of_getLast? last
    rw [lastOther, last, Option.bind_some, List.find?_isSome]
    constructor
    · rintro ⟨other, member, differs⟩
      exact ⟨other, List.mem_reverse.mp member, final, inside, of_decide_eq_true differs⟩
    · rintro ⟨first, isFirst, second, isSecond, differs⟩
      by_cases same : first.manifest.sha256 = final.manifest.sha256
      · refine ⟨second, List.mem_reverse.mpr isSecond, decide_eq_true fun equal => ?_⟩
        exact differs (same.trans equal.symm)
      · exact ⟨first, List.mem_reverse.mpr isFirst, decide_eq_true same⟩

/-! ## One publication -/

/-- The state of the snapshot of a publication is fresh. -/
def PublishRequest.isFresh (request : PublishRequest platform) : Bool :=
  match request.sync "state" with
  | .ok state => isText "fresh" state
  | .error _ => false

/-- A publication that raised does nothing more. -/
theorem iterate_raised (allowDemo : Bool) (request : PublishRequest platform) (operations : Nat)
    (fault : SnapshotFault) (files : SnapshotFiles) :
    (fun state : PublishRun × SnapshotFiles =>
      state.1.step allowDemo request state.2)^[operations] (.raised fault, files) =
        (.raised fault, files) :=
  Function.iterate_fixed rfl operations

namespace PublishRun

variable {files : SnapshotFiles}

/-- The object is stored, or the publication raises. -/
theorem step_storing (allowDemo : Bool) (request : PublishRequest platform)
    (files : SnapshotFiles) :
    (∃ fault, PublishRun.storing.step allowDemo request files = (.raised fault, files)) ∨
      ∃ objects, PublishRun.storing.step allowDemo request files =
        (.archiving, { files with objects := objects }) := by
  rw [step]
  split
  · exact Or.inl ⟨_, rfl⟩
  · exact Or.inr ⟨_, rfl⟩

/-- The manifest is archived, or the publication raises. -/
theorem step_archiving (allowDemo : Bool) (request : PublishRequest platform)
    (files : SnapshotFiles) :
    (∃ fault, PublishRun.archiving.step allowDemo request files = (.raised fault, files)) ∨
      ∃ manifest manifests, PublishRun.archiving.step allowDemo request files =
        (.preceding manifest, { files with manifests := manifests }) := by
  rw [step]
  split
  · exact Or.inl ⟨_, rfl⟩
  · exact Or.inr ⟨_, _, rfl⟩

/-- In a sound store the publication of before becomes the previous one where its snapshot is
another one. -/
theorem step_preceding (allowDemo : Bool) (request : PublishRequest platform)
    (manifest : SnapshotManifest) (sound : files.Sound platform) :
    ∃ later, (PublishRun.preceding manifest).step allowDemo request files =
        (.switching manifest, later) ∧
      later.pointers .lastKnownGood = files.pointers .lastKnownGood ∧
      (files.pointers .current = none ∧ later.pointers .previous = files.pointers .previous ∨
        ∃ before : SnapshotManifest, before.Sound platform ∧
          files.pointers .current = some (manifestText before.fields) ∧
          later.pointers .previous =
            if before.sha256 = manifest.sha256 then files.pointers .previous
            else some (manifestText before.fields)) := by
  cases found : files.pointers .current with
  | none =>
    refine ⟨files, ?_, rfl, Or.inl ⟨rfl, rfl⟩⟩
    rw [step, SnapshotFiles.readManifest, found]
    rfl
  | some content =>
    obtain ⟨before, rfl, holds, read⟩ := sound.readManifest found
    have digest : getField "sha256" before.fields = .str before.sha256 := rfl
    rw [step, read]
    simp only [suppressStore, digest, isText, beq_iff_eq]
    by_cases same : before.sha256 = manifest.sha256
    · refine ⟨files, if_pos same, rfl, Or.inr ⟨before, holds.sound, rfl, ?_⟩⟩
      rw [if_pos same]
    · refine ⟨files.writePointer .previous before.fields, if_neg same, ?_,
        Or.inr ⟨before, holds.sound, rfl, ?_⟩⟩
      · exact SnapshotFiles.writePointer_ne before.fields (by decide)
      · rw [if_neg same]
        exact SnapshotFiles.writePointer_self files .previous before.fields

/-- In a sound store the last known good snapshot is that of the publication where it is fresh or
there was none. -/
theorem step_keeping (allowDemo : Bool) (request : PublishRequest platform)
    (manifest : SnapshotManifest) (sound : files.Sound platform) :
    (∃ fault, (PublishRun.keeping manifest).step allowDemo request files =
      (.raised fault, files)) ∨
    (PublishRun.keeping manifest).step allowDemo request files =
      (.returned manifest,
        if request.isFresh || (files.pointers .lastKnownGood).isNone then
          files.writePointer .lastKnownGood manifest.fields
        else files) := by
  have kept : ∃ kept, suppressStore (files.load platform .lastKnownGood) = .ok kept ∧
      kept.isNone = (files.pointers .lastKnownGood).isNone := by
    cases found : files.pointers .lastKnownGood with
    | none =>
      rw [SnapshotFiles.load_missing found]
      exact ⟨none, rfl, rfl⟩
    | some content =>
      have present : files.pointers .lastKnownGood ≠ none := by
        rw [found]
        exact Option.some_ne_none content
      obtain ⟨stored, loaded⟩ := sound.load present
      rw [loaded]
      exact ⟨some stored, rfl, rfl⟩
  obtain ⟨kept, loaded, missing⟩ := kept
  rw [step, loaded, PublishRequest.isFresh]
  cases state : request.sync "state" with
  | error fault => exact Or.inl ⟨fault, rfl⟩
  | ok value =>
    right
    simp only [bind, Except.bind, missing]
    cases isText "fresh" value || (files.pointers .lastKnownGood).isNone <;> rfl

end PublishRun

/-- What a publication that returns makes of the pointers of a sound store. -/
structure SnapshotFiles.Published (files later : SnapshotFiles)
    (request : PublishRequest platform) (manifest : SnapshotManifest) : Prop where
  sound : later.Sound platform
  formed : manifest.Sound platform
  current : later.pointers .current = some (manifestText manifest.fields)
  previous : files.pointers .current = none ∧
      later.pointers .previous = files.pointers .previous ∨
    ∃ before : SnapshotManifest, before.Sound platform ∧
      files.pointers .current = some (manifestText before.fields) ∧
      later.pointers .previous =
        if before.sha256 = manifest.sha256 then files.pointers .previous
        else some (manifestText before.fields)
  lastKnownGood : later.pointers .lastKnownGood =
    if request.isFresh || (files.pointers .lastKnownGood).isNone then
      some (manifestText manifest.fields)
    else files.pointers .lastKnownGood

/-- What a publication that returns has written. -/
theorem SnapshotFiles.publish_returned {files later : SnapshotFiles}
    {request : PublishRequest platform} {manifest : SnapshotManifest}
    (sound : files.Sound platform)
    (returned : files.publish allowDemo request = (.returned manifest, later)) :
    files.Published later request manifest := by
  rw [publish, Function.iterate_succ_apply] at returned
  have first : _ ∧ (PublishRun.storing.step allowDemo request files).1.Reached request
      (PublishRun.storing.step allowDemo request files).2 :=
    PublishRun.storing.step_sound allowDemo sound trivial
  rcases PublishRun.step_storing allowDemo request files with ⟨fault, raised⟩ | ⟨objects, stored⟩
  · rw [raised, iterate_raised] at returned
    cases returned
  rw [stored] at returned first
  rw [Function.iterate_succ_apply] at returned
  have second := PublishRun.archiving.step_sound allowDemo first.1 first.2
  rcases PublishRun.step_archiving allowDemo request { files with objects := objects } with
    ⟨fault, raised⟩ | ⟨made, manifests, archived⟩
  · rw [raised, iterate_raised] at returned
    cases returned
  rw [archived] at returned second
  rw [Function.iterate_succ_apply] at returned
  have third := (PublishRun.preceding made).step_sound allowDemo second.1 second.2
  obtain ⟨preceded, precedes, keptGood, previous⟩ :=
    PublishRun.step_preceding allowDemo request made second.1
  rw [precedes] at returned third
  rw [Function.iterate_succ_apply] at returned
  have fourth := (PublishRun.switching made).step_sound allowDemo third.1 third.2
  have switched : (PublishRun.switching made).step allowDemo request preceded =
      (.keeping made, preceded.writePointer .current made.fields) := rfl
  rw [switched] at returned fourth
  rw [Function.iterate_succ_apply, Function.iterate_zero, id] at returned
  have fifth := (PublishRun.keeping made).step_sound allowDemo fourth.1 fourth.2
  rcases PublishRun.step_keeping allowDemo request made fourth.1 with ⟨fault, raised⟩ | kept
  · rw [raised] at returned
    cases returned
  rw [returned] at kept fifth
  obtain ⟨same, behind⟩ := Prod.mk.inj kept
  obtain rfl := PublishRun.returned.inj same
  have good : (preceded.writePointer .current manifest.fields).pointers .lastKnownGood =
      files.pointers .lastKnownGood :=
    (SnapshotFiles.writePointer_ne manifest.fields (by decide)).trans keptGood
  have current := SnapshotFiles.writePointer_self preceded .current manifest.fields
  have isPrevious : (preceded.writePointer .current manifest.fields).pointers .previous =
      preceded.pointers .previous := SnapshotFiles.writePointer_ne manifest.fields (by decide)
  rw [good] at behind
  have others : ∀ pointer, pointer ≠ SnapshotPointer.lastKnownGood → later.pointers pointer =
      (preceded.writePointer .current manifest.fields).pointers pointer := by
    intro pointer different
    rw [behind]
    split_ifs
    · exact SnapshotFiles.writePointer_ne manifest.fields different
    · rfl
  refine ⟨fifth.1, fourth.2.2.sound, ?_, ?_, ?_⟩
  · rw [others .current (by decide)]
    exact current
  · rw [others .previous (by decide), isPrevious]
    exact previous
  · rw [behind]
    split_ifs
    · exact SnapshotFiles.writePointer_self _ _ _
    · exact good

/-! ## Histories of publications -/

/-- The store and the history behind a call of `publish` that returns. -/
def publishCompleted (allowDemo : Bool) (state : SnapshotFiles × List Publication)
    (request : PublishRequest platform) : Option (SnapshotFiles × List Publication) :=
  match state.1.publish allowDemo request with
  | (.returned manifest, later) => some (later, state.2 ++ [⟨manifest, request.isFresh⟩])
  | _ => none

/-- The store and the history behind calls of `publish` that all return. -/
def publishedAll (allowDemo : Bool) (requests : List (PublishRequest platform)) :
    Option (SnapshotFiles × List Publication) :=
  requests.foldlM (publishCompleted allowDemo) (.empty, [])

/-- The pointers are those of a history. -/
structure SnapshotFiles.Follows (files : SnapshotFiles) (history : List Publication) : Prop where
  current : files.pointers .current = history.getLast?.map Publication.text
  previous : files.pointers .previous = (lastOther history).map Publication.text
  lastKnownGood : files.pointers .lastKnownGood = (lastGood history).map Publication.text

/-- Two manifests with one text are of one snapshot. -/
theorem sha256_of_manifestText {first second : SnapshotManifest}
    (soundFirst : first.Sound platform) (soundSecond : second.Sound platform)
    (same : manifestText first.fields = manifestText second.fields) :
    first.sha256 = second.sha256 := by
  have decoded := soundFirst.decode ""
  rw [same, soundSecond.decode ""] at decoded
  have digest := congrArg (getField "sha256") (Except.ok.inj decoded)
  exact (Json.str.inj digest).symm

/-- A publication that returns behind a history. -/
theorem SnapshotFiles.Follows.publish {files later : SnapshotFiles} {history : List Publication}
    {request : PublishRequest platform} {manifest : SnapshotManifest}
    (follows : files.Follows history)
    (formed : ∀ publication ∈ history, publication.manifest.Sound platform)
    (published : files.Published later request manifest) :
    later.Follows (history ++ [⟨manifest, request.isFresh⟩]) := by
  refine ⟨?_, ?_, ?_⟩
  · rw [List.getLast?_append]
    exact published.current
  · rw [lastOther_concat]
    rcases published.previous with ⟨absent, kept⟩ | ⟨before, soundBefore, present, replaced⟩
    · rw [kept]
      rw [follows.current, Option.map_eq_none_iff] at absent
      rw [follows.previous, lastOther, absent]
      rfl
    · rw [follows.current] at present
      obtain ⟨last, isLast, same⟩ := Option.map_eq_some_iff.mp present
      have soundLast := formed last (List.mem_of_getLast? isLast)
      have digest := sha256_of_manifestText soundLast soundBefore same
      rw [replaced, ← digest, ← same, isLast, follows.previous]
      simp only
      split_ifs <;> rfl
  · rw [published.lastKnownGood, lastGood_concat, follows.lastKnownGood, Option.isNone_map]
    simp only
    split_ifs <;> rfl

/-- What completed publications build. -/
theorem publishedAll_sound (allowDemo : Bool) {requests : List (PublishRequest platform)}
    {files : SnapshotFiles} {history : List Publication}
    (completed : publishedAll allowDemo requests = some (files, history)) :
    files.Sound platform ∧ files.Follows history ∧
      (∀ publication ∈ history, publication.manifest.Sound platform) ∧
      history.length = requests.length := by
  induction requests using List.reverseRecOn generalizing files history with
  | nil =>
    obtain ⟨rfl, rfl⟩ := Prod.mk.inj (Option.some.inj completed)
    exact ⟨SnapshotFiles.sound_empty, ⟨rfl, rfl, rfl⟩,
      fun _ member => absurd member List.not_mem_nil, rfl⟩
  | append_singleton requests request ih =>
    rw [publishedAll, List.foldlM_append] at completed
    obtain ⟨⟨before, earlier⟩, done, last⟩ := Option.bind_eq_some_iff.mp completed
    obtain ⟨sound, follows, formed, length⟩ := ih done
    rw [List.foldlM_cons] at last
    obtain ⟨next, called, same⟩ := Option.bind_eq_some_iff.mp last
    obtain rfl := Option.some.inj same
    rw [publishCompleted] at called
    split at called
    · rename_i manifest later returned
      obtain ⟨rfl, rfl⟩ := Prod.mk.inj (Option.some.inj called)
      have published := SnapshotFiles.publish_returned sound returned
      refine ⟨published.sound, follows.publish formed published, ?_, ?_⟩
      · intro publication member
        rcases List.mem_append.mp member with inside | new
        · exact formed publication inside
        · rw [List.mem_singleton.mp new]
          exact published.formed
      · rw [List.length_append, List.length_append, length]
        rfl
    · cases called

/-- A snapshot that is not fresh. -/
def staleSnapshot : Json :=
  .obj [("schema_version", .str "2.0"), ("snapshot_id", .str "turno"),
    ("sync", .obj [("collector_version", .str "1.0"), ("publication_mode", .str "real_only"),
      ("state", .str "stale")])]

/-- The digest of the stale snapshot. -/
def staleDigest : String := "71902b01e85ae50b8bfc7b287168aecd0cc2ce59f62fac2995cca4dc24614d36"

/-- The digest of its manifest. -/
def staleManifestDigest : String :=
  "55220ead937d686bb4a945bb95059ea0228b6afbc8639ad041d3549cd0e9c45a"

/-- They are digests. -/
theorem staleDigests_isDigest (text : Text) : isDigestBody
    (if text = dumps false staleSnapshot ++ ['\n'] then staleDigest
      else staleManifestDigest).toList = true := by
  split_ifs <;> decide +kernel

/-- A text is rendered as itself. -/
theorem textOr_text (text : String) :
    (fun value => match value with
      | Json.str text => text
      | _ => "") (Json.str text) = text := rfl

/-- A store whose contract accepts every snapshot, with the digests of the stale one. -/
def plainStore : SnapshotPlatform where
  rounding := id
  sha256Text := fun text =>
    if text = dumps false staleSnapshot ++ ['\n'] then staleDigest else staleManifestDigest
  sha256_isDigest := staleDigests_isDigest
  str := fun value => match value with
    | .str text => text
    | _ => ""
  str_text := textOr_text
  valid := fun _ => true

/-- The stale snapshot can be stored. -/
theorem staleSnapshot_storable : Storable plainStore.rounding staleSnapshot := by
  have sync : Storable plainStore.rounding (.obj [("collector_version", .str "1.0"),
      ("publication_mode", .str "real_only"), ("state", .str "stale")]) := by
    apply storable_obj (by decide)
    simp
  apply storable_obj (by decide)
  simp [sync]

/-- The publication of the stale snapshot. -/
def staleRequest : PublishRequest plainStore where
  snapshot := staleSnapshot
  storable := staleSnapshot_storable
  publishedAt := some "2026-01-01T00:00:00Z"

/-- The pointers behind completed publications into an empty store: `current` names the last one,
`previous` the last one of another snapshot, which is there exactly when two different snapshots
were published, and `last_known_good` the last fresh one, or the first one where none was. -/
theorem pointers_follow_history (platform : SnapshotPlatform) (allowDemo : Bool)
    (requests : List (PublishRequest platform)) (files : SnapshotFiles)
    (history : List Publication)
    (completed : publishedAll allowDemo requests = some (files, history)) :
    files.Follows history ∧ history.length = requests.length ∧
      (files.pointers .previous ≠ none ↔ ∃ first ∈ history, ∃ second ∈ history,
        first.manifest.sha256 ≠ second.manifest.sha256) := by
  obtain ⟨_, follows, _, length⟩ := publishedAll_sound allowDemo completed
  refine ⟨follows, length, ?_⟩
  rw [follows.previous, ← lastOther_isSome, ne_eq, Option.map_eq_none_iff,
    Option.isSome_iff_ne_none]

/-- The snapshot of a name, in a state. -/
def weekSnapshot (name state : String) : Json :=
  .obj [("schema_version", .str "2.0"), ("snapshot_id", .str name),
    ("sync", .obj [("collector_version", .str "1.0"), ("publication_mode", .str "real_only"),
      ("state", .str state)])]

/-- A digest that tells short texts apart. -/
def weekDigest (text : Text) : String :=
  String.ofList (Library.digits 64 (text.foldr (fun c sum => sum * 131 + c.toNat) 0))

/-- A store whose contract accepts every snapshot, with this digest. -/
def weekStore : SnapshotPlatform :=
  { plainStore with
    sha256Text := weekDigest
    sha256_isDigest := fun _ => (congrArg isDigestBody String.toList_ofList).trans
      (isDigestBody_digits _) }

/-- The publication of a snapshot on a day of the week. -/
def weekRequest (name state publishedAt : String) : PublishRequest weekStore where
  snapshot := weekSnapshot name state
  storable := by
    have sync : Storable weekStore.rounding (.obj [("collector_version", .str "1.0"),
        ("publication_mode", .str "real_only"), ("state", .str state)]) := by
      refine storable_obj ?_ ?_
      · show ["collector_version", "publication_mode", "state"].Pairwise (· < ·)
        decide
      · simp
    refine storable_obj ?_ ?_
    · show ["schema_version", "snapshot_id", "sync"].Pairwise (· < ·)
      decide
    · simp [sync]
  publishedAt := some publishedAt

/-- A stale snapshot, a fresh one, and the stale one again. -/
def weekRequests : List (PublishRequest weekStore) :=
  [weekRequest "lun" "stale" "2026-01-05T00:00:00Z",
    weekRequest "mar" "fresh" "2026-01-06T00:00:00Z",
    weekRequest "lun" "stale" "2026-01-07T00:00:00Z"]

/-- The three publications complete, and the digest of the first one comes back. -/
theorem week_completes : (publishedAll false weekRequests).map (fun state =>
    state.2.map fun publication => publication.manifest.sha256) =
      some (weekRequests.map PublishRequest.digest) := by
  decide +kernel

/-- The pointers follow the three publications. -/
theorem pointers_follow_week : ∃ files history,
    publishedAll false weekRequests = some (files, history) ∧
      history.map (fun publication => publication.manifest.sha256) =
        weekRequests.map PublishRequest.digest ∧
      files.Follows history ∧ history.length = 3 ∧ files.pointers .previous ≠ none := by
  obtain ⟨⟨files, history⟩, completed, digests⟩ := Option.map_eq_some_iff.mp week_completes
  have holds := pointers_follow_history weekStore false weekRequests files history completed
  have held : ∀ request ∈ weekRequests, ∃ publication ∈ history,
      publication.manifest.sha256 = request.digest := by
    intro request member
    apply List.mem_map.mp
    rw [digests]
    exact List.mem_map_of_mem member
  obtain ⟨first, firstMember, firstDigest⟩ := held _ List.mem_cons_self
  obtain ⟨second, secondMember, secondDigest⟩ :=
    held _ (List.mem_cons_of_mem _ List.mem_cons_self)
  refine ⟨files, history, completed, digests, holds.1, holds.2.1, ?_⟩
  apply holds.2.2.mpr
  refine ⟨first, firstMember, second, secondMember, ?_⟩
  rw [firstDigest, secondDigest]
  decide +kernel

end DTLab
