import DTLab.Collector.Client
import Mathlib.Data.List.Nodup

/-!
# What the pages of a server amount to

A page that is shorter than the one asked for ends the loop of `classic_pages`, so a server that
serves less than it is asked for is read to the end of its first page only. The cursors that
`new_ui_pages` follows are new each time, and what it returns was served to the last page.
-/

namespace DTLab.Collector

open Library (Json)

variable {platform : ClientPlatform} {config : ClientConfig}

/-! ## Pages by number -/

/-- Records that are all new, of different keys, are all kept. -/
theorem freshRecords_of_new (items : List Json) (seen : List String)
    (unseen : ∀ item ∈ items, recordKey platform item ∉ seen)
    (distinct : (items.map (recordKey platform)).Nodup) :
    (freshRecords platform seen items).1 = items ∧
      ∀ key, key ∈ (freshRecords platform seen items).2 ↔
        key ∈ seen ∨ key ∈ items.map (recordKey platform) := by
  induction items generalizing seen with
  | nil =>
    refine ⟨rfl, fun key => ?_⟩
    simp [freshRecords]
  | cons item rest ih =>
    have different := List.nodup_cons.mp distinct
    have later : ∀ other ∈ rest, recordKey platform other ∉ recordKey platform item :: seen := by
      intro other member found
      rcases List.mem_cons.mp found with same | earlier
      · exact different.1 (same ▸ List.mem_map_of_mem member)
      · exact unseen other (List.mem_cons_of_mem item member) earlier
    have known := ih (recordKey platform item :: seen) later different.2
    have first : recordKey platform item ∉ seen := unseen item List.mem_cons_self
    rw [freshRecords, if_neg first]
    refine ⟨congrArg (item :: ·) known.1, fun key => ?_⟩
    rw [known.2 key, List.mem_cons, List.map_cons, List.mem_cons]
    tauto

/-- A page of a server that serves records of a list in blocks. -/
def block (records : List Json) (size page : Nat) : List Json :=
  (records.drop ((page - 1) * size)).take size

/-- A server that holds a list and serves blocks of the size asked for, or of its own if that is
less. -/
def Serves (server : Nat → Nat → Except Raised Json) (records : List Json) (cap : Nat) : Prop :=
  ∀ page size, 1 ≤ page → ∃ payload,
    server page size = .ok payload ∧ extractItems payload = .ok (block records (min size cap) page)

/-- What a server of blocks gives the loop. -/
theorem Serves.items {server : Nat → Nat → Except Raised Json} {records : List Json} {cap : Nat}
    (serves : Serves server records cap) (page size : Nat) :
    (server (page + 1) size).bind extractItems = .ok (block records (min size cap) (page + 1)) := by
  obtain ⟨payload, answered, extracted⟩ := serves (page + 1) size (Nat.le_add_left 1 page)
  rw [answered]
  exact extracted

/-- The length of a block. -/
theorem length_block (records : List Json) (size page : Nat) :
    (block records size (page + 1)).length = min size (records.length - page * size) := by
  rw [block, List.length_take, List.length_drop, Nat.add_sub_cancel]

/-- A list up to the end of a block. -/
theorem take_block (records : List Json) (size page : Nat) :
    records.take (page * size) ++ block records size (page + 1) =
      records.take ((page + 1) * size) := by
  rw [block, Nat.add_sub_cancel, Nat.succ_mul, List.take_add]

/-- The records of a block are none of those before it. -/
theorem block_unseen {records : List Json} {size page : Nat} {seen : List String}
    (distinct : (records.map (recordKey platform)).Nodup)
    (known : ∀ key, key ∈ seen ↔ key ∈ (records.take (page * size)).map (recordKey platform)) :
    (∀ item ∈ block records size (page + 1), recordKey platform item ∉ seen) ∧
      ((block records size (page + 1)).map (recordKey platform)).Nodup := by
  have whole : ((records.take (page * size) ++ block records size (page + 1)).map
      (recordKey platform)).Nodup := by
    rw [take_block]
    exact distinct.sublist ((List.take_sublist _ records).map _)
  rw [List.map_append, List.nodup_append] at whole
  refine ⟨fun item member found => ?_, whole.2.1⟩
  exact whole.2.2 _ ((known _).mp found) _ (List.mem_map_of_mem member) rfl

/-- Where the server serves what it is asked for, the loop reads on to the end of the list, if the
pages that are left reach it. -/
theorem classicLoop_of_full (path : String) {server : Nat → Nat → Except Raised Json}
    {records : List Json} {cap : Nat} (serves : Serves server records cap)
    (wide : config.pageSize ≤ cap) (distinct : (records.map (recordKey platform)).Nodup)
    (left page : Nat) (seen : List String)
    (reached : page * config.pageSize ≤ records.length)
    (known : ∀ key, key ∈ seen ↔
      key ∈ (records.take (page * config.pageSize)).map (recordKey platform)) :
    classicLoop platform config server path left (page + 1)
        (records.take (page * config.pageSize)) seen =
      if records.length < (page + left) * config.pageSize then .ok records
      else .error (paginationLimit config path) := by
  have positive := config.pageSize_range.1
  induction left generalizing page seen with
  | zero =>
    have beyond : ¬ records.length < (page + 0) * config.pageSize := Nat.not_lt.mpr reached
    rw [if_neg beyond]
    rfl
  | succ left ih =>
    have size : min config.pageSize cap = config.pageSize := Nat.min_eq_left wide
    have items := serves.items page config.pageSize
    have long := length_block records config.pageSize page
    have following : (page + 1) * config.pageSize = page * config.pageSize + config.pageSize :=
      Nat.succ_mul page config.pageSize
    have further : (page + 1) * config.pageSize ≤ (page + (left + 1)) * config.pageSize :=
      Nat.mul_le_mul_right config.pageSize (by omega)
    rw [size] at items
    rw [classicLoop, items]
    dsimp only
    by_cases ended : records.length < (page + 1) * config.pageSize
    -- The page is short, and what is read with it is the whole list.
    · have all : records.take (page * config.pageSize) ++
          block records config.pageSize (page + 1) = records := by
        rw [take_block]
        exact List.take_of_length_le (Nat.le_of_lt ended)
      rw [if_pos (Nat.lt_of_lt_of_le ended further)]
      by_cases none : (block records config.pageSize (page + 1)).isEmpty = true
      · rw [if_pos none]
        rw [List.isEmpty_iff.mp none, List.append_nil] at all
        rw [all]
      · have fresh := block_unseen distinct known
        have short : (block records config.pageSize (page + 1)).length < config.pageSize := by omega
        rw [if_neg none, if_pos (Or.inl short),
          (freshRecords_of_new _ seen fresh.1 fresh.2).1, all]
    -- The page is full, and all its records are new.
    · have fresh := block_unseen distinct known
      have kept := freshRecords_of_new _ seen fresh.1 fresh.2
      have full : (block records config.pageSize (page + 1)).length = config.pageSize := by omega
      have some : ¬ (block records config.pageSize (page + 1)).isEmpty = true := by
        intro empty
        rw [List.isEmpty_iff.mp empty, List.length_nil] at full
        omega
      have goes : ¬ ((block records config.pageSize (page + 1)).length < config.pageSize ∨
          (freshRecords platform seen
            (block records config.pageSize (page + 1))).1.isEmpty = true) := by
        rw [kept.1]
        exact not_or.mpr ⟨by omega, some⟩
      rw [if_neg some, if_neg goes, kept.1, take_block]
      have after := ih (page + 1) (freshRecords platform seen
        (block records config.pageSize (page + 1))).2 (Nat.le_of_not_lt ended) (fun key => by
          rw [kept.2 key, known key, ← List.mem_append, ← List.map_append, take_block])
      rw [after]
      have pages : page + 1 + left = page + (left + 1) := by omega
      rw [pages]

/-- Where the server serves less than it is asked for, the first page is all that is read. -/
theorem classicPages_of_capped (path : String) {server : Nat → Nat → Except Raised Json}
    {records : List Json} {cap : Nat} (serves : Serves server records cap)
    (narrow : cap < config.pageSize) (distinct : (records.map (recordKey platform)).Nodup) :
    classicPages platform config server path = .ok (records.take cap) := by
  have size : min config.pageSize cap = cap := Nat.min_eq_right (Nat.le_of_lt narrow)
  have items := serves.items 0 config.pageSize
  rw [size] at items
  have first : block records cap (0 + 1) = records.take cap := by
    rw [block, Nat.add_sub_cancel, Nat.zero_mul, List.drop_zero]
  obtain ⟨left, pages⟩ : ∃ left, config.maxPages = left + 1 :=
    ⟨config.maxPages - 1, by have := config.maxPages_positive; omega⟩
  rw [first] at items
  rw [classicPages, pages, classicLoop, items]
  dsimp only
  have new : ∀ item ∈ records.take cap, recordKey platform item ∉ [] :=
    fun item _ => List.not_mem_nil
  have different : ((records.take cap).map (recordKey platform)).Nodup :=
    distinct.sublist ((List.take_sublist cap records).map _)
  by_cases none : (records.take cap).isEmpty = true
  · rw [if_pos none, List.isEmpty_iff.mp none]
  · have short : (records.take cap).length < config.pageSize := by
      rw [List.length_take]
      omega
    rw [if_neg none, if_pos (Or.inl short), (freshRecords_of_new _ [] new different).1,
      List.nil_append]

/-- Where the server serves what it is asked for, all its records are read, if there are pages
enough. -/
theorem classicPages_of_full (path : String) {server : Nat → Nat → Except Raised Json}
    {records : List Json} {cap : Nat} (serves : Serves server records cap)
    (wide : config.pageSize ≤ cap) (distinct : (records.map (recordKey platform)).Nodup) :
    classicPages platform config server path =
      if records.length < config.pageSize * config.maxPages then .ok records
      else .error (paginationLimit config path) := by
  have start : 0 * config.pageSize ≤ records.length := by
    rw [Nat.zero_mul]
    exact Nat.zero_le records.length
  have nothing : records.take (0 * config.pageSize) = [] := by
    rw [Nat.zero_mul, List.take_zero]
  have read := classicLoop_of_full path serves wide distinct config.maxPages 0 [] start
    (fun key => by rw [nothing]; rfl)
  rw [nothing, Nat.zero_add, Nat.zero_add, Nat.mul_comm] at read
  exact read

/-- `classic_pages` returns every record of a server of blocks or raises, and returns them where its
pages reach beyond them, exactly if the server serves pages of the size asked for or holds no more
than it serves at once. -/
theorem classicPages_complete_iff (platform : ClientPlatform) (config : ClientConfig)
    (path : String) (server : Nat → Nat → Except Raised Json) (records : List Json) (cap : Nat)
    (serves : Serves server records cap) (distinct : (records.map (recordKey platform)).Nodup) :
    ((∀ returned, classicPages platform config server path = .ok returned → returned = records) ∧
      (records.length < min config.pageSize cap * config.maxPages →
        classicPages platform config server path = .ok records)) ↔
      (config.pageSize ≤ cap ∨ records.length ≤ cap) := by
  by_cases wide : config.pageSize ≤ cap
  · have read := classicPages_of_full path serves wide distinct
    refine ⟨fun _ => Or.inl wide, fun _ => ⟨fun returned outcome => ?_, fun few => ?_⟩⟩
    · rw [read] at outcome
      by_cases few : records.length < config.pageSize * config.maxPages
      · rw [if_pos few] at outcome
        exact (Except.ok.inj outcome).symm
      · rw [if_neg few] at outcome
        cases outcome
    · rw [Nat.min_eq_left wide] at few
      rw [read, if_pos few]
  · have narrow : cap < config.pageSize := Nat.lt_of_not_le wide
    have read := classicPages_of_capped path serves narrow distinct
    constructor
    · intro complete
      have same : records.take cap = records := complete.1 _ read
      exact Or.inr (List.take_eq_self_iff records |>.mp same)
    · intro small
      have few : records.length ≤ cap := small.resolve_left wide
      rw [List.take_of_length_le few] at read
      exact ⟨fun returned outcome => Except.ok.inj (outcome.symm.trans read), fun _ => read⟩

/-- The server of blocks that answers with a bare list. -/
def blockServer (records : List Json) (cap : Nat) (page size : Nat) : Except Raised Json :=
  .ok (.arr (block records (min size cap) page))

/-- It is one. -/
theorem serves_blockServer (records : List Json) (cap : Nat) :
    Serves (blockServer records cap) records cap := by
  intro page size _
  exact ⟨.arr (block records (min size cap) page), rfl, rfl⟩

/-- A platform whose texts are JSON and whose addresses are never split. -/
def plainClient : ClientPlatform where
  str value := String.ofList (value.dumps true)
  repr value := String.ofList (value.dumps true)
  lower text := String.ofList (text.toList.map Char.toLower)
  parseHeaderLinks _ := some []
  urlsplit _ := none
  urljoin _ _ := none
  parseQs _ := []

/-- Pages of two records. -/
def pairPages : ClientConfig where
  baseUrl := "https://cybervision.example"
  pageSize := 2
  maxPages := 500
  pageSize_range := by decide
  maxPages_positive := by decide

/-- Two devices. -/
def twoDevices : List Json := [.obj [("id", .int 1)], .obj [("id", .int 2)]]

/-- A server that holds two devices and serves both at once is read to its end. -/
theorem classicPages_complete_two :
    (∀ returned, classicPages plainClient pairPages (blockServer twoDevices 2) "/devices" =
        .ok returned → returned = twoDevices) ∧
      (twoDevices.length < min 2 2 * 500 →
        classicPages plainClient pairPages (blockServer twoDevices 2) "/devices" =
          .ok twoDevices) :=
  (classicPages_complete_iff plainClient pairPages "/devices" (blockServer twoDevices 2) twoDevices
    2 (serves_blockServer twoDevices 2) (by decide)).mpr (Or.inl (by decide))

/-- A server that serves one device at a time is read to the end of its first page, and the other
device is missing without an error. -/
theorem classicPages_truncated :
    Serves (blockServer twoDevices 1) twoDevices 1 ∧
      (twoDevices.map (recordKey plainClient)).Nodup ∧
      classicPages plainClient pairPages (blockServer twoDevices 1) "/devices" =
        .ok (twoDevices.take 1) ∧
      twoDevices.take 1 ≠ twoDevices :=
  ⟨serves_blockServer twoDevices 1, by decide, by rfl,
    fun same => absurd (congrArg List.length same) (by decide)⟩

/-! ## Pages by cursor -/

/-- The items of an answer. -/
def pageItems (response : Response) : List Json :=
  ((newUiPage response.payload).map Prod.snd).getD []

/-- Setting a member gives it. -/
theorem get_setMember (fields : List (String × Json)) (key : String) (value : Json) :
    (Json.obj (setMember fields key value)).get key = some value := by
  rw [Library.Json.get_obj, setMember]
  by_cases present : (fields.lookup key).isSome = true
  · rw [if_pos present]
    induction fields with
    | nil => cases present
    | cons field rest ih =>
      obtain ⟨name, old⟩ := field
      rw [List.map_cons]
      by_cases here : name = key
      · rw [if_pos here, List.lookup_cons_self]
      · have other : (key == name) = false := beq_eq_false_iff_ne.mpr (Ne.symm here)
        rw [List.lookup_cons, other] at present
        rw [if_neg here, List.lookup_cons, other]
        exact ih present
  · have absent : fields.lookup key = none := Option.not_isSome_iff_eq_none.mp present
    rw [if_neg present, List.lookup_append, absent, List.lookup_cons_self]
    rfl

/-- What holds of the requests and the answers at every turn of the loop. -/
structure Exchanged (server : List (Option String) → Except Raised Response)
    (requested : List (Option String)) (served : List Response) : Prop where
  /-- No cursor is asked for twice. -/
  distinct : requested.Nodup
  /-- The answers are the server's, in the order of the requests. -/
  answers : ∀ index response, served[index]? = some response →
    server (requested.take (index + 1)) = .ok response

/-- What the loop keeps from one turn to the next. -/
structure Underway (server : List (Option String) → Except Raised Response) (progress : Progress) :
    Prop extends Exchanged server progress.requested progress.served where
  /-- Every request was answered. -/
  answered : progress.served.length = progress.requested.length
  /-- The items are those of the answers. -/
  collected : progress.items = progress.served.flatMap pageItems
  /-- The next cursor is new. -/
  new : progress.cursor ∉ progress.requested
  /-- The texts among the cursors are those seen. -/
  known : ∀ cursor, some cursor ∈ progress.requested ++ [progress.cursor] → cursor ∈ progress.seen

/-- A finished visit: what it asked for and was given, and what a returned envelope says. -/
structure Finished (platform : ClientPlatform) (expectedUrl : String)
    (server : List (Option String) → Except Raised Response) (visit : Visit) : Prop
    extends Exchanged server visit.requested visit.served where
  /-- Every request was answered with a page, the last of them without a next page, and the items
  returned are those of all the pages. -/
  returned : ∀ envelope, visit.outcome = .ok envelope →
    visit.served.length = visit.requested.length ∧
      envelope.get "items" = some (.arr (visit.served.flatMap pageItems)) ∧
      ∃ last, visit.served.getLast? = some last ∧
        newUiNextCursor platform last.link expectedUrl = .ok none

variable {server : List (Option String) → Except Raised Response} {expectedUrl : String}

/-- A request that is not answered leaves the answers before it. -/
theorem Underway.asked {progress : Progress} (underway : Underway server progress) :
    Exchanged server (progress.requested ++ [progress.cursor]) progress.served where
  distinct := by
    rw [List.nodup_append]
    refine ⟨underway.distinct, List.nodup_singleton _, fun cursor member other last same => ?_⟩
    rw [List.mem_singleton] at last
    exact underway.new (last ▸ same ▸ member)
  answers index response found := by
    have inside : index < progress.served.length := (List.getElem?_eq_some_iff.mp found).1
    have length := underway.answered
    rw [List.take_append_of_le_length (by omega)]
    exact underway.answers index response found

/-- An answer is added to those before it. -/
theorem Underway.given {progress : Progress} (underway : Underway server progress)
    {response : Response}
    (answer : server (progress.requested ++ [progress.cursor]) = .ok response) :
    Exchanged server (progress.requested ++ [progress.cursor]) (progress.served ++ [response]) where
  distinct := underway.asked.distinct
  answers index other found := by
    have length := underway.answered
    by_cases earlier : index < progress.served.length
    · rw [List.getElem?_append_left earlier] at found
      exact underway.asked.answers index other found
    · have bound := (List.getElem?_eq_some_iff.mp found).1
      rw [List.length_append, List.length_singleton] at bound
      have last : index = progress.served.length := by omega
      rw [last, List.getElem?_concat_length] at found
      rw [← Option.some.inj found, List.take_of_length_le, answer]
      rw [List.length_append, List.length_singleton]
      omega

/-- A visit that raises is finished. -/
theorem Finished.of_raised {requested : List (Option String)} {served : List Response}
    (exchanged : Exchanged server requested served) (raised : Raised) :
    Finished platform expectedUrl server ⟨requested, served, .error raised⟩ where
  toExchanged := exchanged
  returned _ outcome := by cases outcome

/-- A page and a cursor that is new take the loop one turn further. -/
theorem Underway.next {progress : Progress} (underway : Underway server progress)
    (envelope : Option (List (String × Json))) {response : Response}
    {fields : List (String × Json)} {page : List Json} {cursor : String}
    (answer : server (progress.requested ++ [progress.cursor]) = .ok response)
    (paged : newUiPage response.payload = some (fields, page)) (fresh : cursor ∉ progress.seen) :
    Underway server
      ⟨some cursor, cursor :: progress.seen, envelope, progress.items ++ page,
        progress.requested ++ [progress.cursor], progress.served ++ [response]⟩ where
  toExchanged := underway.given answer
  answered := by
    rw [List.length_append, List.length_append, underway.answered]
    rfl
  collected := by
    have last : pageItems response = page := by
      rw [pageItems, paged]
      rfl
    rw [List.flatMap_append, ← underway.collected, List.flatMap_singleton, last]
  new found := fresh (underway.known cursor found)
  known other member := by
    rcases List.mem_append.mp member with earlier | last
    · exact List.mem_cons_of_mem cursor (underway.known other earlier)
    · rw [List.mem_singleton] at last
      rw [Option.some.inj last]
      exact List.mem_cons_self

/-- The loop ends with a finished visit, within the pages that are left. -/
theorem newUiLoop_finished (platform : ClientPlatform) (config : ClientConfig)
    (path expectedUrl : String) (left : Nat) (progress : Progress)
    (underway : Underway server progress) :
    Finished platform expectedUrl server
        (newUiLoop platform config server path expectedUrl left progress) ∧
      (newUiLoop platform config server path expectedUrl left progress).requested.length ≤
        progress.requested.length + left := by
  induction left generalizing progress with
  | zero => exact ⟨Finished.of_raised underway.toExchanged _, Nat.le_refl _⟩
  | succ left ih =>
    have longer : (progress.requested ++ [progress.cursor]).length =
        progress.requested.length + 1 := by
      rw [List.length_append, List.length_singleton]
    rw [newUiLoop]
    dsimp only
    cases answer : server (progress.requested ++ [progress.cursor]) with
    | error raised => exact ⟨Finished.of_raised underway.asked raised, by dsimp only; omega⟩
    | ok response =>
      have given := underway.given answer
      dsimp only
      cases paged : newUiPage response.payload with
      | none => exact ⟨Finished.of_raised given _, by dsimp only; omega⟩
      | some page =>
        obtain ⟨fields, page⟩ := page
        dsimp only
        cases next : newUiNextCursor platform response.link expectedUrl with
        | error raised => exact ⟨Finished.of_raised given raised, by dsimp only; omega⟩
        | ok cursor =>
          cases cursor with
          | none =>
            refine ⟨⟨given, fun envelope outcome => ?_⟩, by dsimp only; omega⟩
            have last : pageItems response = page := by
              rw [pageItems, paged]
              rfl
            rw [← Except.ok.inj outcome]
            refine ⟨?_, ?_, response, List.getLast?_concat, next⟩
            · rw [longer, List.length_append, underway.answered]
              rfl
            · rw [get_setMember, List.flatMap_append, ← underway.collected,
                List.flatMap_singleton, last]
          | some cursor =>
            dsimp only
            by_cases repeated : cursor ∈ progress.seen
            · rw [if_pos repeated]
              exact ⟨Finished.of_raised given _, by dsimp only; omega⟩
            · rw [if_neg repeated]
              have after := ih _ (underway.next
                (some (progress.envelope.getD (withoutCursors platform fields)))
                answer paged repeated)
              dsimp only at after
              exact ⟨after.1, by omega⟩

/-- `new_ui_pages` asks for no more than its limit of pages and for no cursor twice, whatever the
server answers. It raises, or every request was answered, the last answer has no next page, and the
items returned are those of all the answers in their order. -/
theorem newUiPages_exhaustive (platform : ClientPlatform) (config : ClientConfig)
    (server : List (Option String) → Except Raised Response) (path : String)
    (initial : Option String) :
    let visit := newUiPages platform config server path initial
    visit.requested.length ≤ config.maxPages ∧ visit.requested.Nodup ∧
      (∀ index response, visit.served[index]? = some response →
        server (visit.requested.take (index + 1)) = .ok response) ∧
      ∀ envelope, visit.outcome = .ok envelope →
        visit.served.length = visit.requested.length ∧
          envelope.get "items" = some (.arr (visit.served.flatMap pageItems)) ∧
          ∃ expectedUrl last, newUiUrl config path = .ok expectedUrl ∧
            visit.served.getLast? = some last ∧
            newUiNextCursor platform last.link expectedUrl = .ok none := by
  intro visit
  cases address : newUiUrl config path with
  | error raised =>
    have stopped : visit = ⟨[], [], .error raised⟩ := by
      show newUiPages platform config server path initial = _
      rw [newUiPages, address]
    rw [stopped]
    refine ⟨Nat.zero_le _, List.nodup_nil, fun index response found => ?_, fun _ outcome => ?_⟩
    · cases found
    · cases outcome
  | ok expectedUrl =>
    have run : visit = newUiLoop platform config server path expectedUrl config.maxPages
        ⟨initial, initial.toList, none, [], [], []⟩ := by
      show newUiPages platform config server path initial = _
      rw [newUiPages, address]
    have start : Underway server ⟨initial, initial.toList, none, [], [], []⟩ := by
      refine ⟨⟨List.nodup_nil, fun index response found => ?_⟩, rfl, rfl, List.not_mem_nil,
        fun cursor member => ?_⟩
      · cases found
      · rw [List.nil_append, List.mem_singleton] at member
        exact Option.mem_toList.mpr member.symm
    have finished := newUiLoop_finished platform config path expectedUrl config.maxPages _ start
    rw [← run] at finished
    refine ⟨?_, finished.1.distinct, finished.1.answers, fun envelope outcome => ?_⟩
    · have bound := finished.2
      rw [List.length_nil] at bound
      omega
    · have returned := finished.1.returned envelope outcome
      obtain ⟨last, ended, final⟩ := returned.2.2
      exact ⟨returned.1, returned.2.1, expectedUrl, last, rfl, ended, final⟩

end DTLab.Collector
