import DTLab.Library.JsonScan
import DTLab.Spool.Append

/-!
# Torn lines and the chain of the file

Whatever appends, failures, crashes and reopenings did to the file, it begins with the lines of
a chain of events, and the reader never gets past them: what follows is a torn line without its
newline, or a line that is refused. The chain only grows, and it is a beginning of the events
whose whole lines reached the file.
-/

namespace DTLab

open Library (Text Json Scan linesOf linesOf_line linesOf_tail Delimited)
open Library.Scan (AtLeast run_append)
open Library.HashChain (tip_nil tip_concat)
open Library.Json (loads loads_extra loads_open atLeast_torn atLeast_more)

variable (settings : SpoolSettings)

/-! ## Torn records -/

/-- A torn line that no record completes: it leaves a bracket open, or it is a whole record
without its newline, maybe with torn records behind it. -/
def Spoiled (torn : Text) : Prop :=
  AtLeast 1 ((Scan.outside 0).run torn) ∨
    ∃ hash event more, torn = recordText settings hash event ++ more ∧ ∀ c ∈ more.head?, c = '{'

/-- The text of a record begins with the key of its event. -/
theorem recordText_key (hash : String) (event : EventDocument settings.rounding) :
    ∃ rest, recordText settings hash event = '{' :: '"' :: 'e' :: rest := ⟨_, rfl⟩

/-- A beginning of a record with something in it. -/
theorem spoiled_record {hash : String} {event : EventDocument settings.rounding} {front : Text}
    (inside : front <+: recordText settings hash event) (begun : front ≠ []) :
    Spoiled settings front := by
  obtain ⟨missing, whole⟩ := inside
  by_cases torn : missing = []
  · refine Or.inr ⟨hash, event, [], ?_, by simp⟩
    rw [List.append_nil, ← whole, torn, List.append_nil]
  · have formed := signedEnvelope_wellFormed settings hash event
    exact Or.inl (atLeast_torn true formed whole.symm begun torn)

/-- A spoiled line with the beginning of one more record. -/
theorem Spoiled.append {torn : Text} (spoiled : Spoiled settings torn) {hash : String}
    {event : EventDocument settings.rounding} {front : Text}
    (inside : front <+: recordText settings hash event) : Spoiled settings (torn ++ front) := by
  rcases spoiled with opened | ⟨first, firstEvent, more, rfl, brace⟩
  · have formed := signedEnvelope_wellFormed settings hash event
    obtain ⟨rest, key⟩ := recordText_key settings hash event
    have line : front <+: recordText settings hash event ++ ['\n'] :=
      inside.trans (List.prefix_append _ _)
    refine Or.inl ?_
    rw [run_append]
    exact atLeast_more true formed key (by decide) line opened
  · refine Or.inr ⟨first, firstEvent, more ++ front, List.append_assoc _ _ _, ?_⟩
    cases more with
    | cons d more => exact brace
    | nil =>
      intro c head
      cases front with
      | nil => cases head
      | cons d front =>
        obtain ⟨rest, object⟩ := recordText_eq_cons settings hash event
        rw [object] at inside
        obtain ⟨same, -⟩ := List.cons_prefix_cons.mp inside
        exact (Option.some.inj head).symm.trans same

/-- A record that completes a spoiled line is refused with it. -/
theorem Spoiled.refused {torn : Text} (spoiled : Spoiled settings torn) (hash : String)
    (event : EventDocument settings.rounding) :
    loads settings.rounding (torn ++ (recordText settings hash event ++ ['\n'])) = none := by
  rcases spoiled with opened | ⟨first, firstEvent, more, rfl, brace⟩
  · have formed := signedEnvelope_wellFormed settings hash event
    obtain ⟨rest, key⟩ := recordText_key settings hash event
    apply loads_open
    rw [run_append]
    exact atLeast_more true formed key (by decide) (List.prefix_refl _) opened
  · have tail : ∃ rest, more ++ (recordText settings hash event ++ ['\n']) = '{' :: rest := by
      cases more with
      | cons d more => exact ⟨_, by rw [brace d rfl]; rfl⟩
      | nil => exact ⟨_, rfl⟩
    obtain ⟨rest, object⟩ := tail
    rw [List.append_assoc, object]
    have stop : Delimited ('{' :: rest) := by simp [Delimited, Library.isNumberChar]
    have extra : Library.skipSpace ('{' :: rest) ≠ [] := List.cons_ne_nil _ _
    exact loads_extra true (signedEnvelope_wellFormed settings first firstEvent)
      (signedEnvelope_fixed settings first firstEvent) extra stop

/-! ## Text that no reader gets past -/

/-- Behind a hash the reader raises at a text, whatever is appended to it. -/
def Blocked (hash : String) (text : Text) : Prop :=
  ∀ offset more, ∃ fault,
    pendingRecords settings 1 offset hash (linesOf (text ++ more)) = .error fault

/-- A line that is no JSON blocks the reader. -/
theorem blocked_line {hash : String} {line : Text} (inside : '\n' ∉ line)
    (refused : loads settings.rounding (line ++ ['\n']) = none) :
    Blocked settings hash (line ++ ['\n']) := by
  intro offset more
  have lines : linesOf (line ++ ['\n'] ++ more) = (line ++ ['\n']) :: linesOf more := by
    rw [List.append_assoc]
    exact linesOf_line inside more
  rw [lines, pendingRecords, if_neg (by simp), refused, ite_self]
  exact ⟨_, rfl⟩

/-- A record behind another hash blocks the reader. -/
theorem blocked_record {expected hash : String} (other : hash ≠ expected)
    (event : EventDocument settings.rounding) :
    Blocked settings expected (recordText settings hash event ++ ['\n']) := by
  intro offset more
  have step := pendingRecords_record settings 0 offset expected hash event more
  rw [if_neg other] at step
  rw [List.append_assoc]
  exact ⟨_, step⟩

/-- Text behind blocked text stays unread. -/
theorem Blocked.append {hash : String} {text : Text} (blocked : Blocked settings hash text)
    (rest : Text) : Blocked settings hash (text ++ rest) := by
  intro offset more
  rw [List.append_assoc]
  exact blocked offset (rest ++ more)

/-! ## The chain of a file -/

/-- What follows the lines of a chain is a torn line, which the pending append may go on. -/
structure Torn (world : SpoolWorld settings) (tail : Text) : Prop where
  inside : '\n' ∉ tail
  spoiled : tail = [] ∨ Spoiled settings tail
  /-- An append that has not written its newline yet goes on behind a torn line. -/
  writing : ∀ previousHash event currentSize unwritten,
    world.process = .appending previousHash event currentSize unwritten → unwritten ≠ [] →
    ∃ torn written, tail = torn ++ written ∧ (torn = [] ∨ Spoiled settings torn) ∧
      written ++ unwritten = recordText settings previousHash event ++ ['\n']

/-- The lines of a chain are in front of a torn line, or of text that no reader gets past. -/
structure Chained (world : SpoolWorld settings) (chain : List (EventDocument settings.rounding))
    (tail : Text) : Prop where
  appended : chain <+: world.appended
  file : world.file = spoolText settings zeroHash chain ++ tail
  behind : chain = world.appended ∧ Torn settings world tail ∨
    Blocked settings (chainHash settings chain) tail

variable {settings}

namespace Chained

variable {world next : SpoolWorld settings} {chain : List (EventDocument settings.rounding)}
  {tail : Text}

theorem start : Chained settings (SpoolWorld.start settings) [] [] where
  appended := List.prefix_refl _
  file := rfl
  behind := Or.inl ⟨rfl, by simp, Or.inl rfl, by intro _ _ _ _ appending; cases appending⟩

/-- A step that leaves the file and begins no append keeps the chain. -/
theorem quiet (chained : Chained settings world chain tail) {process : SpoolProcess settings}
    (idle : ∀ previousHash event currentSize unwritten,
      process ≠ .appending previousHash event currentSize unwritten)
    (returned : List (EventDocument settings.rounding)) :
    Chained settings { world with process := process, returned := returned } chain tail where
  appended := chained.appended
  file := chained.file
  behind := by
    refine chained.behind.imp_left fun ⟨whole, torn⟩ => ⟨whole, torn.inside, torn.spoiled, ?_⟩
    exact fun _ _ _ _ appending => absurd appending (idle _ _ _ _)

/-- An append that begins has its whole line to write. -/
theorem begin (chained : Chained settings world chain tail) (previousHash : String)
    (event : EventDocument settings.rounding) :
    Chained settings { world with
      process := .appending previousHash event world.file.length
        (recordText settings previousHash event ++ ['\n']) } chain tail where
  appended := chained.appended
  file := chained.file
  behind := by
    refine chained.behind.imp_left fun ⟨whole, torn⟩ => ⟨whole, torn.inside, torn.spoiled, ?_⟩
    intro _ _ _ _ appending _
    injection appending with hash same size unwritten
    subst hash same size unwritten
    exact ⟨tail, [], (List.append_nil _).symm, torn.spoiled, rfl⟩

/-- Whatever is written behind blocked text stays unread. -/
theorem writeBlocked (chained : Chained settings world chain tail)
    (blocked : Blocked settings (chainHash settings chain) tail) {chunk : Text}
    (file : next.file = world.file ++ chunk)
    (appended : world.appended <+: next.appended) :
    Chained settings next chain (tail ++ chunk) where
  appended := chained.appended.trans appended
  file := by rw [file, chained.file, List.append_assoc]
  behind := Or.inr (blocked.append settings chunk)

/-- A chunk that does not complete its line leaves it torn. -/
theorem writePart (chained : Chained settings world chain tail) (whole : chain = world.appended)
    (torn : Torn settings world tail) {previousHash : String}
    {event : EventDocument settings.rounding} {currentSize count : Nat} {unwritten : Text}
    (appending : world.process = .appending previousHash event currentSize unwritten)
    (part : count < unwritten.length)
    (file : next.file = world.file ++ unwritten.take count)
    (process : next.process = .appending previousHash event currentSize (unwritten.drop count))
    (appended : next.appended = world.appended) :
    Chained settings next chain (tail ++ unwritten.take count) := by
  have some' : unwritten ≠ [] := by
    rintro rfl
    simp at part
  have left : unwritten.drop count ≠ [] := by
    intro empty
    have length := congrArg List.length empty
    simp at length
    omega
  obtain ⟨before, written, rfl, spoiled, line⟩ := torn.writing _ _ _ _ appending some'
  have longer : (written ++ unwritten.take count) ++ unwritten.drop count =
      recordText settings previousHash event ++ ['\n'] := by
    rw [List.append_assoc, List.take_append_drop, line]
  obtain ⟨inside, record⟩ := notMem_of_unfinished settings left longer
  have together : before ++ written ++ unwritten.take count =
      before ++ (written ++ unwritten.take count) := List.append_assoc _ _ _
  have spoiled' : before ++ (written ++ unwritten.take count) = [] ∨
      Spoiled settings (before ++ (written ++ unwritten.take count)) := by
    rcases spoiled with rfl | spoiled
    · by_cases begun : written ++ unwritten.take count = []
      · exact Or.inl begun
      · exact Or.inr (spoiled_record settings record begun)
    · exact Or.inr (spoiled.append settings record)
  refine ⟨by rw [appended]; exact chained.appended, ?_, Or.inl ⟨whole.trans appended.symm, ?_⟩⟩
  · rw [file, chained.file, List.append_assoc]
  · rw [together]
    refine ⟨?_, spoiled', ?_⟩
    · have outside := torn.inside
      simp only [List.mem_append, not_or] at outside inside ⊢
      exact ⟨outside.1, inside⟩
    · intro hash' event' size' unwritten' appending' _
      rw [process] at appending'
      injection appending' with hash same size rest
      subst hash same size rest
      exact ⟨before, _, rfl, spoiled, longer⟩

/-- A line that is completed is the next one of the chain, or blocks the reader. -/
theorem writeWhole (chained : Chained settings world chain tail) (whole : chain = world.appended)
    (torn : Torn settings world tail) {previousHash : String}
    {event : EventDocument settings.rounding} {currentSize count : Nat} {unwritten : Text}
    (appending : world.process = .appending previousHash event currentSize unwritten)
    (some' : unwritten ≠ []) (all : unwritten.length ≤ count)
    (file : next.file = world.file ++ unwritten.take count)
    (process : next.process = .appending previousHash event currentSize (unwritten.drop count))
    (appended : next.appended = world.appended ++ [event]) :
    ∃ chain' tail', chain <+: chain' ∧ Chained settings next chain' tail' := by
  obtain ⟨before, written, rfl, spoiled, line⟩ := torn.writing _ _ _ _ appending some'
  have done : unwritten.drop count = [] := List.drop_of_length_le all
  have text : next.file = spoolText settings zeroHash chain ++
      (before ++ (recordText settings previousHash event ++ ['\n'])) := by
    rw [file, chained.file, List.take_of_length_le all, ← line]
    simp only [List.append_assoc]
  have grown : chain <+: next.appended := by
    rw [appended, ← whole]
    exact List.prefix_append _ _
  rcases spoiled with rfl | spoiled
  · by_cases linked : previousHash = chainHash settings chain
    · subst linked
      refine ⟨chain ++ [event], [], List.prefix_append _ _, ?_, ?_, Or.inl ⟨?_, ?_⟩⟩
      · rw [appended, whole]
      · rw [text, spoolText_append, List.append_nil]
        rfl
      · rw [appended, whole]
      · refine ⟨by simp, Or.inl rfl, ?_⟩
        intro hash' event' size' unwritten' appending' more
        rw [process] at appending'
        injection appending' with _ _ _ rest
        exact absurd (rest.symm.trans done) more
    · exact ⟨chain, _, List.prefix_refl _, grown, text,
        Or.inr (blocked_record settings linked event)⟩
  · have refused := spoiled.refused settings previousHash event
    have inside : '\n' ∉ before ++ recordText settings previousHash event := by
      have outside := torn.inside
      have record : '\n' ∉ recordText settings previousHash event :=
        notMem_recordText settings _ event (by decide)
      simp only [List.mem_append, not_or] at outside ⊢
      exact ⟨outside.1, record⟩
    rw [← List.append_assoc] at refused
    have blocked : Blocked settings (chainHash settings chain) _ :=
      blocked_line settings inside refused
    rw [List.append_assoc] at blocked
    exact ⟨chain, _, List.prefix_refl _, grown, text, Or.inr blocked⟩

/-- Every step of the process keeps the chain or makes it longer. -/
theorem step (chained : Chained settings world chain tail) (action : SpoolAction settings)
    (taken : world.step action = some next) :
    ∃ chain' tail', chain <+: chain' ∧ Chained settings next chain' tail' := by
  cases action with
  | openSpool =>
    obtain ⟨-, ⟨previousHash, -, rfl⟩ | rfl⟩ := SpoolWorld.step_openSpool taken
    · exact ⟨chain, tail, List.prefix_refl _, chained.quiet (by simp) _⟩
    · exact ⟨chain, tail, List.prefix_refl _, chained⟩
  | beginAppend event =>
    obtain ⟨previousHash, -, rfl | rfl⟩ := SpoolWorld.step_beginAppend taken
    · exact ⟨chain, tail, List.prefix_refl _, chained⟩
    · exact ⟨chain, tail, List.prefix_refl _, chained.begin previousHash event⟩
  | write count =>
    obtain ⟨previousHash, event, currentSize, unwritten, appending, some', file, process, -,
      appended⟩ := SpoolWorld.step_write taken
    rcases chained.behind with ⟨whole, torn⟩ | blocked
    · by_cases all : unwritten.length ≤ count
      · rw [if_pos all] at appended
        exact chained.writeWhole whole torn appending some' all file process appended
      · rw [if_neg all] at appended
        exact ⟨chain, _, List.prefix_refl _,
          chained.writePart whole torn appending (by omega) file process appended⟩
    · have longer : world.appended <+: next.appended := by
        rw [appended]
        split_ifs
        · exact List.prefix_append _ _
        · exact List.prefix_refl _
      exact ⟨chain, _, List.prefix_refl _, chained.writeBlocked blocked file longer⟩
  | returnAppend =>
    obtain ⟨previousHash, event, currentSize, -, rfl⟩ := SpoolWorld.step_returnAppend taken
    exact ⟨chain, tail, List.prefix_refl _, chained.quiet (by simp) _⟩
  | raiseAppend =>
    obtain ⟨previousHash, event, currentSize, unwritten, -, rfl⟩ :=
      SpoolWorld.step_raiseAppend taken
    exact ⟨chain, tail, List.prefix_refl _, chained.quiet (by simp) _⟩
  | crash =>
    obtain rfl := Option.some.inj taken
    exact ⟨chain, tail, List.prefix_refl _, chained.quiet (by simp) _⟩

/-- At a position of the chain the reader finds nothing complete, or the next event. -/
theorem read (chained : Chained settings world chain tail)
    {before : List (EventDocument settings.rounding)} (inside : before <+: chain)
    {records : List PendingRecord}
    (found : pendingEnvelopes settings world.file (cursorAt settings before) 1 = .ok records) :
    records = [] ∨ ∃ event, before ++ [event] <+: chain ∧
      records = pendingOf settings (spoolText settings zeroHash before).length
        (chainHash settings before) [event] := by
  obtain ⟨rest, rfl⟩ := inside
  have file : world.file = spoolText settings zeroHash before ++
      (spoolText settings (chainHash settings before) rest ++ tail) := by
    rw [chained.file, spoolText_append, List.append_assoc]
    rfl
  rw [file, pendingEnvelopes_cursorAt] at found
  cases rest with
  | nil =>
    rcases chained.behind with ⟨-, torn⟩ | blocked
    · have nothing := pendingRecords_tail settings 1 (spoolText settings zeroHash before).length
        (chainHash settings before) torn.inside
      exact Or.inl (Except.ok.inj (found.symm.trans nothing))
    · rw [List.append_nil] at blocked
      obtain ⟨fault, raised⟩ := blocked (spoolText settings zeroHash before).length []
      rw [List.append_nil] at raised
      have both := found.symm.trans raised
      cases both
  | cons event rest =>
    have step := pendingRecords_record settings 0 (spoolText settings zeroHash before).length
      (chainHash settings before) (chainHash settings before) event
      (spoolText settings (recordHash settings (chainHash settings before) event) rest ++ tail)
    have text : spoolText settings (chainHash settings before) (event :: rest) ++ tail =
        recordText settings (chainHash settings before) event ++
          '\n' :: (spoolText settings
            (recordHash settings (chainHash settings before) event) rest ++
            tail) := by
      simp [spoolText]
    rw [if_pos rfl, ← text] at step
    refine Or.inr ⟨event, by simp, ?_⟩
    have both := found.symm.trans step
    simpa [pendingRecords, Except.map] using both

end Chained

end DTLab
