import DTLab.Verif.SteadyState

/-!
# Retention keeps references

No manifest of the remote store names a missing object, wherever a publication is interrupted. One
that completes with a snapshot that becomes current leaves the archives that a pointer references,
the most recent ones, and the objects that they and the pointers name.
-/

namespace DTLab

open Library (Json Text Dict Program)
open Library.Program (Ensures Ends ensures_bind ensures_lift)

/-- Whatever happens to the commands of a publication, and wherever it is interrupted, no manifest
names a missing object. Where it completes with a snapshot that becomes current, the archives that
are left are those that a pointer references and the most recent ones, and the objects that are
left are those that the archives and the pointers name. -/
theorem retention_keeps_references (platform : RemotePlatform) (config : PublishConfig)
    (store : SnapshotFiles) (request : RemoteRequest) (outcomes left : List RemoteOutcome)
    (files later : RemoteFiles) (ended : Option (Except RemoteFault RemotePublishSummary))
    (referenced : Referenced platform files)
    (ran : (request.program platform store config).run platform.host outcomes files =
      (ended, left, later)) :
    Referenced platform later ∧ ∀ archives prepared summary,
      request.prepare platform store = .ok (archives, some prepared) →
      ended = some (.ok summary) →
        Retained platform config.remoteRetention (stocked files (archives ++ [prepared]))
          later := by
  have whole : (request.program platform store config).Ensures platform.host (Referenced platform)
      (fun result later => Referenced platform later ∧ ∀ archives prepared summary,
        request.prepare platform store = .ok (archives, some prepared) → result = .ok summary →
          Retained platform config.remoteRetention (stocked files (archives ++ [prepared])) later)
      files := by
    apply ensures_bind.mpr
    apply ensures_lift.mpr
    cases prepared : request.prepare platform store with
    | error fault => exact ⟨referenced, nofun⟩
    | ok pair =>
      obtain ⟨archives, current⟩ := pair
      have sound := RemoteRequest.prepare_sound prepared
      apply (ensures_publishPrepared store sound referenced).weaken
      rintro result later ⟨kept, retained⟩
      refine ⟨kept, fun others snapshot summary same returned => ?_⟩
      obtain ⟨rfl, current_eq⟩ := Prod.mk.inj (Except.ok.inj same)
      exact retained snapshot summary current_eq returned
  cases ended with
  | none => exact ⟨Ensures.interrupted ran whole, nofun⟩
  | some result =>
    obtain ⟨kept, retained⟩ := Ensures.ends ran whole
    refine ⟨kept, fun archives prepared summary made returned => ?_⟩
    exact retained archives prepared summary made (Option.some.inj returned)

/-- Two days are published to a store that holds the first one: retention removes its archive. -/
theorem retention_keeps_references_shift : ∃ count summary later,
    ((shiftBacklog [1, 2]).program shiftHost shiftFiles dashboardConfig).run shiftHost.host
      (List.replicate count .success) firstDayFiles = (some (.ok summary), [], later) ∧
    Referenced shiftHost later ∧
    Retained shiftHost 3 (stocked firstDayFiles (shiftPrepared [1, 2] ++
      [(shiftPublication 3).prepared])) later ∧
    (firstDayFiles.archives (shiftPublication 0).prepared.archiveName).isSome ∧
    later.archives (shiftPublication 0).prepared.archiveName = none := by
  have prepares := @shift_prepares [1, 2] (by decide) (by decide)
  obtain ⟨count, summary, later, ran⟩ :=
    @shift_completes _ ready_firstDayFiles [1, 2] (by decide) (by decide)
  have holds := retention_keeps_references shiftHost dashboardConfig shiftFiles
    (shiftBacklog [1, 2]) _ [] firstDayFiles later _ referenced_firstDayFiles ran
  have retained := holds.2 _ _ summary prepares rfl
  have form := (shift_sound 0).archive
  have archived : firstDayFiles.archives (shiftPublication 0).prepared.archiveName =
      some (shiftPublication 0).prepared.manifestContent := by
    show ((Dict.empty.set _ _ : Dict String RemoteEntry).get? _).map _ = _
    rw [Dict.get?_set, if_pos rfl]
    rfl
  have stock : stocked firstDayFiles (shiftPrepared [1, 2] ++ [(shiftPublication 3).prepared])
      (shiftPublication 0).prepared.archiveName =
        some (shiftPublication 0).prepared.manifestContent := by
    rw [stocked, if_pos form, archived]
    rfl
  have pointers : later.pointers = pointersBehind shiftHost (shiftPublication 3).prepared
      firstDayFiles.pointers := by
    rw [program_of_prepares prepares] at ran
    obtain ⟨aftermath, _⟩ := Ensures.ends ran
      (ensures_publishPrepared_aftermath shiftFiles _ _ firstDayFiles)
    exact aftermath.pointers
  refine ⟨count, summary, later, ran, holds.1, retained, Option.isSome_of_mem archived, ?_⟩
  have leaves := @shift_leaves firstDayFiles (shiftPrepared [1, 2]) (fun _ => rfl)
    fun day late => ⟨_, stocked_of_prepares prepares (wellFormed_firstDayFiles [1, 2]) _
      (mem_shiftPrepared late)⟩
  have gone := mt (@archives_iff_staysArchived _ dashboardConfig _ _ _ _ _ stock retained
    pointers).mp leaves
  exact Option.not_isSome_iff_eq_none.mp gone

end DTLab
