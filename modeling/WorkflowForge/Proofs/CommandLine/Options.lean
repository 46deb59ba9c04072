import WorkflowForge.CommandLine.Run
import WorkflowForge.Proofs.Data.Accepted

/-!
The options of the command that generates. Each option that is given takes the place of one setting, the directories of
snippets or the directory for the files, and touches no other: the command with its options does what it does without
them under the settings with just these two replaced.
-/

namespace WorkflowForge.CommandLine

open GenerateRequest (valuesOf)

/-- The settings with those in place that the options give. -/
def withOptions (chosen : List (Given GenerateOption)) (s : Settings) : Settings :=
  { s with
    templatePaths :=
      if (valuesOf .templatePath chosen).isEmpty then s.templatePaths
      else (valuesOf .templatePath chosen).map .ofText
    generationPath := ((valuesOf .output chosen).getLast?.map .ofText).getD s.generationPath }

theorem directoryAt_eq_ok {disk : Disk} {place s : String} {p : Path} (h : directoryAt disk place s = .ok p) :
    p = .ofText s := by
  unfold directoryAt at h
  split at h
  · cases h
  · exact (Except.ok.inj h).symm

namespace GenerateRequest

theorem mapM_directoryAt {disk : Disk} {place : String} {values : List String} {paths : List Path}
    (h : values.mapM (directoryAt disk place) = .ok paths) : paths = values.map .ofText := by
  induction values generalizing paths with
  | nil => exact (Except.ok.inj h).symm
  | cons s rest ih =>
      rw [List.mapM_cons] at h
      obtain ⟨p, hp, h⟩ := bind_eq_ok.mp h
      obtain ⟨others, hothers, h⟩ := bind_eq_ok.mp h
      cases h
      rw [directoryAt_eq_ok hp, ih hothers, List.map_cons]

theorem checkOutput_eq_ok {disk : Disk} {chosen : List (Given GenerateOption)} {output : Option Path}
    (h : checkOutput disk chosen = .ok output) : output = (valuesOf .output chosen).getLast?.map .ofText := by
  unfold checkOutput at h
  split at h
  · next hlast =>
      rw [hlast]
      exact (Except.ok.inj h).symm
  · next s hlast =>
      rw [hlast]
      obtain ⟨p, hp, rfl⟩ := map_eq_ok.mp h
      rw [directoryAt_eq_ok hp, Option.map_some]

/-- A step that may come before others and must go through changes nothing else. -/
theorem eq_ok_of_ite {c : Prop} [Decidable c] {x : Except ε β} {y : Except ε α} {a : α}
    (h : (if c then x >>= fun _ => y else y) = .ok a) : y = .ok a := by
  split at h
  · obtain ⟨_, _, h⟩ := bind_eq_ok.mp h
    exact h
  · exact h

/-- The steps of a check that goes through. -/
theorem steps_of_check {disk : Disk} {chosen : List (Given GenerateOption)} {args : List String} {r : GenerateRequest}
    (h : check disk chosen args = .ok r) :
    checkTemplatePaths disk chosen = .ok r.templatePaths ∧ checkOutput disk chosen = .ok r.output ∧
      checkModel disk args = .ok r.model ∧ args.drop 1 = [] := by
  unfold check at h
  dsimp only at h
  obtain ⟨paths, hpaths, h⟩ := bind_eq_ok.mp (eq_ok_of_ite h)
  obtain ⟨output, houtput, h⟩ := bind_eq_ok.mp h
  obtain ⟨model, hmodel, h⟩ := bind_eq_ok.mp h
  split at h
  · next hrest =>
      cases h
      exact ⟨hpaths, houtput, hmodel, hrest⟩
  · cases h

/-- A request that is accepted has the directories that the options give, and is accepted without them. -/
theorem check_eq_ok {disk : Disk} {chosen : List (Given GenerateOption)} {args : List String} {r : GenerateRequest}
    (h : check disk chosen args = .ok r) :
    r.templatePaths = (valuesOf .templatePath chosen).map .ofText ∧
      r.output = (valuesOf .output chosen).getLast?.map .ofText ∧
      check disk [] args = .ok ⟨r.model, [], none⟩ := by
  obtain ⟨hpaths, houtput, hmodel, hrest⟩ := steps_of_check h
  refine ⟨mapM_directoryAt hpaths, checkOutput_eq_ok houtput, ?_⟩
  unfold check
  rw [hmodel, hrest]
  rfl

end GenerateRequest

/-- Options that are accepted do what the settings with them in place do. -/
theorem runCommand_options {disk : Disk} {words args : List String} {chosen : List (Given GenerateOption)}
    (hwords : OptionSpec.parse generateOptions true words = .ok (chosen, args))
    (hhelp : chosen.any (·.1 == .help) = false) (hcheck : (GenerateRequest.check disk chosen args).isOk = true)
    (env : Environment) (s : Settings) (given : List (Given GlobalOption)) (name : String) :
    runCommand disk env s given (name :: words) =
      runCommand disk env (withOptions chosen s) given (name :: "--" :: args) := by
  obtain ⟨r, hr⟩ := isOk_iff.mp hcheck
  obtain ⟨hpaths, houtput, hnone⟩ := GenerateRequest.check_eq_ok hr
  have happly : r.apply s = (GenerateRequest.mk r.model [] none).apply (withOptions chosen s) := by
    unfold GenerateRequest.apply withOptions
    rw [hpaths, houtput]
    simp
  have hplain : OptionSpec.parse generateOptions true ("--" :: args) = .ok ([], args) := rfl
  unfold runCommand
  dsimp only
  rw [hwords, hplain]
  dsimp only
  rw [hhelp, hr, hnone]
  dsimp only [List.any_nil, Bool.false_eq_true, if_false]
  unfold generate
  rw [happly]
  rfl

/-- The words of a command line ask for a generation, with options for every command and for this one that are accepted
and the arguments that are left. -/
structure AsksToGenerate (disk : Disk) (words : List String) (given : List (Given GlobalOption))
    (chosen : List (Given GenerateOption)) (args : List String) : Prop where
  parsed : ∃ rest, OptionSpec.parse globalOptions false words = .ok (given, "generate" :: rest) ∧
    OptionSpec.parse generateOptions true rest = .ok (chosen, args)
  notEager : eager? given = none
  noHelp : chosen.any (·.1 == .help) = false
  accepted : (GenerateRequest.check disk chosen args).isOk = true

/-- A generation is run with the loaded settings, those that its options give in place. -/
theorem run_eq_of_asksToGenerate {disk : Disk} {env : Environment} {words args : List String}
    {given : List (Given GlobalOption)} {chosen : List (Given GenerateOption)} {s : Settings}
    (h : AsksToGenerate disk words given chosen args)
    (hload : (Settings.load disk env (configPath? given) .empty).1 = .ok s) :
    run disk env words = runCommand disk env (withOptions chosen s) given ("generate" :: "--" :: args) := by
  obtain ⟨rest, hglobal, hgenerate⟩ := h.parsed
  have hrun : run disk env words = runCommand disk env s given ("generate" :: rest) := by
    unfold run
    rw [hglobal]
    dsimp only
    rw [h.notEager]
    change run.go disk env given ("generate" :: rest) = _
    rw [run.go, hload]
  rw [hrun]
  exact runCommand_options hgenerate h.noHelp h.accepted env s given "generate"

end WorkflowForge.CommandLine
