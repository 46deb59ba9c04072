import WorkflowForge.Proofs.CommandLine.Options
import WorkflowForge.Proofs.Settings.Given
import WorkflowForge.Proofs.Settings.Loading
import WorkflowForge.Proofs.Yaml.Keys

/-!
Which source decides a setting. Every single setting is taken from the environment, the project's file or the user's
file, from the first of them that gives it, and has its default where none does. The sources need not agree on anything
else: what stands in them under other names, or is covered by a source above, has no say.
-/

namespace WorkflowForge.Settings

open Datum (lookup IsGroup)
open Environment (AllNamed overlay allNamed_overlay)

/-! ### What is loaded -/

theorem orderly_nil : Orderly [] := ⟨List.nodup_nil, nofun⟩

/-- No name stands twice in what a settings file gives. -/
theorem Reads.orderly {disk : Disk} {path : Path} {entries : Datum.Entries}
    (h : Reads disk path (.ok (.map entries))) : Orderly entries := by
  generalize hx : Except.ok (Datum.map entries) = x at h
  cases h with
  | missing =>
      cases hx
      exact orderly_nil
  | @data s d _ _ hload =>
      split at hx
      · cases hx
        obtain ⟨hdistinct, hinner⟩ := Yaml.distinct_of_load hload
        exact ⟨hdistinct, fun group _ inner => hinner group inner⟩
      · cases hx
        exact orderly_nil
  | _ => cases hx

theorem layOver_eq_ok {upper entries : Datum.Entries} {d : Datum} (h : layOver upper d = .ok entries) :
    ∃ base, d = .map base ∧ overlay upper base = entries := by
  cases d with
  | map base => exact ⟨base, rfl, Except.ok.inj h⟩
  | _ => cases h

theorem eq_overlay_of_merge {environment entries : Datum.Entries} {project user : Datum}
    (h : merge environment project user = .ok entries) :
    ∃ base lower, project = .map base ∧ user = .map lower ∧
      overlay (overlay environment base) lower = entries := by
  obtain ⟨middle, hmiddle, h⟩ := bind_eq_ok.mp h
  obtain ⟨merged, hmerged, h⟩ := bind_eq_ok.mp h
  obtain ⟨base, rfl, rfl⟩ := layOver_eq_ok hmiddle
  obtain ⟨lower, rfl, rfl⟩ := layOver_eq_ok hmerged
  split at h
  · exact ⟨base, lower, rfl, rfl, Except.ok.inj h⟩
  · cases h

/-- The sources come together in one mapping if they are mappings and all names in it are texts. -/
theorem merge_eq_ok {environment entries : Datum.Entries} {project user : Datum} :
    merge environment project user = .ok entries ↔
      ∃ base lower, project = .map base ∧ user = .map lower ∧
        overlay (overlay environment base) lower = entries ∧ AllNamed entries := by
  constructor
  · intro h
    obtain ⟨base, lower, rfl, rfl, rfl⟩ := eq_overlay_of_merge h
    rcases merge_maps environment base lower with ⟨hnamed, _⟩ | ⟨_, hstop⟩
    · exact ⟨base, lower, rfl, rfl, rfl, hnamed⟩
    · rw [hstop] at h
      cases h
  · rintro ⟨base, lower, rfl, rfl, rfl, hnamed⟩
    rcases merge_maps environment base lower with ⟨_, entries, hmerge⟩ | ⟨hnot, _⟩
    · obtain ⟨_, _, ⟨⟩, ⟨⟩, rfl⟩ := eq_overlay_of_merge hmerge
      exact hmerge
    · exact absurd hnamed hnot

theorem checked_eq_ok {entries : Datum.Entries} {s : Settings} : checked entries = .ok s ↔ check entries = .ok s := by
  unfold checked
  cases check entries with
  | ok settings => simp only [Except.ok.injEq]
  | error violations => exact ⟨nofun, nofun⟩

/-- What the three sources of a load give. -/
structure Sources where
  environment : Datum.Entries
  project : Datum.Entries
  user : Datum.Entries

namespace Sources

/-- The sources are those of a load. -/
structure AreRead (sources : Sources) (disk : Disk) (env : Environment) (path : Option Path) : Prop where
  environment : env.settings = .ok sources.environment
  project : Reads disk (path.getD (projectFile disk)) (.ok (.map sources.project))
  user : Reads disk (userFile disk) (.ok (.map sources.user))

/-- The answer of the first source that has any. -/
def first? (sources : Sources) (ask : Datum.Entries → Option Datum) : Option Datum :=
  ((ask sources.environment).or (ask sources.project)).or (ask sources.user)

end Sources

theorem outcome_eq_ok {disk : Disk} {env : Environment} {path : Path} {s : Settings} :
    outcome disk env path = .ok s ↔
      ∃ project, Reads disk path (.ok project) ∧ ∃ user, Reads disk (userFile disk) (.ok user) ∧
        ∃ environment, env.settings = .ok environment ∧
          ∃ entries, merge environment project user = .ok entries ∧ check entries = .ok s := by
  unfold outcome
  simp only [reads_iff, bind_eq_ok, mapError_eq_ok, checked_eq_ok]

/-- A load ends with settings exactly if the names in both files are texts, each group is a mapping in the first source
that has it, and for every single setting what the first source gives that gives any is accepted. -/
theorem loadAt_eq_ok {disk : Disk} {env : Environment} {path : Option Path} {desk : Desk} {s : Settings} :
    ((loadAt disk env path).run.run desk).1 = .ok s ↔
      ∃ sources : Sources, sources.AreRead disk env path ∧ AllNamed sources.project ∧ AllNamed sources.user ∧
        (∀ group ∈ groups, IsGroup (sources.first? (lookup · group))) ∧
        ∀ leaf : Leaf, leaf.IsSet (sources.first? leaf.in?) s := by
  obtain ⟨journal, hrun⟩ := loadAt_run disk env path desk
  rw [hrun, outcome_eq_ok]
  constructor
  · rintro ⟨_, hproject, _, huser, environment, henvironment, _, hmerge, hcheck⟩
    obtain ⟨project, user, rfl, rfl, rfl, hnamed⟩ := merge_eq_ok.mp hmerge
    rw [allNamed_overlay, allNamed_overlay] at hnamed
    obtain ⟨hgroups, hleaves⟩ :=
      (check_overlay_eq_ok (Environment.orderly_settings henvironment) hproject.orderly).mp hcheck
    exact ⟨⟨environment, project, user⟩, ⟨henvironment, hproject, huser⟩, hnamed.1.2, hnamed.2, hgroups, hleaves⟩
  · rintro ⟨⟨environment, project, user⟩, hread, hproject, huser, hgroups, hleaves⟩
    have hnamed : AllNamed (overlay (overlay environment project) user) := by
      rw [allNamed_overlay, allNamed_overlay]
      exact ⟨⟨Environment.allNamed_of_settings hread.environment, hproject⟩, huser⟩
    have hcheck := (check_overlay_eq_ok (Environment.orderly_settings hread.environment) hread.project.orderly).mpr
      ⟨hgroups, hleaves⟩
    exact ⟨_, hread.project, _, hread.user, environment, hread.environment, _,
      merge_eq_ok.mpr ⟨project, user, rfl, rfl, rfl, hnamed⟩, hcheck⟩

/-! ### Other names -/

/-- A value that is as before, or a mapping now. -/
def IsKept (before now : Option Datum) : Prop := now = before ∨ ∃ inner, now = some (.map inner)

theorem IsKept.or {x x' y y' : Option Datum} (hx : IsKept x x') (hy : IsKept y y') : IsKept (x.or y) (x'.or y') := by
  rcases hx with rfl | ⟨inner, rfl⟩
  · cases x' with
    | none => exact hy
    | some v => exact .inl rfl
  · exact .inr ⟨inner, rfl⟩

theorem IsKept.isGroup {x x' : Option Datum} (h : IsKept x x') (hx : IsGroup x) : IsGroup x' := by
  rcases h with rfl | ⟨inner, rfl⟩
  · exact hx
  · exact fun d hd => ⟨inner, (Option.some.inj hd).symm⟩

/-- One mapping gives for every single setting what another gives, and has no other value than a mapping in place of a
group. -/
structure SameSettings (before now : Datum.Entries) : Prop where
  leaves : ∀ leaf : Leaf, leaf.in? now = leaf.in? before
  groups : ∀ group ∈ groups, IsKept (lookup before group) (lookup now group)

namespace Sources

/-- Sources that differ only in what stands under other names than those of settings. -/
structure DifferElsewhere (before now : Sources) : Prop where
  environment : SameSettings before.environment now.environment
  project : SameSettings before.project now.project
  user : SameSettings before.user now.user
  named : AllNamed now.project ∧ AllNamed now.user

theorem AreRead.eq {sources others : Sources} {disk : Disk} {env : Environment} {path : Option Path}
    (h : sources.AreRead disk env path) (h' : others.AreRead disk env path) : sources = others := by
  have henvironment := Except.ok.inj (h.environment.symm.trans h'.environment)
  have hproject := Except.ok.inj (h.project.eq h'.project)
  have huser := Except.ok.inj (h.user.eq h'.user)
  cases sources
  cases others
  simp_all

theorem DifferElsewhere.first?_eq {before now : Sources} (h : before.DifferElsewhere now) (leaf : Leaf) :
    now.first? leaf.in? = before.first? leaf.in? := by
  rw [first?, h.environment.leaves, h.project.leaves, h.user.leaves]
  rfl

theorem DifferElsewhere.isGroup {before now : Sources} (h : before.DifferElsewhere now) {group : String}
    (hgroup : group ∈ groups) (hbefore : IsGroup (before.first? (lookup · group))) :
    IsGroup (now.first? (lookup · group)) := by
  apply IsKept.isGroup _ hbefore
  exact ((h.environment.groups group hgroup).or (h.project.groups group hgroup)).or (h.user.groups group hgroup)

end Sources

/-- Each setting that is loaded has the value that the first of the environment, the project's file and the user's file
gives for it, or its default where none gives any, whatever else stands in them; what the environment gives is found in
the variable of the setting and, for one in a group, in that of the group. Other names have no effect: a load from
sources that give the same settings ends in the same, goes through where the sources differ in other names only, and
sees no variable that concerns no setting. The options of the command that generates replace the directories of snippets
and for the files, and nothing else. -/
theorem settings_by_precedence (disk : Disk) (env : Environment) (path : Option Path) (desk : Desk) (s : Settings)
    (h : ((loadAt disk env path).run.run desk).1 = .ok s) :
    ∃ sources : Sources, sources.AreRead disk env path ∧
      (∀ leaf : Leaf, leaf.in? sources.environment = env.given? leaf) ∧
      (∀ leaf : Leaf, leaf.IsSet (sources.first? leaf.in?) s) ∧
      (∀ (disk' : Disk) (env' : Environment) (path' : Option Path) (desk' : Desk) (others : Sources) (t : Settings),
        others.AreRead disk' env' path' → (∀ leaf : Leaf, others.first? leaf.in? = sources.first? leaf.in?) →
          ((loadAt disk' env' path').run.run desk').1 = .ok t → t = s) ∧
      (∀ (disk' : Disk) (env' : Environment) (path' : Option Path) (desk' : Desk) (others : Sources),
        others.AreRead disk' env' path' → sources.DifferElsewhere others →
          ((loadAt disk' env' path').run.run desk').1 = .ok s) ∧
      (∀ env' : Environment, env'.ofSettings = env.ofSettings → ((loadAt disk env' path).run.run desk).1 = .ok s) ∧
      ∀ (words args : List String) (given : List (Given CommandLine.GlobalOption))
        (chosen : List (Given CommandLine.GenerateOption)), CommandLine.configPath? given = path →
          CommandLine.AsksToGenerate disk words given chosen args →
            CommandLine.run disk env words =
              CommandLine.runCommand disk env (CommandLine.withOptions chosen s) given
                ("generate" :: "--" :: args) := by
  obtain ⟨sources, hread, hproject, huser, hgroups, hleaves⟩ := loadAt_eq_ok.mp h
  refine ⟨sources, hread, ?_, hleaves, ?_, ?_, ?_, ?_⟩
  · intro leaf
    rcases Environment.in?_settings hread.environment leaf with ⟨inner, hmap⟩ | heq
    · -- a mapping would be the first that is given, and no setting can be one
      have hset := hleaves leaf
      rw [Sources.first?, hmap] at hset
      exact absurd hset (leaf.not_isSet_map inner s)
    · exact heq
  · intro disk' env' path' desk' others t hothers hsame hload
    obtain ⟨_, hread', _, _, _, hleaves'⟩ := loadAt_eq_ok.mp hload
    obtain rfl := hread'.eq hothers
    simp only [hsame] at hleaves'
    exact Leaf.eq_of_isSet hleaves' hleaves
  · intro disk' env' path' desk' others hothers hdiffer
    refine loadAt_eq_ok.mpr ⟨others, hothers, hdiffer.named.1, hdiffer.named.2, ?_, fun leaf => ?_⟩
    · exact fun group hgroup => hdiffer.isGroup hgroup (hgroups group hgroup)
    · rw [hdiffer.first?_eq]
      exact hleaves leaf
  · intro env' hsame
    have hsettings : env'.settings = env.settings := by
      rw [← env'.settings_ofSettings, hsame, env.settings_ofSettings]
    have hread' : sources.AreRead disk env' path := ⟨hsettings.trans hread.environment, hread.project, hread.user⟩
    exact loadAt_eq_ok.mpr ⟨sources, hread', hproject, huser, hgroups, hleaves⟩
  · intro words args given chosen hpath hasks
    subst hpath
    exact CommandLine.run_eq_of_asksToGenerate hasks (loadAt_eq_ok.mpr (loadAt_eq_ok.mp h))

/-- A project's file and a user's file that give parts of one group, and a model file. -/
def layeredDisk : Disk :=
  ⟨[(["flowsmith.yaml"], .file (.text "output: \x7bjson_indent: 2, width: 80\x7d\nverbosity: loud\nnotes: [a]\n")),
    (["model.yaml"], .file (.text "")), (["home"], .directory), (["home", ".config"], .directory),
    (["home", ".config", "flowsmith"], .directory),
    (["home", ".config", "flowsmith", "config.yaml"],
      .file (.text "generation_path: out\noutput: \x7bjson_indent: 7\x7d\n"))], [], ["home"]⟩

/-- Variables for a group, for a setting in it and for a setting that a file gives in a way that would be refused. -/
def layeredVariables : Environment :=
  [("FLOWSMITH_TEMPLATING", "\x7b\"Extensions\": [\"j2\"], \"cache\": 1\x7d"),
    ("FLOWSMITH_TEMPLATING__EXTENSIONS", "[\"J3\"]"), ("FLOWSMITH_VERBOSITY", "info")]

def layeredSettings : Settings := ⟨[], .ofText "out", [".j3"], 2, .info⟩

deriving instance DecidableEq for Settings

theorem layered_load :
    ((loadAt layeredDisk layeredVariables none).run.run default).1 = .ok layeredSettings := by
  apply toOption_eq_some.mp
  decide +kernel

theorem layered_asksToGenerate :
    CommandLine.AsksToGenerate layeredDisk ["generate", "-o", "elsewhere", "model.yaml"] []
      [(.output, "elsewhere")] ["model.yaml"] where
  parsed := ⟨["-o", "elsewhere", "model.yaml"], rfl, rfl⟩
  notEager := rfl
  noHelp := rfl
  accepted := by decide +kernel

theorem settings_by_precedence_layered :
    ((loadAt layeredDisk layeredVariables none).run.run default).1 = .ok layeredSettings ∧
      (∃ sources : Sources, sources.AreRead layeredDisk layeredVariables none ∧
        ∀ leaf : Leaf, leaf.IsSet (sources.first? leaf.in?) layeredSettings) ∧
      ((loadAt layeredDisk (("FLOWSMITH_THEME", "x") :: layeredVariables) none).run.run default).1 =
        .ok layeredSettings ∧
      CommandLine.run layeredDisk layeredVariables ["generate", "-o", "elsewhere", "model.yaml"] =
        CommandLine.runCommand layeredDisk layeredVariables
          { layeredSettings with generationPath := .ofText "elsewhere" } [] ["generate", "--", "model.yaml"] := by
  obtain ⟨sources, hread, _, hleaves, _, _, hother, hoptions⟩ :=
    settings_by_precedence layeredDisk layeredVariables none default layeredSettings layered_load
  refine ⟨layered_load, ⟨sources, hread, hleaves⟩, hother _ ?_, ?_⟩
  · exact List.filter_cons_of_neg (by decide +kernel)
  · exact hoptions _ _ _ _ rfl layered_asksToGenerate

/-- The JSON null for a group, and a variable for a setting in it. -/
def nullOutput : Environment := [("FLOWSMITH_OUTPUT", "null"), ("FLOWSMITH_OUTPUT__JSON_INDENT", "3")]

/-- A setting does not have the value of its own variable where the variable of its group holds the JSON null. -/
theorem null_group_hides_own_variable :
    ∃ s, ((loadAt ⟨[], [], []⟩ nullOutput none).run.run default).1 = .ok s ∧
      nullOutput.ownValue? "output" [] "json_indent" = some (.text "3") ∧
      ¬ Leaf.jsonIndent.IsSet (some (.text "3")) s := by
  have hload : ((loadAt ⟨[], [], []⟩ nullOutput none).run.run default).1.toOption.map (·.jsonIndent) = some 4 := by
    decide +kernel
  have hown : nullOutput.textOf? (Environment.start ++ "output" ++ "__" ++ "json_indent") = some "3" := by
    decide +kernel
  have hthree : Checked.upTo maxIndent (.text "3") = .ok 3 := by
    apply toOption_eq_some.mp
    decide +kernel
  obtain ⟨s, hs, hindent⟩ := Option.map_eq_some_iff.mp hload
  refine ⟨s, toOption_eq_some.mp hs, ?_, fun hset => ?_⟩
  · rw [Environment.ownValue?, hown]
    rfl
  · have hvalue : 3 = s.jsonIndent := Except.ok.inj (hthree.symm.trans hset)
    omega

end WorkflowForge.Settings
