import WorkflowForge.Proofs.Data.Accepted
import WorkflowForge.Proofs.Data.Lookup
import WorkflowForge.Settings.Environment
import WorkflowForge.Settings.Model

/-!
Single settings in mappings. A setting stands under its name, or under its name in a group. The check of a mapping looks
at the single settings and at nothing else, except that a group must be a mapping. Where mappings are laid over each
other the uppermost that gives a setting decides, group by group and setting by setting: no setting can be a mapping, so
nothing of two values is ever mixed in one that is accepted.
-/

namespace WorkflowForge

open Datum (Distinct)
open Environment (overlay overlayValue)

namespace Datum

/-- The value under a name in the mapping under another. -/
def lookupIn (entries : Entries) (group name : String) : Option Datum :=
  match lookup entries group with
  | some (.map inner) => lookup inner name
  | _ => none

/-- What is there, if anything, is a mapping. -/
def IsGroup (v : Option Datum) : Prop := ∀ d, v = some d → ∃ inner, d = .map inner

end Datum

open Datum (lookup lookupIn IsGroup)

namespace Settings

inductive Leaf where
  | templatePaths
  | generationPath
  | extensions
  | jsonIndent
  | verbosity
deriving DecidableEq, Repr

/-- The settings that are mappings of others. -/
def groups : List String := ["templating", "output"]

theorem templating_mem : "templating" ∈ groups := List.mem_cons_self

theorem output_mem : "output" ∈ groups := List.mem_cons_of_mem _ List.mem_cons_self

/-- The value that a check makes of what is given, or the default where nothing is. -/
def valueOf (check : Datum → Checked α) (default : α) : Option Datum → Checked α
  | none => .ok default
  | some v => check v

namespace Leaf

/-- What a mapping of settings gives for a single one. -/
def in? (leaf : Leaf) (entries : Datum.Entries) : Option Datum :=
  match leaf with
  | .templatePaths => lookup entries "template_paths"
  | .generationPath => lookup entries "generation_path"
  | .extensions => lookupIn entries "templating" "extensions"
  | .jsonIndent => lookupIn entries "output" "json_indent"
  | .verbosity => lookup entries "verbosity"

/-- The settings have for a single one what is given, checked, or the default where nothing is given. -/
def IsSet (leaf : Leaf) (given : Option Datum) (s : Settings) : Prop :=
  match leaf with
  | .templatePaths => valueOf (Checked.listOf Checked.path) defaults.templatePaths given = .ok s.templatePaths
  | .generationPath => valueOf Checked.path defaults.generationPath given = .ok s.generationPath
  | .extensions =>
    valueOf (fun v => (Checked.listOf Checked.text v).map normalizeExtensions) defaults.extensions given =
      .ok s.extensions
  | .jsonIndent => valueOf (Checked.upTo maxIndent) defaults.jsonIndent given = .ok s.jsonIndent
  | .verbosity => valueOf (Checked.level verbosities) defaults.verbosity given = .ok s.verbosity

/-- No single setting can be a mapping. -/
theorem not_isSet_map (leaf : Leaf) (inner : Datum.Entries) (s : Settings) : ¬ leaf.IsSet (some (.map inner)) s := by
  cases leaf <;> exact nofun

/-- What is given for all single settings determines the settings. -/
theorem eq_of_isSet {given : Leaf → Option Datum} {s t : Settings} (hs : ∀ leaf : Leaf, leaf.IsSet (given leaf) s)
    (ht : ∀ leaf : Leaf, leaf.IsSet (given leaf) t) : s = t := by
  have hpaths := Except.ok.inj ((hs .templatePaths).symm.trans (ht .templatePaths))
  have hgeneration := Except.ok.inj ((hs .generationPath).symm.trans (ht .generationPath))
  have hextensions := Except.ok.inj ((hs .extensions).symm.trans (ht .extensions))
  have hindent := Except.ok.inj ((hs .jsonIndent).symm.trans (ht .jsonIndent))
  have hverbosity := Except.ok.inj ((hs .verbosity).symm.trans (ht .verbosity))
  cases s
  cases t
  simp_all

end Leaf

open Checked

/-! ### The check -/

theorem field_eq_valueOf {entries : Datum.Entries} {name : String} {check : Datum → Checked α} {default a : α} :
    field entries name check default = .ok a ↔ valueOf check default (lookup entries name) = .ok a := by
  unfold field
  cases lookup entries name with
  | none => rfl
  | some v => exact under_eq_ok

theorem group_eq_valueOf {entries : Datum.Entries} {group name title : String} {check : Datum → Checked α}
    {default a : α} :
    field entries group (structured title fun inner => field inner name check default) default = .ok a ↔
      IsGroup (lookup entries group) ∧ valueOf check default (lookupIn entries group name) = .ok a := by
  rw [field_eq_ok]
  unfold lookupIn
  cases hgroup : lookup entries group with
  | none => simp [IsGroup, valueOf, eq_comm]
  | some v =>
      simp only [reduceCtorEq, false_and, false_or, Option.some.injEq, exists_eq_left', structured_eq_ok]
      constructor
      · rintro ⟨inner, rfl, hfield⟩
        exact ⟨fun d hd => ⟨inner, (Option.some.inj hd).symm⟩, field_eq_valueOf.mp hfield⟩
      · rintro ⟨hmap, hvalue⟩
        obtain ⟨inner, rfl⟩ := hmap v rfl
        exact ⟨inner, rfl, field_eq_valueOf.mpr hvalue⟩

/-- The check accepts a mapping exactly if its groups are mappings and every single setting is accepted. -/
theorem check_eq_ok {entries : Datum.Entries} {s : Settings} :
    check entries = .ok s ↔
      (∀ group ∈ groups, IsGroup (lookup entries group)) ∧ ∀ leaf : Leaf, leaf.IsSet (leaf.in? entries) s := by
  unfold check
  rw [bind_eq_ok]
  constructor
  · rintro ⟨⟨paths, generation, extensions, indent, verbosity⟩, hparts, hs⟩
    cases hs
    simp only [both_eq_ok] at hparts
    obtain ⟨hpaths, hgeneration, htemplating, houtput, hverbosity⟩ := hparts
    obtain ⟨htemplating, hextensions⟩ := group_eq_valueOf.mp htemplating
    obtain ⟨houtput, hindent⟩ := group_eq_valueOf.mp houtput
    refine ⟨by simpa [groups] using ⟨htemplating, houtput⟩, fun leaf => ?_⟩
    cases leaf with
    | templatePaths => exact field_eq_valueOf.mp hpaths
    | generationPath => exact field_eq_valueOf.mp hgeneration
    | extensions => exact hextensions
    | jsonIndent => exact hindent
    | verbosity => exact field_eq_valueOf.mp hverbosity
  · rintro ⟨hgroups, hleaves⟩
    have htemplating := hgroups "templating" templating_mem
    have houtput := hgroups "output" output_mem
    refine ⟨(s.templatePaths, s.generationPath, s.extensions, s.jsonIndent, s.verbosity), ?_, rfl⟩
    simp only [both_eq_ok]
    exact ⟨field_eq_valueOf.mpr (hleaves .templatePaths), field_eq_valueOf.mpr (hleaves .generationPath),
      group_eq_valueOf.mpr ⟨htemplating, hleaves .extensions⟩, group_eq_valueOf.mpr ⟨houtput, hleaves .jsonIndent⟩,
      field_eq_valueOf.mpr (hleaves .verbosity)⟩

/-! ### Mappings laid over each other -/

/-- One value laid over another. -/
def laid (upper base : Option Datum) : Option Datum :=
  match upper with
  | none => base
  | some v => some (overlayValue v base)

theorem laid_none (x : Option Datum) : laid x none = x := by
  cases x with
  | none => rfl
  | some v => cases v <;> rfl

/-- Two values that are the same, or mappings both. -/
def Alike (x y : Option Datum) : Prop := x = y ∨ ∃ inner inner', x = some (.map inner) ∧ y = some (.map inner')

theorem overlayValue_cases (v : Datum) (base : Option Datum) :
    overlayValue v base = v ∨ ∃ inner inner', v = .map inner ∧ overlayValue v base = .map inner' := by
  unfold overlayValue
  split
  · exact .inr ⟨_, _, rfl, rfl⟩
  · exact .inl rfl

theorem alike_laid (x y : Option Datum) : Alike (laid x y) (x.or y) := by
  cases x with
  | none => exact .inl rfl
  | some v =>
      rcases overlayValue_cases v y with heq | ⟨inner, inner', rfl, heq⟩
      · exact .inl (congrArg some heq)
      · exact .inr ⟨inner', inner, congrArg some heq, rfl⟩

theorem Alike.or {x y : Option Datum} (h : Alike x y) (z : Option Datum) : Alike (x.or z) (y.or z) := by
  rcases h with rfl | ⟨inner, inner', rfl, rfl⟩
  · exact .inl rfl
  · exact .inr ⟨inner, inner', rfl, rfl⟩

theorem Alike.trans {x y z : Option Datum} (h₁ : Alike x y) (h₂ : Alike y z) : Alike x z := by
  rcases h₁ with rfl | ⟨inner, inner', rfl, rfl⟩
  · exact h₂
  · rcases h₂ with rfl | ⟨_, inner'', _, rfl⟩
    · exact .inr ⟨inner, inner', rfl, rfl⟩
    · exact .inr ⟨inner, inner'', rfl, rfl⟩

theorem Alike.isGroup_iff {x y : Option Datum} (h : Alike x y) : IsGroup x ↔ IsGroup y := by
  rcases h with rfl | ⟨inner, inner', rfl, rfl⟩
  · exact Iff.rfl
  · simp [IsGroup]

theorem Alike.isSet_iff {x y : Option Datum} (h : Alike x y) (leaf : Leaf) (s : Settings) :
    leaf.IsSet x s ↔ leaf.IsSet y s := by
  rcases h with rfl | ⟨inner, inner', rfl, rfl⟩
  · exact Iff.rfl
  · exact iff_of_false (leaf.not_isSet_map inner s) (leaf.not_isSet_map inner' s)

/-- A mapping laid over another is asked for a name first. -/
theorem lookup_overlay {upper : Datum.Entries} (h : Distinct upper) (base : Datum.Entries) (name : String) :
    lookup (overlay upper base) name = laid (lookup upper name) (lookup base name) := by
  induction upper generalizing base with
  | nil => rfl
  | cons entry rest ih =>
      obtain ⟨key, v⟩ := entry
      rw [overlay, ih h.tail]
      by_cases hkey : key = .text name
      · subst hkey
        rw [h.lookup_tail, Datum.lookup_cons_self, Datum.lookup_insert_self, Datum.map_find?_sameKey]
        rfl
      · rw [Datum.lookup_cons_of_ne hkey, Datum.lookup_insert_of_ne hkey]

theorem distinct_overlay (upper : Datum.Entries) {base : Datum.Entries} (h : Distinct base) :
    Distinct (overlay upper base) := by
  induction upper generalizing base with
  | nil => exact h
  | cons entry rest ih =>
      rw [overlay]
      exact ih (Datum.distinct_insert h _ _)

/-- No name stands twice in a mapping of settings or in a group of it. -/
structure Orderly (entries : Datum.Entries) : Prop where
  distinct : Distinct entries
  inner : ∀ group ∈ groups, ∀ inner, lookup entries group = some (.map inner) → Distinct inner

theorem Orderly.overlay {upper base : Datum.Entries} (hupper : Orderly upper) (hbase : Orderly base) :
    Orderly (overlay upper base) := by
  refine ⟨distinct_overlay upper hbase.distinct, fun group hgroup inner hlookup => ?_⟩
  rw [lookup_overlay hupper.distinct] at hlookup
  cases hhere : lookup upper group with
  | none =>
      rw [hhere] at hlookup
      exact hbase.inner group hgroup inner hlookup
  | some v =>
      rw [hhere] at hlookup
      have hvalue : overlayValue v (lookup base group) = .map inner := Option.some.inj hlookup
      unfold overlayValue at hvalue
      split at hvalue
      · next hbelow =>
          cases hvalue
          exact distinct_overlay _ (hbase.inner group hgroup _ hbelow)
      · subst hvalue
        exact hupper.inner group hgroup inner hhere

theorem lookupIn_overlay {upper base : Datum.Entries} (hupper : Orderly upper) {group : String} (hmem : group ∈ groups)
    (hgroup : IsGroup ((lookup upper group).or (lookup base group))) (name : String) :
    lookupIn (overlay upper base) group name = laid (lookupIn upper group name) (lookupIn base group name) := by
  unfold lookupIn
  rw [lookup_overlay hupper.distinct]
  cases hhere : lookup upper group with
  | none => rfl
  | some v =>
      obtain ⟨inner, rfl⟩ := hgroup v (by rw [hhere]; rfl)
      have halone := laid_none (lookup inner name)
      cases lookup base group with
      | none => exact halone.symm
      | some d =>
          cases d with
          | map below => exact lookup_overlay (hupper.inner group hmem inner hhere) below name
          | _ => exact halone.symm

theorem in?_overlay {upper base : Datum.Entries} (hupper : Orderly upper)
    (hgroups : ∀ group ∈ groups, IsGroup ((lookup upper group).or (lookup base group))) (leaf : Leaf) :
    leaf.in? (overlay upper base) = laid (leaf.in? upper) (leaf.in? base) := by
  cases leaf with
  | templatePaths | generationPath | verbosity => exact lookup_overlay hupper.distinct base _
  | extensions => exact lookupIn_overlay hupper templating_mem (hgroups _ templating_mem) _
  | jsonIndent => exact lookupIn_overlay hupper output_mem (hgroups _ output_mem) _

/-- Three mappings laid over each other are accepted exactly if in each group the uppermost that has it has a mapping
there, and for every single setting what the uppermost gives that gives any is accepted. -/
theorem check_overlay_eq_ok {first second third : Datum.Entries} (hfirst : Orderly first) (hsecond : Orderly second)
    {s : Settings} :
    check (overlay (overlay first second) third) = .ok s ↔
      (∀ group ∈ groups, IsGroup (((lookup first group).or (lookup second group)).or (lookup third group))) ∧
      ∀ leaf : Leaf, leaf.IsSet (((leaf.in? first).or (leaf.in? second)).or (leaf.in? third)) s := by
  have hupper : Orderly (overlay first second) := hfirst.overlay hsecond
  have hnames : ∀ name, Alike (lookup (overlay first second) name) ((lookup first name).or (lookup second name)) := by
    intro name
    rw [lookup_overlay hfirst.distinct]
    exact alike_laid _ _
  have hgroups : ∀ group, IsGroup (lookup (overlay (overlay first second) third) group) ↔
      IsGroup (((lookup first group).or (lookup second group)).or (lookup third group)) := by
    intro group
    rw [lookup_overlay hupper.distinct, (alike_laid _ _).isGroup_iff]
    exact ((hnames group).or _).isGroup_iff
  rw [check_eq_ok]
  simp only [hgroups]
  refine and_congr_right fun hall => forall_congr' fun leaf => ?_
  have habove : ∀ group ∈ groups, IsGroup ((lookup first group).or (lookup second group)) := by
    intro group hgroup d hd
    exact hall group hgroup d (by rw [hd]; rfl)
  have hbelow : ∀ group ∈ groups, IsGroup ((lookup (overlay first second) group).or (lookup third group)) := by
    intro group hgroup
    exact ((hnames group).or _).isGroup_iff.mpr (hall group hgroup)
  rw [in?_overlay hupper hbelow, in?_overlay hfirst habove]
  exact ((alike_laid _ _).trans ((alike_laid _ _).or _)).isSet_iff leaf s

end Settings

end WorkflowForge
