import WorkflowForge.Proofs.Settings.Parts

/-!
Single settings in the environment. A setting in a group is given by its own variable, or as a part of the JSON object
that the variable of the group holds; where both are there, its own value takes the place of the part. A variable that
holds the JSON null gives nothing, and one for a group then keeps everything in the group from being given. Variables
with other names count for nothing.
-/

namespace WorkflowForge.Environment

open Datum (lookup lookupIn names Distinct)

/-! ### Single settings -/

/-- The value of the variable that a setting of a group has of its own. -/
def ownValue? (env : Environment) (group : String) (lists : List String) (name : String) : Option Datum :=
  (env.textOf? (start ++ group ++ "__" ++ name)).bind fun text => (partValue lists [name] text).toOption

/-- Puts a value under a name, if there is one. -/
def replaced (entries : Datum.Entries) (name : String) : Option Datum → Datum.Entries
  | none => entries
  | some v => Datum.insert entries (.text name) v

/-- What the environment gives for a setting of a group. -/
def inGroup? (env : Environment) (group : String) (lists : List String) (name : String) : Option Datum :=
  match env.textOf? (start ++ group) with
  | none => env.ownValue? group lists name
  | some text =>
    match readJson text with
    | .ok (.map entries) => lastSpelled (replaced entries name (env.ownValue? group lists name)) name
    | _ => none

/-- What the environment gives for a setting that is a list. -/
def listValue? (env : Environment) (setting : String) : Option Datum :=
  match (env.textOf? (start ++ setting)).map readJson with
  | none | some (.error _) | some (.ok .null) => none
  | some (.ok v) => some v

/-- What the environment gives for a single setting. -/
def given? (env : Environment) : Settings.Leaf → Option Datum
  | .templatePaths => env.listValue? "template_paths"
  | .generationPath => (env.textOf? (start ++ "generation_path")).map .text
  | .extensions => env.inGroup? "templating" ["extensions"] "extensions"
  | .jsonIndent => env.inGroup? "output" [] "json_indent"
  | .verbosity => (env.textOf? (start ++ "verbosity")).map .text

section Group

variable {env : Environment} {g name : String} {lists : List String} {parts : Datum.Entries}

theorem ownValue?_of_mem {text : String} {v : Datum} (hmem : (start ++ g ++ "__" ++ name, text) ∈ env.lowered)
    (hvalue : partValue lists [name] text = .ok v) : env.ownValue? g lists name = some v := by
  rw [ownValue?, (mem_lowered env _ text).mp hmem, Option.bind_some, hvalue]
  rfl

theorem ownValue?_of_missing (h : ∀ text, (start ++ g ++ "__" ++ name, text) ∉ env.lowered) :
    env.ownValue? g lists name = none := by
  have hnone : env.textOf? (start ++ g ++ "__" ++ name) = none := by
    rw [Option.eq_none_iff_forall_not_mem]
    exact fun text htext => h text ((mem_lowered env _ text).mpr htext)
  rw [ownValue?, hnone, Option.bind_none]

/-- Without a variable for the group a setting is what its own variable gives. -/
theorem lookup_eq_ownValue?
    (hparts : GivesPart env.lowered (start ++ g ++ "__" ++ name) lists name (lookup parts name)) :
    (∃ inner, lookup parts name = some (.map inner)) ∨ lookup parts name = env.ownValue? g lists name := by
  generalize lookup parts name = given at hparts ⊢
  cases hparts with
  | deeper inner => exact .inl ⟨inner, rfl⟩
  | own hmem hvalue => exact .inr (ownValue?_of_mem hmem hvalue).symm
  | missing hnone => exact .inr (ownValue?_of_missing hnone).symm

theorem spelled_replaced (hname : Text.lower name = name) (base : Datum.Entries) (own : Option Datum) :
    spelled (replaced base name own) name = replaced (spelled base name) name own := by
  cases own with
  | none => rfl
  | some v => exact spelled_insert_self hname base v

/-- A mapping put under a name is the last of all, or the last is another value, whatever stands under the name. -/
theorem last_insert_map (entries : Datum.Entries) (name : String) (inner : Datum.Entries) (own : Option Datum) :
    (∃ inner', (Datum.insert entries (.text name) (.map inner)).getLast?.map (·.2) = some (.map inner')) ∨
      (Datum.insert entries (.text name) (.map inner)).getLast?.map (·.2) =
        (replaced entries name own).getLast?.map (·.2) := by
  rcases last_insert entries (.text name) with hlast | hkept
  · exact .inl ⟨inner, hlast _⟩
  · refine .inr ((hkept _).trans ?_)
    cases own with
    | none => rfl
    | some v => exact (hkept v).symm

/-- With a mapping for the group a setting is what stands in it last in any case, once its own value is put in. -/
theorem lastSpelled_overlay (hname : Text.lower name = name) (hplain : Plain parts)
    (hparts : GivesPart env.lowered (start ++ g ++ "__" ++ name) lists name (lookup parts name))
    (base : Datum.Entries) :
    (∃ inner, lastSpelled (overlay parts base) name = some (.map inner)) ∨
      lastSpelled (overlay parts base) name = lastSpelled (replaced base name (env.ownValue? g lists name)) name := by
  unfold lastSpelled
  rw [spelled_replaced hname]
  rcases spelled_overlay hplain hname base with ⟨hnone, hspelled⟩ | ⟨x, halike, hspelled⟩
  · rw [hnone] at hparts
    rw [hspelled]
    cases hparts with
    | missing hmissing => exact .inr (by rw [ownValue?_of_missing hmissing]; rfl)
  · rw [hspelled]
    rcases halike with heq | ⟨inner, _, hx, _⟩
    · rw [← heq] at hparts
      cases hparts with
      | deeper inner => exact last_insert_map _ name inner _
      | own hmem hvalue => exact .inr (by rw [ownValue?_of_mem hmem hvalue]; rfl)
    · cases hx
      exact last_insert_map _ name inner _

/-- A group gives for a setting what the environment gives for it, unless it gives a mapping. -/
theorem lookupIn_group {entries : Datum.Entries} (hown : keysBelow? g (start ++ g ++ "__" ++ name) = some [name])
    (hname : Text.lower name = name) (h : group env.lowered g lists [name] = .ok entries) :
    (∃ inner, lookupIn entries g name = some (.map inner)) ∨
      lookupIn entries g name = env.inGroup? g lists name := by
  obtain ⟨whole, hwhole, h⟩ := bind_eq_ok.mp h
  unfold compound at hwhole
  rw [lookup_lowered] at hwhole
  unfold inGroup?
  cases htext : env.textOf? (start ++ g) with
  | none =>
      rw [htext] at hwhole
      obtain ⟨parts, hparts, hwhole⟩ := bind_eq_ok.mp hwhole
      have hgives := givesPart_partsOf hown hparts
      have hlookup : lookupIn entries g name = lookup parts name := by
        cases parts with
        | nil =>
            cases hwhole
            cases h
            rfl
        | cons e rest =>
            cases hwhole
            cases h
            rw [lookupIn, Datum.lookup_cons_self]
            exact (lookup_withNames hname _).trans ((plain_partsOf (fun _ hv => hv) hparts).lastSpelled_eq name)
      rw [hlookup]
      exact lookup_eq_ownValue? hgives
  | some text =>
      rw [htext] at hwhole
      obtain ⟨v, hv, hwhole⟩ := bind_eq_ok.mp hwhole
      dsimp only
      rw [hv]
      cases v with
      | null =>
          cases hwhole
          cases h
          exact .inr rfl
      | map base =>
          obtain ⟨parts, hparts, hwhole⟩ := bind_eq_ok.mp hwhole
          cases hwhole
          cases h
          rw [lookupIn, Datum.lookup_cons_self]
          have hlast := lastSpelled_overlay hname (plain_partsOf (fun _ hv => hv) hparts)
            (givesPart_partsOf hown hparts) base
          rwa [← lookup_withNames hname] at hlast
      | _ =>
          cases hwhole
          cases h
          rw [lookupIn, Datum.lookup_cons_self]
          exact .inr rfl

end Group

/-! ### All settings together -/

/-- At most one entry, under a name. -/
def IsUnder (name : String) (entries : Datum.Entries) : Prop := entries = [] ∨ ∃ v, entries = [(.text name, v)]

theorem IsUnder.lookup_eq_none {name other : String} {entries : Datum.Entries} (h : IsUnder name entries)
    (hne : other ≠ name) : lookup entries other = none := by
  rcases h with rfl | ⟨v, rfl⟩
  · rfl
  · rw [Datum.lookup_cons_text, if_neg hne]
    rfl

theorem IsUnder.names_sublist {name : String} {entries : Datum.Entries} (h : IsUnder name entries) :
    (names entries).Sublist [name] := by
  rcases h with rfl | ⟨v, rfl⟩
  · exact List.nil_sublist _
  · exact List.Sublist.refl _

section Groups

variable {parts : List (String × Datum.Entries)} (hunder : ∀ p ∈ parts, IsUnder p.1 p.2)

include hunder

theorem names_flatMap_sublist : (names (parts.flatMap (·.2))).Sublist (parts.map (·.1)) := by
  induction parts with
  | nil => exact List.nil_sublist _
  | cons p rest ih =>
      rw [List.flatMap_cons, names, List.filterMap_append]
      exact (hunder p List.mem_cons_self).names_sublist.append (ih fun q hq => hunder q (List.mem_cons_of_mem _ hq))

/-- Entries under different names are found among all of them as in their own part. -/
theorem lookup_flatMap (hnodup : (parts.map (·.1)).Nodup) {p : String × Datum.Entries} (hp : p ∈ parts) :
    lookup (parts.flatMap (·.2)) p.1 = lookup p.2 p.1 := by
  induction parts with
  | nil => cases hp
  | cons first rest ih =>
      have hrest : ∀ q ∈ rest, IsUnder q.1 q.2 := fun q hq => hunder q (List.mem_cons_of_mem _ hq)
      obtain ⟨hfirst, hnodup⟩ := List.nodup_cons.mp hnodup
      rw [List.flatMap_cons, Datum.lookup_append]
      rcases List.mem_cons.mp hp with rfl | hp
      · have hnone : lookup (rest.flatMap (·.2)) p.1 = none := by
          rw [Datum.lookup_eq_none_iff]
          exact fun hmem => hfirst ((names_flatMap_sublist hrest).mem hmem)
        rw [hnone, Option.or_none]
      · have hne : p.1 ≠ first.1 := fun heq => hfirst (List.mem_map.mpr ⟨p, hp, heq⟩)
        rw [(hunder first List.mem_cons_self).lookup_eq_none hne, Option.none_or, ih hrest hnodup hp]

end Groups

theorem isUnder_toList (name : String) (given : Option Datum) :
    IsUnder name (given.toList.map fun v => (Datum.text name, v)) := by
  cases given with
  | none => exact .inl rfl
  | some v => exact .inr ⟨v, rfl⟩

theorem isUnder_simple (env : Environment) (name : String) : IsUnder name (simple env name) := by
  unfold simple
  split
  · exact .inr ⟨_, rfl⟩
  · exact .inl rfl

theorem isUnder_group {env : Environment} {g : String} {lists names : List String} {entries : Datum.Entries}
    (h : group env g lists names = .ok entries) : IsUnder g entries := by
  obtain ⟨whole, _, h⟩ := bind_eq_ok.mp h
  split at h
  · cases h
    exact .inl rfl
  · cases h
    exact .inr ⟨_, rfl⟩
  · cases h
    exact .inr ⟨_, rfl⟩

theorem distinct_withNames (names : List String) (entries : Datum.Entries) : Distinct (withNames names entries) := by
  induction entries using List.reverseRecOn with
  | nil => exact List.nodup_nil
  | append_singleton entries e ih =>
      obtain ⟨key, v⟩ := e
      unfold withNames at ih ⊢
      rw [List.foldl_append, List.foldl_cons, List.foldl_nil]
      cases key with
      | _ => exact Datum.distinct_insert ih _ _

theorem distinct_of_group {env : Environment} {g : String} {lists names : List String} {entries inner : Datum.Entries}
    (h : group env g lists names = .ok entries) (hinner : lookup entries g = some (.map inner)) : Distinct inner := by
  obtain ⟨whole, _, h⟩ := bind_eq_ok.mp h
  split at h
  · cases h
    cases hinner
  · cases h
    rw [Datum.lookup_cons_self] at hinner
    cases hinner
    exact distinct_withNames _ _
  · next hmap _ =>
      cases h
      rw [Datum.lookup_cons_self] at hinner
      exact absurd (Option.some.inj hinner) (hmap inner)

/-- A list of settings is what its variable gives, unless it is a mapping. -/
theorem compound_lowered {env : Environment} {setting : String} {lists : List String} {whole : Option Datum}
    (h : compound env.lowered setting lists = .ok whole) :
    (∃ inner, whole = some (.map inner)) ∨ whole = env.listValue? setting := by
  unfold compound at h
  rw [lookup_lowered] at h
  unfold listValue?
  cases htext : env.textOf? (start ++ setting) with
  | none =>
      rw [htext] at h
      obtain ⟨parts, _, h⟩ := bind_eq_ok.mp h
      split at h
      · cases h
        exact .inr rfl
      · cases h
        exact .inl ⟨parts, rfl⟩
  | some text =>
      rw [htext] at h
      obtain ⟨v, hv, h⟩ := bind_eq_ok.mp h
      rw [Option.map_some, hv]
      cases v with
      | map entries =>
          obtain ⟨parts, _, h⟩ := bind_eq_ok.mp h
          cases h
          exact .inl ⟨_, rfl⟩
      | _ =>
          cases h
          exact .inr rfl

theorem lookup_simple (env : Environment) (setting : String) :
    lookup (simple env.lowered setting) setting = (env.textOf? (start ++ setting)).map .text := by
  unfold simple
  rw [lookup_lowered]
  cases env.textOf? (start ++ setting) with
  | none => rfl
  | some text => exact Datum.lookup_cons_self _ _ _

/-- What is given for each setting and group, under its name. -/
def gathered (env : Environment) (paths : Option Datum) (templating output : Datum.Entries) :
    List (String × Datum.Entries) :=
  [("template_paths", paths.toList.map fun v => (Datum.text "template_paths", v)),
    ("generation_path", simple env.lowered "generation_path"), ("templating", templating), ("output", output),
    ("verbosity", simple env.lowered "verbosity")]

theorem settings_eq_ok {env : Environment} {entries : Datum.Entries} (h : env.settings = .ok entries) :
    ∃ paths templating output, compound env.lowered "template_paths" [] = .ok paths ∧
      group env.lowered "templating" ["extensions"] ["extensions"] = .ok templating ∧
      group env.lowered "output" [] ["json_indent"] = .ok output ∧
      entries = (gathered env paths templating output).flatMap (·.2) := by
  obtain ⟨paths, hpaths, h⟩ := bind_eq_ok.mp h
  obtain ⟨templating, htemplating, h⟩ := bind_eq_ok.mp h
  obtain ⟨output, houtput, h⟩ := bind_eq_ok.mp h
  cases h
  refine ⟨paths, templating, output, hpaths, htemplating, houtput, ?_⟩
  simp [gathered]

section Gathered

variable {env : Environment} {paths : Option Datum} {templating output : Datum.Entries}
variable (htemplating : group env.lowered "templating" ["extensions"] ["extensions"] = .ok templating)
variable (houtput : group env.lowered "output" [] ["json_indent"] = .ok output)

include htemplating houtput

theorem isUnder_gathered : ∀ p ∈ gathered env paths templating output, IsUnder p.1 p.2 := by
  simp only [gathered, List.forall_mem_cons]
  exact ⟨isUnder_toList _ _, isUnder_simple _ _, isUnder_group htemplating, isUnder_group houtput, isUnder_simple _ _,
    nofun⟩

theorem lookup_gathered {p : String × Datum.Entries} (hp : p ∈ gathered env paths templating output) :
    lookup ((gathered env paths templating output).flatMap (·.2)) p.1 = lookup p.2 p.1 :=
  lookup_flatMap (isUnder_gathered htemplating houtput) (by simp [gathered]) hp

theorem orderly_gathered : Settings.Orderly ((gathered env paths templating output).flatMap (·.2)) := by
  constructor
  · refine List.Nodup.sublist (names_flatMap_sublist (isUnder_gathered htemplating houtput)) ?_
    simp [gathered]
  · intro g hg inner hinner
    rcases List.mem_pair.mp hg with rfl | rfl
    · rw [lookup_gathered htemplating houtput (p := ("templating", templating)) (by simp [gathered])] at hinner
      exact distinct_of_group htemplating hinner
    · rw [lookup_gathered htemplating houtput (p := ("output", output)) (by simp [gathered])] at hinner
      exact distinct_of_group houtput hinner

end Gathered

theorem orderly_settings {env : Environment} {entries : Datum.Entries} (h : env.settings = .ok entries) :
    Settings.Orderly entries := by
  obtain ⟨paths, templating, output, _, htemplating, houtput, rfl⟩ := settings_eq_ok h
  exact orderly_gathered htemplating houtput

/-- What the environment gives altogether holds for a setting what is given for it, or a mapping. -/
theorem in?_settings {env : Environment} {entries : Datum.Entries} (h : env.settings = .ok entries)
    (leaf : Settings.Leaf) :
    (∃ inner, leaf.in? entries = some (.map inner)) ∨ leaf.in? entries = env.given? leaf := by
  obtain ⟨paths, templating, output, hpaths, htemplating, houtput, rfl⟩ := settings_eq_ok h
  have hfind : ∀ p ∈ gathered env paths templating output,
      lookup ((gathered env paths templating output).flatMap (·.2)) p.1 = lookup p.2 p.1 :=
    fun p hp => lookup_gathered htemplating houtput hp
  generalize (gathered env paths templating output).flatMap (·.2) = entries at hfind ⊢
  unfold gathered at hfind
  simp only [List.forall_mem_cons] at hfind
  obtain ⟨hpathsFind, hgenerationFind, htemplatingFind, houtputFind, hverbosityFind, _⟩ := hfind
  cases leaf with
  | templatePaths =>
      have hwhole : lookup entries "template_paths" = paths := by
        rw [hpathsFind]
        cases paths with
        | none => rfl
        | some v => exact Datum.lookup_cons_self _ _ _
      rw [Settings.Leaf.in?, hwhole]
      exact compound_lowered hpaths
  | generationPath => exact .inr (hgenerationFind.trans (lookup_simple env _))
  | extensions =>
      rw [Settings.Leaf.in?, lookupIn, htemplatingFind]
      exact lookupIn_group (keysBelow?_append "templating" "extensions") rfl htemplating
  | jsonIndent =>
      rw [Settings.Leaf.in?, lookupIn, houtputFind]
      exact lookupIn_group (keysBelow?_append "output" "json_indent") rfl houtput
  | verbosity => exact .inr (hverbosityFind.trans (lookup_simple env _))

/-! ### Variables that concern no setting -/

/-- The settings and groups of settings that the environment can give. -/
def topics : List String := ["template_paths", "generation_path", "templating", "output", "verbosity"]

/-- Whether a name in lower case is that of a setting or goes on behind it. -/
def concerns (name : String) : Bool :=
  topics.any fun setting => name == start ++ setting || (keysBelow? setting name).isSome

theorem concerns_of_eq {setting : String} (h : setting ∈ topics) : concerns (start ++ setting) = true :=
  List.any_eq_true.mpr ⟨setting, h, by simp⟩

theorem concerns_of_keysBelow? {setting name : String} {keys : List String} (h : setting ∈ topics)
    (hkeys : keysBelow? setting name = some keys) : concerns name = true :=
  List.any_eq_true.mpr ⟨setting, h, by simp [hkeys]⟩

theorem filter_put (env : Environment) (name text : String) (p : String → Bool) :
    (put env name text).filter (p ·.1) =
      if p name then put (env.filter (p ·.1)) name text else env.filter (p ·.1) := by
  have hmap : (env.map fun v => if v.1 == name then (v.1, text) else v).filter (p ·.1) =
      (env.filter (p ·.1)).map fun v => if v.1 == name then (v.1, text) else v := by
    rw [List.filter_map]
    refine congrArg (List.map _) (congrArg (List.filter · env) (funext fun v => ?_))
    exact congrArg p (by dsimp only; split <;> rfl)
  unfold put
  cases hp : p name with
  | true =>
      have hany : (env.filter (p ·.1)).any (·.1 == name) = env.any (·.1 == name) := by
        rw [List.any_filter]
        refine congrArg env.any (funext fun v => ?_)
        by_cases hv : v.1 = name
        · rw [hv, hp, Bool.true_and]
        · rw [beq_eq_false_iff_ne.mpr hv, Bool.and_false]
      rw [if_pos rfl, hany]
      split
      · exact hmap
      · rw [List.filter_append, List.filter_singleton, hp, cond_true]
  | false =>
      rw [if_neg Bool.false_ne_true]
      split
      · rw [hmap]
        refine (List.map_congr_left fun v hv => ?_).trans (List.map_id _)
        have hne : v.1 ≠ name := by
          rintro rfl
          rw [(List.mem_filter.mp hv).2] at hp
          cases hp
        rw [beq_eq_false_iff_ne.mpr hne]
        rfl
      · rw [List.filter_append, List.filter_singleton, hp]
        exact List.append_nil _

theorem lowered_filter (env : Environment) (p : String → Bool) :
    lowered (env.filter fun v => p (Text.lower v.1)) = (lowered env).filter (p ·.1) := by
  induction env using List.reverseRecOn with
  | nil => rfl
  | append_singleton env v ih =>
      obtain ⟨name, text⟩ := v
      rw [lowered_append, filter_put, List.filter_append, ← ih]
      cases hp : p (Text.lower name) with
      | true =>
          rw [List.filter_singleton, hp, if_pos rfl]
          exact lowered_append _ name text
      | false =>
          rw [List.filter_singleton, hp]
          exact congrArg lowered (List.append_nil _)

theorem lookup_filter {p : String → Bool} {n : String} (h : p n = true) (env : Environment) :
    (env.filter (p ·.1)).lookup n = env.lookup n := by
  induction env with
  | nil => rfl
  | cons v rest ih =>
      obtain ⟨name, text⟩ := v
      cases hp : p name with
      | true => rw [List.filter_cons, hp, if_pos rfl, List.lookup_cons, List.lookup_cons, ih]
      | false =>
          have hne : (n == name) = false := by
            rw [beq_eq_false_iff_ne]
            rintro rfl
            rw [h] at hp
            cases hp
          rw [List.filter_cons, hp, List.lookup_cons, hne]
          exact ih

theorem partsOf_filter {p : String → Bool} {setting : String}
    (h : ∀ n keys, keysBelow? setting n = some keys → p n = true) (lists : List String) (env : Environment) :
    partsOf (env.filter (p ·.1)) setting lists = partsOf env setting lists := by
  unfold partsOf
  generalize ([] : Datum.Entries) = entries
  induction env generalizing entries with
  | nil => rfl
  | cons v rest ih =>
      obtain ⟨name, text⟩ := v
      cases hp : p name with
      | true =>
          rw [List.filter_cons, hp, if_pos rfl, List.foldlM_cons, List.foldlM_cons]
          exact congrArg _ (funext fun next => ih next)
      | false =>
          have hkeys : keysBelow? setting name = none := by
            rw [Option.eq_none_iff_forall_not_mem]
            intro keys hkeys
            rw [h name keys hkeys] at hp
            cases hp
          rw [List.filter_cons, hp, List.foldlM_cons]
          dsimp only
          rw [hkeys]
          exact ih entries

/-- The variables that concern settings. -/
def ofSettings (env : Environment) : Environment := env.filter fun v => concerns (Text.lower v.1)

/-- Variables that concern no setting change nothing of what the environment gives. -/
theorem settings_ofSettings (env : Environment) : env.ofSettings.settings = env.settings := by
  have hlookup : ∀ {setting}, setting ∈ topics →
      ((lowered env).filter (concerns ·.1)).lookup (start ++ setting) = (lowered env).lookup (start ++ setting) :=
    fun h => lookup_filter (concerns_of_eq h) _
  have hparts : ∀ {setting}, setting ∈ topics → ∀ lists,
      partsOf ((lowered env).filter (concerns ·.1)) setting lists = partsOf (lowered env) setting lists :=
    fun h lists => partsOf_filter (fun _ _ => concerns_of_keysBelow? h) lists _
  have hcompound : ∀ {setting}, setting ∈ topics → ∀ lists,
      compound ((lowered env).filter (concerns ·.1)) setting lists = compound (lowered env) setting lists := by
    intro setting h lists
    unfold compound
    rw [hlookup h, hparts h]
  have hsimple : ∀ {setting}, setting ∈ topics →
      simple ((lowered env).filter (concerns ·.1)) setting = simple (lowered env) setting := by
    intro setting h
    unfold simple
    rw [hlookup h]
  unfold settings group ofSettings
  dsimp only
  rw [lowered_filter, hcompound (by decide), hcompound (by decide), hcompound (by decide), hsimple (by decide),
    hsimple (by decide)]

end WorkflowForge.Environment
