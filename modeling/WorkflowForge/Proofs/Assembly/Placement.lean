import WorkflowForge.Proofs.Assembly.Contributions
import WorkflowForge.Proofs.Binding.Order

/-!
Where an assembly puts what it inserts. Every contribution extends the collection of its scope by objects with new
names, so what comes later stands behind what came earlier. A container whose first action is new gives its children a
collection of their own below it; one whose first action finds its name taken gives them a collection of an entry that
stands where it always stood.
-/

namespace WorkflowForge

namespace Fields

theorem getElem?_of_isPrefix {old new : List String} (h : old <+: new) {i : Nat} (hi : i < old.length) :
    new[i]? = old[i]? := by
  obtain ⟨more, rfl⟩ := h
  exact List.getElem?_append_left hi

/-- What is new in a collection stays so as the collection grows. -/
theorem NewObjectAt.grows {old new : Fields} {k : Nat} (h : NewObjectAt old k)
    (hgrows : (Json.object old).Grows (.object new)) : NewObjectAt new k := by
  obtain ⟨name, body, hentry, hfirst⟩ := h
  have hnames := hgrows.names_isPrefix
  have hk : k < (names old).length := by
    simpa [names] using (List.getElem?_eq_some_iff.mp hentry).1
  have hname : (names new)[k]? = some name := by
    rw [getElem?_of_isPrefix hnames hk, getElem?_names, hentry]
    rfl
  rw [getElem?_names, Option.map_eq_some_iff] at hname
  obtain ⟨⟨key, v⟩, hnew, rfl⟩ := hname
  have htake : names (new.take k) = names (old.take k) := by
    obtain ⟨more, hmore⟩ := hnames
    have hboth : (names new).take k = (names old).take k := by
      rw [← hmore, List.take_append_of_le_length (Nat.le_of_lt hk)]
    simpa [names, List.map_take] using hboth
  have hfirst_new : key ∉ names (new.take k) := by rw [htake]; exact hfirst
  cases hgrows with
  | other hother => cases hother
  | object _ hvalues =>
      have hgrown := hvalues key _ _ (get?_of_getElem? hentry hfirst) (get?_of_getElem? hnew hfirst_new)
      cases hgrown with
      | other hother => cases hother
      | object _ _ => exact ⟨key, _, hnew, hfirst_new⟩

/-- Entries that have grown, and behind which only new objects were added. -/
structure Extends (old new : Fields) : Prop where
  grows : (Json.object old).Grows (.object new)
  added : ∀ k, old.length ≤ k → k < new.length → NewObjectAt new k

namespace Extends

theorem refl (entries : Fields) : Extends entries entries := ⟨.refl _, fun k hle hlt => by omega⟩

theorem trans {first second third : Fields} (h₁ : Extends first second) (h₂ : Extends second third) :
    Extends first third := by
  refine ⟨h₁.grows.trans h₂.grows, fun k hle hlt => ?_⟩
  by_cases hk : k < second.length
  · exact (h₁.added k hle hk).grows h₂.grows
  · exact h₂.added k (by omega) hlt

/-- Growth that adds no names extends a collection. -/
theorem of_same_names {old new : Fields} (hgrows : (Json.object old).Grows (.object new))
    (hnames : names new = names old) : Extends old new := by
  have hlength : new.length = old.length := by simpa [names] using congrArg List.length hnames
  exact ⟨hgrows, fun k hle hlt => by omega⟩

end Extends

theorem mem_of_mem_free {taken : List String} {actions : Fields} {action : String × Json}
    (h : action ∈ free taken actions) : action ∈ actions := by
  induction actions generalizing taken with
  | nil => cases h
  | cons head rest ih =>
      obtain ⟨name, body⟩ := head
      rw [free] at h
      split at h
      · exact List.mem_cons_of_mem _ (ih h)
      · rcases List.mem_cons.mp h with rfl | hrest
        · exact List.mem_cons_self
        · exact List.mem_cons_of_mem _ (ih hrest)

theorem not_mem_taken_of_mem_free {taken : List String} {actions : Fields} {name : String}
    (h : name ∈ names (free taken actions)) : name ∉ taken := by
  induction actions generalizing taken with
  | nil => cases h
  | cons head rest ih =>
      obtain ⟨key, body⟩ := head
      rw [free] at h
      split at h
      · exact ih h
      · next hkey =>
          rcases List.mem_cons.mp h with rfl | hrest
          · exact hkey
          · exact fun hmem => ih hrest (List.mem_append_left _ hmem)

theorem nodup_names_free (taken : List String) (actions : Fields) : (names (free taken actions)).Nodup := by
  induction actions generalizing taken with
  | nil => exact List.nodup_nil
  | cons head rest ih =>
      obtain ⟨name, body⟩ := head
      rw [free]
      split
      · exact ih taken
      · refine List.nodup_cons.mpr ⟨fun hmem => ?_, ih _⟩
        exact not_mem_taken_of_mem_free hmem (List.mem_append_right _ (by simp))

end Fields

/-- A contribution of objects extends the collection that it is made to. -/
theorem Contribution.onto_extends (c : Contribution) (hobjects : ∀ action ∈ c.actions, action.2.isObject)
    (entries : Fields) : Fields.Extends entries (c.onto entries) := by
  refine ⟨.append _ _, fun k hle hlt => ?_⟩
  have hk : k - entries.length < (Fields.free (Fields.names entries) c.actions).length := by
    rw [Contribution.onto, List.length_append] at hlt
    omega
  obtain ⟨⟨name, v⟩, hentry⟩ :
      ∃ entry, (Fields.free (Fields.names entries) c.actions)[k - entries.length]? = some entry :=
    ⟨_, List.getElem?_eq_getElem hk⟩
  have hmem : (name, v) ∈ Fields.free (Fields.names entries) c.actions := List.mem_of_getElem? hentry
  have hobject : v.isObject := hobjects _ (Fields.mem_of_mem_free hmem)
  obtain ⟨body, hbody⟩ := Option.isSome_iff_exists.mp hobject
  rw [Json.asObject?_eq_some_iff] at hbody
  subst hbody
  refine ⟨name, body, ?_, ?_⟩
  · rw [Contribution.onto, List.getElem?_append_right hle]
    exact hentry
  · rw [Contribution.onto, List.take_append, List.take_of_length_le hle, Fields.names_append, List.mem_append, not_or]
    refine ⟨Fields.not_mem_taken_of_mem_free (List.mem_map_of_mem hmem), ?_⟩
    exact Fields.not_mem_names_take (Fields.nodup_names_free _ _) hentry

/-- A place is reached from another through entries and the collections in their bodies. -/
def Below (above place : List String) : Prop :=
  ∃ rest, place = above ++ rest ∧ Binding.Role.collection.along rest = .collection

namespace Below

theorem refl (place : List String) : Below place place := ⟨[], by simp, rfl⟩

theorem trans {first second third : List String} (h₁ : Below first second) (h₂ : Below second third) :
    Below first third := by
  obtain ⟨rest, rfl, hrest⟩ := h₁
  obtain ⟨more, rfl, hmore⟩ := h₂
  refine ⟨rest ++ more, by simp, ?_⟩
  rw [Binding.Role.along_append, hrest, hmore]

theorem actions (place : List String) (name : String) : Below place (place ++ [name, "actions"]) :=
  ⟨[name, "actions"], rfl, rfl⟩

theorem isPrefix {above place : List String} (h : Below above place) : above <+: place := by
  obtain ⟨rest, rfl, _⟩ := h
  exact List.prefix_append _ _

end Below

/-- One of some contributions changes the document. -/
inductive Entering (allowed : Contribution → Prop) : Json → Json → Prop
  | enter {c : Contribution} {old : Json} {entries : Fields} (hallowed : allowed c)
      (hentries : old.objectAt? c.scope.location = some entries) :
      Entering allowed old (old.modifyAt c.scope.location fun _ => .object (c.onto entries))

/-- The document changes by contributions, one after the other. -/
abbrev Enterings (allowed : Contribution → Prop) : Json → Json → Prop := Relation.ReflTransGen (Entering allowed)

theorem Enterings.mono {allowed allowed' : Contribution → Prop} (h : ∀ c, allowed c → allowed' c) {old new : Json}
    (henterings : Enterings allowed old new) : Enterings allowed' old new := by
  refine Relation.ReflTransGen.mono (fun _ _ hentering => ?_) _ _ henterings
  cases hentering with
  | enter hallowed hentries => exact .enter (h _ hallowed) hentries

theorem Enterings.append {first second : List Contribution} {old middle new : Json}
    (h₁ : Enterings (· ∈ first) old middle) (h₂ : Enterings (· ∈ second) middle new) :
    Enterings (· ∈ first ++ second) old new :=
  Relation.ReflTransGen.trans (h₁.mono fun _ => List.mem_append_left _) (h₂.mono fun _ => List.mem_append_right _)

theorem Contributed.enterings {s : Scope} {contributions : List Contribution} {old new : Json}
    (h : Contributed s contributions old new) :
    Enterings (· ∈ contributions) old new ∧ ∀ c ∈ contributions, c.scope = s := by
  induction h with
  | nil => exact ⟨.refl, fun _ hmem => by cases hmem⟩
  | cons hscope hentries _ _ ih =>
      subst hscope
      refine ⟨.head (.enter List.mem_cons_self hentries) (ih.1.mono fun _ => List.mem_cons_of_mem _), ?_⟩
      intro c hmem
      rcases List.mem_cons.mp hmem with rfl | hrest
      · rfl
      · exact ih.2 c hrest

theorem Contributed.scope_below {s : Scope} {contributions : List Contribution} {old new : Json}
    (h : Contributed s contributions old new) {c : Contribution} (hc : c ∈ contributions) :
    Below s.location c.scope.location := by
  rw [h.enterings.2 c hc]
  exact .refl _

mutual

/-- An assembly without path overrides changes the document by its contributions alone, and all of them are made to
collections below its scope. -/
theorem Recorded.enterings {s : Scope} {old new : Json} :
    (r : Record) → Recorded s r old new → (∀ c ∈ r.contributions, c.payload.actionPath = none) →
      Enterings (· ∈ r.contributions) old new ∧ ∀ c ∈ r.contributions, Below s.location c.scope.location
  | .leaf own, h, _ => by
      cases h with
      | leaf hown =>
          rw [Record.contributions]
          exact ⟨hown.enterings.1, fun _ => hown.scope_below⟩
  | .skipped own, h, _ => by
      cases h with
      | skipped hown =>
          rw [Record.contributions]
          exact ⟨hown.enterings.1, fun _ => hown.scope_below⟩
  | .converted _ scope prebuilt children, h, hpaths => by
      cases h with
      | @converted _ _ c first _ _ _ opened filled _ hown hfirst hlocation hobject hprebuilt hchildren =>
          rw [Record.contributions] at hpaths ⊢
          have hpath : c.payload.actionPath = none := hpaths c (by simp)
          have hscope : Below s.location scope.location := by
            rw [hlocation, Build.childSegments, hpath]
            exact .actions s.location first.1
          obtain ⟨hinner, hbelow⟩ :=
            RecordedAll.enterings children hchildren fun x hx => hpaths x (List.mem_append_right _ hx)
          refine ⟨(hown.enterings.1.append hprebuilt.enterings.1).append hinner, fun x hx => ?_⟩
          rcases List.mem_append.mp hx with hfront | hx
          · rcases List.mem_append.mp hfront with hx | hx
            · exact hown.scope_below hx
            · exact hscope.trans (hprebuilt.scope_below hx)
          · exact hscope.trans (hbelow x hx)

theorem RecordedAll.enterings {s : Scope} {old new : Json} :
    (records : List Record) → RecordedAll s records old new →
      (∀ c ∈ Record.contributionsIn records, c.payload.actionPath = none) →
        Enterings (· ∈ Record.contributionsIn records) old new ∧
          ∀ c ∈ Record.contributionsIn records, Below s.location c.scope.location
  | [], h, _ => by
      cases h with
      | nil =>
          rw [Record.contributionsIn]
          exact ⟨.refl, fun _ hmem => by cases hmem⟩
  | r :: rest, h, hpaths => by
      cases h with
      | cons hfirst hrest =>
          rw [Record.contributionsIn] at hpaths ⊢
          obtain ⟨hsteps, hbelow⟩ := Recorded.enterings r hfirst fun x hx => hpaths x (List.mem_append_left _ hx)
          obtain ⟨hsteps', hbelow'⟩ :=
            RecordedAll.enterings rest hrest fun x hx => hpaths x (List.mem_append_right _ hx)
          exact ⟨hsteps.append hsteps', fun x hx => (List.mem_append.mp hx).elim (hbelow x) (hbelow' x)⟩

end

theorem Entering.grows {allowed : Contribution → Prop} {old new : Json} (h : Entering allowed old new) :
    old.Grows new := by
  cases h with
  | enter _ hentries =>
      refine .modifyAt _ _ fun w hw => ?_
      rw [(Json.objectAt?_eq_some_iff _ _ _).mp hentries] at hw
      cases hw
      exact .append _ _

theorem Enterings.grows {allowed : Contribution → Prop} {old new : Json} (h : Enterings allowed old new) :
    old.Grows new := by
  induction h with
  | refl => exact .refl _
  | tail _ hlast ih => exact ih.trans hlast.grows

theorem Enterings.outlineAt?_eq {allowed : Contribution → Prop} {within place : List String} {old new : Json}
    (h : Enterings allowed old new) (hwithin : ∀ c, allowed c → within <+: c.scope.location)
    (hplace : ¬ within <+: place) : new.outlineAt? place = old.outlineAt? place := by
  induction h with
  | refl => rfl
  | tail _ hlast ih =>
      cases hlast with
      | enter hallowed _ =>
          rw [Json.outlineAt?_modifyAt _ _ fun hprefix => hplace ((hwithin _ hallowed).trans hprefix), ih]

/-- What is contributed below a collection adds no names to it. -/
theorem Enterings.extends_above {allowed : Contribution → Prop} {within place : List String} {old new : Json}
    (h : Enterings allowed old new) (hwithin : ∀ c, allowed c → within <+: c.scope.location)
    (hplace : ¬ within <+: place) {entries : Fields} (hentries : old.objectAt? place = some entries) :
    ∃ grown, new.objectAt? place = some grown ∧ Fields.Extends entries grown ∧
      Fields.names grown = Fields.names entries := by
  obtain ⟨grown, hgrown, hgrows⟩ := h.grows.objectAt? hentries
  have houtline := h.outlineAt?_eq hwithin hplace
  rw [Json.outlineAt?_of_objectAt? hgrown, Json.outlineAt?_of_objectAt? hentries] at houtline
  have hnames : Fields.names grown = Fields.names entries := by simpa using houtline
  exact ⟨grown, hgrown, .of_same_names hgrows hnames, hnames⟩

/-- The collection of a scope was extended, and each of some places is at or below an entry that came in. -/
def Inserts (s : Scope) (places : List (List String)) (old new : Json) : Prop :=
  ∀ entries, old.objectAt? s.location = some entries →
    ∃ grown, new.objectAt? s.location = some grown ∧ Fields.Extends entries grown ∧
      ∀ place ∈ places, ∃ name ∈ Fields.names grown, name ∉ Fields.names entries ∧ s.location ++ [name] <+: place

namespace Inserts

theorem nil (s : Scope) (document : Json) : Inserts s [] document document :=
  fun entries hentries => ⟨entries, hentries, .refl entries, fun _ hmem => by cases hmem⟩

theorem append {s : Scope} {first second : List (List String)} {old middle new : Json}
    (h₁ : Inserts s first old middle) (h₂ : Inserts s second middle new) : Inserts s (first ++ second) old new := by
  intro entries hentries
  obtain ⟨between, hbetween, hextends, hfirst⟩ := h₁ entries hentries
  obtain ⟨grown, hgrown, hextends', hsecond⟩ := h₂ between hbetween
  refine ⟨grown, hgrown, hextends.trans hextends', fun place hplace => ?_⟩
  rcases List.mem_append.mp hplace with hmem | hmem
  · obtain ⟨name, hname, hnew, hprefix⟩ := hfirst place hmem
    exact ⟨name, hextends'.grows.names_isPrefix.subset hname, hnew, hprefix⟩
  · obtain ⟨name, hname, hnew, hprefix⟩ := hsecond place hmem
    exact ⟨name, hname, fun hold => hnew (hextends.grows.names_isPrefix.subset hold), hprefix⟩

end Inserts

theorem Contributed.inserts {s : Scope} {contributions : List Contribution} {old new : Json}
    (h : Contributed s contributions old new)
    (hobjects : ∀ c ∈ contributions, ∀ action ∈ c.actions, action.2.isObject) :
    Inserts s (contributions.flatMap Contribution.places) old new := by
  induction h with
  | nil => exact .nil s _
  | @cons c rest old new entries hscope hentries hinserted _ ih =>
      have hown : Inserts s c.places old (old.modifyAt s.location fun _ => .object (c.onto entries)) := by
        intro entries' hentries'
        rw [hentries] at hentries'
        cases hentries'
        refine ⟨c.onto entries, Json.objectAt?_modifyAt_const _ hentries,
          c.onto_extends (hobjects c List.mem_cons_self) entries, fun place hplace => ?_⟩
        obtain ⟨name, hname, rfl⟩ := List.mem_map.mp hplace
        rw [hinserted] at hname
        refine ⟨name, ?_, Fields.not_mem_taken_of_mem_free hname, hscope ▸ List.prefix_refl _⟩
        rw [Contribution.onto, Fields.names_append]
        exact List.mem_append_right _ hname
      rw [List.flatMap_cons]
      exact hown.append (ih fun x hx => hobjects x (List.mem_cons_of_mem _ hx))

namespace Fields

/-- From behind one entry up to another, all entries are new objects. -/
def Leads (entries : Fields) (earlier later : String) : Prop :=
  ∃ i j : Nat, i < j ∧ (names entries)[i]? = some earlier ∧ (names entries)[j]? = some later ∧
    ∀ k, i < k → k ≤ j → NewObjectAt entries k

theorem Leads.grows {old new : Fields} {earlier later : String} (h : Leads old earlier later)
    (hgrows : (Json.object old).Grows (.object new)) : Leads new earlier later := by
  obtain ⟨i, j, hij, hi, hj, hnew⟩ := h
  refine ⟨i, j, hij, ?_, ?_, fun k hik hkj => (hnew k hik hkj).grows hgrows⟩
  · rw [getElem?_of_isPrefix hgrows.names_isPrefix (List.getElem?_eq_some_iff.mp hi).1, hi]
  · rw [getElem?_of_isPrefix hgrows.names_isPrefix (List.getElem?_eq_some_iff.mp hj).1, hj]

theorem Leads.ne {entries : Fields} {earlier later : String} (h : Leads entries earlier later) : earlier ≠ later := by
  obtain ⟨i, j, hij, hi, hj, hnew⟩ := h
  obtain ⟨name, body, hentry, hfirst⟩ := hnew j hij (Nat.le_refl j)
  rw [getElem?_names, hentry] at hj
  cases hj
  rintro rfl
  refine hfirst (List.mem_of_getElem? (i := i) ?_)
  rw [getElem?_names, List.getElem?_take, if_pos hij, ← getElem?_names]
  exact hi

/-- What came into a collection first leads what came in later. -/
theorem leads_of_extends {old middle new : Fields} (h₁ : Extends old middle) (h₂ : Extends middle new)
    {earlier later : String} (hearlier : earlier ∈ names middle) (hnew : earlier ∉ names old)
    (hlater : later ∈ names new) (hnew' : later ∉ names middle) : Leads new earlier later := by
  obtain ⟨i, hi⟩ := List.mem_iff_getElem?.mp hearlier
  obtain ⟨j, hj⟩ := List.mem_iff_getElem?.mp hlater
  have hi_lt : i < (names middle).length := (List.getElem?_eq_some_iff.mp hi).1
  have hj_lt : j < (names new).length := (List.getElem?_eq_some_iff.mp hj).1
  have hi_ge : (names old).length ≤ i := by
    by_contra hlt
    rw [getElem?_of_isPrefix h₁.grows.names_isPrefix (by omega)] at hi
    exact hnew (List.mem_of_getElem? hi)
  have hj_ge : (names middle).length ≤ j := by
    by_contra hlt
    rw [getElem?_of_isPrefix h₂.grows.names_isPrefix (by omega)] at hj
    exact hnew' (List.mem_of_getElem? hj)
  refine ⟨i, j, by omega, ?_, hj, fun k hik hkj => ?_⟩
  · rw [getElem?_of_isPrefix h₂.grows.names_isPrefix hi_lt, hi]
  refine (h₁.trans h₂).added k ?_ ?_
  · simp only [names, List.length_map] at hi_ge
    omega
  · simp only [names, List.length_map] at hj_lt
    omega

end Fields

theorem Binding.Visited.grows {old new : Json} {start place : List String} (h : Binding.Visited old start place)
    (hgrows : old.Grows new) : Binding.Visited new start place := by
  induction h with
  | start => exact .start
  | nested name _ hnesting hobject ih =>
      obtain ⟨fields, hfields⟩ := Option.isSome_iff_exists.mp hobject
      obtain ⟨grown, hgrown, _⟩ := hgrows.objectAt? hfields
      exact .nested name ih hnesting (by rw [hgrown]; rfl)

/-- Two places part in a collection that is bound with the one at the start, in which the entry of the earlier place
leads the entry of the later. -/
def Trails (document : Json) (start later earlier : List String) : Prop :=
  ∃ place entries first second, Binding.Visited document start place ∧ document.objectAt? place = some entries ∧
    Fields.Leads entries first second ∧ place ++ [first] <+: earlier ∧ place ++ [second] <+: later

theorem Trails.grows {old new : Json} {start later earlier : List String} (h : Trails old start later earlier)
    (hgrows : old.Grows new) : Trails new start later earlier := by
  obtain ⟨place, entries, first, second, hvisited, hentries, hleads, hearlier, hlater⟩ := h
  obtain ⟨grown, hgrown, hentries_grow⟩ := hgrows.objectAt? hentries
  exact ⟨place, grown, first, second, hvisited.grows hgrows, hgrown, hleads.grows hentries_grow, hearlier, hlater⟩

/-- What is inserted at a scope trails what was inserted there before. -/
theorem Inserts.trails {s : Scope} {start : List String} {first second : List (List String)} {old middle new : Json}
    (h₁ : Inserts s first old middle) (h₂ : Inserts s second middle new)
    (hvisited : Binding.Visited new start s.location) {entries : Fields}
    (hentries : old.objectAt? s.location = some entries) :
    ∀ earlier ∈ first, ∀ later ∈ second, Trails new start later earlier := by
  intro earlier hearlier later hlater
  obtain ⟨between, hbetween, hextends, hfirst⟩ := h₁ entries hentries
  obtain ⟨grown, hgrown, hextends', hsecond⟩ := h₂ between hbetween
  obtain ⟨name, hname, hnew, hplace⟩ := hfirst earlier hearlier
  obtain ⟨name', hname', hnew', hplace'⟩ := hsecond later hlater
  have hleads := Fields.leads_of_extends hextends hextends' hname hnew hname' hnew'
  exact ⟨s.location, grown, name, name', hvisited, hgrown, hleads, hplace, hplace'⟩

/-- What is inserted below a new entry counts as inserted with it. -/
theorem Inserts.with_below {s scope : Scope} {c : Contribution} {name : String} {below : List Contribution}
    {old opened new : Json} (hown : Inserts s c.places old opened) (hscope : c.scope = s) (hname : name ∈ c.inserted)
    (hlocation : scope.location = s.location ++ [name, "actions"])
    (hbelow : ∀ x ∈ below, Below scope.location x.scope.location) (henterings : Enterings (· ∈ below) opened new) :
    Inserts s ((c :: below).flatMap Contribution.places) old new := by
  intro entries hentries
  obtain ⟨between, hbetween, hextends, hplaces⟩ := hown entries hentries
  have hwithin : ∀ x ∈ below, scope.location <+: x.scope.location := fun x hx => (hbelow x hx).isPrefix
  have habove : ¬ scope.location <+: s.location := by
    rw [hlocation]
    exact not_append_prefix_self (by simp)
  obtain ⟨grown, hgrown, hextends', hnames⟩ := henterings.extends_above hwithin habove hbetween
  rw [← hnames] at hplaces
  refine ⟨grown, hgrown, hextends.trans hextends', fun place hplace => ?_⟩
  rw [List.flatMap_cons, List.mem_append] at hplace
  rcases hplace with hmem | hmem
  · exact hplaces place hmem
  · have hentry : s.location ++ [name] ∈ c.places := List.mem_map.mpr ⟨name, hname, by rw [hscope]⟩
    obtain ⟨key, hkey, hnew, hprefix⟩ := hplaces _ hentry
    obtain ⟨x, hx, hplace⟩ := List.mem_flatMap.mp hmem
    obtain ⟨inner, _, rfl⟩ := List.mem_map.mp hplace
    have hinside : s.location ++ [name] <+: scope.location := ⟨["actions"], by simp [hlocation]⟩
    refine ⟨key, hkey, hnew, hprefix.trans (hinside.trans ((hwithin x hx).trans (List.prefix_append _ _)))⟩

mutual

/-- Where every container has an entry of its own, the assembly of an activity extends the collection of its scope,
puts everything below entries that came in, and leaves the actions of later children trailing those of earlier ones.
The children of a container are settled in the collection below its first action, which is visited as that of the
scope is. -/
theorem Recorded.inserts {s : Scope} {start : List String} {old new : Json} :
    (r : Record) → Recorded s r old new → (∀ c ∈ r.contributions, c.payload.actionPath = none) →
      (∀ c ∈ r.contributions, ∀ action ∈ c.actions, action.2.isObject) → r.ownsEntries = true →
        Binding.Visited old start s.location → (old.objectAt? s.location).isSome →
          Inserts s r.inserted old new ∧ r.InOrder (Trails new start)
  | .leaf own, h, _, hobjects, _, _, _ => by
      cases h with
      | leaf hown =>
          rw [Record.contributions] at hobjects
          rw [Record.inserted, Record.contributions, Record.InOrder, Record.families]
          exact ⟨hown.inserts hobjects, fun _ hmem => by cases hmem⟩
  | .skipped own, h, _, hobjects, _, _, _ => by
      cases h with
      | skipped hown =>
          rw [Record.contributions] at hobjects
          rw [Record.inserted, Record.contributions, Record.InOrder, Record.families]
          exact ⟨hown.inserts hobjects, fun _ hmem => by cases hmem⟩
  | .converted _ scope prebuilt children, h, hpaths, hobjects, howns, hvisited, hobject => by
      cases h with
      | @converted _ _ c first _ _ _ opened filled _ hown hfirst hlocation hthere hprebuilt hchildren =>
          have hsplit : (Record.converted (some c) scope prebuilt children).contributions =
              c :: (prebuilt ++ Record.contributionsIn children) := by
            rw [Record.contributions, Option.toList_some, List.append_assoc, List.singleton_append]
          rw [hsplit] at hpaths hobjects
          rw [Record.ownsEntries, Bool.and_eq_true, Option.any_some, hfirst, Option.any_some, List.contains_iff_mem]
            at howns
          rw [Build.childSegments, hpaths c List.mem_cons_self] at hlocation
          have hpaths_in : ∀ x ∈ Record.contributionsIn children, x.payload.actionPath = none := fun x hx =>
            hpaths x (by simp [hx])
          have hobjects_in : ∀ x ∈ Record.contributionsIn children, ∀ action ∈ x.actions, action.2.isObject :=
            fun x hx => hobjects x (by simp [hx])
          have hopened : Binding.Visited opened start scope.location := by
            rw [hlocation] at hthere ⊢
            exact .nested first.1 (hvisited.grows hown.enterings.1.grows) .actions hthere
          obtain ⟨_, hpairs, hinner⟩ := RecordedAll.inserts children hchildren hpaths_in hobjects_in howns.2
            (hopened.grows hprebuilt.enterings.1.grows) (hprebuilt.object hthere)
          constructor
          · obtain ⟨hsteps, hbelow⟩ := RecordedAll.enterings children hchildren hpaths_in
            have hbelow_all : ∀ x ∈ prebuilt ++ Record.contributionsIn children,
                Below scope.location x.scope.location :=
              fun x hx => (List.mem_append.mp hx).elim hprebuilt.scope_below (hbelow x)
            have hplaces := hown.inserts fun x hx => hobjects x (List.mem_singleton.mp hx ▸ List.mem_cons_self)
            rw [List.flatMap_singleton] at hplaces
            rw [Record.inserted, hsplit]
            exact hplaces.with_below (hown.enterings.2 c List.mem_cons_self) howns.1 hlocation hbelow_all
              (hprebuilt.enterings.1.append hsteps)
          · exact (Record.inOrder_converted _ _ _ _ _).mpr ⟨hpairs, hinner⟩

theorem RecordedAll.inserts {s : Scope} {start : List String} {old new : Json} :
    (records : List Record) → RecordedAll s records old new →
      (∀ c ∈ Record.contributionsIn records, c.payload.actionPath = none) →
        (∀ c ∈ Record.contributionsIn records, ∀ action ∈ c.actions, action.2.isObject) →
          Record.ownsEntriesIn records = true → Binding.Visited old start s.location →
            (old.objectAt? s.location).isSome →
              Inserts s ((Record.contributionsIn records).flatMap Contribution.places) old new ∧
                (records.Pairwise fun first second =>
                  ∀ earlier ∈ first.inserted, ∀ later ∈ second.inserted, Trails new start later earlier) ∧
                ∀ r ∈ records, r.InOrder (Trails new start)
  | [], h, _, _, _, _, _ => by
      cases h with
      | nil =>
          rw [Record.contributionsIn]
          exact ⟨.nil s _, .nil, fun _ hmem => by cases hmem⟩
  | r :: rest, h, hpaths, hobjects, howns, hvisited, hobject => by
      cases h with
      | @cons _ _ _ _ middle _ hfirst hrest =>
          rw [Record.contributionsIn] at hpaths hobjects ⊢
          rw [Record.ownsEntriesIn, Bool.and_eq_true] at howns
          have hpaths_first : ∀ x ∈ r.contributions, x.payload.actionPath = none := fun x hx =>
            hpaths x (List.mem_append_left _ hx)
          have hpaths_rest : ∀ x ∈ Record.contributionsIn rest, x.payload.actionPath = none := fun x hx =>
            hpaths x (List.mem_append_right _ hx)
          have hgrows : old.Grows middle := (Recorded.enterings r hfirst hpaths_first).1.grows
          have hgrows' : middle.Grows new := (RecordedAll.enterings rest hrest hpaths_rest).1.grows
          obtain ⟨entries, hentries⟩ := Option.isSome_iff_exists.mp hobject
          obtain ⟨between, hbetween, _⟩ := hgrows.objectAt? hentries
          obtain ⟨hinserts, horder⟩ := Recorded.inserts r hfirst hpaths_first
            (fun x hx => hobjects x (List.mem_append_left _ hx)) howns.1 hvisited hobject
          obtain ⟨hinserts', hpairs, horder'⟩ := RecordedAll.inserts rest hrest hpaths_rest
            (fun x hx => hobjects x (List.mem_append_right _ hx)) howns.2 (hvisited.grows hgrows)
            (by rw [hbetween]; rfl)
          refine ⟨?_, List.pairwise_cons.mpr ⟨fun second hsecond earlier hearlier later hlater => ?_, hpairs⟩, ?_⟩
          · rw [List.flatMap_append]
            exact hinserts.append hinserts'
          · have hmem : later ∈ (Record.contributionsIn rest).flatMap Contribution.places := by
              rw [Record.contributionsIn_eq_flatMap, List.flatMap_assoc]
              exact List.mem_flatMap.mpr ⟨second, hsecond, hlater⟩
            have hvisited_new := hvisited.grows (hgrows.trans hgrows')
            exact hinserts.trails hinserts' hvisited_new hentries earlier hearlier later hmem
          · refine List.forall_mem_cons.mpr ⟨horder.mono fun later earlier h => h.grows hgrows', horder'⟩

end

end WorkflowForge
