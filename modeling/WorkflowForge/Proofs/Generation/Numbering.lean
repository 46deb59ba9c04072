import WorkflowForge.Proofs.Assembly.Course
import WorkflowForge.Proofs.Files.Containment
import WorkflowForge.Proofs.Generation.Faults

/-!
The numbers of renderings. At every point of the building of a process manager the counter is the number of renderings
so far, whatever came of them. An element that was rendered carries the number of its latest rendering, and no other
element carries that number; an element that was not rendered is as it was. As the file in which a rendered text is kept
begins with the number, no two texts of a building are kept in one file, unless a slash in the name of an element puts
the number elsewhere.
-/

namespace WorkflowForge

open Stage (renderings reached renderings_append reached_append)

namespace Rendering

/-- The rendering is one for what stands at a place. -/
def Of (r : Rendering) (place : Place) : Prop := ∃ i, r.item = some i ∧ i.place = place

/-- The number of the latest rendering for what stands at a place. -/
def IsLatest (past : List Rendering) (place : Place) (n : Nat) : Prop :=
  ∃ earlier r later, past = earlier ++ r :: later ∧ r.Of place ∧ (∀ x ∈ later, ¬ x.Of place) ∧ n = earlier.length + 1

theorem exists_isLatest {past : List Rendering} {place : Place} (h : ∃ r ∈ past, r.Of place) :
    ∃ n, IsLatest past place n := by
  induction past with
  | nil =>
      obtain ⟨r, hr, _⟩ := h
      cases hr
  | cons first rest ih =>
      by_cases hrest : ∃ r ∈ rest, r.Of place
      · obtain ⟨n, earlier, r, later, heq, hof, hlater, hn⟩ := ih hrest
        refine ⟨n + 1, first :: earlier, r, later, by rw [heq]; rfl, hof, hlater, ?_⟩
        rw [hn, List.length_cons]
      · obtain ⟨r, hr, hof⟩ := h
        rcases List.mem_cons.mp hr with rfl | hmem
        · exact ⟨1, [], r, rest, rfl, hof, fun x hx hx' => hrest ⟨x, hx, hx'⟩, rfl⟩
        · exact absurd ⟨r, hmem, hof⟩ hrest

theorem IsLatest.bounds {past : List Rendering} {place : Place} {n : Nat} (h : IsLatest past place n) :
    1 ≤ n ∧ n ≤ past.length := by
  obtain ⟨earlier, r, later, rfl, _, _, rfl⟩ := h
  rw [List.length_append, List.length_cons]
  omega

/-- A rendering is the latest one for a single place. -/
theorem IsLatest.place_eq {past : List Rendering} {p q : Place} {n : Nat} (hp : IsLatest past p n)
    (hq : IsLatest past q n) : p = q := by
  obtain ⟨earlier, r, later, heq, ⟨i, hi, rfl⟩, _, hn⟩ := hp
  obtain ⟨earlier', r', later', heq', ⟨j, hj, rfl⟩, _, hn'⟩ := hq
  have hlength : earlier.length = earlier'.length := by omega
  rw [heq] at heq'
  have hsame : r = r' := by
    have htail := (List.append_inj heq' hlength).2
    exact (List.cons.inj htail).1
  rw [hsame, hj] at hi
  rw [Option.some.inj hi]

/-- The stamps that renderings give, the latest first, where the counter stood at a number before. -/
def stamps (before : Int) : List Rendering → Stamps
  | [] => []
  | r :: rest => stamps (before + 1) rest ++ (r.item.map fun i => (i.place, before + 1)).toList

theorem stamps_append (before : Int) (past more : List Rendering) :
    stamps before (past ++ more) = stamps (before + past.length) more ++ stamps before past := by
  induction past generalizing before with
  | nil => simp [stamps]
  | cons r rest ih =>
      have hnumber : before + 1 + rest.length = before + (r :: rest).length := by
        rw [List.length_cons]
        push_cast
        omega
      rw [List.cons_append, stamps, stamps, ih, hnumber, List.append_assoc]

theorem lookup_stamps_of_not_of (before : Int) {past : List Rendering} {place : Place} (h : ∀ r ∈ past, ¬ r.Of place) :
    (stamps before past).lookup place = none := by
  induction past generalizing before with
  | nil => rfl
  | cons r rest ih =>
      rw [List.forall_mem_cons] at h
      rw [stamps, List.lookup_append, ih _ h.2, Option.none_or]
      cases hitem : r.item with
      | none => rfl
      | some i =>
          have hne : (place == i.place) = false := by
            rw [beq_eq_false_iff_ne]
            intro heq
            exact h.1 ⟨i, hitem, heq.symm⟩
          simp [List.lookup_cons, hne]

/-- The stamp of a place is the number of the latest rendering for what stands there. -/
theorem lookup_stamps_of_isLatest (before : Int) {past : List Rendering} {place : Place} {n : Nat}
    (h : IsLatest past place n) : (stamps before past).lookup place = some (before + n) := by
  obtain ⟨earlier, r, later, rfl, ⟨i, hitem, hplace⟩, hlater, rfl⟩ := h
  have hnone := lookup_stamps_of_not_of (before + earlier.length + 1) hlater
  have hhere : ((r.item.map fun i => (i.place, before + earlier.length + 1)).toList ++ stamps before earlier).lookup
      place = some (before + ((earlier.length + 1 : Nat) : Int)) := by
    rw [hitem, ← hplace]
    simp [Int.add_assoc]
  rw [stamps_append, stamps, List.append_assoc, List.lookup_append, hnone, Option.none_or]
  exact hhere

end Rendering

namespace Build

/-- From one bench to another some renderings took their numbers, one after the other. -/
structure Numbers (b : Bench) (past : List Rendering) (c : Bench) : Prop where
  ids : c.ids = b.ids + past.length
  stamps : c.stamps = Rendering.stamps b.ids past ++ b.stamps
  before : ∀ (i : Nat) r, past[i]? = some r → r.before.ids = b.ids + i

theorem Numbers.of_same {b c : Bench} (hids : c.ids = b.ids) (hstamps : c.stamps = b.stamps) : Numbers b [] c :=
  ⟨by simp [hids], by simp [Rendering.stamps, hstamps], by simp⟩

theorem Numbers.trans {a b c : Bench} {past more : List Rendering} (hab : Numbers a past b) (hbc : Numbers b more c) :
    Numbers a (past ++ more) c where
  ids := by
    rw [hbc.ids, hab.ids, List.length_append]
    push_cast
    omega
  stamps := by rw [hbc.stamps, hab.stamps, hab.ids, Rendering.stamps_append, List.append_assoc]
  before i r hr := by
    rcases Nat.lt_or_ge i past.length with hlt | hge
    · rw [List.getElem?_append_left hlt] at hr
      exact hab.before i r hr
    · rw [List.getElem?_append_right hge] at hr
      rw [hbc.before _ r hr, hab.ids]
      omega

theorem Numbers.of_numbered (item : Option Item) (snippet : Snippet) {b c : Bench}
    (hids : c.ids = (numbered item b).ids) (hstamps : c.stamps = (numbered item b).stamps) :
    Numbers b [⟨item, snippet, b⟩] c where
  ids := hids
  stamps := by
    rw [hstamps]
    cases item <;> rfl
  before i r hr := by
    rw [List.getElem?_singleton] at hr
    split at hr
    · next hzero =>
        rw [← Option.some.inj hr, hzero]
        simp
    · cases hr

theorem renderJson_numbers (w : Workshop) (item : Option Item) (snippet : Snippet) (b : Bench) :
    Numbers b [⟨item, snippet, b⟩] ((renderJson w item snippet true).run b).2 := by
  rw [renderJson_run]
  split
  · exact .of_numbered item snippet rfl rfl
  · split
    · exact .of_numbered item snippet rfl rfl
    · split
      · exact .of_numbered item snippet rfl rfl
      · split
        · exact .of_numbered item snippet rfl rfl
        · exact .of_numbered item snippet rfl rfl

/-- At every point of a course the renderings so far are numbered, if no further step takes a number. -/
theorem Course.numbers {w : Workshop} {t : Terms} {α : Type} {x : Build α} {b : Bench} {stages : List Stage}
    {result : Except Fault α × Bench} (h : Course w t x b stages result)
    (hfurther : ∀ (β : Type) (y : Build β) b, t.further β y →
      (y.run b).2.ids = b.ids ∧ (y.run b).2.stamps = b.stamps)
    {point : List Stage} (hpoint : point <+: stages) : Numbers b (renderings point) (reached b point) := by
  refine h.along (R := Numbers) (fun b => .of_same rfl rfl) Numbers.trans ?_ ?_ ?_ hpoint
  · intro β y c hy
    rcases hy.rendersLike c with hlike | hstep
    · exact .of_same hlike.ids hlike.stamps
    · exact .of_same (hfurther β y c hstep).1 (hfurther β y c hstep).2
  · intro item snippet c
    exact .of_numbered item snippet rfl rfl
  · intro item snippet c
    exact renderJson_numbers w item snippet c

end Build

/-- What is so at a point of a building that began without numbers, with the renderings until then: the counter is their
number, and the workflow is as it was, but that each element that was rendered carries the number of its latest
rendering. -/
structure Workflow.Numbered (flow : Workflow) (past : List Rendering) (b : Bench) : Prop where
  rendered : ∀ r ∈ past, ∃ i n, r.item = some i ∧ flow.Has i ∧ Rendering.IsLatest past i.place n
  stamped : ∀ place e n, flow.elementAt? place = some e → Rendering.IsLatest past place n →
    (b.stamps.onWorkflow flow).elementAt? place = some (e.stamp n) ∧ (e.stamp n).uniqueId? = some (.int n) ∧
      1 ≤ n ∧ n ≤ b.ids
  distinct : ∀ p q n k, Rendering.IsLatest past p n → Rendering.IsLatest past q k → p ≠ q → n ≠ k
  others : ∀ place e, flow.elementAt? place = some e → (∀ r ∈ past, ¬ r.Of place) →
    (b.stamps.onWorkflow flow).elementAt? place = some e
  channels : (b.stamps.onWorkflow flow).channels = flow.channels

theorem Build.Numbers.numbered {flow : Workflow} {past : List Rendering} {b c : Bench} (h : Numbers b past c)
    (hids : b.ids = 0) (hstamps : b.stamps = [])
    (hrendered : ∀ r ∈ past, ∃ i, r.item = some i ∧ flow.Has i) : flow.Numbered past c where
  rendered r hr := by
    obtain ⟨i, hitem, hhas⟩ := hrendered r hr
    obtain ⟨n, hn⟩ := Rendering.exists_isLatest ⟨r, hr, i, hitem, rfl⟩
    exact ⟨i, n, hitem, hhas, hn⟩
  stamped place e n he hn := by
    have hlookup := Rendering.lookup_stamps_of_isLatest b.ids hn
    have hbounds := hn.bounds
    have hcount := h.ids
    rw [hids, Int.zero_add] at hlookup hcount
    refine ⟨?_, e.uniqueId?_stamp n, hbounds.1, ?_⟩
    · rw [Stamps.elementAt?_onWorkflow, he, Option.map_some, Stamps.on, h.stamps, hstamps, List.append_nil, hids,
        hlookup]
    · rw [hcount]
      exact Int.ofNat_le.mpr hbounds.2
  distinct p q n k hp hq hne heq := by
    subst heq
    exact hne (hp.place_eq hq)
  others place e he hnot := by
    have hlookup := Rendering.lookup_stamps_of_not_of b.ids hnot
    rw [Stamps.elementAt?_onWorkflow, he, Option.map_some, Stamps.on, h.stamps, hstamps, List.append_nil, hlookup]
  channels := rfl

theorem eq_of_toString_eq {m n : Int} (hm : 0 ≤ m) (hn : 0 ≤ n) (h : (toString m).toList = (toString n).toList) :
    m = n := by
  obtain ⟨k, rfl⟩ := Int.eq_ofNat_of_zero_le hm
  obtain ⟨l, rfl⟩ := Int.eq_ofNat_of_zero_le hn
  have hdigits : k.repr.toList = l.repr.toList := h
  rw [Nat.toList_repr, Nat.toList_repr] at hdigits
  have hvalue := congrArg (fun digits => Nat.ofDigitChars 10 digits 0) hdigits
  simp only [Nat.ofDigitChars_ten_toDigits] at hvalue
  rw [hvalue]

/-- Names that begin with a number and a dot are equal only if the numbers are. -/
theorem number_eq_of_name_eq {m n : Int} (hm : 0 ≤ m) (hn : 0 ≤ n) {s t : String}
    (h : toString m ++ "." ++ s = toString n ++ "." ++ t) : m = n := by
  have hfront (id : Int) (rest : String) :
      (toString id ++ "." ++ rest).toList.takeWhile (· != '.') = (toString id).toList := by
    have hplain : ∀ c ∈ (toString id).toList, (c != '.') = true := by
      intro c hc
      simpa using (plain_of_mem_toString hc).1
    rw [String.toList_append, String.toList_append, List.append_assoc, List.takeWhile_append_of_pos hplain]
    simp
  apply eq_of_toString_eq hm hn
  rw [← hfront m s, ← hfront n t, h]

/-- A name in which no character divides a path. -/
def IsPlainName (name : String) : Prop := '/' ∉ name.toList ∧ '\\' ∉ name.toList

namespace Rendering

variable {w : Workshop}

/-- A rendering for an element with a plain name keeps its text in a file that begins with its number. -/
theorem exists_place_of_kept? {flow : Workflow} {r : Rendering} {p : Path}
    (hpaths : ∀ q ∈ w.templatePaths, q.IsProper) (hnames : ∀ e ∈ flow.elements, IsPlainName e.name)
    (hitem : ∃ i, r.item = some i ∧ flow.Has i) (h : r.kept? w = some p) (d : Disk) :
    ∃ folder tail, d.place p = folder ++ [toString (r.before.ids + 1) ++ "." ++ tail] := by
  obtain ⟨_, source, hsource, hp⟩ := kept?_eq_some h
  obtain ⟨i, hi, e, he, hat⟩ := hitem
  have hname : i.name = e.name := by
    rw [Item.name, he]
    rfl
  have hplain := hnames e (Workflow.mem_elements_of_elementAt? hat)
  rw [← hname] at hplain
  obtain ⟨_, q, hq, hjoin⟩ := Snippet.findFile_eq_some hsource
  have hproper : source.IsProper := by
    rw [hjoin]
    exact (hpaths q hq).join (Path.isProper_ofText _)
  rw [hp, Build.nextTarget, hi]
  exact place_inspectionPath_of_plain w r.snippet hplain.1 hplain.2 hproper.slash_not_mem_name _ _ d

/-- Renderings with different numbers keep their texts at different places. -/
theorem place_ne_of_kept? {flow : Workflow} {r s : Rendering} (hpaths : ∀ q ∈ w.templatePaths, q.IsProper)
    (hnames : ∀ e ∈ flow.elements, IsPlainName e.name) (hr : ∃ i, r.item = some i ∧ flow.Has i)
    (hs : ∃ i, s.item = some i ∧ flow.Has i) (hrids : 0 ≤ r.before.ids) (hsids : 0 ≤ s.before.ids)
    (hne : r.before.ids ≠ s.before.ids) {p q : Path} (hp : r.kept? w = some p) (hq : s.kept? w = some q) (d : Disk) :
    d.place p ≠ d.place q := by
  intro heq
  obtain ⟨folder, tail, hpplace⟩ := exists_place_of_kept? hpaths hnames hr hp d
  obtain ⟨folder', tail', hqplace⟩ := exists_place_of_kept? hpaths hnames hs hq d
  rw [hpplace, hqplace] at heq
  have hlast := List.singleton_inj.mp (List.append_inj_right' heq rfl)
  have hnumber := number_eq_of_name_eq (by omega) (by omega) hlast
  omega

end Rendering

/-- No two renderings of a course that began without numbers keep their texts in one file, if names are plain. -/
theorem Build.Numbers.keeps_apart {w : Workshop} {flow : Workflow} {past : List Rendering} {b c : Bench}
    (h : Numbers b past c) (hids : b.ids = 0) (hpaths : ∀ q ∈ w.templatePaths, q.IsProper)
    (hrendered : ∀ r ∈ past, ∃ i, r.item = some i ∧ flow.Has i)
    (hnames : ∀ e ∈ flow.elements, IsPlainName e.name) :
    past.Pairwise fun r s =>
      ∀ p q, r.kept? w = some p → s.kept? w = some q → ∀ d : Disk, d.place p ≠ d.place q := by
  rw [List.pairwise_iff_getElem]
  intro i j hi hj hij p q hp hq d
  have hfirst := h.before i past[i] (List.getElem?_eq_getElem hi)
  have hsecond := h.before j past[j] (List.getElem?_eq_getElem hj)
  exact Rendering.place_ne_of_kept? hpaths hnames (hrendered _ (List.getElem_mem hi))
    (hrendered _ (List.getElem_mem hj)) (by omega) (by omega) (by omega) hp hq d

namespace Generator

/-- What a generator does besides the steps of an assembly takes no number. -/
theorem Step.ids_stamps {g : Generator} {w : Workshop} {α : Type} {x : Build α} (h : g.Step w α x) (b : Bench) :
    (x.run b).2.ids = b.ids ∧ (x.run b).2.stamps = b.stamps := by
  cases h with
  | onDocument f => exact ⟨rfl, rfl⟩
  | write kind output houtput text =>
      rw [writeDocument_run]
      split <;> exact ⟨rfl, rfl⟩
  | prepare =>
      rw [prepareDirectory_run]
      split
      · exact ⟨rfl, rfl⟩
      · split <;> exact ⟨rfl, rfl⟩

end Generator

open Generator in
/-- Every building of a process manager has a course, and at every point of it the counter is the number of renderings
so far and the workflow carries their numbers. -/
theorem renderings_number_their_elements (g : Generator) (p : Progress) (application : String) (m : ProcessManager)
    (hregistry : g.registry.BuiltIn) (hpaths : ∀ q ∈ g.templatePaths, q.IsProper) :
    let start := p.bench application m
    let w := g.ownWorkshop m
    (∃ stages, Build.Course w (g.terms w) (g.buildManager m) start stages ((g.buildManager m).run start)) ∧
    ∀ stages result, Build.Course w (g.terms w) (g.buildManager m) start stages result →
      result = (g.buildManager m).run start ∧ reached start stages = result.2 ∧
      (∀ point, point <+: stages → (reached start point).ids = (renderings point).length ∧
        (∀ flow, m.workflow = some flow → flow.Numbered (renderings point) (reached start point)) ∧
        (m.workflow = none → renderings point = [])) ∧
      ((∀ flow, m.workflow = some flow → ∀ e ∈ flow.elements, IsPlainName e.name) →
        (renderings stages).Pairwise fun r s =>
          ∀ p q, r.kept? w = some p → s.kept? w = some q → ∀ d : Disk, d.place p ≠ d.place q) := by
  intro start w
  refine ⟨(buildManager_composed hregistry m).exists_course start, fun stages result hcourse => ?_⟩
  have hnumbers {point : List Stage} (hpoint : point <+: stages) :
      Build.Numbers start (renderings point) (reached start point) :=
    hcourse.numbers (fun _ _ b hstep => hstep.ids_stamps b) hpoint
  have hrenders : ∀ r ∈ renderings stages, w.Renders r.item := fun r hr => (hcourse.of_mem_renderings hr).2
  have hrendered {flow : Workflow} (hflow : m.workflow = some flow) :
      ∀ r ∈ renderings stages, ∃ i, r.item = some i ∧ flow.Has i := by
    intro r hr
    obtain ⟨other, i, hother, hi, hhas⟩ := hrenders r hr
    have hsame : flow = other := Option.some.inj (hflow.symm.trans hother)
    exact ⟨i, hi, hsame ▸ hhas⟩
  have hnothing (hnone : m.workflow = none) : renderings stages = [] := by
    rw [List.eq_nil_iff_forall_not_mem]
    intro r hr
    obtain ⟨flow, _, hflow, _⟩ := hrenders r hr
    have hclash := hnone.symm.trans hflow
    cases hclash
  refine ⟨hcourse.run_eq.symm, hcourse.reached_eq, ?_, ?_⟩
  · intro point hpoint
    have hearlier : renderings point <+: renderings stages := hpoint.filterMap _
    refine ⟨?_, ?_, ?_⟩
    · rw [(hnumbers hpoint).ids]
      exact Int.zero_add _
    · intro flow hflow
      exact (hnumbers hpoint).numbered rfl rfl fun r hr => hrendered hflow r (hearlier.subset hr)
    · intro hnone
      rw [hnothing hnone] at hearlier
      exact List.prefix_nil.mp hearlier
  · intro hnames
    cases hflow : m.workflow with
    | none =>
        rw [hnothing hflow]
        exact .nil
    | some flow =>
        exact (hnumbers (List.prefix_refl _)).keeps_apart rfl hpaths (hrendered hflow) (hnames flow hflow)

/-- A process manager that keeps the texts of both its skeletons, one of which is no JSON. -/
def keptManager : ProcessManager :=
  smallManager "pm" "flow"
    [(.connections, "conn.json", some "debug", "c.json"), (.appSettings, "app.json", some "debug", "a.json")]

/-- Two renderings, of which the first fails: both are counted, the element carries the second number, and both texts
are kept. -/
theorem renderings_number_their_elements_kept :
    let start := (Progress.start invalidDisk .empty 0).bench "app" keptManager
    let w := smallGenerator.ownWorkshop keptManager
    let final := (smallGenerator.buildManager keptManager).run start
    (final.2.disk.entryAt? ["generated", "debug", "1.flow.conn.json"]).isSome ∧
      (final.2.disk.entryAt? ["generated", "debug", "2.flow.app.json"]).isSome ∧
      ∃ stages, Build.Course w (smallGenerator.terms w) (smallGenerator.buildManager keptManager) start stages final ∧
        reached start stages = final.2 ∧ final.2.ids = 2 ∧ (renderings stages).length = 2 ∧
        (∀ flow, keptManager.workflow = some flow → flow.Numbered (renderings stages) final.2) ∧
        (renderings stages).Pairwise fun r s =>
          ∀ p q, r.kept? w = some p → s.kept? w = some q → ∀ d : Disk, d.place p ≠ d.place q := by
  intro start w final
  have hpaths : ∀ q ∈ smallGenerator.templatePaths, q.IsProper := by
    intro q hq
    rw [List.mem_singleton.mp hq]
    exact Path.isProper_ofText _
  have hnames : ∀ flow, keptManager.workflow = some flow → ∀ e ∈ flow.elements, IsPlainName e.name := by
    intro flow hflow e he
    cases hflow
    rw [List.mem_singleton.mp he]
    exact ⟨by decide, by decide⟩
  have hrun : ((final.2.disk.entryAt? ["generated", "debug", "1.flow.conn.json"]).isSome ∧
      (final.2.disk.entryAt? ["generated", "debug", "2.flow.app.json"]).isSome) ∧ final.2.ids = 2 := by
    decide +kernel
  obtain ⟨⟨hconnections, hsettings⟩, hids⟩ := hrun
  obtain ⟨⟨stages, hcourse⟩, hall⟩ :=
    renderings_number_their_elements smallGenerator (Progress.start invalidDisk .empty 0) "app" keptManager
      Registry.standard_builtIn hpaths
  obtain ⟨_, hreached, hpoints, hkept⟩ := hall stages final hcourse
  obtain ⟨hcount, hnumbered, _⟩ := hpoints stages (List.prefix_refl _)
  rw [hreached] at hcount hnumbered
  have hlength : (renderings stages).length = 2 := by omega
  exact ⟨hconnections, hsettings, stages, hcourse, hreached, hids, hlength, hnumbered, hkept hnames⟩

end WorkflowForge
