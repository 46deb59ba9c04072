import WorkflowForge.Assembly.Render
import WorkflowForge.Generation.Generator
import WorkflowForge.Proofs.Files.PathText

/-!
Texts that lead out of the directory below which they are put, and texts that do not. A document is written where a
text of the model says, taken as it stands but for its backslashes; a rendered text is kept below a path made safe, in a
file named after an element. A path made safe is never absolute, and the number and the file name around an element's
name are never steps up; so whether a rendered text is kept inside is decided by the snippet's output path and the
element's name alone.
-/

namespace WorkflowForge

open WorkflowForge.Path

/-- Whether the text that says where a document is written leads to or below the directory that it is put under. -/
def isContainedOutput (output : String) : Bool :=
  let path := Path.ofText (Text.replaceChar '\\' '/' output)
  !path.isAbsolute && staysInside 0 path.parts

/-- Whether the rendered texts of a snippet with an output path are kept inside for an element of a name. -/
def isContainedInspection (outputPath name : String) : Bool :=
  staysInside 0 (partsOf (safePath outputPath) ++ partsOf s!"0.{safePath name}.json")

theorem prefix_place_destination {output : String} (h : isContainedOutput output = true) (g : Generator) (d : Disk) :
    d.place g.generationPath <+: d.place (g.destination output) := by
  obtain ⟨hrelative, hinside⟩ : (ofText (Text.replaceChar '\\' '/' output)).isAbsolute = false ∧
      staysInside 0 (ofText (Text.replaceChar '\\' '/' output)).parts = true := by
    simpa [isContainedOutput] using h
  rw [Generator.destination, Path.below, Disk.place_join_of_relative _ _ hrelative]
  exact prefix_follow_of_staysInside hinside _

/-- No other texts name a place inside under whichever directory they are put. -/
theorem isContainedOutput_of_prefix {output : String} (d : Disk)
    (h : ∀ g : Generator, d.place g.generationPath <+: d.place (g.destination output)) :
    isContainedOutput output = true := by
  have hbelow (name : String) : d.place ⟨1, [name]⟩ <+:
      d.place (Path.join ⟨1, [name]⟩ (ofText (Text.replaceChar '\\' '/' output))) :=
    h ⟨[], ⟨1, [name]⟩, [], none, .empty⟩
  have hrelative : (ofText (Text.replaceChar '\\' '/' output)).isAbsolute = false := by
    by_contra habsolute
    rw [Bool.not_eq_false] at habsolute
    obtain ⟨name, hname, hnot⟩ := exists_other_name (follow [] (ofText (Text.replaceChar '\\' '/' output)).parts)
    have hprefix := hbelow name
    rw [Disk.place_join_of_absolute _ _ habsolute, Disk.place_absolute d hname] at hprefix
    exact hnot hprefix
  have hinside : staysInside 0 (ofText (Text.replaceChar '\\' '/' output)).parts = true := by
    apply staysInside_of_prefix_follow
    intro name hname
    have hprefix := hbelow name
    rwa [Disk.place_join_of_relative _ _ hrelative, Disk.place_absolute d hname] at hprefix
  simp [isContainedOutput, hrelative, hinside]

theorem plain_of_mem_repr {n : Nat} {c : Char} (h : c ∈ n.repr.toList) : c ≠ '.' ∧ c ≠ '/' := by
  rw [Nat.toList_repr] at h
  have hdigit := Nat.isDigit_of_mem_toDigits (by decide) (by decide) h
  constructor
  all_goals
    rintro rfl
    exact absurd hdigit (by decide)

/-- The text of a number has neither dots nor slashes. -/
theorem plain_of_mem_toString {id : Int} {c : Char} (h : c ∈ (toString id).toList) : c ≠ '.' ∧ c ≠ '/' := by
  cases id with
  | ofNat n => exact plain_of_mem_repr h
  | negSucc n =>
      have htext : (toString (Int.negSucc n)).toList = '-' :: (n + 1).repr.toList := by
        change ("-" ++ (n + 1).repr).toList = _
        rw [String.toList_append]
        rfl
      rw [htext] at h
      rcases List.mem_cons.mp h with rfl | hdigit
      · decide
      · exact plain_of_mem_repr hdigit

/-- The text of a number begins with no dot and has no slashes. -/
theorem exists_toList_toString (id : Int) :
    ∃ c cs, (toString id).toList = c :: cs ∧ c ≠ '.' ∧ '/' ∉ c :: cs := by
  cases htext : (toString id).toList with
  | nil =>
      cases id with
      | ofNat n =>
          have hrepr : n.repr.toList = [] := htext
          rw [Nat.toList_repr] at hrepr
          exact absurd hrepr Nat.toDigits_ne_nil
      | negSucc n =>
          change ("-" ++ (n + 1).repr).toList = _ at htext
          rw [String.toList_append] at htext
          cases htext
  | cons c cs =>
      have hplain {d : Char} (hd : d ∈ c :: cs) : d ≠ '.' ∧ d ≠ '/' := by
        rw [← htext] at hd
        exact plain_of_mem_toString hd
      exact ⟨c, cs, rfl, (hplain List.mem_cons_self).1, fun hslash => (hplain hslash).2 rfl⟩

/-- The name of a kept text stays inside exactly if one with another number and another file name does. -/
theorem staysInside_inspectionName (id : Int) (name tail : String) (htail : IsPart tail) (depth : Nat) :
    staysInside depth (partsOf s!"{id}.{safePath name}.{tail}") =
      staysInside depth (partsOf s!"0.{safePath name}.json") := by
  have hframe (c : Char) (cs back : List Char) (text : String) (hc : c ≠ '.') (hslash : '/' ∉ c :: cs)
      (hback : '/' ∉ back) (hne : back ≠ [])
      (htext : text.toList = (c :: (cs ++ ['.'])) ++ SafePath.sanitize name.toList ++ ('.' :: back)) :
      staysInside depth (partsOf text) =
        staysInside (depth + 1) (stepsOf (Text.splitAt '/' (SafePath.sanitize name.toList)).tail.dropLast) := by
    rw [← String.ofList_toList (s := text), htext]
    have hpositive := List.length_pos_iff.mpr hne
    apply staysInside_framed hc
    · simpa using hslash
    · simpa using hback
    · rw [List.length_cons]
      omega
    · intro hsafe piece hpiece
      exact SafePath.ne_nil_of_mem_splitAt hsafe hpiece
  have hsafe : (safePath name).toList = SafePath.sanitize name.toList := by
    rw [safePath, String.toList_ofList]
  obtain ⟨c, cs, hid, hc, hslash⟩ := exists_toList_toString id
  rw [hframe c cs tail.toList _ hc hslash htail.2 ?_ ?_, hframe '0' [] "json".toList _ (by decide) (by decide)
    (by decide) (by decide) ?_]
  · change ("0." ++ safePath name ++ ".json").toList = _
    simp [String.toList_append, hsafe]
  · intro hnil
    exact htail.1 (String.toList_inj.mp hnil)
  · change (toString id ++ "." ++ safePath name ++ "." ++ tail).toList = _
    simp only [String.toList_append, hsafe, hid]
    simp

/-- A kept text lies at the end of the steps of the output path and of its own name. -/
theorem place_inspectionPath (w : Workshop) (snippet : Snippet) (item : Item) (source : Path) (id : Int)
    (templated : Bool) (d : Disk) :
    d.place (Build.inspectionPath w snippet (some item) source id templated) =
      follow (d.place w.generationPath) (partsOf (safePath (snippet.outputPath.getD "")) ++
        partsOf s!"{id}.{safePath item.name}.{if templated then source.stem else source.name}") := by
  have hrelative : (ofText s!"{id}.{safePath item.name}.{if templated then source.stem else source.name}").isAbsolute =
      false := by
    obtain ⟨c, cs, hid, _, hslash⟩ := exists_toList_toString id
    apply isAbsolute_ofText_of_head?
    have hhead : s!"{id}.{safePath item.name}.{if templated then source.stem else source.name}".toList.head? =
        some c := by
      change (toString id ++ "." ++ safePath item.name ++ "." ++ _).toList.head? = _
      simp only [String.toList_append, hid]
      rfl
    rw [hhead]
    intro heq
    apply hslash
    rw [Option.some.inj heq]
    exact List.mem_cons_self
  have hpath : Build.inspectionPath w snippet (some item) source id templated =
      (w.generationPath.join (ofText (safePath (snippet.outputPath.getD "")))).join
        (ofText s!"{id}.{safePath item.name}.{if templated then source.stem else source.name}") := rfl
  rw [hpath, Disk.place_join_of_relative _ _ hrelative,
    Disk.place_join_of_relative _ _ (isAbsolute_ofText_safePath _), follow_append]
  simp only [ofText]

/-- The text of an element whose name has no slashes is kept in a file that begins with its number. -/
theorem place_inspectionPath_of_plain (w : Workshop) (snippet : Snippet) {item : Item} {source : Path}
    (hslash : '/' ∉ item.name.toList) (hback : '\\' ∉ item.name.toList) (hsource : '/' ∉ source.name.toList) (id : Int)
    (templated : Bool) (d : Disk) :
    ∃ folder tail, d.place (Build.inspectionPath w snippet (some item) source id templated) =
      folder ++ [toString id ++ "." ++ tail] := by
  have htail : '/' ∉ (if templated then source.stem else source.name).toList := by
    split
    · exact slash_not_mem_stem hsource
    · exact hsource
  have hsafe : '/' ∉ (safePath item.name).toList := by
    rw [safePath, String.toList_ofList]
    exact SafePath.slash_not_mem_sanitize hslash hback
  have htext : s!"{id}.{safePath item.name}.{if templated then source.stem else source.name}" =
      toString id ++ "." ++ (safePath item.name ++ "." ++ (if templated then source.stem else source.name)) := by
    change toString id ++ "." ++ safePath item.name ++ "." ++ (if templated then source.stem else source.name) = _
    simp only [String.append_assoc]
  obtain ⟨c, cs, hid, hc, hplain⟩ := exists_toList_toString id
  have hname : IsName (toString id ++ "." ++ (safePath item.name ++ "." ++
      (if templated then source.stem else source.name))).toList := by
    simp only [String.toList_append, hid, List.cons_append]
    exact isName_of_head hc
  have hparts := partsOf_of_isName (s := toString id ++ "." ++ (safePath item.name ++ "." ++
      (if templated then source.stem else source.name))) (by
    simp only [String.toList_append, hid, List.mem_append, not_or]
    exact ⟨⟨hplain, by decide⟩, ⟨hsafe, by decide⟩, htail⟩) hname
  rw [place_inspectionPath, htext, hparts, follow_append]
  refine ⟨_, _, follow_name ?_ _ _⟩
  intro hup
  rw [hup] at hname
  exact hname.2.2 rfl

/-- Whether a text is kept inside is decided by the output path and the element's name. -/
theorem staysInside_inspection {source : Path} (hname : IsPart source.name) (outputPath name : String) (id : Int)
    (templated : Bool) :
    staysInside 0 (partsOf (safePath outputPath) ++
        partsOf s!"{id}.{safePath name}.{if templated then source.stem else source.name}") =
      isContainedInspection outputPath name := by
  have htail : IsPart (if templated then source.stem else source.name) := by
    split
    · exact isPart_stem hname
    · exact hname
  rw [staysInside_append_congr (staysInside_inspectionName id name _ htail)]
  rfl

/-- A text kept for an element whose name is contained is kept at or below the generation path. -/
theorem prefix_place_inspectionPath {w : Workshop} {snippet : Snippet} {item : Item} {source : Path}
    (hname : IsPart source.name) (h : isContainedInspection (snippet.outputPath.getD "") item.name = true) (id : Int)
    (templated : Bool) (d : Disk) :
    d.place w.generationPath <+: d.place (Build.inspectionPath w snippet (some item) source id templated) := by
  rw [place_inspectionPath]
  apply prefix_follow_of_staysInside
  rw [staysInside_inspection hname]
  exact h

/-- No others are kept inside under whichever generation path. -/
theorem isContainedInspection_of_prefix {snippet : Snippet} {item : Item} {source : Path} (hname : IsPart source.name)
    {id : Int} {templated : Bool} (d : Disk)
    (h : ∀ w : Workshop,
      d.place w.generationPath <+: d.place (Build.inspectionPath w snippet (some item) source id templated)) :
    isContainedInspection (snippet.outputPath.getD "") item.name = true := by
  rw [← staysInside_inspection hname _ _ id templated]
  apply staysInside_of_prefix_follow
  intro name hname
  have hprefix := h { (default : Workshop) with generationPath := ⟨1, [name]⟩ }
  rwa [place_inspectionPath, Disk.place_absolute d hname] at hprefix

end WorkflowForge
