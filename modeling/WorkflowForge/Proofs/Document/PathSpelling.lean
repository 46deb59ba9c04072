import WorkflowForge.Document.ActionPath

/-!
The spellings of an action path, and that each of them is read as the segments it spells. A segment is spelled bare
behind a dot, or in brackets between quotes that it does not hold; the root may be written or left out, and blanks may
stand around the whole. Reading takes one spelled segment after the other: what follows a bare one begins with a dot or
a bracket, so it ends there, and a bracketed one ends at the first of its quotes.
-/

namespace WorkflowForge

namespace Text

/-- A text begins and ends with characters that are not blank. -/
structure IsSolid (cs : List Char) : Prop where
  head : ∃ c, cs.head? = some c ∧ isBlank c = false
  last : ∃ c, cs.getLast? = some c ∧ isBlank c = false

/-- Trimming takes away the blanks around such a text and nothing else. -/
theorem trim_of_isSolid {before cs after : List Char} (hbefore : ∀ c ∈ before, isBlank c = true) (hcs : IsSolid cs)
    (hafter : ∀ c ∈ after, isBlank c = true) : trim (before ++ cs ++ after) = cs := by
  obtain ⟨first, hfirst, hhead⟩ := hcs.head
  obtain ⟨final, hfinal, hlast⟩ := hcs.last
  have hstart : (before ++ cs ++ after).dropWhile isBlank = cs ++ after := by
    rw [List.append_assoc, List.dropWhile_append_of_pos hbefore]
    obtain ⟨more, rfl⟩ := List.head?_eq_some_iff.mp hfirst
    rw [List.cons_append, List.dropWhile_cons_of_neg (by simp [hhead])]
  have hend : (cs ++ after).reverse.dropWhile isBlank = cs.reverse := by
    rw [List.reverse_append, List.dropWhile_append_of_pos fun c hc => hafter c (List.mem_reverse.mp hc)]
    obtain ⟨more, rfl⟩ := List.getLast?_eq_some_iff.mp hfinal
    rw [List.reverse_append, List.reverse_singleton, List.singleton_append,
      List.dropWhile_cons_of_neg (by simp [hlast])]
  rw [trim, trimStart, hstart, trimEnd, hend, List.reverse_reverse]

end Text

namespace ActionPath

/-- The ways to write the name of a segment: as it is, or in brackets between single or double quotes. -/
inductive Form where
  | bare
  | single
  | double
deriving DecidableEq, Repr

namespace Form

def chars : Form → List Char → List Char
  | .bare, name => name
  | .single, name => "['".toList ++ name ++ "']".toList
  | .double, name => "[\"".toList ++ name ++ "\"]".toList

/-- Whether a name can be written in a form. -/
def holds : Form → List Char → Bool
  | .bare, name => !name.isEmpty && name.all isBare
  | .single, name => !name.contains '\''
  | .double, name => !name.contains '"'

end Form

/-- A segment as it is written. -/
structure Spelled where
  dotted : Bool
  form : Form
  name : String
deriving DecidableEq, Repr

namespace Spelled

def chars (s : Spelled) : List Char := (if s.dotted then ['.'] else []) ++ s.form.chars s.name.toList

/-- Whether a segment is written so that it can stand first. -/
def canLead (s : Spelled) : Bool := s.form.holds s.name.toList

/-- Whether a segment is written so that it can stand behind another: where it is bare, it needs a dot. -/
def canFollow (s : Spelled) : Bool := s.canLead && (s.form != .bare || s.dotted)

/-- Whether a segment ends in a blank that nothing closes off. -/
def trails (s : Spelled) : Bool := s.form == .bare && s.name.toList.getLast?.any Text.isBlank

/-- Whether a segment begins with a blank that nothing stands before. -/
def indents (s : Spelled) : Bool := s.form == .bare && !s.dotted && s.name.toList.head?.any Text.isBlank

end Spelled

/-- Segments as they are written one after the other. -/
def spelling (segments : List Spelled) : String := String.ofList (segments.flatMap Spelled.chars)

/-- What follows a bare segment begins with something else, if there is any. -/
def Ends (rest : List Char) : Prop := ∀ c, rest.head? = some c → isBare c = false

theorem takeWhile_isBare {name rest : List Char} (hname : name.all isBare = true) (hrest : Ends rest) :
    (name ++ rest).takeWhile isBare = name ∧ (name ++ rest).dropWhile isBare = rest := by
  have hstop : rest.takeWhile isBare = [] ∧ rest.dropWhile isBare = rest := by
    cases rest with
    | nil => exact ⟨rfl, rfl⟩
    | cons c more =>
        have hc : isBare c = false := hrest c rfl
        simp [hc]
  have hbare := List.all_eq_true.mp hname
  rw [List.takeWhile_append_of_pos hbare, List.dropWhile_append_of_pos hbare, hstop.1, hstop.2, List.append_nil]
  exact ⟨rfl, rfl⟩

theorem scan_nil : scan [] = [] := by rw [scan]

theorem scan_dot (rest : List Char) : scan ('.' :: rest) = scan rest := by
  rw [scan]
  simp [isBare]

theorem scan_bare {name rest : List Char} (hname : Form.bare.holds name = true) (hrest : Ends rest) :
    scan (name ++ rest) = name :: scan rest := by
  cases name with
  | nil => cases hname
  | cons c more =>
      have hall : (c :: more).all isBare = true := by simpa [Form.holds] using hname
      rw [List.all_cons, Bool.and_eq_true] at hall
      have hbracket : (c == '[') = false := by
        rw [beq_eq_false_iff_ne]
        rintro rfl
        exact absurd hall.1 (by decide)
      obtain ⟨htake, hdrop⟩ := takeWhile_isBare hall.2 hrest
      rw [List.cons_append, scan, hbracket, hall.1]
      simp [htake, hdrop]

/-- A name between quotes ends at the first of them. -/
theorem bracketed?_quoted {quote : Char} (hquote : (quote == '\'' || quote == '"') = true) {name : List Char}
    (hname : quote ∉ name) (rest : List Char) :
    bracketed? (quote :: (name ++ quote :: ']' :: rest)) = some (name, rest) := by
  have hall : ∀ c ∈ name, (c != quote) = true := fun c hc => by
    rw [bne_iff_ne]
    rintro rfl
    exact hname hc
  have hstop : (quote :: ']' :: rest).takeWhile (· != quote) = [] ∧
      (quote :: ']' :: rest).dropWhile (· != quote) = quote :: ']' :: rest := by simp
  rewrite [bracketed?, if_pos hquote, List.takeWhile_append_of_pos hall, List.dropWhile_append_of_pos hall, hstop.1,
    hstop.2, List.append_nil]
  rfl

theorem scan_bracketed {quote : Char} (hquote : (quote == '\'' || quote == '"') = true) {name : List Char}
    (hname : quote ∉ name) (rest : List Char) :
    scan ('[' :: quote :: (name ++ quote :: ']' :: rest)) = name :: scan rest := by
  have hread := bracketed?_quoted hquote hname rest
  rw [scan]
  simp only [beq_self_eq_true, if_true]
  split
  · next segment more heq =>
      cases hread.symm.trans heq
      rfl
  · next heq => cases hread.symm.trans heq

theorem scan_form {form : Form} {name rest : List Char} (hname : form.holds name = true) (hrest : Ends rest) :
    scan (form.chars name ++ rest) = name :: scan rest := by
  cases form with
  | bare => exact scan_bare hname hrest
  | single =>
      have hquote : '\'' ∉ name := by simpa [Form.holds] using hname
      simpa [Form.chars] using scan_bracketed (by decide) hquote rest
  | double =>
      have hquote : '"' ∉ name := by simpa [Form.holds] using hname
      simpa [Form.chars] using scan_bracketed (by decide) hquote rest

namespace Spelled

/-- One step of the reading: a spelled segment is taken off. -/
theorem scan_chars {s : Spelled} (hs : s.canLead = true) {rest : List Char} (hrest : Ends rest) :
    scan (s.chars ++ rest) = s.name.toList :: scan rest := by
  unfold chars
  split
  · rw [List.append_assoc, List.singleton_append, scan_dot, scan_form hs hrest]
  · rw [List.nil_append, scan_form hs hrest]

theorem canLead_of_canFollow {s : Spelled} (h : s.canFollow = true) : s.canLead = true :=
  (Bool.and_eq_true_iff.mp h).1

theorem canFollow_cases {s : Spelled} (h : s.canFollow = true) : s.dotted = true ∨ s.form ≠ .bare := by
  have hform := (Bool.and_eq_true_iff.mp h).2
  rw [Bool.or_eq_true, bne_iff_ne] at hform
  exact hform.symm

/-- Segments that follow another begin with something that is not bare. -/
theorem ends_flatMap {segments : List Spelled} (h : segments.all canFollow = true) :
    Ends (segments.flatMap chars) := by
  cases segments with
  | nil => exact fun _ hc => by cases hc
  | cons s rest =>
      rw [List.all_cons, Bool.and_eq_true] at h
      intro c hc
      rw [List.flatMap_cons, chars] at hc
      rcases canFollow_cases h.1 with hdotted | hform
      · rw [hdotted] at hc
        cases hc
        rfl
      · cases hdot : s.dotted with
        | true =>
            rw [hdot] at hc
            cases hc
            rfl
        | false =>
            rw [hdot] at hc
            cases hs : s.form with
            | bare => exact absurd hs hform
            | single =>
                rw [hs] at hc
                cases hc
                rfl
            | double =>
                rw [hs] at hc
                cases hc
                rfl

/-- The whole reading, segment by segment. -/
theorem scan_flatMap {segments : List Spelled} (h : segments.all canFollow = true) :
    scan (segments.flatMap chars) = segments.map fun s => s.name.toList := by
  induction segments with
  | nil => exact scan_nil
  | cons s rest ih =>
      rw [List.all_cons, Bool.and_eq_true] at h
      rw [List.flatMap_cons, scan_chars (canLead_of_canFollow h.1) (ends_flatMap h.2), ih h.2, List.map_cons]

theorem exists_getLast?_chars {s : Spelled} (hs : s.canLead = true) (htrails : s.trails = false) :
    ∃ c, s.chars.getLast? = some c ∧ Text.isBlank c = false := by
  unfold chars
  rw [List.getLast?_append]
  cases hform : s.form with
  | bare =>
      rw [canLead, hform] at hs
      have hne : s.name.toList ≠ [] := by
        rintro hempty
        rw [hempty] at hs
        cases hs
      have hlast : s.name.toList.getLast? = some (s.name.toList.getLast hne) := List.getLast?_eq_some_getLast hne
      rw [trails, hform, hlast] at htrails
      exact ⟨_, by rw [Form.chars, hlast]; rfl, by simpa using htrails⟩
  | single => exact ⟨']', by rewrite [Form.chars, List.getLast?_append]; rfl, by decide⟩
  | double => exact ⟨']', by rewrite [Form.chars, List.getLast?_append]; rfl, by decide⟩

/-- Written segments of which the last does not trail off end in something that is not blank. -/
theorem exists_getLast?_flatMap {segments : List Spelled} (hne : segments ≠ [])
    (hsegments : ∀ s ∈ segments, s.canLead = true) (hlast : segments.getLast?.any trails = false) :
    ∃ c, (segments.flatMap chars).getLast? = some c ∧ Text.isBlank c = false := by
  have hfinal : segments.getLast? = some (segments.getLast hne) := List.getLast?_eq_some_getLast hne
  rw [hfinal, Option.any_some] at hlast
  obtain ⟨c, hc, hblank⟩ := exists_getLast?_chars (hsegments _ (List.getLast_mem hne)) hlast
  refine ⟨c, ?_, hblank⟩
  rw [← List.dropLast_concat_getLast hne, List.flatMap_append, List.getLast?_append, List.flatMap_singleton, hc]
  rfl

theorem exists_head?_chars {s : Spelled} (hs : s.canLead = true) (hindents : s.indents = false) :
    ∃ c, s.chars.head? = some c ∧ Text.isBlank c = false := by
  unfold chars
  cases hdotted : s.dotted with
  | true => exact ⟨'.', rfl, by decide⟩
  | false =>
      cases hform : s.form with
      | bare =>
          rw [canLead, hform] at hs
          cases hname : s.name.toList with
          | nil =>
              rw [hname] at hs
              cases hs
          | cons c more =>
              rw [indents, hform, hdotted, hname] at hindents
              exact ⟨c, rfl, by simpa using hindents⟩
      | single => exact ⟨'[', rfl, by decide⟩
      | double => exact ⟨'[', rfl, by decide⟩

end Spelled

theorem parse_of_isSolid {before after : String} {cs : List Char} {text : String}
    (htext : text.toList = before.toList ++ cs ++ after.toList)
    (hbefore : before.toList.all Text.isBlank = true) (hcs : Text.IsSolid cs)
    (hafter : after.toList.all Text.isBlank = true) :
    parse text = (withoutRoot (scan cs)).map String.ofList := by
  rw [parse, parseChars, htext,
    Text.trim_of_isSolid (List.all_eq_true.mp hbefore) hcs (List.all_eq_true.mp hafter)]

theorem map_ofList_names (segments : List Spelled) :
    (segments.map fun s => s.name.toList).map String.ofList = segments.map Spelled.name := by
  rw [List.map_map]
  exact List.map_congr_left fun s _ => String.ofList_toList

/-- However a list of segments is written, with blanks around it, it is read as these segments: behind a root, if each
segment is bare behind a dot or in brackets; and without a root, if the first segment is not the sign for it and does
not begin with a blank. A bare segment at the end must not end in a blank. -/
theorem spelled_path_parses (before after : String) (segments : List Spelled)
    (hbefore : before.toList.all Text.isBlank = true) (hafter : after.toList.all Text.isBlank = true)
    (hlast : segments.getLast?.any Spelled.trails = false) :
    (segments.all Spelled.canFollow = true →
      parse (before ++ "$" ++ spelling segments ++ after) = segments.map Spelled.name) ∧
    ∀ first rest, segments = first :: rest → first.canLead = true → rest.all Spelled.canFollow = true →
      first.name ≠ "$" → first.indents = false →
        parse (before ++ spelling segments ++ after) = segments.map Spelled.name := by
  constructor
  · intro hsegments
    have htext : (before ++ "$" ++ spelling segments ++ after).toList =
        before.toList ++ '$' :: segments.flatMap Spelled.chars ++ after.toList := by
      simp [spelling]
    have hsolid : Text.IsSolid ('$' :: segments.flatMap Spelled.chars) := by
      refine ⟨⟨'$', rfl, by decide⟩, ?_⟩
      by_cases hne : segments = []
      · exact ⟨'$', by rw [hne]; rfl, by decide⟩
      · obtain ⟨c, hc, hblank⟩ := Spelled.exists_getLast?_flatMap hne
          (fun s hs => Spelled.canLead_of_canFollow (List.all_eq_true.mp hsegments s hs)) hlast
        exact ⟨c, by rw [List.getLast?_cons, hc]; rfl, hblank⟩
    have hsign : Form.bare.holds ['$'] = true := by decide
    have hroot : scan ('$' :: segments.flatMap Spelled.chars) = ['$'] :: scan (segments.flatMap Spelled.chars) :=
      scan_bare hsign (Spelled.ends_flatMap hsegments)
    rw [parse_of_isSolid htext hbefore hsolid hafter, hroot, withoutRoot, Spelled.scan_flatMap hsegments,
      map_ofList_names]
  · rintro first rest rfl hfirst hrest hroot hindents
    have htext : (before ++ spelling (first :: rest) ++ after).toList =
        before.toList ++ (first :: rest).flatMap Spelled.chars ++ after.toList := by
      simp [spelling]
    have hsolid : Text.IsSolid ((first :: rest).flatMap Spelled.chars) := by
      constructor
      · obtain ⟨c, hc, hblank⟩ := Spelled.exists_head?_chars hfirst hindents
        exact ⟨c, by rw [List.flatMap_cons, List.head?_append, hc]; rfl, hblank⟩
      · refine Spelled.exists_getLast?_flatMap (List.cons_ne_nil _ _) ?_ hlast
        rw [List.forall_mem_cons]
        exact ⟨hfirst, fun s hs => Spelled.canLead_of_canFollow (List.all_eq_true.mp hrest s hs)⟩
    have hscan : scan ((first :: rest).flatMap Spelled.chars) = (first :: rest).map fun s => s.name.toList := by
      rw [List.flatMap_cons, Spelled.scan_chars hfirst (Spelled.ends_flatMap hrest), Spelled.scan_flatMap hrest,
        List.map_cons]
    have hkept :
        withoutRoot ((first :: rest).map fun s => s.name.toList) = (first :: rest).map fun s => s.name.toList := by
      have hne : first.name.toList ≠ ['$'] := fun heq =>
        hroot (by rewrite [← String.ofList_toList (s := first.name), heq]; rfl)
      rw [List.map_cons]
      unfold withoutRoot
      split
      · next heq => exact absurd (List.cons.inj heq).1 hne
      · rfl
    rw [parse_of_isSolid htext hbefore hsolid hafter, hscan, hkept, map_ofList_names]

/-- Segments with dots, brackets, blanks, the other quote or nothing in them, and one that is the sign for the root. -/
def oddSegments : List Spelled :=
  [⟨true, .bare, "it's"⟩, ⟨false, .single, "a.b] [\"c\"  "⟩, ⟨true, .double, "['x']"⟩, ⟨true, .bare, "$"⟩,
    ⟨false, .double, ""⟩, ⟨true, .bare, " last one"⟩]

/-- They are read behind a root, and without one. -/
theorem spelled_path_parses_odd :
    parse (" \t" ++ "$" ++ spelling oddSegments ++ "\n") =
        ["it's", "a.b] [\"c\"  ", "['x']", "$", "", " last one"] ∧
      parse ("" ++ spelling oddSegments ++ " ") = ["it's", "a.b] [\"c\"  ", "['x']", "$", "", " last one"] := by
  constructor
  · exact (spelled_path_parses " \t" "\n" oddSegments (by decide) (by decide) (by decide)).1
      (by decide)
  · exact (spelled_path_parses "" " " oddSegments (by decide) (by decide) (by decide)).2 _ _ rfl
      (by decide) (by decide) (by decide) (by decide)

end ActionPath

end WorkflowForge
