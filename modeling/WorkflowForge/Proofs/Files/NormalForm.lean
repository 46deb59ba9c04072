import WorkflowForge.Proofs.Files.PathText

/-!
The normal form of a path made safe: segments proper, with a single slash between each two. The segments of a text
depend on what each of its characters is read as and on nothing else: a slash of either kind parts, a character that
some system refuses is passed over, and any other stands for itself. So texts that are read alike have the same safe
path, the segments of two texts with a slash between them are those of the first and then those of the second, and a
path in normal form is its own safe path.
-/

namespace WorkflowForge

namespace Text

theorem splitAt_cons_of_ne {sep c : Char} {cs piece : List Char} {pieces : List (List Char)} (h : c ≠ sep)
    (hsplit : splitAt sep cs = piece :: pieces) : splitAt sep (c :: cs) = (c :: piece) :: pieces := by
  have hc : sep ∉ [c] := by simpa using Ne.symm h
  exact splitAt_append_left hc hsplit

theorem splitAt_append_cons (sep : Char) (front back : List Char) :
    splitAt sep (front ++ sep :: back) = splitAt sep front ++ splitAt sep back := by
  induction front with
  | nil => simp [splitAt]
  | cons c front ih =>
      by_cases hc : c = sep
      · simp [hc, splitAt, ih]
      · obtain ⟨piece, pieces, hfront⟩ := List.exists_cons_of_ne_nil (splitAt_ne_nil sep front)
        rw [hfront, List.cons_append] at ih
        rw [List.cons_append, splitAt_cons_of_ne hc ih, splitAt_cons_of_ne hc hfront, List.cons_append]

end Text

namespace SafePath

/-- What a character is read as: a slash, nothing, or itself. -/
def reading (c : Char) : Option Char :=
  if c = '/' ∨ c = '\\' then some '/' else if isRefused c then none else some c

theorem reading_slash : reading '/' = some '/' := rfl

theorem reading_backslash : reading '\\' = some '/' := rfl

theorem reading_of_refused {c : Char} (hslash : c ≠ '/') (hback : c ≠ '\\') (h : isRefused c = true) :
    reading c = none := by
  simp [reading, hslash, hback, h]

theorem reading_of_kept {c : Char} (h : isRefused c = false) : reading c = some c := by
  have hslash : c ≠ '/' := by
    rintro rfl
    cases h
  have hback : c ≠ '\\' := by
    rintro rfl
    cases h
  simp [reading, hslash, hback, h]

/-- What is taken out of the pieces between the slashes may as well be taken out before the text is cut. -/
theorem map_filter_splitAt (cs : List Char) :
    ((Text.splitAt '/' (slashed cs)).map fun part => part.filter fun c => !isRefused c) =
      Text.splitAt '/' (cs.filterMap reading) := by
  induction cs with
  | nil => rfl
  | cons c cs ih =>
      rw [slashed, List.map_cons, ← slashed]
      by_cases hslash : c = '/' ∨ c = '\\'
      · have hread : reading c = some '/' := if_pos hslash
        have hsame : (if c == '\\' then '/' else c) = '/' := by
          rcases hslash with rfl | rfl <;> rfl
        rw [List.filterMap_cons_some hread, hsame]
        simp [Text.splitAt, ih]
      · rw [not_or] at hslash
        obtain ⟨piece, pieces, hpieces⟩ := List.exists_cons_of_ne_nil (Text.splitAt_ne_nil '/' (slashed cs))
        have hsame : (if c == '\\' then '/' else c) = c := by simp [hslash.2]
        rw [hpieces, List.map_cons] at ih
        rw [hsame, Text.splitAt_cons_of_ne hslash.1 hpieces, List.map_cons]
        -- the first piece gets the character before it is cleared, and the cleared one gets it only if it is kept
        cases hrefused : isRefused c with
        | true =>
            rw [List.filterMap_cons_none (reading_of_refused hslash.1 hslash.2 hrefused), ← ih]
            simp [hrefused]
        | false =>
            rw [List.filterMap_cons_some (reading_of_kept hrefused), Text.splitAt_cons_of_ne hslash.1 ih.symm]
            simp [hrefused]

theorem segments_eq (cs : List Char) :
    segments cs = (Text.splitAt '/' (cs.filterMap reading)).filter fun part => !part.isEmpty := by
  rw [segments, map_filter_splitAt]

theorem segments_congr {cs ds : List Char} (h : cs.filterMap reading = ds.filterMap reading) :
    segments cs = segments ds := by
  rw [segments_eq, h, ← segments_eq]

theorem segments_append_slash (front back : List Char) :
    segments (front ++ '/' :: back) = segments front ++ segments back := by
  rw [segments_eq, List.filterMap_append, List.filterMap_cons_some reading_slash, Text.splitAt_append_cons,
    List.filter_append, ← segments_eq, ← segments_eq]

theorem segments_of_kept {cs : List Char} (hne : cs ≠ []) (h : ∀ c ∈ cs, isRefused c = false) :
    segments cs = [cs] := by
  have hread : cs.filterMap reading = cs := by
    rw [List.filterMap_congr fun c hc => reading_of_kept (h c hc), List.filterMap_some]
  have hslash : '/' ∉ cs := by
    intro hmem
    cases h '/' hmem
  rw [segments_eq, hread, Text.splitAt_of_not_mem hslash]
  simp [hne]

/-- The characters that no segment of a safe path has. -/
def refusedCharacters : List Char := ['/', '\\', ':', '*', '?', '"', '<', '>', '|', ' ']

theorem isRefused_eq (c : Char) : isRefused c = refusedCharacters.contains c := by
  simp only [isRefused, refusedCharacters, List.contains_cons, List.contains_nil]
  ac_rfl

/-- A segment proper: not empty, and of characters that every system takes. -/
structure IsSegment (s : String) : Prop where
  ne_empty : s ≠ ""
  not_refused : ∀ c ∈ s.toList, c ∉ refusedCharacters

/-- The normal form: segments proper with a slash between each two. -/
def IsNormal (s : String) : Prop :=
  ∃ parts : List String, (∀ part ∈ parts, IsSegment part) ∧ s = "/".intercalate parts

/-- The segments of a text's safe path. -/
def names (s : String) : List String := (segments s.toList).map String.ofList

theorem isSegment_of_mem_names {s name : String} (h : name ∈ names s) : IsSegment name := by
  obtain ⟨segment, hsegment, rfl⟩ := List.mem_map.mp h
  constructor
  · exact Path.ofList_ne (segments_ne_nil hsegment)
  · intro c hc
    rw [String.toList_ofList] at hc
    rw [segments, List.mem_filter, List.mem_map] at hsegment
    obtain ⟨⟨part, _, rfl⟩, _⟩ := hsegment
    have hkept := (List.mem_filter.mp hc).2
    rw [isRefused_eq] at hkept
    simpa using hkept

theorem names_of_isSegment {s : String} (h : IsSegment s) : names s = [s] := by
  have hne : s.toList ≠ [] := by
    intro hnil
    exact h.ne_empty (String.toList_inj.mp hnil)
  have hkept : ∀ c ∈ s.toList, isRefused c = false := by
    intro c hc
    rw [isRefused_eq]
    simpa using h.not_refused c hc
  rw [names, segments_of_kept hne hkept, List.map_singleton, String.ofList_toList]

theorem names_append_slash (s t : String) : names (s ++ "/" ++ t) = names s ++ names t := by
  have htext : (s ++ "/" ++ t).toList = s.toList ++ '/' :: t.toList := by simp
  rw [names, htext, segments_append_slash, List.map_append, ← names, ← names]

/-- A path in normal form has the segments that it is put together from. -/
theorem names_intercalate {parts : List String} (h : ∀ part ∈ parts, IsSegment part) :
    names ("/".intercalate parts) = parts := by
  induction parts with
  | nil => rfl
  | cons part rest ih =>
      rw [List.forall_mem_cons] at h
      cases rest with
      | nil => rw [String.intercalate_singleton, names_of_isSegment h.1]
      | cons next others =>
          rw [String.intercalate_cons_cons, names_append_slash, names_of_isSegment h.1, ih h.2, List.singleton_append]

theorem safePath_eq_intercalate (s : String) : safePath s = "/".intercalate (names s) := by
  have hslash : "/".toList = ['/'] := by decide
  have hnames : (names s).map String.toList = segments s.toList := by simp [names]
  rw [← String.toList_inj, safePath, String.toList_ofList, String.toList_intercalate, hslash, hnames, sanitize,
    Text.joinWith_eq_intercalate]

theorem safePath_congr {s t : String} (h : s.toList.filterMap reading = t.toList.filterMap reading) :
    safePath s = safePath t := by
  rw [safePath, safePath, sanitize, sanitize, segments_congr h]

theorem isNormal_safePath (s : String) : IsNormal (safePath s) :=
  ⟨names s, fun _ => isSegment_of_mem_names, safePath_eq_intercalate s⟩

theorem IsNormal.safePath_eq {s : String} (h : IsNormal s) : safePath s = s := by
  obtain ⟨parts, hparts, rfl⟩ := h
  rw [safePath_eq_intercalate, names_intercalate hparts]

theorem safePath_eq_empty_iff (s : String) : safePath s = "" ↔ names s = [] := by
  constructor
  · intro hempty
    have hnames : names ("/".intercalate (names s)) = names s := names_intercalate fun _ => isSegment_of_mem_names
    rw [← safePath_eq_intercalate, hempty] at hnames
    exact hnames.symm
  · intro hnames
    rw [safePath_eq_intercalate, hnames, String.intercalate_nil]

theorem safePath_append_slash (s t : String) :
    safePath (s ++ "/" ++ t) = "/".intercalate ([safePath s, safePath t].filter (· ≠ "")) := by
  rw [safePath_eq_intercalate, names_append_slash]
  -- a slash is put between the two only if both have segments
  by_cases hs : names s = []
  · have hempty := (safePath_eq_empty_iff s).mpr hs
    by_cases ht : names t = []
    · have hnone := (safePath_eq_empty_iff t).mpr ht
      simp [hs, ht, hempty, hnone]
    · have hsome := mt (safePath_eq_empty_iff t).mp ht
      simp [hs, hempty, hsome, ← safePath_eq_intercalate]
  · have hfirst := mt (safePath_eq_empty_iff s).mp hs
    by_cases ht : names t = []
    · have hnone := (safePath_eq_empty_iff t).mpr ht
      simp [ht, hfirst, hnone, ← safePath_eq_intercalate]
    · have hsome := mt (safePath_eq_empty_iff t).mp ht
      rw [String.intercalate_append_of_ne_nil hs ht, ← safePath_eq_intercalate, ← safePath_eq_intercalate]
      simp [hfirst, hsome]

/-- Every slash of a safe path stands between two segments: there is text before it, and text that begins with no slash
after it. -/
theorem sanitize_around_slash {cs front back : List Char} (h : sanitize cs = front ++ '/' :: back) :
    front ≠ [] ∧ back ≠ [] ∧ ¬ ['/'] <+: back := by
  have hne : sanitize cs ≠ [] := by simp [h]
  -- a text that begins or ends at the slash, or goes on with another, would leave an empty piece
  have hpieces : [] ∉ Text.splitAt '/' front ++ Text.splitAt '/' back := by
    rw [← Text.splitAt_append_cons, ← h]
    intro hmem
    exact ne_nil_of_mem_splitAt hne hmem rfl
  rw [List.mem_append, not_or] at hpieces
  refine ⟨?_, ?_, ?_⟩
  · rintro rfl
    exact hpieces.1 List.mem_cons_self
  · rintro rfl
    exact hpieces.2 List.mem_cons_self
  · rintro ⟨rest, rfl⟩
    exact hpieces.2 (by simp [Text.splitAt])

end SafePath

open SafePath

/-- A path made safe is in normal form, and so begins and ends with no slash and has no two in a row; the texts in
normal form are the ones that are left as they are, and making a path safe again does nothing. Whether a slash was
written as a backslash and where refused characters stood makes no difference, and the safe path of two texts with a
slash between them is that of the first and that of the second, of which an empty one is left out. -/
theorem safe_path_is_normal_form (v : String) :
    IsNormal (safePath v) ∧
    (¬ ['/'] <+: (safePath v).toList ∧ ¬ ['/'] <:+ (safePath v).toList ∧ ¬ ['/', '/'] <:+: (safePath v).toList) ∧
    safePath (safePath v) = safePath v ∧
    (safePath v = v ↔ IsNormal v) ∧
    (∀ front back, v = front ++ "\\" ++ back → safePath (front ++ "/" ++ back) = safePath v) ∧
    (∀ front c back, c ∈ refusedCharacters → c ≠ '/' → c ≠ '\\' → v = front ++ String.singleton c ++ back →
      safePath (front ++ back) = safePath v) ∧
    ∀ w, safePath (v ++ "/" ++ w) = "/".intercalate ([safePath v, safePath w].filter (· ≠ "")) := by
  have hchars : (safePath v).toList = sanitize v.toList := by rw [safePath, String.toList_ofList]
  refine ⟨isNormal_safePath v, ⟨?_, ?_, ?_⟩, (isNormal_safePath v).safePath_eq, ⟨?_, IsNormal.safePath_eq⟩, ?_, ?_,
    safePath_append_slash v⟩
  · rintro ⟨rest, hrest⟩
    rw [hchars] at hrest
    have hcut : sanitize v.toList = [] ++ '/' :: rest := hrest.symm
    exact (sanitize_around_slash hcut).1 rfl
  · rintro ⟨front, hfront⟩
    rw [hchars] at hfront
    exact (sanitize_around_slash hfront.symm).2.1 rfl
  · rintro ⟨front, back, hdoubled⟩
    rw [hchars, List.append_assoc] at hdoubled
    exact (sanitize_around_slash hdoubled.symm).2.2 (List.prefix_append ['/'] back)
  · intro hsame
    rw [← hsame]
    exact isNormal_safePath v
  · rintro front back rfl
    apply safePath_congr
    simp [reading_slash, reading_backslash]
  · rintro front c back hrefused hslash hback rfl
    have hread : reading c = none := reading_of_refused hslash hback (by simpa [isRefused_eq] using hrefused)
    apply safePath_congr
    simp [hread]

/-- Slashes of both kinds, two of them in a row, a space inside a segment and a last segment of refused characters
alone. -/
theorem safe_path_is_normal_form_mixed :
    IsNormal (safePath "debug\\snippets//a b/?:") ∧ ¬ IsNormal "debug\\snippets//a b/?:" ∧
    safePath (safePath "debug\\snippets//a b/?:") = "debug/snippets/ab" ∧
    safePath ("debug" ++ "/" ++ "snippets//a b/?:") = "debug/snippets/ab" ∧
    safePath ("debug\\snippets//a" ++ "b/?:") = "debug/snippets/ab" ∧
    safePath ("debug\\snippets//a b/?:" ++ "/" ++ "\\x*\\") = "debug/snippets/ab/x" := by
  have hsafe : safePath "debug\\snippets//a b/?:" = "debug/snippets/ab" := by decide
  have hother : safePath "debug\\snippets//a b/?:" ≠ "debug\\snippets//a b/?:" := by decide
  obtain ⟨hnormal, -, hagain, hfixed, hslash, hrefused, hjoin⟩ := safe_path_is_normal_form "debug\\snippets//a b/?:"
  refine ⟨hnormal, mt hfixed.mpr hother, hagain.trans hsafe, ?_, ?_, ?_⟩
  · exact (hslash "debug" "snippets//a b/?:" (by decide)).trans hsafe
  · exact (hrefused "debug\\snippets//a" ' ' "b/?:" (by decide) (by decide) (by decide) (by decide)).trans hsafe
  · rw [hjoin, hsafe]
    decide

end WorkflowForge
