import WorkflowForge.Files.SafePath
import WorkflowForge.Proofs.Files.Resolution

/-!
Paths and the texts they are read from. Reading cuts a text at its slashes and drops what is no step; the path read is
found again in its own text. A path made safe is cut into segments none of which is empty, and it is never absolute.
Where text stands in front of a name and behind it, as a number and the name of a file do, the first piece and the last
are no steps up, whatever the name is.
-/

namespace WorkflowForge

namespace Text

theorem splitAt_ne_nil (sep : Char) (cs : List Char) : splitAt sep cs ≠ [] := by
  cases cs with
  | nil => simp [splitAt]
  | cons c rest =>
      rw [splitAt]
      split
      · simp
      · split <;> simp

theorem splitAt_append_left {sep : Char} {front cs piece : List Char} {pieces : List (List Char)} (h : sep ∉ front)
    (hsplit : splitAt sep cs = piece :: pieces) : splitAt sep (front ++ cs) = (front ++ piece) :: pieces := by
  induction front with
  | nil => exact hsplit
  | cons c front ih =>
      rw [List.mem_cons, not_or] at h
      have hne : (c == sep) = false := by simpa using Ne.symm h.1
      simp [splitAt, hne, ih h.2]

theorem splitAt_of_not_mem {sep : Char} {cs : List Char} (h : sep ∉ cs) : splitAt sep cs = [cs] := by
  have hall := splitAt_append_left h (show splitAt sep [] = [] :: [] from rfl)
  simpa using hall

theorem splitAt_append_right {sep : Char} {back cs piece : List Char} (pieces : List (List Char)) (h : sep ∉ back)
    (hsplit : splitAt sep cs = pieces ++ [piece]) : splitAt sep (cs ++ back) = pieces ++ [piece ++ back] := by
  induction cs generalizing pieces piece with
  | nil =>
      obtain ⟨rfl, rfl⟩ : pieces = [] ∧ piece = [] := by
        cases pieces with
        | nil => simpa [splitAt] using hsplit.symm
        | cons first rest => simp [splitAt] at hsplit
      simpa using splitAt_of_not_mem h
  | cons c cs ih =>
      rw [List.cons_append, splitAt]
      rw [splitAt] at hsplit
      split at hsplit
      · next heq =>
          rw [if_pos heq]
          cases pieces with
          | nil =>
              have hnil := (List.cons.inj hsplit).2
              exact absurd hnil (splitAt_ne_nil sep cs)
          | cons first rest =>
              obtain ⟨rfl, hrest⟩ := List.cons.inj hsplit
              rw [ih _ hrest]
              rfl
      · next hne =>
          rw [if_neg hne]
          split at hsplit
          · next hnil => exact absurd hnil (splitAt_ne_nil sep cs)
          · next first rest hcs =>
              cases pieces with
              | nil =>
                  obtain ⟨rfl, rfl⟩ : c :: first = piece ∧ rest = [] := by simpa using hsplit
                  rw [ih [] hcs]
                  rfl
              | cons other others =>
                  obtain ⟨rfl, rfl⟩ : c :: first = other ∧ rest = others ++ [piece] := by simpa using hsplit
                  rw [ih (first :: others) hcs]
                  rfl

theorem not_mem_of_mem_splitAt {sep : Char} {cs piece : List Char} (h : piece ∈ splitAt sep cs) : sep ∉ piece := by
  induction cs generalizing piece with
  | nil =>
      rw [splitAt, List.mem_singleton] at h
      simp [h]
  | cons c cs ih =>
      rw [splitAt] at h
      split at h
      · rcases List.mem_cons.mp h with rfl | hrest
        · simp
        · exact ih hrest
      · next hne =>
          split at h
          · next hnil => exact absurd hnil (splitAt_ne_nil sep cs)
          · next first rest hcs =>
              rcases List.mem_cons.mp h with rfl | hrest
              · have hfirst : sep ∉ first := ih (by rw [hcs]; exact List.mem_cons_self)
                have hc : sep ≠ c := by
                  intro heq
                  apply hne
                  simp [heq]
                simp [hfirst, hc]
              · exact ih (by rw [hcs]; exact List.mem_cons_of_mem _ hrest)

theorem splitAt_joinWith {sep : Char} {pieces : List (List Char)} (hne : pieces ≠ [])
    (hpieces : ∀ piece ∈ pieces, sep ∉ piece) : splitAt sep (joinWith [sep] pieces) = pieces := by
  induction pieces with
  | nil => exact absurd rfl hne
  | cons piece rest ih =>
      have hpiece : sep ∉ piece := hpieces piece List.mem_cons_self
      cases rest with
      | nil => exact splitAt_of_not_mem hpiece
      | cons next others =>
          have hrest := ih (by simp) fun other hother => hpieces other (List.mem_cons_of_mem _ hother)
          have hsep : splitAt sep (sep :: joinWith [sep] (next :: others)) = [] :: next :: others := by
            simp [splitAt, hrest]
          have hall := splitAt_append_left hpiece hsep
          simpa [joinWith] using hall

theorem splitAt_replicate_append (sep : Char) (n : Nat) (cs : List Char) :
    splitAt sep (List.replicate n sep ++ cs) = List.replicate n [] ++ splitAt sep cs := by
  induction n with
  | zero => rfl
  | succ n ih => simp [List.replicate_succ, splitAt, ih]

theorem joinWith_eq_intercalate (sep : List Char) (pieces : List (List Char)) :
    joinWith sep pieces = sep.intercalate pieces := by
  induction pieces with
  | nil => rfl
  | cons piece rest ih =>
      cases rest with
      | nil => simp [joinWith]
      | cons next others => rw [joinWith, ih, List.intercalate_cons_cons]; simp

/-- What comes first in the joined text comes first in the first piece. -/
theorem head?_joinWith_ne {sep : List Char} {piece : List Char} {pieces : List (List Char)} {c : Char}
    (hne : piece ≠ []) (hc : c ∉ piece) : (joinWith sep (piece :: pieces)).head? ≠ some c := by
  cases piece with
  | nil => exact absurd rfl hne
  | cons first rest =>
      have hfirst : first ≠ c := by
        intro heq
        apply hc
        rw [heq]
        exact List.mem_cons_self
      cases pieces with
      | nil => simpa [joinWith] using hfirst
      | cons next others => simpa [joinWith] using hfirst

end Text

namespace SafePath

theorem segments_ne_nil {cs segment : List Char} (h : segment ∈ segments cs) : segment ≠ [] := by
  rw [segments, List.mem_filter] at h
  simpa using h.2

theorem slash_not_mem_segment {cs segment : List Char} (h : segment ∈ segments cs) : '/' ∉ segment := by
  rw [segments, List.mem_filter, List.mem_map] at h
  obtain ⟨⟨part, _, rfl⟩, _⟩ := h
  simp [isRefused]

/-- A safe path splits into its segments, none of which is empty. -/
theorem ne_nil_of_mem_splitAt {cs piece : List Char} (hne : sanitize cs ≠ [])
    (h : piece ∈ Text.splitAt '/' (sanitize cs)) : piece ≠ [] := by
  have hsegments : segments cs ≠ [] := by
    intro hnil
    apply hne
    rw [sanitize, hnil]
    rfl
  rw [sanitize, Text.splitAt_joinWith hsegments fun _ => slash_not_mem_segment] at h
  exact segments_ne_nil h

theorem head?_sanitize_ne_slash (cs : List Char) : (sanitize cs).head? ≠ some '/' := by
  rw [sanitize]
  cases hsegments : segments cs with
  | nil => simp [Text.joinWith]
  | cons first rest =>
      have hmem : first ∈ segments cs := by rw [hsegments]; exact List.mem_cons_self
      exact Text.head?_joinWith_ne (segments_ne_nil hmem) (slash_not_mem_segment hmem)

/-- A text without slashes of either kind gives a single segment at most. -/
theorem slash_not_mem_sanitize {cs : List Char} (hslash : '/' ∉ cs) (hback : '\\' ∉ cs) : '/' ∉ sanitize cs := by
  have hslashed : slashed cs = cs := by
    have hsame : ∀ c ∈ cs, (if c == '\\' then '/' else c) = id c := by
      intro c hc
      have hother : ¬ (c == '\\') = true := by
        intro heq
        rw [beq_iff_eq] at heq
        exact hback (heq ▸ hc)
      rw [if_neg hother]
      rfl
    rw [slashed, List.map_congr_left hsame, List.map_id]
  rw [sanitize, segments, hslashed, Text.splitAt_of_not_mem hslash]
  simp only [List.map_cons, List.map_nil, List.filter_cons, List.filter_nil]
  split
  · rw [Text.joinWith]
    intro hmem
    exact hslash (List.mem_of_mem_filter hmem)
  · simp [Text.joinWith]

end SafePath

namespace Path

theorem isAbsolute_ofText_of_head? {s : String} (h : s.toList.head? ≠ some '/') : (ofText s).isAbsolute = false := by
  have hnone : leadingSlashes s.toList = 0 := by
    cases hs : s.toList with
    | nil => rfl
    | cons c rest =>
        have hc : (c == '/') = false := by
          rw [hs] at h
          simpa using h
        simp [leadingSlashes, hc]
  simp [isAbsolute, ofText, hnone]

theorem isAbsolute_ofText_safePath (s : String) : (ofText (safePath s)).isAbsolute = false := by
  apply isAbsolute_ofText_of_head?
  rw [safePath, String.toList_ofList]
  exact SafePath.head?_sanitize_ne_slash s.toList

/-- A part of a path proper: not empty, and without slashes. -/
def IsPart (s : String) : Prop := s ≠ "" ∧ '/' ∉ s.toList

/-- What is true of every path that is read from a text: at most two slashes in front, and parts proper that are not
single dots. -/
structure IsProper (p : Path) : Prop where
  slashes : p.slashes ≤ 2
  parts : ∀ part ∈ p.parts, IsPart part ∧ part ≠ "."

theorem isProper_ofText (s : String) : (ofText s).IsProper := by
  constructor
  · rw [ofText]
    unfold leadingSlashes
    dsimp only
    split <;> omega
  · intro part hpart
    rw [ofText, partsOf, List.mem_filter, Text.splitText, List.mem_map] at hpart
    obtain ⟨⟨piece, hpiece, rfl⟩, hkept⟩ := hpart
    rw [Bool.and_eq_true, bne_iff_ne, bne_iff_ne] at hkept
    refine ⟨⟨hkept.1, ?_⟩, hkept.2⟩
    rw [String.toList_ofList]
    exact Text.not_mem_of_mem_splitAt hpiece

theorem IsProper.join {p q : Path} (hp : p.IsProper) (hq : q.IsProper) : (p.join q).IsProper := by
  rw [Path.join]
  split
  · exact hq
  · refine ⟨hp.slashes, ?_⟩
    intro part hpart
    rcases List.mem_append.mp hpart with h | h
    · exact hp.parts part h
    · exact hq.parts part h

theorem IsProper.below {p : Path} (hp : p.IsProper) (s : String) : (p.below s).IsProper :=
  hp.join (isProper_ofText s)

theorem IsProper.isPart_name {p : Path} (hp : p.IsProper) (hne : p.parts ≠ []) : IsPart p.name := by
  rw [name, List.getLast?_eq_some_getLast hne]
  exact (hp.parts _ (List.getLast_mem hne)).1

theorem IsProper.slash_not_mem_name {p : Path} (hp : p.IsProper) : '/' ∉ p.name.toList := by
  cases hparts : p.parts with
  | nil => simp [name, hparts]
  | cons first rest => exact (hp.isPart_name (by simp [hparts])).2

theorem slash_not_mem_stem {p : Path} (h : '/' ∉ p.name.toList) : '/' ∉ p.stem.toList := by
  rw [stem, splitName]
  split
  · rw [String.toList_ofList]
    intro hmem
    exact h (List.mem_of_mem_take hmem)
  · exact h

theorem isPart_stem {p : Path} (h : IsPart p.name) : IsPart p.stem := by
  refine ⟨?_, slash_not_mem_stem h.2⟩
  rw [stem, splitName]
  split
  · next hcut =>
      simp only [Bool.and_eq_true, Bool.not_eq_true', List.isEmpty_eq_false_iff] at hcut
      intro hempty
      apply hcut.2
      have hlist := congrArg String.toList hempty
      simpa using hlist
  · exact h.1

/-- The pieces of a text that are steps of a path. -/
def stepsOf (pieces : List (List Char)) : List String :=
  (pieces.map String.ofList).filter fun part => part != "" && part != "."

theorem partsOf_ofList (cs : List Char) : partsOf (String.ofList cs) = stepsOf (Text.splitAt '/' cs) := by
  rw [partsOf, Text.splitText, String.toList_ofList]
  rfl

/-- Whether characters are the name of a directory or a file, and neither nothing nor dots that stand for one. -/
def IsName (cs : List Char) : Prop := cs ≠ [] ∧ cs ≠ ['.'] ∧ cs ≠ ['.', '.']

theorem isName_of_head {c : Char} {cs : List Char} (h : c ≠ '.') : IsName (c :: cs) := by
  refine ⟨by simp, ?_, ?_⟩
  · intro heq
    exact h (List.cons.inj heq).1
  · intro heq
    exact h (List.cons.inj heq).1

theorem isName_of_length {cs : List Char} (h : 3 ≤ cs.length) : IsName cs := by
  refine ⟨?_, ?_, ?_⟩
  all_goals
    rintro rfl
    simp at h

theorem ofList_ne {cs : List Char} {s : String} (h : cs ≠ s.toList) : String.ofList cs ≠ s := by
  intro heq
  apply h
  rw [← heq, String.toList_ofList]

theorem IsName.ne_up {cs : List Char} (h : IsName cs) : String.ofList cs ≠ ".." := ofList_ne h.2.2

theorem IsName.isStep {cs : List Char} (h : IsName cs) :
    (String.ofList cs != "" && String.ofList cs != ".") = true := by
  have hempty : String.ofList cs ≠ "" := ofList_ne h.1
  have hdot : String.ofList cs ≠ "." := ofList_ne h.2.1
  simp [hempty, hdot]

theorem stepsOf_cons_name {cs : List Char} (h : IsName cs) (pieces : List (List Char)) :
    stepsOf (cs :: pieces) = String.ofList cs :: stepsOf pieces := by
  rw [stepsOf, List.map_cons, List.filter_cons, if_pos h.isStep]
  rfl

/-- A text that is a name is its only part. -/
theorem partsOf_of_isName {s : String} (hslash : '/' ∉ s.toList) (hname : IsName s.toList) : partsOf s = [s] := by
  have hparts := partsOf_ofList s.toList
  rw [Text.splitAt_of_not_mem hslash, stepsOf_cons_name hname, String.ofList_toList] at hparts
  exact hparts

theorem stepsOf_append (pieces more : List (List Char)) :
    stepsOf (pieces ++ more) = stepsOf pieces ++ stepsOf more := by
  rw [stepsOf, List.map_append, List.filter_append]
  rfl

theorem stepsOf_append_name {cs : List Char} (h : IsName cs) (pieces : List (List Char)) :
    stepsOf (pieces ++ [cs]) = stepsOf pieces ++ [String.ofList cs] := by
  rw [stepsOf_append, stepsOf_cons_name h]
  rfl

theorem stepsOf_replicate_nil (n : Nat) : stepsOf (List.replicate n []) = [] := by
  simp [stepsOf]

theorem stepsOf_of_isPart {parts : List String} (h : ∀ part ∈ parts, IsPart part ∧ part ≠ ".") :
    stepsOf (parts.map String.toList) = parts := by
  rw [stepsOf, List.map_map, List.filter_eq_self.mpr]
  · simp
  · intro part hpart
    rw [List.mem_map] at hpart
    obtain ⟨original, horiginal, rfl⟩ := hpart
    have hpart := h original horiginal
    simp [hpart.1.1, hpart.2]

theorem leadingSlashes_append {n : Nat} {cs : List Char} (hn : n ≤ 2) (hcs : cs.head? ≠ some '/') :
    leadingSlashes (List.replicate n '/' ++ cs) = n := by
  have hnone : cs.takeWhile (· == '/') = [] := by
    cases cs with
    | nil => rfl
    | cons c rest =>
        have hc : (c == '/') = false := by simpa using hcs
        simp [hc]
  have hlength : ((List.replicate n '/' ++ cs).takeWhile (· == '/')).length = n := by
    rw [List.takeWhile_append_of_pos (by simp), hnone, List.append_nil, List.length_replicate]
  unfold leadingSlashes
  rw [hlength]
  obtain rfl | rfl | rfl : n = 0 ∨ n = 1 ∨ n = 2 := by omega
  all_goals rfl

theorem toList_toText {p : Path} (h : p.slashes ≠ 0 ∨ p.parts ≠ []) :
    p.toText.toList = List.replicate p.slashes '/' ++ Text.joinWith ['/'] (p.parts.map String.toList) := by
  have hsome : ¬ (p.slashes == 0 && p.parts.isEmpty) = true := by
    rw [Bool.and_eq_true, beq_iff_eq, List.isEmpty_iff, not_and_or]
    exact h
  have hslash : "/".toList = ['/'] := by decide
  rw [toText, if_neg hsome, String.toList_append, String.toList_ofList, String.toList_intercalate, hslash,
    Text.joinWith_eq_intercalate]

/-- A path is read back from its own text. -/
theorem IsProper.ofText_toText {p : Path} (hp : p.IsProper) : ofText p.toText = p := by
  by_cases hempty : p.slashes = 0 ∧ p.parts = []
  · obtain ⟨slashes, parts⟩ := p
    obtain ⟨rfl, rfl⟩ := hempty
    decide
  · have htext := toList_toText (p := p) (by rwa [not_and_or] at hempty)
    have hpieces : ∀ piece ∈ p.parts.map String.toList, '/' ∉ piece := by
      intro piece hpiece
      obtain ⟨part, hpart, rfl⟩ := List.mem_map.mp hpiece
      exact (hp.parts part hpart).1.2
    have hhead : (Text.joinWith ['/'] (p.parts.map String.toList)).head? ≠ some '/' := by
      cases hparts : p.parts with
      | nil => simp [Text.joinWith]
      | cons part rest =>
          have hpart := (hp.parts part (by rw [hparts]; exact List.mem_cons_self)).1
          apply Text.head?_joinWith_ne
          · intro hnil
            exact hpart.1 (String.toList_inj.mp hnil)
          · exact hpart.2
    have hslashes : leadingSlashes p.toText.toList = p.slashes := by
      rw [htext, leadingSlashes_append hp.slashes hhead]
    have hsteps : partsOf p.toText = p.parts := by
      rw [← String.ofList_toList (s := p.toText), partsOf_ofList, htext, Text.splitAt_replicate_append, stepsOf_append,
        stepsOf_replicate_nil, List.nil_append]
      by_cases hnil : p.parts = []
      · rw [hnil]
        rfl
      · rw [Text.splitAt_joinWith (by simpa using hnil) hpieces, stepsOf_of_isPart hp.parts]
    rw [ofText, hslashes, hsteps]

/-- What stands in front of a name and behind it makes no difference to whether its path stays inside, if the front
does not begin with a dot: the first and the last piece are no steps up. -/
theorem staysInside_framed {c : Char} {front middle back : List Char} (hc : c ≠ '.') (hfront : '/' ∉ c :: front)
    (hback : '/' ∉ back) (hlength : 2 ≤ back.length)
    (hmiddle : middle ≠ [] → ∀ piece ∈ Text.splitAt '/' middle, piece ≠ []) (depth : Nat) :
    staysInside depth (partsOf (String.ofList (c :: front ++ middle ++ back))) =
      staysInside (depth + 1) (stepsOf (Text.splitAt '/' middle).tail.dropLast) := by
  cases hsplit : Text.splitAt '/' middle with
  | nil => exact absurd hsplit (Text.splitAt_ne_nil '/' middle)
  | cons piece pieces =>
      have hleft := Text.splitAt_append_left hfront hsplit
      rw [partsOf_ofList]
      rcases List.eq_nil_or_concat pieces with rfl | ⟨inner, last, rfl⟩
      · rw [Text.splitAt_append_right [] hback hleft, List.nil_append]
        have hname : IsName (c :: front ++ piece ++ back) := isName_of_head hc
        rw [stepsOf_cons_name hname, staysInside_name hname.ne_up]
        rfl
      · rw [List.concat_eq_append] at hleft hsplit ⊢
        rw [Text.splitAt_append_right ((c :: front ++ piece) :: inner) hback hleft]
        have hfirst : IsName (c :: front ++ piece) := isName_of_head hc
        have hlast : IsName (last ++ back) := by
          apply isName_of_length
          have hne : last ≠ [] := by
            refine hmiddle ?_ last (by simp [hsplit])
            rintro rfl
            simp [Text.splitAt] at hsplit
          have hpositive := List.length_pos_iff.mpr hne
          rw [List.length_append]
          omega
        rw [stepsOf_append_name hlast, stepsOf_cons_name hfirst, staysInside_append_name hlast.ne_up,
          staysInside_name hfirst.ne_up]
        simp

end Path

end WorkflowForge
