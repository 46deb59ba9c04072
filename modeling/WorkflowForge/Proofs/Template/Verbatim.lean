import Mathlib.Data.List.Infix
import WorkflowForge.Proofs.Text.LineEnds
import WorkflowForge.Template.Render

/-!
Templates without a tag. A text in which no tag, comment or statement opens is a single piece of plain text for the
lexer, one block of data or none for the parser, and is rendered as it stands under any names, its line ends unified.
Marks that close a tag may stand anywhere in it.
-/

namespace WorkflowForge.Template

/-- No tag, statement or comment opens in a text. -/
def IsVerbatim (cs : List Char) : Prop := ∀ mark ∈ ['{', '%', '#'], ¬ ['{', mark] <:+: cs

-- by the three marks, not by a search through all characters
instance (cs : List Char) : Decidable (IsVerbatim cs) :=
  List.decidableBAll (fun mark => ¬ ['{', mark] <:+: cs) ['{', '%', '#']

theorem isVerbatim_cons {c : Char} {cs : List Char} :
    IsVerbatim (c :: cs) ↔ (c = '{' → ∀ mark ∈ ['{', '%', '#'], cs.head? ≠ some mark) ∧ IsVerbatim cs := by
  have hopens : ∀ mark, ['{', mark] <+: c :: cs ↔ c = '{' ∧ cs.head? = some mark := by
    intro mark
    rw [List.cons_prefix_cons, eq_comm]
    cases cs <;> simp [eq_comm]
  simp only [IsVerbatim, List.infix_cons_iff, hopens, not_or, not_and]
  exact ⟨fun h => ⟨fun hc mark hmark => (h mark hmark).1 hc, fun mark hmark => (h mark hmark).2⟩,
    fun h mark hmark => ⟨fun hc => h.1 hc mark hmark, h.2 mark hmark⟩⟩

/-- Unifying the line ends brings no two characters together that were apart. -/
theorem isVerbatim_unifyLineEnds {cs : List Char} (hcs : IsVerbatim cs) : IsVerbatim (Text.unifyLineEnds cs) := by
  fun_induction Text.unifyLineEnds cs with
  | case1 => exact hcs
  | case2 rest ih =>
      refine isVerbatim_cons.mpr ⟨fun hc => ?_, ih (isVerbatim_cons.mp (isVerbatim_cons.mp hcs).2).2⟩
      exact absurd hc (by decide)
  | case3 rest _ ih =>
      refine isVerbatim_cons.mpr ⟨fun hc => ?_, ih (isVerbatim_cons.mp hcs).2⟩
      exact absurd hc (by decide)
  | case4 c rest _ _ ih =>
      obtain ⟨hopens, hrest⟩ := isVerbatim_cons.mp hcs
      refine isVerbatim_cons.mpr ⟨fun hc mark hmark hhead => ?_, ih hrest⟩
      rcases Text.head?_unifyLineEnds hhead with hsame | rfl
      · exact hopens hc mark hmark hsame
      · exact absurd hmark (by decide)

theorem Scan.plain_of_isVerbatim {cs : List Char} (hcs : IsVerbatim cs) : Scan.plain cs = (cs, []) := by
  induction cs with
  | nil => rfl
  | cons c cs ih =>
      obtain ⟨hopens, hrest⟩ := isVerbatim_cons.mp hcs
      have hnone : ∀ mark ∈ ['{', '%', '#'], ∀ rest, c = '{' → cs = mark :: rest → False := by
        rintro mark hmark rest hc rfl
        exact hopens hc mark hmark rfl
      rw [Scan.plain, ih hrest]
      · exact hnone '{' (by decide)
      · exact hnone '%' (by decide)
      · exact hnone '#' (by decide)

theorem Token.scan_of_isVerbatim {source : String} (hsource : IsVerbatim source.toList) :
    ∃ line ending, Token.scan source =
      Token.dataToken (Text.unifyLineEnds source.toList) line ++ [⟨.ending, ending⟩] := by
  unfold Token.scan
  dsimp only
  rw [Token.scanPlain, Scan.plain_of_isVerbatim (isVerbatim_unifyLineEnds hsource)]
  exact ⟨_, _, rfl⟩

/-- The blocks of plain text. -/
def Block.verbatim (cs : List Char) : List Block := if cs.isEmpty then [] else [.data (String.ofList cs)]

theorem Block.parse_of_isVerbatim {source : String} (hsource : IsVerbatim source.toList) :
    Block.parse source = .ok (Block.verbatim (Text.unifyLineEnds source.toList)) := by
  obtain ⟨line, ending, htokens⟩ := Token.scan_of_isVerbatim hsource
  rw [Block.parse, htokens]
  cases Text.unifyLineEnds source.toList <;> rfl

theorem Block.checkAll_verbatim (cs : List Char) : Block.checkAll false (Block.verbatim cs) = .ok () := by
  cases cs <;> rfl

theorem Block.runAll_verbatim (env : Env) (cs : List Char) :
    Block.runAll env (Block.verbatim cs) = .ok (env, String.ofList cs) := by
  cases cs with
  | nil => rfl
  | cons c cs =>
      change Except.ok (env, String.ofList (c :: cs) ++ "") = _
      rw [String.append_empty]

/-- A text without a tag is rendered as it stands. -/
theorem render_of_isVerbatim {source : String} (hsource : IsVerbatim source.toList) (env : Env) :
    render source env = .ok (Text.withUnixLines source) := by
  rw [render, Block.parse_of_isVerbatim hsource]
  dsimp only
  rw [Block.checkAll_verbatim]
  dsimp only
  rw [Block.runAll_verbatim]
  rfl

end WorkflowForge.Template
