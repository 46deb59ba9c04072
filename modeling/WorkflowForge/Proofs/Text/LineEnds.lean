import WorkflowForge.Text.Lines

/-!
Unified line ends. No carriage return is left, so a text is unified once and for all, and a text without one is as it
was.
-/

namespace WorkflowForge.Text

theorem unifyLineEnds_of_not_mem {cs : List Char} (hcs : '\r' ∉ cs) : unifyLineEnds cs = cs := by
  induction cs with
  | nil => rfl
  | cons c cs ih =>
      rw [List.mem_cons, not_or] at hcs
      rw [unifyLineEnds, ih hcs.2]
      · exact fun _ heq => absurd heq.symm hcs.1
      · exact fun heq => absurd heq.symm hcs.1

theorem return_not_mem_unifyLineEnds (cs : List Char) : '\r' ∉ unifyLineEnds cs := by
  fun_induction unifyLineEnds cs with
  | case1 => simp
  | case2 rest ih => simp [ih]
  | case3 rest _ ih => simp [ih]
  | case4 c rest _ hc ih => simp [ih, Ne.symm hc]

theorem unifyLineEnds_unifyLineEnds (cs : List Char) : unifyLineEnds (unifyLineEnds cs) = unifyLineEnds cs :=
  unifyLineEnds_of_not_mem (return_not_mem_unifyLineEnds cs)

theorem head?_unifyLineEnds {cs : List Char} {c : Char} (hc : (unifyLineEnds cs).head? = some c) :
    cs.head? = some c ∨ c = '\n' := by
  fun_cases unifyLineEnds cs with
  | case1 => exact .inl hc
  | case2 rest => exact .inr (Option.some.inj hc).symm
  | case3 rest hfeed =>
      rw [unifyLineEnds.eq_3 rest hfeed] at hc
      exact .inr (Option.some.inj hc).symm
  | case4 d rest hfeed hreturn =>
      rw [unifyLineEnds.eq_4 d rest hfeed hreturn] at hc
      exact .inl hc

end WorkflowForge.Text
