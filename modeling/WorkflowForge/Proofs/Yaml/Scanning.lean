import Mathlib.Algebra.Group.Nat.Defs
import WorkflowForge.Yaml.Token.Lexer

/-!
What can go wrong while a YAML text is scanned. The scanner only ever moves on through the text, and wherever it stops
the text is malformed, with one exception: a number behind `\U` that no character has. That is followed through the
steps of reading as an invariant, a step at a time, and from there through the lexer and its run.
-/

namespace WorkflowForge

/-- A result is as wanted, or the reason why there is none is one of those expected. -/
inductive Gives (E : ε → Prop) (Q : α → Prop) : Except ε α → Prop
  | ok {a : α} (h : Q a) : Gives E Q (.ok a)
  | error {e : ε} (h : E e) : Gives E Q (.error e)

theorem Gives.bind {E : ε → Prop} {Q : α → Prop} {R : β → Prop} {x : Except ε α} {f : α → Except ε β}
    (hx : Gives E Q x) (hf : ∀ a, Q a → Gives E R (f a)) : Gives E R (x >>= f) := by
  cases hx with
  | ok h => exact hf _ h
  | error h => exact .error h

theorem Gives.ite {E : ε → Prop} {Q : α → Prop} {p : Prop} [Decidable p] {x y : Except ε α} (hx : p → Gives E Q x)
    (hy : ¬ p → Gives E Q y) : Gives E Q (if p then x else y) := by
  split
  · exact hx (by assumption)
  · exact hy (by assumption)

/-- From a state of the first kind a step leads to a state and a value of the second, or fails as expected. -/
def Triple (E : ε → Prop) (P : σ → Prop) (step : StateT σ (Except ε) α) (Q : α → σ → Prop) : Prop :=
  ∀ s, P s → Gives E (fun r => Q r.1 r.2) (step.run s)

namespace Triple

variable {E : ε → Prop} {P : σ → Prop} {Q : α → σ → Prop} {R : β → σ → Prop}

theorem pure {a : α} (h : ∀ s, P s → Q a s) : Triple E P (Pure.pure a) Q := fun s hs => .ok (h s hs)

theorem throw {e : ε} (h : E e) : Triple E P (MonadExcept.throw e) Q := fun _ _ => .error h

theorem get : Triple E P MonadState.get fun a s => P s ∧ a = s := fun _ hs => .ok ⟨hs, rfl⟩

theorem modifying {f : σ → σ} {P' : σ → Prop} (h : ∀ s, P s → P' (f s)) : Triple E P (modify f) fun _ => P' :=
  fun s hs => .ok (h s hs)

theorem bind {x : StateT σ (Except ε) α} {f : α → StateT σ (Except ε) β} (hx : Triple E P x Q)
    (hf : ∀ a, Triple E (Q a) (f a) R) : Triple E P (x >>= f) R :=
  fun s hs => (hx s hs).bind fun r hr => hf r.1 r.2 hr

theorem ite {p : Prop} [Decidable p] {x y : StateT σ (Except ε) α} (hx : p → Triple E P x Q)
    (hy : ¬ p → Triple E P y Q) : Triple E P (if p then x else y) Q := by
  split
  · exact hx (by assumption)
  · exact hy (by assumption)

theorem weaken {P' : σ → Prop} {x : StateT σ (Except ε) α} (hx : Triple E P x Q) (h : ∀ s, P' s → P s) :
    Triple E P' x Q := fun s hs => hx s (h s hs)

/-- What follows from the state before a step may be used for the step. -/
theorem given {φ : Prop} {x : StateT σ (Except ε) α} (h : ∀ s, P s → φ) (hx : φ → Triple E P x Q) : Triple E P x Q :=
  fun s hs => hx (h s hs) s hs

end Triple

/-- A step keeps an invariant, also where it fails as expected. -/
abbrev Keeps (E : ε → Prop) (I : σ → Prop) (step : StateT σ (Except ε) α) : Prop := Triple E I step fun _ => I

namespace Keeps

variable {E : ε → Prop} {I : σ → Prop}

theorem pure (a : α) : Keeps E I (Pure.pure a) := Triple.pure fun _ hs => hs

theorem get : Keeps E I MonadState.get := fun _ hs => .ok hs

theorem bind {x : StateT σ (Except ε) α} {f : α → StateT σ (Except ε) β} (hx : Keeps E I x)
    (hf : ∀ a, Keeps E I (f a)) : Keeps E I (x >>= f) := Triple.bind hx hf

theorem discard {x : StateT σ (Except ε) α} (hx : Keeps E I x) : Keeps E I (Functor.discard x) :=
  fun s hs => (hx s hs).bind fun _ hr => .ok hr

theorem ite {p : Prop} [Decidable p] {x y : StateT σ (Except ε) α} (hx : Keeps E I x) (hy : Keeps E I y) :
    Keeps E I (if p then x else y) := Triple.ite (fun _ => hx) fun _ => hy

end Keeps

theorem Text.hexNumber?_lt {cs : List Char} {n : Nat} (hn : Text.hexNumber? cs = some n) : n < 16 ^ cs.length := by
  have hvalue : ∀ c d, Text.hexValue? c = some d → d < 16 := by
    intro c d hd
    unfold Text.hexValue? at hd
    split at hd
    · rename_i hc
      cases hd
      have : c.toNat ≤ 57 := hc.2
      omega
    · split at hd
      · rename_i hc
        cases hd
        have : c.toNat ≤ 102 := hc.2
        omega
      · split at hd
        · rename_i hc
          cases hd
          have : c.toNat ≤ 70 := hc.2
          omega
        · cases hd
  have hfold : ∀ (cs : List Char) (acc : Nat),
      cs.foldlM (fun n c => (Text.hexValue? c).map (n * 16 + ·)) acc = some n → n < (acc + 1) * 16 ^ cs.length := by
    intro cs
    induction cs with
    | nil =>
        intro acc h
        cases h
        simp
    | cons c cs ih =>
        intro acc h
        rw [List.foldlM_cons, Option.bind_eq_bind, Option.bind_eq_some_iff] at h
        obtain ⟨next, hnext, hrest⟩ := h
        obtain ⟨d, hd, rfl⟩ := Option.map_eq_some_iff.mp hnext
        calc n < (acc * 16 + d + 1) * 16 ^ cs.length := ih _ hrest
          _ ≤ ((acc + 1) * 16) * 16 ^ cs.length := Nat.mul_le_mul_right _ (by have := hvalue c d hd; omega)
          _ = (acc + 1) * 16 ^ (c :: cs).length := by rw [List.length_cons, Nat.pow_succ', Nat.mul_assoc]
  simpa using hfold cs 0 hn

namespace Yaml

/-- There is an escape in a text whose number no character has. -/
def HasVoidEscape (text : List Char) : Prop :=
  ∃ digits n, digits.length = 8 ∧ Text.hexNumber? digits = some n ∧ 0x10ffff < n ∧ '\\' :: 'U' :: digits <:+: text

/-- What can be wrong with a text: it is malformed, or there is such an escape in it. -/
def Explained (text : List Char) (m : Mistake) : Prop := m = .malformed ∨ HasVoidEscape text

theorem Cursor.forward_suffix (c : Cursor) (n : Nat) : (c.forward n).rest <:+ c.rest := by
  induction n generalizing c with
  | zero => exact List.suffix_rfl
  | succ n ih =>
      obtain ⟨rest, index, line, column⟩ := c
      cases rest with
      | nil => exact List.suffix_rfl
      | cons ch rest =>
          refine (ih _).trans ?_
          dsimp only
          split
          · exact List.suffix_cons ch rest
          · split <;> exact List.suffix_cons ch rest

theorem Cursor.forward_one_rest {c : Cursor} {ch : Char} {rest : List Char} (hc : c.rest = ch :: rest) :
    (c.forward 1).rest = rest := by
  obtain ⟨_, index, line, column⟩ := c
  obtain rfl : _ = ch :: rest := hc
  rw [forward]
  dsimp only [forward]
  split
  · rfl
  · split <;> rfl

theorem Cursor.exists_rest_of_peek {c : Cursor} {ch : Char} (hc : c.peek = ch) (hch : ch ≠ nul) :
    ∃ rest, c.rest = ch :: rest := by
  obtain ⟨rest, index, line, column⟩ := c
  cases rest with
  | nil => exact absurd hc.symm hch
  | cons d rest => exact ⟨rest, congrArg (· :: rest) hc⟩

namespace Scan

/-- The place is in the text. -/
def Within (text : List Char) (c : Cursor) : Prop := c.rest <:+ text

/-- A step stays in the text, and where it fails the mistake is explained by the text. -/
abbrev Safe (text : List Char) (step : Scan α) : Prop := Keeps (Explained text) (Within text) step

section

variable {text : List Char}

theorem safe_skip (n : Nat) : Safe text (skip n) := Triple.modifying fun c hc => (c.forward_suffix n).trans hc

theorem safe_malformed : Safe text (malformed : Scan α) := Triple.throw (.inl rfl)

theorem safe_peek : Safe text peek := Keeps.get.bind fun _ => .pure _

theorem safe_demand (ok : Char → Bool) : Safe text (demand ok) := safe_peek.bind fun _ => .ite (.pure _) safe_malformed

theorem safe_takeWhile (wanted : Char → Bool) : Safe text (takeWhile wanted) :=
  Keeps.get.bind fun _ => (safe_skip _).bind fun _ => .pure _

theorem safe_skipSpaces : Safe text skipSpaces := (safe_takeWhile _).discard

theorem safe_lineBreak : Safe text lineBreak := by
  have hskip : ∀ (n : Nat) (cs : List Char), Safe text (do skip n; return cs) :=
    fun n cs => (safe_skip n).bind fun _ => .pure cs
  exact Keeps.get.bind fun _ => .ite (hskip _ _) (.ite (hskip _ _) (.ite (hskip _ _) (.pure _)))

theorem safe_restOfLine : Safe text restOfLine := by
  have hend : Safe text (do demand isBreakOrEnd; discard lineBreak) :=
    (safe_demand _).bind fun _ => safe_lineBreak.discard
  exact safe_skipSpaces.bind fun _ => safe_peek.bind fun _ => .ite ((safe_takeWhile _).discard.bind fun _ => hend) hend

theorem safe_name : Safe text name := (safe_takeWhile _).bind fun _ => .ite safe_malformed (.pure _)

theorem safe_decimal : Safe text decimal := (safe_takeWhile _).bind fun _ => .ite safe_malformed (.pure _)

theorem safe_escapedBytes (steps : Nat) : Safe text (escapedBytes steps) := by
  induction steps with
  | zero => exact .pure _
  | succ steps ih =>
      refine Keeps.get.bind fun c => .ite (.pure _) ?_
      split
      · exact safe_malformed
      · exact (safe_skip 3).bind fun _ => ih.bind fun _ => .pure _

theorem safe_uriChunks (steps : Nat) : Safe text (uriChunks steps) := by
  induction steps with
  | zero => exact .pure _
  | succ steps ih =>
      refine (safe_takeWhile _).bind fun _ => safe_peek.bind fun _ => .ite ?_ (.pure _)
      refine (safe_escapedBytes steps).bind fun bytes => ?_
      split
      · exact safe_malformed
      · exact ih.bind fun _ => .pure _

theorem safe_uri : Safe text uri :=
  safe_peek.bind fun _ => Keeps.get.bind fun _ => (safe_uriChunks _).bind fun _ => .ite (.pure _) safe_malformed

theorem safe_tagHandle : Safe text tagHandle := by
  refine (safe_demand _).bind fun _ => Keeps.get.bind fun _ => .ite ((safe_skip 1).bind fun _ => .pure _) ?_
  exact (safe_skip 1).bind fun _ => (safe_takeWhile _).bind fun _ => (safe_demand _).bind fun _ =>
    (safe_skip 1).bind fun _ => .pure _

theorem safe_anchorName : Safe text anchorName :=
  (safe_skip 1).bind fun _ => safe_name.bind fun _ => (safe_demand _).bind fun _ => .pure _

theorem safe_tag : Safe text tag := by
  have hend : ∀ written : WrittenTag, Safe text (do let t ← pure written; demand isGap; return t) :=
    fun _ => (Keeps.pure _).bind fun _ => (safe_demand _).bind fun _ => .pure _
  have hsuffix : ∀ handle : String,
      Safe text (do let suffix ← uri; let t ← pure (WrittenTag.mk (some handle) suffix); demand isGap; return t) :=
    fun _ => safe_uri.bind fun _ => hend _
  refine Keeps.get.bind fun c => .ite ?_ (.ite ?_ (.ite ?_ ?_))
  · exact (safe_skip 2).bind fun _ => safe_uri.bind fun _ => (safe_demand _).bind fun _ =>
      (safe_skip 1).bind fun _ => hend _
  · exact (safe_skip 1).bind fun _ => hend _
  · exact safe_tagHandle.bind hsuffix
  · exact (safe_skip 1).bind fun _ => (Keeps.pure _).bind hsuffix

theorem safe_increment? : Safe text increment? :=
  safe_peek.bind fun _ => .ite (.pure _) (.ite safe_malformed ((safe_skip 1).bind fun _ => .pure _))

theorem safe_blockHeader : Safe text blockHeader := by
  have hend : ∀ found : Chomping × Option Nat, Safe text (do let r ← pure found; demand isGap; return r) :=
    fun _ => (Keeps.pure _).bind fun _ => (safe_demand _).bind fun _ => .pure _
  refine safe_peek.bind fun c => ?_
  dsimp only
  split
  · exact (safe_skip 1).bind fun _ => safe_increment?.bind fun _ => hend _
  · refine safe_increment?.bind fun n => ?_
    split
    · exact hend _
    · refine safe_peek.bind fun d => ?_
      split
      · exact (safe_skip 1).bind fun _ => hend _
      · exact hend _

theorem safe_skipToColumn (column : Nat) : Safe text (skipToColumn column) := Keeps.get.bind fun _ => safe_skip _

theorem safe_blockIndentation (steps widest : Nat) : Safe text (blockIndentation steps widest) := by
  induction steps generalizing widest with
  | zero => exact .pure _
  | succ steps ih =>
      refine safe_peek.bind fun _ => .ite ?_ (.ite ?_ (.pure _))
      · exact (safe_skip 1).bind fun _ => Keeps.get.bind fun _ => ih _
      · exact safe_lineBreak.bind fun _ => (ih widest).bind fun _ => .pure _

theorem safe_blockBreaks (indent steps : Nat) : Safe text (blockBreaks indent steps) := by
  induction steps with
  | zero => exact .pure _
  | succ steps ih =>
      refine (safe_skipToColumn indent).bind fun _ => safe_peek.bind fun _ => .ite ?_ (.pure _)
      exact safe_lineBreak.bind fun _ => ih.bind fun _ => .pure _

theorem safe_blockLines (folded : Bool) (indent steps : Nat) (breaks : List (List Char)) :
    Safe text (blockLines folded indent steps breaks) := by
  induction steps generalizing breaks with
  | zero => exact .pure _
  | succ steps ih =>
      refine Keeps.get.bind fun _ => .ite (.pure _) ?_
      refine (safe_takeWhile _).bind fun _ => safe_lineBreak.bind fun _ => ?_
      refine (safe_blockBreaks indent steps).bind fun _ => ?_
      exact Keeps.get.bind fun _ => .ite ((ih _).bind fun _ => .pure _) (.pure _)

theorem safe_quotedBreaks (steps : Nat) : Safe text (quotedBreaks steps) := by
  induction steps with
  | zero => exact .pure _
  | succ steps ih =>
      have hline : Safe text (do
          discard (takeWhile isSpaceOrTab)
          if isBreak (← peek) then
            let br ← lineBreak
            return br :: (← quotedBreaks steps)
          else return []) :=
        (safe_takeWhile _).discard.bind fun _ => safe_peek.bind fun _ =>
          .ite (safe_lineBreak.bind fun _ => ih.bind fun _ => .pure _) (.pure _)
      exact Keeps.get.bind fun _ => .ite (safe_malformed.bind fun _ => hline) hline

theorem safe_quotedSpaces : Safe text quotedSpaces := by
  refine (safe_takeWhile _).bind fun _ => safe_peek.bind fun _ => .ite safe_malformed (.ite ?_ (.pure _))
  exact safe_lineBreak.bind fun _ => Keeps.get.bind fun _ => (safe_quotedBreaks _).bind fun _ => .pure _

theorem triple_peek {P : Cursor → Prop} : Triple (Explained text) P peek fun ch c => P c ∧ c.peek = ch :=
  Triple.get.bind fun _ => .pure fun _ hc => ⟨hc.1, by rw [hc.2]⟩

/-- A number that no character has can only be written with eight digits. -/
theorem eq_of_escapeWidth? {ch : Char} {width n : Nat} {digits : List Char} (hwidth : escapeWidth? ch = some width)
    (hlength : digits.length = width) (hn : Text.hexNumber? digits = some n) (hrange : 0x10ffff < n) :
    ch = 'U' ∧ width = 8 := by
  have hlt := Text.hexNumber?_lt hn
  rw [hlength] at hlt
  unfold escapeWidth? at hwidth
  split at hwidth
  · cases hwidth
    omega
  · cases hwidth
    omega
  · cases hwidth
    exact ⟨rfl, rfl⟩
  · cases hwidth

theorem safe_escapedChar {width n : Nat} (h : 0x10ffff < n → HasVoidEscape text) :
    Safe text (do
      if n ≥ Nat.pow 2 31 then throw .tooLarge
      if n > 0x10ffff then throw .badValue
      skip width
      return [Char.ofNat n]) := by
  have hlimit : Nat.pow 2 31 = 2147483648 := rfl
  dsimp only
  split
  · exact fun _ _ => .error (.inr (h (by omega)))
  · split
    · exact fun _ _ => .error (.inr (h (by assumption)))
    · exact (safe_skip width).bind fun _ => .pure _

/-- A character that is passed stands behind what was passed before it. -/
theorem triple_skip_char {ch : Char} (hch : ch ≠ nul) (before : List Char) :
    Triple (Explained text) (fun c => before ++ c.rest <:+ text ∧ c.peek = ch) (skip 1)
      fun _ c => before ++ ch :: c.rest <:+ text := by
  refine Triple.modifying fun c hc => ?_
  obtain ⟨rest, hrest⟩ := Cursor.exists_rest_of_peek hc.2 hch
  rw [Cursor.forward_one_rest hrest, ← hrest]
  exact hc.1

theorem hasVoidEscape_of_rest {ch : Char} {rest : List Char} {width n : Nat} (hrest : '\\' :: ch :: rest <:+ text)
    (hwidth : escapeWidth? ch = some width) (hlength : (rest.take width).length = width)
    (hn : Text.hexNumber? (rest.take width) = some n) (hrange : 0x10ffff < n) : HasVoidEscape text := by
  obtain ⟨rfl, rfl⟩ := eq_of_escapeWidth? hwidth hlength hn hrange
  have hdigits : '\\' :: 'U' :: rest.take 8 <+: '\\' :: 'U' :: rest := by
    simpa [List.cons_prefix_cons] using List.take_prefix 8 rest
  exact ⟨rest.take 8, n, hlength, hn, hrange, hdigits.isInfix.trans hrest.isInfix⟩

/-- Behind a backslash. -/
theorem triple_escape :
    Triple (Explained text) (fun c => '\\' :: c.rest <:+ text) escape fun _ => Within text := by
  have hwithin : ∀ (before : List Char) {c : Cursor}, before ++ c.rest <:+ text → Within text c :=
    fun _ _ h => (List.suffix_append _ _).trans h
  refine triple_peek.bind fun ch => ?_
  split
  · refine Triple.weaken ?_ fun c hc => hwithin ['\\'] hc.1
    exact (safe_skip 1).bind fun _ => .pure _
  · rename_i width _ hwidth
    have hch : ch ≠ nul := by
      rintro rfl
      cases hwidth
    -- the text passed is kept until the digits are known, for it is the escape that is out of range
    refine (triple_skip_char hch ['\\']).bind fun _ => Triple.get.bind fun here => ?_
    refine .given (φ := '\\' :: ch :: here.rest <:+ text) (fun _ hc => hc.2 ▸ hc.1) fun hrest => ?_
    refine Triple.weaken ?_ fun c hc => hwithin ['\\', ch] hc.1
    dsimp only
    split
    · rename_i hlength hn
      exact safe_escapedChar (hasVoidEscape_of_rest hrest hwidth (by simpa using hlength) hn)
    · exact safe_malformed
  · refine Triple.weaken ?_ fun c hc => hwithin ['\\'] hc.1
    refine Keeps.ite ?_ safe_malformed
    exact safe_lineBreak.discard.bind fun _ => Keeps.get.bind fun _ => (safe_quotedBreaks _).bind fun _ => .pure _

theorem safe_quotedWord (double : Bool) (steps : Nat) : Safe text (quotedWord double steps) := by
  induction steps with
  | zero => exact .pure _
  | succ steps ih =>
      refine (safe_takeWhile _).bind fun plain => Triple.get.bind fun c => ?_
      refine .ite (fun _ => ?_) fun _ => .ite (fun _ => ?_) fun _ => .ite (fun hback => ?_) fun _ => ?_
      · exact ((safe_skip 2).bind fun _ => ih.bind fun _ => .pure _).weaken fun _ hc => hc.1
      · exact ((safe_skip 1).bind fun _ => ih.bind fun _ => .pure _).weaken fun _ hc => hc.1
      · rw [Bool.and_eq_true, beq_iff_eq] at hback
        refine Triple.weaken ?_ fun d hd => (⟨hd.1, hd.2 ▸ hback.2⟩ : Within text d ∧ d.peek = '\\')
        exact (triple_skip_char (by decide) []).bind fun _ => triple_escape.bind fun _ => ih.bind fun _ => .pure _
      · exact Triple.pure fun _ hc => hc.1

theorem safe_quotedTail (quote : Char) (steps : Nat) : Safe text (quotedTail quote steps) := by
  induction steps with
  | zero => exact .pure _
  | succ steps ih =>
      refine safe_peek.bind fun _ => .ite (.pure _) ?_
      exact safe_quotedSpaces.bind fun _ => Keeps.get.bind fun _ => (safe_quotedWord _ _).bind fun _ => ih.bind fun _ =>
        .pure _

theorem safe_plainBreaks (steps : Nat) : Safe text (plainBreaks steps) := by
  induction steps with
  | zero => exact .pure _
  | succ steps ih =>
      refine safe_peek.bind fun _ => .ite ((safe_skip 1).bind fun _ => ih) (.ite ?_ (.pure _))
      exact safe_lineBreak.bind fun _ => Keeps.get.bind fun _ => .ite (.pure _) (ih.bind fun _ => .pure _)

theorem safe_plainSpaces : Safe text plainSpaces := by
  refine (safe_takeWhile _).bind fun _ => safe_peek.bind fun _ => .ite ?_ (.ite (.pure _) (.pure _))
  refine safe_lineBreak.bind fun _ => Keeps.get.bind fun _ => .ite (.pure _) ?_
  refine Keeps.get.bind fun _ => (safe_plainBreaks _).bind fun more => ?_
  split <;> exact .pure _

theorem safe_plainParts (inFlow : Bool) (indent : Int) (steps : Nat) (spaces : List Char) :
    Safe text (plainParts inFlow indent steps spaces) := by
  induction steps generalizing spaces with
  | zero => exact .pure _
  | succ steps ih =>
      refine Keeps.get.bind fun _ => .ite (.pure _) ?_
      refine (safe_skip _).bind fun _ => safe_plainSpaces.bind fun found => Keeps.get.bind fun _ => ?_
      obtain ⟨next, ended⟩ := found
      cases next with
      | none => exact .pure _
      | some next => exact .ite (.pure _) (.ite (.pure _) ((ih _).bind fun _ => .pure _))

/-- A step that reads a token. -/
abbrev SafeToken (text : List Char) (step : Scan Token) : Prop :=
  Triple (Explained text) (Within text) step fun t c => Within text c ∧ ∀ m, t ≠ .fault m

theorem SafeToken.pure {t : Token} (ht : ∀ m, t ≠ .fault m) : SafeToken text (Pure.pure t) :=
  Triple.pure fun _ hc => ⟨hc, ht⟩

theorem SafeToken.of_safe {step : Scan α} {make : α → Token} (hstep : Safe text step)
    (hmake : ∀ a m, make a ≠ .fault m) : SafeToken text (do return make (← step)) :=
  Triple.bind hstep fun a => SafeToken.pure (hmake a)

theorem safeToken_directive : SafeToken text directive := by
  have hend : ∀ t : Token, (∀ m, t ≠ .fault m) → SafeToken text (do let r ← pure t; restOfLine; return r) :=
    fun t ht => (SafeToken.pure ht).bind fun r => Triple.given (fun _ hc => hc.2) fun hr =>
      (Triple.bind safe_restOfLine fun _ => SafeToken.pure hr).weaken fun _ hc => hc.1
  refine Triple.bind (safe_skip 1) fun _ => Triple.bind safe_name fun what => Triple.bind (safe_demand _) fun _ => ?_
  dsimp only
  split
  · refine Triple.bind safe_skipSpaces fun _ => Triple.bind safe_decimal fun _ => ?_
    refine Triple.bind (safe_demand _) fun _ => Triple.bind (safe_skip 1) fun _ => ?_
    exact Triple.bind safe_decimal.discard fun _ => Triple.bind (safe_demand _) fun _ => hend _ nofun
  · refine Triple.bind safe_skipSpaces fun _ => Triple.bind safe_tagHandle fun _ => ?_
    refine Triple.bind (safe_demand _) fun _ => Triple.bind safe_skipSpaces fun _ => Triple.bind safe_uri fun _ => ?_
    exact Triple.bind (safe_demand _) fun _ => hend _ nofun
  · exact Triple.bind (safe_takeWhile _).discard fun _ => hend _ nofun

theorem safeToken_blockScalar (folded : Bool) (parentIndent : Int) :
    SafeToken text (blockScalar folded parentIndent) := by
  refine Triple.bind (safe_skip 1) fun _ => Triple.bind safe_blockHeader fun header => ?_
  refine Triple.bind safe_restOfLine fun _ => Triple.bind Keeps.get fun _ => ?_
  obtain ⟨chomping, increment⟩ := header
  dsimp only
  cases increment with
  | none =>
      refine Triple.bind (safe_blockIndentation _ _) fun _ => Triple.bind (Keeps.pure _) fun _ => ?_
      exact Triple.bind (safe_blockLines _ _ _ _) fun _ => SafeToken.pure nofun
  | some n =>
      refine Triple.bind (safe_blockBreaks _ _) fun _ => Triple.bind (Keeps.pure _) fun _ => ?_
      exact Triple.bind (safe_blockLines _ _ _ _) fun _ => SafeToken.pure nofun

theorem safeToken_quotedScalar : SafeToken text quotedScalar := by
  refine Triple.bind safe_peek fun _ => Triple.bind (safe_skip 1) fun _ => Triple.bind Keeps.get fun _ => ?_
  refine Triple.bind (safe_quotedWord _ _) fun _ => Triple.bind (safe_quotedTail _ _) fun _ => ?_
  exact Triple.bind (safe_skip 1) fun _ => SafeToken.pure nofun

theorem triple_plainScalar (inFlow : Bool) (parentIndent : Int) :
    Triple (Explained text) (Within text) (plainScalar inFlow parentIndent) fun found c =>
      Within text c ∧ ∀ m, found.1 ≠ .fault m :=
  Triple.bind Keeps.get fun _ => Triple.bind (safe_plainParts _ _ _ _) fun _ => Triple.pure fun _ hc => ⟨hc, nofun⟩

end

end Scan

/-! ### The lexer -/

namespace Lexer

/-- The lexer is at a place in the text and has met no fault. -/
structure Sound (text : List Char) (l : Lexer) : Prop where
  within : Scan.Within text l.cursor
  faultless : ∀ m, Token.fault m ∉ l.tokens

/-- A step of the lexer that begins in the text. -/
abbrev Good (text : List Char) (x : Except Mistake Lexer) : Prop := Gives (Explained text) (Sound text) x

section

variable {text : List Char} {l : Lexer}

theorem sound_start : (start text).Sound text := ⟨List.suffix_rfl, by simp [start]⟩

theorem Sound.of_eq {k : Lexer} (hl : l.Sound text) (hcursor : k.cursor = l.cursor) (htokens : k.tokens = l.tokens) :
    k.Sound text := ⟨hcursor ▸ hl.within, htokens ▸ hl.faultless⟩

theorem Sound.push (hl : l.Sound text) (t : Token) (ht : ∀ m, t ≠ .fault m) : (l.push t).Sound text := by
  refine ⟨hl.within, fun m hm => ?_⟩
  rcases List.mem_cons.mp hm with heq | hmem
  · exact ht m heq.symm
  · exact hl.faultless m hmem

theorem Sound.insertAt (hl : l.Sound text) (position : Nat) (t : Token) (ht : ∀ m, t ≠ .fault m) :
    (l.insertAt position t).Sound text := by
  refine ⟨hl.within, fun m hm => ?_⟩
  rcases List.mem_append.mp hm with hmem | hmem
  · exact hl.faultless m (List.mem_of_mem_take hmem)
  · rcases List.mem_cons.mp hmem with heq | hmem
    · exact ht m heq.symm
    · exact hl.faultless m (List.mem_of_mem_drop hmem)

theorem Sound.skip (hl : l.Sound text) (n : Nat) : (l.skip n).Sound text :=
  ⟨(l.cursor.forward_suffix n).trans hl.within, hl.faultless⟩

theorem Sound.scan {step : Scan α} {Q : α → Prop} (hl : l.Sound text)
    (hstep : Triple (Explained text) (Scan.Within text) step fun a c => Scan.Within text c ∧ Q a) :
    Gives (Explained text) (fun r => r.2.Sound text ∧ Q r.1) (l.scan step) :=
  (hstep l.cursor hl.within).bind fun _ hr => .ok ⟨⟨hr.1, hl.faultless⟩, hr.2⟩

theorem Sound.scanSafe {step : Scan α} (hl : l.Sound text) (hstep : Scan.Safe text step) :
    Gives (Explained text) (fun r => r.2.Sound text) (l.scan step) :=
  (hstep l.cursor hl.within).bind fun _ hr => .ok ⟨hr, hl.faultless⟩

theorem Sound.toNextToken (hl : l.Sound text) (steps : Nat) : Good text (l.toNextToken steps) := by
  open Scan in
  induction steps generalizing l with
  | zero => exact .ok hl
  | succ steps ih =>
      have hline : Safe text (do
          skipSpaces
          if (← peek) == '#' then discard (takeWhile fun c => !isBreakOrEnd c)
          lineBreak) :=
        safe_skipSpaces.bind fun _ => safe_peek.bind fun _ =>
          .ite ((safe_takeWhile _).discard.bind fun _ => safe_lineBreak) safe_lineBreak
      refine (hl.scanSafe ?_).bind fun r hr => ?_
      · exact Keeps.get.bind fun _ => safe_peek.bind fun _ => .ite ((safe_skip 1).bind fun _ => hline) hline
      · refine .ite (fun _ => .ok hr) fun _ => ih ?_
        split
        · exact hr.of_eq rfl rfl
        · exact hr

theorem Sound.dropStaleKeys (hl : l.Sound text) : Good text l.dropStaleKeys := by
  unfold Lexer.dropStaleKeys
  dsimp only
  split
  · exact .error (.inl rfl)
  · exact .ok (hl.of_eq rfl rfl)

theorem Sound.dropKey (hl : l.Sound text) : Good text l.dropKey := by
  unfold Lexer.dropKey
  split
  · exact .error (.inl rfl)
  · exact .ok (hl.of_eq rfl rfl)

theorem Sound.saveKey (hl : l.Sound text) : Good text l.saveKey := by
  unfold Lexer.saveKey
  split
  · exact .ok hl
  · exact hl.dropKey.bind fun k hk => .ok (hk.of_eq rfl rfl)

theorem Sound.unwindFrom (hl : l.Sound text) (column : Int) (indents : List Int) :
    (Lexer.unwindFrom column indents l).Sound text := by
  induction indents generalizing l with
  | nil => exact hl
  | cons outer indents ih =>
      unfold Lexer.unwindFrom
      split
      · have hpushed : (l.push .blockEnd).Sound text := hl.push .blockEnd nofun
        exact ih (hpushed.of_eq rfl rfl)
      · exact hl

theorem Sound.unwind (hl : l.Sound text) (column : Int) : (l.unwind column).Sound text := by
  unfold Lexer.unwind
  split
  · exact hl
  · exact hl.unwindFrom column l.indents

theorem Sound.deepen (hl : l.Sound text) (column : Int) : (l.deepen column).2.Sound text := by
  unfold Lexer.deepen
  split
  · exact hl.of_eq rfl rfl
  · exact hl

theorem Sound.atDocumentLevel (hl : l.Sound text) : Good text l.atDocumentLevel :=
  (hl.unwind (-1)).dropKey.bind fun _ hk => .ok (hk.of_eq rfl rfl)

theorem Sound.streamEnd (hl : l.Sound text) : Good text l.streamEnd :=
  hl.atDocumentLevel.bind fun _ hk => .ok ((hk.push .streamEnd nofun).of_eq rfl rfl)

theorem Sound.directive (hl : l.Sound text) : Good text l.directive :=
  hl.atDocumentLevel.bind fun _ hk => (hk.scan Scan.safeToken_directive).bind fun _ hr => .ok (hr.1.push _ hr.2)

theorem Sound.divider (hl : l.Sound text) (t : Token) (ht : ∀ m, t ≠ .fault m) : Good text (l.divider t) :=
  hl.atDocumentLevel.bind fun _ hk => .ok ((hk.skip 3).push t ht)

theorem Sound.flowStart (hl : l.Sound text) (t : Token) (ht : ∀ m, t ≠ .fault m) : Good text (l.flowStart t) :=
  hl.saveKey.bind fun _ hk => .ok (((hk.skip 1).push t ht).of_eq rfl rfl)

theorem Sound.flowEnd (hl : l.Sound text) (t : Token) (ht : ∀ m, t ≠ .fault m) : Good text (l.flowEnd t) :=
  hl.dropKey.bind fun _ hk => .ok (((hk.skip 1).push t ht).of_eq rfl rfl)

theorem Sound.flowEntry (hl : l.Sound text) : Good text l.flowEntry :=
  hl.dropKey.bind fun _ hk => .ok (((hk.skip 1).push .flowEntry nofun).of_eq rfl rfl)

theorem Sound.openBlock (hl : l.Sound text) (t : Token) (ht : ∀ m, t ≠ .fault m) : Good text (l.openBlock t) := by
  have hdeep : (l.deepen l.cursor.column).2.Sound text := hl.deepen l.cursor.column
  unfold Lexer.openBlock
  refine .ite (fun _ => .ok hl) fun _ => .ite (fun _ => .error (.inl rfl)) fun _ => .ok ?_
  split
  · exact hdeep.push t ht
  · exact hdeep

theorem Sound.blockEntry (hl : l.Sound text) : Good text l.blockEntry := by
  refine (hl.openBlock .blockSequenceStart nofun).bind fun k hk => ?_
  exact (Sound.dropKey (l := { k with keyAllowed := true }) (hk.of_eq rfl rfl)).bind fun _ hr =>
    .ok ((hr.skip 1).push .blockEntry nofun)

theorem Sound.key (hl : l.Sound text) : Good text l.key := by
  refine (hl.openBlock .blockMappingStart nofun).bind fun k hk => ?_
  exact (Sound.dropKey (l := { k with keyAllowed := k.flowLevel == 0 }) (hk.of_eq rfl rfl)).bind fun _ hr =>
    .ok ((hr.skip 1).push .key nofun)

theorem Sound.value (hl : l.Sound text) : Good text l.value := by
  unfold Lexer.value
  split
  · rename_i k _
    have hkey : ({ l with keys := l.keys.filter fun key => key.1 != l.flowLevel }.insertAt k.position .key).Sound text :=
      Sound.insertAt (l := { l with keys := l.keys.filter fun key => key.1 != l.flowLevel }) (hl.of_eq rfl rfl)
        k.position .key nofun
    have hdeep := hkey.deepen k.column
    dsimp only
    split
    · refine .ok ((Sound.push (l := Lexer.skip _ 1) (Sound.skip ?_ 1) .value nofun).of_eq rfl rfl)
      split
      · exact hdeep.insertAt k.position .blockMappingStart nofun
      · exact hdeep
    · exact .ok (((hkey.skip 1).push .value nofun).of_eq rfl rfl)
  · refine (hl.openBlock .blockMappingStart nofun).bind fun k hk => ?_
    exact (Sound.dropKey (l := { k with keyAllowed := k.flowLevel == 0 }) (hk.of_eq rfl rfl)).bind fun _ hr =>
      .ok ((hr.skip 1).push .value nofun)

theorem Sound.keyPart {step : Scan Token} (hl : l.Sound text) (hstep : Scan.SafeToken text step) :
    Good text (l.keyPart step) :=
  hl.saveKey.bind fun k hk => (Sound.scan (l := { k with keyAllowed := false }) (hk.of_eq rfl rfl) hstep).bind
    fun _ hr => .ok (hr.1.push _ hr.2)

theorem Sound.blockScalar (hl : l.Sound text) (folded : Bool) : Good text (l.blockScalar folded) :=
  (Sound.dropKey (l := { l with keyAllowed := true }) (hl.of_eq rfl rfl)).bind fun _ hk =>
    (hk.scan (Scan.safeToken_blockScalar _ _)).bind fun _ hr => .ok (hr.1.push _ hr.2)

theorem Sound.plainScalar (hl : l.Sound text) : Good text l.plainScalar :=
  hl.saveKey.bind fun _ hk => (hk.scan (Scan.triple_plainScalar _ _)).bind fun _ hr =>
    .ok ((hr.1.push _ hr.2).of_eq rfl rfl)

/-- Whatever the next token is, it is read in the text and is no fault. -/
theorem Sound.next (hl : l.Sound text) : Good text l.next := by
  refine (hl.toNextToken _).bind fun here hhere => hhere.dropStaleKeys.bind fun k hk => ?_
  have hsound : (k.unwind k.cursor.column).Sound text := hk.unwind k.cursor.column
  generalize k.unwind k.cursor.column = j at hsound ⊢
  refine .ite (fun _ => hsound.streamEnd) fun _ => ?_
  refine .ite (fun _ => hsound.directive) fun _ => ?_
  refine .ite (fun _ => hsound.divider .documentStart nofun) fun _ => ?_
  refine .ite (fun _ => hsound.divider .documentEnd nofun) fun _ => ?_
  refine .ite (fun _ => hsound.flowStart .flowSequenceStart nofun) fun _ => ?_
  refine .ite (fun _ => hsound.flowStart .flowMappingStart nofun) fun _ => ?_
  refine .ite (fun _ => hsound.flowEnd .flowSequenceEnd nofun) fun _ => ?_
  refine .ite (fun _ => hsound.flowEnd .flowMappingEnd nofun) fun _ => ?_
  refine .ite (fun _ => hsound.flowEntry) fun _ => ?_
  refine .ite (fun _ => hsound.blockEntry) fun _ => ?_
  refine .ite (fun _ => hsound.key) fun _ => ?_
  refine .ite (fun _ => hsound.value) fun _ => ?_
  refine .ite (fun _ => hsound.keyPart (.of_safe Scan.safe_anchorName fun _ => nofun)) fun _ => ?_
  refine .ite (fun _ => hsound.keyPart (.of_safe Scan.safe_anchorName fun _ => nofun)) fun _ => ?_
  refine .ite (fun _ => hsound.keyPart (.of_safe Scan.safe_tag fun _ => nofun)) fun _ => ?_
  refine .ite (fun _ => hsound.blockScalar false) fun _ => ?_
  refine .ite (fun _ => hsound.blockScalar true) fun _ => ?_
  refine .ite (fun _ => hsound.keyPart Scan.safeToken_quotedScalar) fun _ => ?_
  exact .ite (fun _ => hsound.plainScalar) fun _ => .error (.inl rfl)

theorem explained_of_mem_run (steps : Nat) (hl : l.Sound text) {m : Mistake} (hm : .fault m ∈ run steps l) :
    Explained text m := by
  induction steps generalizing l with
  | zero => exact absurd (List.mem_reverse.mp hm) (hl.faultless m)
  | succ steps ih =>
      unfold run at hm
      split at hm
      · exact absurd (List.mem_reverse.mp hm) (hl.faultless m)
      · have hnext := hl.next
        cases hresult : l.next with
        | ok k =>
            rw [hresult] at hm hnext
            cases hnext with
            | ok hk => exact ih hk hm
        | error fault =>
            rw [hresult] at hm hnext
            -- the one fault of a run is that of the step that ends it
            rcases List.mem_cons.mp (List.mem_reverse.mp hm) with heq | hmem
            · cases heq
              cases hnext with
              | error hfault => exact hfault
            · exact absurd hmem (hl.faultless m)

end

end Lexer

/-- A fault among the tokens of a text is explained by the text. -/
theorem Token.explained_of_mem_scan {s : String} {m : Mistake} (hm : .fault m ∈ Token.scan s) :
    Explained s.toList m := by
  unfold Token.scan at hm
  dsimp only at hm
  split at hm
  · exact Lexer.explained_of_mem_run _ Lexer.sound_start hm
  · cases List.mem_singleton.mp hm
    exact .inl rfl

end Yaml

end WorkflowForge
