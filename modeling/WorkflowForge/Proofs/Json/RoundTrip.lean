import WorkflowForge.Json.Printer
import WorkflowForge.Json.Reader
import WorkflowForge.Proofs.Binding.Idempotence
import WorkflowForge.Proofs.Files.Writing
import WorkflowForge.Proofs.Text.LineEnds

/-!
Written documents read back unchanged. The reader is followed over the text of a value with anything behind it that does
not go on with a number: each character of a string comes back from its escape, each number from its digits, and each
collection part by part, since what the layout puts between the parts is white space. Two steps for a character of the
text are enough. No carriage return is ever written as it is, so the line ends of a file are read as they were written.
-/

namespace WorkflowForge

/-- A layout whose separators are the marks with spaces behind them, and that leaves characters as they are wherever
it can. -/
structure Layout.IsOpen (l : Layout) : Prop where
  comma : ∃ n, l.comma = ',' :: List.replicate n ' '
  colon : ∃ n, l.colon = ':' :: List.replicate n ' '
  ascii : l.ascii = false
  embeddable : l.embeddable = false

theorem Layout.isOpen_ofIndent (indent : Option Nat) : (Layout.ofIndent indent).IsOpen := by
  cases indent with
  | none => exact ⟨⟨1, rfl⟩, ⟨1, rfl⟩, rfl, rfl⟩
  | some n => exact ⟨⟨0, rfl⟩, ⟨1, rfl⟩, rfl, rfl⟩

theorem Layout.eq_of_mem_lineBreak {l : Layout} {depth : Nat} {c : Char} (hc : c ∈ l.lineBreak depth) :
    c = '\n' ∨ c = ' ' := by
  unfold Layout.lineBreak at hc
  split at hc
  · cases hc
  · rcases List.mem_cons.mp hc with hfeed | hspace
    · exact .inl hfeed
    · exact .inr (List.eq_of_mem_replicate hspace)

namespace Json

mutual

/-- Whether all numbers in a value are integers. -/
def isFloatless : Json → Bool
  | .float _ => false
  | .array items => areFloatless items
  | .object fields => areFloatlessIn fields
  | _ => true

def areFloatless : List Json → Bool
  | [] => true
  | v :: rest => isFloatless v && areFloatless rest

def areFloatlessIn : Fields → Bool
  | [] => true
  | (_, v) :: rest => isFloatless v && areFloatlessIn rest

end

/-! ### Strings -/

theorem hexNumber?_control : ∀ n < 32, Text.hexNumber? (Text.hexDigits 4 n) = some n ∧ charOfUnit n = Char.ofNat n ∧
    isHighSurrogate n = false := by decide

section

variable {l : Layout} (hl : l.IsOpen)

include hl

/-- A character is written by a short escape, by its number if it is a control character, or as it is. -/
theorem charText_cases (c : Char) :
    (∃ mark, charText l c = ['\\', mark] ∧ shortEscape? mark = some c ∧ mark ≠ 'u') ∨
      (charText l c = unicodeEscape c.toNat ∧ c.toNat < 32) ∨
      (charText l c = [c] ∧ c ≠ '"' ∧ c ≠ '\\' ∧ 32 ≤ c.toNat) := by
  simp only [charText, hl.ascii, hl.embeddable, Bool.false_and, beq_iff_eq]
  by_cases hquote : c = '"'
  · exact .inl ⟨'"', by simp [hquote], by simp [hquote, shortEscape?], by decide⟩
  by_cases hback : c = '\\'
  · exact .inl ⟨'\\', by simp [hback], by simp [hback, shortEscape?], by decide⟩
  by_cases hfeed : c = '\n'
  · exact .inl ⟨'n', by simp [hfeed], by simp [hfeed, shortEscape?], by decide⟩
  by_cases hreturn : c = '\r'
  · exact .inl ⟨'r', by simp [hreturn], by simp [hreturn, shortEscape?], by decide⟩
  by_cases htab : c = '\t'
  · exact .inl ⟨'t', by simp [htab], by simp [htab, shortEscape?], by decide⟩
  rw [if_neg hquote, if_neg hback, if_neg hfeed, if_neg hreturn, if_neg htab]
  by_cases height : c.toNat = 8
  · have hc : c = Char.ofNat 8 := by rw [← height, Char.ofNat_toNat]
    exact .inl ⟨'b', by rw [if_pos height], by simp [hc, shortEscape?], by decide⟩
  by_cases htwelve : c.toNat = 12
  · have hc : c = Char.ofNat 12 := by rw [← htwelve, Char.ofNat_toNat]
    exact .inl ⟨'f', by rw [if_neg height, if_pos htwelve], by simp [hc, shortEscape?], by decide⟩
  rw [if_neg height, if_neg htwelve]
  by_cases hcontrol : c.toNat < 32
  · exact .inr (.inl ⟨if_pos hcontrol, hcontrol⟩)
  · exact .inr (.inr ⟨by simp [hcontrol], hquote, hback, by omega⟩)

omit hl in
theorem readString_unicodeEscape (start : Nat) {n : Nat} (hn : n < 32) {more : List Char} (hmore : more ≠ []) :
    readString start (unicodeEscape n ++ more) = consRead (Char.ofNat n) (readString start more) := by
  obtain ⟨hnumber, hunit, hhigh⟩ := hexNumber?_control n hn
  simp only [Text.hexDigits, List.nil_append, List.cons_append] at hnumber
  simp only [unicodeEscape, Text.hexDigits, List.nil_append, List.cons_append]
  rw [readString.eq_def]
  simp only [hnumber, List.isEmpty_iff, hmore, if_false, hhigh, Bool.false_and, Bool.false_eq_true, hunit]
  split <;> rfl

theorem readString_charText (start : Nat) (c : Char) {more : List Char} (hmore : more ≠ []) :
    readString start (charText l c ++ more) = consRead c (readString start more) := by
  rcases charText_cases hl c with ⟨mark, htext, hmark, hu⟩ | ⟨htext, hcontrol⟩ | ⟨htext, hquote, hback, hplain⟩
  · rw [htext, List.cons_append, List.singleton_append, readString, hmark]
    · exact fun _ _ _ _ _ heq => absurd heq hu
    · exact hu
  · rw [htext, readString_unicodeEscape start hcontrol hmore, Char.ofNat_toNat]
  · rw [htext, List.singleton_append, readString, if_neg (by omega)]
    all_goals simp [hquote, hback]

theorem readString_flatMap (start : Nat) (cs rest : List Char) :
    readString start (cs.flatMap (charText l) ++ '"' :: rest) = .ok (cs, rest) := by
  induction cs with
  | nil => rw [List.flatMap_nil, List.nil_append, readString]
  | cons c cs ih =>
      rw [List.flatMap_cons, List.append_assoc, readString_charText hl start c (by simp), ih, consRead]

end

/-! ### Integers -/

/-- What follows a number does not go on with it. -/
def EndsNumber (rest : List Char) : Prop :=
  ∀ c, rest.head? = some c → isDigit c = false ∧ c ≠ '.' ∧ c ≠ 'e' ∧ c ≠ 'E'

theorem isDigit_of_mem_digitChars {n : Nat} {c : Char} (hc : c ∈ Double.digitChars n) : isDigit c = true :=
  Nat.isDigit_of_mem_toDigits (by decide) (by decide) hc

/-- A number is written without zeros in front. -/
theorem exists_cons_digitChars (n : Nat) :
    ∃ c cs, Double.digitChars n = c :: cs ∧ (c = '0' → n = 0 ∧ cs = []) := by
  induction n using Nat.strongRecOn with
  | ind n ih =>
      unfold Double.digitChars at ih ⊢
      by_cases hsmall : n < 10
      · rw [Nat.toDigits_of_lt_base hsmall]
        have hzero : ∀ m < 10, m.digitChar = '0' → m = 0 := by decide
        exact ⟨n.digitChar, [], rfl, fun hc => ⟨hzero n hsmall hc, rfl⟩⟩
      · obtain ⟨c, cs, htop, hzero⟩ := ih (n / 10) (by omega)
        rw [Nat.toDigits_of_base_le (by decide) (by omega), htop]
        refine ⟨c, cs ++ [(n % 10).digitChar], rfl, ?_⟩
        intro hc
        have := (hzero hc).1
        omega

theorem digitsValue_digitChars (n : Nat) : digitsValue (Double.digitChars n) = n := by
  have hvalue : Nat.ofDigitChars 10 (Double.digitChars n) 0 = n := Nat.ofDigitChars_ten_toDigits
  have hzero : '0'.toNat = 48 := rfl
  simpa only [Nat.ofDigitChars, digitsValue, Nat.mul_comm 10, hzero] using hvalue

theorem takeWhile_isDigit {digits rest : List Char} (hdigits : ∀ c ∈ digits, isDigit c = true)
    (hrest : EndsNumber rest) :
    (digits ++ rest).takeWhile isDigit = digits ∧ (digits ++ rest).dropWhile isDigit = rest := by
  have hstop : rest.takeWhile isDigit = [] ∧ rest.dropWhile isDigit = rest := by
    cases rest with
    | nil => exact ⟨rfl, rfl⟩
    | cons c more => simp [(hrest c rfl).1]
  rw [List.takeWhile_append_of_pos hdigits, List.dropWhile_append_of_pos hdigits, hstop.1, hstop.2, List.append_nil]
  exact ⟨rfl, rfl⟩

theorem wholeDigits?_digitChars (n : Nat) {rest : List Char} (hrest : EndsNumber rest) :
    wholeDigits? (Double.digitChars n ++ rest) = some (Double.digitChars n, rest) := by
  obtain ⟨c, cs, hchars, hzero⟩ := exists_cons_digitChars n
  have hdigit : ∀ d ∈ c :: cs, isDigit d = true := fun d hd => isDigit_of_mem_digitChars (hchars ▸ hd)
  rw [hchars, List.cons_append]
  by_cases hc : c = '0'
  · rw [hc, (hzero hc).2, List.nil_append, wholeDigits?]
  · obtain ⟨htake, hdrop⟩ := takeWhile_isDigit (fun d hd => hdigit d (List.mem_cons_of_mem c hd)) hrest
    rw [wholeDigits?, if_pos (hdigit c List.mem_cons_self), htake, hdrop]
    exact fun heq => hc heq

theorem readMagnitude?_digitChars (negative : Bool) (n : Nat) {rest : List Char} (hrest : EndsNumber rest) :
    readMagnitude? negative (Double.digitChars n ++ rest) = some (.int (if negative then -n else n), rest) := by
  have hfraction : fractionDigits rest = ([], rest) := by
    cases rest with
    | nil => rfl
    | cons c more =>
        rw [fractionDigits]
        exact fun _ heq => absurd (List.cons.inj heq).1 (hrest c rfl).2.1
  have hexponent : exponentDigits rest = (none, rest) := by
    cases rest with
    | nil => rfl
    | cons c more =>
        obtain ⟨_, _, hsmall, hlarge⟩ := hrest c rfl
        simp [exponentDigits, hsmall, hlarge]
  rw [readMagnitude?, wholeDigits?_digitChars n hrest, Option.map_some]
  simp [hfraction, hexponent, digitsValue_digitChars]

theorem readNumber?_intText (n : Int) {rest : List Char} (hrest : EndsNumber rest) :
    readNumber? (intText n ++ rest) = some (.int n, rest) := by
  obtain ⟨c, cs, hchars, _⟩ := exists_cons_digitChars n.natAbs
  have hc : isDigit c = true := isDigit_of_mem_digitChars (n := n.natAbs) (by simp [hchars])
  by_cases hn : n < 0
  · have habs : -(n.natAbs : Int) = n := by omega
    rw [intText, if_pos hn, List.cons_append, readNumber?, readMagnitude?_digitChars true _ hrest, if_pos rfl, habs]
  · have habs : (n.natAbs : Int) = n := by omega
    rw [intText, if_neg hn, hchars, List.cons_append, readNumber?, ← List.cons_append, ← hchars,
      readMagnitude?_digitChars false _ hrest]
    · rw [if_neg (by decide), habs]
    · intro more heq
      rw [(List.cons.inj heq).1] at hc
      exact absurd hc (by decide)

/-- No word is read where a number begins. -/
theorem findSome?_words_intText (n : Int) (rest : List Char) :
    (words.findSome? fun (word, v) => (after? word (intText n ++ rest)).map (v, ·)) = none := by
  obtain ⟨c, cs, hchars, _⟩ := exists_cons_digitChars n.natAbs
  have hc : isDigit c = true := isDigit_of_mem_digitChars (n := n.natAbs) (by simp [hchars])
  have hne : ∀ d, isDigit d = false → ¬ d = c := fun d hd heq => by simp [heq, hc] at hd
  by_cases hn : n < 0
  · rw [intText, if_pos hn, hchars]
    simp [words, after?, hne 'I' (by decide)]
  · rw [intText, if_neg hn, hchars]
    simp [words, after?, hne 'n' (by decide), hne 't' (by decide), hne 'f' (by decide),
      hne 'N' (by decide), hne 'I' (by decide), hne '-' (by decide)]

theorem readScalar_intText (n : Int) {rest : List Char} (hrest : EndsNumber rest) :
    readScalar (intText n ++ rest) = .ok (.int n, rest) := by
  rw [readScalar, findSome?_words_intText, readNumber?_intText n hrest]

theorem readScalar_null (rest : List Char) : readScalar ("null".toList ++ rest) = .ok (.null, rest) := rfl

theorem readScalar_true (rest : List Char) : readScalar ("true".toList ++ rest) = .ok (.bool true, rest) := rfl

theorem readScalar_false (rest : List Char) : readScalar ("false".toList ++ rest) = .ok (.bool false, rest) := rfl

/-! ### Values -/

/-- A character that can begin the text of a value. -/
def Opens (c : Char) : Prop := isSpace c = false ∧ c ≠ ']' ∧ c ≠ '\x7d' ∧ c ≠ Char.ofNat 0xfeff

instance (c : Char) : Decidable (Opens c) := inferInstanceAs (Decidable (_ ∧ _))

theorem opens_of_isDigit {c : Char} (hc : isDigit c = true) : Opens c := by
  have hne : ∀ d, isDigit d = false → c ≠ d := fun d hd heq => by simp [← heq, hc] at hd
  have hspace : isSpace c = false := by
    simp [isSpace, hne ' ' (by decide), hne '\t' (by decide), hne '\n' (by decide), hne '\r' (by decide)]
  exact ⟨hspace, hne _ (by decide), hne _ (by decide), hne _ (by decide)⟩

theorem exists_cons_intText (n : Int) : ∃ c cs, intText n = c :: cs ∧ (c = '-' ∨ isDigit c = true) := by
  by_cases hn : n < 0
  · exact ⟨'-', _, if_pos hn, .inl rfl⟩
  · obtain ⟨c, cs, hchars, _⟩ := exists_cons_digitChars n.natAbs
    refine ⟨c, cs, by rw [intText, if_neg hn, hchars], .inr ?_⟩
    exact isDigit_of_mem_digitChars (n := n.natAbs) (by simp [hchars])

section

variable (l : Layout) (depth : Nat)

theorem chars_int (n : Int) : (int n).chars l depth = intText n := rfl

theorem chars_string (s : String) : (string s).chars l depth = stringText l s := rfl

theorem chars_array_cons (v : Json) (items : List Json) :
    (array (v :: items)).chars l depth =
      '[' :: l.lineBreak (depth + 1) ++ v.chars l (depth + 1) ++ itemChars l depth items := rfl

theorem chars_object_cons (name : String) (v : Json) (fields : Fields) :
    (object ((name, v) :: fields)).chars l depth =
      '\x7b' :: l.lineBreak (depth + 1) ++ stringText l name ++ l.colon ++ v.chars l (depth + 1) ++
        fieldChars l depth fields := rfl

theorem itemChars_nil : itemChars l depth [] = l.lineBreak depth ++ [']'] := rfl

theorem itemChars_cons (v : Json) (items : List Json) :
    itemChars l depth (v :: items) =
      l.comma ++ l.lineBreak (depth + 1) ++ v.chars l (depth + 1) ++ itemChars l depth items := rfl

theorem fieldChars_nil : fieldChars l depth [] = l.lineBreak depth ++ ['\x7d'] := rfl

theorem fieldChars_cons (name : String) (v : Json) (fields : Fields) :
    fieldChars l depth ((name, v) :: fields) =
      l.comma ++ l.lineBreak (depth + 1) ++ stringText l name ++ l.colon ++ v.chars l (depth + 1) ++
        fieldChars l depth fields := rfl

end

theorem exists_cons_chars (l : Layout) (depth : Nat) {v : Json} (hv : v.isFloatless = true) :
    ∃ c cs, v.chars l depth = c :: cs ∧ Opens c := by
  cases v with
  | null => exact ⟨_, _, rfl, by decide⟩
  | bool b => cases b <;> exact ⟨_, _, rfl, by decide⟩
  | int n =>
      obtain ⟨c, cs, hchars, rfl | hc⟩ := exists_cons_intText n
      · exact ⟨_, cs, by rw [chars_int, hchars], by decide⟩
      · exact ⟨c, cs, by rw [chars_int, hchars], opens_of_isDigit hc⟩
  | float x => cases hv
  | string s => exact ⟨_, _, rfl, by decide⟩
  | array items => cases items <;> exact ⟨_, _, rfl, by decide⟩
  | object fields =>
      cases fields with
      | nil => exact ⟨_, _, rfl, by decide⟩
      | cons field rest => exact ⟨_, _, rfl, by decide⟩

theorem skipSpace_replicate (n : Nat) (cs : List Char) : skipSpace (List.replicate n ' ' ++ cs) = skipSpace cs :=
  List.dropWhile_append_of_pos fun c hc => by
    rw [List.eq_of_mem_replicate hc]
    decide

theorem skipSpace_of_opens {c : Char} (hc : isSpace c = false) (cs : List Char) : skipSpace (c :: cs) = c :: cs := by
  rw [skipSpace, List.dropWhile_cons_of_neg (by simp [hc])]

theorem skipSpace_lineBreak (l : Layout) (depth : Nat) {c : Char} (hc : isSpace c = false) (cs : List Char) :
    skipSpace (l.lineBreak depth ++ c :: cs) = c :: cs := by
  have hbreak : ∀ d ∈ l.lineBreak depth, isSpace d = true := fun d hd => by
    rcases Layout.eq_of_mem_lineBreak hd with rfl | rfl <;> decide
  rw [skipSpace, List.dropWhile_append_of_pos hbreak]
  exact skipSpace_of_opens hc cs

theorem readValue_scalar (fuel : Nat) {c : Char} {cs : List Char} (hc : c ≠ '"' ∧ c ≠ '[' ∧ c ≠ '\x7b') :
    readValue (fuel + 1) (c :: cs) = readScalar (c :: cs) := by
  rw [readValue]
  all_goals simp [hc]

theorem readValue_array (fuel : Nat) {cs more : List Char} {c : Char} (hskip : skipSpace cs = c :: more)
    (hc : c ≠ ']') :
    readValue (fuel + 1) ('[' :: cs) =
      (readItems fuel (c :: more)).map fun (items, rest) => (.array items, rest) := by
  rw [readValue, hskip]
  split
  · rename_i heq
    exact absurd (List.cons.inj heq).1 hc
  · rfl

theorem readValue_object (fuel : Nat) {cs more : List Char} {c : Char} (hskip : skipSpace cs = c :: more)
    (hc : c ≠ '\x7d') :
    readValue (fuel + 1) ('\x7b' :: cs) =
      (readFields fuel (c :: more)).map fun (fields, rest) => (.object (Fields.merged fields), rest) := by
  rw [readValue, hskip]
  split
  · rename_i heq
    exact absurd (List.cons.inj heq).1 hc
  · rfl

theorem readItems_last {fuel : Nat} {cs tail rest : List Char} {v : Json} (hv : readValue fuel cs = .ok (v, tail))
    (htail : skipSpace tail = ']' :: rest) : readItems (fuel + 1) cs = .ok ([v], rest) := by
  rw [readItems, hv]
  dsimp only [bind, Except.bind]
  rw [htail]
  rfl

theorem readItems_more {fuel : Nat} {cs tail more rest : List Char} {v : Json} {items : List Json}
    (hv : readValue fuel cs = .ok (v, tail)) (htail : skipSpace tail = ',' :: more)
    (hitems : readItems fuel (skipSpace more) = .ok (items, rest)) :
    readItems (fuel + 1) cs = .ok (v :: items, rest) := by
  rw [readItems, hv]
  dsimp only [bind, Except.bind]
  rw [htail]
  simp only
  rw [hitems]
  rfl

section

variable {fuel : Nat} {cs named valued tail more rest name : List Char} {v : Json}
  (hname : readString ('"' :: cs).length cs = .ok (name, named)) (hcolon : skipSpace named = ':' :: valued)
  (hv : readValue fuel (skipSpace valued) = .ok (v, tail))

include hname hcolon hv

theorem readFields_last (htail : skipSpace tail = '\x7d' :: rest) :
    readFields (fuel + 1) ('"' :: cs) = .ok ([(String.ofList name, v)], rest) := by
  rw [readFields, hname]
  dsimp only [bind, Except.bind]
  rw [hcolon]
  simp only
  rw [hv]
  dsimp only
  rw [htail]
  rfl

theorem readFields_more {fields : Fields} (htail : skipSpace tail = ',' :: more)
    (hfields : readFields fuel (skipSpace more) = .ok (fields, rest)) :
    readFields (fuel + 1) ('"' :: cs) = .ok ((String.ofList name, v) :: fields, rest) := by
  rw [readFields, hname]
  dsimp only [bind, Except.bind]
  rw [hcolon]
  simp only
  rw [hv]
  dsimp only
  rw [htail]
  simp only
  rw [hfields]
  rfl

end

end Json

namespace Fields

theorem merged_of_nodup {fields : Fields} (hnodup : (names fields).Nodup) : merged fields = fields := by
  have hfold : ∀ (rest acc : Fields), (names (acc ++ rest)).Nodup →
      rest.foldl (fun acc field => set acc field.1 field.2) acc = acc ++ rest := by
    intro rest
    induction rest with
    | nil => simp
    | cons field rest ih =>
        intro acc hacc
        have hnew : has acc field.1 = false := by
          rw [Bool.eq_false_iff, Ne, has_iff]
          intro hmem
          rw [names, List.map_append, List.map_cons] at hacc
          exact (List.nodup_append.mp hacc).2.2 _ hmem _ List.mem_cons_self rfl
        have hset : set acc field.1 field.2 = acc ++ [field] := by
          unfold set
          rw [hnew, if_neg (by decide)]
        change rest.foldl _ (set acc field.1 field.2) = acc ++ field :: rest
        rw [hset, ih _ (by simpa using hacc), List.append_assoc, List.singleton_append]
  exact hfold fields [] hnodup

end Fields

namespace Json

theorem endsNumber_cons {c : Char} (hc : c ∈ ['\n', ' ', ',', ']', '\x7d']) (cs : List Char) :
    EndsNumber (c :: cs) := by
  intro d hd
  obtain rfl : c = d := by simpa using hd
  simp only [List.mem_cons, List.not_mem_nil, or_false] at hc
  rcases hc with rfl | rfl | rfl | rfl | rfl <;> decide

theorem endsNumber_lineBreak (l : Layout) (depth : Nat) {c : Char} (hc : c = ']' ∨ c = '\x7d') (cs : List Char) :
    EndsNumber (l.lineBreak depth ++ c :: cs) := by
  cases hbreak : l.lineBreak depth with
  | nil =>
      apply endsNumber_cons
      rcases hc with rfl | rfl <;> decide
  | cons d more =>
      apply endsNumber_cons
      rcases Layout.eq_of_mem_lineBreak (hbreak ▸ List.mem_cons_self) with rfl | rfl <;> decide

/-- Induction over a value whose collections have what all their parts have. -/
theorem partInduction {P : Json → Prop} (null : P .null) (bool : ∀ b, P (.bool b)) (int : ∀ n, P (.int n))
    (float : ∀ x, P (.float x)) (string : ∀ s, P (.string s)) (array : ∀ items, (∀ v ∈ items, P v) → P (.array items))
    (object : ∀ fields : Fields, (∀ name v, (name, v) ∈ fields → P v) → P (.object fields)) : ∀ v, P v
  | .null => null
  | .bool b => bool b
  | .int n => int n
  | .float x => float x
  | .string s => string s
  | .array items => array items fun v hmem => by
      have hsize : sizeOf v < sizeOf items := List.sizeOf_lt_of_mem hmem
      exact partInduction null bool int float string array object v
  | .object fields => object fields fun name v hmem => by
      have hfield : sizeOf (name, v) < sizeOf fields := List.sizeOf_lt_of_mem hmem
      have hsize : sizeOf v < 1 + sizeOf fields := by
        simp only [Prod.mk.sizeOf_spec] at hfield
        omega
      exact partInduction null bool int float string array object v
termination_by v => sizeOf v

/-- A value is read back from its text wherever that stands, given a step for each half of a character. -/
def ReadsBack (l : Layout) (v : Json) : Prop :=
  ∀ depth fuel rest, EndsNumber rest → 2 * (v.chars l depth).length ≤ fuel →
    readValue fuel (v.chars l depth ++ rest) = .ok (v, rest)

section

variable {l : Layout} (hl : l.IsOpen)

include hl

theorem readItems_chars {items : List Json} (hitems : ∀ v ∈ items, v.isFloatless = true ∧ ReadsBack l v) {v : Json}
    (hv : ReadsBack l v) (depth fuel : Nat) (rest : List Char)
    (hfuel : 2 * ((v.chars l (depth + 1)).length + (itemChars l depth items).length) ≤ fuel) :
    readItems fuel (v.chars l (depth + 1) ++ (itemChars l depth items ++ rest)) = .ok (v :: items, rest) := by
  induction items generalizing v fuel with
  | nil =>
      rw [itemChars_nil, List.length_append, List.length_singleton] at hfuel
      obtain ⟨fuel, rfl⟩ : ∃ n, fuel = n + 1 := ⟨fuel - 1, by omega⟩
      rw [itemChars_nil, List.append_assoc, List.singleton_append]
      refine readItems_last (hv _ _ _ (endsNumber_lineBreak l depth (by simp) rest) (by omega)) ?_
      exact skipSpace_lineBreak l depth (by decide) rest
  | cons w items ih =>
      obtain ⟨⟨hfloatless, hw⟩, hitems⟩ := List.forall_mem_cons.mp hitems
      obtain ⟨n, hcomma⟩ := hl.comma
      obtain ⟨c, cs, hchars, hopens⟩ := exists_cons_chars l (depth + 1) hfloatless
      rw [itemChars_cons, hcomma] at hfuel ⊢
      simp only [List.length_append, List.length_cons] at hfuel
      obtain ⟨fuel, rfl⟩ : ∃ n, fuel = n + 1 := ⟨fuel - 1, by omega⟩
      simp only [List.cons_append, List.append_assoc]
      refine readItems_more (hv _ _ _ (endsNumber_cons (by simp) _) (by omega)) (skipSpace_of_opens (by decide) _) ?_
      have hskip : skipSpace (List.replicate n ' ' ++ (l.lineBreak (depth + 1) ++ (w.chars l (depth + 1) ++
          (itemChars l depth items ++ rest)))) = w.chars l (depth + 1) ++ (itemChars l depth items ++ rest) := by
        rw [skipSpace_replicate, hchars, List.cons_append, skipSpace_lineBreak l _ hopens.1]
      rw [hskip]
      exact ih hitems hw fuel (by omega)

/-- The name, the colon and the value of a field are read one after the other. -/
theorem field_reads (name : String) {v : Json} (hfloatless : v.isFloatless = true) (hv : ReadsBack l v)
    (depth fuel : Nat) {tail : List Char} (htail : EndsNumber tail) (hfuel : 2 * (v.chars l depth).length ≤ fuel) :
    ∃ cs named valued, stringText l name ++ (l.colon ++ (v.chars l depth ++ tail)) = '"' :: cs ∧
      readString ('"' :: cs).length cs = .ok (name.toList, named) ∧ skipSpace named = ':' :: valued ∧
      readValue fuel (skipSpace valued) = .ok (v, tail) := by
  obtain ⟨n, hcolon⟩ := hl.colon
  obtain ⟨c, cs, hchars, hopens⟩ := exists_cons_chars l depth hfloatless
  refine ⟨name.toList.flatMap (charText l) ++ '"' :: (l.colon ++ (v.chars l depth ++ tail)), _,
    List.replicate n ' ' ++ (v.chars l depth ++ tail), ?_, readString_flatMap hl _ _ _, ?_, ?_⟩
  · simp [stringText]
  · rw [hcolon, List.cons_append, skipSpace_of_opens (by decide)]
  · have hskip : skipSpace (List.replicate n ' ' ++ (v.chars l depth ++ tail)) = v.chars l depth ++ tail := by
      rw [skipSpace_replicate, hchars, List.cons_append, skipSpace_of_opens hopens.1]
    rw [hskip]
    exact hv _ _ _ htail hfuel

theorem readFields_chars {fields : Fields}
    (hfields : ∀ name v, (name, v) ∈ fields → v.isFloatless = true ∧ ReadsBack l v) (name : String) {v : Json}
    (hfloatless : v.isFloatless = true) (hv : ReadsBack l v) (depth fuel : Nat) (rest : List Char)
    (hfuel : 2 * ((v.chars l (depth + 1)).length + (fieldChars l depth fields).length) ≤ fuel) :
    readFields fuel (stringText l name ++ (l.colon ++ (v.chars l (depth + 1) ++ (fieldChars l depth fields ++ rest)))) =
      .ok ((name, v) :: fields, rest) := by
  induction fields generalizing name v fuel with
  | nil =>
      rw [fieldChars_nil, List.length_append, List.length_singleton] at hfuel
      obtain ⟨fuel, rfl⟩ : ∃ n, fuel = n + 1 := ⟨fuel - 1, by omega⟩
      rw [fieldChars_nil, List.append_assoc, List.singleton_append]
      obtain ⟨cs, named, valued, htext, hname, hcolon, hvalue⟩ := field_reads hl name hfloatless hv (depth + 1)
        fuel (endsNumber_lineBreak l depth (c := '\x7d') (by simp) rest) (by omega)
      rw [htext, readFields_last hname hcolon hvalue (skipSpace_lineBreak l depth (by decide) rest),
        String.ofList_toList]
  | cons field fields ih =>
      obtain ⟨next, w⟩ := field
      obtain ⟨hnext, hw⟩ := hfields next w List.mem_cons_self
      obtain ⟨n, hcomma⟩ := hl.comma
      rw [fieldChars_cons, hcomma] at hfuel ⊢
      simp only [List.length_append, List.length_cons] at hfuel
      obtain ⟨fuel, rfl⟩ : ∃ n, fuel = n + 1 := ⟨fuel - 1, by omega⟩
      simp only [List.cons_append, List.append_assoc]
      obtain ⟨cs, named, valued, htext, hname, hcolon, hvalue⟩ := field_reads hl name hfloatless hv (depth + 1)
        fuel (endsNumber_cons (c := ',') (by simp) (List.replicate n ' ' ++ (l.lineBreak (depth + 1) ++
          (stringText l next ++ (l.colon ++ (w.chars l (depth + 1) ++ (fieldChars l depth fields ++ rest)))))))
        (by omega)
      have hskip : skipSpace (List.replicate n ' ' ++ (l.lineBreak (depth + 1) ++ (stringText l next ++
          (l.colon ++ (w.chars l (depth + 1) ++ (fieldChars l depth fields ++ rest)))))) = stringText l next ++
          (l.colon ++ (w.chars l (depth + 1) ++ (fieldChars l depth fields ++ rest))) := by
        rw [skipSpace_replicate, stringText, List.cons_append, List.cons_append,
          skipSpace_lineBreak l _ (by decide)]
      have hmore := ih (fun name v hmem => hfields name v (List.mem_cons_of_mem _ hmem)) next hnext hw fuel (by omega)
      rw [htext, readFields_more hname hcolon hvalue (skipSpace_of_opens (by decide) _) (by rw [hskip]; exact hmore),
        String.ofList_toList]

end

theorem areFloatless_iff (items : List Json) : areFloatless items = true ↔ ∀ v ∈ items, v.isFloatless = true := by
  induction items with
  | nil => simp [areFloatless]
  | cons v rest ih => rw [areFloatless, Bool.and_eq_true, ih, List.forall_mem_cons]

theorem areFloatlessIn_iff (fields : Fields) :
    areFloatlessIn fields = true ↔ ∀ field ∈ fields, field.2.isFloatless = true := by
  induction fields with
  | nil => simp [areFloatlessIn]
  | cons field rest ih => rw [areFloatlessIn, Bool.and_eq_true, ih, List.forall_mem_cons]

theorem areDistinct_iff (items : List Json) : areDistinct items = true ↔ ∀ v ∈ items, v.isDistinct = true := by
  induction items with
  | nil => simp [areDistinct]
  | cons v rest ih => rw [areDistinct, Bool.and_eq_true, ih, List.forall_mem_cons]

/-- There is a step for a value whose text fits into the steps. -/
theorem readsBack_of_step {l : Layout} {v : Json} (hv : v.isFloatless = true)
    (h : ∀ depth fuel rest, EndsNumber rest → 2 * (v.chars l depth).length ≤ fuel + 1 →
      readValue (fuel + 1) (v.chars l depth ++ rest) = .ok (v, rest)) : ReadsBack l v := by
  intro depth fuel rest hrest hfuel
  obtain ⟨c, cs, hchars, _⟩ := exists_cons_chars l depth hv
  cases fuel with
  | zero =>
      rw [hchars, List.length_cons] at hfuel
      omega
  | succ fuel => exact h depth fuel rest hrest hfuel

section

variable {l : Layout} (hl : l.IsOpen)

include hl

omit hl in
theorem readsBack_int (n : Int) : ReadsBack l (.int n) := by
  refine readsBack_of_step rfl fun depth fuel rest hrest _ => ?_
  obtain ⟨c, cs, hchars, hc⟩ := exists_cons_intText n
  have hmark : c ≠ '"' ∧ c ≠ '[' ∧ c ≠ '\x7b' := by
    refine ⟨?_, ?_, ?_⟩ <;> rintro rfl <;> exact absurd hc (by decide)
  rw [chars_int, ← readScalar_intText n hrest, hchars, List.cons_append]
  exact readValue_scalar fuel hmark

theorem readsBack_string (s : String) : ReadsBack l (.string s) := by
  refine readsBack_of_step rfl fun depth fuel rest _ _ => ?_
  rw [chars_string, stringText, List.append_assoc, List.cons_append, List.singleton_append, readValue,
    readString_flatMap hl, Except.map]
  dsimp only
  rw [String.ofList_toList]

theorem readsBack_array {items : List Json} (hitems : ∀ v ∈ items, v.isFloatless = true ∧ ReadsBack l v) :
    ReadsBack l (.array items) := by
  refine readsBack_of_step ((areFloatless_iff items).mpr fun v hv => (hitems v hv).1) fun depth fuel rest _ hfuel => ?_
  cases items with
  | nil => rfl
  | cons v items =>
      obtain ⟨⟨hfloatless, hv⟩, hrest⟩ := List.forall_mem_cons.mp hitems
      obtain ⟨c, cs, hchars, hopens⟩ := exists_cons_chars l (depth + 1) hfloatless
      have hread := readItems_chars hl hrest hv depth fuel rest (by
        simp only [chars_array_cons, List.length_append, List.length_cons] at hfuel
        omega)
      simp only [chars_array_cons, List.cons_append, List.append_assoc]
      rw [hchars, List.cons_append] at hread ⊢
      rw [readValue_array fuel (skipSpace_lineBreak l _ hopens.1 _) hopens.2.1, hread, Except.map]

theorem readsBack_object {fields : Fields} (hnames : (Fields.names fields).Nodup)
    (hfields : ∀ name v, (name, v) ∈ fields → v.isFloatless = true ∧ ReadsBack l v) : ReadsBack l (.object fields) := by
  refine readsBack_of_step ((areFloatlessIn_iff fields).mpr fun field hfield => (hfields _ _ hfield).1)
    fun depth fuel rest _ hfuel => ?_
  cases fields with
  | nil => rfl
  | cons field fields =>
      obtain ⟨name, v⟩ := field
      obtain ⟨hfloatless, hv⟩ := hfields name v List.mem_cons_self
      have hread := readFields_chars hl (fun _ _ hmem => hfields _ _ (List.mem_cons_of_mem _ hmem)) name hfloatless hv
        depth fuel rest (by
          simp only [chars_object_cons, List.length_append, List.length_cons] at hfuel
          omega)
      simp only [chars_object_cons, List.cons_append, List.append_assoc]
      rw [stringText, List.cons_append, List.cons_append] at hread ⊢
      rw [readValue_object fuel (skipSpace_lineBreak l _ (by decide) _) (by decide), hread, Except.map]
      dsimp only
      rw [Fields.merged_of_nodup hnames]

theorem readsBack_of_distinct (v : Json) : v.isFloatless = true → v.isDistinct = true → ReadsBack l v := by
  induction v using partInduction with
  | null =>
      intro _ _
      refine readsBack_of_step rfl fun _ fuel rest _ _ => ?_
      exact (readValue_scalar fuel (by decide)).trans (readScalar_null rest)
  | bool b =>
      intro _ _
      refine readsBack_of_step rfl fun _ fuel rest _ _ => ?_
      cases b with
      | true => exact (readValue_scalar fuel (by decide)).trans (readScalar_true rest)
      | false => exact (readValue_scalar fuel (by decide)).trans (readScalar_false rest)
  | int n =>
      intro _ _
      exact readsBack_int n
  | float x =>
      intro hfloatless _
      cases hfloatless
  | string s =>
      intro _ _
      exact readsBack_string hl s
  | array items ih =>
      intro hfloatless hdistinct
      rw [isFloatless, areFloatless_iff] at hfloatless
      rw [isDistinct, areDistinct_iff] at hdistinct
      exact readsBack_array hl fun v hv => ⟨hfloatless v hv, ih v hv (hfloatless v hv) (hdistinct v hv)⟩
  | object fields ih =>
      intro hfloatless hdistinct
      rw [isFloatless, areFloatlessIn_iff] at hfloatless
      rw [isDistinct_object_iff] at hdistinct
      exact readsBack_object hl hdistinct.1 fun name v hv =>
        ⟨hfloatless _ hv, ih name v hv (hfloatless _ hv) (hdistinct.2 _ hv)⟩

end

/-- The text of a value is read as the value, whatever the layout. -/
theorem read_text {l : Layout} (hl : l.IsOpen) {v : Json} (hfloatless : v.isFloatless = true)
    (hdistinct : v.isDistinct = true) : read (v.text l) = .ok v := by
  obtain ⟨c, cs, hchars, hspace, _, _, hmark⟩ := exists_cons_chars l 0 hfloatless
  have hvalue := readsBack_of_distinct hl v hfloatless hdistinct 0 (2 * (v.chars l 0).length + 2) []
    (fun _ h => by cases h) (by omega)
  have hwhole : readChars (v.chars l 0) = .ok v := by
    rw [List.append_nil, hchars] at hvalue
    rw [hchars, readChars, List.head?_cons, if_neg (by simpa using hmark), skipSpace_of_opens hspace, hvalue]
    rfl
  rw [read, text, String.toList_ofList, hwhole]

/-! ### Line ends -/

theorem return_not_mem_charText {l : Layout} (hl : l.IsOpen) (c : Char) : '\r' ∉ charText l c := by
  rcases charText_cases hl c with ⟨mark, htext, hmark, _⟩ | ⟨htext, hcontrol⟩ | ⟨htext, _, _, hplain⟩
  · rw [htext]
    have : mark ≠ '\r' := by
      rintro rfl
      cases hmark
    simp [this.symm]
  · have hcodes : ∀ n < 32, '\r' ∉ unicodeEscape n := by decide
    rw [htext]
    exact hcodes _ hcontrol
  · rw [htext, List.mem_singleton]
    rintro rfl
    exact absurd hplain (by decide)

theorem return_not_mem_stringText {l : Layout} (hl : l.IsOpen) (s : String) : '\r' ∉ stringText l s := by
  have hbody : '\r' ∉ s.toList.flatMap (charText l) := by
    rw [List.mem_flatMap]
    rintro ⟨c, _, hc⟩
    exact return_not_mem_charText hl c hc
  simp [stringText, hbody]

theorem return_not_mem_intText (n : Int) : '\r' ∉ intText n := by
  have hdigits : '\r' ∉ Double.digitChars n.natAbs := fun h => absurd (isDigit_of_mem_digitChars h) (by decide)
  rw [intText]
  split <;> simp [hdigits]

theorem return_not_mem_lineBreak (l : Layout) (depth : Nat) : '\r' ∉ l.lineBreak depth := fun h => by
  rcases Layout.eq_of_mem_lineBreak h with h | h <;> exact absurd h (by decide)

section

variable {l : Layout} (hl : l.IsOpen)

include hl

theorem return_not_mem_separators : '\r' ∉ l.comma ∧ '\r' ∉ l.colon := by
  obtain ⟨m, hcomma⟩ := hl.comma
  obtain ⟨n, hcolon⟩ := hl.colon
  simp [hcomma, hcolon]

theorem return_not_mem_itemChars {items : List Json} (hitems : ∀ v ∈ items, ∀ depth, '\r' ∉ v.chars l depth)
    (depth : Nat) : '\r' ∉ itemChars l depth items := by
  induction items with
  | nil => simp [itemChars_nil, return_not_mem_lineBreak]
  | cons v items ih =>
      rw [List.forall_mem_cons] at hitems
      simp [itemChars_cons, return_not_mem_separators hl, return_not_mem_lineBreak, hitems.1, ih hitems.2]

theorem return_not_mem_fieldChars {fields : Fields}
    (hfields : ∀ name v, (name, v) ∈ fields → ∀ depth, '\r' ∉ v.chars l depth) (depth : Nat) :
    '\r' ∉ fieldChars l depth fields := by
  induction fields with
  | nil => simp [fieldChars_nil, return_not_mem_lineBreak]
  | cons field fields ih =>
      obtain ⟨name, v⟩ := field
      simp [fieldChars_cons, return_not_mem_separators hl, return_not_mem_lineBreak, return_not_mem_stringText hl,
        hfields name v List.mem_cons_self, ih fun _ _ hmem => hfields _ _ (List.mem_cons_of_mem _ hmem)]

theorem return_not_mem_chars (v : Json) : v.isFloatless = true → ∀ depth, '\r' ∉ v.chars l depth := by
  induction v using partInduction with
  | null =>
      intro _ depth
      change '\r' ∉ "null".toList
      decide
  | bool b =>
      intro _ depth
      cases b with
      | true =>
          change '\r' ∉ "true".toList
          decide
      | false =>
          change '\r' ∉ "false".toList
          decide
  | int n =>
      intro _ depth
      rw [chars_int]
      exact return_not_mem_intText n
  | float x =>
      intro hfloatless
      cases hfloatless
  | string s =>
      intro _ depth
      rw [chars_string]
      exact return_not_mem_stringText hl s
  | array items ih =>
      intro hfloatless depth
      rw [isFloatless, areFloatless_iff] at hfloatless
      cases items with
      | nil =>
          change '\r' ∉ ['[', ']']
          decide
      | cons v items =>
          have hitems : ∀ w ∈ v :: items, ∀ depth, '\r' ∉ w.chars l depth := fun w hw => ih w hw (hfloatless w hw)
          rw [List.forall_mem_cons] at hitems
          simp [chars_array_cons, return_not_mem_lineBreak, hitems.1, return_not_mem_itemChars hl hitems.2]
  | object fields ih =>
      intro hfloatless depth
      rw [isFloatless, areFloatlessIn_iff] at hfloatless
      cases fields with
      | nil =>
          change '\r' ∉ ['\x7b', '\x7d']
          decide
      | cons field fields =>
          obtain ⟨name, v⟩ := field
          have hfields : ∀ other w, (other, w) ∈ (name, v) :: fields → ∀ depth, '\r' ∉ w.chars l depth :=
            fun other w hmem => ih other w hmem (hfloatless _ hmem)
          simp [chars_object_cons, return_not_mem_lineBreak, return_not_mem_stringText hl, return_not_mem_separators hl,
            hfields name v List.mem_cons_self,
            return_not_mem_fieldChars hl fun _ _ hmem => hfields _ _ (List.mem_cons_of_mem _ hmem)]

end

end Json

theorem Disk.readText_writeText {d e : Disk} {p : Path} {s : String} (hwrite : d.writeText p s = (.ok (), e)) :
    e.readText p = .ok (Text.withUnixLines s) := by
  rw [Disk.readText, (Disk.writeText_writes hwrite).readContent]
  rfl

/-- A document with all kinds of values and of characters. -/
def oddDocument : Json :=
  .object
    [("a\"\\/\x00\x1f\x7f\u2028é😀", .array [.null, .bool true, .int (-120), .int 0, .object [], .array []]),
      ("", .string "\r\n\t\x08\x0c"), ("b", .object [("b", .array [.int (10 ^ 40)])])]

end WorkflowForge
