import RecordLens.Code.Lexer
/-!
What a step of the scanner can do. The functions that make a step are taken apart here, once. Whatever
holds of every step is shown by these cases: an indentation that was measured, the edge of a block, or
what stands at the cursor inside a line.

* `Scanner.Indents`, `Scanner.indent_cases`: what comes of the indentation of a line.
* `Scanner.ReadsOn`, `Scanner.read_cases`: what comes of the text inside a line.
* `Scanner.Moves`, `Scanner.step_cases`: any step.
* `Scanner.Emits`, `tokenize_emits`: the tokens that steps put out, for a whole text.
-/
namespace RecordLens.Code

namespace Scanner

variable {s : Scanner} {c : Char} {rest : List Char}

/-! ## Indentations -/

/-- What comes of an indentation: the scanner goes on where the measuring has stopped. -/
inductive Indents (s : Scanner) : Step → Prop
  | stop (reason : Stop) : Indents s (.stop reason)
  | skip {margin : Margin} {next : Scanner}
      (hmargin : measure s.cursor.line s.cursor.column 0 0 0 s.cursor.rest = .ok margin)
      (hnext : next.cursor = margin.cursor) : Indents s (.skip next)

theorem indent_cases (s : Scanner) : s.Indents s.indent := by
  unfold indent
  split
  · exact .stop _
  · exact .stop _
  next margin hmargin =>
    -- the blocks that are opened or left do not move the cursor
    have hskip (next : Scanner) (hnext : next.cursor = margin.cursor) : s.Indents (.skip next) :=
      .skip hmargin hnext
    dsimp only
    generalize (if margin.joined = 0 then margin.column else margin.joined) = col
    generalize (if margin.joined = 0 then margin.tight else margin.joined) = tight
    repeat' split
    all_goals first | exact hskip _ rfl | exact .stop _

/-! ## Inside a line -/

/-- The scanner at the start of the next line, with `rest` still to read. -/
def nextLine (s : Scanner) (rest : List Char) : Scanner :=
  { s with cursor := ⟨rest, s.cursor.line + 1, 0⟩, fresh := true, blank := false }

/-- What comes of the text at the cursor, inside a line. -/
inductive ReadsOn (s : Scanner) : Step → Prop
  | stop (reason : Stop) : ReadsOn s (.stop reason)
  /-- The text ends. -/
  | finish (hrest : s.cursor.rest = []) : ReadsOn s (.emit (s.mark .endMarker "" s.cursor) s)
  | blank {c : Char} {rest : List Char} (hrest : s.cursor.rest = c :: rest)
      (hc : c = ' ' ∨ c = '\t' ∨ c = '\x0c') :
      ReadsOn s (.skip { s with cursor := s.cursor.past [c] rest })
  | comment : ReadsOn s (.skip { s with
      cursor := s.cursor.past (s.cursor.rest.takeWhile (· ≠ '\n')) (s.cursor.rest.dropWhile (· ≠ '\n')) })
  /-- A line ends that is empty or inside brackets. -/
  | feed {rest : List Char} (hrest : s.cursor.rest = '\n' :: rest) : ReadsOn s (.skip (s.nextLine rest))
  | newline {rest : List Char} (hrest : s.cursor.rest = '\n' :: rest) :
      ReadsOn s (.emit (s.mark .newline "" s.cursor) (s.nextLine rest))
  /-- A backslash joins two lines. -/
  | joined {rest : List Char} (hrest : s.cursor.rest = '\\' :: '\n' :: rest) :
      ReadsOn s (.skip { s with cursor := ⟨rest, s.cursor.line + 1, 0⟩ })
  | quoted {c : Char} {rest : List Char} {letters : Nat} {stop : Cursor}
      (hrest : s.cursor.rest = c :: rest)
      (hletters : quotePrefix false false false false s.cursor.rest = some letters)
      (hstop : quotedEnd (s.cursor.past (s.cursor.rest.take letters) (s.cursor.rest.drop letters)) =
        some stop) :
      ReadsOn s (.emit (s.mark .string
        (String.ofList (s.cursor.rest.take (s.cursor.rest.length - stop.rest.length))) stop)
        { s with cursor := stop })
  | number {c : Char} {rest left : List Char} (hrest : s.cursor.rest = c :: rest)
      (hc : c.isDigit = true ∨ c = '.') (hend : numberEnd c rest = some left ∨ fractionEnd rest = some left) :
      ReadsOn s (s.take .number (s.cursor.rest.take (s.cursor.rest.length - left.length)) left)
  | word {c : Char} {rest : List Char} {kind : TokenKind} (hrest : s.cursor.rest = c :: rest)
      (hc : Text.isAsciiLetter c = true ∨ Text.startsIdentifier c = true)
      (hkind : kind = .mark ∨ kind = .name) :
      ReadsOn s (s.take kind (c :: rest.takeWhile isWordChar) (rest.dropWhile isWordChar))
  /-- An operator, or a bracket, which may be opened or closed. -/
  | mark {c : Char} {rest : List Char} (hrest : s.cursor.rest = c :: rest) (hlow : 32 < c.toNat)
      (hhigh : c.toNat < 128) (brackets : List (Char × Nat)) :
      ReadsOn s (({ s with brackets } : Scanner).take .mark
        (s.cursor.rest.take (markLength s.cursor.rest)) (s.cursor.rest.drop (markLength s.cursor.rest)))

theorem finish_cases (hrest : s.cursor.rest = []) : s.ReadsOn s.finish := by
  unfold finish
  split
  · exact .finish hrest
  · exact .stop _

theorem word_cases (hrest : s.cursor.rest = c :: rest)
    (hc : Text.isAsciiLetter c = true ∨ 128 ≤ c.toNat) : s.ReadsOn (s.word c rest) := by
  unfold word
  dsimp only
  split
  next hword =>
    refine .word hrest ?_ (by split <;> simp)
    rcases hc with hletter | hwide
    · exact .inl hletter
    · rcases Bool.or_eq_true_iff.1 hword with hall | hidentifier
      · have hnarrow := List.all_eq_true.1 hall c List.mem_cons_self
        rw [decide_eq_true_eq] at hnarrow
        omega
      · exact .inr (Bool.and_eq_true_iff.1 hidentifier).1
  · exact .stop _

theorem quoted_cases {letters : Nat} (hrest : s.cursor.rest = c :: rest)
    (h : quotePrefix false false false false s.cursor.rest = some letters) :
    s.ReadsOn (s.quoted letters) := by
  unfold quoted
  dsimp only
  split
  · exact .stop _
  next hstop => exact .quoted hrest h hstop

theorem punctuation_cases (hrest : s.cursor.rest = c :: rest) (hspace : c ≠ ' ')
    (hhigh : c.toNat < 128) : s.ReadsOn (s.punctuation c) := by
  have hne : c.toNat ≠ 32 := fun h => hspace (Char.ext (UInt32.toNat_inj.1 h))
  unfold punctuation
  dsimp only
  split
  next hopening =>
    have hlow : 32 < c.toNat := by
      simp only [Bool.or_eq_true, decide_eq_true_eq] at hopening
      rcases hopening with (rfl | rfl) | rfl <;> decide
    split
    · exact .stop _
    · exact .mark hrest hlow hhigh _
  next =>
    split
    next hclosing =>
      have hlow : 32 < c.toNat := by
        simp only [Bool.or_eq_true, decide_eq_true_eq] at hclosing
        rcases hclosing with (rfl | rfl) | rfl <;> decide
      split
      · exact .stop _
      · split
        · exact .mark hrest hlow hhigh _
        · exact .stop _
    next =>
      split
      · exact .stop _
      next hcontrol =>
        simp only [Bool.or_eq_true, decide_eq_true_eq] at hcontrol
        exact .mark hrest (by omega) hhigh s.brackets

/-- **What stands at the cursor inside a line** is passed over, or a token, or stops the scanner. -/
theorem read_cases (s : Scanner) : s.ReadsOn s.read := by
  unfold read
  split
  next hrest => exact finish_cases hrest
  next c rest hrest =>
    split
    next hblank => exact .blank hrest (by simpa [or_assoc] using hblank)
    next hblank =>
    split
    next => exact .comment
    next =>
    split
    next hfeed =>
      subst hfeed
      dsimp only
      split
      · exact .feed hrest
      · exact .newline hrest
    next =>
    split
    next hslash =>
      subst hslash
      split
      · exact .stop _
      · exact .joined hrest
      · exact .stop _
    next =>
    split
    next hletters => exact quoted_cases hrest hletters
    next =>
    split
    next hdigit =>
      split
      next hend => exact .number hrest (.inl hdigit) (.inl hend)
      next => exact .stop _
    next =>
    split
    next hword => exact word_cases hrest (by simpa using hword)
    next hword =>
    simp only [Bool.or_eq_true, decide_eq_true_eq, not_or] at hword hblank
    have hmark := punctuation_cases hrest hblank.1.1 (Nat.not_le.1 hword.2)
    split
    next =>
      split
      next =>
        split
        next hend => exact .number hrest (.inr rfl) (.inr hend)
        next => exact .stop _
      next => exact hmark
    next => exact hmark

/-! ## Any step -/

/-- What comes of a step. -/
inductive Moves (s : Scanner) : Step → Prop
  | indent (hfresh : s.fresh = true) {step : Step} (h : s.Indents step) : Moves s step
  /-- A block begins or ends. -/
  | edge {kind : TokenKind} {next : Scanner} (hkind : kind = .indent ∨ kind = .dedent)
      (hdue : s.opening = true ∨ 0 < s.closing) (hnext : next.cursor = s.cursor) :
      Moves s (.emit (s.mark kind "" s.cursor) next)
  | read (hfresh : s.fresh = false) (hopening : s.opening = false) (hclosing : s.closing = 0)
      {step : Step} (h : s.ReadsOn step) : Moves s step

/-- **A step** measures an indentation, puts an edge of a block, or reads on inside a line. -/
theorem step_cases (s : Scanner) : s.Moves s.step := by
  unfold step
  split
  next hfresh => exact .indent hfresh s.indent_cases
  next hfresh =>
  split
  next hopening => exact .edge (.inl rfl) (.inl hopening) rfl
  next hopening =>
  split
  next hclosing => exact .edge (.inr rfl) (.inr (hclosing ▸ Nat.succ_pos _)) rfl
  next hclosing =>
    exact .read (Bool.not_eq_true _ ▸ hfresh) (Bool.not_eq_true _ ▸ hopening) hclosing s.read_cases

/-! ## Runs -/

/-- The tokens that a scanner puts out, step by step, before it stops or runs no further. -/
inductive Emits : Scanner → List Token → Prop
  | stop (s : Scanner) : Emits s []
  | skip {s next : Scanner} {ts : List Token} (hstep : s.step = .skip next) (hts : Emits next ts) :
      Emits s ts
  | emit {s next : Scanner} {token : Token} {ts : List Token} (hstep : s.step = .emit token next)
      (hts : Emits next ts) : Emits s (token :: ts)

/-- **A run puts out tokens step by step**, behind those it has already. -/
theorem run_emits : ∀ (fuel : Nat) (s : Scanner) (before : List Token),
    ∃ ts, (s.run fuel before).tokens.toList = before.reverse ++ ts ∧ s.Emits ts
  | 0, s, before => ⟨[], by rw [run, List.append_nil], .stop s⟩
  | fuel + 1, s, before => by
    rw [run]
    cases hstep : s.step with
    | stop reason => exact ⟨[], by rw [List.append_nil], .stop s⟩
    | skip next =>
      obtain ⟨ts, hts, hemits⟩ := run_emits fuel next before
      exact ⟨ts, hts, .skip hstep hemits⟩
    | emit token next =>
      dsimp only
      split
      · -- nothing is read behind the end of the text
        exact ⟨[token], by rw [List.reverse_cons], .emit hstep (.stop next)⟩
      · obtain ⟨ts, hts, hemits⟩ := run_emits fuel next (token :: before)
        refine ⟨token :: ts, ?_, .emit hstep hemits⟩
        rw [hts, List.reverse_cons, List.append_assoc, List.singleton_append]

end Scanner

/-- The tokens of a text are put out by a scanner at its start. -/
theorem tokenize_emits (line : Nat) (text : List Char) : ∃ s : Scanner,
    s.cursor = ⟨text, line, 0⟩ ∧ s.Emits (tokenize line text).tokens.toList := by
  obtain ⟨ts, hts, hemits⟩ := Scanner.run_emits (4 * text.length + 8)
    { cursor := ⟨text, line, 0⟩, fresh := true, blank := false, indents := [(0, 0)],
      opening := false, closing := 0, brackets := [] } []
  rw [List.reverse_nil, List.nil_append] at hts
  rw [tokenize, hts]
  exact ⟨_, rfl, hemits⟩

end RecordLens.Code
