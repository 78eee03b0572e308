import RecordLens.Proofs.LineOrder
/-!
What stands before a token on its line. The scanner passes over blanks, comments, line ends and
backslashes, and a comment goes to the end of its line; no token begins with a blank. So before the first
token behind the end of a line, or behind an edge of a block, there are only blanks on its line, and they
are all the blanks at the start of that line.

* `OpensLine`: characters behind which a line has held only blanks.
* `Step.Opens`, `Scanner.step_opens`: what one step passes over.
* `OpenFrom`, `tokenize_open`: the tokens of a whole text, with what is read before each of them.
* `FirstOnLine`, `firstOnLine_of_edge`: the line of code that such a token is the first on.
-/
namespace RecordLens.Code

open Text (isBlank)

/-! ## Blanks -/

theorem isBlank_eq_false_of_lt {c : Char} (hlow : 32 < c.toNat) (hhigh : c.toNat < 128) :
    isBlank c = false := by
  unfold isBlank
  simp only [Bool.or_eq_false_iff, Bool.and_eq_false_iff, decide_eq_false_iff_not]
  omega

theorem isBlank_of_isAsciiLetter {c : Char} (h : Text.isAsciiLetter c = true) : isBlank c = false := by
  simp only [Text.isAsciiLetter, Bool.or_eq_true, Bool.and_eq_true, decide_eq_true_eq] at h
  rcases h with (⟨hlow, hhigh⟩ | ⟨hlow, hhigh⟩) | rfl
  · exact isBlank_eq_false_of_lt (Nat.lt_of_lt_of_le (by decide) hlow)
      (Nat.lt_of_le_of_lt hhigh (by decide))
  · exact isBlank_eq_false_of_lt (Nat.lt_of_lt_of_le (by decide) hlow)
      (Nat.lt_of_le_of_lt hhigh (by decide))
  · rfl

theorem isBlank_of_isDigit {c : Char} (h : c.isDigit = true) : isBlank c = false := by
  simp only [Char.isDigit, Bool.and_eq_true, decide_eq_true_eq] at h
  exact isBlank_eq_false_of_lt (Nat.lt_of_lt_of_le (by decide) h.1) (Nat.lt_of_le_of_lt h.2 (by decide))

/-- The blanks outside ASCII. -/
def wideBlanks : List Nat :=
  [0x85, 0xA0, 0x1680, 0x2000, 0x2001, 0x2002, 0x2003, 0x2004, 0x2005, 0x2006, 0x2007, 0x2008, 0x2009,
   0x200A, 0x2028, 0x2029, 0x202F, 0x205F, 0x3000]

theorem mem_wideBlanks {c : Char} (h : isBlank c = true) (hwide : ¬c.toNat < 128) :
    c.toNat ∈ wideBlanks := by
  simp only [isBlank, Bool.or_eq_true, Bool.and_eq_true, decide_eq_true_eq] at h
  simp only [wideBlanks, List.mem_cons, List.not_mem_nil, or_false]
  omega

theorem isBlank_of_startsIdentifier {c : Char} (h : Text.startsIdentifier c = true) :
    isBlank c = false := by
  unfold Text.startsIdentifier at h
  split at h
  · exact isBlank_of_isAsciiLetter h
  · rename_i hwide
    have hnone : ∀ n ∈ wideBlanks, Text.identifierStarts.contains n = false := by decide +kernel
    rw [← Bool.not_eq_true]
    intro hblank
    exact absurd ((hnone _ (mem_wideBlanks hblank hwide)).symm.trans h) Bool.false_ne_true

/-! ## Characters that open a line -/

/-- What these characters leave on the line that they end on is blank. -/
def OpensLine (cs : List Char) : Prop :=
  ∀ back, back <:+ cs → '\n' ∉ back → ∀ c ∈ back, isBlank c = true

namespace OpensLine

variable {as bs : List Char}

theorem nil : OpensLine [] := by
  intro back hback _ c hc
  obtain rfl := List.suffix_nil.1 hback
  exact absurd hc List.not_mem_nil

theorem blank {c : Char} (h : isBlank c = true) : OpensLine [c] :=
  fun _ hback _ _ hd => List.mem_singleton.1 (hback.subset hd) ▸ h

theorem append (ha : OpensLine as) (hb : OpensLine bs) : OpensLine (as ++ bs) := by
  intro back hback hfeed
  rcases List.suffix_or_suffix_of_suffix hback (List.suffix_append as bs) with hshort | hlong
  · exact hb back hshort hfeed
  · obtain ⟨front, rfl⟩ := hlong
    rw [List.mem_append, not_or] at hfeed
    have hfront := ha front ((List.suffix_append_inj_of_length_eq rfl).1 hback).1 hfeed.1
    have hrest := hb bs List.suffix_rfl hfeed.2
    exact List.forall_mem_append.2 ⟨hfront, hrest⟩

theorem append_of_feed (hb : OpensLine bs) (h : '\n' ∈ bs) (as : List Char) : OpensLine (as ++ bs) := by
  intro back hback hfeed
  rcases List.suffix_or_suffix_of_suffix hback (List.suffix_append as bs) with hshort | hlong
  · exact hb back hshort hfeed
  · exact absurd (hlong.subset h) hfeed

theorem feed (as : List Char) : OpensLine (as ++ ['\n']) :=
  append_of_feed (blank rfl) (List.mem_singleton_self _) as

end OpensLine

/-! ## One step -/

/-- A cursor at the end of a line, or of the text. -/
def Cursor.AtLineEnd (c : Cursor) : Prop := ∀ d rest, c.rest = d :: rest → d = '\n'

/-- A cursor that has only blanks before it on its line, unless it is at the end of it. -/
def Cursor.OpenAt (c : Cursor) (before : List Char) : Prop := OpensLine before ∨ c.AtLineEnd

theorem Cursor.OpenAt.read {c c' : Cursor} {before read : List Char} (h : c.OpenAt before)
    (hread : c.rest = read ++ c'.rest) (hopens : OpensLine read) : c'.OpenAt (before ++ read) := by
  rcases h with h | h
  · exact .inl (h.append hopens)
  · cases read with
    | nil =>
      rw [Cursor.AtLineEnd, hread] at h
      exact .inr h
    | cons d read =>
      obtain rfl := h d _ hread
      exact .inl (hopens.append_of_feed List.mem_cons_self before)

/-- Before the first token of a line: at its indentation, or with edges of blocks still to come. -/
def Scanner.AtMargin (s : Scanner) : Prop := s.fresh = true ∨ s.opening = true ∨ 0 < s.closing

/-- What a step passes over opens a line or ends at the end of one, and leads to a margin only from one or
    behind a line feed. A token with text does not begin with a blank, and no margin follows it. An edge
    of a block or of the text has no characters and stands at a margin or at the end of a line. -/
def Step.Opens (s : Scanner) : Step → Prop
  | .skip next => ∃ read, s.cursor.rest = read ++ next.cursor.rest ∧
      (OpensLine read ∨ next.cursor.AtLineEnd) ∧
      (next.AtMargin → s.AtMargin ∨ ∃ front, read = front ++ ['\n'])
  | .emit token next =>
      (token.kind.isEdge = false →
        ¬next.AtMargin ∧ ∃ d rest, s.cursor.rest = d :: rest ∧ isBlank d = false) ∧
      (token.kind.isEdge = true → token.kind ≠ .newline →
        next.cursor = s.cursor ∧ (s.AtMargin ∨ s.cursor.AtLineEnd))
  | .stop _ => True

/-- The indentation of a line is blank, also where a backslash joins lines inside of it. -/
theorem measure_opens {cs : List Char} {line column col tight joined : Nat} {margin : Margin}
    (h : measure line column col tight joined cs = .ok margin) :
    ∃ read, cs = read ++ margin.cursor.rest ∧ OpensLine read := by
  have hblank : ∀ {c : Char} {rest : List Char}, isBlank c = true →
      (∃ read, rest = read ++ margin.cursor.rest ∧ OpensLine read) →
      ∃ read, c :: rest = read ++ margin.cursor.rest ∧ OpensLine read := by
    rintro c rest hc ⟨read, rfl, hopens⟩
    exact ⟨c :: read, rfl, (OpensLine.blank hc).append hopens⟩
  fun_induction measure line column col tight joined cs with
  | case1 _ _ _ _ _ rest ih => exact hblank rfl (ih h)
  | case2 _ _ _ _ _ rest ih => exact hblank rfl (ih h)
  | case3 _ _ _ _ _ rest ih => exact hblank rfl (ih h)
  | case4 => cases h
  | case5 line column _ _ _ rest _ ih =>
    obtain ⟨read, rfl, hopens⟩ := ih h
    exact ⟨'\\' :: '\n' :: read, rfl, (OpensLine.feed ['\\']).append hopens⟩
  | case6 => cases h
  | case7 =>
    obtain rfl := Except.ok.inj h
    exact ⟨[], rfl, .nil⟩

namespace Scanner

variable {s : Scanner} {d : Char} {more : List Char}

theorem take_opens (hrest : s.cursor.rest = d :: more) (hd : isBlank d = false) {s' : Scanner}
    (hs' : ¬s'.AtMargin) {kind : TokenKind} (hkind : kind.isEdge = false) (cs left : List Char) :
    (s'.take kind cs left).Opens s :=
  ⟨fun _ => ⟨hs', d, more, hrest, hd⟩,
    fun hedge => absurd (hkind.symm.trans hedge) Bool.false_ne_true⟩

theorem isBlank_of_quotePrefix {b u r f : Bool} {n : Nat}
    (h : quotePrefix b u r f (d :: more) = some n) : isBlank d = false := by
  rw [← Bool.not_eq_true]
  intro hblank
  have hne (c : Char) (hc : isBlank c = false) : d ≠ c := by
    rintro rfl
    exact Bool.false_ne_true (hc.symm.trans hblank)
  simp only [quotePrefix, hne '"' (by decide), hne '\'' (by decide), hne 'b' (by decide),
    hne 'B' (by decide), hne 'u' (by decide), hne 'U' (by decide), hne 'r' (by decide),
    hne 'R' (by decide), hne 'f' (by decide), hne 'F' (by decide), decide_false, Bool.or_false,
    Bool.and_false, Bool.false_eq_true, if_false] at h
  cases h

theorem ReadsOn.opens (hs : ¬s.AtMargin) {step : Step} (h : s.ReadsOn step) : step.Opens s := by
  cases h with
  | stop => trivial
  | finish hrest =>
    refine ⟨fun htext => absurd htext Bool.noConfusion, fun _ _ => ⟨rfl, .inr fun d rest h => ?_⟩⟩
    exact absurd (hrest.symm.trans h) nofun
  | blank hrest hc =>
    refine ⟨[_], hrest, .inl (.blank ?_), .inl⟩
    rcases hc with rfl | rfl | rfl <;> rfl
  | comment =>
    refine ⟨_, List.takeWhile_append_dropWhile.symm, .inr fun d more h => ?_, .inl⟩
    have hstop := List.head?_dropWhile_not (· ≠ '\n') s.cursor.rest
    rw [show s.cursor.rest.dropWhile (· ≠ '\n') = d :: more from h] at hstop
    simpa using hstop
  | feed hrest => exact ⟨_, hrest, .inl (.feed []), fun _ => .inr ⟨[], rfl⟩⟩
  | newline => exact ⟨fun htext => absurd htext Bool.noConfusion, fun _ hnot => absurd rfl hnot⟩
  | joined hrest => exact ⟨_, hrest, .inl (.feed ['\\']), .inl⟩
  | quoted hrest hletters =>
    rw [hrest] at hletters
    exact ⟨fun _ => ⟨hs, _, _, hrest, isBlank_of_quotePrefix hletters⟩,
      fun hedge => absurd hedge Bool.false_ne_true⟩
  | number hrest hc =>
    exact take_opens hrest (hc.elim isBlank_of_isDigit (· ▸ rfl)) hs rfl _ _
  | word hrest hc hkind =>
    have hblank := hc.elim isBlank_of_isAsciiLetter isBlank_of_startsIdentifier
    exact take_opens hrest hblank hs (hkind.elim (· ▸ rfl) (· ▸ rfl)) _ _
  | mark hrest hlow hhigh brackets =>
    have hplace : ¬Scanner.AtMargin { s with brackets } := hs
    exact take_opens hrest (isBlank_eq_false_of_lt hlow hhigh) hplace rfl _ _

theorem Moves.opens {step : Step} (h : s.Moves step) : step.Opens s := by
  cases h with
  | indent hfresh h =>
    cases h with
    | stop => trivial
    | skip hmargin hnext =>
      obtain ⟨read, hread, hopens⟩ := measure_opens hmargin
      exact ⟨read, hnext ▸ hread, .inl hopens, fun _ => .inl (.inl hfresh)⟩
  | edge hkind hdue hnext =>
    refine ⟨fun htext => ?_, fun _ _ => ⟨hnext, .inl (.inr hdue)⟩⟩
    rcases hkind with rfl | rfl <;> exact absurd htext Bool.noConfusion
  | read hfresh hopening hclosing h =>
    refine h.opens ?_
    rintro (hat | hat | hat)
    · exact Bool.false_ne_true (hfresh.symm.trans hat)
    · exact Bool.false_ne_true (hopening.symm.trans hat)
    · exact absurd hclosing (Nat.ne_of_gt hat)

/-- **A step passes over nothing but blanks on a line that has no token yet.** -/
theorem step_opens : s.step.Opens s := s.step_cases.opens

end Scanner

/-! ## The whole text -/

/-- Tokens that are cut from a cursor on, behind the characters `before` and a token that is an edge or
    not: an edge leaves only blanks on the line before a token with text. -/
inductive OpenFrom : Bool → List Char → Cursor → List Token → Prop
  | nil (edge : Bool) (before : List Char) (c : Cursor) : OpenFrom edge before c []
  | cons {edge : Bool} {before gap read : List Char} {c c₁ c₂ : Cursor} {t : Token} {ts : List Token}
      (hgap : c.Reads gap c₁) (hread : c₁.Reads read c₂) (ht : t.Takes c₁ read c₂)
      (hopen : edge = true → t.kind.isEdge = false →
        OpensLine (before ++ gap) ∧ ∃ d rest, c₁.rest = d :: rest ∧ isBlank d = false)
      (hts : OpenFrom t.kind.isEdge (before ++ gap ++ read) c₂ ts) : OpenFrom edge before c (t :: ts)

theorem OpenFrom.skip {edge : Bool} {before read : List Char} {c c' : Cursor} {ts : List Token}
    (hread : c.Reads read c') (h : OpenFrom edge (before ++ read) c' ts) :
    OpenFrom edge before c ts := by
  cases h with
  | nil => exact .nil edge before c
  | cons hgap htoken ht hopen hts =>
    rw [List.append_assoc before] at hopen hts
    exact .cons (hread.trans hgap) htoken ht hopen hts

section
variable {s next : Scanner} {before read : List Char}

/-- Behind what a step passes over there are only blanks on the line, if there were before it. -/
theorem openAt_of_skip {edge : Bool} (hopens : (Step.skip next).Opens s)
    (hread : s.cursor.Reads read next.cursor)
    (hbefore : edge = true ∨ s.AtMargin → s.cursor.OpenAt before) (h : edge = true ∨ next.AtMargin) :
    next.cursor.OpenAt (before ++ read) := by
  obtain ⟨read', hread', hline, hmargin⟩ := hopens
  obtain rfl : read = read' := List.append_cancel_right (hread.1.symm.trans hread')
  rcases hline with hline | hend
  · rcases h with hedge | hat
    · exact (hbefore (.inl hedge)).read hread' hline
    · rcases hmargin hat with hat | ⟨front, rfl⟩
      · exact (hbefore (.inr hat)).read hread' hline
      · exact .inl (List.append_assoc _ _ _ ▸ OpensLine.feed (before ++ front))
  · exact .inr hend

variable {token : Token} (hopens : (Step.emit token next).Opens s)
include hopens

theorem opensLine_of_emit (hbefore : s.cursor.OpenAt before) (hkind : token.kind.isEdge = false) :
    OpensLine before ∧ ∃ d rest, s.cursor.rest = d :: rest ∧ isBlank d = false := by
  obtain ⟨-, d, rest, hrest, hd⟩ := hopens.1 hkind
  refine ⟨hbefore.resolve_right fun hend => ?_, d, rest, hrest, hd⟩
  obtain rfl := hend d rest hrest
  exact absurd hd (by decide)

/-- Behind an edge there are again only blanks, and behind any token that leads to a margin. -/
theorem openAt_of_emit (hread : s.cursor.Reads read next.cursor)
    (htoken : token.Takes s.cursor read next.cursor) (hbefore : s.AtMargin → s.cursor.OpenAt before)
    (h : token.kind.isEdge = true ∨ next.AtMargin) : next.cursor.OpenAt (before ++ read) := by
  obtain ⟨htext, hedge⟩ := hopens
  cases htoken with
  | lineEnd _ _ hfeed => exact .inl (hfeed ▸ OpensLine.feed before)
  | edge hkind hnot _ =>
    obtain ⟨hsame, hat⟩ := hedge hkind hnot
    have hrest := hread.1
    rw [hsame] at hrest
    rw [List.append_left_eq_self.1 hrest.symm, List.append_nil, hsame]
    exact hat.elim hbefore .inr
  | text hkind _ _ _ =>
    rcases h with h | h
    · exact absurd (hkind.symm.trans h) Bool.false_ne_true
    · exact absurd h (htext hkind).1

end

/-- A scanner cuts its tokens so if it begins with only blanks before it on its line, where that
    matters. -/
theorem Scanner.Emits.cutOpen {s : Scanner} {ts : List Token} (h : s.Emits ts) {edge : Bool}
    {before : List Char} (hbefore : edge = true ∨ s.AtMargin → s.cursor.OpenAt before) :
    OpenFrom edge before s.cursor ts := by
  induction h generalizing edge before with
  | stop => exact .nil _ _ _
  | @skip s next ts hstep _ ih =>
    have hreads := s.step_reads
    have hopens := s.step_opens
    rw [hstep] at hreads hopens
    obtain ⟨read, hread⟩ := hreads
    exact (ih (openAt_of_skip hopens hread hbefore)).skip hread
  | @emit s next token ts hstep _ ih =>
    have hreads := s.step_reads
    have hopens := s.step_opens
    rw [hstep] at hreads hopens
    obtain ⟨read, hread, htoken⟩ := hreads
    rw [← List.append_nil before] at hbefore
    exact .cons (.refl _) hread htoken (fun h => opensLine_of_emit hopens (hbefore (.inl h)))
      (ih (openAt_of_emit hopens hread htoken fun hat => hbefore (.inr hat)))

theorem tokenize_open (line : Nat) (text : List Char) :
    OpenFrom true [] ⟨text, line, 0⟩ (tokenize line text).tokens.toList := by
  obtain ⟨s, hs, hemits⟩ := tokenize_emits line text
  exact hs ▸ hemits.cutOpen fun _ => .inl .nil

theorem OpenFrom.stands {edge : Bool} {before : List Char} {c : Cursor} {ts : List Token}
    (h : OpenFrom edge before c ts) {b : Nat} {t : Token} (ht : ts[b]? = some t)
    (htext : t.kind.isEdge = false)
    (hbehind : b = 0 ∧ edge = true ∨ ∃ k u, b = k + 1 ∧ ts[k]? = some u ∧ u.kind.isEdge = true) :
    ∃ gap rest, c.rest = gap ++ rest ∧ (⟨t.span.line, t.span.column⟩ : Place) = c.place.past gap ∧
      OpensLine (before ++ gap) ∧ ∃ d more, rest = d :: more ∧ isBlank d = false := by
  induction h generalizing b with
  | nil => exact absurd ht nofun
  | @cons edge before gap read c c₁ c₂ u us hgap hread hu hopen _ ih =>
    rcases hbehind with ⟨rfl, hedge⟩ | ⟨k, v, rfl, hv, hkind⟩
    · obtain rfl := Option.some.inj ht
      obtain ⟨hline, d, more, hrest, hd⟩ := hopen hedge htext
      refine ⟨gap, c₁.rest, hgap.1, ?_, hline, d, more, hrest, hd⟩
      cases hu with
      | lineEnd hkind => exact absurd (hkind ▸ htext) (by decide)
      | edge hkind => exact absurd (htext.symm.trans hkind) Bool.false_ne_true
      | text _ _ _ hspan =>
        rw [hspan, ← hgap.2]
        rfl
    · have hstands := ih (b := k) ht ?_
      · obtain ⟨front, rest, hrest, hplace, hline, hd⟩ := hstands
        have hall := hgap.trans hread
        refine ⟨gap ++ read ++ front, rest, ?_, ?_, ?_, hd⟩
        · rw [hall.1, hrest, List.append_assoc (gap ++ read)]
        · rw [hplace, Place.past_append, ← hall.2]
        · rwa [← List.append_assoc before, ← List.append_assoc before]
      · cases k with
        | zero =>
          obtain rfl := Option.some.inj hv
          exact .inl ⟨rfl, hkind⟩
        | succ k => exact .inr ⟨k, v, rfl, hv, hkind⟩

/-! ## Lines of code -/

theorem feed_not_mem_codeLine (text : String) (line : Nat) :
    '\n' ∉ (Text.codeLine text line).toList := by
  intro hmem
  rw [Text.codeLine_eq, String.toList_ofList, List.getD_eq_getElem?_getD] at hmem
  cases hl : (Text.cutLines Text.endsCodeLine text.toList)[line - 1]? with
  | none =>
    rw [hl] at hmem
    exact absurd hmem List.not_mem_nil
  | some l =>
    rw [hl] at hmem
    have hends := Text.not_ends_of_mem_cutLines text.toList l (List.mem_of_getElem? hl) '\n' hmem
    exact absurd hends (by decide)

/-- What stands at a place of a text is the first on its line, and `indent` is all the blank space before
    it. -/
def FirstOnLine (text indent : String) (line column : Nat) : Prop :=
  Text.byteLength indent.toList = column ∧ (∀ c ∈ indent.toList, isBlank c = true) ∧
  ∃ d rest, isBlank d = false ∧ (Text.codeLine text line).toList = indent.toList ++ d :: rest

/-- **A token behind an edge is the first on its line**, and the blank space at the start of that line is
    all that stands before it. -/
theorem firstOnLine_of_edge {text : String} {b : Nat} {t : Token}
    (ht : (tokenize 1 (closeLastLine text.toList)).tokens[b + 1]? = some t)
    (htext : t.kind.isEdge = false)
    (hedge : ∃ u, (tokenize 1 (closeLastLine text.toList)).tokens[b]? = some u ∧
      u.kind.isEdge = true) :
    FirstOnLine text (Text.leadingBlanks (Text.codeLine text t.span.line)) t.span.line
      t.span.column := by
  obtain ⟨u, hu, hkind⟩ := hedge
  rw [← Array.getElem?_toList] at ht hu
  obtain ⟨gap, rest, hrest, hplace, hopens, d, more, rfl, hd⟩ :=
    (tokenize_open 1 (closeLastLine text.toList)).stands ht htext (.inr ⟨b, u, rfl, hu, hkind⟩)
  obtain ⟨front, hlength, hsuffix, hline⟩ := codeLine_at_place hrest hplace
  have hfeed : '\n' ∉ front := fun h =>
    feed_not_mem_codeLine text t.span.line (by rw [hline]; exact List.mem_append_left _ h)
  have hblank : ∀ c ∈ front, isBlank c = true := hopens front hsuffix hfeed
  have hdfeed : d ≠ '\n' := by
    rintro rfl
    exact absurd hd (by decide)
  rw [List.takeWhile_cons_of_pos (by simpa using hdfeed)] at hline
  have hindent : (Text.leadingBlanks (Text.codeLine text t.span.line)).toList = front := by
    rw [Text.leadingBlanks, String.toList_ofList, hline, List.takeWhile_append_of_pos hblank,
      List.takeWhile_cons_of_neg (by rw [hd]; exact Bool.false_ne_true), List.append_nil]
  refine ⟨by rw [hindent]; exact hlength, by rwa [hindent],
    d, more.takeWhile (· ≠ '\n'), hd, ?_⟩
  rw [hindent]
  exact hline

end RecordLens.Code
