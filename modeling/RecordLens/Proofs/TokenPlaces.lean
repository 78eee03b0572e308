import RecordLens.Proofs.CodeLines
import RecordLens.Proofs.ScannerSteps
/-!
Where tokens stand. A step of the scanner reads some characters, and the line and the column it goes
on with are those behind these characters; so every token stands in the text where its span says, and
the lines that spans count are the lines of code of the text.

* `Cursor.Reads`: one cursor is reached from another by reading characters.
* `Scanner.step_reads`: what one step reads.
* `CutFrom`, `tokenize_cut`: the tokens of a whole text, one after the other.
* `token_standsIn`: the lines of code on which a token begins and ends.
-/
namespace RecordLens.Code

open Text (byteLength)

/-! ## Places -/

/-- A place in a text: its line and its byte column. -/
structure Place where
  line : Nat
  column : Nat
deriving DecidableEq, Repr

/-- The place behind some characters. -/
def Place.past : Place → List Char → Place
  | p, [] => p
  | p, c :: cs =>
    if c = '\n' then Place.past ⟨p.line + 1, 0⟩ cs else Place.past ⟨p.line, p.column + c.utf8Size⟩ cs

theorem Place.past_append (p : Place) (as bs : List Char) :
    p.past (as ++ bs) = (p.past as).past bs := by
  induction as generalizing p with
  | nil => rfl
  | cons a as ih =>
    rw [List.cons_append, past, past]
    split <;> rw [ih]

theorem Place.past_feed (p : Place) (cs : List Char) :
    p.past ('\n' :: cs) = (⟨p.line + 1, 0⟩ : Place).past cs := if_pos rfl

theorem Place.past_cons (p : Place) {c : Char} (hc : c ≠ '\n') (cs : List Char) :
    p.past (c :: cs) = (⟨p.line, p.column + c.utf8Size⟩ : Place).past cs := if_neg hc

theorem Place.past_eq {cs : List Char} (h : '\n' ∉ cs) (p : Place) :
    p.past cs = ⟨p.line, p.column + byteLength cs⟩ := by
  induction cs generalizing p with
  | nil => rfl
  | cons c cs ih =>
    rw [List.mem_cons, not_or] at h
    rw [p.past_cons (Ne.symm h.1), ih h.2, byteLength]
    simp only [Nat.add_assoc]

/-- The place of a cursor. -/
def Cursor.place (c : Cursor) : Place := ⟨c.line, c.column⟩

/-- Reading the characters `cs` leads from one cursor to another. -/
def Cursor.Reads (c : Cursor) (cs : List Char) (c' : Cursor) : Prop :=
  c.rest = cs ++ c'.rest ∧ c'.place = c.place.past cs

namespace Cursor

theorem Reads.refl (c : Cursor) : c.Reads [] c := ⟨rfl, rfl⟩

theorem Reads.trans {a b c : Cursor} {as bs : List Char} (hab : a.Reads as b) (hbc : b.Reads bs c) :
    a.Reads (as ++ bs) c :=
  ⟨by rw [hab.1, hbc.1, List.append_assoc], by rw [hbc.2, hab.2, Place.past_append]⟩

theorem Reads.take_eq {c c' : Cursor} {cs : List Char} (h : c.Reads cs c') :
    c.rest.take (c.rest.length - c'.rest.length) = cs := by
  rw [h.1, List.length_append, Nat.add_sub_cancel, List.take_left]

theorem reads_past {c : Cursor} {cs rest : List Char} (hrest : c.rest = cs ++ rest)
    (h : '\n' ∉ cs) : c.Reads cs (c.past cs rest) :=
  ⟨hrest, (c.place.past_eq h).symm⟩

theorem reads_char {c : Cursor} {d : Char} {rest : List Char} (hd : d ≠ '\n')
    (hrest : c.rest = d :: rest) : c.Reads [d] ⟨rest, c.line, c.column + d.utf8Size⟩ :=
  ⟨hrest, (c.place.past_cons hd []).symm⟩

theorem reads_feed {c : Cursor} {rest : List Char} (hrest : c.rest = '\n' :: rest) :
    c.Reads ['\n'] ⟨rest, c.line + 1, 0⟩ :=
  ⟨hrest, (c.place.past_feed []).symm⟩

theorem reads_joined {c : Cursor} {rest : List Char} (hrest : c.rest = '\\' :: '\n' :: rest) :
    c.Reads ['\\', '\n'] ⟨rest, c.line + 1, 0⟩ := by
  refine ⟨hrest, ?_⟩
  rw [Place.past_cons _ (by decide), Place.past_feed]
  rfl

end Cursor

theorem feed_not_mem_takeWhile (cs : List Char) : '\n' ∉ cs.takeWhile (· ≠ '\n') := fun hmem =>
  absurd (List.all_eq_true.1 List.all_takeWhile _ hmem) (by decide)

/-! ## Numbers -/

/-- The second text is left of the first when characters of its first line have been read. -/
def Leaves (cs rest : List Char) : Prop := ∃ read, cs = read ++ rest ∧ '\n' ∉ read

namespace Leaves

theorem refl (cs : List Char) : Leaves cs cs := ⟨[], rfl, List.not_mem_nil⟩

theorem cons {c : Char} {cs rest : List Char} (hc : c ≠ '\n') (h : Leaves cs rest) :
    Leaves (c :: cs) rest := by
  obtain ⟨read, rfl, hread⟩ := h
  refine ⟨c :: read, rfl, ?_⟩
  rw [List.mem_cons, not_or]
  exact ⟨Ne.symm hc, hread⟩

theorem trans {as bs cs : List Char} (hab : Leaves as bs) (hbc : Leaves bs cs) : Leaves as cs := by
  obtain ⟨r, rfl, hr⟩ := hab
  obtain ⟨t, rfl, ht⟩ := hbc
  refine ⟨r ++ t, (List.append_assoc _ _ _).symm, ?_⟩
  rw [List.mem_append, not_or]
  exact ⟨hr, ht⟩

theorem take_eq {cs rest : List Char} (h : Leaves cs rest) :
    cs = cs.take (cs.length - rest.length) ++ rest ∧ '\n' ∉ cs.take (cs.length - rest.length) := by
  obtain ⟨read, rfl, hread⟩ := h
  have hlength : (read ++ rest).length - rest.length = read.length := by
    rw [List.length_append, Nat.add_sub_cancel]
  rw [hlength, List.take_left]
  exact ⟨rfl, hread⟩

end Leaves

theorem ne_feed_of_isDigit {c : Char} (h : c.isDigit = true) : c ≠ '\n' := by
  rintro rfl
  exact absurd h (by decide)

theorem closeNumber_leaves {cs rest : List Char} (h : closeNumber cs = some rest) :
    Leaves cs rest := by
  unfold closeNumber at h
  split at h
  · obtain rfl := Option.some.inj h
    exact .refl cs
  · exact absurd h nofun

theorem digitsEnd_leaves {cs rest : List Char} (h : digitsEnd cs = some rest) : Leaves cs rest := by
  fun_induction digitsEnd cs with
  | case1 => obtain rfl := Option.some.inj h; exact .refl []
  | case2 => exact absurd h nofun
  | case3 d more hd ih => exact .cons (by decide) (.cons (ne_feed_of_isDigit hd) (ih h))
  | case4 => exact absurd h nofun
  | case5 c more _ _ hc ih => exact .cons (ne_feed_of_isDigit hc) (ih h)
  | case6 => obtain rfl := Option.some.inj h; exact .refl _

theorem zerosEnd_leaves {cs rest : List Char} (h : zerosEnd cs = some rest) : Leaves cs rest := by
  fun_induction zerosEnd cs with
  | case1 more ih => exact .cons (by decide) (ih h)
  | case2 more ih => exact .cons (by decide) (.cons (by decide) (ih h))
  | case3 d more _ hd =>
    obtain rfl := Option.some.inj h
    exact .cons (by decide) (.refl _)
  | case4 => exact absurd h nofun
  | case5 => exact absurd h nofun
  | case6 => obtain rfl := Option.some.inj h; exact .refl _

theorem radixEnd_leaves {isDigit : Char → Bool} (hfeed : isDigit '\n' = false) {state : GroupState}
    {cs rest : List Char} (h : radixEnd isDigit state cs = some rest) : Leaves cs rest := by
  fun_induction radixEnd isDigit state cs with
  | case1 more ih => exact .cons (by decide) (ih h)
  | case2 more ih => exact .cons (by decide) (ih h)
  | case3 => obtain rfl := Option.some.inj h; exact .refl []
  | case4 => exact absurd h nofun
  | case5 state c more _ _ hc ih =>
    refine .cons ?_ (ih h)
    rintro rfl
    exact absurd (hfeed.symm.trans hc) Bool.false_ne_true
  | case6 => exact closeNumber_leaves h
  | case7 => exact absurd h nofun

theorem imaginaryEnd_leaves {cs rest : List Char} (h : imaginaryEnd cs = some rest) :
    Leaves cs rest := by
  unfold imaginaryEnd at h
  split at h
  · exact .cons (by decide) (closeNumber_leaves h)
  · exact .cons (by decide) (closeNumber_leaves h)
  · exact closeNumber_leaves h

theorem digitsEnd_bind_leaves {next : List Char → Option (List Char)}
    (hnext : ∀ {as bs}, next as = some bs → Leaves as bs) {cs rest : List Char}
    (h : (digitsEnd cs).bind next = some rest) : Leaves cs rest := by
  obtain ⟨mid, hmid, hrest⟩ := Option.bind_eq_some_iff.1 h
  exact (digitsEnd_leaves hmid).trans (hnext hrest)

theorem exponentEnd_leaves {cs rest : List Char} :
    exponentEnd cs = some rest → Leaves cs rest := by
  have hmark : ∀ {c : Char}, (decide (c = 'e') || decide (c = 'E')) = true → c ≠ '\n' := by
    rintro c hc rfl
    exact absurd hc (by decide)
  have hsign : ∀ {c : Char}, (decide (c = '+') || decide (c = '-')) = true → c ≠ '\n' := by
    rintro c hc rfl
    exact absurd hc (by decide)
  fun_cases exponentEnd cs with
  | case1 => intro h; obtain rfl := Option.some.inj h; exact .refl []
  | case2 c hc => exact closeNumber_leaves
  | case3 c hc d hd x tail hx =>
    intro h
    exact .cons (hmark hc) (.cons (hsign hd) (.cons (ne_feed_of_isDigit hx)
      (digitsEnd_bind_leaves imaginaryEnd_leaves h)))
  | case4 => exact nofun
  | case5 => exact nofun
  | case6 c hc d more _ hd =>
    intro h
    exact .cons (hmark hc) (.cons (ne_feed_of_isDigit hd)
      (digitsEnd_bind_leaves imaginaryEnd_leaves h))
  | case7 => exact closeNumber_leaves
  | case8 => exact imaginaryEnd_leaves

theorem fractionEnd_leaves {cs rest : List Char} :
    fractionEnd cs = some rest → Leaves cs rest := by
  fun_cases fractionEnd cs with
  | case1 d more hd =>
    intro h
    exact .cons (ne_feed_of_isDigit hd) (digitsEnd_bind_leaves exponentEnd_leaves h)
  | case2 => exact exponentEnd_leaves
  | case3 => intro h; obtain rfl := Option.some.inj h; exact .refl []

theorem afterWhole_leaves {cs rest : List Char} (h : afterWhole cs = some rest) :
    Leaves cs rest := by
  unfold afterWhole at h
  split at h
  · exact .cons (by decide) (fractionEnd_leaves h)
  · exact exponentEnd_leaves h

theorem numberEnd_leaves {first : Char} {cs rest : List Char}
    (h : numberEnd first cs = some rest) : Leaves cs rest := by
  unfold numberEnd at h
  split at h
  · split at h
    -- the letters of the bases
    iterate 6 exact .cons (by decide) (radixEnd_leaves (by decide) h)
    obtain ⟨mid, hmid, hrest⟩ := Option.bind_eq_some_iff.1 h
    refine (zerosEnd_leaves hmid).trans ?_
    split at hrest
    · split at hrest
      · rename_i d more hd
        refine .cons (ne_feed_of_isDigit hd) (digitsEnd_bind_leaves (fun {as bs} hnext => ?_) hrest)
        split at hnext
        iterate 5 exact afterWhole_leaves hnext
        exact absurd hnext nofun
      · exact afterWhole_leaves hrest
    · obtain rfl := Option.some.inj hrest
      exact .refl []
  · exact digitsEnd_bind_leaves afterWhole_leaves h

/-! ## Strings -/

/-- What is read of a string, from the inside of its quotes on. -/
theorem stringEnd_reads {quote : Char} {size : Nat} (hquote : quote = '"' ∨ quote = '\'')
    {run : Nat} {cs : List Char} {line column : Nat} {stop : Cursor}
    (h : stringEnd quote size run cs line column = some stop) :
    ∃ read, (⟨cs, line, column⟩ : Cursor).Reads (read ++ [quote]) stop := by
  have hmark (rest : List Char) (line column : Nat) :
      (⟨quote :: rest, line, column⟩ : Cursor).Reads [quote] ⟨rest, line, column + 1⟩ := by
    rcases hquote with rfl | rfl <;> exact Cursor.reads_char (by decide) rfl
  fun_induction stringEnd quote size run cs line column with
  | case1 => exact absurd h nofun
  | case2 => exact absurd h nofun
  | case3 _ rest line column ih =>
    obtain ⟨read, hread⟩ := ih h
    exact ⟨'\\' :: '\n' :: read, (Cursor.reads_joined rfl).trans hread⟩
  | case4 _ c rest line column hc ih =>
    obtain ⟨read, hread⟩ := ih h
    have hescape : (⟨'\\' :: c :: rest, line, column⟩ : Cursor).Reads ['\\', c]
        ⟨rest, line, column + 1 + c.utf8Size⟩ :=
      (Cursor.reads_char (by decide) rfl).trans (Cursor.reads_char hc rfl)
    exact ⟨'\\' :: c :: read, hescape.trans hread⟩
  | case5 run rest line column =>
    obtain rfl := Option.some.inj h
    exact ⟨[], hmark rest line column⟩
  | case6 run rest line column _ _ _ ih =>
    obtain ⟨read, hread⟩ := ih h
    exact ⟨quote :: read, (hmark rest line column).trans hread⟩
  | case7 => exact absurd h nofun
  | case8 run rest line column _ _ _ _ ih =>
    obtain ⟨read, hread⟩ := ih h
    exact ⟨'\n' :: read, (Cursor.reads_feed rfl).trans hread⟩
  | case9 run c rest line column _ _ _ hc ih =>
    obtain ⟨read, hread⟩ := ih h
    exact ⟨c :: read, (Cursor.reads_char hc rfl).trans hread⟩

theorem quotePrefix_quote {b u r f : Bool} {cs : List Char} {n : Nat}
    (h : quotePrefix b u r f cs = some n) :
    '\n' ∉ cs.take n ∧ ∃ quote rest, cs.drop n = quote :: rest ∧ (quote = '"' ∨ quote = '\'') := by
  induction cs generalizing b u r f n with
  | nil => exact absurd h nofun
  | cons c cs ih =>
    have hc : c ≠ '\n' := by
      rintro rfl
      simp [quotePrefix] at h
    have hletter : ∀ {b u r f}, (quotePrefix b u r f cs).map (· + 1) = some n →
        '\n' ∉ (c :: cs).take n ∧
          ∃ quote rest, (c :: cs).drop n = quote :: rest ∧ (quote = '"' ∨ quote = '\'') := by
      intro b u r f hnext
      obtain ⟨m, hm, rfl⟩ := Option.map_eq_some_iff.1 hnext
      obtain ⟨hread, hquote⟩ := ih hm
      rw [List.take_succ_cons, List.drop_succ_cons, List.mem_cons, not_or]
      exact ⟨⟨Ne.symm hc, hread⟩, hquote⟩
    simp only [quotePrefix] at h
    split at h
    · rename_i hquote
      obtain rfl := Option.some.inj h
      rw [Bool.or_eq_true, decide_eq_true_eq, decide_eq_true_eq] at hquote
      exact ⟨List.not_mem_nil, c, cs, rfl, hquote⟩
    · split at h
      · exact hletter h
      · split at h
        · exact hletter h
        · split at h
          · exact hletter h
          · split at h
            · exact hletter h
            · exact absurd h nofun

theorem reads_quotes {c : Cursor} {quote : Char} (hquote : quote = '"' ∨ quote = '\'') {n : Nat}
    {inside : List Char} (hrest : c.rest = List.replicate n quote ++ inside) :
    c.Reads (List.replicate n quote) ⟨inside, c.line, c.column + n⟩ := by
  have hfeed : '\n' ≠ quote := by rcases hquote with rfl | rfl <;> decide
  have hlength : byteLength (List.replicate n quote) = n := by
    clear hrest
    induction n with
    | zero => rfl
    | succ n ih =>
      have hsize : quote.utf8Size = 1 := by rcases hquote with rfl | rfl <;> rfl
      rw [List.replicate_succ, byteLength, ih, hsize, Nat.add_comm]
  have hread := Cursor.reads_past hrest fun hmem => hfeed (List.eq_of_mem_replicate hmem)
  rwa [Cursor.past, hlength] at hread

theorem quotedEnd_reads {c stop : Cursor} {quote : Char} {rest : List Char}
    (hrest : c.rest = quote :: rest) (hquote : quote = '"' ∨ quote = '\'')
    (h : quotedEnd c = some stop) : ∃ read, c.Reads (read ++ [quote]) stop := by
  -- the opening quotes, and then the inside of the string
  have hthrough : ∀ {n : Nat} {inside : List Char} {run : Nat},
      c.rest = List.replicate n quote ++ inside →
      stringEnd quote n run inside c.line (c.column + n) = some stop →
      ∃ read, c.Reads (read ++ [quote]) stop := by
    intro n inside run hinside hstop
    obtain ⟨read, hread⟩ := stringEnd_reads hquote hstop
    have hall := (reads_quotes hquote hinside).trans hread
    exact ⟨List.replicate n quote ++ read, List.append_assoc _ _ _ ▸ hall⟩
  unfold quotedEnd at h
  split at h
  · rename_i a b d more hmore
    obtain ⟨rfl, rfl⟩ := List.cons.inj (hrest.symm.trans hmore)
    split at h
    · rename_i hsame
      rw [Bool.and_eq_true, decide_eq_true_eq, decide_eq_true_eq] at hsame
      obtain ⟨rfl, rfl⟩ := hsame
      exact hthrough hrest h
    · split at h
      · rename_i hsame
        subst hsame
        obtain rfl := Option.some.inj h
        exact ⟨[_], reads_quotes (n := 2) hquote hrest⟩
      · exact hthrough hrest h
  · rename_i a b hmore
    obtain ⟨rfl, rfl⟩ := List.cons.inj (hrest.symm.trans hmore)
    split at h
    · rename_i hsame
      subst hsame
      obtain rfl := Option.some.inj h
      exact ⟨[_], reads_quotes (n := 2) hquote hrest⟩
    · exact absurd h nofun
  · exact absurd h nofun

/-! ## Marks and indentation -/

theorem feed_not_mem_of_contains {marks : List String} {cs : List Char}
    (hmarks : ∀ m ∈ marks, '\n' ∉ m.toList) (h : marks.contains (String.ofList cs) = true) :
    '\n' ∉ cs := by
  have hnot := hmarks _ (List.contains_iff_mem.1 h)
  rwa [String.toList_ofList] at hnot

theorem markLength_not_feed {c : Char} {cs : List Char} (hc : c ≠ '\n') :
    '\n' ∉ (c :: cs).take (markLength (c :: cs)) := by
  have hone : '\n' ∉ (c :: cs).take 1 := by simpa using Ne.symm hc
  have htwo (b : Char) (rest : List Char) (hmark : twoMarks.contains (String.ofList [c, b]) = true) :
      '\n' ∉ (c :: b :: rest).take 2 := feed_not_mem_of_contains (by decide) hmark
  have hthree (b d : Char) (rest : List Char)
      (hmark : threeMarks.contains (String.ofList [c, b, d]) = true) :
      '\n' ∉ (c :: b :: d :: rest).take 3 := feed_not_mem_of_contains (by decide) hmark
  unfold markLength
  split
  · rename_i a b rest hsplit
    obtain ⟨rfl, rfl⟩ := List.cons.inj hsplit
    split
    · rename_i hpair
      have htwo' (hdot : c ≠ '.') : '\n' ∉ (c :: b :: rest).take 2 :=
        htwo b rest (by simpa [hdot] using hpair)
      split
      · split
        · exact hthree _ _ _ ‹_›
        · split
          · exact hone
          · exact htwo' ‹_›
      · split
        · exact hone
        · exact htwo' ‹_›
    · exact hone
  · exact hone

theorem measure_reads {cs : List Char} {line column col tight joined : Nat} {margin : Margin}
    (h : measure line column col tight joined cs = .ok margin) :
    ∃ read, (⟨cs, line, column⟩ : Cursor).Reads read margin.cursor := by
  have hblank : ∀ {c : Char} {rest : List Char} {line column : Nat}, c ≠ '\n' → c.utf8Size = 1 →
      (∃ read, (⟨rest, line, column + 1⟩ : Cursor).Reads read margin.cursor) →
      ∃ read, (⟨c :: rest, line, column⟩ : Cursor).Reads read margin.cursor := by
    rintro c rest line column hc hsize ⟨read, hrest, hplace⟩
    refine ⟨c :: read, congrArg (c :: ·) hrest, ?_⟩
    rw [hplace, Place.past_cons _ hc, hsize]
    rfl
  fun_induction measure line column col tight joined cs with
  | case1 _ _ _ _ _ rest ih => exact hblank (by decide) rfl (ih h)
  | case2 _ _ _ _ _ rest ih => exact hblank (by decide) rfl (ih h)
  | case3 _ _ _ _ _ rest ih => exact hblank (by decide) rfl (ih h)
  | case4 => exact absurd h nofun
  | case5 line column _ _ _ rest _ ih =>
    obtain ⟨read, hrest, hplace⟩ := ih h
    refine ⟨'\\' :: '\n' :: read, congrArg (fun l => '\\' :: '\n' :: l) hrest, ?_⟩
    rw [hplace, Place.past_cons _ (by decide), Place.past_feed]
    rfl
  | case6 => exact absurd h nofun
  | case7 =>
    obtain rfl := Except.ok.inj h
    exact ⟨[], .refl _⟩

/-! ## One step -/

/-- Whether tokens of a kind are ends of lines or edges of blocks or of the text. -/
def TokenKind.isEdge : TokenKind → Bool
  | .newline | .indent | .dedent | .endMarker => true
  | _ => false

/-- What a token is made of: the end of a line, nothing at all, or the text that was read between two
    cursors, with their places, which does not end with a line. -/
inductive Token.Takes (t : Token) (c : Cursor) (read : List Char) (c' : Cursor) : Prop
  | lineEnd (hkind : t.kind = .newline) (htext : t.text = "") (hread : read = ['\n'])
  | edge (hkind : t.kind.isEdge = true) (hnot : t.kind ≠ .newline) (htext : t.text = "")
  | text (hkind : t.kind.isEdge = false) (htext : t.text.toList = read)
      (hlast : ∃ front d, read = front ++ [d] ∧ d ≠ '\n')
      (hspan : t.span = ⟨c.line, c.column, c'.line, c'.column⟩)

/-- A step from a cursor reads on from there, and its token is what it reads. -/
def Step.ReadsFrom (c : Cursor) : Step → Prop
  | .skip next => ∃ read, c.Reads read next.cursor
  | .emit token next => ∃ read, c.Reads read next.cursor ∧ token.Takes c read next.cursor
  | .stop _ => True

namespace Scanner

variable {s : Scanner}

theorem lastLine_of_rest {c : Cursor} {d : Char} {rest : List Char} (h : c.rest = d :: rest) :
    c.lastLine = c.line := by
  rw [Cursor.lastLine, h]
  rfl

theorem take_reads {kind : TokenKind} {cs rest : List Char} (hkind : kind.isEdge = false)
    (hrest : s.cursor.rest = cs ++ rest) (hne : cs ≠ []) (h : '\n' ∉ cs) :
    (s.take kind cs rest).ReadsFrom s.cursor := by
  have hlast : ∃ front d, cs = front ++ [d] ∧ d ≠ '\n' :=
    ⟨cs.dropLast, cs.getLast hne, (List.dropLast_concat_getLast hne).symm,
      fun hd => h (hd ▸ List.getLast_mem hne)⟩
  obtain ⟨d, more, rfl⟩ := List.exists_cons_of_ne_nil hne
  refine ⟨d :: more, Cursor.reads_past hrest h, .text hkind String.toList_ofList hlast ?_⟩
  show Span.mk s.cursor.lastLine _ _ _ = _
  rw [lastLine_of_rest hrest]

theorem word_reads {kind : TokenKind} {first : Char} {rest : List Char} (hkind : kind.isEdge = false)
    (hrest : s.cursor.rest = first :: rest) (hfirst : first ≠ '\n') :
    (s.take kind (first :: rest.takeWhile isWordChar) (rest.dropWhile isWordChar)).ReadsFrom
      s.cursor := by
  refine take_reads hkind ?_ (List.cons_ne_nil _ _) ?_
  · rw [hrest, List.cons_append, List.takeWhile_append_dropWhile]
  · rw [List.mem_cons, not_or]
    refine ⟨Ne.symm hfirst, fun hmem => ?_⟩
    exact absurd (List.all_eq_true.1 List.all_takeWhile _ hmem) (by decide)

theorem number_reads {first : Char} {rest left : List Char}
    (hrest : s.cursor.rest = first :: rest) (hfirst : first ≠ '\n') (h : Leaves rest left) :
    (s.take .number (s.cursor.rest.take (s.cursor.rest.length - left.length)) left).ReadsFrom
      s.cursor := by
  obtain ⟨hread, hfeed⟩ := (hrest ▸ Leaves.cons hfirst h : Leaves s.cursor.rest left).take_eq
  refine take_reads rfl hread (fun hnil => ?_) hfeed
  obtain ⟨read, rfl, -⟩ := h
  rw [hnil, hrest] at hread
  have hlength := congrArg List.length hread
  simp only [List.nil_append, List.length_cons, List.length_append] at hlength
  omega

theorem quoted_reads {first : Char} {rest : List Char} {letters : Nat} {stop : Cursor}
    (hrest : s.cursor.rest = first :: rest)
    (h : quotePrefix false false false false s.cursor.rest = some letters)
    (hstop : quotedEnd (s.cursor.past (s.cursor.rest.take letters) (s.cursor.rest.drop letters)) =
      some stop) :
    (Step.emit (s.mark .string
      (String.ofList (s.cursor.rest.take (s.cursor.rest.length - stop.rest.length))) stop)
      { s with cursor := stop }).ReadsFrom s.cursor := by
  obtain ⟨hletters, quote, behind, hdrop, hquote⟩ := quotePrefix_quote h
  have hfront := Cursor.reads_past (List.take_append_drop letters s.cursor.rest).symm hletters
  obtain ⟨read, hread⟩ := quotedEnd_reads (c := s.cursor.past _ _) hdrop hquote hstop
  have hall := hfront.trans hread
  rw [← List.append_assoc] at hall
  refine ⟨_, hall, .text rfl ?_ ⟨_, quote, rfl, ?_⟩ ?_⟩
  · show (String.ofList _).toList = _
    rw [String.toList_ofList, hall.take_eq]
  · rcases hquote with rfl | rfl <;> decide
  · show Span.mk s.cursor.lastLine _ _ _ = _
    rw [lastLine_of_rest hrest]

theorem markLength_pos (cs : List Char) : 0 < markLength cs := by
  fun_cases markLength cs <;> decide

theorem mark_reads {first : Char} {rest : List Char} (hrest : s.cursor.rest = first :: rest)
    (hfirst : first ≠ '\n') (brackets : List (Char × Nat)) :
    (({ s with brackets } : Scanner).take .mark (s.cursor.rest.take (markLength s.cursor.rest))
      (s.cursor.rest.drop (markLength s.cursor.rest))).ReadsFrom s.cursor := by
  refine take_reads (s := { s with brackets }) rfl (List.take_append_drop _ _).symm ?_ ?_
  · rw [hrest, ← Nat.succ_pred_eq_of_pos (markLength_pos (first :: rest)), List.take_succ_cons]
    exact List.cons_ne_nil _ _
  · rw [hrest]
    exact markLength_not_feed hfirst

theorem ReadsOn.reads {step : Step} (h : s.ReadsOn step) : step.ReadsFrom s.cursor := by
  cases h with
  | stop => trivial
  | finish => exact ⟨[], .refl _, .edge rfl (by decide : TokenKind.endMarker ≠ .newline) rfl⟩
  | blank hrest hc =>
    refine ⟨_, Cursor.reads_past hrest ?_⟩
    rcases hc with rfl | rfl | rfl <;> decide
  | comment =>
    exact ⟨_, Cursor.reads_past List.takeWhile_append_dropWhile.symm (feed_not_mem_takeWhile _)⟩
  | feed hrest => exact ⟨_, Cursor.reads_feed hrest⟩
  | newline hrest => exact ⟨_, Cursor.reads_feed hrest, .lineEnd rfl rfl rfl⟩
  | joined hrest => exact ⟨_, Cursor.reads_joined hrest⟩
  | quoted hrest hletters hstop => exact quoted_reads hrest hletters hstop
  | number hrest hc hend =>
    have hfirst := hc.elim ne_feed_of_isDigit fun h => h ▸ (by decide : '.' ≠ '\n')
    exact number_reads hrest hfirst (hend.elim numberEnd_leaves fractionEnd_leaves)
  | word hrest hc hkind =>
    refine word_reads (hkind.elim (· ▸ rfl) (· ▸ rfl)) hrest ?_
    rintro rfl
    exact absurd hc (by decide)
  | mark hrest hlow _ brackets =>
    refine mark_reads hrest ?_ brackets
    rintro rfl
    exact absurd hlow (by decide)

theorem Moves.reads {step : Step} (h : s.Moves step) : step.ReadsFrom s.cursor := by
  cases h with
  | indent _ h =>
    cases h with
    | stop => trivial
    | skip hmargin hnext =>
      obtain ⟨read, hread⟩ := measure_reads hmargin
      exact ⟨read, hnext ▸ hread⟩
  | edge hkind _ hnext =>
    rcases hkind with rfl | rfl
    · exact ⟨[], hnext ▸ .refl _, .edge rfl (by decide : TokenKind.indent ≠ .newline) rfl⟩
    · exact ⟨[], hnext ▸ .refl _, .edge rfl (by decide : TokenKind.dedent ≠ .newline) rfl⟩
  | read _ _ _ h => exact h.reads

/-- **A step reads on from its cursor.** -/
theorem step_reads : s.step.ReadsFrom s.cursor := s.step_cases.reads

end Scanner

/-! ## The whole text -/

/-- The tokens that are cut from a cursor on, one after the other, with something skipped between
    them. -/
inductive CutFrom : Cursor → List Token → Prop
  | nil (c : Cursor) : CutFrom c []
  | cons {c c₁ c₂ : Cursor} {gap read : List Char} {t : Token} {ts : List Token}
      (hgap : c.Reads gap c₁) (hread : c₁.Reads read c₂) (ht : t.Takes c₁ read c₂)
      (hts : CutFrom c₂ ts) : CutFrom c (t :: ts)

theorem CutFrom.skip {c c' : Cursor} {read : List Char} {ts : List Token} (hread : c.Reads read c')
    (h : CutFrom c' ts) : CutFrom c ts := by
  cases h with
  | nil => exact .nil c
  | cons hgap htoken ht hts => exact .cons (hread.trans hgap) htoken ht hts

/-- **A scanner cuts its tokens from its cursor on.** -/
theorem Scanner.Emits.cut {s : Scanner} {ts : List Token} (h : s.Emits ts) : CutFrom s.cursor ts := by
  induction h with
  | stop s => exact .nil s.cursor
  | @skip s next ts hstep _ ih =>
    have hreads := s.step_reads
    rw [hstep] at hreads
    obtain ⟨read, hread⟩ := hreads
    exact ih.skip hread
  | @emit s next token ts hstep _ ih =>
    have hreads := s.step_reads
    rw [hstep] at hreads
    obtain ⟨read, hread, htoken⟩ := hreads
    exact .cons (.refl _) hread htoken ih

theorem tokenize_cut (line : Nat) (text : List Char) :
    CutFrom ⟨text, line, 0⟩ (tokenize line text).tokens.toList := by
  obtain ⟨s, hs, hemits⟩ := tokenize_emits line text
  exact hs ▸ hemits.cut

/-- A token with text stands where its span says, and does not end with a line. -/
theorem CutFrom.stands {c : Cursor} {ts : List Token} (h : CutFrom c ts) {t : Token} (ht : t ∈ ts)
    (htext : t.text ≠ "") : ∃ before after, c.rest = before ++ (t.text.toList ++ after) ∧
      (⟨t.span.line, t.span.column⟩ : Place) = c.place.past before ∧
      (⟨t.span.endLine, t.span.endColumn⟩ : Place) = c.place.past (before ++ t.text.toList) ∧
      ∃ front d, t.text.toList = front ++ [d] ∧ d ≠ '\n' := by
  induction h with
  | nil => exact absurd ht List.not_mem_nil
  | @cons c c₁ c₂ gap read u us hgap hread hu hus ih =>
    rcases List.mem_cons.1 ht with rfl | hmem
    · cases hu with
      | lineEnd _ hempty => exact absurd hempty htext
      | edge _ _ hempty => exact absurd hempty htext
      | text _ hread' hlast hspan =>
        subst hread'
        refine ⟨gap, c₂.rest, by rw [hgap.1, hread.1], ?_, ?_, hlast⟩
        · rw [hspan, ← hgap.2]
          rfl
        · rw [hspan, Place.past_append, ← hgap.2, ← hread.2]
          rfl
    · obtain ⟨before, after, hrest, hstart, hstop, hlast⟩ := ih hmem
      have hfront := hgap.trans hread
      refine ⟨gap ++ read ++ before, after, ?_, ?_, ?_, hlast⟩
      · rw [hfront.1, hrest, List.append_assoc (gap ++ read)]
      · rw [hstart, Place.past_append, ← hfront.2]
      · rw [hstop, List.append_assoc (gap ++ read), c.place.past_append (gap ++ read), ← hfront.2]

/-! ## Lines of code -/

/-- The line that is read at a place, and the part of it before the place. -/
theorem line_at_place {before rest : List Char} (h : '\r' ∉ before ++ rest) (p : Place) :
    ∃ k front, (front <:+ before ∧ (k = 0 → front = before)) ∧
      p.past before = ⟨p.line + k, (if k = 0 then p.column else 0) + byteLength front⟩ ∧
      (Text.cutLines Text.endsCodeLine (before ++ rest)).getD k [] =
        front ++ rest.takeWhile (· ≠ '\n') := by
  induction before generalizing p with
  | nil => exact ⟨0, [], ⟨List.suffix_rfl, fun _ => rfl⟩, rfl, Text.getD_cutLines_zero h⟩
  | cons c before ih =>
    rw [List.cons_append, List.mem_cons, not_or] at h
    -- behind a line feed the lines are counted from the next one; else `c` stands on the first
    by_cases hfeed : c = '\n'
    · obtain ⟨k, front, hfront, hplace, hline⟩ := ih h.2 ⟨p.line + 1, 0⟩
      refine ⟨k + 1, front, ⟨hfront.1.trans (List.suffix_cons c before), nofun⟩, ?_, ?_⟩
      · rw [hfeed, Place.past_feed, hplace, ite_self, Nat.add_assoc, Nat.add_comm 1 k]
        rfl
      · rw [hfeed, List.cons_append, Text.cutLines_feed rfl]
        exact hline
    · obtain ⟨k, front, hfront, hplace, hline⟩ := ih h.2 ⟨p.line, p.column + c.utf8Size⟩
      have hends : Text.endsCodeLine c = false := Text.endsCodeLine_eq_false.2 ⟨hfeed, Ne.symm h.1⟩
      rw [List.cons_append, Text.cutLines_cons rfl hends, Place.past_cons _ hfeed, hplace]
      cases k with
      | zero =>
        refine ⟨0, c :: front, ?_, ?_, ?_⟩
        · rw [hfront.2 rfl]
          exact ⟨List.suffix_rfl, fun _ => rfl⟩
        · rw [if_pos rfl, if_pos rfl, byteLength, Nat.add_assoc]
        · rw [List.cons_append, ← hline]
          cases Text.cutLines Text.endsCodeLine (before ++ rest) <;> rfl
      | succ k =>
        refine ⟨k + 1, front, ⟨hfront.1.trans (List.suffix_cons c before), nofun⟩, rfl, ?_⟩
        rw [← hline]
        cases Text.cutLines Text.endsCodeLine (before ++ rest) <;> rfl

/-- The line of code at a place of a closed text, and its parts before and behind the place. -/
theorem codeLine_at_place {text : String} {before rest : List Char}
    (h : closeLastLine text.toList = before ++ rest) {p : Place}
    (hp : p = (⟨1, 0⟩ : Place).past before) :
    ∃ front, byteLength front = p.column ∧ front <:+ before ∧
      (Text.codeLine text p.line).toList = front ++ rest.takeWhile (· ≠ '\n') := by
  have hreturn := Text.not_return_mem_closeLastLine text.toList
  rw [h] at hreturn
  obtain ⟨k, front, hfront, hplace, hline⟩ := line_at_place hreturn ⟨1, 0⟩
  rw [hp, hplace]
  refine ⟨front, ?_, hfront.1, ?_⟩
  · rw [ite_self, Nat.zero_add]
  · rw [Text.codeLine_eq, String.toList_ofList, Nat.add_sub_cancel_left,
      ← Text.getD_cutLines_closeLastLine, h, hline]

/-- A token as it stands in a text. On the line of code where its span begins, its text, as far as it
    is on that line, stands at the column of the span; on the line where the span ends, what stands
    before that column is not nothing and ends like the token. -/
structure Token.StandsIn (t : Token) (text : String) : Prop where
  begins : ∃ front back, byteLength front = t.span.column ∧
    (Text.codeLine text t.span.line).toList =
      front ++ t.text.toList.takeWhile (· ≠ '\n') ++ back
  ends : ∃ front back, front ≠ [] ∧ byteLength front = t.span.endColumn ∧
    (Text.codeLine text t.span.endLine).toList = front ++ back ∧
    (t.text.toList <:+ front ∨ front <:+ t.text.toList)

/-- **Spans count lines of code.** Every token with text stands on the lines that its span says. -/
theorem token_standsIn (text : String) {t : Token}
    (ht : t ∈ (tokenize 1 (closeLastLine text.toList)).tokens) (htext : t.text ≠ "") :
    t.StandsIn text := by
  obtain ⟨before, after, hrest, hstart, hstop, inner, d, hlast, hd⟩ :=
    (tokenize_cut 1 (closeLastLine text.toList)).stands ht.val htext
  constructor
  · obtain ⟨front, hfront, -, hline⟩ := codeLine_at_place hrest hstart
    rw [List.takeWhile_append] at hline
    split at hline
    · rename_i hwhole
      refine ⟨front, after.takeWhile (· ≠ '\n'), hfront, ?_⟩
      rw [(List.takeWhile_prefix _).eq_of_length hwhole, List.append_assoc]
      exact hline
    · exact ⟨front, [], hfront, by rw [List.append_nil]; exact hline⟩
  · obtain ⟨front, hfront, hsuffix, hline⟩ := codeLine_at_place
      (hrest.trans (List.append_assoc _ _ _).symm) hstop
    refine ⟨front, _, ?_, hfront, hline,
      List.suffix_or_suffix_of_suffix (List.suffix_append before t.text.toList) hsuffix⟩
    -- the column behind the last character of the token is not the first of its line
    have hcolumn : (⟨t.span.endLine, t.span.endColumn⟩ : Place) =
        ((⟨1, 0⟩ : Place).past (before ++ inner)).past [d] := by
      rw [hstop, hlast, ← List.append_assoc, Place.past_append]
      rfl
    rw [Place.past_cons _ hd] at hcolumn
    rintro rfl
    have hzero : t.span.endColumn = _ + d.utf8Size := congrArg Place.column hcolumn
    have hpos := d.utf8Size_pos
    have hempty : 0 = t.span.endColumn := hfront
    omega

end RecordLens.Code
