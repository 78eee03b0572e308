import Mathlib.Data.List.TakeWhile
import RecordLens.Proofs.StatementPlaces
import RecordLens.Proofs.TokenPlaces
/-!
The lines of tokens and of definitions. Tokens stand in the order in which they are cut, a line end
parts those before it from those behind it, and comment lines at the top hold no tokens; so of two
definitions that are read one after the other, the second begins on a later line.

* `CutFrom.line_le`, `CutFrom.pairwise_line_le`: tokens in order.
* `CutFrom.endLine_lt_line`: tokens on both sides of a line end.
* `Spread.line_lt`: definitions begin on rising lines.
* `cut_below_comments`: the tokens below comment lines.
-/
namespace RecordLens.Code

open Reading

/-! ## Tokens in order -/

theorem Place.line_le_past (p : Place) (cs : List Char) : p.line ≤ (p.past cs).line := by
  induction cs generalizing p with
  | nil => exact Nat.le_refl _
  | cons c cs ih =>
    rw [past]
    split
    · exact Nat.le_trans (Nat.le_succ _) (ih ⟨p.line + 1, 0⟩)
    · exact ih ⟨p.line, p.column + c.utf8Size⟩

theorem Cursor.Reads.line_le {c c' : Cursor} {cs : List Char} (h : c.Reads cs c') :
    c.line ≤ c'.line := by
  have hpast : c'.line = (c.place.past cs).line := congrArg Place.line h.2
  rw [hpast]
  exact c.place.line_le_past cs

theorem mem_of_getElem? {tokens : Array Token} {a : Nat} {t : Token} (ht : tokens[a]? = some t) :
    t ∈ tokens.toList :=
  List.mem_of_getElem? (Array.getElem?_toList ▸ ht)

namespace CutFrom

variable {c : Cursor} {ts : List Token}

theorem text_ne_iff (h : CutFrom c ts) {t : Token} (ht : t ∈ ts) :
    t.text ≠ "" ↔ t.kind.isEdge = false := by
  induction h with
  | nil => exact absurd ht List.not_mem_nil
  | cons _ _ hu _ ih =>
    rcases List.mem_cons.1 ht with rfl | ht
    · cases hu with
      | lineEnd hkind htext => simp [htext, hkind, TokenKind.isEdge]
      | edge hkind _ htext => simp [htext, hkind]
      | text hkind htext hlast _ =>
        obtain ⟨front, d, hread, -⟩ := hlast
        refine iff_of_true (fun hempty => ?_) hkind
        rw [hempty] at htext
        rw [← htext] at hread
        exact absurd hread.symm (List.append_ne_nil_of_right_ne_nil _ (List.cons_ne_nil d []))
    · exact ih ht

theorem line_le (h : CutFrom c ts) {t : Token} (ht : t ∈ ts) (htext : t.text ≠ "") :
    c.line ≤ t.span.line ∧ t.span.line ≤ t.span.endLine := by
  induction h with
  | nil => exact absurd ht List.not_mem_nil
  | cons hgap hread hu _ ih =>
    rcases List.mem_cons.1 ht with rfl | ht
    · cases hu with
      | lineEnd _ hempty => exact absurd hempty htext
      | edge _ _ hempty => exact absurd hempty htext
      | text _ _ _ hspan =>
        rw [hspan]
        exact ⟨hgap.line_le, hread.line_le⟩
    · have hrest := ih ht
      exact ⟨Nat.le_trans (Nat.le_trans hgap.line_le hread.line_le) hrest.1, hrest.2⟩

theorem pairwise_line_le (h : CutFrom c ts) :
    ts.Pairwise fun t u => t.text ≠ "" → u.text ≠ "" → t.span.endLine ≤ u.span.line := by
  induction h with
  | nil => exact .nil
  | cons hgap hread ht hts ih =>
    refine .cons (fun u hu htext hutext => ?_) ih
    cases ht with
    | lineEnd _ hempty => exact absurd hempty htext
    | edge _ _ hempty => exact absurd hempty htext
    | text _ _ _ hspan =>
      rw [hspan]
      exact (hts.line_le hu hutext).1

/-- What is cut behind a line end is cut from a later line than what stands before it. -/
theorem behind_newline (h : CutFrom c ts) {m : Nat} {u : Token} (hu : ts[m]? = some u)
    (hkind : u.kind = .newline) : ∃ c', CutFrom c' (ts.drop (m + 1)) ∧ c.line < c'.line ∧
      ∀ t ∈ ts.take m, t.text ≠ "" → t.span.endLine < c'.line := by
  -- on the tokens before the line end: reading on from one of them never leads back to an earlier line
  induction h generalizing m with
  | nil => exact absurd hu nofun
  | @cons c c₁ c₂ gap read t ts hgap hread ht hts ih =>
    cases m with
    | zero =>
      obtain rfl := Option.some.inj hu
      refine ⟨c₂, hts, ?_, nofun⟩
      cases ht with
      | lineEnd _ _ hfeed =>
        have hline : c₂.line = (c₁.place.past ['\n']).line := hfeed ▸ congrArg Place.line hread.2
        have hnext : (c₁.place.past ['\n']).line = c₁.line + 1 := by
          rw [Place.past_feed]
          rfl
        have hle := hgap.line_le
        omega
      | edge _ hnot _ => exact absurd hkind hnot
      | text hedge _ _ _ =>
        rw [hkind] at hedge
        exact absurd hedge (by decide)
    | succ m =>
      obtain ⟨c', hcut, hlt, hbefore⟩ := ih hu
      have hle := Nat.le_trans hgap.line_le hread.line_le
      refine ⟨c', hcut, Nat.lt_of_le_of_lt hle hlt, fun v hv hvtext => ?_⟩
      rcases List.mem_cons.1 hv with rfl | hv
      · cases ht with
        | lineEnd _ hempty => exact absurd hempty hvtext
        | edge _ _ hempty => exact absurd hempty hvtext
        | text _ _ _ hspan =>
          rw [hspan]
          exact hlt
      · exact hbefore v hv hvtext

variable {tokens : Array Token}

/-- **A line end parts tokens.** -/
theorem endLine_lt_line (h : CutFrom c tokens.toList) {l m a : Nat} {t u : Token}
    (ht : tokens[l]? = some t) (htext : t.text ≠ "") (hlm : l < m) (hm : EndsLine tokens m)
    (hma : m < a) (hu : tokens[a]? = some u) (hutext : u.text ≠ "") :
    t.span.endLine < u.span.line := by
  obtain ⟨v, hv, hkind⟩ := hm
  rw [← Array.getElem?_toList] at ht hv hu
  obtain ⟨c', hcut, -, hbefore⟩ := h.behind_newline hv hkind
  have htake : t ∈ tokens.toList.take m :=
    List.mem_of_getElem? ((List.getElem?_take_of_lt hlm).trans ht)
  have hdrop : u ∈ tokens.toList.drop (m + 1) :=
    List.mem_of_getElem? (i := a - (m + 1)) (by rwa [List.getElem?_drop, Nat.add_sub_cancel' hma])
  exact Nat.lt_of_lt_of_le (hbefore t htake htext) (hcut.line_le hdrop hutext).1

theorem line_le_endLine (h : CutFrom c tokens.toList) {a l : Nat} {t u : Token}
    (ht : tokens[a]? = some t) (htext : t.text ≠ "") (hal : a ≤ l) (hu : tokens[l]? = some u)
    (hutext : u.text ≠ "") : t.span.line ≤ u.span.endLine := by
  have hfirst := (h.line_le (mem_of_getElem? ht) htext).2
  rcases Nat.eq_or_lt_of_le hal with rfl | hlt
  · obtain rfl := Option.some.inj (ht.symm.trans hu)
    exact hfirst
  · rw [← Array.getElem?_toList] at ht hu
    obtain ⟨ha, rfl⟩ := List.getElem?_eq_some_iff.1 ht
    obtain ⟨hl, rfl⟩ := List.getElem?_eq_some_iff.1 hu
    have hle := List.pairwise_iff_getElem.1 h.pairwise_line_le a l ha hl hlt htext hutext
    exact Nat.le_trans hfirst (Nat.le_trans hle (h.line_le (List.getElem_mem hl) hutext).2)

end CutFrom

/-! ## Last tokens -/

theorem lastSpan_succ {tokens : Array Token} {n : Nat} {t : Token} (h : tokens[n]? = some t) :
    lastSpan tokens (n + 1) = if t.kind.isEdge = true then lastSpan tokens n else t.span := by
  rw [lastSpan, h]
  dsimp only
  cases t.kind <;> rfl

theorem lastSpan_eq (tokens : Array Token) (b : Nat) : lastSpan tokens b = default ∨
    ∃ l t, l < b ∧ tokens[l]? = some t ∧ t.kind.isEdge = false ∧ lastSpan tokens b = t.span := by
  induction b with
  | zero => exact .inl rfl
  | succ n ih =>
    cases ht : tokens[n]? with
    | none =>
      rw [lastSpan, ht]
      exact .inl rfl
    | some t =>
      rw [lastSpan_succ ht]
      split
      · rcases ih with hnone | ⟨l, u, hl, hu⟩
        · exact .inl hnone
        · exact .inr ⟨l, u, Nat.lt_succ_of_lt hl, hu⟩
      · rename_i hedge
        exact .inr ⟨n, t, Nat.lt_succ_self n, ht, Bool.not_eq_true _ ▸ hedge, rfl⟩

theorem lastSpan_of_lt {tokens : Array Token} {a b : Nat} {first : Token}
    (hfirst : tokens[a]? = some first) (hedge : first.kind.isEdge = false) (hab : a < b)
    (hb : b ≤ tokens.size) : ∃ l t, a ≤ l ∧ l < b ∧ tokens[l]? = some t ∧ t.kind.isEdge = false ∧
      lastSpan tokens b = t.span := by
  induction b with
  | zero => omega
  | succ n ih =>
    have ht : tokens[n]? = some tokens[n] := Array.getElem?_eq_getElem (by omega)
    rw [lastSpan_succ ht]
    split
    · rename_i hlast
      have hne : a ≠ n := by
        rintro rfl
        obtain rfl := Option.some.inj (hfirst.symm.trans ht)
        exact absurd (hedge.symm.trans hlast) Bool.false_ne_true
      obtain ⟨l, t, hal, hln, hfound⟩ := ih (by omega) (by omega)
      exact ⟨l, t, hal, Nat.lt_succ_of_lt hln, hfound⟩
    · rename_i hlast
      exact ⟨n, _, Nat.le_of_lt_succ hab, Nat.lt_succ_self n, ht, Bool.not_eq_true _ ▸ hlast, rfl⟩

/-! ## Definitions in order -/

namespace Spread

variable {tokens : Array Token} {c : Cursor} {lo hi : Nat} {spans : List Span}

theorem tokens_of_mem (h : Spread tokens lo spans hi) (hcut : CutFrom c tokens.toList) {span : Span}
    (hspan : span ∈ spans) : ∃ a first l last, lo ≤ a ∧ a ≤ l ∧ tokens[a]? = some first ∧
      tokens[l]? = some last ∧ first.text ≠ "" ∧ last.text ≠ "" ∧ span = first.span.to last.span := by
  induction h with
  | nil => exact absurd hspan List.not_mem_nil
  | @cons lo a m b hi first rest hlo hfirst htext ham _ hmb hsize _ _ ih =>
    rcases List.mem_cons.1 hspan with rfl | hrest
    · obtain ⟨l, last, hal, -, hlast, hedge, heq⟩ := lastSpan_of_lt hfirst
        ((hcut.text_ne_iff (mem_of_getElem? hfirst)).1 htext) (by omega : a < b) hsize
      exact ⟨a, first, l, last, hlo, hal, hfirst, hlast, htext,
        (hcut.text_ne_iff (mem_of_getElem? hlast)).2 hedge, by rw [heq]⟩
    · obtain ⟨a', first', l, last, hlo', hmore⟩ := ih hrest
      exact ⟨a', first', l, last, by omega, hmore⟩

/-- Definitions behind a line end begin on later lines than what ends before it. -/
theorem endLine_lt {m : Nat} (h : Spread tokens (m + 1) spans hi) (hcut : CutFrom c tokens.toList)
    (hm : EndsLine tokens m) {l : Nat} {t : Token} (ht : tokens[l]? = some t) (htext : t.text ≠ "")
    (hlm : l < m) {span : Span} (hspan : span ∈ spans) : t.span.endLine < span.line := by
  obtain ⟨a, first, _, _, hlo, -, hfirst, -, hfirsttext, -, rfl⟩ := h.tokens_of_mem hcut hspan
  exact hcut.endLine_lt_line ht htext hlm hm hlo hfirst hfirsttext

/-- **Definitions begin on rising lines.** -/
theorem line_lt (h : Spread tokens lo spans hi) (hcut : CutFrom c tokens.toList) :
    spans.Pairwise fun s t => s.line < t.line := by
  induction h with
  | nil => exact .nil
  | cons _ hfirst htext ham hend _ _ _ hrest ih =>
    refine .cons (fun span hspan => ?_) ih
    exact Nat.lt_of_le_of_lt (hcut.line_le (mem_of_getElem? hfirst) htext).2
      (hrest.endLine_lt hcut hend hfirst htext ham hspan)

end Spread

/-! ## Comment lines at the top -/

theorem ne_feed_of_not_mem {cs : List Char} (h : '\n' ∉ cs) : ∀ c ∈ cs, decide (c ≠ '\n') = true := by
  intro c hc
  rw [decide_eq_true_eq]
  rintro rfl
  exact h hc

namespace Scanner

/-- The scanner at the start of a line, with no block open. -/
def start (line : Nat) (text : List Char) : Scanner :=
  { cursor := ⟨text, line, 0⟩, fresh := true, blank := false, indents := [(0, 0)],
    opening := false, closing := 0, brackets := [] }

/-- The scanner on a line without code. -/
def within (line column : Nat) (text : List Char) : Scanner :=
  { start line text with cursor := ⟨text, line, column⟩, fresh := false, blank := true }

theorem run_skip {s next : Scanner} (h : s.step = .skip next) (fuel : Nat) (before : List Token) :
    (s.run fuel before).tokens = (next.run (fuel - 1) before).tokens := by
  cases fuel with
  | zero => rfl
  | succ fuel =>
    rw [run, h]
    rfl

variable {line column : Nat}

theorem step_start_comment (cs : List Char) :
    (start line ('#' :: cs)).step = .skip (within line 0 ('#' :: cs)) := rfl

theorem step_within_comment (cs : List Char) : (within line column ('#' :: cs)).step =
    .skip (within line (column + Text.byteLength (('#' :: cs).takeWhile (· ≠ '\n')))
      (('#' :: cs).dropWhile (· ≠ '\n'))) := rfl

theorem step_within_feed (cs : List Char) :
    (within line column ('\n' :: cs)).step = .skip (start (line + 1) cs) := rfl

theorem run_within_nil (fuel : Nat) (c : Cursor) :
    CutFrom c ((within line column []).run fuel []).tokens.toList := by
  cases fuel with
  | zero => exact .nil c
  | succ fuel =>
    refine .cons (.refl c) (.refl c) (.edge rfl ?_ rfl) (.nil c)
    show TokenKind.endMarker ≠ .newline
    decide

variable {front : List Char} (hfront : '\n' ∉ front) (hhash : front.head? = some '#')
include hfront hhash

theorem run_comment (line fuel : Nat) (rest : List Char) :
    ((start line (front ++ '\n' :: rest)).run fuel []).tokens =
      ((start (line + 1) rest).run (fuel - 1 - 1 - 1) []).tokens := by
  obtain ⟨more, rfl⟩ : ∃ more, front = '#' :: more := List.head?_eq_some_iff.1 hhash
  have hback : ('#' :: more ++ '\n' :: rest).dropWhile (· ≠ '\n') = '\n' :: rest := by
    rw [List.dropWhile_append_of_pos (ne_feed_of_not_mem hfront)]
    rfl
  -- a step for the start of the line, one for the comment, and one for the line feed
  rw [List.cons_append, run_skip (step_start_comment _), run_skip (step_within_comment _),
    ← List.cons_append, hback, run_skip (step_within_feed rest)]

theorem run_last_comment (line fuel : Nat) (c : Cursor) :
    CutFrom c ((start line front).run fuel []).tokens.toList := by
  obtain ⟨more, rfl⟩ : ∃ more, front = '#' :: more := List.head?_eq_some_iff.1 hhash
  have hback : ('#' :: more).dropWhile (· ≠ '\n') = [] :=
    List.dropWhile_eq_nil_iff.2 (ne_feed_of_not_mem hfront)
  rw [run_skip (step_start_comment _), run_skip (step_within_comment _), hback]
  exact run_within_nil _ c

end Scanner

theorem takeWhile_feed {front : List Char} (hfront : '\n' ∉ front) (rest : List Char) :
    (front ++ '\n' :: rest).takeWhile (· ≠ '\n') = front := by
  rw [List.takeWhile_append_of_pos (ne_feed_of_not_mem hfront)]
  exact List.append_nil front

/-- **Comment lines hold no tokens**: below them the tokens are cut from the line behind the last one
    of them on. -/
theorem cut_below_comments {text : List Char} (hreturn : '\r' ∉ text) (count line fuel : Nat)
    (h : ∀ k < count, ((Text.cutLines Text.endsCodeLine text).getD k []).head? = some '#') :
    ∃ c : Cursor, c.line = line + count ∧
      CutFrom c ((Scanner.start line text).run fuel []).tokens.toList := by
  induction count generalizing text line fuel with
  | zero =>
    obtain ⟨ts, hts, hemits⟩ := (Scanner.start line text).run_emits fuel []
    exact ⟨_, rfl, by rw [hts]; exact hemits.cut⟩
  | succ count ih =>
    have hfirst := h 0 (Nat.succ_pos count)
    rw [Text.getD_cutLines_zero hreturn] at hfirst
    by_cases hfeed : '\n' ∈ text
    · obtain ⟨front, rest, rfl, hfront⟩ := List.eq_append_cons_of_mem hfeed
      rw [takeWhile_feed hfront] at hfirst
      rw [List.mem_append, List.mem_cons, not_or, not_or] at hreturn
      have hends : ∀ d ∈ front, Text.endsCodeLine d = false := fun d hd =>
        Text.endsCodeLine_eq_false.2 ⟨fun h => hfront (h ▸ hd), fun h => hreturn.1 (h ▸ hd)⟩
      obtain ⟨c, hc, hcut⟩ := ih hreturn.2.2 (line + 1) (fuel - 1 - 1 - 1) fun k hk => by
        have hline := h (k + 1) (Nat.succ_lt_succ hk)
        rwa [Text.cutLines_append_feed rfl rfl, Text.cutLines_feed_eq rfl rfl hends] at hline
      refine ⟨c, by omega, ?_⟩
      rw [Scanner.run_comment hfront hfirst]
      exact hcut
    · have hwhole : text.takeWhile (· ≠ '\n') = text :=
        List.takeWhile_eq_self_iff.2 (ne_feed_of_not_mem hfeed)
      rw [hwhole] at hfirst
      exact ⟨⟨[], line + (count + 1), 0⟩, rfl, Scanner.run_last_comment hfeed hfirst line fuel _⟩

end RecordLens.Code
