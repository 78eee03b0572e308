import RecordLens.Code.Lexer
import RecordLens.Proofs.Lines
/-!
Displayed lines and lines of code. They are the same exactly where no character ends a displayed line
but no line of code; lines of code are those between the line feeds of the text that is cut into
tokens.

* `displayLines_eq_codeLines_iff`: the two ways of cutting agree.
* `cutLines_unifyLineEnds`: unifying line ends changes no line of code.
* `getD_cutLines_closeLastLine`: the lines of the text that is cut into tokens.
* `codeLine`: the line of code with a number.
-/
namespace RecordLens.Text

/-- No character of the text ends a displayed line without ending a line of code. -/
def PlainEnds (text : String) : Prop :=
  ∀ c ∈ text.toList, endsDisplayLine c = true → endsCodeLine c = true

instance (text : String) : Decidable (PlainEnds text) :=
  List.decidableBAll (fun c => endsDisplayLine c = true → endsCodeLine c = true) text.toList

theorem endsDisplayLine_of_endsCodeLine {c : Char} (h : endsCodeLine c = true) :
    endsDisplayLine c = true := by
  simp only [endsCodeLine, Bool.or_eq_true, decide_eq_true_eq] at h
  rcases h with rfl | rfl <;> rfl

theorem endsCodeLine_eq_false {c : Char} : endsCodeLine c = false ↔ c ≠ '\n' ∧ c ≠ '\r' := by
  rw [endsCodeLine, Bool.or_eq_false_iff, decide_eq_false_iff_not, decide_eq_false_iff_not]

section
variable {ends : Char → Bool}

theorem cutLines_congr {other : Char → Bool} {cs : List Char}
    (h : ∀ c ∈ cs, ends c = other c) : cutLines ends cs = cutLines other cs := by
  fun_induction cutLines ends cs with
  | case1 => rfl
  | case2 rest ih =>
    rw [cutLines_pair, ih (fun c hc => h c (by simp [hc]))]
  | case3 c rest hpair hc ih =>
    rw [cutLines_cons_end (h c List.mem_cons_self ▸ hc) rest hpair,
      ih (fun d hd => h d (List.mem_cons_of_mem c hd))]
  | case4 c rest hpair hc hnil ih =>
    rw [cutLines.eq_3 other c rest hpair, if_neg (h c List.mem_cons_self ▸ hc),
      ← ih (fun d hd => h d (List.mem_cons_of_mem c hd)), hnil]
  | case5 c rest hpair hc line lines hlines ih =>
    rw [cutLines.eq_3 other c rest hpair, if_neg (h c List.mem_cons_self ▸ hc),
      ← ih (fun d hd => h d (List.mem_cons_of_mem c hd)), hlines]

theorem mem_of_mem_cutLines {cs l : List Char} {c : Char} (hl : l ∈ cutLines ends cs) (hc : c ∈ l) :
    c ∈ cs := by
  fun_induction cutLines ends cs generalizing l with
  | case1 => exact absurd hl List.not_mem_nil
  | case2 rest ih =>
    rcases List.mem_cons.1 hl with rfl | hl
    · exact absurd hc List.not_mem_nil
    · exact List.mem_cons_of_mem _ (List.mem_cons_of_mem _ (ih hl hc))
  | case3 d rest _ _ ih =>
    rcases List.mem_cons.1 hl with rfl | hl
    · exact absurd hc List.not_mem_nil
    · exact List.mem_cons_of_mem d (ih hl hc)
  | case4 d rest _ _ hnil ih =>
    obtain rfl := List.mem_singleton.1 hl
    obtain rfl := List.mem_singleton.1 hc
    exact List.mem_cons_self
  | case5 d rest _ _ line lines hlines ih =>
    rw [hlines] at ih
    rcases List.mem_cons.1 hl with rfl | hl
    · rcases List.mem_cons.1 hc with rfl | hc
      · exact List.mem_cons_self
      · exact List.mem_cons_of_mem d (ih List.mem_cons_self hc)
    · exact List.mem_cons_of_mem d (ih (List.mem_cons_of_mem line hl) hc)

/-- The more characters end lines, the more lines there are. -/
theorem length_cutLines_le {other : Char → Bool} (h : ∀ c, ends c = true → other c = true)
    (cs : List Char) : (cutLines ends cs).length ≤ (cutLines other cs).length := by
  fun_induction cutLines ends cs with
  | case1 => exact Nat.le_refl _
  | case2 rest ih =>
    rw [cutLines_pair]
    exact Nat.succ_le_succ ih
  | case3 c rest hpair hc ih =>
    rw [cutLines_cons_end (h c hc) rest hpair]
    exact Nat.succ_le_succ ih
  | case4 c rest hpair hc hnil ih =>
    exact List.length_pos_iff.2 (cutLines_ne_nil c rest)
  | case5 c rest hpair hc line lines hlines ih =>
    rw [hlines] at ih
    rw [cutLines.eq_3 other c rest hpair]
    split
    · exact Nat.le_succ_of_le ih
    · split
      next hnone =>
        rw [hnone] at ih
        exact absurd ih (Nat.not_succ_le_zero _)
      next hsome =>
        rw [hsome] at ih
        exact ih

theorem exists_mem_cutLines {cs : List Char} {c : Char} (hmem : c ∈ cs) (hc : ends c = false)
    (hreturn : ends '\r' = true) (hfeed : ends '\n' = true) : ∃ l ∈ cutLines ends cs, c ∈ l := by
  fun_induction cutLines ends cs with
  | case1 => exact absurd hmem List.not_mem_nil
  | case2 rest ih =>
    have hrest : c ∈ rest := by
      rcases List.mem_cons.1 hmem with rfl | hmem
      · exact absurd (hc.symm.trans hreturn) Bool.false_ne_true
      · rcases List.mem_cons.1 hmem with rfl | hmem
        · exact absurd (hc.symm.trans hfeed) Bool.false_ne_true
        · exact hmem
    obtain ⟨l, hl, hcl⟩ := ih hrest
    exact ⟨l, List.mem_cons_of_mem _ hl, hcl⟩
  | case3 d rest hpair hd ih =>
    rcases List.mem_cons.1 hmem with rfl | hrest
    · exact absurd (hc.symm.trans hd) Bool.false_ne_true
    · obtain ⟨l, hl, hcl⟩ := ih hrest
      exact ⟨l, List.mem_cons_of_mem _ hl, hcl⟩
  | case4 d rest hpair hd hnil ih =>
    rcases List.mem_cons.1 hmem with rfl | hrest
    · exact ⟨[c], List.mem_cons_self, List.mem_cons_self⟩
    · obtain ⟨l, hl, -⟩ := ih hrest
      exact absurd hl (by rw [hnil]; exact List.not_mem_nil)
  | case5 d rest hpair hd line lines hlines ih =>
    rcases List.mem_cons.1 hmem with rfl | hrest
    · exact ⟨c :: line, List.mem_cons_self, List.mem_cons_self⟩
    · obtain ⟨l, hl, hcl⟩ := ih hrest
      rw [hlines] at hl
      rcases List.mem_cons.1 hl with rfl | hl
      · exact ⟨d :: l, List.mem_cons_self, List.mem_cons_of_mem d hcl⟩
      · exact ⟨l, List.mem_cons_of_mem _ hl, hcl⟩

end

/-- **Displayed lines are lines of code exactly where their ends are.** -/
theorem displayLines_eq_codeLines_iff (text : String) :
    displayLines text = codeLines text ↔ PlainEnds text := by
  constructor
  · intro h c hc hdisplay
    cases hcode : endsCodeLine c with
    | true => rfl
    | false =>
      obtain ⟨l, hl, hcl⟩ := exists_mem_cutLines hc hcode rfl rfl
      have hshown : String.ofList l ∈ displayLines text := h ▸ List.mem_map_of_mem hl
      obtain ⟨m, hm, hml⟩ := List.mem_map.1 hshown
      obtain rfl : m = l := String.ofList_injective hml
      have hnot := not_ends_of_mem_cutLines text.toList m hm c hcl
      exact absurd (hnot.symm.trans hdisplay) Bool.false_ne_true
  · intro h
    rw [displayLines, codeLines]
    refine congrArg _ (cutLines_congr fun c hc => ?_)
    cases hdisplay : endsDisplayLine c with
    | true => exact (h c hc hdisplay).symm
    | false =>
      refine (Bool.eq_false_iff.2 fun hcode => ?_).symm
      exact absurd (hdisplay.symm.trans (endsDisplayLine_of_endsCodeLine hcode)) Bool.false_ne_true

/-! ## The text that is cut into tokens -/

/-- Unifying line ends changes no line of code. -/
theorem cutLines_unifyLineEnds (cs : List Char) :
    cutLines endsCodeLine (unifyLineEnds cs) = cutLines endsCodeLine cs := by
  fun_induction unifyLineEnds cs with
  | case1 => rfl
  | case2 rest ih => rw [cutLines_feed rfl, cutLines_pair, ih]
  | case3 rest hpair ih =>
    rw [cutLines_feed rfl, cutLines_cons_end rfl rest (fun more _ h => hpair more h), ih]
  | case4 c rest hpair hc ih =>
    by_cases hfeed : c = '\n'
    · rw [hfeed, cutLines_feed rfl, cutLines_feed rfl, ih]
    · have hends : endsCodeLine c = false := endsCodeLine_eq_false.2 ⟨hfeed, hc⟩
      rw [cutLines_cons rfl hends, cutLines_cons rfl hends, ih]

theorem not_return_of_mem_unifyLineEnds (cs : List Char) : ∀ c ∈ unifyLineEnds cs, c ≠ '\r' := by
  fun_induction unifyLineEnds cs with
  | case1 => simp
  | case2 rest ih => simpa using ih
  | case3 rest hpair ih => simpa using ih
  | case4 c rest hpair hc ih => simpa using ⟨hc, ih⟩

theorem cutLines_append_last {ends : Char → Bool} (hfeed : ends '\n' = true)
    (hreturn : ends '\r' = true) {c : Char} (hc : ends c = false) {cs : List Char}
    (hcs : ∀ d ∈ cs, d ≠ '\r') :
    cutLines ends (cs ++ [c] ++ ['\n']) = cutLines ends (cs ++ [c]) := by
  induction cs with
  | nil =>
    show cutLines ends (c :: ['\n']) = cutLines ends (c :: [])
    rw [cutLines_cons hreturn hc, cutLines_cons hreturn hc, cutLines_feed hfeed]
    rfl
  | cons d cs ih =>
    have hd : d ≠ '\r' := hcs d List.mem_cons_self
    specialize ih fun x hx => hcs x (List.mem_cons_of_mem d hx)
    rw [List.cons_append, List.cons_append]
    cases hends : ends d with
    | true =>
      rw [cutLines_cons_end hends _ (fun _ h _ => hd h), cutLines_cons_end hends _ (fun _ h _ => hd h),
        ih]
    | false => rw [cutLines_cons hreturn hends, cutLines_cons hreturn hends, ih]

section
open Code

/-- A text is closed by unifying its line ends and perhaps adding one. -/
theorem closeLastLine_eq (cs : List Char) :
    closeLastLine cs = unifyLineEnds cs ∨ closeLastLine cs = unifyLineEnds cs ++ ['\n'] := by
  unfold closeLastLine
  dsimp only
  split
  · exact .inr rfl
  · exact .inl rfl
  · exact .inr rfl

theorem not_return_mem_closeLastLine (cs : List Char) : '\r' ∉ closeLastLine cs := by
  have hunified : '\r' ∉ unifyLineEnds cs := fun h => not_return_of_mem_unifyLineEnds cs _ h rfl
  rcases closeLastLine_eq cs with h | h
  · rwa [h]
  · rw [h, List.mem_append, not_or]
    exact ⟨hunified, by decide⟩

theorem cutLines_closeLastLine (cs : List Char) :
    cutLines endsCodeLine (closeLastLine cs) = cutLines endsCodeLine cs ∨
      cutLines endsCodeLine (closeLastLine cs) = cutLines endsCodeLine cs ++ [[]] := by
  rw [← cutLines_unifyLineEnds cs]
  have hreturn := not_return_of_mem_unifyLineEnds cs
  rcases closeLastLine_eq cs with hclosed | hclosed
  · exact .inl (by rw [hclosed])
  · rw [hclosed]
    cases hunified : (unifyLineEnds cs).reverse with
    | nil =>
      have hnil : unifyLineEnds cs = [] := List.reverse_eq_nil_iff.1 hunified
      exact .inr (by rw [hnil]; rfl)
    | cons c front =>
      have hsplit : unifyLineEnds cs = front.reverse ++ [c] := by
        rw [← List.reverse_reverse (unifyLineEnds cs), hunified, List.reverse_cons]
      rw [hsplit] at hreturn ⊢
      by_cases hfeed : c = '\n'
      · refine .inr ?_
        rw [hfeed, List.append_assoc, List.singleton_append, cutLines_append_feed rfl rfl]
        rfl
      · refine .inl (cutLines_append_last rfl rfl ?_ fun d hd => hreturn d (by simp [hd]))
        exact endsCodeLine_eq_false.2 ⟨hfeed, hreturn c (by simp)⟩

/-- Closing a text changes none of its lines of code. -/
theorem getD_cutLines_closeLastLine (cs : List Char) (k : Nat) :
    (cutLines endsCodeLine (closeLastLine cs)).getD k [] = (cutLines endsCodeLine cs).getD k [] := by
  rcases cutLines_closeLastLine cs with hsame | hmore
  · rw [hsame]
  · rw [hmore, List.getD_eq_getElem?_getD, List.getD_eq_getElem?_getD, List.getElem?_append]
    split
    · rfl
    · rename_i hlong
      rw [List.getElem?_eq_none (Nat.not_lt.1 hlong), List.getElem?_singleton]
      split <;> rfl

end

theorem length_codeLines_le (text : String) :
    (codeLines text).length ≤ (displayLines text).length := by
  rw [codeLines, displayLines, List.length_map, List.length_map]
  exact length_cutLines_le (fun _ => endsDisplayLine_of_endsCodeLine) _

/-- The line of code with a number, which is empty behind the end of the text. -/
def codeLine (text : String) (line : Nat) : String := (codeLines text).getD (line - 1) ""

theorem codeLine_eq (text : String) (line : Nat) :
    codeLine text line =
      String.ofList ((cutLines endsCodeLine text.toList).getD (line - 1) []) := by
  rw [codeLine, codeLines, List.getD_eq_getElem?_getD, List.getD_eq_getElem?_getD, List.getElem?_map]
  cases (cutLines endsCodeLine text.toList)[line - 1]? <;> rfl

theorem getD_cutLines_zero {cs : List Char} (h : '\r' ∉ cs) :
    (cutLines endsCodeLine cs).getD 0 [] = cs.takeWhile (· ≠ '\n') := by
  induction cs with
  | nil => rfl
  | cons c cs ih =>
    rw [List.mem_cons, not_or] at h
    by_cases hfeed : c = '\n'
    · rw [hfeed, cutLines_feed rfl]
      rfl
    · have hends : endsCodeLine c = false := endsCodeLine_eq_false.2 ⟨hfeed, Ne.symm h.1⟩
      rw [cutLines_cons rfl hends, List.takeWhile_cons, if_pos (by simpa using hfeed), ← ih h.2]
      cases cutLines endsCodeLine cs <;> rfl

end RecordLens.Text
