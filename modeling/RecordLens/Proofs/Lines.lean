import RecordLens.Text.Lines
/-!
Cutting texts into lines and joining them again. A line feed ends a line whatever stands before it, so
the lines of joined texts are the lines of each of them; a text without line ends is one line.

* `cutLines_append_feed`: a text is cut at each line feed.
* `cutLines_feed_eq`: a line with a line feed behind it.
* `not_ends_of_mem_cutLines`: there is no line end within a line.
* `displayLines_joined`: the lines of joined texts.
-/
namespace RecordLens.Text

section
variable {ends : Char → Bool} (hfeed : ends '\n' = true) (hreturn : ends '\r' = true)

theorem cutLines_pair (cs : List Char) :
    cutLines ends ('\r' :: '\n' :: cs) = [] :: cutLines ends cs := by
  rw [cutLines]

/-- A line end that is not the first half of a pair ends the line before it. -/
theorem cutLines_cons_end {c : Char} (hc : ends c = true) (cs : List Char)
    (hpair : ∀ rest, c = '\r' → cs = '\n' :: rest → False) :
    cutLines ends (c :: cs) = [] :: cutLines ends cs := by
  rw [cutLines.eq_3 ends c cs hpair, if_pos hc]

include hfeed in
theorem cutLines_feed (cs : List Char) :
    cutLines ends ('\n' :: cs) = [] :: cutLines ends cs :=
  cutLines_cons_end hfeed cs (fun _ h _ => absurd h (by decide))

include hreturn in
theorem cutLines_cons {c : Char} (hc : ends c = false) (cs : List Char) :
    cutLines ends (c :: cs) =
      (c :: (cutLines ends cs).headD []) :: (cutLines ends cs).tail := by
  have hpair : ∀ rest, c = '\r' → cs = '\n' :: rest → False := by
    rintro rest rfl -
    exact absurd (hc.symm.trans hreturn) (by decide)
  rw [cutLines.eq_3 ends c cs hpair, if_neg (by rw [hc]; exact Bool.false_ne_true)]
  cases cutLines ends cs <;> rfl

theorem cutLines_ne_nil (c : Char) (cs : List Char) : cutLines ends (c :: cs) ≠ [] := by
  by_cases hpair : ∃ rest, c = '\r' ∧ cs = '\n' :: rest
  · obtain ⟨rest, rfl, rfl⟩ := hpair
    rw [cutLines_pair]
    exact List.cons_ne_nil _ _
  · rw [cutLines.eq_3 ends c cs (fun rest hr hn => hpair ⟨rest, hr, hn⟩)]
    split
    · exact List.cons_ne_nil _ _
    · split <;> exact List.cons_ne_nil _ _

include hfeed hreturn in
/-- **A line feed cuts a text in two.** Where a carriage return stands last before it, the two end one
    line on both sides. -/
theorem cutLines_append_feed (cs rest : List Char) : cutLines ends (cs ++ '\n' :: rest) =
    cutLines ends (cs ++ ['\n']) ++ cutLines ends rest := by
  induction cs with
  | nil =>
    rw [List.nil_append, List.nil_append, cutLines_feed hfeed, cutLines_feed hfeed]
    rfl
  | cons c cs ih =>
    rw [List.cons_append, List.cons_append]
    cases hc : ends c with
    | false =>
      have hne : cutLines ends (cs ++ ['\n']) ≠ [] := by
        cases cs with
        | nil => exact cutLines_ne_nil _ _
        | cons d ds => exact cutLines_ne_nil _ _
      obtain ⟨line, lines, hlines⟩ := List.exists_cons_of_ne_nil hne
      rw [cutLines_cons hreturn hc, cutLines_cons hreturn hc, ih, hlines]
      rfl
    | true =>
      -- a return and the line feed behind it end one line, so two characters are looked at
      cases cs with
      | nil =>
        by_cases hcr : c = '\r'
        · rw [hcr, List.nil_append, List.nil_append, cutLines_pair, cutLines_pair]
          rfl
        · rw [cutLines_cons_end hc _ (fun _ h _ => hcr h), cutLines_cons_end hc _ (fun _ h _ => hcr h),
            ih]
          rfl
      | cons d ds =>
        by_cases hpair : c = '\r' ∧ d = '\n'
        · obtain ⟨rfl, rfl⟩ := hpair
          rw [List.cons_append, List.cons_append, cutLines_pair, cutLines_pair,
            ← cutLines_feed hfeed, ← cutLines_feed hfeed]
          exact ih
        · have hsingle : ∀ xs rest, c = '\r' → d :: xs = '\n' :: rest → False :=
            fun _ _ hr hn => hpair ⟨hr, (List.cons.inj hn).1⟩
          rw [List.cons_append, List.cons_append, cutLines_cons_end hc _ (hsingle _),
            cutLines_cons_end hc _ (hsingle _)]
          exact congrArg _ ih

include hfeed hreturn in
/-- A text without line ends is one line when a line feed stands behind it. -/
theorem cutLines_feed_eq {cs : List Char} (h : ∀ c ∈ cs, ends c = false) :
    cutLines ends (cs ++ ['\n']) = [cs] := by
  induction cs with
  | nil => exact cutLines_feed hfeed []
  | cons c cs ih =>
    rw [List.cons_append, cutLines_cons hreturn (h c List.mem_cons_self),
      ih (fun d hd => h d (List.mem_cons_of_mem c hd))]
    rfl

/-- There is no line end within a line. -/
theorem not_ends_of_mem_cutLines (cs : List Char) :
    ∀ l ∈ cutLines ends cs, ∀ c ∈ l, ends c = false := by
  fun_induction cutLines ends cs with
  | case1 => simp
  | case2 rest ih => simpa using ih
  | case3 c rest hpair hc ih => simpa using ih
  | case4 c rest hpair hc hnil ih => simpa using hc
  | case5 c rest hpair hc line lines hlines ih =>
    rw [hlines] at ih
    intro l hl d hd
    rcases List.mem_cons.1 hl with rfl | hl
    · rcases List.mem_cons.1 hd with rfl | hd
      · exact Bool.not_eq_true _ ▸ hc
      · exact ih line List.mem_cons_self d hd
    · exact ih l (List.mem_cons_of_mem line hl) d hd

end

/-! ## Displayed lines -/

theorem displayLines_append_feed (a b : String) :
    displayLines (a ++ "\n" ++ b) = displayLines (a ++ "\n") ++ displayLines b := by
  have hfeed : "\n".toList = ['\n'] := rfl
  rw [displayLines, displayLines, displayLines, String.toList_append, String.toList_append, hfeed,
    List.append_assoc, List.singleton_append, cutLines_append_feed rfl rfl, List.map_append]

theorem displayLines_feed_eq {l : String} (h : ∀ c ∈ l.toList, endsDisplayLine c = false) :
    displayLines (l ++ "\n") = [l] := by
  have hfeed : "\n".toList = ['\n'] := rfl
  rw [displayLines, String.toList_append, hfeed, cutLines_feed_eq rfl rfl h, List.map_singleton,
    String.ofList_toList]

/-- **The lines of joined texts** are those of each of them, in their order. -/
theorem displayLines_joined {ls : List String} (h : ls ≠ []) :
    displayLines (String.intercalate "\n" ls ++ "\n") =
      ls.flatMap fun l => displayLines (l ++ "\n") := by
  induction ls with
  | nil => exact absurd rfl h
  | cons l ls ih =>
    cases ls with
    | nil => rw [String.intercalate_singleton, List.flatMap_singleton]
    | cons m ls =>
      have hfront : String.intercalate "\n" (l :: m :: ls) ++ "\n" =
          l ++ "\n" ++ (String.intercalate "\n" (m :: ls) ++ "\n") := by
        rw [String.intercalate_cons_cons]
        simp only [String.append_assoc]
      rw [hfront, displayLines_append_feed, ih (List.cons_ne_nil m ls)]
      rfl

end RecordLens.Text
