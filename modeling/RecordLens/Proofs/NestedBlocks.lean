import RecordLens.Proofs.Splice
/-!
Where the lines of a range go as blocks are put in behind ranges that are nested or apart. The lines
above the range take in all blocks that end above it. Within it stand its own lines, each with the blocks
behind it that belong to the range or to one inside; the blocks of the ranges around it stand behind.

* `linesOf`: the number of lines in blocks of some kind.
* `Block.Clear`: a block whose range is inside another one, around it, or apart from it.
* `exists_splice_eq`: the text above a range, the range, and the text below it.
* `exists_insertLines_eq`: the same with lines put in further up.
-/
namespace RecordLens

variable {α : Type}

/-! ## The number of lines in blocks -/

/-- The number of lines in the blocks that pass a test. -/
def linesOf (test : Block α → Bool) (blocks : List (Block α)) : Nat :=
  ((blocks.filter test).flatMap Block.content).length

theorem linesOf_cons (test : Block α → Bool) (b : Block α) (blocks : List (Block α)) :
    linesOf test (b :: blocks) =
      (if test b then b.content.length else 0) + linesOf test blocks := by
  rw [linesOf, linesOf, List.filter_cons]
  split
  · rw [List.flatMap_cons, List.length_append]
  · rw [Nat.zero_add]

theorem linesOf_congr {p q : Block α → Bool} {blocks : List (Block α)}
    (h : ∀ b ∈ blocks, p b = q b) : linesOf p blocks = linesOf q blocks := by
  rw [linesOf, linesOf, List.filter_congr h]

theorem linesOf_or {p q : Block α → Bool} {blocks : List (Block α)}
    (h : ∀ b ∈ blocks, ¬ (p b = true ∧ q b = true)) :
    linesOf (fun b => p b || q b) blocks = linesOf p blocks + linesOf q blocks := by
  induction blocks with
  | nil => rfl
  | cons b blocks ih =>
    have hb := h b List.mem_cons_self
    rw [linesOf_cons, linesOf_cons, linesOf_cons, ih fun c hc => h c (List.mem_cons_of_mem b hc)]
    cases hp : p b <;> cases hq : q b <;> simp [hp, hq] at hb ⊢ <;> omega

/-- The lines that stand behind line `n` in blocks that pass a test. -/
def standingLines (test : Block α → Bool) (blocks : List (Block α)) (n : Nat) : List α :=
  ((blocksStanding blocks n).filter test).flatMap Block.content

theorem length_standingLines (test : Block α → Bool) (blocks : List (Block α)) (n : Nat) :
    (standingLines test blocks n).length =
      linesOf (fun b => test b && b.endLine = n) blocks := by
  have hperm := ((blocksStanding_perm blocks n).filter test).flatMap_right Block.content
  rw [standingLines, hperm.length_eq, List.filter_filter, linesOf]

theorem mem_standingLines {test : Block α → Bool} {blocks : List (Block α)} {n : Nat} {l : α} :
    l ∈ standingLines test blocks n ↔
      ∃ b ∈ blocks, b.endLine = n ∧ test b = true ∧ l ∈ b.content := by
  simp only [standingLines, List.mem_flatMap, List.mem_filter, mem_blocksStanding, and_assoc]

/-! ## Lines with blocks behind them -/

theorem interleave_append (behind : Nat → List α) (front back : List α) : ∀ n,
    interleave behind n (front ++ back) =
      interleave behind n front ++ interleave behind (n + front.length) back := by
  induction front with
  | nil => intro n; rfl
  | cons l front ih =>
    intro n
    rw [List.cons_append, interleave, interleave, ih, List.length_cons,
      show n + 1 + front.length = n + (front.length + 1) by omega]
    simp only [List.cons_append, List.append_assoc]

theorem mem_interleave {behind : Nat → List α} {l : α} {ls : List α} : ∀ {n : Nat},
    l ∈ interleave behind n ls ↔ l ∈ ls ∨ ∃ i, n ≤ i ∧ i < n + ls.length ∧ l ∈ behind i := by
  induction ls with
  | nil =>
    intro n
    simp only [interleave, List.not_mem_nil, List.length_nil, false_or, false_iff, not_exists]
    intro i h
    omega
  | cons m ls ih =>
    intro n
    rw [interleave, List.mem_append, List.mem_cons, ih, List.mem_cons, List.length_cons]
    constructor
    · rintro ((rfl | hbehind) | hmem | ⟨i, hfirst, hlast, hi⟩)
      · exact .inl (.inl rfl)
      · exact .inr ⟨n, Nat.le_refl n, by omega, hbehind⟩
      · exact .inl (.inr hmem)
      · exact .inr ⟨i, by omega, by omega, hi⟩
    · rintro ((rfl | hmem) | ⟨i, hfirst, hlast, hi⟩)
      · exact .inl (.inl rfl)
      · exact .inr (.inl hmem)
      · rcases Nat.eq_or_lt_of_le hfirst with rfl | hlt
        · exact .inl (.inr hi)
        · exact .inr (.inr ⟨i, hlt, by omega, hi⟩)

theorem interleave_more {behind fewer : Nat → List α} {more : List α} {ls : List α} : ∀ {n : Nat},
    ls ≠ [] → (∀ i, n ≤ i → i + 1 < n + ls.length → behind i = fewer i) →
    behind (n + ls.length - 1) = fewer (n + ls.length - 1) ++ more →
    interleave behind n ls = interleave fewer n ls ++ more := by
  induction ls with
  | nil => exact fun h => absurd rfl h
  | cons l ls ih =>
    intro n _ hsame hlast
    rw [List.length_cons] at hsame hlast
    cases ls with
    | nil =>
      rw [List.length_nil, Nat.zero_add, Nat.add_sub_cancel] at hlast
      rw [interleave, interleave, interleave, interleave, hlast, List.append_nil, List.append_nil,
        List.cons_append]
    | cons m ls =>
      have hlength : n + ((m :: ls).length + 1) - 1 = n + 1 + (m :: ls).length - 1 := by omega
      rw [hlength] at hlast
      rw [interleave, interleave.eq_2 fewer, hsame n (Nat.le_refl n) (by rw [List.length_cons]; omega),
        ih (List.cons_ne_nil m ls) (fun i hi hlt => hsame i (by omega) (by omega)) hlast,
        List.append_assoc]

theorem length_interleave_standing (test : Block α → Bool) (blocks : List (Block α)) (ls : List α) :
    ∀ n, (interleave (standingLines test blocks) n ls).length = ls.length +
      linesOf (fun b => test b && (n ≤ b.endLine && b.endLine < n + ls.length)) blocks := by
  induction ls with
  | nil =>
    intro n
    have hnone : blocks.filter (fun b => test b && (n ≤ b.endLine && b.endLine < n)) = [] := by
      rw [List.filter_eq_nil_iff]
      intro b _
      simp only [Bool.and_eq_true, decide_eq_true_eq]
      omega
    simp only [interleave, linesOf, List.length_nil, Nat.add_zero, hnone, List.flatMap_nil]
  | cons l ls ih =>
    intro n
    -- blocks stand behind the line `n` itself, or behind a later one
    have hsplit : linesOf (fun b => test b && (n ≤ b.endLine && b.endLine < n + (ls.length + 1)))
        blocks = linesOf (fun b => (test b && b.endLine = n) ||
          (test b && (n + 1 ≤ b.endLine && b.endLine < n + 1 + ls.length))) blocks := by
      refine linesOf_congr fun b _ => ?_
      cases test b with
      | false => rfl
      | true =>
        rw [Bool.eq_iff_iff]
        simp only [Bool.true_and, Bool.or_eq_true, Bool.and_eq_true, decide_eq_true_eq]
        omega
    have hdisjoint : ∀ b ∈ blocks, ¬ ((test b && decide (b.endLine = n)) = true ∧
        (test b && (decide (n + 1 ≤ b.endLine) && decide (b.endLine < n + 1 + ls.length))) =
          true) := by
      intro b _
      simp only [Bool.and_eq_true, decide_eq_true_eq]
      omega
    rw [List.length_cons, hsplit, linesOf_or hdisjoint, interleave, List.length_append,
      List.length_cons, length_standingLines, ih]
    omega

/-! ## A range of lines -/

/-- A block whose range is apart from the lines `first` to `last`, inside them, or around them. -/
def Block.Clear (b : Block α) (first last : Nat) : Prop :=
  b.endLine < first ∨ last < b.line ∨ first ≤ b.line ∧ b.endLine ≤ last ∨
    b.line ≤ first ∧ last ≤ b.endLine

/-- Whether the range of a block is inside the lines `first` to `last`. -/
def Block.isInside (first last : Nat) (b : Block α) : Bool := first ≤ b.line && b.endLine ≤ last

theorem Block.isInside_iff {first last : Nat} {b : Block α} :
    b.isInside first last = true ↔ first ≤ b.line ∧ b.endLine ≤ last := by
  rw [isInside, Bool.and_eq_true, decide_eq_true_iff, decide_eq_true_iff]

/-- The lines `first` to `last`, each with the blocks behind it that are inside them. -/
def rangeLines (lines : List α) (blocks : List (Block α)) (first last : Nat) : List α :=
  interleave (standingLines (Block.isInside first last) blocks) first
    ((lines.take last).drop (first - 1))

/-- Where those that pass a test stand in front of those that do not, they can be taken off. -/
theorem filter_append_filter_not {β : Type} {test : β → Bool} {bs : List β}
    (h : bs.Pairwise fun a b => test b = true → test a = true) :
    bs.filter test ++ bs.filter (fun b => !test b) = bs := by
  induction bs with
  | nil => rfl
  | cons b bs ih =>
    obtain ⟨hb, hbs⟩ := List.pairwise_cons.1 h
    cases hpass : test b with
    | true => simp [hpass, ih hbs]
    | false =>
      have hlater : ∀ c ∈ bs, test c = false := by
        intro c hc
        rw [← Bool.not_eq_true]
        intro hpassed
        rw [hb c hc hpassed] at hpass
        exact absurd hpass (by decide)
      have hnone : bs.filter test = [] := List.filter_eq_nil_iff.2 fun c hc => by simp [hlater c hc]
      have hall : bs.filter (fun c => !test c) = bs :=
        List.filter_eq_self.2 fun c hc => by simp [hlater c hc]
      simp [hpass, hnone, hall]

section
variable {lines : List α} {blocks : List (Block α)} {first last : Nat}
  (hrange : ∀ b ∈ blocks, 1 ≤ b.line ∧ b.line ≤ b.endLine ∧ b.endLine ≤ lines.length)
  (hclear : ∀ b ∈ blocks, b.Clear first last)

include hrange hclear in
/-- Above the last line of a range only blocks from inside it stand behind its lines. -/
theorem standingLines_inside {n : Nat} (hfirst : first ≤ n) (hlast : n < last) :
    standingLines (fun _ => true) blocks n = standingLines (Block.isInside first last) blocks n := by
  rw [standingLines, standingLines]
  congr 1
  refine List.filter_congr fun b hb => ?_
  obtain ⟨hb, hend⟩ := mem_blocksStanding.1 hb
  have horder := hrange b hb
  symm
  rw [Block.isInside_iff]
  rcases hclear b hb with habove | hbelow | hinside | haround <;> omega

/-- Behind the last line of a range the blocks from inside it stand in front. -/
theorem exists_standingLines_last (blocks : List (Block α)) (first last : Nat) :
    ∃ outer, standingLines (fun _ => true) blocks last =
      standingLines (Block.isInside first last) blocks last ++ outer := by
  have hsorted : (blocksStanding blocks last).Pairwise fun a b =>
      b.isInside first last = true → a.isInside first last = true := by
    refine (pairwise_blocksStanding blocks last).imp_of_mem fun {a b} ha hb hle hinside => ?_
    have hend := (mem_blocksStanding.1 ha).2
    rw [Block.isInside_iff] at hinside ⊢
    omega
  refine ⟨((blocksStanding blocks last).filter fun b => !b.isInside first last).flatMap
    Block.content, ?_⟩
  rw [standingLines, standingLines, ← List.flatMap_append, filter_append_filter_not hsorted,
    List.filter_eq_self.2 fun _ _ => rfl]

variable (hfirst : 1 ≤ first) (hle : first ≤ last) (hlast : last ≤ lines.length)

include hlast in
theorem length_range : ((lines.take last).drop (first - 1)).length = last - (first - 1) := by
  rw [List.length_drop, List.length_take, Nat.min_eq_left hlast]

include hrange hfirst hle hlast in
theorem length_rangeLines : (rangeLines lines blocks first last).length =
    last - (first - 1) + linesOf (Block.isInside first last) blocks := by
  rw [rangeLines, length_interleave_standing, length_range hlast]
  congr 1
  refine linesOf_congr fun b hb => ?_
  have horder := hrange b hb
  rw [Bool.eq_iff_iff, Bool.and_eq_true, Block.isInside_iff]
  simp only [Bool.and_eq_true, decide_eq_true_eq]
  omega

include hrange hclear hfirst hle hlast in
/-- **A range of lines moves down by the blocks above it and takes in the blocks inside it.** -/
theorem exists_splice_eq : ∃ above below,
    splice lines blocks = above ++ rangeLines lines blocks first last ++ below ∧
    above.length = first - 1 + linesOf (fun b => b.endLine < first) blocks := by
  have hends : ∀ b ∈ blocks, 1 ≤ b.endLine ∧ b.endLine ≤ lines.length := by
    intro b hb
    have horder := hrange b hb
    omega
  have hbehind : (fun n => (blocksStanding blocks n).flatMap Block.content) =
      standingLines (fun _ => true) blocks := by
    funext n
    rw [standingLines, List.filter_eq_self.2 fun _ _ => rfl]
  have hlines : lines = lines.take (first - 1) ++ (lines.take last).drop (first - 1) ++
      lines.drop last := by
    have hfront : (lines.take last).take (first - 1) = lines.take (first - 1) := by
      rw [List.take_take, Nat.min_eq_left (by omega)]
    rw [← hfront, List.take_append_drop, List.take_append_drop]
  have htop : (lines.take (first - 1)).length = first - 1 := by
    rw [List.length_take]
    omega
  have hown : ((lines.take last).drop (first - 1)).length = last - (first - 1) := length_range hlast
  -- the blocks around the range stand behind its last line, below the blocks inside
  obtain ⟨outer, houter⟩ := exists_standingLines_last blocks first last
  have hmore : interleave (standingLines (fun _ => true) blocks) first
      ((lines.take last).drop (first - 1)) = rangeLines lines blocks first last ++ outer := by
    refine interleave_more ?_ ?_ ?_
    · rw [← List.length_pos_iff, hown]
      omega
    · intro i hi hlt
      exact standingLines_inside hrange hclear hi (by omega)
    · rw [hown, show first + (last - (first - 1)) - 1 = last by omega]
      exact houter
  refine ⟨interleave (standingLines (fun _ => true) blocks) 1 (lines.take (first - 1)),
    outer ++ interleave (standingLines (fun _ => true) blocks) (last + 1) (lines.drop last), ?_, ?_⟩
  · rw [splice_eq_standing hends, hbehind]
    conv_lhs => rw [hlines]
    rw [interleave_append, interleave_append, List.length_append, htop, hown,
      show 1 + (first - 1) = first by omega, show 1 + (first - 1 + (last - (first - 1))) = last + 1 by
        omega, hmore]
    simp only [List.append_assoc]
  · rw [length_interleave_standing, htop]
    congr 1
    refine linesOf_congr fun b hb => ?_
    have horder := hrange b hb
    rw [Bool.eq_iff_iff]
    simp only [Bool.true_and, Bool.and_eq_true, decide_eq_true_eq]
    omega

include hrange hclear hfirst hle hlast in
/-- Lines that are put in further up move the range down as well. -/
theorem exists_insertLines_eq {place : Nat} (hplace : place < first) (block : List α) :
    ∃ above below, insertLines (splice lines blocks) place block =
      above ++ rangeLines lines blocks first last ++ below ∧
    above.length = first - 1 + (block.length + linesOf (fun b => b.endLine < first) blocks) := by
  obtain ⟨above, below, hsplice, hlength⟩ := exists_splice_eq hrange hclear hfirst hle hlast
  have hin : place ≤ above.length := by omega
  refine ⟨above.take place ++ block ++ above.drop place, below, ?_, ?_⟩
  · rw [hsplice, insertLines, List.append_assoc above, List.take_append_of_le_length hin,
      List.drop_append_of_le_length hin]
    simp only [List.append_assoc]
  · have hparts : (above.take place).length + (above.drop place).length = above.length := by
      rw [← List.length_append, List.take_append_drop]
    rw [List.length_append, List.length_append]
    omega

end

/-- What stands in a range when blocks have gone in: its own lines and the blocks inside it. -/
theorem mem_rangeLines {lines : List α} {blocks : List (Block α)} {first last : Nat} {l : α}
    (hrange : ∀ b ∈ blocks, b.line ≤ b.endLine) (hle : first ≤ last) (hlast : last ≤ lines.length)
    (hfirst : 1 ≤ first) :
    l ∈ rangeLines lines blocks first last ↔ l ∈ (lines.take last).drop (first - 1) ∨
      ∃ b ∈ blocks, b.isInside first last = true ∧ l ∈ b.content := by
  rw [rangeLines, mem_interleave, length_range hlast]
  refine or_congr_right ⟨?_, ?_⟩
  · rintro ⟨n, -, -, hl⟩
    obtain ⟨b, hb, -, hinside, hl⟩ := mem_standingLines.1 hl
    exact ⟨b, hb, hinside, hl⟩
  · rintro ⟨b, hb, hinside, hl⟩
    have horder := hrange b hb
    have hends := Block.isInside_iff.1 hinside
    exact ⟨b.endLine, by omega, by omega, mem_standingLines.2 ⟨b, hb, rfl, hinside, hl⟩⟩

end RecordLens
