import Mathlib.Data.List.Induction
import Mathlib.Data.List.Nodup
import RecordLens.Expansion.Splice
/-!
What putting blocks in from the last line to the first comes to. The numbers of lines that the blocks
carry are those of the text before anything was put in; as each block goes in behind all lines that
later blocks refer to, these numbers stay valid.

* `splice_eq_interleave`: every line is followed by the blocks that end on it, the one that starts
  last in front.
* `splice_perm`: the order in which the blocks are given does not matter.
* `splice_above`: lines above the ends of all blocks stay in front.
-/
namespace RecordLens

variable {α : Type}

/-! ## Lines with other lines behind them -/

/-- Each line with the lines `behind` its number; the first line has the number `n`. -/
def interleave (behind : Nat → List α) : Nat → List α → List α
  | _, [] => []
  | n, l :: ls => l :: behind n ++ interleave behind (n + 1) ls

theorem interleave_congr {f g : Nat → List α} (ls : List α) :
    ∀ n, (∀ i, n ≤ i → i < n + ls.length → f i = g i) → interleave f n ls = interleave g n ls := by
  induction ls with
  | nil => intro n _; rfl
  | cons l ls ih =>
    intro n h
    simp only [List.length_cons] at h
    rw [interleave, interleave, h n (Nat.le_refl n) (by omega),
      ih (n + 1) (fun i hi hlt => h i (by omega) (by omega))]

theorem interleave_nil (ls : List α) : ∀ n, interleave (fun _ => []) n ls = ls := by
  induction ls with
  | nil => intro n; rfl
  | cons l ls ih => intro n; simp [interleave, ih]

theorem interleave_above {behind : Nat → List α} : ∀ (k n : Nat) (ls : List α),
    (∀ i, n ≤ i → i < n + k → behind i = []) →
    interleave behind n ls = ls.take k ++ interleave behind (n + k) (ls.drop k)
  | 0, n, ls, _ => by simp
  | k + 1, n, [], _ => by simp [interleave]
  | k + 1, n, l :: ls, h => by
    rw [interleave, h n (Nat.le_refl n) (by omega), interleave_above k (n + 1) ls
      (fun i hi hlt => h i (by omega) (by omega)), show n + 1 + k = n + (k + 1) by omega]
    simp

theorem interleave_split {behind : Nat → List α} {ls : List α} {k : Nat} (hk : k < ls.length)
    (h : ∀ i, i ≤ k → behind i = []) :
    interleave behind 1 ls =
      ls.take (k + 1) ++ (behind (k + 1) ++ interleave behind (k + 2) (ls.drop (k + 1))) := by
  rw [interleave_above k 1 ls (fun i _ hi => h i (by omega)), List.drop_eq_getElem_cons hk,
    interleave, ← List.take_append_getElem hk, Nat.add_comm 1 k]
  simp only [List.append_assoc, List.cons_append, List.nil_append]

theorem insertLines_above (behind : Nat → List α) (ls block : List α) (k : Nat) :
    insertLines (ls.take k ++ interleave behind (k + 1) (ls.drop k)) k block =
      ls.take k ++ block ++ interleave behind (k + 1) (ls.drop k) := by
  rcases Nat.lt_or_ge ls.length k with hk | hk
  · have hdrop : ls.drop k = [] := List.drop_eq_nil_of_le (Nat.le_of_lt hk)
    have htake : ls.take k = ls := List.take_of_length_le (Nat.le_of_lt hk)
    rw [insertLines, hdrop, htake, interleave, List.append_nil, htake, hdrop]
  · have hlen : (ls.take k).length = k := by rw [List.length_take]; omega
    rw [insertLines, List.take_left' hlen, List.drop_left' hlen]

/-- Lines put in directly behind a line come before all that stood behind it, as long as nothing
    stands behind the lines above. -/
theorem insertLines_interleave {behind : Nat → List α} {ls : List α} {e : Nat} (block : List α)
    (hpos : 1 ≤ e) (hle : e ≤ ls.length) (h : ∀ i, i < e → behind i = []) :
    insertLines (interleave behind 1 ls) e block =
      interleave (fun i => if i = e then block ++ behind i else behind i) 1 ls := by
  obtain ⟨k, rfl⟩ : ∃ k, e = k + 1 := ⟨e - 1, by omega⟩
  have hlen : (ls.take (k + 1)).length = k + 1 := by rw [List.length_take]; omega
  have hrest : interleave (fun i => if i = k + 1 then block ++ behind i else behind i) (k + 2)
      (ls.drop (k + 1)) = interleave behind (k + 2) (ls.drop (k + 1)) :=
    interleave_congr _ _ (fun i hi _ => if_neg (by omega))
  rw [interleave_split (Nat.lt_of_succ_le hle) (fun i hi => h i (by omega)),
    interleave_split (Nat.lt_of_succ_le hle) (fun i hi => by
      rw [if_neg (by omega)]; exact h i (by omega)),
    hrest, if_pos rfl, insertLines, List.take_left' hlen, List.drop_left' hlen]
  simp

/-! ## The order in which blocks go in -/

theorem Block.earlier_total (a b : Block α) : (a.earlier b || b.earlier a) = true := by
  unfold Block.earlier
  by_cases h : a.endLine = b.endLine
  · simp only [h, if_true, Bool.or_eq_true, decide_eq_true_eq]; omega
  · rw [if_neg h, if_neg (Ne.symm h)]
    simp only [Bool.or_eq_true, decide_eq_true_eq]; omega

theorem Block.earlier_trans (a b c : Block α) (hab : a.earlier b = true)
    (hbc : b.earlier c = true) : a.earlier c = true := by
  unfold Block.earlier at *
  split at hab <;> split at hbc <;> split <;> simp only [decide_eq_true_eq] at * <;> omega

theorem Block.endLine_le_of_earlier {a b : Block α} (h : a.earlier b = true) :
    b.endLine ≤ a.endLine := by
  unfold Block.earlier at h
  split at h <;> simp only [decide_eq_true_eq] at h <;> omega

theorem Block.line_le_of_earlier {a b : Block α} (h : a.earlier b = true)
    (he : a.endLine = b.endLine) : a.line ≤ b.line := by
  unfold Block.earlier at h
  rw [if_pos he] at h
  exact of_decide_eq_true h

theorem Block.line_eq_of_earlier {a b : Block α} (hab : a.earlier b = true)
    (hba : b.earlier a = true) : a.line = b.line := by
  have he := Nat.le_antisymm (endLine_le_of_earlier hba) (endLine_le_of_earlier hab)
  exact Nat.le_antisymm (line_le_of_earlier hab he) (line_le_of_earlier hba he.symm)

theorem pairwise_earlier (blocks : List (Block α)) :
    (blocks.mergeSort Block.earlier).Pairwise (fun a b => a.earlier b = true) :=
  List.pairwise_mergeSort Block.earlier_trans Block.earlier_total blocks

theorem eq_of_line_eq {blocks : List (Block α)} (hstart : (blocks.map Block.line).Nodup)
    {a b : Block α} (ha : a ∈ blocks) (hb : b ∈ blocks) (h : a.line = b.line) : a = b :=
  List.inj_on_of_nodup_map hstart ha hb h

theorem mergeSort_earlier_perm {bs cs : List (Block α)} (hstart : (bs.map Block.line).Nodup)
    (hp : cs.Perm bs) : cs.mergeSort Block.earlier = bs.mergeSort Block.earlier := by
  refine List.Perm.eq_of_pairwise ?_ (pairwise_earlier cs) (pairwise_earlier bs) ?_
  · intro a b ha hb hab hba
    rw [List.mem_mergeSort] at ha hb
    exact eq_of_line_eq hstart (hp.subset ha) hb (Block.line_eq_of_earlier hab hba)
  · exact ((List.mergeSort_perm cs _).trans hp).trans (List.mergeSort_perm bs _).symm

/-! ## All blocks -/

/-- The blocks that end on line `n`, the one that starts last in front. -/
def blocksBehind (blocks : List (Block α)) (n : Nat) : List (Block α) :=
  (blocks.filter (·.endLine = n)).mergeSort fun a b => b.line ≤ a.line

theorem mem_blocksBehind {blocks : List (Block α)} {n : Nat} {b : Block α} :
    b ∈ blocksBehind blocks n ↔ b ∈ blocks ∧ b.endLine = n := by
  rw [blocksBehind, List.mem_mergeSort, List.mem_filter, decide_eq_true_iff]

/-- Of the blocks behind a line none begins before one that follows it. -/
theorem pairwise_blocksBehind (blocks : List (Block α)) (n : Nat) :
    (blocksBehind blocks n).Pairwise fun a b => b.line ≤ a.line := by
  have hsorted : (blocksBehind blocks n).Pairwise fun a b => decide (b.line ≤ a.line) = true := by
    refine List.pairwise_mergeSort ?_ ?_ _
    · intro a b c hab hbc
      exact decide_eq_true (Nat.le_trans (of_decide_eq_true hbc) (of_decide_eq_true hab))
    · intro a b
      simp [Nat.le_total b.line a.line]
  exact hsorted.imp of_decide_eq_true

/-- The blocks that end on line `n` as they stand there: the last one that went in is in front. -/
def blocksStanding (blocks : List (Block α)) (n : Nat) : List (Block α) :=
  ((blocks.mergeSort Block.earlier).filter (·.endLine = n)).reverse

theorem mem_blocksStanding {blocks : List (Block α)} {n : Nat} {b : Block α} :
    b ∈ blocksStanding blocks n ↔ b ∈ blocks ∧ b.endLine = n := by
  rw [blocksStanding, List.mem_reverse, List.mem_filter, List.mem_mergeSort, decide_eq_true_iff]

theorem pairwise_blocksStanding (blocks : List (Block α)) (n : Nat) :
    (blocksStanding blocks n).Pairwise fun a b => b.line ≤ a.line := by
  rw [blocksStanding, List.pairwise_reverse]
  refine ((pairwise_earlier blocks).filter _).imp_of_mem ?_
  intro a b ha hb hab
  have hea := of_decide_eq_true (List.mem_filter.1 ha).2
  have heb := of_decide_eq_true (List.mem_filter.1 hb).2
  exact Block.line_le_of_earlier hab (hea.trans heb.symm)

theorem blocksStanding_perm (blocks : List (Block α)) (n : Nat) :
    (blocksStanding blocks n).Perm (blocks.filter (·.endLine = n)) :=
  (List.reverse_perm _).trans ((List.mergeSort_perm blocks _).filter _)

/-- Where all blocks begin on different lines, the one that starts last went in last. -/
theorem blocksBehind_eq_standing {blocks : List (Block α)} (hstart : (blocks.map Block.line).Nodup)
    (n : Nat) : blocksBehind blocks n = blocksStanding blocks n := by
  refine List.Perm.eq_of_pairwise ?_ (pairwise_blocksBehind blocks n)
    (pairwise_blocksStanding blocks n) ?_
  · intro a b ha hb hab hba
    exact eq_of_line_eq hstart (mem_blocksBehind.1 ha).1 (mem_blocksStanding.1 hb).1
      (Nat.le_antisymm hba hab)
  · exact (List.mergeSort_perm _ _).trans (blocksStanding_perm blocks n).symm

theorem blocksBehind_split {blocks : List (Block α)} (hstart : (blocks.map Block.line).Nodup)
    {b : Block α} (hb : b ∈ blocks) : ∃ inner outer,
      blocksBehind blocks b.endLine = inner ++ b :: outer ∧
      ∀ c ∈ inner, c ∈ blocks ∧ c.endLine = b.endLine ∧ b.line < c.line := by
  obtain ⟨inner, outer, hsplit⟩ := List.append_of_mem (mem_blocksBehind.2 ⟨hb, rfl⟩)
  have hsorted := pairwise_blocksBehind blocks b.endLine
  have hnodup : (blocksBehind blocks b.endLine).Nodup :=
    (List.mergeSort_perm _ _).nodup_iff.2 (hstart.of_map.filter _)
  rw [hsplit, List.pairwise_append] at hsorted
  rw [hsplit, List.nodup_append] at hnodup
  refine ⟨inner, outer, hsplit, fun c hc => ?_⟩
  have hin := mem_blocksBehind.1 (hsplit ▸ List.mem_append_left _ hc)
  have hle : b.line ≤ c.line := hsorted.2.2 c hc b List.mem_cons_self
  refine ⟨hin.1, hin.2, Nat.lt_of_le_of_ne hle fun heq => ?_⟩
  obtain rfl := eq_of_line_eq hstart hb hin.1 heq
  exact hnodup.2.2 b hc b List.mem_cons_self rfl

/-- Blocks in the order in which they go in: each line is followed by the blocks that end on it, the
    last one put in in front. The induction is on the last block put in, behind whose end all the
    others have gone in. -/
theorem foldl_insertLines (lines : List α) (blocks : List (Block α))
    (hsorted : blocks.Pairwise (fun a b => a.earlier b = true))
    (hrange : ∀ b ∈ blocks, 1 ≤ b.endLine ∧ b.endLine ≤ lines.length) :
    blocks.foldl (fun ls b => insertLines ls b.endLine b.content) lines =
      interleave (fun n => (blocks.filter (·.endLine = n)).reverse.flatMap Block.content) 1 lines := by
  induction blocks using List.reverseRecOn with
  | nil => simp [interleave_nil]
  | append_singleton bs b ih =>
    rw [List.pairwise_append] at hsorted
    have hlater : ∀ c ∈ bs, b.endLine ≤ c.endLine := fun c hc =>
      Block.endLine_le_of_earlier (hsorted.2.2 c hc b (List.mem_singleton_self b))
    have hb := hrange b (by simp)
    rw [List.foldl_append, List.foldl_cons, List.foldl_nil,
      ih hsorted.1 (fun c hc => hrange c (List.mem_append_left _ hc)),
      insertLines_interleave b.content hb.1 hb.2]
    · refine interleave_congr _ _ (fun i _ _ => ?_)
      by_cases hi : i = b.endLine
      · simp [List.filter_append, hi]
      · simp [List.filter_append, hi, Ne.symm hi]
    · intro i hi
      rw [List.filter_eq_nil_iff.2 (fun c hc => by have := hlater c hc; simp; omega)]
      rfl

section
variable {lines : List α} {blocks : List (Block α)}
  (hstart : (blocks.map Block.line).Nodup)
  (hrange : ∀ b ∈ blocks, 1 ≤ b.endLine ∧ b.endLine ≤ lines.length)
include hrange

/-- Every line is followed by the blocks that end on it, wherever they begin. -/
theorem splice_eq_standing : splice lines blocks =
    interleave (fun n => (blocksStanding blocks n).flatMap Block.content) 1 lines :=
  foldl_insertLines lines _ (pairwise_earlier blocks)
    (fun b hb => hrange b (List.mem_mergeSort.1 hb))

theorem splice_top {k : Nat} (hk : k < lines.length) (habove : ∀ b ∈ blocks, k < b.endLine) :
    ∃ rest, splice lines blocks = lines.take (k + 1) ++ rest := by
  refine ⟨_, (splice_eq_standing hrange).trans (interleave_split hk ?_)⟩
  intro i hi
  rw [List.flatMap_eq_nil_iff]
  intro b hb
  have hend := mem_blocksStanding.1 hb
  have hlt := habove b hend.1
  omega

include hstart

/-- **Every line is followed by the blocks that end on it.** -/
theorem splice_eq_interleave : splice lines blocks =
    interleave (fun n => (blocksBehind blocks n).flatMap Block.content) 1 lines := by
  rw [splice_eq_standing hrange]
  refine interleave_congr _ _ (fun n _ _ => ?_)
  rw [blocksBehind_eq_standing hstart]

/-- Lines above the ends of all blocks stay in front. -/
theorem splice_above {k : Nat} (habove : ∀ b ∈ blocks, k < b.endLine) : splice lines blocks =
    lines.take k ++
    interleave (fun n => (blocksBehind blocks n).flatMap Block.content) (k + 1) (lines.drop k) := by
  rw [splice_eq_interleave hstart hrange, interleave_above k 1, Nat.add_comm 1 k]
  intro i _ hi
  rw [blocksBehind, List.filter_eq_nil_iff.2 (fun b hb => by have := habove b hb; simp; omega)]
  simp

end

theorem splice_nil (lines : List α) : splice lines [] = lines := by
  rw [splice, List.mergeSort_nil, List.foldl_nil]

/-- The order in which the blocks are given does not matter. -/
theorem splice_perm (lines : List α) {bs cs : List (Block α)} (hstart : (bs.map Block.line).Nodup)
    (hp : cs.Perm bs) : splice lines cs = splice lines bs := by
  rw [splice, splice, mergeSort_earlier_perm hstart hp]

/-! ## Lines that stay -/

theorem sublist_insertLines (lines : List α) (place : Nat) (block : List α) :
    lines.Sublist (insertLines lines place block) := by
  have hsub : (lines.take place ++ lines.drop place).Sublist (insertLines lines place block) :=
    (List.sublist_append_left _ _).append_right _
  rwa [List.take_append_drop] at hsub

theorem block_sublist_insertLines (lines : List α) (place : Nat) (block : List α) :
    block.Sublist (insertLines lines place block) :=
  (List.sublist_append_right _ _).trans (List.sublist_append_left _ _)

theorem sublist_foldl_insertLines (blocks : List (Block α)) : ∀ lines : List α,
    lines.Sublist (blocks.foldl (fun ls b => insertLines ls b.endLine b.content) lines) := by
  induction blocks with
  | nil => exact fun lines => List.Sublist.refl lines
  | cons b bs ih => exact fun lines => (sublist_insertLines lines _ _).trans (ih _)

theorem content_sublist_splice {b : Block α} {blocks : List (Block α)} (hb : b ∈ blocks)
    (lines : List α) : b.content.Sublist (splice lines blocks) := by
  obtain ⟨front, back, hsorted⟩ := List.append_of_mem (List.mem_mergeSort.2 hb)
  rw [splice, hsorted, List.foldl_append, List.foldl_cons]
  exact (block_sublist_insertLines _ _ _).trans (sublist_foldl_insertLines back _)

end RecordLens
