import Mathlib.Data.List.Lex
import Mathlib.Data.Prod.Lex
import RecordLens.Proofs.Insertions
/-!
When all texts can be put into their lines. A text can be put in where no character is cut, and it moves
only what stands behind it. The texts go in from the last one to the first, so each of them finds the
front of its line as it was, and all of them go in if and only if each of them goes into the line that
was there at first.

* `Text.isSome_cutAtByte_insert`: what a text that is put in changes about the columns before it.
* `Insertion.Fits`: a text cuts no character of its line.
* `exists_insertAll_iff`: all texts go in if and only if each of them fits.
-/
namespace RecordLens

/-! ## Columns -/

namespace Text

theorem cutAtByte_byteLength (front back : List Char) :
    cutAtByte (byteLength front) (front ++ back) = some (front, back) := by
  induction front with
  | nil =>
    rw [byteLength, cutAtByte]
    rfl
  | cons c front ih =>
    obtain ⟨n, hn⟩ : ∃ n, byteLength (c :: front) = n + 1 := by
      have hpos := c.utf8Size_pos
      exact Nat.exists_eq_succ_of_ne_zero (by rw [byteLength]; omega)
    have hsize : c.utf8Size ≤ n + 1 := by
      rw [← hn, byteLength]
      omega
    have hrest : n + 1 - c.utf8Size = byteLength front := by
      rw [← hn, byteLength]
      omega
    rw [hn, List.cons_append, cutAtByte, if_pos hsize, hrest, ih]
    rfl

theorem isSome_cutAtByte_of_size {cs : List Char} (h : ∀ c ∈ cs, c.utf8Size = 1) (n : Nat) :
    (cutAtByte n cs).isSome = true := by
  induction cs generalizing n with
  | nil => cases n <;> rfl
  | cons c cs ih =>
    cases n with
    | zero => rfl
    | succ n =>
      have hsize := h c List.mem_cons_self
      rw [cutAtByte, if_pos (by omega), Option.isSome_map]
      exact ih (fun d hd => h d (List.mem_cons_of_mem c hd)) _

/-- A text of one-byte characters that is put in at a column changes nothing about the columns up to
    there: the same ones lie inside of characters. -/
theorem isSome_cutAtByte_insert {m n : Nat} {cs piece : List Char} {cut : List Char × List Char}
    (hpiece : ∀ c ∈ piece, c.utf8Size = 1) (hcut : cutAtByte m cs = some cut) (hnm : n ≤ m) :
    (cutAtByte n (cut.1 ++ piece ++ cut.2)).isSome = (cutAtByte n cs).isSome := by
  fun_induction cutAtByte m cs generalizing n cut with
  | case1 cs =>
    obtain rfl := Nat.le_zero.1 hnm
    simp only [cutAtByte, Option.isSome_some]
  | case2 m =>
    obtain rfl := Option.some.inj hcut
    rw [List.nil_append, List.append_nil, isSome_cutAtByte_of_size hpiece]
    cases n <;> rfl
  | case3 m c cs hsize ih =>
    obtain ⟨rest, hrest, rfl⟩ := Option.map_eq_some_iff.1 hcut
    cases n with
    | zero => simp only [cutAtByte, Option.isSome_some]
    | succ n =>
      simp only [List.cons_append, cutAtByte]
      split
      · rw [Option.isSome_map, Option.isSome_map]
        exact ih hrest (by omega)
      · rfl
  | case4 => exact absurd hcut nofun

end Text

/-! ## The order of insertions -/

theorem textBefore_iff {as bs : List Char} :
    textBefore as bs = true ↔ as.map Char.toNat < bs.map Char.toNat := by
  fun_induction textBefore as bs with
  | case1 as => exact iff_of_false Bool.false_ne_true (List.not_lt_nil _)
  | case2 b bs => exact iff_of_true rfl (List.nil_lt_cons _ _)
  | case3 as b bs ih => rw [ih, List.map_cons, List.map_cons, List.cons_lt_cons_self]
  | case4 a as b bs hne =>
    have hcode : a.toNat ≠ b.toNat := fun h => hne (Char.toNat_inj.1 h)
    rw [decide_eq_true_iff, List.map_cons, List.map_cons, List.cons_lt_cons_iff]
    exact ⟨.inl, fun h => h.resolve_right fun h => hcode h.1⟩

namespace Insertion

/-- By what insertions are ordered: line, column and text. -/
def key (i : Insertion) : ℕ ×ₗ ℕ ×ₗ List ℕ :=
  toLex (i.line, toLex (i.column, i.text.toList.map Char.toNat))

theorem before_iff {a b : Insertion} : a.before b = true ↔ a.key < b.key := by
  rw [before, key, key, Prod.Lex.toLex_lt_toLex, Prod.Lex.toLex_lt_toLex]
  by_cases hline : a.line = b.line
  · rw [if_neg (not_not_intro hline)]
    by_cases hcolumn : a.column = b.column
    · rw [if_neg (not_not_intro hcolumn), textBefore_iff]
      exact ⟨fun h => .inr ⟨hline, .inr ⟨hcolumn, h⟩⟩,
        fun h => ((h.resolve_left hline.not_lt).2.resolve_left hcolumn.not_lt).2⟩
    · rw [if_pos hcolumn, decide_eq_true_iff]
      exact ⟨fun h => .inr ⟨hline, .inl h⟩,
        fun h => (h.resolve_left hline.not_lt).2.resolve_right fun h => hcolumn h.1⟩
  · rw [if_pos hline, decide_eq_true_iff]
    exact ⟨.inl, fun h => h.resolve_right fun h => hline h.1⟩

/-- The insertions go in from the last one to the first. -/
theorem pairwise_mergeSort (insertions : List Insertion) :
    (insertions.mergeSort fun a b => !a.before b).Pairwise fun a b => b.key ≤ a.key := by
  have hle {a b : Insertion} : (!a.before b) = true ↔ b.key ≤ a.key := by
    rw [Bool.not_eq_true', ← Bool.not_eq_true, before_iff, not_lt]
  refine (List.pairwise_mergeSort ?_ ?_ insertions).imp hle.1
  · intro a b c hab hbc
    exact hle.2 ((hle.1 hbc).trans (hle.1 hab))
  · intro a b
    rw [Bool.or_eq_true, hle, hle]
    exact le_total _ _

theorem column_le_of_key_le {a b : Insertion} (h : b.key ≤ a.key) (hline : b.line = a.line) :
    b.column ≤ a.column := by
  rw [key, key, Prod.Lex.toLex_le_toLex, Prod.Lex.toLex_le_toLex] at h
  rcases h with hlt | ⟨-, hlt | ⟨heq, -⟩⟩
  · exact absurd hline hlt.ne
  · exact hlt.le
  · exact heq.le

/-! ## One insertion -/

/-- An insertion cuts no character of its line. -/
def Fits (lines : List String) (i : Insertion) : Prop :=
  ∀ line, lines[i.line - 1]? = some line → (Text.cutAtByte i.column line.toList).isSome = true

/-- An insertion that can be made: its text has one-byte characters only, and lines count from 1. -/
structure Plain (i : Insertion) : Prop where
  line_pos : 1 ≤ i.line
  size : ∀ c ∈ i.text.toList, c.utf8Size = 1

variable {lines new : List String} {i j : Insertion}

theorem exists_insertInto_iff : (∃ new, insertInto lines i = .ok new) ↔ i.Fits lines := by
  rw [insertInto, Fits]
  cases lines[i.line - 1]? with
  | none => exact iff_of_true ⟨_, rfl⟩ nofun
  | some line =>
    have hcut : (Text.insertAtByte line i.column i.text).isSome =
        (Text.cutAtByte i.column line.toList).isSome := Option.isSome_map
    simp only [Option.some.injEq, forall_eq']
    rw [← hcut]
    cases Text.insertAtByte line i.column i.text with
    | none => exact iff_of_false (by rintro ⟨_, h⟩; exact error_ne_ok h) Bool.false_ne_true
    | some text => exact iff_of_true ⟨_, rfl⟩ rfl

/-- An insertion that goes in leaves the columns before it as they were. -/
theorem fits_of_insertInto (hi : i.Plain) (hj : j.Plain) (hkey : j.key ≤ i.key)
    (h : insertInto lines i = .ok new) : j.Fits new ↔ j.Fits lines := by
  rcases insertInto_eq_ok h with ⟨-, rfl⟩ | ⟨line, text, hline, htext, rfl⟩
  · exact Iff.rfl
  obtain ⟨cut, hcut, rfl⟩ := Option.map_eq_some_iff.1 htext
  unfold Fits
  by_cases hsame : j.line = i.line
  · have hlt : i.line - 1 < lines.length := (List.getElem?_eq_some_iff.1 hline).1
    rw [hsame, List.getElem?_set_self hlt, hline]
    simp only [Option.some.injEq, forall_eq', String.toList_ofList]
    rw [Text.isSome_cutAtByte_insert hi.size hcut (column_le_of_key_le hkey hsame)]
  · have hne : i.line - 1 ≠ j.line - 1 := by
      have hi := hi.line_pos
      have hj := hj.line_pos
      omega
    rw [List.getElem?_set_ne hne]

end Insertion

/-! ## All insertions -/

open Insertion in
theorem exists_foldlM_iff {is : List Insertion} (hplain : ∀ i ∈ is, i.Plain)
    (hsorted : is.Pairwise fun a b => b.key ≤ a.key) : ∀ lines : List String,
    (∃ new, is.foldlM insertInto lines = .ok new) ↔ ∀ i ∈ is, i.Fits lines := by
  induction is with
  | nil => exact fun _ => iff_of_true ⟨_, rfl⟩ nofun
  | cons i is ih =>
    intro lines
    obtain ⟨hfirst, hrest⟩ := List.pairwise_cons.1 hsorted
    have hih := ih (fun j hj => hplain j (List.mem_cons_of_mem i hj)) hrest
    rw [List.forall_mem_cons, ← exists_insertInto_iff]
    simp only [List.foldlM_cons, bind_eq_ok]
    -- what goes in first leaves it open whether the rest goes in
    have hkeeps {mid : List String} (hmid : insertInto lines i = .ok mid) :
        (∀ j ∈ is, j.Fits mid) ↔ ∀ j ∈ is, j.Fits lines :=
      forall₂_congr fun j hj => fits_of_insertInto (hplain i List.mem_cons_self)
        (hplain j (List.mem_cons_of_mem i hj)) (hfirst j hj) hmid
    constructor
    · rintro ⟨new, mid, hmid, hnew⟩
      exact ⟨⟨mid, hmid⟩, (hkeeps hmid).1 ((hih mid).1 ⟨new, hnew⟩)⟩
    · rintro ⟨⟨mid, hmid⟩, hall⟩
      obtain ⟨new, hnew⟩ := (hih mid).2 ((hkeeps hmid).2 hall)
      exact ⟨new, mid, hmid, hnew⟩

/-- **All texts go in if and only if each of them cuts no character of its line.** -/
theorem exists_insertAll_iff {lines : List String} {insertions : List Insertion}
    (hplain : ∀ i ∈ insertions, i.Plain) :
    (∃ new, insertAll lines insertions = .ok new) ↔ ∀ i ∈ insertions, i.Fits lines := by
  have hsorted := exists_foldlM_iff (fun i hi => hplain i (List.mem_mergeSort.1 hi))
    (Insertion.pairwise_mergeSort insertions) lines
  simp only [List.mem_mergeSort] at hsorted
  exact hsorted

end RecordLens
