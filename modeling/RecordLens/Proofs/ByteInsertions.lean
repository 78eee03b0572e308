import Mathlib.Data.String.Basic
import RecordLens.Proofs.InsertionPlaces
/-!
Texts that are put into lines one after the other stand as if all had been put in at once. Every
column counts bytes of the line that was there at first. The last text goes in first, so a line
changes only behind the columns that are still to come.

* `Text.insertAtByte_append`: what one text does to its line.
* `exists_foldlM_interlace`: what all texts do to all lines, from the last text to the first.
* `insertAll_eq_interlace`: every byte column of every line gets its texts in ascending order, in
  whatever order they are given.
-/
namespace RecordLens

/-! ## The bytes of a line -/

namespace Text

/-- The bytes of a text in UTF-8. -/
def bytes (text : String) : List UInt8 := text.toUTF8.data.toList

theorem bytes_ofList (cs : List Char) :
    bytes (String.ofList cs) = cs.flatMap String.utf8EncodeChar := by
  rw [bytes, String.toUTF8, String.toByteArray_ofList, List.utf8Encode, List.data_toByteArray]

theorem bytes_eq (text : String) : bytes text = text.toList.flatMap String.utf8EncodeChar := by
  rw [← bytes_ofList, String.ofList_toList]

theorem bytes_append (a b : String) : bytes (a ++ b) = bytes a ++ bytes b := by
  rw [bytes_eq, bytes_eq, bytes_eq, String.toList_append, List.flatMap_append]

theorem length_bytes (text : String) : (bytes text).length = byteLength text.toList := by
  rw [bytes_eq]
  induction text.toList with
  | nil => rfl
  | cons c cs ih =>
    rw [List.flatMap_cons, List.length_append, String.length_utf8EncodeChar, ih, byteLength]

theorem bytes_injective : Function.Injective bytes := by
  intro a b h
  have hbytes : a.toByteArray = b.toByteArray := ByteArray.ext (Array.toList_inj.1 h)
  exact String.toByteArray_inj.1 hbytes

theorem exists_of_append_eq {a b c d : String} (h : a ++ b = c ++ d)
    (hle : (bytes a).length ≤ (bytes c).length) : ∃ mid, c = a ++ mid ∧ b = mid ++ d := by
  have hchars : a.toList ++ b.toList = c.toList ++ d.toList := by
    rw [← String.toList_append, h, String.toList_append]
  rcases List.append_eq_append_iff.1 hchars with ⟨mid, hc, hb⟩ | ⟨mid, ha, hd⟩
  · refine ⟨String.ofList mid, ?_, ?_⟩ <;> apply String.toList_inj.1
    · rw [String.toList_append, String.toList_ofList, hc]
    · rw [String.toList_append, String.toList_ofList, hb]
  · have hsame : a = c ++ String.ofList mid := by
      apply String.toList_inj.1
      rw [String.toList_append, String.toList_ofList, ha]
    have hempty : bytes (String.ofList mid) = bytes "" := by
      rw [hsame, bytes_append, List.length_append] at hle
      exact List.eq_nil_of_length_eq_zero (by omega)
    rw [bytes_injective hempty, String.append_empty] at hsame
    subst hsame
    have hback : b.toList = d.toList := List.append_cancel_left hchars
    exact ⟨"", (String.append_empty).symm, by rw [String.empty_append, String.toList_inj.1 hback]⟩

theorem insertAtByte_append (front back piece : String) :
    insertAtByte (front ++ back) (bytes front).length piece = some (front ++ piece ++ back) := by
  have hcut : cutAtByte (byteLength front.toList) (front ++ back).toList =
      some (front.toList, back.toList) := by
    rw [String.toList_append, cutAtByte_byteLength]
  rw [insertAtByte, length_bytes, hcut, Option.map_some, ← String.toList_append,
    ← String.toList_append, String.ofList_toList]

end Text

/-! ## Texts between bytes -/

section
variable {α : Type}

/-- A sequence with more put in: what `texts` has for a place stands in front of the element of that
    place, or at the end. The first element has the place `n`. -/
def interlace (texts : Nat → List α) : Nat → List α → List α
  | n, [] => texts n
  | n, b :: bs => texts n ++ b :: interlace texts (n + 1) bs

theorem interlace_congr {f g : Nat → List α} (bs : List α) :
    ∀ n, (∀ m, n ≤ m → f m = g m) → interlace f n bs = interlace g n bs := by
  induction bs with
  | nil =>
    intro n h
    exact h n (Nat.le_refl n)
  | cons b bs ih =>
    intro n h
    rw [interlace, interlace, h n (Nat.le_refl n), ih (n + 1) fun m hm => h m (by omega)]

theorem interlace_first {texts : Nat → List α} (bs : List α) :
    ∀ n, (∀ m, n < m → texts m = []) → interlace texts n bs = texts n ++ bs := by
  induction bs with
  | nil =>
    intro n _
    rw [interlace, List.append_nil]
  | cons b bs ih =>
    intro n h
    rw [interlace, ih (n + 1) fun m hm => h m (by omega), h (n + 1) (Nat.lt_succ_self n),
      List.nil_append]

theorem interlace_nil (bs : List α) (n : Nat) : interlace (fun _ => []) n bs = bs :=
  interlace_first bs n fun _ _ => rfl

/-- A piece that was put in behind all other places stands there behind the texts of its place. -/
theorem interlace_insert {texts : Nat → List α} (piece back front : List α) :
    ∀ n, (∀ m, n + front.length < m → texts m = []) →
      interlace texts n (front ++ piece ++ back) =
        interlace (fun m => if m = n + front.length then texts m ++ piece else texts m) n
          (front ++ back) := by
  induction front with
  | nil =>
    intro n h
    rw [List.length_nil, Nat.add_zero] at h ⊢
    rw [List.nil_append, List.nil_append, interlace_first _ n h, interlace_first _ n, if_pos rfl,
      List.append_assoc]
    intro m hm
    rw [if_neg (by omega), h m hm]
  | cons b front ih =>
    intro n h
    rw [List.length_cons] at h
    have hplace : n + (front.length + 1) = n + 1 + front.length := by omega
    rw [List.cons_append, List.cons_append, List.cons_append, interlace, interlace,
      ih (n + 1) (fun m hm => h m (by omega)), List.length_cons, hplace, if_neg (by omega)]

end

/-! ## The order of insertions -/

theorem textBefore_iff_lt {as bs : List Char} : textBefore as bs = true ↔ as < bs := by
  fun_induction textBefore as bs with
  | case1 as => exact iff_of_false Bool.false_ne_true (List.not_lt_nil _)
  | case2 b bs => exact iff_of_true rfl (List.nil_lt_cons _ _)
  | case3 as b bs ih => rw [ih, List.cons_lt_cons_self]
  | case4 a as b bs hne =>
    rw [decide_eq_true_iff, List.cons_lt_cons_iff]
    exact ⟨.inl, fun h => h.resolve_right fun h => hne h.1⟩

namespace Insertion

theorem key_injective : Function.Injective key := by
  intro a b h
  have hparts := Prod.mk.inj (toLex_inj.1 h)
  have hrest := Prod.mk.inj (toLex_inj.1 hparts.2)
  have htext := List.map_injective_iff.2 (fun _ _ => Char.toNat_inj.1) hrest.2
  cases a
  cases b
  exact Insertion.mk.injEq .. ▸ ⟨hparts.1, hrest.1, String.toList_inj.1 htext⟩

theorem mergeSort_perm {is js : List Insertion} (h : is.Perm js) :
    (is.mergeSort fun a b => !a.before b) = js.mergeSort fun a b => !a.before b := by
  refine List.Perm.eq_of_pairwise ?_ (pairwise_mergeSort is) (pairwise_mergeSort js) ?_
  · intro a b _ _ hab hba
    exact key_injective (le_antisymm hba hab)
  · exact ((List.mergeSort_perm is _).trans h).trans (List.mergeSort_perm js _).symm

theorem text_le_of_key_le {a b : Insertion} (h : b.key ≤ a.key) (hline : b.line = a.line)
    (hcolumn : b.column = a.column) : b.text ≤ a.text := by
  have hnot : ¬ a.before b = true := fun hlt => not_lt_of_ge h (before_iff.1 hlt)
  rw [before, if_neg (not_not_intro hline.symm), if_neg (not_not_intro hcolumn.symm),
    textBefore_iff_lt] at hnot
  exact String.le_iff_toList_le.2 (not_lt.1 hnot)

/-- A text goes in at the start of a line, at its end or between two of its characters. -/
structure OnBoundary (lines : List String) (i : Insertion) : Prop where
  line_pos : 1 ≤ i.line
  cut : ∃ front back : String,
    lines[i.line - 1]? = some (front ++ back) ∧ (Text.bytes front).length = i.column

section
variable {lines : List String} {i : Insertion}

theorem OnBoundary.set {j : Insertion} {front back : String} (hj : j.OnBoundary lines)
    (hi : 1 ≤ i.line) (hline : lines[i.line - 1]? = some (front ++ back))
    (hcolumn : (Text.bytes front).length = i.column) (hle : j.key ≤ i.key) :
    j.OnBoundary (lines.set (i.line - 1) (front ++ i.text ++ back)) := by
  obtain ⟨hpos, front', back', hline', hcolumn'⟩ := hj
  refine ⟨hpos, ?_⟩
  by_cases hsame : j.line = i.line
  · rw [hsame, hline, Option.some.injEq] at hline'
    have hshort : (Text.bytes front').length ≤ (Text.bytes front).length := by
      rw [hcolumn, hcolumn']
      exact column_le_of_key_le hle hsame
    obtain ⟨mid, rfl, -⟩ := Text.exists_of_append_eq hline'.symm hshort
    have hlt : i.line - 1 < lines.length := (List.getElem?_eq_some_iff.1 hline).1
    refine ⟨front', mid ++ i.text ++ back, ?_, hcolumn'⟩
    rw [hsame, List.getElem?_set_self hlt]
    simp only [String.append_assoc]
  · have hne : i.line - 1 ≠ j.line - 1 := by omega
    refine ⟨front', back', ?_, hcolumn'⟩
    rw [List.getElem?_set_ne hne, hline']

end

/-- The texts for a column of a line. -/
def textsFor (is : List Insertion) (line column : Nat) : List String :=
  (is.filter fun i => i.line = line ∧ i.column = column).map text

/-- The bytes of the texts for a column of a line, the last text in front. -/
def bytesFor (is : List Insertion) (line column : Nat) : List UInt8 :=
  (textsFor is line column).reverse.flatMap Text.bytes

theorem bytesFor_cons (i : Insertion) (is : List Insertion) (line column : Nat) :
    bytesFor (i :: is) line column =
      if i.line = line ∧ i.column = column then bytesFor is line column ++ Text.bytes i.text
      else bytesFor is line column := by
  rw [bytesFor, bytesFor, textsFor, textsFor, List.filter_cons]
  by_cases h : i.line = line ∧ i.column = column
  · rw [if_pos (decide_eq_true h), if_pos h, List.map_cons, List.reverse_cons,
      List.flatMap_append, List.flatMap_singleton]
  · rw [if_neg (by rwa [decide_eq_true_iff]), if_neg h]

theorem bytesFor_eq_nil {is : List Insertion} {line column : Nat}
    (h : ∀ i ∈ is, i.line = line → i.column ≠ column) : bytesFor is line column = [] := by
  have hnone : is.filter (fun i => i.line = line ∧ i.column = column) = [] := by
    rw [List.filter_eq_nil_iff]
    intro i hi
    rw [decide_eq_true_iff]
    exact fun hplace => h i hi hplace.1 hplace.2
  rw [bytesFor, textsFor, hnone]
  rfl

end Insertion

/-! ## All insertions -/

open Insertion

section
variable {is : List Insertion} {i : Insertion} {k : Nat}

/-- A text that stands behind all others goes into its line as if it had been there before them. -/
theorem interlace_last {front back : String} (hline : i.line = k + 1)
    (hcolumn : (Text.bytes front).length = i.column) (hlast : ∀ j ∈ is, j.key ≤ i.key) :
    interlace (bytesFor is (k + 1)) 0 (Text.bytes (front ++ i.text ++ back)) =
      interlace (bytesFor (i :: is) (k + 1)) 0 (Text.bytes (front ++ back)) := by
  have hbehind (m : Nat) (hm : 0 + (Text.bytes front).length < m) : bytesFor is (k + 1) m = [] := by
    refine bytesFor_eq_nil fun j hj hsame => ?_
    have hle := column_le_of_key_le (hlast j hj) (hsame.trans hline.symm)
    omega
  rw [Text.bytes_append, Text.bytes_append, Text.bytes_append, interlace_insert _ _ _ 0 hbehind]
  refine interlace_congr _ 0 fun m _ => ?_
  rw [bytesFor_cons]
  by_cases hm : m = i.column
  · rw [if_pos (by omega), if_pos ⟨hline, hm.symm⟩]
  · rw [if_neg (by omega), if_neg fun h => hm h.2.symm]

theorem interlace_elsewhere (hline : i.line ≠ k + 1) (bs : List UInt8) :
    interlace (bytesFor is (k + 1)) 0 bs = interlace (bytesFor (i :: is) (k + 1)) 0 bs := by
  refine interlace_congr bs 0 fun m _ => ?_
  rw [bytesFor_cons, if_neg fun h => hline h.1]

end

/-- **From the last text to the first, every text goes in at the column it had at first.** The
    induction is on the texts that remain: the one that goes in stands behind all of them. -/
theorem exists_foldlM_interlace {is : List Insertion}
    (hsorted : is.Pairwise fun a b => b.key ≤ a.key) :
    ∀ lines : List String, (∀ i ∈ is, i.OnBoundary lines) →
      ∃ new, is.foldlM insertInto lines = .ok new ∧ new.length = lines.length ∧
        ∀ (k : Nat) (line : String), lines[k]? = some line → ∃ text, new[k]? = some text ∧
          Text.bytes text = interlace (bytesFor is (k + 1)) 0 (Text.bytes line) := by
  induction is with
  | nil =>
    intro lines _
    exact ⟨lines, rfl, rfl, fun k line hline => ⟨line, hline, (interlace_nil _ 0).symm⟩⟩
  | cons i is ih =>
    intro lines hplaces
    obtain ⟨hlast, hrest⟩ := List.pairwise_cons.1 hsorted
    obtain ⟨hpos, front, back, hi, hcolumn⟩ := hplaces i List.mem_cons_self
    obtain ⟨new, hnew, hlength, hbytes⟩ := ih hrest
      (lines.set (i.line - 1) (front ++ i.text ++ back)) fun j hj =>
        (hplaces j (List.mem_cons_of_mem i hj)).set hpos hi hcolumn (hlast j hj)
    have hinto : insertInto lines i = .ok (lines.set (i.line - 1) (front ++ i.text ++ back)) := by
      rw [insertInto, hi]
      dsimp only
      rw [← hcolumn, Text.insertAtByte_append]
    refine ⟨new, ?_, hlength.trans List.length_set, fun k line hline => ?_⟩
    · rw [List.foldlM_cons, hinto]
      exact hnew
    · by_cases hk : i.line = k + 1
      · have hindex : i.line - 1 = k := by omega
        rw [hindex] at hi hbytes
        obtain rfl := Option.some.inj (hline.symm.trans hi)
        obtain ⟨text, htext, heq⟩ := hbytes k _
          (List.getElem?_set_self (List.getElem?_eq_some_iff.1 hline).1)
        exact ⟨text, htext, heq.trans (interlace_last hk hcolumn hlast)⟩
      · obtain ⟨text, htext, heq⟩ := hbytes k line
          (by rw [List.getElem?_set_ne (by omega), hline])
        exact ⟨text, htext, heq.trans (interlace_elsewhere hk _)⟩

theorem reverse_textsFor_mergeSort (is : List Insertion) (line column : Nat) :
    (textsFor (is.mergeSort fun a b => !a.before b) line column).reverse =
      (textsFor is line column).mergeSort fun a b => decide (a ≤ b) := by
  refine List.Perm.eq_of_pairwise (fun a b _ _ (hab : a ≤ b) hba => le_antisymm hab hba) ?_ ?_ ?_
  · rw [List.pairwise_reverse, textsFor, List.pairwise_map]
    refine ((pairwise_mergeSort is).filter _).imp_of_mem fun {a b} ha hb hle => ?_
    have ha := of_decide_eq_true (List.mem_filter.1 ha).2
    have hb := of_decide_eq_true (List.mem_filter.1 hb).2
    exact text_le_of_key_le hle (hb.1.trans ha.1.symm) (hb.2.trans ha.2.symm)
  · refine (List.pairwise_mergeSort (fun a b c hab hbc => ?_) (fun a b => ?_) _).imp
      of_decide_eq_true
    · exact decide_eq_true ((of_decide_eq_true hab).trans (of_decide_eq_true hbc))
    · simpa using le_total a b
  · exact (List.reverse_perm _).trans
      ((((List.mergeSort_perm is _).filter _).map _).trans (List.mergeSort_perm _ _).symm)

/-- **Texts that are put in one after the other stand as if all had been put in at once.** Where every
    text goes to a boundary of characters in a line that exists, all of them go in. Every line then has its
    bytes with the texts for each column in front of the byte there, in ascending order, or at its end.
    Lines without texts stay as they are, and the order of the texts does not matter. -/
theorem insertAll_eq_interlace {lines : List String} {insertions : List Insertion}
    (h : ∀ i ∈ insertions, i.OnBoundary lines) :
    ∃ new : List String,
      (∀ order : List Insertion, order.Perm insertions → insertAll lines order = .ok new) ∧
      new.length = lines.length ∧
      ∀ (k : Nat) (line : String), lines[k]? = some line → ∃ text, new[k]? = some text ∧
        Text.bytes text =
          interlace (fun column => ((textsFor insertions (k + 1) column).mergeSort fun a b =>
            decide (a ≤ b)).flatMap Text.bytes) 0 (Text.bytes line) ∧
        ((∀ i ∈ insertions, i.line ≠ k + 1) → text = line) := by
  obtain ⟨new, hnew, hlength, hbytes⟩ := exists_foldlM_interlace (pairwise_mergeSort insertions)
    lines fun i hi => h i (List.mem_mergeSort.1 hi)
  refine ⟨new, fun order horder => ?_, hlength, fun k line hline => ?_⟩
  · rw [insertAll, mergeSort_perm horder]
    exact hnew
  · obtain ⟨text, htext, heq⟩ := hbytes k line hline
    refine ⟨text, htext, heq.trans (interlace_congr _ 0 fun m _ => ?_), fun hnone => ?_⟩
    · rw [bytesFor, reverse_textsFor_mergeSort]
    · refine Text.bytes_injective (heq.trans ?_)
      rw [interlace_congr _ 0 fun m _ => ?_, interlace_nil]
      exact bytesFor_eq_nil fun i hi hline => absurd hline (hnone i (List.mem_mergeSort.1 hi))

/-- Letters of two bytes, texts at three columns, and two texts at one of them. -/
theorem insertAll_eq_interlace_accents :
    (∀ i ∈ [⟨1, 9, ")"⟩, ⟨1, 2, "b"⟩, ⟨1, 5, "f("⟩, ⟨1, 2, "a"⟩], OnBoundary ["é = 'ü'", "x"] i) ∧
    ∃ new text, insertAll ["é = 'ü'", "x"]
        [⟨1, 9, ")"⟩, ⟨1, 2, "b"⟩, ⟨1, 5, "f("⟩, ⟨1, 2, "a"⟩] = .ok new ∧
      new.length = 2 ∧ new[1]? = some "x" ∧ new[0]? = some text ∧
      Text.bytes text = Text.bytes "éab = f('ü')" := by
  have hplaces : ∀ i ∈ [⟨1, 9, ")"⟩, ⟨1, 2, "b"⟩, ⟨1, 5, "f("⟩, ⟨1, 2, "a"⟩],
      OnBoundary ["é = 'ü'", "x"] i := by
    simp only [List.forall_mem_cons]
    refine ⟨⟨by decide, "é = 'ü'", "", by decide, by decide⟩,
      ⟨by decide, "é", " = 'ü'", by decide, by decide⟩,
      ⟨by decide, "é = ", "'ü'", by decide, by decide⟩,
      ⟨by decide, "é", " = 'ü'", by decide, by decide⟩, nofun⟩
  obtain ⟨new, hnew, hlength, hlines⟩ := insertAll_eq_interlace hplaces
  obtain ⟨text, htext, hbytes, -⟩ := hlines 0 "é = 'ü'" rfl
  obtain ⟨last, hlast, -, hsame⟩ := hlines 1 "x" rfl
  refine ⟨hplaces, new, text, hnew _ (.refl _), hlength, ?_, htext, hbytes.trans ?_⟩
  · rw [hlast, hsame (by decide)]
  · have hline : Text.bytes "é = 'ü'" = [195, 169, 32, 61, 32, 39, 195, 188, 39] := by decide +kernel
    have hpair : ["b", "a"].mergeSort (fun a b => decide (a ≤ b)) = ["a", "b"] := by
      simp [List.mergeSort]
    simp only [textsFor, hline, hpair, interlace, Nat.zero_add, Nat.reduceAdd, Nat.reduceEqDiff,
      Nat.succ_ne_self, reduceCtorEq, Bool.decide_and, decide_true, decide_false, Bool.and_self,
      Bool.and_false, Bool.false_eq_true, not_false_eq_true, List.filter_cons_of_pos,
      List.filter_cons_of_neg, List.filter_nil, List.map_cons, List.map_nil, List.mergeSort_nil,
      List.mergeSort_singleton, List.flatMap_cons, List.flatMap_nil, List.append_nil,
      List.nil_append]
    decide +kernel

end RecordLens
