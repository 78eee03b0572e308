import RecordLens.Expansion.Imports
import RecordLens.Expansion.Fields
import RecordLens.Proofs.Outcome
/-!
What insertions leave as it is: the number of lines, and which lines start with a comment. So what is
found above the first class of a text is found there after its fields have been changed.

* `insertAll_keeps`: no line is added, and no line becomes a comment.
* `headerEnd_le`: the comment lines at the top.
-/
namespace RecordLens

/-- Whether a line starts with a comment. -/
def startsComment (line : String) : Bool := line.toList.head? = some '#'

/-- One text of lines made from another without a new line and without a new comment. -/
structure KeepsLines (lines new : List String) : Prop where
  length_eq : new.length = lines.length
  comment : ∀ (k : Nat) (l : String), new[k]? = some l → startsComment l = true →
    ∃ old, lines[k]? = some old ∧ startsComment old = true

namespace KeepsLines

theorem refl (lines : List String) : KeepsLines lines lines := ⟨rfl, fun _ l hl hc => ⟨l, hl, hc⟩⟩

theorem trans {a b c : List String} (hab : KeepsLines a b) (hbc : KeepsLines b c) :
    KeepsLines a c := by
  refine ⟨hbc.length_eq.trans hab.length_eq, fun k l hl hc => ?_⟩
  obtain ⟨mid, hmid, hmidc⟩ := hbc.comment k l hl hc
  exact hab.comment k mid hmid hmidc

theorem set {lines : List String} {n : Nat} {old new : String} (hold : lines[n]? = some old)
    (hnew : startsComment new = true → startsComment old = true) :
    KeepsLines lines (lines.set n new) := by
  refine ⟨List.length_set, fun k l hl hc => ?_⟩
  by_cases hk : n = k
  · subst hk
    rw [List.getElem?_set_self (List.getElem?_eq_some_iff.1 hold).1] at hl
    obtain rfl := Option.some.inj hl
    exact ⟨old, hold, hnew hc⟩
  · rw [List.getElem?_set_ne hk] at hl
    exact ⟨l, hl, hc⟩

end KeepsLines

theorem cutAtByte_append {n : Nat} {cs : List Char} {cut : List Char × List Char}
    (h : Text.cutAtByte n cs = some cut) : cut.1 ++ cut.2 = cs := by
  fun_induction Text.cutAtByte n cs generalizing cut with
  | case1 cs =>
    obtain rfl := Option.some.inj h
    rfl
  | case2 n =>
    obtain rfl := Option.some.inj h
    rfl
  | case3 n c cs _ ih =>
    obtain ⟨rest, hrest, rfl⟩ := Option.map_eq_some_iff.1 h
    exact congrArg (c :: ·) (ih hrest)
  | case4 => exact absurd h nofun

/-- A line into which a text was put starts with a comment only if it did, or the text does. -/
theorem startsComment_of_insertAtByte {line piece new : String} {column : Nat} {c : Char}
    (hpiece : piece.toList.head? = some c) (hc : c ≠ '#')
    (h : Text.insertAtByte line column piece = some new) (hnew : startsComment new = true) :
    startsComment line = true := by
  obtain ⟨⟨front, back⟩, hcut, rfl⟩ := Option.map_eq_some_iff.1 h
  have hline : front ++ back = line.toList := cutAtByte_append hcut
  unfold startsComment at hnew ⊢
  rw [← hline]
  cases front with
  | nil =>
    have hhash := of_decide_eq_true hnew
    rw [String.toList_ofList, List.nil_append, List.head?_append, hpiece] at hhash
    exact absurd (Option.some.inj hhash) hc
  | cons d front => rwa [String.toList_ofList] at hnew

theorem insertInto_eq_ok {lines new : List String} {i : Insertion} (h : insertInto lines i = .ok new) :
    lines[i.line - 1]? = none ∧ new = lines ∨ ∃ line text, lines[i.line - 1]? = some line ∧
      Text.insertAtByte line i.column i.text = some text ∧ new = lines.set (i.line - 1) text := by
  unfold insertInto at h
  split at h
  next hnone => exact .inl ⟨hnone, (Except.ok.inj h).symm⟩
  next line hline =>
    split at h
    next text htext => exact .inr ⟨line, text, hline, htext, (Except.ok.inj h).symm⟩
    next => exact absurd h error_ne_ok

theorem insertInto_keeps {lines new : List String} {i : Insertion}
    (hi : ∃ c, i.text.toList.head? = some c ∧ c ≠ '#') (h : insertInto lines i = .ok new) :
    KeepsLines lines new := by
  obtain ⟨c, htext, hc⟩ := hi
  rcases insertInto_eq_ok h with ⟨-, rfl⟩ | ⟨old, changed, hold, hchanged, rfl⟩
  · exact .refl _
  · exact .set hold (startsComment_of_insertAtByte htext hc hchanged)

theorem foldlM_insertInto_keeps {is : List Insertion} {lines new : List String}
    (his : ∀ i ∈ is, ∃ c, i.text.toList.head? = some c ∧ c ≠ '#')
    (h : is.foldlM insertInto lines = .ok new) : KeepsLines lines new := by
  induction is generalizing lines with
  | nil =>
    obtain rfl := Except.ok.inj h
    exact .refl lines
  | cons i is ih =>
    rw [List.foldlM_cons] at h
    obtain ⟨mid, hmid, hrest⟩ := bind_eq_ok.1 h
    exact (insertInto_keeps (his i List.mem_cons_self) hmid).trans
      (ih (fun j hj => his j (List.mem_cons_of_mem i hj)) hrest)

theorem exists_of_mem_insertions {tree : List Code.Stmt} {p : Plan} {i : Insertion}
    (hi : i ∈ p.insertions tree) : ∃ line body span target id value f,
      (line, body) ∈ classBodies tree ∧ .assign span [.name target id] value ∈ body ∧
      f ∈ p.fields ∧ f.inferred = true ∧
      (i = ⟨target.endLine, target.endColumn, ": " ++ f.type⟩ ∨
       i = ⟨value.span.line, value.span.column, "dataclasses.field(default="⟩ ∨
       i = ⟨value.span.endLine, value.span.endColumn, ", kw_only=True)"⟩) := by
  unfold Plan.insertions at hi
  split at hi
  next body hlookup =>
    have hbody : (p.declaration.location.line, body) ∈ classBodies tree := by
      obtain ⟨front, back, heq, -⟩ := List.lookup_eq_some_iff.1 hlookup
      exact heq ▸ List.mem_append_right front List.mem_cons_self
    obtain ⟨s, hs, hi⟩ := List.mem_flatMap.1 hi
    unfold insertionsFor at hi
    split at hi
    next span target id value =>
      split at hi
      next f hf =>
        unfold inferredField? at hf
        have hinferred := List.find?_some hf
        rw [Bool.and_eq_true, Bool.and_eq_true] at hinferred
        exact ⟨_, body, span, target, id, value, f, hbody, hs,
          List.mem_reverse.1 (List.mem_of_find?_eq_some hf), hinferred.1.1, by simpa using hi⟩
      · exact absurd hi List.not_mem_nil
    · exact absurd hi List.not_mem_nil
  · exact absurd hi List.not_mem_nil

theorem text_of_mem_insertions {tree : List Code.Stmt} {p : Plan} {i : Insertion}
    (hi : i ∈ p.insertions tree) : ∃ c, i.text.toList.head? = some c ∧ c ≠ '#' := by
  obtain ⟨-, -, -, -, -, -, f, -, -, -, -, rfl | rfl | rfl⟩ := exists_of_mem_insertions hi
  · exact ⟨':', by rw [String.toList_append]; rfl, by decide⟩
  · exact ⟨'d', by dsimp only; decide, by decide⟩
  · exact ⟨',', by dsimp only; decide, by decide⟩

/-- **Insertions add no lines and no comments.** -/
theorem insertAll_keeps {tree : List Code.Stmt} {plans : List Plan} {lines new : List String}
    (h : insertAll lines (plans.flatMap (·.insertions tree)) = .ok new) : KeepsLines lines new := by
  refine foldlM_insertInto_keeps (fun i hi => ?_) h
  obtain ⟨p, -, hp⟩ := List.mem_flatMap.1 (List.mem_mergeSort.1 hi)
  exact text_of_mem_insertions hp

/-- The lines at the start of a text that pass a test are no more than those of a text that passes the
    test wherever the first one does. -/
theorem length_takeWhile_le {α : Type} {p : α → Bool} {xs ys : List α}
    (h : ∀ (k : Nat) (x : α), xs[k]? = some x → p x = true → ∃ y, ys[k]? = some y ∧ p y = true) :
    (xs.takeWhile p).length ≤ (ys.takeWhile p).length := by
  induction xs generalizing ys with
  | nil => exact Nat.zero_le _
  | cons x xs ih =>
    rw [List.takeWhile_cons]
    split
    · rename_i hx
      obtain ⟨y, hy, hpy⟩ := h 0 x rfl hx
      cases ys with
      | nil => exact absurd hy nofun
      | cons z ys =>
        obtain rfl := Option.some.inj hy
        rw [List.takeWhile_cons, if_pos hpy]
        exact Nat.succ_le_succ (ih fun k => h (k + 1))
    · exact Nat.zero_le _

/-- The header does not get longer. -/
theorem headerEnd_le (tree : List Code.Stmt) {lines new : List String} (h : KeepsLines lines new) :
    headerEnd tree new ≤ headerEnd tree lines := by
  unfold headerEnd
  split
  · exact length_takeWhile_le h.comment
  · exact Nat.le_refl _

end RecordLens
