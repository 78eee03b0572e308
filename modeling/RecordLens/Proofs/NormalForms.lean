import RecordLens.Proofs.UnifiedText
import RecordLens.Text.NormalForm
/-!
The normal form of an identifier holds no carriage return if the identifier holds none: characters are
taken apart into others than that, and put together to others than that.

* `Text.isDistant`: entries of the tables whose values come behind the carriage return.
* `not_mem_decompose`, `compose?_ne`: single code points.
* `unified_normalForm`: identifiers.
-/
namespace RecordLens.Text

/-! ## Tables -/

/-- Whether the values of an entry, which stand behind its first two numbers, come behind the carriage
    return. -/
def isDistant (entry : List Nat) : Bool := (entry.drop 2).all (13 < ·)

theorem lt_of_isDistant {entry : List Nat} (h : isDistant entry = true) {n : Nat}
    (hn : n ∈ entry.drop 2) : 13 < n :=
  of_decide_eq_true (List.all_eq_true.1 h n hn)

/-- The characters of lines. -/
inductive Spells : List (List Char) → List String → Prop
  | nil : Spells [] []
  | cons {cs : List Char} {spelling : List (List Char)} {lines : List String}
      (h : Spells spelling lines) : Spells (cs :: spelling) (String.ofList cs :: lines)

theorem Spells.toList_mem {spelling : List (List Char)} {lines : List String}
    (h : Spells spelling lines) : ∀ line ∈ lines, line.toList ∈ spelling := by
  induction h with
  | nil => exact nofun
  | cons _ ih =>
    refine List.forall_mem_cons.2 ⟨?_, fun line hline => List.mem_cons_of_mem _ (ih line hline)⟩
    rw [String.toList_ofList]
    exact List.mem_cons_self

theorem isDistant_of_mem_readTable {lines : List String} {spelling : List (List Char)}
    (hlines : Spells spelling lines)
    (h : (spelling.all fun cs => (readEntries 0 [] cs).all isDistant) = true) :
    ∀ entry ∈ readTable lines, isDistant entry = true := by
  intro entry hentry
  obtain ⟨line, hline, hmem⟩ := List.mem_flatMap.1 (List.mem_toArray.1 hentry)
  have hspelt := List.all_eq_true.1 h line.toList (hlines.toList_mem line hline)
  exact List.all_eq_true.1 hspelt entry hmem

theorem isDistant_of_mem_decompositions : ∀ entry ∈ decompositions, isDistant entry = true := by
  unfold decompositions
  apply isDistant_of_mem_readTable
  case hlines => repeat constructor
  case h => decide +kernel

theorem isDistant_of_mem_compositions : ∀ entry ∈ compositions, isDistant entry = true := by
  unfold compositions
  apply isDistant_of_mem_readTable
  case hlines => repeat constructor
  case h => decide +kernel

theorem findEntry_mem (table : Array (List Nat)) (n : Nat) :
    findEntry table n = [] ∨ findEntry table n ∈ table := by
  unfold findEntry
  split
  · exact .inl rfl
  next place _ =>
    rw [Array.getD_eq_getD_getElem?]
    cases h : table[place]? with
    | none => exact .inl rfl
    | some entry => exact .inr (Array.mem_of_getElem? h)

theorem isDistant_findEntry {table : Array (List Nat)} (h : ∀ entry ∈ table, isDistant entry = true)
    (n : Nat) : isDistant (findEntry table n) = true := by
  rcases findEntry_mem table n with hnil | hmem
  · rw [hnil]
    rfl
  · exact h _ hmem

/-! ## Single code points -/

variable {p q a b s starter : Nat} {marks ps done : List Nat}

theorem not_mem_syllableLetters (p : Nat) : 13 ∉ syllableLetters p := by
  unfold syllableLetters leadBase vowelBase tailBase
  dsimp only
  split <;> simp <;> omega

theorem not_mem_decompose (h : p ≠ 13) : 13 ∉ decompose p := by
  have hself : 13 ∉ [p] := fun hmem => h (List.mem_singleton.1 hmem).symm
  have hdistant := isDistant_findEntry isDistant_of_mem_decompositions p
  unfold decompose
  generalize findEntry decompositions p = entry at hdistant ⊢
  split
  · exact hself
  split
  · exact not_mem_syllableLetters p
  split
  next start count first rest =>
    have hfirst := lt_of_isDistant hdistant (n := first) List.mem_cons_self
    split
    · split
      · rw [List.mem_singleton]
        omega
      · intro hmem
        exact Nat.lt_irrefl 13 (lt_of_isDistant hdistant hmem)
    · exact hself
  · exact hself

theorem syllable?_ne (h : syllable? a b = some s) : s ≠ 13 := by
  unfold syllable? at h
  split at h
  · obtain rfl := Option.some.inj h
    unfold syllableBase
    omega
  split at h
  next hparts =>
    obtain rfl := Option.some.inj h
    simp only [Bool.and_eq_true, decide_eq_true_eq] at hparts
    have hbase : 0xAC00 ≤ a := hparts.1.1.1.1
    omega
  · exact absurd h nofun

theorem mem_of_partner {pairs : List Nat} (h : partner b pairs = some s) : s ∈ pairs.drop 1 := by
  fun_induction partner with
  | case1 value rest =>
    obtain rfl := Option.some.inj h
    exact List.mem_cons_self
  | case2 c value rest hne ih =>
    exact List.mem_cons_of_mem value (List.mem_of_mem_drop (ih h))
  | case3 => exact absurd h nofun

theorem compose?_ne (h : compose? a b = some s) : s ≠ 13 := by
  have hdistant := isDistant_findEntry isDistant_of_mem_compositions a
  rw [compose?] at h
  -- the table itself is not looked into from here on
  revert hdistant h
  generalize findEntry compositions a = entry
  intro h hdistant
  cases hsyllable : syllable? a b with
  | some s' =>
    rw [hsyllable] at h
    obtain rfl := Option.some.inj h
    exact syllable?_ne hsyllable
  | none =>
    rw [hsyllable] at h
    cases entry with
    | nil => exact absurd h nofun
    | cons c pairs =>
      dsimp only at h
      split at h
      · exact Nat.ne_of_gt (lt_of_isDistant hdistant (mem_of_partner h))
      · exact absurd h nofun

/-! ## Identifiers -/

theorem mem_of_mem_placeMark (h : q ∈ placeMark p done) : q = p ∨ q ∈ done := by
  induction done with
  | nil => exact .inl (List.mem_singleton.1 h)
  | cons d ds ih =>
    rw [placeMark] at h
    split at h
    · rcases List.mem_cons.1 h with rfl | h
      · exact .inr List.mem_cons_self
      · exact (ih h).imp_right (List.mem_cons_of_mem d)
    · exact List.mem_cons.1 h

theorem mem_of_mem_orderMarks (h : q ∈ orderMarks done ps) : q ∈ done ∨ q ∈ ps := by
  induction ps generalizing done with
  | nil => exact .inl (List.mem_reverse.1 h)
  | cons p ps ih =>
    rw [orderMarks] at h
    rcases ih h with hdone | hps
    · have hplaced : q = p ∨ q ∈ done := by
        split at hdone
        · exact List.mem_cons.1 hdone
        · exact mem_of_mem_placeMark hdone
      rcases hplaced with rfl | hdone
      · exact .inr List.mem_cons_self
      · exact .inl hdone
    · exact .inr (List.mem_cons_of_mem p hps)

theorem not_mem_composeFrom (hstarter : starter ≠ 13) (hmarks : 13 ∉ marks) (hps : 13 ∉ ps) :
    13 ∉ composeFrom starter marks ps := by
  induction ps generalizing starter marks with
  | nil => simp [composeFrom, hstarter.symm, hmarks]
  | cons p ps ih =>
    obtain ⟨hp, hps⟩ := List.ne_and_not_mem_of_not_mem_cons hps
    rw [composeFrom.eq_def]
    dsimp only
    split
    next composed hcompose =>
      refine ih ?_ hmarks hps
      rw [Option.ite_none_left_eq_some] at hcompose
      exact compose?_ne hcompose.2
    split
    · simp [hstarter.symm, hmarks, ih (Ne.symm hp) List.not_mem_nil hps]
    · exact ih hstarter (by simp [hp, hmarks]) hps

theorem not_mem_composeAll (h : 13 ∉ ps) : 13 ∉ composeAll ps := by
  induction ps with
  | nil => exact List.not_mem_nil
  | cons p ps ih =>
    obtain ⟨hp, hps⟩ := List.ne_and_not_mem_of_not_mem_cons h
    rw [composeAll]
    split
    · exact not_mem_composeFrom (Ne.symm hp) List.not_mem_nil hps
    · exact List.not_mem_cons_of_ne_of_not_mem hp (ih hps)

/-- **The normal form of an identifier holds no carriage return that the identifier does not hold.** -/
theorem unified_normalForm {name : String} (h : Unified name) : Unified (normalForm name) := by
  unfold normalForm
  split
  · exact h
  · refine unified_ofPoints (not_mem_composeAll fun hmem => ?_)
    rcases mem_of_mem_orderMarks hmem with hnil | hmem
    · exact List.not_mem_nil hnil
    obtain ⟨p, hp, hmem⟩ := List.mem_flatMap.1 hmem
    exact not_mem_decompose (fun heq => not_mem_points h (heq ▸ hp)) hmem

end RecordLens.Text
