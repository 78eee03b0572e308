import Mathlib.Data.List.Pairwise
import RecordLens.Proofs.MemberTexts
import RecordLens.Proofs.NestedBlocks
import RecordLens.Proofs.Weaving
/-!
Which classes are known as expanded after a run. The members of a class bring in one marker, in the
indentation of that class; no other line of theirs ends like it. A class is looked up in the lines that it
has after the run: its own ones, and the members of the classes in it, which are indented otherwise. The
members of the classes around it stand below its last line.

* `Plan.marker_mem_memberLines_iff`: the markers among the lines of the members.
* `Location.after`: the lines of a class after a run.
* `lines_after`: what stands there.
* `isExpanded_after_iff`: the classes that are known as expanded.
-/
namespace RecordLens

open Code

/-! ## Markers among the members -/

/-- A line that ends with a full stop, as the marker does. -/
def Stops (line : String) : Prop := line.toList.getLast? = some '.'

instance (line : String) : Decidable (Stops line) := inferInstanceAs (Decidable (_ = _))

theorem stops_append {s t : String} (h : t ≠ "") : Stops (s ++ t) ↔ Stops t := by
  have hne : t.toList ≠ [] := fun hnil => h (String.toList_eq_nil_iff.1 hnil)
  rw [Stops, Stops, String.toList_append, List.getLast?_append_of_ne_nil _ hne]

theorem not_stops_append {s t : String} (h : t ≠ "" ∧ ¬ Stops t) : ¬ Stops (s ++ t) :=
  fun hstops => h.2 ((stops_append h.1).1 hstops)

namespace Plan

theorem not_stops_indented {indent line : String} (h : ¬ Stops line) :
    ¬ Stops (indented indent line) := by
  unfold indented
  split
  · decide
  next hline => exact not_stops_append ⟨fun hempty => hline (String.isEmpty_iff.2 hempty), h⟩

variable (p : Plan)

theorem not_stops_accessorLines : ∀ l ∈ p.accessorLines, ¬ Stops l := by
  unfold accessorLines
  refine List.forall_mem_append.2 ⟨List.forall_mem_append.2 ⟨?_, ?_⟩, ?_⟩
  · decide
  · split
    · decide
    · refine List.forall_mem_map.2 fun f _ => ?_
      rw [tokenLine, token, ← String.append_assoc]
      exact not_stops_append (by decide)
  · simp only [List.forall_mem_cons]
    exact ⟨by decide, by decide, not_stops_append (by decide), not_stops_append (by decide),
      List.forall_mem_nil _⟩

theorem not_stops_constructorLines : ∀ l ∈ p.constructorLines, ¬ Stops l := by
  have hbody : ∀ i ∈ p.constructorBody, ¬ Stops (step ++ i.text) := by
    refine forall_constructorBody (by decide) (fun x _ => ?_) (by decide)
    rw [Instruction.text, ← String.append_assoc]
    exact not_stops_append (by decide)
  unfold constructorLines
  refine List.forall_mem_append.2 ⟨?_, List.forall_mem_map.2 hbody⟩
  simp only [List.forall_mem_cons]
  exact ⟨by decide, not_stops_append (by decide), List.forall_mem_nil _⟩

theorem not_stops_lensLines (l : LensPlan) : ∀ s ∈ p.lensLines l, ¬ Stops s := by
  unfold lensLines
  refine List.forall_mem_append.2 ⟨List.forall_mem_append.2 ⟨?_, ?_⟩, by decide⟩
  · simp only [List.forall_mem_cons]
    exact ⟨not_stops_append (by decide), not_stops_append (by decide),
      not_stops_append (by decide), List.forall_mem_nil _⟩
  · exact List.forall_mem_map.2 fun a _ => not_stops_append (by decide)

theorem not_stops_registryLines : ∀ l ∈ p.registryLines, ¬ Stops l := by
  unfold registryLines
  split
  · exact List.forall_mem_singleton.2 (not_stops_append (by decide))
  · refine List.forall_mem_append.2 ⟨List.forall_mem_append.2 ⟨?_, ?_⟩, by decide⟩
    · simp only [List.forall_mem_cons]
      exact ⟨not_stops_append (by decide), not_stops_append (by decide), by decide,
        List.forall_mem_nil _⟩
    · refine List.forall_mem_map.2 fun l _ => ?_
      rw [entryLine, ← String.append_assoc]
      exact not_stops_append (by decide)

theorem not_stops_lensesLines : ∀ l ∈ p.lensesLines, ¬ Stops l :=
  forall_lensesLines (P := fun l => ¬ Stops l) (by decide) (by decide) (fun _ => not_stops_indented)
    (fun l _ => p.not_stops_lensLines l) p.not_stops_registryLines

/-- **The members hold the marker in the indentation of their class, and in no other one.** -/
theorem marker_mem_memberLines_iff {indent other : String} :
    other ++ marker ∈ p.memberLines indent ↔ other = indent := by
  have hmarker : indented indent marker = indent ++ marker := if_neg (by decide)
  have hstops : Stops (other ++ marker) := (stops_append (by decide)).2 (by decide)
  rw [memberLines, List.map_append, List.mem_append]
  constructor
  · rintro (hmem | hmem)
    · simp only [List.map_cons, List.map_nil, List.mem_cons, List.not_mem_nil, or_false] at hmem
      rcases hmem with hempty | heq
      · rw [hempty] at hstops
        exact absurd hstops (not_stops_indented (by decide))
      · rw [hmarker, String.append_left_inj] at heq
        exact heq
    · -- no other line ends like the marker
      obtain ⟨line, hline, heq⟩ := List.mem_map.1 hmem
      have hnot := forall_parts (by decide) p.not_stops_accessorLines
        (fun _ => p.not_stops_constructorLines) p.not_stops_lensesLines line hline
      rw [← heq] at hstops
      exact absurd hstops (not_stops_indented hnot)
  · rintro rfl
    rw [← hmarker]
    exact .inl (List.mem_map_of_mem (by simp))

end Plan

/-! ## The lines of a class after a run -/

namespace Location

/-- Two classes have no line in common. -/
def Apart (a b : Location) : Prop := a.endLine < b.line ∨ b.endLine < a.line

/-- All lines of one class are lines of another one. -/
def Within (a b : Location) : Prop := b.line ≤ a.line ∧ a.endLine ≤ b.endLine

/-- Two classes have no line in common, or one of them is nested in the other and indented differently. -/
def NestsOrParts (a b : Location) : Prop :=
  a.Apart b ∨ (a.Within b ∨ b.Within a) ∧ a.indent ≠ b.indent

instance (a b : Location) : Decidable (a.NestsOrParts b) :=
  inferInstanceAs (Decidable ((_ ∨ _) ∨ ((_ ∧ _) ∨ (_ ∧ _)) ∧ _))

theorem NestsOrParts.symm {a b : Location} (h : a.NestsOrParts b) : b.NestsOrParts a :=
  h.imp Or.symm fun h => ⟨h.1.symm, h.2.symm⟩

/-- The lines of a class after blocks and `imports` lines above all classes have gone in. It moves down by
    what was put in above it, and takes in the blocks of the class and of the classes in it. -/
def after (imports : Nat) (blocks : List (Block String)) (l : Location) : Location :=
  let above := imports + linesOf (fun b => b.endLine < l.line) blocks
  let inside := linesOf (fun b => l.line ≤ b.line && b.endLine ≤ l.endLine) blocks
  { l with line := l.line + above, endLine := l.endLine + above + inside }

end Location

/-- A declaration on the lines that it has after a run. -/
def Declaration.after (imports : Nat) (blocks : List (Block String)) (d : Declaration) : Declaration :=
  { d with location := d.location.after imports blocks }

theorem Declaration.isExpanded_iff_mem {d : Declaration} {lines : List String} :
    d.isExpanded lines = true ↔ d.location.indent ++ Plan.marker ∈
      (lines.take d.location.endLine).drop (d.location.line - 1) := by
  rw [isExpanded, List.any_eq_true]
  constructor
  · rintro ⟨l, hl, hmarker⟩
    rw [← of_decide_eq_true hmarker]
    exact hl
  · intro hmem
    exact ⟨_, hmem, decide_eq_true rfl⟩

section
variable (tree : List Stmt) {lines : List String} {classes : List Declaration} {plans : List Plan}
  (needsFields : Bool)
  (hrange : ∀ d ∈ classes, headerEnd tree lines < d.location.line ∧
    d.location.line ≤ d.location.endLine ∧ d.location.endLine ≤ lines.length)
  (hfamily : classes.Pairwise fun a b => a.location.NestsOrParts b.location)
  (hplans : ∀ p ∈ plans, p.declaration ∈ classes)

include hfamily in
theorem nestsOrParts_of_ne {c d : Declaration} (hc : c ∈ classes) (hd : d ∈ classes) (hne : c ≠ d) :
    c.location.NestsOrParts d.location := by
  have : Std.Symm fun a b : Declaration => a.location.NestsOrParts b.location :=
    ⟨fun _ _ => Location.NestsOrParts.symm⟩
  exact hfamily.forall hc hd hne

include hfamily hplans in
/-- The block of a plan is inside a class, around it, or apart from it. -/
theorem clear_of_family {d : Declaration} (hd : d ∈ classes) :
    ∀ b ∈ plans.map Plan.block, b.Clear d.location.line d.location.endLine := by
  refine List.forall_mem_map.2 fun p hp => ?_
  rw [Block.Clear, Plan.block]
  dsimp only
  by_cases hsame : p.declaration = d
  · rw [hsame]
    omega
  · rcases nestsOrParts_of_ne hfamily (hplans p hp) hd hsame with hapart | ⟨hwithin | hwithin, -⟩
    · rw [Location.Apart] at hapart
      omega
    · rw [Location.Within] at hwithin
      omega
    · rw [Location.Within] at hwithin
      omega

include hrange hfamily hplans in
/-- **What stands on the lines of a class after a run**: its own lines, with the members of the class and
    of the classes in it behind the lines on which those end. -/
theorem lines_after {d : Declaration} (hd : d ∈ classes) :
    let blocks := plans.map Plan.block
    let location := d.location.after (importBlock tree lines needsFields).2.length blocks
    ((insertMembers tree lines plans needsFields).take location.endLine).drop (location.line - 1) =
      rangeLines lines blocks d.location.line d.location.endLine := by
  intro blocks location
  obtain ⟨hheader, hle, hlast⟩ := hrange d hd
  have hinRange : ∀ p ∈ plans, headerEnd tree lines < p.declaration.location.line ∧
      p.declaration.location.line ≤ p.declaration.location.endLine ∧
      p.declaration.location.endLine ≤ lines.length := fun p hp => hrange _ (hplans p hp)
  have hblocks : ∀ b ∈ blocks, 1 ≤ b.line ∧ b.line ≤ b.endLine ∧ b.endLine ≤ lines.length := by
    refine List.forall_mem_map.2 fun p hp => ?_
    have horder := hinRange p hp
    rw [Plan.block]
    dsimp only
    omega
  have hclear := clear_of_family hfamily hplans hd
  have hfirst : 1 ≤ d.location.line := by omega
  have hplace : (importBlock tree lines needsFields).1 < d.location.line := by
    rwa [importBlock_place]
  obtain ⟨above, below, heq, hlength⟩ := exists_insertLines_eq hblocks hclear hfirst hle hlast hplace
    (importBlock tree lines needsFields).2
  have hout : insertMembers tree lines plans needsFields =
      above ++ rangeLines lines blocks d.location.line d.location.endLine ++ below := by
    simp only [insertMembers, importBlock_splice tree needsFields hinRange]
    exact heq
  have hown := length_rangeLines hblocks hfirst hle hlast
  have hline : location.line - 1 = above.length := by
    rw [hlength]
    simp only [location, Location.after]
    omega
  have hend : location.endLine = (above ++
      rangeLines lines blocks d.location.line d.location.endLine).length := by
    rw [List.length_append, hlength, hown]
    simp only [location, Location.after]
    unfold Block.isInside
    omega
  rw [hout, hend, hline, List.take_left, List.drop_left]

end

/-- **After a run exactly those classes are known as expanded that it expanded or that were known before.**
    The classes are nested or apart, nested ones are indented differently, and the imports go in above all
    of them. A class is looked for on the lines that it has after the run. Members of other classes among
    these lines or directly below them do not count. What goes in for a plan are the lines of its members'
    text, unless a name, a type or the indentation has a line feed in it. -/
theorem isExpanded_after_iff (tree : List Stmt) {lines : List String} {classes : List Declaration}
    {plans : List Plan} (needsFields : Bool)
    (hrange : ∀ d ∈ classes, headerEnd tree lines < d.location.line ∧
      d.location.line ≤ d.location.endLine ∧ d.location.endLine ≤ lines.length)
    (hfamily : classes.Pairwise fun a b => a.location.NestsOrParts b.location)
    (hplans : ∀ p ∈ plans, p.declaration ∈ classes) :
    (∀ d ∈ classes,
      (d.after (importBlock tree lines needsFields).2.length (plans.map Plan.block)).isExpanded
        (insertMembers tree lines plans needsFields) = true ↔
      (∃ p ∈ plans, p.declaration = d) ∨ d.isExpanded lines = true) ∧
    ∀ p ∈ plans, (∀ s ∈ p.writtenTexts, Text.Lacks '\n' s) →
      Text.Lacks '\n' p.declaration.location.indent →
      p.block.content = p.textLines p.declaration.location.indent := by
  refine ⟨fun d hd => ?_, fun p _ hwritten hindent =>
    (Plan.textLines_eq_memberLines hwritten hindent).symm⟩
  have hlines := lines_after tree needsFields hrange hfamily hplans hd
  obtain ⟨hheader, hle, hlast⟩ := hrange d hd
  have hblocks : ∀ b ∈ plans.map Plan.block, b.line ≤ b.endLine :=
    List.forall_mem_map.2 fun p hp => (hrange _ (hplans p hp)).2.1
  rw [Declaration.isExpanded_iff_mem, Declaration.isExpanded_iff_mem, or_comm]
  dsimp only [Declaration.after] at hlines ⊢
  rw [hlines, mem_rangeLines hblocks hle hlast (by omega)]
  refine or_congr_right ⟨?_, ?_⟩
  · rintro ⟨b, hb, hinside, hmarker⟩
    obtain ⟨p, hp, rfl⟩ := List.mem_map.1 hb
    refine ⟨p, hp, ?_⟩
    -- the marker is that of the plan, so the plan is not for a class nested in this one
    have hindent : d.location.indent = p.declaration.location.indent :=
      p.marker_mem_memberLines_iff.1 hmarker
    by_contra hne
    have hends := Block.isInside_iff.1 hinside
    rcases nestsOrParts_of_ne hfamily (hplans p hp) hd hne with hapart | ⟨-, hdiffer⟩
    · have horder := hblocks _ hb
      rw [Location.Apart] at hapart
      dsimp only [Plan.block] at hends horder
      omega
    · exact hdiffer hindent.symm
  · rintro ⟨p, hp, rfl⟩
    refine ⟨p.block, List.mem_map_of_mem hp, ?_, p.marker_mem_memberLines_iff.2 rfl⟩
    exact Block.isInside_iff.2 ⟨Nat.le_refl _, Nat.le_refl _⟩

/-- A class with a class in it that ends on the same line, above a class that holds its marker. The outer one
    is expanded. -/
theorem isExpanded_after_shared_end :
    let lines := ["# notes", "class Outer:", "    class Inner:", "        x: int", "class Old:",
      "    " ++ Plan.marker]
    let plan := emptyPlan "Outer" "    " 2 4
    let inner := (emptyPlan "Outer.Inner" "        " 3 4).declaration
    let old := (emptyPlan "Old" "    " 5 6).declaration
    let classes := [plan.declaration, inner, old]
    let after := Declaration.after (importBlock [] lines false).2.length [plan.block]
    let out := insertMembers [] lines [plan] false
    (∀ d ∈ classes, headerEnd [] lines < d.location.line ∧
      d.location.line ≤ d.location.endLine ∧ d.location.endLine ≤ lines.length) ∧
    (classes.Pairwise fun a b => a.location.NestsOrParts b.location) ∧
    (∀ p ∈ [plan], p.declaration ∈ classes) ∧
    (after plan.declaration).isExpanded out = true ∧
    (after inner).isExpanded out = false ∧
    (after old).isExpanded out = true ∧
    plan.block.content = plan.textLines "    " := by
  intro lines plan inner old classes after out
  have hrange : ∀ d ∈ classes, headerEnd [] lines < d.location.line ∧
      d.location.line ≤ d.location.endLine ∧ d.location.endLine ≤ lines.length := by
    decide +kernel
  have hfamily : classes.Pairwise fun a b => a.location.NestsOrParts b.location := by decide
  have hplans : ∀ p ∈ [plan], p.declaration ∈ classes := by decide
  obtain ⟨hexpanded, htext⟩ := isExpanded_after_iff [] false hrange hfamily hplans
  refine ⟨hrange, hfamily, hplans, ?_, ?_, ?_, ?_⟩
  · exact (hexpanded plan.declaration (by decide)).2 (.inl ⟨plan, by decide, rfl⟩)
  · rw [← Bool.not_eq_true]
    exact mt (hexpanded inner (by decide)).1 (by decide)
  · exact (hexpanded old (by decide)).2 (.inr (by decide))
  · exact htext plan (by decide) (by decide) (by decide)

end RecordLens
