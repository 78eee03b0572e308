import Mathlib.Data.List.DropRight
import RecordLens.Plan.Text
import RecordLens.Proofs.UnifiedText
/-!
The generated members as one text and as lines. Names and types are written into the lines, and all else
in them is fixed. So a line feed stands in a line only if it stands in a name, a type or the indentation;
without one, the text of the members is cut into the very lines that it was joined from.

* `Plan.writtenTexts`: the names and types that are written in the members of a plan.
* `Plan.lacks_memberLines`: where the characters of the lines come from.
* `Plan.textLines_eq_memberLines`: the lines of the text.
-/
namespace RecordLens

open Text

namespace Plan

/-- The names and types that are written in the members of a plan: its path, the exposed fields, the
    parameters of a generated constructor, and those that the setters pass. -/
def writtenTexts (p : Plan) : List String :=
  p.path :: p.exposedFields.flatMap (fun f => [f.name, f.type]) ++
  (if p.emitsConstructor then p.signature.parameters.flatMap fun x => [x.name, x.type] else []) ++
  p.lenses.flatMap fun l => l.arguments.map (·.1)

/-- The lines of the members as their text has them: without the line feeds at its end, and cut at all
    others. -/
def textLines (p : Plan) (indent : String) : List String :=
  (((p.memberText indent).toList.rdropWhile (· = '\n')).splitOn '\n').map String.ofList

/-! ## What holds of all lines -/

theorem forall_separateParts {P : String → Prop} (hempty : P "") {parts : List (List String)}
    (h : ∀ part ∈ parts, ∀ l ∈ part, P l) : ∀ l ∈ separateParts parts, P l := by
  induction parts with
  | nil => exact nofun
  | cons part parts ih =>
    obtain ⟨hpart, hparts⟩ := List.forall_mem_cons.1 h
    cases parts with
    | nil => exact hpart
    | cons next parts =>
      exact List.forall_mem_append.2 ⟨hpart, List.forall_mem_cons.2 ⟨hempty, ih hparts⟩⟩

/-- What holds of all lines of the parts that a plan writes holds of its members before they are
    indented, apart from the marker. -/
theorem forall_parts {P : String → Prop} (hempty : P "") {p : Plan}
    (haccessor : ∀ l ∈ p.accessorLines, P l)
    (hconstructor : p.emitsConstructor = true → ∀ l ∈ p.constructorLines, P l)
    (hlenses : ∀ l ∈ p.lensesLines, P l) :
    ∀ l ∈ separateParts ([p.accessorLines] ++
      (if p.emitsConstructor then [p.constructorLines] else []) ++ [p.lensesLines]), P l := by
  refine forall_separateParts hempty ?_
  refine List.forall_mem_append.2 ⟨List.forall_mem_append.2 ⟨?_, ?_⟩, ?_⟩
  · exact List.forall_mem_singleton.2 haccessor
  · split
    · next hemits => exact List.forall_mem_singleton.2 (hconstructor hemits)
    · exact nofun
  · exact List.forall_mem_singleton.2 hlenses

theorem forall_constructorBody {P : Instruction → Prop} {p : Plan} (hcreate : P .create)
    (hstore : ∀ x ∈ p.signature.parameters, P (.store x.name x.name)) (hback : P .giveBack) :
    ∀ i ∈ p.constructorBody, P i := by
  unfold constructorBody Signature.names
  refine List.forall_mem_append.2 ⟨List.forall_mem_cons.2 ⟨hcreate, ?_⟩,
    List.forall_mem_singleton.2 hback⟩
  rw [List.map_map]
  exact List.forall_mem_map.2 hstore

theorem forall_lensesLines {P : String → Prop} (hempty : P "") (hhead : P "class AllLenses:")
    (hstep : ∀ l, P l → P (indented step l)) {p : Plan}
    (hlenses : ∀ lens ∈ p.lenses, ∀ l ∈ p.lensLines lens, P l)
    (hregistry : ∀ l ∈ p.registryLines, P l) : ∀ l ∈ p.lensesLines, P l := by
  refine List.forall_mem_cons.2 ⟨hhead, List.forall_mem_map.2 fun l hl => hstep l ?_⟩
  rcases List.mem_append.1 hl with hl | hl
  · obtain ⟨lens, hlens, hl⟩ := List.mem_flatMap.1 hl
    rcases List.mem_append.1 hl with hl | hl
    · exact hlenses lens hlens l hl
    · rw [List.mem_singleton.1 hl]
      exact hempty
  · exact hregistry l hl

end Plan

theorem Text.lacks_of_shown {c : Char} (hc : c.toNat < 32) {s : String}
    (h : s.toList.all (fun d => 32 ≤ d.toNat) = true) : Lacks c s := by
  intro hmem
  have hshown := of_decide_eq_true (List.all_eq_true.1 h c hmem)
  omega

namespace Plan

section
variable {c : Char} {p : Plan} (hc : c.toNat < 32) (h : ∀ s ∈ p.writtenTexts, Lacks c s)
include h

theorem lacks_path : Lacks c p.path := h _ (by simp [writtenTexts])

theorem lacks_exposed {f : Field} (hf : f ∈ p.exposedFields) : Lacks c f.name ∧ Lacks c f.type := by
  have hwritten : f.name ∈ p.writtenTexts ∧ f.type ∈ p.writtenTexts := by
    simp only [writtenTexts, List.mem_append, List.mem_cons, List.mem_flatMap]
    exact ⟨.inl (.inl (.inr ⟨f, hf, by simp⟩)), .inl (.inl (.inr ⟨f, hf, by simp⟩))⟩
  exact ⟨h _ hwritten.1, h _ hwritten.2⟩

include hc

theorem lacks_token {name : String} (hname : Lacks c name) : Lacks c (p.token name) := by
  have hpath := lacks_path h
  simp (disch := decide) only [lacks_append, token, hpath, hname, lacks_of_shown hc, and_self]

theorem lacks_constructor : Lacks c p.constructor := by
  have hpath := lacks_path h
  unfold constructor
  split
  · simp (disch := decide) only [lacks_append, hpath, lacks_of_shown hc, and_self]
  · exact hpath

theorem lacks_accessorLines : ∀ l ∈ p.accessorLines, Lacks c l := by
  have hpath := lacks_path h
  have hfixed {s : String} := lacks_of_shown hc (s := s)
  unfold accessorLines
  refine List.forall_mem_append.2 ⟨List.forall_mem_append.2 ⟨?_, ?_⟩, ?_⟩
  · exact List.forall_mem_singleton.2 (hfixed (by decide))
  · split
    · exact List.forall_mem_singleton.2 (hfixed (by decide))
    · refine List.forall_mem_map.2 fun f hf => ?_
      obtain ⟨hname, htype⟩ := lacks_exposed h hf
      simp (disch := decide) only [lacks_append, tokenLine, hpath, hname, htype, lacks_token hc h hname,
        hfixed, and_self]
  · simp (disch := decide) only [List.forall_mem_cons, List.not_mem_nil, false_implies, implies_true,
      lacks_append, hpath, hfixed, and_self]

theorem lacks_constructorLines (hemits : p.emitsConstructor = true) :
    ∀ l ∈ p.constructorLines, Lacks c l := by
  have hpath := lacks_path h
  have hfixed {s : String} := lacks_of_shown hc (s := s)
  have hparameter : ∀ x ∈ p.signature.parameters, Lacks c x.name ∧ Lacks c x.type := by
    intro x hx
    have hwritten : x.name ∈ p.writtenTexts ∧ x.type ∈ p.writtenTexts := by
      simp only [writtenTexts, hemits, if_true, List.mem_append, List.mem_flatMap]
      exact ⟨.inl (.inr ⟨x, hx, by simp⟩), .inl (.inr ⟨x, hx, by simp⟩)⟩
    exact ⟨h _ hwritten.1, h _ hwritten.2⟩
  have hparameters : Lacks c
      (String.intercalate ", " (ownerName :: p.signature.parameters.map (·.text))) := by
    refine lacks_intercalate (hfixed (by decide)) (List.forall_mem_cons.2 ⟨hfixed (by decide), ?_⟩)
    refine List.forall_mem_map.2 fun x hx => ?_
    obtain ⟨hname, htype⟩ := hparameter x hx
    unfold Parameter.text
    split
    · exact hname
    · simp (disch := decide) only [lacks_append, hname, htype, hfixed, and_self]
  have hbody : ∀ i ∈ p.constructorBody, Lacks c i.text := by
    refine forall_constructorBody (hfixed (by decide)) (fun x hx => ?_) (hfixed (by decide))
    simp (disch := decide) only [lacks_append, Instruction.text, (hparameter x hx).1, hfixed, and_self]
  unfold constructorLines
  refine List.forall_mem_append.2 ⟨?_, List.forall_mem_map.2 fun i hi => ?_⟩
  · simp (disch := decide) only [List.forall_mem_cons, List.not_mem_nil, false_implies, implies_true,
      lacks_append, hparameters, hpath, hfixed, and_self]
  · exact lacks_append.2 ⟨hfixed (by decide), hbody i hi⟩

theorem lacks_lensLines {l : LensPlan} (hl : l ∈ p.lenses) : ∀ s ∈ p.lensLines l, Lacks c s := by
  have hpath := lacks_path h
  have hfixed {s : String} := lacks_of_shown hc (s := s)
  have harguments : ∀ a ∈ l.arguments, Lacks c a.1 ∧ Lacks c a.2.text := by
    intro a ha
    have hname : Lacks c a.1 := by
      refine h _ ?_
      simp only [writtenTexts, List.mem_append, List.mem_flatMap]
      exact .inr ⟨l, hl, List.mem_map_of_mem ha⟩
    refine ⟨hname, ?_⟩
    obtain ⟨f, -, rfl⟩ := List.mem_map.1 hl
    obtain ⟨name, -, rfl⟩ := List.mem_map.1 ha
    dsimp only at hname ⊢
    split
    · exact hfixed (by decide)
    · simp (disch := decide) only [lacks_append, Argument.text, hname, hfixed, and_self]
  have hexposed : l.field ∈ p.exposedFields := by
    obtain ⟨f, hf, rfl⟩ := List.mem_map.1 hl
    exact hf
  obtain ⟨hname, htype⟩ := lacks_exposed h hexposed
  unfold lensLines
  refine List.forall_mem_append.2 ⟨List.forall_mem_append.2 ⟨?_, ?_⟩, ?_⟩
  · simp (disch := decide) only [List.forall_mem_cons, List.not_mem_nil, false_implies, implies_true,
      lacks_append, hpath, hname, htype, lacks_constructor hc h, hfixed, and_self]
  · refine List.forall_mem_map.2 fun a ha => ?_
    simp (disch := decide) only [lacks_append, (harguments a ha).1, (harguments a ha).2, hfixed, and_self]
  · simp (disch := decide) only [List.forall_mem_cons, List.not_mem_nil, false_implies, implies_true,
      hfixed, and_self]

theorem lacks_registryLines : ∀ l ∈ p.registryLines, Lacks c l := by
  have hpath := lacks_path h
  have hfixed {s : String} := lacks_of_shown hc (s := s)
  unfold registryLines
  split
  · simp (disch := decide) only [List.forall_mem_cons, List.not_mem_nil, false_implies, implies_true,
      lacks_append, hpath, hfixed, and_self]
  · refine List.forall_mem_append.2 ⟨List.forall_mem_append.2 ⟨?_, ?_⟩, ?_⟩
    · simp (disch := decide) only [List.forall_mem_cons, List.not_mem_nil, false_implies, implies_true,
        lacks_append, hpath, hfixed, and_self]
    · refine List.forall_mem_map.2 fun l hl => ?_
      obtain ⟨f, hf, rfl⟩ := List.mem_map.1 hl
      have hname := (lacks_exposed h hf).1
      simp (disch := decide) only [lacks_append, entryLine, hname, lacks_token hc h hname,
        hfixed, and_self]
    · simp (disch := decide) only [List.forall_mem_cons, List.not_mem_nil, false_implies, implies_true,
        hfixed, and_self]

end

/-! ## Control characters in the members -/

theorem lacks_indented {c : Char} {indent line : String} (hindent : Lacks c indent)
    (hline : Lacks c line) : Lacks c (indented indent line) := by
  unfold indented
  split
  · exact List.not_mem_nil
  · exact lacks_append.2 ⟨hindent, hline⟩

/-- **A control character of the members stands in a name, in a type or in the indentation.** -/
theorem lacks_memberLines {c : Char} {p : Plan} (hc : c.toNat < 32)
    (h : ∀ s ∈ p.writtenTexts, Lacks c s) {indent : String} (hindent : Lacks c indent) :
    ∀ l ∈ p.memberLines indent, Lacks c l := by
  have hfixed {s : String} := lacks_of_shown hc (s := s)
  have hlenses : ∀ l ∈ p.lensesLines, Lacks c l :=
    forall_lensesLines (hfixed (by decide)) (hfixed (by decide))
      (fun _ hl => lacks_indented (hfixed (by decide)) hl) (fun _ => lacks_lensLines hc h)
      (lacks_registryLines hc h)
  refine List.forall_mem_map.2 fun l hl => lacks_indented hindent ?_
  rcases List.mem_append.1 hl with hl | hl
  · simp only [List.mem_cons, List.not_mem_nil, or_false] at hl
    rcases hl with rfl | rfl
    · exact List.not_mem_nil
    · exact hfixed (by decide)
  · exact forall_parts List.not_mem_nil (lacks_accessorLines hc h) (lacks_constructorLines hc h)
      hlenses l hl

/-! ## The lines of the text -/

/-- Lines of which the last one is not empty. -/
def EndsFilled (ls : List String) : Prop := ∃ front last, ls = front ++ [last] ∧ last ≠ ""

namespace EndsFilled

variable {ls : List String}

theorem singleton {l : String} (h : l ≠ "") : EndsFilled [l] := ⟨[], l, rfl, h⟩

theorem behind (more : List String) (h : EndsFilled ls) : EndsFilled (more ++ ls) := by
  obtain ⟨front, last, rfl, hlast⟩ := h
  exact ⟨more ++ front, last, (List.append_assoc _ _ _).symm, hlast⟩

theorem indented (indent : String) (h : EndsFilled ls) :
    EndsFilled (ls.map (Plan.indented indent)) := by
  obtain ⟨front, last, rfl, hlast⟩ := h
  refine ⟨front.map (Plan.indented indent), Plan.indented indent last, List.map_append, ?_⟩
  rw [Plan.indented, if_neg (by rwa [String.isEmpty_iff]), Ne, String.append_eq_empty_iff]
  exact fun h => hlast h.2

theorem separateParts (h : EndsFilled ls) (parts : List (List String)) :
    EndsFilled (Plan.separateParts (parts ++ [ls])) := by
  induction parts with
  | nil => exact h
  | cons part parts ih =>
    obtain ⟨next, rest, hrest⟩ := List.exists_cons_of_ne_nil
      (List.append_ne_nil_of_right_ne_nil parts (List.cons_ne_nil ls []))
    rw [List.cons_append, hrest, Plan.separateParts.eq_3 _ _ (List.cons_ne_nil _ _), ← hrest]
    exact behind part (behind [""] ih)

end EndsFilled

theorem endsFilled_memberLines (p : Plan) (indent : String) : EndsFilled (p.memberLines indent) := by
  have hregistry : EndsFilled p.registryLines := by
    unfold registryLines
    split
    · exact .singleton (by simp [String.append_eq_empty_iff])
    · exact .behind _ ⟨[_], ")", rfl, by decide⟩
  have hlenses : EndsFilled p.lensesLines :=
    .behind ["class AllLenses:"] (.indented step (.behind _ hregistry))
  exact .indented indent (.behind _ (hlenses.separateParts _))

theorem exists_intercalate_concat (x : Char) (last : List Char) (front : List (List Char)) :
    ∃ before, [x].intercalate (front ++ [last]) = before ++ last := by
  induction front with
  | nil => exact ⟨[], by simp⟩
  | cons cs front ih =>
    obtain ⟨before, hbefore⟩ := ih
    obtain ⟨next, rest, hrest⟩ := List.exists_cons_of_ne_nil
      (List.append_ne_nil_of_right_ne_nil front (List.cons_ne_nil last []))
    refine ⟨cs ++ [x] ++ before, ?_⟩
    rw [List.cons_append, hrest, List.intercalate_cons_cons, ← hrest, hbefore]
    simp only [List.append_assoc]

/-- **The text of the members is cut into the lines that it was joined from.** -/
theorem textLines_eq_memberLines {p : Plan} {indent : String}
    (h : ∀ s ∈ p.writtenTexts, Lacks '\n' s) (hindent : Lacks '\n' indent) :
    p.textLines indent = p.memberLines indent := by
  have hlines := lacks_memberLines (by decide) h hindent
  have htext : (p.memberText indent).toList =
      ['\n'].intercalate ((p.memberLines indent).map String.toList) ++ ['\n'] := by
    rw [memberText, String.toList_append, String.toList_intercalate]
    rfl
  -- the last line has characters, none of them a line feed, so only the one at the end goes
  have hstrip : (p.memberText indent).toList.rdropWhile (· = '\n') =
      ['\n'].intercalate ((p.memberLines indent).map String.toList) := by
    obtain ⟨front, last, heq, hlast⟩ := p.endsFilled_memberLines indent
    have hfeed : Lacks '\n' last := hlines last (by rw [heq]; simp)
    obtain ⟨before, hbefore⟩ := exists_intercalate_concat '\n' last.toList (front.map String.toList)
    rw [htext, List.rdropWhile_concat_pos _ _ _ (by decide), heq, List.map_append,
      List.map_singleton, hbefore, List.rdropWhile_eq_self_iff]
    intro hne
    have hlast : last.toList ≠ [] := fun h => hlast (String.toList_eq_nil_iff.1 h)
    rw [List.getLast_append_of_ne_nil _ hlast, decide_eq_true_iff]
    intro hlf
    exact hfeed (hlf ▸ List.getLast_mem hlast)
  have hne : (p.memberLines indent).map String.toList ≠ [] := by
    obtain ⟨front, last, heq, -⟩ := p.endsFilled_memberLines indent
    rw [heq]
    simp
  rw [textLines, hstrip, List.splitOn_intercalate '\n' (List.forall_mem_map.2 hlines) hne,
    List.map_map]
  exact (List.map_congr_left fun l _ => String.ofList_toList).trans (List.map_id _)

end Plan
end RecordLens
