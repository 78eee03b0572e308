import RecordLens.Proofs.Accounting
import RecordLens.Proofs.Reading
import RecordLens.Proofs.Splice
/-!
Expanding the text of an expansion once more. The second run has only the text to go by: it must read
it as code again, and it knows a declaration as expanded by the marker in its lines. Whether it changes
nothing is decided by these two, and by nothing else.

* `Declaration.isExpanded_iff`: the line that marks a declaration.
* `marker_mem_displayLines`: the markers that a run writes.
* `Expansion.IsFinal`: another run changes nothing and notes every declaration.
* `Expansion.KeepsMarkers`: the text reads as code, and every declaration in it holds its marker.
* `expand_isFinal_iff`: the one is the other.
-/
namespace RecordLens

namespace Declaration

/-- A declaration is marked if one of its lines is the marker in its own indentation. -/
theorem isExpanded_iff {d : Declaration} {lines : List String} :
    d.isExpanded lines = true ↔
      ∃ i, d.location.line ≤ i + 1 ∧ i < d.location.endLine ∧
        lines[i]? = some (d.location.indent ++ Plan.marker) := by
  rw [isExpanded, List.any_eq_true]
  constructor
  · rintro ⟨l, hl, hmarker⟩
    obtain ⟨j, hj⟩ := List.mem_iff_getElem?.1 hl
    rw [List.getElem?_drop, List.getElem?_take] at hj
    split at hj
    · refine ⟨d.location.line - 1 + j, by omega, by assumption, ?_⟩
      rw [hj, of_decide_eq_true hmarker]
    · exact absurd hj (by simp)
  · rintro ⟨i, hfirst, hlast, hi⟩
    refine ⟨d.location.indent ++ Plan.marker, ?_, decide_eq_true rfl⟩
    refine List.mem_iff_getElem?.2 ⟨i - (d.location.line - 1), ?_⟩
    rw [List.getElem?_drop, List.getElem?_take, if_pos (by omega), ← hi]
    congr 1
    omega

end Declaration

namespace Expansion

/-- Another run on the text succeeds, gives the same text, plans nothing, and notes every declaration
    of the text once, in the order of the text. -/
def IsFinal (filename : String) (e : Expansion) : Prop :=
  ∃ ds again, Declaration.parseAll filename e.text = .ok ds ∧
    expand filename e.text = .ok again ∧ again.success = true ∧ again.text = e.text ∧
    again.plans = [] ∧ again.diagnostics = ds.map .alreadyExpanded

/-- The text reads as code, and every declaration in it has the marker in its own indentation on a
    line between its first and its last one. -/
def KeepsMarkers (filename : String) (e : Expansion) : Prop :=
  ∃ ds, Declaration.parseAll filename e.text = .ok ds ∧ ∀ d ∈ ds,
    ∃ i, d.location.line ≤ i + 1 ∧ i < d.location.endLine ∧
      (Text.displayLines e.text)[i]? = some (d.location.indent ++ Plan.marker)

/-- Where every declaration is marked, nothing is planned and every declaration is noted. -/
theorem account_of_isExpanded {lines : List String} {ds : List Declaration} (text : String)
    (h : ∀ d ∈ ds, d.isExpanded lines = true) :
    account lines ds text = ⟨text, [], ds.map .alreadyExpanded⟩ := by
  have hplans : ds.filterMap (·.accepted? lines) = [] :=
    List.filterMap_eq_nil_iff.2 (fun d hd => d.accepted?_expanded (h d hd))
  have hreports : ds.flatMap (·.report lines) = ds.map .alreadyExpanded := by
    calc ds.flatMap (·.report lines)
        = (ds.map (·.report lines)).flatten := List.flatMap_def
      _ = (ds.map fun d => [Diagnostic.alreadyExpanded d]).flatten :=
        congrArg List.flatten (List.map_congr_left (fun d hd => d.report_expanded (h d hd)))
      _ = ds.map .alreadyExpanded := by rw [← List.flatMap_def, ← List.map_eq_flatMap]
  rw [account, hplans, hreports]

/-- Where there is no error and no plan, every declaration is marked: a record would have a plan, and
    anything else would be an error. -/
theorem isExpanded_of_account {lines : List String} {ds : List Declaration} {text : String}
    (hsuccess : (account lines ds text).success = true)
    (hplans : (account lines ds text).plans = []) : ∀ d ∈ ds, d.isExpanded lines = true := by
  intro d hd
  cases hmarked : d.isExpanded lines with
  | true => rfl
  | false =>
    have hrecord : d.kind = .record := (account_success lines ds text).1 hsuccess d hd hmarked
    have hnone : d.accepted? lines = none := List.filterMap_eq_nil_iff.1 hplans d hd
    rw [Declaration.accepted?, hmarked, d.plan?_record hrecord] at hnone
    exact absurd hnone (by simp)

theorem success_of_notes (text : String) (ds : List Declaration) :
    success ⟨text, [], ds.map .alreadyExpanded⟩ = true := by
  rw [success, Bool.not_eq_true', List.any_map, List.any_eq_false]
  intro d _
  exact Bool.false_ne_true

end Expansion

section
variable {filename text : String} {ds : List Declaration}

theorem expand_of_isExpanded (hparse : Declaration.parseAll filename text = .ok ds)
    (h : ∀ d ∈ ds, d.isExpanded (Text.displayLines text) = true) :
    expand filename text = .ok ⟨text, [], ds.map .alreadyExpanded⟩ := by
  have haccount := Expansion.account_of_isExpanded text h
  rw [expand, expandTo_eq_account hparse (.inr (congrArg Expansion.plans haccount)), haccount]

theorem expand_ok (hparse : Declaration.parseAll filename text = .ok ds) {e : Expansion}
    (hexpand : expand filename text = .ok e) :
    e = { Expansion.account (Text.displayLines text) ds text with text := e.text } ∧
    ((e.success = false ∨ e.plans = []) ∧ e.text = text ∨
     e.success = true ∧ e.plans ≠ [] ∧ ∃ tree lines,
      expandLines tree (Text.displayLines text) e.plans = .ok lines ∧
      e.text = String.intercalate "\n" lines ++ "\n") := by
  have hrun : expandTo .nobody filename text () = (.ok e, ()) := Prod.ext hexpand rfl
  obtain ⟨he, -, htext⟩ := expandTo_ok hparse hrun
  exact ⟨he, htext⟩

theorem isExpanded_of_expand (hparse : Declaration.parseAll filename text = .ok ds) {e : Expansion}
    (hexpand : expand filename text = .ok e) (hsuccess : e.success = true) (hplans : e.plans = []) :
    ∀ d ∈ ds, d.isExpanded (Text.displayLines text) = true := by
  rw [(expand_ok hparse hexpand).1] at hsuccess hplans
  exact Expansion.isExpanded_of_account hsuccess hplans

end

theorem parseAll_of_expand {filename text : String} {e : Expansion}
    (h : expand filename text = .ok e) : ∃ ds, Declaration.parseAll filename text = .ok ds := by
  rw [parseAll_eq_map_readModule]
  cases hread : readModule filename text with
  | error fault =>
    rw [expand, expandTo, hread] at h
    exact absurd h (by simp)
  | ok module => exact ⟨module.2, rfl⟩

theorem plan?_of_expand {filename text : String} {e : Expansion} (hexpand : expand filename text = .ok e)
    {p : Plan} (hp : p ∈ e.plans) :
    ∃ ds, Declaration.parseAll filename text = .ok ds ∧ p.declaration ∈ ds ∧
      p.declaration.plan? = some p := by
  obtain ⟨ds, hparse⟩ := parseAll_of_expand hexpand
  rw [(expand_ok hparse hexpand).1] at hp
  obtain ⟨d, hd, haccepted⟩ := List.mem_filterMap.1 hp
  obtain rfl := Declaration.declaration_of_accepted? haccepted
  exact ⟨ds, hparse, hd, Declaration.plan?_of_accepted? haccepted⟩

/-! ## Markers in the text of an expansion -/

theorem Plan.marker_not_ends : ∀ c ∈ marker.toList, Text.endsDisplayLine c = false := by
  have hall : marker.toList.all (fun c => !Text.endsDisplayLine c) = true := by decide +kernel
  intro c hc
  exact Bool.not_eq_eq_eq_not.1 (List.all_eq_true.1 hall c hc)

theorem Plan.marker_mem_memberLines (p : Plan) (indent : String) :
    indent ++ marker ∈ p.memberLines indent := by
  have hmarker : indented indent marker = indent ++ marker := if_neg (by decide)
  rw [← hmarker, memberLines]
  exact List.mem_map_of_mem (List.mem_append_left _ (by simp))

/-- The members of every plan are among the lines of the module. -/
theorem memberLines_sublist_insertMembers (tree : List Code.Stmt) (lines : List String)
    {plans : List Plan} (needsFields : Bool) {p : Plan} (hp : p ∈ plans) :
    (p.memberLines p.declaration.location.indent).Sublist
      (insertMembers tree lines plans needsFields) := by
  have hblock : p.block ∈ plans.map (·.block) := List.mem_map_of_mem hp
  exact (content_sublist_splice hblock lines).trans (sublist_insertLines _ _ _)

/-- **Every class that a run expands has its marker in the text**, in its own indentation and as a
    line of its own. Joining the lines and cutting them again leaves it as it is, whatever the lines
    around it hold, because no line ends within an indentation. -/
theorem marker_mem_displayLines {filename text : String} {e : Expansion}
    (hexpand : expand filename text = .ok e) (hsuccess : e.success = true) :
    ∀ p ∈ e.plans, p.declaration.location.indent ++ Plan.marker ∈ Text.displayLines e.text := by
  intro p hp
  obtain ⟨ds, hparse⟩ := parseAll_of_expand hexpand
  obtain ⟨he, htext⟩ := expand_ok hparse hexpand
  have hdeclared : p.declaration ∈ ds := by
    rw [he] at hp
    obtain ⟨d, hd, haccepted⟩ := List.mem_filterMap.1 hp
    rwa [Declaration.declaration_of_accepted? haccepted]
  have hmarker : ∀ c ∈ (p.declaration.location.indent ++ Plan.marker).toList,
      Text.endsDisplayLine c = false := by
    intro c hc
    rw [String.toList_append, List.mem_append] at hc
    rcases hc with hindent | hmark
    · exact Declaration.indent_not_ends hparse hdeclared c hindent
    · exact Plan.marker_not_ends c hmark
  rcases htext with ⟨hfail | hnone, -⟩ | ⟨-, -, tree, lines, hlines, htext⟩
  · exact absurd (hsuccess.symm.trans hfail) (by decide)
  · rw [hnone] at hp
    exact absurd hp List.not_mem_nil
  · obtain ⟨changed, -, rfl⟩ := expandLines_ok hlines
    have hline := (memberLines_sublist_insertMembers tree changed
      (!(e.plans.flatMap (·.insertions tree)).isEmpty) hp).subset (p.marker_mem_memberLines _)
    rw [htext, Text.displayLines_joined (List.ne_nil_of_mem hline), List.mem_flatMap]
    exact ⟨_, hline, by rw [Text.displayLines_feed_eq hmarker]; exact List.mem_singleton_self _⟩

/-- **When a second run changes nothing.** After a run that succeeds, every class it expanded has its
    marker in the text. Another run on the text succeeds with the same text, no plans and a note for
    every declaration if and only if the text reads as code and every declaration in it holds its
    marker. If the first run plans nothing, it does. -/
theorem expand_isFinal_iff {filename text : String} {e : Expansion}
    (hexpand : expand filename text = .ok e) (hsuccess : e.success = true) :
    (∀ p ∈ e.plans, p.declaration.location.indent ++ Plan.marker ∈ Text.displayLines e.text) ∧
    (e.IsFinal filename ↔ e.KeepsMarkers filename) ∧ (e.plans = [] → e.IsFinal filename) := by
  have hmarked : ∀ ds, Declaration.parseAll filename e.text = .ok ds →
      (∀ d ∈ ds, d.isExpanded (Text.displayLines e.text) = true) → e.IsFinal filename := by
    intro ds hparse h
    exact ⟨ds, _, hparse, expand_of_isExpanded hparse h, Expansion.success_of_notes _ _, rfl, rfl, rfl⟩
  refine ⟨marker_mem_displayLines hexpand hsuccess, ⟨?_, ?_⟩, ?_⟩
  · rintro ⟨ds, again, hparse, hagain, hok, -, hnone, -⟩
    exact ⟨ds, hparse, fun d hd =>
      Declaration.isExpanded_iff.1 (isExpanded_of_expand hparse hagain hok hnone d hd)⟩
  · rintro ⟨ds, hparse, h⟩
    exact hmarked ds hparse (fun d hd => Declaration.isExpanded_iff.2 (h d hd))
  · intro hplans
    obtain ⟨ds, hparse⟩ := parseAll_of_expand hexpand
    have htext : e.text = text := by
      rcases (expand_ok hparse hexpand).2 with ⟨-, hsame⟩ | ⟨-, hsome, -⟩
      · exact hsame
      · exact absurd hplans hsome
    refine hmarked ds (htext ▸ hparse) ?_
    rw [htext]
    exact isExpanded_of_expand hparse hexpand hsuccess hplans

end RecordLens
