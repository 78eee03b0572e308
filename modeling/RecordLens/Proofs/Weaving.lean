import RecordLens.Expansion.Basic
import RecordLens.Proofs.Splice
/-!
The text that comes of putting members and imports in, line by line: which lines are the author's,
which were put in, and in what order they stand. The place of the imports is found after the members
have gone in; as all members stand below it, it is the place in the author's text.

* `Block.goesBehind`: a block stands behind the line on which it ends.
* `importBlock_splice`: the place and the lines of the imports do not depend on the members.
* `insertMembers_eq_woven`: the text is the author's lines, the imports behind the header, and the
  blocks of each class behind its last line.
-/
namespace RecordLens

open Code

variable {α : Type}

/-! ## Lines that were kept and lines that were added -/

/-- A line of a text into which lines were put: one that stood there before, or one put in. -/
inductive WovenLine (α : Type)
  | kept (line : α)
  | added (line : α)
deriving DecidableEq, Repr

namespace WovenLine

/-- The line as it stands in the text. -/
def line : WovenLine α → α
  | .kept l => l
  | .added l => l

/-- The line, if it was there before. -/
def kept? : WovenLine α → Option α
  | .kept l => some l
  | .added _ => none

end WovenLine

/-- The lines from line `n` on, each one followed by the blocks that end on it. -/
def weave (blocks : List (Block α)) : Nat → List α → List (WovenLine α)
  | _, [] => []
  | n, l :: ls =>
    .kept l :: ((blocksBehind blocks n).flatMap Block.content).map .added ++ weave blocks (n + 1) ls

/-- The lines down to `place`, the imports, and the remaining lines with the blocks. -/
def woven (place : Nat) (imports : List α) (blocks : List (Block α)) (lines : List α) :
    List (WovenLine α) :=
  (lines.take place).map .kept ++ imports.map .added ++
  weave blocks (place + 1) (lines.drop place)

theorem map_line_kept (ls : List α) : (ls.map WovenLine.kept).map WovenLine.line = ls := by
  rw [List.map_map, show WovenLine.line ∘ WovenLine.kept = (id : α → α) from rfl, List.map_id]

theorem map_line_added (ls : List α) : (ls.map WovenLine.added).map WovenLine.line = ls := by
  rw [List.map_map, show WovenLine.line ∘ WovenLine.added = (id : α → α) from rfl, List.map_id]

theorem filterMap_kept_kept (ls : List α) :
    (ls.map WovenLine.kept).filterMap WovenLine.kept? = ls := by
  rw [List.filterMap_map, show WovenLine.kept? ∘ WovenLine.kept = (some : α → Option α) from rfl,
    List.filterMap_some]

theorem filterMap_kept_added (ls : List α) :
    (ls.map WovenLine.added).filterMap WovenLine.kept? = [] := by
  rw [List.filterMap_map, List.filterMap_eq_nil_iff]
  intro l _
  rfl

theorem map_line_weave (blocks : List (Block α)) (ls : List α) :
    ∀ n, (weave blocks n ls).map WovenLine.line =
      interleave (fun i => (blocksBehind blocks i).flatMap Block.content) n ls := by
  induction ls with
  | nil => intro n; rfl
  | cons l ls ih =>
    intro n
    rw [weave, interleave, List.map_append, List.map_cons, map_line_added, ih]
    rfl

theorem filterMap_kept_weave (blocks : List (Block α)) (ls : List α) :
    ∀ n, (weave blocks n ls).filterMap WovenLine.kept? = ls := by
  induction ls with
  | nil => intro n; rfl
  | cons l ls ih =>
    intro n
    rw [weave, List.filterMap_append, ih]
    simp [WovenLine.kept?]

/-- **Taking away what was put in gives back the lines.** -/
theorem filterMap_kept_woven (place : Nat) (imports : List α) (blocks : List (Block α))
    (lines : List α) : (woven place imports blocks lines).filterMap WovenLine.kept? = lines := by
  rw [woven, List.filterMap_append, List.filterMap_append, filterMap_kept_kept,
    filterMap_kept_added, filterMap_kept_weave, List.append_nil, List.take_append_drop]

/-! ## Blocks in a woven text -/

/-- A block stands directly behind the line on which it ends. Between the two there are only the blocks
    that end on that line and begin later. -/
def Block.GoesBehind (b : Block α) (blocks : List (Block α)) (lines : List α)
    (out : List (WovenLine α)) : Prop :=
  ∃ (front : List (WovenLine α)) (line : α) (inner : List (Block α)) (back : List (WovenLine α)),
    out = front ++ .kept line :: (inner.flatMap Block.content ++ b.content).map .added ++ back ∧
    front.filterMap WovenLine.kept? = lines.take (b.endLine - 1) ∧
    lines[b.endLine - 1]? = some line ∧
    ∀ c ∈ inner, c ∈ blocks ∧ c.endLine = b.endLine ∧ b.line < c.line

theorem weave_split (blocks : List (Block α)) {ls : List α} {k : Nat} {l : α} (hl : ls[k]? = some l) :
    ∀ n, weave blocks n ls = weave blocks n (ls.take k) ++
      (.kept l :: ((blocksBehind blocks (n + k)).flatMap Block.content).map .added) ++
      weave blocks (n + k + 1) (ls.drop (k + 1)) := by
  induction ls generalizing k with
  | nil => exact absurd hl nofun
  | cons m ls ih =>
    intro n
    cases k with
    | zero =>
      obtain rfl := Option.some.inj hl
      rfl
    | succ k =>
      rw [weave, ih hl (n + 1), List.take_succ_cons, List.drop_succ_cons, weave,
        show n + 1 + k = n + (k + 1) by omega]
      simp only [List.cons_append, List.append_assoc]

/-- **Blocks below the imports stand behind the lines on which they end.** -/
theorem Block.goesBehind {blocks : List (Block α)} (hstart : (blocks.map Block.line).Nodup)
    {b : Block α} (hb : b ∈ blocks) {place : Nat} {lines : List α} (imports : List α)
    (hplace : place < b.endLine) (hlast : b.endLine ≤ lines.length) :
    b.GoesBehind blocks lines (woven place imports blocks lines) := by
  obtain ⟨l, hl⟩ : ∃ l, lines[b.endLine - 1]? = some l :=
    ⟨_, List.getElem?_eq_getElem (by omega : b.endLine - 1 < lines.length)⟩
  obtain ⟨inner, outer, hbehind, hinner⟩ := blocksBehind_split hstart hb
  -- the lines between the imports and the line of the block
  generalize hk : b.endLine - 1 - place = k
  have hindex : place + k = b.endLine - 1 := by omega
  have hnumber : place + 1 + k = b.endLine := by omega
  have hline : (lines.drop place)[k]? = some l := by rw [List.getElem?_drop, hindex, hl]
  refine ⟨(lines.take place).map .kept ++ imports.map .added ++
    weave blocks (place + 1) ((lines.drop place).take k), l, inner,
    (outer.flatMap Block.content).map .added ++
      weave blocks (b.endLine + 1) ((lines.drop place).drop (k + 1)), ?_, ?_, hl, hinner⟩
  · rw [woven, weave_split blocks hline (place + 1), hnumber, hbehind, List.flatMap_append,
      List.flatMap_cons]
    simp only [List.map_append, List.append_assoc, List.cons_append]
  · rw [List.filterMap_append, List.filterMap_append, filterMap_kept_kept, filterMap_kept_added,
      filterMap_kept_weave, List.append_nil, ← List.take_add, hindex]

/-! ## The place of the imports -/

theorem length_takeWhile_append {p : α → Bool} {ls rest : List α}
    (h : (ls.takeWhile p).length < ls.length) :
    ((ls.take ((ls.takeWhile p).length + 1) ++ rest).takeWhile p).length =
      (ls.takeWhile p).length := by
  induction ls with
  | nil => simp at h
  | cons l ls ih =>
    cases hp : p l with
    | false => simp [hp]
    | true =>
      simp only [List.takeWhile_cons, hp, if_true, List.length_cons, List.take_succ_cons,
        List.cons_append, Nat.add_lt_add_iff_right] at h ⊢
      rw [ih h]

/-- The header ends where it did if the text is the same down to the line behind it. -/
theorem headerEnd_append (tree : List Stmt) {lines : List String} (rest : List String)
    (h : headerEnd tree lines < lines.length) :
    headerEnd tree (lines.take (headerEnd tree lines + 1) ++ rest) = headerEnd tree lines := by
  unfold headerEnd at *
  cases hp : preambleEnd tree with
  | zero =>
    simp only [hp] at h ⊢
    exact length_takeWhile_append h
  | succ n => rfl

theorem importBlock_place (tree : List Stmt) (lines : List String) (needsFields : Bool) :
    (importBlock tree lines needsFields).1 = headerEnd tree lines := by
  unfold importBlock
  split <;> rfl

/-- What the text of a module comes to, line by line. -/
def wovenModule (tree : List Stmt) (lines : List String) (plans : List Plan)
    (needsFields : Bool) : List (WovenLine String) :=
  let imports := importBlock tree lines needsFields
  woven imports.1 imports.2 (plans.map Plan.block) lines

section
variable (tree : List Stmt) {lines : List String} {plans : List Plan} (needsFields : Bool)
  (hstart : (plans.map (·.declaration.location.line)).Nodup)
  (hrange : ∀ p ∈ plans, headerEnd tree lines < p.declaration.location.line ∧
    p.declaration.location.line ≤ p.declaration.location.endLine ∧
    p.declaration.location.endLine ≤ lines.length)

include hstart in
theorem blocks_start_apart : ((plans.map Plan.block).map Block.line).Nodup := by
  rw [List.map_map]
  exact hstart

include hrange in
theorem blocks_in_range : ∀ b ∈ plans.map Plan.block,
    headerEnd tree lines < b.endLine ∧ 1 ≤ b.endLine ∧ b.endLine ≤ lines.length := by
  intro b hb
  obtain ⟨p, hp, rfl⟩ := List.mem_map.1 hb
  obtain ⟨habove, hle, hlast⟩ := hrange p hp
  have hend : headerEnd tree lines < p.declaration.location.endLine :=
    Nat.lt_of_lt_of_le habove hle
  exact ⟨hend, Nat.lt_of_le_of_lt (Nat.zero_le _) hend, hlast⟩

include hrange in
/-- The imports go where they would go without the members. -/
theorem importBlock_splice : importBlock tree (splice lines (plans.map Plan.block)) needsFields =
    importBlock tree lines needsFields := by
  have hblocks := blocks_in_range tree hrange
  cases hplans : plans.map Plan.block with
  | nil => rw [splice_nil]
  | cons b bs =>
    have hlt : headerEnd tree lines < lines.length := by
      have hb := hblocks b (by rw [hplans]; exact List.mem_cons_self)
      omega
    obtain ⟨rest, hrest⟩ := splice_top (fun b hb => (hblocks b hb).2) hlt
      (fun b hb => (hblocks b hb).1)
    have hline : (lines.take (headerEnd tree lines + 1) ++ rest)[headerEnd tree lines]? =
        lines[headerEnd tree lines]? := by
      rw [List.getElem?_append_left (by rw [List.length_take]; omega),
        List.getElem?_take_of_lt (Nat.lt_succ_self _)]
    rw [← hplans, hrest]
    simp only [importBlock, headerEnd_append tree rest hlt, hline]

/-- **The author's lines, the imports behind the header, and behind the last line of each class its
    block**, of classes that share the line the one that starts last first. Nothing else is put in,
    nothing is lost, and the order of the plans does not matter. -/
theorem insertMembers_eq_woven (tree : List Stmt) {lines : List String} {plans : List Plan}
    (needsFields : Bool) (hstart : (plans.map (·.declaration.location.line)).Nodup)
    (hrange : ∀ p ∈ plans, headerEnd tree lines < p.declaration.location.line ∧
      p.declaration.location.line ≤ p.declaration.location.endLine ∧
      p.declaration.location.endLine ≤ lines.length) :
    insertMembers tree lines plans needsFields =
      (wovenModule tree lines plans needsFields).map WovenLine.line ∧
    (wovenModule tree lines plans needsFields).filterMap WovenLine.kept? = lines ∧
    ∀ others : List Plan, others.Perm plans →
      insertMembers tree lines others needsFields = insertMembers tree lines plans needsFields := by
  have hblocks := blocks_in_range tree hrange
  have happart := blocks_start_apart hstart
  refine ⟨?_, filterMap_kept_woven _ _ _ _, ?_⟩
  · have hplace := importBlock_place tree lines needsFields
    have hsplice := splice_above happart (fun b hb => (hblocks b hb).2)
      (fun b hb => (hblocks b hb).1)
    simp only [insertMembers, importBlock_splice tree needsFields hrange]
    rw [hsplice, ← hplace, insertLines_above, wovenModule, woven, List.map_append, List.map_append,
      map_line_kept, map_line_added, map_line_weave]
  · intro others hp
    simp only [insertMembers, splice_perm lines happart (hp.map Plan.block)]

end

/-- A plan without fields for a class on the given lines. -/
def emptyPlan (path indent : String) (line endLine : Nat) : Plan :=
  ⟨⟨.record, path, [], [], path, ⟨sourceName, line, endLine, 0, indent⟩⟩, [], none⟩

/-- Two classes that share their last line, below a comment. -/
theorem insertMembers_eq_woven_shared_end :
    let lines := ["# notes", "class Outer:", "    class Inner:", "        x: int", "y = 1"]
    let plans := [emptyPlan "Outer" "    " 2 4, emptyPlan "Outer.Inner" "        " 3 4]
    (plans.map (·.declaration.location.line)).Nodup ∧
    (∀ p ∈ plans, headerEnd [] lines < p.declaration.location.line ∧
      p.declaration.location.line ≤ p.declaration.location.endLine ∧
      p.declaration.location.endLine ≤ lines.length) ∧
    insertMembers [] lines plans false = (wovenModule [] lines plans false).map WovenLine.line ∧
    (wovenModule [] lines plans false).filterMap WovenLine.kept? = lines ∧
    ∀ others : List Plan, others.Perm plans →
      insertMembers [] lines others false = insertMembers [] lines plans false := by
  intro lines plans
  have hstart : (plans.map (·.declaration.location.line)).Nodup := by decide
  have hrange : ∀ p ∈ plans, headerEnd [] lines < p.declaration.location.line ∧
      p.declaration.location.line ≤ p.declaration.location.endLine ∧
      p.declaration.location.endLine ≤ lines.length := by decide +kernel
  exact ⟨hstart, hrange, insertMembers_eq_woven [] false hstart hrange⟩

end RecordLens
