import RecordLens.Proofs.GrammarForward
/-!
What is known of simple statements wherever they stand. A statement with others inside it is put together
from its blocks and branches, so what holds of the simple statements of each of these holds of those of
the whole.

* `simples`: the simple statements in statements, however deep.
* `Throughout`: what holds of all of them.
* `statements_throughout`, `blockBody_throughout`, `file_throughout`: the readers of statements.
-/
namespace RecordLens.Code

open Reading

/-! ## Simple statements -/

mutual

/-- The simple statements in a statement, however deep. -/
def simplesIn : Stmt → List Stmt
  | .classDef _ _ _ _ body | .functionDef _ _ _ _ _ body | .compound _ body => simples body
  | s => [s]

/-- All simple statements in statements, however deep. -/
def simples : List Stmt → List Stmt
  | [] => []
  | s :: ss => simplesIn s ++ simples ss

end

theorem mem_simples {x : Stmt} {ss : List Stmt} : x ∈ simples ss ↔ ∃ s ∈ ss, x ∈ simplesIn s := by
  induction ss with
  | nil => simp [simples]
  | cons s ss ih => simp [simples, ih]

section
variable (Q : Stmt → Prop)

/-- What holds of all simple statements in statements. -/
def Throughout (ss : List Stmt) : Prop := ∀ x ∈ simples ss, Q x

/-- The same of one statement. -/
def ThroughoutIn (s : Stmt) : Prop := ∀ x ∈ simplesIn s, Q x

end

variable {Q : Stmt → Prop} {ss rest : List Stmt} {s : Stmt}

theorem throughout_iff : Throughout Q ss ↔ ∀ s ∈ ss, ThroughoutIn Q s := by
  constructor
  · exact fun h s hs x hx => h x (mem_simples.2 ⟨s, hs, hx⟩)
  · intro h x hx
    obtain ⟨s, hs, hx⟩ := mem_simples.1 hx
    exact h s hs x hx

namespace Throughout

theorem nil : Throughout Q [] := nofun

theorem singleton (h : ThroughoutIn Q s) : Throughout Q [s] :=
  throughout_iff.2 (List.forall_mem_singleton.2 h)

theorem append (hss : Throughout Q ss) (hrest : Throughout Q rest) : Throughout Q (ss ++ rest) :=
  throughout_iff.2 (List.forall_mem_append.2 ⟨throughout_iff.1 hss, throughout_iff.1 hrest⟩)

theorem flatten {sss : List (List Stmt)} (h : ∀ ss ∈ sss, Throughout Q ss) :
    Throughout Q sss.flatten := by
  refine throughout_iff.2 fun s hs => ?_
  obtain ⟨ss, hss, hs⟩ := List.mem_flatten.1 hs
  exact throughout_iff.1 (h ss hss) s hs

end Throughout

/-! ## Rules -/

namespace Grammar

variable {promise : Phrase.Promise} {e : Setting} {i : Nat}

theorem option_throughout {p : Reading (List Stmt)}
    (hp : p.Gives promise e i fun ss _ => Throughout Q ss) :
    (option p).Gives promise e i fun o _ => Throughout Q (o.getD []) :=
  .option hp .nil

section
variable (he : e.Keeps promise) (hblock : ∀ i, block.Gives promise e i fun ss _ => Throughout Q ss)
include he hblock

theorem optionalElse_throughout :
    optionalElse.Gives promise e i fun ss _ => Throughout Q ss := by
  unfold optionalElse elseBlock elseTrap
  refine .bind (option_throughout (.orElse (.trap (Forward.gives he i)) ?_)) fun _ _ _ h => .pure h
  exact .past he fun _ _ _ => .past he fun _ j _ => hblock j

theorem branch_throughout (helif : ∀ i, elifBranch.Gives promise e i fun s _ => ThroughoutIn Q s)
    (keyword : String) : (branch keyword).Gives promise e i fun s _ => ThroughoutIn Q s := by
  unfold branch
  refine .orElse (.trap (Forward.gives he i)) (.orElse (.spanned fun _ _ => ?_)
    (.spanned fun _ _ => ?_))
  · refine .past he fun _ _ _ => .past he fun _ j _ => (hblock j).bind fun b k _ hb => ?_
    exact (helif k).bind fun c _ _ hc => .pure (hb.append (.singleton hc))
  · refine .past he fun _ _ _ => .past he fun _ j _ => (hblock j).bind fun b _ _ hb => ?_
    exact (optionalElse_throughout he hblock).bind fun c _ _ hc => .pure (hb.append hc)

theorem whileStatement_throughout :
    whileStatement.Gives promise e i fun s _ => ThroughoutIn Q s := by
  unfold whileStatement
  refine .orElse (.trap (Forward.gives he i)) (.spanned fun _ _ => ?_)
  refine .past he fun _ _ _ => .past he fun _ j _ => (hblock j).bind fun b _ _ hb => ?_
  exact (optionalElse_throughout he hblock).bind fun c _ _ hc => .pure (hb.append hc)

theorem forStatement_throughout : forStatement.Gives promise e i fun s _ => ThroughoutIn Q s := by
  have htail (first : Span) (j : Nat) :
      (forTail first).Gives promise e j fun s _ => ThroughoutIn Q s := by
    refine .past he fun _ _ _ => .past he fun _ j _ => (hblock j).bind fun b _ _ hb => ?_
    exact (optionalElse_throughout he hblock).bind fun c k _ hc n hn =>
      ⟨hn, Nat.le_refl k, hb.append hc⟩
  unfold forStatement
  refine .orElse (.trap (Forward.gives he i)) (.past he fun first j _ => ?_)
  exact .commit (Forward.gives he j) (fun _ k _ _ => htail _ k)
    (.commit (Forward.gives he j) (fun _ k _ _ => htail _ k) (.trap (Forward.gives he j)))

theorem withStatement_throughout :
    withStatement.Gives promise e i fun s _ => ThroughoutIn Q s := by
  have hform {head : Reading Unit} [Forward promise head] :
      (withForm head).Gives promise e i fun s _ => ThroughoutIn Q s :=
    .spanned fun _ _ => .past he fun _ j _ => (hblock j).bind fun _ _ _ hb => .pure hb
  unfold withStatement
  exact .orElse (.trap (Forward.gives he i)) (.orElse hform (.orElse hform (.orElse hform
    (.orElse hform (.trap (Forward.gives he i))))))

theorem finallyBlock_throughout :
    finallyBlock.Gives promise e i fun ss _ => Throughout Q ss := by
  unfold finallyBlock
  refine .orElse (.trap (Forward.gives he i)) ?_
  exact .past he fun _ _ _ => .past he fun _ j _ => hblock j

theorem exceptBlock_throughout : exceptBlock.Gives promise e i fun ss _ => Throughout Q ss := by
  unfold exceptBlock exceptIndentTrap
  refine .orElse (.trap (Forward.gives he i)) (.orElse ?_ (.orElse ?_ (.trap (Forward.gives he i))))
  · exact .past he fun _ _ _ => .past he fun _ _ _ => .past he fun _ _ _ => .past he fun _ j _ =>
      hblock j
  · exact .past he fun _ _ _ => .past he fun _ j _ => hblock j

theorem exceptStarBlock_throughout :
    exceptStarBlock.Gives promise e i fun ss _ => Throughout Q ss := by
  unfold exceptStarBlock exceptStarHead
  refine .orElse (.trap (Forward.gives he i)) (.orElse ?_ (.trap (Forward.gives he i)))
  exact .past he fun _ _ _ => .past he fun _ j _ => hblock j

theorem tryHead_throughout : tryHead.Gives promise e i fun ss _ => Throughout Q ss :=
  .past he fun _ _ _ => .past he fun _ j _ => hblock j

theorem tryStatement_throughout : tryStatement.Gives promise e i fun s _ => ThroughoutIn Q s := by
  have hwith {handler : Reading (List Stmt)} (hhandler : ∀ j,
      handler.Gives promise e j fun ss _ => Throughout Q ss) :
      (tryWith handler).Gives promise e i fun s _ => ThroughoutIn Q s := by
    refine .spanned fun _ _ => (tryHead_throughout he hblock).bind fun b _ _ hb => ?_
    refine (Gives.many1_all (fun _ _ _ _ h => h) fun j _ => hhandler j).bind fun hs _ _ hhs => ?_
    refine (optionalElse_throughout he hblock).bind fun o _ _ ho => ?_
    refine (option_throughout (finallyBlock_throughout he hblock)).bind fun f _ _ hf => .pure ?_
    exact ((hb.append (.flatten hhs)).append ho).append hf
  unfold tryStatement
  refine .orElse (.trap (Forward.gives he i)) (.orElse (.spanned fun _ _ => ?_)
    (.orElse (hwith fun _ => exceptBlock_throughout he hblock)
      (hwith fun _ => exceptStarBlock_throughout he hblock)))
  refine (tryHead_throughout he hblock).bind fun b _ _ hb => ?_
  exact (finallyBlock_throughout he hblock).bind fun f _ _ hf => .pure (hb.append hf)

theorem matchStatement_throughout :
    matchStatement.Gives promise e i fun s _ => ThroughoutIn Q s := by
  have hcase (j : Nat) : caseBlock.Gives promise e j fun ss _ => Throughout Q ss := by
    unfold caseBlock caseHead guard
    refine .orElse (.trap (Forward.gives he j)) ?_
    exact .past he fun _ _ _ => .past he fun _ k _ => hblock k
  unfold matchStatement
  refine .orElse (.spanned fun _ _ => ?_) (.trap (Forward.gives he i))
  refine .past he fun _ _ _ => .past he fun _ _ _ => .past he fun _ _ _ => .past he fun _ _ _ => ?_
  refine (Gives.many1_all (fun _ _ _ _ h => h) fun j _ => hcase j).bind fun cs _ _ hcs => ?_
  exact .past he fun _ _ _ => .pure (Throughout.flatten hcs)

/-! ### Definitions -/

theorem functionHead_throughout (ds : List Expr) :
    (functionHead ds).Gives promise e i fun s _ => ThroughoutIn Q s := by
  have hform (isAsync : Bool) {start : Reading Unit} [Forward promise start] :
      (functionForm isAsync ds start).Gives promise e i fun s _ => ThroughoutIn Q s := by
    refine .spanned fun _ _ => .past he fun _ _ _ => .past he fun _ _ _ => .past he fun _ _ _ =>
      .past he fun _ _ _ => .past he fun _ _ _ => .past he fun _ _ _ => .past he fun _ _ _ =>
      .past he fun _ j _ => ?_
    exact (hblock j).bind fun _ _ _ hb => .pure hb
  unfold functionHead
  exact .orElse (.trap (Forward.gives he i)) (.orElse (hform _) (hform _))

theorem classTail_throughout (ds : List Expr) :
    (classTail ds).Gives promise e i fun s _ => ThroughoutIn Q s := by
  unfold classTail
  refine .orElse (.trap (Forward.gives he i)) (.spanned fun _ _ => ?_)
  refine .past he fun _ _ _ => .past he fun _ j _ => ?_
  exact (hblock j).bind fun _ _ _ hb => .pure hb

/-! ### All statements -/

variable (helif : ∀ i, elifBranch.Gives promise e i fun s _ => ThroughoutIn Q s)
include helif

theorem compoundStatement_throughout :
    compoundStatement.Gives promise e i fun s _ => ThroughoutIn Q s := by
  unfold compoundStatement functionDef classDef
  refine .orElse ?_ (.orElse ?_ (.orElse ?_ (.orElse ?_ (.orElse ?_ (.orElse ?_ (.orElse ?_
    (matchStatement_throughout he hblock)))))))
  · exact .past he fun _ _ _ => .orElse (.past he fun ds _ _ => functionHead_throughout he hblock ds)
      (functionHead_throughout he hblock [])
  · exact .past he fun _ _ _ => branch_throughout he hblock helif "if"
  · exact .past he fun _ _ _ => .orElse (.past he fun ds _ _ => classTail_throughout he hblock ds)
      (classTail_throughout he hblock [])
  · exact .past he fun _ _ _ => withStatement_throughout he hblock
  · exact .past he fun _ _ _ => forStatement_throughout he hblock
  · exact .past he fun _ _ _ => tryStatement_throughout he hblock
  · exact .past he fun _ _ _ => whileStatement_throughout he hblock

variable (hsimple : ∀ i, simpleStatements.Gives promise e i fun ss _ => Throughout Q ss)
include hsimple

theorem statements_throughout : statements.Gives promise e i fun ss _ => Throughout Q ss := by
  have hstatement (j : Nat) : statement.Gives promise e j fun ss _ => Throughout Q ss := by
    unfold statement
    refine .orElse ?_ (hsimple j)
    exact (compoundStatement_throughout he hblock helif).bind fun _ _ _ hs => .pure (.singleton hs)
  unfold statements
  refine (Gives.many1_all (fun _ _ _ _ h => h) fun j _ => hstatement j).bind fun sss _ _ h => ?_
  exact .pure (.flatten h)

theorem blockBody_throughout : blockBody.Gives promise e i fun ss _ => Throughout Q ss := by
  unfold blockBody
  refine .orElse ?_ (.orElse (hsimple i) (.trap (Forward.gives he i)))
  refine .past he fun _ _ _ => .past he fun _ _ _ =>
    (statements_throughout he hblock helif hsimple).bind fun _ _ _ hss => ?_
  exact .past he fun _ _ _ => .pure hss

theorem file_throughout : file.Gives promise e i fun ss _ => Throughout Q ss := by
  unfold file
  refine (option_throughout (statements_throughout he hblock helif hsimple)).bind fun _ _ _ hss => ?_
  exact .past he fun _ _ _ => .pure hss

end
end Grammar
end RecordLens.Code
