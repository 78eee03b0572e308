import RecordLens.Proofs.ClassPlaces
import RecordLens.Proofs.StatementOrder
/-!
Where the bodies of definitions stand among the tokens. The head of a definition goes from its word to a
colon. Behind the colon its body begins at once, or the line ends, a block is indented and the body begins
there, behind the decorators of its first statement.

* `definitions`: the definitions in statements, where only the bodies of classes are looked into.
* `Headed`: a definition with its head and its body among the tokens.
* `Phrase.heads`: what is promised of phrases; `bodyOf_heads`: it is kept by every rule.
* `headed_of_parse`: the definitions of a text.
-/
namespace RecordLens.Code

open Reading

/-! ## Definitions in statements -/

mutual

/-- The definitions in a statement, where only the bodies of classes are looked into. -/
def definitionsIn : Stmt → List Stmt
  | .classDef span name decorators bases body =>
    .classDef span name decorators bases body :: definitions body
  | .functionDef span isAsync name decorators params body =>
    [.functionDef span isAsync name decorators params body]
  | _ => []

/-- All definitions in statements, however deep. -/
def definitions : List Stmt → List Stmt
  | [] => []
  | s :: ss => definitionsIn s ++ definitions ss

end

theorem mem_definitions {d : Stmt} {ss : List Stmt} :
    d ∈ definitions ss ↔ ∃ s ∈ ss, d ∈ definitionsIn s := by
  induction ss with
  | nil => simp [definitions]
  | cons s ss ih => rw [definitions, List.mem_append, ih, List.exists_mem_cons_iff]

theorem forall_definitions {Q : Stmt → Prop} {ss : List Stmt} :
    (∀ d ∈ definitions ss, Q d) ↔ ∀ s ∈ ss, ∀ d ∈ definitionsIn s, Q d := by
  constructor
  · exact fun h s hs d hd => h d (mem_definitions.2 ⟨s, hs, hd⟩)
  · intro h d hd
    obtain ⟨s, hs, hd⟩ := mem_definitions.1 hd
    exact h s hs d hd

theorem definitionsIn_of_isSimple {s : Stmt} (h : s.isSimple = true) : definitionsIn s = [] := by
  cases s <;> first | rfl | exact absurd h Bool.false_ne_true

/-! ## Places of heads and bodies -/

section
variable (tokens : Array Token)

/-- A statement begins with the token `b`, which has text. -/
def BeginsAt (s : Stmt) (b : Nat) : Prop := ∃ t, tokens[b]? = some t ∧ t.kind.isEdge = false ∧
  s.span.line = t.span.line ∧ s.span.column = t.span.column

/-- A definition whose head goes from one of the tokens before `c` to the colon at `c`. -/
structure HeadAt (d : Stmt) (c : Nat) : Prop where
  begins : ∃ a, a < c ∧ BeginsAt tokens d a
  colon : ∃ t, tokens[c]? = some t ∧ t.text = ":"

/-- A body behind the colon of a head. Its first statement begins with the token `i`, or a line ends there
    and the statement is the first one of a block. -/
inductive BodyAt (i : Nat) : List Stmt → Prop
  | joined {first : Stmt} {rest : List Stmt} (hfirst : BeginsAt tokens first i) :
      BodyAt i (first :: rest)
  | block {first : Stmt} {rest : List Stmt} {b : Nat} (hend : EndsLine tokens i)
      (hindent : ∃ t, tokens[i + 1]? = some t ∧ t.kind = .indent) (hb : OpensAt tokens (i + 2) b)
      (hfirst : BeginsAt tokens first b) : BodyAt i (first :: rest)

/-- A definition with its head and its body among the tokens. -/
def Headed (d : Stmt) : Prop := ∃ c, HeadAt tokens d c ∧ BodyAt tokens (c + 1) d.suite

/-- What is promised of phrases: a block is a body, and the definitions in it have heads and bodies among
    the tokens. -/
def Phrase.heads : (p : Phrase) → p.Result → Nat → Nat → Prop
  | .block, body, i, j => Phrase.stands tokens .block body i j ∧ BodyAt tokens i body ∧
      ∀ d ∈ definitions body, Headed tokens d
  | p, a, i, j => Phrase.stands tokens p a i j

end

variable {α β : Type} {tokens : Array Token}

theorem SimpleAt.beginsAt {i j : Nat} {s : Stmt} (h : SimpleAt tokens i s j) : BeginsAt tokens s i := by
  obtain ⟨-, -, first, hfirst, hedge, hspan⟩ := h
  exact ⟨first, hfirst, hedge, by rw [hspan]; rfl, by rw [hspan]; rfl⟩

theorem CompoundAt.beginsAt {i j : Nat} {s : Stmt} (h : CompoundAt tokens i s j) :
    BeginsAt tokens s i := by
  obtain ⟨-, -, first, hfirst, hedge, hspan⟩ := h
  exact ⟨first, hfirst, hedge, by rw [hspan]; rfl, by rw [hspan]; rfl⟩

theorem Phrase.heads_stands (p : Phrase) (a : p.Result) (i j : Nat)
    (h : Phrase.heads tokens p a i j) : Phrase.stands tokens p a i j := by
  cases p <;> first | exact h | exact h.1

/-! ## Two promises -/

section
variable {promise strong : Phrase.Promise} {e : Setting} {i : Nat}

theorem Notes.Keeps.mono {n : Notes}
    (himp : ∀ p a place stop, strong tokens p a place stop → promise tokens p a place stop)
    (hn : n.Keeps strong tokens) : n.Keeps promise tokens :=
  fun place p a stop hknown => (hn place p a stop hknown).imp_right (himp p a place stop)

theorem Reading.Gives.also {p : Reading α} {P Q : α → Nat → Prop}
    (himp : ∀ p a place stop, strong e.list.tokens p a place stop →
      promise e.list.tokens p a place stop)
    (hP : p.Gives promise e i P) (hQ : p.Gives strong e i Q) :
    p.Gives strong e i fun a j => P a j ∧ Q a j := by
  intro n hn
  have hfirst := hP n (hn.mono himp)
  have hsecond := hQ n hn
  generalize p e i n = outcome at hfirst hsecond ⊢
  cases outcome with
  | found a j n' => exact ⟨hsecond.1, hfirst.2.1, hfirst.2.2, hsecond.2.2⟩
  | absent n' => exact hsecond
  | fault x n' => trivial

end

/-! ## Rules -/

namespace Grammar

variable {e : Setting} {i : Nat}

/-! ### First statements -/

section
variable (he : e.Keeps Phrase.stands)
include he

theorem simpleStatements_begin : simpleStatements.Gives Phrase.stands e i fun ss _ =>
    (∀ s ∈ ss, s.isSimple = true) ∧ ∃ first rest, ss = first :: rest ∧
      BeginsAt e.list.tokens first i := by
  have hsimple (j : Nat) : simpleStatement.Gives Phrase.stands e j fun s _ =>
      s.isSimple = true ∧ BeginsAt e.list.tokens s j :=
    (Gives.phrase he .simpleStatement).mono fun _ _ _ h => ⟨h.1.isSimple, h.1.beginsAt⟩
  unfold simpleStatements separated
  refine .orElse ((hsimple i).bind fun s _ _ ⟨hs, hfirst⟩ => .past he fun _ _ _ => .past he
    fun _ _ _ => .pure ⟨List.forall_mem_singleton.2 hs, s, [], rfl, hfirst⟩) ?_
  refine .bind (P := fun ss _ => (∀ s ∈ ss, s.isSimple = true) ∧ ∃ first rest, ss = first :: rest ∧
    BeginsAt e.list.tokens first i) ((hsimple i).bind fun s j _ ⟨hs, hfirst⟩ => ?_)
    fun ss _ _ hss => .past he fun _ _ _ => .past he fun _ _ _ => .pure hss
  refine .bind (.many_all (Q := fun (s : Stmt) _ => s.isSimple = true) (fun _ _ _ _ h => h) fun k _ => ?_)
    fun rest _ _ hrest => .pure ⟨List.forall_mem_cons.2 ⟨hs, hrest⟩, s, rest, rfl, hfirst⟩
  exact .past he fun _ l _ => (hsimple l).mono fun _ _ _ h => h.1

theorem statements_begin : statements.Gives Phrase.stands e i fun ss _ => ∃ first rest b,
    ss = first :: rest ∧ OpensAt e.list.tokens i b ∧ BeginsAt e.list.tokens first b := by
  have hstatement (j : Nat) : statement.Gives Phrase.stands e j fun ss _ => ∃ first rest b,
      ss = first :: rest ∧ OpensAt e.list.tokens j b ∧ BeginsAt e.list.tokens first b := by
    unfold statement
    refine .orElse ((compoundStatement_begins he).bind fun s _ _ ⟨b, hb, hs⟩ => .pure ?_)
      ((simpleStatements_begin he).mono ?_)
    · exact ⟨s, [], b, rfl, hb, hs.beginsAt⟩
    · rintro ss _ - ⟨-, first, rest, rfl, hfirst⟩
      exact ⟨first, rest, j, rfl, .inl rfl, hfirst⟩
  unfold statements many1
  refine .bind (P := fun sss _ => ∃ first rest b, sss.flatten = first :: rest ∧
    OpensAt e.list.tokens i b ∧ BeginsAt e.list.tokens first b) ?_ fun _ _ _ h => .pure h
  refine (hstatement i).bind fun ss j _ ⟨first, rest, b, hss, hb, hfirst⟩ => ?_
  refine .bind (.many_all (Q := fun _ _ => True) (fun _ _ _ _ h => h) fun k _ =>
    (hstatement k).mono fun _ _ _ _ => trivial) fun sss _ _ _ => .pure ?_
  rw [List.flatten_cons, hss, List.cons_append]
  exact ⟨first, rest ++ sss.flatten, b, rfl, hb, hfirst⟩

theorem blockBody_begins :
    blockBody.Gives Phrase.stands e i fun ss _ => BodyAt e.list.tokens i ss := by
  unfold blockBody
  refine .orElse ((kind_gives .newline).bind ?_) (.orElse ((simpleStatements_begin he).mono ?_)
    (.trap (Forward.gives he i)))
  · rintro _ _ - ⟨rfl, hend⟩
    refine (kind_gives .indent).bind ?_
    rintro _ _ - ⟨rfl, hindent⟩
    refine (statements_begin he).bind ?_
    rintro _ _ - ⟨first, rest, b, rfl, hb, hfirst⟩
    exact .past he fun _ _ _ => .pure (.block hend hindent hb hfirst)
  · rintro _ _ - ⟨-, first, rest, rfl, hfirst⟩
    exact .joined hfirst

end

/-! ### Definitions -/

-- some rules of the grammar have more alternatives than the default allows for
set_option synthInstance.maxSize 1000

section
variable {promise : Phrase.Promise}

instance (p : Reading Unit) [Forward promise p] : Forward promise (plain p) := by
  unfold plain
  infer_instance

instance : Forward promise assignment := by
  -- the place of an augmented assignment is made from where reading has come to
  have hstop : ∀ first : Token, Forward promise (do
      let _ ← assignedValue
      fun e i n => .found (.simple (first.span.to (lastSpan e.list.tokens i))) i n : Reading Stmt) :=
    fun _ => ⟨fun he _ => .past he fun _ k _ _ hn => ⟨hn, Nat.le_refl k, trivial⟩⟩
  unfold assignment
  infer_instance

instance : Forward promise importModules := by unfold importModules; infer_instance
instance : Forward promise importFrom := by unfold importFrom; infer_instance

instance : Forward promise simpleStatementBody := by
  unfold simpleStatementBody delete raiseStatement
  infer_instance

instance : Forward promise simpleStatements := by unfold simpleStatements; infer_instance

end

theorem demand_gives {promise : Phrase.Promise} {p : Reading Unit} {P : Unit → Nat → Prop}
    (hp : p.Gives promise e i P) : (demand p).Gives promise e i P :=
  hp.orElse (.bind (.peek (P := fun _ _ => True) fun _ _ => trivial) fun _ _ _ _ => .refuseAt _)

/-! ### Every statement -/

section
variable {promise : Phrase.Promise} {Q : Stmt → Prop}

/-- What the readers of definitions give holds of every compound statement if it holds of all the others. -/
theorem compoundStatement_each (he : e.Keeps promise)
    (hfunction : ∀ ds j, (functionHead ds).Gives promise e j fun s _ => Q s)
    (hclass : ∀ ds j, (classTail ds).Gives promise e j fun s _ => Q s)
    (hother : ∀ span body, Q (.compound span body)) :
    compoundStatement.Gives promise e i fun s _ => Q s := by
  have hdecorated {tail : List Expr → Reading Stmt} (j : Nat)
      (htail : ∀ ds j, (tail ds).Gives promise e j fun s _ => Q s) :
      ((do tail (← decorators)) <|> tail []).Gives promise e j fun s _ => Q s :=
    .orElse (.past he fun ds k _ => htail ds k) (htail [] j)
  have hnone {p : Reading Stmt} (j : Nat)
      (hp : p.Gives promise e j fun s _ => ∃ span body, s = .compound span body) :
      p.Gives promise e j fun s _ => Q s :=
    hp.mono fun _ _ _ ⟨span, body, hs⟩ => hs ▸ hother span body
  unfold compoundStatement functionDef classDef
  exact .orElse (.past he fun _ j _ => hdecorated j hfunction)
    (.orElse (.past he fun _ j _ => hnone j (branch_builds he "if"))
    (.orElse (.past he fun _ j _ => hdecorated j hclass)
    (.orElse (.past he fun _ j _ => hnone j (withStatement_builds he))
    (.orElse (.past he fun _ j _ => hnone j (forStatement_builds he))
    (.orElse (.past he fun _ j _ => hnone j (tryStatement_builds he))
    (.orElse (.past he fun _ j _ => hnone j (whileStatement_builds he))
    (hnone i (matchStatement_builds he))))))))

section
variable (hcompound : ∀ j, compoundStatement.Gives promise e j fun s _ => Q s)
  (hsimple : ∀ j, simpleStatements.Gives promise e j fun ss _ => ∀ s ∈ ss, Q s)
include hcompound hsimple

theorem statements_each : statements.Gives promise e i fun ss _ => ∀ s ∈ ss, Q s := by
  have hstatement (j : Nat) : statement.Gives promise e j fun ss _ => ∀ s ∈ ss, Q s := by
    unfold statement
    exact .orElse ((hcompound j).bind fun s _ _ hs => .pure (List.forall_mem_singleton.2 hs)) (hsimple j)
  unfold statements
  refine (Gives.many1_all (fun _ _ _ _ h => h) fun j _ => hstatement j).bind fun sss _ _ h => .pure ?_
  intro s hs
  obtain ⟨ss, hss, hs⟩ := List.mem_flatten.1 hs
  exact h ss hss s hs

theorem file_each (he : e.Keeps promise) : file.Gives promise e i fun ss _ => ∀ s ∈ ss, Q s := by
  unfold file
  refine .bind (P := fun found _ => ∀ s ∈ found.getD [], Q s)
    (.option (statements_each hcompound hsimple) nofun) fun found _ _ hfound => ?_
  exact .past he fun _ _ _ => .pure hfound

end
end

/-! ### Heads and bodies -/

section
variable (he : e.Keeps Phrase.heads)
include he

theorem block_heads : block.Gives Phrase.heads e i fun body _ => BodyAt e.list.tokens i body ∧
    ∀ d ∈ definitions body, Headed e.list.tokens d :=
  (Gives.phrase he .block).mono fun _ _ _ h => h.2

theorem functionForm_heads (isAsync : Bool) (decorators : List Expr) {start : Reading Unit}
    [Forward Phrase.heads start] : (functionForm isAsync decorators start).Gives Phrase.heads e i
      fun s _ => (∃ c, i < c ∧ (∃ t, e.list.tokens[c]? = some t ∧ t.text = ":") ∧
        BodyAt e.list.tokens (c + 1) s.suite) ∧
      ∀ d ∈ definitionsIn s, d = s ∨ Headed e.list.tokens d := by
  unfold functionForm
  refine .spanned fun _ _ => .past he fun _ j hij => .bind (word_gives "def") ?_
  rintro _ _ - ⟨rfl, -⟩
  refine .past he fun _ k₁ h₁ => .past he fun _ k₂ h₂ => .past he fun _ k₃ h₃ =>
    .past he fun _ k₄ h₄ => .past he fun _ c h₅ => (demand_gives (mark_gives ":")).bind ?_
  rintro _ _ - ⟨rfl, hcolon⟩
  refine (block_heads he).bind fun body _ _ ⟨hbody, _⟩ => .pure ⟨⟨c, by omega, hcolon, hbody⟩, ?_⟩
  exact fun d hd => .inl (List.mem_singleton.1 hd)

theorem functionHead_heads (ds : List Expr) : (functionHead ds).Gives Phrase.heads e i
    fun s _ => (∃ c, i < c ∧ (∃ t, e.list.tokens[c]? = some t ∧ t.text = ":") ∧
      BodyAt e.list.tokens (c + 1) s.suite) ∧
    ∀ d ∈ definitionsIn s, d = s ∨ Headed e.list.tokens d :=
  .orElse (.trap (Forward.gives he i)) (.orElse (functionForm_heads he _ _) (functionForm_heads he _ _))

theorem classTail_heads (ds : List Expr) : (classTail ds).Gives Phrase.heads e i
    fun s _ => (∃ c, i < c ∧ (∃ t, e.list.tokens[c]? = some t ∧ t.text = ":") ∧
      BodyAt e.list.tokens (c + 1) s.suite) ∧
    ∀ d ∈ definitionsIn s, d = s ∨ Headed e.list.tokens d := by
  have hhead : classHead.Gives Phrase.heads e i fun _ j => i < j := by
    unfold classHead
    refine .bind (word_gives "class") ?_
    rintro _ _ - ⟨rfl, -⟩
    exact .past he fun _ k hk => .past he fun _ l hl => .pure (by omega)
  unfold classTail
  refine .orElse (.trap (Forward.gives he i)) (.spanned fun _ _ => ?_)
  refine hhead.bind fun ⟨name, bases⟩ c _ hic => (mark_gives ":").bind ?_
  rintro _ _ - ⟨rfl, hcolon⟩
  refine (block_heads he).bind fun body _ _ ⟨hbody, hinner⟩ => .pure ⟨⟨c, hic, hcolon, hbody⟩, ?_⟩
  exact fun d hd => (List.mem_cons.1 hd).imp_right (hinner d)

end

section
variable (hplaces : e.Keeps Phrase.stands) (he : e.Keeps Phrase.heads)
include hplaces he

omit hplaces he in
theorem headed_gives {p : Reading Stmt}
    (hbegins : p.Gives Phrase.stands e i (CompoundAt e.list.tokens i))
    (hheads : p.Gives Phrase.heads e i fun s _ =>
      (∃ c, i < c ∧ (∃ t, e.list.tokens[c]? = some t ∧ t.text = ":") ∧
        BodyAt e.list.tokens (c + 1) s.suite) ∧
      ∀ d ∈ definitionsIn s, d = s ∨ Headed e.list.tokens d) :
    p.Gives Phrase.heads e i fun s _ => ∀ d ∈ definitionsIn s, Headed e.list.tokens d := by
  refine (hbegins.also Phrase.heads_stands hheads).mono ?_
  rintro s _ - ⟨hs, ⟨c, hic, hcolon, hbody⟩, hdefinitions⟩ d hd
  rcases hdefinitions d hd with rfl | hheaded
  · exact ⟨c, ⟨⟨i, hic, hs.beginsAt⟩, hcolon⟩, hbody⟩
  · exact hheaded

theorem compoundStatement_heads : compoundStatement.Gives Phrase.heads e i fun s _ =>
    ∀ d ∈ definitionsIn s, Headed e.list.tokens d :=
  compoundStatement_each he
    (fun ds _ => headed_gives (functionHead_begins hplaces ds) (functionHead_heads he ds))
    (fun ds _ => headed_gives (classTail_begins hplaces ds) (classTail_heads he ds))
    fun _ _ _ hd => absurd hd List.not_mem_nil

theorem simpleStatements_heads : simpleStatements.Gives Phrase.heads e i fun ss _ =>
    ∀ s ∈ ss, ∀ d ∈ definitionsIn s, Headed e.list.tokens d := by
  refine ((simpleStatements_begin hplaces).also Phrase.heads_stands (Forward.gives he i)).mono ?_
  rintro ss _ - ⟨⟨hsimple, -⟩, -⟩ s hs d hd
  rw [definitionsIn_of_isSimple (hsimple s hs)] at hd
  exact absurd hd List.not_mem_nil

theorem blockBody_heads : blockBody.Gives Phrase.heads e i fun body _ =>
    BodyAt e.list.tokens i body ∧ ∀ d ∈ definitions body, Headed e.list.tokens d := by
  refine (blockBody_begins hplaces).also Phrase.heads_stands ?_
  have hsimple (j : Nat) := simpleStatements_heads (i := j) hplaces he
  refine Gives.mono (P := fun body _ => ∀ s ∈ body, ∀ d ∈ definitionsIn s, Headed e.list.tokens d) ?_
    fun _ _ _ => forall_definitions.2
  unfold blockBody
  refine .orElse ?_ (.orElse (hsimple i) (.trap (Forward.gives he i)))
  refine .past he fun _ _ _ => .past he fun _ _ _ => ?_
  exact (statements_each (fun _ => compoundStatement_heads hplaces he) hsimple).bind fun ss _ _ hss =>
    .past he fun _ _ _ => .pure hss

theorem file_heads : file.Gives Phrase.heads e i fun ss _ =>
    ∀ d ∈ definitions ss, Headed e.list.tokens d :=
  (file_each (fun _ => compoundStatement_heads hplaces he) (fun _ => simpleStatements_heads hplaces he)
    he).mono fun _ _ _ => forall_definitions.2

end
end Grammar

/-! ## Whole texts -/

/-- **Every rule of the grammar keeps what is promised of its phrase.** -/
theorem bodyOf_heads {e : Setting} (hplaces : e.Keeps Phrase.stands) (he : e.Keeps Phrase.heads)
    (i : Nat) (p : Phrase) :
    (bodyOf p).Gives Phrase.heads e i (Phrase.heads e.list.tokens p · i ·) := by
  cases p
  case block =>
    exact (bodyOf_settles hplaces i .block).also Phrase.heads_stands (Grammar.blockBody_heads hplaces he)
  case elifBranch =>
    refine ((bodyOf_settles hplaces i .elifBranch).also Phrase.heads_stands
      (Grammar.branch_builds he "elif")).mono fun _ _ _ h => h.1
  all_goals
    refine ((bodyOf_settles hplaces i _).also Phrase.heads_stands (Q := fun _ _ => True) ?_).mono
      fun _ _ _ h => h.1
    unfold bodyOf
    exact Forward.gives he i

/-- Phrases are read as promised, however deep. -/
theorem readPhrase_heads (list : TokenList) (readField : ReadField) (fuel : Nat) :
    Setting.Keeps Phrase.heads ⟨list, readField, readPhrase list readField fuel⟩ := by
  induction fuel with
  | zero => exact fun _ _ _ _ => trivial
  | succ fuel ih =>
    have hplaces := readPhrase_keeps bodyOf_settles list readField fuel
    exact fun p i n hn => inMode_gives (bodyOf_heads hplaces ih i p) n hn

/-- **The definitions of a text have heads and bodies among its tokens.** -/
theorem headed_of_parse {text : String} {tree : List Stmt} (h : Module.parse text = .ok tree) :
    ∀ d ∈ definitions tree, Headed (tokenize 1 (closeLastLine text.toList)).tokens d := by
  obtain ⟨-, hall⟩ := parse_reads (P := fun ss _ =>
    ∀ d ∈ definitions ss, Headed (tokenize 1 (closeLastLine text.toList)).tokens d)
    (fun {list} readField fuel hlist => by
      have hplaces := readPhrase_keeps bodyOf_settles list readField fuel
      rw [← hlist]
      exact Grammar.file_heads hplaces (readPhrase_heads list readField fuel)) h
  exact hall

end RecordLens.Code
