import RecordLens.Code.Phrase
import RecordLens.Code.FormattedString
/-!
Reading phrases from a list of tokens by trying alternatives in order. A reader keeps track of how far
the tokens have been looked at, since a text that cannot be read is refused at the furthest token
that was looked at.

* `Reading`: a reader that finds something, finds nothing, or meets a fault that ends all reading.
* alternatives, repetition, looking ahead.
* `Reading.once`, `Reading.grow`: readers that remember their results.
-/
namespace RecordLens.Code

/-- A remembered result of reading a phrase: what was found and where it ended, if anything. -/
structure Remembered where
  phrase : Phrase
  result : Option (phrase.Result × Nat)

/-- What reading has come to know about the text. -/
structure Notes where
  /-- How many tokens have been looked at. -/
  reach : Nat
  /-- Whether phrases are tried that explain why a text cannot be read. -/
  traps : Bool
  /-- What has been read at each place. -/
  memory : Array (List Remembered)

/-- What a reader comes to. -/
inductive Outcome (α : Type)
  /-- Something is found, and it ends before the token at `stop`. -/
  | found (value : α) (stop : Nat) (notes : Notes)
  | absent (notes : Notes)
  | fault (fault : Fault) (notes : Notes)

/-- What stays the same while reading. -/
structure Setting where
  list : TokenList
  readField : ReadField
  read : (p : Phrase) → Nat → Notes → Outcome p.Result

/-- A reader: it starts at a token, given by its number. -/
def Reading (α : Type) : Type := Setting → Nat → Notes → Outcome α

namespace Reading

variable {α β : Type}

instance : Monad Reading where
  pure a := fun _ i n => .found a i n
  bind p f := fun e i n =>
    match p e i n with
    | .found a j n => f a e j n
    | .absent n => .absent n
    | .fault x n => .fault x n

/-- Nothing is found. -/
def absent : Reading α := fun _ _ n => .absent n

/-- The second reader is tried where the first one started, if that one found nothing. -/
def orElse (p : Reading α) (q : Unit → Reading α) : Reading α := fun e i n =>
  match p e i n with
  | .absent n => q () e i n
  | outcome => outcome

instance : OrElse (Reading α) := ⟨orElse⟩

/-- Once `p` finds something, `f` decides alone; otherwise `q` is tried. -/
def commit (p : Reading α) (f : α → Reading β) (q : Reading β) : Reading β := fun e i n =>
  match p e i n with
  | .found a j n => f a e j n
  | .absent n => q e i n
  | .fault x n => .fault x n

/-- Find something or go on without it. -/
def option (p : Reading α) : Reading (Option α) :=
  commit p (fun a => return some a) (return none)

/-- Look ahead: `p` must find something, and the place does not change. -/
def ahead (p : Reading α) : Reading Unit := fun e i n =>
  match p e i n with
  | .found _ _ n => .found () i n
  | .absent n => .absent n
  | .fault x n => .fault x n

/-- Look ahead: `p` must find nothing. -/
def notAhead (p : Reading α) : Reading Unit := fun e i n =>
  match p e i n with
  | .found _ _ n => .absent n
  | .absent n => .found () i n
  | .fault x n => .fault x n

/-- As many as there are, at most `fuel`. -/
def upTo (p : Reading α) : Nat → Reading (List α)
  | 0 => return []
  | fuel + 1 => commit p (fun a => do return a :: (← upTo p fuel)) (return [])

/-- As many as there are. Each takes a token, so there are no more than tokens. -/
def many (p : Reading α) : Reading (List α) := fun e i n =>
  upTo p (e.list.tokens.size + 1) e i n

/-- One or more. -/
def many1 (p : Reading α) : Reading (List α) := do
  let a ← p
  return a :: (← many p)

/-- One or more with separators between them. -/
def separated (separator : Reading β) (p : Reading α) : Reading (List α) := do
  let a ← p
  return a :: (← many (do let _ ← separator; p))

/-! ## Tokens and faults -/

/-- The next token, which stays next. -/
def peek : Reading Token := fun e i n =>
  let n := { n with reach := max n.reach (i + 1) }
  match e.list.tokens[i]? with
  | some token => .found token i n
  | none => .fault ⟨e.list.stop.line⟩ n

/-- The next token, if it passes a test. -/
def tokenIf (test : Token → Bool) : Reading Token := fun e i n =>
  match peek e i n with
  | .found token _ n => if test token then .found token (i + 1) n else .absent n
  | outcome => outcome

/-- Refuse the text at a line. -/
def refuseAt (line : Nat) : Reading α := fun _ _ n => .fault ⟨line⟩ n

/-- The line of the furthest token that has been looked at. -/
def Notes.line (n : Notes) (list : TokenList) : Nat :=
  ((list.tokens[n.reach - 1]?).map (·.span.line)).getD list.stop.line

/-- Refuse the text at the furthest token that has been looked at. -/
def refuseHere : Reading α := fun e _ n => .fault ⟨Notes.line n e.list⟩ n

/-- A reader that only explains faults: it is tried when a first reading has failed, and it finds
    nothing even if it meets no fault. -/
def trap (p : Reading Unit) : Reading α := fun e i n =>
  if n.traps then
    match p e i n with
    | .found _ _ n => .absent n
    | .absent n => .absent n
    | .fault x n => .fault x n
  else .absent n

/-- Read without the readers that explain faults. -/
def withoutTraps (p : Reading α) : Reading α := fun e i n =>
  let traps := n.traps
  match p e i { n with traps := false } with
  | .found a j n => .found a j { n with traps }
  | .absent n => .absent { n with traps }
  | .fault x n => .fault x { n with traps }

/-- The stretch of the last of the first `count` tokens that is not a mere line end or block edge. -/
def lastSpan (tokens : Array Token) : Nat → Span
  | 0 => default
  | count + 1 =>
    match tokens[count]? with
    | some token =>
      match token.kind with
      | .newline | .indent | .dedent | .endMarker => lastSpan tokens count
      | _ => token.span
    | none => default

/-- Give a reader the stretch of code that it takes. -/
def spanned (p : Reading (Span → α)) : Reading α := do
  let first ← peek
  let build ← p
  fun e i n => .found (build (first.span.to (lastSpan e.list.tokens i))) i n

/-! ## Remembering -/

/-- Read a phrase. -/
def phrase (p : Phrase) : Reading p.Result := fun e i n => e.read p i n

/-- What has been remembered of a phrase. -/
def known (p : Phrase) : List Remembered → Option (Option (p.Result × Nat))
  | [] => none
  | r :: rest => if h : r.phrase = p then some (h ▸ r.result) else known p rest

/-- Replace what is remembered of a phrase, or add it. -/
def memorize (new : Remembered) : List Remembered → List Remembered
  | [] => [new]
  | r :: rest => if r.phrase = new.phrase then new :: rest else r :: memorize new rest

/-- Keep a result for a place. -/
def Notes.remember (n : Notes) (place : Nat) (new : Remembered) : Notes :=
  { n with memory := n.memory.modify place (memorize new) }

/-- The result for a phrase at a place, if it has been kept. -/
def Notes.known (n : Notes) (place : Nat) (p : Phrase) : Option (Option (p.Result × Nat)) :=
  Reading.known p (n.memory.getD place [])

/-- Give a remembered result again. -/
def replay (known : Option (α × Nat)) : Reading α := fun _ _ n =>
  match known with
  | some (a, stop) => .found a stop n
  | none => .absent n

/-- Read a phrase at most once at each place. -/
def once (p : Phrase) (body : Reading p.Result) : Reading p.Result := do
  let _ ← peek
  fun e i n =>
    match Notes.known n i p with
    | some known => replay known e i n
    | none =>
      match body e i n with
      | .found a j n => .found a j (Notes.remember n i ⟨p, some (a, j)⟩)
      | .absent n => .absent (Notes.remember n i ⟨p, none⟩)
      | .fault x n => .fault x n

/-- Read a phrase again with `best` as what it begins with, as long as it gets longer. -/
def extend (p : Phrase) (body : Reading p.Result) :
    Nat → Option (p.Result × Nat) → Reading p.Result
  | 0, best => replay best
  | fuel + 1, best => fun e i n =>
    match body e i (Notes.remember n i ⟨p, best⟩) with
    | .found a j n =>
      if j ≤ (best.map (·.2)).getD i then replay best e i n
      else extend p body fuel (some (a, j)) e i n
    | .absent n => replay best e i n
    | .fault x n => .fault x n

/-- Read a phrase that may begin with itself: at first it is taken to be absent at its own start. -/
def grow (p : Phrase) (body : Reading p.Result) : Reading p.Result := do
  let _ ← peek
  fun e i n =>
    match Notes.known n i p with
    | some known => replay known e i n
    | none => extend p body (e.list.tokens.size + 1) none e i n

/-- Read a phrase in its mode. -/
def inMode (p : Phrase) (body : Reading p.Result) : Reading p.Result :=
  match p.mode with
  | .fresh => body
  | .once => once p body
  | .growing => grow p body

end Reading
end RecordLens.Code
