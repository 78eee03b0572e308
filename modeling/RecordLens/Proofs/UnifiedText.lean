import RecordLens.Code.Printer
import RecordLens.Proofs.CodeLines
/-!
Texts without carriage returns. A text that is written and read again comes back as it was if it holds
none, since only they are changed by reading. What is quoted never holds one, whatever is quoted: it is
escaped there like everything that cannot be shown. Neither do numbers.

* `Text.Unified`: a text whose line ends are line feeds already.
* `unifyLineEnds_eq_self`: reading leaves such a text as it is.
* `not_mem_quoted`, `not_mem_plainText`, `not_mem_joinPieces`: the ways of quoting.
* `unified_literal`: literals.
-/
namespace RecordLens

namespace Text

/-- A text that holds a character nowhere. -/
def Lacks (c : Char) (s : String) : Prop := c ∉ s.toList

instance (c : Char) (s : String) : Decidable (Lacks c s) := inferInstanceAs (Decidable ¬_ ∈ _)

/-- A text whose line ends are line feeds already. -/
def Unified (s : String) : Prop := '\r' ∉ s.toList

instance (s : String) : Decidable (Unified s) := inferInstanceAs (Decidable ¬_ ∈ _)

/-- Texts without carriage returns. -/
def AllUnified (texts : List String) : Prop := ∀ s ∈ texts, Unified s

variable {s t : String} {texts more : List String} {cs : List Char} {ps : List Nat}

@[simp] theorem lacks_append {c : Char} : Lacks c (s ++ t) ↔ Lacks c s ∧ Lacks c t := by
  rw [Lacks, String.toList_append, List.mem_append, not_or]
  rfl

@[simp] theorem unified_append : Unified (s ++ t) ↔ Unified s ∧ Unified t := lacks_append

@[simp] theorem unified_ofList : Unified (String.ofList cs) ↔ '\r' ∉ cs := by
  rw [Unified, String.toList_ofList]

theorem unified_ite {c : Prop} [Decidable c] (hs : Unified s) (ht : Unified t) :
    Unified (if c then s else t) := by
  split
  · exact hs
  · exact ht

/-! ## Several texts -/

namespace AllUnified

theorem nil : AllUnified [] := nofun

theorem cons (hs : Unified s) (h : AllUnified texts) : AllUnified (s :: texts) :=
  List.forall_mem_cons.2 ⟨hs, h⟩

theorem singleton (hs : Unified s) : AllUnified [s] := cons hs nil

theorem append (h : AllUnified texts) (hmore : AllUnified more) : AllUnified (texts ++ more) :=
  List.forall_mem_append.2 ⟨h, hmore⟩

end AllUnified

theorem unified_join (h : AllUnified texts) : Unified (String.join texts) := by
  rw [Unified, String.toList_join, List.mem_flatMap]
  rintro ⟨s, hs, hmem⟩
  exact h s hs hmem

theorem lacks_intercalate {c : Char} {separator : String} (hseparator : Lacks c separator)
    (h : ∀ s ∈ texts, Lacks c s) : Lacks c (String.intercalate separator texts) := by
  induction texts with
  | nil => exact List.not_mem_nil
  | cons s texts ih =>
    obtain ⟨hs, htexts⟩ := List.forall_mem_cons.1 h
    cases texts with
    | nil => rwa [String.intercalate_singleton]
    | cons t texts =>
      rw [String.intercalate_cons_cons, lacks_append, lacks_append]
      exact ⟨⟨hs, hseparator⟩, ih htexts⟩

theorem unified_intercalate {separator : String} (hseparator : Unified separator)
    (h : AllUnified texts) : Unified (String.intercalate separator texts) :=
  lacks_intercalate hseparator h

theorem AllUnified.commaSeparated (h : AllUnified texts) :
    Unified (String.intercalate ", " texts) :=
  unified_intercalate (by decide) h

/-! ## Reading -/

theorem unifyLineEnds_eq_self (h : '\r' ∉ cs) : unifyLineEnds cs = cs := by
  fun_induction unifyLineEnds with
  | case1 => rfl
  | case2 => exact absurd List.mem_cons_self h
  | case3 => exact absurd List.mem_cons_self h
  | case4 c rest _ _ ih => rw [ih fun hmem => h (List.mem_cons_of_mem c hmem)]

theorem unified_unifyLineEnds (cs : List Char) : Unified (String.ofList (unifyLineEnds cs)) := by
  rw [unified_ofList]
  exact fun h => not_return_of_mem_unifyLineEnds cs _ h rfl

theorem unified_of_mem_displayLines {text line : String} (h : line ∈ displayLines text) :
    Unified line := by
  obtain ⟨cs, hcs, rfl⟩ := List.mem_map.1 h
  rw [unified_ofList]
  intro hmem
  exact absurd (not_ends_of_mem_cutLines _ cs hcs '\r' hmem) (by decide)

/-! ## Code points -/

theorem toNat_ofNat {n : Nat} (h : n.isValidChar) : (Char.ofNat n).toNat = n := by
  rw [Char.ofNat, dif_pos h]
  rfl

theorem unified_ofPoints (h : 13 ∉ ps) : Unified (ofPoints ps) := by
  rw [ofPoints, unified_ofList, List.mem_map]
  rintro ⟨p, hp, heq⟩
  split at heq
  next hvalid =>
    have hpoint : p = 13 := by
      rw [← toNat_ofNat hvalid, heq]
      rfl
    exact h (hpoint ▸ hp)
  · exact absurd heq (by decide)

theorem not_mem_points (h : Unified s) : 13 ∉ points s := by
  rw [points, List.mem_map]
  rintro ⟨c, hc, heq⟩
  obtain rfl : c = '\r' := Char.toNat_inj.1 heq
  exact h hc

/-! ## Quoting -/

theorem not_mem_hexDigits (width n : Nat) : 13 ∉ hexDigits width n := by
  have hdigit (n : Nat) : hexDigit n ≠ 13 := by
    unfold hexDigit
    split <;> omega
  induction width generalizing n with
  | zero => exact List.not_mem_nil
  | succ width ih =>
    rw [hexDigits, List.mem_append, List.mem_singleton, not_or]
    exact ⟨ih _, (hdigit _).symm⟩

theorem not_mem_escapePoint (p : Nat) : 13 ∉ escapePoint p := by
  unfold escapePoint numericEscape
  repeat' split
  all_goals simp [backslash, not_mem_hexDigits]

theorem not_mem_quotedBody {quote : Nat} (hquote : quote ≠ 13) (shown : Nat → Bool)
    (hshown : shown 13 = false) (ps : List Nat) : 13 ∉ quotedBody quote shown ps := by
  rw [quotedBody, List.mem_flatMap]
  rintro ⟨p, -, hp⟩
  split at hp
  next heq =>
    subst heq
    simp [backslash, Ne.symm hquote] at hp
  split at hp
  · exact not_mem_escapePoint p hp
  next hsafe =>
    obtain rfl := List.mem_singleton.1 hp
    simp [hshown] at hsafe

theorem quoteFor_ne (ps : List Nat) : quoteFor ps ≠ 13 := by
  unfold quoteFor
  split <;> decide

theorem not_mem_quoted (ps : List Nat) : 13 ∉ quoted ps := by
  have hbody := not_mem_quotedBody (quoteFor_ne ps) isPrintable rfl ps
  simp [quoted, hbody, (quoteFor_ne ps).symm]

theorem not_mem_quotedBytes (bs : List Nat) : 13 ∉ quotedBytes bs := by
  have hbody := not_mem_quotedBody (quoteFor_ne bs) (fun b => 32 ≤ b && b < 127) rfl bs
  simp [quotedBytes, hbody, (quoteFor_ne bs).symm]

end Text

/-! ## Numbers -/

namespace Decimal

variable {ds : List Char}

theorem not_mem_natDigits (n : Nat) : '\r' ∉ natDigits n := by
  have hdigits : ∀ (fuel n : Nat) (acc : List Char), '\r' ∉ acc → '\r' ∉ digitsOf fuel n acc := by
    intro fuel
    induction fuel with
    | zero => exact fun _ _ h => h
    | succ fuel ih =>
      intro n acc h
      have hdigit : '\r' ∉ Char.ofNat (48 + n % 10) :: acc := by
        refine List.not_mem_cons_of_ne_of_not_mem (fun heq => ?_) h
        have hback : 13 = 48 + n % 10 := by
          rw [← Text.toNat_ofNat (n := 48 + n % 10) (.inl (by omega)), ← heq]
          rfl
        omega
      rw [digitsOf]
      split
      · exact hdigit
      · exact ih _ _ hdigit
  exact hdigits _ _ _ List.not_mem_nil

theorem not_mem_shortest (m : Nat) (e : Int) : '\r' ∉ (shortest m e).1 := by
  unfold shortest
  split
  · decide
  · dsimp only
    rw [dropZeros, List.mem_reverse]
    exact fun h => not_mem_natDigits _ (List.mem_reverse.1 ((List.dropWhile_sublist _).subset h))

theorem unified_exponentText (x : Int) : Text.Unified (exponentText x) := by
  unfold exponentText
  rw [Text.unified_append, Text.unified_ofList]
  refine ⟨by split <;> decide, ?_⟩
  split
  · exact List.not_mem_cons_of_ne_of_not_mem (by decide) (not_mem_natDigits _)
  · exact not_mem_natDigits _

theorem unified_write (layout : Layout) (h : '\r' ∉ ds) (point : Int) :
    Text.Unified (layout.write ds point) := by
  have htake (n : Nat) : '\r' ∉ ds.take n := fun hmem => h (List.mem_of_mem_take hmem)
  have hdrop (n : Nat) : '\r' ∉ ds.drop n := fun hmem => h (List.mem_of_mem_drop hmem)
  have hzeros (n : Nat) : '\r' ∉ List.replicate n '0' := by simp [List.mem_replicate]
  unfold Layout.write
  refine Text.unified_ite ?_ ?_
  · refine Text.unified_ite ?_ (Text.unified_ite ?_ ?_)
    · simp +decide [h, hzeros]
    · simp +decide only [Text.unified_append, Text.unified_ofList, List.mem_append, htake, hzeros]
      exact ⟨trivial, Text.unified_ite (by decide) (by decide)⟩
    · simp +decide [htake, hzeros, hdrop]
  · simp only [Text.unified_append, Text.unified_ofList]
    refine ⟨⟨htake 1, Text.unified_ite (by decide) ?_⟩, unified_exponentText _⟩
    rw [Text.unified_append]
    exact ⟨by decide, Text.unified_ofList.2 (hdrop 1)⟩

theorem unified_text (layout : Layout) (x : Binary64) : Text.Unified (x.text layout) := by
  cases x with
  | infinite => exact (by decide : Text.Unified "1e309")
  | finite m e => exact unified_write layout (not_mem_shortest m e) _

end Decimal

/-! ## Quoting with few backslashes -/

namespace Code

open Text

theorem not_mem_escapeUnshown (escapeSpace : Bool) (ps : List Nat) :
    13 ∉ escapeUnshown escapeSpace ps := by
  rw [escapeUnshown, List.mem_flatMap]
  rintro ⟨p, -, hp⟩
  split at hp
  next hspace =>
    obtain rfl := List.mem_singleton.1 hp
    simp at hspace
  split at hp
  · exact not_mem_escapePoint p hp
  next hshown =>
    obtain rfl := List.mem_singleton.1 hp
    exact hshown rfl

/-- Quotes without a carriage return. -/
def SoundQuotes (quotes : List (List Nat)) : Prop := ∀ q ∈ quotes, 13 ∉ q

theorem soundQuotes_all : SoundQuotes allQuotes := by
  unfold SoundQuotes allQuotes
  decide

theorem SoundQuotes.enclose {quotes : List (List Nat)} (h : SoundQuotes quotes) {body : List Nat}
    (hbody : 13 ∉ body) :
    13 ∉ quotes.headD [singleQuote] ++ body ++ quotes.headD [singleQuote] := by
  have hquote : 13 ∉ quotes.headD [singleQuote] := by
    cases quotes with
    | nil => decide
    | cons q qs => exact h q List.mem_cons_self
  simp only [List.mem_append, not_or]
  exact ⟨⟨hquote, hbody⟩, hquote⟩

/-- What is quoted holds no carriage return, and neither do the quotes that suit it. -/
theorem textBody_sound {quotes : List (List Nat)} (hquotes : SoundQuotes quotes) (escapeSpace : Bool)
    (ps : List Nat) : 13 ∉ (textBody quotes escapeSpace ps).1 ∧
      SoundQuotes (textBody quotes escapeSpace ps).2 := by
  have hbody := not_mem_escapeUnshown escapeSpace ps
  have hfilter (p : List Nat → Bool) : SoundQuotes (quotes.filter p) :=
    fun q hq => hquotes q (List.mem_filter.1 hq).1
  have hprefer (last : Nat) (p : List Nat → Bool) :
      SoundQuotes (preferQuotes last (quotes.filter p)) := by
    intro q hq
    rcases List.mem_append.1 hq with hq | hq <;> exact hfilter p q (List.mem_filter.1 hq).1
  unfold textBody
  dsimp only
  split
  · -- no quotes suit the text, and it is quoted in the other way
    refine ⟨fun h => not_mem_quoted ps ?_, ?_⟩
    · exact List.mem_of_mem_drop (List.dropLast_subset _ h)
    · rintro q hq
      obtain rfl := List.mem_singleton.1 hq
      have hmark : 13 ∉ [(quoted ps).headD singleQuote] := by
        rw [List.mem_singleton]
        exact (quoteFor_ne ps).symm
      cases hfind : quotes.find? fun q => q.contains ((quoted ps).headD singleQuote) with
      | none => exact hmark
      | some q => exact hquotes q (List.mem_of_find?_eq_some hfind)
  · exact ⟨hbody, hfilter _⟩
  next _ _ last hlast _ =>
    have hmem := List.mem_of_getLast? hlast
    split
    · split
      · -- a backslash goes before the last character, which is a quote like the ones around the text
        refine ⟨?_, hprefer _ _⟩
        rw [List.mem_append, not_or]
        refine ⟨fun h => hbody (List.dropLast_subset _ h), ?_⟩
        simp only [List.mem_cons, List.not_mem_nil, or_false, not_or]
        exact ⟨by decide, fun heq => hbody (heq ▸ hmem)⟩
      · exact ⟨hbody, hprefer _ _⟩
    · exact ⟨hbody, hprefer _ _⟩

theorem not_mem_plainText (ps : List Nat) : 13 ∉ plainText ps := by
  obtain ⟨hbody, hquotes⟩ := textBody_sound soundQuotes_all false ps
  exact hquotes.enclose hbody

theorem bodies_sound {pieces : List (List Nat × Bool)} : ∀ {quotes left : List (List Nat)}
    {body : List Nat}, SoundQuotes quotes → bodies quotes pieces = some (body, left) →
      13 ∉ body ∧ SoundQuotes left := by
  induction pieces with
  | nil =>
    intro quotes left body hquotes h
    obtain ⟨rfl, rfl⟩ := Prod.mk.inj (Option.some.inj h)
    exact ⟨List.not_mem_nil, hquotes⟩
  | cons piece rest ih =>
    intro quotes left body hquotes h
    obtain ⟨ps, isText⟩ := piece
    obtain ⟨hbody, hfitting⟩ := textBody_sound hquotes isText ps
    rw [bodies] at h
    dsimp only at h
    split at h
    · obtain ⟨⟨tail, left'⟩, htail, heq⟩ := Option.map_eq_some_iff.1 h
      obtain ⟨rfl, rfl⟩ := Prod.mk.inj heq
      obtain ⟨htail, hleft⟩ := ih hfitting htail
      exact ⟨by simp [hbody, htail], hleft⟩
    · exact absurd h nofun

/-- A formatted string holds no carriage return, whatever its pieces hold. -/
theorem not_mem_joinPieces (pieces : List (List Nat × Bool)) : 13 ∉ joinPieces pieces := by
  unfold joinPieces
  split
  next body quotes h =>
    obtain ⟨hbody, hquotes⟩ := bodies_sound soundQuotes_all h
    exact hquotes.enclose hbody
  · have hpieces : 13 ∉ pieces.flatMap fun piece =>
        ((quoted (doubleQuote :: piece.1)).drop 2).dropLast := by
      rw [List.mem_flatMap]
      rintro ⟨piece, -, h⟩
      exact not_mem_quoted _ (List.mem_of_mem_drop (List.dropLast_subset _ h))
    simp [hpieces, singleQuote]

/-- The text of a literal. -/
theorem unified_literal {avoid : Bool} {value : Literal} {text : String}
    (h : value.write avoid = .ok text) : Unified text := by
  cases value with
  | none | ellipsis =>
    obtain rfl := Except.ok.inj h
    decide
  | bool value =>
    cases value <;>
    · obtain rfl := Except.ok.inj h
      decide
  | int n =>
    rw [Literal.write] at h
    split at h
    · exact absurd h nofun
    · obtain rfl := Except.ok.inj h
      exact unified_ofList.2 (Decimal.not_mem_natDigits n)
  | real x =>
    obtain rfl := Except.ok.inj h
    exact Decimal.unified_text _ x
  | imaginary x =>
    obtain rfl := Except.ok.inj h
    exact unified_append.2 ⟨Decimal.unified_text _ x, by decide⟩
  | text ps marked =>
    obtain rfl := Except.ok.inj h
    refine unified_append.2 ⟨unified_ite (by decide) (by decide), unified_ofPoints ?_⟩
    split
    · exact not_mem_plainText ps
    · exact not_mem_quoted ps
  | bytes bs =>
    obtain rfl := Except.ok.inj h
    exact unified_ofPoints (not_mem_quotedBytes bs)

end Code
end RecordLens
