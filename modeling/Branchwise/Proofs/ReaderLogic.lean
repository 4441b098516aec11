/-
What readers make of tokens whose names are in normal form.

* `IsName`: an identifier in normal form.
* `WellNamed`: every name among the tokens carries such a form;
  `wellNamed_tokens?` says that the lexer gives no others.
* `Yields`: a reader of such tokens gives values of a kind and leaves such
  tokens, with one rule for each way to build a reader.
-/
import Branchwise.Proofs.ShownText
import Branchwise.Source.Module

namespace Branchwise.Source

open Text Text.Compatibility

/-! ### Names -/

/-- An identifier in normal form. -/
structure IsName (name : String) : Prop where
  identifier : isIdentifier name.toList = true
  stable : normalize name.toList = name.toList

lemma forall_part_of_isIdentifier {word : List Char} (h : isIdentifier word = true) :
    ∀ c ∈ word, isIdentifierPart c = true := by
  cases word with
  | nil => simp
  | cons c cs =>
      rw [isIdentifier, Bool.and_eq_true, List.all_eq_true, isIdentifierStart_iff] at h
      rw [List.forall_mem_cons, isIdentifierPart_iff]
      exact ⟨h.1.isPart, h.2⟩

lemma IsName.isForm {name : String} (h : IsName name) : IsForm name.toList :=
  ⟨forall_part_of_isIdentifier h.identifier, h.stable⟩

lemma IsName.unbroken {name : String} (h : IsName name) : Unbroken name.toList :=
  unbroken_of_parts h.isForm.parts

/-- The form of an identifier is a name. -/
lemma isName_normalize {word : List Char} (h : isIdentifier word = true) :
    IsName (String.ofList (normalize word)) := by
  have hform := isForm_normalize (forall_part_of_isIdentifier h)
  constructor
  · rw [String.toList_ofList]
    exact isIdentifier_normalize h
  · rw [String.toList_ofList]
    exact hform.stable

/-! ### Tokens -/

/-- A name among the tokens carries a name as its form. -/
def Token.WellNamed (t : Token) : Prop :=
  ∀ spelling form, t.kind = .name spelling form → IsName form

/-- All tokens of the list are. -/
def WellNamed (ts : List Token) : Prop :=
  ∀ t ∈ ts, t.WellNamed

lemma wellNamed_nil : WellNamed [] := by
  simp [WellNamed]

@[simp]
lemma wellNamed_cons {t : Token} {ts : List Token} :
    WellNamed (t :: ts) ↔ t.WellNamed ∧ WellNamed ts := by
  simp [WellNamed]

lemma WellNamed.append {ts us : List Token} (h : WellNamed ts) (h' : WellNamed us) :
    WellNamed (ts ++ us) := by
  intro t ht
  rcases List.mem_append.mp ht with ht | ht
  · exact h t ht
  · exact h' t ht

/-- An ASCII word that starts like one is an identifier. -/
lemma isIdentifier_of_ascii {c : Char} {cs : List Char} (hc : isWordStart c = true)
    (hcs : ∀ d ∈ cs, isWordPart d = true) (hascii : ∀ d ∈ c :: cs, d.toNat < 128) :
    isIdentifier (c :: cs) = true := by
  have hlow : ¬ 128 ≤ c.toNat := by
    have := hascii c List.mem_cons_self
    omega
  rw [isIdentifier, Bool.and_eq_true, List.all_eq_true]
  constructor
  · rw [isIdentifierStart, if_pos (by omega)]
    simpa [isWordStart, hlow] using hc
  · intro d hd
    have hlow : ¬ 128 ≤ d.toNat := by
      have := hascii d (List.mem_cons_of_mem c hd)
      omega
    rw [isIdentifierPart, if_pos (by omega)]
    simpa [isWordPart, hlow] using hcs d hd

/-- The token of a word is well named. -/
lemma wellNamed_wordKind? {c : Char} {cs : List Char} (hc : isWordStart c = true)
    {kind : Token.Kind} (h : wordKind? ((c :: cs).takeWhile isWordPart) = some kind) (line : Nat) :
    Token.WellNamed ⟨kind, line⟩ := by
  intro spelling form hkind
  cases hkind
  have hpart : isWordPart c = true := by
    simp only [isWordStart, isWordPart, Char.isAlphanum, Bool.or_eq_true] at hc ⊢
    tauto
  rw [List.takeWhile_cons_of_pos hpart, wordKind?] at h
  split at h
  · cases h
  · split at h
    · next hword =>
      cases h
      apply isName_normalize
      rw [Bool.or_eq_true, List.all_eq_true] at hword
      rcases hword with hascii | hword
      · have hparts := List.all_takeWhile (p := isWordPart) (l := cs)
        rw [List.all_eq_true] at hparts
        exact isIdentifier_of_ascii hc hparts fun d hd => by simpa using hascii d hd
      · exact hword
    · cases h

lemma wellNamed_scanToken {cs after : List Char} {kind : Token.Kind}
    (h : scanToken cs = some (kind, after)) (line : Nat) : Token.WellNamed ⟨kind, line⟩ := by
  cases cs with
  | nil => cases h
  | cons c rest =>
      rw [scanToken] at h
      dsimp only at h
      split at h
      · obtain ⟨⟨literal, after⟩, -, h⟩ := Option.map_eq_some_iff.mp h
        cases h
        simp [Token.WellNamed]
      · split at h
        · next hc =>
          obtain ⟨kind, hkind, h⟩ := Option.map_eq_some_iff.mp h
          cases h
          exact wellNamed_wordKind? hc hkind line
        · split at h
          · obtain ⟨⟨value, after⟩, -, h⟩ := Option.map_eq_some_iff.mp h
            cases h
            simp [Token.WellNamed]
          · obtain ⟨⟨sym, after⟩, -, h⟩ := Option.map_eq_some_iff.mp h
            cases h
            simp [Token.WellNamed]

lemma forall_kind_openBlocks {here : Margin} {blocks rest : List Margin} {kinds : List Token.Kind}
    (h : openBlocks here blocks = some (kinds, rest)) :
    ∀ kind ∈ kinds, kind = .indent ∨ kind = .dedent := by
  rw [openBlocks] at h
  dsimp only at h
  split_ifs at h
  · cases h
    simp
  · cases h
    simp
  · cases h
    intro kind hkind
    exact .inr (List.eq_of_mem_replicate hkind)

lemma wellNamed_lineStart {st : Lexer} {cs : List Char} {s : Lexed} (h : st.lineStart cs = some s) :
    WellNamed s.found := by
  rw [Lexer.lineStart] at h
  simp only [Option.bind_eq_bind, Option.bind_eq_some_iff] at h
  obtain ⟨⟨here, line, rest⟩, -, h⟩ := h
  dsimp only at h
  split at h
  · split at h
    · cases h
      exact wellNamed_nil
    · cases h
  · split at h
    · cases h
      exact wellNamed_nil
    · cases h
  · obtain ⟨⟨kinds, blocks⟩, hopen, h⟩ := Option.bind_eq_some_iff.mp h
    cases h
    intro t ht
    obtain ⟨kind, hkind, rfl⟩ := List.mem_map.mp ht
    rcases forall_kind_openBlocks hopen kind hkind with rfl | rfl
    · simp [Token.WellNamed]
    · simp [Token.WellNamed]

lemma wellNamed_withinLine {st : Lexer} {cs : List Char} {s : Lexed}
    (h : st.withinLine cs = some s) : WellNamed s.found := by
  rw [Lexer.withinLine.eq_def] at h
  split at h
  · cases h
    exact wellNamed_nil
  · split at h
    · cases h
      simp [WellNamed, Token.WellNamed]
    · cases h
      exact wellNamed_nil
  · cases h
    exact wellNamed_nil
  · cases h
  · split at h
    · cases h
      exact wellNamed_nil
    · simp only [Option.bind_eq_bind, Option.bind_eq_some_iff] at h
      obtain ⟨⟨kind, after⟩, hkind, next, -, h⟩ := h
      cases h
      rw [wellNamed_cons]
      exact ⟨wellNamed_scanToken hkind _, wellNamed_nil⟩

/-- The lexer adds well named tokens to those that it has. -/
lemma wellNamed_lex {fuel : Nat} {st : Lexer} {cs : List Char} {done ts : List Token}
    (hdone : WellNamed done) (h : lex fuel st cs done = some ts) : WellNamed ts := by
  induction fuel generalizing st cs done with
  | zero => cases h
  | succ fuel ih =>
      rw [lex] at h
      split at h
      · split at h
        · cases h
          intro t ht
          rw [List.mem_reverse, List.mem_cons] at ht
          rcases ht with rfl | ht
          · simp [Token.WellNamed]
          · exact hdone t ht
        · cases h
      · split at h
        · next s hs =>
          refine ih (WellNamed.append ?_ hdone) h
          split at hs
          · exact wellNamed_lineStart hs
          · exact wellNamed_withinLine hs
        · cases h

/-- **Every name among the tokens of a text carries an identifier in normal form.** -/
lemma wellNamed_tokens? {source : List Char} {ts : List Token} (h : tokens? source = some ts) :
    WellNamed ts :=
  wellNamed_lex wellNamed_nil h

namespace Grammar

/-! ### Readers -/

variable {α β : Type}

/-- Of well named tokens the reader makes values with `Q`, and it leaves well named
tokens. -/
def Yields (r : Reader α) (Q : α → Prop) : Prop :=
  ∀ ts, WellNamed ts → ∀ a rest, r ts = some (a, rest) → Q a ∧ WellNamed rest

section Rules

variable {r : Reader α} {f : α → Reader β} {P P' : α → Prop} {Q : β → Prop}

lemma Yields.mono (h : Yields r P) (hP : ∀ a, P a → P' a) : Yields r P' := by
  intro ts hts a rest hr
  obtain ⟨ha, hrest⟩ := h ts hts a rest hr
  exact ⟨hP a ha, hrest⟩

lemma Yields.trivial (h : Yields r P) : Yields r fun _ => True :=
  h.mono fun _ _ => True.intro

lemma yields_pure {a : α} (h : P a) : Yields (pure a) P := by
  intro ts hts b rest hr
  cases hr
  exact ⟨h, hts⟩

lemma yields_failure : Yields (failure : Reader α) P := by
  intro ts hts a rest hr
  cases hr

/-- What a reader yields may be used by the reader behind it. -/
lemma Yields.bind (hr : Yields r P) (hf : ∀ a, P a → Yields (f a) Q) : Yields (r >>= f) Q := by
  intro ts hts b rest h
  obtain ⟨⟨a, ts'⟩, ha, hb⟩ := Option.bind_eq_some_iff.mp h
  obtain ⟨hPa, hts'⟩ := hr ts hts a ts' ha
  exact hf a hPa ts' hts' b rest hb

/-- The reader behind another one, which needs nothing of it. -/
lemma Yields.seq (hr : Yields r P) (hf : ∀ a, Yields (f a) Q) : Yields (r >>= f) Q :=
  hr.bind fun a _ => hf a

lemma Yields.orElse {r' : Reader α} (hr : Yields r P) (hr' : Yields r' P) :
    Yields (r <|> r') P := by
  intro ts hts a rest h
  change (r ts <|> r' ts) = some (a, rest) at h
  cases hfirst : r ts with
  | none =>
      rw [hfirst] at h
      exact hr' ts hts a rest h
  | some x =>
      rw [hfirst] at h
      exact hr ts hts a rest (hfirst.trans h)

end Rules

/-! ### Single tokens -/

lemma yields_peek : Yields peek fun kind => ∀ s form, kind = .name s form → IsName form := by
  intro ts hts kind rest h
  cases ts with
  | nil =>
      cases h
      exact ⟨by simp, wellNamed_nil⟩
  | cons t ts =>
      cases h
      exact ⟨(wellNamed_cons.mp hts).1, hts⟩

lemma yields_line : Yields line fun _ => True := by
  intro ts hts n rest h
  cases ts with
  | nil =>
      cases h
      exact ⟨True.intro, hts⟩
  | cons t ts =>
      cases h
      exact ⟨True.intro, hts⟩

lemma yields_skip : Yields skip fun _ => True := by
  intro ts hts u rest h
  cases h
  exact ⟨True.intro, fun t ht => hts t (List.mem_of_mem_drop ht)⟩

lemma yields_token (kind : Token.Kind) : Yields (token kind) fun _ => True := by
  refine yields_peek.seq fun k => ?_
  split
  · exact yields_skip
  · exact yields_failure

lemma yields_symbol (s : Symbol) : Yields (symbol s) fun _ => True :=
  yields_token _

lemma yields_word (k : Keyword) : Yields (word k) fun _ => True :=
  yields_token _

lemma yields_isNext (kind : Token.Kind) : Yields (isNext kind) fun _ => True :=
  yields_peek.seq fun _ => yields_pure True.intro

lemma yields_isSymbol (s : Symbol) : Yields (isSymbol s) fun _ => True :=
  yields_isNext _

lemma yields_isWord (k : Keyword) : Yields (isWord k) fun _ => True :=
  yields_isNext _

lemma yields_acceptToken (kind : Token.Kind) : Yields (acceptToken kind) fun _ => True := by
  refine yields_peek.seq fun k => ?_
  split
  · exact yields_skip.seq fun _ => yields_pure True.intro
  · exact yields_pure True.intro

lemma yields_accept (s : Symbol) : Yields (accept s) fun _ => True :=
  yields_acceptToken _

lemma yields_acceptWord (k : Keyword) : Yields (acceptWord k) fun _ => True :=
  yields_acceptToken _

lemma yields_identifier : Yields identifier IsName := by
  refine yields_peek.bind fun kind hkind => ?_
  split
  · next form => exact yields_skip.seq fun _ => yields_pure (hkind _ form rfl)
  · exact yields_failure

lemma yields_isSpelled (spelling : String) : Yields (isSpelled spelling) fun _ => True := by
  refine yields_peek.seq fun kind => ?_
  split
  · exact yields_pure True.intro
  · exact yields_pure True.intro

lemma yields_nameBefore? (s : Symbol) : Yields (nameBefore? s) fun o => ∀ id ∈ o, IsName id := by
  intro ts hts o rest h
  rw [nameBefore?.eq_def] at h
  split at h
  · cases h
    refine ⟨fun id hid => ?_, hts⟩
    split at hid
    · cases hid
      exact (wellNamed_cons.mp hts).1 _ _ rfl
    · cases hid
  · cases h
    exact ⟨by simp, hts⟩

/-! ### Lists -/

section Lists

variable {P : α → Prop}

lemma yields_chain {step : Reader (Option α)} (h : Yields step fun o => ∀ a ∈ o, P a)
    (bound : Nat) : Yields (chain step bound) fun l => ∀ a ∈ l, P a := by
  induction bound with
  | zero => exact yields_failure
  | succ bound ih =>
      refine h.bind fun o ho => ?_
      cases o with
      | none => exact yields_pure (by simp)
      | some a =>
          refine ih.bind fun l hl => yields_pure ?_
          rw [List.forall_mem_cons]
          exact ⟨ho a rfl, hl⟩

variable {item : Reader α} (h : Yields item P) (bound : Nat)
include h

/-- An item that is read only if the flag says so. -/
lemma Yields.guarded (flag : Reader Bool) (hflag : Yields flag fun _ => True) :
    Yields (do if ← flag then return some (← item) else return none : Reader (Option α))
      fun o => ∀ a ∈ o, P a := by
  refine hflag.seq fun c => ?_
  split
  · exact h.bind fun a ha => yields_pure (by simpa using ha)
  · exact yields_pure (by simp)

lemma yields_commaSeparated : Yields (commaSeparated bound item) fun l => ∀ a ∈ l, P a := by
  refine h.bind fun first hfirst => ?_
  refine (yields_chain (h.guarded _ (yields_accept .comma)) bound).bind fun rest hrest => ?_
  apply yields_pure
  rw [List.forall_mem_cons]
  exact ⟨hfirst, hrest⟩

lemma yields_commaTail {atEnd : Reader Bool} (hend : Yields atEnd fun _ => True) :
    Yields (commaTail bound atEnd item) fun p => ∀ a ∈ p.1, P a := by
  refine (yields_isSymbol _).seq fun c => ?_
  split
  · refine (yields_chain ?_ bound).bind fun rest hrest => yields_pure hrest
    refine (yields_accept _).seq fun c => ?_
    split
    · refine hend.seq fun stop => ?_
      split
      · exact yields_pure (by simp)
      · exact h.bind fun a ha => yields_pure (by simpa using ha)
    · exact yields_pure (by simp)
  · exact yields_pure (by simp)

end Lists

end Grammar

end Branchwise.Source
