/-
The lexer on texts that are known piece by piece.

A run of the lexer is followed from place to place; lines do not matter, and so
they are left out of a place. The weight of a place bounds the steps that are left
to take, and every step lowers it.

* `Place`, `Lexes`: a run from one place to another, and the kinds of the tokens
  that it finds; runs compose.
* `exists_tokens?`: a run to the end of a text gives its tokens.
* `lexes_word`, `lexes_symbol`, `lexes_longText`, `lexes_shortText`, `lexes_newline`,
  …: the pieces of lines.
* `lexes_emptyLine`, `lexes_comment`, `lexes_flush`, `lexes_indented`: the starts of
  lines.
-/
import Branchwise.Proofs.ReaderLogic

namespace Branchwise.Source

open Text

/-! ### Runs -/

/-- Where the lexer stands, but for the line. -/
structure Place where
  atLineStart : Bool
  blocks : List Margin
  brackets : List Symbol

namespace Place

/-- The state of the lexer at this place. -/
def on (p : Place) (line : Nat) : Lexer :=
  ⟨line, p.atLineStart, p.blocks, p.brackets⟩

/-- A bound on the steps that the lexer takes from here. -/
def weight (p : Place) (cs : List Char) : Nat :=
  2 * cs.length + if p.atLineStart then 1 else 0

/-- Within a line. -/
def within (blocks : List Margin) (brackets : List Symbol) : Place :=
  ⟨false, blocks, brackets⟩

/-- At the start of a line, with no bracket open. -/
def fresh (blocks : List Margin) : Place :=
  ⟨true, blocks, []⟩

@[simp]
lemma weight_within (blocks : List Margin) (brackets : List Symbol) (cs : List Char) :
    (within blocks brackets).weight cs = 2 * cs.length := rfl

@[simp]
lemma weight_fresh (blocks : List Margin) (cs : List Char) :
    (fresh blocks).weight cs = 2 * cs.length + 1 := rfl

end Place

/-- The lexer comes from `cs` at one place to `rest` at another, and finds tokens of
these kinds on the way. -/
def Lexes (p : Place) (cs : List Char) (kinds : List Token.Kind) (q : Place)
    (rest : List Char) : Prop :=
  ∀ line, ∃ line' found steps, List.map Token.kind found = kinds ∧
    q.weight rest + steps ≤ p.weight cs ∧
    ∀ fuel done,
      lex (fuel + steps) (p.on line) cs done = lex fuel (q.on line') rest (found.reverse ++ done)

namespace Lexes

variable {p q r : Place} {cs mid rest : List Char} {kinds more : List Token.Kind}

lemma refl : Lexes p cs [] p cs :=
  fun line => ⟨line, [], 0, rfl, by omega, fun _ _ => rfl⟩

/-- Runs compose. -/
lemma trans (h : Lexes p cs kinds q mid) (h' : Lexes q mid more r rest) :
    Lexes p cs (kinds ++ more) r rest := by
  intro line
  obtain ⟨line₁, found₁, steps₁, hkinds₁, hweight₁, hlex₁⟩ := h line
  obtain ⟨line₂, found₂, steps₂, hkinds₂, hweight₂, hlex₂⟩ := h' line₁
  refine ⟨line₂, found₁ ++ found₂, steps₂ + steps₁, ?_, by omega, fun fuel done => ?_⟩
  · rw [List.map_append, hkinds₁, hkinds₂]
  · rw [← Nat.add_assoc, hlex₁, hlex₂, List.reverse_append, List.append_assoc]

/-- A step at the start of a line. -/
lemma of_lineStart (hp : p.atLineStart = true) (hweight : q.weight rest < p.weight cs)
    (h : ∀ line, ∃ line' found, List.map Token.kind found = kinds ∧
      (p.on line).lineStart cs = some ⟨q.on line', rest, found.reverse⟩) :
    Lexes p cs kinds q rest := by
  intro line
  obtain ⟨line', found, hkinds, hstep⟩ := h line
  refine ⟨line', found, 1, hkinds, hweight, fun fuel done => ?_⟩
  have hstart : (p.on line).atLineStart = true := hp
  rw [lex, hstart, if_neg (by simp), if_pos rfl, hstep]

/-- A step within a line. -/
lemma of_withinLine (hp : p.atLineStart = false) (hcs : cs ≠ [])
    (hweight : q.weight rest < p.weight cs)
    (h : ∀ line, ∃ line' found, List.map Token.kind found = kinds ∧
      (p.on line).withinLine cs = some ⟨q.on line', rest, found.reverse⟩) :
    Lexes p cs kinds q rest := by
  intro line
  obtain ⟨line', found, hkinds, hstep⟩ := h line
  refine ⟨line', found, 1, hkinds, hweight, fun fuel done => ?_⟩
  have hstart : (p.on line).atLineStart = false := hp
  rw [lex, hstart, if_neg (by simp [hcs]), if_neg Bool.false_ne_true, hstep]

end Lexes

/-- **A run to the end of a text gives its tokens.** -/
lemma exists_tokens? {source text : List Char} {kinds : List Token.Kind}
    (hprepare : prepare source = text) (h : Lexes (.fresh []) text kinds (.within [] []) []) :
    ∃ ts, tokens? source = some ts ∧ ts.map Token.kind = kinds ++ [.stop] := by
  obtain ⟨line, found, steps, hkinds, hweight, hlex⟩ := h 1
  have hsteps : steps + 1 ≤ 2 * text.length + 2 := by
    simp only [Place.weight_within, Place.weight_fresh, List.length_nil] at hweight
    omega
  obtain ⟨fuel, hfuel⟩ := Nat.exists_eq_add_of_le hsteps
  refine ⟨found ++ [⟨.stop, line⟩], ?_, by rw [List.map_append, hkinds]; rfl⟩
  have hstart := hlex (fuel + 1) []
  rw [tokens?, hprepare, show 2 * text.length + 2 = fuel + 1 + steps by omega]
  refine hstart.trans ?_
  rw [lex]
  simp [Place.within, Place.on]

/-! ### Pieces of lines -/

/-- A character that starts neither a comment, nor the end of a line, nor a
continuation. -/
def startsPiece (c : Char) : Bool :=
  c != '#' && c != '\n' && c != '\\'

lemma withinLine_cons {c : Char} (h : startsPiece c = true) (st : Lexer) (cs : List Char) :
    st.withinLine (c :: cs) =
      if isBlank c then some ⟨st, cs, []⟩
      else (scanToken (c :: cs)).bind fun (kind, after) =>
        (st.afterToken kind).bind fun next => some ⟨next, after, [⟨kind, st.line⟩]⟩ := by
  rw [Lexer.withinLine.eq_def]
  split
  · next heq =>
    cases heq
    simp [startsPiece] at h
  · next heq =>
    cases heq
    simp [startsPiece] at h
  · next heq =>
    cases heq
    simp [startsPiece] at h
  · next heq =>
    cases heq
    simp [startsPiece] at h
  · rfl

section Pieces

variable {blocks : List Margin} {brackets : List Symbol} {rest : List Char}

lemma lexes_blank :
    Lexes (.within blocks brackets) (' ' :: rest) [] (.within blocks brackets) rest := by
  refine .of_withinLine rfl (by simp) (by simp) fun line => ⟨line, [], rfl, ?_⟩
  rw [withinLine_cons (by decide), if_pos (by decide)]
  rfl

lemma lexes_newline : Lexes (.within blocks []) ('\n' :: rest) [.newline] (.fresh blocks) rest := by
  refine .of_withinLine rfl (by simp) (by simp; omega)
    fun line => ⟨line + 1, [⟨.newline, line⟩], rfl, rfl⟩

/-- A token that is no symbol. -/
lemma lexes_token {c : Char} {cs : List Char} {kind : Token.Kind}
    (hc : startsPiece c = true) (hblank : isBlank c = false)
    (hscan : scanToken (c :: cs) = some (kind, rest)) (hlength : rest.length ≤ cs.length)
    {brackets' : List Symbol}
    (hafter : ∀ line, ∃ line', ((Place.within blocks brackets).on line).afterToken kind =
      some ((Place.within blocks brackets').on line')) :
    Lexes (.within blocks brackets) (c :: cs) [kind] (.within blocks brackets') rest := by
  refine .of_withinLine rfl (by simp) ?_ fun line => ?_
  · simp only [Place.weight_within, List.length_cons]
    omega
  · obtain ⟨line', hafter⟩ := hafter line
    refine ⟨line', [⟨kind, line⟩], rfl, ?_⟩
    rw [withinLine_cons hc, hblank, if_neg Bool.false_ne_true, hscan, Option.bind_some]
    dsimp only
    rw [hafter, Option.bind_some]
    rfl

end Pieces

/-! ### Words -/

/-- A quotation mark. -/
def isMark (c : Char) : Bool :=
  c == '\'' || c == '"'

/-- May a word end in front of the text? -/
def endsWord : List Char → Bool
  | [] => true
  | c :: _ => !isWordPart c && !isMark c

/-- The letters that stand second in the prefix of a quotation are parts of words. -/
lemma isWordPart_of_toLower {d : Char} (h : d.toLower ∈ ['r', 'b', 'f']) : isWordPart d = true := by
  by_contra hd
  have hupper : d.isUpper = false := by
    by_contra hu
    have halpha : d.isAlpha = (d.isUpper || d.isLower) := rfl
    simp [isWordPart, Char.isAlphanum, halpha, hu] at hd
  have hsame : d.toLower = d := dif_neg (of_decide_eq_false hupper)
  rw [hsame] at h
  simp only [List.mem_cons, List.not_mem_nil, or_false] at h
  rcases h with rfl | rfl | rfl <;> exact hd (by decide)

/-- No quotation starts where neither the first two characters nor, behind a part of
a word, the third is a mark. -/
lemma quotationPrefix?_eq_none {c : Char} {cs : List Char} (hc : isMark c = false)
    (h : ∀ d rest, cs = d :: rest → isMark d = false ∧
      (isWordPart d = true → ∀ e rest', rest = e :: rest' → isMark e = false)) :
    quotationPrefix? (c :: cs) = none := by
  rw [isMark] at hc
  cases cs with
  | nil => simp [quotationPrefix?, hc]
  | cons d rest =>
      obtain ⟨hd, he⟩ := h d rest rfl
      rw [isMark] at hd
      cases rest with
      | nil => simp [quotationPrefix?, hc, hd]
      | cons e rest =>
          simp only [quotationPrefix?, hc, hd, Bool.false_and, if_neg Bool.false_ne_true]
          rw [if_neg]
          rw [Bool.and_eq_true]
          rintro ⟨hmark, hpair⟩
          -- only a letter makes a pair with the first character
          have hletter : d.toLower ∈ ['r', 'b', 'f'] := by
            simp only [List.contains_cons, List.contains_nil, Bool.or_eq_true, beq_iff_eq,
              List.cons.injEq, Bool.or_false] at hpair
            rcases hpair with ⟨-, h, -⟩ | ⟨-, h, -⟩ | ⟨-, h, -⟩ | ⟨-, h, -⟩ <;> simp [h]
          have hmark' := he (isWordPart_of_toLower hletter) e rest rfl
          rw [isMark] at hmark'
          rw [hmark'] at hmark
          exact Bool.false_ne_true hmark

lemma isMark_eq_false_of_isWordPart {c : Char} (h : isWordPart c = true) : isMark c = false := by
  by_contra hmark
  simp only [isMark, Bool.not_eq_false, Bool.or_eq_true, beq_iff_eq] at hmark
  rcases hmark with rfl | rfl <;> exact absurd h (by decide)

lemma isPiece_of_isWordPart {c : Char} (h : isWordPart c = true) :
    startsPiece c = true ∧ isBlank c = false := by
  have hnot : ∀ d ∈ ['#', '\n', '\\', ' ', '\t', '\x0c'], isWordPart d = false := by
    simp only [List.forall_mem_cons, List.not_mem_nil, false_implies, implies_true, and_true]
    decide
  have hne : ∀ d ∈ ['#', '\n', '\\', ' ', '\t', '\x0c'], c ≠ d := by
    rintro d hd rfl
    rw [hnot c hd] at h
    cases h
  simp only [List.forall_mem_cons, List.not_mem_nil, false_implies, implies_true] at hne
  simp [startsPiece, isBlank, hne]

lemma isWordPart_of_isWordStart {c : Char} (h : isWordStart c = true) : isWordPart c = true := by
  simp only [isWordStart, isWordPart, Char.isAlphanum, Bool.or_eq_true] at h ⊢
  tauto

lemma takeWhile_of_endsWord {rest : List Char} (h : endsWord rest = true) :
    rest.takeWhile isWordPart = [] ∧ rest.dropWhile isWordPart = rest := by
  cases rest with
  | nil => exact ⟨rfl, rfl⟩
  | cons c cs =>
      simp only [endsWord, Bool.and_eq_true, Bool.not_eq_true'] at h
      rw [List.takeWhile_cons_of_neg (by simp [h.1]), List.dropWhile_cons_of_neg (by simp [h.1])]
      exact ⟨rfl, rfl⟩

/-- A word is scanned as a whole. -/
lemma scanToken_word {c : Char} {cs rest : List Char} (hc : isWordStart c = true)
    (hcs : ∀ d ∈ cs, isWordPart d = true) (hrest : endsWord rest = true) :
    scanToken (c :: cs ++ rest) = (wordKind? (c :: cs)).map fun kind => (kind, rest) := by
  have hall : ∀ d ∈ c :: cs, isWordPart d = true :=
    List.forall_mem_cons.mpr ⟨isWordPart_of_isWordStart hc, hcs⟩
  have hmark : ∀ d tail, rest = d :: tail → isMark d = false := by
    rintro d tail rfl
    simp only [endsWord, Bool.and_eq_true, Bool.not_eq_true'] at hrest
    exact hrest.2
  have hquotation : quotationPrefix? (c :: (cs ++ rest)) = none := by
    apply quotationPrefix?_eq_none (isMark_eq_false_of_isWordPart (hall c List.mem_cons_self))
    intro d tail hd
    cases cs with
    | nil =>
        refine ⟨hmark d tail hd, fun hpart => ?_⟩
        rw [List.nil_append] at hd
        rw [hd] at hrest
        simp [endsWord, hpart] at hrest
    | cons d' ds =>
        obtain ⟨rfl, rfl⟩ := List.cons.inj hd
        refine ⟨isMark_eq_false_of_isWordPart (hcs _ List.mem_cons_self), fun _ e tail he => ?_⟩
        cases ds with
        | nil => exact hmark e tail he
        | cons e' ds =>
            obtain ⟨rfl, -⟩ := List.cons.inj he
            exact isMark_eq_false_of_isWordPart (hcs _ (by simp))
  obtain ⟨htake, hdrop⟩ := takeWhile_of_endsWord hrest
  rw [List.cons_append, scanToken]
  dsimp only
  rw [hquotation, if_pos hc, ← List.cons_append, List.takeWhile_append_of_pos hall,
    List.dropWhile_append_of_pos hall, htake, hdrop, List.append_nil]

/-- The token of an identifier: a reserved word, or a name with its form. -/
def wordToken (word : List Char) : Token.Kind :=
  match Keyword.ofSpelling? (String.ofList word) with
  | some k => .keyword k
  | none => .name (String.ofList word) (String.ofList (Compatibility.normalize word))

lemma wordKind?_eq {word : List Char} (h : isIdentifier word = true) :
    wordKind? word = some (wordToken word) := by
  rw [wordKind?, wordToken]
  cases Keyword.ofSpelling? (String.ofList word) with
  | some k => rfl
  | none =>
      dsimp only
      rw [h, Bool.or_true, if_pos rfl]

lemma isWordStart_of_isIdentifierStart {c : Char} (h : isIdentifierStart c = true) :
    isWordStart c = true := by
  rw [isIdentifierStart] at h
  rw [isWordStart]
  split at h
  · simp [h]
  · simp
    omega

lemma isWordPart_of_isIdentifierPart {c : Char} (h : isIdentifierPart c = true) :
    isWordPart c = true := by
  rw [isIdentifierPart] at h
  rw [isWordPart]
  split at h
  · simp [h]
  · simp
    omega

section Lines

variable {blocks : List Margin} {brackets : List Symbol} {rest : List Char}

/-- An identifier is one token. -/
lemma lexes_word {word : List Char} (h : isIdentifier word = true) (hrest : endsWord rest = true) :
    Lexes (.within blocks brackets) (word ++ rest) [wordToken word]
      (.within blocks brackets) rest := by
  cases word with
  | nil => cases h
  | cons c cs =>
      have hkind := wordKind?_eq h
      rw [isIdentifier, Bool.and_eq_true, List.all_eq_true] at h
      have hc := isWordStart_of_isIdentifierStart h.1
      have hcs : ∀ d ∈ cs, isWordPart d = true :=
        fun d hd => isWordPart_of_isIdentifierPart (h.2 d hd)
      have hscan := scanToken_word hc hcs hrest
      rw [hkind, Option.map_some] at hscan
      obtain ⟨hstarts, hblank⟩ := isPiece_of_isWordPart (isWordPart_of_isWordStart hc)
      refine lexes_token hstarts hblank hscan (by simp) fun line => ⟨line, ?_⟩
      rw [wordToken]
      split
      · rfl
      · rfl

/-! ### Symbols -/

/-- No quotation starts with a character that is neither a mark nor a letter of a
prefix. -/
lemma quotationPrefix?_of_not_letter {c : Char} (hc : isMark c = false)
    (hletter : c.toLower ∉ ['b', 'r', 'u', 'f']) (cs : List Char) :
    quotationPrefix? (c :: cs) = none := by
  rw [isMark] at hc
  have hnot : ['b', 'r', 'u', 'f'].contains c.toLower = false := by
    simpa using hletter
  simp only [List.mem_cons, List.not_mem_nil, or_false, not_or] at hletter
  cases cs with
  | nil => simp [quotationPrefix?, hc]
  | cons d rest =>
      cases rest with
      | nil =>
          simp only [quotationPrefix?, hc, hnot, Bool.and_false, if_neg Bool.false_ne_true]
      | cons e rest =>
          have hpair : [['b', 'r'], ['r', 'b'], ['f', 'r'], ['r', 'f']].contains
              [c.toLower, d.toLower] = false := by
            simp [hletter]
          simp only [quotationPrefix?, hc, hnot, hpair, Bool.and_false,
            if_neg Bool.false_ne_true]

/-- The symbols of test modules. -/
def isPlainSymbol (c : Char) : Bool :=
  ['(', ')', ':', ',', '.', '@'].contains c

lemma isPlainSymbol_spec {c : Char} (h : isPlainSymbol c = true) :
    startsPiece c = true ∧ isBlank c = false ∧ isWordStart c = false ∧ c.isDigit = false ∧
      isMark c = false ∧ c.toLower ∉ ['b', 'r', 'u', 'f'] := by
  have hall : ∀ d ∈ ['(', ')', ':', ',', '.', '@'], startsPiece d = true ∧ isBlank d = false ∧
      isWordStart d = false ∧ d.isDigit = false ∧ isMark d = false ∧
      d.toLower ∉ ['b', 'r', 'u', 'f'] := by
    simp only [List.forall_mem_cons, List.not_mem_nil, false_implies, implies_true, and_true]
    decide
  exact hall c (by simpa [isPlainSymbol] using h)

lemma lexes_symbol {c : Char} {sym : Symbol} {brackets' : List Symbol}
    (hc : isPlainSymbol c = true) (hscan : scanSymbol (c :: rest) = some (sym, rest))
    (hdigit : c = '.' → (rest.head?.map Char.isDigit).getD false = false)
    (hbrackets : stepBrackets sym brackets = some brackets') :
    Lexes (.within blocks brackets) (c :: rest) [.symbol sym] (.within blocks brackets') rest := by
  obtain ⟨hstarts, hblank, hword, hnodigit, hmark, hletter⟩ := isPlainSymbol_spec hc
  have hnumber : (c.isDigit || (c == '.' && (rest.head?.map Char.isDigit).getD false)) = false := by
    rw [hnodigit, Bool.false_or]
    by_cases hdot : c = '.'
    · rw [hdigit hdot, Bool.and_false]
    · simp [hdot]
  have htoken : scanToken (c :: rest) = some (.symbol sym, rest) := by
    rw [scanToken]
    dsimp only
    rw [quotationPrefix?_of_not_letter hmark hletter, hword, if_neg Bool.false_ne_true, hnumber,
      if_neg Bool.false_ne_true, hscan, Option.map_some]
  refine lexes_token hstarts hblank htoken le_rfl fun line => ⟨line, ?_⟩
  simp only [Lexer.afterToken, Place.on, Place.within, hbrackets, Option.map_some]

lemma lexes_lparen (h : brackets.length < maxBrackets) :
    Lexes (.within blocks brackets) ('(' :: rest) [.symbol .lparen]
      (.within blocks (.rparen :: brackets)) rest := by
  refine lexes_symbol rfl rfl (by simp) ?_
  rw [stepBrackets.eq_def]
  simp only [Symbol.closing?]
  rw [if_neg (by omega)]

lemma lexes_rparen :
    Lexes (.within blocks (.rparen :: brackets)) (')' :: rest) [.symbol .rparen]
      (.within blocks brackets) rest :=
  lexes_symbol rfl rfl (by simp) rfl

lemma lexes_comma :
    Lexes (.within blocks brackets) (',' :: rest) [.symbol .comma] (.within blocks brackets) rest :=
  lexes_symbol rfl rfl (by simp) rfl

/-- Does the text start with a word? -/
def opensWord : List Char → Bool
  | [] => false
  | c :: _ => isWordStart c

lemma lexes_at (h : opensWord rest = true) :
    Lexes (.within blocks brackets) ('@' :: rest) [.symbol .at] (.within blocks brackets) rest := by
  refine lexes_symbol rfl ?_ (by simp) rfl
  rw [scanSymbol]
  rintro tail rfl
  exact absurd h (by simp [opensWord, isWordStart])

lemma lexes_dot (h : opensWord rest = true) :
    Lexes (.within blocks brackets) ('.' :: rest) [.symbol .dot]
      (.within blocks brackets) rest := by
  refine lexes_symbol rfl ?_ (fun _ => ?_) rfl
  · rw [scanSymbol]
    rintro tail rfl
    exact absurd h (by simp [opensWord, isWordStart])
  · cases rest with
    | nil => rfl
    | cons c cs =>
        change c.isDigit = false
        by_contra hdigit
        rw [Bool.not_eq_false, isDigit_iff] at hdigit
        simp only [opensWord, isWordStart, Bool.or_eq_true, isAlpha_iff, beq_iff_eq, eq_line_iff,
          decide_eq_true_eq] at h
        omega

lemma lexes_colon :
    Lexes (.within blocks brackets) (':' :: '\n' :: rest) [.symbol .colon]
      (.within blocks brackets) ('\n' :: rest) :=
  lexes_symbol rfl rfl (by simp) rfl

end Lines

/-! ### Texts -/

/-- Three marks. -/
def tripleMark : List Char := ['"', '"', '"']

lemma quotationBody_cons {triple : Bool} {c : Char} (h : c ≠ '\\') (cs : List Char) :
    quotationBody '"' triple (c :: cs) =
      if c = '"' && !triple then some ([], cs)
      else if c = '"' && ['"', '"'].isPrefixOf cs then some ([], cs.drop 2)
      else if c = '\n' && !triple then none
      else (quotationBody '"' triple cs).map fun (b, rest) => (c :: b, rest) := by
  rw [quotationBody]
  intro d ds heq
  exact absurd heq h

/-- A body between triple marks, its closing marks and what is behind them make up
the text. -/
lemma eq_of_quotationBody {cs body after : List Char}
    (h : quotationBody '"' true cs = some (body, after)) : cs = body ++ tripleMark ++ after := by
  fun_induction quotationBody '"' true cs generalizing body with
  | case1 => cases h
  | case2 c cs ih =>
      obtain ⟨⟨b, rest⟩, hb, h⟩ := Option.map_eq_some_iff.mp h
      cases h
      rw [ih hb]
      rfl
  | case3 c cs _ hsingle => simp at hsingle
  | case4 c cs _ _ hclose =>
      cases h
      rw [Bool.and_eq_true, decide_eq_true_eq, List.isPrefixOf_iff_prefix] at hclose
      obtain ⟨rfl, rest, rfl⟩ := hclose
      rfl
  | case5 => cases h
  | case6 c cs _ _ _ _ ih =>
      obtain ⟨⟨b, rest⟩, hb, h⟩ := Option.map_eq_some_iff.mp h
      cases h
      rw [ih hb]
      rfl

/-- What closes a body between triple marks is not changed by what follows. -/
lemma quotationBody_append {cs body after : List Char}
    (h : quotationBody '"' true cs = some (body, after)) (more : List Char) :
    quotationBody '"' true (cs ++ more) = some (body, after ++ more) := by
  fun_induction quotationBody '"' true cs generalizing body with
  | case1 => cases h
  | case2 c cs ih =>
      obtain ⟨⟨b, rest⟩, hb, h⟩ := Option.map_eq_some_iff.mp h
      cases h
      rw [List.cons_append, List.cons_append, quotationBody, ih hb]
      rfl
  | case3 c cs _ hsingle => simp at hsingle
  | case4 c cs _ _ hclose =>
      cases h
      rw [Bool.and_eq_true, decide_eq_true_eq, List.isPrefixOf_iff_prefix] at hclose
      obtain ⟨rfl, rest, rfl⟩ := hclose
      rfl
  | case5 => cases h
  | case6 c cs hslash _ hopen _ ih =>
      obtain ⟨⟨b, rest⟩, hb, h⟩ := Option.map_eq_some_iff.mp h
      cases h
      have hc : c ≠ '\\' := by
        rintro rfl
        cases cs with
        | nil => cases hb
        | cons d ds => exact hslash d ds rfl rfl
      -- the text is long enough to see that nothing closes here
      have hopen' : ¬ (decide (c = '"') && ['"', '"'].isPrefixOf (cs ++ more)) = true := by
        intro hclose
        apply hopen
        rw [Bool.and_eq_true, List.isPrefixOf_iff_prefix] at hclose ⊢
        refine ⟨hclose.1, ?_⟩
        refine List.prefix_of_prefix_length_le hclose.2 (List.prefix_append cs more) ?_
        rw [eq_of_quotationBody hb]
        simp [tripleMark]
        omega
      rw [List.cons_append, quotationBody_cons hc, if_neg (by simp), if_neg hopen',
        if_neg (by simp), ih hb]
      rfl

/-- A body without marks, backslashes and line ends, between single marks. -/
lemma quotationBody_short {body : List Char} (h : ∀ c ∈ body, c ≠ '\\' ∧ c ≠ '"' ∧ c ≠ '\n')
    (rest : List Char) : quotationBody '"' false (body ++ '"' :: rest) = some (body, rest) := by
  induction body with
  | nil =>
      rw [List.nil_append, quotationBody_cons (by decide)]
      rfl
  | cons c cs ih =>
      obtain ⟨⟨hslash, hmark, hline⟩, hcs⟩ := List.forall_mem_cons.mp h
      rw [List.cons_append, quotationBody_cons hslash, ih hcs]
      simp [hmark, hline]

/-- A text without a prefix. -/
def plainText (body : List Char) : Token.Kind :=
  .text ⟨false, false, false, false, body⟩

section Texts

variable {blocks : List Margin} {brackets : List Symbol} {rest : List Char}

lemma scanToken_mark {cs body : List Char} (h : scanQuotation '"' cs = some (body, rest)) :
    scanToken ('"' :: cs) = some (plainText body, rest) := by
  have hlead : quotationPrefix? ('"' :: cs) = some [] := by
    cases cs with
    | nil => rfl
    | cons d cs =>
        cases cs with
        | nil => rfl
        | cons e cs => rfl
  rw [scanToken]
  dsimp only
  rw [hlead]
  dsimp only
  rw [scanLiteral]
  simp only [List.length_nil, List.drop_zero, h, Option.bind_eq_bind, Option.bind_some,
    Option.map_some]
  rfl

lemma lexes_text {cs body : List Char} (h : scanQuotation '"' cs = some (body, rest))
    (hlength : rest.length ≤ cs.length) :
    Lexes (.within blocks brackets) ('"' :: cs) [plainText body] (.within blocks brackets) rest :=
  lexes_token (by decide) (by decide) (scanToken_mark h) hlength fun line => ⟨_, rfl⟩

/-- Triple marks behind the body close it there, and not before. -/
def ClosesAtEnd (body : List Char) : Prop :=
  quotationBody '"' true (body ++ tripleMark) = some (body, [])

instance (body : List Char) : Decidable (ClosesAtEnd body) :=
  inferInstanceAs (Decidable (_ = _))

/-- A text between triple marks. -/
lemma lexes_longText {body : List Char} (h : ClosesAtEnd body) :
    Lexes (.within blocks brackets) (tripleMark ++ body ++ tripleMark ++ rest) [plainText body]
      (.within blocks brackets) rest := by
  have hbody := quotationBody_append h rest
  rw [List.nil_append] at hbody
  have htext : tripleMark ++ body ++ tripleMark ++ rest =
      '"' :: '"' :: '"' :: (body ++ tripleMark ++ rest) := by
    simp [tripleMark]
  rw [htext]
  refine lexes_text ?_ (by simp; omega)
  exact hbody

/-- A text between single marks. -/
lemma lexes_shortText {body : List Char} (hne : body ≠ [])
    (h : ∀ c ∈ body, c ≠ '\\' ∧ c ≠ '"' ∧ c ≠ '\n') :
    Lexes (.within blocks brackets) ('"' :: (body ++ '"' :: rest)) [plainText body]
      (.within blocks brackets) rest := by
  refine lexes_text ?_ (by simp; omega)
  obtain ⟨c, cs, rfl⟩ := List.exists_cons_of_ne_nil hne
  have hmark := (h c List.mem_cons_self).2.1
  rw [scanQuotation, if_neg, quotationBody_short h]
  rw [List.cons_append, List.isPrefixOf_iff_prefix, List.cons_prefix_cons]
  exact fun heq => hmark heq.1.symm

end Texts

/-! ### Starts of lines -/

section Starts

variable {blocks : List Margin} {rest : List Char}

/-- Does a line with a token in its first column start here, or nothing at all? -/
def startsFlush : List Char → Bool
  | [] => true
  | c :: _ => startsPiece c && !isBlank c

lemma margin_of_startsFlush {cs : List Char} (h : startsFlush cs = true) (m : Margin) (line : Nat) :
    margin m 0 line cs = some (m, line, cs) := by
  rw [margin.eq_def]
  split
  all_goals first
    | rfl
    | simp [startsFlush, startsPiece, isBlank] at h

/-- The step at a line whose indentation is not that of an empty line. -/
lemma lineStart_of_startsFlush {cs cs' : List Char} (h : startsFlush cs = true) {here : Margin}
    {st : Lexer} (hmargin : margin ⟨0, 0⟩ 0 st.line cs' = some (here, st.line, cs)) :
    st.lineStart cs' = (openBlocks here st.blocks).bind fun (kinds, blocks) =>
      some ⟨{ st with blocks, atLineStart := false }, cs, kinds.map fun k => ⟨k, st.line⟩⟩ := by
  rw [Lexer.lineStart.eq_def, hmargin]
  dsimp only [Option.bind_eq_bind, Option.bind_some]
  split
  · simp [startsFlush, startsPiece] at h
  · simp [startsFlush, startsPiece] at h
  · rfl

lemma closeBlocks_zero (h : ∀ m ∈ blocks, 0 < m.col) :
    closeBlocks 0 blocks = (blocks.length, []) := by
  induction blocks with
  | nil => rfl
  | cons m ms ih =>
      obtain ⟨hm, hms⟩ := List.forall_mem_cons.mp h
      rw [closeBlocks, if_pos hm, ih hms]
      rfl

/-- A line in the first column closes all blocks. -/
lemma openBlocks_zero (h : ∀ m ∈ blocks, 0 < m.col) :
    openBlocks ⟨0, 0⟩ blocks = some (List.replicate blocks.length .dedent, []) := by
  cases blocks with
  | nil => rfl
  | cons m ms =>
      have hm : 0 < m.col := h m List.mem_cons_self
      simp only [openBlocks, List.head?_cons, Option.getD_some, closeBlocks_zero h]
      rw [if_neg (by omega), if_neg (by omega)]
      rfl

/-- A line that starts in its first column, or the end of the text, closes all
blocks. -/
lemma lexes_flush {cs : List Char} (h : startsFlush cs = true) (hblocks : ∀ m ∈ blocks, 0 < m.col) :
    Lexes (.fresh blocks) cs (List.replicate blocks.length .dedent) (.within [] []) cs := by
  refine .of_lineStart rfl (by simp) fun line =>
    ⟨line, List.replicate blocks.length ⟨.dedent, line⟩, by simp, ?_⟩
  rw [lineStart_of_startsFlush h (margin_of_startsFlush h ⟨0, 0⟩ line)]
  simp [Place.on, Place.fresh, Place.within, openBlocks_zero hblocks]

/-- The indentation of the body of a function. -/
def bodyMargin : List Char := [' ', ' ', ' ', ' ']

lemma margin_bodyMargin (line : Nat) (cs : List Char) :
    margin ⟨0, 0⟩ 0 line (bodyMargin ++ cs) = margin ⟨4, 4⟩ 0 line cs := by
  simp [bodyMargin, margin]

/-- A line of a body opens its block. -/
lemma lexes_indented {cs : List Char} (h : startsFlush cs = true) :
    Lexes (.fresh []) (bodyMargin ++ cs) [.indent] (.within [⟨4, 4⟩] []) cs := by
  have hweight : (Place.within [⟨4, 4⟩] []).weight cs <
      (Place.fresh []).weight (bodyMargin ++ cs) := by
    rw [Place.weight_within, Place.weight_fresh, List.length_append]
    omega
  refine .of_lineStart rfl hweight fun line => ⟨line, [⟨.indent, line⟩], rfl, ?_⟩
  have hmargin : margin ⟨0, 0⟩ 0 line (bodyMargin ++ cs) = some (⟨4, 4⟩, line, cs) := by
    rw [margin_bodyMargin, margin_of_startsFlush h]
  rw [lineStart_of_startsFlush h hmargin]
  rfl

/-- An empty line is passed. -/
lemma lexes_emptyLine : Lexes (.fresh blocks) ('\n' :: rest) [] (.fresh blocks) rest :=
  .of_lineStart rfl (by simp) fun line => ⟨line + 1, [], rfl, rfl⟩

/-- A comment in a body is passed. -/
lemma lexes_comment {text : List Char} (h : '\n' ∉ text) :
    Lexes (.fresh blocks) (bodyMargin ++ '#' :: text ++ '\n' :: rest) [] (.fresh blocks) rest := by
  refine .of_lineStart rfl (by simp; omega) fun line => ⟨line + 1, [], rfl, ?_⟩
  have hmargin : margin ⟨0, 0⟩ 0 line (bodyMargin ++ ('#' :: text ++ '\n' :: rest)) =
      some (⟨4, 4⟩, line, '#' :: text ++ '\n' :: rest) := by
    rw [margin_bodyMargin, List.cons_append, margin.eq_def]
    rfl
  have hdrop : ('#' :: text ++ '\n' :: rest).dropWhile (· != '\n') = '\n' :: rest := by
    rw [List.dropWhile_append_of_pos, List.dropWhile_cons_of_neg (by simp)]
    intro c hc
    rcases List.mem_cons.mp hc with rfl | hc
    · rfl
    · rw [bne_iff_ne]
      rintro rfl
      exact h hc
  rw [Lexer.lineStart.eq_def, List.append_assoc]
  change Option.bind (margin ⟨0, 0⟩ 0 line (bodyMargin ++ ('#' :: text ++ '\n' :: rest))) _ = _
  rw [hmargin, Option.bind_some]
  dsimp only [List.cons_append] at hdrop ⊢
  rw [hdrop]
  rfl

end Starts

end Branchwise.Source
