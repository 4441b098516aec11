/-
The tokens of a test module.

* `separated`, `lexes_separated`: words with a symbol between them.
* `headKinds`, `stubKinds`: the kinds of the tokens of the header and of a stub.
* `lexes_stub`, `lexes_bodyLines`: the run of the lexer over a stub, and over all.
* `exists_tokens?_ended`: the tokens of a whole module.
-/
import Branchwise.Proofs.LexedLines
import Branchwise.Proofs.StubText

namespace Branchwise

open Text Source

namespace Source

/-! ### Words -/

/-- Is the word reserved? -/
def isReserved (word : List Char) : Bool :=
  (Keyword.ofSpelling? (String.ofList word)).isSome

/-- The token of a name in normal form. -/
def nameKind (name : String) : Token.Kind :=
  .name name name

lemma wordToken_of_isName {name : String} (h : IsName name)
    (hword : Keyword.ofSpelling? name = none) : wordToken name.toList = nameKind name := by
  rw [wordToken, String.ofList_toList, hword, h.stable, String.ofList_toList]
  rfl

/-- An ASCII word that starts with a letter is a name. -/
lemma isName_of_ascii {name : String} (hid : isIdentifier name.toList = true)
    (h : (name.toList.all fun c => c.isAlphanum || c == '_') = true) : IsName name :=
  ⟨hid, (isForm_ascii h).stable⟩

section Words

variable {blocks : List Margin} {brackets : List Symbol} {p q r : Place} {cs mid rest : List Char}
  {kind : Token.Kind} {kinds : List Token.Kind}

lemma Lexes.cons (h : Lexes p cs [kind] q mid) (h' : Lexes q mid kinds r rest) :
    Lexes p cs (kind :: kinds) r rest :=
  h.trans h'

lemma Lexes.pass (h : Lexes p cs [] q mid) (h' : Lexes q mid kinds r rest) :
    Lexes p cs kinds r rest :=
  h.trans h'

lemma lexes_name {name : String} (h : IsName name) (hword : Keyword.ofSpelling? name = none)
    (hrest : endsWord rest = true) :
    Lexes (.within blocks brackets) (name.toList ++ rest) [nameKind name]
      (.within blocks brackets) rest := by
  rw [← wordToken_of_isName h hword]
  exact lexes_word h.identifier hrest

/-- Words, each behind a symbol. -/
def wordsBehind (sep : Symbol) (ws : List (List Char)) : List Token.Kind :=
  ws.flatMap fun w => [.symbol sep, wordToken w]

/-- Words with a symbol between them. -/
def separated (sep : Symbol) : List (List Char) → List Token.Kind
  | [] => []
  | w :: ws => wordToken w :: wordsBehind sep ws

/-- **Words with separators between them** are read one by one, if the separator is. -/
lemma lexes_separated {sep : Symbol} {text : List Char}
    (hends : ∀ rest, endsWord (text ++ rest) = true)
    (hsep : ∀ word rest, isIdentifier word = true →
      Lexes (.within blocks brackets) (text ++ (word ++ rest)) [.symbol sep]
        (.within blocks brackets) (word ++ rest))
    {ws : List (List Char)} (hne : ws ≠ []) (hws : ∀ w ∈ ws, isIdentifier w = true)
    (hrest : endsWord rest = true) :
    Lexes (.within blocks brackets) (text.intercalate ws ++ rest) (separated sep ws)
      (.within blocks brackets) rest := by
  induction ws with
  | nil => exact absurd rfl hne
  | cons w ws ih =>
      obtain ⟨hw, hws⟩ := List.forall_mem_cons.mp hws
      cases ws with
      | nil => simpa [separated, wordsBehind] using lexes_word hw hrest
      | cons v vs =>
          have hv : isIdentifier v = true := hws v List.mem_cons_self
          -- the text of the other words starts with the next of them
          obtain ⟨tail, htail⟩ : ∃ tail, text.intercalate (v :: vs) = v ++ tail := by
            cases vs with
            | nil => exact ⟨[], by simp⟩
            | cons u us => exact ⟨_, List.intercalate_cons_cons.trans (List.append_assoc ..)⟩
          have hmore := ih (by simp) hws
          rw [htail, List.append_assoc] at hmore
          rw [List.intercalate_cons_cons, htail]
          simp only [List.append_assoc]
          exact (lexes_word hw (hends _)).cons ((hsep v (tail ++ rest) hv).cons hmore)

/-- A dotted name. -/
lemma lexes_dotted {text : List Char} (h : ∀ w ∈ splitOn '.' text, isIdentifier w = true)
    (hrest : endsWord rest = true) :
    Lexes (.within blocks brackets) (text ++ rest) (separated .dot (splitOn '.' text))
      (.within blocks brackets) rest := by
  nth_rewrite 1 [← intercalate_splitOn '.' text]
  refine lexes_separated (fun _ => rfl) (fun word rest hword => ?_) (splitOn_ne_nil '.' text) h
    hrest
  cases word with
  | nil => cases hword
  | cons c cs =>
      rw [isIdentifier, Bool.and_eq_true] at hword
      exact lexes_dot (isWordStart_of_isIdentifierStart hword.1)

/-- Names in a row. -/
lemma lexes_listed {ws : List (List Char)} (hne : ws ≠ []) (hws : ∀ w ∈ ws, isIdentifier w = true)
    (hrest : endsWord rest = true) :
    Lexes (.within blocks brackets) ([',', ' '].intercalate ws ++ rest) (separated .comma ws)
      (.within blocks brackets) rest :=
  lexes_separated (fun _ => rfl) (fun _ _ _ => lexes_comma.cons (.pass lexes_blank .refl)) hne hws
    hrest

end Words

/-! ### The header -/

/-- The line that imports the test framework. -/
def importKinds : List Token.Kind :=
  [.keyword .importKw, nameKind "pytest", .newline]

/-- The line that imports the names under test. -/
def fromKinds (module : String) (names : List String) : List Token.Kind :=
  .keyword .fromKw :: (separated .dot (splitOn '.' module.toList)
    ++ .keyword .importKw :: (separated .comma (names.map String.toList) ++ [.newline]))

section Header

variable {rest : List Char}

lemma isName_pytest : IsName "pytest" :=
  isName_of_ascii (by decide) (by decide)

/-- A line in the first column, where no block is open. -/
lemma lexes_line {cs : List Char} {kinds : List Token.Kind} {q : Place} (h : startsFlush cs = true)
    (hcs : Lexes (.within [] []) cs kinds q rest) : Lexes (.fresh []) cs kinds q rest :=
  .pass (lexes_flush h (by simp)) hcs

lemma lexes_importLine :
    Lexes (.fresh []) ("import pytest".toList ++ '\n' :: rest) importKinds (.fresh []) rest := by
  have htext : "import pytest".toList ++ '\n' :: rest =
      "import".toList ++ ' ' :: ("pytest".toList ++ '\n' :: rest) := by
    have : "import pytest".toList = "import".toList ++ ' ' :: "pytest".toList := by decide
    simp [this]
  rw [htext]
  refine lexes_line (by rfl) ?_
  refine .cons (lexes_word (by decide) (by rfl)) (.pass lexes_blank ?_)
  exact .cons (lexes_name isName_pytest (by decide) (by rfl)) lexes_newline

lemma lexes_fromLine {module : String} {names : List String}
    (hmodule : isImportable module = true) (hne : names ≠ []) (hnames : ∀ n ∈ names, IsName n) :
    Lexes (.fresh [])
      (("from " ++ module ++ " import " ++ joinWith ", " names).toList ++ '\n' :: rest)
      (fromKinds module names) (.fresh []) rest := by
  have hparts : ∀ w ∈ splitOn '.' module.toList, isIdentifier w = true := by
    simpa [isImportable] using hmodule
  have hwords : ∀ w ∈ names.map String.toList, isIdentifier w = true :=
    List.forall_mem_map.mpr fun n hn => (hnames n hn).identifier
  have htext : ("from " ++ module ++ " import " ++ joinWith ", " names).toList ++ '\n' :: rest =
      "from".toList ++ ' ' :: (module.toList ++ ' ' :: ("import".toList ++ ' ' ::
        ([',', ' '].intercalate (names.map String.toList) ++ '\n' :: rest))) := by
    rw [joinWith]
    simp [String.toList_intercalate]
  rw [htext]
  refine lexes_line (by rfl) ?_
  refine .cons (lexes_word (by decide) (by rfl)) (.pass lexes_blank ?_)
  refine .trans (lexes_dotted hparts rfl) (.pass lexes_blank ?_)
  refine .cons (lexes_word (by decide) (by rfl)) (.pass lexes_blank ?_)
  exact .trans (lexes_listed (by simpa using hne) hwords rfl) lexes_newline

end Header

/-! ### Stubs -/

/-- The first column of a function's head, up to its body. -/
def defKinds (name : String) : List Token.Kind :=
  [.keyword .defKw, nameKind name, .symbol .lparen, .symbol .rparen, .symbol .colon, .newline]

/-- The line that marks a test as asynchronous. -/
def markKinds : List Token.Kind :=
  [.symbol .at, nameKind "pytest", .symbol .dot, nameKind "mark", .symbol .dot,
    nameKind "asyncio", .newline]

/-- The body of a stub. -/
def skipKinds : List Token.Kind :=
  [nameKind "pytest", .symbol .dot, nameKind "skip", .symbol .lparen,
    plainText "not implemented".toList, .symbol .rparen, .newline]

/-- A stub, without the end of its body. -/
def openKinds (s : Stub) : List Token.Kind :=
  (if s.isAsync then markKinds ++ [.keyword .asyncKw] else [])
    ++ (defKinds s.name ++ .indent :: skipKinds)

/-- A stub. -/
def stubKinds (s : Stub) : List Token.Kind :=
  openKinds s ++ [.dedent]

section Stubs

variable {rest : List Char}

lemma isName_mark : IsName "mark" :=
  isName_of_ascii (by decide) (by decide)

lemma isName_asyncio : IsName "asyncio" :=
  isName_of_ascii (by decide) (by decide)

lemma isName_skip : IsName "skip" :=
  isName_of_ascii (by decide) (by decide)

lemma lexes_markLine :
    Lexes (.within [] []) ("@pytest.mark.asyncio".toList ++ '\n' :: rest) markKinds (.fresh [])
      rest := by
  have htext : "@pytest.mark.asyncio".toList ++ '\n' :: rest =
      '@' :: ("pytest".toList ++ '.' :: ("mark".toList ++ '.' ::
        ("asyncio".toList ++ '\n' :: rest))) := by
    have : "@pytest.mark.asyncio".toList =
        '@' :: ("pytest".toList ++ '.' :: ("mark".toList ++ '.' :: "asyncio".toList)) := by
      decide
    simp [this]
  rw [htext]
  refine .cons (lexes_at (by rfl)) (.cons (lexes_name isName_pytest (by decide) (by rfl)) ?_)
  refine .cons (lexes_dot (by rfl)) (.cons (lexes_name isName_mark (by decide) (by rfl)) ?_)
  refine .cons (lexes_dot (by rfl)) (.cons (lexes_name isName_asyncio (by decide) (by rfl)) ?_)
  exact lexes_newline

lemma lexes_defLine {name : String} (h : IsStubName name.toList) :
    Lexes (.within [] []) (("def " ++ name ++ "():").toList ++ '\n' :: rest) (defKinds name)
      (.fresh []) rest := by
  have htext : ("def " ++ name ++ "():").toList ++ '\n' :: rest =
      "def".toList ++ ' ' :: (name.toList ++ '(' :: ')' :: ':' :: '\n' :: rest) := by
    simp
  rw [htext]
  refine .cons (lexes_word (by decide) (by rfl)) (.pass lexes_blank ?_)
  refine .cons (lexes_name h.isName h.ofSpelling?_eq_none (by rfl)) ?_
  exact .cons (lexes_lparen (by decide)) (.cons lexes_rparen (.cons lexes_colon lexes_newline))

lemma lexes_skipLine :
    Lexes (.fresh []) (skipLine.toList ++ '\n' :: rest) (.indent :: skipKinds) (.fresh [⟨4, 4⟩])
      rest := by
  have htext : skipLine.toList ++ '\n' :: rest =
      bodyMargin ++ ("pytest".toList ++ '.' :: ("skip".toList ++ '(' :: '"' ::
        ("not implemented".toList ++ '"' :: ')' :: '\n' :: rest))) := by
    have : skipLine.toList = bodyMargin ++ ("pytest".toList ++ '.' :: ("skip".toList ++
        '(' :: '"' :: ("not implemented".toList ++ ['"', ')']))) := by
      decide
    simp [this]
  rw [htext]
  refine .cons (lexes_indented (by rfl)) ?_
  refine .cons (lexes_name isName_pytest (by decide) (by rfl)) (.cons (lexes_dot (by rfl)) ?_)
  refine .cons (lexes_name isName_skip (by decide) (by rfl)) (.cons (lexes_lparen (by decide)) ?_)
  have hbody : ("not implemented".toList.all fun c =>
      decide (c ≠ '\\' ∧ c ≠ '"' ∧ c ≠ '\n')) = true := by
    decide
  refine .cons (lexes_shortText (by decide) fun c hc =>
    of_decide_eq_true (List.all_eq_true.mp hbody c hc)) ?_
  exact .cons lexes_rparen lexes_newline

/-- Comments are passed. -/
lemma lexes_comments {comments : List String} (h : ∀ c ∈ comments, Unbroken c.toList) :
    Lexes (.fresh []) (ended (comments.map fun c => indent ++ "# " ++ c) ++ rest) [] (.fresh [])
      rest := by
  induction comments with
  | nil => exact .refl
  | cons c cs ih =>
      obtain ⟨hc, hcs⟩ := List.forall_mem_cons.mp h
      have htext : ended ((c :: cs).map fun c => indent ++ "# " ++ c) ++ rest =
          bodyMargin ++ '#' :: (' ' :: c.toList) ++ '\n' ::
            (ended (cs.map fun c => indent ++ "# " ++ c) ++ rest) := by
        have : (indent ++ "# ").toList = bodyMargin ++ ['#', ' '] := by decide
        rw [List.map_cons, ended_cons, String.toList_append, this]
        simp
      have hline : '\n' ∉ ' ' :: c.toList := by
        simpa using fun hmem => absurd (hc _ hmem).2 (by decide)
      rw [htext]
      exact .pass (lexes_comment hline) (ih hcs)

/-- The lines of a stub: its head, its comments and its body. -/
lemma ended_stub (s : Stub) :
    ended s.lines =
      (if s.isAsync then "@pytest.mark.asyncio".toList ++ '\n' :: "async ".toList else [])
      ++ (("def " ++ s.name ++ "():").toList ++ '\n' ::
        (ended ((("result = " ++ s.call) :: s.comments).map fun c => indent ++ "# " ++ c)
          ++ (skipLine.toList ++ ['\n']))) := by
  have hresult : indent ++ "# result = " ++ s.call = indent ++ "# " ++ ("result = " ++ s.call) := by
    rw [String.append_assoc, String.append_assoc, ← String.append_assoc]
    rfl
  rw [Stub.lines_eq, Stub.front, hresult]
  split
  · simp [ended]
  · simp [ended]

/-- **The run over a stub**: it closes the block that is open and opens one for the
body of the stub. -/
lemma lexes_stub {s : Stub} (h : s.Unbroken) (hname : IsStubName s.name.toList)
    {blocks : List Margin} (hblocks : ∀ m ∈ blocks, 0 < m.col) :
    Lexes (.fresh blocks) (ended ("" :: "" :: s.lines) ++ rest)
      (List.replicate blocks.length .dedent ++ openKinds s) (.fresh [⟨4, 4⟩]) rest := by
  have hbody : Lexes (.fresh [])
      (ended ((("result = " ++ s.call) :: s.comments).map fun c => indent ++ "# " ++ c)
        ++ (skipLine.toList ++ '\n' :: rest)) (.indent :: skipKinds) (.fresh [⟨4, 4⟩]) rest := by
    refine .pass (lexes_comments ?_) lexes_skipLine
    rw [List.forall_mem_cons, String.toList_append, unbroken_append]
    exact ⟨⟨by decide, h.call⟩, h.comments⟩
  have hdef := (lexes_defLine hname).trans hbody
  have htext : ended ("" :: "" :: s.lines) ++ rest = '\n' :: '\n' :: (ended s.lines ++ rest) := by
    simp [ended]
  rw [htext]
  refine .pass lexes_emptyLine (.pass lexes_emptyLine ?_)
  rw [ended_stub, openKinds]
  cases s.isAsync with
  | true =>
      simp only [if_pos, List.append_assoc, List.cons_append, List.nil_append]
      refine .trans (lexes_flush (by rfl) hblocks) (.trans lexes_markLine (lexes_line (by rfl) ?_))
      have hasync : "async ".toList = "async".toList ++ [' '] := by decide
      rw [hasync, List.append_assoc]
      exact .cons (lexes_word (by decide) (by rfl)) (.pass lexes_blank hdef)
  | false =>
      simp only [if_neg Bool.false_ne_true, List.append_assoc, List.cons_append, List.nil_append]
      refine .trans (lexes_flush ?_ hblocks) hdef
      rw [String.toList_append, String.toList_append, List.append_assoc, List.append_assoc]
      rfl

/-- The run over all stubs, to the end of the text. -/
lemma lexes_bodyLines {ss : List Stub}
    (h : ∀ s ∈ ss, s.Unbroken ∧ IsStubName s.name.toList) {blocks : List Margin}
    (hblocks : ∀ m ∈ blocks, 0 < m.col) :
    Lexes (.fresh blocks) (ended (bodyLines ss))
      (List.replicate blocks.length .dedent ++ ss.flatMap stubKinds) (.within [] []) [] := by
  induction ss generalizing blocks with
  | nil => simpa [bodyLines, ended] using lexes_flush rfl hblocks
  | cons s ss ih =>
      obtain ⟨hs, hss⟩ := List.forall_mem_cons.mp h
      have hmore := @ih hss [⟨4, 4⟩] (by simp)
      have hall := (lexes_stub hs.1 hs.2 hblocks).trans hmore
      rw [bodyLines, List.flatMap_cons, ended_append, ← bodyLines]
      simpa [stubKinds] using hall

end Stubs

/-! ### Line ends -/

lemma unifyNewlines_of_not_mem {cs : List Char} (h : '\r' ∉ cs) : unifyNewlines cs = cs := by
  fun_induction unifyNewlines cs with
  | case1 => rfl
  | case2 rest ih => simp at h
  | case3 c rest hne ih =>
      rw [List.mem_cons, not_or] at h
      rw [if_neg (Ne.symm h.1), ih h.2]

/-- Texts are unified apart, unless a line end stands across the cut. -/
lemma unifyNewlines_append {cs more : List Char} (h : more.head? ≠ some '\n') :
    unifyNewlines (cs ++ more) = unifyNewlines cs ++ unifyNewlines more := by
  fun_induction unifyNewlines cs with
  | case1 => rfl
  | case2 rest ih => rw [List.cons_append, List.cons_append, unifyNewlines, ih, List.cons_append]
  | case3 c rest hne ih =>
      rw [List.cons_append, unifyNewlines, ih, List.cons_append]
      intro tail hc htail
      cases rest with
      | nil =>
          rw [List.nil_append] at htail
          rw [htail] at h
          exact h rfl
      | cons d ds =>
          rw [List.cons_append] at htail
          exact hne ds hc (by rw [(List.cons.inj htail).1])

/-- A text that ends in a line feed, but not behind white space, is only unified. -/
lemma prepare_concat {c : Char} (h : isSpace c = false) (text : List Char) :
    prepare (text ++ [c, '\n']) = unifyNewlines (text ++ [c, '\n']) := by
  have hne : c ≠ '\n' ∧ c ≠ '\r' := by
    constructor
    · rintro rfl
      revert h
      decide
    · rintro rfl
      revert h
      decide
  have hlast : unifyNewlines [c, '\n'] = [c, '\n'] :=
    unifyNewlines_of_not_mem (by simpa using hne.2.symm)
  have hunified : unifyNewlines (text ++ [c, '\n']) = unifyNewlines text ++ [c, '\n'] := by
    rw [unifyNewlines_append (by simpa using hne.1), hlast]
  have hend : endsWith ['\r', '\n'] (text ++ [c, '\n']) = false := by
    by_contra hends
    rw [Bool.not_eq_false, endsWith, List.isSuffixOf_iff_suffix] at hends
    obtain ⟨front, hfront⟩ := hends
    have := List.append_inj_right' hfront rfl
    exact hne.2 (List.cons.inj this).1.symm
  rw [prepare, hunified]
  simp [hend]

end Source

/-! ### Modules -/

/-- The line that imports what a module tests, behind an empty one. -/
def importLines (a : Analysis) (module : String) : List String :=
  if isImportable module && !(importNames a).isEmpty then
    ["", "from " ++ module ++ " import " ++ joinWith ", " (importNames a)]
  else []

/-- The tokens of that line. -/
def importedKinds (a : Analysis) (module : String) : List Token.Kind :=
  if isImportable module && !(importNames a).isEmpty then fromKinds module (importNames a) else []

/-- What the first line of a module says. -/
def title (a : Analysis) (module : String) : List Char :=
  ("Test stubs for " ++ (if module = "" then a.file.name else module) ++ ".").toList

/-- The title as the lexer sees it, with unified line ends. -/
def titleBody (a : Analysis) (module : String) : List Char :=
  unifyNewlines (title a module)

/-- The lines of a module behind its first. -/
def laterLines (a : Analysis) (module : String) : List String :=
  "" :: "import pytest" :: (importLines a module ++ bodyLines (allStubs [] a.results).1)

/-- The tokens of a module. -/
def moduleKinds (a : Analysis) (module : String) : List Token.Kind :=
  plainText (titleBody a module) :: .newline :: (importKinds
    ++ (importedKinds a module ++ (allStubs [] a.results).1.flatMap stubKinds))

lemma ended_module (a : Analysis) (module : String) :
    ended (headLines a module ++ bodyLines (allStubs [] a.results).1) =
      tripleMark ++ title a module ++ tripleMark ++ '\n' :: ended (laterLines a module) := by
  have hlines : headLines a module ++ bodyLines (allStubs [] a.results).1 =
      ("\"\"\"Test stubs for " ++ (if module = "" then a.file.name else module) ++ ".\"\"\"")
        :: laterLines a module := by
    rw [headLines, laterLines, importLines]
    simp
  have hmark : "\"\"\"Test stubs for ".toList = tripleMark ++ "Test stubs for ".toList := by decide
  have hmark' : ".\"\"\"".toList = ".".toList ++ tripleMark := by decide
  rw [hlines, ended_cons, title]
  simp only [String.toList_append, hmark, hmark', List.append_assoc]

section Module

variable {a : Analysis} {module : String}

lemma lexes_importLines (hnames : ∀ n ∈ importNames a, IsName n) {rest : List Char} :
    Lexes (.fresh []) (ended (importLines a module) ++ rest) (importedKinds a module) (.fresh [])
      rest := by
  rw [importLines, importedKinds]
  split
  · next h =>
    rw [Bool.and_eq_true, Bool.not_eq_true', List.isEmpty_eq_false_iff] at h
    have htext :
        ended ["", "from " ++ module ++ " import " ++ joinWith ", " (importNames a)] ++ rest =
        '\n' :: (("from " ++ module ++ " import " ++ joinWith ", " (importNames a)).toList
          ++ '\n' :: rest) := by
      simp [ended]
    rw [htext]
    exact .pass lexes_emptyLine (lexes_fromLine h.1 h.2 hnames)
  · exact .refl

/-- What an importable module is called holds no line breaks. -/
lemma unbroken_of_isImportable (h : isImportable module = true) : Unbroken module.toList := by
  rw [isImportable, List.all_eq_true] at h
  rw [← intercalate_splitOn '.' module.toList]
  refine forall_mem_intercalate (by decide : Unbroken ['.']) fun w hw => ?_
  exact unbroken_of_parts (forall_part_of_isIdentifier (h w hw))

/-- The line that imports is made of the names in it and of words without line ends. -/
lemma made_importLine {P : Char → Prop} (hP : Admits P) (h : isImportable module = true)
    (hnames : ∀ n ∈ importNames a, Made P n.toList) :
    Made P ("from " ++ module ++ " import " ++ joinWith ", " (importNames a)).toList := by
  have hwords : Made P (joinWith ", " (importNames a)).toList := by
    rw [joinWith, String.toList_intercalate]
    exact made_intercalate (hP.text (by decide)) (List.forall_mem_map.mpr hnames)
  simp only [String.toList_append, made_append]
  exact ⟨⟨⟨hP.text (by decide), hP.text (unbroken_of_isImportable h)⟩, hP.text (by decide)⟩, hwords⟩

lemma unbroken_laterLines (hnames : ∀ n ∈ importNames a, IsName n)
    (hstubs : ∀ s ∈ (allStubs [] a.results).1, s.Unbroken) :
    ∀ l ∈ laterLines a module, Unbroken l.toList := by
  have himport : ∀ l ∈ importLines a module, Unbroken l.toList := by
    rw [importLines]
    split
    · next h =>
      rw [Bool.and_eq_true] at h
      rw [List.forall_mem_cons, List.forall_mem_singleton]
      exact ⟨by decide, made_importLine (fun _ hnul hbreak => ⟨hnul, hbreak⟩) h.1
        fun n hn => (hnames n hn).unbroken⟩
    · simp
  have hbody : ∀ l ∈ bodyLines (allStubs [] a.results).1, Unbroken l.toList := by
    intro l hl
    obtain ⟨s, hs, hl⟩ := List.mem_flatMap.mp hl
    have hlines : ∀ l ∈ "" :: "" :: s.lines, Unbroken l.toList := by
      rw [Stub.lines_eq, List.forall_mem_cons, List.forall_mem_cons, List.forall_mem_append,
        List.forall_mem_singleton]
      exact ⟨by decide, by decide, (hstubs s hs).front, by decide⟩
    exact hlines l hl
  rw [laterLines, List.forall_mem_cons, List.forall_mem_cons, List.forall_mem_append]
  exact ⟨by decide, by decide, himport, hbody⟩

lemma mem_ended {c : Char} {lines : List String} (h : c ∈ ended lines) :
    c = '\n' ∨ ∃ l ∈ lines, c ∈ l.toList := by
  obtain ⟨l, hl, hc⟩ := List.mem_flatMap.mp h
  rcases List.mem_append.mp hc with hc | hc
  · exact .inr ⟨l, hl, hc⟩
  · exact .inl (List.mem_singleton.mp hc)

/-- **The tokens of a test module**, if its title ends where it should. -/
lemma exists_tokens?_stubModule (hnames : ∀ n ∈ importNames a, IsName n)
    (hstubs : ∀ s ∈ (allStubs [] a.results).1, s.Unbroken ∧ IsStubName s.name.toList)
    (htitle : ClosesAtEnd (titleBody a module)) :
    ∃ ts, tokens? (stubModule a module).toList = some ts ∧
      ts.map Token.kind = moduleKinds a module ++ [.stop] := by
  have hunbroken := fun s hs => (hstubs s hs).1
  -- only the title may hold carriage returns
  have hreturn : '\r' ∉ tripleMark ++ '\n' :: ended (laterLines a module) := by
    intro hmem
    rcases List.mem_append.mp hmem with hmem | hmem
    · revert hmem
      decide
    · rcases List.mem_cons.mp hmem with hmem | hmem
      · revert hmem
        decide
      · rcases mem_ended hmem with hmem | ⟨l, hl, hmem⟩
        · revert hmem
          decide
        · exact absurd (unbroken_laterLines hnames hunbroken l hl _ hmem).2 (by decide)
  have hprepare : prepare (stubModule a module).toList =
      tripleMark ++ titleBody a module ++ tripleMark ++ '\n' :: ended (laterLines a module) := by
    obtain ⟨text, c, hc, htext⟩ := exists_toList_stubModule_eq a module
    rw [htext, prepare_concat hc, ← htext, toList_stubModule fun s hs => (hunbroken s hs).oneLine,
      ended_module]
    rw [List.append_assoc (tripleMark ++ title a module),
      unifyNewlines_append (by simp [tripleMark]),
      unifyNewlines_of_not_mem hreturn, ← List.append_assoc]
    congr 2
  refine exists_tokens? hprepare ?_
  refine lexes_line (by rfl) (.cons (lexes_longText htitle) (.cons lexes_newline ?_))
  have hlater : ended (laterLines a module) = '\n' :: ("import pytest".toList ++ '\n' ::
      (ended (importLines a module) ++ ended (bodyLines (allStubs [] a.results).1))) := by
    rw [laterLines, ended_cons, ended_cons, ended_append]
    rfl
  rw [hlater]
  refine .pass lexes_emptyLine (.trans lexes_importLine (.trans (lexes_importLines hnames) ?_))
  exact lexes_bodyLines hstubs (by simp)

end Module

end Branchwise
