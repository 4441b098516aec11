/-
The statements of a test module.

* `takes_textLine`, `fails_textLine`: a text as a statement.
* `takes_importLine`, `takes_fromLine`, `fails_fromLine`: imports; a reserved word
  among the names makes one fail.
* `takes_stub`: a stub is the definition of a function.
* `takes_moduleStatements`, `fails_moduleStatements`: a whole module.
-/
import Branchwise.Proofs.ReaderRuns
import Branchwise.Proofs.StubTokens

namespace Branchwise.Source.Grammar

open Text

/-! ### Statements on one line -/

section Lines

variable {b : Blocks} {ks : List Token.Kind} {k : Token.Kind}

/-- An expression, read as a statement of its own. -/
lemma runs_expressionStatement {Q : Option (Expr × List Token.Kind) → Prop}
    {Q' : Option (Stmt × List Token.Kind) → Prop} {line : Nat} (hQ : Ended Q) (hk : HeadsAtom k)
    (h : Runs b.expression (k :: ks) Q) (hnone : Q none → Q' none)
    (hsome : ∀ e ks, Q (some (e, ks)) → Q' (some (.simple .expression line, ks))) :
    Runs (b.expressionStatement line) (k :: ks) Q' := by
  have hyield : Gives (isWord .yieldKw) (k :: ks) false (k :: ks) := by
    have := decide_eq_false (hk.ne_keyword .yieldKw)
    exact this ▸ gives_isNext
  have hright : Runs b.rightSide (k :: ks) Q := hyield.give (runs_starExpressions hQ hk h)
  refine hyield.give (hright.bind hnone fun e ks he => ?_)
  obtain ⟨k, ks, rfl, hend⟩ := hQ e ks he
  refine gives_peek.give ?_
  rcases hend with rfl | rfl
  · exact runs_pure (hsome e _ he)
  · exact runs_pure (hsome e _ he)

/-- A line of one statement. -/
lemma runs_simpleLine {Q : Option (List Stmt × List Token.Kind) → Prop} (hbound : 0 < b.bound)
    (h : Runs b.simpleStatement ks fun o =>
      (o = none ∧ Q none) ∨ ∃ s ks', o = some (s, .newline :: ks') ∧ Q (some ([s], ks'))) :
    Runs b.simpleLine ks Q := by
  refine h.bind (by simp) ?_
  rintro s _ (⟨⟨⟩, -⟩ | ⟨s, ks', ⟨⟩, hQ⟩)
  have hstop : Gives (accept .semicolon) (.newline :: ks') false (.newline :: ks') :=
    gives_acceptToken_of_ne (by decide)
  refine Runs.give (gives_chain_nil (hstop.give (runs_pure rfl)) hbound) ?_
  exact gives_token.give (runs_pure hQ)

/-- A line that starts with an atom is an expression, whatever `match` means elsewhere. -/
lemma runs_statement_expression {Q : Option (List Stmt × List Token.Kind) → Prop}
    (hbound : 0 < b.bound) (hk : HeadsAtom k) (hmatch : ∀ form, k ≠ .name "match" form)
    (h : Runs b.expression (k :: ks) fun o => (o = none ∧ Q none) ∨
      ∃ e ks', o = some (e, .newline :: ks') ∧ ∀ line, Q (some ([.simple .expression line], ks'))) :
    Runs b.statement (k :: ks) Q := by
  have hended : Ended fun o => (o = none ∧ Q none) ∨
      ∃ e ks', o = some (e, .newline :: ks') ∧
        ∀ line, Q (some ([.simple .expression line], ks')) := by
    rintro e ks (⟨⟨⟩, -⟩ | ⟨e, ks', ⟨⟩, -⟩)
    exact ⟨_, _, rfl, .inl rfl⟩
  have hsimple : Runs b.simpleLine (k :: ks) Q := by
    refine runs_simpleLine hbound (takes_line.take fun line _ => gives_peek.give ?_)
    have hstatement : Runs (b.expressionStatement line) (k :: ks) fun o =>
        (o = none ∧ Q none) ∨ ∃ s ks', o = some (s, .newline :: ks') ∧ Q (some ([s], ks')) := by
      refine runs_expressionStatement hended hk h ?_ ?_
      · rintro (⟨-, hQ⟩ | ⟨e, ks', ⟨⟩, -⟩)
        exact .inl ⟨rfl, hQ⟩
      · rintro e ks (⟨⟨⟩, -⟩ | ⟨e, ks', ⟨⟩, hQ⟩)
        exact .inr ⟨_, ks', rfl, hQ line⟩
    rcases hk with ⟨spelling, form, rfl⟩ | ⟨q, rfl⟩
    · exact hstatement
    · exact hstatement
  refine takes_line.take fun line _ => gives_peek.give ?_
  rcases hk with ⟨spelling, form, rfl⟩ | ⟨q, rfl⟩
  · -- only `match` is a name that may start another statement
    split
    all_goals first
      | exact hsimple
      | next heq => exact absurd heq (hmatch _)
      | next heq => cases heq
  · exact hsimple

end Lines

/-! ### Texts -/

/-- The readers of a text of this length, with blocks that nest this deep. -/
def blocksOf (charNamed : List Char → Option Char) (length depth : Nat) : Blocks :=
  ⟨Inner.ofLength length charNamed, blockAt (Inner.ofLength length charNamed) depth⟩

variable {charNamed : List Char → Option Char}

lemma bound_blocksOf (length depth : Nat) :
    (blocksOf charNamed length depth).bound = length + 1 := rfl

section Texts

variable {n depth : Nat} {ks : List Token.Kind} {k : Token.Kind} {body : List Char}

/-- What a text denotes decides whether it is an expression. -/
lemma runs_expressionAt_text (hend : EndsExpression k) :
    Runs (expressionAt (n + 2) charNamed (depth + 1)) (plainText body :: k :: ks)
      (· = (unescape charNamed false body).map fun codes => (textConstant codes, k :: ks)) := by
  refine runs_expressionAt ?_ (.inr ⟨_, rfl⟩) (by omega) fun l => ?_
  · rintro e ks h
    obtain ⟨codes, -, h⟩ := Option.map_eq_some_iff.mp h.symm
    cases h
    exact ⟨k, _, rfl, hend⟩
  · have hatom : Runs (Inner.atom ⟨n + 2, charNamed, expressionAt (n + 2) charNamed depth⟩ l)
        (plainText body :: k :: ks)
        (· = (unescape charNamed false body).map fun codes => (textConstant codes, k :: ks)) :=
      runs_atom_text hend (by simp) rfl
    refine hatom.bind id fun e ks' he => ?_
    obtain ⟨codes, -, h⟩ := Option.map_eq_some_iff.mp he.symm
    cases h
    exact (gives_trailers_nil hend (by simp)).mono fun o ho => ho.trans he

/-- The statement of a text. -/
lemma takes_textLine (h : (unescape charNamed false body).isSome) :
    Takes (blocksOf charNamed (n + 1) depth).statement (plainText body :: .newline :: ks)
      (fun stmts => ∃ line, stmts = [.simple .expression line]) ks := by
  obtain ⟨codes, hcodes⟩ := Option.isSome_iff_exists.mp h
  refine runs_statement_expression (Nat.succ_pos _) (.inr ⟨_, rfl⟩) (by simp [plainText]) ?_
  refine (runs_expressionAt_text (.inl rfl)).mono fun o ho =>
    .inr ⟨textConstant codes, ks, ?_, fun line => ?_⟩
  · rw [ho, hcodes]
    rfl
  · exact ⟨_, rfl, line, rfl⟩

/-- A text that denotes nothing is no statement. -/
lemma fails_textLine (h : (unescape charNamed false body).isSome = false) :
    Fails (blocksOf charNamed (n + 1) depth).statement (plainText body :: .newline :: ks) := by
  rw [Option.isSome_eq_false_iff, Option.isNone_iff_eq_none] at h
  refine runs_statement_expression (Nat.succ_pos _) (.inr ⟨_, rfl⟩) (by simp [plainText]) ?_
  refine (runs_expressionAt_text (.inl rfl)).mono fun o ho => .inl ⟨?_, rfl⟩
  rw [ho, h]
  rfl

end Texts

/-! ### Imports -/

/-- The reader takes every word but the reserved ones, if a token of these kinds
follows. -/
structure TakesWords {α : Type} (item : Reader α) (ends : List Token.Kind) : Prop where
  takes : ∀ w k ks, k ∈ ends → isReserved w = false →
    Takes item (wordToken w :: k :: ks) (fun _ => True) (k :: ks)
  fails : ∀ w ks, isReserved w = true → Fails item (wordToken w :: ks)

section Words

variable {α : Type} {item : Reader α} {sep : Symbol} {k : Token.Kind} {ks ends : List Token.Kind}
  {ws : List (List Char)} {bound : Nat}

lemma takesWords_identifier : TakesWords identifier ends := by
  refine ⟨fun w k ks _ hw => ?_, fun w ks hw => ?_⟩
  · rw [isReserved, Option.isSome_eq_false_iff, Option.isNone_iff_eq_none] at hw
    rw [wordToken, hw]
    exact gives_identifier.mono fun o ho => ⟨_, ho, True.intro⟩
  · obtain ⟨kw, hkw⟩ := Option.isSome_iff_exists.mp hw
    rw [wordToken, hkw]
    exact fails_identifier

/-- A name that could have a second one behind `as`. -/
lemma takesWords_importItem :
    TakesWords (do let _ ← identifier; Blocks.secondName) [.symbol .comma, .newline] := by
  refine ⟨fun w k ks hk hw => ?_, fun w ks hw => ?_⟩
  · refine (takesWords_identifier.takes w k ks hk hw).take fun _ _ => ?_
    have hne : k ≠ .keyword .asKw := by
      rintro rfl
      simp at hk
    exact (gives_acceptToken_of_ne hne).give (runs_pure ⟨_, rfl, True.intro⟩)
  · exact Runs.fail ((@takesWords_identifier []).fails w ks hw) rfl

/-- A separator or the end follows a word. -/
lemma exists_wordsBehind_eq_cons (sep : Symbol) (ws : List (List Char)) (k : Token.Kind)
    (ks : List Token.Kind) :
    ∃ k' ks', k' ∈ [Token.Kind.symbol sep, k] ∧ wordsBehind sep ws ++ k :: ks = k' :: ks' := by
  cases ws with
  | nil => exact ⟨k, ks, by simp, rfl⟩
  | cons w ws => exact ⟨.symbol sep, _, by simp, rfl⟩

variable (hitem : TakesWords item [.symbol sep, k])
include hitem

/-- Words behind separators, up to another token. -/
lemma takes_chain_words (hk : k ≠ .symbol sep) (hws : ∀ w ∈ ws, isReserved w = false)
    (hbound : ws.length < bound) :
    Takes (chain (do if ← accept sep then return some (← item) else return none) bound)
      (wordsBehind sep ws ++ k :: ks) (fun _ => True) (k :: ks) := by
  induction ws generalizing bound with
  | nil =>
      refine (gives_chain_nil (gives_guarded_none (gives_acceptToken_of_ne hk)) ?_).mono
        fun o ho => ⟨_, ho, True.intro⟩
      simpa using hbound
  | cons w ws ih =>
      obtain ⟨hw, hws⟩ := List.forall_mem_cons.mp hws
      obtain ⟨n, rfl⟩ := Nat.exists_eq_add_one_of_ne_zero (by omega : bound ≠ 0)
      obtain ⟨k', ks', hk', hks'⟩ := exists_wordsBehind_eq_cons sep ws k ks
      have hmore := ih hws (by simpa using hbound)
      rw [hks'] at hmore
      rw [wordsBehind, List.flatMap_cons, List.append_assoc, ← wordsBehind, hks']
      refine runs_chain_cons (takes_guarded_some gives_acceptToken (hitem.takes w k' ks' hk' hw)) ?_
      intro a _
      refine hmore.mono ?_
      rintro _ ⟨l, rfl, -⟩
      exact ⟨_, rfl, True.intro⟩

/-- A reserved word among them makes the reader fail. -/
lemma fails_chain_words (hws : ∃ w ∈ ws, isReserved w = true) :
    Fails (chain (do if ← accept sep then return some (← item) else return none) bound)
      (wordsBehind sep ws ++ k :: ks) := by
  induction ws generalizing bound with
  | nil => simp at hws
  | cons w ws ih =>
      cases bound with
      | zero => exact runs_failure rfl
      | succ n =>
          by_cases hw : isReserved w = true
          · exact fails_chain (fails_guarded gives_acceptToken (hitem.fails w _ hw))
          · have hws : ∃ w ∈ ws, isReserved w = true := by
              simpa [hw] using hws
            rw [Bool.not_eq_true] at hw
            obtain ⟨k', ks', hk', hks'⟩ := exists_wordsBehind_eq_cons sep ws k ks
            have hmore := @ih n hws
            rw [hks'] at hmore
            rw [wordsBehind, List.flatMap_cons, List.append_assoc, ← wordsBehind, hks']
            refine runs_chain_cons
              (takes_guarded_some gives_acceptToken (hitem.takes w k' ks' hk' hw)) ?_
            intro a _
            refine hmore.mono ?_
            rintro _ rfl
            rfl

variable {β : Type} (make : α → List α → β)

/-- Words with separators between them. -/
lemma takes_words (hk : k ≠ .symbol sep) (hne : ws ≠ []) (hws : ∀ w ∈ ws, isReserved w = false)
    (hbound : ws.length ≤ bound) :
    Takes (do
      let first ← item
      let rest ← chain (do if ← accept sep then return some (← item) else return none) bound
      return make first rest) (separated sep ws ++ k :: ks) (fun _ => True) (k :: ks) := by
  obtain ⟨w, ws, rfl⟩ := List.exists_cons_of_ne_nil hne
  obtain ⟨hw, hws⟩ := List.forall_mem_cons.mp hws
  obtain ⟨k', ks', hk', hks'⟩ := exists_wordsBehind_eq_cons sep ws k ks
  rw [separated, List.cons_append, hks']
  refine (hitem.takes w k' ks' hk' hw).take fun first _ => ?_
  rw [← hks']
  exact (takes_chain_words hitem hk hws hbound).take fun rest _ => runs_pure ⟨_, rfl, True.intro⟩

/-- A reserved word among them makes the reader fail. -/
lemma fails_words (hws : ∃ w ∈ ws, isReserved w = true) :
    Fails (do
      let first ← item
      let rest ← chain (do if ← accept sep then return some (← item) else return none) bound
      return make first rest) (separated sep ws ++ k :: ks) := by
  cases ws with
  | nil => simp at hws
  | cons w ws =>
      by_cases hw : isReserved w = true
      · exact Runs.fail (hitem.fails w _ hw) rfl
      · have hws : ∃ w ∈ ws, isReserved w = true := by
          simpa [hw] using hws
        rw [Bool.not_eq_true] at hw
        obtain ⟨k', ks', hk', hks'⟩ := exists_wordsBehind_eq_cons sep ws k ks
        rw [separated, List.cons_append, hks']
        refine (hitem.takes w k' ks' hk' hw).take fun first _ => ?_
        rw [← hks']
        exact (fails_chain_words hitem hws).fail rfl

end Words

section Imports

variable {b : Blocks} {ks : List Token.Kind}

lemma takes_importLine (hbound : 0 < b.bound) :
    Takes b.statement (importKinds ++ ks) (fun stmts => ∃ line, stmts = [.simple .importNames line])
      ks := by
  have hname : Takes b.dottedName (nameKind "pytest" :: .newline :: ks) (fun _ => True)
      (.newline :: ks) := by
    refine gives_identifier.give ?_
    refine (gives_chain_nil (gives_guarded_none (gives_acceptToken_of_ne (by simp))) hbound).give ?_
    exact runs_pure ⟨_, rfl, True.intro⟩
  have hitem : Takes (do b.dottedName; Blocks.secondName) (nameKind "pytest" :: .newline :: ks)
      (fun _ => True) (.newline :: ks) := by
    refine hname.take fun _ _ => (gives_acceptToken_of_ne (by simp)).give ?_
    exact runs_pure ⟨_, rfl, True.intro⟩
  have hlist : Takes (commaSeparated b.bound (do b.dottedName; Blocks.secondName))
      (nameKind "pytest" :: .newline :: ks) (fun _ => True) (.newline :: ks) := by
    refine hitem.take fun _ _ => ?_
    refine (gives_chain_nil (gives_guarded_none (gives_acceptToken_of_ne (by simp))) hbound).give ?_
    exact runs_pure ⟨_, rfl, True.intro⟩
  refine takes_line.take fun _ _ => gives_peek.give ?_
  refine runs_simpleLine hbound (takes_line.take fun line _ => gives_peek.give ?_)
  refine gives_skip.give (hlist.take fun _ _ => ?_)
  exact runs_pure (.inr ⟨_, ks, rfl, _, rfl, line, rfl⟩)

lemma wordToken_ne_symbol (w : List Char) (s : Symbol) : wordToken w ≠ .symbol s := by
  rw [wordToken]
  split
  · simp
  · simp

/-- What is read behind `from`, where no dots stand in front of the module. -/
lemma runs_fromStatement {ws : List (List Char)} {rest : List Token.Kind}
    {Q : Option (Stmt × List Token.Kind) → Prop} (hbound : 0 < b.bound) (hne : ws ≠ [])
    (h : ∀ line, Runs (do
      b.dottedName
      word .importKw
      b.importedNames
      return .simple .importFrom line : Reader Stmt) (separated .dot ws ++ rest) Q) :
    Runs b.simpleStatement (.keyword .fromKw :: (separated .dot ws ++ rest)) Q := by
  obtain ⟨w, ws, rfl⟩ := List.exists_cons_of_ne_nil hne
  rw [separated, List.cons_append] at h ⊢
  generalize wordsBehind .dot ws ++ rest = rest at h ⊢
  have hdots : Gives b.leadingDots (wordToken w :: rest) false (wordToken w :: rest) := by
    refine (gives_chain_nil (gives_isNext.give (gives_isNext.give ?_)) hbound).give (runs_pure rfl)
    rw [decide_eq_false (wordToken_ne_symbol w _), decide_eq_false (wordToken_ne_symbol w _)]
    exact runs_pure rfl
  refine takes_line.take fun line _ => gives_peek.give (gives_skip.give (hdots.give ?_))
  exact gives_isNext.give (h line)

lemma takes_dottedName {ws : List (List Char)} {k : Token.Kind} (hk : k ≠ .symbol .dot)
    (hne : ws ≠ []) (hws : ∀ w ∈ ws, isReserved w = false) (hbound : ws.length ≤ b.bound) :
    Takes b.dottedName (separated .dot ws ++ k :: ks) (fun _ => True) (k :: ks) :=
  takes_words takesWords_identifier (fun _ _ => ()) hk hne hws hbound

lemma fails_dottedName {ws : List (List Char)} {k : Token.Kind}
    (hws : ∃ w ∈ ws, isReserved w = true) :
    Fails b.dottedName (separated .dot ws ++ k :: ks) :=
  fails_words takesWords_identifier (fun _ _ => ()) hws

/-- The names behind `import`, which are not in brackets. -/
lemma runs_importedNames {ws : List (List Char)} {k : Token.Kind}
    {Q : Option (Unit × List Token.Kind) → Prop} (hne : ws ≠ [])
    (h : Runs (do
      let _ ← commaSeparated b.bound (do let _ ← identifier; Blocks.secondName)
      return () : Reader Unit) (separated .comma ws ++ k :: ks) Q) :
    Runs b.importedNames (separated .comma ws ++ k :: ks) Q := by
  obtain ⟨w, ws, rfl⟩ := List.exists_cons_of_ne_nil hne
  rw [separated, List.cons_append] at h ⊢
  refine (gives_acceptToken_of_ne (wordToken_ne_symbol w _)).give ?_
  exact (gives_acceptToken_of_ne (wordToken_ne_symbol w _)).give h

lemma takes_importedNames {ws : List (List Char)} (hne : ws ≠ [])
    (hws : ∀ w ∈ ws, isReserved w = false) (hbound : ws.length ≤ b.bound) :
    Takes b.importedNames (separated .comma ws ++ .newline :: ks) (fun _ => True)
      (.newline :: ks) := by
  refine runs_importedNames hne ?_
  refine (takes_words takesWords_importItem List.cons (by simp) hne hws hbound).take fun _ _ => ?_
  exact runs_pure ⟨_, rfl, True.intro⟩

lemma fails_importedNames {ws : List (List Char)} (hws : ∃ w ∈ ws, isReserved w = true) :
    Fails b.importedNames (separated .comma ws ++ .newline :: ks) := by
  have hne : ws ≠ [] := by
    rintro rfl
    simp at hws
  refine runs_importedNames hne ?_
  exact (fails_words takesWords_importItem List.cons hws).fail rfl

lemma fromKinds_append (module : String) (names : List String) :
    fromKinds module names ++ ks = .keyword .fromKw :: (separated .dot (splitOn '.' module.toList)
      ++ .keyword .importKw :: (separated .comma (names.map String.toList) ++ .newline :: ks)) := by
  simp [fromKinds]

/-- A module and names that are not reserved can be imported. -/
lemma takes_fromLine {module : String} {names : List String} (hne : names ≠ [])
    (hmodule : ∀ w ∈ splitOn '.' module.toList, isReserved w = false)
    (hnames : ∀ w ∈ names.map String.toList, isReserved w = false)
    (hparts : (splitOn '.' module.toList).length ≤ b.bound) (hlength : names.length ≤ b.bound)
    (hbound : 0 < b.bound) :
    Takes b.statement (fromKinds module names ++ ks)
      (fun stmts => ∃ line, stmts = [.simple .importFrom line]) ks := by
  rw [fromKinds_append]
  refine takes_line.take fun _ _ => gives_peek.give (runs_simpleLine hbound ?_)
  refine runs_fromStatement hbound (splitOn_ne_nil '.' module.toList) fun line => ?_
  refine (takes_dottedName (by simp) (splitOn_ne_nil '.' module.toList) hmodule hparts).take
    fun _ _ => gives_token.give ?_
  refine (takes_importedNames (by simpa using hne) hnames (by simpa using hlength)).take
    fun _ _ => ?_
  exact runs_pure (.inr ⟨_, ks, rfl, _, rfl, line, rfl⟩)

/-- A reserved word in front of `import` or behind it makes the import fail. -/
lemma fails_fromLine {module : String} {names : List String}
    (h : (∃ w ∈ splitOn '.' module.toList, isReserved w = true) ∨
      ∃ w ∈ names.map String.toList, isReserved w = true)
    (hparts : (splitOn '.' module.toList).length ≤ b.bound) (hbound : 0 < b.bound) :
    Fails b.statement (fromKinds module names ++ ks) := by
  rw [fromKinds_append]
  refine takes_line.take fun _ _ => gives_peek.give (runs_simpleLine hbound ?_)
  refine runs_fromStatement hbound (splitOn_ne_nil '.' module.toList) fun line => ?_
  by_cases hmodule : ∃ w ∈ splitOn '.' module.toList, isReserved w = true
  · exact (fails_dottedName hmodule).fail (.inl ⟨rfl, rfl⟩)
  · have hnames := h.resolve_left hmodule
    have hmodule : ∀ w ∈ splitOn '.' module.toList, isReserved w = false := by
      simpa using hmodule
    refine (takes_dottedName (by simp) (splitOn_ne_nil '.' module.toList) hmodule hparts).take
      fun _ _ => gives_token.give ?_
    exact (fails_importedNames hnames).fail (.inl ⟨rfl, rfl⟩)

end Imports

/-! ### Stubs -/

/-- No parameters at all. -/
def noParams : Params :=
  .mk [] [] none [] none

/-- The statement defines the stub: a function without parameters that holds one
expression. -/
def DefinesStub (s : Stub) (stmt : Stmt) : Prop :=
  ∃ line line', stmt = .function line s.isAsync s.name noParams [.simple .expression line']

section Stubs

variable {n depth : Nat} {ks : List Token.Kind}

/-- The body of a stub. -/
lemma takes_skipLine :
    Takes (blocksOf charNamed (n + 3) depth).statement (skipKinds ++ ks)
      (fun stmts => ∃ line, stmts = [.simple .expression line]) ks := by
  obtain ⟨codes, hcodes⟩ :
      ∃ codes, unescape charNamed false "not implemented".toList = some codes :=
    Option.isSome_iff_exists.mp rfl
  have htext : Gives (expressionAt (n + 4) charNamed (n + 3))
      (plainText "not implemented".toList :: .symbol .rparen :: .newline :: ks)
      (textConstant codes) (.symbol .rparen :: .newline :: ks) := by
    refine (runs_expressionAt_text (.inr rfl)).mono fun o ho => ?_
    rw [ho, hcodes]
    rfl
  have hargs : ∀ l : Inner.Levels, Gives
      (Inner.callArguments ⟨n + 4, charNamed, expressionAt (n + 4) charNamed (n + 3)⟩
        l.primary l.disjunction)
      (plainText "not implemented".toList :: .symbol .rparen :: .newline :: ks)
      ([textConstant codes], []) (.newline :: ks) :=
    fun l => gives_callArguments (.inr ⟨_, rfl⟩) (by simp) htext
  have hcall : Gives (blocksOf charNamed (n + 3) depth).expression (skipKinds ++ ks)
      (.call (.member (.name "pytest") "skip") [textConstant codes] []) (.newline :: ks) := by
    refine runs_expressionAt (ended_gives (.inl rfl)) (.inl ⟨_, _, rfl⟩) (by omega) fun l => ?_
    refine gives_atom_name.give (gives_trailers_member (gives_trailers_call (hargs l) ?_))
    exact gives_trailers_nil (.inl rfl) (by omega)
  refine runs_statement_expression (Nat.succ_pos _) (.inl ⟨_, _, rfl⟩) (by simp [nameKind]) ?_
  exact hcall.mono fun o ho => .inr ⟨_, ks, ho, fun line => ⟨_, rfl, line, rfl⟩⟩

/-- The mark of an asynchronous test. -/
lemma takes_markLine {k : Token.Kind} (hk : k ≠ .symbol .at) :
    Takes (blocksOf charNamed (n + 3) depth).decorators (markKinds ++ k :: ks) (fun _ => True)
      (k :: ks) := by
  have hmark : Gives (blocksOf charNamed (n + 3) depth).inner.expression
      ([nameKind "pytest", .symbol .dot, nameKind "mark", .symbol .dot, nameKind "asyncio",
        .newline]
        ++ k :: ks)
      (.member (.member (.name "pytest") "mark") "asyncio") (.newline :: k :: ks) := by
    refine runs_expressionAt (ended_gives (.inl rfl)) (.inl ⟨_, _, rfl⟩) (by omega) fun l => ?_
    refine gives_atom_name.give (gives_trailers_member (gives_trailers_member ?_))
    exact gives_trailers_nil (.inl rfl) (by omega)
  refine runs_chain_cons (P := fun _ => True) (?_ : Takes _ _ _ (k :: ks)) fun a _ => ?_
  · refine gives_acceptToken.give ?_
    refine Runs.give ((gives_nameBefore? (by simp)).give hmark) (gives_token.give ?_)
    exact runs_pure ⟨_, rfl, (), rfl, True.intro⟩
  · refine (gives_chain_nil ((gives_acceptToken_of_ne hk).give ?_) (Nat.succ_pos _)).mono
      fun o ho => ⟨[a], by rw [ho]; rfl, True.intro⟩
    exact runs_pure rfl

/-- A block of one statement. -/
lemma takes_block {k : Token.Kind} {kinds : List Token.Kind} {P : List Stmt → Prop}
    (hk : k ≠ .dedent)
    (h : Takes (blocksOf charNamed (n + 3) depth).statement (k :: kinds) P (.dedent :: ks)) :
    Takes (blocksOf charNamed (n + 3) (depth + 1)).block (.newline :: .indent :: k :: kinds) P
      ks := by
  refine gives_acceptToken.give (gives_token.give ?_)
  refine Runs.take (P := fun lines => ∃ stmts, lines = [stmts] ∧ P stmts)
    (?_ : Takes _ _ _ ks) ?_
  · refine runs_chain_cons (takes_until_item hk h) fun stmts hstmts => ?_
    exact (gives_chain_nil gives_until_end (Nat.succ_pos _)).mono
      fun o ho => ⟨[stmts], by rw [ho]; rfl, stmts, rfl, hstmts⟩
  · rintro _ ⟨stmts, rfl, hstmts⟩
    refine runs_pure ⟨stmts, ?_, hstmts⟩
    simp

/-- A parameter list that ends at once. -/
lemma gives_parameters_nil {g : Inner} {annotated : Bool} {starType : Reader Unit} {close : Symbol}
    (hbound : 0 < g.bound) :
    Gives (g.parameters annotated starType close) (.symbol close :: ks) noParams
      (.symbol close :: ks) := by
  have hloop : Gives (g.parameterLoop annotated starType close g.bound
      ⟨[], [], none, [], none, .regular, false, false⟩) (.symbol close :: ks)
      ⟨[], [], none, [], none, .regular, false, false⟩ (.symbol close :: ks) := by
    obtain ⟨m, hm⟩ := Nat.exists_eq_add_one_of_ne_zero hbound.ne'
    rw [hm, Inner.parameterLoop]
    refine gives_isNext.give ?_
    rw [decide_eq_true rfl]
    exact runs_pure rfl
  refine hloop.give ?_
  exact runs_pure rfl

/-- The head of a stub behind its keyword, and its body. -/
lemma takes_functionDef {line : Nat} {isAsync : Bool} {name : String} :
    Takes ((blocksOf charNamed (n + 3) (depth + 1)).functionDef line isAsync)
      ((defKinds name).tail ++ .indent :: (skipKinds ++ .dedent :: ks))
      (fun stmt => ∃ line', stmt = .function line isAsync name noParams [.simple .expression line'])
      ks := by
  have hblock : Takes (blocksOf charNamed (n + 3) (depth + 1)).block
      (.newline :: .indent :: (skipKinds ++ .dedent :: ks))
      (fun stmts => ∃ line, stmts = [.simple .expression line]) ks :=
    takes_block (by simp [nameKind]) takes_skipLine
  refine gives_identifier.give (gives_token.give ?_)
  refine (gives_parameters_nil (Nat.succ_pos _)).give (gives_token.give ?_)
  refine (gives_acceptToken_of_ne (by simp)).give (Runs.take (gives_token.give hblock) ?_)
  rintro _ ⟨line', rfl⟩
  exact runs_pure ⟨_, rfl, line', rfl⟩

/-- **A stub is read as the definition of its function.** -/
lemma takes_stub (s : Stub) :
    Takes (blocksOf charNamed (n + 3) (depth + 1)).statement (stubKinds s ++ ks)
      (fun stmts => ∃ stmt, stmts = [stmt] ∧ DefinesStub s stmt) ks := by
  have hkinds : stubKinds s ++ ks = (if s.isAsync then markKinds ++ [.keyword .asyncKw] else [])
      ++ (defKinds s.name ++ .indent :: (skipKinds ++ .dedent :: ks)) := by
    simp [stubKinds, openKinds]
  rw [hkinds]
  cases hasync : s.isAsync with
  | false =>
      refine takes_line.take fun line _ => gives_peek.give (gives_skip.give ?_)
      refine takes_functionDef.take ?_
      rintro _ ⟨line', rfl⟩
      exact runs_pure ⟨_, rfl, _, rfl, line, line', by rw [hasync]⟩
  | true =>
      rw [if_pos rfl, List.append_assoc]
      refine takes_line.take fun _ _ => gives_peek.give ?_
      refine (takes_markLine (by simp)).take fun _ _ => ?_
      refine Runs.take (P := DefinesStub s) (?_ : Takes _ _ _ ks) fun stmt hstmt =>
        runs_pure ⟨_, rfl, stmt, rfl, hstmt⟩
      refine takes_line.take fun line _ => (gives_acceptToken_of_ne (by simp)).give ?_
      refine (gives_acceptToken_of_ne (by simp)).give (gives_token.give (gives_token.give ?_))
      refine takes_functionDef.mono ?_
      rintro _ ⟨stmt, rfl, line', rfl⟩
      exact ⟨_, rfl, line, line', by rw [hasync]⟩

lemma exists_stubKinds_eq_cons (s : Stub) :
    ∃ k kinds, k ≠ .stop ∧ stubKinds s = k :: kinds := by
  rw [stubKinds, openKinds]
  cases s.isAsync with
  | false => exact ⟨.keyword .defKw, _, by simp, rfl⟩
  | true => exact ⟨.symbol .at, _, by simp, rfl⟩

/-- Stubs up to the end of the text. -/
lemma takes_stubs {ss : List Stub} {bound : Nat} (hbound : ss.length < bound) :
    Takes (chain (do
        if ← acceptToken .stop then return none
        else return some (← (blocksOf charNamed (n + 3) (depth + 1)).statement)) bound)
      (ss.flatMap stubKinds ++ [.stop])
      (fun lines => List.Forall₂ DefinesStub ss lines.flatten) [] := by
  induction ss generalizing bound with
  | nil =>
      exact (gives_chain_nil gives_until_end (by omega)).mono fun o ho => ⟨[], ho, .nil⟩
  | cons s ss ih =>
      obtain ⟨m, rfl⟩ := Nat.exists_eq_add_one_of_ne_zero (by omega : bound ≠ 0)
      have hmore := @ih m (by simpa using hbound)
      have hstub := @takes_stub charNamed n depth (ss.flatMap stubKinds ++ [.stop]) s
      obtain ⟨k, kinds, hk, hkinds⟩ := exists_stubKinds_eq_cons s
      rw [List.flatMap_cons, List.append_assoc]
      rw [hkinds, List.cons_append] at hstub ⊢
      refine runs_chain_cons (takes_until_item hk hstub) ?_
      rintro _ ⟨stmt, rfl, hstmt⟩
      refine hmore.mono ?_
      rintro _ ⟨lines, rfl, hlines⟩
      exact ⟨_, rfl, .cons hstmt hlines⟩

end Stubs

/-! ### Modules -/

/-- The statements of a module: imports and texts, and behind them the stubs. -/
def DefinesStubs (ss : List Stub) (stmts : List Stmt) : Prop :=
  ∃ front defs, stmts = front ++ defs ∧ (∀ s ∈ front, ∃ kind line, s = Stmt.simple kind line) ∧
    List.Forall₂ DefinesStub ss defs

/-- No reserved word is imported from, or imported. -/
def NoReservedImport (a : Analysis) (module : String) : Prop :=
  (isImportable module && !(importNames a).isEmpty) = true →
    (∀ w ∈ splitOn '.' module.toList, isReserved w = false) ∧
      ∀ w ∈ (importNames a).map String.toList, isReserved w = false

instance (a : Analysis) (module : String) : Decidable (NoReservedImport a module) :=
  inferInstanceAs (Decidable (_ → _))

section Modules

variable {a : Analysis} {module : String} {n : Nat}

lemma DefinesStubs.cons {ss : List Stub} {stmts : List Stmt} (h : DefinesStubs ss stmts)
    (kind : SimpleKind) (line : Nat) : DefinesStubs ss (.simple kind line :: stmts) := by
  obtain ⟨front, defs, rfl, hfront, hdefs⟩ := h
  refine ⟨.simple kind line :: front, defs, rfl, ?_, hdefs⟩
  rw [List.forall_mem_cons]
  exact ⟨⟨kind, line, rfl⟩, hfront⟩

/-- The statements up to the end of the text. -/
def moduleLines (charNamed : List Char → Option Char) (n bound : Nat) :
    Reader (List (List Stmt)) :=
  chain (do
    if ← acceptToken .stop then return none
    else return some (← (blocksOf charNamed (n + 3) (n + 4)).statement)) bound

/-- The imports of what is tested, and the stubs. -/
lemma takes_importedKinds (himports : NoReservedImport a module)
    (hparts : (splitOn '.' module.toList).length ≤ n) (hnames : (importNames a).length ≤ n)
    (hstubs : (allStubs [] a.results).1.length < n) :
    Takes (moduleLines charNamed n (n + 2))
      (importedKinds a module ++ ((allStubs [] a.results).1.flatMap stubKinds ++ [.stop]))
      (fun lines => DefinesStubs (allStubs [] a.results).1 lines.flatten) [] := by
  have hrest : ∀ bound, n ≤ bound → Takes (moduleLines charNamed n bound)
      ((allStubs [] a.results).1.flatMap stubKinds ++ [.stop])
      (fun lines => DefinesStubs (allStubs [] a.results).1 lines.flatten) [] := by
    intro bound hbound
    refine (takes_stubs (by omega)).mono ?_
    rintro _ ⟨lines, rfl, hlines⟩
    exact ⟨lines, rfl, [], lines.flatten, rfl, by simp, hlines⟩
  rw [importedKinds]
  split
  · next himported =>
    obtain ⟨hmodule, hwords⟩ := himports himported
    have hne : importNames a ≠ [] := by
      intro hnil
      simp [hnil] at himported
    have hbound : n ≤ (blocksOf charNamed (n + 3) (n + 4)).bound := by
      rw [bound_blocksOf]
      omega
    refine runs_chain_cons (takes_until_item (by simp) (takes_fromLine hne hmodule hwords
      (hparts.trans hbound) (hnames.trans hbound) (Nat.succ_pos _))) ?_
    rintro _ ⟨line, rfl⟩
    refine (hrest (n + 1) (by omega)).mono ?_
    rintro _ ⟨lines, rfl, hlines⟩
    exact ⟨_, rfl, hlines.cons .importFrom line⟩
  · exact hrest (n + 2) (by omega)

lemma moduleKinds_append (a : Analysis) (module : String) :
    moduleKinds a module ++ [.stop] = plainText (titleBody a module) :: .newline ::
      (importKinds ++ (importedKinds a module
        ++ ((allStubs [] a.results).1.flatMap stubKinds ++ [.stop]))) := by
  simp [moduleKinds]

/-- **A module is read as its stubs**, if its title denotes a text and it imports no
reserved word. -/
lemma takes_moduleStatements (htext : (unescape charNamed false (titleBody a module)).isSome)
    (himports : NoReservedImport a module)
    (hparts : (splitOn '.' module.toList).length ≤ n) (hnames : (importNames a).length ≤ n)
    (hstubs : (allStubs [] a.results).1.length < n) :
    Takes (moduleStatements (.ofLength (n + 3) charNamed)) (moduleKinds a module ++ [.stop])
      (DefinesStubs (allStubs [] a.results).1) [] := by
  have hlines : Takes (moduleLines charNamed n (n + 4)) (moduleKinds a module ++ [.stop])
      (fun lines => DefinesStubs (allStubs [] a.results).1 lines.flatten) [] := by
    rw [moduleKinds_append]
    refine runs_chain_cons (takes_until_item (by simp [plainText]) (takes_textLine htext)) ?_
    rintro _ ⟨line, rfl⟩
    refine runs_chain_cons (takes_until_item (by simp) (takes_importLine (Nat.succ_pos _))) ?_
    rintro _ ⟨line', rfl⟩
    refine (takes_importedKinds himports hparts hnames hstubs).mono ?_
    rintro _ ⟨lines, rfl, hlines⟩
    exact ⟨_, rfl, (hlines.cons .importNames line').cons .expression line⟩
  exact hlines.take fun lines hlines => runs_pure ⟨_, rfl, hlines⟩

/-- **A title that denotes no text, or a reserved word among the imports**, makes a
module unreadable. -/
lemma fails_moduleStatements
    (h : (unescape charNamed false (titleBody a module)).isSome → ¬ NoReservedImport a module)
    (hparts : (splitOn '.' module.toList).length ≤ n) :
    Fails (moduleStatements (.ofLength (n + 3) charNamed)) (moduleKinds a module ++ [.stop]) := by
  have hlines : Fails (moduleLines charNamed n (n + 4)) (moduleKinds a module ++ [.stop]) := by
    rw [moduleKinds_append]
    by_cases htext : (unescape charNamed false (titleBody a module)).isSome
    · -- the title and the first import are read, the second import is not
      obtain ⟨himported, hreserved⟩ := Classical.not_imp.mp (h htext)
      refine runs_chain_cons (takes_until_item (by simp [plainText]) (takes_textLine htext)) ?_
      intro _ _
      refine runs_chain_cons (takes_until_item (by simp) (takes_importLine (Nat.succ_pos _))) ?_
      intro _ _
      have hwords : (∃ w ∈ splitOn '.' module.toList, isReserved w = true) ∨
          ∃ w ∈ (importNames a).map String.toList, isReserved w = true := by
        by_contra hnone
        rw [not_or] at hnone
        exact hreserved ⟨by simpa using hnone.1, by simpa using hnone.2⟩
      have hbound : n ≤ (blocksOf charNamed (n + 3) (n + 4)).bound := by
        rw [bound_blocksOf]
        omega
      have hfrom : ∀ ks, Fails (blocksOf charNamed (n + 3) (n + 4)).statement
          (fromKinds module (importNames a) ++ ks) :=
        fun ks => fails_fromLine hwords (hparts.trans hbound) (Nat.succ_pos _)
      rw [importedKinds, if_pos himported]
      refine (fails_chain (fails_until_item (by simp) (hfrom _))).mono ?_
      rintro _ rfl
      rfl
    · rw [Bool.not_eq_true] at htext
      exact fails_chain (fails_until_item (by simp [plainText]) (fails_textLine htext))
  exact hlines.fail rfl

end Modules

end Branchwise.Source.Grammar
