/-
What is known of every statement that is read from tokens: the texts that it
brings to the branches of a function are shown, and the functions and classes
that it defines have names in normal form.

* `Statement.Shows`, `Statement.Tame`: the texts and the label of one statement,
  and of all that a walk of it records.
* `Stmt.shownExprs`, `Stmt.Plain`: the expressions that a statement shows, and a
  statement whose occurrences show plain ones; `Stmt.Plain.tame`: its tree is tame.
* `Stmt.Sound`: a plain statement with sound definitions.
* `yields_statement`, `yields_blockAt`, `sound_readModule`: every statement of a
  module is sound.
* `Function.Sound`, `sound_functions`: so is every function of a module.
-/
import Branchwise.Proofs.Occurrences
import Branchwise.Proofs.ReadExpressions

namespace Branchwise

/-! ### Statement trees -/

namespace Statement

/-- The texts of a statement that shapes branches are shown, and its label is that
of its kind. -/
def Shows : Statement → Prop
  | conditional test _ _ _ label => Shown test.toList ∧ label = "If"
  | guarded _ _ types _ label =>
    (∀ t ∈ types, Shown t.toList) ∧ (label = "Try" ∨ label = "TryStar")
  | ret value _ label => (∀ t ∈ value, Shown t.toList) ∧ label = "Return"
  | throw exc _ label => (∀ t ∈ exc, Shown t.toList) ∧ label = "Raise"
  | other _ _ => True

/-- So it is with all that a walk of the statement records. -/
def Tame (s : Statement) : Prop :=
  ∀ o side, ∀ t ∈ s.stream o side, t.Shows

end Statement

namespace Source

/-! ### What statements show -/

lemma reachedIn_eq_flatMap (side : Outcome) (ss : List Stmt) :
    reachedIn side ss = ss.flatMap (Stmt.reached side) := by
  induction ss with
  | nil => rfl
  | cons s ss ih => rw [reachedIn, ih, List.flatMap_cons]

lemma mem_reachedInHandlers {hs : List Handler} {x : Occurrence} (h : x ∈ reachedInHandlers hs) :
    ∃ type body, Handler.mk type body ∈ hs ∧ ∃ s ∈ body, x ∈ s.reached .failure := by
  induction hs with
  | nil => cases h
  | cons handler hs ih =>
      obtain ⟨type, body⟩ := handler
      rw [reachedInHandlers, List.mem_append, reachedIn_eq_flatMap] at h
      rcases h with h | h
      · exact ⟨type, body, List.mem_cons_self, List.mem_flatMap.mp h⟩
      · obtain ⟨type, body, hmem, h⟩ := ih h
        exact ⟨type, body, List.mem_cons_of_mem _ hmem, h⟩

namespace Stmt

/-- The expressions whose texts the statement brings to a branch. -/
def shownExprs : Stmt → List Expr
  | ifElse _ test _ _ => [test]
  | guard _ _ _ handlers _ _ => handlers.flatMap fun
    | .mk type _ => type.toList
  | ret _ value => value.toList
  | raise _ exc _ => exc.toList
  | _ => []

/-- Every expression that an occurrence in the statement shows is plain. -/
def Plain (s : Stmt) : Prop :=
  ∀ side, ∀ x ∈ s.reached side, ∀ e ∈ x.stmt.shownExprs, e.Plain

lemma shows_tree {s : Stmt} (h : ∀ e ∈ s.shownExprs, e.Plain) : s.tree.Shows := by
  cases s with
  | ifElse line test body orelse => exact ⟨(h test (by simp [shownExprs])).shown_shown, rfl⟩
  | guard line grouped body handlers orelse final =>
      constructor
      · intro t ht
        obtain ⟨⟨type, body⟩, hx, ht⟩ := List.mem_filterMap.mp ht
        obtain ⟨e, he, rfl⟩ := Option.map_eq_some_iff.mp ht
        exact (h e (List.mem_flatMap.mpr ⟨_, hx, Option.mem_toList.mpr he⟩)).shown_shown
      · cases grouped
        · exact .inl rfl
        · exact .inr rfl
  | ret line value =>
      refine ⟨fun t ht => ?_, rfl⟩
      obtain ⟨e, he, rfl⟩ := Option.map_eq_some_iff.mp ht
      exact (h e (Option.mem_toList.mpr he)).shown_shown
  | raise line exc cause =>
      refine ⟨fun t ht => ?_, rfl⟩
      obtain ⟨e, he, rfl⟩ := Option.map_eq_some_iff.mp ht
      exact (h e (Option.mem_toList.mpr he)).shown_shown
  | _ => exact True.intro

/-- What a walk records are the trees of occurrences. -/
lemma Plain.tame {s : Stmt} (h : s.Plain) : s.tree.Tame := by
  intro o side t ht
  obtain ⟨x, hx, rfl⟩ := List.mem_map.mp ((s.stream_tree_perm o side).mem_iff.mp ht)
  exact shows_tree (h side x (List.mem_filter.mp hx).1)

variable {line : Nat}

lemma plain_ifElse {test : Expr} (ht : test.Plain) {body orelse : List Stmt}
    (hb : ∀ s ∈ body, s.Plain) (ho : ∀ s ∈ orelse, s.Plain) :
    (ifElse line test body orelse).Plain := by
  intro side x hx
  rw [reached, List.mem_cons, List.mem_append, reachedIn_eq_flatMap, reachedIn_eq_flatMap,
    List.mem_flatMap, List.mem_flatMap] at hx
  rcases hx with rfl | ⟨s, hs, hx⟩ | ⟨s, hs, hx⟩
  · simpa [shownExprs] using ht
  · exact hb s hs _ x hx
  · exact ho s hs _ x hx

lemma plain_ret {value : Option Expr} (h : ∀ e ∈ value, e.Plain) : (ret line value).Plain := by
  intro side x hx
  rw [reached, List.mem_singleton] at hx
  subst hx
  simpa [shownExprs] using h

lemma plain_raise {exc cause : Option Expr} (h : ∀ e ∈ exc, e.Plain) :
    (raise line exc cause).Plain := by
  intro side x hx
  rw [reached, List.mem_singleton] at hx
  subst hx
  simpa [shownExprs] using h

lemma plain_guard {grouped : Bool} {body : List Stmt} {handlers : List Handler}
    {orelse final : List Stmt} (hb : ∀ s ∈ body, s.Plain)
    (hh : ∀ type body, Handler.mk type body ∈ handlers →
      (∀ e ∈ type, e.Plain) ∧ ∀ s ∈ body, s.Plain)
    (ho : ∀ s ∈ orelse, s.Plain) : (guard line grouped body handlers orelse final).Plain := by
  intro side x hx
  rw [reached, List.mem_cons, List.mem_append, List.mem_append, reachedIn_eq_flatMap,
    reachedIn_eq_flatMap, List.mem_flatMap, List.mem_flatMap] at hx
  rcases hx with rfl | (⟨s, hs, hx⟩ | hx) | ⟨s, hs, hx⟩
  · intro e he
    obtain ⟨⟨type, body⟩, hmem, he⟩ := List.mem_flatMap.mp he
    exact (hh type body hmem).1 e (Option.mem_toList.mp he)
  · exact hb s hs _ x hx
  · obtain ⟨type, body, hmem, s, hs, hx⟩ := mem_reachedInHandlers hx
    exact (hh type body hmem).2 s hs _ x hx
  · exact ho s hs _ x hx

/-- A statement that shapes no branches holds no occurrences. -/
lemma plain_of_reached {s : Stmt} (h : ∀ side, s.reached side = []) : s.Plain := by
  intro side x hx
  rw [h side] at hx
  cases hx

/-! ### Statements of a source text -/

/-- A function has a name in normal form, plain parameters and a plain body. -/
def Defines : Stmt → Prop
  | function _ _ name params body => IsName name ∧ params.Plain ∧ ∀ s ∈ body, s.Plain
  | _ => True

/-- The methods of a class are defined like functions. -/
def Owns : Stmt → Prop
  | classDef _ name body => IsName name ∧ ∀ s ∈ body, s.Defines
  | _ => True

/-- The statement is plain, and what it defines is as it should be. -/
structure Sound (s : Stmt) : Prop where
  plain : s.Plain
  defines : s.Defines
  owns : s.Owns

lemma sound_ifElse {test : Expr} (ht : test.Plain) {body orelse : List Stmt}
    (hb : ∀ s ∈ body, s.Sound) (ho : ∀ s ∈ orelse, s.Sound) :
    (ifElse line test body orelse).Sound :=
  ⟨plain_ifElse ht (fun s hs => (hb s hs).plain) fun s hs => (ho s hs).plain, True.intro,
    True.intro⟩

lemma sound_ret {value : Option Expr} (h : ∀ e ∈ value, e.Plain) : (ret line value).Sound :=
  ⟨plain_ret h, True.intro, True.intro⟩

lemma sound_raise {exc cause : Option Expr} (h : ∀ e ∈ exc, e.Plain) :
    (raise line exc cause).Sound :=
  ⟨plain_raise h, True.intro, True.intro⟩

lemma sound_function {isAsync : Bool} {name : String} (hn : IsName name) {params : Params}
    (hp : params.Plain) {body : List Stmt} (hb : ∀ s ∈ body, s.Sound) :
    (function line isAsync name params body).Sound :=
  ⟨plain_of_reached fun _ => rfl, ⟨hn, hp, fun s hs => (hb s hs).plain⟩, True.intro⟩

lemma sound_classDef {name : String} (hn : IsName name) {body : List Stmt}
    (hb : ∀ s ∈ body, s.Sound) : (classDef line name body).Sound :=
  ⟨plain_of_reached fun _ => rfl, True.intro, hn, fun s hs => (hb s hs).defines⟩

lemma sound_assign (targets : List Expr) (value : Expr) : (assign line targets value).Sound :=
  ⟨plain_of_reached fun _ => rfl, True.intro, True.intro⟩

lemma sound_annotated (target : Expr) (value : Option Expr) :
    (annotated line target value).Sound :=
  ⟨plain_of_reached fun _ => rfl, True.intro, True.intro⟩

lemma sound_block (kind : BlockKind) (body : List Stmt) : (block kind line body).Sound :=
  ⟨plain_of_reached fun _ => rfl, True.intro, True.intro⟩

lemma sound_simple (kind : SimpleKind) : (simple kind line).Sound :=
  ⟨plain_of_reached fun _ => rfl, True.intro, True.intro⟩

end Stmt

/-- The type of the handler is plain, and its body is sound. -/
def Handler.Sound : Handler → Prop
  | mk type body => (∀ e ∈ type, e.Plain) ∧ ∀ s ∈ body, s.Sound

lemma Stmt.sound_guard {line : Nat} {grouped : Bool} {body : List Stmt} {handlers : List Handler}
    {orelse final : List Stmt} (hb : ∀ s ∈ body, s.Sound) (hh : ∀ x ∈ handlers, x.Sound)
    (ho : ∀ s ∈ orelse, s.Sound) : (guard line grouped body handlers orelse final).Sound := by
  refine ⟨plain_guard (fun s hs => (hb s hs).plain) (fun type body hmem => ?_)
    fun s hs => (ho s hs).plain, True.intro, True.intro⟩
  obtain ⟨htype, hbody⟩ := hh _ hmem
  exact ⟨htype, fun s hs => (hbody s hs).plain⟩

namespace Grammar

/-! ### Patterns -/

namespace PatternInner

/-- What patterns are made of leaves well named tokens behind. -/
structure Sound (p : PatternInner) : Prop where
  strings : Yields p.strings fun _ => True
  pattern : Yields p.pattern fun _ => True

lemma yields_endsCapture : Yields endsCapture fun _ => True := by
  refine (yields_isSymbol _).seq fun _ => (yields_isSymbol _).seq fun _ => ?_
  exact (yields_isSymbol _).seq fun _ => yields_pure True.intro

lemma yields_capture : Yields capture fun _ => True := by
  refine (yields_isSpelled _).seq fun c => ?_
  split
  · exact yields_failure
  · refine yields_identifier.seq fun _ => yields_endsCapture.seq fun c => ?_
    split
    · exact yields_pure True.intro
    · exact yields_failure

lemma yields_numberPattern : Yields numberPattern fun _ => True := by
  refine (yields_accept _).seq fun _ => yields_peek.seq fun kind => ?_
  split
  · refine yields_skip.seq fun _ => (yields_isSymbol _).seq fun _ => ?_
    refine (yields_isSymbol _).seq fun _ => ?_
    split
    · refine yields_skip.seq fun _ => yields_peek.seq fun kind => ?_
      split
      · exact yields_failure
      · exact yields_skip
      · exact yields_failure
    · exact yields_pure True.intro
  · exact yields_failure

lemma yields_isLiteral : Yields isLiteral fun _ => True := by
  refine yields_peek.seq fun kind => ?_
  split <;> exact yields_pure True.intro

section Nested

variable {p : PatternInner} (hp : p.Sound)
include hp

lemma yields_literal : Yields p.literal fun _ => True := by
  refine yields_peek.seq fun kind => ?_
  split
  · exact hp.strings.seq fun _ => yields_pure True.intro
  · exact yields_skip
  · exact yields_skip
  · exact yields_skip
  · exact yields_numberPattern

omit hp in
lemma yields_members : Yields p.members fun _ => True :=
  (yields_chain (yields_identifier.guarded _ (yields_accept _)) p.bound).trivial

lemma yields_item : Yields p.item fun _ => True := by
  refine (yields_accept _).seq fun c => ?_
  split
  · refine (yields_isSpelled _).seq fun c => ?_
    split
    · exact yields_skip
    · exact yields_capture
  · exact hp.pattern

lemma yields_itemsUntil (close : Symbol) : Yields (p.itemsUntil close) fun _ => True := by
  have hitem := yields_item hp
  refine (yields_accept _).seq fun c => ?_
  split
  · exact yields_pure True.intro
  · refine hitem.seq fun _ => ?_
    refine (yields_commaTail hitem p.bound (yields_isSymbol _)).seq fun _ => ?_
    exact yields_symbol _

lemma yields_parenthesized : Yields p.parenthesized fun _ => True := by
  have hitem := yields_item hp
  refine (yields_accept _).seq fun c => ?_
  split
  · exact yields_pure True.intro
  · refine (yields_isSymbol _).seq fun _ => hitem.seq fun _ => ?_
    refine (yields_commaTail hitem p.bound (yields_isSymbol _)).seq fun _ => ?_
    refine (yields_symbol _).seq fun _ => ?_
    split
    · exact yields_failure
    · exact yields_pure True.intro

lemma yields_mappingEntry : Yields p.mappingEntry fun _ => True := by
  have hvalue : Yields (do
      symbol .colon
      p.pattern
      return false) fun _ => True :=
    (yields_symbol _).seq fun _ => hp.pattern.seq fun _ => yields_pure True.intro
  refine (yields_accept _).seq fun c => ?_
  split
  · exact yields_capture.seq fun _ => yields_pure True.intro
  · refine yields_isLiteral.seq fun c => ?_
    dsimp only
    split
    · exact (yields_literal hp).seq fun _ => hvalue
    · refine yields_identifier.seq fun _ => yields_members.seq fun ms => ?_
      split
      · exact (yields_failure (P := fun _ => True)).seq fun _ => hvalue
      · exact hvalue

lemma yields_mapping (bound : Nat) : Yields (p.mapping bound) fun _ => True := by
  induction bound with
  | zero => exact yields_failure
  | succ bound ih =>
      refine (yields_accept _).seq fun c => ?_
      split
      · exact yields_pure True.intro
      · refine (yields_mappingEntry hp).seq fun _ => (yields_accept _).seq fun c => ?_
        split
        · split
          · exact yields_symbol _
          · exact ih
        · exact yields_symbol _

lemma yields_classArguments (bound : Nat) (named : Bool) :
    Yields (p.classArguments bound named) fun _ => True := by
  induction bound generalizing named with
  | zero => exact yields_failure
  | succ bound ih =>
      have hrest : ∀ isNamed : Bool, Yields (do
          if ← accept .comma then p.classArguments bound isNamed else symbol .rparen)
          fun _ => True := by
        intro isNamed
        refine (yields_accept _).seq fun c => ?_
        split
        · exact ih isNamed
        · exact yields_symbol _
      refine (yields_accept _).seq fun c => ?_
      split
      · exact yields_pure True.intro
      · refine (yields_nameBefore? _).seq fun o => ?_
        dsimp only
        split
        · refine yields_skip.seq fun _ => yields_skip.seq fun _ => ?_
          exact hp.pattern.seq fun _ => hrest _
        · split
          · exact (yields_failure (P := fun _ => True)).seq fun _ => hrest _
          · exact hp.pattern.seq fun _ => hrest _

lemma yields_closedPattern : Yields p.closedPattern fun _ => True := by
  refine yields_isLiteral.seq fun c => ?_
  split
  · exact yields_literal hp
  · refine (yields_isSpelled _).seq fun c => ?_
    split
    · exact yields_skip
    · refine yields_peek.seq fun kind => ?_
      split
      · refine yields_skip.seq fun _ => yields_members.seq fun ms => ?_
        refine (yields_accept _).seq fun c => ?_
        split
        · exact yields_classArguments hp _ _
        · refine (yields_isSymbol _).seq fun c => ?_
          split
          · exact yields_failure
          · split
            · refine yields_endsCapture.seq fun c => ?_
              split
              · exact yields_pure True.intro
              · exact yields_failure
            · exact yields_pure True.intro
      · exact yields_skip.seq fun _ => yields_parenthesized hp
      · exact yields_skip.seq fun _ => yields_itemsUntil hp _
      · exact yields_skip.seq fun _ => yields_mapping hp _
      · exact yields_failure

lemma yields_alternatives : Yields p.alternatives fun _ => True := by
  have hclosed := yields_closedPattern hp
  have hstep : Yields (do
      if ← accept .pipe then
        p.closedPattern
        return some ()
      else return none : Reader (Option Unit)) fun o => ∀ u ∈ o, True := by
    refine (yields_accept _).seq fun c => ?_
    split
    · exact hclosed.seq fun _ => yields_pure (by simp)
    · exact yields_pure (by simp)
  refine hclosed.seq fun _ => (yields_chain hstep p.bound).seq fun _ => ?_
  refine (yields_acceptWord _).seq fun c => ?_
  split
  · exact yields_capture
  · exact yields_pure True.intro

end Nested

end PatternInner

lemma yields_patternAt (bound : Nat) {strings : Reader Expr}
    (hs : Yields strings fun _ => True) (depth : Nat) :
    Yields (patternAt bound strings depth) fun _ => True := by
  induction depth with
  | zero => exact yields_failure
  | succ depth ih =>
      exact PatternInner.yields_alternatives
        (p := ⟨bound, strings, patternAt bound strings depth⟩) ⟨hs, ih⟩

lemma yields_casePatterns {g : Inner} (hg : g.Sound) : Yields (casePatterns g) fun _ => True := by
  have hstrings : Yields (g.strings g.levels) fun _ => True :=
    (Inner.yields_strings hg (Inner.sound_levels hg)).trivial
  have hsound : PatternInner.Sound
      ⟨g.bound, g.strings g.levels, patternAt g.bound (g.strings g.levels) g.bound⟩ :=
    ⟨hstrings, yields_patternAt _ hstrings _⟩
  have hitem := PatternInner.yields_item hsound
  have hend : Yields (do return (← isSymbol .colon) || (← isWord .ifKw)) fun _ => True :=
    (yields_isSymbol _).seq fun _ => (yields_isWord _).seq fun _ => yields_pure True.intro
  refine (yields_isSymbol _).seq fun isStarred => hitem.seq fun _ => ?_
  refine (yields_commaTail hitem g.bound hend).seq fun p => ?_
  dsimp only
  split
  · exact yields_failure
  · exact yields_pure True.intro

/-! ### Statements on one line -/

namespace Blocks

/-- The statements are sound. -/
abbrev AllSound (ss : List Stmt) : Prop :=
  ∀ s ∈ ss, s.Sound

/-- Nested expressions are plain, and the statements of nested blocks are sound. -/
structure Sound (b : Blocks) : Prop where
  inner : b.inner.Sound
  block : Yields b.block AllSound

lemma yields_atStatementEnd : Yields atStatementEnd fun _ => True :=
  (yields_isNext _).seq fun _ => (yields_isSymbol _).seq fun _ => yields_pure True.intro

lemma yields_secondName : Yields secondName fun _ => True := by
  refine (yields_acceptWord _).seq fun c => ?_
  split
  · exact yields_identifier.seq fun _ => yields_pure True.intro
  · exact yields_pure True.intro

section Nested

variable {b : Blocks} (hb : b.Sound)
include hb

lemma yields_starExpressions : Yields b.starExpressions Expr.Plain :=
  Inner.yields_starExpressions hb.inner (Inner.sound_levels hb.inner)

lemma yields_rightSide : Yields b.rightSide Expr.Plain := by
  refine (yields_isWord _).seq fun c => ?_
  split
  · exact Inner.yields_yieldExpr hb.inner (Inner.sound_levels hb.inner)
  · exact yields_starExpressions hb

lemma yields_assignChain (bound : Nat) (first : Expr) :
    Yields (b.assignChain bound first) fun _ => True := by
  induction bound generalizing first with
  | zero => exact yields_failure
  | succ bound ih =>
      refine (yields_accept _).seq fun c => ?_
      split
      · split
        · refine (yields_isWord _).seq fun isYield => (yields_rightSide hb).seq fun next => ?_
          split
          · exact yields_pure True.intro
          · exact (ih next).seq fun _ => yields_pure True.intro
        · exact yields_failure
      · exact yields_pure True.intro

lemma yields_expressionStatement (line : Nat) :
    Yields (b.expressionStatement line) Stmt.Sound := by
  have hright := yields_rightSide hb
  refine (yields_isWord _).seq fun isYield => hright.seq fun first => ?_
  split
  · exact yields_pure (Stmt.sound_simple _)
  · refine yields_peek.seq fun kind => ?_
    split
    · split
      · refine yields_skip.seq fun _ => hb.inner.seq fun _ => (yields_accept _).seq fun c => ?_
        split
        · exact hright.seq fun _ => yields_pure (Stmt.sound_annotated _ _)
        · exact yields_pure (Stmt.sound_annotated _ _)
      · exact yields_failure
    · exact (yields_assignChain hb _ _).seq fun _ => yields_pure (Stmt.sound_assign _ _)
    · split
      · split
        · refine yields_skip.seq fun _ => hright.seq fun _ => ?_
          exact yields_pure (Stmt.sound_simple _)
        · exact yields_failure
      · exact yields_pure (Stmt.sound_simple _)
    · exact yields_pure (Stmt.sound_simple _)

lemma yields_deleteTargets : Yields b.deleteTargets fun _ => True := by
  have htarget : Yields (do
      let e ← b.inner.levels.primary
      if e.isDeletable then return () else failure) fun _ => True := by
    refine (Inner.sound_levels hb.inner).primary.seq fun e => ?_
    split
    · exact yields_pure True.intro
    · exact yields_failure
  refine htarget.seq fun _ => ?_
  refine (yields_commaTail htarget b.bound yields_atStatementEnd).seq fun _ => ?_
  exact yields_pure True.intro

omit hb in
lemma yields_dottedName : Yields b.dottedName fun _ => True := by
  refine yields_identifier.seq fun _ => ?_
  refine (yields_chain (yields_identifier.guarded _ (yields_accept _)) b.bound).seq fun _ => ?_
  exact yields_pure True.intro

omit hb in
lemma yields_leadingDots : Yields b.leadingDots fun _ => True := by
  have hstep : Yields (do
      if (← isSymbol .dot) || (← isSymbol .ellipsis) then
        skip
        return some ()
      else return none : Reader (Option Unit)) fun o => ∀ u ∈ o, True := by
    refine (yields_isSymbol _).seq fun _ => (yields_isSymbol _).seq fun _ => ?_
    split
    · exact yields_skip.seq fun _ => yields_pure (by simp)
    · exact yields_pure (by simp)
  exact (yields_chain hstep b.bound).seq fun _ => yields_pure True.intro

omit hb in
lemma yields_importedNames : Yields b.importedNames fun _ => True := by
  have hitem : Yields (do
      let _ ← identifier
      secondName) fun _ => True :=
    yields_identifier.seq fun _ => yields_secondName
  refine (yields_accept _).seq fun c => ?_
  split
  · exact yields_pure True.intro
  · refine (yields_accept _).seq fun c => ?_
    split
    · refine hitem.seq fun _ => ?_
      refine (yields_commaTail hitem b.bound (yields_isSymbol _)).seq fun _ => ?_
      exact yields_symbol _
    · exact (yields_commaSeparated hitem b.bound).seq fun _ => yields_pure True.intro

lemma yields_simpleStatement : Yields b.simpleStatement Stmt.Sound := by
  have hexpr : Yields b.expression Expr.Plain := hb.inner
  have hsimple : ∀ (r : Reader Unit), Yields r (fun _ => True) → ∀ kind line,
      Yields (do r; return Stmt.simple kind line) Stmt.Sound :=
    fun r hr kind line => hr.seq fun _ => yields_pure (Stmt.sound_simple kind)
  refine yields_line.seq fun line => yields_peek.seq fun kind => ?_
  split
  · exact hsimple _ yields_skip _ _
  · exact hsimple _ yields_skip _ _
  · exact hsimple _ yields_skip _ _
  · -- a `return`
    refine yields_skip.seq fun _ => yields_atStatementEnd.seq fun c => ?_
    split
    · exact yields_pure (Stmt.sound_ret (by simp))
    · refine (yields_starExpressions hb).bind fun e he => yields_pure ?_
      exact Stmt.sound_ret (by simpa using he)
  · -- a `raise`
    refine yields_skip.seq fun _ => yields_atStatementEnd.seq fun c => ?_
    split
    · exact yields_pure (Stmt.sound_raise (by simp))
    · refine hexpr.bind fun exc hexc => (yields_acceptWord _).seq fun c => ?_
      split
      · refine hexpr.seq fun cause => yields_pure ?_
        exact Stmt.sound_raise (by simpa using hexc)
      · exact yields_pure (Stmt.sound_raise (by simpa using hexc))
  · refine yields_skip.seq fun _ => (yields_commaSeparated yields_identifier _).seq fun _ => ?_
    exact yields_pure (Stmt.sound_simple _)
  · refine yields_skip.seq fun _ => (yields_commaSeparated yields_identifier _).seq fun _ => ?_
    exact yields_pure (Stmt.sound_simple _)
  · refine yields_skip.seq fun _ => (yields_deleteTargets hb).seq fun _ => ?_
    exact yields_pure (Stmt.sound_simple _)
  · refine yields_skip.seq fun _ => hexpr.seq fun _ => (yields_accept _).seq fun c => ?_
    dsimp only
    split
    · exact hexpr.seq fun _ => yields_pure (Stmt.sound_simple _)
    · exact yields_pure (Stmt.sound_simple _)
  · have hname : Yields (do b.dottedName; secondName) fun _ => True :=
      yields_dottedName.seq fun _ => yields_secondName
    refine yields_skip.seq fun _ => (yields_commaSeparated hname _).seq fun _ => ?_
    exact yields_pure (Stmt.sound_simple _)
  · have hnames : Yields (do
        word .importKw
        b.importedNames
        return Stmt.simple .importFrom line) Stmt.Sound :=
      (yields_word _).seq fun _ => yields_importedNames.seq fun _ =>
        yields_pure (Stmt.sound_simple _)
    refine yields_skip.seq fun _ => yields_leadingDots.seq fun dots => ?_
    refine (yields_isWord _).seq fun c => ?_
    dsimp only
    split
    · exact yields_dottedName.seq fun _ => hnames
    · exact hnames
  · exact yields_expressionStatement hb line

lemma yields_simpleLine : Yields b.simpleLine AllSound := by
  have hsimple := yields_simpleStatement hb
  refine hsimple.bind fun first hfirst => ?_
  refine (yields_chain (P := Stmt.Sound) ?_ b.bound).bind fun rest hrest => ?_
  · refine (yields_accept _).seq fun c => ?_
    split
    · refine (yields_isNext _).seq fun c => ?_
      split
      · exact yields_pure (by simp)
      · exact hsimple.bind fun s hs => yields_pure (by simpa using hs)
    · exact yields_pure (by simp)
  · refine (yields_token _).seq fun _ => yields_pure ?_
    exact List.forall_mem_cons.mpr ⟨hfirst, hrest⟩

/-! ### Statements with blocks -/

lemma yields_suite : Yields b.suite AllSound :=
  (yields_symbol _).seq fun _ => hb.block

lemma yields_elseSuite : Yields b.elseSuite AllSound := by
  refine (yields_acceptWord _).seq fun c => ?_
  split
  · exact yields_suite hb
  · exact yields_pure (List.forall_mem_nil _)

lemma yields_conditionalRest (bound : Nat) : Yields (b.conditionalRest bound) AllSound := by
  induction bound with
  | zero => exact yields_failure
  | succ bound ih =>
      refine yields_line.seq fun line => (yields_acceptWord _).seq fun c => ?_
      split
      · refine (Inner.yields_named hb.inner).bind fun test htest => ?_
        refine (yields_suite hb).bind fun body hbody => ih.bind fun orelse horelse => ?_
        apply yields_pure
        rw [AllSound, List.forall_mem_singleton]
        exact Stmt.sound_ifElse htest hbody horelse
      · exact yields_elseSuite hb

lemma yields_handler (grouped : Bool) : Yields (b.handler grouped) Handler.Sound := by
  refine (yields_isSymbol _).seq fun c => ?_
  split
  · split
    · exact yields_failure
    · exact (yields_suite hb).bind fun body hbody => yields_pure ⟨by simp, hbody⟩
  · refine hb.inner.bind fun type htype => yields_secondName.seq fun _ => ?_
    refine (yields_suite hb).bind fun body hbody => yields_pure ⟨?_, hbody⟩
    simpa using htype

lemma yields_handlers (grouped : Bool) :
    Yields (b.handlers grouped) fun hs => ∀ x ∈ hs, x.Sound := by
  refine yields_chain ?_ b.bound
  refine (yields_acceptWord _).seq fun c => ?_
  split
  · refine (yields_accept _).seq fun c => ?_
    split
    · exact (yields_handler hb grouped).bind fun x hx => yields_pure (by simpa using hx)
    · exact yields_failure
  · exact yields_pure (by simp)

omit hb in
lemma yields_isGrouped : Yields isGrouped fun _ => True := by
  intro ts hts a rest h
  rw [isGrouped.eq_def] at h
  split at h
  · cases h
    exact ⟨True.intro, hts⟩
  · cases h
    exact ⟨True.intro, hts⟩

lemma yields_guarded (line : Nat) : Yields (b.guarded line) Stmt.Sound := by
  refine (yields_suite hb).bind fun body hbody => yields_isGrouped.seq fun grouped => ?_
  refine (yields_handlers hb grouped).bind fun hs hhs => ?_
  have hfinal : ∀ orelse : List Stmt, AllSound orelse → Yields (do
      let isFinal ← isWord .finallyKw
      let final ← do
        if ← acceptWord .finallyKw then b.suite else pure []
      if hs.isEmpty && !isFinal then failure
      else return .guard line grouped body hs orelse final) Stmt.Sound := by
    intro orelse horelse
    have hend : ∀ (isFinal : Bool) (final : List Stmt), Yields (do
        if hs.isEmpty && !isFinal then failure
        else return Stmt.guard line grouped body hs orelse final) Stmt.Sound := by
      intro isFinal final
      split
      · exact yields_failure
      · exact yields_pure (Stmt.sound_guard hbody hhs horelse)
    refine (yields_isWord _).seq fun isFinal => (yields_acceptWord _).seq fun c => ?_
    dsimp only
    split
    · exact (yields_suite hb).seq fun final => hend isFinal final
    · exact hend isFinal []
  dsimp only
  split
  · exact hfinal [] (List.forall_mem_nil _)
  · exact (yields_elseSuite hb).bind hfinal

lemma yields_forLoop (kind : BlockKind) (line : Nat) : Yields (b.forLoop kind line) Stmt.Sound := by
  have hprimary := (Inner.sound_levels hb.inner).primary
  refine (Inner.yields_loopTargets hprimary).seq fun _ => (yields_word _).seq fun _ => ?_
  refine (yields_starExpressions hb).seq fun _ => (yields_suite hb).seq fun body => ?_
  exact (yields_elseSuite hb).seq fun _ => yields_pure (Stmt.sound_block _ _)

lemma yields_withItem : Yields b.withItem fun _ => True := by
  refine hb.inner.seq fun _ => (yields_acceptWord _).seq fun c => ?_
  split
  · refine (yields_accept _).seq fun _ => ?_
    refine (Inner.sound_levels hb.inner).primary.seq fun target => ?_
    split
    · exact yields_pure True.intro
    · exact yields_failure
  · exact yields_pure True.intro

lemma yields_withStatement (kind : BlockKind) (line : Nat) :
    Yields (b.withStatement kind line) Stmt.Sound := by
  have hitem := yields_withItem hb
  have hbracketed : Yields b.withBracketed fun _ => True := by
    refine (yields_symbol _).seq fun _ => hitem.seq fun _ => ?_
    refine (yields_commaTail hitem b.bound (yields_isSymbol _)).seq fun _ => ?_
    exact (yields_symbol _).seq fun _ => yields_symbol _
  have hitems : Yields b.withItems fun _ => True :=
    (yields_commaSeparated hitem b.bound).seq fun _ => yields_symbol _
  refine (hbracketed.orElse hitems).seq fun _ => hb.block.seq fun body => ?_
  exact yields_pure (Stmt.sound_block _ _)

lemma yields_functionDef (line : Nat) (isAsync : Bool) :
    Yields (b.functionDef line isAsync) Stmt.Sound := by
  have hstar : Yields (do
      if ← accept .colon then
        let _ ← b.inner.starExpression b.inner.levels) fun _ => True := by
    refine (yields_accept _).seq fun c => ?_
    split
    · refine (Inner.yields_starExpression hb.inner (Inner.sound_levels hb.inner)).seq fun _ => ?_
      exact yields_pure True.intro
    · exact yields_pure True.intro
  refine yields_identifier.bind fun name hname => (yields_symbol _).seq fun _ => ?_
  refine (Inner.yields_parameters hb.inner true hstar .rparen).bind fun params hparams => ?_
  have hbody : Yields (do return .function line isAsync name params (← b.suite)) Stmt.Sound :=
    (yields_suite hb).bind fun body hbody => yields_pure (Stmt.sound_function hname hparams hbody)
  refine (yields_symbol _).seq fun _ => (yields_accept _).seq fun c => ?_
  dsimp only
  split
  · exact hb.inner.seq fun _ => hbody
  · exact hbody

lemma yields_classDef (line : Nat) : Yields (b.classDef line) Stmt.Sound := by
  refine yields_identifier.bind fun name hname => (yields_accept _).seq fun c => ?_
  have hbody : Yields (do return .classDef line name (← b.suite)) Stmt.Sound :=
    (yields_suite hb).bind fun body hbody => yields_pure (Stmt.sound_classDef hname hbody)
  dsimp only
  split
  · exact (Inner.yields_arguments hb.inner).seq fun _ => hbody
  · exact hbody

lemma yields_decorated : Yields b.decorated Stmt.Sound := by
  refine yields_line.seq fun line => (yields_acceptWord _).seq fun c => ?_
  split
  · exact yields_functionDef hb _ _
  · refine (yields_acceptWord _).seq fun c => ?_
    split
    · exact yields_classDef hb _
    · exact (yields_word _).seq fun _ => (yields_word _).seq fun _ => yields_functionDef hb _ _

lemma yields_decorators : Yields b.decorators fun _ => True := by
  have hstep : Yields (do
      if ← accept .at then
        let _ ← b.inner.named
        token .newline
        return some ()
      else return none : Reader (Option Unit)) fun o => ∀ u ∈ o, True := by
    refine (yields_accept _).seq fun c => ?_
    split
    · refine (Inner.yields_named hb.inner).seq fun _ => (yields_token _).seq fun _ => ?_
      exact yields_pure (by simp)
    · exact yields_pure (by simp)
  exact (yields_chain hstep b.bound).trivial

lemma yields_subject : Yields b.subject fun _ => True := by
  have hitem := Inner.yields_displayItem hb.inner (Inner.sound_levels hb.inner)
  refine (yields_isSymbol _).seq fun isStarred => hitem.seq fun _ => ?_
  refine (yields_commaTail hitem b.bound (yields_isSymbol _)).seq fun p => ?_
  dsimp only
  split
  · exact yields_failure
  · exact yields_pure True.intro

lemma yields_caseBlock : Yields b.caseBlock AllSound := by
  refine (yields_isSpelled _).seq fun c => ?_
  split
  · refine yields_skip.seq fun _ => (yields_casePatterns hb.inner).seq fun _ => ?_
    refine (yields_acceptWord _).seq fun c => ?_
    dsimp only
    split
    · exact (Inner.yields_named hb.inner).seq fun _ => yields_suite hb
    · exact yields_suite hb
  · exact yields_failure

lemma yields_matchStatement (line : Nat) : Yields (b.matchStatement line) Stmt.Sound := by
  have hcase := yields_caseBlock hb
  have hstep : Yields (do
      if ← acceptToken .dedent then return none else return some (← b.caseBlock) :
        Reader (Option (List Stmt))) fun o => ∀ ss ∈ o, True := by
    refine (yields_acceptToken _).seq fun c => ?_
    split
    · exact yields_pure (by simp)
    · exact hcase.seq fun _ => yields_pure (by simp)
  refine (yields_isSpelled _).seq fun c => ?_
  split
  · refine yields_skip.seq fun _ => (yields_subject hb).seq fun _ => ?_
    refine (yields_symbol _).seq fun _ => (yields_token _).seq fun _ => ?_
    refine (yields_token _).seq fun _ => hcase.seq fun first => ?_
    exact (yields_chain hstep b.bound).seq fun _ => yields_pure (Stmt.sound_block _ _)
  · exact yields_failure

/-- A single statement is a line of its own. -/
lemma yields_statement : Yields b.statement AllSound := by
  have hone : ∀ r : Reader Stmt, Yields r Stmt.Sound → Yields (do return [← r]) AllSound :=
    fun r hr => hr.bind fun s hs => yields_pure (List.forall_mem_singleton.mpr hs)
  refine yields_line.seq fun line => yields_peek.seq fun kind => ?_
  split
  · refine yields_skip.seq fun _ => (Inner.yields_named hb.inner).bind fun test htest => ?_
    refine (yields_suite hb).bind fun body hbody => ?_
    refine (yields_conditionalRest hb _).bind fun orelse horelse => yields_pure ?_
    exact List.forall_mem_singleton.mpr (Stmt.sound_ifElse htest hbody horelse)
  · refine yields_skip.seq fun _ => (Inner.yields_named hb.inner).seq fun _ => ?_
    refine (yields_suite hb).seq fun body => (yields_elseSuite hb).seq fun _ => yields_pure ?_
    exact List.forall_mem_singleton.mpr (Stmt.sound_block _ _)
  · exact yields_skip.seq fun _ => hone _ (yields_forLoop hb _ _)
  · exact yields_skip.seq fun _ => hone _ (yields_withStatement hb _ _)
  · exact yields_skip.seq fun _ => hone _ (yields_guarded hb _)
  · exact yields_skip.seq fun _ => hone _ (yields_functionDef hb _ _)
  · exact yields_skip.seq fun _ => hone _ (yields_classDef hb _)
  · refine yields_skip.seq fun _ => (yields_acceptWord _).seq fun c => ?_
    split
    · exact hone _ (yields_functionDef hb _ _)
    · refine (yields_acceptWord _).seq fun c => ?_
      split
      · exact hone _ (yields_forLoop hb _ _)
      · exact (yields_word _).seq fun _ => hone _ (yields_withStatement hb _ _)
  · exact (yields_decorators hb).seq fun _ => hone _ (yields_decorated hb)
  · exact (hone _ (yields_matchStatement hb _)).orElse (yields_simpleLine hb)
  · exact yields_simpleLine hb

lemma yields_statementsUntil (ending : Token.Kind) :
    Yields (b.statementsUntil ending) AllSound := by
  refine (yields_chain (P := AllSound) ?_ b.bound).bind fun lines hlines => ?_
  · refine (yields_acceptToken _).seq fun c => ?_
    split
    · exact yields_pure (by simp)
    · exact (yields_statement hb).bind fun ss hss => yields_pure (by simpa using hss)
  · apply yields_pure
    intro s hs
    obtain ⟨ss, hss, hs⟩ := List.mem_flatten.mp hs
    exact hlines ss hss s hs

lemma yields_blockBody : Yields b.blockBody AllSound := by
  refine (yields_acceptToken _).seq fun c => ?_
  split
  · exact (yields_token _).seq fun _ => yields_statementsUntil hb _
  · exact yields_simpleLine hb

end Nested

end Blocks

/-- Every statement of a block is sound, however deep blocks nest. -/
lemma yields_blockAt {inner : Inner} (hi : inner.Sound) (depth : Nat) :
    Yields (blockAt inner depth) Blocks.AllSound := by
  induction depth with
  | zero => exact yields_failure
  | succ depth ih =>
      exact Blocks.yields_blockBody (b := ⟨inner, blockAt inner depth⟩) ⟨hi, ih⟩

end Grammar

/-- A module that is read consists of the statements of its text. -/
lemma statements?_of_readModule {interp : Interpreter} {source : String} {stmts : List Stmt}
    (h : readModule interp source = .ok stmts) :
    statements? interp.charNamed source.toList = some stmts := by
  rw [readModule] at h
  split at h
  · cases h
  · split at h
    · cases h
    · split at h
      · next hstmts =>
        cases h
        exact hstmts
      · cases h

/-- **Every statement of a module that is read is sound.** -/
lemma sound_readModule {interp : Interpreter} {source : String} {stmts : List Stmt}
    (h : readModule interp source = .ok stmts) : ∀ s ∈ stmts, s.Sound := by
  have hstmts := statements?_of_readModule h
  obtain ⟨ts, hts, hstmts⟩ := Option.bind_eq_some_iff.mp hstmts
  obtain ⟨⟨stmts', rest⟩, hread, rfl⟩ := Option.map_eq_some_iff.mp hstmts
  have hinner := Grammar.Inner.sound_ofLength (source.toList.length + 1) interp.charNamed
  exact (Grammar.Blocks.yields_statementsUntil
    ⟨hinner, Grammar.yields_blockAt hinner _⟩ .stop ts (wellNamed_tokens? hts) _ _ hread).1

/-! ### Functions -/

/-- A definition stands at module level, or in a class at module level. -/
lemma mem_definitions {module : List Stmt} {owner : Option String} {s : Stmt}
    (h : (owner, s) ∈ definitions module) :
    (owner = none ∧ s ∈ module) ∨
      ∃ line name body, owner = some name ∧ Stmt.classDef line name body ∈ module ∧ s ∈ body := by
  obtain ⟨t, ht, h⟩ := List.mem_flatMap.mp h
  cases t with
  | function line isAsync name params body =>
      rw [List.mem_singleton] at h
      cases h
      exact .inl ⟨rfl, ht⟩
  | classDef line name body =>
      obtain ⟨u, hu, h⟩ := List.mem_flatMap.mp h
      split at h
      · rw [List.mem_singleton] at h
        cases h
        exact .inr ⟨line, name, body, rfl, ht, hu⟩
      · cases h
  | _ => cases h

/-- A definition in a module that is read is as it should be, and so is the name of its
class. -/
lemma defines_of_mem_definitions {interp : Interpreter} {source : String} {module : List Stmt}
    (hread : readModule interp source = .ok module) {owner : Option String} {s : Stmt}
    (h : (owner, s) ∈ definitions module) : s.Defines ∧ ∀ c ∈ owner, IsName c := by
  have hsound := sound_readModule hread
  rcases mem_definitions h with ⟨rfl, hmem⟩ | ⟨line, c, members, rfl, hclass, hmem⟩
  · exact ⟨(hsound s hmem).defines, by simp⟩
  · obtain ⟨howner, hmembers⟩ := (hsound _ hclass).owns
    exact ⟨hmembers s hmem, by simpa using howner⟩

lemma mem_of_mem_withoutReceiver {names : List String} {p : String}
    (h : p ∈ withoutReceiver names) : p ∈ names := by
  rw [withoutReceiver.eq_def] at h
  split at h
  · exact List.mem_cons_of_mem _ h
  · exact List.mem_cons_of_mem _ h
  · exact h

/-- Plain parameters have unbroken names. -/
lemma unbroken_parameterNames {params : Params} (h : params.Plain) (isMethod : Bool) :
    ∀ p ∈ parameterNames params isMethod, Unbroken p.toList := by
  obtain ⟨positional, regular, rest, named, extra⟩ := params
  obtain ⟨hparams, hnames⟩ := h
  have hpositions : ∀ p ∈ (Params.mk positional regular rest named extra).positions,
      Unbroken p.toList := by
    intro p hp
    obtain ⟨q, hq, rfl⟩ := List.mem_map.mp hp
    exact (hparams q (List.mem_append_left _ hq)).name
  rw [parameterNames, List.forall_mem_append]
  constructor
  · intro p hp
    split at hp
    · exact hpositions p (mem_of_mem_withoutReceiver hp)
    · exact hpositions p hp
  · intro p hp
    rw [Params.others, List.mem_append, List.mem_append] at hp
    rcases hp with (hp | hp) | hp
    · obtain ⟨id, hid, rfl⟩ := Option.map_eq_some_iff.mp (Option.mem_toList.mp hp)
      have hname := hnames id (by simp [hid])
      simp only [String.toList_append, unbroken_append]
      exact ⟨by decide, hname⟩
    · obtain ⟨q, hq, rfl⟩ := List.mem_map.mp hp
      exact (hparams q (List.mem_append_right _ hq)).name
    · obtain ⟨id, hid, rfl⟩ := Option.map_eq_some_iff.mp (Option.mem_toList.mp hp)
      have hname := hnames id (by simp [hid])
      simp only [String.toList_append, unbroken_append]
      exact ⟨by decide, hname⟩

end Source

/-- The name of the function is one, and so is that of its class; its parameters
are unbroken and its body is tame. -/
structure Function.Sound (f : Function) : Prop where
  name : Source.IsName f.name
  qualified : f.isMethod = false ∧ f.qualifiedName = f.name ∨
    f.isMethod = true ∧ ∃ owner, Source.IsName owner ∧ f.qualifiedName = owner ++ "." ++ f.name
  parameters : ∀ p ∈ f.parameters, Unbroken p.toList
  body : ∀ s ∈ f.body, s.Tame

/-- **Every function of a module that is read is sound**, whatever is selected. -/
theorem sound_functions {interp : Interpreter} {source : String} {stmts : List Source.Stmt}
    (h : Source.readModule interp source = .ok stmts) (sel : Source.Selection) :
    ∀ f ∈ Source.functions sel stmts, f.Sound := by
  intro f hf
  obtain ⟨owner, line, isAsync, name, params, body, hdef, hfun⟩ := Source.exists_definition hf
  obtain ⟨⟨hname, hparams, hbody⟩, howner⟩ := Source.defines_of_mem_definitions h hdef
  cases hfun
  refine ⟨hname, ?_, Source.unbroken_parameterNames hparams _, ?_⟩
  · cases owner with
    | none => exact .inl ⟨rfl, rfl⟩
    | some c => exact .inr ⟨rfl, c, howner c rfl, rfl⟩
  · rw [Source.trees_eq_map]
    exact List.forall_mem_map.mpr fun s hs => (hbody s hs).tame

end Branchwise
