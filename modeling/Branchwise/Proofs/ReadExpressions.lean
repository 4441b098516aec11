/-
Every expression that is read from tokens is plain: the identifiers in it are those
of the tokens, also where it stands in a replacement field.

The readers are taken from the tightest level up. Each is sound if the reader of
nested expressions is, and so the recursion on the depth of nesting closes at the
end.

* `Sound`, `Levels.Sound`: nested expressions and the levels of binding are plain.
* `delivers_ofQuotations`: so are formatted texts, whose fields are read from tokens of
  their own.
* `yields_parameters`: so are the names and the defaults of parameters.
* `yields_primaryWith`, …, `yields_expressionWith`: the levels.
* `yields_expressionAt`: expressions of any depth.
-/
import Branchwise.Proofs.PlainExpressions
import Branchwise.Proofs.ReaderLogic

namespace Branchwise.Source.Grammar

lemma yields_noItem : Yields noItem fun _ => True :=
  yields_peek.seq fun _ => yields_pure True.intro

/-! ### Operators -/

lemma yields_leftChain {ops : Token.Kind → Option BinaryOp} {operand : Reader Expr}
    (h : Yields operand Expr.Plain) (bound : Nat) {left : Expr} (hl : left.Plain) :
    Yields (leftChain ops operand bound left) Expr.Plain := by
  induction bound generalizing left with
  | zero => exact yields_failure
  | succ bound ih =>
      refine yields_peek.seq fun kind => ?_
      split
      · exact yields_skip.seq fun _ => h.bind fun right hr => ih (Expr.plain_binary hl hr)
      · exact yields_pure hl

lemma yields_compareOp? : Yields compareOp? fun _ => True := by
  refine yields_peek.seq fun kind => ?_
  have htake : ∀ op : CompareOp, Yields (do skip; return some op) fun _ => True :=
    fun op => yields_skip.seq fun _ => yields_pure True.intro
  split
  · exact htake _
  · exact htake _
  · exact htake _
  · exact htake _
  · exact htake _
  · exact htake _
  · exact htake _
  · exact yields_skip.seq fun _ => (yields_word _).seq fun _ => yields_pure True.intro
  · refine yields_skip.seq fun _ => (yields_acceptWord _).seq fun c => ?_
    split
    · exact yields_pure True.intro
    · exact yields_pure True.intro
  · exact yields_pure True.intro

lemma plain_joinBoolean {op : BoolOp} {first : Expr} (hf : first.Plain) {rest : List Expr}
    (hr : ∀ e ∈ rest, e.Plain) : (joinBoolean op first rest).Plain := by
  rw [joinBoolean.eq_def]
  split
  · exact hf
  · refine Expr.plain_boolean ?_
    rw [List.forall_mem_cons]
    exact ⟨hf, hr⟩

lemma yields_quotations (bound : Nat) : Yields (quotations bound) fun _ => True := by
  refine Yields.trivial (yields_chain (P := fun _ => True) ?_ bound)
  refine yields_peek.seq fun kind => ?_
  split
  · exact yields_skip.seq fun _ => yields_pure (by simp)
  · exact yields_pure (by simp)

namespace Inner

/-- The expressions nested in the forms that are read are plain. -/
def Sound (g : Inner) : Prop :=
  Yields g.expression Expr.Plain

/-- The expressions of the levels are plain. -/
structure Levels.Sound (l : Levels) : Prop where
  primary : Yields l.primary Expr.Plain
  bitOr : Yields l.bitOr Expr.Plain
  disjunction : Yields l.disjunction Expr.Plain

/-- What was read of a parameter list is plain. -/
structure Signature.Plain (s : Signature) : Prop where
  positional : ∀ p ∈ s.positional, p.Plain
  regular : ∀ p ∈ s.regular, p.Plain
  byName : ∀ p ∈ s.byName, p.Plain
  rest : ∀ id ∈ s.rest, Unbroken id.toList
  extra : ∀ id ∈ s.extra, Unbroken id.toList

/-- The arguments that were read are plain. -/
structure Arguments.Plain (a : Arguments) : Prop where
  args : ∀ e ∈ a.args, e.Plain
  keywords : ∀ k ∈ a.keywords, k.Plain

lemma yields_isClause : Yields isClause fun _ => True :=
  (yields_isWord _).seq fun _ => (yields_isWord _).seq fun _ => yields_pure True.intro

/-! ### Literals -/

section Literals

variable {starExpressions : Reader Expr}

/-- A replacement field is read from tokens of its own, and these are well named too. -/
lemma delivers_fieldExpr (hstar : Yields starExpressions Expr.Plain) (text : List Char) :
    Delivers (fieldExpr starExpressions text) Expr.Plain := by
  rw [fieldExpr]
  refine delivers_bind (fun ts hts => wellNamed_tokens? hts) fun ts hts => ?_
  have hread : Delivers (starExpressions ts) fun p => p.1.Plain :=
    fun p hp => (hstar ts hts p.1 p.2 hp).1
  refine delivers_bind hread fun p hp => ?_
  obtain ⟨e, rest⟩ := p
  dsimp only
  split
  · exact delivers_some hp
  · exact delivers_none

lemma plain_mergeTexts {es : List Expr} (h : ∀ e ∈ es, e.Plain) :
    ∀ e ∈ mergeTexts es, e.Plain := by
  fun_induction mergeTexts es with
  | case1 => exact h
  | case2 marked cs rest marked' ds more hmore ih =>
      have hrest := hmore ▸ ih (List.forall_mem_cons.mp h).2
      rw [List.forall_mem_cons] at hrest ⊢
      exact ⟨Expr.plain_constant _, hrest.2⟩
  | case3 marked cs rest hmore hempty ih => exact ih (List.forall_mem_cons.mp h).2
  | case4 marked cs rest hmore hempty ih =>
      rw [List.forall_mem_cons]
      exact ⟨Expr.plain_constant _, ih (List.forall_mem_cons.mp h).2⟩
  | case5 e rest _ ih =>
      rw [List.forall_mem_cons] at h ⊢
      exact ⟨h.1, ih h.2⟩

-- fields nest in formats, so the three readers of pieces are taken together
mutual

/-- The expressions of a piece are plain if those of its field are. -/
theorem delivers_ofPiece (hstar : Yields starExpressions Expr.Plain) :
    ∀ p : Piece, Delivers (ofPiece starExpressions p) fun es => ∀ e ∈ es, e.Plain
  | .text cs => by
      rw [ofPiece]
      exact delivers_some (by simpa using Expr.plain_constant _)
  | .field text shown conversion format => by
      rw [ofPiece.eq_def]
      refine delivers_bind (delivers_fieldExpr hstar text) fun value hvalue => ?_
      refine delivers_bind (delivers_ofFormat hstar format) fun format' hformat => ?_
      apply delivers_some
      rw [List.forall_mem_append, List.forall_mem_singleton]
      refine ⟨?_, Expr.plain_field hvalue hformat⟩
      -- the text that a field with an equals sign puts in front of its value
      cases shown with
      | none => simp
      | some cs => simpa using Expr.plain_constant _

/-- So is the format of a field. -/
theorem delivers_ofFormat (hstar : Yields starExpressions Expr.Plain) :
    ∀ format : Option (List Piece),
      Delivers (ofFormat starExpressions format) fun o => ∀ e ∈ o, e.Plain
  | none => by
      rw [ofFormat]
      exact delivers_some (by simp)
  | some ps => by
      rw [ofFormat]
      refine delivers_bind (delivers_ofPieces hstar ps) fun parts hparts => delivers_some ?_
      simpa using Expr.plain_joined (plain_mergeTexts hparts)

/-- So are the expressions of several pieces. -/
theorem delivers_ofPieces (hstar : Yields starExpressions Expr.Plain) :
    ∀ ps : List Piece, Delivers (ofPieces starExpressions ps) fun es => ∀ e ∈ es, e.Plain
  | [] => by
      rw [ofPieces]
      exact delivers_some (by simp)
  | p :: ps => by
      rw [ofPieces]
      refine delivers_bind (delivers_ofPiece hstar p) fun front hfront => ?_
      refine delivers_bind (delivers_ofPieces hstar ps) fun rest hrest => delivers_some ?_
      exact List.forall_mem_append.mpr ⟨hfront, hrest⟩

end

variable (hstar : Yields starExpressions Expr.Plain)

include hstar

lemma delivers_quotationParts (g : Inner) (q : Quotation) :
    Delivers (g.quotationParts starExpressions q) fun es => ∀ e ∈ es, e.Plain := by
  rw [quotationParts]
  split
  · exact delivers_bind delivers_any fun ps _ => delivers_ofPieces hstar ps
  · refine delivers_bind delivers_any fun cs _ => delivers_some ?_
    simpa using Expr.plain_constant _

lemma delivers_mapM_quotationParts (g : Inner) (qs : List Quotation) :
    Delivers (qs.mapM (g.quotationParts starExpressions)) fun parts =>
      ∀ e ∈ parts.flatten, e.Plain := by
  induction qs with
  | nil => exact delivers_some (by simp)
  | cons q qs ih =>
      rw [List.mapM_cons]
      refine delivers_bind (delivers_quotationParts hstar g q) fun front hfront => ?_
      refine delivers_bind ih fun rest hrest => delivers_some ?_
      rw [List.flatten_cons, List.forall_mem_append]
      exact ⟨hfront, hrest⟩

/-- What adjacent literals denote is a constant or a formatted text. -/
lemma delivers_ofQuotations (g : Inner) (qs : List Quotation) :
    Delivers (g.ofQuotations starExpressions qs) Expr.Plain := by
  rw [ofQuotations]
  split_ifs
  · exact delivers_none
  · exact delivers_bind delivers_any fun parts _ => delivers_some (Expr.plain_constant _)
  · exact delivers_none
  · refine delivers_bind (delivers_mapM_quotationParts hstar g qs) fun parts hparts => ?_
    exact delivers_some (Expr.plain_joined (plain_mergeTexts hparts))
  · refine delivers_bind delivers_any fun parts _ => ?_
    dsimp only
    split
    · exact delivers_some (Expr.plain_constant _)
    · exact delivers_some (Expr.plain_constant _)

end Literals

section Nested

variable {g : Inner} (hg : g.Sound)
include hg

lemma yields_named : Yields g.named Expr.Plain := by
  refine (yields_nameBefore? _).bind fun o ho => ?_
  split
  · next target =>
    refine yields_skip.seq fun _ => yields_skip.seq fun _ => hg.bind fun e he => yields_pure ?_
    exact Expr.plain_named (ho target rfl).unbroken he
  · exact hg

/-! ### Parameters -/

lemma yields_fallback : Yields g.fallback fun o => ∀ e ∈ o, e.Plain :=
  hg.guarded _ (yields_accept _)

lemma yields_typeHint (annotated : Bool) : Yields (g.typeHint annotated) fun _ => True := by
  rw [typeHint]
  split
  · refine (yields_accept _).seq fun c => ?_
    split
    · exact hg.seq fun _ => yields_pure True.intro
    · exact yields_pure True.intro
  · exact yields_pure True.intro

lemma yields_parameter (annotated : Bool) {starType : Reader Unit}
    (hstar : Yields starType fun _ => True) {s : Signature} (hs : s.Plain) :
    Yields (g.parameter annotated starType s) Signature.Plain := by
  refine yields_peek.seq fun kind => ?_
  split
  · -- the slash: what was regular is by position only
    refine yields_skip.seq fun _ => ?_
    split
    · exact yields_failure
    · exact yields_pure { hs with positional := hs.regular, regular := by simp }
  · -- the star
    refine yields_skip.seq fun _ => ?_
    split
    · exact yields_failure
    · refine (yields_isSymbol _).seq fun c => ?_
      split
      · exact yields_pure { hs with }
      · refine yields_identifier.bind fun id hid => hstar.seq fun _ => yields_pure ?_
        exact { hs with rest := by simpa using hid.unbroken }
  · -- the double star
    refine yields_skip.seq fun _ => ?_
    split
    · exact yields_failure
    · refine yields_identifier.bind fun id hid => ?_
      refine (yields_typeHint hg annotated).seq fun _ => yields_pure ?_
      exact { hs with extra := by simpa using hid.unbroken }
  · refine yields_identifier.bind fun id hid => ?_
    refine (yields_typeHint hg annotated).seq fun _ => ?_
    refine (yields_fallback hg).bind fun value hvalue => ?_
    have hparam : (Param.mk id value).Plain := ⟨hid.unbroken, hvalue⟩
    split
    · split
      · exact yields_failure
      · refine yields_pure { hs with regular := ?_ }
        rw [List.forall_mem_append, List.forall_mem_singleton]
        exact ⟨hs.regular, hparam⟩
    · refine yields_pure { hs with byName := ?_ }
      rw [List.forall_mem_append, List.forall_mem_singleton]
      exact ⟨hs.byName, hparam⟩
    · exact yields_failure

lemma yields_parameterLoop (annotated : Bool) {starType : Reader Unit}
    (hstar : Yields starType fun _ => True) (close : Symbol) (bound : Nat) {s : Signature}
    (hs : s.Plain) :
    Yields (g.parameterLoop annotated starType close bound s) Signature.Plain := by
  induction bound generalizing s with
  | zero => exact yields_failure
  | succ bound ih =>
      refine (yields_isSymbol _).seq fun c => ?_
      split
      · exact yields_pure hs
      · refine (yields_parameter hg annotated hstar hs).bind fun s hs => ?_
        refine (yields_accept _).seq fun c => ?_
        split
        · exact ih hs
        · refine (yields_isSymbol _).seq fun c => ?_
          split
          · exact yields_pure hs
          · exact yields_failure

/-- The names and the defaults of parameters are plain. -/
lemma yields_parameters (annotated : Bool) {starType : Reader Unit}
    (hstar : Yields starType fun _ => True) (close : Symbol) :
    Yields (g.parameters annotated starType close) Params.Plain := by
  have hempty : (⟨[], [], none, [], none, .regular, false, false⟩ : Signature).Plain := by
    constructor <;> simp
  refine (yields_parameterLoop hg annotated hstar close g.bound hempty).bind fun s hs => ?_
  split
  · exact yields_failure
  · refine yields_pure ⟨?_, ?_⟩
    · rw [List.forall_mem_append, List.forall_mem_append]
      exact ⟨⟨hs.positional, hs.regular⟩, hs.byName⟩
    · rw [List.forall_mem_append]
      simp only [Option.mem_toList]
      exact ⟨hs.rest, hs.extra⟩

/-! ### Targets and comprehensions -/

omit hg in
lemma yields_loopTargets {item : Reader Expr} (hi : Yields item Expr.Plain) :
    Yields (g.loopTargets item) Expr.Plain := by
  have htarget : Yields (do if ← accept .star then return .starred (← item) else item)
      Expr.Plain := by
    refine (yields_accept _).seq fun c => ?_
    split
    · exact hi.bind fun e he => yields_pure (Expr.plain_starred he)
    · exact hi
  refine htarget.bind fun first hfirst => ?_
  refine (yields_commaTail htarget g.bound (yields_isWord _)).bind fun p hp => ?_
  have hall : ∀ e ∈ first :: p.1, e.Plain := List.forall_mem_cons.mpr ⟨hfirst, hp⟩
  have hplain : (if p.2 then Expr.tuple (first :: p.1) else first).Plain := by
    split
    · exact Expr.plain_tuple hall
    · exact hfirst
  dsimp only
  generalize (if p.2 = true then Expr.tuple (first :: p.1) else first) = e at hplain ⊢
  split
  · exact yields_pure hplain
  · exact yields_failure

omit hg in
lemma yields_clauses {item disjunction : Reader Expr} (hi : Yields item Expr.Plain)
    (hd : Yields disjunction Expr.Plain) :
    Yields (g.clauses item disjunction) fun cs => ∀ c ∈ cs, c.Plain := by
  refine (yields_chain (P := Clause.Plain) ?_ g.bound).bind fun cs hcs => ?_
  · refine yields_isClause.seq fun c => ?_
    split
    · refine (yields_acceptWord _).seq fun isAsync => (yields_word _).seq fun _ => ?_
      refine (yields_loopTargets hi).bind fun target htarget => (yields_word _).seq fun _ => ?_
      refine hd.bind fun source hsource => ?_
      refine (yields_chain (hd.guarded _ (yields_acceptWord _)) g.bound).bind fun es hes => ?_
      refine yields_pure ?_
      rintro _ ⟨⟩
      exact ⟨htarget, hsource, hes⟩
    · exact yields_pure (by simp)
  · split
    · exact yields_failure
    · exact yields_pure hcs

/-! ### Calls -/

lemma yields_argument {a : Arguments} (ha : a.Plain) :
    Yields (g.argument a) Arguments.Plain := by
  have hargs : ∀ e : Expr, e.Plain → ∀ e' ∈ a.args ++ [e], e'.Plain := by
    intro e he
    rw [List.forall_mem_append, List.forall_mem_singleton]
    exact ⟨ha.args, he⟩
  have hkeywords : ∀ k : Argument, k.Plain → ∀ k' ∈ a.keywords ++ [k], k'.Plain := by
    intro k hk
    rw [List.forall_mem_append, List.forall_mem_singleton]
    exact ⟨ha.keywords, hk⟩
  refine (yields_accept _).seq fun c => ?_
  split
  · split
    · exact yields_failure
    · refine hg.bind fun e he => yields_pure ?_
      exact { ha with args := hargs _ (Expr.plain_starred he) }
  · refine (yields_accept _).seq fun c => ?_
    split
    · refine hg.bind fun e he => yields_pure ?_
      exact { ha with keywords := hkeywords (.spread e) he }
    · refine (yields_nameBefore? _).bind fun o ho => ?_
      split
      · next id =>
        refine yields_skip.seq fun _ => yields_skip.seq fun _ => ?_
        refine hg.bind fun e he => yields_pure ?_
        exact { ha with keywords := hkeywords (.keyword id e) ⟨(ho id rfl).unbroken, he⟩ }
      · split
        · refine (yields_named hg).bind fun e he => yields_pure ?_
          exact { ha with args := hargs e he }
        · exact yields_failure

lemma yields_argumentLoop (bound : Nat) {a : Arguments} (ha : a.Plain) :
    Yields (g.argumentLoop bound a) Arguments.Plain := by
  induction bound generalizing a with
  | zero => exact yields_failure
  | succ bound ih =>
      refine (yields_accept _).seq fun c => ?_
      split
      · refine (yields_isSymbol _).seq fun c => ?_
        split
        · exact yields_pure ha
        · exact (yields_argument hg ha).bind fun a ha => ih ha
      · exact yields_pure ha

omit hg in
lemma plain_noArguments : (⟨[], [], .open⟩ : Arguments).Plain := by
  constructor <;> simp

lemma yields_arguments : Yields g.arguments fun _ => True := by
  refine (yields_accept _).seq fun c => ?_
  split
  · exact yields_pure True.intro
  · refine (yields_argument hg plain_noArguments).bind fun a ha => ?_
    refine (yields_argumentLoop hg g.bound ha).seq fun a => ?_
    exact (yields_symbol _).seq fun _ => yields_pure True.intro

/-- The two kinds of arguments of a call. -/
def PlainCall (p : List Expr × List Argument) : Prop :=
  (∀ e ∈ p.1, e.Plain) ∧ ∀ k ∈ p.2, k.Plain

lemma yields_finish {a : Arguments} (ha : a.Plain) :
    Yields (callArguments.finish g a) PlainCall := by
  refine (yields_argumentLoop hg g.bound ha).bind fun a ha => ?_
  exact (yields_symbol _).seq fun _ => yields_pure ⟨ha.args, ha.keywords⟩

lemma yields_callArguments {item disjunction : Reader Expr} (hi : Yields item Expr.Plain)
    (hd : Yields disjunction Expr.Plain) :
    Yields (g.callArguments item disjunction) PlainCall := by
  refine (yields_accept _).seq fun c => ?_
  split
  · exact yields_pure ⟨by simp, by simp⟩
  · refine (yields_argument hg plain_noArguments).bind fun a ha => ?_
    split
    · exact yields_finish hg ha
    · next first _ hfirst =>
      refine yields_isClause.seq fun c => ?_
      split
      · refine (yields_clauses hi hd).bind fun cs hcs => (yields_symbol _).seq fun _ => ?_
        have hplain : first.Plain := ha.args first (by rw [hfirst]; exact List.mem_cons_self)
        refine yields_pure ⟨?_, by simp⟩
        rw [List.forall_mem_singleton]
        exact Expr.plain_generator hplain hcs
      · exact yields_finish hg ha
    · exact yields_finish hg ha

/-! ### Subscripts -/

lemma yields_sliceBound : Yields g.sliceBound fun o => ∀ e ∈ o, e.Plain := by
  refine yields_peek.seq fun kind => ?_
  split
  · exact hg.bind fun e he => yields_pure (by simpa using he)
  · exact yields_pure (by simp)

lemma yields_sliceTail {lower : Option Expr} (hl : ∀ e ∈ lower, e.Plain) :
    Yields (g.sliceTail lower) Expr.Plain := by
  refine (yields_sliceBound hg).bind fun upper hu => (yields_accept _).seq fun c => ?_
  split
  · exact (yields_sliceBound hg).bind fun step hs => yields_pure (Expr.plain_slice hl hu hs)
  · exact yields_pure (Expr.plain_slice hl hu (by simp))

lemma yields_sliceItem : Yields g.sliceItem Expr.Plain := by
  refine (yields_accept _).seq fun c => ?_
  split
  · exact hg.bind fun e he => yields_pure (Expr.plain_starred he)
  · refine (yields_accept _).seq fun c => ?_
    split
    · exact yields_sliceTail hg (by simp)
    · refine (yields_nameBefore? _).seq fun o => ?_
      split
      · exact yields_named hg
      · refine hg.bind fun e he => (yields_accept _).seq fun c => ?_
        split
        · exact yields_sliceTail hg (by simpa using he)
        · exact yields_pure he

lemma yields_slices : Yields g.slices Expr.Plain := by
  have hitem := yields_sliceItem hg
  refine hitem.bind fun first hfirst => ?_
  refine (yields_commaTail hitem g.bound (yields_isSymbol _)).bind fun p hp => ?_
  have hall : ∀ e ∈ first :: p.1, e.Plain := List.forall_mem_cons.mpr ⟨hfirst, hp⟩
  obtain ⟨rest, comma⟩ := p
  dsimp only
  split
  · exact yields_pure (Expr.plain_tuple hall)
  · exact yields_pure (Expr.plain_tuple hall)
  · exact yields_pure hfirst

end Nested

section Brackets

/-! ### Brackets -/

variable {g : Inner} (hg : g.Sound) {l : Levels} (hl : l.Sound)
include hg hl

lemma yields_displayItem : Yields (g.displayItem l) Expr.Plain := by
  refine (yields_accept _).seq fun c => ?_
  split
  · exact hl.bitOr.bind fun e he => yields_pure (Expr.plain_starred he)
  · exact yields_named hg

lemma yields_starExpression : Yields (g.starExpression l) Expr.Plain := by
  refine (yields_accept _).seq fun c => ?_
  split
  · exact hl.bitOr.bind fun e he => yields_pure (Expr.plain_starred he)
  · exact hg

lemma yields_starExpressions : Yields (g.starExpressions l) Expr.Plain := by
  have hitem := yields_starExpression hg hl
  refine hitem.bind fun first hfirst => ?_
  refine (yields_commaTail hitem g.bound yields_noItem).bind fun p hp => ?_
  dsimp only
  split
  · exact yields_pure (Expr.plain_tuple (List.forall_mem_cons.mpr ⟨hfirst, hp⟩))
  · exact yields_pure hfirst

lemma yields_yieldExpr : Yields (g.yieldExpr l) Expr.Plain := by
  refine (yields_word _).seq fun _ => (yields_acceptWord _).seq fun c => ?_
  split
  · exact hg.bind fun e he => yields_pure (Expr.plain_yieldFrom he)
  · refine yields_noItem.seq fun c => ?_
    split
    · exact yields_pure (Expr.plain_yield (by simp))
    · refine (yields_starExpressions hg hl).bind fun e he => yields_pure ?_
      exact Expr.plain_yield (by simpa using he)

lemma yields_parenthesized : Yields (g.parenthesized l) Expr.Plain := by
  have hitem := yields_displayItem hg hl
  refine (yields_accept _).seq fun c => ?_
  split
  · exact yields_pure (Expr.plain_tuple (by simp))
  · refine (yields_isWord _).seq fun c => ?_
    split
    · refine (yields_yieldExpr hg hl).bind fun e he => ?_
      exact (yields_symbol _).seq fun _ => yields_pure he
    · refine (yields_isSymbol _).seq fun isStarred => hitem.bind fun first hfirst => ?_
      refine yields_isClause.seq fun c => ?_
      split
      · refine (yields_clauses hl.primary hl.disjunction).bind fun cs hcs => ?_
        exact (yields_symbol _).seq fun _ => yields_pure (Expr.plain_generator hfirst hcs)
      · refine (yields_commaTail hitem g.bound (yields_isSymbol _)).bind fun p hp => ?_
        refine (yields_symbol _).seq fun _ => ?_
        split
        · exact yields_pure (Expr.plain_tuple (List.forall_mem_cons.mpr ⟨hfirst, hp⟩))
        · split
          · exact yields_failure
          · exact yields_pure hfirst

lemma yields_bracketed : Yields (g.bracketed l) Expr.Plain := by
  have hitem := yields_displayItem hg hl
  refine (yields_accept _).seq fun c => ?_
  split
  · exact yields_pure (Expr.plain_list (by simp))
  · refine (yields_isSymbol _).seq fun isStarred => hitem.bind fun first hfirst => ?_
    refine yields_isClause.seq fun c => ?_
    split
    · refine (yields_clauses hl.primary hl.disjunction).bind fun cs hcs => ?_
      exact (yields_symbol _).seq fun _ => yields_pure (Expr.plain_listComp hfirst hcs)
    · refine (yields_commaTail hitem g.bound (yields_isSymbol _)).bind fun p hp => ?_
      refine (yields_symbol _).seq fun _ => yields_pure ?_
      exact Expr.plain_list (List.forall_mem_cons.mpr ⟨hfirst, hp⟩)

lemma yields_dictEntry : Yields (g.dictEntry l) Entry.Plain := by
  refine (yields_accept _).seq fun c => ?_
  split
  · exact hl.bitOr.bind fun e he => yields_pure he
  · refine hg.bind fun key hk => (yields_symbol _).seq fun _ => ?_
    exact hg.bind fun value hv => yields_pure ⟨hk, hv⟩

lemma yields_dictRest {first : Entry} (hfirst : first.Plain) :
    Yields (g.dictRest l first) Expr.Plain := by
  have hentry := yields_dictEntry hg hl
  refine (yields_commaTail hentry g.bound (yields_isSymbol _)).bind fun p hp => ?_
  refine (yields_symbol _).seq fun _ => yields_pure ?_
  exact Expr.plain_dict (List.forall_mem_cons.mpr ⟨hfirst, hp⟩)

lemma yields_setRest {first : Expr} (hfirst : first.Plain) :
    Yields (g.setRest l first) Expr.Plain := by
  have hitem := yields_displayItem hg hl
  refine (yields_commaTail hitem g.bound (yields_isSymbol _)).bind fun p hp => ?_
  refine (yields_symbol _).seq fun _ => yields_pure ?_
  exact Expr.plain_set (List.forall_mem_cons.mpr ⟨hfirst, hp⟩)

lemma yields_braced : Yields (g.braced l) Expr.Plain := by
  have hclauses := yields_clauses (g := g) hl.primary hl.disjunction
  refine (yields_accept _).seq fun c => ?_
  split
  · exact yields_pure (Expr.plain_dict (by simp))
  · refine (yields_isSymbol _).seq fun c => ?_
    split
    · exact (yields_dictEntry hg hl).bind fun first hfirst => yields_dictRest hg hl hfirst
    · refine (yields_isSymbol _).seq fun c => ?_
      split
      · exact (yields_displayItem hg hl).bind fun first hfirst => yields_setRest hg hl hfirst
      · refine (yields_nameBefore? _).seq fun o => ?_
        refine (yields_named hg).bind fun first hfirst => (yields_isSymbol _).seq fun c => ?_
        split
        · -- a colon: a dictionary
          refine yields_skip.seq fun _ => hg.bind fun value hvalue => ?_
          refine yields_isClause.seq fun c => ?_
          split
          · refine hclauses.bind fun cs hcs => (yields_symbol _).seq fun _ => yields_pure ?_
            exact Expr.plain_dictComp hfirst hvalue hcs
          · exact yields_dictRest hg hl ⟨hfirst, hvalue⟩
        · refine yields_isClause.seq fun c => ?_
          split
          · refine hclauses.bind fun cs hcs => (yields_symbol _).seq fun _ => yields_pure ?_
            exact Expr.plain_setComp hfirst hcs
          · exact yields_setRest hg hl hfirst

/-! ### The levels of binding -/

lemma yields_strings : Yields (g.strings l) Expr.Plain := by
  refine (yields_quotations _).seq fun qs => ?_
  split
  · exact yields_failure
  · split
    · next e he =>
      exact yields_pure (delivers_ofQuotations (yields_starExpressions hg hl) _ _ e he)
    · exact yields_failure

lemma yields_atom : Yields (g.atom l) Expr.Plain := by
  have hconstant : ∀ c : Constant, Yields (do skip; return .constant c) Expr.Plain :=
    fun c => yields_skip.seq fun _ => yields_pure (Expr.plain_constant c)
  refine yields_peek.bind fun kind hkind => ?_
  split
  · next form =>
    refine yields_skip.seq fun _ => yields_pure ?_
    exact Expr.plain_name (hkind _ form rfl).unbroken
  · exact hconstant _
  · exact yields_strings hg hl
  · exact hconstant _
  · exact hconstant _
  · exact hconstant _
  · exact hconstant _
  · exact yields_skip.seq fun _ => yields_parenthesized hg hl
  · exact yields_skip.seq fun _ => yields_bracketed hg hl
  · exact yields_skip.seq fun _ => yields_braced hg hl
  · exact yields_failure

lemma yields_trailers (bound : Nat) {e : Expr} (he : e.Plain) :
    Yields (g.trailers l bound e) Expr.Plain := by
  induction bound generalizing e with
  | zero => exact yields_failure
  | succ bound ih =>
      refine yields_peek.seq fun kind => ?_
      split
      · refine yields_skip.seq fun _ => yields_identifier.bind fun attr hattr => ?_
        exact ih (Expr.plain_member he hattr.unbroken)
      · refine yields_skip.seq fun _ => ?_
        refine (yields_callArguments hg hl.primary hl.disjunction).bind fun p hp => ?_
        exact ih (Expr.plain_call he hp.1 hp.2)
      · refine yields_skip.seq fun _ => (yields_slices hg).bind fun index hindex => ?_
        exact (yields_symbol _).seq fun _ => ih (Expr.plain_subscript he hindex)
      · exact yields_pure he

lemma yields_primaryWith : Yields (g.primaryWith l) Expr.Plain :=
  (yields_atom hg hl).bind fun _ he => yields_trailers hg hl g.bound he

end Brackets

section Operators

variable {g : Inner}

lemma yields_factorWith {primary : Reader Expr} (hp : Yields primary Expr.Plain) (bound : Nat) :
    Yields (factorWith primary bound) Expr.Plain := by
  induction bound with
  | zero => exact yields_failure
  | succ bound ih =>
      have hpower : ∀ base : Expr, base.Plain → Yields (do
          if ← accept .doubleStar then return .binary .pow base (← factorWith primary bound)
          else return base) Expr.Plain := by
        intro base hb
        refine (yields_accept _).seq fun c => ?_
        split
        · exact ih.bind fun e he => yields_pure (Expr.plain_binary hb he)
        · exact yields_pure hb
      refine yields_peek.seq fun kind => ?_
      split
      · refine yields_skip.seq fun _ => ih.bind fun e he => yields_pure ?_
        exact Expr.plain_unary he
      · refine (yields_acceptWord _).seq fun c => ?_
        dsimp only
        split
        · refine hp.bind fun e he => ?_
          exact (yields_pure (Expr.plain_await he)).bind hpower
        · exact hp.bind hpower

lemma yields_bitOrWith {factor : Reader Expr} (hf : Yields factor Expr.Plain) :
    Yields (g.bitOrWith factor) Expr.Plain := by
  have hlevel : ∀ (ops : Token.Kind → Option BinaryOp) (operand : Reader Expr),
      Yields operand Expr.Plain →
      Yields (do let first ← operand; leftChain ops operand g.bound first) Expr.Plain :=
    fun ops operand h => h.bind fun first hfirst => yields_leftChain h g.bound hfirst
  exact hlevel _ _ (hlevel _ _ (hlevel _ _ (hlevel _ _ (hlevel _ _ (hlevel _ _ hf)))))

lemma yields_comparisonWith {bitOr : Reader Expr} (hb : Yields bitOr Expr.Plain) :
    Yields (g.comparisonWith bitOr) Expr.Plain := by
  refine hb.bind fun left hleft => ?_
  refine (yields_chain (P := Comparison.Plain) ?_ g.bound).bind fun rest hrest => ?_
  · refine yields_compareOp?.seq fun o => ?_
    split
    · refine hb.bind fun e he => yields_pure ?_
      rintro _ ⟨⟩
      exact he
    · exact yields_pure (by simp)
  · split
    · exact yields_pure hleft
    · exact yields_pure (Expr.plain_compare hleft hrest)

lemma yields_inversionWith {comparison : Reader Expr} (hc : Yields comparison Expr.Plain)
    (bound : Nat) : Yields (inversionWith comparison bound) Expr.Plain := by
  induction bound with
  | zero => exact yields_failure
  | succ bound ih =>
      refine (yields_acceptWord _).seq fun c => ?_
      split
      · exact ih.bind fun e he => yields_pure (Expr.plain_unary he)
      · exact hc

lemma yields_disjunctionWith {inversion : Reader Expr} (hi : Yields inversion Expr.Plain) :
    Yields (g.disjunctionWith inversion) Expr.Plain := by
  have hjoined : ∀ (op : BoolOp) (kw : Keyword) (operand : Reader Expr),
      Yields operand Expr.Plain →
      Yields (do
        let first ← operand
        let rest ← chain (do
          if ← acceptWord kw then return some (← operand) else return none) g.bound
        return joinBoolean op first rest) Expr.Plain := by
    intro op kw operand h
    refine h.bind fun first hfirst => ?_
    refine (yields_chain (h.guarded _ (yields_acceptWord kw)) g.bound).bind fun rest hrest => ?_
    exact yields_pure (plain_joinBoolean hfirst hrest)
  exact hjoined .or .orKw _ (hjoined .and .andKw _ hi)

lemma sound_levelsAbove {primary : Reader Expr} (hp : Yields primary Expr.Plain) :
    (g.levelsAbove primary).Sound := by
  have hbitOr := yields_bitOrWith (g := g) (yields_factorWith hp g.bound)
  exact ⟨hp, hbitOr,
    yields_disjunctionWith (yields_inversionWith (yields_comparisonWith hbitOr) g.bound)⟩

end Operators

/-! ### Nested expressions -/

section Depth

variable {g : Inner} (hg : g.Sound)
include hg

lemma yields_primaryAt (depth : Nat) : Yields (g.primaryAt depth) Expr.Plain := by
  induction depth with
  | zero => exact yields_failure
  | succ depth ih => exact yields_primaryWith hg (sound_levelsAbove ih)

lemma sound_levels : g.levels.Sound :=
  sound_levelsAbove (yields_primaryAt hg g.bound)

lemma yields_expressionWith : Yields g.expressionWith Expr.Plain := by
  have hdisjunction := (sound_levels hg).disjunction
  refine (yields_acceptWord _).seq fun c => ?_
  split
  · have hnone : Yields (pure () : Reader Unit) fun _ => True := yields_pure True.intro
    refine (yields_parameters hg false hnone .colon).bind fun params hparams => ?_
    refine (yields_symbol _).seq fun _ => hg.bind fun body hbody => ?_
    exact yields_pure (Expr.plain_lambda hparams hbody)
  · refine hdisjunction.bind fun body hbody => (yields_acceptWord _).seq fun c => ?_
    split
    · refine hdisjunction.bind fun test htest => (yields_word _).seq fun _ => ?_
      exact hg.bind fun orelse horelse => yields_pure (Expr.plain_ifElse hbody htest horelse)
    · exact yields_pure hbody

end Depth

end Inner

/-- **Every expression that is read is plain**, however deep it nests. -/
lemma yields_expressionAt (bound : Nat) (charNamed : List Char → Option Char) (depth : Nat) :
    Yields (expressionAt bound charNamed depth) Expr.Plain := by
  induction depth with
  | zero => exact yields_failure
  | succ depth ih =>
      exact Inner.yields_expressionWith
        (g := ⟨bound, charNamed, expressionAt bound charNamed depth⟩) ih

lemma Inner.sound_ofLength (length : Nat) (charNamed : List Char → Option Char) :
    (Inner.ofLength length charNamed).Sound :=
  yields_expressionAt _ _ _

end Branchwise.Source.Grammar
