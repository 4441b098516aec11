/-
What the text of an expression is made of.

* `Delivers`: a result that may be missing has a property, with a rule for each step of a
  printer.
* `Expr.ids`, `Expr.parts`: the identifiers that stand in an expression itself, and the
  expressions directly below it.
* `Expr.Makes`: the texts of an expression are made of such characters, with one lemma for
  each form of expression.
* `Expr.makes_of_parts`: they are if those of its identifiers and parts are. Constants and
  formatted texts write their codes instead.
-/
import Branchwise.Proofs.ShownText

namespace Branchwise

namespace Source

/-! ### Partial results -/

section Delivers

variable {α β : Type} {Q : α → Prop} {R : β → Prop}

/-- The result has the property, if there is one. -/
def Delivers (result : Option α) (Q : α → Prop) : Prop :=
  ∀ a, result = some a → Q a

lemma delivers_some {a : α} (h : Q a) : Delivers (some a) Q := by
  rintro _ ⟨⟩
  exact h

lemma delivers_none : Delivers none Q := by
  rintro _ ⟨⟩

lemma delivers_any {result : Option α} : Delivers result fun _ => True :=
  fun _ _ => True.intro

/-- What is known of a result may be used by the step behind it. -/
lemma delivers_bind {result : Option α} {f : α → Option β} (h : Delivers result Q)
    (hf : ∀ a, Q a → Delivers (f a) R) : Delivers (result >>= f) R := by
  intro b hb
  obtain ⟨a, ha, hb⟩ := Option.bind_eq_some_iff.mp hb
  exact hf a (h a ha) b hb

end Delivers

/-! ### Parts -/

/-- The expressions of an entry. -/
def Entry.exprs : Entry → List Expr
  | pair key value => [key, value]
  | spread value => [value]

/-- The expressions of a clause. -/
def Clause.exprs : Clause → List Expr
  | mk _ target source conditions => target :: source :: conditions

/-- The value of an argument. -/
def Argument.value : Argument → Expr
  | keyword _ value => value
  | spread value => value

/-- The name of an argument. -/
def Argument.ids : Argument → List String
  | keyword name _ => [name]
  | spread _ => []

/-- The operand of a comparison. -/
def Comparison.operand : Comparison → Expr
  | mk _ operand => operand

/-- The default of a parameter. -/
def Param.fallback : Param → Option Expr
  | mk _ fallback => fallback

/-- The parameters that can have defaults. -/
def Params.all : Params → List Param
  | mk positional regular _ named _ => positional ++ regular ++ named

/-- The names of all parameters. -/
def Params.ids : Params → List String
  | mk positional regular rest named extra =>
    (positional ++ regular ++ named).map Param.name ++ rest.toList ++ extra.toList

namespace Expr

/-- The identifiers that stand in an expression itself. -/
def ids : Expr → List String
  | name id => [id]
  | .named target _ => [target]
  | lambda params _ => params.ids
  | call _ _ keywords => keywords.flatMap Argument.ids
  | member _ attr => [attr]
  | _ => []

/-- The expressions directly below an expression. -/
def parts : Expr → List Expr
  | name _ | constant _ => []
  | joined parts => parts
  | field value _ format => value :: format.toList
  | .named _ value => [value]
  | boolean _ operands => operands
  | binary _ left right => [left, right]
  | unary _ operand => [operand]
  | compare left rest => left :: rest.map Comparison.operand
  | lambda params body => body :: params.all.flatMap fun p => p.fallback.toList
  | ifElse body test orelse => [body, test, orelse]
  | tuple items | list items | set items => items
  | dict entries => entries.flatMap Entry.exprs
  | generator item clauses | listComp item clauses | setComp item clauses =>
    item :: clauses.flatMap Clause.exprs
  | dictComp key value clauses => key :: value :: clauses.flatMap Clause.exprs
  | await value | yieldFrom value | member value _ | starred value => [value]
  | yield value => value.toList
  | call function args keywords => function :: (args ++ keywords.map Argument.value)
  | subscript value index => [value, index]
  | slice lower upper step => lower.toList ++ upper.toList ++ step.toList

/-- The texts of the expression are made of characters with the property. -/
def Makes (P : Char → Prop) (plain : Bool) (e : Expr) : Prop :=
  ∀ level text, e.print plain level = some text → Made P text

-- the equations of the printer are generated here, once for all lemmas below
attribute [simp] print

variable {P : Char → Prop} {plain : Bool}

/-! ### Lists of parts -/

lemma delivers_printAll {es : List Expr} (h : ∀ e ∈ es, e.Makes P plain) :
    Delivers (printAll plain es) fun texts => ∀ t ∈ texts, Made P t := by
  induction es with
  | nil =>
      rw [printAll]
      exact delivers_some (by simp)
  | cons e es ih =>
      obtain ⟨he, hes⟩ := List.forall_mem_cons.mp h
      rw [printAll]
      refine delivers_bind (he _) fun t ht => delivers_bind (ih hes) fun ts hts => ?_
      exact delivers_some (List.forall_mem_cons.mpr ⟨ht, hts⟩)

lemma delivers_printRising {level : Level} {es : List Expr} (h : ∀ e ∈ es, e.Makes P plain) :
    Delivers (printRising plain level es) fun texts => ∀ t ∈ texts, Made P t := by
  induction es generalizing level with
  | nil =>
      rw [printRising]
      exact delivers_some (by simp)
  | cons e es ih =>
      obtain ⟨he, hes⟩ := List.forall_mem_cons.mp h
      rw [printRising]
      refine delivers_bind (he _) fun t ht => delivers_bind (ih hes) fun ts hts => ?_
      exact delivers_some (List.forall_mem_cons.mpr ⟨ht, hts⟩)

lemma delivers_printOption {o : Option Expr} (h : ∀ e ∈ o, e.Makes P plain) :
    Delivers (printOption plain o) (Made P) := by
  cases o with
  | none =>
      rw [printOption]
      exact delivers_some made_nil
  | some e =>
      rw [printOption]
      exact h e rfl _

section Admits

variable (hP : Admits P)

include hP

lemma made_interleave {texts : List (List Char)} (h : ∀ t ∈ texts, Made P t) :
    Made P (interleave ", " texts) :=
  made_intercalate (hP.text (by decide)) h

lemma made_commaList {texts : List (List Char)} (h : ∀ t ∈ texts, Made P t) :
    Made P (commaList texts) := by
  rw [commaList.eq_def]
  split
  · next item =>
    rw [made_append]
    exact ⟨h item List.mem_cons_self, hP.text (by decide)⟩
  · exact made_interleave hP h

lemma made_parenthesizeIf {wrap : Bool} {text : List Char} (h : Made P text) :
    Made P (parenthesizeIf wrap text) := by
  rw [parenthesizeIf]
  split
  · rw [made_append, made_cons]
    exact ⟨⟨hP.char (by decide), h⟩, hP.text (by decide)⟩
  · exact h

lemma delivers_printComparisons {cs : List Comparison}
    (h : ∀ c ∈ cs, c.operand.Makes P plain) :
    Delivers (printComparisons plain cs) (Made P) := by
  induction cs with
  | nil =>
      rw [printComparisons]
      exact delivers_some made_nil
  | cons c cs ih =>
      obtain ⟨op, operand⟩ := c
      obtain ⟨hc, hcs⟩ := List.forall_mem_cons.mp h
      have hsign : Unbroken op.sign := by cases op <;> decide
      rw [printComparisons]
      refine delivers_bind (hc _) fun t ht => delivers_bind (ih hcs) fun ts hts => ?_
      apply delivers_some
      rw [made_append, made_append]
      exact ⟨⟨hP.text hsign, ht⟩, hts⟩

lemma delivers_printEntries {es : List Entry}
    (h : ∀ entry ∈ es, ∀ e ∈ entry.exprs, e.Makes P plain) :
    Delivers (printEntries plain es) fun texts => ∀ t ∈ texts, Made P t := by
  induction es with
  | nil =>
      rw [printEntries]
      exact delivers_some (by simp)
  | cons e es ih =>
      obtain ⟨he, hes⟩ := List.forall_mem_cons.mp h
      cases e with
      | pair key value =>
          have hkey := he key (by simp [Entry.exprs])
          have hvalue := he value (by simp [Entry.exprs])
          rw [printEntries]
          refine delivers_bind (hkey _) fun k hk => delivers_bind (hvalue _) fun v hv => ?_
          refine delivers_bind (ih hes) fun ts hts => delivers_some ?_
          rw [List.forall_mem_cons, made_append, made_append]
          exact ⟨⟨⟨hk, hP.text (by decide)⟩, hv⟩, hts⟩
      | spread value =>
          have hvalue := he value (by simp [Entry.exprs])
          rw [printEntries]
          refine delivers_bind (hvalue _) fun v hv => ?_
          refine delivers_bind (ih hes) fun ts hts => delivers_some ?_
          rw [List.forall_mem_cons, made_cons, made_cons]
          exact ⟨⟨hP.char (by decide), hP.char (by decide), hv⟩, hts⟩

lemma delivers_printConditions {es : List Expr} (h : ∀ e ∈ es, e.Makes P plain) :
    Delivers (printConditions plain es) (Made P) := by
  induction es with
  | nil =>
      rw [printConditions]
      exact delivers_some made_nil
  | cons e es ih =>
      obtain ⟨he, hes⟩ := List.forall_mem_cons.mp h
      rw [printConditions]
      refine delivers_bind (he _) fun t ht => delivers_bind (ih hes) fun ts hts => ?_
      apply delivers_some
      rw [made_append, made_append]
      exact ⟨⟨hP.text (by decide), ht⟩, hts⟩

lemma delivers_printClauses {cs : List Clause}
    (h : ∀ c ∈ cs, ∀ e ∈ c.exprs, e.Makes P plain) :
    Delivers (printClauses plain cs) (Made P) := by
  induction cs with
  | nil =>
      rw [printClauses]
      exact delivers_some made_nil
  | cons c cs ih =>
      obtain ⟨isAsync, target, source, conditions⟩ := c
      obtain ⟨hc, hrest⟩ := List.forall_mem_cons.mp h
      rw [Clause.exprs, List.forall_mem_cons, List.forall_mem_cons] at hc
      obtain ⟨htarget, hsource, hconditions⟩ := hc
      have hfor : Unbroken (if isAsync then " async for ".toList else " for ".toList) := by
        cases isAsync <;> decide
      have hin : Unbroken " in ".toList := by decide
      rw [printClauses]
      refine delivers_bind (htarget _) fun t ht => delivers_bind (hsource _) fun s hs => ?_
      refine delivers_bind (delivers_printConditions hP hconditions) fun cs' hcs => ?_
      refine delivers_bind (ih hrest) fun ts hts => delivers_some ?_
      simp only [made_append, hP.text hfor, hP.text hin, ht, hs, hcs, hts, and_self]

lemma delivers_printArguments {as : List Argument}
    (hids : ∀ a ∈ as, ∀ id ∈ a.ids, Made P id.toList) (h : ∀ a ∈ as, a.value.Makes P plain) :
    Delivers (printArguments plain as) fun texts => ∀ t ∈ texts, Made P t := by
  induction as with
  | nil =>
      rw [printArguments]
      exact delivers_some (by simp)
  | cons a as ih =>
      obtain ⟨ha, has⟩ := List.forall_mem_cons.mp h
      obtain ⟨hid, hrest⟩ := List.forall_mem_cons.mp hids
      cases a with
      | keyword id value =>
          rw [printArguments]
          refine delivers_bind (ha _) fun v hv => ?_
          refine delivers_bind (ih hrest has) fun ts hts => delivers_some ?_
          rw [List.forall_mem_cons, made_append, made_cons]
          exact ⟨⟨hid id (by simp [Argument.ids]), hP.char (by decide), hv⟩, hts⟩
      | spread value =>
          rw [printArguments]
          refine delivers_bind (ha _) fun v hv => ?_
          refine delivers_bind (ih hrest has) fun ts hts => delivers_some ?_
          rw [List.forall_mem_cons, made_cons, made_cons]
          exact ⟨⟨hP.char (by decide), hP.char (by decide), hv⟩, hts⟩

lemma delivers_printParams {ps : List Param} (hids : ∀ p ∈ ps, Made P p.name.toList)
    (h : ∀ p ∈ ps, ∀ e ∈ p.fallback, e.Makes P plain) :
    Delivers (printParams plain ps) fun texts => ∀ t ∈ texts, Made P t := by
  induction ps with
  | nil =>
      rw [printParams]
      exact delivers_some (by simp)
  | cons p ps ih =>
      obtain ⟨id, fallback⟩ := p
      obtain ⟨hid, hrest⟩ := List.forall_mem_cons.mp hids
      obtain ⟨hfallback, hps⟩ := List.forall_mem_cons.mp h
      rw [printParams]
      refine delivers_bind (delivers_printOption hfallback) fun d hd => ?_
      refine delivers_bind (ih hrest hps) fun ts hts => delivers_some ?_
      have hdefault : Made P (if fallback.isSome then '=' :: d else []) := by
        split
        · rw [made_cons]
          exact ⟨hP.char (by decide), hd⟩
        · exact made_nil
      rw [List.forall_mem_cons, made_append]
      exact ⟨⟨hid, hdefault⟩, hts⟩

lemma delivers_printSignature {params : Params} (hids : ∀ id ∈ params.ids, Made P id.toList)
    (h : ∀ p ∈ params.all, ∀ e ∈ p.fallback, e.Makes P plain) :
    Delivers (printSignature plain params) (Made P) := by
  obtain ⟨positional, regular, rest, byName, extra⟩ := params
  have hparams : ∀ ps : List Param, ps ⊆ positional ++ regular ++ byName →
      Delivers (printParams plain ps) fun texts => ∀ t ∈ texts, Made P t := fun ps hps =>
    delivers_printParams hP
      (fun q hq => hids q.name (by
        rw [Params.ids, List.append_assoc]
        exact List.mem_append_left _ (List.mem_map_of_mem (hps hq))))
      (fun q hq => h q (hps hq))
  rw [printSignature.eq_def]
  refine delivers_bind (hparams positional fun q hq => by simp [hq]) fun p hp => ?_
  refine delivers_bind (hparams regular fun q hq => by simp [hq]) fun r hr => ?_
  refine delivers_bind (hparams byName fun q hq => by simp [hq]) fun n hn => delivers_some ?_
  apply made_interleave hP
  intro t ht
  simp only [List.mem_append, Option.mem_toList] at ht
  rcases ht with ((((ht | ht) | ht) | ht) | ht) | ht
  · exact hp t ht
  · split at ht
    · cases ht
    · rw [List.mem_singleton] at ht
      subst ht
      exact hP.text (by decide)
  · exact hr t ht
  · cases rest with
    | none =>
        dsimp only at ht
        split at ht
        · cases ht
        · rw [List.mem_singleton] at ht
          subst ht
          exact hP.text (by decide)
    | some id =>
        rw [List.mem_singleton] at ht
        subst ht
        rw [made_cons]
        exact ⟨hP.char (by decide), hids id (by simp [Params.ids])⟩
  · exact hn t ht
  · obtain ⟨id, hid, rfl⟩ := Option.map_eq_some_iff.mp ht
    rw [made_cons, made_cons]
    exact ⟨hP.char (by decide), hP.char (by decide), hids id (by simp [Params.ids, hid])⟩

/-! ### The forms of expressions -/

omit hP in
lemma makes_name {id : String} (h : Made P id.toList) : (name id).Makes P plain := by
  intro level
  rw [print]
  exact delivers_some h

lemma makes_named {target : String} (ht : Made P target.toList) {value : Expr}
    (hv : value.Makes P plain) : (Expr.named target value).Makes P plain := by
  intro level
  rw [print]
  refine delivers_bind (hv _) fun v hv => delivers_some (made_parenthesizeIf hP ?_)
  rw [made_append, made_append]
  exact ⟨⟨ht, hP.text (by decide)⟩, hv⟩

lemma makes_boolean {op : BoolOp} {operands : List Expr} (h : ∀ e ∈ operands, e.Makes P plain) :
    (boolean op operands).Makes P plain := by
  intro level
  have hword : Unbroken op.word := by cases op <;> decide
  rw [print]
  refine delivers_bind (delivers_printRising h) fun texts htexts => delivers_some ?_
  exact made_parenthesizeIf hP (made_intercalate (hP.text hword) htexts)

lemma makes_binary {op : BinaryOp} {left right : Expr} (hl : left.Makes P plain)
    (hr : right.Makes P plain) : (binary op left right).Makes P plain := by
  intro level
  have hsign : Unbroken op.sign := by cases op <;> decide
  rw [print]
  refine delivers_bind (hl _) fun l hl => delivers_bind (hr _) fun r hr => ?_
  refine delivers_some (made_parenthesizeIf hP ?_)
  rw [made_append, made_append]
  exact ⟨⟨hl, hP.text hsign⟩, hr⟩

lemma makes_unary {op : UnaryOp} {operand : Expr} (h : operand.Makes P plain) :
    (unary op operand).Makes P plain := by
  intro level
  have hsign : Unbroken op.sign := by cases op <;> decide
  rw [print]
  refine delivers_bind (h _) fun t ht => delivers_some (made_parenthesizeIf hP ?_)
  rw [made_append]
  exact ⟨hP.text hsign, ht⟩

lemma makes_compare {left : Expr} (hl : left.Makes P plain) {rest : List Comparison}
    (hr : ∀ c ∈ rest, c.operand.Makes P plain) : (compare left rest).Makes P plain := by
  intro level
  rw [print]
  refine delivers_bind (hl _) fun l hl => ?_
  refine delivers_bind (delivers_printComparisons hP hr) fun r hr => ?_
  refine delivers_some (made_parenthesizeIf hP ?_)
  rw [made_append]
  exact ⟨hl, hr⟩

lemma makes_lambda {params : Params} (hids : ∀ id ∈ params.ids, Made P id.toList)
    (hp : ∀ p ∈ params.all, ∀ e ∈ p.fallback, e.Makes P plain) {body : Expr}
    (hb : body.Makes P plain) : (lambda params body).Makes P plain := by
  intro level
  rw [print]
  refine delivers_bind (delivers_printSignature hP hids hp) fun ps hps => ?_
  refine delivers_bind (hb _) fun b hb => delivers_some (made_parenthesizeIf hP ?_)
  have hparams : Made P (if ps.isEmpty then [] else ' ' :: ps) := by
    split
    · exact made_nil
    · rw [made_cons]
      exact ⟨hP.char (by decide), hps⟩
  rw [made_append, made_append, made_append]
  exact ⟨⟨⟨hP.text (by decide), hparams⟩, hP.text (by decide)⟩, hb⟩

lemma makes_ifElse {body test orelse : Expr} (hb : body.Makes P plain) (ht : test.Makes P plain)
    (ho : orelse.Makes P plain) : (ifElse body test orelse).Makes P plain := by
  intro level
  rw [print]
  refine delivers_bind (hb _) fun b hb => delivers_bind (ht _) fun t ht => ?_
  refine delivers_bind (ho _) fun o ho => delivers_some (made_parenthesizeIf hP ?_)
  simp only [made_append]
  exact ⟨⟨⟨⟨hb, hP.text (by decide)⟩, ht⟩, hP.text (by decide)⟩, ho⟩

lemma makes_tuple {items : List Expr} (h : ∀ e ∈ items, e.Makes P plain) :
    (tuple items).Makes P plain := by
  intro level
  rw [print]
  refine delivers_bind (delivers_printAll h) fun texts htexts => delivers_some ?_
  exact made_parenthesizeIf hP (made_commaList hP htexts)

/-- Items in brackets. -/
lemma made_bracketed {before behind : Char} (hbefore : P before) (hbehind : P behind)
    {texts : List (List Char)} (h : ∀ t ∈ texts, Made P t) :
    Made P (before :: interleave ", " texts ++ [behind]) := by
  rw [made_append, made_cons, made_cons]
  exact ⟨⟨hbefore, made_interleave hP h⟩, hbehind, made_nil⟩

lemma makes_list {items : List Expr} (h : ∀ e ∈ items, e.Makes P plain) :
    (list items).Makes P plain := by
  intro level
  rw [print]
  refine delivers_bind (delivers_printAll h) fun texts htexts => delivers_some ?_
  exact made_bracketed hP (hP.char (by decide)) (hP.char (by decide)) htexts

lemma makes_set {items : List Expr} (h : ∀ e ∈ items, e.Makes P plain) :
    (set items).Makes P plain := by
  intro level
  rw [print]
  refine delivers_bind (delivers_printAll h) fun texts htexts => delivers_some ?_
  exact made_bracketed hP (hP.char (by decide)) (hP.char (by decide)) htexts

lemma makes_dict {entries : List Entry}
    (h : ∀ entry ∈ entries, ∀ e ∈ entry.exprs, e.Makes P plain) :
    (dict entries).Makes P plain := by
  intro level
  rw [print]
  refine delivers_bind (delivers_printEntries hP h) fun texts htexts => delivers_some ?_
  exact made_bracketed hP (hP.char (by decide)) (hP.char (by decide)) htexts

section Comprehensions

variable {item : Expr} {clauses : List Clause}
  (hc : ∀ c ∈ clauses, ∀ e ∈ c.exprs, e.Makes P plain)

include hc

/-- An item and clauses in brackets. -/
lemma delivers_comprehension {before behind : Char} (hbefore : P before) (hbehind : P behind)
    (hi : item.Makes P plain) (level : Level) :
    Delivers (do
      let i ← item.print plain level
      let c ← printClauses plain clauses
      return before :: i ++ c ++ [behind]) (Made P) := by
  refine delivers_bind (hi _) fun i hi => ?_
  refine delivers_bind (delivers_printClauses hP hc) fun c hc => delivers_some ?_
  rw [made_append, made_append, made_cons, made_cons]
  exact ⟨⟨⟨hbefore, hi⟩, hc⟩, hbehind, made_nil⟩

lemma makes_generator (hi : item.Makes P plain) : (generator item clauses).Makes P plain := by
  intro level
  rw [print]
  exact delivers_comprehension hP hc (hP.char (by decide)) (hP.char (by decide)) hi _

lemma makes_listComp (hi : item.Makes P plain) : (listComp item clauses).Makes P plain := by
  intro level
  rw [print]
  exact delivers_comprehension hP hc (hP.char (by decide)) (hP.char (by decide)) hi _

lemma makes_setComp (hi : item.Makes P plain) : (setComp item clauses).Makes P plain := by
  intro level
  rw [print]
  exact delivers_comprehension hP hc (hP.char (by decide)) (hP.char (by decide)) hi _

lemma makes_dictComp {key value : Expr} (hk : key.Makes P plain) (hv : value.Makes P plain) :
    (dictComp key value clauses).Makes P plain := by
  intro level
  rw [print]
  refine delivers_bind (hk _) fun k hk => delivers_bind (hv _) fun v hv => ?_
  refine delivers_bind (delivers_printClauses hP hc) fun c hc => delivers_some ?_
  simp only [made_append, made_cons]
  exact ⟨⟨⟨⟨⟨hP.char (by decide), hk⟩, hP.text (by decide)⟩, hv⟩, hc⟩, hP.char (by decide),
    made_nil⟩

end Comprehensions

lemma makes_await {value : Expr} (h : value.Makes P plain) : (await value).Makes P plain := by
  intro level
  rw [print]
  refine delivers_bind (h _) fun v hv => delivers_some (made_parenthesizeIf hP ?_)
  rw [made_append]
  exact ⟨hP.text (by decide), hv⟩

lemma makes_yield {value : Option Expr} (h : ∀ e ∈ value, e.Makes P plain) :
    (yield value).Makes P plain := by
  intro level
  cases value with
  | none =>
      rw [print]
      exact delivers_some (made_parenthesizeIf hP (hP.text (by decide)))
  | some value =>
      rw [print]
      refine delivers_bind (h value rfl _) fun v hv => ?_
      refine delivers_some (made_parenthesizeIf hP ?_)
      rw [made_append]
      exact ⟨hP.text (by decide), hv⟩

lemma makes_yieldFrom {value : Expr} (h : value.Makes P plain) :
    (yieldFrom value).Makes P plain := by
  intro level
  rw [print]
  refine delivers_bind (h _) fun v hv => delivers_some (made_parenthesizeIf hP ?_)
  rw [made_append]
  exact ⟨hP.text (by decide), hv⟩

lemma makes_call {function : Expr} (hf : function.Makes P plain) {args : List Expr}
    (ha : ∀ e ∈ args, e.Makes P plain) {keywords : List Argument}
    (hids : ∀ a ∈ keywords, ∀ id ∈ a.ids, Made P id.toList)
    (hk : ∀ a ∈ keywords, a.value.Makes P plain) : (call function args keywords).Makes P plain := by
  intro level
  rw [print]
  refine delivers_bind (hf _) fun f hf => delivers_bind (delivers_printAll ha) fun a ha => ?_
  refine delivers_bind (delivers_printArguments hP hids hk) fun k hk => delivers_some ?_
  have hall : ∀ t ∈ a ++ k, Made P t := List.forall_mem_append.mpr ⟨ha, hk⟩
  rw [List.append_assoc, made_append]
  exact ⟨hf, made_bracketed hP (hP.char (by decide)) (hP.char (by decide)) hall⟩

lemma makes_member {value : Expr} (hv : value.Makes P plain) {attr : String}
    (ha : Made P attr.toList) : (member value attr).Makes P plain := by
  intro level
  -- a number is set off from the point by a blank
  have hmember : ∀ v gap : List Char, Made P v → Unbroken gap →
      Made P (v ++ gap ++ '.' :: attr.toList) := by
    intro v gap hv hgap
    rw [made_append, made_append, made_cons]
    exact ⟨⟨hv, hP.text hgap⟩, hP.char (by decide), ha⟩
  rw [print.eq_def]
  refine delivers_bind (hv _) fun v hv => delivers_some (hmember v _ hv ?_)
  split
  · split
    · decide
    · decide
  · decide

lemma makes_subscript {value index : Expr} (hv : value.Makes P plain) (hi : index.Makes P plain) :
    (subscript value index).Makes P plain := by
  intro level
  have hbracketed : ∀ v i : List Char, Made P v → Made P i → Made P (v ++ '[' :: i ++ [']']) := by
    intro v i hv hi
    rw [made_append, made_append, made_cons]
    exact ⟨⟨hv, hP.char (by decide), hi⟩, hP.text (by decide)⟩
  rw [print.eq_def]
  refine delivers_bind (hv _) fun v hv => ?_
  split
  · next item items =>
    -- a tuple that is not empty stands without brackets, as it does in its own position
    have hitems : Delivers (printAll plain (item :: items)) fun ts => Made P (commaList ts) := by
      intro texts htexts
      refine hi Level.tuple _ ?_
      rw [print, htexts]
      rfl
    exact delivers_bind hitems fun i hi => delivers_some (hbracketed v _ hv hi)
  · exact delivers_bind (hi _) fun i hi => delivers_some (hbracketed v i hv hi)

lemma makes_slice {lower upper step : Option Expr} (hl : ∀ e ∈ lower, e.Makes P plain)
    (hu : ∀ e ∈ upper, e.Makes P plain) (hs : ∀ e ∈ step, e.Makes P plain) :
    (slice lower upper step).Makes P plain := by
  intro level
  rw [print]
  refine delivers_bind (delivers_printOption hl) fun l hl => ?_
  refine delivers_bind (delivers_printOption hu) fun u hu => ?_
  refine delivers_bind (delivers_printOption hs) fun s hs => delivers_some ?_
  have hstep : Made P (if step.isSome then ':' :: s else []) := by
    split
    · rw [made_cons]
      exact ⟨hP.char (by decide), hs⟩
    · exact made_nil
  rw [made_append, made_append, made_cons]
  exact ⟨⟨hl, hP.char (by decide), hu⟩, hstep⟩

lemma makes_starred {value : Expr} (h : value.Makes P plain) : (starred value).Makes P plain := by
  intro level
  rw [print]
  refine delivers_bind (h _) fun v hv => delivers_some ?_
  rw [made_cons]
  exact ⟨hP.char (by decide), hv⟩

/-! ### All forms -/

/-- Is the text of the expression the written form of codes? -/
def isWritten : Expr → Bool
  | constant _ | joined _ => true
  | _ => false

/-- **The text of an expression is made of its identifiers and the texts of its parts**,
constants and formatted texts apart. -/
lemma makes_of_parts {e : Expr} (he : e.isWritten = false)
    (hids : ∀ id ∈ e.ids, Made P id.toList) (h : ∀ p ∈ e.parts, p.Makes P plain) :
    e.Makes P plain := by
  cases e with
  | constant c => cases he
  | joined parts => cases he
  | field value conversion format =>
      intro level
      rw [print]
      exact delivers_none
  | name id => exact makes_name (hids id (by simp [ids]))
  | named target value =>
      exact makes_named hP (hids target (by simp [ids])) (h value (by simp [parts]))
  | boolean op operands => exact makes_boolean hP h
  | binary op left right =>
      exact makes_binary hP (h left (by simp [parts])) (h right (by simp [parts]))
  | unary op operand => exact makes_unary hP (h operand (by simp [parts]))
  | compare left rest =>
      rw [parts, List.forall_mem_cons, List.forall_mem_map] at h
      exact makes_compare hP h.1 h.2
  | lambda params body =>
      rw [parts, List.forall_mem_cons] at h
      refine makes_lambda hP hids (fun p hp e he => h.2 e ?_) h.1
      exact List.mem_flatMap.mpr ⟨p, hp, Option.mem_toList.mpr he⟩
  | ifElse body test orelse =>
      exact makes_ifElse hP (h body (by simp [parts])) (h test (by simp [parts]))
        (h orelse (by simp [parts]))
  | tuple items => exact makes_tuple hP h
  | list items => exact makes_list hP h
  | set items => exact makes_set hP h
  | dict entries =>
      exact makes_dict hP fun entry hentry e he => h e (List.mem_flatMap.mpr ⟨entry, hentry, he⟩)
  | generator item clauses =>
      rw [parts, List.forall_mem_cons] at h
      exact makes_generator hP (fun c hc e he => h.2 e (List.mem_flatMap.mpr ⟨c, hc, he⟩)) h.1
  | listComp item clauses =>
      rw [parts, List.forall_mem_cons] at h
      exact makes_listComp hP (fun c hc e he => h.2 e (List.mem_flatMap.mpr ⟨c, hc, he⟩)) h.1
  | setComp item clauses =>
      rw [parts, List.forall_mem_cons] at h
      exact makes_setComp hP (fun c hc e he => h.2 e (List.mem_flatMap.mpr ⟨c, hc, he⟩)) h.1
  | dictComp key value clauses =>
      rw [parts, List.forall_mem_cons, List.forall_mem_cons] at h
      refine makes_dictComp hP (fun c hc e he => h.2.2 e ?_) h.1 h.2.1
      exact List.mem_flatMap.mpr ⟨c, hc, he⟩
  | await value => exact makes_await hP (h value (by simp [parts]))
  | yield value => exact makes_yield hP fun e he => h e (Option.mem_toList.mpr he)
  | yieldFrom value => exact makes_yieldFrom hP (h value (by simp [parts]))
  | call function args keywords =>
      rw [parts, List.forall_mem_cons, List.forall_mem_append, List.forall_mem_map] at h
      refine makes_call hP h.1 h.2.1 (fun a ha id hid => hids id ?_) h.2.2
      exact List.mem_flatMap.mpr ⟨a, ha, hid⟩
  | member value attr =>
      exact makes_member hP (h value (by simp [parts])) (hids attr (by simp [ids]))
  | subscript value index =>
      exact makes_subscript hP (h value (by simp [parts])) (h index (by simp [parts]))
  | slice lower upper step =>
      refine makes_slice hP ?_ ?_ ?_
      · exact fun e he => h e (by simp [parts, Option.mem_def.mp he])
      · exact fun e he => h e (by simp [parts, Option.mem_def.mp he])
      · exact fun e he => h e (by simp [parts, Option.mem_def.mp he])
  | starred value => exact makes_starred hP (h value (by simp [parts]))

end Admits

end Expr

end Source

end Branchwise
