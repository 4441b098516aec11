/-
Expressions with unbroken identifiers, and where a line feed enters their texts.

* `Expr.Plain`: every identifier in the expression is unbroken, with one lemma for each
  form of expression.
* `Expr.Within`: an expression stands in another one.
* `Expr.BreaksField`: a part of a formatted text that is no text of its own holds a text
  with a line feed.
* `Expr.Plain.makes`: the text of an expression holds a line feed only there, and nothing
  else that ends a line; `Plain.made_shown` says so of the text that stands for it.
-/
import Branchwise.Proofs.PrintedText

namespace Branchwise.Source

open Text

/-! ### Plain expressions -/

/-- Every identifier in the expression is unbroken. -/
inductive Expr.Plain : Expr → Prop
  | mk {e : Expr} (names : ∀ id ∈ e.ids, Unbroken id.toList) (parts : ∀ p ∈ e.parts, p.Plain) :
      e.Plain

/-- The parts of the entry are plain. -/
def Entry.Plain : Entry → Prop
  | pair key value => key.Plain ∧ value.Plain
  | spread value => value.Plain

/-- The parts of the clause are. -/
def Clause.Plain : Clause → Prop
  | mk _ target source conditions => target.Plain ∧ source.Plain ∧ ∀ e ∈ conditions, e.Plain

/-- The name of the argument is unbroken, and its value plain. -/
def Argument.Plain : Argument → Prop
  | keyword name value => Unbroken name.toList ∧ value.Plain
  | spread value => value.Plain

/-- The operand is plain. -/
def Comparison.Plain : Comparison → Prop
  | mk _ operand => operand.Plain

/-- The name of the parameter is unbroken, and its default plain. -/
def Param.Plain : Param → Prop
  | mk name fallback => Unbroken name.toList ∧ ∀ e ∈ fallback, e.Plain

/-- The names of the parameters are unbroken, and their defaults plain. -/
def Params.Plain : Params → Prop
  | mk positional regular rest named extra =>
    (∀ p ∈ positional ++ regular ++ named, p.Plain) ∧
      ∀ id ∈ rest.toList ++ extra.toList, Unbroken id.toList

lemma Entry.Plain.exprs {entry : Entry} (h : entry.Plain) : ∀ e ∈ entry.exprs, e.Plain := by
  cases entry with
  | pair key value => simpa [Entry.exprs, Entry.Plain] using h
  | spread value => simpa [Entry.exprs, Entry.Plain] using h

lemma Clause.Plain.exprs {c : Clause} (h : c.Plain) : ∀ e ∈ c.exprs, e.Plain := by
  obtain ⟨isAsync, target, source, conditions⟩ := c
  rw [Clause.exprs, List.forall_mem_cons, List.forall_mem_cons]
  exact h

lemma Argument.Plain.value {a : Argument} (h : a.Plain) : a.value.Plain := by
  cases a with
  | keyword name value => exact h.2
  | spread value => exact h

lemma Argument.Plain.ids {a : Argument} (h : a.Plain) : ∀ id ∈ a.ids, Unbroken id.toList := by
  cases a with
  | keyword name value => simpa [Argument.ids] using h.1
  | spread value => simp [Argument.ids]

lemma Comparison.Plain.operand {c : Comparison} (h : c.Plain) : c.operand.Plain := by
  obtain ⟨op, operand⟩ := c
  exact h

lemma Param.Plain.name {p : Param} (h : p.Plain) : Unbroken p.name.toList := by
  obtain ⟨name, fallback⟩ := p
  exact h.1

lemma Param.Plain.fallback {p : Param} (h : p.Plain) : ∀ e ∈ p.fallback, e.Plain := by
  obtain ⟨name, fallback⟩ := p
  exact h.2

lemma Params.Plain.all {ps : Params} (h : ps.Plain) : ∀ p ∈ ps.all, p.Plain := by
  obtain ⟨positional, regular, rest, named, extra⟩ := ps
  exact h.1

lemma Params.Plain.ids {ps : Params} (h : ps.Plain) : ∀ id ∈ ps.ids, Unbroken id.toList := by
  obtain ⟨positional, regular, rest, named, extra⟩ := ps
  rw [Params.ids, List.append_assoc, List.forall_mem_append, List.forall_mem_map]
  exact ⟨fun p hp => (h.1 p hp).name, h.2⟩

namespace Expr

lemma plain_name {id : String} (h : Unbroken id.toList) : (name id).Plain :=
  ⟨by simpa [ids] using h, by simp [parts]⟩

lemma plain_constant (c : Constant) : (constant c).Plain :=
  ⟨by simp [ids], by simp [parts]⟩

lemma plain_joined {ps : List Expr} (h : ∀ p ∈ ps, p.Plain) : (joined ps).Plain :=
  ⟨by simp [ids], h⟩

lemma plain_field {value : Expr} (hv : value.Plain) {conversion : Option Conversion}
    {format : Option Expr} (hf : ∀ e ∈ format, e.Plain) :
    (field value conversion format).Plain :=
  ⟨by simp [ids], by simpa [parts] using ⟨hv, hf⟩⟩

lemma plain_named {target : String} (ht : Unbroken target.toList) {value : Expr}
    (hv : value.Plain) : (Expr.named target value).Plain :=
  ⟨by simpa [ids] using ht, by simpa [parts] using hv⟩

lemma plain_boolean {op : BoolOp} {operands : List Expr} (h : ∀ e ∈ operands, e.Plain) :
    (boolean op operands).Plain :=
  ⟨by simp [ids], h⟩

lemma plain_binary {op : BinaryOp} {left right : Expr} (hl : left.Plain) (hr : right.Plain) :
    (binary op left right).Plain :=
  ⟨by simp [ids], by simp [parts, hl, hr]⟩

lemma plain_unary {op : UnaryOp} {operand : Expr} (h : operand.Plain) :
    (unary op operand).Plain :=
  ⟨by simp [ids], by simpa [parts] using h⟩

lemma plain_compare {left : Expr} (hl : left.Plain) {rest : List Comparison}
    (hr : ∀ c ∈ rest, c.Plain) : (compare left rest).Plain := by
  refine ⟨by simp [ids], ?_⟩
  rw [parts, List.forall_mem_cons, List.forall_mem_map]
  exact ⟨hl, fun c hc => (hr c hc).operand⟩

lemma plain_lambda {params : Params} (hp : params.Plain) {body : Expr} (hb : body.Plain) :
    (lambda params body).Plain := by
  refine ⟨hp.ids, ?_⟩
  rw [parts, List.forall_mem_cons, List.forall_mem_flatMap]
  exact ⟨hb, fun p hmem e he => (hp.all p hmem).fallback e (Option.mem_toList.mp he)⟩

lemma plain_ifElse {body test orelse : Expr} (hb : body.Plain) (ht : test.Plain)
    (ho : orelse.Plain) : (ifElse body test orelse).Plain :=
  ⟨by simp [ids], by simp [parts, hb, ht, ho]⟩

lemma plain_tuple {items : List Expr} (h : ∀ e ∈ items, e.Plain) : (tuple items).Plain :=
  ⟨by simp [ids], h⟩

lemma plain_list {items : List Expr} (h : ∀ e ∈ items, e.Plain) : (list items).Plain :=
  ⟨by simp [ids], h⟩

lemma plain_set {items : List Expr} (h : ∀ e ∈ items, e.Plain) : (set items).Plain :=
  ⟨by simp [ids], h⟩

lemma plain_dict {entries : List Entry} (h : ∀ e ∈ entries, e.Plain) : (dict entries).Plain :=
  ⟨by simp [ids], List.forall_mem_flatMap.mpr fun e he => (h e he).exprs⟩

section Comprehensions

variable {item : Expr} {clauses : List Clause}

/-- An item and clauses are the parts of a comprehension. -/
lemma plain_clauses (hi : item.Plain) (hc : ∀ c ∈ clauses, c.Plain) :
    ∀ p ∈ item :: clauses.flatMap Clause.exprs, p.Plain := by
  rw [List.forall_mem_cons, List.forall_mem_flatMap]
  exact ⟨hi, fun c hmem => (hc c hmem).exprs⟩

lemma plain_generator (hi : item.Plain) (hc : ∀ c ∈ clauses, c.Plain) :
    (generator item clauses).Plain :=
  ⟨by simp [ids], plain_clauses hi hc⟩

lemma plain_listComp (hi : item.Plain) (hc : ∀ c ∈ clauses, c.Plain) :
    (listComp item clauses).Plain :=
  ⟨by simp [ids], plain_clauses hi hc⟩

lemma plain_setComp (hi : item.Plain) (hc : ∀ c ∈ clauses, c.Plain) :
    (setComp item clauses).Plain :=
  ⟨by simp [ids], plain_clauses hi hc⟩

lemma plain_dictComp {key value : Expr} (hk : key.Plain) (hv : value.Plain)
    (hc : ∀ c ∈ clauses, c.Plain) : (dictComp key value clauses).Plain :=
  ⟨by simp [ids], List.forall_mem_cons.mpr ⟨hk, plain_clauses hv hc⟩⟩

end Comprehensions

lemma plain_await {value : Expr} (h : value.Plain) : (await value).Plain :=
  ⟨by simp [ids], by simpa [parts] using h⟩

lemma plain_yield {value : Option Expr} (h : ∀ e ∈ value, e.Plain) : (yield value).Plain :=
  ⟨by simp [ids], by simpa [parts] using h⟩

lemma plain_yieldFrom {value : Expr} (h : value.Plain) : (yieldFrom value).Plain :=
  ⟨by simp [ids], by simpa [parts] using h⟩

lemma plain_call {function : Expr} (hf : function.Plain) {args : List Expr}
    (ha : ∀ e ∈ args, e.Plain) {keywords : List Argument} (hk : ∀ a ∈ keywords, a.Plain) :
    (call function args keywords).Plain := by
  refine ⟨List.forall_mem_flatMap.mpr fun a hmem => (hk a hmem).ids, ?_⟩
  rw [parts, List.forall_mem_cons, List.forall_mem_append, List.forall_mem_map]
  exact ⟨hf, ha, fun a hmem => (hk a hmem).value⟩

lemma plain_member {value : Expr} (hv : value.Plain) {attr : String}
    (ha : Unbroken attr.toList) : (member value attr).Plain :=
  ⟨by simpa [ids] using ha, by simpa [parts] using hv⟩

lemma plain_subscript {value index : Expr} (hv : value.Plain) (hi : index.Plain) :
    (subscript value index).Plain :=
  ⟨by simp [ids], by simp [parts, hv, hi]⟩

lemma plain_slice {lower upper step : Option Expr} (hl : ∀ e ∈ lower, e.Plain)
    (hu : ∀ e ∈ upper, e.Plain) (hs : ∀ e ∈ step, e.Plain) : (slice lower upper step).Plain := by
  refine ⟨by simp [ids], ?_⟩
  rw [parts, List.forall_mem_append, List.forall_mem_append]
  simpa only [Option.mem_toList] using ⟨⟨hl, hu⟩, hs⟩

lemma plain_starred {value : Expr} (h : value.Plain) : (starred value).Plain :=
  ⟨by simp [ids], by simpa [parts] using h⟩

/-! ### Line feeds -/

/-- The first expression stands in the second one: it is that, or stands in a part of it. -/
inductive Within : Expr → Expr → Prop
  | refl (e : Expr) : Within e e
  | part {e p q : Expr} (hp : p ∈ e.parts) (h : Within q p) : Within q e

/-- A text with a line feed stands in the expression. -/
def HoldsFeed (e : Expr) : Prop :=
  ∃ c : Constant, c.holdsFeed = true ∧ Within (constant c) e

/-- Is the expression a constant? -/
def isConstant : Expr → Bool
  | constant _ => true
  | _ => false

/-- A formatted text in the expression has a part, other than its own texts, that holds a
text with a line feed. -/
def BreaksField (e : Expr) : Prop :=
  ∃ ps : List Expr, Within (joined ps) e ∧ ∃ p ∈ ps, p.isConstant = false ∧ p.HoldsFeed

lemma HoldsFeed.of_part {e p : Expr} (hp : p ∈ e.parts) (h : p.HoldsFeed) : e.HoldsFeed := by
  obtain ⟨c, hc, hwithin⟩ := h
  exact ⟨c, hc, .part hp hwithin⟩

lemma BreaksField.of_part {e p : Expr} (hp : p ∈ e.parts) (h : p.BreaksField) :
    e.BreaksField := by
  obtain ⟨ps, hwithin, hps⟩ := h
  exact ⟨ps, .part hp hwithin, hps⟩

/-- What stands between the marks for all parts, from what stands there for each. -/
lemma delivers_innerAll {n : Nat} {es : List Expr} (h : ∀ e ∈ es, Delivers e.inner (n ∉ ·)) :
    Delivers (innerAll es) (n ∉ ·) := by
  induction es with
  | nil =>
      rw [innerAll]
      exact delivers_some (by simp)
  | cons e es ih =>
      obtain ⟨he, hes⟩ := List.forall_mem_cons.mp h
      rw [innerAll]
      refine delivers_bind he fun t ht => delivers_bind (ih hes) fun ts hts => delivers_some ?_
      rw [List.mem_append, not_or]
      exact ⟨ht, hts⟩

lemma delivers_innerOption {n : Nat} {o : Option Expr} (h : ∀ e ∈ o, Delivers e.inner (n ∉ ·)) :
    Delivers (innerOption o) (n ∉ ·) := by
  cases o with
  | none =>
      rw [innerOption]
      exact delivers_some (by simp)
  | some e =>
      rw [innerOption]
      exact h e rfl

lemma mem_innerParts {es : List Expr} {texts : List (List Nat × Bool)}
    (ht : innerParts es = some texts) {part : List Nat × Bool} (hp : part ∈ texts) :
    ∃ e ∈ es, e.inner = some part.1 ∧ e.isConstant = part.2 := by
  induction es generalizing texts with
  | nil =>
      rw [innerParts] at ht
      cases ht
      cases hp
  | cons e es ih =>
      rw [innerParts.eq_def] at ht
      simp only [Option.bind_eq_bind, Option.bind_eq_some_iff] at ht
      obtain ⟨t, ht', ts, hts, ht⟩ := ht
      cases ht
      rcases List.mem_cons.mp hp with rfl | hp
      · exact ⟨e, List.mem_cons_self, ht', by cases e <;> rfl⟩
      · obtain ⟨e', he', h⟩ := ih hts hp
        exact ⟨e', List.mem_cons_of_mem e he', h⟩

lemma not_mem_doubleBraces {cs : List Nat} (h : 10 ∉ cs) : 10 ∉ Quoting.doubleBraces cs := by
  intro hmem
  obtain ⟨c, hc, hmem⟩ := List.mem_flatMap.mp hmem
  split at hmem
  · simp only [List.mem_cons, List.not_mem_nil, or_false, or_self] at hmem
    exact h (hmem ▸ hc)
  · rw [List.mem_singleton] at hmem
    exact h (hmem ▸ hc)

lemma not_mem_codes {text : List Char} (h : Made (· ≠ '\n') text) : 10 ∉ codes text := by
  intro hmem
  obtain ⟨c, hc, hcode⟩ := List.mem_map.mp hmem
  exact h c hc (Char.toNat_inj.mp hcode)

/-- What a replacement field puts between the marks. -/
lemma delivers_inner_field {value : Expr} (hv : value.Makes (· ≠ '\n') true)
    {conversion : Option Conversion} {format : Option Expr}
    (hf : ∀ e ∈ format, Delivers e.inner (10 ∉ ·)) :
    Delivers (field value conversion format).inner (10 ∉ ·) := by
  rw [inner.eq_def]
  refine delivers_bind (hv _) fun v hv => ?_
  split
  · exact delivers_none
  · refine delivers_bind (delivers_innerOption hf) fun f hf => delivers_some ?_
    simp only [List.mem_append, List.mem_singleton, not_or]
    refine ⟨⟨not_mem_codes ?_, hf⟩, by decide⟩
    simp only [made_append, made_cons]
    refine ⟨⟨⟨⟨by decide, ?_⟩, hv⟩, ?_⟩, ?_⟩
    · split
      · exact admits_ne_feed.text (by decide)
      · exact made_nil
    · cases conversion with
      | none => exact made_nil
      | some c => exact admits_ne_feed.text (by cases c <;> decide)
    · split
      · exact admits_ne_feed.text (by decide)
      · exact made_nil

/-- A formatted text by itself shows a line feed only for a part that is no constant. -/
lemma makes_joined {P : Char → Prop} (hP : Admits P) {ps : List Expr}
    (h : ∀ p ∈ ps, p.isConstant = false → ∀ t, p.inner = some t → 10 ∈ t → P '\n') :
    (joined ps).Makes P false := by
  intro level text ht
  rw [print] at ht
  obtain ⟨texts, htexts, ht⟩ := Option.bind_eq_some_iff.mp ht
  cases ht
  have hparts : ∀ part ∈ texts, part.2 = false → 10 ∈ part.1 → P '\n' := by
    intro part hpart hconstant hmem
    obtain ⟨p, hp, hinner, hp'⟩ := mem_innerParts htexts hpart
    exact h p hp (hp'.trans hconstant) _ hinner hmem
  obtain ⟨htext, hmarks⟩ := Quoting.made_fitAll hP (Quoting.made_marks hP) hparts
  rw [made_cons]
  exact ⟨hP.char (by decide), Quoting.made_enclose hP hmarks htext⟩

/-- A plain expression without line feeds has none in its texts, and none between the marks
of a formatted text. -/
lemma Plain.feedless {e : Expr} (h : e.Plain) (hf : ¬ e.HoldsFeed) :
    (∀ plain, e.Makes (· ≠ '\n') plain) ∧ Delivers e.inner (10 ∉ ·) := by
  induction h with
  | @mk e names hparts ih =>
      have hbelow : ∀ p ∈ e.parts, (∀ plain, p.Makes (· ≠ '\n') plain) ∧
          Delivers p.inner (10 ∉ ·) :=
        fun p hp => ih p hp fun hp' => hf (.of_part hp hp')
      have hmakes : e.isWritten = false → ∀ plain, e.Makes (· ≠ '\n') plain := fun he plain =>
        makes_of_parts admits_ne_feed he (fun id hid => admits_ne_feed.text (names id hid))
          fun p hp => (hbelow p hp).1 plain
      cases e with
      | constant c =>
          have hc : c.holdsFeed ≠ true := fun hc => hf ⟨c, hc, .refl _⟩
          constructor
          · intro plain level text ht
            rw [print] at ht
            exact c.made_print admits_ne_feed (fun _ hfeed => absurd hfeed hc) ht
          · cases c with
            | text marked cs =>
                rw [inner]
                exact delivers_some (not_mem_doubleBraces fun hmem =>
                  hc (List.contains_iff_mem.mpr hmem))
            | _ =>
                rw [inner]
                · exact delivers_none
                all_goals simp
      | joined ps =>
          have hinner : Delivers (innerAll ps) (10 ∉ ·) :=
            delivers_innerAll fun p hp => (hbelow p hp).2
          refine ⟨fun plain => ?_, ?_⟩
          · cases plain with
            | false =>
                exact makes_joined admits_ne_feed fun p hp _ t ht hmem =>
                  absurd hmem ((hbelow p hp).2 t ht)
            | true =>
                intro level
                rw [print]
                refine delivers_bind hinner fun codes hcodes => delivers_some ?_
                rw [made_cons]
                exact ⟨by decide, Quoting.made_sparing admits_ne_feed fun hmem =>
                  absurd hmem hcodes⟩
          · rw [inner]
            exact hinner
      | field value conversion format =>
          refine ⟨hmakes rfl, delivers_inner_field ?_ ?_⟩
          · exact (hbelow value (by simp [parts])).1 true
          · exact fun e he => (hbelow e (by simp [parts, Option.mem_def.mp he])).2
      | _ =>
          refine ⟨hmakes rfl, ?_⟩
          rw [inner]
          · exact delivers_none
          all_goals simp

/-- **The text of a plain expression holds a line feed only where a part of a formatted text
does**, and nothing else that ends a line. -/
lemma Plain.makes {P : Char → Prop} (hP : Admits P) {e : Expr} (h : e.Plain)
    (hf : e.BreaksField → P '\n') : e.Makes P false := by
  induction h with
  | @mk e names hparts ih =>
      have hmakes : e.isWritten = false → e.Makes P false := fun he =>
        makes_of_parts hP he (fun id hid => hP.text (names id hid)) fun p hp =>
          ih p hp fun hp' => hf (.of_part hp hp')
      cases e with
      | constant c =>
          intro level text ht
          rw [print] at ht
          exact c.made_print hP (fun h => by cases h) ht
      | joined ps =>
          refine makes_joined hP fun p hp hconstant t ht hmem => ?_
          refine hf ⟨ps, .refl _, p, hp, hconstant, ?_⟩
          by_contra hfeed
          exact ((hparts p hp).feedless hfeed).2 t ht hmem
      | _ => exact hmakes rfl

/-- What the text that stands for an expression is made of. -/
lemma Plain.made_shown {P : Char → Prop} (hP : Admits P) {e : Expr} (h : e.Plain)
    (hf : e.BreaksField → P '\n') : Made P e.shown.toList := by
  rw [shown, text]
  cases he : e.print false Level.test with
  | none => exact hP.text (by decide)
  | some text => simpa using h.makes hP hf _ _ he

/-- The text that stands for an expression is shown. -/
lemma Plain.shown_shown {e : Expr} (h : e.Plain) : Shown e.shown.toList :=
  h.made_shown admits_isShown fun _ => by decide

end Expr

end Branchwise.Source
