/-
Readers on tokens of known kinds.

A reader looks at the kinds of tokens only; their lines go into what it gives. So
the kinds of the tokens say how it runs, and the rules below run it on them.

* `Runs`: what a run gives and leaves of tokens of given kinds; `Gives` and `Takes`
  for a run that succeeds, `Fails` for one that does not.
* `Runs.bind`, …: one rule for each way to build a reader.
* `gives_expressionAt`: an atom with its trailers, in front of a token that continues
  no expression, is an expression.
-/
import Branchwise.Proofs.ReaderLogic

namespace Branchwise.Source.Grammar

variable {α β : Type}

/-! ### Runs -/

/-- What a run of the reader on tokens of these kinds gives, and the kinds of the
tokens that it leaves: `none` if it fails. -/
def Runs (r : Reader α) (ks : List Token.Kind)
    (Q : Option (α × List Token.Kind) → Prop) : Prop :=
  ∀ ts, ts.map Token.kind = ks → Q ((r ts).map fun (a, rest) => (a, rest.map Token.kind))

/-- The reader gives this value, and leaves tokens of these kinds. -/
abbrev Gives (r : Reader α) (ks : List Token.Kind) (a : α) (ks' : List Token.Kind) : Prop :=
  Runs r ks (· = some (a, ks'))

/-- The reader gives a value of this kind, and leaves tokens of these kinds. -/
abbrev Takes (r : Reader α) (ks : List Token.Kind) (P : α → Prop) (ks' : List Token.Kind) : Prop :=
  Runs r ks fun o => ∃ a, o = some (a, ks') ∧ P a

/-- The reader fails. -/
abbrev Fails (r : Reader α) (ks : List Token.Kind) : Prop :=
  Runs r ks (· = none)

section Rules

variable {r : Reader α} {f : α → Reader β} {ks ks' : List Token.Kind} {k k' : Token.Kind} {a : α}
  {P : α → Prop} {Q : Option (β × List Token.Kind) → Prop}

lemma Runs.mono {Q Q' : Option (α × List Token.Kind) → Prop} (h : Runs r ks Q)
    (hQ : ∀ o, Q o → Q' o) : Runs r ks Q' :=
  fun ts hts => hQ _ (h ts hts)

/-- What a reader gives may be used by the reader behind it. -/
lemma Runs.bind {P : Option (α × List Token.Kind) → Prop} (h : Runs r ks P)
    (hnone : P none → Q none) (hsome : ∀ a ks', P (some (a, ks')) → Runs (f a) ks' Q) :
    Runs (r >>= f) ks Q := by
  intro ts hts
  have hr := h ts hts
  change Q ((Option.bind (r ts) fun p => f p.1 p.2).map _)
  cases hrun : r ts with
  | none =>
      rw [hrun] at hr
      exact hnone hr
  | some p =>
      rw [hrun] at hr
      exact hsome p.1 _ hr p.2 rfl

lemma Runs.take (h : Takes r ks P ks') (hf : ∀ a, P a → Runs (f a) ks' Q) :
    Runs (r >>= f) ks Q := by
  refine h.bind (by simp) ?_
  rintro a _ ⟨_, ⟨⟩, ha⟩
  exact hf a ha

lemma Runs.give (h : Gives r ks a ks') (hf : Runs (f a) ks' Q) : Runs (r >>= f) ks Q := by
  refine h.bind (by simp) ?_
  rintro _ _ ⟨⟩
  exact hf

lemma Runs.fail (h : Fails r ks) (hQ : Q none) : Runs (r >>= f) ks Q :=
  h.bind (fun _ => hQ) (by simp)

lemma runs_pure {Q : Option (α × List Token.Kind) → Prop} (h : Q (some (a, ks))) :
    Runs (pure a) ks Q := by
  rintro ts rfl
  exact h

lemma runs_failure {Q : Option (α × List Token.Kind) → Prop} (h : Q none) :
    Runs (failure : Reader α) ks Q :=
  fun _ _ => h

/-! ### Single tokens -/

lemma gives_peek : Gives peek (k :: ks) k (k :: ks) := by
  intro ts hts
  obtain ⟨t, ts, rfl, rfl, rfl⟩ := List.map_eq_cons_iff.mp hts
  rfl

/-- The line of a token does not matter to the run. -/
lemma takes_line : Takes line ks (fun _ => True) ks := by
  rintro ts rfl
  cases ts with
  | nil => exact ⟨0, rfl, True.intro⟩
  | cons t ts => exact ⟨t.line, rfl, True.intro⟩

lemma gives_skip : Gives skip (k :: ks) () ks := by
  intro ts hts
  obtain ⟨t, ts, rfl, -, rfl⟩ := List.map_eq_cons_iff.mp hts
  rfl

lemma gives_token : Gives (token k) (k :: ks) () ks := by
  refine gives_peek.give ?_
  rw [if_pos rfl]
  exact gives_skip

lemma gives_isNext : Gives (isNext k) (k' :: ks) (decide (k' = k)) (k' :: ks) :=
  gives_peek.give (runs_pure rfl)

lemma gives_acceptToken : Gives (acceptToken k) (k :: ks) true ks := by
  refine gives_peek.give ?_
  rw [if_pos rfl]
  exact gives_skip.give (runs_pure rfl)

/-- Another token is left. -/
lemma gives_acceptToken_of_ne (h : k' ≠ k) : Gives (acceptToken k) (k' :: ks) false (k' :: ks) := by
  refine gives_peek.give ?_
  rw [if_neg h]
  exact runs_pure rfl

lemma gives_identifier {spelling form : String} :
    Gives identifier (.name spelling form :: ks) form ks :=
  gives_peek.give (gives_skip.give (runs_pure rfl))

/-- A reserved word is no name. -/
lemma fails_identifier {w : Keyword} : Fails identifier (.keyword w :: ks) :=
  gives_peek.give (runs_failure rfl)

lemma gives_nameBefore? {s : Symbol} (h : k' ≠ .symbol s) :
    Gives (nameBefore? s) (k :: k' :: ks) none (k :: k' :: ks) := by
  intro ts hts
  obtain ⟨t, us, rfl, rfl, hus⟩ := List.map_eq_cons_iff.mp hts
  obtain ⟨t', vs, rfl, rfl, rfl⟩ := List.map_eq_cons_iff.mp hus
  rw [nameBefore?.eq_def]
  split
  · next heq =>
    cases heq
    rw [if_neg fun heq => h (by rw [heq])]
    rfl
  · rfl

/-! ### Lists -/

section Chain

variable {step : Reader (Option α)} {bound : Nat} {ks'' : List Token.Kind}

lemma gives_chain_nil (h : Gives step ks none ks') (hbound : 0 < bound) :
    Gives (chain step bound) ks [] ks' := by
  obtain ⟨n, rfl⟩ := Nat.exists_eq_add_one_of_ne_zero hbound.ne'
  exact h.give (runs_pure rfl)

lemma fails_chain (h : Fails step ks) : Fails (chain step bound) ks := by
  cases bound with
  | zero => exact runs_failure rfl
  | succ n => exact h.fail rfl

/-- A round that takes an item, and what the others make of it. -/
lemma runs_chain_cons {Q : Option (List α × List Token.Kind) → Prop}
    (h : Takes step ks (fun o => ∃ a, o = some a ∧ P a) ks')
    (hmore : ∀ a, P a → Runs (chain step bound) ks'
      fun o => Q (o.map fun (l, rest) => (a :: l, rest))) :
    Runs (chain step (bound + 1)) ks Q := by
  refine h.take ?_
  rintro _ ⟨a, rfl, ha⟩
  exact (hmore a ha).bind id fun l rest hl => runs_pure hl

variable {flag : Reader Bool} {item : Reader α}

/-- No item where the flag says so. -/
lemma gives_guarded_none (h : Gives flag ks false ks') :
    Gives (do if ← flag then return some (← item) else return none : Reader (Option α)) ks none
      ks' := by
  refine h.give ?_
  exact runs_pure rfl

lemma takes_guarded_some (h : Gives flag ks true ks') (hitem : Takes item ks' P ks'') :
    Takes (do if ← flag then return some (← item) else return none : Reader (Option α)) ks
      (fun o => ∃ a, o = some a ∧ P a) ks'' := by
  refine h.give (hitem.take fun a ha => ?_)
  exact runs_pure ⟨_, rfl, a, rfl, ha⟩

/-- The end of a list that a token ends. -/
lemma gives_until_end :
    Gives (do if ← acceptToken k then return none else return some (← item) : Reader (Option α))
      (k :: ks) none ks := by
  refine gives_acceptToken.give ?_
  exact runs_pure rfl

lemma takes_until_item (hk : k' ≠ k) (h : Takes item (k' :: ks) P ks') :
    Takes (do if ← acceptToken k then return none else return some (← item) : Reader (Option α))
      (k' :: ks) (fun o => ∃ a, o = some a ∧ P a) ks' := by
  refine (gives_acceptToken_of_ne hk).give (h.take fun a ha => ?_)
  exact runs_pure ⟨_, rfl, a, rfl, ha⟩

lemma fails_until_item (hk : k' ≠ k) (h : Fails item (k' :: ks)) :
    Fails (do if ← acceptToken k then return none else return some (← item) : Reader (Option α))
      (k' :: ks) := by
  refine (gives_acceptToken_of_ne hk).give ?_
  exact h.fail rfl

lemma fails_guarded (h : Gives flag ks true ks') (hitem : Fails item ks') :
    Fails (do if ← flag then return some (← item) else return none : Reader (Option α)) ks := by
  refine h.give ?_
  exact hitem.fail rfl

end Chain

end Rules

/-! ### Expressions -/

/-- An atom starts with the token. -/
def HeadsAtom (k : Token.Kind) : Prop :=
  (∃ spelling form, k = .name spelling form) ∨ ∃ q, k = .text q

/-- No expression goes on at the token. -/
def EndsExpression (k : Token.Kind) : Prop :=
  k = .newline ∨ k = .symbol .rparen

lemma HeadsAtom.ne_keyword {k : Token.Kind} (h : HeadsAtom k) (w : Keyword) : k ≠ .keyword w := by
  rcases h with ⟨_, _, rfl⟩ | ⟨_, rfl⟩
  · simp
  · simp

lemma HeadsAtom.ne_symbol {k : Token.Kind} (h : HeadsAtom k) (s : Symbol) : k ≠ .symbol s := by
  rcases h with ⟨_, _, rfl⟩ | ⟨_, rfl⟩
  · simp
  · simp

lemma EndsExpression.ne_keyword {k : Token.Kind} (h : EndsExpression k) (w : Keyword) :
    k ≠ .keyword w := by
  rcases h with rfl | rfl
  · simp
  · simp

lemma EndsExpression.ne_symbol {k : Token.Kind} (h : EndsExpression k) {s : Symbol}
    (hs : s ≠ .rparen) : k ≠ .symbol s := by
  rcases h with rfl | rfl
  · simp
  · simpa using hs.symm

/-- What is left behind an expression starts with a token at which none goes on. -/
def Ended (Q : Option (Expr × List Token.Kind) → Prop) : Prop :=
  ∀ e ks, Q (some (e, ks)) → ∃ k ks', ks = k :: ks' ∧ EndsExpression k

lemma ended_gives {e : Expr} {k : Token.Kind} {ks : List Token.Kind} (h : EndsExpression k) :
    Ended (· = some (e, k :: ks)) := by
  rintro _ _ ⟨⟩
  exact ⟨k, ks, rfl, h⟩

section Levels

variable {ks : List Token.Kind} {k : Token.Kind} {bound : Nat}
  {Q : Option (Expr × List Token.Kind) → Prop} (hQ : Ended Q)
include hQ

/-- One level of operators: none follows. -/
lemma runs_level {ops : Token.Kind → Option BinaryOp} {operand : Reader Expr}
    (hops : ∀ k, EndsExpression k → ops k = none) (h : Runs operand ks Q) (hbound : 0 < bound) :
    Runs (do let first ← operand; leftChain ops operand bound first) ks Q := by
  obtain ⟨n, rfl⟩ := Nat.exists_eq_add_one_of_ne_zero hbound.ne'
  refine h.bind id fun e ks he => ?_
  obtain ⟨k, ks, rfl, hend⟩ := hQ e ks he
  refine gives_peek.give ?_
  rw [hops k hend]
  exact runs_pure he

/-- Operands that a reserved word would join: none follows. -/
lemma runs_joined {operand : Reader Expr} {op : BoolOp} {w : Keyword} (h : Runs operand ks Q)
    (hbound : 0 < bound) :
    Runs (do
      let first ← operand
      let rest ← chain (do
        if ← acceptWord w then return some (← operand) else return none) bound
      return joinBoolean op first rest) ks Q := by
  refine h.bind id fun e ks he => ?_
  obtain ⟨k, ks, rfl, hend⟩ := hQ e ks he
  refine (gives_chain_nil (gives_guarded_none ?_) hbound).give (runs_pure he)
  exact gives_acceptToken_of_ne (hend.ne_keyword w)

lemma runs_factorWith {primary : Reader Expr} (hk : HeadsAtom k) (h : Runs primary (k :: ks) Q)
    (hbound : 0 < bound) : Runs (Inner.factorWith primary bound) (k :: ks) Q := by
  obtain ⟨n, rfl⟩ := Nat.exists_eq_add_one_of_ne_zero hbound.ne'
  have hsign : signOp? k = none := by
    rcases hk with ⟨_, _, rfl⟩ | ⟨_, rfl⟩
    · rfl
    · rfl
  refine gives_peek.give ?_
  rw [hsign]
  refine (gives_acceptToken_of_ne (hk.ne_keyword _)).give (h.bind id fun e ks he => ?_)
  obtain ⟨k, ks, rfl, hend⟩ := hQ e ks he
  exact (gives_acceptToken_of_ne (hend.ne_symbol (by decide))).give (runs_pure he)

/-- An expression among items: no other item follows. -/
lemma runs_starExpressions {g : Inner} {l : Inner.Levels} (hk : HeadsAtom k)
    (h : Runs g.expression (k :: ks) Q) :
    Runs (g.starExpressions l) (k :: ks) Q := by
  have hone : Runs (g.starExpression l) (k :: ks) Q :=
    (gives_acceptToken_of_ne (hk.ne_symbol _)).give h
  refine hone.bind id fun e ks he => ?_
  obtain ⟨k, ks, rfl, hend⟩ := hQ e ks he
  have hcomma : Gives (isSymbol .comma) (k :: ks) false (k :: ks) := by
    have := decide_eq_false (hend.ne_symbol (by decide : Symbol.comma ≠ .rparen))
    exact this ▸ gives_isNext
  exact Runs.give (hcomma.give (runs_pure rfl)) (runs_pure he)

variable {g : Inner} (hbound : 0 < g.bound)
include hbound

lemma runs_bitOrWith {factor : Reader Expr} (h : Runs factor ks Q) :
    Runs (g.bitOrWith factor) ks Q := by
  have hops : ∀ ops ∈ [bitOrOp?, bitXorOp?, bitAndOp?, shiftOp?, sumOp?, termOp?],
      ∀ k, EndsExpression k → ops k = none := by
    rintro ops hops k (rfl | rfl)
    · revert ops
      decide
    · revert ops
      decide
  simp only [List.forall_mem_cons, List.not_mem_nil, false_implies, implies_true] at hops
  obtain ⟨hor, hxor, hand, hshift, hsum, hterm, -⟩ := hops
  exact runs_level hQ hor (runs_level hQ hxor (runs_level hQ hand (runs_level hQ hshift
    (runs_level hQ hsum (runs_level hQ hterm h hbound) hbound) hbound) hbound) hbound) hbound

lemma runs_comparisonWith {bitOr : Reader Expr} (h : Runs bitOr ks Q) :
    Runs (g.comparisonWith bitOr) ks Q := by
  refine h.bind id fun e ks he => ?_
  obtain ⟨k, ks, rfl, hend⟩ := hQ e ks he
  have hop : Gives compareOp? (k :: ks) none (k :: ks) := by
    refine gives_peek.give ?_
    rcases hend with rfl | rfl
    · exact runs_pure rfl
    · exact runs_pure rfl
  refine Runs.give (gives_chain_nil (hop.give (runs_pure rfl)) hbound) ?_
  exact runs_pure he

/-- **The levels above a primary change nothing** where no operator follows. -/
lemma runs_disjunction {primary : Reader Expr} (hk : HeadsAtom k) (h : Runs primary (k :: ks) Q) :
    Runs (g.levelsAbove primary).disjunction (k :: ks) Q := by
  have hcomparison := runs_comparisonWith hQ hbound
    (runs_bitOrWith hQ hbound (runs_factorWith hQ hk h hbound))
  have hinversion : Runs (Inner.inversionWith
      (g.comparisonWith (g.bitOrWith (Inner.factorWith primary g.bound))) g.bound) (k :: ks) Q := by
    obtain ⟨n, hn⟩ := Nat.exists_eq_add_one_of_ne_zero hbound.ne'
    rw [hn, Inner.inversionWith, ← hn]
    exact (gives_acceptToken_of_ne (hk.ne_keyword _)).give hcomparison
  exact runs_joined hQ (runs_joined hQ hinversion hbound) hbound

lemma runs_expressionWith (hk : HeadsAtom k) (h : Runs g.levels.primary (k :: ks) Q) :
    Runs g.expressionWith (k :: ks) Q := by
  refine (gives_acceptToken_of_ne (hk.ne_keyword _)).give ?_
  refine (runs_disjunction hQ hbound hk h).bind id fun e ks he => ?_
  obtain ⟨k, ks, rfl, hend⟩ := hQ e ks he
  exact (gives_acceptToken_of_ne (hend.ne_keyword _)).give (runs_pure he)

end Levels

section Atoms

variable {ks ks' : List Token.Kind} {k : Token.Kind} {e : Expr} {bound : Nat} {g : Inner}

/-! ### Atoms and trailers -/

variable {l : Inner.Levels}

lemma gives_atom_name {spelling form : String} :
    Gives (g.atom l) (.name spelling form :: ks) (.name form) ks :=
  gives_peek.give (gives_skip.give (runs_pure rfl))

/-- The constant of a text without a prefix. -/
def textConstant (codes : List Nat) : Expr :=
  .constant (.text false codes)

lemma ofQuotations_plain (r : Reader Expr) (body : List Char) :
    g.ofQuotations r [⟨false, false, false, false, body⟩] =
      (unescape g.charNamed false body).map textConstant := by
  rw [Inner.ofQuotations]
  cases hcodes : unescape g.charNamed false body with
  | none => simp [Inner.quotationParts, bodyCodes, hcodes]
  | some codes =>
      cases codes with
      | nil => simp [Inner.quotationParts, bodyCodes, hcodes, mergeTexts, textConstant]
      | cons c cs => simp [Inner.quotationParts, bodyCodes, hcodes, mergeTexts, textConstant]

/-- The one text that is next. -/
lemma gives_quotations {q : Quotation} (hk : ∀ q', k ≠ .text q') (hbound : 1 < bound) :
    Gives (quotations bound) (.text q :: k :: ks) [q] (k :: ks) := by
  obtain ⟨n, rfl⟩ := Nat.exists_eq_add_one_of_ne_zero (by omega : bound ≠ 0)
  have hstop : Gives (quotations n) (k :: ks) [] (k :: ks) := by
    refine gives_chain_nil (gives_peek.give ?_) (by omega)
    split
    · next q' => exact absurd rfl (hk q')
    · exact runs_pure rfl
  refine Runs.give (gives_peek.give (gives_skip.give (runs_pure rfl))) ?_
  exact hstop.give (runs_pure rfl)

/-- What a text without a prefix denotes decides whether it can be read. -/
lemma runs_atom_text {Q : Option (Expr × List Token.Kind) → Prop} {body : List Char}
    (hend : EndsExpression k) (hbound : 1 < g.bound)
    (hQ : Q ((unescape g.charNamed false body).map fun codes => (textConstant codes, k :: ks))) :
    Runs (g.atom l) (.text ⟨false, false, false, false, body⟩ :: k :: ks) Q := by
  have hk : ∀ q', k ≠ .text q' := by
    rcases hend with rfl | rfl
    · simp
    · simp
  refine gives_peek.give (Runs.give (gives_quotations hk hbound) ?_)
  dsimp only [List.isEmpty_cons]
  rw [if_neg Bool.false_ne_true, ofQuotations_plain]
  cases hcodes : unescape g.charNamed false body with
  | none =>
      rw [hcodes] at hQ
      exact runs_failure hQ
  | some codes =>
      rw [hcodes] at hQ
      exact runs_pure hQ

lemma gives_trailers_nil (hend : EndsExpression k) (hbound : 0 < bound) :
    Gives (g.trailers l bound e) (k :: ks) e (k :: ks) := by
  obtain ⟨n, rfl⟩ := Nat.exists_eq_add_one_of_ne_zero hbound.ne'
  refine gives_peek.give ?_
  rcases hend with rfl | rfl
  · exact runs_pure rfl
  · exact runs_pure rfl

variable {e' : Expr}

lemma gives_trailers_member {spelling form : String}
    (h : Gives (g.trailers l bound (.member e form)) ks e' ks') :
    Gives (g.trailers l (bound + 1) e) (.symbol .dot :: .name spelling form :: ks) e' ks' :=
  gives_peek.give (gives_skip.give (gives_identifier.give h))

lemma gives_isClause (hend : EndsExpression k) :
    Gives Inner.isClause (k :: ks) false (k :: ks) := by
  refine gives_isNext.give (gives_isNext.give (runs_pure ?_))
  rw [decide_eq_false (hend.ne_keyword _), decide_eq_false (hend.ne_keyword _)]
  rfl

/-- A call with one text as its argument. -/
lemma gives_callArguments {codes : List Nat} {item disjunction : Reader Expr} (hk : HeadsAtom k)
    (hbound : 0 < g.bound)
    (h : Gives g.expression (k :: .symbol .rparen :: ks) (textConstant codes)
      (.symbol .rparen :: ks)) :
    Gives (g.callArguments item disjunction) (k :: .symbol .rparen :: ks)
      ([textConstant codes], []) ks := by
  have hnamed : Gives g.named (k :: .symbol .rparen :: ks) (textConstant codes)
      (.symbol .rparen :: ks) :=
    (gives_nameBefore? (by decide)).give h
  have hargument : Gives (g.argument ⟨[], [], .open⟩) (k :: .symbol .rparen :: ks)
      ⟨[textConstant codes], [], .open⟩ (.symbol .rparen :: ks) := by
    refine (gives_acceptToken_of_ne (hk.ne_symbol _)).give ?_
    refine (gives_acceptToken_of_ne (hk.ne_symbol _)).give ?_
    exact (gives_nameBefore? (by decide)).give (hnamed.give (runs_pure rfl))
  have hloop : Gives (g.argumentLoop g.bound ⟨[textConstant codes], [], .open⟩)
      (.symbol .rparen :: ks) ⟨[textConstant codes], [], .open⟩ (.symbol .rparen :: ks) := by
    obtain ⟨n, hn⟩ := Nat.exists_eq_add_one_of_ne_zero hbound.ne'
    rw [hn, Inner.argumentLoop]
    exact (gives_acceptToken_of_ne (by decide)).give (runs_pure rfl)
  refine (gives_acceptToken_of_ne (hk.ne_symbol _)).give (hargument.give ?_)
  refine (gives_isClause (.inr rfl)).give (hloop.give ?_)
  exact gives_token.give (runs_pure rfl)

lemma gives_trailers_call {args : List Expr} {keywords : List Argument} {ks'' : List Token.Kind}
    (hargs : Gives (g.callArguments l.primary l.disjunction) ks (args, keywords) ks')
    (h : Gives (g.trailers l bound (.call e args keywords)) ks' e' ks'') :
    Gives (g.trailers l (bound + 1) e) (.symbol .lparen :: ks) e' ks'' :=
  gives_peek.give (gives_skip.give (hargs.give h))

/-- An atom with its trailers, whatever the levels of what nests in it are. -/
lemma runs_primaryAt {Q : Option (Expr × List Token.Kind) → Prop} {depth : Nat}
    (hdepth : 0 < depth)
    (h : ∀ l, Runs (do let e ← g.atom l; g.trailers l g.bound e) ks Q) :
    Runs (g.primaryAt depth) ks Q := by
  obtain ⟨n, rfl⟩ := Nat.exists_eq_add_one_of_ne_zero hdepth.ne'
  exact h _

end Atoms

/-- **An atom with its trailers is an expression**, however deep expressions may nest. -/
lemma runs_expressionAt {ks : List Token.Kind} {k : Token.Kind} {bound depth : Nat}
    {charNamed : List Char → Option Char} {Q : Option (Expr × List Token.Kind) → Prop}
    (hQ : Ended Q) (hk : HeadsAtom k) (hbound : 0 < bound)
    (h : ∀ l, Runs (do
      let e ← Inner.atom ⟨bound, charNamed, expressionAt bound charNamed depth⟩ l
      Inner.trailers ⟨bound, charNamed, expressionAt bound charNamed depth⟩ l bound e)
        (k :: ks) Q) :
    Runs (expressionAt bound charNamed (depth + 1)) (k :: ks) Q :=
  runs_expressionWith hQ hbound hk (runs_primaryAt hbound h)

end Branchwise.Source.Grammar
