/-
Places in a statement tree.

Two statements of a tree may be equal without being the same one, so a place is
named by the way that leads to it: at each decision a side, and a number there.

* `Turn`, `Address`: one step down, and the whole way.
* `Statement.at?`, `Function.at?`: what stands at an address.
* `Address.Before`: the order in which a walk comes by: a decision before what lies
  below it, and its body before its failure side.
* `Statement.addresses`, `Function.addresses`: all addresses; `mem_addresses` says that
  none is left out, `pairwise_addresses` that they are in order.
* `Statement.isEvent`, `recorded`: is a statement, or what is found at an address, an
  event of a stream?
* `Function.map_at?_recorded`: **a stream is what stands at the recorded addresses**, in
  the order of the walk.
-/
import Mathlib.Data.List.Lex
import Mathlib.Data.List.Pairwise
import Branchwise.Proofs.Streams

namespace Branchwise

/-! ### Addresses -/

/-- One step down in a tree: to a side of a decision, and to a statement there. -/
structure Turn where
  side : Outcome
  number : Nat
  deriving Repr, DecidableEq

/-- The way to a statement, from the outside in. -/
abbrev Address := List Turn

namespace Statement

/-- The statements on a side of a decision. -/
def on (s : Statement) : Outcome → List Statement
  | .success => s.onSuccess
  | .failure => s.onFailure

/-- What stands at an address below a statement. -/
def at? : Statement → Address → Option Statement
  | s, [] => some s
  | s, turn :: rest => (s.on turn.side)[turn.number]?.bind fun t => t.at? rest

end Statement

/-- What stands at an address in a function, whose body is a success side. -/
def Function.at? (f : Function) : Address → Option Statement
  | [] => none
  | turn :: rest =>
    if turn.side = .success then f.body[turn.number]?.bind fun s => s.at? rest else none

/-- What stands below an address is found from there. -/
lemma Statement.at?_append (s : Statement) (p q : Address) :
    s.at? (p ++ q) = (s.at? p).bind fun t => t.at? q := by
  induction p generalizing s with
  | nil => rfl
  | cons turn p ih =>
      rw [List.cons_append, at?, at?, Option.bind_assoc]
      congr 1
      funext t
      exact ih t

lemma Function.at?_append (f : Function) {p : Address} (hp : p ≠ []) (q : Address) :
    f.at? (p ++ q) = (f.at? p).bind fun t => t.at? q := by
  obtain ⟨turn, rest, rfl⟩ := List.exists_cons_of_ne_nil hp
  rw [List.cons_append, at?, at?]
  split
  · rw [Option.bind_assoc]
    congr 1
    funext t
    exact t.at?_append rest q
  · rfl

/-- Only a decision has something below it. -/
lemma Statement.isDecision_of_at?_cons {s t : Statement} {turn : Turn} {rest : Address}
    (h : s.at? (turn :: rest) = some t) : s.isDecision = true := by
  obtain ⟨side, number⟩ := turn
  cases s <;> cases side <;> simp_all [at?, on, onSuccess, onFailure, isDecision]

/-! ### The order of the walk -/

/-- A body comes before a failure side, and on each side the numbers count. -/
def Turn.Before (t u : Turn) : Prop :=
  t.side = .success ∧ u.side = .failure ∨ t.side = u.side ∧ t.number < u.number

/-- The order in which a walk comes by. -/
def Address.Before : Address → Address → Prop :=
  List.Lex Turn.Before

instance : DecidableRel Turn.Before := fun t u =>
  inferInstanceAs (Decidable (t.side = .success ∧ u.side = .failure ∨
    t.side = u.side ∧ t.number < u.number))

namespace Address

instance : DecidableRel Before := List.Lex.decidableRel Turn.Before

instance : Std.Asymm Turn.Before where
  asymm t u h h' := by
    rcases h with ⟨ht, hu⟩ | ⟨hside, hlt⟩ <;> rcases h' with ⟨hu', ht'⟩ | ⟨hside', hlt'⟩
    · rw [ht] at ht'; cases ht'
    · rw [ht, hu] at hside'; cases hside'
    · rw [hu', ht'] at hside; cases hside
    · omega

instance : Std.Asymm Before := List.Lex.asymm Turn.Before

/-- A statement comes before all that lies below it. -/
lemma before_append (p : Address) {q : Address} (h : q ≠ []) : Before p (p ++ q) := by
  induction p with
  | nil =>
      obtain ⟨turn, rest, rfl⟩ := List.exists_cons_of_ne_nil h
      exact .nil
  | cons turn p ih => exact .cons ih

lemma before_of_isPrefix {p q : Address} (h : p <+: q) (hne : p ≠ q) : Before p q := by
  obtain ⟨rest, rfl⟩ := h
  refine before_append p ?_
  rintro rfl
  simp at hne

end Address

/-! ### All addresses -/

mutual

/-- The addresses of a statement itself and of all below it. -/
def Statement.addresses : Statement → List Address
  | .conditional _ body orelse _ _ =>
    [] :: (addressesOn .success 0 body ++ addressesOn .failure 0 orelse)
  | .guarded body handlers _ _ _ =>
    [] :: (addressesOn .success 0 body ++ addressesOn .failure 0 handlers)
  | .ret .. => [[]]
  | .throw .. => [[]]
  | .other .. => [[]]

/-- The addresses of statements on one side and of all below them; the first statement
has the given number. -/
def addressesOn (side : Outcome) (number : Nat) : List Statement → List Address
  | [] => []
  | s :: ss => s.addresses.map (⟨side, number⟩ :: ·) ++ addressesOn side (number + 1) ss

end

/-- The addresses in a function. -/
def Function.addresses (f : Function) : List Address :=
  addressesOn .success 0 f.body

lemma Statement.addresses_eq (s : Statement) :
    s.addresses =
      [] :: (addressesOn .success 0 s.onSuccess ++ addressesOn .failure 0 s.onFailure) := by
  cases s <;> simp [addresses, onSuccess, onFailure, addressesOn]

lemma mem_addressesOn {side : Outcome} {ss : List Statement} {number : Nat} {q : Address} :
    q ∈ addressesOn side number ss ↔
      ∃ i s rest, ss[i]? = some s ∧ rest ∈ s.addresses ∧ q = ⟨side, number + i⟩ :: rest := by
  induction ss generalizing number with
  | nil => simp [addressesOn]
  | cons s ss ih =>
      rw [addressesOn, List.mem_append, List.mem_map, ih]
      constructor
      · rintro (⟨rest, hrest, rfl⟩ | ⟨i, t, rest, ht, hrest, rfl⟩)
        · exact ⟨0, s, rest, rfl, hrest, rfl⟩
        · exact ⟨i + 1, t, rest, ht, hrest, by rw [Nat.add_right_comm, Nat.add_assoc]⟩
      · rintro ⟨i, t, rest, ht, hrest, rfl⟩
        cases i with
        | zero =>
            cases ht
            exact .inl ⟨rest, hrest, rfl⟩
        | succ i => exact .inr ⟨i, t, rest, ht, hrest, by rw [Nat.add_right_comm, Nat.add_assoc]⟩

/-- The addresses on a side are those that start with a turn to it. -/
lemma cons_mem_addressesOn {side : Outcome} {ss : List Statement} {turn : Turn} {rest : Address} :
    turn :: rest ∈ addressesOn side 0 ss ↔
      turn.side = side ∧ ∃ s, ss[turn.number]? = some s ∧ rest ∈ s.addresses := by
  rw [mem_addressesOn]
  constructor
  · rintro ⟨i, s, rest', hs, hrest, heq⟩
    obtain ⟨rfl, rfl⟩ := List.cons.inj heq
    exact ⟨rfl, s, by simpa using hs, hrest⟩
  · rintro ⟨rfl, s, hs, hrest⟩
    exact ⟨turn.number, s, rest, hs, hrest, by simp⟩

/-- The addresses below a statement are those where something stands. -/
lemma Statement.mem_addresses {s : Statement} {q : Address} :
    q ∈ s.addresses ↔ (s.at? q).isSome := by
  induction q generalizing s with
  | nil => simp [addresses_eq, at?]
  | cons turn rest ih =>
      rw [addresses_eq, at?, Option.isSome_bind]
      simp only [List.mem_cons, reduceCtorEq, false_or, List.mem_append, cons_mem_addressesOn, ih]
      obtain ⟨side, number⟩ := turn
      cases side <;> simp [on, Option.any_eq_true]

lemma Function.mem_addresses {f : Function} {q : Address} :
    q ∈ f.addresses ↔ (f.at? q).isSome := by
  cases q with
  | nil => simp [addresses, mem_addressesOn, at?]
  | cons turn rest =>
      rw [addresses, cons_mem_addressesOn, at?]
      split
      · next hside => simp [hside, Statement.mem_addresses, Option.isSome_bind, Option.any_eq_true]
      · next hside => simp [hside]

/-- What the addresses on a side give, if it is known what those below each of its
statements give. -/
lemma filterMap_addressesOn {β : Type} {side : Outcome} {all ss : List Statement} {number : Nat}
    {g : Address → Option β} {F : Statement → List β} (hss : all.drop number = ss)
    (h : ∀ i s, all[i]? = some s →
      s.addresses.filterMap (fun rest => g (⟨side, i⟩ :: rest)) = F s) :
    (addressesOn side number ss).filterMap g = ss.flatMap F := by
  induction ss generalizing number with
  | nil => rfl
  | cons s ss ih =>
      have hs : all[number]? = some s := by
        rw [← List.head?_drop, hss]
        rfl
      have hrest : all.drop (number + 1) = ss := by
        rw [← List.drop_drop, hss]
        rfl
      rw [addressesOn, List.filterMap_append, List.filterMap_map, List.flatMap_cons, ih hrest,
        ← h number s hs]
      rfl

/-- If the addresses below each statement of a side are in order, so are those of the
side. -/
lemma pairwise_addressesOn_of_forall (side : Outcome) {ss : List Statement}
    (h : ∀ s ∈ ss, s.addresses.Pairwise Address.Before) (number : Nat) :
    (addressesOn side number ss).Pairwise Address.Before := by
  induction ss generalizing number with
  | nil => exact .nil
  | cons s ss ih =>
      rw [addressesOn, List.pairwise_append, List.pairwise_map]
      refine ⟨(h s (by simp)).imp .cons, ih (fun t ht => h t (by simp [ht])) _, ?_⟩
      intro p hp q hq
      obtain ⟨rest, -, rfl⟩ := List.mem_map.mp hp
      obtain ⟨i, t, rest', -, -, rfl⟩ := mem_addressesOn.mp hq
      exact .rel (.inr ⟨rfl, by simp only; omega⟩)

/-- The addresses below a statement are in the order of the walk. -/
lemma Statement.pairwise_addresses (s : Statement) : s.addresses.Pairwise Address.Before := by
  induction s using treeInd with
  | decision s _ ihb ihf =>
      rw [addresses_eq, List.pairwise_cons, List.pairwise_append]
      refine ⟨fun q hq => ?_, pairwise_addressesOn_of_forall .success ihb 0,
        pairwise_addressesOn_of_forall .failure ihf 0, fun p hp q hq => ?_⟩
      · rw [List.mem_append, mem_addressesOn, mem_addressesOn] at hq
        rcases hq with ⟨_, _, _, -, -, rfl⟩ | ⟨_, _, _, -, -, rfl⟩ <;> exact .nil
      · obtain ⟨_, _, _, -, -, rfl⟩ := mem_addressesOn.mp hp
        obtain ⟨_, _, _, -, -, rfl⟩ := mem_addressesOn.mp hq
        exact .rel (.inl ⟨rfl, rfl⟩)
  | terminal s h => cases s <;> simp_all [addresses, isTerminal]
  | other s h => cases s <;> simp_all [addresses, shapesPath]

lemma Function.pairwise_addresses (f : Function) : f.addresses.Pairwise Address.Before :=
  pairwise_addressesOn_of_forall .success (fun s _ => s.pairwise_addresses) 0

/-! ### Recorded addresses -/

/-- Is a statement found on the side `side` an event of the stream of the outcome `o`? -/
def Statement.isEvent (o side : Outcome) (s : Statement) : Bool :=
  s.isDecision && (o == .success || s.canFail) || s.isTerminal && side == o

/-- The side that the statement at an address was found on; the empty address is that of a
statement found on the side `side`. -/
def Address.lastSide (side : Outcome) (q : Address) : Outcome :=
  (q.getLast?.map Turn.side).getD side

lemma Address.lastSide_cons (side : Outcome) (turn : Turn) (rest : Address) :
    lastSide side (turn :: rest) = lastSide turn.side rest := by
  rw [lastSide, List.getLast?_cons, lastSide]
  cases rest.getLast? <;> rfl

/-- Is what is found at an address an event of the stream of the outcome `o`? -/
def recorded (o side : Outcome) (found : Address → Option Statement) (q : Address) : Bool :=
  (found q).any fun s => s.isEvent o (q.lastSide side)

/-- The recorded addresses on a side, if those below each of its statements are known. -/
lemma map_recorded_addressesOn {o side side' : Outcome} {found : Address → Option Statement}
    {ss : List Statement}
    (hfound : ∀ i rest, found (⟨side, i⟩ :: rest) = ss[i]?.bind fun s => s.at? rest)
    (h : ∀ s ∈ ss, (s.addresses.filter (recorded o side s.at?)).map s.at? =
      (s.stream o side).map some) :
    ((addressesOn side 0 ss).filter (recorded o side' found)).map found =
      (streamOf o side ss).map some := by
  rw [streamOf_eq_flatMap, List.map_flatMap, ← List.filterMap_eq_map, List.filterMap_filter]
  refine filterMap_addressesOn ss.drop_zero fun i s hs => ?_
  have hbelow : (fun rest => found (⟨side, i⟩ :: rest)) = s.at? := by
    funext rest
    rw [hfound, hs]
    rfl
  rw [← h s (List.mem_of_getElem? hs), ← List.filterMap_eq_map, List.filterMap_filter]
  congr 1
  funext rest
  rw [recorded, recorded, Address.lastSide_cons, ← hbelow]
  rfl

/-- The stream of a statement is what stands at its recorded addresses. -/
lemma Statement.map_at?_recorded (o side : Outcome) (s : Statement) :
    (s.addresses.filter (recorded o side s.at?)).map s.at? = (s.stream o side).map some := by
  induction s using treeInd generalizing side with
  | decision s hs ihb ihf =>
      have hb : ((addressesOn .success 0 s.onSuccess).filter (recorded o side s.at?)).map s.at? =
          (streamOf o .success s.onSuccess).map some :=
        map_recorded_addressesOn (fun _ _ => rfl) fun t ht => ihb t ht .success
      have hf : ((addressesOn .failure 0 s.onFailure).filter (recorded o side s.at?)).map s.at? =
          (streamOf o .failure s.onFailure).map some :=
        map_recorded_addressesOn (fun _ _ => rfl) fun t ht => ihf t ht .failure
      rw [addresses_eq, stream_of_isDecision o side hs, List.filter_cons, List.filter_append]
      have hself : recorded o side s.at? [] = (o = .success || s.canFail) := by
        cases o <;> simp [recorded, at?, isEvent, hs, isTerminal_of_isDecision hs]
      rw [hself]
      split <;> simp [hb, hf, at?]
  | terminal s h =>
      have hsides : s.addresses = [[]] := by cases s <;> simp_all [addresses, isTerminal]
      rw [hsides, stream_of_isTerminal o side h]
      by_cases hside : side = o <;>
        simp [recorded, at?, isEvent, isDecision_of_isTerminal h, h, Address.lastSide, hside]
  | other s h =>
      have hsides : s.addresses = [[]] := by cases s <;> simp_all [addresses, shapesPath]
      have hevent : ∀ side, s.isEvent o side = false := by
        intro side
        cases s <;> simp_all [isEvent, isDecision, isTerminal, shapesPath]
      rw [hsides, stream_of_not_shapesPath o side h]
      simp [recorded, at?, hevent]

/-- **A stream is what stands at the recorded addresses**, in the order of the walk. -/
lemma Function.map_at?_recorded (o : Outcome) (f : Function) :
    (f.addresses.filter (recorded o .success f.at?)).map f.at? =
      (streamOf o .success f.body).map some :=
  map_recorded_addressesOn (fun _ _ => rfl) fun s _ => s.map_at?_recorded o .success

end Branchwise
