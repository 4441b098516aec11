/-
What the trace of a walk tells.

A walk leaves one record for the function and one for each decision that it enters.
What a walk adds to its trace can be read off the tree, as its streams can: the trail.
A trail lists the decisions in the order of the walk, and counts, at each of them, the
statements that shape its two sides. Each of those is a decision with a record of its
own, or a terminal, so the counts add up to the records and the terminals.

* `Statement.record`, `Statement.trail`, `trailOf`: one record, and the trail.
* `walkStatement_trace`, `walkSide_trace`: the recursion adds the trail.
* `trail_balance`, `trailOf_balance`: the counts of a trail.
* `Function.length_guards`: a statement lies as deep as nodes enclose it.
* `Function.trailOf_eq`: a trail holds the records of the decisions, in order.
* `Site`, `Site.record`, `Function.sites`: a decision at its address, with the record
  that it should have, and all decisions of a function.
* `Function.Chronicle`, `trace_chronicle`: **the trace is a faithful account** of the
  tree and of the branches.
-/
import Mathlib.Algebra.GroupWithZero.Nat
import Branchwise.Proofs.KeptGuards

namespace Branchwise

/-! ### Trails -/

/-- The record of a decision that is reached in a context, at a depth. -/
def Statement.record (context : Context) (depth : Int) (s : Statement) : Record :=
  ⟨context, s.describe, depth, shapingCount s.onSuccess, shapingCount s.onFailure⟩

mutual

/-- What the walk of a statement found on the given side adds to the trace. -/
def Statement.trail (side : Outcome) (depth : Int) : Statement → List Record
  | s@(.conditional _ body orelse _ _) =>
    s.record (s.contextOn side) depth ::
      (trailOf .success depth body ++ trailOf .failure depth orelse)
  | s@(.guarded body handlers _ _ _) =>
    s.record (s.contextOn side) depth ::
      (trailOf .success depth body ++ trailOf .failure depth handlers)
  | .ret .. => []
  | .throw .. => []
  | .other .. => []

/-- What the statements on one side of a node at the given depth add to the trace. -/
def trailOf (side : Outcome) (depth : Int) : List Statement → List Record
  | [] => []
  | s :: ss => s.trail side (depth + 1) ++ trailOf side depth ss

end

namespace Statement

/-- The trail of a decision: its own record, and the trails of its two sides. -/
lemma trail_of_isDecision (side : Outcome) (depth : Int) {s : Statement}
    (h : s.isDecision = true) :
    s.trail side depth = s.record (s.contextOn side) depth ::
      (trailOf .success depth s.onSuccess ++ trailOf .failure depth s.onFailure) := by
  cases s with
  | conditional => rfl
  | guarded => rfl
  | ret => simp [isDecision] at h
  | throw => simp [isDecision] at h
  | other => simp [isDecision] at h

/-- Nothing but a decision leaves a trail. -/
lemma trail_of_not_isDecision (side : Outcome) (depth : Int) {s : Statement}
    (h : s.isDecision = false) : s.trail side depth = [] := by
  cases s with
  | conditional => simp [isDecision] at h
  | guarded => simp [isDecision] at h
  | ret => rfl
  | throw => rfl
  | other => rfl

end Statement

/-! ### The walk adds the trail -/

/-- If every statement of a side adds its trail, so does the side. -/
lemma walkSide_trace_of_forall (side : Outcome) (depth : Int) {ss : List Statement}
    (h : ∀ s ∈ ss, ∀ (depth : Int) (w : Walked),
      (walkStatement side (s.contextOn side) depth s w).trace = w.trace ++ s.trail side depth)
    (w : Walked) :
    (walkSide side depth ss w).trace = w.trace ++ trailOf side depth ss := by
  induction ss generalizing w with
  | nil => simp [walkSide, trailOf]
  | cons s ss ih =>
      have hs := h s (by simp)
      have hss := ih fun t ht => h t (by simp [ht])
      rw [walkSide, hss, hs, trailOf, List.append_assoc]

/-- The walk of a statement adds its trail to the trace. -/
lemma walkStatement_trace (side : Outcome) (depth : Int) (s : Statement) (w : Walked) :
    (walkStatement side (s.contextOn side) depth s w).trace = w.trace ++ s.trail side depth := by
  induction s using Statement.treeInd generalizing side depth w with
  | decision s h ihb ihf =>
      have hb := walkSide_trace_of_forall .success depth
        fun t ht depth w => ihb t ht .success depth w
      have hf := walkSide_trace_of_forall .failure depth
        fun t ht depth w => ihf t ht .failure depth w
      rw [walkStatement_of_isDecision side _ depth h, hf, hb, Walked.enter,
        Statement.trail_of_isDecision side depth h]
      simp [Statement.record]
  | terminal s h =>
      rw [walkStatement_of_isTerminal side _ depth h,
        Statement.trail_of_not_isDecision side depth (Statement.isDecision_of_isTerminal h),
        List.append_nil]
      rfl
  | other s h =>
      rw [walkStatement_of_not_shapesPath side _ depth h,
        Statement.trail_of_not_isDecision side depth (Statement.isDecision_of_not_shapesPath h),
        List.append_nil]

/-- The walk of a side adds the trails of its statements. -/
lemma walkSide_trace (side : Outcome) (depth : Int) (ss : List Statement) (w : Walked) :
    (walkSide side depth ss w).trace = w.trace ++ trailOf side depth ss :=
  walkSide_trace_of_forall side depth (fun s _ depth w => walkStatement_trace side depth s w) w

/-- The trace of a function: its own record, and the trail of its body. -/
lemma extractBranches_trace (f : Function) :
    (extractBranches f).trace =
      ⟨.root, f.qualifiedName, 0, shapingCount f.body, 0⟩ :: trailOf .success 0 f.body :=
  walkSide_trace .success 0 f.body _

/-! ### The counts of a trail -/

/-- The number of statements that a record counts, on both sides. -/
def Record.counted (r : Record) : Nat := r.success + r.fail

lemma Statement.counted_record (context : Context) (depth : Int) (s : Statement) :
    (s.record context depth).counted = shapingCount s.onSuccess + shapingCount s.onFailure := rfl

/-- The terminals in both streams of a statement that was found on the given side. -/
def Statement.exits (side : Outcome) (s : Statement) : Nat :=
  (s.stream .success side).countP isTerminal + (s.stream .failure side).countP isTerminal

/-- The terminals in both streams of the statements of one side. -/
def exitsOn (side : Outcome) (ss : List Statement) : Nat :=
  (streamOf .success side ss).countP Statement.isTerminal
    + (streamOf .failure side ss).countP Statement.isTerminal

lemma exitsOn_cons (side : Outcome) (s : Statement) (ss : List Statement) :
    exitsOn side (s :: ss) = s.exits side + exitsOn side ss := by
  simp only [exitsOn, Statement.exits, streamOf, List.countP_append]
  omega

lemma Statement.exits_of_isDecision (side : Outcome) {s : Statement} (h : s.isDecision = true) :
    s.exits side = exitsOn .success s.onSuccess + exitsOn .failure s.onFailure := by
  have hstream : ∀ o, (s.stream o side).countP isTerminal =
      (streamOf o .success s.onSuccess).countP isTerminal
        + (streamOf o .failure s.onFailure).countP isTerminal := by
    intro o
    rw [stream_of_isDecision o side h, List.countP_append, List.countP_append]
    split <;> simp [isTerminal_of_isDecision h]
  rw [exits, exitsOn, exitsOn, hstream, hstream]
  omega

/-- If the counts of each statement of a side add up, so do those of the side: the
statements that shape the side are what the node above it has counted. -/
lemma trailOf_balance_of_forall (side : Outcome) (depth : Int) {ss : List Statement}
    (h : ∀ s ∈ ss, ∀ depth : Int,
      ((s.trail side depth).map Record.counted).sum + (if s.shapesPath then 1 else 0) =
        (s.trail side depth).length + s.exits side) :
    ((trailOf side depth ss).map Record.counted).sum + shapingCount ss =
      (trailOf side depth ss).length + exitsOn side ss := by
  induction ss with
  | nil => rfl
  | cons s ss ih =>
      have hs := h s (by simp) (depth + 1)
      have hss := ih fun t ht => h t (by simp [ht])
      rw [trailOf, List.map_append, List.sum_append, List.length_append, shapingCount,
        List.countP_cons, ← shapingCount, exitsOn_cons]
      omega

/-- **The counts of a trail** add up to its records and the terminals, except that the
statement itself is counted by the node above it. -/
lemma trail_balance (side : Outcome) (depth : Int) (s : Statement) :
    ((s.trail side depth).map Record.counted).sum + (if s.shapesPath then 1 else 0) =
      (s.trail side depth).length + s.exits side := by
  induction s using Statement.treeInd generalizing side depth with
  | decision s h ihb ihf =>
      have hb := trailOf_balance_of_forall .success depth
        fun t ht depth => ihb t ht .success depth
      have hf := trailOf_balance_of_forall .failure depth
        fun t ht depth => ihf t ht .failure depth
      rw [Statement.trail_of_isDecision side depth h, Statement.exits_of_isDecision side h,
        if_pos (Statement.shapesPath_of_isDecision h), List.map_cons, List.sum_cons,
        List.map_append, List.sum_append, List.length_cons, List.length_append,
        Statement.counted_record]
      omega
  | terminal s h =>
      have hexits : s.exits side = 1 := by
        cases side <;> simp [Statement.exits, Statement.stream_of_isTerminal _ _ h, h]
      rw [Statement.trail_of_not_isDecision side depth (Statement.isDecision_of_isTerminal h),
        if_pos (Statement.shapesPath_of_isTerminal h), hexits]
      rfl
  | other s h =>
      have hexits : s.exits side = 0 := by
        simp [Statement.exits, Statement.stream_of_not_shapesPath _ _ h]
      rw [Statement.trail_of_not_isDecision side depth (Statement.isDecision_of_not_shapesPath h),
        hexits, h]
      rfl

lemma trailOf_balance (side : Outcome) (depth : Int) (ss : List Statement) :
    ((trailOf side depth ss).map Record.counted).sum + shapingCount ss =
      (trailOf side depth ss).length + exitsOn side ss :=
  trailOf_balance_of_forall side depth fun s _ depth => trail_balance side depth s

/-! ### Depth -/

lemma Function.marksAt_success {f : Function} {p : Address} :
    f.marksAt .success p = true ↔ ∃ s, f.at? p = some s ∧ s.isDecision = true := by
  simp [marksAt, Option.any_eq_true]

/-- What encloses a statement are decisions, besides the function itself. -/
lemma Function.marksAt_of_isPrefix {f : Function} {p q : Address} {s : Statement}
    (hp : f.at? p = some s) (h : q <+: p) (hne : q ≠ p) (hnil : q ≠ []) :
    f.marksAt .success q = true := by
  obtain ⟨rest, rfl⟩ := h
  obtain ⟨turn, rest, rfl⟩ := List.exists_cons_of_ne_nil (l := rest) (by rintro rfl; simp at hne)
  rw [f.at?_append hnil, Option.bind_eq_some_iff] at hp
  obtain ⟨t, ht, hs⟩ := hp
  exact marksAt_success.mpr ⟨t, ht, Statement.isDecision_of_at?_cons hs⟩

/-- **A statement lies as deep as nodes enclose it**, the function among them. -/
lemma Function.length_guards {f : Function} {p : Address} {s : Statement}
    (h : f.at? p = some s) : (f.guards .success p).length + 1 = p.length := by
  have hne : p ≠ [] := by
    rintro rfl
    cases h
  have hnodup : p.inits.Nodup := by
    refine p.pairwise_inits.imp fun {q r} hlt => ?_
    rintro rfl
    exact irrefl _ hlt
  have hguards : f.guards .success p = (p.inits.erase p).erase [] := by
    rw [(hnodup.erase p).erase_eq_filter, hnodup.erase_eq_filter, List.filter_filter, guards]
    refine List.filter_congr fun q hq => ?_
    have hmark : q ≠ p → (f.marksAt .success q = true ↔ q ≠ []) := by
      refine fun hqp => ⟨?_, marksAt_of_isPrefix h ((List.mem_inits q p).mp hq) hqp⟩
      rintro hmark rfl
      cases hmark
    by_cases hqp : q = p
    · simp [hqp]
    · rw [Bool.eq_iff_iff]
      simp [hqp, hmark hqp]
  have hmem : [] ∈ p.inits.erase p := by
    rw [hnodup.mem_erase_iff, List.mem_inits]
    exact ⟨hne.symm, List.nil_prefix⟩
  rw [hguards, List.length_erase_of_mem hmem,
    List.length_erase_of_mem ((List.mem_inits p p).mpr List.prefix_rfl), List.length_inits]
  have := List.length_pos_iff.mpr hne
  omega

/-! ### Trails by addresses -/

/-- The record of the decision that is found at an address, if one is. -/
def noted (side : Outcome) (depth : Int) (found : Address → Option Statement) (q : Address) :
    Option Record :=
  ((found q).filter Statement.isDecision).map fun s =>
    s.record (s.contextOn (q.lastSide side)) (depth + q.length)

lemma trailOf_eq_flatMap (side : Outcome) (depth : Int) (ss : List Statement) :
    trailOf side depth ss = ss.flatMap (Statement.trail side (depth + 1)) := by
  induction ss with
  | nil => rfl
  | cons s ss ih => rw [trailOf, ih, List.flatMap_cons]

/-- The trail of a side, if the trails of its statements are known. -/
lemma trailOf_eq_of_forall {side side' : Outcome} {depth : Int} {ss : List Statement}
    {found : Address → Option Statement}
    (hfound : ∀ i rest, found (⟨side, i⟩ :: rest) = ss[i]?.bind fun s => s.at? rest)
    (h : ∀ s ∈ ss, ∀ depth : Int,
      s.trail side depth = s.addresses.filterMap (noted side depth s.at?)) :
    trailOf side depth ss = (addressesOn side 0 ss).filterMap (noted side' depth found) := by
  rw [trailOf_eq_flatMap]
  refine (filterMap_addressesOn ss.drop_zero fun i s hs => ?_).symm
  rw [h s (List.mem_of_getElem? hs)]
  congr 1
  funext rest
  rw [noted, noted, hfound, hs, Address.lastSide_cons, Option.bind_some, List.length_cons]
  congr 1
  funext t
  congr 1
  push_cast
  omega

/-- The trail of a statement holds the records of its decisions, in the order of the
walk. -/
lemma Statement.trail_eq (side : Outcome) (depth : Int) (s : Statement) :
    s.trail side depth = s.addresses.filterMap (noted side depth s.at?) := by
  induction s using treeInd generalizing side depth with
  | decision s h ihb ihf =>
      have hb : trailOf .success depth s.onSuccess =
          (addressesOn .success 0 s.onSuccess).filterMap (noted side depth s.at?) :=
        trailOf_eq_of_forall (fun _ _ => rfl) fun t ht depth => ihb t ht .success depth
      have hf : trailOf .failure depth s.onFailure =
          (addressesOn .failure 0 s.onFailure).filterMap (noted side depth s.at?) :=
        trailOf_eq_of_forall (fun _ _ => rfl) fun t ht depth => ihf t ht .failure depth
      have hself : noted side depth s.at? [] = some (s.record (s.contextOn side) depth) := by
        simp [noted, at?, h, Address.lastSide]
      rw [addresses_eq, trail_of_isDecision side depth h, List.filterMap_cons_some hself,
        List.filterMap_append, hb, hf]
  | terminal s h =>
      have hsides : s.addresses = [[]] := by cases s <;> simp_all [addresses, isTerminal]
      have hdecision := isDecision_of_isTerminal h
      rw [trail_of_not_isDecision side depth hdecision, hsides]
      simp [noted, at?, hdecision]
  | other s h =>
      have hsides : s.addresses = [[]] := by cases s <;> simp_all [addresses, shapesPath]
      have hdecision := isDecision_of_not_shapesPath h
      rw [trail_of_not_isDecision side depth hdecision, hsides]
      simp [noted, at?, hdecision]

lemma Function.trailOf_eq (f : Function) :
    trailOf .success 0 f.body = f.addresses.filterMap (noted .success 0 f.at?) :=
  trailOf_eq_of_forall (fun _ _ => rfl) fun s _ depth => s.trail_eq .success depth

/-! ### The account of a trace -/

/-- A decision, and the address where it stands. -/
structure Site where
  address : Address
  node : Statement

/-- The record that the decision at a site should have. -/
def Site.record (f : Function) (x : Site) : Record where
  context := match x.node, x.address.lastSide .success with
    | .guarded .., .success => .inTry
    | .guarded .., .failure => .inCatch
    | _, .success => .inIf
    | _, .failure => .inElse
  description := x.node.describe
  depth := (f.guards .success x.address).length + 1
  success := shapingCount x.node.onSuccess
  fail := shapingCount x.node.onFailure

/-- The decisions of a function with their addresses, in the order of the walk. -/
def Function.sites (f : Function) : List Site :=
  f.addresses.filterMap fun p => ((f.at? p).filter Statement.isDecision).map (Site.mk p)

/-- The decision at a site is noted as it should be. -/
lemma Site.record_eq {f : Function} {p : Address} {s : Statement} (h : f.at? p = some s) :
    Site.record f ⟨p, s⟩ = s.record (s.contextOn (p.lastSide .success)) (0 + p.length) := by
  have hcontext : (Site.record f ⟨p, s⟩).context = s.contextOn (p.lastSide .success) := by
    cases s <;> cases hside : p.lastSide .success <;> simp [record, Statement.contextOn, hside]
  have hdepth : (Site.record f ⟨p, s⟩).depth = 0 + p.length := by
    rw [← Function.length_guards h]
    simp [record]
  rw [Statement.record, ← hcontext, ← hdepth]
  rfl

namespace Function

variable (f : Function)

/-- The records of the decisions are the trail of the body. -/
lemma map_record_sites : f.sites.map (Site.record f) = trailOf .success 0 f.body := by
  rw [f.trailOf_eq, sites, List.map_filterMap]
  congr 1
  funext p
  rw [noted, Option.map_map]
  refine Option.map_congr fun s hs => ?_
  exact Site.record_eq (Option.filter_eq_some_iff.mp hs).1

variable {f}

lemma mem_sites {x : Site} :
    x ∈ f.sites ↔ f.at? x.address = some x.node ∧ x.node.isDecision = true := by
  obtain ⟨p, s⟩ := x
  simp only [sites, List.mem_filterMap, Option.map_eq_some_iff, Option.filter_eq_some_iff,
    Site.mk.injEq]
  constructor
  · rintro ⟨_, -, _, hs, rfl, rfl⟩
    exact hs
  · intro hs
    exact ⟨p, mem_addresses.mpr (by simp [hs.1]), s, hs, rfl, rfl⟩

variable (f)

/-- The sites are in the order of the walk. -/
lemma pairwise_sites : (f.sites.map Site.address).Pairwise Address.Before := by
  rw [List.pairwise_map, sites, List.pairwise_filterMap]
  refine f.pairwise_addresses.imp fun hlt x hx y hy => ?_
  obtain ⟨_, -, rfl⟩ := Option.map_eq_some_iff.mp hx
  obtain ⟨_, -, rfl⟩ := Option.map_eq_some_iff.mp hy
  exact hlt

/-- The decisions in a stream are those of the function that the outcome records. -/
lemma map_node_sites (o : Outcome) :
    (f.sites.filter fun x => o == .success || x.node.canFail).map Site.node =
      (streamOf o .success f.body).filter fun s => !s.isTerminal := by
  have hstream := congrArg (List.filterMap fun s? : Option Statement =>
    s?.filter fun s => !s.isTerminal) (f.map_at?_recorded o)
  rw [List.filterMap_map, List.filterMap_map, List.filterMap_filter] at hstream
  have hsome : (fun s? : Option Statement => s?.filter fun s => !s.isTerminal) ∘ some =
      Option.guard fun s => !s.isTerminal := by
    funext s
    simp [Option.guard, Option.filter]
  rw [hsome, List.filterMap_eq_filter] at hstream
  rw [← hstream, sites, List.filter_filterMap, List.map_filterMap]
  congr 1
  funext q
  -- of what is recorded at an address, the decisions are what is no terminal
  cases hq : f.at? q with
  | none => simp [hq]
  | some s =>
      simp only [recorded, hq, Option.any_some, Statement.isEvent, Function.comp_apply,
        Option.filter_some]
      cases hs : s.isDecision with
      | true =>
          rw [Statement.isTerminal_of_isDecision hs]
          cases hmark : (o == .success || s.canFail) <;> simp [Option.filter_some, hmark]
      | false => cases hterminal : s.isTerminal <;> simp

end Function

/-- The books of a walk: the sites that it went by, one record for each, and what the
branches of the two outcomes hold. -/
structure Function.Chronicle (f : Function) (sites : List Site) (records : List Record) :
    Prop where
  /-- All decisions of the function, and nothing else. -/
  complete : ∀ x, x ∈ sites ↔ f.at? x.address = some x.node ∧ x.node.isDecision = true
  /-- A decision before what lies below it, and its body before its failure side. -/
  ordered : (sites.map Site.address).Pairwise Address.Before
  records : records = sites.map (Site.record f)
  /-- The steps of the success branches that are no terminals. -/
  success : sites.map Site.node =
    (extractBranches f).accumulator.success.rows.flatten.filter fun s => !s.isTerminal
  /-- The steps of the failure branches that are no terminals. -/
  failure : (sites.filter fun x => 0 < (x.record f).fail).map Site.node =
    (extractBranches f).accumulator.failure.rows.flatten.filter fun s => !s.isTerminal

/-- A record counts statements on the failure side exactly if the decision can fail. -/
lemma Site.fail_pos_iff (f : Function) (x : Site) :
    0 < (x.record f).fail ↔ x.node.canFail = true := by
  rw [record, Nat.pos_iff_ne_zero, Ne, shapingCount_eq_zero_iff, Statement.canFail]
  simp

lemma Function.chronicle (f : Function) : f.Chronicle f.sites (trailOf .success 0 f.body) where
  complete _ := mem_sites
  ordered := f.pairwise_sites
  records := f.map_record_sites.symm
  success := by
    have hall : (f.sites.filter fun x => Outcome.success == .success || x.node.canFail) = f.sites :=
      List.filter_eq_self.mpr fun _ _ => rfl
    rw [← hall, f.map_node_sites .success, ← extractBranches_flatten]
    rfl
  failure := by
    have hfail : (fun x : Site => decide (0 < (x.record f).fail)) =
        fun x => Outcome.failure == .success || x.node.canFail := by
      funext x
      rw [Bool.eq_iff_iff, decide_eq_true_iff, Site.fail_pos_iff]
      rfl
    rw [hfail, f.map_node_sites .failure, ← extractBranches_flatten]
    rfl

/-- **The trace is a faithful account of the walk.** The first record is that of the function,
and there is one more for each decision, in the order of the walk. It names the side that the
decision lies on and the number of nodes around it. The decisions are, in that order, the steps
of the success branches that are no terminals; those whose record counts a statement on the
failure side are the steps of the failure branches that are no terminals. All counts together
are as many as these records and the terminals of both collections. -/
theorem trace_chronicle (f : Function) :
    let w := extractBranches f
    ∃ sites records,
      w.trace = ⟨.root, f.qualifiedName, 0, shapingCount f.body, 0⟩ :: records ∧
      f.Chronicle sites records ∧
      (w.trace.map fun r => r.success + r.fail).sum = records.length
        + (w.accumulator.success.rows.flatten.countP Statement.isTerminal
          + w.accumulator.failure.rows.flatten.countP Statement.isTerminal) := by
  intro w
  refine ⟨f.sites, trailOf .success 0 f.body, extractBranches_trace f, f.chronicle, ?_⟩
  have hbalance := trailOf_balance .success 0 f.body
  rw [exitsOn, ← extractBranches_flatten, ← extractBranches_flatten] at hbalance
  calc (w.trace.map Record.counted).sum
      = shapingCount f.body + ((trailOf .success 0 f.body).map Record.counted).sum := by
        rw [extractBranches_trace, List.map_cons, List.sum_cons]
        rfl
    _ = (trailOf .success 0 f.body).length
        + (w.accumulator.success.rows.flatten.countP Statement.isTerminal
          + w.accumulator.failure.rows.flatten.countP Statement.isTerminal) := by
        rw [Nat.add_comm, hbalance]
        rfl

end Branchwise
