/-
The two outcomes do not interfere.

A decision on a failure side is recorded for success too, and a decision in a body may be
recorded for failure, so the two collections of a walk are not filled by separate walks.
Still, a terminal is an event of its own side only. A tree is muted for an outcome by
leaving out, at every depth, the terminals on the side of that outcome; the stream of the
other outcome does not notice.

* `Outcome.other`: the other outcome.
* `Statement.muted`, `mute`: muted trees.
* `Statement.stream_muted`, `streamOf_mute`: the stream of the other outcome is the same,
  up to what lies below its steps.
* `Collection.bare_feed`: what lies below the steps does not matter to a collection.
* `reports_eq_of_mute`: **the outcomes do not interfere**.
-/
import Branchwise.Proofs.Streams
import Branchwise.Proofs.Views

namespace Branchwise

/-! ### Muted trees -/

/-- The other outcome. -/
def Outcome.other : Outcome → Outcome
  | success => failure
  | failure => success

mutual

/-- A statement without the terminals below it on the side of the outcome `o`. -/
def Statement.muted (o : Outcome) : Statement → Statement
  | .conditional test body orelse line label =>
    .conditional test (mute o .success body) (mute o .failure orelse) line label
  | .guarded body handlers types line label =>
    .guarded (mute o .success body) (mute o .failure handlers) types line label
  | .ret value line label => .ret value line label
  | .throw exc line label => .throw exc line label
  | .other label line => .other label line

/-- The statements of one side without the terminals, at any depth, on the side of the
outcome `o`. -/
def mute (o side : Outcome) : List Statement → List Statement
  | [] => []
  | s :: ss => if s.isTerminal && side == o then mute o side ss else s.muted o :: mute o side ss

end

namespace Statement

variable (o : Outcome) (s : Statement)

@[simp] lemma bare_muted : (s.muted o).bare = s.bare := by cases s <;> rfl

@[simp] lemma shapesPath_muted : (s.muted o).shapesPath = s.shapesPath := by
  cases s <;> rfl

@[simp] lemma isDecision_muted : (s.muted o).isDecision = s.isDecision := by
  cases s <;> rfl

@[simp] lemma isTerminal_muted : (s.muted o).isTerminal = s.isTerminal := by
  cases s <;> rfl

@[simp] lemma onSuccess_muted : (s.muted o).onSuccess = mute o .success s.onSuccess := by
  cases s <;> rfl

@[simp] lemma onFailure_muted : (s.muted o).onFailure = mute o .failure s.onFailure := by
  cases s <;> rfl

end Statement

/-- A side keeps all its statements when the other one is muted. -/
lemma mute_other (o : Outcome) (ss : List Statement) :
    mute o.other o ss = ss.map (Statement.muted o.other) := by
  have hne : (o == o.other) = false := by cases o <;> rfl
  induction ss with
  | nil => rfl
  | cons s ss ih => rw [mute, hne, Bool.and_false, ih]; rfl

/-! ### Streams of muted trees -/

/-- Muting one outcome does not change which decisions are recorded for the other. -/
lemma Statement.marks_muted (o : Outcome) (s : Statement) :
    (o = .success || (s.muted o.other).canFail) = (o = .success || s.canFail) := by
  cases o with
  | success => rfl
  | failure =>
      rw [canFail, onFailure_muted, mute_other .failure, List.any_map, canFail]
      congr 2
      funext t
      exact t.shapesPath_muted .success

/-- If the statements of a side have the same stream of the outcome `o` when the other
outcome is muted, so has the side. -/
lemma streamOf_mute_of_forall (o side : Outcome) {ss : List Statement}
    (h : ∀ s ∈ ss, ((s.muted o.other).stream o side).map Statement.bare =
      (s.stream o side).map Statement.bare) :
    (streamOf o side (mute o.other side ss)).map Statement.bare =
      (streamOf o side ss).map Statement.bare := by
  induction ss with
  | nil => rfl
  | cons s ss ih =>
      have hs := h s (by simp)
      have hss := ih fun t ht => h t (by simp [ht])
      rw [mute, streamOf]
      split
      · next hleft =>
        -- a terminal that is left out is no event of the outcome
        obtain ⟨hterminal, hside⟩ : s.isTerminal = true ∧ side = o.other := by simpa using hleft
        have hne : side ≠ o := by
          rw [hside]
          cases o <;> decide
        rw [hss, Statement.stream_of_isTerminal o side hterminal, if_neg hne, List.nil_append]
      · rw [streamOf, List.map_append, List.map_append, hs, hss]

/-- Muting one outcome keeps the stream of the other, up to what lies below its steps. -/
lemma Statement.stream_muted (o side : Outcome) (s : Statement) :
    ((s.muted o.other).stream o side).map bare = (s.stream o side).map bare := by
  induction s using treeInd generalizing side with
  | decision s h ihb ihf =>
      have hb := streamOf_mute_of_forall o .success fun t ht => ihb t ht .success
      have hf := streamOf_mute_of_forall o .failure fun t ht => ihf t ht .failure
      rw [stream_of_isDecision o side h, stream_of_isDecision o side (by simpa using h),
        marks_muted, onSuccess_muted, onFailure_muted]
      simp only [List.map_append, hb, hf]
      congr 2
      split <;> simp
  | terminal s h =>
      rw [stream_of_isTerminal o side h, stream_of_isTerminal o side (by simpa using h)]
      split <;> simp
  | other s h =>
      rw [stream_of_not_shapesPath o side h, stream_of_not_shapesPath o side (by simpa using h)]

lemma streamOf_mute (o side : Outcome) (ss : List Statement) :
    (streamOf o side (mute o.other side ss)).map Statement.bare =
      (streamOf o side ss).map Statement.bare :=
  streamOf_mute_of_forall o side fun s _ => s.stream_muted o side

/-! ### Collections of bare statements -/

namespace Collection

lemma bare_extend (c : Collection) (s : Statement) :
    (c.extend s).bare = c.bare.extend s.bare := by
  simp only [extend, bare, map_appendToLast]

lemma bare_close (c : Collection) : c.close.bare = c.bare.close := by
  simp [close, bare]

/-- A collection takes in bare events as it takes in the events themselves. -/
lemma bare_feed (c : Collection) (events : List Statement) :
    (c.feed events).bare = c.bare.feed (events.map Statement.bare) := by
  induction events generalizing c with
  | nil => rfl
  | cons s events ih =>
      rw [feed_cons, ih, List.map_cons, feed_cons, take, take, Statement.isTerminal_bare]
      split
      · rw [bare_close, bare_extend]
      · rw [bare_extend]

lemma map_report_bare (c : Collection) :
    c.bare.branches.map Branch.report = c.branches.map Branch.report := by
  rw [branches_bare, List.map_map, Function.comp_def]
  simp only [Branch.report_bare]

end Collection

/-! ### Independence -/

/-- Functions that are the same when one outcome is muted have the same bare branches of the
other. -/
lemma bare_collection_eq_of_mute {o : Outcome} {f g : Function}
    (h : mute o.other .success f.body = mute o.other .success g.body) :
    ((extractBranches f).accumulator.collection o).bare =
      ((extractBranches g).accumulator.collection o).bare := by
  have hstream : (streamOf o .success f.body).map Statement.bare =
      (streamOf o .success g.body).map Statement.bare := by
    rw [← streamOf_mute, h, streamOf_mute]
  rw [extractBranches_accumulator, extractBranches_accumulator, Accumulator.collection_feed,
    Accumulator.collection_feed, Collection.bare_feed, Collection.bare_feed, hstream]
  cases o <;> rfl

/-- **The outcomes do not interfere.** Let two functions have the same body once the terminals
directly on the sides of one outcome are left out at every depth. Then their branches of the
other outcome have the same reports, in order, the open branch included. -/
theorem reports_eq_of_mute (o : Outcome) (f g : Function)
    (h : mute o.other .success f.body = mute o.other .success g.body) :
    ((extractBranches f).accumulator.collection o).branches.map Branch.report =
      ((extractBranches g).accumulator.collection o).branches.map Branch.report := by
  rw [← Collection.map_report_bare, bare_collection_eq_of_mute h, Collection.map_report_bare]

/-- A failure side with a terminal and a decision that can fail, without its terminals on failure
sides, and without those in bodies. The first change takes the inner decision and two branches
away from failure, and leaves success alone; the second one is the other way round. -/
theorem reports_eq_of_mute_nested :
    let make (body handlers : List Statement) : Function :=
      ⟨"f", "f", ["y"], [.guarded body handlers ["E"] 2 "Try"], 1, false, false⟩
    let inner (body orelse : List Statement) := Statement.conditional "y" body orelse 6 "If"
    let one := Statement.ret (some "1") 3 "Return"
    let two := Statement.ret none 7 "Return"
    let again := Statement.throw none 5 "Raise"
    let last := Statement.throw (some "E") 9 "Raise"
    let f := make [one] [again, inner [two] [last]]
    let g := make [one] [inner [two] []]
    let h := make [] [again, inner [] [last]]
    (mute .failure .success f.body = mute .failure .success g.body ∧
      (extractBranches f).accumulator.failure.size ≠ (extractBranches g).accumulator.failure.size ∧
      (extractBranches f).accumulator.success.branches.map Branch.report =
        (extractBranches g).accumulator.success.branches.map Branch.report) ∧
    (mute .success .success f.body = mute .success .success h.body ∧
      (extractBranches f).accumulator.success.size ≠ (extractBranches h).accumulator.success.size ∧
      (extractBranches f).accumulator.failure.branches.map Branch.report =
        (extractBranches h).accumulator.failure.branches.map Branch.report) := by
  intro make inner one two again last f g h
  have hg : mute .failure .success f.body = mute .failure .success g.body := rfl
  have hh : mute .success .success f.body = mute .success .success h.body := rfl
  exact ⟨⟨hg, by decide, reports_eq_of_mute .success f g hg⟩,
    ⟨hh, by decide, reports_eq_of_mute .failure f h hh⟩⟩

end Branchwise
