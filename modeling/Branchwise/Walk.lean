/-
The walk through a statement tree: depth first, bodies before failure sides.

Every decision is recorded on the open success branch, and on the open failure
branch too if its failure side has statements that shape branches. A terminal is
recorded on the branch of the side that it was found on and closes it.

* `Node`: what can be walked: a function or a statement.
* `Record`: one line of the trace: how a node was reached, what it is, how deep
  it lies and how many statements shape its two sides.
* `walkStatement`, `walkSide`: the recursion, over a statement and over the
  statements of one side.
* `walk`, `extractBranches`: a node on a given accumulator, and a function on a
  fresh one.
-/
import Branchwise.Branch.Collection

namespace Branchwise

/-- How the walk reached a node. -/
inductive Context where
  | root | inIf | inElse | inTry | inCatch
  deriving Repr, DecidableEq, Inhabited

/-- The word of a context. -/
def Context.word : Context → String
  | root => "root"
  | inIf => "if"
  | inElse => "else"
  | inTry => "try"
  | inCatch => "catch"

/-- One line of the trace of a walk. -/
structure Record where
  context : Context
  description : String
  depth : Int
  success : Nat
  fail : Nat
  deriving Repr, DecidableEq, Inhabited

/-- A record as text. -/
def Record.message (r : Record) : String :=
  "walk " ++ r.context.word ++ " " ++ r.description ++ " depth=" ++ toString r.depth ++ " success="
    ++ toString r.success ++ " fail=" ++ toString r.fail

/-- What can be walked. -/
inductive Node where
  | function (f : Function)
  | statement (s : Statement)
  deriving Inhabited

/-- Why a node cannot be walked. -/
inductive WalkFault where
  /-- A statement was given without the accumulator of its function. -/
  | noAccumulator
  /-- The statement has no body to walk. -/
  | noBody (s : Statement)

/-- The name of the type of a statement without a body. -/
def Statement.typeName : Statement → String
  | conditional .. => "Conditional"
  | guarded .. => "Guarded"
  | ret .. => "TerminalReturn"
  | throw .. => "TerminalThrow"
  | other .. => "Other"

/-- The text of a fault. -/
def WalkFault.message : WalkFault → String
  | noAccumulator => "walk() needs an accumulator unless node is a function"
  | noBody s => "'" ++ s.typeName ++ "' object has no attribute 'body'"

/-- The number of statements that shape branches. -/
def shapingCount (ss : List Statement) : Nat :=
  ss.countP Statement.shapesPath

namespace Statement

/-- A decision in the trace. -/
def describe : Statement → String
  | conditional test _ _ line _ => "If(" ++ test ++ ") line " ++ toString line
  | s => s.label ++ " line " ++ toString s.line

/-- The context of a decision that lies on the given side of another node. -/
def contextOn (side : Outcome) : Statement → Context
  | guarded .. => if side = .success then .inTry else .inCatch
  | _ => if side = .success then .inIf else .inElse

end Statement

/-- The state of a walk: the accumulator and the trace so far. -/
structure Walked where
  accumulator : Accumulator
  trace : List Record
  deriving Inhabited

namespace Walked

/-- Records a decision on the open branches and in the trace. -/
def enter (w : Walked) (s : Statement) (context : Context) (depth : Int)
    (body failing : List Statement) : Walked :=
  let a := w.accumulator.modify .success (·.extend s)
  { accumulator := if shapingCount failing = 0 then a else a.modify .failure (·.extend s)
    trace := w.trace ++
      [⟨context, s.describe, depth, shapingCount body, shapingCount failing⟩] }

/-- Records a terminal found on the given side. -/
def finish (w : Walked) (side : Outcome) (s : Statement) : Walked :=
  { w with accumulator := w.accumulator.modify side fun c => (c.extend s).close }

end Walked

mutual

/-- Walks a statement that was reached on the given side: a decision with all
that lies below it, or a terminal. -/
def walkStatement (side : Outcome) (context : Context) (depth : Int) :
    Statement → Walked → Walked
  | s@(.conditional _ body orelse _ _), w =>
    walkSide .failure depth orelse
      (walkSide .success depth body (w.enter s context depth body orelse))
  | s@(.guarded body handlers _ _ _), w =>
    walkSide .failure depth handlers
      (walkSide .success depth body (w.enter s context depth body handlers))
  | s@(.ret ..), w => w.finish side s
  | s@(.throw ..), w => w.finish side s
  | .other .., w => w

/-- Walks the statements on one side of a node at the given depth. -/
def walkSide (side : Outcome) (depth : Int) : List Statement → Walked → Walked
  | [], w => w
  | s :: ss, w =>
    walkSide side depth ss (walkStatement side (s.contextOn side) (depth + 1) s w)

end

/-- Walks the body of a function on an accumulator. -/
def walkFunction (f : Function) (context : Context) (depth : Int) (a : Accumulator) : Walked :=
  walkSide .success depth f.body
    ⟨a, [⟨context, f.qualifiedName, depth, shapingCount f.body, 0⟩]⟩

/-- Walks a node on the accumulator of its function. -/
def walk (node : Node) (a : Accumulator) (context : Context) (depth : Int) :
    Except WalkFault Walked :=
  match node with
  | .function f => .ok (walkFunction f context depth a)
  | .statement s =>
    match s with
    | .conditional .. | .guarded .. => .ok (walkStatement .success context depth s ⟨a, []⟩)
    | _ => .error (.noBody s)

/-- Walks a node that brings no accumulator along: only a function does not need
one. -/
def walkAlone (node : Node) : Except WalkFault Walked :=
  match node with
  | .function f => .ok (walkFunction f .root 0 (.ofFunction f))
  | .statement _ => .error .noAccumulator

/-- The branches of a function, with the trace of the walk. -/
def extractBranches (f : Function) : Walked :=
  walkFunction f .root 0 (.ofFunction f)

end Branchwise
