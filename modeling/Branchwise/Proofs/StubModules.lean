/-
Test modules, read back.

The text of a test module is itself a source text. It is read as its stubs and
nothing else, unless something that was put into it as text acts as syntax: a title
whose escapes denote nothing, or a reserved word among what it imports.

* `IsStub`, `AreStubs`: what is found in a test module.
* `functions_of_definesStubs`: the functions of the statements of a test module.
* `not_mem_stubModule`: a test module holds no NUL character.
* `stubModule_readsBack_iff`: which test modules are read as their stubs.
-/
import Branchwise.Proofs.Exports
import Branchwise.Proofs.ReadStubs

namespace Branchwise

open Text Source

/-! ### Functions -/

/-- The function is the stub: a plain function of its name without parameters and
branches. -/
structure IsStub (s : Stub) (f : Function) : Prop where
  name : f.name = s.name
  qualifiedName : f.qualifiedName = s.name
  parameters : f.parameters = []
  isAsync : f.isAsync = s.isAsync
  isMethod : f.isMethod = false
  branches : (extractBranches f).accumulator.branches = []

/-- A definition of a stub is one function, whatever else is selected. -/
lemma exists_isStub {s : Stub} {stmt : Stmt} (h : Grammar.DefinesStub s stmt) (methods : Bool)
    (exports : Option (List (List Nat))) :
    ∃ f, stmt.contributes ⟨true, methods⟩ exports = [f] ∧ IsStub s f := by
  obtain ⟨line, line', rfl⟩ := h
  exact ⟨_, rfl, rfl, rfl, rfl, rfl, rfl, rfl⟩

/-- **The functions of a test module are its stubs.** -/
lemma functions_of_definesStubs {ss : List Stub} {stmts : List Stmt}
    (h : Grammar.DefinesStubs ss stmts) (methods : Bool) :
    List.Forall₂ IsStub ss (functions ⟨true, methods⟩ stmts) := by
  obtain ⟨front, defs, rfl, hfront, hdefs⟩ := h
  rw [functions, List.flatMap_append]
  generalize literalExports? (front ++ defs) = exports
  have hnone : front.flatMap (Stmt.contributes ⟨true, methods⟩ exports) = [] := by
    rw [List.flatMap_eq_nil_iff]
    intro stmt hstmt
    obtain ⟨kind, line, rfl⟩ := hfront stmt hstmt
    rfl
  rw [hnone, List.nil_append]
  induction hdefs with
  | nil => exact .nil
  | cons hdef _ ih =>
      obtain ⟨f, hf, hstub⟩ := exists_isStub hdef methods exports
      rw [List.flatMap_cons, hf]
      exact .cons hstub ih

/-- The functions are the stubs of the analysis, one for each branch or at least one for
each function that is tested, with distinct names. -/
structure AreStubs (a : Analysis) (fs : List Function) : Prop where
  stubs : List.Forall₂ IsStub (allStubs [] a.results).1 fs
  nodup : (fs.map Function.name).Nodup
  isAsync : fs.map Function.isAsync = a.results.flatMap fun r =>
    List.replicate (max 1 r.branches.length) r.function.isAsync

lemma map_eq_map_of_isStub {β : Type} {g : Function → β} {g' : Stub → β} {ss : List Stub}
    {fs : List Function} (h : List.Forall₂ IsStub ss fs) (hg : ∀ s f, IsStub s f → g f = g' s) :
    fs.map g = ss.map g' := by
  induction h with
  | nil => rfl
  | cons hstub _ ih => rw [List.map_cons, List.map_cons, hg _ _ hstub, ih]

/-- Stubs of an analysis have distinct names, and are as asynchronous as what they test. -/
lemma areStubs_of_forall₂ {a : Analysis} {fs : List Function}
    (h : List.Forall₂ IsStub (allStubs [] a.results).1 fs) : AreStubs a fs := by
  refine ⟨h, ?_, ?_⟩
  · rw [map_eq_map_of_isStub h fun s f hstub => hstub.name]
    exact nodup_allStubs List.nodup_nil a.results
  · rw [map_eq_map_of_isStub h fun s f hstub => hstub.isAsync]
    exact map_allStubs (fun f plan s hfollows => hfollows.isAsync) [] a.results

/-! ### Texts -/

lemma mem_of_mem_splitOn {sep c : Char} {cs w : List Char} (hw : w ∈ splitOn sep cs) (hc : c ∈ w) :
    c ∈ cs := by
  induction cs generalizing w with
  | nil =>
      rw [splitOn, List.mem_singleton] at hw
      rwa [hw] at hc
  | cons d cs ih =>
      rw [splitOn] at hw
      split at hw
      · rw [List.mem_singleton] at hw
        rw [hw, List.mem_singleton] at hc
        exact hc ▸ List.mem_cons_self
      · next v vs hvs =>
        rw [hvs] at ih
        split at hw
        · rcases List.mem_cons.mp hw with rfl | hw
          · cases hc
          · exact List.mem_cons_of_mem d (ih hw hc)
        · rcases List.mem_cons.mp hw with rfl | hw
          · rcases List.mem_cons.mp hc with rfl | hc
            · exact List.mem_cons_self
            · exact List.mem_cons_of_mem d (ih List.mem_cons_self hc)
          · exact List.mem_cons_of_mem d (ih (List.mem_cons_of_mem v hw) hc)

/-- The name of a file holds only characters of its path. -/
lemma mem_of_mem_name {file : String} {c : Char} (h : c ∈ (Path.ofString file).name.toList) :
    c ∈ file.toList := by
  rw [Path.name] at h
  cases hlast : (Path.ofString file).components.getLast? with
  | none =>
      rw [hlast] at h
      cases h
  | some name =>
      rw [hlast, Option.getD_some] at h
      obtain ⟨w, hw, rfl⟩ := List.mem_map.mp (List.mem_of_getLast? hlast)
      rw [String.toList_ofList] at h
      exact mem_of_mem_splitOn (List.mem_of_mem_filter hw) h

/-- The stem of a file is a part of its name. -/
lemma mem_of_mem_stem {p : Path} {c : Char} (h : c ∈ p.stem.toList) : c ∈ p.name.toList := by
  rw [Path.stem, String.toList_ofList, Path.splitSuffix] at h
  split at h
  · next before after heq =>
    split at h
    · exact h
    · rw [eq_of_splitLast heq]
      exact List.mem_append_left _ h
  · exact h

section Modules

variable {a : Analysis} {module : String}

lemma length_splitOn_le (sep : Char) (cs : List Char) :
    (splitOn sep cs).length ≤ cs.length + 1 := by
  induction cs with
  | nil => simp [splitOn]
  | cons c cs ih =>
      rw [splitOn]
      split
      · simp
      · next w ws hws =>
        rw [hws] at ih
        split
        · simpa using ih
        · simp at ih ⊢
          omega

lemma length_distinct_le (ss : List String) : (distinct ss).length ≤ ss.length := by
  induction ss with
  | nil => simp [distinct]
  | cons s ss ih =>
      rw [distinct, List.length_cons, List.length_cons]
      have := List.length_filter_le (· != s) (distinct ss)
      omega

/-- Every function that is tested has a stub. -/
lemma length_results_le (used : List String) (as : List Accumulator) :
    as.length ≤ (allStubs used as).1.length := by
  induction as generalizing used with
  | nil => simp
  | cons a as ih =>
      have hmore := ih (stubs used a).2
      rw [allStubs_cons, List.length_append, List.length_cons, stubs, length_nameStubs,
        length_stubPlans]
      rw [stubs] at hmore
      omega

lemma length_le_length_ended (lines : List String) : lines.length ≤ (ended lines).length := by
  induction lines with
  | nil => simp [ended]
  | cons l lines ih =>
      rw [ended_cons, List.length_append, List.length_cons, List.length_cons]
      omega

lemma length_le_length_bodyLines (ss : List Stub) : ss.length ≤ (bodyLines ss).length := by
  induction ss with
  | nil => simp
  | cons s ss ih =>
      rw [bodyLines, List.flatMap_cons, ← bodyLines, List.length_append, List.length_cons,
        List.length_cons, List.length_cons]
      omega

/-- How long the text of a module is at least. -/
lemma length_stubModule (hstubs : ∀ s ∈ (allStubs [] a.results).1, s.Unbroken) :
    (title a module).length + (allStubs [] a.results).1.length + 9 ≤
      (stubModule a module).toList.length := by
  have hbody := (length_le_length_bodyLines (allStubs [] a.results).1).trans
    (length_le_length_ended _)
  rw [toList_stubModule fun s hs => (hstubs s hs).oneLine, ended_module, laterLines, ended_cons,
    ended_cons, ended_append]
  simp only [List.length_append, List.length_cons, tripleMark, List.length_nil]
  omega

/-- A module holds a character only if its title does, but for what lines hold. -/
lemma not_mem_stubModule (hnames : ∀ n ∈ importNames a, IsName n)
    (hstubs : ∀ s ∈ (allStubs [] a.results).1, s.Unbroken) (htitle : '\x00' ∉ title a module) :
    '\x00' ∉ (stubModule a module).toList := by
  intro hmem
  rw [toList_stubModule fun s hs => (hstubs s hs).oneLine, ended_module, List.mem_append,
    List.mem_append, List.mem_append, List.mem_cons] at hmem
  rcases hmem with ((hmem | hmem) | hmem) | hmem | hmem
  · revert hmem
    decide
  · exact htitle hmem
  · revert hmem
    decide
  · revert hmem
    decide
  · rcases mem_ended hmem with hmem | ⟨l, hl, hmem⟩
    · revert hmem
      decide
    · exact (unbroken_laterLines hnames hstubs l hl _ hmem).1 rfl

lemma length_module_le (a : Analysis) (module : String) :
    module.toList.length + 16 ≤ (title a module).length := by
  have hlead : "Test stubs for ".toList.length = 15 := by decide
  have hend : ".".toList.length = 1 := by decide
  rw [title, String.toList_append, String.toList_append, List.length_append, List.length_append,
    hlead, hend]
  split
  · next h =>
    rw [h, String.toList_empty, List.length_nil]
    omega
  · omega

variable (hnames : ∀ n ∈ importNames a, IsName n)
  (hstubs : ∀ s ∈ (allStubs [] a.results).1, s.Unbroken ∧ IsStubName s.name.toList)
  (hnul : '\x00' ∉ title a module) (htitle : ClosesAtEnd (titleBody a module))
include hnames hstubs htitle

/-- The readers run on the tokens of the module, with room for all that it holds. -/
lemma exists_statements?_eq (charNamed : List Char → Option Char) : ∃ ts n,
    ts.map Token.kind = moduleKinds a module ++ [.stop] ∧
    (splitOn '.' module.toList).length ≤ n ∧ (importNames a).length ≤ n ∧
    (allStubs [] a.results).1.length < n ∧
    statements? charNamed (stubModule a module).toList =
      (Grammar.moduleStatements (.ofLength (n + 3) charNamed) ts).map Prod.fst := by
  have hunbroken := fun s hs => (hstubs s hs).1
  obtain ⟨ts, hts, hkinds⟩ := exists_tokens?_stubModule hnames hstubs htitle
  have hlength := @length_stubModule a module hunbroken
  obtain ⟨n, hn⟩ : ∃ n, (stubModule a module).toList.length + 1 = n + 3 :=
    ⟨(stubModule a module).toList.length - 2, by omega⟩
  have hparts := length_splitOn_le '.' module.toList
  have hmodule := length_module_le a module
  have himports : (importNames a).length ≤ (allStubs [] a.results).1.length := by
    refine (length_distinct_le _).trans ?_
    rw [List.length_map]
    exact length_results_le [] a.results
  refine ⟨ts, n, hkinds, by omega, by omega, by omega, ?_⟩
  rw [statements?, hts, hn, Option.bind_some]

/-- A module with a title that denotes a text and without reserved words consists of its
stubs. -/
lemma exists_statements?_eq_some {charNamed : List Char → Option Char}
    (htext : (unescape charNamed false (titleBody a module)).isSome)
    (himports : Grammar.NoReservedImport a module) :
    ∃ stmts, statements? charNamed (stubModule a module).toList = some stmts ∧
      Grammar.DefinesStubs (allStubs [] a.results).1 stmts := by
  obtain ⟨ts, n, hkinds, hparts, hlength, hcount, hread⟩ :=
    exists_statements?_eq hnames hstubs htitle charNamed
  obtain ⟨stmts, hmap, hstmts⟩ :=
    Grammar.takes_moduleStatements htext himports hparts hlength hcount ts hkinds
  obtain ⟨⟨stmts', rest⟩, hrun, heq⟩ := Option.map_eq_some_iff.mp hmap
  obtain ⟨rfl, -⟩ := Prod.mk.inj heq
  exact ⟨stmts', by rw [hread, hrun]; rfl, hstmts⟩

/-- Any other module has no statements. -/
lemma statements?_eq_none {charNamed : List Char → Option Char}
    (h : (unescape charNamed false (titleBody a module)).isSome →
      ¬ Grammar.NoReservedImport a module) :
    statements? charNamed (stubModule a module).toList = none := by
  obtain ⟨ts, n, hkinds, hparts, -, -, hread⟩ :=
    exists_statements?_eq hnames hstubs htitle charNamed
  have hrun := Option.map_eq_none_iff.mp (Grammar.fails_moduleStatements h hparts ts hkinds)
  rw [hread, hrun]
  rfl

omit htitle
include hnul

/-- A module is read by its grammar, unless the interpreter breaks down on it. -/
lemma readModule_stubModule (interp : Interpreter) : readModule interp (stubModule a module) =
    (interp.breakdown (stubModule a module)).elim
      ((statements? interp.charNamed (stubModule a module).toList).elim (.error .malformed) .ok)
      fun b => .error (.breakdown b) := by
  have hcontains : (stubModule a module).toList.contains '\x00' = false := by
    simpa using not_mem_stubModule hnames (fun s hs => (hstubs s hs).1) hnul
  rw [readModule, hcontains, if_neg Bool.false_ne_true]
  generalize interp.breakdown (stubModule a module) = breakdown
  generalize statements? interp.charNamed (stubModule a module).toList = stmts
  cases breakdown <;> cases stmts <;> rfl

end Modules

/-! ### Reading back -/

/-- Read as a source text, the test module of the analysis holds its stubs and no other
functions. -/
def ReadsBack (interp : Interpreter) (a : Analysis) (module : String) : Prop :=
  ∀ methods, ∃ m, SourceModule.read interp ⟨true, methods⟩ (stubModule a module)
    (Path.ofString "stubs.py") none = .ok m ∧ AreStubs a m.functions

/-- What reading a text under the name of a file gives. -/
lemma read_eq_ok {interp : Interpreter} {sel : Selection} {source : String} {file : Path}
    {m : SourceModule} (h : SourceModule.read interp sel source file none = .ok m) :
    m.file = file ∧ m.module = file.stem ∧ ∀ f ∈ m.functions, f.Sound := by
  rw [SourceModule.read] at h
  split at h
  · next stmts hstmts =>
    cases h
    exact ⟨rfl, rfl, sound_functions hstmts sel⟩
  all_goals cases h

lemma mem_of_mem_distinct {s : String} {ss : List String} (h : s ∈ distinct ss) : s ∈ ss := by
  induction ss with
  | nil => exact h
  | cons t ss ih =>
      rcases List.mem_cons.mp h with rfl | h
      · exact List.mem_cons_self
      · exact List.mem_cons_of_mem t (ih (List.mem_of_mem_filter h))

lemma isName_of_mem_importNames {m : SourceModule} (h : ∀ f ∈ m.functions, f.Sound) :
    ∀ n ∈ importNames m.analysis, IsName n := by
  intro n hn
  obtain ⟨r, hr, rfl⟩ := List.mem_map.mp (mem_of_mem_distinct hn)
  obtain ⟨f, hf, rfl⟩ := List.mem_map.mp hr
  rw [function_extractBranches]
  exact isName_topOf (h f hf)

/-- The title of a test module holds only characters of the path of the file, besides its
own. -/
lemma not_mem_title {m : SourceModule} {file : String} (hfile : m.file = Path.ofString file)
    (hmodule : m.module = (Path.ofString file).stem) (h : '\x00' ∉ file.toList) :
    '\x00' ∉ title m.analysis m.module := by
  have hname : '\x00' ∉ m.file.name.toList := fun hmem => h (mem_of_mem_name (hfile ▸ hmem))
  have hstem : '\x00' ∉ m.module.toList := by
    rw [hmodule, ← hfile]
    exact fun hmem => hname (mem_of_mem_stem hmem)
  have hchosen : '\x00' ∉ (if m.module = "" then m.file.name else m.module).toList := by
    split
    · exact hname
    · exact hstem
  rw [title, String.toList_append, String.toList_append, List.mem_append, List.mem_append]
  rintro ((hmem | hmem) | hmem)
  · revert hmem
    decide
  · exact hchosen hmem
  · revert hmem
    decide

/-- What is known of the test module of any source text that can be read. -/
lemma stubs_of_read {interp : Interpreter} {sel : Selection} {source file : String}
    {m : SourceModule}
    (hread : SourceModule.read interp sel source (Path.ofString file) none = .ok m)
    (hnul : '\x00' ∉ file.toList)
    (hcomments : ∀ s ∈ (allStubs [] m.analysis.results).1, ∀ c ∈ s.comments, '\n' ∉ c.toList) :
    (∀ n ∈ importNames m.analysis, IsName n) ∧
      (∀ s ∈ (allStubs [] m.analysis.results).1, s.Unbroken ∧ IsStubName s.name.toList) ∧
      '\x00' ∉ title m.analysis m.module := by
  obtain ⟨hfile, hmodule, hsound⟩ := read_eq_ok hread
  refine ⟨isName_of_mem_importNames hsound, fun s hs => ?_, not_mem_title hfile hmodule hnul⟩
  have h := sound_of_mem_allStubs hsound hs
  have hunbroken : ∀ c ∈ s.comments, Unbroken c.toList :=
    fun c hc => (h.comments c hc).unbroken (hcomments s hs c hc)
  exact ⟨⟨h.name.isName.unbroken, h.call, hunbroken⟩, h.name⟩

/-- A text that is no module is not read back. -/
lemma not_readsBack_of_error {interp : Interpreter} {a : Analysis} {module : String}
    {fault : ReadFault} (h : readModule interp (stubModule a module) = .error fault) :
    ¬ ReadsBack interp a module := by
  intro hreads
  obtain ⟨m, hm, -⟩ := hreads false
  rw [SourceModule.read, h] at hm
  cases fault <;> cases hm

/-- **Which test modules are read back**: those whose title denotes a text and that import no
reserved word, neither as a part of a module's name nor from it, as long as the interpreter does
not break down on them. This holds of every source text and file, and whatever names the
interpreter has for characters, if the title closes where it should and no comment has two
lines. -/
theorem stubModule_readsBack_iff (interp : Interpreter) (sel : Selection) (source file : String)
    (m : SourceModule)
    (hread : SourceModule.read interp sel source (Path.ofString file) none = .ok m)
    (hnul : '\x00' ∉ file.toList)
    (hcomments : ∀ s ∈ (allStubs [] m.analysis.results).1, ∀ c ∈ s.comments, '\n' ∉ c.toList)
    (htitle : ClosesAtEnd (titleBody m.analysis m.module)) :
    ReadsBack interp m.analysis m.module ↔
      interp.breakdown (stubModule m.analysis m.module) = none ∧
        (unescape interp.charNamed false (titleBody m.analysis m.module)).isSome ∧
        Grammar.NoReservedImport m.analysis m.module := by
  obtain ⟨hnames, hstubs, hnul⟩ := stubs_of_read hread hnul hcomments
  have hmodule := readModule_stubModule hnames hstubs hnul interp
  constructor
  · intro hreads
    cases hbreakdown : interp.breakdown (stubModule m.analysis m.module) with
    | some b =>
        rw [hbreakdown] at hmodule
        exact absurd hreads (not_readsBack_of_error hmodule)
    | none =>
        refine ⟨rfl, ?_⟩
        by_contra hnot
        rw [hbreakdown, statements?_eq_none hnames hstubs htitle (not_and.mp hnot)] at hmodule
        exact not_readsBack_of_error hmodule hreads
  · rintro ⟨hbreakdown, htext, himports⟩ methods
    obtain ⟨stmts, hstmts, hdefines⟩ :=
      exists_statements?_eq_some hnames hstubs htitle htext himports
    rw [hbreakdown, hstmts, Option.elim_none, Option.elim_some] at hmodule
    refine ⟨_, by rw [SourceModule.read, hmodule], ?_⟩
    exact areStubs_of_forall₂ (functions_of_definesStubs hdefines methods)

/-- What can be computed from a text that can be read holds of what is read. -/
lemma exists_read (interp : Interpreter) (sel : Selection) (source : String) (file : Path)
    (P : SourceModule → Prop) [DecidablePred P]
    (h : ((SourceModule.read interp sel source file none).toOption.any fun m => P m) = true) :
    ∃ m, SourceModule.read interp sel source file none = .ok m ∧ P m :=
  exists_eq_ok h

/-- An interpreter that knows one character by its name. -/
def bulletInterpreter : Interpreter :=
  { Interpreter.basic with
    charNamed := fun name => if name = "BULLET".toList then some '•' else none }

/-- An asynchronous function with two branches, in a file that can be imported, and in one whose
name is an escape that denotes a bullet. -/
theorem stubModule_readsBack_orders :
    let source := "async def f(x):\n    if x:\n        return 1\n    raise E\n"
    ∀ file ∈ ["orders.py", "\\N\x7bBULLET\x7d.py"],
      ∃ m, SourceModule.read bulletInterpreter ⟨false, false⟩ source (Path.ofString file) none =
          .ok m ∧
        (allStubs [] m.analysis.results).1.map Stub.name =
          ["test_f__if_return", "test_f__raise"] ∧
        ReadsBack bulletInterpreter m.analysis m.module := by
  intro source file hfile
  obtain ⟨m, hread, hnul, hnames, hcomments, htitle, hright⟩ :
      ∃ m, SourceModule.read bulletInterpreter ⟨false, false⟩ source (Path.ofString file) none =
          .ok m ∧ '\x00' ∉ file.toList ∧
        (allStubs [] m.analysis.results).1.map Stub.name =
          ["test_f__if_return", "test_f__raise"] ∧
        (∀ s ∈ (allStubs [] m.analysis.results).1, ∀ c ∈ s.comments, '\n' ∉ c.toList) ∧
        ClosesAtEnd (titleBody m.analysis m.module) ∧
        (unescape bulletInterpreter.charNamed false (titleBody m.analysis m.module)).isSome ∧
        Grammar.NoReservedImport m.analysis m.module := by
    rw [List.mem_pair] at hfile
    rcases hfile with rfl | rfl <;> exact exists_read _ _ _ _ _ (by decide +kernel)
  have hiff := stubModule_readsBack_iff bulletInterpreter _ _ _ m hread hnul hcomments htitle
  exact ⟨m, hread, hnames, hiff.mpr ⟨rfl, hright⟩⟩

/-- The test module of a file that is named like a reserved word is no source text, since it
says to import from `class`. -/
theorem stubModule_class_not_readsBack :
    let source := "def f():\n    return 1\n"
    ∃ m, SourceModule.read .basic ⟨false, false⟩ source (Path.ofString "class.py") none = .ok m ∧
      ¬ ReadsBack .basic m.analysis m.module := by
  intro source
  obtain ⟨m, hread, hcomments, htitle, hreserved⟩ :=
    exists_read .basic ⟨false, false⟩ source (Path.ofString "class.py") (fun m =>
      (∀ s ∈ (allStubs [] m.analysis.results).1, ∀ c ∈ s.comments, '\n' ∉ c.toList) ∧
      ClosesAtEnd (titleBody m.analysis m.module) ∧
      ¬ Grammar.NoReservedImport m.analysis m.module) (by decide +kernel)
  obtain ⟨hnames, hstubs, hnul⟩ := stubs_of_read hread (by decide) hcomments
  have herror := readModule_stubModule hnames hstubs hnul .basic
  rw [statements?_eq_none hnames hstubs htitle fun _ => hreserved] at herror
  exact ⟨m, hread, not_readsBack_of_error herror⟩

end Branchwise
