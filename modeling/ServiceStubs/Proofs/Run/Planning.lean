import Mathlib
import ServiceStubs.Proofs.Except
import ServiceStubs.Proofs.Run.CleanUp
import ServiceStubs.Proofs.Run.Selecting

/-!
# Nothing is written before everything is generated

All modules are read and expanded before the first one is written. So one module that fails,
wherever it stands among the others, keeps all of them from being written, and the run ends with the
failure of the first such module.

## Main definitions

* `Run.expansionAt`: what is generated from a module

## Main statements

* `Run.plan_of_error`: a plan fails like the first of its modules that does
* `Run.run_of_failing`: a run with a module that fails only cleans up
-/

namespace ServiceStubs

namespace Run

variable {o : Options} {root : String} {t : FileTree} {modules : List String}

/-- The text that is generated from the module at a path, if it declares anything. -/
def expansionAt (t : FileTree) (path : String) : Except Failure (Option String) := do
  (Expansion.expand (← sourceAt t path) path).mapError (.unexpandable path)

/-- The generated modules with that of one more module, if it declares anything. -/
def recordAt (path : String) (done : List Generated) (text : Option String) : List Generated :=
  text.elim done fun text => record (path, text) done

theorem generate_eq (t : FileTree) (out : String → String) (done : List Generated) (path : String) :
    generate t out done path = (do return recordAt (out path) done (← expansionAt t path)) := by
  rw [generate, expansionAt, bind_assoc]
  congr 1
  funext source
  congr 1
  funext text
  cases text <;> rfl

/-- **A plan fails like the first of its modules that fails.** -/
theorem plan_of_error (o : Options) (root : String) {path : String} (hmem : path ∈ modules)
    {failure : Failure}
    (hfail : expansionAt t path = .error failure) :
    ∃ before first after cause, modules = before ++ first :: after ∧
      (∀ m ∈ before, ∃ text, expansionAt t m = .ok text) ∧ expansionAt t first = .error cause ∧
      plan o root t modules = .error cause := by
  rw [plan]
  generalize outputPathOf o root t modules = out
  suffices hgo : ∀ done, ∃ before first after cause, modules = before ++ first :: after ∧
      (∀ m ∈ before, ∃ text, expansionAt t m = .ok text) ∧ expansionAt t first = .error cause ∧
      modules.foldlM (generate t out) done = .error cause from hgo []
  induction modules with
  | nil => cases hmem
  | cons m modules ih =>
    intro done
    cases hm : expansionAt t m with
    | error cause =>
      refine ⟨[], m, modules, cause, rfl, by simp, hm, ?_⟩
      rw [List.foldlM_cons, generate_eq, hm]
      rfl
    | ok text =>
      have hmem : path ∈ modules := by
        rcases List.mem_cons.1 hmem with rfl | hmem
        · rw [hm] at hfail
          cases hfail
        · exact hmem
      obtain ⟨before, first, after, cause, rfl, hbefore, hfirst, hplan⟩ :=
        ih hmem (recordAt (out m) done text)
      refine ⟨m :: before, first, after, cause, rfl, List.forall_mem_cons.2 ⟨⟨text, hm⟩, hbefore⟩,
        hfirst, ?_⟩
      rw [List.foldlM_cons, generate_eq, hm]
      exact hplan

/-- **If a selected module cannot be read or expanded, the run fails like the first such module and
has only removed the files to clean up:** nothing is written, no directory is made and no tool is
started, whatever could be generated from the modules before it. -/
theorem run_of_failing (o : Options) (tools : Toolbox) (root : String) (s : Session) {path : String}
    (hmem : path ∈ selected o root (cleaned o root s.tree)) {failure : Failure}
    (hfail : expansionAt (cleaned o root s.tree) path = .error failure) :
    ∃ before first after cause lines,
      selected o root (cleaned o root s.tree) = before ++ first :: after ∧
      (∀ m ∈ before, ∃ text, expansionAt (cleaned o root s.tree) m = .ok text) ∧
      expansionAt (cleaned o root s.tree) first = .error cause ∧
      run o tools root s = (.error cause, ⟨cleaned o root s.tree, lines, s.commands⟩) := by
  obtain ⟨lines, hclean⟩ := cleanUp_apply o root s
  obtain ⟨before, first, after, cause, hmodules, hbefore, hfirst, hplan⟩ :=
    plan_of_error o root hmem hfail
  rw [run, bind_of_ok hclean, bind_of_ok (get_apply _), bind_of_ok (log_apply ..)]
  dsimp only
  rw [hplan]
  exact ⟨before, first, after, cause, _, hmodules, hbefore, hfirst, bind_of_error rfl⟩

/-- A directory with a module that declares a service and one that is no text, and a file to remove.
-/
def latinTree : FileTree where
  entries := [(["m"], .directory),
    (["m", "a.py"], .file (Text.utf8Bytes
      "from grpc_stub_generator import service\n@service\nclass A: pass\n")),
    (["m", "b.py"], .file [0xff]), (["old"], .file [])]
  current := []

/-- The modules in a directory, after a file was removed. -/
def latinOptions : Options := { clean := ["old"], paths := ["m"] }

/-- The first module is expanded, but what is generated from it is not written. -/
theorem run_of_failing_latin :
    "m/b.py" ∈ selected latinOptions "" (cleaned latinOptions "" latinTree) ∧
    (∃ text, expansionAt (cleaned latinOptions "" latinTree) "m/a.py" = .ok (some text)) ∧
    expansionAt (cleaned latinOptions "" latinTree) "m/b.py" = .error (.undecodable "m/b.py") ∧
    ∃ cause lines, run latinOptions .none "" ⟨latinTree, [], []⟩ =
      (.error cause, ⟨cleaned latinOptions "" latinTree, lines, []⟩) := by
  have hmem : "m/b.py" ∈ selected latinOptions "" (cleaned latinOptions "" latinTree) :=
    mem_selected.2 ⟨"m/b.py", by decide +kernel, by decide +kernel, by decide +kernel, by decide⟩
  have hfail : expansionAt (cleaned latinOptions "" latinTree) "m/b.py" =
      .error (.undecodable "m/b.py") := by decide +kernel
  have hexpanded : ((expansionAt (cleaned latinOptions "" latinTree) "m/a.py").toOption.bind id).isSome := by
    decide +kernel
  have htext : ∃ text, expansionAt (cleaned latinOptions "" latinTree) "m/a.py" = .ok (some text) := by
    cases ha : expansionAt (cleaned latinOptions "" latinTree) "m/a.py" with
    | error cause =>
      rw [ha] at hexpanded
      cases hexpanded
    | ok text =>
      rw [ha] at hexpanded
      obtain ⟨text, rfl⟩ := Option.isSome_iff_exists.1 hexpanded
      exact ⟨text, rfl⟩
  obtain ⟨-, -, -, cause, lines, -, -, -, hrun⟩ :=
    run_of_failing latinOptions .none "" ⟨latinTree, [], []⟩ hmem hfail
  exact ⟨hmem, htext, hfail, cause, lines, hrun⟩

end Run

end ServiceStubs
