import GoIndex.Proofs.Index.Dependencies
import GoIndex.Proofs.Tree.Ordered
import GoIndex.Session

/-!
# Steps and runs

What a step can do is said once: what becomes of the tree (`step_tree`), what a step that succeeds
does to the index (`step_index_of_ok`), and that one that fails does nothing (`step_of_error`). The
last is no matter of course, since a step leaves a session behind whether it fails or not; it rests
on a scan that keeps nothing unless it is complete. From there on each part of a session has a lemma
about a step and one about a run.

A tree in order stays so along every run whose paths have names without slashes
(`Node.Ordered.after`), so all trees of a session that begins with one are well formed.
-/

namespace GoIndex

/-! ### Steps -/

namespace Step

/-- Whether the session goes on with the same index. -/
def keepsIndex : Step → Bool
  | .openIndex .. => false
  | _ => true

/-- Whether a step asks for declarations. -/
def isQuery : Step → Bool
  | .ask _ => true
  | .dependencies => true
  | _ => false

theorem keepsIndex_of_isQuery {s : Step} (h : s.isQuery) : s.keepsIndex := by
  cases s with
  | openIndex => cases h
  | write | makeDirectory | remove | root | sourceFiles | ask | dependencies => rfl

/-- The path that a step changes the tree at. -/
def path : Step → Path
  | .write path _ => path
  | .makeDirectory path => path
  | .remove path => path
  | _ => []

/-- What a step makes of the tree. A removal that fails leaves it alone. -/
def disk (tree : Node) : Step → Node
  | .write path content => tree.write path content
  | .makeDirectory path => tree.makeDirectory path
  | .remove path => (tree.remove? path).getD tree
  | _ => tree

end Step

/-- The tree after some steps. -/
def Node.after (tree : Node) (steps : List Step) : Node :=
  steps.foldl Step.disk tree

theorem Node.Ordered.disk {tree : Node} (h : tree.Ordered) {s : Step}
    (hs : ∀ name ∈ s.path, '/' ∉ name.toList) : (s.disk tree).Ordered := by
  cases s with
  | write path content => exact h.write hs content
  | makeDirectory path => exact h.makeDirectory hs
  | remove path =>
    rw [Step.disk]
    cases hremove : tree.remove? path with
    | none => exact h
    | some rest => exact h.remove hremove
  | openIndex | root | sourceFiles | ask | dependencies => exact h

/-- **Trees stay in order** along a run. -/
theorem Node.Ordered.after {tree : Node} (h : tree.Ordered) {steps : List Step}
    (hsteps : ∀ s ∈ steps, ∀ name ∈ s.path, '/' ∉ name.toList) : (tree.after steps).Ordered := by
  induction steps generalizing tree with
  | nil => exact h
  | cons s steps ih =>
    rw [List.forall_mem_cons] at hsteps
    exact ih (h.disk hsteps.1) hsteps.2

namespace Session

/-! ### What a step can do -/

theorem step_tree (session : Session) (s : Step) :
    (session.step s).1.tree = s.disk session.tree := by
  cases s with
  | write | makeDirectory | root | sourceFiles | ask | dependencies => rfl
  | remove path =>
    rw [step, Step.disk]
    cases session.tree.remove? path <;> rfl
  | openIndex directory text settings =>
    cases settings with
    | error issues => rfl
    | ok settings =>
      rw [step]
      cases Index.openAt session.tree directory text settings <;> rfl

/-- What a question does to the index, and how it is answered. -/
theorem step_ask_eq (session : Session) (query : Query) :
    session.step (.ask query) =
      ({ session with index := (session.index.consult session.tree).1 },
        (session.index.catalog session.tree).map fun catalog => .answer (query.answer catalog)) :=
  rfl

theorem step_dependencies_eq (session : Session) :
    session.step .dependencies =
      ({ session with index := (session.index.dependencies session.tree).1 },
        (session.index.dependencies session.tree).2.map .dependencies) :=
  rfl

/-- **Success**: the index stays as it is, but that a question makes it keep the catalog it was
answered from. -/
theorem step_index_of_ok {session : Session} {s : Step} {reply : Reply} (hs : s.keepsIndex)
    (h : (session.step s).2 = .ok reply) :
    (s.isQuery = false → (session.step s).1.index = session.index) ∧
      (s.isQuery → ∃ catalog, session.index.catalog session.tree = .ok catalog ∧
        (session.step s).1.index = session.index.keep catalog) := by
  cases s with
  | write | makeDirectory | root | sourceFiles => exact ⟨fun _ => rfl, nofun⟩
  | remove path =>
    refine ⟨fun _ => ?_, nofun⟩
    rw [step]
    cases session.tree.remove? path <;> rfl
  | openIndex directory text settings => cases hs
  | ask query =>
    obtain ⟨catalog, hcatalog, -⟩ := map_eq_ok_iff.mp h
    exact ⟨nofun, fun _ => ⟨catalog, hcatalog, Index.fst_consult_of_ok hcatalog⟩⟩
  | dependencies =>
    obtain ⟨deps, hdeps, -⟩ := map_eq_ok_iff.mp h
    obtain ⟨-, catalog, hcatalog, -, hkeep⟩ := Index.of_dependencies_eq_ok hdeps
    exact ⟨nofun, fun _ => ⟨catalog, hcatalog, hkeep⟩⟩

/-- **Failure**: a step that fails leaves the session alone. -/
theorem step_of_error {session : Session} {s : Step} {fault : Fault}
    (h : (session.step s).2 = .error fault) : (session.step s).1 = session := by
  cases s with
  | write | makeDirectory => cases h
  | root | sourceFiles => rfl
  | remove path =>
    rw [step] at h ⊢
    cases hremove : session.tree.remove? path with
    | none => rfl
    | some tree =>
      rw [hremove] at h
      cases h
  | openIndex directory text settings =>
    cases settings with
    | error issues => rfl
    | ok settings =>
      rw [step] at h ⊢
      cases hopen : Index.openAt session.tree directory text settings with
      | error fault => rfl
      | ok index =>
        rw [hopen] at h
        cases h
  | ask query =>
    rw [step_ask_eq, Index.fst_consult_of_error (map_eq_error_iff.mp h)]
  | dependencies =>
    rw [step_dependencies_eq, Index.fst_dependencies_of_error (map_eq_error_iff.mp h)]

/-- The index changes in nothing but what it keeps. -/
theorem step_index (session : Session) {s : Step} (hs : s.keepsIndex) :
    (session.step s).1.index =
      { session.index with kept := (session.step s).1.index.kept } := by
  cases hreply : (session.step s).2 with
  | error fault => rw [step_of_error hreply]
  | ok reply =>
    obtain ⟨hother, hquery⟩ := step_index_of_ok hs hreply
    cases hq : s.isQuery with
    | false => rw [hother hq]
    | true =>
      obtain ⟨catalog, -, hindex⟩ := hquery hq
      rw [hindex]
      rfl

/-- What is kept stays. -/
theorem step_kept_of_some {session : Session} {s : Step} {catalog : Catalog} (hs : s.keepsIndex)
    (hkept : session.index.kept = some catalog) :
    (session.step s).1.index.kept = some catalog := by
  cases hreply : (session.step s).2 with
  | error fault => rw [step_of_error hreply, hkept]
  | ok reply =>
    obtain ⟨hother, hquery⟩ := step_index_of_ok hs hreply
    cases hq : s.isQuery with
    | false => rw [hother hq, hkept]
    | true =>
      obtain ⟨found, hfound, hindex⟩ := hquery hq
      -- a later question keeps a catalog too, but it is the one it was answered from
      rw [Index.catalog_of_kept hkept] at hfound
      obtain rfl := Except.ok.inj hfound
      rw [hindex, Index.keep_of_kept hkept, hkept]

/-- Only a question that is answered changes the index. -/
theorem step_index_of_unanswered {session : Session} {s : Step} (hs : s.keepsIndex)
    (hquery : (s.isQuery && (session.step s).2.isOk) = false) :
    (session.step s).1.index = session.index := by
  cases hreply : (session.step s).2 with
  | error fault => rw [step_of_error hreply]
  | ok reply =>
    rw [hreply, Except.isOk, Except.toBool, Bool.and_true] at hquery
    exact (step_index_of_ok hs hreply).1 hquery

/-- The first question that is answered makes the index keep the snapshot of the tree. -/
theorem step_kept_of_query {session : Session} {s : Step} {reply : Reply} (hs : s.isQuery)
    (hkept : session.index.kept = none) (hreply : (session.step s).2 = .ok reply) :
    session.index.scans session.tree ∧
      (session.step s).1.index.kept = some (session.index.snapshot session.tree) := by
  have hkeeps : s.keepsIndex := Step.keepsIndex_of_isQuery hs
  obtain ⟨catalog, hcatalog, hindex⟩ := (step_index_of_ok hkeeps hreply).2 hs
  rw [Index.catalog_of_kept_none hkept, Index.scanAll_eq_ok_iff] at hcatalog
  obtain ⟨hscans, rfl⟩ := hcatalog
  exact ⟨hscans, by rw [hindex]; rfl⟩

/-- What a question is answered. -/
theorem step_ask (session : Session) (query : Query) :
    (session.step (.ask query)).2 =
      (session.index.catalog session.tree).map fun catalog => .answer (query.answer catalog) := by
  rw [step_ask_eq]

theorem step_sourceFiles (session : Session) :
    (session.step .sourceFiles).2 =
      (session.index.sourceFiles session.tree).map fun files =>
        .files (files.map session.index.relativePath) :=
  rfl

/-! ### Runs -/

/-- The session after some steps. -/
def after (session : Session) (steps : List Step) : Session :=
  steps.foldl (fun session s => (session.step s).1) session

/-- What a step gives after some others. -/
def replyTo (session : Session) (before : List Step) (s : Step) : Except Fault Reply :=
  ((session.after before).step s).2

/-- Whether no question among some steps is answered. -/
def answersNothing (session : Session) (steps : List Step) : Bool :=
  (steps.zip (session.run steps)).all fun (s, reply) => !(s.isQuery && reply.isOk)

theorem after_append (session : Session) (before later : List Step) :
    session.after (before ++ later) = (session.after before).after later :=
  List.foldl_append

/-- A run in two parts. -/
theorem run_append (session : Session) (before later : List Step) :
    session.run (before ++ later) = session.run before ++ (session.after before).run later := by
  induction before generalizing session with
  | nil => rfl
  | cons s before ih => rw [List.cons_append, run, run, ih, List.cons_append]; rfl

/-- `replyTo` is what a run gives in the place of the step. -/
theorem run_append_cons (session : Session) (before : List Step) (s : Step) (later : List Step) :
    session.run (before ++ s :: later) =
      session.run before ++
        session.replyTo before s :: (session.after (before ++ [s])).run later := by
  rw [run_append, run, after_append]
  rfl

theorem after_tree (session : Session) (steps : List Step) :
    (session.after steps).tree = session.tree.after steps := by
  induction steps generalizing session with
  | nil => rfl
  | cons s steps ih => exact (ih _).trans (congrArg (Node.after · steps) (step_tree session s))

theorem after_index (session : Session) {steps : List Step} (hsteps : steps.all Step.keepsIndex) :
    (session.after steps).index =
      { session.index with kept := (session.after steps).index.kept } := by
  induction steps generalizing session with
  | nil => rfl
  | cons s steps ih =>
    rw [List.all_cons, Bool.and_eq_true] at hsteps
    have hrest := ih (session.step s).1 hsteps.2
    rw [step_index session hsteps.1] at hrest
    exact hrest

theorem after_kept_of_some {session : Session} {steps : List Step} {catalog : Catalog}
    (hsteps : steps.all Step.keepsIndex) (hkept : session.index.kept = some catalog) :
    (session.after steps).index.kept = some catalog := by
  induction steps generalizing session with
  | nil => exact hkept
  | cons s steps ih =>
    rw [List.all_cons, Bool.and_eq_true] at hsteps
    exact ih hsteps.2 (step_kept_of_some hsteps.1 hkept)

theorem after_index_of_answersNothing {session : Session} {steps : List Step}
    (hsteps : steps.all Step.keepsIndex) (hnothing : session.answersNothing steps) :
    (session.after steps).index = session.index := by
  induction steps generalizing session with
  | nil => rfl
  | cons s steps ih =>
    rw [List.all_cons, Bool.and_eq_true] at hsteps
    rw [answersNothing, run, List.zip_cons_cons, List.all_cons, Bool.and_eq_true,
      Bool.not_eq_true'] at hnothing
    exact (ih hsteps.2 hnothing.2).trans (step_index_of_unanswered hsteps.1 hnothing.1)

end Session

end GoIndex
