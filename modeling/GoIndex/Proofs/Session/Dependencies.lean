import GoIndex.Proofs.Index.Dependencies
import GoIndex.Proofs.Session.Snapshot

/-!
# Reports on dependencies in a session

In a session the tree may change after the index has been filled, so a report joins the files of
today with the declarations of an earlier day. `dependencies_report` says which day that is, in
every run over one index: that of the first question that was answered, the report itself if no
other was. As long as the tree is still the same, the report has a place for every declaration.
-/

namespace GoIndex.Session

open Text

variable {session : Session}

/-- In a run that answers some question there is a first one that is answered. -/
theorem exists_first_answered {steps : List Step} (h : session.answersNothing steps = false) :
    ∃ early first later, steps = early ++ first :: later ∧ session.answersNothing early ∧
      first.isQuery ∧ ∃ reply, session.replyTo early first = .ok reply := by
  induction steps generalizing session with
  | nil => cases h
  | cons s steps ih =>
    rw [answersNothing, run, List.zip_cons_cons, List.all_cons, Bool.and_eq_false_iff,
      Bool.not_eq_false'] at h
    by_cases hs : (s.isQuery && (session.step s).2.isOk) = true
    · obtain ⟨hquery, hok⟩ := Bool.and_eq_true_iff.mp hs
      cases hreply : (session.step s).2 with
      | error fault =>
        rw [hreply] at hok
        cases hok
      | ok reply => exact ⟨[], s, steps, rfl, rfl, hquery, reply, hreply⟩
    · obtain ⟨early, first, later, rfl, hnothing, hquery, hreply⟩ := ih (h.resolve_left hs)
      refine ⟨s :: early, first, later, rfl, ?_, hquery, hreply⟩
      rw [answersNothing, run, List.zip_cons_cons, List.all_cons, Bool.and_eq_true]
      exact ⟨by rw [Bool.not_eq_true']; exact Bool.eq_false_iff.mpr hs, hnothing⟩

/-- When a question is answered after some steps, it or one of them is the first to be answered. -/
theorem exists_first_answered_of_reply {steps : List Step} {s : Step} (hs : s.isQuery)
    {reply : Reply} (h : session.replyTo steps s = .ok reply) :
    ∃ early first later, steps ++ [s] = early ++ first :: later ∧ session.answersNothing early ∧
      first.isQuery ∧ ∃ reply, session.replyTo early first = .ok reply := by
  cases hnothing : session.answersNothing steps with
  | true => exact ⟨steps, s, [], rfl, hnothing, hs, reply, h⟩
  | false =>
    obtain ⟨early, first, later, rfl, hearly, hfirst⟩ := exists_first_answered hnothing
    exact ⟨early, first, later ++ [s], by simp, hearly, hfirst⟩

/-- What is answered to the question for dependencies is a report. -/
theorem replyTo_dependencies_of_isOk {steps : List Step}
    (h : (session.replyTo steps .dependencies).isOk) :
    ∃ deps, session.replyTo steps .dependencies = .ok (.dependencies deps) := by
  rw [replyTo, step_dependencies_eq] at h ⊢
  cases hdeps : ((session.after steps).index.dependencies (session.after steps).tree).2 with
  | error fault =>
    rw [hdeps] at h
    cases h
  | ok deps => exact ⟨deps, rfl⟩

/-- A report comes from the files as they are and from what the index keeps from then on. -/
theorem of_replyTo_dependencies {steps : List Step} {deps : List Index.Dependencies}
    (hsteps : steps.all Step.keepsIndex)
    (h : session.replyTo steps .dependencies = .ok (.dependencies deps)) :
    ∃ catalog, (session.after (steps ++ [.dependencies])).index.kept = some catalog ∧
      session.index.scans (session.tree.after steps) ∧
      deps = Index.dependenciesOf
        (session.index.importsOf (session.index.collected (session.tree.after steps))) catalog := by
  have hindex := after_index session hsteps
  obtain ⟨report, hreport, hreply⟩ := map_eq_ok_iff.mp h
  obtain rfl : report = deps := Reply.dependencies.inj hreply
  obtain ⟨hscans, catalog, -, hdeps, hkeep⟩ := Index.of_dependencies_eq_ok hreport
  rw [hindex, after_tree] at hscans hdeps
  refine ⟨catalog, ?_, hscans, hdeps⟩
  rw [after_append]
  exact congrArg Index.kept hkeep

/-- **Reports on dependencies**, in every run over one index that kept nothing at first. The report
is on the source files of the tree as it is and on the catalog that the index keeps. That catalog is
the scan of the tree as it was before the first question that was answered. When the tree is still
what it was then, every module of the catalog is reported, and every declaration is exported by its
module. -/
theorem dependencies_report {session : Session} (hfresh : session.index.kept = none)
    {steps : List Step} (hsteps : steps.all Step.keepsIndex) {deps : List Index.Dependencies}
    (h : session.replyTo steps .dependencies = .ok (.dependencies deps)) :
    ∃ early first later, steps ++ [.dependencies] = early ++ first :: later ∧
      session.answersNothing early ∧ first.isQuery ∧ (session.replyTo early first).isOk ∧
    ∃ catalog, session.index.scanAll (session.tree.after early) = .ok catalog ∧
      (session.after (steps ++ [.dependencies])).index.kept = some catalog ∧
    ∃ files, session.index.sourceFiles (session.tree.after steps) = .ok files ∧
      session.index.Reports files catalog deps ∧
      (session.tree.after steps = session.tree.after early →
        (∀ module ∈ catalog.modules, module ∈ deps.map (·.module)) ∧
        ∀ d ∈ catalog, ∃ r ∈ deps, r.module = d.module ∧ d.name ∈ r.exports) := by
  have hall : (steps ++ [Step.dependencies]).all Step.keepsIndex := by
    rw [List.all_append, hsteps]
    rfl
  obtain ⟨early, first, later, hrun, hnothing, hquery, reply, hreply⟩ :=
    exists_first_answered_of_reply rfl h
  rw [hrun, List.all_append, Bool.and_eq_true, List.all_cons, Bool.and_eq_true] at hall
  obtain ⟨hearly, hfirst, hlater⟩ := hall
  obtain ⟨hscanned, hkept⟩ := after_kept_of_answered hfresh hearly hnothing hquery hreply
  -- what the first answer made the index keep is still there, so the report used it
  have hstill : (session.after (steps ++ [.dependencies])).index.kept =
      some (session.index.snapshot (session.tree.after early)) := by
    rw [hrun, List.append_cons, after_append]
    exact after_kept_of_some hlater hkept
  obtain ⟨catalog, hcatalog, hscans, hdeps⟩ := of_replyTo_dependencies hsteps h
  obtain rfl : session.index.snapshot (session.tree.after early) = catalog :=
    Option.some.inj (hstill.symm.trans hcatalog)
  have hroot : (session.tree.after steps).find session.index.root ≠ .nameTooLong := by
    rw [Index.scans, Bool.and_eq_true, bne_iff_ne] at hscans
    exact hscans.1
  have hreports := session.index.reports_dependenciesOf
    (session.index.collected (session.tree.after steps))
    (session.index.snapshot (session.tree.after early))
  rw [← hdeps] at hreports
  refine ⟨early, first, later, hrun, hnothing, hquery, by rw [hreply]; rfl, _,
    Index.scanAll_of_scans hscanned, hstill, _, Index.sourceFiles_of_find_ne hroot, hreports,
    fun hsame => ?_⟩
  rw [hsame] at hreports
  have hexported : ∀ d ∈ session.index.snapshot (session.tree.after early),
      ∃ r ∈ deps, r.module = d.module ∧ d.name ∈ r.exports := fun d hd => hreports.of_snapshot hd
  refine ⟨fun module hmodule => ?_, hexported⟩
  rw [Catalog.modules, mem_ascending, List.mem_map] at hmodule
  obtain ⟨d, hd, rfl⟩ := hmodule
  obtain ⟨r, hr, hrmodule, -⟩ := hexported d hd
  exact List.mem_map.mpr ⟨r, hr, hrmodule⟩

/-- A file at the root and one in a directory. -/
private def twoModules : Session where
  tree := .directory [("a.go", .file (.readable "import \"fmt\"\ntype A int".toUTF8.data.toList)),
    ("net", .directory [("c.go", .file (.readable "type C int".toUTF8.data.toList))])]
  index := { root := [], settings := {} }

/-- A question, and then the directory is removed. -/
private def removal : List Step :=
  [.ask .all, .remove ["net"]]

/-- After the removal the report is on the root alone, although the catalog still has both modules;
on the tree as it was, every declaration has its place. -/
theorem dependencies_report_of_two_modules :
    (∃ deps, twoModules.replyTo removal .dependencies = .ok (.dependencies deps) ∧
      ∃ catalog : Catalog, ∃ files,
      (twoModules.after (removal ++ [.dependencies])).index.kept = some catalog ∧
      catalog.map (fun d => (d.module, d.name)) = [("root", "A"), ("net", "C")] ∧
      files.map twoModules.index.relativePath = ["a.go"] ∧
      twoModules.index.Reports files catalog deps) ∧
    ∃ deps, twoModules.replyTo [] .dependencies = .ok (.dependencies deps) ∧
      ∃ catalog : Catalog, catalog.map (·.name) = ["A", "C"] ∧
      ∀ d ∈ catalog, ∃ r ∈ deps, r.module = d.module ∧ d.name ∈ r.exports := by
  constructor
  · obtain ⟨deps, hdeps⟩ := replyTo_dependencies_of_isOk
      (show (twoModules.replyTo removal .dependencies).isOk by decide +kernel)
    obtain ⟨-, -, -, -, -, -, -, catalog, -, hkept, files, hfiles, hreports, -⟩ :=
      dependencies_report rfl (by decide) hdeps
    have hnames : (twoModules.after (removal ++ [.dependencies])).index.kept.map
        (List.map fun d => (d.module, d.name)) = some [("root", "A"), ("net", "C")] := by
      decide +kernel
    have hpaths : (twoModules.index.sourceFiles (twoModules.tree.after removal)).toOption.map
        (List.map twoModules.index.relativePath) = some ["a.go"] := by decide +kernel
    rw [hkept] at hnames
    rw [hfiles] at hpaths
    exact ⟨deps, hdeps, catalog, files, hkept, Option.some.inj hnames, Option.some.inj hpaths,
      hreports⟩
  · obtain ⟨deps, hdeps⟩ := replyTo_dependencies_of_isOk
      (show (twoModules.replyTo [] .dependencies).isOk by decide +kernel)
    obtain ⟨early, first, later, hrun, -, -, -, catalog, -, hkept, -, -, -, hsame⟩ :=
      dependencies_report rfl rfl hdeps
    have hearly : early = [] := by
      cases early with
      | nil => rfl
      | cons s early => simp at hrun
    have hnames : (twoModules.after ([] ++ [.dependencies])).index.kept.map
        (List.map (·.name)) = some ["A", "C"] := by decide +kernel
    rw [hkept] at hnames
    exact ⟨deps, hdeps, catalog, Option.some.inj hnames, (hsame (by rw [hearly])).2⟩

end GoIndex.Session
