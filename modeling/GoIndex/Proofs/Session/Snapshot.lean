import GoIndex.Proofs.Session.Run

/-!
# One snapshot for all questions

An index scans its tree once. From the first question that is answered on, every question about
declarations is answered from the tree as it was then, whatever is done to the tree afterwards;
before that, a question fails exactly when the tree cannot be scanned. A step that fails leaves no
trace, and the list of source files is always that of the tree as it is
(`questions_share_one_snapshot`).

A tree cannot be scanned when one of its source files cannot be read. But there is one more reason,
which no file has a part in: a root with an overlong name cannot be looked for
(`overlong_root_fails_without_files`).
-/

namespace GoIndex.Session

variable {session : Session} {before : List Step}

/-! ### Before and after the first answer -/

/-- **Before the first answer** a question is answered from the tree as it is. -/
theorem replyTo_ask_of_answersNothing (hfresh : session.index.kept = none)
    (hbefore : before.all Step.keepsIndex) (hnothing : session.answersNothing before)
    (query : Query) :
    session.replyTo before (.ask query) =
      (session.index.scanAll (session.tree.after before)).map fun catalog =>
        .answer (query.answer catalog) := by
  rw [replyTo, step_ask, after_index_of_answersNothing hbefore hnothing, after_tree,
    Index.catalog_of_kept_none hfresh]

/-- A question that comes before the first answer fails exactly when the tree cannot be scanned. -/
theorem replyTo_ask_eq_error_iff (hfresh : session.index.kept = none)
    (hbefore : before.all Step.keepsIndex) (hnothing : session.answersNothing before)
    (query : Query) :
    (∃ fault, session.replyTo before (.ask query) = .error fault) ↔
      session.index.scans (session.tree.after before) = false := by
  rw [replyTo_ask_of_answersNothing hfresh hbefore hnothing]
  cases hscans : session.index.scans (session.tree.after before) with
  | false =>
    obtain ⟨fault, hfault⟩ := Index.scanAll_of_not_scans hscans
    rw [hfault]
    exact ⟨fun _ => rfl, fun _ => ⟨fault, rfl⟩⟩
  | true =>
    rw [Index.scanAll_of_scans hscans]
    exact ⟨nofun, nofun⟩

/-- The first answer makes the index keep the snapshot of the tree. -/
theorem after_kept_of_answered (hfresh : session.index.kept = none)
    (hbefore : before.all Step.keepsIndex) (hnothing : session.answersNothing before)
    {first : Step} (hfirst : first.isQuery) {reply : Reply}
    (hreply : session.replyTo before first = .ok reply) :
    session.index.scans (session.tree.after before) ∧
      (session.after (before ++ [first])).index.kept =
        some (session.index.snapshot (session.tree.after before)) := by
  have hindex := after_index_of_answersNothing hbefore hnothing
  have hnone : (session.after before).index.kept = none := by rw [hindex, hfresh]
  obtain ⟨hscans, hkept⟩ := step_kept_of_query hfirst hnone hreply
  rw [hindex, after_tree] at hscans hkept
  rw [after_append]
  exact ⟨hscans, hkept⟩

/-- **After the first answer** a question is answered from what is kept, whatever comes in
between. -/
theorem replyTo_ask_of_kept {catalog : Catalog}
    (hkept : (session.after before).index.kept = some catalog) {later : List Step}
    (hlater : later.all Step.keepsIndex) (query : Query) :
    session.replyTo (before ++ later) (.ask query) = .ok (.answer (query.answer catalog)) := by
  rw [replyTo, after_append, step_ask, Index.catalog_of_kept (after_kept_of_some hlater hkept)]
  rfl

/-! ### Failures and source files -/

/-- **A step that fails leaves no trace.** -/
theorem after_of_replyTo_eq_error {s : Step} {fault : Fault}
    (h : session.replyTo before s = .error fault) :
    session.after (before ++ [s]) = session.after before := by
  rw [after_append]
  exact step_of_error h

theorem replyTo_sourceFiles (session : Session) (hbefore : before.all Step.keepsIndex) :
    session.replyTo before .sourceFiles =
      (session.index.sourceFiles (session.tree.after before)).map fun files =>
        .files (files.map session.index.relativePath) := by
  rw [replyTo, step_sourceFiles, after_index session hbefore, after_tree]
  rfl

/-! ### All runs over one index -/

/-- **One snapshot for all questions**, in every run over one index that keeps nothing yet.
* The first question that is answered, and every one after it, is answered from the declarations
  that the scans of the single source files gave then, in walk order.
* Before that, a question fails exactly when the root cannot be looked for or one of the source
  files cannot be read.
* A step that fails leaves the session as it is: without it, the other steps give the same.
* The source files are always those of the tree as it is. -/
theorem questions_share_one_snapshot {session : Session} (hfresh : session.index.kept = none)
    {before : List Step} (hbefore : before.all Step.keepsIndex) :
    (session.answersNothing before → ∀ first : Step, first.isQuery → ∀ reply,
      session.replyTo before first = .ok reply → ∃ files parts,
        session.index.sourceFiles (session.tree.after before) = .ok files ∧
        List.Forall₂ (fun file part => session.index.scanFile file = .ok part) files parts ∧
        (∀ query, first = .ask query → reply = .answer (query.answer parts.flatten)) ∧
        ∀ later : List Step, later.all Step.keepsIndex → ∀ query,
          session.replyTo (before ++ first :: later) (.ask query) =
            .ok (.answer (query.answer parts.flatten))) ∧
    (session.answersNothing before → ∀ query,
      (∃ fault, session.replyTo before (.ask query) = .error fault) ↔
        (session.tree.after before).find session.index.root = .nameTooLong ∨
          ∃ files, session.index.sourceFiles (session.tree.after before) = .ok files ∧
            ∃ file ∈ files, Index.readFile file = .error .unreadable) ∧
    (∀ s fault, session.replyTo before s = .error fault →
      session.after (before ++ [s]) = session.after before ∧
      ∀ later, ∃ replies,
        session.run (before ++ s :: later) = session.run before ++ .error fault :: replies ∧
        session.run (before ++ later) = session.run before ++ replies) ∧
    session.replyTo before .sourceFiles =
      (session.index.sourceFiles (session.tree.after before)).map fun files =>
        .files (files.map session.index.relativePath) := by
  refine ⟨fun hnothing first hfirst reply hreply => ?_, fun hnothing query => ?_,
    fun s fault hfault => ?_, replyTo_sourceFiles session hbefore⟩
  · obtain ⟨hscans, hkept⟩ := after_kept_of_answered hfresh hbefore hnothing hfirst hreply
    obtain ⟨files, parts, hfiles, hparts, hsnapshot⟩ := Index.exists_parts_of_scans hscans
    rw [hsnapshot] at hkept
    refine ⟨files, parts, hfiles, hparts, ?_, fun later hlater query => ?_⟩
    · -- the first question itself is answered from the scan, before anything is kept
      rintro query rfl
      rw [replyTo_ask_of_answersNothing hfresh hbefore hnothing, Index.scanAll_of_scans hscans,
        hsnapshot] at hreply
      exact (Except.ok.inj hreply).symm
    · rw [List.append_cons]
      exact replyTo_ask_of_kept hkept hlater query
  · rw [replyTo_ask_eq_error_iff hfresh hbefore hnothing, Index.scans_eq_false_iff]
  · have hsame := after_of_replyTo_eq_error hfault
    refine ⟨hsame, fun later => ⟨(session.after before).run later, ?_, run_append _ _ _⟩⟩
    rw [run_append_cons, hfault, hsame]

/-- A session over a file that cannot be read. -/
private def brokenFile : Session where
  tree := .directory [("a.go", .file .unreadable)]
  index := { root := [], settings := {} }

/-- A question that fails, and then the file is written anew. -/
private def mending : List Step :=
  [.ask .all, .write ["a.go"] (.readable "type A struct \x7b\x7d".toUTF8.data.toList)]

/-- Once the file is mended, questions are answered, and they go on being answered from it when it
is changed or gone. -/
theorem questions_share_one_snapshot_of_mended_file :
    (brokenFile.run mending).map Except.isOk = [false, true] ∧
    (brokenFile.replyTo mending .dependencies).isOk ∧
    ∃ files parts, brokenFile.index.sourceFiles (brokenFile.tree.after mending) = .ok files ∧
      List.Forall₂ (fun file part => brokenFile.index.scanFile file = .ok part) files parts ∧
      ∀ later : List Step, later.all Step.keepsIndex → ∀ query,
        brokenFile.replyTo (mending ++ .dependencies :: later) (.ask query) =
          .ok (.answer (query.answer parts.flatten)) := by
  have hok : (brokenFile.replyTo mending .dependencies).isOk := by decide +kernel
  refine ⟨by decide +kernel, hok, ?_⟩
  cases hreply : brokenFile.replyTo mending .dependencies with
  | error fault =>
    rw [hreply] at hok
    cases hok
  | ok reply =>
    have hfresh : brokenFile.index.kept = none := rfl
    have hmending : mending.all Step.keepsIndex := by decide
    obtain ⟨files, parts, hfiles, hparts, -, hlater⟩ :=
      (questions_share_one_snapshot hfresh hmending).1 (by decide +kernel) .dependencies rfl
        reply hreply
    exact ⟨files, parts, hfiles, hparts, hlater⟩

/-- A session over a root that is not there and has a name of 256 bytes. -/
private def overlongRoot : Session where
  tree := .directory []
  index := { root := ["p", String.ofList (List.replicate 256 'a')], settings := {} }

/-- As soon as the directory that would hold an overlong root is there, a question fails, although
there is no file that could not be read. -/
theorem overlong_root_fails_without_files :
    let before : List Step := [.write ["p", "x.go"] (.readable "package p\n".toUTF8.data.toList)]
    overlongRoot.replyTo before (.ask .all) = .error (.unusable .nameTooLong) ∧
      (overlongRoot.tree.after before).at? overlongRoot.index.root = none := by
  intro before
  have hfind : (overlongRoot.tree.after before).find overlongRoot.index.root = .nameTooLong := by
    decide +kernel
  constructor
  · rw [replyTo_ask_of_answersNothing rfl rfl (by decide +kernel), Index.scanAll_eq, if_pos hfind]
    rfl
  · rw [← Option.isNone_iff_eq_none]
    decide +kernel

end GoIndex.Session
