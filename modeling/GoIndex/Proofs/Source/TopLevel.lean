import GoIndex.Proofs.Source.Group
import GoIndex.Proofs.Source.Places
import GoIndex.Proofs.Text.Brackets

/-!
# Declarations at top level

A line is at **top level** when no bracket is open before it (`AtTopLevel`). A scan keeps no count
of brackets: all that it passes over are the blocks of interfaces, structs and groups. So what
stands inside brackets is declared like what stands outside, unless such a block shelters it, and so
are the lines of a value inside a group. `scan_at_top_level_iff` says exactly when nothing of the
kind happens to a text that nests.

Three facts carry the argument. Before a line inside a block, something is open
(`not_atTopLevel_of_encloses`): the heading opens the delimiter that its block counts, and the count
is never even before the block ends. A heading where a scan does not stop lies inside the block of
one where it does (`mem_stops_or_encloses`), so a heading at top level that shelters another must
itself be a stop, by induction from the first line on. And the parenthesis of a group is the first
bracket that its line opens, so it is all that is open in the group unless a later bracket is
(`openBefore_group_iff`).
-/

namespace GoIndex.Source

open Text

variable {ls : List Line}

/-! ### Headings -/

/-- The heading on a line, with the lines around it. -/
def headingAt? (ls : List Line) (n : Nat) : Option Stop := do
  let line ← ls[n]?
  let h ← Heading.ofLine? (trim line)
  some ⟨(ls.take n).reverse, h, line, ls.drop (n + 1)⟩

/-- The headings of some lines, whether or not a scan stops there. -/
def headings (ls : List Line) : List Stop :=
  (List.range ls.length).filterMap (headingAt? ls)

theorem mem_headings_iff {s : Stop} :
    s ∈ headings ls ↔
      s.above.reverse ++ s.line :: s.rest = ls ∧
        Heading.ofLine? (trim s.line) = some s.heading := by
  simp only [headings, List.mem_filterMap, List.mem_range, headingAt?, Option.bind_eq_bind,
    Option.bind_eq_some_iff, Option.some.injEq]
  constructor
  · rintro ⟨n, hn, line, hline, h, hheading, rfl⟩
    refine ⟨?_, hheading⟩
    obtain ⟨-, rfl⟩ := List.getElem?_eq_some_iff.mp hline
    rw [List.reverse_reverse, ← List.drop_eq_getElem_cons hn, List.take_append_drop]
  · rintro ⟨rfl, hheading⟩
    obtain ⟨above, h, line, rest⟩ := s
    refine ⟨above.length, by simp, line, by simp, h, hheading, ?_⟩
    simp [List.drop_append]

/-- The lines from a heading on. -/
theorem drop_of_mem_headings {s : Stop} (hs : s ∈ headings ls) :
    ls.drop s.above.length = s.line :: s.rest := by
  rw [← (mem_headings_iff.mp hs).1, ← List.length_reverse, List.drop_left]

/-- The lines above a heading. -/
theorem take_of_mem_headings {s : Stop} (hs : s ∈ headings ls) :
    ls.take s.above.length = s.above.reverse := by
  rw [← (mem_headings_iff.mp hs).1, ← List.length_reverse, List.take_left]

theorem mem_headings_of_mem_stops {s : Stop} (hs : s ∈ stops [] ls) : s ∈ headings ls := by
  obtain ⟨hwhole, -, hheading⟩ := Stop.whole_of_mem_stops hs
  exact mem_headings_iff.mpr ⟨hwhole, hheading⟩

/-- A line stands in the block of a heading, behind the heading. -/
def Stop.Encloses (s : Stop) (n : Nat) : Prop :=
  s.above.length < n ∧ n < s.above.length + s.block.length

instance (s : Stop) (n : Nat) : Decidable (s.Encloses n) :=
  inferInstanceAs (Decidable (_ ∧ _))

/-- What stands on a line is all there is to say about where a stop stands. -/
theorem Stop.eq_of_length_above {s : Stop} {above rest : List Line} {line : Line}
    (hwhole : s.above.reverse ++ s.line :: s.rest = above.reverse ++ line :: rest)
    (hlen : s.above.length = above.length) :
    s.above = above ∧ s.line = line ∧ s.rest = rest := by
  obtain ⟨habove, hline⟩ := List.append_inj hwhole (by simpa using hlen)
  exact ⟨List.reverse_inj.mp habove, List.cons.inj hline⟩

/-- **Cover**: a scan stops at a heading, or it has stopped at one whose block encloses it. -/
theorem mem_stops_or_encloses {s : Stop} (hs : s ∈ headings ls) :
    s ∈ stops [] ls ∨ ∃ t ∈ stops [] ls, t.Encloses s.above.length := by
  obtain ⟨hwhole, hheading⟩ := mem_headings_iff.mp hs
  -- the scan goes on below `above`, and has not passed the heading yet
  have hfrom : ∀ above lines : List Line, s.above.reverse ++ s.line :: s.rest =
      above.reverse ++ lines → above.length ≤ s.above.length →
        s ∈ stops above lines ∨ ∃ t ∈ stops above lines, t.Encloses s.above.length := by
    clear hs hwhole
    intro above lines hwhole hle
    fun_induction stops above lines with
    | case1 above =>
      have hlen := congrArg List.length hwhole
      simp only [List.length_append, List.length_reverse, List.length_cons, List.length_nil] at hlen
      omega
    | case2 above line rest hnone ih =>
      by_cases hlen : s.above.length = above.length
      · obtain ⟨-, hline, -⟩ := Stop.eq_of_length_above hwhole hlen
        rw [hline, hnone] at hheading
        cases hheading
      · exact ih (by simpa using hwhole) (by rw [List.length_cons]; omega)
    | case3 above line rest h hsome ih =>
      by_cases hlen : s.above.length = above.length
      · obtain ⟨habove, hline, hrest⟩ := Stop.eq_of_length_above hwhole hlen
        rw [hline, hsome] at hheading
        have hstop : s = ⟨above, h, line, rest⟩ := by
          rw [← habove, Option.some.inj hheading, ← hline, ← hrest]
        exact .inl (List.mem_cons.mpr (.inl hstop))
      · by_cases hinside : s.above.length < above.length + (h.extent (line :: rest)).1.length
        · exact .inr ⟨⟨above, h, line, rest⟩, List.mem_cons_self,
            Nat.lt_of_le_of_ne hle (Ne.symm hlen), hinside⟩
        · have hwhole' : s.above.reverse ++ s.line :: s.rest =
              ((h.extent (line :: rest)).1.reverse ++ above).reverse ++
                (h.extent (line :: rest)).2 := by
            rw [List.reverse_append, List.reverse_reverse, List.append_assoc, h.extent_append,
              hwhole]
          rcases ih hwhole' (by rw [List.length_append, List.length_reverse]; omega) with
            hmem | ⟨t, ht, hencloses⟩
          · exact .inl (List.mem_cons_of_mem _ hmem)
          · exact .inr ⟨t, List.mem_cons_of_mem _ ht, hencloses⟩
  exact hfrom [] ls hwhole (Nat.zero_le _)

/-! ### Top level -/

/-- No bracket is open before a line. -/
def AtTopLevel (ls : List Line) (n : Nat) : Prop :=
  openBefore ls n = some []

instance (ls : List Line) (n : Nat) : Decidable (AtTopLevel ls n) :=
  inferInstanceAs (Decidable (_ = _))

/-- A heading with a block has the opening delimiter of the block on its line. -/
theorem opener_mem_of_ofLine? {line : Line} {h : Heading} {d : Delimiters}
    (hline : Heading.ofLine? (trim line) = some h) (hd : h.delimiters? = some d) :
    ∃ o c, d = ⟨some o, some c⟩ ∧ opener? c = some o ∧ o ∈ line := by
  have hsub : ∀ c ∈ trim line, c ∈ line := fun c hc => (isInfix_trim line).subset hc
  obtain ⟨rest, hread⟩ := Heading.read?_of_ofLine? hline
  cases h with
  | interface name | struct name =>
    obtain rfl := Option.some.inj hd
    obtain ⟨r, hbody, -⟩ := Option.map_eq_some_iff.mp hread
    exact ⟨'{', '}', rfl, rfl, hsub _ (brace_mem_of_body? hbody)⟩
  | group kind =>
    obtain rfl := Option.some.inj hd
    obtain ⟨-, blanks, -, htext⟩ := group?_eq_some_iff.mp hread
    exact ⟨'(', ')', rfl, rfl, hsub _ (by simp [htext])⟩
  | type name equated value | method receiver name | function name | single kind name value =>
    cases hd

/-- Behind a heading and before the end of its block, more has been opened than closed, or less. -/
theorem Stop.exists_count_ne_of_lt {s : Stop}
    (hheading : Heading.ofLine? (trim s.line) = some s.heading) {k : Nat} (hpos : 0 < k)
    (hk : k < s.block.length) :
    ∃ o c, opener? c = some o ∧ ((s.line :: s.rest).take k).flatten.count o ≠
      ((s.line :: s.rest).take k).flatten.count c := by
  rw [Stop.block, s.heading.extent_eq] at hk
  cases hd : s.heading.delimiters? with
  | none =>
    rw [hd, Option.elim_none, List.length_take] at hk
    omega
  | some d =>
    rw [hd, Option.elim_some] at hk
    obtain ⟨o, c, rfl, hpair, hmem⟩ := opener_mem_of_ofLine? hheading hd
    refine ⟨o, c, hpair, fun heven => ?_⟩
    have hne : o ≠ c := by
      rintro rfl
      obtain ⟨hopener, hcloser⟩ := isOpener_of_opener? hpair
      rw [hopener] at hcloser
      cases hcloser
    have hopened : o ∈ ((s.line :: s.rest).take k).flatten := by
      obtain ⟨k, rfl⟩ : ∃ j, k = j + 1 := ⟨k - 1, by omega⟩
      rw [List.take_succ_cons, List.flatten_cons]
      exact List.mem_append_left _ hmem
    -- something has been opened, so an even count would have closed the block
    have hopen := isClosed_behindAll_take_takeBlockFrom hpos hk
    rw [(Balance.isClosed_behindAll_iff hne).mpr ⟨hopened, heven⟩] at hopen
    cases hopen

/-- **Inside a block** a line is not at top level. -/
theorem not_atTopLevel_of_encloses {s : Stop} (hs : s ∈ headings ls)
    (htop : AtTopLevel ls s.above.length) {n : Nat} (hn : s.Encloses n) : ¬ AtTopLevel ls n := by
  intro htop'
  obtain ⟨hbehind, hbefore⟩ := hn
  obtain ⟨k, rfl⟩ : ∃ k, n = s.above.length + k := ⟨n - s.above.length, by omega⟩
  obtain ⟨o, c, hpair, huneven⟩ :=
    Stop.exists_count_ne_of_lt (mem_headings_iff.mp hs).2 (k := k) (by omega) (by omega)
  have hstart := count_openBefore hpair htop
  have hhere := count_openBefore hpair htop'
  rw [List.take_add, drop_of_mem_headings hs, List.flatten_append, List.count_append,
    List.count_append] at hhere
  simp only [List.map_nil, List.count_nil] at hstart hhere
  omega

/-! ### Sheltered headings -/

/-- Every heading is at top level, or a heading at top level encloses it. -/
def HeadingsSheltered (ls : List Line) : Prop :=
  ∀ s ∈ headings ls, AtTopLevel ls s.above.length ∨
    ∃ t ∈ headings ls, AtTopLevel ls t.above.length ∧ t.Encloses s.above.length

instance (ls : List Line) : Decidable (HeadingsSheltered ls) :=
  inferInstanceAs (Decidable (∀ s ∈ headings ls, AtTopLevel ls s.above.length ∨
    ∃ t ∈ headings ls, AtTopLevel ls t.above.length ∧ t.Encloses s.above.length))

/-- **Stops at top level**: a scan stops at top level only, exactly when all other headings are
sheltered. -/
theorem forall_atTopLevel_stops_iff :
    (∀ s ∈ stops [] ls, AtTopLevel ls s.above.length) ↔ HeadingsSheltered ls := by
  constructor
  · intro htop s hs
    rcases mem_stops_or_encloses hs with hstop | ⟨t, ht, hencloses⟩
    · exact .inl (htop s hstop)
    · exact .inr ⟨t, mem_headings_of_mem_stops ht, htop t ht, hencloses⟩
  · intro hsheltered s hs
    -- by induction on the line of the stop
    induction hn : s.above.length using Nat.strong_induction_on generalizing s with
    | _ n ih =>
    subst hn
    rcases hsheltered s (mem_headings_of_mem_stops hs) with htop | ⟨t, ht, htop, hencloses⟩
    · exact htop
    obtain ⟨hbehind, hbefore⟩ := hencloses
    rcases mem_stops_or_encloses ht with hstop | ⟨u, hu, hencloses⟩
    · -- a scan that stops at `t` does not stop again inside its block
      rcases eq_or_apart_of_mem_stops hs hstop with rfl | hapart | hapart <;> omega
    · -- `t` lies in the block of an earlier stop, so it is not at top level
      have hearlier : u.above.length < s.above.length := hencloses.1.trans hbehind
      have hutop := ih u.above.length hearlier u hu rfl
      exact absurd htop (not_atTopLevel_of_encloses (mem_headings_of_mem_stops hu) hutop hencloses)

/-! ### Entries -/

/-- Whether a heading opens a group. -/
def Heading.isGroup : Heading → Bool
  | .group _ => true
  | _ => false

/-- The place of the first parenthesis on the line of a heading, among the characters of the
lines. -/
def Stop.parenPlace (s : Stop) : Nat :=
  s.above.flatten.length + s.line.idxOf '('

/-- The brackets that a heading itself holds open over what it declares, each with its place: the
parenthesis of a group. -/
def Stop.ownBrackets (s : Stop) : List (Char × Nat) :=
  if s.heading.isGroup then [('(', s.parenPlace)] else []

/-- Between the first and the last line of a group at top level, a line whose code starts with a
capital letter stands in no bracket that was opened behind the parenthesis of the group. -/
def EntriesDirect (ls : List Line) : Prop :=
  ∀ s ∈ headings ls, s.heading.isGroup → AtTopLevel ls s.above.length →
    ∀ r ∈ s.block.tail.dropLast.zipIdx 1, isExported (codeOf r.1) →
      ∀ b ∈ (openBefore ls (s.above.length + r.2)).getD [], b.2 ≤ s.parenPlace

instance (ls : List Line) : Decidable (EntriesDirect ls) :=
  inferInstanceAs (Decidable (∀ s ∈ headings ls, s.heading.isGroup →
    AtTopLevel ls s.above.length →
      ∀ r ∈ s.block.tail.dropLast.zipIdx 1, isExported (codeOf r.1) →
        ∀ b ∈ (openBefore ls (s.above.length + r.2)).getD [], b.2 ≤ s.parenPlace))

/-- The lines of a block that give an exported entry are those whose code starts with a capital
letter. -/
theorem exists_exported_entry_iff {block : List Line} {distance : Nat} :
    (∃ r ∈ groupEntries block, isExported r.1.name ∧ r.2 = distance) ↔
      ∃ r ∈ block.tail.dropLast.zipIdx 1, isExported (codeOf r.1) ∧ r.2 = distance := by
  have hcode (line : Line) : (exportedOf? line).isSome = isExported (codeOf line) := by
    rw [exportedOf?_of_codeOf rfl, Option.isSome_map]
    cases codeOf line with
    | nil => rfl
    | cons c rest =>
      rw [nameFrom?, isExported, List.head?_cons, Option.any_some]
      split <;> simp_all
  constructor
  · rintro ⟨r, hr, hexported, rfl⟩
    have hmem : r ∈ (groupEntries block).filter (isExported ·.1.name) :=
      List.mem_filter.mpr ⟨hr, hexported⟩
    rw [filter_groupEntries] at hmem
    obtain ⟨q, hq, hentry⟩ := List.mem_flatMap.mp hmem
    obtain ⟨entry, hsome, rfl⟩ := List.mem_map.mp hentry
    refine ⟨q, hq, ?_, rfl⟩
    rw [← hcode, Option.mem_toList.mp hsome]
    rfl
  · rintro ⟨q, hq, hexported, rfl⟩
    rw [← hcode] at hexported
    obtain ⟨entry, hentry⟩ := Option.isSome_iff_exists.mp hexported
    have hmem : (entry, q.2) ∈ (groupEntries block).filter (isExported ·.1.name) := by
      rw [filter_groupEntries]
      refine List.mem_flatMap.mpr ⟨q, hq, List.mem_map.mpr ⟨entry, ?_, rfl⟩⟩
      exact Option.mem_toList.mpr hentry
    obtain ⟨hmem, hname⟩ := List.mem_filter.mp hmem
    exact ⟨_, hmem, hname, rfl⟩

/-- A declaration comes from one stop only. -/
theorem eq_of_mem_declarations {origin : Origin} {s t : Stop} (hs : s ∈ stops [] ls)
    (ht : t ∈ stops [] ls) {d : Declaration} (hds : d ∈ s.declarations origin)
    (hdt : d ∈ t.declarations origin) : s = t := by
  have hplace := Stop.lineNumber_mem_extent hds
  have hplace' := Stop.lineNumber_mem_extent hdt
  rcases eq_or_apart_of_mem_stops hs ht with heq | hapart | hapart
  · exact heq
  · omega
  · omega

theorem Heading.isGroup_iff {h : Heading} : h.isGroup ↔ ∃ kind, h = .group kind := by
  cases h <;> simp [Heading.isGroup]

/-- The entries of a group stand inside its block. -/
theorem Stop.encloses_entry (s : Stop) {r : Entry × Nat} (hr : r ∈ groupEntries s.block) :
    s.Encloses (s.above.length + r.2) := by
  obtain ⟨hpos, hlt⟩ := distance_lt_of_mem_groupEntries hr
  exact ⟨by omega, by omega⟩

/-- The parenthesis of a group is the first bracket that its line opens. -/
theorem exists_paren_of_isGroup {s : Stop}
    (hheading : Heading.ofLine? (trim s.line) = some s.heading) (hgroup : s.heading.isGroup) :
    ∃ front back, s.line = front ++ '(' :: back ∧ ∀ c ∈ front, isOpener c = false := by
  obtain ⟨kind, hkind⟩ := Heading.isGroup_iff.mp hgroup
  rw [hkind] at hheading
  obtain ⟨rest, hread⟩ := Heading.read?_of_ofLine? hheading
  obtain ⟨-, blanks, hblanks, htrim⟩ := group?_eq_some_iff.mp hread
  obtain ⟨tail, htail⟩ := isPrefix_trimRight (trimLeft s.line)
  have hblank : ∀ c, isBlank c → isOpener c = false := by
    intro c hc
    by_contra hopen
    simp only [isOpener, Bool.not_eq_false, Bool.or_eq_true, beq_iff_eq] at hopen
    rcases hopen with (rfl | rfl) | rfl <;> exact absurd hc (by decide)
  have hword : ∀ c ∈ kind.keyword.spelling, isOpener c = false := by
    have hall : kind.keyword.spelling.all (!isOpener ·) := by cases kind <;> rfl
    simpa using hall
  refine ⟨s.line.takeWhile isBlank ++ (kind.keyword.spelling ++ blanks), rest ++ tail, ?_, ?_⟩
  · have hline : s.line.takeWhile isBlank ++ (trim s.line ++ tail) = s.line := by
      rw [trim, htail]
      exact List.takeWhile_append_dropWhile
    rw [htrim] at hline
    simpa using hline.symm
  · intro c hc
    rcases List.mem_append.mp hc with hc | hc
    · exact hblank c (List.all_eq_true.mp List.all_takeWhile c hc)
    · rcases List.mem_append.mp hc with hc | hc
      · exact hword c hc
      · exact hblank c (hblanks c hc)

/-- What is open behind the heading of a group at top level, and was opened no later than its
parenthesis, is the parenthesis. -/
theorem Stop.eq_paren_of_mem_openBrackets {s : Stop} (hs : s ∈ headings ls)
    (hgroup : s.heading.isGroup) (htop : AtTopLevel ls s.above.length) {k : Nat}
    (hbehind : s.above.length < s.above.length + k) {stack : List (Char × Nat)}
    (hstack : openBefore ls (s.above.length + k) = some stack) {b : Char × Nat} (hb : b ∈ stack)
    (hplace : b.2 ≤ s.parenPlace) : b = ('(', s.parenPlace) := by
  obtain ⟨front, back, hline, hfront⟩ :=
    exists_paren_of_isGroup (mem_headings_iff.mp hs).2 hgroup
  obtain ⟨k, rfl⟩ : ∃ j, k = j + 1 := ⟨k - 1, by omega⟩
  have hstart : (ls.take s.above.length).flatten.length = s.above.flatten.length := by
    rw [take_of_mem_headings hs, List.length_flatten, List.length_flatten, List.map_reverse,
      List.sum_reverse]
  have hparen : s.parenPlace = s.above.flatten.length + front.length := by
    have hnot : '(' ∉ front := fun hmem => absurd (hfront _ hmem) (by decide)
    rw [Stop.parenPlace, hline, List.idxOf_append_of_notMem hnot, List.idxOf_cons_self,
      Nat.add_zero]
  rw [openBefore_add htop, drop_of_mem_headings hs, List.take_succ_cons, List.flatten_cons, hline,
    List.append_assoc, List.cons_append, hstart] at hstack
  have hopener := isOpener_of_mem_openBrackets hstack b hb
  have hmem := List.mem_reverse.mp ((sublist_openBrackets hstack).subset hb)
  rw [List.zipIdx_append, List.zipIdx_cons] at hmem
  rcases List.mem_append.mp hmem with hmem | hmem
  · -- in front of the parenthesis stands no bracket
    rw [hfront b.1 (List.fst_mem_of_mem_zipIdx hmem)] at hopener
    cases hopener
  · rcases List.mem_cons.mp hmem with rfl | hmem
    · rw [hparen, Nat.add_comm]
    · -- all else stands behind it
      have hlater := List.le_snd_of_mem_zipIdx hmem
      omega

/-- **The parenthesis of a group**: inside the block of a group at top level, nothing but its own
parenthesis is open, unless a bracket is that was opened behind it. -/
theorem openBefore_group_iff (hnested : IsNested ls.flatten) {s : Stop} (hs : s ∈ headings ls)
    (hgroup : s.heading.isGroup) (htop : AtTopLevel ls s.above.length) {k : Nat}
    (hinside : s.Encloses (s.above.length + k)) :
    openBefore ls (s.above.length + k) = some s.ownBrackets ↔
      ∀ b ∈ (openBefore ls (s.above.length + k)).getD [], b.2 ≤ s.parenPlace := by
  obtain ⟨stack, hstack⟩ :=
    Option.isSome_iff_exists.mp (isSome_openBefore hnested (s.above.length + k))
  rw [hstack, Option.getD_some, Option.some.injEq, Stop.ownBrackets, if_pos hgroup]
  constructor
  · rintro rfl b hb
    rw [List.mem_singleton.mp hb]
  · intro hplace
    have hnil : stack ≠ [] := by
      rintro rfl
      exact not_atTopLevel_of_encloses hs htop hinside hstack
    -- nothing was open before the group, and its parenthesis is the first bracket behind that
    have hown : ∀ b ∈ stack, b = ('(', s.parenPlace) :=
      fun b hb => s.eq_paren_of_mem_openBrackets hs hgroup htop hinside.1 hstack hb (hplace b hb)
    by_contra hne
    rcases ((nodup_openBefore hstack).ne_singleton_iff _).mp hne with hempty | ⟨b, hb, hother⟩
    · exact hnil hempty
    · exact hother (hown b hb)

/-! ### Declarations at top level -/

/-- **Top level**: of a text that nests, a scan stops at top level only, and what it declares stands
at top level but for the parenthesis of its own group, exactly when two things hold: every heading
inside brackets lies in the block of an interface, a struct or a group at top level, and between the
first and the last line of such a group no line that starts with a capital letter stands in a
bracket that was opened behind the parenthesis of the group. -/
theorem scan_at_top_level_iff (origin : Origin) {text : List Char} (hnested : IsNested text) :
    ((∀ s ∈ stops [] (lines text), AtTopLevel (lines text) s.above.length) ∧
      ∀ d ∈ scan origin text, ∃ s ∈ stops [] (lines text), d ∈ s.declarations origin ∧
        ∃ n : Nat, d.lineNumber = n + 1 ∧ openBefore (lines text) n = some s.ownBrackets) ↔
      HeadingsSheltered (lines text) ∧ EntriesDirect (lines text) := by
  have hlines : IsNested (lines text).flatten := isNested_flatten_lines.mpr hnested
  constructor
  · rintro ⟨htop, hdeclared⟩
    refine ⟨forall_atTopLevel_stops_iff.mp htop, fun s hs hgroup hstop q hq hcapital => ?_⟩
    have hmem : s ∈ stops [] (lines text) := by
      rcases mem_stops_or_encloses hs with hmem | ⟨t, ht, hencloses⟩
      · exact hmem
      · exact absurd hstop
          (not_atTopLevel_of_encloses (mem_headings_of_mem_stops ht) (htop t ht) hencloses)
    obtain ⟨kind, hkind⟩ := Heading.isGroup_iff.mp hgroup
    obtain ⟨r, hr, hexported, hdistance⟩ := exists_exported_entry_iff.mpr ⟨q, hq, hcapital, rfl⟩
    have hentry : origin.grouped s.above kind.kind r.1 r.2 ∈ s.declarations origin := by
      rw [s.declarations_group origin hkind]
      exact List.mem_map_of_mem (List.mem_filter.mpr ⟨hr, hexported⟩)
    have hscan : origin.grouped s.above kind.kind r.1 r.2 ∈ scan origin text := by
      rw [scan, scanLines_eq_flatMap_stops]
      exact List.mem_flatMap.mpr ⟨s, hmem, hentry⟩
    obtain ⟨t, ht, hentry', n, hline, hopen⟩ := hdeclared _ hscan
    obtain rfl := eq_of_mem_declarations hmem ht hentry hentry'
    obtain rfl : n = s.above.length + r.2 := by
      simp only [Origin.grouped] at hline
      omega
    rw [← hdistance]
    exact (openBefore_group_iff hlines hs hgroup hstop (s.encloses_entry hr)).mp hopen
  · rintro ⟨hsheltered, hdirect⟩
    have htop := forall_atTopLevel_stops_iff.mpr hsheltered
    refine ⟨htop, fun d hd => ?_⟩
    obtain ⟨s, hs, hds⟩ := exists_stop_of_mem_scan hd
    refine ⟨s, hs, hds, ?_⟩
    by_cases hgroup : s.heading.isGroup
    · obtain ⟨kind, hkind⟩ := Heading.isGroup_iff.mp hgroup
      rw [s.declarations_group origin hkind] at hds
      obtain ⟨r, hr, rfl⟩ := List.mem_map.mp hds
      obtain ⟨hentry, hexported⟩ := List.mem_filter.mp hr
      obtain ⟨q, hq, hcapital, hdistance⟩ :=
        exists_exported_entry_iff.mp ⟨r, hentry, hexported, rfl⟩
      have hheading := mem_headings_of_mem_stops hs
      refine ⟨s.above.length + r.2, ?_, ?_⟩
      · simp only [Origin.grouped]
        omega
      · refine (openBefore_group_iff hlines hheading hgroup (htop s hs)
          (s.encloses_entry hentry)).mpr ?_
        rw [← hdistance]
        exact hdirect s hheading hgroup (htop s hs) q hq hcapital
    · obtain ⟨only, honly, hline⟩ :=
        s.declarations_eq_singleton origin fun kind hkind =>
          hgroup (Heading.isGroup_iff.mpr ⟨kind, hkind⟩)
      rw [honly] at hds
      obtain rfl := List.mem_singleton.mp hds
      refine ⟨s.above.length, hline, ?_⟩
      rw [Stop.ownBrackets, if_neg hgroup]
      exact htop s hs

/-- A struct with a parameter list on lines of its own, a function whose body declares nothing that
is exported, and a group in which a text holds a heading and a call goes over two lines. -/
theorem scan_at_top_level_iff_of_sheltered_heading :
    let text := ("type A struct \x7b\n\tF func(\n\t\tx int)\n\x7d\n" ++
      "func G() \x7b\n\tconst y = 1\n\x7d\n" ++
      "var (\n\tH = `\ntype T int`\n\tK = f(\n\t\t2)\n)\n").toList
    ((scan ⟨"a.go", "root", 12⟩ text).map fun d => (d.name, d.lineNumber)) =
        [("A", 1), ("G", 5), ("H", 9), ("K", 11)] ∧
      (∀ s ∈ stops [] (lines text), AtTopLevel (lines text) s.above.length) ∧
      ∀ d ∈ scan ⟨"a.go", "root", 12⟩ text, ∃ s ∈ stops [] (lines text),
        d ∈ s.declarations ⟨"a.go", "root", 12⟩ ∧
          ∃ n : Nat, d.lineNumber = n + 1 ∧ openBefore (lines text) n = some s.ownBrackets :=
  ⟨by decide +kernel, (scan_at_top_level_iff _ (by decide +kernel)).mpr
    ⟨by decide +kernel, by decide +kernel⟩⟩

/-- **Inside brackets**: a constant in the body of a function is declared, with the brace open
before it, and so is a key in a value of a group, inside a brace of its own. -/
theorem scan_declares_inside_brackets :
    let body := "func f() \x7b\n\tconst X = 1\n\x7d\n".toList
    let value := "var (\n\tA = T\x7b\n\t\tB: 1,\n\t\x7d\n)\n".toList
    (IsNested body ∧ openBefore (lines body) 1 = some [('{', 9)] ∧
        (scan ⟨"a.go", "root", 12⟩ body).map (fun d => (d.name, d.lineNumber)) = [("X", 2)]) ∧
      IsNested value ∧ openBefore (lines value) 2 = some [('{', 11), ('(', 4)] ∧
        (scan ⟨"a.go", "root", 12⟩ value).map (fun d => (d.name, d.lineNumber)) =
          [("A", 2), ("B", 3)] := by
  decide +kernel

end GoIndex.Source
