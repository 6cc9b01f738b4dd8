import Mathlib.Data.List.Nodup
import GoIndex.Proofs.Text.Lines

/-!
# Brackets

Parentheses, square brackets and braces nest when every closing bracket closes the bracket that was
opened last. `openBrackets` reads a text from its start and keeps the brackets that are open; it has
no answer once a closing bracket comes out of turn. A text **nests** when nothing is left open at
its end (`IsNested`).

What stands in the list of open brackets is up to the reader: a bracket alone, or a bracket with its
place. The brackets themselves come out the same (`openBrackets_map`), and characters that are no
brackets make no difference (`openBrackets_filter`). So a text nests just as its lines do
(`isNested_flatten_lines`), although the lines have lost the line ends.

`openBefore` is what is open before a line, each bracket with its place. Three things are known of
it: how many brackets of a sort there are (`count_openBefore`), that no bracket is there twice
(`nodup_openBefore`), and that it starts anew where nothing was open (`openBefore_add`).
-/

namespace GoIndex.Text

/-! ### Open brackets -/

/-- The brackets that open. -/
def isOpener (c : Char) : Bool :=
  c == '(' || c == '[' || c == '{'

/-- The bracket that a closing bracket closes. -/
def opener? : Char → Option Char
  | ')' => some '('
  | ']' => some '['
  | '}' => some '{'
  | _ => none

/-- The brackets. -/
def isBracket (c : Char) : Bool :=
  isOpener c || (opener? c).isSome

/-- A closing bracket closes an opening one, and it is no opening one itself. -/
theorem isOpener_of_opener? {o c : Char} (h : opener? c = some o) :
    isOpener o ∧ isOpener c = false := by
  unfold opener? at h
  split at h
  · obtain rfl := Option.some.inj h
    decide
  · obtain rfl := Option.some.inj h
    decide
  · obtain rfl := Option.some.inj h
    decide
  · cases h

/-- Each opening bracket has one closing bracket. -/
theorem opener?_inj {o c d : Char} (hc : opener? c = some o) (hd : opener? d = some o) : c = d := by
  unfold opener? at hc hd
  split at hc <;> split at hd <;> first | rfl | (cases hc <;> cases hd)

section

variable {α β : Type} {char : α → Char}

/-- The open brackets, innermost first, behind one more item. -/
def pushBracket (char : α → Char) (stack : List α) (x : α) : Option (List α) :=
  if isOpener (char x) then some (x :: stack)
  else (opener? (char x)).elim (some stack) fun o =>
    if stack.head?.map char = some o then some stack.tail else none

/-- The brackets that are open behind some items, innermost first. -/
def openBrackets (char : α → Char) (items : List α) : Option (List α) :=
  items.foldlM (pushBracket char) []

/-! ### One item -/

theorem pushBracket_of_not_isBracket {x : α} (hx : isBracket (char x) = false) (stack : List α) :
    pushBracket char stack x = some stack := by
  simp only [isBracket, Bool.or_eq_false_iff, Option.isSome_eq_false_iff,
    Option.isNone_iff_eq_none] at hx
  simp [pushBracket, hx.1, hx.2]

/-- What one more item does: it opens a bracket, or it is no bracket, or it closes the innermost
one. -/
theorem pushBracket_eq_some_iff {stack after : List α} {x : α} :
    pushBracket char stack x = some after ↔
      (isOpener (char x) ∧ after = x :: stack) ∨
      (isBracket (char x) = false ∧ after = stack) ∨
      (isOpener (char x) = false ∧
        ∃ top, opener? (char x) = some (char top) ∧ stack = top :: after) := by
  rw [pushBracket, isBracket]
  by_cases hopen : isOpener (char x)
  · simp [hopen, eq_comm]
  · cases hclose : opener? (char x) with
    | none => simp [hopen, eq_comm]
    | some o =>
      cases stack with
      | nil => simp [hopen]
      | cons top rest =>
        by_cases htop : char top = o
        · simp [hopen, htop]
        · simp [hopen, htop, Ne.symm htop]

theorem pushBracket_map (f : β → α) (stack : List β) (x : β) :
    pushBracket char (stack.map f) (f x) =
      (pushBracket (char ∘ f) stack x).map (List.map f) := by
  unfold pushBracket
  rw [Function.comp_apply]
  split
  · rfl
  · cases opener? (char (f x)) with
    | none => rfl
    | some o =>
      simp only [Option.elim_some, List.head?_map, Option.map_map, ← List.map_tail]
      split <;> rfl

/-- Of one sort of bracket, an item adds what it opens and takes away what it closes. -/
theorem count_of_pushBracket {o c : Char} (hpair : opener? c = some o) {stack after : List α}
    {x : α} (h : pushBracket char stack x = some after) :
    (after.map char).count o + [char x].count c = (stack.map char).count o + [char x].count o := by
  obtain ⟨hopener, hcloser⟩ := isOpener_of_opener? hpair
  rcases pushBracket_eq_some_iff.mp h with ⟨hopen, rfl⟩ | ⟨hplain, rfl⟩ | ⟨hopen, top, htop, rfl⟩
  · have hc : char x ≠ c := by
      rintro rfl
      rw [hcloser] at hopen
      cases hopen
    have hzero : [char x].count c = 0 := List.count_eq_zero.mpr (by simpa using hc.symm)
    rw [hzero, List.map_cons, List.count_cons, List.count_singleton]
    omega
  · have ho : char x ≠ o := by
      rintro rfl
      simp [isBracket, hopener] at hplain
    have hc : char x ≠ c := by
      rintro rfl
      simp [isBracket, hpair] at hplain
    simp [ho, hc]
  · have ho : char x ≠ o := by
      rintro rfl
      rw [hopener] at hopen
      cases hopen
    -- what is taken away is a bracket of this sort exactly when the item closes this sort
    have hsort : char x = c ↔ char top = o := by
      constructor
      · rintro rfl
        exact Option.some.inj (htop.symm.trans hpair)
      · rintro rfl
        exact opener?_inj htop hpair
    have hzero : [char x].count o = 0 := List.count_eq_zero.mpr (by simpa using ho.symm)
    rw [hzero, List.map_cons, List.count_singleton, List.count_cons]
    by_cases hc : char x = c
    · simp [hc, hsort.mp hc]
    · have htop : char top ≠ o := fun heq => hc (hsort.mpr heq)
      simp [hc, htop]

/-- An item is put on top of the open brackets, or it is not kept at all. -/
theorem sublist_of_pushBracket {stack after : List α} {x : α}
    (h : pushBracket char stack x = some after) : after.Sublist (x :: stack) := by
  rcases pushBracket_eq_some_iff.mp h with ⟨-, rfl⟩ | ⟨-, rfl⟩ | ⟨-, top, -, rfl⟩
  · exact List.Sublist.refl _
  · exact List.sublist_cons_self x after
  · exact (List.sublist_cons_self top after).trans (List.sublist_cons_self x _)

/-! ### Several items -/

theorem openBrackets_append (xs ys : List α) :
    openBrackets char (xs ++ ys) =
      (openBrackets char xs).bind fun stack => ys.foldlM (pushBracket char) stack := by
  rw [openBrackets, List.foldlM_append]
  rfl

/-- What is kept of an item does not change which brackets are open. -/
theorem openBrackets_map (char : α → Char) (f : β → α) (items : List β) :
    openBrackets char (items.map f) = (openBrackets (char ∘ f) items).map (List.map f) := by
  have hfrom : ∀ stack : List β, (items.map f).foldlM (pushBracket char) (stack.map f) =
      (items.foldlM (pushBracket (char ∘ f)) stack).map (List.map f) := by
    induction items with
    | nil => exact fun stack => rfl
    | cons x items ih =>
      intro stack
      rw [List.map_cons, List.foldlM_cons, List.foldlM_cons, pushBracket_map]
      cases pushBracket (char ∘ f) stack x with
      | none => rfl
      | some after => exact ih after
  exact hfrom []

/-- Only brackets count. -/
theorem openBrackets_filter (items : List α) :
    openBrackets char (items.filter (isBracket ∘ char)) = openBrackets char items := by
  have hfrom : ∀ stack : List α,
      (items.filter (isBracket ∘ char)).foldlM (pushBracket char) stack =
        items.foldlM (pushBracket char) stack := by
    induction items with
    | nil => exact fun stack => rfl
    | cons x items ih =>
      intro stack
      rw [List.filter_cons, List.foldlM_cons]
      split
      · rw [List.foldlM_cons]
        exact congrArg _ (funext ih)
      · rename_i hx
        rw [pushBracket_of_not_isBracket (by simpa using hx)]
        exact ih stack
  exact hfrom []

/-- The open brackets of one sort are as many as were opened and not closed. -/
theorem count_openBrackets {o c : Char} (hpair : opener? c = some o) {items stack : List α}
    (h : openBrackets char items = some stack) :
    (stack.map char).count o + (items.map char).count c = (items.map char).count o := by
  have hfrom : ∀ before : List α, items.foldlM (pushBracket char) before = some stack →
      (stack.map char).count o + (items.map char).count c =
        (before.map char).count o + (items.map char).count o := by
    clear h
    induction items with
    | nil =>
      intro before h
      obtain rfl := Option.some.inj h
      rfl
    | cons x items ih =>
      intro before h
      rw [List.foldlM_cons] at h
      obtain ⟨after, hpush, hrest⟩ := Option.bind_eq_some_iff.mp h
      have hstep := count_of_pushBracket hpair hpush
      have hitems := ih after hrest
      rw [← List.singleton_append, List.map_append, List.count_append, List.count_append,
        List.map_singleton]
      omega
  have hcount := hfrom [] h
  rwa [List.map_nil, List.count_nil, Nat.zero_add] at hcount

/-- The open brackets stand among the items, the last one first. -/
theorem sublist_openBrackets {items stack : List α} (h : openBrackets char items = some stack) :
    stack.Sublist items.reverse := by
  have hfrom : ∀ before : List α, items.foldlM (pushBracket char) before = some stack →
      stack.Sublist (items.reverse ++ before) := by
    clear h
    induction items with
    | nil =>
      intro before h
      obtain rfl := Option.some.inj h
      exact List.Sublist.refl _
    | cons x items ih =>
      intro before h
      rw [List.foldlM_cons] at h
      obtain ⟨after, hpush, hrest⟩ := Option.bind_eq_some_iff.mp h
      rw [List.reverse_cons, List.append_assoc]
      exact (ih after hrest).trans ((sublist_of_pushBracket hpush).append_left _)
  have hsublist := hfrom [] h
  rwa [List.append_nil] at hsublist

/-- What is open was opened by an opening bracket. -/
theorem isOpener_of_mem_openBrackets {items stack : List α}
    (h : openBrackets char items = some stack) : ∀ x ∈ stack, isOpener (char x) := by
  have hfrom : ∀ before : List α, (∀ x ∈ before, isOpener (char x)) →
      items.foldlM (pushBracket char) before = some stack → ∀ x ∈ stack, isOpener (char x) := by
    clear h
    induction items with
    | nil =>
      intro before hbefore h
      obtain rfl := Option.some.inj h
      exact hbefore
    | cons x items ih =>
      intro before hbefore h
      rw [List.foldlM_cons] at h
      obtain ⟨after, hpush, hrest⟩ := Option.bind_eq_some_iff.mp h
      refine ih after (fun y hy => ?_) hrest
      rcases pushBracket_eq_some_iff.mp hpush with ⟨hopen, rfl⟩ | ⟨-, rfl⟩ | ⟨-, top, -, rfl⟩
      · rcases List.mem_cons.mp hy with rfl | hy
        · exact hopen
        · exact hbefore y hy
      · exact hbefore y hy
      · exact hbefore y (List.mem_cons_of_mem _ hy)
  exact hfrom [] (fun x hx => nomatch hx) h

end

/-! ### Texts and their lines -/

/-- The brackets of a text nest, and all of them are closed. -/
def IsNested (text : List Char) : Prop :=
  openBrackets id text = some []

instance (text : List Char) : Decidable (IsNested text) :=
  inferInstanceAs (Decidable (openBrackets id text = some []))

/-- The brackets that are open before a line, innermost first, each with its place among the
characters of the lines. -/
def openBefore (ls : List Line) (n : Nat) : Option (List (Char × Nat)) :=
  openBrackets Prod.fst (ls.take n).flatten.zipIdx

private theorem filter_chopReturn (line : Line) :
    (chopReturn line).filter isBracket = line.filter isBracket := by
  rcases chopReturn_eq_or line with heq | heq
  · rw [heq]
  · rw [← congrArg (List.filter isBracket) heq, List.filter_append]
    exact (List.append_nil _).symm

/-- Cutting a text into lines loses no bracket. -/
theorem filter_flatten_lines (text : List Char) :
    (lines text).flatten.filter isBracket = text.filter isBracket := by
  have hend : ['\n'].filter isBracket = [] := rfl
  have hpieces : ∀ ls : List Line,
      (chopReturns ls).flatten.filter isBracket = (unlines ls).filter isBracket := by
    intro ls
    fun_induction chopReturns ls with
    | case1 => rfl
    | case2 last => simp [unlines]
    | case3 line next rest ih =>
      rw [List.flatten_cons, List.filter_append, ih, filter_chopReturn, unlines, unlines,
        List.intercalate_cons_cons, List.filter_append, List.filter_append, hend, List.append_nil]
  rw [lines, hpieces, unlines, List.intercalate_splitOn]

/-- A text nests when its lines do. -/
theorem isNested_flatten_lines {text : List Char} :
    IsNested (lines text).flatten ↔ IsNested text := by
  rw [IsNested, IsNested, ← openBrackets_filter, ← openBrackets_filter text]
  simp only [Function.comp_id, filter_flatten_lines]

/-- In lines that nest, something can be said of every line. -/
theorem isSome_openBefore {ls : List Line} (hnested : IsNested ls.flatten) (n : Nat) :
    (openBefore ls n).isSome := by
  have hsplit : ls.flatten = (ls.take n).flatten ++ (ls.drop n).flatten := by
    rw [← List.flatten_append, List.take_append_drop]
  rw [IsNested, hsplit, openBrackets_append] at hnested
  obtain ⟨stack, hstack, -⟩ := Option.bind_eq_some_iff.mp hnested
  -- the places of the brackets are forgotten in `hnested`
  have hplaced := openBrackets_map id Prod.fst (ls.take n).flatten.zipIdx
  rw [List.zipIdx_map_fst, hstack] at hplaced
  obtain ⟨placed, hopen, -⟩ := Option.map_eq_some_iff.mp hplaced.symm
  exact Option.isSome_iff_exists.mpr ⟨placed, hopen⟩

/-- The open brackets of one sort before a line are as many as were opened and not closed. -/
theorem count_openBefore {o c : Char} (hpair : opener? c = some o) {ls : List Line} {n : Nat}
    {stack : List (Char × Nat)} (h : openBefore ls n = some stack) :
    (stack.map Prod.fst).count o + (ls.take n).flatten.count c = (ls.take n).flatten.count o := by
  have hcount := count_openBrackets hpair h
  rwa [List.zipIdx_map_fst] at hcount

/-- From a line on before which nothing is open, only the lines from there on matter. -/
theorem openBefore_add {ls : List Line} {m : Nat} (hm : openBefore ls m = some []) (k : Nat) :
    openBefore ls (m + k) =
      openBrackets Prod.fst (((ls.drop m).take k).flatten.zipIdx (ls.take m).flatten.length) := by
  rw [openBefore, List.take_add, List.flatten_append, List.zipIdx_append, openBrackets_append,
    ← openBefore, hm, Option.bind_some, Nat.zero_add]
  rfl

/-- No bracket is open twice. -/
theorem nodup_openBefore {ls : List Line} {n : Nat} {stack : List (Char × Nat)}
    (h : openBefore ls n = some stack) : stack.Nodup := by
  have hplaces : (ls.take n).flatten.zipIdx.Nodup := by
    refine List.Nodup.of_map Prod.snd ?_
    rw [List.zipIdx_map_snd]
    exact List.nodup_range'
  exact (sublist_openBrackets h).nodup (List.nodup_reverse.mpr hplaces)

end GoIndex.Text
