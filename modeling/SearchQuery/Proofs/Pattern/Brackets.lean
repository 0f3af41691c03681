import SearchQuery.Proofs.Pattern.Extension

/-!
# Bracketed classes with a parenthesis behind

A class ends at a bracket, and there is none behind the text.  So the parenthesis changes nothing
about a class that is closed, and does not close one that is open.
-/

set_option autoImplicit false
namespace SearchQuery.Pattern

section Brackets
variable (verbose : Bool)

theorem takeNegation_local : Local Past fun cs => .ok (takeNegation verbose cs) := by
  refine Local.optional (d := '^') (by decide) ((Local.pure true).skip verbose fun _ _ _ h => h)
    (Local.pure false) ?_
  intro cs first p
  unfold takeNegation
  split
  · exact absurd rfl (first _)
  · exact Iff.rfl

theorem unlessEnded_local {α : Type} (x : α) : Local From (unlessEnded x) where
  extend cs := by
    cases cs with
    | nil =>
      refine .beyond ?_ ?_
      · intro p h
        cases h
      · rintro u hu y rest ⟨⟩
        exact List.suffix_refl _
    | cons c r => exact .same x (c :: r) rfl fun u hu => rfl
  suffix := by
    intro cs y rest h
    cases cs with
    | nil => cases h
    | cons c r =>
      cases h
      exact List.suffix_refl _

theorem takeBracket_local (level : SetLevel) : Local From (takeBracket verbose level) := by
  refine Local.optional (d := ']') (by decide) ?_ (unlessEnded_local level) ?_
  · exact (unlessEnded_local _).skip verbose fun _ _ _ => Past.from
  · intro cs first p
    unfold takeBracket
    split
    · exact absurd rfl (first _)
    · exact Iff.rfl

theorem openSet_local : Local From (openSet verbose) := by
  have level (negated : Bool) (hyphens : Chars) :
      Local From (openLevel verbose negated hyphens) :=
    Local.ite (hyphens.isEmpty = true) (takeBracket_local verbose _) (unlessEnded_local _)
  have hyphens (negated : Bool) :=
    ((takeRun_local verbose (· == '-') rfl).mono fun _ _ _ => Past.from).andThenFrom
      (k := fun p => openLevel verbose negated p.1 p.2) (level negated)
  have negation := ((takeNegation_local verbose).mono fun _ _ _ => Past.from).andThenFrom
    (k := fun q => .ok (takeRun verbose (· == '-') false q.2) >>= fun p =>
      openLevel verbose q.1 p.1 p.2) hyphens
  exact negation.skip verbose fun _ _ _ => Past.from

theorem span_append {p : Char → Bool} {cs s : Chars} {c : Char} (h : cs.dropWhile p = c :: s)
    (t : Chars) : (cs ++ t).takeWhile p = cs.takeWhile p ∧ (cs ++ t).dropWhile p = c :: s ++ t := by
  induction cs with
  | nil => cases h
  | cons d r ih =>
    rw [List.dropWhile_cons] at h
    simp only [List.cons_append, List.takeWhile_cons, List.dropWhile_cons]
    split at h
    · rename_i member
      rw [if_pos member, if_pos member, if_pos member, (ih h).1, (ih h).2]
      exact ⟨rfl, rfl⟩
    · rename_i member
      rw [if_neg member, if_neg member, if_neg member, ← List.cons_append, h]
      exact ⟨rfl, rfl⟩

theorem closeAscii_other {negated : Bool} {name cs : Chars} (h : ∀ r, cs ≠ ':' :: ']' :: r) :
    closeAscii negated name cs = none := by
  unfold closeAscii
  split
  · exact absurd rfl (h _)
  · rfl

theorem closeAscii_append (negated : Bool) (name cs u : Chars) :
    closeAscii negated name (cs ++ ')' :: u) =
      (closeAscii negated name cs).map fun p => (p.1, p.2 ++ ')' :: u) := by
  by_cases closed : ∃ s, cs = ':' :: ']' :: s
  · obtain ⟨s, rfl⟩ := closed
    change Option.map _ _ = Option.map _ (Option.map _ _)
    rw [Option.map_map]
    rfl
  · rw [closeAscii_other (not_exists.1 closed), closeAscii_other]
    · rfl
    · intro r same
      match cs with
      | [] => exact absurd (List.cons.inj same).1 (by decide)
      | [c] => exact absurd (List.cons.inj (List.cons.inj same).2).1 (by decide)
      | c :: d :: s =>
        have first := (List.cons.inj same).1
        have second := (List.cons.inj (List.cons.inj same).2).1
        exact closed ⟨s, by rw [first, second]⟩

theorem asciiName_append (negated : Bool) (cs : Chars) {u : Chars} (hu : IsTail u) :
    asciiName? negated (cs ++ ')' :: u) =
      (asciiName? negated cs).map fun p => (p.1, p.2 ++ ')' :: u) := by
  unfold asciiName?
  cases found : cs.dropWhile (· != ':') with
  | nil =>
    have missing : (cs ++ ')' :: u).dropWhile (· != ':') = [] := by
      rw [List.dropWhile_append, found]
      rcases hu with rfl | rfl
      · rfl
      · rfl
    rw [missing]
    rfl
  | cons c s =>
    obtain ⟨name, behind⟩ := span_append found (')' :: u)
    rw [name, behind]
    exact closeAscii_append negated _ (c :: s) u

theorem asciiClass_other {cs : Chars} (h : ∀ r, cs ≠ ':' :: r) : asciiClass? cs = none := by
  unfold asciiClass?
  split
  · exact absurd rfl (h _)
  · exact absurd rfl (h _)
  · rfl

theorem asciiClass_colon {cs : Chars} (h : ∀ r, cs ≠ '^' :: r) :
    asciiClass? (':' :: cs) = asciiName? false cs := by
  unfold asciiClass?
  split
  · rename_i same
    exact absurd (List.cons.inj same).2 (h _)
  · rename_i same
    rw [(List.cons.inj same).2]
  · rename_i other
    exact absurd rfl (other _)

theorem asciiClass_append (cs : Chars) {u : Chars} (hu : IsTail u) :
    asciiClass? (cs ++ ')' :: u) = (asciiClass? cs).map fun p => (p.1, p.2 ++ ')' :: u) := by
  by_cases colon : ∃ r, cs = ':' :: r
  · obtain ⟨r, rfl⟩ := colon
    by_cases caret : ∃ s, r = '^' :: s
    · obtain ⟨s, rfl⟩ := caret
      exact asciiName_append true s hu
    · have caret := not_exists.1 caret
      rw [List.cons_append, asciiClass_colon caret,
        asciiClass_colon (ne_cons_append (by decide) caret u)]
      exact asciiName_append false r hu
  · have colon := not_exists.1 colon
    rw [asciiClass_other colon, asciiClass_other (ne_cons_append (by decide) colon u)]
    rfl

theorem closeAscii_suffix {negated : Bool} {name cs rest : Chars} {item : SetExpr}
    (h : closeAscii negated name cs = some (item, rest)) : rest <:+ cs := by
  unfold closeAscii at h
  split at h
  · obtain ⟨accepts, -, same⟩ := Option.map_eq_some_iff.1 h
    cases same
    exact (List.suffix_cons _ _).trans (List.suffix_cons _ _)
  · cases h

theorem asciiClass_suffix {cs rest : Chars} {item : SetExpr}
    (h : asciiClass? cs = some (item, rest)) : rest <:+ cs := by
  have ofName {negated : Bool} {cs : Chars} (h : asciiName? negated cs = some (item, rest)) :
      rest <:+ cs := (closeAscii_suffix h).trans (List.dropWhile_suffix _)
  unfold asciiClass? at h
  split at h
  · exact (ofName h).trans ((List.suffix_cons _ _).trans (List.suffix_cons _ _))
  · exact (ofName h).trans (List.suffix_cons _ _)
  · cases h

theorem readSetItem_local (c : Char) : Local (LooseEscape verbose) (readSetItem verbose c) :=
  Local.ite (c = '\\') (readEscape_local verbose) (Local.pure _)

theorem rangeOf_anchor (first : Expr) (a : Anchor) (e : SetExpr) :
    rangeOf first (.anchor a) ≠ .ok e := by
  intro h
  obtain ⟨low, -, h⟩ := bind_eq_ok.1 h
  cases h

theorem readRangeEnd_local (first : Expr) : Local From (readRangeEnd verbose first) := by
  refine Local.head (fun _ _ _ => Past.from) ?_ ?_
  · intro p h
    cases h
  · intro c
    refine (readSetItem_local verbose c).bind
      (k := fun p => rangeOf first p.1 >>= fun e => .ok (e, p.2))
      (fun last => Local.yield (rangeOf first last) id) ?_
    intro u last rest loose y rest' h
    obtain ⟨e, range, h⟩ := bind_eq_ok.1 h
    cases h
    rcases loose with past | ⟨rfl, -⟩
    · exact past.from
    · exact absurd range (rangeOf_anchor _ _ _)

theorem head_append (cs u : Chars) : (cs ++ ')' :: u).head? = cs.head? ∨
    cs.head? = none ∧ (cs ++ ')' :: u).head? = some ')' := by
  cases cs with
  | nil => exact .inr ⟨rfl, rfl⟩
  | cons c cs => exact .inl rfl

theorem glance_plain {cs : Chars} (h : ∀ r, cs.dropWhile isBlank ≠ '#' :: r) :
    glance true cs = (cs.dropWhile isBlank).head? := by
  simp only [glance, if_true]

/-- A glance that misses a character for the end of the text sees the parenthesis behind it. -/
theorem glance_append (cs u : Chars) :
    glance verbose (cs ++ ')' :: u) = glance verbose cs ∨
      glance verbose cs = none ∧ glance verbose (cs ++ ')' :: u) = some ')' := by
  have blanks (cs : Chars) := (span_append_paren (p := isBlank) rfl cs u).2
  cases verbose with
  | false => exact head_append cs u
  | true =>
    by_cases hash : ∃ r, cs.dropWhile isBlank = '#' :: r
    · obtain ⟨r, hash⟩ := hash
      have here : glance true cs = (r.dropWhile isBlank).head? := by
        simp only [glance, if_true, hash]
      have there : glance true (cs ++ ')' :: u) = (r.dropWhile isBlank ++ ')' :: u).head? := by
        rw [← blanks r]
        simp only [glance, if_true, blanks cs, hash, List.cons_append]
      rw [here, there]
      exact head_append _ u
    · have hash := not_exists.1 hash
      have there : ∀ r, (cs ++ ')' :: u).dropWhile isBlank ≠ '#' :: r := by
        rw [blanks cs]
        exact ne_cons_append (by decide) hash u
      rw [glance_plain hash, glance_plain there, blanks cs]
      exact head_append _ u

theorem glance_append_iff (cs u : Chars) :
    glance verbose (cs ++ ')' :: u) = some ']' ∨ glance verbose (cs ++ ')' :: u) = some '-' ↔
      glance verbose cs = some ']' ∨ glance verbose cs = some '-' := by
  rcases glance_append verbose cs u with same | ⟨none, paren⟩
  · rw [same]
  · rw [none, paren]
    decide

theorem setItemOf_anchor (a : Anchor) (e : SetExpr) : setItemOf (.anchor a) ≠ .ok e := by
  intro h
  cases h

theorem readBehindItem_plain {first : Expr} {c : Char} (other : c ≠ '-') (r : Chars) :
    readBehindItem verbose first (c :: r) = setItemOf first >>= fun e => .ok (e, c :: r) := by
  unfold readBehindItem
  split
  · rename_i same
    cases same
  · rename_i same
    exact absurd (List.cons.inj same).1 other
  · rfl

theorem readBehindItem_hyphen (first : Expr) (r : Chars) :
    readBehindItem verbose first ('-' :: r) =
      if glance verbose r = some ']' ∨ glance verbose r = some '-' then
        setItemOf first >>= fun e => .ok (e, '-' :: r)
      else readRangeEnd verbose first (skip verbose r) := rfl

theorem readBehindItem_local (first : Expr) : Local From (readBehindItem verbose first) := by
  -- What stays in the text is the character that was looked at.
  have kept (c : Char) (r : Chars) :
      Extends From (fun cs => setItemOf first >>= fun e => .ok (e, cs)) (c :: r) :=
    (Local.yield (setItemOf first) id).extend (c :: r)
  constructor
  · intro cs
    cases cs with
    | nil =>
      refine .beyond ?_ ?_
      · intro p h
        cases h
      · intro u hu x rest h
        rw [List.nil_append, readBehindItem_plain verbose (by decide)] at h
        obtain ⟨e, -, h⟩ := bind_eq_ok.1 h
        cases h
        exact List.suffix_refl _
    | cons c r =>
      by_cases hyphen : c = '-'
      · subst hyphen
        by_cases stop : glance verbose r = some ']' ∨ glance verbose r = some '-'
        · refine (kept '-' r).transport ?_ ?_
          · intro p
            rw [readBehindItem_hyphen, if_pos stop]
          · intro u hu p
            rw [List.cons_append, readBehindItem_hyphen,
              if_pos ((glance_append_iff verbose r u).2 stop)]
        · have range := (readRangeEnd_local verbose first).skip verbose fun _ _ _ => Past.from
          refine (range.extend r).transport ?_ ?_
          · intro p
            rw [readBehindItem_hyphen, if_neg stop]
          · intro u hu p
            rw [List.cons_append, readBehindItem_hyphen,
              if_neg fun ext => stop ((glance_append_iff verbose r u).1 ext)]
      · refine (kept c r).transport ?_ ?_
        · intro p
          rw [readBehindItem_plain verbose hyphen]
        · intro u hu p
          rw [List.cons_append, readBehindItem_plain verbose hyphen]
  · intro cs x rest h
    cases cs with
    | nil => cases h
    | cons c r =>
      by_cases hyphen : c = '-'
      · subst hyphen
        rw [readBehindItem_hyphen] at h
        split at h
        · obtain ⟨e, -, h⟩ := bind_eq_ok.1 h
          cases h
          exact List.suffix_refl _
        · have left := (readRangeEnd_local verbose first).suffix _ x rest h
          exact (left.trans (skip_suffix verbose r)).trans (List.suffix_cons '-' r)
      · rw [readBehindItem_plain verbose hyphen] at h
        obtain ⟨e, -, h⟩ := bind_eq_ok.1 h
        cases h
        exact List.suffix_refl _

theorem readSetRange_local (c : Char) : Local From (readSetRange verbose c) := by
  have behind (first : Expr) := (readBehindItem_local verbose first).skip verbose
    fun _ _ _ => Past.from
  refine (readSetItem_local verbose c).bind
    (k := fun p => readBehindItem verbose p.1 (skip verbose p.2)) behind ?_
  intro u first rest loose y rest' h
  rcases loose with past | ⟨rfl, r, rfl, -⟩
  · exact (((behind first).suffix rest y rest' h).trans past).trans (List.suffix_cons _ _)
  · -- A boundary is no item of a class, and the brace behind it makes no range of it.
    have brace := skip_solid verbose (c := '\x7b') rfl (by decide) r
    dsimp only at h
    rw [brace, readBehindItem_plain verbose (by decide)] at h
    obtain ⟨e, item, -⟩ := bind_eq_ok.1 h
    exact absurd item (setItemOf_anchor _ e)

section Levels
variable (level : SetLevel) (outer : List SetLevel)

theorem readItem_local (c : Char) : Local From (level.readItem outer verbose c) :=
  (readSetRange_local verbose c).andThenFrom
    (k := fun p => .ok (SetStep.inside (level.push p.1) outer, p.2))
    fun item => Local.pure (SetStep.inside (level.push item) outer)

theorem readOperator_local (op : SetOperator) {c : Char} (other : c ≠ ')') :
    Local From (level.readOperator outer verbose op c) := by
  refine Local.optional (d := c) other ?_ (readItem_local verbose level outer c) ?_
  · simp only [SetLevel.readOperator, if_true]
    exact Local.pure _
  · intro cs first p
    cases cs with
    | nil => exact Iff.rfl
    | cons d r =>
      have different : d ≠ c := by
        rintro rfl
        exact first r rfl
      simp only [SetLevel.readOperator, if_neg different]

theorem setStep_other {c : Char} (h : c ∉ ['[', ']', '&', '-', '~']) (r : Chars) :
    level.step outer verbose c r = level.readItem outer verbose c r := by
  unfold SetLevel.step
  split
  all_goals first
    | exact absurd (by decide) h
    | rfl

theorem setStep_bracket (r : Chars) : level.step outer verbose '[' r =
    match asciiClass? r with
    | some (item, rest) => .ok (.inside (level.push item) outer, rest)
    | none => openSet verbose r >>= fun p => .ok (.inside p.1 (level :: outer), p.2) := rfl

theorem setStep_local (c : Char) : Local From (level.step outer verbose c) := by
  by_cases special : c ∈ ['[', ']', '&', '-', '~']
  · simp only [List.mem_cons, List.not_mem_nil, or_false] at special
    rcases special with rfl | rfl | rfl | rfl | rfl
    · have inner := (openSet_local verbose).andThenFrom
        (k := fun p => .ok (SetStep.inside p.1 (level :: outer), p.2))
        fun inner => Local.pure (SetStep.inside inner (level :: outer))
      constructor
      · intro cs
        cases found : asciiClass? cs with
        | some p =>
          refine .same (.inside (level.push p.1) outer) p.2 ?_ ?_
          · rw [setStep_bracket, found]
          · intro u hu
            rw [setStep_bracket, asciiClass_append cs hu, found]
            rfl
        | none =>
          refine (inner.extend cs).transport ?_ ?_
          · intro p
            rw [setStep_bracket, found]
          · intro u hu p
            rw [setStep_bracket, asciiClass_append cs hu, found]
            rfl
      · intro cs x rest h
        rw [setStep_bracket] at h
        cases found : asciiClass? cs with
        | some p =>
          rw [found] at h
          cases h
          exact asciiClass_suffix found
        | none =>
          rw [found] at h
          exact inner.suffix cs x rest h
    · cases outer with
      | nil => exact Local.pure _
      | cons parent outer => exact Local.pure _
    · exact readOperator_local verbose level outer .intersection (by decide)
    · exact readOperator_local verbose level outer .difference (by decide)
    · exact readOperator_local verbose level outer .symmetricDifference (by decide)
  · have item := readItem_local verbose level outer c
    refine item.congr ?_
    intro r p
    rw [setStep_other verbose level outer special]

end Levels

theorem setStep_closed {level : SetLevel} {outer : List SetLevel} {c : Char} {r rest : Chars}
    {set : Expr} (h : level.step outer verbose c r = .ok (.closed set, rest)) : c = ']' := by
  have item {c : Char} {r : Chars} :
      level.readItem outer verbose c r ≠ .ok (.closed set, rest) := by
    intro h
    obtain ⟨p, -, h⟩ := bind_eq_ok.1 h
    cases h
  have operator {op : SetOperator} {c : Char} :
      level.readOperator outer verbose op c r ≠ .ok (.closed set, rest) := by
    intro h
    cases r with
    | nil => exact item h
    | cons d r =>
      rw [SetLevel.readOperator] at h
      split at h
      · cases h
      · exact item h
  by_cases special : c ∈ ['[', ']', '&', '-', '~']
  · simp only [List.mem_cons, List.not_mem_nil, or_false] at special
    rcases special with rfl | rfl | rfl | rfl | rfl
    · rw [setStep_bracket] at h
      split at h
      · cases h
      · obtain ⟨p, -, h⟩ := bind_eq_ok.1 h
        cases h
    · rfl
    · exact absurd h operator
    · exact absurd h operator
    · exact absurd h operator
  · rw [setStep_other verbose level outer special] at h
    exact absurd h item

theorem readSet_succ (n : Nat) (level : SetLevel) (outer : List SetLevel) (cs : Chars) :
    readSet verbose (n + 1) level outer cs =
      match skip verbose cs with
      | [] => .error .classUnclosed
      | c :: r => level.step outer verbose c r >>= fun p =>
        match p.1 with
        | .inside level outer => readSet verbose n level outer p.2
        | .closed set => .ok (set, p.2) := rfl

/-- What a class that is read consists of: it ends in a bracket. -/
theorem readSet_ok {n : Nat} {level : SetLevel} {outer : List SetLevel} {cs rest : Chars}
    {set : Expr} (h : readSet verbose n level outer cs = .ok (set, rest)) :
    rest <:+ cs ∧ ']' ∈ cs := by
  induction n generalizing level outer cs with
  | zero => cases h
  | succ n ih =>
    rw [readSet_succ] at h
    have start := skip_suffix verbose cs
    split at h
    · cases h
    · rename_i c r found
      rw [found] at start
      obtain ⟨⟨next, behind⟩, step, h⟩ := bind_eq_ok.1 h
      have left := (setStep_local verbose level outer c).suffix r next behind step
      have behind_suffix := left.trans ((List.suffix_cons c r).trans start)
      cases next with
      | inside level' outer' =>
        obtain ⟨suffix, bracket⟩ := ih h
        exact ⟨suffix.trans behind_suffix, behind_suffix.subset bracket⟩
      | closed set' =>
        cases h
        obtain rfl := setStep_closed verbose step
        exact ⟨behind_suffix, start.subset List.mem_cons_self⟩

theorem readSet_inside {n : Nat} {level level' : SetLevel} {outer outer' : List SetLevel}
    {cs r rest : Chars} {c : Char} (start : skip verbose cs = c :: r)
    (step : level.step outer verbose c r = .ok (.inside level' outer', rest)) :
    readSet verbose (n + 1) level outer cs = readSet verbose n level' outer' rest := by
  rw [readSet_succ, start]
  dsimp only
  rw [step]
  rfl

theorem readSet_closed {n : Nat} {level : SetLevel} {outer : List SetLevel} {cs r rest : Chars}
    {c : Char} {set : Expr} (start : skip verbose cs = c :: r)
    (step : level.step outer verbose c r = .ok (.closed set, rest)) :
    readSet verbose (n + 1) level outer cs = .ok (set, rest) := by
  rw [readSet_succ, start]
  dsimp only
  rw [step]
  rfl

/-- The text that is left does not close the class. -/
def LeavesOpen (level : SetLevel) (outer : List SetLevel) (cs : Chars) : Prop :=
  ∀ n p, readSet verbose n level outer cs ≠ .ok p

section Open
variable {level : SetLevel} {outer : List SetLevel} {cs : Chars}

theorem leavesOpen_of_end (ended : skip verbose cs = []) : LeavesOpen verbose level outer cs := by
  intro n p h
  cases n with
  | zero => cases h
  | succ n =>
    rw [readSet_succ, ended] at h
    cases h

theorem leavesOpen_of_step {c : Char} {r : Chars} (start : skip verbose cs = c :: r)
    (h : ∀ next rest, level.step outer verbose c r = .ok (next, rest) →
      ∃ level' outer', next = .inside level' outer' ∧ LeavesOpen verbose level' outer' rest) :
    LeavesOpen verbose level outer cs := by
  intro n p closed
  cases n with
  | zero => cases closed
  | succ n =>
    rw [readSet_succ, start] at closed
    obtain ⟨⟨next, rest⟩, step, closed⟩ := bind_eq_ok.1 closed
    obtain ⟨level', outer', rfl, stays⟩ := h next rest step
    exact stays n p closed

theorem leavesOpen_tail {u : Chars} (hu : IsTail u) (h : cs <:+ ')' :: u) :
    LeavesOpen verbose level outer cs := by
  intro n p closed
  have bracket := h.subset (readSet_ok verbose closed).2
  rcases hu with rfl | rfl
  · exact absurd bracket (by decide)
  · exact absurd bracket (by decide)

theorem leavesOpen_beyond {c : Char} {r u : Chars} (hu : IsTail u) (other : c ≠ ']')
    (start : skip verbose cs = c :: r)
    (behind : ∀ next rest, level.step outer verbose c r = .ok (next, rest) → rest <:+ ')' :: u) :
    LeavesOpen verbose level outer cs := by
  refine leavesOpen_of_step verbose start ?_
  intro next rest step
  cases next with
  | inside level' outer' =>
    exact ⟨level', outer', rfl, leavesOpen_tail verbose hu (behind _ rest step)⟩
  | closed set => exact absurd (setStep_closed verbose step) other

end Open

/-- How a class is read from its text alone and with the parenthesis behind it. -/
inductive Closes (n : Nat) (level : SetLevel) (outer : List SetLevel) (cs : Chars) : Prop
  | closed (set : Expr) (rest : Chars)
      (alone : readSet verbose n level outer cs = .ok (set, rest))
      (extended : ∀ k u, IsTail u →
        readSet verbose (n + k) level outer (cs ++ ')' :: u) = .ok (set, rest ++ ')' :: u))
  | unclosed (alone : LeavesOpen verbose level outer cs)
      (extended : ∀ u, IsTail u → LeavesOpen verbose level outer (cs ++ ')' :: u))

section Starts
variable {n : Nat} {level : SetLevel} {outer : List SetLevel} {cs r : Chars} {c : Char}
variable (alone : skip verbose cs = c :: r)
variable (extended : ∀ u, IsTail u → skip verbose (cs ++ ')' :: u) = c :: (r ++ ')' :: u))
include alone extended

theorem closes_step {level' : SetLevel} {outer' : List SetLevel} {rest : Chars}
    (step : level.step outer verbose c r = .ok (.inside level' outer', rest))
    (step' : ∀ u, IsTail u →
      level.step outer verbose c (r ++ ')' :: u) = .ok (.inside level' outer', rest ++ ')' :: u))
    (h : Closes verbose n level' outer' rest) : Closes verbose (n + 1) level outer cs := by
  cases h with
  | closed set left h h' =>
    refine .closed set left ((readSet_inside verbose alone step).trans h) ?_
    intro k u hu
    have fuel : n + 1 + k = n + k + 1 := by omega
    rw [fuel, readSet_inside verbose (extended u hu) (step' u hu)]
    exact h' k u hu
  | unclosed h h' =>
    refine .unclosed ?_ ?_
    · refine leavesOpen_of_step verbose alone ?_
      intro next left taken
      cases step.symm.trans taken
      exact ⟨level', outer', rfl, h⟩
    · intro u hu
      refine leavesOpen_of_step verbose (extended u hu) ?_
      intro next left taken
      cases (step' u hu).symm.trans taken
      exact ⟨level', outer', rfl, h' u hu⟩

theorem closes_bracket {set : Expr} {rest : Chars}
    (step : level.step outer verbose c r = .ok (.closed set, rest))
    (step' : ∀ u, IsTail u →
      level.step outer verbose c (r ++ ')' :: u) = .ok (.closed set, rest ++ ')' :: u)) :
    Closes verbose (n + 1) level outer cs := by
  refine .closed set rest (readSet_closed verbose alone step) ?_
  intro k u hu
  have fuel : n + 1 + k = n + k + 1 := by omega
  rw [fuel]
  exact readSet_closed verbose (extended u hu) (step' u hu)

theorem closes_beyond (other : c ≠ ']')
    (behind : ∀ next rest, level.step outer verbose c r = .ok (next, rest) → rest = [])
    (behind' : ∀ u, IsTail u → ∀ next rest,
      level.step outer verbose c (r ++ ')' :: u) = .ok (next, rest) → rest <:+ ')' :: u) :
    Closes verbose (n + 1) level outer cs := by
  refine .unclosed ?_ ?_
  · refine leavesOpen_beyond verbose (.inl rfl) other alone ?_
    intro next rest step
    rw [behind next rest step]
    exact List.nil_suffix
  · intro u hu
    exact leavesOpen_beyond verbose hu other (extended u hu) (behind' u hu)

end Starts

theorem setStep_left (level : SetLevel) (outer : List SetLevel) :
    ∃ next, ∀ r, level.step outer verbose ']' r = .ok (next, r) := by
  cases outer with
  | nil => exact ⟨_, fun _ => rfl⟩
  | cons parent outer => exact ⟨_, fun _ => rfl⟩

/-- A class that is closed is read as it is, and the parenthesis closes none.  The fuel is enough
for the text alone. -/
theorem readSet_closes (n : Nat) (level : SetLevel) (outer : List SetLevel) (cs : Chars)
    (enough : cs.length < n) : Closes verbose n level outer cs := by
  induction n generalizing level outer cs with
  | zero => omega
  | succ n ih =>
    have left := skip_suffix verbose cs
    rcases skip_append verbose cs with ⟨start, alone, extended⟩ | ⟨alone, extended⟩
    · rw [alone] at left
      cases start with
      | nil =>
        refine .unclosed (leavesOpen_of_end verbose alone) ?_
        intro u hu
        refine leavesOpen_beyond verbose hu (by decide) (extended u hu) ?_
        intro next rest step
        have behind := (setStep_local verbose level outer ')').suffix u next rest step
        exact behind.trans (List.suffix_cons _ _)
      | cons c r =>
        have shorter : r.length < n := by
          have length := left.length_le
          rw [List.length_cons] at length
          omega
        have local_step := setStep_local verbose level outer c
        cases local_step.extend r with
        | same next rest step step' =>
          have rest_shorter : rest.length < n := by
            have length := (local_step.suffix r _ rest step).length_le
            omega
          cases next with
          | inside level' outer' =>
            exact closes_step verbose alone extended step step' (ih level' outer' rest rest_shorter)
          | closed set => exact closes_bracket verbose alone extended step step'
        | swallowed next step step' =>
          refine closes_beyond verbose alone extended ?_ ?_ ?_
          · rintro rfl
            obtain ⟨next', all⟩ := setStep_left verbose level outer
            have left := (all _).symm.trans (step' [] (.inl rfl))
            have rest := (Prod.mk.inj (Except.ok.inj left)).2
            exact List.append_ne_nil_of_right_ne_nil r (List.cons_ne_nil _ _) rest
          · intro next' rest h
            cases step.symm.trans h
            rfl
          · intro u hu next' rest h
            cases (step' u hu).symm.trans h
            exact List.nil_suffix
        | beyond step step' =>
          refine closes_beyond verbose alone extended ?_ ?_ step'
          · rintro rfl
            obtain ⟨next', all⟩ := setStep_left verbose level outer
            exact step _ (all r)
          · intro next' rest h
            exact absurd h (step _)
    · refine .unclosed (leavesOpen_of_end verbose alone) ?_
      intro u hu
      exact leavesOpen_of_end verbose (extended u hu)

theorem readClass_local : Local Past (readClass verbose) where
  extend cs := by
    have opened (cs : Chars) : readClass verbose cs =
        openSet verbose cs >>= fun p => readSet verbose (cs.length + 1) p.1 [] p.2 := rfl
    -- The parenthesis is found by none of the readers, so that nothing comes of the whole.
    have nothing (text : Chars) (h : ∀ level rest, openSet verbose text = .ok (level, rest) →
        LeavesOpen verbose level [] rest) (p : Expr × Chars) : readClass verbose text ≠ .ok p := by
      intro read
      rw [opened] at read
      obtain ⟨⟨level, rest⟩, start, read⟩ := bind_eq_ok.1 read
      exact h level rest start _ p read
    cases (openSet_local verbose).extend cs with
    | same level rest alone extended =>
      have shorter : rest.length < cs.length + 1 := by
        have length := ((openSet_local verbose).suffix cs level rest alone).length_le
        omega
      cases readSet_closes verbose (cs.length + 1) level [] rest shorter with
      | closed set left h h' =>
        refine .same set left ?_ ?_
        · rw [opened, alone]
          exact h
        · intro u hu
          have fuel : (cs ++ ')' :: u).length + 1 = cs.length + 1 + (u.length + 1) := by
            rw [List.length_append, List.length_cons]
            omega
          rw [opened, extended u hu, fuel]
          exact h' (u.length + 1) u hu
      | unclosed h h' =>
        refine .beyond (nothing cs ?_) ?_
        · intro level' rest' start
          cases alone.symm.trans start
          exact h
        · intro u hu x left read
          refine absurd read (nothing (cs ++ ')' :: u) ?_ _)
          intro level' rest' start
          cases (extended u hu).symm.trans start
          exact h' u hu
    | swallowed level alone extended =>
      refine .beyond (nothing cs ?_) ?_
      · intro level' rest' start
        cases alone.symm.trans start
        exact leavesOpen_tail verbose (.inl rfl) List.nil_suffix
      · intro u hu x left read
        refine absurd read (nothing (cs ++ ')' :: u) ?_ _)
        intro level' rest' start
        cases (extended u hu).symm.trans start
        exact leavesOpen_tail verbose hu List.nil_suffix
    | beyond alone extended =>
      refine .beyond (nothing cs ?_) ?_
      · intro level rest start
        exact absurd start (alone _)
      · intro u hu x left read
        refine absurd read (nothing (cs ++ ')' :: u) ?_ _)
        intro level rest start
        exact leavesOpen_tail verbose hu (extended u hu level rest start)
  suffix := by
    intro cs x rest h
    obtain ⟨⟨level, start⟩, opened, closed⟩ := bind_eq_ok.1 h
    have left := (openSet_local verbose).suffix cs level start opened
    exact (readSet_ok verbose closed).1.trans left

end Brackets

end SearchQuery.Pattern
