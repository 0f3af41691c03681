import SearchQuery.Proofs.Pattern.Brackets

/-!
# Groups and counts with a parenthesis behind

What an opening parenthesis begins, and what stands in the braces of a repetition.
-/

set_option autoImplicit false
namespace SearchQuery.Pattern

theorem readFlags_suffix {cs rest : Chars} {seen : Switches} {off dangling : Bool}
    {p : Switches × Char} (h : readFlags seen off dangling cs = .ok (p, rest)) : rest <:+ cs := by
  induction cs generalizing seen off dangling with
  | nil => cases h
  | cons c r ih =>
    rw [readFlags] at h
    split at h
    · split at h
      · cases h
      · cases h
        exact List.suffix_cons _ _
    · split at h
      · split at h
        · cases h
        · exact (ih h).trans (List.suffix_cons c r)
      · split at h
        · cases h
        · split at h
          · cases h
          · exact (ih h).trans (List.suffix_cons c r)

theorem readFlags_extend (seen : Switches) (off dangling : Bool) (cs : Chars) :
    Extends Past (readFlags seen off dangling) cs := by
  induction cs generalizing seen off dangling with
  | nil =>
    refine .beyond ?_ ?_
    · intro p h
      cases h
    · intro u hu x rest h
      -- The flags end at the parenthesis, if they may end there.
      rw [List.nil_append, readFlags, if_pos (.inr rfl)] at h
      split at h
      · cases h
      · cases h
        exact List.suffix_refl _
  | cons c r ih =>
    have step : Extends Past (fun r => readFlags seen off dangling (c :: r)) r := by
      by_cases final : c = ':' ∨ c = ')'
      · simp only [readFlags, if_pos final]
        exact (Local.ite (dangling = true) (Local.error _) (Local.pure _)).extend r
      · simp only [readFlags, if_neg final]
        by_cases minus : c = '-'
        · simp only [if_pos minus]
          cases off with
          | true => exact (Local.error _).extend r
          | false => exact ih seen true true
        · simp only [if_neg minus]
          cases Flag.ofLetter? c with
          | none => exact (Local.error _).extend r
          | some f =>
            dsimp only
            split
            · exact (Local.error _).extend r
            · exact ih _ off false
    exact step.transport (fun _ => Iff.rfl) fun _ _ _ => Iff.rfl

theorem readFlags_local (seen : Switches) (off dangling : Bool) :
    Local Past (readFlags seen off dangling) :=
  ⟨readFlags_extend seen off dangling, fun _ _ _ => readFlags_suffix⟩

theorem takeName_local : Local Past fun cs => .ok (takeName cs) where
  extend cs := by
    cases cs with
    | nil => exact .same [] [] rfl fun u _ => rfl
    | cons c r =>
      by_cases start : isNameStart c = true
      · refine .same (c :: r.takeWhile isNameChar) (r.dropWhile isNameChar) ?_ ?_
        · rw [takeName, if_pos start]
        · intro u _
          have span := span_append_paren (p := isNameChar) rfl r u
          rw [List.cons_append, takeName, if_pos start, span.1, span.2]
      · refine .same [] (c :: r) ?_ ?_
        · rw [takeName, if_neg start]
        · intro u _
          rw [List.cons_append, takeName, if_neg start]
  suffix := by
    rintro cs x rest h
    have h : takeName cs = (x, rest) := Except.ok.inj h
    cases cs with
    | nil =>
      cases h
      exact List.suffix_refl []
    | cons c r =>
      rw [takeName] at h
      split at h
      · cases h
        exact (List.dropWhile_suffix _).trans (List.suffix_cons c r)
      · cases h
        exact List.suffix_refl _

theorem closeName_local (names : List String) (valid : Chars) :
    Local Past (closeName names valid) := by
  refine Local.expect (d := '>') (by decide) ?_ ?_
  · refine Local.ite ((String.ofList valid).isEmpty = true) (Local.error _) ?_
    exact Local.ite (names.contains (String.ofList valid) = true) (Local.error _) (Local.pure _)
  · intro cs first p h
    unfold closeName at h
    split at h
    · cases h
    · exact first _ rfl
    · cases h

theorem readNamed_local (names : List String) : Local Past (readNamed names) := by
  have name : Local Past (readGroupName names) :=
    takeName_local.andThen (k := fun p => closeName names p.1 p.2) (closeName_local names)
  exact name.andThen (k := fun p => .ok (Opening.group [] (some p.1), p.2))
    fun name => Local.pure (Opening.group [] (some name))

theorem readSwitches_local : Local Past readSwitches := by
  refine (readFlags_local [] false false).andThen (k := fun p =>
    if p.1.2 = ':' then .ok (Opening.group p.1.1 none, p.2)
    else if p.1.1.isEmpty then .error .repetitionMissing
    else .ok (Opening.flags p.1.1, p.2)) ?_
  rintro ⟨switches, final⟩
  refine Local.ite (final = ':') (Local.pure (Opening.group switches none)) ?_
  exact Local.ite (switches.isEmpty = true) (Local.error _) (Local.pure (Opening.flags switches))

theorem readSwitches_marked (r : Chars) (p : Opening × Chars) :
    readSwitches ('P' :: r) ≠ .ok p := by
  intro h
  cases h

theorem readMarked_local (names : List String) : Local Past (readMarked names) := by
  refine Local.optional (d := 'P') (by decide) ?_ readSwitches_local ?_
  · refine Local.expect (d := '<') (by decide) (readNamed_local names) ?_
    intro cs first p h
    unfold readMarked at h
    split at h
    · rename_i same
      exact first _ (List.cons.inj same).2
    · exact readSwitches_marked cs p h
  · intro cs first p
    unfold readMarked
    split
    · exact absurd rfl (first _)
    · exact Iff.rfl

theorem readSpecial_local (names : List String) : Local Past (readSpecial names) := by
  refine Local.optional (d := '<') (by decide) (readNamed_local names) (readMarked_local names) ?_
  intro cs first p
  unfold readSpecial
  split
  · refine iff_of_false ?_ ?_
    · intro h
      cases h
    · intro h
      cases h
  · exact absurd rfl (first _)
  · exact Iff.rfl

theorem isPrefixOf_append {l : Chars} (h : ')' ∉ l) (cs u : Chars) :
    l.isPrefixOf (cs ++ ')' :: u) = l.isPrefixOf cs := by
  induction l generalizing cs with
  | nil => rfl
  | cons c l ih =>
    rw [List.mem_cons, not_or] at h
    obtain ⟨first, others⟩ := h
    cases cs with
    | nil =>
      have differ : (c == ')') = false := beq_eq_false_iff_ne.2 (Ne.symm first)
      change (c == ')' && l.isPrefixOf u) = false
      rw [differ, Bool.false_and]
    | cons d cs => rw [List.cons_append, List.isPrefixOf, List.isPrefixOf, ih others]

theorem lookArounds_append (cs u : Chars) :
    lookArounds.any (·.isPrefixOf (cs ++ ')' :: u)) = lookArounds.any (·.isPrefixOf cs) := by
  have signs : ∀ l ∈ lookArounds, ')' ∉ l := by decide
  rw [Bool.eq_iff_iff, List.any_eq_true, List.any_eq_true]
  constructor
  · rintro ⟨l, hl, h⟩
    rw [isPrefixOf_append (signs l hl)] at h
    exact ⟨l, hl, h⟩
  · rintro ⟨l, hl, h⟩
    refine ⟨l, hl, ?_⟩
    rw [isPrefixOf_append (signs l hl)]
    exact h

theorem readGroup_local (names : List String) : Local Past (readGroup names) := by
  refine Local.optional (d := '?') (by decide) (readSpecial_local names)
    (Local.pure (Opening.group [] none)) ?_
  intro cs first p
  unfold readGroup
  split
  · exact absurd rfl (first _)
  · exact Iff.rfl

theorem readOpening_local (verbose : Bool) (names : List String) :
    Local Past (readOpening verbose names) := by
  have group := readGroup_local names
  have opening : Local Past (readOpeningFrom names) := by
    constructor
    · intro cs
      by_cases around : lookArounds.any (·.isPrefixOf cs) = true
      · refine ((Local.error .lookAround).extend cs).transport ?_ ?_
        · intro p
          rw [readOpeningFrom, if_pos around]
        · intro u hu p
          rw [readOpeningFrom, lookArounds_append, if_pos around]
      · refine (group.extend cs).transport ?_ ?_
        · intro p
          rw [readOpeningFrom, if_neg around]
        · intro u hu p
          rw [readOpeningFrom, lookArounds_append, if_neg around]
    · intro cs x rest h
      rw [readOpeningFrom] at h
      split at h
      · cases h
      · exact group.suffix cs x rest h
  exact opening.skip verbose fun _ _ _ h => h

section Counts
variable (verbose : Bool)

theorem skipLazy_local {α : Type} (x : α) : Local Past fun cs => .ok (x, skipLazy cs) := by
  refine Local.optional (d := '?') (by decide) (Local.pure x) (Local.pure x) ?_
  intro cs first p
  unfold skipLazy
  split
  · exact absurd rfl (first _)
  · exact Iff.rfl

theorem closeCount_brace (min : Nat) (max : Option Nat) :
    Local Past fun cs => closeCount verbose min max ('\x7d' :: cs) :=
  Local.ite (max.any (· < min) = true) (Local.error _)
    ((skipLazy_local (min, max)).skip verbose fun _ _ _ h => h)

theorem closeCount_local (min : Nat) (max : Option Nat) :
    Local Past (closeCount verbose min max) := by
  refine Local.expect (d := '\x7d') (by decide) (closeCount_brace verbose min max) ?_
  intro cs first p h
  unfold closeCount at h
  split at h
  · exact first _ rfl
  · cases h

theorem readMost_local (least : Except Fault Nat) : Local Past (readMost verbose least) := by
  have most := (readDecimal_local verbose).andThen (k := fun p => least >>= fun min =>
    p.1 >>= fun max => closeCount verbose min (some max) p.2) fun most =>
      Local.const (k := fun min rest => most >>= fun max => closeCount verbose min (some max) rest)
        fun min => Local.const fun max => closeCount_local verbose min (some max)
  refine Local.optional (d := '\x7d') (by decide) ?_ most ?_
  · exact Local.const (k := fun min cs => closeCount verbose min none ('\x7d' :: cs))
      fun min => closeCount_brace verbose min none
  · intro cs first p
    unfold readMost
    split
    · -- Without a number there is no count.
      refine iff_of_false ?_ ?_
      · intro h
        cases h
      · intro h
        obtain ⟨-, ⟨⟩, h⟩ := bind_eq_ok.1 h
        obtain ⟨min, -, h⟩ := bind_eq_ok.1 h
        cases h
    · exact absurd rfl (first _)
    · exact Iff.rfl

theorem readBehindCount_local (count : Except Fault Nat) :
    Local Past (readBehindCount verbose count) := by
  have single : Local Past fun rest => count >>= fun n => closeCount verbose n (some n) rest :=
    Local.const fun n => closeCount_local verbose n (some n)
  refine Local.optional (d := ',') (by decide) ?_ single ?_
  · exact (readMost_local verbose count).skip verbose fun _ _ _ h => h
  · intro cs first p
    unfold readBehindCount
    split
    · refine iff_of_false ?_ ?_
      · intro h
        cases h
      · intro h
        obtain ⟨n, -, h⟩ := bind_eq_ok.1 h
        cases h
    · exact absurd rfl (first _)
    · exact Iff.rfl

theorem readCounts_local : Local Past (readCounts verbose) := by
  have counts := (readDecimal_local verbose).andThen
    (k := fun p => readBehindCount verbose p.1 p.2) (readBehindCount_local verbose)
  exact counts.skip verbose fun _ _ _ h => h

end Counts

end SearchQuery.Pattern
