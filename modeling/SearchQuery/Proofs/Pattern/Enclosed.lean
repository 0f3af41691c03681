import SearchQuery.Proofs.Pattern.Groups

/-!
# Patterns inside a group

A pattern that is put between the parentheses of a group, with conditions around the group, is read
as the body of that group, unless it closes the group itself or hides its end in a comment.  Main
statement: if neither is the case, the whole is read exactly if the pattern is read alone.
-/

set_option autoImplicit false
namespace SearchQuery.Pattern

namespace State

def within (base : Level) (s : State) : State := { s with outer := s.outer ++ [base] }

def bottom (s : State) : Level := s.outer.getLast?.getD s.level

end State

def operators : List Char :=
  ['(', ')', '|', '[', '?', '*', '+', '\x7b', '\\', '.', '^', '$']

section Steps
variable (s : State) (base : Level)

theorem step_literal {c : Char} (h : c ∉ operators) (r : Chars) :
    s.step c r = .ok (s.push (.literal ⟨c, false⟩), r) := by
  unfold State.step
  dsimp only
  split
  all_goals first
    | exact absurd (by decide) h
    | rfl

theorem repeatLast_within (min : Nat) (max : Option Nat) :
    (s.within base).repeatLast min max = (s.repeatLast min max).map (State.within base) := by
  change State.repeatLast min max { s with outer := s.outer ++ [base] } = _
  unfold State.repeatLast
  dsimp only
  split
  · rfl
  · rfl
  · rfl

theorem openGroup_within (r : Chars) : (s.within base).openGroup r =
    (s.openGroup r).map fun p => (p.1.within base, p.2) := by
  change (readOpening s.level.verbose s.names r >>= _) =
    Except.map _ (readOpening s.level.verbose s.names r >>= _)
  cases readOpening s.level.verbose s.names r with
  | error e => rfl
  | ok p =>
    obtain ⟨opening, rest⟩ := p
    cases opening with
    | group switches name => rfl
    | flags switches => rfl

/-- What is read inside a group is read as outside of it, up to the parenthesis that closes it. -/
theorem step_within {c : Char} (h : c = ')' → s.outer ≠ []) (r : Chars) :
    (s.within base).step c r = (s.step c r).map fun p => (p.1.within base, p.2) := by
  have again (min : Nat) (max : Option Nat) :
      ((s.within base).repeatLast min max >>= fun s => Except.ok (s, skipLazy r)) =
        (s.repeatLast min max >>= fun s => Except.ok (s, skipLazy r)).map
          fun p => (p.1.within base, p.2) := by
    rw [repeatLast_within]
    cases s.repeatLast min max with
    | error e => rfl
    | ok s' => rfl
  by_cases special : c ∈ operators
  · simp only [operators, List.mem_cons, List.not_mem_nil, or_false] at special
    rcases special with rfl | rfl | rfl | rfl | rfl | rfl | rfl | rfl | rfl | rfl | rfl | rfl
    · exact openGroup_within s base r
    · cases outer : s.outer with
      | nil => exact absurd outer (h rfl)
      | cons parent more =>
        change ((s.within base).closeGroup >>= fun s => Except.ok (s, r)) =
          (s.closeGroup >>= fun s => Except.ok (s, r)).map fun p => (p.1.within base, p.2)
        unfold State.closeGroup State.within
        rw [outer]
        rfl
    · rfl
    · change (readClass s.level.verbose r >>= _) =
        Except.map _ (readClass s.level.verbose r >>= _)
      cases readClass s.level.verbose r with
      | error e => rfl
      | ok p => rfl
    · exact again 0 (some 1)
    · exact again 0 none
    · exact again 1 none
    · change ((s.within base).repeatLast 0 none >>= fun _ =>
          readCounts s.level.verbose r >>= fun p =>
            (s.within base).repeatLast p.1.1 p.1.2 >>= fun s => Except.ok (s, p.2)) =
        (s.repeatLast 0 none >>= fun _ => readCounts s.level.verbose r >>= fun p =>
          s.repeatLast p.1.1 p.1.2 >>= fun s => Except.ok (s, p.2)).map
            fun p => (p.1.within base, p.2)
      simp only [repeatLast_within]
      cases s.repeatLast 0 none with
      | error e => rfl
      | ok _ =>
        cases readCounts s.level.verbose r with
        | error e => rfl
        | ok p =>
          change (Except.map _ (s.repeatLast p.1.1 p.1.2) >>= _) =
            Except.map _ (s.repeatLast p.1.1 p.1.2 >>= _)
          cases s.repeatLast p.1.1 p.1.2 with
          | error e => rfl
          | ok s' => rfl
    · change (readEscape s.level.verbose r >>= _) =
        Except.map _ (readEscape s.level.verbose r >>= _)
      cases readEscape s.level.verbose r with
      | error e => rfl
      | ok p => rfl
    · rfl
    · rfl
    · rfl
  · rw [step_literal _ special, step_literal _ special]
    rfl

/-- What a step yields only with the parenthesis behind: it has been read, or it follows the brace
that opens a count. -/
def LooseStep (u : Chars) (s' : State) (rest : Chars) : Prop :=
  Past u s' rest ∨ s' = s.push (.anchor .wordBoundary) ∧
    ∃ r, rest = '\x7b' :: r ∧ skip s.level.verbose r = ')' :: u

theorem openGroup_local : Local Past s.openGroup := by
  refine (readOpening_local s.level.verbose s.names).andThen ?_
  intro opening
  cases opening with
  | group switches name => exact Local.pure _
  | flags switches => exact Local.pure _

theorem step_local (c : Char) : Local (LooseStep s) (s.step c) := by
  have past {f : Reader State} (h : Local Past f) : Local (LooseStep s) f :=
    h.mono fun _ _ _ past => .inl past
  have again (min : Nat) (max : Option Nat) :
      Local Past fun r => s.repeatLast min max >>= fun s => .ok (s, skipLazy r) :=
    Local.const (k := fun s r => .ok (s, skipLazy r)) fun s => skipLazy_local s
  by_cases special : c ∈ operators
  · simp only [operators, List.mem_cons, List.not_mem_nil, or_false] at special
    rcases special with rfl | rfl | rfl | rfl | rfl | rfl | rfl | rfl | rfl | rfl | rfl | rfl
    · exact past (openGroup_local s)
    · exact past (Local.yield s.closeGroup id)
    · exact Local.pure _
    · exact past ((readClass_local s.level.verbose).andThen
        (k := fun p => .ok (s.push p.1, p.2)) fun set => Local.pure (s.push set))
    · exact past (again 0 (some 1))
    · exact past (again 0 none)
    · exact past (again 1 none)
    · have counts := (readCounts_local s.level.verbose).andThen
        (k := fun p => s.repeatLast p.1.1 p.1.2 >>= fun s => .ok (s, p.2))
        fun counts => Local.yield (s.repeatLast counts.1 counts.2) id
      exact past (Local.const (a := s.repeatLast 0 none) fun _ => counts)
    · refine (readEscape_local s.level.verbose).bind (k := fun p => .ok (s.push p.1, p.2))
        (fun e => Local.pure (s.push e)) ?_
      rintro u e rest loose s' rest' ⟨⟩
      rcases loose with past | ⟨rfl, brace⟩
      · exact .inl past
      · exact .inr ⟨rfl, brace⟩
    · exact Local.pure _
    · exact Local.pure _
    · exact Local.pure _
  · refine (Local.pure (s.push (.literal ⟨c, false⟩))).congr ?_
    intro r p
    rw [step_literal s special]

theorem repeatLast_ok {min : Nat} {max : Option Nat} {s' : State}
    (h : s.repeatLast min max = .ok s') :
    ∃ level, s' = ⟨level, s.outer, s.names⟩ ∧ level.switches = s.level.switches := by
  unfold State.repeatLast at h
  split at h
  · cases h
  · cases h
  · cases h
    exact ⟨_, rfl, rfl⟩

theorem step_cases {c : Char} {r rest : Chars} {s' : State} (h : s.step c r = .ok (s', rest)) :
    (∃ level, s' = ⟨level, s.outer, s.names⟩ ∧ level.switches = s.level.switches) ∨
      (∃ level names, s' = ⟨level, s.level :: s.outer, names⟩) ∨
      ∃ parent outer part, c = ')' ∧ s.outer = parent :: outer ∧
        s' = ⟨parent.push part, outer, s.names⟩ := by
  have again {min : Nat} {max : Option Nat}
      (h : (s.repeatLast min max >>= fun s => Except.ok (s, skipLazy r)) = .ok (s', rest)) :
      ∃ level, s' = ⟨level, s.outer, s.names⟩ ∧ level.switches = s.level.switches := by
    obtain ⟨s'', repeated, h⟩ := bind_eq_ok.1 h
    cases h
    exact repeatLast_ok s repeated
  by_cases special : c ∈ operators
  · simp only [operators, List.mem_cons, List.not_mem_nil, or_false] at special
    rcases special with rfl | rfl | rfl | rfl | rfl | rfl | rfl | rfl | rfl | rfl | rfl | rfl
    · obtain ⟨⟨opening, behind⟩, -, h⟩ := bind_eq_ok.1 h
      cases opening with
      | group switches name =>
        cases h
        exact .inr (.inl ⟨_, _, rfl⟩)
      | flags switches =>
        cases h
        exact .inl ⟨_, rfl, rfl⟩
    · obtain ⟨s'', closed, h⟩ := bind_eq_ok.1 h
      cases h
      unfold State.closeGroup at closed
      split at closed
      · cases closed
      · rename_i parent outer around
        cases closed
        exact .inr (.inr ⟨parent, outer, _, rfl, around, rfl⟩)
    · cases h
      exact .inl ⟨_, rfl, rfl⟩
    · obtain ⟨p, -, h⟩ := bind_eq_ok.1 h
      cases h
      exact .inl ⟨_, rfl, rfl⟩
    · exact .inl (again h)
    · exact .inl (again h)
    · exact .inl (again h)
    · obtain ⟨-, -, h⟩ := bind_eq_ok.1 h
      obtain ⟨p, -, h⟩ := bind_eq_ok.1 h
      obtain ⟨s'', repeated, h⟩ := bind_eq_ok.1 h
      cases h
      exact .inl (repeatLast_ok s repeated)
    · obtain ⟨p, -, h⟩ := bind_eq_ok.1 h
      cases h
      exact .inl ⟨_, rfl, rfl⟩
    · cases h
      exact .inl ⟨_, rfl, rfl⟩
    · cases h
      exact .inl ⟨_, rfl, rfl⟩
    · cases h
      exact .inl ⟨_, rfl, rfl⟩
  · rw [step_literal s special] at h
    cases h
    exact .inl ⟨_, rfl, rfl⟩

theorem step_bottom {c : Char} {r rest : Chars} {s' : State} (h : s.step c r = .ok (s', rest)) :
    s'.bottom.switches = s.bottom.switches := by
  unfold State.bottom
  rcases step_cases s h with ⟨level, rfl, same⟩ | ⟨level, names, rfl⟩ |
    ⟨parent, outer, part, -, around, rfl⟩
  · cases s.outer.getLast? with
    | none => exact same
    | some bottom => rfl
  · rw [List.getLast?_cons]
    rfl
  · rw [around, List.getLast?_cons]
    dsimp only
    cases outer.getLast? with
    | none => rfl
    | some bottom => rfl

end Steps

theorem run_succ (n : Nat) (s : State) (cs : Chars) : State.run (n + 1) s cs =
    match skip s.level.verbose cs with
    | [] => s.finish
    | c :: r => s.step c r >>= fun p => State.run n p.1 p.2 := rfl

theorem run_step {n : Nat} {s s' : State} {cs r rest : Chars} {c : Char}
    (start : skip s.level.verbose cs = c :: r) (step : s.step c r = .ok (s', rest)) :
    State.run (n + 1) s cs = State.run n s' rest := by
  rw [run_succ, start]
  dsimp only
  rw [step]
  rfl

theorem run_end {n : Nat} {s : State} {cs : Chars} (ended : skip s.level.verbose cs = []) :
    State.run (n + 1) s cs = s.finish := by
  rw [run_succ, ended]

theorem finish_inside {s : State} (inside : s.outer ≠ []) (e : Expr) : s.finish ≠ .ok e := by
  unfold State.finish
  split
  · rename_i outside
    exact absurd outside inside
  · intro h
    cases h

theorem closeGroup_outside {s : State} (outer : s.outer = []) (r : Chars) :
    s.step ')' r = .error .groupUnopened := by
  change (s.closeGroup >>= fun s => Except.ok (s, r)) = _
  unfold State.closeGroup
  rw [outer]
  rfl

theorem within_inside (s : State) (base : Level) : (s.within base).outer ≠ [] :=
  List.append_ne_nil_of_right_ne_nil _ (List.cons_ne_nil _ _)

def State.Refuses (s : State) (cs : Chars) : Prop := ∀ n e, State.run n s cs ≠ .ok e

theorem refuses_of_step {s : State} {cs r : Chars} {c : Char}
    (start : skip s.level.verbose cs = c :: r)
    (h : ∀ s' rest, s.step c r = .ok (s', rest) → s'.Refuses rest) : s.Refuses cs := by
  intro n e read
  cases n with
  | zero => cases read
  | succ n =>
    rw [run_succ, start] at read
    obtain ⟨⟨s', rest⟩, step, read⟩ := bind_eq_ok.1 read
    exact h s' rest step n e read

theorem refuses_of_end {s : State} {cs : Chars} (inside : s.outer ≠ [])
    (ended : skip s.level.verbose cs = []) : s.Refuses cs := by
  intro n e read
  cases n with
  | zero => cases read
  | succ n =>
    rw [run_end ended] at read
    exact finish_inside inside e read

theorem refuses_tail {s : State} {cs : Chars} (inside : s.outer ≠ []) (h : cs <:+ ['$']) :
    s.Refuses cs := by
  rcases List.suffix_cons_iff.1 h with rfl | none
  · refine refuses_of_step (skip_solid _ rfl (by decide) []) ?_
    intro s' rest step
    cases step
    exact refuses_of_end inside (skip_nil _)
  · rw [List.suffix_nil.1 none]
    exact refuses_of_end inside (skip_nil _)

theorem refuses_brace {s : State} {r u : Chars} (hu : IsTail u)
    (h : skip s.level.verbose r = ')' :: u) : s.Refuses ('\x7b' :: r) := by
  have counts (p : (Nat × Option Nat) × Chars) : readCounts s.level.verbose r ≠ .ok p := by
    unfold readCounts
    rw [h]
    intro read
    rcases hu with rfl | rfl
    · cases verbose : s.level.verbose
      · rw [verbose] at read
        cases read
      · rw [verbose] at read
        cases read
    · cases verbose : s.level.verbose
      · rw [verbose] at read
        cases read
      · rw [verbose] at read
        cases read
  refine refuses_of_step (skip_solid _ rfl (by decide) r) ?_
  intro s' rest step
  obtain ⟨-, -, step⟩ := bind_eq_ok.1 step
  obtain ⟨p, read, -⟩ := bind_eq_ok.1 step
  exact absurd read (counts p)

/-- How a text is read alone, with a parenthesis behind it, and inside a group with what follows
the group behind it. -/
inductive Enclosed (n : Nat) (s : State) (cs : Chars) : Prop
  | unopened (alone : State.run n s cs = .error .groupUnopened)
  | refused (alone : ∀ e, State.run n s cs ≠ .ok e)
      (inside : ∀ base, (s.within base).Refuses (cs ++ [')', '$']))
  | closed (body : Expr) (alone : State.run n s cs = .ok body)
      (behind : ∀ k, State.run (n + k) s (cs ++ [')']) = .error .groupUnopened)
      (inside : ∀ base k, State.run (n + k + 2) (s.within base) (cs ++ [')', '$']) =
        .ok ((base.push (.group [] body)).push (.anchor .endLine)).body)
  | hidden (body : Expr) (alone : State.run n s cs = .ok body)
      (behind : ∀ k, State.run (n + k) s (cs ++ [')']) = .ok body)
      (inside : ∀ base, (s.within base).Refuses (cs ++ [')', '$']))

section Ends
variable {n : Nat} {s : State} {cs : Chars}

theorem enclosed_hidden {t : State} (alone : State.run n s cs = t.finish)
    (behind : ∀ k, State.run (n + k) s (cs ++ [')']) = t.finish)
    (inside : ∀ base, (s.within base).Refuses (cs ++ [')', '$'])) : Enclosed n s cs := by
  cases finished : t.finish with
  | error f =>
    refine .refused ?_ inside
    intro e h
    rw [alone, finished] at h
    cases h
  | ok body =>
    refine .hidden body (alone.trans finished) ?_ inside
    intro k
    rw [behind, finished]

theorem enclosed_open (inside : s.outer ≠ []) (alone : skip s.level.verbose cs = [])
    (extended : ∀ u, IsTail u → skip s.level.verbose (cs ++ ')' :: u) = ')' :: u) :
    Enclosed (n + 1) s cs := by
  cases outer : s.outer with
  | nil => exact absurd outer inside
  | cons parent more =>
    refine .refused ?_ ?_
    · intro e h
      rw [run_end alone] at h
      exact finish_inside inside e h
    · intro base
      refine refuses_of_step (s := s.within base) (extended ['$'] (.inr rfl)) ?_
      intro s' rest step
      have closed : (s.within base).step ')' ['$'] = .ok
          (⟨parent.push (.group s.level.switches s.level.body), more ++ [base], s.names⟩,
            ['$']) := by
        change ((s.within base).closeGroup >>= fun s => Except.ok (s, ['$'])) = _
        unfold State.closeGroup State.within
        rw [outer]
        rfl
      cases closed.symm.trans step
      exact refuses_tail (List.append_ne_nil_of_right_ne_nil _ (List.cons_ne_nil _ _))
        (List.suffix_refl _)

theorem enclosed_closed (outer : s.outer = []) (clean : s.bottom.switches = [])
    (alone : skip s.level.verbose cs = [])
    (extended : ∀ u, IsTail u → skip s.level.verbose (cs ++ ')' :: u) = ')' :: u) :
    Enclosed (n + 1) s cs := by
  have switches : s.level.switches = [] := by
    unfold State.bottom at clean
    rw [outer] at clean
    exact clean
  have finished : s.finish = .ok s.level.body := by
    unfold State.finish
    rw [outer]
  refine .closed s.level.body ((run_end alone).trans finished) ?_ ?_
  · intro k
    have fuel : n + 1 + k = n + k + 1 := by omega
    rw [fuel, run_succ, extended [] (.inl rfl)]
    dsimp only
    rw [closeGroup_outside outer]
    rfl
  · intro base k
    have fuel : n + 1 + k + 2 = n + k + 1 + 1 + 1 := by omega
    have step : (s.within base).step ')' ['$'] = .ok
        (⟨base.push (.group [] s.level.body), [], s.names⟩, ['$']) := by
      change ((s.within base).closeGroup >>= fun s => Except.ok (s, ['$'])) = _
      unfold State.closeGroup State.within
      rw [outer, switches]
      rfl
    rw [fuel, run_step (s := s.within base) (extended ['$'] (.inr rfl)) step,
      run_step (skip_solid _ rfl (by decide) []) rfl, run_end (skip_nil _)]
    rfl

end Ends

-- A step is taken at the first character that is left, which does not close the group that the text
-- is put in.
section Starts
variable {n : Nat} {s : State} {cs r : Chars} {c : Char}
variable (alone : skip s.level.verbose cs = c :: r)
variable (extended : ∀ u, IsTail u → skip s.level.verbose (cs ++ ')' :: u) = c :: (r ++ ')' :: u))
variable (stays : c = ')' → s.outer ≠ [])
include alone extended stays

theorem enclosed_step {s' : State} {rest : Chars} (step : s.step c r = .ok (s', rest))
    (step' : ∀ u, IsTail u → s.step c (r ++ ')' :: u) = .ok (s', rest ++ ')' :: u))
    (h : Enclosed n s' rest) : Enclosed (n + 1) s cs := by
  have here := run_step (n := n) alone step
  have behind (k : Nat) : State.run (n + 1 + k) s (cs ++ [')']) =
      State.run (n + k) s' (rest ++ [')']) := by
    have fuel : n + 1 + k = n + k + 1 := by omega
    rw [fuel, run_step (extended [] (.inl rfl)) (step' [] (.inl rfl))]
  have stepped (base : Level) : (s.within base).step c (r ++ [')', '$']) =
      .ok (s'.within base, rest ++ [')', '$']) := by
    rw [step_within s base stays, step' ['$'] (.inr rfl)]
    rfl
  have refuses (base : Level) (h : (s'.within base).Refuses (rest ++ [')', '$'])) :
      (s.within base).Refuses (cs ++ [')', '$']) := by
    refine refuses_of_step (s := s.within base) (extended ['$'] (.inr rfl)) ?_
    intro t left step
    cases (stepped base).symm.trans step
    exact h
  cases h with
  | unopened h => exact .unopened (here.trans h)
  | refused h h' =>
    refine .refused ?_ fun base => refuses base (h' base)
    intro e
    rw [here]
    exact h e
  | closed body h h' h'' =>
    refine .closed body (here.trans h) (fun k => (behind k).trans (h' k)) ?_
    intro base k
    have fuel : n + 1 + k + 2 = n + k + 2 + 1 := by omega
    rw [fuel, run_step (s := s.within base) (extended ['$'] (.inr rfl)) (stepped base)]
    exact h'' base k
  | hidden body h h' h'' =>
    exact .hidden body (here.trans h) (fun k => (behind k).trans (h' k))
      fun base => refuses base (h'' base)

theorem enclosed_swallowed {s' : State} (step : s.step c r = .ok (s', []))
    (step' : ∀ u, IsTail u → s.step c (r ++ ')' :: u) = .ok (s', [])) :
    Enclosed (n + 1 + 1) s cs := by
  refine enclosed_hidden (t := s') ?_ ?_ ?_
  · rw [run_step alone step, run_end (skip_nil _)]
  · intro k
    have fuel : n + 1 + 1 + k = n + k + 1 + 1 := by omega
    rw [fuel, run_step (extended [] (.inl rfl)) (step' [] (.inl rfl)), run_end (skip_nil _)]
  · intro base
    refine refuses_of_step (s := s.within base) (extended ['$'] (.inr rfl)) ?_
    intro t rest step
    rw [step_within s base stays, step' ['$'] (.inr rfl)] at step
    cases step
    exact refuses_tail (within_inside s' base) List.nil_suffix

theorem enclosed_beyond (step : ∀ p, s.step c r ≠ .ok p)
    (step' : ∀ u, IsTail u → ∀ s' rest, s.step c (r ++ ')' :: u) = .ok (s', rest) →
      LooseStep s u s' rest) : Enclosed (n + 1) s cs := by
  refine .refused ?_ ?_
  · intro e h
    rw [run_succ, alone] at h
    obtain ⟨p, hp, -⟩ := bind_eq_ok.1 h
    exact step p hp
  · intro base
    refine refuses_of_step (s := s.within base) (extended ['$'] (.inr rfl)) ?_
    intro t rest stepped
    rw [step_within s base stays] at stepped
    obtain ⟨⟨s', rest⟩, hs, ⟨⟩⟩ := map_eq_ok.1 stepped
    rcases step' ['$'] (.inr rfl) s' rest hs with past | ⟨rfl, r', rfl, paren⟩
    · exact refuses_tail (within_inside s' base) past
    · exact refuses_brace (s := (s.push (.anchor .wordBoundary)).within base) (.inr rfl) paren

end Starts

/-- Every text is read in one of these ways, from every state on.  The fuel is enough for the text
alone. -/
theorem run_enclosed (n : Nat) (s : State) (cs : Chars) (enough : cs.length < n)
    (clean : s.bottom.switches = []) : Enclosed n s cs := by
  induction n generalizing s cs with
  | zero => omega
  | succ n ih =>
    rcases skip_append s.level.verbose cs with ⟨start, alone, extended⟩ | ⟨alone, extended⟩
    · cases start with
      | nil =>
        by_cases outer : s.outer = []
        · exact enclosed_closed outer clean alone extended
        · exact enclosed_open outer alone extended
      | cons c r =>
        have shorter : r.length < n := by
          have length := (skip_suffix s.level.verbose cs).length_le
          rw [alone, List.length_cons] at length
          omega
        by_cases closes : c = ')' ∧ s.outer = []
        · obtain ⟨rfl, outer⟩ := closes
          refine .unopened ?_
          rw [run_succ, alone]
          dsimp only
          rw [closeGroup_outside outer]
          rfl
        · have stays : c = ')' → s.outer ≠ [] := fun paren outer => closes ⟨paren, outer⟩
          cases (step_local s c).extend r with
          | same s' rest step step' =>
            have rest_shorter : rest.length < n := by
              have length := ((step_local s c).suffix r s' rest step).length_le
              omega
            have clean' : s'.bottom.switches = [] := (step_bottom s step).trans clean
            exact enclosed_step alone extended stays step step' (ih s' rest rest_shorter clean')
          | swallowed s' step step' =>
            obtain ⟨n, rfl⟩ : ∃ k, n = k + 1 := ⟨n - 1, by omega⟩
            exact enclosed_swallowed alone extended stays step step'
          | beyond step step' => exact enclosed_beyond alone extended stays step step'
    · refine enclosed_hidden (t := s) (run_end alone) ?_ ?_
      · intro k
        have fuel : n + 1 + k = n + k + 1 := by omega
        rw [fuel, run_end (extended [] (.inl rfl))]
      · intro base
        exact refuses_of_end (s := s.within base) (within_inside s base) (extended ['$'] (.inr rfl))

def enclose (p : Chars) : Chars := '^' :: '(' :: '?' :: ':' :: (p ++ [')', '$'])

def Expr.enclosed (e : Expr) : Expr := .sequence [.anchor .startLine, .group [] e, .anchor .endLine]

/-- A pattern that closes no group which it does not open, and whose end is not hidden in a comment:
a parenthesis behind it closes what nobody has opened. -/
def IsSelfContained (p : Chars) : Prop :=
  match Expr.read p with
  | .ok _ => Expr.read (p ++ [')']) = .error .groupUnopened
  | .error f => f ≠ .groupUnopened

def startLevel : Level := State.start.level.push (.anchor .startLine)

theorem read_enclose (p : Chars) : Expr.read (enclose p) =
    State.run (p.length + 1 + 2 + 2) (State.start.within startLevel) (p ++ [')', '$']) := by
  have fuel : (enclose p).length + 1 = p.length + 1 + 2 + 2 + 1 + 1 := by
    simp [enclose]
  have first : State.start.step '^' ('(' :: '?' :: ':' :: (p ++ [')', '$'])) =
      .ok (State.start.push (.anchor .startLine), '(' :: '?' :: ':' :: (p ++ [')', '$'])) := rfl
  have second : (State.start.push (.anchor .startLine)).step '(' ('?' :: ':' :: (p ++ [')', '$'])) =
      .ok (State.start.within startLevel, p ++ [')', '$']) := rfl
  rw [Expr.read, fuel]
  exact (run_step rfl first).trans (run_step rfl second)

theorem read_cases (p : Chars) : Enclosed (p.length + 1) State.start p :=
  run_enclosed (p.length + 1) State.start p (Nat.lt_succ_self _) rfl

theorem read_behind (p : Chars) :
    Expr.read (p ++ [')']) = State.run (p.length + 1 + 1) State.start (p ++ [')']) := by
  rw [Expr.read, List.length_append]
  rfl

theorem read_enclose_of_read {p : Chars} (h : IsSelfContained p) {e : Expr}
    (read : Expr.read p = .ok e) : Expr.read (enclose p) = .ok e.enclosed := by
  rw [IsSelfContained, read] at h
  dsimp only at h
  rw [read_behind] at h
  cases read_cases p with
  | unopened alone => cases read.symm.trans alone
  | refused alone _ => exact absurd read (alone e)
  | closed body alone behind inside =>
    cases read.symm.trans alone
    rw [read_enclose]
    exact inside startLevel 2
  | hidden body alone behind inside =>
    rw [behind] at h
    cases h

theorem enclose_refused {p : Chars} (h : IsSelfContained p) (refused : ∀ e, Expr.read p ≠ .ok e)
    (e : Expr) : Expr.read (enclose p) ≠ .ok e := by
  cases read_cases p with
  | unopened alone =>
    have alone : Expr.read p = .error .groupUnopened := alone
    rw [IsSelfContained, alone] at h
    exact absurd rfl h
  | refused _ inside =>
    rw [read_enclose]
    exact inside startLevel _ e
  | closed body alone _ _ => exact absurd alone (refused body)
  | hidden body alone _ _ => exact absurd alone (refused body)

/-- A pattern that is read alone and hides its end is refused inside the group. -/
theorem enclose_hidden {p : Chars} (h : ¬IsSelfContained p) {body : Expr}
    (read : Expr.read p = .ok body) (e : Expr) : Expr.read (enclose p) ≠ .ok e := by
  rw [IsSelfContained, read] at h
  dsimp only at h
  rw [read_behind] at h
  cases read_cases p with
  | unopened alone => cases read.symm.trans alone
  | refused alone _ => exact absurd read (alone body)
  | closed body alone behind inside => exact absurd (behind 1) h
  | hidden body alone behind inside =>
    rw [read_enclose]
    exact inside startLevel _ e

end SearchQuery.Pattern
