import SearchQuery.Pattern.Reading
import SearchQuery.Proofs.Outcome

/-!
# Reading with a parenthesis behind

How the result of a reader changes when a closing parenthesis is put behind its text.  Most often
the reader stops before it, and then nothing changes; but a comment may hide the parenthesis, and
what was missing at the end may be found in it.  Main statements: these are all cases, for each of
the readers that a pattern is read with.
-/

set_option autoImplicit false
namespace SearchQuery.Pattern

abbrev Reader (α : Type) := Chars → Except Fault (α × Chars)

/-- What may follow the parenthesis: nothing, or the condition that the text ends. -/
def IsTail (u : Chars) : Prop := u = [] ∨ u = ['$']

/-- What may come of a text only with the parenthesis and a tail behind it: a value and the rest
that is not read. -/
abbrev Loose (α : Type) := Chars → α → Chars → Prop

section Readers
variable {α β γ : Type} {P : Loose α} {Q : Loose β}

inductive Extends (P : Loose α) (f : Reader α) (cs : Chars) : Prop
  | same (x : α) (rest : Chars) (alone : f cs = .ok (x, rest))
      (extended : ∀ u, IsTail u → f (cs ++ ')' :: u) = .ok (x, rest ++ ')' :: u))
  | swallowed (x : α) (alone : f cs = .ok (x, []))
      (extended : ∀ u, IsTail u → f (cs ++ ')' :: u) = .ok (x, []))
  | beyond (alone : ∀ p, f cs ≠ .ok p)
      (extended : ∀ u, IsTail u → ∀ x rest, f (cs ++ ')' :: u) = .ok (x, rest) → P u x rest)

/-- A reader that leaves a part of its text, and to which a parenthesis behind the text means no
more than the cases above. -/
structure Local (P : Loose α) (f : Reader α) : Prop where
  extend : ∀ cs, Extends P f cs
  suffix : ∀ cs x rest, f cs = .ok (x, rest) → rest <:+ cs

def Past (u : Chars) (_ : α) (rest : Chars) : Prop := rest <:+ u

def From (u : Chars) (_ : α) (rest : Chars) : Prop := rest <:+ ')' :: u

theorem Past.from {u rest : Chars} {x : α} (h : Past u x rest) : From u x rest :=
  h.trans (List.suffix_cons _ _)

theorem Local.pure (x : α) : Local P fun cs => .ok (x, cs) where
  extend cs := .same x cs rfl fun _ _ => rfl
  suffix := by
    rintro cs x rest ⟨⟩
    exact List.suffix_refl cs

theorem Local.error (e : Fault) : Local P fun _ => .error e where
  extend cs := by
    refine .beyond ?_ ?_
    · intro p h
      cases h
    · intro u _ x rest h
      cases h
  suffix := by
    intro cs x rest h
    cases h

theorem Local.mono {P' : Loose α} {f : Reader α} (h : Local P f)
    (weaker : ∀ u x rest, P u x rest → P' u x rest) : Local P' f where
  extend cs := by
    cases h.extend cs with
    | same x rest alone extended => exact .same x rest alone extended
    | swallowed x alone extended => exact .swallowed x alone extended
    | beyond alone extended =>
      exact .beyond alone fun u hu x rest h => weaker u x rest (extended u hu x rest h)
  suffix := h.suffix

/-- Two readers that agree on two texts and behind them; which faults they report makes no
difference. -/
theorem Extends.transport {f g : Reader α} {cs ds : Chars} (h : Extends P g ds)
    (here : ∀ p, f cs = .ok p ↔ g ds = .ok p)
    (there : ∀ u, IsTail u → ∀ p, f (cs ++ ')' :: u) = .ok p ↔ g (ds ++ ')' :: u) = .ok p) :
    Extends P f cs := by
  cases h with
  | same x rest alone extended =>
    exact .same x rest ((here _).2 alone) fun u hu => (there u hu _).2 (extended u hu)
  | swallowed x alone extended =>
    exact .swallowed x ((here _).2 alone) fun u hu => (there u hu _).2 (extended u hu)
  | beyond alone extended =>
    refine .beyond ?_ ?_
    · intro p hp
      exact alone p ((here p).1 hp)
    · intro u hu x rest hx
      exact extended u hu x rest ((there u hu _).1 hx)

theorem Local.congr {f g : Reader α} (agree : ∀ cs p, f cs = .ok p ↔ g cs = .ok p)
    (h : Local P g) : Local P f where
  extend cs := (h.extend cs).transport (agree cs) fun _ _ => agree _
  suffix cs x rest hx := h.suffix cs x rest ((agree _ _).1 hx)

theorem Local.const {a : Except Fault γ} {k : γ → Reader α} (h : ∀ x, Local P (k x)) :
    Local P fun cs => a >>= fun x => k x cs := by
  cases a with
  | error e => exact Local.error e
  | ok x => exact h x

theorem Local.yield (a : Except Fault γ) (g : γ → α) :
    Local P fun cs => a >>= fun x => .ok (g x, cs) :=
  Local.const (k := fun x cs => .ok (g x, cs)) fun x => Local.pure (g x)

theorem Local.ite (p : Prop) [Decidable p] {f g : Reader α} (hf : Local P f) (hg : Local P g) :
    Local P fun cs => if p then f cs else g cs := by
  by_cases h : p
  · simp only [if_pos h]
    exact hf
  · simp only [if_neg h]
    exact hg

theorem Local.bind {f : Reader α} {k : α × Chars → Except Fault (β × Chars)} (hf : Local P f)
    (hk : ∀ x, Local Q fun rest => k (x, rest))
    (loose : ∀ u x rest, P u x rest → ∀ y rest', k (x, rest) = .ok (y, rest') → Q u y rest') :
    Local Q fun cs => f cs >>= k where
  extend cs := by
    have after {text : Chars} {p : α × Chars} (h : f text = .ok p) : (f text >>= k) = k p := by
      rw [h]
      rfl
    cases hf.extend cs with
    | same x rest alone extended =>
      cases (hk x).extend rest with
      | same y rest' alone' extended' =>
        exact .same y rest' ((after alone).trans alone') fun u hu =>
          (after (extended u hu)).trans (extended' u hu)
      | swallowed y alone' extended' =>
        exact .swallowed y ((after alone).trans alone') fun u hu =>
          (after (extended u hu)).trans (extended' u hu)
      | beyond alone' extended' =>
        refine .beyond ?_ ?_
        · intro p hp
          exact alone' p ((after alone).symm.trans hp)
        · intro u hu y rest' hy
          exact extended' u hu y rest' ((after (extended u hu)).symm.trans hy)
    | swallowed x alone extended =>
      cases result : k (x, []) with
      | error e =>
        refine .beyond ?_ ?_
        · intro p hp
          rw [after alone, result] at hp
          cases hp
        · intro u hu y rest' hy
          rw [after (extended u hu), result] at hy
          cases hy
      | ok p =>
        obtain ⟨y, rest'⟩ := p
        have none : rest' = [] := List.suffix_nil.1 ((hk x).suffix [] y rest' result)
        rw [none] at result
        exact .swallowed y ((after alone).trans result) fun u hu =>
          (after (extended u hu)).trans result
    | beyond alone extended =>
      refine .beyond ?_ ?_
      · intro p hp
        obtain ⟨q, hq, -⟩ := bind_eq_ok.1 hp
        exact alone q hq
      · intro u hu y rest' hy
        obtain ⟨⟨x, rest⟩, hx, hy⟩ := bind_eq_ok.1 hy
        exact loose u x rest (extended u hu x rest hx) y rest' hy
  suffix := by
    intro cs y rest' h
    obtain ⟨⟨x, rest⟩, hx, hy⟩ := bind_eq_ok.1 h
    exact ((hk x).suffix rest y rest' hy).trans (hf.suffix cs x rest hx)

theorem Local.andThen {f : Reader α} {k : α × Chars → Except Fault (β × Chars)}
    (hf : Local Past f) (hk : ∀ x, Local Past fun rest => k (x, rest)) :
    Local Past fun cs => f cs >>= k :=
  hf.bind hk fun _ x rest h y rest' hy => ((hk x).suffix rest y rest' hy).trans h

theorem Local.andThenFrom {f : Reader α} {k : α × Chars → Except Fault (β × Chars)}
    (hf : Local From f) (hk : ∀ x, Local From fun rest => k (x, rest)) :
    Local From fun cs => f cs >>= k :=
  hf.bind hk fun _ x rest h y rest' hy => ((hk x).suffix rest y rest' hy).trans h

theorem ne_cons_append {d : Char} (other : d ≠ ')') {cs : Chars} (h : ∀ r, cs ≠ d :: r)
    (u r : Chars) : cs ++ ')' :: u ≠ d :: r := by
  intro same
  cases cs with
  | nil => exact other (List.cons.inj same).1.symm
  | cons c cs => exact h cs (by rw [(List.cons.inj same).1])

theorem Local.optional {f g : Reader α} {d : Char} (other : d ≠ ')')
    (hf : Local P fun r => f (d :: r)) (hg : Local P g)
    (h : ∀ cs, (∀ r, cs ≠ d :: r) → ∀ p, f cs = .ok p ↔ g cs = .ok p) : Local P f where
  extend cs := by
    by_cases first : ∃ r, cs = d :: r
    · obtain ⟨r, rfl⟩ := first
      exact (hf.extend r).transport (fun _ => Iff.rfl) fun _ _ _ => Iff.rfl
    · have first := not_exists.1 first
      exact (hg.extend cs).transport (h cs first) fun u _ => h _ (ne_cons_append other first u)
  suffix := by
    intro cs x rest hx
    by_cases first : ∃ r, cs = d :: r
    · obtain ⟨r, rfl⟩ := first
      exact (hf.suffix r x rest hx).trans (List.suffix_cons d r)
    · exact hg.suffix cs x rest ((h cs (not_exists.1 first) _).1 hx)

theorem Local.expect {f : Reader α} {d : Char} (other : d ≠ ')')
    (hf : Local P fun r => f (d :: r)) (h : ∀ cs, (∀ r, cs ≠ d :: r) → ∀ p, f cs ≠ .ok p) :
    Local P f := by
  refine Local.optional other hf (Local.error .escapeEnd) ?_
  intro cs first p
  refine iff_of_false (h cs first p) ?_
  intro hp
  cases hp

theorem Local.head {f : Reader α} (admits : ∀ u x rest, Past u x rest → P u x rest)
    (none : ∀ p, f [] ≠ .ok p) (some : ∀ c, Local P fun r => f (c :: r)) : Local P f where
  extend cs := by
    cases cs with
    | nil =>
      refine .beyond none ?_
      intro u hu x rest hx
      exact admits u x rest ((some ')').suffix u x rest hx)
    | cons c r =>
      exact ((some c).extend r).transport (fun _ => Iff.rfl) fun _ _ _ => Iff.rfl
  suffix := by
    intro cs x rest hx
    cases cs with
    | nil => exact absurd hx (none _)
    | cons c r => exact ((some c).suffix r x rest hx).trans (List.suffix_cons c r)

end Readers

theorem dropIgnored_append (comment : Bool) (cs : Chars) :
    (∃ c r, dropIgnored comment cs = c :: r ∧ ∀ t, dropIgnored comment (cs ++ t) = c :: r ++ t) ∨
      dropIgnored comment cs = [] ∧
        ∃ hidden, ∀ t, dropIgnored comment (cs ++ t) = dropIgnored hidden t := by
  induction cs generalizing comment with
  | nil =>
    refine .inr ⟨?_, comment, fun t => rfl⟩
    cases comment
    · rfl
    · rfl
  | cons c r ih =>
    cases comment with
    | true => exact ih (c != '\n')
    | false =>
      simp only [List.cons_append, dropIgnored]
      by_cases blank : isBlank c = true
      · simp only [if_pos blank]
        exact ih false
      · simp only [if_neg blank]
        by_cases hash : c = '#'
        · simp only [if_pos hash]
          exact ih true
        · simp only [if_neg hash]
          exact .inl ⟨c, r, rfl, fun t => rfl⟩

theorem dropIgnored_suffix (comment : Bool) (cs : Chars) : dropIgnored comment cs <:+ cs := by
  induction cs generalizing comment with
  | nil =>
    cases comment
    · exact List.suffix_refl []
    · exact List.suffix_refl []
  | cons c r ih =>
    cases comment with
    | true => exact (ih (c != '\n')).trans (List.suffix_cons c r)
    | false =>
      simp only [dropIgnored]
      split
      · exact (ih false).trans (List.suffix_cons c r)
      · split
        · exact (ih true).trans (List.suffix_cons c r)
        · exact List.suffix_refl (c :: r)

theorem dropIgnored_tail {u : Chars} (hu : IsTail u) :
    dropIgnored false (')' :: u) = ')' :: u ∧ dropIgnored true (')' :: u) = [] := by
  rcases hu with rfl | rfl
  · exact ⟨rfl, rfl⟩
  · exact ⟨rfl, rfl⟩

theorem skip_append (verbose : Bool) (cs : Chars) :
    (∃ start, skip verbose cs = start ∧
        ∀ u, IsTail u → skip verbose (cs ++ ')' :: u) = start ++ ')' :: u) ∨
      skip verbose cs = [] ∧ ∀ u, IsTail u → skip verbose (cs ++ ')' :: u) = [] := by
  cases verbose with
  | false => exact .inl ⟨cs, rfl, fun _ _ => rfl⟩
  | true =>
    change (∃ start, dropIgnored false cs = start ∧
        ∀ u, IsTail u → dropIgnored false (cs ++ ')' :: u) = start ++ ')' :: u) ∨
      dropIgnored false cs = [] ∧ ∀ u, IsTail u → dropIgnored false (cs ++ ')' :: u) = []
    rcases dropIgnored_append false cs with ⟨c, r, alone, extended⟩ | ⟨alone, hidden, extended⟩
    · exact .inl ⟨c :: r, alone, fun u _ => extended _⟩
    · cases hidden with
      | false => exact .inl ⟨[], alone, fun u hu => (extended _).trans (dropIgnored_tail hu).1⟩
      | true => exact .inr ⟨alone, fun u hu => (extended _).trans (dropIgnored_tail hu).2⟩

theorem skip_local (verbose : Bool) : Local Past fun cs => .ok ((), skip verbose cs) where
  extend cs := by
    rcases skip_append verbose cs with ⟨start, alone, extended⟩ | ⟨alone, extended⟩
    · refine .same () start (by rw [alone]) ?_
      intro u hu
      rw [extended u hu]
    · refine .swallowed () (by rw [alone]) ?_
      intro u hu
      rw [extended u hu]
  suffix := by
    rintro cs x rest ⟨⟩
    cases verbose with
    | false => exact List.suffix_refl cs
    | true => exact dropIgnored_suffix false cs

theorem skip_suffix (verbose : Bool) (cs : Chars) : skip verbose cs <:+ cs :=
  (skip_local verbose).suffix cs () _ rfl

theorem skip_nil (verbose : Bool) : skip verbose [] = [] := by
  cases verbose
  · rfl
  · rfl

theorem skip_solid (verbose : Bool) {c : Char} (blank : isBlank c = false) (hash : c ≠ '#')
    (r : Chars) : skip verbose (c :: r) = c :: r := by
  cases verbose with
  | false => rfl
  | true =>
    change (if isBlank c then dropIgnored false r
      else if c = '#' then dropIgnored true r else c :: r) = c :: r
    rw [blank, if_neg Bool.false_ne_true, if_neg hash]

theorem Local.skip {α : Type} {P : Loose α} {f : Reader α} (verbose : Bool) (h : Local P f)
    (admits : ∀ u x rest, Past u x rest → P u x rest) :
    Local P fun cs => f (skip verbose cs) :=
  (skip_local verbose).bind (k := fun p => f p.2) (fun _ => h) fun u _ rest past y rest' hy =>
    admits u y rest' ((h.suffix rest y rest' hy).trans past)

section Runs
variable (verbose : Bool) (inClass : Char → Bool)

theorem takeRun_append (comment : Bool) (cs : Chars) :
    (∃ run c r, takeRun verbose inClass comment cs = (run, c :: r) ∧
        ∀ t, takeRun verbose inClass comment (cs ++ t) = (run, c :: r ++ t)) ∨
      ∃ run hidden, takeRun verbose inClass comment cs = (run, []) ∧
        ∀ t, takeRun verbose inClass comment (cs ++ t) =
          (run ++ (takeRun verbose inClass hidden t).1, (takeRun verbose inClass hidden t).2) := by
  induction cs generalizing comment with
  | nil =>
    refine .inr ⟨[], comment, ?_, fun t => rfl⟩
    cases comment
    · rfl
    · rfl
  | cons c r ih =>
    cases comment with
    | true => exact ih (c != '\n')
    | false =>
      simp only [List.cons_append, takeRun]
      by_cases blank : (verbose && isBlank c) = true
      · simp only [if_pos blank]
        exact ih false
      · simp only [if_neg blank]
        by_cases hash : (verbose && c == '#') = true
        · simp only [if_pos hash]
          exact ih true
        · simp only [if_neg hash]
          by_cases member : inClass c = true
          · simp only [if_pos member]
            rcases ih false with ⟨run, d, s, alone, extended⟩ | ⟨run, hidden, alone, extended⟩
            · refine .inl ⟨c :: run, d, s, by rw [alone], ?_⟩
              intro t
              rw [extended]
              rfl
            · refine .inr ⟨c :: run, hidden, by rw [alone], ?_⟩
              intro t
              rw [extended]
              rfl
          · simp only [if_neg member]
            exact .inl ⟨[], c, r, rfl, fun t => rfl⟩

theorem takeRun_suffix (comment : Bool) (cs : Chars) :
    (takeRun verbose inClass comment cs).2 <:+ cs := by
  induction cs generalizing comment with
  | nil =>
    cases comment
    · exact List.suffix_refl []
    · exact List.suffix_refl []
  | cons c r ih =>
    have later (comment : Bool) := (ih comment).trans (List.suffix_cons c r)
    cases comment with
    | true => exact later (c != '\n')
    | false =>
      simp only [takeRun]
      split
      · exact later false
      · split
        · exact later true
        · split
          · exact later false
          · exact List.suffix_refl (c :: r)

/-- In a comment no run goes on, and the comment does not end in a tail. -/
theorem takeRun_comment {u : Chars} (hu : IsTail u) :
    takeRun verbose inClass true (')' :: u) = ([], []) := by
  rcases hu with rfl | rfl
  · rfl
  · rfl

theorem takeRun_local (other : inClass ')' = false) :
    Local Past fun cs => .ok (takeRun verbose inClass false cs) where
  extend cs := by
    have tail (u : Chars) : takeRun verbose inClass false (')' :: u) = ([], ')' :: u) := by
      have blank : isBlank ')' = false := rfl
      have hash : (')' == '#') = false := rfl
      simp only [takeRun, blank, hash, other, Bool.and_false, Bool.false_eq_true, if_false]
    rcases takeRun_append verbose inClass false cs with
      ⟨run, c, r, alone, extended⟩ | ⟨run, hidden, alone, extended⟩
    · refine .same run (c :: r) (by rw [alone]) ?_
      intro u hu
      rw [extended]
    · cases hidden with
      | false =>
        refine .same run [] (by rw [alone]) ?_
        intro u hu
        rw [extended, tail, List.append_nil]
        rfl
      | true =>
        refine .swallowed run (by rw [alone]) ?_
        intro u hu
        rw [extended, takeRun_comment verbose inClass hu, List.append_nil]
  suffix := by
    intro cs run rest h
    have same : takeRun verbose inClass false cs = (run, rest) := Except.ok.inj h
    have left := takeRun_suffix verbose inClass false cs
    rw [same] at left
    exact left

end Runs

theorem span_append_paren {p : Char → Bool} (other : p ')' = false) (cs u : Chars) :
    (cs ++ ')' :: u).takeWhile p = cs.takeWhile p ∧
      (cs ++ ')' :: u).dropWhile p = cs.dropWhile p ++ ')' :: u := by
  induction cs with
  | nil => simp [other]
  | cons c r ih =>
    by_cases member : p c = true
    · simp only [List.cons_append, List.takeWhile_cons, List.dropWhile_cons, member, if_true]
      rw [ih.1, ih.2]
      exact ⟨rfl, rfl⟩
    · simp [member]

theorem dropWhile_local {p : Char → Bool} (other : p ')' = false) :
    Local Past fun cs => .ok (cs.takeWhile p, cs.dropWhile p) where
  extend cs := by
    refine .same (cs.takeWhile p) (cs.dropWhile p) rfl ?_
    intro u _
    rw [(span_append_paren other cs u).1, (span_append_paren other cs u).2]
  suffix := by
    rintro cs x rest ⟨⟩
    exact List.dropWhile_suffix p

section Numbers
variable (verbose : Bool)

theorem readDecimal_local : Local Past fun cs => .ok (readDecimal verbose cs) := by
  have digits := takeRun_local verbose isDecimal rfl
  have blanks := takeRun_local verbose isBlank rfl
  have number (run : Chars) : Local Past fun rest =>
      .ok (decimalOf run, (takeRun verbose isBlank false rest).2) :=
    blanks.andThen (k := fun p => .ok (decimalOf run, p.2)) fun _ => Local.pure _
  have behind := digits.andThen
    (k := fun p => .ok (decimalOf p.1, (takeRun verbose isBlank false p.2).2)) number
  exact (dropWhile_local (p := isBlank) rfl).andThen
    (k := fun p => .ok (takeRun verbose isDecimal false p.2) >>= fun q =>
      .ok (decimalOf q.1, (takeRun verbose isBlank false q.2).2)) fun _ => behind

theorem readHexDigits_local (n : Nat) : Local Past (readHexDigits verbose n) := by
  induction n with
  | zero => exact Local.pure []
  | succ n ih =>
    refine Local.head (fun _ _ _ h => h) ?_ ?_
    · intro p h
      cases h
    · intro c
      refine Local.ite (isHex c = true) ?_ (Local.error _)
      exact (ih.skip verbose fun _ _ _ h => h).andThen fun _ => Local.pure _

theorem closeHex_local (run : Chars) : Local Past (closeHex verbose run) := by
  refine Local.expect (d := '\x7d') (by decide) ?_ ?_
  · refine Local.ite (run.isEmpty = true) (Local.error _) ?_
    exact Local.const fun c => (Local.pure (Expr.literal ⟨c, false⟩)).skip verbose fun _ _ _ h => h
  · intro cs first p h
    unfold closeHex at h
    split at h
    · cases h
    · exact first _ rfl
    · cases h

theorem readHex_local (n : Nat) : Local Past (readHex verbose (n + 1)) := by
  refine Local.skip verbose (f := readHexFrom verbose (n + 1)) ?_ fun _ _ _ h => h
  have digits := (readHexDigits_local verbose (n + 1)).andThen
    (k := fun p => charOf (hexValue p.1) >>= fun c => .ok (Expr.literal ⟨c, n + 1 == 2⟩, p.2))
    fun run => Local.yield (charOf (hexValue run)) fun c => Expr.literal ⟨c, n + 1 == 2⟩
  refine Local.optional (d := '\x7b') (by decide) ?_ digits ?_
  · exact (takeRun_local verbose isHex rfl).andThen (k := fun p => closeHex verbose p.1 p.2)
      fun run => closeHex_local verbose run
  · intro cs first p
    unfold readHexFrom
    split
    · exact Iff.rfl
    · exact absurd rfl (first _)
    · exact Iff.rfl

end Numbers

section Escapes
variable (verbose : Bool)

theorem readBracedProperty_local (negated : Bool) :
    Local Past (readBracedProperty verbose negated) where
  extend cs := by
    rcases takeRun_append verbose (· != '\x7d') false cs with
      ⟨name, c, r, alone, extended⟩ | ⟨name, hidden, alone, extended⟩
    · refine .same (.property negated (.ofText name)) r (by rw [readBracedProperty, alone]) ?_
      intro u hu
      rw [readBracedProperty, extended]
      rfl
    · refine .beyond ?_ ?_
      · intro p h
        rw [readBracedProperty, alone] at h
        cases h
      · intro u hu x rest h
        -- There is no closing brace in the tail either.
        have missing : (takeRun verbose (· != '\x7d') hidden (')' :: u)).2 = [] := by
          cases hidden with
          | true => rw [takeRun_comment verbose _ hu]
          | false =>
            rcases hu with rfl | rfl
            · cases verbose
              · rfl
              · rfl
            · cases verbose
              · rfl
              · rfl
        rw [readBracedProperty, extended, missing] at h
        cases h
  suffix := by
    intro cs x rest h
    have left := takeRun_suffix verbose (· != '\x7d') false cs
    unfold readBracedProperty at h
    dsimp only at h
    split at h
    · cases h
    · rename_i c r found
      rw [found] at left
      cases h
      exact (List.suffix_cons c rest).trans left

theorem readProperty_local (negated : Bool) : Local Past (readProperty verbose negated) := by
  refine Local.skip verbose (f := readPropertyFrom verbose negated) ?_ fun _ _ _ h => h
  refine Local.head (fun _ _ _ h => h) ?_ ?_
  · intro p h
    cases h
  · intro c
    refine Local.ite (c = '\x7b') (readBracedProperty_local verbose negated) ?_
    refine Local.ite (c = '\\') (Local.error _) ?_
    exact (Local.pure (Expr.property negated (.named (String.singleton c)))).skip verbose
      fun _ _ _ h => h

/-- A brace behind `\b` is taken for the beginning of a count if a parenthesis is all that follows
it. -/
def LooseEscape (u : Chars) (e : Expr) (rest : Chars) : Prop :=
  Past u e rest ∨
    e = .anchor .wordBoundary ∧ ∃ r, rest = '\x7b' :: r ∧ skip verbose r = ')' :: u

theorem closeBoundary_local (name : Chars) : Local Past (closeBoundary name) := by
  refine Local.expect (d := '\x7d') (by decide) ?_ ?_
  · cases found : boundaryNames.lookup (String.ofList name) with
    | none =>
      simp only [closeBoundary, found]
      exact Local.error _
    | some a =>
      simp only [closeBoundary, found]
      exact Local.pure _
  · intro cs first p h
    unfold closeBoundary at h
    split at h
    · exact first _ rfl
    · cases h

theorem readBoundary_brace (r : Chars) : readBoundary verbose ('\x7b' :: r) =
    match skip verbose r with
    | [] => .error .boundaryEnd
    | c :: s =>
      if isBoundaryLetter c then
        Except.ok (takeRun verbose isBoundaryLetter false (c :: s)) >>= fun p =>
          closeBoundary p.1 p.2
      else .ok (.anchor .wordBoundary, '\x7b' :: r) := rfl

theorem boundaryName_local : Local Past fun cs =>
    Except.ok (takeRun verbose isBoundaryLetter false cs) >>= fun p => closeBoundary p.1 p.2 :=
  (takeRun_local verbose isBoundaryLetter rfl).andThen (k := fun p => closeBoundary p.1 p.2)
    closeBoundary_local

theorem readBoundary_plain {cs : Chars} (h : ∀ r, cs ≠ '\x7b' :: r) :
    readBoundary verbose cs = .ok (.anchor .wordBoundary, cs) := by
  unfold readBoundary
  split
  · exact absurd rfl (h _)
  · rfl

theorem readBoundary_local : Local (LooseEscape verbose) (readBoundary verbose) where
  extend cs := by
    by_cases brace : ∃ r, cs = '\x7b' :: r
    · obtain ⟨r, rfl⟩ := brace
      have named : Local (LooseEscape verbose) _ :=
        (boundaryName_local verbose).mono fun _ _ _ past => .inl past
      rcases skip_append verbose r with ⟨start, alone, extended⟩ | ⟨alone, extended⟩
      · cases start with
        | nil =>
          refine .beyond ?_ ?_
          · intro p h
            rw [readBoundary_brace, alone] at h
            cases h
          · intro u hu x rest h
            rw [List.cons_append, readBoundary_brace, extended u hu] at h
            cases h
            exact .inr ⟨rfl, _, rfl, extended u hu⟩
        | cons c s =>
          by_cases letter : isBoundaryLetter c = true
          · refine (named.extend (c :: s)).transport ?_ ?_
            · intro p
              rw [readBoundary_brace, alone]
              dsimp only
              rw [if_pos letter]
            · intro u hu p
              rw [List.cons_append, readBoundary_brace, extended u hu, List.cons_append]
              dsimp only
              rw [if_pos letter]
          · refine .same (.anchor .wordBoundary) ('\x7b' :: r) ?_ ?_
            · rw [readBoundary_brace, alone]
              exact if_neg letter
            · intro u hu
              rw [List.cons_append, readBoundary_brace, extended u hu]
              exact if_neg letter
      · refine .beyond ?_ ?_
        · intro p h
          rw [readBoundary_brace, alone] at h
          cases h
        · intro u hu x rest h
          rw [List.cons_append, readBoundary_brace, extended u hu] at h
          cases h
    · have brace := not_exists.1 brace
      exact .same (.anchor .wordBoundary) cs (readBoundary_plain verbose brace) fun u _ =>
        readBoundary_plain verbose (ne_cons_append (by decide) brace u)
  suffix := by
    intro cs x rest h
    by_cases brace : ∃ r, cs = '\x7b' :: r
    · obtain ⟨r, rfl⟩ := brace
      have left := skip_suffix verbose r
      rw [readBoundary_brace] at h
      split at h
      · cases h
      · rename_i c s start
        rw [start] at left
        split at h
        · have closed := (boundaryName_local verbose).suffix (c :: s) x rest h
          exact closed.trans (left.trans (List.suffix_cons _ r))
        · cases h
          exact List.suffix_refl _
    · rw [readBoundary_plain verbose (not_exists.1 brace)] at h
      cases h
      exact List.suffix_refl cs

def plainLetters : List Char :=
  ['d', 'D', 's', 'S', 'w', 'W', 'a', 'f', 't', 'n', 'r', 'v', 'A', 'z', 'B', '<', '>']

theorem readEscape_plain {c : Char} (h : c ∈ plainLetters) :
    ∃ e, ∀ r, readEscape verbose (c :: r) = .ok (e, r) := by
  simp only [plainLetters, List.mem_cons, List.not_mem_nil, or_false] at h
  rcases h with rfl | rfl | rfl | rfl | rfl | rfl | rfl | rfl | rfl | rfl | rfl | rfl | rfl | rfl |
    rfl | rfl | rfl
  all_goals exact ⟨_, fun _ => rfl⟩

theorem readEscape_unknown {c : Char} (plain : c ∉ plainLetters)
    (other : c ∉ ['x', 'u', 'U', 'p', 'P', 'b']) (escapable : ¬isEscapable c = true) (r : Chars)
    (p : Expr × Chars) : readEscape verbose (c :: r) ≠ .ok p := by
  intro h
  unfold readEscape at h
  dsimp only at h
  rw [if_neg escapable] at h
  split at h
  · cases h
  · split at h
    all_goals first
      | exact absurd (by decide) other
      | exact absurd (by decide) plain
      | cases h

theorem readEscape_local : Local (LooseEscape verbose) (readEscape verbose) := by
  have past {f : Reader Expr} (h : Local Past f) : Local (LooseEscape verbose) f :=
    h.mono fun _ _ _ past => .inl past
  refine Local.head (fun _ _ _ past => .inl past) ?_ ?_
  · intro p h
    cases h
  · intro c
    by_cases escapable : isEscapable c = true
    · have read (r : Chars) : readEscape verbose (c :: r) = .ok (.literal ⟨c, false⟩, r) :=
        if_pos escapable
      simp only [read]
      exact Local.pure _
    by_cases plain : c ∈ plainLetters
    · obtain ⟨e, read⟩ := readEscape_plain verbose plain
      simp only [read]
      exact Local.pure e
    by_cases other : c ∈ ['x', 'u', 'U', 'p', 'P', 'b']
    · simp only [List.mem_cons, List.not_mem_nil, or_false] at other
      rcases other with rfl | rfl | rfl | rfl | rfl | rfl
      · exact past (readHex_local verbose 1)
      · exact past (readHex_local verbose 3)
      · exact past (readHex_local verbose 7)
      · exact past (readProperty_local verbose false)
      · exact past (readProperty_local verbose true)
      · exact readBoundary_local verbose
    · refine (Local.error .escapeUnrecognized).congr ?_
      intro r p
      refine iff_of_false (readEscape_unknown verbose plain other escapable r p) ?_
      intro h
      cases h

end Escapes

end SearchQuery.Pattern
