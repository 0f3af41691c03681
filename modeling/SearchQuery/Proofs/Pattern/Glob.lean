import SearchQuery.Pattern.Wildcard
import SearchQuery.Proofs.Pattern.Enclosed
import SearchQuery.Proofs.Pattern.Matching

/-!
# Globs

A wildcard pattern as a list of marks, each of which takes a part of a text.  Main statement: the
regular expression of a wildcard pattern exists, and matches the whole texts that the marks take if
the wildcards among them take every character but a line feed.
-/

set_option autoImplicit false
namespace SearchQuery.Wildcard
open Pattern (Chars Expr IsSelfContained State escapeChar isMeta skipLazy)

/-- What a wildcard pattern is made of: `*`, `?`, and characters that stand for themselves. -/
inductive Mark where
  | run
  | any
  | literal (c : Char)

def marks : Chars → List Mark
  | [] => []
  | '*' :: rest => .run :: marks rest
  | '?' :: rest => .any :: marks rest
  | ['\\'] => [.literal '\\']
  | '\\' :: c :: rest => .literal c :: marks rest
  | c :: rest => .literal c :: marks rest

/-- The marks take a text from its beginning to its end.  `wild` holds of the characters that `*` and
`?` may stand for. -/
def Takes (wild : Char → Prop) : List Mark → Chars → Prop
  | [], cs => cs = []
  | .run :: rest, cs => ∃ part behind, cs = part ++ behind ∧ (∀ c ∈ part, wild c) ∧
    Takes wild rest behind
  | .any :: rest, cs => ∃ c behind, cs = c :: behind ∧ wild c ∧ Takes wild rest behind
  | .literal c :: rest, cs => ∃ behind, cs = c :: behind ∧ Takes wild rest behind

theorem takes_mono {wild wild' : Char → Prop} {ms : List Mark} {cs : Chars}
    (h : ∀ c ∈ cs, wild c → wild' c) (taken : Takes wild ms cs) : Takes wild' ms cs := by
  induction ms generalizing cs with
  | nil => exact taken
  | cons m ms ih =>
    cases m with
    | run =>
      obtain ⟨part, behind, rfl, all, rest⟩ := taken
      refine ⟨part, behind, rfl, ?_, ih ?_ rest⟩
      · intro c mem
        exact h c (List.mem_append_left behind mem) (all c mem)
      · intro c mem
        exact h c (List.mem_append_right part mem)
    | any =>
      obtain ⟨c, behind, rfl, here, rest⟩ := taken
      refine ⟨c, behind, rfl, h c List.mem_cons_self here, ih ?_ rest⟩
      intro d mem
      exact h d (List.mem_cons_of_mem c mem)
    | literal c =>
      obtain ⟨behind, rfl, rest⟩ := taken
      refine ⟨behind, rfl, ih ?_ rest⟩
      intro d mem
      exact h d (List.mem_cons_of_mem c mem)

def Mark.expr : Mark → Expr
  | run => .repetition .dot 0 none
  | any => .dot
  | literal c => .literal ⟨c, false⟩

theorem isMeta_of_operator {c : Char} (h : c ∈ Pattern.operators) : isMeta c = true := by
  have all : Pattern.operators.all isMeta = true := by decide
  exact List.all_eq_true.1 all c h

theorem escapeChar_length (c : Char) : 1 ≤ (escapeChar c).length := by
  unfold escapeChar
  split
  · exact Nat.le_succ 1
  · exact Nat.le_refl 1

theorem readEscape_meta (verbose : Bool) {c : Char} (special : isMeta c = true) (r : Chars) :
    Pattern.readEscape verbose (c :: r) = .ok (.literal ⟨c, false⟩, r) := by
  have escapable : Pattern.isEscapable c = true := by
    unfold Pattern.isEscapable
    rw [special]
    rfl
  unfold Pattern.readEscape
  dsimp only
  rw [if_pos escapable]

section Reading
variable {s : State} (plain : s.level.verbose = false) (n : Nat) (tail : Chars)
include plain

theorem run_plain {c : Char} {r : Chars} {s' : State} {rest : Chars}
    (step : s.step c r = .ok (s', rest)) : State.run (n + 1) s (c :: r) = State.run n s' rest := by
  apply Pattern.run_step _ step
  rw [plain]
  rfl

theorem run_dot : State.run (n + 1) s ('.' :: tail) = State.run n (s.push .dot) tail :=
  run_plain plain n rfl

theorem run_star (h : skipLazy tail = tail) : State.run (n + 2) s ('.' :: '*' :: tail) =
    State.run n (s.push (.repetition .dot 0 none)) tail := by
  rw [run_dot plain]
  apply run_plain (s := s.push .dot) plain
  change Except.ok (s.push (.repetition .dot 0 none), skipLazy tail) = _
  rw [h]

theorem run_escape (c : Char) : State.run (n + 1) s (escapeChar c ++ tail) =
    State.run n (s.push (.literal ⟨c, false⟩)) tail := by
  unfold escapeChar
  by_cases special : isMeta c = true
  · rw [if_pos special]
    apply run_plain plain
    change (Pattern.readEscape s.level.verbose (c :: tail) >>= _) = _
    rw [readEscape_meta s.level.verbose special]
    rfl
  · rw [if_neg special]
    have literal : c ∉ Pattern.operators := by
      intro mem
      exact special (isMeta_of_operator mem)
    exact run_plain plain n (Pattern.step_literal s literal tail)

end Reading

-- What is written for a mark begins with no question mark, which would make a repetition lazy.
theorem skipLazy_escape (c : Char) (r : Chars) :
    skipLazy (escapeChar c ++ r) = escapeChar c ++ r := by
  unfold escapeChar
  by_cases special : isMeta c = true
  · rw [if_pos special]
    rfl
  · rw [if_neg special]
    unfold skipLazy
    split
    · rename_i rest same
      injection same with same
      rw [same] at special
      exact absurd rfl special
    · rfl

theorem skipLazy_toPattern (w : Chars) {tail : Chars} (h : skipLazy tail = tail) :
    skipLazy (toPattern w ++ tail) = toPattern w ++ tail := by
  fun_cases toPattern w with
  | case1 => exact h
  | case2 rest => rfl
  | case3 rest => rfl
  | case4 => rfl
  | case5 c rest =>
    rw [List.append_assoc]
    exact skipLazy_escape c _
  | case6 c rest =>
    rw [List.append_assoc]
    exact skipLazy_escape c _

def pushAll (s : State) (ms : List Mark) : State := ms.foldl (fun s m => s.push m.expr) s

def Reads (cs : Chars) (ms : List Mark) : Prop :=
  ∃ k ≤ cs.length, ∀ (s : State) (n : Nat) (tail : Chars), s.level.verbose = false →
    skipLazy tail = tail → State.run (n + k) s (cs ++ tail) = State.run n (pushAll s ms) tail

theorem reads_nil : Reads [] [] := ⟨0, Nat.le_refl 0, fun _ _ _ _ _ => rfl⟩

theorem reads_literal (c : Char) {cs : Chars} {ms : List Mark} (h : Reads cs ms) :
    Reads (escapeChar c ++ cs) (.literal c :: ms) := by
  obtain ⟨k, few, run⟩ := h
  refine ⟨k + 1, ?_, ?_⟩
  · have one := escapeChar_length c
    rw [List.length_append]
    omega
  · intro s n tail plain solid
    rw [List.append_assoc, ← Nat.add_assoc, run_escape plain]
    exact run (s.push (.literal ⟨c, false⟩)) n tail plain solid

theorem reads_any {cs : Chars} {ms : List Mark} (h : Reads cs ms) :
    Reads ('.' :: cs) (.any :: ms) := by
  obtain ⟨k, few, run⟩ := h
  refine ⟨k + 1, Nat.succ_le_succ few, ?_⟩
  intro s n tail plain solid
  rw [List.cons_append, ← Nat.add_assoc, run_dot plain]
  exact run (s.push .dot) n tail plain solid

theorem reads_run {w : Chars} {ms : List Mark} (h : Reads (toPattern w) ms) :
    Reads ('.' :: '*' :: toPattern w) (.run :: ms) := by
  obtain ⟨k, few, run⟩ := h
  refine ⟨k + 2, Nat.succ_le_succ (Nat.succ_le_succ few), ?_⟩
  intro s n tail plain solid
  have star := run_star plain (n + k) (toPattern w ++ tail) (skipLazy_toPattern w solid)
  rw [List.cons_append, List.cons_append, ← Nat.add_assoc, star]
  exact run (s.push (.repetition .dot 0 none)) n tail plain solid

theorem reads_toPattern (w : Chars) : Reads (toPattern w) (marks w) := by
  fun_induction toPattern w with
  | case1 => exact reads_nil
  | case2 rest ih => exact reads_run ih
  | case3 rest ih => exact reads_any ih
  | case4 => exact reads_literal '\\' reads_nil
  | case5 c rest ih => exact reads_literal c ih
  | case6 c rest star question last backslash ih =>
    rw [marks.eq_6 c rest star question last backslash]
    exact reads_literal c ih

theorem pushAll_eq (s : State) (ms : List Mark) : pushAll s ms =
    { s with level := { s.level with parts := (ms.map Mark.expr).reverse ++ s.level.parts } } := by
  induction ms generalizing s with
  | nil => rfl
  | cons m ms ih =>
    change pushAll (s.push m.expr) ms = _
    rw [ih, List.map_cons, List.reverse_cons, List.append_assoc]
    rfl

/-- The fuel of the reader is enough, and one step is left for what follows the pattern. -/
theorem read_toPattern (w tail : Chars) (solid : skipLazy tail = tail) : ∃ n,
    Expr.read (toPattern w ++ tail) = State.run (n + 1) (pushAll State.start (marks w)) tail := by
  obtain ⟨k, few, run⟩ := reads_toPattern w
  refine ⟨(toPattern w).length - k + tail.length, ?_⟩
  have fuel : (toPattern w ++ tail).length + 1 =
      (toPattern w).length - k + tail.length + 1 + k := by
    rw [List.length_append]
    omega
  rw [Expr.read, fuel]
  exact run State.start _ tail rfl solid

theorem read_marks (w : Chars) :
    Expr.read (toPattern w) = .ok (.sequence ((marks w).map Mark.expr)) := by
  obtain ⟨n, read⟩ := read_toPattern w [] rfl
  rw [List.append_nil] at read
  rw [read, pushAll_eq, Pattern.run_end rfl]
  change Except.ok (Expr.sequence (((marks w).map Mark.expr).reverse ++ []).reverse) = _
  rw [List.append_nil, List.reverse_reverse]

theorem isSelfContained_toPattern (w : Chars) : IsSelfContained (toPattern w) := by
  obtain ⟨n, read⟩ := read_toPattern w [')'] rfl
  rw [IsSelfContained, read_marks]
  dsimp only
  rw [read, pushAll_eq, Pattern.run_succ]
  rfl

def takesWild (c : Char) : Bool := c != '\n'

def Mark.regex : Mark → Regex
  | run => .repetition (.one takesWild) 0 none
  | any => .one takesWild
  | literal c => .one fun x => x == c

theorem regexes_marks (ms : List Mark) :
    Pattern.regexes {} (ms.map Mark.expr) = .ok (ms.map Mark.regex, {}) := by
  induction ms with
  | nil => rfl
  | cons m ms ih =>
    rw [List.map_cons, Pattern.regexes]
    cases m with
    | run =>
      change (Pattern.regexes {} (ms.map Mark.expr) >>= _) = _
      rw [ih]
      rfl
    | any =>
      change (Pattern.regexes {} (ms.map Mark.expr) >>= _) = _
      rw [ih]
      rfl
    | literal c =>
      change (Pattern.regexes {} (ms.map Mark.expr) >>= _) = _
      rw [ih]
      rfl

theorem ofPattern_toPattern (w : Chars) : Regex.ofPattern (String.ofList (toPattern w)) =
    .ok (.sequence ((marks w).map Mark.regex)) := by
  have meaning : (Expr.sequence ((marks w).map Mark.expr)).regex {} =
      .ok (.sequence ((marks w).map Mark.regex), {}) := by
    rw [Expr.regex, regexes_marks]
    rfl
  rw [Regex.ofPattern, String.toList_ofList, read_marks]
  change ((Expr.sequence ((marks w).map Mark.expr)).regex {} >>= _) = _
  rw [meaning]
  rfl

section Matches
open Regex (Spans SpansAll Steps)

theorem getElem?_behind (done cs : Chars) : (done ++ cs).toArray[done.length]? = cs.head? := by
  rw [List.getElem?_toArray, List.getElem?_append_right (Nat.le_refl _), Nat.sub_self]
  cases cs <;> rfl

theorem spans_one {accepts : Char → Bool} {done cs : Chars} {j : Nat} :
    Spans (done ++ cs).toArray (.one accepts) done.length j ↔
      ∃ c behind, cs = c :: behind ∧ accepts c = true ∧ j = (done ++ [c]).length := by
  have next := getElem?_behind done cs
  rw [Spans]
  dsimp only
  simp only [next, List.length_append, List.length_singleton]
  cases cs with
  | nil => simp
  | cons c behind => simp

theorem steps_one {accepts : Char → Bool} {n j : Nat} {done cs : Chars} :
    Steps (Spans (done ++ cs).toArray (.one accepts)) n done.length j ↔
      ∃ part behind, cs = part ++ behind ∧ part.length = n ∧ (∀ c ∈ part, accepts c = true) ∧
        j = (done ++ part).length := by
  induction n generalizing done cs j with
  | zero =>
    constructor
    · intro h
      exact ⟨[], cs, rfl, rfl, by simp, by simpa using h.symm⟩
    · rintro ⟨part, behind, rfl, empty, -, rfl⟩
      rw [List.length_eq_zero_iff.1 empty, List.append_nil]
      rfl
  | succ n ih =>
    constructor
    · rintro ⟨k, first, others⟩
      obtain ⟨c, rest, rfl, here, rfl⟩ := spans_one.1 first
      rw [List.append_cons done c rest] at others
      obtain ⟨part, behind, rfl, length, all, rfl⟩ := ih.1 others
      refine ⟨c :: part, behind, rfl, congrArg (· + 1) length, ?_, ?_⟩
      · simpa [here] using all
      · rw [List.append_cons done c part]
    · rintro ⟨part, behind, rfl, length, all, rfl⟩
      cases part with
      | nil => cases length
      | cons c part =>
        refine ⟨(done ++ [c]).length, ?_, ?_⟩
        · exact spans_one.2 ⟨c, part ++ behind, rfl, all c List.mem_cons_self, rfl⟩
        · rw [List.cons_append, List.append_cons done c (part ++ behind),
            List.append_cons done c part]
          have rest : ∀ d ∈ part, accepts d = true := fun d mem =>
            all d (List.mem_cons_of_mem c mem)
          exact ih.2 ⟨part, behind, rfl, Nat.succ.inj length, rest, rfl⟩

theorem spansAll_marks {ms : List Mark} {done cs : Chars} :
    SpansAll (done ++ cs).toArray (ms.map Mark.regex) done.length (done ++ cs).length ↔
      Takes (fun c => takesWild c = true) ms cs := by
  induction ms generalizing done cs with
  | nil =>
    change done.length = (done ++ cs).length ↔ cs = []
    rw [List.length_append]
    constructor
    · intro h
      exact List.length_eq_zero_iff.1 (by omega)
    · rintro rfl
      rfl
  | cons m ms ih =>
    cases m with
    | run =>
      constructor
      · rintro ⟨k, ⟨more, -, steps⟩, rest⟩
        obtain ⟨part, behind, rfl, -, all, rfl⟩ := steps_one.1 steps
        rw [← List.append_assoc] at rest
        exact ⟨part, behind, rfl, all, ih.1 rest⟩
      · rintro ⟨part, behind, rfl, all, rest⟩
        refine ⟨(done ++ part).length, ⟨part.length, ?_, ?_⟩, ?_⟩
        · intro m absent
          cases absent
        · rw [Nat.zero_add]
          exact steps_one.2 ⟨part, behind, rfl, rfl, all, rfl⟩
        · rw [← List.append_assoc]
          exact ih.2 rest
    | any =>
      constructor
      · rintro ⟨k, first, rest⟩
        obtain ⟨c, behind, rfl, here, rfl⟩ := spans_one.1 first
        rw [List.append_cons done c behind] at rest
        exact ⟨c, behind, rfl, here, ih.1 rest⟩
      · rintro ⟨c, behind, rfl, here, rest⟩
        refine ⟨(done ++ [c]).length, spans_one.2 ⟨c, behind, rfl, here, rfl⟩, ?_⟩
        rw [List.append_cons done c behind]
        exact ih.2 rest
    | literal c =>
      constructor
      · rintro ⟨k, first, rest⟩
        obtain ⟨d, behind, rfl, here, rfl⟩ := spans_one.1 first
        obtain rfl : d = c := eq_of_beq here
        rw [List.append_cons done d behind] at rest
        exact ⟨behind, rfl, ih.1 rest⟩
      · rintro ⟨behind, rfl, rest⟩
        refine ⟨(done ++ [c]).length, spans_one.2 ⟨c, behind, rfl, beq_self_eq_true c, rfl⟩, ?_⟩
        rw [List.append_cons done c behind]
        exact ih.2 rest

theorem matchesWhole_marks (ms : List Mark) (text : String) :
    (Regex.sequence (ms.map Mark.regex)).MatchesWhole text ↔
      Takes (· ≠ '\n') ms text.toList := by
  have wild : (fun c => takesWild c = true) = (· ≠ '\n') := by
    funext c
    exact propext bne_iff_ne
  rw [← wild]
  exact @spansAll_marks ms [] text.toList

end Matches

end SearchQuery.Wildcard
