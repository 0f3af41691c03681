import SearchQuery.Proofs.Query.Calls
import SearchQuery.Proofs.Text.Spans

/-!
# The places of the parser

A run of the parser goes through a text from place to place (`Path`), each on a character boundary
and none before the last.  Every clause that is read ends behind where it begins.  Main statement:
so it is for every text, and every fault names one of these places.
-/

set_option autoImplicit false
namespace SearchQuery

namespace Grammar

namespace Cursor
variable {b c k : Cursor}

def Reaches (c k : Cursor) : Prop :=
  ∃ taken, c.rest = taken ++ k.rest ∧ k.offset = c.offset + byteLength taken

theorem Reaches.refl (c : Cursor) : c.Reaches c := ⟨[], rfl, rfl⟩

theorem Reaches.trans (first : b.Reaches c) (second : c.Reaches k) : b.Reaches k := by
  obtain ⟨s, rest, offset⟩ := first
  obtain ⟨t, rest', offset'⟩ := second
  refine ⟨s ++ t, ?_, ?_⟩
  · rw [rest, rest', List.append_assoc]
  · rw [offset', offset, byteLength_append, Nat.add_assoc]

theorem Reaches.char (offset : Nat) (d : Char) (r : List Char) :
    Reaches ⟨offset, d :: r⟩ ⟨offset + d.utf8Size, r⟩ := ⟨[d], rfl, rfl⟩

theorem Reaches.offset_le (h : c.Reaches k) : c.offset ≤ k.offset := by
  obtain ⟨taken, -, offset⟩ := h
  exact offset ▸ Nat.le_add_right ..

theorem Reaches.offset_lt (h : c.Reaches k) (shorter : k.rest.length < c.rest.length) :
    c.offset < k.offset := by
  obtain ⟨taken, rest, offset⟩ := h
  cases taken with
  | nil =>
    rw [rest] at shorter
    exact absurd shorter (Nat.lt_irrefl _)
  | cons d taken =>
    have size := d.utf8Size_pos
    rw [offset, byteLength]
    omega

/-- So many bytes of the text stand before the place, and the rest of it behind. -/
def IsIn (text : String) (c : Cursor) : Prop :=
  ∃ before, text = before ++ String.ofList c.rest ∧ c.offset = before.utf8ByteSize

theorem isIn_iff {text : String} : c.IsIn text ↔ Reaches ⟨0, text.toList⟩ c := by
  constructor
  · rintro ⟨before, rfl, offset⟩
    refine ⟨before.toList, ?_, ?_⟩
    · rw [String.toList_append, String.toList_ofList]
    · rw [offset, byteLength_eq, String.ofList_toList, Nat.zero_add]
  · rintro ⟨taken, rest, offset⟩
    refine ⟨String.ofList taken, ?_, ?_⟩
    · rw [← String.ofList_append, ← rest, String.ofList_toList]
    · rw [offset, byteLength_eq, Nat.zero_add]

theorem IsIn.boundary {text : String} (h : c.IsIn text) :
    c.offset ≤ text.utf8ByteSize ∧ (String.Pos.Raw.mk c.offset).IsValid text := by
  obtain ⟨before, split, offset⟩ := h
  have valid : (String.Pos.Raw.mk c.offset).IsValid text :=
    String.Pos.Raw.isValid_iff_exists_append.2 ⟨before, _, split, congrArg _ offset⟩
  exact ⟨valid.le_rawEndPos, valid⟩

end Cursor

open Cursor

inductive Path : Cursor → List Call → Cursor → Prop
  | nil {c k : Cursor} (h : c.Reaches k) : Path c [] k
  | cons {c k : Cursor} {call : Call} {calls : List Call} (inner : call.procedure ≠ .clause)
      (h : c.Reaches call.cursor) (path : Path call.cursor calls k) : Path c (call :: calls) k

namespace Path
variable {b c k j : Cursor} {calls later : List Call}

theorem reaches (path : Path c calls k) : c.Reaches k := by
  induction path with
  | nil h => exact h
  | cons _ h _ ih => exact h.trans ih

theorem after (h : b.Reaches c) (path : Path c calls k) : Path b calls k := by
  cases path with
  | nil h' => exact .nil (h.trans h')
  | cons inner h' path => exact .cons inner (h.trans h') path

theorem append (first : Path c calls k) (second : Path k later j) : Path c (calls ++ later) j := by
  induction first with
  | nil h => exact second.after h
  | cons inner h _ ih => exact .cons inner h (ih second)

theorem here {p : Procedure} (inner : p ≠ .clause) (path : Path c calls k) :
    Path c (⟨p, c⟩ :: calls) k := .cons inner (.refl c) path

theorem pass {p : Procedure} (inner : p ≠ .clause) {offset : Nat} (d : Char) {r : List Char}
    (path : Path ⟨offset + d.utf8Size, r⟩ calls k) :
    Path ⟨offset, d :: r⟩ (⟨p, ⟨offset, d :: r⟩⟩ :: calls) k :=
  .here inner (path.after (.char offset d r))

theorem mem (path : Path c calls k) {call : Call} (h : call ∈ calls) :
    call.procedure ≠ .clause ∧ c.Reaches call.cursor ∧ call.cursor.Reaches k := by
  induction path with
  | nil => cases h
  | cons inner h' path ih =>
    rcases List.mem_cons.1 h with rfl | h
    · exact ⟨inner, h', path.reaches⟩
    · obtain ⟨other, before, behind⟩ := ih h
      exact ⟨other, h'.trans before, behind⟩

end Path

namespace Traced

section Loops
variable {p : Procedure} {stops : Char → Bool} {escapes : Bool} {offset : Nat} {c : Char}
  {cs r : List Char}

theorem scan_stop (plain : escapes = false ∨ c ≠ '\\') (stop : stops c = true) :
    scan p stops escapes offset (c :: r) = [⟨p, ⟨offset, c :: r⟩⟩] := by
  have other : ¬(escapes && c == '\\') = true := by
    rcases plain with rfl | plain <;> simp [*]
  rw [scan.eq_def]
  simp only [if_neg other, if_pos stop]

theorem scan_pass (plain : escapes = false ∨ c ≠ '\\') (go : stops c = false) :
    scan p stops escapes offset (c :: r) =
      ⟨p, ⟨offset, c :: r⟩⟩ :: scan p stops escapes (offset + c.utf8Size) r := by
  have other : ¬(escapes && c == '\\') = true := by
    rcases plain with rfl | plain <;> simp [*]
  rw [scan.eq_def]
  simp only [if_neg other, go, Bool.false_eq_true, if_false]

theorem scan_path (inner : p ≠ .clause) (stops : Char → Bool) (escapes : Bool) (offset : Nat)
    (cs : List Char) : ∃ k, Path ⟨offset, cs⟩ (scan p stops escapes offset cs) k := by
  fun_induction scan p stops escapes offset cs with
  | case1 => exact ⟨_, .here inner (.nil (.refl _))⟩
  | case2 offset c backslash =>
    obtain rfl : c = '\\' := eq_of_beq (Bool.and_eq_true_iff.1 backslash).2
    exact ⟨_, .pass inner '\\' (.here inner (.nil (.refl _)))⟩
  | case3 offset c backslash d r ih =>
    obtain rfl : c = '\\' := eq_of_beq (Bool.and_eq_true_iff.1 backslash).2
    obtain ⟨k, path⟩ := ih
    exact ⟨k, .pass inner '\\' (.pass inner d path)⟩
  | case4 => exact ⟨_, .here inner (.nil (.refl _))⟩
  | case5 offset c r plain go ih =>
    obtain ⟨k, path⟩ := ih
    exact ⟨k, .pass inner c path⟩

theorem blank_path (c : Cursor) : Path c (blank c) c.skipBlank := by
  obtain ⟨offset, cs⟩ := c
  change Path ⟨offset, cs⟩ (scan .blank (!isBlank ·) false offset cs) (blankFrom offset cs)
  fun_induction blankFrom offset cs with
  | case1 => exact .here (by decide) (.nil (.refl _))
  | case2 offset c r blank ih =>
    rw [scan_pass (.inl rfl) (by rw [blank]; rfl)]
    exact .pass (by decide) c ih
  | case3 offset c r dark =>
    rw [scan_stop (.inl rfl) (by rw [Bool.eq_false_of_not_eq_true dark]; rfl)]
    exact .here (by decide) (.nil (.refl _))

theorem word_path (c : Cursor) : Path c (word c) c.word.2 := by
  obtain ⟨offset, cs⟩ := c
  change Path ⟨offset, cs⟩ (scan .word endsWord true offset cs) (wordFrom offset cs).2
  fun_induction wordFrom offset cs with
  | case1 => exact .here (by decide) (.nil (.refl _))
  | case2 => exact .pass (by decide) '\\' (.here (by decide) (.nil (.refl _)))
  | case3 offset d r word cursor read ih =>
    rw [read] at ih
    exact .pass (by decide) '\\' (.pass (by decide) d ih)
  | case4 offset c r plain ends =>
    rw [scan_stop (.inr plain) ends]
    exact .here (by decide) (.nil (.refl _))
  | case5 offset c r plain inside word cursor read ih =>
    rw [read] at ih
    rw [scan_pass (.inr plain) (Bool.eq_false_of_not_eq_true inside)]
    exact .pass (by decide) c ih

theorem utf8Size_of_isNumeralChar (h : isNumeralChar c = true) : c.utf8Size = 1 := by
  simp only [isNumeralChar, Decimal.isDigit, Bool.or_eq_true, Bool.and_eq_true, decide_eq_true_eq,
    beq_iff_eq] at h
  rcases h with ⟨-, le⟩ | rfl
  · exact Char.utf8Size_eq_one_iff.2 (UInt32.le_trans le (by decide))
  · rfl

theorem numeral_path (c : Cursor) : Path c (numeral c) c.numeral.2 := by
  obtain ⟨offset, cs⟩ := c
  change Path ⟨offset, cs⟩ (scan .numeral (!isNumeralChar ·) false offset cs)
    ⟨offset + (cs.takeWhile isNumeralChar).length, cs.dropWhile isNumeralChar⟩
  induction cs generalizing offset with
  | nil => exact .here (by decide) (.nil (.refl _))
  | cons d r ih =>
    cases digit : isNumeralChar d with
    | false =>
      rw [scan_stop (.inl rfl) (by rw [digit]; rfl),
        List.takeWhile_cons_of_neg (by rw [digit]; decide),
        List.dropWhile_cons_of_neg (by rw [digit]; decide)]
      exact .here (by decide) (.nil (.refl _))
    | true =>
      rw [scan_pass (.inl rfl) (by rw [digit]; rfl), List.takeWhile_cons_of_pos digit,
        List.dropWhile_cons_of_pos digit]
      have path := ih (offset + d.utf8Size)
      have behind : offset + d.utf8Size + (r.takeWhile isNumeralChar).length =
          offset + (d :: r.takeWhile isNumeralChar).length := by
        rw [utf8Size_of_isNumeralChar digit, List.length_cons]
        omega
      rw [behind] at path
      exact .pass (by decide) d path

theorem closing_path (inner : p ≠ .clause) {mark : Char} (ascii : mark.utf8Size = 1)
    (plain : mark ≠ '\\') {k : Cursor} (h : closing mark offset cs = some k) :
    Path ⟨offset, cs⟩ (scan p (· == mark) true offset cs) k := by
  fun_induction closing mark offset cs with
  | case1 => cases h
  | case2 offset r =>
    cases h
    have stop : scan p (· == mark) true offset (mark :: r) = [⟨p, ⟨offset, mark :: r⟩⟩] :=
      scan_stop (.inr plain) (beq_self_eq_true mark)
    rw [stop]
    exact .here inner (.nil (ascii ▸ .char offset mark r))
  | case3 => cases h
  | case4 offset d r _ ih => exact .pass inner '\\' (.pass inner d (ih h))
  | case5 offset c r other unescaped ih =>
    rw [scan_pass (.inr unescaped) (by simpa using other)]
    exact .pass inner c (ih h)

end Loops

end Traced

def Fault.offset : Fault → Nat
  | danglingSign _ n => n
  | emptyField n => n
  | unexpected _ n => n
  | missingValue _ n => n
  | missingOperand n _ => n
  | openPhrase n => n
  | openPattern n => n
  | boost _ n => n
  | edits _ n => n

/-- The message says at which byte, and after that at most what stands there. -/
def Names (message : String) (n : Nat) : Prop :=
  ∃ lead tail, message = lead ++ "offset " ++ toString n ++ tail ∧
    (tail = "" ∨ ∃ found, tail = ", found '" ++ found ++ "'")

namespace Names
variable {text lead : String}

theorem last (ends : text = lead ++ "offset ") (n : Nat) : Names (text ++ toString n) n :=
  ⟨lead, "", by rw [ends, String.append_empty], .inl rfl⟩

theorem behind (before : String) (ends : text = lead ++ "offset ") (n : Nat) :
    Names (before ++ text ++ toString n) n := by
  have whole : before ++ text = before ++ lead ++ "offset " := by rw [ends, String.append_assoc]
  exact .last whole n

theorem found (ends : text = lead ++ "offset ") (n : Nat) (found : String) :
    Names (text ++ toString n ++ ", found '" ++ found ++ "'") n := by
  refine ⟨lead, ", found '" ++ found ++ "'", ?_, .inr ⟨found, rfl⟩⟩
  rw [← ends, ← String.append_assoc, ← String.append_assoc]

end Names

theorem Fault.message_names (e : Fault) : Names e.message e.offset := by
  have quoted : "' at offset " = "' at " ++ "offset " := by decide
  have field : ":' at offset " = ":' at " ++ "offset " := by decide
  have empty : "empty field name at offset " = "empty field name at " ++ "offset " := by decide
  have operand : "expected a number or quoted date at offset " =
      "expected a number or quoted date at " ++ "offset " := by decide
  have phrase : "unterminated phrase starting at offset " =
      "unterminated phrase starting at " ++ "offset " := by decide
  have pattern : "unterminated regexp starting at offset " =
      "unterminated regexp starting at " ++ "offset " := by decide
  unfold message offset
  cases e with
  | danglingSign sign n => exact .behind _ quoted n
  | emptyField n => exact .last empty n
  | unexpected found n => exact .behind _ quoted n
  | missingValue name n => exact .behind _ field n
  | missingOperand n found => exact .found operand n found
  | openPhrase n => exact .last phrase n
  | openPattern n => exact .last pattern n
  | boost digits n => exact .behind _ quoted n
  | edits digits n => exact .behind _ quoted n

namespace Traced
variable {α β : Type} {b c k : Cursor}

/-- The procedure goes along a path from the second place, to what it leaves if it succeeds.  A
fault is at a place behind the first. -/
inductive Follows (b c : Cursor) : Traced (α × Cursor) → Prop
  | ok {calls : List Call} {k : Cursor} (x : α) (path : Path c calls k) :
    Follows b c ⟨calls, .ok (x, k)⟩
  | error {calls : List Call} {k place : Cursor} {e : Fault} (path : Path c calls k)
    (behind : b.Reaches place) (named : e.offset = place.offset) : Follows b c ⟨calls, .error e⟩

namespace Follows
variable {t : Traced (α × Cursor)}

theorem after {calls : List Call} (path : Path c calls k) (h : Follows b k t) :
    Follows b c (.after calls t) := by
  cases h with
  | ok x path' => exact .ok x (path.append path')
  | error path' behind named => exact .error (path.append path') behind named

theorem enter {p : Procedure} (inner : p ≠ .clause) (h : Follows b c t) :
    Follows b c (.enter p c t) := h.after (.here inner (.nil (.refl c)))

theorem behind {offset : Nat} (d : Char) {r : List Char}
    (h : Follows b ⟨offset + d.utf8Size, r⟩ t) : Follows b ⟨offset, d :: r⟩ t := by
  have path : Path ⟨offset, d :: r⟩ [] ⟨offset + d.utf8Size, r⟩ := .nil (.char offset d r)
  exact h.after path

theorem map (f : α → β) (h : Follows b c t) : Follows b c (t.map f) := by
  cases h with
  | ok x path => exact .ok (f x) path
  | error path behind named => exact .error path behind named

theorem result (x : α) : Follows b c (.pure (.ok (x, c))) := .ok x (.nil (.refl c))

theorem fault {e : Fault} {place : Cursor} (behind : b.Reaches place)
    (named : e.offset = place.offset) : Follows b c (.pure (.error e) : Traced (α × Cursor)) :=
  .error (.nil (.refl c)) behind named

end Follows

section Procedures
variable (h : b.Reaches c)
include h

theorem enclosed_follows {p : Procedure} (inner : p ≠ .clause) {mark : Char}
    (ascii : mark.utf8Size = 1) (plain : mark ≠ '\\') {offset : Nat} {r : List Char}
    {read : Option (List Char × Cursor)} (closes : read.map (·.2) = closing mark offset r)
    {e : Fault} (named : e.offset = c.offset) :
    Follows b ⟨offset, r⟩
      (.after (scan p (· == mark) true offset r) (.pure (enclosed e read))) := by
  cases read with
  | some read => exact .after (closing_path inner ascii plain closes.symm) (.result _)
  | none =>
    obtain ⟨k, path⟩ := scan_path inner (· == mark) true offset r
    exact .after path (.fault h named)

theorem phrase_follows (quote : c.rest.head? = some '"') : Follows b c (phrase c) := by
  obtain ⟨offset, cs⟩ := c
  obtain ⟨r, rfl⟩ := List.head?_eq_some_iff.1 quote
  have inner : Procedure.phrase ≠ .clause := by decide
  exact .enter inner (.behind '"'
    (enclosed_follows h inner (by decide) (by decide) (quotedFrom_closing _ _) rfl))

theorem pattern_follows (slash : c.rest.head? = some '/') : Follows b c (pattern c) := by
  obtain ⟨offset, cs⟩ := c
  obtain ⟨r, rfl⟩ := List.head?_eq_some_iff.1 slash
  have inner : Procedure.pattern ≠ .clause := by decide
  exact .enter inner (.behind '/'
    (enclosed_follows h inner (by decide) (by decide) (patternFrom_closing _ _) rfl))

theorem edits_follows : Follows b c (edits c) := by
  refine .enter (by decide) (.after (numeral_path c) ?_)
  unfold parseEdits
  dsimp only
  split
  · exact .result _
  · split
    · exact .result _
    · exact .fault h rfl

theorem text_follows (field : String) (word : List Char) : Follows b c (text field word c) := by
  refine .enter (by decide) ?_
  obtain ⟨offset, cs⟩ := c
  split
  · rename_i r tilde
    obtain rfl : cs = '~' :: r := tilde
    exact .behind '~' ((edits_follows (h.trans (.char offset '~' r))).map _)
  · exact .result _

theorem operand_follows (field : String) (lower inclusive : Bool) :
    Follows b c (operand field lower inclusive c) := by
  refine .enter (by decide) ?_
  split
  · rename_i r quote
    exact (phrase_follows h (by rw [quote]; rfl)).map _
  · refine .after (word_path c) ?_
    split
    · exact .result _
    · exact .fault h rfl

theorem comparison_follows (field : String) (lower : Bool) :
    Follows b c (comparison field lower c) := by
  refine .enter (by decide) ?_
  obtain ⟨offset, cs⟩ := c
  split
  · rename_i r equals
    obtain rfl : cs = '=' :: r := equals
    exact .behind '=' (operand_follows (h.trans (.char offset '=' r)) field lower true)
  · exact operand_follows h field lower false

theorem value_follows (field : String) : Follows b c (value field c) := by
  refine .enter (by decide) ?_
  obtain ⟨offset, cs⟩ := c
  split
  · exact .fault h rfl
  · rename_i r quote
    exact (phrase_follows h (by rw [quote]; rfl)).map _
  · rename_i r slash
    exact (pattern_follows h (by rw [slash]; rfl)).map _
  · rename_i r above
    obtain rfl : cs = '>' :: r := above
    exact .behind '>' (comparison_follows (h.trans (.char offset '>' r)) field true)
  · rename_i r below
    obtain rfl : cs = '<' :: r := below
    exact .behind '<' (comparison_follows (h.trans (.char offset '<' r)) field false)
  · have path := word_path ⟨offset, cs⟩
    refine .after path ?_
    split
    · exact .fault h rfl
    · exact text_follows (h.trans path.reaches) field _

theorem behind_follows (word : List Char) {k : Cursor} (reached : c.Reaches k) :
    Follows b k (behind word c.offset k) := by
  have h' := h.trans reached
  obtain ⟨offset, cs⟩ := k
  unfold behind
  split
  · rename_i r colon
    obtain rfl : cs = ':' :: r := colon
    split
    · exact .fault h rfl
    · exact .behind ':' (value_follows (h'.trans (.char offset ':' r)) _)
  · split
    · exact .fault h' rfl
    · exact text_follows h' "" word

theorem atom_follows : Follows b c (atom c) := by
  refine .enter (by decide) ?_
  split
  · rename_i r quote
    exact (phrase_follows h (by rw [quote]; rfl)).map _
  · rename_i r slash
    exact (pattern_follows h (by rw [slash]; rfl)).map _
  · have path := word_path c
    exact .after path (behind_follows h _ path.reaches)

theorem boost_follows (q : Query) : Follows b c (boost q c) := by
  refine .enter (by decide) ?_
  obtain ⟨offset, cs⟩ := c
  split
  · rename_i r caret
    obtain rfl : cs = '^' :: r := caret
    have start := h.trans (.char offset '^' r)
    refine .behind '^' (.after (numeral_path ⟨offset + 1, r⟩) ?_)
    unfold parseBoost
    split
    · rename_i r' caret
      obtain rfl : r = r' := (List.cons.inj caret).2
      dsimp only
      split
      · split
        · exact .result _
        · exact .fault start rfl
      · exact .fault start rfl
    · rename_i other
      exact absurd rfl (other r)
  · exact .result _

theorem body_follows : Follows b c (body c) := by
  refine .enter (by decide) ?_
  have first := atom_follows h
  revert first
  generalize atom c = t
  intro first
  cases first with
  | ok q path => exact .after path (boost_follows (h.trans path.reaches) q)
  | error path behind named => exact .after path (.fault behind named)

theorem signed_follows (sign : String) : Follows b c (signed sign b.offset c) := by
  refine .enter (by decide) ?_
  split
  · exact .fault (.refl b) rfl
  · split
    · exact .fault (.refl b) rfl
    · exact body_follows h

end Procedures

theorem clause_follows (c : Cursor) : Follows c c (clause c) := by
  obtain ⟨offset, cs⟩ := c
  unfold clause
  split
  · rename_i r plus
    obtain rfl : cs = '+' :: r := plus
    exact .behind '+' ((signed_follows (.char offset '+' r) "+").map _)
  · rename_i r minus
    obtain rfl : cs = '-' :: r := minus
    exact .behind '-' ((signed_follows (.char offset '-' r) "-").map _)
  · exact (body_follows (.refl _)).map _

end Traced

/-- The second call does not look at an earlier place, and if both are for clauses it looks at a
later one. -/
def Call.Before (x y : Call) : Prop :=
  x.cursor.Reaches y.cursor ∧
    (x.procedure = .clause → y.procedure = .clause → x.cursor.offset < y.cursor.offset)

/-- Calls from a place on, in the order of their places. -/
structure Ordered (c : Cursor) (calls : List Call) : Prop where
  reached : ∀ call ∈ calls, c.Reaches call.cursor
  pairwise : calls.Pairwise Call.Before

section Runs
variable {c k j : Cursor} {calls later : List Call}

theorem Path.ordered (path : Path c calls k) (behind : Ordered k later) :
    Ordered c (calls ++ later) := by
  induction path with
  | nil h => exact ⟨fun call hc => h.trans (behind.reached call hc), behind.pairwise⟩
  | @cons c k call calls inner h path ih =>
    have others := ih behind
    refine ⟨List.forall_mem_cons.2 ⟨h, fun x hx => h.trans (others.reached x hx)⟩,
      .cons (fun x hx => ?_) others.pairwise⟩
    exact ⟨others.reached x hx, fun clause => absurd clause inner⟩

theorem Ordered.clause (h : Ordered k calls)
    (later : ∀ x ∈ calls, x.procedure = .clause → k.offset < x.cursor.offset) :
    Ordered k (⟨.clause, k⟩ :: calls) where
  reached := List.forall_mem_cons.2 ⟨.refl k, h.reached⟩
  pairwise := .cons (fun x hx => ⟨h.reached x hx, fun _ clause => later x hx clause⟩) h.pairwise

theorem Path.clause (path : Path k calls j) (moved : later = [] ∨ k.offset < j.offset)
    (behind : Ordered j later) : Ordered k (⟨.clause, k⟩ :: (calls ++ later)) := by
  refine (path.ordered behind).clause fun x hx clause => ?_
  rcases List.mem_append.1 hx with hx | hx
  · exact absurd clause (path.mem hx).1
  · rcases moved with rfl | moved
    · cases hx
    · exact Nat.lt_of_lt_of_le moved (behind.reached x hx).offset_le

theorem Ordered.nil (c : Cursor) : Ordered c [] := ⟨nofun, .nil⟩

end Runs

namespace Traced
variable {c k : Cursor}

theorem clause_path {clause : Occur × Query} (h : parseClause c = .ok (clause, k)) :
    Path c (Traced.clause c).calls k ∧ c.offset < k.offset := by
  -- A clause takes a character, and no character is without a byte.
  have shorter := parseClause_length h
  have follows := clause_follows c
  rw [← clause_result] at h
  generalize Traced.clause c = t at follows h
  cases follows with
  | ok x path =>
    cases h
    exact ⟨path, path.reaches.offset_lt shorter⟩
  | error => cases h

theorem clause_fault {e : Fault} (h : parseClause c = .error e) :
    (∃ j, Path c (Traced.clause c).calls j) ∧
      ∃ place, c.Reaches place ∧ e.offset = place.offset := by
  have follows := clause_follows c
  rw [← clause_result] at h
  generalize Traced.clause c = t at follows h
  cases follows with
  | ok => cases h
  | error path behind named =>
    cases h
    exact ⟨⟨_, path⟩, _, behind, named⟩

theorem clauses_ordered (c : Cursor) : Ordered c (clauses c).calls := by
  -- By the clauses: those that are left begin where the first one ends.
  fun_induction parseClauses c with
  | case1 c k none =>
    rw [clauses_nil none]
    exact (blank_path c).ordered (.nil _)
  | case2 c k some e h =>
    rw [clauses_error some h]
    obtain ⟨⟨j, path⟩, -⟩ := clause_fault h
    exact (blank_path c).ordered (path.clause (.inl rfl) (.nil j))
  | case3 c k some first j h ih =>
    rw [clauses_cons some h]
    obtain ⟨path, moved⟩ := clause_path h
    exact (blank_path c).ordered (path.clause (.inr moved) ih)

def clauseCalls (calls : List Call) : Nat := calls.countP (·.procedure = .clause)

theorem clauseCalls_path {calls : List Call} (path : Path c calls k) : clauseCalls calls = 0 := by
  refine List.countP_eq_zero.2 fun call h => ?_
  simpa using (path.mem h).1

theorem clauseCalls_clause {j : Cursor} {blank inner : List Call} (before : Path c blank k)
    (path : Path k inner j) (later : List Call) :
    clauseCalls (blank ++ ⟨.clause, k⟩ :: (inner ++ later)) = clauseCalls later + 1 := by
  have none := clauseCalls_path before
  have none' := clauseCalls_path path
  unfold clauseCalls at none none' ⊢
  rw [List.countP_append, List.countP_cons_of_pos (by simp), List.countP_append, none, none']
  omega

/-- The loop over the clauses ends: it goes round at most once for each character. -/
theorem clauseCalls_le (c : Cursor) : clauseCalls (clauses c).calls ≤ c.rest.length := by
  fun_induction parseClauses c with
  | case1 c k none =>
    have path := (blank_path c).append (.nil (.refl _))
    rw [clauses_nil none]
    exact Nat.le_trans (Nat.le_of_eq (clauseCalls_path path)) (Nat.zero_le _)
  | case2 c k some e h =>
    obtain ⟨⟨j, path⟩, -⟩ := clause_fault h
    have shorter : k.rest.length ≤ c.rest.length := blankFrom_length c.offset c.rest
    have more : 0 < k.rest.length := List.length_pos_iff.2 fun nil => some (List.isEmpty_iff.2 nil)
    have count := clauseCalls_clause (blank_path c) path []
    rw [clauses_error some h]
    exact Nat.le_trans (Nat.le_of_eq count) (Nat.le_trans more shorter)
  | case3 c k some first j h ih =>
    obtain ⟨path, -⟩ := clause_path h
    have shorter : k.rest.length ≤ c.rest.length := blankFrom_length c.offset c.rest
    have taken := parseClause_length h
    have count := clauseCalls_clause (blank_path c) path (clauses j).calls
    rw [clauses_cons some h]
    refine Nat.le_trans (Nat.le_of_eq count) ?_
    omega

end Traced

theorem parseClauses_fault {c : Cursor} {e : Fault} (h : parseClauses c = .error e) :
    ∃ place, c.Reaches place ∧ e.offset = place.offset := by
  fun_induction parseClauses c with
  | case1 => cases h
  | case2 c k some e' fails =>
    cases h
    obtain ⟨-, place, behind, named⟩ := Traced.clause_fault fails
    exact ⟨place, (Traced.blank_path c).reaches.trans behind, named⟩
  | case3 c k some first j read ih =>
    obtain ⟨place, behind, named⟩ := ih (map_eq_error.1 h)
    have path := (Traced.clause_path read).1
    exact ⟨place, ((Traced.blank_path c).reaches.trans path.reaches).trans behind, named⟩

end Grammar

open Grammar

/-- The calls of the parser, with those made inside others, look at places of the text, on character
boundaries and none before the last.  Each clause leads to a later place, so the loop over the
clauses ends.  The message of an error names such a place. -/
theorem parse_positions (text : String) :
    let start : Cursor := ⟨0, text.toList⟩
    let run := Traced.clauses start
    run.result = parseClauses start ∧
      (∀ call, Made start call → call ∈ run.calls) ∧
      (∀ call ∈ run.calls, call.cursor.IsIn text ∧ call.cursor.offset ≤ text.utf8ByteSize ∧
        (String.Pos.Raw.mk call.cursor.offset).IsValid text) ∧
      run.calls.Pairwise (fun x y => x.cursor.offset ≤ y.cursor.offset ∧
        (x.procedure = .clause → y.procedure = .clause → x.cursor.offset < y.cursor.offset)) ∧
      Traced.clauseCalls run.calls ≤ text.length ∧
      (∀ c clause k, c.IsIn text → parseClause c = .ok (clause, k) →
        k.IsIn text ∧ c.offset < k.offset) ∧
      ∀ e, parseQueryString text = .error e →
        e.text = text ∧ Names e.reason e.fault.offset ∧ e.fault.offset ≤ text.utf8ByteSize ∧
          (String.Pos.Raw.mk e.fault.offset).IsValid text := by
  intro start run
  have ordered : Ordered start run.calls := Traced.clauses_ordered start
  refine ⟨Traced.clauses_result start, fun _ => Traced.clauses_made, fun call h => ?_, ?_, ?_,
    fun c clause k inside h => ?_, fun e h => ?_⟩
  · have inside := Cursor.isIn_iff.2 (ordered.reached call h)
    exact ⟨inside, inside.boundary⟩
  · exact ordered.pairwise.imp fun before => ⟨before.1.offset_le, before.2⟩
  · exact Nat.le_trans (Traced.clauseCalls_le start) (Nat.le_of_eq String.length_toList)
  · obtain ⟨path, moved⟩ := Traced.clause_path h
    exact ⟨Cursor.isIn_iff.2 ((Cursor.isIn_iff.1 inside).trans path.reaches), moved⟩
  · unfold parseQueryString at h
    split at h
    · cases h
    · rename_i fault fails
      cases h
      obtain ⟨place, behind, named⟩ := parseClauses_fault fails
      have boundary := (Cursor.isIn_iff.2 behind).boundary
      rw [← named] at boundary
      exact ⟨rfl, fault.message_names, boundary⟩

theorem parse_positions_operand :
    let start : Cursor := ⟨0, "é n:>x".toList⟩
    let next : Cursor := ⟨2, [' ', 'n', ':', '>', 'x']⟩
    let operand : Cursor := ⟨6, ['x']⟩
    let word : Query := .onField (.text "é" none none none none) "" none
    let e : GrammarError := ⟨"é n:>x", .missingOperand 6 "x"⟩
    (⟨.clause, start⟩ ∈ (Traced.clauses start).calls ∧ start.IsIn "é n:>x") ∧
      (⟨.operand, operand⟩ ∈ (Traced.clauses start).calls ∧ operand.IsIn "é n:>x") ∧
      (parseClause start = .ok ((.should, word), next) ∧ next.IsIn "é n:>x" ∧ 0 < 2) ∧
      parseQueryString "é n:>x" = .error e ∧
        e.reason = "expected a number or quoted date at offset 6, found 'x'" ∧
        Names e.reason 6 ∧ 6 ≤ "é n:>x".utf8ByteSize ∧
          (String.Pos.Raw.mk 6).IsValid "é n:>x" := by
  intro start next operand word e
  have first : parseClause (Cursor.skipBlank ⟨0, ['é', ' ', 'n', ':', '>', 'x']⟩) =
      .ok ((.should, word), next) := rfl
  have second : parseClause (Cursor.skipBlank ⟨2, [' ', 'n', ':', '>', 'x']⟩) =
      .error (.missingOperand 6 "x") := rfl
  have entered : Made start ⟨.clause, start⟩ := .clause (List.cons_ne_nil _ _)
  have made : Made start ⟨.operand, operand⟩ := by
    -- The second clause, its body, its atom, the value behind `n:` and the comparison.
    have clause : Made start ⟨.clause, ⟨3, ['n', ':', '>', 'x']⟩⟩ :=
      .later first (.clause (List.cons_ne_nil _ _))
    have atom : Made start ⟨.atom, ⟨3, ['n', ':', '>', 'x']⟩⟩ :=
      (clause.inside (.unsigned (by simp [Cursor.Avoids]))).inside .atom
    have value : Made start ⟨.value, ⟨5, ['>', 'x']⟩⟩ :=
      atom.inside (.value (by simp [Cursor.Avoids]) (List.cons_ne_nil 'n' []) rfl)
    exact (value.inside .above).inside (.strict (by simp [Cursor.Avoids]))
  have fails : parseClauses next = .error (.missingOperand 6 "x") := by
    rw [← Traced.clauses_result, Traced.clauses_error (by decide) second]
    rfl
  have clauses : parseClauses ⟨0, "é n:>x".toList⟩ = .error (.missingOperand 6 "x") := by
    refine (parseClauses_cons first).trans ?_
    rw [fails]
    rfl
  have read : parseQueryString "é n:>x" = .error e := by
    rw [parseQueryString, clauses]
  obtain ⟨-, calls, places, -, -, moved, named⟩ := parse_positions "é n:>x"
  have inside : start.IsIn "é n:>x" := (places _ (calls _ entered)).1
  exact ⟨⟨calls _ entered, inside⟩, ⟨calls _ made, (places _ (calls _ made)).1⟩,
    ⟨first, moved _ _ _ inside first⟩, read, rfl, (named e read).2⟩

end SearchQuery
