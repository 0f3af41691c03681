import SearchQuery.Proofs.Json.Scaling
import SearchQuery.Proofs.Text.Spans

/-!
# Reading the numbers of a document

The text that is written for a number is read as a number again: whole numbers come back as they
are, and a finite number of double precision gives one that need not be the same.
-/

set_option autoImplicit false
namespace SearchQuery.Json

def AreDigits (bytes : List UInt8) : Prop := ∀ b ∈ bytes, isDigitByte b = true

/-- What may follow a number: neither a digit nor a point nor an exponent. -/
def EndsNumber (tail : List UInt8) : Prop :=
  ∀ b ∈ tail.head?, isDigitByte b = false ∧ b ≠ 46 ∧ b ≠ 69 ∧ b ≠ 101

def NotDigit (tail : List UInt8) : Prop := ∀ b ∈ tail.head?, isDigitByte b = false

theorem EndsNumber.of_cons {b : UInt8} {rest tail : List UInt8} (h : EndsNumber tail)
    (first : tail = b :: rest) : isDigitByte b = false ∧ b ≠ 46 ∧ b ≠ 69 ∧ b ≠ 101 :=
  h b (by rw [first]; rfl)

theorem EndsNumber.notDigit {tail : List UInt8} (h : EndsNumber tail) : NotDigit tail :=
  fun b hb => (h b hb).1

theorem NotDigit.cons {b : UInt8} (h : isDigitByte b = false) (tail : List UInt8) :
    NotDigit (b :: tail) := by
  rintro c ⟨⟩
  exact h

def digitsOf (bytes : List UInt8) : List Nat := bytes.map fun b => b.toNat - 48

section Cursors
variable {ds tail : List UInt8}

theorem drop_rest (n : Nat) (c : Cursor) : ∃ p, c.drop n = ⟨c.rest.drop n, p⟩ := by
  induction n generalizing c with
  | zero => exact ⟨c.position, rfl⟩
  | succ n ih =>
    obtain ⟨p, h⟩ := ih c.next
    refine ⟨p, h.trans ?_⟩
    obtain ⟨rest, position⟩ := c
    cases rest with
    | nil => rw [Cursor.next, List.drop_nil, List.drop_nil]
    | cons b rest => rfl

theorem digits_append (hd : AreDigits ds) (stop : NotDigit tail) (p : Position) :
    (Cursor.mk (ds ++ tail) p).digits = digitsOf ds ∧
      ∃ p', (Cursor.mk (ds ++ tail) p).skipDigits = ⟨tail, p'⟩ := by
  have taken : (ds ++ tail).takeWhile isDigitByte = ds := takeWhile_append_stop hd stop
  constructor
  · rw [Cursor.digits, taken]
    rfl
  · obtain ⟨p', h⟩ := drop_rest ds.length ⟨ds ++ tail, p⟩
    refine ⟨p', ?_⟩
    rw [Cursor.skipDigits, taken, h, List.drop_left]

end Cursors

theorem exponentOverflow_of_lt {n : Nat} {digits : List Nat}
    (h : appendDigits n digits < 0x80000000) (count : Nat) :
    exponentOverflow digits n count = none := by
  induction digits generalizing n count with
  | nil => rfl
  | cons d digits ih =>
    have least := le_appendDigits (10 * n + d) digits
    have power : 0 < 10 ^ digits.length := Nat.pow_pos (by decide)
    have small : 10 * n + d < 0x80000000 :=
      Nat.lt_of_le_of_lt (Nat.le_trans (Nat.le_mul_of_pos_right _ power) least) h
    rw [exponentOverflow, if_neg (by omega)]
    exact ih h (count + 1)

/-- The step reads the bytes as a number, whatever follows them. -/
def ReadsReal (step : Cursor → Step Number) (bytes : List UInt8) : Prop :=
  ∃ x, ∀ tail, EndsNumber tail → ∀ p, ∃ p', step ⟨bytes ++ tail, p⟩ = .ok (.real x, ⟨tail, p'⟩)

theorem finishReal_eq {n : Nat} {e : Int} {y : Float} (h : scale 8 (Float.ofNat n) e = some y)
    (negative : Bool) (c : Cursor) :
    finishReal negative n e c = .ok (.real (if negative then -y else y), c) := by
  rw [finishReal, h]

def exponentAt (negative : Bool) (significand : Nat) (shift : Int) (down : Bool) (c : Cursor) :
    Step Number :=
  match c.rest with
  | [] => c.fail .endInValue
  | b :: _ =>
    if isDigitByte b then
      match exponentOverflow c.digits 0 0 with
      | some count =>
        if significand ≠ 0 ∧ !down then (c.drop count).fail .outOfRange
        else .ok (.real (if negative then -0.0 else 0.0), c.skipDigits)
      | none =>
        let e := c.digits.foldl (fun n d => 10 * n + d) 0
        finishReal negative significand (if down then shift - (e : Nat) else shift + (e : Nat))
          c.skipDigits
    else c.failAtNext .invalidNumber

theorem readExponent_sign (negative : Bool) (n : Nat) (shift : Int) (down : Bool)
    (r : List UInt8) (p : Position) : ∃ p', readExponent negative n shift
      ⟨101 :: (if down then 45 else 43) :: r, p⟩ = exponentAt negative n shift down ⟨r, p'⟩ := by
  cases down with
  | false => exact ⟨(p.advance 101).advance 43, rfl⟩
  | true => exact ⟨(p.advance 101).advance 45, rfl⟩

section Exponents
variable {ds : List UInt8} (hd : AreDigits ds) (some : ds ≠ []) (negative : Bool) (n : Nat)
  (shift : Int) (down : Bool)
include hd some

theorem exponentAt_digits {tail : List UInt8} (stop : NotDigit tail) (p : Position) :
    exponentAt negative n shift down ⟨ds ++ tail, p⟩ =
      match exponentOverflow (digitsOf ds) 0 0 with
      | .some count =>
        if n ≠ 0 ∧ !down then ((Cursor.mk (ds ++ tail) p).drop count).fail .outOfRange
        else .ok (.real (if negative then -0.0 else 0.0), (Cursor.mk (ds ++ tail) p).skipDigits)
      | none =>
        finishReal negative n (if down then shift - (appendDigits 0 (digitsOf ds) : Nat)
          else shift + (appendDigits 0 (digitsOf ds) : Nat))
          (Cursor.mk (ds ++ tail) p).skipDigits := by
  obtain ⟨b, r, first⟩ := List.ne_nil_iff_exists_cons.1 some
  have digit : isDigitByte b = true := hd b (by rw [first]; exact List.mem_cons_self)
  unfold exponentAt
  rw [(digits_append hd stop p).1]
  split
  · rename_i empty
    exact absurd (List.append_eq_nil_iff.1 empty).1 some
  · rename_i b' r' rest
    have same : b' = b := by
      have rest : ds ++ tail = b' :: r' := rest
      rw [first] at rest
      exact (List.cons.inj rest).1.symm
    rw [same, if_pos digit]
    rfl

theorem readExponent_reads (small : down = false → appendDigits 0 (digitsOf ds) < 0x80000000)
    (fits : ∃ y, scale 8 (Float.ofNat n) (if down then shift - (appendDigits 0 (digitsOf ds) : Nat)
      else shift + (appendDigits 0 (digitsOf ds) : Nat)) = .some y) :
    ReadsReal (readExponent negative n shift) (101 :: (if down then 45 else 43) :: ds) := by
  obtain ⟨y, fits⟩ := fits
  cases overflow : exponentOverflow (digitsOf ds) 0 0 with
  | none =>
    refine ⟨if negative then -y else y, fun tail ends p => ?_⟩
    obtain ⟨p₁, sign⟩ := readExponent_sign negative n shift down (ds ++ tail) p
    obtain ⟨-, p₂, behind⟩ := digits_append hd ends.notDigit p₁
    refine ⟨p₂, sign.trans ?_⟩
    rw [exponentAt_digits hd some negative n shift down ends.notDigit, overflow, behind]
    exact finishReal_eq fits negative _
  | some count =>
    -- Only an exponent far below zero is that long, and it makes the number zero.
    have isDown : down = true := by
      by_contra up
      rw [exponentOverflow_of_lt (small (Bool.eq_false_iff.2 up))] at overflow
      cases overflow
    refine ⟨if negative then -0.0 else 0.0, fun tail ends p => ?_⟩
    obtain ⟨p₁, sign⟩ := readExponent_sign negative n shift down (ds ++ tail) p
    obtain ⟨-, p₂, behind⟩ := digits_append hd ends.notDigit p₁
    refine ⟨p₂, sign.trans ?_⟩
    rw [exponentAt_digits hd some negative n shift down ends.notDigit, overflow, behind, isDown]
    simp

end Exponents

theorem readRealEnd_reads {n : Nat} {shift : Int} {rest : List UInt8} (negative : Bool)
    (h : (rest = [] ∧ ∃ y, scale 8 (Float.ofNat n) shift = some y) ∨
      (rest.head? = some 101 ∧ ReadsReal (readExponent negative n shift) rest)) :
    ReadsReal (readRealEnd negative n shift) rest := by
  rcases h with ⟨rfl, y, fits⟩ | ⟨letter, reads⟩
  · refine ⟨if negative then -y else y, fun tail ends p => ⟨p, ?_⟩⟩
    rw [List.nil_append]
    unfold readRealEnd
    split
    · rename_i capital
      exact absurd rfl (ends.of_cons capital).2.2.1
    · rename_i small
      exact absurd rfl (ends.of_cons small).2.2.2
    · exact finishReal_eq fits negative _
  · obtain ⟨x, reads⟩ := reads
    refine ⟨x, fun tail ends p => ?_⟩
    obtain ⟨r, rfl⟩ := List.head?_eq_some_iff.1 letter
    exact reads tail ends p

theorem readPlaces_reads {places rest : List UInt8} (hp : AreDigits places) (some : places ≠ [])
    (stop : rest = [] ∨ rest.head? = .some 101) {n : Nat} {shift : Int} {negative : Bool}
    (reads : ReadsReal (readRealEnd negative (gather n (digitsOf places)).1
      (shift - (places.length - (gather n (digitsOf places)).2 : Nat))) rest) :
    ReadsReal (readPlaces negative n shift) (46 :: places ++ rest) := by
  obtain ⟨x, reads⟩ := reads
  refine ⟨x, fun tail ends p => ?_⟩
  have notDigit : NotDigit (rest ++ tail) := by
    rcases stop with rfl | letter
    · exact ends.notDigit
    · obtain ⟨r, rfl⟩ := List.head?_eq_some_iff.1 letter
      exact .cons (by decide) _
  obtain ⟨read, p₁, behind⟩ := digits_append hp notDigit (p.advance 46)
  obtain ⟨p₂, result⟩ := reads tail ends p₁
  refine ⟨p₂, ?_⟩
  have next : Cursor.next ⟨46 :: places ++ rest ++ tail, p⟩ =
      ⟨places ++ (rest ++ tail), p.advance 46⟩ := by
    rw [List.append_assoc]
    rfl
  have nonempty : (digitsOf places).isEmpty = false := by
    rw [List.isEmpty_eq_false_iff]
    intro empty
    exact some (List.map_eq_nil_iff.1 empty)
  have count : (digitsOf places).length = places.length := List.length_map _
  unfold readPlaces
  rw [next]
  dsimp only
  rw [read, nonempty, behind, if_neg Bool.false_ne_true, count]
  exact result

/-- The digits of a whole number: a zero stands first only if it stands alone. -/
structure IsWhole (whole : List UInt8) : Prop where
  digits : AreDigits whole
  lead : whole = [48] ∨ whole.head? ≠ some 48
  some : whole ≠ []

def behindWhole (negative : Bool) (n dropped : Nat) (c : Cursor) : Step Number :=
  match c.rest with
  | 46 :: _ => readPlaces negative n dropped c
  | 69 :: _ => readExponent negative n dropped c
  | 101 :: _ => readExponent negative n dropped c
  | _ => if dropped = 0 then .ok (wholeNumber negative n, c) else finishReal negative n dropped c

theorem readNumber_whole {whole tail : List UInt8} (h : IsWhole whole) (stop : NotDigit tail)
    (negative : Bool) (p : Position) : ∃ p', readNumber negative ⟨whole ++ tail, p⟩ =
      behindWhole negative (gather 0 (digitsOf whole)).1 (gather 0 (digitsOf whole)).2
        ⟨tail, p'⟩ := by
  obtain ⟨read, p', behind⟩ := digits_append h.digits stop p
  obtain ⟨b, r, first⟩ := List.ne_nil_iff_exists_cons.1 h.some
  have digit : isDigitByte b = true := h.digits b (by rw [first]; exact List.mem_cons_self)
  have lead : ¬(b = 48 ∧ isDigitByte ((r ++ tail).headD 0) = true) := by
    rintro ⟨rfl, more⟩
    rcases h.lead with alone | other
    · rw [first] at alone
      obtain ⟨-, rfl⟩ := List.cons.inj alone
      cases tail with
      | nil => exact absurd more (by decide)
      | cons c tail =>
        have other : isDigitByte c = false := stop c rfl
        rw [List.nil_append, List.headD_cons, other] at more
        cases more
    · rw [first] at other
      exact other rfl
  refine ⟨p', ?_⟩
  unfold readNumber
  split
  · rename_i empty
    exact absurd (List.append_eq_nil_iff.1 empty).1 h.some
  · rename_i b' more rest
    have rest : whole ++ tail = b' :: more := rest
    rw [first, List.cons_append] at rest
    obtain ⟨rfl, rfl⟩ := List.cons.inj rest
    rw [if_neg lead, if_pos digit, read, behind]
    rfl

theorem readNumber_reads {whole rest : List UInt8} {b : UInt8} (h : IsWhole whole)
    (stop : isDigitByte b = false) {negative : Bool}
    (reads : ReadsReal (behindWhole negative (gather 0 (digitsOf whole)).1
      (gather 0 (digitsOf whole)).2) (b :: rest)) :
    ReadsReal (readNumber negative) (whole ++ b :: rest) := by
  obtain ⟨x, reads⟩ := reads
  refine ⟨x, fun tail ends p => ?_⟩
  obtain ⟨p₁, behind⟩ := readNumber_whole h (NotDigit.cons stop (rest ++ tail)) negative p
  obtain ⟨p₂, result⟩ := reads tail ends p₁
  rw [List.append_assoc]
  exact ⟨p₂, behind.trans result⟩

theorem readNumber_integer {whole tail : List UInt8} (h : IsWhole whole) (ends : EndsNumber tail)
    {n : Nat} (value : appendDigits 0 (digitsOf whole) = n) (small : n < 2 ^ 64) (negative : Bool)
    (p : Position) : ∃ p', readNumber negative ⟨whole ++ tail, p⟩ =
      .ok (wholeNumber negative n, ⟨tail, p'⟩) := by
  obtain ⟨p', read⟩ := readNumber_whole h ends.notDigit negative p
  rw [gather_of_lt (by rwa [value]), value] at read
  refine ⟨p', read.trans ?_⟩
  unfold behindWhole
  split
  · rename_i point
    exact absurd rfl (ends.of_cons point).2.1
  · rename_i capital
    exact absurd rfl (ends.of_cons capital).2.2.1
  · rename_i small
    exact absurd rfl (ends.of_cons small).2.2.2
  · rfl

end SearchQuery.Json
